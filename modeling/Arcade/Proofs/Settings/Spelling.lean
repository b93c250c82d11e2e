/-
**How settings may be spelled.**

Settings are spelled out by an object with their fields, in any order and with others among them; a
field may be left out if it has its default value. The catalog is spelled out by an object with an
entry under each of its names, in any order, and each entry by an object with its three fields, none
of which may be left out. However settings are spelled, they are read (`Settings.read_of_spelled`),
and they are spelled as well by the value that was read from a spelling
(`Settings.spelled_of_ofTree`).
-/

import Arcade.Proofs.Json.Entries
import Arcade.Proofs.Message.RoundTrip
import Arcade.Settings.Json

namespace Arcade

open Json

/-! ### Scalars -/

theorem TimerMode.read_tree (mode : TimerMode) (origin : Origin) :
    TimerMode.read origin mode.value.tree = .ok mode := by
  show Tree.required (TimerMode.ofName? mode.name) = _
  rw [TimerMode.ofName?_name]
  rfl

/-- Whether a value is no container, and is a number that can be kept if it is one. -/
def Json.Value.IsScalar : Value → Prop
  | .number value => value.isFinite = true
  | .null | .boolean _ | .text _ => True
  | .array _ | .object _ => False

/-- A scalar is read in full whatever it stands in. -/
theorem Json.Value.ofTree_of_isScalar {value : Value} (scalar : value.IsScalar) (depth : Nat) :
    Value.ofTree depth value.tree = .ok value := by
  cases value with
  | number value => exact if_pos scalar
  | null | boolean _ | text _ => rfl
  | array _ | object _ => cases scalar

theorem Json.Value.ofTree_object_eq_ok {depth : Nat} {entries : List (Option String × Tree)}
    {value : Value} (read : Value.ofTree depth (.object entries true) = .ok value) :
    ∃ values, Value.ofEntries (depth - 1) [] entries = .ok values ∧ value = .object values := by
  rw [Value.ofTree] at read
  split at read
  · cases read
  · cases inside : Value.ofEntries (depth - 1) [] entries with
    | error flaw =>
      rw [inside] at read
      cases read
    | ok values =>
      rw [inside] at read
      cases read
      exact ⟨values, rfl, rfl⟩

/-! ### Catalog entries -/

namespace RomEntry

/-- The fields of a catalog entry. -/
def fields (entry : RomEntry) : List (String × Value) :=
  [("path", .text entry.path), ("frameRate", entry.frameRate.value),
    ("cyclesPerFrame", entry.cyclesPerFrame.value)]

theorem value_eq (entry : RomEntry) : entry.value = .object entry.fields := rfl

/-- The names of a catalog entry's fields. -/
def names : List String := ["path", "frameRate", "cyclesPerFrame"]

/-- Whether a tree is that of a catalog entry's field. -/
def Fits (entry : RomEntry) (name : String) (tree : Tree) : Prop :=
  ∃ value, (name, value) ∈ entry.fields ∧ tree = value.tree

/-- Whether a tree spells out a catalog entry. -/
def IsSpelled (entry : RomEntry) (tree : Tree) : Prop :=
  ∃ fields, tree = .object (keyed fields) true ∧
    Spells names entry.Fits (fun _ => False) fields

variable (entry : RomEntry)

theorem isScalar_of_mem_fields {name : String} {value : Value}
    (member : (name, value) ∈ entry.fields) : value.IsScalar := by
  simp only [fields, List.mem_cons, List.not_mem_nil, or_false, Prod.mk.injEq] at member
  rcases member with ⟨-, rfl⟩ | ⟨-, rfl⟩ | ⟨-, rfl⟩
  · exact trivial
  · exact rfl
  · exact rfl

end RomEntry

namespace PartialRomEntry

/-- A catalog entry of which the given fields were read. -/
def of (entry : RomEntry) (read : String → Bool) : PartialRomEntry where
  path := if read "path" then some entry.path else none
  frameRate := if read "frameRate" then some entry.frameRate else none
  cyclesPerFrame := if read "cyclesPerFrame" then some entry.cyclesPerFrame else none

theorem take_of (entry : RomEntry) (read : String → Bool) (name : String) (tree : Tree)
    (known : name ∈ RomEntry.names) (unread : read name = false) (fits : entry.Fits name tree) :
    (of entry read).take name tree =
      some (.ok (of entry fun other => other == name || read other)) := by
  obtain ⟨value, member, rfl⟩ := fits
  simp only [RomEntry.names, List.mem_cons, List.not_mem_nil, or_false] at known
  rcases known with rfl | rfl | rfl
  · obtain rfl : value = .text entry.path := by simpa [RomEntry.fields] using member
    simp [take, of, unread, Tree.field, Value.tree, Tree.string]
  · obtain rfl : value = entry.frameRate.value := by simpa [RomEntry.fields] using member
    simp [take, of, unread, Tree.field, Positive32.read_tree]
  · obtain rfl : value = entry.cyclesPerFrame.value := by simpa [RomEntry.fields] using member
    simp [take, of, unread, Tree.field, Positive32.read_tree]

theorem take_of_unknown (entry : PartialRomEntry) (name : String) (tree : Tree)
    (unknown : name ∉ RomEntry.names) : entry.take name tree = none := by
  simp only [RomEntry.names, List.mem_cons, List.not_mem_nil, or_false, not_or] at unknown
  unfold take
  split <;> simp_all

end PartialRomEntry

/-- **A catalog entry is read however it is spelled.** -/
theorem RomEntry.read_of_spelled {entry : RomEntry} {tree : Tree} (spelled : entry.IsSpelled tree)
    (origin : Origin) : RomEntry.read origin tree = .ok entry := by
  obtain ⟨fields, rfl, spells⟩ := spelled
  obtain ⟨last, reads, spared⟩ := Tree.entries_of_spells (PartialRomEntry.take_of entry)
    PartialRomEntry.take_of_unknown spells
  have given : ∀ name ∈ names, last name = true := fun name member =>
    Bool.of_not_eq_false fun absent => spared name member absent
  have nothing : PartialRomEntry.of entry (fun _ => false) = ⟨none, none, none⟩ := rfl
  rw [nothing] at reads
  rw [RomEntry.read, reads]
  simp only [bind, Except.bind, PartialRomEntry.of, given "path" (by decide),
    given "frameRate" (by decide), given "cyclesPerFrame" (by decide), if_true, Tree.required]
  rfl

/-- A catalog entry is spelled out by its own value. -/
theorem RomEntry.spelled_value (entry : RomEntry) : entry.IsSpelled entry.value.tree := by
  refine ⟨fieldTrees entry.fields, by rw [entry.value_eq, Value.tree, entryTrees_eq], ?_⟩
  have all : namesOf (fieldTrees entry.fields) = names := rfl
  refine Spells.of_perm (by decide) (List.Perm.of_eq (List.append_nil _).symm)
    (all ▸ List.Sublist.refl _) (fun field member => ?_) (List.forall_mem_nil _)
    fun name known absent => absent (all ▸ known)
  obtain ⟨given, found, rfl⟩ := List.mem_map.mp member
  exact ⟨given.2, found, rfl⟩

/-- A catalog entry is spelled out by the value that was read from its spelling. -/
theorem RomEntry.spelled_of_ofTree {entry : RomEntry} {tree : Tree} {value : Value} {depth : Nat}
    (spelled : entry.IsSpelled tree) (read : Value.ofTree depth tree = .ok value) :
    entry.IsSpelled value.tree := by
  obtain ⟨fields, rfl, spells⟩ := spelled
  obtain ⟨values, inside, rfl⟩ := Value.ofTree_object_eq_ok read
  refine ⟨fieldTrees values, by rw [Value.tree, entryTrees_eq], spells.ofEntries inside ?_⟩
  rintro name tree value ⟨field, member, rfl⟩ reads
  rw [Value.ofTree_of_isScalar (entry.isScalar_of_mem_fields member)] at reads
  cases reads
  exact ⟨_, member, rfl⟩

/-! ### Catalogs -/

/-- What stands in a table is found under its name. -/
theorem NameTable.lookup?_of_mem {α : Type} (table : NameTable α) {name : String} {value : α}
    (member : (name, value) ∈ table.entries) : table.lookup? name = some value := by
  obtain ⟨entries, sorted⟩ := table
  show entries.lookup name = some value
  induction entries with
  | nil => cases member
  | cons entry rest ih =>
    obtain ⟨below, others⟩ := List.pairwise_cons.mp sorted
    rcases List.mem_cons.mp member with rfl | later
    · exact List.lookup_cons_self
    · have less : entry.1 < name := below name (List.mem_map_of_mem later)
      have differs : (name == entry.1) = false := beq_false_of_ne (String.ne_of_lt less).symm
      rw [List.lookup_cons, differs]
      exact ih others later

/-- What is found in a table stands there under its name. -/
theorem NameTable.mem_namesOf {α : Type} (table : NameTable α) {name : String}
    (found : (table.lookup? name).isSome) : name ∈ namesOf table.entries := by
  refine Decidable.byContradiction fun absent => ?_
  rw [NameTable.lookup?, lookup_eq_none_of_not_mem absent] at found
  cases found

namespace Catalog

/-- Whether a tree spells out a catalog: some entry stands under each of its names, and under no
other. -/
def IsSpelled (catalog : Catalog) (tree : Tree) : Prop :=
  ∃ fields, tree = .object (keyed fields) true ∧
    (∀ field ∈ fields, ∃ entry, catalog.lookup? field.1 = some entry ∧ entry.IsSpelled field.2) ∧
    ∀ name, (catalog.lookup? name).isSome → name ∈ namesOf fields

variable {catalog : Catalog} {tree : Tree}

theorem entries_of_spelled (origin : Origin) {fields : List (String × Tree)}
    (spelled : ∀ field ∈ fields,
      ∃ entry, catalog.lookup? field.1 = some entry ∧ entry.IsSpelled field.2)
    (table : Catalog) :
    ∃ last : Catalog,
      Tree.entries (fun catalog name value => some do
        return NameTable.insert catalog name (← RomEntry.read origin value)) true table
          (keyed fields) = .ok last ∧
      ∀ name, last.lookup? name =
        if name ∈ namesOf fields then catalog.lookup? name else table.lookup? name := by
  induction fields generalizing table with
  | nil => exact ⟨table, rfl, fun name => (if_neg List.not_mem_nil).symm⟩
  | cons field rest ih =>
    obtain ⟨name, tree⟩ := field
    obtain ⟨⟨entry, found, here⟩, there⟩ := List.forall_mem_cons.mp spelled
    obtain ⟨last, reads, tells⟩ := ih there (table.insert name entry)
    refine ⟨last, ?_, fun other => ?_⟩
    · refine (Tree.entries_take ?_).trans reads
      rw [RomEntry.read_of_spelled here origin]
      rfl
    · rw [tells, NameTable.lookup_insert,
        show namesOf ((name, tree) :: rest) = name :: namesOf rest from rfl]
      by_cases later : other ∈ namesOf rest
      · rw [if_pos later, if_pos (List.mem_cons_of_mem _ later)]
      · rw [if_neg later]
        by_cases same : other = name
        · rw [if_pos same, if_pos (same ▸ List.mem_cons_self), same]
          exact found.symm
        · rw [if_neg same, if_neg fun member => (List.mem_cons.mp member).elim same later]

/-- **A catalog is read however it is spelled.** -/
theorem read_of_spelled (spelled : catalog.IsSpelled tree) (origin : Origin) :
    Catalog.read origin tree = .ok catalog := by
  obtain ⟨fields, rfl, each, all⟩ := spelled
  obtain ⟨last, reads, tells⟩ := entries_of_spelled origin each NameTable.empty
  rw [Catalog.read, reads]
  refine congrArg Except.ok (NameTable.ext_lookup fun name => ?_)
  rw [tells]
  split
  · rfl
  · rename_i absent
    have none : catalog.lookup? name = none :=
      Option.not_isSome_iff_eq_none.mp (mt (all name) absent)
    exact none.symm

theorem spelled_value (catalog : Catalog) : catalog.IsSpelled catalog.value.tree := by
  refine ⟨fieldTrees (catalog.entries.map fun entry => (entry.1, entry.2.value)),
    congrArg (Tree.object · true) (entryTrees_eq _), fun field member => ?_, fun name found => ?_⟩
  · obtain ⟨given, inside, rfl⟩ := List.mem_map.mp member
    obtain ⟨⟨name, entry⟩, there, rfl⟩ := List.mem_map.mp inside
    exact ⟨entry, catalog.lookup?_of_mem there, entry.spelled_value⟩
  · have same : namesOf (catalog.entries.map fun entry => (entry.1, entry.2.value)) =
        namesOf catalog.entries := by
      simp [namesOf]
    rw [namesOf_fieldTrees, same]
    exact catalog.mem_namesOf found

theorem spelled_of_ofTree {value : Value} {depth : Nat} (spelled : catalog.IsSpelled tree)
    (read : Value.ofTree depth tree = .ok value) : catalog.IsSpelled value.tree := by
  obtain ⟨fields, rfl, each, all⟩ := spelled
  obtain ⟨values, inside, rfl⟩ := Value.ofTree_object_eq_ok read
  obtain ⟨-, members, names⟩ := Value.fields_ofEntries inside List.Pairwise.nil
  refine ⟨fieldTrees values, by rw [Value.tree, entryTrees_eq], fun field member => ?_,
    fun name found => ?_⟩
  · obtain ⟨given, found, rfl⟩ := List.mem_map.mp member
    rcases members given found with none | ⟨tree, there, reads⟩
    · cases none
    · obtain ⟨entry, known, spelled⟩ := each _ there
      exact ⟨entry, known, RomEntry.spelled_of_ofTree spelled reads⟩
  · rw [namesOf_fieldTrees, names]
    exact .inr (all name found)

end Catalog

/-! ### Settings -/

namespace Settings

/-- The value of a name that may be absent. -/
def nameValue : Option String → Value
  | some name => .text name
  | none => .null

theorem read_nameValue (name : Option String) :
    Tree.optional Tree.string (nameValue name).tree = .ok name := by
  cases name <;> rfl

/-- The fields of settings. -/
def fields (settings : Settings) : List (String × Value) := [
  ("max_sessions", .natural settings.maxSessions.toNat),
  ("idle_ttl_secs", .natural settings.idleSeconds.toNat),
  ("sweep_interval_secs", .natural settings.sweepSeconds.toNat),
  ("input_queue_capacity", .natural settings.inputCapacity.toNat),
  ("param_queue_capacity", .natural settings.paramCapacity.toNat),
  ("timer_mode", settings.timerMode.value),
  ("default_rom", nameValue settings.defaultRom),
  ("roms", settings.roms.value)]

theorem value_eq (settings : Settings) : settings.value = .object settings.fields := rfl

/-- The names of the fields of settings. -/
def names : List String :=
  ["max_sessions", "idle_ttl_secs", "sweep_interval_secs", "input_queue_capacity",
    "param_queue_capacity", "timer_mode", "default_rom", "roms"]

/-- Whether a tree is that of a field of settings. Only the catalog can be spelled in several
ways. -/
def Fits (settings : Settings) (name : String) (tree : Tree) : Prop :=
  if name = "roms" then settings.roms.IsSpelled tree
  else ∃ value, (name, value) ∈ settings.fields ∧ tree = value.tree

/-- Whether a field of settings has its default value. -/
def IsDefault (settings : Settings) (name : String) : Prop :=
  settings.fields.lookup name = default.fields.lookup name

/-- Whether a tree spells out settings. -/
def IsSpelled (settings : Settings) (tree : Tree) : Prop :=
  ∃ fields, tree = .object (keyed fields) true ∧
    Spells names settings.Fits settings.IsDefault fields

variable {settings : Settings} {tree : Tree}

theorem isScalar_of_mem_fields {name : String} {value : Value} (other : name ≠ "roms")
    (member : (name, value) ∈ settings.fields) : value.IsScalar := by
  simp only [fields, List.mem_cons, List.not_mem_nil, or_false, Prod.mk.injEq] at member
  rcases member with ⟨-, rfl⟩ | ⟨-, rfl⟩ | ⟨-, rfl⟩ | ⟨-, rfl⟩ | ⟨-, rfl⟩ | ⟨-, rfl⟩ | ⟨-, rfl⟩ |
    ⟨rfl, -⟩
  case inr.inr.inr.inr.inr.inr.inl => cases settings.defaultRom <;> exact trivial
  case inr.inr.inr.inr.inr.inr.inr => exact absurd rfl other
  all_goals first | exact rfl | exact trivial

theorem eq_of_mem_roms (settings : Settings) {value : Value}
    (member : ("roms", value) ∈ settings.fields) : value = settings.roms.value := by
  simpa [fields] using member

theorem word_tree (word : UInt64) :
    PartialSettings.readWord (Value.natural word.toNat).tree = .ok word := by
  rw [PartialSettings.readWord, natural_tree word.toNat_lt]
  exact congrArg Except.ok UInt64.ofNat_toNat

end Settings

namespace PartialSettings

/-- Settings of which the given fields were read. -/
def of (settings : Settings) (read : String → Bool) : PartialSettings where
  maxSessions := if read "max_sessions" then some settings.maxSessions else none
  idleSeconds := if read "idle_ttl_secs" then some settings.idleSeconds else none
  sweepSeconds := if read "sweep_interval_secs" then some settings.sweepSeconds else none
  inputCapacity := if read "input_queue_capacity" then some settings.inputCapacity else none
  paramCapacity := if read "param_queue_capacity" then some settings.paramCapacity else none
  timerMode := if read "timer_mode" then some settings.timerMode else none
  defaultRom := if read "default_rom" then some settings.defaultRom else none
  roms := if read "roms" then some settings.roms else none

theorem take_of (origin : Origin) (settings : Settings) (read : String → Bool) (name : String)
    (tree : Tree) (known : name ∈ Settings.names) (unread : read name = false)
    (fits : settings.Fits name tree) :
    take origin (of settings read) name tree =
      some (.ok (of settings fun other => other == name || read other)) := by
  by_cases catalog : name = "roms"
  · subst catalog
    have reads : Catalog.read origin tree = .ok settings.roms :=
      Catalog.read_of_spelled (by simpa [Settings.Fits] using fits) origin
    simp [take, of, unread, Tree.field, reads]
  rw [Settings.Fits, if_neg catalog] at fits
  obtain ⟨value, member, rfl⟩ := fits
  simp only [Settings.names, List.mem_cons, List.not_mem_nil, or_false] at known
  rcases known with rfl | rfl | rfl | rfl | rfl | rfl | rfl | rfl
  case inr.inr.inr.inr.inr.inr.inr => exact absurd rfl catalog
  all_goals
    simp only [Settings.fields, List.mem_cons, List.not_mem_nil, or_false, Prod.mk.injEq,
      String.reduceEq, false_and, true_and, false_or] at member
    subst member
    simp [take, of, unread, Tree.field, Settings.word_tree, TimerMode.read_tree,
      Settings.read_nameValue]

theorem take_of_unknown (origin : Origin) (settings : PartialSettings) (name : String)
    (tree : Tree) (unknown : name ∉ Settings.names) : take origin settings name tree = none := by
  simp only [Settings.names, List.mem_cons, List.not_mem_nil, or_false, not_or] at unknown
  unfold take
  split <;> simp_all

/-- Settings of which every field was read that has not its default value are complete. -/
theorem complete_of {settings : Settings} {read : String → Bool}
    (spared : ∀ name ∈ Settings.names, read name = false → settings.IsDefault name) :
    (of settings read).complete = settings := by
  have word {one two : UInt64} (same : Value.natural one.toNat = .natural two.toNat) : one = two :=
    Except.ok.inj ((Settings.word_tree one).symm.trans (same ▸ Settings.word_tree two))
  have mode {one two : TimerMode} (same : one.value = two.value) : one = two :=
    Except.ok.inj ((one.read_tree .text).symm.trans (same ▸ two.read_tree .text))
  have catalog {one two : Catalog} (same : one.value = two.value) : one = two :=
    Except.ok.inj ((Catalog.read_of_spelled one.spelled_value .text).symm.trans
      (same ▸ Catalog.read_of_spelled two.spelled_value .text))
  have given {α : Type} (name : String) {own usual : α} (known : name ∈ Settings.names)
      (same : settings.IsDefault name → own = usual) :
      (if read name then some own else none).getD usual = own := by
    cases present : read name with
    | true => rfl
    | false => exact (same (spared name known present)).symm
  have text {one two : Option String} (same : Settings.nameValue one = Settings.nameValue two) :
      one = two :=
    Except.ok.inj ((Settings.read_nameValue one).symm.trans (same ▸ Settings.read_nameValue two))
  have maxSessions := given "max_sessions" (by decide) fun same => word (Option.some.inj same)
  have idleSeconds := given "idle_ttl_secs" (by decide) fun same => word (Option.some.inj same)
  have sweepSeconds :=
    given "sweep_interval_secs" (by decide) fun same => word (Option.some.inj same)
  have inputCapacity :=
    given "input_queue_capacity" (by decide) fun same => word (Option.some.inj same)
  have paramCapacity :=
    given "param_queue_capacity" (by decide) fun same => word (Option.some.inj same)
  have timerMode := given "timer_mode" (by decide) fun same => mode (Option.some.inj same)
  have defaultRom := given "default_rom" (by decide) fun same => text (Option.some.inj same)
  have roms := given "roms" (by decide) fun same => catalog (Option.some.inj same)
  simp only [complete, of, maxSessions, idleSeconds, sweepSeconds, inputCapacity, paramCapacity,
    timerMode, defaultRom, roms]

end PartialSettings

namespace Settings

variable {settings : Settings} {tree : Tree}

theorem spelled_value (settings : Settings) : settings.IsSpelled settings.value.tree := by
  have all : namesOf (fieldTrees settings.fields) = names := rfl
  refine ⟨fieldTrees settings.fields, by rw [settings.value_eq, Value.tree, entryTrees_eq], ?_⟩
  refine Spells.of_perm (by decide) (List.Perm.of_eq (List.append_nil _).symm)
    (all ▸ List.Sublist.refl _) (fun field member => ?_) (List.forall_mem_nil _)
    fun name known absent => absurd (all ▸ known) absent
  obtain ⟨⟨name, value⟩, found, rfl⟩ := List.mem_map.mp member
  rw [Fits]
  split
  · rename_i catalog
    obtain rfl : name = "roms" := catalog
    rw [settings.eq_of_mem_roms found]
    exact Catalog.spelled_value settings.roms
  · exact ⟨value, found, rfl⟩

/-- **Settings are read however they are spelled.** -/
theorem read_of_spelled (spelled : settings.IsSpelled tree) (origin : Origin) :
    Settings.read origin tree = .ok settings := by
  obtain ⟨fields, rfl, spells⟩ := spelled
  obtain ⟨last, reads, spared⟩ := Tree.entries_of_spells (PartialSettings.take_of origin settings)
    (PartialSettings.take_of_unknown origin) spells
  have nothing : PartialSettings.of settings (fun _ => false) = PartialSettings.nothing := rfl
  rw [nothing] at reads
  rw [Settings.read, reads]
  exact congrArg Except.ok (PartialSettings.complete_of spared)

/-- **Settings are spelled out by the value that was read from a spelling of theirs.** -/
theorem spelled_of_ofTree {value : Value} {depth : Nat} (spelled : settings.IsSpelled tree)
    (read : Value.ofTree depth tree = .ok value) : settings.IsSpelled value.tree := by
  obtain ⟨fields, rfl, spells⟩ := spelled
  obtain ⟨values, inside, rfl⟩ := Value.ofTree_object_eq_ok read
  refine ⟨fieldTrees values, by rw [Value.tree, entryTrees_eq], spells.ofEntries inside ?_⟩
  intro name tree value fits reads
  unfold Fits at fits ⊢
  split
  · rename_i catalog
    rw [if_pos catalog] at fits
    exact Catalog.spelled_of_ofTree fits reads
  · rename_i other
    rw [if_neg other] at fits
    obtain ⟨field, member, rfl⟩ := fits
    rw [Value.ofTree_of_isScalar (isScalar_of_mem_fields other member)] at reads
    cases reads
    exact ⟨_, member, rfl⟩

end Settings

end Arcade
