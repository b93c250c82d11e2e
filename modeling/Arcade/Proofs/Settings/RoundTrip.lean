/-
**Settings are read back.**

The settings of a server are written as a value, and read back from its text whatever their names,
numbers and programs are. The object may also be a different one: fields that have their default
value may be left out, fields and catalog entries may come in any order, and unknown fields may
stand among them. But nothing is made up for a catalog entry: one whose rate is out of range, or
that lacks a field, spoils the settings as a whole.

* `Settings.spelled_of_varies`: an object that is varied in this way spells out the settings;
* `Settings.fails_of_spoiled`: one bad catalog entry is enough for settings not to be read;
* `Settings.read_back`: all of this, for texts and for values.
-/

import Arcade.Proofs.Settings.Spelling

namespace Arcade

open Json

/-! ### Variations -/

/-- Whether fields are the given ones and some that are not known, in any order. -/
def Json.Rearranges (known : List String) (kept fields : List (String × Tree)) : Prop :=
  ∃ unknown, fields.Perm (kept ++ unknown) ∧
    ∀ field ∈ unknown, field.1 ∉ known ∧ field.2.isComplete = true

/-- Whether an object has the fields of a catalog entry in any order, and perhaps others. -/
def RomEntry.Varies (entry : RomEntry) (tree : Tree) : Prop :=
  ∃ fields, tree = .object (keyed fields) true ∧
    Rearranges names (fieldTrees entry.fields) fields

/-- Whether an object has the entries of a catalog in any order. -/
def Catalog.Varies (catalog : Catalog) (tree : Tree) : Prop :=
  ∃ fields, tree = .object (keyed fields) true ∧
    (namesOf fields).Perm (namesOf catalog.entries) ∧
    ∀ field ∈ fields, ∃ entry, (field.1, entry) ∈ catalog.entries ∧ entry.Varies field.2

/-- Whether an object has the fields of some settings in any order, and perhaps others, and lacks
none but some that have their default value. -/
def Settings.Varies (settings : Settings) (tree : Tree) : Prop :=
  ∃ fields kept, tree = .object (keyed fields) true ∧ Rearranges names kept fields ∧
    (namesOf kept).Sublist names ∧
    (∀ field ∈ kept, field.1 = "roms" ∧ Catalog.Varies settings.roms field.2 ∨
      field.1 ≠ "roms" ∧ ∃ value, (field.1, value) ∈ settings.fields ∧ field.2 = value.tree) ∧
    ∀ name ∈ names, name ∉ namesOf kept → settings.IsDefault name

theorem RomEntry.spelled_of_varies {entry : RomEntry} {tree : Tree} (varies : entry.Varies tree) :
    entry.IsSpelled tree := by
  obtain ⟨fields, rfl, unknown, perm, others⟩ := varies
  have all : namesOf (fieldTrees entry.fields) = names := rfl
  refine ⟨fields, rfl, Spells.of_perm (by decide) perm (all ▸ List.Sublist.refl _)
    (fun field member => ?_) others fun name known absent => absent (all ▸ known)⟩
  obtain ⟨given, found, rfl⟩ := List.mem_map.mp member
  exact ⟨given.2, found, rfl⟩

theorem Catalog.spelled_of_varies {catalog : Catalog} {tree : Tree} (varies : Varies catalog tree) :
    IsSpelled catalog tree := by
  obtain ⟨fields, rfl, perm, each⟩ := varies
  refine ⟨fields, rfl, fun field member => ?_, fun name found =>
    perm.mem_iff.mpr (catalog.mem_namesOf found)⟩
  obtain ⟨entry, stands, varied⟩ := each field member
  exact ⟨entry, catalog.lookup?_of_mem stands, entry.spelled_of_varies varied⟩

/-- **An object that is varied spells out the settings.** -/
theorem Settings.spelled_of_varies {settings : Settings} {tree : Tree}
    (varies : settings.Varies tree) : settings.IsSpelled tree := by
  obtain ⟨fields, kept, rfl, ⟨unknown, perm, others⟩, names, each, dropped⟩ := varies
  refine ⟨fields, rfl, Spells.of_perm (by decide) perm names (fun field member => ?_) others
    dropped⟩
  unfold Fits
  rcases each field member with ⟨catalog, varied⟩ | ⟨other, given⟩
  · rw [if_pos catalog]
    exact Catalog.spelled_of_varies varied
  · rw [if_neg other]
    exact given

/-! ### Values -/

namespace Json

/-- An object is read in full if each of its fields is. -/
theorem Value.exists_ofTree_object {depth : Nat} {entries : List (String × Value)}
    (inside : 0 < depth)
    (each : ∀ entry ∈ entries, ∃ value, Value.ofTree (depth - 1) entry.2.tree = .ok value) :
    ∃ value, Value.ofTree depth (Value.object entries).tree = .ok value := by
  have fields : ∀ field ∈ fieldTrees entries,
      ∃ value, Value.ofTree (depth - 1) field.2 = .ok value := by
    intro field member
    obtain ⟨entry, found, rfl⟩ := List.mem_map.mp member
    exact each entry found
  obtain ⟨values, read⟩ := Value.exists_ofEntries fields []
  refine ⟨.object values, ?_⟩
  rw [Value.tree, entryTrees_eq, Value.ofTree, if_neg (Nat.ne_of_gt inside), read]
  rfl

theorem entriesExact_of_forall {entries : List (String × Value)}
    (each : ∀ entry ∈ entries, entry.2.IsExact) : EntriesExact entries := by
  induction entries with
  | nil => trivial
  | cons entry rest ih =>
    obtain ⟨exact, others⟩ := List.forall_mem_cons.mp each
    exact ⟨exact, ih others⟩

/-- **It is enough to know how a payload may be spelled**: the text of its own value is read
directly, and so is the value that is read from the text. -/
theorem isReadBack_of_spelled {α : Type} {value : Value} {read : Origin → Tree → Reading α}
    {payload : α} (exact : value.IsExact) {spelled : Tree → Prop} (own : spelled value.tree)
    (reads : ∀ tree, spelled tree → ∀ origin, read origin tree = .ok payload)
    (keeps : ∀ kept, Value.ofTree depthLimit value.tree = .ok kept → spelled kept.tree)
    (fits : ∃ kept, Value.ofTree depthLimit value.tree = .ok kept) :
    IsReadBack value read payload := by
  refine ⟨(readText_render exact).trans (reads _ own .text), ?_⟩
  obtain ⟨kept, read⟩ := fits
  rw [readThroughValue, Value.ofText, document_render exact, read]
  exact reads _ (keeps kept read) .value

end Json

theorem RomEntry.isExact_value (entry : RomEntry) : entry.value.IsExact :=
  ⟨trivial, entry.frameRate.isExact_value, entry.cyclesPerFrame.isExact_value, trivial⟩

theorem RomEntry.exists_ofTree (entry : RomEntry) {depth : Nat} (inside : 0 < depth) :
    ∃ value, Value.ofTree depth entry.value.tree = .ok value :=
  Value.exists_ofTree_object inside fun field member =>
    ⟨field.2, Value.ofTree_of_isScalar (entry.isScalar_of_mem_fields member) _⟩

theorem RomEntry.isReadBack (entry : RomEntry) :
    IsReadBack entry.value RomEntry.read entry :=
  isReadBack_of_spelled entry.isExact_value entry.spelled_value
    (fun _ spelled => read_of_spelled spelled) (fun _ => spelled_of_ofTree entry.spelled_value)
    (entry.exists_ofTree (by decide))

theorem Catalog.isExact_value (catalog : Catalog) : catalog.value.IsExact := by
  refine entriesExact_of_forall fun field member => ?_
  obtain ⟨entry, -, rfl⟩ := List.mem_map.mp member
  exact entry.2.isExact_value

theorem Catalog.exists_ofTree (catalog : Catalog) {depth : Nat} (inside : 1 < depth) :
    ∃ value, Value.ofTree depth catalog.value.tree = .ok value := by
  refine Value.exists_ofTree_object (Nat.lt_of_succ_lt inside) fun field member => ?_
  obtain ⟨entry, -, rfl⟩ := List.mem_map.mp member
  exact entry.2.exists_ofTree (Nat.sub_pos_of_lt inside)

theorem Settings.isExact_value (settings : Settings) : settings.value.IsExact := by
  have word (number : UInt64) : (Value.natural number.toNat).IsExact :=
    isExact_natural number.toNat_lt
  have name : (nameValue settings.defaultRom).IsExact := by
    cases settings.defaultRom <;> exact trivial
  exact ⟨word _, word _, word _, word _, word _, trivial, name,
    Catalog.isExact_value settings.roms, trivial⟩

theorem Settings.isReadBack (settings : Settings) :
    IsReadBack settings.value Settings.read settings := by
  refine isReadBack_of_spelled settings.isExact_value settings.spelled_value
    (fun _ spelled => read_of_spelled spelled) (fun _ => spelled_of_ofTree settings.spelled_value)
    (Value.exists_ofTree_object (by decide) fun field member => ?_)
  obtain ⟨name, value⟩ := field
  by_cases catalog : name = "roms"
  · subst catalog
    rw [settings.eq_of_mem_roms member]
    exact Catalog.exists_ofTree settings.roms (by decide)
  · exact ⟨value, Value.ofTree_of_isScalar (isScalar_of_mem_fields catalog member) _⟩

/-! ### Bad catalog entries -/

/-- Whether a number is a rate: a positive integer of thirty-two bits. -/
def Json.Number.IsRate (number : Number) : Prop :=
  ∃ value : Int, number = .integer value ∧ 0 < value ∧ value ≤ 4294967295

/-- Whether a tree is that of a catalog entry that lacks a field, or one of whose rates is a number
that is no rate. -/
inductive RomEntry.IsBad : Tree → Prop where
  | lacks {name : String} {fields : List (Option String × Tree)} {complete : Bool}
    (known : name ∈ names) (absent : ∀ field ∈ fields, field.1 ≠ some name) :
    IsBad (.object fields complete)
  | rate {name : String} {number : Number} {fields : List (Option String × Tree)}
    {complete : Bool} (named : name = "frameRate" ∨ name = "cyclesPerFrame")
    (given : (some name, .number number) ∈ fields) (outside : ¬ number.IsRate) :
    IsBad (.object fields complete)
  /-- An entry may be given as the array of its fields. -/
  | short {items : List Tree} {complete : Bool} (few : items.length < 3) :
    IsBad (.array items complete)
  | item {place : Nat} {number : Number} {items : List Tree} {complete : Bool}
    (placed : place = 1 ∨ place = 2) (given : items[place]? = some (.number number))
    (outside : ¬ number.IsRate) :
    IsBad (.array items complete)

/-- Whether settings have a bad catalog entry, whatever else they have. -/
inductive Settings.IsSpoiled : Tree → Prop where
  | field {name : String} {entry : Tree} {entries fields : List (Option String × Tree)}
    {closed complete : Bool} (bad : RomEntry.IsBad entry) (listed : (some name, entry) ∈ entries)
    (given : (some "roms", .object entries closed) ∈ fields) :
    IsSpoiled (.object fields complete)
  /-- Settings may be given as the array of their fields, of which the catalog is the last. -/
  | item {name : String} {entry : Tree} {entries : List (Option String × Tree)}
    {items : List Tree} {closed complete : Bool} (bad : RomEntry.IsBad entry)
    (listed : (some name, entry) ∈ entries) (given : items[7]? = some (.object entries closed)) :
    IsSpoiled (.array items complete)

namespace Json.Tree

variable {α : Type} {read : Tree → Reading α} {items : List Tree} {complete : Bool} {place : Nat}

/-- A field that does not fit is not read, whether or not it was read before. -/
theorem field_fails {tree : Tree} (before : Option α) (fails : Fails (read tree)) :
    Fails (Tree.field before read tree) := by
  cases before with
  | some data => exact ⟨_, rfl⟩
  | none => exact fails.bind _

/-- An item that does not fit is not read. -/
theorem item?_ne_ok {tree : Tree} (given : items[place]? = some tree) (fails : Fails (read tree))
    (found : Option α) : Tree.item? read items complete place ≠ .ok found := by
  unfold Tree.item?
  rw [given]
  exact (fails.bind _).ne_ok found

/-- An item that is missing is not there afterwards. -/
theorem item?_of_missing (missing : items[place]? = none) {found : Option α}
    (reads : Tree.item? read items complete place = .ok found) : found = none := by
  unfold Tree.item? at reads
  rw [missing] at reads
  simp only at reads
  split at reads <;> cases reads
  rfl

end Json.Tree

theorem Positive32.fails_of_not_isRate {number : Number} (outside : ¬ number.IsRate) :
    Fails (Positive32.read (.number number)) := by
  cases number with
  | decimal negative magnitude => exact ⟨_, rfl⟩
  | integer value =>
    cases value with
    | negSucc number => exact ⟨_, rfl⟩
    | ofNat number =>
      have range : ¬ (0 < number ∧ number < UInt32.size) := fun ⟨positive, small⟩ => by
        refine outside ⟨number, rfl, by omega, ?_⟩
        simp only [UInt32.size] at small
        omega
      have none : Positive32.ofNat? number = none := dif_neg range
      have whole : Tree.natural UInt32.size (.number (.integer (.ofNat number))) =
        if number < UInt32.size then .ok number else .error .mismatch := rfl
      rw [Positive32.read, whole]
      split
      · show Fails (Tree.required (Positive32.ofNat? number))
        rw [none]
        exact ⟨_, rfl⟩
      · exact ⟨_, rfl⟩

namespace PartialRomEntry

theorem take_keeps {entry next : PartialRomEntry} {name : String} {tree : Tree}
    (taken : entry.take name tree = some (.ok next)) :
    (name ≠ "path" → next.path = entry.path) ∧
      (name ≠ "frameRate" → next.frameRate = entry.frameRate) ∧
      (name ≠ "cyclesPerFrame" → next.cyclesPerFrame = entry.cyclesPerFrame) := by
  unfold take at taken
  split at taken
  · obtain ⟨path, -, same⟩ := exists_of_bind (Option.some.inj taken)
    cases same
    exact ⟨fun other => absurd rfl other, fun _ => rfl, fun _ => rfl⟩
  · obtain ⟨rate, -, same⟩ := exists_of_bind (Option.some.inj taken)
    cases same
    exact ⟨fun _ => rfl, fun other => absurd rfl other, fun _ => rfl⟩
  · obtain ⟨rate, -, same⟩ := exists_of_bind (Option.some.inj taken)
    cases same
    exact ⟨fun _ => rfl, fun _ => rfl, fun other => absurd rfl other⟩
  · cases taken

/-- A rate that is none is not taken. -/
theorem take_fails (entry : PartialRomEntry) {name : String} {number : Number}
    (named : name = "frameRate" ∨ name = "cyclesPerFrame") (outside : ¬ number.IsRate) :
    ∃ flaw, entry.take name (.number number) = some (.error flaw) := by
  have fails := Positive32.fails_of_not_isRate outside
  rcases named with rfl | rfl
  · obtain ⟨flaw, failed⟩ := Tree.field_fails entry.frameRate fails
    exact ⟨flaw, by simp only [take, failed]; rfl⟩
  · obtain ⟨flaw, failed⟩ := Tree.field_fails entry.cyclesPerFrame fails
    exact ⟨flaw, by simp only [take, failed]; rfl⟩

end PartialRomEntry

/-- **A bad catalog entry is not read.** -/
theorem RomEntry.fails_of_isBad {tree : Tree} (bad : RomEntry.IsBad tree) (origin : Origin) :
    Fails (RomEntry.read origin tree) := by
  refine fails_of_forall_ne fun entry read => ?_
  cases bad with
  | lacks known absent =>
    obtain ⟨found, reads, rest⟩ := exists_of_bind read
    obtain ⟨path, hasPath, rest⟩ := exists_of_bind rest
    obtain ⟨frameRate, hasFrameRate, rest⟩ := exists_of_bind rest
    obtain ⟨cyclesPerFrame, hasCyclesPerFrame, -⟩ := exists_of_bind rest
    simp only [names, List.mem_cons, List.not_mem_nil, or_false] at known
    rcases known with rfl | rfl | rfl
    · have kept : found.path = none := Tree.entries_keeps PartialRomEntry.path
        (fun _ _ _ _ other taken => (PartialRomEntry.take_keeps taken).1 other) absent reads
      rw [kept] at hasPath
      cases hasPath
    · have kept : found.frameRate = none := Tree.entries_keeps PartialRomEntry.frameRate
        (fun _ _ _ _ other taken => (PartialRomEntry.take_keeps taken).2.1 other) absent reads
      rw [kept] at hasFrameRate
      cases hasFrameRate
    · have kept : found.cyclesPerFrame = none := Tree.entries_keeps PartialRomEntry.cyclesPerFrame
        (fun _ _ _ _ other taken => (PartialRomEntry.take_keeps taken).2.2 other) absent reads
      rw [kept] at hasCyclesPerFrame
      cases hasCyclesPerFrame
  | rate named given outside =>
    obtain ⟨found, reads, -⟩ := exists_of_bind read
    exact (Tree.entries_error_of_mem given
      (fun entry => entry.take_fails named outside) _).ne_ok found reads
  | short few =>
    obtain ⟨path?, -, rest⟩ := exists_of_bind read
    obtain ⟨path, -, rest⟩ := exists_of_bind rest
    obtain ⟨frameRate?, -, rest⟩ := exists_of_bind rest
    obtain ⟨frameRate, -, rest⟩ := exists_of_bind rest
    obtain ⟨cyclesPerFrame?, reads, rest⟩ := exists_of_bind rest
    obtain ⟨cyclesPerFrame, given, -⟩ := exists_of_bind rest
    have missing := Tree.item?_of_missing (List.getElem?_eq_none (Nat.le_of_lt_succ few)) reads
    rw [missing] at given
    cases given
  | item placed given outside =>
    obtain ⟨path?, -, rest⟩ := exists_of_bind read
    obtain ⟨path, -, rest⟩ := exists_of_bind rest
    obtain ⟨frameRate?, first, rest⟩ := exists_of_bind rest
    obtain ⟨frameRate, -, rest⟩ := exists_of_bind rest
    obtain ⟨cyclesPerFrame?, second, -⟩ := exists_of_bind rest
    have fails := Positive32.fails_of_not_isRate outside
    rcases placed with rfl | rfl
    · exact Tree.item?_ne_ok given fails frameRate? first
    · exact Tree.item?_ne_ok given fails cyclesPerFrame? second

theorem Catalog.fails_of_mem {name : String} {entry : Tree} {entries : List (Option String × Tree)}
    {closed : Bool} (bad : RomEntry.IsBad entry) (listed : (some name, entry) ∈ entries)
    (origin : Origin) : Fails (Catalog.read origin (.object entries closed)) := by
  refine Tree.entries_error_of_mem listed (fun catalog => ?_) _
  obtain ⟨flaw, fails⟩ := (RomEntry.fails_of_isBad bad origin).bind
    fun entry => pure (NameTable.insert catalog name entry)
  exact ⟨flaw, congrArg some fails⟩

/-- **One bad catalog entry is enough for settings not to be read.** -/
theorem Settings.fails_of_spoiled {tree : Tree} (spoiled : Settings.IsSpoiled tree)
    (origin : Origin) : Fails (Settings.read origin tree) := by
  refine fails_of_forall_ne fun settings read => ?_
  cases spoiled with
  | field bad listed given =>
    obtain ⟨found, reads, -⟩ := exists_of_bind read
    refine (Tree.entries_error_of_mem given (fun state => ?_) _).ne_ok found reads
    obtain ⟨flaw, failed⟩ :=
      (Tree.field_fails state.roms (Catalog.fails_of_mem bad listed origin)).bind
        fun roms => pure { state with roms }
    exact ⟨flaw, congrArg some failed⟩
  | item bad listed given =>
    obtain ⟨maxSessions, -, rest⟩ := exists_of_bind read
    obtain ⟨idleSeconds, -, rest⟩ := exists_of_bind rest
    obtain ⟨sweepSeconds, -, rest⟩ := exists_of_bind rest
    obtain ⟨inputCapacity, -, rest⟩ := exists_of_bind rest
    obtain ⟨paramCapacity, -, rest⟩ := exists_of_bind rest
    obtain ⟨timerMode, -, rest⟩ := exists_of_bind rest
    obtain ⟨defaultRom, -, rest⟩ := exists_of_bind rest
    obtain ⟨roms, reads, -⟩ := exists_of_bind rest
    exact Tree.item?_ne_ok given (Catalog.fails_of_mem bad listed origin) roms reads

/-! ### Texts and values -/

/-- **Settings are read back, and no catalog entry is made up.** Settings are read from the text of
their value, directly and by way of a value, and so is a catalog entry. They are read as well from
any text that is a variation of it, and from the value of such a text. If a catalog entry is bad,
neither a text nor a value is read. -/
theorem Settings.read_back :
    (∀ settings : Settings, IsReadBack settings.value Settings.read settings) ∧
      (∀ entry : RomEntry, IsReadBack entry.value RomEntry.read entry) ∧
      (∀ (settings : Settings) (tree : Tree) (content : String), settings.Varies tree →
        Document.ofText content = ⟨tree, false⟩ →
          readText Settings.read content = .ok settings ∧
            ∀ value, Value.ofText content = .ok value →
              readValue Settings.read value = .ok settings) ∧
      (∀ content, Settings.IsSpoiled (Document.ofText content).tree →
        Fails (readText Settings.read content)) ∧
      ∀ value : Value, Settings.IsSpoiled value.tree → Fails (readValue Settings.read value) := by
  refine ⟨Settings.isReadBack, RomEntry.isReadBack, fun settings tree content varies text => ?_,
    fun content spoiled => (fails_of_spoiled spoiled .text).bind _,
    fun value spoiled => fails_of_spoiled spoiled .value⟩
  have spelled := spelled_of_varies varies
  refine ⟨?_, fun value read => ?_⟩
  · rw [readText, text]
    simp only [read_of_spelled spelled .text]
    rfl
  · rw [Value.ofText, text] at read
    obtain ⟨kept, reads, same⟩ := exists_of_bind read
    cases same
    exact read_of_spelled (spelled_of_ofTree spelled reads) .value

/-- Settings with a catalog of two, in an object that has them in another order and an unknown field
besides, and lacks what has its default value. A catalog entry without a rate spoils it. -/
theorem Settings.read_back_varied :
    let high : RomEntry := ⟨"high.ch8", ⟨60, by decide, by decide⟩, ⟨10, by decide, by decide⟩⟩
    let low : RomEntry := ⟨"low.ch8", ⟨30, by decide, by decide⟩, ⟨9, by decide, by decide⟩⟩
    let settings : Settings := { Settings.default with
      maxSessions := 4
      roms := ⟨[("high", high), ("low", low)], by decide⟩ }
    let turned : Value := .object [("colour", .null), ("cyclesPerFrame", .natural 9),
      ("frameRate", .natural 30), ("path", .text "low.ch8")]
    let varied : Value := .object [("comment", .array [.null, .boolean true]),
      ("roms", .object [("low", turned), ("high", high.value)]), ("max_sessions", .natural 4)]
    let spoiled : Value := .object [("roms", .object [("low", .object [
      ("path", .text "low.ch8"), ("frameRate", .natural 0), ("cyclesPerFrame", .natural 9)])])]
    settings.Varies varied.tree ∧ IsSpoiled spoiled.tree ∧
      readText Settings.read varied.render = .ok settings ∧
      (∀ value, Value.ofText varied.render = .ok value →
        readValue Settings.read value = .ok settings) ∧
      Fails (readText Settings.read spoiled.render) ∧ Fails (readValue Settings.read spoiled) := by
  intro high low settings turned varied spoiled
  obtain ⟨-, -, reads, refuses, refusesValue⟩ := Settings.read_back
  have lowVaries : low.Varies turned.tree :=
    ⟨(fieldTrees low.fields ++ [("colour", Tree.null)]).reverse, rfl, [("colour", .null)],
      List.reverse_perm _, by decide⟩
  have highVaries : high.Varies high.value.tree :=
    ⟨fieldTrees high.fields, rfl, [], by rw [List.append_nil], nofun⟩
  have catalogVaries : Catalog.Varies settings.roms
      (Value.object [("low", turned), ("high", high.value)]).tree := by
    refine ⟨[("low", turned.tree), ("high", high.value.tree)], rfl, by decide,
      fun field member => ?_⟩
    rcases List.mem_pair.mp member with rfl | rfl
    · exact ⟨low, by simp [settings], lowVaries⟩
    · exact ⟨high, by simp [settings], highVaries⟩
  have varies : settings.Varies varied.tree := by
    -- what is kept comes first in the order of settings, and the unknown field last
    refine ⟨[("max_sessions", _), ("roms", _), ("comment", _)].reverse,
      [("max_sessions", _), ("roms", _)], rfl, ⟨[("comment", _)], List.reverse_perm _, by decide⟩,
      by decide, fun field member => ?_, ?_⟩
    · rcases List.mem_pair.mp member with rfl | rfl
      · exact .inr ⟨by decide, .natural 4, List.mem_cons_self, rfl⟩
      · exact .inl ⟨rfl, catalogVaries⟩
    · intro name known absent
      simp only [names, List.mem_cons, List.not_mem_nil, or_false] at known
      rcases known with rfl | rfl | rfl | rfl | rfl | rfl | rfl | rfl <;>
        first | rfl | exact absurd (by decide) absent
  have zero : ¬ Number.IsRate (.integer 0) := by
    rintro ⟨value, same, positive, -⟩
    cases same
    exact absurd positive (by decide)
  have bad : IsSpoiled spoiled.tree :=
    .field (.rate (.inl rfl) (List.mem_cons_of_mem _ List.mem_cons_self) zero) List.mem_cons_self
      List.mem_cons_self
  have exact : varied.IsExact :=
    ⟨⟨trivial, trivial, trivial⟩,
      ⟨⟨trivial, isExact_natural (by decide), isExact_natural (by decide), trivial, trivial⟩,
        high.isExact_value, trivial⟩,
      isExact_natural (by decide), trivial⟩
  have spoiledExact : spoiled.IsExact :=
    ⟨⟨⟨trivial, isExact_natural (by decide), isExact_natural (by decide), trivial⟩, trivial⟩,
      trivial⟩
  obtain ⟨text, value⟩ := reads settings varied.tree varied.render varies (document_render exact)
  refine ⟨varies, bad, text, value, refuses _ ?_, refusesValue spoiled bad⟩
  rw [document_render spoiledExact]
  exact bad

/-- What is left out has its default value, and what is unknown is passed over. -/
example :
    (readText Settings.read
      "\x7b\"other\": [1.5, null], \"roms\": \x7b\x7d, \"max_sessions\": 4\x7d").toOption.map
      (fun settings => (settings.maxSessions, settings.idleSeconds)) = some (4, 300) := by
  decide +kernel

end Arcade
