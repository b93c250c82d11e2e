/-
**The fields of an object in any order.**

Typed data is read from an object field by field. If each field that is known is given once at most,
what is read is determined by which fields there are, and their order and the unknown ones among
them do not matter (`Tree.entries_of_spells`). One known field that does not fit is enough for the
whole object not to fit (`Tree.entries_error_of_mem`), and what no field sets stays as it was
(`Tree.entries_keeps`).

A value that was read in full holds its fields in the order of their names; it has the fields of the
object that it was read from (`Value.fields_ofEntries`).
-/

import Arcade.Json.Reading
import Mathlib.Data.List.Nodup

namespace Arcade.Json

/-- The entries of an object whose keys are well-formed. -/
def keyed (fields : List (String × Tree)) : List (Option String × Tree) :=
  fields.map fun field => (some field.1, field.2)

/-- The names of some fields. -/
def namesOf {α : Type} (fields : List (String × α)) : List String := fields.map Prod.fst

/-- Whether fields spell out some data: each known field is given once at most and as it should be,
each unknown one can be passed over, and each known one that is not given can be spared. -/
structure Spells (known : List String) (fits : String → Tree → Prop) (spared : String → Prop)
    (fields : List (String × Tree)) : Prop where
  fits : ∀ field ∈ fields, field.1 ∈ known → fits field.1 field.2
  once : ∀ name ∈ known, (namesOf fields).count name ≤ 1
  passed : ∀ field ∈ fields, field.1 ∉ known → field.2.isComplete = true
  spared : ∀ name ∈ known, name ∉ namesOf fields → spared name

/-- **The order of fields does not matter, and neither do unknown ones.** Some of the known fields
are kept; the others can be spared. -/
theorem Spells.of_perm {known : List String} {fits : String → Tree → Prop} {spared : String → Prop}
    {fields kept unknown : List (String × Tree)} (different : known.Nodup)
    (perm : fields.Perm (kept ++ unknown)) (names : (namesOf kept).Sublist known)
    (each : ∀ field ∈ kept, fits field.1 field.2)
    (others : ∀ field ∈ unknown, field.1 ∉ known ∧ field.2.isComplete = true)
    (dropped : ∀ name ∈ known, name ∉ namesOf kept → spared name) :
    Spells known fits spared fields := by
  have found {field : String × Tree} (member : field ∈ fields) : field ∈ kept ∨ field ∈ unknown :=
    List.mem_append.mp (perm.mem_iff.mp member)
  have inside {field : String × Tree} (member : field ∈ kept) : field.1 ∈ known :=
    names.subset (List.mem_map_of_mem member)
  have renamed : (namesOf fields).Perm (namesOf kept ++ namesOf unknown) := by
    rw [namesOf, namesOf, namesOf, ← List.map_append]
    exact perm.map Prod.fst
  refine ⟨fun field member isKnown => ?_, fun name isKnown => ?_, fun field member isUnknown => ?_,
    fun name isKnown absent => dropped name isKnown fun there => absent ?_⟩
  · rcases found member with old | new
    · exact each field old
    · exact absurd isKnown (others field new).1
  · have elsewhere : name ∉ namesOf unknown := by
      intro there
      obtain ⟨field, new, rfl⟩ := List.mem_map.mp there
      exact (others field new).1 isKnown
    rw [renamed.count_eq, List.count_append, List.count_eq_zero.mpr elsewhere, Nat.add_zero]
    exact Nat.le_trans (names.count_le name) (List.nodup_iff_count_le_one.mp different name)
  · rcases found member with old | new
    · exact absurd (inside old) isUnknown
    · exact (others field new).2
  · exact renamed.mem_iff.mpr (List.mem_append_left _ there)

/-- Whether nothing could be read. -/
def Fails {α : Type} (reading : Reading α) : Prop := ∃ flaw, reading = .error flaw

theorem Fails.bind {α β : Type} {reading : Reading α} (fails : Fails reading)
    (next : α → Reading β) : Fails (reading >>= next) := by
  obtain ⟨flaw, rfl⟩ := fails
  exact ⟨flaw, rfl⟩

theorem fails_of_forall_ne {α : Type} {reading : Reading α}
    (never : ∀ data, reading ≠ .ok data) : Fails reading := by
  cases reading with
  | error flaw => exact ⟨flaw, rfl⟩
  | ok data => exact absurd rfl (never data)

theorem Fails.ne_ok {α : Type} {reading : Reading α} (fails : Fails reading) (data : α) :
    reading ≠ .ok data := by
  obtain ⟨flaw, rfl⟩ := fails
  exact nofun

theorem exists_of_bind {α β : Type} {reading : Reading α} {next : α → Reading β} {data : β}
    (read : (reading >>= next) = .ok data) :
    ∃ between, reading = .ok between ∧ next between = .ok data := by
  cases reading with
  | error flaw => cases read
  | ok between => exact ⟨between, rfl, read⟩

namespace Tree

variable {σ : Type} {take : σ → String → Tree → Option (Reading σ)}

theorem entries_take {complete : Bool} {state next : σ} {name : String} {tree : Tree}
    {rest : List (Option String × Tree)} (taken : take state name tree = some (.ok next)) :
    Tree.entries take complete state ((some name, tree) :: rest) =
      Tree.entries take complete next rest := by
  rw [Tree.entries, taken]
  rfl

theorem entries_pass {complete : Bool} {state : σ} {name : String} {tree : Tree}
    {rest : List (Option String × Tree)} (unknown : take state name tree = none)
    (passed : tree.isComplete = true) :
    Tree.entries take complete state ((some name, tree) :: rest) =
      Tree.entries take complete state rest := by
  rw [Tree.entries, unknown, Tree.skip, if_pos passed]
  rfl

/-- **What is read is determined by which fields there are.** The data is given as a function of the
names that were read already; no name is read again. -/
theorem entries_of_fields {known : List String} {fits : String → Tree → Prop}
    {data : (String → Bool) → σ}
    (takes : ∀ read name tree, name ∈ known → read name = false → fits name tree →
      take (data read) name tree = some (.ok (data fun other => other == name || read other)))
    (passes : ∀ state name tree, name ∉ known → take state name tree = none)
    (fields : List (String × Tree)) (read : String → Bool)
    (each : ∀ field ∈ fields, field.1 ∈ known → fits field.1 field.2)
    (once : ∀ name ∈ known, (namesOf fields).count name ≤ 1)
    (fresh : ∀ name ∈ known, name ∈ namesOf fields → read name = false)
    (passed : ∀ field ∈ fields, field.1 ∉ known → field.2.isComplete = true) :
    ∃ last, Tree.entries take true (data read) (keyed fields) = .ok (data last) ∧
      ∀ name ∈ known, (last name = true ↔ read name = true ∨ name ∈ namesOf fields) := by
  induction fields generalizing read with
  | nil => exact ⟨read, rfl, fun name _ => by simp [namesOf]⟩
  | cons field rest ih =>
    obtain ⟨name, tree⟩ := field
    obtain ⟨here, there⟩ := List.forall_mem_cons.mp each
    obtain ⟨skipped, others⟩ := List.forall_mem_cons.mp passed
    have fewer : ∀ other ∈ known, (namesOf rest).count other ≤ 1 := fun other member =>
      Nat.le_trans (List.count_le_count_cons ..) (once other member)
    by_cases member : name ∈ known
    · have unread : read name = false := fresh name member List.mem_cons_self
      have absent : name ∉ namesOf rest := by
        have count := once name member
        rw [show namesOf ((name, tree) :: rest) = name :: namesOf rest from rfl,
          List.count_cons_self] at count
        exact List.count_eq_zero.mp (by omega)
      have still : ∀ other ∈ known, other ∈ namesOf rest →
          (other == name || read other) = false := by
        intro other inside later
        have differs : other ≠ name := fun same => absent (same ▸ later)
        rw [Bool.or_eq_false_iff]
        exact ⟨beq_false_of_ne differs, fresh other inside (List.mem_cons_of_mem _ later)⟩
      obtain ⟨last, reads, tells⟩ := ih _ there fewer still others
      refine ⟨last, (entries_take (takes read name tree member unread (here member))).trans reads,
        fun other inside => ?_⟩
      rw [tells other inside, Bool.or_eq_true, beq_iff_eq,
        show namesOf ((name, tree) :: rest) = name :: namesOf rest from rfl, List.mem_cons]
      tauto
    · obtain ⟨last, reads, tells⟩ := ih read there fewer
        (fun other inside later => fresh other inside (List.mem_cons_of_mem _ later)) others
      refine ⟨last, (entries_pass (passes _ _ _ member) (skipped member)).trans reads,
        fun other inside => ?_⟩
      have differs : other ≠ name := fun same => member (same ▸ inside)
      rw [tells other inside, show namesOf ((name, tree) :: rest) = name :: namesOf rest from rfl,
        List.mem_cons]
      tauto

/-- **Fields that spell out some data are read in any order.** -/
theorem entries_of_spells {known : List String} {fits : String → Tree → Prop}
    {spared : String → Prop} {data : (String → Bool) → σ} {fields : List (String × Tree)}
    (takes : ∀ read name tree, name ∈ known → read name = false → fits name tree →
      take (data read) name tree = some (.ok (data fun other => other == name || read other)))
    (passes : ∀ state name tree, name ∉ known → take state name tree = none)
    (spells : Spells known fits spared fields) :
    ∃ last, Tree.entries take true (data fun _ => false) (keyed fields) = .ok (data last) ∧
      ∀ name ∈ known, last name = false → spared name := by
  obtain ⟨last, reads, tells⟩ := entries_of_fields takes passes fields (fun _ => false) spells.fits
    spells.once (fun _ _ _ => rfl) spells.passed
  refine ⟨last, reads, fun name member unread => spells.spared name member fun inside => ?_⟩
  rw [(tells name member).mpr (.inr inside)] at unread
  cases unread

/-- **One field that does not fit is enough** for an object not to fit. -/
theorem entries_error_of_mem {complete : Bool} {name : String} {tree : Tree}
    {fields : List (Option String × Tree)} (member : (some name, tree) ∈ fields)
    (fails : ∀ state, ∃ flaw, take state name tree = some (.error flaw)) (state : σ) :
    Fails (Tree.entries take complete state fields) := by
  induction fields generalizing state with
  | nil => cases member
  | cons field rest ih =>
    obtain ⟨key, value⟩ := field
    rcases List.mem_cons.mp member with same | later
    · cases same
      obtain ⟨flaw, fails⟩ := fails state
      exact ⟨flaw, by rw [Tree.entries, fails]; rfl⟩
    · cases key with
      | none => exact ⟨.malformed, rfl⟩
      | some key =>
        rw [Tree.entries]
        cases take state key value with
        | none =>
          cases value.skip with
          | error flaw => exact ⟨flaw, rfl⟩
          | ok passed => exact ih later state
        | some taken =>
          cases taken with
          | error flaw => exact ⟨flaw, rfl⟩
          | ok next => exact ih later next

/-- **What no field sets stays as it was.** -/
theorem entries_keeps {β : Type} (part : σ → β) {name : String}
    (keeps : ∀ state other tree next, other ≠ name → take state other tree = some (.ok next) →
      part next = part state)
    {complete : Bool} {fields : List (Option String × Tree)}
    (absent : ∀ field ∈ fields, field.1 ≠ some name) {state final : σ}
    (read : Tree.entries take complete state fields = .ok final) : part final = part state := by
  induction fields generalizing state with
  | nil =>
    rw [Tree.entries] at read
    split at read
    · cases read
      rfl
    · cases read
  | cons field rest ih =>
    obtain ⟨key, value⟩ := field
    obtain ⟨here, there⟩ := List.forall_mem_cons.mp absent
    cases key with
    | none => cases read
    | some key =>
      have differs : key ≠ name := fun same => here (congrArg some same)
      rw [Tree.entries] at read
      cases takes : take state key value with
      | none =>
        rw [takes] at read
        cases skips : value.skip with
        | error flaw =>
          rw [skips] at read
          cases read
        | ok passed =>
          rw [skips] at read
          exact ih there read
      | some taken =>
        rw [takes] at read
        cases taken with
        | error flaw => cases read
        | ok next => exact (ih there read).trans (keeps state key value next differs takes)

end Tree

/-! ### Fields of values -/

mutual

/-- What was read in full can be passed over. -/
theorem Value.isComplete_tree : (value : Value) → value.tree.isComplete = true
  | .null | .boolean _ | .number _ | .text _ => rfl
  | .array items => by
    rw [Value.tree, Tree.isComplete, Value.allComplete_itemTrees items]
    rfl
  | .object entries => by
    rw [Value.tree, Tree.isComplete, Value.entriesComplete_entryTrees entries]
    rfl

theorem Value.allComplete_itemTrees : (items : List Value) →
    Tree.allComplete (itemTrees items) = true
  | [] => rfl
  | item :: rest => by
    rw [itemTrees, Tree.allComplete, Value.isComplete_tree item, Value.allComplete_itemTrees rest]
    rfl

theorem Value.entriesComplete_entryTrees : (entries : List (String × Value)) →
    Tree.entriesComplete (entryTrees entries) = true
  | [] => rfl
  | (_, value) :: rest => by
    rw [entryTrees, Tree.entriesComplete, Value.isComplete_tree value,
      Value.entriesComplete_entryTrees rest]
    rfl

end

/-- The fields of an object, each with its tree. -/
def fieldTrees (entries : List (String × Value)) : List (String × Tree) :=
  entries.map fun entry => (entry.1, entry.2.tree)

theorem entryTrees_eq (entries : List (String × Value)) :
    entryTrees entries = keyed (fieldTrees entries) := by
  induction entries with
  | nil => rfl
  | cons entry rest ih =>
    rw [entryTrees, ih]
    rfl

theorem namesOf_fieldTrees (entries : List (String × Value)) :
    namesOf (fieldTrees entries) = namesOf entries := by
  simp [namesOf, fieldTrees]

theorem mem_insertEntry {α : Type} {key : String} {value : α} {entries : List (String × α)}
    {entry : String × α} (member : entry ∈ insertEntry key value entries) :
    entry = (key, value) ∨ entry ∈ entries := by
  induction entries with
  | nil => exact .inl (List.mem_singleton.mp member)
  | cons other rest ih =>
    rw [insertEntry] at member
    split at member
    · exact List.mem_cons.mp member
    · split at member
      · exact (List.mem_cons.mp member).imp id (List.mem_cons_of_mem _)
      · rcases List.mem_cons.mp member with rfl | later
        · exact .inr List.mem_cons_self
        · exact (ih later).imp id (List.mem_cons_of_mem _)

theorem mem_namesOf_insertEntry {α : Type} {key name : String} {value : α}
    {entries : List (String × α)} :
    name ∈ namesOf (insertEntry key value entries) ↔ name = key ∨ name ∈ namesOf entries := by
  refine ⟨mem_keys_insertEntry key value entries, fun either => ?_⟩
  induction entries with
  | nil => simpa [namesOf, insertEntry] using either
  | cons other rest ih =>
    rw [insertEntry]
    simp only [namesOf, List.map_cons, List.mem_cons] at either ih
    split
    · simpa [namesOf] using either
    · split
      · rename_i same
        rw [← same] at either
        simp only [namesOf, List.map_cons, List.mem_cons]
        tauto
      · simp only [namesOf, List.map_cons, List.mem_cons]
        tauto

/-- **A value has the fields of the object it was read from**, in the order of their names. -/
theorem Value.fields_ofEntries {depth : Nat} {fields : List (String × Tree)}
    {before values : List (String × Value)}
    (read : Value.ofEntries depth before (keyed fields) = .ok values)
    (sorted : (namesOf before).Pairwise (· < ·)) :
    (namesOf values).Pairwise (· < ·) ∧
      (∀ entry ∈ values, entry ∈ before ∨
        ∃ tree, (entry.1, tree) ∈ fields ∧ Value.ofTree depth tree = .ok entry.2) ∧
      ∀ name, name ∈ namesOf values ↔ name ∈ namesOf before ∨ name ∈ namesOf fields := by
  induction fields generalizing before with
  | nil =>
    cases read
    exact ⟨sorted, fun entry member => .inl member, fun name => by simp [namesOf]⟩
  | cons field rest ih =>
    obtain ⟨name, tree⟩ := field
    rw [show keyed ((name, tree) :: rest) = (some name, tree) :: keyed rest from rfl,
      Value.ofEntries] at read
    cases reads : Value.ofTree depth tree with
    | error flaw =>
      rw [reads] at read
      cases read
    | ok value =>
      rw [reads] at read
      obtain ⟨ordered, each, names⟩ := ih read (sorted_insertEntry name value sorted)
      refine ⟨ordered, fun entry member => ?_, fun other => ?_⟩
      · rcases each entry member with old | ⟨tree, later, reads⟩
        · rcases mem_insertEntry old with rfl | old
          · exact .inr ⟨tree, List.mem_cons_self, reads⟩
          · exact .inl old
        · exact .inr ⟨tree, List.mem_cons_of_mem _ later, reads⟩
      · rw [names, mem_namesOf_insertEntry]
        simp only [namesOf, List.map_cons, List.mem_cons]
        tauto

/-- An object is read in full if each of its fields is. -/
theorem Value.exists_ofEntries {depth : Nat} {fields : List (String × Tree)}
    (each : ∀ field ∈ fields, ∃ value, Value.ofTree depth field.2 = .ok value)
    (before : List (String × Value)) :
    ∃ values, Value.ofEntries depth before (keyed fields) = .ok values := by
  induction fields generalizing before with
  | nil => exact ⟨before, rfl⟩
  | cons field rest ih =>
    obtain ⟨name, tree⟩ := field
    obtain ⟨⟨value, reads⟩, others⟩ := List.forall_mem_cons.mp each
    obtain ⟨values, read⟩ := ih others (insertEntry name value before)
    refine ⟨values, ?_⟩
    rw [show keyed ((name, tree) :: rest) = (some name, tree) :: keyed rest from rfl,
      Value.ofEntries, reads]
    exact read

/-- **What is spelled out is so by the value that was read from it**, if each known field is. -/
theorem Spells.ofEntries {known : List String} {fits : String → Tree → Prop}
    {spared : String → Prop} {depth : Nat} {fields : List (String × Tree)}
    {values : List (String × Value)} (spells : Spells known fits spared fields)
    (read : Value.ofEntries depth [] (keyed fields) = .ok values)
    (keeps : ∀ name tree value, fits name tree → Value.ofTree depth tree = .ok value →
      fits name value.tree) :
    Spells known fits spared (fieldTrees values) := by
  obtain ⟨sorted, each, names⟩ := Value.fields_ofEntries read List.Pairwise.nil
  have same : ∀ name, name ∈ namesOf (fieldTrees values) ↔ name ∈ namesOf fields := by
    intro name
    rw [namesOf_fieldTrees, names]
    simp [namesOf]
  refine ⟨fun field member inside => ?_, fun name _ => ?_, fun field member _ => ?_,
    fun name inside absent => spells.spared name inside (mt (same name).mpr absent)⟩
  · obtain ⟨entry, found, rfl⟩ := List.mem_map.mp member
    rcases each entry found with none | ⟨tree, given, reads⟩
    · cases none
    · exact keeps _ tree _ (spells.fits _ given inside) reads
  · rw [namesOf_fieldTrees]
    exact List.nodup_iff_count_le_one.mp (sorted.imp fun less => String.ne_of_lt less) name
  · obtain ⟨entry, -, rfl⟩ := List.mem_map.mp member
    exact entry.2.isComplete_tree

end Arcade.Json
