/-
**Entries in the order of their keys.**

A list of entries with strictly rising keys is the only such list with its entries. An entry is put
in where its key belongs, in place of one with the same key.

* `sorted_insertEntry`: putting an entry in keeps the order;
* `lookup_insertEntry`: afterwards it is found under its key, and the others are found as before;
* `sorted_eraseEntry` and `lookup_eraseEntry`: the same for taking an entry out;
* `eq_of_lookup_eq`: lists in order that answer every look-up alike are equal.
-/

namespace Arcade

/-- Puts an entry into a list that is in the order of its keys; an entry with the same key is
replaced. -/
def insertEntry {α : Type} (key : String) (value : α) : List (String × α) → List (String × α)
  | [] => [(key, value)]
  | (other, kept) :: rest =>
    if key < other then (key, value) :: (other, kept) :: rest
    else if key = other then (key, value) :: rest
    else (other, kept) :: insertEntry key value rest

/-- Takes the entry with a key out of a list. -/
def eraseEntry {α : Type} (key : String) (entries : List (String × α)) : List (String × α) :=
  entries.filter fun entry => entry.1 != key

variable {α : Type}

theorem mem_keys_insertEntry (key : String) (value : α) (entries : List (String × α))
    {name : String} (member : name ∈ (insertEntry key value entries).map Prod.fst) :
    name = key ∨ name ∈ entries.map Prod.fst := by
  induction entries with
  | nil => simpa [insertEntry] using member
  | cons entry rest ih =>
    obtain ⟨other, kept⟩ := entry
    unfold insertEntry at member
    split at member
    · simpa using member
    · split at member
      · rcases List.mem_cons.mp (by simpa only [List.map_cons] using member) with same | inRest
        · exact .inl same
        · exact .inr (List.mem_cons_of_mem _ inRest)
      · rcases List.mem_cons.mp (by simpa only [List.map_cons] using member) with same | inRest
        · exact .inr (by simp [same])
        · rcases ih inRest with same | old
          · exact .inl same
          · exact .inr (List.mem_cons_of_mem _ old)

theorem sorted_insertEntry (key : String) (value : α) {entries : List (String × α)}
    (sorted : (entries.map Prod.fst).Pairwise (· < ·)) :
    ((insertEntry key value entries).map Prod.fst).Pairwise (· < ·) := by
  induction entries with
  | nil => simp [insertEntry]
  | cons entry rest ih =>
    obtain ⟨other, kept⟩ := entry
    rw [List.map_cons, List.pairwise_cons] at sorted
    obtain ⟨below, sortedRest⟩ := sorted
    unfold insertEntry
    split
    · rename_i less
      rw [List.map_cons, List.pairwise_cons, List.map_cons]
      refine ⟨?_, List.pairwise_cons.mpr ⟨below, sortedRest⟩⟩
      intro name member
      rcases List.mem_cons.mp member with same | inRest
      · exact same ▸ less
      · exact String.lt_trans less (below name inRest)
    · rename_i notLess
      split
      · rename_i same
        subst same
        exact List.pairwise_cons.mpr ⟨below, sortedRest⟩
      · rename_i different
        rw [List.map_cons, List.pairwise_cons]
        refine ⟨?_, ih sortedRest⟩
        intro name member
        rcases mem_keys_insertEntry key value rest member with same | inRest
        · subst same
          have atMost : other ≤ name := String.not_lt.mp notLess
          by_cases less : other < name
          · exact less
          · exact absurd (String.le_antisymm (String.not_lt.mp less) atMost) different
        · exact below name inRest

theorem lookup_insertEntry (key other : String) (value : α) (entries : List (String × α)) :
    (insertEntry key value entries).lookup other =
      if other = key then some value else entries.lookup other := by
  induction entries with
  | nil =>
    by_cases same : other = key
    · simp [insertEntry, same]
    · have differs : (other == key) = false := by simpa using same
      simp [insertEntry, List.lookup_cons, same, differs]
  | cons entry rest ih =>
    obtain ⟨kept, keptValue⟩ := entry
    unfold insertEntry
    by_cases same : other = key
    · subst same
      split
      · simp
      · split
        · simp
        · rename_i different
          have differs : (other == kept) = false := by simpa using different
          simp [List.lookup_cons, differs, ih]
    · have differs : (other == key) = false := by simpa using same
      split
      · simp [List.lookup_cons, differs]
      · split
        · rename_i equal
          subst equal
          simp [List.lookup_cons, differs]
        · simp only [List.lookup_cons, ih, same, if_false]

theorem lookup_eq_none_of_not_mem {key : String} {entries : List (String × α)}
    (absent : key ∉ entries.map Prod.fst) : entries.lookup key = none := by
  induction entries with
  | nil => rfl
  | cons entry rest ih =>
    obtain ⟨other, kept⟩ := entry
    rw [List.map_cons, List.mem_cons, not_or] at absent
    have differs : (key == other) = false := by simpa using absent.1
    simp [List.lookup_cons, differs, ih absent.2]

theorem lookup_eq_none_iff {key : String} {entries : List (String × α)} :
    entries.lookup key = none ↔ key ∉ entries.map Prod.fst := by
  refine ⟨fun missing member => ?_, lookup_eq_none_of_not_mem⟩
  induction entries with
  | nil => simp at member
  | cons entry rest ih =>
    obtain ⟨other, kept⟩ := entry
    rw [List.lookup_cons] at missing
    split at missing
    · simp at missing
    · rename_i differs
      rcases List.mem_cons.mp (by simpa only [List.map_cons] using member) with same | inRest
      · simp [same] at differs
      · exact ih missing inRest

theorem sorted_eraseEntry (key : String) {entries : List (String × α)}
    (sorted : (entries.map Prod.fst).Pairwise (· < ·)) :
    ((eraseEntry key entries).map Prod.fst).Pairwise (· < ·) :=
  sorted.sublist (List.filter_sublist.map Prod.fst)

theorem lookup_eraseEntry (key other : String) (entries : List (String × α)) :
    (eraseEntry key entries).lookup other =
      if other = key then none else entries.lookup other := by
  induction entries with
  | nil => simp [eraseEntry]
  | cons entry rest ih =>
    obtain ⟨kept, value⟩ := entry
    unfold eraseEntry at ih ⊢
    by_cases removed : kept = key
    · subst removed
      by_cases same : other = kept
      · subst same
        simpa using ih
      · have differs : (other == kept) = false := by simpa using same
        simpa [List.lookup_cons, differs] using ih
    · have stays : ((kept, value).1 != key) = true := by simpa using removed
      rw [List.filter_cons, if_pos stays, List.lookup_cons, List.lookup_cons, ih]
      by_cases same : other = kept
      · subst same
        simp [removed]
      · have differs : (other == kept) = false := by simpa using same
        simp [differs]

theorem length_insertEntry_of_mem (key : String) (value : α) {entries : List (String × α)}
    (sorted : (entries.map Prod.fst).Pairwise (· < ·)) (there : (entries.lookup key).isSome) :
    (insertEntry key value entries).length = entries.length := by
  induction entries with
  | nil => simp at there
  | cons entry rest ih =>
    obtain ⟨other, kept⟩ := entry
    rw [List.map_cons, List.pairwise_cons] at sorted
    obtain ⟨below, sortedRest⟩ := sorted
    unfold insertEntry
    split
    · rename_i less
      have absent : key ∉ ((other, kept) :: rest).map Prod.fst := by
        intro member
        rcases List.mem_cons.mp (by simpa only [List.map_cons] using member) with same | inRest
        · exact String.lt_irrefl _ (same ▸ less)
        · exact String.lt_irrefl _ (String.lt_trans less (below key inRest))
      rw [lookup_eq_none_of_not_mem absent] at there
      simp at there
    · split
      · simp
      · rename_i different
        have differs : (key == other) = false := by simpa using different
        rw [List.lookup_cons, differs] at there
        simp [ih sortedRest there]

theorem length_insertEntry_of_not_mem (key : String) (value : α) {entries : List (String × α)}
    (absent : entries.lookup key = none) :
    (insertEntry key value entries).length = entries.length + 1 := by
  induction entries with
  | nil => rfl
  | cons entry rest ih =>
    obtain ⟨other, kept⟩ := entry
    rw [List.lookup_cons] at absent
    unfold insertEntry
    split at absent
    · simp at absent
    · rename_i differs
      split
      · simp
      · split
        · rename_i same
          simp [same] at differs
        · simp [ih absent]

theorem eq_of_lookup_eq {first second : List (String × α)}
    (firstSorted : (first.map Prod.fst).Pairwise (· < ·))
    (secondSorted : (second.map Prod.fst).Pairwise (· < ·))
    (same : ∀ key, first.lookup key = second.lookup key) : first = second := by
  induction first generalizing second with
  | nil =>
    cases second with
    | nil => rfl
    | cons entry rest =>
      have found := same entry.1
      rw [List.lookup_cons_self] at found
      simp at found
  | cons entry rest ih =>
    obtain ⟨key, value⟩ := entry
    cases second with
    | nil =>
      have found := same key
      rw [List.lookup_cons_self] at found
      simp at found
    | cons otherEntry otherRest =>
      obtain ⟨other, otherValue⟩ := otherEntry
      rw [List.map_cons, List.pairwise_cons] at firstSorted secondSorted
      have equalKeys : key = other := by
        have atKey := same key
        have atOther := same other
        rw [List.lookup_cons_self] at atKey atOther
        by_cases equal : key = other
        · exact equal
        · have differs : (key == other) = false := by simpa using equal
          have differsBack : (other == key) = false := by simpa using Ne.symm equal
          rw [List.lookup_cons, differs] at atKey
          rw [List.lookup_cons, differsBack] at atOther
          have inOther : key ∈ otherRest.map Prod.fst :=
            Decidable.byContradiction fun absent => by
              simp [lookup_eq_none_of_not_mem absent] at atKey
          have inRest : other ∈ rest.map Prod.fst :=
            Decidable.byContradiction fun absent => by
              simp [lookup_eq_none_of_not_mem absent] at atOther
          exact absurd (String.lt_trans (firstSorted.1 other inRest)
            (secondSorted.1 key inOther)) (String.lt_irrefl _)
      subst equalKeys
      have equalValues : value = otherValue := by
        have found := same key
        rw [List.lookup_cons_self, List.lookup_cons_self] at found
        exact Option.some.inj found
      subst equalValues
      have equalRests : rest = otherRest := by
        refine ih firstSorted.2 secondSorted.2 fun name => ?_
        by_cases equal : name = key
        · subst equal
          rw [lookup_eq_none_of_not_mem, lookup_eq_none_of_not_mem]
          · exact fun member => String.lt_irrefl _ (secondSorted.1 _ member)
          · exact fun member => String.lt_irrefl _ (firstSorted.1 _ member)
        · have differs : (name == key) = false := by simpa using equal
          simpa [List.lookup_cons, differs] using same name
      rw [equalRests]

end Arcade
