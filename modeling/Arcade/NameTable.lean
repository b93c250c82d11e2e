/-
**Tables by name.**

A table holds values under names, each name once. Its entries are kept in the order of the names,
so two tables that answer every look-up alike are equal (`ext_lookup`).

* `lookup_insert` and `lookup_erase`: a value is found under the name that it was put in for until
  it is erased, and the other names are not affected;
* `size_insert_of_mem`, `size_insert_of_not_mem` and `size_erase_le`: how the number of entries
  changes.
-/

import Arcade.OrderedEntries

namespace Arcade

/-- Values by name. -/
structure NameTable (α : Type) where
  entries : List (String × α)
  sorted : (entries.map Prod.fst).Pairwise (· < ·)

namespace NameTable

variable {α : Type}

/-- The table without entries. -/
def empty : NameTable α := ⟨[], List.Pairwise.nil⟩

/-- The table with a value put in under a name, in place of the one that was there. -/
def insert (table : NameTable α) (name : String) (value : α) : NameTable α where
  entries := insertEntry name value table.entries
  sorted := sorted_insertEntry name value table.sorted

/-- The table without the entry under a name. -/
def erase (table : NameTable α) (name : String) : NameTable α where
  entries := eraseEntry name table.entries
  sorted := sorted_eraseEntry name table.sorted

/-- The table of some entries; of those with one name the last counts. -/
def ofList (entries : List (String × α)) : NameTable α :=
  entries.foldl (fun table entry => table.insert entry.1 entry.2) empty

/-- The value under a name. -/
def lookup? (table : NameTable α) (name : String) : Option α := table.entries.lookup name

/-- Whether there is an entry under a name. -/
def contains (table : NameTable α) (name : String) : Bool := (table.lookup? name).isSome

/-- The names in order. -/
def names (table : NameTable α) : List String := table.entries.map Prod.fst

/-- The number of entries. -/
def size (table : NameTable α) : Nat := table.entries.length

theorem lookup_insert (table : NameTable α) (name other : String) (value : α) :
    (table.insert name value).lookup? other =
      if other = name then some value else table.lookup? other :=
  lookup_insertEntry name other value table.entries

theorem lookup_erase (table : NameTable α) (name other : String) :
    (table.erase name).lookup? other = if other = name then none else table.lookup? other :=
  lookup_eraseEntry name other table.entries

theorem size_insert_of_mem (table : NameTable α) {name : String} (value : α)
    (there : table.contains name = true) : (table.insert name value).size = table.size :=
  length_insertEntry_of_mem name value table.sorted there

theorem size_insert_of_not_mem (table : NameTable α) {name : String} (value : α)
    (absent : table.contains name = false) : (table.insert name value).size = table.size + 1 :=
  length_insertEntry_of_not_mem name value (by simpa [contains, lookup?] using absent)

theorem size_erase_le (table : NameTable α) (name : String) :
    (table.erase name).size ≤ table.size :=
  List.length_filter_le _ _

theorem ext_lookup {first second : NameTable α}
    (same : ∀ name, first.lookup? name = second.lookup? name) : first = second := by
  obtain ⟨firstEntries, firstSorted⟩ := first
  obtain ⟨secondEntries, secondSorted⟩ := second
  congr
  exact eq_of_lookup_eq firstSorted secondSorted same

end NameTable

end Arcade
