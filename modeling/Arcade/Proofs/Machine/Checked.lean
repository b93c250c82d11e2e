/-
**Checked numbers.**

Numbers are kept in words of a fixed number of bits, and rows have a fixed number of places. A
result that does not fit into its word is an overrun; so is a shift by as many bits as the word has,
and a place beyond the end of a row. A computation that is checked ends at the first overrun. What
is meant to wrap is not checked: it is masked, or reduced on the spot.

* `sum_of_lt`, `difference_of_le`, `product_of_lt`, `shiftLeft_of_lt` and `shiftRight_of_lt`:
  operations on numbers that are small enough are the plain ones;
* `read_of_lt` and `write_of_lt`: so is access to a place within a row;
* `mapM_of_forall`: a checked map has an overrun only if one of its elements has;
* `and_ones` and `and_field`: what a mask leaves of a number.
-/

import Mathlib.Data.Nat.Bitwise

namespace Arcade

/-- What a computation may overrun. -/
inductive Overrun where
  | sum
  | difference
  | product
  | shift
  | place
  deriving DecidableEq, Repr

/-- A computation that ends at the first overrun. -/
abbrev Checked (α : Type) := Except Overrun α

namespace Checked

/-- The sum of two numbers in a word of some bits. -/
def sum (bits one two : Nat) : Checked Nat :=
  if one + two < 2 ^ bits then .ok (one + two) else .error .sum

/-- The difference of two numbers, which may not be negative. -/
def difference (one two : Nat) : Checked Nat :=
  if two ≤ one then .ok (one - two) else .error .difference

/-- The product of two numbers in a word of some bits. -/
def product (bits one two : Nat) : Checked Nat :=
  if one * two < 2 ^ bits then .ok (one * two) else .error .product

/-- A number shifted to the left in a word of some bits; no bit may be lost. -/
def shiftLeft (bits number distance : Nat) : Checked Nat :=
  if distance < bits ∧ number <<< distance < 2 ^ bits then .ok (number <<< distance)
  else .error .shift

/-- A number shifted to the right in a word of some bits. -/
def shiftRight (bits number distance : Nat) : Checked Nat :=
  if distance < bits then .ok (number >>> distance) else .error .shift

section Rows

variable {α : Type} {size : Nat}

/-- What is at a place of a row. -/
def read (row : Vector α size) (place : Nat) : Checked α :=
  if inside : place < size then .ok row[place] else .error .place

/-- A row with something put at a place. -/
def write (row : Vector α size) (place : Nat) (value : α) : Checked (Vector α size) :=
  if inside : place < size then .ok (row.set place value) else .error .place

/-- The first places of a row. -/
def slice (row : List α) (count : Nat) : Checked (List α) :=
  if count ≤ row.length then .ok (row.take count) else .error .place

end Rows

example : sum 8 200 100 = .error .sum := by decide

/-! ### Small numbers -/

section Numbers

variable {bits one two number distance : Nat}

theorem sum_of_lt (fits : one + two < 2 ^ bits) : sum bits one two = .ok (one + two) := if_pos fits

theorem difference_of_le (least : two ≤ one) : difference one two = .ok (one - two) := if_pos least

theorem product_of_lt (fits : one * two < 2 ^ bits) : product bits one two = .ok (one * two) :=
  if_pos fits

theorem shiftLeft_of_lt (inside : distance < bits) (fits : number * 2 ^ distance < 2 ^ bits) :
    shiftLeft bits number distance = .ok (number * 2 ^ distance) := by
  rw [← Nat.shiftLeft_eq] at fits ⊢
  exact if_pos ⟨inside, fits⟩

theorem shiftRight_of_lt (inside : distance < bits) :
    shiftRight bits number distance = .ok (number / 2 ^ distance) := by
  rw [← Nat.shiftRight_eq_div_pow]
  exact if_pos inside

variable {α : Type} {size : Nat} {row : Vector α size}

theorem read_of_lt (inside : number < size) : read row number = .ok row[number] := dif_pos inside

theorem write_of_lt {value : α} (inside : number < size) :
    write row number value = .ok (row.set number value) := dif_pos inside

theorem slice_of_le {row : List α} (inside : number ≤ row.length) :
    slice row number = .ok (row.take number) := if_pos inside

end Numbers

section Sequences

variable {α β : Type}

@[simp]
theorem ok_bind (value : α) (next : α → Checked β) : (Except.ok value >>= next) = next value := rfl

/-- A computation that ends well does so by way of a value. -/
theorem exists_of_bind_ok {computation : Checked α} {next : α → Checked β} {result : β}
    (ends : (computation >>= next) = .ok result) :
    ∃ value, computation = .ok value ∧ next value = .ok result := by
  cases computation with
  | error overrun => cases ends
  | ok value => exact ⟨value, rfl, ends⟩

/-- A checked map has an overrun only if one of its elements has. -/
theorem mapM_of_forall {act : α → Checked β} {list : List α} (value : α → β)
    (acts : ∀ element ∈ list, act element = .ok (value element)) :
    list.mapM act = .ok (list.map value) := by
  induction list with
  | nil => rfl
  | cons element rest ih =>
    rw [List.mapM_cons, acts element List.mem_cons_self, ok_bind,
      ih fun later member => acts later (List.mem_cons_of_mem element member)]
    rfl

end Sequences

/-! ### Masks -/

/-- A mask of ones leaves the lowest bits. -/
theorem and_ones (bits number : Nat) : number &&& (2 ^ bits - 1) = number % 2 ^ bits :=
  Nat.and_two_pow_sub_one_eq_mod number bits

/-- A mask of ones further up, shifted down, leaves the bits from there on. -/
theorem and_field (bits distance number : Nat) :
    (number &&& (2 ^ bits - 1) <<< distance) / 2 ^ distance = number / 2 ^ distance % 2 ^ bits := by
  rw [← Nat.shiftRight_eq_div_pow, Nat.shiftRight_and_distrib, Nat.shiftLeft_shiftRight, and_ones,
    Nat.shiftRight_eq_div_pow]

/-- A bit is read off by shifting it to the lowest place and masking it. -/
theorem shiftRight_and_one (number place : Nat) :
    (number >>> place &&& 1 == 1) = number.testBit place := by
  rw [Nat.and_one_is_mod, Nat.testBit_eq_decide_div_mod_eq, Nat.shiftRight_eq_div_pow]
  rfl

end Checked

end Arcade
