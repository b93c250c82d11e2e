/-
**Registers of a declared width.**

A register is a cell of a fixed number of bits, thirty-two at most. What is stored is reduced to
that number of bits, so the cell never holds more than it has room for.

* `value_store`: a store keeps the value modulo the number of values that the cell can hold;
* `value_le_largest`: the value never exceeds the largest one.
-/

namespace Arcade

/-- A cell of a declared number of bits. -/
structure Register where
  /-- The number of bits. -/
  bits : Nat
  /-- What the cell holds. -/
  contents : BitVec bits

namespace Register

/-- No register is wider than this. -/
def widestBits : Nat := 32

/-- An empty register of the given number of bits. -/
def ofBits (bits : Nat) : Register := ⟨min bits widestBits, BitVec.zero _⟩

/-- An empty register of the given number of bytes. -/
def ofBytes (bytes : Nat) : Register := ofBits (8 * bytes)

/-- What the register holds, as a number. -/
def value (register : Register) : Nat := register.contents.toNat

/-- The register after a number is stored. -/
def store (register : Register) (number : Nat) : Register :=
  ⟨register.bits, BitVec.ofNat register.bits number⟩

/-- The largest value that the register can hold. -/
def largest (register : Register) : Nat := (BitVec.allOnes register.bits).toNat

theorem value_store (register : Register) (number : Nat) :
    (register.store number).value = number % (register.largest + 1) := by
  simp only [value, store, largest, BitVec.toNat_ofNat, BitVec.toNat_allOnes]
  rw [Nat.sub_add_cancel Nat.one_le_two_pow]

theorem value_le_largest (register : Register) : register.value ≤ register.largest := by
  have bound := register.contents.isLt
  simp only [value, largest, BitVec.toNat_allOnes]
  exact Nat.le_sub_one_of_lt bound

end Register

end Arcade
