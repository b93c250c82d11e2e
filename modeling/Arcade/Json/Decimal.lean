/-
**Decimal numbers and their doubles.**

Of the digits of a number as many are kept as sixty-four bits hold (`takeDigits`). The number is the
product of what they stand for and a power of ten. Both factors are rounded to doubles, and then
their product is, which may be too large for one (`Decimal.isFinite`).

* `takeDigits_lt`: what is kept fits in sixty-four bits;
* `roundDouble_of_lt`: a number of fifty-three bits is a double.
-/

namespace Arcade.Json

/-- A significand times a power of ten. -/
structure Decimal where
  significand : Nat
  exponent : Int
  deriving DecidableEq, Repr

/-- Appends digits to a significand until the next one does not fit. Answers the significand and
how many digits it has taken. -/
def takeDigits (significand : Nat) : (digits : List Char) → Nat × Nat
  | [] => (significand, 0)
  | char :: rest =>
    let longer := significand * 10 + (char.toNat - '0'.toNat)
    if longer < UInt64.size then
      let (whole, taken) := takeDigits longer rest
      (whole, taken + 1)
    else (significand, 0)

theorem takeDigits_lt {significand : Nat} (small : significand < UInt64.size)
    (digits : List Char) : (takeDigits significand digits).1 < UInt64.size := by
  induction digits generalizing significand with
  | nil => exact small
  | cons char rest ih =>
    simp only [takeDigits]
    split
    · next fits => exact ih fits
    · exact small

/-- The number that digits before and after a point stand for, with an exponent written behind
them. A digit before the point that does not fit still counts for its place. -/
def Decimal.ofDigits (whole fraction : List Char) (exponent : Int) : Decimal :=
  let (before, taken) := takeDigits 0 whole
  let (significand, places) := takeDigits before fraction
  ⟨significand, ((whole.length - taken : Nat) : Int) - places + exponent⟩

/-! ### Doubles -/

/-- How many bits of a number a double holds. -/
def doubleBits : Nat := 53

/-- The nearest number of which a double holds all bits; of two that are equally near, the one
whose last bit is zero. -/
def roundDouble (value : Nat) : Nat :=
  let shift := value.log2 + 1 - doubleBits
  let unit := 1 <<< shift
  let quotient := value / unit
  let excess := 2 * (value % unit)
  if unit < excess ∨ (unit = excess ∧ quotient % 2 = 1) then (quotient + 1) * unit
  else quotient * unit

/-- The least number that is rounded to an infinite double. -/
def doubleLimit : Nat := 1 <<< 1024 - 1 <<< 970

/-- The greatest exponent of a power of ten that is a finite double. -/
def doubleExponent : Int := 308

/-- Whether the double of a decimal number is finite. -/
def Decimal.isFinite (decimal : Decimal) : Bool :=
  decimal.significand = 0 ∨ decimal.exponent < 0 ∨
    (decimal.exponent ≤ doubleExponent ∧
      roundDouble decimal.significand * roundDouble (Nat.pow 10 decimal.exponent.toNat) <
        doubleLimit)

theorem roundDouble_of_lt {value : Nat} (small : value < 1 <<< doubleBits) :
    roundDouble value = value := by
  have narrow : value.log2 + 1 - doubleBits = 0 := by
    by_cases zero : value = 0
    · subst zero
      decide
    · have short : value.log2 < doubleBits := (Nat.log2_lt zero).mpr (by
        simpa [Nat.shiftLeft_eq] using small)
      omega
  simp [roundDouble, narrow, Nat.mod_one]

end Arcade.Json
