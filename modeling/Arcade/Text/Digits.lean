/-
**Numbers in digits.**

A digit has a value in every radix above it, and some digits stand for a number.

* `ofDigits?_nil`: no digits stand for no number;
* `ofDigits?_append_singleton`: a further digit counts once, and those before it count as many
  times as the radix says.
-/

namespace Arcade.Text

/-- The value of a digit in a radix of sixteen at most; letters may be small or capital. -/
def digitValue? (radix : Nat) (char : Char) : Option Nat :=
  let value :=
    if char.isDigit then some (char.toNat - '0'.toNat)
    else if 'a' ≤ char && char ≤ 'f' then some (char.toNat - 'a'.toNat + 10)
    else if 'A' ≤ char && char ≤ 'F' then some (char.toNat - 'A'.toNat + 10)
    else none
  value.filter (· < radix)

/-- The number that digits continue after the given number. -/
def ofDigitsFrom? (radix : Nat) : (number : Nat) → List Char → Option Nat
  | number, [] => some number
  | number, char :: rest => do
    let digit ← digitValue? radix char
    ofDigitsFrom? radix (number * radix + digit) rest

/-- The number that some digits stand for, if they are digits and there is at least one. -/
def ofDigits? (radix : Nat) (digits : List Char) : Option Nat :=
  if digits.isEmpty then none else ofDigitsFrom? radix 0 digits

theorem ofDigits?_nil (radix : Nat) : ofDigits? radix [] = none := rfl

theorem ofDigitsFrom?_append (radix number : Nat) (first second : List Char) :
    ofDigitsFrom? radix number (first ++ second) =
      (ofDigitsFrom? radix number first).bind fun middle => ofDigitsFrom? radix middle second := by
  induction first generalizing number with
  | nil => rfl
  | cons char rest ih =>
    cases value : digitValue? radix char with
    | none => simp [ofDigitsFrom?, value]
    | some digit => simp [ofDigitsFrom?, value, ih]

theorem ofDigits?_append_singleton (radix : Nat) {digits : List Char} {number value : Nat}
    {char : Char} (known : ofDigits? radix digits = some number)
    (digit : digitValue? radix char = some value) :
    ofDigits? radix (digits ++ [char]) = some (number * radix + value) := by
  cases digits with
  | nil => simp [ofDigits?] at known
  | cons first rest =>
    have read : ofDigitsFrom? radix 0 (first :: rest) = some number := by
      simpa [ofDigits?] using known
    show ofDigitsFrom? radix 0 ((first :: rest) ++ [char]) = _
    rw [ofDigitsFrom?_append, read]
    simp [ofDigitsFrom?, digit]

end Arcade.Text
