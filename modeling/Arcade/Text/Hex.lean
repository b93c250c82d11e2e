/-
**Hexadecimal text of fixed width.**

Opcodes, addresses and key names are shown with a fixed number of hexadecimal digits. The digits
are those of the number's lowest nibbles, so a number that fits the width is shown exactly:

* `hexDigits_length`: there are exactly as many digits as the width asks for.
-/

namespace Arcade.Text

/-- The sixteen digits in small letters. -/
def lowerDigits : List Char := "0123456789abcdef".toList

/-- The sixteen digits in capital letters. -/
def upperDigits : List Char := "0123456789ABCDEF".toList

/-- The digits of the `width` lowest nibbles of a number, the highest first. -/
def hexDigits (digits : List Char) : (width : Nat) → (number : Nat) → List Char
  | 0, _ => []
  | width + 1, number =>
    hexDigits digits width (number / 16) ++ [digits.getD (number % 16) '0']

@[simp]
theorem hexDigits_length (digits : List Char) (width number : Nat) :
    (hexDigits digits width number).length = width := by
  induction width generalizing number with
  | zero => rfl
  | succ width ih => simp [hexDigits, ih]

/-- The lowest nibbles of a number in small letters. -/
def hexLower (width number : Nat) : String := String.ofList (hexDigits lowerDigits width number)

/-- The lowest nibbles of a number in capital letters. -/
def hexUpper (width number : Nat) : String := String.ofList (hexDigits upperDigits width number)

end Arcade.Text
