/-
**Blanks.**

The blanks are the characters of the property White_Space of Unicode: the controls from tab to
carriage return, the space, and the spaces and separators beyond ASCII.

* `isBlank_of_isWhitespace`: the blanks of ASCII are among them.
-/

namespace Arcade.Text

/-- Whether a character is a blank. -/
def isBlank (char : Char) : Bool :=
  let code := char.toNat
  (9 ≤ code && code ≤ 13) || (0x2000 ≤ code && code ≤ 0x200A) ||
    [0x20, 0x85, 0xA0, 0x1680, 0x2028, 0x2029, 0x202F, 0x205F, 0x3000].contains code

/-- The characters of a text without the blanks at its start and its end. -/
def trimmed (chars : List Char) : List Char :=
  ((chars.dropWhile isBlank).reverse.dropWhile isBlank).reverse

theorem isBlank_of_isWhitespace {char : Char} (blank : char.isWhitespace = true) :
    isBlank char = true := by
  simp only [Char.isWhitespace, Bool.or_eq_true, decide_eq_true_eq] at blank
  rcases blank with ((rfl | rfl) | rfl) | rfl <;> decide

end Arcade.Text
