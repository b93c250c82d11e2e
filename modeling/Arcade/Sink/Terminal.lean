/-
**Messages on a terminal.**

A frame is drawn in place, from the top left corner on, with one character for a pixel; the start
of a program clears the screen. An error is not shown on the screen.

* `drawnLines_length`: a frame is drawn in as many lines as the picture has rows.
-/

import Arcade.Machine.Layout
import Arcade.Message

namespace Arcade.Terminal

/-- Moves to the top left corner. -/
def home : String := "\x1b[H"

/-- Clears the screen. -/
def clear : String := "\x1b[2J"

/-- How a pixel is drawn. -/
def pixelChar (value : UInt8) : Char := if value = 1 then '#' else '.'

/-- The rows of a frame; the last row has what is left. The number of rows is bounded. -/
def frameRows : (bound : Nat) → List UInt8 → List (List UInt8)
  | 0, _ => []
  | bound + 1, pixels =>
    if pixels.isEmpty then []
    else pixels.take displayWidth :: frameRows bound (pixels.drop displayWidth)

/-- The lines that a frame is drawn in. -/
def drawnLines (pixels : List UInt8) : List String :=
  (frameRows pixels.length pixels).map fun row => String.ofList (row.map pixelChar)

/-- What is written to the terminal for a message. -/
def show? : Message → Option String
  | .frame pixels => some (home ++ String.join ((drawnLines pixels).map (· ++ "\n")))
  | .started _ => some clear
  | .error _ => none

theorem frameRows_length (count : Nat) :
    ∀ bound (pixels : List UInt8), count ≤ bound → pixels.length = displayWidth * count →
      (frameRows bound pixels).length = count := by
  induction count with
  | zero =>
    intro bound pixels _ size
    have nothing : pixels = [] := List.length_eq_zero_iff.mp (by simpa using size)
    cases bound <;> simp [frameRows, nothing]
  | succ count ih =>
    intro bound pixels fits size
    cases bound with
    | zero => omega
    | succ bound =>
      have some : pixels.isEmpty = false := by
        cases pixels with
        | nil => simp [displayWidth] at size
        | cons _ _ => rfl
      simp only [frameRows, some, Bool.false_eq_true, if_false, List.length_cons]
      rw [ih bound (pixels.drop displayWidth) (by omega)]
      rw [List.length_drop, size, Nat.mul_succ]
      omega

theorem drawnLines_length (pixels : List UInt8) (size : pixels.length = displaySize) :
    (drawnLines pixels).length = displayHeight := by
  rw [drawnLines, List.length_map]
  refine frameRows_length displayHeight _ pixels ?_ size
  rw [size]
  decide

end Arcade.Terminal
