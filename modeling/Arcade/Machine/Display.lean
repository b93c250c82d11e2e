/-
**The picture.**

The picture is a row-major grid of pixels that are lit or dark. Sprites are drawn by exclusive or,
and coordinates wrap around to the other side.

* `get_flip`: flipping one pixel changes that pixel alone;
* `length_frame`: a frame is a list of one number per pixel, one for lit and zero for dark.
-/

import Arcade.Machine.Layout

namespace Arcade

/-- A picture of lit and dark pixels, row by row from the top. -/
structure Display where
  pixels : Vector Bool displaySize
  deriving DecidableEq

namespace Display

/-- The place in the grid of the pixel in a column and a row, after wrapping. -/
def cell (column row : Nat) : Fin displaySize :=
  ⟨column % displayWidth + row % displayHeight * displayWidth, by
    have := Nat.mod_lt column (show 0 < displayWidth by decide)
    have := Nat.mod_lt row (show 0 < displayHeight by decide)
    simp only [displaySize, displayWidth, displayHeight] at *
    omega⟩

/-- The dark picture. -/
def dark : Display := ⟨Vector.replicate displaySize false⟩

/-- Whether the pixel in a column and a row is lit. -/
def get (display : Display) (column row : Nat) : Bool := display.pixels[cell column row]

/-- The picture with one pixel changed from lit to dark or back. -/
def flip (display : Display) (column row : Nat) : Display :=
  ⟨display.pixels.set (cell column row) (!display.get column row)⟩

/-- Whether flipping erases a lit pixel, and the picture afterwards. -/
def erase (display : Display) (column row : Nat) : Bool × Display :=
  (display.get column row, display.flip column row)

/-- Flips one pixel if the value's lowest bit is set; says whether a lit pixel was erased. -/
def set (display : Display) (column row value : Nat) : Bool × Display :=
  if value % 2 = 1 then display.erase column row else (false, display)

/-- Whether bit `offset` of a sprite's row is set, counted from the left. -/
def spriteBit (pattern : UInt8) (offset : Nat) : Bool := pattern.toNat.testBit (7 - offset)

/-- Draws the given pixels of one row of a sprite. -/
def drawPixels (display : Display) (pattern : UInt8) (column row : Nat) :
    (offsets : List Nat) → Bool × Display
  | [] => (false, display)
  | offset :: rest =>
    if spriteBit pattern offset then
      let (erased, flipped) := display.erase (column + offset) row
      let (later, drawn) := flipped.drawPixels pattern column row rest
      (erased || later, drawn)
    else
      display.drawPixels pattern column row rest

/-- Draws a sprite, one byte a row, with its top left corner at a column and a row. Says whether a
lit pixel was erased. -/
def draw (display : Display) (column row : Nat) : (sprite : List UInt8) → Bool × Display
  | [] => (false, display)
  | pattern :: rest =>
    let (erased, drawn) := display.drawPixels pattern column row (List.range 8)
    let (later, finished) := drawn.draw column (row + 1) rest
    (erased || later, finished)

/-- One number per pixel, row by row. -/
def frame (display : Display) : List UInt8 :=
  display.pixels.toList.map fun lit => if lit then 1 else 0

/-- The pixels of each row, from the left. -/
def rows (display : Display) : List (List Bool) :=
  (List.range displayHeight).map fun row =>
    (List.range displayWidth).map fun column => display.get column row

/-- The picture as text, each line followed by a line feed. -/
def dump (display : Display) : String :=
  String.join (display.rows.map fun row =>
    String.ofList (row.map fun lit => if lit then '#' else '.') ++ "\n")

/-- How many pixels are lit. -/
def litCount (display : Display) : Nat := display.pixels.toList.count true

theorem get_dark (column row : Nat) : dark.get column row = false := by simp [get, dark]

theorem get_flip (display : Display) (column row otherColumn otherRow : Nat) :
    (display.flip column row).get otherColumn otherRow =
      if cell column row = cell otherColumn otherRow then !display.get otherColumn otherRow
      else display.get otherColumn otherRow := by
  simp only [get, flip, Fin.getElem_fin, Vector.getElem_set, Fin.ext_iff]
  split
  · rename_i same
    simp [same]
  · rfl

theorem length_frame (display : Display) : display.frame.length = displaySize := by
  simp [frame]

end Display

end Arcade
