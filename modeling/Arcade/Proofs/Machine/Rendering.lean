/-
**Two renderings of a picture.**

A picture is printed as text, row by row (`Display.dump`), and its frame is drawn on a terminal, cut
into pieces as long as a row (`Terminal.show?`). Both write the same marks, and the frame is read
off them (`Terminal.frameOf`), so nothing is lost on the way.

As a row of numbers a picture might hold anything; what drawing leads to holds zeros and ones
(`Pixels.IsReachable`), and these are the pictures that there are.

* `Pixels.isBinary_of_isReachable` and `Pixels.isReachable_cells`: which rows of numbers drawing
  leads to;
* `Display.toList_pixels`: a picture is its rows one after another;
* `Display.show?_frame` and `Display.print_frame`: what is drawn, and what is printed cell by cell,
  is the picture as text;
* `Display.frameOf_dump`: the frame is read back from the text;
* `Display.renderings_agree`: all of this for every picture.
-/

import Arcade.Proofs.Machine.Embedding
import Arcade.Proofs.Machine.Overlay
import Arcade.Sink.Terminal

namespace Arcade

open Checked

/-! ### Pictures in numbers -/

namespace Pixels

/-- The picture of zeros. -/
def dark : Pixels := Vector.replicate displaySize 0

/-- The pictures that pixels and sprites lead to. Clearing leads to the picture of zeros. -/
inductive IsReachable : Pixels → Prop
  | dark : IsReachable dark
  | set {before after : Pixels} {column row value : Nat} {erased : Bool}
      (reached : IsReachable before)
      (sets : before.set column row value = .ok (erased, after)) : IsReachable after
  | draw {before after : Pixels} {column row : Nat} {sprite : List UInt8} {erased : Bool}
      (reached : IsReachable before)
      (draws : before.draw false column row 0 (sprite.map UInt8.toNat) = .ok (erased, after)) :
      IsReachable after

/-- Whether each pixel is zero or one. -/
def IsBinary (pixels : Pixels) : Prop := ∀ pixel ∈ pixels.toList, pixel < 2

variable {before after : Pixels} {erased : Bool}

theorem isBinary_dark : dark.IsBinary := by
  intro pixel member
  rw [dark, Vector.toList_replicate] at member
  rw [List.eq_of_mem_replicate member]
  decide

/-- A pixel that is read is zero or one, and it may be written over by a number that is. -/
theorem IsBinary.write {place new : Nat} (binary : before.IsBinary) (small : new < 2)
    (writes : Checked.write before place new = .ok after) : after.IsBinary := by
  unfold Checked.write at writes
  split at writes
  · cases writes
    intro pixel member
    rw [Vector.toList_set] at member
    rcases List.mem_or_eq_of_mem_set member with old | rfl
    · exact binary pixel old
    · exact small
  · cases writes

theorem IsBinary.read {place old : Nat} (binary : before.IsBinary)
    (reads : Checked.read before place = .ok old) : old < 2 := by
  unfold Checked.read at reads
  split at reads
  · cases reads
    exact binary _ (Vector.mem_toList_iff.mpr (Vector.getElem_mem _))
  · cases reads

/-- **A pixel that is set stays zero or one**, as the lowest bit alone is laid over it. -/
theorem IsBinary.set {column row value : Nat} (binary : before.IsBinary)
    (sets : before.set column row value = .ok (erased, after)) : after.IsBinary := by
  obtain ⟨above, -, sets⟩ := exists_of_bind_ok sets
  obtain ⟨place, -, sets⟩ := exists_of_bind_ok sets
  obtain ⟨old, reads, sets⟩ := exists_of_bind_ok sets
  obtain ⟨written, writes, same⟩ := exists_of_bind_ok sets
  cases same
  have lowest : value &&& 1 < 2 ^ 1 := Nat.and_lt_two_pow value (by decide)
  exact binary.write (Nat.xor_lt_two_pow (binary.read reads) lowest) writes

theorem IsBinary.drawRow {start : Bool} {pattern column row : Nat} {offsets : List Nat}
    (binary : before.IsBinary)
    (draws : before.drawRow start pattern column row offsets = .ok (erased, after)) :
    after.IsBinary := by
  induction offsets generalizing before start with
  | nil =>
    cases draws
    exact binary
  | cons offset rest ih =>
    obtain ⟨distance, -, draws⟩ := exists_of_bind_ok draws
    obtain ⟨shifted, -, draws⟩ := exists_of_bind_ok draws
    split at draws
    · obtain ⟨place, -, draws⟩ := exists_of_bind_ok draws
      obtain ⟨⟨erases, between⟩, sets, draws⟩ := exists_of_bind_ok draws
      exact ih (binary.set sets) draws
    · exact ih binary draws

theorem IsBinary.draw {start : Bool} {column row offset : Nat} {sprite : List Nat}
    (binary : before.IsBinary)
    (draws : before.draw start column row offset sprite = .ok (erased, after)) :
    after.IsBinary := by
  induction sprite generalizing before start offset with
  | nil =>
    cases draws
    exact binary
  | cons pattern rest ih =>
    obtain ⟨place, -, draws⟩ := exists_of_bind_ok draws
    obtain ⟨⟨erases, between⟩, drawn, draws⟩ := exists_of_bind_ok draws
    exact ih (binary.drawRow drawn) draws

/-- **Drawing leads to zeros and ones only.** -/
theorem isBinary_of_isReachable {pixels : Pixels} (reachable : pixels.IsReachable) :
    pixels.IsBinary := by
  induction reachable with
  | dark => exact isBinary_dark
  | set reached sets ih => exact ih.set sets
  | draw reached draws ih => exact ih.draw draws

/-- A row of zeros and ones is a picture. -/
theorem IsBinary.exists_cells {pixels : Pixels} (binary : pixels.IsBinary) :
    ∃ display : Display, display.cells = pixels := by
  refine ⟨⟨pixels.map (· == 1)⟩, ?_⟩
  rw [Display.cells, Vector.map_map]
  ext place inside
  have small : pixels[place] < 2 :=
    binary _ (Vector.mem_toList_iff.mpr (Vector.getElem_mem inside))
  have bit : pixels[place] = 0 ∨ pixels[place] = 1 := by omega
  rw [Vector.getElem_map, Function.comp_apply]
  rcases bit with zero | one
  · rw [zero]
    rfl
  · rw [one]
    rfl

/-- Flipping pixels leads from picture to picture. -/
theorem isReachable_flipCells {display : Display} (reached : display.cells.IsReachable)
    (places : List (Fin displaySize)) : (display.flipCells places).2.cells.IsReachable := by
  induction places generalizing display with
  | nil => exact reached
  | cons place rest ih =>
    have sets := display.cells_erase (place.val % displayWidth) (place.val / displayWidth)
    have flipped : (display.erase (place.val % displayWidth) (place.val / displayWidth)).2 =
        display.flipCell place := by
      simp only [Display.erase, Display.flip, Display.get, Display.flipCell, Display.cell_mod_div]
    exact ih (flipped ▸ .set reached sets)

/-- **Every picture is reached**, by setting its lit pixels one after another. -/
theorem isReachable_cells (display : Display) : display.cells.IsReachable := by
  have start : Display.dark.cells.IsReachable := by
    have same : Display.dark.cells = dark := by
      rw [Display.cells, Display.dark, Vector.map_replicate]
      rfl
    exact same ▸ .dark
  let lit := (List.finRange displaySize).filter fun place => display.pixels[place]
  have different : lit.Nodup := (List.nodup_finRange displaySize).filter _
  have reached : (Display.dark.flipCells lit).2 = display := by
    refine Display.eq_of_get fun i _ j _ => ?_
    have dark : Display.dark.pixels[Display.cell i j] = false := Display.get_dark i j
    have among : lit.contains (Display.cell i j) = display.pixels[Display.cell i j] := by
      rw [Bool.eq_iff_iff, List.contains_iff_mem, List.mem_filter]
      exact and_iff_right (List.mem_finRange _)
    rw [Display.get, Display.get_flipCells different, dark, among, Bool.false_xor]
    rfl
  exact reached ▸ isReachable_flipCells start lit

end Pixels

/-! ### Rows -/

/-- The numbers below a product, in rows. -/
theorem map_range_mul {α : Type} (f : Nat → α) (height width : Nat) :
    (List.range (height * width)).map f =
      ((List.range height).map fun row =>
        (List.range width).map fun column => f (row * width + column)).flatten := by
  induction height with
  | zero => simp
  | succ height ih =>
    rw [Nat.succ_mul, List.range_add, List.map_append, ih, List.range_succ, List.map_append,
      List.flatten_append, List.map_map]
    simp [Function.comp_def]

namespace Display

/-- **A picture is its rows one after another.** -/
theorem toList_pixels (display : Display) : display.pixels.toList = display.rows.flatten := by
  have listed : display.pixels.toList = (List.range (displayHeight * displayWidth)).map
      fun place => display.get (place % displayWidth) (place / displayWidth) := by
    refine List.ext_getElem (by simp [Nat.mul_comm]) fun place inside _ => ?_
    have within : place < displaySize := inside.trans_eq Vector.length_toList
    have there : cell (place % displayWidth) (place / displayWidth) = ⟨place, within⟩ :=
      cell_mod_div ⟨place, within⟩
    rw [List.getElem_map, List.getElem_range, Vector.getElem_toList]
    simp only [get, there]
    rfl
  rw [listed, map_range_mul, rows]
  refine congrArg List.flatten (List.map_congr_left fun row _ => ?_)
  refine List.map_congr_left fun column inside => ?_
  have inColumn : column < displayWidth := List.mem_range.mp inside
  rw [Nat.mul_comm row, Nat.mul_add_mod, Nat.mod_eq_of_lt inColumn,
    Nat.mul_add_div (by decide), Nat.div_eq_of_lt inColumn, Nat.add_zero]

theorem length_rows (display : Display) : display.rows.length = displayHeight := by
  rw [rows, List.length_map, List.length_range]

theorem length_of_mem_rows {display : Display} {row : List Bool} (member : row ∈ display.rows) :
    row.length = displayWidth := by
  obtain ⟨number, -, rfl⟩ := List.mem_map.mp member
  rw [List.length_map, List.length_range]

/-- The number of a pixel in a frame. -/
def pixelNumber (lit : Bool) : UInt8 := if lit then 1 else 0

/-- How a pixel is marked in a text. -/
def pixelMark (lit : Bool) : Char := if lit then '#' else '.'

/-- A frame is the rows of the picture in numbers. -/
theorem frame_eq_flatten (display : Display) :
    display.frame = (display.rows.map (·.map pixelNumber)).flatten := by
  rw [← List.map_flatten, ← toList_pixels]
  rfl

/-- The text is the rows of the picture in marks, each ended by a line feed. -/
theorem toList_dump (display : Display) :
    display.dump.toList = display.rows.flatMap fun row => row.map pixelMark ++ ['\n'] := by
  rw [dump, String.toList_join, List.flatMap_map]
  simp only [String.toList_append, String.toList_ofList]
  rfl

end Display

/-! ### Drawing and printing -/

namespace Terminal

/-- Rows put together are cut into the same rows. -/
theorem frameRows_flatten {rows : List (List UInt8)} {bound : Nat}
    (wide : ∀ row ∈ rows, row.length = displayWidth) (fits : rows.length ≤ bound) :
    frameRows bound rows.flatten = rows := by
  induction rows generalizing bound with
  | nil => cases bound <;> rfl
  | cons row rest ih =>
    cases bound with
    | zero => exact absurd fits (Nat.not_succ_le_zero _)
    | succ bound =>
      have width := wide row List.mem_cons_self
      have filled : (row ++ rest.flatten).isEmpty = false := by
        cases row with
        | nil => cases width
        | cons pixel row => rfl
      rw [List.flatten_cons, frameRows, filled, if_neg Bool.false_ne_true,
        List.take_left' width, List.drop_left' width,
        ih (fun later member => wide later (List.mem_cons_of_mem row member))
          (Nat.le_of_succ_le_succ fits)]

/-- A frame is cut into the rows of its picture. -/
theorem frameRows_frame (display : Display) :
    frameRows display.frame.length display.frame =
      display.rows.map (·.map Display.pixelNumber) := by
  rw [display.length_frame, display.frame_eq_flatten]
  refine frameRows_flatten ?_ ?_
  · intro row member
    obtain ⟨lit, among, rfl⟩ := List.mem_map.mp member
    rw [List.length_map, Display.length_of_mem_rows among]
  · rw [List.length_map, display.length_rows]
    decide

/-- **What is drawn of a frame is the picture's text**, behind the move to the corner. -/
theorem show?_frame (display : Display) :
    show? (.frame display.frame) = some (home ++ display.dump) := by
  have mark (row : List Bool) :
      (row.map Display.pixelNumber).map pixelChar = row.map Display.pixelMark := by
    rw [List.map_map]
    refine List.map_congr_left fun lit _ => ?_
    cases lit <;> rfl
  have lines : drawnLines display.frame =
      display.rows.map fun row => String.ofList (row.map Display.pixelMark) := by
    rw [drawnLines, frameRows_frame, List.map_map]
    exact List.map_congr_left fun row _ => congrArg String.ofList (mark row)
  rw [show?, lines, List.map_map]
  rfl

/-- The number of the pixel that is marked by a character, if it marks one. -/
def markedPixel? (mark : Char) : Option UInt8 :=
  if mark = '#' then some 1 else if mark = '.' then some 0 else none

/-- The frame that is read off a text: its marks in order. -/
def frameOf (text : String) : List UInt8 := text.toList.filterMap markedPixel?

end Terminal

namespace Display

open Terminal

/-! ### Cell by cell -/

/-- Writes the marks of some pixels behind a text. -/
def printRow (text : String) : (pixels : List UInt8) → String
  | [] => text
  | pixel :: rest => printRow (text ++ if pixel = 1 then "#" else ".") rest

/-- Writes rows of pixels behind a text, and a line feed behind each. -/
def printRows (text : String) : (rows : List (List UInt8)) → String
  | [] => text
  | row :: rest => printRows (printRow text row ++ "\n") rest

/-- Prints a row of pixels as a picture. -/
def print (pixels : List UInt8) : String := printRows "" (frameRows pixels.length pixels)

theorem toList_printRow (text : String) (row : List Bool) :
    (printRow text (row.map pixelNumber)).toList = text.toList ++ row.map pixelMark := by
  induction row generalizing text with
  | nil => simp [printRow]
  | cons lit rest ih =>
    rw [List.map_cons, printRow, ih, String.toList_append, List.map_cons, List.append_assoc]
    cases lit <;> rfl

theorem toList_printRows (text : String) (rows : List (List Bool)) :
    (printRows text (rows.map (·.map pixelNumber))).toList =
      text.toList ++ rows.flatMap fun row => row.map pixelMark ++ ['\n'] := by
  induction rows generalizing text with
  | nil => simp [printRows]
  | cons row rest ih =>
    rw [List.map_cons, printRows, ih, String.toList_append, toList_printRow, List.flatMap_cons]
    simp only [List.append_assoc]
    rfl

/-- **Printed cell by cell, a frame is the picture's text.** -/
theorem print_frame (display : Display) : print display.frame = display.dump := by
  rw [← String.toList_inj, print, frameRows_frame, toList_printRows, toList_dump]
  rfl

/-! ### The lines, and the frame that is read back -/

/-- Whether these are the lines of marks that a picture is printed in. -/
structure IsPrintedIn (display : Display) (lines : List (List Char)) : Prop where
  height : lines.length = 32
  width : ∀ line ∈ lines, line.length = 64
  marks : ∀ row < 32, ∀ column < 64, ∃ written, lines[row]? = some written ∧
    written[column]? = some (if display.get column row then '#' else '.')

/-- A picture is printed in its rows. -/
theorem isPrintedIn_rows (display : Display) :
    display.IsPrintedIn (display.rows.map (·.map pixelMark)) where
  height := by rw [List.length_map, length_rows]
  width := by
    intro line member
    obtain ⟨row, among, rfl⟩ := List.mem_map.mp member
    rw [List.length_map, length_of_mem_rows among]
  marks := by
    intro row inRow column inColumn
    refine ⟨_, by rw [rows, List.getElem?_map, List.getElem?_map, List.getElem?_range inRow]; rfl, ?_⟩
    rw [List.getElem?_map, List.getElem?_map, List.getElem?_range inColumn]
    rfl

/-- **The frame is read back from the text.** -/
theorem frameOf_dump (display : Display) : frameOf display.dump = display.frame := by
  have marked : markedPixel? ∘ pixelMark = some ∘ pixelNumber := by
    funext lit
    cases lit <;> rfl
  have line (row : List Bool) :
      (row.map pixelMark ++ ['\n']).filterMap markedPixel? = row.map pixelNumber := by
    rw [List.filterMap_append, List.filterMap_map, marked, List.filterMap_eq_map]
    exact List.append_nil _
  rw [frameOf, toList_dump, List.filterMap_flatMap, frame_eq_flatten, List.flatMap_def]
  simp only [line]

/-- Pictures with the same frame are the same. -/
theorem frame_injective : Function.Injective frame := by
  intro first second same
  have apart : Function.Injective pixelNumber := by decide
  have pixels : first.pixels.toList = second.pixels.toList :=
    List.map_injective_iff.mpr apart same
  exact congrArg Display.mk (Vector.toList_inj.mp pixels)

/-- Pictures with the same text are the same. -/
theorem dump_injective : Function.Injective dump := by
  intro first second same
  apply frame_injective
  rw [← frameOf_dump, ← frameOf_dump, same]

/-- **The two renderings agree and lose nothing.** The rows of numbers that drawing leads to are the
pictures, as the numbers of its frame. The text of every picture has a line for each of its 32 rows
with a mark for each of its 64 pixels, and each line is ended by a line feed; it is what printing
the frame cell by cell comes to, and what is drawn of the frame on a terminal, behind the move to
the corner. The frame is read back from it, so that different pictures have different texts. -/
theorem renderings_agree :
    (∀ pixels : Pixels, pixels.IsReachable ↔ ∃ display : Display, display.cells = pixels) ∧
      ∀ display : Display,
        display.cells.toList.map UInt8.ofNat = display.frame ∧
          (∃ lines, display.IsPrintedIn lines ∧
            display.dump.toList = lines.flatMap (· ++ ['\n'])) ∧
          print display.frame = display.dump ∧
          Terminal.show? (.frame display.frame) = some (Terminal.home ++ display.dump) ∧
          frameOf display.dump = display.frame ∧
          ∀ other : Display, display.dump = other.dump ↔ display = other := by
  refine ⟨fun pixels => ⟨fun reached => ?_, ?_⟩, fun display =>
    ⟨?_, ⟨_, display.isPrintedIn_rows, ?_⟩, display.print_frame, show?_frame display,
      display.frameOf_dump, fun other => dump_injective.eq_iff⟩⟩
  · exact (Pixels.isBinary_of_isReachable reached).exists_cells
  · rintro ⟨display, rfl⟩
    exact Pixels.isReachable_cells display
  · rw [cells, Vector.toList_map, List.map_map]
    refine List.map_congr_left fun lit _ => ?_
    cases lit <;> rfl
  · rw [toList_dump, List.flatMap_map]

end Display

end Arcade
