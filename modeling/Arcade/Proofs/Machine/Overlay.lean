/-
**A sprite is laid over the picture by exclusive or.**

A sprite that is higher than the picture covers some pixels several times. How often it covers the
pixel in a column and a row is the number of its bits that are set and wrap around to there
(`Display.hits`). The pixel changes if that number is odd, also when a bit in between has erased it.

* `Display.hits_eq_count`: the bits that fall on a pixel are the times its cell is flipped;
* `Display.get_draw` and `Display.draw_erased_iff`: the picture after drawing, and whether a lit
  pixel was erased on the way;
* `Display.get_drawAll`: the picture after several sprites, which only the number of hits decides;
* `Display.overlays`: all of this for every sprite, with what follows for drawing one twice and for
  drawing several in another order.
-/

import Mathlib.Algebra.BigOperators.Group.Finset.Piecewise
import Mathlib.Algebra.BigOperators.Group.Finset.Sigma
import Mathlib.Algebra.GroupWithZero.Nat
import Arcade.Proofs.Machine.Sprite

namespace Arcade

namespace Display

/-! ### How often a pixel is hit -/

/-- Whether a bit of a sprite's row is set and its place wraps around to a column and a row. -/
def Falls (pattern : UInt8) (column row c i j : Nat) : Prop :=
  spriteBit pattern c = true ∧ (column + c) % displayWidth = i ∧ row % displayHeight = j

instance (pattern : UInt8) (column row c i j : Nat) :
    Decidable (Falls pattern column row c i j) :=
  inferInstanceAs (Decidable (_ ∧ _ ∧ _))

/-- How many bits of a sprite are set and fall on the pixel in a column and a row, where the
sprite's top left corner is at another column and row. -/
def hits (column row : Nat) (sprite : List UInt8) (i j : Nat) : Nat :=
  ((Finset.range sprite.length ×ˢ Finset.range 8).filter fun (r, c) =>
    Falls (sprite.getD r 0) column (row + r) c i j).card

/-- The bits of the first row, and those of the others. -/
theorem hits_cons (column row : Nat) (pattern : UInt8) (rest : List UInt8) (i j : Nat) :
    hits column row (pattern :: rest) i j =
      ((Finset.range 8).filter fun c => Falls pattern column row c i j).card +
        hits column (row + 1) rest i j := by
  simp only [hits, Finset.card_filter, Finset.sum_product, List.length_cons]
  rw [Finset.sum_range_succ', Nat.add_comm]
  congr 1
  refine Finset.sum_congr rfl fun r _ => Finset.sum_congr rfl fun c _ => ?_
  have lower : row + (r + 1) = row + 1 + r := by omega
  simp only [List.getD_cons_succ, lower]

theorem cell_eq_cell_iff {column row i j : Nat} (inColumn : i < displayWidth)
    (inRow : j < displayHeight) :
    cell column row = cell i j ↔ column % displayWidth = i ∧ row % displayHeight = j := by
  simp only [cell, Fin.mk.injEq, displayWidth, displayHeight] at *
  omega

/-- The bits of a row that fall on a pixel are the times its cell is flipped. -/
theorem card_falls (pattern : UInt8) (column row : Nat) {i j : Nat} (inColumn : i < displayWidth)
    (inRow : j < displayHeight) :
    ((Finset.range 8).filter fun c => Falls pattern column row c i j).card =
      (rowCells pattern column row (List.range 8)).count (cell i j) := by
  rw [rowCells, List.count_eq_countP, List.countP_map, List.countP_filter,
    List.countP_eq_length_filter]
  change ((List.range 8).filter _).length = _
  congr 1
  refine List.filter_congr fun c _ => ?_
  rw [Bool.eq_iff_iff]
  simp only [Falls, decide_eq_true_eq, Function.comp_apply, Bool.and_eq_true, beq_iff_eq,
    cell_eq_cell_iff inColumn inRow, and_comm]

/-- **The bits that fall on a pixel are the times its cell is flipped.** -/
theorem hits_eq_count (column row : Nat) (sprite : List UInt8) {i j : Nat}
    (inColumn : i < displayWidth) (inRow : j < displayHeight) :
    hits column row sprite i j = (spriteCells column row sprite).count (cell i j) := by
  induction sprite generalizing row with
  | nil => rfl
  | cons pattern rest ih =>
    rw [hits_cons, card_falls pattern column row inColumn inRow, ih, spriteCells,
      List.count_append]

/-- A cell is that of its column and its row. -/
theorem cell_mod_div (place : Fin displaySize) :
    cell (place.val % displayWidth) (place.val / displayWidth) = place := by
  have low : place.val / displayWidth < displayHeight := Nat.div_lt_of_lt_mul place.isLt
  apply Fin.ext
  simp only [cell, Nat.mod_mod, Nat.mod_eq_of_lt low]
  exact Nat.mod_add_div' place.val displayWidth

/-- Every cell is that of one column and one row of the picture. -/
theorem exists_cell_eq (place : Fin displaySize) :
    ∃ i < displayWidth, ∃ j < displayHeight, cell i j = place :=
  ⟨_, Nat.mod_lt _ (by decide), _, Nat.div_lt_of_lt_mul place.isLt, cell_mod_div place⟩

/-! ### The picture after drawing -/

variable {display : Display}

/-- A pixel changes if an odd number of bits falls on it. -/
theorem get_draw (display : Display) (column row : Nat) (sprite : List UInt8) {i j : Nat}
    (inColumn : i < displayWidth) (inRow : j < displayHeight) :
    (display.draw column row sprite).2.get i j =
      (display.get i j ^^ decide (hits column row sprite i j % 2 = 1)) := by
  rw [draw_eq, get, pixels_flipCells, hits_eq_count column row sprite inColumn inRow]
  rfl

/-- A lit pixel is erased where one was lit before and a bit falls, and where two bits fall. -/
theorem draw_erased_iff (display : Display) (column row : Nat) (sprite : List UInt8) :
    (display.draw column row sprite).1 = true ↔
      ∃ i < displayWidth, ∃ j < displayHeight, 2 ≤ hits column row sprite i j ∨
        1 ≤ hits column row sprite i j ∧ display.get i j = true := by
  rw [draw_eq, flipCells_erases_iff]
  constructor
  · rintro ⟨place, hit⟩
    obtain ⟨i, inColumn, j, inRow, rfl⟩ := exists_cell_eq place
    rw [← hits_eq_count column row sprite inColumn inRow] at hit
    exact ⟨i, inColumn, j, inRow, hit⟩
  · rintro ⟨i, inColumn, j, inRow, hit⟩
    rw [hits_eq_count column row sprite inColumn inRow] at hit
    exact ⟨cell i j, hit⟩

/-- Pictures are the same if their pixels are. -/
theorem eq_of_get {first second : Display}
    (same : ∀ i < displayWidth, ∀ j < displayHeight, first.get i j = second.get i j) :
    first = second := by
  obtain ⟨first⟩ := first
  obtain ⟨second⟩ := second
  congr 1
  ext place inside
  obtain ⟨i, inColumn, j, inRow, there⟩ := exists_cell_eq ⟨place, inside⟩
  have equal := same i inColumn j inRow
  simp only [get, there] at equal
  exact equal

/-! ### Several sprites -/

/-- A sprite with the column and the row of its top left corner. -/
structure Placement where
  column : Nat
  row : Nat
  sprite : List UInt8

/-- How many bits of some sprites fall on the pixel in a column and a row. -/
def totalHits (placements : List Placement) (i j : Nat) : Nat :=
  (placements.map fun placement =>
    hits placement.column placement.row placement.sprite i j).sum

/-- The picture after some sprites are drawn one after another. -/
def drawAll (display : Display) (placements : List Placement) : Display :=
  placements.foldl (fun shown placement =>
    (shown.draw placement.column placement.row placement.sprite).2) display

/-- Of several sprites only the number of bits that fall on a pixel matters. -/
theorem get_drawAll (display : Display) (placements : List Placement) {i j : Nat}
    (inColumn : i < displayWidth) (inRow : j < displayHeight) :
    (display.drawAll placements).get i j =
      (display.get i j ^^ decide (totalHits placements i j % 2 = 1)) := by
  induction placements generalizing display with
  | nil => simp [drawAll, totalHits]
  | cons placement rest ih =>
    have later := ih (display.draw placement.column placement.row placement.sprite).2
    rw [get_draw display _ _ _ inColumn inRow, Bool.xor_assoc, ← decide_odd_add] at later
    exact later

theorem totalHits_perm {first second : List Placement} (rearranged : first.Perm second)
    (i j : Nat) : totalHits first i j = totalHits second i j :=
  (rearranged.map _).sum_eq

/-- **Drawing a sprite is an exclusive or.** A pixel changes if an odd number of the sprite's bits
falls on it; a lit pixel counts as erased if one was lit before and is hit, or if one is hit twice,
also when the picture does not show it in the end. So drawing a sprite again restores the picture,
and of several sprites the order does not matter. -/
theorem overlays (display : Display) (column row : Nat) (sprite : List UInt8) :
    (∀ i < displayWidth, ∀ j < displayHeight,
      (display.draw column row sprite).2.get i j =
        (display.get i j ^^ decide (hits column row sprite i j % 2 = 1))) ∧
    ((display.draw column row sprite).1 = true ↔
      ∃ i < displayWidth, ∃ j < displayHeight, 2 ≤ hits column row sprite i j ∨
        1 ≤ hits column row sprite i j ∧ display.get i j = true) ∧
    ((display.draw column row sprite).2.draw column row sprite).2 = display ∧
    ∀ first second : List Placement, first.Perm second →
      display.drawAll first = display.drawAll second := by
  refine ⟨fun i inColumn j inRow => get_draw display column row sprite inColumn inRow,
    draw_erased_iff display column row sprite, eq_of_get fun i inColumn j inRow => ?_,
    fun first second rearranged => eq_of_get fun i inColumn j inRow => ?_⟩
  · rw [get_draw _ column row sprite inColumn inRow,
      get_draw display column row sprite inColumn inRow, Bool.xor_assoc, Bool.xor_self,
      Bool.xor_false]
  · rw [get_drawAll display first inColumn inRow, get_drawAll display second inColumn inRow,
      totalHits_perm rearranged]

/-- A sprite one pixel wide that is one row higher than the picture. -/
def tall : List UInt8 := List.replicate 33 0x80

/-- Its last row erases what its first row has drawn, and the picture shows neither; drawn before or
after another sprite, it leaves the same. -/
theorem overlays_tall :
    (dark.draw 0 0 tall).1 = true ∧ (dark.draw 0 0 tall).2.get 0 0 = false ∧
      dark.drawAll [⟨0, 0, tall⟩, ⟨60, 3, [0xFF]⟩] =
        dark.drawAll [⟨60, 3, [0xFF]⟩, ⟨0, 0, tall⟩] := by
  obtain ⟨pixel, erased, -, order⟩ := overlays dark 0 0 tall
  have twice : hits 0 0 tall 0 0 = 2 := by decide +kernel
  refine ⟨erased.mpr ⟨0, by decide, 0, by decide, .inl (by rw [twice])⟩, ?_,
    order _ _ (List.Perm.swap _ _ _)⟩
  rw [pixel 0 (by decide) 0 (by decide), twice, get_dark]
  rfl

end Display

end Arcade
