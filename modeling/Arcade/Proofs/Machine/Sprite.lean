/-
**Where a sprite is drawn.**

A sprite flips a list of cells of the picture, one for each bit that is set (`Display.draw_eq`). The
cells are different as long as the sprite is no higher than the picture, also where it wraps around
(`Display.nodup_spriteCells`), so each of them is flipped once.

* `Display.get_flipCells` and `Display.flipCells_erases`: what flipping different cells comes to;
* `Machine.draws_drawSprite`: the sprite at the index, with its top left corner at the coordinates;
* `Machine.draws_where_asked`: an opcode that draws does so at the coordinates in its registers,
  unless one of them is the flag register, which counts as zero.
-/

import Mathlib.Data.List.Nodup
import Arcade.Machine.Run
import Arcade.Proofs.Machine.Form

namespace Arcade

namespace Display

/-! ### Flipping cells -/

/-- The picture with one cell changed from lit to dark or back. -/
def flipCell (display : Display) (place : Fin displaySize) : Display :=
  ⟨display.pixels.set place (!display.pixels[place])⟩

/-- Flips some cells one after another; says whether a lit one was among them. -/
def flipCells (display : Display) : (places : List (Fin displaySize)) → Bool × Display
  | [] => (false, display)
  | place :: rest =>
    let (later, flipped) := (display.flipCell place).flipCells rest
    (display.pixels[place] || later, flipped)

variable {display : Display} {place : Fin displaySize} {places : List (Fin displaySize)}

theorem pixels_flipCell (display : Display) (place other : Fin displaySize) :
    (display.flipCell place).pixels[other] =
      (display.pixels[other] ^^ decide (place = other)) := by
  simp only [flipCell, Fin.getElem_fin, Vector.getElem_set, Fin.ext_iff]
  by_cases same : place.val = other.val
  · simp [same]
  · simp [same]

theorem flipCells_append (display : Display) (first second : List (Fin displaySize)) :
    display.flipCells (first ++ second) =
      ((display.flipCells first).1 || ((display.flipCells first).2.flipCells second).1,
        ((display.flipCells first).2.flipCells second).2) := by
  induction first generalizing display with
  | nil => simp [flipCells]
  | cons place rest ih => simp [flipCells, ih, Bool.or_assoc]

/-- A sum is odd if one of its parts is odd and the other is not. -/
theorem decide_odd_add (a b : Nat) :
    decide ((a + b) % 2 = 1) = (decide (a % 2 = 1) ^^ decide (b % 2 = 1)) := by
  rcases Nat.mod_two_eq_zero_or_one a with even | odd
  · simp [Nat.add_mod, even]
  · rcases Nat.mod_two_eq_zero_or_one b with even | odd'
    · simp [Nat.add_mod, odd, even]
    · simp [Nat.add_mod, odd, odd']

/-- A cell that is flipped several times changes with every flip. -/
theorem pixels_flipCells (display : Display) (places : List (Fin displaySize))
    (other : Fin displaySize) :
    (display.flipCells places).2.pixels[other] =
      (display.pixels[other] ^^ decide (places.count other % 2 = 1)) := by
  induction places generalizing display with
  | nil => simp [flipCells]
  | cons place rest ih =>
    rw [flipCells]
    simp only
    rw [ih, pixels_flipCell, List.count_cons, Nat.add_comm, decide_odd_add, Bool.xor_assoc]
    by_cases same : place = other
    · simp [same]
    · simp [same]

/-- A lit cell is erased where one was lit before, and where a cell is flipped again. -/
theorem flipCells_erases_iff (display : Display) (places : List (Fin displaySize)) :
    (display.flipCells places).1 = true ↔
      ∃ place, 2 ≤ places.count place ∨
        1 ≤ places.count place ∧ display.pixels[place] = true := by
  induction places generalizing display with
  | nil => simp [flipCells]
  | cons place rest ih =>
    rw [flipCells, Bool.or_eq_true, ih]
    simp only [pixels_flipCell, List.count_cons]
    constructor
    · rintro (lit | ⟨other, hit⟩)
      · exact ⟨place, .inr ⟨by simp, lit⟩⟩
      · by_cases same : place = other
        · subst same
          exact ⟨place, .inl (by rw [beq_self_eq_true, if_pos rfl]; omega)⟩
        · exact ⟨other, by simpa [same] using hit⟩
    · rintro ⟨other, hit⟩
      by_cases same : place = other
      · subst same
        by_cases lit : display.pixels[place] = true
        · exact .inl lit
        · have again : 1 ≤ rest.count place := by
            rw [beq_self_eq_true, if_pos rfl] at hit
            rcases hit with twice | ⟨-, lit'⟩
            · omega
            · exact absurd lit' lit
          exact .inr ⟨place, .inr ⟨again, by simp [lit]⟩⟩
      · exact .inr ⟨other, by simpa [same] using hit⟩

/-- Of different cells each is flipped once, and no other cell is. -/
theorem get_flipCells (different : places.Nodup) (other : Fin displaySize) :
    (display.flipCells places).2.pixels[other] =
      (display.pixels[other] ^^ places.contains other) := by
  rw [pixels_flipCells, different.count]
  by_cases member : other ∈ places
  · simp [member]
  · simp [member]

/-- Flipping different cells erases exactly those that were lit before. -/
theorem flipCells_erases (different : places.Nodup) :
    (display.flipCells places).1 = true ↔ ∃ place ∈ places, display.pixels[place] = true := by
  rw [flipCells_erases_iff]
  refine exists_congr fun place => ?_
  have once : places.count place ≤ 1 := List.nodup_iff_count_le_one.mp different place
  rw [← List.one_le_count_iff]
  constructor
  · rintro (twice | hit)
    · omega
    · exact hit
  · exact .inr

/-! ### The cells of a sprite -/

/-- The cells of the bits that are set among the given ones of a sprite's row. -/
def rowCells (pattern : UInt8) (column row : Nat) (offsets : List Nat) :
    List (Fin displaySize) :=
  (offsets.filter (spriteBit pattern)).map fun offset => cell (column + offset) row

/-- The cells of the bits that are set in a sprite. -/
def spriteCells (column row : Nat) : (sprite : List UInt8) → List (Fin displaySize)
  | [] => []
  | pattern :: rest =>
    rowCells pattern column row (List.range 8) ++ spriteCells column (row + 1) rest

theorem drawPixels_eq (display : Display) (pattern : UInt8) (column row : Nat)
    (offsets : List Nat) :
    display.drawPixels pattern column row offsets =
      display.flipCells (rowCells pattern column row offsets) := by
  induction offsets generalizing display with
  | nil => rfl
  | cons offset rest ih =>
    unfold drawPixels
    split
    case isTrue lit =>
      rw [rowCells, List.filter_cons_of_pos lit, List.map_cons, flipCells]
      simp only [erase, ih]
      rfl
    case isFalse unlit =>
      rw [rowCells, List.filter_cons_of_neg unlit, ih]
      rfl

/-- **Drawing a sprite flips its cells.** -/
theorem draw_eq (display : Display) (column row : Nat) (sprite : List UInt8) :
    display.draw column row sprite = display.flipCells (spriteCells column row sprite) := by
  induction sprite generalizing display row with
  | nil => rfl
  | cons pattern rest ih =>
    rw [draw, spriteCells, flipCells_append]
    simp only [drawPixels_eq, ih]

theorem mem_rowCells {pattern : UInt8} {column row : Nat} :
    place ∈ rowCells pattern column row (List.range 8) ↔
      ∃ c < 8, spriteBit pattern c = true ∧ cell (column + c) row = place := by
  simp [rowCells, and_assoc]

/-- The cells of a sprite, each with the row and the column that it has in the sprite. -/
theorem mem_spriteCells {column row : Nat} {sprite : List UInt8} :
    place ∈ spriteCells column row sprite ↔
      ∃ r pattern, sprite[r]? = some pattern ∧
        ∃ c < 8, spriteBit pattern c = true ∧ cell (column + c) (row + r) = place := by
  induction sprite generalizing row with
  | nil => simp [spriteCells]
  | cons pattern rest ih =>
    rw [spriteCells, List.mem_append, mem_rowCells, ih]
    constructor
    · rintro (inRow | ⟨r, other, there, inRest⟩)
      · exact ⟨0, pattern, rfl, inRow⟩
      · exact ⟨r + 1, other, there, by rwa [Nat.add_comm r 1, ← Nat.add_assoc]⟩
    · rintro ⟨r, other, there, inSprite⟩
      cases r with
      | zero =>
        obtain rfl : pattern = other := by simpa using there
        exact .inl inSprite
      | succ r =>
        exact .inr ⟨r, other, there, by rwa [Nat.add_comm r 1, ← Nat.add_assoc] at inSprite⟩

/-- The places of a sprite no higher than the picture are different, also where they wrap
around. -/
theorem cell_inj {column row c r d s : Nat} (narrow : c < 8) (low : r < displayHeight)
    (narrow' : d < 8) (low' : s < displayHeight)
    (same : cell (column + c) (row + r) = cell (column + d) (row + s)) : c = d ∧ r = s := by
  have equal := congrArg Fin.val same
  simp only [cell, displayWidth, displayHeight] at *
  omega

/-- **A sprite that is no higher than the picture flips different cells.** -/
theorem nodup_spriteCells {column row : Nat} {sprite : List UInt8}
    (fits : sprite.length ≤ displayHeight) : (spriteCells column row sprite).Nodup := by
  induction sprite generalizing row with
  | nil => exact List.nodup_nil
  | cons pattern rest ih =>
    rw [List.length_cons] at fits
    rw [spriteCells, List.nodup_append']
    refine ⟨?_, ih (by omega), ?_⟩
    · refine List.Nodup.map_on ?_ (List.nodup_range.filter _)
      intro c member d member' same
      rw [List.mem_filter, List.mem_range] at member member'
      exact (cell_inj (r := 0) (s := 0) member.1 (by decide) member'.1 (by decide) same).1
    · intro place inRow inRest
      obtain ⟨c, narrow, -, rfl⟩ := mem_rowCells.mp inRow
      obtain ⟨r, other, there, d, narrow', -, same⟩ := mem_spriteCells.mp inRest
      obtain ⟨inside, -⟩ := List.getElem?_eq_some_iff.mp there
      have low : 1 + r < displayHeight := by omega
      rw [Nat.add_assoc] at same
      have level := (cell_inj (s := 0) narrow' low narrow (by decide) same).2
      omega

end Display

/-! ### Sprites of a machine -/

namespace Machine

open Display (cell spriteBit)

/-- Whether the sprite of some rows at the index, with its top left corner at a column and a row,
meets a lit pixel. -/
def Collides (machine : Machine) (column row height : Nat) : Prop :=
  ∃ r < height, ∃ c < 8, spriteBit (machine.byteAt r) c = true ∧
    machine.display.get (column + c) (row + r) = true

/-- What drawing the sprite of some rows at the index comes to, with its top left corner at a column
and a row. -/
structure Draws (before after : Machine) (column row height : Nat) : Prop where
  /-- A pixel below the sprite changes if its bit is set. -/
  toggled : ∀ r < height, ∀ c < 8, after.display.get (column + c) (row + r) =
    (before.display.get (column + c) (row + r) ^^ spriteBit (before.byteAt r) c)
  /-- No other pixel changes. -/
  untouched : ∀ x y, (∀ r < height, ∀ c < 8, cell (column + c) (row + r) ≠ cell x y) →
    after.display.get x y = before.display.get x y
  collision : before.Collides column row height → after.v flagRegister = 1
  noCollision : ¬ before.Collides column row height → after.v flagRegister = 0
  registers : ∀ name ≠ flagRegister, after.v name = before.v name
  index : after.index = before.index
  memory : after.memory = before.memory

/-- A coordinate as it is read once the flag is cleared. -/
def coordinate (machine : Machine) (x : RegisterName) : Nat :=
  if x = flagRegister then 0 else (machine.v x).toNat

variable {machine : Machine} {x y : RegisterName} {height : Fin 16}

theorem v_setFlag (machine : Machine) (flag : Bool) (x : RegisterName) :
    (machine.setFlag flag).v x =
      if x = flagRegister then (if flag then 1 else 0) else machine.v x := by
  rw [setFlag, registers_set]
  simp only [eq_comm]

theorem coordinate_eq (machine : Machine) (x : RegisterName) :
    ((machine.setFlag false).v x).toNat = machine.coordinate x := by
  rw [v_setFlag, coordinate]
  split <;> rfl

theorem getElem?_spriteRows {r : Nat} {pattern : UInt8} :
    (machine.spriteRows height)[r]? = some pattern ↔
      r < height.val ∧ machine.byteAt r = pattern := by
  rw [spriteRows, List.getElem?_map, Option.map_eq_some_iff]
  constructor
  · rintro ⟨offset, there, same⟩
    obtain ⟨inside, rfl⟩ := List.getElem?_eq_some_iff.mp there
    rw [List.length_range] at inside
    rw [List.getElem_range] at same
    exact ⟨inside, same⟩
  · rintro ⟨inside, same⟩
    exact ⟨r, List.getElem?_range inside, same⟩

/-- The cells of the sprite at the index. -/
theorem mem_spriteCells_spriteRows {column row : Nat} {place : Fin displaySize} :
    place ∈ Display.spriteCells column row (machine.spriteRows height) ↔
      ∃ r < height.val, ∃ c < 8, spriteBit (machine.byteAt r) c = true ∧
        cell (column + c) (row + r) = place := by
  rw [Display.mem_spriteCells]
  constructor
  · rintro ⟨r, pattern, there, covered⟩
    obtain ⟨low, rfl⟩ := getElem?_spriteRows.mp there
    exact ⟨r, low, covered⟩
  · rintro ⟨r, low, covered⟩
    exact ⟨r, _, getElem?_spriteRows.mpr ⟨low, rfl⟩, covered⟩

theorem nodup_spriteCells_spriteRows (machine : Machine) {column row : Nat} {height : Fin 16} :
    (Display.spriteCells column row (machine.spriteRows height)).Nodup := by
  refine Display.nodup_spriteCells ?_
  rw [spriteRows, List.length_map, List.length_range]
  exact Nat.le_of_lt (Nat.lt_trans height.isLt (by decide))

/-- A pixel below the sprite is flipped exactly if its bit is set. -/
theorem mem_spriteCells_cell {column row r c : Nat} (low : r < height.val) (narrow : c < 8) :
    cell (column + c) (row + r) ∈ Display.spriteCells column row (machine.spriteRows height) ↔
      spriteBit (machine.byteAt r) c = true := by
  rw [mem_spriteCells_spriteRows]
  constructor
  · rintro ⟨s, low', d, narrow', lit, same⟩
    have short : height.val ≤ displayHeight := Nat.le_of_lt (Nat.lt_trans height.isLt (by decide))
    obtain ⟨rfl, rfl⟩ := Display.cell_inj narrow' (Nat.lt_of_lt_of_le low' short) narrow
      (Nat.lt_of_lt_of_le low short) same
    exact lit
  · exact fun lit => ⟨r, low, c, narrow, lit, rfl⟩

theorem setFlag_setFlag (machine : Machine) (first second : Bool) :
    (machine.setFlag first).setFlag second = machine.setFlag second := by
  simp [setFlag, setV]

/-- The sprite is drawn at the coordinates as they are read, and the flag says whether it erased a
lit pixel. -/
theorem drawSprite_eq (machine : Machine) (x y : RegisterName) (height : Fin 16) :
    machine.drawSprite x y height =
      let drawn := machine.display.draw (machine.coordinate x) (machine.coordinate y)
        (machine.spriteRows height)
      { machine.setFlag drawn.1 with display := drawn.2 } := by
  unfold drawSprite
  simp only [coordinate_eq]
  change (if (machine.display.draw _ _ (machine.spriteRows height)).1 = true then
    Machine.setFlag { machine.setFlag false with
      display := (machine.display.draw _ _ (machine.spriteRows height)).2 } true
    else { machine.setFlag false with
      display := (machine.display.draw _ _ (machine.spriteRows height)).2 }) = _
  generalize machine.display.draw _ _ _ = drawn
  obtain ⟨erased, picture⟩ := drawn
  cases erased with
  | false => rfl
  | true =>
    show ({ (machine.setFlag false).setFlag true with display := picture } : Machine) = _
    rw [setFlag_setFlag]

/-- Drawing erases a lit pixel exactly if the sprite meets one. -/
theorem draw_erases (machine : Machine) (column row : Nat) (height : Fin 16) :
    (machine.display.draw column row (machine.spriteRows height)).1 = true ↔
      machine.Collides column row height.val := by
  rw [Display.draw_eq, Display.flipCells_erases (nodup_spriteCells_spriteRows machine)]
  constructor
  · rintro ⟨place, member, lit⟩
    obtain ⟨r, low, c, narrow, set, rfl⟩ := mem_spriteCells_spriteRows.mp member
    exact ⟨r, low, c, narrow, set, lit⟩
  · rintro ⟨r, low, c, narrow, set, lit⟩
    exact ⟨_, mem_spriteCells_spriteRows.mpr ⟨r, low, c, narrow, set, rfl⟩, lit⟩

/-- **The sprite at the index is drawn at the coordinates**, where the flag register counts as
zero. -/
theorem draws_drawSprite (machine : Machine) (x y : RegisterName) (height : Fin 16) :
    machine.Draws (machine.drawSprite x y height) (machine.coordinate x) (machine.coordinate y)
      height.val := by
  have pixel : ∀ place, (machine.drawSprite x y height).display.pixels[place] =
      (machine.display.pixels[place] ^^ (Display.spriteCells (machine.coordinate x)
        (machine.coordinate y) (machine.spriteRows height)).contains place) := by
    intro place
    rw [drawSprite_eq, ← Display.get_flipCells (nodup_spriteCells_spriteRows machine),
      ← Display.draw_eq]
  have flagged : (machine.drawSprite x y height).v flagRegister =
      if (machine.display.draw (machine.coordinate x) (machine.coordinate y)
        (machine.spriteRows height)).1 then 1 else 0 := by
    rw [drawSprite_eq]
    exact v_setFlag machine _ flagRegister
  refine ⟨fun r low c narrow => ?_, fun column row apart => ?_, fun met => ?_, fun missed => ?_,
    fun name other => ?_, ?_, ?_⟩
  · rw [Display.get, pixel, Display.get]
    congr 1
    rw [Bool.eq_iff_iff, List.contains_iff_mem, mem_spriteCells_cell low narrow]
  · have outside : (Display.spriteCells (machine.coordinate x) (machine.coordinate y)
        (machine.spriteRows height)).contains (cell column row) = false := by
      rw [Bool.eq_false_iff, ne_eq, List.contains_iff_mem]
      intro member
      obtain ⟨r, low, c, narrow, -, same⟩ := mem_spriteCells_spriteRows.mp member
      exact apart r low c narrow same
    rw [Display.get, pixel, Display.get, outside, Bool.xor_false]
  · rw [flagged, if_pos ((draw_erases machine _ _ height).mpr met)]
  · rw [flagged, if_neg fun erased => missed ((draw_erases machine _ _ height).mp erased)]
  · rw [drawSprite_eq]
    exact (v_setFlag machine _ name).trans (if_neg other)
  · rw [drawSprite_eq]
    rfl
  · rw [drawSprite_eq]
    rfl

/-- Corners that wrap around to the same pixel are the same for drawing. -/
theorem Draws.of_same_corner {before after : Machine} {column row column' row' height : Nat}
    (drawn : before.Draws after column row height)
    (sameColumn : column % displayWidth = column' % displayWidth)
    (sameRow : row % displayHeight = row' % displayHeight) :
    before.Draws after column' row' height := by
  have same : ∀ c r, cell (column + c) (row + r) = cell (column' + c) (row' + r) := by
    intro c r
    apply Fin.ext
    simp only [cell, Nat.add_mod column, Nat.add_mod row, sameColumn, sameRow, Nat.add_mod_mod,
      Nat.mod_add_mod]
  have get : ∀ (machine : Machine) c r, machine.display.get (column + c) (row + r) =
      machine.display.get (column' + c) (row' + r) := by
    intro machine c r
    simp only [Display.get, same]
  have collides : before.Collides column row height ↔ before.Collides column' row' height := by
    simp only [Collides, get]
  refine ⟨fun r low c narrow => ?_, fun x y apart => ?_, fun met => ?_, fun missed => ?_,
    drawn.registers, drawn.index, drawn.memory⟩
  · rw [← get after, ← get before]
    exact drawn.toggled r low c narrow
  · exact drawn.untouched x y fun r low c narrow covered =>
      apart r low c narrow ((same c r).symm.trans covered)
  · exact drawn.collision (collides.mpr met)
  · exact drawn.noCollision fun met => missed (collides.mp met)

/-- **An opcode that draws does so at the coordinates in its registers**, unless one of them is the
flag register: the flag is cleared before the coordinates are read, so the sprite is then drawn from
the first column or row on. That makes no difference if the register names that column or row. -/
theorem draws_where_asked (machine : Machine) (opcode : Opcode) (drawing : opcode.op = 0xD) :
    ∃ after, machine.execute opcode = .ok (.draw, after) ∧
      machine.Draws after (machine.coordinate opcode.x) (machine.coordinate opcode.y)
        opcode.n.val ∧
      ((opcode.x = flagRegister → (machine.v opcode.x).toNat % displayWidth = 0) →
        (opcode.y = flagRegister → (machine.v opcode.y).toNat % displayHeight = 0) →
        machine.Draws after (machine.v opcode.x).toNat (machine.v opcode.y).toNat
          opcode.n.val) := by
  have carries : Instruction.decode? opcode = some (.draw opcode.x opcode.y opcode.n) :=
    Opcode.decode?_eq_some_iff.mpr ⟨drawing, rfl, rfl, rfl⟩
  have drawn := draws_drawSprite machine opcode.x opcode.y opcode.n
  refine ⟨machine.drawSprite opcode.x opcode.y opcode.n, ?_, drawn, fun first top => ?_⟩
  · rw [execute, carries]
    rfl
  · refine drawn.of_same_corner ?_ ?_
    · unfold coordinate
      split
      case isTrue flag => exact (first flag).symm
      case isFalse => rfl
    · unfold coordinate
      split
      case isTrue flag => exact (top flag).symm
      case isFalse => rfl

/-- A machine with one pixel of a sprite at the index and a coordinate in the flag register. -/
def flagged : Machine :=
  ((Machine.new .perInstruction 0).setByteAt 0 0x80).setV flagRegister 5

/-- A sprite at the coordinates in the first two registers. -/
theorem draws_where_asked_plain :
    (Opcode.mk 0xD015).op = 0xD ∧
      ∃ after, flagged.execute ⟨0xD015⟩ = .ok (.draw, after) ∧
        flagged.Draws after (flagged.v 0).toNat (flagged.v 1).toNat 5 := by
  obtain ⟨after, executed, -, asked⟩ := draws_where_asked flagged ⟨0xD015⟩ (by decide)
  exact ⟨by decide, after, executed, asked (by decide) (by decide)⟩

/-- **The flag register is no coordinate**: with five in it and one pixel to draw, the pixel is
drawn in the first column and not in the sixth. -/
theorem exists_misdrawn :
    ∃ after, flagged.execute ⟨0xDF11⟩ = .ok (.draw, after) ∧
      ¬ flagged.Draws after (flagged.v flagRegister).toNat (flagged.v 1).toNat 1 := by
  refine ⟨flagged.drawSprite flagRegister 1 1, rfl, fun asked => ?_⟩
  have byte : flagged.byteAt 0 = 0x80 := Memory.get_set _ _ _ _
  have dark : ∀ column row, flagged.display.get column row = false := Display.get_dark
  have wanted : (flagged.drawSprite flagRegister 1 1).display.get 5 0 = true := by
    have toggled := asked.toggled 0 (by decide) 0 (by decide)
    rw [dark, byte] at toggled
    exact toggled
  have drawn : (flagged.drawSprite flagRegister 1 1).display.get 5 0 = false := by
    have toggled := (draws_drawSprite flagged flagRegister 1 1).toggled 0 (by decide) 5 (by decide)
    rw [dark, byte] at toggled
    exact toggled
  rw [wanted] at drawn
  cases drawn

end Machine

end Arcade
