/-
**A machine in cells.**

What a machine is made of has a form as cells (`Machine.cells`), and what is done to these cells
comes to the cells of what is done to the machine. As a computation that ends well had no overrun,
this says at the same time that none of its checks fails: the bounds that they need are those of the
types that a machine is made of.

* `Register.cell_ofBits` and `Register.cell_store`: a cell is a register with its mask;
* `Machine.cells_v`, `Machine.cells_byteAt`, `Machine.cells_push` and so on: each part of a machine;
* `Display.cells_draw`: a sprite, wherever it is drawn;
* `Machine.cells_drawSprite`, `Machine.cells_saveRegisters` and `Machine.cells_restoreRegisters`:
  blocks of memory from the index on.
-/

import Arcade.Machine.Register
import Arcade.Proofs.Machine.Cells
import Arcade.Proofs.Machine.Keypad

namespace Arcade

open Checked

namespace Cell

/-- A cell of some bits that holds a number. -/
def holding (bits value : Nat) : Cell := ⟨value, 2 ^ bits - 1⟩

variable {bits value : Nat}

theorem set_holding (number : Nat) :
    (holding bits value).set number = holding bits (number % 2 ^ bits) :=
  congrArg (Cell.mk · _) (and_ones bits number)

theorem ofBits_of_lt (narrow : bits < 32) : ofBits bits = .ok (holding bits 0) := by
  have fits : 1 * 2 ^ bits < 2 ^ 32 := by
    rw [Nat.one_mul]
    exact Nat.pow_lt_pow_right Nat.one_lt_two narrow
  rw [ofBits, if_neg (Nat.not_le.mpr narrow), shiftLeft_of_lt narrow fits, ok_bind, Nat.one_mul,
    difference_of_le Nat.one_le_two_pow]
  rfl

theorem countDown_holding (small : value < 2 ^ bits) :
    (holding bits value).countDown = .ok (holding bits (value - 1)) := by
  have less : (holding bits value).value - 1 < 2 ^ bits := (Nat.sub_le value 1).trans_lt small
  unfold countDown
  split
  · rename_i running
    rw [difference_of_le running, ok_bind, set_holding, Nat.mod_eq_of_lt less]
    rfl
  · rename_i stopped
    obtain rfl : value = 0 := Nat.le_zero.mp (Nat.not_lt.mp stopped)
    rfl

end Cell

namespace Register

/-- The cell of a register. -/
def cell (register : Register) : Cell := ⟨register.value, register.largest⟩

/-- A register of any width is set up without an overrun. -/
theorem cell_ofBits (bits : Nat) : Cell.ofBits bits = .ok (ofBits bits).cell := by
  have empty : (ofBits bits).cell = .holding (min bits 32) 0 := by
    simp [ofBits, cell, value, largest, Cell.holding, widestBits]
  rw [empty]
  by_cases wide : 32 ≤ bits
  · rw [Nat.min_eq_right wide]
    exact if_pos wide
  · rw [Nat.min_eq_left (Nat.le_of_not_le wide)]
    exact Cell.ofBits_of_lt (Nat.lt_of_not_le wide)

/-- A cell keeps of a number what a register keeps. -/
theorem cell_store (register : Register) (number : Nat) :
    register.cell.set number = (register.store number).cell := by
  have kept : number &&& register.largest = (register.store number).value := by
    simp only [largest, value, store, BitVec.toNat_allOnes, BitVec.toNat_ofNat, and_ones]
  exact congrArg (Cell.mk · register.largest) kept

end Register

namespace Keypad

/-- A key event sets or clears one bit of the keypad as a number. -/
theorem bits_apply (keypad : Keypad) (event : KeyEvent) :
    (keypad.apply event).bits =
      if event.pressed then keypad.bits ||| 2 ^ event.key.val
      else keypad.bits &&& (2 ^ event.key.val ^^^ (2 ^ 16 - 1)) := by
  refine Nat.eq_of_testBit_eq fun place => ?_
  rw [keypad.testBit_bits_apply]
  cases event.pressed with
  | true =>
    rw [if_pos rfl, Nat.testBit_or, Nat.testBit_two_pow]
    by_cases same : event.key.val = place <;> simp [same]
  | false =>
    rw [if_neg Bool.false_ne_true, Nat.testBit_and, Nat.testBit_xor, Nat.testBit_two_pow,
      Nat.testBit_two_pow_sub_one]
    by_cases inside : place < 16
    · by_cases same : event.key.val = place <;> simp [same, inside]
    · have other : event.key.val ≠ place := fun same => inside (same ▸ event.key.isLt)
      rw [if_neg other, keypad.testBit_bits_of_le (Nat.not_lt.mp inside), Bool.false_and]

end Keypad

/-- The numbers of a picture's pixels. -/
def Display.cells (display : Display) : Pixels := display.pixels.map Bool.toNat

namespace Machine

/-- The cells of a machine. -/
def cells (machine : Machine) (timer : Clock) : Cells where
  counter := .holding 12 machine.counter.val
  index := .holding 16 machine.index.toNat
  registers := machine.registers.map fun value => .holding 8 value.toNat
  delay := .holding 8 machine.delay.toNat
  sound := .holding 8 machine.sound.toNat
  keys := machine.keypad.bits
  memory := machine.memory.bytes.map UInt8.toNat
  slots := machine.stack.slots.map UInt16.toNat
  depth := machine.stack.depth
  picture := machine.display.cells
  random := machine.random
  timerMode := machine.timerMode
  timer := timer

variable {machine : Machine} {timer : Clock}

theorem toNat_mod (value : UInt8) : value.toNat % 2 ^ 8 = value.toNat :=
  Nat.mod_eq_of_lt value.toNat_lt

/-! ### Registers -/

theorem and_registerMask (x : RegisterName) : x.val &&& 0xF = x.val :=
  (and_ones 4 x.val).trans (Nat.mod_eq_of_lt x.isLt)

theorem cells_v (x : RegisterName) :
    (machine.cells timer).v x.val = .ok (machine.v x).toNat := by
  unfold Cells.v
  rw [and_registerMask, read_of_lt x.isLt, ok_bind]
  simp only [cells, Vector.getElem_map, Cell.holding]
  rw [toNat_mod]
  rfl

/-- A register takes what is left of a number in eight bits. -/
theorem cells_setV (x : RegisterName) {number : Nat} {value : UInt8}
    (low : number % 2 ^ 8 = value.toNat) :
    (machine.cells timer).setV x.val number = .ok ((machine.setV x value).cells timer) := by
  unfold Cells.setV
  rw [and_registerMask, read_of_lt x.isLt, ok_bind, write_of_lt x.isLt, ok_bind]
  simp only [cells, setV, Vector.getElem_map, Cell.set_holding, low, Vector.map_set]

theorem cells_setFlag (flag : Bool) :
    (machine.cells timer).setFlag flag = .ok ((machine.setFlag flag).cells timer) :=
  have low : flag.toNat % 2 ^ 8 = (if flag then (1 : UInt8) else 0).toNat := by cases flag <;> rfl
  cells_setV flagRegister low

theorem cells_setResult (x : RegisterName) {number : Nat} {value : UInt8} (flag : Bool)
    (low : number % 2 ^ 8 = value.toNat) :
    (machine.cells timer).setResult x.val number flag =
      .ok ((machine.setResult x value flag).cells timer) := by
  rw [Cells.setResult, cells_setV x low, ok_bind, cells_setFlag]
  rfl

/-! ### The program counter and the index -/

theorem counter_lt (machine : Machine) : machine.counter.val < 4096 := machine.counter.isLt

theorem cells_pc : (machine.cells timer).pc = machine.counter.val := by
  have bound := machine.counter_lt
  show machine.counter.val % 2 ^ 16 = _
  omega

theorem cells_address : (machine.cells timer).address = machine.index.toNat :=
  Nat.mod_eq_of_lt machine.index.toNat_lt

theorem cells_jump {number : Nat} (target : Address) (low : number % memorySize = target.val) :
    (machine.cells timer).jump number =
      ({ machine with counter := target } : Machine).cells timer := by
  have moved : (Cell.holding 12 machine.counter.val).set number = .holding 12 target.val :=
    (Cell.set_holding number).trans (congrArg (Cell.holding 12) low)
  simp only [Cells.jump, cells, moved]

theorem cells_setIndex {number : Nat} (target : UInt16) (low : number % 2 ^ 16 = target.toNat) :
    (machine.cells timer).setIndex number =
      ({ machine with index := target } : Machine).cells timer := by
  simp only [Cells.setIndex, cells, Cell.set_holding, low]

theorem cells_skip : (machine.cells timer).skip = .ok (machine.skip.cells timer) := by
  have bound := machine.counter_lt
  have fits : machine.counter.val + 2 < 2 ^ 32 := by omega
  show (sum 32 machine.counter.val 2 >>= _) = _
  rw [sum_of_lt fits, ok_bind, cells_jump machine.counter.next rfl]
  rfl

theorem cells_skipIf (condition : Bool) :
    (machine.cells timer).skipIf condition = .ok ((machine.skipIf condition).cells timer) := by
  cases condition with
  | false => rfl
  | true => exact cells_skip

theorem cells_rewind :
    (machine.cells timer).rewind =
      ({ machine with counter := machine.counter.previous } : Machine).cells timer := by
  refine cells_jump machine.counter.previous ?_
  show (machine.counter.val + (2 ^ 32 - 2)) % 2 ^ 32 % 4096 = (machine.counter.val + 4094) % 4096
  omega

/-! ### Timers -/

theorem cells_tickTimers :
    (machine.cells timer).tickTimers = .ok (machine.tickTimers.cells timer) := by
  have less (value : UInt8) : value.toNat - 1 = (if value = 0 then 0 else value - 1).toNat := by
    split
    · rename_i zero
      rw [zero]
      rfl
    · rename_i running
      have positive : value.toNat ≠ 0 := fun zero => running (UInt8.toNat_inj.mp zero)
      have least : 1 ≤ value := UInt8.le_iff_toNat_le.mpr (Nat.pos_of_ne_zero positive)
      rw [UInt8.toNat_sub_of_le _ _ least]
      rfl
  unfold Cells.tickTimers
  simp only [cells, Cell.countDown_holding (UInt8.toNat_lt _), ok_bind, less]
  rfl

/-! ### Memory -/

theorem and_memoryMask (number : Nat) : number &&& (memorySize - 1) = (Address.wrap number).val :=
  and_ones 12 number

theorem cells_byteAt (number : Nat) :
    (machine.cells timer).byteAt number =
      .ok (machine.memory.get (Address.wrap number)).toNat := by
  show read (machine.memory.bytes.map UInt8.toNat) _ = _
  rw [and_memoryMask, read_of_lt (Address.wrap number).isLt, Vector.getElem_map]
  rfl

/-- A byte of memory takes what is left of a number in eight bits. -/
theorem cells_setByteAt {number value : Nat} {byte : UInt8} (low : value % 2 ^ 8 = byte.toNat) :
    (machine.cells timer).setByteAt number value =
      .ok (({ machine with
        memory := machine.memory.set (Address.wrap number) byte } : Machine).cells timer) := by
  have masked : value &&& 0xFF = value % 2 ^ 8 := and_ones 8 value
  unfold Cells.setByteAt
  rw [and_memoryMask, write_of_lt (Address.wrap number).isLt, ok_bind, masked, Nat.mod_mod, low]
  simp only [cells, Memory.set, ← Vector.map_set]

/-- A block of bytes is loaded byte by byte; its places wrap, but not the sums that reach them. -/
theorem cells_loadBlock {address offset : Nat} {block : List UInt8}
    (fits : address + offset + block.length < 2 ^ 64) :
    (machine.cells timer).loadBlock address offset block =
      .ok (({ machine with
        memory := machine.memory.load (address + offset) block } : Machine).cells timer) := by
  induction block generalizing machine offset with
  | nil => rfl
  | cons byte rest ih =>
    rw [List.length_cons] at fits
    rw [Cells.loadBlock, sum_of_lt (by omega), ok_bind, cells_setByteAt (toNat_mod byte), ok_bind,
      ih (by omega)]
    rfl

/-! ### The call stack -/

theorem cells_push {address : UInt16} :
    (machine.cells timer).push address.toNat =
      .ok ((machine.stack.push address).map fun stack =>
        ({ machine with stack } : Machine).cells timer) := by
  have bound : machine.stack.depth ≤ 16 := machine.stack.depth_le
  have fits : machine.stack.depth + 1 < 2 ^ 64 := by omega
  unfold Cells.push CallStack.push
  by_cases room : machine.stack.depth < stackLimit
  · have free : ¬ stackLimit ≤ (machine.cells timer).depth := Nat.not_le.mpr room
    rw [if_neg free, dif_pos room]
    simp only [cells, write_of_lt room, sum_of_lt fits, ok_bind, ← Vector.map_set]
    rfl
  · have full : stackLimit ≤ (machine.cells timer).depth := Nat.not_lt.mp room
    rw [if_pos full, dif_neg room]
    rfl

theorem cells_pop :
    (machine.cells timer).pop =
      .ok (machine.stack.pop.map fun (address, stack) =>
        (address.toNat, ({ machine with stack } : Machine).cells timer)) := by
  have bound := machine.stack.depth_le
  unfold Cells.pop CallStack.pop
  by_cases used : 0 < machine.stack.depth
  · have inside : machine.stack.depth - 1 < stackLimit := by omega
    have filled : ¬ (machine.cells timer).depth = 0 := Nat.ne_of_gt used
    rw [if_neg filled, dif_pos used]
    simp only [cells, difference_of_le used, read_of_lt inside, ok_bind, Vector.getElem_map]
    rfl
  · have empty : (machine.cells timer).depth = 0 := Nat.eq_zero_of_not_pos used
    rw [if_pos empty, dif_neg used]
    rfl

/-! ### The keypad -/

theorem cells_setKey (event : KeyEvent) :
    (machine.cells timer).setKey event.key.val event.pressed =
      .ok ((machine.applyKey event).cells timer) := by
  have fits : 1 * 2 ^ event.key.val < 2 ^ 16 := by
    rw [Nat.one_mul]
    exact Nat.pow_lt_pow_right Nat.one_lt_two event.key.isLt
  unfold Cells.setKey
  rw [shiftLeft_of_lt event.key.isLt fits, ok_bind, Nat.one_mul]
  simp only [cells, applyKey, Keypad.bits_apply]

/-- The lowest four bits of a number name the key that is looked at. -/
theorem cells_isPressed {number : Nat} (key : Key) (low : number % 2 ^ 4 = key.val) :
    (machine.cells timer).isPressed number = .ok (machine.keypad.isDown key) := by
  have named : number &&& 0xF = key.val := (and_ones 4 number).trans low
  have fits : 1 * 2 ^ key.val < 2 ^ 16 := by
    rw [Nat.one_mul]
    exact Nat.pow_lt_pow_right Nat.one_lt_two key.isLt
  unfold Cells.isPressed
  rw [named, shiftLeft_of_lt key.isLt fits, ok_bind, Nat.one_mul]
  show Except.ok (machine.keypad.bits &&& 2 ^ key.val != 0) = _
  rw [Nat.and_two_pow, machine.keypad.testBit_bits]
  cases machine.keypad.isDown key <;> simp

theorem cells_firstPressed :
    (machine.cells timer).firstPressed (List.range keyCount) =
      .ok (machine.keypad.lowest?.map Fin.val) := by
  have first (keys : List Key) : (machine.cells timer).firstPressed (keys.map Fin.val) =
      .ok ((keys.find? machine.keypad.isDown).map Fin.val) := by
    induction keys with
    | nil => rfl
    | cons key rest ih =>
      rw [List.map_cons, Cells.firstPressed, cells_isPressed key (Nat.mod_eq_of_lt key.isLt),
        ok_bind, List.find?_cons, ih]
      cases machine.keypad.isDown key <;> rfl
  exact first (List.finRange keyCount)

end Machine

/-! ### Pictures -/

namespace Display

/-- A pixel lies within the picture, wherever its column and row are. -/
theorem cells_erase (display : Display) (column row : Nat) :
    display.cells.set column row 1 =
      .ok ((display.erase column row).1, (display.erase column row).2.cells) := by
  have place : (cell column row).val = column % 64 + row % 32 * 64 := rfl
  have inside : (cell column row).val < 2048 := (cell column row).isLt
  have lit : display.cells[(cell column row).val] = (display.get column row).toNat :=
    Vector.getElem_map ..
  have flipped (lit : Bool) : lit.toNat ^^^ (1 &&& 1) = (!lit).toNat := by cases lit <;> rfl
  have erased (lit : Bool) : (lit.toNat == 1 && (!lit).toNat == 0) = lit := by cases lit <;> rfl
  unfold Pixels.set
  rw [product_of_lt (by simp only [displayHeight, displayWidth]; omega), ok_bind,
    sum_of_lt (by simp only [displayHeight, displayWidth]; omega), ok_bind]
  show (read display.cells (cell column row).val >>= _) = _
  rw [read_of_lt inside, lit, ok_bind, flipped]
  show (write display.cells (cell column row).val _ >>= _) = _
  rw [write_of_lt inside, ok_bind, erased]
  simp only [cells, erase, flip, Vector.map_set]

/-- One row of a sprite is drawn pixel by pixel. -/
theorem cells_drawPixels {display : Display} {erased : Bool} {pattern : UInt8} {column row : Nat}
    {offsets : List Nat} (inside : ∀ offset ∈ offsets, offset ≤ 7) (fits : column + 7 < 2 ^ 64) :
    display.cells.drawRow erased pattern.toNat column row offsets =
      .ok (erased || (display.drawPixels pattern column row offsets).1,
        (display.drawPixels pattern column row offsets).2.cells) := by
  induction offsets generalizing display erased with
  | nil => simp [Pixels.drawRow, drawPixels]
  | cons offset rest ih =>
    have least := inside offset List.mem_cons_self
    have later : ∀ offset ∈ rest, offset ≤ 7 :=
      fun other member => inside other (List.mem_cons_of_mem offset member)
    have bit : (pattern.toNat >>> (7 - offset) &&& 1 == 1) = spriteBit pattern offset :=
      shiftRight_and_one _ _
    rw [Nat.shiftRight_eq_div_pow] at bit
    rw [Pixels.drawRow, difference_of_le least, ok_bind, shiftRight_of_lt (by omega), ok_bind, bit,
      drawPixels]
    cases spriteBit pattern offset with
    | false => exact ih later
    | true =>
      rw [if_pos rfl, if_pos rfl, sum_of_lt (by omega), ok_bind, cells_erase, ok_bind]
      simp only [ih later, Bool.or_assoc]

/-- A sprite is drawn row by row. -/
theorem cells_draw {display : Display} {erased : Bool} {column row offset : Nat}
    {sprite : List UInt8} (wide : column + 7 < 2 ^ 64)
    (high : row + offset + sprite.length < 2 ^ 64) :
    display.cells.draw erased column row offset (sprite.map UInt8.toNat) =
      .ok (erased || (display.draw column (row + offset) sprite).1,
        (display.draw column (row + offset) sprite).2.cells) := by
  induction sprite generalizing display erased offset with
  | nil => simp [Pixels.draw, draw]
  | cons pattern rest ih =>
    rw [List.length_cons] at high
    have columns : ∀ offset ∈ List.range 8, offset ≤ 7 :=
      fun offset member => Nat.le_of_lt_succ (List.mem_range.mp member)
    rw [List.map_cons, Pixels.draw, sum_of_lt (by omega), ok_bind, cells_drawPixels columns wide,
      ok_bind, draw]
    simp only [ih (show row + (offset + 1) + rest.length < 2 ^ 64 by omega), Bool.or_assoc]
    rfl

end Display

namespace Machine

variable {machine : Machine} {timer : Clock}

/-! ### Sprites and blocks of memory -/

theorem index_lt (machine : Machine) : machine.index.toNat < 65536 := machine.index.toNat_lt

/-- The places of a block from the index on are reached without an overrun. -/
theorem sum_address {offset : Nat} (near : offset < 16) :
    sum 64 (machine.cells timer).address offset = .ok (machine.index.toNat + offset) := by
  have bound := machine.index_lt
  rw [cells_address, sum_of_lt (by omega)]

theorem cells_spriteRows (height : Fin 16) :
    (machine.cells timer).spriteRows height.val =
      .ok ((machine.spriteRows height).map UInt8.toNat) := by
  have bound := height.isLt
  unfold Cells.spriteRows
  rw [mapM_of_forall fun offset =>
    if offset < height.val then (machine.byteAt offset).toNat else 0]
  · rw [ok_bind, slice_of_le (by rw [List.length_map, List.length_range]; omega), ← List.map_take,
      List.take_range, Nat.min_eq_left (by omega), spriteRows, List.map_map]
    refine congrArg Except.ok (List.map_congr_left fun offset member => ?_)
    exact if_pos (List.mem_range.mp member)
  · intro offset member
    have near := List.mem_range.mp member
    split
    · rw [sum_address (by omega), ok_bind, cells_byteAt]
      rfl
    · rfl

theorem cells_drawSprite (x y : RegisterName) (height : Fin 16) :
    (machine.cells timer).drawSprite x.val y.val height.val =
      .ok ((machine.drawSprite x y height).cells timer) := by
  have low := height.isLt
  unfold Cells.drawSprite drawSprite
  rw [cells_setFlag, ok_bind]
  generalize machine.setFlag false = cleared
  have column := (cleared.v x).toNat_lt
  have row := (cleared.v y).toNat_lt
  have short : (cleared.spriteRows height).length = height.val := by
    rw [spriteRows, List.length_map, List.length_range]
  rw [cells_spriteRows, ok_bind, cells_v, ok_bind, cells_v, ok_bind]
  show (cleared.display.cells.draw _ _ _ _ _ >>= _) = _
  rw [Display.cells_draw (by omega) (by rw [short]; omega), ok_bind, Bool.false_or]
  simp only [Nat.add_zero]
  generalize cleared.display.draw _ _ _ = drawn
  cases drawn.1 with
  | false => rfl
  | true => exact @cells_setFlag { cleared with display := drawn.2 } timer true

theorem cells_storeDecimal (x : RegisterName) :
    (machine.cells timer).storeDecimal x.val = .ok ((machine.storeDecimal x).cells timer) := by
  have bound := machine.index_lt
  have digit (number : Nat) : number % 2 ^ 8 = (UInt8.ofNat number).toNat := by simp
  unfold Cells.storeDecimal
  simp only [cells_v, ok_bind, cells_address]
  rw [cells_setByteAt (digit _), ok_bind, sum_of_lt (by omega), ok_bind, cells_setByteAt (digit _),
    ok_bind, sum_of_lt (by omega), ok_bind, cells_setByteAt (digit _)]
  rfl

theorem cells_saveRegisters (names : List RegisterName) :
    (machine.cells timer).saveRegisters machine.index.toNat (names.map Fin.val) =
      .ok ((machine.saveRegisters names).cells timer) := by
  induction names generalizing machine with
  | nil => rfl
  | cons name rest ih =>
    have bound := machine.index_lt
    have near := name.isLt
    rw [List.map_cons, Cells.saveRegisters, cells_v, ok_bind, sum_of_lt (by omega), ok_bind,
      cells_setByteAt (toNat_mod _), ok_bind]
    exact ih

theorem cells_restoreRegisters (names : List RegisterName) :
    (machine.cells timer).restoreRegisters machine.index.toNat (names.map Fin.val) =
      .ok ((machine.restoreRegisters names).cells timer) := by
  induction names generalizing machine with
  | nil => rfl
  | cons name rest ih =>
    have bound := machine.index_lt
    have near := name.isLt
    rw [List.map_cons, Cells.restoreRegisters, sum_of_lt (by omega), ok_bind, cells_byteAt, ok_bind,
      cells_setV name (toNat_mod _), ok_bind]
    exact ih

theorem registersUpTo_map_val (x : RegisterName) :
    (registersUpTo x).map Fin.val = List.range (x.val + 1) := by
  revert x
  decide

end Machine

end Arcade
