/-
**What each instruction does.**

`Machine.perform` gives the effect of one instruction on a machine whose program counter already
points past it, or the fault that stops the program. A fault changes nothing, since no machine is
returned with it.

Where a result and a flag are both written the flag is written last, so it wins when the result
goes to the flag register. Drawing clears the flag before the coordinates are read.
-/

import Arcade.Machine.Instruction
import Arcade.Machine.State

namespace Arcade

/-- What kind of work an instruction did. -/
inductive Flow where
  /-- Nothing out of the ordinary. -/
  | plain
  /-- The program counter went to another address. -/
  | jump
  /-- The picture was drawn to. -/
  | draw
  /-- The sound timer was set. -/
  | sound
  /-- No key was down, so the instruction is tried again. -/
  | keyWait
  /-- The opcode carries no instruction. -/
  | unsupported
  deriving DecidableEq, Repr

namespace Machine

/-- Writes a result and then the flag. -/
def setResult (machine : Machine) (x : RegisterName) (result : UInt8) (flag : Bool) : Machine :=
  (machine.setV x result).setFlag flag

/-- Stores the given registers in memory from the index on. -/
def saveRegisters (machine : Machine) : (names : List RegisterName) → Machine
  | [] => machine
  | name :: rest => (machine.setByteAt name.val (machine.v name)).saveRegisters rest

/-- Reads the given registers from memory from the index on. -/
def restoreRegisters (machine : Machine) : (names : List RegisterName) → Machine
  | [] => machine
  | name :: rest => (machine.setV name (machine.byteAt name.val)).restoreRegisters rest

/-- The registers from the first to the given one. -/
def registersUpTo (x : RegisterName) : List RegisterName :=
  (List.finRange registerCount).filter (· ≤ x)

/-- The rows of the sprite at the index. -/
def spriteRows (machine : Machine) (height : Fin 16) : List UInt8 :=
  (List.range height.val).map machine.byteAt

/-- Draws the sprite at the index. The flag is cleared before the coordinates are read, and set if
a lit pixel is erased. -/
def drawSprite (machine : Machine) (x y : RegisterName) (height : Fin 16) : Machine :=
  let cleared := machine.setFlag false
  let (erased, drawn) :=
    cleared.display.draw (cleared.v x).toNat (cleared.v y).toNat (cleared.spriteRows height)
  let finished := { cleared with display := drawn }
  if erased then finished.setFlag true else finished

/-- Stores the decimal digits of a register, hundreds first. -/
def storeDecimal (machine : Machine) (x : RegisterName) : Machine :=
  let value := (machine.v x).toNat
  ((machine.setByteAt 0 (UInt8.ofNat (value / 100))).setByteAt 1
    (UInt8.ofNat (value / 10 % 10))).setByteAt 2 (UInt8.ofNat (value % 10))

/-- The effect of an instruction, and what kind of work it was; or the fault that it leads to. -/
def perform (machine : Machine) : Instruction → Except Fault (Flow × Machine)
  | .clearDisplay => .ok (.plain, { machine with display := Display.dark })
  | .returnFromCall => do
    let (address, stack) ← machine.stack.pop
    .ok (.jump, { machine with stack := stack, counter := Address.wrap address.toNat })
  | .jump target => .ok (.jump, { machine with counter := target })
  | .call target => do
    let stack ← machine.stack.push (UInt16.ofNat machine.counter.val)
    .ok (.jump, { machine with stack := stack, counter := target })
  | .skipIfByte x byte => .ok (.plain, machine.skipIf (machine.v x == byte))
  | .skipUnlessByte x byte => .ok (.plain, machine.skipIf (machine.v x != byte))
  | .skipIfEqual x y => .ok (.plain, machine.skipIf (machine.v x == machine.v y))
  | .skipUnlessEqual x y => .ok (.plain, machine.skipIf (machine.v x != machine.v y))
  | .loadByte x byte => .ok (.plain, machine.setV x byte)
  | .addByte x byte => .ok (.plain, machine.setV x (machine.v x + byte))
  | .copy x y => .ok (.plain, machine.setV x (machine.v y))
  | .or x y => .ok (.plain, machine.setV x (machine.v x ||| machine.v y))
  | .and x y => .ok (.plain, machine.setV x (machine.v x &&& machine.v y))
  | .xor x y => .ok (.plain, machine.setV x (machine.v x ^^^ machine.v y))
  | .add x y =>
    .ok (.plain, machine.setResult x (machine.v x + machine.v y)
      (decide (256 ≤ (machine.v x).toNat + (machine.v y).toNat)))
  | .sub x y =>
    .ok (.plain, machine.setResult x (machine.v x - machine.v y) (machine.v x > machine.v y))
  | .shiftRight x =>
    .ok (.plain, machine.setResult x (machine.v x >>> 1) ((machine.v x).toNat % 2 == 1))
  | .subFrom x y =>
    .ok (.plain, machine.setResult x (machine.v y - machine.v x) (machine.v y > machine.v x))
  | .shiftLeft x =>
    .ok (.plain, machine.setResult x (machine.v x <<< 1) (decide (128 ≤ (machine.v x).toNat)))
  | .loadIndex target => .ok (.plain, { machine with index := UInt16.ofNat target.val })
  | .jumpOffset target =>
    let offset := (machine.v firstRegister).toNat
    .ok (.jump, { machine with counter := Address.wrap (target.val + offset) })
  | .random x mask =>
    .ok (.plain,
      { machine.setV x (machine.random.byte &&& mask) with random := machine.random.next })
  | .draw x y height => .ok (.draw, machine.drawSprite x y height)
  | .skipIfDown x =>
    .ok (.plain, machine.skipIf (machine.keypad.isDown (Key.ofLowBits (machine.v x))))
  | .skipIfUp x =>
    .ok (.plain, machine.skipIf (!machine.keypad.isDown (Key.ofLowBits (machine.v x))))
  | .readDelay x => .ok (.plain, machine.setV x machine.delay)
  | .waitForKey x =>
    match machine.keypad.lowest? with
    | some key => .ok (.plain, machine.setV x (UInt8.ofNat key.val))
    | none => .ok (.keyWait, { machine with counter := machine.counter.previous })
  | .setDelay x => .ok (.plain, { machine with delay := machine.v x })
  | .setSound x => .ok (.sound, { machine with sound := machine.v x })
  | .addIndex x => .ok (.plain, { machine with index := machine.index + (machine.v x).toUInt16 })
  | .loadGlyph x =>
    .ok (.plain, { machine with
      index := UInt16.ofNat (fontStart.val + (machine.v x).toNat % 16 * glyphHeight) })
  | .storeDecimal x => .ok (.plain, machine.storeDecimal x)
  | .saveRegisters x => .ok (.plain, machine.saveRegisters (registersUpTo x))
  | .restoreRegisters x => .ok (.plain, machine.restoreRegisters (registersUpTo x))

end Machine

end Arcade
