/-
**The state of a machine.**

A machine has sixteen byte registers, an index of sixteen bits, a program counter of twelve bits,
two timers, a keypad, memory, a call stack, a picture and a source of random bytes. Loading a
program clears memory, stack and picture and points the program counter at the program; the rest is
kept.

* `registers_set`: setting a register changes that register alone;
* `load_eq_error`: a program is refused exactly if it is longer than `programLimit`.
-/

import Arcade.Machine.CallStack
import Arcade.Machine.Display
import Arcade.Machine.Keypad
import Arcade.Machine.Memory
import Arcade.Random.Source

namespace Arcade

/-- How the delay and sound timers count down. -/
inductive TimerMode where
  /-- Once for every executed instruction. -/
  | perInstruction
  /-- Sixty times a second, by whoever keeps the time. -/
  | realtime
  deriving DecidableEq, Repr

/-- A machine with its program. -/
structure Machine where
  /-- The address of the next instruction. -/
  counter : Address
  /-- The address that sprites and blocks of memory start at. -/
  index : UInt16
  registers : Vector UInt8 registerCount
  delay : UInt8
  sound : UInt8
  keypad : Keypad
  memory : Memory
  stack : CallStack
  display : Display
  random : RandomSource
  timerMode : TimerMode

namespace Machine

/-- Memory that holds the font and nothing else. -/
def fontMemory : Memory := Memory.blank.load fontStart.val font

/-- A machine without a program. -/
def new (timerMode : TimerMode) (seed : UInt64) : Machine where
  counter := Address.wrap 0
  index := 0
  registers := Vector.replicate registerCount 0
  delay := 0
  sound := 0
  keypad := Keypad.released
  memory := fontMemory
  stack := CallStack.empty
  display := Display.dark
  random := RandomSource.ofSeed seed
  timerMode := timerMode

/-- Loads a program in place of the one before. Registers, index, timers, keypad and the source of
random bytes stay as they are. -/
def load (machine : Machine) (program : List UInt8) : Except MachineError Machine :=
  if program.length ≤ programLimit then
    .ok { machine with
      memory := fontMemory.load programStart.val program
      stack := CallStack.empty
      display := Display.dark
      counter := programStart }
  else
    .error .programTooLarge

/-- A machine with a program. -/
def boot (timerMode : TimerMode) (seed : UInt64) (program : List UInt8) :
    Except MachineError Machine :=
  (new timerMode seed).load program

/-- The value of a general register. -/
def v (machine : Machine) (x : RegisterName) : UInt8 := machine.registers[x]

/-- The machine with a general register set. -/
def setV (machine : Machine) (x : RegisterName) (value : UInt8) : Machine :=
  { machine with registers := machine.registers.set x value }

/-- The machine with the flag set to one or zero. -/
def setFlag (machine : Machine) (flag : Bool) : Machine :=
  machine.setV flagRegister (if flag then 1 else 0)

/-- The machine with the next instruction passed over. -/
def skip (machine : Machine) : Machine := { machine with counter := machine.counter.next }

/-- The machine with the next instruction passed over under a condition. -/
def skipIf (machine : Machine) (condition : Bool) : Machine :=
  if condition then machine.skip else machine

/-- The machine after a key event. -/
def applyKey (machine : Machine) (event : KeyEvent) : Machine :=
  { machine with keypad := machine.keypad.apply event }

/-- Counts both timers down by one, stopping at zero. -/
def tickTimers (machine : Machine) : Machine :=
  { machine with
    delay := if machine.delay = 0 then 0 else machine.delay - 1
    sound := if machine.sound = 0 then 0 else machine.sound - 1 }

/-- Counts the timers down if they go by instructions. Timers that go by the time are left to whoever
has the clock for them. -/
def tickAfterInstruction (machine : Machine) : Machine :=
  match machine.timerMode with
  | .perInstruction => machine.tickTimers
  | .realtime => machine

/-- The byte in memory at the index plus an offset. -/
def byteAt (machine : Machine) (offset : Nat) : UInt8 :=
  machine.memory.get (Address.wrap (machine.index.toNat + offset))

/-- The machine with a byte written at the index plus an offset. -/
def setByteAt (machine : Machine) (offset : Nat) (byte : UInt8) : Machine :=
  { machine with
    memory := machine.memory.set (Address.wrap (machine.index.toNat + offset)) byte }

theorem registers_set (machine : Machine) (x other : RegisterName) (value : UInt8) :
    (machine.setV x value).v other = if x = other then value else machine.v other := by
  simp only [v, setV, Fin.getElem_fin, Vector.getElem_set, Fin.ext_iff]

theorem load_eq_error {machine : Machine} {program : List UInt8} {error : MachineError} :
    machine.load program = .error error ↔
      error = .programTooLarge ∧ programLimit < program.length := by
  unfold load
  split
  · simp; omega
  · simp only [Except.error.injEq]
    constructor
    · rintro rfl; exact ⟨rfl, by omega⟩
    · rintro ⟨rfl, _⟩; rfl

end Machine

end Arcade
