/-
**A program takes the place of the one before.**

Loading a program checks its size, wipes memory, call stack and picture, and writes the font and
then the program (`Loading.load`). So nothing in memory comes from the program before: a byte is the
font's, the program's or zero. The registers, the index, the timers, the keypad and the source of
random bytes are not touched (`Part.Outlasts`).

* `Memory.get_load`: memory after a block that ends within it was written;
* `Loading.outcome_load`: done step by step, loading comes to the same, and a program that is too
  large is refused before the first write;
* `Machine.loads_load`: what a machine is once it loaded a program;
* `Machine.load_congr`: what loading wipes does not matter afterwards;
* `Clockwork.leaves_nothing_behind`: all of this, and that no later run can tell what was there
  before.
-/

import Arcade.Proofs.Machine.Account
import Arcade.Proofs.Machine.LastWrite

namespace Arcade

/-! ### Blocks of bytes -/

namespace Memory

/-- **A block that ends within memory lies where it was written**, and the rest of memory is as it
was. -/
theorem get_load (memory : Memory) {start : Nat} {block : List UInt8}
    (fits : start + block.length ≤ memorySize) (address : Address) :
    (memory.load start block).get address =
      if start ≤ address.val ∧ address.val < start + block.length then
        block.getD (address.val - start) 0
      else memory.get address := by
  have bound : address.val < 4096 := address.isLt
  have whole := memory.get_load_last start block address.val
  rw [show Address.wrap address.val = address from Fin.ext (Nat.mod_eq_of_lt bound)] at whole
  simp only [Falls, memorySize] at fits whole
  -- No place wraps, so a byte falls on the address if it lies there.
  rcases whole with ⟨last, ⟨⟨inside, falls⟩, -⟩, found⟩ | ⟨nowhere, kept⟩
  · have there : address.val - start = last := by omega
    rw [if_pos (by omega), there, List.getD_eq_getElem?_getD, found]
    rfl
  · rw [if_neg fun within => nowhere (address.val - start) (by omega) (by omega), kept]

end Memory

namespace Clockwork

variable {clockwork : Clockwork} {program : List UInt8}

theorem operate_load_of_large (large : programLimit < program.length) (now : Moment) :
    clockwork.operate (.load program now) = (.failed .programTooLarge, clockwork) := by
  simp only [operate, Machine.load_eq_error.mpr ⟨rfl, large⟩]

theorem operate_load_of_loads {machine : Machine}
    (loads : clockwork.machine.load program = .ok machine) (now : Moment) :
    clockwork.operate (.load program now) = (.done, ⟨machine, clockwork.timer.reset now⟩) := by
  simp only [operate, loads]

end Clockwork

/-! ### Loading step by step -/

/-- A program that writes to a machine and its clock in place, and may be refused. -/
abbrev Loading (α : Type) := ExceptT MachineError (StateM Clockwork) α

namespace Loading

/-- What a program returns, or why it was refused, and what it leaves in either case. -/
def outcome {α : Type} (program : Loading α) (clockwork : Clockwork) :
    Except MachineError α × Clockwork :=
  StateT.run (ExceptT.run program) clockwork

/-- Writes to the machine. -/
def write (change : Machine → Machine) : Loading Unit :=
  modify fun clockwork => { clockwork with machine := change clockwork.machine }

/-- Writes bytes to memory one after another. -/
def writeBlock : (start : Nat) → (block : List UInt8) → Loading Unit
  | _, [] => pure ()
  | start, byte :: rest => do
    write fun machine =>
      { machine with memory := machine.memory.set (Address.wrap start) byte }
    writeBlock (start + 1) rest

/-- Loads a program. -/
def load (program : List UInt8) (now : Moment) : Loading Unit := do
  if programLimit < program.length then
    throw .programTooLarge
  write ({ · with memory := Memory.blank })
  write ({ · with stack := CallStack.empty })
  write ({ · with display := Display.dark })
  writeBlock fontStart.val font
  writeBlock programStart.val program
  write ({ · with counter := programStart })
  modify fun clockwork => { clockwork with timer := clockwork.timer.reset now }

variable {clockwork : Clockwork}

theorem outcome_bind {α β : Type} (program : Loading α) (next : α → Loading β) :
    (program >>= next).outcome clockwork =
      match program.outcome clockwork with
      | (.ok value, after) => (next value).outcome after
      | (.error error, after) => (.error error, after) := by
  unfold outcome
  simp only [bind, ExceptT.bind, ExceptT.mk, StateT.bind, ExceptT.run, StateT.run]
  cases program clockwork with
  | mk result after => cases result <;> rfl

theorem outcome_write (change : Machine → Machine) :
    (write change).outcome clockwork =
      (.ok (), { clockwork with machine := change clockwork.machine }) := rfl

theorem outcome_writeBlock (start : Nat) (block : List UInt8) :
    (writeBlock start block).outcome clockwork =
      (.ok (), { clockwork with machine :=
        { clockwork.machine with memory := clockwork.machine.memory.load start block } }) := by
  induction block generalizing start clockwork with
  | nil => rfl
  | cons byte rest ih => exact ih (start + 1)

/-- **Done step by step, loading comes to the same.** A program that is too large is refused before
anything is written. -/
theorem outcome_load (program : List UInt8) (now : Moment) :
    (load program now).outcome clockwork =
      (if programLimit < program.length then .error .programTooLarge else .ok (),
        (clockwork.operate (.load program now)).2) := by
  by_cases large : programLimit < program.length
  · rw [Clockwork.operate_load_of_large large]
    simp only [load, large, if_true]
    rfl
  · have fits : clockwork.machine.load program = .ok _ := if_pos (Nat.not_lt.mp large)
    rw [Clockwork.operate_load_of_loads fits]
    simp only [load, large, if_false, outcome_bind, outcome_writeBlock, outcome_write]
    rfl

end Loading

/-! ### The machine afterwards -/

/-- Whether loading a program leaves a part of the machine as it is. -/
def Part.Outlasts : Part → Prop
  | .memory _ | .stack | .display | .counter => False
  | .register _ | .index | .delay | .sound | .keypad | .random | .timerMode => True

instance : DecidablePred Part.Outlasts
  | .memory _ | .stack | .display | .counter => isFalse id
  | .register _ | .index | .delay | .sound | .keypad | .random | .timerMode => isTrue trivial

namespace Machine

/-- The byte at an address once a program was loaded: the font's, the program's or zero. -/
def loadedByte (program : List UInt8) (address : Address) : UInt8 :=
  if 0x050 ≤ address.val ∧ address.val ≤ 0x09F then font.getD (address.val - 0x050) 0
  else if 0x200 ≤ address.val then program.getD (address.val - 0x200) 0
  else 0

/-- What is left after a program was loaded. -/
structure Loads (program : List UInt8) (before after : Machine) : Prop where
  memory : ∀ address, after.memory.get address = loadedByte program address
  stack : after.stack.toList = []
  display : ∀ column row, after.display.get column row = false
  counter : after.counter.val = 0x200
  kept : ∀ part, part.Outlasts → after.Alike before part

variable {program : List UInt8}

/-- **Memory holds the font, the program and nothing else.** -/
theorem get_fontMemory_load (fits : program.length ≤ programLimit) (address : Address) :
    (fontMemory.load programStart.val program).get address = loadedByte program address := by
  have low : programStart.val = 0x200 := rfl
  have inside : programStart.val + program.length ≤ memorySize :=
    Nat.add_le_of_le_sub' (by decide) fits
  have glyphs : fontMemory.get address =
      if 0x050 ≤ address.val ∧ address.val < 0x050 + 80 then font.getD (address.val - 0x050) 0
      else Memory.blank.get address := Memory.get_load Memory.blank (by decide) address
  rw [Memory.get_load fontMemory inside, glyphs, Memory.get_blank, low, loadedByte]
  by_cases glyph : 0x050 ≤ address.val ∧ address.val ≤ 0x09F
  · rw [if_neg (by omega), if_pos (by omega), if_pos glyph]
  · rw [if_neg glyph, if_neg (by omega : ¬ (0x050 ≤ address.val ∧ address.val < 0x050 + 80))]
    by_cases above : 0x200 ≤ address.val
    · rw [if_pos above]
      by_cases within : address.val < 0x200 + program.length
      · rw [if_pos ⟨above, within⟩]
      · rw [if_neg fun both => within both.2, List.getD_eq_getElem?_getD,
          List.getElem?_eq_none (by omega), Option.getD_none]
    · rw [if_neg above, if_neg fun both => above both.1]

/-- **A machine that loads a program keeps what outlasts it.** -/
theorem loads_load {before after : Machine} (loaded : before.load program = .ok after) :
    Loads program before after := by
  unfold load at loaded
  split at loaded
  · rename_i fits
    cases loaded
    refine ⟨get_fontMemory_load fits, CallStack.toList_empty, Display.get_dark, rfl,
      fun part outlasts => ?_⟩
    cases part <;> first | rfl | exact absurd outlasts id
  · cases loaded

/-- **What loading wipes does not matter afterwards**: machines that are alike in what outlasts a
program are the same once they loaded one. -/
theorem load_congr {one two : Machine} (alike : ∀ part, part.Outlasts → one.Alike two part) :
    one.load program = two.load program := by
  unfold load
  split
  · refine congrArg Except.ok (eq_of_alike fun part => ?_)
    have kept := alike part
    cases part with
    | memory | stack | display | counter => rfl
    | register | index | delay | sound | keypad | random | timerMode => exact kept trivial
  · rfl

end Machine

namespace Clockwork

/-- **A program that is loaded finds nothing of the one before.** One that is too large is refused,
and nothing changes. Otherwise memory, calls, picture and program counter are the program's alone,
and the rest of the machine is kept. So machines that are alike in the rest are the same once they
loaded the program, however different they were; and if their timers go by instructions, no run
tells them apart afterwards, whenever each operation is done. -/
theorem leaves_nothing_behind (start : Clockwork) (program : List UInt8) (now : Moment) :
    let loaded := start.operate (.load program now)
    (Loading.load program now).outcome start =
        (if 3584 < program.length then .error .programTooLarge else .ok (), loaded.2) ∧
      (loaded.1 = .failed .programTooLarge ↔ 3584 < program.length) ∧
      (3584 < program.length → loaded.2 = start) ∧
      (program.length ≤ 3584 →
        loaded.1 = .done ∧ start.machine.Loads program loaded.2.machine ∧
          loaded.2.timer = start.timer.reset now ∧
          ∀ (other : Clockwork) (later : Moment), start.machine.timerMode = .perInstruction →
            (∀ part : Part, part.Outlasts → other.machine.Alike start.machine part) →
            let loaded' := other.operate (.load program later)
            loaded'.2.machine = loaded.2.machine ∧
              ∀ first second : List Operation,
                first.map Operation.timeless = second.map Operation.timeless →
                  loaded'.2.account first = loaded.2.account second) := by
  intro loaded
  refine ⟨Loading.outcome_load program now, ?_⟩
  by_cases large : 3584 < program.length
  · have refused : loaded = (.failed .programTooLarge, start) := operate_load_of_large large now
    rw [refused]
    exact ⟨⟨fun _ => large, fun _ => rfl⟩, fun _ => rfl,
      fun fits => absurd large (Nat.not_lt.mpr fits)⟩
  · obtain ⟨machine, loads⟩ : ∃ machine, start.machine.load program = .ok machine :=
      ⟨_, if_pos (Nat.not_lt.mp large)⟩
    have left := Machine.loads_load loads
    have here : loaded = (.done, ⟨machine, start.timer.reset now⟩) :=
      operate_load_of_loads loads now
    rw [here]
    refine ⟨⟨fun failed => ?_, fun big => absurd big large⟩, fun big => absurd big large,
      fun _ => ⟨rfl, left, rfl, fun other later mode alike => ?_⟩⟩
    · cases failed
    · intro loaded'
      have there : loaded' = (.done, ⟨machine, other.timer.reset later⟩) :=
        operate_load_of_loads ((Machine.load_congr alike).trans loads) later
      have kept : machine.timerMode = .perInstruction :=
        Eq.trans (left.kept .timerMode trivial) mode
      rw [there]
      exact ⟨rfl, fun first second same => account_congr (by rfl) kept same⟩

/-- A machine in the middle of a program: a call is open and some pixels are lit. -/
def busy : Clockwork :=
  (new .perInstruction 0 0).run
    [.load [0x22, 0x02, 0xD0, 0x05] 0, .execute ⟨0xA050⟩, .step 1, .step 2, .execute ⟨0xA000⟩]

/-- Loading a program makes the busy machine and a new one the same. -/
theorem leaves_nothing_behind_busy :
    (busy.machine.stack.toList = [0x202] ∧ busy.machine.display.get 0 0 = true ∧
        busy.machine.memory.get (Address.wrap 0x202) = 0xD0) ∧
      let loaded := (busy.operate (.load [0x12] 5)).2
      let loaded' := ((new .perInstruction 0 0).operate (.load [0x12] 3)).2
      loaded'.machine = loaded.machine ∧ loaded.machine.memory.get (Address.wrap 0x202) = 0 := by
  have facts : busy.machine.stack.toList = [0x202] ∧ busy.machine.display.get 0 0 = true ∧
      busy.machine.memory.get (Address.wrap 0x202) = 0xD0 := by decide +kernel
  have names : ∀ name, (Machine.new .perInstruction 0).v name = busy.machine.v name := by
    decide +kernel
  have rest : busy.machine.index = 0 ∧ busy.machine.delay = 0 ∧ busy.machine.sound = 0 ∧
      busy.machine.keypad = Keypad.released ∧ busy.machine.random = RandomSource.ofSeed 0 ∧
      busy.machine.timerMode = .perInstruction := by decide +kernel
  obtain ⟨index, delay, sound, keypad, random, mode⟩ := rest
  have alike : ∀ part : Part, part.Outlasts →
      (new .perInstruction 0 0).machine.Alike busy.machine part := by
    intro part outlasts
    cases part with
    | memory | stack | display | counter => exact absurd outlasts id
    | register name => exact names name
    | index => exact index.symm
    | delay => exact delay.symm
    | sound => exact sound.symm
    | keypad => exact keypad.symm
    | random => exact random.symm
    | timerMode => exact mode.symm
  obtain ⟨-, loads, -, same⟩ := (leaves_nothing_behind busy [0x12] 5).2.2.2 (by decide)
  exact ⟨facts, (same _ 3 mode alike).1, (loads.memory _).trans (by decide)⟩

end Clockwork

end Arcade
