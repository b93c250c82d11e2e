/-
**A fault leaves the machine as it is.**

`Machine.execute` returns no machine with a fault, so it cannot say what a program that writes cell
by cell has written before the fault. The programs here do write in place, in the order in which the
machine's own program does, and what they have written stays whatever comes after (`InPlace`). They
do what the machine does, and with a fault they leave it where it was before the opcode: each check
comes before the first write.

* `InPlace.outcome_execute`, `InPlace.outcome_step` and `InPlace.outcome_cycle`: written in place,
  an opcode, a step and a batch do the same;
* `Machine.execute_eq_error_iff`: a call on a full stack and a return on an empty one fail, and
  nothing else does;
* `Clockwork.cycle_eq_none_iff` and `Clockwork.cycle_eq_some_iff`: a batch is its steps up to the
  first that fails;
* `Clockwork.fails_intact`: all of this for every machine that may be reached.
-/

import Arcade.Proofs.Machine.Operation
import Arcade.Proofs.Machine.Repertoire

namespace Arcade

/-- A program that writes to a machine and its clock in place. What it has written stays if it fails
afterwards. -/
abbrev InPlace (α : Type) := ExceptT Fault (StateM Clockwork) α

namespace InPlace

/-! ### Writing cell by cell -/

/-- What a program returns, or its fault, and what it leaves in either case. -/
def outcome {α : Type} (program : InPlace α) (clockwork : Clockwork) :
    Except Fault α × Clockwork :=
  StateT.run (ExceptT.run program) clockwork

/-- The machine as it is now. -/
def machine : InPlace Machine := do
  return (← get).machine

/-- Writes to the machine. -/
def write (change : Machine → Machine) : InPlace Unit :=
  modify fun clockwork => { clockwork with machine := change clockwork.machine }

def setV (x : RegisterName) (value : UInt8) : InPlace Unit := write (·.setV x value)

def setFlag (flag : Bool) : InPlace Unit := write (·.setFlag flag)

def setIndex (index : UInt16) : InPlace Unit := write ({ · with index := index })

def jump (target : Address) : InPlace Unit := write ({ · with counter := target })

def skipIf (condition : Bool) : InPlace Unit := if condition then write Machine.skip else pure ()

/-- Puts an address on the stack: the slot is written, then the depth. -/
def push (address : UInt16) : InPlace Unit := do
  let stack := (← machine).stack
  if room : stack.depth < stackLimit then
    let slots := stack.slots.set stack.depth address
    write ({ · with stack := { stack with slots := slots } })
    write ({ · with stack := ⟨slots, stack.depth + 1, room⟩ })
  else
    throw .stackOverflow

/-- Takes an address off the stack. -/
def pop : InPlace UInt16 := do
  let stack := (← machine).stack
  if used : 0 < stack.depth then
    have inside : stack.depth - 1 < stackLimit := by have := stack.depth_le; omega
    write ({ · with stack := ⟨stack.slots, stack.depth - 1, by omega⟩ })
    return stack.slots[stack.depth - 1]
  else
    throw .stackUnderflow

/-- Stores registers in memory, one after another. -/
def saveRegisters : (names : List RegisterName) → InPlace Unit
  | [] => pure ()
  | name :: rest => do
    let value := (← machine).v name
    write (·.setByteAt name.val value)
    saveRegisters rest

/-- Reads registers from memory, one after another. -/
def restoreRegisters : (names : List RegisterName) → InPlace Unit
  | [] => pure ()
  | name :: rest => do
    let byte := (← machine).byteAt name.val
    setV name byte
    restoreRegisters rest

/-- Draws the sprite at the index: the flag is cleared, the picture is drawn to, and the flag is set
if a lit pixel was erased. -/
def drawSprite (x y : RegisterName) (height : Fin 16) : InPlace Unit := do
  setFlag false
  let cleared ← machine
  let (erased, drawn) :=
    cleared.display.draw (cleared.v x).toNat (cleared.v y).toNat (cleared.spriteRows height)
  write ({ · with display := drawn })
  if erased then setFlag true

/-- Performs an instruction. -/
def perform : Instruction → InPlace Flow
  | .clearDisplay => do
    write ({ · with display := Display.dark })
    return .plain
  | .returnFromCall => do
    let address ← pop
    jump (Address.wrap address.toNat)
    return .jump
  | .jump target => do
    jump target
    return .jump
  | .call target => do
    push (UInt16.ofNat (← machine).counter.val)
    jump target
    return .jump
  | .skipIfByte x byte => do
    skipIf ((← machine).v x == byte)
    return .plain
  | .skipUnlessByte x byte => do
    skipIf ((← machine).v x != byte)
    return .plain
  | .skipIfEqual x y => do
    skipIf ((← machine).v x == (← machine).v y)
    return .plain
  | .skipUnlessEqual x y => do
    skipIf ((← machine).v x != (← machine).v y)
    return .plain
  | .loadByte x byte => do
    setV x byte
    return .plain
  | .addByte x byte => do
    setV x ((← machine).v x + byte)
    return .plain
  | .copy x y => do
    setV x ((← machine).v y)
    return .plain
  | .or x y => do
    setV x ((← machine).v x ||| (← machine).v y)
    return .plain
  | .and x y => do
    setV x ((← machine).v x &&& (← machine).v y)
    return .plain
  | .xor x y => do
    setV x ((← machine).v x ^^^ (← machine).v y)
    return .plain
  | .add x y => do
    let (one, two) := ((← machine).v x, (← machine).v y)
    setV x (one + two)
    setFlag (decide (256 ≤ one.toNat + two.toNat))
    return .plain
  | .sub x y => do
    let (one, two) := ((← machine).v x, (← machine).v y)
    setV x (one - two)
    setFlag (one > two)
    return .plain
  | .shiftRight x => do
    let value := (← machine).v x
    setV x (value >>> 1)
    setFlag (value.toNat % 2 == 1)
    return .plain
  | .subFrom x y => do
    let (one, two) := ((← machine).v x, (← machine).v y)
    setV x (two - one)
    setFlag (two > one)
    return .plain
  | .shiftLeft x => do
    let value := (← machine).v x
    setV x (value <<< 1)
    setFlag (decide (128 ≤ value.toNat))
    return .plain
  | .loadIndex target => do
    setIndex (UInt16.ofNat target.val)
    return .plain
  | .jumpOffset target => do
    jump (Address.wrap (target.val + ((← machine).v firstRegister).toNat))
    return .jump
  | .random x mask => do
    let byte := (← machine).random.byte
    write fun machine => { machine with random := machine.random.next }
    setV x (byte &&& mask)
    return .plain
  | .draw x y height => do
    drawSprite x y height
    return .draw
  | .skipIfDown x => do
    skipIf ((← machine).keypad.isDown (Key.ofLowBits ((← machine).v x)))
    return .plain
  | .skipIfUp x => do
    skipIf (!(← machine).keypad.isDown (Key.ofLowBits ((← machine).v x)))
    return .plain
  | .readDelay x => do
    setV x (← machine).delay
    return .plain
  | .waitForKey x => do
    match (← machine).keypad.lowest? with
    | some key =>
      setV x (UInt8.ofNat key.val)
      return .plain
    | none =>
      jump (← machine).counter.previous
      return .keyWait
  | .setDelay x => do
    write fun machine => { machine with delay := machine.v x }
    return .plain
  | .setSound x => do
    write fun machine => { machine with sound := machine.v x }
    return .sound
  | .addIndex x => do
    setIndex ((← machine).index + ((← machine).v x).toUInt16)
    return .plain
  | .loadGlyph x => do
    setIndex (UInt16.ofNat (fontStart.val + ((← machine).v x).toNat % 16 * glyphHeight))
    return .plain
  | .storeDecimal x => do
    let value := ((← machine).v x).toNat
    write (·.setByteAt 0 (UInt8.ofNat (value / 100)))
    write (·.setByteAt 1 (UInt8.ofNat (value / 10 % 10)))
    write (·.setByteAt 2 (UInt8.ofNat (value % 10)))
    return .plain
  | .saveRegisters x => do
    saveRegisters (Machine.registersUpTo x)
    return .plain
  | .restoreRegisters x => do
    restoreRegisters (Machine.registersUpTo x)
    return .plain

/-- Executes an opcode that the program counter points past. -/
def execute (opcode : Opcode) : InPlace Flow :=
  match Instruction.decode? opcode with
  | some instruction => perform instruction
  | none => return .unsupported

/-- Reads the opcode at the program counter and moves past it. -/
def fetch : InPlace Opcode := do
  let opcode := (← machine).currentOpcode
  write Machine.skip
  return opcode

/-- Counts the timers down, in real time if a period of their clock has passed. -/
def countDown (now : Moment) : InPlace Unit := do
  match (← machine).timerMode with
  | .perInstruction => write Machine.tickTimers
  | .realtime =>
    let (due, timer) := (← get).timer.tick now
    modify ({ · with timer := timer })
    if due then write Machine.tickTimers

/-- Fetches and executes an opcode, and counts the timers down. -/
def step (now : Moment) : InPlace Flow := do
  let opcode ← fetch
  let flow ← execute opcode
  countDown now
  return flow

/-- Steps once at each moment. -/
def cycle : (moments : List Moment) → InPlace Unit
  | [] => pure ()
  | now :: later => do
    let _ ← step now
    cycle later

/-! ### What they come to -/

variable {clockwork : Clockwork}

/-- What a computation leaves of a machine and its clock if nothing was written before a fault. -/
def keep (clockwork : Clockwork) : Except Fault (Flow × Machine) → Except Fault Flow × Clockwork
  | .ok (flow, machine) => (.ok flow, { clockwork with machine })
  | .error fault => (.error fault, clockwork)

theorem outcome_bind {α β : Type} (program : InPlace α) (next : α → InPlace β) :
    (program >>= next).outcome clockwork =
      match program.outcome clockwork with
      | (.ok value, after) => (next value).outcome after
      | (.error fault, after) => (.error fault, after) := by
  unfold outcome
  simp only [bind, ExceptT.bind, ExceptT.mk, StateT.bind, ExceptT.run, StateT.run]
  cases program clockwork with
  | mk result after => cases result <;> rfl

theorem outcome_get : (get : InPlace Clockwork).outcome clockwork = (.ok clockwork, clockwork) := rfl

theorem outcome_machine : machine.outcome clockwork = (.ok clockwork.machine, clockwork) := rfl

theorem outcome_write (change : Machine → Machine) :
    (write change).outcome clockwork =
      (.ok (), { clockwork with machine := change clockwork.machine }) := rfl

/-- An address is put on the stack, or the stack is full and nothing is written. -/
theorem outcome_push (address : UInt16) :
    (push address).outcome clockwork =
      match clockwork.machine.stack.push address with
      | .ok stack =>
        (.ok (), { clockwork with machine := { clockwork.machine with stack := stack } })
      | .error fault => (.error fault, clockwork) := by
  simp only [push, CallStack.push, outcome_bind, outcome_machine]
  split
  · rfl
  · rfl

/-- An address is taken off the stack, or the stack is empty and nothing is written. -/
theorem outcome_pop :
    pop.outcome clockwork =
      match clockwork.machine.stack.pop with
      | .ok (address, stack) =>
        (.ok address, { clockwork with machine := { clockwork.machine with stack := stack } })
      | .error fault => (.error fault, clockwork) := by
  simp only [pop, CallStack.pop, outcome_bind, outcome_machine]
  split
  · rfl
  · rfl

theorem outcome_saveRegisters (names : List RegisterName) :
    (saveRegisters names).outcome clockwork =
      (.ok (), { clockwork with machine := clockwork.machine.saveRegisters names }) := by
  induction names generalizing clockwork with
  | nil => rfl
  | cons name rest ih => exact ih

theorem outcome_restoreRegisters (names : List RegisterName) :
    (restoreRegisters names).outcome clockwork =
      (.ok (), { clockwork with machine := clockwork.machine.restoreRegisters names }) := by
  induction names generalizing clockwork with
  | nil => rfl
  | cons name rest ih => exact ih

theorem outcome_skipIf (condition : Bool) :
    (skipIf condition).outcome clockwork =
      (.ok (), { clockwork with machine := clockwork.machine.skipIf condition }) := by
  cases condition <;> rfl

theorem outcome_drawSprite (x y : RegisterName) (height : Fin 16) :
    (drawSprite x y height).outcome clockwork =
      (.ok (), { clockwork with machine := clockwork.machine.drawSprite x y height }) := by
  simp only [drawSprite, setFlag, outcome_bind, outcome_machine, outcome_write, Machine.drawSprite]
  split
  · rfl
  · rfl

/-- **Written in place, an instruction does the same**, and leaves everything as it is if it
fails. -/
theorem outcome_perform (instruction : Instruction) :
    (perform instruction).outcome clockwork =
      keep clockwork (clockwork.machine.perform instruction) := by
  cases instruction with
  | returnFromCall =>
    simp only [perform, Machine.perform, outcome_bind, outcome_pop]
    cases clockwork.machine.stack.pop <;> rfl
  | call target =>
    simp only [perform, Machine.perform, outcome_bind, outcome_machine, outcome_push]
    cases popped : clockwork.machine.stack.push (UInt16.ofNat clockwork.machine.counter.val) <;> rfl
  | skipIfByte | skipUnlessByte | skipIfEqual | skipUnlessEqual | skipIfDown | skipIfUp =>
    simp only [perform, outcome_bind, outcome_machine, outcome_skipIf]
    rfl
  | draw x y height =>
    simp only [perform, outcome_bind, outcome_drawSprite]
    rfl
  | waitForKey x =>
    simp only [perform, Machine.perform, outcome_bind, outcome_machine]
    cases clockwork.machine.keypad.lowest? <;> rfl
  | saveRegisters x =>
    simp only [perform, outcome_bind, outcome_saveRegisters]
    rfl
  | restoreRegisters x =>
    simp only [perform, outcome_bind, outcome_restoreRegisters]
    rfl
  | _ => rfl

theorem outcome_execute (opcode : Opcode) :
    (execute opcode).outcome clockwork = keep clockwork (clockwork.machine.execute opcode) := by
  unfold execute Machine.execute
  cases Instruction.decode? opcode with
  | none => rfl
  | some instruction => exact outcome_perform instruction

theorem outcome_countDown (now : Moment) :
    (countDown now).outcome clockwork =
      let (machine, timer) := clockwork.machine.countDown clockwork.timer now
      (.ok (), ⟨machine, timer⟩) := by
  simp only [countDown, outcome_bind, outcome_machine, Machine.countDown]
  cases clockwork.machine.timerMode with
  | perInstruction => rfl
  | realtime =>
    simp only [outcome_bind, outcome_get]
    cases (clockwork.timer.tick now).1 <;> rfl

/-- **Written in place, a step does the same.** -/
theorem outcome_step (now : Moment) : (step now).outcome clockwork = clockwork.step now := by
  have fetched : fetch.outcome clockwork = (.ok clockwork.machine.currentOpcode,
    { clockwork with machine := clockwork.machine.skip }) := rfl
  simp only [step, outcome_bind, fetched, outcome_execute, outcome_countDown, Clockwork.step,
    Machine.stepAt, Machine.fetch]
  cases clockwork.machine.skip.execute clockwork.machine.currentOpcode <;> rfl

/-- **Written in place, a batch does the same.** -/
theorem outcome_cycle (moments : List Moment) :
    (cycle moments).outcome clockwork =
      ((clockwork.cycle moments).1.elim (.ok ()) .error, (clockwork.cycle moments).2) := by
  induction moments generalizing clockwork with
  | nil => rfl
  | cons now later ih =>
    simp only [cycle, outcome_bind, outcome_step, Clockwork.cycle]
    generalize clockwork.step now = outcome
    obtain ⟨flow, stepped⟩ := outcome
    cases flow with
    | error fault => rfl
    | ok flow => exact ih

end InPlace

namespace Machine

/-! ### Which opcodes fail -/

variable {machine : Machine} {fault : Fault}

/-- A call fails on a full stack and a return on an empty one, and no other instruction fails. -/
theorem perform_eq_error_iff {instruction : Instruction} :
    machine.perform instruction = .error fault ↔
      (∃ target, instruction = .call target) ∧ fault = .stackOverflow ∧
          machine.stack.depth = stackLimit ∨
        instruction = .returnFromCall ∧ fault = .stackUnderflow ∧ machine.stack.depth = 0 := by
  cases instruction with
  | call target =>
    have full : machine.stack.push (UInt16.ofNat machine.counter.val) = .error fault ↔ _ :=
      CallStack.push_eq_error
    simp only [perform, bind, Except.bind]
    generalize machine.stack.push (UInt16.ofNat machine.counter.val) = pushed at full ⊢
    cases pushed with
    | error other => simpa using full
    | ok stack => simpa using full
  | returnFromCall =>
    have bottom : machine.stack.pop = .error fault ↔ _ := CallStack.pop_eq_error
    simp only [perform, bind, Except.bind]
    generalize machine.stack.pop = popped at bottom ⊢
    cases popped with
    | error other => simpa using bottom
    | ok result => simpa using bottom
  | waitForKey =>
    simp only [perform]
    cases machine.keypad.lowest? <;> simp
  | _ => simp [perform]

/-- **An opcode fails exactly if it is a call and sixteen calls are open, or a return and none
is.** -/
theorem execute_eq_error_iff {opcode : Opcode} :
    machine.execute opcode = .error fault ↔
      opcode.op = 0x2 ∧ machine.stack.toList.length = 16 ∧ fault = .stackOverflow ∨
        opcode.toNat = 0x00EE ∧ machine.stack.toList = [] ∧ fault = .stackUnderflow := by
  rw [execute_eq_error, ← List.length_eq_zero_iff, CallStack.length_toList]
  simp only [Opcode.decode?_eq_some_iff, perform_eq_error_iff]
  constructor
  · rintro ⟨instruction, form, ⟨⟨target, rfl⟩, rfl, full⟩ | ⟨rfl, rfl, bottom⟩⟩
    · exact .inl ⟨form.1, full, rfl⟩
    · exact .inr ⟨form, bottom, rfl⟩
  · rintro (⟨family, full, rfl⟩ | ⟨form, bottom, rfl⟩)
    · exact ⟨.call opcode.nnn, ⟨family, rfl⟩, .inl ⟨⟨_, rfl⟩, rfl, full⟩⟩
    · exact ⟨.returnFromCall, form, .inr ⟨rfl, rfl, bottom⟩⟩

/-- A batch of two counts is one after the other, unless the first fails. -/
theorem cycle_add (machine : Machine) (first second : Nat) :
    machine.cycle (first + second) =
      match (machine.cycle first).fault with
      | none =>
        let rest := (machine.cycle first).machine.cycle second
        ⟨rest.machine, rest.fault, rest.reversedNotices ++ (machine.cycle first).reversedNotices⟩
      | some _ => machine.cycle first := by
  induction first generalizing machine with
  | zero => simp [cycle_zero]
  | succ first ih =>
    rw [Nat.add_right_comm, cycle_succ, cycle_succ]
    cases machine.step.flow with
    | error fault => rfl
    | ok flow =>
      simp only
      rw [ih]
      cases failed : (machine.step.machine.cycle first).fault <;> simp [failed]

end Machine

namespace Clockwork

/-! ### Batches -/

/-- One step at each moment, all of which succeed. -/
inductive Advances : Clockwork → List Moment → Clockwork → Prop where
  | done (clockwork : Clockwork) : Advances clockwork [] clockwork
  | step {before stepped after : Clockwork} {now : Moment} {later : List Moment} {flow : Flow}
    (succeeds : before.step now = (.ok flow, stepped)) (rest : stepped.Advances later after) :
    Advances before (now :: later) after

variable {clockwork after : Clockwork} {moments : List Moment} {fault : Fault}

/-- A batch succeeds if all of its steps do. -/
theorem cycle_eq_none_iff :
    clockwork.cycle moments = (none, after) ↔ clockwork.Advances moments after := by
  constructor
  · intro cycled
    induction moments generalizing clockwork with
    | nil =>
      cases cycled
      exact .done _
    | cons now later ih =>
      rw [cycle] at cycled
      split at cycled
      · rename_i flow stepped succeeds
        exact .step succeeds (ih cycled)
      · cases cycled
  · intro advances
    induction advances with
    | done => rfl
    | step succeeds rest ih =>
      rw [cycle, succeeds]
      exact ih

/-- **A batch goes on where an earlier one ended**, unless that one failed. -/
theorem cycle_append (first second : List Moment) :
    clockwork.cycle (first ++ second) =
      match clockwork.cycle first with
      | (none, cycled) => cycled.cycle second
      | (some fault, cycled) => (some fault, cycled) := by
  induction first generalizing clockwork with
  | nil => rfl
  | cons now later ih =>
    rw [List.cons_append, cycle, cycle]
    generalize clockwork.step now = outcome
    obtain ⟨flow, stepped⟩ := outcome
    cases flow with
    | error fault => rfl
    | ok flow => exact ih

/-- A batch fails at its first step that fails, and ends there. -/
theorem cycle_eq_some_iff :
    clockwork.cycle moments = (some fault, after) ↔
      ∃ earlier now later before, moments = earlier ++ now :: later ∧
        clockwork.Advances earlier before ∧ before.step now = (.error fault, after) := by
  constructor
  · intro cycled
    induction moments generalizing clockwork with
    | nil => cases cycled
    | cons now later ih =>
      rw [cycle] at cycled
      split at cycled
      · rename_i flow stepped succeeds
        obtain ⟨earlier, moment, others, before, rfl, advances, fails⟩ := ih cycled
        exact ⟨now :: earlier, moment, others, before, rfl, .step succeeds advances, fails⟩
      · rename_i other stepped fails
        cases cycled
        exact ⟨[], now, later, clockwork, rfl, .done clockwork, fails⟩
  · rintro ⟨earlier, now, later, before, rfl, advances, fails⟩
    rw [cycle_append, cycle_eq_none_iff.mpr advances]
    simp only
    rw [cycle, fails]

/-- A step fails if its opcode does, and then it has only moved past it. -/
theorem step_eq_error_iff {now : Moment} :
    clockwork.step now = (.error fault, after) ↔
      clockwork.machine.skip.execute clockwork.machine.currentOpcode = .error fault ∧
        after = { clockwork with machine := clockwork.machine.skip } := by
  simp only [step, Machine.stepAt, Machine.fetch]
  cases clockwork.machine.skip.execute clockwork.machine.currentOpcode with
  | error other => simp [eq_comm]
  | ok outcome => simp

/-- What faults leave of a machine and its clock. -/
structure FailsIntact (start : Clockwork) : Prop where
  /-- Executing an opcode in place fails in two cases only, and then nothing is changed. -/
  execute : ∀ opcode fault after, (InPlace.execute opcode).outcome start = (.error fault, after) ↔
    after = start ∧
      (opcode.op = 0x2 ∧ start.machine.stack.toList.length = 16 ∧ fault = .stackOverflow ∨
        opcode.toNat = 0x00EE ∧ start.machine.stack.toList = [] ∧ fault = .stackUnderflow)
  /-- Executing it at once returns the same. -/
  atOnce : ∀ opcode, (InPlace.execute opcode).outcome start =
    match start.machine.execute opcode with
    | .ok (flow, machine) => (.ok flow, { start with machine })
    | .error fault => (.error fault, start)
  /-- A step that fails moves past its opcode and does nothing else; no timer counts down. -/
  step : ∀ now fault after, start.step now = (.error fault, after) → after =
    { start with machine :=
      { start.machine with counter := Address.wrap (start.machine.counter.val + 2) } }
  /-- Taken in place, a step is the same. -/
  inPlace : ∀ now, (InPlace.step now).outcome start = start.step now
  /-- A batch that succeeds is its steps. -/
  succeeds : ∀ moments after, start.cycle moments = (none, after) ↔ start.Advances moments after
  /-- A batch that fails is its steps up to the first that fails. -/
  fails : ∀ moments fault after, start.cycle moments = (some fault, after) ↔
    ∃ earlier now later before, moments = earlier ++ now :: later ∧
      start.Advances earlier before ∧ before.step now = (.error fault, after)
  /-- A batch is a part of it, and then the rest if that part succeeded. -/
  append : ∀ first second, start.cycle (first ++ second) =
    match start.cycle first with
    | (none, cycled) => cycled.cycle second
    | (some fault, cycled) => (some fault, cycled)
  /-- It is so with counts as well, notices included. -/
  add : ∀ first second, start.machine.cycle (first + second) =
    match (start.machine.cycle first).fault with
    | none =>
      let cycled := start.machine.cycle first
      let rest := cycled.machine.cycle second
      ⟨rest.machine, rest.fault, rest.reversedNotices ++ cycled.reversedNotices⟩
    | some _ => start.machine.cycle first

/-- **Faults leave the machine intact**, whatever was done with it before. -/
theorem fails_intact (timerMode : TimerMode) (seed : UInt64) (now : Moment)
    (operations : List Operation) : ((new timerMode seed now).run operations).FailsIntact := by
  generalize (new timerMode seed now).run operations = start
  have atOnce : ∀ opcode, (InPlace.execute opcode).outcome start =
      InPlace.keep start (start.machine.execute opcode) := InPlace.outcome_execute
  refine ⟨fun opcode fault after => ?_, atOnce, fun now fault after failed => ?_,
    InPlace.outcome_step, fun moments after => cycle_eq_none_iff,
    fun moments fault after => cycle_eq_some_iff, cycle_append, start.machine.cycle_add⟩
  · rw [atOnce, ← Machine.execute_eq_error_iff]
    cases start.machine.execute opcode with
    | error other => simp [InPlace.keep, eq_comm, and_comm]
    | ok outcome => simp [InPlace.keep]
  · exact (step_eq_error_iff.mp failed).2

/-- A program that calls itself has a return address for every call but the seventeenth. -/
example :
    (((new .perInstruction 0 0).run [.load [0x22, 0x00] 0]).cycle (List.range 17)).1 =
      some .stackOverflow := by
  decide +kernel

end Clockwork

end Arcade
