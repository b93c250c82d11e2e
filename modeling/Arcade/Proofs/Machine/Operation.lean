/-
**A machine in the hands of its owner.**

Whoever holds a machine loads programs into it, steps it, passes key events on and counts its timers
down; it may also fetch and execute opcodes on its own. The machine keeps a clock for its timers,
which is started anew with each program. Operations come in any order, and a run is a list of them.
Where the machine looks at the time, the moment is part of the operation.

* `Clockwork.alike_step`: what a step leaves is what executing its opcode leaves, but for the
  timers;
* `Clockwork.run_append`: a run goes on where the one before it ended;
* `Clockwork.operate_of_enacts`: an opcode does the same whether its owner passes it on or the
  machine reads it.
-/

import Arcade.Proofs.Machine.Footprint

namespace Arcade

/-- A machine with the clock that its timers go by in real time. -/
structure Clockwork where
  machine : Machine
  timer : Clock

/-- What the owner of a machine may do with it. -/
inductive Operation where
  /-- Load a program in place of the one before. -/
  | load (program : List UInt8) (now : Moment)
  /-- Read the opcode at the program counter and move past it. -/
  | fetch
  /-- Execute an opcode, wherever it comes from. -/
  | execute (opcode : Opcode)
  /-- Fetch and execute one opcode, and count the timers down. -/
  | step (now : Moment)
  /-- Step once at each moment, until a step fails. -/
  | cycle (moments : List Moment)
  /-- Count the timers down. -/
  | countDown
  /-- Pass a key event on. -/
  | press (event : KeyEvent)

/-- What an operation returns. -/
inductive Operation.Result where
  | done
  | fetched (opcode : Opcode)
  | flowed (flow : Flow)
  | failed (error : MachineError)
  deriving DecidableEq

/-- Whether an operation executes one opcode at most, and loads no program. -/
def Operation.IsSingle : Operation → Prop
  | .load _ _ | .cycle _ => False
  | .fetch | .execute _ | .step _ | .countDown | .press _ => True

instance : DecidablePred Operation.IsSingle
  | .load _ _ | .cycle _ => isFalse id
  | .fetch | .execute _ | .step _ | .countDown | .press _ => isTrue trivial

/-- Whether an operation executes an opcode: the owner passes it on, or the machine reads it at its
program counter. -/
def Operation.Enacts (clockwork : Clockwork) (opcode : Opcode) : Operation → Prop
  | .execute passed => passed = opcode
  | .step _ => clockwork.machine.currentOpcode = opcode
  | .load _ _ | .fetch | .cycle _ | .countDown | .press _ => False

namespace Clockwork

open Operation (Result)

/-- A machine without a program whose clock was started at a moment. -/
def new (timerMode : TimerMode) (seed : UInt64) (now : Moment) : Clockwork where
  machine := Machine.new timerMode seed
  timer := ⟨now, Span.ofHertz timerFrequency⟩

/-- Fetches and executes one opcode at a moment, and counts the timers down if that succeeds. -/
def step (clockwork : Clockwork) (now : Moment) : Except Fault Flow × Clockwork :=
  let (flow, machine, timer) := clockwork.machine.stepAt clockwork.timer now
  (flow, ⟨machine, timer⟩)

/-- Steps once at each moment, until a step fails. -/
def cycle (clockwork : Clockwork) : (moments : List Moment) → Option Fault × Clockwork
  | [] => (none, clockwork)
  | now :: later =>
    match clockwork.step now with
    | (.ok _, stepped) => stepped.cycle later
    | (.error fault, stepped) => (some fault, stepped)

/-- What an operation returns, and what is left after it. -/
def operate (clockwork : Clockwork) : Operation → Result × Clockwork
  | .load program now =>
    match clockwork.machine.load program with
    | .ok machine => (.done, ⟨machine, clockwork.timer.reset now⟩)
    | .error error => (.failed error, clockwork)
  | .fetch =>
    let (opcode, machine) := clockwork.machine.fetch
    (.fetched opcode, { clockwork with machine })
  | .execute opcode =>
    match clockwork.machine.execute opcode with
    | .ok (flow, machine) => (.flowed flow, { clockwork with machine })
    | .error fault => (.failed (.fault fault), clockwork)
  | .step now =>
    match clockwork.step now with
    | (.ok flow, stepped) => (.flowed flow, stepped)
    | (.error fault, stepped) => (.failed (.fault fault), stepped)
  | .cycle moments =>
    match clockwork.cycle moments with
    | (none, cycled) => (.done, cycled)
    | (some fault, cycled) => (.failed (.fault fault), cycled)
  | .countDown => (.done, { clockwork with machine := clockwork.machine.tickTimers })
  | .press event => (.done, { clockwork with machine := clockwork.machine.applyKey event })

/-- What is left after some operations. -/
def run (clockwork : Clockwork) (operations : List Operation) : Clockwork :=
  operations.foldl (fun clockwork operation => (clockwork.operate operation).2) clockwork

variable {clockwork : Clockwork}

@[simp]
theorem run_nil : clockwork.run [] = clockwork := rfl

@[simp]
theorem run_cons (operation : Operation) (operations : List Operation) :
    clockwork.run (operation :: operations) = (clockwork.operate operation).2.run operations := rfl

/-- **A run goes on where the one before it ended.** -/
theorem run_append (before after : List Operation) :
    clockwork.run (before ++ after) = (clockwork.run before).run after :=
  List.foldl_append

theorem run_concat (operations : List Operation) (operation : Operation) :
    clockwork.run (operations ++ [operation]) = ((clockwork.run operations).operate operation).2 :=
  run_append operations [operation]

theorem operate_execute (opcode : Opcode) :
    (clockwork.operate (.execute opcode)).2 =
      { clockwork with machine := clockwork.machine.executed opcode } := by
  unfold operate Machine.executed
  simp only
  split <;> simp only [*]

theorem operate_step (now : Moment) :
    clockwork.operate (.step now) =
      (match (clockwork.step now).1 with
        | .ok flow => .flowed flow
        | .error fault => .failed (.fault fault), (clockwork.step now).2) := by
  unfold operate
  simp only
  split <;> simp only [*]

/-- What a step leaves is what executing its opcode leaves, but for the timers. -/
theorem alike_step (part : Part) (now : Moment) (undelayed : part ≠ .delay)
    (unsounded : part ≠ .sound) :
    (clockwork.step now).2.machine.Alike
      (clockwork.machine.skip.executed clockwork.machine.currentOpcode) part := by
  simp only [step, Machine.stepAt, Machine.fetch, Machine.executed]
  cases clockwork.machine.skip.execute clockwork.machine.currentOpcode with
  | error fault => exact Machine.Alike.refl _ part
  | ok outcome => exact Machine.alike_countDown undelayed unsounded

/-- A step returns what executing its opcode returns. -/
theorem flow_step (now : Moment) :
    (clockwork.step now).1 =
      (clockwork.machine.skip.execute clockwork.machine.currentOpcode).map Prod.fst := by
  simp only [step, Machine.stepAt, Machine.fetch]
  cases clockwork.machine.skip.execute clockwork.machine.currentOpcode <;> rfl

theorem countDown_eq (machine : Machine) (timer : Clock) (now : Moment) :
    ∃ delay sound, (machine.countDown timer now).1 = { machine with delay, sound } := by
  unfold Machine.countDown
  split
  · exact ⟨_, _, rfl⟩
  · simp only
    split
    · exact ⟨_, _, rfl⟩
    · exact ⟨machine.delay, machine.sound, rfl⟩

/-- **An operation that executes an opcode comes to what the opcode comes to.** A step has moved past
the opcode before, and counts the timers down after it. -/
theorem operate_of_enacts {operation : Operation} {opcode : Opcode}
    (enacts : operation.Enacts clockwork opcode) :
    ∃ counter, ∀ {flow after},
      ({ clockwork.machine with counter } : Machine).execute opcode = .ok (flow, after) →
        (clockwork.operate operation).1 = .flowed flow ∧
          ∃ delay sound, (clockwork.operate operation).2.machine = { after with delay, sound } := by
  cases operation with
  | load | fetch | cycle | countDown | press => exact absurd enacts id
  | execute passed =>
    obtain rfl : passed = opcode := enacts
    refine ⟨clockwork.machine.counter, fun {flow after} executes => ?_⟩
    have passing : clockwork.machine.execute passed = .ok (flow, after) := executes
    simp only [operate, passing]
    exact ⟨trivial, after.delay, after.sound, rfl⟩
  | step now =>
    obtain rfl : clockwork.machine.currentOpcode = opcode := enacts
    refine ⟨clockwork.machine.counter.next, fun {flow after} executes => ?_⟩
    have reading : clockwork.machine.skip.execute clockwork.machine.currentOpcode =
      .ok (flow, after) := executes
    simp only [operate, step, Machine.stepAt, Machine.fetch, reading]
    exact ⟨trivial, countDown_eq after clockwork.timer now⟩

end Clockwork

end Arcade
