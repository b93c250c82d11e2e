/-
**Running a program.**

A step reads the opcode at the program counter, moves past it, executes it and counts the timers
down. Each execution gives one notice: the trace line of an instruction, or a warning about an
opcode that carries none. The notice of an instruction is given before it acts, so one that faults
is noticed too.

* `execute_eq_error`: only a performed instruction fails, and with the fault of its performance;
* `cycle_zero` and `cycle_succ`: a batch is a step and the rest of the batch, unless a step fails.
-/

import Arcade.Machine.Perform

namespace Arcade

/-- What is noted of a running machine. -/
inductive Notice where
  /-- A key event reached the keypad. -/
  | input (event : KeyEvent)
  /-- The instruction at an address was executed. -/
  | executed (address : Address) (instruction : Instruction) (opcode : Opcode)
  /-- The opcode at an address carries no instruction and was passed over. -/
  | unsupported (address : Address) (opcode : Opcode)
  deriving DecidableEq

namespace Notice

/-- The trace line of a key event or an executed instruction. -/
def traceLine? : Notice → Option String
  | .input event => some s!"input {event.key.text} {event.motion}"
  | .executed address instruction opcode =>
    let name := String.ofList (instruction.mnemonic.toList.rightpad 6 ' ')
    some s!"{Text.hexUpper 4 address.val}: {name} {opcode.text}"
  | .unsupported _ _ => none

/-- The warning about an opcode without an instruction. -/
def warning? : Notice → Option String
  | .input _ | .executed _ _ _ => none
  | .unsupported address opcode =>
    some s!"unsupported opcode {opcode.text} at {Text.hexUpper 3 address.val}"

end Notice

/-- What came of a batch of steps of some kind of machine. -/
structure Batch (M : Type) where
  /-- The machine after the last step. -/
  machine : M
  /-- The fault of the last step, if it failed. -/
  fault : Option Fault
  /-- The notices of the batch, the latest first. -/
  reversedNotices : List Notice

/-- The notices of the batch in order. -/
def Batch.notices {M : Type} (batch : Batch M) : List Notice := batch.reversedNotices.reverse

/-- A machine that goes forward by batches of steps and shows a picture. -/
class Steppable (M : Type) where
  /-- Steps until a step fails or the count is reached. -/
  cycle : M → (count : Nat) → Batch M
  /-- The picture. -/
  display : M → Display

namespace Machine

/-- The notice of executing an opcode that the program counter points past. -/
def notice (machine : Machine) (opcode : Opcode) : Notice :=
  match Instruction.decode? opcode with
  | some instruction => .executed machine.counter.previous instruction opcode
  | none => .unsupported machine.counter.previous opcode

/-- Executes an opcode that the program counter points past. -/
def execute (machine : Machine) (opcode : Opcode) : Except Fault (Flow × Machine) :=
  match Instruction.decode? opcode with
  | some instruction => machine.perform instruction
  | none => .ok (.unsupported, machine)

/-- The opcode at the program counter. -/
def currentOpcode (machine : Machine) : Opcode :=
  Opcode.ofBytes (machine.memory.get machine.counter)
    (machine.memory.get (Address.wrap (machine.counter.val + 1)))

/-- The opcode at the program counter, and the machine that moved past it. -/
def fetch (machine : Machine) : Opcode × Machine := (machine.currentOpcode, machine.skip)

/-- What came of one step. -/
structure Step where
  /-- The machine after the step, also after one that failed. -/
  machine : Machine
  /-- The kind of work, or the fault. -/
  flow : Except Fault Flow
  notice : Notice

/-- Fetches and executes one opcode, and counts the timers down if that succeeds. -/
def step (machine : Machine) : Step :=
  let (opcode, fetched) := machine.fetch
  let notice := fetched.notice opcode
  match fetched.execute opcode with
  | .ok (flow, executed) => ⟨executed.tickAfterInstruction, .ok flow, notice⟩
  | .error fault => ⟨fetched, .error fault, notice⟩

/-- Steps until a step fails or the count is reached; the notices are put before the given ones. -/
def cycleOnto (machine : Machine) (noticed : List Notice) : (count : Nat) → Batch Machine
  | 0 => ⟨machine, none, noticed⟩
  | count + 1 =>
    let step := machine.step
    match step.flow with
    | .ok _ => step.machine.cycleOnto (step.notice :: noticed) count
    | .error fault => ⟨step.machine, some fault, step.notice :: noticed⟩

/-- Steps until a step fails or the count is reached. -/
def cycle (machine : Machine) (count : Nat) : Batch Machine := machine.cycleOnto [] count

instance : Steppable Machine where
  cycle := cycle
  display := display

theorem execute_eq_error {machine : Machine} {opcode : Opcode} {fault : Fault} :
    machine.execute opcode = .error fault ↔
      ∃ instruction, Instruction.decode? opcode = some instruction ∧
        machine.perform instruction = .error fault := by
  unfold execute
  split <;> simp_all

theorem cycle_zero (machine : Machine) : machine.cycle 0 = ⟨machine, none, []⟩ := rfl

theorem cycleOnto_noticed (machine : Machine) (noticed : List Notice) (count : Nat) :
    machine.cycleOnto noticed count =
      ⟨(machine.cycle count).machine, (machine.cycle count).fault,
        (machine.cycle count).reversedNotices ++ noticed⟩ := by
  unfold cycle
  induction count generalizing machine noticed with
  | zero => rfl
  | succ count ih =>
    simp only [cycleOnto]
    cases machine.step.flow with
    | error fault => rfl
    | ok flow =>
      simp only
      rw [ih machine.step.machine (machine.step.notice :: noticed),
        ih machine.step.machine [machine.step.notice]]
      simp

theorem cycle_succ (machine : Machine) (count : Nat) :
    machine.cycle (count + 1) =
      match machine.step.flow with
      | .ok _ =>
        let rest := machine.step.machine.cycle count
        ⟨rest.machine, rest.fault, rest.reversedNotices ++ [machine.step.notice]⟩
      | .error fault => ⟨machine.step.machine, some fault, [machine.step.notice]⟩ := by
  conv => lhs; unfold cycle
  simp only [cycleOnto]
  cases machine.step.flow with
  | error fault => rfl
  | ok flow => simp only; rw [cycleOnto_noticed]

end Machine

end Arcade
