/-
**What an owner learns of a machine.**

Of each operation the owner learns what it returns, what is noted on the way and which machine it
leaves (`Clockwork.observe`); of a run, all of this in order (`Clockwork.account`). A machine whose
timers go by instructions never looks at the time, so it is all one to it when something is done and
what its clock says: nothing but the machine itself decides what is learnt of it.

* `Clockwork.timerMode_operate`: how the timers go is never changed;
* `Clockwork.observe_timeless`: moments and clock do not matter to one operation;
* `Clockwork.account_congr`: no run tells machines apart that are the same.
-/

import Arcade.Proofs.Machine.Operation

namespace Arcade

/-- An operation with all its moments set to zero. -/
def Operation.timeless : Operation → Operation
  | .load program _ => .load program 0
  | .fetch => .fetch
  | .execute opcode => .execute opcode
  | .step _ => .step 0
  | .cycle moments => .cycle (moments.map fun _ => 0)
  | .countDown => .countDown
  | .press event => .press event

namespace Clockwork

open Operation (Result)

/-- What is noted of a batch. -/
def noticed (clockwork : Clockwork) : (moments : List Moment) → List Notice
  | [] => []
  | now :: later =>
    clockwork.machine.step.notice ::
      match clockwork.step now with
      | (.ok _, stepped) => stepped.noticed later
      | (.error _, _) => []

/-- What is noted of an operation. -/
def notices (clockwork : Clockwork) : Operation → List Notice
  | .execute opcode => [clockwork.machine.notice opcode]
  | .step _ => [clockwork.machine.step.notice]
  | .cycle moments => clockwork.noticed moments
  | .load _ _ | .fetch | .countDown | .press _ => []

/-- What an operation returns, what is noted of it, and the machine it leaves. -/
def observe (clockwork : Clockwork) (operation : Operation) : Result × List Notice × Machine :=
  ((clockwork.operate operation).1, clockwork.notices operation,
    (clockwork.operate operation).2.machine)

/-- What is learnt of a run. -/
def account (clockwork : Clockwork) :
    (operations : List Operation) → List (Result × List Notice × Machine)
  | [] => []
  | operation :: later =>
    clockwork.observe operation :: (clockwork.operate operation).2.account later

/-! ### How the timers go -/

theorem timerMode_executed (machine : Machine) (opcode : Opcode) :
    (machine.executed opcode).timerMode = machine.timerMode := by
  have kept : (machine.executed opcode).Alike machine .timerMode := Machine.alike_executed id
  exact kept

theorem timerMode_step (clockwork : Clockwork) (now : Moment) :
    (clockwork.step now).2.machine.timerMode = clockwork.machine.timerMode :=
  Eq.trans (alike_step .timerMode now (by decide) (by decide)) (timerMode_executed _ _)

theorem timerMode_cycle (clockwork : Clockwork) (moments : List Moment) :
    (clockwork.cycle moments).2.machine.timerMode = clockwork.machine.timerMode := by
  induction moments generalizing clockwork with
  | nil => rfl
  | cons now later ih =>
    have stepped := clockwork.timerMode_step now
    rw [cycle]
    generalize clockwork.step now = outcome at stepped
    obtain ⟨flow, after⟩ := outcome
    cases flow with
    | error fault => exact stepped
    | ok flow => exact (ih after).trans stepped

/-- **How the timers go is never changed.** -/
theorem timerMode_operate (clockwork : Clockwork) (operation : Operation) :
    (clockwork.operate operation).2.machine.timerMode = clockwork.machine.timerMode := by
  cases operation with
  | load program now =>
    by_cases fits : program.length ≤ programLimit
    · simp only [operate, Machine.load, if_pos fits]
    · simp only [operate, Machine.load, if_neg fits]
  | execute opcode =>
    rw [operate_execute]
    exact timerMode_executed _ _
  | step now =>
    rw [operate_step]
    exact timerMode_step clockwork now
  | cycle moments =>
    have cycled := clockwork.timerMode_cycle moments
    simp only [operate]
    generalize clockwork.cycle moments = outcome at cycled
    obtain ⟨fault, after⟩ := outcome
    cases fault <;> exact cycled
  | fetch | countDown | press => rfl

/-! ### Timers that go by instructions -/

section Timeless

variable {machine : Machine} (timer other : Clock)

/-- A step that does not look at the time is a step of the machine. -/
theorem step_of_perInstruction (mode : machine.timerMode = .perInstruction) (now : Moment) :
    step ⟨machine, timer⟩ now = (machine.step.flow, ⟨machine.step.machine, timer⟩) := by
  have kept : (machine.skip.executed machine.currentOpcode).timerMode = .perInstruction :=
    (timerMode_executed _ _).trans mode
  unfold Machine.executed at kept
  simp only [step, Machine.stepAt, Machine.step, Machine.fetch]
  cases executes : machine.skip.execute machine.currentOpcode with
  | error fault => rfl
  | ok outcome =>
    rw [executes] at kept
    simp only [Machine.countDown, Machine.tickAfterInstruction] at kept ⊢
    rw [kept]

/-- A batch that does not look at the time goes the same way whenever it is run. -/
theorem cycle_timeless (mode : machine.timerMode = .perInstruction) (moments : List Moment) :
    (cycle ⟨machine, timer⟩ moments).1 = (cycle ⟨machine, other⟩ (moments.map fun _ => 0)).1 ∧
      noticed ⟨machine, timer⟩ moments = noticed ⟨machine, other⟩ (moments.map fun _ => 0) ∧
      (cycle ⟨machine, timer⟩ moments).2.machine =
        (cycle ⟨machine, other⟩ (moments.map fun _ => 0)).2.machine := by
  induction moments generalizing machine with
  | nil => exact ⟨rfl, rfl, rfl⟩
  | cons now later ih =>
    have kept := timerMode_step ⟨machine, timer⟩ now
    rw [step_of_perInstruction timer mode] at kept
    simp only [List.map_cons, cycle, noticed, step_of_perInstruction _ mode]
    cases machine.step.flow with
    | error fault => exact ⟨rfl, rfl, rfl⟩
    | ok flow =>
      obtain ⟨faults, notices, machines⟩ := ih (kept.trans mode)
      exact ⟨faults, congrArg _ notices, machines⟩

/-- **Moments and clock do not matter** to a machine whose timers go by instructions. -/
theorem observe_timeless (mode : machine.timerMode = .perInstruction) (operation : Operation) :
    observe ⟨machine, timer⟩ operation = observe ⟨machine, other⟩ operation.timeless := by
  cases operation with
  | fetch | countDown | press => rfl
  | load program now =>
    simp only [observe, notices, operate, Operation.timeless]
    cases machine.load program <;> rfl
  | execute opcode =>
    simp only [observe, notices, operate, Operation.timeless]
    cases machine.execute opcode <;> rfl
  | step now =>
    simp only [observe, notices, operate_step, Operation.timeless, step_of_perInstruction _ mode]
  | cycle moments =>
    obtain ⟨faults, notes, machines⟩ := cycle_timeless timer other mode moments
    simp only [observe, notices, operate, Operation.timeless, notes]
    generalize cycle ⟨machine, timer⟩ moments = one at faults machines
    generalize cycle ⟨machine, other⟩ (moments.map fun _ => 0) = two at faults machines
    obtain ⟨fault, left⟩ := one
    obtain ⟨fault', left'⟩ := two
    obtain rfl : fault = fault' := faults
    cases fault <;> exact congrArg _ (congrArg _ machines)

end Timeless

/-- **No run tells machines apart that are the same**, whenever their owners do what they do, and
whatever their clocks say. -/
theorem account_congr {one two : Clockwork} (same : one.machine = two.machine)
    (mode : one.machine.timerMode = .perInstruction) {first second : List Operation}
    (alike : first.map Operation.timeless = second.map Operation.timeless) :
    one.account first = two.account second := by
  induction first generalizing one two second with
  | nil =>
    obtain rfl : second = [] := List.map_eq_nil_iff.mp alike.symm
    rfl
  | cons operation later ih =>
    obtain ⟨other, others, rfl, same', rest⟩ := List.map_eq_cons_iff.mp alike.symm
    have observed : one.observe operation = two.observe other := by
      obtain ⟨machine, timer⟩ := one
      obtain ⟨machine', timer'⟩ := two
      obtain rfl : machine = machine' := same
      rw [observe_timeless timer timer' mode operation, ← same',
        ← observe_timeless timer' timer' mode other]
    have machines : (one.operate operation).2.machine = (two.operate other).2.machine :=
      congrArg (·.2.2) observed
    rw [account, account, observed]
    exact congrArg _ (ih machines ((one.timerMode_operate operation).trans mode) rest.symm)

end Clockwork

end Arcade
