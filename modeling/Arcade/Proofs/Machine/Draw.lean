/-
**Programs that draw no random bits.**

The instruction for random bytes takes the byte that its mask lets through. With the mask zero it
takes nothing, and every other instruction leaves the source of random bytes alone. So as long as
no instruction draws (`Instruction.draws`), a machine runs as it would with any other source.
Machines that are the same but for their sources are compared by `Machine.mute`.

* `Machine.perform_mute`: an instruction that draws nothing does the same whatever the source is;
* `Machine.cycle_congr`: so does a batch of steps, notices and fault included.
-/

import Arcade.Machine.Run

namespace Arcade

/-- Whether an instruction makes use of a random byte. -/
def Instruction.draws : Instruction → Bool
  | .random _ mask => mask != 0
  | _ => false

/-- Whether it was noted that an instruction made use of a random byte. -/
def Notice.draws : Notice → Bool
  | .executed _ instruction _ => instruction.draws
  | .input _ | .unsupported _ _ => false

namespace Machine

/-- The machine with a fixed source of random bytes in place of its own. -/
def mute (machine : Machine) : Machine := { machine with random := RandomSource.ofSeed 0 }

variable (machine : Machine)

@[simp]
theorem mute_mute : machine.mute.mute = machine.mute := rfl

theorem mute_skipIf (condition : Bool) :
    (machine.skipIf condition).mute = machine.mute.skipIf condition := by
  cases condition <;> rfl

theorem mute_saveRegisters (names : List RegisterName) :
    (machine.saveRegisters names).mute = machine.mute.saveRegisters names := by
  induction names generalizing machine with
  | nil => rfl
  | cons name rest ih => exact ih _

theorem mute_restoreRegisters (names : List RegisterName) :
    (machine.restoreRegisters names).mute = machine.mute.restoreRegisters names := by
  induction names generalizing machine with
  | nil => rfl
  | cons name rest ih => exact ih _

theorem mute_drawSprite (x y : RegisterName) (height : Fin 16) :
    (machine.drawSprite x y height).mute = machine.mute.drawSprite x y height := by
  unfold drawSprite
  exact apply_ite mute _ _ _

theorem mute_tickAfterInstruction :
    machine.tickAfterInstruction.mute = machine.mute.tickAfterInstruction := by
  have kept : machine.mute.timerMode = machine.timerMode := rfl
  unfold tickAfterInstruction
  rw [kept]
  cases machine.timerMode <;> rfl

/-- **An instruction that draws nothing does the same whatever the source of random bytes is.** -/
theorem perform_mute {instruction : Instruction} (still : instruction.draws = false) :
    (machine.mute.perform instruction).map (Prod.map id mute) =
      (machine.perform instruction).map (Prod.map id mute) := by
  cases instruction with
  | random x mask =>
    obtain rfl : mask = 0 := by simpa [Instruction.draws] using still
    simp only [perform, UInt8.and_zero]
    rfl
  | returnFromCall =>
    show (Except.bind machine.stack.pop _).map _ = (Except.bind machine.stack.pop _).map _
    cases machine.stack.pop <;> rfl
  | call target =>
    have kept : machine.mute.stack.push (UInt16.ofNat machine.mute.counter.val) =
        machine.stack.push (UInt16.ofNat machine.counter.val) := rfl
    simp only [perform, bind, kept]
    cases machine.stack.push (UInt16.ofNat machine.counter.val) <;> rfl
  | waitForKey x =>
    have kept : machine.mute.keypad.lowest? = machine.keypad.lowest? := rfl
    simp only [perform, kept]
    cases machine.keypad.lowest? <;> rfl
  | draw x y height =>
    simp only [perform, Except.map, Prod.map, mute_drawSprite, mute_mute]
  | saveRegisters x =>
    simp only [perform, Except.map, Prod.map, mute_saveRegisters, mute_mute]
  | restoreRegisters x =>
    simp only [perform, Except.map, Prod.map, mute_restoreRegisters, mute_mute]
  | skipIfByte | skipUnlessByte | skipIfEqual | skipUnlessEqual | skipIfDown | skipIfUp =>
    simp only [perform, Except.map, Prod.map, mute_skipIf, mute_mute]
    rfl
  | _ => rfl

variable {machine} {other : Machine}

theorem execute_congr (same : machine.mute = other.mute) (opcode : Opcode)
    (still : (machine.notice opcode).draws = false) :
    (machine.execute opcode).map (Prod.map id mute) =
      (other.execute opcode).map (Prod.map id mute) := by
  unfold notice at still
  unfold execute
  cases decoded : Instruction.decode? opcode with
  | none => exact congrArg (fun muted => Except.ok (Flow.unsupported, muted)) same
  | some instruction =>
    rw [decoded] at still
    show (machine.perform instruction).map _ = (other.perform instruction).map _
    rw [← perform_mute machine still, ← perform_mute other still, same]

/-- Machines that are the same but for the source of random bytes stay so over a step that draws
nothing, and note the same. -/
theorem step_congr (same : machine.mute = other.mute)
    (still : machine.step.notice.draws = false) :
    machine.step.machine.mute = other.step.machine.mute ∧ machine.step.flow = other.step.flow ∧
      machine.step.notice = other.step.notice := by
  have skipped : machine.skip.mute = other.skip.mute := congrArg skip same
  have opcode : machine.currentOpcode = other.currentOpcode := by
    show machine.mute.currentOpcode = other.mute.currentOpcode
    rw [same]
  have noticed : machine.skip.notice other.currentOpcode =
      other.skip.notice other.currentOpcode := by
    show machine.skip.mute.notice _ = other.skip.mute.notice _
    rw [skipped]
  have notes : machine.step.notice = machine.skip.notice other.currentOpcode := by
    rw [← opcode]
    unfold step fetch
    simp only
    split <;> rfl
  have executed := execute_congr skipped other.currentOpcode (notes ▸ still)
  unfold step fetch
  simp only [opcode]
  generalize machine.skip.execute other.currentOpcode = one at executed
  generalize other.skip.execute other.currentOpcode = two at executed
  cases one with
  | error fault =>
    cases two with
    | error other => exact ⟨skipped, congrArg Except.error (Except.error.inj executed), noticed⟩
    | ok result => cases executed
  | ok result =>
    cases two with
    | error other => cases executed
    | ok later =>
      obtain ⟨flows, machines⟩ := Prod.mk.inj (Except.ok.inj executed)
      refine ⟨?_, congrArg Except.ok flows, noticed⟩
      exact (mute_tickAfterInstruction _).trans
        ((congrArg tickAfterInstruction machines).trans (mute_tickAfterInstruction _).symm)

/-- **Machines that are the same but for the source of random bytes stay so over a batch that draws
nothing**, and fail alike and note the same. -/
theorem cycle_congr (same : machine.mute = other.mute) (count : Nat)
    (still : ∀ notice ∈ (machine.cycle count).reversedNotices, notice.draws = false) :
    (machine.cycle count).machine.mute = (other.cycle count).machine.mute ∧
      (machine.cycle count).fault = (other.cycle count).fault ∧
      (machine.cycle count).reversedNotices = (other.cycle count).reversedNotices := by
  induction count generalizing machine other with
  | zero => exact ⟨same, rfl, rfl⟩
  | succ count ih =>
    rw [cycle_succ] at still
    have first : machine.step.notice.draws = false := by
      cases flow : machine.step.flow with
      | ok _ => exact still _ (by simp [flow])
      | error _ => exact still _ (by simp [flow])
    obtain ⟨stepped, flows, notices⟩ := step_congr same first
    rw [cycle_succ, cycle_succ, ← flows, ← notices]
    cases flow : machine.step.flow with
    | error fault => exact ⟨stepped, rfl, rfl⟩
    | ok kind =>
      obtain ⟨machines, faults, more⟩ :=
        ih stepped fun notice member => still notice (by simp [flow, member])
      exact ⟨machines, faults, congrArg (· ++ _) more⟩

/-- A machine is built the same way for every seed. -/
theorem boot_mute (mode : TimerMode) (seed : UInt64) (program : List UInt8) :
    (boot mode seed program).map mute = boot mode 0 program := by
  unfold boot load
  split <;> rfl

end Machine

end Arcade
