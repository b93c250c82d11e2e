/-
**The keypad of a running machine.**

A machine reads its keypad and never writes to it: the keypad changes by key events only. So a key
is as its last event left it, whatever the machine did meanwhile.

* `Keypad.testBit_bits`: the keypad as a number has a bit for each key;
* `Keypad.isDown_foldl`: a key is as its last event left it;
* `Machine.keypad_cycle`: a batch of steps leaves the keypad alone.
-/

import Arcade.Machine.Run
import Mathlib.Data.List.FinRange
import Mathlib.Data.List.Induction
import Mathlib.Data.Nat.Bitwise

namespace Arcade

/-- The last of some events that is about a key. -/
def lastEvent? (events : List KeyEvent) (key : Key) : Option KeyEvent :=
  (events.filter fun event => event.key = key).getLast?

/-- Bits put together from the highest to the lowest are read off one by one. -/
theorem testBit_foldr_finRange {count : Nat} (lit : Fin count → Bool) (index : Fin count) :
    ((List.finRange count).foldr (fun key higher => 2 * higher + (lit key).toNat) 0).testBit index =
      lit index := by
  induction count with
  | zero => exact index.elim0
  | succ count ih =>
    rw [List.finRange_succ, List.foldr_cons, List.foldr_map]
    have low : ∀ bit : Bool, bit.toNat < 2 := fun bit => by cases bit <;> decide
    cases index using Fin.cases with
    | zero =>
      rw [Fin.val_zero, Nat.testBit_zero, Nat.mul_add_mod]
      cases lit 0 <;> rfl
    | succ index =>
      rw [Fin.val_succ, Nat.testBit_succ, Nat.mul_add_div Nat.zero_lt_two,
        Nat.div_eq_of_lt (low _), Nat.add_zero]
      exact ih (fun key => lit key.succ) index

theorem foldr_finRange_lt {count : Nat} (lit : Fin count → Bool) :
    (List.finRange count).foldr (fun key higher => 2 * higher + (lit key).toNat) 0 < 2 ^ count := by
  induction count with
  | zero => exact Nat.one_pos
  | succ count ih =>
    rw [List.finRange_succ, List.foldr_cons, List.foldr_map, Nat.pow_succ]
    have above := ih fun key => lit key.succ
    have low := (lit 0).toNat_lt
    omega

namespace Keypad

/-- **The keypad as a number has a bit for each key.** -/
theorem testBit_bits (keypad : Keypad) (key : Key) :
    keypad.bits.testBit key = keypad.isDown key :=
  testBit_foldr_finRange keypad.isDown key

theorem bits_lt (keypad : Keypad) : keypad.bits < 2 ^ keyCount :=
  foldr_finRange_lt keypad.isDown

theorem testBit_bits_of_le (keypad : Keypad) {place : Nat} (above : keyCount ≤ place) :
    keypad.bits.testBit place = false :=
  Nat.testBit_lt_two_pow (keypad.bits_lt.trans_le (Nat.pow_le_pow_right Nat.two_pos above))

/-- A key event changes one bit of the keypad as a number. -/
theorem testBit_bits_apply (keypad : Keypad) (event : KeyEvent) (place : Nat) :
    (keypad.apply event).bits.testBit place =
      if event.key.val = place then event.pressed else keypad.bits.testBit place := by
  by_cases inside : place < keyCount
  · have bit := (keypad.apply event).testBit_bits ⟨place, inside⟩
    have before := keypad.testBit_bits ⟨place, inside⟩
    rw [isDown_apply] at bit
    simp only [bit, before, Fin.ext_iff]
  · have other : event.key.val ≠ place := fun same => inside (same ▸ event.key.isLt)
    rw [if_neg other, testBit_bits_of_le _ (Nat.not_lt.mp inside),
      testBit_bits_of_le _ (Nat.not_lt.mp inside)]

/-- **A key is as its last event left it**, or as it was before if there was none. -/
theorem isDown_foldl (keypad : Keypad) (events : List KeyEvent) (key : Key) :
    (events.foldl Keypad.apply keypad).isDown key =
      ((lastEvent? events key).map KeyEvent.pressed).getD (keypad.isDown key) := by
  induction events using List.reverseRecOn with
  | nil => rfl
  | append_singleton events event ih =>
    rw [List.foldl_append, List.foldl_cons, List.foldl_nil, isDown_apply, ih, lastEvent?,
      lastEvent?, List.filter_append, List.filter_singleton]
    by_cases same : event.key = key
    · simp [same]
    · simp [same]

end Keypad

namespace Machine

variable (machine : Machine)

@[simp] theorem keypad_setV (x : RegisterName) (value : UInt8) :
    (machine.setV x value).keypad = machine.keypad := rfl

@[simp] theorem keypad_setByteAt (offset : Nat) (byte : UInt8) :
    (machine.setByteAt offset byte).keypad = machine.keypad := rfl

@[simp] theorem keypad_skipIf (condition : Bool) :
    (machine.skipIf condition).keypad = machine.keypad := by
  unfold skipIf
  split <;> rfl

theorem keypad_saveRegisters (names : List RegisterName) :
    (machine.saveRegisters names).keypad = machine.keypad := by
  induction names generalizing machine with
  | nil => rfl
  | cons name rest ih => rw [saveRegisters, ih, keypad_setByteAt]

theorem keypad_restoreRegisters (names : List RegisterName) :
    (machine.restoreRegisters names).keypad = machine.keypad := by
  induction names generalizing machine with
  | nil => rfl
  | cons name rest ih => rw [restoreRegisters, ih, keypad_setV]

theorem keypad_drawSprite (x y : RegisterName) (height : Fin 16) :
    (machine.drawSprite x y height).keypad = machine.keypad := by
  simp only [drawSprite]
  split <;> rfl

variable {machine}

/-- No instruction writes to the keypad. -/
theorem keypad_perform {instruction : Instruction} {flow : Flow} {after : Machine}
    (performed : machine.perform instruction = .ok (flow, after)) :
    after.keypad = machine.keypad := by
  cases instruction with
  | returnFromCall =>
    simp only [perform, bind, Except.bind] at performed
    split at performed <;> cases performed
    rfl
  | call target =>
    simp only [perform, bind, Except.bind] at performed
    split at performed <;> cases performed
    rfl
  | waitForKey x =>
    simp only [perform] at performed
    split at performed <;> cases performed <;> rfl
  | saveRegisters x =>
    cases performed
    exact machine.keypad_saveRegisters _
  | restoreRegisters x =>
    cases performed
    exact machine.keypad_restoreRegisters _
  | draw x y height =>
    cases performed
    exact machine.keypad_drawSprite x y height
  | skipIfByte | skipUnlessByte | skipIfEqual | skipUnlessEqual | skipIfDown | skipIfUp =>
    cases performed
    exact machine.keypad_skipIf _
  | _ =>
    cases performed
    rfl

theorem keypad_execute {opcode : Opcode} {flow : Flow} {after : Machine}
    (executed : machine.execute opcode = .ok (flow, after)) : after.keypad = machine.keypad := by
  unfold execute at executed
  split at executed
  · exact keypad_perform executed
  · cases executed
    rfl

variable (machine)

theorem keypad_tickAfterInstruction : machine.tickAfterInstruction.keypad = machine.keypad := by
  unfold tickAfterInstruction
  split <;> rfl

theorem keypad_step : machine.step.machine.keypad = machine.keypad := by
  simp only [step]
  split
  · rename_i flow executed done
    have kept : executed.keypad = machine.skip.keypad := keypad_execute done
    exact (keypad_tickAfterInstruction executed).trans kept
  · rfl

/-- **A batch of steps leaves the keypad alone.** -/
theorem keypad_cycle (count : Nat) : (machine.cycle count).machine.keypad = machine.keypad := by
  induction count generalizing machine with
  | zero => rfl
  | succ count ih =>
    rw [cycle_succ]
    split
    · exact (ih machine.step.machine).trans machine.keypad_step
    · exact machine.keypad_step

end Machine

end Arcade
