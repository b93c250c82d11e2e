/-
**Arithmetic with flags.**

An arithmetic opcode reads the values of its two registers, writes a result to the first, and some
then write a flag to the flag register. The values are read before anything is written, so it is all
one whether the two registers are the same and whether they are the flag register; only if the
result goes to the flag register as well, the flag is what stays there.

What result and flag have to do with the values is said by an equation for each opcode
(`Opcode.Balances`). As the result is a byte and the flag a bit, it leaves them no choice.

* `Machine.files_setResult`: where a result and a flag go;
* `Opcode.execute_of_isFlagged` and `Opcode.execute_of_plainResult?`: what each opcode works out;
* `Clockwork.reckons`: the registers after an arithmetic opcode.
-/

import Arcade.Proofs.Machine.Operation
import Arcade.Proofs.Machine.Repertoire

namespace Arcade

/-! ### Bytes and bits -/

namespace Byte

variable (a b : UInt8)

/-- A sum is its carry and its lower byte. -/
theorem add_toNat :
    a.toNat + b.toNat = 256 * (decide (256 ≤ a.toNat + b.toNat)).toNat + (a + b).toNat := by
  have boundA := a.toNat_lt
  have boundB := b.toNat_lt
  rw [UInt8.toNat_add]
  by_cases carries : 256 ≤ a.toNat + b.toNat
  · simp only [carries, decide_true, Bool.toNat_true]
    omega
  · simp only [carries, decide_false, Bool.toNat_false]
    omega

theorem sub_toNat : ((a - b).toNat : Int) = ((a.toNat : Int) - b.toNat) % 256 := by
  have boundA := a.toNat_lt
  have boundB := b.toNat_lt
  rw [UInt8.toNat_sub]
  omega

/-- A byte is twice its upper bits and its lowest bit. -/
theorem shiftRight_toNat :
    a.toNat = 2 * (a >>> 1).toNat + (a.toNat % 2 == 1).toNat := by
  have half : (a >>> 1).toNat = a.toNat / 2 := by
    rw [UInt8.toNat_shiftRight, Nat.shiftRight_eq_div_pow]
    rfl
  rw [half]
  rcases Nat.mod_two_eq_zero_or_one a.toNat with even | odd
  · simp only [even, Nat.reduceBEq, Bool.toNat_false]
    omega
  · simp only [odd, BEq.rfl, Bool.toNat_true]
    omega

/-- Twice a byte is its highest bit and the lower bits. -/
theorem shiftLeft_toNat :
    2 * a.toNat = 256 * (decide (128 ≤ a.toNat)).toNat + (a <<< 1).toNat := by
  have bound := a.toNat_lt
  have twice : (a <<< 1).toNat = a.toNat * 2 % 256 := by
    rw [UInt8.toNat_shiftLeft, Nat.shiftLeft_eq]
    rfl
  rw [twice]
  by_cases high : 128 ≤ a.toNat
  · simp only [high, decide_true, Bool.toNat_true]
    omega
  · simp only [high, decide_false, Bool.toNat_false]
    omega

end Byte

/-! ### Where results and flags go -/

namespace Machine

/-- What the registers hold after a result went to one of them and then a flag to the flag
register. -/
structure Files (before after : Machine) (x : RegisterName) (r f : Nat) : Prop where
  result : x ≠ flagRegister → (after.v x).toNat = r
  flag : (after.v flagRegister).toNat = f
  others : ∀ name, name ≠ x → name ≠ flagRegister → after.v name = before.v name

/-- What the registers hold after a result went to one of them. -/
structure Enters (before after : Machine) (x : RegisterName) (r : Nat) : Prop where
  result : (after.v x).toNat = r
  others : ∀ name, name ≠ x → after.v name = before.v name

variable (machine : Machine) (x : RegisterName)

theorem enters_setV (value : UInt8) : machine.Enters (machine.setV x value) x value.toNat where
  result := by rw [registers_set, if_pos rfl]
  others name other := by rw [registers_set, if_neg (Ne.symm other)]

/-- **The flag is written last**, so it takes the place of a result in the flag register. -/
theorem files_setResult (result : UInt8) (flag : Bool) :
    machine.Files (machine.setResult x result flag) x result.toNat flag.toNat where
  result apart := by
    rw [setResult, setFlag, registers_set, if_neg (Ne.symm apart), registers_set, if_pos rfl]
  flag := by
    rw [setResult, setFlag, registers_set, if_pos rfl]
    cases flag <;> rfl
  others name other unflagged := by
    rw [setResult, setFlag, registers_set, if_neg (Ne.symm unflagged), registers_set,
      if_neg (Ne.symm other)]

end Machine

/-! ### What opcodes work out -/

namespace Opcode

/-- Whether an opcode writes a result and a flag: `8xy4` to `8xy7`, and `8xyE`. -/
def IsFlagged (opcode : Opcode) : Prop :=
  opcode.op = 0x8 ∧ opcode.n.val ∈ [0x4, 0x5, 0x6, 0x7, 0xE]

instance (opcode : Opcode) : Decidable opcode.IsFlagged := inferInstanceAs (Decidable (_ ∧ _))

/-- What a result and a flag have to do with the values of the two registers. -/
def Balances (opcode : Opcode) (a b r f : Nat) : Prop :=
  match opcode.n.val with
  | 0x4 => a + b = 256 * f + r
  | 0x5 => (r : Int) = ((a : Int) - b) % 256 ∧ f = (decide (a > b)).toNat
  | 0x6 => a = 2 * r + f
  | 0x7 => (r : Int) = ((b : Int) - a) % 256 ∧ f = (decide (b > a)).toNat
  | 0xE => 2 * a = 256 * f + r
  | _ => False

/-- The result of an opcode that writes no flag: `7xnn`, and `8xy0` to `8xy3`. -/
def plainResult? (opcode : Opcode) (a b : Nat) : Option Nat :=
  if opcode.op = 0x7 then some ((a + opcode.nn.toNat) % 256)
  else if opcode.op = 0x8 then
    match opcode.n.val with
    | 0x0 => some b
    | 0x1 => some (a ||| b)
    | 0x2 => some (a &&& b)
    | 0x3 => some (a ^^^ b)
    | _ => none
  else none

variable {opcode : Opcode}

/-- **An opcode that writes a flag works out a byte and a bit that balance the values**, and writes
the byte and then the bit. -/
theorem execute_of_isFlagged (flagged : opcode.IsFlagged) (machine : Machine) :
    ∃ (result : UInt8) (flag : Bool),
      machine.execute opcode = .ok (.plain, machine.setResult opcode.x result flag) ∧
      opcode.Balances (machine.v opcode.x).toNat (machine.v opcode.y).toNat result.toNat
        flag.toNat := by
  obtain ⟨family, member⟩ := flagged
  simp only [List.mem_cons, List.not_mem_nil, or_false] at member
  rcases member with add | sub | right | subFrom | left
  · have form : opcode.HasForm (.add opcode.x opcode.y) := ⟨family, add, rfl, rfl⟩
    refine ⟨_, _, (machine.execute_of_hasForm form).1, ?_⟩
    simp only [Balances, add]
    exact Byte.add_toNat _ _
  · have form : opcode.HasForm (.sub opcode.x opcode.y) := ⟨family, sub, rfl, rfl⟩
    refine ⟨_, _, (machine.execute_of_hasForm form).1, ?_⟩
    simp only [Balances, sub]
    exact ⟨Byte.sub_toNat _ _, rfl⟩
  · have form : opcode.HasForm (.shiftRight opcode.x) := ⟨family, right, rfl⟩
    refine ⟨_, _, (machine.execute_of_hasForm form).1, ?_⟩
    simp only [Balances, right]
    exact Byte.shiftRight_toNat _
  · have form : opcode.HasForm (.subFrom opcode.x opcode.y) := ⟨family, subFrom, rfl, rfl⟩
    refine ⟨_, _, (machine.execute_of_hasForm form).1, ?_⟩
    simp only [Balances, subFrom]
    exact ⟨Byte.sub_toNat _ _, rfl⟩
  · have form : opcode.HasForm (.shiftLeft opcode.x) := ⟨family, left, rfl⟩
    refine ⟨_, _, (machine.execute_of_hasForm form).1, ?_⟩
    simp only [Balances, left]
    exact Byte.shiftLeft_toNat _

/-- **An opcode that writes no flag writes its result and nothing else.** -/
theorem execute_of_plainResult? (machine : Machine) {r : Nat}
    (works : opcode.plainResult? (machine.v opcode.x).toNat (machine.v opcode.y).toNat = some r) :
    ∃ result : UInt8, result.toNat = r ∧
      machine.execute opcode = .ok (.plain, machine.setV opcode.x result) := by
  unfold plainResult? at works
  split at works
  · rename_i family
    cases works
    have form : opcode.HasForm (.addByte opcode.x opcode.nn) := ⟨family, rfl, rfl⟩
    exact ⟨_, UInt8.toNat_add _ _, (machine.execute_of_hasForm form).1⟩
  split at works
  · rename_i family
    split at works
    · rename_i copy
      cases works
      have form : opcode.HasForm (.copy opcode.x opcode.y) := ⟨family, copy, rfl, rfl⟩
      exact ⟨_, rfl, (machine.execute_of_hasForm form).1⟩
    · rename_i or
      cases works
      have form : opcode.HasForm (.or opcode.x opcode.y) := ⟨family, or, rfl, rfl⟩
      exact ⟨_, UInt8.toNat_or _ _, (machine.execute_of_hasForm form).1⟩
    · rename_i and
      cases works
      have form : opcode.HasForm (.and opcode.x opcode.y) := ⟨family, and, rfl, rfl⟩
      exact ⟨_, UInt8.toNat_and _ _, (machine.execute_of_hasForm form).1⟩
    · rename_i xor
      cases works
      have form : opcode.HasForm (.xor opcode.x opcode.y) := ⟨family, xor, rfl, rfl⟩
      exact ⟨_, UInt8.toNat_xor _ _, (machine.execute_of_hasForm form).1⟩
    · cases works
  · cases works

end Opcode

namespace Clockwork

/-- **The registers after an arithmetic opcode**, whether it was read at the program counter or
passed on, and whichever registers it names. One with a flag leaves a result and a flag that balance
the values from before; one without leaves its result; and no other register changes. -/
theorem reckons (start : Clockwork) (operation : Operation) (opcode : Opcode)
    (enacts : operation.Enacts start opcode) :
    let a := (start.machine.v opcode.x).toNat
    let b := (start.machine.v opcode.y).toNat
    let after := (start.operate operation).2.machine
    (opcode.IsFlagged →
      (start.operate operation).1 = .flowed .plain ∧
        ∃ r < 256, ∃ f ≤ 1, opcode.Balances a b r f ∧ start.machine.Files after opcode.x r f) ∧
    ∀ r, opcode.plainResult? a b = some r →
      (start.operate operation).1 = .flowed .plain ∧ start.machine.Enters after opcode.x r := by
  intro a b after
  obtain ⟨counter, executed⟩ := operate_of_enacts enacts
  refine ⟨fun flagged => ?_, fun r works => ?_⟩
  · obtain ⟨result, flag, executes, balances⟩ :=
      Opcode.execute_of_isFlagged flagged { start.machine with counter }
    obtain ⟨returned, delay, sound, left⟩ := executed executes
    have files := Machine.files_setResult { start.machine with counter } opcode.x result flag
    refine ⟨returned, _, result.toNat_lt, _, flag.toNat_le, balances, ?_⟩
    rw [show after = _ from left]
    exact ⟨files.result, files.flag, files.others⟩
  · obtain ⟨result, rfl, executes⟩ :=
      Opcode.execute_of_plainResult? { start.machine with counter } works
    obtain ⟨returned, delay, sound, left⟩ := executed executes
    have enters := Machine.enters_setV { start.machine with counter } opcode.x result
    rw [show after = _ from left]
    exact ⟨returned, enters.result, enters.others⟩

/-- A machine that is about to add the flag register to itself, where it holds `80`. -/
def doubler : Clockwork := (new .perInstruction 0 0).run [.load [0x6F, 0x80, 0x8F, 0xF4] 0, .step 1]

/-- The carry takes the place of the sum. -/
theorem reckons_doubler :
    (doubler.machine.v flagRegister).toNat = 0x80 ∧
      ((doubler.operate (.step 2)).2.machine.v flagRegister).toNat = 1 := by
  have facts : doubler.machine.currentOpcode = ⟨0x8FF4⟩ ∧
      (doubler.machine.v flagRegister).toNat = 0x80 := by decide +kernel
  obtain ⟨enacts, value⟩ := facts
  have names : (Opcode.mk 0x8FF4).x = flagRegister ∧ (Opcode.mk 0x8FF4).y = flagRegister := by
    decide
  obtain ⟨-, r, byte, f, bit, balances, files⟩ :=
    (reckons doubler (.step 2) ⟨0x8FF4⟩ enacts).1 (by decide)
  rw [names.1, names.2, value] at balances
  have sum : 0x80 + 0x80 = 256 * f + r := balances
  exact ⟨value, files.flag.trans (by omega)⟩

end Clockwork

end Arcade
