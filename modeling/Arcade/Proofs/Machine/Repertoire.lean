/-
**The documented instruction set.**

The instruction set is documented by the forms of its opcodes (`Opcode.forms`). In a form a digit
stands for itself, and any other letter for an operand. The machine executes every opcode that has a
form, and passes over every other one with a warning, but for one kind: the two comparisons of
registers are documented with a zero at their end, and are executed whatever stands there
(`Opcode.IsStray`).

* `Opcode.carries_iff`: which opcodes carry an instruction;
* `Machine.passes_over_iff`: which opcodes are passed over with a warning, and what is done with all
  others;
* `Machine.exists_executed_undocumented`: an opcode without a form that is executed.
-/

import Arcade.Machine.Run
import Arcade.Proofs.Machine.Form
import Mathlib.Data.List.Forall2

namespace Arcade

namespace Opcode

/-! ### Forms -/

/-- The documented forms. -/
def forms : List String := [
  "00E0", "00EE", "1nnn", "2nnn", "3xnn", "4xnn", "5xy0", "6xnn", "7xnn",
  "8xy0", "8xy1", "8xy2", "8xy3", "8xy4", "8xy5", "8xy6", "8xy7", "8xyE", "9xy0",
  "Annn", "Bnnn", "Cxnn", "Dxyn", "Ex9E", "ExA1",
  "Fx07", "Fx0A", "Fx15", "Fx18", "Fx1E", "Fx29", "Fx33", "Fx55", "Fx65"]

/-- The value of a hexadecimal digit; small letters are no digits. -/
def digit? (letter : Char) : Option Nat :=
  if letter.isDigit then some (letter.toNat - '0'.toNat)
  else if letter.isUpper then some (letter.toNat - 'A'.toNat + 10)
  else none

/-- The four nibbles of an opcode, the highest first. -/
def nibbles (opcode : Opcode) : List Nat :=
  [opcode.op, opcode.x.val, opcode.y.val, opcode.n.val]

/-- Whether an opcode has a form: its nibbles are the form's digits, where the form has digits. -/
def Fits (opcode : Opcode) (form : String) : Prop :=
  List.Forall₂ (fun letter nibble => ∀ digit ∈ digit? letter, nibble = digit)
    form.toList opcode.nibbles

/-- Whether an opcode has a documented form. -/
def IsDocumented (opcode : Opcode) : Prop := ∃ form ∈ forms, opcode.Fits form

/-- Whether an opcode is a comparison of two registers but for its end. -/
def IsStray (opcode : Opcode) : Prop :=
  (opcode.op = 0x5 ∨ opcode.op = 0x9) ∧ opcode.n.val ≠ 0

end Opcode

/-- The documented form of an instruction's opcodes. -/
def Instruction.form : Instruction → String
  | .clearDisplay => "00E0"
  | .returnFromCall => "00EE"
  | .jump _ => "1nnn"
  | .call _ => "2nnn"
  | .skipIfByte _ _ => "3xnn"
  | .skipUnlessByte _ _ => "4xnn"
  | .skipIfEqual _ _ => "5xy0"
  | .loadByte _ _ => "6xnn"
  | .addByte _ _ => "7xnn"
  | .copy _ _ => "8xy0"
  | .or _ _ => "8xy1"
  | .and _ _ => "8xy2"
  | .xor _ _ => "8xy3"
  | .add _ _ => "8xy4"
  | .sub _ _ => "8xy5"
  | .shiftRight _ => "8xy6"
  | .subFrom _ _ => "8xy7"
  | .shiftLeft _ => "8xyE"
  | .skipUnlessEqual _ _ => "9xy0"
  | .loadIndex _ => "Annn"
  | .jumpOffset _ => "Bnnn"
  | .random _ _ => "Cxnn"
  | .draw _ _ _ => "Dxyn"
  | .skipIfDown _ => "Ex9E"
  | .skipIfUp _ => "ExA1"
  | .readDelay _ => "Fx07"
  | .waitForKey _ => "Fx0A"
  | .setDelay _ => "Fx15"
  | .setSound _ => "Fx18"
  | .addIndex _ => "Fx1E"
  | .loadGlyph _ => "Fx29"
  | .storeDecimal _ => "Fx33"
  | .saveRegisters _ => "Fx55"
  | .restoreRegisters _ => "Fx65"

theorem Instruction.form_mem_forms (instruction : Instruction) :
    instruction.form ∈ Opcode.forms := by
  cases instruction <;> simp only [form, Opcode.forms, List.mem_cons, true_or, or_true]

namespace Opcode

variable {opcode : Opcode} {instruction : Instruction}

/-- The lower byte of an opcode is its last two nibbles. -/
theorem nn_eq_iff {byte : UInt8} :
    opcode.nn = byte ↔
      opcode.y.val = byte.toNat / 16 ∧ opcode.n.val = byte.toNat % 16 := by
  have narrow := byte.toNat_lt
  simp only [nn, y, n, lowNibble_val, ← UInt8.toNat_inj, UInt8.toNat_ofNat']
  omega

theorem toNat_nn (opcode : Opcode) : opcode.nn.toNat = opcode.y.val * 16 + opcode.n.val := by
  simp only [nn, y, n, lowNibble_val, UInt8.toNat_ofNat']
  omega

/-- **An instruction's opcodes have its documented form**, but for stray comparisons. -/
theorem fits_of_hasForm (form : opcode.HasForm instruction) (regular : ¬ opcode.IsStray) :
    opcode.Fits instruction.form := by
  cases instruction with
  | clearDisplay =>
    obtain ⟨family, system, member⟩ := (toNat_eq_iff 0xE0).mp form
    rw [nn_eq_iff] at member
    simp [Instruction.form, Fits, nibbles, digit?, family, system, member, firstRegister]
  | returnFromCall =>
    obtain ⟨family, system, member⟩ := (toNat_eq_iff 0xEE).mp form
    rw [nn_eq_iff] at member
    simp [Instruction.form, Fits, nibbles, digit?, family, system, member, firstRegister]
  | skipIfEqual =>
    have zero : opcode.n.val = 0 := Decidable.not_not.mp fun other => regular ⟨.inl form.1, other⟩
    simp [Instruction.form, Fits, nibbles, digit?, form.1, zero]
  | skipUnlessEqual =>
    have zero : opcode.n.val = 0 := Decidable.not_not.mp fun other => regular ⟨.inr form.1, other⟩
    simp [Instruction.form, Fits, nibbles, digit?, form.1, zero]
  | jump | call | skipIfByte | skipUnlessByte | loadByte | addByte | loadIndex | jumpOffset | random
  | draw => simp [Instruction.form, Fits, nibbles, digit?, form.1]
  | copy | or | and | xor | add | sub | shiftRight | subFrom | shiftLeft =>
    simp [Instruction.form, Fits, nibbles, digit?, form.1, form.2.1]
  | skipIfDown | skipIfUp | readDelay | waitForKey | setDelay | setSound | addIndex | loadGlyph
  | storeDecimal | saveRegisters | restoreRegisters =>
    have member := nn_eq_iff.mp form.2.1
    simp [Instruction.form, Fits, nibbles, digit?, form.1, member]

/-- **An opcode that has a documented form carries an instruction.** -/
theorem isSome_of_fits : ∀ form ∈ forms, opcode.Fits form →
    (Instruction.decode? opcode).isSome = true := by
  have lower := opcode.toNat_nn
  simp only [forms, List.forall_mem_cons, List.not_mem_nil, false_implies, implies_true, and_true]
  -- one goal for each form of the list
  and_intros <;>
  · intro fits
    simp [Fits, nibbles, digit?] at fits
    simp [Instruction.decode?, Instruction.decodeArithmetic?, Instruction.decodeDevice?,
      firstRegister, lower, fits]

/-- **Which opcodes carry an instruction**: those of the documented forms, and the stray
comparisons. -/
theorem carries_iff :
    (∃ instruction, opcode.HasForm instruction) ↔ opcode.IsDocumented ∨ opcode.IsStray := by
  constructor
  · rintro ⟨instruction, form⟩
    by_cases stray : opcode.IsStray
    · exact .inr stray
    · exact .inl ⟨instruction.form, instruction.form_mem_forms, fits_of_hasForm form stray⟩
  · simp only [← decode?_eq_some_iff, ← Option.isSome_iff_exists]
    rintro (⟨form, member, fits⟩ | ⟨family | family, -⟩)
    · exact isSome_of_fits form member fits
    · simp [Instruction.decode?, family]
    · simp [Instruction.decode?, family]

theorem not_documented_of_stray (stray : opcode.IsStray) : ¬ opcode.IsDocumented := by
  obtain ⟨family | family, other⟩ := stray
  all_goals
    simp [IsDocumented, forms, Fits, nibbles, digit?, family]
    exact fun zero => other (congrArg Fin.val zero)

/-- The opcode with a zero in place of its last nibble. -/
def rounded (opcode : Opcode) : Opcode := ⟨UInt16.ofNat (opcode.toNat / 16 * 16)⟩

theorem rounded_fields (opcode : Opcode) :
    opcode.rounded.op = opcode.op ∧ opcode.rounded.x = opcode.x ∧ opcode.rounded.y = opcode.y ∧
      opcode.rounded.n = 0 := by
  have bound := opcode.toNat_lt
  have exact : opcode.rounded.toNat = opcode.toNat / 16 * 16 :=
    UInt16.toNat_ofNat_of_lt (by simp only [UInt16.size]; omega)
  simp only [op, x, y, n, exact, Fin.ext_iff, lowNibble_val, Fin.val_zero]
  omega

end Opcode

namespace Machine

/-- The warnings that executing an opcode gives. -/
def warnings (machine : Machine) (opcode : Opcode) : List String :=
  [machine.notice opcode].filterMap Notice.warning?

variable {opcode : Opcode}

/-- An instruction is never taken for none. -/
theorem flow_perform {machine : Machine} {instruction : Instruction} {flow : Flow} {after : Machine}
    (performed : machine.perform instruction = .ok (flow, after)) : flow ≠ .unsupported := by
  rintro rfl
  cases instruction with
  | returnFromCall | call =>
    simp only [perform, bind, Except.bind] at performed
    split at performed <;> cases performed
  | waitForKey =>
    simp only [perform] at performed
    split at performed <;> cases performed
  | _ => cases performed

/-- What is done with an opcode that carries an instruction. -/
theorem execute_of_hasForm (machine : Machine) {instruction : Instruction}
    (form : opcode.HasForm instruction) :
    machine.execute opcode = machine.perform instruction ∧
      machine.notice opcode = .executed machine.counter.previous instruction opcode := by
  have carries := Opcode.decode?_eq_some_iff.mpr form
  unfold execute notice
  rw [carries]
  exact ⟨rfl, rfl⟩

/-- What is done with an opcode that carries none. -/
theorem execute_of_bare (machine : Machine)
    (bare : ∀ instruction, ¬ opcode.HasForm instruction) :
    machine.execute opcode = .ok (.unsupported, machine) ∧
      machine.notice opcode = .unsupported machine.counter.previous opcode := by
  have carries : Instruction.decode? opcode = none :=
    Option.eq_none_iff_forall_ne_some.mpr fun instruction carried =>
      bare instruction (Opcode.decode?_eq_some_iff.mp carried)
  unfold execute notice
  rw [carries]
  exact ⟨rfl, rfl⟩

/-- A stray comparison is executed like the one that is documented. -/
theorem execute_rounded (machine : Machine) (stray : opcode.IsStray) :
    machine.execute opcode = machine.execute opcode.rounded := by
  obtain ⟨op, x, y, -⟩ := opcode.rounded_fields
  unfold execute Instruction.decode?
  obtain ⟨family | family, -⟩ := stray
  all_goals simp only [op, x, y, family]

/-- **Opcodes that have no documented form, and are no stray comparisons, are passed over with one
warning, and the machine stays as it is.** Every other opcode is executed as the instruction whose
form it has, without a warning; a stray comparison like the documented one of the same registers. -/
theorem passes_over_iff (machine : Machine) (opcode : Opcode) :
    (machine.execute opcode = .ok (.unsupported, machine) ∧
        machine.warnings opcode =
          [s!"unsupported opcode {opcode.text} at {Text.hexUpper 3 machine.counter.previous.val}"] ↔
      ¬ opcode.IsDocumented ∧ ¬ opcode.IsStray) ∧
    (opcode.IsDocumented ∨ opcode.IsStray →
      machine.warnings opcode = [] ∧
        (∀ flow after, machine.execute opcode = .ok (flow, after) → flow ≠ .unsupported) ∧
        ∃ instruction, opcode.HasForm instruction ∧
          machine.execute opcode = machine.perform instruction) ∧
    (opcode.IsStray →
      ¬ opcode.IsDocumented ∧ opcode.rounded.IsDocumented ∧
        machine.execute opcode = machine.execute opcode.rounded) := by
  have runs : opcode.IsDocumented ∨ opcode.IsStray →
      machine.warnings opcode = [] ∧
        (∀ flow after, machine.execute opcode = .ok (flow, after) → flow ≠ .unsupported) ∧
        ∃ instruction, opcode.HasForm instruction ∧
          machine.execute opcode = machine.perform instruction := by
    intro known
    obtain ⟨instruction, form⟩ := Opcode.carries_iff.mpr known
    obtain ⟨executed, noticed⟩ := execute_of_hasForm machine form
    refine ⟨by simp [warnings, noticed, Notice.warning?], fun flow after result => ?_, instruction,
      form, executed⟩
    exact flow_perform (executed.symm.trans result)
  refine ⟨⟨fun passed => ?_, fun unknown => ?_⟩, runs, fun stray => ?_⟩
  · rw [← not_or]
    exact fun known => (runs known).2.1 _ _ passed.1 rfl
  · obtain ⟨executed, noticed⟩ := execute_of_bare machine fun instruction form =>
      (not_or.mpr unknown) (Opcode.carries_iff.mp ⟨instruction, form⟩)
    exact ⟨executed, by simp [warnings, noticed, Notice.warning?]⟩
  · refine ⟨Opcode.not_documented_of_stray stray, ?_, execute_rounded machine stray⟩
    obtain ⟨op, -, -, n⟩ := opcode.rounded_fields
    obtain ⟨family | family, -⟩ := stray
    · exact ⟨"5xy0", by simp [Opcode.forms],
        by simp [Opcode.Fits, Opcode.nibbles, Opcode.digit?, op, n, family]⟩
    · exact ⟨"9xy0", by simp [Opcode.forms],
        by simp [Opcode.Fits, Opcode.nibbles, Opcode.digit?, op, n, family]⟩

/-- It is not so that every opcode without a documented form is passed over: `5121` compares the
registers that `5120` compares. -/
theorem exists_executed_undocumented :
    ¬ ∀ (machine : Machine) (opcode : Opcode), ¬ opcode.IsDocumented →
      machine.execute opcode = .ok (.unsupported, machine) ∧
        (machine.warnings opcode).length = 1 := by
  intro passes
  have stray : (Opcode.mk 0x5121).IsStray := ⟨.inl (by decide), by decide⟩
  have passed := passes (new .perInstruction 0) ⟨0x5121⟩ (Opcode.not_documented_of_stray stray)
  exact absurd passed.2 (by decide)

end Machine

end Arcade
