/-
**The forms of opcodes.**

An opcode is recognised by some of its nibbles: the first one names a family of instructions, and
within some families the last one, or the lower byte, names the member. The other nibbles are
operands. `Opcode.HasForm` lists the form of every instruction.

* `Opcode.decode?_eq_some_iff`: an opcode carries an instruction exactly if it has its form.
-/

import Arcade.Machine.Instruction

namespace Arcade

namespace Opcode

/-- Whether an opcode has the form of an instruction, with its operands. -/
def HasForm (opcode : Opcode) : Instruction → Prop
  | .clearDisplay => opcode.toNat = 0x00E0
  | .returnFromCall => opcode.toNat = 0x00EE
  | .jump target => opcode.op = 0x1 ∧ opcode.nnn = target
  | .call target => opcode.op = 0x2 ∧ opcode.nnn = target
  | .skipIfByte x byte => opcode.op = 0x3 ∧ opcode.x = x ∧ opcode.nn = byte
  | .skipUnlessByte x byte => opcode.op = 0x4 ∧ opcode.x = x ∧ opcode.nn = byte
  | .skipIfEqual x y => opcode.op = 0x5 ∧ opcode.x = x ∧ opcode.y = y
  | .loadByte x byte => opcode.op = 0x6 ∧ opcode.x = x ∧ opcode.nn = byte
  | .addByte x byte => opcode.op = 0x7 ∧ opcode.x = x ∧ opcode.nn = byte
  | .copy x y => opcode.op = 0x8 ∧ opcode.n.val = 0x0 ∧ opcode.x = x ∧ opcode.y = y
  | .or x y => opcode.op = 0x8 ∧ opcode.n.val = 0x1 ∧ opcode.x = x ∧ opcode.y = y
  | .and x y => opcode.op = 0x8 ∧ opcode.n.val = 0x2 ∧ opcode.x = x ∧ opcode.y = y
  | .xor x y => opcode.op = 0x8 ∧ opcode.n.val = 0x3 ∧ opcode.x = x ∧ opcode.y = y
  | .add x y => opcode.op = 0x8 ∧ opcode.n.val = 0x4 ∧ opcode.x = x ∧ opcode.y = y
  | .sub x y => opcode.op = 0x8 ∧ opcode.n.val = 0x5 ∧ opcode.x = x ∧ opcode.y = y
  | .shiftRight x => opcode.op = 0x8 ∧ opcode.n.val = 0x6 ∧ opcode.x = x
  | .subFrom x y => opcode.op = 0x8 ∧ opcode.n.val = 0x7 ∧ opcode.x = x ∧ opcode.y = y
  | .shiftLeft x => opcode.op = 0x8 ∧ opcode.n.val = 0xE ∧ opcode.x = x
  | .skipUnlessEqual x y => opcode.op = 0x9 ∧ opcode.x = x ∧ opcode.y = y
  | .loadIndex target => opcode.op = 0xA ∧ opcode.nnn = target
  | .jumpOffset target => opcode.op = 0xB ∧ opcode.nnn = target
  | .random x mask => opcode.op = 0xC ∧ opcode.x = x ∧ opcode.nn = mask
  | .draw x y height => opcode.op = 0xD ∧ opcode.x = x ∧ opcode.y = y ∧ opcode.n = height
  | .skipIfDown x => opcode.op = 0xE ∧ opcode.nn = 0x9E ∧ opcode.x = x
  | .skipIfUp x => opcode.op = 0xE ∧ opcode.nn = 0xA1 ∧ opcode.x = x
  | .readDelay x => opcode.op = 0xF ∧ opcode.nn = 0x07 ∧ opcode.x = x
  | .waitForKey x => opcode.op = 0xF ∧ opcode.nn = 0x0A ∧ opcode.x = x
  | .setDelay x => opcode.op = 0xF ∧ opcode.nn = 0x15 ∧ opcode.x = x
  | .setSound x => opcode.op = 0xF ∧ opcode.nn = 0x18 ∧ opcode.x = x
  | .addIndex x => opcode.op = 0xF ∧ opcode.nn = 0x1E ∧ opcode.x = x
  | .loadGlyph x => opcode.op = 0xF ∧ opcode.nn = 0x29 ∧ opcode.x = x
  | .storeDecimal x => opcode.op = 0xF ∧ opcode.nn = 0x33 ∧ opcode.x = x
  | .saveRegisters x => opcode.op = 0xF ∧ opcode.nn = 0x55 ∧ opcode.x = x
  | .restoreRegisters x => opcode.op = 0xF ∧ opcode.nn = 0x65 ∧ opcode.x = x

/-- The system instructions have no operand: all their nibbles are fixed. -/
theorem toNat_eq_iff {opcode : Opcode} (byte : UInt8) :
    opcode.toNat = byte.toNat ↔
      opcode.op = 0x0 ∧ opcode.x = firstRegister ∧ opcode.nn = byte := by
  have bound := opcode.toNat_lt
  have narrow := byte.toNat_lt
  simp only [op, x, nn, firstRegister, Fin.ext_iff, lowNibble_val, ← UInt8.toNat_inj,
    UInt8.toNat_ofNat', Fin.val_zero]
  omega

variable {opcode : Opcode} {instruction : Instruction}

theorem decodeArithmetic?_eq_some (family : opcode.op = 0x8)
    (carries : Instruction.decodeArithmetic? opcode.x opcode.y opcode.n.val = some instruction) :
    opcode.HasForm instruction := by
  unfold Instruction.decodeArithmetic? at carries
  split at carries
  case h_10 => cases carries
  all_goals
    rename_i member
    cases carries
    simp only [HasForm, family, member, and_self]

theorem decodeDevice?_eq_some (family : opcode.op = 0xF)
    (carries : Instruction.decodeDevice? opcode.x opcode.nn.toNat = some instruction) :
    opcode.HasForm instruction := by
  unfold Instruction.decodeDevice? at carries
  split at carries
  case h_10 => cases carries
  all_goals
    rename_i member
    cases carries
    exact ⟨family, UInt8.toNat_inj.mp member, rfl⟩

/-- What an opcode carries shows in its form. -/
theorem hasForm_of_decode? (carries : Instruction.decode? opcode = some instruction) :
    opcode.HasForm instruction := by
  unfold Instruction.decode? at carries
  simp only at carries
  split at carries
  case h_1 =>
    rename_i family
    split at carries
    case isFalse => cases carries
    rename_i system
    split at carries
    case h_1 =>
      rename_i member
      cases carries
      exact (toNat_eq_iff 0xE0).mpr ⟨family, system, UInt8.toNat_inj.mp member⟩
    case h_2 =>
      rename_i member
      cases carries
      exact (toNat_eq_iff 0xEE).mpr ⟨family, system, UInt8.toNat_inj.mp member⟩
    case h_3 => cases carries
  case h_9 => exact decodeArithmetic?_eq_some ‹_› carries
  case h_15 =>
    rename_i family
    split at carries
    case h_3 => cases carries
    all_goals
      rename_i member
      cases carries
      exact ⟨family, UInt8.toNat_inj.mp member, rfl⟩
  case h_16 => exact decodeDevice?_eq_some ‹_› carries
  case h_17 => cases carries
  all_goals
    rename_i family
    cases carries
    simp only [HasForm, family, and_self]

/-- **An opcode carries an instruction exactly if it has its form.** -/
theorem decode?_eq_some_iff :
    Instruction.decode? opcode = some instruction ↔ opcode.HasForm instruction := by
  refine ⟨hasForm_of_decode?, fun form => ?_⟩
  cases instruction with
  | clearDisplay =>
    obtain ⟨family, system, member⟩ := (toNat_eq_iff 0xE0).mp form
    simp [Instruction.decode?, family, system, member]
  | returnFromCall =>
    obtain ⟨family, system, member⟩ := (toNat_eq_iff 0xEE).mp form
    simp [Instruction.decode?, family, system, member]
  | jump | call | loadIndex | jumpOffset =>
    obtain ⟨family, rfl⟩ := form
    simp [Instruction.decode?, family]
  | skipIfByte | skipUnlessByte | skipIfEqual | loadByte | addByte | skipUnlessEqual | random =>
    obtain ⟨family, rfl, rfl⟩ := form
    simp [Instruction.decode?, family]
  | draw =>
    obtain ⟨family, rfl, rfl, rfl⟩ := form
    simp [Instruction.decode?, family]
  | copy | or | and | xor | add | sub | subFrom =>
    obtain ⟨family, member, rfl, rfl⟩ := form
    simp [Instruction.decode?, Instruction.decodeArithmetic?, family, member]
  | shiftRight | shiftLeft =>
    obtain ⟨family, member, rfl⟩ := form
    simp [Instruction.decode?, Instruction.decodeArithmetic?, family, member]
  | skipIfDown | skipIfUp =>
    obtain ⟨family, member, rfl⟩ := form
    simp [Instruction.decode?, family, member]
  | readDelay | waitForKey | setDelay | setSound | addIndex | loadGlyph | storeDecimal
  | saveRegisters | restoreRegisters =>
    obtain ⟨family, member, rfl⟩ := form
    simp [Instruction.decode?, Instruction.decodeDevice?, family, member]

end Opcode

end Arcade
