/-
**The instruction set.**

`Instruction` lists what the machine can do, and `Instruction.decode?` reads an instruction from an
opcode. An opcode that carries no instruction decodes to nothing. Reading ignores what an
instruction does not use: the last nibble of the two register comparisons, and the second register
of the shifts.

* `decode?_encode`: every instruction is read back from its canonical opcode.
-/

import Arcade.Machine.Opcode

namespace Arcade

/-- What the machine can be told to do. -/
inductive Instruction where
  /-- Darken the picture. -/
  | clearDisplay
  /-- Return from a subroutine. -/
  | returnFromCall
  /-- Jump to an address. -/
  | jump (target : Address)
  /-- Call the subroutine at an address. -/
  | call (target : Address)
  /-- Skip the next instruction if a register holds a byte. -/
  | skipIfByte (x : RegisterName) (byte : UInt8)
  /-- Skip the next instruction unless a register holds a byte. -/
  | skipUnlessByte (x : RegisterName) (byte : UInt8)
  /-- Skip the next instruction if two registers are equal. -/
  | skipIfEqual (x y : RegisterName)
  /-- Put a byte into a register. -/
  | loadByte (x : RegisterName) (byte : UInt8)
  /-- Add a byte to a register, without a carry. -/
  | addByte (x : RegisterName) (byte : UInt8)
  /-- Copy a register. -/
  | copy (x y : RegisterName)
  /-- Disjunction of two registers, bit by bit. -/
  | or (x y : RegisterName)
  /-- Conjunction of two registers, bit by bit. -/
  | and (x y : RegisterName)
  /-- Exclusive disjunction of two registers, bit by bit. -/
  | xor (x y : RegisterName)
  /-- Add a register, with the carry in the flag. -/
  | add (x y : RegisterName)
  /-- Subtract a register; the flag says whether the minuend was greater. -/
  | sub (x y : RegisterName)
  /-- Shift a register right, the lost bit going to the flag. -/
  | shiftRight (x : RegisterName)
  /-- Subtract the first register from the second; the flag says whether the minuend was greater. -/
  | subFrom (x y : RegisterName)
  /-- Shift a register left, the lost bit going to the flag. -/
  | shiftLeft (x : RegisterName)
  /-- Skip the next instruction unless two registers are equal. -/
  | skipUnlessEqual (x y : RegisterName)
  /-- Put an address into the index. -/
  | loadIndex (target : Address)
  /-- Jump to an address plus the first register. -/
  | jumpOffset (target : Address)
  /-- Put a random byte, masked, into a register. -/
  | random (x : RegisterName) (mask : UInt8)
  /-- Draw a sprite of some rows at the coordinates in two registers. -/
  | draw (x y : RegisterName) (height : Fin 16)
  /-- Skip the next instruction if the key in a register is down. -/
  | skipIfDown (x : RegisterName)
  /-- Skip the next instruction if the key in a register is up. -/
  | skipIfUp (x : RegisterName)
  /-- Put the delay timer into a register. -/
  | readDelay (x : RegisterName)
  /-- Wait for a key and put it into a register. -/
  | waitForKey (x : RegisterName)
  /-- Set the delay timer. -/
  | setDelay (x : RegisterName)
  /-- Set the sound timer. -/
  | setSound (x : RegisterName)
  /-- Add a register to the index. -/
  | addIndex (x : RegisterName)
  /-- Point the index at the glyph of a hexadecimal digit. -/
  | loadGlyph (x : RegisterName)
  /-- Store the three decimal digits of a register. -/
  | storeDecimal (x : RegisterName)
  /-- Store the registers from the first to the given one. -/
  | saveRegisters (x : RegisterName)
  /-- Read the registers from the first to the given one back. -/
  | restoreRegisters (x : RegisterName)
  deriving DecidableEq, Repr

namespace Instruction

/-- The arithmetic instruction that the last nibble of an opcode names. -/
def decodeArithmetic? (x y : RegisterName) : Nat → Option Instruction
  | 0x0 => some (.copy x y)
  | 0x1 => some (.or x y)
  | 0x2 => some (.and x y)
  | 0x3 => some (.xor x y)
  | 0x4 => some (.add x y)
  | 0x5 => some (.sub x y)
  | 0x6 => some (.shiftRight x)
  | 0x7 => some (.subFrom x y)
  | 0xE => some (.shiftLeft x)
  | _ => none

/-- The instruction on timers, keys and the index that the lower byte of an opcode names. -/
def decodeDevice? (x : RegisterName) : Nat → Option Instruction
  | 0x07 => some (.readDelay x)
  | 0x0A => some (.waitForKey x)
  | 0x15 => some (.setDelay x)
  | 0x18 => some (.setSound x)
  | 0x1E => some (.addIndex x)
  | 0x29 => some (.loadGlyph x)
  | 0x33 => some (.storeDecimal x)
  | 0x55 => some (.saveRegisters x)
  | 0x65 => some (.restoreRegisters x)
  | _ => none

/-- The instruction that an opcode carries. -/
def decode? (opcode : Opcode) : Option Instruction :=
  let x := opcode.x
  let y := opcode.y
  match opcode.op with
  | 0x0 =>
    if x = firstRegister then
      match opcode.nn.toNat with
      | 0xE0 => some .clearDisplay
      | 0xEE => some .returnFromCall
      | _ => none
    else none
  | 0x1 => some (.jump opcode.nnn)
  | 0x2 => some (.call opcode.nnn)
  | 0x3 => some (.skipIfByte x opcode.nn)
  | 0x4 => some (.skipUnlessByte x opcode.nn)
  | 0x5 => some (.skipIfEqual x y)
  | 0x6 => some (.loadByte x opcode.nn)
  | 0x7 => some (.addByte x opcode.nn)
  | 0x8 => decodeArithmetic? x y opcode.n.val
  | 0x9 => some (.skipUnlessEqual x y)
  | 0xA => some (.loadIndex opcode.nnn)
  | 0xB => some (.jumpOffset opcode.nnn)
  | 0xC => some (.random x opcode.nn)
  | 0xD => some (.draw x y opcode.n)
  | 0xE =>
    match opcode.nn.toNat with
    | 0x9E => some (.skipIfDown x)
    | 0xA1 => some (.skipIfUp x)
    | _ => none
  | 0xF => decodeDevice? x opcode.nn.toNat
  | _ => none

/-- The opcode word made of an upper nibble and twelve lower bits. -/
def wordOfAddress (op : Nat) (target : Address) : Nat := op * 4096 + target.val

/-- The opcode word made of an upper nibble, a register and a byte. -/
def wordOfByte (op : Nat) (x : RegisterName) (byte : Nat) : Nat := op * 4096 + x.val * 256 + byte

/-- The opcode word made of an upper nibble, two registers and a nibble. -/
def wordOfNibble (op : Nat) (x y : RegisterName) (nibble : Nat) : Nat :=
  op * 4096 + x.val * 256 + y.val * 16 + nibble

/-- The canonical opcode word of an instruction: what the instruction does not use is zero. -/
def word : Instruction → Nat
  | .clearDisplay => 0x00E0
  | .returnFromCall => 0x00EE
  | .jump target => wordOfAddress 0x1 target
  | .call target => wordOfAddress 0x2 target
  | .skipIfByte x byte => wordOfByte 0x3 x byte.toNat
  | .skipUnlessByte x byte => wordOfByte 0x4 x byte.toNat
  | .skipIfEqual x y => wordOfNibble 0x5 x y 0
  | .loadByte x byte => wordOfByte 0x6 x byte.toNat
  | .addByte x byte => wordOfByte 0x7 x byte.toNat
  | .copy x y => wordOfNibble 0x8 x y 0x0
  | .or x y => wordOfNibble 0x8 x y 0x1
  | .and x y => wordOfNibble 0x8 x y 0x2
  | .xor x y => wordOfNibble 0x8 x y 0x3
  | .add x y => wordOfNibble 0x8 x y 0x4
  | .sub x y => wordOfNibble 0x8 x y 0x5
  | .shiftRight x => wordOfNibble 0x8 x firstRegister 0x6
  | .subFrom x y => wordOfNibble 0x8 x y 0x7
  | .shiftLeft x => wordOfNibble 0x8 x firstRegister 0xE
  | .skipUnlessEqual x y => wordOfNibble 0x9 x y 0
  | .loadIndex target => wordOfAddress 0xA target
  | .jumpOffset target => wordOfAddress 0xB target
  | .random x mask => wordOfByte 0xC x mask.toNat
  | .draw x y height => wordOfNibble 0xD x y height.val
  | .skipIfDown x => wordOfByte 0xE x 0x9E
  | .skipIfUp x => wordOfByte 0xE x 0xA1
  | .readDelay x => wordOfByte 0xF x 0x07
  | .waitForKey x => wordOfByte 0xF x 0x0A
  | .setDelay x => wordOfByte 0xF x 0x15
  | .setSound x => wordOfByte 0xF x 0x18
  | .addIndex x => wordOfByte 0xF x 0x1E
  | .loadGlyph x => wordOfByte 0xF x 0x29
  | .storeDecimal x => wordOfByte 0xF x 0x33
  | .saveRegisters x => wordOfByte 0xF x 0x55
  | .restoreRegisters x => wordOfByte 0xF x 0x65

/-- The canonical opcode of an instruction. -/
def encode (instruction : Instruction) : Opcode := ⟨UInt16.ofNat instruction.word⟩

/-! ### Reading canonical opcodes -/

private theorem toNat_mk {number : Nat} (small : number < 65536) :
    (Opcode.mk (UInt16.ofNat number)).toNat = number := by
  simp only [Opcode.toNat, UInt16.toNat_ofNat']
  omega

private theorem fields_ofAddress {op : Nat} (small : op < 16) (target : Address) :
    (Opcode.mk (UInt16.ofNat (wordOfAddress op target))).op = op ∧
      (Opcode.mk (UInt16.ofNat (wordOfAddress op target))).nnn = target := by
  have bound := target.isLt
  simp only [memorySize] at bound
  have exact : (Opcode.mk (UInt16.ofNat (wordOfAddress op target))).toNat
      = wordOfAddress op target := toNat_mk (by unfold wordOfAddress; omega)
  simp only [Opcode.op, Opcode.nnn, exact, Fin.ext_iff, Address.wrap_val, memorySize]
  unfold wordOfAddress
  omega

private theorem fields_ofByte {op : Nat} (small : op < 16) (x : RegisterName) {byte : Nat}
    (narrow : byte < 256) :
    (Opcode.mk (UInt16.ofNat (wordOfByte op x byte))).op = op ∧
      (Opcode.mk (UInt16.ofNat (wordOfByte op x byte))).x = x ∧
      (Opcode.mk (UInt16.ofNat (wordOfByte op x byte))).nn = UInt8.ofNat byte := by
  have bound := x.isLt
  have exact : (Opcode.mk (UInt16.ofNat (wordOfByte op x byte))).toNat
      = wordOfByte op x byte := toNat_mk (by unfold wordOfByte; omega)
  simp only [Opcode.op, Opcode.x, Opcode.nn, exact, Fin.ext_iff, lowNibble_val,
    ← UInt8.toNat_inj, UInt8.toNat_ofNat']
  unfold wordOfByte
  omega

private theorem fields_ofNibble {op : Nat} (small : op < 16) (x y : RegisterName) {nibble : Nat}
    (narrow : nibble < 16) :
    (Opcode.mk (UInt16.ofNat (wordOfNibble op x y nibble))).op = op ∧
      (Opcode.mk (UInt16.ofNat (wordOfNibble op x y nibble))).x = x ∧
      (Opcode.mk (UInt16.ofNat (wordOfNibble op x y nibble))).y = y ∧
      (Opcode.mk (UInt16.ofNat (wordOfNibble op x y nibble))).n.val = nibble := by
  have boundX := x.isLt
  have boundY := y.isLt
  have exact : (Opcode.mk (UInt16.ofNat (wordOfNibble op x y nibble))).toNat
      = wordOfNibble op x y nibble := toNat_mk (by unfold wordOfNibble; omega)
  simp only [Opcode.op, Opcode.x, Opcode.y, Opcode.n, exact, Fin.ext_iff, lowNibble_val]
  unfold wordOfNibble
  omega

/-- Every instruction is read back from its canonical opcode. -/
theorem decode?_encode (instruction : Instruction) :
    decode? instruction.encode = some instruction := by
  cases instruction with
  | clearDisplay => rfl
  | returnFromCall => rfl
  | jump target =>
    simp [decode?, encode, word, fields_ofAddress (show 0x1 < 16 by decide) target]
  | call target =>
    simp [decode?, encode, word, fields_ofAddress (show 0x2 < 16 by decide) target]
  | loadIndex target =>
    simp [decode?, encode, word, fields_ofAddress (show 0xA < 16 by decide) target]
  | jumpOffset target =>
    simp [decode?, encode, word, fields_ofAddress (show 0xB < 16 by decide) target]
  | skipIfByte x byte =>
    simp [decode?, encode, word, fields_ofByte (show 0x3 < 16 by decide) x byte.toNat_lt]
  | skipUnlessByte x byte =>
    simp [decode?, encode, word, fields_ofByte (show 0x4 < 16 by decide) x byte.toNat_lt]
  | loadByte x byte =>
    simp [decode?, encode, word, fields_ofByte (show 0x6 < 16 by decide) x byte.toNat_lt]
  | addByte x byte =>
    simp [decode?, encode, word, fields_ofByte (show 0x7 < 16 by decide) x byte.toNat_lt]
  | random x byte =>
    simp [decode?, encode, word, fields_ofByte (show 0xC < 16 by decide) x byte.toNat_lt]
  | skipIfDown x =>
    simp [decode?, encode, word,
      fields_ofByte (show 0xE < 16 by decide) x (show 0x9E < 256 by decide)]
  | skipIfUp x =>
    simp [decode?, encode, word,
      fields_ofByte (show 0xE < 16 by decide) x (show 0xA1 < 256 by decide)]
  | readDelay x =>
    simp [decode?, decodeDevice?, encode, word,
      fields_ofByte (show 0xF < 16 by decide) x (show 0x07 < 256 by decide)]
  | waitForKey x =>
    simp [decode?, decodeDevice?, encode, word,
      fields_ofByte (show 0xF < 16 by decide) x (show 0x0A < 256 by decide)]
  | setDelay x =>
    simp [decode?, decodeDevice?, encode, word,
      fields_ofByte (show 0xF < 16 by decide) x (show 0x15 < 256 by decide)]
  | setSound x =>
    simp [decode?, decodeDevice?, encode, word,
      fields_ofByte (show 0xF < 16 by decide) x (show 0x18 < 256 by decide)]
  | addIndex x =>
    simp [decode?, decodeDevice?, encode, word,
      fields_ofByte (show 0xF < 16 by decide) x (show 0x1E < 256 by decide)]
  | loadGlyph x =>
    simp [decode?, decodeDevice?, encode, word,
      fields_ofByte (show 0xF < 16 by decide) x (show 0x29 < 256 by decide)]
  | storeDecimal x =>
    simp [decode?, decodeDevice?, encode, word,
      fields_ofByte (show 0xF < 16 by decide) x (show 0x33 < 256 by decide)]
  | saveRegisters x =>
    simp [decode?, decodeDevice?, encode, word,
      fields_ofByte (show 0xF < 16 by decide) x (show 0x55 < 256 by decide)]
  | restoreRegisters x =>
    simp [decode?, decodeDevice?, encode, word,
      fields_ofByte (show 0xF < 16 by decide) x (show 0x65 < 256 by decide)]
  | skipIfEqual x y =>
    simp [decode?, encode, word,
      fields_ofNibble (show 0x5 < 16 by decide) x y (show 0x0 < 16 by decide)]
  | copy x y =>
    simp [decode?, decodeArithmetic?, encode, word,
      fields_ofNibble (show 0x8 < 16 by decide) x y (show 0x0 < 16 by decide)]
  | or x y =>
    simp [decode?, decodeArithmetic?, encode, word,
      fields_ofNibble (show 0x8 < 16 by decide) x y (show 0x1 < 16 by decide)]
  | and x y =>
    simp [decode?, decodeArithmetic?, encode, word,
      fields_ofNibble (show 0x8 < 16 by decide) x y (show 0x2 < 16 by decide)]
  | xor x y =>
    simp [decode?, decodeArithmetic?, encode, word,
      fields_ofNibble (show 0x8 < 16 by decide) x y (show 0x3 < 16 by decide)]
  | add x y =>
    simp [decode?, decodeArithmetic?, encode, word,
      fields_ofNibble (show 0x8 < 16 by decide) x y (show 0x4 < 16 by decide)]
  | sub x y =>
    simp [decode?, decodeArithmetic?, encode, word,
      fields_ofNibble (show 0x8 < 16 by decide) x y (show 0x5 < 16 by decide)]
  | subFrom x y =>
    simp [decode?, decodeArithmetic?, encode, word,
      fields_ofNibble (show 0x8 < 16 by decide) x y (show 0x7 < 16 by decide)]
  | skipUnlessEqual x y =>
    simp [decode?, encode, word,
      fields_ofNibble (show 0x9 < 16 by decide) x y (show 0x0 < 16 by decide)]
  | shiftRight x =>
    simp [decode?, decodeArithmetic?, encode, word,
      fields_ofNibble (show 0x8 < 16 by decide) x firstRegister (show 0x6 < 16 by decide)]
  | shiftLeft x =>
    simp [decode?, decodeArithmetic?, encode, word,
      fields_ofNibble (show 0x8 < 16 by decide) x firstRegister (show 0xE < 16 by decide)]
  | draw x y height =>
    simp [decode?, encode, word, Fin.ext_iff,
      fields_ofNibble (show 0xD < 16 by decide) x y height.isLt]

/-- The name of an instruction in a trace. -/
def mnemonic : Instruction → String
  | .clearDisplay => "CLS"
  | .returnFromCall => "RET"
  | .jump _ => "JP"
  | .call _ => "CALL"
  | .skipIfByte _ _ | .skipIfEqual _ _ => "SE"
  | .skipUnlessByte _ _ | .skipUnlessEqual _ _ => "SNE"
  | .loadByte _ _ | .copy _ _ => "LD"
  | .addByte _ _ | .add _ _ => "ADD"
  | .or _ _ => "OR"
  | .and _ _ => "AND"
  | .xor _ _ => "XOR"
  | .sub _ _ => "SUB"
  | .shiftRight _ => "SHR"
  | .subFrom _ _ => "SUBN"
  | .shiftLeft _ => "SHL"
  | .loadIndex _ => "LD I"
  | .jumpOffset _ => "JP V0"
  | .random _ _ => "RND"
  | .draw _ _ _ => "DRW"
  | .skipIfDown _ => "SKP"
  | .skipIfUp _ => "SKNP"
  | .readDelay _ | .setDelay _ => "LD DT"
  | .waitForKey _ => "LD K"
  | .setSound _ => "LD ST"
  | .addIndex _ => "ADD I"
  | .loadGlyph _ => "LD F"
  | .storeDecimal _ => "LD B"
  | .saveRegisters _ => "LD [I]"
  | .restoreRegisters _ => "LD Vx"

end Instruction

end Arcade
