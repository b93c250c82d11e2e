/-
**Opcodes.**

An opcode is a sixteen-bit word. Its four nibbles are called `op`, `x`, `y` and `n`; the lower byte
is `nn` and the lower twelve bits are the address `nnn`.

* `ofBytes_toNat`: the first of the two bytes in memory is the more significant one;
* `toNat_eq_nibbles`: the four nibbles determine the word.
-/

import Arcade.Machine.Layout
import Arcade.Text.Hex

namespace Arcade

/-- A sixteen-bit instruction word. -/
structure Opcode where
  word : UInt16
  deriving DecidableEq, Repr

namespace Opcode

/-- The word with the given upper and lower byte. -/
def ofBytes (upper lower : UInt8) : Opcode := ⟨UInt16.ofNat (upper.toNat * 256 + lower.toNat)⟩

/-- The word as a number. -/
def toNat (opcode : Opcode) : Nat := opcode.word.toNat

/-- The upper nibble, which names the kind of instruction. -/
def op (opcode : Opcode) : Nat := opcode.toNat / 4096

/-- The second nibble, which names a register. -/
def x (opcode : Opcode) : RegisterName := lowNibble (opcode.toNat / 256)

/-- The third nibble, which names a register. -/
def y (opcode : Opcode) : RegisterName := lowNibble (opcode.toNat / 16)

/-- The lowest nibble. -/
def n (opcode : Opcode) : Fin 16 := lowNibble opcode.toNat

/-- The lower byte. -/
def nn (opcode : Opcode) : UInt8 := UInt8.ofNat opcode.toNat

/-- The lower twelve bits. -/
def nnn (opcode : Opcode) : Address := Address.wrap opcode.toNat

/-- The word as four capital hexadecimal digits. -/
def text (opcode : Opcode) : String := Text.hexUpper 4 opcode.toNat

theorem toNat_lt (opcode : Opcode) : opcode.toNat < 65536 := opcode.word.toNat_lt

theorem ofBytes_toNat (upper lower : UInt8) :
    (ofBytes upper lower).toNat = upper.toNat * 256 + lower.toNat := by
  have := upper.toNat_lt
  have := lower.toNat_lt
  simp only [ofBytes, toNat, UInt16.toNat_ofNat']
  omega

theorem toNat_eq_nibbles (opcode : Opcode) :
    opcode.toNat =
      opcode.op * 4096 + opcode.x.val * 256 + opcode.y.val * 16 + opcode.n.val := by
  have := opcode.toNat_lt
  simp only [op, x, y, n, lowNibble_val]
  omega

end Opcode

end Arcade
