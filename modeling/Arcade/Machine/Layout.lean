/-
**The machine's layout.**

The machine addresses 4096 bytes. A program starts at `programStart`; the bytes below it hold the
font, five bytes for each of the sixteen hexadecimal glyphs. The picture has 64 columns and 32
rows, and there are sixteen registers and sixteen keys. Addresses are taken modulo the size of
memory (`Address.wrap`), so there is no invalid address.
-/

namespace Arcade

/-- The number of bytes of memory. -/
abbrev memorySize : Nat := 4096

/-- A place in memory, twelve bits wide. -/
abbrev Address := Fin memorySize

/-- The name `x` of a general register `Vx`. -/
abbrev RegisterName := Fin 16

/-- The name of the first register. -/
def firstRegister : RegisterName := 0

/-- The register that instructions use for a carry, a borrow or a collision. -/
def flagRegister : RegisterName := 15

/-- The number below sixteen that the lowest four bits of a number are. -/
def lowNibble (number : Nat) : Fin 16 := ⟨number % 16, Nat.mod_lt number (by decide)⟩

@[simp]
theorem lowNibble_val (number : Nat) : (lowNibble number).val = number % 16 := rfl

/-- The number of columns of the picture. -/
abbrev displayWidth : Nat := 64

/-- The number of rows of the picture. -/
abbrev displayHeight : Nat := 32

/-- The number of pixels of the picture. -/
abbrev displaySize : Nat := displayWidth * displayHeight

/-- The number of calls that may be open at once. -/
abbrev stackLimit : Nat := 16

/-- The number of keys. -/
abbrev keyCount : Nat := 16

/-- The number of general registers. -/
abbrev registerCount : Nat := 16

/-- The address of a program's first byte. -/
def programStart : Address := 0x200

/-- The number of bytes that a program may have. -/
def programLimit : Nat := memorySize - programStart.val

/-- How many times a second the delay and sound timers count down in real time. -/
def timerFrequency : Nat := 60

/-- The address of the first glyph. -/
def fontStart : Address := 0x050

/-- The number of bytes, and rows, of a glyph. -/
def glyphHeight : Nat := 5

/-- The sixteen glyphs, from `0` to `F`. -/
def font : List UInt8 := [
  0xF0, 0x90, 0x90, 0x90, 0xF0,
  0x20, 0x60, 0x20, 0x20, 0x70,
  0xF0, 0x10, 0xF0, 0x80, 0xF0,
  0xF0, 0x10, 0xF0, 0x10, 0xF0,
  0x90, 0x90, 0xF0, 0x10, 0x10,
  0xF0, 0x80, 0xF0, 0x10, 0xF0,
  0xF0, 0x80, 0xF0, 0x90, 0xF0,
  0xF0, 0x10, 0x20, 0x40, 0x40,
  0xF0, 0x90, 0xF0, 0x90, 0xF0,
  0xF0, 0x90, 0xF0, 0x10, 0xF0,
  0xF0, 0x90, 0xF0, 0x90, 0x90,
  0xE0, 0x90, 0xE0, 0x90, 0xE0,
  0xF0, 0x80, 0x80, 0x80, 0xF0,
  0xE0, 0x90, 0x90, 0x90, 0xE0,
  0xF0, 0x80, 0xF0, 0x80, 0xF0,
  0xF0, 0x80, 0xF0, 0x80, 0x80]

theorem font_length : font.length = 16 * glyphHeight := by decide

/-- The version of the machine's behaviour. -/
def version : String := "0.4.0"

namespace Address

/-- The address that a number means, counting on from zero past the end of memory. -/
def wrap (number : Nat) : Address := Fin.ofNat memorySize number

@[simp]
theorem wrap_val (number : Nat) : (wrap number).val = number % memorySize := rfl

/-- The next instruction lies two bytes on. -/
def next (address : Address) : Address := wrap (address.val + 2)

/-- The previous instruction lies two bytes back. -/
def previous (address : Address) : Address := wrap (address.val + (memorySize - 2))

@[simp]
theorem previous_next (address : Address) : address.next.previous = address := by
  have bound := address.isLt
  apply Fin.ext
  simp only [next, previous, wrap_val, memorySize] at bound ⊢
  omega

end Address

end Arcade
