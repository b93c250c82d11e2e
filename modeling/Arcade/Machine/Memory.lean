/-
**Main memory.**

Memory is a row of 4096 bytes. Loading a block writes its bytes one after another and goes on at
address zero past the end, so of two bytes that fall on one address the later one stays.

* `get_set`: reading after a write gives the written byte at that address and the old one elsewhere;
* `get_blank`: blank memory is zero everywhere.
-/

import Arcade.Machine.Layout

namespace Arcade

/-- The bytes of the machine. -/
structure Memory where
  bytes : Vector UInt8 memorySize

namespace Memory

/-- Memory full of zeros. -/
def blank : Memory := ⟨Vector.replicate memorySize 0⟩

/-- The byte at an address. -/
def get (memory : Memory) (address : Address) : UInt8 := memory.bytes[address]

/-- Memory after a byte is written. -/
def set (memory : Memory) (address : Address) (byte : UInt8) : Memory :=
  ⟨memory.bytes.set address byte⟩

/-- Memory after a block is written from an address on. -/
def load (memory : Memory) : (start : Nat) → (block : List UInt8) → Memory
  | _, [] => memory
  | start, byte :: rest => load (memory.set (Address.wrap start) byte) (start + 1) rest

/-- The block of the given length that is read from an address on. -/
def read (memory : Memory) (start length : Nat) : List UInt8 :=
  (List.range length).map fun offset => memory.get (Address.wrap (start + offset))

/-- All bytes in order. -/
def toList (memory : Memory) : List UInt8 := memory.bytes.toList

@[simp]
theorem get_blank (address : Address) : blank.get address = 0 := by
  simp [get, blank]

theorem get_set (memory : Memory) (address other : Address) (byte : UInt8) :
    (memory.set address byte).get other = if address = other then byte else memory.get other := by
  simp only [get, set, Fin.getElem_fin, Vector.getElem_set, Fin.ext_iff]

end Memory

end Arcade
