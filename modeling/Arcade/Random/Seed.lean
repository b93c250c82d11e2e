/-
**Keys from seeds.**

A seed of sixty-four bits is stretched to a key of eight words. A linear congruential generator
runs through eight states from the seed on, and each state is mixed down to one word by a rotation
that its own highest bits choose.

* `expand_length`: as many words come out as are asked for.
-/

namespace Arcade.Random

/-- A word turned to the right by a number of bits. -/
def rotateRight (word amount : UInt32) : UInt32 :=
  (word >>> (amount % 32)) ||| (word <<< ((32 - amount % 32) % 32))

/-- A word turned to the left by a number of bits. -/
def rotateLeft (word amount : UInt32) : UInt32 :=
  (word <<< (amount % 32)) ||| (word >>> ((32 - amount % 32) % 32))

/-- The generator's next state. -/
def advance (state : UInt64) : UInt64 := state * 6364136223846793005 + 11634580027462260723

/-- The word that a state of the generator stands for. -/
def mix (state : UInt64) : UInt32 :=
  rotateRight ((((state >>> 18) ^^^ state) >>> 27).toUInt32) ((state >>> 59).toUInt32)

/-- The words of the given number of states after a seed. -/
def expand : (count : Nat) → (seed : UInt64) → List UInt32
  | 0, _ => []
  | count + 1, seed => mix (advance seed) :: expand count (advance seed)

theorem expand_length (count : Nat) (seed : UInt64) : (expand count seed).length = count := by
  induction count generalizing seed with
  | zero => rfl
  | succ count ih => simp [expand, ih]

/-- The key of a seed. -/
def keyOfSeed (seed : UInt64) : Vector UInt32 8 :=
  ⟨(expand 8 seed).toArray, by simp [expand_length]⟩

end Arcade.Random
