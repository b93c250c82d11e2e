/-
**The ChaCha stream of words.**

A block of sixteen words is scrambled by six double rounds, each of four rounds down the columns
and four along the diagonals, and added to what it was. The stream of a key is the blocks with
counters zero, one, two and so on, one after another (`streamWord`).
-/

import Arcade.Random.Seed

namespace Arcade.Random

/-- Sixteen words, read as four rows of four. -/
abbrev Block := Vector UInt32 16

/-- Adds one word to a second and turns the exclusive or with a third. -/
def addAndTurn (block : Block) (target source turned : Fin 16) (amount : UInt32) : Block :=
  let summed := block.set target (block[target] + block[source])
  summed.set turned (rotateLeft (summed[turned] ^^^ summed[target]) amount)

/-- Scrambles four words of a block. -/
def quarterRound (block : Block) (a b c d : Fin 16) : Block :=
  let first := addAndTurn block a b d 16
  let second := addAndTurn first c d b 12
  let third := addAndTurn second a b d 8
  addAndTurn third c d b 7

/-- The place in a block of a row and a column, both counted modulo four. -/
def place (row column : Nat) : Fin 16 := ⟨4 * (row % 4) + column % 4, by omega⟩

/-- Scrambles the four words of a block that begin in a column of the first row and go as many
columns to the right from row to row as is said. -/
def scrambleLine (slant : Nat) (block : Block) (column : Nat) : Block :=
  quarterRound block (place 0 column) (place 1 (column + slant)) (place 2 (column + 2 * slant))
    (place 3 (column + 3 * slant))

/-- Scrambles the four columns of a block and then its four diagonals. -/
def doubleRound (block : Block) : Block :=
  let columns := (List.range 4).foldl (scrambleLine 0) block
  (List.range 4).foldl (scrambleLine 1) columns

/-- Scrambles a block by the given number of double rounds. -/
def doubleRounds : (count : Nat) → Block → Block
  | 0, block => block
  | count + 1, block => doubleRounds count (doubleRound block)

/-- The block to be scrambled for a key and a counter: four fixed words, the key, the counter's two
halves and two zeros. -/
def initialBlock (key : Vector UInt32 8) (counter : UInt64) : Block :=
  ⟨#[0x61707865, 0x3320646e, 0x79622d32, 0x6b206574,
    key[0], key[1], key[2], key[3], key[4], key[5], key[6], key[7],
    counter.toUInt32, (counter >>> 32).toUInt32, 0, 0], rfl⟩

/-- The number of double rounds. -/
def strength : Nat := 6

/-- The block of the stream with the given counter. -/
def streamBlock (key : Vector UInt32 8) (counter : UInt64) : Block :=
  let initial := initialBlock key counter
  let scrambled := doubleRounds strength initial
  Vector.zipWith (· + ·) scrambled initial

/-- The word at a position of the stream. -/
def streamWord (key : Vector UInt32 8) (position : Nat) : UInt32 :=
  (streamBlock key (UInt64.ofNat (position / 16)))[place (position / 4) position]

end Arcade.Random
