/-
**A source of random bytes.**

A source is a place in the stream of its seed. Drawing a byte takes the lowest byte of the word at
that place and moves on by one word.

* `draw_ofSeed`: the draw after `count` draws gives the byte of the word at position `count`.
-/

import Arcade.Random.ChaCha

namespace Arcade

/-- A place in the stream of random words of a seed. -/
structure RandomSource where
  seed : UInt64
  /-- How many words were drawn. -/
  position : Nat
  deriving DecidableEq, Repr

namespace RandomSource

/-- The source of a seed, from which nothing was drawn. -/
def ofSeed (seed : UInt64) : RandomSource := ⟨seed, 0⟩

/-- The byte that is drawn next. -/
def byte (source : RandomSource) : UInt8 :=
  (Random.streamWord (Random.keyOfSeed source.seed) source.position).toUInt8

/-- The source after one more draw. -/
def next (source : RandomSource) : RandomSource := ⟨source.seed, source.position + 1⟩

/-- The source after a number of draws. -/
def skip : (count : Nat) → RandomSource → RandomSource
  | 0, source => source
  | count + 1, source => skip count source.next

theorem skip_eq (count : Nat) (source : RandomSource) :
    skip count source = ⟨source.seed, source.position + count⟩ := by
  induction count generalizing source with
  | zero => rfl
  | succ count ih => simp [skip, ih, next]; omega

theorem draw_ofSeed (count : Nat) (seed : UInt64) :
    (skip count (ofSeed seed)).byte =
      (Random.streamWord (Random.keyOfSeed seed) count).toUInt8 := by
  simp [skip_eq, byte, ofSeed]

end RandomSource

end Arcade
