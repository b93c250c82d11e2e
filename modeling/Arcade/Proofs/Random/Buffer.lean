/-
**A generator with a buffer.**

The stream of a key comes in blocks of sixteen words. A generator makes one or more blocks at once,
hands their words out one after another, and makes the next ones when none is left. Nobody who draws
from it can tell how many blocks it makes at a time: it hands out the words of the stream in order.

* `toList_streamBlock`: a block is the sixteen words of the stream from its first on;
* `Generator.draw_of_stands`: a generator that stands at a position of the stream hands out the word
  there, and stands at the next one.
-/

import Arcade.Random.Source
import Mathlib.Data.List.Range

namespace Arcade

namespace Random

/-- **A block is the words of the stream from its first on.** -/
theorem toList_streamBlock (key : Vector UInt32 8) (block : Nat) :
    (streamBlock key (UInt64.ofNat block)).toList =
      (List.range' (16 * block) 16).map (streamWord key) := by
  refine List.ext_getElem (by simp) fun offset inside _ => ?_
  have small : offset < 16 := by simpa using inside
  have position : (16 * block + offset) / 16 = block := by omega
  have slot : place ((16 * block + offset) / 4) (16 * block + offset) = ⟨offset, small⟩ := by
    apply Fin.ext
    simp only [place]
    omega
  rw [List.getElem_map, List.getElem_range', Nat.one_mul, streamWord, position]
  simp only [slot, Fin.getElem_fin, Vector.getElem_toList]

/-- Some blocks, one after another, are the words of the stream from the first of them on. -/
theorem flatMap_streamBlock (key : Vector UInt32 8) (first count : Nat) :
    ((List.range' first count).flatMap fun block =>
        (streamBlock key (UInt64.ofNat block)).toList) =
      (List.range' (16 * first) (16 * count)).map (streamWord key) := by
  induction count generalizing first with
  | zero => rfl
  | succ count ih =>
    rw [List.range'_succ, List.flatMap_cons, ih, toList_streamBlock, ← List.map_append,
      Nat.mul_succ, Nat.mul_succ, List.range'_append_1, Nat.add_comm 16]

end Random

/-- A generator of random words that makes whole blocks. -/
structure Generator where
  key : Vector UInt32 8
  /-- The counter of the next block. -/
  counter : UInt64
  /-- The words that were made and not handed out. -/
  words : List UInt32

namespace Generator

/-- The generator of a seed, which has made nothing. -/
def ofSeed (seed : UInt64) : Generator := ⟨Random.keyOfSeed seed, 0, []⟩

/-- The generator after it made some blocks. -/
def refill (generator : Generator) : (blocks : Nat) → Generator
  | 0 => generator
  | blocks + 1 =>
    let block := Random.streamBlock generator.key generator.counter
    { generator with
      counter := generator.counter + 1
      words := generator.words ++ block.toList }.refill blocks

/-- Hands out a word. If none is left, blocks are made first: one, and as many more as is said. -/
def draw (generator : Generator) (ahead : Nat) : UInt32 × Generator :=
  let filled := if generator.words.isEmpty then generator.refill (ahead + 1) else generator
  (filled.words.headD 0, { filled with words := filled.words.tail })

/-- Whether a generator has handed out as many words of a seed's stream as is said, and no others:
what it has left are the words from there to the end of a block. -/
structure Stands (generator : Generator) (seed : UInt64) (position : Nat) : Prop where
  key : generator.key = Random.keyOfSeed seed
  words : ∃ blocks, generator.counter = UInt64.ofNat blocks ∧ position ≤ 16 * blocks ∧
    generator.words =
      (List.range' position (16 * blocks - position)).map (Random.streamWord generator.key)

variable {generator : Generator} {seed : UInt64} {position : Nat}

theorem stands_ofSeed (seed : UInt64) : (ofSeed seed).Stands seed 0 :=
  ⟨rfl, 0, rfl, Nat.le_refl 0, rfl⟩

/-- Blocks continue what is left. -/
theorem words_refill (generator : Generator) {first : Nat}
    (next : generator.counter = UInt64.ofNat first) (blocks : Nat) :
    (generator.refill blocks).key = generator.key ∧
      (generator.refill blocks).counter = UInt64.ofNat (first + blocks) ∧
      (generator.refill blocks).words = generator.words ++
        (List.range' (16 * first) (16 * blocks)).map (Random.streamWord generator.key) := by
  induction blocks generalizing generator first with
  | zero => exact ⟨rfl, next, (List.append_nil _).symm⟩
  | succ blocks ih =>
    have counts : generator.counter + 1 = UInt64.ofNat (first + 1) := by
      rw [next, UInt64.ofNat_add]
      rfl
    obtain ⟨key, counter, words⟩ := ih { generator with
      counter := generator.counter + 1
      words := generator.words ++
        (Random.streamBlock generator.key generator.counter).toList } counts
    refine ⟨key, counter.trans (by rw [Nat.add_right_comm, Nat.add_assoc]), ?_⟩
    refine Eq.trans words ?_
    simp only [next]
    rw [List.append_assoc, ← Random.flatMap_streamBlock, ← Random.flatMap_streamBlock,
      List.range'_succ, List.flatMap_cons]

/-- A generator that has nothing left makes what comes next. -/
theorem stands_refill (stands : generator.Stands seed position) (blocks : Nat) :
    (generator.refill blocks).Stands seed position := by
  obtain ⟨known, first, next, behind, left⟩ := stands
  obtain ⟨key, counter, words⟩ := generator.words_refill next blocks
  refine ⟨key.trans known, first + blocks, counter, by omega, ?_⟩
  have joined : List.range' position (16 * first - position) ++
        List.range' (16 * first) (16 * blocks) =
      List.range' position (16 * (first + blocks) - position) := by
    have size : 16 * (first + blocks) - position = 16 * first - position + 16 * blocks := by omega
    rw [size, ← List.range'_append_1, Nat.add_sub_cancel' behind]
  rw [words, key, left, ← List.map_append, joined]

/-- **A generator hands out the word of the stream where it stands**, however many blocks it makes
at a time. -/
theorem draw_of_stands (stands : generator.Stands seed position) (ahead : Nat) :
    (generator.draw ahead).1 = Random.streamWord (Random.keyOfSeed seed) position ∧
      (generator.draw ahead).2.Stands seed (position + 1) := by
  have ready : ∀ {filled : Generator}, filled.Stands seed position → filled.words ≠ [] →
      filled.words.headD 0 = Random.streamWord (Random.keyOfSeed seed) position ∧
        { filled with words := filled.words.tail }.Stands seed (position + 1) := by
    intro filled ⟨known, blocks, next, behind, left⟩ some
    have more : position < 16 * blocks := by
      refine Nat.lt_of_le_of_ne behind fun ends => some ?_
      rw [left, ends, Nat.sub_self]
      rfl
    obtain ⟨count, size⟩ : ∃ count, 16 * blocks - position = count + 1 :=
      ⟨16 * blocks - position - 1, by omega⟩
    rw [size, List.range'_succ, List.map_cons] at left
    refine ⟨by rw [left, List.headD_cons, known], known, blocks, next, more, ?_⟩
    rw [show 16 * blocks - (position + 1) = count by omega]
    exact congrArg List.tail left
  unfold draw
  by_cases empty : generator.words = []
  · rw [if_pos (List.isEmpty_iff.mpr empty)]
    refine ready (stands_refill stands _) ?_
    obtain ⟨first, next, -, -⟩ := stands.words
    rw [(generator.words_refill next _).2.2, empty]
    simp
  · rw [if_neg (mt List.isEmpty_iff.mp empty)]
    exact ready stands empty

end Generator

end Arcade
