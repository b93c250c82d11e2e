/-
**Of the bytes that fall on one address the last stays.**

A block may start anywhere and be longer than memory. Its places wrap around, so it is written over
itself as often as it comes around, byte by byte and in order. What an address holds in the end is
the last byte of the block that falls there (`Memory.Falls`), and what it held before if none does.

* `Memory.load_concat`: the last byte of a block is written last;
* `Memory.get_load_last`: what an address holds after a block was loaded;
* `Memory.keeps_last`: this for every block whose places can be counted, which is loaded without an
  overrun.
-/

import Mathlib.Order.Bounds.Defs
import Arcade.Proofs.Machine.Embedding

namespace Arcade

namespace Memory

/-- Whether the byte with a number in a block falls on an address, when the block starts at another
and both are taken modulo the size of memory. -/
def Falls (start number address : Nat) : Prop :=
  (start + number) % memorySize = address % memorySize

instance (start number address : Nat) : Decidable (Falls start number address) :=
  inferInstanceAs (Decidable (_ = _))

theorem wrap_eq_iff_falls {start number address : Nat} :
    Address.wrap (start + number) = Address.wrap address ↔ Falls start number address :=
  Fin.ext_iff

/-- The last byte of a block is written last. -/
theorem load_concat (memory : Memory) (start : Nat) (block : List UInt8) (byte : UInt8) :
    memory.load start (block ++ [byte]) =
      (memory.load start block).set (Address.wrap (start + block.length)) byte := by
  induction block generalizing memory start with
  | nil => rfl
  | cons first rest ih =>
    have place : start + (first :: rest).length = start + 1 + rest.length := by
      rw [List.length_cons, Nat.add_right_comm, Nat.add_assoc]
    rw [List.cons_append, load, ih, place]
    rfl

/-- **The last byte of a block that falls on an address stays there**, and where none falls the byte
from before does. -/
theorem get_load_last (memory : Memory) (start : Nat) (block : List UInt8) (address : Nat) :
    (∃ last, IsGreatest {number | number < block.length ∧ Falls start number address} last ∧
        block[last]? = some ((memory.load start block).get (Address.wrap address))) ∨
      (∀ number < block.length, ¬ Falls start number address) ∧
        (memory.load start block).get (Address.wrap address) =
          memory.get (Address.wrap address) := by
  -- From the end of the block: the byte that is written last is the last that may fall there.
  induction block using List.reverseRecOn with
  | nil => exact .inr ⟨fun number inside => absurd inside (Nat.not_lt_zero number), rfl⟩
  | append_singleton front byte ih =>
    rw [load_concat, get_set, List.length_append, List.length_singleton]
    by_cases falls : Falls start front.length address
    · rw [if_pos (wrap_eq_iff_falls.mpr falls)]
      refine .inl ⟨front.length, ⟨⟨Nat.lt_succ_self _, falls⟩, ?_⟩, List.getElem?_concat_length⟩
      exact fun number inside => Nat.le_of_lt_succ inside.1
    · rw [if_neg (mt wrap_eq_iff_falls.mp falls)]
      have earlier {number : Nat} (inside : number < front.length + 1)
          (there : Falls start number address) : number < front.length :=
        Nat.lt_of_le_of_ne (Nat.le_of_lt_succ inside) fun same => falls (same ▸ there)
      rcases ih with ⟨last, ⟨⟨inside, there⟩, greatest⟩, byte⟩ | ⟨nowhere, kept⟩
      · refine .inl ⟨last, ⟨⟨Nat.lt_succ_of_lt inside, there⟩, ?_⟩, ?_⟩
        · exact fun number later => greatest ⟨earlier later.1 later.2, later.2⟩
        · rwa [List.getElem?_append_left inside]
      · exact .inr ⟨fun number inside there => nowhere number (earlier inside there) there, kept⟩

/-- **A block is laid around memory, and of the bytes that fall on one address the last stays.** If
the places of a block can be counted, however long it is and wherever it starts, it is written
without an overrun, whatever machine the memory belongs to. An address, which may be any number,
holds the last byte of the block that falls on it, or what it held before if none does. -/
theorem keeps_last (memory : Memory) {start : Nat} {block : List UInt8}
    (counted : start + block.length < 2 ^ 64) (machine : Machine) (timer : Clock) :
    let loaded := memory.load start block
    (({ machine with memory } : Machine).cells timer).loadBlock start 0 block =
        .ok (({ machine with memory := loaded } : Machine).cells timer) ∧
      ∀ address : Nat,
        (({ machine with memory := loaded } : Machine).cells timer).byteAt address =
            .ok (loaded.get (Address.wrap address)).toNat ∧
          ((∃ last,
              IsGreatest {number | number < block.length ∧ Falls start number address} last ∧
                block[last]? = some (loaded.get (Address.wrap address))) ∨
            (∀ number < block.length, ¬ Falls start number address) ∧
              loaded.get (Address.wrap address) = memory.get (Address.wrap address)) :=
  ⟨Machine.cells_loadBlock counted, fun address =>
    ⟨Machine.cells_byteAt address, get_load_last memory start block address⟩⟩

/-- A block that is two bytes longer than memory. -/
def overlong : List UInt8 := List.replicate memorySize 1 ++ [2, 3]

/-- From the last address on, its last two bytes are written over its first two. -/
theorem keeps_last_overlong :
    (blank.load 4095 overlong).get (Address.wrap 4095) = 2 ∧
      (blank.load 4095 overlong).get (Address.wrap 0) = 3 ∧
      (blank.load 4095 overlong).get (Address.wrap 1) = 1 := by
  have long : overlong.length = 4098 := by
    rw [overlong, List.length_append, List.length_replicate]
    rfl
  have counted : 4095 + overlong.length < 2 ^ 64 := by rw [long]; decide
  have holds := (keeps_last blank counted (Machine.new .perInstruction 0) ⟨0, Span.ofHertz 60⟩).2
  -- A byte with less than a round behind it is the last that falls where it does.
  have stays (number address : Nat) (byte : UInt8) (falls : Falls 4095 number address)
      (late : 2 ≤ number) (there : overlong[number]? = some byte) :
      (blank.load 4095 overlong).get (Address.wrap address) = byte := by
    have inside : number < overlong.length := (List.getElem?_eq_some_iff.mp there).1
    rcases (holds address).2 with ⟨last, ⟨⟨below, hit⟩, greatest⟩, found⟩ | ⟨nowhere, -⟩
    · have least : number ≤ last := greatest ⟨inside, falls⟩
      obtain rfl : last = number := by
        simp only [Falls, memorySize] at falls hit
        omega
      exact Option.some.inj (found.symm.trans there)
    · exact absurd falls (nowhere number inside)
  have first : overlong[2]? = some 1 := by
    rw [overlong, List.getElem?_append_left (by rw [List.length_replicate]; decide),
      List.getElem?_replicate, if_pos (by decide)]
  have behind (offset : Nat) : overlong[memorySize + offset]? = [2, 3][offset]? := by
    rw [overlong, List.getElem?_append_right (by rw [List.length_replicate]; omega),
      List.length_replicate, Nat.add_sub_cancel_left]
  exact ⟨stays 4096 4095 2 rfl (by decide) (behind 0), stays 4097 0 3 rfl (by decide) (behind 1),
    stays 2 1 1 rfl (by decide) first⟩

end Memory

end Arcade
