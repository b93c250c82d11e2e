/-
**The call stack.**

Sixteen slots hold the return addresses of the calls that are open; `depth` of them are in use.
Popping leaves the slot's contents behind, and only `toList` says what the stack holds.

* `toList_push`: a push that succeeds appends to the list;
* `toList_pop`: a pop that succeeds removes the last element of the list and returns it;
* `push_eq_error` and `pop_eq_error`: a push fails exactly on a full stack, a pop on an empty one.
-/

import Arcade.Machine.Fault

namespace Arcade

/-- The return addresses of the calls that are open. -/
structure CallStack where
  slots : Vector UInt16 stackLimit
  /-- How many slots are in use. -/
  depth : Nat
  depth_le : depth ≤ stackLimit

namespace CallStack

/-- No call is open. -/
def empty : CallStack := ⟨Vector.replicate stackLimit 0, 0, by decide⟩

/-- The addresses in use, the oldest first. -/
def toList (stack : CallStack) : List UInt16 := stack.slots.toList.take stack.depth

/-- Opens a call, unless every slot is in use. -/
def push (stack : CallStack) (address : UInt16) : Except Fault CallStack :=
  if room : stack.depth < stackLimit then
    .ok ⟨stack.slots.set stack.depth address, stack.depth + 1, room⟩
  else
    .error .stackOverflow

/-- Closes the youngest call and returns its address, unless none is open. -/
def pop (stack : CallStack) : Except Fault (UInt16 × CallStack) :=
  if used : 0 < stack.depth then
    have inside : stack.depth - 1 < stackLimit := by have := stack.depth_le; omega
    .ok (stack.slots[stack.depth - 1], ⟨stack.slots, stack.depth - 1, by omega⟩)
  else
    .error .stackUnderflow

theorem toList_empty : empty.toList = [] := by simp [toList, empty]

theorem length_toList (stack : CallStack) : stack.toList.length = stack.depth := by
  simp [toList, stack.depth_le]

theorem toList_push {stack pushed : CallStack} {address : UInt16}
    (success : stack.push address = .ok pushed) : pushed.toList = stack.toList ++ [address] := by
  unfold push at success
  split at success
  · rename_i room
    simp only [Except.ok.injEq] at success
    subst success
    simp [toList, Vector.toList_set, List.take_add_one, List.take_set, room]
    exact List.set_eq_of_length_le (List.length_take_le ..)
  · simp at success

theorem push_eq_error {stack : CallStack} {address : UInt16} {fault : Fault} :
    stack.push address = .error fault ↔ fault = .stackOverflow ∧ stack.depth = stackLimit := by
  have := stack.depth_le
  unfold push
  split
  · simp; omega
  · simp only [Except.error.injEq]
    constructor
    · rintro rfl; exact ⟨rfl, by omega⟩
    · rintro ⟨rfl, _⟩; rfl

theorem toList_pop {stack popped : CallStack} {address : UInt16}
    (success : stack.pop = .ok (address, popped)) : stack.toList = popped.toList ++ [address] := by
  have bound := stack.depth_le
  unfold pop at success
  split at success
  · rename_i used
    simp only [Except.ok.injEq, Prod.mk.injEq] at success
    obtain ⟨rfl, rfl⟩ := success
    obtain ⟨below, eq⟩ : ∃ below, stack.depth = below + 1 := ⟨stack.depth - 1, by omega⟩
    have inside : below < stack.slots.toList.length := by simp; omega
    simp [toList, eq, List.take_add_one, List.getElem?_eq_getElem inside]
  · simp at success

theorem pop_eq_error {stack : CallStack} {fault : Fault} :
    stack.pop = .error fault ↔ fault = .stackUnderflow ∧ stack.depth = 0 := by
  unfold pop
  split
  · simp; omega
  · simp only [Except.error.injEq]
    constructor
    · rintro rfl; exact ⟨rfl, by omega⟩
    · rintro ⟨rfl, _⟩; rfl

end CallStack

end Arcade
