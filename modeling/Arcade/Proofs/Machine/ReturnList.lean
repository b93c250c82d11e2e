/-
**A call stack is a list of at most sixteen addresses.**

A stack is kept as a row of slots of which the first are in use; an address that was taken off stays
in its slot until another is put there. What may be asked of a stack (`CallStack.Act`) comes out the
same for the list of the addresses in use (`CallStack.actOnList`), so what lies in the slots above
them never shows.

* `CallStack.actOnList_toList` and `CallStack.run_toList`: one act on a stack and on its list, and
  any number of them;
* `CallStack.toList_eq_iff`: a stack is known by its list, and by nothing less;
* `SlotProgram.outcome_act` and `SlotProgram.run_kept`: done slot by slot, with every place and
  every sum checked, an act is the same, and one that fails has written nothing;
* `CallStack.answers_as_list`: all of this for any sequence of acts on a new stack.
-/

import Mathlib.Data.List.Induction
import Arcade.Machine.CallStack
import Arcade.Proofs.Machine.Checked

namespace Arcade

namespace CallStack

/-! ### Acts on a stack and on a list -/

/-- What may be asked of a stack. -/
inductive Act where
  | push (address : UInt16)
  | pop
  | length
  | isEmpty
  | clear

/-- What is given back: nothing, an address that was taken off, a number or a truth value. -/
inductive Given where
  | nothing
  | address (address : UInt16)
  | number (count : Nat)
  | truth (value : Bool)

/-- What comes of an act: what is given back, or why it failed. -/
abbrev Outcome := Except Fault Given

/-- What comes of an act on a stack, and the stack after it. -/
def act (stack : CallStack) : Act → Outcome × CallStack
  | .push address =>
    match stack.push address with
    | .ok pushed => (.ok .nothing, pushed)
    | .error fault => (.error fault, stack)
  | .pop =>
    match stack.pop with
    | .ok (address, popped) => (.ok (.address address), popped)
    | .error fault => (.error fault, stack)
  | .length => (.ok (.number stack.depth), stack)
  | .isEmpty => (.ok (.truth (stack.depth == 0)), stack)
  | .clear => (.ok .nothing, empty)

/-- What comes of an act on a list of at most sixteen addresses, the youngest last, and the list
after it. -/
def actOnList (addresses : List UInt16) : Act → Outcome × List UInt16
  | .push address =>
    if addresses.length = stackLimit then (.error .stackOverflow, addresses)
    else (.ok .nothing, addresses ++ [address])
  | .pop =>
    match addresses.getLast? with
    | some address => (.ok (.address address), addresses.dropLast)
    | none => (.error .stackUnderflow, addresses)
  | .length => (.ok (.number addresses.length), addresses)
  | .isEmpty => (.ok (.truth addresses.isEmpty), addresses)
  | .clear => (.ok .nothing, [])

/-- What comes of some acts one after another, and what they leave, where `step` says this of one
act. -/
def run {S : Type} (step : S → Act → Outcome × S) (start : S) : (acts : List Act) → List Outcome × S
  | [] => ([], start)
  | first :: later =>
    let (outcome, next) := step start first
    let (outcomes, last) := run step next later
    (outcome :: outcomes, last)

/-! ### A stack and its list -/

/-- **An act on a stack is the act on its list.** -/
theorem actOnList_toList (stack : CallStack) (request : Act) :
    actOnList stack.toList request =
      ((stack.act request).1, (stack.act request).2.toList) := by
  have size := stack.length_toList
  cases request with
  | push address =>
    cases result : stack.push address with
    | ok pushed =>
      have room : ¬ stack.toList.length = stackLimit := by
        intro full
        have refused : stack.push address = .error .stackOverflow :=
          push_eq_error.mpr ⟨rfl, size.symm.trans full⟩
        rw [result] at refused
        cases refused
      simp only [actOnList, act, result, if_neg room, toList_push result]
    | error fault =>
      obtain ⟨rfl, full⟩ := push_eq_error.mp result
      simp only [actOnList, act, result, if_pos (size.trans full)]
  | pop =>
    cases result : stack.pop with
    | ok popped =>
      simp only [actOnList, act, result, toList_pop result, List.getLast?_concat,
        List.dropLast_concat]
    | error fault =>
      obtain ⟨rfl, none⟩ := pop_eq_error.mp result
      have nil : stack.toList = [] := List.eq_nil_of_length_eq_zero (size.trans none)
      simp only [actOnList, act, result, nil, List.getLast?_nil]
  | length => simp only [actOnList, act, size]
  | isEmpty =>
    have same : stack.toList.isEmpty = (stack.depth == 0) := by
      rw [← size]
      cases stack.toList <;> rfl
    simp only [actOnList, act, same]
  | clear => simp only [actOnList, act, toList_empty]

/-- **Any acts on a stack are the acts on its list.** -/
theorem run_toList (stack : CallStack) (requests : List Act) :
    run actOnList stack.toList requests =
      ((run act stack requests).1, (run act stack requests).2.toList) := by
  induction requests generalizing stack with
  | nil => rfl
  | cons first later ih => simp only [run, actOnList_toList, ih]

/-- What a list answers tells which addresses are in it. -/
theorem eq_of_outcomes {addresses others : List UInt16}
    (alike : ∀ requests, (run actOnList addresses requests).1 = (run actOnList others requests).1) :
    addresses = others := by
  induction addresses using List.reverseRecOn generalizing others with
  | nil =>
    cases others using List.reverseRecOn with
    | nil => rfl
    | append_singleton front address =>
      have taken := alike [.pop]
      simp [run, actOnList] at taken
  | append_singleton front address ih =>
    cases others using List.reverseRecOn with
    | nil =>
      have taken := alike [.pop]
      simp [run, actOnList] at taken
    | append_singleton rest other =>
      have taken (later : List Act) := alike (.pop :: later)
      simp only [run, actOnList, List.getLast?_concat, List.dropLast_concat, List.cons.injEq,
        Except.ok.injEq, Given.address.injEq] at taken
      rw [(taken []).1, ih fun later => (taken later).2]

/-- **The list is all that a stack is known by.** -/
theorem toList_eq_iff (stack other : CallStack) :
    stack.toList = other.toList ↔
      ∀ requests, (run act stack requests).1 = (run act other requests).1 := by
  have answers (one : CallStack) (requests : List Act) :
      (run act one requests).1 = (run actOnList one.toList requests).1 :=
    congrArg Prod.fst (one.run_toList requests).symm
  simp only [answers]
  exact ⟨fun same requests => by rw [same], eq_of_outcomes⟩

end CallStack

/-! ### Slot by slot -/

/-- A stack as it is kept. Nothing holds the number of slots in use to a bound. -/
structure Slots where
  row : Vector UInt16 stackLimit
  depth : Nat

/-- Slots of which none is in use. -/
def Slots.fresh : Slots := ⟨Vector.replicate stackLimit 0, 0⟩

/-- The slots of a stack. -/
def CallStack.kept (stack : CallStack) : Slots := ⟨stack.slots, stack.depth⟩

/-- A program that writes to the slots in place. What it has written stays if it fails afterwards;
an overrun ends it. -/
abbrev SlotProgram (α : Type) := ExceptT Fault (StateT Slots Checked) α

namespace SlotProgram

open CallStack (Act Given Outcome)

/-- What a program returns, or its fault, and what it leaves in either case. -/
def outcome {α : Type} (program : SlotProgram α) (slots : Slots) :
    Checked (Except Fault α × Slots) :=
  StateT.run (ExceptT.run program) slots

/-- Does what is asked. -/
def act : Act → SlotProgram Given
  | .push address => do
    if stackLimit ≤ (← get).depth then
      throw .stackOverflow
    let row ← Checked.write (← get).row (← get).depth address
    modify ({ · with row })
    let depth ← Checked.sum 64 (← get).depth 1
    modify ({ · with depth })
    return .nothing
  | .pop => do
    if (← get).depth = 0 then
      throw .stackUnderflow
    let depth ← Checked.difference (← get).depth 1
    modify ({ · with depth })
    let address ← Checked.read (← get).row (← get).depth
    return .address address
  | .length => return .number (← get).depth
  | .isEmpty => return .truth ((← get).depth == 0)
  | .clear => do
    modify ({ · with row := Vector.replicate stackLimit 0 })
    modify ({ · with depth := 0 })
    return .nothing

/-- What comes of some acts one after another, and what they leave. -/
def run (slots : Slots) : (requests : List Act) → Checked (List Outcome × Slots)
  | [] => .ok ([], slots)
  | first :: later => do
    let (outcome, next) ← (act first).outcome slots
    let (outcomes, last) ← run next later
    .ok (outcome :: outcomes, last)

variable {slots : Slots}

theorem outcome_bind {α β : Type} (program : SlotProgram α) (next : α → SlotProgram β) :
    (program >>= next).outcome slots = program.outcome slots >>= fun (result, after) =>
      match result with
      | .ok value => (next value).outcome after
      | .error fault => .ok (.error fault, after) := by
  unfold outcome
  simp only [bind, ExceptT.bind, ExceptT.mk, StateT.bind, ExceptT.run, StateT.run]
  congr 1
  funext ⟨result, after⟩
  cases result <;> rfl

theorem outcome_get : (get : SlotProgram Slots).outcome slots = .ok (.ok slots, slots) := rfl

theorem outcome_modify (change : Slots → Slots) :
    (modify change : SlotProgram Unit).outcome slots = .ok (.ok (), change slots) := rfl

theorem outcome_checked {α : Type} (value : α) :
    (liftM (Except.ok value : Checked α) : SlotProgram α).outcome slots = .ok (.ok value, slots) :=
  rfl

/-- **Slot by slot, an act is the same.** -/
theorem outcome_act (stack : CallStack) (request : Act) :
    (act request).outcome stack.kept =
      .ok ((stack.act request).1, (stack.act request).2.kept) := by
  have bound : stack.depth ≤ 16 := stack.depth_le
  cases request with
  | push address =>
    by_cases room : stack.depth < stackLimit
    · have free : ¬ stackLimit ≤ stack.kept.depth := Nat.not_le.mpr room
      have fits : stack.kept.depth + 1 < 2 ^ 64 := by
        show stack.depth + 1 < 2 ^ 64
        omega
      have inside : stack.kept.depth < stackLimit := room
      simp only [act, outcome_bind, outcome_get, Checked.ok_bind, if_neg free,
        Checked.write_of_lt inside, Checked.sum_of_lt fits, outcome_checked, outcome_modify,
        CallStack.act, CallStack.push, dif_pos room]
      rfl
    · have full : stackLimit ≤ stack.kept.depth := Nat.not_lt.mp room
      simp only [act, outcome_bind, outcome_get, Checked.ok_bind, if_pos full, CallStack.act,
        CallStack.push, dif_neg room]
      rfl
  | pop =>
    by_cases used : 0 < stack.depth
    · have filled : ¬ stack.kept.depth = 0 := Nat.ne_of_gt used
      have least : 1 ≤ stack.kept.depth := used
      have inside : stack.kept.depth - 1 < stackLimit := by
        show stack.depth - 1 < 16
        omega
      simp only [act, outcome_bind, outcome_get, Checked.ok_bind, if_neg filled,
        Checked.difference_of_le least, Checked.read_of_lt inside, outcome_checked, outcome_modify,
        CallStack.act, CallStack.pop, dif_pos used]
      rfl
    · have none : stack.kept.depth = 0 := Nat.eq_zero_of_not_pos used
      simp only [act, outcome_bind, outcome_get, Checked.ok_bind, if_pos none, CallStack.act,
        CallStack.pop, dif_neg used]
      rfl
  | length | isEmpty | clear => rfl

/-- **Slot by slot, any acts are the same.** -/
theorem run_kept (stack : CallStack) (requests : List Act) :
    run stack.kept requests =
      .ok ((CallStack.run CallStack.act stack requests).1,
        (CallStack.run CallStack.act stack requests).2.kept) := by
  induction requests generalizing stack with
  | nil => rfl
  | cons first later ih =>
    simp only [run, outcome_act, Checked.ok_bind, ih, CallStack.run]

end SlotProgram

namespace CallStack

/-- **A stack answers as a list of at most sixteen addresses does.** Whatever is asked of a new
stack and in whatever order, what comes of it is what comes of it on a list that starts empty, which
never gets longer than sixteen; asked slot by slot, there is no overrun, and it is the same. Two
stacks hold the same list, whatever lies in their other slots, exactly if nothing that may be asked
of them tells them apart. -/
theorem answers_as_list (requests : List Act) :
    (run act empty requests).1 = (run actOnList [] requests).1 ∧
      (run act empty requests).2.toList = (run actOnList [] requests).2 ∧
      (run actOnList [] requests).2.length ≤ stackLimit ∧
      SlotProgram.run Slots.fresh requests =
        .ok ((run actOnList [] requests).1, (run act empty requests).2.kept) ∧
      ∀ stack other : CallStack, stack.toList = other.toList ↔
        ∀ later, (run act stack later).1 = (run act other later).1 := by
  have listed := run_toList empty requests
  rw [toList_empty] at listed
  refine ⟨by rw [listed], by rw [listed], ?_, ?_, toList_eq_iff⟩
  · rw [listed, length_toList]
    exact depth_le _
  · rw [listed]
    exact SlotProgram.run_kept empty requests

example : (run act empty [.push 5, .pop, .pop]).1 =
    [.ok .nothing, .ok (.address 5), .error .stackUnderflow] := rfl

end CallStack

end Arcade
