/-
**Calls and returns.**

A call puts the address of the instruction behind it on the call stack, and a return takes the
youngest address off and goes there; no other instruction touches the stack. So as long as the stack
stays higher than it was before a call, the call's return address and all older ones lie where they
were, whatever else the machine does, and the return that takes the stack back to that height leads
behind the call.

* `Machine.nests_perform`: an instruction adds one address, takes one away or leaves the stack as it
  is;
* `Clockwork.prefix_run`: addresses below the stack's height stay;
* `Clockwork.returns_home`: a call's return leads behind the call.
-/

import Arcade.Proofs.Machine.Operation

namespace Arcade

namespace Address

/-- An address fits into a slot of the stack. -/
theorem toNat_ofNat (address : Address) : (UInt16.ofNat address.val).toNat = address.val := by
  have bound := address.isLt
  simp only [memorySize] at bound
  rw [UInt16.toNat_ofNat']
  omega

theorem wrap_toNat_ofNat (address : Address) :
    wrap (UInt16.ofNat address.val).toNat = address := by
  rw [toNat_ofNat]
  exact Fin.ext (Nat.mod_eq_of_lt address.isLt)

end Address

namespace CallStack

/-- What one instruction may do to the call stack. -/
inductive Nests (before after : CallStack) : Prop where
  | keeps (same : after = before)
  | opens (address : Address) (opened : after.toList = before.toList ++ [UInt16.ofNat address.val])
  | closes (address : UInt16) (closed : before.toList = after.toList ++ [address])

/-- Addresses below the height of the stack stay. -/
theorem Nests.prefix_toList {before after : CallStack} {addresses : List UInt16}
    (nests : before.Nests after) (inside : addresses <+: before.toList)
    (below : addresses.length ≤ after.depth) : addresses <+: after.toList := by
  cases nests with
  | keeps same => rwa [same]
  | opens address opened => exact opened ▸ inside.trans (List.prefix_append _ _)
  | closes address closed =>
    rw [closed] at inside
    exact List.prefix_of_prefix_length_le inside (List.prefix_append _ _)
      (by rwa [length_toList])

end CallStack

namespace Machine

variable {machine after : Machine} {flow : Flow}

/-- A call that succeeds opens with the address that the program counter points to. -/
theorem toList_stack_call {target : Address}
    (performed : machine.perform (.call target) = .ok (flow, after)) :
    after.stack.toList = machine.stack.toList ++ [UInt16.ofNat machine.counter.val] := by
  simp only [perform, bind, Except.bind] at performed
  split at performed
  · cases performed
  · rename_i stack pushed
    cases performed
    exact CallStack.toList_push pushed

/-- A return that succeeds closes with the address that it leads to. -/
theorem toList_stack_return
    (performed : machine.perform .returnFromCall = .ok (flow, after)) :
    flow = .jump ∧ ∃ address : UInt16, machine.stack.toList = after.stack.toList ++ [address] ∧
      after.counter = Address.wrap address.toNat := by
  simp only [perform, bind, Except.bind] at performed
  split at performed
  · cases performed
  · rename_i result popped
    cases performed
    exact ⟨rfl, result.1, CallStack.toList_pop popped, rfl⟩

/-- Calls and returns alone touch the stack. -/
theorem stack_perform {instruction : Instruction}
    (performed : machine.perform instruction = .ok (flow, after))
    (uncalled : ∀ target, instruction ≠ .call target) (unreturned : instruction ≠ .returnFromCall) :
    after.stack = machine.stack := by
  have foreign : ¬ instruction.Owns machine .stack := by
    cases instruction with
    | call target => exact absurd rfl (uncalled target)
    | returnFromCall => exact absurd rfl unreturned
    | _ => simp [Instruction.Owns]
  exact alike_perform performed foreign

/-- **An instruction adds one address to the stack, takes one away or leaves the stack alone.** -/
theorem nests_perform {instruction : Instruction}
    (performed : machine.perform instruction = .ok (flow, after)) :
    machine.stack.Nests after.stack := by
  by_cases called : ∃ target, instruction = .call target
  · obtain ⟨target, rfl⟩ := called
    exact .opens machine.counter (toList_stack_call performed)
  by_cases returned : instruction = .returnFromCall
  · subst returned
    obtain ⟨-, address, closed, -⟩ := toList_stack_return performed
    exact .closes address closed
  · exact .keeps (stack_perform performed (fun target same => called ⟨target, same⟩) returned)

/-- Only a return lowers the stack. -/
theorem eq_return_of_lower {instruction : Instruction}
    (performed : machine.perform instruction = .ok (flow, after))
    (lower : after.stack.depth < machine.stack.depth) : instruction = .returnFromCall := by
  refine Decidable.byContradiction fun unreturned => ?_
  by_cases called : ∃ target, instruction = .call target
  · obtain ⟨target, rfl⟩ := called
    have heights := congrArg List.length (toList_stack_call performed)
    simp only [List.length_append, CallStack.length_toList, List.length_singleton] at heights
    omega
  · have same := stack_perform performed (fun target same => called ⟨target, same⟩) unreturned
    rw [same] at lower
    exact Nat.lt_irrefl _ lower

variable {opcode : Opcode}

theorem nests_executed (machine : Machine) (opcode : Opcode) :
    machine.stack.Nests (machine.executed opcode).stack := by
  unfold executed execute
  cases Instruction.decode? opcode with
  | none => exact .keeps rfl
  | some instruction =>
    simp only
    cases performed : machine.perform instruction with
    | error fault => exact .keeps rfl
    | ok result => exact nests_perform performed

/-- An opcode that lowers the stack is the return, and it leads to the address it takes off. -/
theorem return_of_executed_lower
    (lower : (machine.executed opcode).stack.depth < machine.stack.depth) :
    opcode.toNat = 0x00EE ∧ machine.execute opcode = .ok (.jump, machine.executed opcode) ∧
      ∃ address : UInt16,
        machine.stack.toList = (machine.executed opcode).stack.toList ++ [address] ∧
        (machine.executed opcode).counter = Address.wrap address.toNat := by
  unfold executed at lower ⊢
  cases result : machine.execute opcode with
  | error fault =>
    rw [result] at lower
    exact absurd lower (Nat.lt_irrefl _)
  | ok outcome =>
    obtain ⟨flow, after⟩ := outcome
    rw [result] at lower
    simp only at lower ⊢
    unfold execute at result
    cases carries : Instruction.decode? opcode with
    | none =>
      rw [carries] at result
      cases result
      exact absurd lower (Nat.lt_irrefl _)
    | some instruction =>
      rw [carries] at result
      obtain rfl := eq_return_of_lower result lower
      obtain ⟨rfl, returned⟩ := toList_stack_return result
      exact ⟨Opcode.hasForm_of_decode? carries, rfl, returned⟩

end Machine

namespace Clockwork

open Operation (Result)

variable {clockwork : Clockwork}

/-- How many calls are open. -/
def depth (clockwork : Clockwork) : Nat := clockwork.machine.stack.depth

/-- What a step does to the stack, its opcode does. -/
theorem stack_step (now : Moment) :
    (clockwork.step now).2.machine.stack =
      (clockwork.machine.skip.executed clockwork.machine.currentOpcode).stack :=
  alike_step .stack now (by decide) (by decide)

theorem nests_operate {operation : Operation} (single : operation.IsSingle) :
    clockwork.machine.stack.Nests (clockwork.operate operation).2.machine.stack := by
  cases operation with
  | load | cycle => exact absurd single id
  | fetch | countDown | press => exact .keeps rfl
  | execute opcode =>
    rw [operate_execute]
    exact clockwork.machine.nests_executed opcode
  | step now =>
    rw [operate_step, stack_step]
    exact clockwork.machine.skip.nests_executed _

/-- A step that opens a call puts the address behind it on the stack. -/
theorem toList_stack_step_call {target : Address} {now : Moment}
    (calls : clockwork.machine.currentOpcode.HasForm (.call target))
    (higher : clockwork.depth < (clockwork.step now).2.depth) :
    (clockwork.step now).2.machine.stack.toList =
      clockwork.machine.stack.toList ++ [UInt16.ofNat clockwork.machine.counter.next.val] := by
  have carries := Opcode.decode?_eq_some_iff.mpr calls
  unfold depth at higher
  rw [stack_step] at higher ⊢
  unfold Machine.executed Machine.execute at higher ⊢
  rw [carries] at higher ⊢
  simp only at higher ⊢
  cases performed : clockwork.machine.skip.perform (.call target) with
  | error fault =>
    rw [performed] at higher
    exact absurd higher (Nat.lt_irrefl _)
  | ok outcome => exact Machine.toList_stack_call performed

/-- A step that lowers the stack returns to the address that it takes off. -/
theorem return_of_step_lower {now : Moment}
    (lower : (clockwork.step now).2.depth < clockwork.depth) :
    clockwork.machine.currentOpcode.toNat = 0x00EE ∧ (clockwork.step now).1 = .ok .jump ∧
      ∃ address : UInt16,
        clockwork.machine.stack.toList = (clockwork.step now).2.machine.stack.toList ++ [address] ∧
        (clockwork.step now).2.machine.counter = Address.wrap address.toNat := by
  have counter : (clockwork.step now).2.machine.counter = _ :=
    alike_step .counter now (by decide) (by decide)
  unfold depth at lower
  rw [stack_step] at lower ⊢
  obtain ⟨form, result, returned⟩ := Machine.return_of_executed_lower lower
  rw [flow_step, result, counter]
  exact ⟨form, rfl, returned⟩

/-- **As long as the stack stays high enough, what lies at its bottom stays there.** -/
theorem prefix_run {addresses : List UInt16} {operations : List Operation}
    (single : ∀ operation ∈ operations, operation.IsSingle)
    (inside : addresses <+: clockwork.machine.stack.toList)
    (above : ∀ count ≤ operations.length,
      addresses.length ≤ (clockwork.run (operations.take count)).depth) :
    addresses <+: (clockwork.run operations).machine.stack.toList := by
  induction operations generalizing clockwork with
  | nil => exact inside
  | cons operation later ih =>
    refine ih (fun other member => single other (List.mem_cons_of_mem operation member)) ?_ ?_
    · have nests : clockwork.machine.stack.Nests _ := nests_operate (single _ List.mem_cons_self)
      exact nests.prefix_toList inside (above 1 (by simp))
    · intro count within
      exact above (count + 1) (by simpa using within)

/-- While the stack stays higher than it was before a call, the call's return address and the older
ones lie at its bottom. -/
theorem home_kept {target : Address} {first : Moment} {middle : List Operation}
    (calls : clockwork.machine.currentOpcode.HasForm (.call target))
    (single : ∀ operation ∈ middle, operation.IsSingle)
    (above : ∀ count ≤ middle.length,
      clockwork.depth < (clockwork.run (.step first :: middle.take count)).depth) :
    clockwork.machine.stack.toList ++ [UInt16.ofNat clockwork.machine.counter.next.val] <+:
      (clockwork.run (.step first :: middle)).machine.stack.toList := by
  simp only [run_cons, operate_step] at above ⊢
  have opened := toList_stack_step_call calls (above 0 (Nat.zero_le _))
  refine prefix_run single (opened ▸ List.prefix_rfl) fun count within => ?_
  rw [List.length_append, CallStack.length_toList, List.length_singleton]
  exact above count within

/-- **A call's return leads behind the call.** From a call on, while the stack stays higher than it
was before the call, anything may happen: nested calls, jumps, stores into the program, waits for a
key, key events and failing steps. The step that takes the stack back to its height is a return, it
leads behind the call, and the older return addresses are what they were. -/
theorem returns_home {start : Clockwork} {target : Address} {first last : Moment}
    {middle : List Operation}
    (calls : start.machine.currentOpcode.HasForm (.call target))
    (single : ∀ operation ∈ middle, operation.IsSingle)
    (above : ∀ count ≤ middle.length,
      start.depth < (start.run (.step first :: middle.take count)).depth)
    (back : (start.run (.step first :: middle ++ [.step last])).depth = start.depth) :
    (start.run (.step first :: middle)).machine.currentOpcode.toNat = 0x00EE ∧
      ((start.run (.step first :: middle)).operate (.step last)).1 = .flowed .jump ∧
      (start.run (.step first :: middle ++ [.step last])).machine.counter.val =
        (start.machine.counter.val + 2) % memorySize ∧
      (start.run (.step first :: middle ++ [.step last])).machine.stack.toList =
        start.machine.stack.toList := by
  have high := above middle.length (Nat.le_refl _)
  have kept := home_kept calls single above
  rw [List.take_length] at high
  rw [run_concat] at back ⊢
  generalize start.run (.step first :: middle) = before at *
  rw [operate_step] at back ⊢
  change (before.step last).2.depth = start.depth at back
  obtain ⟨form, result, address, closed, leads⟩ := return_of_step_lower (by rwa [back])
  -- What lies at the bottom is as long as the whole stack, so it is the whole stack.
  have bottom : start.machine.stack.toList ++ [UInt16.ofNat start.machine.counter.next.val] =
      (before.step last).2.machine.stack.toList ++ [address] := by
    rw [closed] at kept
    refine kept.eq_of_length ?_
    simp only [List.length_append, CallStack.length_toList, List.length_singleton]
    exact congrArg (· + 1) back.symm
  obtain ⟨older, youngest⟩ := List.append_inj' bottom rfl
  refine ⟨form, by rw [result], ?_, older.symm⟩
  rw [leads, ← List.singleton_inj.mp youngest, Address.wrap_toNat_ofNat]
  rfl

/-- A machine with a program that calls at `0200`; what it calls makes a call of its own, waits for
a key and comes back. -/
def visitor : Clockwork :=
  (new .perInstruction 0 0).run [
    .load [0x22, 0x04, 0x12, 0x02, 0x22, 0x0A, 0xF0, 0x0A, 0x00, 0xEE, 0x00, 0xEE] 0]

/-- What happens to the visitor between the call and the return. -/
def visit : List Operation := [.step 2, .step 3, .step 4, .press ⟨⟨5, by decide⟩, true⟩, .step 6]

/-- The visitor's call leads behind it, to `0202`. -/
theorem visitor_returns_home :
    (visitor.run (.step 1 :: visit ++ [.step 7])).machine.counter.val = 0x202 := by
  -- All facts about the visit in one evaluation, as each of them has to run it.
  have visited : (visitor.machine.currentOpcode.op = 0x2 ∧
        visitor.machine.currentOpcode.nnn = ⟨0x204, by decide⟩) ∧
      (∀ count ≤ visit.length,
        visitor.depth < (visitor.run (.step 1 :: visit.take count)).depth) ∧
      (visitor.run (.step 1 :: visit ++ [.step 7])).depth = visitor.depth ∧
      visitor.machine.counter.val = 0x200 := by decide +kernel
  obtain ⟨form, above, back, called⟩ := visited
  have calls : visitor.machine.currentOpcode.HasForm (.call ⟨0x204, by decide⟩) := form
  exact (returns_home calls (by decide) above back).2.2.1.trans (by simp [called])

end Clockwork

end Arcade
