/-
**Every number stays within its bounds.**

Whatever is done with a machine and in whatever order, no sum, difference, product or shift leaves
its word, no place lies beyond its row, and every cell holds a number of its kind.

The bounds that types give are read off the cells of the machine (`Machine.cells_wellFormed`). The
slots of the call stack have sixteen bits, four more than an address; that the addresses in use fit
into twelve is kept by every operation, as calls alone open one, and with the program counter
(`Clockwork.isLow_operate`).

* `Clockwork.stays_within_bounds`: no run of operations on a new machine has an overrun, and all
  numbers are within their bounds after it.
-/

import Arcade.Proofs.Machine.Lockstep

namespace Arcade

/-- Whether the numbers of a machine are within their bounds. -/
structure Cells.WellFormed (cells : Cells) : Prop where
  counter : cells.counter.value < 4096
  index : cells.index.value < 65536
  registers : ∀ cell ∈ cells.registers.toList, cell.value < 256
  delay : cells.delay.value < 256
  sound : cells.sound.value < 256
  depth : cells.depth ≤ 16
  /-- The slots in use hold addresses. -/
  returns : ∀ address ∈ cells.slots.toList.take cells.depth, address < 4096
  /-- Each pixel is dark or lit. -/
  picture : ∀ pixel ∈ cells.picture.toList, pixel = 0 ∨ pixel = 1
  size : cells.memory.toList.length = 4096
  bytes : ∀ byte ∈ cells.memory.toList, byte < 256

namespace CallStack

/-- Whether the slots in use hold addresses. -/
def IsLow (stack : CallStack) : Prop := ∀ address ∈ stack.toList, address.toNat < memorySize

theorem isLow_empty : empty.IsLow := by
  intro address member
  rw [toList_empty] at member
  exact absurd member List.not_mem_nil

theorem Nests.isLow {before after : CallStack} (nests : before.Nests after) (low : before.IsLow) :
    after.IsLow := by
  intro address member
  cases nests with
  | keeps same => exact low address (same ▸ member)
  | opens target opened =>
    rw [opened, List.mem_append, List.mem_singleton] at member
    rcases member with older | rfl
    · exact low address older
    · rw [Address.toNat_ofNat]
      exact target.isLt
  | closes youngest closed =>
    exact low address (closed ▸ List.mem_append_left [youngest] member)

end CallStack

namespace Machine

/-- The numbers of a machine are within their bounds if the return addresses are. -/
theorem cells_wellFormed {machine : Machine} {timer : Clock} (low : machine.stack.IsLow) :
    (machine.cells timer).WellFormed where
  counter := machine.counter_lt
  index := machine.index_lt
  registers := by
    intro cell member
    simp only [cells, Vector.toList_map, List.mem_map] at member
    obtain ⟨value, -, rfl⟩ := member
    exact value.toNat_lt
  delay := machine.delay.toNat_lt
  sound := machine.sound.toNat_lt
  depth := machine.stack.depth_le
  returns := by
    intro address member
    simp only [cells, Vector.toList_map, ← List.map_take, List.mem_map] at member
    obtain ⟨word, inside, rfl⟩ := member
    exact low word inside
  picture := by
    intro pixel member
    simp only [cells, Display.cells, Vector.toList_map, List.mem_map] at member
    obtain ⟨lit, -, rfl⟩ := member
    cases lit with
    | false => exact .inl rfl
    | true => exact .inr rfl
  size := Vector.length_toList
  bytes := by
    intro byte member
    simp only [cells, Vector.toList_map, List.mem_map] at member
    obtain ⟨value, -, rfl⟩ := member
    exact value.toNat_lt

end Machine

namespace Clockwork

variable {clockwork : Clockwork}

theorem isLow_cycle (moments : List Moment) (low : clockwork.machine.stack.IsLow) :
    (clockwork.cycle moments).2.machine.stack.IsLow := by
  induction moments generalizing clockwork with
  | nil => exact low
  | cons now later ih =>
    have stepped : (clockwork.step now).2.machine.stack.IsLow := by
      rw [stack_step]
      exact (clockwork.machine.skip.nests_executed _).isLow low
    rw [cycle]
    generalize clockwork.step now = outcome at stepped
    obtain ⟨flow, after⟩ := outcome
    cases flow with
    | error fault => exact stepped
    | ok flow => exact ih stepped

/-- **Whatever is done with a machine, its stack holds addresses.** -/
theorem isLow_operate (operation : Operation) (low : clockwork.machine.stack.IsLow) :
    (clockwork.operate operation).2.machine.stack.IsLow := by
  by_cases single : operation.IsSingle
  · exact (nests_operate single).isLow low
  cases operation with
  | load program now =>
    by_cases fits : program.length ≤ programLimit
    · simp only [operate, Machine.load, if_pos fits]
      exact CallStack.isLow_empty
    · simp only [operate, Machine.load, if_neg fits]
      exact low
  | cycle moments =>
    have cycled := isLow_cycle moments low
    simp only [operate]
    generalize clockwork.cycle moments = outcome at cycled
    obtain ⟨fault, after⟩ := outcome
    cases fault <;> exact cycled
  | fetch | execute | step | countDown | press => exact absurd trivial single

theorem isLow_run (operations : List Operation) (low : clockwork.machine.stack.IsLow) :
    (clockwork.run operations).machine.stack.IsLow := by
  induction operations generalizing clockwork with
  | nil => exact low
  | cons operation later ih => exact ih (isLow_operate operation low)

/-- **No number leaves its bounds.** A new machine is set up without an overrun; whatever is done
with it, in whatever order, has none and leaves numbers within their bounds; and so does whatever is
done next. -/
theorem stays_within_bounds (timerMode : TimerMode) (seed : UInt64) (now : Moment)
    (operations : List Operation) (operation : Operation) :
    let reached := (new timerMode seed now).run operations
    let next := (reached.operate operation).2
    (Cells.new timerMode (RandomSource.ofSeed seed) now >>= (·.run operations)) =
        .ok reached.cells ∧
      reached.cells.WellFormed ∧
      reached.cells.operate operation = .ok ((reached.operate operation).1, next.cells) ∧
      next.cells.WellFormed := by
  have low : ((new timerMode seed now).run operations).machine.stack.IsLow :=
    isLow_run operations CallStack.isLow_empty
  refine ⟨?_, Machine.cells_wellFormed low, cells_operate operation,
    Machine.cells_wellFormed (isLow_operate operation low)⟩
  rw [cells_new, Checked.ok_bind, cells_run]

end Clockwork

end Arcade
