/-
**How timers run down.**

If the timers go by instructions, each step that succeeds takes one from either timer, and nothing
but its own instruction puts anything into it. So how far a timer has run down is the number of
steps since it was set. A machine that waits for a key runs its timers down and does nothing else,
wherever its program counter is.

* `Clockwork.step_of_executes`: a step is its opcode and a tick;
* `TimerName.value_of_advances`: a timer that no step sets runs down by one a step;
* `TimerName.value_of_set`: so does one from where a step set it;
* `Clockwork.run_stalled`: a machine that waits for a key stays where it is;
* `Clockwork.runs_down`: all of this, for every state and every run.
-/

import Arcade.Proofs.Machine.Account
import Arcade.Proofs.Machine.ControlFlow
import Arcade.Proofs.Machine.Faults
import Arcade.Proofs.Machine.Logged

namespace Arcade

/-- The timers of a machine. -/
inductive TimerName where
  | delay
  | sound
  deriving DecidableEq

namespace TimerName

/-- What a timer stands at. -/
def value (machine : Machine) : TimerName → UInt8
  | .delay => machine.delay
  | .sound => machine.sound

/-- The part of a machine that a timer is. -/
def part : TimerName → Part
  | .delay => .delay
  | .sound => .sound

/-- The lower byte of the opcodes that set a timer. -/
def setter : TimerName → UInt8
  | .delay => 0x15
  | .sound => 0x18

/-- Whether an opcode sets a timer. -/
def IsSet (timer : TimerName) (opcode : Opcode) : Prop :=
  opcode.op = 0xF ∧ opcode.nn = timer.setter

variable (timer : TimerName) {machine : Machine} {opcode : Opcode}

theorem owns_part_iff : opcode.Owns machine timer.part ↔ timer.IsSet opcode := by
  cases timer <;> rfl

theorem value_eq_of_alike {other : Machine} (alike : machine.Alike other timer.part) :
    timer.value machine = timer.value other := by
  cases timer <;> exact alike

/-- **A tick takes one**, unless there is nothing left. -/
theorem value_tickTimers (machine : Machine) :
    (timer.value machine.tickTimers).toNat = (timer.value machine).toNat - 1 := by
  have ticks : ∀ count : UInt8,
      (if count = 0 then (0 : UInt8) else count - 1).toNat = count.toNat - 1 := by
    intro count
    split
    · rename_i ended
      rw [ended]
      rfl
    · rename_i runs
      have some : (1 : UInt8) ≤ count := by
        rw [UInt8.le_iff_toNat_le]
        have positive : count.toNat ≠ 0 := fun none => runs (UInt8.toNat_inj.mp none)
        exact Nat.one_le_iff_ne_zero.mpr positive
      rw [UInt8.toNat_sub_of_le _ _ some]
      rfl
  cases timer with
  | delay => exact ticks machine.delay
  | sound => exact ticks machine.sound

/-- What an opcode leaves a timer at. -/
theorem value_executed (machine : Machine) (opcode : Opcode) :
    (timer.IsSet opcode → timer.value (machine.executed opcode) = machine.v opcode.x) ∧
      (¬ timer.IsSet opcode → timer.value (machine.executed opcode) = timer.value machine) := by
  refine ⟨fun ⟨family, member⟩ => ?_, fun unset => ?_⟩
  · unfold Machine.executed
    cases timer with
    | delay =>
      have form : opcode.HasForm (.setDelay opcode.x) := ⟨family, member, rfl⟩
      rw [(machine.execute_of_hasForm form).1]
      rfl
    | sound =>
      have form : opcode.HasForm (.setSound opcode.x) := ⟨family, member, rfl⟩
      rw [(machine.execute_of_hasForm form).1]
      rfl
  · exact timer.value_eq_of_alike (Machine.alike_executed (mt timer.owns_part_iff.mp unset))

end TimerName

namespace Clockwork

variable {start after : Clockwork} {now : Moment} {flow : Flow}

/-- **A step is its opcode and a tick**, if the opcode succeeds. -/
theorem step_of_executes (mode : start.machine.timerMode = .perInstruction) {left : Machine}
    (executes : start.machine.skip.execute start.machine.currentOpcode = .ok (flow, left))
    (now : Moment) :
    start.step now = (.ok flow, { start with machine := left.tickTimers }) := by
  have kept := (timerMode_executed start.machine.skip start.machine.currentOpcode).trans mode
  unfold Machine.executed at kept
  rw [executes] at kept
  simp only [step, Machine.stepAt, Machine.fetch, executes, Machine.countDown]
  split
  · rfl
  · rename_i realtime
    rw [show left.timerMode = .perInstruction from kept] at realtime
    cases realtime

/-- What a step that succeeds leaves. -/
theorem machine_of_step (mode : start.machine.timerMode = .perInstruction)
    (succeeds : start.step now = (.ok flow, after)) :
    after.machine = (start.machine.skip.executed start.machine.currentOpcode).tickTimers := by
  unfold Machine.executed
  cases executes : start.machine.skip.execute start.machine.currentOpcode with
  | error fault =>
    simp only [step, Machine.stepAt, Machine.fetch, executes] at succeeds
    cases succeeds
  | ok outcome =>
    rw [step_of_executes mode executes] at succeeds
    cases succeeds
    rfl

theorem mode_of_step (mode : start.machine.timerMode = .perInstruction)
    (succeeds : start.step now = (.ok flow, after)) :
    after.machine.timerMode = .perInstruction := by
  have kept := start.timerMode_step now
  rw [succeeds] at kept
  exact kept.trans mode

end Clockwork

namespace TimerName

open Clockwork (machine_of_step mode_of_step)

variable (timer : TimerName) {start between after : Clockwork} {now : Moment} {flow : Flow}
  {moments later : List Moment}

/-- What a step leaves a timer at: one less than it was, or than what the step put into it. -/
theorem value_of_step (mode : start.machine.timerMode = .perInstruction)
    (succeeds : start.step now = (.ok flow, after)) :
    (timer.IsSet start.machine.currentOpcode → (timer.value after.machine).toNat =
        (start.machine.v start.machine.currentOpcode.x).toNat - 1) ∧
      (¬ timer.IsSet start.machine.currentOpcode → (timer.value after.machine).toNat =
        (timer.value start.machine).toNat - 1) := by
  obtain ⟨set, unset⟩ :=
    timer.value_executed start.machine.skip start.machine.currentOpcode
  rw [machine_of_step mode succeeds, value_tickTimers]
  refine ⟨fun sets => ?_, fun leaves => ?_⟩
  · rw [set sets]
    rfl
  · rw [unset leaves]
    cases timer <;> rfl

/-- **A timer that no step sets runs down by one a step.** -/
theorem value_of_advances (mode : start.machine.timerMode = .perInstruction)
    (advances : start.Advances moments after)
    (unset : ∀ before ∈ start.visited moments, ¬ timer.IsSet before.currentOpcode) :
    (timer.value after.machine).toNat = (timer.value start.machine).toNat - moments.length := by
  induction advances with
  | done => exact (Nat.sub_zero _).symm
  | @step before stepped after now later flow succeeds rest ih =>
    have visits : before.visited (now :: later) = before.machine :: stepped.visited later := by
      rw [Clockwork.visited, Clockwork.operate_step, succeeds]
    rw [visits] at unset
    have first := (timer.value_of_step mode succeeds).2 (unset _ List.mem_cons_self)
    have others := fun machine member => unset machine (List.mem_cons_of_mem _ member)
    rw [ih (mode_of_step mode succeeds) others, first,
      List.length_cons, Nat.sub_sub, Nat.add_comm 1]

/-- **A timer that a step set runs down from there**, that step included. -/
theorem value_of_set (mode : start.machine.timerMode = .perInstruction)
    (succeeds : start.step now = (.ok flow, between))
    (sets : timer.IsSet start.machine.currentOpcode) (advances : between.Advances later after)
    (unset : ∀ before ∈ between.visited later, ¬ timer.IsSet before.currentOpcode) :
    (timer.value after.machine).toNat =
      (start.machine.v start.machine.currentOpcode.x).toNat - (later.length + 1) := by
  rw [timer.value_of_advances (mode_of_step mode succeeds) advances unset,
    (timer.value_of_step mode succeeds).1 sets,
    Nat.sub_sub, Nat.add_comm 1]

end TimerName

/-! ### Waiting for a key -/

/-- The key that is found is down, and none below it is. -/
theorem Keypad.lowest?_eq_some {keypad : Keypad} {key : Key} (lowest : keypad.lowest? = some key) :
    keypad.isDown key = true ∧ ∀ lower < key, keypad.isDown lower = false := by
  obtain ⟨down, before, after, split, none⟩ := List.find?_eq_some_iff_append.mp lowest
  refine ⟨down, fun lower below => ?_⟩
  have sorted : (before ++ key :: after).Pairwise (· < ·) :=
    split ▸ List.pairwise_lt_finRange keyCount
  have member : lower ∈ before ++ key :: after := split ▸ List.mem_finRange lower
  rcases List.mem_append.mp member with earlier | later
  · exact eq_false_of_ne_true (by simpa using none lower earlier)
  · rcases List.mem_cons.mp later with rfl | later
    · exact absurd below (lt_irrefl lower)
    · have above := (List.pairwise_cons.mp (List.pairwise_append.mp sorted).2.1).1 lower later
      exact absurd (below.trans above) (lt_irrefl lower)

namespace Machine

/-- The machine with both timers run down by some ticks. -/
def lowered (machine : Machine) (count : Nat) : Machine :=
  { machine with
    delay := UInt8.ofNat (machine.delay.toNat - count)
    sound := UInt8.ofNat (machine.sound.toNat - count) }

theorem lowered_zero (machine : Machine) : machine.lowered 0 = machine := by
  simp [lowered]

theorem lowered_tickTimers (machine : Machine) (count : Nat) :
    machine.tickTimers.lowered count = machine.lowered (count + 1) := by
  have delay : machine.tickTimers.delay.toNat = machine.delay.toNat - 1 :=
    TimerName.delay.value_tickTimers machine
  have sound : machine.tickTimers.sound.toNat = machine.sound.toNat - 1 :=
    TimerName.sound.value_tickTimers machine
  unfold lowered
  rw [delay, sound, Nat.sub_sub, Nat.sub_sub, Nat.add_comm 1]
  rfl

theorem tickTimers_eq_lowered (machine : Machine) : machine.tickTimers = machine.lowered 1 := by
  rw [← lowered_tickTimers, lowered_zero]

end Machine

namespace Clockwork

open Operation (Result)

variable {start : Clockwork}

/-- **A machine that waits for a key stays where it is.** Going past the instruction and back again
leads to the same address, whichever it is. -/
theorem step_stalled (mode : start.machine.timerMode = .perInstruction)
    (stalled : start.machine.currentOpcode.IsStalled start.machine) (now : Moment) :
    start.step now = (.ok .keyWait, { start with machine := start.machine.lowered 1 }) := by
  obtain ⟨family, member, released⟩ := stalled
  have form : start.machine.currentOpcode.HasForm (.waitForKey start.machine.currentOpcode.x) :=
    ⟨family, member, rfl⟩
  have up : start.machine.skip.keypad.lowest? = none := Keypad.lowest?_eq_none.mpr released
  have waits : start.machine.skip.execute start.machine.currentOpcode =
      .ok (.keyWait, start.machine) := by
    rw [(Machine.execute_of_hasForm _ form).1]
    simp only [Machine.perform, up]
    rw [show start.machine.skip.counter.previous = start.machine.counter from
      Address.previous_next start.machine.counter]
    rfl
  rw [step_of_executes mode waits, Machine.tickTimers_eq_lowered]

/-- A machine that waits for a key only runs its timers down, however long it waits. -/
theorem run_stalled (mode : start.machine.timerMode = .perInstruction)
    (stalled : start.machine.currentOpcode.IsStalled start.machine) (moments : List Moment) :
    (start.account (moments.map .step)).map Prod.fst =
        List.replicate moments.length (.flowed .keyWait) ∧
      start.run (moments.map .step) =
        { start with machine := start.machine.lowered moments.length } := by
  induction moments generalizing start with
  | nil => exact ⟨rfl, by rw [List.length_nil, Machine.lowered_zero]; rfl⟩
  | cons now later ih =>
    have first := step_stalled mode stalled now
    have waits : start.machine.tickTimers.currentOpcode.IsStalled start.machine.tickTimers :=
      stalled
    obtain ⟨results, last⟩ := @ih ⟨start.machine.tickTimers, start.timer⟩ mode waits
    rw [← Machine.tickTimers_eq_lowered] at first
    rw [List.map_cons, account, List.map_cons, run_cons, observe, operate_step, first, results,
      last, Machine.lowered_tickTimers]
    exact ⟨rfl, rfl⟩

/-- The key that is taken is the lowest of those that are down. -/
theorem step_answered (mode : start.machine.timerMode = .perInstruction)
    (family : start.machine.currentOpcode.op = 0xF)
    (member : start.machine.currentOpcode.nn = 0x0A)
    (pressed : ∃ key, start.machine.keypad.isDown key = true) (now : Moment) :
    ∃ key, start.machine.keypad.isDown key = true ∧
      (∀ lower < key, start.machine.keypad.isDown lower = false) ∧
      start.step now = (.ok .plain, { start with machine :=
        { start.machine.setV start.machine.currentOpcode.x (UInt8.ofNat key.val) with
          counter := Address.wrap (start.machine.counter.val + 2) }.lowered 1 }) := by
  have form : start.machine.currentOpcode.HasForm (.waitForKey start.machine.currentOpcode.x) :=
    ⟨family, member, rfl⟩
  obtain ⟨key, lowest⟩ : ∃ key, start.machine.keypad.lowest? = some key := by
    refine Option.ne_none_iff_exists'.mp fun none => ?_
    obtain ⟨key, down⟩ := pressed
    rw [Keypad.lowest?_eq_none.mp none key] at down
    cases down
  obtain ⟨down, lower⟩ := Keypad.lowest?_eq_some lowest
  refine ⟨key, down, lower, ?_⟩
  have takes : start.machine.skip.execute start.machine.currentOpcode =
      .ok (.plain,
        start.machine.skip.setV start.machine.currentOpcode.x (UInt8.ofNat key.val)) := by
    rw [(Machine.execute_of_hasForm _ form).1]
    simp only [Machine.perform]
    rw [show start.machine.skip.keypad.lowest? = some key from lowest]
  rw [step_of_executes mode takes, Machine.tickTimers_eq_lowered]
  rfl

/-! ### Runs -/

/-- What steps do to the timers of a machine, and what waiting for a key does. -/
structure RunsDown (start : Clockwork) : Prop where
  /-- A timer that no step sets runs down by one a step, to zero and no further. -/
  unset : ∀ (timer : TimerName) moments after, start.Advances moments after →
    (∀ machine ∈ start.visited moments, ¬ timer.IsSet machine.currentOpcode) →
    (timer.value after.machine).toNat = (timer.value start.machine).toNat - moments.length
  /-- A timer that a step of a run sets, and none after it, runs down from there: by one if that
  step was the last. -/
  set : ∀ (timer : TimerName) earlier before now flow stepped later after,
    start.Advances earlier before → before.step now = (.ok flow, stepped) →
    stepped.Advances later after → timer.IsSet before.machine.currentOpcode →
    (∀ machine ∈ stepped.visited later, ¬ timer.IsSet machine.currentOpcode) →
    (timer.value after.machine).toNat =
      (before.machine.v before.machine.currentOpcode.x).toNat - (1 + later.length)
  /-- With no key down, a machine that waits for one does nothing but run its timers down. -/
  stalled : start.machine.currentOpcode.op = 0xF → start.machine.currentOpcode.nn = 0x0A →
    (∀ key, start.machine.keypad.isDown key = false) → ∀ moments : List Moment,
      (start.account (moments.map .step)).map Prod.fst =
          List.replicate moments.length (.flowed .keyWait) ∧
        start.run (moments.map .step) = { start with machine := { start.machine with
          delay := UInt8.ofNat (start.machine.delay.toNat - moments.length)
          sound := UInt8.ofNat (start.machine.sound.toNat - moments.length) } }
  /-- With some key down, it takes the lowest one and goes on. -/
  answered : start.machine.currentOpcode.op = 0xF → start.machine.currentOpcode.nn = 0x0A →
    (∃ key, start.machine.keypad.isDown key = true) → ∀ now : Moment,
      ∃ key, start.machine.keypad.isDown key = true ∧
        (∀ lower < key, start.machine.keypad.isDown lower = false) ∧
        start.step now = (.ok .plain, { start with machine :=
          { start.machine.setV start.machine.currentOpcode.x (UInt8.ofNat key.val) with
            counter := Address.wrap (start.machine.counter.val + 2)
            delay := UInt8.ofNat (start.machine.delay.toNat - 1)
            sound := UInt8.ofNat (start.machine.sound.toNat - 1) } })

/-- **Timers that go by instructions run down by one a step.** This holds of every state of a
machine and every run of steps that succeed, whatever its program does to itself. -/
theorem runs_down (start : Clockwork) (mode : start.machine.timerMode = .perInstruction) :
    start.RunsDown := by
  refine ⟨fun timer moments after advances unset => timer.value_of_advances mode advances unset,
    ?_, fun family member released => run_stalled mode ⟨family, member, released⟩,
    step_answered mode⟩
  intro timer earlier before now flow stepped later after comes succeeds advances sets unset
  have kept : before.machine.timerMode = .perInstruction := by
    have cycled := start.timerMode_cycle earlier
    rw [cycle_eq_none_iff.mpr comes] at cycled
    exact cycled.trans mode
  rw [timer.value_of_set kept succeeds sets advances unset, Nat.add_comm]

/-- A program that sets the delay timer to three and then waits for a key, for longer than that. -/
theorem runs_down_waiting :
    let waiting := (new .perInstruction 0 0).run
      [.load [0x65, 0x03, 0xF5, 0x15, 0xF0, 0x0A] 0, .step 0, .step 0]
    waiting.machine.timerMode = .perInstruction ∧ waiting.machine.delay = 2 ∧
      (waiting.account ([1, 2, 3].map .step)).map Prod.fst =
        List.replicate 3 (.flowed .keyWait) ∧
      (waiting.run ([1, 2, 3].map .step)).machine.delay = 0 := by
  intro waiting
  obtain ⟨mode, held, family, member, released⟩ :
      waiting.machine.timerMode = .perInstruction ∧ waiting.machine.delay = 2 ∧
        waiting.machine.currentOpcode.op = 0xF ∧ waiting.machine.currentOpcode.nn = 0x0A ∧
        ∀ key, waiting.machine.keypad.isDown key = false := by
    decide +kernel
  obtain ⟨results, last⟩ :=
    (runs_down waiting mode).stalled family member released [1, 2, 3]
  refine ⟨mode, held, results, ?_⟩
  rw [last, held]
  rfl

end Clockwork

end Arcade
