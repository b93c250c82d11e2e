/-
**Where random bytes come from.**

Only one kind of opcode asks for a random byte, and it asks for one each time it is executed, also
if its mask lets nothing through. Whoever executes it, and whatever is done in between, the bytes
are the low bytes of the words of the seed's stream in order (`Clockwork.rolls_in_turn`). A program
that is loaded in place of another goes on where that one stopped.

A machine need not know its place in the stream. It may as well own a generator that makes blocks of
words and hands them out (`Buffered`), and does the same.

* `Machine.rolls_of_alike`: what executing one opcode takes from the stream;
* `Clockwork.rolls_operate`: what an operation takes, and `Clockwork.rolls_run`: what a run takes;
* `Buffered.operate_of_mirrors`: an operation finds the same in either machine.
-/

import Arcade.Proofs.Machine.Account
import Arcade.Proofs.Machine.Draw
import Arcade.Proofs.Machine.Repertoire
import Arcade.Proofs.Random.Buffer

namespace Arcade

/-- An opcode that was executed, and the machine it left. -/
structure Enactment where
  opcode : Opcode
  after : Machine

/-- Whether the opcode that was executed asks for a random byte. -/
def Enactment.isRoll (enactment : Enactment) : Bool := enactment.opcode.op == 0xC

/-- Whether opcodes got the words of a seed's stream in order, from a position on. -/
def Random.InTurn (seed : UInt64) (position : Nat) (rolls : List Enactment) : Prop :=
  ∀ index roll, rolls[index]? = some roll →
    roll.after.v roll.opcode.x =
      (streamWord (keyOfSeed seed) (position + index)).toUInt8 &&& roll.opcode.nn

namespace Machine

/-- Whether some opcodes are what a machine took from the stream of its seed until it became
another. -/
structure Rolls (before : Machine) (rolls : List Enactment) (after : Machine) : Prop where
  inTurn : Random.InTurn before.random.seed before.random.position rolls
  random : after.random = ⟨before.random.seed, before.random.position + rolls.length⟩

variable {before between after machine : Machine} {earlier later : List Enactment}

/-- A machine with the same source has taken nothing. -/
theorem Rolls.nil (same : after.random = before.random) : before.Rolls [] after :=
  ⟨fun _ _ found => by simp at found, same⟩

theorem Rolls.append (first : before.Rolls earlier between) (second : between.Rolls later after) :
    before.Rolls (earlier ++ later) after := by
  obtain ⟨turns, source⟩ := first
  obtain ⟨more, last⟩ := second
  rw [source] at more last
  refine ⟨fun index roll found => ?_, ?_⟩
  · rcases Nat.lt_or_ge index earlier.length with inside | beyond
    · rw [List.getElem?_append_left inside] at found
      exact turns index roll found
    · rw [List.getElem?_append_right beyond] at found
      have taken := more _ roll found
      rwa [Nat.add_assoc, Nat.add_sub_cancel' beyond] at taken
  · rw [last, List.length_append, Nat.add_assoc]

/-- **An opcode takes one word if it asks for a random byte, and none otherwise.** What is done
after it must leave its register and the source alone. -/
theorem rolls_of_alike (opcode : Opcode)
    (register : after.Alike (machine.executed opcode) (.register opcode.x))
    (random : after.Alike (machine.executed opcode) .random) :
    machine.Rolls ([⟨opcode, after⟩].filter Enactment.isRoll) after := by
  by_cases family : opcode.op = 0xC
  · have form : opcode.HasForm (.random opcode.x opcode.nn) := ⟨family, rfl, rfl⟩
    have executed : machine.executed opcode =
        { machine.setV opcode.x (machine.random.byte &&& opcode.nn) with
          random := machine.random.next } := by
      unfold Machine.executed
      rw [(machine.execute_of_hasForm form).1]
      rfl
    rw [executed] at register random
    have asks : Enactment.isRoll ⟨opcode, after⟩ = true := beq_iff_eq.mpr family
    rw [List.filter_cons_of_pos asks, List.filter_nil]
    refine ⟨fun index roll found => ?_, random⟩
    obtain ⟨rfl, rfl⟩ : index = 0 ∧ (⟨opcode, after⟩ : Enactment) = roll := by
      simpa [List.getElem?_singleton] using found
    refine Eq.trans register ?_
    exact (machine.registers_set opcode.x opcode.x _).trans (if_pos rfl)
  · have asks : ¬ Enactment.isRoll ⟨opcode, after⟩ = true := mt beq_iff_eq.mp family
    rw [List.filter_cons_of_neg asks, List.filter_nil]
    have kept : (machine.executed opcode).Alike machine .random := alike_executed family
    exact .nil (random.trans kept)

/-- Counting the timers down does not touch the source. -/
theorem mute_countDown (machine : Machine) (timer : Clock) (now : Moment) :
    machine.mute.countDown timer now =
      ((machine.countDown timer now).1.mute, (machine.countDown timer now).2) := by
  have kept : machine.mute.timerMode = machine.timerMode := rfl
  unfold countDown
  rw [kept]
  generalize timer.tick now = ticked
  obtain ⟨due, timer⟩ := ticked
  cases machine.timerMode with
  | perInstruction => rfl
  | realtime => cases due <;> rfl

theorem random_countDown (machine : Machine) (timer : Clock) (now : Moment) :
    (machine.countDown timer now).1.random = machine.random := by
  have kept : (machine.countDown timer now).1.Alike machine .random :=
    alike_countDown nofun nofun
  exact kept

end Machine

namespace Clockwork

/-! ### What is taken from the stream -/

/-- The opcodes that a batch executes. -/
def enactedSteps (clockwork : Clockwork) : (moments : List Moment) → List Enactment
  | [] => []
  | now :: later =>
    let stepped := clockwork.step now
    ⟨clockwork.machine.currentOpcode, stepped.2.machine⟩ ::
      match stepped.1 with
      | .ok _ => stepped.2.enactedSteps later
      | .error _ => []

/-- The opcodes that an operation executes. -/
def enactments (clockwork : Clockwork) (operation : Operation) : List Enactment :=
  match operation with
  | .execute opcode => [⟨opcode, (clockwork.operate operation).2.machine⟩]
  | .step _ => [⟨clockwork.machine.currentOpcode, (clockwork.operate operation).2.machine⟩]
  | .cycle moments => clockwork.enactedSteps moments
  | .load _ _ | .fetch | .countDown | .press _ => []

/-- The opcodes of a run that ask for a random byte. -/
def rolls (clockwork : Clockwork) : (operations : List Operation) → List Enactment
  | [] => []
  | operation :: later =>
    (clockwork.enactments operation).filter Enactment.isRoll ++
      (clockwork.operate operation).2.rolls later

variable (clockwork : Clockwork)

theorem rolls_step (now : Moment) :
    clockwork.machine.Rolls
      ([⟨clockwork.machine.currentOpcode, (clockwork.step now).2.machine⟩].filter
        Enactment.isRoll)
      (clockwork.step now).2.machine :=
  have taken : clockwork.machine.skip.Rolls _ (clockwork.step now).2.machine :=
    Machine.rolls_of_alike clockwork.machine.currentOpcode
      (alike_step (.register _) now nofun nofun) (alike_step .random now nofun nofun)
  ⟨taken.inTurn, taken.random⟩

theorem rolls_cycle (moments : List Moment) :
    clockwork.machine.Rolls ((clockwork.enactedSteps moments).filter Enactment.isRoll)
      (clockwork.cycle moments).2.machine := by
  induction moments generalizing clockwork with
  | nil => exact .nil rfl
  | cons now later ih =>
    have first := clockwork.rolls_step now
    rw [enactedSteps, cycle, ← List.singleton_append, List.filter_append]
    generalize clockwork.step now = outcome at first
    obtain ⟨flow, stepped⟩ := outcome
    cases flow with
    | error fault => exact first.append (.nil rfl)
    | ok flow => exact first.append (ih stepped)

/-- **What an operation takes from the stream**: a word for each opcode it executes that asks for a
random byte. -/
theorem rolls_operate (operation : Operation) :
    clockwork.machine.Rolls ((clockwork.enactments operation).filter Enactment.isRoll)
      (clockwork.operate operation).2.machine := by
  cases operation with
  | fetch | countDown | press => exact .nil rfl
  | load program now =>
    refine .nil ?_
    by_cases fits : program.length ≤ programLimit
    · simp only [operate, Machine.load, if_pos fits]
    · simp only [operate, Machine.load, if_neg fits]
  | execute opcode =>
    rw [enactments, operate_execute]
    exact Machine.rolls_of_alike opcode (.refl _ _) (.refl _ _)
  | step now =>
    rw [enactments, operate_step]
    exact clockwork.rolls_step now
  | cycle moments =>
    have taken := clockwork.rolls_cycle moments
    simp only [enactments, operate]
    generalize clockwork.cycle moments = outcome at taken
    obtain ⟨fault, cycled⟩ := outcome
    cases fault <;> exact taken

/-- What a run takes from the stream. -/
theorem rolls_run (operations : List Operation) :
    clockwork.machine.Rolls (clockwork.rolls operations) (clockwork.run operations).machine := by
  induction operations generalizing clockwork with
  | nil => exact .nil rfl
  | cons operation later ih => exact (clockwork.rolls_operate operation).append (ih _)

end Clockwork

/-! ### Machines that own a generator -/

/-- A machine that gets its random bytes from a generator. The source in the machine is not used. -/
structure Buffered where
  clockwork : Clockwork
  generator : Generator

namespace Buffered

open Operation (Result)

/-- A machine without a program whose generator has made nothing. -/
def new (timerMode : TimerMode) (seed : UInt64) (now : Moment) : Buffered :=
  ⟨Clockwork.new timerMode 0 now, Generator.ofSeed seed⟩

/-- Executes an opcode that the program counter points past. -/
def execute (ahead : Nat) (buffered : Buffered) (opcode : Opcode) :
    Except Fault (Flow × Buffered) :=
  let ⟨⟨machine, timer⟩, generator⟩ := buffered
  match Instruction.decode? opcode with
  | some (.random x mask) =>
    let (word, generator) := generator.draw ahead
    .ok (.plain, ⟨⟨machine.setV x (word.toUInt8 &&& mask), timer⟩, generator⟩)
  | _ =>
    match machine.execute opcode with
    | .ok (flow, machine) => .ok (flow, ⟨⟨machine, timer⟩, generator⟩)
    | .error fault => .error fault

/-- Fetches and executes one opcode at a moment, and counts the timers down if that succeeds. -/
def step (ahead : Nat) (buffered : Buffered) (now : Moment) : Except Fault Flow × Buffered :=
  let ⟨⟨machine, timer⟩, generator⟩ := buffered
  let skipped : Buffered := ⟨⟨machine.skip, timer⟩, generator⟩
  match skipped.execute ahead machine.currentOpcode with
  | .ok (flow, ⟨⟨machine, timer⟩, generator⟩) =>
    let (machine, timer) := machine.countDown timer now
    (.ok flow, ⟨⟨machine, timer⟩, generator⟩)
  | .error fault => (.error fault, skipped)

/-- Steps once at each moment, until a step fails. -/
def cycle (ahead : Nat) (buffered : Buffered) : (moments : List Moment) → Option Fault × Buffered
  | [] => (none, buffered)
  | now :: later =>
    match buffered.step ahead now with
    | (.ok _, stepped) => stepped.cycle ahead later
    | (.error fault, stepped) => (some fault, stepped)

/-- What an operation returns, and what is left after it. -/
def operate (ahead : Nat) (buffered : Buffered) : Operation → Result × Buffered
  | .execute opcode =>
    match buffered.execute ahead opcode with
    | .ok (flow, after) => (.flowed flow, after)
    | .error fault => (.failed (.fault fault), buffered)
  | .step now =>
    match buffered.step ahead now with
    | (.ok flow, stepped) => (.flowed flow, stepped)
    | (.error fault, stepped) => (.failed (.fault fault), stepped)
  | .cycle moments =>
    match buffered.cycle ahead moments with
    | (none, cycled) => (.done, cycled)
    | (some fault, cycled) => (.failed (.fault fault), cycled)
  | operation =>
    let (result, clockwork) := buffered.clockwork.operate operation
    (result, { buffered with clockwork })

/-- What a run returns, and what is left after it. -/
def run (ahead : Nat) (buffered : Buffered) : (operations : List Operation) →
    List Result × Buffered
  | [] => ([], buffered)
  | operation :: later =>
    let (result, after) := buffered.operate ahead operation
    let (results, last) := after.run ahead later
    (result :: results, last)

/-- Whether a machine with a generator is the same as one that knows its place in the stream. -/
structure Mirrors (buffered : Buffered) (clockwork : Clockwork) : Prop where
  machine : buffered.clockwork.machine.mute = clockwork.machine.mute
  timer : buffered.clockwork.timer = clockwork.timer
  generator : buffered.generator.Stands clockwork.machine.random.seed
    clockwork.machine.random.position

variable {buffered : Buffered} {clockwork : Clockwork} (ahead : Nat)

theorem mirrors_new (timerMode : TimerMode) (seed : UInt64) (now : Moment) :
    (new timerMode seed now).Mirrors (Clockwork.new timerMode seed now) :=
  ⟨rfl, rfl, Generator.stands_ofSeed seed⟩

/-- **An opcode does the same in either machine**: it returns the same and fails alike, and takes
the same word. -/
theorem execute_of_mirrors (mirrors : buffered.Mirrors clockwork) (opcode : Opcode) :
    match clockwork.machine.execute opcode with
    | .ok (flow, machine) => ∃ after, buffered.execute ahead opcode = .ok (flow, after) ∧
        after.Mirrors { clockwork with machine }
    | .error fault => buffered.execute ahead opcode = .error fault := by
  obtain ⟨⟨machine, timer⟩, generator⟩ := buffered
  obtain ⟨plain, other⟩ := clockwork
  obtain ⟨same, rfl, stands⟩ := mirrors
  by_cases roll : ∃ x mask, Instruction.decode? opcode = some (.random x mask)
  · obtain ⟨x, mask, carries⟩ := roll
    obtain ⟨word, left⟩ := Generator.draw_of_stands stands ahead
    simp only [execute, Machine.execute, Machine.perform, carries]
    refine ⟨_, rfl, ?_, rfl, left⟩
    rw [word]
    exact congrArg (·.setV x (plain.random.byte &&& mask)) same
  · have still : (machine.notice opcode).draws = false := by
      unfold Machine.notice
      cases carries : Instruction.decode? opcode with
      | none => rfl
      | some instruction =>
        cases instruction with
        | random x mask => exact absurd ⟨x, mask, carries⟩ roll
        | _ => rfl
    have executed := Machine.execute_congr same opcode still
    have unrolled : (execute ahead ⟨⟨machine, timer⟩, generator⟩ opcode) =
        match machine.execute opcode with
        | .ok (flow, machine) => .ok (flow, ⟨⟨machine, timer⟩, generator⟩)
        | .error fault => .error fault := by
      unfold execute
      simp only
      split
      · rename_i x mask carries
        exact absurd ⟨x, mask, carries⟩ roll
      · rfl
    have foreign : ¬ opcode.Owns plain .random := fun family =>
      roll ⟨_, _, Opcode.decode?_eq_some_iff.mpr ⟨family, rfl, rfl⟩⟩
    have kept : (plain.executed opcode).random = plain.random := Machine.alike_executed foreign
    unfold Machine.executed at kept
    rw [unrolled]
    generalize machine.execute opcode = one at executed
    generalize plain.execute opcode = two at executed kept
    cases one with
    | error fault =>
      cases two with
      | error fault' => exact congrArg _ (Except.error.inj executed)
      | ok outcome => cases executed
    | ok outcome =>
      cases two with
      | error fault => cases executed
      | ok outcome' =>
        obtain ⟨flows, machines⟩ := Prod.mk.inj (Except.ok.inj executed)
        obtain ⟨flow, after⟩ := outcome
        obtain ⟨flow', after'⟩ := outcome'
        obtain rfl : flow = flow' := flows
        have source : after'.random = plain.random := kept
        exact ⟨_, rfl, machines, rfl, by rw [source]; exact stands⟩

theorem step_of_mirrors (mirrors : buffered.Mirrors clockwork) (now : Moment) :
    (buffered.step ahead now).1 = (clockwork.step now).1 ∧
      (buffered.step ahead now).2.Mirrors (clockwork.step now).2 := by
  obtain ⟨⟨machine, timer⟩, generator⟩ := buffered
  obtain ⟨plain, other⟩ := clockwork
  obtain ⟨same, rfl, stands⟩ := mirrors
  have skips : Mirrors ⟨⟨machine.skip, timer⟩, generator⟩ ⟨plain.skip, timer⟩ :=
    ⟨congrArg Machine.skip same, rfl, stands⟩
  have opcode : machine.currentOpcode = plain.currentOpcode := by
    show machine.mute.currentOpcode = plain.mute.currentOpcode
    rw [same]
  have executed := execute_of_mirrors ahead skips plain.currentOpcode
  simp only [step, Clockwork.step, Machine.stepAt, Machine.fetch, opcode]
  generalize plain.skip.execute plain.currentOpcode = outcome at executed
  cases outcome with
  | error fault =>
    have failed : execute ahead ⟨⟨machine.skip, timer⟩, generator⟩ plain.currentOpcode =
      .error fault := executed
    rw [failed]
    exact ⟨rfl, skips⟩
  | ok outcome =>
    obtain ⟨flow, left⟩ := outcome
    obtain ⟨⟨⟨machine', timer'⟩, generator'⟩, succeeds, alike, rfl, further⟩ := executed
    rw [succeeds]
    have counted := (machine'.mute_countDown timer' now).symm
    rw [alike, Machine.mute_countDown] at counted
    obtain ⟨machines, timers⟩ := Prod.mk.inj counted
    refine ⟨rfl, machines, timers, ?_⟩
    simp only [Machine.random_countDown]
    exact further

theorem cycle_of_mirrors (mirrors : buffered.Mirrors clockwork) (moments : List Moment) :
    (buffered.cycle ahead moments).1 = (clockwork.cycle moments).1 ∧
      (buffered.cycle ahead moments).2.Mirrors (clockwork.cycle moments).2 := by
  induction moments generalizing buffered clockwork with
  | nil => exact ⟨rfl, mirrors⟩
  | cons now later ih =>
    obtain ⟨flows, further⟩ := step_of_mirrors ahead mirrors now
    rw [cycle, Clockwork.cycle]
    generalize buffered.step ahead now = one at flows further
    generalize clockwork.step now = two at flows further
    obtain ⟨flow, stepped⟩ := one
    obtain ⟨flow', stepped'⟩ := two
    obtain rfl : flow = flow' := flows
    cases flow with
    | error fault => exact ⟨rfl, further⟩
    | ok flow => exact ih further

/-- **An operation finds the same in either machine.** -/
theorem operate_of_mirrors (mirrors : buffered.Mirrors clockwork) (operation : Operation) :
    (buffered.operate ahead operation).1 = (clockwork.operate operation).1 ∧
      (buffered.operate ahead operation).2.Mirrors (clockwork.operate operation).2 := by
  cases operation with
  | execute opcode =>
    have executed := execute_of_mirrors ahead mirrors opcode
    simp only [operate, Clockwork.operate]
    generalize clockwork.machine.execute opcode = outcome at executed
    cases outcome with
    | error fault =>
      have failed : buffered.execute ahead opcode = .error fault := executed
      rw [failed]
      exact ⟨rfl, mirrors⟩
    | ok outcome =>
      obtain ⟨flow, left⟩ := outcome
      obtain ⟨after, succeeds, further⟩ := executed
      rw [succeeds]
      exact ⟨rfl, further⟩
  | step now =>
    obtain ⟨flows, further⟩ := step_of_mirrors ahead mirrors now
    simp only [operate, Clockwork.operate]
    generalize buffered.step ahead now = one at flows further
    generalize clockwork.step now = two at flows further
    obtain ⟨flow, stepped⟩ := one
    obtain ⟨flow', stepped'⟩ := two
    obtain rfl : flow = flow' := flows
    cases flow <;> exact ⟨rfl, further⟩
  | cycle moments =>
    obtain ⟨faults, further⟩ := cycle_of_mirrors ahead mirrors moments
    simp only [operate, Clockwork.operate]
    generalize buffered.cycle ahead moments = one at faults further
    generalize clockwork.cycle moments = two at faults further
    obtain ⟨fault, cycled⟩ := one
    obtain ⟨fault', cycled'⟩ := two
    obtain rfl : fault = fault' := faults
    cases fault <;> exact ⟨rfl, further⟩
  | load program now =>
    obtain ⟨same, timer, stands⟩ := mirrors
    simp only [operate, Clockwork.operate, Machine.load]
    by_cases fits : program.length ≤ programLimit
    · rw [if_pos fits, if_pos fits]
      refine ⟨rfl, ?_, congrArg (·.reset now) timer, stands⟩
      exact congrArg (fun machine : Machine => { machine with
        memory := Machine.fontMemory.load programStart.val program
        stack := CallStack.empty
        display := Display.dark
        counter := programStart }) same
    · rw [if_neg fits, if_neg fits]
      exact ⟨rfl, same, timer, stands⟩
  | fetch =>
    have opcode : buffered.clockwork.machine.currentOpcode = clockwork.machine.currentOpcode := by
      show buffered.clockwork.machine.mute.currentOpcode = clockwork.machine.mute.currentOpcode
      rw [mirrors.machine]
    exact ⟨congrArg Result.fetched opcode, congrArg Machine.skip mirrors.machine, mirrors.timer,
      mirrors.generator⟩
  | countDown =>
    exact ⟨rfl, congrArg Machine.tickTimers mirrors.machine, mirrors.timer, mirrors.generator⟩
  | press event =>
    exact ⟨rfl, congrArg (·.applyKey event) mirrors.machine, mirrors.timer, mirrors.generator⟩

theorem run_of_mirrors (mirrors : buffered.Mirrors clockwork) (operations : List Operation) :
    (buffered.run ahead operations).1 = (clockwork.account operations).map Prod.fst ∧
      (buffered.run ahead operations).2.Mirrors (clockwork.run operations) := by
  induction operations generalizing buffered clockwork with
  | nil => exact ⟨rfl, mirrors⟩
  | cons operation later ih =>
    obtain ⟨result, further⟩ := operate_of_mirrors ahead mirrors operation
    obtain ⟨results, last⟩ := ih further
    rw [Clockwork.account, List.map_cons, Clockwork.run_cons, run]
    exact ⟨congrArg₂ _ result results, last⟩

end Buffered

namespace Clockwork

/-- **Random bytes come in the order of the stream.** Whatever is done with a machine from the
start, the opcodes that ask for a random byte get the low bytes of the words of its seed's stream,
one after another, and nothing else moves the machine along the stream. It does and returns what a
machine does whose generator makes blocks of words, however many it makes at a time. -/
theorem rolls_in_turn (timerMode : TimerMode) (seed : UInt64) (now : Moment)
    (operations : List Operation) (ahead : Nat) :
    let start := new timerMode seed now
    let rolls := start.rolls operations
    (∀ index roll, rolls[index]? = some roll →
        roll.after.v roll.opcode.x =
          (Random.streamWord (Random.keyOfSeed seed) index).toUInt8 &&& roll.opcode.nn) ∧
      (start.run operations).machine.random = ⟨seed, rolls.length⟩ ∧
      let (results, buffered) := (Buffered.new timerMode seed now).run ahead operations
      results = (start.account operations).map Prod.fst ∧
        buffered.Mirrors (start.run operations) ∧
        buffered.generator.Stands seed rolls.length := by
  intro start rolls
  obtain ⟨turns, source⟩ := start.rolls_run operations
  have position : (start.run operations).machine.random = ⟨seed, rolls.length⟩ :=
    source.trans (congrArg _ (Nat.zero_add _))
  obtain ⟨results, mirrors⟩ :=
    Buffered.run_of_mirrors ahead (Buffered.mirrors_new timerMode seed now) operations
  refine ⟨fun index roll found => ?_, position, results, mirrors, ?_⟩
  · have taken := turns index roll found
    rwa [show start.machine.random.position + index = index from Nat.zero_add index] at taken
  · have stands := mirrors.generator
    rwa [position] at stands

/-- A word is used up also if the mask lets nothing through, and a new program does not bring it
back. -/
example :
    ((new .perInstruction 7 0).run
      [.execute ⟨0xC1FF⟩, .load [0xC2, 0x00] 0, .step 1]).machine.random = ⟨7, 2⟩ := by
  decide +kernel

end Clockwork

end Arcade
