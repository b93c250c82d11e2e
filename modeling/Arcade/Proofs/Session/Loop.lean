/-
**A session's loop keeps to its gate.**

The thread of a session looks at the gate once in a tick and again in its two sleeps, and
controllers act on the gate, on the parameters and on the machine's queue at any time in between.
What the thread can do in a step is listed once, in `Turn`; all else is read off that list.

* `Machine.instructions_cycle`, `Console.instructions_cycle`: a batch that does not fail executes as
  many instructions as it was to have;
* `run_undisturbed`: without anybody in between, the thread does the ticks of `Session.tick`;
* `course_run`: what is seen of a run are whole ticks, and the part of a tick that is underway;
* `works_run`: the session's machine comes by the batches that are seen, and by nothing else that the
  thread does;
* `subsides_run`: while the gate is closed, only the tick that is underway goes on;
* `obeys_gate`: these and what they mean for the sink, for every interleaving.
-/

import Arcade.Proofs.Session.Host
import Arcade.Session.Loop
import Mathlib.Data.List.Induction
import Mathlib.Logic.Relation

namespace Arcade

/-! ### The oldest value of a channel -/

namespace Channel

variable {α : Type} (channel : Channel α)

theorem receive?_nil (waiting : channel.waiting = []) : channel.receive? = none := by
  unfold receive?
  split
  · rfl
  · rename_i content
    rw [waiting] at content
    cases content

theorem receive?_cons {value : α} {rest : List α} (waiting : channel.waiting = value :: rest) :
    channel.receive? = some (value, channel.discard 1) := by
  unfold receive? discard
  split
  · rename_i content
    rw [waiting] at content
    cases content
  · rename_i content
    rw [waiting] at content
    cases content
    simp [waiting]

end Channel

/-! ### Batches -/

/-- Whether a notice is of an opcode that a machine came by. -/
def Notice.isInstruction : Notice → Bool
  | .input _ => false
  | .executed _ _ _ | .unsupported _ _ => true

/-- How many instructions a batch executed. -/
def Batch.instructions {M : Type} (batch : Batch M) : Nat :=
  batch.reversedNotices.countP Notice.isInstruction

/-- A machine whose batches have as many instructions as they are to have, unless they fail. -/
class CountsSteps (M : Type) [Steppable M] : Prop where
  instructions_cycle : ∀ (machine : M) (count : Nat), (Steppable.cycle machine count).fault = none →
    (Steppable.cycle machine count).instructions = count

theorem Machine.isInstruction_notice (machine : Machine) (opcode : Opcode) :
    (machine.notice opcode).isInstruction = true := by
  unfold notice
  split <;> rfl

theorem Machine.instructions_cycle (machine : Machine) (count : Nat)
    (fine : (machine.cycle count).fault = none) : (machine.cycle count).instructions = count := by
  induction count generalizing machine with
  | zero => rfl
  | succ count ih =>
    have noticed : machine.step.notice.isInstruction = true := by
      unfold step fetch
      simp only
      split <;> exact isInstruction_notice _ _
    rw [cycle_succ] at fine ⊢
    cases flow : machine.step.flow with
    | error fault => rw [flow] at fine; cases fine
    | ok worked =>
      rw [flow] at fine
      have rest := ih machine.step.machine fine
      unfold Batch.instructions at rest ⊢
      simp only
      rw [List.countP_append, rest, List.countP_singleton, noticed]
      rfl

theorem Console.instructions_cycle (console : Console) (count : Nat)
    (fine : (console.cycle count).fault = none) : (console.cycle count).instructions = count := by
  have keys : console.drainNotices.reverse.countP Notice.isInstruction = 0 := by
    rw [List.countP_reverse, List.countP_eq_zero]
    intro notice member
    obtain ⟨event, -, rfl⟩ := List.mem_map.mp member
    exact Bool.false_ne_true
  have batch := console.drain.machine.instructions_cycle count fine
  unfold Batch.instructions at batch ⊢
  show (_ ++ console.drainNotices.reverse).countP Notice.isInstruction = count
  rw [List.countP_append, keys, Nat.add_zero, batch]

instance : CountsSteps Machine := ⟨Machine.instructions_cycle⟩

instance : CountsSteps Console := ⟨Console.instructions_cycle⟩

namespace Loop

variable {M S : Type}

/-! ### What is seen -/

/-- The message that an event is the sending of. -/
def Event.message? : Event M → Option Message
  | .sent message _ => some message
  | .opened _ | .batched _ _ | .ran | .halted => none

/-- Whether an event is the begin of a batch. -/
def Event.isBatch : Event M → Bool
  | .batched _ _ => true
  | .opened _ | .sent _ _ | .ran | .halted => false

/-- How many batches began. -/
def batches (events : List (Event M)) : Nat := events.countP Event.isBatch

/-- How many messages were sent. -/
def messages (events : List (Event M)) : Nat := events.countP (·.message?.isSome)

/-- A sink that is sent the messages of some events, and answers as they say, becomes another. It is
never closed. -/
inductive Carries [Sink S] : S → List (Event M) → S → Prop where
  | nil (sink : S) : Carries sink [] sink
  | sent (sink : S) (message : Message) {rest : List (Event M)} {after : S}
      (later : Carries (Sink.send sink message).2 rest after) :
      Carries sink (.sent message (Sink.send sink message).1 :: rest) after
  | quiet {sink : S} {event : Event M} (silent : event.message? = none) {rest : List (Event M)}
      {after : S} (later : Carries sink rest after) : Carries sink (event :: rest) after

theorem Carries.trans [Sink S] {one two three : S} {events more : List (Event M)}
    (first : Carries one events two) (second : Carries two more three) :
    Carries one (events ++ more) three := by
  induction first with
  | nil sink => exact second
  | sent sink message later ih => exact .sent sink message (ih second)
  | quiet silent later ih => exact .quiet silent (ih second)

/-- What happens to a machine in a run: what is seen of the ticks, and what is done to it from
outside. -/
inductive Deed (M : Type) where
  | seen (event : Event M)
  | reached (change : M → M)

/-- What is seen, if a deed is of the ticks. -/
def Deed.event? : Deed M → Option (Event M)
  | .seen event => some event
  | .reached _ => none

/-- What an act does to the machine from outside. -/
def Act.deeds : Act M → List (Deed M)
  | .reach change => [.reached change]
  | .thread _ | .control _ | .post _ => []

/-- What happens to the machine in the course of some acts. -/
def deeds [Steppable M] [Sink S] (loop : Loop M S) : List (Act M) → List (Deed M)
  | [] => []
  | act :: rest => (loop.act act).1.map .seen ++ act.deeds ++ (loop.act act).2.deeds rest

/-- A machine that runs the batches of some deeds, each of which begins with the machine that it has
come to be, and is changed from outside as they say, becomes another. All else that is seen leaves
it as it is. -/
inductive Works [Steppable M] : M → List (Deed M) → M → Prop where
  | nil (machine : M) : Works machine [] machine
  | batch (machine : M) (cycles : Positive32) {rest : List (Deed M)} {after : M}
      (later : Works (Steppable.cycle machine cycles.toNat).machine rest after) :
      Works machine (.seen (.batched machine cycles) :: rest) after
  | quiet {machine : M} {event : Event M} (still : event.isBatch = false)
      {rest : List (Deed M)} {after : M} (later : Works machine rest after) :
      Works machine (.seen event :: rest) after
  | reach (machine : M) (change : M → M) {rest : List (Deed M)} {after : M}
      (later : Works (change machine) rest after) :
      Works machine (.reached change :: rest) after

theorem Works.trans [Steppable M] {one two three : M} {deeds more : List (Deed M)}
    (first : Works one deeds two) (second : Works two more three) :
    Works one (deeds ++ more) three := by
  induction first with
  | nil machine => exact second
  | batch machine cycles later ih => exact .batch machine cycles (ih second)
  | quiet still later ih => exact .quiet still (ih second)
  | reach machine change later ih => exact .reach machine change (ih second)

/-- The frame after a machine's batch. -/
def picture [Steppable M] (machine : M) (cycles : Positive32) : Message :=
  .frame (Steppable.display (Steppable.cycle machine cycles.toNat).machine).frame

/-- The events of a whole tick that passed the gate. -/
inductive Whole [Steppable M] : List (Event M) → Prop where
  /-- The batch ran with all its instructions and its frame was delivered. -/
  | ran (machine : M) (cycles : Positive32)
      (fine : (Steppable.cycle machine cycles.toNat).fault = none)
      (counted : (Steppable.cycle machine cycles.toNat).instructions = cycles.toNat) :
      Whole [.opened cycles, .batched machine cycles, .sent (picture machine cycles) (.ok ()), .ran]
  /-- The batch ran, but its frame was refused. -/
  | refused (machine : M) (cycles : Positive32) (reason : SinkError)
      (fine : (Steppable.cycle machine cycles.toNat).fault = none) :
      Whole [.opened cycles, .batched machine cycles,
        .sent (picture machine cycles) (.error reason), .halted]
  /-- The machine faulted, and whatever the client answered to the report, the gate was stopped. -/
  | faulted (machine : M) (cycles : Positive32) (cause : Fault) (answer : Except SinkError Unit)
      (fault : (Steppable.cycle machine cycles.toNat).fault = some cause) :
      Whole [.opened cycles, .batched machine cycles, .sent (.error cause.message) answer, .halted]

end Loop

/-- Whether no tick is underway at a station. -/
def Station.IsIdle : Station → Prop
  | .checking | .resting _ | .waiting | .leaving | .returned => True
  | .batching | .reporting _ | .offering _ | .halting | .draining => False

/-- How many batches are still to begin in the tick that is underway. -/
def Station.batchesLeft : Station → Nat
  | .batching => 1
  | .checking | .reporting _ | .offering _ | .halting | .draining | .resting _ | .waiting | .leaving
  | .returned => 0

/-- How many messages are still to be sent in the tick that is underway. -/
def Station.messagesLeft : Station → Nat
  | .batching | .reporting _ | .offering _ => 1
  | .checking | .halting | .draining | .resting _ | .waiting | .leaving | .returned => 0

theorem Station.batchesLeft_le_one (station : Station) : station.batchesLeft ≤ 1 := by
  unfold batchesLeft
  split <;> omega

theorem Station.messagesLeft_le_one (station : Station) : station.messagesLeft ≤ 1 := by
  unfold messagesLeft
  split <;> omega

namespace Loop

variable {M S : Type} [Steppable M] [Sink S]

/-- The events so far of the tick that is underway. -/
inductive Underway (loop : Loop M S) : List (Event M) → Prop where
  | idle (here : loop.station.IsIdle) : Underway loop []
  | opened (here : loop.station = .batching) : Underway loop [.opened loop.session.cyclesPerFrame]
  | faulted (machine : M) (cycles : Positive32) (cause : Fault)
      (here : loop.station = .reporting cause)
      (fault : (Steppable.cycle machine cycles.toNat).fault = some cause) :
      Underway loop [.opened cycles, .batched machine cycles]
  | framed (machine : M) (cycles : Positive32) {pixels : List UInt8}
      (here : loop.station = .offering pixels) (shown : .frame pixels = picture machine cycles)
      (fine : (Steppable.cycle machine cycles.toNat).fault = none) :
      Underway loop [.opened cycles, .batched machine cycles]
  | reported (machine : M) (cycles : Positive32) (cause : Fault) (answer : Except SinkError Unit)
      (here : loop.station = .halting)
      (fault : (Steppable.cycle machine cycles.toNat).fault = some cause) :
      Underway loop [.opened cycles, .batched machine cycles, .sent (.error cause.message) answer]
  | refused (machine : M) (cycles : Positive32) (reason : SinkError)
      (here : loop.station = .halting)
      (fine : (Steppable.cycle machine cycles.toNat).fault = none) :
      Underway loop [.opened cycles, .batched machine cycles,
        .sent (picture machine cycles) (.error reason)]
  | delivered (machine : M) (cycles : Positive32) (here : loop.station = .draining)
      (fine : (Steppable.cycle machine cycles.toNat).fault = none) :
      Underway loop [.opened cycles, .batched machine cycles,
        .sent (picture machine cycles) (.ok ())]

/-- What is seen from some moment on is at most the rest of the tick that is underway then: no gate
is found open, at most one batch begins and at most one message is sent, and nothing at all is seen
if no tick is underway. -/
structure Subsides (loop : Loop M S) (events : List (Event M)) : Prop where
  shut : ∀ cycles, .opened cycles ∉ events
  batches_le : batches events ≤ 1
  messages_le : messages events ≤ 1
  nothing : loop.station.IsIdle → events = []

/-! ### One step -/

/-- What a step of the thread makes of the machine: the batch that it begins is of the session's
machine and has the session's number of instructions, and leaves the machine as it does; a step that
begins no batch leaves the machine as it is. -/
inductive Drives (loop : Loop M S) : List (Event M) → M → Prop where
  | batch : Drives loop [.batched loop.session.machine loop.session.cyclesPerFrame]
      (Steppable.cycle loop.session.machine loop.session.cyclesPerFrame.toNat).machine
  | still {events : List (Event M)} (batchless : ∀ event ∈ events, event.isBatch = false) :
      Drives loop events loop.session.machine

/-- What the thread may do in a step. -/
inductive Turn (loop : Loop M S) : List (Event M) → Loop M S → Prop where
  /-- It goes on to look at the gate, to sleep or to leave, or stays where it is. -/
  | move (station : Station) (here : loop.station.IsIdle) (there : station.IsIdle)
      (closed : station = .leaving ∨ station = .returned →
        loop.session.gate = .stopped ∨ station = loop.station) :
      Turn loop [] { loop with station }
  | leave (here : loop.station = .leaving) :
      Turn loop [] { loop with session := loop.session.release, station := .returned }
  | enter (now : Moment) (here : loop.station = .checking)
      (running : loop.session.gate = .running) :
      Turn loop [.opened loop.session.cyclesPerFrame]
        { loop with
          session := { loop.session with pacer := loop.session.pacer.reset now }
          station := .batching }
  | batch (here : loop.station = .batching) (station : Station)
      (there : (∃ cause, station = .reporting cause ∧ (Steppable.cycle loop.session.machine
            loop.session.cyclesPerFrame.toNat).fault = some cause) ∨
        ∃ pixels, station = .offering pixels ∧
          .frame pixels = picture loop.session.machine loop.session.cyclesPerFrame ∧
          (Steppable.cycle loop.session.machine loop.session.cyclesPerFrame.toNat).fault = none) :
      Turn loop [.batched loop.session.machine loop.session.cyclesPerFrame]
        { loop with
          session := { loop.session with
            machine := (Steppable.cycle loop.session.machine
              loop.session.cyclesPerFrame.toNat).machine }
          station }
  | report (cause : Fault) (here : loop.station = .reporting cause) :
      Turn loop [.sent (.error cause.message) (Sink.send loop.sink (.error cause.message)).1]
        { loop with
          sink := (Sink.send loop.sink (.error cause.message)).2
          station := .halting }
  | offer (pixels : List UInt8) (here : loop.station = .offering pixels) (station : Station)
      (there : (station = .draining ∧ (Sink.send loop.sink (.frame pixels)).1 = .ok ()) ∨
        (station = .halting ∧ ∃ reason,
          (Sink.send loop.sink (.frame pixels)).1 = .error reason)) :
      Turn loop [.sent (.frame pixels) (Sink.send loop.sink (.frame pixels)).1]
        { loop with sink := (Sink.send loop.sink (.frame pixels)).2, station }
  | halt (here : loop.station = .halting) :
      Turn loop [.halted]
        { loop with
          session := { loop.session with gate := .stopped }
          station := .leaving }
  | change (change : ParamChange) (params : Channel ParamMessage)
      (here : loop.station = .draining) :
      Turn loop []
        { loop with
          session := { loop.session with params }.applyChange change
          station := .draining }
  | rest (params : Channel ParamMessage) (deadline : Moment) (here : loop.station = .draining) :
      Turn loop [.ran]
        { loop with session := { loop.session with params }, station := .resting deadline }

/-- **Every step of the thread is one of the list.** -/
theorem turn_step (loop : Loop M S) (now : Moment) :
    loop.Turn (loop.step now).1 (loop.step now).2 := by
  -- a move within the idle stations, which only a stopped gate takes out of the loop
  have stays (station : Station) (idle : loop.station.IsIdle) (there : station.IsIdle)
      (inside : station ≠ .leaving ∧ station ≠ .returned) :
      loop.Turn [] { loop with station } :=
    .move station idle there fun left => (left.elim inside.1 inside.2).elim
  unfold step
  cases here : loop.station with
  | checking =>
    have idle : loop.station.IsIdle := by rw [here]; trivial
    simp only
    split
    · exact stays .waiting idle trivial ⟨nofun, nofun⟩
    · rename_i gate
      exact .move .leaving idle trivial fun _ => .inl gate
    · rename_i gate
      exact .enter now here gate
  | batching =>
    refine .batch here _ ?_
    cases fault : (Steppable.cycle loop.session.machine
      loop.session.cyclesPerFrame.toNat).fault with
    | some cause => exact .inl ⟨cause, rfl, rfl⟩
    | none => exact .inr ⟨_, rfl, rfl, rfl⟩
  | reporting cause => exact .report cause here
  | offering pixels =>
    refine .offer pixels here _ ?_
    cases (Sink.send loop.sink (.frame pixels)).1 with
    | ok taken => exact .inl ⟨rfl, rfl⟩
    | error reason => exact .inr ⟨rfl, reason, rfl⟩
  | halting => exact .halt here
  | draining =>
    simp only
    split
    · exact .rest loop.session.params (deadline loop.session now) here
    · rename_i params _
      exact .rest params (deadline loop.session now) here
    · rename_i change params _
      exact .change change params here
  | resting moment =>
    have idle : loop.station.IsIdle := by rw [here]; trivial
    simp only
    split
    · rename_i gate
      exact .move .leaving idle trivial fun _ => .inl gate
    · exact stays .checking idle trivial ⟨nofun, nofun⟩
    · split
      · exact stays .checking idle trivial ⟨nofun, nofun⟩
      · exact stays loop.station idle idle (by rw [here]; exact ⟨nofun, nofun⟩)
  | waiting =>
    have idle : loop.station.IsIdle := by rw [here]; trivial
    simp only
    split
    · rename_i gate
      exact .move .leaving idle trivial fun _ => .inl gate
    · exact stays loop.station idle idle (by rw [here]; exact ⟨nofun, nofun⟩)
    · exact stays .checking idle trivial ⟨nofun, nofun⟩
  | leaving => exact .leave here
  | returned =>
    have idle : loop.station.IsIdle := by rw [here]; trivial
    exact .move loop.station idle idle fun _ => .inr rfl

variable {loop next : Loop M S} {events : List (Event M)}

/-- The thread leaves the gate as it is, but for the stop at the end of a tick. -/
theorem Turn.gate_eq (turn : loop.Turn events next) :
    next.session.gate = loop.session.gate ∧ .halted ∉ events ∨
      next.session.gate = .stopped ∧ events = [.halted] := by
  cases turn with
  | halt => exact .inr ⟨rfl, rfl⟩
  | change change params here =>
    exact .inl ⟨({ loop.session with params }.applyChange_eq change).2.1, nofun⟩
  | _ => exact .inl ⟨rfl, by simp⟩

/-- The sink is used for what is sent, and for nothing else. -/
theorem Turn.carries (turn : loop.Turn events next) : Carries loop.sink events next.sink := by
  cases turn with
  | report cause here => exact .sent loop.sink _ (.nil _)
  | offer pixels here station there => exact .sent loop.sink _ (.nil _)
  | move | leave | change => exact .nil loop.sink
  | enter | batch | halt | rest => exact .quiet rfl (.nil loop.sink)

/-- The machine runs the batch that begins, and nothing else changes it. -/
theorem Turn.drives (turn : loop.Turn events next) : loop.Drives events next.session.machine := by
  cases turn with
  | batch => exact .batch
  | change change params here =>
    have kept := ({ loop.session with params }.applyChange_eq change).1
    show loop.Drives [] ({ loop.session with params }.applyChange change).machine
    rw [kept]
    exact .still nofun
  | move | leave => exact .still nofun
  | enter | report | offer | halt | rest => exact .still (by simp [Event.isBatch])

omit [Sink S] in
/-- What the thread makes of the machine is what is seen of its step. -/
theorem Drives.works {machine : M} (driven : loop.Drives events machine) :
    Works loop.session.machine (events.map .seen) machine := by
  cases driven with
  | batch => exact .batch _ _ (.nil _)
  | still batchless =>
    induction events with
    | nil => exact .nil _
    | cons event rest ih =>
      exact .quiet (batchless event List.mem_cons_self)
        (ih fun event member => batchless event (List.mem_cons_of_mem _ member))

/-- The thread leaves the loop only when the gate was stopped. -/
theorem Turn.stopped_of_left (turn : loop.Turn events next)
    (before : loop.station = .leaving ∨ loop.station = .returned → loop.session.gate = .stopped)
    (left : next.station = .leaving ∨ next.station = .returned) :
    next.session.gate = .stopped := by
  cases turn with
  | move station here there closed =>
    rcases closed left with stopped | same
    · exact stopped
    · subst same
      exact before left
  | leave here => exact before (.inl here)
  | halt => rfl
  | batch here station there =>
    rcases there with ⟨cause, rfl, -⟩ | ⟨pixels, rfl, -⟩ <;> simp at left
  | offer pixels here station there =>
    rcases there with ⟨rfl, -⟩ | ⟨rfl, -⟩ <;> simp at left
  | enter | report | change | rest => simp at left

/-- While the gate is closed a step uses up what is left of the tick that is underway. -/
theorem Turn.wanes (turn : loop.Turn events next) (closed : loop.session.gate ≠ .running) :
    (∀ cycles, .opened cycles ∉ events) ∧
      batches events + next.station.batchesLeft ≤ loop.station.batchesLeft ∧
      messages events + next.station.messagesLeft ≤ loop.station.messagesLeft ∧
      (loop.station.IsIdle → events = [] ∧ next.station.IsIdle) := by
  cases turn with
  | move station here there =>
    have nothing : ∀ {station : Station}, station.IsIdle →
        station.batchesLeft = 0 ∧ station.messagesLeft = 0 := by
      intro station idle
      cases station <;> first | exact ⟨rfl, rfl⟩ | exact idle.elim
    obtain ⟨batchless, messageless⟩ := nothing there
    refine ⟨nofun, ?_, ?_, fun _ => ⟨rfl, there⟩⟩
    · rw [batchless]
      exact Nat.zero_le _
    · rw [messageless]
      exact Nat.zero_le _
  | leave here => exact ⟨nofun, Nat.zero_le _, Nat.zero_le _, fun _ => ⟨rfl, trivial⟩⟩
  | enter now here running => exact absurd running closed
  | batch here station there =>
    rw [here]
    refine ⟨by simp, ?_, ?_, False.elim⟩
    all_goals rcases there with ⟨cause, rfl, -⟩ | ⟨pixels, rfl, -⟩ <;> exact Nat.le_refl 1
  | report cause here =>
    rw [here]
    exact ⟨by simp, Nat.le_refl 0, Nat.le_refl 1, False.elim⟩
  | offer pixels here station there =>
    rw [here]
    refine ⟨by simp, ?_, ?_, False.elim⟩
    · rcases there with ⟨rfl, -⟩ | ⟨rfl, -⟩ <;> exact Nat.le_refl 0
    · rcases there with ⟨rfl, -⟩ | ⟨rfl, -⟩ <;> exact Nat.le_refl 1
  | halt here | change _ _ here | rest _ _ here =>
    rw [here]
    exact ⟨by simp, Nat.le_refl 0, Nat.le_refl 0, False.elim⟩

omit [Sink S] in
/-- The tick that is underway depends on where the thread is, and on the speed. -/
theorem Underway.of_same {rest : List (Event M)} (underway : loop.Underway rest)
    (station : next.station = loop.station)
    (speed : next.session.cyclesPerFrame = loop.session.cyclesPerFrame) : next.Underway rest := by
  cases underway with
  | idle here => exact .idle (station ▸ here)
  | opened here => exact speed ▸ .opened (station.trans here)
  | faulted machine cycles cause here fault =>
    exact .faulted machine cycles cause (station.trans here) fault
  | framed machine cycles here shown fine =>
    exact .framed machine cycles (station.trans here) shown fine
  | reported machine cycles cause answer here fault =>
    exact .reported machine cycles cause answer (station.trans here) fault
  | refused machine cycles reason here fine =>
    exact .refused machine cycles reason (station.trans here) fine
  | delivered machine cycles here fine => exact .delivered machine cycles (station.trans here) fine

/-- **A step goes on with the tick that is underway, or ends it.** -/
theorem Turn.course [CountsSteps M] {rest : List (Event M)} (turn : loop.Turn events next)
    (underway : loop.Underway rest) :
    next.Underway (rest ++ events) ∨ Whole (rest ++ events) ∧ next.Underway [] := by
  cases turn with
  | move station here there =>
    have nothing : rest = [] := by cases underway <;> simp_all [Station.IsIdle]
    subst nothing
    exact .inl (.idle there)
  | leave here =>
    have nothing : rest = [] := by cases underway <;> simp_all
    subst nothing
    exact .inl (.idle trivial)
  | enter now here running =>
    have nothing : rest = [] := by cases underway <;> simp_all
    subst nothing
    exact .inl (.opened rfl)
  | batch here station there =>
    have opened : rest = [.opened loop.session.cyclesPerFrame] := by
      cases underway <;> simp_all [Station.IsIdle]
    subst opened
    rcases there with ⟨cause, rfl, fault⟩ | ⟨pixels, rfl, shown, fine⟩
    · exact .inl (.faulted loop.session.machine loop.session.cyclesPerFrame cause rfl fault)
    · exact .inl (.framed loop.session.machine loop.session.cyclesPerFrame rfl shown fine)
  | report cause here =>
    cases underway with
    | faulted machine cycles other there fault =>
      cases here.symm.trans there
      exact .inl (.reported machine cycles cause _ rfl fault)
    | idle | opened | framed | reported | refused | delivered => simp_all [Station.IsIdle]
  | offer pixels here station answered =>
    cases underway with
    | framed machine cycles there shown fine =>
      cases here.symm.trans there
      rw [shown] at answered ⊢
      rcases answered with ⟨rfl, taken⟩ | ⟨rfl, reason, refused⟩
      · rw [taken]
        exact .inl (.delivered machine cycles rfl fine)
      · rw [refused]
        exact .inl (.refused machine cycles reason rfl fine)
    | idle | opened | faulted | reported | refused | delivered => simp_all [Station.IsIdle]
  | halt here =>
    refine .inr ⟨?_, .idle trivial⟩
    cases underway with
    | reported machine cycles cause answer there fault =>
      exact .faulted machine cycles cause answer fault
    | refused machine cycles reason there fine => exact .refused machine cycles reason fine
    | idle | opened | faulted | framed | delivered => simp_all [Station.IsIdle]
  | change change params here =>
    rw [List.append_nil]
    cases underway with
    | delivered machine cycles there fine => exact .inl (.delivered machine cycles rfl fine)
    | idle | opened | faulted | framed | reported | refused => simp_all [Station.IsIdle]
  | rest params deadline here =>
    refine .inr ⟨?_, .idle trivial⟩
    cases underway with
    | delivered machine cycles there fine =>
      exact .ran machine cycles fine (CountsSteps.instructions_cycle machine _ fine)
    | idle | opened | faulted | framed | reported | refused => simp_all [Station.IsIdle]

/-! ### One act -/

/-- Whether an act may open a paused gate. -/
def Act.Reopens : Act M → Prop
  | .control .unpause | .control .toggle => True
  | .control .pause | .control .stop | .thread _ | .post _ | .reach _ => False

/-- Whatever happens, a stopped gate stays stopped. -/
theorem act_stopped (act : Act M) (stopped : loop.session.gate = .stopped) :
    (loop.act act).2.session.gate = .stopped := by
  cases act with
  | thread now =>
    rcases (loop.turn_step now).gate_eq with ⟨kept, -⟩ | ⟨halted, -⟩
    · exact kept.trans stopped
    · exact halted
  | control control =>
    show loop.session.gate.control control = .stopped
    rw [stopped]
    exact Gate.stopped_of_stopped control
  | post message =>
    simp only [Loop.act, Session.putParams, bind, Except.bind]
    cases loop.session.params.send message <;> exact stopped
  | reach change => exact stopped

/-- A closed gate stays closed as long as nobody opens it. -/
theorem act_closed (act : Act M) (closed : loop.session.gate ≠ .running)
    (tame : loop.session.gate = .stopped ∨ ¬ act.Reopens) :
    (loop.act act).2.session.gate ≠ .running := by
  rcases tame with stopped | tame
  · rw [act_stopped act stopped]
    decide
  cases act with
  | thread now =>
    show (loop.step now).2.session.gate ≠ .running
    rcases (loop.turn_step now).gate_eq with ⟨kept, -⟩ | ⟨halted, -⟩
    · rw [kept]
      exact closed
    · rw [halted]
      decide
  | control control =>
    show loop.session.gate.control control ≠ .running
    cases control with
    | pause =>
      show (loop.session.gate.shift .running .paused).2 ≠ .running
      unfold Gate.shift
      rw [if_neg closed]
      exact closed
    | stop => exact nofun
    | unpause | toggle => exact absurd trivial tame
  | post message =>
    simp only [Loop.act, Session.putParams, bind, Except.bind]
    cases loop.session.params.send message <;> exact closed
  | reach change => exact closed

/-- An act is a step of the thread, or it is nothing that the ticks show. -/
theorem act_cases (loop : Loop M S) (act : Act M) :
    loop.Turn (loop.act act).1 (loop.act act).2 ∨
      (loop.act act).1 = [] ∧ (loop.act act).2.station = loop.station ∧
        (loop.act act).2.sink = loop.sink ∧
        (loop.act act).2.session.cyclesPerFrame = loop.session.cyclesPerFrame := by
  cases act with
  | thread now => exact .inl (loop.turn_step now)
  | control control => exact .inr ⟨rfl, rfl, rfl, rfl⟩
  | reach change => exact .inr ⟨rfl, rfl, rfl, rfl⟩
  | post message =>
    right
    simp only [Loop.act, Session.putParams, bind, Except.bind]
    cases loop.session.params.send message <;> exact ⟨rfl, rfl, rfl, rfl⟩

/-- An act comes to what it shows and what it does from outside. -/
theorem works_act (loop : Loop M S) (act : Act M) :
    Works loop.session.machine ((loop.act act).1.map .seen ++ act.deeds)
      (loop.act act).2.session.machine := by
  cases act with
  | thread now =>
    rw [Act.deeds, List.append_nil]
    exact (loop.turn_step now).drives.works
  | control control => exact .nil _
  | reach change => exact .reach _ change (.nil _)
  | post message =>
    simp only [Loop.act, Session.putParams, bind, Except.bind]
    cases loop.session.params.send message <;> exact .nil _

/-! ### A run -/

/-- **A stopped gate stays stopped.** -/
theorem run_stopped (acts : List (Act M)) (stopped : loop.session.gate = .stopped) :
    (loop.run acts).session.gate = .stopped := by
  induction acts generalizing loop with
  | nil => exact stopped
  | cons act rest ih => exact ih (act_stopped act stopped)

/-- **While the gate is closed, only the tick that is underway goes on.** -/
theorem subsides_run (acts : List (Act M)) (closed : loop.session.gate ≠ .running)
    (tame : loop.session.gate = .stopped ∨ ∀ act ∈ acts, ¬ act.Reopens) :
    loop.Subsides (loop.events acts) := by
  have wanes : (∀ cycles, .opened cycles ∉ loop.events acts) ∧
      batches (loop.events acts) ≤ loop.station.batchesLeft ∧
      messages (loop.events acts) ≤ loop.station.messagesLeft ∧
      (loop.station.IsIdle → loop.events acts = []) := by
    induction acts generalizing loop with
    | nil => exact ⟨nofun, Nat.zero_le _, Nat.zero_le _, fun _ => rfl⟩
    | cons act rest ih =>
      obtain ⟨shut, batches, messages, idle⟩ := ih
        (act_closed act closed (tame.imp id fun tame => tame act List.mem_cons_self))
        (tame.imp (act_stopped act) fun tame later member =>
          tame later (List.mem_cons_of_mem _ member))
      rw [events]
      rcases loop.act_cases act with turn | ⟨nothing, station, -⟩
      · obtain ⟨shutNow, batchesNow, messagesNow, idleNow⟩ := turn.wanes closed
        refine ⟨fun cycles member => ?_, ?_, ?_, fun here => ?_⟩
        · rcases List.mem_append.mp member with member | member
          · exact shutNow cycles member
          · exact shut cycles member
        · unfold Loop.batches at *
          rw [List.countP_append]
          omega
        · unfold Loop.messages at *
          rw [List.countP_append]
          omega
        · rw [(idleNow here).1, idle (idleNow here).2]
          rfl
      · rw [nothing, List.nil_append]
        exact station ▸ ⟨shut, batches, messages, idle⟩
  obtain ⟨shut, batches, messages, nothing⟩ := wanes
  exact ⟨shut, Nat.le_trans batches loop.station.batchesLeft_le_one,
    Nat.le_trans messages loop.station.messagesLeft_le_one, nothing⟩

/-- What is seen is what the sink was sent. -/
theorem carries_run (loop : Loop M S) (acts : List (Act M)) :
    Carries loop.sink (loop.events acts) (loop.run acts).sink := by
  induction acts generalizing loop with
  | nil => exact .nil _
  | cons act rest ih =>
    refine Carries.trans ?_ (ih (loop.act act).2)
    rcases loop.act_cases act with turn | ⟨nothing, -, sink, -⟩
    · exact turn.carries
    · rw [nothing, sink]
      exact .nil _

/-- **The session's machine runs the batches that are seen**, and only what reaches it from outside
changes it otherwise. -/
theorem works_run (loop : Loop M S) (acts : List (Act M)) :
    Works loop.session.machine (loop.deeds acts) (loop.run acts).session.machine := by
  induction acts generalizing loop with
  | nil => exact .nil _
  | cons act rest ih => exact (loop.works_act act).trans (ih (loop.act act).2)

/-- Deeds leave nothing out of what is seen. -/
theorem filterMap_deeds (loop : Loop M S) (acts : List (Act M)) :
    (loop.deeds acts).filterMap Deed.event? = loop.events acts := by
  have own (act : Act M) : act.deeds.filterMap Deed.event? = [] := by
    cases act <;> rfl
  have seen (events : List (Event M)) : (events.map Deed.seen).filterMap Deed.event? = events := by
    rw [List.filterMap_map]
    exact List.filterMap_some
  induction acts generalizing loop with
  | nil => rfl
  | cons act rest ih =>
    rw [deeds, events, List.filterMap_append, List.filterMap_append, own, seen, ih,
      List.append_nil]

section Course

variable (session : Session M) (sink : S) (acts : List (Act M))

/-- **What is seen of a run** are whole ticks, and the part of a tick that is underway. -/
theorem course_run [CountsSteps M] :
    ∃ (ticks : List (List (Event M))) (rest : List (Event M)), (∀ tick ∈ ticks, Whole tick) ∧
      ((start session sink).run acts).Underway rest ∧
      (start session sink).events acts = ticks.flatten ++ rest := by
  induction acts using List.reverseRecOn with
  | nil => exact ⟨[], [], nofun, .idle trivial, rfl⟩
  | append_singleton acts act ih =>
    obtain ⟨ticks, rest, whole, underway, seen⟩ := ih
    rw [run_concat, events_concat, seen]
    rcases ((start session sink).run acts).act_cases act with turn | ⟨nothing, station, -, speed⟩
    · rcases turn.course underway with underway | ⟨ended, idle⟩
      · exact ⟨ticks, _, whole, underway, List.append_assoc _ _ _⟩
      · refine ⟨ticks ++ [rest ++ (((start session sink).run acts).act act).1], [],
          fun tick member => ?_, idle, ?_⟩
        · rcases List.mem_append.mp member with member | member
          · exact whole tick member
          · rw [List.mem_singleton.mp member]
            exact ended
        · rw [List.flatten_append, List.flatten_singleton, List.append_nil, List.append_assoc]
    · refine ⟨ticks, rest, whole, underway.of_same station speed, ?_⟩
      rw [nothing, List.append_nil]

/-- A tick that stopped the gate did so. -/
theorem stopped_of_halted (halted : .halted ∈ (start session sink).events acts) :
    ((start session sink).run acts).session.gate = .stopped := by
  induction acts using List.reverseRecOn with
  | nil => cases halted
  | append_singleton acts act ih =>
    rw [run_concat]
    rw [events_concat] at halted
    rcases List.mem_append.mp halted with earlier | now
    · exact act_stopped act (ih earlier)
    · rcases ((start session sink).run acts).act_cases act with turn | ⟨nothing, -⟩
      · rcases turn.gate_eq with ⟨-, running⟩ | ⟨stopped, -⟩
        · exact absurd now running
        · exact stopped
      · rw [nothing] at now
        cases now

/-- The thread is out of the loop only when the gate was stopped. -/
theorem stopped_of_left (left : ((start session sink).run acts).station = .leaving ∨
      ((start session sink).run acts).station = .returned) :
    ((start session sink).run acts).session.gate = .stopped := by
  induction acts using List.reverseRecOn with
  | nil => rcases left with left | left <;> cases left
  | append_singleton acts act ih =>
    rw [run_concat] at left ⊢
    rcases ((start session sink).run acts).act_cases act with turn | ⟨-, station, -⟩
    · exact turn.stopped_of_left ih left
    · rw [station] at left
      exact act_stopped act (ih left)

end Course

/-! ### A thread that is left alone -/

/-- Whether the thread comes from one state to another at a moment, without anybody in between. -/
def Alone (now : Moment) : Loop M S → Loop M S → Prop :=
  Relation.ReflTransGen fun loop next => (loop.step now).2 = next

/-- Where the thread is after a tick. -/
def afterTick (session : Session M) (now : Moment) : Session.Tick → Station
  | .ran => .resting (deadline session now)
  | .paused => .waiting
  | .stopped => .leaving

omit [Steppable M] in
/-- A change is carried out in the same way whatever waits in the queue. -/
theorem applyChange_params (session : Session M) (change : ParamChange)
    (params : Channel ParamMessage) :
    { session with params }.applyChange change =
      { session.applyChange change with params } := by
  unfold Session.applyChange
  cases change.cyclesPerFrame <;> cases change.frameRate <;> rfl

omit [Steppable M] in
/-- Carrying out the changes that wait begins with the oldest one. -/
theorem applyParams_change (session : Session M) {change : ParamChange} {rest : List ParamMessage}
    (waiting : session.params.waiting = .change change :: rest) :
    session.applyParams =
      ({ session with params := session.params.discard 1 }.applyChange change).applyParams := by
  have tail : (session.params.discard 1).waiting = rest := by
    show session.params.waiting.drop 1 = rest
    rw [waiting]
    rfl
  have later (count : Nat) :
      (session.params.discard 1).discard count = session.params.discard (count + 1) := by
    unfold Channel.discard
    simp only [List.drop_drop, Nat.add_comm]
  rw [applyChange_params]
  unfold Session.applyParams
  rw [waiting, tail]
  show ((_ : ParamChange) :: _).foldl Session.applyChange _ = _
  rw [List.foldl_cons, applyChange_params]
  simp only [later]

/-- Taking one change after the other comes to carrying out all that wait up to the first wake. -/
theorem alone_drain (now : Moment) (session : Session M) (sink : S) :
    Alone now ⟨session, sink, .draining⟩
      ⟨session.applyParams, sink, .resting (deadline session.applyParams now)⟩ := by
  induction waiting : session.params.waiting generalizing session with
  | nil =>
    have same : session.applyParams = session := by
      unfold Session.applyParams
      rw [waiting]
      rfl
    refine Relation.ReflTransGen.single ?_
    rw [same, step]
    simp only [session.params.receive?_nil waiting]
  | cons message rest ih =>
    have taken := session.params.receive?_cons waiting
    cases message with
    | wake =>
      have woken : session.applyParams = { session with params := session.params.discard 1 } := by
        unfold Session.applyParams
        rw [waiting]
        rfl
      refine Relation.ReflTransGen.single ?_
      rw [woken, step]
      simp only [taken]
      rfl
    | change change =>
      rw [applyParams_change session waiting]
      have onward := ih
        ({ session with params := session.params.discard 1 }.applyChange change) (by
          rw [applyChange_params]
          show session.params.waiting.drop 1 = rest
          rw [waiting]
          rfl)
      refine Relation.ReflTransGen.head ?_ onward
      rw [step]
      simp only [taken]

/-- **Without anybody in between, the thread does a tick.** -/
theorem run_undisturbed (now : Moment) (session : Session M) (sink : S) :
    Alone now (start session sink)
      ⟨(session.tick sink now).session, (session.tick sink now).sink,
        afterTick (session.tick sink now).session now (session.tick sink now).tick⟩ := by
  obtain ⟨id, machine, gate, params, frameRate, cycles, pacer⟩ := session
  cases gate with
  | paused | stopped => exact Relation.ReflTransGen.single rfl
  | running =>
    refine Relation.ReflTransGen.head rfl ?_
    simp only [Session.tick, Session.begin, start]
    cases fault : (Steppable.cycle machine cycles.toNat).fault with
    | some cause =>
      refine Relation.ReflTransGen.head rfl ?_
      simp only [step, fault]
      refine Relation.ReflTransGen.head rfl ?_
      exact Relation.ReflTransGen.single rfl
    | none =>
      refine Relation.ReflTransGen.head rfl ?_
      simp only [step, fault]
      refine Relation.ReflTransGen.head rfl ?_
      simp only
      cases (Sink.send sink (.frame
        (Steppable.display (Steppable.cycle machine cycles.toNat).machine).frame)).1 with
      | ok taken => exact alone_drain now _ _
      | error reason => exact Relation.ReflTransGen.single rfl

/-! ### The gate and the loop -/

/-- **A session's loop keeps to its gate**, however controllers act while its thread runs. A stopped
gate stays stopped. Once the gate was stopped, or was paused and is not opened again, only the tick
that is underway goes on: at most one batch begins and one message is sent. What is seen of a run
are whole ticks, each of which delivers its one frame after all instructions of its batch, or is the
last because its frame was refused or its machine faulted and the client was told so. A tick that
does not find the gate running changes nothing. The thread gives the sink back only when the gate
was stopped, and until then nothing was done to the sink but sending it what is seen.

The batches are those of the session's machine: each begins with the machine as it stands and has
the instructions that the session then has for a frame, the machine is afterwards what the batch
made of it, and no other step of the thread changes it. So the machine has come from the one that it
was at first by the batches that are seen and by what reached it from outside. With nobody in
between, the thread's steps are the tick of the session. -/
theorem obeys_gate [CountsSteps M] (session : Session M) (sink : S) (acts : List (Act M)) :
    let loop := (start session sink).run acts
    (loop.session.gate = .stopped → ∀ more,
      (loop.run more).session.gate = .stopped ∧ loop.Subsides (loop.events more)) ∧
    (loop.session.gate = .paused → ∀ more, (∀ act ∈ more, ¬ act.Reopens) →
      loop.Subsides (loop.events more)) ∧
    (∃ (ticks : List (List (Event M))) (rest : List (Event M)), (∀ tick ∈ ticks, Whole tick) ∧
      loop.Underway rest ∧ (start session sink).events acts = ticks.flatten ++ rest) ∧
    (.halted ∈ (start session sink).events acts → loop.session.gate = .stopped) ∧
    (loop.station = .checking → loop.session.gate ≠ .running → ∀ now,
      (loop.step now).1 = [] ∧ (loop.step now).2.session = loop.session ∧
        (loop.step now).2.sink = loop.sink ∧ (loop.step now).2.station.IsIdle) ∧
    (loop.station = .returned → loop.session.gate = .stopped) ∧
    Carries sink ((start session sink).events acts) loop.sink ∧
    (∀ now, loop.Drives (loop.step now).1 (loop.step now).2.session.machine) ∧
    Works session.machine ((start session sink).deeds acts) loop.session.machine ∧
    ((start session sink).deeds acts).filterMap Deed.event? = (start session sink).events acts ∧
    (loop.station = .checking → ∀ now,
      Alone now loop ⟨(loop.session.tick loop.sink now).session,
        (loop.session.tick loop.sink now).sink,
        afterTick (loop.session.tick loop.sink now).session now
          (loop.session.tick loop.sink now).tick⟩) := by
  intro loop
  refine ⟨fun stopped more => ⟨run_stopped more stopped, ?_⟩, fun paused more tame => ?_,
    course_run session sink acts, stopped_of_halted session sink acts,
    fun here closed now => ?_, fun left => stopped_of_left session sink acts (.inr left),
    carries_run (start session sink) acts, fun now => (loop.turn_step now).drives,
    works_run (start session sink) acts, filterMap_deeds (start session sink) acts,
    fun here now => ?_⟩
  · exact subsides_run more (by rw [stopped]; decide) (.inl stopped)
  · exact subsides_run more (by rw [paused]; decide) (.inr tame)
  · unfold step
    rw [here]
    simp only
    split
    · exact ⟨rfl, rfl, rfl, trivial⟩
    · exact ⟨rfl, rfl, rfl, trivial⟩
    · rename_i running
      exact absurd running closed
  · have undisturbed := run_undisturbed now loop.session loop.sink
    rw [start, ← here] at undisturbed
    exact undisturbed

/-- A stop right after the gate was found open: the batch may still begin and its frame be sent. It
is the batch of the machine as it was left, and of one instruction. -/
theorem obeys_gate_late :
    let console := Console.new (Machine.new .perInstruction 0) 4
    let once : Positive32 := ⟨1, by decide, by decide⟩
    let session : Session Console := Session.new ⟨"s"⟩ console once once 4 0
    let loop := (start session Mailbox.empty).run [.thread 0, .control .pause, .control .stop]
    loop.session.gate = .stopped ∧ loop.station = .batching ∧
      (∀ more, (loop.run more).session.gate = .stopped ∧ loop.Subsides (loop.events more)) ∧
      (loop.step 0).1 = [.batched console once] ∧
      loop.Drives [.batched console once] (loop.step 0).2.session.machine := by
  intro console once session loop
  obtain ⟨stopped, -, -, -, -, -, -, driven, -⟩ := obeys_gate session Mailbox.empty
    [.thread 0, .control .pause, .control .stop]
  exact ⟨rfl, rfl, stopped rfl, rfl, driven 0⟩

end Loop

end Arcade
