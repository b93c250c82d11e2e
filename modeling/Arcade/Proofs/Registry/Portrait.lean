/-
**Workers that look alike.**

What a client can tell of a session is the session but for the source of random bytes and the start
of its clock (`Session.portrait`). Workers resemble each other if the portraits of their sessions
are the same and they are about to do the same (`Worker.Resembles`). What calls do to them keeps it
so, and so does each step of theirs, whatever the time is, as long as the batches that they run draw
no random bits (`Worker.draws`).

* `Console.cycle_congr`: a batch of a machine behind a queue;
* `Session.portrait_steered`, `Session.portrait_stop`: what calls do to a session;
* `Worker.Resembles.step`: what a worker does.
-/

import Arcade.Proofs.Machine.Draw
import Arcade.Proofs.Registry.Yield

namespace Arcade

namespace Console

/-- The console with a fixed source of random bytes in place of its machine's. -/
def mute (console : Console) : Console := { console with machine := console.machine.mute }

theorem mute_applyAll (machine : Machine) (events : List KeyEvent) :
    (applyAll machine events).mute = applyAll machine.mute events := by
  induction events generalizing machine with
  | nil => rfl
  | cons event rest ih => exact ih _

theorem mute_drain (console : Console) : console.drain.mute = console.mute.drain :=
  congrArg (fun machine => (⟨machine, console.keys.emptied⟩ : Console))
    (mute_applyAll console.machine console.keys.waiting)

theorem mute_send (console : Console) (event : KeyEvent) :
    (console.send event).map mute = console.mute.send event := by
  show (Except.bind (console.keys.send event) _).map mute =
    Except.bind (console.keys.send event) _
  cases console.keys.send event <;> rfl

/-- **Consoles that are the same but for the source of random bytes stay so over a batch that draws
nothing**, and fail alike. -/
theorem cycle_congr {console other : Console} (same : console.mute = other.mute) (count : Nat)
    (still : (console.cycle count).reversedNotices.any Notice.draws = false) :
    (console.cycle count).machine.mute = (other.cycle count).machine.mute ∧
      (console.cycle count).fault = (other.cycle count).fault := by
  have drained : console.drain.mute = other.drain.mute := by
    rw [mute_drain, mute_drain, same]
  have machines : console.drain.machine.mute = other.drain.machine.mute :=
    (congrArg Console.machine drained :)
  have keys : console.drain.keys = other.drain.keys := (congrArg Console.keys drained :)
  have drawless : ∀ notice ∈ (console.drain.machine.cycle count).reversedNotices,
      notice.draws = false := by
    intro notice member
    have all := List.any_eq_false.mp still notice (List.mem_append_left _ member)
    simpa using all
  obtain ⟨ran, faults, -⟩ := Machine.cycle_congr machines count drawless
  refine ⟨?_, faults⟩
  show (⟨(console.drain.machine.cycle count).machine.mute, console.drain.keys⟩ : Console) =
    ⟨(other.drain.machine.cycle count).machine.mute, other.drain.keys⟩
  rw [ran, keys]

end Console

namespace Session

/-- What a client can tell of a session: all but the source of random bytes and the start of the
clock. -/
def portrait (session : Session Console) : Session Console :=
  { session with
    machine := session.machine.mute
    pacer := { session.pacer with start := 0 } }

variable (session : Session Console)

theorem portrait_putParams (message : ParamMessage) :
    (session.putParams message).map portrait = session.portrait.putParams message := by
  show (Except.bind (session.params.send message) _).map portrait =
    Except.bind (session.params.send message) _
  cases session.params.send message <;> rfl

theorem portrait_stop : session.stop.portrait = session.portrait.stop := by
  have sent := portrait_putParams { session with gate := session.gate.stop } .wake
  have same : portrait { session with gate := session.gate.stop } =
    { session.portrait with gate := session.portrait.gate.stop } := rfl
  rw [same] at sent
  unfold stop
  simp only [← sent]
  cases ({ session with gate := session.gate.stop } : Session Console).putParams .wake <;> rfl

theorem portrait_applyChange (change : ParamChange) :
    (session.applyChange change).portrait = session.portrait.applyChange change := by
  unfold applyChange
  cases change.cyclesPerFrame <;> cases change.frameRate <;> rfl

theorem portrait_applyParams : session.applyParams.portrait = session.portrait.applyParams := by
  have kept (changes : List ParamChange) (first : Session Console) :
      (changes.foldl applyChange first).portrait = changes.foldl applyChange first.portrait := by
    induction changes generalizing first with
    | nil => rfl
    | cons change rest ih => rw [List.foldl_cons, ih, portrait_applyChange, List.foldl_cons]
  exact kept _ _

theorem portrait_concludeFrame (answer : Except SinkError Unit) :
    (session.concludeFrame answer).1 = (session.portrait.concludeFrame answer).1 ∧
      (session.concludeFrame answer).2.portrait = (session.portrait.concludeFrame answer).2 := by
  cases answer with
  | ok => exact ⟨rfl, session.portrait_applyParams⟩
  | error => exact ⟨rfl, rfl⟩

open Registry in
/-- Steering does the same to sessions that a client cannot tell apart. -/
theorem portrait_steered (id : SessionId) (steering : Steering) :
    (steered id session steering).1 = (steered id session.portrait steering).1 ∧
      (steered id session steering).2.portrait = (steered id session.portrait steering).2 := by
  cases steering with
  | change change =>
    have sent := session.portrait_putParams (.change change)
    simp only [steered, ← sent]
    cases session.putParams (.change change) <;> exact ⟨rfl, rfl⟩
  | _ => exact ⟨rfl, rfl⟩

/-- The session after the batch of a frame. -/
def ran (session : Session Console) (now : Moment) : Session Console :=
  { session with
    machine := (session.machine.cycle session.cyclesPerFrame.toNat).machine
    pacer := session.pacer.reset now }

/-- What is to be done after the batch of a frame. -/
def ranPhase (session : Session Console) : Phase :=
  let batch := session.machine.cycle session.cyclesPerFrame.toNat
  match batch.fault with
  | some cause => .reporting cause
  | none => .offering batch.machine.machine.display.frame

/-- The batch of a frame does the same to sessions that a client cannot tell apart, if it draws
nothing. -/
theorem ran_congr {first second : Session Console} (same : first.portrait = second.portrait)
    (still : (first.machine.cycle first.cyclesPerFrame.toNat).reversedNotices.any
      Notice.draws = false) (now later : Moment) :
    (first.ran now).portrait = (second.ran later).portrait ∧ first.ranPhase = second.ranPhase := by
  have counts : first.cyclesPerFrame = second.cyclesPerFrame :=
    (congrArg Session.cyclesPerFrame same :)
  obtain ⟨machines, faults⟩ :=
    Console.cycle_congr (congrArg Session.machine same :) first.cyclesPerFrame.toNat still
  rw [counts] at machines faults
  constructor
  · show ({ first.portrait with machine := (first.ran now).machine.mute } : Session Console) =
      { second.portrait with machine := (second.ran later).machine.mute }
    unfold ran
    rw [same, counts, machines]
  · have pictures : _ = _ :=
      congrArg (fun seen : Console => Phase.offering seen.machine.display.frame) machines
    unfold ranPhase
    simp only [counts, faults]
    split
    · rfl
    · exact pictures

end Session

namespace Worker

/-- Whether the batch that a worker is about to run makes use of a random byte. -/
def draws (worker : Worker) : Bool :=
  match worker.phase, worker.session.gate with
  | .ready, .running =>
    (worker.session.machine.cycle worker.session.cyclesPerFrame.toNat).reversedNotices.any
      Notice.draws
  | _, _ => false

/-- Whether clients cannot tell two workers apart, as far as the workers are theirs. -/
structure Resembles (first second : Worker) : Prop where
  session : first.session.portrait = second.session.portrait
  phase : first.phase = second.phase

variable {first second : Worker}

theorem Resembles.of_session (alike : first.Resembles second) {change : Session Console →
    Session Console} (kept : ∀ session, (change session).portrait = (change session.portrait)) :
    Resembles { first with session := change first.session }
      { second with session := change second.session } := by
  refine ⟨?_, alike.phase⟩
  show (change first.session).portrait = (change second.session).portrait
  rw [kept, kept, alike.session]

theorem Resembles.release (alike : first.Resembles second) (phase : Phase) :
    (first.release phase).Resembles (second.release phase) :=
  ⟨congrArg (fun seen : Session Console =>
    { seen.release with machine := seen.release.machine.release }) alike.session, rfl⟩

/-- Who looks at an open gate runs the batch of a frame. -/
theorem step_of_running (turn : first.phase = .ready) (gate : first.session.gate = .running)
    (now : Moment) (reaction : Reaction) :
    first.step now reaction =
      ⟨{ first with session := first.session.ran now, phase := first.session.ranPhase }, []⟩ := by
  obtain ⟨⟨id, console, gate', params, frameRate, cyclesPerFrame, pacer⟩, sink, phase, joined⟩ :=
    first
  cases turn
  cases gate
  unfold Session.ranPhase
  simp only [Worker.step, Session.begin, Session.ran, Steppable.cycle, Steppable.display]
  cases (console.cycle cyclesPerFrame.toNat).fault <;> rfl

theorem Resembles.run (alike : first.Resembles second) (still : first.draws = false)
    (turn : first.phase = .ready) (gate : first.session.gate = .running) (now later : Moment)
    (reaction : Reaction) :
    (first.step now reaction).worker.Resembles (second.step later reaction).worker ∧
      (first.step now reaction).deliveries = (second.step later reaction).deliveries := by
  have turns : second.phase = .ready := alike.phase ▸ turn
  have gates : second.session.gate = .running := by
    rw [← gate]
    exact (congrArg Session.gate alike.session.symm :)
  have drawless : (first.session.machine.cycle
      first.session.cyclesPerFrame.toNat).reversedNotices.any Notice.draws = false := by
    rwa [draws, turn, gate] at still
  obtain ⟨ran, phases⟩ := Session.ran_congr alike.session drawless now later
  rw [first.step_of_running turn gate, second.step_of_running turns gates]
  exact ⟨⟨ran, phases⟩, rfl⟩

/-- **Workers that resemble each other do so after a step**, and deliver the same. -/
theorem Resembles.step (alike : first.Resembles second) (still : first.draws = false)
    (now later : Moment) (reaction : Reaction) :
    (first.step now reaction).worker.Resembles (second.step later reaction).worker ∧
      (first.step now reaction).deliveries = (second.step later reaction).deliveries := by
  have phases := alike.phase
  cases turn : first.phase with
  | ready =>
    have gates : first.session.gate = second.session.gate :=
      (congrArg Session.gate alike.session :)
    cases gate : first.session.gate with
    | running => exact alike.run still turn gate now later reaction
    | paused =>
      simp only [Worker.step, turn, ← phases, Session.begin, gate, ← gates]
      exact ⟨alike, trivial⟩
    | stopped =>
      simp only [Worker.step, turn, ← phases, Session.begin, gate, ← gates]
      exact ⟨alike.release .ended, trivial⟩
  | offering pixels =>
    cases reaction with
    | answers answer =>
      obtain ⟨ticks, concluded⟩ := first.session.portrait_concludeFrame answer
      obtain ⟨others, also⟩ := second.session.portrait_concludeFrame answer
      rw [alike.session, ← also] at concluded
      rw [alike.session, ← others] at ticks
      have next : Resembles
          { first with session := (first.session.concludeFrame answer).2, phase := .ready }
          { second with session := (second.session.concludeFrame answer).2, phase := .ready } :=
        ⟨concluded, rfl⟩
      simp only [Worker.step, turn, ← phases, ← ticks]
      cases (first.session.concludeFrame answer).1 with
      | stopped => exact ⟨next.release .ended, rfl⟩
      | ran | paused => exact ⟨next, rfl⟩
    | breaks =>
      simp only [Worker.step, turn, ← phases]
      exact ⟨alike.release .broken, trivial⟩
  | reporting cause =>
    cases reaction with
    | answers answer =>
      have concluded : Resembles { first with session := first.session.concludeFault }
          { second with session := second.session.concludeFault } :=
        ⟨(congrArg Session.concludeFault alike.session :), alike.phase⟩
      simp only [Worker.step, turn, ← phases]
      exact ⟨(concluded.release .ended :), trivial⟩
    | breaks =>
      simp only [Worker.step, turn, ← phases]
      exact ⟨alike.release .broken, trivial⟩
  | ended | broken =>
    simp only [Worker.step, turn, ← phases]
    exact ⟨alike, trivial⟩

end Worker

end Arcade
