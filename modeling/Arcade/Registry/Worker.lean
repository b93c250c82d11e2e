/-
**Workers.**

A worker is the thread that runs a session for its client. It looks at the gate, runs the batch of
a frame, offers the frame to the client, and goes on from the client's answer; when the session
stops it is done and gives the sink back. Each of these is one step, so that others may act in
between. A client may also break the worker off, and then the sink is lost.

* `step_of_finished`: a worker that is done stays as it is.
-/

import Arcade.Console
import Arcade.Session.Basic

namespace Arcade

/-- The number of a sink that was handed to the registry. -/
abbrev SinkId := Nat

/-- What happens to a sink. -/
inductive Delivery where
  /-- The client accepted a message. -/
  | message (message : Message)
  /-- The sink was closed. -/
  | closed
  /-- The sink was given up without being closed. -/
  | dropped
  deriving DecidableEq

/-- What a worker is about to do. -/
inductive Phase where
  /-- To look at the gate. -/
  | ready
  /-- To hand over a frame. -/
  | offering (pixels : List UInt8)
  /-- To tell that the machine failed. -/
  | reporting (cause : Fault)
  /-- Nothing; it gave its sink back. -/
  | ended
  /-- Nothing; it broke off and its sink is lost. -/
  | broken
  deriving DecidableEq

/-- Whether a worker in the phase is done. -/
def Phase.isFinished : Phase → Bool
  | .ended | .broken => true
  | .ready | .offering _ | .reporting _ => false

/-- What a client does when it is offered something. -/
inductive Reaction where
  /-- It accepts or refuses. -/
  | answers (answer : Except SinkError Unit)
  /-- It breaks the worker off. -/
  | breaks

/-- The client accepts. -/
def Reaction.accepts : Reaction := .answers (.ok ())

/-- A session that runs for its client. -/
structure Worker where
  session : Session Console
  sink : SinkId
  phase : Phase
  /-- Whether somebody waited for its end and took what it left. -/
  joined : Bool

namespace Worker

/-- A worker that has not run yet. -/
def new (session : Session Console) (sink : SinkId) : Worker := ⟨session, sink, .ready, false⟩

/-- Whether the worker is done. -/
def isFinished (worker : Worker) : Bool := worker.phase.isFinished

/-- The worker after its session let go of its queues. -/
def release (worker : Worker) (phase : Phase) : Worker :=
  let released := worker.session.release
  { worker with session := { released with machine := released.machine.release }, phase }

/-- What a worker's step leads to. -/
structure Stepped where
  worker : Worker
  /-- What happens to the worker's sink. -/
  deliveries : List Delivery

/-- The deliveries of a message that was answered. -/
def answered (message : Message) : Except SinkError Unit → List Delivery
  | .ok _ => [.message message]
  | .error _ => []

/-- The next step of a worker. -/
def step (worker : Worker) (now : Moment) (reaction : Reaction) : Stepped :=
  match worker.phase, reaction with
  | .ready, _ =>
    match worker.session.begin now with
    | .paused => ⟨worker, []⟩
    | .stopped => ⟨worker.release .ended, []⟩
    | .faulted session cause _ => ⟨{ worker with session, phase := .reporting cause }, []⟩
    | .framed session pixels _ => ⟨{ worker with session, phase := .offering pixels }, []⟩
  | .offering pixels, .answers answer =>
    let (tick, session) := worker.session.concludeFrame answer
    let concluded := { worker with session, phase := .ready }
    match tick with
    | .stopped => ⟨concluded.release .ended, answered (.frame pixels) answer⟩
    | .ran | .paused => ⟨concluded, answered (.frame pixels) answer⟩
  | .reporting cause, .answers answer =>
    let concluded := { worker with session := worker.session.concludeFault }
    ⟨concluded.release .ended, answered (.error cause.message) answer⟩
  | .offering _, .breaks | .reporting _, .breaks => ⟨worker.release .broken, [.dropped]⟩
  | .ended, _ | .broken, _ => ⟨worker, []⟩

theorem step_of_finished (worker : Worker) (now : Moment) (reaction : Reaction)
    (done : worker.isFinished = true) : worker.step now reaction = ⟨worker, []⟩ := by
  unfold isFinished at done
  unfold step
  split <;> simp_all [Phase.isFinished]

end Worker

end Arcade
