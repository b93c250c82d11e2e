/-
**A session.**

A session drives a machine at a fixed frame rate: a batch of instructions, then one frame for the
client, then the parameter changes that wait. It goes on while its gate is running. A machine that
faults or a client that is gone stops it.

A tick is cut into its parts, so that others may act in between: `begin` checks the gate and runs
the batch, what is to be sent is then offered to the client, and `conclude` goes on from the
client's answer. `tick` puts the parts together.

The only clock of a session is the one that paces its frames. Its machine's timers count down with
the instructions or, in `TimerMode.realtime`, not at all.

* `tick_of_paused` and `tick_of_stopped`: a tick at a closed gate changes nothing.
-/

import Arcade.Channel
import Arcade.Machine.Run
import Arcade.Session.Gate
import Arcade.Sink.Basic
import Arcade.Time

namespace Arcade

/-- What waits in a session's parameter queue. -/
inductive ParamMessage where
  | change (change : ParamChange)
  /-- Wakes the session, so that it notices that its gate was stopped. -/
  | wake
  deriving DecidableEq

/-- A machine that runs for a client. -/
structure Session (M : Type) where
  id : SessionId
  machine : M
  gate : Gate
  params : Channel ParamMessage
  frameRate : Positive32
  cyclesPerFrame : Positive32
  /-- Measures the time of one frame. -/
  pacer : Clock

/-- What a session notes while it runs. -/
inductive SessionNotice where
  | machine (notice : Notice)
  /-- The machine stopped with a fault. -/
  | fault (id : SessionId) (cause : Fault)
  /-- A frame could not be delivered. -/
  | undelivered (id : SessionId) (cause : SinkError)
  deriving DecidableEq

/-- The warning or error that a notice is logged as, if it is one. -/
def SessionNotice.warning? : SessionNotice → Option String
  | .machine noticed => noticed.warning?
  | .fault id cause => some s!"{id.name}: machine fault: {cause.message}"
  | .undelivered id cause =>
    some s!"{id.name}: frame not delivered, stopping: {cause.message}"

namespace Session

variable {M : Type}

/-- A session that has not run yet. -/
def new (id : SessionId) (machine : M) (frameRate cyclesPerFrame : Positive32)
    (paramCapacity : Nat) (now : Moment) : Session M where
  id := id
  machine := machine
  gate := .running
  params := Channel.new paramCapacity
  frameRate := frameRate
  cyclesPerFrame := cyclesPerFrame
  pacer := ⟨now, Span.ofHertz frameRate.toNat⟩

/-! ### Control -/

/-- Pauses a running session; says whether it was running. -/
def pause (session : Session M) : Bool × Session M :=
  (session.gate.pause.1, { session with gate := session.gate.pause.2 })

/-- Sets a paused session running; says whether it was paused. -/
def unpause (session : Session M) : Bool × Session M :=
  (session.gate.unpause.1, { session with gate := session.gate.unpause.2 })

/-- Flips between running and paused; says whether the session is paused afterwards. -/
def toggle (session : Session M) : Bool × Session M :=
  (session.gate.toggle.1, { session with gate := session.gate.toggle.2 })

/-- Queues a parameter message, unless the queue is full. -/
def putParams (session : Session M) (message : ParamMessage) :
    Except SendError (Session M) := do
  let params ← session.params.send message
  return { session with params }

/-- Stops the session for good and wakes it if its queue has room. -/
def stop (session : Session M) : Session M :=
  let stopped := { session with gate := session.gate.stop }
  match stopped.putParams .wake with
  | .ok woken => woken
  | .error _ => stopped

/-- The session after its thread let go of it: its controllers no longer reach it. -/
def release (session : Session M) : Session M :=
  { session with params := session.params.disconnect }

/-! ### Parameters -/

/-- The session with a parameter change carried out. -/
def applyChange (session : Session M) (change : ParamChange) : Session M :=
  let paced := match change.cyclesPerFrame with
    | some cyclesPerFrame => { session with cyclesPerFrame }
    | none => session
  match change.frameRate with
  | some frameRate =>
    { paced with
      frameRate
      pacer := { paced.pacer with period := Span.ofHertz frameRate.toNat } }
  | none => paced

/-- The changes among some messages that come before the first wake, and how many messages are
taken from the queue for them. -/
def changesBeforeWake : List ParamMessage → List ParamChange × Nat
  | [] => ([], 0)
  | .wake :: _ => ([], 1)
  | .change change :: rest =>
    let (changes, taken) := changesBeforeWake rest
    (change :: changes, taken + 1)

/-- Carries out the parameter changes that wait, up to the first wake. -/
def applyParams (session : Session M) : Session M :=
  let (changes, taken) := changesBeforeWake session.params.waiting
  changes.foldl applyChange { session with params := session.params.discard taken }

/-! ### Ticks -/

/-- What comes of the first part of a tick. -/
inductive Begun (M : Type) where
  /-- The gate was paused. -/
  | paused
  /-- The gate was stopped. -/
  | stopped
  /-- The machine faulted; the reason is to be sent. -/
  | faulted (session : Session M) (cause : Fault) (notices : List SessionNotice)
  /-- The batch ran; the frame is to be sent. -/
  | framed (session : Session M) (pixels : List UInt8) (notices : List SessionNotice)

/-- Checks the gate and, if it is open, runs the batch of one frame. -/
def begin [Steppable M] (session : Session M) (now : Moment) : Begun M :=
  match session.gate with
  | .paused => .paused
  | .stopped => .stopped
  | .running =>
    let batch := Steppable.cycle session.machine session.cyclesPerFrame.toNat
    let ran := { session with machine := batch.machine, pacer := session.pacer.reset now }
    let notices := batch.notices.map SessionNotice.machine
    match batch.fault with
    | some cause => .faulted ran cause (notices ++ [.fault session.id cause])
    | none => .framed ran (Steppable.display batch.machine).frame notices

/-- What a tick was. -/
inductive Tick where
  /-- A frame was delivered. -/
  | ran
  | paused
  | stopped
  deriving DecidableEq, Repr

/-- The session after its fault was reported, whether or not the client took the report. -/
def concludeFault (session : Session M) : Session M := { session with gate := session.gate.stop }

/-- The session after the client answered to a frame. -/
def concludeFrame (session : Session M) (answer : Except SinkError Unit) : Tick × Session M :=
  match answer with
  | .ok _ => (.ran, session.applyParams)
  | .error _ => (.stopped, { session with gate := session.gate.stop })

/-- The notices of the client's answer to a frame. -/
def answerNotices (id : SessionId) : Except SinkError Unit → List SessionNotice
  | .ok _ => []
  | .error cause => [.undelivered id cause]

/-- What came of a tick. -/
structure Ticked (M S : Type) where
  tick : Tick
  session : Session M
  sink : S
  notices : List SessionNotice

/-- Runs one frame if the gate is open. -/
def tick {S : Type} [Steppable M] [Sink S] (session : Session M) (sink : S) (now : Moment) :
    Ticked M S :=
  match session.begin now with
  | .paused => ⟨.paused, session, sink, []⟩
  | .stopped => ⟨.stopped, session, sink, []⟩
  | .faulted ran cause notices =>
    let (_, told) := Sink.send sink (.error cause.message)
    ⟨.stopped, ran.concludeFault, told, notices⟩
  | .framed ran pixels notices =>
    let (answer, told) := Sink.send sink (.frame pixels)
    let (tick, concluded) := ran.concludeFrame answer
    ⟨tick, concluded, told, notices ++ answerNotices session.id answer⟩

/-- What came of running a session for a number of ticks at most. -/
structure Finished (S : Type) where
  /-- Whether the session stopped. -/
  stopped : Bool
  sink : S
  notices : List SessionNotice

/-- Ticks until the session stops, a number of ticks at most, and gives the sink back. -/
def runFor {S : Type} [Steppable M] [Sink S] (session : Session M) (sink : S) (now : Moment)
    (noticed : List SessionNotice) : (ticks : Nat) → Finished S
  | 0 => ⟨false, sink, noticed⟩
  | ticks + 1 =>
    let ticked := session.tick sink now
    match ticked.tick with
    | .stopped => ⟨true, ticked.sink, noticed ++ ticked.notices⟩
    | .ran | .paused =>
      ticked.session.runFor ticked.sink now (noticed ++ ticked.notices) ticks

theorem tick_of_paused {S : Type} [Steppable M] [Sink S] (session : Session M) (sink : S)
    (now : Moment) (closed : session.gate = .paused) :
    session.tick sink now = ⟨.paused, session, sink, []⟩ := by
  simp [tick, begin, closed]

theorem tick_of_stopped {S : Type} [Steppable M] [Sink S] (session : Session M) (sink : S)
    (now : Moment) (closed : session.gate = .stopped) :
    session.tick sink now = ⟨.stopped, session, sink, []⟩ := by
  simp [tick, begin, closed]

end Session

end Arcade
