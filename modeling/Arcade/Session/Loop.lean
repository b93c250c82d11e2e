/-
**The loop of a session.**

The thread of a session ticks until the session stops, and then gives the sink back. After a tick
that ran it sleeps for what is left of the frame's time, unless the gate closes; after a tick at a
paused gate it waits until the gate is no longer paused. Others act on the gate, on the queue of
parameters and on the machine's own queue meanwhile, between any two steps of the thread, so here a
tick is cut at every place where they can be noticed: `Station` says where the thread is, and `step`
takes it to the next one. `Session.tick` is such steps without anybody in between.

Each step tells the `Event`s that make up the ticks: the gate was found open, a batch began, a
message was sent, the tick ran or stopped the gate.
-/

import Arcade.Session.Basic

namespace Arcade

/-- Where the thread of a session is. -/
inductive Station where
  /-- About to look at the gate. -/
  | checking
  /-- Past the gate and about to run the batch of a frame. -/
  | batching
  /-- About to tell the client of a fault. -/
  | reporting (cause : Fault)
  /-- About to hand a frame over. -/
  | offering (pixels : List UInt8)
  /-- About to stop the gate, after a fault or a frame that was refused. -/
  | halting
  /-- About to look for the next parameter change, after a frame that was taken. -/
  | draining
  /-- Asleep until a moment, or until the gate is no longer running. -/
  | resting (deadline : Moment)
  /-- Asleep until the gate is no longer paused. -/
  | waiting
  /-- Out of the loop and about to let go of the session. -/
  | leaving
  /-- Nowhere; the sink was given back. -/
  | returned
  deriving DecidableEq

/-- A session that is run by a thread. -/
structure Loop (M S : Type) where
  session : Session M
  sink : S
  station : Station

namespace Loop

/-- What may happen next. -/
inductive Act (M : Type) where
  /-- The thread takes a step. -/
  | thread (now : Moment)
  /-- A controller acts on the gate. -/
  | control (control : Gate.Control)
  /-- A message is put into the queue of parameters, if there is room. -/
  | post (message : ParamMessage)
  /-- The machine is reached from outside, as a key event reaches its queue. -/
  | reach (change : M → M)

/-- What is seen of the ticks. -/
inductive Event (M : Type) where
  /-- A tick found the gate running, and its batch is to have a number of instructions. -/
  | opened (cycles : Positive32)
  /-- A machine began a batch of a number of instructions. -/
  | batched (machine : M) (cycles : Positive32)
  /-- A message was sent and answered. -/
  | sent (message : Message) (answer : Except SinkError Unit)
  /-- The tick ended with its frame delivered. -/
  | ran
  /-- The tick ended by stopping the gate. -/
  | halted

variable {M S : Type}

/-- A session whose thread has not taken a step yet. -/
def start (session : Session M) (sink : S) : Loop M S := ⟨session, sink, .checking⟩

/-- When the sleep after a tick that ends now is over. -/
def deadline (session : Session M) (now : Moment) : Moment :=
  now + (session.pacer.remaining now).nanoseconds

/-- The next step of the thread, and what is seen of it. -/
def step [Steppable M] [Sink S] (loop : Loop M S) (now : Moment) : List (Event M) × Loop M S :=
  let session := loop.session
  match loop.station with
  | .checking =>
    match session.gate with
    | .paused => ([], { loop with station := .waiting })
    | .stopped => ([], { loop with station := .leaving })
    | .running =>
      ([.opened session.cyclesPerFrame],
        { loop with
          session := { session with pacer := session.pacer.reset now }
          station := .batching })
  | .batching =>
    let batch := Steppable.cycle session.machine session.cyclesPerFrame.toNat
    ([.batched session.machine session.cyclesPerFrame],
      { loop with
        session := { session with machine := batch.machine }
        station := match batch.fault with
          | some cause => .reporting cause
          | none => .offering (Steppable.display batch.machine).frame })
  | .reporting cause =>
    let (answer, sink) := Sink.send loop.sink (.error cause.message)
    ([.sent (.error cause.message) answer], { loop with sink, station := .halting })
  | .offering pixels =>
    let (answer, sink) := Sink.send loop.sink (.frame pixels)
    ([.sent (.frame pixels) answer],
      { loop with
        sink
        station := match answer with
          | .ok _ => .draining
          | .error _ => .halting })
  | .halting =>
    ([.halted],
      { loop with session := { session with gate := session.gate.stop }, station := .leaving })
  | .draining =>
    match session.params.receive? with
    | none => ([.ran], { loop with station := .resting (deadline session now) })
    | some (.wake, params) =>
      ([.ran],
        { loop with
          session := { session with params }
          station := .resting (deadline session now) })
    | some (.change change, params) =>
      ([], { loop with session := { session with params }.applyChange change })
  | .resting deadline =>
    match session.gate with
    | .stopped => ([], { loop with station := .leaving })
    | .paused => ([], { loop with station := .checking })
    | .running => ([], if deadline ≤ now then { loop with station := .checking } else loop)
  | .waiting =>
    match session.gate with
    | .stopped => ([], { loop with station := .leaving })
    | .paused => ([], loop)
    | .running => ([], { loop with station := .checking })
  | .leaving => ([], { loop with session := session.release, station := .returned })
  | .returned => ([], loop)

/-- The loop after an act, and what is seen of it. -/
def act [Steppable M] [Sink S] (loop : Loop M S) : Act M → List (Event M) × Loop M S
  | .thread now => loop.step now
  | .control control =>
    ([], { loop with
      session := { loop.session with gate := loop.session.gate.control control } })
  | .post message =>
    match loop.session.putParams message with
    | .ok session => ([], { loop with session })
    | .error _ => ([], loop)
  | .reach change =>
    ([], { loop with session := { loop.session with machine := change loop.session.machine } })

/-- The loop after some acts. -/
def run [Steppable M] [Sink S] (loop : Loop M S) (acts : List (Act M)) : Loop M S :=
  acts.foldl (fun loop act => (loop.act act).2) loop

/-- What is seen in the course of some acts. -/
def events [Steppable M] [Sink S] (loop : Loop M S) : List (Act M) → List (Event M)
  | [] => []
  | act :: rest => (loop.act act).1 ++ (loop.act act).2.events rest

section Laws

variable [Steppable M] [Sink S] (loop : Loop M S)

theorem run_append (acts more : List (Act M)) :
    loop.run (acts ++ more) = (loop.run acts).run more := by
  rw [run, List.foldl_append]
  rfl

theorem run_concat (acts : List (Act M)) (act : Act M) :
    loop.run (acts ++ [act]) = ((loop.run acts).act act).2 := by
  rw [run_append]
  rfl

theorem events_append (acts more : List (Act M)) :
    loop.events (acts ++ more) = loop.events acts ++ (loop.run acts).events more := by
  induction acts generalizing loop with
  | nil => rfl
  | cons act rest ih => rw [List.cons_append, events, ih, events, List.append_assoc]; rfl

theorem events_concat (acts : List (Act M)) (act : Act M) :
    loop.events (acts ++ [act]) = loop.events acts ++ ((loop.run acts).act act).1 := by
  rw [events_append, events, events, List.append_nil]

end Laws

end Loop

end Arcade
