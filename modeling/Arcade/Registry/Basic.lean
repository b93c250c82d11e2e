/-
**The registry of sessions.**

The registry knows each session by its name. A registered session has a slot in the table: a
worker runs it, or it is unloaded and the registry keeps its sink, or somebody is about to start
or unload it. Workers and sinks have numbers; a worker stays known after the table has forgotten
it, and everything that happens to a sink is recorded.

The machines of workers have no clock for their timers. Timers of `TimerMode.perInstruction` count
down as the machine runs; those of `TimerMode.realtime` stand still here, as between two beats of
that clock, and what is said of the frames of such a session is said of a machine like that. A
machine together with that clock is a `Clockwork`.

* `workers_work`: a worker's step changes no other worker;
* `table_work`: a worker's step changes nothing in the table.
-/

import Arcade.NameTable
import Arcade.Registry.Worker
import Arcade.Session.Error
import Arcade.Settings.Basic

namespace Arcade

/-- The number of a worker. -/
abbrev WorkerId := Nat

/-- The state of a registered session. -/
inductive SlotState where
  /-- A worker runs it. -/
  | running (worker : WorkerId)
  /-- It has no machine; the sink is kept for a later program. -/
  | unloaded (sink : SinkId)
  /-- Somebody is about to start it or to wait for its worker. -/
  | pending
  deriving DecidableEq

/-- A registered session. -/
structure Slot where
  /-- When the session was last started, or last got input. -/
  lastActive : Moment
  state : SlotState
  deriving DecidableEq

/-- Something that happened to a sink. -/
structure Event where
  sink : SinkId
  delivery : Delivery
  /-- The worker that brought it about, if it was not a call. -/
  worker : Option WorkerId
  deriving DecidableEq

/-- The sessions, those who run them, and what became of their sinks. -/
structure Registry where
  settings : Settings
  now : Moment
  table : NameTable Slot
  workers : List Worker
  /-- How many sinks were handed to the registry. -/
  sinks : Nat
  /-- What happened to the sinks, the latest first. -/
  events : List Event

namespace Registry

/-- A registry without sessions. -/
def new (settings : Settings) : Registry := ⟨settings, 0, NameTable.empty, [], 0, []⟩

/-- The slot of a session, if it is registered. -/
def slot? (registry : Registry) (id : SessionId) : Option Slot := registry.table.lookup? id.name

/-- The registry with a session's slot put in. -/
def putSlot (registry : Registry) (id : SessionId) (slot : Slot) : Registry :=
  { registry with table := registry.table.insert id.name slot }

/-- The registry with a session forgotten. -/
def forget (registry : Registry) (id : SessionId) : Registry :=
  { registry with table := registry.table.erase id.name }

/-- The names of the registered sessions. -/
def ids (registry : Registry) : List SessionId := registry.table.names.map SessionId.mk

/-- The worker of a number. -/
def worker? (registry : Registry) (number : WorkerId) : Option Worker := registry.workers[number]?

/-- Whether the worker of a number is done. -/
def isFinished (registry : Registry) (number : WorkerId) : Bool :=
  match registry.worker? number with
  | some worker => worker.isFinished
  | none => false

/-- Whether a slot's worker is done. -/
def slotFinished (registry : Registry) (slot : Slot) : Bool :=
  match slot.state with
  | .running worker => registry.isFinished worker
  | .unloaded _ | .pending => false

/-- The registry with a worker changed. -/
def modifyWorker (registry : Registry) (number : WorkerId) (change : Worker → Worker) :
    Registry :=
  { registry with workers := registry.workers.modify number change }

/-- The registry with something recorded that a call did to a sink. -/
def deliver (registry : Registry) (sink : SinkId) (delivery : Delivery) : Registry :=
  { registry with events := ⟨sink, delivery, none⟩ :: registry.events }

/-- The events of a sink, in order. -/
def sinkEvents (registry : Registry) (sink : SinkId) : List Event :=
  registry.events.reverse.filter fun event => event.sink == sink

/-- What happened to a sink, in order. -/
def sinkHistory (registry : Registry) (sink : SinkId) : List Delivery :=
  (registry.sinkEvents sink).map Event.delivery

/-- The registry after a worker made a step. -/
def work (registry : Registry) (number : WorkerId) (reaction : Reaction) : Registry :=
  match registry.worker? number with
  | none => registry
  | some worker =>
    let stepped := worker.step registry.now reaction
    let events := stepped.deliveries.map fun delivery => ⟨worker.sink, delivery, some number⟩
    { registry with
      workers := registry.workers.set number stepped.worker
      events := events.reverse ++ registry.events }

theorem table_work (registry : Registry) (number : WorkerId) (reaction : Reaction) :
    (registry.work number reaction).table = registry.table := by
  unfold work
  split <;> rfl

theorem workers_work (registry : Registry) (number other : WorkerId) (reaction : Reaction)
    (different : number ≠ other) :
    (registry.work number reaction).worker? other = registry.worker? other := by
  unfold work
  split
  · rfl
  · simp [worker?, different]

end Registry

end Arcade
