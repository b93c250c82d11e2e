/-
**Calls and workers side by side.**

Any number of calls may be in progress while the workers run. A schedule is a list of moves, each
of which lets one call do its next task or one worker make its next step, begins a call, or lets
time pass. Every way in which the calls and workers may be interleaved is a schedule. A move that
is not possible changes nothing.

* `run_append`: schedules are carried out one after the other;
* `table_move_work`: only calls change the table.
-/

import Arcade.Registry.Call

namespace Arcade

/-- A call that was begun. -/
structure Flight where
  call : Call
  /-- What it has to do yet. -/
  todo : List Task
  /-- The latest answer. -/
  reply : Option Reply
  /-- What it noted, the latest first. -/
  notices : List RegistryNotice

/-- Whether a call has returned. -/
def Flight.isOver (flight : Flight) : Bool := flight.todo.isEmpty

/-- The registry and the calls that were begun, in order. -/
structure System where
  registry : Registry
  flights : List Flight

/-- What may happen next. -/
inductive Move where
  /-- A call is begun. -/
  | begin (call : Call)
  /-- A call does its next task; a client that is sent something, or the system that is asked for a
  thread, gives this answer. -/
  | proceed (flight : Nat) (answer : Except SinkError Unit)
  /-- A worker makes its next step; a client that is offered something reacts like this. -/
  | work (worker : WorkerId) (reaction : Reaction)
  /-- Some time passes. -/
  | wait (span : Span)

namespace System

/-- A system without sessions and calls. -/
def new (settings : Settings) : System := ⟨Registry.new settings, []⟩

/-- The system after a call was begun. -/
def begin (system : System) (call : Call) : System where
  registry := { system.registry with sinks := system.registry.sinks + call.sinks }
  flights := system.flights ++ [⟨call, call.tasks system.registry.sinks, none, []⟩]

/-- The system after a call did its next task, if it can. -/
def proceed (system : System) (number : Nat) (answer : Except SinkError Unit) : System :=
  match system.flights[number]? with
  | none => system
  | some flight =>
    match flight.todo with
    | [] => system
    | task :: later =>
      match task.step system.registry answer with
      | none => system
      | some progress =>
        let moved := { flight with
          todo := progress.todo ++ later
          reply := progress.reply <|> flight.reply
          notices := progress.notices.reverse ++ flight.notices }
        ⟨progress.registry, system.flights.set number moved⟩

/-- The system after a move. -/
def move (system : System) : Move → System
  | .begin call => system.begin call
  | .proceed flight answer => system.proceed flight answer
  | .work worker reaction => { system with registry := system.registry.work worker reaction }
  | .wait span =>
    { system with
      registry := { system.registry with now := system.registry.now + span.nanoseconds } }

/-- The system after a schedule. -/
def run (system : System) (schedule : List Move) : System := schedule.foldl move system

/-- Whether no call is in progress. -/
def isQuiet (system : System) : Bool := system.flights.all Flight.isOver

theorem run_nil (system : System) : system.run [] = system := rfl

theorem run_cons (system : System) (first : Move) (rest : List Move) :
    system.run (first :: rest) = (system.move first).run rest := rfl

theorem run_append (system : System) (first second : List Move) :
    system.run (first ++ second) = (system.run first).run second :=
  List.foldl_append

theorem table_move_work (system : System) (worker : WorkerId) (reaction : Reaction) :
    (system.move (.work worker reaction)).registry.table = system.registry.table :=
  system.registry.table_work worker reaction

end System

end Arcade
