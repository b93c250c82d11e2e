/-
**What happened is only noted.**

A registry notes everything that happens to a sink, and nobody who acts on it reads the notes. So
a system with a longer past (`System.recalling`) does what the system does without it.

* `Task.step_recalling`: one task of a call;
* `System.run_recalling`, `System.run_recent`: a whole schedule.
-/

import Arcade.Proofs.Registry.Mirror

namespace Arcade

namespace Registry

/-- The registry with a past before what it has noted. -/
def recalling (past : List Event) (registry : Registry) : Registry :=
  { registry with events := registry.events ++ past }

/-- The registry without what it had noted when its notes had a length. -/
def since (length : Nat) (registry : Registry) : Registry :=
  { registry with events := registry.events.take (registry.events.length - length) }

theorem since_recalling (past : List Event) (registry : Registry) :
    (registry.recalling past).since past.length = registry := by
  simp [since, recalling]

theorem sinkHistory_recalling (past : List Event) (registry : Registry) (sink : SinkId) :
    (registry.recalling past).sinkHistory sink =
      ({ registry with events := past } : Registry).sinkHistory sink ++
        registry.sinkHistory sink := by
  simp [sinkHistory, sinkEvents, recalling]

end Registry

/-- What a task leads to, in a registry with a past. -/
def Progress.recalling (past : List Event) (progress : Progress) : Progress :=
  { progress with registry := progress.registry.recalling past }

section Tasks

open Registry

variable (past : List Event) (registry : Registry)

theorem reap_recalling : (registry.recalling past).reap = registry.reap.recalling past := by
  have forgotten (gone : List (SessionId × WorkerId)) (registry : Registry) :
      gone.foldl (fun kept entry => kept.forget entry.1) (registry.recalling past) =
        (gone.foldl (fun kept entry => kept.forget entry.1) registry).recalling past := by
    induction gone generalizing registry with
    | nil => rfl
    | cons entry rest ih => exact ih (registry.forget entry.1)
  exact congrArg (fun reaped : Registry => reaped.proceed _) (forgotten registry.finished registry)

theorem abandon_recalling (state : SlotState) :
    (registry.recalling past).abandon state = (registry.abandon state).recalling past := by
  cases state <;> rfl

/-- **A task does the same, whatever happened before.** -/
theorem Task.step_recalling (task : Task) (answer : Except SinkError Unit) :
    task.step (registry.recalling past) answer =
      (task.step registry answer).map (Progress.recalling past) := by
  have slot (id : SessionId) : (registry.recalling past).slot? id = registry.slot? id := rfl
  have worker (number : WorkerId) : (registry.recalling past).worker? number =
    registry.worker? number := rfl
  cases task with
  | reap => exact congrArg some (reap_recalling past registry)
  | tell | acknowledge | spawn => cases answer <;> rfl
  | build id rom seed sink =>
    simp only [step, Registry.build]
    cases booted : Machine.boot registry.settings.timerMode seed rom.bytes <;>
      simp only [recalling, booted] <;> rfl
  | rebuild id rom seed =>
    simp only [step, Registry.rebuild]
    cases booted : Machine.boot registry.settings.timerMode seed rom.bytes <;>
      simp only [recalling, booted] <;> rfl
  | reserve launch =>
    have same : (registry.recalling past).refusal? launch.id = registry.refusal? launch.id := rfl
    simp only [step, Registry.reserve, same]
    cases registry.refusal? launch.id <;> rfl
  | withdraw kind id cause =>
    simp only [step, Registry.withdraw, slot]
    cases registry.slot? id with
    | none => rfl
    | some held => simp only [abandon_recalling]; rfl
  | publish id number =>
    simp only [step, Registry.publish, slot]
    cases registry.slot? id with
    | none => rfl
    | some held => simp only [abandon_recalling]; rfl
  | join id number custody =>
    simp only [step, Registry.join, worker]
    cases registry.worker? number with
    | none => rfl
    | some known =>
      obtain ⟨session, sink, phase, joined⟩ := known
      cases phase <;> rfl
  | park id sink purpose =>
    simp only [step, Registry.park, slot]
    cases registry.slot? id with
    | none => cases sink <;> rfl
    | some held => cases sink <;> simp only [abandon_recalling] <;> rfl
  | remove id =>
    simp only [step, Registry.remove, slot]
    cases registry.slot? id <;> rfl
  | unload id purpose =>
    simp only [step, Registry.unload, slot]
    cases registry.slot? id with
    | none => rfl
    | some held =>
      obtain ⟨active, state⟩ := held
      cases state <;> cases purpose <;> rfl
  | take id rom machine =>
    simp only [step, Registry.take, slot]
    cases registry.slot? id with
    | none => rfl
    | some held =>
      obtain ⟨active, state⟩ := held
      cases state <;> rfl
  | seek id steering =>
    simp only [step, Registry.seek, slot]
    cases registry.slot? id with
    | none => rfl
    | some held =>
      obtain ⟨active, state⟩ := held
      cases state <;> rfl
  | steer id number steering =>
    simp only [step, Registry.steer, worker]
    cases registry.worker? number <;> rfl
  | record id event =>
    simp only [step, Registry.record, slot]
    cases registry.slot? id with
    | none => rfl
    | some held =>
      obtain ⟨active, state⟩ := held
      cases state <;> rfl
  | press id number event =>
    simp only [step, Registry.press, worker]
    cases registry.worker? number with
    | none => rfl
    | some known => cases sent : known.session.machine.send event <;> simp only [sent] <;> rfl
  | _ => rfl

theorem work_recalling (number : WorkerId) (reaction : Reaction) :
    (registry.recalling past).work number reaction =
      (registry.work number reaction).recalling past := by
  have worker : (registry.recalling past).worker? number = registry.worker? number := rfl
  simp only [work, worker]
  cases registry.worker? number with
  | none => rfl
  | some known => simp [recalling]

end Tasks

namespace System

/-- The system with a past before what its registry has noted. -/
def recalling (past : List Event) (system : System) : System :=
  { system with registry := system.registry.recalling past }

theorem move_recalling (past : List Event) (system : System) (move : Move) :
    (system.recalling past).move move = (system.move move).recalling past := by
  cases move with
  | begin | wait => rfl
  | work number reaction =>
    exact congrArg (fun registry => (⟨registry, system.flights⟩ : System))
      (work_recalling past system.registry number reaction)
  | proceed number answer =>
    simp only [move, proceed, recalling]
    cases system.flights[number]? with
    | none => rfl
    | some flight =>
      cases next : flight.todo with
      | nil => simp only [next]
      | cons task later =>
        simp only [next, Task.step_recalling]
        cases task.step system.registry answer <;> rfl

/-- **A system does the same, whatever happened before.** -/
theorem run_recalling (past : List Event) (system : System) (schedule : List Move) :
    (system.recalling past).run schedule = (system.run schedule).recalling past := by
  induction schedule generalizing system with
  | nil => rfl
  | cons move rest ih => rw [run_cons, run_cons, move_recalling, ih]

/-- The system without what its registry has noted so far. -/
def recent (system : System) : System :=
  { system with registry := { system.registry with events := [] } }

/-- **Nothing is lost with the past** but the past. -/
theorem run_recent (system : System) (schedule : List Move) :
    system.run schedule = (system.recent.run schedule).recalling system.registry.events :=
  run_recalling system.registry.events system.recent schedule

end System

end Arcade
