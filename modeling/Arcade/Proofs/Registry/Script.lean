/-
**What is done to a session.**

Of all that happens in a schedule, little is done to a given session: calls are made that are about
it, its client and the system answer such calls, and its workers go on. The script of a session says
this and nothing else (`System.script`). It names no number that depends on other sessions: a worker
is known by its place among the session's workers, and the seeds of the machines are left out, since
the caller does not choose them.

A script can be played by a system that has nothing else to do (`System.Plays`). Between two things
that are done to the session, such a system does what needs nobody (`System.silent?`).

* `System.Sheltered`: what is presupposed of a schedule so that the script decides what the session
  does;
* `System.Plays.unique`: a script leads to one state only.
-/

import Arcade.Proofs.Registry.Mirror

namespace Arcade

/-- The call but for the seed of the machine that is built. -/
def Call.seedless : Call → Call
  | .start id rom _ => .start id rom 0
  | .session id (.changeRom rom _) => .session id (.changeRom rom 0)
  | call => call

/-- Whether a task needs somebody's answer, a client's or the system's. -/
def Task.asks : Task → Bool
  | .tell _ _ | .acknowledge _ | .spawn _ => true
  | _ => false

/-- Whether a step of a worker does anything. -/
def Worker.goesOn (worker : Worker) : Bool :=
  match worker.phase, worker.session.gate with
  | .ready, .paused | .ended, _ | .broken, _ => false
  | .ready, _ | .offering _, _ | .reporting _, _ => true

/-- What a worker has of its client's reaction: nothing while it looks at its gate. -/
def Worker.heeded (worker : Worker) (reaction : Reaction) : Reaction :=
  match worker.phase with
  | .ready => .accepts
  | .offering _ | .reporting _ | .ended | .broken => reaction

deriving instance DecidableEq for Reaction

/-- Something that is done to a session. -/
inductive Stimulus where
  /-- A call is made. -/
  | asked (call : Call)
  /-- A call gets an answer. -/
  | answered (answer : Except SinkError Unit)
  /-- The worker at a place among the session's workers goes on. -/
  | granted (place : Nat) (reaction : Reaction)
  deriving DecidableEq

namespace System

/-- What a move does to a session, if it does anything. -/
def stimulus? (id : SessionId) (system : System) : Move → Option Stimulus
  | .begin call => if call.concerns id then some (.asked call.seedless) else none
  | .proceed number answer => do
    let flight ← system.flights[number]?
    let task ← flight.todo.head?
    if flight.call.concerns id && task.asks then some (.answered answer) else none
  | .work number reaction => do
    let worker ← system.registry.worker? number
    if worker.session.id = id && worker.goesOn then
      some (.granted ((places id system.registry.owners).idxOf number) (worker.heeded reaction))
    else none
  | .wait _ => none

/-- What a schedule does to a session, in order. -/
def script (id : SessionId) (system : System) : List Move → List Stimulus
  | [] => []
  | move :: rest => (system.stimulus? id move).toList ++ (system.move move).script id rest

theorem script_concat (id : SessionId) (system : System) (schedule : List Move) (move : Move) :
    system.script id (schedule ++ [move]) =
      system.script id schedule ++ ((system.run schedule).stimulus? id move).toList := by
  induction schedule generalizing system with
  | nil => exact List.append_nil _
  | cons first rest ih =>
    rw [List.cons_append, script, ih, script, List.append_assoc, run_cons]

/-! ### What is presupposed -/

/-- Whether something holds of each move of a schedule and of the system before it. -/
def always (system : System) (holds : System → Move → Bool) : List Move → Bool
  | [] => true
  | move :: rest => holds system move && (system.move move).always holds rest

theorem always_append (system : System) (holds : System → Move → Bool) (first second : List Move) :
    system.always holds (first ++ second) =
      (system.always holds first && (system.run first).always holds second) := by
  induction first generalizing system with
  | nil => rfl
  | cons move rest ih => rw [List.cons_append, always, ih, always, Bool.and_assoc, run_cons]

theorem always_concat {system : System} {holds : System → Move → Bool} {schedule : List Move}
    {move : Move} (kept : system.always holds (schedule ++ [move]) = true) :
    system.always holds schedule = true ∧ holds (system.run schedule) move = true := by
  induction schedule generalizing system with
  | nil => simpa [always, run_nil] using kept
  | cons first rest ih =>
    rw [List.cons_append, always, Bool.and_eq_true] at kept
    obtain ⟨before, after⟩ := ih kept.2
    refine ⟨?_, after⟩
    rw [always, kept.1, before]
    rfl

/-- Whether a move begins no call that stops sessions without naming them. -/
def targets : System → Move → Bool
  | _, .begin .sweep | _, .begin .shutdown => false
  | _, _ => true

/-- Whether a move turns no client of a session away for want of room. -/
def hasRoom (id : SessionId) (system : System) (move : Move) : Bool :=
  match system.task? move with
  | some (.reserve launch) =>
    launch.id ≠ id ||
      match system.registry.refusal? id with
      | some (.capacityReached _) => false
      | _ => true
  | _ => true

/-- Whether a session, if it is registered and runs, has not ended. -/
def lasts (id : SessionId) (system : System) (_ : Move) : Bool :=
  system.registry.finished.all fun entry => entry.1 ≠ id

/-- Whether each call about a session has returned, or waits for somebody: for an answer, or for the
end of a worker. -/
def rests (id : SessionId) (system : System) : Bool :=
  system.flights.all fun flight => !flight.call.concerns id ||
    match flight.todo.head? with
    | none => true
    | some (.join other worker _) => other = id && !system.registry.isFinished worker
    | some task => task.asks

/-- Whether a move lets the workers of a session go on only where no call comes between. -/
def paces (id : SessionId) (system : System) : Move → Bool
  | .work number reaction =>
    (system.stimulus? id (.work number reaction)).isNone || system.rests id
  | .begin _ | .proceed _ _ | .wait _ => true

/-- Whether a move runs no batch of a session that draws random bits. -/
def drawless (id : SessionId) (system : System) : Move → Bool
  | .work number _ => (system.registry.worker? number).all fun worker =>
      worker.session.id ≠ id || !worker.draws
  | .begin _ | .proceed _ _ | .wait _ => true

/-- What is presupposed of a schedule so that a session does what its script says: the calls are
made one after another and none of them stops sessions without naming them, no client of the session
is turned away for want of room, the session does not end of itself, its workers go on where no call
comes between, and its programs draw no random bits. -/
structure Sheltered (system : System) (id : SessionId) (schedule : List Move) : Prop where
  sequential : system.isSequential schedule = true
  targeted : system.always targets schedule = true
  admitted : system.always (hasRoom id) schedule = true
  lasting : system.always (lasts id) schedule = true
  paced : system.always (paces id) schedule = true
  drawless : system.always (drawless id) schedule = true

instance (system : System) (id : SessionId) (schedule : List Move) :
    Decidable (system.Sheltered id schedule) :=
  decidable_of_iff
    (system.isSequential schedule = true ∧ system.always targets schedule = true ∧
      system.always (hasRoom id) schedule = true ∧ system.always (lasts id) schedule = true ∧
      system.always (paces id) schedule = true ∧
      system.always (System.drawless id) schedule = true)
    ⟨fun ⟨sequential, targeted, admitted, lasting, paced, drawless⟩ =>
      ⟨sequential, targeted, admitted, lasting, paced, drawless⟩,
    fun ⟨sequential, targeted, admitted, lasting, paced, drawless⟩ =>
      ⟨sequential, targeted, admitted, lasting, paced, drawless⟩⟩

/-! ### Playing a script -/

/-- The system after its latest call did a task that needs nobody, if there is one. -/
def silent? (system : System) : Option System := do
  let flight ← system.flights.getLast?
  let task ← flight.todo.head?
  if task.asks then none
  else
    let _ ← task.step system.registry (.ok ())
    some (system.proceed (system.flights.length - 1) (.ok ()))

/-- The system after something was done to its session. -/
def undergo (system : System) : Stimulus → System
  | .asked call => system.begin call
  | .answered answer => system.proceed (system.flights.length - 1) answer
  | .granted place reaction => system.move (.work place reaction)

/-- Whether a system gets to another by tasks that need nobody. -/
def Settles (system later : System) : Prop :=
  Relation.ReflTransGen (fun one next => one.silent? = some next) system later

/-- Whether a system gets to another when some things are done to its session, the latest first. It
goes as far as it can by itself before the next one is done. -/
def Plays (system : System) : List Stimulus → System → Prop
  | [], later => system.Settles later
  | stimulus :: earlier, later => ∃ between, system.Plays earlier between ∧
      between.silent? = none ∧ (between.undergo stimulus).Settles later

theorem reverse_toList {α : Type} (value : Option α) : value.toList.reverse = value.toList := by
  cases value <;> rfl

theorem Settles.unique {system one other : System} (first : system.Settles one)
    (second : system.Settles other) (still : one.silent? = none) (also : other.silent? = none) :
    one = other := by
  induction first using Relation.ReflTransGen.head_induction_on with
  | refl =>
    rcases second.cases_head with same | ⟨next, goes, -⟩
    · exact same
    · rw [still] at goes
      cases goes
  | head goes _ ih =>
    rcases second.cases_head with same | ⟨next, here, rest⟩
    · rw [same, also] at goes
      cases goes
    · rw [goes] at here
      cases here
      exact ih rest

/-- **A script leads to one state only**, when everything is done that needs nobody. -/
theorem Plays.unique {system one other : System} {script : List Stimulus}
    (first : system.Plays script one) (second : system.Plays script other)
    (still : one.silent? = none) (also : other.silent? = none) : one = other := by
  induction script generalizing one other with
  | nil => exact Settles.unique first second still also
  | cons stimulus earlier ih =>
    obtain ⟨between, before, quiet, after⟩ := first
    obtain ⟨middle, past, calm, later⟩ := second
    obtain rfl := ih before past quiet calm
    exact after.unique later still also

theorem Settles.reached {system later : System} (settles : system.Settles later) :
    ∃ schedule, later = system.run schedule := by
  induction settles with
  | refl => exact ⟨[], rfl⟩
  | @tail between next _ goes before =>
    obtain ⟨schedule, rfl⟩ := before
    refine ⟨schedule ++ [.proceed ((system.run schedule).flights.length - 1) (.ok ())], ?_⟩
    rw [run_concat]
    simp only [silent?, Option.bind_eq_bind, Option.bind_eq_some_iff] at goes
    obtain ⟨flight, -, task, -, next⟩ := goes
    split at next
    · cases next
    · obtain ⟨_, -, same⟩ := Option.bind_eq_some_iff.mp next
      exact (Option.some.inj same).symm

theorem Plays.reached {system later : System} {script : List Stimulus}
    (plays : system.Plays script later) : ∃ schedule, later = system.run schedule := by
  induction script generalizing later with
  | nil => exact Settles.reached plays
  | cons stimulus earlier ih =>
    obtain ⟨between, before, -, after⟩ := plays
    obtain ⟨schedule, rfl⟩ := ih before
    obtain ⟨more, rfl⟩ := after.reached
    have once : ∃ move,
        (system.run schedule).undergo stimulus = (system.run schedule).move move := by
      cases stimulus with
      | asked call => exact ⟨.begin call, rfl⟩
      | answered answer => exact ⟨.proceed _ answer, rfl⟩
      | granted place reaction => exact ⟨.work place reaction, rfl⟩
    obtain ⟨move, same⟩ := once
    refine ⟨schedule ++ move :: more, ?_⟩
    rw [run_append, run_cons, same]

end System

end Arcade
