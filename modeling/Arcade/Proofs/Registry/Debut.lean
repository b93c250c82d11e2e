/-
**The debut of a program.**

A program has its debut when its client is told that it starts. Whatever was before, its session
has no worker yet, and the client's sink is the only one that it has. Of what comes later, only
this is done to the session: calls are made that are about it, somebody answers them, and its new
workers go on (`Debut.script`). Workers that the session had before have to do with other sinks, or
they are done (`Debut.Passed`).

* `Debut.Passed.step`: what has become of the calls and workers that were before;
* `Registry.Mirrors.reaped`: looking for sessions that have ended keeps a registry a mirror.
-/

import Arcade.Proofs.Registry.Echo
import Arcade.Proofs.Registry.Recall
import Arcade.Proofs.Registry.Tidying

namespace Arcade

/-- What had been before a program had its debut, and the sink of the program's client. -/
structure Debut where
  /-- How many calls had been begun, with the one that launches the program. -/
  calls : Nat
  /-- How many workers had been set going. -/
  workers : Nat
  /-- How many sinks had been handed in. -/
  sinks : Nat
  /-- How much had happened to the sinks. -/
  events : Nat
  client : SinkId

/-- The debut of a program that is about to be announced to its client. -/
def System.debut (system : System) (client : SinkId) : Debut where
  calls := system.flights.length
  workers := system.registry.workers.length
  sinks := system.registry.sinks
  events := system.registry.events.length
  client := client

namespace Debut

variable (debut : Debut) (id : SessionId)

/-- Whether a sink is the client's, or was handed in later. -/
def has (sink : SinkId) : Bool := sink = debut.client || debut.sinks ≤ sink

/-- The session's workers since the debut, and the sinks of its clients since then. -/
def roster (registry : Registry) (ids : List SessionId) : Roster where
  workers := (places id registry.owners).filter fun number => debut.workers ≤ number
  sinks := (places id ids).filter debut.has
  workers_nodup := (nodup_places _ _).filter _
  sinks_nodup := (nodup_places _ _).filter _

/-- The session's workers and sinks in a system, since the debut. -/
def staff (system : System) : Roster := debut.roster id system.registry system.startIds

/-! ### What is done to the session -/

/-- What a move does to the session since the debut, if it does anything. -/
def stimulus? (system : System) : Move → Option Stimulus
  | .begin call => some (.asked call.seedless)
  | .proceed number answer => do
    let flight ← system.flights[number]?
    let task ← flight.todo.head?
    if debut.calls ≤ number && task.asks then some (.answered answer) else none
  | .work number reaction => do
    let worker ← system.registry.worker? number
    if number ∈ (debut.staff id system).workers && worker.goesOn then
      some (.granted ((debut.staff id system).workers.idxOf number) (worker.heeded reaction))
    else none
  | .wait _ => none

/-- What a schedule does to the session since the debut, in order. -/
def script (system : System) : List Move → List Stimulus
  | [] => []
  | move :: rest => (debut.stimulus? id system move).toList ++ script (system.move move) rest

theorem script_append (system : System) (schedule more : List Move) :
    debut.script id system (schedule ++ more) =
      debut.script id system schedule ++ debut.script id (system.run schedule) more := by
  induction schedule generalizing system with
  | nil => rfl
  | cons first rest ih =>
    rw [List.cons_append, script, ih, script, List.append_assoc, System.run_cons]

theorem script_concat (system : System) (schedule : List Move) (move : Move) :
    debut.script id system (schedule ++ [move]) =
      debut.script id system schedule ++
        (debut.stimulus? id (system.run schedule) move).toList := by
  rw [script_append, script, script, List.append_nil]

/-- Whether each call since the debut has returned, or waits for somebody: for an answer, or for
the end of a worker. -/
def rests (system : System) : Bool :=
  (system.flights.drop debut.calls).all fun flight =>
    match flight.todo.head? with
    | none => true
    | some (.join other worker _) => other = id && !system.registry.isFinished worker
    | some task => task.asks

/-- Whether a move lets the session's workers go on only where no call comes between. -/
def paces (system : System) : Move → Bool
  | .work number reaction =>
    (debut.stimulus? id system (.work number reaction)).isNone || debut.rests id system
  | .begin _ | .proceed _ _ | .wait _ => true

/-- Whether a move runs no batch of the session that draws random bits. -/
def drawless (system : System) : Move → Bool
  | .work number _ => (system.registry.worker? number).all fun worker =>
      number ∉ (debut.staff id system).workers || !worker.draws
  | .begin _ | .proceed _ _ | .wait _ => true

/-- Whether a move begins no call but one on the session. -/
def addresses : Move → Bool
  | .begin call => call.concerns id
  | .proceed _ _ | .work _ _ | .wait _ => true

/-- What is presupposed of a schedule since a debut: the calls are made on the session, one after
another, its workers go on where no call comes between, and its programs draw no random bits. -/
structure Sheltered (system : System) (schedule : List Move) : Prop where
  sequential : system.isSequential schedule = true
  addressed : schedule.all (addresses id) = true
  paced : system.always (debut.paces id) schedule = true
  drawless : system.always (debut.drawless id) schedule = true

instance (system : System) (schedule : List Move) :
    Decidable (debut.Sheltered id system schedule) :=
  decidable_of_iff
    (system.isSequential schedule = true ∧ schedule.all (addresses id) = true ∧
      system.always (debut.paces id) schedule = true ∧
      system.always (debut.drawless id) schedule = true)
    ⟨fun ⟨sequential, addressed, paced, drawless⟩ => ⟨sequential, addressed, paced, drawless⟩,
    fun ⟨sequential, addressed, paced, drawless⟩ => ⟨sequential, addressed, paced, drawless⟩⟩

end Debut

/-! ### What had happened before -/

section Recent

variable {debut : Debut} {id : SessionId} {system : System} {past : List Event}

theorem System.always_recalling {holds : System → Move → Bool}
    (same : ∀ system move, holds (system.recalling past) move = holds system move)
    (schedule : List Move) :
    (system.recalling past).always holds schedule = system.always holds schedule := by
  induction schedule generalizing system with
  | nil => rfl
  | cons move rest ih => rw [always, always, same, System.move_recalling, ih]

theorem System.isSequential_recalling (schedule : List Move) :
    (system.recalling past).isSequential schedule = system.isSequential schedule := by
  induction schedule generalizing system with
  | nil => rfl
  | cons move rest ih =>
    have same : (system.recalling past).inTurn move = system.inTurn move := by cases move <;> rfl
    rw [isSequential, isSequential, same, System.move_recalling, ih]

theorem Debut.stimulus?_recalling (move : Move) :
    debut.stimulus? id (system.recalling past) move = debut.stimulus? id system move := by
  cases move <;> rfl

theorem Debut.script_recalling (schedule : List Move) :
    debut.script id (system.recalling past) schedule = debut.script id system schedule := by
  induction schedule generalizing system with
  | nil => rfl
  | cons move rest ih => rw [script, script, stimulus?_recalling, System.move_recalling, ih]

/-- What is presupposed of a schedule does not depend on what had happened before. -/
theorem Debut.Sheltered.of_recalling {schedule : List Move}
    (sheltered : debut.Sheltered id (system.recalling past) schedule) :
    debut.Sheltered id system schedule where
  sequential := (System.isSequential_recalling schedule).symm.trans sheltered.sequential
  addressed := sheltered.addressed
  paced := (System.always_recalling (fun _ move => by cases move <;> rfl) schedule).symm.trans
    sheltered.paced
  drawless := (System.always_recalling (fun _ move => by cases move <;> rfl) schedule).symm.trans
    sheltered.drawless

end Recent

/-! ### Rosters -/

namespace Debut

variable {debut : Debut} {id : SessionId} {registry after : Registry} {ids later : List SessionId}

theorem mem_workers {number : WorkerId} : number ∈ (debut.roster id registry ids).workers ↔
    IsWorkerOf registry.standings id number ∧ debut.workers ≤ number := by
  rw [roster, List.mem_filter, Registry.mem_places_owners, decide_eq_true_iff]

theorem mem_sinks {sink : SinkId} : sink ∈ (debut.roster id registry ids).sinks ↔
    ids[sink]? = some id ∧ debut.has sink = true := by
  rw [roster, List.mem_filter, mem_places]

theorem roster_congr (same : after.owners = registry.owners) :
    debut.roster id after ids = debut.roster id registry ids := by
  simp only [roster, same]

theorem workers_spawn (launch : Launch) (late : debut.workers ≤ registry.workers.length) :
    (debut.roster launch.id (registry.spawn launch (.ok ())).registry ids).workers =
      (debut.roster launch.id registry ids).workers ++ [registry.workers.length] := by
  simp only [roster, registry.places_spawn launch]
  rw [List.filter_append, List.filter_singleton, decide_eq_true late]
  rfl

theorem roster_grows (owners : registry.owners <+: after.owners) (grown : ids <+: later) :
    (debut.roster id registry ids).Grows (debut.roster id after later) :=
  ⟨(System.places_mono id owners).filter _, (System.places_mono id grown).filter _⟩

end Debut

/-! ### What was before -/

/-- Whether the workers that had the client's sink before a debut are done. -/
def Debut.Retired (debut : Debut) (registry : Registry) : Prop :=
  ∀ number worker, number < debut.workers → registry.worker? number = some worker →
    debut.has worker.sink = true → worker.isFinished = true

theorem System.Step.workers_le {system after : System} {move : Move}
    (step : system.Step move after) :
    system.registry.workers.length ≤ after.registry.workers.length := by
  have grown := step.owners_prefix.length_le
  simpa only [Registry.owners, Registry.standings, List.length_map] using grown

/-- Workers that are done before a debut stay so. -/
theorem Debut.Retired.step {debut : Debut} {system after : System} {move : Move}
    (retired : debut.Retired system.registry)
    (early : debut.workers ≤ system.registry.workers.length) (step : system.Step move after) :
    debut.Retired after.registry := by
  intro number worker old known has
  have inside : number < system.registry.workers.length := Nat.lt_of_lt_of_le old early
  have there : system.registry.worker? number = some system.registry.workers[number] :=
    List.getElem?_eq_getElem inside
  obtain ⟨moved, found, -, same⟩ :=
    step.keeps number _ (system.registry.standings_getElem? there)
  rw [after.registry.standings_getElem? known] at found
  cases found
  have served : worker.sink = system.registry.workers[number].sink := same
  have finished : system.registry.isFinished number = true := by
    rw [Registry.isFinished, there]
    exact retired number _ old there (served ▸ has)
  have still := step.isFinished finished
  rwa [Registry.isFinished, known] at still

/-- Whether what had been before a debut is over: the calls have returned, and the workers that had
the client's sink are done. -/
structure Debut.Passed (debut : Debut) (system : System) : Prop where
  calls : debut.calls ≤ system.flights.length
  workers : debut.workers ≤ system.registry.workers.length
  sinks : debut.sinks ≤ system.registry.sinks
  earlier : ∀ flight ∈ system.flights.take debut.calls, flight.todo = []
  last : system.LastAlone
  retired : debut.Retired system.registry

/-- A call in progress was begun since the debut, and it is the last one. -/
theorem Debut.Passed.latest {debut : Debut} {system : System} (passed : debut.Passed system)
    {number : Nat} {flight : Flight} (known : system.flights[number]? = some flight)
    (busy : flight.todo ≠ []) : debut.calls ≤ number ∧ number + 1 = system.flights.length := by
  refine ⟨?_, ?_⟩
  · by_contra early
    refine busy (passed.earlier flight (List.mem_of_getElem? (i := number) ?_))
    rw [List.getElem?_take_of_lt (Nat.lt_of_not_le early), known]
  · have inside := (List.getElem?_eq_some_iff.mp known).1
    by_contra different
    exact busy (passed.last number flight known (by omega))

/-- **What was before a debut stays over.** -/
theorem Debut.Passed.step {debut : Debut} {system after : System} {move : Move}
    (passed : debut.Passed system) (turn : system.inTurn move = true)
    (step : system.Step move after) : debut.Passed after where
  calls := by
    refine passed.calls.trans ?_
    cases step with
    | begun => exact (Nat.le_add_right _ _).trans (Nat.le_of_eq List.length_append.symm)
    | done => exact Nat.le_of_eq List.length_set.symm
    | stayed | worked | waited => exact Nat.le_refl _
  workers := passed.workers.trans step.workers_le
  sinks := by
    refine passed.sinks.trans ?_
    cases step with
    | begun => exact Nat.le_add_right _ _
    | done _ _ _ yields => exact Nat.le_of_eq yields.sinks_eq.symm
    | stayed | worked | waited => exact Nat.le_refl _
  earlier := by
    cases step with
    | begun =>
      intro flight member
      refine passed.earlier flight ?_
      rwa [System.begin, List.take_append_of_le_length passed.calls] at member
    | @done number answer flight task later progress known next =>
      have busy : flight.todo ≠ [] := by
        rw [next]
        exact List.cons_ne_nil _ _
      rw [List.take_set_of_le (passed.latest known busy).1]
      exact passed.earlier
    | stayed | worked | waited => exact passed.earlier
  last := passed.last.step turn step
  retired := passed.retired.step passed.workers step

/-! ### Room -/

/-- Who counts the sessions but one. -/
def strangers (id : SessionId) : Census := ⟨fun other _ => if other = id then 0 else 1, fun _ => 0⟩

section Room

variable {registry : Registry} {id : SessionId}

open Registry

/-- **Only an admission adds to the strangers.** -/
theorem Task.Yields.strangers_le {task : Task} {progress : Progress}
    (yields : task.Yields registry progress) (id : SessionId)
    (mine : ∀ launch, task = .reserve launch → launch.id = id) :
    (strangers id).ofStates progress.registry.states ≤ (strangers id).ofStates registry.states := by
  -- what a slot holds does not count, only whose it is
  have written : ∀ {other : SessionId} {slot : Slot}, registry.slot? other = some slot → ∀ put,
      (strangers id).ofStates (registry.putSlot other put).states ≤
        (strangers id).ofStates registry.states := by
    intro other slot there put
    have exchanged := (strangers id).ofStates_putSlot registry other put
    rw [(strangers id).ofSlot_of_state (registry.state?_of_slot? there)] at exchanged
    exact Nat.le_of_eq (Nat.add_right_cancel exchanged)
  have forgotten : ∀ other, (strangers id).ofStates (registry.forget other).states ≤
      (strangers id).ofStates registry.states := fun other =>
    Nat.le_of_add_right_le (Nat.le_of_eq ((strangers id).ofStates_forget registry other))
  cases yields with
  | @admitted launch room vacant =>
    have exchanged := (strangers id).ofStates_putSlot registry launch.id ⟨registry.now, .pending⟩
    have free : (strangers id).slot launch.id .pending = 0 := if_pos (mine launch rfl)
    rw [free] at exchanged
    exact Nat.le_of_add_right_le (Nat.le_of_eq exchanged)
  | reaped => exact Nat.le_of_add_right_le (Nat.le_of_eq ((strangers id).ofStates_reaped registry))
  | withdrawn =>
    show (strangers id).ofStates ((registry.vacate _).forget _).states ≤ _
    rw [states_forget_vacate]
    exact forgotten _
  | published there =>
    show (strangers id).ofStates ((registry.vacate _).putSlot _ _).states ≤ _
    rw [states_putSlot_vacate]
    exact written there _
  | halted same => exact Nat.le_of_eq (congrArg _ (registry.states_of_table same))
  | parked there =>
    show (strangers id).ofStates ((registry.vacate _).putSlot _ _).states ≤ _
    rw [states_putSlot_vacate]
    exact written there _
  | bereft =>
    show (strangers id).ofStates ((registry.vacate _).forget _).states ≤ _
    rw [states_forget_vacate]
    exact forgotten _
  | removed => exact forgotten _
  | unloaded there => exact written there _
  | taken there => exact written there _
  | watched _ states => exact Nat.le_of_eq (congrArg _ states)
  | _ => exact Nat.le_refl _

/-- If the session is not registered, all that are are strangers. -/
theorem strangers_of_absent (absent : registry.slot? id = none) :
    (strangers id).ofStates registry.states = registry.table.size := by
  have single : registry.states.map (fun entry => (strangers id).slot ⟨entry.1⟩ entry.2) =
      registry.states.map fun _ => 1 := by
    refine List.map_congr_left fun entry member => if_neg ?_
    obtain ⟨⟨name, slot⟩, listed, rfl⟩ := List.mem_map.mp member
    rintro rfl
    rw [registry.mem_entries.mp listed] at absent
    cases absent
  rw [Census.ofStates, single, List.map_const', List.sum_replicate_nat, Nat.mul_one,
    registry.size_eq_length_states]

/-- If it is registered, it has a place of its own. -/
theorem strangers_of_slot? {slot : Slot} (there : registry.slot? id = some slot) :
    (strangers id).ofStates registry.states < registry.table.size := by
  have erased := (strangers id).ofStates_forget registry id
  have own : (strangers id).ofSlot registry id = 0 := by
    rw [(strangers id).ofSlot_of_state (registry.state?_of_slot? there)]
    exact if_pos rfl
  have gone : (registry.forget id).slot? id = none := by rw [slot?_forget, if_pos rfl]
  rw [own, strangers_of_absent gone] at erased
  have split := (perm_eraseEntry registry.table.sorted there).length_eq
  rw [← erased]
  exact Nat.lt_of_succ_le (Nat.le_of_eq split.symm)

/-- **While the strangers leave room, the session is never turned away** for want of it. -/
theorem refusal?_of_strangers
    (room : (strangers id).ofStates registry.states < registry.settings.maxSessions.toNat)
    (limit : Nat) : registry.refusal? id ≠ some (.capacityReached limit) := by
  intro full
  obtain ⟨absent, crowded, -⟩ := registry.size_ge_of_full full
  rw [strangers_of_absent absent] at room
  exact Nat.not_lt.mpr crowded room

end Room

/-! ### What keeps a registry a mirror -/

namespace Registry.Mirrors

variable {id : SessionId} {roster : Roster} {registry alone after : Registry}
  (mirrors : registry.Mirrors id roster alone)

include mirrors

theorem slotFinished_eq {slot lone : Slot} (same : slot.state.Mirrors roster lone.state) :
    registry.slotFinished slot = alone.slotFinished lone := by
  unfold slotFinished
  generalize slot.state = state at same
  generalize lone.state = single at same
  cases same with
  | running there => exact mirrors.isFinished_eq there
  | unloaded | pending => rfl

/-- **Looking for sessions that have ended keeps the mirror**, whether or not this one has. -/
theorem reaped : registry.reaped.Mirrors id roster alone.reaped where
  settings := by
    rw [settings_reaped, settings_reaped]
    exact mirrors.settings
  lonely other different := by
    rw [slot?_reaped, mirrors.lonely other different]
    rfl
  slot := by
    rw [slot?_reaped, slot?_reaped]
    rcases mirrors.slot with ⟨gone, also⟩ | ⟨slot, lone, there, also, same⟩
    · refine .inl ⟨?_, ?_⟩
      · rw [gone]
        rfl
      · rw [also]
        rfl
    · rw [there, also, Option.filter_some, Option.filter_some, mirrors.slotFinished_eq same]
      cases alone.slotFinished lone with
      | true => exact .inl ⟨rfl, rfl⟩
      | false => exact .inr ⟨slot, lone, rfl, rfl, same⟩
  staff := by
    rw [workers_reaped]
    exact mirrors.staff
  workers lone number there := by
    unfold worker?
    rw [workers_reaped, workers_reaped]
    exact mirrors.workers lone number there
  sinks := by
    rw [sinks_reaped]
    exact mirrors.sinks
  heard lone sink there := by
    unfold sinkHistory
    rw [sinkEvents_congr registry.events_reaped, sinkEvents_congr alone.events_reaped]
    exact mirrors.heard lone sink there

end Registry.Mirrors

end Arcade
