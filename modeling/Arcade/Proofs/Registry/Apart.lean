/-
**What strangers leave alone.**

Calls on other sessions do not touch a session: they leave its slot, its workers and its sinks as
they are (`Registry.Spares`). A task avoids the session if it is about another one, and so are its
worker and its sink (`Task.Avoids`); what such a task leads to avoids the session as well. The
exception are the sessions that have ended, which almost every call looks for, and the calls that
stop every session.

* `Task.worker?_step`, `Task.state?_step`, `Task.sinkEvents_step`: what one task leaves alone;
* `Task.Avoids.spares`, `Task.Avoids.done`: the tasks that avoid a session.
-/

import Arcade.Proofs.Registry.Tracks

namespace Arcade

/-! ### Whom a task is about -/

/-- The session that a task names. -/
def Task.party? : Task → Option SessionId
  | .build id _ _ _ | .rebuild id _ _ | .withdraw _ id _ | .publish id _ | .halt id _ _
  | .join id _ _ | .park id _ _ | .remove id | .unload id _ | .take id _ _ | .seek id _
  | .steer id _ _ | .record id _ | .press id _ _ | .contains id => some id
  | .reserve launch | .acknowledge launch | .spawn launch => some launch.id
  | .reap | .tell _ _ | .close _ | .sweep | .shutdown | .count _ | .list | .catalog
  | .answer _ => none

/-- The worker that a task deals with. -/
def Task.worker? : Task → Option WorkerId
  | .halt _ worker _ | .join _ worker _ | .steer _ worker _ | .press _ worker _ => some worker
  | _ => none

/-- The sink that a task sends something to, or gives up. -/
def Task.sink? : Task → Option SinkId
  | .tell sink _ | .close sink => some sink
  | .acknowledge launch | .spawn launch => some launch.sink
  | _ => none

open Registry

variable {registry : Registry} {answer : Except SinkError Unit} {task : Task} {progress : Progress}

/-- A task that looks at the slots, or at a worker, leaves the other workers alone. -/
theorem Task.worker?_step_of_watches (watches : task.watches = true)
    (did : task.step registry answer = some progress) {number : WorkerId} {worker : Worker}
    (known : registry.worker? number = some worker) (other : task.worker? ≠ some number) :
    progress.registry.worker? number = some worker := by
  cases task with
  | steer id dealt steering =>
    have different : dealt ≠ number := fun same => other (congrArg some same)
    cases did
    unfold Registry.steer
    split
    · exact known
    · exact (registry.worker?_modifyWorker_ne _ different).trans known
  | press id dealt event =>
    have different : dealt ≠ number := fun same => other (congrArg some same)
    cases did
    unfold Registry.press
    split
    · exact known
    · split
      · exact (registry.worker?_modifyWorker_ne _ different).trans known
      · exact known
  | seek id steering =>
    cases did
    unfold Registry.seek
    split
    · exact known
    · split <;> exact known
  | record id event =>
    cases did
    unfold Registry.record
    split
    · exact known
    · split <;> exact known
  | sweep | shutdown | count | contains | list | catalog =>
    cases did
    exact known
  | _ => cases watches

/-- A task leaves the workers alone that it does not deal with. -/
theorem Task.worker?_step (did : task.step registry answer = some progress) {number : WorkerId}
    {worker : Worker} (known : registry.worker? number = some worker)
    (other : task.worker? ≠ some number) : progress.registry.worker? number = some worker := by
  have kept : ∀ {after : Registry}, after.workers = registry.workers →
      after.worker? number = some worker := by
    intro after same
    rw [Registry.worker?, same]
    exact known
  have different : ∀ {dealt : WorkerId}, task.worker? = some dealt → dealt ≠ number := by
    rintro dealt found rfl
    exact other found
  cases Task.yields_of_step did with
  | spawned =>
    refine (List.getElem?_append_left ?_).trans known
    exact (List.getElem?_eq_some_iff.mp known).1
  | reaped => exact kept registry.workers_reaped
  | withdrawn => exact kept (registry.workers_vacate _)
  | published => exact kept (registry.workers_vacate _)
  | parked => exact kept (registry.workers_vacate _)
  | bereft => exact kept (registry.workers_vacate _)
  | halted =>
    cases did
    exact (registry.worker?_modifyWorker_ne _ (different rfl)).trans known
  | ended => exact (registry.worker?_modifyWorker_ne _ (different rfl)).trans known
  | broken => exact (registry.worker?_modifyWorker_ne _ (different rfl)).trans known
  | watched watches => exact Task.worker?_step_of_watches watches did known other
  | _ => exact known

/-- A task leaves the slots alone of the sessions that it does not name, as long as they have not
ended. -/
theorem Task.state?_step (did : task.step registry answer = some progress) {id : SessionId}
    (other : task.party? ≠ some id) (lasts : ∀ entry ∈ registry.finished, entry.1 ≠ id) :
    progress.registry.state? id = registry.state? id := by
  have different : ∀ {named : SessionId}, task.party? = some named → id ≠ named := by
    rintro named found rfl
    exact other found
  cases Task.yields_of_step did with
  | reaped =>
    show (registry.reaped.slot? id).map _ = (registry.slot? id).map _
    rw [slot?_reaped]
    cases there : registry.slot? id with
    | none => rfl
    | some slot =>
      -- a slot whose worker is done would be listed as such
      have lasting : registry.slotFinished slot = false := by
        unfold slotFinished
        split
        · rename_i worker running
          by_contra ended
          have listed := registry.mem_finished.mpr
            ⟨slot, there, running, Bool.eq_true_of_not_eq_false ended⟩
          exact lasts _ listed rfl
        · rfl
        · rfl
      simp [lasting]
  | admitted => exact (registry.state?_putSlot _ _ _).trans (if_neg (different rfl))
  | withdrawn => exact (registry.state?_forget_vacate _ _).trans (if_neg (different rfl))
  | published => exact (registry.state?_putSlot_vacate _ _ _).trans (if_neg (different rfl))
  | halted same => exact state?_congr (registry.states_of_table same) id
  | parked => exact (registry.state?_putSlot_vacate _ _ _).trans (if_neg (different rfl))
  | bereft => exact (registry.state?_forget_vacate _ _).trans (if_neg (different rfl))
  | removed => exact (registry.state?_forget _ _).trans (if_neg (different rfl))
  | unloaded => exact (registry.state?_putSlot _ _ _).trans (if_neg (different rfl))
  | taken => exact (registry.state?_putSlot _ _ _).trans (if_neg (different rfl))
  | watched _ states => exact state?_congr states id
  | _ => rfl

/-- A task leaves the sinks alone that it does not deal with, and that are not in the slot that it
names. -/
theorem Task.sinkEvents_step (did : task.step registry answer = some progress) {sink : SinkId}
    (other : task.sink? ≠ some sink)
    (kept : ∀ id, task.party? = some id → registry.state? id ≠ some (.unloaded sink)) :
    progress.registry.sinkEvents sink = registry.sinkEvents sink := by
  have vacated : ∀ {id}, task.party? = some id →
      (registry.vacate id).sinkEvents sink = registry.sinkEvents sink := by
    intro id named
    rw [sinkEvents_vacate, if_neg (kept id named), List.append_nil]
  have delivered : ∀ {dealt} delivery, task.sink? = some dealt →
      (registry.deliver dealt delivery).sinkEvents sink = registry.sinkEvents sink := by
    intro dealt delivery found
    have different : dealt ≠ sink := by
      rintro rfl
      exact other found
    rw [sinkEvents_deliver, if_neg different, List.append_nil]
  cases Task.yields_of_step did with
  | told => exact delivered _ rfl
  | closed => exact delivered _ rfl
  | acknowledged => exact delivered _ rfl
  | unacknowledged => exact delivered _ rfl
  | unspawned => exact delivered _ rfl
  | withdrawn => exact vacated rfl
  | published => exact vacated rfl
  | parked => exact vacated rfl
  | bereft => exact vacated rfl
  | reaped => exact sinkEvents_congr registry.events_reaped sink
  | halted _ _ events => exact sinkEvents_congr events sink
  | watched _ _ _ events => exact sinkEvents_congr events sink
  | _ => rfl

/-! ### Places in a list of names -/

/-- Where a name stands in a list, in order. -/
def places (id : SessionId) (names : List SessionId) : List Nat :=
  (List.range names.length).filter fun place => names[place]? = some id

theorem mem_places {id : SessionId} {names : List SessionId} {place : Nat} :
    place ∈ places id names ↔ names[place]? = some id := by
  rw [places, List.mem_filter, List.mem_range, decide_eq_true_iff]
  exact ⟨And.right, fun found => ⟨(List.getElem?_eq_some_iff.mp found).1, found⟩⟩

theorem nodup_places (id : SessionId) (names : List SessionId) : (places id names).Nodup :=
  List.nodup_range.filter _

theorem places_concat (id other : SessionId) (names : List SessionId) :
    places id (names ++ [other]) =
      places id names ++ if other = id then [names.length] else [] := by
  unfold places
  rw [List.length_append, List.length_singleton, List.range_succ, List.filter_append,
    List.filter_singleton, List.getElem?_concat_length]
  refine congrArg₂ (· ++ ·) (List.filter_congr fun place member => ?_) ?_
  · rw [List.getElem?_append_left (List.mem_range.mp member)]
  · by_cases same : other = id <;> simp [same]

/-- The names of the sessions that the workers run or ran. -/
def Registry.owners (registry : Registry) : List SessionId := registry.standings.map Standing.id

theorem Registry.mem_places_owners {id : SessionId} {number : WorkerId} :
    number ∈ places id registry.owners ↔ IsWorkerOf registry.standings id number := by
  rw [mem_places, owners, List.getElem?_map, Option.map_eq_some_iff]
  rfl

theorem owners_set {standings : List Standing} {number : Nat} {standing moved : Standing}
    (found : standings[number]? = some standing) (same : moved.id = standing.id) :
    (standings.set number moved).map Standing.id = standings.map Standing.id := by
  have owner : (standings.map Standing.id)[number]? = some moved.id := by
    rw [List.getElem?_map, found, Option.map_some, same]
  obtain ⟨inside, there⟩ := List.getElem?_eq_some_iff.mp owner
  rw [List.map_set, ← there, List.set_getElem_self]

/-- A task sets at most one worker going, for the session that it names. -/
theorem Task.owners_step (did : task.step registry answer = some progress) :
    progress.registry.owners = registry.owners ∨
      ∃ launch, task = .spawn launch ∧
        progress.registry.owners = registry.owners ++ [launch.id] := by
  obtain same | ⟨launch, rfl, same⟩ | ⟨id, number, custom, worker, -, known, -, same⟩ :=
    (Task.yields_of_step did).standings_cases
  · exact .inl (congrArg (List.map Standing.id) same)
  · refine .inr ⟨launch, rfl, ?_⟩
    rw [owners, same, List.map_append]
    rfl
  · refine .inl ?_
    rw [owners, same]
    exact owners_set (registry.standings_getElem? known) rfl

/-! ### Tasks that avoid a session -/

/-- Whether a registry has what another one has of a session, and of the sinks that were handed in
for it. -/
structure Registry.Spares (ids : List SessionId) (id : SessionId) (registry after : Registry) :
    Prop where
  settings : after.settings = registry.settings
  state : after.state? id = registry.state? id
  places : places id after.owners = places id registry.owners
  workers : ∀ number worker, registry.worker? number = some worker → worker.session.id = id →
    after.worker? number = some worker
  events : ∀ sink : SinkId, ids[sink]? = some id → after.sinkEvents sink = registry.sinkEvents sink

/-- Whether a task is about other sessions, and so are its worker and its sink. -/
def Task.Avoids (ids : List SessionId) (standings : List Standing) (id : SessionId) :
    Task → Prop
  | .tell sink _ | .close sink => ∃ other, ids[sink]? = some other ∧ other ≠ id
  | .steer other worker _ | .press other worker _ => IsWorkerOf standings other worker ∧ other ≠ id
  | .sweep | .shutdown => False
  | .reserve launch | .acknowledge launch | .spawn launch => launch.id ≠ id
  | .build other _ _ _ | .rebuild other _ _ | .withdraw _ other _ | .publish other _
  | .halt other _ _ | .join other _ _ | .park other _ _ | .remove other | .unload other _
  | .take other _ _ | .seek other _ | .record other _ | .contains other => other ≠ id
  | .reap | .count _ | .list | .catalog | .answer _ => True

/-- Whoever turns another client away leaves the session's sinks alone. -/
theorem avoids_rejection {ids : List SessionId} {standings : List Standing} {id other : SessionId}
    {sink : SinkId} {cause : SessionError} (owner : ids[sink]? = some other)
    (different : other ≠ id) :
    ∀ next ∈ (registry.rejection other sink cause).todo, next.Avoids ids standings id := by
  have apart : ∃ other, ids[sink]? = some other ∧ other ≠ id := ⟨other, owner, different⟩
  simpa [rejection, Task.Avoids] using apart

theorem avoids_unloading {ids : List SessionId} {standings : List Standing} {id other : SessionId}
    (different : other ≠ id) (purpose : Unloading) :
    ∀ next ∈ Unloading.tasks other purpose, next.Avoids ids standings id := by
  cases purpose <;> simp [Unloading.tasks, Task.Avoids, different]

/-- The sink that a worker left is the session's, so what becomes of it leaves other sessions
alone. -/
theorem avoids_custody {ids : List SessionId} {standings : List Standing} {id other : SessionId}
    {sink : Option SinkId} (owner : ∀ number, sink = some number → ids[number]? = some other)
    (different : other ≠ id) (custody : Custody) :
    ∀ next ∈ Custody.tasks other sink custody, next.Avoids ids standings id := by
  intro next member
  cases custody with
  | close =>
    cases sink with
    | none => cases member
    | some number =>
      rw [List.mem_singleton.mp member]
      exact ⟨other, owner number rfl, different⟩
  | keep purpose =>
    rw [List.mem_singleton.mp member]
    exact different

/-- What a slot holds is the session's, so letting go of it leaves other sessions alone. -/
theorem avoids_release {ids : List SessionId} {standings : List Standing} {id other : SessionId}
    {state : SlotState} (label : state.Labelled ids standings other) (different : other ≠ id) :
    ∀ next ∈ SlotState.releaseTasks other state, next.Avoids ids standings id := by
  intro next member
  cases state with
  | running worker =>
    rw [List.mem_singleton.mp member]
    exact different
  | unloaded sink =>
    rw [List.mem_singleton.mp member]
    exact ⟨other, label, different⟩
  | pending => cases member

/-- What a worker that has ended leaves is its session's, and so it leaves other sessions alone. -/
theorem avoids_left {ids : List SessionId} {id other : SessionId} {number : WorkerId}
    {worker : Worker} (around : registry.Labelled ids)
    (belongs : IsWorkerOf registry.standings other number)
    (known : registry.worker? number = some worker) (different : other ≠ id) (custody : Custody) :
    ∀ next ∈ Custody.tasks other (some worker.sink) custody,
      next.Avoids ids registry.standings id := by
  refine avoids_custody (fun sink left => ?_) different custody
  cases left
  exact (around.owner known).trans (congrArg some (belongs.id_eq known))

/-- The worker in the slot of a session is the session's. -/
theorem isWorkerOf_of_running {ids : List SessionId} {other : SessionId} {slot : Slot}
    {number : WorkerId} (around : registry.Labelled ids) (there : registry.slot? other = some slot)
    (running : slot.state = .running number) : IsWorkerOf registry.standings other number := by
  have owner := around.slots _ _ (registry.state?_of_slot? there)
  rwa [running] at owner

section Avoiding

variable {ids : List SessionId} {id : SessionId} (avoids : task.Avoids ids registry.standings id)
  (labelled : task.Labelled ids registry.standings)

include avoids

theorem Task.Avoids.party : task.party? ≠ some id := by
  intro named
  cases task with
  | steer | press =>
    cases named
    exact avoids.2 rfl
  | reap | tell | close | sweep | shutdown | count | list | catalog | answer => cases named
  | _ =>
    cases named
    exact avoids rfl

theorem Task.Avoids.mono {idsLater : List SessionId} {later : List Standing}
    (grows : ∀ (sink : SinkId) (id : SessionId), ids[sink]? = some id →
      idsLater[sink]? = some id) (keeps : Keeps registry.standings later) :
    task.Avoids idsLater later id := by
  cases task with
  | tell sink | close sink =>
    obtain ⟨other, owner, different⟩ := avoids
    exact ⟨other, grows _ _ owner, different⟩
  | steer | press => exact ⟨avoids.1.mono keeps, avoids.2⟩
  | _ => exact avoids

include labelled

theorem Task.Avoids.worker {number : WorkerId} (dealt : task.worker? = some number) :
    ∃ other, IsWorkerOf registry.standings other number ∧ other ≠ id := by
  cases task with
  | halt | join =>
    cases dealt
    exact ⟨_, labelled, avoids⟩
  | steer | press =>
    cases dealt
    exact ⟨_, avoids⟩
  | _ => cases dealt

theorem Task.Avoids.sink {sink : SinkId} (dealt : task.sink? = some sink) :
    ∃ other, ids[sink]? = some other ∧ other ≠ id := by
  cases task with
  | tell | close =>
    cases dealt
    exact avoids
  | acknowledge | spawn =>
    cases dealt
    exact ⟨_, labelled, avoids⟩
  | _ => cases dealt

/-- A task that avoids a session leaves its workers alone. -/
theorem Task.Avoids.worker?_step (did : task.step registry answer = some progress)
    {number : WorkerId} (mine : IsWorkerOf registry.standings id number) :
    progress.registry.worker? number = registry.worker? number := by
  obtain ⟨worker, known, same⟩ := mine.exists_worker
  rw [known]
  refine Task.worker?_step did known fun dealt => ?_
  obtain ⟨other, belongs, different⟩ := avoids.worker labelled dealt
  exact different ((belongs.id_eq known).symm.trans same)

/-- A task that avoids a session leaves its sinks alone. -/
theorem Task.Avoids.sinkEvents_step (around : registry.Labelled ids)
    (did : task.step registry answer = some progress) {sink : SinkId}
    (mine : ids[sink]? = some id) :
    progress.registry.sinkEvents sink = registry.sinkEvents sink := by
  refine Task.sinkEvents_step did (fun dealt => ?_) fun named party held => ?_
  · obtain ⟨other, owner, different⟩ := avoids.sink labelled dealt
    rw [mine] at owner
    cases owner
    exact different rfl
  · have owner : ids[sink]? = some named := around.slots _ _ held
    rw [mine] at owner
    cases owner
    exact avoids.party party

/-- **A task that avoids a session leaves it alone**, as long as the session has not ended. -/
theorem Task.Avoids.spares (around : registry.Labelled ids)
    (lasts : ∀ entry ∈ registry.finished, entry.1 ≠ id)
    (did : task.step registry answer = some progress) :
    registry.Spares ids id progress.registry where
  settings := settings_step did
  state := Task.state?_step did avoids.party lasts
  places := by
    rcases Task.owners_step did with same | ⟨launch, rfl, same⟩
    · rw [same]
    · have different : launch.id ≠ id := avoids
      rw [same, places_concat, if_neg different, List.append_nil]
  workers number worker known mine :=
    (avoids.worker?_step labelled did ⟨_, registry.standings_getElem? known, mine⟩).trans known
  events sink mine := avoids.sinkEvents_step labelled around did mine

/-- What a look at the slot of another session leads to. -/
theorem Task.Avoids.done_of_watches (watches : task.watches = true)
    (around : registry.Labelled ids) (did : task.step registry answer = some progress) :
    ∀ next ∈ progress.todo, next.Avoids ids registry.standings id := by
  cases task with
  | seek other steering =>
    cases did
    unfold Registry.seek
    split
    · simp [refuse, Registry.answer]
    · rename_i slot there
      split
      · rename_i worker running
        intro next member
        rw [List.mem_singleton.mp member]
        exact ⟨isWorkerOf_of_running around there running, avoids⟩
      all_goals simp [refuse, Registry.answer]
  | record other event =>
    cases did
    unfold Registry.record
    split
    · simp [refuse, Registry.answer]
    · rename_i slot there
      split
      · rename_i worker running
        intro next member
        rw [List.mem_singleton.mp member]
        exact ⟨isWorkerOf_of_running around there running, avoids⟩
      all_goals simp [refuse, Registry.answer]
  | steer other worker steering =>
    cases did
    unfold Registry.steer
    split <;> simp [refuse, Registry.answer]
  | press other worker event =>
    cases did
    unfold Registry.press
    split
    · simp [refuse, Registry.answer]
    · split <;> simp [refuse, Registry.answer]
  | sweep | shutdown => exact avoids.elim
  | count | contains | list | catalog =>
    cases did
    simp [Registry.answer]
  | _ => cases watches

/-- **What a task that avoids a session leads to avoids it as well.** -/
theorem Task.Avoids.done (around : registry.Labelled ids)
    (lasts : ∀ entry ∈ registry.finished, entry.1 ≠ id)
    (did : task.step registry answer = some progress) :
    ∀ next ∈ progress.todo, next.Avoids ids registry.standings id := by
  cases Task.yields_of_step did with
  | watched watches => exact avoids.done_of_watches labelled watches around did
  | reaped =>
    intro next member
    obtain ⟨entry, listed, rfl⟩ := List.mem_map.mp member
    exact lasts entry listed
  | unfit => exact avoids_rejection labelled avoids
  | rejected => exact avoids_rejection labelled avoids
  | @ended _ _ custody _ known => exact avoids_left around labelled known avoids custody
  | @broken other number custody =>
    show ∀ next ∈ Custody.tasks other none custody, _
    exact avoids_custody (fun _ left => by cases left) avoids custody
  | parked => exact avoids_unloading avoids _
  | vanished => exact avoids_unloading avoids _
  | unparked =>
    intro next member
    rcases List.mem_cons.mp member with rfl | rest
    · exact ⟨_, labelled, avoids⟩
    · exact avoids_unloading avoids _ next rest
  | @removed other slot there =>
    intro next member
    rcases List.mem_append.mp member with release | last
    · exact avoids_release (around.slots _ _ (registry.state?_of_slot? there)) avoids next release
    · rw [List.mem_singleton.mp last]
      trivial
  | built | rebuilt | admitted | acknowledged | unacknowledged | spawned | unspawned | superseded
  | halted | unloaded | passed | taken => simpa [proceed, Task.Avoids] using avoids
  | _ => simp [proceed, refuse, Registry.answer, Task.Avoids]

end Avoiding

end Arcade
