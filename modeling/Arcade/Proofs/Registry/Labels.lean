/-
**Whose sinks and workers they are.**

A sink comes with the name of the session that it was handed in for, and it keeps it: whoever has
the sink, has it for the session of that name. The same is so for workers. So calls that write to
the slot of a name deal with the sinks and workers of the name only.

* `Task.Yields.labelled`: what a task leads to bears the right names;
* `System.labelled_run`: everything bears the right name, at any time.
-/

import Arcade.Proofs.Registry.Tenure

namespace Arcade

/-- Whether a session has a worker of a number. -/
def IsWorkerOf (standings : List Standing) (id : SessionId) (number : WorkerId) : Prop :=
  ∃ standing, standings[number]? = some standing ∧ standing.id = id

theorem IsWorkerOf.exists_worker {registry : Registry} {id : SessionId} {number : WorkerId}
    (belongs : IsWorkerOf registry.standings id number) :
    ∃ worker, registry.worker? number = some worker ∧ worker.session.id = id := by
  obtain ⟨standing, found, same⟩ := belongs
  rw [Registry.standings, List.getElem?_map, Option.map_eq_some_iff] at found
  obtain ⟨worker, known, rfl⟩ := found
  exact ⟨worker, known, same⟩

/-- Whether the sink and the worker of a task belong to the session that the task is about. The
sinks are known by the names that they were handed in with. -/
def Task.Labelled (ids : List SessionId) (standings : List Standing) : Task → Prop
  | .build id _ _ sink | .park id (some sink) _ => ids[sink]? = some id
  | .reserve launch | .acknowledge launch | .spawn launch => ids[launch.sink]? = some launch.id
  | .publish id worker | .halt id worker _ | .join id worker _ => IsWorkerOf standings id worker
  | _ => True

/-- Whether the sink or the worker in a slot belongs to the session of the slot. -/
def SlotState.Labelled (ids : List SessionId) (standings : List Standing) (id : SessionId) :
    SlotState → Prop
  | .running worker => IsWorkerOf standings id worker
  | .unloaded sink => ids[sink]? = some id
  | .pending => True

/-- Whether every sink and worker in a registry belongs to the session that it is found with. -/
structure Registry.Labelled (ids : List SessionId) (registry : Registry) : Prop where
  slots : ∀ id state, registry.state? id = some state → state.Labelled ids registry.standings id
  workers : ∀ standing ∈ registry.standings, ids[standing.sink]? = some standing.id

theorem IsWorkerOf.id_eq {registry : Registry} {id : SessionId} {number : WorkerId}
    {worker : Worker} (belongs : IsWorkerOf registry.standings id number)
    (known : registry.worker? number = some worker) : worker.session.id = id := by
  obtain ⟨other, found, same⟩ := belongs.exists_worker
  rw [known] at found
  cases found
  exact same

theorem Registry.Labelled.owner {ids : List SessionId} {registry : Registry} {number : WorkerId}
    {worker : Worker} (around : registry.Labelled ids)
    (known : registry.worker? number = some worker) :
    ids[worker.sink]? = some worker.session.id :=
  around.workers worker.standing (List.mem_of_getElem? (registry.standings_getElem? known))

/-- Whether the workers of some standings have the same names and sinks in later ones. -/
def Keeps (standings later : List Standing) : Prop :=
  ∀ (number : WorkerId) (standing : Standing), standings[number]? = some standing →
    ∃ moved, later[number]? = some moved ∧ moved.id = standing.id ∧ moved.sink = standing.sink

theorem Keeps.refl (standings : List Standing) : Keeps standings standings :=
  fun _ standing found => ⟨standing, found, rfl, rfl⟩

theorem keeps_append (standings more : List Standing) : Keeps standings (standings ++ more) := by
  intro number standing found
  refine ⟨standing, ?_, rfl, rfl⟩
  rw [List.getElem?_append_left (List.getElem?_eq_some_iff.mp found).1, found]

theorem keeps_set {standings : List Standing} {index : Nat} {standing moved : Standing}
    (found : standings[index]? = some standing) (id : moved.id = standing.id)
    (sink : moved.sink = standing.sink) : Keeps standings (standings.set index moved) := by
  intro number other there
  by_cases same : index = number
  · subst same
    rw [found] at there
    cases there
    exact ⟨moved, List.getElem?_set_self (List.getElem?_eq_some_iff.mp found).1, id, sink⟩
  · exact ⟨other, by rw [List.getElem?_set_ne same, there], rfl, rfl⟩

theorem Task.Yields.keeps {registry : Registry} {task : Task} {progress : Progress}
    (yields : task.Yields registry progress) :
    Keeps registry.standings progress.registry.standings := by
  obtain same | ⟨launch, -, same⟩ | ⟨id, number, custom, worker, -, known, -, same⟩ :=
    yields.standings_cases
  · rw [same]
    exact Keeps.refl _
  · rw [same]
    exact keeps_append _ _
  · rw [same]
    exact keeps_set (registry.standings_getElem? known) rfl rfl

theorem Worker.Turn.keeps {registry : Registry} {number : WorkerId} {worker after : Worker}
    {deliveries : List Delivery} (turn : worker.Turn after deliveries)
    (known : registry.worker? number = some worker) :
    Keeps registry.standings (registry.turn number worker after deliveries).standings := by
  rw [Registry.standings_turn]
  refine keeps_set (registry.standings_getElem? known) ?_ ?_
  · rw [turn.standing_eq]
    rfl
  · rw [turn.standing_eq]
    rfl

theorem System.Step.keeps {system after : System} {move : Move} (step : system.Step move after) :
    Keeps system.registry.standings after.registry.standings := by
  cases step with
  | done _ _ _ yields => exact yields.keeps
  | worked known turn => exact turn.keeps known
  | begun | stayed | waited => exact Keeps.refl _

section Later

variable {ids idsLater : List SessionId} {standings later : List Standing}

theorem IsWorkerOf.mono (keeps : Keeps standings later) {id : SessionId} {number : WorkerId}
    (belongs : IsWorkerOf standings id number) : IsWorkerOf later id number := by
  obtain ⟨standing, found, same⟩ := belongs
  obtain ⟨moved, there, kept, -⟩ := keeps number standing found
  exact ⟨moved, there, kept.trans same⟩

variable (grows : ∀ (sink : SinkId) (id : SessionId), ids[sink]? = some id →
  idsLater[sink]? = some id) (keeps : Keeps standings later)

include grows keeps

theorem Task.Labelled.mono {task : Task} (labelled : task.Labelled ids standings) :
    task.Labelled idsLater later := by
  cases task with
  | park id sink purpose =>
    cases sink with
    | none => trivial
    | some sink => exact grows _ _ labelled
  | build | reserve | acknowledge | spawn => exact grows _ _ labelled
  | publish | halt | join => exact IsWorkerOf.mono keeps labelled
  | _ => trivial

theorem SlotState.Labelled.mono {id : SessionId} {state : SlotState}
    (labelled : state.Labelled ids standings id) : state.Labelled idsLater later id := by
  cases state with
  | running worker => exact IsWorkerOf.mono keeps labelled
  | unloaded sink => exact grows _ _ labelled
  | pending => trivial

end Later

/-- A task that only watches deals with nobody's sink or worker. -/
theorem labelled_of_watched {ids : List SessionId} {standings : List Standing} {todo : List Task}
    (harmless : ∀ next ∈ todo,
      next.watches = true ∨ (∃ id, next = .remove id) ∨ ∃ reply, next = .answer reply) :
    ∀ next ∈ todo, next.Labelled ids standings := by
  intro next member
  obtain watching | ⟨_, rfl⟩ | ⟨_, rfl⟩ := harmless next member
  · cases next <;> trivial
  · trivial
  · trivial

theorem labelled_unloading {ids : List SessionId} {standings : List Standing} (id : SessionId)
    (purpose : Unloading) :
    ∀ next ∈ Registry.Unloading.tasks id purpose, next.Labelled ids standings := by
  cases purpose <;> simp [Registry.Unloading.tasks, Task.Labelled]

theorem Registry.state?_congr {registry after : Registry} (same : after.states = registry.states)
    (id : SessionId) : after.state? id = registry.state? id := by
  rw [state?_eq_lookup, same, ← state?_eq_lookup]

theorem Registry.state?_putSlot_vacate (registry : Registry) (id other : SessionId) (slot : Slot) :
    ((registry.vacate id).putSlot id slot).state? other =
      if other = id then some slot.state else registry.state? other := by
  rw [state?_congr (registry.states_putSlot_vacate id id slot), state?_putSlot]

theorem Registry.state?_forget_vacate (registry : Registry) (id other : SessionId) :
    ((registry.vacate id).forget id).state? other =
      if other = id then none else registry.state? other := by
  rw [state?_congr (registry.states_forget_vacate id id), state?_forget]

open Registry in
/-- A task leaves every slot to its session. -/
theorem Task.Yields.slots_labelled {ids : List SessionId} {registry : Registry} {task : Task}
    {progress : Progress} (yields : task.Yields registry progress)
    (here : task.Labelled ids registry.standings) (around : registry.Labelled ids)
    (id : SessionId) (state : SlotState) (found : progress.registry.state? id = some state) :
    state.Labelled ids registry.standings id := by
  have kept := around.slots id state
  -- a slot that was put in is as it should be, and the others are as they were
  have put : ∀ {after : Registry} {other : SessionId} {slot : Slot},
      after.state? id = (if id = other then some slot.state else registry.state? id) →
      after.state? id = some state → slot.state.Labelled ids registry.standings other →
      state.Labelled ids registry.standings id := by
    intro after other slot split there labelled
    rw [split] at there
    by_cases same : id = other
    · rw [if_pos same] at there
      cases there
      exact same ▸ labelled
    · rw [if_neg same] at there
      exact kept there
  have forgotten : ∀ {after : Registry} {other : SessionId},
      after.state? id = (if id = other then none else registry.state? id) →
      after.state? id = some state → state.Labelled ids registry.standings id := by
    intro after other split there
    rw [split] at there
    by_cases same : id = other
    · rw [if_pos same] at there
      cases there
    · rw [if_neg same] at there
      exact kept there
  cases yields with
  | reaped => exact kept (registry.state?_of_reaped found)
  | admitted => exact put (registry.state?_putSlot _ _ _) found trivial
  | withdrawn => exact forgotten (registry.state?_forget_vacate _ _) found
  | published => exact put (registry.state?_putSlot_vacate _ _ _) found here
  | halted same => exact kept (state?_congr (registry.states_of_table same) id ▸ found)
  | parked => exact put (registry.state?_putSlot_vacate _ _ _) found here
  | bereft => exact forgotten (registry.state?_forget_vacate _ _) found
  | removed => exact forgotten (registry.state?_forget _ _) found
  | unloaded => exact put (registry.state?_putSlot _ _ _) found trivial
  | taken => exact put (registry.state?_putSlot _ _ _) found trivial
  | watched _ states => exact kept (state?_congr states id ▸ found)
  | _ => exact kept found

/-- The workers belong to the sessions that their sinks were handed in for. -/
theorem Task.Yields.workers_labelled {ids : List SessionId} {registry : Registry} {task : Task}
    {progress : Progress} (yields : task.Yields registry progress)
    (here : task.Labelled ids registry.standings) (around : registry.Labelled ids) :
    ∀ standing ∈ progress.registry.standings, ids[standing.sink]? = some standing.id := by
  intro standing member
  obtain same | ⟨launch, rfl, same⟩ | ⟨id, number, custom, worker, -, known, -, same⟩ :=
    yields.standings_cases
  · rw [same] at member
    exact around.workers standing member
  · rw [same, List.mem_append, List.mem_singleton] at member
    rcases member with old | rfl
    · exact around.workers standing old
    · exact here
  · rw [same] at member
    rcases List.mem_or_eq_of_mem_set member with old | rfl
    · exact around.workers standing old
    · exact around.owner known

open Registry in
/-- **What a task leads to bears the right names.** -/
theorem Task.Yields.labelled {ids : List SessionId} {registry : Registry} {task : Task}
    {progress : Progress} (yields : task.Yields registry progress)
    (here : task.Labelled ids registry.standings) (around : registry.Labelled ids) :
    (∀ next ∈ progress.todo, next.Labelled ids progress.registry.standings) ∧
      progress.registry.Labelled ids := by
  have keeps := yields.keeps
  have slots := yields.slots_labelled here around
  refine ⟨?_, fun id state found => (slots id state found).mono (fun _ _ same => same) keeps,
    yields.workers_labelled here around⟩
  -- the names are right as the registry was before, except for a worker that is new
  have before : (∀ next ∈ progress.todo, next.Labelled ids registry.standings) →
      ∀ next ∈ progress.todo, next.Labelled ids progress.registry.standings :=
    fun labelled next member => (labelled next member).mono (fun _ _ same => same) keeps
  cases yields with
  | @spawned launch =>
    intro next member
    rw [List.mem_singleton.mp member]
    refine ⟨(registry.launched launch).standing, ?_, rfl⟩
    have counted : registry.workers.length = registry.standings.length := by simp [standings]
    simp only [proceed]
    rw [registry.standings_append, counted, List.getElem?_concat_length]
  | reaped =>
    refine before fun next member => ?_
    obtain ⟨⟨id, worker⟩, listed, rfl⟩ := List.mem_map.mp member
    obtain ⟨slot, there, running, -⟩ := registry.mem_finished.mp listed
    have belongs := around.slots id slot.state (registry.state?_of_slot? there)
    rw [running] at belongs
    exact belongs
  | @ended id number custom worker known complete =>
    refine before fun next member => ?_
    cases custom with
    | close =>
      rw [List.mem_singleton.mp member]
      trivial
    | keep purpose =>
      rw [List.mem_singleton.mp member]
      exact (around.owner known).trans (congrArg some (IsWorkerOf.id_eq here known))
  | @broken id number custom worker _ known complete =>
    refine before fun next member => ?_
    cases custom with
    | close => cases member
    | keep purpose =>
      rw [List.mem_singleton.mp member]
      trivial
  | @removed id slot there =>
    refine before fun next member => ?_
    have belongs := around.slots id slot.state (registry.state?_of_slot? there)
    rcases List.mem_append.mp member with release | answers
    · cases held : slot.state with
      | running worker =>
        rw [held] at release belongs
        rw [List.mem_singleton.mp release]
        exact belongs
      | unloaded sink =>
        rw [held] at release
        rw [List.mem_singleton.mp release]
        trivial
      | pending =>
        rw [held] at release
        cases release
    · rw [List.mem_singleton.mp answers]
      trivial
  | @unloaded id purpose slot worker there running =>
    refine before fun next member => ?_
    have belongs := around.slots id slot.state (registry.state?_of_slot? there)
    rw [running] at belongs
    rw [List.mem_singleton.mp member]
    exact belongs
  | @taken id rom machine slot sink there unloaded =>
    refine before fun next member => ?_
    have belongs := around.slots id slot.state (registry.state?_of_slot? there)
    rw [unloaded] at belongs
    rw [List.mem_singleton.mp member]
    exact belongs
  | @parked id sink purpose => exact labelled_unloading id purpose
  | @vanished id purpose => exact labelled_unloading id purpose
  | @unparked id sink purpose =>
    refine before fun next member => ?_
    rcases List.mem_cons.mp member with rfl | rest
    · trivial
    · exact labelled_unloading id purpose next rest
  | watched _ _ _ _ _ todo => exact labelled_of_watched todo
  | built | admitted | acknowledged | superseded | halted =>
    refine before ?_
    simpa [proceed, Task.Labelled] using here
  | _ =>
    refine before ?_
    simp [proceed, refuse, Registry.answer, rejection, Task.Labelled]

namespace System

/-- Everything bears the right name. -/
structure Labelled (system : System) : Prop where
  sinks : system.registry.sinks = system.startIds.length
  registry : system.registry.Labelled system.startIds
  tasks : ∀ flight ∈ system.flights, ∀ task ∈ flight.todo,
    task.Labelled system.startIds system.registry.standings

/-- A call that is begun has the sink that it hands in, and nothing else. -/
theorem labelled_begun {ids : List SessionId} (standings : List Standing) (call : Call) :
    ∀ task ∈ call.tasks ids.length, task.Labelled (ids ++ call.starts?.toList) standings := by
  have begins := call.begins ids.length
  generalize call.tasks ids.length = todo at begins ⊢
  cases begins <;> simp [Task.Labelled, Call.starts?]

theorem sinks_begun (call : Call) : call.sinks = call.starts?.toList.length := by
  cases call <;> rfl

/-- **Everything bears the right name, at any time.** -/
theorem labelled_run (settings : Settings) (schedule : List Move) :
    ((new settings).run schedule).Labelled := by
  refine run_induction (new settings) (fun _ system => system.Labelled)
    ⟨rfl, ⟨fun _ _ found => (by cases found), fun _ member => (by cases member)⟩,
      fun _ member => (by cases member)⟩
    (fun schedule move before step => ?_) schedule
  generalize (new settings).run schedule = system at before step
  generalize system.move move = after at step
  obtain ⟨sinks, ⟨slots, workers⟩, tasks⟩ := before
  cases step with
  | stayed => exact ⟨sinks, ⟨slots, workers⟩, tasks⟩
  | waited => exact ⟨sinks, ⟨slots, workers⟩, tasks⟩
  | @begun call =>
    have grows : ∀ (sink : SinkId) (id : SessionId), system.startIds[sink]? = some id →
        (system.begin call).startIds[sink]? = some id := by
      intro sink id found
      rw [startIds_begin, List.getElem?_append_left (List.getElem?_eq_some_iff.mp found).1, found]
    have keeps := Keeps.refl system.registry.standings
    refine ⟨?_, ⟨fun id state found => (slots id state found).mono grows keeps,
      fun standing member => grows _ _ (workers standing member)⟩, fun flight member => ?_⟩
    · rw [startIds_begin, List.length_append, ← sinks, ← sinks_begun]
      rfl
    · rcases List.mem_append.mp member with old | new
      · exact fun task inTodo => (tasks flight old task inTodo).mono grows keeps
      · rw [List.mem_singleton.mp new, startIds_begin, sinks]
        exact labelled_begun _ call
  | @done number answer flight task later progress known next _ yields =>
    have same := startIds_done known progress later
    have inFlight := List.mem_of_getElem? known
    have here := tasks flight inFlight task (by rw [next]; exact List.mem_cons_self)
    obtain ⟨todo, around⟩ := yields.labelled here ⟨slots, workers⟩
    have others : ∀ other ∈ system.flights, ∀ task ∈ other.todo,
        task.Labelled system.startIds progress.registry.standings :=
      fun other member task inTodo =>
        (tasks other member task inTodo).mono (fun _ _ same => same) yields.keeps
    refine ⟨?_, ?_, fun other member => ?_⟩
    · rw [same, ← sinks]
      exact yields.sinks_eq
    · rw [same]
      exact around
    · rw [same]
      rcases List.mem_or_eq_of_mem_set member with old | rfl
      · exact others other old
      · intro task inTodo
        rcases List.mem_append.mp inTodo with fresh | left
        · exact todo task fresh
        · exact others flight inFlight task (by rw [next]; exact List.mem_cons_of_mem _ left)
  | @worked number reaction worker after deliveries known turn =>
    have keeps := turn.keeps known
    refine ⟨sinks, ⟨fun id state found => (slots id state found).mono (fun _ _ same => same) keeps,
      fun standing member => ?_⟩, fun flight inFlight task inTodo =>
        (tasks flight inFlight task inTodo).mono (fun _ _ same => same) keeps⟩
    simp only at member
    rw [Registry.standings_turn] at member
    rcases List.mem_or_eq_of_mem_set member with old | rfl
    · exact workers standing old
    · rw [turn.standing_eq]
      exact workers worker.standing
        (List.mem_of_getElem? (Registry.standings_getElem? _ known))

end System

end Arcade
