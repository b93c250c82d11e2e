/-
**When a session is gone for good.**

If only one call starts a session of a name, the name is registered once. When it is not registered
any more, nobody can register it again (`System.IsGone`), and whoever still has the worker or the
sink of the session works towards their end. So the calls that have something of the session become
fewer from then on.

* `System.spent_of_registered`: a registered session has used its one start up;
* `System.gone_of_closes`: where something of a session is put to an end, the session is gone;
* `System.gone_run`: a session that is gone stays so, and no call gets anything of it.
-/

import Arcade.Proofs.Registry.Stream

namespace Arcade

namespace System

/-! ### Starts that are used up -/

/-- Whether a session was to be started, and nobody is about to have it admitted. -/
def IsSpent (system : System) (id : SessionId) : Prop :=
  (openings id).total system = 0 ∧ id ∈ system.startIds

/-- Whether a session was registered once, as far as it ever is, and is not any more. -/
def IsGone (system : System) (id : SessionId) : Prop :=
  system.registry.state? id = none ∧ system.IsSpent id

/-- The names under which sessions were to be started are never forgotten. -/
theorem Step.startIds_prefix {system after : System} {move : Move} (step : system.Step move after) :
    system.startIds <+: after.startIds := by
  cases step with
  | begun =>
    rw [startIds_begin]
    exact List.prefix_append _ _
  | done known =>
    exact (startIds_done known _ _).symm ▸ List.prefix_rfl
  | stayed | worked | waited => exact List.prefix_rfl

theorem startIds_prefix_run (system : System) (past more : List Move) :
    (system.run past).startIds <+: (system.run (past ++ more)).startIds := by
  rw [run_append]
  refine run_induction (system.run past) (fun _ later =>
    (system.run past).startIds <+: later.startIds) List.prefix_rfl
    (fun schedule move before step => ?_) more
  exact before.trans step.startIds_prefix

/-- A name under which one session is started only is not found again later. -/
theorem getElem?_of_prefix {ids later : List SessionId} (grown : ids <+: later) {id : SessionId}
    (once : later.count id ≤ 1) (begun : id ∈ ids) {sink : SinkId}
    (found : later[sink]? = some id) :
    ids[sink]? = some id := by
  obtain ⟨more, rfl⟩ := grown
  rw [List.getElem?_append] at found
  split at found
  · exact found
  · have again := List.count_pos_iff.mpr (List.mem_of_getElem? found)
    have some := List.count_pos_iff.mpr begun
    rw [List.count_append] at once
    omega

theorem Step.count_le {system after : System} {move : Move} (step : system.Step move after)
    (id : SessionId) : system.startIds.count id ≤ after.startIds.count id :=
  step.startIds_prefix.sublist.count_le id

/-- No call comes and uses a start that is used up already. -/
theorem Step.spent {system after : System} {move : Move} (step : system.Step move after)
    {id : SessionId} (spent : system.IsSpent id) (once : after.startIds.count id ≤ 1) :
    after.IsSpent id ∧ system.admits id move = false := by
  obtain ⟨closed, begun⟩ := spent
  have some := List.count_pos_iff.mpr begun
  have kept := (step.claims_le id).2
  refine ⟨⟨by omega, step.startIds_prefix.subset begun⟩, ?_⟩
  exact Bool.toNat_eq_zero.mp (by omega)

end System

open Registry in
/-- A session becomes registered where it is admitted only. -/
theorem Task.Yields.registered {registry : Registry} {task : Task} {progress : Progress}
    (yields : task.Yields registry progress) {id : SessionId}
    (there : progress.registry.state? id ≠ none) :
    registry.state? id ≠ none ∨ task.admits registry id = true := by
  -- a slot that was put in stands where one was, or it is an admission
  have put : ∀ {after : Registry} {other : SessionId} {slot found : Slot},
      after.state? id = (if id = other then some slot.state else registry.state? id) →
      registry.slot? other = some found → after.state? id ≠ none → registry.state? id ≠ none := by
    intro after other slot found split before there
    rw [split] at there
    by_cases same : id = other
    · rw [same, registry.state?_of_slot? before]
      exact Option.some_ne_none _
    · rw [if_neg same] at there
      exact there
  have forgotten : ∀ {after : Registry} {other : SessionId},
      after.state? id = (if id = other then none else registry.state? id) →
      after.state? id ≠ none → registry.state? id ≠ none := by
    intro after other split there
    rw [split] at there
    by_cases same : id = other
    · rw [if_pos same] at there
      exact absurd rfl there
    · rw [if_neg same] at there
      exact there
  cases yields with
  | reaped =>
    obtain ⟨state, left⟩ := Option.ne_none_iff_exists'.mp there
    rw [registry.state?_of_reaped left]
    exact .inl (Option.some_ne_none _)
  | @admitted launch room =>
    by_cases same : id = launch.id
    · exact .inr (decide_eq_true ⟨same.symm, same ▸ room⟩)
    · simp only [proceed, state?_putSlot, if_neg same] at there
      exact .inl there
  | withdrawn => exact .inl (forgotten (registry.state?_forget_vacate _ _) there)
  | published found => exact .inl (put (registry.state?_putSlot_vacate _ _ _) found there)
  | halted same => exact .inl (state?_congr (registry.states_of_table same) id ▸ there)
  | parked found => exact .inl (put (registry.state?_putSlot_vacate _ _ _) found there)
  | bereft => exact .inl (forgotten (registry.state?_forget_vacate _ _) there)
  | removed => exact .inl (forgotten (registry.state?_forget _ _) there)
  | unloaded found => exact .inl (put (registry.state?_putSlot _ _ _) found there)
  | taken found => exact .inl (put (registry.state?_putSlot _ _ _) found there)
  | watched _ states => exact .inl (state?_congr states id ▸ there)
  | _ => exact .inl there

namespace System

theorem Step.registered {system after : System} {move : Move} (step : system.Step move after)
    {id : SessionId} (there : after.registry.state? id ≠ none) :
    system.registry.state? id ≠ none ∨ system.admits id move = true := by
  cases step with
  | done known next _ yields =>
    refine (yields.registered there).imp_right fun admitted => ?_
    rw [admits, task?_proceed known next]
    exact admitted
  | begun | stayed | worked | waited => exact .inl there

/-- A session that is gone stays gone. -/
theorem Step.gone {system after : System} {move : Move} (step : system.Step move after)
    {id : SessionId} (gone : system.IsGone id) (once : after.startIds.count id ≤ 1) :
    after.IsGone id := by
  obtain ⟨spent, refused⟩ := step.spent gone.2 once
  refine ⟨?_, spent⟩
  by_contra there
  rcases step.registered there with before | admitted
  · exact before gone.1
  · rw [refused] at admitted
    cases admitted

/-- A claim on a name uses its start up. -/
theorem spent_of_claims (settings : Settings) (schedule : List Move) {id : SessionId}
    (once : ((new settings).run schedule).startIds.count id ≤ 1)
    (claimed : 0 < (claims id).total ((new settings).run schedule)) :
    ((new settings).run schedule).IsSpent id := by
  have bound := claims_le_startIds settings schedule id
  exact ⟨by omega, List.count_pos_iff.mp (by omega)⟩

/-- **A registered session has used its one start up.** -/
theorem spent_of_registered (settings : Settings) (schedule : List Move) (id : SessionId) :
    ((new settings).run schedule).startIds.count id ≤ 1 →
      ((new settings).run schedule).registry.state? id ≠ none →
      ((new settings).run schedule).IsSpent id := by
  refine run_induction (new settings) (fun _ system =>
    system.startIds.count id ≤ 1 → system.registry.state? id ≠ none → system.IsSpent id)
    (fun _ there => absurd rfl there) (fun schedule move before step once there => ?_) schedule
  have bound := claims_le_startIds settings schedule id
  have bounded := (step.count_le id).trans once
  rcases step.registered there with already | admitted
  · exact (step.spent (before bounded already) once).1
  · -- the one call that may have the session admitted has done so
    have used := (step.claims_le id).2
    rw [admitted, Bool.toNat_true] at used
    exact ⟨by omega, List.count_pos_iff.mp (by omega)⟩

end System

/-! ### What is put to an end -/

/-- Whether a task puts an end to a worker or a sink of a session. The sinks are known by the names
that they were handed in with. -/
def Task.Closes (ids : List SessionId) (id : SessionId) : Task → Prop
  | .halt other _ .close | .join other _ .close => other = id
  | .close sink => ids[sink]? = some id
  | _ => False

section Closing

variable {ids : List SessionId} {id : SessionId} {registry : Registry}

/-- A task that only watches puts an end to nothing. -/
theorem not_closes_of_watched {todo : List Task}
    (harmless : ∀ next ∈ todo,
      next.watches = true ∨ (∃ id, next = .remove id) ∨ ∃ reply, next = .answer reply) :
    ∀ next ∈ todo, ¬ next.Closes ids id := by
  intro next member closes
  obtain watching | ⟨_, rfl⟩ | ⟨_, rfl⟩ := harmless next member
  · cases next <;> first | exact closes | cases watching
  · exact closes
  · exact closes

theorem not_closes_unloading (other : SessionId) (purpose : Unloading) :
    ∀ next ∈ Registry.Unloading.tasks other purpose, ¬ next.Closes ids id := by
  cases purpose <;> simp [Registry.Unloading.tasks, Task.Closes]

/-- Whoever turns a client away closes its sink. -/
theorem closes_rejection {other : SessionId} {sink : SinkId} {cause : SessionError}
    (owner : ids[sink]? = some other) {next : Task}
    (member : next ∈ (registry.rejection other sink cause).todo) (closes : next.Closes ids id) :
    other = id := by
  simp only [Registry.rejection, List.mem_cons, List.not_mem_nil, or_false] at member
  rcases member with rfl | rfl | rfl
  · cases closes
  · exact Option.some.inj (owner.symm.trans closes)
  · cases closes

open Registry in
/-- **Where an end comes from**: from another, from an admission that is refused, or from a slot
that is gone, be it that the task took it out of the table or that it did not find it there. -/
theorem Task.Yields.closes {task : Task} {progress : Progress}
    (yields : task.Yields registry progress) (here : task.Labelled ids registry.standings)
    (around : registry.Labelled ids) {next : Task} (member : next ∈ progress.todo)
    (closes : next.Closes ids id) :
    task.Closes ids id ∨
      (task.opens id = true ∧ (openings id).ofTasks progress.todo = 0 ∧
        progress.registry = registry) ∨
      (progress.registry.state? id = none ∧
        (registry.state? id ≠ none ∨ task.writesBack id = true)) := by
  cases yields with
  | unfit =>
    have same := closes_rejection here member closes
    exact .inr (.inl ⟨decide_eq_true same, rfl, rfl⟩)
  | rejected =>
    have same := closes_rejection here member closes
    exact .inr (.inl ⟨decide_eq_true same, rfl, rfl⟩)
  | reaped =>
    obtain ⟨⟨other, worker⟩, listed, rfl⟩ := List.mem_map.mp member
    have same : other = id := closes
    subst same
    obtain ⟨slot, there, running, complete⟩ := registry.mem_finished.mp listed
    refine .inr (.inr ⟨?_, .inl ?_⟩)
    · have done : registry.slotFinished slot = true := by rw [slotFinished, running]; exact complete
      have left := registry.slot?_reaped other
      rw [there, Option.filter_some, done] at left
      simp only [proceed, state?, left]
      rfl
    · rw [registry.state?_of_slot? there]
      exact Option.some_ne_none _
  | @superseded other worker gone =>
    simp only [proceed, List.mem_cons, List.not_mem_nil, or_false] at member
    rcases member with rfl | rfl
    · have same : other = id := closes
      subst same
      exact .inr (.inr ⟨by simp [proceed, state?, gone], .inr (decide_eq_true rfl)⟩)
    · cases closes
  | @halted other worker custom =>
    cases custom with
    | close =>
      rw [List.mem_singleton.mp member] at closes
      exact .inl closes
    | keep purpose =>
      rw [List.mem_singleton.mp member] at closes
      cases closes
  | @ended other number custom worker known complete =>
    cases custom with
    | close =>
      rw [List.mem_singleton.mp member] at closes
      have same : worker.session.id = other := IsWorkerOf.id_eq here known
      exact .inl (same.symm.trans (Option.some.inj ((around.owner known).symm.trans closes)))
    | keep purpose =>
      rw [List.mem_singleton.mp member] at closes
      cases closes
  | @broken other number custom worker _ known complete =>
    cases custom with
    | close => cases member
    | keep purpose =>
      rw [List.mem_singleton.mp member] at closes
      cases closes
  | @parked other sink purpose =>
    exact absurd closes (not_closes_unloading other purpose next member)
  | @vanished other purpose =>
    exact absurd closes (not_closes_unloading other purpose next member)
  | @unparked other sink purpose gone =>
    rcases List.mem_cons.mp member with rfl | rest
    · have owner : ids[sink]? = some other := here
      have same : other = id := Option.some.inj (owner.symm.trans closes)
      subst same
      exact .inr (.inr ⟨by simp [proceed, state?, gone], .inr (decide_eq_true rfl)⟩)
    · exact absurd closes (not_closes_unloading other purpose next rest)
  | @removed other slot there =>
    have same : other = id := by
      have belongs := around.slots other slot.state (registry.state?_of_slot? there)
      rcases List.mem_append.mp member with release | answers
      · cases held : slot.state with
        | running worker =>
          rw [held] at release
          rw [List.mem_singleton.mp release] at closes
          exact closes
        | unloaded sink =>
          rw [held] at release belongs
          rw [List.mem_singleton.mp release] at closes
          exact Option.some.inj (belongs.symm.trans closes)
        | pending =>
          rw [held] at release
          cases release
      · rw [List.mem_singleton.mp answers] at closes
        cases closes
    subst same
    refine .inr (.inr ⟨?_, .inl ?_⟩)
    · simp only [proceed, state?_forget, if_pos]
    · rw [registry.state?_of_slot? there]
      exact Option.some_ne_none _
  | watched _ _ _ _ _ todo => exact absurd closes (not_closes_of_watched todo next member)
  | _ =>
    refine absurd closes ?_
    clear closes
    revert next
    simp [proceed, refuse, Registry.answer, Task.Closes]

end Closing

namespace System

/-- A call puts nothing to an end when it is begun. -/
theorem not_closes_begun {ids : List SessionId} {id : SessionId} (sink : SinkId) (call : Call) :
    ∀ task ∈ call.tasks sink, ¬ task.Closes ids id := by
  have begins := call.begins sink
  generalize call.tasks sink = todo at begins ⊢
  cases begins <;> simp [Task.Closes]

/-- **Where something of a session is put to an end, the session is gone.** -/
theorem gone_of_closes (settings : Settings) (schedule : List Move) (id : SessionId) :
    ((new settings).run schedule).startIds.count id ≤ 1 →
      ∀ flight ∈ ((new settings).run schedule).flights, ∀ task ∈ flight.todo,
        task.Closes ((new settings).run schedule).startIds id →
        ((new settings).run schedule).IsGone id := by
  refine run_induction (new settings) (fun _ system =>
    system.startIds.count id ≤ 1 → ∀ flight ∈ system.flights, ∀ task ∈ flight.todo,
      task.Closes system.startIds id → system.IsGone id) (fun _ _ member => by cases member)
    (fun schedule move before step once flight inFlight task member closes => ?_) schedule
  have bounded := (step.count_le id).trans once
  have spends := spent_of_claims settings schedule bounded
  have registers := spent_of_registered settings schedule id bounded
  have labelled := labelled_run settings schedule
  have nobody := nobody_of_fresh settings schedule
  have bound := claims_le_startIds settings schedule id
  generalize (new settings).run schedule = system at *
  generalize system.move move = after at *
  -- what was put to an end before is gone and stays gone
  have already : ∀ old ∈ system.flights, ∀ left ∈ old.todo, left.Closes system.startIds id →
      after.IsGone id :=
    fun old inOld left inTodo ends => step.gone (before bounded old inOld left inTodo ends) once
  cases step with
  | stayed => exact already flight inFlight task member closes
  | waited => exact already flight inFlight task member closes
  | worked => exact already flight inFlight task member closes
  | @begun call =>
    rcases List.mem_append.mp inFlight with old | new
    · refine already flight old task member ?_
      -- the sinks of old tasks were handed in before
      cases task with
      | close sink =>
        have inside : sink < system.startIds.length := by
          by_contra beyond
          have free := (nobody sink (Nat.le_of_not_lt beyond)).1 flight old (.close sink) member
          simp [Task.carries] at free
        rw [startIds_begin, Task.Closes, List.getElem?_append_left inside] at closes
        exact closes
      | halt other worker custom => cases custom <;> exact closes
      | join other worker custom => cases custom <;> exact closes
      | _ => exact closes
    · rw [List.mem_singleton.mp new] at member
      exact absurd closes (not_closes_begun _ call task member)
  | @done number answer moved done later progress known next did yields =>
    have same := startIds_done known progress later
    rw [same] at closes
    have inOld := List.mem_of_getElem? known
    have inTodo : done ∈ moved.todo := by rw [next]; exact List.mem_cons_self
    rcases List.mem_or_eq_of_mem_set inFlight with old | rfl
    · exact already flight old task member closes
    · rcases List.mem_append.mp member with fresh | left
      · obtain ends | ⟨opens, idle, unchanged⟩ | ⟨vacant, cause⟩ :=
          yields.closes (labelled.tasks moved inOld done inTodo) labelled.registry fresh closes
        · exact already moved inOld done inTodo ends
        · -- the admission was refused, and there is no other
          have opened : 0 < (openings id).total system := by
            have counted := (openings id).task_le_ofFlights inOld inTodo
            rw [task_openings, opens, Bool.toNat_true] at counted
            rw [Census.total]
            omega
          have counted := (openings id).total_done known next progress
          simp only [ofStates_openings, idle, task_openings, opens, Bool.toNat_true] at counted
          refine ⟨?_, by omega, ?_⟩
          · simp only [unchanged]
            by_contra there
            have spent := (registers there).1
            omega
          · rw [same]
            exact List.count_pos_iff.mp (by omega)
        · have spent : system.IsSpent id := by
            rcases cause with there | writes
            · exact registers there
            · refine spends ?_
              have counted := (claims id).task_le_ofFlights inOld inTodo
              rw [task_claims, writes, Bool.toNat_true] at counted
              rw [Census.total]
              omega
          have step : system.Step (.proceed number answer) _ := .done known next did yields
          exact ⟨vacant, (step.spent spent once).1⟩
      · exact already moved inOld task (by rw [next]; exact List.mem_cons_of_mem _ left) closes

end System

/-! ### Who has something of a session -/

/-- The session that a task is to start, to unload or to give another program. -/
def Task.subject? : Task → Option SessionId
  | .build id _ _ _ | .rebuild id _ _ | .withdraw _ id _ | .publish id _ | .park id _ _
  | .unload id _ | .take id _ _ | .halt id _ (.keep _) | .join id _ (.keep _) => some id
  | .reserve launch | .acknowledge launch | .spawn launch => some launch.id
  | _ => none

/-- Whether a call starts a session, unloads it or gives it another program. -/
def Call.Alters (id : SessionId) : Call → Prop
  | .start other _ _ | .session other .unload | .session other (.changeRom _ _) => other = id
  | _ => False

/-- Whether a task has a worker or a sink of a session. -/
def Task.Touches (ids : List SessionId) (id : SessionId) : Task → Prop
  | .build other _ _ _ | .publish other _ | .halt other _ _ | .join other _ _ | .park other _ _ =>
    other = id
  | .reserve launch | .acknowledge launch | .spawn launch => launch.id = id
  | .close sink => ids[sink]? = some id
  | _ => False

/-- What a task has of a session that was started once, it has of it by the names known before. -/
theorem Task.Touches.of_prefix {ids later : List SessionId} (grown : ids <+: later) {id : SessionId}
    (once : later.count id ≤ 1) (begun : id ∈ ids) {task : Task} (touches : task.Touches later id) :
    task.Touches ids id := by
  cases task with
  | close sink => exact System.getElem?_of_prefix grown once begun touches
  | _ => exact touches

/-- Whoever has something of a session puts it to an end or alters the session. -/
theorem Task.Touches.closes_or_subject {ids : List SessionId} {id : SessionId} {task : Task}
    (touches : task.Touches ids id) : task.Closes ids id ∨ task.subject? = some id := by
  cases task with
  | halt other worker custom | join other worker custom =>
    cases custom with
    | close => exact .inl touches
    | keep purpose => exact .inr (congrArg some touches)
  | close sink => exact .inl touches
  | build | publish | park | reserve | acknowledge | spawn => exact .inr (congrArg some touches)
  | _ => cases touches

section Touching

variable {ids : List SessionId} {id : SessionId} {registry : Registry}

theorem subject?_of_watched {todo : List Task}
    (harmless : ∀ next ∈ todo,
      next.watches = true ∨ (∃ id, next = .remove id) ∨ ∃ reply, next = .answer reply) :
    ∀ next ∈ todo, next.subject? = none := by
  intro next member
  obtain watching | ⟨_, rfl⟩ | ⟨_, rfl⟩ := harmless next member
  · cases next <;> first | rfl | cases watching
  · rfl
  · rfl

theorem subject?_unloading (other : SessionId) (purpose : Unloading) :
    ∀ next ∈ Registry.Unloading.tasks other purpose, next.subject? = some id → other = id := by
  cases purpose <;> simp [Registry.Unloading.tasks, Task.subject?]

open Registry in
/-- A task goes on with the session that it was about. -/
theorem Task.Yields.subject? {task : Task} {progress : Progress}
    (yields : task.Yields registry progress) {next : Task} (member : next ∈ progress.todo)
    (about : next.subject? = some id) : task.subject? = some id := by
  cases yields with
  | reaped =>
    obtain ⟨entry, -, rfl⟩ := List.mem_map.mp member
    cases about
  | @ended other number custom =>
    cases custom with
    | close =>
      rw [List.mem_singleton.mp member] at about
      cases about
    | keep purpose =>
      rw [List.mem_singleton.mp member] at about
      exact about
  | @broken other number custom =>
    cases custom with
    | close => cases member
    | keep purpose =>
      rw [List.mem_singleton.mp member] at about
      exact about
  | @halted other worker custom =>
    rw [List.mem_singleton.mp member] at about
    cases custom with
    | close => cases about
    | keep purpose => exact about
  | @removed other slot =>
    rcases List.mem_append.mp member with release | answers
    · cases held : slot.state with
      | pending =>
        rw [held] at release
        cases release
      | _ =>
        rw [held] at release
        rw [List.mem_singleton.mp release] at about
        cases about
    · rw [List.mem_singleton.mp answers] at about
      cases about
  | @parked other _ purpose | @vanished other purpose =>
    exact congrArg some (subject?_unloading other purpose next member about)
  | @unparked other sink purpose =>
    rcases List.mem_cons.mp member with rfl | rest
    · cases about
    · exact congrArg some (subject?_unloading other purpose next rest about)
  | watched _ _ _ _ _ todo =>
    rw [subject?_of_watched todo next member] at about
    cases about
  | _ =>
    revert about
    revert next
    simp [proceed, refuse, Registry.answer, rejection, Task.subject?]

/-- The tasks that are left after a session was unloaded have nothing of it. -/
theorem not_touches_unloading (other : SessionId) (purpose : Unloading) :
    ∀ next ∈ Registry.Unloading.tasks other purpose, ¬ next.Touches ids id := by
  cases purpose <;> simp [Registry.Unloading.tasks, Task.Touches]

theorem not_touches_of_watched {todo : List Task}
    (harmless : ∀ next ∈ todo,
      next.watches = true ∨ (∃ id, next = .remove id) ∨ ∃ reply, next = .answer reply) :
    ∀ next ∈ todo, ¬ next.Touches ids id := by
  intro next member touches
  rcases touches.closes_or_subject with closes | about
  · exact not_closes_of_watched harmless next member closes
  · rw [subject?_of_watched harmless next member] at about
    cases about

open Registry in
/-- **Nobody gets anything of a session that is not registered**: a task that leads to one that has
something of it has something of it itself. -/
theorem Task.Yields.touches {task : Task} {progress : Progress}
    (yields : task.Yields registry progress) (here : task.Labelled ids registry.standings)
    (around : registry.Labelled ids) (vacant : registry.state? id = none) {next : Task}
    (member : next ∈ progress.todo) (touches : next.Touches ids id) : task.Touches ids id := by
  -- a slot that was found is not the session's
  have elsewhere : ∀ {other : SessionId} {slot : Slot}, registry.slot? other = some slot →
      other ≠ id := by
    rintro other slot there rfl
    rw [registry.state?_of_slot? there] at vacant
    cases vacant
  -- the sink of a client that is turned away
  have refused : ∀ {other : SessionId} {sink : SinkId} {cause : SessionError},
      ids[sink]? = some other → next ∈ (registry.rejection other sink cause).todo → other = id := by
    intro other sink cause owner inTodo
    rcases touches.closes_or_subject with closes | about
    · exact closes_rejection owner inTodo closes
    · simp only [rejection, List.mem_cons, List.not_mem_nil, or_false] at inTodo
      rcases inTodo with rfl | rfl | rfl <;> cases about
  cases yields with
  | unfit => exact refused here member
  | rejected => exact refused here member
  | @built other =>
    simp only [proceed, List.mem_cons, List.not_mem_nil, or_false] at member
    rcases member with rfl | rfl
    · cases touches
    · exact touches
  | reaped =>
    obtain ⟨⟨other, worker⟩, listed, rfl⟩ := List.mem_map.mp member
    obtain ⟨slot, there, -⟩ := registry.mem_finished.mp listed
    exact absurd touches (elsewhere there)
  | admitted | acknowledged | spawned =>
    rw [List.mem_singleton.mp member] at touches
    exact touches
  | unacknowledged | unspawned =>
    rw [List.mem_singleton.mp member] at touches
    cases touches
  | superseded =>
    simp only [proceed, List.mem_cons, List.not_mem_nil, or_false] at member
    rcases member with rfl | rfl
    · exact touches
    · cases touches
  | halted =>
    rw [List.mem_singleton.mp member] at touches
    exact touches
  | @ended other number custom worker known complete =>
    cases custom with
    | close =>
      rw [List.mem_singleton.mp member] at touches
      have same : worker.session.id = other := IsWorkerOf.id_eq here known
      exact same.symm.trans (Option.some.inj ((around.owner known).symm.trans touches))
    | keep purpose =>
      rw [List.mem_singleton.mp member] at touches
      exact touches
  | @broken other number custom =>
    cases custom with
    | close => cases member
    | keep purpose =>
      rw [List.mem_singleton.mp member] at touches
      exact touches
  | @parked other sink purpose =>
    exact absurd touches (not_touches_unloading other purpose next member)
  | @vanished other purpose =>
    exact absurd touches (not_touches_unloading other purpose next member)
  | @unparked other sink purpose gone =>
    rcases List.mem_cons.mp member with rfl | rest
    · have owner : ids[sink]? = some other := here
      exact Option.some.inj (owner.symm.trans touches)
    · exact absurd touches (not_touches_unloading other purpose next rest)
  | @removed other slot there =>
    have belongs := around.slots other slot.state (registry.state?_of_slot? there)
    rcases List.mem_append.mp member with release | answers
    · cases held : slot.state with
      | running worker =>
        rw [held] at release
        rw [List.mem_singleton.mp release] at touches
        exact absurd touches (elsewhere there)
      | unloaded sink =>
        rw [held] at release belongs
        rw [List.mem_singleton.mp release] at touches
        exact absurd (Option.some.inj (belongs.symm.trans touches)) (elsewhere there)
      | pending =>
        rw [held] at release
        cases release
    · rw [List.mem_singleton.mp answers] at touches
      cases touches
  | @unloaded other purpose slot worker there =>
    rw [List.mem_singleton.mp member] at touches
    exact absurd touches (elsewhere there)
  | @taken other rom machine slot sink there =>
    rw [List.mem_singleton.mp member] at touches
    exact absurd touches (elsewhere there)
  | rebuilt | passed =>
    rw [List.mem_singleton.mp member] at touches
    cases touches
  | watched _ _ _ _ _ todo => exact absurd touches (not_touches_of_watched todo next member)
  | _ => cases member

end Touching

namespace System

theorem subject?_begun {id : SessionId} (sink : SinkId) (call : Call) :
    ∀ task ∈ call.tasks sink, task.subject? = some id → call.Alters id := by
  have begins := call.begins sink
  generalize call.tasks sink = todo at begins ⊢
  cases begins <;> simp [Task.subject?, Call.Alters]

/-- Only calls that alter a session deal with it beyond putting it to an end. -/
theorem alters_run (settings : Settings) (schedule : List Move) :
    ∀ flight ∈ ((new settings).run schedule).flights, ∀ task ∈ flight.todo, ∀ id,
      task.subject? = some id → flight.call.Alters id := by
  refine flights_induction settings (fun flight => ∀ task ∈ flight.todo, ∀ id,
      task.subject? = some id → flight.call.Alters id)
    (fun call sink task member _ about => subject?_begun sink call task member about)
    (fun {_ flight task later _ progress} before next did other member id about => ?_) schedule
  rcases List.mem_append.mp member with fresh | left
  · exact before task (by rw [next]; exact List.mem_cons_self) id
      ((Task.yields_of_step did).subject? fresh about)
  · exact before other (by rw [next]; exact List.mem_cons_of_mem _ left) id about

/-- A call that is begun has something of the session only that it starts. -/
theorem starts?_of_touches {ids : List SessionId} {id : SessionId} (sink : SinkId) (call : Call) :
    ∀ task ∈ call.tasks sink, task.Touches ids id → id ∈ call.starts?.toList := by
  have begins := call.begins sink
  generalize call.tasks sink = todo at begins ⊢
  cases begins with
  | start =>
    intro task member touches
    rw [List.mem_singleton.mp member] at touches
    exact List.mem_singleton.mpr touches.symm
  | _ => simp [Task.Touches]

/-- Whether a call has something of a session. -/
def Touches (system : System) (id : SessionId) (number : Nat) : Prop :=
  ∃ flight task, system.flights[number]? = some flight ∧ task ∈ flight.todo ∧
    task.Touches system.startIds id

/-- **While a session is registered, only calls that alter it have something of it.** -/
theorem alters_of_touches {settings : Settings} {schedule : List Move} {id : SessionId}
    (once : ((new settings).run schedule).startIds.count id ≤ 1)
    (there : ((new settings).run schedule).registry.state? id ≠ none) {number : Nat}
    {flight : Flight} (known : ((new settings).run schedule).flights[number]? = some flight)
    (touches : ((new settings).run schedule).Touches id number) : flight.call.Alters id := by
  obtain ⟨other, task, found, member, touching⟩ := touches
  rw [known] at found
  cases found
  have inFlight := List.mem_of_getElem? known
  rcases touching.closes_or_subject with closes | about
  · exact absurd (gone_of_closes settings schedule id once flight inFlight task member closes).1
      there
  · exact alters_run settings schedule flight inFlight task member id about

/-- **Once a session is gone, no call gets anything of it.** -/
theorem Step.touches {system after : System} {move : Move} (step : system.Step move after)
    (labelled : system.Labelled) {id : SessionId} (gone : system.IsGone id)
    (once : after.startIds.count id ≤ 1) {number : Nat} (touches : after.Touches id number) :
    system.Touches id number := by
  obtain ⟨flight, task, known, member, touching⟩ := touches
  have grown := step.startIds_prefix
  cases step with
  | stayed => exact ⟨flight, task, known, member, touching⟩
  | waited => exact ⟨flight, task, known, member, touching⟩
  | worked => exact ⟨flight, task, known, member, touching⟩
  | @begun call =>
    -- the call that is begun does not start a session of the name
    have other : id ∉ call.starts?.toList := by
      intro again
      have more := List.count_pos_iff.mpr again
      have some := List.count_pos_iff.mpr gone.2.2
      rw [startIds_begin, List.count_append] at once
      omega
    rcases Nat.lt_or_ge number system.flights.length with old | new
    · simp only [begin, List.getElem?_append_left old] at known
      exact ⟨flight, task, known, member, touching.of_prefix grown once gone.2.2⟩
    · simp only [begin, List.getElem?_append_right new] at known
      rw [List.mem_singleton.mp (List.mem_of_getElem? known)] at member
      exact absurd (starts?_of_touches _ call task member touching) other
  | @done other answer moved done later progress found next _ yields =>
    have same := startIds_done found progress later
    rw [same] at touching
    have inTodo : done ∈ moved.todo := by rw [next]; exact List.mem_cons_self
    by_cases this : other = number
    · subst this
      rw [List.getElem?_set_self (List.getElem?_eq_some_iff.mp found).1] at known
      cases known
      rcases List.mem_append.mp member with fresh | left
      · exact ⟨moved, done, found, inTodo, yields.touches
          (labelled.tasks moved (List.mem_of_getElem? found) done inTodo) labelled.registry gone.1
          fresh touching⟩
      · exact ⟨moved, task, found, by rw [next]; exact List.mem_cons_of_mem _ left, touching⟩
    · rw [List.getElem?_set_ne this] at known
      exact ⟨flight, task, known, member, touching⟩

/-- **A session that is gone stays gone, and fewer and fewer calls have something of it.** -/
theorem gone_run {settings : Settings} {past : List Move} {id : SessionId}
    (gone : ((new settings).run past).IsGone id) (more : List Move) :
    ((new settings).run (past ++ more)).startIds.count id ≤ 1 →
      ((new settings).run (past ++ more)).IsGone id ∧
        ∀ number, ((new settings).run (past ++ more)).Touches id number →
          ((new settings).run past).Touches id number := by
  rw [run_append]
  refine run_induction ((new settings).run past) (fun _ system =>
    system.startIds.count id ≤ 1 → system.IsGone id ∧
      ∀ number, system.Touches id number → ((new settings).run past).Touches id number)
    (fun _ => ⟨gone, fun _ touches => touches⟩) (fun schedule move before step once => ?_) more
  have labelled := labelled_run settings (past ++ schedule)
  rw [run_append] at labelled
  obtain ⟨still, fewer⟩ := before ((step.count_le id).trans once)
  exact ⟨step.gone still once, fun number touches =>
    fewer number (step.touches labelled still once touches)⟩

end System

end Arcade
