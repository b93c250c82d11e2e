/-
**Every call can return.**

A call never waits for another one. It waits for workers only, and only for those that it told to
stop: such a worker is done after two steps of its own, since its gate stays closed. The tasks have
ranks, and what a task leads to has lower ranks, so a call comes to its end.

* `Task.rank_lt`: what a task leads to has lower ranks;
* `System.leaving_run`: a worker that is waited for was told to stop, or is done;
* `System.canReach_quiet`: whatever happened so far, the calls in progress can return.
-/

import Arcade.Proofs.Registry.Labels

namespace Arcade

/-! ### Ranks -/

/-- How far a task is from the end of its call. -/
def Task.rank : Task → Nat
  | .answer _ | .tell _ _ | .close _ | .withdraw _ _ _ | .steer _ _ _ | .press _ _ _ | .count _
  | .contains _ | .list | .catalog => 0
  | .seek _ _ | .record _ _ | .join _ _ .close => 1
  | .halt _ _ .close => 2
  | .remove _ | .publish _ _ | .reap => 3
  | .sweep | .shutdown | .spawn _ => 4
  | .acknowledge _ => 5
  | .take _ _ _ | .reserve _ => 6
  | .park _ _ _ | .build _ _ _ _ => 7
  | .join _ _ (.keep _) => 8
  | .halt _ _ (.keep _) => 9
  | .unload _ _ => 10
  | .rebuild _ _ _ => 11

section Ranks

open Registry

variable {registry : Registry} {answer : Except SinkError Unit} {task : Task}
  {progress : Progress}

theorem Task.rank_lt_twelve (task : Task) : task.rank < 12 := by
  unfold rank
  split <;> omega

theorem rank_unloading (id : SessionId) (purpose : Unloading) :
    ∀ next ∈ Unloading.tasks id purpose, next.rank < 7 := by
  cases purpose <;> simp [Unloading.tasks, Task.rank]

theorem rank_custody (id : SessionId) (number : WorkerId) (sink : Option SinkId)
    (custody : Custody) :
    ∀ next ∈ Custody.tasks id sink custody, next.rank < (Task.join id number custody).rank := by
  cases custody <;> cases sink <;> simp [Custody.tasks, Task.rank]

theorem rank_release (id : SessionId) (state : SlotState) :
    ∀ next ∈ SlotState.releaseTasks id state, next.rank < 3 := by
  cases state <;> simp [SlotState.releaseTasks, Task.rank]

theorem rank_lt_of_watches (watches : task.watches = true)
    (did : task.step registry answer = some progress) :
    ∀ next ∈ progress.todo, next.rank < task.rank := by
  cases task with
  | seek id steering =>
    cases did
    unfold seek
    split
    · simp [refuse, Registry.answer]
    · split <;> simp [proceed, refuse, Registry.answer, Task.rank]
  | record id event =>
    cases did
    unfold record
    split
    · simp [refuse, Registry.answer]
    · dsimp only
      split <;> simp [proceed, refuse, Registry.answer, Task.rank]
  | steer id number steering =>
    cases did
    unfold steer
    split <;> simp [refuse, Registry.answer]
  | press id number event =>
    cases did
    unfold press
    split
    · simp [refuse, Registry.answer]
    · split <;> simp [refuse, Registry.answer]
  | sweep | shutdown =>
    cases did
    intro next member
    rcases List.mem_append.mp member with removal | last
    · obtain ⟨id, -, rfl⟩ := List.mem_map.mp removal
      exact Nat.lt_add_one 3
    · rw [List.mem_singleton.mp last]
      exact Nat.zero_lt_succ 3
  | count | contains | list | catalog =>
    cases did
    simp [Registry.answer]
  | _ => cases watches

/-- **What a task leads to has lower ranks.** -/
theorem Task.rank_lt (did : task.step registry answer = some progress) :
    ∀ next ∈ progress.todo, next.rank < task.rank := by
  cases Task.yields_of_step did with
  | watched watches => exact rank_lt_of_watches watches did
  | @ended id number custody worker => exact rank_custody id number (some worker.sink) custody
  | @broken id number custody => exact rank_custody id number none custody
  | parked | vanished => exact rank_unloading _ _
  | unparked =>
    intro next member
    rcases List.mem_cons.mp member with rfl | rest
    · exact Nat.zero_lt_succ 6
    · exact rank_unloading _ _ next rest
  | @removed id slot =>
    intro next member
    rcases List.mem_append.mp member with release | last
    · exact rank_release id slot.state next release
    · rw [List.mem_singleton.mp last]
      exact Nat.zero_lt_succ 2
  | reaped =>
    intro next member
    obtain ⟨entry, -, rfl⟩ := List.mem_map.mp member
    exact Nat.lt_add_one 2
  | @halted id number custody => cases custody <;> simp [proceed, Task.rank]
  | _ => simp [proceed, refuse, Registry.answer, rejection, Task.rank]

end Ranks

/-! ### Workers that were told to stop -/

namespace Session

variable {M : Type} (session : Session M)

theorem frame_applyParams :
    session.applyParams.gate = session.gate ∧ session.applyParams.machine = session.machine ∧
      session.applyParams.params.connected = session.params.connected := by
  have kept (changes : List ParamChange) (first : Session M) :
      (changes.foldl applyChange first).gate = first.gate ∧
        (changes.foldl applyChange first).machine = first.machine ∧
          (changes.foldl applyChange first).params = first.params := by
    induction changes generalizing first with
    | nil => exact ⟨rfl, rfl, rfl⟩
    | cons change rest ih =>
      have once : (first.applyChange change).gate = first.gate ∧
          (first.applyChange change).machine = first.machine ∧
            (first.applyChange change).params = first.params := by
        unfold applyChange
        split <;> split <;> exact ⟨rfl, rfl, rfl⟩
      rw [List.foldl_cons]
      have later := ih (first.applyChange change)
      exact ⟨later.1.trans once.1, later.2.1.trans once.2.1, later.2.2.trans once.2.2⟩
  obtain ⟨gate, machine, params⟩ := kept (changesBeforeWake session.params.waiting).1
    { session with params := session.params.discard (changesBeforeWake session.params.waiting).2 }
  exact ⟨gate, machine, (congrArg Channel.connected params : _)⟩

end Session

namespace Worker

/-- Whether a worker is done, or was told to stop. -/
def IsLeaving (worker : Worker) : Prop :=
  worker.isFinished = true ∨ worker.session.gate = .stopped

variable {worker : Worker}

theorem IsLeaving.step (leaving : worker.IsLeaving) (now : Moment) (reaction : Reaction) :
    (worker.step now reaction).worker.IsLeaving := by
  rcases leaving with finished | closed
  · rw [step_of_finished _ _ _ finished]
    exact .inl finished
  · cases was : worker.phase with
    | ready =>
      simp only [Worker.step, was, Session.begin, closed]
      exact .inl rfl
    | offering pixels =>
      cases reaction with
      | answers answer =>
        cases answer with
        | ok _ =>
          simp only [Worker.step, was, Session.concludeFrame]
          exact .inr (worker.session.frame_applyParams.1.trans closed)
        | error cause =>
          simp only [Worker.step, was, Session.concludeFrame]
          exact .inl rfl
      | breaks =>
        simp only [Worker.step, was]
        exact .inl rfl
    | reporting cause =>
      cases reaction <;> simp only [Worker.step, was] <;> exact .inl rfl
    | ended | broken =>
      rw [step_of_finished _ _ _ (by rw [isFinished, was]; rfl)]
      exact .inr closed

/-- A worker that was told to stop is done after two steps, if its client accepts. -/
theorem IsLeaving.finished_twice (leaving : worker.IsLeaving) (now later : Moment) :
    ((worker.step now .accepts).worker.step later .accepts).worker.isFinished = true := by
  have finished {before : Worker} {moment : Moment} (done : before.isFinished = true) :
      (before.step moment .accepts).worker.isFinished = true := by
    rw [step_of_finished _ _ _ done]
    exact done
  rcases leaving with done | closed
  · exact finished (finished done)
  · cases was : worker.phase with
    | ready =>
      refine finished ?_
      simp only [Worker.step, was, Session.begin, closed]
      rfl
    | offering pixels =>
      have gate := worker.session.frame_applyParams.1.trans closed
      simp only [Worker.step, was, Reaction.accepts, Session.concludeFrame, Session.begin, gate]
      rfl
    | reporting cause =>
      refine finished ?_
      simp only [Worker.step, was, Reaction.accepts]
      rfl
    | ended | broken => exact finished (finished (by rw [isFinished, was]; rfl))

end Worker

namespace Registry

variable {registry after : Registry} {number other : WorkerId}

theorem now_work (number : WorkerId) (reaction : Reaction) :
    (registry.work number reaction).now = registry.now := by
  unfold work
  split <;> rfl

theorem worker?_work (registry : Registry) (number : WorkerId) (reaction : Reaction) :
    (registry.work number reaction).worker? number =
      (registry.worker? number).map fun worker => (worker.step registry.now reaction).worker := by
  unfold work
  split
  · rename_i absent
    rw [absent]
    rfl
  · rename_i worker known
    rw [known]
    exact List.getElem?_set_self (List.getElem?_eq_some_iff.mp known).1

theorem worker?_modifyWorker_self (registry : Registry) (number : WorkerId)
    (change : Worker → Worker) :
    (registry.modifyWorker number change).worker? number =
      (registry.worker? number).map change := by
  rw [worker?, modifyWorker, List.getElem?_modify]
  simp [worker?]

theorem worker?_modifyWorker_ne (registry : Registry) {number other : WorkerId}
    (change : Worker → Worker) (different : number ≠ other) :
    (registry.modifyWorker number change).worker? other = registry.worker? other := by
  rw [worker?, modifyWorker, List.getElem?_modify]
  simp [worker?, different]

theorem gate_putParams {session queued : Session Console} {message : ParamMessage}
    (accepted : session.putParams message = .ok queued) : queued.gate = session.gate := by
  simp only [Session.putParams, bind, Except.bind] at accepted
  split at accepted
  · cases accepted
  · cases accepted
    rfl

theorem gate_stop (session : Session Console) : session.stop.gate = .stopped := by
  simp only [Session.stop]
  split
  · rename_i woken accepted
    exact gate_putParams accepted
  · rfl

/-- A stopped session is not steered back. -/
theorem gate_steered (id : SessionId) {session : Session Console} (steering : Steering)
    (closed : session.gate = .stopped) : (steered id session steering).2.gate = .stopped := by
  cases steering with
  | pause => exact (congrArg (·.control .pause) closed).trans (Gate.stopped_of_stopped .pause)
  | unpause => exact (congrArg (·.control .unpause) closed).trans (Gate.stopped_of_stopped .unpause)
  | toggle => exact (congrArg (·.control .toggle) closed).trans (Gate.stopped_of_stopped .toggle)
  | isPaused => exact closed
  | change change =>
    simp only [steered]
    split
    · rename_i queued accepted
      exact (gate_putParams accepted).trans closed
    · exact closed

/-- Whether the worker of a number is done, or was told to stop. -/
def Leaving (registry : Registry) (number : WorkerId) : Prop :=
  ∃ worker, registry.worker? number = some worker ∧ worker.IsLeaving

theorem Leaving.of_workers (leaving : registry.Leaving number)
    (same : after.workers = registry.workers) : after.Leaving number := by
  obtain ⟨worker, known, leaves⟩ := leaving
  exact ⟨worker, by rw [worker?, same]; exact known, leaves⟩

theorem Leaving.modifyWorker {change : Worker → Worker} (leaving : registry.Leaving number)
    (keeps : ∀ worker, registry.worker? other = some worker → worker.IsLeaving →
      (change worker).IsLeaving) : (registry.modifyWorker other change).Leaving number := by
  obtain ⟨worker, known, leaves⟩ := leaving
  by_cases same : other = number
  · subst same
    exact ⟨change worker, by rw [worker?_modifyWorker_self, known]; rfl, keeps worker known leaves⟩
  · exact ⟨worker, (worker?_modifyWorker_ne _ _ same).trans known, leaves⟩

theorem Leaving.work (leaving : registry.Leaving number) (reaction : Reaction) :
    (registry.work other reaction).Leaving number := by
  obtain ⟨worker, known, leaves⟩ := leaving
  by_cases same : other = number
  · subst same
    exact ⟨_, by rw [worker?_work, known]; rfl, leaves.step _ _⟩
  · exact ⟨worker, (workers_work _ _ _ _ same).trans known, leaves⟩

theorem Leaving.watched {answer : Except SinkError Unit} {task : Task} {progress : Progress}
    (leaving : registry.Leaving number) (watches : task.watches = true)
    (did : task.step registry answer = some progress) : progress.registry.Leaving number := by
  cases task with
  | seek id steering =>
    cases did
    unfold seek
    split
    · exact leaving
    · split <;> exact leaving
  | record id event =>
    cases did
    unfold record
    split
    · exact leaving
    · dsimp only
      split <;> exact leaving
  | steer id number steering =>
    cases did
    unfold steer
    split
    · exact leaving
    · rename_i worker known
      refine leaving.modifyWorker fun same also => Or.imp_right fun closed => ?_
      obtain rfl := Option.some.inj (known.symm.trans also)
      exact gate_steered id steering closed
  | press id number event =>
    cases did
    unfold press
    split
    · exact leaving
    · split
      · rename_i worker known _ machine sent
        exact leaving.modifyWorker fun _ _ leaves => leaves
      · exact leaving
  | sweep | shutdown | count | contains | list | catalog =>
    cases did
    exact leaving
  | _ => cases watches

/-- A worker that was told to stop is not told otherwise. -/
theorem Leaving.done {answer : Except SinkError Unit} {task : Task} {progress : Progress}
    (leaving : registry.Leaving number) (did : task.step registry answer = some progress) :
    progress.registry.Leaving number := by
  cases Task.yields_of_step did with
  | watched watches => exact leaving.watched watches did
  | halted =>
    cases did
    exact leaving.modifyWorker fun worker _ _ => .inr (gate_stop worker.session)
  | ended | broken => exact leaving.modifyWorker fun _ _ => id
  | spawned =>
    obtain ⟨worker, known, leaves⟩ := leaving
    exact ⟨worker, (List.getElem?_append_left (List.getElem?_eq_some_iff.mp known).1).trans known,
      leaves⟩
  | reaped => exact leaving.of_workers registry.workers_reaped
  | withdrawn | published | parked | bereft =>
    exact leaving.of_workers (registry.workers_vacate _)
  | _ => exact leaving

/-- A call waits for a worker only after telling it to stop. -/
theorem halt_of_join {answer : Except SinkError Unit} {task : Task} {progress : Progress}
    {id : SessionId} {custody : Custody} (did : task.step registry answer = some progress)
    (waits : .join id number custody ∈ progress.todo) : task = .halt id number custody := by
  cases Task.yields_of_step did with
  | halted =>
    obtain ⟨rfl, rfl, rfl⟩ := by simpa [proceed] using waits
    rfl
  | watched _ _ _ _ _ todo =>
    rcases todo _ waits with watches | ⟨id, same⟩ | ⟨reply, same⟩
    · cases watches
    · cases same
    · cases same
  | reaped => simp [proceed] at waits
  | @ended id number custody => cases custody <;> simp [proceed, Custody.tasks] at waits
  | @broken id number custody => cases custody <;> simp [proceed, Custody.tasks] at waits
  | @removed id slot =>
    cases held : slot.state <;> simp [proceed, held, SlotState.releaseTasks] at waits
  | @parked id sink purpose | @unparked id sink purpose | @vanished id purpose =>
    cases purpose <;> simp [proceed, Unloading.tasks] at waits
  | _ => simp [proceed, refuse, Registry.answer, rejection] at waits

theorem leaving_halt {id : SessionId} (belongs : IsWorkerOf registry.standings id number)
    (custody : Custody) : (registry.halt id number custody).registry.Leaving number := by
  obtain ⟨worker, known, -⟩ := belongs.exists_worker
  refine ⟨{ worker with session := worker.session.stop }, ?_, .inr (gate_stop worker.session)⟩
  exact (registry.worker?_modifyWorker_self number _).trans (congrArg (Option.map _) known)

end Registry

theorem Call.join_not_mem_tasks (call : Call) (sink : SinkId) (id : SessionId) (number : WorkerId)
    (custody : Custody) : .join id number custody ∉ call.tasks sink := by
  have begins := call.begins sink
  generalize call.tasks sink = todo at begins ⊢
  cases begins <;> simp

/-- Whether a move lets a call or a worker go on whose client accepts. -/
def Move.goesOn : Move → Bool
  | .proceed _ (.ok _) | .work _ (.answers (.ok _)) => true
  | .proceed _ (.error _) | .work _ _ | .begin _ | .wait _ => false

namespace System

/-- **A worker that is waited for was told to stop, or is done.** -/
theorem leaving_run (settings : Settings) (schedule : List Move) :
    ∀ flight ∈ ((new settings).run schedule).flights, ∀ id number custody,
      .join id number custody ∈ flight.todo →
        ((new settings).run schedule).registry.Leaving number := by
  refine run_induction (new settings) (fun _ system =>
    ∀ flight ∈ system.flights, ∀ id number custody, .join id number custody ∈ flight.todo →
      system.registry.Leaving number) (fun _ member => by cases member)
    (fun schedule move before step => ?_) schedule
  have labelled := (labelled_run settings schedule).tasks
  generalize (new settings).run schedule = system at before step labelled
  intro flight member id number custody waits
  cases move with
  | begin call =>
    rcases List.mem_append.mp member with old | new
    · exact before flight old id number custody waits
    · rw [List.mem_singleton.mp new] at waits
      exact absurd waits (call.join_not_mem_tasks _ id number custody)
  | proceed index answer =>
    generalize system.move (.proceed index answer) = after at step member
    cases step with
    | stayed => exact before flight member id number custody waits
    | @done _ _ moved task later progress known next did =>
      have inFlight := List.mem_of_getElem? known
      rcases List.mem_or_eq_of_mem_set member with old | rfl
      · exact (before flight old id number custody waits).done did
      · rcases List.mem_append.mp waits with fresh | left
        · obtain rfl := Registry.halt_of_join did fresh
          have belongs : IsWorkerOf system.registry.standings id number :=
            labelled moved inFlight (.halt id number custody)
              (by rw [next]; exact List.mem_cons_self)
          cases did
          exact Registry.leaving_halt belongs custody
        · have old := before moved inFlight id number custody
            (by rw [next]; exact List.mem_cons_of_mem _ left)
          exact old.done did
  | work other reaction => exact (before flight member id number custody waits).work reaction
  | wait span => exact before flight member id number custody waits

/-! ### Ways to the end -/

/-- Whether a schedule can go on such that something holds. -/
def CanReach (settings : Settings) (schedule : List Move) (goal : System → Prop) : Prop :=
  ∃ more, (∀ move ∈ more, move.goesOn = true) ∧ goal ((new settings).run (schedule ++ more))

section Ways

variable {settings : Settings} {schedule : List Move} {goal between : System → Prop}

theorem CanReach.here (holds : goal ((new settings).run schedule)) :
    CanReach settings schedule goal := by
  refine ⟨[], fun _ member => (by cases member), ?_⟩
  rwa [List.append_nil]

theorem CanReach.onward (first : CanReach settings schedule between)
    (rest : ∀ more, between ((new settings).run (schedule ++ more)) →
      CanReach settings (schedule ++ more) goal) : CanReach settings schedule goal := by
  obtain ⟨more, goes, holds⟩ := first
  obtain ⟨further, also, reached⟩ := rest more holds
  refine ⟨more ++ further, fun move member => ?_, by rwa [← List.append_assoc]⟩
  exact (List.mem_append.mp member).elim (goes move) (also move)

variable {number : Nat} {flight : Flight} {task : Task} {later : List Task}

/-- A task that is next can be done, at the latest when a worker has made two steps. -/
theorem canReach_did (known : ((new settings).run schedule).flights[number]? = some flight)
    (next : flight.todo = task :: later) :
    CanReach settings schedule fun system =>
      system.flights = ((new settings).run schedule).flights ∧
        ∃ progress, task.step system.registry (.ok ()) = some progress := by
  cases did : task.step ((new settings).run schedule).registry (.ok ()) with
  | some progress => exact .here ⟨rfl, progress, did⟩
  | none =>
    -- the worker that is waited for takes its steps first
    obtain ⟨id, awaited, custody, rfl, -⟩ := Task.step_eq_none.mp did
    obtain ⟨worker, there, leaves⟩ := leaving_run settings schedule flight
      (List.mem_of_getElem? known) id awaited custody (by rw [next]; exact List.mem_cons_self)
    refine ⟨[.work awaited .accepts, .work awaited .accepts], fun move member => ?_, ?_⟩
    · simp only [List.mem_cons, List.not_mem_nil, or_false, or_self] at member
      rw [member]
      rfl
    · rw [run_append]
      generalize (new settings).run schedule = system at there
      refine ⟨rfl, Option.ne_none_iff_exists'.mp fun waits => ?_⟩
      obtain ⟨_, _, _, same, running⟩ := Task.step_eq_none.mp waits
      cases same
      simp only [run, List.foldl, move, Registry.isFinished, Registry.worker?_work, there,
        Option.map_some, leaves.finished_twice] at running
      cases running

/-- A call can do what is next, and is left with what comes of it. -/
theorem canReach_lower (known : ((new settings).run schedule).flights[number]? = some flight)
    (next : flight.todo = task :: later) :
    CanReach settings schedule fun system =>
      ∃ moved fresh, system.flights = ((new settings).run schedule).flights.set number moved ∧
        moved.todo = fresh ++ later ∧ ∀ next ∈ fresh, next.rank < task.rank := by
  refine (canReach_did known next).onward fun more reached => ?_
  obtain ⟨same, progress, did⟩ := reached
  refine ⟨[.proceed number (.ok ())], fun move member => List.mem_singleton.mp member ▸ rfl,
    flight.advance progress later, progress.todo, ?_, rfl, Task.rank_lt did⟩
  rw [run_concat, ← same]
  rw [← same] at known
  exact congrArg System.flights (move_did known next did)

/-- A call can do tasks of bounded ranks and all that comes of them. -/
theorem canReach_through (bound : Nat) :
    ∀ {todo later : List Task}, (∀ task ∈ todo, task.rank < bound) →
      ∀ {schedule : List Move} {flight : Flight},
        ((new settings).run schedule).flights[number]? = some flight →
        flight.todo = todo ++ later → CanReach settings schedule fun system =>
          ∃ moved, system.flights = ((new settings).run schedule).flights.set number moved ∧
            moved.todo = later := by
  induction bound using Nat.strong_induction_on with
  | h bound lower =>
    intro todo later low
    induction todo with
    | nil =>
      intro schedule flight known complete
      obtain ⟨inside, rfl⟩ := List.getElem?_eq_some_iff.mp known
      exact .here ⟨_, (List.set_getElem_self inside).symm, complete⟩
    | cons task rest ih =>
      intro schedule flight known next
      have inside := (List.getElem?_eq_some_iff.mp known).1
      refine (canReach_lower known next).onward fun more reached => ?_
      obtain ⟨moved, fresh, same, left, ranks⟩ := reached
      have here : ((new settings).run (schedule ++ more)).flights[number]? = some moved := by
        rw [same]
        exact List.getElem?_set_self inside
      refine (lower task.rank (low task List.mem_cons_self) ranks here left).onward
        fun further reached => ?_
      obtain ⟨onward, also, remaining⟩ := reached
      have there : ((new settings).run (schedule ++ more ++ further)).flights[number]? =
          some onward := by
        rw [also, same, List.set_set]
        exact List.getElem?_set_self inside
      refine (ih (fun task member => low task (List.mem_cons_of_mem _ member)) there
        remaining).onward fun final reached => ?_
      obtain ⟨returned, last, complete⟩ := reached
      refine .here ⟨returned, ?_, complete⟩
      rw [last, also, same, List.set_set, List.set_set]

/-- A call can return while the others stay where they are. -/
theorem canReach_returned (known : ((new settings).run schedule).flights[number]? = some flight) :
    CanReach settings schedule fun system =>
      ∃ moved, system.flights = ((new settings).run schedule).flights.set number moved ∧
        moved.todo = [] :=
  canReach_through 12 (fun task _ => task.rank_lt_twelve) known (List.append_nil _).symm

end Ways

/-- **Whatever happened so far, the calls in progress can return**, if their clients accept and
nobody begins another call. -/
theorem canReach_quiet (settings : Settings) (schedule : List Move) :
    CanReach settings schedule fun system => system.isQuiet = true := by
  -- the calls return in the order in which they were begun
  have inOrder : ∀ count : Nat, CanReach settings schedule fun system =>
      system.flights.length = ((new settings).run schedule).flights.length ∧
        ∀ index < count, ∀ flight, system.flights[index]? = some flight →
          flight.todo = [] := by
    intro count
    induction count with
    | zero => exact .here ⟨rfl, fun _ below => absurd below (Nat.not_lt_zero _)⟩
    | succ count ih =>
      refine ih.onward fun more reached => ?_
      obtain ⟨length, complete⟩ := reached
      cases known : ((new settings).run (schedule ++ more)).flights[count]? with
      | none =>
        refine .here ⟨length, fun index below flight found => ?_⟩
        have inside := (List.getElem?_eq_some_iff.mp found).1
        have outside := List.getElem?_eq_none_iff.mp known
        exact complete index (by omega) flight found
      | some flight =>
        refine (canReach_returned known).onward fun further reached => ?_
        obtain ⟨moved, same, returned⟩ := reached
        refine .here ⟨by rw [same, List.length_set, length], fun index below other found => ?_⟩
        rw [same] at found
        by_cases here : count = index
        · subst here
          rw [List.getElem?_set_self (List.getElem?_eq_some_iff.mp known).1] at found
          cases found
          exact returned
        · rw [List.getElem?_set_ne here] at found
          exact complete index (by omega) other found
  refine (inOrder ((new settings).run schedule).flights.length).onward
    fun more reached => .here (List.all_eq_true.mpr fun flight member => ?_)
  obtain ⟨length, complete⟩ := reached
  obtain ⟨index, found⟩ := List.mem_iff_getElem?.mp member
  have inside := (List.getElem?_eq_some_iff.mp found).1
  exact List.isEmpty_iff.mpr (complete index (by omega) flight found)

end System

end Arcade
