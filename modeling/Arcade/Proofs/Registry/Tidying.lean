/-
**Putting away what ended sessions left.**

Most calls first forget the sessions whose workers are done. Then they wait for these workers, which
takes no time, and close the sinks that are left (`Registry.Tidies`). Nobody else notices: the
sessions that have not ended keep their slots and their workers, other calls have to do what they
had to do, and nothing is sent to a client, save that sinks are closed that nobody uses any more
(`System.SparesOthers`).

* `System.Step.phase?_eq`: a worker that is done stays as it is;
* `Registry.Tidies.did`, `Registry.Tidies.done`: putting away never waits, and what it does;
* `System.sparesOthers_tidied`, `System.sparesOthers_reaped`: nobody else notices;
* `System.exists_returned`: a call that never has to wait returns by its own moves.
-/

import Arcade.Proofs.Registry.Return
import Arcade.Proofs.Registry.Stream
import Mathlib.Data.Multiset.DershowitzManna

namespace Arcade

open Registry

/-! ### Workers that are done -/

/-- The phase that a worker is in. -/
def Registry.phase? (registry : Registry) (number : WorkerId) : Option Phase :=
  (registry.worker? number).map Worker.phase

section Finished

variable {registry : Registry} {answer : Except SinkError Unit} {task : Task} {progress : Progress}
  {number : WorkerId} {phase : Phase}

theorem Registry.phase?_eq_some : registry.phase? number = some phase ↔
    ∃ standing, registry.standings[number]? = some standing ∧ standing.phase = phase := by
  rw [phase?, worker?, standings, List.getElem?_map, Option.map_eq_some_iff]
  cases registry.workers[number]? with
  | none => simp
  | some worker => simp [Worker.standing]

theorem Registry.isFinished_iff : registry.isFinished number = true ↔
    ∃ phase, registry.phase? number = some phase ∧ phase.isFinished = true := by
  unfold isFinished phase?
  cases registry.worker? number with
  | none => simp
  | some worker => simp [Worker.isFinished]

/-- No task lets a worker go on that is done. -/
theorem Task.phase?_step (did : task.step registry answer = some progress)
    (known : registry.phase? number = some phase) :
    progress.registry.phase? number = some phase := by
  obtain ⟨standing, found, same⟩ := phase?_eq_some.mp known
  refine phase?_eq_some.mpr ?_
  obtain kept | ⟨launch, -, grown⟩ | ⟨id, other, custom, worker, -, there, -, settled⟩ :=
    (Task.yields_of_step did).standings_cases
  · exact ⟨standing, by rw [kept]; exact found, same⟩
  · refine ⟨standing, ?_, same⟩
    rw [grown, List.getElem?_append_left (List.getElem?_eq_some_iff.mp found).1, found]
  · rw [settled]
    by_cases here : other = number
    · subst here
      rw [registry.standings_getElem? there] at found
      cases found
      have inside := (List.getElem?_eq_some_iff.mp (registry.standings_getElem? there)).1
      exact ⟨_, List.getElem?_set_self inside, same⟩
    · exact ⟨standing, (List.getElem?_set_ne here).trans found, same⟩

/-- **A worker that is done stays as it is.** -/
theorem System.Step.phase?_eq {system after : System} {move : Move}
    (step : system.Step move after) (known : system.registry.phase? number = some phase)
    (finished : phase.isFinished = true) : after.registry.phase? number = some phase := by
  cases step with
  | done _ _ did => exact Task.phase?_step did known
  | @worked other reaction worker after deliveries there turn =>
    obtain ⟨standing, found, same⟩ := phase?_eq_some.mp known
    refine phase?_eq_some.mpr ?_
    rw [standings_turn]
    by_cases here : other = number
    · subst here
      rw [system.registry.standings_getElem? there] at found
      cases found
      have inside := (List.getElem?_eq_some_iff.mp (system.registry.standings_getElem? there)).1
      refine ⟨_, List.getElem?_set_self inside, ?_⟩
      have complete : worker.phase.isFinished = true := by
        rw [show worker.phase = phase from same]
        exact finished
      -- of the turns only the idle one is left to a worker that is done
      cases turn with
      | idle => exact same
      | broke was => exact absurd (was.symm.trans complete) Bool.false_ne_true
      | _ was => exact absurd complete (by simp [was, Phase.isFinished])
    · exact ⟨standing, (List.getElem?_set_ne here).trans found, same⟩
  | begun | stayed | waited => exact known

theorem System.phase?_run {system : System} (known : system.registry.phase? number = some phase)
    (finished : phase.isFinished = true) (schedule : List Move) :
    (system.run schedule).registry.phase? number = some phase :=
  System.run_induction system (fun _ reached => reached.registry.phase? number = some phase) known
    (fun _ _ before step => step.phase?_eq before finished) schedule

theorem System.Step.isFinished {system after : System} {move : Move}
    (step : system.Step move after) (finished : system.registry.isFinished number = true) :
    after.registry.isFinished number = true := by
  obtain ⟨phase, known, complete⟩ := isFinished_iff.mp finished
  exact isFinished_iff.mpr ⟨phase, step.phase?_eq known complete, complete⟩

end Finished

/-! ### What is left alone -/

/-- Whether a registry has what another one has of the sessions that have not ended. -/
structure Registry.SparesLive (registry after : Registry) : Prop where
  /-- No slot is new or changed. -/
  old : ∀ id slot, after.slot? id = some slot → registry.slot? id = some slot
  slots : ∀ id slot, registry.slot? id = some slot → registry.slotFinished slot = false →
    after.slot? id = some slot
  workers : ∀ number worker, registry.worker? number = some worker → worker.isFinished = false →
    after.worker? number = some worker
  /-- The same workers are done. -/
  finished : ∀ number, after.isFinished number = registry.isFinished number

namespace Registry.SparesLive

variable {registry middle after : Registry}

theorem refl (registry : Registry) : registry.SparesLive registry :=
  ⟨fun _ _ there => there, fun _ _ there _ => there, fun _ _ known _ => known, fun _ => rfl⟩

theorem slotFinished_eq (spares : registry.SparesLive after) (slot : Slot) :
    after.slotFinished slot = registry.slotFinished slot := by
  unfold slotFinished
  split
  · exact spares.finished _
  · rfl
  · rfl

theorem trans (first : registry.SparesLive middle) (second : middle.SparesLive after) :
    registry.SparesLive after where
  old id slot there := first.old id slot (second.old id slot there)
  slots id slot there lasting :=
    second.slots id slot (first.slots id slot there lasting)
      ((first.slotFinished_eq slot).trans lasting)
  workers number worker known running :=
    second.workers number worker (first.workers number worker known running) running
  finished number := (second.finished number).trans (first.finished number)

theorem state?_eq_none (spares : registry.SparesLive after) {id : SessionId}
    (absent : registry.state? id = none) : after.state? id = none := by
  rw [Registry.state?, Option.map_eq_none_iff] at absent ⊢
  refine Option.eq_none_iff_forall_ne_some.mpr fun slot there => ?_
  rw [spares.old id slot there] at absent
  cases absent

/-- Whatever is done to a worker that is done, as long as it stays so. -/
theorem of_modifyWorker {number : WorkerId} (finished : registry.isFinished number = true)
    (change : Worker → Worker) (same : ∀ worker, (change worker).phase = worker.phase) :
    registry.SparesLive (registry.modifyWorker number change) where
  old _ _ there := there
  slots _ _ there _ := there
  workers other worker known running := by
    refine (registry.worker?_modifyWorker_ne change ?_).trans known
    rintro rfl
    rw [isFinished, known] at finished
    exact absurd (running.symm.trans finished) Bool.false_ne_true
  finished other := by
    by_cases here : number = other
    · subst here
      rw [isFinished, isFinished, registry.worker?_modifyWorker_self]
      cases registry.worker? number with
      | none => rfl
      | some worker => exact congrArg Phase.isFinished (same worker)
    · rw [isFinished, isFinished, registry.worker?_modifyWorker_ne change here]

theorem of_reaped (registry : Registry) : registry.SparesLive registry.reaped where
  old id slot there := by
    rw [slot?_reaped, Option.filter_eq_some_iff] at there
    exact there.1
  slots id slot there lasting := by
    rw [slot?_reaped, there, Option.filter_some, lasting]
    rfl
  workers number worker known _ := by
    rw [worker?, workers_reaped]
    exact known
  finished number := by
    rw [isFinished, worker?, workers_reaped]
    rfl

end Registry.SparesLive

/-! ### Putting away -/

/-- Whether a task puts away what a session left that has ended. -/
def Registry.Tidies (registry : Registry) : Task → Prop
  | .halt _ number .close | .join _ number .close => registry.isFinished number = true
  | .close _ => True
  | _ => False

/-- The sink that a task closes. -/
def Task.closes? : Task → Option SinkId
  | .close sink => some sink
  | _ => none

section Tidying

variable {registry : Registry} {answer : Except SinkError Unit} {task : Task} {progress : Progress}

theorem Registry.Tidies.mono {after : Registry} (tidies : registry.Tidies task)
    (stays : ∀ number, registry.isFinished number = true → after.isFinished number = true) :
    after.Tidies task := by
  cases task with
  | halt id number custody | join id number custody =>
    cases custody with
    | close => exact stays number tidies
    | keep => exact tidies.elim
  | close => trivial
  | _ => exact tidies.elim

/-- Whoever forgets the sessions that have ended has to put away what they left. -/
theorem tidies_reaped (registry : Registry) :
    ∀ next ∈ registry.finished.map fun entry => Task.halt entry.1 entry.2 .close,
      registry.reaped.Tidies next := by
  intro next member
  obtain ⟨⟨id, number⟩, listed, rfl⟩ := List.mem_map.mp member
  obtain ⟨slot, -, -, finished⟩ := registry.mem_finished.mp listed
  exact ((SparesLive.of_reaped registry).finished number).trans finished

/-- Whoever puts away never waits. -/
theorem Registry.Tidies.did (tidies : registry.Tidies task) (answer : Except SinkError Unit) :
    ∃ progress, task.step registry answer = some progress := by
  refine Option.ne_none_iff_exists'.mp fun waits => ?_
  obtain ⟨id, number, custody, rfl, running⟩ := Task.step_eq_none.mp waits
  cases custody with
  | close => exact absurd (running.symm.trans tidies) Bool.false_ne_true
  | keep => exact tidies

/-- **What putting away does**: the call has no answer yet and goes on putting away, the slots stay,
those who have not ended are left alone, and no client is told anything. -/
theorem Registry.Tidies.done (tidies : registry.Tidies task)
    (did : task.step registry answer = some progress) :
    progress.reply = none ∧ (∀ next ∈ progress.todo, progress.registry.Tidies next) ∧
      progress.registry.table = registry.table ∧ registry.SparesLive progress.registry ∧
      progress.registry.events =
        (task.closes?.toList.map fun sink => ⟨sink, .closed, none⟩) ++ registry.events := by
  cases task with
  | close sink =>
    cases did
    exact ⟨rfl, fun _ member => (by cases member), rfl,
      ⟨fun _ _ there => there, fun _ _ there _ => there, fun _ _ known _ => known, fun _ => rfl⟩,
      rfl⟩
  | halt id number custody =>
    cases custody with
    | keep => exact tidies.elim
    | close =>
      cases did
      have spares := SparesLive.of_modifyWorker tidies
        (fun worker => { worker with session := worker.session.stop }) fun _ => rfl
      refine ⟨rfl, fun next member => ?_, rfl, spares, rfl⟩
      rw [List.mem_singleton.mp member]
      exact (spares.finished number).trans tidies
  | join id number custody =>
    cases custody with
    | keep => exact tidies.elim
    | close =>
      have spares := SparesLive.of_modifyWorker tidies
        (fun worker => { worker with joined := true }) fun _ => rfl
      cases registry.yields_join did with
      | ended =>
        refine ⟨rfl, fun next member => ?_, rfl, spares, rfl⟩
        rw [List.mem_singleton.mp member]
        trivial
      | broken => exact ⟨rfl, fun _ member => (by cases member), rfl, spares, rfl⟩
      | watched watches => cases watches
  | _ => exact tidies.elim

end Tidying

/-! ### Nobody else notices -/

namespace System

/-- Whether somebody apart from one call can still send something to a sink. -/
inductive InUse (system : System) (number : Nat) (sink : SinkId) : Prop
  /-- It is kept for an unloaded session. -/
  | kept {id} (there : system.registry.state? id = some (.unloaded sink))
  /-- A worker has it that is not done. -/
  | served {other worker} (known : system.registry.worker? other = some worker)
      (running : worker.isFinished = false) (same : worker.sink = sink)
  /-- Another call has it. -/
  | held {other flight task} (known : system.flights[other]? = some flight)
      (different : other ≠ number) (member : task ∈ flight.todo)
      (carries : task.carries sink = true)

/-- Whether a call left everybody else alone: the sessions that have not ended, the other calls, and
the clients, save that sinks were closed that nobody else used. -/
structure SparesOthers (number : Nat) (system after : System) : Prop where
  live : system.registry.SparesLive after.registry
  calls : ∀ other, other ≠ number → after.flights[other]? = system.flights[other]?
  clients : ∃ closed : List SinkId,
    after.registry.events = (closed.map fun sink => ⟨sink, .closed, none⟩) ++
      system.registry.events ∧ ∀ sink ∈ closed, ¬ system.InUse number sink

namespace SparesOthers

variable {number : Nat} {system middle after : System}

theorem refl (number : Nat) (system : System) : SparesOthers number system system :=
  ⟨.refl _, fun _ _ => rfl, [], rfl, fun _ member => by cases member⟩

theorem inUse (spares : SparesOthers number system after) {sink : SinkId}
    (used : system.InUse number sink) : after.InUse number sink := by
  cases used with
  | @kept id there =>
    obtain ⟨slot, found, state⟩ := Option.map_eq_some_iff.mp there
    have lasting : system.registry.slotFinished slot = false := by rw [slotFinished, state]
    have still : after.registry.state? id = some (.unloaded sink) := by
      rw [Registry.state?, spares.live.slots id slot found lasting, Option.map_some, state]
    exact .kept still
  | served known running same =>
    exact .served (spares.live.workers _ _ known running) running same
  | held known different member carries =>
    exact .held ((spares.calls _ different).trans known) different member carries

theorem trans (first : SparesOthers number system middle)
    (second : SparesOthers number middle after) : SparesOthers number system after where
  live := first.live.trans second.live
  calls other different := (second.calls other different).trans (first.calls other different)
  clients := by
    obtain ⟨early, before, unused⟩ := first.clients
    obtain ⟨late, behind, also⟩ := second.clients
    refine ⟨late ++ early, ?_, fun sink member used => ?_⟩
    · rw [behind, before, List.map_append, List.append_assoc]
    · rcases List.mem_append.mp member with new | old
      · exact also sink new (first.inUse used)
      · exact unused sink old used

end SparesOthers

/-- A worker whose sink a call has for one of its tasks is done. -/
theorem isFinished_of_carries {settings : Settings} {schedule : List Move} {number : Nat}
    {flight : Flight} {task : Task} {sink : SinkId} {later : List Task}
    (known : ((new settings).run schedule).flights[number]? = some flight)
    (next : flight.todo = task :: later) (carries : task.carries sink = true) {other : WorkerId}
    {worker : Worker}
    (there : ((new settings).run schedule).registry.worker? other = some worker)
    (same : worker.sink = sink) : worker.isFinished = true := by
  have settles := settles_run settings schedule
  have one := inOnePlace_run settings schedule sink
  generalize (new settings).run schedule = system at known there settles one
  obtain ⟨-, -, -, workers⟩ := alone_of_task one known [] next carries
  have member := List.mem_of_getElem? (system.registry.standings_getElem? there)
  have lost := workers _ member
  by_contra running
  -- a worker that is not done was not waited for and did not lose its sink
  have free : worker.joined = false := by
    by_contra joined
    exact running (settles _ member (Bool.eq_true_of_not_eq_false joined))
  have whole : worker.phase ≠ .broken := by
    intro broken
    rw [Worker.isFinished, broken] at running
    exact running rfl
  rw [Standing.bears, decide_eq_false_iff_not] at lost
  exact lost ⟨same, free, whole⟩

/-- A sink that a call is about to close is used by nobody else. -/
theorem not_inUse_of_close {settings : Settings} {schedule : List Move} {number : Nat}
    {flight : Flight} {sink : SinkId} {later : List Task}
    (known : ((new settings).run schedule).flights[number]? = some flight)
    (next : flight.todo = .close sink :: later) :
    ¬ ((new settings).run schedule).InUse number sink := by
  obtain ⟨-, others, slots, -⟩ := alone_of_task (inOnePlace_run settings schedule sink) known []
    next (decide_eq_true rfl)
  intro used
  cases used with
  | kept there => exact slots _ there
  | served there running same =>
    have finished := isFinished_of_carries known next (decide_eq_true rfl) there same
    exact absurd (running.symm.trans finished) Bool.false_ne_true
  | held known different member carries =>
    exact absurd ((others _ _ known different _ member).symm.trans carries) Bool.false_ne_true

/-- **Nobody else notices** when a call puts something away. -/
theorem sparesOthers_tidied {settings : Settings} {schedule : List Move} {number : Nat}
    {flight : Flight} {task : Task} {later : List Task} {answer : Except SinkError Unit}
    {progress : Progress}
    (known : ((new settings).run schedule).flights[number]? = some flight)
    (next : flight.todo = task :: later)
    (tidies : ((new settings).run schedule).registry.Tidies task)
    (did : task.step ((new settings).run schedule).registry answer = some progress)
    (moved : Flight) :
    SparesOthers number ((new settings).run schedule)
      ⟨progress.registry, ((new settings).run schedule).flights.set number moved⟩ := by
  obtain ⟨-, -, -, live, events⟩ := tidies.done did
  refine ⟨live, fun other different => List.getElem?_set_ne (Ne.symm different),
    task.closes?.toList, events, fun sink member => ?_⟩
  cases task with
  | close closed =>
    rw [List.mem_singleton.mp member]
    exact not_inUse_of_close known next
  | _ => cases member

/-- Nobody else notices when a call forgets the sessions that have ended. -/
theorem sparesOthers_reaped (number : Nat) (system : System) (moved : Flight) :
    SparesOthers number system ⟨system.registry.reaped, system.flights.set number moved⟩ :=
  ⟨.of_reaped _, fun _ different => List.getElem?_set_ne (Ne.symm different), [],
    system.registry.events_reaped, fun _ member => by cases member⟩

/-! ### A call that never has to wait -/

/-- The answer of the call that was begun last, if it has returned. -/
def latestReply? (system : System) : Option Reply :=
  system.flights.getLast?.bind fun flight => if flight.isOver then flight.reply else none

/-- The ranks of some tasks, whatever their order. -/
def ranks (todo : List Task) : Multiset Nat := ↑(todo.map Task.rank)

/-- What a task leads to has lower ranks in place of its own. -/
theorem ranks_lt {registry : Registry} {answer : Except SinkError Unit} {task : Task}
    {progress : Progress} (did : task.step registry answer = some progress) (later : List Task) :
    (ranks (progress.todo ++ later)).IsDershowitzMannaLT (ranks (task :: later)) := by
  refine ⟨ranks later, ranks progress.todo, {task.rank}, Multiset.singleton_ne_zero _, ?_, ?_,
    fun rank member => ⟨task.rank, Multiset.mem_singleton_self _, ?_⟩⟩
  · rw [ranks, List.map_append, ← Multiset.coe_add, add_comm]
    rfl
  · rw [add_comm, Multiset.singleton_add]
    rfl
  · obtain ⟨fresh, listed, rfl⟩ := List.mem_map.mp (Multiset.mem_coe.mp member)
    exact Task.rank_lt did fresh listed

/-- **A call that never has to wait returns by its own moves**, whatever else is so as long as it
goes on. -/
theorem exists_returned {number : Nat} (respond : Task → Except SinkError Unit)
    {holds : System → Prop}
    (goes : ∀ system flight task later, holds system → system.flights[number]? = some flight →
      flight.todo = task :: later → ∃ progress,
        task.step system.registry (respond task) = some progress ∧
          holds ⟨progress.registry,
            system.flights.set number (flight.advance progress later)⟩)
    {system : System} {flight : Flight} (start : holds system)
    (known : system.flights[number]? = some flight) :
    ∃ more moved, (∀ move ∈ more, ∃ task, move = .proceed number (respond task)) ∧
      (system.run more).flights[number]? = some moved ∧ moved.todo = [] ∧
      holds (system.run more) := by
  have descends : WellFounded fun first second : List Task =>
      (ranks first).IsDershowitzMannaLT (ranks second) :=
    InvImage.wf ranks Multiset.wellFounded_isDershowitzMannaLT
  induction todos : flight.todo using descends.induction generalizing system flight with
  | h todo ih =>
    subst todos
    cases next : flight.todo with
    | nil => exact ⟨[], flight, fun _ member => (by cases member), known, next, start⟩
    | cons task later =>
      obtain ⟨progress, did, still⟩ := goes system flight task later start known next
      have moves : system.move (.proceed number (respond task)) =
          ⟨progress.registry, system.flights.set number (flight.advance progress later)⟩ :=
        move_did known next did
      have there : (system.flights.set number (flight.advance progress later))[number]? =
          some (flight.advance progress later) :=
        List.getElem?_set_self (List.getElem?_eq_some_iff.mp known).1
      obtain ⟨more, moved, own, reached⟩ :=
        ih _ (by rw [next]; exact ranks_lt did later) still there rfl
      refine ⟨.proceed number (respond task) :: more, moved, fun move member => ?_, ?_⟩
      · rcases List.mem_cons.mp member with rfl | rest
        · exact ⟨task, rfl⟩
        · exact own move rest
      · rw [run_cons, moves]
        exact reached

end System

end Arcade
