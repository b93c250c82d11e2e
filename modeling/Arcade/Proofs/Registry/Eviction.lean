/-
**Sessions that are swept out.**

A sweep looks for the sessions that are idle for too long or have ended, all at one moment, and then
it stops them one after the other. A session is idle for too long if its latest sign of life is
further back than is allowed. When no other call is in progress, the sweep answers with these
sessions and no others. They are not registered any more, their workers were waited for and their
sinks are closed, save that a sink is lost with a worker that broke off. All other sessions are as
they would be without the sweep.

* `System.not_closed_of_broken`: a sink that was lost with its worker is not closed;
* `Registry.Leaves.done`: how far the release of one session has come, task by task;
* `Evicts.done`, `Evicts.drift`: how far the sweep has come, task by task and while workers and time
  go on;
* `System.sweeping_run`: how far the sweep has come, at any time;
* `System.sweeps_overdue`: which sessions the sweep answers with, and what becomes of all sessions;
* `System.exists_unclosed_of_sweep`: the sink of a worker that broke off is not closed.
-/

import Arcade.Proofs.Registry.Activity
import Arcade.Proofs.Registry.Lifecycle
import Arcade.Proofs.Registry.Reservation
import Mathlib.Order.Bounds.Basic

namespace Arcade

open Registry

/-! ### What is never undone -/

/-- Whether what a registry has of workers that were waited for, and of what happened to sinks, is
there later, too. -/
structure Registry.Remembers (registry after : Registry) : Prop where
  workers : ∀ (number : WorkerId) (standing : Standing),
    registry.standings[number]? = some standing → standing.joined = true →
    standing.phase.isFinished = true → after.standings[number]? = some standing
  sinks : ∀ sink, registry.sinkHistory sink <+: after.sinkHistory sink

section Memory

variable {system after : System} {move : Move}

theorem Registry.sinkHistory_prefix {registry later : Registry} {fresh : List Event}
    (grown : later.events = fresh ++ registry.events) (sink : SinkId) :
    registry.sinkHistory sink <+: later.sinkHistory sink := by
  simp only [sinkHistory, sinkEvents, grown, List.reverse_append, List.filter_append,
    List.map_append]
  exact List.prefix_append _ _

/-- A worker that was waited for stays as it is. -/
theorem System.Step.standing_eq (step : system.Step move after) {number : WorkerId}
    {standing : Standing} (found : system.registry.standings[number]? = some standing)
    (joined : standing.joined = true) (finished : standing.phase.isFinished = true) :
    after.registry.standings[number]? = some standing := by
  have inside := (List.getElem?_eq_some_iff.mp found).1
  cases step with
  | begun | stayed | waited => exact found
  | done _ _ _ yields =>
    obtain same | ⟨launch, -, grown⟩ | ⟨_, other, _, worker, -, known, -, settled⟩ :=
      yields.standings_cases
    · rw [same, found]
    · rw [grown, List.getElem?_append_left inside, found]
    · rw [settled]
      by_cases here : other = number
      · subst here
        rw [system.registry.standings_getElem? known] at found
        obtain rfl := Option.some.inj found
        rw [List.getElem?_set_self inside, Standing.settled, ← joined]
      · rw [List.getElem?_set_ne here, found]
  | @worked other _ worker moved deliveries known turn =>
    rw [standings_turn]
    by_cases here : other = number
    · subst here
      rw [system.registry.standings_getElem? known] at found
      obtain rfl := Option.some.inj found
      rw [List.getElem?_set_self inside]
      cases turn with
      | idle => rfl
      | broke was => exact absurd (was.symm.trans finished) Bool.false_ne_true
      | _ was =>
        have running : worker.phase.isFinished = true := finished
        rw [was] at running
        cases running
    · rw [List.getElem?_set_ne here, found]

theorem System.Step.remembers (step : system.Step move (system.move move)) :
    system.registry.Remembers (system.move move).registry := by
  obtain ⟨fresh, grown, -⟩ := step.events_eq
  exact ⟨fun _ _ found joined finished => step.standing_eq found joined finished,
    sinkHistory_prefix grown⟩

end Memory

/-! ### Workers that broke off -/

theorem Registry.mem_sinkHistory {registry : Registry} {sink : SinkId} {delivery : Delivery} :
    delivery ∈ registry.sinkHistory sink ↔
      ∃ event ∈ registry.events, event.sink = sink ∧ event.delivery = delivery := by
  simp [sinkHistory, sinkEvents, and_assoc]

/-- A worker that breaks off drops its sink. -/
theorem System.dropped_of_broken (settings : Settings) (schedule : List Move) :
    ∀ standing ∈ ((new settings).run schedule).registry.standings, standing.phase = .broken →
      .dropped ∈ ((new settings).run schedule).registry.sinkHistory standing.sink := by
  refine run_induction (new settings) (fun _ system =>
    ∀ standing ∈ system.registry.standings, standing.phase = .broken →
      .dropped ∈ system.registry.sinkHistory standing.sink)
    (fun _ member => by cases member) (fun schedule move before step standing member broken => ?_)
    schedule
  have kept := step.remembers.sinks
  generalize (new settings).run schedule = system at *
  generalize system.move move = after at *
  cases step with
  | begun | stayed | waited => exact before standing member broken
  | done _ _ _ yields =>
    obtain same | ⟨launch, -, grown⟩ | ⟨_, other, _, worker, -, known, -, settled⟩ :=
      yields.standings_cases
    · exact (kept _).subset (before standing (same ▸ member) broken)
    · rw [grown, List.mem_append, List.mem_singleton] at member
      rcases member with old | rfl
      · exact (kept _).subset (before standing old broken)
      · cases broken
    · rw [settled] at member
      rcases List.mem_or_eq_of_mem_set member with old | rfl
      · exact (kept _).subset (before standing old broken)
      · exact (kept _).subset (before worker.standing
          (List.mem_of_getElem? (system.registry.standings_getElem? known)) broken)
  | @worked number reaction worker moved deliveries known turn =>
    rw [standings_turn] at member
    rcases List.mem_or_eq_of_mem_set member with old | rfl
    · exact (kept _).subset (before standing old broken)
    · have here := List.mem_of_getElem? (system.registry.standings_getElem? known)
      cases turn with
      | idle => exact before worker.standing here broken
      | broke was next =>
        rw [next]
        exact mem_sinkHistory.mpr ⟨_, List.mem_cons_self, rfl, rfl⟩
      | _ was next =>
        rw [next] at broken
        cases broken

/-- A sink that was lost with its worker is not closed, since it is released once at most. -/
theorem System.not_closed_of_broken (settings : Settings) (schedule : List Move)
    {standing : Standing} (member : standing ∈ ((new settings).run schedule).registry.standings)
    (broken : standing.phase = .broken) :
    .closed ∉ ((new settings).run schedule).registry.sinkHistory standing.sink := by
  have dropped := dropped_of_broken settings schedule standing member broken
  have lost : 0 < ((new settings).run schedule).registry.drops standing.sink :=
    List.count_pos_iff.mpr dropped
  have one := inOnePlace_run settings schedule standing.sink
  rw [InOnePlace, Registry.releases_eq] at one
  have unclosed : ((new settings).run schedule).registry.closings standing.sink = 0 := by omega
  exact List.count_eq_zero.mp unclosed

/-! ### The release of one session -/

/-- Whether what a slot held was released: its worker was waited for and left its sink to be closed,
or it had broken off and dropped its sink; a sink without a worker was closed. -/
def Registry.Released (registry : Registry) : SlotState → Prop
  | .running number => ∃ standing, registry.standings[number]? = some standing ∧
      standing.joined = true ∧
      (standing.phase = .ended ∧ .closed ∈ registry.sinkHistory standing.sink ∨
        standing.phase = .broken ∧ .dropped ∈ registry.sinkHistory standing.sink)
  | .unloaded sink => .closed ∈ registry.sinkHistory sink
  | .pending => False

/-- What a call has to do yet of the release of what a slot held. -/
inductive Registry.Leaves (registry : Registry) (id : SessionId) : SlotState → List Task → Prop
  | told {number} : Leaves registry id (.running number) [.halt id number .close]
  | awaited {number} : Leaves registry id (.running number) [.join id number .close]
  /-- The worker has left its sink. -/
  | left {number standing} (found : registry.standings[number]? = some standing)
      (joined : standing.joined = true) (ended : standing.phase = .ended) :
    Leaves registry id (.running number) [.close standing.sink]
  | kept {sink} : Leaves registry id (.unloaded sink) [.close sink]
  | released {state} (released : registry.Released state) : Leaves registry id state []

section Releasing

variable {registry after : Registry} {id : SessionId} {state : SlotState} {task : Task}
  {answer : Except SinkError Unit} {progress : Progress}

/-- What was released stays so. -/
theorem Registry.Released.mono (remembers : registry.Remembers after)
    (released : registry.Released state) : after.Released state := by
  cases state with
  | running number =>
    obtain ⟨standing, found, joined, which⟩ := released
    have finished : standing.phase.isFinished = true := by
      rcases which with ⟨phase, -⟩ | ⟨phase, -⟩ <;>
      · rw [phase]
        rfl
    have grown := (remembers.sinks standing.sink).subset
    exact ⟨standing, remembers.workers number standing found joined finished, joined,
      which.imp (And.imp_right fun closed => grown closed) (And.imp_right fun lost => grown lost)⟩
  | unloaded sink => exact (remembers.sinks sink).subset released
  | pending => exact released

theorem Registry.Leaves.mono (remembers : registry.Remembers after) {stage : List Task}
    (leaves : registry.Leaves id state stage) : after.Leaves id state stage := by
  cases leaves with
  | told => exact .told
  | awaited => exact .awaited
  | left found joined ended =>
    exact .left (remembers.workers _ _ found joined (by rw [ended]; rfl)) joined ended
  | kept => exact .kept
  | released released => exact .released (released.mono remembers)

/-- The release begins with the tasks that a slot's state says. -/
theorem Registry.leaves_begun (id : SessionId) (used : state ≠ .pending) :
    registry.Leaves id state (SlotState.releaseTasks id state) := by
  cases state with
  | running number => exact .told
  | unloaded sink => exact .kept
  | pending => exact absurd rfl used

/-- Whether a task changes no worker but the one that runs a session, and neither the table nor the
time. -/
structure Registry.Attends (registry : Registry) (state : SlotState) (after : Registry) : Prop where
  table : after.table = registry.table
  now : after.now = registry.now
  workers : ∀ number, state ≠ .running number → after.worker? number = registry.worker? number

theorem Registry.attends_modifyWorker (number : WorkerId) (change : Worker → Worker) :
    registry.Attends (.running number) (registry.modifyWorker number change) where
  table := rfl
  now := rfl
  workers _ different :=
    registry.worker?_modifyWorker_ne change fun same => different (congrArg _ same)

/-- **One task of the release.** It goes on, and nothing else is changed. A worker that broke off is
known to have dropped its sink. -/
theorem Registry.Leaves.done {later : List Task} (leaves : registry.Leaves id state (task :: later))
    (did : task.step registry answer = some progress)
    (lost : ∀ standing ∈ registry.standings, standing.phase = .broken →
      .dropped ∈ registry.sinkHistory standing.sink) :
    later = [] ∧ progress.registry.Leaves id state progress.todo ∧
      registry.Attends state progress.registry := by
  cases leaves with
  | @told number =>
    cases did
    exact ⟨rfl, .awaited, attends_modifyWorker number _⟩
  | @awaited number =>
    cases registry.yields_join did with
    | @ended _ _ _ worker known complete =>
      have inside := (List.getElem?_eq_some_iff.mp (registry.standings_getElem? known)).1
      have found : (registry.modifyWorker number fun worker =>
          { worker with joined := true }).standings[number]? = some worker.standing.settled := by
        rw [registry.standings_settled known, List.getElem?_set_self inside]
      exact ⟨rfl, .left found rfl complete, attends_modifyWorker number _⟩
    | @broken _ _ _ worker _ known complete =>
      have there := registry.standings_getElem? known
      have inside := (List.getElem?_eq_some_iff.mp there).1
      have found : (registry.modifyWorker number fun worker =>
          { worker with joined := true }).standings[number]? = some worker.standing.settled := by
        rw [registry.standings_settled known, List.getElem?_set_self inside]
      have dropped := lost worker.standing (List.mem_of_getElem? there) complete
      exact ⟨rfl, .released ⟨_, found, rfl, .inr ⟨complete, dropped⟩⟩,
        attends_modifyWorker number _⟩
    | watched watches => cases watches
  | @left number standing found joined ended =>
    cases did
    have closed : .closed ∈ (registry.deliver standing.sink .closed).sinkHistory standing.sink :=
      mem_sinkHistory.mpr ⟨_, List.mem_cons_self, rfl, rfl⟩
    exact ⟨rfl, .released ⟨standing, found, joined, .inl ⟨ended, closed⟩⟩, rfl, rfl, fun _ _ => rfl⟩
  | @kept sink =>
    cases did
    have closed : .closed ∈ (registry.deliver sink .closed).sinkHistory sink :=
      mem_sinkHistory.mpr ⟨_, List.mem_cons_self, rfl, rfl⟩
    exact ⟨rfl, .released closed, rfl, rfl, fun _ _ => rfl⟩

end Releasing

/-! ### The course of a sweep -/

/-- Whether all that was done to a registry since somebody looked at it, but for what workers and
time did, is that some sessions were forgotten and their workers dealt with. -/
structure Cleared (looked untouched registry : Registry) (gone : List SessionId) : Prop where
  now : registry.now = untouched.now
  table : untouched.table = looked.table
  slots : ∀ id, registry.slot? id = if id ∈ gone then none else looked.slot? id
  workers : ∀ number, (∀ id ∈ gone, looked.state? id ≠ some (.running number)) →
    registry.worker? number = untouched.worker? number

/-- How far a sweep has come: the registry that it looked at, the registry as it would be without
the sweep, and the registry, with what the call has to do yet, and its answer. -/
inductive Evicts (looked untouched registry : Registry) : List Task → Option Reply → Prop
  /-- Some of the sessions were stopped. -/
  | between {gone rest reply} (listed : looked.expired = gone ++ rest)
      (cleared : Cleared looked untouched registry gone)
      (released : ∀ id ∈ gone, ∃ state, looked.state? id = some state ∧ registry.Released state) :
    Evicts looked untouched registry
      (rest.map .remove ++ [.answer (.ok (.sessions looked.expired))]) reply
  /-- The next one is out of the table and is being released. -/
  | parting {gone id rest state stage reply} (listed : looked.expired = gone ++ id :: rest)
      (cleared : Cleared looked untouched registry (gone ++ [id]))
      (released : ∀ other ∈ gone, ∃ state, looked.state? other = some state ∧
        registry.Released state)
      (was : looked.state? id = some state) (leaves : registry.Leaves id state stage) :
    Evicts looked untouched registry
      (stage ++ .answer (.ok .done) ::
        (rest.map .remove ++ [.answer (.ok (.sessions looked.expired))])) reply
  | returned (cleared : Cleared looked untouched registry looked.expired)
      (released : ∀ id ∈ looked.expired, ∃ state, looked.state? id = some state ∧
        registry.Released state) :
    Evicts looked untouched registry [] (some (.ok (.sessions looked.expired)))

section Course

variable {looked untouched registry after : Registry} {gone : List SessionId} {id : SessionId}

theorem Cleared.here (registry : Registry) : Cleared registry registry registry [] :=
  ⟨rfl, rfl, fun _ => (if_neg List.not_mem_nil).symm, fun _ _ => rfl⟩

/-- A session that is forgotten next. -/
theorem Cleared.forget (cleared : Cleared looked untouched registry gone) (id : SessionId) :
    Cleared looked untouched (registry.forget id) (gone ++ [id]) where
  now := cleared.now
  table := cleared.table
  slots other := by
    rw [slot?_forget, cleared.slots other]
    by_cases same : other = id
    · rw [if_pos same, if_pos (List.mem_append_right gone (List.mem_singleton.mpr same))]
    · rw [if_neg same]
      simp only [List.mem_append, List.mem_singleton, same, or_false]
  workers number elsewhere :=
    cleared.workers number fun other member => elsewhere other (List.mem_append_left _ member)

/-- What is done for the release of a session that was forgotten. -/
theorem Cleared.attend {state : SlotState} (cleared : Cleared looked untouched registry gone)
    (member : id ∈ gone) (was : looked.state? id = some state)
    (attends : registry.Attends state after) : Cleared looked untouched after gone where
  now := attends.now.trans cleared.now
  table := cleared.table
  slots other := by
    rw [Registry.slot?, attends.table]
    exact cleared.slots other
  workers number elsewhere := by
    rw [attends.workers number fun same => elsewhere id member (was.trans (congrArg some same))]
    exact cleared.workers number elsewhere

/-- Workers that the sweep does not deal with do what they would do without it. -/
theorem Cleared.drift (cleared : Cleared looked untouched registry gone) (move : Move) :
    Cleared looked (untouched.drift move) (registry.drift move) gone := by
  cases move with
  | begin | proceed => exact cleared
  | wait span =>
    exact ⟨congrArg (· + span.nanoseconds) cleared.now, cleared.table, cleared.slots,
      cleared.workers⟩
  | work turner reaction =>
    refine ⟨?_, (untouched.table_work turner reaction).trans cleared.table, fun id => ?_,
      fun number elsewhere => ?_⟩
    · show (registry.work turner reaction).now = (untouched.work turner reaction).now
      rw [now_work, now_work, cleared.now]
    · show (registry.work turner reaction).slot? id = _
      rw [Registry.slot?, table_work]
      exact cleared.slots id
    · show (registry.work turner reaction).worker? number =
        (untouched.work turner reaction).worker? number
      have same := cleared.workers number elsewhere
      by_cases here : turner = number
      · subst here
        rw [worker?_work, worker?_work, same, cleared.now]
      · rw [workers_work _ _ _ _ here, workers_work _ _ _ _ here, same]

/-- The sessions that a sweep looks for. -/
theorem Registry.mem_expired : id ∈ registry.expired ↔ ∃ slot, registry.slot? id = some slot ∧
    (registry.slotFinished slot = true ∨ registry.isIdle slot = true) := by
  rw [expired, List.mem_filterMap]
  constructor
  · rintro ⟨⟨name, slot⟩, member, listed⟩
    simp only [Option.ite_none_right_eq_some, Option.some.injEq, Bool.or_eq_true] at listed
    obtain ⟨which, rfl⟩ := listed
    exact ⟨slot, registry.mem_entries.mp member, which⟩
  · rintro ⟨slot, there, which⟩
    refine ⟨(id.name, slot), registry.mem_entries.mpr there, ?_⟩
    simp only [Bool.or_eq_true, which, if_true]

theorem Registry.nodup_expired (registry : Registry) : registry.expired.Nodup := by
  refine registry.expired_sublist.nodup (registry.table.nodup_names.map fun first second same => ?_)
  exact congrArg SessionId.name same

/-- Workers and time leave the sweep where it is. -/
theorem Evicts.drift {todo : List Task} {reply : Option Reply} (move : Move)
    (evicts : Evicts looked untouched registry todo reply)
    (remembers : registry.Remembers (registry.drift move)) :
    Evicts looked (untouched.drift move) (registry.drift move) todo reply := by
  have still : ∀ {gone : List SessionId},
      (∀ id ∈ gone, ∃ state, looked.state? id = some state ∧ registry.Released state) →
      ∀ id ∈ gone, ∃ state, looked.state? id = some state ∧
        (registry.drift move).Released state := by
    intro gone released id member
    obtain ⟨state, was, done⟩ := released id member
    exact ⟨state, was, done.mono remembers⟩
  cases evicts with
  | between listed cleared released =>
    exact .between listed (cleared.drift move) (still released)
  | parting listed cleared released was leaves =>
    exact .parting listed (cleared.drift move) (still released) was (leaves.mono remembers)
  | returned cleared released => exact .returned (cleared.drift move) (still released)

/-- **One task of the sweep**, if no slot was reserved when it looked. -/
theorem Evicts.done {task : Task} {later : List Task} {reply : Option Reply}
    {answer : Except SinkError Unit} {progress : Progress}
    (evicts : Evicts looked untouched registry (task :: later) reply)
    (did : task.step registry answer = some progress)
    (remembers : registry.Remembers progress.registry)
    (lost : ∀ standing ∈ registry.standings, standing.phase = .broken →
      .dropped ∈ registry.sinkHistory standing.sink)
    (unreserved : ∀ id, looked.state? id ≠ some .pending) :
    Evicts looked untouched progress.registry (progress.todo ++ later)
      (progress.reply <|> reply) := by
  have still : ∀ {gone : List SessionId},
      (∀ id ∈ gone, ∃ state, looked.state? id = some state ∧ registry.Released state) →
      ∀ id ∈ gone, ∃ state, looked.state? id = some state ∧ progress.registry.Released state := by
    intro gone released id member
    obtain ⟨state, was, done⟩ := released id member
    exact ⟨state, was, done.mono remembers⟩
  generalize todo : task :: later = tasks at evicts
  cases evicts with
  | @between gone rest _ listed cleared released =>
    cases rest with
    | nil =>
      -- all sessions were stopped, and the sweep answers
      cases todo
      cases did
      rw [List.append_nil] at listed
      subst listed
      exact .returned cleared released
    | cons id rest =>
      cases todo
      have expired : id ∈ looked.expired := by
        rw [listed]
        exact List.mem_append_right _ List.mem_cons_self
      obtain ⟨slot, there, -⟩ := mem_expired.mp expired
      have fresh : id ∉ gone := by
        have distinct := looked.nodup_expired
        rw [listed, List.nodup_append] at distinct
        exact fun member => distinct.2.2 id member id List.mem_cons_self rfl
      have present : registry.slot? id = some slot := by
        rw [cleared.slots id, if_neg fresh, there]
      have was := looked.state?_of_slot? there
      cases Task.yields_of_step did with
      | removed found =>
        obtain rfl := Option.some.inj (present.symm.trans found)
        have leaves : (registry.forget id).Leaves id slot.state
            (SlotState.releaseTasks id slot.state) :=
          leaves_begun id fun pending => unreserved id (was.trans (congrArg some pending))
        rw [proceed, List.append_assoc]
        exact .parting listed (cleared.forget id) (still released) was leaves
      | missed gone => cases present.symm.trans gone
      | watched watches => cases watches
  | @parting gone id rest state stage _ listed cleared released was leaves =>
    have member : id ∈ gone ++ [id] := List.mem_append_right _ List.mem_cons_self
    cases stage with
    | nil =>
      cases todo
      cases did
      rw [List.append_cons] at listed
      refine .between listed cleared fun other listed => ?_
      rcases List.mem_append.mp listed with old | new
      · exact released other old
      · cases leaves with
        | released done => exact ⟨state, List.mem_singleton.mp new ▸ was, done⟩
    | cons first more =>
      cases todo
      obtain ⟨rfl, onward, attends⟩ := leaves.done did lost
      exact .parting listed (cleared.attend member was attends) (still released) was onward
  | returned => cases todo

end Course

namespace System

/-- Whether all that is left to do for the calls in progress is to look for the sessions to be swept
out. -/
def OnlyLooks (system : System) : Prop :=
  ∀ flight ∈ system.flights, ∀ task ∈ flight.todo, task = .sweep

section Looking

variable {settings : Settings} {schedule : List Move} {id : SessionId}

theorem OnlyLooks.not_pending (looks : ((new settings).run schedule).OnlyLooks) :
    ((new settings).run schedule).registry.state? id ≠ some .pending := by
  intro pending
  obtain ⟨number, flight, known, task, member, writes⟩ := reserved_run settings schedule id pending
  rw [looks flight (List.mem_of_getElem? known) task member] at writes
  cases writes

theorem OnlyLooks.not_settling {system : System} (looks : system.OnlyLooks) :
    ¬ system.Settling id := by
  rintro ⟨number, flight, known, task, member, settles⟩
  rw [looks flight (List.mem_of_getElem? known) task member] at settles
  cases settles

theorem onlyLooks_of_lone {system reached : System} (quiet : system.isQuiet = true)
    {flight : Flight} (flights : reached.flights = system.flights ++ [flight])
    (next : flight.todo = [.sweep]) : reached.OnlyLooks := by
  intro other inFlight task member
  rw [flights, List.mem_append, List.mem_singleton] at inFlight
  rcases inFlight with old | rfl
  · rw [todo_of_quiet quiet old] at member
    cases member
  · rw [next] at member
    exact List.mem_singleton.mp member

end Looking

/-- How far a sweep has come that is left alone by other calls: it has not looked yet, and nothing
was changed, or it looked at some moment. -/
def Sweeping (system : System) (schedule : List Move) (reached : System) (flight : Flight) : Prop :=
  (flight.todo = [.sweep] ∧
      reached.registry = (system.run (schedule.filter Move.isDrift)).registry) ∨
    ∃ early answer late, schedule = early ++ .proceed system.flights.length answer :: late ∧
      ((system.begin .sweep).run early).OnlyLooks ∧
      Evicts ((system.begin .sweep).run early).registry
        (system.run (schedule.filter Move.isDrift)).registry reached.registry flight.todo
        flight.reply

/-- **How far the sweep has come**, at any time. -/
theorem sweeping_run {settings : Settings} {before : List Move}
    (quiet : ((new settings).run before).isQuiet = true) (during : List Move)
    (alone : ∀ call, .begin call ∉ during) :
    ∃ flight,
      ((((new settings).run before).begin .sweep).run during).flights =
        ((new settings).run before).flights ++ [flight] ∧
      ((new settings).run before).Sweeping during
        ((((new settings).run before).begin .sweep).run during) flight := by
  have unreserved : ∀ early id,
      ((((new settings).run before).begin .sweep).run early).OnlyLooks →
      ((((new settings).run before).begin .sweep).run early).registry.state? id ≠
        some .pending := by
    intro early id looks
    rw [run_begin] at looks ⊢
    exact looks.not_pending
  have broken := fun past => dropped_of_broken settings (before ++ .begin .sweep :: past)
  simp only [← run_begin] at broken
  generalize (new settings).run before = system at *
  refine run_induction (system.begin .sweep) (fun schedule reached => schedule <+: during →
    ∃ flight, reached.flights = system.flights ++ [flight] ∧
      system.Sweeping schedule reached flight)
    (fun _ => ⟨_, rfl, .inl ⟨rfl, rfl⟩⟩) (fun schedule move before step found => ?_) during
    List.prefix_rfl
  obtain ⟨flight, flights, sweeping⟩ := before ((List.prefix_append _ _).trans found)
  have member : move ∈ during := found.subset (List.mem_append_right _ List.mem_cons_self)
  have remembers := step.remembers
  have lost := broken schedule
  unfold Sweeping
  rw [List.filter_append]
  cases drifts : move.isDrift with
  | true =>
    rw [List.filter_singleton, drifts, cond_true, run_concat, move_drift _ drifts,
      move_drift _ drifts]
    rw [move_drift _ drifts] at remembers
    refine ⟨flight, flights, ?_⟩
    rcases sweeping with ⟨next, same⟩ | ⟨early, answer, late, split, looks, evicts⟩
    · exact .inl ⟨next, congrArg (·.drift move) same⟩
    · refine .inr ⟨early, answer, late ++ [move], ?_, looks, evicts.drift move remembers⟩
      rw [split, List.append_assoc, List.cons_append]
  | false =>
    rw [List.filter_singleton, drifts, cond_false, List.append_nil]
    generalize reached : (system.begin .sweep).run schedule = current at *
    generalize current.move move = after at *
    cases step with
    | begun => exact absurd member (alone _)
    | worked | waited => cases drifts
    | stayed =>
      refine ⟨flight, flights, ?_⟩
      rcases sweeping with asking | ⟨early, answer, late, split, looks, evicts⟩
      · exact .inl asking
      · refine .inr ⟨early, answer, late ++ [move], ?_, looks, evicts⟩
        rw [split, List.append_assoc, List.cons_append]
    | @done number answer other task later progress known next did =>
      obtain ⟨rfl, rfl⟩ := last_of_lone quiet flights known next
      refine ⟨other.advance progress later, ?_, .inr ?_⟩
      · rw [flights, List.set_append_right _ _ (Nat.le_refl _), Nat.sub_self]
        rfl
      · rcases sweeping with ⟨asking, same⟩ | ⟨early, first, late, split, looks, evicts⟩
        · -- the sweep looks for the sessions
          rw [next] at asking
          cases asking
          cases did
          refine ⟨schedule, answer, [], rfl, ?_, ?_⟩
          · rw [reached]
            exact onlyLooks_of_lone quiet flights next
          · rw [reached, ← same]
            show Evicts current.registry current.registry current.registry
              (current.registry.expired.map Task.remove ++
                [.answer (.ok (.sessions current.registry.expired))] ++ []) _
            rw [List.append_nil]
            exact .between (List.nil_append _).symm (.here _) fun _ member => by cases member
        · refine ⟨early, first, late ++ [.proceed system.flights.length answer], ?_, looks, ?_⟩
          · rw [split, List.append_assoc, List.cons_append]
          · rw [next] at evicts
            exact evicts.done did remembers lost (fun id => unreserved early id looks)

/-- Whether a session is to be swept out after a schedule: its worker is done, or its latest sign of
life is further back than is allowed. -/
def Overdue (settings : Settings) (schedule : List Move) (id : SessionId) : Prop :=
  let registry := ((new settings).run schedule).registry
  ∃ slot, registry.slot? id = some slot ∧
    (registry.slotFinished slot = true ∨
      ∃ last, IsGreatest (activity settings schedule id) last ∧
        last + settings.idleSpan.nanoseconds < registry.now)

/-- A sweep finds the sessions that are overdue. -/
theorem mem_expired_iff_overdue {settings : Settings} {schedule : List Move} {id : SessionId}
    (looks : ((new settings).run schedule).OnlyLooks) :
    id ∈ ((new settings).run schedule).registry.expired ↔ Overdue settings schedule id := by
  have idle : ∀ {slot}, ((new settings).run schedule).registry.slot? id = some slot →
      (((new settings).run schedule).registry.isIdle slot = true ↔
        ∃ last, IsGreatest (activity settings schedule id) last ∧
          last + settings.idleSpan.nanoseconds < ((new settings).run schedule).registry.now) := by
    intro slot there
    have latest := isGreatest_lastActive there looks.not_settling
    rw [isIdle, decide_eq_true_iff, settings_run, Nat.lt_sub_iff_add_lt']
    constructor
    · exact fun late => ⟨slot.lastActive, latest, late⟩
    · rintro ⟨last, greatest, late⟩
      rwa [latest.unique greatest]
  rw [mem_expired, Overdue]
  exact exists_congr fun slot => and_congr_right fun there => or_congr_right (idle there)

/-- What a sweep made of a registry that it looked at, compared with what would have become of it
without the sweep, if it stopped some sessions. -/
structure Evicted (looked untouched swept : Registry) (ids : List SessionId) : Prop where
  gone : ∀ id ∈ ids, swept.slot? id = none ∧
    ∃ slot, looked.slot? id = some slot ∧ swept.Released slot.state
  /-- The sink of a worker that broke off is not closed. -/
  lost : ∀ id ∈ ids, ∀ (number : WorkerId) (standing : Standing),
    looked.state? id = some (.running number) → swept.standings[number]? = some standing →
    standing.phase = .broken → .closed ∉ swept.sinkHistory standing.sink
  slots : ∀ id, id ∉ ids → swept.slot? id = untouched.slot? id
  workers : ∀ id number, id ∉ ids → untouched.state? id = some (.running number) →
    swept.worker? number = untouched.worker? number

/-- **A sweep answers with the sessions that are overdue.** If no other call is in progress when it
is made, and none is made until it has returned, it can return, and however it does, there is a
moment at which it looked: it answers, each once, with the sessions that were overdue then. These
are not registered any more, and what they had was released: their workers were waited for and their
sinks closed, or dropped with a worker that broke off and not closed. All others have the slots, with
their times, and the workers, with their queues, that they would have without the sweep. The time in
the slot of a session that goes on is set only by calls that start the session, give it another
program or give it input. -/
theorem sweeps_overdue (settings : Settings) (before during : List Move)
    (quiet : ((new settings).run before).isQuiet = true) (alone : ∀ call, .begin call ∉ during) :
    let system := (new settings).run (before ++ .begin .sweep :: during)
    let untouched := (new settings).run (before ++ during.filter Move.isDrift)
    CanReach settings (before ++ [.begin .sweep]) (fun reached => reached.isQuiet = true) ∧
      (system.isQuiet = true → ∃ early answer late ids,
        during = early ++ .proceed ((new settings).run before).flights.length answer :: late ∧
        (system.flights.getLast?).bind Flight.reply = some (.ok (.sessions ids)) ∧ ids.Nodup ∧
        (∀ id, id ∈ ids ↔ Overdue settings (before ++ .begin .sweep :: early) id) ∧
        Evicted ((new settings).run (before ++ .begin .sweep :: early)).registry
          untouched.registry system.registry ids) ∧
      ∀ schedule move id slot,
        (((new settings).run schedule).move move).registry.slot? id = some slot →
          (∃ old, ((new settings).run schedule).registry.slot? id = some old ∧
            slot.lastActive = old.lastActive) ∨
          ∃ number answer flight, move = .proceed number answer ∧
            ((new settings).run schedule).flights[number]? = some flight ∧
            flight.call.Refreshes id := by
  intro system untouched
  refine ⟨canReach_quiet settings _, fun returned => ?_, fun schedule move id slot there =>
    refreshes_of_dated settings schedule move there⟩
  have aside : ((new settings).run before).run (during.filter Move.isDrift) = untouched :=
    (run_append _ _ _).symm
  obtain ⟨flight, flights, sweeping⟩ := sweeping_run quiet during alone
  rw [run_begin] at flights
  have complete : flight.todo = [] :=
    todo_of_quiet returned (flights ▸ List.mem_append_right _ List.mem_cons_self)
  rcases sweeping with ⟨next, -⟩ | ⟨early, answer, late, split, looks, evicts⟩
  · cases next.symm.trans complete
  rw [run_begin] at looks evicts
  rw [run_begin, aside, complete] at evicts
  have labelled := labelled_run settings (before ++ .begin .sweep :: early)
  generalize replied : flight.reply = reply at evicts
  generalize empty : ([] : List Task) = todo at evicts
  cases evicts with
  | between | parting => exact absurd empty (by simp)
  | returned cleared released =>
    refine ⟨early, answer, late, _, split, ?_, nodup_expired _,
      fun id => mem_expired_iff_overdue looks, fun id member => ⟨?_, ?_⟩,
      fun _ _ _ _ _ found broken =>
        not_closed_of_broken settings _ (List.mem_of_getElem? found) broken,
      fun id other => ?_, fun id number other runs => ?_⟩
    · show (((new settings).run (before ++ .begin .sweep :: during)).flights.getLast?).bind
        Flight.reply = _
      rw [flights, List.getLast?_concat, Option.bind_some, replied]
    · rw [cleared.slots id, if_pos member]
    · obtain ⟨state, was, done⟩ := released id member
      obtain ⟨slot, there, rfl⟩ := Option.map_eq_some_iff.mp was
      exact ⟨slot, there, done⟩
    · rw [cleared.slots id, if_neg other, Registry.slot?, Registry.slot?, cleared.table]
    · -- a worker has one session, so it is not one of those that the sweep dealt with
      refine cleared.workers number fun evicted member also => ?_
      rw [Registry.state?, Registry.slot?, cleared.table] at runs
      obtain ⟨standing, found, rfl⟩ := labelled.registry.slots id _ runs
      obtain ⟨again, there, rfl⟩ := labelled.registry.slots evicted _ also
      rw [found] at there
      cases there
      exact other member

end System

/-- Two sessions are started. After five minutes the first is paused, and the second gets input. -/
def lull : List Move :=
  let on (flight : Nat) : Move := .proceed flight (.ok ())
  [.begin (.start ⟨"a"⟩ loopRom 0), on 0, on 0, on 0, on 0, on 0, on 0,
    .begin (.start ⟨"b"⟩ loopRom 0), on 1, on 1, on 1, on 1, on 1, on 1,
    .wait (Span.ofSeconds 301), .begin (.session ⟨"a"⟩ .pause), on 2, on 2, on 2,
    .begin (.session ⟨"b"⟩ (.press ⟨⟨6, by decide⟩, true⟩)), on 3, on 3, on 3]

/-- What happens while the idle one is swept out. -/
def lullSwept : List Move :=
  let onward : Move := .proceed 4 (.ok ())
  [onward, onward, onward, .work 0 .accepts, onward, onward, onward, onward]

/-- The worker of a session breaks off. -/
def derailed : List Move :=
  let onward : Move := .proceed 0 (.ok ())
  [.begin (.start ⟨"s"⟩ loopRom 0), onward, onward, onward, onward, onward, onward,
    .work 0 .accepts, .work 0 .breaks]

/-- What happens while the session is swept out. -/
def derailedSwept : List Move := List.replicate 6 (.proceed 1 (.ok ()))

namespace System

/-- The session that was only paused is swept out, the one that got input is not. -/
theorem sweeps_overdue_lull :
    let system := (new Settings.default).run (lull ++ .begin .sweep :: lullSwept)
    let untouched := (new Settings.default).run (lull ++ lullSwept.filter Move.isDrift)
    (∃ early, early <+: lullSwept ∧
      Overdue Settings.default (lull ++ .begin .sweep :: early) ⟨"a"⟩ ∧
      ¬ Overdue Settings.default (lull ++ .begin .sweep :: early) ⟨"b"⟩) ∧
      system.registry.slot? ⟨"a"⟩ = none ∧ system.registry.closings 0 = 1 ∧
      system.registry.slot? ⟨"b"⟩ = untouched.registry.slot? ⟨"b"⟩ ∧
      system.registry.worker? 1 = untouched.registry.worker? 1 := by
  intro system untouched
  have alone : ∀ call, Move.begin call ∉ lullSwept := by simp [lullSwept]
  obtain ⟨-, sweeps, -⟩ := sweeps_overdue Settings.default lull lullSwept (by decide) alone
  obtain ⟨early, answer, late, ids, split, replied, -, exact, evicted⟩ := sweeps (by decide)
  have named : (system.flights.getLast?).bind Flight.reply = some (.ok (.sessions [⟨"a"⟩])) := by
    decide
  obtain rfl : ids = [⟨"a"⟩] := by
    rw [named] at replied
    cases replied
    rfl
  have other : (⟨"b"⟩ : SessionId) ∉ [(⟨"a"⟩ : SessionId)] := by decide
  refine ⟨⟨early, ⟨_, split.symm⟩, (exact ⟨"a"⟩).mp List.mem_cons_self,
    fun overdue => other ((exact ⟨"b"⟩).mpr overdue)⟩, (evicted.gone ⟨"a"⟩ List.mem_cons_self).1,
    by decide, evicted.slots ⟨"b"⟩ other, evicted.workers ⟨"b"⟩ 1 other (by decide)⟩

/-- It is not so that the sinks of all sessions that are swept out are closed. -/
theorem exists_unclosed_of_sweep :
    ¬ ∀ (settings : Settings) (before during : List Move) (ids : List SessionId) (id : SessionId)
      (number : WorkerId) (standing : Standing),
      ((new settings).run before).isQuiet = true → (∀ call, .begin call ∉ during) →
      ((new settings).run (before ++ .begin .sweep :: during)).isQuiet = true →
      ((new settings).run (before ++ .begin .sweep :: during)).flights.getLast?.bind
        Flight.reply = some (.ok (.sessions ids)) → id ∈ ids →
      ((new settings).run before).registry.state? id = some (.running number) →
      ((new settings).run before).registry.standings[number]? = some standing →
        .closed ∈ ((new settings).run
          (before ++ .begin .sweep :: during)).registry.sinkHistory standing.sink := by
  intro closes
  have closed := closes Settings.default derailed derailedSwept [⟨"s"⟩] ⟨"s"⟩ 0
    ⟨⟨"s"⟩, 0, .broken, false⟩ (by decide) (by simp [derailedSwept]) (by decide +kernel)
    (by decide +kernel) List.mem_cons_self (by decide +kernel) (by decide +kernel)
  exact absurd closed (by decide +kernel)

end System

end Arcade
