/-
**When a session was last active.**

The slot of a session says when the session was last active. Only three things count as a sign of
life: a call that starts the session or gives it another program returns with success, or a call
that gives it input gets to it, whatever comes of the input (`System.Enlivens`). Whatever else is
asked of the session, to pause it, to let it run on, to change how fast it runs or to unload it,
leaves the time in its slot alone. A slot that is reserved for a new session has a time of its own,
but the call that reserved it puts its worker there, or the slot is given up.

* `Task.dates`: what a task does to the time in a slot;
* `System.launching_run`: how far a call has come that launches a worker;
* `System.refreshes_of_dated`: only a call that counts changes the time in a slot;
* `System.isGreatest_lastActive`: when no call is in progress, the slot has the latest sign of life.
-/

import Arcade.Proofs.Registry.Admission
import Mathlib.Order.Bounds.Defs

namespace Arcade

open Registry

/-! ### What a task does to the time in a slot -/

/-- Whether a task leads a launch to its end, where its worker is put into the slot of a session or
the slot is given up. -/
def Task.settles (id : SessionId) : Task → Bool
  | .acknowledge launch | .spawn launch => launch.id = id
  | .publish other _ | .withdraw _ other _ => other = id
  | _ => false

/-- How the time got into a slot that a session has after a task. -/
inductive Task.Dates (registry : Registry) (id : SessionId) (slot : Slot) (progress : Progress) :
    Task → Prop
  /-- The slot had it before, and if it was the task of a launch, the launch goes on. -/
  | kept {task old} (there : registry.slot? id = some old) (same : slot.lastActive = old.lastActive)
      (silent : ∀ event, task ≠ .record id event)
      (onward : task.settles id = true → ∃ next ∈ progress.todo, next.settles id = true) :
    Dates registry id slot progress task
  | pressed {event} (fresh : slot.lastActive = registry.now) :
    Dates registry id slot progress (.record id event)
  | published {worker} (fresh : slot.lastActive = registry.now) (complete : progress.todo = [])
      (replied : progress.reply = some (.ok .done)) :
    Dates registry id slot progress (.publish id worker)
  | reserved {launch} (same : launch.id = id) (fresh : slot.lastActive = registry.now)
      (onward : progress.todo = [.acknowledge launch]) :
    Dates registry id slot progress (.reserve launch)

section Dating

variable {registry : Registry} {answer : Except SinkError Unit} {task : Task} {progress : Progress}
  {id other : SessionId} {slot : Slot}

/-- A slot that was put in is another one, or it is the one that was put in. -/
theorem Registry.slot?_of_put (registry : Registry) {after : Registry} {put : Slot}
    (table : after.table = (registry.putSlot other put).table)
    (there : after.slot? id = some slot) :
    id = other ∧ slot = put ∨ id ≠ other ∧ registry.slot? id = some slot := by
  have split := registry.slot?_putSlot other id put
  rw [Registry.slot?, ← table] at split
  rw [Registry.slot?, split] at there
  by_cases same : id = other
  · rw [if_pos same] at there
    exact .inl ⟨same, (Option.some.inj there).symm⟩
  · rw [if_neg same] at there
    exact .inr ⟨same, there⟩

/-- A slot that is there after one was forgotten is another one. -/
theorem Registry.slot?_of_forget (registry : Registry) {after : Registry}
    (table : after.table = (registry.forget other).table) (there : after.slot? id = some slot) :
    id ≠ other ∧ registry.slot? id = some slot := by
  have split := registry.slot?_forget other id
  rw [Registry.slot?, ← table] at split
  rw [Registry.slot?, split] at there
  by_cases same : id = other
  · rw [if_pos same] at there
    cases there
  · rw [if_neg same] at there
    exact ⟨same, there⟩

/-- Whoever only watches leaves the table alone, unless it passes on a key event. -/
theorem Task.table_of_watches (watches : task.watches = true)
    (silent : ∀ id event, task ≠ .record id event)
    (did : task.step registry answer = some progress) :
    progress.registry.table = registry.table := by
  cases task with
  | record id event => exact absurd rfl (silent id event)
  | seek id steering =>
    rw [← Option.some.inj did]
    unfold Registry.seek
    split
    · rfl
    · split <;> rfl
  | steer id worker steering =>
    rw [← Option.some.inj did]
    unfold Registry.steer
    split <;> rfl
  | press id worker event =>
    rw [← Option.some.inj did]
    unfold Registry.press
    split
    · rfl
    · split <;> rfl
  | sweep | shutdown | count | contains | list | catalog => exact Option.some.inj did ▸ rfl
  | _ => cases watches

/-- Passing on a key event sets the time in the slot. -/
theorem Registry.table_record (there : registry.slot? other = some slot) (event : KeyEvent) :
    (registry.record other event).registry.table =
      (registry.putSlot other { slot with lastActive := registry.now }).table := by
  simp only [record, there]
  split <;> rfl

/-- Passing on a key event to a session that is not registered does nothing. -/
theorem Registry.record_of_gone (gone : registry.slot? other = none) (event : KeyEvent) :
    (registry.record other event).registry = registry := by
  simp only [record, gone]
  rfl

/-- **What a task does to the time in a slot.** -/
theorem Task.dates (did : task.step registry answer = some progress)
    (there : progress.registry.slot? id = some slot) : task.Dates registry id slot progress := by
  -- where the table is as it was
  have stays : progress.registry.table = registry.table → registry.slot? id = some slot := by
    intro same
    rw [Registry.slot?, ← same]
    exact there
  cases Task.yields_of_step did with
  | reaped =>
    have left : registry.reaped.slot? id = some slot := there
    rw [slot?_reaped, Option.filter_eq_some_iff] at left
    exact .kept left.1 rfl (by simp) (by simp [settles])
  | @admitted launch =>
    rcases registry.slot?_of_put rfl there with ⟨rfl, rfl⟩ | ⟨different, old⟩
    · exact .reserved rfl rfl rfl
    · exact .kept old rfl (by simp) (by simp [settles])
  | acknowledged => exact .kept there rfl (by simp) fun mine => ⟨_, List.mem_cons_self, mine⟩
  | unacknowledged => exact .kept there rfl (by simp) fun mine => ⟨_, List.mem_cons_self, mine⟩
  | spawned => exact .kept there rfl (by simp) fun mine => ⟨_, List.mem_cons_self, mine⟩
  | unspawned => exact .kept there rfl (by simp) fun mine => ⟨_, List.mem_cons_self, mine⟩
  | @withdrawn kind other =>
    obtain ⟨different, old⟩ := (registry.vacate other).slot?_of_forget rfl there
    rw [Registry.slot?, table_vacate] at old
    refine .kept old rfl (by simp) fun mine => ?_
    exact absurd (of_decide_eq_true mine).symm different
  | @published other worker =>
    rcases (registry.vacate other).slot?_of_put rfl there with
      ⟨rfl, rfl⟩ | ⟨different, old⟩
    · exact .published rfl rfl rfl
    · rw [Registry.slot?, table_vacate] at old
      refine .kept old rfl (by simp) fun mine => ?_
      exact absurd (of_decide_eq_true mine).symm different
  | @superseded other worker gone =>
    refine .kept there rfl (by simp) fun mine => ?_
    obtain rfl : other = id := of_decide_eq_true mine
    cases gone.symm.trans there
  | halted same => exact .kept (stays same) rfl (by simp) (by simp [settles])
  | @parked other sink purpose =>
    rcases (registry.vacate other).slot?_of_put rfl there with
      ⟨rfl, rfl⟩ | ⟨different, old⟩
    · rename_i found
      exact .kept found rfl (by simp) (by simp [settles])
    · rw [Registry.slot?, table_vacate] at old
      exact .kept old rfl (by simp) (by simp [settles])
  | @bereft other =>
    obtain ⟨different, old⟩ := (registry.vacate other).slot?_of_forget rfl there
    rw [Registry.slot?, table_vacate] at old
    exact .kept old rfl (by simp) (by simp [settles])
  | @removed other =>
    obtain ⟨different, old⟩ := registry.slot?_of_forget rfl there
    exact .kept old rfl (by simp) (by simp [settles])
  | unloaded found =>
    rcases registry.slot?_of_put rfl there with ⟨rfl, rfl⟩ | ⟨different, old⟩
    · exact .kept found rfl (by simp) (by simp [settles])
    · exact .kept old rfl (by simp) (by simp [settles])
  | taken found =>
    rcases registry.slot?_of_put rfl there with ⟨rfl, rfl⟩ | ⟨different, old⟩
    · exact .kept found rfl (by simp) (by simp [settles])
    · exact .kept old rfl (by simp) (by simp [settles])
  | watched watches =>
    have unsettling : task.settles id = true → ∃ next ∈ progress.todo, next.settles id = true := by
      intro mine
      cases task <;> first | exact absurd mine Bool.false_ne_true | cases watches
    by_cases records : ∃ other event, task = .record other event
    · obtain ⟨other, event, rfl⟩ := records
      obtain rfl := Option.some.inj did
      cases found : registry.slot? other with
      | none =>
        rw [record_of_gone found] at there
        refine .kept there rfl (fun event same => ?_) unsettling
        cases same
        cases found.symm.trans there
      | some old =>
        rcases registry.slot?_of_put (table_record found event) there with
          ⟨rfl, rfl⟩ | ⟨different, old⟩
        · exact .pressed rfl
        · refine .kept old rfl (fun event same => ?_) unsettling
          cases same
          exact absurd rfl different
    · have silent : ∀ id event, task ≠ .record id event :=
        fun id event same => records ⟨id, event, same⟩
      exact .kept (stays (Task.table_of_watches watches silent did)) rfl (silent id) unsettling
  | _ => exact .kept there rfl (by simp) (by simp [settles])

end Dating

/-! ### Which calls come to which tasks -/

/-- Whether a task befits a call: only a call that launches a worker comes to the tasks of a launch,
and only a call that gives input comes to the task that notes it. -/
def Task.Befits (call : Call) : Task → Prop
  | .build id _ _ _ | .rebuild id _ _ | .withdraw _ id _ | .publish id _ | .take id _ _
  | .unload id (.replace _ _) | .park id _ (.replace _ _)
  | .halt id _ (.keep (.replace _ _)) | .join id _ (.keep (.replace _ _)) => call.Launches id
  | .reserve launch | .acknowledge launch | .spawn launch => call.Launches launch.id
  | .record id event => call = .session id (.press event)
  | _ => True

section Befitting

variable {registry : Registry} {answer : Except SinkError Unit} {task next : Task}
  {progress : Progress} {call : Call}

/-- Whoever only watches comes to no task that notes input. -/
theorem Task.not_record_of_watches (watches : task.watches = true)
    (did : task.step registry answer = some progress) (id : SessionId) (event : KeyEvent) :
    .record id event ∉ progress.todo := by
  cases task with
  | seek other steering =>
    rw [← Option.some.inj did]
    unfold Registry.seek
    split
    · exact List.not_mem_nil
    · split <;> simp [Registry.proceed, Registry.refuse, Registry.answer]
  | record other press =>
    rw [← Option.some.inj did]
    unfold Registry.record
    split
    · exact List.not_mem_nil
    · simp only
      split <;> simp [Registry.proceed, Registry.refuse, Registry.answer]
  | steer other worker steering =>
    rw [← Option.some.inj did]
    unfold Registry.steer
    split <;> exact List.not_mem_nil
  | press other worker press =>
    rw [← Option.some.inj did]
    unfold Registry.press
    split
    · exact List.not_mem_nil
    · split <;> exact List.not_mem_nil
  | sweep | shutdown =>
    rw [← Option.some.inj did]
    simp [Registry.sweep, Registry.shutdown, Registry.proceed]
  | count | contains | list | catalog => exact Option.some.inj did ▸ List.not_mem_nil
  | _ => cases watches

theorem befits_unloading (id : SessionId) (purpose : Unloading)
    (befits : ∀ rom machine, purpose = .replace rom machine → call.Launches id) :
    ∀ next ∈ Registry.Unloading.tasks id purpose, next.Befits call := by
  cases purpose with
  | park => simp [Registry.Unloading.tasks, Task.Befits]
  | replace rom machine =>
    simpa [Registry.Unloading.tasks, Task.Befits] using befits rom machine rfl

/-- **A task that befits a call leads to tasks that befit it.** -/
theorem Task.Befits.done (befits : task.Befits call)
    (did : task.step registry answer = some progress) (member : next ∈ progress.todo) :
    next.Befits call := by
  cases Task.yields_of_step did with
  | watched watches _ _ _ _ todo =>
    obtain watching | ⟨_, rfl⟩ | ⟨_, rfl⟩ := todo next member
    · cases next with
      | record id event => exact absurd member (Task.not_record_of_watches watches did id event)
      | seek | steer | press | sweep | shutdown | count | contains | list | catalog => trivial
      | _ => cases watching
    · trivial
    · trivial
  | reaped =>
    obtain ⟨entry, -, rfl⟩ := List.mem_map.mp member
    trivial
  | @halted id worker custody =>
    rw [List.mem_singleton.mp member]
    cases custody with
    | close => trivial
    | keep purpose => cases purpose <;> exact befits
  | @ended id number custody =>
    cases custody with
    | close =>
      rw [List.mem_singleton.mp member]
      trivial
    | keep purpose =>
      rw [List.mem_singleton.mp member]
      cases purpose <;> exact befits
  | @broken id number custody =>
    cases custody with
    | close => cases member
    | keep purpose =>
      rw [List.mem_singleton.mp member]
      cases purpose <;> exact befits
  | @parked id sink purpose =>
    exact befits_unloading id purpose (by rintro rom machine rfl; exact befits) next member
  | @vanished id purpose =>
    exact befits_unloading id purpose (by rintro rom machine rfl; exact befits) next member
  | @unparked id sink purpose =>
    rcases List.mem_cons.mp member with rfl | rest
    · trivial
    · exact befits_unloading id purpose (by rintro rom machine rfl; exact befits) next rest
  | @removed id slot =>
    rcases List.mem_append.mp member with release | last
    · cases held : slot.state <;> rw [held] at release <;>
        simp only [SlotState.releaseTasks, List.mem_singleton, List.not_mem_nil] at release
      all_goals rw [release]; trivial
    · rw [List.mem_singleton.mp last]
      trivial
  | @unloaded id purpose =>
    rw [List.mem_singleton.mp member]
    cases purpose <;> exact befits
  | built =>
    rcases List.mem_cons.mp member with rfl | rest
    · trivial
    · rw [List.mem_singleton.mp rest]
      exact befits
  | superseded =>
    rcases List.mem_cons.mp member with rfl | rest
    · trivial
    · rw [List.mem_singleton.mp rest]
      trivial
  | unfit | rejected =>
    simp only [rejection, List.mem_cons, List.not_mem_nil, or_false] at member
    rcases member with rfl | rfl | rfl <;> trivial
  | rebuilt | admitted | acknowledged | unacknowledged | spawned | unspawned | passed | taken =>
    rw [List.mem_singleton.mp member]
    exact befits
  | _ => cases member

theorem Call.befits_begun (call : Call) (sink : SinkId) :
    ∀ task ∈ call.tasks sink, task.Befits call := by
  have begins := call.begins sink
  generalize call.tasks sink = todo at begins ⊢
  cases begins <;> simp [Task.Befits, Call.Launches]

end Befitting

namespace System

/-- **Whatever a call has to do befits it**, at any time. -/
theorem befits_run (settings : Settings) (schedule : List Move) :
    ∀ flight ∈ ((new settings).run schedule).flights, ∀ task ∈ flight.todo,
      task.Befits flight.call := by
  refine flights_induction settings (fun flight => ∀ task ∈ flight.todo, task.Befits flight.call)
    (fun call sink => call.befits_begun sink)
    (fun {_ flight task later _ progress} befits next did other member => ?_) schedule
  rcases List.mem_append.mp member with fresh | left
  · exact (befits task (by rw [next]; exact List.mem_cons_self)).done did fresh
  · exact befits other (by rw [next]; exact List.mem_cons_of_mem _ left)

end System

/-! ### How a launch ends -/

/-- Whether a task may be the last of a call that launches a worker for a session. -/
def Task.IsLastOf (id : SessionId) (call : Call) (last : Task) : Prop :=
  last.opens id = true ∨ last.Leads id call ∨ ∃ cause, last = .answer (.error cause)

/-- How far a call has come that launches a worker for a session: it has returned, or what it does
on the way leads to its last task. -/
def Flight.IsLaunching (id : SessionId) (flight : Flight) : Prop :=
  flight.todo = [] ∨ EndsIn (Task.IsLastOf id flight.call) flight.todo

section Launching

variable {registry : Registry} {answer : Except SinkError Unit} {task : Task} {later : List Task}
  {progress : Progress} {id : SessionId} {call : Call}

/-- What the last task of such a call does: it leads to a later one, or the call is over. -/
theorem Task.IsLastOf.done (last : task.IsLastOf id call)
    (did : task.step registry answer = some progress) :
    EndsIn (Task.IsLastOf id call) progress.todo ∨ progress.todo = [] ∧
      ∃ reply, progress.reply = some reply ∧
        (reply = .ok .done → ∃ worker, task = .publish id worker ∧ registry.slot? id ≠ none) := by
  have yields := Task.yields_of_step did
  rcases last with opens | leads | ⟨cause, rfl⟩
  · rcases yields.entering did opens call with ⟨-, waits | ⟨cause, turned, -⟩⟩ | ends
    · exact .inl (waits.mono fun _ => .inl)
    · exact .inl (turned.mono fun _ same => .inr (.inr ⟨cause, same⟩))
    · exact .inl (ends.mono fun _ leads => .inr (.inl leads))
  · rcases yields.leading [] leads with ⟨complete, -⟩ | ends
    · rcases yields.ending leads complete with ⟨replied, published⟩ | ⟨cause, replied, -⟩
      · exact .inr ⟨complete, _, replied, fun _ => published⟩
      · exact .inr ⟨complete, _, replied, fun same => by cases same⟩
    · exact .inl (ends.mono fun _ leads =>
        .inr (leads.imp_right fun answers => ⟨_, answers.1⟩))
  · cases did
    exact .inr ⟨rfl, _, rfl, fun same => by cases same⟩

/-- **One task of a call that launches a worker.** The call goes on, or it is over, and then it was
successful only if the task put a worker into the slot of the session. -/
theorem Flight.IsLaunching.done {flight : Flight} (launching : flight.IsLaunching id)
    (next : flight.todo = task :: later) (did : task.step registry answer = some progress) :
    EndsIn (Task.IsLastOf id flight.call) (progress.todo ++ later) ∨
      later = [] ∧ progress.todo = [] ∧ ∃ reply, progress.reply = some reply ∧
        (reply = .ok .done → ∃ worker, task = .publish id worker ∧ registry.slot? id ≠ none) := by
  rcases launching with complete | ends
  · cases next.symm.trans complete
  · rw [next] at ends
    rcases ends.cases with ⟨passes, rest⟩ | ⟨rfl, last⟩
    · exact .inl (EndsIn.append ((Task.yields_of_step did).passes passes) rest)
    · rw [List.append_nil]
      exact (last.done did).imp_right fun ended => ⟨rfl, ended⟩

theorem Call.isLaunching_begun (launches : call.Launches id) (sink : SinkId) :
    EndsIn (Task.IsLastOf id call) (call.tasks sink) := by
  cases call with
  | start other rom seed => exact .single (.inl (decide_eq_true launches))
  | session other request =>
    cases request with
    | changeRom rom seed =>
      obtain rfl : other = id := launches
      exact .single (.inr (.inl ⟨rfl, rfl⟩))
    | _ => cases launches
  | _ => cases launches

end Launching

namespace System

/-- **How far each call has come that launches a worker**, at any time. -/
theorem launching_run (settings : Settings) (schedule : List Move) (id : SessionId) :
    ∀ flight ∈ ((new settings).run schedule).flights, flight.call.Launches id →
      flight.IsLaunching id := by
  refine flights_induction settings (fun flight => flight.call.Launches id → flight.IsLaunching id)
    (fun call sink launches => .inr (Call.isLaunching_begun launches sink))
    (fun {_ flight task later _ progress} launching next did launches => ?_) schedule
  rcases (launching launches).done next did with ends | ⟨rfl, complete, -⟩
  · exact .inr ends
  · exact .inl ((flight.todo_advance_nil progress).trans complete)

end System

/-! ### Signs of life -/

/-- Whether a call may show that a session is alive: it starts the session, gives it another program
or gives it input. -/
def Call.Refreshes (id : SessionId) (call : Call) : Prop :=
  call.Launches id ∨ ∃ event, call = .session id (.press event)

namespace System

/-- The moves that show that a session is alive. -/
inductive Enlivens (system : System) (id : SessionId) : Move → Prop
  /-- A call that starts the session or gives it another program returns with success. -/
  | launched {number answer flight moved} (known : system.flights[number]? = some flight)
      (launches : flight.call.Launches id) (pending : flight.todo ≠ [])
      (after : (system.move (.proceed number answer)).flights[number]? = some moved)
      (returned : moved.todo = []) (replied : moved.reply = some (.ok .done)) :
    Enlivens system id (.proceed number answer)
  /-- A call that gives the session input gets to it, whatever comes of it. -/
  | pressed {number answer flight event later} (known : system.flights[number]? = some flight)
      (called : flight.call = .session id (.press event))
      (next : flight.todo = .record id event :: later) :
    Enlivens system id (.proceed number answer)

/-- The moments of a schedule at which a session showed that it is alive. -/
def activity (settings : Settings) (schedule : List Move) (id : SessionId) : Set Moment :=
  {moment | ∃ before move after, schedule = before ++ move :: after ∧
    ((new settings).run before).Enlivens id move ∧
    moment = ((new settings).run before).registry.now}

section Signs

variable {settings : Settings} {schedule : List Move} {move : Move} {id : SessionId}

theorem mem_activity_concat {moment : Moment} :
    moment ∈ activity settings (schedule ++ [move]) id ↔
      moment ∈ activity settings schedule id ∨
        ((new settings).run schedule).Enlivens id move ∧
          moment = ((new settings).run schedule).registry.now := by
  constructor
  · rintro ⟨before, other, after, split, enlivens, rfl⟩
    rcases List.eq_nil_or_concat after with rfl | ⟨between, final, rfl⟩
    · obtain ⟨rfl, same⟩ := List.append_inj' split rfl
      cases same
      exact .inr ⟨enlivens, rfl⟩
    · rw [List.concat_eq_append, ← List.cons_append, ← List.append_assoc] at split
      exact .inl ⟨before, other, between, (List.append_inj' split rfl).1, enlivens, rfl⟩
  · rintro (⟨before, other, after, rfl, enlivens, rfl⟩ | ⟨enlivens, rfl⟩)
    · exact ⟨before, other, after ++ [move], by simp, enlivens, rfl⟩
    · exact ⟨schedule, move, [], rfl, enlivens, rfl⟩

section Done

variable {number : Nat} {answer : Except SinkError Unit} {flight : Flight} {task : Task}
  {later : List Task} {progress : Progress}

/-- Input that gets to a session shows that it is alive. -/
theorem enlivens_of_record {event : KeyEvent}
    (known : ((new settings).run schedule).flights[number]? = some flight)
    (next : flight.todo = .record id event :: later) :
    ((new settings).run schedule).Enlivens id (.proceed number answer) :=
  .pressed known (befits_run settings schedule flight (List.mem_of_getElem? known)
    (.record id event) (by rw [next]; exact List.mem_cons_self)) next

/-- A worker that is put into the slot of a session shows that the session is alive: the call that
launched the worker returns with success. -/
theorem enlivens_of_publish {worker : WorkerId}
    (known : ((new settings).run schedule).flights[number]? = some flight)
    (next : flight.todo = .publish id worker :: later)
    (did : (Task.publish id worker).step ((new settings).run schedule).registry answer =
      some progress)
    (complete : progress.todo = []) (replied : progress.reply = some (.ok .done)) :
    ((new settings).run schedule).Enlivens id (.proceed number answer) := by
  have inFlight := List.mem_of_getElem? known
  have launches : flight.call.Launches id :=
    befits_run settings schedule flight inFlight (.publish id worker)
      (by rw [next]; exact List.mem_cons_self)
  have last : later = [] := by
    rcases launching_run settings schedule id flight inFlight launches with returned | ends
    · cases next.symm.trans returned
    · rw [next] at ends
      rcases ends.cases with ⟨passes, -⟩ | ⟨empty, -⟩
      · cases passes
      · exact empty
  subst last
  have moved : (((new settings).run schedule).move (.proceed number answer)).flights[number]? =
      some (flight.advance progress []) := by
    rw [move_did known next did]
    exact List.getElem?_set_self (List.getElem?_eq_some_iff.mp known).1
  have answered : (flight.advance progress []).reply = some (.ok .done) := by
    rw [Flight.advance, replied]
    rfl
  exact .launched known launches (by rw [next]; exact List.cons_ne_nil _ _) moved
    ((flight.todo_advance_nil progress).trans complete) answered

end Done

/-- **What shows that a session is alive sets the time in its slot.** -/
theorem lastActive_of_enlivens (enlivens : ((new settings).run schedule).Enlivens id move)
    {slot : Slot}
    (there : (((new settings).run schedule).move move).registry.slot? id = some slot) :
    slot.lastActive = ((new settings).run schedule).registry.now := by
  have step := ((new settings).run schedule).step_move move
  have launching := launching_run settings schedule id
  generalize (new settings).run schedule = system at *
  cases enlivens with
  | @launched number answer flight moved known launches pending after returned replied =>
    generalize system.move (.proceed number answer) = reached at *
    cases step with
    | stayed =>
      obtain rfl := Option.some.inj (known.symm.trans after)
      exact absurd returned pending
    | @done _ _ same task later progress found next did =>
      obtain rfl := Option.some.inj (known.symm.trans found)
      rw [List.getElem?_set_self (List.getElem?_eq_some_iff.mp known).1] at after
      obtain rfl := Option.some.inj after
      rcases (launching flight (List.mem_of_getElem? known) launches).done next did with
        ends | ⟨rfl, complete, reply, given, success⟩
      · exact absurd returned ends.ne_nil
      · rw [Flight.advance, given] at replied
        obtain ⟨worker, rfl, -⟩ := success (Option.some.inj replied)
        cases Task.dates did there with
        | kept _ _ _ onward =>
          obtain ⟨other, member, -⟩ := onward (decide_eq_true rfl)
          rw [complete] at member
          cases member
        | published fresh => exact fresh
  | @pressed number answer flight event later known called next =>
    generalize system.move (.proceed number answer) = reached at *
    cases step with
    | stayed waits =>
      obtain ⟨_, _, _, same⟩ := waits _ (task?_proceed known next answer)
      cases same
    | @done _ _ same task later progress found head did =>
      obtain rfl := Option.some.inj (known.symm.trans found)
      obtain ⟨rfl, rfl⟩ := List.cons.inj (next.symm.trans head)
      cases Task.dates did there with
      | kept _ _ silent => exact absurd rfl (silent event)
      | pressed fresh => exact fresh

end Signs

/-! ### The time in a slot -/

/-- **Only a call that starts a session, gives it another program or gives it input sets the time in
its slot.** -/
theorem refreshes_of_dated (settings : Settings) (schedule : List Move) (move : Move)
    {id : SessionId} {slot : Slot}
    (there : (((new settings).run schedule).move move).registry.slot? id = some slot) :
    (∃ old, ((new settings).run schedule).registry.slot? id = some old ∧
        slot.lastActive = old.lastActive) ∨
      ∃ number answer flight, move = .proceed number answer ∧
        ((new settings).run schedule).flights[number]? = some flight ∧
        flight.call.Refreshes id := by
  have step := ((new settings).run schedule).step_move move
  have befits := befits_run settings schedule
  generalize (new settings).run schedule = system at *
  generalize system.move move = after at *
  cases step with
  | begun | stayed | worked | waited => exact .inl ⟨slot, there, rfl⟩
  | @done number answer flight task later progress known next did =>
    have suits := befits flight (List.mem_of_getElem? known) task
      (by rw [next]; exact List.mem_cons_self)
    cases Task.dates did there with
    | kept old same => exact .inl ⟨_, old, same⟩
    | @pressed event => exact .inr ⟨number, answer, flight, rfl, known, .inr ⟨event, suits⟩⟩
    | published => exact .inr ⟨number, answer, flight, rfl, known, .inl suits⟩
    | @reserved launch same =>
      subst same
      exact .inr ⟨number, answer, flight, rfl, known, .inl suits⟩

/-- Whether a call in progress leads a launch of a session to its end. -/
def Settling (system : System) (id : SessionId) : Prop :=
  ∃ (number : Nat) (flight : Flight), system.flights[number]? = some flight ∧
    ∃ task ∈ flight.todo, task.settles id = true

/-- Whether the time in a slot is the latest sign of life, unless a launch has yet to come to its
end. -/
structure Dated (settings : Settings) (schedule : List Move) (id : SessionId) (system : System) :
    Prop where
  past : ∀ moment ∈ activity settings schedule id, moment ≤ system.registry.now
  latest : ∀ slot, system.registry.slot? id = some slot →
    ∀ moment ∈ activity settings schedule id, moment ≤ slot.lastActive
  shown : ∀ slot, system.registry.slot? id = some slot →
    slot.lastActive ∈ activity settings schedule id ∨ system.Settling id

theorem Step.now_le {system after : System} {move : Move} (step : system.Step move after) :
    system.registry.now ≤ after.registry.now := by
  cases step with
  | begun | stayed | worked => exact Nat.le_refl _
  | waited => exact Nat.le_add_right _ _
  | done _ _ did => exact Nat.le_of_eq (now_step did).symm

/-- Calls that are begun keep those in progress. -/
theorem Settling.begin {system : System} {id : SessionId} (settling : system.Settling id)
    (call : Call) : (system.begin call).Settling id := by
  obtain ⟨number, flight, known, settles⟩ := settling
  refine ⟨number, flight, ?_, settles⟩
  rw [System.begin, List.getElem?_append_left (List.getElem?_eq_some_iff.mp known).1, known]

/-- A call in progress leads its launch on to its end, unless it is the one whose task was done. -/
theorem Settling.done {system : System} {id : SessionId} (settling : system.Settling id)
    {number : Nat} {flight : Flight} {task : Task} {later : List Task} {progress : Progress}
    (known : system.flights[number]? = some flight) (next : flight.todo = task :: later)
    (onward : task.settles id = true → ∃ next ∈ progress.todo, next.settles id = true) :
    Settling ⟨progress.registry, system.flights.set number (flight.advance progress later)⟩ id := by
  have moved := List.getElem?_set_self (a := flight.advance progress later)
    (List.getElem?_eq_some_iff.mp known).1
  obtain ⟨other, rival, there, left, member, settles⟩ := settling
  by_cases same : number = other
  · subst same
    obtain rfl := Option.some.inj (known.symm.trans there)
    rw [next] at member
    rcases List.mem_cons.mp member with rfl | member
    · obtain ⟨fresh, listed, also⟩ := onward settles
      exact ⟨number, _, moved, fresh, List.mem_append_left _ listed, also⟩
    · exact ⟨number, _, moved, left, List.mem_append_right _ member, settles⟩
  · refine ⟨other, rival, ?_, left, member, settles⟩
    simp only
    rw [List.getElem?_set_ne same, there]

/-- **The time in a slot is the latest sign of life**, at any time, unless a launch has yet to come
to its end. -/
theorem dated_run (settings : Settings) (schedule : List Move) (id : SessionId) :
    Dated settings schedule id ((new settings).run schedule) := by
  refine run_induction (new settings) (fun schedule system => Dated settings schedule id system)
    ⟨?_, fun _ there => (by cases there), fun _ there => (by cases there)⟩
    (fun schedule move before step => ?_) schedule
  · rintro moment ⟨early, move, late, split, -⟩
    exact absurd split.symm (List.append_ne_nil_of_right_ne_nil early (List.cons_ne_nil move late))
  have past : ∀ moment ∈ activity settings (schedule ++ [move]) id,
      moment ≤ (((new settings).run schedule).move move).registry.now := by
    intro moment member
    rcases mem_activity_concat.mp member with old | ⟨-, rfl⟩
    · exact (before.past moment old).trans step.now_le
    · exact step.now_le
  by_cases alive : ((new settings).run schedule).Enlivens id move
  · refine ⟨past, fun slot there moment member => ?_, fun slot there => .inl ?_⟩
    · rw [lastActive_of_enlivens alive there]
      rcases mem_activity_concat.mp member with old | ⟨-, rfl⟩
      · exact before.past moment old
      · exact Nat.le_refl _
    · exact mem_activity_concat.mpr (.inr ⟨alive, lastActive_of_enlivens alive there⟩)
  · have kept : ∀ moment, moment ∈ activity settings (schedule ++ [move]) id ↔
        moment ∈ activity settings schedule id :=
      fun _ => mem_activity_concat.trans (or_iff_left fun new => alive new.1)
    suffices slots : ∀ slot,
        (((new settings).run schedule).move move).registry.slot? id = some slot →
        (∀ moment ∈ activity settings schedule id, moment ≤ slot.lastActive) ∧
          (slot.lastActive ∈ activity settings schedule id ∨
            (((new settings).run schedule).move move).Settling id) by
      exact ⟨past, fun slot there moment member =>
          (slots slot there).1 moment ((kept moment).mp member),
        fun slot there => (slots slot there).2.imp_left (kept _).mpr⟩
    intro slot there
    cases move with
    | wait => exact ⟨before.latest slot there, before.shown slot there⟩
    | begin call =>
      exact ⟨before.latest slot there, (before.shown slot there).imp_right fun settling =>
        settling.begin call⟩
    | work number reaction =>
      have same : ((new settings).run schedule).registry.slot? id = some slot := by
        rw [Registry.slot?, ← table_move_work _ number reaction]
        exact there
      exact ⟨before.latest slot same, before.shown slot same⟩
    | proceed number answer =>
      generalize reached : ((new settings).run schedule).move (.proceed number answer) = after
        at step there
      cases step with
      | stayed => exact ⟨before.latest slot there, before.shown slot there⟩
      | @done _ _ flight task later progress known next did =>
        cases Task.dates did there with
        | @kept _ old found same silent onward =>
          rw [same]
          exact ⟨before.latest old found, (before.shown old found).imp_right fun settling =>
            settling.done known next onward⟩
        | pressed => exact absurd (enlivens_of_record known next) alive
        | published fresh complete replied =>
          exact absurd (enlivens_of_publish known next did complete replied) alive
        | @reserved launch same fresh onward =>
          rw [fresh]
          refine ⟨before.past, .inr ⟨number, flight.advance progress later,
            List.getElem?_set_self (List.getElem?_eq_some_iff.mp known).1, .acknowledge launch, ?_,
            decide_eq_true same⟩⟩
          rw [Flight.advance, onward]
          exact List.mem_cons_self

/-- **When no call leads a launch to its end, the time in a slot is the latest sign of life** of the
session. -/
theorem isGreatest_lastActive {settings : Settings} {schedule : List Move} {id : SessionId}
    {slot : Slot} (there : ((new settings).run schedule).registry.slot? id = some slot)
    (settled : ¬ ((new settings).run schedule).Settling id) :
    IsGreatest (activity settings schedule id) slot.lastActive := by
  have dated := dated_run settings schedule id
  exact ⟨(dated.shown slot there).resolve_right settled,
    fun moment => dated.latest slot there moment⟩

end System

end Arcade
