/-
**What becomes of a launch whose session is gone.**

A call that starts a session, or gives it another program, does one thing after another and answers
at the end. If the session is taken out of the table meanwhile, the call finds out at the latest
when it wants to put its worker into the slot. So it does not say that it was successful.

* `System.concludes_run`: such a call is on its way to a worker, or it was refused, or it found out;
* `System.forfeits_run`: once the session is gone, a call on its way to a worker ends with an error.
-/

import Arcade.Proofs.Registry.Departure

namespace Arcade

/-! ### The course of a launch -/

/-- Whether a call starts a session or gives it another program. -/
def Call.Launches (id : SessionId) : Call → Prop
  | .start other _ _ | .session other (.changeRom _ _) => other = id
  | _ => False

/-- The errors of a call whose session was taken away: it did not find the session, its client did
not listen, the system had no thread, or its program does not fit into any machine. -/
def Call.Forfeits (id : SessionId) (call : Call) : SessionError → Prop
  | .notFound other => other = id
  | .sink _ | .io _ => True
  | .machine _ =>
    ∃ rom seed, call = .session id (.changeRom rom seed) ∧ programLimit < rom.bytes.length
  | _ => False

/-- Whether a task is done on the way, without an answer. -/
def Task.Passes : Task → Prop
  | .reap | .tell _ _ | .close _ | .halt _ _ .close | .join _ _ .close => True
  | _ => False

/-- Whether a task leads a call to the worker of a session that is admitted, or back from there. -/
def Task.Leads (id : SessionId) (call : Call) : Task → Prop
  | .rebuild other rom seed => other = id ∧ call = .session id (.changeRom rom seed)
  | .unload other (.replace _ _) | .halt other _ (.keep (.replace _ _))
  | .join other _ (.keep (.replace _ _)) | .park other _ (.replace _ _) | .take other _ _
  | .publish other _ => other = id
  | .acknowledge launch | .spawn launch => launch.id = id
  | .withdraw _ _ cause => call.Forfeits id cause
  | _ => False

/-- Whether the last of some tasks meets a condition, and the others are done on the way to it. -/
def EndsIn (last : Task → Prop) (todo : List Task) : Prop :=
  ∃ first task, todo = first ++ [task] ∧ (∀ next ∈ first, next.Passes) ∧ last task

section Ending

variable {last later : Task → Prop} {todo : List Task} {task : Task}

theorem EndsIn.single (meets : last task) : EndsIn last [task] :=
  ⟨[], task, rfl, fun _ member => (by cases member), meets⟩

theorem EndsIn.cons (passes : task.Passes) (ends : EndsIn last todo) :
    EndsIn last (task :: todo) := by
  obtain ⟨before, final, rfl, pass, meets⟩ := ends
  refine ⟨task :: before, final, rfl, fun next member => ?_, meets⟩
  rcases List.mem_cons.mp member with rfl | old
  · exact passes
  · exact pass next old

theorem EndsIn.append {first : List Task} (passes : ∀ next ∈ first, next.Passes)
    (ends : EndsIn last todo) : EndsIn last (first ++ todo) := by
  induction first with
  | nil => exact ends
  | cons next rest ih =>
    exact .cons (passes next List.mem_cons_self)
      (ih fun other member => passes other (List.mem_cons_of_mem _ member))

theorem EndsIn.mono (weaker : ∀ task, last task → later task) (ends : EndsIn last todo) :
    EndsIn later todo := by
  obtain ⟨first, task, split, pass, meets⟩ := ends
  exact ⟨first, task, split, pass, weaker task meets⟩

theorem EndsIn.ne_nil (ends : EndsIn last todo) : todo ≠ [] := by
  rintro rfl
  obtain ⟨first, task, split, -⟩ := ends
  exact List.append_ne_nil_of_right_ne_nil first (List.cons_ne_nil task []) split.symm

/-- The next task is done on the way, or it is the last. -/
theorem EndsIn.cases (ends : EndsIn last (task :: todo)) :
    task.Passes ∧ EndsIn last todo ∨ todo = [] ∧ last task := by
  obtain ⟨first, final, split, pass, meets⟩ := ends
  cases first with
  | nil =>
    cases split
    exact .inr ⟨rfl, meets⟩
  | cons next rest =>
    cases split
    exact .inl ⟨pass _ List.mem_cons_self, rest, final, rfl,
      fun other member => pass other (List.mem_cons_of_mem _ member), meets⟩

end Ending

section Course

variable {ids : List SessionId} {id : SessionId} {call : Call} {registry : Registry} {task : Task}
  {progress : Progress}

open Registry in
/-- What is done on the way leads to nothing else. -/
theorem Task.Yields.passes (yields : task.Yields registry progress) (passes : task.Passes) :
    ∀ next ∈ progress.todo, next.Passes := by
  cases yields with
  | reaped =>
    intro next member
    obtain ⟨entry, -, rfl⟩ := List.mem_map.mp member
    trivial
  | @halted other worker custom =>
    intro next member
    rw [List.mem_singleton.mp member]
    cases custom with
    | close => trivial
    | keep purpose => cases passes
  | @ended other number custom =>
    cases custom with
    | close =>
      intro next member
      rw [List.mem_singleton.mp member]
      trivial
    | keep purpose => cases passes
  | @broken other number custom =>
    cases custom with
    | close => exact fun _ member => by cases member
    | keep purpose => cases passes
  | told | unheard | closed => exact fun _ member => by cases member
  | watched watches => cases task <;> first | exact False.elim passes | cases watches
  | _ => cases passes

/-- The tasks of turning a client away end in an answer. -/
theorem endsIn_rejection {other : SessionId} {sink : SinkId} {cause : SessionError}
    {last : Task → Prop} (answers : ∀ reply, last (.answer reply)) :
    EndsIn last (registry.rejection other sink cause).todo :=
  .cons trivial (.cons trivial (.single (answers _)))

open Registry in
/-- **What a call to start a session does until the session is admitted.** -/
theorem Task.Yields.opening (call : Call) (yields : task.Yields registry progress)
    (here : task.Labelled ids registry.standings) (opens : task.opens id = true) :
    EndsIn (fun last => last.opens id = true ∨ last.Leads id call ∨
      (∃ reply, last = .answer reply) ∧ ∃ next ∈ progress.todo, next.Closes ids id)
      progress.todo := by
  have refused : ∀ {other : SessionId} {sink : SinkId} {cause : SessionError},
      ids[sink]? = some other → other = id →
      EndsIn (fun last => last.opens id = true ∨ last.Leads id call ∨
        (∃ reply, last = .answer reply) ∧
          ∃ next ∈ (registry.rejection other sink cause).todo, next.Closes ids id)
        (registry.rejection other sink cause).todo := by
    intro other sink cause owner same
    refine endsIn_rejection fun reply => .inr (.inr ⟨⟨reply, rfl⟩, .close sink, ?_, same ▸ owner⟩)
    exact List.mem_cons_of_mem _ List.mem_cons_self
  cases yields with
  | built =>
    exact .cons trivial (.single (.inl opens))
  | unfit => exact refused here (of_decide_eq_true opens)
  | rejected => exact refused here (of_decide_eq_true opens)
  | @admitted launch =>
    have same : launch.id = id := of_decide_eq_true opens
    exact .single (.inr (.inl same))
  | watched watches => cases task <;> first | exact absurd opens Bool.false_ne_true | cases watches
  | _ => cases opens

open Registry in
/-- **What a call does on the way to a worker.** It ends with an error if the session is gone. -/
theorem Task.Yields.leading (ids : List SessionId) (yields : task.Yields registry progress)
    (leads : task.Leads id call) :
    (progress.todo = [] ∧ (registry.state? id ≠ none ∨
        ∃ cause, progress.reply = some (.error cause) ∧ call.Forfeits id cause)) ∨
      EndsIn (fun last => last.Leads id call ∨ last = .answer (.error (.notFound id)) ∧
        ∃ next ∈ progress.todo, next.Closes ids id) progress.todo := by
  -- a slot that was found, by its name
  have registered : ∀ {other : SessionId} {slot : Slot}, registry.slot? other = some slot →
      other = id → registry.state? id ≠ none := by
    rintro other slot there rfl
    rw [registry.state?_of_slot? there]
    exact Option.some_ne_none _
  cases yields with
  | rebuilt => exact .inr (.single (.inl leads.1))
  | @misfit other rom seed cause large =>
    exact .inl ⟨rfl, .inr ⟨_, rfl, rom, seed, leads.2, large⟩⟩
  | acknowledged => exact .inr (.single (.inl leads))
  | unacknowledged => exact .inr (.single (.inl trivial))
  | unspawned => exact .inr (.single (.inl trivial))
  | spawned => exact .inr (.single (.inl leads))
  | withdrawn => exact .inl ⟨rfl, .inr ⟨_, rfl, leads⟩⟩
  | published there => exact .inl ⟨rfl, .inl (registered there leads)⟩
  | @superseded other worker gone =>
    have same : other = id := leads
    subst same
    exact .inr (.cons trivial (.single (.inr ⟨rfl, _, List.mem_cons_self, rfl⟩)))
  | @halted other worker custom =>
    cases custom with
    | close => cases leads
    | keep purpose =>
      cases purpose with
      | park => cases leads
      | replace rom machine => exact .inr (.single (.inl leads))
  | @ended other number custom =>
    cases custom with
    | close => cases leads
    | keep purpose =>
      cases purpose with
      | park => cases leads
      | replace rom machine => exact .inr (.single (.inl leads))
  | @broken other number custom =>
    cases custom with
    | close => cases leads
    | keep purpose =>
      cases purpose with
      | park => cases leads
      | replace rom machine => exact .inr (.single (.inl leads))
  | @parked other sink purpose =>
    cases purpose with
    | park => cases leads
    | replace rom machine => exact .inr (.single (.inl leads))
  | @bereft other purpose slot there =>
    cases purpose with
    | park => cases leads
    | replace rom machine => exact .inl ⟨rfl, .inl (registered there leads)⟩
  | @unparked other sink purpose =>
    cases purpose with
    | park => cases leads
    | replace rom machine => exact .inr (.cons trivial (.single (.inl leads)))
  | @vanished other purpose =>
    cases purpose with
    | park => cases leads
    | replace rom machine => exact .inr (.single (.inl leads))
  | @unloaded other purpose =>
    cases purpose with
    | park => cases leads
    | replace rom machine => exact .inr (.single (.inl leads))
  | passed => exact .inr (.single (.inl leads))
  | @unknown other purpose gone =>
    cases purpose with
    | park => cases leads
    | replace rom machine => exact .inl ⟨rfl, .inr ⟨_, rfl, leads⟩⟩
  | taken => exact .inr (.single (.inl leads))
  | busy there => exact .inl ⟨rfl, .inl (registered there leads)⟩
  | lost => exact .inl ⟨rfl, .inr ⟨_, rfl, leads⟩⟩
  | watched watches => cases task <;> first | exact False.elim leads | cases watches
  | _ => cases leads

end Course

/-! ### Over a schedule -/

/-- What a call has to do after its last task is what the task led to. -/
theorem Flight.todo_advance_nil (flight : Flight) (progress : Progress) :
    (flight.advance progress []).todo = progress.todo := List.append_nil _

namespace System

/-- Whether a task may be the last of a call that launches a worker. The answer is given separately
only if the session is gone. -/
def Concludes (system : System) (id : SessionId) (call : Call) (last : Task) : Prop :=
  last.opens id = true ∨ last.Leads id call ∨ (∃ reply, last = .answer reply) ∧ system.IsGone id

theorem Step.concludes {system after : System} {move : Move} (step : system.Step move after)
    {id : SessionId} {call : Call} (once : after.startIds.count id ≤ 1) {last : Task}
    (concludes : system.Concludes id call last) : after.Concludes id call last :=
  concludes.imp_right fun leads => leads.imp_right fun answers =>
    ⟨answers.1, step.gone answers.2 once⟩

/-- A call that launches a worker has that before it when it is begun. -/
theorem concludes_begun (system : System) {id : SessionId} (sink : SinkId) {call : Call}
    (launches : call.Launches id) : EndsIn (system.Concludes id call) (call.tasks sink) := by
  cases call with
  | start other rom seed => exact .single (.inl (decide_eq_true launches))
  | session other request =>
    cases request with
    | changeRom rom seed =>
      have same : other = id := launches
      subst same
      exact .single (.inr (.inl ⟨rfl, rfl⟩))
    | _ => cases launches
  | _ => cases launches

/-- **What a call that launches a worker has to do**: it is on its way to the worker, or it was
refused, or it found the session gone. -/
theorem concludes_run (settings : Settings) (schedule : List Move) (id : SessionId) :
    ((new settings).run schedule).startIds.count id ≤ 1 →
      ∀ flight ∈ ((new settings).run schedule).flights, flight.call.Launches id →
        flight.todo = [] ∨
          EndsIn (((new settings).run schedule).Concludes id flight.call) flight.todo := by
  refine run_induction (new settings) (fun _ system =>
    system.startIds.count id ≤ 1 → ∀ flight ∈ system.flights, flight.call.Launches id →
      flight.todo = [] ∨ EndsIn (system.Concludes id flight.call) flight.todo)
    (fun _ _ member => by cases member) (fun schedule move before step once => ?_) schedule
  have labelled := labelled_run settings schedule
  have closed := gone_of_closes settings (schedule ++ [move]) id
  rw [run_concat] at closed
  generalize (new settings).run schedule = system at *
  generalize system.move move = after at *
  have kept : ∀ flight ∈ system.flights, flight.call.Launches id → flight.todo = [] ∨
      EndsIn (after.Concludes id flight.call) flight.todo :=
    fun flight inFlight launches =>
      (before ((step.count_le id).trans once) flight inFlight launches).imp_right
        (EndsIn.mono fun _ => step.concludes once)
  cases step with
  | stayed => exact kept
  | waited => exact kept
  | worked => exact kept
  | @begun call =>
    intro flight inFlight launches
    rcases List.mem_append.mp inFlight with old | new
    · exact kept flight old launches
    · rw [List.mem_singleton.mp new] at launches ⊢
      exact .inr (concludes_begun _ _ launches)
  | @done number answer moved task later progress known next _ yields =>
    intro flight inFlight launches
    have inOld := List.mem_of_getElem? known
    rcases List.mem_or_eq_of_mem_set inFlight with old | rfl
    · exact kept flight old launches
    · -- a call that closes something of the session on the way finds the session gone
      have gone : (∃ other ∈ progress.todo, other.Closes system.startIds id) →
          IsGone ⟨progress.registry, system.flights.set number (moved.advance progress later)⟩
            id := by
        rintro ⟨other, fresh, closes⟩
        refine closed once _ inFlight other (List.mem_append_left _ fresh) ?_
        rw [startIds_done known]
        exact closes
      rcases kept moved inOld launches with complete | ends
      · rw [next] at complete
        cases complete
      · rw [next] at ends
        rcases ends.cases with ⟨passes, rest⟩ | ⟨rfl, opens | leads | ⟨⟨reply, rfl⟩, -⟩⟩
        · exact .inr (EndsIn.append (yields.passes passes) rest)
        · have inTodo : task ∈ moved.todo := by rw [next]; exact List.mem_cons_self
          have opened := yields.opening moved.call
            (labelled.tasks moved inOld task inTodo) opens
          right
          rw [Flight.todo_advance_nil]
          exact opened.mono fun last concludes => concludes.imp_right fun leads =>
            leads.imp_right fun answers => ⟨answers.1, gone answers.2⟩
        · rw [Flight.todo_advance_nil]
          rcases yields.leading system.startIds leads with ⟨complete, -⟩ | ends
          · exact .inl complete
          · right
            refine ends.mono fun last concludes => .inr (concludes.imp_right ?_)
            rintro ⟨rfl, closes⟩
            exact ⟨⟨_, rfl⟩, gone closes⟩
        · left
          cases yields with
          | answered => rfl
          | watched watches => cases watches

end System

/-- Whether a call ends with an error because its session was taken away, or has done so. -/
def Flight.Forfeits (id : SessionId) (flight : Flight) : Prop :=
  (flight.todo = [] ∧ ∃ cause, flight.reply = some (.error cause) ∧ flight.call.Forfeits id cause) ∨
    EndsIn (fun last => last.Leads id flight.call ∨ last = .answer (.error (.notFound id)))
      flight.todo

namespace System

/-- **One move**: a call whose session is not registered goes on towards its error. -/
theorem Step.forfeits {system after : System} {move : Move} (step : system.Step move after)
    {id : SessionId} (vacant : system.registry.state? id = none) {number : Nat} {flight : Flight}
    (known : system.flights[number]? = some flight) (forfeits : flight.Forfeits id) :
    ∃ moved, after.flights[number]? = some moved ∧ moved.call = flight.call ∧
      moved.Forfeits id := by
  cases step with
  | stayed => exact ⟨flight, known, rfl, forfeits⟩
  | waited => exact ⟨flight, known, rfl, forfeits⟩
  | worked => exact ⟨flight, known, rfl, forfeits⟩
  | begun =>
    refine ⟨flight, ?_, rfl, forfeits⟩
    simp only [begin]
    rw [List.getElem?_append_left (List.getElem?_eq_some_iff.mp known).1, known]
  | @done other answer moved task later progress found next _ yields =>
    by_cases this : other = number
    · subst this
      rw [found] at known
      cases known
      refine ⟨flight.advance progress later,
        List.getElem?_set_self (List.getElem?_eq_some_iff.mp found).1, rfl, ?_⟩
      rcases forfeits with ⟨complete, -⟩ | ends
      · rw [next] at complete
        cases complete
      · rw [next] at ends
        rcases ends.cases with ⟨passes, rest⟩ | ⟨rfl, leads | rfl⟩
        · exact .inr (EndsIn.append (yields.passes passes) rest)
        · rcases yields.leading [] leads with ⟨complete, there | ⟨cause, reply, lost⟩⟩ | ends
          · exact absurd vacant there
          · refine .inl ⟨(flight.todo_advance_nil progress).trans complete, cause, ?_, lost⟩
            rw [Flight.advance, reply]
            rfl
          · right
            rw [Flight.todo_advance_nil]
            exact ends.mono fun last leads => leads.imp_right And.left
        · cases yields with
          | answered => exact .inl ⟨rfl, _, rfl, rfl⟩
          | watched watches => cases watches
    · refine ⟨flight, ?_, rfl, forfeits⟩
      simp only
      rw [List.getElem?_set_ne this, known]

/-- **Once a session is gone, the calls that would launch a worker for it end with an error.** -/
theorem forfeits_run {settings : Settings} {past : List Move} {id : SessionId}
    (gone : ((new settings).run past).IsGone id) {number : Nat} {flight : Flight}
    (known : ((new settings).run past).flights[number]? = some flight)
    (forfeits : flight.Forfeits id) (more : List Move) :
    ((new settings).run (past ++ more)).startIds.count id ≤ 1 →
      ∃ moved, ((new settings).run (past ++ more)).flights[number]? = some moved ∧
        moved.call = flight.call ∧ moved.Forfeits id := by
  rw [run_append]
  refine run_induction ((new settings).run past) (fun _ system =>
    system.startIds.count id ≤ 1 → ∃ moved, system.flights[number]? = some moved ∧
      moved.call = flight.call ∧ moved.Forfeits id) (fun _ => ⟨flight, known, rfl, forfeits⟩)
    (fun schedule move before step once => ?_) more
  have bounded := (step.count_le id).trans once
  obtain ⟨moved, found, same, ends⟩ := before bounded
  have still := (gone_run gone schedule (by rw [run_append]; exact bounded)).1
  rw [run_append] at still
  obtain ⟨later, there, kept, ends⟩ := step.forfeits still.1 found ends
  exact ⟨later, there, kept.trans same, ends⟩

end System

end Arcade
