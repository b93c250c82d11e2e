/-
**One call after another.**

A schedule is sequential when each call is begun after the one before has returned; workers go on
and time passes as they like. Then only the call that was begun last can be in progress, so nobody
comes between its tasks: what it looked up is still so when it writes to the table.

* `System.sequential_induction`: what every move of a sequential schedule keeps holds after it;
* `System.last_of_busy`: a call that is in progress is the last;
* `System.undisturbed_of_sequential`: there is one claim on a name at most, and no worker is
  displaced;
* `System.empty_of_shutdown`: when every session was stopped, the table is empty.
-/

import Arcade.Proofs.Registry.Admission

namespace Arcade

namespace System

/-- Whether a move begins no call while another one is in progress. -/
def inTurn (system : System) : Move → Bool
  | .begin _ => system.isQuiet
  | .proceed _ _ | .work _ _ | .wait _ => true

/-- Whether each call of a schedule is begun after the one before has returned. -/
def isSequential (system : System) : List Move → Bool
  | [] => true
  | move :: rest => system.inTurn move && (system.move move).isSequential rest

theorem isSequential_append (system : System) (first second : List Move) :
    system.isSequential (first ++ second) =
      (system.isSequential first && (system.run first).isSequential second) := by
  induction first generalizing system with
  | nil => rfl
  | cons move rest ih => rw [List.cons_append, isSequential, ih, isSequential, Bool.and_assoc]; rfl

/-- **What holds at first and is kept by every move of a sequential schedule holds after it.** -/
theorem sequential_induction (system : System) (holds : List Move → System → Prop)
    (start : holds [] system)
    (kept : ∀ schedule move, system.isSequential schedule = true →
      (system.run schedule).inTurn move = true → holds schedule (system.run schedule) →
      (system.run schedule).Step move ((system.run schedule).move move) →
      holds (schedule ++ [move]) ((system.run schedule).move move))
    (schedule : List Move) (sequential : system.isSequential schedule = true) :
    holds schedule (system.run schedule) := by
  refine run_induction system (fun schedule reached =>
    system.isSequential schedule = true → holds schedule reached) (fun _ => start)
    (fun schedule move before step sequential => ?_) schedule sequential
  rw [isSequential_append, Bool.and_eq_true, isSequential, Bool.and_eq_true] at sequential
  exact kept schedule move sequential.1 sequential.2.1 (before sequential.1) step

/-! ### The call in progress -/

/-- Whether every call but the last has returned. -/
def LastAlone (system : System) : Prop :=
  ∀ number flight, system.flights[number]? = some flight →
    number + 1 < system.flights.length → flight.todo = []

theorem todo_of_quiet {system : System} (quiet : system.isQuiet = true) {flight : Flight}
    (member : flight ∈ system.flights) : flight.todo = [] :=
  List.isEmpty_iff.mp (List.all_eq_true.mp quiet flight member)

/-- Calls that are begun in turn keep it so. -/
theorem LastAlone.step {system after : System} {move : Move} (alone : system.LastAlone)
    (turn : system.inTurn move = true) (step : system.Step move after) : after.LastAlone := by
  cases step with
  | stayed | worked | waited => exact alone
  | @begun call =>
    intro number flight known early
    have old : number < system.flights.length := by simpa [begin] using early
    simp only [begin, List.getElem?_append_left old] at known
    exact todo_of_quiet turn (List.mem_of_getElem? known)
  | @done number answer flight task later progress known next _ _ =>
    intro index other found early
    simp only [List.length_set] at early
    -- the call that goes on is the last
    have different : number ≠ index := by
      rintro rfl
      rw [alone number flight known early] at next
      cases next
    rw [List.getElem?_set_ne different] at found
    exact alone index other found early

theorem lastAlone_run {settings : Settings} {schedule : List Move}
    (sequential : (new settings).isSequential schedule = true) :
    ((new settings).run schedule).LastAlone :=
  sequential_induction (new settings) (fun _ system => system.LastAlone)
    (fun _ _ known => by cases known) (fun _ _ _ turn before step => before.step turn step) schedule
    sequential

/-- A call that is in progress is the last. -/
theorem last_of_busy {settings : Settings} {schedule : List Move}
    (sequential : (new settings).isSequential schedule = true) {number : Nat} {flight : Flight}
    (known : ((new settings).run schedule).flights[number]? = some flight)
    (busy : flight.todo ≠ []) : number + 1 = ((new settings).run schedule).flights.length := by
  have inside := (List.getElem?_eq_some_iff.mp known).1
  by_contra different
  exact busy (lastAlone_run sequential number flight known (by omega))

/-! ### Nobody comes between -/

/-- Where a call has a session admitted, it has nothing else to do. -/
theorem todo_of_reserve (settings : Settings) (schedule : List Move) {number : Nat}
    {flight : Flight} {launch : Launch} {later : List Task}
    (known : ((new settings).run schedule).flights[number]? = some flight)
    (next : flight.todo = .reserve launch :: later) : later = [] := by
  have starts : flight.call.starts? = some launch.id := by
    have bound := openings_run settings schedule launch.id flight (List.mem_of_getElem? known)
    have opens : (Task.reserve launch).opens launch.id = true := decide_eq_true rfl
    rw [next, Census.ofTasks_cons, task_openings, opens, Bool.toNat_true] at bound
    cases starts : flight.call.starts? with
    | none => rw [starts] at bound; simp at bound
    | some other =>
      by_contra different
      have absent : launch.id ∉ [other] := by simpa [eq_comm] using different
      rw [starts, Option.toList_some, List.count_eq_zero_of_not_mem absent] at bound
      omega
  -- wherever the call has got to, a task that is not done on the way is the last
  have last : ∀ {final : Task → Prop}, EndsIn final flight.todo → later = [] := by
    intro final ends
    rw [next] at ends
    rcases ends.cases with ⟨passes, -⟩ | ⟨empty, -⟩
    · cases passes
    · exact empty
  have busy : flight.todo ≠ [] := by rw [next]; exact List.cons_ne_nil _ _
  rcases entry_run settings schedule number flight launch.id known starts with
    ⟨-, waits | ⟨cause, turned, -⟩⟩ | ⟨complete, -⟩ | ends
  · exact last waits
  · rcases turned with ⟨complete, -⟩ | ends
    · exact absurd complete busy
    · exact last ends
  · exact absurd complete busy
  · exact last ends

/-- **In a sequential schedule sessions are admitted in turn.** -/
theorem admitsInTurn_of_sequential {settings : Settings} {schedule : List Move}
    (sequential : (new settings).isSequential schedule = true) :
    (new settings).AdmitsInTurn schedule := by
  rintro before move after id rfl admitted
  rw [isSequential_append, Bool.and_eq_true] at sequential
  obtain ⟨task, found, admits⟩ := (Option.any_eq_true _ _).mp admitted
  rw [Census.ofFlights_eq_zero]
  intro flight inFlight other member
  obtain ⟨number, known⟩ := List.mem_iff_getElem?.mp inFlight
  have here := last_of_busy sequential.1 known (List.ne_nil_of_mem member)
  -- the call that has the session admitted is the last, too
  cases move with
  | proceed admitting answer =>
    obtain ⟨opener, there, head⟩ := Option.bind_eq_some_iff.mp found
    obtain ⟨later, next⟩ := List.head?_eq_some_iff.mp head
    have also := last_of_busy sequential.1 there (by rw [next]; exact List.cons_ne_nil _ _)
    obtain rfl : admitting = number := by omega
    obtain rfl := Option.some.inj (there.symm.trans known)
    cases task with
    | reserve launch =>
      rw [next, todo_of_reserve settings before there next, List.mem_singleton] at member
      rw [member]
      rfl
    | _ => cases admits
  | _ => cases found

/-- **In a sequential schedule nobody comes between**: there is one claim on a name at most, and no
worker is displaced. -/
theorem undisturbed_of_sequential {settings : Settings} {schedule : List Move}
    (sequential : (new settings).isSequential schedule = true) :
    (∀ id, (claims id).total ((new settings).run schedule) ≤ 1) ∧
      (new settings).displaced schedule = [] :=
  displaced_eq_nil settings schedule (admitsInTurn_of_sequential sequential)

end System

/-! ### Stopping every session -/

/-- Whether a task may be part of a call that stops every session. -/
def Task.clears : Task → Bool
  | .shutdown | .remove _ | .halt _ _ .close | .join _ _ .close | .close _ | .answer _ => true
  | _ => false

/-- Whether some tasks stop every session that is registered. -/
def Registry.ClearedBy (registry : Registry) (todo : List Task) : Prop :=
  (∀ task ∈ todo, task.clears = true) ∧
    ∀ id, registry.state? id ≠ none → .shutdown ∈ todo ∨ .remove id ∈ todo

theorem Registry.mem_ids {registry : Registry} {id : SessionId} {state : SlotState}
    (there : registry.state? id = some state) : id ∈ registry.ids := by
  obtain ⟨slot, found, -⟩ := Option.map_eq_some_iff.mp there
  have listed : (id.name, slot) ∈ registry.table.entries := registry.mem_entries.mpr found
  exact List.mem_map.mpr ⟨id.name, List.mem_map_of_mem listed, rfl⟩

/-- What is registered after a task of those that stop every session was registered before, and is
stopped by what is left of them. -/
theorem Registry.ClearedBy.of_fewer {registry after : Registry} {task : Task}
    {fresh later : List Task} (cleared : registry.ClearedBy (task :: later))
    (clear : ∀ next ∈ fresh, next.clears = true)
    (fewer : ∀ id, after.state? id ≠ none →
      registry.state? id ≠ none ∧ task ≠ .remove id ∧ (task = .shutdown → .remove id ∈ fresh)) :
    after.ClearedBy (fresh ++ later) := by
  refine ⟨fun next member => ?_, fun id there => ?_⟩
  · rcases List.mem_append.mp member with new | old
    · exact clear next new
    · exact cleared.1 next (List.mem_cons_of_mem _ old)
  · obtain ⟨before, others, found⟩ := fewer id there
    rcases cleared.2 id before with member | member
    · rcases List.mem_cons.mp member with same | old
      · exact .inr (List.mem_append_left _ (found same.symm))
      · exact .inl (List.mem_append_right _ old)
    · exact .inr (List.mem_append_right _
        ((List.mem_cons.mp member).resolve_left (Ne.symm others)))

open Registry in
/-- Tasks that stop every session go on to do so. -/
theorem Registry.ClearedBy.done {registry : Registry} {answer : Except SinkError Unit}
    {task : Task} {later : List Task} {progress : Progress}
    (cleared : registry.ClearedBy (task :: later))
    (did : task.step registry answer = some progress) :
    progress.registry.ClearedBy (progress.todo ++ later) := by
  have clear := cleared.1 task List.mem_cons_self
  cases task with
  | close | answer =>
    cases did
    exact cleared.of_fewer (fun _ member => by cases member)
      fun _ there => ⟨there, by simp, by simp⟩
  | halt id worker custody =>
    cases custody with
    | close =>
      cases did
      refine cleared.of_fewer (fun next member => ?_) fun _ there => ⟨there, by simp, by simp⟩
      rw [List.mem_singleton.mp member]
      rfl
    | keep purpose => cases clear
  | join id number custody =>
    cases custody with
    | close =>
      cases registry.yields_join did with
      | @ended _ _ _ worker =>
        refine cleared.of_fewer (fun next member => ?_) fun _ there => ⟨there, by simp, by simp⟩
        rw [List.mem_singleton.mp member]
        rfl
      | broken =>
        exact cleared.of_fewer (fun _ member => by cases member)
          fun _ there => ⟨there, by simp, by simp⟩
      | watched watches => cases watches
    | keep purpose => cases clear
  | remove id =>
    cases did
    unfold remove
    split
    · rename_i gone
      refine cleared.of_fewer (fun _ member => by cases member)
        fun other there => ⟨there, ?_, by simp⟩
      rintro ⟨⟩
      exact there (by rw [refuse, Registry.answer, state?, gone]; rfl)
    · rename_i slot found
      refine cleared.of_fewer (fun next member => ?_) fun other there => ?_
      · rcases List.mem_append.mp member with release | last
        · cases held : slot.state <;> rw [held] at release <;>
            simp only [SlotState.releaseTasks, List.mem_singleton, List.not_mem_nil] at release
          all_goals rw [release]; rfl
        · rw [List.mem_singleton.mp last]
          rfl
      · simp only [proceed, state?_forget] at there
        split at there
        · exact absurd rfl there
        · rename_i different
          refine ⟨there, ?_, by simp⟩
          rintro ⟨⟩
          exact different rfl
  | shutdown =>
    cases did
    refine cleared.of_fewer (fun next member => ?_) fun id there => ⟨there, by simp, fun _ => ?_⟩
    · rcases List.mem_append.mp member with removal | last
      · obtain ⟨id, -, rfl⟩ := List.mem_map.mp removal
        rfl
      · rw [List.mem_singleton.mp last]
        rfl
    · obtain ⟨state, found⟩ := Option.ne_none_iff_exists'.mp there
      exact List.mem_append_left _ (List.mem_map_of_mem (mem_ids found))
  | _ => cases clear

namespace System

/-- In a sequential schedule a call to stop every session, once begun, is left alone with it. -/
theorem cleared_run {settings : Settings} {schedule : List Move}
    (sequential : (new settings).isSequential schedule = true) :
    ∀ number flight, ((new settings).run schedule).flights[number]? = some flight →
      number + 1 = ((new settings).run schedule).flights.length → flight.call = .shutdown →
        ((new settings).run schedule).registry.ClearedBy flight.todo := by
  refine sequential_induction (new settings) (fun _ system =>
    ∀ number flight, system.flights[number]? = some flight →
      number + 1 = system.flights.length → flight.call = .shutdown →
        system.registry.ClearedBy flight.todo) (fun _ _ known => by cases known)
    (fun schedule move sequential _ before step => ?_) schedule sequential
  have alone : ∀ number flight,
      ((new settings).run schedule).flights[number]? = some flight → flight.todo ≠ [] →
        number + 1 = ((new settings).run schedule).flights.length :=
    fun _ _ => last_of_busy sequential
  generalize (new settings).run schedule = system at alone before step
  generalize system.move move = after at step
  cases step with
  | stayed | worked | waited => exact before
  | @begun call =>
    intro number flight known last same
    have new : system.flights.length ≤ number := by simp [begin] at last; omega
    simp only [begin, List.getElem?_append_right new] at known
    obtain rfl := List.mem_singleton.mp (List.mem_of_getElem? known)
    cases same
    exact ⟨fun task member => by rw [List.mem_singleton.mp member]; rfl,
      fun _ _ => .inl List.mem_cons_self⟩
  | @done number answer flight task later progress known next did _ =>
    intro index moved found last same
    simp only [List.length_set] at last
    have here := alone number flight known (by rw [next]; exact List.cons_ne_nil _ _)
    obtain rfl : number = index := by omega
    rw [List.getElem?_set_self (List.getElem?_eq_some_iff.mp known).1] at found
    cases found
    have cleared := before number flight known here same
    rw [next] at cleared
    exact cleared.done did

/-- **When every session was stopped, the table is empty.** -/
theorem empty_of_shutdown {settings : Settings} {schedule : List Move}
    (sequential : (new settings).isSequential schedule = true)
    (quiet : ((new settings).run schedule).isQuiet = true)
    (last : ((new settings).run schedule).flights.getLast?.map Flight.call = some .shutdown)
    (id : SessionId) : ((new settings).run schedule).registry.state? id = none := by
  obtain ⟨flight, found, same⟩ := Option.map_eq_some_iff.mp last
  have inFlight := List.mem_of_getLast? found
  rw [List.getLast?_eq_getElem?] at found
  have some := (List.getElem?_eq_some_iff.mp found).1
  have cleared := cleared_run sequential _ flight found (by omega) same
  rw [todo_of_quiet quiet inFlight] at cleared
  by_contra there
  rcases cleared.2 id there with member | member <;> cases member

end System

end Arcade
