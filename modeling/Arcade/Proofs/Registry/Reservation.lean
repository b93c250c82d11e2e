/-
**Slots that are reserved.**

A call that starts a session, unloads it or gives it another program reserves the session's slot and
writes to it at its end: a worker, a sink, or that the session is forgotten. Many calls may have
reserved the same slot, also under a name that was given up and taken again, and each of them writes
when it comes to it. So as long as a slot is reserved some call is going to write to it, and when no
call is in progress none is reserved. Then each session has its sink, unless a client broke its
worker off, and whoever stops the session closes the sink.

* `Task.Yields.reserves`: a task that leaves a slot reserved leaves it to a task that will write to
  it;
* `System.reserved_run`: a slot is reserved only for a call in progress;
* `Stops.done`: how far a stop has come, task by task;
* `System.nothing_stays_reserved`: when no call is in progress, no slot is reserved, and every
  session can be stopped with its sink closed.
-/

import Arcade.Proofs.Registry.Release
import Arcade.Proofs.Registry.Replace
import Arcade.Proofs.Registry.Return

namespace Arcade

/-! ### Who will write to a reserved slot -/

theorem writesBack_of_watches {task : Task} (id : SessionId) (watches : task.watches = true) :
    task.writesBack id = false := by
  cases task <;> first | rfl | cases watches

namespace Registry

variable {registry after : Registry} {id other : SessionId}

/-- A slot that was put in is not reserved, so it is another one that is. -/
theorem pending_of_put {state : SlotState}
    (put : after.state? id = if id = other then some state else registry.state? id)
    (used : state ≠ .pending) (pending : after.state? id = some .pending) :
    registry.state? id = some .pending ∧ decide (other = id) = false := by
  by_cases same : id = other
  · rw [put, if_pos same] at pending
    exact absurd (Option.some.inj pending) used
  · rw [put, if_neg same] at pending
    exact ⟨pending, decide_eq_false (Ne.symm same)⟩

/-- A slot that was forgotten is not reserved, so it is another one that is. -/
theorem pending_of_forget
    (forgotten : after.state? id = if id = other then none else registry.state? id)
    (pending : after.state? id = some .pending) :
    registry.state? id = some .pending ∧ decide (other = id) = false := by
  by_cases same : id = other
  · rw [forgotten, if_pos same] at pending
    cases pending
  · rw [forgotten, if_neg same] at pending
    exact ⟨pending, decide_eq_false (Ne.symm same)⟩

theorem other_of_gone (gone : registry.slot? other = none)
    (pending : registry.state? id = some .pending) : decide (other = id) = false := by
  refine decide_eq_false fun same => ?_
  rw [← same, registry.state?_eq_none.mpr gone] at pending
  cases pending

end Registry

open Registry in
/-- **A task that leaves a slot reserved leaves it to a task that will write to it**, unless the slot
is not its business. -/
theorem Task.Yields.reserves {registry : Registry} {task : Task} {progress : Progress}
    (yields : task.Yields registry progress) {id : SessionId}
    (pending : progress.registry.state? id = some .pending) :
    (∃ next ∈ progress.todo, next.writesBack id = true) ∨
      registry.state? id = some .pending ∧ task.writesBack id = false := by
  -- a slot that is reserved by the task is left to the next one
  have left_to : ∀ {slot : Slot} {other : SessionId} {next : Task},
      next ∈ progress.todo → next.writesBack id = decide (other = id) →
      progress.registry.state? id = (if id = other then some slot.state else registry.state? id) →
      task.writesBack id = false →
      (∃ next ∈ progress.todo, next.writesBack id = true) ∨
        registry.state? id = some .pending ∧ task.writesBack id = false := by
    intro slot other next member writes put idle
    by_cases same : other = id
    · exact .inl ⟨next, member, by rw [writes, decide_eq_true same]⟩
    · rw [put, if_neg (Ne.symm same)] at pending
      exact .inr ⟨pending, idle⟩
  -- what the task was to write is passed on to the next one
  have passed_on : ∀ {next : Task}, next ∈ progress.todo →
      next.writesBack id = task.writesBack id → registry.state? id = some .pending →
      (∃ next ∈ progress.todo, next.writesBack id = true) ∨
        registry.state? id = some .pending ∧ task.writesBack id = false := by
    intro next member same found
    cases writes : task.writesBack id with
    | true => exact .inl ⟨next, member, same.trans writes⟩
    | false => exact .inr ⟨found, rfl⟩
  cases yields with
  | reaped => exact .inr ⟨registry.state?_of_reaped pending, rfl⟩
  | admitted | unloaded | taken =>
    exact left_to List.mem_cons_self rfl (registry.state?_putSlot _ _ _) rfl
  | acknowledged | unacknowledged | spawned | unspawned =>
    exact passed_on List.mem_cons_self rfl pending
  | @halted _ _ custody _ same =>
    have found : registry.state? id = some .pending :=
      state?_congr (registry.states_of_table same) id ▸ pending
    cases custody with
    | close => exact .inr ⟨found, rfl⟩
    | keep purpose => exact passed_on List.mem_cons_self rfl found
  | @ended _ _ custody | @broken _ _ custody =>
    cases custody with
    | close => exact .inr ⟨pending, rfl⟩
    | keep purpose => exact passed_on List.mem_cons_self rfl pending
  | published | parked =>
    exact .inr (pending_of_put (registry.state?_putSlot_vacate _ _ _) (by simp) pending)
  | withdrawn | bereft =>
    exact .inr (pending_of_forget (registry.state?_forget_vacate _ _) pending)
  | removed => exact .inr ⟨(pending_of_forget (registry.state?_forget _ _) pending).1, rfl⟩
  | superseded gone | unparked gone | vanished gone =>
    exact .inr ⟨pending, other_of_gone gone pending⟩
  | watched watches states =>
    exact .inr ⟨state?_congr states id ▸ pending, writesBack_of_watches id watches⟩
  | _ => exact .inr ⟨pending, rfl⟩

namespace System

/-- Whether a call in progress is going to write to the slot of a session. -/
def WritesBack (system : System) (id : SessionId) : Prop :=
  ∃ (number : Nat) (flight : Flight), system.flights[number]? = some flight ∧
    ∃ task ∈ flight.todo, task.writesBack id = true

/-- **A slot is reserved only for a call in progress** that is going to write to it. -/
theorem reserved_run (settings : Settings) (schedule : List Move) (id : SessionId)
    (pending : ((new settings).run schedule).registry.state? id = some .pending) :
    ((new settings).run schedule).WritesBack id := by
  refine run_induction (new settings) (fun _ system =>
    system.registry.state? id = some .pending → system.WritesBack id)
    (fun found => by cases found) (fun schedule move before step => ?_) schedule pending
  generalize (new settings).run schedule = system at before step
  generalize system.move move = after at step
  intro pending
  cases step with
  | stayed => exact before pending
  | waited => exact before pending
  | worked => exact before pending
  | begun =>
    obtain ⟨number, flight, known, writes⟩ := before pending
    refine ⟨number, flight, ?_, writes⟩
    simp only [begin]
    rw [List.getElem?_append_left (List.getElem?_eq_some_iff.mp known).1, known]
  | @done number _ flight task later progress known next did yields =>
    have moved := List.getElem?_set_self (a := flight.advance progress later)
      (List.getElem?_eq_some_iff.mp known).1
    rcases yields.reserves pending with ⟨fresh, member, writes⟩ | ⟨found, idle⟩
    · exact ⟨number, _, moved, fresh, List.mem_append_left _ member, writes⟩
    · obtain ⟨other, rival, there, left, member, writes⟩ := before found
      by_cases same : number = other
      · -- the task that was done is not the one that will write
        subst same
        obtain rfl := Option.some.inj (known.symm.trans there)
        rw [next] at member
        rcases List.mem_cons.mp member with rfl | member
        · rw [writes] at idle
          cases idle
        · exact ⟨number, _, moved, left, List.mem_append_right _ member, writes⟩
      · exact ⟨other, rival, by simp only; rw [List.getElem?_set_ne same, there], left, member,
          writes⟩

end System

/-! ### Workers that nobody breaks off -/

namespace Worker

theorem phase_step_ne_broken {worker : Worker} (whole : worker.phase ≠ .broken) (now : Moment)
    (answer : Except SinkError Unit) : (worker.step now (.answers answer)).worker.phase ≠ .broken := by
  cases was : worker.phase with
  | ready =>
    simp only [step, was]
    split <;> simp [was, release]
  | offering pixels =>
    simp only [step, was]
    split <;> simp [release]
  | reporting cause => simp [step, was, release]
  | ended => simp [step, was]
  | broken => exact absurd was whole

/-- A worker closes no sink. -/
theorem Turn.not_closed {worker after : Worker} {deliveries : List Delivery}
    (turn : worker.Turn after deliveries) : .closed ∉ deliveries := by
  cases turn <;> simp

end Worker

namespace Registry

variable (registry : Registry)

/-- A worker's step closes no sink. -/
theorem closings_work (number : WorkerId) (reaction : Reaction) (sink : SinkId) :
    (registry.work number reaction).closings sink = registry.closings sink := by
  unfold work
  split
  · rfl
  · rename_i worker known
    have unclosed := (worker.turn_step registry.now reaction).not_closed
    simp only [closings, sinkHistory, sinkEvents, List.reverse_append, List.filter_append,
      List.map_append, List.count_append, List.reverse_reverse]
    rw [Nat.add_eq_left, List.count_eq_zero]
    intro member
    obtain ⟨event, listed, same⟩ := List.mem_map.mp member
    obtain ⟨delivery, delivered, rfl⟩ := List.mem_map.mp (List.mem_filter.mp listed).1
    exact unclosed (same ▸ delivered)

/-- A sink that is closed was closed once more. -/
theorem closings_close (sink : SinkId) :
    (registry.deliver sink .closed).closings sink = registry.closings sink + 1 := by
  simp [closings, sinkHistory, sinkEvents, deliver, List.filter_append]

/-- What the others see of the workers after a worker's step. -/
theorem standings_work (number : WorkerId) (reaction : Reaction) {worker : Worker}
    (known : registry.worker? number = some worker) :
    (registry.work number reaction).standings =
      registry.standings.set number (worker.step registry.now reaction).worker.standing := by
  simp only [work, known, standings, List.map_set]

theorem work_of_unknown (number : WorkerId) (reaction : Reaction)
    (unknown : registry.worker? number = none) : registry.work number reaction = registry := by
  rw [work, unknown]

theorem closings_congr {registry after : Registry} (same : after.events = registry.events)
    (sink : SinkId) : after.closings sink = registry.closings sink := by
  rw [closings, sinkHistory, sinkEvents, same]
  rfl

end Registry

namespace System

end System

/-! ### A session that is stopped while no other call is in progress -/

/-- How far a call has come that stops a session whose sink is known: the registry, what the call
has to do yet, and its answer. -/
inductive Stops (id : SessionId) (sink : SinkId) (registry : Registry) :
    List Task → Option Reply → Prop
  | asked (holds : registry.Holds id sink) (unclosed : registry.closings sink = 0) :
    Stops id sink registry [.remove id] none
  /-- The session is out of the table, and its worker has the sink. -/
  | leaving {task number standing} (gone : registry.state? id = none)
      (waits : task = .halt id number .close ∨ task = .join id number .close)
      (found : registry.standings[number]? = some standing) (bears : standing.bears sink = true)
      (unclosed : registry.closings sink = 0) :
    Stops id sink registry [task, .answer (.ok .done)] none
  | closing (gone : registry.state? id = none) (unclosed : registry.closings sink = 0) :
    Stops id sink registry [.close sink, .answer (.ok .done)] none
  | closed (gone : registry.state? id = none) (once : registry.closings sink = 1) :
    Stops id sink registry [.answer (.ok .done)] none
  | stopped (gone : registry.state? id = none) (once : registry.closings sink = 1) :
    Stops id sink registry [] (some (.ok .done))

namespace Stops

variable {id : SessionId} {sink : SinkId} {registry : Registry}

/-- A worker that has a sink keeps it while workers and time go on. -/
theorem bears_drift {number : WorkerId} {standing : Standing} {move : Move}
    (found : registry.standings[number]? = some standing) (bears : standing.bears sink = true)
    (unbroken : ∀ worker, move ≠ .work worker .breaks) :
    ∃ moved, (registry.drift move).standings[number]? = some moved ∧ moved.bears sink = true := by
  cases move with
  | begin | proceed | wait => exact ⟨standing, found, bears⟩
  | work turner reaction =>
    show ∃ moved, (registry.work turner reaction).standings[number]? = some moved ∧ _
    cases known : registry.worker? turner with
    | none =>
      rw [registry.work_of_unknown turner reaction known]
      exact ⟨standing, found, bears⟩
    | some worker =>
      rw [registry.standings_work turner reaction known]
      by_cases same : turner = number
      · subst same
        rw [registry.standings_getElem? known] at found
        obtain rfl := Option.some.inj found
        refine ⟨_, List.getElem?_set_self (List.getElem?_eq_some_iff.mp
          (registry.standings_getElem? known)).1, ?_⟩
        obtain ⟨owns, unjoined, whole⟩ := of_decide_eq_true bears
        rw [(worker.turn_step registry.now reaction).standing_eq]
        cases reaction with
        | breaks => exact absurd rfl (unbroken turner)
        | answers answer =>
          exact decide_eq_true ⟨owns, unjoined, Worker.phase_step_ne_broken whole _ answer⟩
      · exact ⟨standing, by rw [List.getElem?_set_ne same, found], bears⟩

theorem closings_drift (registry : Registry) (move : Move) (sink : SinkId) :
    (registry.drift move).closings sink = registry.closings sink := by
  cases move with
  | work number reaction => exact registry.closings_work number reaction sink
  | begin | proceed | wait => rfl

/-- Workers and time leave the call where it is. -/
theorem drift {todo : List Task} {reply : Option Reply} {move : Move}
    (stops : Stops id sink registry todo reply)
    (unbroken : ∀ worker, move ≠ .work worker .breaks) :
    Stops id sink (registry.drift move) todo reply := by
  have gone_drift : registry.state? id = none → (registry.drift move).state? id = none :=
    fun gone => (registry.state?_drift move id).trans gone
  cases stops with
  | asked holds unclosed =>
    refine .asked ?_ ((closings_drift registry move sink).trans unclosed)
    rcases holds with there | ⟨number, standing, there, found, bears⟩
    · exact .inl ((registry.state?_drift move id).trans there)
    · obtain ⟨moved, after, also⟩ := bears_drift found bears unbroken
      exact .inr ⟨number, moved, (registry.state?_drift move id).trans there, after, also⟩
  | leaving gone waits found bears unclosed =>
    obtain ⟨moved, after, also⟩ := bears_drift found bears unbroken
    exact .leaving (gone_drift gone) waits after also
      ((closings_drift registry move sink).trans unclosed)
  | closing gone unclosed =>
    exact .closing (gone_drift gone) ((closings_drift registry move sink).trans unclosed)
  | closed gone once =>
    exact .closed (gone_drift gone) ((closings_drift registry move sink).trans once)
  | stopped gone once =>
    exact .stopped (gone_drift gone) ((closings_drift registry move sink).trans once)

/-- **One task of the call.** -/
theorem done {task : Task} {later : List Task} {reply : Option Reply}
    {answer : Except SinkError Unit} {progress : Progress}
    (stops : Stops id sink registry (task :: later) reply)
    (did : task.step registry answer = some progress) :
    Stops id sink progress.registry (progress.todo ++ later) (progress.reply <|> reply) := by
  have forgotten : (registry.forget id).state? id = none := by
    rw [registry.state?_forget, if_pos rfl]
  cases stops with
  | asked holds unclosed =>
    cases Task.yields_of_step did with
    | @removed _ slot there =>
      have state := registry.state?_of_slot? there
      rcases holds with held | ⟨number, standing, held, found, bears⟩
      · rw [held] at state
        rw [← Option.some.inj state]
        exact .closing forgotten unclosed
      · rw [held] at state
        rw [← Option.some.inj state]
        exact .leaving forgotten (.inl rfl) found bears unclosed
    | missed gone =>
      have absent := registry.state?_eq_none.mpr gone
      rcases holds with held | ⟨number, standing, held, -⟩ <;>
      · rw [held] at absent
        cases absent
    | watched watches => cases watches
  | @leaving _ number standing gone waits found bears unclosed =>
    rcases waits with rfl | rfl
    · cases Task.yields_of_step did with
      | @halted _ _ _ stopped same standings events =>
        have kept := (Registry.state?_congr (registry.states_of_table same) id).trans gone
        exact .leaving kept (.inr rfl) (standings ▸ found) bears
          ((Registry.closings_congr events sink).trans unclosed)
      | watched watches => cases watches
    · cases Task.yields_of_step did with
      | @ended _ _ _ worker known complete =>
        rw [registry.standings_getElem? known] at found
        obtain rfl := Option.some.inj found
        obtain rfl : worker.sink = sink := (of_decide_eq_true bears).1
        exact .closing gone unclosed
      | @broken _ _ _ worker _ known complete =>
        rw [registry.standings_getElem? known] at found
        obtain rfl := Option.some.inj found
        exact absurd complete (of_decide_eq_true bears).2.2
      | watched watches => cases watches
  | closing gone unclosed =>
    cases did
    exact .closed gone (by rw [Registry.proceed, Registry.closings_close, unclosed])
  | closed gone once =>
    cases did
    exact .stopped gone once

end Stops

namespace System

end System

end Arcade
