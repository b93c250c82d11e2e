/-
**Programs for a client, and who has its sink.**

A client that is not admitted gets one error, if it listens. A client that is admitted gets
programs, one after the other: for each it is told that it starts, then it gets frames, all from the
worker that was set going for the program, and perhaps an error that ends the program. Then its sink
is released, and that is the end (`Stream`).

The order rests on the sink being in one place at a time: whoever sends something is the only one who
can, and passes the sink on with what was sent so far. So `Agrees` says for each place where the sink
may be what was sent until then.

* `alone_of_task`, `alone_of_slot`, `alone_of_worker`: whoever has a sink has it alone;
* `Agrees.done`: what the tasks of calls add to what was sent, by one lemma for each kind of task.
-/

import Arcade.Proofs.Registry.Custody
import Arcade.Proofs.Registry.Labels

namespace Arcade

/-! ### Streams -/

/-- What a client gets of one program: frames of a worker, and perhaps an error. -/
structure Segment where
  worker : WorkerId
  frames : List (List UInt8)
  error : Option String

/-- A client is told that a program starts under its name. -/
def announcement (sink : SinkId) (id : SessionId) : Event := ⟨sink, .message (.started id), none⟩

/-- The events of a program. -/
def Segment.events (sink : SinkId) (id : SessionId) (segment : Segment) : List Event :=
  announcement sink id ::
    (segment.frames.map fun pixels => ⟨sink, .message (.frame pixels), some segment.worker⟩) ++
      segment.error.toList.map fun reason => ⟨sink, .message (.error reason), some segment.worker⟩

/-- Programs, one after the other. The frames and the error of a program come from a worker that
was set going when its start had just been announced. -/
inductive Programs (launched : WorkerId → List Event → Prop) (sink : SinkId) (id : SessionId) :
    List Event → Prop
  | nothing : Programs launched sink id []
  | announced {heard : List Event} (before : Programs launched sink id heard) :
    Programs launched sink id (heard ++ [announcement sink id])
  | played {heard : List Event} {segment : Segment} (before : Programs launched sink id heard)
      (own : launched segment.worker (heard ++ [announcement sink id])) :
    Programs launched sink id (heard ++ segment.events sink id)

/-- A client that is not admitted is told why. -/
def Refused (sink : SinkId) (events : List Event) : Prop :=
  ∃ reason, events = [⟨sink, .message (.error reason), none⟩]

/-- What a client may be sent, and the release of its sink at the end, if it was released. -/
def Stream (launched : WorkerId → List Event → Prop) (sink : SinkId) (id : SessionId)
    (events : List Event) : Prop :=
  ∃ heard ending, events = heard ++ ending ∧
    (Programs launched sink id heard ∨ Refused sink heard) ∧
    (ending = [] ∨ ∃ release, ending = [release] ∧ release.delivery.releases = true)

/-- What a client was sent while a worker plays a program for it. -/
def Plays (launched : WorkerId → List Event → Prop) (sink : SinkId) (id : SessionId)
    (worker : WorkerId) (events : List Event) : Prop :=
  ∃ heard frames, Programs launched sink id heard ∧
    launched worker (heard ++ [announcement sink id]) ∧
    events = heard ++ Segment.events sink id ⟨worker, frames, none⟩

section Growth

variable {launched later : WorkerId → List Event → Prop} {sink : SinkId} {id : SessionId}
  {events : List Event} {worker : WorkerId}

theorem Programs.mono (grows : ∀ worker heard, launched worker heard → later worker heard)
    (programs : Programs launched sink id events) : Programs later sink id events := by
  induction programs with
  | nothing => exact .nothing
  | announced _ ih => exact .announced ih
  | played _ own ih => exact .played ih (grows _ _ own)

theorem Stream.mono (grows : ∀ worker heard, launched worker heard → later worker heard)
    (stream : Stream launched sink id events) : Stream later sink id events := by
  obtain ⟨heard, ending, split, programs | refused, complete⟩ := stream
  · exact ⟨heard, ending, split, .inl (programs.mono grows), complete⟩
  · exact ⟨heard, ending, split, .inr refused, complete⟩

theorem Plays.mono (grows : ∀ worker heard, launched worker heard → later worker heard)
    (plays : Plays launched sink id worker events) : Plays later sink id worker events := by
  obtain ⟨heard, frames, programs, own, split⟩ := plays
  exact ⟨heard, frames, programs.mono grows, grows _ _ own, split⟩

theorem Programs.stream (programs : Programs launched sink id events) :
    Stream launched sink id events :=
  ⟨events, [], (List.append_nil events).symm, .inl programs, .inl rfl⟩

/-- A stream that goes on ends with the release of the sink. -/
theorem Programs.released (programs : Programs launched sink id events ∨ Refused sink events)
    (release : Event) (releases : release.delivery.releases = true) :
    Stream launched sink id (events ++ [release]) :=
  ⟨events, [release], rfl, programs, .inr ⟨release, rfl, releases⟩⟩

theorem Plays.programs (plays : Plays launched sink id worker events) :
    Programs launched sink id events := by
  obtain ⟨heard, frames, programs, own, rfl⟩ := plays
  exact .played programs own

/-- A worker that was just set going plays. -/
theorem Programs.plays {heard : List Event} (programs : Programs launched sink id heard)
    (own : launched worker (heard ++ [announcement sink id])) :
    Plays launched sink id worker (heard ++ [announcement sink id]) :=
  ⟨heard, [], programs, own, rfl⟩

/-- A worker that plays may show one more frame. -/
theorem Plays.shown (plays : Plays launched sink id worker events) (pixels : List UInt8) :
    Plays launched sink id worker
      (events ++ [⟨sink, .message (.frame pixels), some worker⟩]) := by
  obtain ⟨heard, frames, programs, own, rfl⟩ := plays
  refine ⟨heard, frames ++ [pixels], programs, own, ?_⟩
  simp [Segment.events]

/-- A worker that plays may end its program with an error. -/
theorem Plays.failed (plays : Plays launched sink id worker events) (reason : String) :
    Programs launched sink id
      (events ++ [⟨sink, .message (.error reason), some worker⟩]) := by
  obtain ⟨heard, frames, programs, own, rfl⟩ := plays
  have whole : Programs launched sink id
      (heard ++ Segment.events sink id ⟨worker, frames, some reason⟩) := .played programs own
  simpa [Segment.events] using whole

end Growth

/-! ### What was sent, and where the sink is -/

/-- Whether what was sent to a client fits a task that has its sink. -/
def Task.FitsSent (launched : WorkerId → List Event → Prop) (sink : SinkId) (id : SessionId)
    (events : List Event) : Task → Prop
  | .build _ _ _ held | .tell held _ => held = sink → events = []
  | .reserve launch => launch.sink = sink → events = []
  | .close held => held = sink → Programs launched sink id events ∨ Refused sink events
  | .acknowledge launch => launch.sink = sink → Programs launched sink id events
  | .spawn launch => launch.sink = sink →
    ∃ heard, Programs launched sink id heard ∧ events = heard ++ [announcement sink id]
  | .park _ (some held) _ => held = sink → Programs launched sink id events
  | _ => True

/-- Whether what was sent to a client fits a worker that has its sink. -/
def Standing.FitsSent (launched : WorkerId → List Event → Prop) (sink : SinkId) (id : SessionId)
    (events : List Event) (number : WorkerId) (standing : Standing) : Prop :=
  standing.bears sink = true →
    if standing.phase = .ended then Programs launched sink id events
    else Plays launched sink id number events

/-- Whether what was sent to a client agrees with the place where its sink is. -/
structure Agrees (launched : WorkerId → List Event → Prop) (sink : SinkId) (id : SessionId)
    (system : System) : Prop where
  tasks : ∀ (number : Nat) (flight : Flight), system.flights[number]? = some flight →
    ∀ task ∈ flight.todo, task.FitsSent launched sink id (system.registry.sinkEvents sink)
  slots : ∀ other, system.registry.state? other = some (.unloaded sink) →
    Programs launched sink id (system.registry.sinkEvents sink)
  workers : ∀ (number : WorkerId) (standing : Standing),
    system.registry.standings[number]? = some standing →
    standing.FitsSent launched sink id (system.registry.sinkEvents sink) number
  stream : Stream launched sink id (system.registry.sinkEvents sink)

/-- Whether whoever is told something has its sink closed next. -/
def TellsThenCloses : List Task → Prop
  | [] => True
  | .tell sink _ :: rest => rest.head? = some (.close sink) ∧ TellsThenCloses rest
  | _ :: rest => TellsThenCloses rest

section Parts

variable {launched later : WorkerId → List Event → Prop} {sink : SinkId} {id : SessionId}
  {events : List Event}

theorem Task.FitsSent.mono (grows : ∀ worker heard, launched worker heard → later worker heard)
    {task : Task} (fits : task.FitsSent launched sink id events) :
    task.FitsSent later sink id events := by
  cases task with
  | close held => exact fun same => (fits same).imp (Programs.mono grows) fun refused => refused
  | acknowledge launch => exact fun same => (fits same).mono grows
  | spawn launch =>
    intro same
    obtain ⟨heard, programs, split⟩ := fits same
    exact ⟨heard, programs.mono grows, split⟩
  | park other held purpose =>
    cases held with
    | none => trivial
    | some held => exact fun same => (fits same).mono grows
  | build | tell | reserve => exact fits
  | _ => trivial

theorem Standing.FitsSent.mono (grows : ∀ worker heard, launched worker heard → later worker heard)
    {number : WorkerId} {standing : Standing}
    (fitting : standing.FitsSent launched sink id events number) :
    standing.FitsSent later sink id events number := by
  intro bears
  have sent := fitting bears
  split at sent
  · rename_i ended
    rw [if_pos ended]
    exact sent.mono grows
  · rename_i alive
    rw [if_neg alive]
    exact sent.mono grows

theorem Agrees.mono (grows : ∀ worker heard, launched worker heard → later worker heard)
    {system : System} (agrees : Agrees launched sink id system) : Agrees later sink id system where
  tasks number flight known task member := (agrees.tasks number flight known task member).mono grows
  slots other found := (agrees.slots other found).mono grows
  workers number standing found := (agrees.workers number standing found).mono grows
  stream := agrees.stream.mono grows

/-- A task that does not have the sink, and tells its client nothing, fits anything. -/
theorem Task.fitsSent_of_not_carries {task : Task} (other : task.carries sink = false)
    (silent : ∀ reason, task ≠ .tell sink reason) : task.FitsSent launched sink id events := by
  cases task with
  | park name held purpose =>
    cases held with
    | none => trivial
    | some held => exact fun same => absurd same (of_decide_eq_false other)
  | tell held reason =>
    exact fun same => absurd (congrArg (Task.tell · reason) same) (silent reason)
  | build | reserve | close | acknowledge | spawn =>
    exact fun same => absurd same (of_decide_eq_false other)
  | _ => trivial

theorem TellsThenCloses.tail {task : Task} {rest : List Task}
    (closes : TellsThenCloses (task :: rest)) : TellsThenCloses rest := by
  cases task with
  | tell held reason => exact closes.2
  | _ => exact closes

theorem TellsThenCloses.append {first second : List Task} (one : TellsThenCloses first)
    (two : TellsThenCloses second) : TellsThenCloses (first ++ second) := by
  induction first with
  | nil => exact two
  | cons task rest ih =>
    cases task with
    | tell held reason =>
      refine ⟨?_, ih one.2⟩
      obtain ⟨after, split⟩ := List.head?_eq_some_iff.mp one.1
      rw [split]
      rfl
    | _ => exact ih one

/-- Nobody is told something whose sink is not with the call. -/
theorem TellsThenCloses.silent {todo : List Task} (closes : TellsThenCloses todo)
    (none : ∀ task ∈ todo, task.carries sink = false) :
    ∀ task ∈ todo, ∀ reason, task ≠ .tell sink reason := by
  induction todo with
  | nil => exact fun _ member => by cases member
  | cons first rest ih =>
    intro task member reason told
    rcases List.mem_cons.mp member with rfl | later
    · subst told
      obtain ⟨after, split⟩ := List.head?_eq_some_iff.mp closes.1
      have free := none (.close sink) (by rw [split]; simp)
      simp [Task.carries] at free
    · exact ih closes.tail (fun task member => none task (List.mem_cons_of_mem _ member)) task later
        reason told

end Parts

/-! ### Whoever has the sink has it alone -/

/-- Whether a sink is in one place at most. -/
def InOnePlace (sink : SinkId) (system : System) : Prop :=
  (custody sink).total system + bearers system.registry.standings sink +
    releases system.registry.events sink ≤ 1

section Alone

variable {sink : SinkId} {system : System} (one : InOnePlace sink system)

include one

/-- If a call has the sink for one of its tasks, nobody else has it. -/
theorem alone_of_task {number : Nat} {flight : Flight} {later : List Task} {task : Task}
    (known : system.flights[number]? = some flight) (before : List Task)
    (split : flight.todo = before ++ task :: later)
    (carries : task.carries sink = true) :
    (∀ other ∈ before ++ later, other.carries sink = false) ∧
      (∀ (index : Nat) (rival : Flight), system.flights[index]? = some rival → index ≠ number →
        ∀ other ∈ rival.todo, other.carries sink = false) ∧
      (∀ id, system.registry.state? id ≠ some (.unloaded sink)) ∧
      ∀ standing ∈ system.registry.standings, standing.bears sink = false := by
  have held : (custody sink).ofTasks flight.todo =
      (custody sink).ofTasks (before ++ later) + 1 := by
    rw [split]
    simp [carries]
    omega
  have hands := (custody sink).ofTasks_le_ofFlights known
  unfold InOnePlace at one
  rw [Census.total] at one
  refine ⟨fun other member => ?_, fun index rival there different other member => ?_,
    state?_ne_unloaded (by omega), bears_eq_false (by omega)⟩
  · have counted := (custody sink).task_le_ofTasks member
    rw [task_custody] at counted
    exact Bool.toNat_eq_zero.mp (by omega)
  · have both := (custody sink).ofTasks_add_ofTasks_le known there different
    have counted := (custody sink).task_le_ofTasks member
    rw [task_custody] at counted
    exact Bool.toNat_eq_zero.mp (by omega)

/-- If the sink is in a slot, nobody else has it. -/
theorem alone_of_slot {id : SessionId} (there : system.registry.state? id = some (.unloaded sink)) :
    (∀ flight ∈ system.flights, ∀ task ∈ flight.todo, task.carries sink = false) ∧
      (∀ other, other ≠ id → system.registry.state? other ≠ some (.unloaded sink)) ∧
      ∀ standing ∈ system.registry.standings, standing.bears sink = false := by
  have counted : (custody sink).ofSlot system.registry id = 1 := by
    rw [(custody sink).ofSlot_of_state there, slot_custody, decide_eq_true rfl, Bool.toNat_true]
  have bound := (custody sink).ofSlot_le system.registry id
  unfold InOnePlace at one
  rw [Census.total] at one
  refine ⟨carries_eq_false (by omega), fun other different elsewhere => ?_,
    bears_eq_false (by omega)⟩
  have both := (custody sink).ofSlot_add_ofSlot_le system.registry different
  rw [counted, (custody sink).ofSlot_of_state elsewhere, slot_custody, decide_eq_true rfl,
    Bool.toNat_true] at both
  omega

/-- If a worker has the sink, nobody else has it. -/
theorem alone_of_worker {number : WorkerId} {standing : Standing}
    (found : system.registry.standings[number]? = some standing)
    (bears : standing.bears sink = true) :
    (∀ flight ∈ system.flights, ∀ task ∈ flight.todo, task.carries sink = false) ∧
      (∀ id, system.registry.state? id ≠ some (.unloaded sink)) ∧
      ∀ (other : WorkerId) (rival : Standing), system.registry.standings[other]? = some rival →
        other ≠ number → rival.bears sink = false := by
  -- without the worker, nobody would have the sink
  have without := bearers_set sink found standing.settled
  have lost : standing.settled.bears sink = false := by simp [Standing.settled, Standing.bears]
  rw [bears, lost, Bool.toNat_true, Bool.toNat_false] at without
  unfold InOnePlace at one
  rw [Census.total] at one
  have none : bearers (system.registry.standings.set number standing.settled) sink = 0 := by omega
  refine ⟨carries_eq_false (by omega), state?_ne_unloaded (by omega),
    fun other rival there different => bears_eq_false none rival ?_⟩
  exact List.mem_of_getElem? (by rw [List.getElem?_set_ne (Ne.symm different), there])

end Alone

/-! ### What a task adds to what was sent -/

namespace Registry

theorem sinkEvents_congr {registry after : Registry} (same : after.events = registry.events)
    (sink : SinkId) : after.sinkEvents sink = registry.sinkEvents sink := by
  rw [sinkEvents, same, sinkEvents]

theorem sinkEvents_cons {registry after : Registry} {event : Event}
    (same : after.events = event :: registry.events) (sink : SinkId) :
    after.sinkEvents sink =
      registry.sinkEvents sink ++ if event.sink = sink then [event] else [] := by
  rw [sinkEvents, same, List.reverse_cons, List.filter_append, ← sinkEvents, List.filter_singleton]
  simp

theorem sinkEvents_deliver (registry : Registry) (held : SinkId) (delivery : Delivery)
    (sink : SinkId) :
    (registry.deliver held delivery).sinkEvents sink =
      registry.sinkEvents sink ++ if held = sink then [⟨held, delivery, none⟩] else [] :=
  sinkEvents_cons (registry.events_deliver held delivery) sink

/-- Giving a slot up drops the sink that is in it. -/
theorem sinkEvents_vacate (registry : Registry) (id : SessionId) (sink : SinkId) :
    (registry.vacate id).sinkEvents sink = registry.sinkEvents sink ++
      if registry.state? id = some (.unloaded sink) then [⟨sink, .dropped, none⟩] else [] := by
  unfold vacate state?
  cases registry.slot? id with
  | none => exact (List.append_nil _).symm
  | some slot =>
    cases held : slot.state with
    | running worker => simp [abandon, held]
    | pending => simp [abandon, held]
    | unloaded other =>
      by_cases same : other = sink
      · subst same
        simp [abandon, held, sinkEvents_cons (registry.events_deliver other .dropped)]
      · simp [abandon, held, same, sinkEvents_cons (registry.events_deliver other .dropped)]

end Registry

section Done

variable {launched later : WorkerId → List Event → Prop} {sink : SinkId} {id : SessionId}
  {system : System} {number : Nat} {flight : Flight} {task : Task} {rest : List Task}
  {progress : Progress}

/-- What was sent fits the task that comes next. -/
theorem Agrees.fitsSent_next (agrees : Agrees launched sink id system)
    (known : system.flights[number]? = some flight) (next : flight.todo = task :: rest) :
    task.FitsSent launched sink id (system.registry.sinkEvents sink) :=
  agrees.tasks number flight known task (by rw [next]; exact List.mem_cons_self)

/-- A task that adds nothing to what was sent leaves what fits, if the places that it passes the
sink on to fit. -/
theorem Agrees.done_quiet (grows : ∀ worker heard, launched worker heard → later worker heard)
    (agrees : Agrees launched sink id system) (known : system.flights[number]? = some flight)
    (next : flight.todo = task :: rest)
    (same : progress.registry.sinkEvents sink = system.registry.sinkEvents sink)
    (todo : ∀ next ∈ progress.todo,
      next.FitsSent later sink id (system.registry.sinkEvents sink))
    (slots : ∀ other, progress.registry.state? other = some (.unloaded sink) →
      Programs later sink id (system.registry.sinkEvents sink))
    (workers : ∀ (number : WorkerId) (standing : Standing),
      progress.registry.standings[number]? = some standing →
      standing.FitsSent later sink id (system.registry.sinkEvents sink) number) :
    Agrees later sink id
      ⟨progress.registry, system.flights.set number (flight.advance progress rest)⟩ where
  tasks index moved found := by
    simp only [same]
    by_cases this : number = index
    · subst this
      rw [List.getElem?_set_self (List.getElem?_eq_some_iff.mp known).1] at found
      cases found
      intro other member
      rcases List.mem_append.mp member with fresh | left
      · exact todo other fresh
      · exact (agrees.tasks number flight known other
          (by rw [next]; exact List.mem_cons_of_mem _ left)).mono grows
    · rw [List.getElem?_set_ne this] at found
      exact fun other member => (agrees.tasks index moved found other member).mono grows
  slots other found := by
    simp only [same]
    exact slots other found
  workers index standing found := by
    simp only [same]
    exact workers index standing found
  stream := by
    simp only [same]
    exact agrees.stream.mono grows

/-- A task that adds nothing to what was sent and puts the sink nowhere. -/
theorem Agrees.done_still (grows : ∀ worker heard, launched worker heard → later worker heard)
    (agrees : Agrees launched sink id system) (known : system.flights[number]? = some flight)
    (next : flight.todo = task :: rest)
    (same : progress.registry.sinkEvents sink = system.registry.sinkEvents sink)
    (slots : ∀ other, progress.registry.state? other = some (.unloaded sink) →
      system.registry.state? other = some (.unloaded sink))
    (standings : progress.registry.standings = system.registry.standings)
    (todo : ∀ next ∈ progress.todo,
      next.FitsSent later sink id (system.registry.sinkEvents sink)) :
    Agrees later sink id
      ⟨progress.registry, system.flights.set number (flight.advance progress rest)⟩ := by
  refine agrees.done_quiet grows known next same todo
    (fun other found => (agrees.slots other (slots other found)).mono grows)
    (fun index standing found => ?_)
  rw [standings] at found
  exact (agrees.workers index standing found).mono grows

/-- If only the call has the sink that does the task, what is left to do has to fit, and nothing
else. -/
theorem Agrees.done_alone (closes : ∀ flight ∈ system.flights, TellsThenCloses flight.todo)
    (known : system.flights[number]? = some flight)
    (others : ∀ (index : Nat) (rival : Flight), system.flights[index]? = some rival →
      index ≠ number → ∀ other ∈ rival.todo, other.carries sink = false)
    (todo : ∀ next ∈ progress.todo ++ rest,
      next.FitsSent later sink id (progress.registry.sinkEvents sink))
    (slots : ∀ other, progress.registry.state? other ≠ some (.unloaded sink))
    (workers : ∀ standing ∈ progress.registry.standings, standing.bears sink = false)
    (stream : Stream later sink id (progress.registry.sinkEvents sink)) :
    Agrees later sink id
      ⟨progress.registry, system.flights.set number (flight.advance progress rest)⟩ where
  tasks index moved found := by
    by_cases this : number = index
    · subst this
      rw [List.getElem?_set_self (List.getElem?_eq_some_iff.mp known).1] at found
      cases found
      exact todo
    · rw [List.getElem?_set_ne this] at found
      have free := others index moved found (Ne.symm this)
      exact fun other member => Task.fitsSent_of_not_carries (free other member)
        ((closes moved (List.mem_of_getElem? found)).silent free other member)
  slots other found := absurd found (slots other)
  workers index standing found bears := by
    rw [workers standing (List.mem_of_getElem? found)] at bears
    cases bears
  stream := stream

/-- A task that sends something, or releases the sink, and leaves the table and workers alone. -/
theorem Agrees.done_loud (one : InOnePlace sink system)
    (closes : ∀ flight ∈ system.flights, TellsThenCloses flight.todo)
    (known : system.flights[number]? = some flight) (next : flight.todo = task :: rest)
    (carries : task.carries sink = true)
    (states : progress.registry.states = system.registry.states)
    (standings : progress.registry.standings = system.registry.standings)
    (todo : ∀ next ∈ progress.todo,
      next.FitsSent later sink id (progress.registry.sinkEvents sink))
    (stream : Stream later sink id (progress.registry.sinkEvents sink)) :
    Agrees later sink id
      ⟨progress.registry, system.flights.set number (flight.advance progress rest)⟩ := by
  obtain ⟨here, others, slots, workers⟩ := alone_of_task one known [] next carries
  have silent : ∀ other ∈ rest, ∀ reason, other ≠ .tell sink reason := by
    have whole := closes flight (List.mem_of_getElem? known)
    rw [next] at whole
    exact whole.tail.silent here
  refine Agrees.done_alone closes known others (fun other member => ?_) (fun other found => ?_) ?_
    stream
  · rcases List.mem_append.mp member with fresh | left
    · exact todo other fresh
    · exact Task.fitsSent_of_not_carries (here other left) (silent other left)
  · rw [Registry.state?_congr states] at found
    exact slots other found
  · rw [standings]
    exact workers

/-- A task that gives a slot up, with what is in it. -/
theorem Agrees.done_vacate (grows : ∀ worker heard, launched worker heard → later worker heard)
    (one : InOnePlace sink system)
    (closes : ∀ flight ∈ system.flights, TellsThenCloses flight.todo)
    (agrees : Agrees launched sink id system)
    (known : system.flights[number]? = some flight) (next : flight.todo = task :: rest)
    {name : SessionId}
    (events : progress.registry.events = (system.registry.vacate name).events)
    (standings : progress.registry.standings = system.registry.standings)
    (slots : ∀ other, progress.registry.state? other = some (.unloaded sink) →
      other ≠ name ∧ system.registry.state? other = some (.unloaded sink) ∨
        task.carries sink = true ∧ Programs launched sink id (system.registry.sinkEvents sink))
    (todo : ∀ next ∈ progress.todo,
      next.carries sink = false ∧ ∀ reason, next ≠ .tell sink reason) :
    Agrees later sink id
      ⟨progress.registry, system.flights.set number (flight.advance progress rest)⟩ := by
  have sent : progress.registry.sinkEvents sink = _ :=
    (Registry.sinkEvents_congr events sink).trans (system.registry.sinkEvents_vacate name sink)
  by_cases held : system.registry.state? name = some (.unloaded sink)
  · rw [if_pos held] at sent
    obtain ⟨hands, elsewhere, workers⟩ := alone_of_slot one held
    have inFlight := List.mem_of_getElem? known
    have silent : ∀ other ∈ flight.todo, ∀ reason, other ≠ .tell sink reason :=
      (closes flight inFlight).silent (hands flight inFlight)
    refine Agrees.done_alone closes known
      (fun index rival there _ => hands rival (List.mem_of_getElem? there))
      (fun other member => ?_) (fun other found => ?_) (standings ▸ workers) ?_
    · rcases List.mem_append.mp member with fresh | left
      · exact Task.fitsSent_of_not_carries (todo other fresh).1 (todo other fresh).2
      · have inTodo : other ∈ flight.todo := by rw [next]; exact List.mem_cons_of_mem _ left
        exact Task.fitsSent_of_not_carries (hands flight inFlight other inTodo)
          (silent other inTodo)
    · rcases slots other found with ⟨different, there⟩ | ⟨carries, -⟩
      · exact elsewhere other different there
      · have free := hands flight inFlight task (by rw [next]; exact List.mem_cons_self)
        rw [free] at carries
        cases carries
    · rw [sent]
      exact Programs.released (.inl ((agrees.slots name held).mono grows)) _ rfl
  · rw [if_neg held, List.append_nil] at sent
    refine agrees.done_quiet grows known next sent
      (fun other fresh => Task.fitsSent_of_not_carries (todo other fresh).1 (todo other fresh).2)
      (fun other found => ?_) (fun index standing found => ?_)
    · rcases slots other found with ⟨-, there⟩ | ⟨-, programs⟩
      · exact (agrees.slots other there).mono grows
      · exact programs.mono grows
    · rw [standings] at found
      exact (agrees.workers index standing found).mono grows

/-- A worker that was waited for has no sink. -/
theorem fitsSent_settled {launched : WorkerId → List Event → Prop} {sink : SinkId} {id : SessionId}
    {events : List Event} {standings : List Standing}
    (fits : ∀ (number : WorkerId) (standing : Standing), standings[number]? = some standing →
      standing.FitsSent launched sink id events number)
    (joined : WorkerId) (standing : Standing) (number : WorkerId) (moved : Standing)
    (found : (standings.set joined standing.settled)[number]? = some moved) :
    moved.FitsSent launched sink id events number := by
  rw [List.getElem?_set] at found
  split at found
  · split at found
    · cases found
      intro bears
      simp [Standing.settled, Standing.bears] at bears
    · cases found
  · exact fits number moved found

/-- A task that releases the sink of its client. -/
theorem Agrees.done_release (grows : ∀ worker heard, launched worker heard → later worker heard)
    (one : InOnePlace sink system)
    (closes : ∀ flight ∈ system.flights, TellsThenCloses flight.todo)
    (agrees : Agrees launched sink id system) (known : system.flights[number]? = some flight)
    (next : flight.todo = task :: rest) {held : SinkId} {delivery : Delivery}
    (releases : delivery.releases = true) (carries : task.carries sink = decide (held = sink))
    (did : progress.registry = system.registry.deliver held delivery)
    (fits : held = sink → Programs launched sink id (system.registry.sinkEvents sink) ∨
      Refused sink (system.registry.sinkEvents sink))
    (todo : ∀ next ∈ progress.todo, ∀ events, next.FitsSent later sink id events) :
    Agrees later sink id
      ⟨progress.registry, system.flights.set number (flight.advance progress rest)⟩ := by
  have sent := system.registry.sinkEvents_deliver held delivery sink
  rw [← did] at sent
  by_cases same : held = sink
  · refine Agrees.done_loud one closes known next (carries.trans (decide_eq_true same))
      (by rw [did]; rfl) (by rw [did]; rfl) (fun other member => todo other member _) ?_
    rw [sent, if_pos same]
    exact Programs.released ((fits same).imp (Programs.mono grows) fun refused => refused) _
      releases
  · rw [if_neg same, List.append_nil] at sent
    refine agrees.done_still grows known next sent (fun other found => ?_) (by rw [did]; rfl)
      (fun other member => todo other member _)
    rw [did] at found
    exact found

/-- A client is told why it is not admitted. -/
theorem Agrees.done_told (grows : ∀ worker heard, launched worker heard → later worker heard)
    (one : InOnePlace sink system)
    (closes : ∀ flight ∈ system.flights, TellsThenCloses flight.todo)
    (agrees : Agrees launched sink id system) (known : system.flights[number]? = some flight)
    {held : SinkId} {reason : String} (next : flight.todo = .tell held reason :: rest)
    (did : progress = (system.registry.deliver held (.message (.error reason))).proceed []) :
    Agrees later sink id
      ⟨progress.registry, system.flights.set number (flight.advance progress rest)⟩ := by
  subst did
  have here := agrees.fitsSent_next known next
  have sent := system.registry.sinkEvents_deliver held (.message (.error reason)) sink
  by_cases same : held = sink
  · -- the sink is closed next, so the call has it
    have tells := closes flight (List.mem_of_getElem? known)
    rw [next] at tells
    subst same
    obtain ⟨after, split⟩ := List.head?_eq_some_iff.mp tells.1
    have whole : flight.todo = [.tell held reason] ++ .close held :: after := by
      rw [next, split]
      rfl
    obtain ⟨alone, others, slots, workers⟩ :=
      alone_of_task one known [.tell held reason] whole (decide_eq_true rfl)
    have free : ∀ other ∈ after, other.carries held = false :=
      fun other member => alone other (List.mem_append_right _ member)
    have silent := (split ▸ tells.2).tail.silent free
    rw [here rfl, if_pos rfl] at sent
    refine Agrees.done_alone closes known others (fun other member => ?_) slots workers ?_
    · simp only [Registry.proceed, List.nil_append, split] at member ⊢
      rcases List.mem_cons.mp member with rfl | left
      · exact fun _ => .inr ⟨reason, sent⟩
      · exact Task.fitsSent_of_not_carries (free other left) (silent other left)
    · exact ⟨_, [], (List.append_nil _).symm, .inr ⟨reason, sent⟩, .inl rfl⟩
  · rw [if_neg same, List.append_nil] at sent
    exact agrees.done_still grows known next sent (fun _ found => found) rfl
      (fun other member => by cases member)

/-- A program is announced. -/
theorem Agrees.done_acknowledged
    (grows : ∀ worker heard, launched worker heard → later worker heard)
    (one : InOnePlace sink system)
    (closes : ∀ flight ∈ system.flights, TellsThenCloses flight.todo)
    (agrees : Agrees launched sink id system) (known : system.flights[number]? = some flight)
    {launch : Launch} (owner : launch.sink = sink → launch.id = id)
    (next : flight.todo = .acknowledge launch :: rest)
    (did : progress = (system.registry.deliver launch.sink
      (.message (.started launch.id))).proceed [.spawn launch]) :
    Agrees later sink id
      ⟨progress.registry, system.flights.set number (flight.advance progress rest)⟩ := by
  subst did
  have here := agrees.fitsSent_next known next
  have sent := system.registry.sinkEvents_deliver launch.sink (.message (.started launch.id)) sink
  by_cases same : launch.sink = sink
  · have programs := (here same).mono grows
    rw [if_pos same] at sent
    have announced : (system.registry.deliver launch.sink
        (.message (.started launch.id))).sinkEvents sink =
          system.registry.sinkEvents sink ++ [announcement sink id] := by
      rw [sent, same, owner same]
      rfl
    refine Agrees.done_loud one closes known next (decide_eq_true same) rfl rfl
      (fun other member => ?_) ?_
    · rw [List.mem_singleton.mp member]
      exact fun _ => ⟨_, programs, announced⟩
    · simp only [Registry.proceed]
      rw [announced]
      exact (Programs.announced programs).stream
  · rw [if_neg same, List.append_nil] at sent
    refine agrees.done_still grows known next sent (fun _ found => found) rfl
      (fun other member => ?_)
    rw [List.mem_singleton.mp member]
    exact fun mine => absurd mine same

/-- A worker is set going for a program that was just announced. -/
theorem Agrees.done_spawned (grows : ∀ worker heard, launched worker heard → later worker heard)
    (agrees : Agrees launched sink id system) (known : system.flights[number]? = some flight)
    {launch : Launch} (next : flight.todo = .spawn launch :: rest)
    (workers : progress.registry.workers =
      system.registry.workers ++ [system.registry.launched launch])
    (events : progress.registry.events = system.registry.events)
    (table : progress.registry.table = system.registry.table)
    (todo : ∀ next ∈ progress.todo, ∀ events, next.FitsSent later sink id events)
    (spawns : launch.sink = sink →
      later system.registry.workers.length (system.registry.sinkEvents sink)) :
    Agrees later sink id
      ⟨progress.registry, system.flights.set number (flight.advance progress rest)⟩ := by
  have here := agrees.fitsSent_next known next
  have states := Registry.states_of_table system.registry table
  refine agrees.done_quiet grows known next (Registry.sinkEvents_congr events sink)
    (fun other member => todo other member _) (fun other found => ?_)
    (fun index standing found => ?_)
  · rw [Registry.state?_congr states] at found
    exact (agrees.slots other found).mono grows
  have counted : system.registry.standings.length = system.registry.workers.length := by
    simp [Registry.standings]
  rw [Registry.standings, workers, List.map_append, ← Registry.standings] at found
  rcases Nat.lt_or_ge index system.registry.standings.length with before | beyond
  · rw [List.getElem?_append_left before] at found
    exact (agrees.workers index standing found).mono grows
  · rw [List.getElem?_append_right beyond] at found
    have inside := (List.getElem?_eq_some_iff.mp found).1
    have last : index = system.registry.workers.length := by
      rw [counted] at inside beyond
      exact Nat.le_antisymm (Nat.le_of_sub_eq_zero (Nat.lt_one_iff.mp inside)) beyond
    rw [last, counted, Nat.sub_self] at found
    cases found
    intro bears
    have same : launch.sink = sink := (of_decide_eq_true bears).1
    obtain ⟨heard, programs, split⟩ := here same
    have own := spawns same
    rw [if_neg (by simp [Registry.launched, Worker.new, Worker.standing]), split, last]
    rw [split] at own
    exact (programs.mono grows).plays own

/-- The end of a worker was waited for, and what it leaves is passed on. -/
theorem Agrees.done_joined (grows : ∀ worker heard, launched worker heard → later worker heard)
    (agrees : Agrees launched sink id system) (known : system.flights[number]? = some flight)
    (next : flight.todo = task :: rest) {joined : WorkerId} {worker : Worker}
    (found : system.registry.worker? joined = some worker)
    (did : progress.registry =
      system.registry.modifyWorker joined fun worker => { worker with joined := true })
    (todo : ∀ next ∈ progress.todo,
      next.FitsSent later sink id (system.registry.sinkEvents sink)) :
    Agrees later sink id
      ⟨progress.registry, system.flights.set number (flight.advance progress rest)⟩ := by
  refine agrees.done_quiet grows known next (by rw [did]; rfl) todo (fun other there => ?_)
    (fun index standing there => ?_)
  · rw [did] at there
    exact (agrees.slots other there).mono grows
  · rw [did, Registry.standings_settled _ found] at there
    exact fitsSent_settled
      (fun index standing there => (agrees.workers index standing there).mono grows)
      joined worker.standing index standing there

/-- A worker that ended gives the sink back, with what was sent so far. -/
theorem Agrees.programs_of_ended (agrees : Agrees launched sink id system) {joined : WorkerId}
    {worker : Worker} (found : system.registry.worker? joined = some worker)
    (complete : worker.phase = .ended)
    (awaited : waits system.registry.standings joined = 0) (same : worker.sink = sink) :
    Programs launched sink id (system.registry.sinkEvents sink) := by
  rw [waits, Registry.standings_getElem? _ found, Option.any_some] at awaited
  have fits := agrees.workers joined worker.standing (Registry.standings_getElem? _ found)
    (decide_eq_true ⟨same, Bool.toNat_eq_zero.mp awaited, by simp [Worker.standing, complete]⟩)
  rwa [if_pos (show worker.standing.phase = .ended from complete)] at fits

/-- The sink that is in a slot is closed when the slot is released. -/
theorem Agrees.fitsSent_release (agrees : Agrees launched sink id system) {name : SessionId}
    {state : SlotState} (there : system.registry.state? name = some state) :
    ∀ next ∈ Registry.SlotState.releaseTasks name state,
      next.FitsSent launched sink id (system.registry.sinkEvents sink) := by
  intro next member
  cases state with
  | running worker =>
    rw [List.mem_singleton.mp member]
    trivial
  | unloaded held =>
    rw [List.mem_singleton.mp member]
    rintro rfl
    exact .inl (agrees.slots name there)
  | pending => cases member

/-- Where a slot gets something else than the sink, the sink is in another slot, if in any. -/
theorem unloaded_of_ite {written before : Option SlotState} {name other : SessionId}
    (different : written ≠ some (.unloaded sink))
    (found : (if other = name then written else before) = some (.unloaded sink)) :
    other ≠ name ∧ before = some (.unloaded sink) := by
  split at found
  · exact absurd found different
  · exact ⟨‹_›, found⟩

section Kinds

variable (grows : ∀ worker heard, launched worker heard → later worker heard)
  (agrees : Agrees launched sink id system) (known : system.flights[number]? = some flight)

include grows agrees known

/-- A task that leaves the table, the workers and what was sent alone. -/
theorem Agrees.done_idle (next : flight.todo = task :: rest)
    (events : progress.registry.events = system.registry.events)
    (states : progress.registry.states = system.registry.states)
    (standings : progress.registry.standings = system.registry.standings)
    (todo : ∀ next ∈ progress.todo,
      next.FitsSent later sink id (system.registry.sinkEvents sink)) :
    Agrees later sink id
      ⟨progress.registry, system.flights.set number (flight.advance progress rest)⟩ :=
  agrees.done_still grows known next (Registry.sinkEvents_congr events sink)
    (fun other found => (Registry.state?_congr states other).symm.trans found) standings todo

/-- A slot gets something else than the sink, or is taken out of the table. -/
theorem Agrees.done_slot (next : flight.todo = task :: rest) {name : SessionId}
    (written : Option SlotState) (different : written ≠ some (.unloaded sink))
    (slots : ∀ other, progress.registry.state? other =
      if other = name then written else system.registry.state? other)
    (events : progress.registry.events = system.registry.events)
    (standings : progress.registry.standings = system.registry.standings)
    (todo : ∀ next ∈ progress.todo,
      next.FitsSent later sink id (system.registry.sinkEvents sink)) :
    Agrees later sink id
      ⟨progress.registry, system.flights.set number (flight.advance progress rest)⟩ := by
  refine agrees.done_still grows known next (Registry.sinkEvents_congr events sink)
    (fun other found => ?_) standings todo
  rw [slots other] at found
  exact (unloaded_of_ite different found).2

/-- A slot is given up, with what is in it, and that is all. -/
theorem Agrees.done_vacated (one : InOnePlace sink system)
    (closes : ∀ flight ∈ system.flights, TellsThenCloses flight.todo)
    (next : flight.todo = task :: rest) {name : SessionId} (written : Option SlotState)
    (different : written ≠ some (.unloaded sink))
    (slots : ∀ other, progress.registry.state? other =
      if other = name then written else system.registry.state? other)
    (events : progress.registry.events = (system.registry.vacate name).events)
    (standings : progress.registry.standings = system.registry.standings)
    (last : progress.todo = []) :
    Agrees later sink id
      ⟨progress.registry, system.flights.set number (flight.advance progress rest)⟩ := by
  refine agrees.done_vacate grows one closes known next events standings
    (fun other found => .inl ?_) (fun other member => ?_)
  · rw [slots other] at found
    exact unloaded_of_ite different found
  · rw [last] at member
    cases member

/-- A client is not admitted. It was sent nothing, and is told next. -/
theorem Agrees.done_rejected (next : flight.todo = task :: rest) {name : SessionId} {held : SinkId}
    {cause : SessionError} (unheard : held = sink → system.registry.sinkEvents sink = [])
    (did : progress = system.registry.rejection name held cause) :
    Agrees later sink id
      ⟨progress.registry, system.flights.set number (flight.advance progress rest)⟩ := by
  subst did
  refine agrees.done_idle grows known next rfl rfl rfl fun other member => ?_
  simp only [Registry.rejection, List.mem_cons, List.not_mem_nil, or_false] at member
  rcases member with rfl | rfl | rfl
  · exact unheard
  · exact fun same => .inl (by rw [unheard same]; exact .nothing)
  · trivial

/-- A machine was built for a new session, which may now be admitted. -/
theorem Agrees.done_built {name : SessionId} {rom : Rom} {seed : UInt64} {held : SinkId}
    {machine : Machine} (next : flight.todo = .build name rom seed held :: rest)
    (did : progress =
      system.registry.proceed [.reap, .reserve ⟨.start, name, rom, machine, held⟩]) :
    Agrees later sink id
      ⟨progress.registry, system.flights.set number (flight.advance progress rest)⟩ := by
  subst did
  refine agrees.done_idle grows known next rfl rfl rfl fun other member => ?_
  rcases List.mem_pair.mp member with rfl | rfl
  · trivial
  · exact agrees.fitsSent_next known next

/-- A session is admitted. -/
theorem Agrees.done_admitted {launch : Launch} (next : flight.todo = .reserve launch :: rest)
    (did : progress = (system.registry.putSlot launch.id
      ⟨system.registry.now, .pending⟩).proceed [.acknowledge launch]) :
    Agrees later sink id
      ⟨progress.registry, system.flights.set number (flight.advance progress rest)⟩ := by
  subst did
  refine agrees.done_slot grows known next (some .pending) (by simp)
    (system.registry.state?_putSlot launch.id · _) rfl rfl fun other member => ?_
  rw [List.mem_singleton.mp member]
  exact fun same => by rw [agrees.fitsSent_next known next same]; exact .nothing

/-- The sink of an unloaded session is put into its slot. -/
theorem Agrees.done_parked (one : InOnePlace sink system)
    (closes : ∀ flight ∈ system.flights, TellsThenCloses flight.todo) {name : SessionId}
    {held : SinkId} {purpose : Unloading} {slot : Slot}
    (next : flight.todo = .park name (some held) purpose :: rest)
    (did : progress = ((system.registry.vacate name).putSlot name
      { slot with state := .unloaded held }).proceed (Registry.Unloading.tasks name purpose)) :
    Agrees later sink id
      ⟨progress.registry, system.flights.set number (flight.advance progress rest)⟩ := by
  subst did
  refine agrees.done_vacate grows one closes known next rfl (Registry.standings_vacate _ _)
    (fun other found => ?_) (fun other member => ?_)
  · rw [Registry.proceed, Registry.state?_putSlot_vacate] at found
    split at found
    · cases found
      exact .inr ⟨decide_eq_true rfl, agrees.fitsSent_next known next rfl⟩
    · exact .inl ⟨‹_›, found⟩
  · cases purpose with
    | park =>
      rw [List.mem_singleton.mp member]
      exact ⟨rfl, fun _ same => by cases same⟩
    | replace rom machine =>
      rw [List.mem_singleton.mp member]
      exact ⟨rfl, fun _ same => by cases same⟩

/-- There is no slot any more to put the sink of an unloaded session into. -/
theorem Agrees.done_unparked {name : SessionId} {held : SinkId} {purpose : Unloading}
    (next : flight.todo = .park name (some held) purpose :: rest)
    (did : progress = system.registry.proceed
      (.close held :: Registry.Unloading.tasks name purpose)) :
    Agrees later sink id
      ⟨progress.registry, system.flights.set number (flight.advance progress rest)⟩ := by
  subst did
  refine agrees.done_idle grows known next rfl rfl rfl fun other member => ?_
  rcases List.mem_cons.mp member with rfl | left
  · exact fun same => .inl ((agrees.fitsSent_next known next same).mono grows)
  · cases purpose <;> rw [List.mem_singleton.mp left] <;> trivial

/-- A worker that was waited for had ended, and gives its sink back. -/
theorem Agrees.done_ended {name : SessionId} {joined : WorkerId} {custody : Custody}
    {worker : Worker} (next : flight.todo = .join name joined custody :: rest)
    (awaited : waits system.registry.standings joined = 0)
    (found : system.registry.worker? joined = some worker) (complete : worker.phase = .ended)
    (did : progress =
      (system.registry.modifyWorker joined fun worker => { worker with joined := true }).proceed
        (Registry.Custody.tasks name (some worker.sink) custody)) :
    Agrees later sink id
      ⟨progress.registry, system.flights.set number (flight.advance progress rest)⟩ := by
  subst did
  refine agrees.done_joined grows known next found rfl fun other member => ?_
  have given := fun same => (agrees.programs_of_ended found complete awaited same).mono grows
  cases custody with
  | close =>
    rw [List.mem_singleton.mp member]
    exact fun same => .inl (given same)
  | keep purpose =>
    rw [List.mem_singleton.mp member]
    exact given

/-- A worker that was waited for had broken off, and its sink is lost. -/
theorem Agrees.done_broken {name : SessionId} {joined : WorkerId} {custody : Custody}
    {worker : Worker} {notices : List RegistryNotice}
    (next : flight.todo = .join name joined custody :: rest)
    (found : system.registry.worker? joined = some worker)
    (did : progress =
      { (system.registry.modifyWorker joined fun worker => { worker with joined := true }).proceed
          (Registry.Custody.tasks name none custody) with notices }) :
    Agrees later sink id
      ⟨progress.registry, system.flights.set number (flight.advance progress rest)⟩ := by
  subst did
  refine agrees.done_joined grows known next found rfl fun other member => ?_
  cases custody with
  | close => cases member
  | keep purpose =>
    rw [List.mem_singleton.mp member]
    trivial

/-- A slot is taken out of the table, and what is in it is released. -/
theorem Agrees.done_removed {name : SessionId} {slot : Slot}
    (next : flight.todo = .remove name :: rest)
    (there : system.registry.slot? name = some slot)
    (did : progress = (system.registry.forget name).proceed
      (Registry.SlotState.releaseTasks name slot.state ++ [.answer (.ok .done)])) :
    Agrees later sink id
      ⟨progress.registry, system.flights.set number (flight.advance progress rest)⟩ := by
  subst did
  refine agrees.done_slot grows known next none (by simp)
    (system.registry.state?_forget name ·) rfl rfl fun other member => ?_
  rcases List.mem_append.mp member with release | answers
  · have fits := agrees.fitsSent_release (system.registry.state?_of_slot? there) other release
    exact fits.mono grows
  · rw [List.mem_singleton.mp answers]
    trivial

/-- The sink of an unloaded session is taken for another program. -/
theorem Agrees.done_taken {name : SessionId} {rom : Rom} {machine : Machine} {slot : Slot}
    {held : SinkId} (next : flight.todo = .take name rom machine :: rest)
    (there : system.registry.slot? name = some slot) (unloaded : slot.state = .unloaded held)
    (did : progress = (system.registry.putSlot name { slot with state := .pending }).proceed
      [.acknowledge ⟨.relaunch, name, rom, machine, held⟩]) :
    Agrees later sink id
      ⟨progress.registry, system.flights.set number (flight.advance progress rest)⟩ := by
  subst did
  refine agrees.done_slot grows known next (some .pending) (by simp)
    (system.registry.state?_putSlot name · _) rfl rfl fun other member => ?_
  rw [List.mem_singleton.mp member]
  intro same
  have same : held = sink := same
  refine (agrees.slots name ?_).mono grows
  rw [system.registry.state?_of_slot? there, unloaded, same]

end Kinds

open Registry in
/-- **What a task does to what was sent.** -/
theorem Agrees.done {ids : List SessionId}
    (grows : ∀ worker heard, launched worker heard → later worker heard)
    (one : InOnePlace sink system)
    (closes : ∀ flight ∈ system.flights, TellsThenCloses flight.todo)
    (agrees : Agrees launched sink id system)
    (labelled : task.Labelled ids system.registry.standings) (owner : ids[sink]? = some id)
    (known : system.flights[number]? = some flight) (next : flight.todo = task :: rest)
    (yields : task.Yields system.registry progress)
    (awaited : ∀ id number custom, task = .join id number custom →
      waits system.registry.standings number = 0)
    (spawns : ∀ launch, task = .spawn launch → launch.sink = sink →
      progress.registry.worker? system.registry.workers.length =
        some (system.registry.launched launch) →
      later system.registry.workers.length (system.registry.sinkEvents sink)) :
    Agrees later sink id
      ⟨progress.registry, system.flights.set number (flight.advance progress rest)⟩ := by
  have here := agrees.fitsSent_next known next
  -- what follows a launch that failed, or a worker that was set going, has no sink
  have sinkless : ∀ {follows : Task}, (∀ events, follows.FitsSent later sink id events) →
      ∀ other ∈ [follows], ∀ events, other.FitsSent later sink id events :=
    fun fits other member events => by rw [List.mem_singleton.mp member]; exact fits events
  cases yields with
  | built => exact agrees.done_built grows known next rfl
  | unfit => exact agrees.done_rejected grows known next here rfl
  | rejected => exact agrees.done_rejected grows known next here rfl
  | admitted => exact agrees.done_admitted grows known next rfl
  | told => exact agrees.done_told grows one closes known next rfl
  | closed =>
    exact agrees.done_release grows one closes known next rfl rfl rfl here
      (fun other member => by cases member)
  | @acknowledged launch =>
    refine agrees.done_acknowledged grows one closes known (fun same => ?_) next rfl
    have own : ids[launch.sink]? = some launch.id := labelled
    rw [same, owner] at own
    exact (Option.some.inj own).symm
  | unacknowledged =>
    exact agrees.done_release grows one closes known next rfl rfl rfl
      (fun same => .inl (here same)) (sinkless fun _ => trivial)
  | unspawned =>
    refine agrees.done_release grows one closes known next rfl rfl rfl (fun same => ?_)
      (sinkless fun _ => trivial)
    obtain ⟨heard, programs, split⟩ := here same
    rw [split]
    exact .inl (.announced programs)
  | @spawned launch =>
    exact agrees.done_spawned grows known next rfl rfl rfl (sinkless fun _ => trivial)
      (fun same => spawns launch rfl same List.getElem?_concat_length)
  | @withdrawn kind name cause =>
    exact agrees.done_vacated grows known one closes next none (by simp)
      (state?_forget_vacate _ name) rfl (standings_vacate _ _) rfl
  | @published name worker slot there =>
    exact agrees.done_vacated grows known one closes next
      (some (.running worker)) (by simp)
      (state?_putSlot_vacate _ name · _) rfl (standings_vacate _ _) rfl
  | parked => exact agrees.done_parked grows known one closes next rfl
  | @bereft name purpose slot there =>
    exact agrees.done_vacated grows known one closes next none (by simp)
      (state?_forget_vacate _ name) rfl (standings_vacate _ _) rfl
  | halted same standings events =>
    exact agrees.done_idle grows known next events (states_of_table _ same) standings
      fun other member => by rw [List.mem_singleton.mp member]; trivial
  | ended found complete =>
    exact agrees.done_ended grows known next (awaited _ _ _ rfl) found complete rfl
  | broken found complete => exact agrees.done_broken grows known next found rfl
  | unparked => exact agrees.done_unparked grows known next rfl
  | @vanished name purpose gone =>
    refine agrees.done_idle grows known next rfl rfl rfl fun other member => ?_
    cases purpose <;> rw [List.mem_singleton.mp member] <;> trivial
  | removed there => exact agrees.done_removed grows known next there rfl
  | @unloaded name purpose slot worker there running =>
    exact agrees.done_slot grows known next (some .pending) (by simp)
      (state?_putSlot _ name · _) rfl rfl
      fun other member => by rw [List.mem_singleton.mp member]; trivial
  | taken there unloaded => exact agrees.done_taken grows known next there unloaded rfl
  | reaped =>
    refine agrees.done_still grows known next
      (sinkEvents_congr system.registry.events_reaped sink)
      (fun other found => state?_of_reaped _ found) (standings_reaped _) (fun other member => ?_)
    obtain ⟨entry, -, rfl⟩ := List.mem_map.mp member
    trivial
  | watched watches states standings events _ todo =>
    refine agrees.done_idle grows known next events states standings fun other member => ?_
    obtain watching | ⟨_, rfl⟩ | ⟨_, rfl⟩ := todo other member
    · cases other <;> trivial
    · trivial
    · trivial
  | _ =>
    refine agrees.done_idle grows known next rfl rfl rfl ?_
    simp [proceed, refuse, Registry.answer, Task.FitsSent]

end Done

end Arcade
