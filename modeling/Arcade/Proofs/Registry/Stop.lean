/-
**A stopped session is stopped for good.**

A stop takes the session out of the table, whatever is going on around it. From then on the session
is gone, and whoever has its worker or its sink puts them to an end. So when the stop and the calls
on the session that were in progress have returned, the worker was waited for and the sink was
released, and neither ever comes back. The sink is closed, unless it got lost: the client did not
listen when its program was announced, there was no thread for the program, or the worker broke off.

* `System.joined_of_untouched`, `System.released_of_untouched`: what is over once no call and no
  slot has anything of a session;
* `System.dropped_run`: why a sink is dropped;
* `System.stop_final`: what is left of a session after a stop.
-/

import Arcade.Proofs.Registry.Forfeit

namespace Arcade

/-! ### What no call has and no slot -/

section Untouched

variable {ids : List SessionId} {standings : List Standing} {id : SessionId} {task : Task}

/-- A task that holds a worker of a session has something of the session. -/
theorem Task.touches_of_holds (labelled : task.Labelled ids standings) {number : WorkerId}
    {standing : Standing} (found : standings[number]? = some standing) (same : standing.id = id)
    (holds : task.holds number = true) : task.Touches ids id := by
  -- the worker belongs to the session that the task is about
  have owner : ∀ {other : SessionId} {worker : WorkerId}, IsWorkerOf standings other worker →
      decide (worker = number) = true → other = id := by
    rintro other worker ⟨belongs, there, rfl⟩ holds
    rw [of_decide_eq_true holds, found] at there
    cases there
    exact same
  cases task with
  | publish | halt | join => exact owner labelled holds
  | _ => cases holds

/-- A task that has a sink of a session has something of the session. -/
theorem Task.touches_of_carries (labelled : task.Labelled ids standings) {sink : SinkId}
    (owner : ids[sink]? = some id) (carries : task.carries sink = true) : task.Touches ids id := by
  have name : ∀ {other : SessionId} {held : SinkId}, ids[held]? = some other →
      decide (held = sink) = true → other = id := by
    intro other held found same
    rw [of_decide_eq_true same, owner] at found
    exact (Option.some.inj found).symm
  cases task with
  | build | reserve | acknowledge | spawn => exact name labelled carries
  | close held =>
    rw [Task.Touches, of_decide_eq_true (p := held = sink) carries]
    exact owner
  | park other held purpose =>
    cases held with
    | none => cases carries
    | some held => exact name labelled carries
  | _ => cases carries

end Untouched

namespace System

variable {settings : Settings} {schedule : List Move} {id : SessionId}

/-- Workers are displaced under names only that were used twice. -/
theorem displaced_run (settings : Settings) (schedule : List Move) :
    ∀ number ∈ (new settings).displaced schedule, ∃ standing,
      ((new settings).run schedule).registry.standings[number]? = some standing ∧
        2 ≤ ((new settings).run schedule).startIds.count standing.id := by
  refine run_induction (new settings) (fun schedule system =>
    ∀ number ∈ (new settings).displaced schedule, ∃ standing,
      system.registry.standings[number]? = some standing ∧ 2 ≤ system.startIds.count standing.id)
    (fun _ member => by cases member) (fun schedule move before step number member => ?_) schedule
  have labelled := labelled_run settings schedule
  have bound := claims_le_startIds settings schedule
  rw [displaced_concat, List.mem_append] at member
  generalize (new settings).run schedule = system at *
  obtain ⟨standing, found, twice⟩ : ∃ standing, system.registry.standings[number]? = some standing ∧
      2 ≤ system.startIds.count standing.id := by
    rcases member with old | new
    · exact before number old
    · obtain ⟨id, there, both⟩ := claims_of_displaces (Option.mem_toList.mp new)
      obtain ⟨standing, found, rfl⟩ := labelled.registry.slots id _ there
      have bound := bound standing.id
      exact ⟨standing, found, by omega⟩
  obtain ⟨moved, there, same, -⟩ := step.keeps number standing found
  exact ⟨moved, there, by rw [same]; exact twice.trans (step.count_le _)⟩

/-- **A worker that is in no slot and with no call was waited for.** -/
theorem joined_of_untouched (once : ((new settings).run schedule).startIds.count id ≤ 1)
    (vacant : ((new settings).run schedule).registry.state? id = none)
    (untouched : ∀ number, ¬ ((new settings).run schedule).Touches id number) :
    ∀ standing ∈ ((new settings).run schedule).registry.standings, standing.id = id →
      standing.joined = true := by
  intro standing member same
  obtain ⟨number, found⟩ := List.mem_iff_getElem?.mp member
  have places := attendance_eq settings schedule number
  have labelled := labelled_run settings schedule
  have kept : ((new settings).displaced schedule).count number = 0 := by
    refine List.count_eq_zero.mpr fun displaced => ?_
    obtain ⟨other, there, twice⟩ := displaced_run settings schedule number displaced
    rw [found] at there
    cases there
    rw [same] at twice
    exact Nat.not_succ_le_self 1 (twice.trans once)
  generalize (new settings).run schedule = system at *
  have slots : (attendance number).ofStates system.registry.states = 0 := by
    rw [Census.ofStates_eq_zero]
    intro other state there
    rw [slot_attendance, if_neg]
    rintro rfl
    obtain ⟨belongs, known, rfl⟩ := labelled.registry.slots other _ there
    rw [found] at known
    cases known
    rw [same, vacant] at there
    cases there
  have hands : (attendance number).ofFlights system.flights = 0 := by
    rw [Census.ofFlights_eq_zero]
    intro flight inFlight task inTodo
    obtain ⟨index, known⟩ := List.mem_iff_getElem?.mp inFlight
    rw [task_attendance, Bool.toNat_eq_zero, Bool.eq_false_iff]
    intro holds
    exact untouched index ⟨flight, task, known, inTodo,
      Task.touches_of_holds (labelled.tasks flight inFlight task inTodo) found same holds⟩
  have there : knows system.registry.standings number = 1 := by
    simp [knows, (List.getElem?_eq_some_iff.mp found).1]
  rw [Census.total, slots, hands, kept, there, waits, found, Option.any_some] at places
  cases joined : standing.joined with
  | true => rfl
  | false =>
    rw [joined] at places
    cases places

/-- **A sink that is in no slot and with no call, and whose workers were joined, was released.** -/
theorem released_of_untouched {sink : SinkId}
    (owner : ((new settings).run schedule).startIds[sink]? = some id)
    (vacant : ((new settings).run schedule).registry.state? id = none)
    (untouched : ∀ number, ¬ ((new settings).run schedule).Touches id number)
    (joined : ∀ standing ∈ ((new settings).run schedule).registry.standings, standing.id = id →
      standing.joined = true) :
    ∃ event ∈ ((new settings).run schedule).registry.sinkEvents sink,
      event.delivery.releases = true := by
  have places := custody_eq settings schedule sink
  have labelled := labelled_run settings schedule
  rw [labelled.sinks, decide_eq_true (List.getElem?_eq_some_iff.mp owner).1] at places
  generalize (new settings).run schedule = system at *
  have slots : (custody sink).ofStates system.registry.states = 0 := by
    rw [Census.ofStates_eq_zero]
    intro other state there
    rw [slot_custody, decide_eq_false, Bool.toNat_false]
    rintro rfl
    have found : system.startIds[sink]? = some other := labelled.registry.slots other _ there
    rw [owner] at found
    cases found
    rw [vacant] at there
    cases there
  have hands : (custody sink).ofFlights system.flights = 0 := by
    rw [Census.ofFlights_eq_zero]
    intro flight inFlight task inTodo
    obtain ⟨index, known⟩ := List.mem_iff_getElem?.mp inFlight
    rw [task_custody, Bool.toNat_eq_zero, Bool.eq_false_iff]
    intro carries
    exact untouched index ⟨flight, task, known, inTodo,
      Task.touches_of_carries (labelled.tasks flight inFlight task inTodo) owner carries⟩
  have workers : bearers system.registry.standings sink = 0 := by
    refine List.countP_eq_zero.mpr fun standing member bears => ?_
    obtain ⟨mine, free, -⟩ := of_decide_eq_true bears
    have found := labelled.registry.workers standing member
    rw [mine, owner] at found
    rw [joined standing member (Option.some.inj found).symm] at free
    cases free
  rw [Census.total, slots, hands, workers, Nat.zero_add] at places
  obtain ⟨event, member, released⟩ := List.countP_pos_iff.mp
    (show 0 < releases system.registry.events sink by rw [places]; exact Nat.one_pos)
  rw [Bool.and_eq_true] at released
  refine ⟨event, ?_, released.2⟩
  rw [Registry.sinkEvents, List.mem_filter]
  exact ⟨List.mem_reverse.mpr member, beq_iff_eq.mpr (of_decide_eq_true released.1)⟩

end System

/-! ### After the release -/

section Ending

variable {launched : WorkerId → List Event → Prop} {sink : SinkId} {id : SessionId}
  {events : List Event}

theorem Programs.silent (programs : Programs launched sink id events) :
    ∀ event ∈ events, event.delivery.releases = false := by
  induction programs with
  | nothing => exact fun _ member => by cases member
  | announced _ ih =>
    intro event member
    rcases List.mem_append.mp member with old | new
    · exact ih event old
    · rw [List.mem_singleton.mp new]
      rfl
  | @played heard segment _ _ ih =>
    intro event member
    rcases List.mem_append.mp member with old | new
    · exact ih event old
    · simp only [Segment.events, List.mem_append, List.mem_cons, List.mem_map] at new
      rcases new with (rfl | ⟨pixels, -, rfl⟩) | ⟨reason, -, rfl⟩ <;> rfl

/-- **Nothing is sent after the release**, which comes last. -/
theorem Stream.last_of_released {more : List Event}
    (stream : Stream launched sink id (events ++ more))
    (released : ∃ event ∈ events, event.delivery.releases = true) :
    more = [] ∧ ∃ heard release,
      events = heard ++ [release] ∧ release.delivery.releases = true := by
  obtain ⟨heard, ending, split, talk, complete⟩ := stream
  obtain ⟨event, member, releases⟩ := released
  have silent : event ∉ heard := by
    intro inside
    rcases talk with programs | ⟨reason, rfl⟩
    · rw [programs.silent event inside] at releases
      cases releases
    · rw [List.mem_singleton.mp inside] at releases
      cases releases
  rcases complete with rfl | ⟨release, rfl, last⟩
  · rw [List.append_nil] at split
    exact absurd (split ▸ List.mem_append_left more member) silent
  · rcases List.eq_nil_or_concat more with rfl | ⟨between, final, rfl⟩
    · exact ⟨rfl, heard, release, (List.append_nil events).symm.trans split, last⟩
    · rw [List.concat_eq_append, ← List.append_assoc] at split
      have before := (List.append_inj' split rfl).1
      exact absurd (before ▸ List.mem_append_left between member) silent

end Ending

/-! ### Why a sink is dropped -/

namespace System

/-- Whether a move loses a sink: the client does not listen when its program is announced, or there
is no thread for the program, or the worker that has the sink breaks off. -/
def Loses (system : System) (sink : SinkId) (move : Move) : Prop :=
  (∃ number cause launch, move = .proceed number (.error cause) ∧ launch.sink = sink ∧
    (system.task? move = some (.acknowledge launch) ∨ system.task? move = some (.spawn launch))) ∨
  ∃ number reaction worker broken, move = .work number reaction ∧
    system.registry.worker? number = some worker ∧ worker.sink = sink ∧
    worker.isFinished = false ∧
    (system.move move).registry.worker? number = some broken ∧ broken.phase = .broken

/-- Whether a sink was lost in the course of a schedule. -/
def Lost (system : System) (schedule : List Move) (sink : SinkId) : Prop :=
  ∃ before move after, schedule = before ++ move :: after ∧ (system.run before).Loses sink move

end System

/-- Giving a slot up drops the sink that is in it. -/
theorem Registry.events_vacate (registry : Registry) (id : SessionId) :
    ∃ fresh, (registry.vacate id).events = fresh ++ registry.events ∧
      ∀ event ∈ fresh, registry.state? id = some (.unloaded event.sink) := by
  unfold vacate state?
  cases registry.slot? id with
  | none => exact ⟨[], rfl, fun _ member => by cases member⟩
  | some slot =>
    cases held : slot.state with
    | unloaded sink =>
      refine ⟨[⟨sink, .dropped, none⟩], by simp [abandon, held], fun event member => ?_⟩
      rw [List.mem_singleton.mp member, Option.map_some, held]
    | _ => exact ⟨[], by simp [abandon, held], fun _ member => by cases member⟩

open Registry in
/-- **What a task adds to the events.** It drops the sink of a launch that fails, or the one in a
slot that it writes to without having it looked up. -/
theorem Task.Yields.events_eq {registry : Registry} {task : Task} {progress : Progress}
    {answer : Except SinkError Unit} (yields : task.Yields registry progress)
    (did : task.step registry answer = some progress) :
    ∃ fresh, progress.registry.events = fresh ++ registry.events ∧
      ∀ event ∈ fresh, event.delivery = .dropped →
        (∃ cause launch, answer = .error cause ∧ launch.sink = event.sink ∧
          (task = .acknowledge launch ∨ task = .spawn launch)) ∨
        ∃ id, task.writesBack id = true ∧ registry.state? id = some (.unloaded event.sink) := by
  -- nothing, or something that is no drop
  have mute : ∀ {event : Event}, event.delivery ≠ .dropped → ∀ other ∈ [event],
      other.delivery = .dropped →
      (∃ cause launch, answer = .error cause ∧ launch.sink = other.sink ∧
        (task = .acknowledge launch ∨ task = .spawn launch)) ∨
      ∃ id, task.writesBack id = true ∧ registry.state? id = some (.unloaded other.sink) := by
    intro event kept other member dropped
    rw [List.mem_singleton.mp member] at dropped
    exact absurd dropped kept
  have vacated : ∀ {name : SessionId}, progress.registry.events = (registry.vacate name).events →
      task.writesBack name = true →
      ∃ fresh, progress.registry.events = fresh ++ registry.events ∧
        ∀ event ∈ fresh, event.delivery = .dropped →
          (∃ cause launch, answer = .error cause ∧ launch.sink = event.sink ∧
            (task = .acknowledge launch ∨ task = .spawn launch)) ∨
          ∃ id, task.writesBack id = true ∧ registry.state? id = some (.unloaded event.sink) := by
    intro name same writes
    obtain ⟨fresh, split, inSlot⟩ := registry.events_vacate name
    exact ⟨fresh, same.trans split, fun event member _ => .inr ⟨name, writes, inSlot event member⟩⟩
  cases yields with
  | told => exact ⟨[_], rfl, mute (by simp)⟩
  | closed => exact ⟨[_], rfl, mute (by simp)⟩
  | acknowledged => exact ⟨[_], rfl, mute (by simp)⟩
  | @unacknowledged launch =>
    refine ⟨[⟨launch.sink, .dropped, none⟩], rfl, fun event member _ => .inl ?_⟩
    rw [List.mem_singleton.mp member]
    cases answer with
    | ok _ => simp [Task.step, Registry.acknowledge, proceed] at did
    | error cause => exact ⟨cause, launch, rfl, rfl, .inl rfl⟩
  | @unspawned launch =>
    refine ⟨[⟨launch.sink, .dropped, none⟩], rfl, fun event member _ => .inl ?_⟩
    rw [List.mem_singleton.mp member]
    cases answer with
    | ok _ => simp [Task.step, Registry.spawn, proceed] at did
    | error cause => exact ⟨cause, launch, rfl, rfl, .inr rfl⟩
  | withdrawn => exact vacated rfl (decide_eq_true rfl)
  | published => exact vacated rfl (decide_eq_true rfl)
  | parked => exact vacated rfl (decide_eq_true rfl)
  | bereft => exact vacated rfl (decide_eq_true rfl)
  | reaped => exact ⟨[], registry.events_reaped, fun _ member => by cases member⟩
  | halted _ _ events => exact ⟨[], events, fun _ member => by cases member⟩
  | watched _ _ _ events => exact ⟨[], events, fun _ member => by cases member⟩
  | _ => exact ⟨[], rfl, fun _ member => by cases member⟩

namespace System

/-- **What a move adds to the events.** A sink that is dropped was lost, or a slot was written to
that it was in. -/
theorem Step.events_eq {system : System} {move : Move}
    (step : system.Step move (system.move move)) :
    ∃ fresh, (system.move move).registry.events = fresh ++ system.registry.events ∧
      ∀ event ∈ fresh, event.delivery = .dropped → system.Loses event.sink move ∨
        ∃ id, system.registry.state? id = some (.unloaded event.sink) ∧
          2 ≤ (claims id).total system := by
  generalize moved : system.move move = after at step
  cases step with
  | begun => exact ⟨[], rfl, fun _ member => by cases member⟩
  | stayed => exact ⟨[], rfl, fun _ member => by cases member⟩
  | waited => exact ⟨[], rfl, fun _ member => by cases member⟩
  | @done number answer flight task later progress known next did yields =>
    obtain ⟨fresh, split, drops⟩ := yields.events_eq did
    refine ⟨fresh, split, fun event member dropped => ?_⟩
    obtain ⟨cause, launch, rfl, same, which⟩ | ⟨id, writes, there⟩ := drops event member dropped
    · refine .inl (.inl ⟨number, cause, launch, rfl, same, ?_⟩)
      rw [task?_proceed known next]
      exact which.imp (congrArg some) (congrArg some)
    · -- the task has a claim on the name, and so has the sink in the slot
      exact .inr ⟨id, there, two_le_claims there (by simp) (List.mem_of_getElem? known)
        (by rw [next]; exact List.mem_cons_self) writes⟩
  | @worked number reaction worker after deliveries known turn =>
    refine ⟨_, rfl, fun event member dropped => .inl (.inr ?_)⟩
    rw [List.mem_reverse, List.mem_map] at member
    obtain ⟨delivery, sent, rfl⟩ := member
    have there : (system.registry.turn number worker after deliveries).worker? number =
        some after :=
      List.getElem?_set_self (List.getElem?_eq_some_iff.mp known).1
    refine ⟨number, reaction, worker, after, rfl, known, rfl, ?_, by rw [moved]; exact there, ?_⟩
    all_goals
      cases turn with
      | broke was next => first | exact was | exact congrArg Standing.phase next
      | idle | stopped | ran | failed | declined | unheard => cases sent
      | shown | told =>
        rw [List.mem_singleton.mp sent] at dropped
        cases dropped

/-- **Why a sink is dropped**: it was lost, or sessions were started twice under its name. -/
theorem dropped_run (settings : Settings) (schedule : List Move) :
    ∀ event ∈ ((new settings).run schedule).registry.events, event.delivery = .dropped →
      (new settings).Lost schedule event.sink ∨
        ∃ id, ((new settings).run schedule).startIds[event.sink]? = some id ∧
          2 ≤ ((new settings).run schedule).startIds.count id := by
  refine run_induction (new settings) (fun schedule system =>
    ∀ event ∈ system.registry.events, event.delivery = .dropped →
      (new settings).Lost schedule event.sink ∨
        ∃ id, system.startIds[event.sink]? = some id ∧ 2 ≤ system.startIds.count id)
    (fun _ member => by cases member) (fun schedule move before step event member dropped => ?_)
    schedule
  have labelled := labelled_run settings schedule
  have bound := claims_le_startIds settings schedule
  obtain ⟨more, grown⟩ := step.startIds_prefix
  obtain ⟨fresh, split, drops⟩ := step.events_eq
  rw [split, List.mem_append] at member
  -- a name that was used twice was used twice later, too
  have later : ∀ id, ((new settings).run schedule).startIds[event.sink]? = some id →
      2 ≤ ((new settings).run schedule).startIds.count id →
      ∃ id, (((new settings).run schedule).move move).startIds[event.sink]? = some id ∧
        2 ≤ (((new settings).run schedule).move move).startIds.count id := by
    intro id found twice
    refine ⟨id, ?_, twice.trans (step.count_le id)⟩
    rw [← grown, List.getElem?_append_left (List.getElem?_eq_some_iff.mp found).1, found]
  rcases member with new | old
  · rcases drops event new dropped with lost | ⟨id, there, both⟩
    · exact .inl ⟨schedule, move, [], rfl, lost⟩
    · exact .inr (later id (labelled.registry.slots id _ there)
        (by have bound := bound id; omega))
  · rcases before event old dropped with ⟨first, next, rest, split, lost⟩ | ⟨id, found, twice⟩
    · exact .inl ⟨first, next, rest ++ [move], by rw [split]; simp, lost⟩
    · exact .inr (later id found twice)

/-- What was sent is never taken back. -/
theorem sinkEvents_run (system : System) (past more : List Move) (sink : SinkId) :
    ∃ fresh, (system.run (past ++ more)).registry.sinkEvents sink =
      (system.run past).registry.sinkEvents sink ++ fresh := by
  rw [run_append]
  refine run_induction (system.run past) (fun _ later =>
    ∃ fresh, later.registry.sinkEvents sink = (system.run past).registry.sinkEvents sink ++ fresh)
    ⟨[], (List.append_nil _).symm⟩ (fun schedule move before step => ?_) more
  obtain ⟨sent, before⟩ := before
  obtain ⟨fresh, split, -⟩ := step.events_eq
  refine ⟨sent ++ fresh.reverse.filter fun event => event.sink == sink, ?_⟩
  rw [Registry.sinkEvents, split, List.reverse_append, List.filter_append, ← Registry.sinkEvents,
    before, List.append_assoc]

/-! ### Calls over a schedule -/

/-- A call stays the call that it is, and does nothing more when it is over. -/
theorem flights_run {system : System} {number : Nat} {flight : Flight}
    (known : system.flights[number]? = some flight) (more : List Move) :
    ∃ moved, (system.run more).flights[number]? = some moved ∧ moved.call = flight.call ∧
      (flight.todo = [] → moved = flight) := by
  refine run_induction system (fun _ system =>
    ∃ moved, system.flights[number]? = some moved ∧ moved.call = flight.call ∧
      (flight.todo = [] → moved = flight)) ⟨flight, known, rfl, fun _ => rfl⟩
    (fun schedule move before step => ?_) more
  generalize system.run schedule = later at before step
  generalize later.move move = after at step
  obtain ⟨moved, found, same, idle⟩ := before
  cases step with
  | stayed => exact ⟨moved, found, same, idle⟩
  | waited => exact ⟨moved, found, same, idle⟩
  | worked => exact ⟨moved, found, same, idle⟩
  | begun =>
    refine ⟨moved, ?_, same, idle⟩
    simp only [begin]
    rw [List.getElem?_append_left (List.getElem?_eq_some_iff.mp found).1, found]
  | @done other answer left task rest progress there next _ yields =>
    by_cases this : other = number
    · subst this
      rw [there] at found
      cases found
      refine ⟨moved.advance progress rest,
        List.getElem?_set_self (List.getElem?_eq_some_iff.mp there).1, same, fun complete => ?_⟩
      rw [idle complete, complete] at next
      cases next
    · exact ⟨moved, by simp only; rw [List.getElem?_set_ne this, found], same, idle⟩

/-- Other calls are not concerned when one goes on. -/
theorem flights_proceed_ne (system : System) {number other : Nat} (different : other ≠ number)
    (answer : Except SinkError Unit) :
    (system.move (.proceed number answer)).flights[other]? = system.flights[other]? := by
  have step := step_move system (.proceed number answer)
  generalize system.move (.proceed number answer) = after at step
  cases step with
  | stayed => rfl
  | done => exact List.getElem?_set_ne (Ne.symm different)

/-! ### Stops -/

/-- Whether a move lets a call take a session out of the table, with some tasks left for later. -/
def Removes (system : System) (id : SessionId) (number : Nat) (later : List Task) (move : Move) :
    Prop :=
  (∃ answer, move = .proceed number answer) ∧ system.registry.slot? id ≠ none ∧
    ∃ flight, system.flights[number]? = some flight ∧ flight.todo = .remove id :: later

/-- A session that is taken out of the table is not registered. -/
theorem Removes.vacant {system : System} {id : SessionId} {number : Nat} {later : List Task}
    {move : Move}
    (removes : system.Removes id number later move) :
    (system.move move).registry.state? id = none := by
  obtain ⟨⟨answer, rfl⟩, there, flight, known, next⟩ := removes
  have step := step_move system (.proceed number answer)
  generalize system.move (.proceed number answer) = after at step
  cases step with
  | stayed waits =>
    obtain ⟨_, _, _, join⟩ := waits _ (task?_proceed known next answer)
    cases join
  | done found first _ yields =>
    rw [known] at found
    cases found
    rw [next] at first
    cases first
    cases yields with
    | removed => simp [Registry.proceed, Registry.state?_forget]
    | missed gone => exact absurd gone there
    | watched watches => cases watches

/-- **What a call to stop a session does**: it takes the session out of the table, or does not find
it. -/
theorem stop_run (settings : Settings) (schedule : List Move) (id : SessionId) :
    ∀ (number : Nat) (flight : Flight),
      ((new settings).run schedule).flights[number]? = some flight →
      flight.call = .session id .stop →
      (flight.todo = [.remove id] ∧ flight.reply = none) ∨
        (flight.todo = [] ∧ flight.reply = some (.error (.notFound id))) ∨
        ∃ before move after, schedule = before ++ move :: after ∧
          ((new settings).run before).Removes id number [] move := by
  refine run_induction (new settings) (fun schedule system =>
    ∀ (number : Nat) (flight : Flight), system.flights[number]? = some flight →
      flight.call = .session id .stop →
      (flight.todo = [.remove id] ∧ flight.reply = none) ∨
        (flight.todo = [] ∧ flight.reply = some (.error (.notFound id))) ∨
        ∃ before move after, schedule = before ++ move :: after ∧
          ((new settings).run before).Removes id number [] move) (fun _ _ known => by cases known)
    (fun schedule move before step number flight known stops => ?_) schedule
  have older : ∀ old, ((new settings).run schedule).flights[number]? = some old → old = flight →
      (flight.todo = [.remove id] ∧ flight.reply = none) ∨
        (flight.todo = [] ∧ flight.reply = some (.error (.notFound id))) ∨
        ∃ before next after, schedule ++ [move] = before ++ next :: after ∧
          ((new settings).run before).Removes id number [] next := by
    rintro old found rfl
    rcases before number old found stops with waits | missed | ⟨first, next, rest, split, removes⟩
    · exact .inl waits
    · exact .inr (.inl missed)
    · exact .inr (.inr ⟨first, next, rest ++ [move], by rw [split]; simp, removes⟩)
  generalize reached : (new settings).run schedule = system at *
  generalize system.move move = after at *
  cases step with
  | stayed => exact older flight known rfl
  | waited => exact older flight known rfl
  | worked => exact older flight known rfl
  | @begun call =>
    rcases Nat.lt_or_ge number system.flights.length with old | new
    · simp only [begin, List.getElem?_append_left old] at known
      exact older flight known rfl
    · simp only [begin, List.getElem?_append_right new] at known
      obtain rfl := List.mem_singleton.mp (List.mem_of_getElem? known)
      obtain rfl : call = .session id .stop := stops
      exact .inl ⟨rfl, rfl⟩
  | @done other answer moved task later progress found next _ yields =>
    by_cases this : other = number
    · subst this
      rw [List.getElem?_set_self (List.getElem?_eq_some_iff.mp found).1] at known
      cases known
      rcases before other moved found stops with
        ⟨todo, reply⟩ | ⟨complete, -⟩ | ⟨first, earlier, rest, split, removes⟩
      · rw [todo] at next
        cases next
        cases yields with
        | removed there =>
          refine .inr (.inr
            ⟨schedule, .proceed other answer, [], rfl, ⟨answer, rfl⟩, ?_, moved, ?_⟩)
          · rw [reached, there]
            exact Option.some_ne_none _
          · rw [reached]
            exact ⟨found, todo⟩
        | missed => exact .inr (.inl ⟨rfl, by rw [Flight.advance]; rfl⟩)
        | watched watches => cases watches
      · rw [complete] at next
        cases next
      · exact .inr (.inr ⟨first, earlier, rest ++ [.proceed other answer], by rw [split]; simp,
          removes⟩)
    · rw [List.getElem?_set_ne this] at known
      exact older flight known rfl

end System

/-- Whether a call concerns a session. -/
def Call.concerns (id : SessionId) : Call → Bool
  | .start other _ _ | .session other _ => other = id
  | _ => false

/-- A call that alters a session, as launches do, concerns it. -/
theorem Call.concerns_of_alters {id : SessionId} {call : Call} (alters : call.Alters id) :
    call.concerns id = true := by
  cases call with
  | start => exact decide_eq_true alters
  | session other request =>
    cases request <;> first | exact decide_eq_true alters | exact False.elim alters
  | _ => cases alters

theorem Call.Launches.alters {id : SessionId} {call : Call} (launches : call.Launches id) :
    call.Alters id := by
  cases call with
  | start => exact launches
  | session other request => cases request <;> first | exact launches | exact False.elim launches
  | _ => cases launches

/-- Whether a call has stopped a session and has returned from that: it was asked to stop it, and
answered that it did, or it looks over all sessions, and goes on with what comes after the stop. -/
def StopReturned (settings : Settings) (past : List Move) (id : SessionId) (number : Nat) : Prop :=
  ∃ flight, ((System.new settings).run past).flights[number]? = some flight ∧
    ((flight.call = .session id .stop ∧ flight.isOver = true ∧
        ∃ answer, flight.reply = some (.ok answer)) ∨
      (flight.call = .sweep ∨ flight.call = .shutdown) ∧
        ∃ before move after later, past = before ++ move :: after ∧
          ((System.new settings).run before).Removes id number later move ∧ flight.todo <:+ later)

theorem StopReturned.of_reply {settings : Settings} {past : List Move} {id : SessionId}
    {number : Nat}
    (done : ((System.new settings).run past).flights[number]?.map
        (fun flight => (flight.call, flight.isOver, flight.reply)) =
      some (.session id .stop, true, some (.ok .done))) : StopReturned settings past id number := by
  obtain ⟨flight, known, same⟩ := Option.map_eq_some_iff.mp done
  simp only [Prod.mk.injEq] at same
  exact ⟨flight, known, .inl ⟨same.1, same.2.1, _, same.2.2⟩⟩

/-- Whether nothing is left of a session: it is not registered, its workers were waited for, and its
sink was released, and was closed unless it was lost. -/
structure IsOver (settings : Settings) (schedule : List Move) (id : SessionId) : Prop where
  vacant : ((System.new settings).run schedule).registry.slot? id = none
  joined : ∀ worker ∈ ((System.new settings).run schedule).registry.workers,
    worker.session.id = id → worker.joined = true
  released : ∀ sink, ((System.new settings).run schedule).startIds[sink]? = some id →
    ∃ heard release,
      ((System.new settings).run schedule).registry.sinkEvents sink = heard ++ [release] ∧
        (release.delivery = .closed ∨
          release.delivery = .dropped ∧ (System.new settings).Lost schedule sink)

namespace System

variable {settings : Settings} {id : SessionId} {number : Nat}

/-- A stop that has returned took the session out of the table before, and is done with that. -/
theorem removes_of_returned {past : List Move} (returned : StopReturned settings past id number) :
    ∃ before move after later flight, past = before ++ move :: after ∧
      ((new settings).run before).Removes id number later move ∧
      ((new settings).run past).flights[number]? = some flight ∧ ¬ flight.call.Alters id ∧
      flight.todo <:+ later := by
  obtain ⟨flight, known, ⟨stops, complete, answer, reply⟩ |
    ⟨looks, before, move, after, later, split, removes, left⟩⟩ := returned
  · have idle : flight.todo = [] := List.isEmpty_iff.mp complete
    rcases stop_run settings past id number flight known stops with
      ⟨todo, -⟩ | ⟨-, missed⟩ | ⟨before, move, after, split, removes⟩
    · rw [todo] at idle
      cases idle
    · rw [reply] at missed
      cases missed
    · refine ⟨before, move, after, [], flight, split, removes, known, ?_, ?_⟩
      · rw [stops]
        exact fun alters => alters
      · exact idle.symm ▸ List.suffix_rfl
  · refine ⟨before, move, after, later, flight, split, removes, known, ?_, left⟩
    rcases looks with sweeps | ends
    · rw [sweeps]
      exact fun alters => alters
    · rw [ends]
      exact fun alters => alters

/-- A session that a call is about to take out of the table is registered. -/
theorem Removes.registered {system : System} {later : List Task} {move : Move}
    (removes : system.Removes id number later move) : system.registry.state? id ≠ none := by
  obtain ⟨slot, found⟩ := Option.ne_none_iff_exists'.mp removes.2.1
  rw [Registry.state?_of_slot? _ found]
  exact Option.some_ne_none _

section Removed

variable {before after : List Move} {move : Move} {later : List Task}
  (removes : ((new settings).run before).Removes id number later move)

include removes

/-- What a stop leaves is gone. -/
theorem gone_of_removes (more : List Move)
    (once : ((new settings).run (before ++ [move] ++ more)).startIds.count id ≤ 1) :
    ((new settings).run (before ++ [move])).IsGone id := by
  have grown := ((startIds_prefix_run (new settings) _ more).sublist.count_le id).trans once
  have step := step_move ((new settings).run before) move
  rw [run_concat] at grown ⊢
  have spent := spent_of_registered settings before id ((step.count_le id).trans grown)
    removes.registered
  exact ⟨removes.vacant, (step.spent spent grown).1⟩

/-- **Once the stop and the calls that were in progress have returned, no call has anything of the
session.** -/
theorem untouched_of_removes {flight : Flight} (more : List Move)
    (once : ((new settings).run (before ++ [move] ++ after ++ more)).startIds.count id ≤ 1)
    (known : ((new settings).run (before ++ [move] ++ after)).flights[number]? = some flight)
    (other : ¬ flight.call.Alters id) (left : flight.todo <:+ later)
    (settled : ∀ (index : Nat) (flight : Flight),
      index < ((new settings).run (before ++ [move] ++ after)).flights.length →
      ((new settings).run (before ++ [move] ++ after ++ more)).flights[index]? = some flight →
      flight.call.concerns id = true → flight.isOver = true) (index : Nat) :
    ¬ ((new settings).run (before ++ [move] ++ after ++ more)).Touches id index := by
  intro touches
  have atPast := ((startIds_prefix_run (new settings) _ more).sublist.count_le id).trans once
  have atStop := ((startIds_prefix_run (new settings) _ after).sublist.count_le id).trans atPast
  have atFirst :=
    ((startIds_prefix_run (new settings) before [move]).sublist.count_le id).trans atStop
  have spent := spent_of_registered settings before id atFirst removes.registered
  have goneStop := gone_of_removes removes after atPast
  have gonePast := gone_run goneStop after atPast
  have touchesPast := (gone_run gonePast.1 more once).2 index touches
  have firstStop := startIds_prefix_run (new settings) before [move]
  have stopPast := startIds_prefix_run (new settings) (before ++ [move]) after
  -- whoever has something of the session when it is stopped alters it
  have alters : ∀ {flight : Flight} {task : Task} {ids : List SessionId},
      ((new settings).run before).flights[index]? = some flight → task ∈ flight.todo →
      ((new settings).run before).startIds <+: ids → ids.count id ≤ 1 → task.Touches ids id →
      flight.call.Alters id := by
    intro flight task ids there member grown bounded touching
    exact alters_of_touches atFirst removes.registered there
      ⟨flight, task, there, member, touching.of_prefix grown bounded spent.2⟩
  obtain ⟨⟨answer, rfl⟩, -, first, found, next⟩ := removes
  by_cases same : index = number
  · -- the call that stopped the session has done with it
    subst same
    obtain ⟨moved, task, there, member, touching⟩ := touchesPast
    rw [known] at there
    cases there
    have inFirst : task ∈ first.todo := by
      rw [next]
      exact List.mem_cons_of_mem _ (left.subset member)
    obtain ⟨later, there, same, -⟩ := flights_run found ([.proceed index answer] ++ after)
    rw [← run_append, ← List.append_assoc, known] at there
    cases there
    exact other (same ▸ alters found inFirst (firstStop.trans stopPast) atPast touching)
  · -- the others have returned
    obtain ⟨moved, task, there, member, touching⟩ := gonePast.2 index touchesPast
    obtain ⟨between, inPast, -⟩ := flights_run there after
    obtain ⟨last, atEnd, call, -⟩ := flights_run there (after ++ more)
    rw [← run_append] at inPast
    rw [← run_append, ← List.append_assoc] at atEnd
    rw [run_concat, flights_proceed_ne _ same] at there
    have concerned : last.call.concerns id = true := by
      rw [call]
      exact Call.concerns_of_alters (alters there member firstStop atStop touching)
    have complete := settled index last (List.getElem?_eq_some_iff.mp inPast).1 atEnd concerned
    obtain ⟨ended, task, there, member, -⟩ := touches
    rw [atEnd] at there
    cases there
    rw [List.isEmpty_iff.mp complete] at member
    cases member

/-- **A launch that is in progress when its session is stopped ends with an error.** -/
theorem forfeits_of_removes {flight : Flight} {index : Nat} (more : List Move)
    (once : ((new settings).run (before ++ [move] ++ more)).startIds.count id ≤ 1)
    (known : ((new settings).run before).flights[index]? = some flight)
    (launches : flight.call.Launches id) (pending : flight.isOver = false) :
    ∃ moved, ((new settings).run (before ++ [move] ++ more)).flights[index]? = some moved ∧
      moved.call = flight.call ∧ moved.Forfeits id := by
  have atStop := ((startIds_prefix_run (new settings) _ more).sublist.count_le id).trans once
  have atFirst :=
    ((startIds_prefix_run (new settings) before [move]).sublist.count_le id).trans atStop
  have spent := spent_of_registered settings before id atFirst removes.registered
  have gone := gone_of_removes removes more once
  -- the session is admitted and not gone, so the launch is on its way to the worker
  have ends : EndsIn (fun last => last.Leads id flight.call) flight.todo := by
    rcases concludes_run settings before id atFirst flight (List.mem_of_getElem? known) launches
      with complete | ⟨first, last, split, passes, opens | leads | ⟨-, out⟩⟩
    · rw [Flight.isOver, complete] at pending
      cases pending
    · -- a call that may still have the session admitted is none that the session leaves
      have idle := (Nat.add_eq_zero_iff.mp spent.1).2
      have free := (openings id).ofFlights_eq_zero.mp idle flight (List.mem_of_getElem? known) last
        (by rw [split]; simp)
      rw [task_openings, opens] at free
      cases free
    · exact ⟨first, last, split, passes, leads⟩
    · exact absurd out.1 removes.registered
  obtain ⟨⟨answer, rfl⟩, -, first, found, next⟩ := removes
  have different : index ≠ number := by
    rintro rfl
    rw [found] at known
    cases known
    rw [next] at ends
    rcases ends.cases with ⟨passes, -⟩ | ⟨-, leads⟩
    · cases passes
    · cases leads
  have atStop : ((new settings).run (before ++ [.proceed number answer])).flights[index]? =
      some flight := by
    rw [run_concat, flights_proceed_ne _ different, known]
  exact forfeits_run gone atStop (.inr (ends.mono fun _ => .inl)) more once

end Removed

/-- **Of a session that is gone, and of which no call has anything, nothing is left.** -/
theorem isOver_of_untouched {schedule : List Move}
    (once : ((new settings).run schedule).startIds.count id ≤ 1)
    (gone : ((new settings).run schedule).IsGone id)
    (untouched : ∀ index, ¬ ((new settings).run schedule).Touches id index) :
    IsOver settings schedule id := by
  have joined := joined_of_untouched once gone.1 untouched
  refine ⟨Option.map_eq_none_iff.mp gone.1, fun worker member same => ?_, fun sink owner => ?_⟩
  · exact joined worker.standing (List.mem_map_of_mem member) same
  · have released := released_of_untouched owner gone.1 untouched joined
    have stream := stream_run settings schedule sink id owner
    rw [← List.append_nil (((new settings).run schedule).registry.sinkEvents sink)] at stream
    obtain ⟨-, heard, release, split, last⟩ := stream.last_of_released released
    refine ⟨heard, release, split, ?_⟩
    have listed : release ∈ ((new settings).run schedule).registry.sinkEvents sink := by
      rw [split]
      exact List.mem_append_right _ List.mem_cons_self
    obtain ⟨recorded, same⟩ := List.mem_filter.mp listed
    cases delivery : release.delivery with
    | closed => exact .inl rfl
    | message sent =>
      rw [delivery] at last
      cases last
    | dropped =>
      rcases dropped_run settings schedule release (List.mem_reverse.mp recorded) delivery with
        lost | ⟨other, found, twice⟩
      · exact .inr ⟨rfl, beq_iff_eq.mp same ▸ lost⟩
      · rw [beq_iff_eq.mp same, owner] at found
        cases found
        exact absurd (twice.trans once) (Nat.not_succ_le_self 1)

/-- **A stop is final.** Say that a call has stopped a session and has returned, and that the calls
on the session that were in progress then have returned as well. Then nothing is left of the
session, and whatever happens as long as it is not started again, its client is sent nothing more. A
launch that was in progress when the session was taken out of the table has ended with an error. -/
theorem stop_final (settings : Settings) (past more : List Move) (id : SessionId) (number : Nat)
    (once : ((new settings).run (past ++ more)).startIds.count id ≤ 1)
    (returned : StopReturned settings past id number)
    (settled : ∀ (index : Nat) (flight : Flight),
      index < ((new settings).run past).flights.length →
      ((new settings).run (past ++ more)).flights[index]? = some flight →
      flight.call.concerns id = true → flight.isOver = true) :
    (∀ rest, ((new settings).run (past ++ more ++ rest)).startIds.count id ≤ 1 →
      IsOver settings (past ++ more ++ rest) id ∧
        ∀ sink, ((new settings).run (past ++ more)).startIds[sink]? = some id →
          ((new settings).run (past ++ more ++ rest)).registry.sinkEvents sink =
            ((new settings).run (past ++ more)).registry.sinkEvents sink) ∧
      ∃ before move after later, past = before ++ move :: after ∧
        ((new settings).run before).Removes id number later move ∧
        ∀ (index : Nat) (flight : Flight),
          ((new settings).run before).flights[index]? = some flight →
          flight.call.Launches id → flight.isOver = false →
          ∃ ended cause, ((new settings).run (past ++ more)).flights[index]? = some ended ∧
            ended.isOver = true ∧ ended.reply = some (.error cause) ∧
            flight.call.Forfeits id cause := by
  obtain ⟨before, move, after, later, flight, split, removes, known, other, left⟩ :=
    removes_of_returned returned
  have whole : past = before ++ [move] ++ after := by rw [split]; simp
  rw [whole] at once known settled ⊢
  have gone := gone_of_removes removes (after ++ more) (by rw [← List.append_assoc]; exact once)
  have goneThen := (gone_run gone (after ++ more) (by rw [← List.append_assoc]; exact once)).1
  rw [← List.append_assoc] at goneThen
  have untouched := untouched_of_removes removes more once known other left settled
  refine ⟨fun rest bounded => ?_, before, move, after, later, by simp, removes,
    fun index flight there launches pending => ?_⟩
  · obtain ⟨goneNow, fewer⟩ := gone_run goneThen rest bounded
    refine ⟨isOver_of_untouched bounded goneNow fun index touches =>
      untouched index (fewer index touches), fun sink owner => ?_⟩
    have complete := isOver_of_untouched once goneThen untouched
    obtain ⟨heard, release, sent, last⟩ := complete.released sink owner
    obtain ⟨fresh, grown⟩ := sinkEvents_run (new settings) (before ++ [move] ++ after ++ more) rest
      sink
    have later : ((new settings).run (before ++ [move] ++ after ++ more ++ rest)).startIds[sink]? =
        some id := by
      obtain ⟨others, added⟩ :=
        startIds_prefix_run (new settings) (before ++ [move] ++ after ++ more) rest
      rw [← added, List.getElem?_append_left (List.getElem?_eq_some_iff.mp owner).1, owner]
    have stream := stream_run settings _ sink id later
    rw [grown] at stream
    have releases : release.delivery.releases = true := by
      rcases last with closed | ⟨dropped, -⟩
      · rw [closed]
        rfl
      · rw [dropped]
        rfl
    obtain ⟨silent, -⟩ := stream.last_of_released ⟨release, by rw [sent]; simp, releases⟩
    rw [grown, silent, List.append_nil]
  · obtain ⟨ended, found, same, forfeits⟩ := forfeits_of_removes removes (after ++ more)
      (by rw [← List.append_assoc]; exact once) there launches pending
    rw [← List.append_assoc] at found
    obtain ⟨between, inPast, -⟩ := flights_run there ([move] ++ after)
    rw [← run_append, ← List.append_assoc] at inPast
    have complete := settled index ended (List.getElem?_eq_some_iff.mp inPast).1 found
      (by rw [same]; exact Call.concerns_of_alters launches.alters)
    rcases forfeits with ⟨-, cause, reply, lost⟩ | ⟨first, last, split, -⟩
    · exact ⟨ended, cause, found, complete, reply, same ▸ lost⟩
    · rw [Flight.isOver, split] at complete
      cases first <;> cases complete

end System

/-- A session is stopped while it is being started. -/
def overtake : List Move :=
  let on (flight : Nat) : Move := .proceed flight (.ok ())
  [.begin (.start ⟨"s"⟩ loopRom 0), on 0, on 0, on 0, .begin (.session ⟨"s"⟩ .stop), on 1, on 1]

/-- The launch of the session goes on and finds that out. -/
def findOut : List Move :=
  let on (flight : Nat) : Move := .proceed flight (.ok ())
  [on 0, on 0, on 0, on 0, .work 0 (.answers (.ok ())), on 0, on 0, on 0]

namespace System

/-- The launch stops its worker itself, and nothing is left of the session. -/
theorem stop_final_overtake : IsOver Settings.default (overtake ++ findOut) ⟨"s"⟩ := by
  have quiet : ((new Settings.default).run (overtake ++ findOut)).isQuiet = true := by decide
  have final := stop_final Settings.default overtake findOut ⟨"s"⟩ 1 (by decide)
    (.of_reply (by decide))
    (fun _ flight _ found _ => List.all_eq_true.mp quiet flight (List.mem_of_getElem? found))
  have complete := (final.1 [] (by decide)).1
  rwa [List.append_nil] at complete

end System

/-- Whether a sink is closed in the end, or dropped because its client did not listen when a program
was announced. -/
def ClosedOrUnheard (settings : Settings) (past : List Move) (sink : SinkId) : Prop :=
  ∃ heard release,
    ((System.new settings).run past).registry.sinkEvents sink = heard ++ [release] ∧
      (release.delivery = .closed ∨ release.delivery = .dropped ∧
        ∃ before number cause after launch,
          past = before ++ .proceed number (.error cause) :: after ∧
          ((System.new settings).run before).task? (.proceed number (.error cause)) =
            some (.acknowledge launch) ∧ launch.sink = sink)

/-- Whether calls that are in progress when a session is taken out of the table do not find it, or
find that its client does not listen. -/
def NotFoundOrUnheard (settings : Settings) (past : List Move) (id : SessionId) (number : Nat)
    (call : Call) : Prop :=
  ∀ (before : List Move) (move : Move) (after : List Move) (later : List Task) (index : Nat)
    (flight : Flight), past = before ++ move :: after →
    ((System.new settings).run before).Removes id number later move →
    ((System.new settings).run before).flights[index]? = some flight → flight.call = call →
    flight.isOver = false →
    ∃ (ended : Flight) (cause : SessionError),
      ((System.new settings).run past).flights[index]? = some ended ∧
      ended.reply = some (.error cause) ∧
      (cause = .notFound id ∨ ∃ failure, cause = .sink failure)

/-- The worker of a session breaks off, and the session is stopped. -/
def breakOff : List Move :=
  let on (flight : Nat) : Move := .proceed flight (.ok ())
  [.begin (.start ⟨"s"⟩ loopRom 0), on 0, on 0, on 0, on 0, on 0, on 0,
    .work 0 (.answers (.ok ())), .work 0 .breaks,
    .begin (.session ⟨"s"⟩ .stop), on 1, on 1, on 1, on 1]

/-- A session that is being started is stopped, and then there is no thread for it. -/
def lackThread : List Move :=
  let on (flight : Nat) : Move := .proceed flight (.ok ())
  [.begin (.start ⟨"s"⟩ loopRom 0), on 0, on 0, on 0, on 0,
    .begin (.session ⟨"s"⟩ .stop), on 1, on 1, .proceed 0 (.error (.io "no thread")), on 0]

/-- A program that no machine has room for. -/
def largeRom : Rom := { loopRom with bytes := List.replicate (programLimit + 1) 0 }

/-- A session is stopped before a call to give it a large program looks at the program. -/
def replaceLate : List Move :=
  let on (flight : Nat) : Move := .proceed flight (.ok ())
  [.begin (.start ⟨"s"⟩ loopRom 0), on 0, on 0, on 0, on 0, on 0, on 0,
    .begin (.session ⟨"s"⟩ (.changeRom largeRom 0)), .begin (.session ⟨"s"⟩ .stop),
    on 2, on 2, .work 0 (.answers (.ok ())), on 2, on 2, on 2, on 1]

namespace System

/-- It is not so that the sink of a stopped session is closed, or dropped only because the client
did not listen, nor that launches fail only because the session is gone or the client does not
listen. -/
theorem exists_dropped_of_stop :
    (¬ ∀ settings past id number sink, ((new settings).run past).startIds.count id ≤ 1 →
      StopReturned settings past id number → ((new settings).run past).isQuiet = true →
      ((new settings).run past).startIds[sink]? = some id → ClosedOrUnheard settings past sink) ∧
    (¬ ∀ settings past id number rom seed, ((new settings).run past).startIds.count id ≤ 1 →
      StopReturned settings past id number → ((new settings).run past).isQuiet = true →
      NotFoundOrUnheard settings past id number (.start id rom seed)) ∧
    ¬ ∀ settings past id number rom seed, ((new settings).run past).startIds.count id ≤ 1 →
      StopReturned settings past id number → ((new settings).run past).isQuiet = true →
      NotFoundOrUnheard settings past id number (.session id (.changeRom rom seed)) := by
  refine ⟨fun closes => ?_, fun starts => ?_, fun replaces => ?_⟩
  · obtain ⟨heard, release, sent, last⟩ := closes Settings.default breakOff ⟨"s"⟩ 1 0
      (by decide +kernel) (.of_reply (by decide +kernel)) (by decide +kernel) (by decide +kernel)
    have dropped : (((new Settings.default).run breakOff).registry.sinkEvents 0).getLast?.map
        Event.delivery = some .dropped := by decide +kernel
    rw [sent, List.getLast?_concat, Option.map_some] at dropped
    rcases last with closed | ⟨-, before, number, cause, after, launch, split, -⟩
    · rw [closed] at dropped
      cases dropped
    · have member : Move.proceed number (.error cause) ∈ breakOff := by rw [split]; simp
      simp [breakOff] at member
  · obtain ⟨ended, cause, found, reply, which⟩ := starts Settings.default lackThread ⟨"s"⟩ 1
      loopRom 0 (by decide) (.of_reply (by decide)) (by decide)
      (lackThread.take 6) (.proceed 1 (.ok ())) (lackThread.drop 7) [] 0 _ rfl
      ⟨⟨_, rfl⟩, by decide, _, rfl, rfl⟩ rfl rfl rfl
    have failed : (((new Settings.default).run lackThread).flights[0]?.bind Flight.reply) =
        some (.error (.io (SinkError.io "no thread").message)) := by decide
    rw [found, Option.bind_some, reply] at failed
    cases failed
    rcases which with missed | ⟨failure, unheard⟩
    · cases missed
    · cases unheard
  · obtain ⟨ended, cause, found, reply, which⟩ := replaces Settings.default replaceLate ⟨"s"⟩ 2
      largeRom 0 (by decide +kernel) (.of_reply (by decide +kernel)) (by decide +kernel)
      (replaceLate.take 9) (.proceed 2 (.ok ())) (replaceLate.drop 10) [] 1 _ rfl
      ⟨⟨_, rfl⟩, by decide +kernel, _, rfl, rfl⟩ rfl rfl rfl
    have failed : (((new Settings.default).run replaceLate).flights[1]?.bind Flight.reply).any
        (fun reply => match reply with
          | .error (.machine _) => true
          | _ => false) = true := by decide +kernel
    rw [found, Option.bind_some, reply] at failed
    rcases which with rfl | ⟨failure, rfl⟩
    · cases failed
    · cases failed

end System

end Arcade
