/-
**What a client is sent.**

What was sent to a client agrees with the place where its sink is, whatever the tasks of calls and
the turns of workers are. A worker adds frames, or an error, to what was sent before it was set
going, and only the worker that has the sink does.

* `Agrees.worked`: what the turn of a worker adds to what was sent;
* `System.agrees_run`: what was sent agrees with the place where the sink is, at any time;
* `System.stream_run`: what a client is sent is a stream of programs, or a refusal.
-/

import Arcade.Proofs.Registry.Programs

namespace Arcade

/-! ### What a worker adds to what was sent -/

theorem Registry.sinkEvents_turn (registry : Registry) (number : WorkerId) (worker after : Worker)
    (deliveries : List Delivery) (sink : SinkId) :
    (registry.turn number worker after deliveries).sinkEvents sink =
      registry.sinkEvents sink ++
        if worker.sink = sink then
          deliveries.map fun delivery => (⟨sink, delivery, some number⟩ : Event)
        else [] := by
  simp only [sinkEvents, turn, List.reverse_append, List.reverse_reverse, List.filter_append]
  by_cases same : worker.sink = sink
  · rw [if_pos same, same]
    congr 1
    refine List.filter_eq_self.mpr fun event member => ?_
    obtain ⟨delivery, -, rfl⟩ := List.mem_map.mp member
    exact beq_self_eq_true sink
  · rw [if_neg same]
    congr 1
    refine List.filter_eq_nil_iff.mpr fun event member => ?_
    obtain ⟨delivery, -, rfl⟩ := List.mem_map.mp member
    simpa using same

section Worked

variable {launched : WorkerId → List Event → Prop} {sink : SinkId} {id : SessionId}
  {system : System} {number : WorkerId} {worker after : Worker} {deliveries : List Delivery}

/-- A turn in which nothing is sent. -/
theorem Agrees.worked_quiet (agrees : Agrees launched sink id system)
    (known : system.registry.worker? number = some worker)
    (same : (system.registry.turn number worker after deliveries).sinkEvents sink =
      system.registry.sinkEvents sink)
    (fits : after.standing.FitsSent launched sink id (system.registry.sinkEvents sink) number) :
    Agrees launched sink id
      { system with registry := system.registry.turn number worker after deliveries } where
  tasks index flight found := by
    simp only [same]
    exact agrees.tasks index flight found
  slots other found := by
    simp only [same]
    exact agrees.slots other found
  workers index standing found := by
    simp only [same]
    rcases Registry.standings_turn_cases known found with ⟨rfl, rfl⟩ | ⟨-, there⟩
    · exact fits
    · exact agrees.workers index standing there
  stream := by
    simp only [same]
    exact agrees.stream

/-- A turn of a worker that has the sink. -/
theorem Agrees.worked_alone (one : InOnePlace sink system)
    (closes : ∀ flight ∈ system.flights, TellsThenCloses flight.todo)
    (known : system.registry.worker? number = some worker)
    (bears : worker.standing.bears sink = true)
    (fits : after.standing.FitsSent launched sink id
      ((system.registry.turn number worker after deliveries).sinkEvents sink) number)
    (stream : Stream launched sink id
      ((system.registry.turn number worker after deliveries).sinkEvents sink)) :
    Agrees launched sink id
      { system with registry := system.registry.turn number worker after deliveries } := by
  obtain ⟨hands, slots, workers⟩ :=
    alone_of_worker one (system.registry.standings_getElem? known) bears
  refine ⟨fun index flight found other member => ?_, fun other found => absurd found (slots other),
    fun index standing found => ?_, stream⟩
  · have inFlight := List.mem_of_getElem? found
    exact Task.fitsSent_of_not_carries (hands flight inFlight other member)
      ((closes flight inFlight).silent (hands flight inFlight) other member)
  · rcases Registry.standings_turn_cases known found with ⟨rfl, rfl⟩ | ⟨other, there⟩
    · exact fits
    · intro impossible
      rw [workers index standing there other] at impossible
      cases impossible

/-- A turn of the worker that has the sink: it adds to what was sent, or ends, or breaks off. -/
theorem Agrees.worked_bearing (one : InOnePlace sink system)
    (closes : ∀ flight ∈ system.flights, TellsThenCloses flight.todo)
    (agrees : Agrees launched sink id system)
    (known : system.registry.worker? number = some worker)
    (bears : worker.standing.bears sink = true) (turn : worker.Turn after deliveries) :
    Agrees launched sink id
      { system with registry := system.registry.turn number worker after deliveries } := by
  have mine : worker.sink = sink := (of_decide_eq_true bears).1
  have fits := agrees.workers number worker.standing (system.registry.standings_getElem? known)
  have sent := system.registry.sinkEvents_turn number worker after deliveries sink
  rw [if_pos mine] at sent
  have plays : worker.phase ≠ .ended →
      Plays launched sink id number (system.registry.sinkEvents sink) := by
    intro alive
    have heard := fits bears
    rw [if_neg (show worker.standing.phase ≠ .ended from alive)] at heard
    exact heard
  -- where nothing is sent, it is enough that what was sent fits the worker's new phase
  have quiet : deliveries = [] →
      after.standing.FitsSent launched sink id (system.registry.sinkEvents sink) number →
      Agrees launched sink id
        { system with registry := system.registry.turn number worker after deliveries } := by
    rintro rfl heard
    exact agrees.worked_quiet known (sent.trans (List.append_nil _)) heard
  have ending : ∀ {phase}, after.standing = worker.standing.turned .ended →
      worker.phase = phase → phase ≠ .ended →
      after.standing.FitsSent launched sink id (system.registry.sinkEvents sink) number := by
    intro phase next was alive _
    rw [if_pos (by rw [next]; rfl)]
    exact (plays (was ▸ alive)).programs
  cases turn with
  | idle => exact quiet rfl fits
  | stopped was next => exact quiet rfl (ending next was (by simp))
  | declined was next => exact quiet rfl (ending next was (by simp))
  | unheard was next => exact quiet rfl (ending next was (by simp))
  | ran was next =>
    refine quiet rfl fun _ => ?_
    rw [if_neg (by rw [next]; simp [Standing.turned])]
    exact plays (by simp [was])
  | failed was next =>
    refine quiet rfl fun _ => ?_
    rw [if_neg (by rw [next]; simp [Standing.turned])]
    exact plays (by simp [was])
  | @shown _ pixels was next =>
    have further := (plays (by simp [was])).shown pixels
    refine Agrees.worked_alone one closes known bears (fun _ => ?_) ?_
    · rw [if_neg (by rw [next]; simp [Standing.turned]), sent]
      exact further
    · rw [sent]
      exact further.programs.stream
  | @told _ cause was next =>
    have whole := (plays (by simp [was])).failed cause.message
    refine Agrees.worked_alone one closes known bears (fun _ => ?_) ?_
    · rw [if_pos (by rw [next]; rfl), sent]
      exact whole
    · rw [sent]
      exact whole.stream
  | broke was next =>
    have alive : worker.phase ≠ .ended := by
      intro complete
      rw [Worker.isFinished, complete] at was
      cases was
    refine Agrees.worked_alone one closes known bears (fun impossible => ?_) ?_
    · rw [next] at impossible
      simp [Standing.turned, Standing.bears] at impossible
    · rw [sent]
      exact Programs.released (.inl (plays alive).programs) _ rfl

/-- A worker that does not have the sink sends nothing to it, and does not get it back. -/
theorem Agrees.worked_other (agrees : Agrees launched sink id system)
    (known : system.registry.worker? number = some worker) (settles : worker.standing.Settles)
    (lacks : worker.standing.bears sink ≠ true) (turn : worker.Turn after deliveries) :
    Agrees launched sink id
      { system with registry := system.registry.turn number worker after deliveries } := by
  have sent := system.registry.sinkEvents_turn number worker after deliveries sink
  have other : worker.isFinished = false → worker.sink ≠ sink := by
    intro running same
    refine lacks (decide_eq_true ⟨same, ?_, ?_⟩)
    · cases joined : worker.joined with
      | false => exact joined
      | true =>
        have complete : worker.isFinished = true := settles joined
        rw [running] at complete
        cases complete
    · intro lost
      have lost : worker.phase = .broken := lost
      rw [Worker.isFinished, lost] at running
      cases running
  have quiet : worker.isFinished = false →
      Agrees launched sink id
        { system with registry := system.registry.turn number worker after deliveries } := by
    intro running
    rw [if_neg (other running), List.append_nil] at sent
    refine agrees.worked_quiet known sent fun has => ?_
    rw [turn.standing_eq] at has
    exact absurd (of_decide_eq_true has).1 (other running)
  cases turn with
  | idle =>
    refine agrees.worked_quiet known ?_
      (agrees.workers number worker.standing (system.registry.standings_getElem? known))
    rw [sent]
    simp
  | broke was => exact quiet was
  | _ was =>
    refine quiet ?_
    rw [Worker.isFinished, was]
    rfl

/-- **What a worker's turn does to what was sent.** -/
theorem Agrees.worked (one : InOnePlace sink system)
    (closes : ∀ flight ∈ system.flights, TellsThenCloses flight.todo)
    (agrees : Agrees launched sink id system)
    (known : system.registry.worker? number = some worker) (settles : worker.standing.Settles)
    (turn : worker.Turn after deliveries) :
    Agrees launched sink id
      { system with registry := system.registry.turn number worker after deliveries } := by
  by_cases bears : worker.standing.bears sink = true
  · exact agrees.worked_bearing one closes known bears turn
  · exact agrees.worked_other known settles bears turn

end Worked

/-! ### Over a schedule -/

open Registry in
/-- Only a call that has a sink, or that finds it in a slot, sends something to it. -/
theorem Task.Yields.sinkEvents_eq {registry : Registry} {task : Task} {progress : Progress}
    (yields : task.Yields registry progress) {sink : SinkId} (hands : task.carries sink = false)
    (silent : ∀ reason, task ≠ .tell sink reason)
    (slots : ∀ id, registry.state? id ≠ some (.unloaded sink)) :
    progress.registry.sinkEvents sink = registry.sinkEvents sink := by
  have vacated : ∀ id, (registry.vacate id).sinkEvents sink = registry.sinkEvents sink := by
    intro id
    rw [sinkEvents_vacate, if_neg (slots id), List.append_nil]
  have delivered : ∀ other delivery, other ≠ sink →
      (registry.deliver other delivery).sinkEvents sink = registry.sinkEvents sink := by
    intro other delivery different
    rw [sinkEvents_cons (registry.events_deliver other delivery), if_neg different, List.append_nil]
  cases yields with
  | @told other reason =>
    exact delivered _ _ fun same => silent reason (congrArg (Task.tell · reason) same)
  | closed => exact delivered _ _ (of_decide_eq_false hands)
  | acknowledged => exact delivered _ _ (of_decide_eq_false hands)
  | unacknowledged => exact delivered _ _ (of_decide_eq_false hands)
  | unspawned => exact delivered _ _ (of_decide_eq_false hands)
  | withdrawn => exact vacated _
  | published => exact vacated _
  | parked => exact vacated _
  | bereft => exact vacated _
  | reaped => exact sinkEvents_congr registry.events_reaped sink
  | halted _ _ events => exact sinkEvents_congr events sink
  | watched _ _ _ events => exact sinkEvents_congr events sink
  | _ => rfl

open Registry in
theorem Task.Yields.tells {registry : Registry} {task : Task} {progress : Progress}
    (yields : task.Yields registry progress) : TellsThenCloses progress.todo := by
  -- a list without a telling task
  have mute : ∀ todo : List Task, (∀ next ∈ todo, ∀ sink reason, next ≠ .tell sink reason) →
      TellsThenCloses todo := by
    intro todo none
    induction todo with
    | nil => trivial
    | cons first rest ih =>
      have later := ih fun next member => none next (List.mem_cons_of_mem _ member)
      cases first with
      | tell sink reason => exact absurd rfl (none _ List.mem_cons_self sink reason)
      | _ => exact later
  cases yields with
  | unfit => exact ⟨rfl, trivial⟩
  | rejected => exact ⟨rfl, trivial⟩
  | reaped =>
    refine mute _ fun next member => ?_
    obtain ⟨entry, -, rfl⟩ := List.mem_map.mp member
    exact fun _ _ same => by cases same
  | @ended id number custom => cases custom <;> exact mute _ (by simp [proceed, Custody.tasks])
  | @broken id number custom => cases custom <;> exact mute _ (by simp [proceed, Custody.tasks])
  | @parked id sink purpose => cases purpose <;> exact mute _ (by simp [proceed, Unloading.tasks])
  | @unparked id sink purpose => cases purpose <;> exact mute _ (by simp [proceed, Unloading.tasks])
  | @vanished id purpose => cases purpose <;> exact mute _ (by simp [proceed, Unloading.tasks])
  | @removed id slot =>
    simp only [proceed]
    cases slot.state <;> exact mute _ (by simp [SlotState.releaseTasks])
  | watched _ _ _ _ _ todo =>
    refine mute _ fun next member sink reason told => ?_
    obtain watching | ⟨_, same⟩ | ⟨_, same⟩ := todo next member
    · rw [told] at watching
      cases watching
    · rw [told] at same
      cases same
    · rw [told] at same
      cases same
  | _ => exact mute _ (by simp [proceed, refuse, Registry.answer])

/-- A call tells nobody anything when it is begun. -/
theorem Call.tells (call : Call) (given : SinkId) : TellsThenCloses (call.tasks given) := by
  have begins := call.begins given
  generalize call.tasks given = todo at begins ⊢
  cases begins <;> exact trivial

/-- A call that is begun has at most a sink that nothing was sent to. -/
theorem Call.fitsSent {launched : WorkerId → List Event → Prop} {sink : SinkId} {id : SessionId}
    {events : List Event} (call : Call) {given : SinkId} (fresh : given = sink → events = []) :
    ∀ task ∈ call.tasks given, task.FitsSent launched sink id events := by
  have begins := call.begins given
  generalize call.tasks given = todo at begins ⊢
  cases begins with
  | start => simpa [Task.FitsSent] using fresh
  | _ => simp [Task.FitsSent]

namespace System

/-- Whether in the course of a schedule a worker was set going for the program that a client had
just been told of, when it had been sent the given events. -/
def Launched (system : System) (schedule : List Move) (sink : SinkId) (worker : WorkerId)
    (heard : List Event) : Prop :=
  ∃ before move after launch, schedule = before ++ move :: after ∧
    (system.run before).task? move = some (.spawn launch) ∧ launch.sink = sink ∧
    (system.run before).registry.workers.length = worker ∧
    (system.run (before ++ [move])).registry.worker? worker =
      some ((system.run before).registry.launched launch) ∧
    (system.run before).registry.sinkEvents sink = heard

theorem Launched.mono {system : System} {schedule : List Move} {sink : SinkId} {worker : WorkerId}
    {heard : List Event} (launched : system.Launched schedule sink worker heard) (move : Move) :
    system.Launched (schedule ++ [move]) sink worker heard := by
  obtain ⟨before, next, after, launch, split, rest⟩ := launched
  exact ⟨before, next, after ++ [move], launch, by rw [split]; simp, rest⟩

/-- Whoever is told something has its sink closed next, at any time. -/
theorem tells_run (settings : Settings) (schedule : List Move) :
    ∀ flight ∈ ((new settings).run schedule).flights, TellsThenCloses flight.todo := by
  refine run_induction (new settings) (fun _ system =>
    ∀ flight ∈ system.flights, TellsThenCloses flight.todo) (fun _ member => by cases member)
    (fun schedule move before step => ?_) schedule
  generalize (new settings).run schedule = system at before step
  generalize system.move move = after at step
  cases step with
  | stayed => exact before
  | waited => exact before
  | worked => exact before
  | @begun call =>
    intro flight member
    rcases List.mem_append.mp member with old | new
    · exact before flight old
    · rw [List.mem_singleton.mp new]
      exact call.tells _
  | @done number answer flight task later progress known next _ yields =>
    intro other member
    rcases List.mem_or_eq_of_mem_set member with old | rfl
    · exact before other old
    · have whole := before flight (List.mem_of_getElem? known)
      rw [next] at whole
      exact yields.tells.append whole.tail

/-- Each sink is in one place at most, at any time. -/
theorem inOnePlace_run (settings : Settings) (schedule : List Move) (sink : SinkId) :
    InOnePlace sink ((new settings).run schedule) := by
  rw [InOnePlace, custody_eq]
  exact Bool.toNat_le _

/-- Nobody has a sink that was not handed in yet. -/
theorem nobody_of_fresh (settings : Settings) (schedule : List Move) (sink : SinkId)
    (fresh : ((new settings).run schedule).startIds.length ≤ sink) :
    (∀ flight ∈ ((new settings).run schedule).flights, ∀ task ∈ flight.todo,
        task.carries sink = false) ∧
      (∀ id, ((new settings).run schedule).registry.state? id ≠ some (.unloaded sink)) ∧
      ∀ standing ∈ ((new settings).run schedule).registry.standings,
        standing.bears sink = false := by
  have counted := custody_eq settings schedule sink
  rw [(labelled_run settings schedule).sinks, decide_eq_false (Nat.not_lt.mpr fresh),
    Bool.toNat_false] at counted
  generalize (new settings).run schedule = system at counted
  rw [Census.total] at counted
  exact ⟨carries_eq_false (by omega), state?_ne_unloaded (by omega), bears_eq_false (by omega)⟩

/-- Nothing was sent to a sink that was not handed in yet. -/
theorem sinkEvents_of_fresh (settings : Settings) (schedule : List Move) (sink : SinkId) :
    ((new settings).run schedule).startIds.length ≤ sink →
      ((new settings).run schedule).registry.sinkEvents sink = [] := by
  refine run_induction (new settings) (fun _ system =>
    system.startIds.length ≤ sink → system.registry.sinkEvents sink = []) (fun _ => rfl)
    (fun schedule move before step fresh => ?_) schedule
  have nobody := nobody_of_fresh settings schedule sink
  have tells := tells_run settings schedule
  have labelled := labelled_run settings schedule
  generalize (new settings).run schedule = system at before step nobody tells labelled fresh
  generalize system.move move = after at step fresh
  cases step with
  | stayed => exact before fresh
  | waited => exact before fresh
  | @begun call =>
    rw [startIds_begin, List.length_append] at fresh
    exact before (Nat.le_of_add_right_le fresh)
  | @done number answer flight task later progress known next _ yields =>
    have fresh : system.startIds.length ≤ sink := by
      rw [← startIds_done known progress later]
      exact fresh
    obtain ⟨hands, slots, -⟩ := nobody fresh
    have inFlight := List.mem_of_getElem? known
    have member : task ∈ flight.todo := by rw [next]; exact List.mem_cons_self
    rw [← before fresh]
    exact yields.sinkEvents_eq (hands flight inFlight task member)
      ((tells flight inFlight).silent (hands flight inFlight) task member) slots
  | @worked number reaction worker after deliveries known turn =>
    have fresh : system.startIds.length ≤ sink := fresh
    have named := labelled.registry.workers worker.standing
      (List.mem_of_getElem? (system.registry.standings_getElem? known))
    have other : worker.sink ≠ sink := by
      intro same
      have inside := (List.getElem?_eq_some_iff.mp named).1
      exact absurd (Nat.lt_of_lt_of_le inside fresh) (by simp [Worker.standing, same])
    rw [Registry.sinkEvents_turn, if_neg other, List.append_nil, before fresh]

/-- A call that is begun changes nothing for those who were sent something. A client whose sink it
hands in was sent nothing yet. -/
theorem agrees_begun {launched : WorkerId → List Event → Prop} {sink : SinkId} {id : SessionId}
    {system : System} (agrees : Agrees launched sink id system) (call : Call)
    (fresh : system.registry.sinks = sink → system.registry.sinkEvents sink = []) :
    Agrees launched sink id (system.begin call) where
  tasks number flight found := by
    rcases Nat.lt_or_ge number system.flights.length with old | new
    · simp only [begin, List.getElem?_append_left old] at found
      exact agrees.tasks number flight found
    · simp only [begin, List.getElem?_append_right new] at found
      rw [List.mem_singleton.mp (List.mem_of_getElem? found)]
      exact call.fitsSent fresh
  slots := agrees.slots
  workers := agrees.workers
  stream := agrees.stream

/-- **What was sent agrees with the place where the sink is, at any time.** -/
theorem agrees_run (settings : Settings) (schedule : List Move) (sink : SinkId)
    (id : SessionId) :
    ((new settings).run schedule).startIds[sink]? = some id →
      Agrees ((new settings).Launched schedule sink) sink id ((new settings).run schedule) := by
  refine run_induction (new settings) (fun schedule system =>
    system.startIds[sink]? = some id →
      Agrees ((new settings).Launched schedule sink) sink id system) (fun found => by cases found)
    (fun schedule move before step owner => ?_) schedule
  have nobody := nobody_of_fresh settings schedule sink
  have unsent := sinkEvents_of_fresh settings schedule sink
  have tells := tells_run settings schedule
  have labelled := labelled_run settings schedule
  have one := inOnePlace_run settings schedule sink
  have settles := settles_run settings schedule
  have joiners := placed_run settings schedule
  have grows : ∀ worker heard, (new settings).Launched schedule sink worker heard →
      (new settings).Launched (schedule ++ [move]) sink worker heard :=
    fun _ _ launched => launched.mono move
  -- a worker that is set going now is one of those that the later stream knows
  have spawns : ∀ launch, ((new settings).run schedule).task? move = some (.spawn launch) →
      launch.sink = sink →
      ((new settings).run (schedule ++ [move])).registry.worker?
          ((new settings).run schedule).registry.workers.length =
        some (((new settings).run schedule).registry.launched launch) →
      (new settings).Launched (schedule ++ [move]) sink
        ((new settings).run schedule).registry.workers.length
        (((new settings).run schedule).registry.sinkEvents sink) :=
    fun launch next mine known => ⟨schedule, move, [], launch, rfl, next, mine, rfl, known, rfl⟩
  rw [run_concat] at spawns
  generalize (new settings).run schedule = system at *
  generalize system.move move = after at *
  cases step with
  | stayed => exact (before owner).mono grows
  | waited =>
    have agrees := (before owner).mono grows
    exact ⟨agrees.tasks, agrees.slots, agrees.workers, agrees.stream⟩
  | @begun call =>
    rw [startIds_begin] at owner
    rcases Nat.lt_or_ge sink system.startIds.length with old | new
    · rw [List.getElem?_append_left old] at owner
      refine agrees_begun ((before owner).mono grows) call fun fresh => ?_
      rw [← fresh, labelled.sinks] at old
      exact absurd old (Nat.lt_irrefl _)
    · obtain ⟨hands, slots, workers⟩ := nobody new
      refine agrees_begun ⟨fun number flight found task member => ?_,
        fun other found => absurd found (slots other), fun number standing found bears => ?_, ?_⟩
        call fun _ => unsent new
      · have inFlight := List.mem_of_getElem? found
        exact Task.fitsSent_of_not_carries (hands flight inFlight task member)
          ((tells flight inFlight).silent (hands flight inFlight) task member)
      · rw [workers standing (List.mem_of_getElem? found)] at bears
        cases bears
      · rw [unsent new]
        exact Programs.nothing.stream
  | @done number answer flight task later progress known next _ yields =>
    have owner : system.startIds[sink]? = some id := by
      rw [← startIds_done known progress later]
      exact owner
    have member : task ∈ flight.todo := by rw [next]; exact List.mem_cons_self
    refine (before owner).done grows one tells
      (labelled.tasks flight (List.mem_of_getElem? known) task member) owner known next yields
      (waits_eq_zero_of_join known next joiners) fun launch same mine there => ?_
    refine spawns launch ?_ mine there
    rw [task?_proceed known next, same]
  | @worked number reaction worker after deliveries known turn =>
    have settled := settles worker.standing
      (List.mem_of_getElem? (system.registry.standings_getElem? known))
    exact ((before owner).mono grows).worked one tells known settled turn

/-- **What a client is sent**: programs, each of them announced, shown by the worker that was set
going for it, and perhaps ended by an error, or else a refusal. After its sink was released it is
sent nothing. -/
theorem stream_run (settings : Settings) (schedule : List Move) (sink : SinkId) (id : SessionId)
    (owner : ((new settings).run schedule).startIds[sink]? = some id) :
    Stream ((new settings).Launched schedule sink) sink id
      (((new settings).run schedule).registry.sinkEvents sink) :=
  (agrees_run settings schedule sink id owner).stream

end System

/-- A session is started, shows one frame, and is stopped. -/
def showOnce : List Move :=
  let on (flight : Nat) : Move := .proceed flight (.ok ())
  let worker : Move := .work 0 (.answers (.ok ()))
  [.begin (.start ⟨"s"⟩ loopRom 0), on 0, on 0, on 0, on 0, on 0, on 0, worker, worker,
    .begin (.session ⟨"s"⟩ .stop), on 1, on 1, worker, on 1, on 1, on 1]

namespace System

/-- The client is told that the program starts, gets the frame of the worker, and its sink is
closed. -/
theorem stream_run_showOnce :
    ((((new Settings.default).run showOnce).registry.sinkEvents 0).map fun event =>
        (event.worker, event.delivery.releases)) =
          [(none, false), (some 0, false), (none, true)] ∧
      Stream ((new Settings.default).Launched showOnce 0) 0 ⟨"s"⟩
        (((new Settings.default).run showOnce).registry.sinkEvents 0) :=
  ⟨by decide +kernel, stream_run Settings.default showOnce 0 ⟨"s"⟩ (by decide +kernel)⟩

end System

end Arcade
