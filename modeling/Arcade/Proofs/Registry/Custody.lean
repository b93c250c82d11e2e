/-
**Who has a sink.**

A sink is handed over all the time: from the call that starts a session to its worker, from there to
the call that waits for the worker's end, to the slot of an unloaded session, and so on. Wherever it
is, it is there alone, and in the end it is released: closed, or dropped. So the places of a sink
are counted, like those of a worker.

* `Task.Yields.hands_over`: what a task does to the places of a sink;
* `System.custody_eq`: each sink that was handed in is in one place, or was released, at any time.
-/

import Arcade.Proofs.Registry.Attendance

namespace Arcade

/-! ### Where a sink is -/

/-- Whether a task has a sink to pass on or to close. -/
def Task.carries (sink : SinkId) : Task → Bool
  | .build _ _ _ held | .close held | .park _ (some held) _ => held = sink
  | .reserve launch | .acknowledge launch | .spawn launch => launch.sink = sink
  | _ => false

/-- The slots and the calls that have a sink. -/
def custody (sink : SinkId) : Census where
  slot _ state := (decide (state = .unloaded sink)).toNat
  task task := (task.carries sink).toNat

/-- Whether a worker has a sink: nobody took it over, and it is not lost. -/
def Standing.bears (sink : SinkId) (standing : Standing) : Bool :=
  standing.sink = sink ∧ standing.joined = false ∧ standing.phase ≠ .broken

/-- How many workers have a sink. -/
def bearers (standings : List Standing) (sink : SinkId) : Nat :=
  standings.countP (Standing.bears sink)

/-- Whether a delivery is the last one of its sink. -/
def Delivery.releases : Delivery → Bool
  | .closed | .dropped => true
  | .message _ => false

/-- How often a sink was released. -/
def releases (events : List Event) (sink : SinkId) : Nat :=
  events.countP fun event => event.sink = sink && event.delivery.releases

theorem toNat_eq_ite (value : Bool) : value.toNat = if value then 1 else 0 := by
  cases value <;> rfl

section Tasks

variable (sink : SinkId)

@[simp] theorem slot_custody (id : SessionId) (state : SlotState) :
    (custody sink).slot id state = (decide (state = .unloaded sink)).toNat := rfl

@[simp] theorem task_custody (task : Task) :
    (custody sink).task task = (task.carries sink).toNat := rfl

/-- A sink that is in a slot counts in the table. -/
theorem one_le_ofStates_custody {sink : SinkId} {registry : Registry} {id : SessionId}
    (there : registry.state? id = some (.unloaded sink)) :
    1 ≤ (custody sink).ofStates registry.states := by
  have bound := (custody sink).ofSlot_le registry id
  rw [(custody sink).ofSlot_of_state there, slot_custody, decide_eq_true rfl,
    Bool.toNat_true] at bound
  exact bound

/-- If a sink does not count in the table, it is in no slot. -/
theorem state?_ne_unloaded {sink : SinkId} {registry : Registry}
    (none : (custody sink).ofStates registry.states = 0) (id : SessionId) :
    registry.state? id ≠ some (.unloaded sink) := fun there =>
  Nat.not_succ_le_zero _ (none ▸ one_le_ofStates_custody there)

/-- If a sink does not count among the calls, no task has it. -/
theorem carries_eq_false {sink : SinkId} {flights : List Flight}
    (none : (custody sink).ofFlights flights = 0) :
    ∀ flight ∈ flights, ∀ task ∈ flight.todo, task.carries sink = false :=
  fun flight inFlight task member =>
    Bool.toNat_eq_zero.mp ((custody sink).ofFlights_eq_zero.mp none flight inFlight task member)

/-- If a sink does not count among the workers, no worker has it. -/
theorem bears_eq_false {sink : SinkId} {standings : List Standing}
    (none : bearers standings sink = 0) : ∀ standing ∈ standings, standing.bears sink = false :=
  fun standing member => Bool.eq_false_iff.mpr (List.countP_eq_zero.mp none standing member)

@[simp] theorem releases_cons (event : Event) (events : List Event) :
    releases (event :: events) sink =
      releases events sink + (event.sink = sink && event.delivery.releases).toNat := by
  simp [releases, List.countP_cons, toNat_eq_ite]

/-- A standing is exchanged for another. -/
theorem bearers_set {standings : List Standing} {index : Nat} {standing : Standing}
    (found : standings[index]? = some standing) (moved : Standing) :
    bearers (standings.set index moved) sink + (standing.bears sink).toNat =
      bearers standings sink + (moved.bears sink).toNat := by
  unfold bearers
  induction standings generalizing index with
  | nil => cases found
  | cons first rest ih =>
    cases index with
    | zero =>
      cases found
      simp [List.countP_cons, toNat_eq_ite]
      omega
    | succ index =>
      have exchanged := ih (by simpa using found)
      simp only [List.set_cons_succ, List.countP_cons]
      omega

theorem bearers_append (standings : List Standing) (standing : Standing) :
    bearers (standings ++ [standing]) sink =
      bearers standings sink + (standing.bears sink).toNat := by
  simp [bearers, List.countP_append, List.countP_cons, toNat_eq_ite]

/-- Giving a slot up drops the sink that is in it. -/
theorem releases_vacate (registry : Registry) (id : SessionId) :
    releases (registry.vacate id).events sink =
      releases registry.events sink + (custody sink).ofSlot registry id := by
  unfold Registry.vacate Census.ofSlot Registry.state?
  cases registry.slot? id with
  | none => rfl
  | some slot =>
    cases held : slot.state with
    | running worker => simp [Registry.abandon, held]
    | unloaded other =>
      by_cases same : other = sink <;>
        simp [Registry.abandon, Registry.deliver, Delivery.releases, held, same]
    | pending => simp [Registry.abandon, held]

/-- Whoever took a worker's sink over passes it on. -/
theorem ofTasks_custody_custody (id : SessionId) (held : Option SinkId) (custom : Custody) :
    (custody sink).ofTasks (Registry.Custody.tasks id held custom) =
      (decide (held = some sink)).toNat := by
  cases custom <;> cases held <;> simp [Registry.Custody.tasks, Task.carries]

theorem ofTasks_custody_unloading (id : SessionId) (purpose : Unloading) :
    (custody sink).ofTasks (Registry.Unloading.tasks id purpose) = 0 := by
  cases purpose <;> rfl

/-- Whoever releases a slot takes over the sink that is in it. -/
theorem ofTasks_custody_release (id : SessionId) (state : SlotState) :
    (custody sink).ofTasks (Registry.SlotState.releaseTasks id state) =
      (custody sink).slot id state := by
  cases state with
  | running worker => rfl
  | unloaded held => by_cases same : held = sink <;>
      simp [Registry.SlotState.releaseTasks, Task.carries, same]
  | pending => rfl

theorem ofTasks_custody_of_watched {todo : List Task}
    (harmless : ∀ next ∈ todo,
      next.watches = true ∨ (∃ id, next = .remove id) ∨ ∃ reply, next = .answer reply) :
    (custody sink).ofTasks todo = 0 := by
  rw [Census.ofTasks_eq_zero]
  intro next member
  obtain watching | ⟨_, rfl⟩ | ⟨_, rfl⟩ := harmless next member
  · cases next <;> first | rfl | cases watching
  · rfl
  · rfl

open Registry in
/-- **What a task does to the places of a sink**: it passes the sink on or releases it. A worker
whose end is waited for still has its sink. -/
theorem Task.Yields.hands_over {registry : Registry} {task : Task} {progress : Progress}
    (yields : task.Yields registry progress)
    (awaited : ∀ id number custom, task = .join id number custom →
      waits registry.standings number = 0) :
    (custody sink).ofStates progress.registry.states + (custody sink).ofTasks progress.todo +
        bearers progress.registry.standings sink + releases progress.registry.events sink =
      (custody sink).ofStates registry.states + (custody sink).task task +
        bearers registry.standings sink + releases registry.events sink := by
  -- a worker whose end is waited for was not waited for before
  have unjoined : ∀ id number custom worker, task = .join id number custom →
      registry.worker? number = some worker → worker.joined = false := by
    intro id number custom worker join known
    have free := awaited id number custom join
    rw [waits, registry.standings_getElem? known, Option.any_some] at free
    exact Bool.toNat_eq_zero.mp free
  cases yields with
  | reaped =>
    have left := (custody sink).ofStates_reaped registry
    have idle : (custody sink).ofTasks
        (registry.finished.map fun entry => .halt entry.1 entry.2 .close) = 0 := by
      rw [Census.ofTasks_eq_zero]
      intro next member
      obtain ⟨entry, -, rfl⟩ := List.mem_map.mp member
      rfl
    simpa [proceed, idle, events_reaped, carries] using left
  | @admitted launch room vacant =>
    have put := (custody sink).ofStates_putSlot registry launch.id ⟨registry.now, .pending⟩
    have gone : registry.state? launch.id = none := by rw [state?, vacant]; rfl
    rw [(custody sink).ofSlot_of_gone gone] at put
    simp [proceed, carries] at put ⊢
    omega
  | @withdrawn kind id cause =>
    have taken := (custody sink).ofStates_forget registry id
    have dropped := releases_vacate sink registry id
    simp [refuse, Registry.answer, carries] at taken ⊢
    omega
  | @spawned launch =>
    simp [proceed, carries, bearers_append, launched, Worker.new, Worker.standing, Standing.bears,
      states]
    omega
  | @published id worker slot there =>
    have put := (custody sink).ofStates_putSlot registry id ⟨registry.now, .running worker⟩
    have dropped := releases_vacate sink registry id
    simp [Registry.answer, carries] at put ⊢
    omega
  | @halted id worker custom stopped same standings events =>
    simp [proceed, carries, states_of_table _ same, standings, events]
  | @ended id joined custom worker known complete =>
    have free := unjoined id joined custom worker rfl known
    have noted := bearers_set sink (registry.standings_getElem? known) worker.standing.settled
    have rest := ofTasks_custody_custody sink id (some worker.sink) custom
    simp [proceed, carries, rest, registry.standings_settled known, Worker.standing,
      Standing.settled, Standing.bears, free, complete] at noted ⊢
    omega
  | @broken id joined custom worker _ known complete =>
    have noted := bearers_set sink (registry.standings_getElem? known) worker.standing.settled
    have rest := ofTasks_custody_custody sink id none custom
    simp [proceed, carries, rest, registry.standings_settled known, Worker.standing,
      Standing.settled, Standing.bears, complete] at noted ⊢
    omega
  | @parked id held purpose slot there =>
    have put := (custody sink).ofStates_putSlot registry id { slot with state := .unloaded held }
    have dropped := releases_vacate sink registry id
    have rest := ofTasks_custody_unloading sink id purpose
    simp [proceed, carries, rest] at put ⊢
    omega
  | @bereft id purpose slot there =>
    have taken := (custody sink).ofStates_forget registry id
    have dropped := releases_vacate sink registry id
    simp [refuse, Registry.answer, carries] at taken ⊢
    omega
  | @unparked id held purpose gone =>
    have rest := ofTasks_custody_unloading sink id purpose
    simp [proceed, carries, rest]
  | @vanished id purpose gone =>
    have rest := ofTasks_custody_unloading sink id purpose
    simp [proceed, carries, rest]
  | @removed id slot there =>
    have taken := (custody sink).ofStates_forget registry id
    have release := ofTasks_custody_release sink id slot.state
    rw [(custody sink).ofSlot_of_state (registry.state?_of_slot? there)] at taken
    simp [proceed, carries, release] at taken ⊢
    omega
  | @unloaded id purpose slot worker there running =>
    have put := (custody sink).ofStates_putSlot registry id { slot with state := .pending }
    rw [(custody sink).ofSlot_of_state (registry.state?_of_slot? there), running] at put
    simp [proceed, carries] at put ⊢
    omega
  | @taken id rom machine slot held there unloaded =>
    have put := (custody sink).ofStates_putSlot registry id { slot with state := .pending }
    rw [(custody sink).ofSlot_of_state (registry.state?_of_slot? there), unloaded] at put
    simp [proceed, carries] at put ⊢
    omega
  | watched watches states standings events _ todo =>
    have idle := ofTasks_custody_of_watched sink todo
    have harmless : task.carries sink = false := by
      cases task <;> first | rfl | cases watches
    simp [states, standings, events, idle, harmless]
  | closed =>
    simp [proceed, carries, Delivery.releases]
    omega
  | unacknowledged =>
    simp [proceed, carries, Delivery.releases]
    omega
  | unspawned =>
    simp [proceed, carries, Delivery.releases]
    omega
  | _ => simp [proceed, Registry.answer, refuse, rejection, carries, Delivery.releases]

end Tasks

/-! ### Over a schedule -/

/-- A worker that was waited for is done. -/
def Standing.Settles (standing : Standing) : Prop :=
  standing.joined = true → standing.phase.isFinished = true

/-- A worker that is done has no more turns. -/
theorem Worker.Turn.settles {worker after : Worker} {deliveries : List Delivery}
    (turn : worker.Turn after deliveries) (settles : worker.standing.Settles) :
    after.standing.Settles := by
  intro joined
  have same : after.standing.joined = worker.standing.joined := by rw [turn.standing_eq]; rfl
  have complete := settles (same ▸ joined)
  change worker.phase.isFinished = true at complete
  cases turn with
  | idle => exact complete
  | stopped was next => rw [next]; rfl
  | declined was next => rw [next]; rfl
  | told was next => rw [next]; rfl
  | unheard was next => rw [next]; rfl
  | broke was next => rw [next]; rfl
  | ran was => rw [was] at complete; cases complete
  | failed was => rw [was] at complete; cases complete
  | shown was => rw [was] at complete; cases complete

/-- **What a worker's turn does to the places of its sink**: the worker keeps it or loses it. -/
theorem Worker.Turn.hands_over {registry : Registry} {number : WorkerId} {worker after : Worker}
    {deliveries : List Delivery} (turn : worker.Turn after deliveries)
    (known : registry.worker? number = some worker) (settles : worker.standing.Settles)
    (sink : SinkId) :
    bearers (registry.turn number worker after deliveries).standings sink +
        releases (registry.turn number worker after deliveries).events sink =
      bearers registry.standings sink + releases registry.events sink := by
  have moved := bearers_set sink (registry.standings_getElem? known) after.standing
  rw [Registry.standings_turn]
  cases turn with
  | idle =>
    simp only [Registry.turn, List.map_nil, List.reverse_nil, List.nil_append]
    omega
  | broke was next =>
    -- a worker that is not done was not waited for, so the sink was still with it
    have free : worker.joined = false := by
      cases joined : worker.joined with
      | false => rfl
      | true =>
        have complete : worker.isFinished = true := settles joined
        rw [was] at complete
        cases complete
    have alive : worker.phase ≠ .broken := by
      intro lost
      rw [Worker.isFinished, lost] at was
      cases was
    rw [next] at moved ⊢
    simp [Registry.turn, Standing.turned, Standing.bears, Worker.standing, free, alive,
      Delivery.releases] at moved ⊢
    omega
  | _ was next =>
    rw [next] at moved ⊢
    simp [Registry.turn, Standing.turned, Standing.bears, Worker.standing, was,
      Delivery.releases] at moved ⊢
    omega

namespace System

/-- What a call hands in, it has to do something with. -/
theorem ofTasks_custody_begun (sink given : SinkId) (call : Call) :
    (custody sink).ofTasks (call.tasks given) + (decide (sink < given)).toNat =
      (decide (sink < given + call.sinks)).toNat := by
  have begins := call.begins given
  generalize call.tasks given = todo at begins ⊢
  cases begins with
  | start =>
    rcases Nat.lt_trichotomy sink given with less | same | more
    · simp [Task.carries, Call.sinks, less, Nat.ne_of_gt less, Nat.lt_succ_of_lt less]
    · simp [Task.carries, Call.sinks, same]
    · simp [Task.carries, Call.sinks, Nat.ne_of_lt more, Nat.not_lt_of_gt more, Nat.not_lt.mpr more]
  | _ => exact Nat.zero_add _

/-- A worker that was waited for is done, at any time. -/
theorem settles_run (settings : Settings) (schedule : List Move) :
    ∀ standing ∈ ((new settings).run schedule).registry.standings, standing.Settles := by
  refine run_induction (new settings) (fun _ system =>
    ∀ standing ∈ system.registry.standings, standing.Settles) (fun _ member => by cases member)
    (fun schedule move before step => ?_) schedule
  generalize (new settings).run schedule = system at before step
  generalize system.move move = after at step
  cases step with
  | begun => exact before
  | stayed => exact before
  | waited => exact before
  | done known next _ yields =>
    intro standing member
    simp only at member
    obtain same | ⟨launch, -, same⟩ | ⟨id, number, custom, worker, -, known, complete, same⟩ :=
      yields.standings_cases
    · rw [same] at member
      exact before standing member
    · rw [same, List.mem_append, List.mem_singleton] at member
      rcases member with old | rfl
      · exact before standing old
      · intro joined
        cases joined
    · rw [same] at member
      rcases List.mem_or_eq_of_mem_set member with old | rfl
      · exact before standing old
      · exact fun _ => complete
  | worked known turn =>
    intro standing member
    simp only at member
    rw [Registry.standings_turn] at member
    rcases List.mem_or_eq_of_mem_set member with old | rfl
    · exact before standing old
    · exact turn.settles (before _ (List.mem_of_getElem? (Registry.standings_getElem? _ known)))

/-- **What a move does to the places of a sink.** -/
theorem Step.custody_eq {system after : System} {move : Move} (step : system.Step move after)
    (sink : SinkId)
    (settles : ∀ standing ∈ system.registry.standings, standing.Settles)
    (placed : ∀ number,
      (attendance number).total system + waits system.registry.standings number ≤ 1) :
    (custody sink).total after + bearers after.registry.standings sink +
          releases after.registry.events sink + (decide (sink < system.registry.sinks)).toNat =
      (custody sink).total system + bearers system.registry.standings sink +
        releases system.registry.events sink + (decide (sink < after.registry.sinks)).toNat := by
  cases step with
  | stayed => rfl
  | waited => rfl
  | @begun call =>
    have begun := ofTasks_custody_begun sink system.registry.sinks call
    have states : (system.begin call).registry.states = system.registry.states := rfl
    have standings : (system.begin call).registry.standings = system.registry.standings := rfl
    have events : (system.begin call).registry.events = system.registry.events := rfl
    have sinks : (system.begin call).registry.sinks = system.registry.sinks + call.sinks := rfl
    rw [Census.total, states, standings, events, sinks, Census.total]
    simp only [System.begin, Census.ofFlights_append]
    simp only [Census.ofFlights, List.map_cons, List.map_nil, List.sum_cons, List.sum_nil]
    omega
  | @done flightNumber answer flight task later progress known next _ yields =>
    have counted := (custody sink).total_done known next progress
    have passed := yields.hands_over sink (waits_eq_zero_of_join known next placed)
    have sinks := yields.sinks_eq
    simp only [sinks]
    omega
  | @worked number reaction worker after deliveries known turn =>
    have kept := turn.hands_over known
      (settles _ (List.mem_of_getElem? (Registry.standings_getElem? _ known))) sink
    have states : (system.registry.turn number worker after deliveries).states =
      system.registry.states := rfl
    have sinks : (system.registry.turn number worker after deliveries).sinks =
      system.registry.sinks := rfl
    simp only [Census.total, states, sinks]
    omega

/-- **Each sink that was handed in is in one place, or was released.** -/
theorem custody_eq (settings : Settings) (schedule : List Move) (sink : SinkId) :
    (custody sink).total ((new settings).run schedule) +
        bearers ((new settings).run schedule).registry.standings sink +
        releases ((new settings).run schedule).registry.events sink =
      (decide (sink < ((new settings).run schedule).registry.sinks)).toNat := by
  refine run_induction (new settings) (fun _ system =>
    (custody sink).total system + bearers system.registry.standings sink +
        releases system.registry.events sink = (decide (sink < system.registry.sinks)).toNat) rfl
    (fun schedule move before step => ?_) schedule
  have kept := step.custody_eq sink (settles_run settings schedule) (placed_run settings schedule)
  omega

end System

end Arcade
