/-
**Who may write to a slot.**

Starting a session, unloading it and giving it another program look its slot up, work on without
the table, and write to the slot at the end, by the session's name alone. Such a call holds a claim
on the name, and so does whoever is in the slot. As long as no session is admitted under a name
while a claim on it is left from before, there is at most one claim on the name at a time.

* `Task.Yields.claims_le`: only an admission adds a claim;
* `System.claims_le_startIds`: there are at most as many claims on a name as calls to start it.
-/

import Arcade.Proofs.Registry.Census

namespace Arcade

/-! ### Parts of the registry that a change leaves alone -/

namespace Registry

variable (registry : Registry)

@[simp] theorem states_deliver (sink : SinkId) (delivery : Delivery) :
    (registry.deliver sink delivery).states = registry.states := rfl

@[simp] theorem states_modifyWorker (number : WorkerId) (change : Worker → Worker) :
    (registry.modifyWorker number change).states = registry.states := rfl

@[simp] theorem states_putSlot_vacate (id other : SessionId) (slot : Slot) :
    ((registry.vacate id).putSlot other slot).states = (registry.putSlot other slot).states := by
  simp only [states, putSlot, table_vacate]

@[simp] theorem states_forget_vacate (id other : SessionId) :
    ((registry.vacate id).forget other).states = (registry.forget other).states := by
  simp only [states, forget, table_vacate]

@[simp] theorem events_deliver (sink : SinkId) (delivery : Delivery) :
    (registry.deliver sink delivery).events = ⟨sink, delivery, none⟩ :: registry.events := rfl

@[simp] theorem events_putSlot (id : SessionId) (slot : Slot) :
    (registry.putSlot id slot).events = registry.events := rfl

@[simp] theorem events_forget (id : SessionId) :
    (registry.forget id).events = registry.events := rfl

@[simp] theorem events_modifyWorker (number : WorkerId) (change : Worker → Worker) :
    (registry.modifyWorker number change).events = registry.events := rfl

@[simp] theorem standings_deliver (sink : SinkId) (delivery : Delivery) :
    (registry.deliver sink delivery).standings = registry.standings := rfl

@[simp] theorem standings_putSlot (id : SessionId) (slot : Slot) :
    (registry.putSlot id slot).standings = registry.standings := rfl

@[simp] theorem standings_forget (id : SessionId) :
    (registry.forget id).standings = registry.standings := rfl

@[simp] theorem standings_vacate (id : SessionId) :
    (registry.vacate id).standings = registry.standings := by
  rw [standings, workers_vacate, standings]

@[simp] theorem standings_reaped : registry.reaped.standings = registry.standings := by
  rw [standings, workers_reaped, standings]

@[simp] theorem standings_append (worker : Worker) :
    { registry with workers := registry.workers ++ [worker] }.standings =
      registry.standings ++ [worker.standing] := by
  simp [standings]

theorem states_of_table {stopped : Registry} (same : stopped.table = registry.table) :
    stopped.states = registry.states := by
  rw [states, same, states]

end Registry

open Registry in
/-- Tasks change what the others see of the workers by setting one going, or by waiting for the end
of one. -/
theorem Task.Yields.standings_cases {registry : Registry} {task : Task} {progress : Progress}
    (yields : task.Yields registry progress) :
    progress.registry.standings = registry.standings ∨
      (∃ launch, task = .spawn launch ∧ progress.registry.standings =
        registry.standings ++ [(registry.launched launch).standing]) ∨
      ∃ id number custom worker, task = .join id number custom ∧
        registry.worker? number = some worker ∧ worker.isFinished = true ∧
        progress.registry.standings = registry.standings.set number worker.standing.settled := by
  cases yields with
  | @spawned launch => exact .inr (.inl ⟨launch, rfl, registry.standings_append _⟩)
  | @ended id number custom worker known complete =>
    exact .inr (.inr ⟨id, number, custom, worker, rfl, known,
      by rw [Worker.isFinished, complete]; rfl, registry.standings_settled known⟩)
  | @broken id number custom worker _ known complete =>
    exact .inr (.inr ⟨id, number, custom, worker, rfl, known,
      by rw [Worker.isFinished, complete]; rfl, registry.standings_settled known⟩)
  | reaped => exact .inl registry.standings_reaped
  | withdrawn => exact .inl (registry.standings_vacate _)
  | published => exact .inl (registry.standings_vacate _)
  | parked => exact .inl (registry.standings_vacate _)
  | bereft => exact .inl (registry.standings_vacate _)
  | halted _ standings => exact .inl standings
  | watched _ _ standings => exact .inl standings
  | _ => exact .inl rfl

open Registry in
/-- Tasks hand no sinks in. -/
theorem Task.Yields.sinks_eq {registry : Registry} {task : Task} {progress : Progress}
    (yields : task.Yields registry progress) : progress.registry.sinks = registry.sinks := by
  cases yields with
  | reaped => exact registry.sinks_reaped
  | withdrawn => exact registry.sinks_vacate _
  | published => exact registry.sinks_vacate _
  | parked => exact registry.sinks_vacate _
  | bereft => exact registry.sinks_vacate _
  | halted _ _ _ sinks => exact sinks
  | watched _ _ _ _ sinks => exact sinks
  | _ => rfl

/-! ### Claims -/

/-- Whether a task, or a task that it leads to, will write to a slot that was looked up before. -/
def Task.writesBack (id : SessionId) : Task → Bool
  | .acknowledge launch | .spawn launch => launch.id = id
  | .publish other _ | .withdraw _ other _ | .park other _ _ | .halt other _ (.keep _)
  | .join other _ (.keep _) => other = id
  | _ => false

/-- Whether a task may lead to an admission under a name. -/
def Task.opens (id : SessionId) : Task → Bool
  | .build other _ _ _ => other = id
  | .reserve launch => launch.id = id
  | _ => false

/-- Whether a task admits a session under a name. -/
def Task.admits (registry : Registry) (id : SessionId) : Task → Bool
  | .reserve launch => launch.id = id ∧ registry.refusal? id = none
  | _ => false

/-- The claims on a name: a worker or a sink in the slot, and what will write to the slot. -/
def claims (id : SessionId) : Census where
  slot other state := if other = id ∧ state ≠ .pending then 1 else 0
  task task := (task.writesBack id).toNat

/-- The calls that may still have a session admitted under a name. -/
def openings (id : SessionId) : Census where
  slot _ _ := 0
  task task := (task.opens id).toNat

@[simp] theorem slot_claims (id other : SessionId) (state : SlotState) :
    (claims id).slot other state = if other = id ∧ state ≠ .pending then 1 else 0 := rfl

@[simp] theorem task_claims (id : SessionId) (task : Task) :
    (claims id).task task = (task.writesBack id).toNat := rfl

@[simp] theorem task_openings (id : SessionId) (task : Task) :
    (openings id).task task = (task.opens id).toNat := rfl

@[simp] theorem ofStates_openings (id : SessionId) (states : List (String × SlotState)) :
    (openings id).ofStates states = 0 := by
  simp [Census.ofStates, openings]

/-- All claims that the table has on a name are in the slot of the name. -/
theorem ofStates_claims (registry : Registry) (id : SessionId) :
    (claims id).ofStates registry.states = (claims id).ofSlot registry id := by
  have split := (claims id).ofStates_forget registry id
  have rest : (claims id).ofStates (registry.forget id).states = 0 := by
    rw [Census.ofStates_eq_zero]
    intro other state there
    rw [Registry.state?_forget] at there
    by_cases same : other = id
    · rw [if_pos same] at there
      cases there
    · rw [slot_claims, if_neg fun both => same both.1]
  omega

/-- A slot that is in use and a task that will write to it make two claims on a name. -/
theorem two_le_claims {system : System} {id : SessionId} {state : SlotState} {flight : Flight}
    {task : Task} (there : system.registry.state? id = some state) (used : state ≠ .pending)
    (inFlight : flight ∈ system.flights) (member : task ∈ flight.todo)
    (writes : task.writesBack id = true) : 2 ≤ (claims id).total system := by
  have inSlot : (claims id).ofStates system.registry.states = 1 := by
    rw [ofStates_claims, (claims id).ofSlot_of_state there, slot_claims, if_pos ⟨rfl, used⟩]
  have inHand := (claims id).task_le_ofFlights inFlight member
  rw [task_claims, writes, Bool.toNat_true] at inHand
  rw [Census.total, inSlot]
  exact Nat.add_le_add_left inHand 1

/-- A session is admitted under a name that nobody has. -/
theorem Registry.state?_of_admitted {registry : Registry} {id : SessionId}
    (room : registry.refusal? id = none) : registry.state? id = none := by
  unfold refusal? at room
  split at room
  · cases room
  · rename_i absent
    simpa [state?, slot?, NameTable.contains] using absent

/-- Closing and waiting tasks write to no slot. -/
theorem ofTasks_claims_of_idle (id : SessionId) {todo : List Task}
    (idle : ∀ next ∈ todo, next.writesBack id = false ∧ next.opens id = false) :
    (claims id).ofTasks todo = 0 ∧ (openings id).ofTasks todo = 0 := by
  simp only [Census.ofTasks_eq_zero]
  refine ⟨fun next member => ?_, fun next member => ?_⟩
  · rw [task_claims, (idle next member).1, Bool.toNat_false]
  · rw [task_openings, (idle next member).2, Bool.toNat_false]

/-- What follows a wait for a worker's end keeps the claim of the wait. -/
theorem ofTasks_claims_custody (id other : SessionId) (sink : Option SinkId) (number : WorkerId)
    (custody : Custody) :
    (claims id).ofTasks (Registry.Custody.tasks other sink custody) =
        ((Task.join other number custody).writesBack id).toNat ∧
      (openings id).ofTasks (Registry.Custody.tasks other sink custody) = 0 := by
  cases custody with
  | close => cases sink <;> exact ⟨rfl, rfl⟩
  | keep purpose => simp [Registry.Custody.tasks, Task.writesBack, Task.opens]

/-- What follows when a session was unloaded has no claim. -/
theorem ofTasks_claims_unloading (id other : SessionId) (purpose : Unloading) :
    (claims id).ofTasks (Registry.Unloading.tasks other purpose) = 0 ∧
      (openings id).ofTasks (Registry.Unloading.tasks other purpose) = 0 := by
  cases purpose <;> exact ⟨rfl, rfl⟩

/-- Releasing what a slot holds takes no claim. -/
theorem ofTasks_claims_release (id other : SessionId) (state : SlotState) :
    (claims id).ofTasks (Registry.SlotState.releaseTasks other state) = 0 ∧
      (openings id).ofTasks (Registry.SlotState.releaseTasks other state) = 0 := by
  cases state <;> exact ⟨rfl, rfl⟩

/-- A task that only watches has no claim and leads to none. -/
theorem ofTasks_claims_of_watched (id : SessionId) {todo : List Task}
    (harmless : ∀ next ∈ todo,
      next.watches = true ∨ (∃ id, next = .remove id) ∨ ∃ reply, next = .answer reply) :
    (claims id).ofTasks todo = 0 ∧ (openings id).ofTasks todo = 0 := by
  refine ofTasks_claims_of_idle id fun next member => ?_
  obtain watching | ⟨_, rfl⟩ | ⟨_, rfl⟩ := harmless next member
  · cases next <;> first | exact ⟨rfl, rfl⟩ | cases watching
  · exact ⟨rfl, rfl⟩
  · exact ⟨rfl, rfl⟩

open Registry in
/-- **Only an admission adds a claim**, and it takes a call that may have a session admitted. -/
theorem Task.Yields.claims_le {registry : Registry} {task : Task} {progress : Progress}
    (yields : task.Yields registry progress) (id : SessionId) :
    (claims id).ofStates progress.registry.states + (claims id).ofTasks progress.todo ≤
        (claims id).ofStates registry.states + (claims id).task task +
          (task.admits registry id).toNat ∧
      (openings id).ofTasks progress.todo + (task.admits registry id).toNat ≤
        (openings id).task task := by
  cases yields with
  | reaped =>
    have left := (claims id).ofStates_reaped registry
    have waits : ∀ next ∈ registry.finished.map fun entry => Task.halt entry.1 entry.2 .close,
        next.writesBack id = false ∧ next.opens id = false := by
      intro next member
      obtain ⟨entry, -, rfl⟩ := List.mem_map.mp member
      exact ⟨rfl, rfl⟩
    have idle := ofTasks_claims_of_idle id waits
    simp only [proceed, idle, admits, Bool.toNat_false]
    omega
  | @rejected launch cause why =>
    have stays : Task.admits registry id (.reserve launch) = false := by
      rw [admits, decide_eq_false_iff_not]
      rintro ⟨same, admitted⟩
      rw [same, admitted] at why
      cases why
    simp [rejection, stays, writesBack, opens]
  | @admitted launch room vacant =>
    have put := (claims id).ofStates_putSlot registry launch.id ⟨registry.now, .pending⟩
    by_cases same : launch.id = id
    · have admitted : Task.admits registry id (.reserve launch) = true := by
        rw [admits, decide_eq_true_iff]
        exact ⟨same, same ▸ room⟩
      simp [proceed, admitted, writesBack, opens, same] at put ⊢
      omega
    · simp [proceed, admits, writesBack, opens, same] at put ⊢
      omega
  | @withdrawn kind other cause =>
    have taken := (claims id).ofStates_forget registry other
    simp [refuse, Registry.answer, admits, writesBack, opens]
    omega
  | @published other worker slot there =>
    have put := (claims id).ofStates_putSlot registry other ⟨registry.now, .running worker⟩
    obtain rfl | different := eq_or_ne other id
    · simp [Registry.answer, admits, writesBack, opens] at put ⊢
      omega
    · simp [Registry.answer, admits, writesBack, opens, different] at put ⊢
      omega
  | @halted other worker custody stopped same =>
    simp only [proceed, states_of_table _ same]
    cases custody <;> simp [admits, writesBack, opens]
  | @parked other sink purpose slot there =>
    have put := (claims id).ofStates_putSlot registry other { slot with state := .unloaded sink }
    have rest := ofTasks_claims_unloading id other purpose
    obtain rfl | different := eq_or_ne other id
    · simp [proceed, admits, writesBack, opens, rest] at put ⊢
      omega
    · simp [proceed, admits, writesBack, opens, different, rest] at put ⊢
      omega
  | @bereft other purpose slot there =>
    have taken := (claims id).ofStates_forget registry other
    simp [refuse, Registry.answer, admits, writesBack, opens]
    omega
  | @removed other slot there =>
    have taken := (claims id).ofStates_forget registry other
    have rest := ofTasks_claims_release id other slot.state
    simp [proceed, admits, writesBack, opens, rest]
    omega
  | @unloaded other purpose slot worker there running =>
    have put := (claims id).ofStates_putSlot registry other { slot with state := .pending }
    have held := (claims id).ofSlot_of_state (registry.state?_of_slot? there)
    rw [held, running] at put
    obtain rfl | different := eq_or_ne other id
    · simp [proceed, admits, writesBack, opens] at put ⊢
      omega
    · simp [proceed, admits, writesBack, opens, different] at put ⊢
      omega
  | @taken other rom machine slot sink there unloaded =>
    have put := (claims id).ofStates_putSlot registry other { slot with state := .pending }
    have held := (claims id).ofSlot_of_state (registry.state?_of_slot? there)
    rw [held, unloaded] at put
    obtain rfl | different := eq_or_ne other id
    · simp [proceed, admits, writesBack, opens] at put ⊢
      omega
    · simp [proceed, admits, writesBack, opens, different] at put ⊢
      omega
  | watched watches states _ _ _ todo =>
    have idle := ofTasks_claims_of_watched id todo
    have stays : Task.admits registry id task = false := by
      cases task <;> first | rfl | cases watches
    simp [states, idle, stays]
  | @ended other number custody worker known complete =>
    have kept := ofTasks_claims_custody id other (some worker.sink) number custody
    simp [proceed, kept, opens, admits]
  | @broken other number custody worker _ known complete =>
    have kept := ofTasks_claims_custody id other none number custody
    simp [proceed, kept, opens, admits]
  | @unparked other sink purpose gone =>
    have kept := ofTasks_claims_unloading id other purpose
    simp [proceed, kept, opens, admits, writesBack]
  | @vanished other purpose gone =>
    have kept := ofTasks_claims_unloading id other purpose
    simp [proceed, kept, opens, admits, writesBack]
  | spawned => simp [proceed, writesBack, opens, admits, Registry.states]
  | _ => simp [proceed, Registry.answer, refuse, rejection, writesBack, opens, admits]

/-! ### Claims over a schedule -/

/-- The name of the session that a call starts, if it starts one. -/
def Call.starts? : Call → Option SessionId
  | .start id _ _ => some id
  | _ => none

namespace System

/-- The names under which sessions were to be started, in the order of the calls. -/
def startIds (system : System) : List SessionId :=
  system.flights.filterMap fun flight => flight.call.starts?

/-- Whether a move admits a session under a name. -/
def admits (system : System) (id : SessionId) (move : Move) : Bool :=
  (system.task? move).any fun task => task.admits system.registry id

theorem task?_proceed {system : System} {number : Nat} {flight : Flight} {task : Task}
    {later : List Task} (known : system.flights[number]? = some flight)
    (next : flight.todo = task :: later) (answer : Except SinkError Unit) :
    system.task? (.proceed number answer) = some task := by
  simp [task?, known, next]

theorem startIds_begin (system : System) (call : Call) :
    (system.begin call).startIds = system.startIds ++ call.starts?.toList := by
  simp only [startIds, begin, List.filterMap_append, List.filterMap_cons, List.filterMap_nil]
  cases call.starts? <;> rfl

/-- Where a session is admitted under a name, nobody has the name. -/
theorem state?_of_admits {system : System} {id : SessionId} {move : Move}
    (admitted : system.admits id move = true) : system.registry.state? id = none := by
  obtain ⟨task, -, admits⟩ := (Option.any_eq_true _ _).mp admitted
  cases task with
  | reserve launch =>
    rw [Task.admits, decide_eq_true_iff] at admits
    exact system.registry.state?_of_admitted admits.2
  | _ => cases admits

/-- A call that goes on stays the call that it is. -/
theorem startIds_set {flights : List Flight} {number : Nat} {flight moved : Flight}
    (known : flights[number]? = some flight) (same : moved.call = flight.call) :
    (flights.set number moved).filterMap (fun flight => flight.call.starts?) =
      flights.filterMap fun flight => flight.call.starts? := by
  induction flights generalizing number with
  | nil => cases known
  | cons first rest ih =>
    cases number with
    | zero =>
      cases known
      simp only [List.set_cons_zero, List.filterMap_cons, same]
    | succ number =>
      simp only [List.set_cons_succ, List.filterMap_cons, ih (by simpa using known)]

theorem startIds_done {system : System} {number : Nat} {flight : Flight}
    (known : system.flights[number]? = some flight) (progress : Progress) (later : List Task) :
    (⟨progress.registry, system.flights.set number (flight.advance progress later)⟩ :
      System).startIds = system.startIds := startIds_set known rfl

/-- What a call has to do at first: it holds no claim, and at most the one to have a session
admitted that it starts. -/
theorem ofTasks_claims_begun (id : SessionId) (sink : SinkId) (call : Call) :
    (claims id).ofTasks (call.tasks sink) = 0 ∧
      (openings id).ofTasks (call.tasks sink) = call.starts?.toList.count id := by
  have begins := call.begins sink
  generalize call.tasks sink = todo at begins ⊢
  cases begins with
  | @start other =>
    by_cases same : other = id <;> simp [Call.starts?, Task.writesBack, Task.opens, same]
  | _ => exact ⟨rfl, rfl⟩

/-- **One move**: claims come from admissions only, and admissions from calls to start a session. -/
theorem Step.claims_le {system after : System} {move : Move} (step : system.Step move after)
    (id : SessionId) :
    (claims id).total after ≤ (claims id).total system + (system.admits id move).toNat ∧
      (openings id).total after + (system.admits id move).toNat + system.startIds.count id ≤
        (openings id).total system + after.startIds.count id := by
  cases step with
  | stayed idle =>
    have stays : system.admits id move = false := by
      rw [admits, Option.any_eq_false]
      intro task found
      obtain ⟨other, number, custody, rfl⟩ := idle task found
      rfl
    rw [stays, Bool.toNat_false]
    omega
  | @begun call =>
    have stays : system.admits id (.begin call) = false := rfl
    have begun := ofTasks_claims_begun id system.registry.sinks call
    rw [startIds_begin, List.count_append, stays, Bool.toNat_false]
    simp only [Census.total, System.begin, Census.ofFlights_append]
    simp only [Census.ofFlights, List.map_cons, List.map_nil, List.sum_cons, List.sum_nil, begun]
    have same : ({ system.registry with sinks := system.registry.sinks + call.sinks } :
      Registry).states = system.registry.states := rfl
    rw [same]
    omega
  | @done number answer flight task later progress known next _ yields =>
    have step := yields.claims_le id
    have claimed := (claims id).total_done known next progress
    have opened := (openings id).total_done known next progress
    have kept := startIds_done known progress later
    have admitted : system.admits id (.proceed number answer) =
        task.admits system.registry id := by
      rw [admits, task?_proceed known next]
      rfl
    rw [kept, admitted]
    simp only [ofStates_openings] at opened
    omega
  | @worked number reaction worker after deliveries known turn =>
    have stays : system.admits id (.work number reaction) = false := rfl
    have same : (system.registry.turn number worker after deliveries).states =
      system.registry.states := rfl
    simp only [Census.total, same, startIds, stays, Bool.toNat_false]
    omega
  | waited =>
    have stays (span : Span) : system.admits id (.wait span) = false := rfl
    have same (now : Moment) :
      ({ system.registry with now } : Registry).states = system.registry.states := rfl
    simp only [Census.total, same, startIds, stays, Bool.toNat_false]
    omega

/-- **There are at most as many claims on a name as calls to start it.** -/
theorem claims_le_startIds (settings : Settings) (schedule : List Move) (id : SessionId) :
    (claims id).total ((new settings).run schedule) +
        (openings id).total ((new settings).run schedule) ≤
      ((new settings).run schedule).startIds.count id := by
  refine run_induction (new settings) (fun _ system =>
    (claims id).total system + (openings id).total system ≤ system.startIds.count id)
    (Nat.le_refl 0) (fun schedule move before step => ?_) schedule
  have kept := step.claims_le id
  omega

end System

end Arcade
