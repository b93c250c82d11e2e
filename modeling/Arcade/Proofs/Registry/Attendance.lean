/-
**Who attends to a worker.**

A worker that was set going and not waited for should be the worker of a slot, so that it can be
steered and stopped. While calls are in progress it may be in the hands of one of them instead. So
each worker is counted wherever it is: in a slot, with a call, or among those that were waited for.
It is in one place at a time, and it gets lost in one way only: somebody writes to its slot who
looked the slot up when it was another one (`System.displaced`).

* `System.attendance_eq`: where each worker is, at any time;
* `System.orphan_iff_displaced`: when no call is in progress, the workers that nobody attends to are
  those that were displaced, and there are none as long as no session is admitted under a name on
  which an earlier call still has a claim.
-/

import Arcade.Proofs.Registry.Tenure

namespace Arcade

/-! ### Where a worker is -/

/-- Whether a task is about to put a worker into a slot, to stop it or to wait for it. -/
def Task.holds (number : WorkerId) : Task → Bool
  | .publish _ worker | .halt _ worker _ | .join _ worker _ => worker = number
  | _ => false

/-- The slots that a worker is in, and the calls that hold it. -/
def attendance (number : WorkerId) : Census where
  slot _ state := if state = .running number then 1 else 0
  task task := (task.holds number).toNat

/-- How often a worker was waited for, by the standings of all. -/
def waits (standings : List Standing) (number : WorkerId) : Nat :=
  (standings[number]?.any Standing.joined).toNat

/-- How many workers of a number there are, by the standings of all. -/
def knows (standings : List Standing) (number : WorkerId) : Nat :=
  (decide (number < standings.length)).toNat

namespace Registry

/-- The worker in a session's slot, if there is one. -/
def runner? (registry : Registry) (id : SessionId) : Option WorkerId :=
  match registry.state? id with
  | some (.running number) => some number
  | some (.unloaded _) | some .pending | none => none

/-- Whether a worker was set going and not waited for, and is not the worker of exactly one
slot. -/
def IsOrphan (registry : Registry) (number : WorkerId) : Prop :=
  ∃ worker, registry.worker? number = some worker ∧ worker.joined = false ∧
    ¬ ∃! id, registry.state? id = some (.running number)

end Registry

/-- The worker that a task displaces: the one in the slot that the task writes to without having
it looked up. -/
def Task.displaces? (registry : Registry) : Task → Option WorkerId
  | .publish id _ | .park id _ _ | .withdraw _ id _ => registry.runner? id
  | _ => none

/-- The worker that a move displaces. -/
def System.displaces? (system : System) (move : Move) : Option WorkerId :=
  (system.task? move).bind fun task => task.displaces? system.registry

/-- The workers that are displaced in the course of a schedule. -/
def System.displaced (system : System) : List Move → List WorkerId
  | [] => []
  | move :: rest => (system.displaces? move).toList ++ (system.move move).displaced rest

/-! ### One task -/

section Tasks

variable (number : WorkerId)

@[simp] theorem slot_attendance (id : SessionId) (state : SlotState) :
    (attendance number).slot id state = if state = .running number then 1 else 0 := rfl

@[simp] theorem task_attendance (task : Task) :
    (attendance number).task task = (task.holds number).toNat := rfl

theorem ofSlot_attendance (registry : Registry) (id : SessionId) :
    (attendance number).ofSlot registry id = (registry.runner? id).toList.count number := by
  unfold Census.ofSlot Registry.runner?
  cases registry.state? id with
  | none => rfl
  | some state =>
    cases state with
    | running worker => simp [List.count_singleton]
    | unloaded sink => rfl
    | pending => rfl

/-- Once a worker's end was waited for, nobody holds it. -/
theorem ofTasks_attendance_custody (id : SessionId) (sink : Option SinkId) (custody : Custody) :
    (attendance number).ofTasks (Registry.Custody.tasks id sink custody) = 0 := by
  cases custody with
  | close => cases sink <;> rfl
  | keep purpose => rfl

theorem ofTasks_attendance_unloading (id : SessionId) (purpose : Unloading) :
    (attendance number).ofTasks (Registry.Unloading.tasks id purpose) = 0 := by
  cases purpose <;> rfl

/-- Whoever releases a slot takes over the worker that is in it. -/
theorem ofTasks_attendance_release (id : SessionId) (state : SlotState) :
    (attendance number).ofTasks (Registry.SlotState.releaseTasks id state) =
      (attendance number).slot id state := by
  cases state with
  | running worker => by_cases same : worker = number <;>
      simp [Registry.SlotState.releaseTasks, Task.holds, same]
  | unloaded sink => rfl
  | pending => rfl

theorem ofTasks_attendance_of_watched {todo : List Task}
    (harmless : ∀ next ∈ todo,
      next.watches = true ∨ (∃ id, next = .remove id) ∨ ∃ reply, next = .answer reply) :
    (attendance number).ofTasks todo = 0 := by
  rw [Census.ofTasks_eq_zero]
  intro next member
  obtain watching | ⟨_, rfl⟩ | ⟨_, rfl⟩ := harmless next member
  · cases next <;> first | rfl | cases watching
  · rfl
  · rfl

/-- Whoever forgets the sessions that are done takes over their workers. -/
theorem ofTasks_attendance_finished (registry : Registry) :
    (attendance number).ofTasks
        (registry.finished.map fun entry => .halt entry.1 entry.2 .close) =
      (registry.finished.map fun entry =>
        (attendance number).slot entry.1 (.running entry.2)).sum := by
  rw [Census.ofTasks, List.map_map]
  congr 1
  refine List.map_congr_left fun entry _ => ?_
  by_cases same : entry.2 = number <;> simp [Task.holds, same]

/-- Another standing in a worker's place changes at most whether the worker was waited for. -/
theorem waits_set {standings : List Standing} {index : Nat} {standing : Standing}
    (found : standings[index]? = some standing) (moved : Standing) :
    waits (standings.set index moved) number + (decide (index = number) && standing.joined).toNat =
      waits standings number + (decide (index = number) && moved.joined).toNat := by
  unfold waits
  rw [List.getElem?_set]
  by_cases same : index = number
  · subst same
    rw [if_pos rfl, if_pos (List.getElem?_eq_some_iff.mp found).1, found]
    simp [Nat.add_comm]
  · simp [same]

theorem knows_set (standings : List Standing) (index : Nat) (moved : Standing) :
    knows (standings.set index moved) number = knows standings number := by
  rw [knows, List.length_set, knows]

/-- Once a worker was waited for, this stays on record. -/
theorem waits_settled {standings : List Standing} {joined : WorkerId} {standing : Standing}
    (found : standings[joined]? = some standing)
    (alone : (decide (joined = number)).toNat + waits standings number ≤ 1) :
    waits (standings.set joined standing.settled) number =
      waits standings number + (decide (joined = number)).toNat := by
  have kept := waits_set number found standing.settled
  by_cases same : joined = number
  · subst same
    have free : waits standings joined = standing.joined.toNat := by
      rw [waits, found, Option.any_some]
    simp [Standing.settled] at kept alone ⊢
    omega
  · simpa [same] using kept

/-- A worker that is set going is not waited for yet. -/
theorem waits_append (standings : List Standing) {standing : Standing}
    (fresh : standing.joined = false) :
    waits (standings ++ [standing]) number = waits standings number := by
  unfold waits
  rcases Nat.lt_or_ge number standings.length with less | beyond
  · rw [List.getElem?_append_left less]
  · rw [List.getElem?_append_right beyond, List.getElem?_eq_none beyond]
    cases number - standings.length with
    | zero => simp [fresh]
    | succ _ => simp

theorem knows_append (standings : List Standing) (standing : Standing) :
    knows (standings ++ [standing]) number =
      knows standings number + (decide (standings.length = number)).toNat := by
  unfold knows
  rw [List.length_append, List.length_singleton]
  rcases Nat.lt_trichotomy number standings.length with less | same | more
  · simp [less, Nat.lt_succ_of_lt less, Nat.ne_of_gt less]
  · simp [same]
  · simp [Nat.not_lt_of_gt more, Nat.not_lt.mpr more, Nat.ne_of_lt more]

open Registry in
/-- **What a task does to the places of a worker**: it moves the worker from one to another, unless
it displaces it or sets it going. -/
theorem Task.Yields.attends {registry : Registry} {task : Task} {progress : Progress}
    (yields : task.Yields registry progress)
    (alone : (attendance number).task task + waits registry.standings number ≤ 1) :
    (attendance number).ofStates progress.registry.states +
          (attendance number).ofTasks progress.todo + waits progress.registry.standings number +
        (task.displaces? registry).toList.count number + knows registry.standings number =
      (attendance number).ofStates registry.states + (attendance number).task task +
        waits registry.standings number + knows progress.registry.standings number := by
  cases yields with
  | reaped =>
    have left := (attendance number).ofStates_reaped registry
    have complete := ofTasks_attendance_finished number registry
    simp [proceed, complete, holds, displaces?] at left ⊢
    omega
  | @admitted launch room vacant =>
    have put := (attendance number).ofStates_putSlot registry launch.id ⟨registry.now, .pending⟩
    have gone : registry.state? launch.id = none := by rw [state?, vacant]; rfl
    rw [(attendance number).ofSlot_of_gone gone] at put
    simp [proceed, holds, displaces?] at put ⊢
    omega
  | @withdrawn kind id cause =>
    have taken := (attendance number).ofStates_forget registry id
    rw [ofSlot_attendance] at taken
    simp [refuse, Registry.answer, holds, displaces?] at taken ⊢
    omega
  | @spawned launch =>
    have counted : registry.standings.length = registry.workers.length := by simp [standings]
    have fresh : (registry.launched launch).standing.joined = false := rfl
    simp [proceed, holds, displaces?, waits_append number _ fresh, knows_append, counted, states]
    omega
  | @published id worker slot there =>
    have put := (attendance number).ofStates_putSlot registry id ⟨registry.now, .running worker⟩
    rw [ofSlot_attendance] at put
    by_cases same : worker = number
    · simp [Registry.answer, holds, displaces?, same] at put ⊢
      omega
    · simp [Registry.answer, holds, displaces?, same] at put ⊢
      omega
  | @superseded id worker gone =>
    have empty : registry.runner? id = none := by rw [runner?, state?, gone]; rfl
    simp [proceed, holds, displaces?, empty]
  | @halted id worker custody stopped same standings =>
    simp [proceed, holds, displaces?, states_of_table _ same, standings]
  | @ended id joined custody worker known complete =>
    have noted := waits_settled number (registry.standings_getElem? known) alone
    have rest := ofTasks_attendance_custody number id (some worker.sink) custody
    simp [proceed, holds, displaces?, rest, registry.standings_settled known, noted, knows_set]
    omega
  | @broken id joined custody worker _ known complete =>
    have noted := waits_settled number (registry.standings_getElem? known) alone
    have rest := ofTasks_attendance_custody number id none custody
    simp [proceed, holds, displaces?, rest, registry.standings_settled known, noted, knows_set]
    omega
  | @parked id sink purpose slot there =>
    have put :=
      (attendance number).ofStates_putSlot registry id { slot with state := .unloaded sink }
    have rest := ofTasks_attendance_unloading number id purpose
    rw [ofSlot_attendance] at put
    simp [proceed, holds, displaces?, rest] at put ⊢
    omega
  | @bereft id purpose slot there =>
    have taken := (attendance number).ofStates_forget registry id
    rw [ofSlot_attendance] at taken
    simp [refuse, Registry.answer, holds, displaces?] at taken ⊢
    omega
  | @unparked id sink purpose gone =>
    have rest := ofTasks_attendance_unloading number id purpose
    have empty : registry.runner? id = none := by rw [runner?, state?, gone]; rfl
    simp [proceed, holds, displaces?, rest, empty]
  | @vanished id purpose gone =>
    have rest := ofTasks_attendance_unloading number id purpose
    have empty : registry.runner? id = none := by rw [runner?, state?, gone]; rfl
    simp [proceed, holds, displaces?, rest, empty]
  | @removed id slot there =>
    have taken := (attendance number).ofStates_forget registry id
    have release := ofTasks_attendance_release number id slot.state
    rw [(attendance number).ofSlot_of_state (registry.state?_of_slot? there)] at taken
    simp [proceed, holds, displaces?, release] at taken ⊢
    omega
  | @unloaded id purpose slot worker there running =>
    have put := (attendance number).ofStates_putSlot registry id { slot with state := .pending }
    rw [(attendance number).ofSlot_of_state (registry.state?_of_slot? there), running] at put
    by_cases same : worker = number
    · simp [proceed, holds, displaces?, same] at put ⊢
      omega
    · simp [proceed, holds, displaces?, same] at put ⊢
      omega
  | @taken id rom machine slot sink there unloaded =>
    have put := (attendance number).ofStates_putSlot registry id { slot with state := .pending }
    rw [(attendance number).ofSlot_of_state (registry.state?_of_slot? there), unloaded] at put
    simp [proceed, holds, displaces?] at put ⊢
    omega
  | watched watches states standings _ _ todo =>
    have idle := ofTasks_attendance_of_watched number todo
    have harmless : task.holds number = false ∧ task.displaces? registry = none := by
      cases task <;> first | exact ⟨rfl, rfl⟩ | cases watches
    simp [states, standings, idle, harmless]
  | _ => simp [proceed, Registry.answer, refuse, rejection, holds, displaces?]

end Tasks

/-! ### One move -/

/-- A worker's turn changes nothing about who was waited for. -/
theorem waits_turn {registry : Registry} {turned : WorkerId} {worker after : Worker}
    {deliveries : List Delivery} (known : registry.worker? turned = some worker)
    (turn : worker.Turn after deliveries) (number : WorkerId) :
    waits (registry.turn turned worker after deliveries).standings number =
        waits registry.standings number ∧
      knows (registry.turn turned worker after deliveries).standings number =
        knows registry.standings number := by
  have kept : after.standing.joined = worker.standing.joined := by rw [turn.standing_eq]; rfl
  have moved := waits_set number (registry.standings_getElem? known) after.standing
  rw [Registry.standings_turn]
  refine ⟨?_, knows_set number _ _ _⟩
  rw [kept] at moved
  exact Nat.add_right_cancel moved

namespace System

theorem displaced_append (system : System) (first second : List Move) :
    system.displaced (first ++ second) =
      system.displaced first ++ (system.run first).displaced second := by
  induction first generalizing system with
  | nil => rfl
  | cons move rest ih => rw [List.cons_append, displaced, ih, displaced, List.append_assoc]; rfl

theorem displaced_concat (system : System) (schedule : List Move) (move : Move) :
    system.displaced (schedule ++ [move]) =
      system.displaced schedule ++ ((system.run schedule).displaces? move).toList := by
  rw [displaced_append, displaced, displaced, List.append_nil]

/-- A call that is begun holds no worker. -/
theorem ofTasks_attendance_begun (number : WorkerId) (sink : SinkId) (call : Call) :
    (attendance number).ofTasks (call.tasks sink) = 0 := by
  have begins := call.begins sink
  generalize call.tasks sink = todo at begins ⊢
  cases begins <;> rfl

/-- **What a move does to the places of a worker.** -/
theorem Step.attendance_eq {system after : System} {move : Move} (step : system.Step move after)
    (number : WorkerId)
    (placed : (attendance number).total system + waits system.registry.standings number ≤ 1) :
    (attendance number).total after + waits after.registry.standings number +
          (system.displaces? move).toList.count number + knows system.registry.standings number =
      (attendance number).total system + waits system.registry.standings number +
        knows after.registry.standings number := by
  cases step with
  | stayed idle =>
    have none : system.displaces? move = none := by
      rw [displaces?, Option.bind_eq_none_iff]
      intro task found
      obtain ⟨id, worker, custody, rfl⟩ := idle task found
      rfl
    simp [none]
  | @begun call =>
    have begun := ofTasks_attendance_begun number system.registry.sinks call
    simp only [Census.total, System.begin, Census.ofFlights_append, displaces?, task?,
      Option.bind_none, Option.toList_none, List.count_nil]
    simp only [Census.ofFlights, List.map_cons, List.map_nil, List.sum_cons, List.sum_nil, begun]
    rfl
  | @done flightNumber answer flight task later progress known next _ yields =>
    have held := (attendance number).ofTasks_le_ofFlights known
    have moved : system.displaces? (.proceed flightNumber answer) =
        task.displaces? system.registry := by
      rw [displaces?, task?]
      simp [known, next]
    have counted := (attendance number).total_done known next progress
    rw [next, Census.ofTasks_cons] at held
    rw [moved]
    simp only [Census.total] at placed counted ⊢
    have step := yields.attends number (by omega)
    omega
  | @worked turned reaction worker after deliveries known turn =>
    have kept := waits_turn known turn number
    simp only [Census.total, kept, displaces?, task?, Option.bind_none, Option.toList_none,
      List.count_nil]
    rfl
  | waited =>
    simp only [Census.total, displaces?, task?, Option.bind_none, Option.toList_none,
      List.count_nil]
    rfl

/-- **Where each worker is, at any time**: it is in a slot, or a call holds it, or it was waited
for, or it was displaced, and that once. -/
theorem attendance_eq (settings : Settings) (schedule : List Move) (number : WorkerId) :
    (attendance number).total ((new settings).run schedule) +
          waits ((new settings).run schedule).registry.standings number +
        ((new settings).displaced schedule).count number =
      knows ((new settings).run schedule).registry.standings number := by
  refine run_induction (new settings) (fun schedule system =>
    (attendance number).total system + waits system.registry.standings number +
        ((new settings).displaced schedule).count number =
      knows system.registry.standings number) rfl (fun schedule move before step => ?_) schedule
  have bound : knows ((new settings).run schedule).registry.standings number ≤ 1 :=
    Bool.toNat_le _
  have kept := step.attendance_eq number (by omega)
  rw [displaced_concat, List.count_append]
  omega

/-- Each worker is in one place at most, at any time. -/
theorem placed_run (settings : Settings) (schedule : List Move) (number : WorkerId) :
    (attendance number).total ((new settings).run schedule) +
      waits ((new settings).run schedule).registry.standings number ≤ 1 := by
  have places := attendance_eq settings schedule number
  have bound : knows ((new settings).run schedule).registry.standings number ≤ 1 :=
    Bool.toNat_le _
  omega

/-- A worker whose end is to be waited for was not waited for before. -/
theorem waits_eq_zero_of_join {system : System} {flightNumber : Nat} {flight : Flight}
    {task : Task} {later : List Task} (known : system.flights[flightNumber]? = some flight)
    (next : flight.todo = task :: later)
    (placed : ∀ number,
      (attendance number).total system + waits system.registry.standings number ≤ 1) :
    ∀ id number custom, task = .join id number custom →
      waits system.registry.standings number = 0 := by
  rintro id number custom rfl
  have held := (attendance number).ofTasks_le_ofFlights known
  have bound := placed number
  rw [next, Census.ofTasks_cons] at held
  simp [Census.total, Task.holds] at held bound
  omega

/-! ### Workers that nobody attends to -/

/-- A worker that is counted once in the table is in exactly one slot. -/
theorem existsUnique_iff_attendance (registry : Registry) (number : WorkerId)
    (once : (attendance number).ofStates registry.states ≤ 1) :
    (∃! id, registry.state? id = some (.running number)) ↔
      0 < (attendance number).ofStates registry.states := by
  have counted : ∀ id, registry.state? id = some (.running number) →
      (attendance number).ofSlot registry id = 1 := by
    intro id there
    rw [(attendance number).ofSlot_of_state there, slot_attendance, if_pos rfl]
  constructor
  · rintro ⟨id, there, -⟩
    have here := counted id there
    have bound := (attendance number).ofSlot_le registry id
    omega
  · intro positive
    obtain ⟨id, state, there, counts⟩ := (attendance number).exists_of_ofStates_pos positive
    have running : state = .running number := by
      by_contra other
      rw [slot_attendance, if_neg other] at counts
      exact Nat.lt_irrefl 0 counts
    subst running
    refine ⟨id, there, fun other elsewhere => ?_⟩
    by_contra different
    have both := (attendance number).ofSlot_add_ofSlot_le registry different
    rw [counted id there, counted other elsewhere] at both
    omega

/-- Where a worker is displaced, there is a claim on its name beside that of its slot. -/
theorem claims_of_displaces {system : System} {move : Move} {number : WorkerId}
    (displaced : system.displaces? move = some number) :
    ∃ id, system.registry.state? id = some (.running number) ∧ 2 ≤ (claims id).total system := by
  obtain ⟨task, found, displaced⟩ := Option.bind_eq_some_iff.mp displaced
  obtain ⟨id, writes, runs⟩ : ∃ id, task.writesBack id = true ∧
      system.registry.runner? id = some number := by
    cases task <;> first
      | exact ⟨_, decide_eq_true rfl, displaced⟩
      | cases displaced
  -- the task has a claim on the name, and so has the worker in the slot
  have there : system.registry.state? id = some (.running number) := by
    unfold Registry.runner? at runs
    split at runs
    · cases runs
      assumption
    all_goals cases runs
  obtain ⟨flight, inFlight, next⟩ : ∃ flight ∈ system.flights,
      flight.todo.head? = some task := by
    cases move with
    | proceed flightNumber answer =>
      obtain ⟨flight, known, next⟩ := Option.bind_eq_some_iff.mp found
      exact ⟨flight, List.mem_of_getElem? known, next⟩
    | _ => cases found
  exact ⟨id, there,
    two_le_claims there (by simp) inFlight (List.mem_of_head? next) writes⟩

/-- While there is at most one claim on each name, nobody is displaced. -/
theorem displaces?_eq_none {system : System} (move : Move)
    (alone : ∀ id, (claims id).total system ≤ 1) : system.displaces? move = none := by
  rw [Option.eq_none_iff_forall_ne_some]
  intro number displaced
  obtain ⟨id, -, both⟩ := claims_of_displaces displaced
  exact Nat.not_succ_le_self 1 (both.trans (alone id))

/-- Whether in the course of a schedule a session is admitted under a name only when no call that
was begun before still has to write to the slot of the name. -/
def AdmitsInTurn (system : System) (schedule : List Move) : Prop :=
  ∀ before move after id, schedule = before ++ move :: after →
    (system.run before).admits id move = true →
      (claims id).ofFlights (system.run before).flights = 0

/-- As long as sessions are admitted in turn, there is at most one claim on each name, and nobody
is displaced. -/
theorem displaced_eq_nil (settings : Settings) (schedule : List Move)
    (inTurn : (new settings).AdmitsInTurn schedule) :
    (∀ id, (claims id).total ((new settings).run schedule) ≤ 1) ∧
      (new settings).displaced schedule = [] := by
  refine run_induction (new settings) (fun schedule system =>
    (new settings).AdmitsInTurn schedule → (∀ id, (claims id).total system ≤ 1) ∧
      (new settings).displaced schedule = []) (fun _ => ⟨fun _ => Nat.zero_le _, rfl⟩)
    (fun schedule move before step inTurn => ?_) schedule inTurn
  obtain ⟨alone, none⟩ := before fun first next rest id split => by
    exact inTurn first next (rest ++ [move]) id (by rw [split]; simp)
  refine ⟨fun id => ?_, ?_⟩
  · have added := (step.claims_le id).1
    have bound := alone id
    cases admitted : ((new settings).run schedule).admits id move with
    | false =>
      rw [admitted, Bool.toNat_false] at added
      omega
    | true =>
      have idle := inTurn schedule move [] id rfl admitted
      have empty := (claims id).ofSlot_of_gone (state?_of_admits admitted)
      rw [← ofStates_claims] at empty
      have free : (claims id).total ((new settings).run schedule) = 0 := by
        rw [Census.total, idle, empty]
      rw [admitted, Bool.toNat_true, free] at added
      exact added
  · rw [displaced_concat, none, displaces?_eq_none move alone]
    rfl

/-- **When no call is in progress, the workers that nobody attends to are those that were
displaced.** There are none if sessions are admitted in turn only. -/
theorem orphan_iff_displaced (settings : Settings) (schedule : List Move)
    (quiet : ((new settings).run schedule).isQuiet = true) :
    (∀ number, ((new settings).run schedule).registry.IsOrphan number ↔
        number ∈ (new settings).displaced schedule) ∧
      ((new settings).AdmitsInTurn schedule →
        ∀ number, ¬ ((new settings).run schedule).registry.IsOrphan number) := by
  have exact : ∀ number, ((new settings).run schedule).registry.IsOrphan number ↔
      number ∈ (new settings).displaced schedule := by
    intro number
    have places := attendance_eq settings schedule number
    rw [Census.total, (attendance number).ofFlights_of_quiet quiet] at places
    have bound : knows ((new settings).run schedule).registry.standings number ≤ 1 :=
      Bool.toNat_le _
    have slots := existsUnique_iff_attendance ((new settings).run schedule).registry number
      (by omega)
    rw [← List.count_pos_iff]
    constructor
    · rintro ⟨worker, known, awaited, nowhere⟩
      rw [slots] at nowhere
      have found := Registry.standings_getElem? _ known
      have there : knows ((new settings).run schedule).registry.standings number = 1 := by
        simp [knows, (List.getElem?_eq_some_iff.mp found).1]
      have free : waits ((new settings).run schedule).registry.standings number = 0 := by
        simp [waits, found, Worker.standing, awaited]
      omega
    · intro displaced
      have there : 0 < knows ((new settings).run schedule).registry.standings number := by omega
      have inside : number < ((new settings).run schedule).registry.workers.length := by
        by_contra beyond
        simp [knows, Registry.standings, beyond] at there
      obtain ⟨worker, known⟩ : ∃ worker,
          ((new settings).run schedule).registry.worker? number = some worker :=
        ⟨_, List.getElem?_eq_getElem inside⟩
      have free : waits ((new settings).run schedule).registry.standings number = 0 := by omega
      refine ⟨worker, known, ?_, by rw [slots]; omega⟩
      simpa [waits, Registry.standings_getElem? _ known, Worker.standing] using free
  refine ⟨exact, fun inTurn number orphan => ?_⟩
  have displaced := (exact number).mp orphan
  rw [(displaced_eq_nil settings schedule inTurn).2] at displaced
  cases displaced

end System

/-- A program that only jumps to itself. -/
def loopRom : Rom := ⟨[0x12, 0x00], ⟨60, by decide, by decide⟩, ⟨10, by decide, by decide⟩⟩

/-- While a session is being started it is stopped, and one of the same name is started before the
first call gets to its slot. -/
def restart : List Move :=
  let on (flight : Nat) : Move := .proceed flight (.ok ())
  [.begin (.start ⟨"s"⟩ loopRom 0), on 0, on 0, on 0,
    .begin (.session ⟨"s"⟩ .stop), on 1, on 1,
    .begin (.start ⟨"s"⟩ loopRom 0), on 2, on 2, on 2, on 2, on 2, on 2,
    on 0, on 0, on 0]

namespace System

/-- The first call finds the worker of the second in its slot and puts its own there. -/
theorem orphan_iff_displaced_restart :
    ((new Settings.default).run restart).isQuiet = true ∧
      ((new Settings.default).run restart).registry.IsOrphan 0 :=
  ⟨by decide,
    ((orphan_iff_displaced Settings.default restart (by decide)).1 0).mpr (by decide)⟩

/-- It is not so that every worker is attended to when no call is in progress. -/
theorem exists_orphan_of_quiet :
    ¬ ∀ (settings : Settings) (schedule : List Move),
      ((new settings).run schedule).isQuiet = true →
        ∀ number, ¬ ((new settings).run schedule).registry.IsOrphan number := by
  intro attended
  refine attended Settings.default restart (by decide) 0 ⟨_, rfl, by decide, ?_⟩
  rintro ⟨id, there, -⟩
  have states : ((new Settings.default).run restart).registry.states = [("s", .running 1)] := by
    decide
  rw [Registry.state?_eq_lookup, states, List.lookup_cons] at there
  split at there <;> simp at there

end System

end Arcade
