/-
**What a task leads to, case by case.**

The registry's tasks are many, and every law about them is an induction over schedules. So the case
distinctions of the tasks are made here once. `Task.Yields` lists what a task may lead to, with what
it found when it did, `Call.Begins` lists what a call has to do at first, and `System.Step` lists
what a move may do. The theorems about schedules look at these lists and never at the definitions of
the tasks.

Only few parts of the registry matter to who owns what: the state of each slot (`states`), and of
each worker its session, its sink, its phase and whether it was waited for (`standings`). Tasks that
change neither, nor deal with a sink, only watch (`Task.watches`). A worker's step is a turn
(`Worker.Turn`), of which the others see the phase and what is delivered.

* `Task.yields_of_step`: whatever a task does is on the list;
* `Call.begins`: whatever a call has to do at first is on the list;
* `Worker.turn_step`: whatever a worker does is on the list;
* `System.step_move`: whatever a move does is on the list;
* `System.run_induction`: what holds at first and is kept by every move holds after every schedule;
* `System.flights_induction`: what each task of a call keeps holds of every call.
-/

import Arcade.Registry.Schedule
import Mathlib.Data.List.Induction

namespace Arcade

/-! ### Slots and workers, as far as ownership goes -/

/-- What the others see of a worker. -/
structure Standing where
  id : SessionId
  sink : SinkId
  phase : Phase
  joined : Bool
  deriving DecidableEq

/-- What the others see of a worker. -/
def Worker.standing (worker : Worker) : Standing :=
  ⟨worker.session.id, worker.sink, worker.phase, worker.joined⟩

/-- What the others see of a worker in another phase. -/
def Standing.turned (standing : Standing) (phase : Phase) : Standing :=
  ⟨standing.id, standing.sink, phase, standing.joined⟩

/-- What the others see of a worker once somebody waited for its end. -/
def Standing.settled (standing : Standing) : Standing :=
  ⟨standing.id, standing.sink, standing.phase, true⟩

namespace Registry

/-- The states of the slots, by name. -/
def states (registry : Registry) : List (String × SlotState) :=
  registry.table.entries.map fun entry => (entry.1, entry.2.state)

/-- The state of a session's slot, if the session is registered. -/
def state? (registry : Registry) (id : SessionId) : Option SlotState :=
  (registry.slot? id).map Slot.state

/-- The standings of the workers, in the order of their numbers. -/
def standings (registry : Registry) : List Standing := registry.workers.map Worker.standing

/-- The registry after the sessions whose workers are done were taken out of the table. -/
def reaped (registry : Registry) : Registry :=
  registry.finished.foldl (fun kept entry => kept.forget entry.1) registry

/-- The registry after what a session's slot holds was given up. -/
def vacate (registry : Registry) (id : SessionId) : Registry :=
  match registry.slot? id with
  | some slot => registry.abandon slot.state
  | none => registry

end Registry

/-! ### The list for tasks -/

/-- Whether a task takes part in no session's life: it only watches, steers or answers. -/
def Task.watches : Task → Bool
  | .seek _ _ | .steer _ _ _ | .record _ _ | .press _ _ _ | .sweep | .shutdown | .count _
  | .contains _ | .list | .catalog => true
  | _ => false

open Registry in
/-- What a task may lead to. -/
inductive Task.Yields (registry : Registry) : Task → Progress → Prop
  | built {id rom seed sink machine} :
    Yields registry (.build id rom seed sink)
      (registry.proceed [.reap, .reserve ⟨.start, id, rom, machine, sink⟩])
  | unfit {id rom seed sink cause} :
    Yields registry (.build id rom seed sink) (registry.rejection id sink cause)
  | rebuilt {id rom seed machine} :
    Yields registry (.rebuild id rom seed)
      (registry.proceed [.unload id (.replace rom machine)])
  | misfit {id rom seed cause} (large : programLimit < rom.bytes.length) :
    Yields registry (.rebuild id rom seed) (registry.refuse (.machine cause))
  | reaped :
    Yields registry .reap
      (registry.reaped.proceed
        (registry.finished.map fun entry => .halt entry.1 entry.2 .close))
  | rejected {launch cause} (why : registry.refusal? launch.id = some cause) :
    Yields registry (.reserve launch) (registry.rejection launch.id launch.sink cause)
  | admitted {launch} (room : registry.refusal? launch.id = none)
      (vacant : registry.slot? launch.id = none) :
    Yields registry (.reserve launch)
      ((registry.putSlot launch.id ⟨registry.now, .pending⟩).proceed [.acknowledge launch])
  | told {sink reason} :
    Yields registry (.tell sink reason)
      ((registry.deliver sink (.message (.error reason))).proceed [])
  | unheard {sink reason} : Yields registry (.tell sink reason) (registry.proceed [])
  | closed {sink} : Yields registry (.close sink) ((registry.deliver sink .closed).proceed [])
  | acknowledged {launch} :
    Yields registry (.acknowledge launch)
      ((registry.deliver launch.sink (.message (.started launch.id))).proceed [.spawn launch])
  | unacknowledged {launch cause} :
    Yields registry (.acknowledge launch)
      ((registry.deliver launch.sink .dropped).proceed
        [.withdraw launch.kind launch.id (.sink cause)])
  | withdrawn {kind id cause notices} :
    Yields registry (.withdraw kind id cause)
      { ((registry.vacate id).forget id).refuse cause with notices }
  | spawned {launch} :
    Yields registry (.spawn launch)
      ({ registry with workers := registry.workers ++ [registry.launched launch] }.proceed
        [.publish launch.id registry.workers.length])
  | unspawned {launch reason} :
    Yields registry (.spawn launch)
      ((registry.deliver launch.sink .dropped).proceed
        [.withdraw launch.kind launch.id (.io reason)])
  | published {id worker slot} (there : registry.slot? id = some slot) :
    Yields registry (.publish id worker)
      (((registry.vacate id).putSlot id ⟨registry.now, .running worker⟩).answer (.ok .done))
  | superseded {id worker} (gone : registry.slot? id = none) :
    Yields registry (.publish id worker)
      (registry.proceed [.halt id worker .close, .answer (.error (.notFound id))])
  | halted {id worker custody stopped} (same : stopped.table = registry.table)
      (standings : stopped.standings = registry.standings)
      (events : stopped.events = registry.events) (sinks : stopped.sinks = registry.sinks) :
    Yields registry (.halt id worker custody)
      (Registry.proceed stopped [.join id worker custody])
  | ended {id number custody worker} (known : registry.worker? number = some worker)
      (complete : worker.phase = .ended) :
    Yields registry (.join id number custody)
      ((registry.modifyWorker number fun worker => { worker with joined := true }).proceed
        (Custody.tasks id (some worker.sink) custody))
  | broken {id number custody worker notices} (known : registry.worker? number = some worker)
      (complete : worker.phase = .broken) :
    Yields registry (.join id number custody)
      { (registry.modifyWorker number fun worker => { worker with joined := true }).proceed
          (Custody.tasks id none custody) with notices }
  | parked {id sink purpose slot} (there : registry.slot? id = some slot) :
    Yields registry (.park id (some sink) purpose)
      (((registry.vacate id).putSlot id { slot with state := .unloaded sink }).proceed
        (Unloading.tasks id purpose))
  | bereft {id purpose slot} (there : registry.slot? id = some slot) :
    Yields registry (.park id none purpose)
      (((registry.vacate id).forget id).refuse (.panicked id))
  | unparked {id sink purpose} (gone : registry.slot? id = none) :
    Yields registry (.park id (some sink) purpose)
      (registry.proceed (.close sink :: Unloading.tasks id purpose))
  | vanished {id purpose} (gone : registry.slot? id = none) :
    Yields registry (.park id none purpose) (registry.proceed (Unloading.tasks id purpose))
  | removed {id slot} (there : registry.slot? id = some slot) :
    Yields registry (.remove id)
      ((registry.forget id).proceed
        (SlotState.releaseTasks id slot.state ++ [.answer (.ok .done)]))
  | missed {id} (gone : registry.slot? id = none) :
    Yields registry (.remove id) (registry.refuse (.notFound id))
  | unloaded {id purpose slot worker} (there : registry.slot? id = some slot)
      (running : slot.state = .running worker) :
    Yields registry (.unload id purpose)
      ((registry.putSlot id { slot with state := .pending }).proceed
        [.halt id worker (.keep purpose)])
  | passed {id rom machine slot} (there : registry.slot? id = some slot)
      (idle : ∀ worker, slot.state ≠ .running worker) :
    Yields registry (.unload id (.replace rom machine))
      (registry.proceed [.take id rom machine])
  | idle {id slot} (there : registry.slot? id = some slot) :
    Yields registry (.unload id .park) (registry.refuse (.notRunning id))
  | unknown {id purpose} (gone : registry.slot? id = none) :
    Yields registry (.unload id purpose) (registry.refuse (.notFound id))
  | taken {id rom machine slot sink} (there : registry.slot? id = some slot)
      (unloaded : slot.state = .unloaded sink) :
    Yields registry (.take id rom machine)
      ((registry.putSlot id { slot with state := .pending }).proceed
        [.acknowledge ⟨.relaunch, id, rom, machine, sink⟩])
  | busy {id rom machine slot} (there : registry.slot? id = some slot) :
    Yields registry (.take id rom machine) (registry.refuse (.notRunning id))
  | lost {id rom machine} (gone : registry.slot? id = none) :
    Yields registry (.take id rom machine) (registry.refuse (.notFound id))
  | answered {reply} : Yields registry (.answer reply) (registry.answer reply)
  | watched {task progress} (watches : task.watches = true)
      (states : progress.registry.states = registry.states)
      (standings : progress.registry.standings = registry.standings)
      (events : progress.registry.events = registry.events)
      (sinks : progress.registry.sinks = registry.sinks)
      (todo : ∀ next ∈ progress.todo,
        next.watches = true ∨ (∃ id, next = .remove id) ∨ ∃ reply, next = .answer reply) :
    Yields registry task progress

/-! ### Every task keeps to the list -/

namespace Registry

variable (registry : Registry)

theorem state?_of_slot? {id : SessionId} {slot : Slot} (there : registry.slot? id = some slot) :
    registry.state? id = some slot.state := by
  rw [state?, there]
  rfl

/-- Changes to a worker that nobody sees. -/
theorem standings_modifyWorker (number : WorkerId) (change : Worker → Worker)
    (unseen : ∀ worker, registry.worker? number = some worker →
      (change worker).standing = worker.standing) :
    (registry.modifyWorker number change).standings = registry.standings := by
  refine List.ext_getElem? fun index => ?_
  simp only [standings, modifyWorker, List.getElem?_map, List.getElem?_modify]
  by_cases same : number = index
  · subst same
    cases known : registry.workers[number]? with
    | none => rfl
    | some worker => simpa using unseen worker known
  · simp [same]

theorem standings_getElem? {number : WorkerId} {worker : Worker}
    (known : registry.worker? number = some worker) :
    registry.standings[number]? = some worker.standing := by
  rw [standings, List.getElem?_map]
  exact congrArg (Option.map Worker.standing) known

/-- A worker that was waited for is on record as such. -/
theorem standings_settled {number : WorkerId} {worker : Worker}
    (known : registry.worker? number = some worker) :
    (registry.modifyWorker number fun worker => { worker with joined := true }).standings =
      registry.standings.set number worker.standing.settled := by
  have found : registry.workers[number]? = some worker := known
  refine List.ext_getElem? fun index => ?_
  simp only [standings, modifyWorker, List.getElem?_map, List.getElem?_modify, List.getElem?_set,
    List.length_map]
  by_cases same : number = index
  · subst same
    rw [if_pos rfl, if_pos (List.getElem?_eq_some_iff.mp found).1, found]
    simp [Worker.standing, Standing.settled]
  · simp [same]

/-- Putting a slot in whose state is the one that is there changes no state. -/
theorem states_putSlot_of_same {id : SessionId} {slot : Slot} (kept : Slot)
    (there : registry.slot? id = some slot) (same : kept.state = slot.state) :
    (registry.putSlot id kept).states = registry.states := by
  have sorted := registry.table.sorted
  have found : registry.table.entries.lookup id.name = some slot := there
  simp only [states, putSlot, NameTable.insert]
  generalize registry.table.entries = entries at sorted found
  induction entries with
  | nil => simp at found
  | cons entry rest ih =>
    obtain ⟨name, other⟩ := entry
    rw [List.map_cons, List.pairwise_cons] at sorted
    unfold insertEntry
    split
    · rename_i less
      -- the slot cannot stand behind a name that comes after its own
      have absent : id.name ∉ ((name, other) :: rest).map Prod.fst := by
        intro member
        rcases List.mem_cons.mp (by simpa only [List.map_cons] using member) with equal | behind
        · exact String.lt_irrefl _ (equal ▸ less)
        · exact String.lt_irrefl _ (String.lt_trans less (sorted.1 _ behind))
      rw [lookup_eq_none_of_not_mem absent] at found
      cases found
    · split
      · rename_i equal
        rw [← equal, List.lookup_cons_self] at found
        cases found
        simp [equal, same]
      · rename_i different
        have differs : (id.name == name) = false := by simpa using different
        rw [List.lookup_cons, differs] at found
        rw [List.map_cons, List.map_cons, ih sorted.2 found]

theorem id_putParams {session queued : Session Console} {message : ParamMessage}
    (accepted : session.putParams message = .ok queued) : queued.id = session.id := by
  simp only [Session.putParams, bind, Except.bind] at accepted
  split at accepted
  · cases accepted
  · cases accepted
    rfl

theorem id_steered (id : SessionId) (session : Session Console) (steering : Steering) :
    (steered id session steering).2.id = session.id := by
  cases steering with
  | change change =>
    simp only [steered]
    split
    · rename_i queued accepted
      exact id_putParams accepted
    · rfl
  | _ => rfl

theorem id_stop (session : Session Console) : session.stop.id = session.id := by
  simp only [Session.stop]
  split
  · rename_i woken accepted
    have kept := id_putParams accepted
    exact kept
  · rfl

theorem vacate_of_slot? {id : SessionId} {slot : Slot} (there : registry.slot? id = some slot) :
    registry.vacate id = registry.abandon slot.state := by
  rw [vacate, there]

theorem yields_build (id : SessionId) (rom : Rom) (seed : UInt64) (sink : SinkId) :
    (Task.build id rom seed sink).Yields registry (registry.build id rom seed sink) := by
  unfold build
  split
  · exact .built
  · exact .unfit

theorem yields_rebuild (id : SessionId) (rom : Rom) (seed : UInt64) :
    (Task.rebuild id rom seed).Yields registry (registry.rebuild id rom seed) := by
  unfold rebuild
  split
  · exact .rebuilt
  · rename_i cause failed
    exact .misfit (Machine.load_eq_error.mp failed).2

theorem yields_reserve (launch : Launch) :
    (Task.reserve launch).Yields registry (registry.reserve launch) := by
  unfold reserve
  split
  · rename_i cause why
    exact .rejected why
  · rename_i room
    refine .admitted room ?_
    unfold refusal? at room
    split at room
    · cases room
    · rename_i absent
      simpa [NameTable.contains, slot?] using absent

theorem yields_publish (id : SessionId) (worker : WorkerId) :
    (Task.publish id worker).Yields registry (registry.publish id worker) := by
  unfold publish
  split
  · rename_i slot there
    rw [← registry.vacate_of_slot? there]
    exact .published there
  · rename_i gone
    exact .superseded gone

/-- A worker that is stopped looks the same to the others. -/
theorem yields_halt (id : SessionId) (worker : WorkerId) (custody : Custody) :
    (Task.halt id worker custody).Yields registry (registry.halt id worker custody) := by
  refine .halted rfl (registry.standings_modifyWorker _ _ fun stopped _ => ?_) rfl rfl
  simp [Worker.standing, id_stop]

/-- The end of a worker is waited for until it comes. -/
theorem yields_join {id : SessionId} {number : WorkerId} {custody : Custody} {progress : Progress}
    (done : registry.join id number custody = some progress) :
    (Task.join id number custody).Yields registry progress := by
  unfold join at done
  split at done
  · cases done
  · rename_i worker known
    split at done
    · rename_i complete
      cases done
      exact .ended known complete
    · rename_i complete
      cases done
      exact .broken known complete
    all_goals cases done

theorem yields_park (id : SessionId) (sink : Option SinkId) (purpose : Unloading) :
    (Task.park id sink purpose).Yields registry (registry.park id sink purpose) := by
  unfold park
  cases there : registry.slot? id with
  | none =>
    cases sink with
    | none => exact .vanished there
    | some sink => exact .unparked there
  | some slot =>
    cases sink with
    | none =>
      simp only [← registry.vacate_of_slot? there]
      exact .bereft there
    | some sink =>
      simp only [← registry.vacate_of_slot? there]
      exact .parked there

theorem yields_remove (id : SessionId) :
    (Task.remove id).Yields registry (registry.remove id) := by
  unfold remove
  split
  · rename_i gone
    exact .missed gone
  · rename_i slot there
    exact .removed there

theorem yields_unload (id : SessionId) (purpose : Unloading) :
    (Task.unload id purpose).Yields registry (registry.unload id purpose) := by
  unfold unload
  split
  · rename_i gone
    exact .unknown gone
  · rename_i slot there
    cases held : slot.state with
    | running worker => exact .unloaded there held
    | unloaded sink =>
      cases purpose with
      | park => exact .idle there
      | replace rom machine => exact .passed there (by simp [held])
    | pending =>
      cases purpose with
      | park => exact .idle there
      | replace rom machine => exact .passed there (by simp [held])

theorem yields_take (id : SessionId) (rom : Rom) (machine : Machine) :
    (Task.take id rom machine).Yields registry (registry.take id rom machine) := by
  unfold take
  split
  · rename_i gone
    exact .lost gone
  · rename_i slot there
    cases held : slot.state with
    | unloaded sink => exact .taken there held
    | running worker => exact .busy there
    | pending => exact .busy there

/-- A refusal that nothing comes of. -/
private theorem yields_refuse {task : Task} (watches : task.watches = true) (cause : SessionError)
    (notices : List RegistryNotice) :
    task.Yields registry { registry.refuse cause with notices } :=
  .watched watches rfl rfl rfl rfl (by simp [refuse, answer])

theorem yields_seek (id : SessionId) (steering : Steering) :
    (Task.seek id steering).Yields registry (registry.seek id steering) := by
  unfold seek
  split
  · exact registry.yields_refuse rfl _ _
  · split
    · exact .watched rfl rfl rfl rfl rfl (by simp [proceed, Task.watches])
    all_goals exact registry.yields_refuse rfl _ _

theorem yields_steer (id : SessionId) (number : WorkerId) (steering : Steering) :
    (Task.steer id number steering).Yields registry (registry.steer id number steering) := by
  simp only [steer]
  split
  · exact registry.yields_refuse rfl _ _
  · rename_i worker known
    refine .watched rfl rfl (registry.standings_modifyWorker _ _ fun other same => ?_) rfl rfl
      (by simp [answer])
    have equal : other = worker := Option.some.inj (same.symm.trans known)
    simp [Worker.standing, id_steered, equal]

theorem yields_record (id : SessionId) (event : KeyEvent) :
    (Task.record id event).Yields registry (registry.record id event) := by
  unfold record
  split
  · exact registry.yields_refuse rfl _ _
  · rename_i slot there
    have same :=
      registry.states_putSlot_of_same { slot with lastActive := registry.now } there rfl
    split
    · exact .watched rfl same rfl rfl rfl (by simp [proceed, Task.watches])
    all_goals exact .watched rfl same rfl rfl rfl (by simp [refuse, answer])

theorem yields_press (id : SessionId) (number : WorkerId) (event : KeyEvent) :
    (Task.press id number event).Yields registry (registry.press id number event) := by
  unfold press
  split
  · exact registry.yields_refuse rfl _ _
  · rename_i worker known
    split
    · refine .watched rfl rfl (registry.standings_modifyWorker _ _ fun other same => ?_) rfl rfl
        (by simp [answer])
      simp [Worker.standing]
    · exact registry.yields_refuse rfl _ _

/-- Sessions are stopped by name, one after the other, before the answer. -/
private theorem yields_stops {task : Task} (watches : task.watches = true) (ids : List SessionId)
    (reply : Reply) :
    task.Yields registry (registry.proceed (ids.map Task.remove ++ [.answer reply])) := by
  refine .watched watches rfl rfl rfl rfl fun next member => ?_
  rw [proceed, List.mem_append, List.mem_map, List.mem_singleton] at member
  obtain ⟨id, -, rfl⟩ | rfl := member
  · exact .inr (.inl ⟨id, rfl⟩)
  · exact .inr (.inr ⟨reply, rfl⟩)

end Registry

open Registry in
/-- **Whatever a task does is on the list.** -/
theorem Task.yields_of_step {registry : Registry} {answer : Except SinkError Unit} {task : Task}
    {progress : Progress} (done : task.step registry answer = some progress) :
    task.Yields registry progress := by
  cases task with
  | build => exact Option.some.inj done ▸ registry.yields_build _ _ _ _
  | rebuild => exact Option.some.inj done ▸ registry.yields_rebuild _ _ _
  | reap => exact Option.some.inj done ▸ .reaped
  | reserve => exact Option.some.inj done ▸ registry.yields_reserve _
  | tell sink reason =>
    cases answer with
    | ok _ => exact Option.some.inj done ▸ .told
    | error _ => exact Option.some.inj done ▸ .unheard
  | close => exact Option.some.inj done ▸ .closed
  | acknowledge launch =>
    cases answer with
    | ok _ => exact Option.some.inj done ▸ .acknowledged
    | error _ => exact Option.some.inj done ▸ .unacknowledged
  | withdraw => exact Option.some.inj done ▸ .withdrawn
  | spawn launch =>
    cases answer with
    | ok _ => exact Option.some.inj done ▸ .spawned
    | error _ => exact Option.some.inj done ▸ .unspawned
  | publish => exact Option.some.inj done ▸ registry.yields_publish _ _
  | halt => exact Option.some.inj done ▸ registry.yields_halt _ _ _
  | join => exact registry.yields_join done
  | park => exact Option.some.inj done ▸ registry.yields_park _ _ _
  | remove => exact Option.some.inj done ▸ registry.yields_remove _
  | unload => exact Option.some.inj done ▸ registry.yields_unload _ _
  | take => exact Option.some.inj done ▸ registry.yields_take _ _ _
  | seek => exact Option.some.inj done ▸ registry.yields_seek _ _
  | steer => exact Option.some.inj done ▸ registry.yields_steer _ _ _
  | record => exact Option.some.inj done ▸ registry.yields_record _ _
  | press => exact Option.some.inj done ▸ registry.yields_press _ _ _
  | sweep => exact Option.some.inj done ▸ registry.yields_stops rfl _ _
  | shutdown => exact Option.some.inj done ▸ registry.yields_stops rfl _ _
  | count | contains | list | catalog =>
    exact Option.some.inj done ▸ .watched rfl rfl rfl rfl rfl (by simp [Registry.answer])
  | answer => exact Option.some.inj done ▸ .answered

/-! ### The list for calls -/

/-- What a call has to do at first. -/
inductive Call.Begins (sink : SinkId) : Call → List Task → Prop
  | start {id rom seed} : Begins sink (.start id rom seed) [.build id rom seed sink]
  | stop {id} : Begins sink (.session id .stop) [.remove id]
  | unload {id} : Begins sink (.session id .unload) [.unload id .park]
  | changeRom {id rom seed} : Begins sink (.session id (.changeRom rom seed)) [.rebuild id rom seed]
  | steer {id request} (steering) : Begins sink (.session id request) [.reap, .seek id steering]
  | keep {id wish} : Begins sink (.session id (.change wish)) [.answer (.ok .done)]
  | press {id event} : Begins sink (.session id (.press event)) [.reap, .record id event]
  | contains {id} : Begins sink (.session id .contains) [.reap, .contains id]
  | sweep : Begins sink .sweep [.sweep]
  | shutdown : Begins sink .shutdown [.shutdown]
  | size : Begins sink .size [.reap, .count .size]
  | isEmpty : Begins sink .isEmpty [.reap, .count .vacancy]
  | stats : Begins sink .stats [.reap, .count .stats]
  | ids : Begins sink .ids [.list]
  | catalog : Begins sink .catalog [.catalog]

/-- **Whatever a call has to do at first is on the list.** -/
theorem Call.begins (call : Call) (sink : SinkId) : call.Begins sink (call.tasks sink) := by
  cases call with
  | session id request =>
    cases request with
    | change wish =>
      simp only [tasks, Request.tasks]
      split
      · exact .keep
      · exact .steer _
    | _ => constructor
  | _ => constructor

/-! ### The list for workers -/

/-- What a worker's step may lead to. -/
inductive Worker.Turn (worker : Worker) : Worker → List Delivery → Prop
  | idle : Turn worker worker []
  | stopped {after} (was : worker.phase = .ready)
      (next : after.standing = worker.standing.turned .ended) : Turn worker after []
  | ran {after pixels} (was : worker.phase = .ready)
      (next : after.standing = worker.standing.turned (.offering pixels)) :
    Turn worker after []
  | failed {after cause} (was : worker.phase = .ready)
      (next : after.standing = worker.standing.turned (.reporting cause)) :
    Turn worker after []
  | shown {after pixels} (was : worker.phase = .offering pixels)
      (next : after.standing = worker.standing.turned .ready) :
    Turn worker after [.message (.frame pixels)]
  | declined {after pixels} (was : worker.phase = .offering pixels)
      (next : after.standing = worker.standing.turned .ended) : Turn worker after []
  | told {after cause} (was : worker.phase = .reporting cause)
      (next : after.standing = worker.standing.turned .ended) :
    Turn worker after [.message (.error cause.message)]
  | unheard {after cause} (was : worker.phase = .reporting cause)
      (next : after.standing = worker.standing.turned .ended) : Turn worker after []
  | broke {after} (was : worker.isFinished = false)
      (next : after.standing = worker.standing.turned .broken) :
    Turn worker after [.dropped]

namespace Session

variable {M : Type} (session : Session M)

theorem id_applyChange (change : ParamChange) : (session.applyChange change).id = session.id := by
  unfold applyChange
  split <;> split <;> rfl

theorem id_applyParams : session.applyParams.id = session.id := by
  have kept (changes : List ParamChange) (first : Session M) :
      (changes.foldl applyChange first).id = first.id := by
    induction changes generalizing first with
    | nil => rfl
    | cons change rest ih => rw [List.foldl_cons, ih, id_applyChange]
  exact kept _ _

end Session

namespace Worker

/-- A worker's step changes its phase and nothing else that the others see. -/
theorem Turn.standing_eq {worker after : Worker} {deliveries : List Delivery}
    (turn : worker.Turn after deliveries) :
    after.standing = worker.standing.turned after.phase := by
  cases turn with
  | idle => rfl
  | _ =>
    rename_i next
    have phase : after.phase = _ := congrArg Standing.phase next
    rw [next, phase]
    rfl

/-- **Whatever a worker does is on the list.** -/
theorem turn_step (worker : Worker) (now : Moment) (reaction : Reaction) :
    worker.Turn (worker.step now reaction).worker (worker.step now reaction).deliveries := by
  cases was : worker.phase with
  | ready =>
    cases gate : worker.session.gate with
    | paused =>
      simp only [step, was, Session.begin, gate]
      exact .idle
    | stopped =>
      simp only [step, was, Session.begin, gate]
      exact .stopped was rfl
    | running =>
      cases fault : (Steppable.cycle worker.session.machine
          worker.session.cyclesPerFrame.toNat).fault with
      | some cause =>
        simp only [step, was, Session.begin, gate, fault]
        exact .failed was rfl
      | none =>
        simp only [step, was, Session.begin, gate, fault]
        exact .ran was rfl
  | offering pixels =>
    cases reaction with
    | answers answer =>
      cases answer with
      | ok _ =>
        simp only [step, was, Session.concludeFrame, answered]
        refine .shown was ?_
        simp [standing, Standing.turned, Session.id_applyParams]
      | error cause =>
        simp only [step, was, Session.concludeFrame, answered]
        exact .declined was rfl
    | breaks =>
      simp only [step, was]
      refine .broke ?_ rfl
      rw [isFinished, was]
      rfl
  | reporting cause =>
    cases reaction with
    | answers answer =>
      cases answer with
      | ok _ =>
        simp only [step, was, answered]
        exact .told was rfl
      | error _ =>
        simp only [step, was, answered]
        exact .unheard was rfl
    | breaks =>
      simp only [step, was]
      refine .broke ?_ rfl
      rw [isFinished, was]
      rfl
  | ended =>
    simp only [step, was]
    exact .idle
  | broken =>
    simp only [step, was]
    exact .idle

end Worker

/-! ### The list for moves -/

/-- A call after a task of it was done. -/
def Flight.advance (flight : Flight) (progress : Progress) (later : List Task) : Flight :=
  { flight with
    todo := progress.todo ++ later
    reply := progress.reply <|> flight.reply
    notices := progress.notices.reverse ++ flight.notices }

/-- The registry after a worker's turn. -/
def Registry.turn (registry : Registry) (number : WorkerId) (worker after : Worker)
    (deliveries : List Delivery) : Registry :=
  { registry with
    workers := registry.workers.set number after
    events := (deliveries.map fun delivery =>
      (⟨worker.sink, delivery, some number⟩ : Event)).reverse ++ registry.events }

theorem Registry.standings_turn (registry : Registry) (number : WorkerId) (worker after : Worker)
    (deliveries : List Delivery) :
    (registry.turn number worker after deliveries).standings =
      registry.standings.set number after.standing := by
  simp [standings, turn]

/-- After a turn, whoever is on record is the worker whose turn it was, or was so before. -/
theorem Registry.standings_turn_cases {registry : Registry} {number index : WorkerId}
    {worker after : Worker} {deliveries : List Delivery} {standing : Standing}
    (known : registry.worker? number = some worker)
    (found : (registry.turn number worker after deliveries).standings[index]? = some standing) :
    (index = number ∧ standing = after.standing) ∨
      index ≠ number ∧ registry.standings[index]? = some standing := by
  rw [standings_turn] at found
  by_cases same : index = number
  · subst same
    have inside := (List.getElem?_eq_some_iff.mp (registry.standings_getElem? known)).1
    rw [List.getElem?_set_self inside] at found
    exact .inl ⟨rfl, (Option.some.inj found).symm⟩
  · rw [List.getElem?_set_ne (Ne.symm same)] at found
    exact .inr ⟨same, found⟩

/-- The task that a move is to do, if it lets a call go on that has something to do. -/
def System.task? (system : System) : Move → Option Task
  | .proceed number _ => system.flights[number]?.bind fun flight => flight.todo.head?
  | .begin _ | .work _ _ | .wait _ => none

/-- What a move may do. -/
inductive System.Step (system : System) : Move → System → Prop
  | begun {call} : Step system (.begin call) (system.begin call)
  | stayed {move} (waits : ∀ task, system.task? move = some task →
      ∃ id number custody, task = .join id number custody) : Step system move system
  | done {number answer flight task later progress}
      (known : system.flights[number]? = some flight) (next : flight.todo = task :: later)
      (did : task.step system.registry answer = some progress)
      (yields : task.Yields system.registry progress) :
    Step system (.proceed number answer)
      ⟨progress.registry, system.flights.set number (flight.advance progress later)⟩
  | worked {number reaction worker after deliveries}
      (known : system.registry.worker? number = some worker)
      (turn : worker.Turn after deliveries) :
    Step system (.work number reaction)
      { system with registry := system.registry.turn number worker after deliveries }
  | waited {span} :
    Step system (.wait span)
      { system with
        registry := { system.registry with now := system.registry.now + span.nanoseconds } }

namespace System

/-- **Whatever a move does is on the list.** -/
theorem step_move (system : System) (move : Move) : system.Step move (system.move move) := by
  cases move with
  | begin call => exact .begun
  | proceed number answer =>
    simp only [System.move, proceed]
    split
    · rename_i absent
      refine .stayed fun task found => ?_
      simp [task?, absent] at found
    · rename_i flight known
      split
      · rename_i finished
        refine .stayed fun task found => ?_
        simp [task?, known, finished] at found
      · rename_i task later next
        split
        · rename_i waits
          refine .stayed fun other found => ?_
          obtain ⟨id, worker, custody, rfl, -⟩ := Task.step_eq_none.mp waits
          simp only [task?, known, next, Option.bind_some, List.head?_cons,
            Option.some.injEq] at found
          exact ⟨id, worker, custody, found.symm⟩
        · rename_i progress done
          exact .done known next done (Task.yields_of_step done)
  | work number reaction =>
    cases known : system.registry.worker? number with
    | none =>
      have same : system.registry.work number reaction = system.registry := by
        rw [Registry.work, known]
      simp only [System.move, same]
      exact .stayed fun task found => by cases found
    | some worker =>
      have turned : system.registry.work number reaction =
          system.registry.turn number worker
            (worker.step system.registry.now reaction).worker
            (worker.step system.registry.now reaction).deliveries := by
        rw [Registry.work, known]
        rfl
      simp only [System.move, turned]
      exact .worked known (worker.turn_step _ _)
  | wait span => exact .waited

/-- A call that did its next task. -/
theorem move_did {system : System} {number : Nat} {flight : Flight} {task : Task}
    {later : List Task} {answer : Except SinkError Unit} {progress : Progress}
    (known : system.flights[number]? = some flight) (next : flight.todo = task :: later)
    (did : task.step system.registry answer = some progress) :
    system.move (.proceed number answer) =
      ⟨progress.registry, system.flights.set number (flight.advance progress later)⟩ := by
  simp only [move, proceed, known, next, did]
  rfl

theorem run_concat (system : System) (schedule : List Move) (move : Move) :
    system.run (schedule ++ [move]) = (system.run schedule).move move := by
  rw [run_append, run_cons, run_nil]

theorem run_begin (system : System) (before : List Move) (call : Call) (after : List Move) :
    ((system.run before).begin call).run after = system.run (before ++ .begin call :: after) := by
  rw [run_append, run_cons]
  rfl

/-- **What holds at first and is kept by every move holds after every schedule.** What is claimed
may speak of the schedule, too. -/
theorem run_induction (system : System) (holds : List Move → System → Prop)
    (start : holds [] system)
    (kept : ∀ schedule move, holds schedule (system.run schedule) →
      (system.run schedule).Step move ((system.run schedule).move move) →
      holds (schedule ++ [move]) ((system.run schedule).move move))
    (schedule : List Move) : holds schedule (system.run schedule) := by
  induction schedule using List.reverseRecOn with
  | nil => exact start
  | append_singleton schedule move ih =>
    rw [run_concat]
    exact kept schedule move ih (step_move _ _)

/-- **What holds of a call when it is begun, and is kept by each of its tasks, holds of every
call**, at any time. -/
theorem flights_induction (settings : Settings) (holds : Flight → Prop)
    (begun : ∀ (call : Call) (sink : SinkId), holds ⟨call, call.tasks sink, none, []⟩)
    (kept : ∀ {registry : Registry} {flight : Flight} {task : Task} {later : List Task}
      {answer : Except SinkError Unit} {progress : Progress}, holds flight →
      flight.todo = task :: later → task.step registry answer = some progress →
      holds (flight.advance progress later))
    (schedule : List Move) : ∀ flight ∈ ((new settings).run schedule).flights, holds flight := by
  refine run_induction (new settings) (fun _ system => ∀ flight ∈ system.flights, holds flight)
    (fun _ member => by cases member) (fun schedule move before step => ?_) schedule
  generalize (new settings).run schedule = system at before step
  generalize system.move move = after at step
  cases step with
  | stayed | waited | worked => exact before
  | @begun call =>
    intro flight inFlight
    rcases List.mem_append.mp inFlight with old | new
    · exact before flight old
    · rw [List.mem_singleton.mp new]
      exact begun call _
  | @done number answer moved task later progress known next did =>
    intro flight inFlight
    rcases List.mem_or_eq_of_mem_set inFlight with old | rfl
    · exact before flight old
    · exact kept (before moved (List.mem_of_getElem? known)) next did

end System

end Arcade
