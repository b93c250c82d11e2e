/-
**Calls on a session that has ended.**

A session that ended by itself stays in the table until somebody looks for such sessions. Calls
that have nothing to do with it may do so (`Registry.Lapsed`). Most calls on the session look for
ended sessions first, so they answer the same whether or not it was forgotten before. To stop the
session, to unload it and to give it another program does not begin so, and there it shows.

What a call on the session answers is settled when it is begun (`Ending.reply`): its last task
foretells the answer (`Ending.Foretold`), and what comes before it only puts away what ended
sessions left (`Ending.Bound`).

* `System.lapsed_run`: what is left of the session after calls that have nothing to do with it;
* `Ending.Foretold.done`, `Ending.Bound.done`: one task of the call;
* `System.bound_run`: a whole run of it;
* `System.answers_alike_iff`: two histories after which the call answers the same;
* `System.exists_answers_unlike`: two histories after which it does not.
-/

import Arcade.Proofs.Registry.Unknown

namespace Arcade

open Registry

/-! ### What is left of the session -/

/-- Whether a call has nothing to do with a session: it is not made on it, and it starts no other
session, which might take its place. -/
def Call.isUnrelated (id : SessionId) (call : Call) : Bool :=
  !call.concerns id && call.starts?.isNone

/-- Whether all that became of a session that has ended is that it was perhaps forgotten, and
whether nobody was registered since. -/
structure Registry.Lapsed (origin : Registry) (id : SessionId) (number : WorkerId)
    (registry : Registry) : Prop where
  state : registry.state? id = some (.running number) ∨ registry.state? id = none
  others : ∀ other, registry.state? other ≠ none → origin.state? other ≠ none

section Lapsing

variable {origin registry : Registry} {id : SessionId} {number : WorkerId} {task : Task}
  {answer : Except SinkError Unit} {progress : Progress}

/-- A task that is not about to start a session, to unload it or to give it another program leaves
its slot as it is or forgets it. -/
theorem Task.state?_step_or_gone (did : task.step registry answer = some progress)
    (other : task.subject? ≠ some id) :
    progress.registry.state? id = registry.state? id ∨ progress.registry.state? id = none := by
  have different : ∀ {named : SessionId}, task.subject? = some named → id ≠ named := by
    rintro named found rfl
    exact other found
  cases Task.yields_of_step did with
  | reaped =>
    cases left : registry.reaped.state? id with
    | none => exact .inr left
    | some state => exact .inl (left.trans (registry.state?_of_reaped left).symm)
  | @removed named =>
    by_cases same : id = named
    · exact .inr ((registry.state?_forget _ _).trans (if_pos same))
    · exact .inl ((registry.state?_forget _ _).trans (if_neg same))
  | admitted => exact .inl ((registry.state?_putSlot _ _ _).trans (if_neg (different rfl)))
  | withdrawn => exact .inl ((registry.state?_forget_vacate _ _).trans (if_neg (different rfl)))
  | published => exact .inl ((registry.state?_putSlot_vacate _ _ _).trans (if_neg (different rfl)))
  | halted same => exact .inl (state?_congr (registry.states_of_table same) id)
  | parked => exact .inl ((registry.state?_putSlot_vacate _ _ _).trans (if_neg (different rfl)))
  | bereft => exact .inl ((registry.state?_forget_vacate _ _).trans (if_neg (different rfl)))
  | unloaded => exact .inl ((registry.state?_putSlot _ _ _).trans (if_neg (different rfl)))
  | taken => exact .inl ((registry.state?_putSlot _ _ _).trans (if_neg (different rfl)))
  | watched _ states => exact .inl (state?_congr states id)
  | _ => exact .inl rfl

theorem Registry.Lapsed.congr {after : Registry} (lapsed : origin.Lapsed id number registry)
    (same : ∀ other, after.state? other = registry.state? other) :
    origin.Lapsed id number after :=
  ⟨(same id).symm ▸ lapsed.state, fun other there => lapsed.others other (same other ▸ there)⟩

/-- A task that neither has a session admitted nor is about the session. -/
theorem Registry.Lapsed.done (lapsed : origin.Lapsed id number registry)
    (did : task.step registry answer = some progress) (other : task.subject? ≠ some id)
    (admits : ∀ launch, task ≠ .reserve launch) : origin.Lapsed id number progress.registry where
  state := by
    rcases Task.state?_step_or_gone did other with kept | gone
    · rw [kept]
      exact lapsed.state
    · exact .inr gone
  others named there := by
    rcases (Task.yields_of_step did).registered there with before | admitted
    · exact lapsed.others named before
    · cases task with
      | reserve launch => exact absurd rfl (admits launch)
      | _ => cases admitted

theorem mem_names {name : String} :
    name ∈ registry.table.names ↔ registry.state? ⟨name⟩ ≠ none := by
  rw [Ne, Registry.state?, Option.map_eq_none_iff, slot?, NameTable.lookup?, lookup_eq_none_iff,
    not_not]
  rfl

/-- If a session was forgotten and nobody was registered since, there is room. -/
theorem Registry.Lapsed.size_lt (lapsed : origin.Lapsed id number registry)
    (there : origin.state? id ≠ none) (gone : registry.state? id = none) :
    registry.table.size < origin.table.size := by
  have fewer : id.name :: registry.table.names ⊆ origin.table.names := by
    intro name member
    rcases List.mem_cons.mp member with rfl | still
    · exact mem_names.mpr there
    · exact mem_names.mpr (lapsed.others _ (mem_names.mp still))
  have apart : (id.name :: registry.table.names).Nodup :=
    List.nodup_cons.mpr ⟨fun member => mem_names.mp member gone, registry.table.nodup_names⟩
  have counted := (apart.subperm fewer).length_le
  refine Nat.lt_of_succ_le ?_
  simpa [NameTable.names, NameTable.size] using counted

end Lapsing

namespace System

variable {settings : Settings} {before between : List Move} {id : SessionId} {number : WorkerId}

/-- A call has a session admitted that it starts, and no other. -/
theorem starts?_of_reserve {schedule : List Move} {flight : Flight} {launch : Launch}
    (inFlight : flight ∈ ((new settings).run schedule).flights)
    (member : .reserve launch ∈ flight.todo) : flight.call.starts? ≠ none := by
  intro none
  have bound := openings_run settings schedule launch.id flight inFlight
  have counted := (openings launch.id).task_le_ofTasks member
  have opens : (Task.reserve launch).opens launch.id = true := decide_eq_true rfl
  rw [none, Option.toList_none, List.count_nil] at bound
  rw [task_openings, opens, Bool.toNat_true] at counted
  exact absurd (counted.trans bound) (Nat.not_succ_le_zero 0)

/-- Whether every call that has something to do with a session has returned. -/
def IsLeft (system : System) (id : SessionId) : Prop :=
  ∀ flight ∈ system.flights, flight.call.isUnrelated id = false → flight.todo = []

/-- **What is left of a session that has ended** after calls that have nothing to do with it. -/
theorem lapsed_run
    (there : ((new settings).run before).registry.state? id = some (.running number))
    (left : ((new settings).run before).IsLeft id)
    (unrelated : ∀ call, .begin call ∈ between → call.isUnrelated id = true) :
    ((new settings).run before).registry.Lapsed id number
        ((new settings).run (before ++ between)).registry ∧
      ((new settings).run (before ++ between)).IsLeft id := by
  rw [run_append]
  refine run_induction ((new settings).run before) (fun schedule reached => schedule <+: between →
    ((new settings).run before).registry.Lapsed id number reached.registry ∧ reached.IsLeft id)
    (fun _ => ⟨⟨.inl there, fun _ still => still⟩, left⟩)
    (fun schedule move earlier step found => ?_) between (List.prefix_refl between)
  have member : move ∈ between := found.subset (List.mem_append_right _ List.mem_cons_self)
  obtain ⟨lapsed, left⟩ := earlier ((List.prefix_append _ _).trans found)
  rw [← run_append] at *
  have alters := alters_run settings (before ++ schedule)
  have starts := @starts?_of_reserve settings (before ++ schedule)
  generalize (new settings).run (before ++ schedule) = reached at *
  generalize reached.move move = after at *
  cases step with
  | stayed => exact ⟨lapsed, left⟩
  | waited | worked => exact ⟨lapsed.congr fun _ => rfl, left⟩
  | @begun call =>
    refine ⟨lapsed.congr fun _ => rfl, fun flight inFlight related => ?_⟩
    rcases List.mem_append.mp inFlight with old | new
    · exact left flight old related
    · rw [List.mem_singleton.mp new, unrelated call member] at related
      cases related
  | @done index answer flight task later progress known next did =>
    have inFlight := List.mem_of_getElem? known
    have inTodo : task ∈ flight.todo := by rw [next]; exact List.mem_cons_self
    have busy : flight.call.isUnrelated id = true := by
      by_contra related
      rw [left flight inFlight (Bool.eq_false_of_not_eq_true related)] at next
      cases next
    rw [Call.isUnrelated, Bool.and_eq_true, Bool.not_eq_true', Option.isNone_iff_eq_none] at busy
    refine ⟨lapsed.done did (fun about => ?_) fun launch same => ?_, fun other member related => ?_⟩
    · have concerned := Call.concerns_of_alters (alters flight inFlight task inTodo id about)
      exact absurd (busy.1.symm.trans concerned) Bool.false_ne_true
    · exact starts inFlight (same ▸ inTodo) busy.2
    · rcases List.mem_or_eq_of_mem_set member with old | rfl
      · exact left other old related
      · simp [Flight.advance, Call.isUnrelated, busy] at related

end System

/-! ### What a call on the session answers -/

/-- Whether a call needs a session, gives it another program or starts it. -/
def Call.addresses (id : SessionId) : Call → Bool
  | .start other _ _ | .session other (.changeRom _ _) => other = id
  | .session other request => other = id && request.needs
  | _ => false

/-- Whether it does not matter to a call whether a session that has ended was forgotten: the call
forgets such sessions itself, or it does not come to look for its session. -/
def Call.isSteady : Call → Bool
  | .session _ .stop | .session _ .unload => false
  | .session _ (.changeRom rom _) => programLimit < rom.bytes.length
  | _ => true

/-- What is answered to the acknowledgement of a program, and to the request for a thread, if it
comes to that. -/
structure Responses where
  acknowledged : Except SinkError Unit
  threaded : Except SinkError Unit

namespace Responses

variable (responses : Responses)

/-- How clients and the system answer to a task. -/
def respond : Task → Except SinkError Unit
  | .acknowledge _ => responses.acknowledged
  | .spawn _ => responses.threaded
  | _ => .ok ()

/-- Whether an answer to a task is the one that is expected, if the task depends on it. -/
def Expects (task : Task) (answer : Except SinkError Unit) : Prop :=
  ∀ launch, task = .acknowledge launch ∨ task = .spawn launch → answer = responses.respond task

end Responses

/-- A session that has ended, with the registry at that time, its worker and the phase in which the
worker stays. -/
structure Ending extends Responses where
  id : SessionId
  origin : Registry
  number : WorkerId
  phase : Phase

namespace Ending

variable (ending : Ending)

/-- The answer that the session was not found. -/
def gone : Reply := .error (.notFound ending.id)

/-- The answer once a client has taken the acknowledgement of a program. -/
def spawned : Reply :=
  match ending.threaded with
  | .ok _ => .ok .done
  | .error cause => .error (.io cause.message)

/-- The answer once a program is to be launched. -/
def launched : Reply :=
  match ending.acknowledged with
  | .ok _ => ending.spawned
  | .error cause => .error (.sink cause)

/-- The answer once the session was unloaded. -/
def unloaded : Unloading → Reply
  | .park => .ok .done
  | .replace _ _ => ending.launched

/-- The answer once the session's worker was taken out of its slot. -/
def taken (next : Reply) : Reply :=
  if ending.phase = .broken then .error (.panicked ending.id) else next

/-- What a call on the session answers, by whether the session is still registered. -/
def reply (registered : Bool) : Call → Reply
  | .start _ rom _ =>
    if rom.bytes.length ≤ programLimit then ending.launched
    else .error (.machine .programTooLarge)
  | .session _ (.changeRom rom _) =>
    if rom.bytes.length ≤ programLimit then
      if registered then ending.taken ending.launched else ending.gone
    else .error (.machine .programTooLarge)
  | .session _ .stop => if registered then .ok .done else ending.gone
  | .session _ .unload => if registered then ending.taken (.ok .done) else ending.gone
  | _ => ending.gone

/-- The answer that the last task of a call on the session foretells. -/
inductive Foretold (registry : Registry) : Task → Reply → Prop
  | answered {reply} : Foretold registry (.answer reply) reply
  | missing {task} (absent : registry.state? ending.id = none) (looks : task.LooksFor ending.id) :
    Foretold registry task ending.gone
  | misfit {rom seed} (large : programLimit < rom.bytes.length) :
    Foretold registry (.rebuild ending.id rom seed) (.error (.machine .programTooLarge))
  | unfit {rom seed sink} (large : programLimit < rom.bytes.length) :
    Foretold registry (.build ending.id rom seed sink) (.error (.machine .programTooLarge))
  | removing (there : registry.state? ending.id = some (.running ending.number)) :
    Foretold registry (.remove ending.id) (.ok .done)
  | rebuilding {rom seed} (there : registry.state? ending.id = some (.running ending.number))
      (fits : rom.bytes.length ≤ programLimit) :
    Foretold registry (.rebuild ending.id rom seed) (ending.taken ending.launched)
  | unloading {purpose} (there : registry.state? ending.id = some (.running ending.number)) :
    Foretold registry (.unload ending.id purpose) (ending.taken (ending.unloaded purpose))
  | halting {purpose} (kept : registry.state? ending.id = some .pending) :
    Foretold registry (.halt ending.id ending.number (.keep purpose))
      (ending.taken (ending.unloaded purpose))
  | joining {purpose} (kept : registry.state? ending.id = some .pending) :
    Foretold registry (.join ending.id ending.number (.keep purpose))
      (ending.taken (ending.unloaded purpose))
  | parking {sink purpose} (kept : registry.state? ending.id = some .pending) :
    Foretold registry (.park ending.id (some sink) purpose) (ending.unloaded purpose)
  | bereft {purpose} (kept : registry.state? ending.id = some .pending) :
    Foretold registry (.park ending.id none purpose) (.error (.panicked ending.id))
  | taking {rom machine sink} (stored : registry.state? ending.id = some (.unloaded sink)) :
    Foretold registry (.take ending.id rom machine) ending.launched
  | building {rom seed sink} (lapsed : ending.origin.Lapsed ending.id ending.number registry)
      (fits : rom.bytes.length ≤ programLimit) :
    Foretold registry (.build ending.id rom seed sink) ending.launched
  | reserving {launch} (same : launch.id = ending.id)
      (lapsed : ending.origin.Lapsed ending.id ending.number registry)
      (absent : registry.state? ending.id = none) :
    Foretold registry (.reserve launch) ending.launched
  | acknowledging {launch} (same : launch.id = ending.id)
      (kept : registry.state? ending.id = some .pending) :
    Foretold registry (.acknowledge launch) ending.launched
  | spawning {launch} (same : launch.id = ending.id)
      (kept : registry.state? ending.id = some .pending) :
    Foretold registry (.spawn launch) ending.spawned
  | withdrawing {kind id cause} : Foretold registry (.withdraw kind id cause) (.error cause)
  | publishing {worker} (kept : registry.state? ending.id = some .pending) :
    Foretold registry (.publish ending.id worker) (.ok .done)

/-- Whether a task is done on the way to the last one: it puts something away, or it tells a client
that is turned away. -/
def Trails (registry : Registry) (task : Task) : Prop :=
  registry.Tidies task ∨ ∃ sink reason, task = .tell sink reason

/-- The answer that a call on the session is bound to give. -/
inductive Bound (registry : Registry) : List Task → Option Reply → Reply → Prop
  | given {reply} : Bound registry [] (some reply) reply
  /-- Sessions that have ended are forgotten first. -/
  | looking {task} (lapsed : ending.origin.Lapsed ending.id ending.number registry)
      (looks : task.LooksFor ending.id) : Bound registry [.reap, task] none ending.gone
  | opening {launch} (lapsed : ending.origin.Lapsed ending.id ending.number registry)
      (same : launch.id = ending.id) : Bound registry [.reap, .reserve launch] none ending.launched
  | onward {trailing last reply} (trails : ∀ task ∈ trailing, Trails registry task)
      (foretold : ending.Foretold registry last reply) :
    Bound registry (trailing ++ [last]) none reply

section Course

variable {ending} {registry : Registry} {answer : Except SinkError Unit} {task : Task}
  {later : List Task} {reply : Reply} {replied : Option Reply} {progress : Progress}

/-- What is foretold depends on the slots only. -/
theorem Foretold.congr {after : Registry} (foretold : ending.Foretold registry task reply)
    (same : ∀ other, after.state? other = registry.state? other) :
    ending.Foretold after task reply := by
  have here := same ending.id
  cases foretold with
  | answered => exact .answered
  | missing absent looks => exact .missing (here.trans absent) looks
  | misfit large => exact .misfit large
  | unfit large => exact .unfit large
  | removing there => exact .removing (here.trans there)
  | rebuilding there fits => exact .rebuilding (here.trans there) fits
  | unloading there => exact .unloading (here.trans there)
  | halting kept => exact .halting (here.trans kept)
  | joining kept => exact .joining (here.trans kept)
  | parking kept => exact .parking (here.trans kept)
  | bereft kept => exact .bereft (here.trans kept)
  | taking stored => exact .taking (here.trans stored)
  | building lapsed fits => exact .building (lapsed.congr same) fits
  | reserving id lapsed absent => exact .reserving id (lapsed.congr same) (here.trans absent)
  | acknowledging id kept => exact .acknowledging id (here.trans kept)
  | spawning id kept => exact .spawning id (here.trans kept)
  | withdrawing => exact .withdrawing
  | publishing kept => exact .publishing (here.trans kept)

theorem Bound.congr {after : Registry} {todo : List Task}
    (bound : ending.Bound registry todo replied reply)
    (same : ∀ other, after.state? other = registry.state? other)
    (stays : ∀ number, registry.isFinished number = true → after.isFinished number = true) :
    ending.Bound after todo replied reply := by
  cases bound with
  | given => exact .given
  | looking lapsed looks => exact .looking (lapsed.congr same) looks
  | opening lapsed id => exact .opening (lapsed.congr same) id
  | onward trails foretold =>
    exact .onward (fun task member => (trails task member).imp_left (·.mono stays))
      (foretold.congr same)

theorem Bound.single (foretold : ending.Foretold registry task reply) :
    ending.Bound registry [task] none reply := by
  rw [← List.nil_append [task]]
  exact .onward (fun _ member => by cases member) foretold

/-- Whether a registry has what is known of the session that has ended: its worker is still in its
last phase, and there was room for the session when it ended. -/
structure Describes (ending : Ending) (registry : Registry) : Prop where
  phase : registry.phase? ending.number = some ending.phase
  finished : ending.phase.isFinished = true
  there : ending.origin.state? ending.id ≠ none
  room : ending.origin.table.size ≤ registry.settings.maxSessions.toNat

theorem boot_of_large (timerMode : TimerMode) (seed : UInt64) {rom : Rom}
    (large : programLimit < rom.bytes.length) :
    Machine.boot timerMode seed rom.bytes = .error .programTooLarge :=
  Machine.load_eq_error.mpr ⟨rfl, large⟩

theorem bound_rejection {id : SessionId} {sink : SinkId} {cause : SessionError} :
    ending.Bound registry (registry.rejection id sink cause).todo none (.error cause) := by
  have trails : ∀ task ∈ [Task.tell sink cause.rejection, .close sink], Trails registry task := by
    intro task member
    rcases List.mem_cons.mp member with rfl | closes
    · exact .inr ⟨_, _, rfl⟩
    · rw [List.mem_singleton.mp closes]
      exact .inl trivial
  exact .onward trails .answered

/-- Building the machine of a new session. -/
theorem Foretold.done_build {rom : Rom} {seed : UInt64} {sink : SinkId}
    (foretold : ending.Foretold registry (.build ending.id rom seed sink) reply) :
    ending.Bound (registry.build ending.id rom seed sink).registry
      (registry.build ending.id rom seed sink).todo
      (registry.build ending.id rom seed sink).reply reply := by
  unfold Registry.build
  cases booted : Machine.boot registry.settings.timerMode seed rom.bytes with
  | ok machine =>
    cases foretold with
    | unfit large =>
      rw [boot_of_large _ _ large] at booted
      cases booted
    | building lapsed fits => exact .opening lapsed rfl
    | missing _ looks => exact looks.elim
  | error cause =>
    obtain ⟨rfl, large⟩ := Machine.load_eq_error.mp booted
    cases foretold with
    | unfit => exact bound_rejection
    | building _ fits => omega
    | missing _ looks => exact looks.elim

/-- Taking the worker of the session out of its slot, and waiting for it. -/
theorem Foretold.done_join {purpose : Unloading} (kept : registry.state? ending.id = some .pending)
    (describes : ending.Describes registry)
    (did : registry.join ending.id ending.number (.keep purpose) = some progress) :
    ending.Bound progress.registry progress.todo progress.reply
      (ending.taken (ending.unloaded purpose)) := by
  have last : ∀ {worker}, registry.worker? ending.number = some worker →
      worker.phase = ending.phase := by
    intro worker known
    have found := describes.phase
    rw [phase?, known] at found
    exact Option.some.inj found
  cases registry.yields_join did with
  | ended known complete =>
    have whole : ending.phase ≠ .broken := by
      rw [← last known, complete]
      exact Phase.noConfusion
    rw [taken, if_neg whole]
    exact .single (.parking kept)
  | broken known complete =>
    rw [taken, if_pos ((last known).symm.trans complete)]
    exact .single (.bereft kept)
  | watched watches => cases watches

/-- Putting the sink of the session back into its slot. -/
theorem Foretold.done_park {sink : SinkId} {purpose : Unloading}
    (kept : registry.state? ending.id = some .pending) :
    ending.Bound (registry.park ending.id (some sink) purpose).registry
      (registry.park ending.id (some sink) purpose).todo
      (registry.park ending.id (some sink) purpose).reply (ending.unloaded purpose) := by
  obtain ⟨slot, found, -⟩ := registry.slot?_of_state? kept
  simp only [Registry.park, found]
  cases purpose with
  | park => exact .single .answered
  | replace rom machine =>
    have stored : (((registry.abandon slot.state).putSlot ending.id
        { slot with state := .unloaded sink }).state? ending.id) = some (.unloaded sink) := by
      rw [Registry.state?_putSlot, if_pos rfl]
    exact .single (.taking stored)

/-- A session that has ended and was forgotten is admitted again. -/
theorem Foretold.done_reserve {launch : Launch} (same : launch.id = ending.id)
    (lapsed : ending.origin.Lapsed ending.id ending.number registry)
    (absent : registry.state? ending.id = none) (describes : ending.Describes registry) :
    ending.Bound (registry.reserve launch).registry (registry.reserve launch).todo
      (registry.reserve launch).reply ending.launched := by
  have free : registry.table.contains launch.id.name = false := by
    have gone : registry.table.lookup? ending.id.name = none := state?_eq_none.mp absent
    rw [same, NameTable.contains, gone]
    rfl
  have room : ¬ registry.settings.maxSessions.toNat ≤ registry.table.size :=
    Nat.not_le.mpr ((lapsed.size_lt describes.there absent).trans_le describes.room)
  have admitted : registry.refusal? launch.id = none := by
    rw [refusal?, free, if_neg Bool.false_ne_true, if_neg room]
  have kept : (registry.putSlot launch.id ⟨registry.now, .pending⟩).state? ending.id =
      some .pending := by
    rw [Registry.state?_putSlot, if_pos same.symm]
  simp only [Registry.reserve, admitted]
  exact .single (.acknowledging same kept)

/-- **One task of which an answer is foretold**: it gives the answer, or leads to tasks that are
bound to give it. -/
theorem Foretold.done (foretold : ending.Foretold registry task reply)
    (describes : ending.Describes registry) (expects : ending.Expects task answer)
    (did : task.step registry answer = some progress) :
    ending.Bound progress.registry progress.todo progress.reply reply := by
  have put : ∀ {before : Registry} {slot : Slot},
      (before.putSlot ending.id slot).state? ending.id = some slot.state := by
    intro before slot
    rw [Registry.state?_putSlot, if_pos rfl]
  have finished : registry.isFinished ending.number = true :=
    isFinished_iff.mpr ⟨_, describes.phase, describes.finished⟩
  cases foretold with
  | answered =>
    cases did
    exact .given
  | missing absent looks =>
    obtain ⟨same, ⟨todo, replied⟩ | ⟨next, looksOn, todo, silent⟩⟩ := looks.done absent did
    · rw [todo, replied]
      exact .given
    · rw [todo, silent, same]
      exact .single (.missing absent looksOn)
  | misfit large =>
    cases did
    simp only [Registry.rebuild, boot_of_large _ _ large]
    exact .given
  | unfit large =>
    cases did
    exact done_build (.unfit large)
  | building lapsed fits =>
    cases did
    exact done_build (.building lapsed fits)
  | removing there =>
    obtain ⟨slot, found, running⟩ := registry.slot?_of_state? there
    cases did
    simp only [Registry.remove, found, running]
    refine .onward (fun next member => .inl ?_) .answered
    rw [List.mem_singleton.mp member]
    exact finished
  | rebuilding there fits =>
    cases Task.yields_of_step did with
    | rebuilt => exact .single (.unloading there)
    | misfit large => omega
    | watched watches => cases watches
  | unloading there =>
    obtain ⟨slot, found, running⟩ := registry.slot?_of_state? there
    cases did
    simp only [Registry.unload, found, running]
    exact .single (.halting put)
  | halting kept =>
    cases did
    exact .single (.joining kept)
  | joining kept => exact done_join kept describes did
  | parking kept =>
    cases did
    exact done_park kept
  | bereft kept =>
    obtain ⟨slot, found, -⟩ := registry.slot?_of_state? kept
    cases did
    simp only [Registry.park, found]
    exact .given
  | taking stored =>
    obtain ⟨slot, found, unloaded⟩ := registry.slot?_of_state? stored
    cases did
    simp only [Registry.take, found, unloaded]
    exact .single (.acknowledging rfl put)
  | reserving same lapsed absent =>
    cases did
    exact done_reserve same lapsed absent describes
  | @acknowledging launch same kept =>
    obtain rfl := expects launch (.inl rfl)
    rw [launched]
    cases heard : ending.acknowledged with
    | ok taken =>
      simp only [Task.step, Responses.respond, heard] at did
      cases did
      exact .single (.spawning same kept)
    | error cause =>
      simp only [Task.step, Responses.respond, heard] at did
      cases did
      exact .single .withdrawing
  | @spawning launch same kept =>
    obtain rfl := expects launch (.inr rfl)
    rw [spawned]
    cases heard : ending.threaded with
    | ok taken =>
      simp only [Task.step, Responses.respond, heard] at did
      cases did
      simp only [Registry.spawn, same]
      exact .single (.publishing kept)
    | error cause =>
      simp only [Task.step, Responses.respond, heard] at did
      cases did
      exact .single .withdrawing
  | withdrawing =>
    cases did
    exact .given
  | publishing kept =>
    obtain ⟨slot, found, -⟩ := registry.slot?_of_state? kept
    cases did
    simp only [Registry.publish, found]
    exact .given

/-- Whoever looks for the sessions that have ended forgets the session. -/
theorem state?_reaped_of_lapsed
    (lapsed : ending.origin.Lapsed ending.id ending.number registry)
    (describes : ending.Describes registry) : registry.reaped.state? ending.id = none := by
  cases left : registry.reaped.state? ending.id with
  | none => rfl
  | some state =>
    have before := registry.state?_of_reaped left
    rcases lapsed.state with there | absent
    · obtain ⟨slot, found, running⟩ := registry.slot?_of_state? there
      have finished : registry.slotFinished slot = true := by
        rw [slotFinished, running]
        exact isFinished_iff.mpr ⟨_, describes.phase, describes.finished⟩
      rw [Registry.state?, slot?_reaped, found, Option.filter_some, finished] at left
      cases left
    · rw [absent] at before
      cases before

/-- What trails goes on to trail, and leaves the slots as they are. -/
theorem Trails.done (trails : Trails registry task)
    (did : task.step registry answer = some progress) :
    progress.reply = none ∧ (∀ next ∈ progress.todo, Trails progress.registry next) ∧
      (∀ other, progress.registry.state? other = registry.state? other) ∧
      ∀ number, registry.isFinished number = true →
        progress.registry.isFinished number = true := by
  rcases trails with tidies | ⟨sink, reason, rfl⟩
  · obtain ⟨silent, onward, table, spares, -⟩ := tidies.done did
    refine ⟨silent, fun next member => .inl (onward next member), fun other => ?_,
      fun number finished => (spares.finished number).trans finished⟩
    rw [Registry.state?, slot?, table]
    rfl
  · cases did
    refine ⟨rfl, fun _ member => (by cases member), fun other => ?_, fun number finished => ?_⟩
    all_goals
      unfold Registry.tell
      split
      · first | rfl | exact finished
      · first | rfl | exact finished

/-- **One task of a call on the session**: it stays bound to give its answer. -/
theorem Bound.done (bound : ending.Bound registry (task :: later) replied reply)
    (describes : ending.Describes registry) (expects : ending.Expects task answer)
    (did : task.step registry answer = some progress) :
    ending.Bound progress.registry (progress.todo ++ later) (progress.reply <|> replied) reply := by
  have absent : ∀ {last : Task}, ending.origin.Lapsed ending.id ending.number registry →
      (∀ after : Registry, ending.origin.Lapsed ending.id ending.number after →
        after.state? ending.id = none → ending.Foretold after last reply) →
      ending.Bound registry.reaped
        ((registry.finished.map fun entry => .halt entry.1 entry.2 .close) ++ [last]) none
        reply := by
    intro last lapsed foretold
    have gone := state?_reaped_of_lapsed lapsed describes
    refine .onward (fun next member => .inl (tidies_reaped registry next member))
      (foretold _ ⟨.inr gone, fun other there => lapsed.others other fun before => ?_⟩ gone)
    obtain ⟨state, left⟩ := Option.ne_none_iff_exists'.mp there
    rw [registry.state?_of_reaped left] at before
    cases before
  generalize todos : task :: later = todo at bound
  cases bound with
  | given => cases todos
  | looking lapsed looks =>
    obtain ⟨rfl, rfl⟩ := List.cons.inj todos
    cases did
    exact absent lapsed fun _ _ gone => .missing gone looks
  | opening lapsed same =>
    obtain ⟨rfl, rfl⟩ := List.cons.inj todos
    cases did
    exact absent lapsed fun _ lapsed gone => .reserving same lapsed gone
  | @onward trailing last _ trails foretold =>
    cases trailing with
    | nil =>
      obtain ⟨rfl, rfl⟩ := List.cons.inj todos
      have first : (progress.reply <|> none) = progress.reply := by cases progress.reply <;> rfl
      rw [first, List.append_nil]
      exact foretold.done describes expects did
    | cons first rest =>
      rw [List.cons_append] at todos
      obtain ⟨rfl, rfl⟩ := List.cons.inj todos
      obtain ⟨silent, onward, slots, stays⟩ := (trails task List.mem_cons_self).done did
      rw [silent, ← List.append_assoc]
      refine .onward (fun next member => ?_) (foretold.congr slots)
      rcases List.mem_append.mp member with fresh | old
      · exact onward next fresh
      · exact (trails next (List.mem_cons_of_mem _ old)).imp_left (·.mono stays)

theorem Bound.reply_eq {final : Reply} (bound : ending.Bound registry [] (some final) reply) :
    final = reply := by
  generalize todos : ([] : List Task) = todo at bound
  cases bound with
  | given => rfl

theorem Bound.exists_reply (bound : ending.Bound registry [] replied reply) :
    ∃ final, replied = some final := by
  generalize todos : ([] : List Task) = todo at bound
  cases bound with
  | given => exact ⟨_, rfl⟩
  | looking | opening => cases todos
  | onward => simp at todos

/-- A call on the session never waits. -/
theorem Bound.did (bound : ending.Bound registry (task :: later) replied reply)
    (describes : ending.Describes registry) (answer : Except SinkError Unit) :
    ∃ progress, task.step registry answer = some progress := by
  refine Option.ne_none_iff_exists'.mp fun waits => ?_
  obtain ⟨id, number, custody, rfl, running⟩ := Task.step_eq_none.mp waits
  generalize todos : Task.join _ _ _ :: later = todo at bound
  cases bound with
  | given | looking | opening => cases todos
  | @onward trailing last _ trails foretold =>
    cases trailing with
    | nil =>
      obtain ⟨rfl, -⟩ := List.cons.inj todos
      cases foretold with
      | joining =>
        have finished : registry.isFinished ending.number = true :=
          isFinished_iff.mpr ⟨_, describes.phase, describes.finished⟩
        exact absurd (running.symm.trans finished) Bool.false_ne_true
      | missing _ looks => exact looks
    | cons first rest =>
      obtain ⟨rfl, -⟩ := List.cons.inj todos
      rcases trails _ List.mem_cons_self with tidies | ⟨_, _, same⟩
      · obtain ⟨progress, did⟩ := tidies.did answer
        exact absurd (did.symm.trans waits) (Option.some_ne_none progress)
      · cases same

/-- What a request has to do is bound to give its answer. -/
theorem bound_request (lapsed : ending.origin.Lapsed ending.id ending.number registry)
    {request : Request} (addresses : (Call.session ending.id request).addresses ending.id = true) :
    ending.Bound registry (request.tasks ending.id) none
      (ending.reply (registry.state? ending.id).isSome (.session ending.id request)) := by
  have looking : ∀ {last : Task}, last.LooksFor ending.id →
      ending.Bound registry [.reap, last] none ending.gone := fun looks => .looking lapsed looks
  cases request with
  | stop =>
    rcases lapsed.state with there | absent
    · rw [there]
      exact .single (.removing there)
    · rw [absent]
      exact .single (.missing absent rfl)
  | unload =>
    rcases lapsed.state with there | absent
    · rw [there]
      exact .single (.unloading there)
    · rw [absent]
      exact .single (.missing absent rfl)
  | changeRom rom seed =>
    by_cases fits : rom.bytes.length ≤ programLimit
    · rcases lapsed.state with there | absent
      · simp only [reply, if_pos fits, there, Option.isSome_some, if_true]
        exact .single (.rebuilding there fits)
      · simp only [reply, if_pos fits, absent, Option.isSome_none, Bool.false_eq_true, if_false]
        exact .single (.missing absent ⟨rfl, fits⟩)
    · simp only [reply, if_neg fits]
      exact .single (.misfit (Nat.lt_of_not_le fits))
  | change wish =>
    have wishes : wish.isEmpty = false := by
      simpa [Call.addresses, Request.needs] using addresses
    rw [Request.tasks, wishes, if_neg Bool.false_ne_true]
    exact looking rfl
  | pause | unpause | toggle | isPaused | press => exact looking rfl
  | contains => simp [Call.addresses, Request.needs] at addresses

/-- What a call on the session has to do is bound to give its answer. -/
theorem bound_begun (lapsed : ending.origin.Lapsed ending.id ending.number registry)
    {call : Call} (addresses : call.addresses ending.id = true) (sink : SinkId) :
    ending.Bound registry (call.tasks sink) none
      (ending.reply (registry.state? ending.id).isSome call) := by
  cases call with
  | start other rom seed =>
    obtain rfl : other = ending.id := of_decide_eq_true addresses
    by_cases fits : rom.bytes.length ≤ programLimit
    · simp only [reply, if_pos fits]
      exact .single (.building lapsed fits)
    · simp only [reply, if_neg fits]
      exact .single (.unfit (Nat.lt_of_not_le fits))
  | session other request =>
    have same : other = ending.id := by
      cases request <;> simp_all [Call.addresses]
    subst same
    exact bound_request lapsed addresses
  | _ => cases addresses

/-- **It shows in the answer whether the session was forgotten**, unless the call is steady. -/
theorem reply_eq_iff (ending : Ending) {call : Call}
    (addresses : call.addresses ending.id = true) :
    ending.reply true call = ending.reply false call ↔ call.isSteady = true := by
  have launches : ending.launched ≠ ending.gone := by
    unfold launched spawned gone
    cases ending.acknowledged <;> cases ending.threaded <;> simp
  have takes : ∀ {next : Reply}, next ≠ ending.gone → ending.taken next ≠ ending.gone := by
    intro next differs
    unfold taken
    split
    · simp [gone]
    · exact differs
  cases call with
  | session other request =>
    cases request with
    | stop => simp [reply, gone, Call.isSteady]
    | unload => simpa [reply, Call.isSteady] using takes (by simp [gone])
    | changeRom rom seed =>
      by_cases fits : rom.bytes.length ≤ programLimit
      · have steady : (Call.session other (.changeRom rom seed)).isSteady = false :=
          decide_eq_false (Nat.not_lt.mpr fits)
        simpa [reply, fits, steady] using takes launches
      · have steady : (Call.session other (.changeRom rom seed)).isSteady = true :=
          decide_eq_true (Nat.lt_of_not_le fits)
        simp [reply, fits, steady]
    | _ => exact iff_of_true rfl rfl
  | _ => exact iff_of_true rfl rfl

end Course

end Ending

namespace System

variable {settings : Settings} {before : List Move} {id : SessionId} {number : WorkerId}
  {call : Call} {responses : Responses} {between during : List Move}

/-- Whether a session has ended by itself: the worker in its slot is done, and every call that has
something to do with it has returned. -/
structure HasEnded (system : System) (id : SessionId) (number : WorkerId) : Prop where
  there : system.registry.state? id = some (.running number)
  finished : system.registry.isFinished number = true
  left : system.IsLeft id

/-- Whether a call is made after some moves in which only unrelated calls are begun, while no other
call is in progress, and some moves later no other call was begun, and clients and the system have
answered as they should. -/
structure Aftermath (settings : Settings) (before : List Move) (id : SessionId) (call : Call)
    (responses : Responses) (between during : List Move) : Prop where
  unrelated : ∀ other, .begin other ∈ between → other.isUnrelated id = true
  quiet : ((new settings).run (before ++ between)).isQuiet = true
  alone : ∀ other, .begin other ∉ during
  answers : ∀ early number answer late task, during = early ++ .proceed number answer :: late →
    ((new settings).run (before ++ between ++ .begin call :: early)).task?
      (.proceed number answer) = some task → responses.Expects task answer

/-- What is known of a session that has ended. -/
def ending (system : System) (id : SessionId) (number : WorkerId) (responses : Responses) :
    Ending where
  toResponses := responses
  id := id
  origin := system.registry
  number := number
  phase := (system.registry.phase? number).getD .ended

theorem HasEnded.describes (ended : ((new settings).run before).HasEnded id number)
    (responses : Responses) (more : List Move) :
    (((new settings).run before).ending id number responses).Describes
      ((new settings).run (before ++ more)).registry := by
  obtain ⟨phase, known, finished⟩ := isFinished_iff.mp ended.finished
  have last : (((new settings).run before).ending id number responses).phase = phase := by
    rw [ending, known, Option.getD_some]
  refine ⟨?_, last.symm ▸ finished, fun absent => ?_, ?_⟩
  · rw [last, run_append]
    exact phase?_run known finished more
  · exact absurd (ended.there.symm.trans absent) (Option.some_ne_none _)
  · rw [settings_run]
    exact size_run settings before

/-- **A call on a session that has ended, as far as it has come.** -/
theorem bound_run (ended : ((new settings).run before).HasEnded id number)
    (addresses : call.addresses id = true)
    (aftermath : Aftermath settings before id call responses between during) :
    ∃ flight,
      ((new settings).run (before ++ between ++ .begin call :: during)).flights =
        ((new settings).run (before ++ between)).flights ++ [flight] ∧
      (((new settings).run before).ending id number responses).Bound
        ((new settings).run (before ++ between ++ .begin call :: during)).registry flight.todo
        flight.reply ((((new settings).run before).ending id number responses).reply
          (((new settings).run (before ++ between)).registry.state? id).isSome call) := by
  have lapsed := (lapsed_run ended.there ended.left aftermath.unrelated).1
  have describes : ∀ more, (((new settings).run before).ending id number responses).Describes
      ((new settings).run (before ++ between ++ more)).registry := by
    intro more
    rw [List.append_assoc]
    exact ended.describes responses (between ++ more)
  obtain ⟨-, quiet, alone, answers⟩ := aftermath
  generalize ending_eq : ((new settings).run before).ending id number responses = ending at *
  have same : ending.id = id ∧ ending.toResponses = responses := by
    rw [← ending_eq]
    exact ⟨rfl, rfl⟩
  have registered : ending.origin.Lapsed ending.id ending.number
      ((new settings).run (before ++ between)).registry := by
    rw [← ending_eq]
    exact lapsed
  obtain ⟨rfl, rfl⟩ := same
  generalize before ++ between = past at *
  simp only [run_append, run_cons] at describes answers ⊢
  generalize (new settings).run past = system at *
  refine run_induction (system.move (.begin call)) (fun schedule reached => schedule <+: during →
    ∃ flight, reached.flights = system.flights ++ [flight] ∧
      ending.Bound reached.registry flight.todo flight.reply
        (ending.reply (system.registry.state? ending.id).isSome call))
    (fun _ => ⟨_, rfl, ?_⟩) (fun schedule move earlier step found => ?_) during
    (List.prefix_refl during)
  · exact (Ending.bound_begun registered addresses _).congr (fun _ => rfl) fun _ done => done
  have inDuring : move ∈ during := found.subset (List.mem_append_right _ List.mem_cons_self)
  obtain ⟨flight, flights, bound⟩ := earlier ((List.prefix_append _ _).trans found)
  have here := describes (.begin call :: schedule)
  rw [run_cons] at here
  obtain ⟨late, split⟩ := found
  rw [List.append_assoc, List.singleton_append] at split
  have answers := fun number answer (same : move = .proceed number answer) task =>
    answers schedule number answer late task (same ▸ split.symm)
  generalize (system.move (.begin call)).run schedule = reached at *
  have stays : ∀ number, reached.registry.isFinished number = true →
      (reached.move move).registry.isFinished number = true := fun _ => step.isFinished
  generalize reached.move move = after at *
  cases step with
  | begun => exact absurd inDuring (alone _)
  | stayed => exact ⟨flight, flights, bound⟩
  | waited | worked => exact ⟨flight, flights, bound.congr (fun _ => rfl) stays⟩
  | @done index answer other task later progress known next did =>
    obtain ⟨rfl, rfl⟩ := last_of_lone quiet flights known next
    have expects := answers _ answer rfl task (task?_proceed known next answer)
    rw [next] at bound
    refine ⟨other.advance progress later, ?_, bound.done here expects did⟩
    rw [flights, List.set_append_right _ _ (Nat.le_refl _), Nat.sub_self]
    rfl

/-- The answer of the call, once it has returned. -/
theorem latestReply?_eq (ended : ((new settings).run before).HasEnded id number)
    (addresses : call.addresses id = true)
    (aftermath : Aftermath settings before id call responses between during) {reply : Reply}
    (replied : ((new settings).run (before ++ between ++ .begin call :: during)).latestReply? =
      some reply) :
    reply = (((new settings).run before).ending id number responses).reply
      (((new settings).run (before ++ between)).registry.state? id).isSome call := by
  obtain ⟨flight, flights, bound⟩ := bound_run ended addresses aftermath
  rw [latestReply?, flights, List.getLast?_concat, Option.bind_some] at replied
  split at replied
  · rename_i returned
    rw [List.isEmpty_iff.mp returned, replied] at bound
    exact bound.reply_eq
  · cases replied

/-- A call on a session that has ended is made, and goes on by its own moves. -/
theorem Aftermath.onward (aftermath : Aftermath settings before id call responses between during)
    {index : Nat} {answer : Except SinkError Unit}
    (expects : ∀ task, ((new settings).run (before ++ between ++ .begin call :: during)).task?
      (.proceed index answer) = some task → responses.Expects task answer) :
    Aftermath settings before id call responses between (during ++ [.proceed index answer]) where
  unrelated := aftermath.unrelated
  quiet := aftermath.quiet
  alone other member := by
    rcases List.mem_append.mp member with old | new
    · exact aftermath.alone other old
    · cases List.mem_singleton.mp new
  answers early number other late task split found := by
    rcases List.eq_nil_or_concat late with rfl | ⟨later, last, rfl⟩
    · obtain ⟨rfl, same⟩ := List.append_inj' split rfl
      cases same
      exact expects task found
    · rw [List.concat_eq_append, ← List.cons_append, ← List.append_assoc] at split
      obtain ⟨same, -⟩ := List.append_inj' split rfl
      exact aftermath.answers early number other later task same found

/-- Whether a system is reached when a call on a session that has ended goes on. -/
def Continues (settings : Settings) (before : List Move) (id : SessionId) (call : Call)
    (responses : Responses) (between during : List Move) (reached : System) : Prop :=
  ∃ more, Aftermath settings before id call responses between (during ++ more) ∧
    reached = (new settings).run (before ++ between ++ .begin call :: (during ++ more))

/-- A call on a session that has ended goes on, if its next task is answered as expected. -/
theorem Continues.goes (ended : ((new settings).run before).HasEnded id number)
    (addresses : call.addresses id = true) {reached : System} {flight : Flight} {task : Task}
    {later : List Task}
    (continues : Continues settings before id call responses between during reached)
    (known : reached.flights[((new settings).run (before ++ between)).flights.length]? =
      some flight) (next : flight.todo = task :: later) :
    ∃ progress, task.step reached.registry (responses.respond task) = some progress ∧
      Continues settings before id call responses between during
        ⟨progress.registry, reached.flights.set
          ((new settings).run (before ++ between)).flights.length
          (flight.advance progress later)⟩ := by
  obtain ⟨more, aftermath, rfl⟩ := continues
  obtain ⟨last, flights, bound⟩ := bound_run ended addresses aftermath
  have same : last = flight := by
    rw [flights, List.getElem?_concat_length] at known
    exact Option.some.inj known
  subst same
  rw [next] at bound
  have describes := ended.describes responses (between ++ .begin call :: (during ++ more))
  rw [← List.append_assoc] at describes
  obtain ⟨progress, did⟩ := bound.did describes (responses.respond task)
  refine ⟨progress, did, more ++
    [.proceed ((new settings).run (before ++ between)).flights.length (responses.respond task)],
    ?_, ?_⟩
  · rw [← List.append_assoc]
    refine aftermath.onward fun found same => ?_
    rw [task?_proceed known next] at same
    cases same
    exact fun _ _ => rfl
  · have longer : before ++ between ++ .begin call :: (during ++ (more ++
          [.proceed ((new settings).run (before ++ between)).flights.length
            (responses.respond task)])) =
        (before ++ between ++ .begin call :: (during ++ more)) ++
          [.proceed ((new settings).run (before ++ between)).flights.length
            (responses.respond task)] := by
      simp
    rw [longer, run_concat]
    exact (move_did known next did).symm

/-- A call on a session that has ended can return by its own moves. -/
theorem exists_aftermath (ended : ((new settings).run before).HasEnded id number)
    (addresses : call.addresses id = true)
    (aftermath : Aftermath settings before id call responses between during) :
    ∃ more, Aftermath settings before id call responses between (during ++ more) ∧
      ((new settings).run (before ++ between ++ .begin call :: (during ++ more))).latestReply? ≠
        none := by
  have start : Continues settings before id call responses between during
      ((new settings).run (before ++ between ++ .begin call :: during)) :=
    ⟨[], by rwa [List.append_nil], by rw [List.append_nil]⟩
  obtain ⟨flight, flights, -⟩ := bound_run ended addresses aftermath
  have known : ((new settings).run (before ++ between ++ .begin call :: during)).flights[
      ((new settings).run (before ++ between)).flights.length]? = some flight := by
    rw [flights, List.getElem?_concat_length]
  obtain ⟨own, moved, -, there, returned, more, onward, reached⟩ :=
    exists_returned responses.respond
      (fun _ _ _ _ continues known next => continues.goes ended addresses known next) start known
  refine ⟨more, onward, ?_⟩
  obtain ⟨last, flights, bound⟩ := bound_run ended addresses onward
  rw [reached, flights, List.getElem?_concat_length] at there
  cases there
  rw [returned] at bound
  obtain ⟨reply, replied⟩ := bound.exists_reply
  have isOver : moved.isOver = true := by rw [Flight.isOver, returned]; rfl
  rw [latestReply?, flights, List.getLast?_concat, Option.bind_some, if_pos isOver, replied]
  exact Option.some_ne_none reply

/-- **What a call on a session that has ended answers**: two histories that differ in the unrelated
calls since then lead to the same answer exactly if the call does not care whether the session was
forgotten, or if the session was forgotten in both or in neither. And the call returns. -/
theorem answers_alike_iff (settings : Settings) (before : List Move) (id : SessionId)
    (number : WorkerId) (ended : ((new settings).run before).HasEnded id number) (call : Call)
    (addresses : call.addresses id = true) (responses : Responses)
    (between during between' during' : List Move)
    (first : Aftermath settings before id call responses between during)
    (second : Aftermath settings before id call responses between' during') :
    (∃ more, Aftermath settings before id call responses between (during ++ more) ∧
      ((new settings).run (before ++ between ++ .begin call :: (during ++ more))).latestReply? ≠
        none) ∧
    ∀ reply reply',
      ((new settings).run (before ++ between ++ .begin call :: during)).latestReply? =
        some reply →
      ((new settings).run (before ++ between' ++ .begin call :: during')).latestReply? =
        some reply' →
      (reply = reply' ↔ call.isSteady = true ∨
        (((new settings).run (before ++ between)).registry.state? id = none ↔
          ((new settings).run (before ++ between')).registry.state? id = none)) := by
  refine ⟨exists_aftermath ended addresses first, fun reply reply' replied replied' => ?_⟩
  rw [latestReply?_eq ended addresses first replied,
    latestReply?_eq ended addresses second replied']
  generalize ((new settings).run (before ++ between)).registry.state? id = state
  generalize ((new settings).run (before ++ between')).registry.state? id = state'
  have shows := (((new settings).run before).ending id number responses).reply_eq_iff addresses
  cases state with
  | none =>
    cases state' with
    | none => exact iff_of_true rfl (.inr Iff.rfl)
    | some held' => rw [or_iff_left (by simp)]; exact eq_comm.trans shows
  | some held =>
    cases state' with
    | none => rw [or_iff_left (by simp)]; exact shows
    | some held' => exact iff_of_true rfl (.inr (by simp))

/-- A call is made on a session that has ended, and everybody accepts what they are asked. -/
theorem aftermath_accepted
    (unrelated : ∀ other, .begin other ∈ between → other.isUnrelated id = true)
    (quiet : ((new settings).run (before ++ between)).isQuiet = true)
    (accepts : ∀ move ∈ during, move.goesOn = true) :
    Aftermath settings before id call ⟨.ok (), .ok ()⟩ between during where
  unrelated := unrelated
  quiet := quiet
  alone other member := Bool.false_ne_true (accepts _ member)
  answers early index answer late task split _ launch asks := by
    have goes := accepts (.proceed index answer)
      (split ▸ List.mem_append_right _ List.mem_cons_self)
    have accepted : answer = .ok () := by
      cases answer with
      | ok => rfl
      | error => cases goes
    rcases asks with rfl | rfl <;> exact accepted

end System

/-- A session is started, and its client refuses the first frame. -/
def endedOnce : List Move :=
  startedOnce ++ [.work 0 .accepts, .work 0 (.answers (.error .closed))]

/-- The sessions are counted, and the one that has ended is forgotten. -/
def counted : List Move :=
  let on (flight : Nat) : Move := .proceed flight (.ok ())
  [.begin .size, on 1, on 1, on 1, on 1, on 1]

namespace System

theorem hasEnded_endedOnce : ((new Settings.default).run endedOnce).HasEnded ⟨"s"⟩ 0 := by
  refine ⟨by decide +kernel, by decide +kernel, fun flight member _ => ?_⟩
  have quiet : ((new Settings.default).run endedOnce).isQuiet = true := by decide +kernel
  exact todo_of_quiet quiet member

theorem isUnrelated_counted (other : Call) (member : .begin other ∈ counted) :
    other.isUnrelated ⟨"s"⟩ = true := by
  simp only [counted, List.mem_cons, Move.begin.injEq, reduceCtorEq, List.not_mem_nil,
    or_false] at member
  rw [member]
  rfl

/-- It makes no difference to a pause whether the sessions were counted before. -/
theorem answers_alike_iff_pause :
    let on (flight : Nat) : Move := .proceed flight (.ok ())
    let pause : Move := .begin (.session ⟨"s"⟩ .pause)
    let one := (new Settings.default).run
      (endedOnce ++ [] ++ pause :: [on 1, on 1, on 1, on 1, on 1])
    let other := (new Settings.default).run (endedOnce ++ counted ++ pause :: [on 2, on 2])
    ((new Settings.default).run (endedOnce ++ [])).registry.state? ⟨"s"⟩ = some (.running 0) ∧
      ((new Settings.default).run (endedOnce ++ counted)).registry.state? ⟨"s"⟩ = none ∧
      ∃ reply, one.latestReply? = some reply ∧ other.latestReply? = some reply := by
  intro on pause one other
  have first : Aftermath Settings.default endedOnce ⟨"s"⟩ (.session ⟨"s"⟩ .pause) ⟨.ok (), .ok ()⟩
      [] [on 1, on 1, on 1, on 1, on 1] :=
    aftermath_accepted (fun _ member => by cases member) (by decide +kernel)
      (by simp [on, Move.goesOn])
  have second : Aftermath Settings.default endedOnce ⟨"s"⟩ (.session ⟨"s"⟩ .pause) ⟨.ok (), .ok ()⟩
      counted [on 2, on 2] :=
    aftermath_accepted isUnrelated_counted (by decide +kernel) (by simp [on, Move.goesOn])
  have replied : one.latestReply?.isSome = true := by decide +kernel
  have replied' : other.latestReply?.isSome = true := by decide +kernel
  obtain ⟨reply, told⟩ := Option.isSome_iff_exists.mp replied
  obtain ⟨reply', told'⟩ := Option.isSome_iff_exists.mp replied'
  have alike := (answers_alike_iff Settings.default endedOnce ⟨"s"⟩ 0 hasEnded_endedOnce
    (.session ⟨"s"⟩ .pause) rfl ⟨.ok (), .ok ()⟩ [] _ counted _ first second).2
      reply reply' told told'
  exact ⟨by decide +kernel, by decide +kernel, reply, told,
    (alike.mpr (.inl rfl)).symm ▸ told'⟩

/-- It is not so that unrelated calls never make a difference to a call on a session that has ended:
to stop it succeeds unless it was forgotten. -/
theorem exists_answers_unlike :
    ¬ ∀ (settings : Settings) (before : List Move) (id : SessionId) (number : WorkerId),
      ((new settings).run before).HasEnded id number → ∀ call : Call,
      call.addresses id = true → ∀ (responses : Responses)
        (between during between' during' : List Move),
      Aftermath settings before id call responses between during →
      Aftermath settings before id call responses between' during' → ∀ reply reply',
      ((new settings).run (before ++ between ++ .begin call :: during)).latestReply? =
        some reply →
      ((new settings).run (before ++ between' ++ .begin call :: during')).latestReply? =
        some reply' → reply = reply' := by
  intro alike
  let on (flight : Nat) : Move := .proceed flight (.ok ())
  have same := alike Settings.default endedOnce ⟨"s"⟩ 0 hasEnded_endedOnce (.session ⟨"s"⟩ .stop)
    rfl ⟨.ok (), .ok ()⟩ [] [on 1, on 1, on 1, on 1, on 1] counted [on 2]
    (aftermath_accepted (fun _ member => by cases member) (by decide +kernel)
      (by simp [on, Move.goesOn]))
    (aftermath_accepted isUnrelated_counted (by decide +kernel) (by simp [on, Move.goesOn]))
    (.ok .done) (.error (.notFound ⟨"s"⟩)) (by decide +kernel) (by decide +kernel)
  cases same

end System

end Arcade
