/-
**A program that cannot be replaced.**

A session may be asked to run another program when no call is in progress, and until the call has
returned nothing happens but what workers and time do. If the call fails, it has left the registry
alone, or it has lost the session: once the session is out of its slot there is no way back. It is
lost for one of three reasons (`Mishap`): its client refused the acknowledgement of the new program,
the system had no thread for it, or the old worker had broken off.

* `Changes.done`: how far the call has come, task by task;
* `System.unchanged_or_forgotten`: a call that failed changed nothing, or the session is forgotten;
* `System.exists_forgotten_of_refusal`: the second case is possible.
-/

import Arcade.Proofs.Registry.Tracks

namespace Arcade

/-- Whether a move is made by a worker or by time. -/
def Move.isDrift : Move → Bool
  | .work _ _ | .wait _ => true
  | .begin _ | .proceed _ _ => false

variable {id : SessionId} {flight : Nat} {during : List Move} {untouched registry : Registry}

/-- Why a call may lose the session that is to get another program, given what happened during the
call, the registry as it would be without the call, and the registry. -/
inductive Mishap (id : SessionId) (flight : Nat) (during : List Move)
    (untouched registry : Registry) : SessionError → Prop
  /-- The client refused the acknowledgement. -/
  | refused {cause} (answered : .proceed flight (.error cause) ∈ during) :
    Mishap id flight during untouched registry (.sink cause)
  /-- The system had no thread. -/
  | unspawned {cause} (answered : .proceed flight (.error cause) ∈ during) :
    Mishap id flight during untouched registry (.io cause.message)
  /-- The old worker broke off. -/
  | broken {number worker} (ran : untouched.state? id = some (.running number))
      (known : registry.worker? number = some worker) (broke : worker.phase = .broken) :
    Mishap id flight during untouched registry (.panicked id)

/-- The tasks that are done before anything is changed. -/
inductive Task.Prepares (id : SessionId) : Task → Prop
  | rebuild {rom seed} : Prepares id (.rebuild id rom seed)
  | unload {rom machine} : Prepares id (.unload id (.replace rom machine))
  | take {rom machine} : Prepares id (.take id rom machine)

/-- The tasks that are done while the session's slot is kept for it. -/
inductive Task.Replaces (id : SessionId) (untouched : Registry) : Task → Prop
  | halt {number rom machine} (ran : untouched.state? id = some (.running number)) :
    Replaces id untouched (.halt id number (.keep (.replace rom machine)))
  | join {number rom machine} (ran : untouched.state? id = some (.running number)) :
    Replaces id untouched (.join id number (.keep (.replace rom machine)))
  | park {sink rom machine} : Replaces id untouched (.park id (some sink) (.replace rom machine))
  | acknowledge {launch : Launch} (same : launch.id = id) :
    Replaces id untouched (.acknowledge launch)
  | spawn {launch : Launch} (same : launch.id = id) : Replaces id untouched (.spawn launch)
  | publish {number} : Replaces id untouched (.publish id number)

/-- How far a call has come that gives a session another program: what it has to do yet, and its
answer. -/
inductive Changes (id : SessionId) (flight : Nat) (during : List Move)
    (untouched registry : Registry) : List Task → Option Reply → Prop
  /-- Nothing was changed yet. -/
  | preparing {task} (same : registry = untouched) (prepares : task.Prepares id) :
    Changes id flight during untouched registry [task] none
  /-- Nothing was changed, and nothing will be. -/
  | declined {cause} (same : registry = untouched) :
    Changes id flight during untouched registry [] (some (.error cause))
  | replacing {task} (was : untouched.state? id ≠ none) (there : registry.state? id ≠ none)
      (replaces : task.Replaces id untouched) :
    Changes id flight during untouched registry [task] none
  /-- The old worker left no sink behind. -/
  | bereft {rom machine} (was : untouched.state? id ≠ none) (there : registry.state? id ≠ none)
      (mishap : Mishap id flight during untouched registry (.panicked id)) :
    Changes id flight during untouched registry [.park id none (.replace rom machine)] none
  /-- The old worker is gone, and its sink waits for the new one. -/
  | parked {sink rom machine} (was : untouched.state? id ≠ none)
      (there : registry.state? id = some (.unloaded sink)) :
    Changes id flight during untouched registry [.take id rom machine] none
  | failing {kind cause} (was : untouched.state? id ≠ none)
      (mishap : Mishap id flight during untouched registry cause) :
    Changes id flight during untouched registry [.withdraw kind id cause] none
  | lost {cause} (was : untouched.state? id ≠ none) (gone : registry.state? id = none)
      (mishap : Mishap id flight during untouched registry cause) :
    Changes id flight during untouched registry [] (some (.error cause))
  | replaced : Changes id flight during untouched registry [] (some (.ok .done))

/-! ### What workers and time do -/

/-- A worker that is done stays as it is. -/
theorem Registry.work_finished (registry : Registry) (number : WorkerId) (reaction : Reaction)
    {other : WorkerId} {worker : Worker} (known : registry.worker? other = some worker)
    (complete : worker.isFinished = true) :
    (registry.work number reaction).worker? other = some worker := by
  by_cases same : number = other
  · subst same
    have inside := (List.getElem?_eq_some_iff.mp known).1
    simp only [work, known, worker.step_of_finished registry.now reaction complete]
    exact List.getElem?_set_self inside
  · rw [registry.workers_work number other reaction same, known]

/-- The registry after what a worker did, or after some time. -/
def Registry.drift (registry : Registry) : Move → Registry
  | .work number reaction => registry.work number reaction
  | .wait span => { registry with now := registry.now + span.nanoseconds }
  | .begin _ | .proceed _ _ => registry

theorem System.move_drift (system : System) {move : Move} (drifts : move.isDrift = true) :
    system.move move = { system with registry := system.registry.drift move } := by
  cases move with
  | work | wait => rfl
  | begin | proceed => cases drifts

theorem Registry.state?_drift (registry : Registry) (move : Move) (id : SessionId) :
    (registry.drift move).state? id = registry.state? id := by
  cases move with
  | work number reaction =>
    exact congrArg (fun table : NameTable Slot => (table.lookup? id.name).map Slot.state)
      (registry.table_work number reaction)
  | begin | proceed | wait => rfl

theorem Registry.worker?_drift (registry : Registry) (move : Move) {number : WorkerId}
    {worker : Worker} (known : registry.worker? number = some worker)
    (complete : worker.isFinished = true) : (registry.drift move).worker? number = some worker := by
  cases move with
  | work other reaction => exact registry.work_finished other reaction known complete
  | begin | proceed | wait => exact known

theorem Mishap.drift {cause : SessionError} (move : Move)
    (mishap : Mishap id flight during untouched registry cause) :
    Mishap id flight during (untouched.drift move) (registry.drift move) cause := by
  cases mishap with
  | refused answered => exact .refused answered
  | unspawned answered => exact .unspawned answered
  | @broken number worker ran known broke =>
    have complete : worker.isFinished = true := by
      rw [Worker.isFinished, broke]
      rfl
    exact .broken ((untouched.state?_drift move id).trans ran)
      (registry.worker?_drift move known complete) broke

/-- Workers and time do to the registry what they would do without the call, as long as nothing was
changed. -/
theorem Changes.drift {todo : List Task} {reply : Option Reply} (move : Move)
    (changes : Changes id flight during untouched registry todo reply) :
    Changes id flight during (untouched.drift move) (registry.drift move) todo reply := by
  have registered : ∀ {registry : Registry}, registry.state? id ≠ none →
      (registry.drift move).state? id ≠ none := by
    intro registry there
    rwa [registry.state?_drift]
  cases changes with
  | preparing same prepares => exact .preparing (congrArg (·.drift move) same) prepares
  | declined same => exact .declined (congrArg (·.drift move) same)
  | replacing was there replaces =>
    refine .replacing (registered was) (registered there) ?_
    cases replaces with
    | halt ran => exact .halt ((untouched.state?_drift move id).trans ran)
    | join ran => exact .join ((untouched.state?_drift move id).trans ran)
    | park => exact .park
    | acknowledge same => exact .acknowledge same
    | spawn same => exact .spawn same
    | publish => exact .publish
  | bereft was there mishap => exact .bereft (registered was) (registered there) (mishap.drift move)
  | parked was there =>
    exact .parked (registered was) ((registry.state?_drift move id).trans there)
  | failing was mishap => exact .failing (registered was) (mishap.drift move)
  | lost was gone mishap =>
    exact .lost (registered was) ((registry.state?_drift move id).trans gone) (mishap.drift move)
  | replaced => exact .replaced

/-! ### What the call does -/

/-- A mishap stays one as long as the workers do. -/
theorem Mishap.of_workers {after : Registry} {cause : SessionError}
    (mishap : Mishap id flight during untouched registry cause)
    (workers : after.workers = registry.workers) :
    Mishap id flight during untouched after cause := by
  cases mishap with
  | refused answered => exact .refused answered
  | unspawned answered => exact .unspawned answered
  | broken ran known broke =>
    rw [Registry.worker?, ← workers] at known
    exact .broken ran known broke

/-- Before anything is changed: the session is taken out of its slot, or the call is over. -/
theorem Changes.done_preparing {task : Task} {answer : Except SinkError Unit} {progress : Progress}
    (prepares : task.Prepares id) (did : task.step registry answer = some progress) :
    Changes id flight during registry progress.registry (progress.todo ++ [])
      (progress.reply <|> none) := by
  have registered : ∀ {slot}, registry.slot? id = some slot → registry.state? id ≠ none := by
    intro slot there
    rw [registry.state?_of_slot? there]
    exact Option.some_ne_none _
  have kept : ∀ {slot}, (registry.putSlot id slot).state? id ≠ none := by
    intro slot
    rw [registry.state?_putSlot, if_pos rfl]
    exact Option.some_ne_none _
  cases prepares with
  | rebuild =>
    cases Task.yields_of_step did with
    | rebuilt => exact .preparing rfl .unload
    | misfit => exact .declined rfl
    | watched watches => cases watches
  | unload =>
    cases Task.yields_of_step did with
    | unloaded there running =>
      refine .replacing (registered there) kept (.halt ?_)
      rw [registry.state?_of_slot? there, running]
    | passed => exact .preparing rfl .take
    | unknown => exact .declined rfl
    | watched watches => cases watches
  | take =>
    cases Task.yields_of_step did with
    | taken there => exact .replacing (registered there) kept (.acknowledge rfl)
    | busy => exact .declined rfl
    | lost => exact .declined rfl
    | watched watches => cases watches

/-- While the slot is kept for the session: the next task, or a mishap, or success. -/
theorem Changes.done_replacing {task : Task} {answer : Except SinkError Unit} {progress : Progress}
    (was : untouched.state? id ≠ none) (there : registry.state? id ≠ none)
    (replaces : task.Replaces id untouched) (did : task.step registry answer = some progress)
    (now : .proceed flight answer ∈ during) :
    Changes id flight during untouched progress.registry (progress.todo ++ [])
      (progress.reply <|> none) := by
  have present : registry.slot? id ≠ none := fun gone => there (registry.state?_eq_none.mpr gone)
  cases replaces with
  | halt ran =>
    cases did
    exact .replacing was there (.join ran)
  | @join number rom machine ran =>
    cases Task.yields_of_step did with
    | ended known complete => exact .replacing was there .park
    | @broken _ _ _ worker notices known complete =>
      have joined : (registry.modifyWorker number fun worker =>
          { worker with joined := true }).worker? number = some { worker with joined := true } := by
        rw [Registry.worker?_modifyWorker_self, known]
        rfl
      exact .bereft was there (.broken ran joined complete)
    | watched watches => cases watches
  | @park sink rom machine =>
    cases Task.yields_of_step did with
    | @parked _ _ _ slot found =>
      have stored : ((registry.vacate id).putSlot id
          { slot with state := .unloaded sink }).state? id = some (.unloaded sink) := by
        rw [Registry.state?_putSlot, if_pos rfl]
      exact .parked was stored
    | unparked gone => exact absurd gone present
    | watched watches => cases watches
  | acknowledge same =>
    cases answer with
    | ok taken =>
      cases did
      exact .replacing was there (.spawn same)
    | error cause =>
      cases did
      subst same
      exact .failing was (.refused now)
  | spawn same =>
    subst same
    cases answer with
    | ok taken =>
      cases did
      exact .replacing was there .publish
    | error cause =>
      cases did
      exact .failing was (.unspawned now)
  | publish =>
    cases Task.yields_of_step did with
    | published => exact .replaced
    | superseded gone => exact absurd gone present
    | watched watches => cases watches

/-- **One task of the call.** -/
theorem Changes.done {task : Task} {later : List Task} {reply : Option Reply}
    {answer : Except SinkError Unit} {progress : Progress}
    (changes : Changes id flight during untouched registry (task :: later) reply)
    (did : task.step registry answer = some progress) (now : .proceed flight answer ∈ during) :
    Changes id flight during untouched progress.registry (progress.todo ++ later)
      (progress.reply <|> reply) := by
  have gone : ((registry.vacate id).forget id).state? id = none := by
    rw [Registry.state?_forget, if_pos rfl]
  cases changes with
  | preparing same prepares =>
    subst same
    exact done_preparing prepares did
  | replacing was there replaces => exact done_replacing was there replaces did now
  | bereft was there mishap =>
    cases Task.yields_of_step did with
    | bereft =>
      exact .lost was gone (mishap.of_workers (Registry.workers_vacate registry id))
    | vanished absent => exact absurd (registry.state?_eq_none.mpr absent) there
    | watched watches => cases watches
  | @parked sink rom machine was there =>
    obtain ⟨slot, found, unloaded⟩ := registry.slot?_of_state? there
    have taken : progress = (registry.putSlot id { slot with state := .pending }).proceed
        [.acknowledge ⟨.relaunch, id, rom, machine, sink⟩] := by
      refine (Option.some.inj did).symm.trans ?_
      simp only [Registry.take, found, unloaded]
    subst taken
    refine .replacing was ?_ (.acknowledge rfl)
    show (registry.putSlot id { slot with state := .pending }).state? id ≠ none
    rw [Registry.state?_putSlot, if_pos rfl]
    exact Option.some_ne_none _
  | failing was mishap =>
    cases Task.yields_of_step did with
    | withdrawn =>
      exact .lost was gone (mishap.of_workers (Registry.workers_vacate registry id))
    | watched watches => cases watches

namespace System

/-- When one call is made while no other is in progress, it is the only one that has something to
do. -/
theorem last_of_lone {system reached : System} {flight other : Flight} {number : Nat} {task : Task}
    {later : List Task} (quiet : system.isQuiet = true)
    (flights : reached.flights = system.flights ++ [flight])
    (known : reached.flights[number]? = some other) (next : other.todo = task :: later) :
    number = system.flights.length ∧ other = flight := by
  have here : number = system.flights.length := by
    have inside := (List.getElem?_eq_some_iff.mp known).1
    rw [flights, List.length_append, List.length_singleton] at inside
    by_contra different
    have old : number < system.flights.length := by omega
    rw [flights, List.getElem?_append_left old] at known
    rw [todo_of_quiet quiet (List.mem_of_getElem? known)] at next
    cases next
  subst here
  rw [flights, List.getElem?_concat_length] at known
  exact ⟨rfl, (Option.some.inj known).symm⟩

/-- **How far the call has come**, and what the registry would be without it. -/
theorem changes_run {system : System} (quiet : system.isQuiet = true) (id : SessionId) (rom : Rom)
    (seed : UInt64) (during : List Move) (alone : ∀ call, .begin call ∉ during) :
    ∃ flight,
      ((system.begin (.session id (.changeRom rom seed))).run during).flights =
        system.flights ++ [flight] ∧
      Changes id system.flights.length during (system.run (during.filter Move.isDrift)).registry
        ((system.begin (.session id (.changeRom rom seed))).run during).registry flight.todo
        flight.reply := by
  refine run_induction (system.begin (.session id (.changeRom rom seed)))
    (fun schedule reached => schedule <+: during → ∃ flight,
      reached.flights = system.flights ++ [flight] ∧
      Changes id system.flights.length during (system.run (schedule.filter Move.isDrift)).registry
        reached.registry flight.todo flight.reply)
    (fun _ => ⟨_, rfl, .preparing rfl .rebuild⟩) (fun schedule move before step found => ?_) during
    (List.prefix_refl during)
  obtain ⟨flight, flights, changes⟩ := before ((List.prefix_append _ _).trans found)
  have member : move ∈ during := found.subset (List.mem_append_right _ List.mem_cons_self)
  generalize (system.begin (.session id (.changeRom rom seed))).run schedule = reached at *
  rw [List.filter_append]
  cases drifts : move.isDrift with
  | true =>
    rw [List.filter_singleton, drifts, cond_true, run_concat, reached.move_drift drifts,
      move_drift _ drifts]
    exact ⟨flight, flights, changes.drift move⟩
  | false =>
    rw [List.filter_singleton, drifts, cond_false, List.append_nil]
    generalize reached.move move = after at step
    cases step with
    | begun => exact absurd member (alone _)
    | stayed => exact ⟨flight, flights, changes⟩
    | worked | waited => cases drifts
    | @done number answer other task later progress known next did =>
      obtain ⟨rfl, rfl⟩ := last_of_lone quiet flights known next
      refine ⟨other.advance progress later, ?_, ?_⟩
      · rw [flights, List.set_append_right _ _ (Nat.le_refl _), Nat.sub_self]
        rfl
      · rw [next] at changes
        exact changes.done did member

/-- **A call for another program that failed changed nothing, or it lost the session**: then the
client refused the acknowledgement, or the system had no thread, or the old worker had broken off.
Without such a mishap everything is as if the call had not been made. -/
theorem unchanged_or_forgotten (settings : Settings) (before during : List Move) (id : SessionId)
    (rom : Rom) (seed : UInt64) (flight : Flight) (cause : SessionError)
    (quiet : ((new settings).run before).isQuiet = true) (alone : ∀ call, .begin call ∉ during)
    (last : ((new settings).run (before ++ .begin (.session id (.changeRom rom seed)) ::
      during)).flights.getLast? = some flight)
    (failed : flight.reply = some (.error cause)) :
    let system := (new settings).run (before ++ .begin (.session id (.changeRom rom seed)) :: during)
    let untouched := (new settings).run (before ++ during.filter Move.isDrift)
    flight.todo = [] ∧
      (system.registry = untouched.registry ∨
        untouched.registry.state? id ≠ none ∧ system.registry.state? id = none ∧
          Mishap id ((new settings).run before).flights.length during untouched.registry
            system.registry cause) := by
  intro system untouched
  obtain ⟨other, flights, changes⟩ := changes_run quiet id rom seed during alone
  have same : (((new settings).run before).begin (.session id (.changeRom rom seed))).run during =
      system := by
    show _ = (new settings).run (before ++ .begin (.session id (.changeRom rom seed)) :: during)
    rw [run_append, run_cons]
    rfl
  have aside : ((new settings).run before).run (during.filter Move.isDrift) = untouched :=
    (run_append _ _ _).symm
  rw [same] at flights changes
  rw [aside] at changes
  rw [flights, List.getLast?_concat] at last
  cases last
  rw [failed] at changes
  generalize flight.todo = todo at changes
  cases changes with
  | declined same => exact ⟨rfl, .inl same⟩
  | lost was gone mishap => exact ⟨rfl, .inr ⟨was, gone, mishap⟩⟩

end System

/-- A session is started. -/
def startedOnce : List Move :=
  let on (flight : Nat) : Move := .proceed flight (.ok ())
  [.begin (.start ⟨"s"⟩ loopRom 0), on 0, on 0, on 0, on 0, on 0, on 0]

/-- What happens while it is to get another program, whose acknowledgement the client refuses. -/
def relaunchRefused : List Move :=
  let on (flight : Nat) : Move := .proceed flight (.ok ())
  [on 1, on 1, on 1, .work 0 .accepts, on 1, on 1, on 1, .proceed 1 (.error .closed), on 1]

namespace System

/-- The session is forgotten because its client refused the acknowledgement. -/
theorem unchanged_or_forgotten_refused :
    let system := (new Settings.default).run
      (startedOnce ++ .begin (.session ⟨"s"⟩ (.changeRom loopRom 0)) :: relaunchRefused)
    let untouched := (new Settings.default).run
      (startedOnce ++ relaunchRefused.filter Move.isDrift)
    ((system.flights.getLast?).bind Flight.reply = some (.error (.sink .closed))) ∧
      untouched.registry.state? ⟨"s"⟩ = some (.running 0) ∧ system.registry.state? ⟨"s"⟩ = none ∧
      Mishap ⟨"s"⟩ 1 relaunchRefused untouched.registry system.registry (.sink .closed) := by
  intro system untouched
  have replied : (system.flights.getLast?).bind Flight.reply = some (.error (.sink .closed)) := by
    decide
  obtain ⟨flight, last, failed⟩ := Option.bind_eq_some_iff.mp replied
  have present : untouched.registry.state? ⟨"s"⟩ = some (.running 0) := by decide
  have gone : system.registry.state? ⟨"s"⟩ = none := by decide
  have alone : ∀ call, Move.begin call ∉ relaunchRefused := by simp [relaunchRefused]
  have outcome := (unchanged_or_forgotten Settings.default startedOnce relaunchRefused ⟨"s"⟩ loopRom
    0 flight (.sink .closed) (by decide) alone last failed).2
  rcases outcome with same | ⟨-, -, mishap⟩
  · rw [same] at gone
    exact absurd (present.symm.trans gone) (Option.some_ne_none _)
  · exact ⟨replied, present, gone, mishap⟩

/-- It is not so that a session stays registered when it could not get another program. -/
theorem exists_forgotten_of_refusal :
    ¬ ∀ (settings : Settings) (before during : List Move) (id : SessionId) (rom : Rom)
      (seed : UInt64) (cause : SessionError),
      (new settings).isSequential
        (before ++ .begin (.session id (.changeRom rom seed)) :: during) = true →
      (∀ call, .begin call ∉ during) →
      (((new settings).run (before ++ .begin (.session id (.changeRom rom seed)) ::
        during)).flights.getLast?).bind Flight.reply = some (.error cause) →
      (((new settings).run before).registry.state? id).isSome = true →
        (((new settings).run (before ++ .begin (.session id (.changeRom rom seed)) ::
          during)).registry.state? id).isSome = true := by
  intro kept
  have still := kept Settings.default startedOnce relaunchRefused ⟨"s"⟩ loopRom 0 (.sink .closed)
    (by decide) (by simp [relaunchRefused]) (by decide) (by decide)
  exact absurd still (by decide)

end System

end Arcade
