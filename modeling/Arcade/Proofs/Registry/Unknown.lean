/-
**Requests for a session that is not registered.**

Whatever else goes on, a request that has to find its session (`Request.needs`) and does not find it
is answered so, and nobody else notices that it was made. Sessions that have ended may be put away
on the way; then the session is looked for (`Misses`). The exception is a request to change no
parameter, which is answered before anybody looks.

* `Misses.done`: one task of such a request, `System.misses_run`: a whole run;
* `System.notFound_of_unknown`: the answer, the others, and the end of the call;
* `System.exists_found_of_unknown`: the exception.
-/

import Arcade.Proofs.Registry.Replace
import Arcade.Proofs.Registry.Tidying
import Mathlib.Data.List.Infix

namespace Arcade

open Registry

/-- Whether a request has to find its session: it does not ask whether there is one, it changes
something if it is about parameters, and its program fits if it has one. -/
def Request.needs : Request → Bool
  | .stop | .unload | .pause | .unpause | .toggle | .isPaused | .press _ => true
  | .changeRom rom _ => rom.bytes.length ≤ programLimit
  | .change wish => !wish.isEmpty
  | .contains => false

/-- Whether a task looks for a session that has to be there, or is on the way to it. -/
def Task.LooksFor (id : SessionId) : Task → Prop
  | .remove other | .unload other _ | .seek other _ | .record other _ => other = id
  | .rebuild other rom _ => other = id ∧ rom.bytes.length ≤ programLimit
  | _ => False

/-- How far a request for a session has come that is not registered. -/
inductive Misses (id : SessionId) (registry : Registry) : List Task → Option Reply → Prop
  | looking {tidying last} (tidies : ∀ task ∈ tidying, task = .reap ∨ registry.Tidies task)
      (looks : last.LooksFor id) : Misses id registry (tidying ++ [last]) none
  | missed : Misses id registry [] (some (.error (.notFound id)))

theorem misses_of_looks (registry : Registry) {id : SessionId} {last : Task}
    (looks : last.LooksFor id) : Misses id registry [last] none := by
  rw [← List.nil_append [last]]
  exact .looking (fun _ member => by cases member) looks

theorem misses_begun (registry : Registry) (id : SessionId) {request : Request}
    (needs : request.needs = true) : Misses id registry (request.tasks id) none := by
  have reaps {last : Task} (looks : last.LooksFor id) : Misses id registry [.reap, last] none := by
    rw [← List.singleton_append]
    exact .looking (fun task member => .inl (List.mem_singleton.mp member)) looks
  cases request with
  | stop | unload => exact misses_of_looks registry rfl
  | changeRom rom seed => exact misses_of_looks registry ⟨rfl, of_decide_eq_true needs⟩
  | change wish =>
    rw [Request.tasks, if_neg (by simpa [Request.needs] using needs)]
    exact reaps rfl
  | pause | unpause | toggle | isPaused | press => exact reaps rfl
  | contains => cases needs

section Missing

variable {id : SessionId} {registry : Registry} {answer : Except SinkError Unit} {task : Task}
  {later : List Task} {reply : Option Reply} {progress : Progress}

theorem Misses.mono {after : Registry} {todo : List Task} (misses : Misses id registry todo reply)
    (stays : ∀ number, registry.isFinished number = true → after.isFinished number = true) :
    Misses id after todo reply := by
  cases misses with
  | looking tidies looks =>
    exact .looking (fun task member => (tidies task member).imp_right (·.mono stays)) looks
  | missed => exact .missed

/-- Whoever looks for a session that is not registered changes nothing, and answers so or looks
on. -/
theorem Task.LooksFor.done (looks : task.LooksFor id) (absent : registry.state? id = none)
    (did : task.step registry answer = some progress) :
    progress.registry = registry ∧
      (progress.todo = [] ∧ progress.reply = some (.error (.notFound id)) ∨
        ∃ next : Task, next.LooksFor id ∧ progress.todo = [next] ∧ progress.reply = none) := by
  have gone := state?_eq_none.mp absent
  cases task with
  | remove other | seek other | record other =>
    obtain rfl := looks
    cases did
    simp only [Registry.remove, Registry.seek, Registry.record, gone]
    exact ⟨rfl, .inl ⟨rfl, rfl⟩⟩
  | unload other purpose =>
    obtain rfl := looks
    cases did
    simp only [Registry.unload, gone]
    exact ⟨rfl, .inl ⟨rfl, rfl⟩⟩
  | rebuild other rom seed =>
    obtain ⟨rfl, fits⟩ := looks
    cases Task.yields_of_step did with
    | @rebuilt _ _ _ machine =>
      exact ⟨rfl, .inr ⟨.unload other (.replace rom machine), rfl, rfl, rfl⟩⟩
    | misfit large => omega
    | watched watches => cases watches
  | _ => exact looks.elim

/-- **One task of a request for a session that is not registered**: it forgets ended sessions, puts
away what they left, or changes nothing. -/
theorem Misses.done (misses : Misses id registry (task :: later) reply)
    (absent : registry.state? id = none) (did : task.step registry answer = some progress) :
    Misses id progress.registry (progress.todo ++ later) (progress.reply <|> reply) ∧
      (progress.registry = registry.reaped ∨ registry.Tidies task ∨
        progress.registry = registry) := by
  generalize todos : task :: later = todo at misses
  cases misses with
  | missed => cases todos
  | @looking tidying last tidies looks =>
    cases tidying with
    | nil =>
      obtain ⟨rfl, rfl⟩ := List.cons.inj todos
      obtain ⟨same, ⟨todo, replied⟩ | ⟨next, looksOn, todo, silent⟩⟩ := looks.done absent did
      · rw [same, todo, replied]
        exact ⟨.missed, .inr (.inr rfl)⟩
      · rw [same, todo, silent]
        exact ⟨misses_of_looks registry looksOn, .inr (.inr rfl)⟩
    | cons first rest =>
      rw [List.cons_append] at todos
      obtain ⟨rfl, rfl⟩ := List.cons.inj todos
      have behind : ∀ {after : Registry} {fresh : List Task}, registry.SparesLive after →
          (∀ next ∈ fresh, after.Tidies next) →
            Misses id after (fresh ++ (rest ++ [last])) none := by
        intro after fresh spares onward
        rw [← List.append_assoc]
        refine .looking (fun next member => ?_) looks
        rcases List.mem_append.mp member with new | old
        · exact .inr (onward next new)
        · exact (tidies next (List.mem_cons_of_mem _ old)).imp_right
            (·.mono fun number finished => (spares.finished number).trans finished)
      rcases tidies task List.mem_cons_self with rfl | here
      · cases did
        exact ⟨behind (.of_reaped registry) (tidies_reaped registry), .inl rfl⟩
      · obtain ⟨silent, onward, -, spares, -⟩ := here.done did
        rw [silent]
        exact ⟨behind spares onward, .inr (.inl here)⟩

/-- Such a request never waits. -/
theorem Misses.did (misses : Misses id registry (task :: later) reply)
    (answer : Except SinkError Unit) : ∃ progress, task.step registry answer = some progress := by
  refine Option.ne_none_iff_exists'.mp fun waits => ?_
  obtain ⟨_, _, _, rfl, -⟩ := Task.step_eq_none.mp waits
  generalize todos : Task.join _ _ _ :: later = todo at misses
  cases misses with
  | missed => cases todos
  | @looking tidying last tidies looks =>
    cases tidying with
    | nil =>
      obtain ⟨rfl, -⟩ := List.cons.inj todos
      exact looks
    | cons first rest =>
      obtain ⟨rfl, -⟩ := List.cons.inj todos
      rcases tidies _ List.mem_cons_self with reaps | here
      · cases reaps
      · obtain ⟨progress, did⟩ := here.did answer
        exact absurd (did.symm.trans waits) (Option.some_ne_none progress)

/-- A request that has returned has the right answer. -/
theorem Misses.reply_eq {todo : List Task} (misses : Misses id registry todo reply)
    (returned : todo = []) : reply = some (.error (.notFound id)) := by
  cases misses with
  | missed => rfl
  | looking => simp at returned

end Missing

namespace System

variable {settings : Settings} {before during : List Move} {id : SessionId} {request : Request}

/-- Whether a session is registered at no time from when a call is begun until some moves later. -/
def AbsentWhile (settings : Settings) (before : List Move) (call : Call) (during : List Move)
    (id : SessionId) : Prop :=
  ∀ early, early <+: during →
    ((new settings).run (before ++ .begin call :: early)).registry.state? id = none

/-- **How far such a request has come**, whatever else went on meanwhile. -/
theorem misses_run (needs : request.needs = true)
    (absent : AbsentWhile settings before (.session id request) during id) :
    ∃ flight,
      ((new settings).run (before ++ .begin (.session id request) :: during)).flights[
          ((new settings).run before).flights.length]? = some flight ∧
        flight.call = .session id request ∧
        Misses id
          ((new settings).run (before ++ .begin (.session id request) :: during)).registry
          flight.todo flight.reply := by
  simp only [AbsentWhile, run_append, run_cons] at absent ⊢
  generalize (new settings).run before = system at absent ⊢
  refine run_induction (system.move (.begin (.session id request)))
    (fun schedule reached => schedule <+: during → ∃ flight,
      reached.flights[system.flights.length]? = some flight ∧
        flight.call = .session id request ∧
        Misses id reached.registry flight.todo flight.reply)
    (fun _ => ⟨_, List.getElem?_concat_length, rfl, misses_begun _ id needs⟩)
    (fun schedule move before step found => ?_) during (List.prefix_refl during)
  have early := (List.prefix_append _ _).trans found
  have gone := absent schedule early
  obtain ⟨flight, known, call, misses⟩ := before early
  generalize (system.move (.begin (.session id request))).run schedule = reached at *
  have stays : ∀ number, reached.registry.isFinished number = true →
      (reached.move move).registry.isFinished number = true := fun _ => step.isFinished
  generalize reached.move move = after at *
  cases step with
  | begun =>
    refine ⟨flight, ?_, call, misses.mono stays⟩
    exact (List.getElem?_append_left (List.getElem?_eq_some_iff.mp known).1).trans known
  | stayed | worked | waited => exact ⟨flight, known, call, misses.mono stays⟩
  | @done number answer other task later progress there next did =>
    by_cases here : number = system.flights.length
    · subst here
      obtain rfl := Option.some.inj (known.symm.trans there)
      rw [next] at misses
      exact ⟨_, List.getElem?_set_self (List.getElem?_eq_some_iff.mp known).1, call,
        (misses.done gone did).1⟩
    · exact ⟨flight, (List.getElem?_set_ne here).trans known, call, misses.mono stays⟩

/-- One task of such a request leaves everybody else alone. -/
theorem sparesOthers_missed {schedule : List Move} {number : Nat} {flight : Flight} {task : Task}
    {later : List Task} {answer : Except SinkError Unit} {progress : Progress}
    (known : ((new settings).run schedule).flights[number]? = some flight)
    (next : flight.todo = task :: later)
    (absent : ((new settings).run schedule).registry.state? id = none)
    (misses : Misses id ((new settings).run schedule).registry (task :: later) flight.reply)
    (did : task.step ((new settings).run schedule).registry answer = some progress)
    (moved : Flight) :
    SparesOthers number ((new settings).run schedule)
      ⟨progress.registry, ((new settings).run schedule).flights.set number moved⟩ := by
  rcases (misses.done absent did).2 with forgets | tidies | same
  · rw [forgets]
    exact sparesOthers_reaped number _ moved
  · exact sparesOthers_tidied known next tidies did moved
  · rw [same]
    exact ⟨.refl _, fun other different => List.getElem?_set_ne (Ne.symm different), [], rfl,
      fun _ member => by cases member⟩

/-- Whether a request misses its session, and has left everybody else alone since some time. -/
structure MissesSince (settings : Settings) (number : Nat) (id : SessionId)
    (system reached : System) : Prop where
  reachable : ∃ schedule, reached = (new settings).run schedule
  absent : reached.registry.state? id = none
  misses : ∃ flight, reached.flights[number]? = some flight ∧
    Misses id reached.registry flight.todo flight.reply
  spares : SparesOthers number system reached

/-- As long as only such a request goes on, it goes on to miss its session. -/
theorem MissesSince.goes {number : Nat} {system reached : System} {flight : Flight} {task : Task}
    {later : List Task} (since : MissesSince settings number id system reached)
    (known : reached.flights[number]? = some flight) (next : flight.todo = task :: later) :
    ∃ progress, task.step reached.registry (.ok ()) = some progress ∧
      MissesSince settings number id system
        ⟨progress.registry, reached.flights.set number (flight.advance progress later)⟩ := by
  obtain ⟨⟨schedule, rfl⟩, absent, ⟨other, also, misses⟩, spares⟩ := since
  obtain rfl := Option.some.inj (known.symm.trans also)
  rw [next] at misses
  obtain ⟨progress, did⟩ := misses.did (.ok ())
  have onward := sparesOthers_missed known next absent misses did (flight.advance progress later)
  refine ⟨progress, did, ⟨schedule ++ [.proceed number (.ok ())], ?_⟩,
    onward.live.state?_eq_none absent,
    ⟨_, List.getElem?_set_self (List.getElem?_eq_some_iff.mp known).1, (misses.done absent did).1⟩,
    spares.trans onward⟩
  rw [run_concat]
  exact (move_did known next did).symm

/-- **A request for a session that is not registered is answered so, and nobody else notices.**
Whatever else goes on, as long as the session is not registered meanwhile, the request has the right
answer when it returns, each of its moves leaves everybody else alone, and it returns by its own
moves. -/
theorem notFound_of_unknown (settings : Settings) (before during : List Move) (id : SessionId)
    (request : Request) (needs : request.needs = true)
    (absent : AbsentWhile settings before (.session id request) during id) :
    let number := ((new settings).run before).flights.length
    let system := (new settings).run (before ++ .begin (.session id request) :: during)
    ∃ flight, system.flights[number]? = some flight ∧ flight.call = .session id request ∧
      (flight.todo = [] → flight.reply = some (.error (.notFound id))) ∧
      (∀ answer, SparesOthers number system (system.move (.proceed number answer))) ∧
      ∃ count moved,
        let reached := system.run (List.replicate count (.proceed number (.ok ())))
        reached.flights[number]? = some moved ∧ moved.todo = [] ∧
          moved.reply = some (.error (.notFound id)) ∧ SparesOthers number system reached := by
  intro number system
  obtain ⟨flight, known, call, misses⟩ := misses_run needs absent
  have gone : system.registry.state? id = none := absent during (List.prefix_refl during)
  refine ⟨flight, known, call, misses.reply_eq, fun answer => ?_, ?_⟩
  · generalize stepped : system.move (.proceed number answer) = after
    have step := stepped ▸ system.step_move (.proceed number answer)
    cases step with
    | stayed => exact .refl _ _
    | done also next did =>
      obtain rfl := Option.some.inj (known.symm.trans also)
      exact sparesOthers_missed known next gone (next ▸ misses) did _
  · have start : MissesSince settings number id system system :=
      ⟨⟨_, rfl⟩, gone, ⟨flight, known, misses⟩, .refl _ _⟩
    obtain ⟨more, moved, own, there, returned, -, -, ⟨other, also, misses⟩, spares⟩ :=
      exists_returned (fun _ => .ok ()) (fun _ _ _ _ since => since.goes) start known
    obtain rfl := Option.some.inj (there.symm.trans also)
    have same : more = List.replicate more.length (.proceed number (.ok ())) :=
      List.eq_replicate_of_mem fun move member => (own move member).elim fun _ found => found
    rw [same] at there spares
    exact ⟨more.length, moved, there, returned, misses.reply_eq returned, spares⟩

/-- A session is running, and another one is to be paused. -/
theorem notFound_of_unknown_pause :
    let during : List Move := [.proceed 1 (.ok ()), .proceed 1 (.ok ())]
    let system := (new Settings.default).run
      (startedOnce ++ .begin (.session ⟨"t"⟩ .pause) :: during)
    AbsentWhile Settings.default startedOnce (.session ⟨"t"⟩ .pause) during ⟨"t"⟩ ∧
      system.registry.state? ⟨"s"⟩ = some (.running 0) ∧
      (∃ flight, system.flights[1]? = some flight ∧
        flight.reply = some (.error (.notFound ⟨"t"⟩))) ∧
      SparesOthers 1 system (system.move (.proceed 1 (.ok ()))) := by
  intro during system
  have prefixes : ∀ early ∈ during.inits,
      ((new Settings.default).run
        (startedOnce ++ .begin (.session ⟨"t"⟩ .pause) :: early)).registry.state? ⟨"t"⟩ = none := by
    decide
  have absent : AbsentWhile Settings.default startedOnce (.session ⟨"t"⟩ .pause) during ⟨"t"⟩ :=
    fun early found => prefixes early ((List.mem_inits _ _).mpr found)
  obtain ⟨flight, known, -, replied, spares, -⟩ :=
    notFound_of_unknown Settings.default startedOnce during ⟨"t"⟩ .pause rfl absent
  have returned : (system.flights[1]?.map fun flight => flight.todo.isEmpty) = some true := by
    decide
  have last : ((new Settings.default).run startedOnce).flights.length = 1 := by decide
  rw [last] at known spares
  rw [known] at returned
  exact ⟨absent, by decide, ⟨flight, known,
    replied (List.isEmpty_iff.mp (Option.some.inj returned))⟩, spares (.ok ())⟩

/-- It is not so that every change of parameters is refused for a session that is not registered: a
change of nothing is answered at once. -/
theorem exists_found_of_unknown :
    ¬ ∀ (settings : Settings) (before during : List Move) (id : SessionId) (wish : ParamChange)
      (flight : Flight), AbsentWhile settings before (.session id (.change wish)) during id →
      ((new settings).run (before ++ .begin (.session id (.change wish)) :: during)).flights[
          ((new settings).run before).flights.length]? = some flight →
      flight.todo = [] → flight.reply = some (.error (.notFound id)) := by
  intro refused
  have prefixes : ∀ early ∈ List.inits [Move.proceed 0 (.ok ())],
      ((new Settings.default).run
        (.begin (.session ⟨"s"⟩ (.change .nothing)) :: early)).registry.state? ⟨"s"⟩ = none := by
    decide
  have told := refused Settings.default [] [.proceed 0 (.ok ())] ⟨"s"⟩ .nothing
    ⟨.session ⟨"s"⟩ (.change .nothing), [], some (.ok .done), []⟩
    (fun early found => prefixes early ((List.mem_inits _ _).mpr found)) rfl rfl
  cases told

end System

end Arcade
