/-
**A move and its echo.**

A system with many sessions mirrors a system that has one of them only (`System.Mirrors`). What is
done to the session is done to the mirror as well; what strangers do is not seen there, and the
tasks that need nobody the mirror does as they come. Where a call about the session comes upon
strangers that have ended, it puts away what they left; these tasks have no counterpart
(`Task.Parallels`).

* `System.Mirrors.proceed`, `.work`, `.begin`: a task of a call, a step of a worker, a new call;
* `System.Mirrors.move`: one move;
* `System.Mirrors.silent?_of_rests`: while the session's calls rest, the mirror does nothing.
-/

import Arcade.Proofs.Registry.Script

namespace Arcade

/-! ### Tasks beside those of strangers -/

/-- Whether a task is part of putting away what a session left. -/
def Task.tidies : Task → Bool
  | .halt _ _ .close | .join _ _ .close | .close _ => true
  | _ => false

theorem Task.asks_of_tidies {task : Task} (tidies : task.tidies = true) : task.asks = false := by
  cases task with
  | tell | acknowledge | spawn => cases tidies
  | _ => rfl

open Registry in
/-- Whoever puts something away answers nobody, and goes on putting away. -/
theorem Task.tidies_done {registry : Registry} {answer : Except SinkError Unit} {task : Task}
    {progress : Progress} (tidies : task.tidies = true)
    (did : task.step registry answer = some progress) :
    progress.reply = none ∧ ∀ next ∈ progress.todo, next.tidies = true := by
  cases task with
  | close sink =>
    cases did
    exact ⟨rfl, fun _ member => by cases member⟩
  | halt id number custody =>
    cases custody with
    | close =>
      cases did
      refine ⟨rfl, fun next member => ?_⟩
      rw [List.mem_singleton.mp member]
      rfl
    | keep => cases tidies
  | join id number custody =>
    cases custody with
    | close =>
      cases registry.yields_join did with
      | ended =>
        refine ⟨rfl, fun next member => ?_⟩
        rw [List.mem_singleton.mp member]
        rfl
      | broken => exact ⟨rfl, fun _ member => by cases member⟩
      | watched watches => cases watches
    | keep => cases tidies
  | _ => cases tidies

/-- Whether some tasks mirror others, if those are left out that put away what strangers left. -/
inductive Task.Parallels (ids : List SessionId) (standings : List Standing) (id : SessionId)
    (roster : Roster) : List Task → List Task → Prop
  | nil : Parallels ids standings id roster [] []
  | own {task single later others} (same : task.Mirrors id roster single)
      (rest : Parallels ids standings id roster later others) :
    Parallels ids standings id roster (task :: later) (single :: others)
  | stray {task later others} (tidies : task.tidies = true)
      (avoids : task.Avoids ids standings id)
      (rest : Parallels ids standings id roster later others) :
    Parallels ids standings id roster (task :: later) others

namespace Task.Parallels

variable {ids : List SessionId} {standings : List Standing} {id : SessionId} {roster : Roster}
  {first second firsts seconds : List Task}

theorem append_own (same : List.Forall₂ (Task.Mirrors id roster) first firsts)
    (rest : Parallels ids standings id roster second seconds) :
    Parallels ids standings id roster (first ++ second) (firsts ++ seconds) := by
  induction same with
  | nil => exact rest
  | cons head _ ih => exact .own head ih

theorem append (same : Parallels ids standings id roster first firsts)
    (rest : Parallels ids standings id roster second seconds) :
    Parallels ids standings id roster (first ++ second) (firsts ++ seconds) := by
  induction same with
  | nil => exact rest
  | own like _ ih => exact .own like ih
  | stray tidies avoids _ ih => exact .stray tidies avoids ih

theorem append_stray
    (strays : ∀ task ∈ first, task.tidies = true ∧ task.Avoids ids standings id)
    (rest : Parallels ids standings id roster second seconds) :
    Parallels ids standings id roster (first ++ second) seconds := by
  induction first with
  | nil => exact rest
  | cons task later ih =>
    obtain ⟨tidies, avoids⟩ := strays task List.mem_cons_self
    exact .stray tidies avoids (ih fun next member => strays next (List.mem_cons_of_mem _ member))

theorem grown {registry : Registry} {idsLater : List SessionId} {later : List Standing}
    {rosterLater : Roster}
    (named : ∀ (sink : SinkId) (id : SessionId), ids[sink]? = some id → idsLater[sink]? = some id)
    (keeps : Keeps registry.standings later) (grows : roster.Grows rosterLater)
    {todo others : List Task} (same : Parallels ids registry.standings id roster todo others) :
    Parallels idsLater later id rosterLater todo others := by
  induction same with
  | nil => exact .nil
  | own same _ ih => exact .own (same.mono grows) ih
  | stray tidies avoids _ ih => exact .stray tidies (avoids.mono named keeps) ih

end Task.Parallels

namespace System

/-- The workers and sinks of a session in a system. -/
def roster (system : System) (id : SessionId) : Roster :=
  system.registry.roster system.startIds id

/-- Whether a system has what another one had of a session's workers and sinks, and perhaps more. -/
structure Grows (id : SessionId) (system after : System) : Prop where
  ids : system.startIds <+: after.startIds
  keeps : Keeps system.registry.standings after.registry.standings
  roster : (system.roster id).Grows (after.roster id)

theorem places_mono (id : SessionId) {names later : List SessionId} (grown : names <+: later) :
    places id names <+: places id later := by
  obtain ⟨more, rfl⟩ := grown
  induction more using List.reverseRecOn with
  | nil => exact (List.append_nil names).symm ▸ List.prefix_rfl
  | append_singleton more name ih =>
    rw [← List.append_assoc, places_concat]
    exact ih.trans (List.prefix_append _ _)

theorem owners_turn {registry : Registry} {number : WorkerId} {worker after : Worker}
    {deliveries : List Delivery} (turn : worker.Turn after deliveries)
    (known : registry.worker? number = some worker) :
    (registry.turn number worker after deliveries).owners = registry.owners := by
  rw [Registry.owners, Registry.standings_turn]
  refine owners_set (registry.standings_getElem? known) ?_
  rw [turn.standing_eq]
  rfl

theorem Step.owners_prefix {system after : System} {move : Move} (step : system.Step move after) :
    system.registry.owners <+: after.registry.owners := by
  cases step with
  | done _ _ did =>
    rcases Task.owners_step did with same | ⟨launch, -, same⟩
    · exact same ▸ List.prefix_rfl
    · exact same ▸ List.prefix_append _ _
  | worked known turn => exact owners_turn turn known ▸ List.prefix_rfl
  | begun | stayed | waited => exact List.prefix_rfl

theorem Step.grows {system after : System} {move : Move} (step : system.Step move after)
    (id : SessionId) : system.Grows id after :=
  ⟨step.startIds_prefix, step.keeps,
    ⟨places_mono id step.owners_prefix, places_mono id step.startIds_prefix⟩⟩

end System

/-- Whether two calls are the same but for the seed, have answered the same, and have the same to
do. -/
structure Flight.Mirrors (id : SessionId) (system : System) (flight alone : Flight) : Prop where
  call : flight.call.seedless = alone.call
  reply : flight.reply = alone.reply
  todo : Task.Parallels system.startIds system.registry.standings id (system.roster id)
    flight.todo alone.todo

/-- Whether a system has of a session what a system of the session alone has: the same in the
registry, and the same calls. The other calls have nothing to do with the session. -/
structure System.Mirrors (id : SessionId) (system alone : System) : Prop where
  registry : system.registry.Mirrors id (system.roster id) alone.registry
  flights : List.Forall₂ (Flight.Mirrors id system)
    (system.flights.filter fun flight => flight.call.concerns id) alone.flights
  others : ∀ flight ∈ system.flights, flight.call.concerns id = false →
    ∀ task ∈ flight.todo, task.Avoids system.startIds system.registry.standings id

section Growth

variable {id : SessionId} {system after : System} (grown : system.Grows id after)

include grown

theorem System.Grows.avoids {task : Task}
    (avoids : task.Avoids system.startIds system.registry.standings id) :
    task.Avoids after.startIds after.registry.standings id :=
  avoids.mono (fun _ _ found => getElem?_of_grown grown.ids found) grown.keeps

theorem Task.Parallels.mono {todo others : List Task}
    (same : Task.Parallels system.startIds system.registry.standings id (system.roster id) todo
      others) :
    Task.Parallels after.startIds after.registry.standings id (after.roster id) todo others :=
  same.grown (fun _ _ found => getElem?_of_grown grown.ids found) grown.keeps grown.roster

theorem Flight.Mirrors.mono {flight alone : Flight} (same : flight.Mirrors id system alone) :
    flight.Mirrors id after alone :=
  ⟨same.call, same.reply, same.todo.mono grown⟩

end Growth

namespace System

/-! ### The latest call -/

section Latest

variable {system : System} {front : List Flight} {flight : Flight} {task : Task}
  {later : List Task} {answer : Except SinkError Unit} {progress : Progress}

theorem set_latest (front : List Flight) (flight moved : Flight) :
    (front ++ [flight]).set front.length moved = front ++ [moved] := by
  rw [List.set_append_right _ _ (Nat.le_refl _), Nat.sub_self]
  rfl

/-- A call that waits for a worker is not answered. -/
theorem stimulus?_of_stayed {id : SessionId} {number : Nat}
    (waits : ∀ task, system.task? (.proceed number answer) = some task →
      ∃ other worker custody, task = .join other worker custody) :
    system.stimulus? id (.proceed number answer) = none := by
  cases known : system.flights[number]? with
  | none => simp [stimulus?, known]
  | some flight =>
    cases next : flight.todo with
    | nil => simp [stimulus?, known, next]
    | cons task later =>
      obtain ⟨other, worker, custody, rfl⟩ := waits task (task?_proceed known next answer)
      simp [stimulus?, known, next, Task.asks]

/-- A call in progress is the latest of a sequential schedule. -/
theorem flights_eq_concat {number : Nat} (known : system.flights[number]? = some flight)
    (last : number + 1 = system.flights.length) :
    ∃ front, system.flights = front ++ [flight] ∧ number = front.length := by
  refine ⟨system.flights.take number, ?_, ?_⟩
  · have whole := List.take_append_drop number system.flights
    rw [List.drop_eq_getElem_cons (by omega), List.drop_eq_nil_of_le (by omega)] at whole
    rw [← (List.getElem?_eq_some_iff.mp known).2]
    exact whole.symm
  · rw [List.length_take]
    omega

variable (flights : system.flights = front ++ [flight])

include flights

theorem proceed_latest (next : flight.todo = task :: later)
    (did : task.step system.registry answer = some progress) :
    system.proceed (system.flights.length - 1) answer =
      ⟨progress.registry, front ++ [flight.advance progress later]⟩ := by
  have latest : system.flights[system.flights.length - 1]? = some flight := by
    rw [flights, List.length_append, List.length_singleton, Nat.add_sub_cancel,
      List.getElem?_concat_length]
  simp only [proceed, latest, next, did]
  rw [flights, List.length_append, List.length_singleton, Nat.add_sub_cancel, set_latest]
  rfl

theorem silent?_of_over (complete : flight.todo = []) : system.silent? = none := by
  simp [silent?, flights, complete]

theorem silent?_of_asks (next : flight.todo = task :: later) (asks : task.asks = true) :
    system.silent? = none := by
  simp [silent?, flights, next, asks]

theorem silent?_of_waits (next : flight.todo = task :: later)
    (waits : task.step system.registry (.ok ()) = none) : system.silent? = none := by
  simp [silent?, flights, next, waits]

theorem silent?_of_done (next : flight.todo = task :: later) (asks : task.asks = false)
    (did : task.step system.registry (.ok ()) = some progress) :
    system.silent? = some ⟨progress.registry, front ++ [flight.advance progress later]⟩ := by
  rw [← proceed_latest flights next did]
  simp [silent?, flights, next, asks, did]

end Latest

end System

/-- While a call waits for somebody, the latest call that mirrors it does nothing by itself. -/
theorem Task.Parallels.silent? {ids : List SessionId} {standings : List Standing} {id : SessionId}
    {roster : Roster} {registry : Registry} {alone : System} {fronts : List Flight}
    {other : Flight} {todo : List Task}
    (same : Task.Parallels ids standings id roster todo other.todo)
    (mirrors : registry.Mirrors id roster alone.registry)
    (others : alone.flights = fronts ++ [other])
    (waits : (match todo.head? with
      | none => true
      | some (.join named worker _) => named = id && !registry.isFinished worker
      | some task => task.asks) = true) : alone.silent? = none := by
  generalize left : other.todo = tasks at same
  cases same with
  | nil => exact System.silent?_of_over others left
  | @stray task _ _ tidies avoids rest =>
    -- what a stranger left is put away without waiting
    cases task with
    | join named number custody =>
      rw [List.head?_cons, Bool.and_eq_true, decide_eq_true_iff] at waits
      exact absurd waits.1 avoids
    | halt | close => cases waits
    | _ => cases tidies
  | own like rest =>
    cases like with
    | join there kept =>
      rw [List.head?_cons, Bool.and_eq_true, Bool.not_eq_true',
        mirrors.isFinished_eq there] at waits
      exact System.silent?_of_waits others left (Task.step_eq_none.mpr ⟨_, _, _, rfl, waits.2⟩)
    | tell | acknowledge | spawn => exact System.silent?_of_asks others left rfl
    | _ => cases waits

/-- A worker that looks at its gate does not look at its client. -/
theorem Worker.step_heeded (worker : Worker) (now : Moment) (reaction : Reaction) :
    worker.step now (worker.heeded reaction) = worker.step now reaction := by
  unfold heeded
  cases turn : worker.phase with
  | ready => simp only [step, turn]
  | _ => rfl

/-- A worker that does not go on is left as it is. -/
theorem Registry.work_of_idle (registry : Registry) {number : WorkerId} {worker : Worker}
    (known : registry.worker? number = some worker) (idle : worker.goesOn = false)
    (reaction : Reaction) : registry.work number reaction = registry := by
  have same : worker.step registry.now reaction = ⟨worker, []⟩ := by
    cases turn : worker.phase with
    | ready =>
      cases gate : worker.session.gate with
      | paused => simp only [Worker.step, turn, Session.begin, gate]
      | running | stopped =>
        rw [Worker.goesOn, turn, gate] at idle
        cases idle
    | offering | reporting =>
      rw [Worker.goesOn, turn] at idle
      cases idle
    | ended | broken => exact worker.step_of_finished _ _ (by rw [Worker.isFinished, turn]; rfl)
  have kept : registry.workers.set number worker = registry.workers := by
    obtain ⟨inside, rfl⟩ := List.getElem?_eq_some_iff.mp known
    exact List.set_getElem_self inside
  rw [work, known]
  simp only [same, kept]
  rfl

/-- What a task that needs nobody's answer does does not depend on one. -/
theorem Task.step_of_silent {registry : Registry} {task : Task} (silent : task.asks = false)
    (one other : Except SinkError Unit) : task.step registry one = task.step registry other := by
  cases task with
  | tell | acknowledge | spawn => cases silent
  | _ => rfl

theorem Task.Mirrors.asks {id : SessionId} {roster : Roster} {task single : Task}
    (same : task.Mirrors id roster single) : task.asks = single.asks := by
  cases same <;> rfl

/-- A call about a session does the same whatever its seed is. -/
theorem Call.tasks_mirror {id : SessionId} {roster : Roster} {call : Call} {sink single : SinkId}
    (here : call.concerns id = true)
    (handed : call.starts? = some id → roster.sinks[single]? = some sink) :
    List.Forall₂ (Task.Mirrors id roster) (call.tasks sink) (call.seedless.tasks single) := by
  cases call with
  | start other rom seed =>
    obtain rfl : other = id := of_decide_eq_true here
    exact .cons (.build (handed rfl)) .nil
  | session other request =>
    obtain rfl : other = id := of_decide_eq_true here
    cases request with
    | stop => exact .cons .remove .nil
    | unload => exact .cons (.unload .park) .nil
    | changeRom => exact .cons .rebuild .nil
    | pause | unpause | toggle | isPaused => exact .cons .reap (.cons .seek .nil)
    | change wish =>
      simp only [tasks, seedless, Request.tasks]
      split
      · exact .cons .answer .nil
      · exact .cons .reap (.cons .seek .nil)
    | press => exact .cons .reap (.cons .record .nil)
    | contains => exact .cons .reap (.cons .contains .nil)
  | _ => cases here

/-- A call about another session avoids the session. -/
theorem Call.tasks_avoid {ids : List SessionId} {standings : List Standing} {id : SessionId}
    {system : System} {call : Call} (elsewhere : call.concerns id = false)
    (targeted : system.targets (.begin call) = true) (sink : SinkId) :
    ∀ task ∈ call.tasks sink, task.Avoids ids standings id := by
  have begins := call.begins sink
  generalize call.tasks sink = todo at begins ⊢
  cases begins with
  | sweep | shutdown => cases targeted
  | size | isEmpty | stats | ids | catalog => simp [Task.Avoids]
  | _ =>
    have different := of_decide_eq_false elsewhere
    simp [Task.Avoids, different]

theorem forall₂_concat {α β : Type} {relation : α → β → Prop} {front : List α} {last : α}
    {others : List β} (same : List.Forall₂ relation (front ++ [last]) others) :
    ∃ fronts other, others = fronts ++ [other] ∧ List.Forall₂ relation front fronts ∧
      relation last other := by
  induction front generalizing others with
  | nil =>
    obtain _ | ⟨here, rest⟩ := same
    cases rest
    exact ⟨[], _, rfl, .nil, here⟩
  | cons first rest ih =>
    obtain _ | ⟨here, behind⟩ := same
    obtain ⟨fronts, other, rfl, before, last⟩ := ih behind
    exact ⟨_ :: fronts, other, rfl, .cons here before, last⟩

namespace System

/-- The system after the latest call did a task. -/
def advanced (front : List Flight) (flight : Flight) (progress : Progress) (later : List Task) :
    System :=
  ⟨progress.registry, front ++ [flight.advance progress later]⟩

theorem startIds_advanced {system : System} {front : List Flight} {flight : Flight}
    (flights : system.flights = front ++ [flight]) (progress : Progress) (later : List Task) :
    (advanced front flight progress later).startIds = system.startIds := by
  unfold startIds advanced
  rw [flights, List.filterMap_append, List.filterMap_append]
  rfl

end System

namespace System

/-- What a system does when something is done to its session, or when nothing is: then it goes on by
itself, as far as it likes. -/
def Responds (system : System) (stimulus : Option Stimulus) (after : System) : Prop :=
  match stimulus with
  | some stimulus => system.silent? = none ∧ after = system.undergo stimulus
  | none => system.Settles after

/-- The latest call goes on, when it is answered if it asks for that, and by itself otherwise. -/
theorem responds_latest {system : System} {front : List Flight} {flight : Flight} {task : Task}
    {later : List Task} {answer : Except SinkError Unit} {progress : Progress}
    (flights : system.flights = front ++ [flight]) (next : flight.todo = task :: later)
    (did : task.step system.registry answer = some progress) :
    system.Responds (if task.asks then some (.answered answer) else none)
      (advanced front flight progress later) := by
  cases asks : task.asks with
  | true => exact ⟨silent?_of_asks flights next asks, (proceed_latest flights next did).symm⟩
  | false =>
    rw [Task.step_of_silent asks answer (.ok ())] at did
    exact .single (silent?_of_done flights next asks did)

end System

/-- While no call is in progress, each has returned. -/
theorem System.rests_of_quiet {system : System} {id : SessionId} (quiet : system.isQuiet = true) :
    system.rests id = true := by
  refine List.all_eq_true.mpr fun flight member => ?_
  rw [todo_of_quiet quiet member]
  exact Bool.or_true _

namespace System.Mirrors

/-! ### Tasks -/

section Tasks

variable {id : SessionId} {system alone : System} {front : List Flight} {flight : Flight}
  {task : Task} {later : List Task} {answer : Except SinkError Unit} {progress : Progress}
  (mirrors : system.Mirrors id alone) (labelled : system.Labelled)
  (lasts : ∀ entry ∈ system.registry.finished, entry.1 ≠ id)
  (flights : system.flights = front ++ [flight]) (next : flight.todo = task :: later)
  (did : task.step system.registry answer = some progress)
  (grown : system.Grows id (advanced front flight progress later))

include mirrors flights grown

/-- The calls that came before the latest one stay as they were. -/
theorem others_advanced (moved : flight.call.concerns id = false →
    ∀ task ∈ progress.todo ++ later,
      task.Avoids (advanced front flight progress later).startIds
        progress.registry.standings id) :
    ∀ other ∈ (advanced front flight progress later).flights, other.call.concerns id = false →
      ∀ task ∈ other.todo, task.Avoids (advanced front flight progress later).startIds
        progress.registry.standings id := by
  intro other member elsewhere task inTodo
  rcases List.mem_append.mp member with old | new
  · have known : other ∈ system.flights := flights ▸ List.mem_append_left _ old
    exact grown.avoids (mirrors.others other known elsewhere task inTodo)
  · rw [List.mem_singleton.mp new] at elsewhere inTodo
    exact moved elsewhere task inTodo

include labelled lasts next did

/-- A task that avoids the session leaves the mirror as it is. -/
theorem registry_avoiding
    (avoids : task.Avoids system.startIds system.registry.standings id) :
    progress.registry.Mirrors id ((advanced front flight progress later).roster id)
      alone.registry ∧
    ∀ next ∈ progress.todo, next.Avoids (advanced front flight progress later).startIds
      progress.registry.standings id := by
  have member : flight ∈ system.flights := flights ▸ List.mem_append_right _ List.mem_cons_self
  have here : task ∈ flight.todo := next ▸ List.mem_cons_self
  have label := labelled.tasks flight member task here
  have spares := avoids.spares label labelled.registry lasts did
  have same : (advanced front flight progress later).roster id = system.roster id := by
    unfold System.roster
    rw [startIds_advanced flights]
    exact Registry.roster_congr spares.places
  constructor
  · rw [same]
    exact mirrors.registry.spared spares rfl rfl
  · intro task inTodo
    exact grown.avoids (avoids.done label labelled.registry lasts did task inTodo)

/-- A task of a stranger's call. -/
theorem stranger (elsewhere : flight.call.concerns id = false) :
    (advanced front flight progress later).Mirrors id alone := by
  have member : flight ∈ system.flights := flights ▸ List.mem_append_right _ List.mem_cons_self
  have apart := mirrors.others flight member elsewhere
  rw [next] at apart
  obtain ⟨registry, fresh⟩ := mirrors.registry_avoiding labelled lasts flights next did grown
    (apart task List.mem_cons_self)
  refine ⟨registry, ?_, mirrors.others_advanced flights grown fun _ other inTodo => ?_⟩
  · have same := mirrors.flights
    have moved : (flight.advance progress later).call.concerns id = false := elsewhere
    rw [flights, List.filter_append, List.filter_singleton, elsewhere] at same
    show List.Forall₂ _ (List.filter _ (front ++ [flight.advance progress later])) _
    rw [List.filter_append, List.filter_singleton, moved]
    exact same.imp fun _ _ mirrored => mirrored.mono grown
  · rcases List.mem_append.mp inTodo with new | old
    · exact fresh other new
    · exact grown.avoids (apart other (List.mem_cons_of_mem _ old))

omit labelled lasts next did in
/-- What becomes of the latest call if it is about the session. -/
theorem concerned (here : flight.call.concerns id = true) {fronts : List Flight}
    (before : List.Forall₂ (Flight.Mirrors id system)
      (front.filter fun flight => flight.call.concerns id) fronts) {registry : Registry}
    {other : Flight}
    (mirrored : progress.registry.Mirrors id ((advanced front flight progress later).roster id)
      registry)
    (moved : (flight.advance progress later).Mirrors id (advanced front flight progress later)
      other) :
    (advanced front flight progress later).Mirrors id ⟨registry, fronts ++ [other]⟩ := by
  refine ⟨mirrored, ?_, mirrors.others_advanced flights grown fun elsewhere => ?_⟩
  · have about : (flight.advance progress later).call.concerns id = true := here
    show List.Forall₂ _ (List.filter _ (front ++ [flight.advance progress later])) _
    rw [List.filter_append, List.filter_singleton, about]
    exact List.rel_append (before.imp fun _ _ same => same.mono grown) (.cons moved .nil)
  · rw [here] at elsewhere
    cases elsewhere

/-- A task of a call about the session that puts away what a stranger left. -/
theorem stray (here : flight.call.concerns id = true) {fronts : List Flight} {other : Flight}
    (others : alone.flights = fronts ++ [other])
    (before : List.Forall₂ (Flight.Mirrors id system)
      (front.filter fun flight => flight.call.concerns id) fronts)
    (same : flight.Mirrors id system other) (tidies : task.tidies = true)
    (avoids : task.Avoids system.startIds system.registry.standings id)
    (rest : Task.Parallels system.startIds system.registry.standings id (system.roster id) later
      other.todo) :
    (advanced front flight progress later).Mirrors id alone := by
  obtain ⟨mirrored, fresh⟩ :=
    mirrors.registry_avoiding labelled lasts flights next did grown avoids
  obtain ⟨silent, tidy⟩ := Task.tidies_done tidies did
  have moved : (flight.advance progress later).Mirrors id (advanced front flight progress later)
      other := by
    refine ⟨same.call, ?_, .append_stray (fun task inTodo => ⟨tidy task inTodo, fresh task inTodo⟩)
      (rest.mono grown)⟩
    show (progress.reply <|> flight.reply) = other.reply
    rw [silent]
    exact same.reply
  have whole : alone = ⟨alone.registry, fronts ++ [other]⟩ := by rw [← others]
  rw [whole]
  exact mirrors.concerned flights grown here before mirrored moved

/-- A look for sessions that have ended, which finds none in the mirror. -/
theorem reaps (here : flight.call.concerns id = true) {fronts : List Flight} {other : Flight}
    (before : List.Forall₂ (Flight.Mirrors id system)
      (front.filter fun flight => flight.call.concerns id) fronts)
    (same : flight.Mirrors id system other) (reap : task = .reap) {others : List Task}
    (rest : Task.Parallels system.startIds system.registry.standings id (system.roster id) later
      others) :
    (advanced front flight progress later).Mirrors id
      ⟨alone.registry, fronts ++ [other.advance (alone.registry.proceed []) others]⟩ := by
  subst reap
  obtain ⟨mirrored, fresh⟩ :=
    mirrors.registry_avoiding labelled lasts flights next did grown trivial
  refine mirrors.concerned flights grown here before mirrored ⟨same.call, ?_, ?_⟩
  · cases did
    exact same.reply
  · refine .append_stray (fun task inTodo => ⟨?_, fresh task inTodo⟩) (rest.mono grown)
    cases did
    obtain ⟨entry, -, rfl⟩ := List.mem_map.mp inTodo
    rfl

omit labelled lasts next in
/-- A task of a call about the session that the mirror does as well. -/
theorem own (here : flight.call.concerns id = true) {fronts : List Flight} {other : Flight}
    (before : List.Forall₂ (Flight.Mirrors id system)
      (front.filter fun flight => flight.call.concerns id) fronts)
    (same : flight.Mirrors id system other) {single : Task} {others : List Task}
    (like : task.Mirrors id (system.roster id) single) (elsewhere : task ≠ .reap)
    (room : ∀ launch limit, task = .reserve launch → launch.id = id →
      system.registry.refusal? id ≠ some (.capacityReached limit))
    (rest : Task.Parallels system.startIds system.registry.standings id (system.roster id) later
      others) :
    ∃ lone, single.step alone.registry answer = some lone ∧
      (advanced front flight progress later).Mirrors id
        ⟨lone.registry, fronts ++ [other.advance lone others]⟩ := by
  have admitted : ∀ launch limit, task = .reserve launch →
      system.registry.refusal? id ≠ some (.capacityReached limit) := by
    rintro launch limit rfl
    cases like with
    | reserve mine => exact room launch limit rfl mine
  obtain ⟨lone, done, led⟩ := like.done mirrors.registry elsewhere admitted did
  have ids := startIds_advanced flights progress later
  have kept : (advanced front flight progress later).roster id =
      progress.registry.roster system.startIds id := by
    unfold System.roster
    rw [ids]
    rfl
  rw [← kept] at led
  refine ⟨lone, done, mirrors.concerned flights grown here before led.registry
    ⟨same.call, ?_, .append_own led.todo (rest.mono grown)⟩⟩
  show (progress.reply <|> flight.reply) = (lone.reply <|> other.reply)
  rw [led.reply, same.reply]

end Tasks

/-! ### Moves -/

section Calls

variable {id : SessionId} {system alone : System} (mirrors : system.Mirrors id alone)
  (labelled : system.Labelled) (lasts : ∀ entry ∈ system.registry.finished, entry.1 ≠ id)

include mirrors labelled lasts

/-- A task of a call about the session: the mirror does it, if it is the session's. -/
theorem proceed_concerning {front : List Flight} {flight : Flight} {task : Task}
    {later : List Task} {answer : Except SinkError Unit} {progress : Progress}
    (flights : system.flights = front ++ [flight]) (next : flight.todo = task :: later)
    (did : task.step system.registry answer = some progress)
    (grown : system.Grows id (advanced front flight progress later))
    (here : flight.call.concerns id = true)
    (room : ∀ launch limit, task = .reserve launch → launch.id = id →
      system.registry.refusal? id ≠ some (.capacityReached limit)) :
    ∃ after, (advanced front flight progress later).Mirrors id after ∧
      alone.Responds (if task.asks then some (.answered answer) else none) after := by
  have split := mirrors.flights
  rw [flights, List.filter_append, List.filter_singleton, here] at split
  obtain ⟨fronts, other, others, before, same⟩ := forall₂_concat split
  have todo := same.todo
  rw [next] at todo
  generalize listed : other.todo = left at todo
  cases todo with
  | stray tidies avoids rest =>
    rw [Task.asks_of_tidies tidies]
    rw [← listed] at rest
    exact ⟨alone, mirrors.stray labelled lasts flights next did grown here others before same
      tidies avoids rest, .refl⟩
  | @own _ single _ left like rest =>
    by_cases reap : task = .reap
    · subst reap
      cases like
      have done : Task.reap.step alone.registry (.ok ()) = some (alone.registry.proceed []) := by
        show some alone.registry.reap = _
        rw [Registry.reap, mirrors.registry.finished_eq_nil lasts]
        rfl
      exact ⟨_, mirrors.reaps labelled lasts flights next did grown here before same rfl rest,
        .single (silent?_of_done others listed rfl done)⟩
    · obtain ⟨lone, done, mirrored⟩ :=
        mirrors.own flights did grown here before same like reap room rest
      rw [like.asks]
      exact ⟨_, mirrored, responds_latest others listed done⟩

/-- A call goes on. -/
theorem proceed {number : Nat} {answer : Except SinkError Unit}
    (last : ∀ flight, system.flights[number]? = some flight → flight.todo ≠ [] →
      number + 1 = system.flights.length)
    (admitted : system.hasRoom id (.proceed number answer) = true) :
    ∃ after, (system.move (.proceed number answer)).Mirrors id after ∧
      alone.Responds (system.stimulus? id (.proceed number answer)) after := by
  have step := system.step_move (.proceed number answer)
  have grown := step.grows id
  generalize system.move (.proceed number answer) = after at step grown ⊢
  cases step with
  | stayed waits =>
    rw [stimulus?_of_stayed waits]
    exact ⟨alone, mirrors, .refl⟩
  | @done _ _ flight task later progress known next did _ =>
    have busy : flight.todo ≠ [] := by
      rw [next]
      exact List.cons_ne_nil _ _
    obtain ⟨front, flights, rfl⟩ := flights_eq_concat known (last flight known busy)
    have moved : (⟨progress.registry,
        system.flights.set front.length (flight.advance progress later)⟩ : System) =
        advanced front flight progress later := by
      rw [flights, set_latest]
      rfl
    have stimulus : system.stimulus? id (.proceed front.length answer) =
        if flight.call.concerns id && task.asks then some (.answered answer) else none := by
      simp [stimulus?, known, next]
    rw [moved] at grown ⊢
    rw [stimulus]
    cases here : flight.call.concerns id with
    | false => exact ⟨alone, mirrors.stranger labelled lasts flights next did grown here, .refl⟩
    | true =>
      rw [Bool.true_and]
      refine mirrors.proceed_concerning labelled lasts flights next did grown here
        fun launch limit same mine full => ?_
      rw [hasRoom, task?_proceed known next, same] at admitted
      simp [mine, full] at admitted

end Calls

section Rests

variable {id : SessionId} {system alone : System} (mirrors : system.Mirrors id alone)

include mirrors

/-- What becomes of the registry without a task. -/
theorem of_registry {registry lone : Registry} (grown : system.Grows id { system with registry })
    (mirrored : registry.Mirrors id (System.roster { system with registry } id) lone) :
    Mirrors id { system with registry } { alone with registry := lone } :=
  ⟨mirrored, mirrors.flights.imp fun _ _ same => same.mono grown,
    fun flight member elsewhere task inTodo =>
      grown.avoids (mirrors.others flight member elsewhere task inTodo)⟩

/-- Time passes. -/
theorem wait (span : Span) : (system.move (.wait span)).Mirrors id alone := by
  have kept := mirrors.registry
  have later : Registry.Mirrors id (System.roster (system.move (.wait span)) id)
      { system.registry with now := system.registry.now + span.nanoseconds } alone.registry :=
    ⟨kept.settings, kept.lonely, kept.slot, kept.staff, kept.workers, kept.sinks, kept.heard⟩
  exact mirrors.of_registry ((system.step_move (.wait span)).grows id) later

/-- While each call about the session waits for somebody, the mirror does nothing by itself. -/
theorem silent?_of_rests (rests : system.rests id = true) : alone.silent? = none := by
  rcases List.eq_nil_or_concat alone.flights with none | ⟨fronts, other, others⟩
  · simp [silent?, none]
  · rw [List.concat_eq_append] at others
    have split := mirrors.flights.flip
    rw [others] at split
    obtain ⟨_, flight, listed, -, same⟩ := forall₂_concat split
    have member : flight ∈ system.flights.filter fun flight => flight.call.concerns id :=
      listed ▸ List.mem_append_right _ List.mem_cons_self
    obtain ⟨known, here⟩ := List.mem_filter.mp member
    have waits := List.all_eq_true.mp rests flight known
    rw [here, Bool.not_true, Bool.false_or] at waits
    exact same.todo.silent? mirrors.registry others waits

end Rests

section Workers

variable {id : SessionId} {system alone : System} (mirrors : system.Mirrors id alone)

include mirrors

/-- What a stranger's worker does. -/
theorem work_stranger (labelled : system.Labelled) {number : WorkerId} {worker : Worker}
    (known : system.registry.worker? number = some worker) (other : worker.session.id ≠ id)
    (reaction : Reaction) : (system.move (.work number reaction)).Mirrors id alone := by
  have turned : system.registry.work number reaction = system.registry.turn number worker
      (worker.step system.registry.now reaction).worker
      (worker.step system.registry.now reaction).deliveries := by
    rw [Registry.work, known]
    rfl
  have owners : (system.registry.work number reaction).owners = system.registry.owners := by
    rw [turned]
    exact owners_turn (worker.turn_step _ _) known
  have spares : system.registry.Spares system.startIds id
      (system.registry.work number reaction) := by
    refine ⟨?_, ?_, congrArg (places id) owners, fun dealt kept found mine => ?_,
      fun sink mine => ?_⟩
    · rw [turned]
      rfl
    · rw [turned]
      rfl
    · have different : number ≠ dealt := by
        rintro rfl
        rw [known] at found
        cases found
        exact other mine
      rw [system.registry.workers_work number dealt reaction different, found]
    · have label := labelled.registry.owner known
      have different : worker.sink ≠ sink := by
        rintro rfl
        exact other (Option.some.inj (label.symm.trans mine))
      rw [turned, Registry.sinkEvents_turn, if_neg different, List.append_nil]
  have kept : System.roster (system.move (.work number reaction)) id = system.roster id :=
    Registry.roster_congr spares.places
  have spared : Registry.Mirrors id (System.roster (system.move (.work number reaction)) id)
      (system.registry.work number reaction) alone.registry :=
    kept ▸ mirrors.registry.spared spares rfl rfl
  exact mirrors.of_registry ((system.step_move (.work number reaction)).grows id) spared

/-- What the session's worker does, the worker at its place in the mirror does as well. -/
theorem work_own {number : WorkerId} {worker : Worker}
    (known : system.registry.worker? number = some worker) (mine : worker.session.id = id)
    (still : worker.draws = false) (reaction : Reaction) :
    (system.move (.work number reaction)).Mirrors id
      (alone.move (.work ((places id system.registry.owners).idxOf number)
        (worker.heeded reaction))) := by
  have owners : (system.registry.work number reaction).owners = system.registry.owners := by
    rw [Registry.work, known]
    exact owners_turn (worker.turn_step _ _) known
  have member : number ∈ places id system.registry.owners :=
    Registry.mem_places_owners.mpr ⟨_, system.registry.standings_getElem? known, mine⟩
  have there : (places id system.registry.owners)[
      (places id system.registry.owners).idxOf number]? = some number :=
    List.getElem?_idxOf member
  have worked := mirrors.registry.work there known still (worker.heeded reaction)
  have heeded : system.registry.work number (worker.heeded reaction) =
      system.registry.work number reaction := by
    simp only [Registry.work, known, Worker.step_heeded]
  have kept : System.roster (system.move (.work number reaction)) id = system.roster id :=
    Registry.roster_congr (congrArg (places id) owners)
  refine mirrors.of_registry ((system.step_move (.work number reaction)).grows id) ?_
  rw [heeded] at worked
  exact kept ▸ worked

/-- A worker goes on. -/
theorem work (labelled : system.Labelled) {number : WorkerId} {reaction : Reaction}
    (paced : system.paces id (.work number reaction) = true)
    (drawless : system.drawless id (.work number reaction) = true) :
    ∃ after, (system.move (.work number reaction)).Mirrors id after ∧
      alone.Responds (system.stimulus? id (.work number reaction)) after := by
  have idle : (∀ worker, system.registry.worker? number = some worker → worker.goesOn = false) →
      system.move (.work number reaction) = system ∧
        system.stimulus? id (.work number reaction) = none := by
    intro idle
    cases known : system.registry.worker? number with
    | none => simp [System.move, Registry.work, stimulus?, known]
    | some worker =>
      have stays := system.registry.work_of_idle known (idle worker known) reaction
      simp [System.move, stimulus?, known, idle worker known, stays]
  cases known : system.registry.worker? number with
  | none =>
    obtain ⟨stays, nothing⟩ := idle fun worker found => by
      rw [known] at found
      cases found
    rw [stays, nothing]
    exact ⟨alone, mirrors, .refl⟩
  | some worker =>
    by_cases mine : worker.session.id = id
    · cases going : worker.goesOn with
      | false =>
        obtain ⟨stays, nothing⟩ := idle fun other found => by
          rw [known] at found
          cases found
          exact going
        rw [stays, nothing]
        exact ⟨alone, mirrors, .refl⟩
      | true =>
        have stimulus : system.stimulus? id (.work number reaction) =
            some (.granted ((places id system.registry.owners).idxOf number)
              (worker.heeded reaction)) := by
          simp [stimulus?, known, mine, going]
        have rests : system.rests id = true := by
          simpa [paces, stimulus] using paced
        have still : worker.draws = false := by
          simpa [System.drawless, known, mine] using drawless
        rw [stimulus]
        exact ⟨_, mirrors.work_own known mine still reaction,
          mirrors.silent?_of_rests rests, rfl⟩
    · have nothing : system.stimulus? id (.work number reaction) = none := by
        simp [stimulus?, known, mine]
      rw [nothing]
      exact ⟨alone, mirrors.work_stranger labelled known mine reaction, .refl⟩

end Workers

section Beginnings

variable {id : SessionId} {system alone : System} (mirrors : system.Mirrors id alone)

include mirrors

/-- A call about the session is begun. -/
theorem begun {call : Call} (here : call.concerns id = true)
    (registry : (system.begin call).registry.Mirrors id ((system.begin call).roster id)
      (alone.begin call.seedless).registry)
    (todo : List.Forall₂ (Task.Mirrors id ((system.begin call).roster id))
      (call.tasks system.registry.sinks) (call.seedless.tasks alone.registry.sinks)) :
    (system.begin call).Mirrors id (alone.begin call.seedless) := by
  have grown := (system.step_move (.begin call)).grows id
  refine ⟨registry, ?_, fun flight member elsewhere task inTodo => ?_⟩
  · show List.Forall₂ _ (List.filter _ (system.flights ++ [_])) (alone.flights ++ [_])
    rw [List.filter_append, List.filter_singleton]
    simp only [here]
    refine List.rel_append (mirrors.flights.imp fun _ _ same => same.mono grown)
      (.cons ⟨rfl, rfl, ?_⟩ .nil)
    rw [← List.append_nil (call.tasks system.registry.sinks),
      ← List.append_nil (call.seedless.tasks alone.registry.sinks)]
    exact .append_own todo .nil
  · rcases List.mem_append.mp member with old | new
    · exact grown.avoids (mirrors.others flight old elsewhere task inTodo)
    · rw [List.mem_singleton.mp new, here] at elsewhere
      cases elsewhere

/-- A call about another session is begun. -/
theorem begun_elsewhere {call : Call} (elsewhere : call.concerns id = false)
    (targeted : system.targets (.begin call) = true) : (system.begin call).Mirrors id alone := by
  have grown := (system.step_move (.begin call)).grows id
  have ids : places id (system.begin call).startIds = places id system.startIds := by
    rw [startIds_begin]
    cases call with
    | start other =>
      have different : other ≠ id := of_decide_eq_false elsewhere
      exact (places_concat id other _).trans (by rw [if_neg different, List.append_nil])
    | _ => exact congrArg (places id) (List.append_nil _)
  have kept : (system.begin call).roster id = system.roster id := by
    unfold System.roster Registry.roster
    simp only [ids]
    rfl
  have same := mirrors.registry
  refine ⟨?_, ?_, fun flight member other task inTodo => ?_⟩
  · rw [kept]
    exact ⟨same.settings, same.lonely, same.slot, same.staff, same.workers, same.sinks, same.heard⟩
  · show List.Forall₂ _ (List.filter _ (system.flights ++ [_])) alone.flights
    rw [List.filter_append, List.filter_singleton]
    simp only [elsewhere]
    exact (List.append_nil _).symm ▸ mirrors.flights.imp fun _ _ same => same.mono grown
  · rcases List.mem_append.mp member with old | new
    · exact grown.avoids (mirrors.others flight old other task inTodo)
    · rw [List.mem_singleton.mp new] at inTodo
      exact Call.tasks_avoid elsewhere targeted _ task inTodo

/-- A session is to be started. -/
theorem begun_start (labelled : system.Labelled) (rom : Rom) (seed : UInt64)
    (fresh : system.registry.sinkHistory system.registry.sinks = [])
    (also : alone.registry.sinkHistory alone.registry.sinks = []) :
    (system.begin (.start id rom seed)).Mirrors id (alone.begin (.start id rom 0)) := by
  have here : (Call.start id rom seed).concerns id = true := decide_eq_true rfl
  have sinks : ((system.begin (.start id rom seed)).roster id).sinks =
      (system.roster id).sinks ++ [system.registry.sinks] := by
    show places id (system.begin (.start id rom seed)).startIds = _
    rw [startIds_begin, labelled.sinks]
    exact (places_concat id id _).trans (by rw [if_pos rfl]; rfl)
  refine mirrors.begun here (mirrors.registry.enroll rfl sinks fresh also) ?_
  refine Call.tasks_mirror here fun _ => ?_
  rw [sinks, mirrors.registry.sinks]
  exact List.getElem?_concat_length

/-- Something is to be asked of the session. -/
theorem begun_request {request : Request} :
    (system.begin (.session id request)).Mirrors id
      (alone.begin (Call.session id request).seedless) := by
  have here : (Call.session id request).concerns id = true := decide_eq_true rfl
  have nothing : (Call.session id request).seedless.sinks = 0 := by
    cases request <;> rfl
  have kept : (system.begin (.session id request)).roster id = system.roster id := by
    unfold System.roster
    rw [startIds_begin]
    exact congrArg (fun ids => Registry.roster _ ids id) (List.append_nil _)
  have same := mirrors.registry
  refine mirrors.begun here ?_ (Call.tasks_mirror here fun starts => ?_)
  · rw [kept]
    refine ⟨same.settings, same.lonely, same.slot, same.staff, same.workers, ?_, same.heard⟩
    show alone.registry.sinks + (Call.session id request).seedless.sinks = _
    rw [nothing]
    exact same.sinks
  · cases starts

/-- A call is begun. -/
theorem begin (labelled : system.Labelled) {call : Call} (quiet : system.isQuiet = true)
    (targeted : system.targets (.begin call) = true)
    (fresh : system.registry.sinkHistory system.registry.sinks = [])
    (also : alone.registry.sinkHistory alone.registry.sinks = []) :
    ∃ after, (system.move (.begin call)).Mirrors id after ∧
      alone.Responds (system.stimulus? id (.begin call)) after := by
  cases here : call.concerns id with
  | false =>
    have nothing : system.stimulus? id (.begin call) = none :=
      if_neg (Bool.eq_false_iff.mp here)
    rw [nothing]
    exact ⟨alone, mirrors.begun_elsewhere here targeted, .refl⟩
  | true =>
    have stimulus : system.stimulus? id (.begin call) = some (.asked call.seedless) := if_pos here
    rw [stimulus]
    have still := mirrors.silent?_of_rests (rests_of_quiet quiet)
    have led : (system.begin call).Mirrors id (alone.begin call.seedless) := by
      cases call with
      | start other rom seed =>
        obtain rfl : other = id := of_decide_eq_true here
        exact mirrors.begun_start labelled rom seed fresh also
      | session other request =>
        obtain rfl : other = id := of_decide_eq_true here
        exact mirrors.begun_request
      | _ => cases here
    exact ⟨_, led, still, rfl⟩

/-- **One move**: what it does to the session is done to the mirror. -/
theorem move {move : Move} (labelled : system.Labelled)
    (lasts : ∀ entry ∈ system.registry.finished, entry.1 ≠ id)
    (last : ∀ (number : Nat) flight, system.flights[number]? = some flight → flight.todo ≠ [] →
      number + 1 = system.flights.length)
    (turn : system.inTurn move = true) (targeted : system.targets move = true)
    (admitted : system.hasRoom id move = true) (paced : system.paces id move = true)
    (drawless : system.drawless id move = true)
    (fresh : system.registry.sinkHistory system.registry.sinks = [])
    (also : alone.registry.sinkHistory alone.registry.sinks = []) :
    ∃ after, (system.move move).Mirrors id after ∧
      alone.Responds (system.stimulus? id move) after := by
  cases move with
  | begin call => exact mirrors.begin labelled turn targeted fresh also
  | proceed number answer => exact mirrors.proceed labelled lasts (last number) admitted
  | work number reaction => exact mirrors.work labelled paced drawless
  | wait span => exact ⟨alone, mirrors.wait span, .refl⟩

end Beginnings

end System.Mirrors

end Arcade
