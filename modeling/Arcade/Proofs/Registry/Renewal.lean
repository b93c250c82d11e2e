/-
**A session since a debut.**

After a debut a session is compared with one that never had another program: a system that has
nothing but the new program, and to which the same is done (`Debut.Mirrors`). The comparison is the
one that shows that sessions do not get in each other's way, with the roster that begins at the
debut. It goes on when the session has ended: whoever looks for such sessions finds it in both.

* `Debut.Mirrors.proceed`, `.work`, `.begin`: a task of a call, a step of a worker, a new call;
* `Debut.Mirrors.move`: one move;
* `Debut.Mirrors.run`: a whole schedule.
-/

import Arcade.Proofs.Registry.Debut
import Arcade.Proofs.Registry.Isolation

namespace Arcade

open Registry

/-! ### Tasks that put away what others left -/

section Tidying

variable {registry : Registry} {answer : Except SinkError Unit} {task : Task} {progress : Progress}
  {ids : List SessionId} {id : SessionId}

theorem Task.table_of_tidies (tidies : task.tidies = true)
    (did : task.step registry answer = some progress) :
    progress.registry.table = registry.table := by
  cases task with
  | close => cases did; rfl
  | halt => cases did; rfl
  | join id number custody =>
    cases registry.yields_join did with
    | ended | broken => rfl
    | watched watches => cases watches
  | _ => cases tidies

theorem Task.owners_of_tidies (tidies : task.tidies = true)
    (did : task.step registry answer = some progress) :
    progress.registry.owners = registry.owners := by
  rcases Task.owners_step did with same | ⟨launch, rfl, -⟩
  · exact same
  · cases tidies

/-- Whoever puts away what another session left goes on with what it left. -/
theorem Task.Avoids.done_of_tidies (avoids : task.Avoids ids registry.standings id)
    (labelled : task.Labelled ids registry.standings) (around : registry.Labelled ids)
    (tidies : task.tidies = true) (did : task.step registry answer = some progress) :
    ∀ next ∈ progress.todo, next.Avoids ids registry.standings id := by
  cases task with
  | close =>
    cases did
    exact fun _ member => by cases member
  | halt other number custody =>
    cases did
    intro next member
    rw [List.mem_singleton.mp member]
    exact avoids
  | join other number custody =>
    cases registry.yields_join did with
    | @ended _ _ _ _ known => exact avoids_left around labelled known avoids custody
    | broken =>
      show ∀ next ∈ Custody.tasks other none custody, _
      exact avoids_custody (fun _ left => by cases left) avoids custody
    | watched watches => cases watches
  | _ => cases tidies

/-- Putting away what another session left keeps a registry a mirror. -/
theorem Registry.Mirrors.tidied {roster : Roster} {alone : Registry}
    (mirrors : registry.Mirrors id roster alone)
    (staff : ∀ number ∈ roster.workers, IsWorkerOf registry.standings id number)
    (sinks : ∀ sink ∈ roster.sinks, ids[sink]? = some id)
    (avoids : task.Avoids ids registry.standings id)
    (labelled : task.Labelled ids registry.standings) (around : registry.Labelled ids)
    (tidies : task.tidies = true) (did : task.step registry answer = some progress) :
    progress.registry.Mirrors id roster alone := by
  have table := Task.table_of_tidies tidies did
  refine mirrors.elsewhere (settings_step did)
    (congrArg (fun table : NameTable Slot => (table.lookup? id.name).map Slot.state) table)
    (fun number mine => avoids.worker?_step labelled did (staff number mine)) fun sink mine => ?_
  exact congrArg (List.map Event.delivery)
    (avoids.sinkEvents_step labelled around did (sinks sink mine))

end Tidying

/-- **What a worker does that was before the debut keeps a registry a mirror.** -/
theorem Registry.Mirrors.work_other {debut : Debut} {id : SessionId} {ids : List SessionId}
    {registry alone : Registry} (mirrors : registry.Mirrors id (debut.roster id registry ids) alone)
    (retired : debut.Retired registry) (labelled : registry.Labelled ids) {number : WorkerId}
    {worker : Worker} (known : registry.worker? number = some worker)
    (other : number ∉ (debut.roster id registry ids).workers) (reaction : Reaction) :
    (registry.work number reaction).Mirrors id (debut.roster id registry ids) alone := by
  cases going : worker.goesOn with
  | false => exact (registry.work_of_idle known going reaction).symm ▸ mirrors
  | true =>
    have turned : registry.work number reaction = registry.turn number worker
        (worker.step registry.now reaction).worker
        (worker.step registry.now reaction).deliveries := by
      rw [Registry.work, known]
      rfl
    refine mirrors.elsewhere ?_ ?_ (fun new mine => ?_) fun sink mine => ?_
    · rw [turned]
      rfl
    · exact congrArg (fun table : NameTable Slot => (table.lookup? id.name).map Slot.state)
        (registry.table_work number reaction)
    · refine registry.workers_work number new reaction ?_
      rintro rfl
      exact other mine
    · have label := labelled.owner known
      have different : worker.sink ≠ sink := by
        rintro rfl
        obtain ⟨owner, has⟩ := Debut.mem_sinks.mp mine
        have same : worker.session.id = id := Option.some.inj (label.symm.trans owner)
        -- a worker that the session had before is done
        have old : number < debut.workers := by
          by_contra late
          exact other (Debut.mem_workers.mpr ⟨⟨_, registry.standings_getElem? known, same⟩,
            Nat.le_of_not_lt late⟩)
        have finished := retired number worker old known has
        rw [Worker.goesOn] at going
        rw [Worker.isFinished] at finished
        cases phase : worker.phase <;> simp_all [Phase.isFinished]
      rw [turned, Registry.sinkHistory_turn, if_neg different, List.append_nil]

/-! ### Sessions that have ended -/

/-- The sessions that are done are listed in the order of the table. -/
theorem Registry.finished_sublist (registry : Registry) :
    (registry.finished.map fun entry => entry.1.name).Sublist registry.table.names := by
  simp only [finished, NameTable.names]
  induction registry.table.entries with
  | nil => exact .slnil
  | cons entry rest ih =>
    rw [List.filterMap_cons, List.map_cons]
    split
    · exact ih.cons _
    · rename_i listed found
      split at found
      · split at found
        · cases found
          exact ih.cons_cons _
        · cases found
      · cases found
      · cases found

/-- No session is listed twice as done. -/
theorem Registry.pairwise_finished (registry : Registry) :
    registry.finished.Pairwise fun first second => first.1 ≠ second.1 := by
  have sorted := List.pairwise_map.mp (registry.table.sorted.sublist registry.finished_sublist)
  refine sorted.imp fun {first second} (less : first.1.name < second.1.name)
    (same : first.1 = second.1) => ?_
  rw [same] at less
  exact String.lt_irrefl _ less

namespace Registry.Mirrors

variable {id : SessionId} {roster : Roster} {registry alone : Registry}
  (mirrors : registry.Mirrors id roster alone)

include mirrors

/-- If the session has ended, it has in the mirror, and there it is the only one. -/
theorem finished_eq_singleton {number : WorkerId} (listed : (id, number) ∈ registry.finished) :
    ∃ lone, alone.finished = [(id, lone)] ∧ roster.workers[lone]? = some number := by
  obtain ⟨slot, there, running, complete⟩ := registry.mem_finished.mp listed
  rcases mirrors.slot with ⟨gone, -⟩ | ⟨kept, single, found, also, same⟩
  · rw [gone] at there
    cases there
  obtain rfl := Option.some.inj (found.symm.trans there)
  rw [running] at same
  generalize held : single.state = state at same
  cases same with
  | @running _ lone staff =>
    refine ⟨lone, ?_, staff⟩
    have member : (id, lone) ∈ alone.finished := alone.mem_finished.mpr
      ⟨single, also, held, (mirrors.isFinished_eq staff).symm.trans complete⟩
    have only : ∀ entry ∈ alone.finished, entry.1 = id := by
      rintro ⟨other, worker⟩ other_listed
      obtain ⟨_, known, -⟩ := alone.mem_finished.mp other_listed
      by_contra different
      rw [mirrors.lonely other different] at known
      cases known
    have apart := alone.pairwise_finished
    -- two entries would bear the same name
    generalize alone.finished = entries at member only apart
    match entries, member, only, apart with
    | [entry], member, _, _ => rw [List.mem_singleton.mp member]
    | first :: second :: rest, _, only, apart =>
      have same := (only first List.mem_cons_self).trans
        (only second (List.mem_cons_of_mem _ List.mem_cons_self)).symm
      exact absurd same ((List.pairwise_cons.mp apart).1 second List.mem_cons_self)

/-- What is left to be done when the sessions that have ended were forgotten. -/
theorem parallels_finished {ids : List SessionId} {standings : List Standing} :
    Task.Parallels ids standings id roster
      (registry.finished.map fun entry => .halt entry.1 entry.2 .close)
      (alone.finished.map fun entry => .halt entry.1 entry.2 .close) := by
  have strays {entries : List (SessionId × WorkerId)} (others : ∀ entry ∈ entries, entry.1 ≠ id) :
      ∀ task ∈ entries.map fun entry => Task.halt entry.1 entry.2 .close,
        task.tidies = true ∧ task.Avoids ids standings id := by
    intro task member
    obtain ⟨entry, listed, rfl⟩ := List.mem_map.mp member
    exact ⟨rfl, others entry listed⟩
  have aside {entries : List (SessionId × WorkerId)} (others : ∀ entry ∈ entries, entry.1 ≠ id) :
      Task.Parallels ids standings id roster
        (entries.map fun entry => .halt entry.1 entry.2 .close) [] := by
    have stray : Task.Parallels ids standings id roster
        ((entries.map fun entry => .halt entry.1 entry.2 .close) ++ []) [] :=
      .append_stray (strays others) .nil
    rwa [List.append_nil] at stray
  by_cases ended : ∃ number, (id, number) ∈ registry.finished
  · obtain ⟨number, listed⟩ := ended
    obtain ⟨lone, single, there⟩ := mirrors.finished_eq_singleton listed
    obtain ⟨before, after, split⟩ := List.append_of_mem listed
    have apart := registry.pairwise_finished
    rw [split, List.pairwise_append, List.pairwise_cons] at apart
    obtain ⟨-, ⟨behind, -⟩, ahead⟩ := apart
    rw [single, split, List.map_append, List.map_cons]
    exact .append_stray (strays fun entry member => ahead entry member _ List.mem_cons_self)
      (.own (.halt there .close) (aside fun entry member => (behind entry member).symm))
  · have others : ∀ entry ∈ registry.finished, entry.1 ≠ id := by
      rintro ⟨other, number⟩ listed rfl
      exact ended ⟨number, listed⟩
    rw [mirrors.finished_eq_nil others]
    exact aside others

end Registry.Mirrors

/-! ### Systems with a debut behind them -/

/-- Whether two calls are the same but for the seed, have answered the same, and have the same to
do, up to a roster. -/
structure Flight.Renews (ids : List SessionId) (standings : List Standing) (id : SessionId)
    (roster : Roster) (flight alone : Flight) : Prop where
  call : flight.call.seedless = alone.call
  reply : flight.reply = alone.reply
  todo : Task.Parallels ids standings id roster flight.todo alone.todo

/-- Whether a system has of a session since a debut what a system of the session alone has: the
same in the registry, and the same calls. -/
structure Debut.Mirrors (debut : Debut) (id : SessionId) (system alone : System) : Prop where
  registry : system.registry.Mirrors id (debut.staff id system) alone.registry
  flights : List.Forall₂
    (Flight.Renews system.startIds system.registry.standings id (debut.staff id system))
    (system.flights.drop debut.calls) alone.flights
  /-- Sinks that are not handed in got nothing. -/
  unheard : ∀ sink, alone.registry.sinks ≤ sink → alone.registry.sinkHistory sink = []

/-- What a task does to the sinks that are not handed in yet. -/
theorem Task.Mirrors.unheard {id : SessionId} {roster : Roster} {registry alone : Registry}
    {task single : Task} {answer : Except SinkError Unit} {lone : Progress}
    (same : task.Mirrors id roster single) (mirrors : registry.Mirrors id roster alone)
    (unheard : ∀ sink, alone.sinks ≤ sink → alone.sinkHistory sink = [])
    (did : single.step alone answer = some lone) (sink : SinkId)
    (fresh : lone.registry.sinks ≤ sink) : lone.registry.sinkHistory sink = [] := by
  rw [(Task.yields_of_step did).sinks_eq] at fresh
  have strange : roster.sinks[sink]? = none :=
    List.getElem?_eq_none_iff.mpr (mirrors.sinks ▸ fresh)
  have apart : ∀ {dealt known : SinkId}, roster.sinks[dealt]? = some known → dealt ≠ sink := by
    rintro dealt known there rfl
    rw [strange] at there
    cases there
  have silent : lone.registry.sinkEvents sink = alone.sinkEvents sink := by
    refine Task.sinkEvents_step did (fun dealt => ?_) fun named _ held => ?_
    · cases same with
      | tell there | close there =>
        cases dealt
        exact apart there rfl
      | acknowledge _ same | spawn _ same =>
        cases dealt
        exact apart same.sink rfl
      | _ => cases dealt
    · obtain ⟨lone, found, unloaded⟩ := Registry.slot?_of_state? held
      by_cases here : named = id
      · subst here
        rcases mirrors.slot with ⟨-, gone⟩ | ⟨slot, kept, -, also, like⟩
        · rw [gone] at found
          cases found
        · obtain rfl := Option.some.inj (also.symm.trans found)
          rw [unloaded] at like
          generalize slot.state = state at like
          cases like with
          | unloaded there => exact apart there rfl
      · rw [mirrors.lonely named here] at found
        cases found
  rw [Registry.sinkHistory, silent]
  exact unheard sink fresh

section Steps

variable {debut : Debut} {id : SessionId} {system after alone : System} {move : Move}

theorem Debut.staff_grows (step : system.Step move after) :
    (debut.staff id system).Grows (debut.staff id after) :=
  roster_grows step.owners_prefix step.startIds_prefix

theorem Task.Parallels.stepped (step : system.Step move after) {todo others : List Task}
    (same : Task.Parallels system.startIds system.registry.standings id (debut.staff id system) todo
      others) :
    Task.Parallels after.startIds after.registry.standings id (debut.staff id after) todo others :=
  same.grown (fun _ _ found => getElem?_of_grown step.startIds_prefix found) step.keeps
    (Debut.staff_grows step)

theorem Flight.Renews.stepped (step : system.Step move after) {flight single : Flight}
    (same : flight.Renews system.startIds system.registry.standings id (debut.staff id system)
      single) :
    flight.Renews after.startIds after.registry.standings id (debut.staff id after) single :=
  ⟨same.call, same.reply, same.todo.stepped step⟩

end Steps

namespace Debut.Mirrors

variable {debut : Debut} {id : SessionId} {system alone : System}
  (mirrors : debut.Mirrors id system alone) (passed : debut.Passed system)
  (labelled : system.Labelled)

include mirrors

/-- While each call since the debut waits for somebody, the mirror does nothing by itself. -/
theorem silent?_of_rests (rests : debut.rests id system = true) : alone.silent? = none := by
  rcases List.eq_nil_or_concat alone.flights with none | ⟨fronts, other, others⟩
  · simp [System.silent?, none]
  · rw [List.concat_eq_append] at others
    have split := mirrors.flights.flip
    rw [others] at split
    obtain ⟨_, flight, listed, -, same⟩ := forall₂_concat split
    have member : flight ∈ system.flights.drop debut.calls :=
      listed ▸ List.mem_append_right _ List.mem_cons_self
    exact same.todo.silent? mirrors.registry others (List.all_eq_true.mp rests flight member)

/-! ### Tasks -/

section Tasks

variable {front fronts : List Flight} {flight other : Flight} {task : Task} {later : List Task}
  {answer : Except SinkError Unit} {progress : Progress}
  (flights : system.flights = front ++ [flight]) (late : debut.calls ≤ front.length)
  (before : List.Forall₂
    (Flight.Renews system.startIds system.registry.standings id (debut.staff id system))
    (front.drop debut.calls) fronts)
  (step : system.Step (.proceed front.length answer)
    (System.advanced front flight progress later))

omit mirrors in
include late before step in
/-- What becomes of the latest call. -/
theorem advanced {registry : Registry}
    (mirrored : progress.registry.Mirrors id
      (debut.staff id (System.advanced front flight progress later)) registry)
    (moved : (flight.advance progress later).Renews
      (System.advanced front flight progress later).startIds progress.registry.standings id
      (debut.staff id (System.advanced front flight progress later)) other)
    (unheard : ∀ sink, registry.sinks ≤ sink → registry.sinkHistory sink = []) :
    debut.Mirrors id (System.advanced front flight progress later)
      ⟨registry, fronts ++ [other]⟩ := by
  refine ⟨mirrored, ?_, unheard⟩
  show List.Forall₂ _ ((front ++ [flight.advance progress later]).drop debut.calls) _
  rw [List.drop_append_of_le_length late]
  exact List.rel_append (before.imp fun _ _ same => same.stepped step) (.cons moved .nil)

include labelled flights late before step

/-- A task that puts away what a stranger left. -/
theorem stray (did : task.step system.registry answer = some progress)
    (next : flight.todo = task :: later) (others : alone.flights = fronts ++ [other])
    (same : flight.Renews system.startIds system.registry.standings id (debut.staff id system)
      other)
    (tidies : task.tidies = true)
    (avoids : task.Avoids system.startIds system.registry.standings id)
    (rest : Task.Parallels system.startIds system.registry.standings id (debut.staff id system)
      later other.todo) :
    debut.Mirrors id (System.advanced front flight progress later) alone := by
  have member : flight ∈ system.flights := flights ▸ List.mem_append_right _ List.mem_cons_self
  have label := labelled.tasks flight member task (next ▸ List.mem_cons_self)
  obtain ⟨silent, tidy⟩ := Task.tidies_done tidies did
  have fresh := avoids.done_of_tidies label labelled.registry tidies did
  have kept : debut.staff id (System.advanced front flight progress later) =
      debut.staff id system := by
    unfold staff
    rw [System.startIds_advanced flights]
    exact roster_congr (Task.owners_of_tidies tidies did)
  have mirrored := mirrors.registry.tidied (fun _ mine => (mem_workers.mp mine).1)
    (fun _ mine => (mem_sinks.mp mine).1) avoids label labelled.registry tidies did
  have whole : alone = ⟨alone.registry, fronts ++ [other]⟩ := by rw [← others]
  rw [whole]
  refine Mirrors.advanced late before step (kept ▸ mirrored) ⟨same.call, ?_, ?_⟩ mirrors.unheard
  · show (progress.reply <|> flight.reply) = other.reply
    rw [silent]
    exact same.reply
  · refine .append_stray (fun task inTodo => ⟨tidy task inTodo, ?_⟩) (rest.stepped step)
    exact (fresh task inTodo).mono
      (fun _ _ found => getElem?_of_grown step.startIds_prefix found) step.keeps

omit labelled in
/-- A look for sessions that have ended. -/
theorem reaps (did : Task.reap.step system.registry answer = some progress)
    (same : flight.Renews system.startIds system.registry.standings id (debut.staff id system)
      other)
    {others : List Task}
    (rest : Task.Parallels system.startIds system.registry.standings id (debut.staff id system)
      later others) :
    debut.Mirrors id (System.advanced front flight progress later)
      ⟨alone.registry.reaped, fronts ++ [other.advance alone.registry.reap others]⟩ := by
  cases did
  have kept : debut.staff id (System.advanced front flight system.registry.reap later) =
      debut.staff id system := by
    unfold staff
    rw [System.startIds_advanced flights]
    refine roster_congr (congrArg (List.map Standing.id) ?_)
    exact congrArg (List.map Worker.standing) system.registry.workers_reaped
  refine Mirrors.advanced late before step (kept ▸ mirrors.registry.reaped)
    ⟨same.call, same.reply, ?_⟩ fun sink fresh => ?_
  · exact .append (kept ▸ mirrors.registry.parallels_finished) (rest.stepped step)
  · rw [alone.registry.sinks_reaped] at fresh
    unfold Registry.sinkHistory
    rw [sinkEvents_congr alone.registry.events_reaped]
    exact mirrors.unheard sink fresh

include passed in
omit labelled in
/-- A task of a call on the session that the mirror does as well. -/
theorem own (did : task.step system.registry answer = some progress)
    (same : flight.Renews system.startIds system.registry.standings id (debut.staff id system)
      other)
    {single : Task} {others : List Task} (like : task.Mirrors id (debut.staff id system) single)
    (elsewhere : task ≠ .reap)
    (room : ∀ limit, system.registry.refusal? id ≠ some (.capacityReached limit))
    (rest : Task.Parallels system.startIds system.registry.standings id (debut.staff id system)
      later others) :
    ∃ lone, single.step alone.registry answer = some lone ∧
      debut.Mirrors id (System.advanced front flight progress later)
        ⟨lone.registry, fronts ++ [other.advance lone others]⟩ := by
  have led : ∃ lone, single.step alone.registry answer = some lone ∧
      progress.Mirrors id (debut.staff id (System.advanced front flight progress later)) lone := by
    unfold staff
    rw [System.startIds_advanced flights]
    by_cases spawns : ∃ launch, task = .spawn launch
    · obtain ⟨launch, rfl⟩ := spawns
      cases like with
      | spawn mine same =>
        cases answer with
        | ok =>
          cases did
          refine ⟨_, rfl, mirrors.registry.spawn mine same ?_ rfl⟩
          rw [← mine]
          exact workers_spawn launch passed.workers
        | error cause =>
          cases did
          exact ⟨_, rfl, mirrors.registry.unspawned mine same cause⟩
    · -- only a new worker makes the roster grow
      have still : ∀ launch, task ≠ .spawn launch := fun launch same => spawns ⟨launch, same⟩
      have kept : progress.registry.owners = system.registry.owners := by
        rcases Task.owners_step did with owners | ⟨launch, new, -⟩
        · exact owners
        · exact absurd new (still launch)
      show ∃ lone, _ ∧ progress.Mirrors id (debut.roster id progress.registry system.startIds) lone
      rw [roster_congr kept]
      exact like.done_still mirrors.registry elsewhere still (fun _ limit _ => room limit) did
  obtain ⟨lone, done, led⟩ := led
  refine ⟨lone, done, Mirrors.advanced late before step led.registry ⟨same.call, ?_, ?_⟩
    (like.unheard mirrors.registry mirrors.unheard done)⟩
  · show (progress.reply <|> flight.reply) = (lone.reply <|> other.reply)
    rw [led.reply, same.reply]
  · exact .append_own led.todo (rest.stepped step)

end Tasks

/-! ### Moves -/

section Moves

include passed labelled

/-- A task of a call: the mirror does it, if it is the session's. -/
theorem proceed_latest {front : List Flight} {flight : Flight} {task : Task} {later : List Task}
    {answer : Except SinkError Unit} {progress : Progress}
    (flights : system.flights = front ++ [flight]) (late : debut.calls ≤ front.length)
    (next : flight.todo = task :: later)
    (did : task.step system.registry answer = some progress)
    (step : system.Step (.proceed front.length answer)
      (System.advanced front flight progress later))
    (room : ∀ limit, system.registry.refusal? id ≠ some (.capacityReached limit)) :
    ∃ after, debut.Mirrors id (System.advanced front flight progress later) after ∧
      alone.Responds (if task.asks then some (.answered answer) else none) after := by
  have split := mirrors.flights
  rw [flights, List.drop_append_of_le_length late] at split
  obtain ⟨fronts, other, others, before, same⟩ := forall₂_concat split
  have todo := same.todo
  rw [next] at todo
  generalize listed : other.todo = left at todo
  cases todo with
  | stray tidies avoids rest =>
    rw [Task.asks_of_tidies tidies]
    rw [← listed] at rest
    exact ⟨alone, mirrors.stray labelled flights late before step did next others same tidies avoids
      rest, .refl⟩
  | @own _ single _ left like rest =>
    by_cases reap : task = .reap
    · subst reap
      cases like
      exact ⟨_, mirrors.reaps flights late before step did same rest,
        .single (System.silent?_of_done others listed rfl rfl)⟩
    · obtain ⟨lone, done, mirrored⟩ :=
        mirrors.own passed flights late before step did same like reap room rest
      rw [like.asks]
      exact ⟨_, mirrored, System.responds_latest others listed done⟩

/-- A call goes on. -/
theorem proceed {number : Nat} {answer : Except SinkError Unit}
    (room : ∀ limit, system.registry.refusal? id ≠ some (.capacityReached limit)) :
    ∃ after, debut.Mirrors id (system.move (.proceed number answer)) after ∧
      alone.Responds (debut.stimulus? id system (.proceed number answer)) after := by
  have step := system.step_move (.proceed number answer)
  generalize system.move (.proceed number answer) = after at step ⊢
  cases step with
  | stayed waits =>
    have nothing : debut.stimulus? id system (.proceed number answer) = none := by
      cases known : system.flights[number]? with
      | none => simp [stimulus?, known]
      | some flight =>
        cases next : flight.todo with
        | nil => simp [stimulus?, known, next]
        | cons task later =>
          obtain ⟨other, worker, custody, rfl⟩ :=
            waits task (System.task?_proceed known next answer)
          simp [stimulus?, known, next, Task.asks]
    rw [nothing]
    exact ⟨alone, mirrors, .refl⟩
  | @done _ _ flight task later progress known next did yields =>
    have busy : flight.todo ≠ [] := by
      rw [next]
      exact List.cons_ne_nil _ _
    obtain ⟨late, latest⟩ := passed.latest known busy
    obtain ⟨front, flights, rfl⟩ := System.flights_eq_concat known latest
    have step : system.Step (.proceed front.length answer)
        (System.advanced front flight progress later) := by
      have done := System.Step.done known next did yields
      rwa [flights, System.set_latest] at done
    have moved : (⟨progress.registry,
        system.flights.set front.length (flight.advance progress later)⟩ : System) =
        System.advanced front flight progress later := by
      rw [flights, System.set_latest]
      rfl
    have stimulus : debut.stimulus? id system (.proceed front.length answer) =
        if task.asks then some (.answered answer) else none := by
      simp [stimulus?, known, next, late]
    rw [moved, stimulus]
    exact mirrors.proceed_latest passed labelled flights late next did step room

omit passed labelled in
/-- Time passes. -/
theorem wait (span : Span) : debut.Mirrors id (system.move (.wait span)) alone := by
  have kept := mirrors.registry
  exact ⟨⟨kept.settings, kept.lonely, kept.slot, kept.staff, kept.workers, kept.sinks, kept.heard⟩,
    mirrors.flights, mirrors.unheard⟩

omit mirrors passed labelled in
/-- A worker's step leaves the roster as it is. -/
theorem staff_work {number : WorkerId} {worker : Worker}
    (known : system.registry.worker? number = some worker) (reaction : Reaction) :
    debut.staff id (system.move (.work number reaction)) = debut.staff id system := by
  refine roster_congr ?_
  show (system.registry.work number reaction).owners = _
  rw [Registry.work, known]
  exact System.owners_turn (worker.turn_step _ _) known

omit passed labelled in
/-- What a new worker of the session does, the worker at its place in the mirror does as well. -/
theorem work_own {number : WorkerId} {worker : Worker}
    (known : system.registry.worker? number = some worker)
    (mine : number ∈ (debut.staff id system).workers) (still : worker.draws = false)
    (reaction : Reaction) :
    debut.Mirrors id (system.move (.work number reaction))
      (alone.move (.work ((debut.staff id system).workers.idxOf number)
        (worker.heeded reaction))) := by
  have there : (debut.staff id system).workers[
      (debut.staff id system).workers.idxOf number]? = some number := List.getElem?_idxOf mine
  have worked := mirrors.registry.work there known still (worker.heeded reaction)
  have heeded : system.registry.work number (worker.heeded reaction) =
      system.registry.work number reaction := by
    simp only [Registry.work, known, Worker.step_heeded]
  rw [heeded] at worked
  have step := system.step_move (.work number reaction)
  refine ⟨staff_work known reaction ▸ worked,
    mirrors.flights.imp fun _ _ same => same.stepped step, fun sink fresh => ?_⟩
  obtain ⟨_, single, -, also, alike⟩ := mirrors.registry.workers _ _ there
  have apart : single.sink ≠ sink := by
    rintro rfl
    have inside := (List.getElem?_eq_some_iff.mp alike.sink).1
    rw [← mirrors.registry.sinks] at inside
    simp only [System.move, Registry.work, also] at fresh
    omega
  simp only [System.move, Registry.work, also] at fresh ⊢
  have silent := alone.registry.sinkHistory_turn
    ((debut.staff id system).workers.idxOf number) single
    (single.step alone.registry.now (worker.heeded reaction)).worker
    (single.step alone.registry.now (worker.heeded reaction)).deliveries sink
  rw [if_neg apart, List.append_nil] at silent
  exact silent.trans (mirrors.unheard sink fresh)

omit passed in
/-- What any other worker does. -/
theorem work_other (retired : debut.Retired system.registry) {number : WorkerId} {worker : Worker}
    (known : system.registry.worker? number = some worker)
    (other : number ∉ (debut.staff id system).workers) (reaction : Reaction) :
    debut.Mirrors id (system.move (.work number reaction)) alone := by
  have step := system.step_move (.work number reaction)
  refine ⟨?_, mirrors.flights.imp fun _ _ same => same.stepped step, mirrors.unheard⟩
  rw [staff_work known reaction]
  exact mirrors.registry.work_other retired labelled.registry known other reaction

omit passed in
/-- A worker goes on. -/
theorem work (retired : debut.Retired system.registry) {number : WorkerId} {reaction : Reaction}
    (paced : debut.paces id system (.work number reaction) = true)
    (drawless : debut.drawless id system (.work number reaction) = true) :
    ∃ after, debut.Mirrors id (system.move (.work number reaction)) after ∧
      alone.Responds (debut.stimulus? id system (.work number reaction)) after := by
  cases known : system.registry.worker? number with
  | none =>
    have stays : system.move (.work number reaction) = system := by
      simp [System.move, Registry.work, known]
    have nothing : debut.stimulus? id system (.work number reaction) = none := by
      simp [stimulus?, known]
    rw [stays, nothing]
    exact ⟨alone, mirrors, .refl⟩
  | some worker =>
    by_cases acts : number ∈ (debut.staff id system).workers ∧ worker.goesOn = true
    · obtain ⟨mine, going⟩ := acts
      have stimulus : debut.stimulus? id system (.work number reaction) =
          some (.granted ((debut.staff id system).workers.idxOf number)
            (worker.heeded reaction)) := by
        simp [stimulus?, known, mine, going]
      have rests : debut.rests id system = true := by
        simpa [paces, stimulus] using paced
      have still : worker.draws = false := by
        simpa [Debut.drawless, known, mine] using drawless
      rw [stimulus]
      exact ⟨_, mirrors.work_own known mine still reaction, mirrors.silent?_of_rests rests, rfl⟩
    · have nothing : debut.stimulus? id system (.work number reaction) = none := by
        by_cases mine : number ∈ (debut.staff id system).workers <;> simp_all [stimulus?]
      rw [nothing]
      refine ⟨alone, ?_, .refl⟩
      by_cases mine : number ∈ (debut.staff id system).workers
      · have idle : worker.goesOn = false := by simpa [mine] using acts
        rw [System.move, system.registry.work_of_idle known idle reaction]
        exact mirrors
      · exact mirrors.work_other labelled retired known mine reaction

omit mirrors passed labelled in
/-- While no call is in progress, each since the debut has returned. -/
theorem rests_of_quiet (quiet : system.isQuiet = true) : debut.rests id system = true := by
  refine List.all_eq_true.mpr fun flight member => ?_
  rw [System.todo_of_quiet quiet (List.mem_of_mem_drop member)]
  rfl

omit labelled in
/-- A call on the session is begun. -/
theorem begun {call : Call}
    (registry : (system.begin call).registry.Mirrors id (debut.staff id (system.begin call))
      (alone.begin call.seedless).registry)
    (todo : List.Forall₂ (Task.Mirrors id (debut.staff id (system.begin call)))
      (call.tasks system.registry.sinks) (call.seedless.tasks alone.registry.sinks)) :
    debut.Mirrors id (system.begin call) (alone.begin call.seedless) := by
  have step := system.step_move (.begin call)
  refine ⟨registry, ?_, fun sink fresh => mirrors.unheard sink ((Nat.le_add_right _ _).trans fresh)⟩
  show List.Forall₂ _ ((system.flights ++ [_]).drop debut.calls) (alone.flights ++ [_])
  rw [List.drop_append_of_le_length passed.calls]
  refine List.rel_append (mirrors.flights.imp fun _ _ same => same.stepped step)
    (.cons ⟨rfl, rfl, ?_⟩ .nil)
  rw [← List.append_nil (call.tasks system.registry.sinks),
    ← List.append_nil (call.seedless.tasks alone.registry.sinks)]
  exact .append_own todo .nil

/-- The session is to be started. -/
theorem begun_start (rom : Rom) (seed : UInt64)
    (fresh : system.registry.sinkHistory system.registry.sinks = []) :
    debut.Mirrors id (system.begin (.start id rom seed)) (alone.begin (.start id rom 0)) := by
  have here : (Call.start id rom seed).concerns id = true := decide_eq_true rfl
  have new : debut.has system.registry.sinks = true := by
    rw [has, decide_eq_true passed.sinks, Bool.or_true]
  have sinks : (debut.staff id (system.begin (.start id rom seed))).sinks =
      (debut.staff id system).sinks ++ [system.registry.sinks] := by
    show (places id (system.begin (.start id rom seed)).startIds).filter debut.has = _
    rw [System.startIds_begin, labelled.sinks]
    refine (congrArg (List.filter debut.has) (places_concat id id _)).trans ?_
    rw [if_pos rfl, List.filter_append, List.filter_singleton, ← labelled.sinks, new]
    rfl
  refine mirrors.begun passed
    (mirrors.registry.enroll rfl sinks fresh (mirrors.unheard _ (Nat.le_refl _))) ?_
  refine Call.tasks_mirror here fun _ => ?_
  rw [sinks, mirrors.registry.sinks]
  exact List.getElem?_concat_length

omit labelled in
/-- Something is to be asked of the session. -/
theorem begun_request {request : Request} :
    debut.Mirrors id (system.begin (.session id request))
      (alone.begin (Call.session id request).seedless) := by
  have here : (Call.session id request).concerns id = true := decide_eq_true rfl
  have nothing : (Call.session id request).seedless.sinks = 0 := by
    cases request <;> rfl
  have kept : debut.staff id (system.begin (.session id request)) = debut.staff id system := by
    unfold staff
    rw [System.startIds_begin]
    exact congrArg (debut.roster id _) (List.append_nil _)
  have same := mirrors.registry
  refine mirrors.begun passed ?_ (Call.tasks_mirror here fun starts => ?_)
  · rw [kept]
    refine ⟨same.settings, same.lonely, same.slot, same.staff, same.workers, ?_, same.heard⟩
    show alone.registry.sinks + (Call.session id request).seedless.sinks = _
    rw [nothing]
    exact same.sinks
  · cases starts

/-- A call on the session is begun. -/
theorem begin {call : Call} (quiet : system.isQuiet = true) (here : call.concerns id = true)
    (fresh : system.registry.sinkHistory system.registry.sinks = []) :
    ∃ after, debut.Mirrors id (system.move (.begin call)) after ∧
      alone.Responds (debut.stimulus? id system (.begin call)) after := by
  refine ⟨alone.begin call.seedless, ?_, mirrors.silent?_of_rests (rests_of_quiet quiet), rfl⟩
  cases call with
  | start other rom seed =>
    obtain rfl : other = id := of_decide_eq_true here
    exact mirrors.begun_start passed labelled rom seed fresh
  | session other request =>
    obtain rfl : other = id := of_decide_eq_true here
    exact mirrors.begun_request passed
  | _ => cases here

/-- **One move**: what it does to the session is done to the mirror. -/
theorem move {move : Move} (sheltered : debut.Sheltered id system [move])
    (room : ∀ limit, system.registry.refusal? id ≠ some (.capacityReached limit))
    (fresh : system.registry.sinkHistory system.registry.sinks = []) :
    ∃ after, debut.Mirrors id (system.move move) after ∧
      alone.Responds (debut.stimulus? id system move) after := by
  obtain ⟨sequential, addressed, paced, drawless⟩ := sheltered
  simp only [System.isSequential, System.always, List.all_cons, List.all_nil,
    Bool.and_true] at sequential addressed paced drawless
  cases move with
  | begin call => exact mirrors.begin passed labelled sequential addressed fresh
  | proceed number answer => exact mirrors.proceed passed labelled room
  | work number reaction => exact mirrors.work labelled passed.retired paced drawless
  | wait span => exact ⟨alone, mirrors.wait span, .refl⟩

end Moves

end Debut.Mirrors

namespace Debut

variable {debut : Debut} {id : SessionId} {system alone : System}

/-- What is presupposed of a schedule is so of its parts. -/
theorem Sheltered.append {first second : List Move}
    (sheltered : debut.Sheltered id system (first ++ second)) :
    debut.Sheltered id system first ∧ debut.Sheltered id (system.run first) second := by
  obtain ⟨sequential, addressed, paced, drawless⟩ := sheltered
  rw [System.isSequential_append, Bool.and_eq_true] at sequential
  rw [List.all_append, Bool.and_eq_true] at addressed
  rw [System.always_append, Bool.and_eq_true] at paced drawless
  exact ⟨⟨sequential.1, addressed.1, paced.1, drawless.1⟩,
    ⟨sequential.2, addressed.2, paced.2, drawless.2⟩⟩

theorem Passed.run {schedule : List Move} (passed : debut.Passed system)
    (sequential : system.isSequential schedule = true) : debut.Passed (system.run schedule) :=
  System.sequential_induction system (fun _ reached => debut.Passed reached) passed
    (fun _ _ _ turn before step => before.step turn step) schedule sequential

/-- What a call since the debut has to do concerns the session, or it puts something away. -/
theorem Mirrors.own_of_reserve (mirrors : debut.Mirrors id system alone)
    (passed : debut.Passed system) {number : Nat} {flight : Flight} {launch : Launch}
    {later : List Task} (known : system.flights[number]? = some flight)
    (next : flight.todo = .reserve launch :: later) : launch.id = id := by
  have busy : flight.todo ≠ [] := next ▸ List.cons_ne_nil _ _
  obtain ⟨late, latest⟩ := passed.latest known busy
  obtain ⟨front, flights, rfl⟩ := System.flights_eq_concat known latest
  have split := mirrors.flights
  rw [flights, List.drop_append_of_le_length late] at split
  obtain ⟨-, other, -, -, same⟩ := forall₂_concat split
  have todo := same.todo
  rw [next] at todo
  generalize other.todo = left at todo
  cases todo with
  | own like =>
    cases like with
    | reserve mine => exact mine
  | stray tidies => cases tidies

/-- The strangers of a session do not grow more numerous. -/
theorem Mirrors.strangers_le (mirrors : debut.Mirrors id system alone)
    (passed : debut.Passed system) {after : System} {move : Move}
    (step : system.Step move after) :
    (strangers id).ofStates after.registry.states ≤
      (strangers id).ofStates system.registry.states := by
  cases step with
  | done known next _ yields =>
    exact yields.strangers_le id fun launch same =>
      mirrors.own_of_reserve passed known (same ▸ next)
  | begun | stayed | worked | waited => exact Nat.le_refl _

/-- **The mirror plays what is done to the session since the debut.** -/
theorem Mirrors.run {schedule : List Move} (mirrors : debut.Mirrors id system alone)
    (passed : debut.Passed system) (sheltered : debut.Sheltered id system schedule)
    (labelled : ∀ schedule, (system.run schedule).Labelled)
    (fresh : ∀ schedule,
      (system.run schedule).registry.sinkHistory (system.run schedule).registry.sinks = [])
    (room : (strangers id).ofStates system.registry.states <
      system.registry.settings.maxSessions.toNat)
    {origin : System} {script : List Stimulus} (played : origin.Plays script alone) :
    ∃ after, debut.Mirrors id (system.run schedule) after ∧
      (strangers id).ofStates (system.run schedule).registry.states <
        (system.run schedule).registry.settings.maxSessions.toNat ∧
      origin.Plays ((debut.script id system schedule).reverse ++ script) after := by
  induction schedule using List.reverseRecOn with
  | nil => exact ⟨alone, mirrors, room, played⟩
  | append_singleton schedule move ih =>
    obtain ⟨before, here⟩ := sheltered.append
    obtain ⟨after, mirrored, free, plays⟩ := ih before
    have since := passed.run before.sequential
    have step := (system.run schedule).step_move move
    have kept := (mirrored.strangers_le since step).trans_lt free
    obtain ⟨next, mirrored, responds⟩ := mirrored.move since (labelled schedule) here
      (refusal?_of_strangers free) (fresh schedule)
    refine ⟨next, ?_, ?_, ?_⟩
    · rw [System.run_concat]
      exact mirrored
    · rw [System.run_concat, step.settings_eq]
      exact kept
    · rw [script_concat, List.reverse_append, System.reverse_toList, List.append_assoc]
      exact plays.responds responds

end Debut

end Arcade
