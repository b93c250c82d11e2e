/-
**How a program gets to its debut.**

A session is started, or it is to get another program. Either way a machine is built, the sink of
the client is found, the slot of the session is reserved, and the client is told that its program
starts; only then a worker is set going. A call that has succeeded has come through all of this, if
no other call was in progress.

* `Registry.client?`: whose sink the session has before;
* `Comes.done`: how far the call has come, task by task;
* `System.comes_run`: how far it has come, and whether the client was told;
* `System.exists_tells`, `System.Tells.announces`: the client is told, and what is so there.
-/

import Arcade.Proofs.Registry.Debut
import Arcade.Proofs.Registry.Replace

namespace Arcade

open Registry

/-- The sink of a session's client: its worker has it, or its slot does. -/
def Registry.client? (registry : Registry) (id : SessionId) : Option SinkId :=
  match registry.state? id with
  | some (.running number) => (registry.worker? number).map Worker.sink
  | some (.unloaded sink) => some sink
  | some .pending | none => none

/-- What a program is launched from. -/
structure Errand where
  settings : Settings
  id : SessionId
  rom : Rom
  /-- The sink of the client, if there is one. -/
  client : Option SinkId
  /-- How many sessions are registered, if that is known. -/
  entries : Option Nat

namespace Errand

variable (errand : Errand)

/-- Whether a machine was built from the program. -/
def Builds (machine : Machine) : Prop :=
  ∃ seed, Machine.boot errand.settings.timerMode seed errand.rom.bytes = .ok machine

/-- Whether a launch is the one that the errand is for. -/
structure Launches (launch : Launch) : Prop where
  id : launch.id = errand.id
  rom : launch.rom = errand.rom
  builds : errand.Builds launch.machine
  client : errand.client = some launch.sink

/-- The tasks that lead to an announcement. -/
inductive Leads (registry : Registry) : Task → Prop
  | building {seed sink} (client : errand.client = some sink) (new : errand.entries = none) :
    Leads registry (.build errand.id errand.rom seed sink)
  | rebuilding {seed} (client : registry.client? errand.id = errand.client) :
    Leads registry (.rebuild errand.id errand.rom seed)
  | unloading {machine} (builds : errand.Builds machine)
      (client : registry.client? errand.id = errand.client) :
    Leads registry (.unload errand.id (.replace errand.rom machine))
  | halting {number machine sink} (builds : errand.Builds machine)
      (client : errand.client = some sink)
      (served : (registry.worker? number).map Worker.sink = some sink)
      (kept : registry.state? errand.id = some .pending) :
    Leads registry (.halt errand.id number (.keep (.replace errand.rom machine)))
  | joining {number machine sink} (builds : errand.Builds machine)
      (client : errand.client = some sink)
      (served : (registry.worker? number).map Worker.sink = some sink)
      (kept : registry.state? errand.id = some .pending) :
    Leads registry (.join errand.id number (.keep (.replace errand.rom machine)))
  | parking {sink machine} (builds : errand.Builds machine) (client : errand.client = some sink)
      (kept : registry.state? errand.id = some .pending) :
    Leads registry (.park errand.id (some sink) (.replace errand.rom machine))
  | taking {machine} (builds : errand.Builds machine)
      (client : registry.client? errand.id = errand.client) :
    Leads registry (.take errand.id errand.rom machine)
  | acknowledging {launch} (launches : errand.Launches launch)
      (kept : registry.state? errand.id = some .pending) :
    Leads registry (.acknowledge launch)

end Errand

/-- Whether a task is part of giving up. -/
def Task.declines : Task → Bool
  | .tell _ _ | .close _ | .withdraw _ _ _ | .answer (.error _) => true
  | _ => false

/-- Whether a call has given up: it only has to say so yet, and it has not succeeded. -/
structure Declines (todo : List Task) (reply : Option Reply) : Prop where
  todo : ∀ task ∈ todo, task.declines = true
  reply : ∀ answer, reply ≠ some (.ok answer)

/-- How far a call has come before its client is told that a program starts: what it has to do yet,
and its answer. -/
inductive Errand.Comes (errand : Errand) (registry : Registry) : List Task → Option Reply → Prop
  | coming {task} (leads : errand.Leads registry task)
      (size : ∀ count, errand.entries = some count → registry.table.size = count) :
    Comes errand registry [task] none
  /-- A session is to be admitted, once those are forgotten that have ended. -/
  | clearing {strays launch} (launches : errand.Launches launch) (new : errand.entries = none)
      (tidy : ∀ task ∈ strays, task = .reap ∨ task.tidies = true) :
    Comes errand registry (strays ++ [.reserve launch]) none
  /-- The old worker left no sink behind. -/
  | bereft {machine} (kept : registry.state? errand.id = some .pending) :
    Comes errand registry [.park errand.id none (.replace errand.rom machine)] none
  | declined {todo reply} (declines : Declines todo reply) : Comes errand registry todo reply

/-- **Whoever gives up goes on giving up.** -/
theorem Declines.done {registry : Registry} {task : Task} {later : List Task}
    {answer : Except SinkError Unit} {progress : Progress} {reply : Option Reply}
    (declines : Declines (task :: later) reply)
    (did : task.step registry answer = some progress) :
    Declines (progress.todo ++ later) (progress.reply <|> reply) := by
  have rest : ∀ next ∈ later, next.declines = true :=
    fun next member => declines.todo next (List.mem_cons_of_mem _ member)
  have now := declines.todo task List.mem_cons_self
  cases task with
  | tell sink reason =>
    cases did
    exact ⟨rest, declines.reply⟩
  | close sink =>
    cases did
    exact ⟨rest, declines.reply⟩
  | withdraw kind id cause =>
    cases did
    exact ⟨rest, fun _ same => by cases same⟩
  | answer given =>
    cases given with
    | ok => cases now
    | error cause =>
      cases did
      exact ⟨rest, fun _ same => by cases same⟩
  | _ => cases now

namespace Errand

variable {errand : Errand} {registry after : Registry} {task : Task} {later : List Task}
  {answer : Except SinkError Unit} {progress : Progress} {reply : Option Reply}

/-! ### What workers and time do -/

/-- The sink of a worker stays its own. -/
theorem sink_of_keeps (keeps : Keeps registry.standings after.standings) {number : WorkerId}
    {sink : SinkId} (served : (registry.worker? number).map Worker.sink = some sink) :
    (after.worker? number).map Worker.sink = some sink := by
  obtain ⟨worker, known, rfl⟩ := Option.map_eq_some_iff.mp served
  obtain ⟨moved, found, -, same⟩ := keeps number _ (registry.standings_getElem? known)
  rw [standings, List.getElem?_map, Option.map_eq_some_iff] at found
  obtain ⟨later, there, rfl⟩ := found
  exact Option.map_eq_some_iff.mpr ⟨later, there, same⟩

theorem client?_of_keeps {ids : List SessionId} (labelled : registry.Labelled ids)
    {id : SessionId} (state : after.state? id = registry.state? id)
    (keeps : Keeps registry.standings after.standings) :
    after.client? id = registry.client? id := by
  unfold client?
  rw [state]
  cases held : registry.state? id with
  | none => rfl
  | some state =>
    cases state with
    | running number =>
      obtain ⟨worker, known, -⟩ := IsWorkerOf.exists_worker (labelled.slots _ _ held)
      have served : (registry.worker? number).map Worker.sink = some worker.sink :=
        Option.map_eq_some_iff.mpr ⟨worker, known, rfl⟩
      exact (sink_of_keeps keeps served).trans served.symm
    | unloaded | pending => rfl

/-- Workers and time do not change how far the call has come. -/
theorem Comes.drift {todo : List Task} {ids : List SessionId}
    (comes : errand.Comes registry todo reply) (labelled : registry.Labelled ids)
    (table : after.table = registry.table)
    (keeps : Keeps registry.standings after.standings) : errand.Comes after todo reply := by
  have state : after.state? errand.id = registry.state? errand.id :=
    congrArg (fun table : NameTable Slot => (table.lookup? errand.id.name).map Slot.state) table
  have same := client?_of_keeps labelled state keeps
  cases comes with
  | coming leads size =>
    refine .coming ?_ (table.symm ▸ size)
    cases leads with
    | building client new => exact .building client new
    | rebuilding client => exact .rebuilding (same.trans client)
    | unloading builds client => exact .unloading builds (same.trans client)
    | halting builds client served kept =>
      exact .halting builds client (sink_of_keeps keeps served) (state.trans kept)
    | joining builds client served kept =>
      exact .joining builds client (sink_of_keeps keeps served) (state.trans kept)
    | parking builds client kept => exact .parking builds client (state.trans kept)
    | taking builds client => exact .taking builds (same.trans client)
    | acknowledging launches kept => exact .acknowledging launches (state.trans kept)
  | clearing launches new tidy => exact .clearing launches new tidy
  | bereft kept => exact .bereft (state.trans kept)
  | declined declines => exact .declined declines

/-! ### What the call does -/

/-- Whoever refuses gives up. -/
theorem comes_refused (cause : SessionError) :
    errand.Comes registry ((registry.refuse cause).todo ++ []) ((registry.refuse cause).reply <|>
      none) :=
  .declined ⟨fun _ member => (by cases member), fun _ same => by cases same⟩

theorem comes_rejected (id : SessionId) (sink : SinkId) (cause : SessionError) :
    errand.Comes registry ((registry.rejection id sink cause).todo ++ [])
      ((registry.rejection id sink cause).reply <|> none) := by
  refine .declined ⟨fun task member => ?_, fun _ same => by cases same⟩
  simp only [Registry.rejection, List.append_nil, List.mem_cons, List.not_mem_nil,
    or_false] at member
  rcases member with rfl | rfl | rfl <;> rfl

/-- A task on the way to the announcement. -/
theorem Leads.done {ids : List SessionId} (leads : errand.Leads registry task)
    (size : ∀ count, errand.entries = some count → registry.table.size = count)
    (labelled : registry.Labelled ids) (settings : registry.settings = errand.settings)
    (did : task.step registry answer = some progress)
    (unannounced : ∀ launch taken, task = .acknowledge launch → answer ≠ .ok taken) :
    errand.Comes progress.registry (progress.todo ++ []) (progress.reply <|> none) := by
  have put : ∀ {slot written : Slot}, registry.slot? errand.id = some slot →
      ∀ count, errand.entries = some count →
        (registry.putSlot errand.id written).table.size = count := by
    intro slot written there count known
    rw [registry.size_putSlot there, size count known]
  have kept : ∀ {active : Moment},
      (registry.putSlot errand.id ⟨active, .pending⟩).state? errand.id = some .pending := by
    intro active
    rw [Registry.state?_putSlot, if_pos rfl]
  cases leads with
  | @building seed sink client new =>
    cases did
    simp only [Registry.build]
    cases booted : Machine.boot registry.settings.timerMode seed errand.rom.bytes with
    | ok machine =>
      have launches : errand.Launches ⟨.start, errand.id, errand.rom, machine, sink⟩ :=
        ⟨rfl, rfl, ⟨seed, settings ▸ booted⟩, client⟩
      have tidy : ∀ task ∈ [Task.reap], task = .reap ∨ task.tidies = true :=
        fun task member => .inl (List.mem_singleton.mp member)
      exact .clearing launches new tidy
    | error cause => exact comes_rejected _ _ _
  | @rebuilding seed client =>
    cases did
    simp only [Registry.rebuild]
    cases booted : Machine.boot registry.settings.timerMode seed errand.rom.bytes with
    | ok machine => exact .coming (.unloading ⟨seed, settings ▸ booted⟩ client) size
    | error cause => exact comes_refused _
  | @unloading machine builds client =>
    cases did
    simp only [Registry.unload]
    cases found : registry.slot? errand.id with
    | none => exact comes_refused _
    | some slot =>
      obtain ⟨active, state⟩ := slot
      have held := registry.state?_of_slot? found
      cases state with
      | running number =>
        obtain ⟨worker, known, -⟩ := IsWorkerOf.exists_worker (labelled.slots _ _ held)
        have served : (registry.worker? number).map Worker.sink = some worker.sink :=
          Option.map_eq_some_iff.mpr ⟨worker, known, rfl⟩
        rw [client?, held] at client
        exact .coming (.halting builds (client.symm.trans served) served kept) (put found)
      | unloaded | pending => exact .coming (.taking builds client) size
  | halting builds client served kept =>
    have still := sink_of_keeps (Task.yields_of_step did).keeps served
    cases did
    exact .coming (.joining builds client still kept) size
  | @joining number machine sink builds client served kept =>
    cases Task.yields_of_step did with
    | @ended _ _ _ worker known complete =>
      rw [known] at served
      refine .coming (.parking builds ?_ kept) size
      rw [client, ← served]
      rfl
    | broken known complete => exact .bereft kept
    | watched watches => cases watches
  | @parking sink machine builds client kept =>
    cases did
    obtain ⟨slot, found, pending⟩ := registry.slot?_of_state? kept
    simp only [Registry.park, found, pending, Registry.abandon]
    have stored : (registry.putSlot errand.id { slot with state := .unloaded sink }).state?
        errand.id = some (.unloaded sink) := by
      rw [Registry.state?_putSlot, if_pos rfl]
    refine .coming (.taking builds ?_) (put found)
    show (registry.putSlot errand.id { slot with state := .unloaded sink }).client? errand.id = _
    rw [client?, stored, client]
  | @taking machine builds client =>
    cases did
    simp only [Registry.take]
    cases found : registry.slot? errand.id with
    | none => exact comes_refused _
    | some slot =>
      obtain ⟨active, state⟩ := slot
      have held := registry.state?_of_slot? found
      cases state with
      | unloaded sink =>
        rw [client?, held] at client
        exact .coming (.acknowledging ⟨rfl, rfl, builds, client.symm⟩ kept) (put found)
      | running | pending => exact comes_refused _
  | @acknowledging launch launches kept =>
    cases answer with
    | ok taken => exact absurd rfl (unannounced launch taken rfl)
    | error cause =>
      cases did
      refine .declined ⟨fun task member => ?_, fun _ same => by cases same⟩
      rw [List.mem_singleton.mp member]
      rfl

/-- What is so where the client is to be told. -/
theorem Comes.acknowledging {launch : Launch}
    (comes : errand.Comes registry (.acknowledge launch :: later) reply) :
    later = [] ∧ reply = none ∧ errand.Launches launch ∧
      registry.state? errand.id = some .pending ∧
      ∀ count, errand.entries = some count → registry.table.size = count := by
  generalize todos : Task.acknowledge launch :: later = todo at comes
  cases comes with
  | coming leads size =>
    cases leads with
    | acknowledging launches kept =>
      cases todos
      exact ⟨rfl, rfl, launches, kept, size⟩
    | _ => cases todos
  | @clearing strays _ _ _ tidy =>
    cases strays with
    | nil => cases todos
    | cons first rest =>
      cases todos
      rcases tidy _ List.mem_cons_self with same | tidies
      · cases same
      · cases tidies
  | bereft => cases todos
  | declined declines => cases declines.todo _ (todos ▸ List.mem_cons_self)

/-- **One task of the call**, unless it tells the client that the program starts. -/
theorem Comes.done {ids : List SessionId} (comes : errand.Comes registry (task :: later) reply)
    (labelled : registry.Labelled ids) (settings : registry.settings = errand.settings)
    (did : task.step registry answer = some progress)
    (unannounced : ∀ launch taken, task = .acknowledge launch → answer ≠ .ok taken) :
    errand.Comes progress.registry (progress.todo ++ later) (progress.reply <|> reply) := by
  generalize todos : task :: later = todo at comes
  cases comes with
  | coming leads size =>
    cases todos
    exact leads.done size labelled settings did unannounced
  | @clearing strays launch launches new tidy =>
    cases strays with
    | nil =>
      cases todos
      cases Task.yields_of_step did with
      | rejected => exact comes_rejected _ _ _
      | admitted =>
        refine .coming (.acknowledging launches ?_) fun _ known => by rw [new] at known; cases known
        show (registry.putSlot launch.id _).state? errand.id = _
        rw [launches.id, Registry.state?_putSlot, if_pos rfl]
      | watched watches => cases watches
    | cons first rest =>
      cases todos
      have behind : ∀ next ∈ rest, next = .reap ∨ next.tidies = true :=
        fun next member => tidy next (List.mem_cons_of_mem _ member)
      show errand.Comes _ (progress.todo ++ (rest ++ [.reserve launch])) _
      rw [← List.append_assoc]
      rcases tidy task List.mem_cons_self with rfl | tidies
      · cases did
        refine .clearing launches new fun next member => ?_
        rcases List.mem_append.mp member with halts | left
        · obtain ⟨entry, -, rfl⟩ := List.mem_map.mp halts
          exact .inr rfl
        · exact behind next left
      · obtain ⟨silent, fresh⟩ := Task.tidies_done tidies did
        rw [silent]
        refine .clearing launches new fun next member => ?_
        rcases List.mem_append.mp member with new | left
        · exact .inr (fresh next new)
        · exact behind next left
  | bereft kept =>
    cases todos
    cases did
    obtain ⟨slot, found, -⟩ := registry.slot?_of_state? kept
    simp only [Registry.park, found]
    exact comes_refused _
  | declined declines => exact .declined ((todos ▸ declines : Declines _ _).done did)

end Errand

namespace System

/-- What a call launches a program from, if it does. -/
def errand? (system : System) : Call → Option Errand
  | .start id rom _ =>
    some ⟨system.registry.settings, id, rom, some system.registry.sinks, none⟩
  | .session id (.changeRom rom _) =>
    some ⟨system.registry.settings, id, rom, system.registry.client? id,
      some system.registry.table.size⟩
  | _ => none

/-- The system after a call was begun, and some moves were made. -/
def eve (system : System) (call : Call) (early : List Move) : System :=
  (system.begin call).run early

/-- Whether a call that is begun tells a client that a program starts: it does so after some moves
and before others, with a launch. -/
structure Tells (system : System) (call : Call) (during early late : List Move) (launch : Launch) :
    Prop where
  split : during = early ++ .proceed system.flights.length (.ok ()) :: late
  asks : (system.eve call early).task? (.proceed system.flights.length (.ok ())) =
    some (.acknowledge launch)

theorem Tells.concat {system : System} {call : Call} {during early late : List Move}
    {launch : Launch} (tells : system.Tells call during early late launch) (move : Move) :
    system.Tells call (during ++ [move]) early (late ++ [move]) launch :=
  ⟨by rw [tells.split, List.append_assoc, List.cons_append], tells.asks⟩

/-- What is so where a client is about to be told, after some calls that have returned. -/
structure Announces (system : System) (front : List Flight) (errand : Errand) (launch : Launch) :
    Prop where
  latest : ∃ flight, system.flights = front ++ [flight] ∧ flight.todo = [.acknowledge launch] ∧
    flight.reply = none
  launches : errand.Launches launch
  kept : system.registry.state? launch.id = some .pending
  size : ∀ count, errand.entries = some count → system.registry.table.size = count

theorem eve_eq (settings : Settings) (before : List Move) (call : Call) (early : List Move) :
    ((new settings).run before).eve call early =
      (new settings).run (before ++ .begin call :: early) := by
  rw [run_append, run_cons]
  rfl

theorem comes_begun {system : System} {call : Call} {errand : Errand}
    (launches : system.errand? call = some errand) :
    errand.Comes (system.begin call).registry (call.tasks system.registry.sinks) none := by
  cases call with
  | start id rom seed =>
    cases launches
    exact .coming (.building rfl rfl) fun _ known => by cases known
  | session id request =>
    cases request with
    | changeRom rom seed =>
      cases launches
      exact .coming (.rebuilding rfl) fun _ known => Option.some.inj known
    | _ => cases launches
  | _ => cases launches

theorem settings_of_errand {system : System} {call : Call} {errand : Errand}
    (launches : system.errand? call = some errand) :
    errand.settings = system.registry.settings := by
  cases call with
  | start =>
    cases launches
    rfl
  | session id request =>
    cases request with
    | changeRom =>
      cases launches
      rfl
    | _ => cases launches
  | _ => cases launches

theorem reply_of_latest {system : System} {front : List Flight} {flight : Flight} {reply : Reply}
    (flights : system.flights = front ++ [flight])
    (returned : system.latestReply? = some reply) :
    flight.todo = [] ∧ flight.reply = some reply := by
  rw [latestReply?, flights, List.getLast?_concat, Option.bind_some] at returned
  split at returned
  · rename_i complete
    exact ⟨List.isEmpty_iff.mp complete, returned⟩
  · cases returned

section Course

variable {settings : Settings} {before : List Move} {call : Call} {errand : Errand}
  (quiet : ((new settings).run before).isQuiet = true)
  (launches : ((new settings).run before).errand? call = some errand)

include quiet launches

/-- **How far a call has come**: its client is not told yet, or it was, and it is not told again. -/
theorem comes_run (during : List Move) (alone : ∀ other, .begin other ∉ during) :
    ∃ flight, (((new settings).run before).eve call during).flights =
        ((new settings).run before).flights ++ [flight] ∧
      (errand.Comes (((new settings).run before).eve call during).registry flight.todo
          flight.reply ∨
        (∃ early late launch, ((new settings).run before).Tells call during early late launch) ∧
        ∀ task ∈ flight.todo, task.rank < 5) := by
  induction during using List.reverseRecOn with
  | nil => exact ⟨_, rfl, .inl (comes_begun launches)⟩
  | append_singleton schedule move ih =>
    obtain ⟨flight, flights, course⟩ :=
      ih fun other member => alone other (List.mem_append_left _ member)
    have here : move ∈ schedule ++ [move] := List.mem_append_right _ List.mem_cons_self
    have labelled := labelled_run settings (before ++ .begin call :: schedule)
    have set : (((new settings).run before).eve call schedule).registry.settings =
        errand.settings := by
      rw [eve_eq, settings_of_errand launches, settings_run, settings_run]
    rw [← eve_eq] at labelled
    have step := (((new settings).run before).eve call schedule).step_move move
    have asked (launch : Launch) (asks : (((new settings).run before).eve call schedule).task?
        (.proceed ((new settings).run before).flights.length (.ok ())) =
          some (.acknowledge launch)) : ((new settings).run before).Tells call
            (schedule ++ [.proceed ((new settings).run before).flights.length (.ok ())]) schedule []
            launch := ⟨rfl, asks⟩
    have runs : ((new settings).run before).eve call (schedule ++ [move]) =
        (((new settings).run before).eve call schedule).move move := run_concat _ _ _
    rw [runs]
    generalize ((new settings).run before).eve call schedule = system at *
    have drifts : ∀ {after : Registry}, after.table = system.registry.table →
        Keeps system.registry.standings after.standings →
        (errand.Comes after flight.todo flight.reply ∨
          (∃ early late launch,
            ((new settings).run before).Tells call (schedule ++ [move]) early late launch) ∧
          ∀ task ∈ flight.todo, task.rank < 5) := by
      intro after table keeps
      rcases course with comes | ⟨⟨early, late, launch, tells⟩, late_ranks⟩
      · exact .inl (comes.drift labelled.registry table keeps)
      · exact .inr ⟨⟨early, _, launch, tells.concat move⟩, late_ranks⟩
    have keeps := step.keeps
    generalize system.move move = after at step keeps ⊢
    cases step with
    | begun => exact absurd here (alone _)
    | stayed | waited => exact ⟨flight, flights, drifts rfl keeps⟩
    | worked => exact ⟨flight, flights, drifts rfl keeps⟩
    | @done number answer other task later progress known next did =>
      obtain ⟨rfl, rfl⟩ := last_of_lone quiet flights known next
      refine ⟨other.advance progress later, ?_, ?_⟩
      · rw [flights, List.set_append_right _ _ (Nat.le_refl _), Nat.sub_self]
        rfl
      have lower : ∀ fresh ∈ progress.todo, fresh.rank < task.rank := Task.rank_lt did
      rcases course with comes | ⟨⟨early, late, launch, tells⟩, ranks⟩
      · rw [next] at comes
        by_cases tells : ∃ launch, task = .acknowledge launch ∧ answer = .ok ()
        · obtain ⟨launch, rfl, rfl⟩ := tells
          obtain ⟨rfl, -⟩ := comes.acknowledging
          refine .inr ⟨⟨schedule, [], launch, asked launch (task?_proceed known next _)⟩, ?_⟩
          intro fresh member
          exact lower fresh ((List.append_nil progress.todo) ▸ member)
        · exact .inl (comes.done labelled.registry set did
            fun launch taken same ok => tells ⟨launch, same, ok⟩)
      · refine .inr ⟨⟨early, _, launch, tells.concat _⟩, fun fresh member => ?_⟩
        rw [next] at ranks
        rcases List.mem_append.mp member with new | old
        · exact (lower fresh new).trans (ranks task List.mem_cons_self)
        · exact ranks fresh (List.mem_cons_of_mem _ old)

variable {during : List Move} (alone : ∀ other, .begin other ∉ during)

include alone

/-- **A call that has succeeded told the client.** -/
theorem exists_tells {answer : Answer}
    (returned : (((new settings).run before).eve call during).latestReply? = some (.ok answer)) :
    ∃ early late launch, ((new settings).run before).Tells call during early late launch := by
  obtain ⟨flight, flights, comes | ⟨tells, -⟩⟩ := comes_run quiet launches during alone
  · obtain ⟨complete, reply⟩ := reply_of_latest flights returned
    rw [complete, reply] at comes
    generalize todos : ([] : List Task) = todo at comes
    cases comes with
    | declined declines => exact absurd rfl (declines.reply answer)
  · exact tells

/-- **What is so where a client is told.** -/
theorem Tells.announces {early late : List Move} {launch : Launch}
    (tells : ((new settings).run before).Tells call during early late launch) :
    (((new settings).run before).eve call early).Announces ((new settings).run before).flights
      errand launch := by
  have still : ∀ other, .begin other ∉ early := fun other member =>
    alone other (tells.split ▸ List.mem_append_left _ member)
  obtain ⟨flight, flights, course⟩ := comes_run quiet launches early still
  have asks := tells.asks
  obtain ⟨other, known, next⟩ : ∃ other,
      (((new settings).run before).eve call early).flights[
        ((new settings).run before).flights.length]? = some other ∧
      other.todo.head? = some (.acknowledge launch) := by
    simpa [task?, Option.bind_eq_some_iff] using asks
  rw [flights, List.getElem?_concat_length] at known
  obtain rfl := Option.some.inj known
  obtain ⟨later, next⟩ := List.head?_eq_some_iff.mp next
  rcases course with comes | ⟨-, ranks⟩
  · rw [next] at comes
    obtain ⟨rfl, reply, ready, kept, size⟩ := comes.acknowledging
    exact ⟨⟨flight, flights, next, reply⟩, ready, ready.id ▸ kept, size⟩
  · exact absurd (ranks (.acknowledge launch) (next ▸ List.mem_cons_self)) (Nat.lt_irrefl 5)

end Course

end System

end Arcade
