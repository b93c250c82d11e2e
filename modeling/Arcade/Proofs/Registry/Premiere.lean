/-
**The premiere of a program.**

From the moment where its client is told that a program starts, a session does what it would do if
it had never had another one. At first it has no worker. Then a worker is set going, and it may go
on before the slot has it; what it does is the same as if the slot had it already. When the call has
succeeded, the system mirrors one that has had nothing but the premiere (`System.newcomer`).

* `Debut.Stage`: how far the premiere has come;
* `Debut.Stage.work`, `.done`: a worker goes on, and the call does;
* `Debut.Stage.run`: how far it has come after some moves;
* `Debut.OnEve.mirrored`: the session is mirrored from the announcement on.
-/

import Arcade.Proofs.Registry.Launching
import Arcade.Proofs.Registry.Renewal

namespace Arcade

open Registry

/-- A registry that has told the client of its only session that a program starts. -/
def Registry.expecting (settings : Settings) (id : SessionId) : Registry :=
  ({ Registry.new settings with sinks := 1 }.putSlot id ⟨0, .pending⟩).deliver 0
    (.message (.started id))

/-- A system that has had the premiere of a program, and nothing else. -/
def System.newcomer (settings : Settings) (id : SessionId) (rom : Rom) (machine : Machine) :
    System where
  registry :=
    ((Registry.expecting settings id).spawn ⟨.start, id, rom, machine, 0⟩
      (.ok ())).registry.publish id 0 |>.registry
  flights := []

theorem Registry.state?_expecting (settings : Settings) (id : SessionId) :
    (Registry.expecting settings id).state? id = some .pending := by
  show (Registry.putSlot _ id _).state? id = _
  rw [Registry.state?_putSlot, if_pos rfl]

theorem Registry.sinkHistory_expecting (settings : Settings) (id : SessionId) (sink : SinkId) :
    (Registry.expecting settings id).sinkHistory sink =
      if 0 = sink then [.message (.started id)] else [] := by
  rw [expecting, sinkHistory_deliver]
  rfl

/-! ### What the call does at last -/

namespace Registry

variable {registry : Registry} {id : SessionId}

theorem publish_of_pending (kept : registry.state? id = some .pending) (number : WorkerId) :
    registry.publish id number =
      (registry.putSlot id ⟨registry.now, .running number⟩).answer (.ok .done) := by
  obtain ⟨slot, found, pending⟩ := slot?_of_state? kept
  simp only [publish, found, pending, abandon]

theorem state?_work (number : WorkerId) (reaction : Reaction) :
    (registry.work number reaction).state? id = registry.state? id :=
  congrArg (fun table : NameTable Slot => (table.lookup? id.name).map Slot.state)
    (registry.table_work number reaction)

theorem length_workers_work (number : WorkerId) (reaction : Reaction) :
    (registry.work number reaction).workers.length = registry.workers.length := by
  unfold work
  split
  · rfl
  · exact List.length_set

/-- Workers do not look at the table. -/
theorem work_putSlot (slot : Slot) (number : WorkerId) (reaction : Reaction) :
    (registry.putSlot id slot).work number reaction =
      (registry.work number reaction).putSlot id slot := by
  have same : (registry.putSlot id slot).worker? number = registry.worker? number := rfl
  simp only [work, same]
  cases registry.worker? number <;> rfl

end Registry

namespace System

variable {system : System} {front : List Flight} {flight : Flight} {id : SessionId}
  {number : WorkerId}

/-- The latest call does its next task. -/
theorem move_latest {task : Task} {later : List Task} {answer : Except SinkError Unit}
    {progress : Progress} (flights : system.flights = front ++ [flight])
    (next : flight.todo = task :: later)
    (did : task.step system.registry answer = some progress) :
    system.move (.proceed front.length answer) = advanced front flight progress later := by
  have done := proceed_latest flights next did
  rw [flights, List.length_append, List.length_singleton, Nat.add_sub_cancel] at done
  exact done

/-- The slot gets its worker. -/
theorem move_publish (flights : system.flights = front ++ [flight])
    (next : flight.todo = [.publish id number])
    (kept : system.registry.state? id = some .pending) (answer : Except SinkError Unit) :
    system.move (.proceed front.length answer) =
      ⟨system.registry.putSlot id ⟨system.registry.now, .running number⟩,
        front ++ [{ flight with todo := [], reply := some (.ok .done) }]⟩ := by
  rw [move_latest flights next rfl, publish_of_pending kept]
  rfl

/-- **A worker may as well go on after the slot got its worker.** -/
theorem publish_work (flights : system.flights = front ++ [flight])
    (next : flight.todo = [.publish id number])
    (kept : system.registry.state? id = some .pending) (other : WorkerId) (reaction : Reaction) :
    (system.move (.work other reaction)).move (.proceed front.length (.ok ())) =
      (system.move (.proceed front.length (.ok ()))).move (.work other reaction) := by
  rw [move_publish flights next kept,
    @move_publish (system.move (.work other reaction)) _ _ _ _ flights next
      ((state?_work other reaction).trans kept)]
  simp only [move, work_putSlot, now_work]

end System

/-! ### How far a premiere has come -/

section Newcomer

variable (settings : Settings) (id : SessionId) (rom : Rom) (machine : Machine)

theorem publish_expecting :
    ((expecting settings id).spawn ⟨.start, id, rom, machine, 0⟩ (.ok ())).registry.publish id 0 =
      (((expecting settings id).spawn ⟨.start, id, rom, machine, 0⟩ (.ok ())).registry.putSlot id
        ⟨0, .running 0⟩).answer (.ok .done) :=
  @publish_of_pending
    ((expecting settings id).spawn ⟨.start, id, rom, machine, 0⟩ (.ok ())).registry id
    (state?_expecting settings id) 0

theorem System.settings_newcomer :
    (newcomer settings id rom machine).registry.settings = settings := by
  rw [newcomer, publish_expecting]
  rfl

/-- Nobody but the client was told anything. -/
theorem System.unheard_newcomer (sink : SinkId)
    (fresh : (newcomer settings id rom machine).registry.sinks ≤ sink) :
    (newcomer settings id rom machine).registry.sinkHistory sink = [] := by
  rw [newcomer, publish_expecting] at fresh ⊢
  have positive : 0 ≠ sink := Nat.ne_of_lt fresh
  exact (sinkHistory_expecting settings id sink).trans (if_neg positive)

end Newcomer

/-- A session whose mirror waits for its worker waits, too. -/
theorem Registry.Mirrors.kept {settings : Settings} {id : SessionId} {roster : Roster}
    {registry : Registry} (mirrors : registry.Mirrors id roster (.expecting settings id)) :
    registry.state? id = some .pending := by
  have state := mirrors.state_under
  rw [state?_expecting, Option.map_eq_some_iff] at state
  obtain ⟨held, found, pending⟩ := state
  cases held with
  | pending => exact found
  | running | unloaded => cases pending

/-- What is so of the time before a debut as long as the program is launched. -/
structure Debut.Past (debut : Debut) (front : List Flight) (system : System) : Prop where
  calls : debut.calls = front.length + 1
  complete : ∀ flight ∈ front, flight.todo = []
  workers : debut.workers ≤ system.registry.workers.length
  sinks : debut.sinks ≤ system.registry.sinks
  retired : debut.Retired system.registry

/-- How far the premiere of a program has come, once its client was told. If no batch has drawn
random bits, there is a mirror. -/
inductive Debut.Stage (debut : Debut) (front : List Flight) (launch : Launch) (origin : System)
    (script : List Stimulus) (seen : Moment → Prop) (plain : Prop) (count : Nat) (system : System)
    (flight : Flight) : Prop
  /-- The client was told. -/
  | told (next : flight.todo = [.spawn launch]) (reply : flight.reply = none)
      (nothing : script = [])
      (workers : system.registry.workers.length = debut.workers)
      (size : system.registry.table.size = count)
      (mirrors : system.registry.Mirrors launch.id (debut.staff launch.id system)
        (.expecting origin.registry.settings launch.id))
  /-- A worker was set going. -/
  | spawned (next : flight.todo = [.publish launch.id debut.workers])
      (kept : system.registry.state? launch.id = some .pending)
      (size : system.registry.table.size = count)
      (mirrored : plain → ∃ alone,
        debut.Mirrors launch.id (system.move (.proceed front.length (.ok ()))) alone ∧
          origin.Plays script alone)
  /-- The slot has the worker. -/
  | published {active} (complete : flight.todo = []) (reply : flight.reply = some (.ok .done))
      (size : system.registry.table.size = count)
      (slot : system.registry.slot? launch.id = some ⟨active, .running debut.workers⟩)
      (since : seen active)
      (mirrored : plain → ∃ alone, debut.Mirrors launch.id system alone ∧
        origin.Plays script alone)
  | failed (declines : Declines flight.todo flight.reply)

namespace Debut

variable {debut : Debut} {front : List Flight} {system : System}

/-- When the call has returned, what was before is over. -/
theorem Past.passed (past : debut.Past front system) {flight : Flight}
    (flights : system.flights = front ++ [flight]) (complete : flight.todo = []) :
    debut.Passed system := by
  have all : ∀ other ∈ system.flights, other.todo = [] := by
    intro other member
    rw [flights] at member
    rcases List.mem_append.mp member with old | new
    · exact past.complete other old
    · rw [List.mem_singleton.mp new]
      exact complete
  refine ⟨?_, past.workers, past.sinks, fun other member => all other (List.mem_of_mem_take member),
    fun _ other known _ => all other (List.mem_of_getElem? known), past.retired⟩
  rw [past.calls, flights, List.length_append, List.length_singleton]

theorem Past.step {after : System} {move : Move} (past : debut.Past front system)
    (step : system.Step move after) (still : ∀ call, move ≠ .begin call) :
    debut.Past front after where
  calls := past.calls
  complete := past.complete
  workers := past.workers.trans step.workers_le
  sinks := by
    cases step with
    | begun => exact absurd rfl (still _)
    | done _ _ _ yields => exact past.sinks.trans (Nat.le_of_eq yields.sinks_eq.symm)
    | stayed | worked | waited => exact past.sinks
  retired := past.retired.step past.workers step

/-- No call was begun since the debut. -/
theorem Past.drop_flights (past : debut.Past front system) {flight : Flight}
    (flights : system.flights = front ++ [flight]) : system.flights.drop debut.calls = [] := by
  rw [flights, past.calls]
  exact List.drop_eq_nil_of_le (by rw [List.length_append, List.length_singleton])

/-- What the call that launches the program does is not done to the session. -/
theorem Past.stimulus?_proceed (past : debut.Past front system) {flight : Flight}
    (flights : system.flights = front ++ [flight]) (id : SessionId) (number : Nat)
    (answer : Except SinkError Unit) :
    debut.stimulus? id system (.proceed number answer) = none := by
  cases known : system.flights[number]? with
  | none => simp [stimulus?, known]
  | some other =>
    have inside := (List.getElem?_eq_some_iff.mp known).1
    rw [flights, List.length_append, List.length_singleton, ← past.calls] at inside
    cases next : other.todo with
    | nil => simp [stimulus?, known, next]
    | cons task later => simp [stimulus?, known, next, inside]

end Debut

namespace Debut.Stage

variable {debut : Debut} {front : List Flight} {launch : Launch} {origin : System}
  {script : List Stimulus} {seen : Moment → Prop} {plain : Prop} {count : Nat} {system : System}
  {flight : Flight}

theorem mono (stage : debut.Stage front launch origin script seen plain count system flight)
    {more : Moment → Prop} (grows : ∀ moment, seen moment → more moment) {fewer : Prop}
    (shrinks : fewer → plain) :
    debut.Stage front launch origin script more fewer count system flight := by
  cases stage with
  | told next reply nothing workers size mirrors =>
    exact .told next reply nothing workers size mirrors
  | spawned next kept size mirrored =>
    exact .spawned next kept size fun still => mirrored (shrinks still)
  | published complete reply size slot since mirrored =>
    exact .published complete reply size slot (grows _ since) fun still => mirrored (shrinks still)
  | failed declines => exact .failed declines

/-- Time passes. -/
theorem wait (stage : debut.Stage front launch origin script seen plain count system flight)
    (flights : system.flights = front ++ [flight]) (span : Span) :
    debut.Stage front launch origin script seen plain count (system.move (.wait span)) flight := by
  cases stage with
  | told next reply nothing workers size mirrors =>
    refine .told next reply nothing workers size ?_
    exact mirrors.elsewhere rfl rfl (fun _ _ => rfl) fun _ _ => rfl
  | spawned next kept size mirrored =>
    refine .spawned next kept size fun still => ?_
    obtain ⟨alone, mirrors, plays⟩ := mirrored still
    refine ⟨alone, ?_, plays⟩
    rw [@System.move_publish (system.move (.wait span)) _ _ _ _ flights next kept]
    rw [System.move_publish flights next kept] at mirrors
    refine ⟨mirrors.registry.elsewhere rfl ?_ (fun _ _ => rfl) fun _ _ => rfl, mirrors.flights,
      mirrors.unheard⟩
    rw [state?_putSlot, state?_putSlot, if_pos rfl, if_pos rfl]
  | published complete reply size slot since mirrored =>
    refine .published complete reply size slot since fun still => ?_
    obtain ⟨alone, mirrors, plays⟩ := mirrored still
    exact ⟨alone, mirrors.wait span, plays⟩
  | failed declines => exact .failed declines

section Published

variable (past : debut.Past front system) (flights : system.flights = front ++ [flight])
  {id : SessionId} (next : flight.todo = [.publish id debut.workers])
  (kept : system.registry.state? id = some .pending)

include flights next kept

theorem staff_publish :
    debut.staff id (system.move (.proceed front.length (.ok ()))) = debut.staff id system := by
  rw [System.move_latest flights next rfl, publish_of_pending kept]
  unfold staff
  rw [System.startIds_advanced flights]
  exact roster_congr rfl

theorem worker?_publish (number : WorkerId) :
    (system.move (.proceed front.length (.ok ()))).registry.worker? number =
      system.registry.worker? number := by
  rw [System.move_publish flights next kept]
  rfl

/-- To let a worker go on is the same before the slot has it. -/
theorem stimulus?_publish (number : WorkerId) (reaction : Reaction) :
    debut.stimulus? id (system.move (.proceed front.length (.ok ()))) (.work number reaction) =
      debut.stimulus? id system (.work number reaction) := by
  simp only [stimulus?, worker?_publish flights next kept, staff_publish flights next kept]

theorem drawless_publish (number : WorkerId) (reaction : Reaction) :
    debut.drawless id (system.move (.proceed front.length (.ok ()))) (.work number reaction) =
      debut.drawless id system (.work number reaction) := by
  simp only [Debut.drawless, worker?_publish flights next kept, staff_publish flights next kept]

include past

theorem rests_publish :
    debut.rests id (system.move (.proceed front.length (.ok ()))) = true := by
  rw [System.move_publish flights next kept, rests, past.calls]
  exact List.all_eq_true.mpr fun other member => by
    rw [List.drop_eq_nil_of_le (by simp)] at member
    cases member

theorem retired_publish :
    debut.Retired (system.move (.proceed front.length (.ok ()))).registry := by
  intro number worker old known
  rw [worker?_publish flights next kept] at known
  exact past.retired number worker old known

end Published

/-- **A worker goes on.** -/
theorem work (stage : debut.Stage front launch origin script seen plain count system flight)
    (past : debut.Past front system) (flights : system.flights = front ++ [flight])
    (labelled : system.Labelled)
    (ready : (system.move (.proceed front.length (.ok ()))).Labelled)
    {number : WorkerId} {reaction : Reaction}
    (drawless : plain → debut.drawless launch.id system (.work number reaction) = true) :
    debut.Stage front launch origin
      ((debut.stimulus? launch.id system (.work number reaction)).toList ++ script) seen plain count
      (system.move (.work number reaction)) flight := by
  have size : (system.move (.work number reaction)).registry.table.size =
      system.registry.table.size :=
    congrArg NameTable.size (system.registry.table_work number reaction)
  cases stage with
  | told next reply nothing workers counted mirrors =>
    have none : (debut.staff launch.id system).workers = [] :=
      List.eq_nil_of_length_eq_zero mirrors.staff.symm
    have other : number ∉ (debut.staff launch.id system).workers := none ▸ List.not_mem_nil
    have idle : debut.stimulus? launch.id system (.work number reaction) = Option.none := by
      cases known : system.registry.worker? number <;> simp [stimulus?, known, other]
    rw [idle, nothing]
    refine .told next reply rfl ((length_workers_work number reaction).trans workers)
      (size.trans counted) ?_
    cases known : system.registry.worker? number with
    | none =>
      have stays : system.move (.work number reaction) = system := by
        simp [System.move, Registry.work, known]
      rw [stays]
      exact mirrors
    | some worker =>
      rw [Debut.Mirrors.staff_work known reaction]
      exact mirrors.work_other past.retired labelled.registry known other reaction
  | spawned next kept counted mirrored =>
    refine .spawned next ((state?_work number reaction).trans kept) (size.trans counted)
      fun still => ?_
    obtain ⟨alone, mirrors, plays⟩ := mirrored still
    have paced : debut.paces launch.id (system.move (.proceed front.length (.ok ())))
        (.work number reaction) = true := by
      rw [paces, rests_publish past flights next kept, Bool.or_true]
    obtain ⟨after, mirrors, responds⟩ := mirrors.work ready
      (retired_publish past flights next kept) paced
      ((drawless_publish flights next kept number reaction).trans (drawless still))
    rw [← System.publish_work flights next kept] at mirrors
    rw [stimulus?_publish flights next kept] at responds
    exact ⟨after, mirrors, plays.responds responds⟩
  | published complete reply counted slot since mirrored =>
    have kept : (system.move (.work number reaction)).registry.slot? launch.id =
        system.registry.slot? launch.id :=
      congrArg (NameTable.lookup? · launch.id.name) (system.registry.table_work number reaction)
    refine .published complete reply (size.trans counted) (kept.trans slot) since fun still => ?_
    have paced : debut.paces launch.id system (.work number reaction) = true := by
      rw [paces, Debut.rests, past.drop_flights flights, List.all_nil, Bool.or_true]
    obtain ⟨alone, mirrors, plays⟩ := mirrored still
    obtain ⟨after, mirrors, responds⟩ := mirrors.work labelled past.retired paced (drawless still)
    exact ⟨after, mirrors, plays.responds responds⟩
  | failed declines => exact .failed declines

/-- The worker of a program is set going. -/
theorem spawn (past : debut.Past front system) (flights : system.flights = front ++ [flight])
    (labelled : system.Labelled) (client : debut.client = launch.sink)
    (next : flight.todo = [.spawn launch])
    (workers : system.registry.workers.length = debut.workers)
    {settings : Settings}
    (mirrors : system.registry.Mirrors launch.id (debut.staff launch.id system)
      (.expecting settings launch.id))
    {machine : Machine} (same : launch.machine.mute = machine.mute) :
    debut.Mirrors launch.id
      ((System.advanced front flight (system.registry.spawn launch (.ok ())) []).move
        (.proceed front.length (.ok ())))
      (.newcomer settings launch.id launch.rom machine) := by
  have member : flight ∈ system.flights := flights ▸ List.mem_append_right _ List.mem_cons_self
  have label : system.startIds[launch.sink]? = some launch.id :=
    labelled.tasks flight member (.spawn launch) (next ▸ List.mem_cons_self)
  have sinks : (debut.staff launch.id system).sinks = [launch.sink] := by
    have mine : launch.sink ∈ (debut.staff launch.id system).sinks :=
      mem_sinks.mpr ⟨label, by rw [has, client, decide_eq_true rfl, Bool.true_or]⟩
    obtain ⟨sink, single⟩ := List.length_eq_one_iff.mp mirrors.sinks.symm
    rw [single] at mine ⊢
    rw [List.mem_singleton.mp mine]
  have none : (debut.staff launch.id system).workers = [] :=
    List.eq_nil_of_length_eq_zero mirrors.staff.symm
  generalize done : System.advanced front flight (system.registry.spawn launch (.ok ())) [] = after
  have moved : after.flights =
      front ++ [flight.advance (system.registry.spawn launch (.ok ())) []] := done ▸ rfl
  have todo : (flight.advance (system.registry.spawn launch (.ok ())) []).todo =
      [.publish launch.id debut.workers] := workers ▸ rfl
  have staff : (debut.staff launch.id after).workers =
      (debut.staff launch.id system).workers ++ [system.registry.workers.length] := by
    rw [← done]
    unfold Debut.staff
    rw [System.startIds_advanced flights]
    exact workers_spawn launch past.workers
  have clients : (debut.staff launch.id after).sinks = (debut.staff launch.id system).sinks := by
    rw [← done]
    unfold Debut.staff
    rw [System.startIds_advanced flights]
    rfl
  -- to set a worker going is the same for a new session
  have alike : Launch.Mirrors (debut.staff launch.id system) { launch with kind := .start }
      ⟨.start, launch.id, launch.rom, machine, 0⟩ := ⟨rfl, rfl, rfl, same, by rw [sinks]; rfl⟩
  have spawned := @Mirrors.spawn launch.id _ _ _ mirrors { launch with kind := .start } _ rfl
    alike _ staff clients
  have there : (debut.staff launch.id after).workers[0]? = some debut.workers := by
    rw [staff, none, workers]
    rfl
  have led := spawned.registry.publish there
  have held : after.registry.state? launch.id = some .pending := done ▸ mirrors.kept
  refine ⟨?_, ?_, System.unheard_newcomer _ _ _ _⟩
  · rw [staff_publish moved todo held, System.move_latest moved todo rfl, ← done]
    rw [← done] at led
    exact led.registry
  · rw [System.move_latest moved todo rfl, System.advanced, past.calls,
      List.drop_eq_nil_of_le (by simp)]
    exact .nil

/-- **The call does its next task.** -/
theorem done {settings : Settings} {machine : Machine}
    (stage : debut.Stage front launch (.newcomer settings launch.id launch.rom machine) script seen
      plain count system flight)
    (past : debut.Past front system) (flights : system.flights = front ++ [flight])
    (labelled : system.Labelled) (client : debut.client = launch.sink)
    (same : launch.machine.mute = machine.mute) {task : Task} {later : List Task}
    {answer : Except SinkError Unit} {progress : Progress} (next : flight.todo = task :: later)
    (did : task.step system.registry answer = some progress) (now : seen system.registry.now) :
    debut.Stage front launch (.newcomer settings launch.id launch.rom machine) script seen plain
      count (System.advanced front flight progress later) (flight.advance progress later) := by
  cases stage with
  | told one reply nothing workers size mirrors =>
    rw [one] at next
    cases next
    cases answer with
    | ok =>
      cases did
      rw [System.settings_newcomer] at mirrors
      have led := spawn past flights labelled client one workers mirrors same
      exact .spawned (workers ▸ rfl) mirrors.kept size fun _ => ⟨_, led, nothing ▸ .refl⟩
    | error cause =>
      cases did
      refine .failed ⟨fun task member => ?_, fun answer same => ?_⟩
      · rw [List.mem_singleton.mp member]
        rfl
      · rw [show (flight.advance _ []).reply = flight.reply from rfl, reply] at same
        cases same
  | spawned one kept size mirrored =>
    rw [one] at next
    cases next
    cases did
    rw [System.move_latest flights one rfl] at mirrored
    obtain ⟨slot, found, pending⟩ := slot?_of_state? kept
    have put := publish_of_pending kept debut.workers
    refine .published ?_ ?_ ?_ ?_ now mirrored
    · show (system.registry.publish launch.id debut.workers).todo ++ [] = _
      rw [put]
      rfl
    · show ((system.registry.publish launch.id debut.workers).reply <|> flight.reply) = _
      rw [put]
      rfl
    · rw [System.advanced, put]
      exact (system.registry.size_putSlot found _).trans size
    · rw [System.advanced, put]
      show (system.registry.putSlot launch.id _).slot? launch.id = _
      rw [slot?_putSlot, if_pos rfl]
  | published complete =>
    rw [complete] at next
    cases next
  | failed declines => exact .failed ((next ▸ declines : Declines _ _).done did)

end Debut.Stage

/-- **The client was told**, and nothing of what was before is left but its sink. -/
theorem Debut.mirrors_told {debut : Debut} {launch : Launch} {system : System}
    (labelled : system.Labelled) (client : debut.client = launch.sink)
    (workers : system.registry.workers.length ≤ debut.workers)
    (sinks : system.registry.sinks ≤ debut.sinks)
    (label : system.startIds[launch.sink]? = some launch.id)
    (kept : system.registry.state? launch.id = some .pending)
    (recent : system.registry.events = []) :
    (system.registry.deliver launch.sink (.message (.started launch.id))).Mirrors launch.id
      (debut.staff launch.id system) (.expecting system.registry.settings launch.id) := by
  have none : (debut.staff launch.id system).workers = [] := by
    rw [List.eq_nil_iff_forall_not_mem]
    intro number member
    obtain ⟨⟨standing, found, -⟩, late⟩ := mem_workers.mp member
    have inside := (List.getElem?_eq_some_iff.mp found).1
    rw [standings, List.length_map] at inside
    omega
  have single : (debut.staff launch.id system).sinks = [launch.sink] := by
    refine List.perm_singleton.mp ((List.perm_ext_iff_of_nodup
      (debut.staff launch.id system).sinks_nodup (List.nodup_singleton _)).mpr fun sink => ?_)
    rw [List.mem_singleton]
    refine mem_sinks.trans ⟨fun mine => ?_, ?_⟩
    · obtain ⟨owner, has⟩ := mine
      have inside := (List.getElem?_eq_some_iff.mp owner).1
      rw [← labelled.sinks] at inside
      rw [Debut.has, client, Bool.or_eq_true, decide_eq_true_iff, decide_eq_true_iff] at has
      rcases has with same | late
      · exact same
      · omega
    · rintro rfl
      exact ⟨label, by rw [Debut.has, client, decide_eq_true rfl, Bool.true_or]⟩
  obtain ⟨slot, found, pending⟩ := slot?_of_state? kept
  refine ⟨rfl, fun other different => ?_, .inr ⟨slot, ⟨0, .pending⟩, found, ?_, ?_⟩, ?_,
    fun lone number there => ?_, ?_, fun lone sink there => ?_⟩
  · show (Registry.putSlot _ launch.id _).slot? other = _
    rw [slot?_putSlot, if_neg different]
    rfl
  · show (Registry.putSlot _ launch.id _).slot? launch.id = _
    rw [slot?_putSlot, if_pos rfl]
  · rw [pending]
    exact .pending
  · rw [none]
    rfl
  · rw [none] at there
    cases there
  · rw [single]
    rfl
  · rw [single, List.getElem?_singleton] at there
    split at there
    · rename_i first
      obtain rfl := Option.some.inj there
      rw [sinkHistory_expecting, first, if_pos rfl, sinkHistory_deliver, if_pos rfl]
      simp [sinkHistory, sinkEvents, recent]
    · cases there

/-- **How far a premiere has come** after some moves. -/
theorem Debut.Stage.run {debut : Debut} {front : List Flight} {launch : Launch}
    {settings : Settings} {machine : Machine} {count : Nat} {system : System} {flight : Flight}
    (stage : debut.Stage front launch (.newcomer settings launch.id launch.rom machine) []
      (fun _ => False) True count system flight)
    (past : debut.Past front system) (flights : system.flights = front ++ [flight])
    (labelled : ∀ schedule, (system.run schedule).Labelled) (client : debut.client = launch.sink)
    (same : launch.machine.mute = machine.mute) (schedule : List Move)
    (still : ∀ other, .begin other ∉ schedule) :
    ∃ flight, (system.run schedule).flights = front ++ [flight] ∧
      debut.Past front (system.run schedule) ∧
      debut.Stage front launch (.newcomer settings launch.id launch.rom machine)
        (debut.script launch.id system schedule).reverse
        (fun moment => ∃ past, past <+: schedule ∧ moment = (system.run past).registry.now)
        (system.always (debut.drawless launch.id) schedule = true) count (system.run schedule)
        flight := by
  induction schedule using List.reverseRecOn with
  | nil => exact ⟨flight, flights, past, stage.mono (fun _ => False.elim) fun _ => trivial⟩
  | append_singleton schedule move ih =>
    obtain ⟨flight, flights, past, stage⟩ :=
      ih fun other member => still other (List.mem_append_left _ member)
    have unbegun : ∀ call, move ≠ .begin call := by
      rintro call rfl
      exact still call (List.mem_append_right _ List.mem_cons_self)
    have step := (system.run schedule).step_move move
    have ready := labelled (schedule ++ [.proceed front.length (.ok ())])
    have rights := labelled schedule
    have drawless (plain : system.always (debut.drawless launch.id) (schedule ++ [move]) = true) :=
      System.always_concat plain
    have grows (moment : Moment)
        (seen : ∃ past, past <+: schedule ∧ moment = (system.run past).registry.now) :
        ∃ past, past <+: schedule ++ [move] ∧ moment = (system.run past).registry.now :=
      seen.imp fun past ⟨early, same⟩ => ⟨early.trans (List.prefix_append _ _), same⟩
    have stage := stage.mono grows fun plain => (drawless plain).1
    have seen : ∃ past, past <+: schedule ++ [move] ∧
        (system.run schedule).registry.now = (system.run past).registry.now :=
      ⟨schedule, List.prefix_append _ _, rfl⟩
    rw [System.run_concat] at ready
    rw [System.run_concat, script_concat, List.reverse_append]
    generalize system.run schedule = reached at *
    generalize (debut.script launch.id system schedule).reverse = script at *
    have passes := past.step step unbegun
    have nothing := past.stimulus?_proceed flights launch.id
    cases move with
    | begin call => exact absurd rfl (unbegun call)
    | wait span => exact ⟨flight, flights, passes, stage.wait flights span⟩
    | work number reaction =>
      rw [System.reverse_toList]
      exact ⟨flight, flights, passes, stage.work past flights rights ready fun plain =>
        (drawless plain).2⟩
    | proceed number answer =>
      rw [nothing number answer]
      generalize reached.move (.proceed number answer) = after at step passes ⊢
      cases step with
      | stayed => exact ⟨flight, flights, passes, stage⟩
      | @done _ _ other task later progress known next did =>
        have quiet : System.isQuiet ⟨reached.registry, front⟩ = true :=
          List.all_eq_true.mpr fun old member => List.isEmpty_iff.mpr (past.complete old member)
        obtain ⟨rfl, rfl⟩ := System.last_of_lone quiet flights known next
        have moved : (⟨progress.registry,
            reached.flights.set front.length (other.advance progress later)⟩ : System) =
            System.advanced front other progress later := by
          rw [flights, System.set_latest]
          rfl
        rw [moved] at passes ⊢
        exact ⟨_, rfl, passes, stage.done past flights rights client same next did seen⟩

/-! ### From the announcement on -/

/-- What is so where a client is about to be told. -/
structure Debut.OnEve (debut : Debut) (front : List Flight) (launch : Launch) (system : System) :
    Prop where
  tells : ∃ flight, system.flights = front ++ [flight] ∧ flight.todo = [.acknowledge launch] ∧
    flight.reply = none
  kept : system.registry.state? launch.id = some .pending
  client : debut.client = launch.sink
  workers : debut.workers = system.registry.workers.length
  sinks : debut.sinks = system.registry.sinks
  past : debut.Past front system
  labelled : ∀ schedule, (system.run schedule).Labelled
  unheard : ∀ schedule, (system.run schedule).registry.sinkHistory
    (system.run schedule).registry.sinks = []
  limited : ∀ schedule, (system.run schedule).registry.table.size ≤
    (system.run schedule).registry.settings.maxSessions.toNat

namespace Debut.OnEve

variable {debut : Debut} {front : List Flight} {launch : Launch} {system : System}
  (eve : debut.OnEve front launch system)

include eve

/-- What was noted before does not matter. -/
theorem recent : debut.OnEve front launch system.recent where
  tells := eve.tells
  kept := eve.kept
  client := eve.client
  workers := eve.workers
  sinks := eve.sinks
  past := ⟨eve.past.calls, eve.past.complete, eve.past.workers, eve.past.sinks, eve.past.retired⟩
  labelled schedule := by
    have labelled := eve.labelled schedule
    rw [system.run_recent] at labelled
    exact ⟨labelled.sinks, ⟨labelled.registry.slots, labelled.registry.workers⟩, labelled.tasks⟩
  unheard schedule := by
    have unheard := eve.unheard schedule
    rw [system.run_recent] at unheard
    exact (List.append_eq_nil_iff.mp ((sinkHistory_recalling _ _ _).symm.trans unheard)).2
  limited schedule := by
    have limited := eve.limited schedule
    rwa [system.run_recent] at limited

/-- The client is told. -/
theorem told (recent : system.registry.events = []) (origin : System)
    (set : origin.registry.settings = system.registry.settings) :
    ∃ flight, (system.move (.proceed front.length (.ok ()))).flights = front ++ [flight] ∧
      debut.Past front (system.move (.proceed front.length (.ok ()))) ∧
      debut.Stage front launch origin [] (fun _ => False) True system.registry.table.size
        (system.move (.proceed front.length (.ok ()))) flight := by
  obtain ⟨flight, flights, next, reply⟩ := eve.tells
  have member : flight ∈ system.flights := flights ▸ List.mem_append_right _ List.mem_cons_self
  have rights : system.Labelled := eve.labelled []
  have label := rights.tasks flight member (.acknowledge launch) (next ▸ List.mem_cons_self)
  have mirrors := mirrors_told rights eve.client (Nat.le_of_eq eve.workers.symm)
    (Nat.le_of_eq eve.sinks.symm) label eve.kept recent
  have past := eve.past.step (system.step_move (.proceed front.length (.ok ()))) fun _ same => by
    cases same
  have moved : system.move (.proceed front.length (.ok ())) =
      System.advanced front flight (system.registry.acknowledge launch (.ok ())) [] :=
    System.move_latest flights next rfl
  have staff : debut.staff launch.id
      (System.advanced front flight (system.registry.acknowledge launch (.ok ())) []) =
        debut.staff launch.id system := by
    unfold Debut.staff
    rw [System.startIds_advanced flights]
    exact roster_congr rfl
  rw [moved] at past ⊢
  rw [← staff, ← set] at mirrors
  exact ⟨_, rfl, past, .told rfl reply rfl eve.workers.symm rfl mirrors⟩

/-- **What a premiere has come to** when the call has succeeded. -/
theorem published (recent : system.registry.events = []) {late : List Move}
    (still : ∀ other, .begin other ∉ late) {flight : Flight}
    (flights : (system.run (.proceed front.length (.ok ()) :: late)).flights = front ++ [flight])
    (complete : flight.todo = []) {answer : Answer} (reply : flight.reply = some (.ok answer))
    {machine : Machine} (same : launch.machine.mute = machine.mute) :
    (∃ past, past <+: late ∧
      (system.run (.proceed front.length (.ok ()) :: late)).registry.slot? launch.id =
        some ⟨(system.run (.proceed front.length (.ok ()) :: past)).registry.now,
          .running debut.workers⟩) ∧
      (system.run (.proceed front.length (.ok ()) :: late)).registry.table.size =
        system.registry.table.size ∧
      debut.Passed (system.run (.proceed front.length (.ok ()) :: late)) ∧
      (system.always (debut.drawless launch.id) (.proceed front.length (.ok ()) :: late) = true →
        ∃ alone,
          debut.Mirrors launch.id (system.run (.proceed front.length (.ok ()) :: late)) alone ∧
          (System.newcomer system.registry.settings launch.id launch.rom machine).Plays
            (debut.script launch.id system (.proceed front.length (.ok ()) :: late)).reverse
            alone) := by
  obtain ⟨_, before, -⟩ := eve.tells
  obtain ⟨_, first, past, stage⟩ := eve.told recent
    (.newcomer system.registry.settings launch.id launch.rom machine)
    (System.settings_newcomer _ _ _ _)
  obtain ⟨moved, reached, passed, stage⟩ := stage.run past first
    (fun schedule => eve.labelled (.proceed front.length (.ok ()) :: schedule)) eve.client same late
    still
  rw [System.run_cons] at flights
  rw [flights, List.append_cancel_left_eq, List.singleton_inj] at reached
  subst reached
  rw [script, eve.past.stimulus?_proceed before, Option.toList_none, List.nil_append]
  simp only [System.run_cons, System.always, Bool.and_eq_true]
  cases stage with
  | told next => exact absurd (complete.symm.trans next) (List.cons_ne_nil _ _).symm
  | spawned next => exact absurd (complete.symm.trans next) (List.cons_ne_nil _ _).symm
  | published _ _ size slot since mirrored =>
    obtain ⟨past, early, rfl⟩ := since
    exact ⟨⟨past, early, slot⟩, size, passed.passed flights complete, fun plain => mirrored plain.2⟩
  | failed declines => exact absurd reply (declines.reply answer)

/-- **The session is mirrored from the announcement on**, whatever was noted before. -/
theorem mirrored {late later : List Move} (still : ∀ other, .begin other ∉ late)
    (sheltered : debut.Sheltered launch.id system
      (.proceed front.length (.ok ()) :: late ++ later))
    {flight : Flight} (flights : (system.run (.proceed front.length (.ok ()) :: late)).flights =
      front ++ [flight]) (complete : flight.todo = [])
    {answer : Answer} (reply : flight.reply = some (.ok answer))
    {machine : Machine} (same : launch.machine.mute = machine.mute) :
    ∃ alone,
      debut.Mirrors launch.id
        (system.recent.run (.proceed front.length (.ok ()) :: late ++ later)) alone ∧
      (System.newcomer system.registry.settings launch.id launch.rom machine).Plays
        (debut.script launch.id system (.proceed front.length (.ok ()) :: late ++ later)).reverse
        alone := by
  have fresh := eve.recent
  rw [system.run_recent] at flights
  obtain ⟨⟨past, -, slot⟩, -, passed, mirrors⟩ :=
    fresh.published rfl still flights complete reply same
  have lately : debut.Sheltered launch.id system.recent
      (.proceed front.length (.ok ()) :: late ++ later) :=
    @Sheltered.of_recalling _ _ system.recent system.registry.events _ sheltered
  obtain ⟨before, after⟩ := lately.append
  obtain ⟨alone, mirrors, plays⟩ := mirrors before.drawless
  obtain ⟨later_alone, mirrors, -, plays⟩ := mirrors.run passed after
    (fun schedule => by rw [← System.run_append]; exact fresh.labelled _)
    (fun schedule => by rw [← System.run_append]; exact fresh.unheard _)
    ((strangers_of_slot? slot).trans_le (fresh.limited _)) plays
  rw [← System.run_append] at mirrors
  rw [← List.reverse_append, ← script_append,
    ← @script_recalling _ _ system.recent system.registry.events] at plays
  exact ⟨later_alone, mirrors, plays⟩

end Debut.OnEve

/-- **Where a client is told, its program is about to have its debut.** -/
theorem System.Announces.onEve {settings : Settings} {before : List Move} {call : Call}
    {early : List Move} {errand : Errand} {launch : Launch}
    (quiet : ((new settings).run before).isQuiet = true)
    (announces : (((new settings).run before).eve call early).Announces
      ((new settings).run before).flights errand launch) :
    ((((new settings).run before).eve call early).debut launch.sink).OnEve
      ((new settings).run before).flights launch (((new settings).run before).eve call early) := by
  obtain ⟨flight, flights, next, reply⟩ := announces.latest
  have complete (old : Flight) (member : old ∈ ((new settings).run before).flights) :
      old.todo = [] :=
    todo_of_quiet quiet member
  have kept := announces.kept
  rw [eve_eq] at flights kept ⊢
  have last : ((new settings).run (before ++ .begin call :: early)).flights[
      ((new settings).run before).flights.length]? = some flight := by
    rw [flights]
    exact List.getElem?_concat_length
  have labelled := labelled_run settings (before ++ .begin call :: early)
  refine ⟨⟨flight, flights, next, reply⟩, kept, rfl, rfl, rfl, ⟨?_, complete, Nat.le_refl _,
    Nat.le_refl _, fun number worker _ known has => ?_⟩, fun schedule => ?_, fun schedule => ?_,
    fun schedule => ?_⟩
  · show ((new settings).run (before ++ .begin call :: early)).flights.length = _
    rw [flights, List.length_append, List.length_singleton]
  · have inside := (List.getElem?_eq_some_iff.mp (labelled.registry.owner known)).1
    rw [← labelled.sinks] at inside
    have served : worker.sink = launch.sink := by
      rw [Debut.has, Bool.or_eq_true, decide_eq_true_iff, decide_eq_true_iff] at has
      rcases has with client | later
      · exact client
      · exact absurd inside (Nat.not_lt.mpr later)
    exact isFinished_of_carries last next (decide_eq_true rfl) known served
  · rw [← run_append]
    exact labelled_run settings _
  · rw [← run_append]
    exact sinkHistory_fresh settings _
  · rw [← run_append, settings_run]
    exact size_run settings _

end Arcade
