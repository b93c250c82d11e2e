/-
**Another program starts from nothing.**

When a session gets another program, its client keeps its sink and the session keeps its slot.
Nothing else is left of the program before: from the moment where the client is told, what it gets,
what calls on the session answer, and the machines are the same as if the session had just been
started with that program (`System.starts_afresh`). For this both sessions are compared with a
system that has had nothing but the premiere (`Debut.OnEve.mirrored`).

Whoever looks on is a `Showing`: it begins where the client is about to be told, and it counts calls
and workers from there. As between sessions that do not get in each other's way, the source of
random bytes is left out, and so is whoever counts down the timers that go by real time.
-/

import Arcade.Proofs.Registry.Premiere

namespace Arcade

open Registry

/-- A session as it is followed from the announcement of a program on. -/
structure Showing where
  /-- The system where the client is about to be told. -/
  eve : System
  id : SessionId
  /-- The sink of the client. -/
  client : SinkId
  /-- What happens from then on. -/
  onward : List Move

namespace Showing

variable (showing : Showing)

def debut : Debut := showing.eve.debut showing.client

/-- What is presupposed of what happens. -/
def Sheltered : Prop := showing.debut.Sheltered showing.id showing.eve showing.onward

instance : Decidable showing.Sheltered :=
  inferInstanceAs (Decidable (showing.debut.Sheltered showing.id showing.eve showing.onward))

/-- What is done to the session: the calls on it, the answers that they get, and the steps of its
workers. -/
def script : List Stimulus := showing.debut.script showing.id showing.eve showing.onward

/-- The system after all that. -/
def after : System := showing.eve.run showing.onward

/-- Whether each later call on the session has returned then, or waits for somebody. -/
def rests : Bool := showing.debut.rests showing.id showing.after

/-- What can be told of the session then: its slot, its workers with their sessions and machines,
what its clients got since the announcement, and the answers of the later calls. -/
def view : View where
  state := (showing.after.registry.state? showing.id).map
    (SlotState.under (showing.debut.staff showing.id showing.after))
  workers := (showing.debut.staff showing.id showing.after).workers.map fun number =>
    (showing.after.registry.worker? number).map Worker.portrait
  heard := (showing.debut.staff showing.id showing.after).sinks.map
    (showing.after.registry.since showing.debut.events).sinkHistory
  replies := (showing.after.flights.drop showing.debut.calls).map fun flight =>
    (flight.call.seedless, flight.reply)

end Showing

/-- What can be told of a session is read off its mirror. -/
theorem Showing.view_eq {showing : Showing} {alone : System}
    (mirrors : showing.debut.Mirrors showing.id (showing.eve.recent.run showing.onward) alone) :
    showing.view = alone.soleView showing.id := by
  have run : showing.after = (showing.eve.recent.run showing.onward).recalling
      showing.eve.registry.events := showing.eve.run_recent showing.onward
  have since : showing.after.registry.since showing.debut.events =
      (showing.eve.recent.run showing.onward).registry := by
    rw [run]
    exact since_recalling _ _
  rw [Showing.view, since, run]
  exact View.ext mirrors.registry.state_under mirrors.registry.portraits_eq
    mirrors.registry.histories_eq
    (map_replies_eq (mirrors.flights.imp fun _ _ same => ⟨same.call, same.reply⟩))

namespace System

/-- Whether a call that was begun while no other was in progress succeeds, and no other is begun in
the meantime. -/
structure Accepts (settings : Settings) (before : List Move) (call : Call) (during : List Move) :
    Prop where
  quiet : ((new settings).run before).isQuiet = true
  alone : ∀ other, .begin other ∉ during
  succeeded : (((new settings).run before).eve call during).latestReply? = some (.ok .done)

/-- The session of a launch from the moment on where a call tells its client that a program
starts. -/
def showing (system : System) (call : Call) (early onward : List Move) (launch : Launch) :
    Showing where
  eve := system.eve call early
  id := launch.id
  client := launch.sink
  onward := .proceed system.flights.length (.ok ()) :: onward

/-- Whether a showing is of a session whose client a call tells that a program starts, between the
beginning of the call and its return. It goes on with what is left of the call, and with what
happens later. -/
inductive Shows (settings : Settings) (before : List Move) (call : Call)
    (during later : List Move) : Showing → Prop
  | told {early late launch}
      (tells : ((new settings).run before).Tells call during early late launch) :
    Shows settings before call during later
      (((new settings).run before).showing call early (late ++ later) launch)

section Launches

variable {settings : Settings} {before : List Move} {call : Call} {errand : Errand}
  {during early late : List Move} {launch : Launch}
  (accepted : Accepts settings before call during)
  (tells : ((new settings).run before).Tells call during early late launch)

include accepted tells

theorem Tells.still : ∀ other, .begin other ∉ late := fun other member =>
  accepted.alone other (tells.split ▸ List.mem_append_right _ (List.mem_cons_of_mem _ member))

omit accepted in
theorem Tells.run_eq : (((new settings).run before).eve call early).run
      (.proceed ((new settings).run before).flights.length (.ok ()) :: late) =
    ((new settings).run before).eve call during := by
  rw [tells.split, eve, eve, run_append]

variable (launches : ((new settings).run before).errand? call = some errand)

include launches

/-- The call has returned. -/
theorem Tells.returned : ∃ flight, ((((new settings).run before).eve call early).run
      (.proceed ((new settings).run before).flights.length (.ok ()) :: late)).flights =
        ((new settings).run before).flights ++ [flight] ∧
      flight.todo = [] ∧ flight.reply = some (.ok .done) := by
  obtain ⟨flight, flights, -⟩ := comes_run accepted.quiet launches during accepted.alone
  rw [tells.run_eq]
  exact ⟨flight, flights, reply_of_latest flights accepted.succeeded⟩

/-- Its client was told, so its program has its debut. -/
theorem Tells.onEve : ((((new settings).run before).eve call early).debut launch.sink).OnEve
    ((new settings).run before).flights launch (((new settings).run before).eve call early) :=
  (tells.announces accepted.quiet launches accepted.alone).onEve accepted.quiet

/-- **The session is mirrored** as long as it is followed. -/
theorem Tells.mirrored {later : List Move}
    (sheltered : (((new settings).run before).showing call early (late ++ later) launch).Sheltered)
    {machine : Machine} (same : launch.machine.mute = machine.mute) :
    ∃ alone,
      (((new settings).run before).showing call early (late ++ later) launch).view =
        alone.soleView launch.id ∧
      ((((new settings).run before).showing call early (late ++ later) launch).rests = true →
        alone.silent? = none) ∧
      (newcomer settings launch.id launch.rom machine).Plays
        (((new settings).run before).showing call early (late ++ later) launch).script.reverse
        alone := by
  have eve := tells.onEve accepted launches
  obtain ⟨flight, flights, complete, reply⟩ := tells.returned accepted launches
  obtain ⟨alone, mirrors, plays⟩ :=
    eve.mirrored (tells.still accepted) sheltered flights complete reply same
  have set : (((new settings).run before).eve call early).registry.settings = settings := by
    rw [eve_eq, settings_run]
  rw [set] at plays
  refine ⟨alone, Showing.view_eq mirrors, fun rests => mirrors.silent?_of_rests ?_, plays⟩
  have run := (((new settings).run before).eve call early).run_recent
    (.proceed ((new settings).run before).flights.length (.ok ()) :: (late ++ later))
  rw [Showing.rests, Showing.after, showing, run] at rests
  exact rests

/-- **The slot has the new worker**, and it is as if there had been input just now. The table has as
many entries as where the client was told. -/
theorem Tells.restarted :
    (∃ past, past <+: late ∧
      (((new settings).run before).eve call during).registry.slot? launch.id =
        some ⟨((((new settings).run before).eve call early).run
            (.proceed ((new settings).run before).flights.length (.ok ()) :: past)).registry.now,
          .running (((new settings).run before).eve call early).registry.workers.length⟩) ∧
      (((new settings).run before).eve call during).registry.table.size =
        (((new settings).run before).eve call early).registry.table.size := by
  have eve := (tells.onEve accepted launches).recent
  obtain ⟨flight, flights, complete, reply⟩ := tells.returned accepted launches
  rw [run_recent] at flights
  obtain ⟨⟨past, early, slot⟩, size, -⟩ :=
    eve.published rfl (tells.still accepted) flights complete reply rfl
  refine ⟨⟨past, early, ?_⟩, ?_⟩
  · rw [← tells.run_eq, run_recent, run_recent _ (_ :: past)]
    exact slot
  · rw [← tells.run_eq, run_recent]
    exact size

end Launches

/-- Machines of the same program are the same but for the source of random bytes. -/
theorem mute_eq_of_builds {errand other : Errand} {machine single : Machine}
    (builds : errand.Builds machine) (also : other.Builds single)
    (mode : errand.settings = other.settings) (rom : errand.rom = other.rom) :
    machine.mute = single.mute := by
  obtain ⟨seed, booted⟩ := builds
  obtain ⟨initial, again⟩ := also
  have same := (Machine.boot_mute errand.settings.timerMode seed errand.rom.bytes).trans
    (Machine.boot_mute errand.settings.timerMode initial errand.rom.bytes).symm
  rw [booted, mode, rom, again] at same
  exact Except.ok.inj same

/-- The only call there is does a task that leads to others. -/
theorem move_only {registry after : Registry} {call : Call} {task : Task} {todo later : List Task}
    (did : task.step registry (.ok ()) = some (after.proceed todo)) :
    move ⟨registry, [⟨call, task :: later, none, []⟩]⟩ (.proceed 0 (.ok ())) =
      ⟨after, [⟨call, todo ++ later, none, []⟩]⟩ :=
  @move_latest ⟨registry, [⟨call, task :: later, none, []⟩]⟩ [] ⟨call, task :: later, none, []⟩
    task later (.ok ()) (after.proceed todo) rfl rfl did

/-- A session can be started in a registry without sessions, if that admits any and a machine can be
built. -/
theorem accepts_start {settings : Settings} (id : SessionId) {rom : Rom} {seed : UInt64}
    {machine : Machine} (booted : Machine.boot settings.timerMode seed rom.bytes = .ok machine)
    (room : 0 < settings.maxSessions.toNat) :
    Accepts settings [] (.start id rom seed) (List.replicate 6 (.proceed 0 (.ok ()))) := by
  refine ⟨rfl, fun other member => ?_, ?_⟩
  · cases List.eq_of_mem_replicate member
  let empty : Registry := { Registry.new settings with sinks := 1 }
  let launch : Launch := ⟨.start, id, rom, machine, 0⟩
  have builds : Task.step empty (.ok ()) (.build id rom seed 0) =
      some (empty.proceed [.reap, .reserve launch]) := by
    show some (empty.build id rom seed 0) = _
    rw [Registry.build, show empty.settings = settings from rfl, booted]
  have reaps : Task.step empty (.ok ()) .reap = some (empty.proceed []) := rfl
  have admitted : empty.refusal? id = none := by
    have vacant : ¬empty.table.contains id.name = true := Bool.false_ne_true
    have small : ¬empty.settings.maxSessions.toNat ≤ empty.table.size := Nat.not_le_of_lt room
    rw [Registry.refusal?, if_neg vacant, if_neg small]
  have reserves : Task.step empty (.ok ()) (.reserve launch) =
      some ((empty.putSlot id ⟨0, .pending⟩).proceed [.acknowledge launch]) := by
    show some (empty.reserve launch) = _
    rw [Registry.reserve, admitted]
    rfl
  have acknowledges : Task.step (empty.putSlot id ⟨0, .pending⟩) (.ok ()) (.acknowledge launch) =
      some ((Registry.expecting settings id).proceed [.spawn launch]) := rfl
  have spawns : Task.step (Registry.expecting settings id) (.ok ()) (.spawn launch) =
      some (((Registry.expecting settings id).spawn launch (.ok ())).registry.proceed
        [.publish id 0]) := rfl
  have kept : ((Registry.expecting settings id).spawn launch (.ok ())).registry.state? id =
      some .pending := Registry.state?_expecting settings id
  have publishes : move ⟨((Registry.expecting settings id).spawn launch (.ok ())).registry,
      [⟨.start id rom seed, [.publish id 0], none, []⟩]⟩ (.proceed 0 (.ok ())) =
        ⟨_, [⟨.start id rom seed, [], some (.ok .done), []⟩]⟩ :=
    @move_publish ⟨((Registry.expecting settings id).spawn launch (.ok ())).registry,
      [⟨.start id rom seed, [.publish id 0], none, []⟩]⟩ [] _ id 0 rfl rfl kept (.ok ())
  have begun : ((new settings).run []).begin (.start id rom seed) =
    ⟨empty, [⟨.start id rom seed, [.build id rom seed 0], none, []⟩]⟩ := rfl
  simp only [eve, begun, List.replicate, run_cons, move_only builds, move_only reaps,
    move_only reserves, move_only acknowledges, move_only spawns, publishes, List.append_nil,
    List.nil_append]
  rfl

/-- What is a program for some random bytes is one for any, so a session can be started with it. -/
theorem exists_accepts {settings : Settings} {errand : Errand} {machine : Machine}
    (builds : errand.Builds machine) (mode : errand.settings = settings)
    (room : 0 < settings.maxSessions.toNat) (seed : UInt64) :
    ∃ initial, Accepts settings [] (.start errand.id errand.rom seed) initial := by
  subst mode
  obtain ⟨other, booted⟩ := builds
  have same := (Machine.boot_mute errand.settings.timerMode seed errand.rom.bytes).trans
    (Machine.boot_mute errand.settings.timerMode other errand.rom.bytes).symm
  rw [booted] at same
  cases again : Machine.boot errand.settings.timerMode seed errand.rom.bytes with
  | ok => exact ⟨_, accepts_start errand.id again room⟩
  | error =>
    rw [again] at same
    cases same

/-- **A program that replaces another one starts from nothing.** Its client is told, the number of
sessions stays the same, and the session counts as active since then. A session can be started with
the program as well. From the announcement on nobody can tell the one from the other, if they have
the same name, whatever was before in either registry, as long as the same is done to both. -/
theorem starts_afresh {settings : Settings} {before during : List Move} {id : SessionId} {rom : Rom}
    {seed : UInt64} (swap : Accepts settings before (.session id (.changeRom rom seed)) during) :
    (∀ later, ∃ showing,
      Shows settings before (.session id (.changeRom rom seed)) during later showing) ∧
    (∀ other, ∃ initial, Accepts settings [] (.start id rom other) initial) ∧
    ∀ later showing,
      Shows settings before (.session id (.changeRom rom seed)) during later showing →
      showing.id = id ∧ ((new settings).run before).registry.client? id = some showing.client ∧
      (((new settings).run before).eve (.session id (.changeRom rom seed))
        during).registry.table.size = ((new settings).run before).registry.table.size ∧
      (∃ past, past <+: showing.onward ∧
        (((new settings).run before).eve (.session id (.changeRom rom seed))
          during).registry.slot? id = some ⟨(showing.eve.run past).registry.now,
            .running showing.eve.registry.workers.length⟩) ∧
      ∀ {first initial : List Move} {other : UInt64},
        Accepts settings first (.start id rom other) initial → ∀ more rival,
        Shows settings first (.start id rom other) initial more rival →
          showing.Sheltered → rival.Sheltered → showing.script = rival.script →
          showing.rests = true → rival.rests = true → showing.view = rival.view := by
  obtain ⟨early, late, launch, tells⟩ := exists_tells swap.quiet rfl swap.alone swap.succeeded
  refine ⟨fun later => ⟨_, .told tells⟩, ?_, ?_⟩
  · have announced := tells.announces swap.quiet rfl swap.alone
    obtain ⟨⟨_, -, slot⟩, size⟩ := tells.restarted swap rfl
    have occupied := Nat.zero_lt_of_lt (strangers_of_slot? slot)
    rw [size.trans (announced.size _ rfl)] at occupied
    exact exists_accepts announced.launches.builds (settings_run settings before)
      (occupied.trans_le (size_run settings before))
  clear tells
  rintro later _ ⟨tells⟩
  have announced := tells.announces swap.quiet rfl swap.alone
  obtain rfl := announced.launches.id
  obtain ⟨⟨past, early, slot⟩, size⟩ := tells.restarted swap rfl
  refine ⟨rfl, announced.launches.client, size.trans (announced.size _ rfl),
    ⟨_, List.cons_prefix_cons.mpr ⟨rfl, early.trans (List.prefix_append _ _)⟩, slot⟩, ?_⟩
  rintro first initial other start more _ ⟨begins⟩ sheltered safe same rests calm
  have opened := begins.announces start.quiet rfl start.alone
  have named := opened.launches.id
  have mode : ((new settings).run first).registry.settings =
      ((new settings).run before).registry.settings := by rw [settings_run, settings_run]
  have mute := mute_eq_of_builds opened.launches.builds announced.launches.builds mode rfl
  obtain ⟨alone, view, still, plays⟩ := tells.mirrored swap rfl sheltered rfl
  obtain ⟨lone, seen, ends, played⟩ := begins.mirrored start rfl safe mute
  rw [announced.launches.rom, same] at plays
  rw [opened.launches.rom, named] at played
  obtain rfl := plays.unique played (still rests) (ends calm)
  rw [view, seen, named]

end System

/-- The launch that a task announces. -/
def Task.launch? : Task → Option Launch
  | .acknowledge launch => some launch
  | _ => none

theorem exists_launch {task : Option Task} {id : SessionId} {sink : SinkId}
    (announces : (task >>= Task.launch?).map (fun launch => (launch.id, launch.sink)) =
      some (id, sink)) :
    ∃ launch, task = some (.acknowledge launch) ∧ launch.id = id ∧ launch.sink = sink := by
  obtain ⟨launch, found, same⟩ := Option.map_eq_some_iff.mp announces
  obtain ⟨task, rfl, named⟩ := Option.bind_eq_some_iff.mp found
  cases task with
  | acknowledge =>
    cases named
    cases same
    exact ⟨_, rfl, rfl, rfl⟩
  | _ => cases named

/-- A session shows a frame, a key is pressed, and it is paused. -/
def bustle : List Move :=
  let on (flight : Nat) : Move := .proceed flight (.ok ())
  [.begin (.start ⟨"s"⟩ idleRom 7), on 0, on 0, on 0, on 0, on 0, on 0,
    .work 0 .accepts, .work 0 .accepts,
    .begin (.session ⟨"s"⟩ (.press ⟨⟨11, by decide⟩, true⟩)), on 1, on 1, on 1,
    .begin (.session ⟨"s"⟩ .pause), on 2, on 2, on 2]

/-- It is to get another program. These moves lead to where its client is told. -/
def taken : List Move :=
  let on : Move := .proceed 3 (.ok ())
  [on, on, on, .work 0 .accepts, on, on, on]

/-- These lead to the end. The new worker goes on before the slot has it. -/
def given : List Move := [.proceed 3 (.ok ()), .work 1 .accepts, .proceed 3 (.ok ())]

/-- A new session is started. -/
def begun : List Move := List.replicate 3 (.proceed 0 (.ok ()))

/-- Here the slot has its worker first. -/
def opened : List Move := [.proceed 0 (.ok ()), .proceed 0 (.ok ()), .work 0 .accepts]

/-- The worker of a session shows its frame, and then the session is asked whether it is paused. -/
def aired (worker : WorkerId) (flight : Nat) : List Move :=
  let on : Move := .proceed flight (.ok ())
  [.work worker .accepts, .begin (.session ⟨"s"⟩ .isPaused), on, on, on]

/-- The session with the other program. -/
def replaced : Showing where
  eve := ((System.new .default).run bustle).eve (.session ⟨"s"⟩ (.changeRom loopRom 1)) taken
  id := ⟨"s"⟩
  client := 0
  onward := .proceed 3 (.ok ()) :: (given ++ aired 1 4)

/-- The session that is started. -/
def started : Showing where
  eve := (System.new .default).eve (.start ⟨"s"⟩ loopRom 0) begun
  id := ⟨"s"⟩
  client := 0
  onward := .proceed 0 (.ok ()) :: (opened ++ aired 0 1)

namespace System

theorem shows_replaced : Shows .default bustle (.session ⟨"s"⟩ (.changeRom loopRom 1))
    (taken ++ .proceed 3 (.ok ()) :: given) (aired 1 4) replaced := by
  have three : ((new .default).run bustle).flights.length = 3 := by decide +kernel
  have asked : (replaced.eve.task? (.proceed 3 (.ok ())) >>= Task.launch?).map
      (fun launch => (launch.id, launch.sink)) = some (⟨"s"⟩, 0) := by decide +kernel
  obtain ⟨launch, asks, id, sink⟩ := exists_launch asked
  simp only [replaced] at asks
  have tells : ((new .default).run bustle).Tells (.session ⟨"s"⟩ (.changeRom loopRom 1))
      (taken ++ .proceed 3 (.ok ()) :: given) taken given launch :=
    ⟨by rw [three], by rw [three]; exact asks⟩
  have shows : Shows .default bustle _ _ (aired 1 4) _ := .told tells
  rw [showing, three, id, sink] at shows
  exact shows

theorem shows_started : Shows .default [] (.start ⟨"s"⟩ loopRom 0)
    (begun ++ .proceed 0 (.ok ()) :: opened) (aired 0 1) started := by
  have asked : (started.eve.task? (.proceed 0 (.ok ())) >>= Task.launch?).map
      (fun launch => (launch.id, launch.sink)) = some (⟨"s"⟩, 0) := by decide +kernel
  obtain ⟨launch, asks, id, sink⟩ := exists_launch asked
  simp only [started] at asks
  have tells : ((new .default).run []).Tells (.start ⟨"s"⟩ loopRom 0)
      (begun ++ .proceed 0 (.ok ()) :: opened) begun opened launch := ⟨rfl, asks⟩
  have shows : Shows .default [] _ _ (aired 0 1) _ := .told tells
  rw [showing, id, sink] at shows
  exact shows

/-- The session that was paused runs, as one does that was just started: its client gets the
acknowledgement and a frame. -/
theorem starts_afresh_bustle :
    replaced.view = started.view ∧ replaced.view.heard.map List.length = [2] ∧
      replaced.view.replies = [(.session ⟨"s"⟩ .isPaused, some (.ok (.flag false)))] := by
  have swap : Accepts .default bustle (.session ⟨"s"⟩ (.changeRom loopRom 1))
      (taken ++ .proceed 3 (.ok ()) :: given) :=
    ⟨by decide +kernel, fun _ member => by simp [taken, given] at member, by decide +kernel⟩
  have start : Accepts .default [] (.start ⟨"s"⟩ loopRom 0)
      (begun ++ .proceed 0 (.ok ()) :: opened) :=
    ⟨by decide +kernel, fun _ member => by simp [begun, opened] at member, by decide +kernel⟩
  obtain ⟨-, -, -, -, same⟩ := (starts_afresh swap).2.2 (aired 1 4) replaced shows_replaced
  have safe : replaced.Sheltered := by decide +kernel
  have also : started.Sheltered := by decide +kernel
  have script : replaced.script = started.script := by decide +kernel
  exact ⟨same start (aired 0 1) started shows_started safe also script (by decide +kernel)
    (by decide +kernel), by decide +kernel, by decide +kernel⟩

end System

end Arcade
