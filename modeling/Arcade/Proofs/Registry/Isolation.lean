/-
**Sessions do not get in each other's way.**

What a session does depends on what is done to it, and on nothing that is done to other sessions.
Whatever the strangers of a schedule do, the system mirrors the one that plays the session's script
(`System.mirrored_run`). So two schedules that do the same to a session lead to the same of it, as
far as a client or a caller can tell (`System.isolated`): to the same answers of the calls about it,
to the same that its clients got, and to the same machines.

The source of random bytes is left out. Nobody who calls chooses its seed, and programs that draw no
bits never tell. Whoever counts down the timers that go by real time is not part of the system, so
these stand still here.
-/

import Arcade.Proofs.Registry.Echo

namespace Arcade

/-! ### What can be told of a session -/

/-- What a slot holds, where workers and sinks are known by their places in a roster. -/
def SlotState.under (roster : Roster) : SlotState → SlotState
  | .running number => .running (roster.workers.idxOf number)
  | .unloaded sink => .unloaded (roster.sinks.idxOf sink)
  | .pending => .pending

/-- What can be told of a session by those who have to do with it. -/
@[ext]
structure View where
  /-- What the session's slot holds, if it is registered. -/
  state : Option SlotState
  /-- The sessions that its workers run or ran, each with what the worker is about to do. -/
  workers : List (Option (Session Console × Phase))
  /-- What its clients got, in the order in which their sinks were handed in. -/
  heard : List (List Delivery)
  /-- The calls about it, with their answers. -/
  replies : List (Call × Option Reply)

/-- What a client can tell of a worker. -/
def Worker.portrait (worker : Worker) : Session Console × Phase :=
  (worker.session.portrait, worker.phase)

/-- What can be told of a session in a system. -/
def System.view (system : System) (id : SessionId) : View where
  state := (system.registry.state? id).map (SlotState.under (system.roster id))
  workers := (system.roster id).workers.map fun number =>
    (system.registry.worker? number).map Worker.portrait
  heard := (system.roster id).sinks.map system.registry.sinkHistory
  replies := (system.flights.filter fun flight => flight.call.concerns id).map fun flight =>
    (flight.call.seedless, flight.reply)

theorem idxOf_of_getElem? {numbers : List Nat} (nodup : numbers.Nodup) {place number : Nat}
    (there : numbers[place]? = some number) : numbers.idxOf number = place := by
  obtain ⟨inside, rfl⟩ := List.getElem?_eq_some_iff.mp there
  exact nodup.idxOf_getElem place inside

theorem SlotState.Mirrors.under_eq {roster : Roster} {state alone : SlotState}
    (same : state.Mirrors roster alone) : state.under roster = alone := by
  cases same with
  | running there => exact congrArg _ (idxOf_of_getElem? roster.workers_nodup there)
  | unloaded there => exact congrArg _ (idxOf_of_getElem? roster.sinks_nodup there)
  | pending => rfl

namespace Registry.Mirrors

variable {id : SessionId} {roster : Roster} {registry alone : Registry}
  (mirrors : registry.Mirrors id roster alone)

include mirrors

theorem state_under :
    (registry.state? id).map (SlotState.under roster) = alone.state? id := by
  rcases mirrors.slot with ⟨gone, also⟩ | ⟨slot, lone, there, also, same⟩
  · rw [Registry.state?_eq_none.mpr gone, Registry.state?_eq_none.mpr also]
    rfl
  · rw [Registry.state?_of_slot? _ there, Registry.state?_of_slot? _ also, Option.map_some,
      same.under_eq]

theorem portraits_eq :
    (roster.workers.map fun number => (registry.worker? number).map Worker.portrait) =
      alone.workers.map fun worker => some worker.portrait := by
  refine List.ext_getElem? fun place => ?_
  rw [List.getElem?_map, List.getElem?_map]
  cases there : roster.workers[place]? with
  | none =>
    have outside : alone.workers[place]? = none := by
      rw [List.getElem?_eq_none_iff, mirrors.staff]
      exact List.getElem?_eq_none_iff.mp there
    rw [outside]
    rfl
  | some number =>
    obtain ⟨worker, single, known, also, alike⟩ := mirrors.workers place number there
    have found : alone.workers[place]? = some single := also
    have same : worker.portrait = single.portrait :=
      Prod.ext alike.alike.session alike.alike.phase
    rw [found, Option.map_some, Option.map_some, known, Option.map_some, same]

theorem histories_eq :
    roster.sinks.map registry.sinkHistory = (List.range alone.sinks).map alone.sinkHistory := by
  refine List.ext_getElem? fun place => ?_
  rw [List.getElem?_map, List.getElem?_map, mirrors.sinks]
  cases there : roster.sinks[place]? with
  | none =>
    rw [List.getElem?_eq_none (by rw [List.length_range]; exact List.getElem?_eq_none_iff.mp there)]
    rfl
  | some sink =>
    have inside := (List.getElem?_eq_some_iff.mp there).1
    rw [List.getElem?_range inside, Option.map_some, Option.map_some,
      mirrors.heard place sink there]

end Registry.Mirrors

/-- What can be told of the only session of a system. -/
def System.soleView (alone : System) (id : SessionId) : View where
  state := alone.registry.state? id
  workers := alone.registry.workers.map fun worker => some worker.portrait
  heard := (List.range alone.registry.sinks).map alone.registry.sinkHistory
  replies := alone.flights.map fun flight => (flight.call, flight.reply)

/-- Calls that are the same but for the seed and have answered the same look the same. -/
theorem map_replies_eq {flights others : List Flight} (same : List.Forall₂
      (fun flight other => flight.call.seedless = other.call ∧ flight.reply = other.reply)
      flights others) :
    (flights.map fun flight => (flight.call.seedless, flight.reply)) =
      others.map fun flight => (flight.call, flight.reply) := by
  rw [← List.forall₂_eq_eq_eq]
  exact List.forall₂_map_left_iff.mpr (List.forall₂_map_right_iff.mpr
    (same.imp fun _ _ alike => Prod.ext alike.1 alike.2))

namespace System

/-- What can be told of a session is read off its mirror. -/
theorem Mirrors.view_eq {id : SessionId} {system alone : System}
    (mirrors : system.Mirrors id alone) : system.view id = alone.soleView id :=
  View.ext mirrors.registry.state_under mirrors.registry.portraits_eq mirrors.registry.histories_eq
    (map_replies_eq (mirrors.flights.imp fun _ _ same => ⟨same.call, same.reply⟩))

/-! ### Schedules -/

theorem Settles.responds {system later after : System} (settles : system.Settles later)
    (responds : later.Responds none after) : system.Settles after :=
  Relation.ReflTransGen.trans settles responds

/-- A system that plays a script plays on. -/
theorem Plays.responds {system later after : System} {script : List Stimulus}
    {stimulus : Option Stimulus} (plays : system.Plays script later)
    (responds : later.Responds stimulus after) :
    system.Plays (stimulus.toList ++ script) after := by
  cases stimulus with
  | none =>
    cases script with
    | nil => exact Settles.responds plays responds
    | cons latest earlier =>
      obtain ⟨between, before, still, settles⟩ := plays
      exact ⟨between, before, still, settles.responds responds⟩
  | some stimulus =>
    obtain ⟨still, rfl⟩ := responds
    exact ⟨later, plays, still, .refl⟩

/-- A sink that is not handed in yet got nothing. -/
theorem sinkHistory_fresh (settings : Settings) (schedule : List Move) :
    ((new settings).run schedule).registry.sinkHistory
      ((new settings).run schedule).registry.sinks = [] := by
  have inside := (labelled_run settings schedule).sinks
  rw [Registry.sinkHistory, sinkEvents_of_fresh settings schedule _ (Nat.le_of_eq inside.symm)]
  rfl

theorem mirrors_new (settings : Settings) (id : SessionId) :
    (new settings).Mirrors id (new settings) where
  registry := by
    refine ⟨rfl, fun _ _ => rfl, .inl ⟨rfl, rfl⟩, rfl, fun _ _ there => ?_, rfl,
      fun _ _ there => ?_⟩
    · cases there
    · cases there
  flights := .nil
  others _ member := by cases member

variable {settings : Settings} {id : SessionId}

/-- What is presupposed of a schedule is so of its beginnings. -/
theorem Sheltered.init {schedule : List Move} {move : Move}
    (sheltered : (new settings).Sheltered id (schedule ++ [move])) :
    (new settings).Sheltered id schedule where
  sequential := by
    have both := sheltered.sequential
    rw [isSequential_append, Bool.and_eq_true] at both
    exact both.1
  targeted := (always_concat sheltered.targeted).1
  admitted := (always_concat sheltered.admitted).1
  lasting := (always_concat sheltered.lasting).1
  paced := (always_concat sheltered.paced).1
  drawless := (always_concat sheltered.drawless).1

/-- **The mirror plays the session's script**, whatever the strangers do. -/
theorem mirrored_run (schedule : List Move) (sheltered : (new settings).Sheltered id schedule) :
    ∃ alone, ((new settings).run schedule).Mirrors id alone ∧
      (new settings).Plays ((new settings).script id schedule).reverse alone := by
  induction schedule using List.reverseRecOn with
  | nil => exact ⟨_, mirrors_new settings id, .refl⟩
  | append_singleton schedule move ih =>
    obtain ⟨alone, mirrors, plays⟩ := ih sheltered.init
    obtain ⟨past, reached⟩ := plays.reached
    have sequential := sheltered.sequential
    rw [isSequential_append, Bool.and_eq_true, isSequential, Bool.and_eq_true] at sequential
    have lasts : ∀ entry ∈ ((new settings).run schedule).registry.finished, entry.1 ≠ id :=
      fun entry listed => of_decide_eq_true
        (List.all_eq_true.mp (always_concat sheltered.lasting).2 entry listed)
    have also : alone.registry.sinkHistory alone.registry.sinks = [] := by
      rw [reached]
      exact sinkHistory_fresh settings past
    obtain ⟨after, mirrored, responds⟩ := mirrors.move (labelled_run settings schedule) lasts
      (fun _ _ => last_of_busy sequential.1) sequential.2.1 (always_concat sheltered.targeted).2
      (always_concat sheltered.admitted).2 (always_concat sheltered.paced).2
      (always_concat sheltered.drawless).2 (sinkHistory_fresh settings schedule) also
    refine ⟨after, ?_, ?_⟩
    · rw [run_concat]
      exact mirrored
    · rw [script_concat, List.reverse_append, reverse_toList]
      exact plays.responds responds

/-- **A session is isolated.** Two schedules that do the same to it lead to the same of it, whatever
is done to others: to the same answers of the calls about it, the same that its clients got, and the
same machines. They are compared where no call about the session is half done, as is so between the
calls. -/
theorem isolated {first second : List Move} (one : (new settings).Sheltered id first)
    (other : (new settings).Sheltered id second)
    (same : (new settings).script id first = (new settings).script id second)
    (rests : ((new settings).run first).rests id = true)
    (also : ((new settings).run second).rests id = true) :
    ((new settings).run first).view id = ((new settings).run second).view id := by
  obtain ⟨alone, mirrors, plays⟩ := mirrored_run first one
  obtain ⟨lone, mirrored, played⟩ := mirrored_run second other
  rw [same] at plays
  obtain rfl := plays.unique played (mirrors.silent?_of_rests rests)
    (mirrored.silent?_of_rests also)
  rw [mirrors.view_eq, mirrored.view_eq]

end System

/-- A program that jumps to itself once in a frame. -/
def idleRom : Rom := { loopRom with cyclesPerFrame := ⟨1, by decide, by decide⟩ }

/-- A session is started, shows a frame, and is paused. -/
def secluded : List Move :=
  let on (flight : Nat) : Move := .proceed flight (.ok ())
  [.begin (.start ⟨"s"⟩ idleRom 0), on 0, on 0, on 0, on 0, on 0, on 0,
    .work 0 .accepts, .work 0 .accepts, .begin (.session ⟨"s"⟩ .pause), on 1, on 1, on 1]

/-- The same is done to it after another session was started, whose client hangs up while it runs.
The call that pauses it finds that the other one has ended, and puts away what is left of it. -/
def accompanied : List Move :=
  let on (flight : Nat) : Move := .proceed flight (.ok ())
  [.begin (.start ⟨"t"⟩ idleRom 1), on 0, on 0, on 0, on 0, on 0, on 0, .work 0 .accepts,
    .begin (.start ⟨"s"⟩ idleRom 2), on 1, on 1, on 1, on 1, on 1, on 1, .work 1 .accepts,
    .work 0 (.answers (.error .closed)), .work 1 .accepts,
    .begin (.session ⟨"s"⟩ .pause), on 2, on 2, on 2, on 2, on 2, on 2]

namespace System

/-- The session does not notice the other one. Its client gets the acknowledgement and the frame
either way. -/
theorem isolated_accompanied :
    ((new Settings.default).run secluded).view ⟨"s"⟩ =
        ((new Settings.default).run accompanied).view ⟨"s"⟩ ∧
      (((new Settings.default).run accompanied).view ⟨"s"⟩).heard.map List.length = [2] := by
  have one : (new Settings.default).Sheltered ⟨"s"⟩ secluded := by decide +kernel
  have other : (new Settings.default).Sheltered ⟨"s"⟩ accompanied := by decide +kernel
  have same : (new Settings.default).script ⟨"s"⟩ secluded =
      (new Settings.default).script ⟨"s"⟩ accompanied := by decide +kernel
  exact ⟨isolated one other same (by decide +kernel) (by decide +kernel), by decide +kernel⟩

end System

end Arcade
