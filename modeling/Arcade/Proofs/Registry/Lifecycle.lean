/-
**The registry behaves like a map of lifecycles.**

When calls are made one after another, all that they tell of the sessions can be told from a map
from names to modes: `Lifecycle.answers` lists what each call may answer, and the map afterwards.
Where it lists several answers, they depend on how much waits in a session's queues, or on when a
session was last active. Each call is followed task by task: what each kind of task does to what the
registry tracks is said once, and the calls are put together from that.

* `Lifecycle.answers`, `Lifecycle.History`: the map;
* `Ensures.of_call`: each call, by itself, answers as the map says and leaves the registry as the
  map says.
-/

import Arcade.Proofs.Registry.Tracks
import Mathlib.Data.List.Sublists

namespace Arcade

/-! ### The map -/

/-- What may be answered to a request, by the mode of the session that it concerns, and the mode
afterwards. -/
def Request.answers (id : SessionId) : Request → Option Mode → List (Reply × Option Mode)
  | .contains, mode => [(.ok (.flag mode.isSome), mode)]
  | .changeRom rom _, mode =>
    if 3584 < rom.bytes.length then [(.error (.machine .programTooLarge), mode)]
    else if mode.isSome then [(.ok .done, some (.running false))]
    else [(.error (.notFound id), none)]
  | .change wish, mode =>
    if wish.isEmpty then [(.ok .done, mode)]
    else match mode with
      | none => [(.error (.notFound id), none)]
      | some .unloaded => [(.error (.notRunning id), mode)]
      | some (.running _) => [(.ok .done, mode), (.error (.paramQueueFull id), mode)]
  | .stop, some _ => [(.ok .done, none)]
  | .unload, some (.running _) => [(.ok .done, some .unloaded)]
  | .pause, some (.running _) => [(.ok .done, some (.running true))]
  | .unpause, some (.running _) => [(.ok .done, some (.running false))]
  | .toggle, some (.running paused) => [(.ok (.flag !paused), some (.running !paused))]
  | .isPaused, some (.running paused) => [(.ok (.flag paused), some (.running paused))]
  | .press _, some (.running paused) =>
    [(.ok .done, some (.running paused)), (.error (.input .full), some (.running paused))]
  | _, some .unloaded => [(.error (.notRunning id), some .unloaded)]
  | _, none => [(.error (.notFound id), none)]

theorem Request.answers_change (id : SessionId) (wish : ParamChange) (mode : Option Mode) :
    Request.answers id (.change wish) mode =
      if wish.isEmpty then [(.ok .done, mode)]
      else match mode with
        | none => [(.error (.notFound id), none)]
        | some .unloaded => [(.error (.notRunning id), mode)]
        | some (.running _) => [(.ok .done, mode), (.error (.paramQueueFull id), mode)] := by
  rcases mode with _ | _ | _ <;> rfl

namespace Lifecycle

/-- The names in a map, in order. -/
def ids (map : Lifecycle) : List SessionId := map.names.map SessionId.mk

/-- A map without some sessions. -/
def without (map : Lifecycle) (gone : List SessionId) : Lifecycle :=
  gone.foldl (fun map id => map.set id none) map

/-- What may be answered to a call, and the map afterwards. -/
def answers (settings : Settings) (map : Lifecycle) : Call → List (Reply × Lifecycle)
  | .start id rom _ =>
    if 3584 < rom.bytes.length then [(.error (.machine .programTooLarge), map)]
    else if map.contains id.name then [(.error (.alreadyExists id), map)]
    else if settings.maxSessions.toNat ≤ map.size then
      [(.error (.capacityReached settings.maxSessions.toNat), map)]
    else [(.ok .done, map.set id (some (.running false)))]
  | .session id request =>
    (request.answers id (map.lookup? id.name)).map fun outcome => (outcome.1, map.set id outcome.2)
  | .sweep => map.ids.sublists.map fun gone => (.ok (.sessions gone), map.without gone)
  | .shutdown => [(.ok .done, NameTable.empty)]
  | .size => [(.ok (.size map.size), map)]
  | .isEmpty => [(.ok (.flag (map.size == 0)), map)]
  | .stats => [(.ok (.stats map.size settings.maxSessions.toNat), map)]
  | .ids => [(.ok (.sessions map.ids), map)]
  | .catalog => [(.ok (.programs settings.roms.names), map)]

/-- The histories of calls and their answers, with the map that they lead to. -/
inductive History (settings : Settings) : List (Call × Reply) → Lifecycle → Prop
  | empty : History settings [] NameTable.empty
  | answered {past map call reply after} (before : History settings past map)
      (listed : (reply, after) ∈ answers settings map call) :
    History settings (past ++ [(call, reply)]) after

theorem view_without (map : Lifecycle) (gone : List SessionId) :
    (map.without gone).view =
      gone.foldl (fun view id => Function.update view id none) map.view := by
  induction gone generalizing map with
  | nil => rfl
  | cons id rest ih =>
    rw [List.foldl_cons, without, List.foldl_cons, ← without, ih, view_set]
    rfl

/-- A map without its sessions is empty. -/
theorem view_without_ids (map : Lifecycle) :
    (map.without map.ids).view = view NameTable.empty := by
  have found : ∀ (gone : List SessionId) (view : SessionId → Option Place) (id : SessionId),
      (gone.foldl (fun view id => Function.update view id none) view) id =
        if id ∈ gone then none else view id := by
    intro gone
    induction gone with
    | nil => exact fun view id => rfl
    | cons first rest ih =>
      intro view id
      rw [List.foldl_cons, ih, Function.update_apply]
      by_cases here : id = first <;> by_cases later : id ∈ rest <;> simp [here, later]
  funext id
  rw [view_without, found]
  split
  · rfl
  · rename_i absent
    have missing : map.lookup? id.name = none := lookup_eq_none_iff.mpr fun member =>
      absent (List.mem_map.mpr ⟨id.name, member, rfl⟩)
    rw [view, missing]
    rfl

end Lifecycle

/-- What a call comes to: an answer that the map lists, and a registry as the map says. -/
def Lands (settings : Settings) (map : Lifecycle) (call : Call) (reply : Reply)
    (registry : Registry) : Prop :=
  ∃ after : Lifecycle, (reply, after) ∈ map.answers settings call ∧
    registry.Tracks settings after.view

/-! ### Tasks -/

section Tasks

open Registry

variable {settings : Settings} {view : SessionId → Option Place} {goal : Reply → Registry → Prop}
  {registry : Registry} {id : SessionId} {later : List Task} {reply : Option Reply}

theorem stable_tracks : Stable fun registry => registry.Tracks settings view :=
  fun _ _ tracks drifts => tracks.drift drifts

theorem Registry.Drifts.state?_eq {after : Registry} (drifts : registry.Drifts after)
    (id : SessionId) : after.state? id = registry.state? id := by
  cases drifts with
  | waited => rfl
  | worked number => exact state?_congr (states_of_table _ (table_work _ _ _)) id

theorem stable_state (id : SessionId) (state : Option SlotState) :
    Stable fun registry => registry.state? id = state :=
  fun _ _ there drifts => (drifts.state?_eq id).trans there

theorem stable_aside (number : WorkerId) :
    Stable fun registry => ∀ id, registry.state? id ≠ some (.running number) :=
  fun _ _ aside drifts id => by
    rw [drifts.state?_eq]
    exact aside id

namespace Ensures

theorem answered {final : Reply} (tracks : registry.Tracks settings view)
    (onward : ∀ after : Registry, after.Tracks settings view →
      Ensures goal after later (some final)) :
    Ensures goal registry (.answer final :: later) reply :=
  .next stable_tracks tracks fun registry _ tracks _ did => by
    cases did
    exact onward registry tracks

/-- No session that is done is in the table, so none is forgotten. -/
theorem reaped (tracks : registry.Tracks settings view)
    (onward : ∀ after : Registry, after.Tracks settings view → Ensures goal after later reply) :
    Ensures goal registry (.reap :: later) reply :=
  .next stable_tracks tracks fun registry _ tracks lasting did => by
    cases did
    simp only [reap, lasting]
    exact onward registry tracks

theorem closed {sink : SinkId} (tracks : registry.Tracks settings view)
    (onward : ∀ after : Registry, after.Tracks settings view → Ensures goal after later reply) :
    Ensures goal registry (.close sink :: later) reply :=
  .next stable_tracks tracks fun registry _ tracks _ did => by
    cases did
    exact onward _ (tracks.deliver sink .closed)

theorem told {sink : SinkId} {reason : String} (tracks : registry.Tracks settings view)
    (onward : ∀ after : Registry, after.Tracks settings view → Ensures goal after later reply) :
    Ensures goal registry (.tell sink reason :: later) reply :=
  .next stable_tracks tracks fun registry _ tracks _ did => by
    cases did
    exact onward _ (tracks.deliver sink (.message (.error reason)))

/-- A worker that was taken out of its slot is stopped and waited for. -/
theorem halted {number : WorkerId} {custody : Custody} (tracks : registry.Tracks settings view)
    (aside : ∀ other, registry.state? other ≠ some (.running number))
    (onward : ∀ (after : Registry) (sink : SinkId), after.Tracks settings view →
      Ensures goal after (Custody.tasks id (some sink) custody ++ later) reply) :
    Ensures goal registry (.halt id number custody :: later) reply := by
  refine .next (stable_tracks.and (stable_aside number)) ⟨tracks, aside⟩
    fun registry _ known _ did => ?_
  cases did
  refine .next (stable_tracks.and (stable_aside number))
    ⟨known.1.modifyWorker known.2 fun _ => rfl, known.2⟩ fun registry progress known _ did => ?_
  cases registry.yields_join did with
  | @ended _ _ _ worker =>
    exact onward _ worker.sink (known.1.modifyWorker known.2 fun _ => rfl)
  | @broken _ _ _ worker _ found broken =>
    exact absurd broken (known.1.whole worker (List.mem_of_getElem? found))
  | watched watches => cases watches

/-- A session is stopped, if it is registered. -/
theorem removed (tracks : registry.Tracks settings view)
    (onward : ∀ after : Registry, after.Tracks settings (Function.update view id none) →
      Ensures goal after later
        (some (if (view id).isSome then .ok .done else .error (.notFound id)))) :
    Ensures goal registry (.remove id :: later) reply := by
  refine .next stable_tracks tracks fun registry _ tracks _ did => ?_
  cases did
  have same := (tracks.fits id).isSome_eq
  cases there : registry.slot? id with
  | none =>
    have gone : view id = none := by
      rw [state?, there] at same
      exact Option.isNone_iff_eq_none.mp (by simpa using same.symm)
    have unchanged : Function.update view id none = view := by
      rw [Function.update_eq_self_iff, gone]
    rw [unchanged, gone] at onward
    simp only [remove, there]
    exact onward registry tracks
  | some slot =>
    have state := registry.state?_of_slot? there
    rw [state, Option.isSome_some] at same
    rw [← same, if_pos rfl] at onward
    have forgotten : (registry.forget id).Tracks settings (Function.update view id none) :=
      tracks.forget
    cases held : slot.state with
    | pending =>
      simp only [remove, there, held]
      exact .answered forgotten onward
    | unloaded sink =>
      simp only [remove, there, held]
      exact .closed forgotten fun after tracks => .answered tracks onward
    | running number =>
      simp only [remove, there, held]
      refine .halted forgotten (fun other elsewhere => ?_) fun after sink tracks => ?_
      · have kept := (registry.state?_forget id other).symm.trans elsewhere
        split at kept
        · cases kept
        · rename_i different
          exact different (tracks.apart other id number kept (held ▸ state))
      · exact .closed tracks fun after tracks => .answered tracks onward

/-- Sessions are stopped one after another. -/
theorem cleared (gone : List SessionId) (tracks : registry.Tracks settings view)
    (onward : ∀ (after : Registry) (reply : Option Reply),
      after.Tracks settings (gone.foldl (fun view id => Function.update view id none) view) →
        Ensures goal after later reply) :
    Ensures goal registry (gone.map Task.remove ++ later) reply := by
  induction gone generalizing registry view reply with
  | nil => exact onward registry reply tracks
  | cons id rest ih => exact .removed tracks fun after tracks => ih tracks onward

/-- A program is announced, gets a thread, and its worker is put into the slot that waits for
it. -/
theorem launched {launch : Launch} (tracks : registry.Tracks settings view)
    (waits : view launch.id = some .pending)
    (onward : ∀ after : Registry,
      after.Tracks settings (Function.update view launch.id (some (.held (.running false)))) →
        Ensures goal after [] (some (.ok .done))) :
    Ensures goal registry [.acknowledge launch] reply := by
  refine .next stable_tracks tracks fun registry _ tracks _ did => ?_
  cases did
  refine .next stable_tracks (tracks.deliver _ _) fun registry _ tracks _ did => ?_
  cases did
  -- the new worker is in no slot yet
  have fresh : ∀ id, registry.state? id ≠ some (.running registry.workers.length) := by
    intro id there
    obtain ⟨-, -, worker, known, -⟩ := tracks.serves_of_running there
    exact Nat.lt_irrefl _ (List.getElem?_eq_some_iff.mp known).1
  have serves : ({ registry with workers := registry.workers ++ [registry.launched launch] } :
      Registry).Serves registry.workers.length false :=
    ⟨registry.launched launch, List.getElem?_concat_length, .inr ⟨rfl, rfl, rfl⟩⟩
  have spawned : ({ registry with workers := registry.workers ++ [registry.launched launch] } :
      Registry).Tracks settings view := tracks.spawned fun broken => by cases broken
  refine .next ((stable_tracks.and (stable_aside registry.workers.length)).and
    fun _ _ serves drifts => Serves.drift serves drifts) ⟨⟨spawned, fresh⟩, serves⟩
    fun registry _ known _ did => ?_
  cases did
  obtain ⟨⟨tracks, aside⟩, serves⟩ := known
  obtain ⟨since, state, found, fits⟩ := tracks.slot?_of_place waits
  cases fits
  simp only [publish, found, abandon]
  refine onward _ (tracks.put (.running serves) fun number same other _ => ?_)
  cases same
  exact aside other

/-- The sink of an unloaded session goes to another program. -/
theorem taken {rom : Rom} {machine : Machine} (tracks : registry.Tracks settings view)
    (held : view id = some (.held .unloaded))
    (onward : ∀ after : Registry,
      after.Tracks settings (Function.update view id (some (.held (.running false)))) →
        Ensures goal after [] (some (.ok .done))) :
    Ensures goal registry [.take id rom machine] reply := by
  refine .next stable_tracks tracks fun registry _ tracks _ did => ?_
  cases did
  obtain ⟨since, state, found, fits⟩ := tracks.slot?_of_place held
  cases fits
  simp only [take, found]
  refine .launched (tracks.putPending _) (Function.update_self _ _ _) fun after tracks => ?_
  rw [Function.update_idem] at tracks
  exact onward after tracks

/-- A running session is unloaded. -/
theorem unloaded {paused : Bool} {purpose : Unloading} (tracks : registry.Tracks settings view)
    (held : view id = some (.held (.running paused)))
    (onward : ∀ after : Registry,
      after.Tracks settings (Function.update view id (some (.held .unloaded))) →
        Ensures goal after (Unloading.tasks id purpose) reply) :
    Ensures goal registry [.unload id purpose] reply := by
  refine .next stable_tracks tracks fun registry _ tracks _ did => ?_
  cases did
  obtain ⟨since, state, found, fits⟩ := tracks.slot?_of_place held
  cases fits
  simp only [Registry.unload, found]
  refine .halted (tracks.putPending _) (fun other elsewhere => ?_) fun after sink tracks => ?_
  · have kept := (registry.state?_putSlot id other _).symm.trans elsewhere
    split at kept
    · cases kept
    · rename_i different
      exact different (tracks.apart other id _ kept (registry.state?_of_slot? found))
  · -- the slot still waits for the sink
    refine .next stable_tracks tracks fun registry _ tracks _ did => ?_
    cases did
    obtain ⟨since, state, found, fits⟩ := tracks.slot?_of_place (Function.update_self _ _ _)
    cases fits
    have parked : (registry.putSlot id ⟨since, .unloaded sink⟩).Tracks settings
        (Function.update view id (some (.held .unloaded))) := by
      rw [← Function.update_idem]
      exact tracks.put .unloaded fun _ same => by cases same
    simp only [park, found, abandon]
    have rest := onward _ parked
    rw [← List.append_nil (Unloading.tasks id purpose)] at rest
    exact rest

/-- A session that is not registered is not unloaded. -/
theorem unknown {purpose : Unloading} (tracks : registry.Tracks settings view)
    (gone : view id = none)
    (onward : ∀ after : Registry, after.Tracks settings view →
      Ensures goal after [] (some (.error (.notFound id)))) :
    Ensures goal registry [.unload id purpose] reply := by
  refine .next stable_tracks tracks fun registry _ tracks _ did => ?_
  cases did
  simp only [Registry.unload, tracks.slot?_of_absent gone]
  exact onward registry tracks

/-- A session that is unloaded already waits for another program. -/
theorem idle {purpose : Unloading} (tracks : registry.Tracks settings view)
    (held : view id = some (.held .unloaded))
    (parked : purpose = .park → ∀ after : Registry, after.Tracks settings view →
      Ensures goal after [] (some (.error (.notRunning id))))
    (replaced : ∀ rom machine, purpose = .replace rom machine → ∀ after : Registry,
      after.Tracks settings view → Ensures goal after [.take id rom machine] reply) :
    Ensures goal registry [.unload id purpose] reply := by
  refine .next stable_tracks tracks fun registry _ tracks _ did => ?_
  cases did
  obtain ⟨since, state, found, fits⟩ := tracks.slot?_of_place held
  cases fits
  cases purpose with
  | park =>
    simp only [Registry.unload, found]
    exact parked rfl registry tracks
  | replace rom machine =>
    simp only [Registry.unload, found]
    exact replaced rom machine rfl registry tracks

/-- A client is told why it is not admitted. -/
theorem rejected {sink : SinkId} {reason : String} {final : Reply}
    (tracks : registry.Tracks settings view)
    (onward : ∀ after : Registry, after.Tracks settings view →
      Ensures goal after [] (some final)) :
    Ensures goal registry [.tell sink reason, .close sink, .answer final] reply :=
  .told tracks fun _ tracks => .closed tracks fun _ tracks => .answered tracks onward

end Ensures

end Tasks

/-! ### Calls -/

theorem Registry.expired_sublist (registry : Registry) : registry.expired.Sublist registry.ids := by
  simp only [expired, ids, NameTable.names, List.map_map]
  induction registry.table.entries with
  | nil => exact .slnil
  | cons entry rest ih =>
    rw [List.filterMap_cons, List.map_cons]
    split
    · exact ih.cons _
    · rename_i id listed
      split at listed
      · cases listed
        exact ih.cons_cons _
      · cases listed

/-- What a queue that is read does not accept, it has no room for. -/
theorem Channel.send_of_connected {α : Type} {channel : Channel α}
    (connected : channel.connected = true) (value : α) :
    (∃ sent, channel.send value = .ok sent ∧ sent.connected = true) ∨
      channel.send value = .error .full := by
  cases outcome : channel.send value with
  | ok sent => exact .inl ⟨sent, rfl, (frame_send outcome).2.trans connected⟩
  | error cause =>
    cases cause with
    | full => exact .inr rfl
    | disconnected =>
      rw [send_eq_disconnected.mp outcome] at connected
      cases connected

theorem Machine.boot_eq_error {timerMode : TimerMode} {seed : UInt64} {program : List UInt8}
    {error : MachineError} : Machine.boot timerMode seed program = .error error ↔
      error = .programTooLarge ∧ 3584 < program.length := Machine.load_eq_error

section Calls

open Registry

variable {settings : Settings} {map : Lifecycle} {registry : Registry} {id : SessionId}
  {request : Request} {call : Call} {final : Reply} {reply : Option Reply}

theorem stable_lands : Stable (Lands settings map call final) :=
  fun _ _ ends drifts => ends.imp fun _ landed => ⟨landed.1, landed.2.drift drifts⟩

namespace Ensures

/-- A call is over that changed no mode. -/
theorem lands (listed : (final, map) ∈ map.answers settings call)
    (tracks : registry.Tracks settings map.view) :
    Ensures (Lands settings map call) registry [] (some final) :=
  .ended stable_lands ⟨map, listed, tracks⟩

/-- A request is over, with the mode of its session as listed. -/
theorem lands_session (mode : Option Mode)
    (listed : (final, mode) ∈ request.answers id (map.lookup? id.name))
    (tracks : registry.Tracks settings (Function.update map.view id (mode.map Place.held))) :
    Ensures (Lands settings map (.session id request)) registry [] (some final) :=
  .ended stable_lands ⟨map.set id mode, List.mem_map.mpr ⟨(final, mode), listed, rfl⟩,
    (map.view_set id mode).symm ▸ tracks⟩

/-- A request is over that left its session alone. -/
theorem lands_same (listed : (final, map.lookup? id.name) ∈
      request.answers id (map.lookup? id.name))
    (tracks : registry.Tracks settings map.view) :
    Ensures (Lands settings map (.session id request)) registry [] (some final) :=
  .lands_session _ listed ((Function.update_eq_self id map.view).symm ▸ tracks)

/-- A worker is steered. -/
theorem steered {steering : Steering} {number : WorkerId} {paused : Bool}
    (tracks : registry.Tracks settings map.view)
    (there : registry.state? id = some (.running number))
    (mode : map.lookup? id.name = some (.running paused))
    (steers : ∀ session, Worker.IsOpen session paused →
      ∃ after, Worker.IsOpen (Registry.steered id session steering).2 after ∧
        ((Registry.steered id session steering).1, some (.running after)) ∈
          request.answers id (some (.running paused))) :
    Ensures (Lands settings map (.session id request)) registry [.steer id number steering]
      reply := by
  refine .next (stable_tracks.and (stable_state id _)) ⟨tracks, there⟩
    fun registry _ known lasting did => ?_
  cases did
  obtain ⟨tracks, there⟩ := known
  obtain ⟨worker, known, isOpen⟩ :=
    tracks.isOpen_of_running lasting there (congrArg (Option.map Place.held) mode)
  obtain ⟨after, opens, listed⟩ := steers worker.session isOpen
  have moved : (registry.modifyWorker number fun other =>
      { other with session := (Registry.steered id worker.session steering).2 }).Tracks settings
      (Function.update map.view id ((some (.running after)).map Place.held)) :=
    tracks.steered there fun other also => ⟨rfl, .inr opens⟩
  simp only [steer, known]
  exact .lands_session _ (by rw [mode]; exact listed) moved

/-- A session is steered, if it runs. -/
theorem sought {steering : Steering} (tracks : registry.Tracks settings map.view)
    (unknown : (.error (.notFound id), none) ∈ request.answers id none)
    (parked : (.error (.notRunning id), some .unloaded) ∈ request.answers id (some .unloaded))
    (steers : ∀ paused session, Worker.IsOpen session paused →
      ∃ after, Worker.IsOpen (Registry.steered id session steering).2 after ∧
        ((Registry.steered id session steering).1, some (.running after)) ∈
          request.answers id (some (.running paused))) :
    Ensures (Lands settings map (.session id request)) registry [.seek id steering] reply := by
  refine .next stable_tracks tracks fun registry _ tracks _ did => ?_
  cases did
  cases mode : map.lookup? id.name with
  | none =>
    simp only [seek, tracks.slot?_of_absent (congrArg (Option.map Place.held) mode)]
    exact .lands_same (by rw [mode]; exact unknown) tracks
  | some held =>
    have place : map.view id = some (.held held) := congrArg (Option.map Place.held) mode
    obtain ⟨since, state, found, fits⟩ := tracks.slot?_of_place place
    cases fits with
    | unloaded =>
      simp only [seek, found]
      exact .lands_same (by rw [mode]; exact parked) tracks
    | running =>
      simp only [seek, found]
      exact .steered tracks (registry.state?_of_slot? found) mode (steers _)

/-- A key event is queued for a worker's machine, if there is room. -/
theorem pressed {event : KeyEvent} {number : WorkerId} {paused : Bool}
    (tracks : registry.Tracks settings map.view)
    (there : registry.state? id = some (.running number))
    (mode : map.lookup? id.name = some (.running paused)) :
    Ensures (Lands settings map (.session id (.press event))) registry [.press id number event]
      reply := by
  refine .next (stable_tracks.and (stable_state id _)) ⟨tracks, there⟩
    fun registry _ known lasting did => ?_
  cases did
  obtain ⟨tracks, there⟩ := known
  obtain ⟨worker, known, gate, params, keys⟩ :=
    tracks.isOpen_of_running lasting there (congrArg (Option.map Place.held) mode)
  rcases Channel.send_of_connected keys event with ⟨accepted, sent, connected⟩ | full
  · have moved : (registry.modifyWorker number fun other =>
        { other with session := { other.session with
          machine := { worker.session.machine with keys := accepted } } }).Tracks settings
        (Function.update map.view id ((some (.running paused)).map Place.held)) := by
      refine tracks.steered there fun other also => ⟨rfl, .inr ?_⟩
      rw [known] at also
      cases also
      exact ⟨gate, params, connected⟩
    simp only [press, known, Console.send, sent, bind, Except.bind, pure, Except.pure]
    exact .lands_session _ (by rw [mode]; exact List.mem_cons_self) moved
  · simp only [press, known, Console.send, full, bind, Except.bind]
    exact .lands_same (by rw [mode]; exact List.mem_cons_of_mem _ List.mem_cons_self) tracks

/-- A key event is passed to a session, if it runs. -/
theorem recorded {event : KeyEvent} (tracks : registry.Tracks settings map.view) :
    Ensures (Lands settings map (.session id (.press event))) registry [.record id event]
      reply := by
  refine .next stable_tracks tracks fun registry _ tracks _ did => ?_
  cases did
  have touched : ∀ since state, registry.slot? id = some ⟨since, state⟩ →
      (registry.putSlot id ⟨registry.now, state⟩).Tracks settings map.view :=
    fun since state found => tracks.frame rfl (registry.states_putSlot_of_same _ found rfl)
      tracks.whole fun _ _ _ _ serves => serves
  cases mode : map.lookup? id.name with
  | none =>
    simp only [record, tracks.slot?_of_absent (congrArg (Option.map Place.held) mode)]
    exact .lands_same (by rw [mode]; exact List.mem_singleton_self _) tracks
  | some held =>
    have place : map.view id = some (.held held) := congrArg (Option.map Place.held) mode
    obtain ⟨since, state, found, fits⟩ := tracks.slot?_of_place place
    cases fits with
    | unloaded =>
      simp only [record, found]
      exact .lands_same (by rw [mode]; exact List.mem_singleton_self _) (touched _ _ found)
    | @running number =>
      simp only [record, found]
      exact .pressed (touched _ _ found) ((registry.state?_putSlot id id _).trans (if_pos rfl)) mode

/-- A session is started, unless its program is too large, or its name is taken, or there is no
room. -/
theorem started {rom : Rom} {seed : UInt64} {sink : SinkId}
    (tracks : registry.Tracks settings map.view) :
    Ensures (Lands settings map (.start id rom seed)) registry [.build id rom seed sink] reply := by
  refine .next stable_tracks tracks fun registry _ tracks _ did => ?_
  cases did
  cases booted : Machine.boot registry.settings.timerMode seed rom.bytes with
  | error cause =>
    obtain ⟨rfl, large⟩ := Machine.boot_eq_error.mp booted
    simp only [build, booted]
    refine .rejected tracks fun after tracks => .lands ?_ tracks
    rw [Lifecycle.answers, if_pos large]
    exact List.mem_singleton_self _
  | ok machine =>
    have fitting : ¬ 3584 < rom.bytes.length := fun large => by
      rw [Machine.boot_eq_error.mpr ⟨rfl, large⟩] at booted
      cases booted
    simp only [build, booted]
    refine .reaped tracks fun after tracks => ?_
    refine .next stable_tracks tracks fun registry _ tracks _ did => ?_
    cases did
    have admission : registry.refusal? id =
        if map.contains id.name then some (.alreadyExists id)
        else if settings.maxSessions.toNat ≤ map.size then
          some (.capacityReached settings.maxSessions.toNat)
        else none := by
      rw [refusal?, tracks.contains_eq, tracks.size_eq, tracks.settings_eq]
    by_cases taken : map.contains id.name = true
    · rw [if_pos taken] at admission
      simp only [reserve, admission]
      refine .rejected tracks fun after tracks => .lands ?_ tracks
      rw [Lifecycle.answers, if_neg fitting, if_pos taken]
      exact List.mem_singleton_self _
    · by_cases full : settings.maxSessions.toNat ≤ map.size
      · rw [if_neg taken, if_pos full] at admission
        simp only [reserve, admission]
        refine .rejected tracks fun after tracks => .lands ?_ tracks
        rw [Lifecycle.answers, if_neg fitting, if_neg taken, if_pos full]
        exact List.mem_singleton_self _
      · rw [if_neg taken, if_neg full] at admission
        simp only [reserve, admission]
        refine .launched (tracks.putPending _) (Function.update_self _ _ _)
          fun after tracks => ?_
        rw [Function.update_idem] at tracks
        refine .ended stable_lands ⟨map.set id (some (.running false)), ?_,
          (map.view_set id _).symm ▸ tracks⟩
        rw [Lifecycle.answers, if_neg fitting, if_neg taken, if_neg full]
        exact List.mem_singleton_self _

/-- A session gets another program, unless the program is too large. -/
theorem replaced {rom : Rom} {seed : UInt64} (tracks : registry.Tracks settings map.view) :
    Ensures (Lands settings map (.session id (.changeRom rom seed))) registry
      [.rebuild id rom seed] reply := by
  refine .next stable_tracks tracks fun registry _ tracks _ did => ?_
  cases did
  cases booted : Machine.boot registry.settings.timerMode seed rom.bytes with
  | error cause =>
    obtain ⟨rfl, large⟩ := Machine.boot_eq_error.mp booted
    simp only [rebuild, booted]
    refine .lands_same ?_ tracks
    rw [Request.answers, if_pos large]
    exact List.mem_singleton_self _
  | ok machine =>
    have fitting : ¬ 3584 < rom.bytes.length := fun large => by
      rw [Machine.boot_eq_error.mpr ⟨rfl, large⟩] at booted
      cases booted
    have lands : ∀ after : Registry, (map.lookup? id.name).isSome = true → after.Tracks settings
        (Function.update map.view id (some (.held (.running false)))) →
        Ensures (Lands settings map (.session id (.changeRom rom seed))) after []
          (some (.ok .done)) := by
      refine fun after there tracks => .lands_session (some (.running false)) ?_ tracks
      rw [Request.answers, if_neg fitting, if_pos there]
      exact List.mem_singleton_self _
    simp only [rebuild, booted]
    cases mode : map.lookup? id.name with
    | none =>
      refine .unknown tracks (congrArg (Option.map Place.held) mode) fun after tracks =>
        .lands_same ?_ tracks
      rw [Request.answers, if_neg fitting, mode]
      exact List.mem_singleton_self _
    | some held =>
      have place : map.view id = some (.held held) := congrArg (Option.map Place.held) mode
      cases held with
      | running paused =>
        refine .unloaded tracks place fun after tracks => ?_
        refine .taken tracks (Function.update_self _ _ _) fun after tracks => ?_
        rw [Function.update_idem] at tracks
        exact lands after (by rw [mode]; rfl) tracks
      | unloaded =>
        refine .idle tracks place (fun same => by cases same) fun _ _ same after tracks => ?_
        cases same
        exact .taken tracks place fun after tracks => lands after (by rw [mode]; rfl) tracks

/-- A session is unloaded, if it runs. -/
theorem parked (tracks : registry.Tracks settings map.view) :
    Ensures (Lands settings map (.session id .unload)) registry [.unload id .park] reply := by
  cases mode : map.lookup? id.name with
  | none =>
    refine .unknown tracks (congrArg (Option.map Place.held) mode) fun after tracks =>
      .lands_same ?_ tracks
    rw [mode]
    exact List.mem_singleton_self _
  | some held =>
    have place : map.view id = some (.held held) := congrArg (Option.map Place.held) mode
    cases held with
    | running paused =>
      refine .unloaded tracks place fun after tracks => .answered tracks fun after tracks =>
        .lands_session (some .unloaded) ?_ tracks
      rw [mode]
      exact List.mem_singleton_self _
    | unloaded =>
      refine .idle tracks place (fun _ after tracks => .lands_same ?_ tracks)
        fun _ _ same => by cases same
      rw [mode]
      exact List.mem_singleton_self _

/-- What is counted is told. -/
theorem counted {tally : Tally} {answer : Answer} (tracks : registry.Tracks settings map.view)
    (same : ∀ registry : Registry, registry.Tracks settings map.view →
      registry.count tally = answer)
    (listed : (.ok answer, map) ∈ map.answers settings call) :
    Ensures (Lands settings map call) registry [.reap, .count tally] reply := by
  refine .reaped tracks fun after tracks => ?_
  refine .next stable_tracks tracks fun registry _ tracks _ did => ?_
  cases did
  simp only [same registry tracks]
  exact .lands listed tracks

/-- **What is asked of one session is answered as the map says.** -/
theorem of_request (tracks : registry.Tracks settings map.view) (id : SessionId)
    (request : Request) :
    Ensures (Lands settings map (.session id request)) registry (request.tasks id) none := by
  cases request with
  | stop =>
    refine .removed tracks fun after tracks => .lands_session none ?_ tracks
    rw [Lifecycle.view, Option.isSome_map]
    cases mode : map.lookup? id.name <;> exact List.mem_singleton_self _
  | unload => exact .parked tracks
  | changeRom rom seed => exact .replaced tracks
  | pause =>
    refine .reaped tracks fun after tracks => .sought tracks (List.mem_singleton_self _)
      (List.mem_singleton_self _) fun paused session isOpen =>
        ⟨true, ⟨?_, isOpen.2⟩, List.mem_singleton_self _⟩
    change session.gate.pause.2 = _
    rw [isOpen.1]
    cases paused <;> rfl
  | unpause =>
    refine .reaped tracks fun after tracks => .sought tracks (List.mem_singleton_self _)
      (List.mem_singleton_self _) fun paused session isOpen =>
        ⟨false, ⟨?_, isOpen.2⟩, List.mem_singleton_self _⟩
    change session.gate.unpause.2 = _
    rw [isOpen.1]
    cases paused <;> rfl
  | toggle =>
    refine .reaped tracks fun after tracks => .sought tracks (List.mem_singleton_self _)
      (List.mem_singleton_self _) fun paused session isOpen => ?_
    have flips : session.gate.toggle = (!paused, .ofPaused !paused) := by
      rw [isOpen.1]
      cases paused <;> rfl
    refine ⟨!paused, ⟨congrArg Prod.snd flips, isOpen.2⟩, ?_⟩
    change (Except.ok (Answer.flag session.gate.toggle.1), _) ∈ _
    rw [flips]
    exact List.mem_singleton_self _
  | isPaused =>
    refine .reaped tracks fun after tracks => .sought tracks (List.mem_singleton_self _)
      (List.mem_singleton_self _) fun paused session isOpen => ⟨paused, isOpen, ?_⟩
    change (Except.ok (Answer.flag session.gate.isPaused), _) ∈ _
    rw [isOpen.1]
    cases paused <;> exact List.mem_singleton_self _
  | change wish =>
    cases empty : wish.isEmpty with
    | true =>
      simp only [Request.tasks, empty]
      refine .answered tracks fun after tracks => .lands_same ?_ tracks
      rw [Request.answers_change, if_pos empty]
      exact List.mem_singleton_self _
    | false =>
      have filled : ¬ wish.isEmpty = true := by simp [empty]
      simp only [Request.tasks, empty]
      refine .reaped tracks fun after tracks => .sought tracks ?_ ?_
        fun paused session isOpen => ⟨paused, ?_⟩
      · rw [Request.answers_change, if_neg filled]
        exact List.mem_singleton_self _
      · rw [Request.answers_change, if_neg filled]
        exact List.mem_singleton_self _
      · rw [Request.answers_change, if_neg filled]
        obtain ⟨gate, params, keys⟩ := isOpen
        rcases Channel.send_of_connected params (.change wish) with
          ⟨accepted, sent, connected⟩ | full
        · simp only [Registry.steered, Session.putParams, sent, bind, Except.bind, pure,
            Except.pure]
          exact ⟨⟨gate, connected, keys⟩, List.mem_cons_self⟩
        · simp only [Registry.steered, Session.putParams, full, bind, Except.bind]
          exact ⟨⟨gate, params, keys⟩, List.mem_cons_of_mem _ List.mem_cons_self⟩
  | press event => exact .reaped tracks fun after tracks => .recorded tracks
  | contains =>
    refine .reaped tracks fun after tracks => ?_
    refine .next stable_tracks tracks fun registry _ tracks _ did => ?_
    cases did
    rw [tracks.contains_eq]
    exact .lands_same (List.mem_singleton_self _) tracks

/-- **Each call is answered as the map says.** -/
theorem of_call (tracks : registry.Tracks settings map.view) (sink : SinkId) (call : Call) :
    Ensures (Lands settings map call) registry (call.tasks sink) none := by
  cases call with
  | start id rom seed => exact .started tracks
  | session id request => exact .of_request tracks id request
  | sweep =>
    refine .next stable_tracks tracks fun registry _ tracks _ did => ?_
    cases did
    have listed : registry.expired.Sublist map.ids := by
      rw [Lifecycle.ids, ← tracks.names_eq]
      exact registry.expired_sublist
    simp only [sweep, proceed, List.append_assoc]
    refine .cleared registry.expired tracks fun after _ tracks => .answered tracks
      fun after tracks => .ended stable_lands ⟨map.without registry.expired, ?_, ?_⟩
    · exact List.mem_map.mpr ⟨_, List.mem_sublists.mpr listed, rfl⟩
    · rw [map.view_without]
      exact tracks
  | shutdown =>
    refine .next stable_tracks tracks fun registry _ tracks _ did => ?_
    cases did
    have emptied : (map.without registry.ids).view = Lifecycle.view NameTable.empty := by
      rw [Registry.ids, tracks.names_eq]
      exact map.view_without_ids
    simp only [shutdown, proceed, List.append_assoc]
    refine .cleared registry.ids tracks fun after _ tracks => .answered tracks
      fun after tracks => .ended stable_lands ⟨NameTable.empty, List.mem_singleton_self _, ?_⟩
    rw [← emptied, map.view_without]
    exact tracks
  | size | isEmpty =>
    refine .counted tracks (fun registry tracks => ?_) (List.mem_singleton_self _)
    rw [count, tracks.size_eq]
  | stats =>
    refine .counted tracks (fun registry tracks => ?_) (List.mem_singleton_self _)
    rw [count, tracks.size_eq, tracks.settings_eq]
  | ids =>
    refine .next stable_tracks tracks fun registry _ tracks _ did => ?_
    cases did
    rw [Registry.ids, tracks.names_eq]
    exact .lands (List.mem_singleton_self _) tracks
  | catalog =>
    refine .next stable_tracks tracks fun registry _ tracks _ did => ?_
    cases did
    rw [tracks.settings_eq]
    exact .lands (List.mem_singleton_self _) tracks

end Ensures

end Calls

end Arcade
