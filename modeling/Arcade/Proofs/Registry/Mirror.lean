/-
**A session by itself.**

A registry that serves many sessions is compared with one that serves a single session of them. The
workers and sinks of the session have other numbers there, and a `Roster` says which are which. The
registry mirrors the single session (`Registry.Mirrors`) if the session's slot is in the same state,
its workers resemble each other, and its sinks got the same; tasks mirror each other if they are the
same up to the numbers (`Task.Mirrors`).

* `Registry.Mirrors.putSlot`, `.forget`, `.deliver`, `.modifyWorker`, `.hire`: what keeps a registry
  a mirror;
* `Registry.Mirrors.elsewhere`: what is done to others keeps it;
* `Registry.Mirrors.spared`: in particular, what strangers do;
* `Task.Mirrors.done`: tasks that mirror each other do the same.
-/

import Arcade.Proofs.Registry.Apart
import Arcade.Proofs.Registry.Portrait

namespace Arcade

/-- The numbers of a session's workers and sinks, in the order of the numbers that they have in a
registry of the session alone. -/
structure Roster where
  workers : List WorkerId
  sinks : List SinkId
  workers_nodup : workers.Nodup
  sinks_nodup : sinks.Nodup

/-- Whether the workers and sinks of a roster have the same places in a later one. -/
structure Roster.Grows (roster later : Roster) : Prop where
  workers : roster.workers <+: later.workers
  sinks : roster.sinks <+: later.sinks

/-- What two slots hold, up to the numbers. -/
inductive SlotState.Mirrors (roster : Roster) : SlotState → SlotState → Prop
  | running {number alone} (same : roster.workers[alone]? = some number) :
    Mirrors roster (.running number) (.running alone)
  | unloaded {sink alone} (same : roster.sinks[alone]? = some sink) :
    Mirrors roster (.unloaded sink) (.unloaded alone)
  | pending : Mirrors roster .pending .pending

/-- Whether two workers resemble each other and serve the same sink. -/
structure Worker.Mirrors (roster : Roster) (worker alone : Worker) : Prop where
  alike : worker.Resembles alone
  sink : roster.sinks[alone.sink]? = some worker.sink

/-- Whether two launches are the same, up to the numbers. -/
structure Launch.Mirrors (roster : Roster) (launch alone : Launch) : Prop where
  kind : launch.kind = alone.kind
  id : launch.id = alone.id
  rom : launch.rom = alone.rom
  machine : launch.machine.mute = alone.machine.mute
  sink : roster.sinks[alone.sink]? = some launch.sink

/-- Whether a session is unloaded for the same. -/
inductive Unloading.Mirrors : Unloading → Unloading → Prop
  | park : Mirrors .park .park
  | replace {rom machine alone} (same : machine.mute = alone.mute) :
    Mirrors (.replace rom machine) (.replace rom alone)

/-- Whether the same becomes of a sink. -/
inductive Custody.Mirrors : Custody → Custody → Prop
  | close : Mirrors .close .close
  | keep {purpose alone} (same : purpose.Mirrors alone) : Mirrors (.keep purpose) (.keep alone)

/-- Whether two tasks on a session are the same, up to the numbers and the seeds. -/
inductive Task.Mirrors (id : SessionId) (roster : Roster) : Task → Task → Prop
  | build {rom seed other sink alone} (same : roster.sinks[alone]? = some sink) :
    Mirrors id roster (.build id rom seed sink) (.build id rom other alone)
  | rebuild {rom seed other} :
    Mirrors id roster (.rebuild id rom seed) (.rebuild id rom other)
  | reap : Mirrors id roster .reap .reap
  | reserve {launch alone} (mine : launch.id = id) (same : launch.Mirrors roster alone) :
    Mirrors id roster (.reserve launch) (.reserve alone)
  | tell {sink alone reason} (same : roster.sinks[alone]? = some sink) :
    Mirrors id roster (.tell sink reason) (.tell alone reason)
  | close {sink alone} (same : roster.sinks[alone]? = some sink) :
    Mirrors id roster (.close sink) (.close alone)
  | acknowledge {launch alone} (mine : launch.id = id) (same : launch.Mirrors roster alone) :
    Mirrors id roster (.acknowledge launch) (.acknowledge alone)
  | withdraw {kind cause} : Mirrors id roster (.withdraw kind id cause) (.withdraw kind id cause)
  | spawn {launch alone} (mine : launch.id = id) (same : launch.Mirrors roster alone) :
    Mirrors id roster (.spawn launch) (.spawn alone)
  | publish {number alone} (same : roster.workers[alone]? = some number) :
    Mirrors id roster (.publish id number) (.publish id alone)
  | halt {number alone custody other} (same : roster.workers[alone]? = some number)
      (kept : custody.Mirrors other) :
    Mirrors id roster (.halt id number custody) (.halt id alone other)
  | join {number alone custody other} (same : roster.workers[alone]? = some number)
      (kept : custody.Mirrors other) :
    Mirrors id roster (.join id number custody) (.join id alone other)
  | park {sink alone purpose other} (same : roster.sinks[alone]? = some sink)
      (kept : purpose.Mirrors other) :
    Mirrors id roster (.park id (some sink) purpose) (.park id (some alone) other)
  | bereft {purpose other} (kept : purpose.Mirrors other) :
    Mirrors id roster (.park id none purpose) (.park id none other)
  | remove : Mirrors id roster (.remove id) (.remove id)
  | unload {purpose other} (kept : purpose.Mirrors other) :
    Mirrors id roster (.unload id purpose) (.unload id other)
  | take {rom machine alone} (same : machine.mute = alone.mute) :
    Mirrors id roster (.take id rom machine) (.take id rom alone)
  | seek {steering} : Mirrors id roster (.seek id steering) (.seek id steering)
  | steer {number alone steering} (same : roster.workers[alone]? = some number) :
    Mirrors id roster (.steer id number steering) (.steer id alone steering)
  | record {event} : Mirrors id roster (.record id event) (.record id event)
  | press {number alone event} (same : roster.workers[alone]? = some number) :
    Mirrors id roster (.press id number event) (.press id alone event)
  | contains : Mirrors id roster (.contains id) (.contains id)
  | answer {reply} : Mirrors id roster (.answer reply) (.answer reply)

/-- Whether a registry has of a session what a registry of the session alone has. -/
structure Registry.Mirrors (id : SessionId) (roster : Roster) (registry alone : Registry) :
    Prop where
  settings : registry.settings = alone.settings
  lonely : ∀ other, other ≠ id → alone.slot? other = none
  slot : (registry.slot? id = none ∧ alone.slot? id = none) ∨
    ∃ slot lone, registry.slot? id = some slot ∧ alone.slot? id = some lone ∧
      slot.state.Mirrors roster lone.state
  staff : alone.workers.length = roster.workers.length
  workers : ∀ (lone : Nat) (number : WorkerId), roster.workers[lone]? = some number →
    ∃ worker other, registry.worker? number = some worker ∧ alone.worker? lone = some other ∧
      worker.Mirrors roster other
  sinks : alone.sinks = roster.sinks.length
  heard : ∀ (lone : Nat) (sink : SinkId), roster.sinks[lone]? = some sink →
    registry.sinkHistory sink = alone.sinkHistory lone

/-- Whether two tasks led to the same. -/
structure Progress.Mirrors (id : SessionId) (roster : Roster) (progress alone : Progress) :
    Prop where
  registry : progress.registry.Mirrors id roster alone.registry
  todo : List.Forall₂ (Task.Mirrors id roster) progress.todo alone.todo
  reply : progress.reply = alone.reply

/-! ### Rosters that grow -/

theorem getElem?_of_grown {α : Type} {values later : List α} (grown : values <+: later)
    {place : Nat} {value : α} (found : values[place]? = some value) : later[place]? = some value := by
  obtain ⟨more, rfl⟩ := grown
  rw [List.getElem?_append_left (List.getElem?_eq_some_iff.mp found).1, found]

section Growing

variable {id : SessionId} {roster later : Roster} (grows : roster.Grows later)

include grows

theorem SlotState.Mirrors.mono {state alone : SlotState} (same : state.Mirrors roster alone) :
    state.Mirrors later alone := by
  cases same with
  | running there => exact .running (getElem?_of_grown grows.workers there)
  | unloaded there => exact .unloaded (getElem?_of_grown grows.sinks there)
  | pending => exact .pending

theorem Worker.Mirrors.mono {worker alone : Worker} (same : worker.Mirrors roster alone) :
    worker.Mirrors later alone :=
  ⟨same.alike, getElem?_of_grown grows.sinks same.sink⟩

theorem Launch.Mirrors.mono {launch alone : Launch} (same : launch.Mirrors roster alone) :
    launch.Mirrors later alone :=
  ⟨same.kind, same.id, same.rom, same.machine, getElem?_of_grown grows.sinks same.sink⟩

theorem Task.Mirrors.mono {task alone : Task} (same : task.Mirrors id roster alone) :
    task.Mirrors id later alone := by
  have staff : ∀ {lone number : Nat}, roster.workers[lone]? = some number →
      later.workers[lone]? = some number := getElem?_of_grown grows.workers
  have listeners : ∀ {lone sink : Nat}, roster.sinks[lone]? = some sink →
      later.sinks[lone]? = some sink := getElem?_of_grown grows.sinks
  cases same with
  | build there => exact .build (listeners there)
  | rebuild => exact .rebuild
  | reap => exact .reap
  | reserve mine same => exact .reserve mine (same.mono grows)
  | tell there => exact .tell (listeners there)
  | close there => exact .close (listeners there)
  | acknowledge mine same => exact .acknowledge mine (same.mono grows)
  | withdraw => exact .withdraw
  | spawn mine same => exact .spawn mine (same.mono grows)
  | publish there => exact .publish (staff there)
  | halt there kept => exact .halt (staff there) kept
  | join there kept => exact .join (staff there) kept
  | park there kept => exact .park (listeners there) kept
  | bereft kept => exact .bereft kept
  | remove => exact .remove
  | unload kept => exact .unload kept
  | take same => exact .take same
  | seek => exact .seek
  | steer there => exact .steer (staff there)
  | record => exact .record
  | press there => exact .press (staff there)
  | contains => exact .contains
  | answer => exact .answer

end Growing

/-! ### What keeps a registry a mirror -/

theorem getElem?_inj_of_nodup {numbers : List Nat} (nodup : numbers.Nodup) {first second : Nat}
    {one other : Nat} (found : numbers[first]? = some one) (also : numbers[second]? = some other) :
    one = other ↔ first = second := by
  constructor
  · rintro rfl
    have inside := (List.getElem?_eq_some_iff.mp found).1
    exact (List.getElem?_inj inside nodup).mp (found.trans also.symm)
  · rintro rfl
    exact Option.some.inj (found.symm.trans also)

theorem Registry.sinkHistory_deliver (registry : Registry) (held : SinkId) (delivery : Delivery)
    (sink : SinkId) :
    (registry.deliver held delivery).sinkHistory sink =
      registry.sinkHistory sink ++ if held = sink then [delivery] else [] := by
  rw [sinkHistory, sinkEvents_deliver, List.map_append, ← sinkHistory]
  split <;> rfl

theorem Registry.sinkHistory_turn (registry : Registry) (number : WorkerId) (worker after : Worker)
    (deliveries : List Delivery) (sink : SinkId) :
    (registry.turn number worker after deliveries).sinkHistory sink =
      registry.sinkHistory sink ++ if worker.sink = sink then deliveries else [] := by
  rw [sinkHistory, sinkEvents_turn, List.map_append, ← sinkHistory]
  split
  · rw [List.map_map]
    exact congrArg (_ ++ ·) (List.map_id _)
  · rfl

namespace Registry.Mirrors

variable {id : SessionId} {roster : Roster} {registry alone after : Registry}
  (mirrors : registry.Mirrors id roster alone)

include mirrors

theorem putSlot {slot lone : Slot} (same : slot.state.Mirrors roster lone.state) :
    (registry.putSlot id slot).Mirrors id roster (alone.putSlot id lone) where
  settings := mirrors.settings
  lonely other different := by
    rw [slot?_putSlot, if_neg different]
    exact mirrors.lonely other different
  slot := by
    refine .inr ⟨slot, lone, ?_, ?_, same⟩ <;> rw [slot?_putSlot, if_pos rfl]
  staff := mirrors.staff
  workers := mirrors.workers
  sinks := mirrors.sinks
  heard := mirrors.heard

theorem forget : (registry.forget id).Mirrors id roster (alone.forget id) where
  settings := mirrors.settings
  lonely other different := by
    rw [slot?_forget, if_neg different]
    exact mirrors.lonely other different
  slot := by
    refine .inl ⟨?_, ?_⟩ <;> rw [slot?_forget, if_pos rfl]
  staff := mirrors.staff
  workers := mirrors.workers
  sinks := mirrors.sinks
  heard := mirrors.heard

theorem deliver {sink lone : SinkId} (same : roster.sinks[lone]? = some sink)
    (delivery : Delivery) :
    (registry.deliver sink delivery).Mirrors id roster (alone.deliver lone delivery) where
  settings := mirrors.settings
  lonely := mirrors.lonely
  slot := mirrors.slot
  staff := mirrors.staff
  workers := mirrors.workers
  sinks := mirrors.sinks
  heard other number there := by
    rw [sinkHistory_deliver, sinkHistory_deliver, mirrors.heard other number there]
    simp only [getElem?_inj_of_nodup roster.sinks_nodup same there]

theorem abandon {state lone : SlotState} (same : state.Mirrors roster lone) :
    (registry.abandon state).Mirrors id roster (alone.abandon lone) := by
  cases same with
  | unloaded there => exact mirrors.deliver there .dropped
  | running | pending => exact mirrors

theorem vacate : (registry.vacate id).Mirrors id roster (alone.vacate id) := by
  rcases mirrors.slot with ⟨gone, also⟩ | ⟨slot, lone, there, also, same⟩
  · rw [Registry.vacate, Registry.vacate, gone, also]
    exact mirrors
  · rw [registry.vacate_of_slot? there, alone.vacate_of_slot? also]
    exact mirrors.abandon same

theorem isFinished_eq {number : WorkerId} {lone : Nat}
    (same : roster.workers[lone]? = some number) :
    registry.isFinished number = alone.isFinished lone := by
  obtain ⟨worker, single, known, also, alike⟩ := mirrors.workers lone number same
  rw [Registry.isFinished, Registry.isFinished, known, also]
  exact congrArg Phase.isFinished alike.alike.phase

theorem modifyWorker {number lone : WorkerId} (same : roster.workers[lone]? = some number)
    {change other : Worker → Worker}
    (kept : ∀ worker single, registry.worker? number = some worker →
      alone.worker? lone = some single → worker.Mirrors roster single →
        (change worker).Mirrors roster (other single)) :
    (registry.modifyWorker number change).Mirrors id roster (alone.modifyWorker lone other) where
  settings := mirrors.settings
  lonely := mirrors.lonely
  slot := mirrors.slot
  staff := by
    show (alone.workers.modify lone other).length = _
    rw [List.length_modify]
    exact mirrors.staff
  workers place found there := by
    obtain ⟨worker, single, known, also, alike⟩ := mirrors.workers place found there
    by_cases here : lone = place
    · subst here
      obtain rfl := Option.some.inj (same.symm.trans there)
      refine ⟨change worker, other single, ?_, ?_, kept worker single known also alike⟩
      · rw [worker?_modifyWorker_self, known, Option.map_some]
      · rw [worker?_modifyWorker_self, also, Option.map_some]
    · have apart : number ≠ found := fun equal =>
        here ((getElem?_inj_of_nodup roster.workers_nodup same there).mp equal)
      refine ⟨worker, single, ?_, ?_, alike⟩
      · rw [worker?_modifyWorker_ne _ _ apart, known]
      · rw [worker?_modifyWorker_ne _ _ here, also]
  sinks := mirrors.sinks
  heard := mirrors.heard

/-- A worker was set going. -/
theorem hire {later : Roster} (staff : later.workers = roster.workers ++ [registry.workers.length])
    (sinks : later.sinks = roster.sinks) {worker single : Worker}
    (alike : worker.Mirrors later single) :
    { registry with workers := registry.workers ++ [worker] }.Mirrors id later
      { alone with workers := alone.workers ++ [single] } := by
  have grows : roster.Grows later :=
    ⟨staff ▸ List.prefix_append _ _, sinks ▸ List.prefix_rfl⟩
  refine ⟨mirrors.settings, mirrors.lonely, ?_, ?_, fun lone number there => ?_, ?_, ?_⟩
  · rcases mirrors.slot with gone | ⟨slot, lone, there, also, same⟩
    · exact .inl gone
    · exact .inr ⟨slot, lone, there, also, same.mono grows⟩
  · rw [List.length_append, mirrors.staff, staff, List.length_append]
    rfl
  · rw [staff] at there
    by_cases old : lone < roster.workers.length
    · rw [List.getElem?_append_left old] at there
      obtain ⟨first, second, known, also, same⟩ := mirrors.workers lone number there
      refine ⟨first, second, ?_, ?_, same.mono grows⟩
      · exact (List.getElem?_append_left (List.getElem?_eq_some_iff.mp known).1).trans known
      · exact (List.getElem?_append_left (List.getElem?_eq_some_iff.mp also).1).trans also
    · obtain ⟨rfl, rfl⟩ : lone = roster.workers.length ∧ number = registry.workers.length := by
        rw [List.getElem?_append_right (Nat.le_of_not_lt old), List.getElem?_singleton] at there
        split at there
        · rename_i first
          exact ⟨by omega, (Option.some.inj there).symm⟩
        · cases there
      refine ⟨worker, single, List.getElem?_concat_length, ?_, alike⟩
      rw [← mirrors.staff]
      exact List.getElem?_concat_length
  · rw [sinks]
    exact mirrors.sinks
  · rw [sinks]
    exact mirrors.heard

/-- A sink was handed in. -/
theorem enroll {later : Roster} (staff : later.workers = roster.workers)
    (sinks : later.sinks = roster.sinks ++ [registry.sinks])
    (fresh : registry.sinkHistory registry.sinks = []) (also : alone.sinkHistory alone.sinks = []) :
    { registry with sinks := registry.sinks + 1 }.Mirrors id later
      { alone with sinks := alone.sinks + 1 } := by
  have grows : roster.Grows later :=
    ⟨staff ▸ List.prefix_rfl, sinks ▸ List.prefix_append _ _⟩
  refine ⟨mirrors.settings, mirrors.lonely, ?_, ?_, fun lone number there => ?_, ?_,
    fun lone sink there => ?_⟩
  · rcases mirrors.slot with gone | ⟨slot, lone, there, also, same⟩
    · exact .inl gone
    · exact .inr ⟨slot, lone, there, also, same.mono grows⟩
  · rw [staff]
    exact mirrors.staff
  · rw [staff] at there
    obtain ⟨worker, other, known, also, same⟩ := mirrors.workers lone number there
    exact ⟨worker, other, known, also, same.mono grows⟩
  · rw [sinks, List.length_append, ← mirrors.sinks]
    rfl
  · rw [sinks] at there
    by_cases old : lone < roster.sinks.length
    · rw [List.getElem?_append_left old] at there
      exact mirrors.heard lone sink there
    · rw [List.getElem?_append_right (Nat.le_of_not_lt old), List.getElem?_singleton] at there
      split at there
      · rename_i first
        obtain rfl := Option.some.inj there
        obtain rfl : lone = alone.sinks := by
          rw [mirrors.sinks]
          omega
        exact fresh.trans also.symm
      · cases there

/-- **What is done to others keeps a registry a mirror.** -/
theorem elsewhere (settings : after.settings = registry.settings)
    (state : after.state? id = registry.state? id)
    (workers : ∀ number ∈ roster.workers, after.worker? number = registry.worker? number)
    (heard : ∀ sink ∈ roster.sinks, after.sinkHistory sink = registry.sinkHistory sink) :
    after.Mirrors id roster alone where
  settings := settings.trans mirrors.settings
  lonely := mirrors.lonely
  slot := by
    rcases mirrors.slot with ⟨gone, also⟩ | ⟨slot, lone, there, also, same⟩
    · refine .inl ⟨?_, also⟩
      rw [← Registry.state?_eq_none, state, Registry.state?_eq_none]
      exact gone
    · rw [registry.state?_of_slot? there] at state
      obtain ⟨kept, found, held⟩ := Registry.slot?_of_state? state
      exact .inr ⟨kept, lone, found, also, held ▸ same⟩
  staff := mirrors.staff
  workers lone number there := by
    rw [workers number (List.mem_of_getElem? there)]
    exact mirrors.workers lone number there
  sinks := mirrors.sinks
  heard lone sink there :=
    (heard sink (List.mem_of_getElem? there)).trans (mirrors.heard lone sink there)

/-- What strangers do keeps the mirror. -/
theorem spared {ids : List SessionId} (spares : registry.Spares ids id after)
    (workers : roster.workers = places id registry.owners) (sinks : roster.sinks = places id ids) :
    after.Mirrors id roster alone := by
  refine mirrors.elsewhere spares.settings spares.state (fun number mine => ?_) fun sink mine => ?_
  · have belongs := registry.mem_places_owners.mp (workers ▸ mine)
    obtain ⟨worker, known, same⟩ := belongs.exists_worker
    exact (spares.workers number worker known same).trans known.symm
  · exact congrArg (List.map Event.delivery) (spares.events sink (mem_places.mp (sinks ▸ mine)))

/-! ### Tasks do the same -/

theorem proceed {todo others : List Task}
    (same : List.Forall₂ (Task.Mirrors id roster) todo others) :
    (registry.proceed todo).Mirrors id roster (alone.proceed others) :=
  ⟨mirrors, same, rfl⟩

theorem answer (reply : Reply) : (registry.answer reply).Mirrors id roster (alone.answer reply) :=
  ⟨mirrors, .nil, rfl⟩

theorem rejection {sink lone : SinkId} (there : roster.sinks[lone]? = some sink)
    (cause : SessionError) :
    (registry.rejection id sink cause).Mirrors id roster (alone.rejection id lone cause) :=
  ⟨mirrors, .cons (.tell there) (.cons (.close there) (.cons .answer .nil)), rfl⟩

omit mirrors in
/-- Machines that are built with different seeds are the same but for the source of random bytes. -/
theorem boot_cases (mode : TimerMode) (seed other : UInt64) (program : List UInt8) :
    (∃ machine lone, Machine.boot mode seed program = .ok machine ∧
      Machine.boot mode other program = .ok lone ∧ machine.mute = lone.mute) ∨
    ∃ cause, Machine.boot mode seed program = .error cause ∧
      Machine.boot mode other program = .error cause := by
  have same :=
    (Machine.boot_mute mode seed program).trans (Machine.boot_mute mode other program).symm
  cases one : Machine.boot mode seed program with
  | ok machine =>
    cases two : Machine.boot mode other program with
    | ok lone =>
      rw [one, two] at same
      exact .inl ⟨machine, lone, rfl, rfl, Except.ok.inj same⟩
    | error cause =>
      rw [one, two] at same
      cases same
  | error cause =>
    cases two : Machine.boot mode other program with
    | ok lone =>
      rw [one, two] at same
      cases same
    | error also =>
      rw [one, two] at same
      cases same
      exact .inr ⟨cause, rfl, rfl⟩

theorem build {sink lone : SinkId} (there : roster.sinks[lone]? = some sink) (rom : Rom)
    (seed other : UInt64) :
    (registry.build id rom seed sink).Mirrors id roster (alone.build id rom other lone) := by
  unfold Registry.build
  rw [← mirrors.settings]
  rcases boot_cases registry.settings.timerMode seed other rom.bytes with
    ⟨machine, single, built, also, same⟩ | ⟨cause, failed, also⟩
  · simp only [built, also]
    exact mirrors.proceed
      (.cons .reap (.cons (.reserve rfl ⟨rfl, rfl, rfl, same, there⟩) .nil))
  · simp only [failed, also]
    exact mirrors.rejection there _

theorem rebuild (rom : Rom) (seed other : UInt64) :
    (registry.rebuild id rom seed).Mirrors id roster (alone.rebuild id rom other) := by
  unfold Registry.rebuild
  rw [← mirrors.settings]
  rcases boot_cases registry.settings.timerMode seed other rom.bytes with
    ⟨machine, single, built, also, same⟩ | ⟨cause, failed, also⟩
  · simp only [built, also]
    exact mirrors.proceed (.cons (.unload (.replace same)) .nil)
  · simp only [failed, also]
    exact mirrors.answer _

theorem contains_eq : registry.table.contains id.name = alone.table.contains id.name := by
  show (registry.slot? id).isSome = (alone.slot? id).isSome
  rcases mirrors.slot with ⟨gone, also⟩ | ⟨slot, lone, there, also, -⟩
  · rw [gone, also]
  · rw [there, also]
    rfl

/-- Nobody else is in the table. -/
theorem size_eq_zero (gone : alone.table.contains id.name = false) : alone.table.size = 0 := by
  have none : alone.table.entries = [] := by
    rw [List.eq_nil_iff_forall_not_mem]
    rintro ⟨name, slot⟩ member
    have found := alone.mem_entries.mp member
    by_cases same : (⟨name⟩ : SessionId) = id
    · have missing : (alone.slot? id).isSome = false := gone
      rw [← same, found] at missing
      cases missing
    · rw [mirrors.lonely _ same] at found
      cases found
  rw [NameTable.size, none]
  rfl

/-- A session is admitted by itself if it is admitted among others. -/
theorem refusal?_eq (room : ∀ limit, registry.refusal? id ≠ some (.capacityReached limit)) :
    alone.refusal? id = registry.refusal? id := by
  unfold refusal? at room ⊢
  rw [← mirrors.contains_eq, ← mirrors.settings]
  cases listed : registry.table.contains id.name with
  | true => rfl
  | false =>
    have empty := mirrors.size_eq_zero (mirrors.contains_eq.symm.trans listed)
    simp only [listed, Bool.false_eq_true, if_false] at room ⊢
    have space : ¬ registry.settings.maxSessions.toNat ≤ registry.table.size := by
      intro full
      exact room _ (if_pos full)
    rw [if_neg space, if_neg (by omega)]

theorem reserve {launch lone : Launch} (mine : launch.id = id) (same : launch.Mirrors roster lone)
    (room : ∀ limit, registry.refusal? id ≠ some (.capacityReached limit)) :
    (registry.reserve launch).Mirrors id roster (alone.reserve lone) := by
  unfold Registry.reserve
  have name : lone.id = id := same.id ▸ mine
  rw [mine, name, mirrors.refusal?_eq room]
  split
  · exact mirrors.rejection same.sink _
  · exact (mirrors.putSlot .pending).proceed (.cons (.acknowledge mine same) .nil)

theorem tell {sink lone : SinkId} (there : roster.sinks[lone]? = some sink) (reason : String)
    (reply : Except SinkError Unit) :
    ((registry.tell sink reason reply).proceed []).Mirrors id roster
      ((alone.tell lone reason reply).proceed []) := by
  cases reply with
  | ok => exact (mirrors.deliver there _).proceed .nil
  | error => exact mirrors.proceed .nil

theorem acknowledge {launch lone : Launch} (mine : launch.id = id)
    (same : launch.Mirrors roster lone) (reply : Except SinkError Unit) :
    (registry.acknowledge launch reply).Mirrors id roster (alone.acknowledge lone reply) := by
  have name : lone.id = id := same.id ▸ mine
  cases reply with
  | ok =>
    simp only [Registry.acknowledge, mine, name]
    exact (mirrors.deliver same.sink _).proceed (.cons (.spawn mine same) .nil)
  | error =>
    simp only [Registry.acknowledge, mine, name, same.kind]
    exact (mirrors.deliver same.sink _).proceed (.cons .withdraw .nil)

theorem withdraw (kind : LaunchKind) (cause : SessionError) :
    (registry.withdraw kind id cause).Mirrors id roster (alone.withdraw kind id cause) :=
  ⟨mirrors.vacate.forget, .nil, rfl⟩

theorem publish {number lone : WorkerId} (there : roster.workers[lone]? = some number) :
    (registry.publish id number).Mirrors id roster (alone.publish id lone) := by
  unfold Registry.publish
  rcases mirrors.slot with ⟨gone, also⟩ | ⟨slot, single, found, also, same⟩
  · simp only [gone, also]
    exact mirrors.proceed (.cons (.halt there .close) (.cons .answer .nil))
  · simp only [found, also]
    exact ((mirrors.abandon same).putSlot (.running there)).answer _

theorem halt {number lone : WorkerId} (there : roster.workers[lone]? = some number)
    {custody other : Custody} (kept : custody.Mirrors other) :
    (registry.halt id number custody).Mirrors id roster (alone.halt id lone other) := by
  refine (mirrors.modifyWorker there fun worker single _ _ alike => ?_).proceed
    (.cons (.join there kept) .nil)
  exact ⟨alike.alike.of_session Session.portrait_stop, alike.sink⟩

omit mirrors in
/-- The tasks after a worker's end are the same. -/
theorem custody (id : SessionId) {sink lone : SinkId} (there : roster.sinks[lone]? = some sink)
    {custody other : Custody} (kept : custody.Mirrors other) :
    List.Forall₂ (Task.Mirrors id roster) (Custody.tasks id (some sink) custody)
        (Custody.tasks id (some lone) other) ∧
      List.Forall₂ (Task.Mirrors id roster) (Custody.tasks id none custody)
        (Custody.tasks id none other) := by
  cases kept with
  | close => exact ⟨.cons (.close there) .nil, .nil⟩
  | keep same => exact ⟨.cons (.park there same) .nil, .cons (.bereft same) .nil⟩

theorem join {number lone : WorkerId} (there : roster.workers[lone]? = some number)
    {custody other : Custody} (kept : custody.Mirrors other) {progress : Progress}
    (did : registry.join id number custody = some progress) :
    ∃ single, alone.join id lone other = some single ∧ progress.Mirrors id roster single := by
  obtain ⟨worker, single, known, also, alike⟩ := mirrors.workers lone number there
  have joined : (registry.modifyWorker number fun worker =>
      { worker with joined := true }).Mirrors id roster
        (alone.modifyWorker lone fun worker => { worker with joined := true }) :=
    mirrors.modifyWorker there fun _ _ _ _ same =>
      ⟨⟨same.alike.session, same.alike.phase⟩, same.sink⟩
  have after := Mirrors.custody id alike.sink kept
  have phase := alike.alike.phase
  unfold Registry.join at did ⊢
  simp only [known, also, ← phase] at did ⊢
  cases turn : worker.phase with
  | ended =>
    simp only [turn] at did ⊢
    cases did
    exact ⟨_, rfl, joined.proceed after.1⟩
  | broken =>
    simp only [turn] at did ⊢
    cases did
    exact ⟨_, rfl, joined, after.2, rfl⟩
  | ready | offering | reporting =>
    simp only [turn] at did
    cases did

omit mirrors in
theorem unloading {purpose other : Unloading} (kept : purpose.Mirrors other) :
    List.Forall₂ (Task.Mirrors id roster) (Unloading.tasks id purpose)
      (Unloading.tasks id other) := by
  cases kept with
  | park => exact .cons .answer .nil
  | replace same => exact .cons (.take same) .nil

theorem park {sink lone : SinkId} (there : roster.sinks[lone]? = some sink)
    {purpose other : Unloading} (kept : purpose.Mirrors other) :
    (registry.park id (some sink) purpose).Mirrors id roster
      (alone.park id (some lone) other) := by
  unfold Registry.park
  rcases mirrors.slot with ⟨gone, also⟩ | ⟨slot, single, found, also, same⟩
  · simp only [gone, also]
    exact mirrors.proceed (.cons (.close there) (unloading kept))
  · simp only [found, also]
    exact ((mirrors.abandon same).putSlot (.unloaded there)).proceed (unloading kept)

theorem bereft {purpose other : Unloading} (kept : purpose.Mirrors other) :
    (registry.park id none purpose).Mirrors id roster (alone.park id none other) := by
  unfold Registry.park
  rcases mirrors.slot with ⟨gone, also⟩ | ⟨slot, single, found, also, same⟩
  · simp only [gone, also]
    exact mirrors.proceed (unloading kept)
  · simp only [found, also]
    exact (mirrors.abandon same).forget.answer _

theorem remove : (registry.remove id).Mirrors id roster (alone.remove id) := by
  unfold Registry.remove
  rcases mirrors.slot with ⟨gone, also⟩ | ⟨slot, single, found, also, same⟩
  · simp only [gone, also]
    exact mirrors.answer _
  · simp only [found, also]
    refine mirrors.forget.proceed ?_
    generalize slot.state = state at same
    generalize single.state = other at same
    cases same with
    | running there => exact .cons (.halt there .close) (.cons .answer .nil)
    | unloaded there => exact .cons (.close there) (.cons .answer .nil)
    | pending => exact .cons .answer .nil

theorem unload {purpose other : Unloading} (kept : purpose.Mirrors other) :
    (registry.unload id purpose).Mirrors id roster (alone.unload id other) := by
  unfold Registry.unload
  rcases mirrors.slot with ⟨gone, also⟩ | ⟨⟨_, state⟩, ⟨_, lone⟩, found, also, same⟩
  · simp only [gone, also]
    exact mirrors.answer _
  · simp only [found, also]
    cases same with
    | running there =>
      exact (mirrors.putSlot .pending).proceed (.cons (.halt there (.keep kept)) .nil)
    | unloaded | pending =>
      cases kept with
      | park => exact mirrors.answer _
      | replace same => exact mirrors.proceed (.cons (.take same) .nil)

theorem take {machine single : Machine} (same : machine.mute = single.mute) (rom : Rom) :
    (registry.take id rom machine).Mirrors id roster (alone.take id rom single) := by
  unfold Registry.take
  rcases mirrors.slot with ⟨gone, also⟩ | ⟨⟨_, state⟩, ⟨_, lone⟩, found, also, held⟩
  · simp only [gone, also]
    exact mirrors.answer _
  · simp only [found, also]
    cases held with
    | unloaded there =>
      exact (mirrors.putSlot .pending).proceed
        (.cons (.acknowledge rfl ⟨rfl, rfl, rfl, same, there⟩) .nil)
    | running | pending => exact mirrors.answer _

theorem seek (steering : Steering) :
    (registry.seek id steering).Mirrors id roster (alone.seek id steering) := by
  unfold Registry.seek
  rcases mirrors.slot with ⟨gone, also⟩ | ⟨⟨_, state⟩, ⟨_, lone⟩, found, also, held⟩
  · simp only [gone, also]
    exact mirrors.answer _
  · simp only [found, also]
    cases held with
    | running there => exact mirrors.proceed (.cons (.steer there) .nil)
    | unloaded | pending => exact mirrors.answer _

theorem steer {number lone : WorkerId} (there : roster.workers[lone]? = some number)
    (steering : Steering) :
    (registry.steer id number steering).Mirrors id roster (alone.steer id lone steering) := by
  obtain ⟨worker, single, known, also, alike⟩ := mirrors.workers lone number there
  obtain ⟨reply, session⟩ := worker.session.portrait_steered id steering
  obtain ⟨answer, other⟩ := single.session.portrait_steered id steering
  rw [alike.alike.session] at reply session
  unfold Registry.steer
  simp only [known, also]
  rw [reply, ← answer]
  refine (mirrors.modifyWorker there fun _ _ _ _ same => ?_).answer _
  exact ⟨⟨session.trans other.symm, same.alike.phase⟩, same.sink⟩

theorem record (event : KeyEvent) :
    (registry.record id event).Mirrors id roster (alone.record id event) := by
  unfold Registry.record
  rcases mirrors.slot with ⟨gone, also⟩ | ⟨⟨_, state⟩, ⟨_, lone⟩, found, also, held⟩
  · simp only [gone, also]
    exact mirrors.answer _
  · simp only [found, also]
    cases held with
    | running there =>
      exact (mirrors.putSlot (.running there)).proceed (.cons (.press there) .nil)
    | unloaded there => exact (mirrors.putSlot (.unloaded there)).answer _
    | pending => exact (mirrors.putSlot .pending).answer _

theorem press {number lone : WorkerId} (there : roster.workers[lone]? = some number)
    (event : KeyEvent) :
    (registry.press id number event).Mirrors id roster (alone.press id lone event) := by
  obtain ⟨worker, single, known, also, alike⟩ := mirrors.workers lone number there
  have machines : worker.session.machine.mute = single.session.machine.mute :=
    (congrArg Session.machine alike.alike.session :)
  have sent := worker.session.machine.mute_send event
  have other := single.session.machine.mute_send event
  rw [machines, ← other] at sent
  unfold Registry.press
  simp only [known, also]
  generalize worker.session.machine.send event = one at sent
  generalize single.session.machine.send event = two at sent
  cases one with
  | error cause =>
    cases two with
    | ok => cases sent
    | error also =>
      cases sent
      exact ⟨mirrors, .nil, rfl⟩
  | ok machine =>
    cases two with
    | error => cases sent
    | ok also =>
      have pressed : machine.mute = also.mute := Except.ok.inj sent
      refine (mirrors.modifyWorker there fun first second _ _ same => ?_).answer _
      refine ⟨⟨?_, same.alike.phase⟩, same.sink⟩
      show ({ first.session.portrait with machine := machine.mute } : Session Console) =
        { second.session.portrait with machine := also.mute }
      rw [same.alike.session, pressed]

theorem launched {launch lone : Launch} (same : launch.Mirrors roster lone) :
    (registry.launched launch).Mirrors roster (alone.launched lone) := by
  refine ⟨⟨?_, rfl⟩, same.sink⟩
  have muted : launch.machine.mute = lone.machine.mute := same.machine
  simp only [Registry.launched, same.id, same.rom, Worker.new, Session.new, Session.portrait,
    Console.new, Console.mute, muted, mirrors.settings]

/-- A thread is given, or it is not. -/
theorem spawn {launch lone : Launch} (mine : launch.id = id) (same : launch.Mirrors roster lone)
    {later : Roster} (staff : later.workers = roster.workers ++ [registry.workers.length])
    (sinks : later.sinks = roster.sinks) :
    (registry.spawn launch (.ok ())).Mirrors id later (alone.spawn lone (.ok ())) := by
  have name : lone.id = id := same.id ▸ mine
  have grows : roster.Grows later :=
    ⟨staff ▸ List.prefix_append _ _, sinks ▸ List.prefix_rfl⟩
  unfold Registry.spawn
  rw [mine, name]
  refine (mirrors.hire staff sinks ((mirrors.launched same).mono grows)).proceed
    (.cons (.publish ?_) .nil)
  rw [staff, mirrors.staff]
  exact List.getElem?_concat_length

theorem unspawned {launch lone : Launch} (mine : launch.id = id)
    (same : launch.Mirrors roster lone) (cause : SinkError) :
    (registry.spawn launch (.error cause)).Mirrors id roster (alone.spawn lone (.error cause)) := by
  have name : lone.id = id := same.id ▸ mine
  unfold Registry.spawn
  rw [mine, name, same.kind]
  exact (mirrors.deliver same.sink _).proceed (.cons .withdraw .nil)

/-- Workers that mirror each other make turns that lead to such workers again, and deliver the
same. -/
theorem turn {number : WorkerId} {lone : Nat} (there : roster.workers[lone]? = some number)
    {worker single after other : Worker} (known : registry.worker? number = some worker)
    (also : alone.worker? lone = some single) (before : worker.Mirrors roster single)
    (next : after.Mirrors roster other) (deliveries : List Delivery) :
    (registry.turn number worker after deliveries).Mirrors id roster
      (alone.turn lone single other deliveries) where
  settings := mirrors.settings
  lonely := mirrors.lonely
  slot := mirrors.slot
  staff := by
    show (alone.workers.set lone other).length = _
    rw [List.length_set]
    exact mirrors.staff
  workers place found here := by
    by_cases same : lone = place
    · subst same
      obtain rfl := Option.some.inj (there.symm.trans here)
      exact ⟨after, other, List.getElem?_set_self (List.getElem?_eq_some_iff.mp known).1,
        List.getElem?_set_self (List.getElem?_eq_some_iff.mp also).1, next⟩
    · have apart : number ≠ found := fun equal =>
        same ((getElem?_inj_of_nodup roster.workers_nodup there here).mp equal)
      obtain ⟨first, second, one, two, alike⟩ := mirrors.workers place found here
      exact ⟨first, second, (List.getElem?_set_ne apart).trans one,
        (List.getElem?_set_ne same).trans two, alike⟩
  sinks := mirrors.sinks
  heard place sink here := by
    rw [sinkHistory_turn, sinkHistory_turn, mirrors.heard place sink here]
    simp only [getElem?_inj_of_nodup roster.sinks_nodup before.sink here]

/-- **A step of the session's worker keeps the mirror**, if it draws no random bits. -/
theorem work {number : WorkerId} {lone : Nat} (there : roster.workers[lone]? = some number)
    {worker : Worker} (known : registry.worker? number = some worker)
    (still : worker.draws = false) (reaction : Reaction) :
    (registry.work number reaction).Mirrors id roster (alone.work lone reaction) := by
  obtain ⟨_, single, found, also, alike⟩ := mirrors.workers lone number there
  obtain rfl := Option.some.inj (known.symm.trans found)
  obtain ⟨stepped, delivered⟩ := alike.alike.step still registry.now alone.now reaction
  have turned : registry.work number reaction =
      registry.turn number worker (worker.step registry.now reaction).worker
        (worker.step registry.now reaction).deliveries := by
    rw [Registry.work, known]
    rfl
  have other : alone.work lone reaction =
      alone.turn lone single (single.step alone.now reaction).worker
        (single.step alone.now reaction).deliveries := by
    rw [Registry.work, also]
    rfl
  have served : (worker.step registry.now reaction).worker.sink = worker.sink :=
    congrArg Standing.sink (worker.turn_step registry.now reaction).standing_eq
  have also_served : (single.step alone.now reaction).worker.sink = single.sink :=
    congrArg Standing.sink (single.turn_step alone.now reaction).standing_eq
  rw [turned, other, ← delivered]
  refine mirrors.turn there known also alike ⟨stepped, ?_⟩ _
  rw [served, also_served]
  exact alike.sink

/-- The session alone has ended only if it has among the others. -/
theorem finished_eq_nil (lasts : ∀ entry ∈ registry.finished, entry.1 ≠ id) :
    alone.finished = [] := by
  rw [List.eq_nil_iff_forall_not_mem]
  rintro ⟨other, lone⟩ listed
  obtain ⟨single, found, running, complete⟩ := alone.mem_finished.mp listed
  obtain rfl : other = id := by
    by_contra different
    rw [mirrors.lonely other different] at found
    cases found
  rcases mirrors.slot with ⟨-, gone⟩ | ⟨slot, kept, there, also, same⟩
  · rw [gone] at found
    cases found
  · obtain rfl := Option.some.inj (also.symm.trans found)
    rw [running] at same
    generalize held : slot.state = state at same
    cases same with
    | running staff =>
      rw [← mirrors.isFinished_eq staff] at complete
      exact lasts _ (registry.mem_finished.mpr ⟨slot, there, held, complete⟩) rfl

end Registry.Mirrors

/-- The workers and sinks of a session in a registry, where the sinks are known by the names that
they were handed in with. -/
def Registry.roster (registry : Registry) (ids : List SessionId) (id : SessionId) : Roster :=
  ⟨places id registry.owners, places id ids, nodup_places _ _, nodup_places _ _⟩

theorem Registry.roster_congr {registry after : Registry} {ids : List SessionId} {id : SessionId}
    (same : places id after.owners = places id registry.owners) :
    after.roster ids id = registry.roster ids id := by
  simp only [roster, same]

theorem Registry.owners_spawn (registry : Registry) (launch : Launch) :
    (registry.spawn launch (.ok ())).registry.owners = registry.owners ++ [launch.id] := by
  unfold spawn proceed owners
  rw [registry.standings_append, List.map_append]
  rfl

theorem Registry.places_spawn (registry : Registry) (launch : Launch) :
    places launch.id (registry.spawn launch (.ok ())).registry.owners =
      places launch.id registry.owners ++ [registry.workers.length] := by
  rw [owners_spawn, places_concat, if_pos rfl, owners, List.length_map, standings, List.length_map]

section Done

variable {id : SessionId} {registry alone : Registry} {answer : Except SinkError Unit}
  {task single : Task} {progress : Progress}

/-- Tasks that mirror each other and set no worker going do the same. -/
theorem Task.Mirrors.done_still {roster : Roster} (same : task.Mirrors id roster single)
    (mirrors : registry.Mirrors id roster alone) (other : task ≠ .reap)
    (still : ∀ launch, task ≠ .spawn launch)
    (room : ∀ launch limit, task = .reserve launch →
      registry.refusal? id ≠ some (.capacityReached limit))
    (did : task.step registry answer = some progress) :
    ∃ lone, single.step alone answer = some lone ∧ progress.Mirrors id roster lone := by
  cases same with
  | reap => exact absurd rfl other
  | spawn => exact absurd rfl (still _)
  | join there kept => exact mirrors.join there kept did
  | build there => exact ⟨_, rfl, Option.some.inj did ▸ mirrors.build there _ _ _⟩
  | rebuild => exact ⟨_, rfl, Option.some.inj did ▸ mirrors.rebuild _ _ _⟩
  | reserve mine same =>
    exact ⟨_, rfl, Option.some.inj did ▸ mirrors.reserve mine same fun limit => room _ limit rfl⟩
  | tell there => exact ⟨_, rfl, Option.some.inj did ▸ mirrors.tell there _ _⟩
  | close there => exact ⟨_, rfl, Option.some.inj did ▸ (mirrors.deliver there _).proceed .nil⟩
  | acknowledge mine same =>
    exact ⟨_, rfl, Option.some.inj did ▸ mirrors.acknowledge mine same _⟩
  | withdraw => exact ⟨_, rfl, Option.some.inj did ▸ mirrors.withdraw _ _⟩
  | publish there => exact ⟨_, rfl, Option.some.inj did ▸ mirrors.publish there⟩
  | halt there kept => exact ⟨_, rfl, Option.some.inj did ▸ mirrors.halt there kept⟩
  | park there kept => exact ⟨_, rfl, Option.some.inj did ▸ mirrors.park there kept⟩
  | bereft kept => exact ⟨_, rfl, Option.some.inj did ▸ mirrors.bereft kept⟩
  | remove => exact ⟨_, rfl, Option.some.inj did ▸ mirrors.remove⟩
  | unload kept => exact ⟨_, rfl, Option.some.inj did ▸ mirrors.unload kept⟩
  | take same => exact ⟨_, rfl, Option.some.inj did ▸ mirrors.take same _⟩
  | seek => exact ⟨_, rfl, Option.some.inj did ▸ mirrors.seek _⟩
  | steer there => exact ⟨_, rfl, Option.some.inj did ▸ mirrors.steer there _⟩
  | record => exact ⟨_, rfl, Option.some.inj did ▸ mirrors.record _⟩
  | press there => exact ⟨_, rfl, Option.some.inj did ▸ mirrors.press there _⟩
  | contains =>
    have answered := mirrors.answer (.ok (.flag (registry.table.contains id.name)))
    rw [mirrors.contains_eq] at answered
    refine ⟨_, rfl, Option.some.inj did ▸ ?_⟩
    rw [mirrors.contains_eq]
    exact answered
  | answer => exact ⟨_, rfl, Option.some.inj did ▸ mirrors.answer _⟩

/-- **Tasks that mirror each other do the same.** A session that is not turned away for want of room
is not turned away when it is alone, either. -/
theorem Task.Mirrors.done {ids : List SessionId}
    (same : task.Mirrors id (registry.roster ids id) single)
    (mirrors : registry.Mirrors id (registry.roster ids id) alone) (other : task ≠ .reap)
    (room : ∀ launch limit, task = .reserve launch →
      registry.refusal? id ≠ some (.capacityReached limit))
    (did : task.step registry answer = some progress) :
    ∃ lone, single.step alone answer = some lone ∧
      progress.Mirrors id (progress.registry.roster ids id) lone := by
  by_cases spawns : ∃ launch, task = .spawn launch
  · obtain ⟨launch, rfl⟩ := spawns
    cases same with
    | spawn mine same =>
      cases answer with
      | ok =>
        cases did
        refine ⟨_, rfl, mirrors.spawn mine same ?_ rfl⟩
        rw [← mine]
        exact registry.places_spawn launch
      | error cause =>
        cases did
        exact ⟨_, rfl, mirrors.unspawned mine same cause⟩
  · -- only a new worker makes the roster grow
    have still : ∀ launch, task ≠ .spawn launch := fun launch same => spawns ⟨launch, same⟩
    have kept : progress.registry.roster ids id = registry.roster ids id := by
      rcases Task.owners_step did with owners | ⟨launch, new, -⟩
      · exact Registry.roster_congr (congrArg (places id) owners)
      · exact absurd new (still launch)
    rw [kept]
    exact same.done_still mirrors other still room did

end Done

end Arcade
