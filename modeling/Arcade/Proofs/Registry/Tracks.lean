/-
**The registry as a map.**

Seen from outside, the registry is a map from names to modes: a session runs, and is paused or not,
or it is unloaded. A view says this of each name, and also where a call has a slot that it is about
to fill. The registry tracks a view (`Registry.Tracks`) when each slot is as the view says; a worker
in a slot may be done, but as long as it is not, its gate is as the view says, and its queues are
read.

* `Registry.Tracks.drift`: workers and time do not change what the registry tracks;
* `Registry.Tracks.put`, `Registry.Tracks.forget`, `Registry.Tracks.steered`: what calls change;
* `Registry.Tracks.names_eq`: the registered names are those of the map.
-/

import Arcade.Proofs.Registry.Return
import Arcade.Proofs.Registry.Solo
import Mathlib.Data.List.Sort
import Mathlib.Logic.Function.Basic

namespace Arcade

/-! ### Maps and views -/

/-- The mode of a registered session. -/
inductive Mode where
  | running (paused : Bool)
  | unloaded
  deriving DecidableEq

/-- The modes of the registered sessions, by name. -/
abbrev Lifecycle := NameTable Mode

/-- What is under a name. -/
inductive Place where
  | held (mode : Mode)
  /-- A slot that the call in progress is about to fill. -/
  | pending

namespace Lifecycle

/-- What a map says of each name. -/
def view (map : Lifecycle) (id : SessionId) : Option Place :=
  (map.lookup? id.name).map Place.held

/-- The map with a session in a mode, or without it. -/
def set (map : Lifecycle) (id : SessionId) : Option Mode → Lifecycle
  | some mode => map.insert id.name mode
  | none => map.erase id.name

theorem view_set (map : Lifecycle) (id : SessionId) (mode : Option Mode) :
    (map.set id mode).view = Function.update map.view id (mode.map Place.held) := by
  funext other
  have names : other.name = id.name ↔ other = id := by cases other; cases id; simp
  cases mode <;> simp only [set, view, NameTable.lookup_insert, NameTable.lookup_erase, names,
    Function.update_apply] <;> split <;> rfl

end Lifecycle

/-- Tables with the same names list them alike. -/
theorem NameTable.names_eq {α β : Type} {first : NameTable α} {second : NameTable β}
    (same : ∀ name, first.contains name = second.contains name) : first.names = second.names := by
  have listed : ∀ {γ : Type} (table : NameTable γ) (name : String),
      name ∈ table.names ↔ table.contains name = true := by
    intro γ table name
    rw [contains, ← not_iff_not, Bool.not_eq_true, Option.isSome_eq_false_iff,
      Option.isNone_iff_eq_none]
    exact lookup_eq_none_iff.symm
  refine List.Perm.eq_of_pairwise (fun _ _ _ _ less more => ?_) first.sorted second.sorted ?_
  · exact absurd (String.lt_trans less more) (String.lt_irrefl _)
  · exact (List.perm_ext_iff_of_nodup first.nodup_names second.nodup_names).mpr fun name => by
      rw [listed, listed, same]

/-! ### Workers that serve -/

/-- The gate of a session that is paused, or not. -/
def Gate.ofPaused (paused : Bool) : Gate := if paused then .paused else .running

namespace Worker

/-- Whether a session's gate is paused, or not, and its queues are read. -/
def IsOpen (session : Session Console) (paused : Bool) : Prop :=
  session.gate = .ofPaused paused ∧ session.params.connected = true ∧
    session.machine.keys.connected = true

/-- Whether a worker, unless it is done, runs a session that is paused, or not. -/
def Serves (worker : Worker) (paused : Bool) : Prop :=
  worker.isFinished = true ∨ IsOpen worker.session paused

theorem Serves.step {worker : Worker} {paused : Bool} (serves : worker.Serves paused)
    (now : Moment) : (worker.step now .accepts).worker.Serves paused := by
  rcases serves with finished | ⟨gate, params, keys⟩
  · rw [step_of_finished _ _ _ finished]
    exact .inl finished
  · cases was : worker.phase with
    | ready =>
      cases paused with
      | true =>
        have closed : worker.session.gate = .paused := gate
        simp only [Worker.step, was, Session.begin, closed]
        exact .inr ⟨gate, params, keys⟩
      | false =>
        have opened : worker.session.gate = .running := gate
        cases fault : (Steppable.cycle worker.session.machine
            worker.session.cyclesPerFrame.toNat).fault <;>
          simp only [Worker.step, was, Session.begin, opened, fault] <;>
          exact .inr ⟨rfl, params, keys⟩
    | offering pixels =>
      obtain ⟨sameGate, sameMachine, sameParams⟩ := worker.session.frame_applyParams
      simp only [Worker.step, was, Reaction.accepts, Session.concludeFrame]
      exact .inr ⟨sameGate.trans gate, sameParams.trans params,
        (congrArg (fun console => console.keys.connected) sameMachine).trans keys⟩
    | reporting cause =>
      simp only [Worker.step, was, Reaction.accepts]
      exact .inl rfl
    | ended | broken =>
      rw [step_of_finished _ _ _ (by rw [isFinished, was]; rfl)]
      exact .inr ⟨gate, params, keys⟩

/-- A worker breaks off at its client only. -/
theorem step_unbroken {worker : Worker} (whole : worker.phase ≠ .broken) (now : Moment) :
    (worker.step now .accepts).worker.phase ≠ .broken := by
  intro broken
  cases was : worker.phase with
  | ready =>
    cases gate : worker.session.gate with
    | running =>
      cases fault : (Steppable.cycle worker.session.machine
          worker.session.cyclesPerFrame.toNat).fault <;>
        simp only [Worker.step, was, Session.begin, gate, fault] at broken <;> cases broken
    | paused =>
      simp only [Worker.step, was, Session.begin, gate] at broken
      cases broken
    | stopped =>
      simp only [Worker.step, was, Session.begin, gate] at broken
      cases broken
  | offering pixels =>
    simp only [Worker.step, was, Reaction.accepts, Session.concludeFrame] at broken
    cases broken
  | reporting cause =>
    simp only [Worker.step, was, Reaction.accepts] at broken
    cases broken
  | ended | broken =>
    rw [step_of_finished _ _ _ (by rw [isFinished, was]; rfl)] at broken
    exact whole broken

end Worker

namespace Registry

variable {registry after : Registry} {number : WorkerId} {paused : Bool}

/-- Whether the worker of a number serves. -/
def Serves (registry : Registry) (number : WorkerId) (paused : Bool) : Prop :=
  ∃ worker, registry.worker? number = some worker ∧ worker.Serves paused

/-- A worker that is changed does not come to look broken. -/
theorem whole_modifyWorker {change : Worker → Worker}
    (whole : ∀ worker ∈ registry.workers, worker.phase ≠ .broken)
    (phase : ∀ worker, registry.worker? number = some worker →
      (change worker).phase = worker.phase) :
    ∀ worker ∈ (registry.modifyWorker number change).workers, worker.phase ≠ .broken := by
  intro worker member
  obtain ⟨index, found⟩ := List.mem_iff_getElem?.mp member
  change (registry.modifyWorker number change).worker? index = some worker at found
  by_cases same : number = index
  · subst same
    rw [worker?_modifyWorker_self] at found
    obtain ⟨before, known, rfl⟩ := Option.map_eq_some_iff.mp found
    rw [phase before known]
    exact whole before (List.mem_of_getElem? known)
  · rw [worker?_modifyWorker_ne _ _ same] at found
    exact whole worker (List.mem_of_getElem? found)

theorem Serves.drift (serves : registry.Serves number paused) (drifts : registry.Drifts after) :
    after.Serves number paused := by
  obtain ⟨worker, known, serves⟩ := serves
  cases drifts with
  | waited now => exact ⟨worker, known, serves⟩
  | worked other =>
    by_cases same : other = number
    · subst same
      exact ⟨_, by rw [worker?_work, known]; rfl, serves.step registry.now⟩
    · exact ⟨worker, by rw [workers_work _ _ _ _ same, known], serves⟩

/-! ### What the registry tracks -/

/-- Whether a slot is as a view says. -/
inductive Fits (registry : Registry) : Option SlotState → Option Place → Prop
  | absent : Fits registry none none
  | pending : Fits registry (some .pending) (some .pending)
  | unloaded {sink : SinkId} : Fits registry (some (.unloaded sink)) (some (.held .unloaded))
  | running {number : WorkerId} {paused : Bool} (serves : registry.Serves number paused) :
    Fits registry (some (.running number)) (some (.held (.running paused)))

/-- Whether the registry is as a view says. -/
structure Tracks (registry : Registry) (settings : Settings) (view : SessionId → Option Place) :
    Prop where
  settings_eq : registry.settings = settings
  /-- No worker broke off. -/
  whole : ∀ worker ∈ registry.workers, worker.phase ≠ .broken
  /-- No worker is in two slots. -/
  apart : ∀ id other number, registry.state? id = some (.running number) →
    registry.state? other = some (.running number) → id = other
  fits : ∀ id, registry.Fits (registry.state? id) (view id)

theorem Fits.mono {state : Option SlotState} {place : Option Place}
    (fits : registry.Fits state place)
    (keeps : ∀ number paused, state = some (.running number) → registry.Serves number paused →
      after.Serves number paused) : after.Fits state place := by
  cases fits with
  | absent => exact .absent
  | pending => exact .pending
  | unloaded => exact .unloaded
  | running serves => exact .running (keeps _ _ rfl serves)

theorem Fits.isSome_eq {state : Option SlotState} {place : Option Place}
    (fits : registry.Fits state place) : state.isSome = place.isSome := by
  cases fits <;> rfl

theorem slot?_of_state? {id : SessionId} {state : SlotState}
    (there : registry.state? id = some state) :
    ∃ slot, registry.slot? id = some slot ∧ slot.state = state := Option.map_eq_some_iff.mp there

theorem state?_eq_none {id : SessionId} : registry.state? id = none ↔ registry.slot? id = none :=
  Option.map_eq_none_iff

namespace Tracks

variable {settings : Settings} {view : SessionId → Option Place} {id : SessionId}
  (tracks : registry.Tracks settings view)

include tracks

theorem serves_of_running (there : registry.state? id = some (.running number)) :
    ∃ paused, view id = some (.held (.running paused)) ∧ registry.Serves number paused := by
  have fits := tracks.fits id
  rw [there] at fits
  generalize place : view id = held at fits
  cases fits with
  | @running _ paused serves => exact ⟨paused, rfl, serves⟩

theorem slot?_of_absent (gone : view id = none) : registry.slot? id = none := by
  have same := (tracks.fits id).isSome_eq
  rw [gone, Option.isSome_none, Option.isSome_eq_false_iff, Option.isNone_iff_eq_none] at same
  exact state?_eq_none.mp same

theorem slot?_of_place {place : Place} (held : view id = some place) :
    ∃ since state, registry.slot? id = some ⟨since, state⟩ ∧
      registry.Fits (some state) (some place) := by
  have fits := tracks.fits id
  rw [held] at fits
  obtain ⟨state, there⟩ := Option.isSome_iff_exists.mp fits.isSome_eq
  obtain ⟨⟨since, _⟩, found, rfl⟩ := slot?_of_state? there
  exact ⟨since, _, found, there ▸ fits⟩

/-- A change that leaves the slots and the workers in them alone. -/
theorem frame (settings_eq : after.settings = registry.settings)
    (states : after.states = registry.states)
    (whole : ∀ worker ∈ after.workers, worker.phase ≠ .broken)
    (keeps : ∀ id number paused, registry.state? id = some (.running number) →
      registry.Serves number paused → after.Serves number paused) :
    after.Tracks settings view := by
  have same : ∀ id, after.state? id = registry.state? id := state?_congr states
  refine ⟨settings_eq.trans tracks.settings_eq, whole, fun id other number => ?_, fun id => ?_⟩
  · rw [same, same]
    exact tracks.apart id other number
  · rw [same]
    exact (tracks.fits id).mono fun number paused => keeps id number paused

theorem deliver (sink : SinkId) (delivery : Delivery) :
    (registry.deliver sink delivery).Tracks settings view :=
  tracks.frame rfl rfl tracks.whole fun _ _ _ _ serves => serves

/-- **Workers and time do not change what the registry tracks.** -/
theorem drift (drifts : registry.Drifts after) : after.Tracks settings view := by
  have keeps : ∀ id number paused, registry.state? id = some (.running number) →
      registry.Serves number paused → after.Serves number paused :=
    fun _ _ _ _ serves => serves.drift drifts
  cases drifts with
  | waited now => exact tracks.frame rfl rfl tracks.whole keeps
  | worked number =>
    refine tracks.frame ?_ (states_of_table _ (table_work _ _ _)) (fun worker member => ?_) keeps
    · unfold work
      split <;> rfl
    · obtain ⟨index, found⟩ := List.mem_iff_getElem?.mp member
      by_cases same : number = index
      · subst same
        obtain ⟨before, known, rfl⟩ :=
          Option.map_eq_some_iff.mp ((worker?_work registry number .accepts).symm.trans found)
        exact Worker.step_unbroken (tracks.whole before (List.mem_of_getElem? known)) _
      · have known := (workers_work registry number index .accepts same).symm.trans found
        exact tracks.whole worker (List.mem_of_getElem? known)

/-- A worker that is in no slot may be changed. -/
theorem modifyWorker {change : Worker → Worker}
    (aside : ∀ id, registry.state? id ≠ some (.running number))
    (phase : ∀ worker, (change worker).phase = worker.phase) :
    (registry.modifyWorker number change).Tracks settings view := by
  refine tracks.frame rfl rfl (whole_modifyWorker tracks.whole fun worker _ => phase worker)
    fun id other paused there serves => ?_
  have different : number ≠ other := fun same => aside id (same ▸ there)
  obtain ⟨worker, known, serves⟩ := serves
  exact ⟨worker, (worker?_modifyWorker_ne _ _ different).trans known, serves⟩

/-- A worker is set going. -/
theorem spawned {worker : Worker} (whole : worker.phase ≠ .broken) :
    ({ registry with workers := registry.workers ++ [worker] }).Tracks settings view := by
  refine tracks.frame rfl rfl (fun other member => ?_) fun id number paused there serves => ?_
  · rcases List.mem_append.mp member with old | new
    · exact tracks.whole other old
    · exact List.mem_singleton.mp new ▸ whole
  · obtain ⟨other, known, serves⟩ := serves
    exact ⟨other, (List.getElem?_append_left (List.getElem?_eq_some_iff.mp known).1).trans known,
      serves⟩

/-- A slot is put in. -/
theorem put {slot : Slot} {place : Option Place} (fits : registry.Fits (some slot.state) place)
    (alone : ∀ number, slot.state = .running number →
      ∀ other, other ≠ id → registry.state? other ≠ some (.running number)) :
    (registry.putSlot id slot).Tracks settings (Function.update view id place) := by
  refine ⟨tracks.settings_eq, tracks.whole, fun first second number one two => ?_, fun other => ?_⟩
  · rw [state?_putSlot] at one two
    split at one <;> split at two
    · rename_i same also
      exact same.trans also.symm
    · rename_i different
      exact absurd two (alone number (Option.some.inj one) second different)
    · rename_i different _
      exact absurd one (alone number (Option.some.inj two) first different)
    · exact tracks.apart first second number one two
  · rw [state?_putSlot]
    split
    · rename_i same
      rw [same, Function.update_self]
      exact fits.mono fun _ _ _ serves => serves
    · rename_i different
      rw [Function.update_of_ne different]
      exact (tracks.fits other).mono fun _ _ _ serves => serves

/-- A slot is reserved. -/
theorem putPending (since : Moment) : (registry.putSlot id ⟨since, .pending⟩).Tracks settings
    (Function.update view id (some .pending)) :=
  tracks.put .pending fun _ same => by cases same

/-- A session is forgotten. -/
theorem forget : (registry.forget id).Tracks settings (Function.update view id none) := by
  refine ⟨tracks.settings_eq, tracks.whole, fun first second number one two => ?_, fun other => ?_⟩
  · rw [state?_forget] at one two
    split at one
    · cases one
    · split at two
      · cases two
      · exact tracks.apart first second number one two
  · rw [state?_forget]
    split
    · rename_i same
      rw [same, Function.update_self]
      exact .absent
    · rename_i different
      rw [Function.update_of_ne different]
      exact (tracks.fits other).mono fun _ _ _ serves => serves

/-- The worker of a session is steered. -/
theorem steered {number : WorkerId} {change : Worker → Worker} {paused : Bool}
    (there : registry.state? id = some (.running number))
    (steers : ∀ worker, registry.worker? number = some worker →
      (change worker).phase = worker.phase ∧ (change worker).Serves paused) :
    (registry.modifyWorker number change).Tracks settings
      (Function.update view id (some (.held (.running paused)))) := by
  refine ⟨tracks.settings_eq,
    whole_modifyWorker tracks.whole fun worker known => (steers worker known).1,
    tracks.apart, fun other => ?_⟩
  change Fits _ (registry.state? other) _
  by_cases same : other = id
  · obtain ⟨_, -, worker, known, -⟩ := tracks.serves_of_running there
    rw [same, there, Function.update_self]
    exact .running ⟨change worker, by rw [worker?_modifyWorker_self, known]; rfl,
      (steers worker known).2⟩
  · rw [Function.update_of_ne same]
    refine (tracks.fits other).mono fun index _ elsewhere serves => ?_
    have different : number ≠ index := by
      rintro rfl
      exact same (tracks.apart other id number elsewhere there)
    obtain ⟨worker, known, serves⟩ := serves
    exact ⟨worker, (worker?_modifyWorker_ne _ _ different).trans known, serves⟩

/-- The worker in a slot is not done unless its session is listed as such. -/
theorem isOpen_of_running {paused : Bool} (lasting : registry.finished = [])
    (there : registry.state? id = some (.running number))
    (held : view id = some (.held (.running paused))) :
    ∃ worker, registry.worker? number = some worker ∧ Worker.IsOpen worker.session paused := by
  obtain ⟨other, place, worker, known, serves⟩ := tracks.serves_of_running there
  rw [held] at place
  cases place
  refine ⟨worker, known, serves.resolve_left fun finished => ?_⟩
  obtain ⟨slot, found, state⟩ := slot?_of_state? there
  have listed : (id, number) ∈ registry.finished :=
    registry.mem_finished.mpr ⟨slot, found, state, by rw [isFinished, known]; exact finished⟩
  rw [lasting] at listed
  cases listed

end Tracks

section Counting

variable {settings : Settings} {map : Lifecycle} (tracks : registry.Tracks settings map.view)

include tracks

theorem Tracks.contains_eq (name : String) : registry.table.contains name = map.contains name := by
  have same := (tracks.fits ⟨name⟩).isSome_eq
  rwa [state?, slot?, Lifecycle.view, Option.isSome_map, Option.isSome_map] at same

/-- **The registered names are those of the map.** -/
theorem Tracks.names_eq : registry.table.names = map.names := NameTable.names_eq tracks.contains_eq

theorem Tracks.size_eq : registry.table.size = map.size := by
  have lengths := congrArg List.length tracks.names_eq
  rwa [NameTable.names, NameTable.names, List.length_map, List.length_map] at lengths

end Counting

end Registry

end Arcade
