/-
**A sequential history is a history of lifecycles.**

While calls are made one after another, the clients accept every message, and no registered session
ends on its own, the calls answer as the map of lifecycles says. When no call is in progress, the
registry is as the map says; while one is, it ensures that it will be so (`System.Follows`).

* `System.follows_run`: the registry follows the map, move by move;
* `System.refines_lifecycle`: the answers of the calls are those of the map, and a call that is in
  progress can return.
-/

import Arcade.Proofs.Registry.Lifecycle
import Mathlib.Data.List.Infix

namespace Arcade

/-- Whether nobody refuses anything in a move. -/
def Move.isAccepted : Move → Bool
  | .begin _ | .wait _ => true
  | .proceed flight answer => (proceed flight answer).goesOn
  | .work worker reaction => (work worker reaction).goesOn

theorem Call.tasks_ne_nil (call : Call) (sink : SinkId) : call.tasks sink ≠ [] := by
  have begins := call.begins sink
  generalize call.tasks sink = todo at begins ⊢
  cases begins <;> exact List.cons_ne_nil _ _

namespace System

/-- What some calls were answered, as far as they were. -/
def answered (flights : List Flight) : List (Call × Option Reply) :=
  flights.map fun flight => (flight.call, flight.reply)

/-- A history, with its answers as those of calls. -/
def recorded (history : List (Call × Reply)) : List (Call × Option Reply) :=
  history.map fun entry => (entry.1, some entry.2)

/-- Whether a system follows the map of lifecycles. -/
inductive Follows (settings : Settings) (system : System) : Prop
  | quiet {history map} (past : Lifecycle.History settings history map)
    (returned : ∀ flight ∈ system.flights, flight.todo = [])
    (same : answered system.flights = recorded history)
    (tracks : system.registry.Tracks settings map.view)
  | busy {history map olds flight} (past : Lifecycle.History settings history map)
    (split : system.flights = olds ++ [flight]) (returned : ∀ old ∈ olds, old.todo = [])
    (waits : flight.todo ≠ []) (same : answered olds = recorded history)
    (ensures : Ensures (Lands settings map flight.call) system.registry flight.todo flight.reply)

theorem filter_isOver {flights : List Flight} (returned : ∀ flight ∈ flights, flight.todo = []) :
    flights.filter Flight.isOver = flights :=
  List.filter_eq_self.mpr fun flight member => List.isEmpty_iff.mpr (returned flight member)

variable {settings : Settings} {system : System}

/-- Workers and time do not keep a system from following the map. -/
theorem Follows.drift {after : Registry} (follows : system.Follows settings)
    (lasting : system.registry.finished = []) (drifts : system.registry.Drifts after) :
    ({ system with registry := after } : System).Follows settings := by
  cases follows with
  | quiet past returned same tracks => exact .quiet past returned same (tracks.drift drifts)
  | @busy history map olds flight past split returned waits same ensures =>
    exact .busy past split returned waits same (ensures.go (.drifted lasting drifts))

theorem Follows.begin (follows : system.Follows settings) (turn : system.isQuiet = true)
    (call : Call) : (system.begin call).Follows settings := by
  cases follows with
  | quiet past returned same tracks =>
    refine .busy past rfl returned (call.tasks_ne_nil _) same (.of_call ?_ _ call)
    exact tracks.frame rfl rfl tracks.whole fun _ _ _ _ serves => serves
  | busy past split returned waits =>
    exact absurd (todo_of_quiet turn (split ▸ List.mem_concat_self)) waits

/-- The call that is in progress goes on, and when it returns, its answer is on the list. -/
theorem Follows.done {number : Nat} {flight : Flight} {task : Task} {later : List Task}
    {progress : Progress} (follows : system.Follows settings)
    (lasting : system.registry.finished = [])
    (known : system.flights[number]? = some flight) (next : flight.todo = task :: later)
    (did : task.step system.registry (.ok ()) = some progress) :
    (⟨progress.registry, system.flights.set number (flight.advance progress later)⟩ :
      System).Follows settings := by
  have goesOn : flight.todo ≠ [] := by rw [next]; exact List.cons_ne_nil _ _
  cases follows with
  | quiet past returned => exact absurd (returned flight (List.mem_of_getElem? known)) goesOn
  | @busy history map olds last past split returned waits same ensures =>
    -- the call that goes on is the last
    have here : number = olds.length := by
      have inside := (List.getElem?_eq_some_iff.mp known).1
      rw [split, List.length_append, List.length_singleton] at inside
      by_contra different
      have old : number < olds.length := by omega
      rw [split, List.getElem?_append_left old] at known
      exact goesOn (returned flight (List.mem_of_getElem? known))
    subst here
    rw [split, List.getElem?_concat_length] at known
    cases known
    have moved : system.flights.set olds.length (flight.advance progress later) =
        olds ++ [flight.advance progress later] := by
      rw [split, List.set_append_right _ _ (Nat.le_refl _), Nat.sub_self]
      rfl
    have onward := ensures.go (.done lasting next did)
    rw [moved]
    by_cases complete : progress.todo ++ later = []
    · rw [complete] at onward
      obtain ⟨final, replied, after, listed, tracks⟩ := onward.returned
      refine .quiet (past.answered listed) (fun other member => ?_) ?_ tracks
      · rcases List.mem_append.mp member with old | new
        · exact returned other old
        · rw [List.mem_singleton.mp new]
          exact complete
      · rw [answered, List.map_append, ← answered, same, recorded, recorded, List.map_append]
        exact congrArg (fun reply => _ ++ [(flight.call, reply)]) replied
    · exact .busy past rfl returned complete same onward

/-- **The registry follows the map**, as long as nobody refuses anything and no registered session
ends on its own. -/
theorem follows_run {schedule : List Move}
    (sequential : (new settings).isSequential schedule = true)
    (accepted : ∀ move ∈ schedule, move.isAccepted = true)
    (lasting : ∀ before, before <+: schedule →
      ((new settings).run before).registry.finished = []) :
    ((new settings).run schedule).Follows settings := by
  refine sequential_induction (new settings) (fun schedule system =>
    (∀ move ∈ schedule, move.isAccepted = true) →
    (∀ before, before <+: schedule → ((new settings).run before).registry.finished = []) →
      system.Follows settings) (fun _ _ => ?_)
    (fun schedule move _ turn before step accepted lasting => ?_) schedule sequential accepted
    lasting
  · refine .quiet .empty (fun _ member => (by cases member)) rfl
      ⟨rfl, fun _ member => (by cases member), fun _ _ _ there => (by cases there),
        fun _ => .absent⟩
  have follows := before (fun move member => accepted move (List.mem_append_left _ member))
    fun earlier found => lasting earlier (found.trans (List.prefix_append _ _))
  have ongoing := lasting schedule (List.prefix_append _ _)
  have accepts := accepted move (List.mem_append_right _ List.mem_cons_self)
  generalize (new settings).run schedule = system at turn step follows ongoing
  cases move with
  | begin call => exact follows.begin turn call
  | proceed number answer =>
    cases answer with
    | ok _ =>
      generalize system.move (.proceed number (.ok ())) = after at step
      cases step with
      | stayed => exact follows
      | done known next did => exact follows.done ongoing known next did
    | error cause => cases accepts
  | work number reaction =>
    cases reaction with
    | answers answer =>
      cases answer with
      | ok _ => exact follows.drift ongoing (.worked number)
      | error cause => cases accepts
    | breaks => cases accepts
  | wait span => exact follows.drift ongoing (.waited _)

/-- **The answers of the calls are those of the map, and a call that is in progress can return.** -/
theorem refines_lifecycle (settings : Settings) (schedule : List Move)
    (sequential : (new settings).isSequential schedule = true)
    (accepted : ∀ move ∈ schedule, move.isAccepted = true)
    (lasting : ∀ before, before <+: schedule →
      ((new settings).run before).registry.finished = []) :
    (∃ history map, Lifecycle.History settings history map ∧
      answered (((new settings).run schedule).flights.filter Flight.isOver) = recorded history ∧
      (((new settings).run schedule).isQuiet = true →
        ((new settings).run schedule).registry.Tracks settings map.view)) ∧
    CanReach settings schedule fun system => system.isQuiet = true := by
  refine ⟨?_, canReach_quiet settings schedule⟩
  cases follows_run sequential accepted lasting with
  | @quiet history map past returned same tracks =>
    refine ⟨history, map, past, ?_, fun _ => tracks⟩
    rw [filter_isOver returned, same]
  | @busy history map olds flight past split returned waits same ensures =>
    refine ⟨history, map, past, ?_, fun quiet => ?_⟩
    · have busy : flight.isOver = false := List.isEmpty_eq_false_iff.mpr waits
      rw [split, List.filter_append, filter_isOver returned, List.filter_singleton, busy, ← same]
      exact congrArg answered (List.append_nil olds)
    · exact absurd (todo_of_quiet quiet (split ▸ List.mem_concat_self)) waits

end System

/-- A session is started, paused, unloaded, asked whether it is paused, and stopped. -/
def parkedPause : List Move :=
  let ask (request : Request) : Move := .begin (.session ⟨"s"⟩ request)
  let on (flight : Nat) : Move := .proceed flight (.ok ())
  [.begin (.start ⟨"s"⟩ loopRom 0), on 0, on 0, on 0, on 0, on 0, on 0,
    ask .pause, on 1, on 1, on 1, ask .unload, on 2, on 2, .work 0 .accepts, on 2, on 2, on 2,
    ask .isPaused, on 3, on 3, ask .stop, on 4, on 4, on 4]

namespace System

/-- A session that is unloaded is not paused any more. -/
theorem refines_lifecycle_parkedPause :
    ∃ map, Lifecycle.History Settings.default
      [(.start ⟨"s"⟩ loopRom 0, .ok .done), (.session ⟨"s"⟩ .pause, .ok .done),
        (.session ⟨"s"⟩ .unload, .ok .done),
        (.session ⟨"s"⟩ .isPaused, .error (.notRunning ⟨"s"⟩)),
        (.session ⟨"s"⟩ .stop, .ok .done)] map := by
  have lasting : ∀ before ∈ parkedPause.inits,
      ((new Settings.default).run before).registry.finished = [] := by decide
  obtain ⟨⟨history, map, past, same, -⟩, -⟩ := refines_lifecycle Settings.default parkedPause
    (by decide) (by decide) fun before found => lasting before ((List.mem_inits _ _).mpr found)
  have injective : Function.Injective fun entry : Call × Reply => (entry.1, some entry.2) := by
    rintro ⟨_, _⟩ ⟨_, _⟩ same
    cases same
    rfl
  have told : answered (((new Settings.default).run parkedPause).flights.filter Flight.isOver) =
      recorded [(.start ⟨"s"⟩ loopRom 0, .ok .done), (.session ⟨"s"⟩ .pause, .ok .done),
        (.session ⟨"s"⟩ .unload, .ok .done),
        (.session ⟨"s"⟩ .isPaused, .error (.notRunning ⟨"s"⟩)),
        (.session ⟨"s"⟩ .stop, .ok .done)] := by decide
  obtain rfl := List.map_injective_iff.mpr injective (told.symm.trans same)
  exact ⟨map, past⟩

end System

end Arcade
