/-
**A registry with one session.**

A player's registry has been handed one sink, and everything in it belongs to the session that the
sink came with (`Registry.Hosts`). So a task leads to three tasks at most, and their ranks are lower
(`Task.rank_lt`): a task of rank `r` is over, with all that comes of it, after `3 ^ (r + 1) - 1`
steps. That counts two steps for each task, since one may go by in which the worker that is waited
for comes to its end.

* `Registry.Hosts.done`, `Registry.Hosts.work`: the registry stays the player's;
* `Task.span_lt`: what a task leads to is over two steps before the task is.
-/

import Arcade.Proofs.Registry.Admission
import Arcade.Proofs.Registry.Departure
import Arcade.Proofs.Registry.Return

namespace Arcade

open Registry

theorem Registry.work_eq_turn (registry : Registry) {number : WorkerId} {worker : Worker}
    {reaction : Reaction} (known : registry.worker? number = some worker) :
    registry.work number reaction = registry.turn number worker
      (worker.step registry.now reaction).worker
      (worker.step registry.now reaction).deliveries := by
  rw [Registry.work, known]
  rfl

/-- The workers keep their names and sinks. -/
theorem Registry.keeps_work (registry : Registry) (number : WorkerId) (reaction : Reaction) :
    Keeps registry.standings (registry.work number reaction).standings := by
  cases known : registry.worker? number with
  | none =>
    rw [Registry.work, known]
    exact Keeps.refl _
  | some worker =>
    rw [registry.work_eq_turn known]
    exact (worker.turn_step registry.now reaction).keeps known

/-- Whether a registry has one player's session at most. -/
structure Registry.Hosts (settings : Settings) (id : SessionId) (registry : Registry) : Prop where
  settings_eq : registry.settings = settings
  sinks : registry.sinks = 1
  labelled : registry.Labelled [id]
  alone : ∀ other, registry.state? other ≠ none → other = id

namespace Registry.Hosts

variable {settings : Settings} {id : SessionId} {registry : Registry}

theorem size_le (hosts : registry.Hosts settings id) : registry.table.size ≤ 1 := by
  have own : ∀ entry ∈ registry.table.entries, entry.1 = id.name := by
    rintro ⟨name, slot⟩ member
    have there := registry.state?_of_slot? (registry.mem_entries.mp member)
    exact congrArg SessionId.name (hosts.alone ⟨name⟩ (by rw [there]; exact Option.some_ne_none _))
  have apart := registry.table.nodup_names
  rw [NameTable.names] at apart
  rw [NameTable.size]
  generalize registry.table.entries = entries at own apart
  rcases entries with _ | ⟨first, _ | ⟨second, rest⟩⟩
  · exact Nat.zero_le 1
  · exact Nat.le_refl 1
  · have same := (own first (by simp)).trans (own second (by simp)).symm
    simp [same] at apart

/-- Neither the time nor what was noted matters. -/
theorem regardless (hosts : registry.Hosts settings id) (now : Moment) (events : List Event) :
    Registry.Hosts settings id { registry with now, events } :=
  ⟨hosts.settings_eq, hosts.sinks, ⟨hosts.labelled.slots, hosts.labelled.workers⟩, hosts.alone⟩

/-- A worker's turn changes nothing about whose registry it is. -/
theorem work (hosts : registry.Hosts settings id) (number : WorkerId) (reaction : Reaction) :
    (registry.work number reaction).Hosts settings id := by
  have keeps := registry.keeps_work number reaction
  cases known : registry.worker? number with
  | none =>
    rw [Registry.work, known]
    exact hosts
  | some worker =>
    rw [registry.work_eq_turn known] at keeps ⊢
    refine ⟨hosts.settings_eq, hosts.sinks, ⟨fun other state found =>
      (hosts.labelled.slots other state found).mono (fun _ _ same => same) keeps,
      fun standing member => ?_⟩, hosts.alone⟩
    rw [standings_turn] at member
    rcases List.mem_or_eq_of_mem_set member with old | rfl
    · exact hosts.labelled.workers standing old
    · rw [(worker.turn_step registry.now reaction).standing_eq]
      exact hosts.labelled.workers worker.standing
        (List.mem_of_getElem? (registry.standings_getElem? known))

variable {answer : Except SinkError Unit} {task : Task} {progress : Progress}

/-- A task changes nothing about whose registry it is. -/
theorem done (hosts : registry.Hosts settings id) (here : task.Labelled [id] registry.standings)
    (did : task.step registry answer = some progress) : progress.registry.Hosts settings id := by
  have yields := Task.yields_of_step did
  refine ⟨(settings_step did).trans hosts.settings_eq, yields.sinks_eq.trans hosts.sinks,
    (yields.labelled here hosts.labelled).2, fun other there => ?_⟩
  rcases yields.registered there with before | admitted
  · exact hosts.alone other before
  · cases task with
    | reserve launch =>
      -- whoever is admitted has the one sink, and so the name
      have named : launch.id = other := by
        simp only [Task.admits, decide_eq_true_eq] at admitted
        exact admitted.1
      have only : launch.id ∈ [id] := List.mem_of_getElem? here
      rw [← named]
      exact List.mem_singleton.mp only
    | _ => cases admitted

end Registry.Hosts

/-! ### The tasks of a call -/

/-- Whether a registry is one player's, and a call that has some tasks to do is about its session
and waits only for workers that were told to stop. -/
structure Registry.Tends (settings : Settings) (id : SessionId) (todo : List Task)
    (registry : Registry) : Prop where
  hosts : registry.Hosts settings id
  labelled : ∀ task ∈ todo, task.Labelled [id] registry.standings
  leaving : ∀ other number custody, .join other number custody ∈ todo → registry.Leaving number

namespace Registry.Tends

variable {settings : Settings} {id : SessionId} {registry : Registry} {todo : List Task}

theorem work (tends : registry.Tends settings id todo) (number : WorkerId)
    (reaction : Reaction) : (registry.work number reaction).Tends settings id todo := by
  refine ⟨tends.hosts.work number reaction, fun task member => ?_,
    fun other awaited custody waits =>
      (tends.leaving other awaited custody waits).work reaction⟩
  exact (tends.labelled task member).mono (fun _ _ same => same)
    (registry.keeps_work number reaction)

/-- **The tasks that a task leads to are in order, too.** -/
theorem done {task : Task} {later : List Task} {answer : Except SinkError Unit}
    {progress : Progress} (tends : registry.Tends settings id (task :: later))
    (did : task.step registry answer = some progress) :
    progress.registry.Tends settings id (progress.todo ++ later) := by
  have here := tends.labelled task List.mem_cons_self
  have yields := Task.yields_of_step did
  refine ⟨tends.hosts.done here did, fun next member => ?_, fun other number custody waits => ?_⟩
  · rcases List.mem_append.mp member with fresh | left
    · exact (yields.labelled here tends.hosts.labelled).1 next fresh
    · exact (tends.labelled next (List.mem_cons_of_mem _ left)).mono (fun _ _ same => same)
        yields.keeps
  · rcases List.mem_append.mp waits with fresh | left
    · obtain rfl := halt_of_join did fresh
      cases did
      exact leaving_halt here custody
    · exact (tends.leaving other number custody (List.mem_cons_of_mem _ left)).done did

end Registry.Tends

/-! ### How long a task takes -/

/-- For how many steps a task and all that comes of it may go on. -/
def Task.span (task : Task) : Nat := 3 ^ (task.rank + 1) - 1

section Span

variable {registry : Registry} {answer : Except SinkError Unit} {task : Task} {progress : Progress}

theorem Task.length_le_three_of_watches (few : registry.table.size ≤ 1)
    (watches : task.watches = true) (did : task.step registry answer = some progress) :
    progress.todo.length ≤ 3 := by
  cases task with
  | seek id steering =>
    cases did
    unfold Registry.seek
    split
    · exact Nat.zero_le 3
    · split <;> simp [proceed, refuse, Registry.answer]
  | record id event =>
    cases did
    unfold Registry.record
    split
    · exact Nat.zero_le 3
    · dsimp only
      split <;> simp [proceed, refuse, Registry.answer]
  | steer id number steering =>
    cases did
    unfold Registry.steer
    split <;> exact Nat.zero_le 3
  | press id number event =>
    cases did
    unfold Registry.press
    split
    · exact Nat.zero_le 3
    · split <;> exact Nat.zero_le 3
  | sweep =>
    cases did
    have listed : registry.expired.length ≤ registry.table.size := List.length_filterMap_le _ _
    simp only [Registry.sweep, proceed, List.length_append, List.length_map, List.length_singleton]
    omega
  | shutdown =>
    cases did
    have listed : registry.ids.length = registry.table.size := by
      simp [ids, NameTable.names, NameTable.size]
    simp only [Registry.shutdown, proceed, List.length_append, List.length_map,
      List.length_singleton]
    omega
  | count | contains | list | catalog =>
    cases did
    exact Nat.zero_le 3
  | _ => cases watches

/-- Where there is one session, a task leads to three tasks at most. -/
theorem Task.length_le_three (few : registry.table.size ≤ 1)
    (did : task.step registry answer = some progress) : progress.todo.length ≤ 3 := by
  cases Task.yields_of_step did with
  | watched watches => exact length_le_three_of_watches few watches did
  | reaped =>
    have listed : registry.finished.length ≤ registry.table.size := List.length_filterMap_le _ _
    simp only [proceed, List.length_map]
    omega
  | @ended id number custody worker => cases custody <;> simp [proceed, Custody.tasks]
  | @broken id number custody => cases custody <;> simp [proceed, Custody.tasks]
  | @parked id sink purpose | @unparked id sink purpose | @vanished id purpose =>
    cases purpose <;> simp [proceed, Unloading.tasks]
  | @removed id slot => cases slot.state <;> simp [proceed, SlotState.releaseTasks]
  | _ => simp [proceed, refuse, Registry.answer, rejection]

/-- **What a task leads to is over two steps before the task is.** -/
theorem Task.span_lt (few : registry.table.size ≤ 1)
    (did : task.step registry answer = some progress) :
    (progress.todo.map Task.span).sum + 2 ≤ task.span := by
  have each : ∀ span ∈ progress.todo.map Task.span, span ≤ 3 ^ task.rank - 1 := by
    intro span member
    obtain ⟨next, listed, rfl⟩ := List.mem_map.mp member
    exact Nat.sub_le_sub_right (Nat.pow_le_pow_right (by decide) (Task.rank_lt did next listed)) 1
  have together := List.sum_le_card_nsmul _ _ each
  have three := Nat.mul_le_mul_right (3 ^ task.rank - 1) (Task.length_le_three few did)
  have positive : 0 < 3 ^ task.rank := Nat.pow_pos (by decide)
  rw [List.length_map, Nat.nsmul_eq_mul] at together
  rw [Task.span, Nat.pow_succ]
  omega

/-- The tasks of a call are over in time. -/
theorem Call.span_le (call : Call) (sink : SinkId) :
    ((call.tasks sink).map Task.span).sum ≤ 3 ^ 12 := by
  have begins := call.begins sink
  generalize call.tasks sink = todo at begins ⊢
  cases begins <;> simp [Task.span, Task.rank]

end Span

end Arcade
