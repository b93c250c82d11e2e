/-
**A call by itself.**

While no other call is in progress, only workers and time come between the tasks of a call
(`Goes`). So a call can be followed task by task: what is known of the registry between two tasks
has to be such that workers and time do not change it (`Stable`), and each task leads from what is
known before it to what is known after it. The clients accept every message, and no session in the
table ends on its own meanwhile.

* `Ensures.ended`, `Ensures.next`: how a call is followed to its end;
* `Ensures.go`: what is ensured stays so as the call goes on;
* `Ensures.returned`: what is ensured holds when the call has returned.
-/

import Arcade.Proofs.Registry.Sequence
import Mathlib.Logic.Relation

namespace Arcade

/-- What workers and time may do to a registry, as long as the clients accept every message. -/
inductive Registry.Drifts (registry : Registry) : Registry → Prop
  | worked (number : WorkerId) : Drifts registry (registry.work number .accepts)
  | waited (now : Moment) : Drifts registry { registry with now }

/-- A registry with one call in progress: what the call has to do yet, and its latest answer. -/
structure Solo where
  registry : Registry
  todo : List Task
  reply : Option Reply

/-- What may happen while one call is in progress. -/
inductive Goes (solo : Solo) : Solo → Prop
  | drifted {after} (lasting : solo.registry.finished = []) (drifts : solo.registry.Drifts after) :
    Goes solo { solo with registry := after }
  | done {task later progress} (lasting : solo.registry.finished = [])
      (next : solo.todo = task :: later)
      (did : task.step solo.registry (.ok ()) = some progress) :
    Goes solo ⟨progress.registry, progress.todo ++ later, progress.reply <|> solo.reply⟩

/-- Whether workers and time do not change some facts about a registry. -/
def Stable (facts : Registry → Prop) : Prop :=
  ∀ registry after, facts registry → registry.Drifts after → facts after

theorem Stable.and {first second : Registry → Prop} (one : Stable first) (two : Stable second) :
    Stable fun registry => first registry ∧ second registry :=
  fun registry after holds drifts =>
    ⟨one registry after holds.1 drifts, two registry after holds.2 drifts⟩

/-- Whether a call, however it goes on from here, returns with a reply and a registry that meet a
goal, if it returns. -/
def Ensures (goal : Reply → Registry → Prop) (registry : Registry) (todo : List Task)
    (reply : Option Reply) : Prop :=
  ∀ later, Relation.ReflTransGen Goes ⟨registry, todo, reply⟩ later → later.todo = [] →
    ∃ final, later.reply = some final ∧ goal final later.registry

namespace Ensures

variable {goal : Reply → Registry → Prop} {registry after : Registry} {todo later : List Task}
  {task : Task} {reply : Option Reply} {final : Reply} {progress : Progress}

theorem go {next : Solo} (ensures : Ensures goal registry todo reply)
    (goes : Goes ⟨registry, todo, reply⟩ next) : Ensures goal next.registry next.todo next.reply :=
  fun later more complete => ensures later (.head goes more) complete

theorem returned (ensures : Ensures goal registry [] reply) :
    ∃ final, reply = some final ∧ goal final registry :=
  ensures ⟨registry, [], reply⟩ .refl rfl

/-- A call that has nothing more to do has its reply. -/
theorem ended (stable : Stable (goal final)) (holds : goal final registry) :
    Ensures goal registry [] (some final) := by
  intro later more complete
  suffices kept : later.todo = [] ∧ later.reply = some final ∧ goal final later.registry from
    ⟨final, kept.2⟩
  clear complete
  induction more with
  | refl => exact ⟨rfl, rfl, holds⟩
  | tail _ goes before =>
    obtain ⟨complete, replied, meets⟩ := before
    cases goes with
    | drifted _ drifts => exact ⟨complete, replied, stable _ _ meets drifts⟩
    | done _ next =>
      rw [complete] at next
      cases next

/-- **A call that has something to do does it, sooner or later**, while what is known of the
registry stays so. -/
theorem next {facts : Registry → Prop} (stable : Stable facts) (holds : facts registry)
    (onward : ∀ (registry : Registry) (progress : Progress), facts registry →
      registry.finished = [] → task.step registry (.ok ()) = some progress →
        Ensures goal progress.registry (progress.todo ++ later) (progress.reply <|> reply)) :
    Ensures goal registry (task :: later) reply := by
  intro final more complete
  -- either the task is yet to be done, or the call goes on from what it led to
  have reached : final.todo = task :: later ∧ final.reply = reply ∧ facts final.registry ∨
      Ensures goal final.registry final.todo final.reply := by
    clear complete
    induction more with
    | refl => exact .inl ⟨rfl, rfl, holds⟩
    | tail _ goes before =>
      rcases before with ⟨waits, replied, known⟩ | ensures
      · cases goes with
        | drifted _ drifts => exact .inl ⟨waits, replied, stable _ _ known drifts⟩
        | done lasting next did =>
          rw [waits] at next
          cases next
          exact .inr (replied ▸ onward _ _ known lasting did)
      · exact .inr (ensures.go goes)
  rcases reached with ⟨waits, -⟩ | ensures
  · rw [complete] at waits
    cases waits
  · rw [complete] at ensures
    exact ensures.returned

end Ensures

end Arcade
