/-
**Workers between two cues.**

After each cue every worker goes on until it needs its client (`Rehearsal.settle`). Two steps are
enough for a worker: one away from its gate, and one more if the client does not listen. So when a
cue is over, each worker is done, or waits at a closed gate, or offers a frame to a client that has
not asked for one yet (`Worker.Rests`), and it stays so until something else happens.

* `Rehearsal.Works`: what workers that go on leave alone;
* `Rehearsal.isSettled_settle`: all workers rest after they have settled;
* `Rehearsal.system_settle`: those who rest stay as they are.
-/

import Arcade.Proofs.Registry.Return
import Arcade.Registry.Rehearsal

namespace Arcade

/-! ### Workers that rest -/

/-- What a client in a mood does with a message that is sent without being asked for. -/
def Reaction.ofMood : Option Mood → Reaction
  | some .hungUp => .answers (.error .closed)
  | some .breaking => .breaks
  | some .listening | none => .accepts

/-- Whether a worker cannot go on without its client, which is in a mood. -/
def Worker.Rests (mood : Option Mood) (worker : Worker) : Prop :=
  match worker.phase with
  | .ready => worker.session.gate = .paused
  | .offering _ => mood ≠ some .hungUp ∧ mood ≠ some .breaking
  | .reporting _ => False
  | .ended | .broken => True

section Worker

variable {worker : Worker} {mood : Option Mood}

theorem Worker.rests_of_finished (finished : worker.isFinished = true) : worker.Rests mood := by
  unfold isFinished Phase.isFinished at finished
  unfold Rests
  split at finished <;> simp_all

/-- A worker that looked at its gate rests there, or is on its way. -/
theorem Worker.rests_or_left (now : Moment) (reaction : Reaction)
    (ready : worker.phase = .ready) :
    (worker.step now reaction).worker.Rests mood ∨
      (worker.step now reaction).worker.phase ≠ .ready := by
  cases gate : worker.session.gate with
  | paused =>
    simp only [Worker.step, ready, Session.begin, gate]
    exact .inl (by simp [Rests, ready, gate])
  | stopped =>
    simp only [Worker.step, ready, Session.begin, gate]
    exact .inr (by simp [Worker.release])
  | running =>
    simp only [Worker.step, ready, Session.begin, gate]
    refine .inr ?_
    split <;> simp_all <;> split at * <;> simp_all

/-- A worker that is on its way and does not wait for its client is done after one step. -/
theorem Worker.rests_step (now : Moment) (left : worker.phase ≠ .ready)
    (restless : ¬ worker.Rests mood) :
    (worker.step now (.ofMood mood)).worker.Rests mood := by
  refine rests_of_finished ?_
  cases was : worker.phase with
  | ready => exact absurd was left
  | offering pixels =>
    simp only [Rests, was] at restless
    cases mood with
    | none => simp at restless
    | some mood =>
      cases mood with
      | listening => simp at restless
      | hungUp => simp only [Worker.step, was, Reaction.ofMood, Session.concludeFrame]; rfl
      | breaking => simp only [Worker.step, was, Reaction.ofMood]; rfl
  | reporting cause =>
    simp only [Worker.step, was]
    split <;> simp_all <;> rfl
  | ended | broken => exact absurd (by simp [Rests, was]) restless

end Worker

namespace Rehearsal

variable {rehearsal middle after : Rehearsal}

/-! ### Moves of a rehearsal -/

/-- The mood of the client of a sink. -/
def mood? (rehearsal : Rehearsal) (sink : SinkId) : Option Mood :=
  (rehearsal.listener? sink).map Client.mood

theorem reaction_eq (sink : SinkId) :
    rehearsal.reaction sink = .ofMood (rehearsal.mood? sink) := by
  unfold reaction mood? Reaction.ofMood
  cases (rehearsal.listener? sink).map Client.mood with
  | none => rfl
  | some mood => cases mood <;> rfl

@[simp] theorem system_move (move : Move) :
    (rehearsal.move move).system = rehearsal.system.move move := rfl

/-- What workers do between the steps of a call. -/
structure Works (rehearsal after : Rehearsal) : Prop where
  clients : after.clients = rehearsal.clients
  stack : after.stack = rehearsal.stack
  system : ∃ turns : List (WorkerId × Reaction),
    after.system = rehearsal.system.run (turns.map fun turn => .work turn.1 turn.2)

namespace Works

theorem refl (rehearsal : Rehearsal) : rehearsal.Works rehearsal := ⟨rfl, rfl, [], rfl⟩

theorem trans (first : rehearsal.Works middle) (second : middle.Works after) :
    rehearsal.Works after := by
  obtain ⟨early, reached⟩ := first.system
  obtain ⟨late, last⟩ := second.system
  refine ⟨second.clients.trans first.clients, second.stack.trans first.stack, early ++ late, ?_⟩
  rw [last, reached, List.map_append, System.run_append]

theorem move (number : WorkerId) (reaction : Reaction) :
    rehearsal.Works (rehearsal.move (.work number reaction)) :=
  ⟨rfl, rfl, [(number, reaction)], rfl⟩

theorem mood?_eq (works : rehearsal.Works after) (sink : SinkId) :
    after.mood? sink = rehearsal.mood? sink := by
  rw [mood?, listener?, works.clients]
  rfl

/-- What no worker touches. -/
theorem induct (works : rehearsal.Works after) (holds : System → Prop)
    (kept : ∀ system number reaction, holds system → holds (system.move (.work number reaction)))
    (start : holds rehearsal.system) : holds after.system := by
  obtain ⟨turns, reached⟩ := works.system
  rw [reached]
  clear reached
  generalize rehearsal.system = system at start
  induction turns generalizing system with
  | nil => exact start
  | cons turn rest ih => exact ih _ (kept _ _ _ start)

/-- No worker is new. -/
theorem known (works : rehearsal.Works after) {number : WorkerId} {worker : Worker}
    (there : after.registry.worker? number = some worker) :
    ∃ before, rehearsal.registry.worker? number = some before := by
  refine Option.isSome_iff_exists.mp (works.induct
    (fun system => (system.registry.worker? number).isSome = true →
      (rehearsal.registry.worker? number).isSome = true)
    (fun system other reaction before known => before ?_) id (Option.isSome_of_eq_some there))
  by_cases same : other = number
  · subst same
    rw [System.move, Registry.worker?_work, Option.isSome_map] at known
    exact known
  · rw [System.move, Registry.workers_work _ _ _ _ same] at known
    exact known

end Works

/-! ### Going on as far as possible -/

theorem works_advance (number : WorkerId) : rehearsal.Works (rehearsal.advance number) := by
  unfold advance
  split
  · exact .refl rehearsal
  · split
    all_goals first | exact .refl rehearsal | exact .move _ _

theorem works_settleWorker (number : WorkerId) :
    rehearsal.Works (rehearsal.settleWorker number) :=
  (works_advance number).trans (works_advance number)

theorem works_foldl (numbers : List WorkerId) :
    rehearsal.Works (numbers.foldl settleWorker rehearsal) := by
  induction numbers generalizing rehearsal with
  | nil => exact .refl rehearsal
  | cons number rest ih => exact (works_settleWorker number).trans ih

theorem works_settle : rehearsal.Works rehearsal.settle := works_foldl _

/-- The other workers do not go on. -/
theorem worker?_advance_ne {number other : WorkerId} (different : number ≠ other) :
    (rehearsal.advance number).registry.worker? other = rehearsal.registry.worker? other := by
  unfold advance
  split
  · rfl
  · split
    all_goals first | rfl | exact Registry.workers_work _ _ _ _ different

section One

variable {number : WorkerId} {worker : Worker}

/-- A worker is left as it is if it rests; otherwise, or at a closed gate, it makes a step. -/
theorem advance_cases (known : rehearsal.registry.worker? number = some worker) :
    (worker.Rests (rehearsal.mood? worker.sink) ∧ rehearsal.advance number = rehearsal) ∨
      ((worker.phase = .ready ∨ ¬ worker.Rests (rehearsal.mood? worker.sink)) ∧
        rehearsal.advance number =
          rehearsal.move (.work number (.ofMood (rehearsal.mood? worker.sink)))) := by
  rw [← reaction_eq]
  unfold advance
  simp only [known]
  rw [show (rehearsal.listener? worker.sink).map Client.mood = rehearsal.mood? worker.sink from rfl]
  unfold Worker.Rests
  cases worker.phase with
  | ready => exact .inr ⟨.inl rfl, rfl⟩
  | reporting cause => exact .inr ⟨.inr id, rfl⟩
  | ended | broken => exact .inl ⟨trivial, rfl⟩
  | offering pixels =>
    cases rehearsal.mood? worker.sink with
    | none => exact .inl ⟨by simp, rfl⟩
    | some mood =>
      cases mood with
      | listening => exact .inl ⟨by simp, rfl⟩
      | hungUp | breaking => exact .inr ⟨.inr (by simp), rfl⟩

/-- A worker that rests is left as it is. -/
theorem system_advance (known : rehearsal.registry.worker? number = some worker)
    (rests : worker.Rests (rehearsal.mood? worker.sink)) :
    (rehearsal.advance number).system = rehearsal.system := by
  obtain ⟨-, same⟩ | ⟨ready, same⟩ := advance_cases known
  · rw [same]
  · -- it rests at a closed gate, where a step changes nothing
    have was : worker.phase = .ready := ready.resolve_right fun restless => restless rests
    have closed : worker.session.gate = .paused := by
      unfold Worker.Rests at rests
      rw [was] at rests
      exact rests
    have still (now : Moment) (reaction : Reaction) :
        worker.step now reaction = ⟨worker, []⟩ := by
      simp only [Worker.step, was, Session.begin, closed]
    have kept : rehearsal.registry.workers.set number worker = rehearsal.registry.workers := by
      obtain ⟨inside, rfl⟩ := List.getElem?_eq_some_iff.mp known
      exact List.set_getElem_self inside
    rw [same, system_move, System.move, Registry.work, show
      rehearsal.system.registry.worker? number = some worker from known]
    simp only [still]
    exact congrArg (fun workers =>
      (⟨{ rehearsal.registry with workers }, rehearsal.system.flights⟩ : System)) kept

/-- A worker that does not rest makes a step. -/
theorem worker?_advance (known : rehearsal.registry.worker? number = some worker)
    (restless : ¬ worker.Rests (rehearsal.mood? worker.sink)) :
    (rehearsal.advance number).registry.worker? number =
      some (worker.step rehearsal.registry.now
        (.ofMood (rehearsal.mood? worker.sink))).worker := by
  obtain ⟨rests, -⟩ | ⟨-, same⟩ := advance_cases known
  · exact absurd rests restless
  · rw [same]
    exact (Registry.worker?_work _ _ _).trans (congrArg (Option.map _) known)

end One

/-- Whether the worker of a number, if there is one, rests. -/
def RestsAt (rehearsal : Rehearsal) (number : WorkerId) : Prop :=
  ∀ worker, rehearsal.registry.worker? number = some worker →
    worker.Rests (rehearsal.mood? worker.sink)

/-- Whether every worker rests. -/
def IsSettled (rehearsal : Rehearsal) : Prop := ∀ number, rehearsal.RestsAt number

theorem RestsAt.congr {number : WorkerId} (rests : rehearsal.RestsAt number)
    (works : rehearsal.Works after)
    (same : after.registry.worker? number = rehearsal.registry.worker? number) :
    after.RestsAt number := by
  intro worker known
  rw [works.mood?_eq]
  exact rests worker (same ▸ known)

/-- A worker that rests keeps resting, and others do not disturb it. -/
theorem RestsAt.advance {number : WorkerId} (rests : rehearsal.RestsAt number)
    (other : WorkerId) : (rehearsal.advance other).RestsAt number := by
  refine rests.congr (works_advance other) ?_
  by_cases same : other = number
  · subst same
    cases known : rehearsal.registry.worker? other with
    | none =>
      unfold Rehearsal.advance
      rw [known]
      exact known
    | some worker =>
      rw [registry, system_advance known (rests worker known)]
      exact known
  · exact worker?_advance_ne same

section Two

variable {number : WorkerId} {worker : Worker}

theorem restsAt_of_known (known : rehearsal.registry.worker? number = some worker)
    (rests : worker.Rests (rehearsal.mood? worker.sink)) : rehearsal.RestsAt number := by
  intro other found
  rw [known] at found
  cases found
  exact rests

/-- A step leaves a worker with its sink. -/
theorem sink_step (worker : Worker) (now : Moment) (reaction : Reaction) :
    (worker.step now reaction).worker.sink = worker.sink :=
  congrArg Standing.sink (worker.turn_step now reaction).standing_eq

/-- A worker that has left its gate needs one more step at most. -/
theorem restsAt_advance_of_left (known : rehearsal.registry.worker? number = some worker)
    (left : worker.phase ≠ .ready) : (rehearsal.advance number).RestsAt number := by
  by_cases rests : worker.Rests (rehearsal.mood? worker.sink)
  · exact (restsAt_of_known known rests).advance number
  · refine restsAt_of_known (worker?_advance known rests) ?_
    rw [(works_advance number).mood?_eq, sink_step]
    exact worker.rests_step _ left rests

/-- **Two steps are enough for a worker.** -/
theorem restsAt_settleWorker (rehearsal : Rehearsal) (number : WorkerId) :
    (rehearsal.settleWorker number).RestsAt number := by
  cases known : rehearsal.registry.worker? number with
  | none =>
    intro worker there
    obtain ⟨before, found⟩ := (works_settleWorker number).known there
    rw [known] at found
    cases found
  | some worker =>
    by_cases rests : worker.Rests (rehearsal.mood? worker.sink)
    · exact ((restsAt_of_known known rests).advance number).advance number
    · have stepped := worker?_advance known rests
      by_cases ready : worker.phase = .ready
      · rcases worker.rests_or_left rehearsal.registry.now
          (.ofMood (rehearsal.mood? worker.sink)) ready with waits | left
        · refine (restsAt_of_known stepped ?_).advance number
          rw [(works_advance number).mood?_eq, sink_step]
          exact waits
        · exact restsAt_advance_of_left stepped left
      · exact (restsAt_advance_of_left known ready).advance number

end Two

theorem RestsAt.foldl {number : WorkerId} (rests : rehearsal.RestsAt number)
    (numbers : List WorkerId) : (numbers.foldl settleWorker rehearsal).RestsAt number := by
  induction numbers generalizing rehearsal with
  | nil => exact rests
  | cons other rest ih => exact ih ((rests.advance other).advance other)

/-- **All workers rest after they have settled.** -/
theorem isSettled_settle (rehearsal : Rehearsal) : rehearsal.settle.IsSettled := by
  intro number worker known
  obtain ⟨before, there⟩ := works_settle.known known
  have inside : number ∈ List.range rehearsal.registry.workers.length :=
    List.mem_range.mpr (List.getElem?_eq_some_iff.mp there).1
  -- once it was its turn, the worker rests while the others settle
  obtain ⟨early, late, split⟩ := List.append_of_mem inside
  have settled : rehearsal.settle =
      late.foldl settleWorker ((early.foldl settleWorker rehearsal).settleWorker number) := by
    rw [settle, split, List.foldl_append, List.foldl_cons]
  rw [settled] at known ⊢
  exact (restsAt_settleWorker _ number).foldl late worker known

theorem system_foldl (settled : rehearsal.IsSettled) (numbers : List WorkerId) :
    (numbers.foldl settleWorker rehearsal).system = rehearsal.system := by
  have still {current : Rehearsal} (settled : current.IsSettled) (number : WorkerId) :
      (current.advance number).system = current.system := by
    cases known : current.registry.worker? number with
    | none =>
      unfold Rehearsal.advance
      rw [known]
    | some worker => exact system_advance known (settled number worker known)
  induction numbers generalizing rehearsal with
  | nil => rfl
  | cons number rest ih =>
    have onward : (rehearsal.advance number).IsSettled :=
      fun other => (settled other).advance number
    have rest := ih fun other => (onward other).advance number
    exact rest.trans ((still onward number).trans (still settled number))

/-- **Those who rest stay as they are.** -/
theorem system_settle (settled : rehearsal.IsSettled) :
    rehearsal.settle.system = rehearsal.system := system_foldl settled _

end Rehearsal

end Arcade
