/-
**A cue from its beginning to its end.**

A player's rehearsal is at rest between two cues (`Rehearsal.AtRest`): nothing is in progress, the
clients follow no script, and the workers cannot go on by themselves. A call that is begun then is
the only one in progress (`Rehearsal.Flies`). Each step does its next task, or lets the worker that
is waited for come to its end, and so the call returns long before the steps of a cue are used up.

* `Rehearsal.Flies.onward`: one step of a call;
* `Rehearsal.Flies.through`: the tasks of a call, one after another;
* `Rehearsal.Flies.lands`: a call that was begun returns in time;
* `Rehearsal.play_call`: every call returns, and the rehearsal is at rest again;
* `Rehearsal.play_look`: what a call answers that only looks, and what it leaves alone.
-/

import Arcade.Proofs.Conversation.Hosting
import Arcade.Proofs.Conversation.Settling
import Arcade.Proofs.Registry.Tidying

namespace Arcade

open Registry

/-! ### Looking around -/

/-- How far a call has come that forgets who has ended, and puts away what they left. -/
structure Registry.Tidied (origin : Registry) (todo : List Task) (registry : Registry) : Prop where
  spares : origin.SparesLive registry
  workers : registry.workers.length = origin.workers.length
  tidies : ∀ task ∈ todo, task = .reap ∨ registry.Tidies task

namespace Registry.Tidied

variable {origin registry : Registry} {task : Task} {later : List Task}

/-- A call that is begun does nothing yet. -/
theorem begun (system : System) (call : Call) :
    system.registry.Tidied [.reap] (system.run [.wait ⟨1⟩, .begin call]).registry :=
  ⟨⟨fun _ _ there => there, fun _ _ there _ => there, fun _ _ known _ => known, fun _ => rfl⟩, rfl,
    fun _ member => .inl (List.mem_singleton.mp member)⟩

theorem done {answer : Except SinkError Unit} {progress : Progress}
    (tidied : origin.Tidied (task :: later) registry)
    (did : task.step registry answer = some progress) :
    origin.Tidied (progress.todo ++ later) progress.registry := by
  -- what is left is still to be put away
  have left (spares : registry.SparesLive progress.registry) :
      ∀ next ∈ later, next = .reap ∨ progress.registry.Tidies next := fun next member =>
    (tidied.tidies next (List.mem_cons_of_mem _ member)).imp_right fun tidies =>
      tidies.mono fun number finished => (spares.finished number).trans finished
  have onward (spares : registry.SparesLive progress.registry)
      (workers : progress.registry.workers.length = registry.workers.length)
      (fresh : ∀ next ∈ progress.todo, progress.registry.Tidies next) :
      origin.Tidied (progress.todo ++ later) progress.registry :=
    ⟨tidied.spares.trans spares, workers.trans tidied.workers, fun next member =>
      (List.mem_append.mp member).elim (fun new => .inr (fresh next new)) (left spares next)⟩
  rcases tidied.tidies task List.mem_cons_self with rfl | tidies
  · cases did
    exact onward (.of_reaped registry) (congrArg List.length registry.workers_reaped)
      (tidies_reaped registry)
  · obtain ⟨-, fresh, -, spares, -⟩ := tidies.done did
    refine onward spares ?_ fresh
    have counted (some : Registry) : some.standings.length = some.workers.length :=
      List.length_map _
    rw [← counted, ← counted]
    obtain same | ⟨launch, rfl, -⟩ | ⟨_, _, _, _, -, -, -, same⟩ :=
      (Task.yields_of_step did).standings_cases
    · rw [same]
    · exact tidies.elim
    · rw [same, List.length_set]

/-- It never waits. -/
theorem isFinished {id : SessionId} {number : WorkerId} {custody : Custody}
    (tidied : origin.Tidied (.join id number custody :: later) registry) :
    registry.isFinished number = true := by
  rcases tidied.tidies _ List.mem_cons_self with same | tidies
  · cases same
  · cases custody with
    | close => exact tidies
    | keep => exact tidies.elim

end Registry.Tidied

namespace Rehearsal

variable {rehearsal after : Rehearsal}

/-- Those who are left alone rest as before. -/
theorem IsSettled.tidied (settled : rehearsal.IsSettled) {todo : List Task}
    (tidied : rehearsal.registry.Tidied todo after.registry)
    (moods : ∀ sink, after.mood? sink = rehearsal.mood? sink) : after.IsSettled := by
  intro number worker known
  cases finished : worker.isFinished with
  | true => exact worker.rests_of_finished finished
  | false =>
    have inside := (List.getElem?_eq_some_iff.mp known).1
    rw [tidied.workers] at inside
    obtain ⟨before, found⟩ : ∃ before, rehearsal.registry.worker? number = some before :=
      ⟨_, List.getElem?_eq_getElem inside⟩
    have running : before.isFinished = false := by
      have same := tidied.spares.finished number
      rw [Registry.isFinished, Registry.isFinished, known, found] at same
      exact same.symm.trans finished
    have stayed := tidied.spares.workers number before found running
    rw [known] at stayed
    cases stayed
    rw [moods]
    exact settled number worker found

/-! ### The steps of a cue -/

theorem stepFor_of_idle (idle : rehearsal.stack = []) (steps : Nat) :
    rehearsal.stepFor steps = rehearsal := by
  cases steps with
  | zero => rfl
  | succ steps => simp [stepFor, idle]

theorem stepFor_succ (busy : rehearsal.stack ≠ []) (steps : Nat) :
    rehearsal.stepFor (steps + 1) = rehearsal.step.stepFor steps := by
  simp [stepFor, busy]

theorem stepFor_add (first second : Nat) :
    rehearsal.stepFor (first + second) = (rehearsal.stepFor first).stepFor second := by
  induction first generalizing rehearsal with
  | zero => rw [Nat.zero_add, stepFor]
  | succ first ih =>
    rw [Nat.add_right_comm]
    by_cases idle : rehearsal.stack = []
    · rw [stepFor_of_idle idle, stepFor_of_idle idle, stepFor_of_idle idle]
    · rw [stepFor_succ idle, stepFor_succ idle, ih]

/-- Once nothing is in progress, further steps change nothing. -/
theorem stepFor_of_le {steps limit : Nat} (idle : (rehearsal.stepFor steps).stack = [])
    (enough : steps ≤ limit) : rehearsal.stepFor limit = rehearsal.stepFor steps := by
  obtain ⟨more, rfl⟩ := Nat.exists_eq_add_of_le enough
  rw [stepFor_add, stepFor_of_idle idle]

/-! ### Clients without a script -/

/-- Whether the clients follow no script. -/
def IsPlain (rehearsal : Rehearsal) : Prop :=
  ∀ client ∈ rehearsal.clients, client.onStarted = [] ∧ client.onUnload = []

theorem IsPlain.listener? (plain : rehearsal.IsPlain) {sink : SinkId} {client : Client}
    (found : rehearsal.listener? sink = some client) :
    client.onStarted = [] ∧ client.onUnload = [] :=
  plain client (List.mem_of_find?_eq_some found)

theorem IsPlain.modifyClient (plain : rehearsal.IsPlain) (name : String)
    (change : Client → Client)
    (scripts : ∀ client, client.onStarted = [] → client.onUnload = [] →
      (change client).onStarted = [] ∧ (change client).onUnload = []) :
    (rehearsal.modifyClient name change).IsPlain := by
  intro client member
  obtain ⟨before, listed, rfl⟩ := List.mem_map.mp member
  obtain ⟨started, unload⟩ := plain before listed
  split
  · exact scripts before started unload
  · exact ⟨started, unload⟩

/-- Whether clients without a script still have none, and are in the moods that they were in. -/
structure Minds (rehearsal after : Rehearsal) : Prop where
  plain : after.IsPlain
  moods : ∀ sink, after.mood? sink = rehearsal.mood? sink

namespace Minds

theorem of_clients (plain : rehearsal.IsPlain) (same : after.clients = rehearsal.clients) :
    rehearsal.Minds after := by
  refine ⟨fun client member => plain client (same ▸ member), fun sink => ?_⟩
  rw [mood?, Rehearsal.listener?, same]
  rfl

theorem trans {middle : Rehearsal} (first : rehearsal.Minds middle)
    (second : middle.Minds after) : rehearsal.Minds after :=
  ⟨second.plain, fun sink => (second.moods sink).trans (first.moods sink)⟩

/-- Something is noted about a client. -/
theorem modifyClient (plain : rehearsal.IsPlain) (name : String) (change : Client → Client)
    (keeps : ∀ client, (change client).sink = client.sink ∧ (change client).mood = client.mood)
    (scripts : ∀ client, client.onStarted = [] → client.onUnload = [] →
      (change client).onStarted = [] ∧ (change client).onUnload = []) :
    rehearsal.Minds (rehearsal.modifyClient name change) := by
  refine ⟨plain.modifyClient name change scripts, fun sink => ?_⟩
  simp only [mood?, Rehearsal.listener?, Rehearsal.modifyClient]
  clear plain
  induction rehearsal.clients with
  | nil => rfl
  | cons client rest ih =>
    have sink : (if client.name == name then change client else client).sink = client.sink := by
      split
      · exact (keeps client).1
      · rfl
    have mood : (if client.name == name then change client else client).mood = client.mood := by
      split
      · exact (keeps client).2
      · rfl
    rw [List.map_cons, List.find?_cons, List.find?_cons, sink]
    split
    · exact congrArg some mood
    · exact ih

end Minds

/-! ### One call in progress -/

/-- What a step does that lets a call do its next task. -/
structure Proceeds (number : Nat) (answer : Except SinkError Unit)
    (rehearsal after : Rehearsal) : Prop where
  system : after.system = rehearsal.system.move (.proceed number answer)
  stack : after.stack = rehearsal.stack
  minds : rehearsal.Minds after

theorem proceeds_move (plain : rehearsal.IsPlain) (number : Nat)
    (answer : Except SinkError Unit) :
    rehearsal.Proceeds number answer (rehearsal.move (.proceed number answer)) :=
  ⟨rfl, rfl, .of_clients plain rfl⟩

/-- A client without a script answers to an acknowledgement and does nothing else. -/
theorem proceeds_acknowledge (plain : rehearsal.IsPlain) (number : Nat) (launch : Launch) :
    ∃ answer, rehearsal.Proceeds number answer (rehearsal.acknowledge number launch) := by
  unfold acknowledge
  split
  · exact ⟨_, proceeds_move plain number _⟩
  · rename_i client found
    have silent := (plain.listener? found).1
    have counted : rehearsal.Minds (rehearsal.modifyClient client.name fun other =>
        { other with offered := client.offered + 1 }) :=
      .modifyClient plain _ _ (fun _ => ⟨rfl, rfl⟩) fun _ started unload => ⟨started, unload⟩
    dsimp only
    split
    · exact ⟨_, rfl, rfl, counted.trans (.of_clients counted.plain rfl)⟩
    · have told := Minds.modifyClient counted.plain client.name
        (fun other => { other with onStarted := other.onStarted.tail })
        (fun _ => ⟨rfl, rfl⟩) fun _ started unload => ⟨by simp [started], unload⟩
      refine ⟨.ok (), rfl, ?_, counted.trans (told.trans (.of_clients told.plain rfl))⟩
      rw [silent]
      rfl

/-- A worker that was told to stop, and whose frame is lost, is done after one step. -/
theorem finished_of_leaving {worker : Worker} (leaving : worker.IsLeaving) (now : Moment)
    (reaction : Reaction)
    (lost : ∀ pixels, worker.phase = .offering pixels → reaction = .answers (.error .closed)) :
    (worker.step now reaction).worker.isFinished = true := by
  rcases leaving with finished | closed
  · rw [worker.step_of_finished _ _ finished]
    exact finished
  · cases was : worker.phase with
    | ready =>
      simp only [Worker.step, was, Session.begin, closed]
      rfl
    | offering pixels =>
      simp only [Worker.step, was, lost pixels was, Session.concludeFrame]
      rfl
    | reporting cause => cases reaction <;> simp only [Worker.step, was] <;> rfl
    | ended | broken => simp only [Worker.step, was, Worker.isFinished]; rfl

/-- A worker that was told to stop is done once it was dismissed. -/
theorem dismiss_cases (plain : rehearsal.IsPlain) {number : WorkerId}
    (leaving : rehearsal.registry.Leaving number) :
    ∃ reaction, rehearsal.dismiss number = rehearsal.move (.work number reaction) ∧
      (rehearsal.registry.work number reaction).isFinished number = true := by
  obtain ⟨worker, known, leaves⟩ := leaving
  have finished (reaction : Reaction) (lost : ∀ pixels, worker.phase = .offering pixels →
      reaction = .answers (.error .closed)) :
      (rehearsal.registry.work number reaction).isFinished number = true := by
    rw [Registry.isFinished, Registry.worker?_work, known]
    exact finished_of_leaving leaves _ reaction lost
  unfold dismiss
  simp only [known]
  cases was : worker.phase with
  | ready | reporting | ended | broken =>
    exact ⟨_, rfl, finished _ fun pixels offers => by rw [was] at offers; cases offers⟩
  | offering pixels =>
    refine ⟨.answers (.error .closed), ?_, finished _ fun _ _ => rfl⟩
    dsimp only
    split
    · rfl
    · rename_i client found
      have silent := (plain.listener? found).2
      rw [silent]
      rfl

/-- One call is in progress, for the lead. -/
structure Flies (settings : Settings) (id : SessionId) (front : List Flight)
    (starts : Option SessionId) (flight : Flight) (rehearsal : Rehearsal) : Prop where
  stack : rehearsal.stack = [.flight front.length starts .lead]
  flights : rehearsal.system.flights = front ++ [flight]
  plain : rehearsal.IsPlain
  tends : rehearsal.registry.Tends settings id flight.todo

/-- What a rehearsal comes to in some steps at most, during which no client changes its mood. -/
structure Passes (limit : Nat) (rehearsal after : Rehearsal) : Prop where
  steps : ∃ steps ≤ limit, after = rehearsal.stepFor steps
  system : ∃ schedule, after.system = rehearsal.system.run schedule
  moods : ∀ sink, after.mood? sink = rehearsal.mood? sink

namespace Passes

variable {limit more : Nat}

theorem refl (limit : Nat) (rehearsal : Rehearsal) : rehearsal.Passes limit rehearsal :=
  ⟨⟨0, Nat.zero_le _, rfl⟩, ⟨[], rfl⟩, fun _ => rfl⟩

theorem mono (passes : rehearsal.Passes limit after) (less : limit ≤ more) :
    rehearsal.Passes more after := by
  obtain ⟨steps, bound, reached⟩ := passes.steps
  exact ⟨⟨steps, bound.trans less, reached⟩, passes.system, passes.moods⟩

theorem trans {middle : Rehearsal} (first : rehearsal.Passes limit middle)
    (second : middle.Passes more after) : rehearsal.Passes (limit + more) after := by
  obtain ⟨early, bound, rfl⟩ := first.steps
  obtain ⟨late, also, rfl⟩ := second.steps
  obtain ⟨schedule, reached⟩ := first.system
  obtain ⟨rest, last⟩ := second.system
  refine ⟨⟨early + late, Nat.add_le_add bound also, (stepFor_add early late).symm⟩,
    ⟨schedule ++ rest, ?_⟩, fun sink => (second.moods sink).trans (first.moods sink)⟩
  rw [last, reached, System.run_append]

theorem step (busy : rehearsal.stack ≠ []) (move : Move)
    (moved : rehearsal.step.system = rehearsal.system.move move)
    (moods : ∀ sink, rehearsal.step.mood? sink = rehearsal.mood? sink) :
    rehearsal.Passes 1 rehearsal.step :=
  ⟨⟨1, Nat.le_refl 1, (stepFor_succ busy 0).symm⟩, ⟨[move], moved⟩, moods⟩

end Passes

namespace Flies

variable {settings : Settings} {id : SessionId} {front : List Flight}
  {starts : Option SessionId} {flight : Flight} {task : Task} {later : List Task}

theorem known (flies : rehearsal.Flies settings id front starts flight) :
    rehearsal.system.flights[front.length]? = some flight := by
  rw [flies.flights, List.getElem?_concat_length]

theorem busy (flies : rehearsal.Flies settings id front starts flight) :
    rehearsal.stack ≠ [] := by
  rw [flies.stack]
  exact List.cons_ne_nil _ _

theorem step_eq (flies : rehearsal.Flies settings id front starts flight) :
    rehearsal.step = rehearsal.resume front.length starts .lead := by
  rw [step, flies.stack]

/-- The call did its next task. -/
theorem proceeded {answer : Except SinkError Unit} {progress : Progress}
    (flies : rehearsal.Flies settings id front starts flight) (next : flight.todo = task :: later)
    (did : task.step rehearsal.registry answer = some progress)
    (proceeds : rehearsal.Proceeds front.length answer after) :
    after.Flies settings id front starts (flight.advance progress later) ∧
      after.registry = progress.registry := by
  have moved : after.system =
      ⟨progress.registry, front ++ [flight.advance progress later]⟩ := by
    rw [proceeds.system, System.move_did flies.known next did, flies.flights,
      List.set_append_right _ _ (Nat.le_refl _), Nat.sub_self]
    rfl
  have registry : after.registry = progress.registry := by rw [Rehearsal.registry, moved]
  refine ⟨⟨proceeds.stack.trans flies.stack, by rw [moved], proceeds.minds.plain, ?_⟩, registry⟩
  rw [registry]
  exact (next ▸ flies.tends).done did

/-- **One step of a call**: its next task is done, or the worker that it waits for comes to its
end. -/
theorem onward (flies : rehearsal.Flies settings id front starts flight)
    (next : flight.todo = task :: later) :
    (∃ answer progress, task.step rehearsal.registry answer = some progress ∧
        rehearsal.Proceeds front.length answer rehearsal.step) ∨
      ∃ other number custody reaction, task = .join other number custody ∧
        rehearsal.registry.isFinished number = false ∧
        rehearsal.step = rehearsal.move (.work number reaction) ∧
        (rehearsal.registry.work number reaction).isFinished number = true := by
  have able (answer : Except SinkError Unit) (ready : ∀ other number custody,
      task = .join other number custody → rehearsal.registry.isFinished number = true) :
      ∃ progress, task.step rehearsal.registry answer = some progress := by
    refine Option.ne_none_iff_exists'.mp fun waits => ?_
    obtain ⟨other, number, custody, same, running⟩ := Task.step_eq_none.mp waits
    rw [ready other number custody same] at running
    cases running
  have plainly (ready : ∀ other number custody,
      task = .join other number custody → rehearsal.registry.isFinished number = true) :
      ∃ answer progress, task.step rehearsal.registry answer = some progress ∧
        rehearsal.Proceeds front.length answer
          (rehearsal.move (.proceed front.length (.ok ()))) := by
    obtain ⟨progress, did⟩ := able (.ok ()) ready
    exact ⟨_, progress, did, proceeds_move flies.plain _ _⟩
  rw [flies.step_eq]
  simp only [resume, flies.known, next]
  cases task with
  | acknowledge launch =>
    obtain ⟨answer, proceeds⟩ := proceeds_acknowledge flies.plain front.length launch
    obtain ⟨progress, did⟩ := able answer fun _ _ _ same => by cases same
    exact .inl ⟨answer, progress, did, proceeds⟩
  | join other number custody =>
    cases finished : rehearsal.registry.isFinished number with
    | true =>
      simp only [finished, if_true]
      refine .inl (plainly fun _ _ _ same => ?_)
      cases same
      exact finished
    | false =>
      simp only [finished, Bool.false_eq_true, if_false]
      obtain ⟨reaction, dismissed, done⟩ := dismiss_cases flies.plain
        (flies.tends.leaving other number custody (by rw [next]; exact List.mem_cons_self))
      exact .inr ⟨other, number, custody, reaction, rfl, finished, dismissed, done⟩
  | _ => exact .inl (plainly fun _ _ _ same => by cases same)

/-- The worker that the call waits for went on. -/
theorem worked (flies : rehearsal.Flies settings id front starts flight) (number : WorkerId)
    (reaction : Reaction) :
    (rehearsal.move (.work number reaction)).Flies settings id front starts flight :=
  ⟨flies.stack, flies.flights, flies.plain, flies.tends.work number reaction⟩

/-- The next task of a call is done after two steps at the latest. -/
theorem next_done (flies : rehearsal.Flies settings id front starts flight)
    (next : flight.todo = task :: later) :
    ∃ after registry answer progress, rehearsal.Passes 2 after ∧
      (registry = rehearsal.registry ∨
        ∃ other number custody reaction, task = .join other number custody ∧
          rehearsal.registry.isFinished number = false ∧
          registry = rehearsal.registry.work number reaction) ∧
      registry.table.size ≤ 1 ∧ task.step registry answer = some progress ∧
      after.Flies settings id front starts (flight.advance progress later) ∧
      after.registry = progress.registry := by
  obtain ⟨answer, progress, did, proceeds⟩ |
    ⟨other, number, custody, reaction, rfl, running, moved, finished⟩ := flies.onward next
  · obtain ⟨onward, registry⟩ := flies.proceeded next did proceeds
    have passes : rehearsal.Passes 1 rehearsal.step :=
      .step flies.busy _ proceeds.system proceeds.minds.moods
    exact ⟨_, _, answer, progress, passes.mono (by decide), .inl rfl,
      flies.tends.hosts.size_le, did, onward, registry⟩
  · -- the worker is done now, so the call need not wait any longer
    have later := flies.worked number reaction
    obtain ⟨answer, progress, did, proceeds⟩ | ⟨_, _, _, _, same, waits, -⟩ := later.onward next
    · obtain ⟨onward, registry⟩ := later.proceeded next did proceeds
      refine ⟨_, _, answer, progress, ?_,
        .inr ⟨other, number, custody, reaction, rfl, running, rfl⟩,
        later.tends.hosts.size_le, did, onward, registry⟩
      have waited : rehearsal.Passes 1 rehearsal.step :=
        .step flies.busy (.work number reaction) (by rw [moved]; rfl) fun _ => by rw [moved]; rfl
      rw [moved] at waited
      exact waited.trans (.step later.busy _ proceeds.system proceeds.minds.moods)
    · cases same
      exact absurd (waits.symm.trans finished) Bool.false_ne_true

/-- **The tasks of a call, one after another**, and what is kept by each. -/
theorem through (holds : List Task → Registry → Prop)
    (does : ∀ {registry : Registry} {task : Task} {later : List Task}
      {answer : Except SinkError Unit} {progress : Progress}, holds (task :: later) registry →
      task.step registry answer = some progress →
      holds (progress.todo ++ later) progress.registry)
    (waits : ∀ {registry : Registry} {other : SessionId} {number : WorkerId} {custody : Custody}
      {later : List Task} (reaction : Reaction),
      holds (.join other number custody :: later) registry →
      registry.isFinished number = false →
      holds (.join other number custody :: later) (registry.work number reaction))
    (limit : Nat) {todo : List Task} (enough : (todo.map Task.span).sum ≤ limit)
    (flies : rehearsal.Flies settings id front starts flight) (next : flight.todo = todo ++ later)
    (start : holds todo rehearsal.registry) :
    ∃ after moved, rehearsal.Passes limit after ∧
      after.Flies settings id front starts moved ∧ moved.call = flight.call ∧
      moved.todo = later ∧ holds [] after.registry := by
  induction limit using Nat.strong_induction_on generalizing rehearsal flight todo with
  | h limit ih =>
    cases todo with
    | nil => exact ⟨rehearsal, flight, .refl _ _, flies, rfl, next, start⟩
    | cons task rest =>
      obtain ⟨after, registry, answer, progress, passes, before, few, did, onward, same⟩ :=
        flies.next_done next
      have ready : holds (task :: rest) registry := by
        obtain rfl | ⟨other, number, custody, reaction, rfl, running, rfl⟩ := before
        · exact start
        · exact waits reaction start running
      have span := Task.span_lt few did
      have left : ((progress.todo ++ rest).map Task.span).sum ≤ limit - 2 := by
        rw [List.map_cons, List.sum_cons] at enough
        rw [List.map_append, List.sum_append]
        omega
      have remaining : (flight.advance progress (rest ++ later)).todo =
          (progress.todo ++ rest) ++ later := (List.append_assoc _ _ _).symm
      obtain ⟨final, moved, more, arrived, call, complete, kept⟩ :=
        ih (limit - 2) (by rw [List.map_cons, List.sum_cons] at enough; omega) left onward
          remaining (same ▸ does ready did)
      exact ⟨final, moved, (passes.trans more).mono (by
        rw [List.map_cons, List.sum_cons] at enough; omega), arrived, call, complete, kept⟩

end Flies

/-! ### Coming to rest -/

/-- Whether a player's rehearsal is at rest: nothing is in progress, no client follows a script, and
no worker can go on by itself. -/
structure AtRest (settings : Settings) (id : SessionId) (rehearsal : Rehearsal) : Prop where
  idle : rehearsal.stack = []
  plain : rehearsal.IsPlain
  hosts : rehearsal.registry.Hosts settings id
  settled : rehearsal.IsSettled

/-- What the last step of a cue does: the workers settle, and the lead gets an outcome. -/
structure Finishes (outcome : Outcome) (rehearsal after : Rehearsal) : Prop where
  idle : after.stack = []
  clients : after.clients = rehearsal.clients
  works : ∃ turns : List (WorkerId × Reaction),
    after.system = rehearsal.system.run (turns.map fun turn => .work turn.1 turn.2)
  settled : after.IsSettled
  still : rehearsal.IsSettled → after.system = rehearsal.system
  outcome : after.outcome = some outcome

theorem finishes_finish (rehearsal : Rehearsal) {activity : Activity}
    (last : rehearsal.stack = [activity]) (outcome : Outcome) :
    rehearsal.Finishes outcome (rehearsal.finish .lead outcome) := by
  let popped : Rehearsal := { rehearsal with stack := rehearsal.stack.tail }
  have works : popped.Works popped.settle := works_settle
  have idle : popped.stack = [] := by
    show rehearsal.stack.tail = []
    rw [last]
    rfl
  exact ⟨works.stack.trans idle, works.clients, works.system, isSettled_settle popped,
    @system_settle popped, rfl⟩

namespace Finishes

variable {settings : Settings} {id : SessionId} {outcome : Outcome}

/-- What a rehearsal that finishes leaves as it is. -/
theorem induct (finishes : rehearsal.Finishes outcome after) (holds : System → Prop)
    (kept : ∀ system number reaction, holds system → holds (system.move (.work number reaction)))
    (start : holds rehearsal.system) : holds after.system := by
  obtain ⟨turns, reached⟩ := finishes.works
  have works : rehearsal.Works { rehearsal with system := after.system } :=
    ⟨rfl, rfl, turns, reached⟩
  exact works.induct holds kept start

theorem atRest (finishes : rehearsal.Finishes outcome after) (plain : rehearsal.IsPlain)
    (hosts : rehearsal.registry.Hosts settings id) : after.AtRest settings id where
  idle := finishes.idle
  plain := (Minds.of_clients plain finishes.clients).plain
  hosts := finishes.induct (fun system => system.registry.Hosts settings id)
    (fun _ number reaction hosts => hosts.work number reaction) hosts
  settled := finishes.settled

theorem flights (finishes : rehearsal.Finishes outcome after) :
    after.system.flights = rehearsal.system.flights :=
  finishes.induct (fun system => system.flights = rehearsal.system.flights)
    (fun _ _ _ same => same) rfl

theorem passes (finishes : rehearsal.Finishes outcome rehearsal.step)
    (busy : rehearsal.stack ≠ []) : rehearsal.Passes 1 rehearsal.step := by
  obtain ⟨turns, reached⟩ := finishes.works
  refine ⟨⟨1, Nat.le_refl 1, (stepFor_succ busy 0).symm⟩, ⟨_, reached⟩, fun sink => ?_⟩
  rw [mood?, Rehearsal.listener?, finishes.clients]
  rfl

end Finishes

/-- A call that has nothing more to do returns, and the cue is over. -/
theorem Flies.finishes {settings : Settings} {id : SessionId} {front : List Flight}
    {starts : Option SessionId} {flight : Flight}
    (flies : rehearsal.Flies settings id front starts flight) (complete : flight.todo = []) :
    ∃ outcome, rehearsal.Finishes outcome rehearsal.step ∧
      ∀ reply, flight.reply = some reply → starts = none → outcome = .reply reply := by
  let noticed : Rehearsal := { rehearsal with notices := flight.notices ++ rehearsal.notices }
  have finishes (outcome : Outcome) :
      rehearsal.Finishes outcome (noticed.finish .lead outcome) := by
    have last := finishes_finish noticed flies.stack outcome
    exact ⟨last.idle, last.clients, last.works, last.settled, last.still, last.outcome⟩
  rw [flies.step_eq]
  simp only [resume, flies.known, complete, land]
  cases flight.reply with
  | none => exact ⟨_, finishes _, fun _ found _ => by cases found⟩
  | some reply =>
    cases starts with
    | none => cases reply <;> exact ⟨_, finishes _, fun _ found _ => by cases found; rfl⟩
    | some started => cases reply <;> exact ⟨_, finishes _, fun _ _ absent => by cases absent⟩

/-! ### Cues -/

/-- A call is begun. -/
theorem flies_enter {settings : Settings} {id : SessionId} {activity : Activity} (call : Call)
    (starts : Option SessionId) (last : rehearsal.stack = [activity]) (plain : rehearsal.IsPlain)
    (tends : (rehearsal.system.begin call).registry.Tends settings id
      (call.tasks rehearsal.registry.sinks)) :
    (rehearsal.enter call starts .lead).Flies settings id rehearsal.system.flights starts
      ⟨call, call.tasks rehearsal.registry.sinks, none, []⟩ := by
  refine ⟨?_, rfl, plain, tends⟩
  show Activity.flight _ _ _ :: rehearsal.stack.tail = _
  rw [last]
  rfl

/-- The end of a cue: once its call has nothing more to do, there are steps left. -/
theorem Flies.closes {settings : Settings} {id : SessionId} {front : List Flight}
    {starts : Option SessionId} {flight : Flight} {begun : Rehearsal} {limit : Nat}
    (passes : begun.Passes limit rehearsal)
    (flies : rehearsal.Flies settings id front starts flight) (complete : flight.todo = [])
    (enough : limit + 1 ≤ stepLimit - 1) :
    ∃ outcome, rehearsal.Finishes outcome (begun.stepFor (stepLimit - 1)) ∧
      begun.Passes (stepLimit - 1) (begun.stepFor (stepLimit - 1)) ∧
      ∀ reply, flight.reply = some reply → starts = none → outcome = .reply reply := by
  obtain ⟨outcome, finishes, replies⟩ := flies.finishes complete
  have all := passes.trans (finishes.passes flies.busy)
  obtain ⟨steps, bound, reached⟩ := all.steps
  have same : begun.stepFor (stepLimit - 1) = rehearsal.step := by
    rw [stepFor_of_le (reached ▸ finishes.idle) (bound.trans enough), reached]
  rw [same]
  exact ⟨outcome, finishes, all.mono enough, replies⟩

/-- **A call that was begun returns before the steps of its cue are used up.** -/
theorem Flies.lands {settings : Settings} {id : SessionId} {front : List Flight}
    {starts : Option SessionId} {call : Call} {sink : SinkId}
    (flies : rehearsal.Flies settings id front starts ⟨call, call.tasks sink, none, []⟩) :
    (rehearsal.stepFor (stepLimit - 1)).AtRest settings id ∧
      (∃ schedule,
        (rehearsal.stepFor (stepLimit - 1)).system = rehearsal.system.run schedule) ∧
      ∃ flight, (rehearsal.stepFor (stepLimit - 1)).system.flights = front ++ [flight] ∧
        flight.call = call ∧ flight.isOver = true := by
  obtain ⟨arrived, moved, passes, there, same, complete, -⟩ := flies.through (fun _ _ => True)
    (fun _ _ => trivial) (fun _ _ _ => trivial) (3 ^ 12) (call.span_le sink)
    (List.append_nil _).symm trivial
  obtain ⟨outcome, finishes, all, -⟩ := there.closes passes complete (by decide)
  exact ⟨finishes.atRest there.plain there.tends.hosts, all.system, moved,
    finishes.flights.trans there.flights, same, by rw [Flight.isOver, complete]; rfl⟩

/-- What a call of the lead leads to: the call has returned, and the rehearsal is at rest. -/
structure Calls (settings : Settings) (id : SessionId) (call : Call)
    (rehearsal after : Rehearsal) : Prop where
  atRest : after.AtRest settings id
  system : ∃ schedule, after.system = rehearsal.system.run schedule
  returned : ∃ flight, after.system.flights = rehearsal.system.flights ++ [flight] ∧
    flight.call = call ∧ flight.isOver = true

/-- Whether a cue has the lead enter a call. -/
def CallsFor (cue : Cue) (call : Call) : Prop :=
  ∀ rehearsal : Rehearsal, rehearsal.perform cue .lead =
    (rehearsal.move (.wait ⟨1⟩)).enter call none .lead

theorem callsFor_call (call : Call) : CallsFor (.call call) call := fun _ => rfl

theorem callsFor_request (id : SessionId) (request : Request) :
    CallsFor (.request (.named id) request) (.session id request) := fun _ => rfl

section Play

variable {settings : Settings} {id : SessionId} {cue : Cue} {call : Call}

/-- The first step of a cue that makes a call. -/
theorem play_begun (rests : rehearsal.AtRest settings id) (asks : CallsFor cue call)
    (starts : call.starts? = none) :
    ∃ begun : Rehearsal, rehearsal.play cue = begun.stepFor (stepLimit - 1) ∧
      begun.Flies settings id rehearsal.system.flights none ⟨call, call.tasks 1, none, []⟩ ∧
      begun.system = rehearsal.system.run [.wait ⟨1⟩, .begin call] ∧
      ∀ sink, begun.mood? sink = rehearsal.mood? sink := by
  let cued : Rehearsal := { rehearsal with stack := [.cue cue .lead], outcome := none }
  let later := cued.move (.wait ⟨1⟩)
  have sinks : later.registry.sinks = 1 := rests.hosts.sinks
  have sinkless : call.sinks = 0 := by rw [System.sinks_begun, starts]; rfl
  have labelled := @System.labelled_begun [id] later.registry.standings call
  rw [starts, Option.toList_none, List.append_nil] at labelled
  have tends : (later.system.begin call).registry.Tends settings id
      (call.tasks later.registry.sinks) := by
    rw [sinks]
    refine ⟨⟨rests.hosts.settings_eq, ?_, ⟨rests.hosts.labelled.slots,
      rests.hosts.labelled.workers⟩, rests.hosts.alone⟩, labelled, fun other number custody waits =>
        absurd waits (call.join_not_mem_tasks _ other number custody)⟩
    show later.registry.sinks + call.sinks = 1
    rw [sinks, sinkless]
  have stack : later.stack = [.cue cue .lead] := rfl
  have flies := flies_enter call none stack rests.plain tends
  rw [sinks] at flies
  refine ⟨later.enter call none .lead, ?_, flies, rfl, fun _ => rfl⟩
  show cued.stepFor (stepLimit - 1 + 1) = _
  rw [stepFor_succ (List.cons_ne_nil _ _)]
  exact congrArg (fun next => stepFor next (stepLimit - 1)) (asks cued)

/-- **Every call returns, and the rehearsal is at rest again.** -/
theorem play_call (rests : rehearsal.AtRest settings id) (asks : CallsFor cue call)
    (starts : call.starts? = none) : rehearsal.Calls settings id call (rehearsal.play cue) := by
  obtain ⟨begun, played, flies, reached, -⟩ := play_begun rests asks starts
  obtain ⟨rested, ⟨schedule, last⟩, returned⟩ := flies.lands
  rw [played]
  exact ⟨rested, ⟨_ ++ schedule, by rw [last, reached, System.run_append]⟩, returned⟩

/-- **What a call answers that only looks**, and that it leaves those alone who have not ended. -/
theorem play_look {look : Task} {answers : Registry → Answer}
    (rests : rehearsal.AtRest settings id) (asks : CallsFor cue call) (starts : call.starts? = none)
    (looks : call.tasks 1 = [.reap, look])
    (looking : ∀ registry answer,
      look.step registry answer = some (registry.answer (.ok (answers registry)))) :
    rehearsal.Calls settings id call (rehearsal.play cue) ∧
      rehearsal.registry.SparesLive (rehearsal.play cue).registry ∧
      (rehearsal.play cue).outcome =
        some (.reply (.ok (answers (rehearsal.play cue).registry))) := by
  refine ⟨play_call rests asks starts, ?_⟩
  obtain ⟨begun, played, flies, reached, moods⟩ := play_begun rests asks starts
  have before : rehearsal.registry.Tidied [.reap] begun.registry := by
    rw [show begun.registry = _ from congrArg System.registry reached]
    exact .begun rehearsal.system call
  have tasks : (⟨call, call.tasks 1, none, []⟩ : Flight).todo = [.reap] ++ [look] := looks
  obtain ⟨arrived, moved, passes, there, -, next, tidied⟩ := flies.through
    (fun todo registry => rehearsal.registry.Tidied todo registry)
    (fun tidied did => tidied.done did)
    (fun _ tidied running => absurd (running.symm.trans tidied.isFinished) Bool.false_ne_true)
    (3 ^ 4) (by decide) tasks before
  -- the look itself is the last task, and the registry stays as it is
  obtain ⟨answer, progress, did, proceeds⟩ | ⟨other, number, custody, _, rfl, running, -⟩ :=
    there.onward next
  · obtain rfl := Option.some.inj ((looking _ answer).symm.trans did)
    obtain ⟨last, same⟩ := there.proceeded next did proceeds
    have looked := passes.trans (.step there.busy _ proceeds.system proceeds.minds.moods)
    obtain ⟨outcome, finishes, -, replies⟩ := last.closes looked rfl (by decide)
    have settled : arrived.step.IsSettled := by
      have last : rehearsal.registry.Tidied [] arrived.step.registry := by
        rw [same]
        exact tidied
      exact rests.settled.tidied last fun sink => (looked.moods sink).trans (moods sink)
    have kept : (rehearsal.play cue).registry = arrived.registry := by
      rw [played, registry, finishes.still settled]
      exact same
    rw [kept]
    refine ⟨tidied.spares, ?_⟩
    rw [played, finishes.outcome, replies _ rfl rfl]
  · have waits : (Task.join other number custody).step arrived.registry (.ok ()) = none :=
      Task.step_eq_none.mpr ⟨other, number, custody, rfl, running⟩
    rw [looking _ (.ok ())] at waits
    cases waits

end Play

end Rehearsal

end Arcade
