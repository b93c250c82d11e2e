/-
**Key events on their way to a machine.**

Any number of senders queue key events for a machine, while its owner drains the queue: it receives
one event after the other, until none is waiting, and then runs a batch of steps. A sender may come
between any two of these. So the acts of all of them are interleaved in any order, and a run is a
list of acts. From the acts one reads off which events were accepted and which were applied.

* `Feed.run_drain`, `Feed.run_cycle`: a drain that nobody interrupts is the drain of the console;
* `Feed.Orderly.act`: what each act keeps;
* `Feed.fed_in_order`: no event is lost or overtaken, and the queue refuses events exactly when it
  is full or the machine is gone.
-/

import Arcade.Console
import Arcade.Proofs.Machine.Keypad

namespace Arcade

/-! ### A machine, its owner and the senders -/

/-- What the owner of a machine is in the middle of. -/
inductive Stage where
  | idle
  /-- It receives what is waiting, and runs a batch of steps after that, if it was asked to. -/
  | draining (batch : Option Nat)
  /-- The machine is gone. -/
  | gone
  deriving DecidableEq

/-- A machine behind its queue, and what its owner does with it. -/
structure Feed where
  console : Console
  stage : Stage

/-- What may happen around a machine behind its queue. -/
inductive FeedAct where
  /-- One of the senders queues an event, if there is room. -/
  | send (sender : Nat) (event : KeyEvent)
  /-- The owner begins to drain the queue, for a batch of steps or for its own sake. -/
  | drain (batch : Option Nat)
  /-- The owner receives the oldest event; if there is none, the drain is over and the batch is
  run. -/
  | receive
  /-- The owner gives the machine up. -/
  | drop

namespace Feed

/-- A machine behind an empty queue. -/
def new (machine : Machine) (capacity : Nat) : Feed := ⟨Console.new machine capacity, .idle⟩

/-- What a sender is told that queues an event. -/
def answer (feed : Feed) (event : KeyEvent) : Except SendError Unit :=
  (feed.console.send event).map fun _ => ()

/-- The console once the queue was found empty: the batch is run. -/
def finish (console : Console) : (batch : Option Nat) → Console
  | some count => { console with machine := (console.machine.cycle count).machine }
  | none => console

/-- What is left after an act. An act that is not possible changes nothing. -/
def act (feed : Feed) : FeedAct → Feed
  | .send _ event =>
    match feed.console.send event with
    | .ok console => { feed with console }
    | .error _ => feed
  | .drain batch =>
    match feed.stage with
    | .idle => { feed with stage := .draining batch }
    | .draining _ | .gone => feed
  | .receive =>
    match feed.stage with
    | .draining batch =>
      match feed.console.applyOldest? with
      | some console => { feed with console }
      | none => ⟨finish feed.console batch, .idle⟩
    | .idle | .gone => feed
  | .drop =>
    match feed.stage with
    | .idle => ⟨feed.console.release, .gone⟩
    | .draining _ | .gone => feed

/-- What is left after some acts. -/
def run (feed : Feed) (acts : List FeedAct) : Feed := acts.foldl act feed

/-- The event that is accepted in an act. -/
def accepts? (feed : Feed) : FeedAct → Option KeyEvent
  | .send _ event =>
    match feed.answer event with
    | .ok _ => some event
    | .error _ => none
  | .drain _ | .receive | .drop => none

/-- The event that is applied in an act. -/
def applies? (feed : Feed) : FeedAct → Option KeyEvent
  | .receive =>
    match feed.stage with
    | .draining _ => feed.console.keys.waiting.head?
    | .idle | .gone => none
  | .send _ _ | .drain _ | .drop => none

/-- The events that are accepted in the course of some acts, in order. -/
def accepted (feed : Feed) : List FeedAct → List KeyEvent
  | [] => []
  | act :: rest => (feed.accepts? act).toList ++ (feed.act act).accepted rest

/-- The events that are applied in the course of some acts, in order. -/
def applied (feed : Feed) : List FeedAct → List KeyEvent
  | [] => []
  | act :: rest => (feed.applies? act).toList ++ (feed.act act).applied rest

theorem run_cons (feed : Feed) (act : FeedAct) (rest : List FeedAct) :
    feed.run (act :: rest) = (feed.act act).run rest := rfl

theorem run_concat (feed : Feed) (acts : List FeedAct) (act : FeedAct) :
    feed.run (acts ++ [act]) = (feed.run acts).act act := by
  rw [run, List.foldl_append, List.foldl_cons, List.foldl_nil, run]

theorem accepted_concat (feed : Feed) (acts : List FeedAct) (act : FeedAct) :
    feed.accepted (acts ++ [act]) =
      feed.accepted acts ++ ((feed.run acts).accepts? act).toList := by
  induction acts generalizing feed with
  | nil => exact List.append_nil _
  | cons first rest ih => rw [List.cons_append, accepted, ih, accepted, List.append_assoc, run_cons]

theorem applied_concat (feed : Feed) (acts : List FeedAct) (act : FeedAct) :
    feed.applied (acts ++ [act]) =
      feed.applied acts ++ ((feed.run acts).applies? act).toList := by
  induction acts generalizing feed with
  | nil => exact List.append_nil _
  | cons first rest ih => rw [List.cons_append, applied, ih, applied, List.append_assoc, run_cons]

/-! ### Drains that nobody interrupts -/

/-- Receiving takes the oldest event from those that wait. -/
theorem applyOldest?_of_waiting {console : Console} {event : KeyEvent} {rest : List KeyEvent}
    (content : console.keys.waiting = event :: rest) :
    ∃ keys : Channel KeyEvent, console.applyOldest? = some ⟨console.machine.applyKey event, keys⟩ ∧
      keys.capacity = console.keys.capacity ∧ keys.connected = console.keys.connected ∧
      keys.waiting = rest := by
  obtain ⟨machine, capacity, waiting, connected, bound⟩ := console
  obtain rfl : waiting = event :: rest := content
  exact ⟨_, rfl, rfl, rfl, rfl⟩

theorem applyOldest?_of_empty {console : Console} (content : console.keys.waiting = []) :
    console.applyOldest? = none := by
  obtain ⟨machine, capacity, waiting, connected, bound⟩ := console
  obtain rfl : waiting = [] := content
  rfl

/-- **A drain that nobody interrupts is the drain of the console.** -/
theorem run_drain (console : Console) (batch : Option Nat) :
    (⟨console, .draining batch⟩ : Feed).run
        (List.replicate console.keys.waiting.length .receive) =
      ⟨console.drain, .draining batch⟩ := by
  generalize content : console.keys.waiting = waiting
  induction waiting generalizing console with
  | nil =>
    obtain ⟨machine, capacity, waiting, connected, bound⟩ := console
    obtain rfl : waiting = [] := content
    rfl
  | cons event rest ih =>
    obtain ⟨keys, oldest, capacity, connected, left⟩ := applyOldest?_of_waiting content
    have received : (⟨console, .draining batch⟩ : Feed).act .receive =
        ⟨⟨console.machine.applyKey event, keys⟩, .draining batch⟩ := by
      simp only [act, oldest]
    have drained : (⟨console.machine.applyKey event, keys⟩ : Console).drain = console.drain := by
      simp only [Console.drain, content, left, Console.applyAll_cons, Channel.emptied, capacity,
        connected]
    rw [List.length_cons, List.replicate_succ, run_cons, received, ih _ left, drained]

/-- **A cycle that nobody interrupts is the cycle of the console.** -/
theorem run_cycle (console : Console) (count : Nat) :
    (⟨console, .idle⟩ : Feed).run
        (.drain (some count) :: List.replicate (console.keys.waiting.length + 1) .receive) =
      ⟨(console.cycle count).machine, .idle⟩ := by
  have begun : (⟨console, .idle⟩ : Feed).act (.drain (some count)) =
      ⟨console, .draining (some count)⟩ := rfl
  have empty : console.drain.applyOldest? = none := applyOldest?_of_empty rfl
  rw [run_cons, begun, List.replicate_succ', run_concat, run_drain]
  simp only [act, empty, finish, Console.cycle]

/-! ### What each act keeps -/

/-- What holds of a machine behind its queue after some events were accepted and some applied. -/
structure Orderly (machine : Machine) (capacity : Nat) (feed : Feed)
    (accepted applied : List KeyEvent) : Prop where
  capacity : feed.console.keys.capacity = capacity
  connected : feed.console.keys.connected = true ↔ feed.stage ≠ .gone
  /-- While the machine lives, what was accepted was applied or is waiting, in order. -/
  order : feed.stage ≠ .gone → applied ++ feed.console.keys.waiting = accepted
  /-- Nothing else is ever applied. -/
  begun : applied <+: accepted
  keypad : feed.console.machine.keypad = applied.foldl Keypad.apply machine.keypad

variable {machine : Machine} {capacity : Nat} {feed : Feed} {accepted applied : List KeyEvent}

/-- An event is accepted at the end of the queue, or nothing changes. -/
theorem send_cases (feed : Feed) (sender : Nat) (event : KeyEvent) :
    (∃ keys, feed.console.keys.send event = .ok keys ∧
        feed.accepts? (.send sender event) = some event ∧
        feed.act (.send sender event) = ⟨{ feed.console with keys }, feed.stage⟩) ∨
      ∃ cause, feed.console.keys.send event = .error cause ∧
        feed.accepts? (.send sender event) = none ∧ feed.act (.send sender event) = feed := by
  have split : feed.console.send event =
      (feed.console.keys.send event).map fun keys => { feed.console with keys } := by
    rw [Console.send]
    cases feed.console.keys.send event <;> rfl
  cases sent : feed.console.keys.send event with
  | ok keys =>
    rw [sent] at split
    exact .inl ⟨keys, rfl, by simp [accepts?, answer, split, Except.map],
      by simp [act, split, Except.map]⟩
  | error cause =>
    rw [sent] at split
    exact .inr ⟨cause, rfl, by simp [accepts?, answer, split, Except.map],
      by simp [act, split, Except.map]⟩

theorem Orderly.send (orderly : Orderly machine capacity feed accepted applied) (sender : Nat)
    (event : KeyEvent) :
    Orderly machine capacity (feed.act (.send sender event))
      (accepted ++ (feed.accepts? (.send sender event)).toList) applied := by
  obtain ⟨keys, sent, accepts, acted⟩ | ⟨cause, -, accepts, acted⟩ := feed.send_cases sender event
  · have appended := Channel.waiting_send sent
    obtain ⟨sameCapacity, sameConnected⟩ := Channel.frame_send sent
    rw [accepts, acted]
    exact {
      capacity := sameCapacity.trans orderly.capacity
      connected := by rw [sameConnected]; exact orderly.connected
      order := fun lives => by
        rw [appended, ← List.append_assoc, orderly.order lives]
        rfl
      begun := orderly.begun.trans (List.prefix_append _ _)
      keypad := orderly.keypad }
  · rw [accepts, acted, Option.toList_none, List.append_nil]
    exact orderly

theorem Orderly.receive (orderly : Orderly machine capacity feed accepted applied) :
    Orderly machine capacity (feed.act .receive) accepted
      (applied ++ (feed.applies? .receive).toList) := by
  cases stage : feed.stage with
  | idle =>
    simp only [act, applies?, stage, Option.toList_none, List.append_nil]
    exact orderly
  | gone =>
    simp only [act, applies?, stage, Option.toList_none, List.append_nil]
    exact orderly
  | draining batch =>
    have lives : feed.stage ≠ .gone := by simp [stage]
    have order := orderly.order lives
    cases content : feed.console.keys.waiting with
    | nil =>
      simp only [act, applies?, stage, applyOldest?_of_empty content, content, List.head?_nil,
        Option.toList_none, List.append_nil]
      have keys : (finish feed.console batch).keys = feed.console.keys := by cases batch <;> rfl
      have keypad : (finish feed.console batch).machine.keypad = feed.console.machine.keypad := by
        cases batch with
        | none => rfl
        | some count => exact feed.console.machine.keypad_cycle count
      exact {
        capacity := keys ▸ orderly.capacity
        connected := by
          rw [keys]
          exact iff_of_true (orderly.connected.mpr lives) (by simp)
        order := fun _ => keys ▸ order
        begun := orderly.begun
        keypad := keypad.trans orderly.keypad }
    | cons event rest =>
      obtain ⟨keys, oldest, sameCapacity, sameConnected, left⟩ := applyOldest?_of_waiting content
      simp only [act, applies?, stage, oldest, content, List.head?_cons, Option.toList_some]
      have moved : (applied ++ [event]) ++ rest = accepted := by
        rw [← order, content, List.append_assoc]
        rfl
      exact {
        capacity := sameCapacity.trans orderly.capacity
        connected := by rw [sameConnected, orderly.connected, stage]
        order := fun _ => by rw [left, moved]
        begun := ⟨rest, moved⟩
        keypad := by
          rw [List.foldl_append, ← orderly.keypad]
          rfl }

/-- **What each act keeps.** -/
theorem Orderly.act (orderly : Orderly machine capacity feed accepted applied) (act : FeedAct) :
    Orderly machine capacity (feed.act act) (accepted ++ (feed.accepts? act).toList)
      (applied ++ (feed.applies? act).toList) := by
  cases act with
  | send sender event =>
    rw [applies?, Option.toList_none, List.append_nil]
    exact orderly.send sender event
  | receive =>
    rw [accepts?, Option.toList_none, List.append_nil]
    exact orderly.receive
  | drain batch =>
    rw [accepts?, applies?, Option.toList_none, List.append_nil, List.append_nil]
    cases stage : feed.stage with
    | idle =>
      simp only [Feed.act, stage]
      have lives : feed.stage ≠ .gone := by simp [stage]
      exact { orderly with
        connected := iff_of_true (orderly.connected.mpr lives) (by simp)
        order := fun _ => orderly.order lives }
    | draining other => simpa only [Feed.act, stage] using orderly
    | gone => simpa only [Feed.act, stage] using orderly
  | drop =>
    rw [accepts?, applies?, Option.toList_none, List.append_nil, List.append_nil]
    cases stage : feed.stage with
    | idle =>
      simp only [Feed.act, stage]
      exact { orderly with
        connected := iff_of_false (fun connected => by cases connected) (not_not_intro rfl)
        order := fun lives => absurd rfl lives }
    | draining other => simpa only [Feed.act, stage] using orderly
    | gone => simpa only [Feed.act, stage] using orderly

/-! ### All acts -/

theorem orderly_new (machine : Machine) (capacity : Nat) :
    Orderly machine capacity (new machine capacity) [] [] where
  capacity := rfl
  connected := iff_of_true rfl fun gone => by cases gone
  order _ := rfl
  begun := List.prefix_rfl
  keypad := rfl

/-- However the acts are interleaved, the events keep their order. -/
theorem orderly_run (machine : Machine) (capacity : Nat) (acts : List FeedAct) :
    Orderly machine capacity ((new machine capacity).run acts)
      ((new machine capacity).accepted acts) ((new machine capacity).applied acts) := by
  induction acts using List.reverseRecOn with
  | nil => exact orderly_new machine capacity
  | append_singleton acts act ih =>
    rw [run_concat, accepted_concat, applied_concat]
    exact ih.act act

/-- What a sender is told. -/
theorem Orderly.answer_eq (orderly : Orderly machine capacity feed accepted applied)
    (event : KeyEvent) :
    feed.answer event =
      if feed.stage = .gone then .error .disconnected
      else if feed.console.keys.waiting.length = max 1 capacity then .error .full
      else .ok () := by
  have told : feed.answer event = (feed.console.keys.send event).map fun _ => () := by
    rw [answer, Console.send]
    cases feed.console.keys.send event <;> rfl
  have room : feed.console.keys.room = max 1 capacity := by
    rw [Channel.room, orderly.capacity, channelRoom]
  rw [told]
  by_cases gone : feed.stage = .gone
  · have disconnected : feed.console.keys.connected = false := by
      rw [← Bool.not_eq_true, orderly.connected, not_not]
      exact gone
    rw [Channel.send_eq_disconnected.mpr disconnected, if_pos gone]
    rfl
  · rw [if_neg gone]
    by_cases full : feed.console.keys.waiting.length = max 1 capacity
    · rw [Channel.send_eq_full.mpr ⟨orderly.connected.mpr gone, full.trans room.symm⟩, if_pos full]
      rfl
    · rw [if_neg full]
      cases sent : feed.console.keys.send event with
      | ok keys => rfl
      | error cause =>
        cases cause with
        | full => exact absurd ((Channel.send_eq_full.mp sent).2.trans room) full
        | disconnected =>
          have disconnected := Channel.send_eq_disconnected.mp sent
          rw [orderly.connected.mpr gone] at disconnected
          cases disconnected

/-- **Key events are neither lost nor reordered, and are refused only when they must be.** Whatever
senders do between the steps of the owner: while the machine lives, the events that were applied and
those that wait are the accepted ones in the order of their acceptance, and after that nothing else
was applied. The queue never holds more than its capacity, and at least one. An event is refused for
lack of room exactly when as many wait, and for lack of a machine exactly when it is gone, and what
is refused changes nothing. A key is as the last event for it that was applied left it. The steps of
the owner come to the drain of the console and to its cycle when nobody interrupts them. -/
theorem fed_in_order (machine : Machine) (capacity : Nat) (acts : List FeedAct) :
    let start := new machine capacity
    let feed := start.run acts
    (feed.stage ≠ .gone →
        start.applied acts ++ feed.console.keys.waiting = start.accepted acts) ∧
      start.applied acts <+: start.accepted acts ∧
      feed.console.keys.waiting.length ≤ max 1 capacity ∧
      (∀ event, feed.answer event =
        if feed.stage = .gone then .error .disconnected
        else if feed.console.keys.waiting.length = max 1 capacity then .error .full
        else .ok ()) ∧
      (∀ sender event cause, feed.answer event = .error cause →
        feed.act (.send sender event) = feed) ∧
      (∀ key : Key, feed.console.machine.keypad.bits.testBit key =
        match lastEvent? (start.applied acts) key with
        | some event => event.pressed
        | none => machine.keypad.bits.testBit key) ∧
      (∀ batch, feed.stage = .draining batch →
        feed.run (List.replicate feed.console.keys.waiting.length .receive) =
          ⟨feed.console.drain, .draining batch⟩) ∧
      (feed.stage = .idle → ∀ count,
        feed.run (.drain (some count) ::
            List.replicate (feed.console.keys.waiting.length + 1) .receive) =
          ⟨(feed.console.cycle count).machine, .idle⟩) := by
  intro start feed
  have orderly : Orderly machine capacity feed (start.accepted acts) (start.applied acts) :=
    orderly_run machine capacity acts
  refine ⟨orderly.order, orderly.begun, ?_, orderly.answer_eq, fun sender event cause refused => ?_,
    fun key => ?_, fun batch draining => ?_, fun idle count => ?_⟩
  · have bound := feed.console.keys.waiting_le
    rwa [orderly.capacity] at bound
  · obtain ⟨keys, sent, accepts, -⟩ | ⟨-, -, -, acted⟩ := feed.send_cases sender event
    · rw [accepts?, refused] at accepts
      cases accepts
    · exact acted
  · rw [Keypad.testBit_bits, orderly.keypad, Keypad.isDown_foldl]
    cases lastEvent? (start.applied acts) key with
    | some event => rfl
    | none => exact (machine.keypad.testBit_bits key).symm
  · have drained := run_drain feed.console batch
    rw [← draining] at drained ⊢
    exact drained
  · have cycled := run_cycle feed.console count
    rw [← idle] at cycled ⊢
    exact cycled

end Feed

end Arcade
