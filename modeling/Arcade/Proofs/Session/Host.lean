/-
**A session hosts its machine faithfully.**

A session lets its machine run in batches and shows the client a frame after each. Meanwhile others
pause it, change its parameters and press keys, at any time: also between the two halves of a tick,
the batch and the delivery of its frame. An observer who sees only the acts writes a `Journal`:
which key events were accepted before each running tick, how many steps the tick was to have, and
which changes were accepted before each frame was delivered. A bare machine that is played by the
journal (`Machine.afterBeats`) shows the same frames and ends in the same state. So nothing else
matters: pauses and ticks at a paused gate leave no trace.

* `Host.act_tick`: a tick is the two halves, one after the other;
* `Host.beats_eq_of_score`: runs that accept the same events and changes have the same beats;
* `Host.faithful`: what the client got are the frames of the bare machine.
-/

import Arcade.Console
import Arcade.Session.Basic
import Mathlib.Data.List.Induction

namespace Arcade

/-! ### A session and those around it -/

/-- The frames among the messages that were delivered, in order. -/
def Mailbox.frames (mailbox : Mailbox) : List (List UInt8) :=
  mailbox.messages.filterMap fun message =>
    match message with
    | .frame pixels => some pixels
    | .started _ | .error _ => none

/-- What may happen around a session. -/
inductive Act where
  /-- A tick begins: if the gate is open, the batch of a frame is run. -/
  | begin (now : Moment)
  /-- The frame of the tick is handed over, and the tick ends. -/
  | conclude
  | pause
  | unpause
  | toggle
  /-- A parameter change is queued, if there is room. -/
  | change (change : ParamChange)
  /-- A key event is queued, if there is room. -/
  | press (event : KeyEvent)
  /-- The client stops listening. -/
  | hangUp

/-- A session that runs for a client with a mailbox. -/
structure Host where
  session : Session Console
  /-- The frame that waits to be handed over, while a tick is in progress. -/
  hand : Option (List UInt8)
  mailbox : Mailbox

namespace Host

/-- A session that has not run yet, and a client that listens. -/
def new (id : SessionId) (machine : Machine) (capacity : Nat)
    (frameRate cyclesPerFrame : Positive32) (paramCapacity : Nat) (now : Moment) : Host where
  session :=
    Session.new id (Console.new machine capacity) frameRate cyclesPerFrame paramCapacity now
  hand := none
  mailbox := Mailbox.empty

/-- The host after an act. An act that is not possible changes nothing. -/
def act (host : Host) : Act → Host
  | .begin now =>
    match host.hand, host.session.begin now with
    | some _, _ | none, .paused | none, .stopped => host
    | none, .faulted session cause _ =>
      { host with
        session := session.concludeFault
        mailbox := (Sink.send host.mailbox (.error cause.message)).2 }
    | none, .framed session pixels _ => { host with session, hand := some pixels }
  | .conclude =>
    match host.hand with
    | none => host
    | some pixels =>
      let (answer, mailbox) := Sink.send host.mailbox (.frame pixels)
      ⟨(host.session.concludeFrame answer).2, none, mailbox⟩
  | .pause => { host with session := host.session.pause.2 }
  | .unpause => { host with session := host.session.unpause.2 }
  | .toggle => { host with session := host.session.toggle.2 }
  | .change change =>
    match host.session.putParams (.change change) with
    | .ok session => { host with session }
    | .error _ => host
  | .press event =>
    match host.session.machine.send event with
    | .ok machine => { host with session := { host.session with machine } }
    | .error _ => host
  | .hangUp => { host with mailbox := host.mailbox.hangUp }

/-- The host after some acts. -/
def run (host : Host) (acts : List Act) : Host := acts.foldl act host

/-- The frames that the client got, in order. -/
def frames (host : Host) : List (List UInt8) := host.mailbox.frames

/-- **A tick is its two halves**, with nothing in between. -/
theorem act_tick (host : Host) (now : Moment) (idle : host.hand = none) :
    (host.act (.begin now)).act .conclude =
      ⟨(host.session.tick host.mailbox now).session, none,
        (host.session.tick host.mailbox now).sink⟩ := by
  obtain ⟨session, hand, mailbox⟩ := host
  simp only at idle
  subst idle
  simp only [act, Session.tick]
  cases session.begin now with
  | paused => rfl
  | stopped => rfl
  | faulted ran cause notices => rfl
  | framed ran pixels notices => rfl

end Host

/-! ### The journal -/

/-- A running tick, as far as the machine is concerned. -/
structure Beat where
  /-- The key events that were accepted after the tick before had taken its own. -/
  events : List KeyEvent
  /-- How many steps the batch has. -/
  cycles : Nat
  deriving DecidableEq

/-- What a bare machine does in a beat: it applies the events and runs the batch. -/
def Beat.batch (beat : Beat) (machine : Machine) : Batch Machine :=
  (beat.events.foldl Machine.applyKey machine).cycle beat.cycles

namespace Machine

/-- The bare machine after some beats. -/
def afterBeats (machine : Machine) (beats : List Beat) : Machine :=
  beats.foldl (fun machine (beat : Beat) => (beat.batch machine).machine) machine

/-- Whether the bare machine plays some beats without a fault. -/
def FaultFree (machine : Machine) (beats : List Beat) : Prop :=
  ∀ (k : Nat) (beat : Beat), beats[k]? = some beat →
    (beat.batch (machine.afterBeats (beats.take k))).fault = none

instance (machine : Machine) (beats : List Beat) : Decidable (machine.FaultFree beats) :=
  decidable_of_iff
    (∀ k, ∀ inside : k < beats.length,
      (beats[k].batch (machine.afterBeats (beats.take k))).fault = none) <| by
    constructor
    · intro each k beat found
      obtain ⟨inside, rfl⟩ := List.getElem?_eq_some_iff.mp found
      exact each k inside
    · intro free k inside
      exact free k beats[k] (List.getElem?_eq_getElem inside)

end Machine

/-- What an observer writes down of the acts on a session. -/
structure Journal where
  /-- The key events that were accepted since the latest running tick began. -/
  pressed : List KeyEvent
  /-- The changes that were accepted since the latest frame was delivered. -/
  wished : List ParamChange
  /-- The running ticks that began. -/
  beats : List Beat
  /-- For each frame that was delivered, the changes that were accepted since the frame before. -/
  wishes : List (List ParamChange)

/-- A journal in which nothing is written yet. -/
def Journal.blank : Journal := ⟨[], [], [], []⟩

namespace Host

/-- What the observer adds to the journal on an act. -/
def note (host : Host) (journal : Journal) : Act → Journal
  | .begin _ =>
    if host.hand = none ∧ host.session.gate = .running then
      { journal with
        pressed := []
        beats := journal.beats ++ [⟨journal.pressed, host.session.cyclesPerFrame.toNat⟩] }
    else journal
  | .conclude =>
    match host.hand.map fun pixels => (Sink.send host.mailbox (.frame pixels)).1 with
    | some (.ok _) => { journal with wished := [], wishes := journal.wishes ++ [journal.wished] }
    | some (.error _) | none => journal
  | .change change =>
    match host.session.putParams (.change change) with
    | .ok _ => { journal with wished := journal.wished ++ [change] }
    | .error _ => journal
  | .press event =>
    match host.session.machine.send event with
    | .ok _ => { journal with pressed := journal.pressed ++ [event] }
    | .error _ => journal
  | .pause | .unpause | .toggle | .hangUp => journal

/-- The journal of some acts, continued from a given one. -/
def journalFrom (host : Host) (journal : Journal) : List Act → Journal
  | [] => journal
  | act :: rest => (host.act act).journalFrom (host.note journal act) rest

/-- The journal of some acts. -/
def journal (host : Host) (acts : List Act) : Journal := host.journalFrom Journal.blank acts

/-- The beats of some acts. -/
def beats (host : Host) (acts : List Act) : List Beat := (host.journal acts).beats

/-- What was accepted in the course of some acts: the key events before each running tick, and the
changes before each frame. -/
def score (host : Host) (acts : List Act) : List (List KeyEvent) × List (List ParamChange) :=
  ((host.beats acts).map Beat.events, (host.journal acts).wishes)

theorem journalFrom_append (host : Host) (journal : Journal) (first second : List Act) :
    host.journalFrom journal (first ++ second) =
      (host.run first).journalFrom (host.journalFrom journal first) second := by
  induction first generalizing host journal with
  | nil => rfl
  | cons act rest ih => rw [List.cons_append, journalFrom, ih]; rfl

theorem run_concat (host : Host) (acts : List Act) (act : Act) :
    host.run (acts ++ [act]) = (host.run acts).act act := by
  rw [run, List.foldl_append]
  rfl

theorem journal_concat (host : Host) (acts : List Act) (act : Act) :
    host.journal (acts ++ [act]) = (host.run acts).note (host.journal acts) act := by
  rw [journal, journalFrom_append]
  rfl

end Host

/-! ### The parts of a session that its queue of changes touches -/

/-- The speed after some changes. -/
def paceAfter (pace : Positive32) (changes : List ParamChange) : Positive32 :=
  changes.foldl (fun pace change => change.cyclesPerFrame.getD pace) pace

namespace Session

variable {M : Type} (session : Session M)

theorem changesBeforeWake_map (changes : List ParamChange) :
    changesBeforeWake (changes.map ParamMessage.change) = (changes, changes.length) := by
  induction changes with
  | nil => rfl
  | cons change rest ih => simp only [List.map_cons, changesBeforeWake, ih, List.length_cons]

/-- A change sets the speed and otherwise only how frames are timed. -/
theorem applyChange_eq (change : ParamChange) :
    (session.applyChange change).machine = session.machine ∧
      (session.applyChange change).gate = session.gate ∧
      (session.applyChange change).params = session.params ∧
      (session.applyChange change).cyclesPerFrame =
        change.cyclesPerFrame.getD session.cyclesPerFrame := by
  unfold applyChange
  cases change.cyclesPerFrame <;> cases change.frameRate <;> exact ⟨rfl, rfl, rfl, rfl⟩

theorem foldl_applyChange_eq (changes : List ParamChange) :
    (changes.foldl applyChange session).machine = session.machine ∧
      (changes.foldl applyChange session).gate = session.gate ∧
      (changes.foldl applyChange session).params = session.params ∧
      (changes.foldl applyChange session).cyclesPerFrame =
        paceAfter session.cyclesPerFrame changes := by
  induction changes generalizing session with
  | nil => exact ⟨rfl, rfl, rfl, rfl⟩
  | cons change rest ih =>
    obtain ⟨machine, gate, params, pace⟩ := ih (session.applyChange change)
    obtain ⟨oneMachine, oneGate, oneParams, onePace⟩ := session.applyChange_eq change
    rw [List.foldl_cons, machine, gate, params, pace, oneMachine, oneGate, oneParams, onePace]
    exact ⟨rfl, rfl, rfl, rfl⟩

/-- All changes that wait are carried out, and none is left. -/
theorem applyParams_eq {changes : List ParamChange}
    (waiting : session.params.waiting = changes.map ParamMessage.change) :
    session.applyParams.machine = session.machine ∧
      session.applyParams.gate = session.gate ∧
      session.applyParams.params.waiting = [] ∧
      session.applyParams.cyclesPerFrame = paceAfter session.cyclesPerFrame changes := by
  have taken : session.applyParams = changes.foldl applyChange
      { session with params := session.params.discard changes.length } := by
    rw [applyParams, waiting, changesBeforeWake_map]
  obtain ⟨machine, gate, params, pace⟩ := foldl_applyChange_eq
    { session with params := session.params.discard changes.length } changes
  rw [taken]
  refine ⟨machine, gate, ?_, pace⟩
  rw [params]
  simp [Channel.discard, waiting]

end Session

/-! ### The session follows the bare machine -/

theorem paceAfter_append (pace : Positive32) (first second : List ParamChange) :
    paceAfter pace (first ++ second) = paceAfter (paceAfter pace first) second :=
  List.foldl_append

namespace Machine

theorem afterBeats_concat (machine : Machine) (beats : List Beat) (beat : Beat) :
    machine.afterBeats (beats ++ [beat]) = (beat.batch (machine.afterBeats beats)).machine := by
  rw [afterBeats, List.foldl_append]
  rfl

/-- The pictures of the bare machine after each of the first beats. -/
def pictures (machine : Machine) (beats : List Beat) (count : Nat) : List (List UInt8) :=
  (List.range count).map fun k => (machine.afterBeats (beats.take (k + 1))).display.frame

/-- A further beat does not change the pictures of the beats before. -/
theorem pictures_concat (machine : Machine) {beats : List Beat} {count : Nat}
    (enough : count ≤ beats.length) (beat : Beat) :
    machine.pictures (beats ++ [beat]) count = machine.pictures beats count := by
  refine List.map_congr_left fun k member => ?_
  have inside : k + 1 ≤ beats.length := Nat.le_trans (List.mem_range.mp member) enough
  rw [List.take_append_of_le_length inside]

theorem pictures_succ (machine : Machine) {beats : List Beat} {count : Nat}
    (last : beats.length = count + 1) :
    machine.pictures beats (count + 1) =
      machine.pictures beats count ++ [(machine.afterBeats beats).display.frame] := by
  rw [pictures, List.range_succ, List.map_append, List.map_singleton, ← last, List.take_length,
    pictures]

end Machine

namespace Host

/-- What holds of a host that is followed by a journal, if at first it had a machine and a speed. -/
structure Follows (machine : Machine) (pace : Positive32) (host : Host) (journal : Journal) :
    Prop where
  opened : host.mailbox.opened = true
  /-- The client got the pictures of the bare machine. -/
  shown : host.frames = machine.pictures journal.beats journal.wishes.length
  enough : journal.wishes.length ≤ journal.beats.length
  /-- Each tick has the speed that the changes before the latest frame set. -/
  paced : ∀ (k : Nat) (beat : Beat), journal.beats[k]? = some beat →
    beat.cycles = (paceAfter pace (journal.wishes.take k).flatten).toNat
  handed : ∀ pixels, host.hand = some pixels →
    host.session.gate ≠ .stopped ∧ journal.beats.length = journal.wishes.length + 1 ∧
      pixels = (machine.afterBeats journal.beats).display.frame
  idle : host.hand = none → host.session.gate ≠ .stopped →
    journal.beats.length = journal.wishes.length
  played : host.session.gate ≠ .stopped →
    host.session.machine.machine = machine.afterBeats journal.beats
  waiting : host.session.gate ≠ .stopped →
    host.session.machine.keys.waiting = journal.pressed ∧
      host.session.params.waiting = journal.wished.map ParamMessage.change
  pace : host.session.gate ≠ .stopped →
    host.session.cyclesPerFrame = paceAfter pace journal.wishes.flatten
  /-- A session stops only because the client is gone or the machine failed. -/
  stopped : host.session.gate = .stopped →
    host.mailbox.listening = false ∨ ¬ machine.FaultFree journal.beats

section Steps

variable {machine : Machine} {pace : Positive32} {host : Host} {journal : Journal}

theorem follows_new (id : SessionId) (machine : Machine) (capacity : Nat)
    (frameRate cyclesPerFrame : Positive32) (paramCapacity : Nat) (now : Moment) :
    Follows machine cyclesPerFrame
      (new id machine capacity frameRate cyclesPerFrame paramCapacity now) Journal.blank where
  opened := rfl
  shown := rfl
  enough := Nat.le_refl 0
  paced k beat found := by cases found
  handed pixels held := by cases held
  idle _ _ := rfl
  played _ := rfl
  waiting _ := ⟨rfl, rfl⟩
  pace _ := rfl
  stopped closed := by cases closed

/-- Whether a gate is open or paused makes no difference. -/
theorem Follows.gate (follows : Follows machine pace host journal) {gate : Gate}
    (same : gate = .stopped ↔ host.session.gate = .stopped) :
    Follows machine pace { host with session := { host.session with gate } } journal where
  opened := follows.opened
  shown := follows.shown
  enough := follows.enough
  paced := follows.paced
  handed pixels held := by
    obtain ⟨running, rest⟩ := follows.handed pixels held
    exact ⟨fun closed => running (same.mp closed), rest⟩
  idle held running := follows.idle held fun closed => running (same.mpr closed)
  played running := follows.played fun closed => running (same.mpr closed)
  waiting running := follows.waiting fun closed => running (same.mpr closed)
  pace running := follows.pace fun closed => running (same.mpr closed)
  stopped closed := follows.stopped (same.mp closed)

theorem Follows.press (follows : Follows machine pace host journal) (event : KeyEvent) :
    Follows machine pace (host.act (.press event)) (host.note journal (.press event)) := by
  cases sent : host.session.machine.send event with
  | error cause =>
    simp only [act, note, sent]
    exact follows
  | ok console =>
    simp only [act, note, sent]
    obtain ⟨keys, accepted, rfl⟩ : ∃ keys, host.session.machine.keys.send event = .ok keys ∧
        console = { host.session.machine with keys } := by
      simp only [Console.send, bind, Except.bind] at sent
      split at sent
      · cases sent
      · rename_i keys accepted
        cases sent
        exact ⟨keys, accepted, rfl⟩
    exact { follows with
      waiting := fun running => by
        obtain ⟨keyed, changed⟩ := follows.waiting running
        exact ⟨by rw [Channel.waiting_send accepted, keyed], changed⟩ }

theorem Follows.change (follows : Follows machine pace host journal) (change : ParamChange) :
    Follows machine pace (host.act (.change change)) (host.note journal (.change change)) := by
  cases sent : host.session.putParams (.change change) with
  | error cause =>
    simp only [act, note, sent]
    exact follows
  | ok session =>
    simp only [act, note, sent]
    obtain ⟨params, accepted, rfl⟩ : ∃ params,
        host.session.params.send (.change change) = .ok params ∧
          session = { host.session with params } := by
      simp only [Session.putParams, bind, Except.bind] at sent
      split at sent
      · cases sent
      · rename_i params accepted
        cases sent
        exact ⟨params, accepted, rfl⟩
    exact { follows with
      waiting := fun running => by
        obtain ⟨keyed, changed⟩ := follows.waiting running
        refine ⟨keyed, ?_⟩
        rw [Channel.waiting_send accepted, changed, List.map_append, List.map_singleton] }

/-- What the machine does in a running tick, it does in the beat that is noted. -/
theorem Follows.cycled (follows : Follows machine pace host journal)
    (running : host.session.gate = .running) (count : Nat) :
    (host.session.machine.cycle count).machine.machine =
        (Beat.batch ⟨journal.pressed, count⟩ (machine.afterBeats journal.beats)).machine ∧
      (host.session.machine.cycle count).fault =
        (Beat.batch ⟨journal.pressed, count⟩ (machine.afterBeats journal.beats)).fault ∧
      (host.session.machine.cycle count).machine.keys.waiting = [] := by
  have opened : host.session.gate ≠ .stopped := by rw [running]; decide
  have played := follows.played opened
  have keyed := (follows.waiting opened).1
  rw [Console.cycle, Console.drain, Beat.batch, played, keyed]
  exact ⟨rfl, rfl, rfl⟩

/-- A tick that begins has the speed of the changes so far. -/
theorem Follows.paced_concat (follows : Follows machine pace host journal)
    (idle : host.hand = none) (running : host.session.gate = .running) (k : Nat) (beat : Beat)
    (found : (journal.beats ++
      [⟨journal.pressed, host.session.cyclesPerFrame.toNat⟩])[k]? = some beat) :
    beat.cycles = (paceAfter pace (journal.wishes.take k).flatten).toNat := by
  have opened : host.session.gate ≠ .stopped := by rw [running]; decide
  rcases Nat.lt_or_ge k journal.beats.length with before | beyond
  · rw [List.getElem?_append_left before] at found
    exact follows.paced k beat found
  · rw [List.getElem?_append_right beyond] at found
    have last : k = journal.beats.length := by
      have inside := (List.getElem?_eq_some_iff.mp found).1
      simp only [List.length_singleton] at inside
      omega
    subst last
    rw [Nat.sub_self] at found
    cases found
    rw [follows.idle idle opened, List.take_length, ← follows.pace opened]

theorem frames_send_error (mailbox : Mailbox) (reason : String) :
    (Sink.send mailbox (.error reason)).2.frames = mailbox.frames := by
  simp only [Mailbox.frames, Mailbox.messages, Sink.send, Mailbox.send]
  split <;> simp

/-- A running tick in which the machine fails: the client is told, and the session stops. -/
theorem Follows.begin_faulted (follows : Follows machine pace host journal) (now : Moment)
    (held : host.hand = none) (gate : host.session.gate = .running) {cause : Fault}
    (fault : (host.session.machine.cycle host.session.cyclesPerFrame.toNat).fault = some cause) :
    Follows machine pace (host.act (.begin now)) (host.note journal (.begin now)) := by
  obtain ⟨machined, faulted, emptied⟩ := follows.cycled gate host.session.cyclesPerFrame.toNat
  have shown := machine.pictures_concat follows.enough
    ⟨journal.pressed, host.session.cyclesPerFrame.toNat⟩
  have acted : host.act (.begin now) =
      ⟨{ host.session with
          machine := (host.session.machine.cycle host.session.cyclesPerFrame.toNat).machine
          pacer := host.session.pacer.reset now
          gate := .stopped }, none,
        (Sink.send host.mailbox (.error cause.message)).2⟩ := by
    simp only [act, held, Session.begin, gate, Steppable.cycle, fault]
    rfl
  rw [acted, note, if_pos ⟨held, gate⟩]
  exact {
    opened := by
      simp only [Sink.send, Mailbox.send]
      split <;> exact follows.opened
    shown := by
      rw [shown, ← follows.shown]
      exact frames_send_error host.mailbox cause.message
    enough := by
      rw [List.length_append]
      exact Nat.le_add_right_of_le follows.enough
    paced := follows.paced_concat held gate
    handed := fun pixels impossible => by cases impossible
    idle := fun _ closed => absurd rfl closed
    played := fun closed => absurd rfl closed
    waiting := fun closed => absurd rfl closed
    pace := fun closed => absurd rfl closed
    stopped := fun _ => by
      right
      intro free
      have last := free journal.beats.length _ List.getElem?_concat_length
      rw [List.take_left, ← faulted, fault] at last
      cases last }

/-- A running tick in which the machine runs its batch: the picture waits to be handed over. -/
theorem Follows.begin_framed (follows : Follows machine pace host journal) (now : Moment)
    (held : host.hand = none) (gate : host.session.gate = .running)
    (fault : (host.session.machine.cycle host.session.cyclesPerFrame.toNat).fault = none) :
    Follows machine pace (host.act (.begin now)) (host.note journal (.begin now)) := by
  have opened : host.session.gate ≠ .stopped := by rw [gate]; decide
  obtain ⟨machined, faulted, emptied⟩ := follows.cycled gate host.session.cyclesPerFrame.toNat
  have shown := machine.pictures_concat follows.enough
    ⟨journal.pressed, host.session.cyclesPerFrame.toNat⟩
  have acted : host.act (.begin now) =
      ⟨{ host.session with
          machine := (host.session.machine.cycle host.session.cyclesPerFrame.toNat).machine
          pacer := host.session.pacer.reset now },
        some (host.session.machine.cycle
          host.session.cyclesPerFrame.toNat).machine.machine.display.frame,
        host.mailbox⟩ := by
    simp only [act, held, Session.begin, gate, Steppable.cycle, fault]
    rfl
  have further : (journal.beats ++ [⟨journal.pressed,
      host.session.cyclesPerFrame.toNat⟩] : List Beat).length = journal.wishes.length + 1 := by
    rw [List.length_append, List.length_singleton, follows.idle held opened]
  rw [acted, note, if_pos ⟨held, gate⟩]
  exact {
    opened := follows.opened
    shown := by
      rw [shown, ← follows.shown]
      rfl
    enough := by
      rw [further]
      exact Nat.le_succ _
    paced := follows.paced_concat held gate
    handed := fun pixels same => by
      cases same
      rw [machine.afterBeats_concat, machined]
      exact ⟨opened, further, rfl⟩
    idle := fun impossible => by cases impossible
    played := fun _ => by
      rw [machine.afterBeats_concat]
      exact machined
    waiting := fun _ => ⟨emptied, (follows.waiting opened).2⟩
    pace := fun _ => follows.pace opened
    stopped := fun closed => absurd closed opened }

theorem Follows.begin (follows : Follows machine pace host journal) (now : Moment) :
    Follows machine pace (host.act (.begin now)) (host.note journal (.begin now)) := by
  cases held : host.hand with
  | some pixels =>
    simp only [act, note, held, reduceCtorEq, false_and, if_false]
    exact follows
  | none =>
    cases gate : host.session.gate with
    | paused =>
      simp only [act, note, held, gate, Session.begin, reduceCtorEq, and_false, if_false]
      exact follows
    | stopped =>
      simp only [act, note, held, gate, Session.begin, reduceCtorEq, and_false, if_false]
      exact follows
    | running =>
      cases fault : (host.session.machine.cycle host.session.cyclesPerFrame.toNat).fault with
      | some cause => exact follows.begin_faulted now held gate fault
      | none => exact follows.begin_framed now held gate fault

theorem frames_send_frame {mailbox : Mailbox} (pixels : List UInt8)
    (opened : mailbox.opened = true) (listening : mailbox.listening = true) :
    (Sink.send mailbox (.frame pixels)).2.frames = mailbox.frames ++ [pixels] := by
  simp [Mailbox.frames, Mailbox.messages, Sink.send, Mailbox.send, opened, listening]

theorem Follows.conclude (follows : Follows machine pace host journal) :
    Follows machine pace (host.act .conclude) (host.note journal .conclude) := by
  cases held : host.hand with
  | none =>
    simp only [act, note, held, Option.map_none]
    exact follows
  | some pixels =>
    obtain ⟨running, further, picture⟩ := follows.handed pixels held
    cases listening : host.mailbox.listening with
    | false =>
      have sent : Sink.send host.mailbox (.frame pixels) = (.error .closed, host.mailbox) := by
        simp [Sink.send, Mailbox.send, listening]
      simp only [act, note, held, Option.map_some, sent, Session.concludeFrame]
      exact {
        opened := follows.opened
        shown := follows.shown
        enough := follows.enough
        paced := follows.paced
        handed := fun pixels impossible => by cases impossible
        idle := fun _ closed => absurd rfl closed
        played := fun closed => absurd rfl closed
        waiting := fun closed => absurd rfl closed
        pace := fun closed => absurd rfl closed
        stopped := fun _ => .inl listening }
    | true =>
      have sent : (Sink.send host.mailbox (.frame pixels)).1 = .ok () := by
        simp [Sink.send, Mailbox.send, listening, follows.opened]
      obtain ⟨keyed, changed⟩ := follows.waiting running
      obtain ⟨sameMachine, sameGate, emptied, paced⟩ := host.session.applyParams_eq changed
      have acted : host.act .conclude =
          ⟨host.session.applyParams, none, (Sink.send host.mailbox (.frame pixels)).2⟩ := by
        simp only [act, held, sent, Session.concludeFrame]
      have noted : host.note journal .conclude =
          { journal with wished := [], wishes := journal.wishes ++ [journal.wished] } := by
        simp only [note, held, Option.map_some, sent]
      rw [acted, noted]
      exact {
        opened := by
          simp only [Sink.send, Mailbox.send]
          split <;> exact follows.opened
        shown := by
          rw [frames, frames_send_frame pixels follows.opened listening, ← frames, follows.shown,
            picture, List.length_append, List.length_singleton, machine.pictures_succ further]
        enough := Nat.le_of_eq (by
          rw [List.length_append, List.length_singleton, further])
        paced := fun k beat found => by
          have inside : k < journal.beats.length := (List.getElem?_eq_some_iff.mp found).1
          rw [List.take_append_of_le_length (by omega)]
          exact follows.paced k beat found
        handed := fun pixels impossible => by cases impossible
        idle := fun _ _ => by
          rw [List.length_append, List.length_singleton]
          exact further
        played := fun _ => by
          rw [sameMachine]
          exact follows.played running
        waiting := fun _ => ⟨by rw [sameMachine]; exact keyed, emptied⟩
        pace := fun _ => by
          rw [paced, follows.pace running, List.flatten_append, List.flatten_singleton,
            paceAfter_append]
        stopped := fun closed => absurd (sameGate ▸ closed) running }

/-- **One act**: the journal that notes it follows the host. -/
theorem Follows.act (follows : Follows machine pace host journal) (act : Act) :
    Follows machine pace (host.act act) (host.note journal act) := by
  cases act with
  | begin now => exact follows.begin now
  | conclude => exact follows.conclude
  | pause =>
    refine follows.gate ?_
    cases host.session.gate <;> simp [Gate.pause, Gate.shift]
  | unpause =>
    refine follows.gate ?_
    cases host.session.gate <;> simp [Gate.unpause, Gate.shift]
  | toggle =>
    refine follows.gate ?_
    cases host.session.gate <;> simp [Gate.toggle]
  | change change => exact follows.change change
  | press event => exact follows.press event
  | hangUp => exact { follows with stopped := fun _ => .inl rfl }

end Steps

/-! ### All acts -/

section Runs

variable (id : SessionId) (machine : Machine) (capacity : Nat) (frameRate pace : Positive32)
  (paramCapacity : Nat) (now : Moment)

/-- **However a session is acted on, its journal follows it.** -/
theorem follows_run (acts : List Act) :
    Follows machine pace ((new id machine capacity frameRate pace paramCapacity now).run acts)
      ((new id machine capacity frameRate pace paramCapacity now).journal acts) := by
  induction acts using List.reverseRecOn with
  | nil => exact follows_new id machine capacity frameRate pace paramCapacity now
  | append_singleton acts act ih =>
    rw [run_concat, journal_concat]
    exact ih.act act

/-- The speeds of the ticks follow from what was accepted: so runs with the same score have the same
beats. -/
theorem beats_eq_of_score {first second : List Act}
    (same : (new id machine capacity frameRate pace paramCapacity now).score first =
      (new id machine capacity frameRate pace paramCapacity now).score second) :
    (new id machine capacity frameRate pace paramCapacity now).beats first =
      (new id machine capacity frameRate pace paramCapacity now).beats second := by
  have one := follows_run id machine capacity frameRate pace paramCapacity now first
  have two := follows_run id machine capacity frameRate pace paramCapacity now second
  obtain ⟨events, wishes⟩ := Prod.mk.inj same
  refine List.ext_getElem? fun k => ?_
  have played := congrArg (fun events : List (List KeyEvent) => events[k]?) events
  simp only [List.getElem?_map, beats] at played ⊢
  cases here : ((new id machine capacity frameRate pace paramCapacity now).journal first).beats[k]?
  with
  | none =>
    rw [here, Option.map_none, eq_comm, Option.map_eq_none_iff] at played
    exact played.symm
  | some beat =>
    rw [here, Option.map_some, eq_comm, Option.map_eq_some_iff] at played
    obtain ⟨other, there, equal⟩ := played
    have cycles : other.cycles = beat.cycles := by
      rw [one.paced k beat here, two.paced k other there, wishes]
    obtain ⟨otherEvents, otherCycles⟩ := other
    obtain ⟨beatEvents, beatCycles⟩ := beat
    rw [there]
    simp only at equal cycles
    rw [equal, cycles]

/-- **A session is a faithful host.** The frames that the client gets are the pictures of a bare
machine that plays the beats of the journal; while the client listens and the machine does not fail,
it gets one for each beat, and the machine is in the state of the bare one. Runs that accept the
same events and changes between the same frames show the same frames and leave the machine in the
same state, whatever pauses and ticks at a paused gate come in between. The two halves of a tick are
the session's tick when nothing comes in between. -/
theorem faithful :
    let start := new id machine capacity frameRate pace paramCapacity now
    (∀ acts,
      (∀ k frame, (start.run acts).frames[k]? = some frame →
        frame = (machine.afterBeats ((start.beats acts).take (k + 1))).display.frame) ∧
      ((start.run acts).mailbox.listening = true → machine.FaultFree (start.beats acts) →
        (start.run acts).session.gate ≠ .stopped ∧
          (start.run acts).frames.length + (start.run acts).hand.toList.length =
            (start.beats acts).length ∧
          (start.run acts).session.machine.machine = machine.afterBeats (start.beats acts)) ∧
      ((start.run acts).hand = none → ∀ now,
        ((start.run acts).act (.begin now)).act .conclude =
          ⟨((start.run acts).session.tick (start.run acts).mailbox now).session, none,
            ((start.run acts).session.tick (start.run acts).mailbox now).sink⟩)) ∧
    ∀ first second, start.score first = start.score second →
      (start.run first).mailbox.listening = true → (start.run second).mailbox.listening = true →
      machine.FaultFree (start.beats first) →
      (start.run first).frames = (start.run second).frames ∧
        (start.run first).session.machine.machine = (start.run second).session.machine.machine := by
  intro start
  have follows (acts : List Act) : Follows machine pace (start.run acts) (start.journal acts) :=
    follows_run id machine capacity frameRate pace paramCapacity now acts
  have lives : ∀ acts, (start.run acts).mailbox.listening = true →
      machine.FaultFree (start.beats acts) → (start.run acts).session.gate ≠ .stopped := by
    intro acts listening free closed
    rcases (follows acts).stopped closed with deaf | faulted
    · rw [deaf] at listening
      cases listening
    · exact faulted free
  refine ⟨fun acts => ⟨fun k frame found => ?_, fun listening free => ?_,
      fun idle now => (start.run acts).act_tick now idle⟩,
    fun first second same firstListens secondListens free => ?_⟩
  · rw [(follows acts).shown, Machine.pictures, List.getElem?_map] at found
    obtain ⟨index, inside, picture⟩ := Option.map_eq_some_iff.mp found
    rw [List.getElem?_range (by simpa using (List.getElem?_eq_some_iff.mp inside).1)] at inside
    cases inside
    exact picture.symm
  · have running := lives acts listening free
    refine ⟨running, ?_, (follows acts).played running⟩
    rw [(follows acts).shown, Machine.pictures, List.length_map, List.length_range]
    cases held : (start.run acts).hand with
    | none => exact ((follows acts).idle held running).symm
    | some pixels => exact ((follows acts).handed pixels held).2.1.symm
  · have beats : start.beats first = start.beats second :=
      beats_eq_of_score id machine capacity frameRate pace paramCapacity now same
    have wishes := (Prod.mk.inj same).2
    refine ⟨?_, ?_⟩
    · rw [(follows first).shown, (follows second).shown, wishes]
      exact congrArg (machine.pictures · _) beats
    · rw [(follows first).played (lives first firstListens free),
        (follows second).played (lives second secondListens (beats ▸ free))]
      exact congrArg machine.afterBeats beats

/-- A program that draws and then stays where it is, for a player who presses a key, changes the
speed, and does or does not pause in between. -/
theorem faithful_interrupted :
    let machine := ((Machine.new .perInstruction 0).load [0xD0, 0x05, 0x12, 0x02]).toOption.getD
      (Machine.new .perInstruction 0)
    let once : Positive32 := ⟨1, by decide, by decide⟩
    let start := new ⟨"s"⟩ machine 4 once once 4 0
    let press : Act := .press ⟨3, true⟩
    let faster : Act := .change ⟨some ⟨2, by decide, by decide⟩, none⟩
    let plain := [press, .begin 0, faster, .conclude, .begin 0, .conclude]
    let interrupted := [.pause, press, .begin 0, .unpause, .begin 5, .toggle, faster, .conclude,
      .begin 6, .toggle, .begin 7, .conclude]
    start.beats plain = [⟨[⟨3, true⟩], 1⟩, ⟨[], 2⟩] ∧
      start.score plain = start.score interrupted ∧
      (start.run plain).mailbox.listening = true ∧
      (start.run interrupted).mailbox.listening = true ∧
      machine.FaultFree (start.beats plain) ∧
      (start.run plain).session.gate ≠ .stopped ∧
      (start.run plain).frames.length + (start.run plain).hand.toList.length = 2 ∧
      (start.run plain).frames = (start.run interrupted).frames ∧
      (start.run plain).session.machine.machine =
        (start.run interrupted).session.machine.machine := by
  intro machine once start press faster plain interrupted
  have beats : start.beats plain = [⟨[⟨3, true⟩], 1⟩, ⟨[], 2⟩] := by decide +kernel
  have same : start.score plain = start.score interrupted := by decide +kernel
  have plainListens : (start.run plain).mailbox.listening = true := by decide +kernel
  have otherListens : (start.run interrupted).mailbox.listening = true := by decide +kernel
  have free : machine.FaultFree (start.beats plain) := by decide +kernel
  obtain ⟨each, two⟩ := faithful ⟨"s"⟩ machine 4 once once 4 0
  obtain ⟨running, shown, -⟩ := (each plain).2.1 plainListens free
  rw [beats] at shown
  exact ⟨beats, same, plainListens, otherListens, free, running, shown,
    two plain interrupted same plainListens otherListens free⟩

end Runs

end Host

end Arcade
