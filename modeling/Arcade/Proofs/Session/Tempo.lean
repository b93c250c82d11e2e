/-
**How fast a session runs.**

Anybody may ask a session for another speed, at any time. Such changes wait in a bounded queue, and
the session's thread takes them out after a frame was delivered, until none is left or it comes upon
the wake of whoever stopped the session. So the speed between two frames is what the changes
accepted before them make of it, the last one that names a parameter for each parameter
(`Tempo.after`). An observer who sees which messages are accepted and when ticks end writes an
`Agenda`; the session keeps to it (`Loop.Heeds`).

* `Loop.put_cases`: when a change is accepted;
* `Loop.Heeds.act`: one act, of the thread or of anybody else;
* `Loop.after_wake`: what comes behind a wake is never carried out;
* `Loop.tempo_at_frames`: the speed in the course of any run, and the period of the pacer with it.
-/

import Arcade.Proofs.Session.Loop
import Arcade.Session.Error

namespace Arcade

/-! ### Parameters and changes -/

/-- The parameters of a session: how many steps a frame has, and how many frames a second. -/
structure Tempo where
  cyclesPerFrame : Positive32
  frameRate : Positive32
  deriving DecidableEq

/-- The last value that some changes name for a parameter, or the old one if none of them does. -/
def lastNamed (field : ParamChange → Option Positive32) (old : Positive32)
    (changes : List ParamChange) : Positive32 :=
  (changes.filterMap field).getLast?.getD old

/-- The parameters after some changes: the last value that is named for each. -/
def Tempo.after (tempo : Tempo) (changes : List ParamChange) : Tempo where
  cyclesPerFrame := lastNamed ParamChange.cyclesPerFrame tempo.cyclesPerFrame changes
  frameRate := lastNamed ParamChange.frameRate tempo.frameRate changes

/-- The change that a message is, if it is one. -/
def ParamMessage.change? : ParamMessage → Option ParamChange
  | .change wish => some wish
  | .wake => none

theorem lastNamed_concat (field : ParamChange → Option Positive32) (old : Positive32)
    (changes : List ParamChange) (change : ParamChange) :
    lastNamed field old (changes ++ [change]) =
      (field change).getD (lastNamed field old changes) := by
  unfold lastNamed
  rw [List.filterMap_append]
  cases named : field change with
  | none => simp [named]
  | some value => simp [named]

namespace Session

variable {M : Type} (session : Session M)

/-- The parameters of a session. -/
def tempo : Tempo := ⟨session.cyclesPerFrame, session.frameRate⟩

/-- Whether the pacer has the period of the session's frame rate. -/
def IsPaced : Prop := session.pacer.period = Span.ofHertz session.frameRate.toNat

/-- A change that is carried out comes after those that were. -/
theorem tempo_applyChange {tempo : Tempo} {changes : List ParamChange}
    (before : session.tempo = tempo.after changes) (change : ParamChange) :
    (session.applyChange change).tempo = tempo.after (changes ++ [change]) := by
  have cycles : session.cyclesPerFrame = (tempo.after changes).cyclesPerFrame :=
    congrArg Tempo.cyclesPerFrame before
  have rate : session.frameRate = (tempo.after changes).frameRate :=
    congrArg Tempo.frameRate before
  unfold Tempo.after Session.tempo applyChange
  rw [lastNamed_concat, lastNamed_concat]
  cases change.cyclesPerFrame <;> cases change.frameRate <;> simp [cycles, rate, Tempo.after]

theorem IsPaced.applyChange {session : Session M} (paced : session.IsPaced) (change : ParamChange) :
    (session.applyChange change).IsPaced := by
  unfold Session.applyChange
  cases change.cyclesPerFrame <;> cases change.frameRate <;> first | exact paced | rfl

/-- What waits behind a wake is not among the changes before it. -/
theorem changesBeforeWake_append {waiting : List ParamMessage} (woken : .wake ∈ waiting)
    (more : List ParamMessage) :
    (changesBeforeWake (waiting ++ more)).1 = (changesBeforeWake waiting).1 := by
  induction waiting with
  | nil => cases woken
  | cons message rest ih =>
    cases message with
    | wake => rfl
    | change change =>
      have later : .wake ∈ rest := by simpa using woken
      show change :: (changesBeforeWake (rest ++ more)).1 = change :: (changesBeforeWake rest).1
      rw [ih later]

/-- Without a wake a message is the last that waits. -/
theorem changesBeforeWake_concat {waiting : List ParamMessage} (still : .wake ∉ waiting)
    (message : ParamMessage) :
    (changesBeforeWake (waiting ++ [message])).1 =
      (changesBeforeWake waiting).1 ++ message.change?.toList := by
  induction waiting with
  | nil => cases message <;> rfl
  | cons first rest ih =>
    cases first with
    | wake => exact absurd List.mem_cons_self still
    | change change =>
      have later : .wake ∉ rest := fun woken => still (List.mem_cons_of_mem _ woken)
      show change :: (changesBeforeWake (rest ++ [message])).1 =
        (change :: (changesBeforeWake rest).1) ++ message.change?.toList
      rw [ih later, List.cons_append]

/-- A message is accepted as the last one, or there is no room, or the session is gone. -/
theorem putParams_cases (message : ParamMessage) :
    (∃ params, session.putParams message = .ok { session with params } ∧
      params.waiting = session.params.waiting ++ [message] ∧
      params.capacity = session.params.capacity ∧ params.connected = true ∧
      session.params.connected = true ∧
      session.params.waiting.length < max 1 session.params.capacity) ∨
    (session.putParams message = .error .full ∧ session.params.connected = true ∧
      max 1 session.params.capacity ≤ session.params.waiting.length) ∨
    (session.putParams message = .error .disconnected ∧ session.params.connected = false) := by
  have unfolded : session.putParams message =
      (session.params.send message).map fun params => { session with params } := by
    show Except.bind _ _ = _
    cases session.params.send message <;> rfl
  rw [unfolded]
  cases sent : session.params.send message with
  | error cause =>
    cases cause with
    | full =>
      obtain ⟨here, length⟩ := Channel.send_eq_full.mp sent
      exact .inr (.inl ⟨rfl, here, Nat.le_of_eq length.symm⟩)
    | disconnected => exact .inr (.inr ⟨rfl, Channel.send_eq_disconnected.mp sent⟩)
  | ok params =>
    obtain ⟨capacity, connected⟩ := Channel.frame_send sent
    have appended := Channel.waiting_send sent
    have here : session.params.connected = true := by
      by_contra gone
      rw [Channel.send_eq_disconnected.mpr (Bool.eq_false_iff.mpr gone)] at sent
      cases sent
    have bound := params.waiting_le
    rw [appended, List.length_append, List.length_singleton, capacity] at bound
    exact .inl ⟨params, rfl, appended, capacity, connected.trans here, here, bound⟩

end Session

/-! ### The agenda -/

/-- What an observer writes down of the messages to a session. -/
structure Agenda where
  /-- The parameters at the end of the latest tick that delivered its frame, or at first. -/
  tempo : Tempo
  /-- The changes that were accepted since then and are not behind a wake. -/
  wished : List ParamChange
  /-- Whether a wake was accepted. -/
  woken : Bool

/-- The agenda after a message was accepted. -/
def Agenda.accept (agenda : Agenda) : ParamMessage → Agenda
  | .wake => { agenda with woken := true }
  | .change change =>
    if agenda.woken then agenda else { agenda with wished := agenda.wished ++ [change] }

namespace Loop

variable {M S : Type} [Steppable M] [Sink S]

/-- Whether an event is the end of a tick that delivered its frame. -/
def Event.isRan : Event M → Bool
  | .ran => true
  | .opened _ | .batched _ _ | .sent _ _ | .halted => false

/-- What the observer adds to the agenda on an act. -/
def note (loop : Loop M S) (agenda : Agenda) : Act M → Agenda
  | .post message =>
    match loop.session.putParams message with
    | .ok _ => agenda.accept message
    | .error _ => agenda
  | .thread now =>
    if (loop.step now).1.any Event.isRan then
      ⟨(loop.step now).2.session.tempo, [], agenda.woken⟩
    else agenda
  | .control _ | .reach _ => agenda

/-- The agenda of some acts, continued from a given one. -/
def agendaFrom (loop : Loop M S) (agenda : Agenda) : List (Act M) → Agenda
  | [] => agenda
  | act :: rest => (loop.act act).2.agendaFrom (loop.note agenda act) rest

/-- The agenda of some acts. -/
def agenda (loop : Loop M S) (acts : List (Act M)) : Agenda :=
  loop.agendaFrom ⟨loop.session.tempo, [], false⟩ acts

/-- What is answered to somebody who asks for a change. -/
def put (loop : Loop M S) (change : ParamChange) : Except SessionError (Session M) :=
  (loop.session.putParams (.change change)).mapError (SessionError.ofParams loop.session.id)

/-- Whether nobody wakes a session before its gate was stopped. Who stops a session stops its gate
first. -/
def WakesStopped : List (Act M) → Prop
  | [] | .control .stop :: _ => True
  | .post .wake :: _ => False
  | .control .pause :: rest | .control .unpause :: rest | .control .toggle :: rest
  | .post (.change _) :: rest | .thread _ :: rest | .reach _ :: rest => WakesStopped rest

omit [Steppable M] in
theorem WakesStopped.concat {acts : List (Act M)} {act : Act M}
    (polite : WakesStopped (acts ++ [act])) :
    WakesStopped acts ∧ (act = .post .wake → .control .stop ∈ acts) := by
  induction acts with
  | nil =>
    refine ⟨trivial, ?_⟩
    rintro rfl
    exact polite.elim
  | cons first rest ih =>
    have onward : WakesStopped (rest ++ [act]) →
        WakesStopped rest ∧ (act = .post .wake → .control .stop ∈ first :: rest) :=
      fun later => ⟨(ih later).1, fun wake => List.mem_cons_of_mem _ ((ih later).2 wake)⟩
    cases first with
    | thread | reach => exact onward polite
    | control control =>
      cases control with
      | stop => exact ⟨trivial, fun _ => List.mem_cons_self⟩
      | pause | unpause | toggle => exact onward polite
    | post message =>
      cases message with
      | wake => exact polite.elim
      | change => exact onward polite

theorem agendaFrom_append (loop : Loop M S) (agenda : Agenda) (acts more : List (Act M)) :
    loop.agendaFrom agenda (acts ++ more) =
      (loop.run acts).agendaFrom (loop.agendaFrom agenda acts) more := by
  induction acts generalizing loop agenda with
  | nil => rfl
  | cons act rest ih => rw [List.cons_append, agendaFrom, ih]; rfl

theorem agenda_concat (loop : Loop M S) (acts : List (Act M)) (act : Act M) :
    loop.agenda (acts ++ [act]) = (loop.run acts).note (loop.agenda acts) act := by
  rw [agenda, agendaFrom_append]
  rfl

/-! ### What the thread does to the parameters -/

/-- Elsewhere than after a delivered frame the thread leaves the parameters and their queue
alone. -/
theorem step_calm (loop : Loop M S) (now : Moment) (calm : loop.station ≠ .draining)
    (inside : loop.station ≠ .leaving) :
    (loop.step now).2.session.params = loop.session.params ∧
      (loop.step now).2.session.tempo = loop.session.tempo ∧
      (loop.step now).2.session.pacer.period = loop.session.pacer.period ∧
      (loop.step now).1.any Event.isRan = false ∧
      ((loop.step now).2.station = .returned ↔ loop.station = .returned) := by
  unfold step
  cases here : loop.station with
  | draining => exact absurd here calm
  | leaving => exact absurd here inside
  | checking =>
    simp only
    split <;> exact ⟨rfl, rfl, rfl, rfl, by simp⟩
  | batching =>
    refine ⟨rfl, rfl, rfl, rfl, ?_⟩
    simp only
    split <;> simp
  | reporting | halting | returned => exact ⟨rfl, rfl, rfl, rfl, by simp [here]⟩
  | offering pixels =>
    refine ⟨rfl, rfl, rfl, rfl, ?_⟩
    simp only
    cases (Sink.send loop.sink (.frame pixels)).1 <;> simp
  | resting deadline =>
    simp only
    split
    · exact ⟨rfl, rfl, rfl, rfl, by simp⟩
    · exact ⟨rfl, rfl, rfl, rfl, by simp⟩
    · split <;> exact ⟨rfl, rfl, rfl, rfl, by simp [here]⟩
  | waiting =>
    simp only
    split <;> exact ⟨rfl, rfl, rfl, rfl, by simp [here]⟩

/-- What the thread does after a delivered frame: it ends the tick, because nothing waits or because
it was woken, or it carries the oldest change out. -/
theorem step_draining (loop : Loop M S) (now : Moment) (here : loop.station = .draining) :
    (loop.session.params.waiting = [] ∧
      loop.step now = ([.ran], { loop with station := .resting (deadline loop.session now) })) ∨
    (∃ rest, loop.session.params.waiting = .wake :: rest ∧
      loop.step now = ([.ran], { loop with
        session := { loop.session with params := loop.session.params.discard 1 }
        station := .resting (deadline loop.session now) })) ∨
    ∃ change rest, loop.session.params.waiting = .change change :: rest ∧
      loop.step now = ([], { loop with
        session :=
          { loop.session with params := loop.session.params.discard 1 }.applyChange change }) := by
  cases waiting : loop.session.params.waiting with
  | nil =>
    refine .inl ⟨rfl, ?_⟩
    unfold step
    rw [here]
    simp only [loop.session.params.receive?_nil waiting]
  | cons message rest =>
    have taken := loop.session.params.receive?_cons waiting
    cases message with
    | wake =>
      refine .inr (.inl ⟨rest, rfl, ?_⟩)
      unfold step
      rw [here]
      simp only [taken]
    | change change =>
      refine .inr (.inr ⟨change, rest, rfl, ?_⟩)
      unfold step
      simp only [here, taken]

/-! ### The session keeps to the agenda -/

/-- What holds of a session and the agenda of it, if its queue is to have a capacity. -/
structure Heeds (capacity : Nat) (loop : Loop M S) (agenda : Agenda) : Prop where
  paced : loop.session.IsPaced
  capacity : loop.session.params.capacity = capacity
  here : loop.session.params.connected = true ↔ loop.station ≠ .returned
  /-- The parameters change after a delivered frame only. -/
  settled : loop.station ≠ .draining → loop.session.tempo = agenda.tempo
  shut : agenda.woken = true → loop.session.gate = .stopped
  /-- No more frame is delivered, or the changes on the agenda are those that were carried out in
  the tick that is about to end, and those that wait before a wake. -/
  queue : (loop.session.gate = .stopped ∧ loop.station.IsIdle) ∨
    ∃ taken, agenda.wished = taken ++ (Session.changesBeforeWake loop.session.params.waiting).1 ∧
      (agenda.woken = true ↔ .wake ∈ loop.session.params.waiting) ∧
      loop.session.tempo = agenda.tempo.after taken ∧
      (loop.station ≠ .draining → taken = [])

section Steps

variable {capacity : Nat} {loop : Loop M S} {agenda : Agenda} (heeds : loop.Heeds capacity agenda)

include heeds

/-- A message is accepted, or nothing changes. -/
theorem Heeds.post (message : ParamMessage)
    (stopped : message = .wake → loop.session.gate = .stopped) :
    (loop.act (.post message)).2.Heeds capacity (loop.note agenda (.post message)) := by
  rcases loop.session.putParams_cases message with
    ⟨params, accepted, waiting, same, connected, before, -⟩ | ⟨refused, -⟩ | ⟨refused, -⟩
  · simp only [Loop.act, note, accepted]
    have tempo : (agenda.accept message).tempo = agenda.tempo := by
      cases message with
      | wake => rfl
      | change change =>
        simp only [Agenda.accept]
        split <;> rfl
    have woken : (agenda.accept message).woken = true ↔ agenda.woken = true ∨ message = .wake := by
      cases message with
      | wake => simp [Agenda.accept]
      | change change =>
        simp only [Agenda.accept]
        split <;> simp_all
    refine ⟨heeds.paced, same.trans heeds.capacity, ?_, ?_, fun shut => ?_, ?_⟩
    · rw [← heeds.here]
      exact ⟨fun _ => before, fun _ => connected⟩
    · rw [tempo]
      exact heeds.settled
    · exact (woken.mp shut).elim heeds.shut stopped
    · refine heeds.queue.imp id ?_
      rintro ⟨taken, wished, wakes, carried, none⟩
      refine ⟨taken, ?_, ?_, tempo ▸ carried, none⟩
      · show (agenda.accept message).wished =
          taken ++ (Session.changesBeforeWake params.waiting).1
        rw [waiting]
        cases shut : agenda.woken with
        | true =>
          have unchanged : (agenda.accept message).wished = agenda.wished := by
            cases message <;> simp [Agenda.accept, shut]
          rw [unchanged, wished, Session.changesBeforeWake_append (wakes.mp shut)]
        | false =>
          have added : (agenda.accept message).wished =
              agenda.wished ++ message.change?.toList := by
            cases message <;> simp [Agenda.accept, shut, ParamMessage.change?]
          have still : .wake ∉ loop.session.params.waiting := fun member => by
            rw [wakes.mpr member] at shut
            cases shut
          rw [added, wished, Session.changesBeforeWake_concat still, List.append_assoc]
      · show (agenda.accept message).woken = true ↔ .wake ∈ params.waiting
        rw [woken, wakes, waiting, List.mem_append, List.mem_singleton, eq_comm (a := message)]
  all_goals
    simp only [Loop.act, note, refused]
    exact heeds

/-- The thread takes a step after a delivered frame. -/
theorem Heeds.drain (now : Moment) (here : loop.station = .draining) :
    (loop.step now).2.Heeds capacity (loop.note agenda (.thread now)) := by
  have connected : loop.session.params.connected = true := by
    rw [heeds.here, here]
    exact nofun
  obtain ⟨-, idle⟩ | ⟨taken, wished, wakes, carried, -⟩ := heeds.queue
  · rw [here] at idle
    exact idle.elim
  rcases loop.step_draining now here with ⟨waiting, stepped⟩ | ⟨rest, waiting, stepped⟩ |
    ⟨change, rest, waiting, stepped⟩
  · simp only [note, stepped, List.any_cons, Event.isRan, Bool.true_or, if_true]
    refine ⟨heeds.paced, heeds.capacity, by simp [connected], fun _ => rfl, heeds.shut, ?_⟩
    refine .inr ⟨[], ?_, wakes, rfl, fun _ => rfl⟩
    simp [waiting, Session.changesBeforeWake]
  · simp only [note, stepped, List.any_cons, Event.isRan, Bool.true_or, if_true]
    refine ⟨heeds.paced, heeds.capacity, by simp [Channel.discard, connected], fun _ => rfl,
      heeds.shut, .inl ⟨heeds.shut (wakes.mpr ?_), trivial⟩⟩
    rw [waiting]
    exact List.mem_cons_self
  · simp only [note, stepped, List.any_nil, Bool.false_eq_true, if_false]
    have left : (loop.session.params.discard 1).waiting = rest := by
      show loop.session.params.waiting.drop 1 = rest
      rw [waiting]
      rfl
    rw [applyChange_params]
    refine ⟨heeds.paced.applyChange change, heeds.capacity, ?_, fun away => absurd here away,
      fun shut => ?_, .inr ⟨taken ++ [change], ?_, ?_, ?_, fun away => absurd here away⟩⟩
    · simp [Channel.discard, connected, here]
    · rw [← heeds.shut shut]
      exact (loop.session.applyChange_eq change).2.1
    · rw [left, wished, waiting, List.append_assoc]
      rfl
    · rw [left, wakes, waiting]
      simp
    · exact loop.session.tempo_applyChange carried change

/-- **One act**, of the thread or of anybody else. -/
theorem Heeds.act (act : Act M) (stopped : act = .post .wake → loop.session.gate = .stopped)
    (left : loop.station = .leaving → loop.session.gate = .stopped) :
    (loop.act act).2.Heeds capacity (loop.note agenda act) := by
  cases act with
  | reach change =>
    exact ⟨heeds.paced, heeds.capacity, heeds.here, heeds.settled, heeds.shut, heeds.queue⟩
  | control control =>
    have kept : loop.session.gate = .stopped → loop.session.gate.control control = .stopped := by
      intro shut
      rw [shut]
      exact Gate.stopped_of_stopped control
    exact ⟨heeds.paced, heeds.capacity, heeds.here, heeds.settled,
      fun shut => kept (heeds.shut shut), heeds.queue.imp (fun idle => ⟨kept idle.1, idle.2⟩) id⟩
  | post message => exact heeds.post message fun wake => stopped (wake ▸ rfl)
  | thread now =>
    by_cases draining : loop.station = .draining
    · exact heeds.drain now draining
    by_cases leaving : loop.station = .leaving
    · have stepped : loop.step now =
          ([], { loop with session := loop.session.release, station := .returned }) := by
        unfold step
        rw [leaving]
      have shut := left leaving
      simp only [Loop.act, note, stepped, List.any_nil, Bool.false_eq_true, if_false]
      exact ⟨heeds.paced, heeds.capacity, by simp [Session.release, Channel.disconnect],
        fun _ => heeds.settled draining, fun _ => shut, .inl ⟨shut, trivial⟩⟩
    · obtain ⟨params, tempo, period, unended, gone⟩ := loop.step_calm now draining leaving
      have turn := loop.turn_step now
      have shuts : loop.session.gate = .stopped → (loop.step now).2.session.gate = .stopped :=
        act_stopped (.thread now)
      simp only [Loop.act, note, unended, Bool.false_eq_true, if_false]
      refine ⟨?_, ?_, ?_, fun _ => tempo.trans (heeds.settled draining),
        fun shut => shuts (heeds.shut shut), ?_⟩
      · have rate : (loop.step now).2.session.frameRate = loop.session.frameRate :=
          congrArg Tempo.frameRate tempo
        unfold Session.IsPaced
        rw [period, rate]
        exact heeds.paced
      · rw [params]
        exact heeds.capacity
      · rw [params, heeds.here, not_iff_not]
        exact gone.symm
      · rcases heeds.queue with ⟨shut, idle⟩ | ⟨taken, wished, wakes, carried, none⟩
        · exact .inl ⟨shuts shut, ((turn.wanes (by rw [shut]; decide)).2.2.2 idle).2⟩
        · refine .inr ⟨taken, ?_, ?_, tempo.trans carried, fun _ => none draining⟩
          · rw [params]
            exact wished
          · rw [params]
            exact wakes

end Steps

theorem heeds_run (id : SessionId) (machine : M) (frameRate cyclesPerFrame : Positive32)
    (capacity : Nat) (begun : Moment) (sink : S) (acts : List (Act M))
    (polite : WakesStopped acts) :
    let first := Session.new id machine frameRate cyclesPerFrame capacity begun
    ((start first sink).run acts).Heeds capacity ((start first sink).agenda acts) ∧
      (.control .stop ∈ acts → ((start first sink).run acts).session.gate = .stopped) := by
  intro first
  induction acts using List.reverseRecOn with
  | nil =>
    exact ⟨⟨rfl, rfl, iff_of_true rfl nofun, fun _ => rfl, nofun,
      .inr ⟨[], rfl, iff_of_false nofun nofun, rfl, fun _ => rfl⟩⟩, nofun⟩
  | append_singleton acts act ih =>
    obtain ⟨before, wakes⟩ := polite.concat
    obtain ⟨heeds, stops⟩ := ih before
    have stopped : act = .post .wake → ((start first sink).run acts).session.gate = .stopped :=
      fun wake => stops (wakes wake)
    have left : ((start first sink).run acts).station = .leaving →
        ((start first sink).run acts).session.gate = .stopped :=
      fun leaving => stopped_of_left first sink acts (.inl leaving)
    rw [run_concat, agenda_concat]
    refine ⟨heeds.act act stopped left, fun member => ?_⟩
    rcases List.mem_append.mp member with earlier | now
    · exact act_stopped act (stops earlier)
    · rw [← List.mem_singleton.mp now]
      rfl

/-- **When a tick ends that delivered its frame**, the parameters are those on the agenda. -/
theorem Heeds.tempo_of_ran {capacity : Nat} {loop : Loop M S} {agenda : Agenda}
    (heeds : loop.Heeds capacity agenda) (now : Moment)
    (ended : (loop.step now).1.any Event.isRan = true) :
    (loop.step now).2.session.tempo = agenda.tempo.after agenda.wished := by
  have here : loop.station = .draining := by
    by_contra calm
    by_cases leaving : loop.station = .leaving
    · have nothing : (loop.step now).1 = [] := by
        unfold step
        rw [leaving]
      rw [nothing] at ended
      cases ended
    · rw [(loop.step_calm now calm leaving).2.2.2.1] at ended
      cases ended
  obtain ⟨-, idle⟩ | ⟨taken, wished, -, carried, -⟩ := heeds.queue
  · rw [here] at idle
    exact idle.elim
  rcases loop.step_draining now here with ⟨waiting, stepped⟩ | ⟨rest, waiting, stepped⟩ |
    ⟨change, rest, waiting, stepped⟩
  all_goals rw [stepped] at ended ⊢
  · rw [waiting, Session.changesBeforeWake, List.append_nil] at wished
    rw [wished]
    exact carried
  · rw [waiting, Session.changesBeforeWake, List.append_nil] at wished
    rw [wished]
    exact carried
  · cases ended

/-! ### Asking for a change -/

/-- What comes of asking for a change: it is the last that waits, or the queue is full, or the
session is gone. -/
def PutCases (loop : Loop M S) (capacity : Nat) (change : ParamChange) : Prop :=
  match loop.put change with
  | .ok session =>
    loop.station ≠ .returned ∧ loop.session.params.waiting.length < max 1 capacity ∧
      session.params.waiting = loop.session.params.waiting ++ [.change change] ∧
      session = { loop.session with params := session.params } ∧
      (loop.act (.post (.change change))).2 = { loop with session }
  | .error cause =>
    (loop.act (.post (.change change))).2 = loop ∧
      (loop.station = .returned ∧ cause = .notRunning loop.session.id ∨
        loop.station ≠ .returned ∧ max 1 capacity ≤ loop.session.params.waiting.length ∧
          cause = .paramQueueFull loop.session.id)

theorem Heeds.put_cases {capacity : Nat} {loop : Loop M S} {agenda : Agenda}
    (heeds : loop.Heeds capacity agenda) (change : ParamChange) :
    loop.PutCases capacity change := by
  unfold PutCases put
  rcases loop.session.putParams_cases (.change change) with
    ⟨params, accepted, waiting, -, -, connected, room⟩ | ⟨refused, connected, full⟩ |
    ⟨refused, gone⟩
  · simp only [accepted, Except.mapError, Loop.act]
    exact ⟨heeds.here.mp connected, heeds.capacity ▸ room, waiting, trivial, trivial⟩
  · simp only [refused, Except.mapError, Loop.act]
    exact ⟨trivial, .inr ⟨heeds.here.mp connected, heeds.capacity ▸ full, rfl⟩⟩
  · simp only [refused, Except.mapError, Loop.act]
    refine ⟨trivial, .inl ⟨?_, rfl⟩⟩
    by_contra there
    rw [heeds.here.mpr there] at gone
    cases gone

/-! ### Behind a wake -/

/-- What holds from when a wake waits with some messages ahead of it: some of the changes ahead were
carried out, and either no more are, or the rest still waits ahead of the wake. -/
structure Behind (tempo : Tempo) (ahead : List ParamMessage) (loop : Loop M S) : Prop where
  stopped : loop.session.gate = .stopped
  carried : ∃ applied, loop.session.tempo = tempo.after applied ∧
    (applied <+: ahead.filterMap ParamMessage.change? ∧ loop.station.IsIdle ∨
      ∃ left behind, loop.session.params.waiting = left ++ .wake :: behind ∧
        ahead.filterMap ParamMessage.change? =
          applied ++ left.filterMap ParamMessage.change?)

/-- **What comes behind a wake is never carried out**, nor is what is accepted later. -/
theorem Behind.act {tempo : Tempo} {ahead : List ParamMessage} {loop : Loop M S}
    (behind : Behind tempo ahead loop) (act : Act M) : Behind tempo ahead (loop.act act).2 := by
  refine ⟨act_stopped act behind.stopped, ?_⟩
  obtain ⟨applied, carried, rest⟩ := behind.carried
  cases act with
  | reach | control => exact ⟨applied, carried, rest⟩
  | post message =>
    rcases loop.session.putParams_cases message with
      ⟨params, accepted, waiting, -⟩ | ⟨refused, -⟩ | ⟨refused, -⟩
    · simp only [Loop.act, accepted]
      refine ⟨applied, carried, rest.imp id ?_⟩
      rintro ⟨left, later, waits, split⟩
      exact ⟨left, later ++ [message], by rw [waiting, waits, List.append_assoc]; rfl, split⟩
    all_goals
      simp only [Loop.act, refused]
      exact ⟨applied, carried, rest⟩
  | thread now =>
    by_cases draining : loop.station = .draining
    · rcases rest with ⟨-, idle⟩ | ⟨left, later, waits, split⟩
      · rw [draining] at idle
        exact idle.elim
      have fewer : applied <+: ahead.filterMap ParamMessage.change? := ⟨_, split.symm⟩
      simp only [Loop.act]
      rcases loop.step_draining now draining with ⟨waiting, stepped⟩ | ⟨rest, waiting, stepped⟩ |
        ⟨change, rest, waiting, stepped⟩
      · rw [waiting] at waits
        simp at waits
      · rw [stepped]
        exact ⟨applied, carried, .inl ⟨fewer, trivial⟩⟩
      · rw [stepped]
        -- the change is ahead of the wake
        cases left with
        | nil =>
          rw [waiting] at waits
          cases waits
        | cons first left =>
          rw [waiting] at waits
          cases waits
          refine ⟨applied ++ [change], ?_, .inr ⟨left, later, ?_, ?_⟩⟩
          · exact Session.tempo_applyChange (M := M)
              { loop.session with params := loop.session.params.discard 1 } carried change
          · rw [applyChange_params]
            show (loop.session.params.waiting.drop 1) = _
            rw [waiting]
            rfl
          · rw [split, List.append_assoc]
            rfl
    by_cases leaving : loop.station = .leaving
    · have stepped : loop.step now =
          ([], { loop with session := loop.session.release, station := .returned }) := by
        unfold step
        rw [leaving]
      simp only [Loop.act, stepped]
      refine ⟨applied, carried, .inl ⟨?_, trivial⟩⟩
      rcases rest with ⟨fewer, -⟩ | ⟨left, later, -, split⟩
      · exact fewer
      · exact ⟨_, split.symm⟩
    · obtain ⟨params, kept, -⟩ := loop.step_calm now draining leaving
      have turn := loop.turn_step now
      refine ⟨applied, kept.trans carried, ?_⟩
      rcases rest with ⟨fewer, idle⟩ | ⟨left, later, waits, split⟩
      · exact .inl ⟨fewer, ((turn.wanes (by rw [behind.stopped]; decide)).2.2.2 idle).2⟩
      · exact .inr ⟨left, later, (congrArg Channel.waiting params).trans waits, split⟩

theorem after_wake {loop : Loop M S} (stopped : loop.session.gate = .stopped)
    {ahead behind : List ParamMessage}
    (waiting : loop.session.params.waiting = ahead ++ .wake :: behind) (more : List (Act M)) :
    ∃ applied, applied <+: ahead.filterMap ParamMessage.change? ∧
      (loop.run more).session.tempo = loop.session.tempo.after applied := by
  have reached : Behind loop.session.tempo ahead (loop.run more) := by
    induction more using List.reverseRecOn with
    | nil => exact ⟨stopped, [], rfl, .inr ⟨ahead, behind, waiting, rfl⟩⟩
    | append_singleton acts act ih =>
      rw [run_concat]
      exact ih.act act
  obtain ⟨applied, carried, ⟨fewer, -⟩ | ⟨left, later, -, split⟩⟩ := reached.carried
  · exact ⟨applied, fewer, carried⟩
  · exact ⟨applied, ⟨_, split.symm⟩, carried⟩

/-! ### The whole run -/

/-- Where changes are carried out, a frame was delivered last. -/
theorem shown_of_draining (session : Session M) (sink : S) (acts : List (Act M))
    (here : ((start session sink).run acts).station = .draining) :
    ∃ pixels,
      ((start session sink).events acts).getLast? = some (.sent (.frame pixels) (.ok ())) := by
  induction acts using List.reverseRecOn with
  | nil => cases here
  | append_singleton acts act ih =>
    rw [run_concat] at here
    rw [events_concat]
    rcases ((start session sink).run acts).act_cases act with turn | ⟨nothing, station, -⟩
    · generalize ((start session sink).run acts) = loop at *
      generalize (loop.act act).1 = events at turn ⊢
      generalize (loop.act act).2 = next at turn here
      cases turn with
      | change change params there =>
        rw [List.append_nil]
        exact ih there
      | offer pixels there station answered =>
        rcases answered with ⟨-, taken⟩ | ⟨halting, -⟩
        · rw [taken]
          exact ⟨pixels, List.getLast?_concat⟩
        · rw [halting] at here
          cases here
      | move station idle there => exact (here ▸ there : Station.draining.IsIdle).elim
      | batch there station next =>
        rcases next with ⟨cause, rfl, -⟩ | ⟨pixels, rfl, -⟩ <;> cases here
      | leave | enter | report | halt | rest => cases here
    · rw [nothing, List.append_nil]
      exact ih (station.symm.trans here)

/-- **The speed of a session at any time.** However the thread and those around it are interleaved,
a change that is asked for waits as the last one, if the session is there and fewer messages wait
than there is room for, and otherwise nothing changes. The parameters change only where a frame was
delivered and the tick is about to end. When it ends, each is the last one that is named by the
changes accepted since the tick before that delivered its frame, or as it was then if none names it;
this is so until the next such tick. A change behind a wake is never carried out, nor is one that is
accepted later. And the pacer's period is that of the frame rate. -/
theorem tempo_at_frames (id : SessionId) (machine : M) (frameRate cyclesPerFrame : Positive32)
    (capacity : Nat) (begun : Moment) (sink : S) (acts : List (Act M))
    (polite : WakesStopped acts) :
    let first := Session.new id machine frameRate cyclesPerFrame capacity begun
    let loop := (start first sink).run acts
    let agenda := (start first sink).agenda acts
    (∀ change, loop.PutCases capacity change) ∧
    (∀ act, (loop.act act).2.session.tempo ≠ loop.session.tempo →
      loop.station = .draining ∧ ∃ now, act = .thread now) ∧
    (loop.station = .draining → ∃ pixels,
      ((start first sink).events acts).getLast? = some (.sent (.frame pixels) (.ok ()))) ∧
    (loop.station ≠ .draining → loop.session.tempo = agenda.tempo) ∧
    (∀ now, (loop.step now).1.any Event.isRan = true →
      (loop.step now).2.session.tempo = agenda.tempo.after agenda.wished) ∧
    (∀ ahead behind, loop.session.params.waiting = ahead ++ .wake :: behind →
      ∀ more, ∃ applied, applied <+: ahead.filterMap ParamMessage.change? ∧
        (loop.run more).session.tempo = loop.session.tempo.after applied) ∧
    loop.session.pacer.period = ⟨nanosPerSecond / loop.session.frameRate.toNat⟩ := by
  intro first loop agenda
  have heeds : loop.Heeds capacity agenda :=
    (heeds_run id machine frameRate cyclesPerFrame capacity begun sink acts polite).1
  refine ⟨heeds.put_cases, fun act changed => ?_, shown_of_draining first sink acts,
    heeds.settled, fun now ended => ?_, fun ahead behind waiting more => ?_, heeds.paced⟩
  · cases act with
    | reach | control => exact absurd rfl changed
    | post message =>
      refine absurd ?_ changed
      rcases loop.session.putParams_cases message with
        ⟨_, accepted, -⟩ | ⟨refused, -⟩ | ⟨refused, -⟩
      · simp only [Loop.act, accepted]
        rfl
      all_goals simp only [Loop.act, refused]
    | thread now =>
      refine ⟨?_, now, rfl⟩
      by_contra calm
      refine changed ?_
      by_cases leaving : loop.station = .leaving
      · show (loop.step now).2.session.tempo = _
        unfold step
        rw [leaving]
        rfl
      · exact (loop.step_calm now calm leaving).2.1
  · exact heeds.tempo_of_ran now ended
  · have shut : loop.session.gate = .stopped := by
      rcases heeds.queue with ⟨shut, -⟩ | ⟨taken, -, wakes, -⟩
      · exact shut
      · refine heeds.shut (wakes.mpr ?_)
        rw [waiting]
        exact List.mem_append_right _ List.mem_cons_self
    exact after_wake shut waiting more

/-- Two changes are accepted before a session is stopped and one after it. The tick that is underway
carries the two out. -/
theorem tempo_at_frames_stopped :
    let rate (number : Nat) (positive : 0 < number) (small : number < UInt32.size) : Positive32 :=
      ⟨number, positive, small⟩
    let one := rate 1 (by decide) (by decide)
    let seven := rate 7 (by decide) (by decide)
    let thirty := rate 30 (by decide) (by decide)
    let console := Console.new (Machine.new .perInstruction 0) 4
    let first : Session Console := Session.new ⟨"s"⟩ console one one 4 0
    let acts : List (Act Console) := [.thread 0, .post (.change ⟨some seven, some one⟩), .thread 0,
      .thread 0, .post (.change ⟨none, some thirty⟩), .control .stop, .post .wake,
      .post (.change ⟨some one, some one⟩), .thread 0, .thread 0]
    let loop := (start first Mailbox.empty).run acts
    (loop.step 0).2.session.tempo = ⟨seven, thirty⟩ ∧
      ∀ more, (loop.run more).session.tempo = ⟨seven, thirty⟩ := by
  intro rate one seven thirty console first acts loop
  obtain ⟨-, -, -, -, ended, behind, -⟩ :=
    tempo_at_frames ⟨"s"⟩ console one one 4 0 Mailbox.empty acts trivial
  have wished : ((start first Mailbox.empty).agenda acts).tempo.after
      ((start first Mailbox.empty).agenda acts).wished = ⟨seven, thirty⟩ := by decide +kernel
  have reached : loop.session.tempo = ⟨seven, thirty⟩ := by decide +kernel
  have waits : loop.session.params.waiting = [] ++ .wake :: [.change ⟨some one, some one⟩] := by
    decide +kernel
  refine ⟨(ended 0 (by decide +kernel)).trans wished, fun more => ?_⟩
  obtain ⟨applied, fewer, carried⟩ := behind _ _ waits more
  rw [List.prefix_nil.mp fewer, reached] at carried
  exact carried

end Loop

end Arcade
