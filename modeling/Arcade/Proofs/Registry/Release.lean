/-
**What becomes of a sink.**

When calls are made one after another, a sink that was handed in stays with one registered session,
as long as there is one, and is closed once when the session is gone. One kind of sink is never
closed: a launch that fails at its client or for lack of a thread drops the sink, and so does a
worker that breaks off (`System.Lost`).

* `System.lost_iff_dropped`: a sink is dropped if and only if it was lost;
* `System.held_or_released`: when no call is in progress, a session has the sink, or it was
  released;
* `System.closed_once`: a sink that was not lost is with one session and was not closed, or is with
  none and was closed once; when every session was stopped, it was closed once.
-/

import Arcade.Proofs.Registry.Sequence

namespace Arcade

namespace Registry

variable (registry : Registry)

/-- Whether a registered session has a sink, in its slot or with the worker that runs it. -/
def Holds (id : SessionId) (sink : SinkId) : Prop :=
  registry.state? id = some (.unloaded sink) ∨
    ∃ number standing, registry.state? id = some (.running number) ∧
      registry.standings[number]? = some standing ∧ standing.bears sink = true

/-- How often a sink was closed. -/
def closings (sink : SinkId) : Nat := (registry.sinkHistory sink).count .closed

/-- How often a sink was dropped. -/
def drops (sink : SinkId) : Nat := (registry.sinkHistory sink).count .dropped

theorem releases_eq (sink : SinkId) :
    releases registry.events sink = registry.closings sink + registry.drops sink := by
  simp only [closings, drops, sinkHistory, sinkEvents, List.count, List.countP_map,
    List.countP_filter, List.countP_reverse]
  induction registry.events with
  | nil => rfl
  | cons event rest ih =>
    rw [releases_cons, ih]
    simp only [List.countP_cons]
    by_cases same : event.sink = sink <;> cases kind : event.delivery <;>
      simp [same, kind, Delivery.releases] <;> omega

theorem drops_eq_zero {sink : SinkId} :
    registry.drops sink = 0 ↔
      ∀ event ∈ registry.events, event.delivery = .dropped → event.sink ≠ sink := by
  simp only [drops, sinkHistory, sinkEvents, List.count_eq_zero, List.mem_map, List.mem_filter,
    List.mem_reverse, beq_iff_eq, not_exists, not_and]
  constructor
  · exact fun none event member dropped same => none event ⟨member, same⟩ dropped
  · rintro none event ⟨member, same⟩ dropped
    exact none event member dropped same

end Registry

namespace System

/-! ### Sinks that are dropped -/

/-- Who loses a sink drops it. -/
theorem dropped_of_loses {system : System} {sink : SinkId} {move : Move}
    (loses : system.Loses sink move) :
    ∃ event ∈ (system.move move).registry.events, event.sink = sink ∧
      event.delivery = .dropped := by
  have step := step_move system move
  generalize moved : system.move move = after at step
  rcases loses with ⟨number, cause, launch, rfl, rfl, which⟩ |
    ⟨number, reaction, worker, broken, rfl, known, rfl, running, found, complete⟩
  · cases step with
    | stayed waits =>
      rcases which with found | found <;> obtain ⟨_, _, _, same⟩ := waits _ found <;> cases same
    | @done _ _ flight task later progress known next did =>
      rw [task?_proceed known next] at which
      rcases which with same | same <;> cases same <;> cases did <;>
        exact ⟨_, List.mem_cons_self, rfl, rfl⟩
  · rw [moved] at found
    cases step with
    | stayed =>
      obtain rfl := Option.some.inj (known.symm.trans found)
      rw [Worker.isFinished, complete] at running
      cases running
    | @worked _ _ turner after deliveries there turn =>
      obtain rfl := Option.some.inj (known.symm.trans there)
      have put : (system.registry.turn number worker after deliveries).worker? number =
          some after := List.getElem?_set_self (List.getElem?_eq_some_iff.mp known).1
      obtain rfl := Option.some.inj (put.symm.trans found)
      cases turn with
      | idle =>
        rw [Worker.isFinished, complete] at running
        cases running
      | broke => exact ⟨_, List.mem_cons_self, rfl, rfl⟩
      | _ was next =>
        have phase := congrArg Standing.phase next
        change after.phase = _ at phase
        rw [complete] at phase
        cases phase

/-- **In a sequential schedule a sink is dropped if and only if it was lost.** -/
theorem lost_iff_dropped {settings : Settings} {schedule : List Move}
    (sequential : (new settings).isSequential schedule = true) (sink : SinkId) :
    (new settings).Lost schedule sink ↔
      ((new settings).run schedule).registry.drops sink ≠ 0 := by
  have grows : ∀ before after, ∀ event ∈ ((new settings).run before).registry.events,
      event.sink = sink → event ∈ ((new settings).run (before ++ after)).registry.events := by
    intro before after event member same
    obtain ⟨fresh, split⟩ := sinkEvents_run (new settings) before after sink
    have listed : event ∈ ((new settings).run (before ++ after)).registry.sinkEvents sink := by
      rw [split]
      refine List.mem_append_left _ (List.mem_filter.mpr ⟨List.mem_reverse.mpr member, ?_⟩)
      exact beq_iff_eq.mpr same
    exact List.mem_reverse.mp (List.mem_filter.mp listed).1
  rw [Ne, Registry.drops_eq_zero]
  constructor
  · rintro ⟨before, move, after, rfl, loses⟩ none
    obtain ⟨event, member, same, dropped⟩ := dropped_of_loses loses
    rw [← run_concat] at member
    have kept := grows (before ++ [move]) after event member same
    rw [List.append_assoc, List.singleton_append] at kept
    exact none event kept dropped same
  · refine sequential_induction (new settings) (fun schedule system =>
      (¬ ∀ event ∈ system.registry.events, event.delivery = .dropped → event.sink ≠ sink) →
        (new settings).Lost schedule sink) (fun some => (some fun _ member => by cases member).elim)
      (fun schedule move sequential _ before step some => ?_) schedule sequential
    push Not at some
    obtain ⟨event, member, dropped, same⟩ := some
    obtain ⟨fresh, split, drops⟩ := step.events_eq
    rw [split, List.mem_append] at member
    rcases member with new | old
    · rcases drops event new dropped with lost | ⟨id, -, both⟩
      · exact ⟨schedule, move, [], rfl, same ▸ lost⟩
      · have bound := (undisturbed_of_sequential sequential).1 id
        omega
    · obtain ⟨first, next, rest, rfl, lost⟩ := before fun none => none event old dropped same
      exact ⟨first, next, rest ++ [move], by simp, lost⟩

/-! ### Where a sink is when no call is in progress -/

/-- The worker in a slot is the one that the slot's session has. -/
theorem held_of_bears {settings : Settings} {schedule : List Move}
    (sequential : (new settings).isSequential schedule = true)
    (quiet : ((new settings).run schedule).isQuiet = true) {number : WorkerId}
    {standing : Standing} {sink : SinkId}
    (found : ((new settings).run schedule).registry.standings[number]? = some standing)
    (bears : standing.bears sink = true) :
    ∃! id, ((new settings).run schedule).registry.state? id = some (.running number) := by
  have places := attendance_eq settings schedule number
  rw [Census.total, (attendance number).ofFlights_of_quiet quiet,
    (undisturbed_of_sequential sequential).2, List.count_nil] at places
  obtain ⟨-, unjoined, -⟩ := of_decide_eq_true bears
  have there : knows ((new settings).run schedule).registry.standings number = 1 := by
    simp [knows, (List.getElem?_eq_some_iff.mp found).1]
  have free : waits ((new settings).run schedule).registry.standings number = 0 := by
    simp [waits, found, unjoined]
  exact (existsUnique_iff_attendance _ number (by omega)).mpr (by omega)

/-- **When no call is in progress, one session has a sink, or the sink was released.** -/
theorem held_or_released {settings : Settings} {schedule : List Move}
    (sequential : (new settings).isSequential schedule = true)
    (quiet : ((new settings).run schedule).isQuiet = true) {sink : SinkId}
    (given : sink < ((new settings).run schedule).registry.sinks) :
    (∃! id, ((new settings).run schedule).registry.Holds id sink) ∧
        releases ((new settings).run schedule).registry.events sink = 0 ∨
      (∀ id, ¬ ((new settings).run schedule).registry.Holds id sink) ∧
        releases ((new settings).run schedule).registry.events sink = 1 := by
  have places := custody_eq settings schedule sink
  have one : InOnePlace sink ((new settings).run schedule) := inOnePlace_run settings schedule sink
  rw [Census.total, (custody sink).ofFlights_of_quiet quiet, decide_eq_true given,
    Bool.toNat_true] at places
  have held : ∀ number standing,
      ((new settings).run schedule).registry.standings[number]? = some standing →
        standing.bears sink = true →
          ∃! id, ((new settings).run schedule).registry.state? id = some (.running number) :=
    fun _ _ => held_of_bears sequential quiet
  generalize (new settings).run schedule = system at places one held
  rcases Nat.eq_zero_or_pos ((custody sink).ofStates system.registry.states) with empty | inSlot
  · rcases Nat.eq_zero_or_pos (bearers system.registry.standings sink) with nobody | somebody
    · -- nobody has the sink
      refine .inr ⟨fun id holds => ?_, by omega⟩
      rcases holds with there | ⟨number, standing, -, found, bears⟩
      · exact state?_ne_unloaded empty id there
      · rw [bears_eq_false nobody standing (List.mem_of_getElem? found)] at bears
        cases bears
    · -- a worker has it, and the session in whose slot the worker is
      obtain ⟨standing, member, bears⟩ := List.countP_pos_iff.mp somebody
      obtain ⟨number, found⟩ := List.mem_iff_getElem?.mp member
      obtain ⟨id, running, only⟩ := held number standing found bears
      obtain ⟨-, slots, others⟩ := alone_of_worker one found bears
      refine .inl ⟨⟨id, .inr ⟨number, standing, running, found, bears⟩, ?_⟩, by omega⟩
      rintro other (there | ⟨rival, second, elsewhere, there, also⟩)
      · exact absurd there (slots other)
      · by_cases same : rival = number
        · exact only other (same ▸ elsewhere)
        · rw [others rival second there same] at also
          cases also
  · -- it is in the slot of a session
    obtain ⟨id, state, there, counts⟩ := (custody sink).exists_of_ofStates_pos inSlot
    obtain rfl : state = .unloaded sink := by
      by_contra other
      rw [slot_custody, decide_eq_false other] at counts
      exact Nat.lt_irrefl 0 counts
    obtain ⟨-, slots, workers⟩ := alone_of_slot one there
    refine .inl ⟨⟨id, .inl there, ?_⟩, by omega⟩
    rintro other (elsewhere | ⟨number, standing, -, found, bears⟩)
    · by_contra different
      exact slots other different elsewhere
    · rw [workers standing (List.mem_of_getElem? found)] at bears
      cases bears

/-- **Each sink that was not lost is with one session, or was closed once.** -/
theorem closed_once (settings : Settings) (schedule : List Move)
    (sequential : (new settings).isSequential schedule = true)
    (quiet : ((new settings).run schedule).isQuiet = true) :
    ∀ sink < ((new settings).run schedule).registry.sinks,
      ((new settings).Lost schedule sink →
        (∀ id, ¬ ((new settings).run schedule).registry.Holds id sink) ∧
          ((new settings).run schedule).registry.closings sink = 0) ∧
      (¬ (new settings).Lost schedule sink →
        ((∃! id, ((new settings).run schedule).registry.Holds id sink) ∧
            ((new settings).run schedule).registry.closings sink = 0 ∨
          (∀ id, ¬ ((new settings).run schedule).registry.Holds id sink) ∧
            ((new settings).run schedule).registry.closings sink = 1) ∧
        (((new settings).run schedule).flights.getLast?.map Flight.call = some .shutdown →
          ((new settings).run schedule).registry.closings sink = 1)) := by
  intro sink given
  have kept := held_or_released sequential quiet given
  have lost := lost_iff_dropped sequential sink
  rw [Registry.releases_eq] at kept
  refine ⟨fun gone => ?_, fun stays => ?_⟩
  · have dropped := lost.mp gone
    rcases kept with ⟨-, none⟩ | ⟨nowhere, once⟩
    · omega
    · exact ⟨nowhere, by omega⟩
  · have undropped : ((new settings).run schedule).registry.drops sink = 0 :=
      Decidable.not_not.mp (mt lost.mpr stays)
    refine ⟨kept.imp (And.imp_right fun none => by omega) (And.imp_right fun once => by omega),
      fun last => ?_⟩
    have empty := empty_of_shutdown sequential quiet last
    rcases kept with ⟨⟨id, holds, -⟩, -⟩ | ⟨-, once⟩
    · rcases holds with there | ⟨number, standing, there, -⟩ <;>
        rw [empty id] at there <;> cases there
    · omega

end System

/-- A session is started; one is started whose client does not listen; then every session is
stopped. -/
def deaf : List Move :=
  let on (flight : Nat) : Move := .proceed flight (.ok ())
  [.begin (.start ⟨"s"⟩ loopRom 0), on 0, on 0, on 0, on 0, on 0, on 0,
    .begin (.start ⟨"t"⟩ loopRom 0), on 1, on 1, on 1, .proceed 1 (.error .closed), on 1,
    .begin .shutdown, on 2, on 2, on 2, .work 0 .accepts, on 2, on 2, on 2, on 2]

namespace System

/-- The first sink is closed, the second one is not. -/
theorem closed_once_deaf :
    ((new Settings.default).run deaf).registry.closings 0 = 1 ∧
      ((new Settings.default).run deaf).registry.closings 1 = 0 := by
  have sequential : (new Settings.default).isSequential deaf = true := by decide
  have once := closed_once Settings.default deaf sequential (by decide)
  have lost := lost_iff_dropped sequential
  exact ⟨((once 0 (by decide)).2 (mt (lost 0).mp (by decide))).2 (by decide),
    ((once 1 (by decide)).1 ((lost 1).mpr (by decide))).2⟩

/-- It is not so that every sink was closed once when every session was stopped, even if no client
breaks a worker off. -/
theorem exists_unclosed_of_shutdown :
    ¬ ∀ (settings : Settings) (schedule : List Move),
      (new settings).isSequential schedule = true →
      (∀ worker, Move.work worker .breaks ∉ schedule) →
      ((new settings).run schedule).isQuiet = true →
      ((new settings).run schedule).flights.getLast?.map Flight.call = some .shutdown →
        ∀ sink < ((new settings).run schedule).registry.sinks,
          ((new settings).run schedule).registry.closings sink = 1 := by
  intro closed
  have second := closed Settings.default deaf (by decide) (by simp [deaf, Reaction.accepts])
    (by decide) (by decide) 1 (by decide)
  exact absurd second (by decide)

end System

end Arcade
