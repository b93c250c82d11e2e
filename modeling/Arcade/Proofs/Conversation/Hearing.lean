/-
**What a conversation hears.**

A conversation goes on turn by turn: the player says a line, takes a frame, hangs up or closes the
input, time passes, idle sessions are stopped (`Turn`). Between two turns it is at rest, so whatever
has happened before, a line that is said has its one effect and no other: the one call that it
leads to is made and returns, a line of counts is printed if it asks for them, and then it is looked
whether the session is still there (`Conversation.Hears`).

* `Conversation.atRest_through`: a conversation is at rest between its turns;
* `Conversation.hears_attend`: what an effect does;
* `Conversation.heeds_every_line`: every line has its one effect, and what ends a conversation.
-/

import Arcade.Proofs.Conversation.Playing
import Arcade.Proofs.Conversation.Utterance

namespace Arcade

open Registry

namespace Rehearsal

variable {rehearsal : Rehearsal} {settings : Settings} {id : SessionId}

/-! ### Cues that are no calls -/

/-- After the last step of a cue. -/
theorem atRest_stepFor {middle : Rehearsal} {activity : Activity} {outcome : Outcome}
    (busy : rehearsal.stack ≠ []) (stack : middle.stack = [activity])
    (last : rehearsal.step = middle.finish .lead outcome) (plain : middle.IsPlain)
    (hosts : middle.registry.Hosts settings id) (more : Nat) :
    (rehearsal.stepFor (more + 1)).AtRest settings id := by
  have rests := (finishes_finish middle stack outcome).atRest plain hosts
  rw [stepFor_succ busy, last, stepFor_of_idle rests.idle]
  exact rests

/-- A client takes frames while there are any left to take. -/
theorem atRest_frames {name : String} {left taken steps : Nat}
    (stack : rehearsal.stack = [.frames name left taken .lead]) (plain : rehearsal.IsPlain)
    (hosts : rehearsal.registry.Hosts settings id) (enough : left < steps) :
    (rehearsal.stepFor steps).AtRest settings id := by
  induction steps generalizing rehearsal left taken with
  | zero => exact absurd enough (Nat.not_lt_zero left)
  | succ steps ih =>
    have busy : rehearsal.stack ≠ [] := by
      rw [stack]
      exact List.cons_ne_nil _ _
    cases left with
    | zero =>
      have last : rehearsal.step = rehearsal.finish .lead (.taken taken) := by rw [step, stack]
      exact atRest_stepFor busy stack last plain hosts steps
    | succ left =>
      cases offers : rehearsal.offering? name with
      | none =>
        have last : rehearsal.step = rehearsal.finish .lead (.taken taken) := by
          rw [step, stack]
          simp only [offers]
        exact atRest_stepFor busy stack last plain hosts steps
      | some worker =>
        let handed : Rehearsal := { rehearsal with
          stack := [.frames name left (taken + 1) .lead] }.move (.work worker .accepts)
        have onward : rehearsal.step = handed.settleWorker worker := by
          rw [step, stack]
          simp only [offers]
          rfl
        have works := @works_settleWorker handed worker
        rw [stepFor_succ busy, onward]
        exact ih works.stack (Minds.of_clients plain works.clients).plain
          (works.induct (fun system => system.registry.Hosts settings id)
            (fun _ number reaction hosts => hosts.work number reaction)
            (hosts.work worker .accepts)) (Nat.lt_of_succ_lt_succ enough)

namespace AtRest

variable (rests : rehearsal.AtRest settings id)

include rests

/-- Time passes. -/
theorem wait (span : Span) : (rehearsal.move (.wait span)).AtRest settings id :=
  ⟨rests.idle, rests.plain, rests.hosts.regardless _ _, rests.settled⟩

/-- A client answers otherwise from now on. -/
theorem changeMood {cue : Cue} {name : String} {mood : Mood}
    (changes : ∀ rehearsal : Rehearsal, rehearsal.perform cue .lead =
      ((rehearsal.move (.wait ⟨1⟩)).modifyClient name fun client => { client with mood }).finish
        .lead (.reply (.ok .done))) : (rehearsal.play cue).AtRest settings id := by
  let cued : Rehearsal := { rehearsal with stack := [.cue cue .lead], outcome := none }
  have last : cued.step = _ := changes cued
  have plain := rests.plain.modifyClient name (fun client => { client with mood })
    fun _ started unload => ⟨started, unload⟩
  exact atRest_stepFor (List.cons_ne_nil _ _) rfl last plain (rests.wait ⟨1⟩).hosts (stepLimit - 1)

theorem frames (name : String) (count : Nat) (few : count ≤ 1) :
    (rehearsal.play (.frames name count)).AtRest settings id := by
  have later := rests.wait ⟨1⟩
  show Rehearsal.AtRest settings id (stepFor _ (stepLimit - 1 + 1))
  rw [stepFor_succ (List.cons_ne_nil _ _)]
  exact atRest_frames rfl later.plain later.hosts (Nat.le_trans (Nat.succ_le_succ few) (by decide))

end AtRest

/-- A session is started for a client without a script. -/
theorem atRest_start (settings : Settings) (name : String) (id : SessionId) (rom : Rom)
    (seed : UInt64) :
    ((new settings).play (.start name (some id) rom seed none [] [])).AtRest settings id := by
  let call : Call := .start id rom seed
  let hired : Rehearsal := { (new settings).move (.wait ⟨1⟩) with
    clients := [⟨name, id, 0, .listening, 0, none, [], []⟩]
    named := 1
    stack := [.cue (.start name (some id) rom seed none [] []) .lead] }
  have plain : hired.IsPlain := fun client member => by
    rw [List.mem_singleton.mp member]
    exact ⟨rfl, rfl⟩
  have tends : (hired.system.begin call).registry.Tends settings id
      (call.tasks hired.registry.sinks) :=
    ⟨⟨rfl, rfl, ⟨fun _ _ found => (by cases found), fun _ member => (by cases member)⟩,
      fun _ there => absurd rfl there⟩, @System.labelled_begun [] _ call,
      fun other number custody waits =>
        absurd waits (call.join_not_mem_tasks _ other number custody)⟩
  have flies := flies_enter call (some id) (show hired.stack = [_] from rfl) plain tends
  show Rehearsal.AtRest settings id (stepFor _ (stepLimit - 1 + 1))
  rw [stepFor_succ (List.cons_ne_nil _ _)]
  exact flies.lands.1

/-- What the player got is forgotten. -/
theorem atRest_forget (rests : rehearsal.AtRest settings id) :
    Rehearsal.AtRest settings id { rehearsal with
      system := ⟨{ rehearsal.registry with events := [] }, []⟩
      sightings := []
      noted := 0
      notices := [] } :=
  ⟨rests.idle, rests.plain, rests.hosts.regardless _ _, rests.settled⟩

end Rehearsal

/-! ### Turns -/

/-- What may happen in a conversation. -/
inductive Turn where
  /-- The player says a line. -/
  | line (read : FileReader) (seed : UInt64) (line : String)
  /-- The input ends. -/
  | close
  /-- The player takes a frame. -/
  | takeFrame
  /-- The player reads what it got. -/
  | messages
  /-- The player does not listen any more. -/
  | hangUp
  /-- The player breaks the worker off. -/
  | breakOff
  | elapse (span : Span)
  /-- Idle sessions are stopped. -/
  | sweep

/-- The calls of an effect, and the look whether the session is still there, unless the player
leaves. -/
def Effect.calls (id : SessionId) : Effect → List Call
  | .nothing => [.session id .contains]
  | .leave => []
  | .report => [.stats, .session id .contains]
  | .ask request => [.session id request, .session id .contains]

namespace Conversation

variable {settings : Settings} {before middle after : Conversation}

/-- The conversation after a turn. -/
def take (conversation : Conversation) : Turn → Conversation
  | .line read seed line => conversation.say read seed line
  | .close => conversation.close
  | .takeFrame => conversation.takeFrame
  | .messages => conversation.messages.2
  | .hangUp => conversation.play (.hangUp player)
  | .breakOff => conversation.play (.breakOff player)
  | .elapse span => conversation.elapse span
  | .sweep => conversation.sweep

/-- The conversation after some turns. -/
def through (conversation : Conversation) (turns : List Turn) : Conversation :=
  turns.foldl take conversation

/-- The registry of a conversation. -/
def registry (conversation : Conversation) : Registry := conversation.rehearsal.registry

/-- Whether a conversation is at rest, as it is between two turns. -/
def AtRest (settings : Settings) (conversation : Conversation) : Prop :=
  conversation.rehearsal.AtRest settings conversation.id

/-! ### What an effect does -/

/-- Whether between two points of a conversation some calls are begun, in this order and no others,
and each of them has returned at the second point. -/
structure Makes (calls : List Call) (before after : Conversation) : Prop where
  system : ∃ schedule, after.rehearsal.system = before.rehearsal.system.run schedule
  returned : ∃ flights,
    after.rehearsal.system.flights = before.rehearsal.system.flights ++ flights ∧
    flights.map Flight.call = calls ∧ ∀ flight ∈ flights, flight.isOver = true

theorem Makes.none (same : after.rehearsal = before.rehearsal) : before.Makes [] after :=
  ⟨⟨[], by rw [same]; rfl⟩, [], by rw [same, List.append_nil], rfl, fun _ member => by
    cases member⟩

theorem Makes.trans {first second : List Call} (one : before.Makes first middle)
    (two : middle.Makes second after) : before.Makes (first ++ second) after := by
  obtain ⟨early, reached⟩ := one.system
  obtain ⟨late, last⟩ := two.system
  obtain ⟨begun, same, calls, complete⟩ := one.returned
  obtain ⟨more, also, others, ended⟩ := two.returned
  refine ⟨⟨early ++ late, by rw [last, reached, System.run_append]⟩, begun ++ more, ?_, ?_,
    fun flight member => (List.mem_append.mp member).elim (complete flight) (ended flight)⟩
  · rw [also, same, List.append_assoc]
  · rw [List.map_append, calls, others]

theorem Makes.single {id : SessionId} {call : Call}
    (calls : before.rehearsal.Calls settings id call after.rehearsal) :
    before.Makes [call] after := by
  obtain ⟨flight, flights, same, complete⟩ := calls.returned
  exact ⟨calls.system, [flight], flights, congrArg (fun call => [call]) same, fun other member => by
    rw [List.mem_singleton.mp member]
    exact complete⟩

/-- The lines that an effect prints: at most one, with the numbers of the moment. -/
def counts (conversation : Conversation) : Effect → List String
  | .report =>
    let counted := (conversation.play (.call .stats)).registry
    [countsLine counted.table.size counted.settings.maxSessions.toNat]
  | .nothing | .leave | .ask _ => []

/-- What a line with an effect does to a conversation that has not ended. -/
structure Hears (effect : Effect) (before after : Conversation) : Prop where
  /-- The calls of the effect are made, and no others. -/
  makes : before.Makes (effect.calls before.id) after
  printed : after.printed = before.counts effect ++ before.printed
  /-- The conversation ends if the player leaves, or if the session is not there any more. -/
  ended_iff : after.ended = true ↔ effect = .leave ∨ after.registry.slot? before.id = none
  /-- A line without an effect changes no slot and no worker of a session that has not ended, and
  such a session stays. -/
  spares : effect = .nothing → before.registry.SparesLive after.registry
  stays : effect = .nothing → ∀ slot, before.registry.slot? before.id = some slot →
    before.registry.slotFinished slot = false → after.ended = false

section AtRest

variable (rests : before.AtRest settings)

include rests

theorem makes_ask (request : Request) :
    before.rehearsal.Calls settings before.id (.session before.id request)
      (before.play (.request (.named before.id) request)).rehearsal :=
  Rehearsal.play_call rests (Rehearsal.callsFor_request _ _) rfl

/-- Looking whether the session is still there. -/
theorem attends (going : before.ended = false) :
    before.rehearsal.Calls settings before.id (.session before.id .contains)
      before.attend.rehearsal ∧
      before.registry.SparesLive before.attend.registry ∧
      before.attend.printed = before.printed ∧ before.attend.id = before.id ∧
      (before.attend.ended = true ↔ before.attend.registry.slot? before.id = none) := by
  have looking (registry : Registry) (answer : Except SinkError Unit) :
      (Task.contains before.id).step registry answer =
        some (registry.answer (.ok (.flag (registry.slot? before.id).isSome))) := rfl
  obtain ⟨calls, spares, outcome⟩ := Rehearsal.play_look rests
    (Rehearsal.callsFor_request before.id .contains) rfl rfl looking
  let looked := before.play (.request (.named before.id) .contains)
  have reply : looked.reply? = some (.ok (.flag (looked.registry.slot? before.id).isSome)) := by
    rw [reply?, show looked.rehearsal.outcome = _ from outcome]
    rfl
  have attended : before.attend =
      { looked with ended := (looked.registry.slot? before.id).isNone } := by
    simp only [attend, going, Bool.false_eq_true, if_false]
    rw [show (before.play (.request (.named before.id) .contains)).reply? = _ from reply]
    cases looked.registry.slot? before.id with
    | none => rfl
    | some slot => exact congrArg (fun ended => { looked with ended }) going
  rw [attended]
  exact ⟨calls, spares, rfl, rfl, Option.isNone_iff_eq_none⟩

/-- The call of a report. -/
theorem makes_report :
    before.rehearsal.Calls settings before.id .stats (before.carryOut .report).rehearsal ∧
      (before.carryOut .report).printed = before.counts .report ++ before.printed ∧
      (before.carryOut .report).ended = before.ended ∧
      (before.carryOut .report).id = before.id := by
  have looking (registry : Registry) (answer : Except SinkError Unit) :
      (Task.count .stats).step registry answer =
        some (registry.answer (.ok (registry.count .stats))) := rfl
  obtain ⟨calls, -, outcome⟩ := Rehearsal.play_look rests
    (Rehearsal.callsFor_call .stats) rfl rfl looking
  let counted := before.play (.call .stats)
  have reply : counted.reply? = some (.ok (counted.registry.count .stats)) := by
    rw [reply?, show counted.rehearsal.outcome = _ from outcome]
    rfl
  have reported : before.carryOut .report =
      { counted with printed := before.counts .report ++ before.printed } := by
    simp only [carryOut]
    rw [show (before.play (.call .stats)).reply? = _ from reply]
    rfl
  rw [reported]
  exact ⟨calls, rfl, rfl, rfl⟩

/-- An effect that is not the end makes its own calls and prints its own line, if it has any. -/
theorem makes_carryOut (going : before.ended = false) {effect : Effect} (stays : effect ≠ .leave) :
    ∃ calls, effect.calls before.id = calls ++ [.session before.id .contains] ∧
      before.Makes calls (before.carryOut effect) ∧
      (before.carryOut effect).printed = before.counts effect ++ before.printed ∧
      (before.carryOut effect).ended = false ∧ (before.carryOut effect).id = before.id := by
  cases effect with
  | nothing => exact ⟨[], rfl, .none rfl, rfl, going, rfl⟩
  | leave => exact absurd rfl stays
  | report =>
    obtain ⟨calls, printed, ended, same⟩ := makes_report rests
    exact ⟨[.stats], rfl, .single calls, printed, ended.trans going, same⟩
  | ask request =>
    exact ⟨[.session before.id request], rfl, .single (makes_ask rests request), rfl, going, rfl⟩

theorem atRest_carryOut (effect : Effect) : (before.carryOut effect).AtRest settings := by
  cases effect with
  | nothing => exact rests
  | leave => exact rests
  | report =>
    obtain ⟨calls, -, -, same⟩ := makes_report rests
    rw [AtRest, same]
    exact calls.atRest
  | ask request => exact (makes_ask rests request).atRest

/-- **What an effect does.** -/
theorem hears_attend (going : before.ended = false) (effect : Effect) :
    before.Hears effect (before.carryOut effect).attend := by
  by_cases leaves : effect = .leave
  · subst leaves
    have left : (before.carryOut .leave).attend = { before with ended := true } := rfl
    rw [left]
    exact ⟨.none rfl, rfl, by simp, fun idle => (by cases idle), fun idle => (by cases idle)⟩
  · obtain ⟨calls, all, makes, printed, open', same⟩ := makes_carryOut rests going leaves
    obtain ⟨last, spares, kept, -, ended⟩ := attends (atRest_carryOut rests effect) open'
    rw [same] at last ended
    have spared (idle : effect = .nothing) :
        before.registry.SparesLive (before.carryOut effect).attend.registry := by
      subst idle
      exact spares
    refine ⟨all ▸ makes.trans (.single last), kept.trans printed, ?_, spared, ?_⟩
    · rw [ended, or_iff_right leaves]
    · intro idle slot there lasting
      rw [← Bool.not_eq_true, ended, (spared idle).slots _ slot there lasting]
      exact Option.some_ne_none slot

/-! ### Between two turns -/

theorem atRest_attend : before.attend.AtRest settings := by
  cases going : before.ended with
  | true =>
    simp only [attend, going, if_true]
    exact rests
  | false =>
    obtain ⟨calls, -, -, same, -⟩ := attends rests going
    rw [AtRest, same]
    exact calls.atRest

/-- A turn leaves a conversation at rest. -/
theorem atRest_take (turn : Turn) : (before.take turn).AtRest settings := by
  cases turn with
  | line read seed line =>
    cases ended : before.ended with
    | true => rwa [take, say_of_ended before read seed line ended]
    | false =>
      simp only [take, say, ended, Bool.false_eq_true, if_false]
      exact atRest_attend (atRest_carryOut rests _)
  | close => exact (Rehearsal.play_call rests (Rehearsal.callsFor_call .shutdown) rfl).atRest
  | takeFrame => exact Rehearsal.AtRest.frames rests player 1 (Nat.le_refl 1)
  | messages => exact Rehearsal.atRest_forget rests
  | hangUp => exact Rehearsal.AtRest.changeMood rests fun _ => rfl
  | breakOff => exact Rehearsal.AtRest.changeMood rests fun _ => rfl
  | elapse span => exact Rehearsal.AtRest.wait rests span
  | sweep => exact (Rehearsal.play_call rests (Rehearsal.callsFor_call .sweep) rfl).atRest

/-- **A conversation is at rest between its turns.** -/
theorem atRest_through (turns : List Turn) : (before.through turns).AtRest settings := by
  induction turns generalizing before with
  | nil => exact rests
  | cons turn rest ih => exact ih (atRest_take rests turn)

end AtRest

/-! ### The end -/

/-- Whether a conversation ends with a turn: the player leaves, the session is not registered any
more after a line, or the input ends. -/
def Closes (conversation : Conversation) : Turn → Prop
  | .line read seed line =>
    conversation.ended = false ∧ (Utterance.quit.Fits (Text.trimmed line.toList) ∨
      (conversation.say read seed line).registry.slot? conversation.id = none)
  | .close => conversation.ended = false
  | .takeFrame | .messages | .hangUp | .breakOff | .elapse _ | .sweep => False

/-- What a line says is one thing, and that leads to one effect. -/
theorem exists_effect (read : FileReader) (seed : UInt64) (line : String) :
    ∃ utterance : Utterance,
      (∀ other : Utterance, other.Fits (Text.trimmed line.toList) ↔ other = utterance) ∧
      ∀ other, utterance.LeadsTo settings read seed other ↔
        other = (Command.ofLine line).effect settings read seed := by
  obtain ⟨utterance, only⟩ := Utterance.exists_fits_iff (Text.trimmed line.toList)
  exact ⟨utterance, only, fun _ => Utterance.leadsTo_iff ((only utterance).mpr rfl)⟩

/-- Only the one word makes a player leave. -/
theorem effect_eq_leave (read : FileReader) (seed : UInt64) (line : String) :
    (Command.ofLine line).effect settings read seed = .leave ↔
      Utterance.quit.Fits (Text.trimmed line.toList) := by
  obtain ⟨utterance, only, leads⟩ := @exists_effect settings read seed line
  rw [only, eq_comm, ← leads]
  exact ⟨fun leaves => by cases leaves; rfl, fun same => same ▸ .quit⟩

section AtRest

variable (rests : before.AtRest settings)

include rests

theorem hears_say (going : before.ended = false) (read : FileReader) (seed : UInt64)
    (line : String) : before.Hears ((Command.ofLine line).effect settings read seed)
      (before.say read seed line) := by
  simp only [say, going, Bool.false_eq_true, if_false]
  rw [show before.rehearsal.registry.settings = settings from rests.hosts.settings_eq]
  exact hears_attend rests going _

/-- With which turns a conversation ends. -/
theorem ended_take (turn : Turn) :
    (before.take turn).ended = true ↔ before.ended = true ∨ before.Closes turn := by
  cases turn with
  | line read seed line =>
    cases ended : before.ended with
    | true => simp [take, say_of_ended before read seed line ended, ended]
    | false =>
      rw [take, (hears_say rests ended read seed line).ended_iff, effect_eq_leave]
      simp [Closes, ended]
  | close => cases ended : before.ended <;> simp [take, close, Closes, ended]
  | _ => exact (or_iff_left not_false).symm

/-- **A conversation has ended if one of its turns ended it.** -/
theorem ended_through (turns : List Turn) :
    (before.through turns).ended = true ↔ before.ended = true ∨
      ∃ early turn late, turns = early ++ turn :: late ∧ (before.through early).Closes turn := by
  induction turns generalizing before with
  | nil => simp [through]
  | cons turn rest ih =>
    have onward : before.through (turn :: rest) = (before.take turn).through rest := rfl
    rw [onward, ih (atRest_take rests turn), ended_take rests turn, or_assoc]
    refine or_congr_right ⟨?_, ?_⟩
    · rintro (closes | ⟨early, next, late, rfl, closes⟩)
      · exact ⟨[], turn, rest, rfl, closes⟩
      · exact ⟨turn :: early, next, late, rfl, closes⟩
    · rintro ⟨early, next, late, split, closes⟩
      cases early with
      | nil =>
        cases split
        exact .inl closes
      | cons first early =>
        cases split
        exact .inr ⟨early, next, late, rfl, closes⟩

end AtRest

theorem atRest_begun (settings : Settings) (id : SessionId) (rom : Rom) (seed : UInt64) :
    (start settings id rom seed).AtRest settings :=
  Rehearsal.atRest_start settings player id rom seed

/-- **Every line has its one effect, and a conversation ends with a line only if it is the word for
it or if the session is gone.** -/
theorem heeds_every_line (settings : Settings) (id : SessionId) (rom : Rom) (seed : UInt64)
    (turns : List Turn) :
    let begun := start settings id rom seed
    let conversation := begun.through turns
    (∀ read draw line, ∃ utterance effect,
      (∀ other : Utterance, other.Fits (Text.trimmed line.toList) ↔ other = utterance) ∧
      (∀ other, utterance.LeadsTo settings read draw other ↔ other = effect) ∧
      (conversation.ended = true → conversation.say read draw line = conversation) ∧
      (conversation.ended = false →
        conversation.Hears effect (conversation.say read draw line))) ∧
    (conversation.ended = true ↔ begun.ended = true ∨
      ∃ early turn late, turns = early ++ turn :: late ∧ (begun.through early).Closes turn) := by
  intro begun conversation
  have rests : begun.AtRest settings := atRest_begun settings id rom seed
  refine ⟨fun read draw line => ?_, ended_through rests turns⟩
  obtain ⟨utterance, only, leads⟩ := @exists_effect settings read draw line
  exact ⟨utterance, _, only, leads, say_of_ended conversation read draw line,
    fun going => hears_say (atRest_through rests turns) going read draw line⟩

/-- A conversation goes on after a line of blanks, and blanks around the word do not keep it from
ending. -/
example :
    let unreadable : FileReader := fun _ => .error "no files"
    let begun := start .default ⟨"a"⟩
      ⟨[0x12, 0x00], ⟨60, by decide, by decide⟩, ⟨8, by decide, by decide⟩⟩ 0
    (begun.through [.line unreadable 0 "  ", .takeFrame]).ended = false ∧
      (begun.through [.line unreadable 0 "  ", .line unreadable 0 " quit "]).ended = true := by
  decide +kernel

end Conversation

end Arcade
