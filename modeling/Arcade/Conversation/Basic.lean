/-
**A conversation.**

A player has one session and speaks to it line by line. Each line has at most one effect: a call on
the session, a line of counts, or the end. After each line it is looked whether the session is
still there, and if it is gone the conversation is ended. Meanwhile the player takes the frames that
the session offers.

* `say_of_ended`: nothing that is said afterwards has an effect.
-/

import Arcade.Conversation.Command
import Arcade.Registry.Rehearsal

namespace Arcade

/-- How the bytes of a file are obtained, if they can be read. -/
abbrev FileReader := String → Except String (List UInt8)

/-- The program of a catalog entry. -/
def RomEntry.load (entry : RomEntry) (read : FileReader) : Except SessionError Rom :=
  match read entry.path with
  | .ok bytes => .ok ⟨bytes, entry.frameRate, entry.cyclesPerFrame⟩
  | .error reason => .error (.io reason)

/-- The program of a name in the catalog, if there is one and its file can be read. -/
def Settings.program? (settings : Settings) (name : String) (read : FileReader) : Option Rom := do
  let entry ← settings.roms.lookup? name
  (entry.load read).toOption

/-- What a line leads to. -/
inductive Effect where
  | nothing
  /-- The conversation ends. -/
  | leave
  /-- A line of counts is printed. -/
  | report
  /-- Something is asked of the session. -/
  | ask (request : Request)

/-- What a command leads to. -/
def Command.effect (settings : Settings) (read : FileReader) (seed : UInt64) :
    Command → Effect
  | .nothing => .nothing
  | .quit => .leave
  | .pause => .ask .toggle
  | .stats => .report
  | .rom name =>
    match settings.program? name read with
    | some loaded => .ask (.changeRom loaded seed)
    | none => .nothing
  | .press event => .ask (.press event)
  | .change wish => .ask (.change wish)

/-- A player and a session. -/
structure Conversation where
  rehearsal : Rehearsal
  id : SessionId
  /-- Whether it has ended. -/
  ended : Bool
  /-- The lines of counts that were printed, the latest first. -/
  printed : List String

namespace Conversation

/-- The name of the player among the clients of the registry. -/
def player : String := "player"

/-- The line of counts. -/
def countsLine (current limit : Nat) : String :=
  (Json.Value.object
    [("current_sessions", .natural current), ("max_sessions", .natural limit)]).render

/-- The program that a conversation is begun with. -/
def opening (settings : Settings) (name : Option String) (read : FileReader) :
    Except SessionError Rom :=
  match settings.resolve name with
  | some entry => entry.load read
  | none => .error (.configuration "no such program")

/-- Begins a conversation. If the session cannot be started it is ended. -/
def start (settings : Settings) (id : SessionId) (rom : Rom) (seed : UInt64) : Conversation :=
  let started := (Rehearsal.new settings).play (.start player (some id) rom seed none [] [])
  let ended := match started.outcome with
    | some (.started _) => false
    | _ => true
  ⟨started, id, ended, []⟩

/-- The conversation after a cue. -/
def play (conversation : Conversation) (cue : Cue) : Conversation :=
  { conversation with rehearsal := conversation.rehearsal.play cue }

/-- What came of the latest call. -/
def reply? (conversation : Conversation) : Option Reply :=
  match conversation.rehearsal.outcome with
  | some (.reply reply) => some reply
  | _ => none

/-- The conversation after an effect. -/
def carryOut (conversation : Conversation) : Effect → Conversation
  | .nothing => conversation
  | .leave => { conversation with ended := true }
  | .report =>
    let counted := conversation.play (.call .stats)
    match counted.reply? with
    | some (.ok (.stats current limit)) =>
      { counted with printed := countsLine current limit :: counted.printed }
    | _ => counted
  | .ask request => conversation.play (.request (.named conversation.id) request)

/-- The conversation after it was looked whether the session is still there. -/
def attend (conversation : Conversation) : Conversation :=
  if conversation.ended then conversation
  else
    let looked := conversation.play (.request (.named conversation.id) .contains)
    match looked.reply? with
    | some (.ok (.flag false)) => { looked with ended := true }
    | _ => looked

/-- The conversation after a line was said. -/
def say (conversation : Conversation) (read : FileReader) (seed : UInt64) (line : String) :
    Conversation :=
  if conversation.ended then conversation
  else
    let settings := conversation.rehearsal.registry.settings
    (conversation.carryOut ((Command.ofLine line).effect settings read seed)).attend

/-- The conversation after all sessions were stopped. -/
def close (conversation : Conversation) : Conversation :=
  { conversation.play (.call .shutdown) with ended := true }

/-- The conversation after the player took a frame, if there was one. -/
def takeFrame (conversation : Conversation) : Conversation :=
  conversation.play (.frames player 1)

/-- How much time there is for a frame of the session. -/
def pace (conversation : Conversation) : Span :=
  let registry := conversation.rehearsal.registry
  match (registry.slot? conversation.id).map Slot.state with
  | some (.running number) =>
    match registry.worker? number with
    | some worker => worker.session.pacer.period
    | none => Span.ofHertz timerFrequency
  | some (.unloaded _) | some .pending | none => Span.ofHertz timerFrequency

/-- The conversation after some time passed. -/
def elapse (conversation : Conversation) (span : Span) : Conversation :=
  { conversation with rehearsal := conversation.rehearsal.move (.wait span) }

/-- The conversation after idle sessions were stopped. -/
def sweep (conversation : Conversation) : Conversation := conversation.play (.call .sweep)

/-- The messages that the player got since this was asked last, in order, and the conversation in
which they are forgotten. -/
def messages (conversation : Conversation) : List Message × Conversation :=
  let rehearsal := conversation.rehearsal
  let got := rehearsal.sightings.reverse.filterMap fun (_, sighting) =>
    match sighting with
    | .delivery (.message message) => some message
    | .delivery .closed | .delivery .dropped | .outcome _ => none
  let registry := { rehearsal.registry with events := [] }
  (got, { conversation with
    rehearsal := { rehearsal with
      system := ⟨registry, []⟩
      sightings := []
      noted := 0
      notices := [] } })

/-- Whether the session is paused. -/
def isPaused (conversation : Conversation) : Bool :=
  match (conversation.play (.request (.named conversation.id) .isPaused)).reply? with
  | some (.ok (.flag paused)) => paused
  | _ => false

theorem say_of_ended (conversation : Conversation) (read : FileReader) (seed : UInt64)
    (line : String) (ended : conversation.ended = true) :
    conversation.say read seed line = conversation := by
  simp [say, ended]

end Conversation

end Arcade
