/-
**Sinks.**

A sink carries a session's messages to its client. It may refuse a message, for one of the reasons
of `SinkError`, and it can be closed, after which it refuses every message.
-/

import Arcade.Message

namespace Arcade

/-- Why a message was not delivered. -/
inductive SinkError where
  /-- The client went away or the sink was closed. -/
  | closed
  /-- The bytes could not be written; the reason is the system's. -/
  | io (reason : String)
  /-- The message could not be encoded; the reason is the encoder's. -/
  | encoding (reason : String)
  deriving DecidableEq, Repr

/-- The wording of a sink's error. -/
def SinkError.message : SinkError → String
  | .closed => "sink is closed"
  | .io reason => s!"sink write failed: {reason}"
  | .encoding reason => s!"message encoding failed: {reason}"

/-- A destination of messages. -/
class Sink (S : Type) where
  /-- Delivers a message or refuses it. -/
  send : S → Message → Except SinkError Unit × S
  /-- Gives the destination up. -/
  close : S → S

/-- A sink that hands messages over within the program. -/
structure Mailbox where
  /-- The messages that were delivered, the latest first. -/
  reversedMessages : List Message
  /-- Whether the client still listens. -/
  listening : Bool
  /-- Whether the sink was not closed. -/
  opened : Bool

namespace Mailbox

/-- A mailbox with a client that listens. -/
def empty : Mailbox := ⟨[], true, true⟩

/-- The messages that were delivered, in order. -/
def messages (mailbox : Mailbox) : List Message := mailbox.reversedMessages.reverse

/-- Delivers a message while the mailbox is open and the client listens. -/
def send (mailbox : Mailbox) (message : Message) : Except SinkError Unit × Mailbox :=
  if mailbox.opened && mailbox.listening then
    (.ok (), { mailbox with reversedMessages := message :: mailbox.reversedMessages })
  else
    (.error .closed, mailbox)

/-- The mailbox after its client stopped listening. -/
def hangUp (mailbox : Mailbox) : Mailbox := { mailbox with listening := false }

/-- The mailbox after it was closed. -/
def close (mailbox : Mailbox) : Mailbox := { mailbox with opened := false }

instance : Sink Mailbox where
  send := send
  close := close

end Mailbox

end Arcade
