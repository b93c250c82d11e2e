/-
**What can go wrong with a session.**

Each error is a cause, and `SessionError.message` is the only place where causes are worded. Some
causes come from a part of the session (`SessionError.source?`).
-/

import Arcade.Console
import Arcade.Sink.Basic

namespace Arcade

/-- The failures of the operations on sessions. -/
inductive SessionError where
  /-- No session is registered under the name. -/
  | notFound (id : SessionId)
  /-- A session is registered under the name. -/
  | alreadyExists (id : SessionId)
  /-- The session is registered but no machine runs for it. -/
  | notRunning (id : SessionId)
  /-- As many sessions are registered as are allowed. -/
  | capacityReached (limit : Nat)
  /-- The session's thread broke off and its sink was lost. -/
  | panicked (id : SessionId)
  /-- As many parameter changes wait as there is room for. -/
  | paramQueueFull (id : SessionId)
  | machine (cause : MachineError)
  | input (cause : SendError)
  | sink (cause : SinkError)
  /-- The settings could not be read. -/
  | configuration (reason : String)
  /-- A file could not be read; the reason is the system's. -/
  | io (reason : String)
  deriving DecidableEq, Repr

namespace SessionError

/-- The wording of an error. -/
def message : SessionError → String
  | .notFound id => s!"session {id.name} not found"
  | .alreadyExists id => s!"session {id.name} already exists"
  | .notRunning id => s!"session {id.name} is not running"
  | .capacityReached limit => s!"session limit of {limit} reached"
  | .panicked id => s!"session {id.name} panicked"
  | .paramQueueFull id => s!"session {id.name} has too many pending parameter changes"
  | .machine cause => s!"interpreter error: {cause.message}"
  | .input cause => s!"input error: {inputErrorMessage cause}"
  | .sink cause => cause.message
  | .configuration reason => s!"configuration error: {reason}"
  | .io reason => reason

/-- The wording of the error of the part that an error comes from. -/
def source? : SessionError → Option String
  | .machine cause => some cause.message
  | .input cause => some (inputErrorMessage cause)
  | .sink cause => some cause.message
  | .configuration reason => some reason
  | .io reason => some reason
  | .notFound _ | .alreadyExists _ | .notRunning _ | .capacityReached _ | .panicked _
  | .paramQueueFull _ => none

/-- Whether the error says that no session is registered under the name. -/
def isNotFound : SessionError → Bool
  | .notFound _ => true
  | _ => false

/-- What a client is told that comes when as many sessions are registered as are allowed. -/
def capacityMessage : String := "Too many sessions, come back later."

/-- What a client is told that is not admitted. -/
def rejection : SessionError → String
  | .capacityReached _ => capacityMessage
  | other => other.message

/-- The error of a parameter change that a session's queue refuses. -/
def ofParams (id : SessionId) : SendError → SessionError
  | .full => .paramQueueFull id
  | .disconnected => .notRunning id

end SessionError

end Arcade
