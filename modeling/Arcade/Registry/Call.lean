/-
**Calls on the registry.**

Some calls concern one session (`Request`), the others all of them. A call is carried out by its
tasks.
-/

import Arcade.Registry.Task

namespace Arcade

/-- What may be asked of one session. -/
inductive Request where
  /-- To stop it, close its sink and forget it. -/
  | stop
  /-- To stop its machine, but keep its sink. -/
  | unload
  /-- To run another program for its client. -/
  | changeRom (rom : Rom) (seed : UInt64)
  /-- To pause it. -/
  | pause
  /-- To let it run on. -/
  | unpause
  /-- To flip between running and paused, and say whether it is paused afterwards. -/
  | toggle
  /-- To say whether it is paused. -/
  | isPaused
  /-- To change how fast it runs. -/
  | change (change : ParamChange)
  /-- To pass a key event to its machine. -/
  | press (event : KeyEvent)
  /-- To say whether it is registered. -/
  | contains
  deriving DecidableEq

/-- The calls on the registry. -/
inductive Call where
  /-- Starts a session for a client whose sink is handed to the registry. -/
  | start (id : SessionId) (rom : Rom) (seed : UInt64)
  /-- Asks something of one session. -/
  | session (id : SessionId) (request : Request)
  /-- Stops the sessions that are idle or done, and says which. -/
  | sweep
  /-- Stops every session. -/
  | shutdown
  /-- Counts the sessions. -/
  | size
  /-- Says whether there are no sessions. -/
  | isEmpty
  /-- Counts the sessions and names their limit. -/
  | stats
  /-- Names the sessions. -/
  | ids
  /-- Names the programs that clients may ask for. -/
  | catalog
  deriving DecidableEq

/-- The tasks of what is asked of a session. Sessions that are done are forgotten first, except
where the session is taken out of its slot anyway. -/
def Request.tasks (id : SessionId) : Request → List Task
  | .stop => [.remove id]
  | .unload => [.unload id .park]
  | .changeRom rom seed => [.rebuild id rom seed]
  | .pause => [.reap, .seek id .pause]
  | .unpause => [.reap, .seek id .unpause]
  | .toggle => [.reap, .seek id .toggle]
  | .isPaused => [.reap, .seek id .isPaused]
  | .change wish =>
    if wish.isEmpty then [.answer (.ok .done)] else [.reap, .seek id (.change wish)]
  | .press event => [.reap, .record id event]
  | .contains => [.reap, .contains id]

/-- The tasks of a call, whose client's sink has the given number if it starts a session. -/
def Call.tasks (sink : SinkId) : Call → List Task
  | .start id rom seed => [.build id rom seed sink]
  | .session id request => request.tasks id
  | .sweep => [.sweep]
  | .shutdown => [.shutdown]
  | .size => [.reap, .count .size]
  | .isEmpty => [.reap, .count .vacancy]
  | .stats => [.reap, .count .stats]
  | .ids => [.list]
  | .catalog => [.catalog]

/-- How many sinks a call hands to the registry. -/
def Call.sinks : Call → Nat
  | .start _ _ _ => 1
  | .session _ _ | .sweep | .shutdown | .size | .isEmpty | .stats | .ids | .catalog => 0

end Arcade
