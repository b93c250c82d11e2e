/-
**The gate of a session.**

A gate says whether a session runs, is paused or was stopped. It can be paused and unpaused any
number of times, but a stopped gate never opens again (`stopped_of_stopped`).
-/

namespace Arcade

/-- Whether a session may go on. -/
inductive Gate where
  | running
  | paused
  | stopped
  deriving DecidableEq, Repr

namespace Gate

/-- The gate in one position, if it was in another; says whether it was. -/
def shift (gate source target : Gate) : Bool × Gate :=
  if gate = source then (true, target) else (false, gate)

/-- Pauses a running gate; says whether it was running. -/
def pause (gate : Gate) : Bool × Gate := gate.shift .running .paused

/-- Sets a paused gate running; says whether it was paused. -/
def unpause (gate : Gate) : Bool × Gate := gate.shift .paused .running

/-- Flips between running and paused; says whether the gate is paused afterwards. -/
def toggle : Gate → Bool × Gate
  | .running => (true, .paused)
  | .paused => (false, .running)
  | .stopped => (false, .stopped)

/-- Stops the gate for good. -/
def stop (_ : Gate) : Gate := .stopped

/-- Whether the gate is paused. -/
def isPaused (gate : Gate) : Bool := gate == .paused

/-- What a controller does to a gate. -/
inductive Control where
  | pause
  | unpause
  | toggle
  | stop
  deriving DecidableEq, Repr

/-- The gate after a controller acted. -/
def control (gate : Gate) : Control → Gate
  | .pause => gate.pause.2
  | .unpause => gate.unpause.2
  | .toggle => gate.toggle.2
  | .stop => gate.stop

theorem stopped_of_stopped (act : Control) : Gate.stopped.control act = .stopped := by
  cases act <;> rfl

end Gate

end Arcade
