/-
**What can go wrong with a machine.**

While it runs, a machine fails only by calling too deep or by returning from no call. Around a run
a program may be too large to load, a file may be unreadable, or a picture may not be printable.
-/

import Arcade.Machine.Layout

namespace Arcade

/-- The failures of a running machine. -/
inductive Fault where
  /-- A subroutine call is nested deeper than the call stack allows. -/
  | stackOverflow
  /-- A subroutine returns, but none was called. -/
  | stackUnderflow
  deriving DecidableEq, Repr

/-- The failures of a machine and of what is done with it. -/
inductive MachineError where
  /-- The program stopped with a fault. -/
  | fault (cause : Fault)
  /-- The program does not fit in memory. -/
  | programTooLarge
  /-- A file could not be read; the reason is the system's. -/
  | io (reason : String)
  /-- Text could not be produced. -/
  | formatting
  deriving DecidableEq, Repr

/-- The wording of a fault. -/
def Fault.message : Fault → String
  | .stackOverflow => s!"call stack overflow, depth limit is {stackLimit}"
  | .stackUnderflow => "call stack underflow"

/-- The wording of an error. -/
def MachineError.message : MachineError → String
  | .fault cause => cause.message
  | .programTooLarge => "program too large for VM memory"
  | .io reason => reason
  | .formatting => "an error occurred when formatting an argument"

end Arcade
