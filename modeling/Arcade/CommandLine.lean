/-
**The command line.**

There are two commands. One runs a program for a number of instructions and prints the picture,
the other hosts a live session. Whatever is no command is answered with the usage.

* `ofArguments?_run`: without a number of instructions a thousand are run.
-/

import Arcade.Machine.Run
import Arcade.Text.Digits

namespace Arcade

/-- What the command line asks for. -/
inductive Invocation where
  /-- To run the program in a file for a number of instructions. -/
  | run (path : String) (cycles : Nat)
  /-- To host a session, with the program of a name or the default one. -/
  | play (settings : String) (rom : Option String) (json : Bool)
  deriving DecidableEq

namespace Invocation

/-- How many instructions are run when no number is given. -/
def defaultCycles : Nat := 1000

/-- The number of instructions that an argument gives. It may have a plus sign and has to fit in
sixty-four bits. -/
def cycles? (argument : String) : Option Nat :=
  let digits := match argument.toList with
    | '+' :: rest => rest
    | chars => chars
  (Text.ofDigits? 10 digits).filter (· < UInt64.size)

/-- The program and the form of output that the arguments of a session give. Of several programs
the last counts. -/
def playOptions (arguments : List String) : Option String × Bool :=
  ((arguments.filter (· != "--json")).getLast?, arguments.contains "--json")

/-- What the arguments of the command line ask for, if they are a command. -/
def ofArguments? : List String → Option Invocation
  | ["run", path] => some (.run path defaultCycles)
  | "run" :: path :: count :: _ => (cycles? count).map (.run path)
  | "play" :: settings :: options =>
    let (rom, json) := playOptions options
    some (.play settings rom json)
  | _ => none

theorem ofArguments?_run (path : String) :
    ofArguments? ["run", path] = some (.run path 1000) := rfl

end Invocation

/-! ### Usage -/

/-- The exit code of a command line that is no command. -/
def usageExit : Nat := 64

/-- The lines that explain the command line. -/
def usageLines : List String := [
  s!"Chip8 v{version}",
  "",
  "usage: chip8 CMD [ARGS]",
  "",
  "commands:",
  "    run     Run the target ROM file headless, then print the display",
  "    play    Host a live session from a session manager configuration",
  "",
  "examples:",
  "    chip8 run maze.ch8 1000",
  "    chip8 play sessions.yaml",
  "    chip8 play sessions.yaml pong --json",
  "",
  "while playing, stdin takes one message per line:",
  "    \x7b\"key\": 5, \"pressed\": true\x7d",
  "    \x7b\"frameRate\": 30, \"cyclesPerFrame\": 20\x7d",
  "    pause",
  "    rom NAME",
  "    stats",
  "    quit",
  ""]

/-! ### Running a program -/

/-- The line that is printed before a program is read. -/
def runBanner : String := "Running Bytecode Interpreter"

/-- What comes of running a program. -/
inductive RunReport where
  /-- The program could not be run. -/
  | unreadable (cause : MachineError)
  /-- The program ran; the picture is printed, and the fault, if there was one, is the reason to
  fail. -/
  | finished (picture : String) (fault : Option Fault)

/-- Runs the program of a file for a number of instructions. -/
def runProgram (file : Except MachineError (List UInt8)) (cycles : Nat) (seed : UInt64) :
    RunReport :=
  match file.bind (Machine.boot .perInstruction seed) with
  | .error cause => .unreadable cause
  | .ok machine =>
    let batch := machine.cycle cycles
    .finished batch.machine.display.dump batch.fault

/-- The exit code after a program was run. -/
def RunReport.exit : RunReport → Nat
  | .unreadable _ => 1
  | .finished _ fault => if fault.isSome then 1 else 0

end Arcade
