/-
**The program.**

The command line, with the terminal and the files around it. What is printed and done is decided
elsewhere; here it is only read, written and timed.
-/

import Arcade.CommandLine
import Arcade.Conversation.Basic
import Arcade.Settings.Yaml
import Arcade.Sink.Terminal

namespace Arcade

/-- Reads the bytes of a file. -/
def bytesOfFile (path : String) : IO (Except String (List UInt8)) := do
  try
    return .ok (← IO.FS.readBinFile path).toList
  catch failure =>
    return .error failure.toString

/-- A number of sixty-four bits drawn at random. -/
def randomSeed : IO UInt64 := do
  return UInt64.ofNat (← IO.rand 0 (UInt64.size - 1))

/-- A name drawn at random. -/
def randomId : IO SessionId := do
  let upper ← randomSeed
  let lower ← randomSeed
  return ⟨Text.hexLower 16 upper.toNat ++ Text.hexLower 16 lower.toNat⟩

/-- Runs a program and prints its picture. -/
def printRun (path : String) (cycles : Nat) : IO UInt32 := do
  IO.println runBanner
  let file := (← bytesOfFile path).mapError MachineError.io
  let before ← IO.monoNanosNow
  let report := runProgram file cycles (← randomSeed)
  match report with
  | .unreadable cause => IO.eprintln s!"Error: {cause.message}"
  | .finished picture fault =>
    let after ← IO.monoNanosNow
    IO.println s!"time taken: {(after - before) / 1000000}ms"
    IO.println picture
    if let some cause := fault then
      IO.eprintln s!"Error: {cause.message}"
  return UInt32.ofNat report.exit

/-- Writes a message for the player. -/
def printMessage (json : Bool) (message : Message) : IO Unit := do
  if json then
    IO.println message.render
  else
    match Terminal.show? message, message with
    | some drawn, _ =>
      IO.print drawn
      (← IO.getStdout).flush
    | none, .error reason => IO.eprintln reason
    | none, _ => return

/-- Changes a conversation that others change too, and writes what the player got by that. -/
def change (talk : IO.Ref Conversation) (json : Bool) (act : Conversation → Conversation) :
    IO Conversation := do
  let (messages, next) ← talk.modifyGet fun current =>
    let (messages, next) := (act current).messages
    ((messages, next), next)
  messages.forM (printMessage json)
  return next

/-- Hands frames over at their pace until the conversation is over, and has idle sessions stopped
from time to time. -/
partial def handOver (talk : IO.Ref Conversation) (json : Bool) (sinceSweep : Nat) : IO Unit := do
  let before ← IO.monoNanosNow
  let shown ← change talk json Conversation.takeFrame
  unless shown.ended do
    let used := (← IO.monoNanosNow) - before
    let pause := shown.pace.nanoseconds - used
    IO.sleep (UInt32.ofNat (pause / 1000000))
    let passed := (← IO.monoNanosNow) - before
    let _ ← change talk json fun current => current.elapse ⟨passed⟩
    if shown.rehearsal.registry.settings.sweepSpan.nanoseconds ≤ sinceSweep + passed then
      let _ ← change talk json Conversation.sweep
      handOver talk json 0
    else handOver talk json (sinceSweep + passed)

/-- Prints the lines of counts that were not printed before. -/
def printCounts (before after : Conversation) : IO Unit :=
  (after.printed.take (after.printed.length - before.printed.length)).reverse.forM
    fun line => IO.eprintln line

/-- Listens to the player until the conversation is over or the input ends. -/
partial def listen (talk : IO.Ref Conversation) (json : Bool) : IO Unit := do
  let line ← (← IO.getStdin).getLine
  unless line.isEmpty do
    let seed ← randomSeed
    let current ← talk.get
    let settings := current.rehearsal.registry.settings
    let file ← match Command.ofLine line with
      | .rom name =>
        match settings.roms.lookup? name with
        | some entry => bytesOfFile entry.path
        | none => pure (.error "")
      | _ => pure (.error "")
    let said ← change talk json fun current => current.say (fun _ => file) seed line
    printCounts current said
    unless said.ended do
      listen talk json

/-- The settings in a file. -/
def settingsOfFile (path : String) : IO (Except String Settings) := do
  match ← bytesOfFile path with
  | .error reason => return .error reason
  | .ok bytes =>
    match (String.fromUTF8? ⟨bytes.toArray⟩).bind Settings.ofYamlText? with
    | some settings => return .ok settings
    | none => return .error s!"{path} holds no settings"

/-- Hosts a session for the player at the terminal. -/
def host (settings : Settings) (rom : Rom) (json : Bool) : IO UInt32 := do
  let opened := Conversation.start settings (← randomId) rom (← randomSeed)
  let talk ← IO.mkRef opened
  let begun ← change talk json fun current => current
  if begun.ended then
    return 1
  let frames ← IO.asTask (handOver talk json 0) .dedicated
  listen talk json
  let _ ← change talk json Conversation.close
  let _ ← IO.wait frames
  return 0

/-- Hosts a session with the program of a name. -/
def printPlay (path : String) (name : Option String) (json : Bool) : IO UInt32 := do
  match ← settingsOfFile path with
  | .error reason =>
    IO.eprintln reason
    return 1
  | .ok settings =>
    let file ← match settings.resolve name with
      | some entry => bytesOfFile entry.path
      | none => pure (.error "")
    match Conversation.opening settings name fun _ => file with
    | .error cause =>
      IO.eprintln cause.message
      return 1
    | .ok rom => host settings rom json

end Arcade

open Arcade in
/-- Runs the program for the arguments of the command line. -/
def main (arguments : List String) : IO UInt32 := do
  match Invocation.ofArguments? arguments with
  | some (.run path cycles) => printRun path cycles
  | some (.play settings rom json) => printPlay settings rom json
  | none =>
    usageLines.forM fun line => IO.println line
    return UInt32.ofNat usageExit
