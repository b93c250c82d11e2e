/-
**Settings and programs.**

The settings bound the sessions that run together and list the programs that clients may ask for.

* `resolve_none`: without a name the default program is meant.
-/

import Arcade.Machine.State
import Arcade.Message
import Arcade.NameTable
import Arcade.Time

namespace Arcade

/-- Where a program is found and how fast it is to run. -/
structure RomEntry where
  path : String
  frameRate : Positive32
  cyclesPerFrame : Positive32
  deriving DecidableEq

/-- A program and how fast it is to run. -/
structure Rom where
  bytes : List UInt8
  /-- Frames in a second. -/
  frameRate : Positive32
  /-- Instructions in a frame. -/
  cyclesPerFrame : Positive32
  deriving DecidableEq

/-- Programs by name. -/
abbrev Catalog : Type := NameTable RomEntry

/-- The bounds that sessions run under. -/
structure Settings where
  /-- How many sessions may be registered at once. -/
  maxSessions : UInt64
  /-- After how many seconds without input a session is evicted. -/
  idleSeconds : UInt64
  /-- How many seconds lie between two looks for idle sessions. -/
  sweepSeconds : UInt64
  /-- How many key events may wait for a machine. -/
  inputCapacity : UInt64
  /-- How many parameter changes may wait for a session. -/
  paramCapacity : UInt64
  timerMode : TimerMode
  /-- The program that is meant when none is named. -/
  defaultRom : Option String
  /-- The programs that may be asked for. -/
  roms : Catalog

namespace Settings

/-- The settings where nothing else is said. -/
def default : Settings where
  maxSessions := 20
  idleSeconds := 300
  sweepSeconds := 15
  inputCapacity := 256
  paramCapacity := 16
  timerMode := .perInstruction
  defaultRom := none
  roms := NameTable.empty

/-- How long a session may be without input. -/
def idleSpan (settings : Settings) : Span := Span.ofSeconds settings.idleSeconds.toNat

/-- How much time lies between two looks for idle sessions. -/
def sweepSpan (settings : Settings) : Span := Span.ofSeconds settings.sweepSeconds.toNat

/-- The program under a name, or the default program when none is named. -/
def resolve (settings : Settings) : (name : Option String) → Option RomEntry
  | some name => settings.roms.lookup? name
  | none => settings.defaultRom.bind settings.roms.lookup?

/-- Whether two settings are the same. -/
def same (first second : Settings) : Bool :=
  first.maxSessions == second.maxSessions && first.idleSeconds == second.idleSeconds &&
  first.sweepSeconds == second.sweepSeconds && first.inputCapacity == second.inputCapacity &&
  first.paramCapacity == second.paramCapacity && first.timerMode == second.timerMode &&
  first.defaultRom == second.defaultRom && first.roms.entries == second.roms.entries

theorem resolve_none (settings : Settings) (name : String)
    (chosen : settings.defaultRom = some name) :
    settings.resolve none = settings.resolve (some name) := by
  simp [resolve, chosen]

end Settings

end Arcade
