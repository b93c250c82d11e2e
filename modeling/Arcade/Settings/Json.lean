/-
**Settings as JSON.**

Settings are written as an object with every field; a field that is missing when they are read has
its default value. The three fields of a catalog entry must all be there.
-/

import Arcade.Message.Json
import Arcade.Settings.Basic

namespace Arcade

open Json

/-! ### Timer modes -/

/-- The name of a timer mode. -/
def TimerMode.name : TimerMode → String
  | .perInstruction => "per_instruction"
  | .realtime => "realtime"

/-- The timer mode of a name. -/
def TimerMode.ofName? (name : String) : Option TimerMode :=
  if name = "per_instruction" then some .perInstruction
  else if name = "realtime" then some .realtime
  else none

/-- The value of a timer mode. -/
def TimerMode.value (mode : TimerMode) : Value := .text mode.name

/-- Reads a timer mode: its name, or an object with its name as the only key and null as value. -/
def TimerMode.read (origin : Origin) (tree : Tree) : Reading TimerMode :=
  match tree with
  | .text (some name) => Tree.required (TimerMode.ofName? name)
  | .object ((some name, value) :: rest) complete => do
    if origin = .value ∧ rest ≠ [] then .error .mismatch
    else
      let mode ← Tree.required (TimerMode.ofName? name)
      match value with
      | .null => if complete && rest.isEmpty then .ok mode else .error .malformed
      | other => .error other.unexpected
  | .text none | .malformed | .object ((none, _) :: _) _ => .error .malformed
  | _ => if origin = .text then .error .malformed else .error .mismatch

theorem TimerMode.ofName?_name (mode : TimerMode) : TimerMode.ofName? mode.name = some mode := by
  cases mode <;> simp [ofName?, name]

/-! ### Catalogs -/

/-- The value of a catalog entry. -/
def RomEntry.value (entry : RomEntry) : Value :=
  .object [("path", .text entry.path), ("frameRate", entry.frameRate.value),
    ("cyclesPerFrame", entry.cyclesPerFrame.value)]

/-- A catalog entry of which some fields were read. -/
structure PartialRomEntry where
  path : Option String
  frameRate : Option Positive32
  cyclesPerFrame : Option Positive32

/-- Takes a field of a catalog entry. -/
def PartialRomEntry.take (entry : PartialRomEntry) (name : String) (tree : Tree) :
    Option (Reading PartialRomEntry) :=
  match name with
  | "path" => some do return { entry with path := ← Tree.field entry.path Tree.string tree }
  | "frameRate" => some do
    return { entry with frameRate := ← Tree.field entry.frameRate Positive32.read tree }
  | "cyclesPerFrame" => some do
    let read ← Tree.field entry.cyclesPerFrame Positive32.read tree
    return { entry with cyclesPerFrame := read }
  | _ => none

/-- Reads a catalog entry. -/
def RomEntry.read (origin : Origin) (tree : Tree) : Reading RomEntry :=
  match tree with
  | .object entries complete => do
    let entry ← Tree.entries PartialRomEntry.take complete ⟨none, none, none⟩ entries
    return ⟨← Tree.required entry.path, ← Tree.required entry.frameRate,
      ← Tree.required entry.cyclesPerFrame⟩
  | .array items complete => do
    let path ← Tree.required (← Tree.item? Tree.string items complete 0)
    let frameRate ← Tree.required (← Tree.item? Positive32.read items complete 1)
    let cyclesPerFrame ← Tree.required (← Tree.item? Positive32.read items complete 2)
    Tree.ending origin items complete 3
    return ⟨path, frameRate, cyclesPerFrame⟩
  | other => .error other.unexpected

/-- The value of a catalog. -/
def Catalog.value (catalog : Catalog) : Value :=
  .object (catalog.entries.map fun entry => (entry.1, entry.2.value))

/-- Reads a catalog. -/
def Catalog.read (origin : Origin) (tree : Tree) : Reading Catalog :=
  match tree with
  | .object entries complete =>
    Tree.entries
      (fun catalog name value => some do
        return catalog.insert name (← RomEntry.read origin value))
      complete NameTable.empty entries
  | other => .error other.unexpected

/-! ### Settings -/

/-- The value of settings. -/
def Settings.value (settings : Settings) : Value :=
  .object [
    ("max_sessions", .natural settings.maxSessions.toNat),
    ("idle_ttl_secs", .natural settings.idleSeconds.toNat),
    ("sweep_interval_secs", .natural settings.sweepSeconds.toNat),
    ("input_queue_capacity", .natural settings.inputCapacity.toNat),
    ("param_queue_capacity", .natural settings.paramCapacity.toNat),
    ("timer_mode", settings.timerMode.value),
    ("default_rom", match settings.defaultRom with
      | some name => .text name
      | none => .null),
    ("roms", settings.roms.value)]

/-- Settings of which some fields were read. -/
structure PartialSettings where
  maxSessions : Option UInt64
  idleSeconds : Option UInt64
  sweepSeconds : Option UInt64
  inputCapacity : Option UInt64
  paramCapacity : Option UInt64
  timerMode : Option TimerMode
  defaultRom : Option (Option String)
  roms : Option Catalog

namespace PartialSettings

/-- Settings of which no field was read. -/
def nothing : PartialSettings := ⟨none, none, none, none, none, none, none, none⟩

/-- Reads a number of sixty-four bits. -/
def readWord (tree : Tree) : Reading UInt64 := do
  return UInt64.ofNat (← tree.natural UInt64.size)

/-- Takes a field of settings. -/
def take (origin : Origin) (settings : PartialSettings) (name : String) (tree : Tree) :
    Option (Reading PartialSettings) :=
  match name with
  | "max_sessions" => some do
    return { settings with maxSessions := ← Tree.field settings.maxSessions readWord tree }
  | "idle_ttl_secs" => some do
    return { settings with idleSeconds := ← Tree.field settings.idleSeconds readWord tree }
  | "sweep_interval_secs" => some do
    return { settings with sweepSeconds := ← Tree.field settings.sweepSeconds readWord tree }
  | "input_queue_capacity" => some do
    return { settings with inputCapacity := ← Tree.field settings.inputCapacity readWord tree }
  | "param_queue_capacity" => some do
    return { settings with paramCapacity := ← Tree.field settings.paramCapacity readWord tree }
  | "timer_mode" => some do
    let read ← Tree.field settings.timerMode (TimerMode.read origin) tree
    return { settings with timerMode := read }
  | "default_rom" => some do
    let read ← Tree.field settings.defaultRom (Tree.optional Tree.string) tree
    return { settings with defaultRom := read }
  | "roms" => some do
    return { settings with roms := ← Tree.field settings.roms (Catalog.read origin) tree }
  | _ => none

/-- The settings, with their default values where nothing was read. -/
def complete (settings : PartialSettings) : Settings where
  maxSessions := settings.maxSessions.getD Settings.default.maxSessions
  idleSeconds := settings.idleSeconds.getD Settings.default.idleSeconds
  sweepSeconds := settings.sweepSeconds.getD Settings.default.sweepSeconds
  inputCapacity := settings.inputCapacity.getD Settings.default.inputCapacity
  paramCapacity := settings.paramCapacity.getD Settings.default.paramCapacity
  timerMode := settings.timerMode.getD Settings.default.timerMode
  defaultRom := settings.defaultRom.getD Settings.default.defaultRom
  roms := settings.roms.getD Settings.default.roms

end PartialSettings

/-- Reads settings. -/
def Settings.read (origin : Origin) (tree : Tree) : Reading Settings :=
  match tree with
  | .object entries complete => do
    let settings ←
      Tree.entries (PartialSettings.take origin) complete PartialSettings.nothing entries
    return settings.complete
  | .array items complete => do
    let word := fun place => Tree.item? PartialSettings.readWord items complete place
    let maxSessions ← word 0
    let idleSeconds ← word 1
    let sweepSeconds ← word 2
    let inputCapacity ← word 3
    let paramCapacity ← word 4
    let timerMode ← Tree.item? (TimerMode.read origin) items complete 5
    let defaultRom ← Tree.item? (Tree.optional Tree.string) items complete 6
    let roms ← Tree.item? (Catalog.read origin) items complete 7
    Tree.ending origin items complete 8
    let settings : PartialSettings :=
      ⟨maxSessions, idleSeconds, sweepSeconds, inputCapacity, paramCapacity, timerMode,
        defaultRom, roms⟩
    return settings.complete
  | other => .error other.unexpected

end Arcade
