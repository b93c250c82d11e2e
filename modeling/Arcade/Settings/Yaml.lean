/-
**Settings as YAML.**

Settings are read from a mapping of their fields, and so are catalog entries; an empty scalar is
an empty mapping. A field may not be given twice, an unknown one is passed over. What a scalar
stands for depends on what is expected: only a plain one is a number or nothing, and any one is a
text.

* `natural?_minus`: no number has a minus sign, not even zero.
-/

import Arcade.Settings.Json
import Arcade.Yaml.Node

namespace Arcade

open Yaml

namespace Yaml

/-- Whether a text stands for nothing. -/
def isNullText (content : String) : Bool := ["~", "null", "Null", "NULL"].contains content

/-- The number that a plain scalar without a sign stands for. -/
def magnitude? : List Char → Option Nat
  | '0' :: 'x' :: digits => Text.ofDigits? 16 digits
  | '0' :: 'o' :: digits => Text.ofDigits? 8 digits
  | '0' :: 'b' :: digits => Text.ofDigits? 2 digits
  | '0' :: _ :: _ => none
  | digits => Text.ofDigits? 10 digits

/-- The natural number that some characters stand for. -/
def natural? : List Char → Option Nat
  | '+' :: digits => magnitude? digits
  | content => magnitude? content

theorem natural?_minus (content : List Char) : natural? ('-' :: content) = none := by
  simp [natural?, magnitude?, Text.ofDigits?, Text.ofDigitsFrom?, Text.digitValue?]

/-- What a tag of a text's own names. -/
def localTag? (tag : String) : Option String :=
  match tag.toList with
  | '!' :: name => some (String.ofList name)
  | _ => none

namespace Node

/-- Reads a natural number below a bound. -/
def readNatural (bound : Nat) : Node → Option Nat
  | .scalar content style tag =>
    if style = .plain ∨ (style = .literal ∧ tag = some (coreTag ++ "int")) then
      (natural? content.toList).filter (· < bound)
    else none
  | _ => none

/-- Reads a text. Any scalar is one. -/
def readText : Node → Option String
  | .scalar content _ _ => some content
  | _ => none

/-- Reads a text that may be absent. -/
def readOptionalText : Node → Option (Option String)
  | .scalar content .plain none =>
    some (if content.isEmpty || isNullText content then none else some content)
  | .scalar content .plain (some tag) =>
    if tag = coreTag ++ "null" then if isNullText content then some none else none
    else some (some content)
  | other => other.readText.map some

/-- Reads the name of a choice. A tag may be the name, if nothing stands beside it. -/
def readChoice : Node → Option String
  | .scalar content style tag =>
    match tag.bind localTag? with
    | some name =>
      if style = .plain ∧ (content.isEmpty || isNullText content) then some name else none
    | none => some content
  | _ => none

/-- The entries of a mapping, each with the text of its key. An empty scalar has none. -/
def entries : Node → Option (List (String × Node))
  | .scalar content _ _ => if content.isEmpty then some [] else none
  | .mapping entries => entries.mapM fun (key, value) => do return (← key.readText, value)
  | _ => none

/-- Reads a field, which must not have been read before. -/
def field {α : Type} (before : Option α) (read : Node → Option α) (value : Node) :
    Option (Option α) :=
  match before with
  | some _ => none
  | none => (read value).map some

end Node

end Yaml

/-- Reads a positive number. -/
def Positive32.ofYaml (node : Node) : Option Positive32 := do
  Positive32.ofNat? (← node.readNatural UInt32.size)

/-- Takes a field of a catalog entry. -/
def PartialRomEntry.takeYaml (entry : PartialRomEntry) (name : String) (value : Node) :
    Option PartialRomEntry :=
  match name with
  | "path" => do return { entry with path := ← Node.field entry.path Node.readText value }
  | "frameRate" => do
    return { entry with frameRate := ← Node.field entry.frameRate Positive32.ofYaml value }
  | "cyclesPerFrame" => do
    let read ← Node.field entry.cyclesPerFrame Positive32.ofYaml value
    return { entry with cyclesPerFrame := read }
  | _ => some entry

/-- Reads a catalog entry. -/
def RomEntry.ofYaml (node : Node) : Option RomEntry := do
  let entry ← (← node.entries).foldlM (fun entry field => entry.takeYaml field.1 field.2)
    (PartialRomEntry.mk none none none)
  return ⟨← entry.path, ← entry.frameRate, ← entry.cyclesPerFrame⟩

/-- Reads a catalog; of entries with one name the last counts. -/
def Catalog.ofYaml (node : Node) : Option Catalog := do
  let entries ← (← node.entries).mapM fun (name, value) => do
    return (name, ← RomEntry.ofYaml value)
  return NameTable.ofList entries

namespace PartialSettings

/-- Reads a number of sixty-four bits. -/
def wordOfYaml (node : Node) : Option UInt64 := do
  return UInt64.ofNat (← node.readNatural UInt64.size)

/-- Takes a field of settings. -/
def takeYaml (settings : PartialSettings) (name : String) (value : Node) :
    Option PartialSettings :=
  match name with
  | "max_sessions" => do
    return { settings with maxSessions := ← Node.field settings.maxSessions wordOfYaml value }
  | "idle_ttl_secs" => do
    return { settings with idleSeconds := ← Node.field settings.idleSeconds wordOfYaml value }
  | "sweep_interval_secs" => do
    return { settings with sweepSeconds := ← Node.field settings.sweepSeconds wordOfYaml value }
  | "input_queue_capacity" => do
    return { settings with inputCapacity := ← Node.field settings.inputCapacity wordOfYaml value }
  | "param_queue_capacity" => do
    return { settings with paramCapacity := ← Node.field settings.paramCapacity wordOfYaml value }
  | "timer_mode" => do
    let mode := fun node : Node => node.readChoice.bind TimerMode.ofName?
    return { settings with timerMode := ← Node.field settings.timerMode mode value }
  | "default_rom" => do
    let read ← Node.field settings.defaultRom Node.readOptionalText value
    return { settings with defaultRom := read }
  | "roms" => do return { settings with roms := ← Node.field settings.roms Catalog.ofYaml value }
  | _ => some settings

end PartialSettings

/-- Reads settings. -/
def Settings.ofYaml (node : Node) : Option Settings := do
  let settings ← (← node.entries).foldlM
    (fun settings field => settings.takeYaml field.1 field.2)
    PartialSettings.nothing
  return settings.complete

/-- Reads settings from a text, if it is well-formed and the fields fit. -/
def Settings.ofYamlText? (content : String) : Option Settings := do
  Settings.ofYaml (← Node.ofText? content)

end Arcade
