/-
**Messages as JSON.**

Every payload has a value (`KeyEvent.value`, ...), which `Value.render` writes, and a reader
(`KeyEvent.read`, ...). An object may also be given as the array of its fields in order. An unknown
field is passed over; a field that is given twice does not fit.

A message from a session is read as the first kind whose field it has: a frame, a start or an
error. For that the whole value is looked at first, so its nesting is limited.
-/

import Arcade.Json.Reading
import Arcade.Message

namespace Arcade

open Json

/-! ### Keys and names -/

/-- The value of a key. -/
def Key.value (key : Key) : Value := .natural key.val

/-- Reads a key. -/
def Key.read (_ : Origin) (tree : Tree) : Reading Key := do
  match Key.ofNat? (← tree.natural 256) with
  | some key => return key
  | none => .error .noSuchKey

/-- The value of a session's name. -/
def SessionId.value (id : SessionId) : Value := .text id.name

/-- Reads a session's name. -/
def SessionId.read (_ : Origin) (tree : Tree) : Reading SessionId := do
  return ⟨← tree.string⟩

/-- The value of a positive number. -/
def Positive32.value (number : Positive32) : Value := .natural number.toNat

/-- Reads a positive number. -/
def Positive32.read (tree : Tree) : Reading Positive32 := do
  Tree.required (Positive32.ofNat? (← tree.natural UInt32.size))

/-! ### Key events -/

/-- The value of a key event. -/
def KeyEvent.value (event : KeyEvent) : Value :=
  .object [("key", event.key.value), ("pressed", .boolean event.pressed)]

/-- A key event of which some fields were read. -/
structure PartialKeyEvent where
  key : Option Key
  pressed : Option Bool

/-- Takes a field of a key event. -/
def PartialKeyEvent.take (origin : Origin) (event : PartialKeyEvent) (name : String)
    (tree : Tree) : Option (Reading PartialKeyEvent) :=
  match name with
  | "key" => some do return { event with key := ← Tree.field event.key (Key.read origin) tree }
  | "pressed" => some do
    return { event with pressed := ← Tree.field event.pressed Tree.truth tree }
  | _ => none

/-- Reads a key event. -/
def KeyEvent.read (origin : Origin) (tree : Tree) : Reading KeyEvent :=
  match tree with
  | .object entries complete => do
    let event ← Tree.entries (PartialKeyEvent.take origin) complete ⟨none, none⟩ entries
    return ⟨← Tree.required event.key, ← Tree.required event.pressed⟩
  | .array items complete => do
    let key ← Tree.required (← Tree.item? (Key.read origin) items complete 0)
    let pressed ← Tree.required (← Tree.item? Tree.truth items complete 1)
    Tree.ending origin items complete 2
    return ⟨key, pressed⟩
  | other => .error other.unexpected

/-! ### Parameter changes -/

/-- The value of a parameter change. What is absent is left out. -/
def ParamChange.value (change : ParamChange) : Value :=
  let entry (name : String) (number : Option Positive32) : List (String × Value) :=
    match number with
    | some present => [(name, present.value)]
    | none => []
  .object (entry "cyclesPerFrame" change.cyclesPerFrame ++ entry "frameRate" change.frameRate)

/-- A parameter change of which some fields were read. -/
structure PartialParamChange where
  cyclesPerFrame : Option (Option Positive32)
  frameRate : Option (Option Positive32)

/-- Takes a field of a parameter change. -/
def PartialParamChange.take (change : PartialParamChange) (name : String) (tree : Tree) :
    Option (Reading PartialParamChange) :=
  match name with
  | "cyclesPerFrame" => some do
    let read ← Tree.field change.cyclesPerFrame (Tree.optional Positive32.read) tree
    return { change with cyclesPerFrame := read }
  | "frameRate" => some do
    let read ← Tree.field change.frameRate (Tree.optional Positive32.read) tree
    return { change with frameRate := read }
  | _ => none

/-- Reads a parameter change. -/
def ParamChange.read (origin : Origin) (tree : Tree) : Reading ParamChange :=
  match tree with
  | .object entries complete => do
    let change ← Tree.entries PartialParamChange.take complete ⟨none, none⟩ entries
    return ⟨change.cyclesPerFrame.join, change.frameRate.join⟩
  | .array items complete => do
    let cyclesPerFrame ← Tree.item? (Tree.optional Positive32.read) items complete 0
    let frameRate ← Tree.item? (Tree.optional Positive32.read) items complete 1
    Tree.ending origin items complete 2
    return ⟨cyclesPerFrame.join, frameRate.join⟩
  | other => .error other.unexpected

/-! ### Messages of a session -/

/-- The value of a message. -/
def Message.value : Message → Value
  | .frame pixels => .object [("frame", .array (pixels.map fun pixel => .natural pixel.toNat))]
  | .started id => .object [("sessionId", id.value)]
  | .error reason => .object [("error", .text reason)]

/-- The text of a message. -/
def Message.render (message : Message) : String := message.value.render

/-- Reads the pixels of a frame. -/
def readPixels (tree : Tree) : Reading (List UInt8) :=
  match tree with
  | .array items _ => items.mapM fun item => do return UInt8.ofNat (← item.natural 256)
  | other => .error other.unexpected

/-- The only value under a key among some entries, if there is exactly one. -/
def soleEntry? (name : String) (entries : List (Option String × Tree)) : Option Tree :=
  match entries.filter fun entry => entry.1 == some name with
  | [(_, value)] => some value
  | _ => none

/-- Reads a message whose value was looked at before. -/
def Message.ofEntries (entries : List (Option String × Tree)) : Reading Message :=
  let frame : Option Message := do
    let tree ← soleEntry? "frame" entries
    return .frame (← (readPixels tree).toOption)
  let started : Option Message := do
    let tree ← soleEntry? "sessionId" entries
    return .started ⟨← tree.string.toOption⟩
  let error : Option Message := do
    let tree ← soleEntry? "error" entries
    return .error (← tree.string.toOption)
  match frame <|> started <|> error with
  | some message => .ok message
  | none => .error .mismatch

/-- Reads a message. -/
def Message.read (_ : Origin) (tree : Tree) : Reading Message := do
  let _ ← Value.ofTree depthLimit tree
  match tree with
  | .object entries _ => Message.ofEntries entries
  | _ => .error .mismatch

end Arcade
