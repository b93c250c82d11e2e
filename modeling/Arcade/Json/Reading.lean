/-
**Reading typed data from documents.**

A reader goes through a tree from the front and stops at the first thing that is wrong: a place
where the text is malformed, a value that does not fit, or a number that names no key. The same
readers serve two purposes (`Origin`): they read a text directly, and they read a value that was
read in full before, in which every key stands once and in order (`Value.ofTree`).

* `natural_tree`: a natural number within its bound is read back from its value.
-/

import Arcade.Json.Tree
import Arcade.OrderedEntries

namespace Arcade.Json

/-- Why typed data could not be read. -/
inductive Flaw where
  /-- The text is malformed. -/
  | malformed
  /-- A value does not fit. -/
  | mismatch
  /-- A number names no key. -/
  | noSuchKey
  deriving DecidableEq, Repr

/-- What comes of reading. -/
abbrev Reading (α : Type) := Except Flaw α

/-- Where a tree comes from. -/
inductive Origin where
  /-- From a text. -/
  | text
  /-- From a value that was read before. -/
  | value
  deriving DecidableEq, Repr

/-- Whether a number can be kept at all. -/
def Number.isFinite : Number → Bool
  | .integer _ => true
  | .decimal _ magnitude => magnitude.isFinite

namespace Tree

mutual

/-- Whether a value that nobody looks at may be passed over. -/
def isComplete : Tree → Bool
  | .malformed => false
  | .array items complete => allComplete items && complete
  | .object entries complete => entriesComplete entries && complete
  | .null | .boolean _ | .number _ | .text _ => true

/-- Whether some items may be passed over. -/
def allComplete : List Tree → Bool
  | [] => true
  | item :: rest => isComplete item && allComplete rest

/-- Whether some entries may be passed over. -/
def entriesComplete : List (Option String × Tree) → Bool
  | [] => true
  | (_, value) :: rest => isComplete value && entriesComplete rest

end

/-- What is wrong with a value of another kind than expected. A number or text has to be read
before that can be said; a container is recognised by its first character. -/
def unexpected : Tree → Flaw
  | .malformed | .text none => .malformed
  | .number value => if value.isFinite then .mismatch else .malformed
  | .null | .boolean _ | .text (some _) | .array _ _ | .object _ _ => .mismatch

/-- Passes a value over. -/
def skip (tree : Tree) : Reading Unit := if tree.isComplete then .ok () else .error .malformed

/-- Reads a natural number below a bound. -/
def natural (bound : Nat) (tree : Tree) : Reading Nat :=
  match tree with
  | .number (.integer (.ofNat value)) => if value < bound then .ok value else .error .mismatch
  | other => .error other.unexpected

/-- Reads a truth value. -/
def truth (tree : Tree) : Reading Bool :=
  match tree with
  | .boolean value => .ok value
  | other => .error other.unexpected

/-- Reads a text. -/
def string (tree : Tree) : Reading String :=
  match tree with
  | .text (some content) => .ok content
  | other => .error other.unexpected

/-- Reads a value that may be absent as null. -/
def optional {α : Type} (read : Tree → Reading α) (tree : Tree) : Reading (Option α) :=
  match tree with
  | .null => .ok none
  | other => do return some (← read other)

/-- Reads the entries of an object one after another into some partial data. The function that
takes an entry answers nothing for a key that is not known, whose value is then passed over. -/
def entries {σ : Type} (take : σ → String → Tree → Option (Reading σ)) (complete : Bool) :
    σ → List (Option String × Tree) → Reading σ
  | state, [] => if complete then .ok state else .error .malformed
  | _, (none, _) :: _ => .error .malformed
  | state, (some key, value) :: rest =>
    match take state key value with
    | some taken => do entries take complete (← taken) rest
    | none => do
      value.skip
      entries take complete state rest

/-- Reads one field of an object, which must not have been read before. -/
def field {α : Type} (before : Option α) (read : Tree → Reading α) (value : Tree) :
    Reading (Option α) :=
  match before with
  | some _ => .error .mismatch
  | none => do return some (← read value)

/-- A field that must be there. -/
def required {α : Type} (found : Option α) : Reading α :=
  match found with
  | some value => .ok value
  | none => .error .mismatch

/-- Reads the item at a place of an array; nothing if the array ends before it. -/
def item? {α : Type} (read : Tree → Reading α) (items : List Tree) (complete : Bool)
    (place : Nat) : Reading (Option α) :=
  match items[place]? with
  | some value => do return some (← read value)
  | none => if complete then .ok none else .error .malformed

/-- Checks that an array ends after the given number of items. -/
def ending (origin : Origin) (items : List Tree) (complete : Bool) (count : Nat) :
    Reading Unit :=
  if items.length ≤ count then
    if complete then .ok () else .error .malformed
  else match origin with
    | .text => .error .malformed
    | .value => .error .mismatch

end Tree

/-! ### Values -/

/-- How deep the containers of a value may be nested. -/
def depthLimit : Nat := 127

mutual

/-- The value that a tree stands for, if containers are not nested deeper than the given number of
levels. Of entries with one key the last counts, and the entries are put in the order of keys. -/
def Value.ofTree (depth : Nat) (tree : Tree) : Reading Value :=
  match tree with
  | .malformed | .text none => .error .malformed
  | .null => .ok .null
  | .boolean value => .ok (.boolean value)
  | .number value => if value.isFinite then .ok (.number value) else .error .malformed
  | .text (some content) => .ok (.text content)
  | .array items complete => do
    if depth = 0 then .error .malformed
    else
      let values ← Value.ofItems (depth - 1) items
      if complete then .ok (.array values) else .error .malformed
  | .object entries complete => do
    if depth = 0 then .error .malformed
    else
      let values ← Value.ofEntries (depth - 1) [] entries
      if complete then .ok (.object values) else .error .malformed

/-- The values of some items. -/
def Value.ofItems (depth : Nat) (items : List Tree) : Reading (List Value) :=
  match items with
  | [] => .ok []
  | item :: rest => do
    let value ← Value.ofTree depth item
    let values ← Value.ofItems depth rest
    return value :: values

/-- The values of some entries, put in order among those before. -/
def Value.ofEntries (depth : Nat) (before : List (String × Value))
    (entries : List (Option String × Tree)) : Reading (List (String × Value)) :=
  match entries with
  | [] => .ok before
  | (none, _) :: _ => .error .malformed
  | (some key, tree) :: rest => do
    let value ← Value.ofTree depth tree
    Value.ofEntries depth (insertEntry key value before) rest

end

mutual

/-- The tree of a value. -/
def Value.tree : Value → Tree
  | .null => .null
  | .boolean value => .boolean value
  | .number value => .number value
  | .text content => .text (some content)
  | .array items => .array (itemTrees items) true
  | .object entries => .object (entryTrees entries) true

/-- The trees of some items. -/
def itemTrees : List Value → List Tree
  | [] => []
  | item :: rest => item.tree :: itemTrees rest

/-- The trees of some entries. -/
def entryTrees : List (String × Value) → List (Option String × Tree)
  | [] => []
  | (key, value) :: rest => (some key, value.tree) :: entryTrees rest

end

/-- Reads a value that is the whole of a text. -/
def Value.ofText (content : String) : Reading Value := do
  let document := Document.ofText content
  let value ← Value.ofTree depthLimit document.tree
  if document.trailing then .error .malformed else .ok value

/-- Reads typed data that is the whole of a text. -/
def readText {α : Type} (read : Origin → Tree → Reading α) (content : String) : Reading α := do
  let document := Document.ofText content
  let data ← read .text document.tree
  if document.trailing then .error .malformed else .ok data

/-- Reads typed data from a value. -/
def readValue {α : Type} (read : Origin → Tree → Reading α) (value : Value) : Reading α :=
  read .value value.tree

/-- Reads typed data from a text by way of its value. -/
def readThroughValue {α : Type} (read : Origin → Tree → Reading α) (content : String) :
    Reading α := do
  readValue read (← Value.ofText content)

/-- The value of an entry of an object. -/
def Value.entry? (key : String) : Value → Option Value
  | .object entries => entries.lookup key
  | _ => none

theorem natural_tree {value bound : Nat} (small : value < bound) :
    (Value.natural value).tree.natural bound = .ok value := by
  simp [Value.natural, Value.tree, Tree.natural, small]

end Arcade.Json
