/-
**Documents as far as they are well-formed.**

`Document.ofText` reads any text. What is well-formed becomes a tree; where the text goes wrong the
containers that are open at that point end without being complete, and a value that is missing
there is `malformed`. So a reader of typed data that goes through the tree from the front meets the
mistakes of the text in the order in which they stand, among its own objections.

* `feedAll_append`: reading two pieces one after the other is reading them together.
-/

import Arcade.Json.Token

namespace Arcade.Json

/-- A value as far as it is well-formed. -/
inductive Tree where
  | null
  | boolean (value : Bool)
  | number (value : Number)
  | text (content : Option String)
  /-- An array with the items that could be read, and whether its end was reached. -/
  | array (items : List Tree) (complete : Bool)
  /-- An object with the entries that could be read, and whether its end was reached. -/
  | object (entries : List (Option String × Tree)) (complete : Bool)
  /-- No value can be read here. -/
  | malformed

/-- A container that is open. What it holds is kept with the latest first. -/
inductive OpenContainer where
  | array (items : List Tree)
  /-- An object, with the key whose value is being read. -/
  | object (entries : List (Option String × Tree)) (key : Option String)

/-- What must come next. -/
inductive Expected where
  | value
  /-- The first item of an array or its end. -/
  | firstItem
  /-- The first key of an object or its end. -/
  | firstKey
  | key
  | colon
  /-- A comma or the end of the innermost container. -/
  | separator
  deriving DecidableEq, Repr

/-- Where reading a document stands. -/
inductive BuildState where
  /-- Inside the document: the open containers, innermost first, and what must come next. -/
  | inside (containers : List OpenContainer) (expected : Expected)
  /-- The document has ended; something more may have followed it. -/
  | finished (tree : Tree) (trailing : Bool)

/-- A container closed with what it holds. -/
def OpenContainer.close (container : OpenContainer) (complete : Bool) : Tree :=
  match container with
  | .array items => .array items.reverse complete
  | .object entries _ => .object entries.reverse complete

/-- A container with one more value. -/
def OpenContainer.add (container : OpenContainer) (value : Tree) : OpenContainer :=
  match container with
  | .array items => .array (value :: items)
  | .object entries key => .object ((key, value) :: entries) key

/-- The tree when reading breaks off inside some containers. -/
def breakOff : List OpenContainer → Tree → Tree
  | [], tree => tree
  | container :: outer, tree => breakOff outer ((container.add tree).close false)

/-- Reading breaks off: what must come next does not come. -/
def BuildState.broken (containers : List OpenContainer) (expected : Expected) : BuildState :=
  match expected, containers with
  | .value, _ | .colon, _ | _, [] => .finished (breakOff containers .malformed) false
  | .firstItem, container :: outer | .firstKey, container :: outer | .key, container :: outer
  | .separator, container :: outer => .finished (breakOff outer (container.close false)) false

/-- Takes a complete value. -/
def accept (containers : List OpenContainer) (value : Tree) : BuildState :=
  match containers with
  | [] => .finished value false
  | container :: outer => .inside (container.add value :: outer) .separator

/-- Takes the first token of a value, if it is one. -/
def startValue (containers : List OpenContainer) (expected : Expected) (token : Token) :
    BuildState :=
  match token with
  | .null => accept containers .null
  | .boolean value => accept containers (.boolean value)
  | .number value => accept containers (.number value)
  | .text content => accept containers (.text content)
  | .openBracket => .inside (.array [] :: containers) .firstItem
  | .openBrace => .inside (.object [] none :: containers) .firstKey
  | .closeBrace | .closeBracket | .comma | .colon | .malformed =>
    BuildState.broken containers expected

/-- Takes a key for the innermost object. -/
def takeKey (containers : List OpenContainer) (key : Option String) : BuildState :=
  match containers with
  | .object entries _ :: outer => .inside (.object entries key :: outer) .colon
  | _ => BuildState.broken containers .key

/-- Closes the innermost container. -/
def closeInnermost (containers : List OpenContainer) : BuildState :=
  match containers with
  | [] => .finished .malformed false
  | container :: outer => accept outer (container.close true)

/-- Takes a token after a value in a container. -/
def afterValue (containers : List OpenContainer) (token : Token) : BuildState :=
  match token, containers with
  | .comma, .array _ :: _ => .inside containers .value
  | .comma, .object _ _ :: _ => .inside containers .key
  | .closeBracket, .array _ :: _ => closeInnermost containers
  | .closeBrace, .object _ _ :: _ => closeInnermost containers
  | _, _ => BuildState.broken containers .separator

/-- Takes one token. -/
def feed (state : BuildState) (token : Token) : BuildState :=
  match state with
  | .finished tree _ => .finished tree true
  | .inside containers expected =>
    match expected, token with
    | .value, _ => startValue containers .value token
    | .firstItem, .closeBracket => closeInnermost containers
    | .firstItem, .malformed => BuildState.broken containers .value
    | .firstItem, _ => startValue containers .value token
    | .firstKey, .closeBrace => closeInnermost containers
    | .firstKey, .text key | .key, .text key => takeKey containers key
    | .colon, .colon => .inside containers .value
    | .separator, _ => afterValue containers token
    | _, _ => BuildState.broken containers expected

/-- Takes some tokens. -/
def feedAll (state : BuildState) (input : List Token) : BuildState := input.foldl feed state

/-- A document: its value as far as it is well-formed, and whether more than blanks follow it. -/
structure Document where
  tree : Tree
  trailing : Bool

/-- The document when no token is left. -/
def BuildState.finish : BuildState → Document
  | .finished tree trailing => ⟨tree, trailing⟩
  | .inside containers expected =>
    match BuildState.broken containers expected with
    | .finished tree trailing => ⟨tree, trailing⟩
    | .inside _ _ => ⟨.malformed, false⟩

/-- Reads a document. -/
def Document.ofText (content : String) : Document :=
  (feedAll (.inside [] .value) (tokens content.toList)).finish

theorem feedAll_append (state : BuildState) (first second : List Token) :
    feedAll state (first ++ second) = feedAll (feedAll state first) second := by
  simp [feedAll]

end Arcade.Json
