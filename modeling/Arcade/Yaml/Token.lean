/-
**The tokens of a YAML text.**

Indentation opens and closes blocks, so tokens stand for it. What turns out to be a key is known
only at the colon after it: until then its place among the tokens is remembered (`PendingKey`), and
the mark of the key, and of the block that it opens, are put in there.

* `margin_closeBlocks_le`: closing blocks leaves none that is indented further.
-/

import Arcade.Yaml.Scalar
import Arcade.Yaml.Tag

namespace Arcade.Yaml

/-- How a scalar is written. -/
inductive ScalarStyle where
  | plain
  | quoted
  /-- In a block whose lines are kept. -/
  | literal
  /-- In a block whose lines are joined. -/
  | folded
  deriving DecidableEq

/-- A smallest part of a text. -/
inductive Token where
  | directive (content : Directive)
  | documentStart
  | documentEnd
  | openBracket
  | closeBracket
  | openBrace
  | closeBrace
  | comma
  /-- A block sequence starts. -/
  | blockSequence
  /-- A block mapping starts. -/
  | blockMapping
  | blockEnd
  /-- An item of a block sequence follows. -/
  | item
  | key
  | value
  /-- A part stands for one that has the name. -/
  | alias (name : String)
  /-- The part that follows has the name. -/
  | anchor (name : String)
  | tag (name : TagName)
  | scalar (content : String) (style : ScalarStyle)
  deriving DecidableEq

/-- What becomes a key if a colon follows on its line. -/
structure PendingKey where
  /-- How many tokens stand before it. -/
  count : Nat
  place : Place
  /-- Whether nothing but a key may stand there. -/
  required : Bool

/-- How many octets may stand between the start of a key and its colon. -/
def keyWidth : Nat := 1024

/-- What is left of a pending key at a later place; nothing, if it was required and comes too
late. -/
def PendingKey.at? (key : Option PendingKey) (here : Place) : Option (Option PendingKey) :=
  match key with
  | none => some none
  | some key =>
    if key.place.line < here.line ∨ key.place.octets + keyWidth < here.octets then
      if key.required then none else some none
    else some (some key)

/-- Where scanning stands. -/
structure Scan where
  cursor : Cursor
  /-- The tokens so far, the latest first. -/
  reversed : List Token
  /-- The first columns inside the blocks that are open, the innermost first. -/
  margins : List Nat
  /-- Whether a key may start. -/
  keyAllowed : Bool
  pending : Option PendingKey
  /-- The pending keys around the flow collections that are open, the innermost first. -/
  around : List (Option PendingKey)

namespace Scan

/-- The start of a text. -/
def start (content : List Char) : Scan := ⟨Cursor.start content, [], [], true, none, []⟩

/-- Whether a flow collection is open. -/
def inFlow (scan : Scan) : Bool := !scan.around.isEmpty

/-- The first column inside the innermost block. -/
def margin (scan : Scan) : Nat := scan.margins.headD 0

/-- The column where scanning stands. -/
def column (scan : Scan) : Nat := scan.cursor.place.column

/-- Adds a token. -/
def emit (scan : Scan) (token : Token) : Scan :=
  { scan with reversed := token :: scan.reversed }

/-- Adds a token of some characters. -/
def take (scan : Scan) (count : Nat) (token : Token) : Scan :=
  { scan with cursor := scan.cursor.drop count, reversed := token :: scan.reversed }

/-! ### Keys and blocks -/

/-- Gives the pending key up, if it is not required. -/
def dropKey (scan : Scan) : Option Scan :=
  if (scan.pending.map (·.required)).getD false then none else some { scan with pending := none }

/-- Remembers that a key may start here, if it may. None may start after it. -/
def saveKey (scan : Scan) : Option Scan :=
  if scan.keyAllowed then do
    let free ← scan.dropKey
    let required := !scan.inFlow && scan.margin == scan.column + 1
    let key : PendingKey := ⟨scan.reversed.length, scan.cursor.place, required⟩
    return { free with pending := some key, keyAllowed := false }
  else some scan

/-- Closes the blocks that are indented further than a margin. -/
def closeBlocks (scan : Scan) (margin : Nat) : Scan :=
  let closed := scan.margins.takeWhile (margin < ·)
  { scan with
    margins := scan.margins.dropWhile (margin < ·)
    reversed := List.replicate closed.length .blockEnd ++ scan.reversed }

theorem margin_closeBlocks_le (scan : Scan) (margin : Nat) :
    (scan.closeBlocks margin).margin ≤ margin := by
  unfold closeBlocks Scan.margin
  induction scan.margins with
  | nil => exact Nat.zero_le _
  | cons first rest ih =>
    by_cases further : margin < first
    · simpa [further] using ih
    · simpa [further] using Nat.le_of_not_lt further

/-- Opens a block in a column that is indented further than the block around it. -/
def openBlock (scan : Scan) (column : Nat) (token : Token) : Scan :=
  if scan.inFlow || column < scan.margin then scan
  else { scan with margins := (column + 1) :: scan.margins }.emit token

/-- Opens a block here for a mark that stands in front of a part, where one may. -/
def openHere (scan : Scan) (token : Token) : Option Scan :=
  if scan.inFlow then some scan
  else if scan.keyAllowed then some (scan.openBlock scan.column token)
  else none

/-- Passes over what may stand before a token. Blocks that are indented further end there. -/
def toToken (scan : Scan) : Option Scan := do
  let (cursor, keyAllowed) := scan.cursor.skip scan.inFlow scan.keyAllowed
  let pending ← PendingKey.at? scan.pending cursor.place
  let around ← scan.around.mapM (PendingKey.at? · cursor.place)
  let there := { scan with cursor, keyAllowed, pending, around }
  return if scan.inFlow then there else there.closeBlocks (cursor.place.column + 1)

/-- Ends all blocks. No key is pending any more. -/
def closeAll (scan : Scan) : Option Scan :=
  (if scan.inFlow then scan else scan.closeBlocks 0).dropKey

/-! ### Tokens -/

/-- Opens a flow collection. -/
def openFlow (scan : Scan) (token : Token) : Option Scan := do
  let saved ← scan.saveKey
  let inner := { saved with pending := none, around := saved.pending :: saved.around }
  return { inner with keyAllowed := true }.take 1 token

/-- Closes a flow collection. -/
def closeFlow (scan : Scan) (token : Token) : Option Scan := do
  let free ← scan.dropKey
  let outer := match free.around with
    | [] => free
    | pending :: around => { free with pending, around }
  return { outer with keyAllowed := false }.take 1 token

/-- Reads the comma between the parts of a flow collection. -/
def comma (scan : Scan) : Option Scan := do
  return { ← scan.dropKey with keyAllowed := true }.take 1 .comma

/-- Reads the mark of an item. -/
def item (scan : Scan) : Option Scan := do
  let opened ← scan.openHere .blockSequence
  return { ← opened.dropKey with keyAllowed := true }.take 1 .item

/-- Reads the mark of a key. -/
def explicitKey (scan : Scan) : Option Scan := do
  let opened ← scan.openHere .blockMapping
  return { ← opened.dropKey with keyAllowed := !scan.inFlow }.take 1 .key

/-- Reads the colon of a value. What was pending is its key. -/
def colon (scan : Scan) : Option Scan :=
  match scan.pending with
  | some key =>
    let later := scan.reversed.take (scan.reversed.length - key.count)
    let before := scan.reversed.drop (scan.reversed.length - key.count)
    let back := { scan with reversed := before, pending := none, keyAllowed := false }
    let marked := (back.openBlock key.place.column .blockMapping).emit .key
    some ({ marked with reversed := later ++ marked.reversed }.take 1 .value)
  | none => do
    let opened ← scan.openHere .blockMapping
    return { opened with keyAllowed := !scan.inFlow }.take 1 .value

/-- Reads the name after the mark of an anchor or an alias. -/
def named (scan : Scan) (token : String → Token) : Option Scan := do
  let saved ← scan.saveKey
  let name := (scan.cursor.rest.drop 1).takeWhile isWord
  let after := scan.cursor.rest.drop (name.length + 1)
  let ended := match after with
    | [] => true
    | char :: _ => isSpace char || ['?', ':', ',', ']', '}', '%', '@', '\x60'].contains char
  if name.isEmpty || !ended then none
  else
    return { saved with keyAllowed := false }.take (name.length + 1) (token (String.ofList name))

/-- Reads a tag. -/
def tag (scan : Scan) : Option Scan := do
  let saved ← scan.saveKey
  let (name, after) ← TagName.take? (scan.cursor.rest.drop 1)
  if atSpace after || (scan.inFlow && after.head? == some ',') then
    return { saved with keyAllowed := false, cursor := scan.cursor.moveTo after }.emit (.tag name)
  else none

/-- Reads a scalar in a block. -/
def block (scan : Scan) (style : ScalarStyle) : Option Scan := do
  let free ← scan.dropKey
  if scan.inFlow then none
  else
    let (content, cursor) ← scan.cursor.block? (style == .folded) scan.margin
    return { free with keyAllowed := true, cursor }.emit (.scalar (String.ofList content) style)

/-- Reads a scalar in quotation marks. -/
def quoted (scan : Scan) : Option Scan := do
  let saved ← scan.saveKey
  let (content, cursor) ← scan.cursor.quoted?
  return { saved with keyAllowed := false, cursor }.emit (.scalar (String.ofList content) .quoted)

/-- Reads a plain scalar. -/
def plain (scan : Scan) : Option Scan := do
  let saved ← scan.saveKey
  let ⟨content, cursor, keyAllowed⟩ ← scan.cursor.plain? scan.inFlow scan.margin
  return { saved with keyAllowed, cursor }.emit (.scalar (String.ofList content) .plain)

/-- Reads a directive. -/
def directive (scan : Scan) : Option Scan := do
  let closed ← scan.closeAll
  let (directive, after) ← Directive.take? (scan.cursor.rest.drop 1)
  let cursor : Cursor := ⟨scan.cursor.place.nextLine, after⟩
  return { closed with keyAllowed := false, cursor }.emit (.directive directive)

/-- Reads the mark of a document. -/
def documentMark (scan : Scan) (token : Token) : Option Scan := do
  return { ← scan.closeAll with keyAllowed := false }.take 3 token

/-- Reads the token that starts with a character. -/
def token (scan : Scan) (char : Char) (rest : List Char) : Option Scan :=
  if scan.column == 0 && char == '%' then scan.directive
  else if scan.column == 0 && atDocumentMark (char :: rest) then
    scan.documentMark (if char = '-' then .documentStart else .documentEnd)
  else
    match char with
    | '[' => scan.openFlow .openBracket
    | '\x7b' => scan.openFlow .openBrace
    | ']' => scan.closeFlow .closeBracket
    | '\x7d' => scan.closeFlow .closeBrace
    | ',' => scan.comma
    | '-' => if atSpace rest then scan.item else scan.plain
    | '?' => if scan.inFlow || atSpace rest then scan.explicitKey else scan.plain
    | ':' => if scan.inFlow || atSpace rest then scan.colon else scan.plain
    | '*' => scan.named .alias
    | '&' => scan.named .anchor
    | '!' => scan.tag
    | '|' => scan.block .literal
    | '>' => scan.block .folded
    | '\'' | '"' => scan.quoted
    | '\t' | '#' | '%' | '@' | '\x60' => none
    | _ => scan.plain

/-- Reads the tokens from here on. Each takes a character at least, so no more steps are needed
than there are characters. -/
def finish? (scan : Scan) : (steps : Nat) → Option (List Token)
  | 0 => none
  | steps + 1 => do
    let there ← scan.toToken
    match there.cursor.rest with
    | [] => return (← there.closeAll).reversed.reverse
    | char :: rest => finish? (← there.token char rest) steps

end Scan

/-- The tokens of a text, if it can be divided into such. -/
def Token.ofText? (content : String) : Option (List Token) := do
  let characters ← characters? content
  (Scan.start characters).finish? (characters.length + 1)

end Arcade.Yaml
