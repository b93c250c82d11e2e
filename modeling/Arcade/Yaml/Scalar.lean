/-
**Scalars on the lines of a YAML text.**

A scalar is plain, or quoted with single or double marks. Its lines are joined: one line feed
becomes a space, and further breaks stay (`Gap.text`). In double marks characters may be escaped.

* `Gap.text_lines_one`: one line feed between two characters becomes a space;
* `Gap.push_lines`: blanks after a line break do not count.
-/

import Arcade.Text.Digits
import Arcade.Yaml.Cursor

namespace Arcade.Yaml

/-! ### Joining lines -/

/-- What separates two characters of a scalar. -/
inductive Gap where
  /-- Blanks on one line, the latest first. -/
  | blanks (reversed : List Char)
  /-- Line breaks: the first one, unless it was escaped, and those after it, the latest first. -/
  | lines (first : Option Char) (reversed : List Char)

namespace Gap

/-- Nothing between two characters. -/
def none : Gap := blanks []

/-- Whether there is nothing. -/
def isNone : Gap → Bool
  | blanks reversed => reversed.isEmpty
  | lines _ _ => false

/-- Whether a line ends. -/
def breaksLine : Gap → Bool
  | blanks _ => false
  | lines _ _ => true

/-- The gap with a blank or a line break more. Blanks beside a line break do not count. -/
def push (gap : Gap) (char : Char) : Gap :=
  match gap with
  | blanks reversed => if isBreak char then lines (some char) [] else blanks (char :: reversed)
  | lines first reversed => if isBreak char then lines first (char :: reversed) else gap

/-- What a gap contributes to the scalar. -/
def text : Gap → List Char
  | blanks reversed => reversed.reverse
  | lines first reversed =>
    if first = some '\n' then if reversed.isEmpty then [' '] else reversed.reverse
    else first.toList ++ reversed.reverse

theorem text_lines_one : (lines (some '\n') []).text = [' '] := rfl

theorem push_lines {first : Option Char} {reversed : List Char} {char : Char}
    (blank : isBreak char = false) :
    (lines first reversed).push char = lines first reversed := by
  simp [push, blank]

end Gap

/-! ### Plain scalars -/

/-- Whether a character structures a flow collection. -/
def isFlowMark (char : Char) : Bool := [',', '[', ']', '{', '}'].contains char

/-- Whether a colon may not stand before some text in a flow collection. -/
def clashes (rest : List Char) : Bool :=
  (rest.head?.map fun char => isFlowMark char || char == '?').getD false

/-- A plain scalar that was read. -/
structure PlainScalar where
  content : List Char
  cursor : Cursor
  /-- Whether a line ended after it. -/
  lineEnded : Bool

/-- Reads a plain scalar from the given place on. The characters so far are given, the latest
first, and what separates them from the next. In a block, the next line has to be indented by the
margin, and no tab may stand there before. -/
def plainFrom (flow : Bool) (margin : Nat) (place : Place) (gap : Gap) (reversed : List Char) :
    List Char → Option PlainScalar
  | [] => some ⟨reversed.reverse, ⟨place, []⟩, gap.breaksLine⟩
  | char :: rest =>
    if isSpace char then
      if char = '\t' ∧ gap.breaksLine ∧ place.column < margin then none
      else plainFrom flow margin (place.after char) (gap.push char) reversed rest
    else
      let closed := !gap.isNone && (char == '#' || (!flow && place.column < margin))
      let ended := (char == ':' && atSpace rest) || (flow && isFlowMark char)
      if closed || ended || (place.column == 0 && atDocumentMark (char :: rest)) then
        some ⟨reversed.reverse, ⟨place, char :: rest⟩, gap.breaksLine⟩
      else if flow && char == ':' && clashes rest then none
      else
        plainFrom flow margin (place.after char) Gap.none (char :: (gap.text.reverse ++ reversed))
          rest

/-- The plain scalar that starts here. -/
def Cursor.plain? (cursor : Cursor) (flow : Bool) (margin : Nat) : Option PlainScalar :=
  plainFrom flow margin cursor.place Gap.none [] cursor.rest

/-! ### Quoted scalars -/

/-- Whether a document would start or end inside a quoted scalar. -/
def breaksQuoted (place : Place) (content : List Char) : Bool :=
  place.column == 0 && atDocumentMark content

/-- Reads a scalar in single marks after the first mark. The characters so far are given, the
latest first, and what separates them from the next. -/
def singleFrom (place : Place) (gap : Gap) (reversed : List Char) :
    List Char → Option (List Char × Cursor)
  | [] => none
  | '\'' :: '\'' :: rest =>
    singleFrom (place.right 2) Gap.none ('\'' :: (gap.text.reverse ++ reversed)) rest
  | char :: rest =>
    if isSpace char then singleFrom (place.after char) (gap.push char) reversed rest
    else if breaksQuoted place (char :: rest) then none
    else if char = '\'' then
      some ((gap.text.reverse ++ reversed).reverse, ⟨place.after char, rest⟩)
    else singleFrom (place.after char) Gap.none (char :: (gap.text.reverse ++ reversed)) rest

/-- The character that a letter escapes. -/
def escapedChar? (letter : Char) : Option Char :=
  ([('0', 0), ('a', 7), ('b', 8), ('t', 9), ('\t', 9), ('n', 10), ('v', 11), ('f', 12), ('r', 13),
    ('e', 27), (' ', 32), ('"', 34), ('/', 47), ('\\', 92), ('N', 0x85), ('_', 0xA0),
    ('L', 0x2028), ('P', 0x2029)].lookup letter).map Char.ofNat

/-- How many digits a letter announces. -/
def escapeWidth? (letter : Char) : Option Nat := [('x', 2), ('u', 4), ('U', 8)].lookup letter

/-- The character of a number. -/
def charOfNat? (number : Nat) : Option Char :=
  if number.isValidChar then some (Char.ofNat number) else none

/-- What is read of a scalar in double marks. -/
inductive DoubleMode where
  | normal
  /-- After a backslash. -/
  | escape
  /-- A number of digits of an escape is to come after the next one. -/
  | digits (left value : Nat)

/-- Reads a scalar in double marks after the first mark. The characters so far are given, the
latest first, and what separates them from the next. -/
def doubleFrom (place : Place) (mode : DoubleMode) (gap : Gap) (reversed : List Char) :
    List Char → Option (List Char × Cursor)
  | [] => none
  | char :: rest =>
    let next := place.after char
    match mode with
    | .normal =>
      if isSpace char then doubleFrom next .normal (gap.push char) reversed rest
      else if breaksQuoted place (char :: rest) then none
      else if char = '"' then some ((gap.text.reverse ++ reversed).reverse, ⟨next, rest⟩)
      else if char = '\\' then
        doubleFrom next .escape Gap.none (gap.text.reverse ++ reversed) rest
      else doubleFrom next .normal Gap.none (char :: (gap.text.reverse ++ reversed)) rest
    | .escape =>
      match escapedChar? char, escapeWidth? char with
      | some escaped, _ => doubleFrom next .normal Gap.none (escaped :: reversed) rest
      | none, some width => doubleFrom next (.digits (width - 1) 0) Gap.none reversed rest
      | none, none =>
        if isBreak char then doubleFrom next .normal (.lines none []) reversed rest else none
    | .digits left value =>
      match Text.digitValue? 16 char with
      | none => none
      | some digit =>
        let longer := value * 16 + digit
        match left with
        | 0 =>
          match charOfNat? longer with
          | some escaped => doubleFrom next .normal Gap.none (escaped :: reversed) rest
          | none => none
        | left + 1 => doubleFrom next (.digits left longer) Gap.none reversed rest

/-- The scalar in quotation marks that starts here, if one does. -/
def Cursor.quoted? (cursor : Cursor) : Option (List Char × Cursor) :=
  let inside := cursor.drop 1
  match cursor.rest with
  | '\'' :: _ => singleFrom inside.place Gap.none [] inside.rest
  | '"' :: _ => doubleFrom inside.place .normal Gap.none [] inside.rest
  | _ => none

end Arcade.Yaml
