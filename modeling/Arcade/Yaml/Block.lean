/-
**Scalars in blocks of their own.**

Such a scalar stands on the lines after its mark, all indented alike. The mark says whether the
lines are kept or joined, and may be followed by what becomes of the last line breaks
(`Chomping`) and by the number of columns of the indentation, which otherwise is found from the
lines.

* `le_of_indentFrom`: the indentation that is found reaches the deepest column before.
-/

import Arcade.Text.Digits
import Arcade.Yaml.Cursor

namespace Arcade.Yaml

/-- What becomes of the line breaks at the end of a scalar. -/
inductive Chomping where
  /-- They are left out. -/
  | strip
  /-- The first one stays. -/
  | clip
  | keep

namespace Chomping

/-- The chomping that a character asks for. -/
def ofChar? : Char → Option Chomping
  | '-' => some strip
  | '+' => some keep
  | _ => none

/-- The chomping that stands here, if one does, and what follows it. -/
def take? : List Char → Option Chomping × List Char
  | [] => (none, [])
  | char :: rest =>
    match ofChar? char with
    | some chomping => (some chomping, rest)
    | none => (none, char :: rest)

end Chomping

/-- The number of columns that stands here, if one does, and what follows it. It is not zero. -/
def takeIncrement? : List Char → Option (Option Nat × List Char)
  | [] => some (none, [])
  | char :: rest =>
    if char = '0' then none
    else
      match Text.digitValue? 10 char with
      | some columns => some (some columns, rest)
      | none => some (none, char :: rest)

/-- What follows the rest of a line on which only a comment may stand. -/
def afterLine? (content : List Char) : Option (List Char) :=
  let rest := match content.dropWhile isBlank with
    | '#' :: comment => comment.dropWhile (!isBreak ·)
    | other => other
  match rest with
  | [] => some []
  | char :: next => if isBreak char then some next else none

/-- The indentation of lines, found from those that are empty and the first that is not. The
deepest column so far is given. No tab may stand where spaces are expected. -/
def indentFrom (deepest column : Nat) : List Char → Option Nat
  | [] => some (max deepest column)
  | char :: rest =>
    if char = ' ' then indentFrom deepest (column + 1) rest
    else if char = '\t' then none
    else if isBreak char then indentFrom (max deepest column) 0 rest
    else some (max deepest column)

theorem le_of_indentFrom {deepest column indent : Nat} {content : List Char}
    (found : indentFrom deepest column content = some indent) : deepest ≤ indent := by
  induction content generalizing deepest column with
  | nil =>
    cases found
    exact Nat.le_max_left _ _
  | cons char rest ih =>
    unfold indentFrom at found
    split at found
    · exact ih found
    · split at found
      · cases found
      · split at found
        · exact Nat.le_trans (Nat.le_max_left _ _) (ih found)
        · cases found
          exact Nat.le_max_left _ _

/-- A scalar in a block as far as it was read. -/
structure PartialBlock where
  /-- The characters, the latest first. -/
  reversed : List Char
  /-- The break at the end of the last line that was not empty. -/
  lineEnd : Option Char
  /-- The breaks of the empty lines after it, the latest first. -/
  emptyEnds : List Char
  /-- Whether the last line that was not empty started with a blank. -/
  blankStart : Bool

namespace PartialBlock

/-- Nothing. -/
def nothing : PartialBlock := ⟨[], none, [], false⟩

/-- Starts a line. Where lines are joined, a line feed between two lines that start with no blank
is a space, or is left out where empty lines follow it. -/
def startLine (block : PartialBlock) (joined : Bool) (char : Char) : PartialBlock :=
  let between :=
    if joined ∧ block.lineEnd = some '\n' ∧ !block.blankStart ∧ !isBlank char then
      if block.emptyEnds.isEmpty then [' '] else []
    else block.lineEnd.toList
  ⟨char :: (block.emptyEnds ++ between ++ block.reversed), none, [], isBlank char⟩

/-- The content at the end of a scalar. -/
def finish (block : PartialBlock) : Chomping → List Char
  | .strip => block.reversed.reverse
  | .clip => (block.lineEnd.toList ++ block.reversed).reverse
  | .keep => (block.emptyEnds ++ block.lineEnd.toList ++ block.reversed).reverse

end PartialBlock

/-- Reads the lines of a scalar, from a place inside a line or before the start of one. -/
def blockFrom (joined : Bool) (indent : Nat) (inside : Bool) (place : Place)
    (block : PartialBlock) : List Char → Option (PartialBlock × Cursor)
  | [] => some (block, ⟨place, []⟩)
  | char :: rest =>
    let next := place.after char
    if isBreak char then
      let ended :=
        if inside then { block with lineEnd := some char }
        else { block with emptyEnds := char :: block.emptyEnds }
      blockFrom joined indent false next ended rest
    else if inside then
      blockFrom joined indent true next { block with reversed := char :: block.reversed } rest
    else if place.column < indent then
      if char = ' ' then blockFrom joined indent false next block rest
      else if char = '\t' then none
      else some (block, ⟨place, char :: rest⟩)
    else blockFrom joined indent true next (block.startLine joined char) rest

/-- The scalar in a block whose mark stands here. The margin is the first column inside the block
around it. -/
def Cursor.block? (cursor : Cursor) (joined : Bool) (margin : Nat) :
    Option (List Char × Cursor) := do
  let (first, afterFirst) := Chomping.take? (cursor.rest.drop 1)
  let (increment, afterIncrement) ← takeIncrement? afterFirst
  let (last, afterLast) :=
    if first.isSome then (first, afterIncrement) else Chomping.take? afterIncrement
  let lines ← afterLine? afterLast
  let indent ← match increment with
    | some columns => some (margin - 1 + columns)
    | none => (indentFrom 0 0 lines).map fun found => max found (max margin 1)
  let (block, after) ←
    blockFrom joined indent false cursor.place.nextLine PartialBlock.nothing lines
  return (block.finish (last.getD .clip), after)

end Arcade.Yaml
