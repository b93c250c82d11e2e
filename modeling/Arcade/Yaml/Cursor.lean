/-
**Places in a YAML text.**

A text holds printable characters only. Its line breaks are line feeds, the other forms being
brought to that one first, and two further characters that separate lines and paragraphs. A cursor
is what is left of a text, together with the line and the column where that starts.

* `return_not_mem_unifyBreaks`: no carriage return is left once the breaks are unified;
* `length_skipFrom_le`: passing blanks over leaves no more text than there was.
-/

namespace Arcade.Yaml

/-! ### Characters -/

/-- The break that is a character of its own in some older texts. -/
def nextLineChar : Char := Char.ofNat 0x85

/-- The mark of the order of octets, which may stand in front of a line. -/
def orderMark : Char := Char.ofNat 0xFEFF

/-- Whether a character may stand in a text. -/
def isPrintable (char : Char) : Bool :=
  [0x09, 0x0A, 0x0D, 0x85].contains char.toNat || (0x20 ≤ char.toNat && char.toNat ≤ 0x7E) ||
    (0xA0 ≤ char.toNat && char.toNat ≤ 0xFFFD) || 0x10000 ≤ char.toNat

/-- Brings the forms of a line break to a line feed. -/
def unifyBreaks : List Char → List Char
  | [] => []
  | '\r' :: '\n' :: rest => '\n' :: unifyBreaks rest
  | char :: rest =>
    (if char = '\r' ∨ char = nextLineChar then '\n' else char) :: unifyBreaks rest

/-- The characters of a text, if all of them may stand in one. -/
def characters? (content : String) : Option (List Char) :=
  if content.toList.all isPrintable then some (unifyBreaks content.toList) else none

/-- Whether a character ends a line. -/
def isBreak (char : Char) : Bool := char == '\n' || char.toNat == 0x2028 || char.toNat == 0x2029

/-- Whether a character is a space or a tab. -/
def isBlank (char : Char) : Bool := char == ' ' || char == '\t'

/-- Whether a character separates others. -/
def isSpace (char : Char) : Bool := isBlank char || isBreak char

/-- Whether a text is at its end or at a character that separates others. -/
def atSpace : List Char → Bool
  | [] => true
  | char :: _ => isSpace char

/-- Whether a document starts or ends here, at the start of a line. -/
def atDocumentMark : List Char → Bool
  | '-' :: '-' :: '-' :: rest => atSpace rest
  | '.' :: '.' :: '.' :: rest => atSpace rest
  | _ => false

theorem return_not_mem_unifyBreaks (content : List Char) : '\r' ∉ unifyBreaks content := by
  fun_induction unifyBreaks content with
  | case1 => simp
  | case2 rest ih => simp [ih]
  | case3 char rest _ ih =>
    rw [List.mem_cons, not_or]
    refine ⟨?_, ih⟩
    split
    · decide
    · next other => exact fun same => other (.inl same.symm)

/-! ### Places -/

/-- A place in a text. -/
structure Place where
  line : Nat
  /-- How many characters stand before it on the line. -/
  column : Nat
  /-- How many octets stand before it on the line. -/
  octets : Nat

/-- The place at the start of the next line. -/
def Place.nextLine (place : Place) : Place := ⟨place.line + 1, 0, 0⟩

/-- The place after a character. -/
def Place.after (place : Place) (char : Char) : Place :=
  if isBreak char then place.nextLine
  else ⟨place.line, place.column + 1, place.octets + char.utf8Size⟩

/-- The place after some characters of one octet on the same line. -/
def Place.right (place : Place) (count : Nat) : Place :=
  ⟨place.line, place.column + count, place.octets + count⟩

/-- A place in a text, and what stands from there on. -/
structure Cursor where
  place : Place
  rest : List Char

namespace Cursor

/-- The start of a text. -/
def start (content : List Char) : Cursor := ⟨⟨0, 0, 0⟩, content⟩

/-- Passes a number of characters of one octet over. -/
def drop (cursor : Cursor) (count : Nat) : Cursor :=
  ⟨cursor.place.right count, cursor.rest.drop count⟩

/-- The cursor where what is given is left of the line's text. -/
def moveTo (cursor : Cursor) (rest : List Char) : Cursor :=
  cursor.drop (cursor.rest.length - rest.length)

/-- Passes over what may stand between two tokens, from the given place on: blanks, line breaks,
comments, and an order mark in the first column. Answers also whether a key may start after it: in
a block it may after a line break. Where a key may start, a tab is no blank in a block. -/
def skipFrom (flow keyAllowed comment : Bool) (place : Place) : List Char → Cursor × Bool
  | [] => (⟨place, []⟩, keyAllowed)
  | char :: rest =>
    if isBreak char then skipFrom flow (keyAllowed || !flow) false (place.after char) rest
    else if comment ∨ char = '#' then skipFrom flow keyAllowed true (place.after char) rest
    else if char = ' ' ∨ (char = '\t' ∧ (flow || !keyAllowed)) ∨
        (char = orderMark ∧ place.column = 0) then
      skipFrom flow keyAllowed false (place.after char) rest
    else (⟨place, char :: rest⟩, keyAllowed)

/-- Passes over what may stand between two tokens. -/
def skip (cursor : Cursor) (flow keyAllowed : Bool) : Cursor × Bool :=
  skipFrom flow keyAllowed false cursor.place cursor.rest

theorem length_skipFrom_le (flow keyAllowed comment : Bool) (place : Place)
    (content : List Char) :
    (skipFrom flow keyAllowed comment place content).1.rest.length ≤ content.length := by
  induction content generalizing keyAllowed comment place with
  | nil => simp [skipFrom]
  | cons char rest ih =>
    unfold skipFrom
    repeat' split
    all_goals first
      | exact Nat.le_succ_of_le (ih _ _ _)
      | exact Nat.le_refl _

end Cursor

end Arcade.Yaml
