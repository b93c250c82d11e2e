/-
**The tokens of a JSON text.**

The text is read character by character by a machine with a small state (`LexMode`), so that
reading two pieces one after the other is reading them together (`lexOnto_append`). Reading breaks
off at the first character that fits nowhere; the tokens before it are kept, and `malformed` stands
last.

A text may contain an escape that stands for no character, half of a surrogate pair alone. Such a
text is passed over like any other, but it has no content.
-/

import Arcade.Json.Value
import Arcade.Text.Digits

namespace Arcade.Json

/-- A smallest part of a text. -/
inductive Token where
  | openBrace
  | closeBrace
  | openBracket
  | closeBracket
  | comma
  | colon
  | null
  | boolean (value : Bool)
  | number (value : Number)
  /-- A text, with its content unless it has none. -/
  | text (content : Option String)
  /-- Nothing can be read from here on. -/
  | malformed
  deriving DecidableEq, Repr

/-- What may come next in a number. -/
inductive NumberPhase where
  /-- A sign was read, so a digit must come. -/
  | sign
  /-- A leading zero was read, so no digit may come. -/
  | zero
  | whole
  /-- A point was read, so a digit must come. -/
  | point
  | fraction
  /-- The mark of an exponent was read, so a sign or a digit must come. -/
  | mark
  /-- The sign of an exponent was read, so a digit must come. -/
  | exponentSign
  | exponent
  deriving DecidableEq, Repr

/-- A number as far as it was read. Digits are kept with the latest first. -/
structure PartialNumber where
  negative : Bool
  phase : NumberPhase
  wholeDigits : List Char
  fractionDigits : List Char
  exponentNegative : Bool
  exponentDigits : List Char

/-- A text as far as it was read. -/
structure PartialText where
  /-- The characters, the latest first. -/
  reversed : List Char
  /-- Whether every escape stood for a character. -/
  valid : Bool

/-- What is being read. -/
inductive LexMode where
  /-- Between two tokens. -/
  | between
  /-- A word of which some characters are still to come. -/
  | word (rest : List Char) (token : Token)
  | number (partialNumber : PartialNumber)
  | text (partialText : PartialText)
  /-- A backslash was read. -/
  | escape (partialText : PartialText)
  /-- Some hexadecimal digits of an escape were read, after the first half of a pair or not. -/
  | hex (partialText : PartialText) (first : Option Nat) (count : Nat) (value : Nat)
  /-- The first half of a pair was read. -/
  | half (partialText : PartialText) (first : Nat)
  /-- The first half of a pair and a backslash were read. -/
  | halfEscape (partialText : PartialText) (first : Nat)
  /-- Nothing fits any more. -/
  | broken

/-- Where reading stands: what is being read, and the tokens so far, the latest first. -/
structure LexState where
  mode : LexMode
  reversed : List Token

/-- Whether a character may stand between two tokens. -/
def isBlank (char : Char) : Bool :=
  char == ' ' || char == '\n' || char == '\t' || char == '\r'

/-- The number that digits stand for, the latest digit coming first. -/
def numberOfReversed (digits : List Char) : Nat := Nat.ofDigitChars 10 digits.reverse 0

/-- Whether an integer is stored exactly. -/
def exactRange (value : Int) : Bool := Int64.minValue.toInt ≤ value && value < UInt64.size

/-- The integer or fraction that a number read in full stands for. Zero with a sign is a
fraction. -/
def PartialNumber.value (partialNumber : PartialNumber) : Number :=
  let negative := partialNumber.negative
  let power : Int := numberOfReversed partialNumber.exponentDigits
  let exponent := if partialNumber.exponentNegative then -power else power
  let magnitude := Decimal.ofDigits partialNumber.wholeDigits.reverse
    partialNumber.fractionDigits.reverse exponent
  match partialNumber.phase with
  | .zero | .whole =>
    let whole := numberOfReversed partialNumber.wholeDigits
    let value : Int := if negative then -(whole : Int) else whole
    if exactRange value && !(negative && whole == 0) then .integer value
    else .decimal negative magnitude
  | _ => .decimal negative magnitude

/-- Whether a number may end in a phase. -/
def NumberPhase.isFinal : NumberPhase → Bool
  | .zero | .whole | .fraction | .exponent => true
  | .sign | .point | .mark | .exponentSign => false

/-- A number that starts with the given character, if one does. -/
def PartialNumber.start? (char : Char) : Option PartialNumber :=
  if char == '-' then some ⟨true, .sign, [], [], false, []⟩
  else if char == '0' then some ⟨false, .zero, ['0'], [], false, []⟩
  else if char.isDigit then some ⟨false, .whole, [char], [], false, []⟩
  else none

/-- What becomes of a number with one more character. -/
inductive NumberStep where
  | more (partialNumber : PartialNumber)
  /-- The character does not belong to the number. -/
  | finished
  /-- The character may not stand there. -/
  | broken

/-- Reads one more character of a number. -/
def PartialNumber.step (partialNumber : PartialNumber) (char : Char) : NumberStep :=
  let isMark := char == 'e' || char == 'E'
  let wholeDigit := { partialNumber with wholeDigits := char :: partialNumber.wholeDigits }
  let fractionDigit :=
    { partialNumber with
      fractionDigits := char :: partialNumber.fractionDigits, phase := .fraction }
  let exponentDigit :=
    { partialNumber with
      exponentDigits := char :: partialNumber.exponentDigits, phase := .exponent }
  match partialNumber.phase with
  | .sign =>
    if char == '0' then .more { wholeDigit with phase := .zero }
    else if char.isDigit then .more { wholeDigit with phase := .whole }
    else .broken
  | .zero | .whole =>
    if char == '.' then .more { partialNumber with phase := .point }
    else if isMark then .more { partialNumber with phase := .mark }
    else if char.isDigit then
      if partialNumber.phase == .whole then .more wholeDigit else .broken
    else .finished
  | .point => if char.isDigit then .more fractionDigit else .broken
  | .fraction =>
    if char.isDigit then .more fractionDigit
    else if isMark then .more { partialNumber with phase := .mark }
    else .finished
  | .mark =>
    if char == '-' then
      .more { partialNumber with phase := .exponentSign, exponentNegative := true }
    else if char == '+' then .more { partialNumber with phase := .exponentSign }
    else if char.isDigit then .more exponentDigit
    else .broken
  | .exponentSign => if char.isDigit then .more exponentDigit else .broken
  | .exponent => if char.isDigit then .more exponentDigit else .finished

/-- The text with one more character. -/
def PartialText.push (partialText : PartialText) (char : Char) : PartialText :=
  { partialText with reversed := char :: partialText.reversed }

/-- The text after an escape that stands for no character. -/
def PartialText.spoiled (partialText : PartialText) : PartialText :=
  { partialText with valid := false }

/-- The token of a text read in full. -/
def PartialText.token (partialText : PartialText) : Token :=
  .text (if partialText.valid then some (String.ofList partialText.reversed.reverse) else none)

/-- The character that a letter escapes. -/
def escapedChar? (letter : Char) : Option Char :=
  match letter with
  | '"' => some '"'
  | '\\' => some '\\'
  | '/' => some '/'
  | 'b' => some (Char.ofNat 8)
  | 'f' => some (Char.ofNat 12)
  | 'n' => some '\n'
  | 'r' => some '\r'
  | 't' => some '\t'
  | _ => none

/-- Whether a number is the first half of a surrogate pair. -/
def isFirstHalf (value : Nat) : Bool := 0xD800 ≤ value && value < 0xDC00

/-- Whether a number is the second half of a surrogate pair. -/
def isSecondHalf (value : Nat) : Bool := 0xDC00 ≤ value && value < 0xE000

/-- What is read after the four hexadecimal digits of an escape, with the first half of a pair
before it or not. -/
def afterHex (partialText : PartialText) (first : Option Nat) (value : Nat) : LexMode :=
  match first with
  | some half =>
    if isSecondHalf value then
      let code := 0x10000 + (half - 0xD800) * 0x400 + (value - 0xDC00)
      .text (partialText.push (Char.ofNat code))
    else .text partialText.spoiled
  | none =>
    if isFirstHalf value then .half partialText value
    else if isSecondHalf value then .text partialText.spoiled
    else .text (partialText.push (Char.ofNat value))

/-- Reads a character between two tokens. -/
def lexBetween (reversed : List Token) (char : Char) : LexState :=
  if isBlank char then ⟨.between, reversed⟩
  else match char with
    | '\x7b' => ⟨.between, .openBrace :: reversed⟩
    | '\x7d' => ⟨.between, .closeBrace :: reversed⟩
    | '[' => ⟨.between, .openBracket :: reversed⟩
    | ']' => ⟨.between, .closeBracket :: reversed⟩
    | ',' => ⟨.between, .comma :: reversed⟩
    | ':' => ⟨.between, .colon :: reversed⟩
    | '"' => ⟨.text ⟨[], true⟩, reversed⟩
    | 'n' => ⟨.word ['u', 'l', 'l'] .null, reversed⟩
    | 't' => ⟨.word ['r', 'u', 'e'] (.boolean true), reversed⟩
    | 'f' => ⟨.word ['a', 'l', 's', 'e'] (.boolean false), reversed⟩
    | _ =>
      match PartialNumber.start? char with
      | some partialNumber => ⟨.number partialNumber, reversed⟩
      | none => ⟨.broken, reversed⟩

/-- Reads a character of a text. -/
def lexText (partialText : PartialText) (reversed : List Token) (char : Char) : LexState :=
  if char == '"' then ⟨.between, partialText.token :: reversed⟩
  else if char == '\\' then ⟨.escape partialText, reversed⟩
  else if char.toNat < 32 then ⟨.broken, reversed⟩
  else ⟨.text (partialText.push char), reversed⟩

/-- Reads the character after a backslash. -/
def lexEscape (partialText : PartialText) (reversed : List Token) (char : Char) : LexState :=
  if char == 'u' then ⟨.hex partialText none 0 0, reversed⟩
  else match escapedChar? char with
    | some escaped => ⟨.text (partialText.push escaped), reversed⟩
    | none => ⟨.broken, reversed⟩

/-- Reads one character. -/
def lexStep (state : LexState) (char : Char) : LexState :=
  match state.mode with
  | .between => lexBetween state.reversed char
  | .word rest token =>
    match rest with
    | [] => ⟨.broken, state.reversed⟩
    | [last] =>
      if char == last then ⟨.between, token :: state.reversed⟩ else ⟨.broken, state.reversed⟩
    | next :: later =>
      if char == next then ⟨.word later token, state.reversed⟩ else ⟨.broken, state.reversed⟩
  | .number partialNumber =>
    match partialNumber.step char with
    | .more longer => ⟨.number longer, state.reversed⟩
    | .finished => lexBetween (.number partialNumber.value :: state.reversed) char
    | .broken => ⟨.broken, state.reversed⟩
  | .text partialText => lexText partialText state.reversed char
  | .escape partialText => lexEscape partialText state.reversed char
  | .hex partialText first count value =>
    match Text.digitValue? 16 char with
    | none => ⟨.broken, state.reversed⟩
    | some digit =>
      let longer := value * 16 + digit
      if count = 3 then ⟨afterHex partialText first longer, state.reversed⟩
      else ⟨.hex partialText first (count + 1) longer, state.reversed⟩
  | .half partialText first =>
    if char == '\\' then ⟨.halfEscape partialText first, state.reversed⟩
    else lexText partialText.spoiled state.reversed char
  | .halfEscape partialText first =>
    if char == 'u' then ⟨.hex partialText (some first) 0 0, state.reversed⟩
    else lexEscape partialText.spoiled state.reversed char
  | .broken => state

/-- Reads some characters. -/
def lexOnto (state : LexState) (chars : List Char) : LexState := chars.foldl lexStep state

/-- The tokens at the end of the text, in order. -/
def LexState.finish (state : LexState) : List Token :=
  match state.mode with
  | .between => state.reversed.reverse
  | .number partialNumber =>
    if partialNumber.phase.isFinal then
      (.number partialNumber.value :: state.reversed).reverse
    else (.malformed :: state.reversed).reverse
  | _ => (.malformed :: state.reversed).reverse

/-- The tokens of a text. -/
def tokens (chars : List Char) : List Token := (lexOnto ⟨.between, []⟩ chars).finish

theorem lexOnto_append (state : LexState) (first second : List Char) :
    lexOnto state (first ++ second) = lexOnto (lexOnto state first) second := by
  simp [lexOnto]

end Arcade.Json
