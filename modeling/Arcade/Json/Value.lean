/-
**JSON values and their compact text.**

A value is written without blanks. In a text only the quote, the backslash and the control
characters below the blank are escaped, the latter by a letter where there is one and otherwise by
`\u00` and two small hexadecimal digits.
-/

import Arcade.Json.Decimal
import Arcade.Text.Hex

namespace Arcade.Json

/-- A number: an integer of the range that programs store exactly, or a decimal fraction. -/
inductive Number where
  | integer (value : Int)
  /-- A decimal number, perhaps negated. -/
  | decimal (negative : Bool) (magnitude : Decimal)
  deriving DecidableEq, Repr

/-- A value. An object keeps its entries in order. -/
inductive Value where
  | null
  | boolean (value : Bool)
  | number (value : Number)
  | text (value : String)
  | array (items : List Value)
  | object (entries : List (String × Value))

/-- The value of a natural number. -/
def Value.natural (number : Nat) : Value := .number (.integer number)

/-- The letter that escapes a control character, if there is one. -/
def escapeLetter? (char : Char) : Option Char :=
  match char.toNat with
  | 8 => some 'b'
  | 9 => some 't'
  | 10 => some 'n'
  | 12 => some 'f'
  | 13 => some 'r'
  | _ => none

/-- A character as it stands in a text. -/
def escapeChar (char : Char) : List Char :=
  if char = '"' then ['\\', '"']
  else if char = '\\' then ['\\', '\\']
  else if char.toNat < 32 then
    match escapeLetter? char with
    | some letter => ['\\', letter]
    | none => '\\' :: 'u' :: Text.hexDigits Text.lowerDigits 4 char.toNat
  else [char]

/-- A text between quotes. -/
def quote (content : String) : List Char := '"' :: content.toList.flatMap escapeChar ++ ['"']

/-- The digits of a natural number. -/
def decimalDigits (number : Nat) : List Char := Nat.toDigits 10 number

/-- An integer, with its sign if it is negative. -/
def integerChars : Int → List Char
  | .ofNat number => decimalDigits number
  | .negSucc number => '-' :: decimalDigits (number + 1)

/-- A number as it is written. -/
def Number.chars : Number → List Char
  | .integer value => integerChars value
  | .decimal negative magnitude =>
    (if negative then ['-'] else []) ++ decimalDigits magnitude.significand ++
      'e' :: integerChars magnitude.exponent

/-- Puts a comma between the parts of a list. -/
def separated : List (List Char) → List Char
  | [] => []
  | [part] => part
  | part :: rest => part ++ ',' :: separated rest

mutual

/-- A value as it is written. -/
def Value.chars : Value → List Char
  | .null => "null".toList
  | .boolean true => "true".toList
  | .boolean false => "false".toList
  | .number value => value.chars
  | .text value => quote value
  | .array items => '[' :: separated (itemChars items) ++ [']']
  | .object entries => '\x7b' :: separated (entryChars entries) ++ ['\x7d']

/-- The items of an array as they are written. -/
def itemChars : List Value → List (List Char)
  | [] => []
  | item :: rest => item.chars :: itemChars rest

/-- The entries of an object as they are written. -/
def entryChars : List (String × Value) → List (List Char)
  | [] => []
  | (key, value) :: rest => (quote key ++ ':' :: value.chars) :: entryChars rest

end

/-- The compact text of a value. -/
def Value.render (value : Value) : String := String.ofList value.chars

end Arcade.Json
