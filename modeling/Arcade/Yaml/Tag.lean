/-
**Tags of a YAML text.**

A tag says what a part is. It is written in full between angles, or as a handle that stands for
the start of a tag and the rest of it. Lines at the start of a document give handles a meaning
(`Directive`). Octets of a tag may be escaped by their hexadecimal digits.

* `length_octetsFrom_le`: reading octets leaves no more text than there was;
* `resolve_whole`: a tag that is written in full needs no handle.
-/

import Arcade.Text.Digits
import Arcade.Yaml.Block

namespace Arcade.Yaml

/-- Whether a character may stand in a name. -/
def isWord (char : Char) : Bool := char.isAlphanum || char == '_' || char == '-'

/-- Whether a character may stand in a tag. Some may only where no flow collection can go on. -/
def isTagChar (whole : Bool) (char : Char) : Bool :=
  isWord char ||
    [';', '/', '?', ':', '@', '&', '=', '+', '$', '.', '!', '~', '*', '\'', '(', ')'].contains
      char ||
    (whole && [',', '[', ']'].contains char)

/-- How many octets follow the first one of a character. -/
def followers? (octet : Nat) : Option Nat :=
  if octet < 0x80 then some 0
  else if octet < 0xC0 then none
  else if octet < 0xE0 then some 1
  else if octet < 0xF0 then some 2
  else if octet < 0xF8 then some 3
  else none

/-- How many octets of a character are still to come after one, of those that were due. -/
def dueAfter? (due octet : Nat) : Option Nat :=
  if due = 0 then followers? octet
  else if 0x80 ≤ octet ∧ octet < 0xC0 then some (due - 1)
  else none

/-- The octets of a tag and what follows them. Those so far are given, the latest first, and how
many of a character that was begun are still to come. -/
def octetsFrom (whole : Bool) (due : Nat) (reversed : List UInt8) :
    List Char → Option (List UInt8 × List Char)
  | '%' :: first :: second :: rest => do
    let octet := (← Text.digitValue? 16 first) * 16 + (← Text.digitValue? 16 second)
    let left ← dueAfter? due octet
    octetsFrom whole left (UInt8.ofNat octet :: reversed) rest
  | [] => if due = 0 then some (reversed.reverse, []) else none
  | char :: rest =>
    if due ≠ 0 ∨ char = '%' then none
    else if isTagChar whole char then
      octetsFrom whole 0 (UInt8.ofNat char.toNat :: reversed) rest
    else some (reversed.reverse, char :: rest)

theorem length_octetsFrom_le {whole : Bool} {due : Nat} {reversed octets : List UInt8}
    {content rest : List Char}
    (found : octetsFrom whole due reversed content = some (octets, rest)) :
    rest.length ≤ content.length := by
  fun_induction octetsFrom whole due reversed content with
  | case1 due reversed first second content ih =>
    simp only [Option.bind_eq_bind, Option.bind_eq_some_iff] at found
    obtain ⟨_, _, _, _, _, _, later⟩ := found
    exact Nat.le_trans (ih _ _ _ later) (by simp only [List.length_cons]; omega)
  | case2 => simp_all
  | case3 => simp_all
  | case4 => simp_all
  | case5 due reversed char content _ _ _ ih => exact Nat.le_trans (ih found) (by simp)
  | case6 => simp_all

/-- A tag as it is written. -/
structure TagName where
  /-- The handle in front, unless the tag is written in full. -/
  handle : Option String
  octets : List UInt8
  deriving DecidableEq

namespace TagName

/-- The tag that is nothing but a mark. -/
def bare : TagName := ⟨none, [33]⟩

/-- The tag after its mark, and what follows it. -/
def take? (content : List Char) : Option (TagName × List Char) :=
  match content with
  | '<' :: rest => do
    match ← octetsFrom true 0 [] rest with
    | ([], _) => none
    | (octets, '>' :: after) => some (⟨none, octets⟩, after)
    | (_, _) => none
  | _ =>
    match content.dropWhile isWord with
    | '!' :: rest => do
      match ← octetsFrom false 0 [] rest with
      | ([], _) => none
      | (octets, after) =>
        let handle := String.ofList ('!' :: content.takeWhile isWord ++ ['!'])
        some (⟨some handle, octets⟩, after)
    | _ => do
      match ← octetsFrom false 0 [] content with
      | ([], after) => some (bare, after)
      | (octets, after) => some (⟨some "!", octets⟩, after)

/-- The tag that a name stands for, given the meaning of handles. One whose octets make no text
is kept as an empty text, which no other tag is. -/
def resolve (name : TagName) (handles : List (String × List UInt8)) : Option String := do
  let start ← match name.handle with
    | none => some []
    | some handle => handles.lookup handle
  return (String.fromUTF8? ⟨(start ++ name.octets).toArray⟩).getD ""

theorem resolve_whole (octets : List UInt8) (handles : List (String × List UInt8)) :
    (TagName.mk none octets).resolve handles =
      some ((String.fromUTF8? ⟨octets.toArray⟩).getD "") := rfl

end TagName

/-- The start of the tags that the format itself gives a meaning. -/
def coreTag : String := "tag:yaml.org,2002:"

/-- The handles that have a meaning in every document. -/
def coreHandles : List (String × List UInt8) :=
  [("!", [33]), ("!!", coreTag.toUTF8.toList)]

/-! ### Directives -/

/-- What a line before a document says. -/
inductive Directive where
  /-- The version of the format is one that is known. -/
  | version
  /-- A handle stands for the start of a tag. -/
  | handle (name : String) (octets : List UInt8)
  deriving DecidableEq

namespace Directive

/-- The number at the start of a text, and what follows it. It has nine digits at most. -/
def takeNumber? (content : List Char) : Option (Nat × List Char) := do
  let digits := content.takeWhile Char.isDigit
  if 9 < digits.length then none
  else return (← Text.ofDigits? 10 digits, content.dropWhile Char.isDigit)

/-- The version that stands here, if it is known, and what follows it. -/
def takeVersion? (content : List Char) : Option (Directive × List Char) := do
  match ← takeNumber? content with
  | (1, '.' :: rest) =>
    let (minor, after) ← takeNumber? rest
    if minor = 1 ∨ minor = 2 then some (version, after) else none
  | _ => none

/-- The meaning of a handle that stands here, and what follows it. -/
def takeHandle? (content : List Char) : Option (Directive × List Char) :=
  match content with
  | '!' :: rest =>
    let word := rest.takeWhile isWord
    let (name, after) := match rest.dropWhile isWord with
      | '!' :: after => ('!' :: word ++ ['!'], after)
      | other => ('!' :: word, other)
    let isWhole := word.isEmpty || name.getLast? == some '!'
    if !isWhole || !(after.head?.map isBlank).getD false then none
    else do
      match ← octetsFrom true 0 [] (after.dropWhile isBlank) with
      | ([], _) => none
      | (octets, last) =>
        if atSpace last then some (handle (String.ofList name) octets, last) else none
  | _ => none

/-- The directive after its mark, and the text after its line. -/
def take? (content : List Char) : Option (Directive × List Char) := do
  let rest := content.dropWhile isWord
  let value := rest.dropWhile isBlank
  let (directive, after) ←
    if !atSpace rest then none
    else match String.ofList (content.takeWhile isWord) with
      | "YAML" => takeVersion? value
      | "TAG" => takeHandle? value
      | _ => none
  return (directive, ← afterLine? after)

/-- The meaning of handles after one more directive. No handle may be given a second one. -/
def add? (handles : List (String × List UInt8)) (directive : Directive) :
    Option (List (String × List UInt8)) :=
  match directive with
  | version => some handles
  | handle name octets =>
    if (handles.lookup name).isSome then none else some ((name, octets) :: handles)

/-- The meaning of handles after some directives, of which one at most names a version. -/
def handles? (directives : List Directive) : Option (List (String × List UInt8)) :=
  if directives.count version ≤ 1 then (directives.foldlM add? []).map (· ++ coreHandles)
  else none

end Directive

end Arcade.Yaml
