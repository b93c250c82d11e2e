/-
**The structure of a YAML text.**

A text is a scalar, a sequence or a mapping. What is missing is an empty plain scalar. An alias
stands for the part that had the name last (`Parts.anchored`). A text holds one document.

* `ofTokens?_nil`: where there is nothing, a part is missing.
-/

import Arcade.Yaml.Token

namespace Arcade.Yaml

/-- A part of a text. -/
inductive Node where
  | scalar (content : String) (style : ScalarStyle) (tag : Option String)
  | sequence (items : List Node)
  | mapping (entries : List (Node × Node))
  /-- An alias of a collection inside that collection. -/
  | enclosing

/-- A part that is missing. -/
def Node.missing : Node := .scalar "" .plain none

/-- What parts are put together from. -/
structure Parts where
  /-- The tokens to come. -/
  tokens : List Token
  /-- The parts that have a name, in the order in which they start. -/
  anchored : Array (String × Node)

/-- Puts parts together from the tokens in front. -/
abbrev Build (α : Type) := StateT Parts Option α

namespace Build

/-- The next token. -/
def peek? : Build (Option Token) := fun parts => some (parts.tokens.head?, parts)

/-- Passes the next token over. -/
def pass : Build Unit := fun parts => some ((), { parts with tokens := parts.tokens.drop 1 })

/-- Takes the next token if it is the given one. -/
def takes (token : Token) : Build Bool := do
  if (← peek?) == some token then
    pass
    return true
  else return false

/-- The part that comes next, or a missing one before a token in front of which none can stand. -/
def unlessAt (stops : List Token) (part : Build Node) : Build Node := do
  match ← peek? with
  | some token => if stops.contains token then return Node.missing else part
  | none => part

/-- The name that the next part has, if it has one. -/
def anchor? : Build (Option String) := do
  match ← peek? with
  | some (.anchor name) => do
    pass
    return some name
  | _ => return none

/-- The tag that the next part has, if it has one. -/
def tag? (handles : List (String × List UInt8)) : Build (Option String) := do
  match ← peek? with
  | some (.tag name) => do
    pass
    return some (← name.resolve handles)
  | _ => return none

/-- The name and the tag of the next part, in either order. -/
def properties (handles : List (String × List UInt8)) :
    Build (Option String × Option String) := do
  let first ← anchor?
  let tag ← tag? handles
  let anchor ← if first.isSome || tag.isNone then pure first else anchor?
  return (anchor, tag)

/-- Builds a part and gives it its name. From its start on, the name stands for it. -/
def named (name : Option String) (part : Build Node) : Build Node := do
  match name with
  | none => part
  | some name => do
    let place := (← get).anchored.size
    modify fun parts => { parts with anchored := parts.anchored.push (name, .enclosing) }
    let node ← part
    modify fun parts => { parts with anchored := parts.anchored.setIfInBounds place (name, node) }
    return node

/-- The part that had a name last. -/
def aliased (name : String) : Build Node := do
  match (← get).anchored.toList.reverse.lookup name with
  | some node => return node
  | none => failure

mutual

/-- The part that comes next. Blocks can stand only in blocks, and items without a block of their
own only where the tokens before allow it. -/
def node (handles : List (String × List UInt8)) (inBlock bareItems : Bool) :
    (steps : Nat) → Build Node
  | 0 => failure
  | steps + 1 => do
    match ← peek? with
    | some (.alias name) => do
      pass
      aliased name
    | _ => do
      let (anchor, tag) ← properties handles
      match ← peek? with
      | some .item =>
        if bareItems then named anchor (items handles true [] steps) else failure
      | some (.scalar content style) => do
        pass
        let kept := if tag == some "!" then none else tag
        named anchor (pure (.scalar content style kept))
      | some .openBracket => do
        pass
        named anchor (flowItems handles [] steps)
      | some .openBrace => do
        pass
        named anchor (flowEntries handles [] steps)
      | some .blockSequence => do
        pass
        if inBlock then named anchor (items handles false [] steps) else failure
      | some .blockMapping => do
        pass
        if inBlock then named anchor (entries handles [] steps) else failure
      | _ =>
        if anchor.isSome || tag.isSome then named anchor (pure (.scalar "" .plain tag))
        else failure

/-- The items of a block sequence from here on; those before are given, the latest first. Bare
items end before the first token that is none of theirs. -/
def items (handles : List (String × List UInt8)) (bare : Bool) (reversed : List Node) :
    (steps : Nat) → Build Node
  | 0 => failure
  | steps + 1 => do
    if ← takes .item then do
      let stops := [.item, .blockEnd] ++ if bare then [.key, .value] else []
      let item ← unlessAt stops (node handles true false steps)
      items handles bare (item :: reversed) steps
    else if bare || (← takes .blockEnd) then return .sequence reversed.reverse
    else failure

/-- The entries of a block mapping from here on; those before are given, the latest first. -/
def entries (handles : List (String × List UInt8)) (reversed : List (Node × Node)) :
    (steps : Nat) → Build Node
  | 0 => failure
  | steps + 1 => do
    if ← takes .key then do
      let part := unlessAt [.key, .value, .blockEnd] (node handles true true steps)
      let key ← part
      let value ← if ← takes .value then part else pure Node.missing
      entries handles ((key, value) :: reversed) steps
    else if ← takes .blockEnd then return .mapping reversed.reverse
    else failure

/-- The items of a flow sequence from here on; those before are given, the latest first. -/
def flowItems (handles : List (String × List UInt8)) (reversed : List Node) :
    (steps : Nat) → Build Node
  | 0 => failure
  | steps + 1 => do
    if ← takes .closeBracket then return .sequence reversed.reverse
    else do
      let item ← flowItem handles steps
      if ← takes .comma then flowItems handles (item :: reversed) steps
      else if ← takes .closeBracket then return .sequence (item :: reversed).reverse
      else failure

/-- An item of a flow sequence, or a single entry in its place. A token that stands where the key
of such an entry is missing is passed over. -/
def flowItem (handles : List (String × List UInt8)) : (steps : Nat) → Build Node
  | 0 => failure
  | steps + 1 => do
    if ← takes .key then do
      let key ← match ← peek? with
        | some .value | some .comma | some .closeBracket => do
          pass
          pure Node.missing
        | _ => node handles false false steps
      let value ←
        if ← takes .value then
          unlessAt [.comma, .closeBracket] (node handles false false steps)
        else pure Node.missing
      return .mapping [(key, value)]
    else node handles false false steps

/-- The entries of a flow mapping from here on; those before are given, the latest first. -/
def flowEntries (handles : List (String × List UInt8)) (reversed : List (Node × Node)) :
    (steps : Nat) → Build Node
  | 0 => failure
  | steps + 1 => do
    if ← takes .closeBrace then return .mapping reversed.reverse
    else do
      let entry ← flowEntry handles steps
      if ← takes .comma then flowEntries handles (entry :: reversed) steps
      else if ← takes .closeBrace then return .mapping (entry :: reversed).reverse
      else failure

/-- An entry of a flow mapping. What is no key stands without a value. -/
def flowEntry (handles : List (String × List UInt8)) : (steps : Nat) → Build (Node × Node)
  | 0 => failure
  | steps + 1 => do
    let part := node handles false false steps
    if ← takes .key then do
      let key ← unlessAt [.value, .comma, .closeBrace] part
      let value ←
        if ← takes .value then unlessAt [.comma, .closeBrace] part else pure Node.missing
      return (key, value)
    else return (← part, Node.missing)

end

end Build

/-! ### Documents -/

/-- What a token says before a document, if it does. -/
def Token.directive? : Token → Option Directive
  | .directive content => some content
  | _ => none

/-- Whether a token stands between documents. -/
def Token.isOutside : Token → Bool
  | .directive _ | .documentStart | .documentEnd => true
  | _ => false

namespace Node

/-- How many steps suffice to put a number of tokens together. -/
def stepsFor (count : Nat) : Nat := 3 * count + 3

/-- The part that some tokens start with, and the tokens after it. -/
def first? (handles : List (String × List UInt8)) (tokens : List Token) :
    Option (Node × List Token) := do
  let (node, parts) ← Build.node handles true false (stepsFor tokens.length) ⟨tokens, #[]⟩
  return (node, parts.tokens)

/-- The document that some tokens start with, and the tokens after it. Directives stand only
before a mark of the start, and after that mark there may be nothing. -/
def document? (tokens : List Token) : Option (Node × List Token) := do
  let directives := tokens.takeWhile (·.directive?.isSome)
  let handles ← Directive.handles? (directives.filterMap Token.directive?)
  match tokens.drop directives.length with
  | .documentStart :: content =>
    if (content.head?.map Token.isOutside).getD true then some (missing, content)
    else first? handles content
  | content => if directives.isEmpty then first? handles content else none

/-- The node that tokens stand for, if they are one document. -/
def ofTokens? (tokens : List Token) : Option Node :=
  if tokens.isEmpty then some missing
  else do
    let (node, after) ← document? tokens
    if after.all (· == .documentEnd) then some node else none

theorem ofTokens?_nil : ofTokens? [] = some missing := rfl

/-- The node that a text stands for, if it is well-formed. -/
def ofText? (content : String) : Option Node := do ofTokens? (← Token.ofText? content)

end Node

end Arcade.Yaml
