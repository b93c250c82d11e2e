/-
**What a line of a conversation says.**

A player writes one command a line. A line that names no command is a message in JSON: one with a
key is a key event, any other a parameter change. A line that is neither says nothing.

* `ofLine_of_blank`: a line of blanks says nothing.
-/

import Arcade.Message.Json
import Arcade.Text.Blank

namespace Arcade

/-- What a line says. -/
inductive Command where
  /-- Nothing that could be understood, or nothing at all. -/
  | nothing
  | quit
  /-- To flip between running and paused. -/
  | pause
  /-- To print how many sessions there are. -/
  | stats
  /-- To run the program of a name. -/
  | rom (name : String)
  | press (event : KeyEvent)
  | change (change : ParamChange)
  deriving DecidableEq

namespace Command

/-- What a message in JSON says. -/
def ofMessage (content : String) : Command :=
  match Json.Value.ofText content with
  | .error _ => .nothing
  | .ok value =>
    if (value.entry? "key").isSome then
      match Json.readValue KeyEvent.read value with
      | .ok event => .press event
      | .error _ => .nothing
    else
      match Json.readValue ParamChange.read value with
      | .ok wish => .change wish
      | .error _ => .nothing

/-- What a line without blanks around it says. -/
def ofTrimmed (chars : List Char) : Command :=
  match String.ofList chars with
  | "" => .nothing
  | "quit" => .quit
  | "pause" => .pause
  | "stats" => .stats
  | content =>
    match chars with
    | 'r' :: 'o' :: 'm' :: ' ' :: name => .rom (String.ofList (Text.trimmed name))
    | _ => ofMessage content

/-- What a line says. -/
def ofLine (line : String) : Command := ofTrimmed (Text.trimmed line.toList)

theorem ofLine_of_blank (line : String)
    (blank : ∀ char ∈ line.toList, Text.isBlank char = true) : ofLine line = .nothing := by
  have nothing : line.toList.dropWhile Text.isBlank = [] := by
    generalize line.toList = chars at blank
    induction chars with
    | nil => rfl
    | cons char rest ih =>
      rw [List.dropWhile_cons_of_pos (blank char (by simp))]
      exact ih fun other member => blank other (by simp [member])
  simp [ofLine, Text.trimmed, nothing, ofTrimmed]

end Command

end Arcade
