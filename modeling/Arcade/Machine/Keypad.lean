/-
**The keypad.**

There are sixteen keys, each up or down. A key event says that one of them went down or came up.

* `isDown_apply`: an event changes the state of its own key alone.
-/

import Arcade.Machine.Layout
import Arcade.Text.Hex

namespace Arcade

/-- One of the sixteen keys. -/
abbrev Key := Fin keyCount

namespace Key

/-- The key that a number names, if it names one. -/
def ofNat? (number : Nat) : Option Key :=
  if valid : number < keyCount then some ⟨number, valid⟩ else none

/-- The key that the lowest four bits of a byte name. -/
def ofLowBits (byte : UInt8) : Key := lowNibble byte.toNat

/-- The wording when a number names no key. -/
def rangeMessage : String := s!"keycode must be in range 0 <= keycode < {keyCount}"

/-- The name of a key in messages. -/
def text (key : Key) : String := "k" ++ Text.hexLower 1 key.val

end Key

/-- A key goes down or comes up. -/
structure KeyEvent where
  key : Key
  pressed : Bool
  deriving DecidableEq, Repr

/-- The name of what the key did. -/
def KeyEvent.motion (event : KeyEvent) : String := if event.pressed then "down" else "up"

/-- Which keys are down. -/
structure Keypad where
  down : Vector Bool keyCount
  deriving DecidableEq

namespace Keypad

/-- No key is down. -/
def released : Keypad := ⟨Vector.replicate keyCount false⟩

/-- Whether a key is down. -/
def isDown (keypad : Keypad) (key : Key) : Bool := keypad.down[key]

/-- The keypad after a key event. -/
def apply (keypad : Keypad) (event : KeyEvent) : Keypad :=
  ⟨keypad.down.set event.key event.pressed⟩

/-- The lowest key that is down. -/
def lowest? (keypad : Keypad) : Option Key := (List.finRange keyCount).find? keypad.isDown

/-- Whether any key is down. -/
def anyDown (keypad : Keypad) : Bool := (List.finRange keyCount).any keypad.isDown

/-- The keypad as a number whose bit `k` says whether key `k` is down. -/
def bits (keypad : Keypad) : Nat :=
  (List.finRange keyCount).foldr (fun key higher => 2 * higher + (keypad.isDown key).toNat) 0

theorem isDown_apply (keypad : Keypad) (event : KeyEvent) (key : Key) :
    (keypad.apply event).isDown key =
      if event.key = key then event.pressed else keypad.isDown key := by
  simp only [isDown, apply, Fin.getElem_fin, Vector.getElem_set, Fin.ext_iff]

end Keypad

end Arcade
