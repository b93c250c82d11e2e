/-
**What sessions and clients say to each other.**

A client sends key events and parameter changes. A session sends its pictures, its name when it
starts, and the reason when something goes wrong.
-/

import Arcade.Machine.Keypad

namespace Arcade

/-- The name of a session. -/
structure SessionId where
  name : String
  deriving DecidableEq, Repr

/-- A positive number of thirty-two bits. -/
structure Positive32 where
  toNat : Nat
  positive : 0 < toNat
  toNat_lt : toNat < UInt32.size
  deriving DecidableEq

namespace Positive32

/-- The positive number of thirty-two bits that a number is, if it is one. -/
def ofNat? (number : Nat) : Option Positive32 :=
  if valid : 0 < number ∧ number < UInt32.size then some ⟨number, valid.1, valid.2⟩ else none

theorem ofNat?_toNat (number : Positive32) : ofNat? number.toNat = some number := by
  simp only [ofNat?, number.positive, number.toNat_lt, and_self, dite_true]

end Positive32

/-- A wish to change how fast a session runs. What is absent stays as it is. -/
structure ParamChange where
  cyclesPerFrame : Option Positive32
  frameRate : Option Positive32
  deriving DecidableEq

namespace ParamChange

/-- The change that asks for nothing. -/
def nothing : ParamChange := ⟨none, none⟩

/-- Whether the change asks for nothing. -/
def isEmpty (change : ParamChange) : Bool :=
  change.cyclesPerFrame.isNone && change.frameRate.isNone

end ParamChange

/-- What a session says to its client. -/
inductive Message where
  /-- The picture, row by row, one number per pixel. -/
  | frame (pixels : List UInt8)
  /-- A program starts under a name. -/
  | started (id : SessionId)
  /-- Something went wrong. -/
  | error (reason : String)
  deriving DecidableEq

end Arcade
