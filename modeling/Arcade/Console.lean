/-
**A machine behind a queue of key events.**

Key events are queued from anywhere and reach the keypad only right before a batch of steps, oldest
first. A console is the machine together with the queue.

* `applyAll_nil` and `applyAll_cons`: draining applies the waiting events one after another.
-/

import Arcade.Channel
import Arcade.Machine.Run

namespace Arcade

/-- The wording when a key event is not accepted. -/
def inputErrorMessage : SendError → String
  | .full => "input queue is full"
  | .disconnected => "machine is no longer receiving input"

/-- A machine and the key events that wait for it. -/
structure Console where
  machine : Machine
  keys : Channel KeyEvent

namespace Console

/-- A machine behind an empty queue. -/
def new (machine : Machine) (capacity : Nat) : Console := ⟨machine, Channel.new capacity⟩

/-- Queues a key event, unless the queue is full. -/
def send (console : Console) (event : KeyEvent) : Except SendError Console := do
  let keys ← console.keys.send event
  return { console with keys }

/-- The console after its machine is gone: no key event reaches it any more. -/
def release (console : Console) : Console := { console with keys := console.keys.disconnect }

/-- Applies the oldest waiting event, if there is one. -/
def applyOldest? (console : Console) : Option Console := do
  let (event, keys) ← console.keys.receive?
  return ⟨console.machine.applyKey event, keys⟩

/-- The machine after some key events. -/
def applyAll (machine : Machine) (events : List KeyEvent) : Machine :=
  events.foldl Machine.applyKey machine

/-- Applies every waiting event, oldest first. -/
def drain (console : Console) : Console :=
  ⟨applyAll console.machine console.keys.waiting, console.keys.emptied⟩

/-- The notices of draining, in order. -/
def drainNotices (console : Console) : List Notice := console.keys.waiting.map .input

/-- Drains the queue and then runs a batch of steps. -/
def cycle (console : Console) (count : Nat) : Batch Console :=
  let drained := console.drain
  let batch := drained.machine.cycle count
  { machine := { drained with machine := batch.machine }
    fault := batch.fault
    reversedNotices := batch.reversedNotices ++ console.drainNotices.reverse }

instance : Steppable Console where
  cycle := cycle
  display := fun console => console.machine.display

theorem applyAll_nil (machine : Machine) : applyAll machine [] = machine := rfl

theorem applyAll_cons (machine : Machine) (event : KeyEvent) (rest : List KeyEvent) :
    applyAll machine (event :: rest) = applyAll (machine.applyKey event) rest := rfl

end Console

end Arcade
