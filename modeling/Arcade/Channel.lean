/-
**Bounded channels.**

A channel hands values from any number of senders to one receiver, in the order in which they were
accepted. It holds as many values as its capacity, and at least one. A value is refused when the
channel is full, or when the receiver is gone.

* `waiting_send`: an accepted value is appended to those that wait;
* `send_eq_full`: a value is refused for lack of room exactly when the receiver is there and
  `room` values wait;
* `waiting_receive?`: the receiver gets the oldest value.
-/

namespace Arcade

/-- Why a value was not accepted. -/
inductive SendError where
  /-- As many values wait as there is room for. -/
  | full
  /-- The receiver is gone. -/
  | disconnected
  deriving DecidableEq, Repr

/-- The most values that a channel of some capacity holds. -/
def channelRoom (capacity : Nat) : Nat := max 1 capacity

/-- Values on their way from their senders to a receiver. -/
structure Channel (α : Type) where
  capacity : Nat
  /-- The values that were accepted and not yet received, the oldest first. -/
  waiting : List α
  /-- Whether the receiver is still there. -/
  connected : Bool
  waiting_le : waiting.length ≤ channelRoom capacity

namespace Channel

variable {α : Type}

/-- A channel without values. -/
def new (capacity : Nat) : Channel α := ⟨capacity, [], true, Nat.zero_le _⟩

/-- The most values that may wait. -/
def room (channel : Channel α) : Nat := channelRoom channel.capacity

/-- One more value keeps to a limit that was not reached. -/
private theorem length_append_le {values : List α} {limit : Nat} (value : α)
    (space : values.length < limit) : (values ++ [value]).length ≤ limit := by
  rw [List.length_append]
  exact space

/-- Accepts a value at the end, unless the channel is full or the receiver is gone. -/
def send (channel : Channel α) (value : α) : Except SendError (Channel α) :=
  if channel.connected then
    if space : channel.waiting.length < channelRoom channel.capacity then
      .ok { channel with
        waiting := channel.waiting ++ [value]
        waiting_le := length_append_le value space }
    else .error .full
  else .error .disconnected

/-- The oldest value, and the channel without it. -/
def receive? (channel : Channel α) : Option (α × Channel α) :=
  match content : channel.waiting with
  | [] => none
  | value :: rest =>
    some (value, { channel with
      waiting := rest
      waiting_le := by
        have := channel.waiting_le
        simp only [content, List.length_cons] at this
        omega })

/-- The channel with no value waiting. -/
def emptied (channel : Channel α) : Channel α :=
  { channel with waiting := [], waiting_le := Nat.zero_le _ }

/-- The channel after the given number of values was received. -/
def discard (channel : Channel α) (count : Nat) : Channel α :=
  { channel with
    waiting := channel.waiting.drop count
    waiting_le := by
      have := channel.waiting_le
      simp only [List.length_drop]
      omega }

/-- The channel after its receiver is gone. What waited is lost. -/
def disconnect (channel : Channel α) : Channel α :=
  { channel with waiting := [], connected := false, waiting_le := Nat.zero_le _ }

theorem waiting_send {channel sent : Channel α} {value : α}
    (success : channel.send value = .ok sent) : sent.waiting = channel.waiting ++ [value] := by
  unfold send at success
  split at success
  · split at success
    · simp only [Except.ok.injEq] at success
      rw [← success]
    · simp at success
  · simp at success

theorem frame_send {channel sent : Channel α} {value : α} (success : channel.send value = .ok sent) :
    sent.capacity = channel.capacity ∧ sent.connected = channel.connected := by
  unfold send at success
  split at success
  · split at success
    · cases success
      exact ⟨rfl, rfl⟩
    · cases success
  · cases success

theorem send_eq_full {channel : Channel α} {value : α} :
    channel.send value = .error .full ↔
      channel.connected = true ∧ channel.waiting.length = channel.room := by
  have bound := channel.waiting_le
  unfold send room
  split
  · rename_i here
    split
    · simp; omega
    · simp [here]; omega
  · rename_i gone
    simp [gone]

theorem send_eq_disconnected {channel : Channel α} {value : α} :
    channel.send value = .error .disconnected ↔ channel.connected = false := by
  unfold send
  split
  · rename_i here
    split <;> simp [here]
  · rename_i gone
    simp [gone]

theorem waiting_receive? {channel rest : Channel α} {value : α}
    (success : channel.receive? = some (value, rest)) :
    channel.waiting = value :: rest.waiting := by
  unfold receive? at success
  split at success
  · simp at success
  · rename_i content
    simp only [Option.some.injEq, Prod.mk.injEq] at success
    obtain ⟨rfl, rfl⟩ := success
    exact content

end Channel

end Arcade
