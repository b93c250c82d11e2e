/-
**Time.**

A span of time is a whole number of nanoseconds. A clock measures periods: it ticks when a full
period has passed since its start, and then starts anew, without catching up.

* `Span.ofHertz_zero` and `Span.ofHertz_mul_le`: a frequency's period is zero at zero hertz, and
  otherwise the largest one that fits the frequency's number of times into a second;
* `remaining_eq_zero`: nothing of the period remains exactly when it has passed.
-/

namespace Arcade

/-- The number of nanoseconds in a second. -/
def nanosPerSecond : Nat := 1000000000

/-- A span of time. -/
structure Span where
  nanoseconds : Nat
  deriving DecidableEq, Repr

namespace Span

/-- The span of a number of seconds. -/
def ofSeconds (seconds : Nat) : Span := ⟨seconds * nanosPerSecond⟩

/-- The period of a frequency in hertz; zero hertz have no period, that is a period of zero. -/
def ofHertz (frequency : Nat) : Span := ⟨nanosPerSecond / frequency⟩

/-- The whole seconds of a span. -/
def seconds (span : Span) : Nat := span.nanoseconds / nanosPerSecond

/-- The nanoseconds of a span beside the whole seconds. -/
def subsecond (span : Span) : Nat := span.nanoseconds % nanosPerSecond

theorem ofHertz_zero : ofHertz 0 = ⟨0⟩ := rfl

theorem ofHertz_mul_le (frequency : Nat) :
    (ofHertz frequency).nanoseconds * frequency ≤ nanosPerSecond :=
  Nat.div_mul_le_self _ _

end Span

/-- A moment, in nanoseconds since some start. -/
abbrev Moment := Nat

/-- Measures periods of time. -/
structure Clock where
  start : Moment
  period : Span
  deriving DecidableEq, Repr

namespace Clock

/-- The time since the clock's start. -/
def elapsed (clock : Clock) (now : Moment) : Span := ⟨now - clock.start⟩

/-- What is left of the period, nothing if it has passed. -/
def remaining (clock : Clock) (now : Moment) : Span :=
  ⟨clock.period.nanoseconds - (clock.elapsed now).nanoseconds⟩

/-- The clock started anew. -/
def reset (clock : Clock) (now : Moment) : Clock := { clock with start := now }

/-- Whether a full period has passed, and the clock, which then starts anew. -/
def tick (clock : Clock) (now : Moment) : Bool × Clock :=
  if clock.period.nanoseconds ≤ (clock.elapsed now).nanoseconds then (true, clock.reset now)
  else (false, clock)

theorem remaining_eq_zero (clock : Clock) (now : Moment) :
    clock.remaining now = ⟨0⟩ ↔ (clock.tick now).1 = true := by
  unfold remaining tick
  split <;> simp <;> omega

end Clock

end Arcade
