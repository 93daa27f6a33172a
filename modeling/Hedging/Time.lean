/-!
# Durations and instants

A duration is a whole number of nanoseconds. The clock shows whole milliseconds, so a timer goes
off at the first tick that is not before its deadline, and no timer can be set farther ahead than
thirty years: `Instant.after_ofMillis` says that within these whole milliseconds are kept exactly, and
`le_after` that no timer goes off before it is set. A limit on the time that something may take can lie
any distance ahead (`after_le_within`).
-/

namespace Hedging

/-- A span of time, in whole nanoseconds. -/
structure Duration where
  nanos : Nat
deriving DecidableEq, Repr, Inhabited

namespace Duration

/-- The empty span. -/
def zero : Duration := ⟨0⟩

/-- A span of `ms` whole milliseconds. -/
def ofMillis (ms : Nat) : Duration := ⟨ms * 1000000⟩

/-- Whole milliseconds of a span; what is left over is cut off. -/
def millis (d : Duration) : Nat := d.nanos / 1000000

/-- The least number of whole milliseconds that covers a span. -/
def millisUp (d : Duration) : Nat := (d.nanos + 999999) / 1000000

/-- Whole seconds of a span. -/
def seconds (d : Duration) : Nat := d.nanos / 1000000000

theorem millis_ofMillis (ms : Nat) : (ofMillis ms).millis = ms := by
  simp only [ofMillis, millis]
  omega

theorem millisUp_ofMillis (ms : Nat) : (ofMillis ms).millisUp = ms := by
  simp only [ofMillis, millisUp]
  omega

end Duration

/-- A reading of the clock: whole milliseconds since the clock was started. -/
abbrev Instant := Nat

namespace Instant

/-- The span between two readings of the clock, empty if the second is the earlier one. -/
def since (now start : Instant) : Duration := .ofMillis (now - start)

/-- Thirty years of 365 days, in milliseconds: the farthest that a timer can be set ahead. -/
def farOff : Nat := 30 * 365 * 86400 * 1000

/-- The instant at which a timer goes off that is set at `now` for `d`. A timer for more than thirty
years goes off after thirty. -/
def after (now : Instant) (d : Duration) : Instant := now + min d.millisUp farOff

theorem le_after (now : Instant) (d : Duration) : now ≤ after now d := Nat.le_add_right ..

/-- No timer waits for longer than thirty years. -/
theorem after_le (now : Instant) (d : Duration) : after now d ≤ now + farOff :=
  Nat.add_le_add_left (Nat.min_le_right ..) now

/-- The instant up to which something may take its time that is begun at `now` and given `d`. -/
def within (now : Instant) (d : Duration) : Instant := now + d.millisUp

/-- A timer set for as long as the limit lies ahead goes off by then. -/
theorem after_le_within (now : Instant) (d : Duration) : after now d ≤ within now d :=
  Nat.add_le_add_left (Nat.min_le_left ..) now

/-- Up to thirty years, whole milliseconds are waited for exactly. -/
theorem after_ofMillis (now : Instant) (ms : Nat) (h : ms ≤ farOff) :
    after now (.ofMillis ms) = now + ms := by
  rw [after, Duration.millisUp_ofMillis, Nat.min_eq_left h]

end Instant

end Hedging
