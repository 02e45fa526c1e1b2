import AssetAccess.Time.Instant
/-!
# Clocks

A clock is read again and again, and each reading may show another instant.  Which reading an
operation sees is part of what it does: signing reads the clock for the date, checking reads it for
the expiry, and identifiers read it for entropy.
-/

namespace AssetAccess

/-- A clock: what each reading shows, and how many readings have been taken. -/
structure Clock where
  reading : Nat → Instant
  taken : Nat := 0

namespace Clock

/-- A clock that has stopped. -/
def fixed (t : Instant) : Clock := { reading := fun _ => t }

/-- A clock that starts at `t` and moves on by `step` nanoseconds with every reading. -/
def stepping (t : Instant) (step : Int) : Clock := { reading := fun n => t.add (n * step) }

/-- What the next reading shows. -/
def now (c : Clock) : Instant := c.reading c.taken

/-- The clock after one more reading. -/
def next (c : Clock) : Clock := { c with taken := c.taken + 1 }

/-- The Unix second that the next reading shows. -/
def unixSecond (c : Clock) : Int := c.now.second

/-- The Unix time in nanoseconds that the next reading shows, 0 where it does not fit 64 bits. -/
def unixNanos (c : Clock) : Int := c.now.unixNanos

end Clock

end AssetAccess
