/-!
# Instants

An instant is a Unix second and a number of nanoseconds.  A leap second has no Unix second of its
own: it is the second before it with 10^9 nanoseconds or more, and exists only as the last second of
a minute.  Instants run from the first second of the year -262143 to the last of 262142.
-/

namespace AssetAccess

/-- The first Unix second that an instant can have. -/
def Instant.firstSecond : Int := -8334601228800
/-- The last Unix second that an instant can have. -/
def Instant.lastSecond : Int := 8210266876799

/-- A point in time. -/
structure Instant where
  second : Int
  nano : Nat
  firstSecond_le : Instant.firstSecond ≤ second
  le_lastSecond : second ≤ Instant.lastSecond
  nano_lt : nano < 1000000000 ∨ (nano < 2000000000 ∧ second % 60 = 59)
deriving DecidableEq

namespace Instant

/-- The instant with this Unix second and these nanoseconds, if there is one. -/
def of? (second : Int) (nano : Nat) : Option Instant :=
  if h : firstSecond ≤ second ∧ second ≤ lastSecond ∧
      (nano < 1000000000 ∨ (nano < 2000000000 ∧ second % 60 = 59)) then
    some ⟨second, nano, h.1, h.2.1, h.2.2⟩
  else none

/-- The first instant of 1970. -/
def epoch : Instant := ⟨0, 0, by decide, by decide, by decide⟩

instance : Inhabited Instant := ⟨epoch⟩

/-- The start of a Unix second; the epoch for a second that no instant has. -/
def atSecond (second : Int) : Instant := (of? second 0).getD epoch

/-- The Unix time in nanoseconds, or 0 where it does not fit 64 bits with a sign. -/
def unixNanos (t : Instant) : Int :=
  let n := t.second * 1000000000 + t.nano
  if -9223372036854775808 ≤ n && n ≤ 9223372036854775807 then n else 0

/-- The instant `n` nanoseconds later.  A step that stays inside a leap second keeps it; one that
leaves it forwards counts from the second before, and one that leaves it backwards from the second
after.  A step beyond the last or before the first instant stays where it is. -/
def add (t : Instant) (n : Int) : Instant :=
  let seconds := n.tdiv 1000000000
  let rest := n.tmod 1000000000
  let moved (second nano : Int) : Instant :=
    let sum := nano + rest
    (of? (second + seconds + sum / 1000000000) (sum % 1000000000).toNat).getD t
  if t.nano < 1000000000 then moved t.second t.nano
  else if seconds > 0 || (rest > 0 && t.nano + rest ≥ 2000000000) then
    moved t.second (t.nano - 1000000000)
  else if seconds < 0 then moved (t.second + 1) (t.nano - 1000000000)
  else (of? t.second (t.nano + rest).toNat).getD
    (moved t.second t.nano)

end Instant

end AssetAccess
