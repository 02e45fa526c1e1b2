import AssetAccess.Text.Blank
import AssetAccess.Text.Decimal
import AssetAccess.Time.Calendar
import AssetAccess.Time.Instant
/-!
# Sign dates

The date field of a token: `YYYY-MM-DDThh:mm:ssZ` in universal time.  A year outside 0 to 9999 is
written with a sign and at least four digits, and a leap second as second 60.  Fractions of a second
are cut off.

Reading is looser than writing.  White space may precede any number, a year without a sign may have
one to four digits and a year with a sign any number of them, and the other numbers one or two.
-/

namespace AssetAccess.SignDate

open Calendar

/-- The written form of a year. -/
def yearText (y : Int) : String :=
  if 0 ≤ y && y ≤ 9999 then Decimal.padded 4 y.toNat
  else (if y < 0 then "-" else "+") ++ Decimal.padded 4 y.natAbs

/-- The written form of an instant, cut to its second. -/
def format (t : Instant) : String :=
  let date := Date.ofDayNumber (t.second / 86400)
  let s := (t.second % 86400).toNat
  let second := s % 60 + t.nano / 1000000000
  yearText date.year ++ "-" ++ Decimal.padded 2 date.month ++ "-" ++ Decimal.padded 2 date.day
    ++ "T" ++ Decimal.padded 2 (s / 3600) ++ ":" ++ Decimal.padded 2 (s / 60 % 60)
    ++ ":" ++ Decimal.padded 2 second ++ "Z"

/-- Reads between one and `most` digits. -/
def digits? (most : Nat) (l : List Char) : Option (Nat × List Char) :=
  let run := (l.take most).takeWhile Decimal.isDigit
  if run.isEmpty then none else some (Decimal.value run, l.drop run.length)

/-- Reads a number of one or two digits, behind white space. -/
def number? (l : List Char) : Option (Nat × List Char) := digits? 2 (Text.skipBlanks l)

/-- Reads a year, behind white space. -/
def year? (l : List Char) : Option (Int × List Char) :=
  match Text.skipBlanks l with
  | '-' :: r => (digits? r.length r).map fun (n, r) => (-(n : Int), r)
  | '+' :: r => (digits? r.length r).map fun (n, r) => ((n : Int), r)
  | r => (digits? 4 r).map fun (n, r) => ((n : Int), r)

/-- Reads one given character. -/
def mark? (c : Char) : List Char → Option (List Char)
  | d :: l => if c = d then some l else none
  | [] => none

/-- The instant of a date and a time of day.  Second 60 is the leap second after second 59. -/
def instant? (date : Date) (hour minute second : Nat) : Option Instant :=
  if date.exists && hour ≤ 23 && minute ≤ 59 && second ≤ 60 then
    Instant.of?
      (date.dayNumber * 86400 + ((hour * 3600 + minute * 60 + min second 59 : Nat) : Int))
      (if second = 60 then 1000000000 else 0)
  else none

/-- The instant that a text denotes. -/
def parse? (s : String) : Option Instant := do
  let (year, l) ← year? s.toList
  let (month, l) ← number? (← mark? '-' l)
  let (day, l) ← number? (← mark? '-' l)
  let (hour, l) ← number? (← mark? 'T' l)
  let (minute, l) ← number? (← mark? ':' l)
  let (second, l) ← number? (← mark? ':' l)
  let l ← mark? 'Z' l
  if l.isEmpty then instant? ⟨year, month, day⟩ hour minute second else none

end AssetAccess.SignDate
