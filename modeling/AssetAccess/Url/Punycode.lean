/-!
# Labels as ASCII

A label of a domain name that holds other characters than ASCII is written with ASCII alone.  Its
ASCII characters come first, in order, with a hyphen behind them if there are any.  Then follows how
to insert the others: in ascending order, and from left to right where they are equal.  Each
insertion is one number, which counts the possible insertions that are passed over since the last.

The numbers have digits from `a` to `z` and from `0` to `9`, the least significant first, and each
ends with its first digit below a threshold.  The thresholds follow the size of the numbers before.
-/

namespace AssetAccess.Url.Punycode

/-- An ASCII character. -/
def isAscii (c : Char) : Bool := c.toNat < 128

/-! ### Numbers -/

/-- The digit for a value below 36. -/
def digit (n : Nat) : Char := if n < 26 then Char.ofNat (97 + n) else Char.ofNat (22 + n)

/-- The value of a digit. -/
def digitValue? (c : Char) : Option Nat :=
  let n := c.toNat
  if 97 ≤ n && n ≤ 122 then some (n - 97)
  else if 48 ≤ n && n ≤ 57 then some (n - 22)
  else none

/-- The threshold of a digit, at a place given in steps of 36. -/
def threshold (bias place : Nat) : Nat := min 26 (max 1 (place - bias))

theorem one_le_threshold (bias place : Nat) : 1 ≤ threshold bias place := by
  unfold threshold
  omega

theorem threshold_le (bias place : Nat) : threshold bias place ≤ 26 := by
  unfold threshold
  omega

/-- The digits of a number from a place on. -/
def digits (bias place n : Nat) : List Char :=
  let t := threshold bias place
  if n < t then [digit n]
  else digit (t + (n - t) % (36 - t)) :: digits bias (place + 36) ((n - t) / (36 - t))
termination_by n
decreasing_by
  have h := one_le_threshold bias place
  have := Nat.div_le_self (n - threshold bias place) (36 - threshold bias place)
  omega

/-- Reads the digits of a number from a place on, where a digit 1 would count `weight`. -/
def readDigits? (bias : Nat) : Nat → Nat → List Char → Option (Nat × List Char)
  | _, _, [] => none
  | place, weight, c :: l => do
    let value ← digitValue? c
    let t := threshold bias place
    if value < t then some (value * weight, l)
    else
      let (n, rest) ← readDigits? bias (place + 36) (weight * (36 - t)) l
      some (value * weight + n, rest)

/-- Divides by 35 until 455 or less is left: what is left, and 36 for each division. -/
def reduce (n : Nat) : Nat × Nat :=
  if n ≤ 455 then (n, 0) else ((reduce (n / 35)).1, (reduce (n / 35)).2 + 36)
termination_by n
decreasing_by all_goals omega

/-- The bias after a number, where `count` characters are in place with the one it inserts. -/
def adapt (n count : Nat) (first : Bool) : Nat :=
  let scaled := if first then n / 700 else n / 2
  let (rest, places) := reduce (scaled + scaled / count)
  places + 36 * rest / (rest + 38)

/-- The digits of the numbers of a text of which `count` characters are in place. -/
def writeNumbers (bias count : Nat) (first : Bool) : List Nat → List Char
  | [] => []
  | n :: l =>
    digits bias 36 n ++ writeNumbers (adapt n (count + 1) first) (count + 1) false l

/-- Reads numbers up to the end of the digits.  Every number has a digit, so as many rounds as there
are digits are enough. -/
def readNumbers? (bias count : Nat) (first : Bool) : Nat → List Char → Option (List Nat)
  | _, [] => some []
  | 0, _ :: _ => none
  | rounds + 1, l => do
    let (n, rest) ← readDigits? bias 36 1 l
    let numbers ← readNumbers? (adapt n (count + 1) first) (count + 1) false rounds rest
    some (n :: numbers)

/-! ### Insertions -/

/-- The numbers for all occurrences of one character in a text, when `passed` insertions have been
passed over before it, and how many are passed over after the last. -/
def occurrences (m : Char) : List Char → Nat → List Nat × Nat
  | [], passed => ([], passed)
  | c :: l, passed =>
    if c < m then occurrences m l (passed + 1)
    else if c = m then (passed :: (occurrences m l 0).1, (occurrences m l 0).2)
    else occurrences m l passed

/-- The numbers for the given characters of a text, which ascend, when `count` smaller ones are in
place and `next` is the number of the first character that can still be inserted. -/
def insertions (text : List Char) (next count passed : Nat) : List Char → List Nat
  | [] => []
  | m :: l =>
    let (numbers, rest) := occurrences m text (passed + (m.toNat - next) * (count + 1))
    numbers ++ insertions text (m.toNat + 1) (count + numbers.length) (rest + 1) l

/-- The characters of a text beyond ASCII, in ascending order and each once. -/
def othersOf (text : List Char) : List Char :=
  ((text.filter (!isAscii ·)).mergeSort fun a b => decide (a ≤ b)).eraseDups

/-- Carries out insertions. -/
def insertAll? : Nat → Nat → List Char → List Nat → Option (List Char)
  | _, _, text, [] => some text
  | next, place, text, n :: l =>
    let room := text.length + 1
    let number := next + (place + n) / room
    if number.isValidChar then
      insertAll? number ((place + n) % room + 1)
        (text.insertIdx ((place + n) % room) (Char.ofNat number)) l
    else none

/-! ### Labels -/

/-- The written form of a label. -/
def encode (text : List Char) : List Char :=
  let plain := text.filter isAscii
  plain ++ (if plain.isEmpty then [] else ['-'])
    ++ writeNumbers 72 plain.length true (insertions text 128 plain.length 0 (othersOf text))

/-- Splits a written form at its last hyphen, if something stands before that. -/
def splitPlain (l : List Char) : List Char × List Char :=
  match l.reverse.span (· != '-') with
  | (after, _ :: before@(_ :: _)) => (before.reverse, after.reverse)
  | _ => ([], l)

/-- The label that a written form denotes. -/
def decode? (l : List Char) : Option (List Char) := do
  let (plain, coded) := splitPlain l
  let numbers ← readNumbers? 72 plain.length true coded.length coded
  insertAll? 128 0 plain numbers

end AssetAccess.Url.Punycode
