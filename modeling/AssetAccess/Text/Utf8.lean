/-!
# UTF-8

Texts are hashed, percent-encoded and transmitted as their UTF-8 bytes.  Bytes received from
elsewhere need not be UTF-8: `decodeUnits` reads them as a sequence of characters and faults, where
a fault covers the longest run of bytes that begins a well-formed character but does not finish it,
or a single byte that can begin none.
-/

namespace AssetAccess.Text

/-- The UTF-8 bytes of a text. -/
def utf8 (s : String) : List UInt8 := s.toList.flatMap String.utf8EncodeChar

/-- The bounds on the second byte of a character that starts with `lead`, and the number of bytes
that follow the lead byte; `none` if no character of several bytes starts with it. -/
def continuation? (lead : UInt8) : Option (UInt8 × UInt8 × Nat) :=
  if 0xC2 ≤ lead && lead ≤ 0xDF then some (0x80, 0xBF, 1)
  else if lead == 0xE0 then some (0xA0, 0xBF, 2)
  else if lead == 0xED then some (0x80, 0x9F, 2)
  else if 0xE1 ≤ lead && lead ≤ 0xEF then some (0x80, 0xBF, 2)
  else if lead == 0xF0 then some (0x90, 0xBF, 3)
  else if lead == 0xF4 then some (0x80, 0x8F, 3)
  else if 0xF1 ≤ lead && lead ≤ 0xF3 then some (0x80, 0xBF, 3)
  else none

/-- Where the reader stands: between characters, or inside one that still needs `missing + 1`
bytes, the next of them between `lo` and `hi`. -/
inductive Utf8State where
  | between
  | inside (value : Nat) (lo hi : UInt8) (missing : Nat)

/-- The characters that the bytes stand for, with `none` for each fault. -/
def decodeUnits : Utf8State → List UInt8 → List (Option Char)
  | .between, [] => []
  | .inside .., [] => [none]
  | .between, b :: l => start b l
  | .inside value lo hi missing, b :: l =>
    if lo ≤ b && b ≤ hi then
      let value := value * 64 + (b.toNat - 0x80)
      match missing with
      | 0 => some (Char.ofNat value) :: decodeUnits .between l
      | m + 1 => decodeUnits (.inside value 0x80 0xBF m) l
    else none :: start b l
where
  /-- Reads `b` as the first byte of a character. -/
  start (b : UInt8) (l : List UInt8) : List (Option Char) :=
    if b < 0x80 then some (Char.ofNat b.toNat) :: decodeUnits .between l
    else match continuation? b with
      | none => none :: decodeUnits .between l
      | some (lo, hi, more) =>
        decodeUnits (.inside (b.toNat % (64 >>> more)) lo hi (more - 1)) l

/-- The text with these UTF-8 bytes, if they are well formed. -/
def ofUtf8? (l : List UInt8) : Option String :=
  ((decodeUnits .between l).mapM id).map String.ofList

end AssetAccess.Text
