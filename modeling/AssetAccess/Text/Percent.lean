import AssetAccess.Text.Hex
import AssetAccess.Text.Utf8
/-!
# Percent encoding

A byte is either kept as the ASCII character it is, or written as `%` and two capital hexadecimal
digits.  Which bytes are kept is a parameter; a signed text keeps the unreserved characters only,
and in paths the slash as well.
-/

namespace AssetAccess.Percent

/-- ASCII letters and digits. -/
def isAlphanumeric (b : UInt8) : Bool :=
  (0x30 ≤ b && b ≤ 0x39) || (0x41 ≤ b && b ≤ 0x5A) || (0x61 ≤ b && b ≤ 0x7A)

/-- Letters, digits, hyphen, underscore, full stop and tilde stand for themselves everywhere. -/
def isUnreserved (b : UInt8) : Bool :=
  isAlphanumeric b || b == 0x2D || b == 0x5F || b == 0x2E || b == 0x7E

/-- The written form of one byte. -/
def encodeByte (keep : UInt8 → Bool) (b : UInt8) : List Char :=
  if keep b then [Char.ofNat b.toNat]
  else ['%', Hex.capitalDigit (b.toNat / 16), Hex.capitalDigit (b.toNat % 16)]

/-- The written form of a sequence of bytes. -/
def encodeBytes (keep : UInt8 → Bool) (l : List UInt8) : String :=
  String.ofList (l.flatMap (encodeByte keep))

/-- The bytes that stand for themselves in a signed text; a slash does so unless it is `escaped`. -/
def keptWhenSigned (slashEscaped : Bool) (b : UInt8) : Bool :=
  isUnreserved b || (b == 0x2F && !slashEscaped)

/-- The written form of a text inside a signed text. -/
def encode (s : String) (slashEscaped : Bool) : String :=
  encodeBytes (keptWhenSigned slashEscaped) (Text.utf8 s)

/-- The value of a byte read as an ASCII hexadecimal digit. -/
def digitValue? (b : UInt8) : Option Nat := Hex.value? (Char.ofNat b.toNat)

/-- Replaces every `%` with two hexadecimal digits behind it by the byte they denote; any other `%`
stands for itself. -/
def decodeBytes : List UInt8 → List UInt8
  | [] => []
  | [b] => [b]
  | [b, c] => [b, c]
  | b :: h :: l :: r =>
    match b == 0x25, digitValue? h, digitValue? l with
    | true, some high, some low => UInt8.ofNat (16 * high + low) :: decodeBytes r
    | _, _, _ => b :: decodeBytes (h :: l :: r)

/-- The bytes that a percent-encoded text stands for. -/
def decode (s : String) : List UInt8 := decodeBytes (Text.utf8 s)

end AssetAccess.Percent
