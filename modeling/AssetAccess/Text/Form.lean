import AssetAccess.Text.Ascii
import AssetAccess.Text.Percent
/-!
# Form bodies

A request body is a list of pairs: key and value with an equals sign between them, and ampersands
between the pairs.  Both texts are percent-encoded with a set of kept characters that differs from
the one of signed texts, and a space is written as a plus sign.

Neither separator is kept, so a body splits in one way only.
-/

namespace AssetAccess.Form

/-- The bytes that stand for themselves: letters, digits, and four marks. -/
def isKept (b : UInt8) : Bool :=
  Percent.isAlphanumeric b || b == 0x2A || b == 0x2D || b == 0x2E || b == 0x5F

/-- The written form of one byte. -/
def encodeByte (b : UInt8) : List Char := if b = 0x20 then ['+'] else Percent.encodeByte isKept b

/-- The written form of a key or a value. -/
def encodeText (s : String) : String := String.ofList ((Text.utf8 s).flatMap encodeByte)

/-- The written form of a pair. -/
def encodePair (p : String × String) : String := encodeText p.1 ++ "=" ++ encodeText p.2

/-- The body for a list of pairs. -/
def encode (pairs : List (String × String)) : String := "&".intercalate (pairs.map encodePair)

/-! ### Reading -/

/-- The key or value that a written form denotes, if its bytes are UTF-8.  A plus sign that stands
for itself is percent-encoded, so plus signs are replaced first. -/
def decodeText? (l : List Char) : Option String :=
  Text.ofUtf8? (Percent.decode (String.ofList (l.map fun c => if c = '+' then ' ' else c)))

/-- The pair that a segment denotes; without an equals sign its value is empty. -/
def decodePair? (segment : List Char) : Option (String × String) := do
  let (key, value) := Text.cutFirst '=' segment
  return (← decodeText? key, ← decodeText? (value.getD []))

/-- The pairs of a body; empty segments between ampersands are skipped. -/
def decode? (body : String) : Option (List (String × String)) :=
  ((body.toList.splitOn '&').filter (!·.isEmpty)).mapM decodePair?

end AssetAccess.Form
