import AssetAccess.Digest.Md5
import AssetAccess.Text.Utf8
/-!
# Content hashes

A text folded to 64 bits: the four words of its digest are added in two pairs, the first to the
third and the second to the fourth, and the second sum becomes the upper half.
-/

namespace AssetAccess.Identifier

/-- The content hash of a text. -/
def contentHash (s : String) : UInt64 :=
  let m := Md5.run (Text.utf8 s)
  (m.a + m.c).toUInt64 ||| ((m.b + m.d).toUInt64 <<< 32)

end AssetAccess.Identifier
