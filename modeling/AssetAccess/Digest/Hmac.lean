import AssetAccess.Digest.Sha256
import AssetAccess.Text.Hex
import AssetAccess.Text.Utf8
/-!
# Keyed digests

`Hmac.tag` is the keyed digest over SHA-256.  Signatures are its hexadecimal text with small
letters, and `Hmac.matchesHex` recognises exactly that text.
-/

namespace AssetAccess.Hmac

/-- The key brought to the length of a block: digested if it is longer, then filled with zeros. -/
def blockKey (key : List UInt8) : List UInt8 :=
  let short := if key.length ≤ 64 then key else Sha256.digest key
  short ++ List.replicate (64 - short.length) 0

/-- The keyed digest of a message. -/
def tag (key message : List UInt8) : List UInt8 :=
  let block := blockKey key
  Sha256.digest (block.map (· ^^^ 0x5C) ++ Sha256.digest (block.map (· ^^^ 0x36) ++ message))

/-- The keyed digest of a text under a text, as hexadecimal text with small letters. -/
def hex (key message : String) : String := Hex.encode (tag (Text.utf8 key) (Text.utf8 message))

/-- A digit of a written signature: decimal, or a small letter up to `f`. -/
def isSmallHexDigit (c : Char) : Bool := ('0' ≤ c && c ≤ '9') || ('a' ≤ c && c ≤ 'f')

/-- Compares two byte sequences in full before answering, so that the time taken does not tell where
they differ. -/
def equalInFull (l m : List UInt8) : Bool :=
  l.length == m.length && (l.zip m).foldl (fun d p => d ||| (p.1 ^^^ p.2)) 0 == 0

/-- Whether a text is the written signature of `message` under `key`.  Its shape is checked first:
64 digits with small letters, so that no other spelling of the same bytes passes. -/
def matchesHex (key message signature : String) : Bool :=
  signature.length == 64 && signature.toList.all isSmallHexDigit &&
    match Hex.decode? signature with
    | some bytes => equalInFull bytes (tag (Text.utf8 key) (Text.utf8 message))
    | none => false

end AssetAccess.Hmac
