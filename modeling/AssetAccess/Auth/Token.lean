import AssetAccess.Auth.SignOptions
import AssetAccess.Error
import AssetAccess.Text.Ascii
import AssetAccess.Text.Decimal
import AssetAccess.Time.SignDate
/-!
# Tokens

A token has six fields between slashes: the version, the key id, the sign date, the lifetime in
seconds, the names of the covered headers between semicolons, and the signature.  The first four are
its scope.  The key of a signature is made from the text of the scope, so a parsed token keeps that
text as it was received beside the date and the lifetime that it denotes.
-/

namespace AssetAccess.Auth

/-- The first field of every token. -/
def version : String := "bce-auth-v1"

/-- The text of a scope. -/
def scopeText (accessKeyId signDate : String) (expireSeconds : Int) : String :=
  "/".intercalate [version, accessKeyId, signDate, Decimal.ofInt expireSeconds]

/-- A token that has been read. -/
structure Token where
  accessKeyId : String
  signDate : Instant
  expireSeconds : Int
  /-- The names as the token lists them; the token is not trusted yet. -/
  signedHeaders : List String
  signature : String
  scope : String
deriving DecidableEq

namespace Token

/-- The lifetime that a field denotes, if it lies between 0 and the longest that is allowed. -/
def lifetime? (field : String) : Option Int := do
  let n ← Decimal.int? field.toList
  if 0 ≤ n && n ≤ maxExpireSeconds then some n else none

/-- Reads a token.  The faults are looked for in this order: the number of fields, the version, the
lifetime, the date. -/
def parse (text : String) : Except Error Token :=
  match Text.pieces '/' text with
  | [tag, accessKeyId, date, expire, names, signature] =>
    if tag ≠ version then .error .unsupportedVersion
    else match lifetime? expire with
      | none => .error .expirationOutOfRange
      | some expireSeconds => match SignDate.parse? date with
        | none => .error .badDateField
        | some signDate => .ok {
            accessKeyId, signDate, expireSeconds, signature
            signedHeaders := Text.pieces ';' names
            scope := "/".intercalate [tag, accessKeyId, date, expire] }
  | _ => .error .malformedToken

/-- The last Unix second at which the token is accepted. -/
def expiresAt (t : Token) : Int := t.signDate.second + t.expireSeconds

/-- Whether the token has outlived its lifetime at a Unix second. -/
def isExpiredAt (t : Token) (now : Int) : Bool := t.expiresAt < now

end Token

end AssetAccess.Auth
