import AssetAccess.Text.Ascii
import AssetAccess.Text.Percent
import AssetAccess.Text.Sorted
/-!
# Canonical queries

A raw query is a sequence of pairs: its non-empty segments between ampersands, each cut at the first
equals sign.  The pairs whose key is `authorization`, in any case, carry a token and are not signed.
The canonical query encodes keys and values and puts the pairs in ascending order, so that it does
not depend on the order in which they were written.
-/

namespace AssetAccess.Auth.Query

/-- The pair that a segment stands for; without an equals sign its value is empty. -/
def pair (segment : List Char) : String × String :=
  let (key, value) := Text.cutFirst '=' segment
  (String.ofList key, String.ofList (value.getD []))

/-- The pairs of a raw query that a signature covers, in the order in which they are written. -/
def pairs (raw : String) : List (String × String) :=
  (((raw.toList.splitOn '&').filter (!·.isEmpty)).map pair).filter
    (Text.lower ·.1 != "authorization")

/-- The written form of a pair. -/
def pairText (p : String × String) : String :=
  Percent.encode p.1 true ++ "=" ++ Percent.encode p.2 true

/-- The canonical form of a raw query. -/
def canonical (raw : String) : String :=
  "&".intercalate (Text.sorted ((pairs raw).map pairText))

end AssetAccess.Auth.Query
