import AssetAccess.Auth.Coverage
import AssetAccess.Auth.Query
import AssetAccess.Http.Request
/-!
# Canonical requests

The text that a signature is made over: method, path, query and covered headers, each in its
canonical form, joined by line breaks.
-/

namespace AssetAccess.Auth

/-- The canonical form of a path: one slash, then the path without its first slash if it has one,
percent-encoded with its slashes kept. -/
def canonicalPath (path : String) : String :=
  match path.toList with
  | '/' :: rest => "/" ++ Percent.encode (String.ofList rest) false
  | _ => "/" ++ Percent.encode path false

/-- The signed parts of a request in their canonical form. -/
structure CanonicalRequest where
  method : String
  path : String
  query : String
  block : String
  signedNames : List String
deriving DecidableEq

namespace CanonicalRequest

/-- The canonical form of a request, with the headers that these names select. -/
def of (request : Http.Request) (names : NameSet) : CanonicalRequest where
  method := request.method.text
  path := canonicalPath request.target.path
  query := Query.canonical (request.target.query.getD "")
  block := Coverage.block request.fields names
  signedNames := Coverage.signedNames request.fields names

/-- The text that is signed. -/
def text (c : CanonicalRequest) : String := "\n".intercalate [c.method, c.path, c.query, c.block]

/-- The covered names as a token lists them. -/
def signedNamesText (c : CanonicalRequest) : String := ";".intercalate c.signedNames

end CanonicalRequest

end AssetAccess.Auth
