import AssetAccess.Text.Ascii
/-!
# Methods and header names

Both are tokens: non-empty runs of ASCII letters, digits and fifteen marks.  A header name is held
with small letters, since case does not tell two names apart.
-/

namespace AssetAccess.Http

/-- A character that a token may hold. -/
def isTokenChar (c : Char) : Bool :=
  c.isAlphanum || ['!', '#', '$', '%', '&', '\'', '*', '+', '-', '.', '^', '_', '\x60', '|',
    '~'].contains c

/-- A non-empty run of token characters. -/
def isToken (s : String) : Bool := !s.toList.isEmpty && s.toList.all isTokenChar

/-- A request method.  Case matters: `get` is not `GET`. -/
structure Method where
  text : String
  isToken_text : isToken text = true
deriving DecidableEq

namespace Method

/-- The method with this name, if it is a token. -/
def ofString? (s : String) : Option Method :=
  if h : isToken s = true then some ⟨s, h⟩ else none

/-- The method of every call that the client makes. -/
def post : Method := ⟨"POST", by decide⟩

end Method

/-- A token that may name a header, once its letters are small: at most 65535 characters. -/
def isFieldName (s : String) : Bool := isToken s && Text.lower s == s && s.toList.length ≤ 65535

/-- The name of a header. -/
structure FieldName where
  text : String
  isFieldName_text : isFieldName text = true
deriving DecidableEq

namespace FieldName

/-- The header name that a text denotes in any case of its letters. -/
def ofString? (s : String) : Option FieldName :=
  if h : isFieldName (Text.lower s) = true then some ⟨Text.lower s, h⟩ else none

/-- The header that carries the token. -/
def authorization : FieldName := ⟨"authorization", by decide⟩
/-- The header that is always signed. -/
def host : FieldName := ⟨"host", by decide⟩
/-- The type of the body. -/
def contentType : FieldName := ⟨"content-type", by decide⟩
/-- The digest of the body. -/
def contentMd5 : FieldName := ⟨"content-md5", by decide⟩
/-- The second at which a request was built. -/
def timestamp : FieldName := ⟨"timestamp", by decide⟩
/-- The name of the calling program. -/
def userAgent : FieldName := ⟨"user-agent", by decide⟩
/-- The name under which the service traced a call. -/
def traceId : FieldName := ⟨"xasset-trace-id", by decide⟩

end FieldName

end AssetAccess.Http
