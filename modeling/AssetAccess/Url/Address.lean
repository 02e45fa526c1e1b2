import AssetAccess.Url.Authority
/-!
# Web addresses

An address has a scheme, an authority, a path, and perhaps a query and a fragment.  `parse` reads it
from a text and brings each part to its normal form; nothing but the host and the port can make it
fail.  Blanks and control characters around the text, and tabs and line breaks anywhere in it, make
no difference.  Any number of slashes may stand between scheme and authority.
-/

namespace AssetAccess

/-- A web address in normal form. -/
structure Url where
  scheme : Url.Scheme
  authority : Url.Authority
  /-- The segments of the path, each behind a slash. -/
  path : List (List Char)
  query : Option String
  fragment : Option String
deriving DecidableEq, Repr

namespace Url

/-- The written form of an optional part behind its mark. -/
def optionalText (mark : String) : Option String → String
  | some s => mark ++ s
  | none => ""

/-- The written form of an address. -/
def text (u : Url) : String :=
  u.scheme.text ++ "://" ++ u.authority.text ++ Path.text u.path ++ optionalText "?" u.query
    ++ optionalText "#" u.fragment

/-! ### Reading -/

/-- A blank or control character. -/
def isMargin (c : Char) : Bool := c.toNat ≤ 0x20

/-- A tab or a line break. -/
def isBreak (c : Char) : Bool := c == '\t' || c == '\n' || c == '\r'

/-- The text without margins, tabs and line breaks. -/
def clean (l : List Char) : List Char :=
  ((l.dropWhile isMargin).reverse.dropWhile isMargin).reverse.filter (!isBreak ·)

/-- A character that ends an authority. -/
def endsAuthority (c : Char) : Bool := isSlash c || c == '?' || c == '#'

/-- The bytes that a query may hold. -/
def isKeptInQuery (b : UInt8) : Bool := isPlain b && b != 0x27 && b != 0x23

/-- The bytes that a fragment may hold. -/
def isKeptInFragment (b : UInt8) : Bool := isPlain b && b != 0x60

/-- The written form of a query or a fragment. -/
def encodePart (keep : UInt8 → Bool) (l : List Char) : String :=
  Percent.encodeBytes keep (Text.utf8 (String.ofList l))

/-- The address of what follows a scheme and slashes. -/
def parseServer (scheme : Scheme) (l : List Char) : Except Fault Url := do
  let authority ← Authority.parse scheme (l.takeWhile (!endsAuthority ·))
  let (beforeFragment, fragment) := Text.cutFirst '#' (l.dropWhile (!endsAuthority ·))
  let (path, query) := Text.cutFirst '?' beforeFragment
  return {
    scheme, authority
    path := Path.segments path
    query := query.map (encodePart isKeptInQuery)
    fragment := fragment.map (encodePart isKeptInFragment) }

/-- The address that a text denotes.  A text without one of the two schemes denotes none. -/
def parse (s : String) : Except Fault Url :=
  match Text.cutFirst ':' (clean s.toList) with
  | (name, some rest) => match Scheme.ofName? (String.ofList name) with
    | some scheme => parseServer scheme (rest.dropWhile isSlash)
    | none => .error .noScheme
  | (_, none) => .error .noScheme

end Url

end AssetAccess
