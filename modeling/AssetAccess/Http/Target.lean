import AssetAccess.Text.Ascii
/-!
# Request targets

The address in a request: a path and a query, alone or behind a scheme and an authority; an
authority alone; or an asterisk.  A target is kept as it was written, apart from a fragment, which
is dropped, and from the scheme `http` or `https`, which gets small letters.  Nothing is decoded and
no dot segment is removed, since the signature covers the text that was sent.
-/

namespace AssetAccess.Http

/-- Why a text is no request target. -/
inductive TargetFault where
  | empty
  | tooLong
  | schemeTooLong
  | character
  | authority
  | form
deriving DecidableEq, Repr

/-- The wording of a fault. -/
def TargetFault.message : TargetFault → String
  | .empty => "empty string"
  | .tooLong => "uri too long"
  | .schemeTooLong => "scheme too long"
  | .character => "invalid uri character"
  | .authority => "invalid authority"
  | .form => "invalid format"

/-- A request target. -/
structure Target where
  scheme : Option String
  authority : Option String
  path : String
  query : Option String
deriving DecidableEq, Repr

namespace Target

/-- The target as text. -/
def text (t : Target) : String :=
  (match t.scheme with | some s => s ++ "://" | none => "") ++ t.authority.getD ""
    ++ t.path ++ (match t.query with | some q => "?" ++ q | none => "")

/-! ### Characters -/

/-- A character that a path may hold as it is. -/
def isPathChar (c : Char) : Bool :=
  128 ≤ c.toNat || (33 ≤ c.toNat && c.toNat < 127 && !(['#', '<', '>', '?', '\x60'].contains c))

/-- A character that a query may hold as it is. -/
def isQueryChar (c : Char) : Bool :=
  128 ≤ c.toNat || (33 ≤ c.toNat && c.toNat < 127 && !(['\"', '#', '<', '>'].contains c))

/-- A character that a scheme may hold. -/
def isSchemeChar (c : Char) : Bool := c.isAlphanum || ['+', '-', '.', '~'].contains c

/-- A character that an authority may hold, percent signs apart. -/
def isAuthorityChar (c : Char) : Bool :=
  c.isAlphanum || ['!', '$', '&', '\'', '(', ')', '*', '+', ',', '-', '.', ':', ';', '=', '@', '[',
    ']', '_', '~'].contains c

/-- A character that ends an authority. -/
def endsAuthority (c : Char) : Bool := c == '/' || c == '?' || c == '#'

/-! ### Parts -/

/-- Path and query of a text that starts with them.  An empty path is written as a slash. -/
def pathAndQuery (l : List Char) : Except TargetFault (String × Option String) :=
  let unmarked := (Text.cutFirst '#' l).1
  let (path, query) := Text.cutFirst '?' unmarked
  if path.all isPathChar && (query.getD []).all isQueryChar then
    .ok (if path.isEmpty then "/" else String.ofList path, query.map String.ofList)
  else .error .character

/-- What the scan of an authority has seen since the last `@`, and of brackets at all. -/
structure AuthorityScan where
  colons : Nat := 0
  opened : Bool := false
  closed : Bool := false
  percent : Bool := false
  endsWithAt : Bool := false

/-- Reads one character of an authority.  Colons and percent signs before an `@` belong to the user
information and are forgotten, and so are colons between brackets. -/
def AuthorityScan.step (s : AuthorityScan) (c : Char) : Except TargetFault AuthorityScan :=
  if c == '%' then .ok { s with percent := true, endsWithAt := false }
  else if !isAuthorityChar c then .error .character
  else if c == ':' then
    if s.colons ≥ 8 then .error .authority
    else .ok { s with colons := s.colons + 1, endsWithAt := false }
  else if c == '[' then
    if s.percent || s.opened then .error .authority
    else .ok { s with opened := true, endsWithAt := false }
  else if c == ']' then
    if !s.opened || s.closed then .error .authority
    else .ok { s with closed := true, colons := 0, percent := false, endsWithAt := false }
  else if c == '@' then .ok { s with colons := 0, percent := false, endsWithAt := true }
  else .ok { s with endsWithAt := false }

/-- Whether an authority is well formed: at most one colon is left for a port, brackets come in one
pair, something follows the last `@`, and there is no percent sign in the host. -/
def checkAuthority (l : List Char) : Except TargetFault Unit := do
  let s ← l.foldlM AuthorityScan.step {}
  if s.opened != s.closed || s.colons > 1 || s.endsWithAt || s.percent then .error .authority
  else .ok ()

/-- The scheme of a text that starts with one and `://`, and what follows. -/
def splitScheme (l : List Char) : Except TargetFault (Option String × List Char) :=
  let (before, after) := l.span isSchemeChar
  match after with
  | ':' :: '/' :: '/' :: rest =>
    let name := Text.lower (String.ofList before)
    if name == "http" || name == "https" then .ok (some name, rest)
    else if before.length > 64 then .error .schemeTooLong
    else if l.length ≤ 3 then .ok (none, l)
    else .ok (some (String.ofList before), rest)
  | _ => .ok (none, l)

/-- A target that does not start with a slash. -/
def parseFull (l : List Char) : Except TargetFault Target := do
  let (scheme, rest) ← splitScheme l
  let authority := rest.takeWhile (!endsAuthority ·)
  let after := rest.dropWhile (!endsAuthority ·)
  checkAuthority authority
  if scheme.isNone then
    if !after.isEmpty then .error .form
    else .ok ⟨none, some (String.ofList authority), "", none⟩
  else if authority.isEmpty then .error .form
  else
    let (path, query) ← pathAndQuery after
    .ok ⟨scheme, some (String.ofList authority), path, query⟩

/-- The target that a text denotes. -/
def parse (s : String) : Except TargetFault Target :=
  match s.toList with
  | [] => .error .empty
  | ['*'] => .ok ⟨none, none, "*", none⟩
  | c :: l =>
    if s.utf8ByteSize > 65534 then .error .tooLong
    else if c == '/' then do
      let (path, query) ← pathAndQuery (c :: l)
      .ok ⟨none, none, path, query⟩
    else parseFull (c :: l)

end Target

end AssetAccess.Http
