import AssetAccess.Text.Decimal
import AssetAccess.Url.Host
import AssetAccess.Url.Path
/-!
# Authorities

The part of an address that names the server: a host, perhaps behind user information and an `@`,
and perhaps with a port behind it.  A port that the scheme implies is left out.
-/

namespace AssetAccess.Url

/-- The schemes of web addresses. -/
inductive Scheme where
  | http
  | https
deriving DecidableEq, Repr

namespace Scheme

/-- The name of a scheme. -/
def text : Scheme → String
  | .http => "http"
  | .https => "https"

/-- The port that a scheme implies. -/
def defaultPort : Scheme → Nat
  | .http => 80
  | .https => 443

/-- The scheme with this name, in any case. -/
def ofName? (name : String) : Option Scheme :=
  if Text.lower name = "http" then some .http
  else if Text.lower name = "https" then some .https
  else none

end Scheme

/-- The part of an address that names the server. -/
structure Authority where
  /-- User information as it is written, or nothing. -/
  user : String
  host : Host
  port : Option Nat
deriving DecidableEq, Repr

namespace Authority

/-- The written form of an authority. -/
def text (a : Authority) : String :=
  (if a.user.isEmpty then "" else a.user ++ "@") ++ a.host.text
    ++ (match a.port with | some n => ":" ++ Decimal.ofNat n | none => "")

/-- The bytes that user information may hold: not the marks that divide an address. -/
def isKept (b : UInt8) : Bool :=
  Path.isKept b && !([0x2F, 0x3A, 0x3B, 0x3D, 0x40, 0x5B, 0x5C, 0x5D, 0x5E, 0x7C].contains b)

/-- The written form of a name or a password. -/
def encodeUserText (l : List Char) : String :=
  Percent.encodeBytes isKept (Text.utf8 (String.ofList l))

/-- The written form of user information: a name and, behind a colon, a password if there is one. -/
def encodeUser (l : List Char) : String :=
  match Text.cutFirst ':' l with
  | (name, some (c :: password)) => encodeUserText name ++ ":" ++ encodeUserText (c :: password)
  | (name, _) => encodeUserText name

/-- Splits at the last `@`: what stands before it, or nothing, and what follows. -/
def splitUser (l : List Char) : List Char × List Char :=
  match l.reverse.span (· != '@') with
  | (after, _ :: before) => (before.reverse, after.reverse)
  | (_, []) => ([], l)

/-- Splits at the first colon that is not between brackets. -/
def splitHost (inside : Bool) : List Char → List Char × Option (List Char)
  | [] => ([], none)
  | c :: l =>
    if c = ':' ∧ !inside then ([], some l)
    else
      let (host, port) := splitHost (c == '[' || (inside && c != ']')) l
      (c :: host, port)

/-- The port that a text denotes; none for an empty text and for the port that is implied. -/
def parsePort (implied : Nat) (l : List Char) : Except Fault (Option Nat) :=
  if l.isEmpty then .ok none
  else match Decimal.nat? l with
    | some n => if n ≤ 65535 then .ok (if n = implied then none else some n) else .error .port
    | none => .error .port

/-- The authority that a text denotes under a scheme. -/
def parse (scheme : Scheme) (l : List Char) : Except Fault Authority := do
  let (user, server) := splitUser l
  let (hostText, portText) := splitHost false server
  let host ← Host.parse hostText
  let port ← parsePort scheme.defaultPort (portText.getD [])
  return { user := encodeUser user, host, port }

end Authority

end AssetAccess.Url
