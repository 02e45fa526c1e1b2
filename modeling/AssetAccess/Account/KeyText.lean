import AssetAccess.Curve.Octets
import AssetAccess.Error
import AssetAccess.Json.Record
import AssetAccess.Text.Blank
import AssetAccess.Text.Decimal
/-!
# Keys of an account as JSON

A key is a record of the name of the curve, the coordinates of the public point and, in a private
key, the private scalar.  The numbers are decimal and stand as JSON numbers; a string of digits is
read as well, and so is an empty string, as 0.

Faults are looked for in this order: blank text, text that is no such record, another curve, a
missing or ill-formed scalar, one out of range, ill-formed coordinates, a point off the curve, and a
point that is not the one of the scalar.
-/

namespace AssetAccess.Account

open Curve

/-- The numbers of a key as they are written. -/
structure KeyText where
  x : List Char
  y : List Char
  d : Option (List Char)
deriving DecidableEq

namespace KeyText

/-- The names of the fields in the order in which they are written. -/
def fieldNames : List String := ["Curvname", "X", "Y", "D"]

/-- The text of a value, unless it is null. -/
def presentSource : Option Json.Tree → Option (List Char)
  | some .null | none => none
  | some t => some t.source

/-- The name of the curve and the numbers that a tree denotes. -/
def ofTree? (t : Json.Tree) : Option (String × KeyText) :=
  match Json.Record.fields? fieldNames t with
  | some [some curve, some x, some y, d] => do
    return (← curve.text?, ⟨x.source, y.source, presentSource d⟩)
  | _ => none

/-- Reads the text of a key. -/
def parse (s : String) : Except KeyFault KeyText :=
  if (Text.trim s.toList).isEmpty then .error .empty
  else match (Json.Tree.parse? s).bind ofTree? with
    | none => .error .notJson
    | some (curve, key) => if curve = Curve.name then .ok key else .error (.unsupportedCurve curve)

/-- The text without the quotes at either end. -/
def trimQuotes (l : List Char) : List Char :=
  ((l.dropWhile (· == '"')).reverse.dropWhile (· == '"')).reverse

/-- What every component is below: 2^256. -/
def componentBound : Nat := 1 <<< 256

/-- The 32 bytes of the number that a component denotes: any run of digits, also an empty one, below
2^256. -/
def component (source : List Char) : Except KeyFault (List UInt8) :=
  let text := trimQuotes source
  let n := Decimal.value text
  if text.all Decimal.isDigit && n < componentBound then .ok (octets n)
  else .error (.badComponent (String.ofList text))

/-- The public point of a key. -/
def point (k : KeyText) : Except KeyFault Point := do
  let x ← component k.x
  let y ← component k.y
  match Point.ofOctets? (Point.bothCoordinates :: (x ++ y)) with
  | some q => .ok q
  | none => .error .pointNotOnCurve

/-- The private scalar of a key, which must be that of its public point. -/
def scalar (k : KeyText) : Except KeyFault Nat := do
  match k.d with
  | none => .error .noPrivateComponent
  | some d =>
    let d := ofOctets (← component d)
    if !isScalar d then .error .scalarOutOfRange
    else
      let q ← k.point
      if q = publicPoint d then .ok d else .error .pointMismatch

end KeyText

/-- Fails as an unusable key. -/
def keyResult {α : Type} (r : Except KeyFault α) : Except Error α := r.mapError .invalidKey

/-- The private scalar that a text denotes. -/
def parsePrivateKey (s : String) : Except Error Nat :=
  keyResult (KeyText.parse s >>= KeyText.scalar)

/-- The public point that a text denotes.  A private key will do. -/
def parsePublicKey (s : String) : Except Error Point :=
  keyResult (KeyText.parse s >>= KeyText.point)

/-- The text of a key with this point and perhaps a scalar.  The coordinates are taken from the
bytes of the point; the point at infinity has none there, and is no key. -/
def keyText (q : Point) (d : Option Nat) : String :=
  let number (key : String) (l : List UInt8) : String × String := (key, Decimal.ofNat (ofOctets l))
  let coordinates := q.octets.drop 1
  Json.object
    ([("Curvname", Json.quoted Curve.name), number "X" (coordinates.take 32),
        number "Y" (coordinates.drop 32)]
      ++ d.toList.map fun d => number "D" (octets d))

/-- The text of the public key with this point. -/
def publicKeyText (q : Point) : String := keyText q none

/-- The text of the private key with this scalar. -/
def privateKeyText (d : Nat) : String := keyText (publicPoint d) (some d)

end AssetAccess.Account
