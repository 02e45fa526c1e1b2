import AssetAccess.Text.Decimal
import AssetAccess.Text.Hex
/-!
# Addresses of 128 bits

Eight pieces of 16 bits, written in hexadecimal between colons.  Two colons once stand for a run of
zero pieces, and the last two pieces may be written as four decimal bytes.  The longest run of two
or more zero pieces is written as two colons, the first of them if several are longest.
-/

namespace AssetAccess.Url

/-- An address of 128 bits. -/
structure Ipv6 where
  pieces : List UInt16
  length_pieces : pieces.length = 8
deriving DecidableEq, Repr

namespace Ipv6

/-- The value of one to four hexadecimal digits. -/
def piece? (l : List Char) : Option UInt16 := do
  if l.isEmpty || l.length > 4 then none
  let digits ← l.mapM Hex.value?
  some (UInt16.ofNat (digits.foldl (fun n d => 16 * n + d) 0))

/-- The value of a decimal byte without zeros in front. -/
def byte? (l : List Char) : Option Nat := do
  let n ← Decimal.nat? l
  if n < 256 && (l.length == 1 || l.head? != some '0') then some n else none

/-- The two pieces that four decimal bytes between full stops denote. -/
def bytePieces? (l : List Char) : Option (List UInt16) := do
  match ← (l.splitOn '.').mapM byte? with
  | [a, b, c, d] => some [UInt16.ofNat (256 * a + b), UInt16.ofNat (256 * c + d)]
  | _ => none

/-- The pieces that groups denote.  The last group may hold decimal bytes if it is `final`, that is,
if the address ends with it. -/
def groups? (final : Bool) : List (List Char) → Option (List UInt16)
  | [] => some []
  | [g] => if final && g.contains '.' then bytePieces? g else (piece? g).map ([·])
  | g :: l => do
    let p ← piece? g
    let ps ← groups? final l
    some (p :: ps)

/-- The pieces of a text between colons; none for an empty text. -/
def piecesOf? (final : Bool) (l : List Char) : Option (List UInt16) :=
  if l.isEmpty then some [] else groups? final (l.splitOn ':')

/-- Splits at the first two colons that stand together. -/
def cutRun : List Char → List Char × Option (List Char)
  | ':' :: ':' :: l => ([], some l)
  | c :: l => (c :: (cutRun l).1, (cutRun l).2)
  | [] => ([], none)

/-- The eight pieces that a text denotes, as far as they come out as eight. -/
def allPieces? (l : List Char) : Option (List UInt16) :=
  match cutRun l with
  | (_, none) => groups? true (l.splitOn ':')
  | (before, some after) => do
    let left ← piecesOf? false before
    let right ← piecesOf? true after
    let count := left.length + right.length
    if count ≤ 7 then some (left ++ List.replicate (8 - count) 0 ++ right) else none

/-- The address that a text denotes. -/
def parse? (l : List Char) : Option Ipv6 := do
  let pieces ← allPieces? l
  if h : pieces.length = 8 then some ⟨pieces, h⟩ else none

/-- How many pieces are zero from a place on. -/
def zerosAt (pieces : List UInt16) (i : Nat) : Nat := ((pieces.drop i).takeWhile (· == 0)).length

/-- The first place where the longest run of zero pieces starts. -/
def longestRun (pieces : List UInt16) : Nat :=
  (List.range 8).foldl (fun best i => if zerosAt pieces best < zerosAt pieces i then i else best) 0

/-- The written form of some pieces. -/
def piecesText (pieces : List UInt16) : String :=
  ":".intercalate (pieces.map fun p => String.ofList (Nat.toDigits 16 p.toNat))

/-- The written form of an address. -/
def text (a : Ipv6) : String :=
  let start := longestRun a.pieces
  let count := zerosAt a.pieces start
  if count < 2 then piecesText a.pieces
  else piecesText (a.pieces.take start) ++ "::" ++ piecesText (a.pieces.drop (start + count))

end Ipv6

end AssetAccess.Url
