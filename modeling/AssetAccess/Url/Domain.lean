import AssetAccess.Url.Label
/-!
# Domain names

A domain name is made of labels between full stops, and is written with ASCII alone.  A label that
holds other characters is written in its coded form, behind `xn--`; a label that comes in coded form
has to be one that would be written so.
-/

namespace AssetAccess.Url.Domain

/-- The greatest length of a coded form that is read. -/
def maxCoded : Nat := 2000

/-- Whether `coded` is the coded form of `label`. -/
def isCodedForm (label coded : List Char) : Bool :=
  !label.all Punycode.isAscii && Punycode.encode label == coded
    && Punycode.decode? coded == some label

/-- The label that a piece of a name in normal form stands for. -/
def readLabel? : List Char → Option (List Char)
  | 'x' :: 'n' :: '-' :: '-' :: coded => do
    let label ← Punycode.decode? coded
    if coded.all Punycode.isAscii && coded.length ≤ maxCoded && isCodedForm label coded then
      some label
    else none
  | piece => some piece

/-- The written form of a label. -/
def writeLabel? (label : List Char) : Option (List Char) :=
  if label.all Punycode.isAscii then some label
  else
    let coded := Punycode.encode label
    if isCodedForm label coded then some ('x' :: 'n' :: '-' :: '-' :: coded) else none

/-- Whether labels make up a name: each is well formed, and if any of them holds a letter written
from right to left, each runs in one direction. -/
def isName (labels : List (List Char)) : Bool :=
  labels.all Label.isWellFormed
    && (!labels.any (·.any Label.turnsLeft) || labels.all Label.runsOneWay)

/-- The ASCII form of a domain name. -/
def ascii? (l : List Char) : Option (List Char) := do
  let normal ← Label.normal? l
  let labels ← (normal.splitOn '.').mapM readLabel?
  if isName labels then
    let written ← labels.mapM writeLabel?
    some (['.'].intercalate written)
  else none

end AssetAccess.Url.Domain
