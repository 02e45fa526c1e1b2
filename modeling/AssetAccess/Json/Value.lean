import AssetAccess.Json.Tree
/-!
# JSON values

What a JSON text denotes when all of it is read: every string is decoded, every number has to be
within reach of a 64-bit integer or float, and containers are nested at most 127 deep.

An object can wrap a text.  It starts with a key that is kept for this, holds nothing but a string,
and denotes the value of the text in the string, which is nested afresh.  Wrapping is known where a
text is read into a value and nowhere else: a reader that only passes the tree on takes such an
object for any other.
-/

namespace AssetAccess.Json

/-- A decoded JSON value.  The members of an object have different keys. -/
inductive Value where
  | null
  | bool (b : Bool)
  | integer (n : Int)
  | float (f : Float64)
  | string (s : String)
  | array (items : List Value)
  | object (members : List (String × Value))

/-- How deep containers may be nested where values are read. -/
def maxDepth : Nat := 127

namespace Value

/-- The value of a number: an integer where it is written as one and fits 64 bits, with or without
a sign, and otherwise a float. -/
def ofNumber? (text : List Char) : Option Value :=
  match NumberText.int? text with
  | some n =>
    if -9223372036854775808 ≤ n && n ≤ 18446744073709551615 then some (.integer n)
    else (NumberText.float? text).map .float
  | none => (NumberText.float? text).map .float

/-- The members without those that a later one with the same key replaces. -/
def lastOfEach : List (String × Value) → List (String × Value)
  | [] => []
  | m :: l => if l.any (·.1 = m.1) then lastOfEach l else m :: lastOfEach l

/-! ### Wrapped texts -/

/-- The first key of an object that wraps a text. -/
def wrapKey : String := "$serde_json::private::RawValue"

/-- Whether an object wraps a text, as its first key says. -/
def isWrapper : List (List Char × Tree) → Bool
  | [] => false
  | (key, _) :: _ => StringText.decode? key = some wrapKey.toList

/-- The text that an object wraps, if it holds one and nothing else. -/
def wrapped? : List (List Char × Tree) → Option String
  | [(_, .string inside)] => (StringText.decode? inside).map String.ofList
  | _ => none

/-! ### Trees and texts -/

mutual

/-- The value of a tree in which containers are nested at most `depth` deep, where `unwrap?` reads
wrapped texts.  Without it no object wraps a text. -/
def ofTree? (unwrap? : Option (String → Option Value)) (depth : Nat) : Tree → Option Value
  | .null => some .null
  | .bool b => some (.bool b)
  | .number text => ofNumber? text
  | .string inside => (StringText.decode? inside).map fun l => .string (String.ofList l)
  | .array _ items =>
    match depth with
    | 0 => none
    | depth + 1 => (ofItems? unwrap? depth items).map .array
  | .object _ members =>
    match depth with
    | 0 => none
    | depth + 1 =>
      match unwrap?.filter fun _ => isWrapper members with
      | some value? => (wrapped? members).bind value?
      | none => (ofMembers? unwrap? depth members).map fun l => .object (lastOfEach l)

/-- The values of the items of an array. -/
def ofItems? (unwrap? : Option (String → Option Value)) (depth : Nat) :
    List Tree → Option (List Value)
  | [] => some []
  | t :: l => do
    let v ← ofTree? unwrap? depth t
    let vs ← ofItems? unwrap? depth l
    return v :: vs

/-- The values of the members of an object. -/
def ofMembers? (unwrap? : Option (String → Option Value)) (depth : Nat) :
    List (List Char × Tree) → Option (List (String × Value))
  | [] => some []
  | (key, t) :: l => do
    let key ← StringText.decode? key
    let v ← ofTree? unwrap? depth t
    let vs ← ofMembers? unwrap? depth l
    return (String.ofList key, v) :: vs

end

/-- The value of a text that wraps texts in one another less than `fuel` times. -/
def ofText? : Nat → String → Option Value
  | 0, _ => none
  | fuel + 1, s => do ofTree? (some (ofText? fuel)) maxDepth (← Tree.parse? s)

/-- The value of a text.  What a text wraps is shorter, so its length is fuel enough. -/
def parse? (s : String) : Option Value := ofText? (s.length + 1) s

end Value

end AssetAccess.Json
