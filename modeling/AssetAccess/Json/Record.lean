import AssetAccess.Json.Tree
/-!
# JSON records

A record has a fixed list of fields.  It is written as an object, in which other members are ignored
and no field may occur twice, or as an array of the values of its fields in order, in which the last
ones may be missing.
-/

namespace AssetAccess.Json

/-- The text that a tree denotes, if it is a string. -/
def Tree.text? : Tree → Option String
  | .string inside => (StringText.decode? inside).map String.ofList
  | _ => none

/-- The integer that a tree denotes, if it is written as one and fits 64 bits with a sign. -/
def Tree.int64? : Tree → Option Int64
  | .number text => NumberText.int64? text
  | _ => none

namespace Record

/-- The members with their keys decoded, if every key can be. -/
def decodeKeys? (members : List (List Char × Tree)) : Option (List (String × Tree)) :=
  members.mapM fun (key, value) => do return (String.ofList (← StringText.decode? key), value)

/-- The value of the only member with this key: `some none` if there is none, and `none` if there
are several. -/
def only? (members : List (String × Tree)) (key : String) : Option (Option Tree) :=
  match members.filter (·.1 = key) with
  | [] => some none
  | [(_, value)] => some (some value)
  | _ => none

/-- The values of the fields with these names, as far as an object gives them. -/
def ofObject? (names : List String) (members : List (List Char × Tree)) :
    Option (List (Option Tree)) := do
  let members ← decodeKeys? members
  names.mapM (only? members)

/-- The values of the fields with these names, as far as a tree gives them. -/
def fields? (names : List String) : Tree → Option (List (Option Tree))
  | .object _ members => ofObject? names members
  | .array _ items =>
    if items.length ≤ names.length then
      some (items.map some ++ List.replicate (names.length - items.length) none)
    else none
  | _ => none

end Record

end AssetAccess.Json
