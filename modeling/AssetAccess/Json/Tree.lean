import AssetAccess.Json.NumberText
import AssetAccess.Json.StringText
/-!
# JSON as it is written

A `Tree` is the form of a JSON text before anything in it is decoded: numbers and the insides of
strings are kept as they stand, members keep their order and may repeat, and nesting has no limit.
What is ignored in a text only has to have this form.
-/

namespace AssetAccess.Json

/-- A JSON text, undecoded.  Arrays and objects carry the text that they were read from. -/
inductive Tree where
  | null
  | bool (b : Bool)
  | number (text : List Char)
  | string (inside : List Char)
  | array (source : List Char) (items : List Tree)
  | object (source : List Char) (members : List (List Char × Tree))

/-- The text that a tree was read from. -/
def Tree.source : Tree → List Char
  | .null => ['n', 'u', 'l', 'l']
  | .bool true => ['t', 'r', 'u', 'e']
  | .bool false => ['f', 'a', 'l', 's', 'e']
  | .number text => text
  | .string inside => '"' :: inside ++ ['"']
  | .array source _ | .object source _ => source

/-- The white space of JSON: space, tab, line feed and carriage return. -/
def isSpace (c : Char) : Bool := c == ' ' || c == '\t' || c == '\n' || c == '\r'

/-- The text without the white space at its start. -/
def skipSpace (l : List Char) : List Char := l.dropWhile isSpace

/-- What was read of `l` when `rest` is left. -/
def consumed (l rest : List Char) : List Char := l.take (l.length - rest.length)

namespace Tree

mutual

/-- Reads a value at the start of a text.  Each step down or on uses up a unit of `fuel`, and also
at least one character, so the length of the text is enough. -/
def read : Nat → List Char → Option (Tree × List Char)
  | 0, _ => none
  | fuel + 1, l =>
    match l with
    | '"' :: r => (StringText.scan r).map fun (inside, rest) => (.string inside, rest)
    | '[' :: r => do
      let (items, rest) ← match skipSpace r with
        | ']' :: rest => some ([], rest)
        | r => readItems fuel r
      some (.array (consumed l rest) items, rest)
    | '{' :: r => do
      let (members, rest) ← match skipSpace r with
        | '}' :: rest => some ([], rest)
        | r => readMembers fuel r
      some (.object (consumed l rest) members, rest)
    | 'n' :: 'u' :: 'l' :: 'l' :: rest => some (.null, rest)
    | 't' :: 'r' :: 'u' :: 'e' :: rest => some (.bool true, rest)
    | 'f' :: 'a' :: 'l' :: 's' :: 'e' :: rest => some (.bool false, rest)
    | l => (NumberText.scan l).map fun (text, rest) => (.number text, rest)

/-- Reads one item or more, up to the bracket that closes an array. -/
def readItems : Nat → List Char → Option (List Tree × List Char)
  | 0, _ => none
  | fuel + 1, l => do
    let (item, r) ← read fuel l
    match skipSpace r with
    | ']' :: rest => some ([item], rest)
    | ',' :: r =>
      let (items, rest) ← readItems fuel (skipSpace r)
      some (item :: items, rest)
    | _ => none

/-- Reads one member or more, up to the brace that closes an object. -/
def readMembers : Nat → List Char → Option (List (List Char × Tree) × List Char)
  | 0, _ => none
  | fuel + 1, l =>
    match l with
    | '"' :: r => do
      let (key, r) ← StringText.scan r
      match skipSpace r with
      | ':' :: r =>
        let (value, r) ← read fuel (skipSpace r)
        match skipSpace r with
        | '}' :: rest => some ([(key, value)], rest)
        | ',' :: r =>
          let (members, rest) ← readMembers fuel (skipSpace r)
          some ((key, value) :: members, rest)
        | _ => none
      | _ => none
    | _ => none

end

/-- The tree of a text that holds one value and white space around it. -/
def parse? (s : String) : Option Tree := do
  let l := skipSpace s.toList
  let (tree, rest) ← read (l.length + 1) l
  if (skipSpace rest).isEmpty then some tree else none

end Tree

end AssetAccess.Json
