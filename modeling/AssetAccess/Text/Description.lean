import AssetAccess.Text.CharClass
import AssetAccess.Text.Hex
/-!
# Descriptions

A description is the text of a value that is meant for a person reading a log: the name of a record
and its fields, with texts in quotes.  A quoted text shows every character as itself that can be
told from its neighbours on paper, and an escape for any other.
-/

namespace AssetAccess.Text

/-- The escape of a character by its number in hexadecimal. -/
def numberEscape (c : Char) : List Char :=
  ['\\', 'u', '\x7b'] ++ (Nat.toDigits 16 c.toNat) ++ ['\x7d']

/-- The written form of a character between quotes. -/
def escapeChar (c : Char) : List Char :=
  match c with
  | '\x00' => ['\\', '0']
  | '\t' => ['\\', 't']
  | '\r' => ['\\', 'r']
  | '\n' => ['\\', 'n']
  | '"' => ['\\', '"']
  | '\\' => ['\\', '\\']
  | _ => if isExtender c || !isPrintable c then numberEscape c else [c]

/-- A text in quotes. -/
def quoted (s : String) : String := "\"" ++ String.ofList (s.toList.flatMap escapeChar) ++ "\""

/-- A list of descriptions between braces. -/
def braced (l : List String) : String := "\x7b" ++ ", ".intercalate l ++ "\x7d"

/-- The description of a value that may be absent. -/
def optional : Option String → String
  | some s => "Some(" ++ s ++ ")"
  | none => "None"

/-- The description of a record with these fields. -/
def record (name : String) (fields : List (String × String)) : String :=
  name ++ " \x7b " ++ ", ".intercalate (fields.map fun (key, value) => key ++ ": " ++ value)
    ++ " \x7d"

end AssetAccess.Text
