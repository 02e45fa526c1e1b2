import AssetAccess.Auth.NameSet
import AssetAccess.Http.Fields
import AssetAccess.Text.Percent
import AssetAccess.Text.Sorted
/-!
# Covered headers

A signature covers the headers that a request carries out of a set of names.  The host is always
among them, and the header of the token itself never is.  Several values of one name count as one
value, joined by semicolons and then stripped of ASCII blanks at both ends.
-/

namespace AssetAccess.Auth.Coverage

open Http

/-- Whether a signature made with these names covers a header. -/
def covers (names : NameSet) (n : FieldName) : Bool :=
  n != .authorization && (n == .host || names.contains n.text)

/-- The headers of a request that a signature made with these names covers. -/
def coveredNames (fields : Fields) (names : NameSet) : List FieldName :=
  fields.names.filter (covers names)

/-- The signed value of a header: all its values as one. -/
def signedValue (fields : Fields) (n : FieldName) : List UInt8 :=
  Text.trimBlanks ([0x3B].intercalate ((fields.values n).map (·.bytes)))

/-- The line of the canonical block for a header and its signed value. -/
def line (name : String) (value : List UInt8) : String :=
  Percent.encode name true ++ ":" ++ Percent.encodeBytes (Percent.keptWhenSigned true) value

/-- The canonical block: a line for each covered header, in ascending order. -/
def block (fields : Fields) (names : NameSet) : String :=
  "\n".intercalate (Text.sorted
    ((coveredNames fields names).map fun n => line n.text (signedValue fields n)))

/-- The names of the covered headers in ascending order. -/
def signedNames (fields : Fields) (names : NameSet) : List String :=
  Text.sorted ((coveredNames fields names).map (·.text))

end AssetAccess.Auth.Coverage
