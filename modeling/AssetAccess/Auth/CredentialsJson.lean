import AssetAccess.Auth.Credentials
import AssetAccess.Json.Record
/-! # Credentials as JSON -/

namespace AssetAccess.Auth.Credentials

/-- The names of the fields in the order in which they are written. -/
def fieldNames : List String := ["app_id", "access_key_id", "secret_access_key"]

/-- The credentials as a JSON text, the secret included. -/
def toJson (c : Credentials) : String :=
  Json.object
    [("app_id", Decimal.ofInt c.appId.toInt), ("access_key_id", Json.quoted c.accessKeyId),
     ("secret_access_key", Json.quoted c.secretAccessKey)]

/-- The credentials that a tree denotes; all three fields are required. -/
def ofTree? (t : Json.Tree) : Option Credentials :=
  match Json.Record.fields? fieldNames t with
  | some [some appId, some accessKeyId, some secretAccessKey] => do
    return ⟨← appId.int64?, ← accessKeyId.text?, ← secretAccessKey.text?⟩
  | _ => none

/-- Reads credentials from a JSON text. -/
def ofJson (s : String) : Except Error Credentials :=
  match (Json.Tree.parse? s).bind ofTree? with
  | some c => .ok c
  | none => .error .json

end AssetAccess.Auth.Credentials
