import AssetAccess.Error
import AssetAccess.Json.Record
/-! # Key pairs of an account -/

namespace AssetAccess.Account

/-- The two keys of an account, each as the JSON text in which it travels. -/
structure KeyPair where
  privateKey : String
  publicKey : String
deriving DecidableEq, Repr

namespace KeyPair

/-- The names of the fields in the order in which they are written. -/
def fieldNames : List String := ["private_key", "public_key"]

/-- The pair as a JSON text, whose strings are JSON texts themselves. -/
def toJson (k : KeyPair) : String :=
  Json.object [("private_key", Json.quoted k.privateKey), ("public_key", Json.quoted k.publicKey)]

/-- The pair that a tree denotes; both fields are required. -/
def ofTree? (t : Json.Tree) : Option KeyPair :=
  match Json.Record.fields? fieldNames t with
  | some [some privateKey, some publicKey] => do
    return ⟨← privateKey.text?, ← publicKey.text?⟩
  | _ => none

/-- Reads a pair from a JSON text. -/
def ofJson (s : String) : Except Error KeyPair :=
  match (Json.Tree.parse? s).bind ofTree? with
  | some k => .ok k
  | none => .error .json

end KeyPair

end AssetAccess.Account
