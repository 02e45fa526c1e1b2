import AssetAccess.Error
import AssetAccess.Json.Value
import AssetAccess.Json.Record
/-!
# Response envelopes

Every response of the service holds the same three fields beside its payload: the name of the
request, an error number, which is 0 on success, and an error text.  A field that is missing counts
as empty or 0.
-/

namespace AssetAccess.Client

/-- The fields that every response holds. -/
structure Envelope where
  requestId : String := ""
  errno : Int64 := 0
  errmsg : String := ""
deriving DecidableEq, Repr

namespace Envelope

/-- The names of the fields in the order in which they are written. -/
def fieldNames : List String := ["request_id", "errno", "errmsg"]

/-- The envelope as a JSON text. -/
def toJson (e : Envelope) : String :=
  Json.object
    [("request_id", Json.quoted e.requestId), ("errno", Decimal.ofInt e.errno.toInt),
     ("errmsg", Json.quoted e.errmsg)]

/-- The envelope with these values for its fields, the default where one is missing. -/
def ofFields? (requestId errno errmsg : Option Json.Tree) : Option Envelope := do
  let requestId ← requestId.elim (some "") Json.Tree.text?
  let errno ← errno.elim (some 0) Json.Tree.int64?
  let errmsg ← errmsg.elim (some "") Json.Tree.text?
  return { requestId, errno, errmsg }

/-- The envelope that a tree denotes. -/
def ofTree? (t : Json.Tree) : Option Envelope :=
  match Json.Record.fields? fieldNames t with
  | some [requestId, errno, errmsg] => ofFields? requestId errno errmsg
  | _ => none

/-- The envelope of a JSON text. -/
def parse? (s : String) : Option Envelope := (Json.Tree.parse? s).bind ofTree?

/-- Reads an envelope from a JSON text. -/
def ofJson (s : String) : Except Error Envelope :=
  match parse? s with
  | some e => .ok e
  | none => .error .json

end Envelope

/-- A response that grants access to a store: the envelope, and beside it the access information. -/
structure AccessGrant where
  envelope : Envelope
  accessInfo : String
deriving DecidableEq, Repr

namespace AccessGrant

/-- The grant that a tree denotes.  All of the tree is read into values, it must be an object, and
no field may occur twice. -/
def ofTree? (t : Json.Tree) : Option AccessGrant :=
  match t, Json.Value.ofTree? none Json.maxDepth t with
  | .object _ members, some _ =>
    match Json.Record.ofObject? ("access_info" :: Envelope.fieldNames) members with
    | some [some accessInfo, requestId, errno, errmsg] => do
      let accessInfo ← accessInfo.text?
      let envelope ← Envelope.ofFields? requestId errno errmsg
      return { envelope, accessInfo }
    | _ => none
  | _, _ => none

/-- The grant of a JSON text. -/
def parse? (s : String) : Option AccessGrant := (Json.Tree.parse? s).bind ofTree?

end AccessGrant

end AssetAccess.Client
