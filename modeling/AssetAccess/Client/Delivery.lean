import AssetAccess.Client.Envelope
import AssetAccess.Http.Request
import AssetAccess.Log
import AssetAccess.Url.Address
/-!
# Deliveries

What becomes of a request that is sent, and what the client makes of the response.

A request changes on its way: its address is brought to normal form once more, and the blanks around
header values are lost.  The signature does not depend on either.
-/

namespace AssetAccess.Client

open Http

/-- A response of the service.  Its body is a text already: the transport decodes the bytes, in the
charset that a byte order mark or else the content type names, and in UTF-8 if neither does. -/
structure Response where
  status : Nat
  fields : Fields := {}
  body : String := ""
deriving DecidableEq

namespace Response

/-- The text of a response.  Two kinds of response have no body, whatever follows them. -/
def text (r : Response) : String := if r.status = 204 ∨ r.status = 304 then "" else r.body

end Response

/-- What becomes of a request in the end.  Where the service refers it elsewhere the transport goes
on there, and the response is the last one. -/
inductive Delivery where
  /-- No connection can be made, or no response can be read. -/
  | unreachable
  /-- The service gets the request, and closes the connection without an answer. -/
  | closed
  | answered (response : Response)
deriving DecidableEq

/-- The header fields without the blanks around their values. -/
def trimmedFields (f : Fields) : Fields := ⟨f.entries.map fun (n, v) => (n, v.trimmed)⟩

/-- The request as it leaves the client: its address is read once more and brought to normal form.
Nothing is sent if that fails. -/
def sentForm (r : Request) : Except Error Request :=
  match Url.parse r.target.text with
  | .error _ => .error .http
  | .ok url => match Target.parse url.text with
    | .error _ => .error .http
    | .ok target => .ok { r with target, fields := trimmedFields r.fields }

/-- A response as callers see it. -/
structure Reply where
  status : Nat
  url : String
  fields : Fields
  body : String
deriving DecidableEq

namespace Reply

/-- The reply to a request to `url`. -/
def of (url : String) (r : Response) : Reply := ⟨r.status, url, trimmedFields r.fields, r.text⟩

/-- The name under which the service traced the call, or `0` if it gives none in plain text. -/
def traceId (r : Reply) : String := ((r.fields.first? .traceId).bind FieldValue.text?).getD "0"

/-- The event that reports a reply. -/
def received (r : Reply) : LogEvent := .received r.url r.status r.traceId

end Reply

end AssetAccess.Client
