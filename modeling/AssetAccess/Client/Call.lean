import AssetAccess.Auth.Description
import AssetAccess.Client.Delivery
import AssetAccess.Client.Settings
import AssetAccess.Digest.Md5
/-!
# Calls

A client sends forms to the service.  `build` makes the signed request for a call and `post` sends
it; `postForm` also takes the reply apart: it gives a value only if the status is 200, the envelope
can be read and its error number is 0.
-/

namespace AssetAccess

open Http Auth Client

/-- A client of the service. -/
structure Client where
  endpoint : String
  userAgent : String
  credentials : Credentials
  signOptions : SignOptions := {}
deriving DecidableEq

namespace Client

/-- The type of every body. -/
def formContentType : String := "application/x-www-form-urlencoded;charset=utf-8"

/-- The text without the slashes at its end. -/
def trimSlashes (s : String) : String :=
  String.ofList (s.toList.reverse.dropWhile (· == '/')).reverse

/-- A client with these settings, if they can be used. -/
def ofSettings (s : Settings) : Except Error Client := do
  let credentials ← s.validate
  return { endpoint := trimSlashes s.endpoint, userAgent := s.userAgent, credentials
           signOptions := s.signOptions }

/-- What signs the requests of a client. -/
def signer (c : Client) : Signer := ⟨c.credentials, c.signOptions⟩

/-- The description of a client. -/
def describe (c : Client) : String :=
  Text.record "XassetClient"
    [("endpoint", Text.quoted c.endpoint), ("user_agent", Text.quoted c.userAgent),
     ("credentials", c.credentials.describe)]

/-! ### Requests -/

/-- A header value with this text. -/
def fieldValue (s : String) : Except RequestFault FieldValue :=
  match FieldValue.ofString? s with
  | some v => .ok v
  | none => .error .fieldValue

/-- The headers of a request to `host`, before it is signed. -/
def draftFields (c : Client) (host : String) (second : Int) (body : String) :
    Except RequestFault Fields := do
  let contentType ← fieldValue formContentType
  let host ← fieldValue host
  let timestamp ← fieldValue (Decimal.ofInt second)
  let contentMd5 ← fieldValue (Hex.encode (Md5.digest (Text.utf8 body)))
  let userAgent ← fieldValue c.userAgent
  return ⟨[(.contentType, contentType), (.host, host), (.timestamp, timestamp),
    (.contentMd5, contentMd5), (.userAgent, userAgent)]⟩

/-- The request to an address, before it is signed. -/
def draft (c : Client) (url : Url) (second : Int) (body : String) :
    Except RequestFault Request := do
  let target ← (Target.parse url.text).mapError .target
  let fields ← c.draftFields url.authority.host.text second body
  return { method := .post, target, fields, body }

/-- The signed request for a call.  The clock is read for the timestamp as soon as the address is
known to be good, and once more for the signature. -/
def build (c : Client) (uri body : String) : Action Request := do
  match Url.parse (c.endpoint ++ uri) with
  | .error fault => throw (.invalidParam (.badUrl fault))
  | .ok url =>
    let second ← Action.unixSecond
    match c.draft url second body with
    | .error fault => throw (.invalidParam (.badRequest fault))
    | .ok request => c.signer.authorize request

/-! ### Replies -/

/-- Sends the signed request for a call, where `service` says what becomes of a request. -/
def post (c : Client) (service : Request → Delivery) (uri body : String) : Action Reply := do
  let request ← c.build uri body
  let url := request.target.text
  Action.report (.sending url)
  let sent ← Action.ofExcept (sentForm request)
  match service sent with
  | .unreachable | .closed => throw .http
  | .answered response =>
    let reply := Reply.of url response
    Action.report reply.received
    return reply

/-- The value in a reply, where `decode` reads it from the body. -/
def unwrap {α : Type} (decode : String → Option α) (r : Reply) : Action α := do
  if r.status ≠ 200 then
    Action.report (.refusedStatus r.url r.status r.traceId r.body)
    throw (.unexpectedStatus r.status r.body)
  match Envelope.parse? r.body with
  | none =>
    Action.report (.undecodable r.url r.traceId)
    throw .json
  | some envelope =>
    if envelope.errno ≠ 0 then
      Action.report
        (.refusedByServer r.url r.traceId envelope.requestId envelope.errno envelope.errmsg)
      throw (.server envelope.errno envelope.errmsg envelope.requestId)
    match decode r.body with
    | some a => return a
    | none => throw .json

/-- Sends the signed request for a call and gives the value in the reply. -/
def postForm {α : Type} (c : Client) (service : Request → Delivery) (decode : String → Option α)
    (uri body : String) : Action α := do
  let reply ← c.post service uri body
  unwrap decode reply

end Client

end AssetAccess
