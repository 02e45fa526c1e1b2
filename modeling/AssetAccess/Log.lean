import AssetAccess.Text.Decimal
/-!
# Log events

What an operation reports beside its result.  No event carries a secret key or a signature.
-/

namespace AssetAccess

/-- How loud an event is. -/
inductive LogLevel where
  | debug
  | warn
deriving DecidableEq, Repr

/-- Something that an operation reports. -/
inductive LogEvent where
  | signed (accessKeyId signDate : String) (expireSeconds : Int) (signedHeaders : String)
  | verified (accessKeyId : String)
  | rejectedExpired (kind : String)
  | rejectedForged (kind : String)
  | rejected (kind : String)
  | sending (url : String)
  | received (url : String) (status : Nat) (traceId : String)
  | refusedStatus (url : String) (status : Nat) (traceId body : String)
  | undecodable (url traceId : String)
  | refusedByServer (url traceId requestId : String) (errno : Int64) (errmsg : String)
deriving DecidableEq, Repr

namespace LogEvent

/-- How loud an event is: failures warn, everything else is for debugging. -/
def level : LogEvent → LogLevel
  | .signed .. | .verified _ | .sending _ | .received .. => .debug
  | _ => .warn

/-- The sentence of an event.  Where a response cannot be decoded the reader's own words for what is
wrong with it are left out; they would follow the trace as ` Error: ` and a text. -/
def message : LogEvent → String
  | .signed .. => "signed request"
  | .verified _ => "authorization token verified"
  | .rejectedExpired _ => "rejected expired authorization token"
  | .rejectedForged _ => "rejected tampered or forged request"
  | .rejected _ => "rejected authorization token"
  | .sending url => "Sending request to: " ++ url
  | .received url .. => "Received response from " ++ url
  | .refusedStatus url status traceId body =>
    "Request to " ++ url ++ " failed with status: " ++ Decimal.ofNat status
      ++ ". trace_id: " ++ traceId ++ ". Response body: " ++ body
  | .undecodable url traceId =>
    "Undecodable response from " ++ url ++ ". trace_id: " ++ traceId ++ "."
  | .refusedByServer url traceId requestId errno errmsg =>
    "Request to " ++ url ++ " rejected. trace_id: " ++ traceId ++ ". request_id: " ++ requestId
      ++ ". errno: " ++ Decimal.ofInt errno.toInt ++ ". errmsg: " ++ errmsg

/-- The named values of an event. -/
def fields : LogEvent → List (String × String)
  | .signed accessKeyId signDate expireSeconds signedHeaders =>
    [("access_key_id", accessKeyId), ("sign_date", signDate),
     ("expire_seconds", Decimal.ofInt expireSeconds), ("signed_headers", signedHeaders)]
  | .verified accessKeyId => [("access_key_id", accessKeyId)]
  | .rejectedExpired kind | .rejectedForged kind | .rejected kind => [("kind", kind)]
  | .received _ status traceId => [("http_code", Decimal.ofNat status), ("trace_id", traceId)]
  | _ => []

end LogEvent

end AssetAccess
