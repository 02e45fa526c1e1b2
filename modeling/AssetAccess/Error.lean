import AssetAccess.Http.Target
import AssetAccess.Text.Decimal
import AssetAccess.Url.Fault
/-!
# Errors

Every failure is a value of `Error`.  Its constructors are the kinds that callers tell apart; a kind
with several causes carries the cause.  All wording stands in the `message` functions below.
-/

namespace AssetAccess

/-- Why a request cannot be built. -/
inductive RequestFault where
  | target (fault : Http.TargetFault)
  | fieldValue
deriving DecidableEq, Repr

/-- What is wrong with a value that the caller supplied. -/
inductive ParamFault where
  | emptyAccessKeyId
  | emptySecretAccessKey
  | noHost
  | timestampOutOfRange (timestamp : Int)
  | tokenNotFieldValue
  | badUrl (fault : Url.Fault)
  | badRequest (fault : RequestFault)
  /-- A cause in the caller's own words. -/
  | stated (text : String)
deriving DecidableEq, Repr

/-- What is wrong with the settings of a client. -/
inductive ConfigFault where
  | emptyEndpoint
  | endpointScheme
  | noCredentials
  | emptyAccessKeyId
  | emptySecretAccessKey
  | appIdNotInteger (text : String)
  /-- A cause in the caller's own words. -/
  | stated (text : String)
deriving DecidableEq, Repr

/-- What is wrong with the text of an account key. -/
inductive KeyFault where
  | empty
  | notJson
  | unsupportedCurve (name : String)
  | noPrivateComponent
  | badComponent (text : String)
  | scalarOutOfRange
  | pointNotOnCurve
  | pointMismatch
  | signingFailed
  /-- A cause in the caller's own words. -/
  | stated (text : String)
deriving DecidableEq, Repr

/-- What is wrong with the text of an account signature. -/
inductive SignatureFault where
  | notHex
  | notDer
  /-- A cause in the caller's own words. -/
  | stated (text : String)
deriving DecidableEq, Repr

/-- Every way in which the library fails. -/
inductive Error where
  | invalidParam (fault : ParamFault)
  | config (fault : ConfigFault)
  | malformedToken
  | unsupportedVersion
  | expirationOutOfRange
  | badDateField
  | expired
  | missingHost
  | signatureMismatch
  | invalidKey (fault : KeyFault)
  | invalidSignature (fault : SignatureFault)
  | http
  | json
  | unexpectedStatus (status : Nat) (body : String)
  | server (errno : Int64) (errmsg requestId : String)
deriving DecidableEq, Repr

/-- How callers usually react to an error: it lies in the form of a token, in the trust that the
token deserves, or elsewhere. -/
inductive ErrorClass where
  | format
  | trust
  | other
deriving DecidableEq, Repr

/-! ### Wording -/

/-- The wording of a fault. -/
def RequestFault.message : RequestFault → String
  | .target fault => fault.message
  | .fieldValue => "failed to parse header value"

/-- The wording of a fault. -/
def ParamFault.message : ParamFault → String
  | .emptyAccessKeyId => "access key id is empty"
  | .emptySecretAccessKey => "secret access key is empty"
  | .noHost => "request has no host header"
  | .timestampOutOfRange t => "timestamp " ++ Decimal.ofInt t ++ " out of range"
  | .tokenNotFieldValue =>
    "token is not a valid header value: " ++ RequestFault.fieldValue.message
  | .badUrl fault => "bad request url: " ++ fault.message
  | .badRequest fault => "bad request: " ++ fault.message
  | .stated text => text

/-- The wording of a fault. -/
def ConfigFault.message : ConfigFault → String
  | .emptyEndpoint => "Endpoint cannot be empty"
  | .endpointScheme => "Endpoint must start with http:// or https://"
  | .noCredentials => "Credentials are not set"
  | .emptyAccessKeyId => "Access key id cannot be empty"
  | .emptySecretAccessKey => "Secret access key cannot be empty"
  | .appIdNotInteger text => "XASSET_APP_ID is not an integer: " ++ text
  | .stated text => text

/-- The wording of a fault. -/
def KeyFault.message : KeyFault → String
  | .empty => "key is empty"
  | .notJson => "key is not valid JSON"
  | .unsupportedCurve name => "unsupported curve " ++ name
  | .noPrivateComponent => "private key has no D component"
  | .badComponent text => "bad key component " ++ text
  | .scalarOutOfRange => "private scalar out of range"
  | .pointNotOnCurve => "public point is not on the curve"
  | .pointMismatch => "public point does not match private scalar"
  | .signingFailed => "ecdsa sign failed"
  | .stated text => text

/-- The wording of a fault. -/
def SignatureFault.message : SignatureFault → String
  | .notHex => "signature is not hex"
  | .notDer => "signature is not DER encoded"
  | .stated text => text

namespace Error

/-- The wording of an error. -/
def message : Error → String
  | .invalidParam fault => "invalid parameter: " ++ fault.message
  | .config fault => "configuration error: " ++ fault.message
  | .malformedToken => "malformed authorization token"
  | .unsupportedVersion => "unsupported authorization version"
  | .expirationOutOfRange => "authorization expiration out of range"
  | .badDateField => "authorization date field is not a valid ISO-8601 date"
  | .expired => "authorization token expired"
  | .missingHost => "signed headers do not include host"
  | .signatureMismatch => "signature mismatch"
  | .invalidKey fault => "invalid key: " ++ fault.message
  | .invalidSignature fault => "invalid signature: " ++ fault.message
  | .http => "HTTP error"
  | .json => "JSON error"
  | .unexpectedStatus status body =>
    "unexpected HTTP status " ++ Decimal.ofNat status ++ ": " ++ body
  | .server errno errmsg requestId =>
    "server error " ++ Decimal.ofInt errno.toInt ++ ": " ++ errmsg
      ++ " (request_id: " ++ requestId ++ ")"

/-- A stable tag for logs and counters. -/
def kind : Error → String
  | .invalidParam _ => "invalid_param"
  | .config _ => "config"
  | .malformedToken => "malformed_token"
  | .unsupportedVersion => "unsupported_version"
  | .expirationOutOfRange => "expiration_out_of_range"
  | .badDateField => "bad_date_field"
  | .expired => "expired"
  | .missingHost => "missing_host_in_signed_headers"
  | .signatureMismatch => "signature_mismatch"
  | .invalidKey _ => "invalid_key"
  | .invalidSignature _ => "invalid_signature"
  | .http => "http"
  | .json => "json"
  | .unexpectedStatus _ _ => "unexpected_status"
  | .server _ _ _ => "server"

/-- Where the failure lies. -/
def errorClass : Error → ErrorClass
  | .malformedToken | .unsupportedVersion | .expirationOutOfRange | .badDateField => .format
  | .expired | .missingHost | .signatureMismatch => .trust
  | _ => .other

end Error

end AssetAccess
