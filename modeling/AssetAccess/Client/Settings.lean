import AssetAccess.Auth.Description
import AssetAccess.Text.Blank
/-!
# Settings of a client

Where the service is, who calls it and how its calls are signed.  Settings can be read from the
environment; whether they can be used is checked apart from that, by `validate`.

Times are in milliseconds, and a time of zero stands for the default.
-/

namespace AssetAccess.Client

open Auth

/-- The public address of the service. -/
def defaultEndpoint : String := "http://120.48.16.137:8360"
/-- The name that the client gives itself. -/
def defaultUserAgent : String := "xasset-sdk-rust"
/-- How long the client waits for a connection. -/
def defaultConnectTimeout : Nat := 1000
/-- How long the client waits for the whole of a response. -/
def defaultTimeout : Nat := 3000

/-- Settings of a client. -/
structure Settings where
  endpoint : String := defaultEndpoint
  userAgent : String := defaultUserAgent
  credentials : Option Credentials := none
  signOptions : SignOptions := {}
  connectTimeout : Nat := defaultConnectTimeout
  timeout : Nat := defaultTimeout
deriving DecidableEq

namespace Settings

/-- How long the client really waits for a connection. -/
def effectiveConnectTimeout (s : Settings) : Nat :=
  if s.connectTimeout = 0 then defaultConnectTimeout else s.connectTimeout

/-- How long the client really waits for the whole of a response. -/
def effectiveTimeout (s : Settings) : Nat := if s.timeout = 0 then defaultTimeout else s.timeout

/-! ### Reading the environment -/

/-- The address that the environment names, or the default if it names none. -/
def endpointFrom (lookup : String → Option String) : String :=
  ((lookup "XASSET_ENDPOINT").filter (!·.isEmpty)).getD defaultEndpoint

/-- The number of the application that the environment names, or 0 if it names none. -/
def appIdFrom (lookup : String → Option String) : Except Error Int64 :=
  match lookup "XASSET_APP_ID" with
  | none => .ok 0
  | some text => match Decimal.int64? (Text.trim text.toList) with
    | some n => .ok n
    | none => .error (.config (.appIdNotInteger text))

/-- The credentials that the environment names, if it names both keys. -/
def credentialsFrom (lookup : String → Option String) (appId : Int64) : Option Credentials := do
  return ⟨appId, ← lookup "XASSET_ACCESS_KEY_ID", ← lookup "XASSET_SECRET_ACCESS_KEY"⟩

/-- The settings that the environment names, where `lookup` gives the value of a variable. -/
def ofEnvironment (lookup : String → Option String) : Except Error Settings := do
  let appId ← appIdFrom lookup
  return { endpoint := endpointFrom lookup, credentials := credentialsFrom lookup appId }

/-! ### Checking -/

/-- Whether an address starts with one of the two schemes. -/
def hasWebScheme (endpoint : String) : Bool :=
  "http://".toList.isPrefixOf endpoint.toList || "https://".toList.isPrefixOf endpoint.toList

/-- The credentials of settings that can be used. -/
def validate (s : Settings) : Except Error Credentials :=
  if s.endpoint.isEmpty then .error (.config .emptyEndpoint)
  else if !hasWebScheme s.endpoint then .error (.config .endpointScheme)
  else match s.credentials with
    | none => .error (.config .noCredentials)
    | some c =>
      if c.accessKeyId.isEmpty then .error (.config .emptyAccessKeyId)
      else if c.secretAccessKey.isEmpty then .error (.config .emptySecretAccessKey)
      else .ok c

/-! ### Describing -/

/-- The digits of a number below 1000 as a fraction of 1000, without the zeros at its end and behind
a point, or nothing for 0. -/
def fractionText (n : Nat) : String :=
  let digits := ((Decimal.padded 3 n).toList.reverse.dropWhile (· == '0')).reverse
  if digits.isEmpty then "" else "." ++ String.ofList digits

/-- The description of a time. -/
def describeTime (n : Nat) : String :=
  if n = 0 then "0ns"
  else if n < 1000 then Decimal.ofNat n ++ "ms"
  else Decimal.ofNat (n / 1000) ++ fractionText (n % 1000) ++ "s"

/-- The description of settings. -/
def describe (s : Settings) : String :=
  Text.record "XassetConfig"
    [("endpoint", Text.quoted s.endpoint), ("user_agent", Text.quoted s.userAgent),
     ("credentials", Text.optional (s.credentials.map Credentials.describe)),
     ("sign_options", s.signOptions.describe),
     ("connect_timeout", describeTime s.connectTimeout), ("timeout", describeTime s.timeout)]

end Settings

end AssetAccess.Client
