import AssetAccess.Action
import AssetAccess.Auth.CanonicalRequest
import AssetAccess.Auth.Credentials
import AssetAccess.Auth.Token
import AssetAccess.Digest.Hmac
/-!
# Signing

A signer turns a request into a token.  The secret enters through one function only, `signature`:
it keys a digest of the scope, and that keys a digest of the canonical request.
-/

namespace AssetAccess.Auth

/-- The signature of a canonical request under a secret and the scope of its token. -/
def signature (secret scope : String) (canonical : CanonicalRequest) : String :=
  Hmac.hex (Hmac.hex secret scope) canonical.text

/-- Makes tokens for outgoing requests. -/
structure Signer where
  credentials : Credentials
  options : SignOptions := {}

namespace Signer

/-- The Unix second of the sign date: the one that the options fix, or a reading of the clock. -/
def signSecond (options : SignOptions) : Action Int :=
  if options.timestamp ≠ 0 then pure options.timestamp else Action.unixSecond

/-- The token for a request under options that hold for this call. -/
def signWith (s : Signer) (options : SignOptions) (request : Http.Request) : Action String := do
  Action.ofExcept s.credentials.validate
  if !request.fields.has .host then throw (.invalidParam .noHost)
  let second ← signSecond options
  match Instant.of? second 0 with
  | none => throw (.invalidParam (.timestampOutOfRange second))
  | some instant =>
    let date := SignDate.format instant
    let expire := options.effectiveExpireSeconds
    let scope := scopeText s.credentials.accessKeyId date expire
    let canonical := CanonicalRequest.of request options.effectiveHeaders
    Action.report (.signed s.credentials.accessKeyId date expire canonical.signedNamesText)
    return "/".intercalate
      [scope, canonical.signedNamesText, signature s.credentials.secretAccessKey scope canonical]

/-- The token for a request. -/
def sign (s : Signer) (request : Http.Request) : Action String := s.signWith s.options request

/-- The request with its token as the only value of its authorization header. -/
def authorize (s : Signer) (request : Http.Request) : Action Http.Request := do
  let token ← s.sign request
  match Http.FieldValue.ofString? token with
  | none => throw (.invalidParam .tokenNotFieldValue)
  | some value => return { request with fields := request.fields.set .authorization value }

/-- Stores the token for the request that the caller holds as the only value of its authorization
header. -/
def authorizeHeld (s : Signer) : RequestAction Unit := do
  let token ← RequestAction.ofAction (s.sign (← get))
  match Http.FieldValue.ofString? token with
  | none => throw (.invalidParam .tokenNotFieldValue)
  | some value =>
    modify fun request => { request with fields := request.fields.set .authorization value }

end Signer

end AssetAccess.Auth
