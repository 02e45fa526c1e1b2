import AssetAccess.Auth.Signer
/-!
# Verifying

A verifier reads the token of a request, makes the signature again from the request as it arrived,
and compares.  The names that select the covered headers come from the token, so they must at least
name the host.
-/

namespace AssetAccess.Auth

/-- Checks the tokens of incoming requests. -/
structure Verifier where
  credentials : Credentials

namespace Verifier

/-- The text of the token that a request carries: the oldest value of its authorization header, or
nothing. -/
def tokenText (request : Http.Request) : Except Error String :=
  match request.fields.first? .authorization with
  | none => .ok ""
  | some value => match value.text? with
    | none => .error .malformedToken
    | some text => .ok text

/-- Whether a token's signature is the one that belongs to a request. -/
def isSignedBy (token : Token) (request : Http.Request) (secret : String) : Bool :=
  let canonical := CanonicalRequest.of request (.ofList token.signedHeaders)
  Hmac.matchesHex (Hmac.hex secret token.scope) canonical.text token.signature

/-- Accepts a request or says why not. -/
def check (v : Verifier) (request : Http.Request) : Action Unit := do
  Action.ofExcept v.credentials.validate
  let text ← Action.ofExcept (tokenText request)
  let token ← Action.ofExcept (Token.parse text)
  let now ← Action.unixSecond
  if token.isExpiredAt now then throw .expired
  if !token.signedHeaders.contains "host" then throw .missingHost
  if !isSignedBy token request v.credentials.secretAccessKey then throw .signatureMismatch
  Action.report (.verified token.accessKeyId)

/-- The event that reports a refusal. -/
def rejection (e : Error) : LogEvent :=
  match e with
  | .expired => .rejectedExpired e.kind
  | .signatureMismatch => .rejectedForged e.kind
  | _ => .rejected e.kind

/-- Accepts a request or says why not, and reports what became of it. -/
def verify (v : Verifier) (request : Http.Request) : Action Unit :=
  tryCatch (v.check request) fun e => do
    Action.report (rejection e)
    throw e

end Verifier

end AssetAccess.Auth
