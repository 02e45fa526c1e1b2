import AssetAccess.Auth.NameSet
/-!
# Signing options

Which headers a signature covers, which date it bears and how long it lasts.
-/

namespace AssetAccess.Auth

/-- The headers that are signed unless the caller says otherwise. -/
def defaultHeaders : NameSet :=
  NameSet.ofList ["host", "content-length", "content-type", "content-md5"]

/-- The lifetime of a token, in seconds, where the caller asks for less than one. -/
def defaultExpireSeconds : Int := 1800
/-- The longest lifetime that a token may claim, in seconds. -/
def maxExpireSeconds : Int := 3600

/-- How a request is to be signed. -/
structure SignOptions where
  /-- The headers to cover; without a set it is the host alone. -/
  headersToSign : Option NameSet := some defaultHeaders
  /-- The Unix second of the date, where 0 stands for the present. -/
  timestamp : Int := 0
  /-- The lifetime that the caller asks for, in seconds. -/
  expireSeconds : Int := defaultExpireSeconds
deriving DecidableEq

namespace SignOptions

/-- The options with these names to cover, their ASCII letters made small. -/
def withHeaders (o : SignOptions) (names : List String) : SignOptions :=
  { o with headersToSign := some (NameSet.ofList (names.map Text.lower)) }

/-- The names that a signature is made with. -/
def effectiveHeaders (o : SignOptions) : NameSet :=
  match o.headersToSign with
  | some names => names.lower
  | none => NameSet.ofList ["host"]

/-- The lifetime that a token is given. -/
def effectiveExpireSeconds (o : SignOptions) : Int :=
  if o.expireSeconds < 1 then defaultExpireSeconds else o.expireSeconds

end SignOptions

end AssetAccess.Auth
