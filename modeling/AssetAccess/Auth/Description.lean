import AssetAccess.Auth.Verifier
import AssetAccess.Text.Description
/-!
# Descriptions of signers and verifiers

What a log may show of credentials and of what holds them.  The secret key is left out, and a fixed
text stands in its place, so that not even its length shows.
-/

namespace AssetAccess.Auth

open Text

/-- The description of credentials. -/
def Credentials.describe (c : Credentials) : String :=
  record "Credentials"
    [("app_id", Decimal.ofInt c.appId.toInt), ("access_key_id", quoted c.accessKeyId),
     ("secret_access_key", quoted "<redacted>")]

/-- The description of a set of header names. -/
def NameSet.describe (s : NameSet) : String := braced (s.toList.map quoted)

/-- The description of signing options. -/
def SignOptions.describe (o : SignOptions) : String :=
  record "SignOptions"
    [("headers_to_sign", optional (o.headersToSign.map NameSet.describe)),
     ("timestamp", Decimal.ofInt o.timestamp), ("expire_seconds", Decimal.ofInt o.expireSeconds)]

/-- What stands for a clock, which has no description of its own. -/
def clockDescription : String := quoted "<clock>"

/-- The description of a signer. -/
def Signer.describe (s : Signer) : String :=
  record "Signer"
    [("credentials", s.credentials.describe), ("options", s.options.describe),
     ("clock", clockDescription)]

/-- The description of a verifier. -/
def Verifier.describe (v : Verifier) : String :=
  record "Verifier" [("credentials", v.credentials.describe), ("clock", clockDescription)]

end AssetAccess.Auth
