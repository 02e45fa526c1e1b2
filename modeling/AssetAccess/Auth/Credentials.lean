import AssetAccess.Error
/-! # Credentials -/

namespace AssetAccess.Auth

/-- What the service issues to an account: a number for the application, a key id that every token
shows, and the secret that goes with it. -/
structure Credentials where
  appId : Int64
  accessKeyId : String
  secretAccessKey : String
deriving DecidableEq

/-- Refuses credentials with an empty part, which could not make a meaningful signature. -/
def Credentials.validate (c : Credentials) : Except Error Unit :=
  if c.accessKeyId.isEmpty then .error (.invalidParam .emptyAccessKeyId)
  else if c.secretAccessKey.isEmpty then .error (.invalidParam .emptySecretAccessKey)
  else .ok ()

end AssetAccess.Auth
