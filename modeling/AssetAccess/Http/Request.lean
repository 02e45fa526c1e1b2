import AssetAccess.Http.Fields
import AssetAccess.Http.Target
/-! # Requests -/

namespace AssetAccess.Http

/-- A request: what the signature may cover, and a body, which it covers only through a header. -/
structure Request where
  method : Method
  target : Target
  fields : Fields := {}
  body : String := ""
deriving DecidableEq

end AssetAccess.Http
