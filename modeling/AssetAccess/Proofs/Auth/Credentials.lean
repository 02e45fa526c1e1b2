import AssetAccess.Auth.Credentials
import AssetAccess.Http.Fields
import Mathlib.Data.List.Basic
/-!
# Which credentials can be used

A signer and a verifier need `Complete` credentials.  A verifier can read a token only if the key id
in it is `Readable`; a signer does not ask for that.
-/

namespace AssetAccess.Auth.Credentials

/-- Neither key is empty. -/
def Complete (c : Credentials) : Prop := c.accessKeyId ≠ "" ∧ c.secretAccessKey ≠ ""

/-- The key id is visible ASCII without a slash. -/
def Readable (c : Credentials) : Prop :=
  (∀ b ∈ Text.utf8 c.accessKeyId, Http.isVisible b = true) ∧ '/' ∉ c.accessKeyId.toList

instance (c : Credentials) : Decidable c.Readable := inferInstanceAs (Decidable (_ ∧ _))

theorem validate_of_complete {c : Credentials} (hc : c.Complete) : c.validate = .ok () := by
  simp only [validate, String.isEmpty_iff, hc.1, hc.2, if_false]

/-- Credentials pass exactly when neither key is empty. -/
theorem validate_eq_ok_iff {c : Credentials} {u : Unit} : c.validate = .ok u ↔ c.Complete := by
  constructor
  · intro h
    rw [validate] at h
    split at h
    · cases h
    · rename_i hid
      split at h
      · cases h
      · rename_i hs
        exact ⟨by simpa using hid, by simpa using hs⟩
  · exact validate_of_complete

end AssetAccess.Auth.Credentials
