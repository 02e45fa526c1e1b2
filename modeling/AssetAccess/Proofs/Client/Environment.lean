import AssetAccess.Proofs.Auth.Authorization
import AssetAccess.Proofs.Client.Endpoint
import AssetAccess.Proofs.Client.Settings
/-!
# From the environment to a client that can be used

The settings that the environment names make a client exactly if their address is usable and both
keys are there and not empty, and the client holds what the environment says
(`environment_exact`).  Credentials are checked twice, when the client is made and by every
signature; what passes the first check passes the second one as well, so no call of the client fails
for want of a key (`failsOnlyWith_build`).
-/

namespace AssetAccess

/-- The error does not blame an empty key. -/
def Error.SparesKeys (e : Error) : Prop :=
  e ≠ .invalidParam .emptyAccessKeyId ∧ e ≠ .invalidParam .emptySecretAccessKey

namespace Client

open AssetAccess.Action Auth

variable {lookup : String → Option String} {settings : Settings} {c : Client}

/-! ### What the client holds -/

/-- The client holds what the environment says, the address without the slashes at its end. -/
structure HoldsEnvironment (c : Client) (lookup : String → Option String) : Prop where
  appId : Settings.NamesAppId lookup c.credentials.appId
  keys : Settings.NamesKeys lookup c.credentials.accessKeyId c.credentials.secretAccessKey
  endpoint : ∃ slashes, Settings.NamesEndpoint lookup (c.endpoint ++ slashes) ∧
    ∀ d ∈ slashes.toList, d = '/'
  not_slash_at_end : c.endpoint.toList.getLast? ≠ some '/'

/-! ### Keys are not missed again -/

theorem sparesKeys_of_ne {fault : ParamFault} (hid : fault ≠ .emptyAccessKeyId)
    (hsecret : fault ≠ .emptySecretAccessKey) : (Error.invalidParam fault).SparesKeys :=
  ⟨fun h => hid (Error.invalidParam.inj h), fun h => hsecret (Error.invalidParam.inj h)⟩

theorem failsOnlyWith_signer (hc : c.credentials.Complete) (options : SignOptions)
    (request : Http.Request) :
    FailsOnlyWith Error.SparesKeys (c.signer.signWith options request) := by
  refine Signer.failsOnlyWith_signWith (fun e he => ?_) (sparesKeys_of_ne nofun nofun)
    (fun second => sparesKeys_of_ne nofun nofun) options request
  change c.credentials.validate = .error e at he
  rw [Credentials.validate_of_complete hc] at he
  cases he

theorem failsOnlyWith_build (hc : c.credentials.Complete) (uri body : String) :
    FailsOnlyWith Error.SparesKeys (c.build uri body) := by
  unfold build
  cases Url.parse (c.endpoint ++ uri) with
  | error fault => exact .throw (sparesKeys_of_ne nofun nofun)
  | ok url =>
    refine .bind .unixSecond fun second => ?_
    cases c.draft url second body with
    | error fault => exact .throw (sparesKeys_of_ne nofun nofun)
    | ok request =>
      exact Signer.failsOnlyWith_authorize_of_sign (failsOnlyWith_signer hc _ request)
        (sparesKeys_of_ne nofun nofun)

/-! ### From the environment to the client -/

/-- Settings that the environment names make a client exactly if their address and their keys are
usable. -/
theorem exists_ofSettings_iff (h : Settings.ofEnvironment lookup = .ok settings) :
    (∃ c, ofSettings settings = .ok c) ↔
      Settings.HasUsableEndpoint lookup ∧ Settings.HasUsableKeys lookup := by
  obtain ⟨n, -, rfl⟩ := Settings.ofEnvironment_eq_ok_iff.mp h
  simp only [ofSettings_eq_ok_iff, Settings.validate_eq_ok_iff,
    Settings.hasWebScheme_endpointFrom_iff, Settings.credentialsFrom_eq_some_iff]
  constructor
  · rintro ⟨-, credentials, ⟨hweb, ⟨hkeys, -⟩, hid, hsecret⟩, -⟩
    exact ⟨hweb, _, _, hkeys, hid, hsecret⟩
  · rintro ⟨hweb, ak, sk, hkeys, hid, hsecret⟩
    exact ⟨_, ⟨n, ak, sk⟩, ⟨hweb, ⟨hkeys, rfl⟩, hid, hsecret⟩, rfl⟩

theorem holdsEnvironment_of_ofSettings (h : Settings.ofEnvironment lookup = .ok settings)
    (hc : ofSettings settings = .ok c) :
    c.HoldsEnvironment lookup ∧ c.credentials.Complete := by
  obtain ⟨n, hn, rfl⟩ := Settings.ofEnvironment_eq_ok_iff.mp h
  obtain ⟨credentials, hvalid, rfl⟩ := ofSettings_eq_ok_iff.mp hc
  obtain ⟨-, hcredentials, hcomplete⟩ := Settings.validate_eq_ok_iff.mp hvalid
  obtain ⟨hkeys, rfl⟩ := Settings.credentialsFrom_eq_some_iff.mp hcredentials
  obtain ⟨slashes, hslashes, hall⟩ := exists_trimSlashes (Settings.endpointFrom lookup)
  refine ⟨⟨hn, hkeys, ⟨slashes, ?_, hall⟩, getLast?_trimSlashes _⟩, hcomplete⟩
  rw [← hslashes]
  exact Settings.namesEndpoint_endpointFrom

/-- **From the environment to a client.**  Reading the environment fails exactly for an application
number that is none, whatever the other variables say.  The settings hold no credentials if a key is
missing, and they make a client exactly if the address is usable and both keys are there and not
empty.  The client then holds what the environment says, its credentials pass, and neither a
signature nor a request of its own fails for an empty key. -/
theorem environment_exact (lookup : String → Option String) :
    (∀ e, Settings.ofEnvironment lookup = .error e ↔
      ∃ text, lookup "XASSET_APP_ID" = some text ∧ (¬ ∃ n, Settings.IsAppId text n) ∧
        e = .config (.appIdNotInteger text)) ∧
    ∀ settings, Settings.ofEnvironment lookup = .ok settings →
      (settings.credentials = none ↔
        lookup "XASSET_ACCESS_KEY_ID" = none ∨ lookup "XASSET_SECRET_ACCESS_KEY" = none) ∧
      ((∃ c, ofSettings settings = .ok c) ↔
        Settings.HasUsableEndpoint lookup ∧ Settings.HasUsableKeys lookup) ∧
      ∀ c, ofSettings settings = .ok c →
        c.HoldsEnvironment lookup ∧ c.credentials.validate = .ok () ∧
        (∀ options request,
          FailsOnlyWith Error.SparesKeys (c.signer.signWith options request)) ∧
        ∀ uri body, FailsOnlyWith Error.SparesKeys (c.build uri body) := by
  refine ⟨fun e => Settings.ofEnvironment_eq_error_iff, fun settings h => ⟨?_, ?_, ?_⟩⟩
  · obtain ⟨n, -, rfl⟩ := Settings.ofEnvironment_eq_ok_iff.mp h
    exact Settings.credentialsFrom_eq_none_iff
  · exact exists_ofSettings_iff h
  · intro c hc
    obtain ⟨hholds, hcomplete⟩ := holdsEnvironment_of_ofSettings h hc
    exact ⟨hholds, Credentials.validate_of_complete hcomplete, failsOnlyWith_signer hcomplete,
      failsOnlyWith_build hcomplete⟩

/-- White space around a signed application number, and slashes behind the address. -/
theorem environment_exact_respelled :
    let lookup : String → Option String := fun name =>
      [("XASSET_ENDPOINT", "https://a.example//"), ("XASSET_APP_ID", " +042\t"),
        ("XASSET_ACCESS_KEY_ID", "AK"), ("XASSET_SECRET_ACCESS_KEY", "S K")].lookup name
    ∃ settings c, Settings.ofEnvironment lookup = .ok settings ∧ ofSettings settings = .ok c ∧
      c.credentials = ⟨42, "AK", "S K"⟩ ∧ c.endpoint = "https://a.example" ∧
        c.HoldsEnvironment lookup ∧
          FailsOnlyWith Error.SparesKeys (c.build "/xasset/horae/v1/create" "") := by
  intro lookup
  let settings : Settings :=
    { endpoint := "https://a.example//", credentials := some ⟨42, "AK", "S K"⟩ }
  have h : Settings.ofEnvironment lookup = .ok settings := by decide +kernel
  have hc : ofSettings settings =
      .ok ⟨"https://a.example", defaultUserAgent, ⟨42, "AK", "S K"⟩, {}⟩ := by decide +kernel
  obtain ⟨hholds, -, -, hbuild⟩ := ((environment_exact lookup).2 _ h).2.2 _ hc
  exact ⟨settings, _, h, hc, rfl, rfl, hholds, hbuild _ _⟩

end Client

end AssetAccess
