import AssetAccess.Client.Call
import AssetAccess.Proofs.Auth.Secrecy
/-!
# The secret never shows

Whoever holds the secret makes and checks signatures with it, and does nothing else with it.  So two
accounts that differ in the secret alone cannot be told apart except by the signatures: signers and
clients fail alike, make requests that differ in the last field of the token, get the same replies
and report the same events, and their descriptions are the same texts (`conceals`).

A service may answer as it likes, as long as it does not itself tell the two signatures apart.
-/

namespace AssetAccess.Client

open AssetAccess.Action Auth

/-- The settings for an account. -/
def Settings.forAccount (settings : Settings) (account : Credentials) : Settings :=
  { settings with credentials := some account }

/-- What a client with these settings does, if there is one. -/
def withClient {α : Type} (settings : Settings) (f : Client → Action α) : Action α :=
  Action.ofExcept (ofSettings settings) >>= f

/-- What a client sends for a call. -/
def send (c : Client) (uri body : String) : Action Http.Request :=
  c.build uri body >>= fun request => Action.ofExcept (sentForm request)

/-- The service answers requests alike that differ in the signature at most. -/
def Impartial (service : Http.Request → Delivery) : Prop :=
  ∀ a b, RequestsAlike a b → service a = service b

/-- An answer that is fixed beforehand is impartial. -/
example (d : Delivery) : Impartial fun _ => d := fun _ _ _ => rfl

/-- Nothing that is done for an account shows which of the two secrets it has, apart from the
signatures that are made with it. -/
structure Conceals (account : Credentials) (secret secret' : String) : Prop where
  /-- Signers run alike; `sign` is the case in which the options are the signer's own. -/
  signing (own options : SignOptions) (request : Http.Request) :
    RunAlike TokensEqualButLast
      ((Signer.mk (account.withSecret secret) own).signWith options request)
      ((Signer.mk (account.withSecret secret') own).signWith options request)
  authorizing (options : SignOptions) (request : Http.Request) :
    RunAlike RequestsAlike ((Signer.mk (account.withSecret secret) options).authorize request)
      ((Signer.mk (account.withSecret secret') options).authorize request)
  verifying (request : Http.Request) (h : SignedAlikeUnder secret secret' request) :
    RunAlike Eq ((Verifier.mk (account.withSecret secret)).verify request)
      ((Verifier.mk (account.withSecret secret')).verify request)
  building (settings : Settings) (uri body : String) :
    RunAlike RequestsAlike
      (withClient (settings.forAccount (account.withSecret secret)) (·.build uri body))
      (withClient (settings.forAccount (account.withSecret secret')) (·.build uri body))
  sending (settings : Settings) (uri body : String) :
    RunAlike RequestsAlike
      (withClient (settings.forAccount (account.withSecret secret)) (·.send uri body))
      (withClient (settings.forAccount (account.withSecret secret')) (·.send uri body))
  posting (settings : Settings) (service : Http.Request → Delivery) (uri body : String)
    (h : Impartial service) :
    RunAlike Eq
      (withClient (settings.forAccount (account.withSecret secret)) (·.post service uri body))
      (withClient (settings.forAccount (account.withSecret secret')) (·.post service uri body))
  postingForms {α : Type} (settings : Settings) (service : Http.Request → Delivery)
    (decode : String → Option α) (uri body : String) (h : Impartial service) :
    RunAlike Eq
      (withClient (settings.forAccount (account.withSecret secret))
        (·.postForm service decode uri body))
      (withClient (settings.forAccount (account.withSecret secret'))
        (·.postForm service decode uri body))
  describingCredentials :
    (account.withSecret secret).describe = (account.withSecret secret').describe
  describingSigners (options : SignOptions) :
    (Signer.mk (account.withSecret secret) options).describe =
      (Signer.mk (account.withSecret secret') options).describe
  describingVerifiers :
    (Verifier.mk (account.withSecret secret)).describe =
      (Verifier.mk (account.withSecret secret')).describe
  describingSettings (settings : Settings) :
    (settings.forAccount (account.withSecret secret)).describe =
      (settings.forAccount (account.withSecret secret')).describe
  describingClients (settings : Settings) :
    (ofSettings (settings.forAccount (account.withSecret secret))).map describe =
      (ofSettings (settings.forAccount (account.withSecret secret'))).map describe

variable {account : Credentials} {secret secret' : String}

/-! ### Clients -/

/-- Two clients that differ in the secret alone. -/
def ClientsAlike (account : Credentials) (secret secret' : String) (c c' : Client) : Prop :=
  c.credentials = account.withSecret secret ∧ c'.credentials = account.withSecret secret' ∧
    c.endpoint = c'.endpoint ∧ c.userAgent = c'.userAgent ∧ c.signOptions = c'.signOptions

theorem resultsAlike_ofSettings (account : Credentials) (hs : secret ≠ "") (hs' : secret' ≠ "")
    (settings : Settings) :
    ResultsAlike (ClientsAlike account secret secret')
      (ofSettings (settings.forAccount (account.withSecret secret)))
      (ofSettings (settings.forAccount (account.withSecret secret'))) := by
  simp only [ofSettings, Settings.validate, Settings.forAccount, Credentials.withSecret,
    String.isEmpty_iff, hs, hs', if_false]
  split
  · exact .error _
  · split
    · exact .error _
    · split
      · exact .error _
      · exact .ok ⟨rfl, rfl, rfl, rfl, rfl⟩

theorem runAlike_withClient {α β : Type} {R : α → β → Prop} (account : Credentials)
    (hs : secret ≠ "") (hs' : secret' ≠ "") (settings : Settings) {f : Client → Action α}
    {g : Client → Action β}
    (hf : ∀ c c', ClientsAlike account secret secret' c c' → RunAlike R (f c) (g c')) :
    RunAlike R (withClient (settings.forAccount (account.withSecret secret)) f)
      (withClient (settings.forAccount (account.withSecret secret')) g) :=
  (RunAlike.ofExcept (resultsAlike_ofSettings account hs hs' settings)).bind hf

theorem describe_alike {x y : Except Error Client}
    (h : ResultsAlike (ClientsAlike account secret secret') x y) :
    x.map describe = y.map describe := by
  cases h with
  | error e => rfl
  | @ok c c' h =>
    obtain ⟨hc, hc', he, hu, -⟩ := h
    have hd : c.credentials.describe = c'.credentials.describe := by
      rw [hc, hc']
      rfl
    refine congrArg Except.ok ?_
    unfold describe
    rw [he, hu, hd]

variable {c c' : Client}

theorem runAlike_build (h : ClientsAlike account secret secret' c c') (hs : secret ≠ "")
    (hs' : secret' ≠ "") (uri body : String) :
    RunAlike RequestsAlike (c.build uri body) (c'.build uri body) := by
  obtain ⟨hc, hc', he, hu, ho⟩ := h
  -- a draft is made without the credentials
  have hdraft (url : Url) (second : Int) : c.draft url second body = c'.draft url second body := by
    unfold draft draftFields
    rw [hu]
  unfold build
  rw [he]
  cases Url.parse (c'.endpoint ++ uri) with
  | error fault => exact .throw _
  | ok url =>
    refine RunAlike.bind_left _ fun second => ?_
    rw [hdraft]
    cases c'.draft url second body with
    | error fault => exact .throw _
    | ok request =>
      dsimp only [signer]
      rw [hc, hc', ho]
      exact runAlike_authorize account hs hs' _ request

/-! ### Deliveries -/

theorem trimmedFields_alike {f f' : Http.Fields}
    (h : List.Forall₂ EntriesAlike f.entries f'.entries) :
    List.Forall₂ EntriesAlike (trimmedFields f).entries (trimmedFields f').entries := by
  refine List.forall₂_map_left_iff.mpr (List.forall₂_map_right_iff.mpr (h.imp ?_))
  rintro ⟨n, v⟩ ⟨n', v'⟩ ⟨hn, hv⟩
  refine ⟨hn, ?_⟩
  rcases hv with hv | ⟨ha, hv⟩
  · exact Or.inl (congrArg Http.FieldValue.trimmed hv)
  · exact Or.inr ⟨ha, hv.trimmed⟩

/-- Of two requests that are alike, both are sent, as requests that are alike, or neither is. -/
theorem resultsAlike_sentForm {a b : Http.Request} (h : RequestsAlike a b) :
    ResultsAlike RequestsAlike (sentForm a) (sentForm b) := by
  unfold sentForm
  rw [h.target]
  cases Url.parse b.target.text with
  | error fault => exact .error _
  | ok url =>
    dsimp only
    cases Http.Target.parse url.text with
    | error fault => exact .error _
    | ok target => exact .ok ⟨h.method, rfl, h.body, trimmedFields_alike h.fields⟩

theorem runAlike_post (h : ClientsAlike account secret secret' c c') (hs : secret ≠ "")
    (hs' : secret' ≠ "") {service : Http.Request → Delivery} (hi : Impartial service)
    (uri body : String) : RunAlike Eq (c.post service uri body) (c'.post service uri body) := by
  unfold post
  refine (runAlike_build h hs hs' uri body).bind fun a b hab => ?_
  rw [hab.target]
  refine RunAlike.bind_left _ fun _ => ?_
  refine (RunAlike.ofExcept (resultsAlike_sentForm hab)).bind fun sent sent' hsent => ?_
  rw [hi sent sent' hsent]
  exact .refl _

/-! ### The whole -/

/-- **The secret never shows.**  Two accounts that differ in their secrets, neither of them empty,
cannot be told apart but by their signatures. -/
theorem conceals (account : Credentials) (hs : secret ≠ "") (hs' : secret' ≠ "") :
    Conceals account secret secret' where
  signing own options request :=
    (runAlike_signWith account hs hs' own options request).mono fun _ _ h => h.tokensEqualButLast
  authorizing options request := runAlike_authorize account hs hs' options request
  verifying request h := runAlike_verify account hs hs' request h
  building settings uri body :=
    runAlike_withClient account hs hs' settings fun _ _ h => runAlike_build h hs hs' uri body
  sending settings uri body :=
    runAlike_withClient account hs hs' settings fun _ _ h =>
      (runAlike_build h hs hs' uri body).bind fun _ _ hab => .ofExcept (resultsAlike_sentForm hab)
  posting settings _ uri body hi :=
    runAlike_withClient account hs hs' settings fun _ _ h => runAlike_post h hs hs' hi uri body
  postingForms settings _ decode uri body hi :=
    runAlike_withClient account hs hs' settings fun _ _ h =>
      (runAlike_post h hs hs' hi uri body).bind fun reply _ hr => by
        rw [← hr]
        exact .refl _
  describingCredentials := rfl
  describingSigners _ := rfl
  describingVerifiers := rfl
  describingSettings _ := rfl
  describingClients settings := describe_alike (resultsAlike_ofSettings account hs hs' settings)

/-- A secret and a longer one. -/
theorem conceals_longer : "k" ≠ "" ∧ "a longer one" ≠ "" ∧
    Conceals ⟨110380, "id", ""⟩ "k" "a longer one" :=
  ⟨by decide, by decide, conceals ⟨110380, "id", ""⟩ (by decide) (by decide)⟩

end AssetAccess.Client
