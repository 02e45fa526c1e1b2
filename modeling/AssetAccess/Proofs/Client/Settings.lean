import AssetAccess.Client.Settings
import AssetAccess.Proofs.Auth.Credentials
import AssetAccess.Proofs.Sequence
import AssetAccess.Proofs.Text.Blank
/-!
# Settings that the environment names

Reading the environment fails for one reason only, an application number that is none
(`ofEnvironment_eq_error_iff`); it gives no credentials unless both keys are there
(`credentialsFrom_eq_none_iff`).  Whether the settings can be used is another question: `validate`
asks for a web address and for two keys that are not empty (`validate_eq_ok_iff`).

A variable that holds the empty text counts as missing for the address, and as what it is for the
application number and for the keys.
-/

namespace AssetAccess.Client.Settings

open Auth Text

variable {lookup : String → Option String}

/-! ### The application number -/

/-- White space around a decimal notation of a number of 64 bits with a sign. -/
def IsAppId (text : String) (n : Int64) : Prop :=
  ∃ before number after, text.toList = before ++ number ++ after ∧
    (∀ c ∈ before, isBlank c = true) ∧ (∀ c ∈ after, isBlank c = true) ∧
      Decimal.Denotes number n.toInt

/-- The environment names this application number, or it names none and the number is 0. -/
def NamesAppId (lookup : String → Option String) (n : Int64) : Prop :=
  (lookup "XASSET_APP_ID" = none ∧ n = 0) ∨
    ∃ text, lookup "XASSET_APP_ID" = some text ∧ IsAppId text n

theorem int64?_trim_eq_some_iff {text : String} {n : Int64} :
    Decimal.int64? (trim text.toList) = some n ↔ IsAppId text n := by
  rw [Decimal.int64?_eq_some_iff]
  constructor
  · intro h
    obtain ⟨before, after, htext, hbefore, hafter⟩ := exists_trim text.toList
    exact ⟨before, _, after, htext, hbefore, hafter, h⟩
  · rintro ⟨before, number, after, htext, hbefore, hafter, h⟩
    rwa [htext, trim_append hbefore hafter (isBlank_of_mem_denotes h)]

theorem appIdFrom_eq_ok_iff {n : Int64} : appIdFrom lookup = .ok n ↔ NamesAppId lookup n := by
  unfold appIdFrom NamesAppId
  cases lookup "XASSET_APP_ID" with
  | none => simp [eq_comm]
  | some text =>
    have hread := @int64?_trim_eq_some_iff text n
    cases hn : Decimal.int64? (trim text.toList) with
    | none => simp [← hread, hn]
    | some m => simp [← hread, hn]

theorem appIdFrom_eq_error_iff {e : Error} :
    appIdFrom lookup = .error e ↔ ∃ text, lookup "XASSET_APP_ID" = some text ∧
      (¬ ∃ n, IsAppId text n) ∧ e = .config (.appIdNotInteger text) := by
  unfold appIdFrom
  cases lookup "XASSET_APP_ID" with
  | none => simp
  | some text =>
    have hread : (∃ n, IsAppId text n) ↔ ∃ n, Decimal.int64? (trim text.toList) = some n :=
      exists_congr fun n => int64?_trim_eq_some_iff.symm
    simp only [Option.some.injEq, exists_eq_left', hread]
    cases Decimal.int64? (trim text.toList) with
    | none => simp [eq_comm]
    | some m => simp

/-! ### The address -/

/-- The environment names this address, or it names none and the address is the public one. -/
def NamesEndpoint (lookup : String → Option String) (endpoint : String) : Prop :=
  (lookup "XASSET_ENDPOINT" = some endpoint ∧ endpoint ≠ "") ∨
    ((lookup "XASSET_ENDPOINT" = none ∨ lookup "XASSET_ENDPOINT" = some "") ∧
      endpoint = defaultEndpoint)

/-- The address is missing, empty, or starts with a scheme of the web. -/
def HasUsableEndpoint (lookup : String → Option String) : Prop :=
  lookup "XASSET_ENDPOINT" = none ∨ lookup "XASSET_ENDPOINT" = some "" ∨
    ∃ rest, lookup "XASSET_ENDPOINT" = some ("http://" ++ rest) ∨
      lookup "XASSET_ENDPOINT" = some ("https://" ++ rest)

theorem hasWebScheme_iff {endpoint : String} :
    hasWebScheme endpoint = true ↔
      ∃ rest, endpoint = "http://" ++ rest ∨ endpoint = "https://" ++ rest := by
  have starts (scheme : String) : scheme.toList.isPrefixOf endpoint.toList = true ↔
      ∃ rest, endpoint = scheme ++ rest := by
    rw [List.isPrefixOf_iff_prefix]
    constructor
    · rintro ⟨rest, hrest⟩
      exact ⟨String.ofList rest, by simp [← String.toList_inj, ← hrest]⟩
    · rintro ⟨rest, rfl⟩
      exact ⟨rest.toList, String.toList_append.symm⟩
  rw [hasWebScheme, Bool.or_eq_true, starts, starts, exists_or]

theorem namesEndpoint_endpointFrom : NamesEndpoint lookup (endpointFrom lookup) := by
  unfold NamesEndpoint endpointFrom
  cases lookup "XASSET_ENDPOINT" with
  | none => simp
  | some text =>
    by_cases h : text = ""
    · simp [h, Option.filter]
    · simp [h, Option.filter]

theorem hasWebScheme_endpointFrom_iff :
    hasWebScheme (endpointFrom lookup) = true ↔ HasUsableEndpoint lookup := by
  unfold HasUsableEndpoint endpointFrom
  have hdefault : hasWebScheme defaultEndpoint = true := by decide +kernel
  cases lookup "XASSET_ENDPOINT" with
  | none => simp [hdefault]
  | some text =>
    by_cases h : text = ""
    · simp [h, Option.filter, hdefault]
    · simp [h, Option.filter, hasWebScheme_iff]

/-! ### The keys -/

/-- The environment names these two keys. -/
def NamesKeys (lookup : String → Option String) (accessKeyId secretAccessKey : String) : Prop :=
  lookup "XASSET_ACCESS_KEY_ID" = some accessKeyId ∧
    lookup "XASSET_SECRET_ACCESS_KEY" = some secretAccessKey

/-- Both keys are there, and neither is empty. -/
def HasUsableKeys (lookup : String → Option String) : Prop :=
  ∃ accessKeyId secretAccessKey, NamesKeys lookup accessKeyId secretAccessKey ∧
    accessKeyId ≠ "" ∧ secretAccessKey ≠ ""

theorem credentialsFrom_eq_some_iff {n : Int64} {c : Credentials} :
    credentialsFrom lookup n = some c ↔
      NamesKeys lookup c.accessKeyId c.secretAccessKey ∧ c.appId = n := by
  simp only [credentialsFrom, NamesKeys, Option.bind_eq_bind, Option.bind_eq_some_iff,
    Option.pure_def, Option.some.injEq]
  constructor
  · rintro ⟨ak, hak, sk, hsk, rfl⟩
    exact ⟨⟨hak, hsk⟩, rfl⟩
  · rintro ⟨⟨hak, hsk⟩, rfl⟩
    exact ⟨_, hak, _, hsk, rfl⟩

theorem credentialsFrom_eq_none_iff {n : Int64} :
    credentialsFrom lookup n = none ↔
      lookup "XASSET_ACCESS_KEY_ID" = none ∨ lookup "XASSET_SECRET_ACCESS_KEY" = none := by
  unfold credentialsFrom
  cases lookup "XASSET_ACCESS_KEY_ID" with
  | none => simp
  | some ak => cases lookup "XASSET_SECRET_ACCESS_KEY" <;> simp

/-! ### All four variables -/

theorem ofEnvironment_eq_ok_iff {settings : Settings} :
    ofEnvironment lookup = .ok settings ↔ ∃ n, NamesAppId lookup n ∧
      settings = { endpoint := endpointFrom lookup, credentials := credentialsFrom lookup n } := by
  unfold ofEnvironment
  rw [bind_eq_ok_iff]
  refine exists_congr fun n => and_congr appIdFrom_eq_ok_iff ?_
  constructor
  · exact fun h => (Except.ok.inj h).symm
  · rintro rfl
    rfl

/-- The application number alone makes the reading fail. -/
theorem ofEnvironment_eq_error_iff {e : Error} :
    ofEnvironment lookup = .error e ↔ ∃ text, lookup "XASSET_APP_ID" = some text ∧
      (¬ ∃ n, IsAppId text n) ∧ e = .config (.appIdNotInteger text) := by
  unfold ofEnvironment
  rw [bind_eq_error_iff, ← appIdFrom_eq_error_iff, or_iff_left]
  rintro ⟨n, -, h⟩
  cases h

/-! ### Checking -/

/-- Settings pass with a web address and credentials without an empty key. -/
theorem validate_eq_ok_iff {s : Settings} {c : Credentials} :
    s.validate = .ok c ↔
      hasWebScheme s.endpoint = true ∧ s.credentials = some c ∧ c.Complete := by
  constructor
  · intro h
    unfold validate at h
    split at h
    · cases h
    split at h
    · cases h
    rename_i hweb
    split at h
    · cases h
    rename_i hc
    split at h
    · cases h
    rename_i hid
    split at h
    · cases h
    rename_i hsecret
    cases h
    exact ⟨by simpa using hweb, hc, by simpa using hid, by simpa using hsecret⟩
  · rintro ⟨hweb, hc, hid, hsecret⟩
    have hne : s.endpoint ≠ "" := by
      intro hempty
      rw [hempty] at hweb
      exact absurd hweb (by decide)
    simp [validate, hne, hweb, hc, hid, hsecret]

end AssetAccess.Client.Settings
