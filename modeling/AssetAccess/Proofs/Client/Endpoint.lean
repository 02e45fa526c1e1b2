import AssetAccess.Proofs.Client.Build
import AssetAccess.Proofs.Client.Settings
/-!
# The endpoint chooses the server

A client puts the paths and queries of its callers behind the endpoint of its settings.  If the
endpoint names a server at all, that is, if something else than slashes and line breaks follows its
scheme, then scheme, host and port of every request are those of the endpoint, and so is the host
header (`exists_server`).  The slash at the start of what the caller gives ends the authority, and
the blanks that are dropped at the end of an address do not reach back over it.

Settings pass with an endpoint that names no server as well.  Such an endpoint gives the scheme
alone (`parse_append_of_not_namesServer`), since any number of slashes may stand between scheme and
authority, and the first name in what the caller gives is taken for the server
(`caller_chooses_server`).
-/

namespace AssetAccess.Client

open Http

/-- Something else than slashes and line breaks follows the scheme of an endpoint. -/
def NamesServer (endpoint : String) : Prop :=
  ∃ (scheme : Url.Scheme) (rest : List Char),
    endpoint.toList = scheme.text.toList ++ ':' :: '/' :: '/' :: rest ∧
      ∃ c ∈ rest, Url.isSlash c = false ∧ Url.isBreak c = false

/-! ### Runs that end at a character -/

section Runs

variable {p : Char → Bool} {c : Char}

theorem dropWhile_append_cons (hc : p c = false) (l r : List Char) :
    (l ++ c :: r).dropWhile p = l.dropWhile p ++ c :: r := by
  induction l with
  | nil => exact List.dropWhile_cons_of_neg (by simp [hc])
  | cons d l ih =>
    by_cases hd : p d = true
    · rw [List.cons_append, List.dropWhile_cons_of_pos hd, List.dropWhile_cons_of_pos hd, ih]
    · rw [List.cons_append, List.dropWhile_cons_of_neg hd, List.dropWhile_cons_of_neg hd,
        List.cons_append]

theorem takeWhile_append_cons (hc : p c = false) (l r : List Char) :
    (l ++ c :: r).takeWhile p = l.takeWhile p := by
  induction l with
  | nil => exact List.takeWhile_cons_of_neg (by simp [hc])
  | cons d l ih =>
    by_cases hd : p d = true
    · rw [List.cons_append, List.takeWhile_cons_of_pos hd, List.takeWhile_cons_of_pos hd, ih]
    · rw [List.cons_append, List.takeWhile_cons_of_neg hd, List.takeWhile_cons_of_neg hd]

end Runs

/-- Dropping the slashes at the end of a text does not reach over another character. -/
theorem toList_trimSlashes {s : String} {a b : List Char} {c : Char} (hc : c ≠ '/')
    (hs : s.toList = a ++ c :: b) :
    (trimSlashes s).toList = a ++ c :: (b.reverse.dropWhile (· == '/')).reverse := by
  rw [trimSlashes, String.toList_ofList, hs, List.reverse_append, List.reverse_cons,
    List.append_assoc, List.singleton_append, dropWhile_append_cons (by simpa using hc)]
  simp

/-- A text is what `trimSlashes` leaves of it with slashes behind it. -/
theorem exists_trimSlashes (s : String) :
    ∃ slashes, s = trimSlashes s ++ slashes ∧ ∀ d ∈ slashes.toList, d = '/' := by
  refine ⟨String.ofList (s.toList.rtakeWhile (· == '/')), ?_, fun d hd => ?_⟩
  · have hend : (trimSlashes s).toList ++ s.toList.rtakeWhile (· == '/') = s.toList := by
      rw [trimSlashes, String.toList_ofList]
      exact List.rdropWhile_append_rtakeWhile
    rw [← String.toList_inj, String.toList_append, String.toList_ofList, hend]
  · rw [String.toList_ofList] at hd
    have hslash := List.mem_rtakeWhile_imp hd
    exact beq_iff_eq.mp hslash

theorem getLast?_trimSlashes (s : String) : (trimSlashes s).toList.getLast? ≠ some '/' := by
  intro h
  rw [trimSlashes, String.toList_ofList, List.getLast?_reverse] at h
  have hnot := List.head?_dropWhile_not (· == '/') s.toList.reverse
  rw [h] at hnot
  exact absurd hnot (by decide)

/-! ### Addresses behind an endpoint -/

/-- What is left of the part of an address behind a slash when margins and line breaks are gone. -/
def cleanEnd (l : List Char) : List Char :=
  (l.reverse.dropWhile Url.isMargin).reverse.filter (!Url.isBreak ·)

/-- The text of a scheme and what follows its colon, up to a slash, is cleaned apart from what
stands behind that slash. -/
theorem clean_append (scheme : Url.Scheme) (a b : List Char) :
    Url.clean (scheme.text.toList ++ ':' :: a ++ '/' :: b) =
      scheme.text.toList ++ ':' :: (a.filter (!Url.isBreak ·) ++ '/' :: cleanEnd b) := by
  obtain ⟨d, l, hd, hmargin⟩ : ∃ d l, scheme.text.toList = d :: l ∧ Url.isMargin d = false := by
    cases scheme
    · exact ⟨'h', ['t', 't', 'p'], by decide, by decide⟩
    · exact ⟨'h', ['t', 't', 'p', 's'], by decide, by decide⟩
  have hscheme : scheme.text.toList.filter (!Url.isBreak ·) = scheme.text.toList := by
    cases scheme <;> decide
  have hfront : (scheme.text.toList ++ ':' :: a ++ '/' :: b).dropWhile Url.isMargin =
      scheme.text.toList ++ ':' :: a ++ '/' :: b := by
    rw [hd]
    exact List.dropWhile_cons_of_neg (by simp [hmargin])
  rw [Url.clean, hfront, List.reverse_append, List.reverse_cons, List.append_assoc,
    List.singleton_append, dropWhile_append_cons (by decide), List.reverse_append,
    List.reverse_cons, List.reverse_reverse, List.filter_append, List.filter_append,
    List.filter_append, hscheme]
  simp [cleanEnd, Url.isBreak]

/-- An address behind a scheme and a colon is read from its first character on that is no slash. -/
theorem parse_append (scheme : Url.Scheme) (a : List Char) {s uri : String} {u : List Char}
    (hs : s.toList = scheme.text.toList ++ ':' :: a) (hu : uri.toList = '/' :: u) :
    Url.parse (s ++ uri) = Url.parseServer scheme
      ((a.filter (!Url.isBreak ·) ++ '/' :: cleanEnd u).dropWhile Url.isSlash) := by
  have hcolon : ':' ∉ scheme.text.toList := by
    cases scheme <;> decide
  rw [Url.parse, String.toList_append, hs, hu, clean_append, Text.cutFirst_append hcolon]
  simp only [Url.Scheme.ofName?_text]

/-! ### Endpoints that name a server -/

theorem ofSettings_eq_ok_iff {settings : Settings} {c : Client} :
    ofSettings settings = .ok c ↔ ∃ credentials, settings.validate = .ok credentials ∧
      c = ⟨trimSlashes settings.endpoint, settings.userAgent, credentials,
        settings.signOptions⟩ := by
  unfold ofSettings
  rw [bind_eq_ok_iff]
  refine exists_congr fun credentials => and_congr_right fun _ => ?_
  constructor
  · exact fun h => (Except.ok.inj h).symm
  · rintro rfl
    rfl

theorem endpoint_of_ofSettings {settings : Settings} {c : Client}
    (hc : ofSettings settings = .ok c) :
    c.endpoint = trimSlashes settings.endpoint ∧ ∃ (scheme : Url.Scheme) (rest : List Char),
      settings.endpoint.toList = scheme.text.toList ++ ':' :: '/' :: '/' :: rest := by
  obtain ⟨credentials, hvalid, rfl⟩ := ofSettings_eq_ok_iff.mp hc
  obtain ⟨rest, hrest | hrest⟩ :=
    Settings.hasWebScheme_iff.mp (Settings.validate_eq_ok_iff.mp hvalid).1
  · exact ⟨rfl, .http, rest.toList, by rw [hrest, String.toList_append]; rfl⟩
  · exact ⟨rfl, .https, rest.toList, by rw [hrest, String.toList_append]; rfl⟩

/-- All addresses behind an endpoint that names a server have the scheme and the authority that the
endpoint gives. -/
theorem exists_authority {endpoint : String} (h : NamesServer endpoint) :
    ∃ (scheme : Url.Scheme) (name : List Char), ∀ uri url, uri.toList.head? = some '/' →
      Url.parse (trimSlashes endpoint ++ uri) = .ok url →
        url.scheme = scheme ∧ Url.Authority.parse scheme name = .ok url.authority := by
  obtain ⟨scheme, rest, hrest, c, hc, hslash, hbreak⟩ := h
  obtain ⟨a, b, rfl⟩ := List.append_of_mem hc
  have hne : c ≠ '/' := by
    rintro rfl
    exact absurd hslash (by decide)
  have htrim := toList_trimSlashes (a := scheme.text.toList ++ ':' :: '/' :: '/' :: a) (b := b)
    hne (by rw [hrest]; simp)
  -- the name starts behind the slashes, with `c` at the latest, and ends before the next mark
  refine ⟨scheme, ((('/' :: '/' :: a.filter (!Url.isBreak ·)).dropWhile Url.isSlash) ++ c ::
    (b.reverse.dropWhile (· == '/')).reverse.filter (!Url.isBreak ·)).takeWhile
      (!Url.endsAuthority ·), fun uri url hhead hurl => ?_⟩
  obtain ⟨u, hu⟩ := List.head?_eq_some_iff.mp hhead
  rw [parse_append scheme ('/' :: '/' :: a ++ c :: (b.reverse.dropWhile (· == '/')).reverse)
    (by rw [htrim]; simp) hu] at hurl
  have hfilter : ('/' :: '/' :: a ++ c :: (b.reverse.dropWhile (· == '/')).reverse).filter
      (!Url.isBreak ·) ++ '/' :: cleanEnd u = '/' :: '/' :: a.filter (!Url.isBreak ·) ++
        c :: ((b.reverse.dropWhile (· == '/')).reverse.filter (!Url.isBreak ·)
          ++ '/' :: cleanEnd u) := by
    rw [List.filter_append, List.filter_cons_of_pos (by decide),
      List.filter_cons_of_pos (by decide), List.filter_cons_of_pos (by simp [hbreak]),
      List.append_assoc]
    rfl
  rw [hfilter, dropWhile_append_cons hslash] at hurl
  unfold Url.parseServer at hurl
  obtain ⟨authority, hauthority, hurl⟩ := bind_eq_ok_iff.mp hurl
  obtain rfl := Except.ok.inj hurl
  rw [← List.cons_append, ← List.append_assoc,
    takeWhile_append_cons (by decide)] at hauthority
  exact ⟨rfl, hauthority⟩

/-- **The endpoint alone chooses the server.**  For settings whose endpoint names a server, there
are a scheme and an authority such that every request which is built for a path, whatever follows
its slash, has that scheme, that authority with its host and its port, and that host as its host
header. -/
theorem exists_server {settings : Settings} {c : Client} (hc : ofSettings settings = .ok c)
    (hs : NamesServer settings.endpoint) :
    ∃ (scheme : Url.Scheme) (authority : Url.Authority), ∀ uri body clock request,
      uri.toList.head? = some '/' → (c.build uri body).result clock = .ok request →
        request.target.scheme = some scheme.text ∧
          request.target.authority = some authority.text ∧
            (request.fields.values .host).map (·.bytes) = [Text.utf8 authority.host.text] := by
  have hend := (endpoint_of_ofSettings hc).1
  obtain ⟨scheme, name, hname⟩ := exists_authority hs
  have built {uri body : String} {clock : Clock} {request : Request}
      (hu : uri.toList.head? = some '/') (h : (c.build uri body).result clock = .ok request) :
      ∃ authority, Url.Authority.parse scheme name = .ok authority ∧
        request.target.scheme = some scheme.text ∧
          request.target.authority = some authority.text ∧
            (request.fields.values .host).map (·.bytes) = [Text.utf8 authority.host.text] := by
    obtain ⟨url, s, t, value, hurl, hsays, -, -, rfl⟩ := exists_of_result_build h
    rw [hend] at hurl
    obtain ⟨rfl, hauthority⟩ := hname uri url hu hurl
    refine ⟨url.authority, hauthority, rfl, rfl, ?_⟩
    rw [Fields.values_set, if_neg (by decide)]
    exact congrArg (· :: []) (FieldValue.bytes_of_ofString? hsays.host)
  cases hauthority : Url.Authority.parse scheme name with
  | error fault =>
    -- nothing can be built at all
    refine ⟨scheme, ⟨"", .domain "", none⟩, fun uri body clock request hu h => ?_⟩
    obtain ⟨authority, hok, -⟩ := built hu h
    rw [hauthority] at hok
    exact absurd hok (by simp)
  | ok authority =>
    refine ⟨scheme, authority, fun uri body clock request hu h => ?_⟩
    obtain ⟨authority', hok, h⟩ := built hu h
    rw [hauthority] at hok
    obtain rfl := Except.ok.inj hok
    exact h

/-- A call of the public service with a path that could be taken for the names of other servers. -/
theorem server_of_defaultEndpoint : NamesServer defaultEndpoint ∧ ∃ c scheme authority request,
    ofSettings { credentials := some ⟨110380, "AK", "SK"⟩ } = .ok c ∧
      (c.build "/\\b.example/..//@c.example" "").result (.fixed (.atSecond 1700000000)) =
        .ok request ∧
          request.target.scheme = some (Url.Scheme.text scheme) ∧
            request.target.authority = some (Url.Authority.text authority) ∧
              (request.fields.values .host).map (·.bytes) = [Text.utf8 authority.host.text] := by
  have hc : ofSettings { credentials := some ⟨110380, "AK", "SK"⟩ } =
      .ok ⟨defaultEndpoint, defaultUserAgent, ⟨110380, "AK", "SK"⟩, {}⟩ := by decide +kernel
  have hserver : NamesServer defaultEndpoint :=
    ⟨.http, "120.48.16.137:8360".toList, by decide, '1', by decide, by decide, by decide⟩
  have hurl : Url.parse (defaultEndpoint ++ "/\\b.example/..//@c.example") =
      (Url.Authority.parse .http "120.48.16.137:8360".toList).map fun authority =>
        ⟨.http, authority, [[], [], "@c.example".toList], none, none⟩ := by rfl
  rw [parse_authority_default] at hurl
  obtain ⟨request, h⟩ := exists_result_build
    ⟨defaultEndpoint, defaultUserAgent, ⟨110380, "AK", "SK"⟩, {}⟩ "/\\b.example/..//@c.example" ""
    (.fixed (.atSecond 1700000000)) hurl (by decide +kernel) (by decide +kernel)
    ⟨by decide, by decide⟩ (by decide +kernel) rfl
  obtain ⟨scheme, authority, hall⟩ := exists_server hc hserver
  exact ⟨hserver, _, scheme, authority, request, hc, h, hall _ _ _ _ rfl h⟩

/-! ### Endpoints that name no server -/

/-- An endpoint that passes and names no server gives the scheme alone: an address behind it is read
as one behind the scheme and a colon. -/
theorem parse_append_of_not_namesServer {settings : Settings} {c : Client}
    (hc : ofSettings settings = .ok c) (hs : ¬ NamesServer settings.endpoint) :
    ∃ scheme : Url.Scheme, ∀ uri : String, uri.toList.head? = some '/' →
      Url.parse (c.endpoint ++ uri) = Url.parse (scheme.text ++ ":" ++ uri) := by
  obtain ⟨hend, scheme, rest, hrest⟩ := endpoint_of_ofSettings hc
  refine ⟨scheme, fun uri hhead => ?_⟩
  obtain ⟨u, hu⟩ := List.head?_eq_some_iff.mp hhead
  have htrim := toList_trimSlashes (by decide) hrest
  -- nothing but slashes and line breaks is left behind the colon
  have hslashes : ∀ d ∈ (('/' :: '/' :: rest).reverse.dropWhile (· == '/')).reverse.filter
      (!Url.isBreak ·), Url.isSlash d = true := by
    intro d hd
    obtain ⟨hd, hbreak⟩ := List.mem_filter.mp hd
    have hmem := (List.dropWhile_sublist _).subset (List.mem_reverse.mp hd)
    rcases List.mem_cons.mp (List.mem_reverse.mp hmem) with rfl | hmem
    · decide
    rcases List.mem_cons.mp hmem with rfl | hmem
    · decide
    by_contra hslash
    exact hs ⟨scheme, rest, hrest, d, hmem, by simpa using hslash, by simpa using hbreak⟩
  rw [hend, parse_append scheme _ htrim hu, List.dropWhile_append_of_pos hslashes,
    parse_append scheme [] (by simp) hu]
  rfl

/-- Settings whose endpoint is a scheme and two slashes pass, and then the first name in the path of
the caller is the server. -/
theorem caller_chooses_server : ∃ c a b,
    ofSettings { endpoint := "http://", credentials := some ⟨110380, "AK", "SK"⟩ } = .ok c ∧
      (c.build "/a.example/x" "").result (.fixed (.atSecond 1700000000)) = .ok a ∧
        (c.build "/b.example/x" "").result (.fixed (.atSecond 1700000000)) = .ok b ∧
          a.target.authority = some "a.example" ∧ b.target.authority = some "b.example" := by
  have hc : ofSettings { endpoint := "http://", credentials := some ⟨110380, "AK", "SK"⟩ } =
      .ok ⟨"http:", defaultUserAgent, ⟨110380, "AK", "SK"⟩, {}⟩ := by decide +kernel
  have built {uri : String} {url : Url} (hurl : Url.parse ("http:" ++ uri) = .ok url)
      (ht : Target.parse url.text = .ok (.ofUrl url)) : ∃ request,
      ((Client.mk "http:" defaultUserAgent ⟨110380, "AK", "SK"⟩ {}).build uri "").result
        (.fixed (.atSecond 1700000000)) = .ok request ∧
          request.target.authority = some url.authority.text := by
    obtain ⟨request, h⟩ := exists_result_build
      ⟨"http:", defaultUserAgent, ⟨110380, "AK", "SK"⟩, {}⟩ uri "" (.fixed (.atSecond 1700000000))
      hurl ht (by decide +kernel) ⟨by decide, by decide⟩ (by decide +kernel) rfl
    obtain ⟨url', _, _, _, hurl', -, -, -, rfl⟩ := exists_of_result_build h
    obtain rfl := Except.ok.inj (hurl.symm.trans hurl')
    exact ⟨_, h, rfl⟩
  have authority {name : String} (hne : name.toList ≠ [])
      (hname : ∀ c ∈ name.toList, Url.isNameChar c = true)
      (ha : Url.Domain.ascii? name.toList = some name.toList)
      (hof : Url.Host.ofAscii name.toList = .ok (.domain name)) :
      Url.Authority.parse .http name.toList = .ok ⟨"", .domain name, none⟩ := by
    rw [Url.Authority.parse_of_isNameChar hname, Url.Host.parse_of_isNameChar hname hne, ha]
    exact congrArg (Except.map _) hof
  have ha : Url.parse ("http:" ++ "/a.example/x") =
      (Url.Authority.parse .http "a.example".toList).map fun authority =>
        ⟨.http, authority, [['x']], none, none⟩ := by rfl
  have hb : Url.parse ("http:" ++ "/b.example/x") =
      (Url.Authority.parse .http "b.example".toList).map fun authority =>
        ⟨.http, authority, [['x']], none, none⟩ := by rfl
  rw [authority (by decide) (List.forall_iff_forall_mem.mp (by decide)) (by decide +kernel)
    (by decide +kernel)] at ha hb
  obtain ⟨a, hbuild, hauthority⟩ := built ha (by decide +kernel)
  obtain ⟨b, hbuild', hauthority'⟩ := built hb (by decide +kernel)
  exact ⟨_, a, b, hc, hbuild, hbuild', hauthority, hauthority'⟩

end AssetAccess.Client
