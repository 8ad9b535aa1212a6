import ParsecCloud.Addr.Shown

/- What is read of the URLs built for an address: the server, the organization and the parameters,
   from either notation. -/
namespace ParsecCloud.Addr
open Rust Urls Certif ParsecUrlAsHTTPScheme

def BaseParsecAddr.normalized (base : BaseParsecAddr) : BaseParsecAddr :=
  { base with port :=
      if base.port = some (BaseParsecAddr.defaultPort base.useSsl) then none else base.port }

/-- The segments of a path that shows this organization, or none. -/
def RawShows (crates : Crates) (raw : List Text) : Option Text → Prop
  | none => raw = []
  | some name => ∃ segment, raw = [segment] ∧ SafeSegment segment ∧
      crates.url.percentDecode segment = some name

/-- What the types of addresses read of a URL. -/
structure Reads (crates : Crates) (parsed : ParsecUrlAsHTTPScheme) (base : BaseParsecAddr)
    (name : Option Text) (pairs : List (Text × Text)) : Prop where
  base : BaseParsecAddr.fromUrl crates parsed = .ok base
  path : ∃ raw, RawShows crates raw name ∧ parsed.url.path = .segments (rooted raw)
  pairs : (crates.url.queryPairs parsed.url).filter (fun pair => pair.1 ≠ noSsl) = pairs

theorem replaceFirst_append {pattern replacement rest : Text} (nonempty : pattern ≠ []) :
    replaceFirst pattern replacement (pattern ++ rest) = replacement ++ rest := by
  cases pattern with
  | nil => exact absurd rfl nonempty
  | cons c pattern => simp [replaceFirst]

theorem rawShows_safe {crates : Crates} {raw : List Text} {name : Option Text}
    (shows_ : RawShows crates raw name) : ∀ segment ∈ raw, SafeSegment segment := by
  cases name with
  | none =>
    cases shows_
    simp
  | some name =>
    obtain ⟨segment, rfl, safe, -⟩ := shows_
    simpa using safe

variable {crates : Crates} {host : Text} {port : Option UInt16} {useSsl : Bool}
  {raw : List Text} {name : Option Text} {pairs : List (Text × Text)} {url : Url}

theorem fromUrl_shows (shown : Shows crates (httpScheme useSsl) host
      (explicitPort (httpScheme useSsl) port) raw pairs url) :
    BaseParsecAddr.fromUrl crates ⟨url⟩ =
      .ok (BaseParsecAddr.normalized ⟨host, port, useSsl⟩) := by
  rw [explicitPort_httpScheme] at shown
  rw [shown.same]
  unfold BaseParsecAddr.fromUrl
  simp only [served, useSslOf_httpScheme, BaseParsecAddr.normalized, lift, expectSome,
    answer_bind]
  by_cases isDefault : port = some (BaseParsecAddr.defaultPort useSsl)
  · rw [if_pos isDefault]
    rfl
  · rw [if_neg isDefault]
    cases port with
    | none => rfl
    | some port =>
      have other : port ≠ BaseParsecAddr.defaultPort useSsl := fun same => isDefault (congrArg _ same)
      rw [Option.bind_some, if_neg other]

theorem isName_redirect : IsName redirect := ⟨by decide, all_chars (by decide)⟩

theorem safeSegment_redirect : SafeSegment redirect :=
  ⟨by decide, all_chars (by decide), by decide⟩

theorem readUseSsl_noSslPairs (noOther : ∀ pair ∈ pairs, pair.1 ≠ noSsl) :
    readUseSsl crates (((noSslPairs useSsl ++ pairs).filter fun pair => pair.1 = noSsl).map (·.2)) =
      .ok useSsl := by
  have others : (pairs.filter fun pair => pair.1 = noSsl) = [] := by
    rw [List.filter_eq_nil_iff]
    intro pair member
    simpa using noOther pair member
  rw [List.filter_append, others, List.append_nil]
  cases useSsl with
  | true => rfl
  | false => rfl

variable (documented : crates.Documented)
include documented

theorem parseUrl_shown (returned : crates.url.Returned host) {scheme : Text}
    (isScheme : IsScheme scheme) (safe : ∀ segment ∈ raw, SafeSegment segment)
    (shown : Shows crates scheme host port raw pairs url) :
    ∃ url', parseUrl crates url.asStr = .ok url' ∧
      Shows crates scheme host (explicitPort scheme port)
        (if isSpecial scheme then rooted raw else raw) pairs url' := by
  obtain ⟨url', isUrl, shown'⟩ := shown.parse documented isScheme returned safe
  refine ⟨url', ?_, shown'⟩
  rw [parseUrl, isUrl]

/-- The parsec3 URL, with what it says of ssl before the parameters. -/
theorem fromStr_shown (returned : crates.url.Returned host)
    (rawShows : RawShows crates raw name) (noOther : ∀ pair ∈ pairs, pair.1 ≠ noSsl)
    (shown : Shows crates parsecScheme host port raw (noSslPairs useSsl ++ pairs) url) :
    ∃ parsed, ParsecUrlAsHTTPScheme.fromStr crates url.asStr = .ok parsed ∧
      Reads crates parsed (BaseParsecAddr.normalized ⟨host, port, useSsl⟩) name pairs := by
  have safe := rawShows_safe rawShows
  obtain ⟨url', isUrl', shown'⟩ :=
    parseUrl_shown documented returned isScheme_parsec safe shown
  have notSpecial : isSpecial parsecScheme = false := by decide
  rw [explicitPort_parsec, notSpecial] at shown'
  have isScheme : url'.scheme = parsecScheme := by rw [shown'.same]; rfl
  have isQuery : readUseSsl crates (((noSslPairs useSsl ++ pairs).filter
      fun pair => pair.1 = noSsl).map (·.2)) = .ok useSsl := readUseSsl_noSslPairs noOther
  rw [← shown'.pairs] at isQuery
  have replaced : replaceFirst parsecScheme (httpScheme useSsl) url'.asStr =
      { url' with scheme := httpScheme useSsl }.asStr := by
    rw [Url.asStr, isScheme]
    exact replaceFirst_append (by decide)
  have shownHttp : Shows crates (httpScheme useSsl) host port raw (noSslPairs useSsl ++ pairs)
      { url' with scheme := httpScheme useSsl } := by
    refine ⟨?_, shown'.safe, ?_⟩
    · rw [shown'.same]
      rfl
    · rw [← shown'.pairs]
      exact documented.url.pairsOfQuery _ _ rfl
  obtain ⟨last, isLast, shownLast⟩ :=
    parseUrl_shown documented returned (isScheme_httpScheme useSsl) safe shownHttp
  rw [isSpecial_httpScheme, if_pos rfl] at shownLast
  refine ⟨⟨last⟩, ?_, fromUrl_shows shownLast, ⟨raw, rawShows, by rw [shownLast.same]; rfl⟩, ?_⟩
  · unfold ParsecUrlAsHTTPScheme.fromStr
    rw [isUrl', answer_bind]
    simp only
    rw [isQuery, answer_bind, if_pos isScheme, replaced, isLast]
    rfl
  · rw [shownLast.pairs, List.filter_append]
    have first : (noSslPairs useSsl).filter (fun pair => pair.1 ≠ noSsl) = [] := by
      cases useSsl with
      | true => rfl
      | false => rfl
    rw [first, List.nil_append, List.filter_eq_self]
    intro pair member
    simpa using noOther pair member

/-- A parsec3 URL is not taken for a redirection. -/
theorem fromHttpRedirection_refuses (returned : crates.url.Returned host)
    (safe : ∀ segment ∈ raw, SafeSegment segment)
    (shown : Shows crates parsecScheme host port raw pairs url) :
    ParsecUrlAsHTTPScheme.fromHttpRedirection crates url.asStr =
      refuse (.invalidUrlScheme httpOrHttpsScheme) := by
  obtain ⟨url', isUrl', shown'⟩ :=
    parseUrl_shown documented returned isScheme_parsec safe shown
  have notHttp : ¬ IsHttp url'.scheme := by
    rw [shown'.same]
    show ¬ IsHttp parsecScheme
    decide
  unfold ParsecUrlAsHTTPScheme.fromHttpRedirection parseHttp
  rw [isUrl', answer_bind, if_neg notHttp]
  rfl

/-- Neither is a redirection URL taken for a parsec3 one. -/
theorem fromStr_refuses (returned : crates.url.Returned host)
    (safe : ∀ segment ∈ raw, SafeSegment segment) (noOther : ∀ pair ∈ pairs, pair.1 ≠ noSsl)
    (shown : Shows crates (httpScheme useSsl) host port raw pairs url) :
    ParsecUrlAsHTTPScheme.fromStr crates url.asStr = refuse (.invalidUrlScheme parsecScheme) := by
  obtain ⟨url', isUrl', shown'⟩ :=
    parseUrl_shown documented returned (isScheme_httpScheme useSsl) safe shown
  have notParsec : url'.scheme ≠ parsecScheme := by
    rw [shown'.same]
    show httpScheme useSsl ≠ parsecScheme
    cases useSsl <;> decide
  have isQuery : readUseSsl crates (((noSslPairs true ++ pairs).filter
      fun pair => pair.1 = noSsl).map (·.2)) = .ok true := readUseSsl_noSslPairs noOther
  rw [noSslPairs, if_pos rfl, List.nil_append, ← shown'.pairs] at isQuery
  unfold ParsecUrlAsHTTPScheme.fromStr
  rw [isUrl', answer_bind]
  simp only
  rw [isQuery, answer_bind, if_neg notParsec]

/-- The redirection URL, with the scheme for what it says of ssl. -/
theorem fromHttpRedirection_shown (returned : crates.url.Returned host)
    (rawShows : RawShows crates raw name) (noOther : ∀ pair ∈ pairs, pair.1 ≠ noSsl)
    (shown : Shows crates (httpScheme useSsl) host (explicitPort (httpScheme useSsl) port)
      (redirect :: raw) pairs url) :
    ∃ parsed, ParsecUrlAsHTTPScheme.fromHttpRedirection crates url.asStr = .ok parsed ∧
      Reads crates parsed (BaseParsecAddr.normalized ⟨host, port, useSsl⟩) name pairs := by
  have safe := rawShows_safe rawShows
  have safeAll : ∀ segment ∈ redirect :: raw, SafeSegment segment := by
    intro segment member
    cases member with
    | head => exact safeSegment_redirect
    | tail _ member => exact safe segment member
  obtain ⟨url', isUrl', shown'⟩ :=
    parseUrl_shown documented returned (isScheme_httpScheme useSsl) safeAll shown
  rw [isSpecial_httpScheme, if_pos rfl, rooted, explicitPort_twice] at shown'
  have isHttp : IsHttp url'.scheme := by rw [shown'.same]; exact isHttp_httpScheme useSsl
  have allKept : (crates.url.queryPairs url').filter (fun pair => pair.1 ≠ noSsl) = pairs := by
    rw [shown'.pairs, List.filter_eq_self]
    intro pair member
    simpa using noOther pair member
  obtain ⟨safeQuery, readAgain⟩ := documented.url.pairsSerialized pairs
  have isQuery := documented.url.querySet url' _ safeQuery
  have isPath := documented.url.pathSet
    { url' with query := some (crates.url.serializePairs pairs) } (redirect :: raw) raw isHttp
    (by rw [shown'.same]; rfl) safe
  have segments : Url.pathSegments { url' with query := some (crates.url.serializePairs pairs) } =
      some (redirect :: raw) := by
    rw [shown'.same]
    rfl
  have last : Shows crates (httpScheme useSsl) host (explicitPort (httpScheme useSsl) port)
      (rooted raw) pairs
      { url' with
        query := some (crates.url.serializePairs pairs)
        path := .segments (rooted raw) } := by
    refine ⟨?_, ?_, readAgain _ rfl⟩
    · rw [shown'.same]
      rfl
    · intro query isQuery
      cases isQuery
      exact safeQuery
  refine ⟨_, ?_, fromUrl_shows last, ⟨raw, rawShows, rfl⟩, ?_⟩
  · unfold ParsecUrlAsHTTPScheme.fromHttpRedirection parseHttp
    rw [isUrl', answer_bind, if_pos isHttp, cleanedQuery, allKept, isQuery, answer_bind, segments]
    simp only [if_true]
    rw [isPath]
  · rw [last.pairs, List.filter_eq_self]
    intro pair member
    simpa using noOther pair member

end ParsecCloud.Addr
