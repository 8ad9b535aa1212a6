import ParsecCloud.Addr.Addresses

/- What a URL built for an address shows, step after step, and what is read of it. -/
namespace ParsecCloud.Addr
open Rust Urls Certif ParsecUrlAsHTTPScheme

def Msgpack.Decodes (codec : Msgpack α) : Prop :=
  ∀ data, ∃ raw, codec.toVec data = some raw ∧ codec.fromSlice raw = some data

/-- What the other crates are relied on for. -/
structure Crates.Documented (crates : Crates) : Prop where
  url : crates.url.Documented
  nfcTwice : ∀ text, crates.nfc (crates.nfc text) = crates.nfc text
  wordAscii : ∀ c, crates.isWordCharacter c = true → c.toNat < 128 →
    c.isAlphanum = true ∨ c = '_'
  base64 : ∀ raw, crates.base64Decode (crates.base64Encode raw) = some raw
  verifyKey : crates.verifyKey.Decodes
  bootstrapToken : crates.bootstrapToken.Decodes
  workspacePath : crates.workspacePath.Decodes
  invitationToken : crates.invitationToken.Decodes

section Schemes

theorem isScheme_parsec : IsScheme parsecScheme :=
  ⟨⟨_, _, rfl, by decide⟩, all_chars (by decide), by decide⟩

theorem isScheme_httpScheme (useSsl : Bool) : IsScheme (httpScheme useSsl) := by
  cases useSsl with
  | false => exact ⟨⟨_, _, rfl, by decide⟩, all_chars (by decide), by decide⟩
  | true => exact ⟨⟨_, _, rfl, by decide⟩, all_chars (by decide), by decide⟩

theorem isHttp_httpScheme (useSsl : Bool) : IsHttp (httpScheme useSsl) := by
  cases useSsl with
  | false => exact Or.inl rfl
  | true => exact Or.inr rfl

theorem useSslOf_httpScheme (crates : Crates) (useSsl : Bool) :
    BaseParsecAddr.useSslOf crates (httpScheme useSsl) = .ok useSsl := by
  cases useSsl with
  | false => rfl
  | true => rfl

theorem isSpecial_httpScheme (useSsl : Bool) : isSpecial (httpScheme useSsl) = true := by
  cases useSsl <;> decide

theorem explicitPort_parsec (port : Option UInt16) : explicitPort parsecScheme port = port := by
  have noDefault : defaultPort parsecScheme = none := by decide
  rw [explicitPort, noDefault]
  cases port with
  | none => rfl
  | some port => rfl

theorem explicitPort_httpScheme (useSsl : Bool) (port : Option UInt16) :
    explicitPort (httpScheme useSsl) port =
      if port = some (BaseParsecAddr.defaultPort useSsl) then none else port := by
  have isDefault : defaultPort (httpScheme useSsl) = some (BaseParsecAddr.defaultPort useSsl) := by
    cases useSsl <;> decide
  rw [explicitPort, isDefault]

end Schemes

def served (scheme host : Text) (port : Option UInt16) (raw : List Text) (query : Option Text) :
    Url :=
  ⟨scheme, [], [], some host, port, .segments raw, query, none⟩

structure Shows (crates : Crates) (scheme host : Text) (port : Option UInt16) (raw : List Text)
    (pairs : List (Text × Text)) (url : Url) : Prop where
  same : url = served scheme host port raw url.query
  safe : ∀ query, url.query = some query → SafeQuery query
  pairs : crates.url.queryPairs url = pairs

variable {crates : Crates} (documented : crates.Documented)
include documented

section Building

theorem shows_served (scheme host : Text) (port : Option UInt16) (raw : List Text) :
    Shows crates scheme host port raw [] (served scheme host port raw none) := by
  constructor
  · rfl
  · intro query isQuery
    cases isQuery
  · exact documented.url.noPairs _ rfl

variable {scheme host : Text} {port : Option UInt16} {raw : List Text}
  {pairs : List (Text × Text)} {url : Url}

theorem Shows.append (shown : Shows crates scheme host port raw pairs url)
    (pair : Text × Text) :
    Shows crates scheme host port raw (pairs ++ [pair]) (crates.url.appendPair url pair) := by
  obtain ⟨query, isQuery, safe, appended⟩ := documented.url.pairAppended url pair
  rw [isQuery]
  constructor
  · rw [shown.same]
    rfl
  · intro other isOther
    cases isOther
    exact safe shown.safe
  · rw [appended, shown.pairs]

theorem Shows.appendAll (shown : Shows crates scheme host port raw pairs url)
    (more : List (Text × Text)) :
    Shows crates scheme host port raw (pairs ++ more) (appendPairs crates url more) := by
  induction more generalizing pairs url with
  | nil =>
    rw [List.append_nil]
    exact shown
  | cons pair more ih =>
    have := ih (shown.append documented pair)
    rwa [List.append_assoc] at this

theorem Shows.push (shown : Shows crates scheme host port raw pairs url) {name : Text}
    (isName : IsName name) :
    ∃ url' segment, pushSegment crates url name = .ok url' ∧
      Shows crates scheme host port (pushed raw segment) pairs url' ∧ SafeSegment segment ∧
      crates.url.percentDecode segment = some name ∧
      ((∀ c ∈ name, isNameChar c = true) → segment = name) := by
  have isPath : url.path = .segments raw := by rw [shown.same]; rfl
  obtain ⟨segment, safe, isPushed, decoded, plain⟩ :=
    documented.url.segmentPushed url raw name isPath isName
  refine ⟨{ url with path := .segments (pushed raw segment) }, segment, ?_, ?_, safe, decoded,
    plain⟩
  · rw [pushSegment, isPushed]
    rfl
  · constructor
    · rw [shown.same]
      rfl
    · exact shown.safe
    · rw [← shown.pairs]
      exact documented.url.pairsOfQuery _ _ rfl

theorem Shows.parse (shown : Shows crates scheme host port raw pairs url)
    (isScheme : IsScheme scheme) (returned : crates.url.Returned host)
    (safe : ∀ segment ∈ raw, SafeSegment segment) :
    ∃ url', crates.url.parse url.asStr = .ok url' ∧
      Shows crates scheme host (explicitPort scheme port)
        (if isSpecial scheme then rooted raw else raw) pairs url' := by
  have plain : crates.url.Plain url := by
    have safeQuery := shown.safe
    rw [shown.same]
    exact ⟨isScheme, rfl, rfl, ⟨host, rfl, returned⟩, ⟨raw, rfl, safe⟩, safeQuery, rfl⟩
  refine ⟨_, documented.url.plainRead url plain, ?_, shown.safe, ?_⟩
  · rw [shown.same]
    rfl
  · rw [← shown.pairs]
    exact documented.url.pairsOfQuery _ _ rfl

end Building

theorem returned_ne_nil {host : Text} (returned : crates.url.Returned host) : host ≠ [] := by
  obtain ⟨text, url, isUrl, isHttp, isHost⟩ := returned
  obtain ⟨host, isHost', nonempty⟩ := documented.url.hostRead text url isUrl isHttp
  rw [isHost] at isHost'
  cases isHost'
  exact nonempty

section Writing
variable {base : BaseParsecAddr} (returned : crates.url.Returned base.hostname)
include returned

theorem serverUrl_shows {scheme : Text} (isScheme : IsScheme scheme) :
    ∃ url, base.serverUrl crates scheme = .ok url ∧
      Shows crates scheme base.hostname (explicitPort scheme base.port)
        (if isSpecial scheme then [[]] else []) [] url := by
  have text : scheme ++ "://".toList ++ base.hostname =
      (served scheme base.hostname none [] none).asStr := by
    simp [served, Url.asStr, Url.authorityText, credentialsText, portText, Path.text,
      segmentsText, optionalText]
  obtain ⟨url, isUrl, shown⟩ := (shows_served documented scheme base.hostname none []).parse
    documented isScheme returned (fun _ none => by cases none)
  have isHost : url.host = some base.hostname := by rw [shown.same]; rfl
  have sameScheme : url.scheme = scheme := by rw [shown.same]; rfl
  have isPort := documented.url.portSet url base.hostname base.port isHost
    (returned_ne_nil documented returned) (sameScheme ▸ isScheme.notFile)
  refine ⟨{ url with port := explicitPort url.scheme base.port }, ?_, ?_, shown.safe, ?_⟩
  · rw [BaseParsecAddr.serverUrl, BaseParsecAddr.parseValidated, text, isUrl]
    exact congrArg (expectSome _) isPort
  · rw [sameScheme, shown.same]
    rfl
  · rw [← shown.pairs]
    exact documented.url.pairsOfQuery _ _ rfl

def noSslPairs (useSsl : Bool) : List (Text × Text) :=
  if useSsl then [] else [(noSsl, "true".toList)]

theorem toUrl_shows : ∃ url, base.toUrl crates = .ok url ∧
    Shows crates parsecScheme base.hostname base.port [] (noSslPairs base.useSsl) url := by
  obtain ⟨url, isUrl, shown⟩ := serverUrl_shows documented returned isScheme_parsec
  rw [explicitPort_parsec] at shown
  cases useSsl : base.useSsl with
  | true =>
    refine ⟨url, ?_, shown⟩
    simp [BaseParsecAddr.toUrl, isUrl, useSsl]
  | false =>
    refine ⟨_, ?_, shown.append documented _⟩
    simp [BaseParsecAddr.toUrl, isUrl, useSsl]

theorem toHttpUrl_shows : ∃ url, base.toHttpUrl crates none = .ok url ∧
    Shows crates (httpScheme base.useSsl) base.hostname
      (explicitPort (httpScheme base.useSsl) base.port) [[]] [] url := by
  obtain ⟨url, isUrl, shown⟩ :=
    serverUrl_shows documented returned (isScheme_httpScheme base.useSsl)
  rw [isSpecial_httpScheme] at shown
  have isSet := documented.url.pathSet url [[]] [] (by rw [shown.same]; exact isHttp_httpScheme _)
    (by rw [shown.same]; rfl) (fun _ none => by cases none)
  refine ⟨{ url with path := .segments [[]] }, ?_, ?_, shown.safe, ?_⟩
  · rw [BaseParsecAddr.toHttpUrl, isUrl]
    exact congrArg Except.ok isSet
  · rw [shown.same]
    rfl
  · rw [← shown.pairs]
    exact documented.url.pairsOfQuery _ _ rfl

end Writing

end ParsecCloud.Addr
