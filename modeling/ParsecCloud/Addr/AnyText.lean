import ParsecCloud.Addr.RoundTrip
import ParsecCloud.Lib.PlainUrls
import Mathlib.Logic.Equiv.List

/- Texts of any origin: reading one never panics, and an address that is read has a URL that is
   read as the same address. -/
namespace ParsecCloud.Addr
open Rust Urls Certif ParsecUrlAsHTTPScheme

/-- A http or https URL, of a host in the form that the crate returns. -/
def Served (crates : Crates) (parsed : ParsecUrlAsHTTPScheme) : Prop :=
  ∃ useSsl host, parsed.url.scheme = httpScheme useSsl ∧ parsed.url.host = some host ∧
    crates.url.Returned host

/-- A server as the URLs say it: a returned hostname, and no port where it is the default one. -/
def Canonical (crates : Crates) (base : BaseParsecAddr) : Prop :=
  crates.url.Returned base.hostname ∧ base.normalized = base

section Parsed
variable {crates : Crates}

theorem calm_parseUrl (text : Text) : Calm (parseUrl crates text) := by
  unfold parseUrl
  split
  · exact calm_ok _
  · exact calm_refuse _

theorem calm_readUseSsl (values : List Text) : Calm (readUseSsl crates values) := by
  apply calm_bind _ fun useSsl _ => calm_ite (calm_ok _) (calm_refuse _)
  cases values.head? with
  | none => exact calm_ok _
  | some value => exact calm_ite (calm_ok _) (calm_ite (calm_ok _) (calm_refuse _))

theorem calm_fromStr (text : Text) : Calm (ParsecUrlAsHTTPScheme.fromStr crates text) := by
  apply calm_bind (calm_parseUrl text)
  intro parsed _
  apply calm_bind (calm_readUseSsl _)
  intro useSsl _
  apply calm_ite _ (calm_refuse _)
  exact calm_bind (calm_parseUrl _) fun url _ => calm_ok _

theorem calm_fromHttpRedirection (text : Text) :
    Calm (ParsecUrlAsHTTPScheme.fromHttpRedirection crates text) := by
  apply calm_bind
  · apply calm_bind (calm_parseUrl text)
    intro parsed _
    exact calm_ite (calm_ok _) (calm_refuse _)
  · intro parsed _
    split
    · exact calm_ite (calm_ok _) (calm_refuse _)
    · exact calm_refuse _

theorem parseUrl_eq_ok {text : Text} {url : Url} :
    parseUrl crates text = .ok url ↔ crates.url.parse text = .ok url := by
  unfold parseUrl
  cases crates.url.parse text with
  | ok other => simp
  | error error => simp [refuse]

variable (documented : crates.Documented)
include documented

theorem served_of_parse {text : Text} {url : Url} {useSsl : Bool}
    (isUrl : crates.url.parse text = .ok url) (isScheme : url.scheme = httpScheme useSsl) :
    Served crates ⟨url⟩ := by
  have isHttp : IsHttp url.scheme := by
    rw [isScheme]
    exact isHttp_httpScheme useSsl
  obtain ⟨host, isHost, -⟩ := documented.url.hostRead text url isUrl isHttp
  exact ⟨useSsl, host, isScheme, isHost, text, url, isUrl, isHttp, isHost⟩

theorem fromStr_served {text : Text} {parsed : ParsecUrlAsHTTPScheme}
    (isParsed : ParsecUrlAsHTTPScheme.fromStr crates text = .ok parsed) : Served crates parsed := by
  obtain ⟨url, -, isParsed⟩ := bind_eq_ok.mp isParsed
  obtain ⟨useSsl, -, isParsed⟩ := bind_eq_ok.mp isParsed
  split at isParsed
  · rename_i isScheme
    obtain ⟨last, isLast, isParsed⟩ := bind_eq_ok.mp isParsed
    cases isParsed
    have replaced : replaceFirst parsecScheme (httpScheme useSsl) url.asStr =
        { url with scheme := httpScheme useSsl }.asStr := by
      rw [Url.asStr, isScheme]
      exact replaceFirst_append (by decide)
    rw [replaced, parseUrl_eq_ok] at isLast
    exact served_of_parse documented isLast
      (documented.url.schemeRead _ _ _ (isScheme_httpScheme useSsl) isLast)
  · cases isParsed

theorem fromHttpRedirection_served {text : Text} {parsed : ParsecUrlAsHTTPScheme}
    (isParsed : ParsecUrlAsHTTPScheme.fromHttpRedirection crates text = .ok parsed) :
    Served crates parsed := by
  obtain ⟨cleaned, isCleaned, isParsed⟩ := bind_eq_ok.mp isParsed
  obtain ⟨url, isUrl, isCleaned⟩ := bind_eq_ok.mp isCleaned
  split at isCleaned
  · rename_i isHttp
    have isQuery := documented.url.querySet url _ (documented.url.pairsSerialized
      ((crates.url.queryPairs url).filter fun pair => pair.1 ≠ noSsl)).1
    rw [cleanedQuery, isQuery] at isCleaned
    cases isCleaned
    have isScheme : ∃ useSsl, url.scheme = httpScheme useSsl := by
      rcases isHttp with isHttp | isHttps
      · exact ⟨false, isHttp⟩
      · exact ⟨true, isHttps⟩
    obtain ⟨useSsl, isScheme⟩ := isScheme
    obtain ⟨useSsl', host, same, isHost, returned⟩ :=
      served_of_parse documented (parseUrl_eq_ok.mp isUrl) isScheme
    split at isParsed
    · rename_i first rest _
      split at isParsed
      · cases isParsed
        obtain ⟨path, isPath⟩ := documented.url.pathSetKeeps { url with query := _ }
          (['/'].intercalate rest)
        exact ⟨useSsl', host, by rw [isPath]; exact same, by rw [isPath]; exact isHost, returned⟩
      · cases isParsed
    · cases isParsed
  · cases isCleaned

omit documented in
theorem served_fromUrl {parsed : ParsecUrlAsHTTPScheme} (served : Served crates parsed) :
    ∃ base, BaseParsecAddr.fromUrl crates parsed = .ok base ∧ Canonical crates base := by
  obtain ⟨useSsl, host, isScheme, isHost, returned⟩ := served
  let port := parsed.url.port.bind fun port =>
    if port = BaseParsecAddr.defaultPort useSsl then none else some port
  refine ⟨⟨host, port, useSsl⟩, ?_, returned, ?_⟩
  · unfold BaseParsecAddr.fromUrl
    rw [isHost, isScheme, useSslOf_httpScheme]
    rfl
  · rw [normalized_iff]
    intro isDefault
    obtain ⟨shownPort, -, kept⟩ := Option.bind_eq_some_iff.mp isDefault
    split at kept
    · cases kept
    · rename_i other
      exact other (Option.some.inj kept)

end Parsed

section OneKind
variable {crates : Crates} {α : Type}

/-- No text makes the readers panic, and an address that one answers has a URL that is read as
    the address. -/
structure AddrKind.ReadsBack (kind : AddrKind crates α) : Prop where
  calm : ∀ text, Calm (kind.fromStr text) ∧ Calm (kind.fromHttpRedirection text) ∧
    Calm (kind.fromAny text)
  again : ∀ text addr, kind.fromStr text = .ok addr ∨ kind.fromHttpRedirection text = .ok addr ∨
    kind.fromAny text = .ok addr →
    ∃ url, kind.toUrl addr = .ok url ∧ kind.fromStr url.asStr = .ok addr

variable {kind : AddrKind crates α} {name : α → Option Text} {pairs : α → List (Text × Text)}
  {withBase : α → BaseParsecAddr → α} (documented : crates.Documented)
  (faithful : kind.Faithful name pairs withBase)
include documented faithful

omit documented in
theorem calm_readUrl {parsed : ParsecUrlAsHTTPScheme} (served : Served crates parsed) :
    Calm (kind.readUrl parsed) := by
  obtain ⟨base, isBase, -⟩ := served_fromUrl served
  apply faithful.calm
  rw [isBase]
  exact calm_ok base

omit documented in
theorem readUrl_base {parsed : ParsecUrlAsHTTPScheme} {addr : α} (served : Served crates parsed)
    (isAddr : kind.readUrl parsed = .ok addr) : Canonical crates (kind.base addr) := by
  obtain ⟨base, isBase, canonical⟩ := served_fromUrl served
  rw [faithful.readsBase addr parsed isAddr] at isBase
  cases isBase
  exact canonical

theorem kind_calm_fromStr (text : Text) : Calm (kind.fromStr text) := by
  apply calm_bind (calm_fromStr text)
  intro parsed isParsed
  exact calm_readUrl faithful (fromStr_served documented isParsed)

theorem kind_calm_fromHttpRedirection (text : Text) : Calm (kind.fromHttpRedirection text) := by
  apply calm_bind (calm_fromHttpRedirection text)
  intro parsed isParsed
  exact calm_readUrl faithful (fromHttpRedirection_served documented isParsed)

theorem answered_base {text : Text} {addr : α} (answered : kind.fromStr text = .ok addr ∨
      kind.fromHttpRedirection text = .ok addr ∨ kind.fromAny text = .ok addr) :
    Canonical crates (kind.base addr) := by
  have str : kind.fromStr text = .ok addr → Canonical crates (kind.base addr) := by
    intro isAddr
    obtain ⟨parsed, isParsed, isAddr⟩ := bind_eq_ok.mp isAddr
    exact readUrl_base faithful (fromStr_served documented isParsed) isAddr
  have redirection : kind.fromHttpRedirection text = .ok addr →
      Canonical crates (kind.base addr) := by
    intro isAddr
    obtain ⟨parsed, isParsed, isAddr⟩ := bind_eq_ok.mp isAddr
    exact readUrl_base faithful (fromHttpRedirection_served documented isParsed) isAddr
  rcases answered with isAddr | isAddr | isAddr
  · exact str isAddr
  · exact redirection isAddr
  · rcases orElse_eq_ok isAddr with isAddr | isAddr
    · exact redirection isAddr
    · exact str isAddr

theorem readsBack : kind.ReadsBack := by
  constructor
  · intro text
    have str := kind_calm_fromStr documented faithful text
    have redirection := kind_calm_fromHttpRedirection documented faithful text
    exact ⟨str, redirection, calm_orElse redirection str⟩
  · intro text addr answered
    obtain ⟨returned, normalized⟩ := answered_base documented faithful answered
    obtain ⟨url, isUrl, isAddr, -⟩ :=
      (roundTrips_normalized documented faithful normalized returned).url
    exact ⟨url, isUrl, isAddr⟩

end OneKind

section Action
variable {crates : Crates}

structure ActionReadsBack (crates : Crates) : Prop where
  calm : ∀ text, Calm (ParsecActionAddr.fromStr text : AddrResult crates _) ∧
    Calm (ParsecActionAddr.fromHttpRedirection text : AddrResult crates _) ∧
    Calm (ParsecActionAddr.fromAny text : AddrResult crates _)
  again : ∀ text (action : ParsecActionAddr crates), ParsecActionAddr.fromStr text = .ok action ∨
    ParsecActionAddr.fromHttpRedirection text = .ok action ∨
    ParsecActionAddr.fromAny text = .ok action →
    ∃ url, action.toUrl = .ok url ∧ ParsecActionAddr.fromStr url.asStr = .ok action

theorem calm_map {α β : Type} {result : AddrResult crates α} (calm : Calm result) (f : α → β) :
    Calm (result.map f) := by
  cases result with
  | ok value => exact calm_ok (f value)
  | error stop =>
    cases stop with
    | refused error => exact calm_refuse error
    | panicked panic => exact absurd rfl (calm panic)

section FirstOf
variable {organizationBootstrap : AddrResult crates (ParsecOrganizationBootstrapAddr crates)}
  {workspacePath : AddrResult crates (ParsecWorkspacePathAddr crates)}
  {invitation : AddrResult crates (ParsecInvitationAddr crates)}
  {pkiEnrollment : AddrResult crates (ParsecPkiEnrollmentAddr crates)}

theorem calm_firstOf (calmBootstrap : Calm organizationBootstrap) (calmPath : Calm workspacePath)
    (calmInvitation : Calm invitation) (calmPki : Calm pkiEnrollment) :
    Calm (ParsecActionAddr.firstOf organizationBootstrap workspacePath invitation
      pkiEnrollment) :=
  calm_orElse (calm_map calmBootstrap _) (calm_orElse (calm_map calmPath _)
    (calm_orElse (calm_map calmInvitation _) (calm_map calmPki _)))

theorem firstOf_canonical {action : ParsecActionAddr crates}
    (bootstrap : ∀ addr, organizationBootstrap = .ok addr → Canonical crates addr.base)
    (path : ∀ addr, workspacePath = .ok addr → Canonical crates addr.base)
    (invite : ∀ addr, invitation = .ok addr → Canonical crates addr.base)
    (pki : ∀ addr, pkiEnrollment = .ok addr → Canonical crates addr.base)
    (isAction : ParsecActionAddr.firstOf organizationBootstrap workspacePath invitation
      pkiEnrollment = .ok action) : Canonical crates action.base := by
  rcases orElse_eq_ok isAction with isAddr | isAction
  · obtain ⟨addr, isResult, rfl⟩ := map_eq_ok isAddr
    exact bootstrap addr isResult
  · rcases orElse_eq_ok isAction with isAddr | isAction
    · obtain ⟨addr, isResult, rfl⟩ := map_eq_ok isAddr
      exact path addr isResult
    · rcases orElse_eq_ok isAction with isAddr | isAddr
      · obtain ⟨addr, isResult, rfl⟩ := map_eq_ok isAddr
        exact invite addr isResult
      · obtain ⟨addr, isResult, rfl⟩ := map_eq_ok isAddr
        exact pki addr isResult

end FirstOf

variable (documented : crates.Documented)
include documented

theorem calm_actionReadUrl {parsed : ParsecUrlAsHTTPScheme} (served : Served crates parsed) :
    Calm (ParsecActionAddr.readUrl parsed : AddrResult crates _) :=
  calm_firstOf (calm_readUrl (bootstrapAddr_faithful documented) served)
    (calm_readUrl (workspacePathAddr_faithful documented) served)
    (calm_readUrl (invitationAddr_faithful documented) served)
    (calm_readUrl (pkiEnrollmentAddr_faithful documented) served)

theorem actionReadUrl_base {parsed : ParsecUrlAsHTTPScheme} {action : ParsecActionAddr crates}
    (served : Served crates parsed) (isAction : ParsecActionAddr.readUrl parsed = .ok action) :
    Canonical crates action.base :=
  firstOf_canonical (fun _ => readUrl_base (bootstrapAddr_faithful documented) served)
    (fun _ => readUrl_base (workspacePathAddr_faithful documented) served)
    (fun _ => readUrl_base (invitationAddr_faithful documented) served)
    (fun _ => readUrl_base (pkiEnrollmentAddr_faithful documented) served) isAction

theorem actionReadsBack : ActionReadsBack crates := by
  constructor
  · intro text
    refine ⟨?_, ?_, ?_⟩
    · apply calm_bind (calm_fromStr text)
      intro parsed isParsed
      exact calm_actionReadUrl documented (fromStr_served documented isParsed)
    · apply calm_bind (calm_fromHttpRedirection text)
      intro parsed isParsed
      exact calm_actionReadUrl documented (fromHttpRedirection_served documented isParsed)
    · exact calm_firstOf ((readsBack documented (bootstrapAddr_faithful documented)).calm text).2.2
        ((readsBack documented (workspacePathAddr_faithful documented)).calm text).2.2
        ((readsBack documented (invitationAddr_faithful documented)).calm text).2.2
        ((readsBack documented (pkiEnrollmentAddr_faithful documented)).calm text).2.2
  · intro text action answered
    have server : Canonical crates action.base := by
      rcases answered with isAction | isAction | isAction
      · obtain ⟨parsed, isParsed, isAction⟩ := bind_eq_ok.mp isAction
        exact actionReadUrl_base documented (fromStr_served documented isParsed) isAction
      · obtain ⟨parsed, isParsed, isAction⟩ := bind_eq_ok.mp isAction
        exact actionReadUrl_base documented (fromHttpRedirection_served documented isParsed) isAction
      · exact firstOf_canonical
          (fun _ isAddr => answered_base documented (bootstrapAddr_faithful documented)
            (Or.inr (Or.inr isAddr)))
          (fun _ isAddr => answered_base documented (workspacePathAddr_faithful documented)
            (Or.inr (Or.inr isAddr)))
          (fun _ isAddr => answered_base documented (invitationAddr_faithful documented)
            (Or.inr (Or.inr isAddr)))
          (fun _ isAddr => answered_base documented (pkiEnrollmentAddr_faithful documented)
            (Or.inr (Or.inr isAddr))) isAction
    obtain ⟨url, isUrl, isAction, -⟩ := (action_roundTrips documented server.2 server.1).url
    exact ⟨url, isUrl, isAction⟩

end Action

section Addresses

/-- An address of any type. -/
inductive Address (crates : Crates) where
  | server (addr : ParsecAddr)
  | organization (addr : ParsecOrganizationAddr crates)
  | action (addr : ParsecActionAddr crates)

/-- The addresses that the constructors build from this server. -/
inductive Built (crates : Crates) (hostname : Text) (port : Option UInt16) (useSsl : Bool) :
    Address crates → Prop
  | server {server : ParsecAddr} : ParsecAddr.new hostname port useSsl = .ok server →
      Built crates hostname port useSsl (.server server)
  | organization {server : ParsecAddr} (id : OrganizationID crates) (key : VerifyKey) :
      ParsecAddr.new hostname port useSsl = .ok server →
      Built crates hostname port useSsl (.organization (.new server id key))
  | organizationBootstrap {server : ParsecAddr} (id : OrganizationID crates)
      (token : Option BootstrapToken) : ParsecAddr.new hostname port useSsl = .ok server →
      Built crates hostname port useSsl (.action (.organizationBootstrap (.new server id token)))
  | workspacePath {server : ParsecAddr} (id : OrganizationID crates) (workspaceId : VlobID)
      (keyIndex : IndexInt) (path : Bytes) : ParsecAddr.new hostname port useSsl = .ok server →
      Built crates hostname port useSsl
        (.action (.workspacePath (.new server id workspaceId keyIndex path)))
  | invitation {server : ParsecAddr} (id : OrganizationID crates) (type : InvitationType)
      (token : InvitationToken) : ParsecAddr.new hostname port useSsl = .ok server →
      Built crates hostname port useSsl (.action (.invitation (.new server id type token)))
  | pkiEnrollment {server : ParsecAddr} (id : OrganizationID crates) :
      ParsecAddr.new hostname port useSsl = .ok server →
      Built crates hostname port useSsl (.action (.pkiEnrollment (.new server id)))

variable {crates : Crates}

def ParsecActionAddr.KindRoundTrips : ParsecActionAddr crates → Prop
  | .organizationBootstrap addr => (ParsecOrganizationBootstrapAddr.kind crates).RoundTrips addr
  | .workspacePath addr => (ParsecWorkspacePathAddr.kind crates).RoundTrips addr
  | .invitation addr => (ParsecInvitationAddr.kind crates).RoundTrips addr
  | .pkiEnrollment addr => (ParsecPkiEnrollmentAddr.kind crates).RoundTrips addr

def Address.base : Address crates → BaseParsecAddr
  | .server addr => addr.base
  | .organization addr => addr.base
  | .action addr => addr.base

def Address.RoundTrips : Address crates → Prop
  | .server addr => (ParsecAddr.kind crates).RoundTrips addr
  | .organization addr => (ParsecOrganizationAddr.kind crates).RoundTrips addr
  | .action addr => addr.KindRoundTrips ∧ addr.RoundTrips

/-- What holds of the texts of any origin. -/
structure AnyTextReadsBack (crates : Crates) : Prop where
  server : (ParsecAddr.kind crates).ReadsBack
  organization : (ParsecOrganizationAddr.kind crates).ReadsBack
  organizationBootstrap : (ParsecOrganizationBootstrapAddr.kind crates).ReadsBack
  workspacePath : (ParsecWorkspacePathAddr.kind crates).ReadsBack
  invitation : (ParsecInvitationAddr.kind crates).ReadsBack
  pkiEnrollment : (ParsecPkiEnrollmentAddr.kind crates).ReadsBack
  action : ActionReadsBack crates

theorem new_base {hostname : Text} {port : Option UInt16} {useSsl : Bool} {server : ParsecAddr}
    (isNew : ParsecAddr.new hostname port useSsl = .ok server) :
    server.base = ⟨hostname, port, useSsl⟩ := by
  unfold ParsecAddr.new at isNew
  split at isNew
  · cases isNew
  · cases isNew
    rfl

theorem built_base {hostname : Text} {port : Option UInt16} {useSsl : Bool}
    {addr : Address crates} (built : Built crates hostname port useSsl addr) :
    addr.base = ⟨hostname, port, useSsl⟩ := by
  cases built with
  | server isNew => exact new_base isNew
  | organization id key isNew => exact new_base isNew
  | organizationBootstrap id token isNew => exact new_base isNew
  | workspacePath id workspaceId keyIndex path isNew => exact new_base isNew
  | invitation id type token isNew => exact new_base isNew
  | pkiEnrollment id isNew => exact new_base isNew

variable (documented : crates.Documented)
include documented

theorem kindRoundTrips_iff {action : ParsecActionAddr crates}
    (returned : crates.url.Returned action.base.hostname) :
    action.KindRoundTrips ↔ action.base.normalized = action.base := by
  cases action with
  | organizationBootstrap addr =>
    have faithful := bootstrapAddr_faithful documented
    exact ⟨normalized_of_roundTrips documented faithful returned,
      fun normalized => roundTrips_normalized documented faithful normalized returned⟩
  | workspacePath addr =>
    have faithful := workspacePathAddr_faithful documented
    exact ⟨normalized_of_roundTrips documented faithful returned,
      fun normalized => roundTrips_normalized documented faithful normalized returned⟩
  | invitation addr =>
    have faithful := invitationAddr_faithful documented
    exact ⟨normalized_of_roundTrips documented faithful returned,
      fun normalized => roundTrips_normalized documented faithful normalized returned⟩
  | pkiEnrollment addr =>
    have faithful := pkiEnrollmentAddr_faithful documented
    exact ⟨normalized_of_roundTrips documented faithful returned,
      fun normalized => roundTrips_normalized documented faithful normalized returned⟩

theorem roundTrips_iff {addr : Address crates} (returned : crates.url.Returned addr.base.hostname) :
    addr.RoundTrips ↔ addr.base.normalized = addr.base := by
  cases addr with
  | server addr =>
    have faithful := @parsecAddr_faithful crates
    exact ⟨normalized_of_roundTrips documented faithful returned,
      fun normalized => roundTrips_normalized documented faithful normalized returned⟩
  | organization addr =>
    have faithful := organizationAddr_faithful documented
    exact ⟨normalized_of_roundTrips documented faithful returned,
      fun normalized => roundTrips_normalized documented faithful normalized returned⟩
  | action addr =>
    constructor
    · intro roundTrips
      exact (kindRoundTrips_iff documented returned).mp roundTrips.1
    · intro normalized
      exact ⟨(kindRoundTrips_iff documented returned).mpr normalized,
        action_roundTrips documented normalized returned⟩

/-- The constructors take the hostname, and an address is read again as it was exactly when it does
    not spell out the default port. -/
theorem addresses_round_trip : AnyTextReadsBack crates ∧
    ∀ hostname port useSsl, crates.url.Returned hostname →
      (∃ server, ParsecAddr.new hostname port useSsl = .ok server) ∧
      ∀ addr, Built crates hostname port useSsl addr →
        (addr.RoundTrips ↔ port ≠ some (BaseParsecAddr.defaultPort useSsl)) := by
  constructor
  · exact ⟨readsBack documented parsecAddr_faithful,
      readsBack documented (organizationAddr_faithful documented),
      readsBack documented (bootstrapAddr_faithful documented),
      readsBack documented (workspacePathAddr_faithful documented),
      readsBack documented (invitationAddr_faithful documented),
      readsBack documented (pkiEnrollmentAddr_faithful documented), actionReadsBack documented⟩
  · intro hostname port useSsl returned
    constructor
    · refine ⟨⟨hostname, port, useSsl⟩, ?_⟩
      rw [ParsecAddr.new, if_neg]
      exact returned_ne_nil documented returned
    · intro addr built
      have isBase := built_base built
      rw [roundTrips_iff documented (by rw [isBase]; exact returned), normalized_iff, isBase]

end Addresses

section PlainCrates

/-- A codec of data that are numbered: as many bytes as the number. -/
def numberedCodec {α : Type} (number : α → Nat) (data : Nat → α) : Msgpack α where
  toVec value := some (List.replicate (number value) 0)
  fromSlice raw := some (data raw.length)

theorem numberedCodec_decodes {α : Type} {number : α → Nat} {data : Nat → α}
    (inverse : ∀ value, data (number value) = value) : (numberedCodec number data).Decodes := by
  intro value
  refine ⟨_, rfl, ?_⟩
  simp [numberedCodec, inverse]

def pathNumber (path : VlobID × IndexInt × Bytes) : Nat :=
  Nat.pair path.1.uuid (Nat.pair path.2.1.toNat (Encodable.encode (path.2.2.map UInt8.toNat)))

def numberedPath (number : Nat) : VlobID × IndexInt × Bytes :=
  (⟨number.unpair.1⟩, UInt64.ofNat number.unpair.2.unpair.1,
    ((Encodable.decode (α := List Nat) number.unpair.2.unpair.2).getD []).map UInt8.ofNat)

theorem numberedPath_pathNumber (path : VlobID × IndexInt × Bytes) :
    numberedPath (pathNumber path) = path := by
  obtain ⟨workspaceId, index, bytes⟩ := path
  have same : UInt8.ofNat ∘ UInt8.toNat = id := funext fun byte => UInt8.ofNat_toNat
  simp [numberedPath, pathNumber, same]

/-- Plain URLs and ids in ASCII. The payloads have codecs of their own. -/
def plainCrates : Crates where
  url := PlainUrls.crate
  nfc text := text
  isWordCharacter c := c.isAlphanum || c == '_'
  base64Encode raw := raw.flatMap encodeByte
  base64Decode text := some (decodeBytes text)
  verifyKey := numberedCodec VerifyKey.key VerifyKey.mk
  bootstrapToken := numberedCodec (fun token => (token.map BootstrapToken.uuid).elim 0 Nat.succ)
    fun number => number.casesOn none fun uuid => some ⟨uuid⟩
  workspacePath := numberedCodec pathNumber numberedPath
  invitationToken := numberedCodec InvitationToken.uuid InvitationToken.mk

theorem plainCrates_documented : plainCrates.Documented where
  url := PlainUrls.documented
  nfcTwice _ := rfl
  wordAscii c word _ := by
    change (c.isAlphanum || c == '_') = true at word
    simpa using word
  base64 raw := by
    have bytes := decodeBytes_encodeBytes raw []
    rw [List.append_nil, decodeBytes, List.append_nil] at bytes
    exact congrArg some bytes
  verifyKey := numberedCodec_decodes fun _ => rfl
  bootstrapToken := numberedCodec_decodes fun token => by cases token <;> rfl
  workspacePath := numberedCodec_decodes numberedPath_pathNumber
  invitationToken := numberedCodec_decodes fun _ => rfl

def exampleHost : Text := "example.com".toList

theorem exampleHost_returned : plainCrates.url.Returned exampleHost := by
  let rest := exampleHost ++ portText none ++ (segmentsText [] ++ optionalText '?' none)
  have isRest : PlainUrls.readRest https rest = some (served https exampleHost none [[]] none) :=
    PlainUrls.readRest_plain (by decide) (all_chars (by decide)) (fun _ none => by cases none)
  have isUrl := PlainUrls.parse_scheme (isScheme_httpScheme true) rest
  rw [httpScheme, if_pos rfl, isRest, Option.elim_some] at isUrl
  exact ⟨https ++ ':' :: '/' :: '/' :: rest, _, isUrl, Or.inr rfl, rfl⟩

def myOrg : OrganizationID plainCrates := ⟨"MyOrg".toList, ⟨_, rfl⟩, by decide⟩

/-- An address that asks for an enrollment, on a port of its own. -/
theorem addresses_round_trip_of_port :
    Address.RoundTrips (.action (.pkiEnrollment
      (ParsecPkiEnrollmentAddr.new ⟨⟨exampleHost, some 4242, false⟩⟩ myOrg))) :=
  (((addresses_round_trip plainCrates_documented).2 exampleHost (some 4242) false
    exampleHost_returned).2 _ (Built.pkiEnrollment myOrg rfl)).mpr (by decide)

/-- An address with the default port, spelled out, is read as one without a port. -/
theorem default_port_lost : ¬ ∀ (crates : Crates), crates.Documented → ∀ hostname port useSsl,
    crates.url.Returned hostname → ∀ addr, Built crates hostname port useSsl addr →
      addr.RoundTrips := by
  intro always
  have roundTrips := always plainCrates plainCrates_documented exampleHost (some 443) true
    exampleHost_returned (.server ⟨⟨exampleHost, some 443, true⟩⟩) (.server rfl)
  have returned : plainCrates.url.Returned
      ((ParsecAddr.kind plainCrates).base ⟨⟨exampleHost, some 443, true⟩⟩).hostname :=
    exampleHost_returned
  have normalized := normalized_of_roundTrips plainCrates_documented
    parsecAddr_faithful returned roundTrips
  exact absurd rfl ((normalized_iff _).mp normalized)

end PlainCrates

end ParsecCloud.Addr
