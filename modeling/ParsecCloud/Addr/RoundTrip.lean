import ParsecCloud.Addr.Kinds

/- The two notations of an address and back: which addresses are read again as they were. -/
namespace ParsecCloud.Addr
open Rust Urls Certif ParsecUrlAsHTTPScheme

section OneKind
variable {crates : Crates} {α : Type} {kind : AddrKind crates α} {name : α → Option Text}
  {pairs : α → List (Text × Text)} {withBase : α → BaseParsecAddr → α}

/-- Both notations of an address are read again as the address, also by what accepts both. -/
structure AddrKind.RoundTrips (kind : AddrKind crates α) (addr : α) : Prop where
  url : ∃ url, kind.toUrl addr = .ok url ∧ kind.fromStr url.asStr = .ok addr ∧
    kind.fromAny url.asStr = .ok addr
  redirection : ∃ url, kind.toHttpRedirectionUrl addr = .ok url ∧
    kind.fromHttpRedirection url.asStr = .ok addr ∧ kind.fromAny url.asStr = .ok addr

def Refused (result : AddrResult crates α) : Prop := ∃ error, result = refuse error

/-- A text in one of the notations, refused in the other. -/
def ParsedAs (crates : Crates) (text : Text) (parsed : ParsecUrlAsHTTPScheme) : Prop :=
  (ParsecUrlAsHTTPScheme.fromHttpRedirection crates text = .ok parsed ∧
    Refused (ParsecUrlAsHTTPScheme.fromStr crates text)) ∨
  (ParsecUrlAsHTTPScheme.fromStr crates text = .ok parsed ∧
    Refused (ParsecUrlAsHTTPScheme.fromHttpRedirection crates text))

theorem fromAny_ok {text : Text} {parsed : ParsecUrlAsHTTPScheme} {addr : α}
    (parsedAs : ParsedAs crates text parsed) (isAddr : kind.readUrl parsed = .ok addr) :
    kind.fromAny text = .ok addr := by
  unfold AddrKind.fromAny AddrKind.fromHttpRedirection AddrKind.fromStr
  rcases parsedAs with ⟨isParsed, -⟩ | ⟨isParsed, error, isRefused⟩
  · rw [isParsed, answer_bind, isAddr]
    rfl
  · rw [isParsed, isRefused, answer_bind, isAddr]
    rfl

theorem fromAny_refused {text : Text} {parsed : ParsecUrlAsHTTPScheme}
    (parsedAs : ParsedAs crates text parsed) (isRefused : Refused (kind.readUrl parsed)) :
    Refused (kind.fromAny text) := by
  obtain ⟨error, isError⟩ := isRefused
  unfold AddrKind.fromAny AddrKind.fromHttpRedirection AddrKind.fromStr
  rcases parsedAs with ⟨isParsed, other, isOther⟩ | ⟨isParsed, other, isOther⟩
  · rw [isParsed, isOther, answer_bind, isError]
    exact ⟨other, rfl⟩
  · rw [isParsed, isOther, answer_bind, isError]
    exact ⟨error, rfl⟩

variable (documented : crates.Documented) (faithful : kind.Faithful name pairs withBase)
include documented faithful

theorem toUrl_parsed (addr : α) (returned : crates.url.Returned (kind.base addr).hostname) :
    ∃ url parsed, kind.toUrl addr = .ok url ∧
      ParsecUrlAsHTTPScheme.fromStr crates url.asStr = .ok parsed ∧
      ParsedAs crates url.asStr parsed ∧
      Reads crates parsed (kind.base addr).normalized (name addr) (pairs addr) := by
  obtain ⟨start, isStart, shown⟩ := toUrl_shows documented returned
  obtain ⟨url, more, isWritten, rawShows, shown'⟩ :=
    faithful.writes addr _ _ _ _ _ _ (by simp) shown
  rw [List.nil_append] at shown'
  obtain ⟨parsed, isParsed, reads⟩ :=
    fromStr_shown documented returned rawShows (faithful.ownPairs addr) shown'
  have isRefused := fromHttpRedirection_refuses documented returned (rawShows_safe rawShows) shown'
  refine ⟨url, parsed, ?_, isParsed, Or.inr ⟨isParsed, _, isRefused⟩, reads⟩
  rw [AddrKind.toUrl, isStart, ok_bind, isWritten]

theorem toHttpRedirectionUrl_parsed (addr : α)
    (returned : crates.url.Returned (kind.base addr).hostname) :
    ∃ url parsed, kind.toHttpRedirectionUrl addr = .ok url ∧
      ParsecUrlAsHTTPScheme.fromHttpRedirection crates url.asStr = .ok parsed ∧
      ParsedAs crates url.asStr parsed ∧
      Reads crates parsed (kind.base addr).normalized (name addr) (pairs addr) := by
  obtain ⟨start, isStart, shown⟩ := toHttpUrl_shows documented returned
  obtain ⟨redirected, segment, isPushed, shown', -, -, same⟩ :=
    shown.push documented isName_redirect
  rw [same (all_chars (by decide)), pushed, if_pos rfl] at shown'
  obtain ⟨url, more, isWritten, rawShows, shown''⟩ :=
    faithful.writes addr _ _ _ _ _ _ (by decide) shown'
  rw [List.nil_append] at shown''
  obtain ⟨parsed, isParsed, reads⟩ :=
    fromHttpRedirection_shown documented returned rawShows (faithful.ownPairs addr) shown''
  have safe : ∀ segment ∈ [redirect] ++ more, SafeSegment segment := by
    intro segment member
    rcases List.mem_append.mp member with first | later
    · rw [List.mem_singleton.mp first]
      exact safeSegment_redirect
    · exact rawShows_safe rawShows segment later
  have isRefused := fromStr_refuses documented returned safe (faithful.ownPairs addr) shown''
  refine ⟨url, parsed, ?_, isParsed, Or.inl ⟨isParsed, _, isRefused⟩, reads⟩
  rw [AddrKind.toHttpRedirectionUrl, isStart, ok_bind, isPushed, ok_bind, isWritten]

theorem roundTrips_normalized {addr : α} (normalized : (kind.base addr).normalized = kind.base addr)
    (returned : crates.url.Returned (kind.base addr).hostname) : kind.RoundTrips addr := by
  constructor
  · obtain ⟨url, parsed, isUrl, isParsed, parsedAs, reads⟩ :=
      toUrl_parsed documented faithful addr returned
    have isAddr := faithful.reads addr parsed _ reads
    rw [normalized, faithful.withBase_base] at isAddr
    refine ⟨url, isUrl, ?_, fromAny_ok parsedAs isAddr⟩
    rw [AddrKind.fromStr, isParsed, answer_bind, isAddr]
  · obtain ⟨url, parsed, isUrl, isParsed, parsedAs, reads⟩ :=
      toHttpRedirectionUrl_parsed documented faithful addr returned
    have isAddr := faithful.reads addr parsed _ reads
    rw [normalized, faithful.withBase_base] at isAddr
    refine ⟨url, isUrl, ?_, fromAny_ok parsedAs isAddr⟩
    rw [AddrKind.fromHttpRedirection, isParsed, answer_bind, isAddr]

/-- The default port is left out of the URL, and an address with it is read as one without. -/
theorem normalized_of_roundTrips {addr : α}
    (returned : crates.url.Returned (kind.base addr).hostname)
    (roundTrips : kind.RoundTrips addr) : (kind.base addr).normalized = kind.base addr := by
  obtain ⟨url, isUrl, isAddr, -⟩ := roundTrips.url
  obtain ⟨url', parsed, isUrl', isParsed, -, reads⟩ :=
    toUrl_parsed documented faithful addr returned
  rw [isUrl] at isUrl'
  cases isUrl'
  rw [AddrKind.fromStr, isParsed, answer_bind, faithful.reads addr parsed _ reads] at isAddr
  have same := congrArg (Except.map kind.base) isAddr
  simp only [Except.map, Except.ok.injEq, faithful.base_withBase] at same
  exact same

end OneKind

theorem normalized_iff (base : BaseParsecAddr) :
    base.normalized = base ↔ base.port ≠ some (BaseParsecAddr.defaultPort base.useSsl) := by
  obtain ⟨hostname, port, useSsl⟩ := base
  simp only [BaseParsecAddr.normalized, BaseParsecAddr.mk.injEq, true_and, and_true]
  constructor
  · intro same isDefault
    rw [if_pos isDefault, isDefault] at same
    cases same
  · intro other
    rw [if_neg other]

section Action
variable {crates : Crates}

namespace ParsecActionAddr

def toUrl : ParsecActionAddr crates → Checked Url
  | .organizationBootstrap addr => (ParsecOrganizationBootstrapAddr.kind crates).toUrl addr
  | .workspacePath addr => (ParsecWorkspacePathAddr.kind crates).toUrl addr
  | .invitation addr => (ParsecInvitationAddr.kind crates).toUrl addr
  | .pkiEnrollment addr => (ParsecPkiEnrollmentAddr.kind crates).toUrl addr

def toHttpRedirectionUrl : ParsecActionAddr crates → Checked Url
  | .organizationBootstrap addr =>
    (ParsecOrganizationBootstrapAddr.kind crates).toHttpRedirectionUrl addr
  | .workspacePath addr => (ParsecWorkspacePathAddr.kind crates).toHttpRedirectionUrl addr
  | .invitation addr => (ParsecInvitationAddr.kind crates).toHttpRedirectionUrl addr
  | .pkiEnrollment addr => (ParsecPkiEnrollmentAddr.kind crates).toHttpRedirectionUrl addr

def base : ParsecActionAddr crates → BaseParsecAddr
  | .organizationBootstrap addr => addr.base
  | .workspacePath addr => addr.base
  | .invitation addr => addr.base
  | .pkiEnrollment addr => addr.base

/-- The strings of an action address are classified as its own kind. -/
structure RoundTrips (action : ParsecActionAddr crates) : Prop where
  url : ∃ url, action.toUrl = .ok url ∧ fromStr url.asStr = .ok action ∧
    fromAny url.asStr = .ok action
  redirection : ∃ url, action.toHttpRedirectionUrl = .ok url ∧
    fromHttpRedirection url.asStr = .ok action ∧ fromAny url.asStr = .ok action

/-- The results of the kinds, of which this is the first that is not refused. -/
def Classified (organizationBootstrap : AddrResult crates (ParsecOrganizationBootstrapAddr crates))
    (workspacePath : AddrResult crates (ParsecWorkspacePathAddr crates))
    (invitation : AddrResult crates (ParsecInvitationAddr crates))
    (pkiEnrollment : AddrResult crates (ParsecPkiEnrollmentAddr crates)) :
    ParsecActionAddr crates → Prop
  | .organizationBootstrap addr => organizationBootstrap = .ok addr
  | .workspacePath addr => Refused organizationBootstrap ∧ workspacePath = .ok addr
  | .invitation addr => Refused organizationBootstrap ∧ Refused workspacePath ∧
      invitation = .ok addr
  | .pkiEnrollment addr => Refused organizationBootstrap ∧ Refused workspacePath ∧
      Refused invitation ∧ pkiEnrollment = .ok addr

theorem firstOf_classified
    {organizationBootstrap : AddrResult crates (ParsecOrganizationBootstrapAddr crates)}
    {workspacePath : AddrResult crates (ParsecWorkspacePathAddr crates)}
    {invitation : AddrResult crates (ParsecInvitationAddr crates)}
    {pkiEnrollment : AddrResult crates (ParsecPkiEnrollmentAddr crates)}
    {action : ParsecActionAddr crates}
    (classified : Classified organizationBootstrap workspacePath invitation pkiEnrollment action) :
    firstOf organizationBootstrap workspacePath invitation pkiEnrollment = .ok action := by
  cases action with
  | organizationBootstrap addr =>
    cases classified
    rfl
  | workspacePath addr =>
    obtain ⟨⟨first, rfl⟩, rfl⟩ := classified
    rfl
  | invitation addr =>
    obtain ⟨⟨first, rfl⟩, ⟨second, rfl⟩, rfl⟩ := classified
    rfl
  | pkiEnrollment addr =>
    obtain ⟨⟨first, rfl⟩, ⟨second, rfl⟩, ⟨third, rfl⟩, rfl⟩ := classified
    rfl

def readsAs (parsed : ParsecUrlAsHTTPScheme) (action : ParsecActionAddr crates) : Prop :=
  Classified (ParsecOrganizationBootstrapAddr.readUrl parsed)
    (ParsecWorkspacePathAddr.readUrl parsed) (ParsecInvitationAddr.readUrl parsed)
    (ParsecPkiEnrollmentAddr.readUrl parsed) action

theorem fromAny_readsAs {text : Text} {parsed : ParsecUrlAsHTTPScheme}
    {action : ParsecActionAddr crates} (parsedAs : ParsedAs crates text parsed)
    (reads : readsAs parsed action) : fromAny text = .ok action := by
  apply firstOf_classified
  cases action with
  | organizationBootstrap addr => exact fromAny_ok parsedAs reads
  | workspacePath addr =>
    obtain ⟨first, isAddr⟩ := reads
    exact ⟨fromAny_refused parsedAs first, fromAny_ok parsedAs isAddr⟩
  | invitation addr =>
    obtain ⟨first, second, isAddr⟩ := reads
    exact ⟨fromAny_refused parsedAs first, fromAny_refused parsedAs second,
      fromAny_ok parsedAs isAddr⟩
  | pkiEnrollment addr =>
    obtain ⟨first, second, third, isAddr⟩ := reads
    exact ⟨fromAny_refused parsedAs first, fromAny_refused parsedAs second,
      fromAny_refused parsedAs third, fromAny_ok parsedAs isAddr⟩

end ParsecActionAddr

variable (documented : crates.Documented) {parsed : ParsecUrlAsHTTPScheme} {base : BaseParsecAddr}
  {id : OrganizationID crates} {pairs : List (Text × Text)}
  (reads : Reads crates parsed base (some id.text) pairs) {action : Text}
  (isAction : extractParam crates pairs parsecParamAction = .ok action)
include documented reads isAction

theorem bootstrap_refuses (other : action ≠ parsecActionBootstrapOrganization) :
    Refused (ParsecOrganizationBootstrapAddr.readUrl parsed : AddrResult crates _) := by
  unfold ParsecOrganizationBootstrapAddr.readUrl
  rw [reads.base, answer_bind, extractOrganizationId_reads documented reads, answer_bind]
  simp only
  rw [expectValue_reads reads isAction, if_neg other]
  exact ⟨_, rfl⟩

theorem workspacePath_refuses (other : action ≠ parsecActionWorkspacePath) :
    Refused (ParsecWorkspacePathAddr.readUrl parsed : AddrResult crates _) := by
  unfold ParsecWorkspacePathAddr.readUrl
  rw [reads.base, answer_bind, extractOrganizationId_reads documented reads, answer_bind]
  simp only
  rw [expectValue_reads reads isAction, if_neg other]
  exact ⟨_, rfl⟩

theorem invitation_refuses (other : ∀ type : InvitationType, action ≠ type.action) :
    Refused (ParsecInvitationAddr.readUrl parsed : AddrResult crates _) := by
  have noType : Refused (ParsecInvitationAddr.readType action : AddrResult crates _) := by
    have notUser : action ≠ parsecActionClaimUser := other .user
    have notDevice : action ≠ parsecActionClaimDevice := other .device
    have notShamir : action ≠ parsecActionClaimShamirRecovery := other .shamirRecovery
    unfold ParsecInvitationAddr.readType
    rw [if_neg notUser, if_neg notDevice, if_neg notShamir]
    exact ⟨_, rfl⟩
  obtain ⟨error, isError⟩ := noType
  unfold ParsecInvitationAddr.readUrl
  rw [reads.base, answer_bind, extractOrganizationId_reads documented reads, answer_bind]
  simp only
  rw [extractParam_reads reads action_ne_noSsl, isAction, answer_bind, isError]
  exact ⟨_, rfl⟩

end Action

section Classification
variable {crates : Crates} (documented : crates.Documented)
include documented

/-- The strings of an address that is normalized, when only its own kind reads what they show. -/
theorem classified_roundTrips {α : Type} {kind : AddrKind crates α} {name : α → Option Text}
    {pairs : α → List (Text × Text)} {withBase : α → BaseParsecAddr → α}
    (faithful : kind.Faithful name pairs withBase) {addr : α} {action : ParsecActionAddr crates}
    (isUrl : action.toUrl = kind.toUrl addr)
    (isRedirection : action.toHttpRedirectionUrl = kind.toHttpRedirectionUrl addr)
    (classified : ∀ parsed, Reads crates parsed (kind.base addr) (name addr) (pairs addr) →
      action.readsAs parsed)
    (normalized : (kind.base addr).normalized = kind.base addr)
    (returned : crates.url.Returned (kind.base addr).hostname) : action.RoundTrips := by
  constructor
  · obtain ⟨url, parsed, isUrl', isParsed, parsedAs, reads⟩ :=
      toUrl_parsed documented faithful addr returned
    rw [normalized] at reads
    have readsAs := classified parsed reads
    refine ⟨url, isUrl.trans isUrl', ?_, ParsecActionAddr.fromAny_readsAs parsedAs readsAs⟩
    rw [ParsecActionAddr.fromStr, isParsed, answer_bind]
    exact ParsecActionAddr.firstOf_classified readsAs
  · obtain ⟨url, parsed, isUrl', isParsed, parsedAs, reads⟩ :=
      toHttpRedirectionUrl_parsed documented faithful addr returned
    rw [normalized] at reads
    have readsAs := classified parsed reads
    refine ⟨url, isRedirection.trans isUrl', ?_,
      ParsecActionAddr.fromAny_readsAs parsedAs readsAs⟩
    rw [ParsecActionAddr.fromHttpRedirection, isParsed, answer_bind]
    exact ParsecActionAddr.firstOf_classified readsAs

theorem action_roundTrips {action : ParsecActionAddr crates}
    (normalized : action.base.normalized = action.base)
    (returned : crates.url.Returned action.base.hostname) : action.RoundTrips := by
  cases action with
  | organizationBootstrap addr =>
    have faithful := bootstrapAddr_faithful documented
    apply classified_roundTrips documented faithful rfl rfl _ normalized returned
    intro parsed reads
    exact faithful.reads addr parsed _ reads
  | workspacePath addr =>
    have faithful := workspacePathAddr_faithful documented
    apply classified_roundTrips documented faithful rfl rfl _ normalized returned
    intro parsed reads
    have isAction := action_withPayload crates parsecActionWorkspacePath
      crates.workspacePath (addr.workspaceId, addr.keyIndex, addr.encryptedPath)
    exact ⟨bootstrap_refuses documented reads isAction (by decide),
      faithful.reads addr parsed _ reads⟩
  | invitation addr =>
    have faithful := invitationAddr_faithful documented
    apply classified_roundTrips documented faithful rfl rfl _ normalized returned
    intro parsed reads
    have isAction := action_withPayload crates addr.invitationType.action
      crates.invitationToken addr.token
    have notBootstrap : addr.invitationType.action ≠ parsecActionBootstrapOrganization := by
      cases addr.invitationType <;> decide
    have notPath : addr.invitationType.action ≠ parsecActionWorkspacePath := by
      cases addr.invitationType <;> decide
    exact ⟨bootstrap_refuses documented reads isAction notBootstrap,
      workspacePath_refuses documented reads isAction notPath,
      faithful.reads addr parsed _ reads⟩
  | pkiEnrollment addr =>
    have faithful := pkiEnrollmentAddr_faithful documented
    apply classified_roundTrips documented faithful rfl rfl _ normalized returned
    intro parsed reads
    have isAction := action_alone crates parsecActionPkiEnrollment
    have notInvitation : ∀ type : InvitationType, parsecActionPkiEnrollment ≠ type.action := by
      intro type
      cases type <;> decide
    exact ⟨bootstrap_refuses documented reads isAction (by decide),
      workspacePath_refuses documented reads isAction (by decide),
      invitation_refuses documented reads isAction notInvitation,
      faithful.reads addr parsed _ reads⟩

end Classification

end ParsecCloud.Addr
