import ParsecCloud.Addr.Reading

/- Each type of addresses reads what it has written, and refuses or answers anything else. -/
namespace ParsecCloud.Addr
open Rust Urls Certif ParsecUrlAsHTTPScheme

section Calm
variable {crates : Crates} {α β : Type}

def Calm (result : AddrResult crates α) : Prop := ∀ panic, result ≠ .error (.panicked panic)

theorem calm_ok (value : α) : Calm (.ok value : AddrResult crates α) := by
  intro panic same
  cases same

theorem calm_refuse (error : AddrError crates.url.ParseError) :
    Calm (refuse error : AddrResult crates α) := by
  intro panic same
  cases same

theorem calm_bind {result : AddrResult crates α} {next : α → AddrResult crates β}
    (calm : Calm result) (calmNext : ∀ value, result = .ok value → Calm (next value)) :
    Calm (result >>= next) := by
  cases result with
  | ok value => exact calmNext value rfl
  | error stop =>
    cases stop with
    | refused error => exact calm_refuse error
    | panicked panic => exact absurd rfl (calm panic)

theorem calm_ite {condition : Prop} [Decidable condition] {first second : AddrResult crates α}
    (calmFirst : Calm first) (calmSecond : Calm second) :
    Calm (if condition then first else second) := by
  split
  · exact calmFirst
  · exact calmSecond

theorem calm_orElse {first second : AddrResult crates α} (calmFirst : Calm first)
    (calmSecond : Calm second) : Calm (orElse first second) := by
  cases first with
  | ok value => exact calm_ok value
  | error stop =>
    cases stop with
    | refused error => exact calmSecond
    | panicked panic => exact absurd rfl (calmFirst panic)

theorem calm_extractParam (pairs : List (Text × Text)) (param : Text) :
    Calm (extractParam crates pairs param) := by
  unfold extractParam
  split
  · exact calm_refuse _
  · exact calm_ok _
  · exact calm_refuse _

theorem calm_extractParamAndExpectValue (pairs : List (Text × Text)) (param expected : Text) :
    Calm (extractParamAndExpectValue crates pairs param expected) :=
  calm_bind (calm_extractParam pairs param) fun value _ =>
    calm_ite (calm_ok value) (calm_refuse _)

theorem calm_extractPayload (codec : Msgpack α) (pairs : List (Text × Text)) (param : Text) :
    Calm (extractParamAndB64MsgpackDeserialize crates codec pairs param) := by
  apply calm_bind (calm_extractParam pairs param)
  intro value _
  split
  · exact calm_ok _
  · exact calm_refuse _

theorem calm_extractOrganizationId (parsed : ParsecUrlAsHTTPScheme) :
    Calm (extractOrganizationId crates parsed) := by
  unfold extractOrganizationId
  split
  · exact calm_refuse _
  · split
    · exact calm_ok _
    · exact calm_refuse _

end Calm

section Organization
variable {crates : Crates} (documented : crates.Documented)
include documented

theorem organizationId_isName (id : OrganizationID crates) : IsName id.text := by
  have valid := id.valid
  simp only [matchOrganizationId, Bool.and_eq_true, decide_eq_true_eq, List.all_eq_true,
    Bool.or_eq_true, beq_iff_eq] at valid
  constructor
  · intro none
    rw [none] at valid
    exact absurd valid.1.1 (by decide)
  · intro c member isAscii
    rcases valid.2 c member with dash | word
    · simp [isNameChar, dash]
    · rcases documented.wordAscii c word isAscii with alphanumeric | underscore
      · simp [isNameChar, alphanumeric]
      · simp [isNameChar, underscore]

theorem tryFrom_text (id : OrganizationID crates) :
    OrganizationID.tryFrom crates id.text = some id := by
  obtain ⟨text, ⟨raw, rfl⟩, valid⟩ := id
  have same := documented.nfcTwice raw
  unfold OrganizationID.tryFrom
  rw [dif_pos (by rw [same]; exact valid)]
  simp [same]

theorem extractOrganizationId_reads {parsed : ParsecUrlAsHTTPScheme} {base : BaseParsecAddr}
    {id : OrganizationID crates} {pairs : List (Text × Text)}
    (reads : Reads crates parsed base (some id.text) pairs) :
    extractOrganizationId crates parsed = .ok id := by
  obtain ⟨raw, ⟨segment, rfl, -, decoded⟩, isPath⟩ := reads.path
  have isText : parsed.url.path.text = '/' :: segment := by
    rw [isPath]
    simp [rooted, Path.text, segmentsText]
  unfold extractOrganizationId
  rw [isText]
  simp only
  rw [decoded, Option.bind_some, tryFrom_text documented]

theorem pushOrganization (id : OrganizationID crates) {scheme host : Text} {port : Option UInt16}
    {raw : List Text} {pairs : List (Text × Text)} {url : Url} (notEmpty : raw ≠ [[]])
    (shown : Shows crates scheme host port raw pairs url) :
    ∃ url' more, pushSegment crates url id.text = .ok url' ∧
      RawShows crates more (some id.text) ∧
      Shows crates scheme host port (raw ++ more) pairs url' := by
  obtain ⟨url', segment, isPushed, shown', safe, decoded, -⟩ :=
    shown.push documented (organizationId_isName documented id)
  refine ⟨url', [segment], isPushed, ⟨segment, rfl, safe, decoded⟩, ?_⟩
  rwa [pushed, if_neg notEmpty] at shown'

end Organization

section Params
variable {crates : Crates}

theorem extractParam_filter (pairs : List (Text × Text)) {param : Text} (other : param ≠ noSsl) :
    extractParam crates (pairs.filter fun pair => pair.1 ≠ noSsl) param =
      extractParam crates pairs param := by
  unfold extractParam
  rw [List.filter_filter]
  have same : (fun pair : Text × Text => decide (pair.1 = param) && decide (pair.1 ≠ noSsl)) =
      fun pair => decide (pair.1 = param) := by
    funext pair
    by_cases isParam : pair.1 = param
    · simp [isParam, other]
    · simp [isParam]
  rw [same]

theorem extractParam_reads {parsed : ParsecUrlAsHTTPScheme} {base : BaseParsecAddr}
    {name : Option Text} {pairs : List (Text × Text)} (reads : Reads crates parsed base name pairs)
    {param : Text} (other : param ≠ noSsl) :
    extractParam crates (crates.url.queryPairs parsed.url) param =
      extractParam crates pairs param := by
  rw [← extractParam_filter _ other, reads.pairs]

def payloadText (crates : Crates) (codec : Msgpack α) (data : α) : Text :=
  crates.base64Encode ((codec.toVec data).getD [])

theorem b64MsgpackSerialize_eq {codec : Msgpack α} (decodes : codec.Decodes) (data : α) :
    b64MsgpackSerialize crates codec data = .ok (payloadText crates codec data) := by
  obtain ⟨raw, isRaw, -⟩ := decodes data
  rw [b64MsgpackSerialize, payloadText, isRaw]
  rfl

def withPayload (crates : Crates) (action : Text) (codec : Msgpack α) (data : α) :
    List (Text × Text) :=
  [(parsecParamAction, action), (parsecParamPayload, payloadText crates codec data)]

theorem action_ne_noSsl : parsecParamAction ≠ noSsl := by decide

theorem payload_ne_noSsl : parsecParamPayload ≠ noSsl := by decide

theorem payload_reads (documented : crates.Documented) {codec : Msgpack α}
    (decodes : codec.Decodes) {data : α} {parsed : ParsecUrlAsHTTPScheme} {base : BaseParsecAddr}
    {name : Option Text} {pairs : List (Text × Text)} (reads : Reads crates parsed base name pairs)
    (isPayload : extractParam crates pairs parsecParamPayload =
      .ok (payloadText crates codec data)) :
    extractParamAndB64MsgpackDeserialize crates codec (crates.url.queryPairs parsed.url)
      parsecParamPayload = .ok data := by
  obtain ⟨raw, isRaw, decoded⟩ := decodes data
  unfold extractParamAndB64MsgpackDeserialize
  rw [extractParam_reads reads payload_ne_noSsl, isPayload, answer_bind, payloadText, isRaw,
    Option.getD_some, documented.base64, Option.bind_some, decoded]

theorem expectValue_reads {parsed : ParsecUrlAsHTTPScheme} {base : BaseParsecAddr}
    {name : Option Text} {pairs : List (Text × Text)} (reads : Reads crates parsed base name pairs)
    {action : Text} (isAction : extractParam crates pairs parsecParamAction = .ok action)
    (expected : Text) :
    extractParamAndExpectValue crates (crates.url.queryPairs parsed.url) parsecParamAction expected =
      if action = expected then .ok action
      else refuse (.invalidParamValue parsecParamAction
        ("Expected `".toList ++ parsecParamAction ++ "=".toList ++ expected ++ "`".toList)) := by
  unfold extractParamAndExpectValue
  rw [extractParam_reads reads action_ne_noSsl, isAction, answer_bind]

variable (crates) in
theorem action_withPayload (action : Text) (codec : Msgpack α) (data : α) :
    extractParam crates (withPayload crates action codec data) parsecParamAction = .ok action :=
  rfl

variable (crates) in
theorem payload_withPayload (action : Text) (codec : Msgpack α) (data : α) :
    extractParam crates (withPayload crates action codec data) parsecParamPayload =
      .ok (payloadText crates codec data) :=
  rfl

theorem withPayload_ownPairs (action : Text) (codec : Msgpack α) (data : α) :
    ∀ pair ∈ withPayload crates action codec data, pair.1 ≠ noSsl := by
  simp [withPayload, action_ne_noSsl, payload_ne_noSsl]

variable (crates) in
theorem action_alone (action : Text) :
    extractParam crates [(parsecParamAction, action)] parsecParamAction = .ok action :=
  rfl

theorem readType_action (type : InvitationType) :
    (ParsecInvitationAddr.readType type.action : AddrResult crates _) = .ok type := by
  cases type <;> rfl

theorem calm_readType (action : Text) :
    Calm (ParsecInvitationAddr.readType action : AddrResult crates _) := by
  unfold ParsecInvitationAddr.readType
  exact calm_ite (calm_ok _) (calm_ite (calm_ok _) (calm_ite (calm_ok _) (calm_refuse _)))

end Params

/-- A type of addresses that reads what it writes: the organization in the path, the parameters in
    the query, and the server under any of them. -/
structure AddrKind.Faithful {crates : Crates} {α : Type} (kind : AddrKind crates α)
    (name : α → Option Text) (pairs : α → List (Text × Text))
    (withBase : α → BaseParsecAddr → α) : Prop where
  base_withBase : ∀ addr base, kind.base (withBase addr base) = base
  withBase_base : ∀ addr, withBase addr (kind.base addr) = addr
  ownPairs : ∀ addr, ∀ pair ∈ pairs addr, pair.1 ≠ noSsl
  writes : ∀ addr scheme host port raw before url, raw ≠ [[]] →
    Shows crates scheme host port raw before url → ∃ url' more,
      kind.writeUrl addr url = .ok url' ∧ RawShows crates more (name addr) ∧
      Shows crates scheme host port (raw ++ more) (before ++ pairs addr) url'
  reads : ∀ addr parsed base, Reads crates parsed base (name addr) (pairs addr) →
    kind.readUrl parsed = .ok (withBase addr base)
  readsBase : ∀ addr parsed, kind.readUrl parsed = .ok addr →
    BaseParsecAddr.fromUrl crates parsed = .ok (kind.base addr)
  calm : ∀ parsed, Calm (BaseParsecAddr.fromUrl crates parsed) → Calm (kind.readUrl parsed)

section Faithful
variable {crates : Crates} (documented : crates.Documented)
include documented

omit documented in
theorem parsecAddr_faithful : (ParsecAddr.kind crates).Faithful (fun _ => none) (fun _ => [])
    (fun _ base => ⟨base⟩) where
  base_withBase _ _ := rfl
  withBase_base _ := rfl
  ownPairs _ _ none := by cases none
  writes := by
    intro _ scheme host port raw before url _ shown
    refine ⟨url, [], rfl, rfl, ?_⟩
    rwa [List.append_nil, List.append_nil]
  reads := by
    intro _ parsed base reads
    obtain ⟨raw, rfl, isPath⟩ := reads.path
    show ParsecAddr.readUrl crates parsed = _
    unfold ParsecAddr.readUrl
    rw [reads.base, answer_bind, isPath]
    rfl
  readsBase := by
    intro addr parsed answered
    obtain ⟨base, isBase, answered⟩ := bind_eq_ok.mp answered
    split at answered
    · cases answered
    · cases answered
      exact isBase
  calm := by
    intro parsed calm
    exact calm_bind calm fun base _ => calm_ite (calm_refuse _) (calm_ok _)

/-- An address with an organization in the path: `rest` reads what the query says. -/
theorem organizationKind_faithful {α : Type} {kind : AddrKind crates α}
    {organizationId : α → OrganizationID crates} {pairs : α → List (Text × Text)}
    {withBase : α → BaseParsecAddr → α}
    {rest : ParsecUrlAsHTTPScheme → BaseParsecAddr → OrganizationID crates → AddrResult crates α}
    (base_withBase : ∀ addr base, kind.base (withBase addr base) = base)
    (withBase_base : ∀ addr, withBase addr (kind.base addr) = addr)
    (ownPairs : ∀ addr, ∀ pair ∈ pairs addr, pair.1 ≠ noSsl)
    (writeUrl : ∀ addr url, kind.writeUrl addr url =
      pushSegment crates url (organizationId addr).text >>= fun url =>
        .ok (appendPairs crates url (pairs addr)))
    (readUrl : ∀ parsed, kind.readUrl parsed =
      BaseParsecAddr.fromUrl crates parsed >>= fun base =>
        extractOrganizationId crates parsed >>= rest parsed base)
    (reads : ∀ addr parsed base,
      Reads crates parsed base (some (organizationId addr).text) (pairs addr) →
        rest parsed base (organizationId addr) = .ok (withBase addr base))
    (restBase : ∀ parsed base id addr, rest parsed base id = .ok addr → kind.base addr = base)
    (calm : ∀ parsed base id, Calm (rest parsed base id)) :
    kind.Faithful (fun addr => some (organizationId addr).text) pairs withBase where
  base_withBase := base_withBase
  withBase_base := withBase_base
  ownPairs := ownPairs
  writes := by
    intro addr scheme host port raw before url notEmpty shown
    obtain ⟨url', more, isPushed, rawShows, shown'⟩ :=
      pushOrganization documented (organizationId addr) notEmpty shown
    refine ⟨_, more, ?_, rawShows, shown'.appendAll documented (pairs addr)⟩
    rw [writeUrl, isPushed, ok_bind]
  reads := by
    intro addr parsed base shown
    rw [readUrl, shown.base, answer_bind, extractOrganizationId_reads documented shown, answer_bind]
    exact reads addr parsed base shown
  readsBase := by
    intro addr parsed answered
    rw [readUrl] at answered
    obtain ⟨base, isBase, answered⟩ := bind_eq_ok.mp answered
    obtain ⟨id, -, answered⟩ := bind_eq_ok.mp answered
    rw [isBase, restBase parsed base id addr answered]
  calm := by
    intro parsed calmBase
    rw [readUrl]
    apply calm_bind calmBase
    intro base _
    exact calm_bind (calm_extractOrganizationId parsed) fun id _ => calm parsed base id

theorem organizationAddr_faithful :
    (ParsecOrganizationAddr.kind crates).Faithful (fun addr => some addr.organizationId.text)
      (fun addr => [(parsecParamPayload, payloadText crates crates.verifyKey addr.rootVerifyKey)])
      (fun addr base => { addr with base }) := by
  apply organizationKind_faithful documented (fun _ _ => rfl) (fun _ => rfl) ?_ ?_ (fun _ => rfl)
  · intro addr parsed base reads
    simp only
    rw [payload_reads documented documented.verifyKey reads rfl]
    rfl
  · intro parsed base id addr answered
    obtain ⟨key, -, answered⟩ := bind_eq_ok.mp answered
    cases answered
    rfl
  · exact fun _ _ _ => calm_bind (calm_extractPayload _ _ _) fun _ _ => calm_ok _
  · intro addr pair member
    rw [List.mem_singleton.mp member]
    exact payload_ne_noSsl
  · intro addr url
    show ParsecOrganizationAddr.writeUrl addr url = _
    unfold ParsecOrganizationAddr.writeUrl
    rw [b64MsgpackSerialize_eq documented.verifyKey]
    rfl

theorem bootstrapAddr_faithful :
    (ParsecOrganizationBootstrapAddr.kind crates).Faithful
      (fun addr => some addr.organizationId.text)
      (fun addr => withPayload crates parsecActionBootstrapOrganization crates.bootstrapToken
        addr.token)
      (fun addr base => { addr with base }) := by
  apply organizationKind_faithful documented (fun _ _ => rfl) (fun _ => rfl)
    (fun _ => withPayload_ownPairs _ _ _) ?_ (fun _ => rfl)
  · intro addr parsed base reads
    simp only
    rw [expectValue_reads reads (action_withPayload _ _ _ _), if_pos rfl, answer_bind,
      payload_reads documented documented.bootstrapToken reads (payload_withPayload _ _ _ _)]
    rfl
  · intro parsed base id addr answered
    obtain ⟨action, -, answered⟩ := bind_eq_ok.mp answered
    obtain ⟨token, -, answered⟩ := bind_eq_ok.mp answered
    cases answered
    rfl
  · exact fun _ _ _ => calm_bind (calm_extractParamAndExpectValue _ _ _) fun _ _ =>
      calm_bind (calm_extractPayload _ _ _) fun _ _ => calm_ok _
  · intro addr url
    show ParsecOrganizationBootstrapAddr.writeUrl addr url = _
    unfold ParsecOrganizationBootstrapAddr.writeUrl
    rw [b64MsgpackSerialize_eq documented.bootstrapToken]
    rfl

theorem workspacePathAddr_faithful :
    (ParsecWorkspacePathAddr.kind crates).Faithful
      (fun addr => some addr.organizationId.text)
      (fun addr => withPayload crates parsecActionWorkspacePath crates.workspacePath
        (addr.workspaceId, addr.keyIndex, addr.encryptedPath))
      (fun addr base => { addr with base }) := by
  apply organizationKind_faithful documented (fun _ _ => rfl) (fun _ => rfl)
    (fun _ => withPayload_ownPairs _ _ _) ?_ (fun _ => rfl)
  · intro addr parsed base reads
    simp only
    rw [expectValue_reads reads (action_withPayload _ _ _ _), if_pos rfl, answer_bind,
      payload_reads documented documented.workspacePath reads (payload_withPayload _ _ _ _)]
    rfl
  · intro parsed base id addr answered
    obtain ⟨action, -, answered⟩ := bind_eq_ok.mp answered
    obtain ⟨path, -, answered⟩ := bind_eq_ok.mp answered
    cases answered
    rfl
  · exact fun _ _ _ => calm_bind (calm_extractParamAndExpectValue _ _ _) fun _ _ =>
      calm_bind (calm_extractPayload _ _ _) fun _ _ => calm_ok _
  · intro addr url
    show ParsecWorkspacePathAddr.writeUrl addr url = _
    unfold ParsecWorkspacePathAddr.writeUrl
    rw [b64MsgpackSerialize_eq documented.workspacePath]
    rfl

theorem invitationAddr_faithful :
    (ParsecInvitationAddr.kind crates).Faithful
      (fun addr => some addr.organizationId.text)
      (fun addr => withPayload crates addr.invitationType.action crates.invitationToken addr.token)
      (fun addr base => { addr with base }) := by
  apply organizationKind_faithful documented (fun _ _ => rfl) (fun _ => rfl)
    (fun _ => withPayload_ownPairs _ _ _) ?_ (fun _ => rfl)
  · intro addr parsed base reads
    simp only
    rw [extractParam_reads reads action_ne_noSsl, action_withPayload, answer_bind,
      readType_action, answer_bind,
      payload_reads documented documented.invitationToken reads (payload_withPayload _ _ _ _)]
    rfl
  · intro parsed base id addr answered
    obtain ⟨action, -, answered⟩ := bind_eq_ok.mp answered
    obtain ⟨type, -, answered⟩ := bind_eq_ok.mp answered
    obtain ⟨token, -, answered⟩ := bind_eq_ok.mp answered
    cases answered
    rfl
  · exact fun _ _ _ => calm_bind (calm_extractParam _ _) fun action _ =>
      calm_bind (calm_readType action) fun _ _ =>
        calm_bind (calm_extractPayload _ _ _) fun _ _ => calm_ok _
  · intro addr url
    show ParsecInvitationAddr.writeUrl addr url = _
    unfold ParsecInvitationAddr.writeUrl
    rw [b64MsgpackSerialize_eq documented.invitationToken]
    rfl

theorem pkiEnrollmentAddr_faithful :
    (ParsecPkiEnrollmentAddr.kind crates).Faithful
      (fun addr => some addr.organizationId.text)
      (fun _ => [(parsecParamAction, parsecActionPkiEnrollment)])
      (fun addr base => { addr with base }) := by
  apply organizationKind_faithful documented (fun _ _ => rfl) (fun _ => rfl) ?_
    (fun _ _ => rfl) (fun _ => rfl)
  · intro addr parsed base reads
    simp only
    rw [expectValue_reads reads (action_alone _ _), if_pos rfl, answer_bind]
  · intro parsed base id addr answered
    obtain ⟨action, -, answered⟩ := bind_eq_ok.mp answered
    cases answered
    rfl
  · exact fun _ _ _ => calm_bind (calm_extractParamAndExpectValue _ _ _) fun _ _ => calm_ok _
  · intro addr pair member
    rw [List.mem_singleton.mp member]
    exact action_ne_noSsl

end Faithful

end ParsecCloud.Addr
