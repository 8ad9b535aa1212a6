import ParsecCloud.Addr.Base

/- The types of addresses (libparsec_types, addr.rs): the path and the parameters of each. -/
namespace ParsecCloud.Addr
open Rust Urls Certif

variable (crates : Crates)

structure ParsecAddr where
  base : BaseParsecAddr
  deriving DecidableEq

namespace ParsecAddr

def new (hostname : Text) (port : Option UInt16) (useSsl : Bool) : Checked ParsecAddr :=
  if hostname = [] then .error (.assert "Hostname cannot be empty !")
  else .ok ⟨hostname, port, useSsl⟩

def readUrl (parsed : ParsecUrlAsHTTPScheme) : AddrResult crates ParsecAddr := do
  let base ← BaseParsecAddr.fromUrl crates parsed
  if parsed.url.path.text ≠ [] ∧ parsed.url.path.text ≠ ['/'] then refuse .shouldNotHaveAPath
  else .ok ⟨base⟩

def kind : AddrKind crates ParsecAddr where
  base := ParsecAddr.base
  readUrl := readUrl crates
  writeUrl _ url := .ok url

def fromHttpUrl (text : Text) : AddrResult crates ParsecAddr := do
  let parsed ← ParsecUrlAsHTTPScheme.fromHttpUrl crates text
  readUrl crates parsed

end ParsecAddr

structure ParsecOrganizationAddr where
  base : BaseParsecAddr
  organizationId : OrganizationID crates
  rootVerifyKey : VerifyKey
  deriving DecidableEq

namespace ParsecOrganizationAddr
variable {crates}

def new (server : ParsecAddr) (organizationId : OrganizationID crates)
    (rootVerifyKey : VerifyKey) : ParsecOrganizationAddr crates :=
  ⟨server.base, organizationId, rootVerifyKey⟩

def readUrl (parsed : ParsecUrlAsHTTPScheme) :
    AddrResult crates (ParsecOrganizationAddr crates) := do
  let base ← BaseParsecAddr.fromUrl crates parsed
  let organizationId ← extractOrganizationId crates parsed
  let pairs := crates.url.queryPairs parsed.url
  let rootVerifyKey ←
    extractParamAndB64MsgpackDeserialize crates crates.verifyKey pairs parsecParamPayload
  .ok ⟨base, organizationId, rootVerifyKey⟩

def writeUrl (addr : ParsecOrganizationAddr crates) (url : Url) : Checked Url := do
  let url ← pushSegment crates url addr.organizationId.text
  let payload ← b64MsgpackSerialize crates crates.verifyKey addr.rootVerifyKey
  .ok (appendPairs crates url [(parsecParamPayload, payload)])

variable (crates) in
def kind : AddrKind crates (ParsecOrganizationAddr crates) where
  base := base
  readUrl := readUrl
  writeUrl := writeUrl

end ParsecOrganizationAddr

structure ParsecOrganizationBootstrapAddr where
  base : BaseParsecAddr
  organizationId : OrganizationID crates
  token : Option BootstrapToken
  deriving DecidableEq

namespace ParsecOrganizationBootstrapAddr
variable {crates}

def new (server : ParsecAddr) (organizationId : OrganizationID crates)
    (token : Option BootstrapToken) : ParsecOrganizationBootstrapAddr crates :=
  ⟨server.base, organizationId, token⟩

def readUrl (parsed : ParsecUrlAsHTTPScheme) :
    AddrResult crates (ParsecOrganizationBootstrapAddr crates) := do
  let base ← BaseParsecAddr.fromUrl crates parsed
  let organizationId ← extractOrganizationId crates parsed
  let pairs := crates.url.queryPairs parsed.url
  let _ ← extractParamAndExpectValue crates pairs parsecParamAction
    parsecActionBootstrapOrganization
  let token ←
    extractParamAndB64MsgpackDeserialize crates crates.bootstrapToken pairs parsecParamPayload
  .ok ⟨base, organizationId, token⟩

def writeUrl (addr : ParsecOrganizationBootstrapAddr crates) (url : Url) : Checked Url := do
  let url ← pushSegment crates url addr.organizationId.text
  let payload ← b64MsgpackSerialize crates crates.bootstrapToken addr.token
  .ok (appendPairs crates url
    [(parsecParamAction, parsecActionBootstrapOrganization), (parsecParamPayload, payload)])

variable (crates) in
def kind : AddrKind crates (ParsecOrganizationBootstrapAddr crates) where
  base := base
  readUrl := readUrl
  writeUrl := writeUrl

end ParsecOrganizationBootstrapAddr

structure ParsecWorkspacePathAddr where
  base : BaseParsecAddr
  organizationId : OrganizationID crates
  workspaceId : VlobID
  keyIndex : IndexInt
  encryptedPath : Bytes
  deriving DecidableEq

namespace ParsecWorkspacePathAddr
variable {crates}

def new (server : ParsecAddr) (organizationId : OrganizationID crates) (workspaceId : VlobID)
    (keyIndex : IndexInt) (encryptedPath : Bytes) : ParsecWorkspacePathAddr crates :=
  ⟨server.base, organizationId, workspaceId, keyIndex, encryptedPath⟩

def readUrl (parsed : ParsecUrlAsHTTPScheme) :
    AddrResult crates (ParsecWorkspacePathAddr crates) := do
  let base ← BaseParsecAddr.fromUrl crates parsed
  let organizationId ← extractOrganizationId crates parsed
  let pairs := crates.url.queryPairs parsed.url
  let _ ← extractParamAndExpectValue crates pairs parsecParamAction parsecActionWorkspacePath
  let (workspaceId, keyIndex, encryptedPath) ←
    extractParamAndB64MsgpackDeserialize crates crates.workspacePath pairs parsecParamPayload
  .ok ⟨base, organizationId, workspaceId, keyIndex, encryptedPath⟩

def writeUrl (addr : ParsecWorkspacePathAddr crates) (url : Url) : Checked Url := do
  let url ← pushSegment crates url addr.organizationId.text
  let payload ← b64MsgpackSerialize crates crates.workspacePath
    (addr.workspaceId, addr.keyIndex, addr.encryptedPath)
  .ok (appendPairs crates url
    [(parsecParamAction, parsecActionWorkspacePath), (parsecParamPayload, payload)])

variable (crates) in
def kind : AddrKind crates (ParsecWorkspacePathAddr crates) where
  base := base
  readUrl := readUrl
  writeUrl := writeUrl

end ParsecWorkspacePathAddr

structure ParsecInvitationAddr where
  base : BaseParsecAddr
  organizationId : OrganizationID crates
  invitationType : InvitationType
  token : InvitationToken
  deriving DecidableEq

def InvitationType.action : InvitationType → Text
  | .user => parsecActionClaimUser
  | .device => parsecActionClaimDevice
  | .shamirRecovery => parsecActionClaimShamirRecovery

namespace ParsecInvitationAddr
variable {crates}

def new (server : ParsecAddr) (organizationId : OrganizationID crates)
    (invitationType : InvitationType) (token : InvitationToken) : ParsecInvitationAddr crates :=
  ⟨server.base, organizationId, invitationType, token⟩

def readType (action : Text) : AddrResult crates InvitationType :=
  if action = parsecActionClaimUser then .ok .user
  else if action = parsecActionClaimDevice then .ok .device
  else if action = parsecActionClaimShamirRecovery then .ok .shamirRecovery
  else refuse (.invalidParamValue parsecParamAction
    "Expected `a=claim_user`, `a=claim_device` or `a=claim_shamir_recovery`".toList)

def readUrl (parsed : ParsecUrlAsHTTPScheme) :
    AddrResult crates (ParsecInvitationAddr crates) := do
  let base ← BaseParsecAddr.fromUrl crates parsed
  let organizationId ← extractOrganizationId crates parsed
  let pairs := crates.url.queryPairs parsed.url
  let action ← extractParam crates pairs parsecParamAction
  let invitationType ← readType action
  let token ←
    extractParamAndB64MsgpackDeserialize crates crates.invitationToken pairs parsecParamPayload
  .ok ⟨base, organizationId, invitationType, token⟩

def writeUrl (addr : ParsecInvitationAddr crates) (url : Url) : Checked Url := do
  let url ← pushSegment crates url addr.organizationId.text
  let payload ← b64MsgpackSerialize crates crates.invitationToken addr.token
  .ok (appendPairs crates url
    [(parsecParamAction, addr.invitationType.action), (parsecParamPayload, payload)])

variable (crates) in
def kind : AddrKind crates (ParsecInvitationAddr crates) where
  base := base
  readUrl := readUrl
  writeUrl := writeUrl

end ParsecInvitationAddr

structure ParsecPkiEnrollmentAddr where
  base : BaseParsecAddr
  organizationId : OrganizationID crates
  deriving DecidableEq

namespace ParsecPkiEnrollmentAddr
variable {crates}

def new (server : ParsecAddr) (organizationId : OrganizationID crates) :
    ParsecPkiEnrollmentAddr crates :=
  ⟨server.base, organizationId⟩

def readUrl (parsed : ParsecUrlAsHTTPScheme) :
    AddrResult crates (ParsecPkiEnrollmentAddr crates) := do
  let base ← BaseParsecAddr.fromUrl crates parsed
  let organizationId ← extractOrganizationId crates parsed
  let pairs := crates.url.queryPairs parsed.url
  let _ ← extractParamAndExpectValue crates pairs parsecParamAction parsecActionPkiEnrollment
  .ok ⟨base, organizationId⟩

def writeUrl (addr : ParsecPkiEnrollmentAddr crates) (url : Url) : Checked Url := do
  let url ← pushSegment crates url addr.organizationId.text
  .ok (appendPairs crates url [(parsecParamAction, parsecActionPkiEnrollment)])

variable (crates) in
def kind : AddrKind crates (ParsecPkiEnrollmentAddr crates) where
  base := base
  readUrl := readUrl
  writeUrl := writeUrl

end ParsecPkiEnrollmentAddr

inductive ParsecActionAddr where
  | organizationBootstrap (addr : ParsecOrganizationBootstrapAddr crates)
  | workspacePath (addr : ParsecWorkspacePathAddr crates)
  | invitation (addr : ParsecInvitationAddr crates)
  | pkiEnrollment (addr : ParsecPkiEnrollmentAddr crates)
  deriving DecidableEq

namespace ParsecActionAddr
variable {crates}

/-- The kinds of action addresses in the order in which they are tried. -/
def firstOf (organizationBootstrap : AddrResult crates (ParsecOrganizationBootstrapAddr crates))
    (workspacePath : AddrResult crates (ParsecWorkspacePathAddr crates))
    (invitation : AddrResult crates (ParsecInvitationAddr crates))
    (pkiEnrollment : AddrResult crates (ParsecPkiEnrollmentAddr crates)) :
    AddrResult crates (ParsecActionAddr crates) :=
  orElse (organizationBootstrap.map .organizationBootstrap)
    (orElse (workspacePath.map .workspacePath)
      (orElse (invitation.map .invitation) (pkiEnrollment.map .pkiEnrollment)))

def readUrl (parsed : ParsecUrlAsHTTPScheme) : AddrResult crates (ParsecActionAddr crates) :=
  firstOf (ParsecOrganizationBootstrapAddr.readUrl parsed) (ParsecWorkspacePathAddr.readUrl parsed)
    (ParsecInvitationAddr.readUrl parsed) (ParsecPkiEnrollmentAddr.readUrl parsed)

def fromAny (text : Text) : AddrResult crates (ParsecActionAddr crates) :=
  firstOf ((ParsecOrganizationBootstrapAddr.kind crates).fromAny text)
    ((ParsecWorkspacePathAddr.kind crates).fromAny text) ((ParsecInvitationAddr.kind crates).fromAny text)
    ((ParsecPkiEnrollmentAddr.kind crates).fromAny text)

def fromHttpRedirection (text : Text) : AddrResult crates (ParsecActionAddr crates) := do
  let parsed ← ParsecUrlAsHTTPScheme.fromHttpRedirection crates text
  readUrl parsed

def fromStr (text : Text) : AddrResult crates (ParsecActionAddr crates) := do
  let parsed ← ParsecUrlAsHTTPScheme.fromStr crates text
  readUrl parsed

end ParsecActionAddr

end ParsecCloud.Addr
