import ParsecCloud.Lib.Urls
import ParsecCloud.Types.EntryName
import ParsecCloud.Certif.Certificate

/- Addresses (libparsec_types, addr.rs): their parsec3 URLs and their http redirection URLs. What
   comes from other crates (url, unicode_normalization, regex_syntax, data_encoding, rmp_serde) is
   a parameter. -/
namespace ParsecCloud.Addr
open Rust Urls Certif

structure BootstrapToken where
  uuid : Nat
  deriving DecidableEq

structure InvitationToken where
  uuid : Nat
  deriving DecidableEq

inductive InvitationType where
  | user
  | device
  | shamirRecovery
  deriving DecidableEq

abbrev IndexInt := UInt64

abbrev Bytes := List UInt8

structure Msgpack (α : Type) where
  toVec : α → Option Bytes
  fromSlice : Bytes → Option α

structure Crates where
  url : UrlCrate
  nfc : Text → Text
  isWordCharacter : Char → Bool
  base64Encode : Bytes → Text
  base64Decode : Text → Option Bytes
  verifyKey : Msgpack VerifyKey
  bootstrapToken : Msgpack (Option BootstrapToken)
  workspacePath : Msgpack (VlobID × IndexInt × Bytes)
  invitationToken : Msgpack InvitationToken

inductive AddrError (ParseError : Type) where
  | invalidUrl (error : ParseError)
  | notARedirection
  | invalidUrlScheme (expected : Text)
  | invalidParamValue (param : Text) (help : Text)
  | duplicateParam (param : Text)
  | missingParam (param : Text)
  | shouldNotHaveAPath
  | invalidOrganizationID

inductive Stop (ParseError : Type) where
  | refused (error : AddrError ParseError)
  | panicked (panic : Panic)

def parsecScheme : Text := "parsec3".toList
def httpOrHttpsScheme : Text := "http(s)".toList
def parsecSslDefaultPort : UInt16 := 443
def parsecNoSslDefaultPort : UInt16 := 80
def parsecParamAction : Text := "a".toList
def parsecParamPayload : Text := "p".toList
def parsecActionBootstrapOrganization : Text := "bootstrap_organization".toList
def parsecActionWorkspacePath : Text := "path".toList
def parsecActionClaimUser : Text := "claim_user".toList
def parsecActionClaimDevice : Text := "claim_device".toList
def parsecActionClaimShamirRecovery : Text := "claim_shamir_recovery".toList
def parsecActionPkiEnrollment : Text := "pki_enrollment".toList
def noSsl : Text := "no_ssl".toList
def redirect : Text := "redirect".toList

variable (crates : Crates)

/-- The result of code that refuses with an AddrError, or panics. -/
abbrev AddrResult (α : Type) := Except (Stop crates.url.ParseError) α

section Results
variable {crates} {α β : Type}

def refuse (error : AddrError crates.url.ParseError) : AddrResult crates α :=
  .error (.refused error)

def lift (result : Checked α) : AddrResult crates α :=
  match result with
  | .ok value => .ok value
  | .error panic => .error (.panicked panic)

/-- The second result when the first is an AddrError. -/
def orElse (first second : AddrResult crates α) : AddrResult crates α :=
  match first with
  | .error (.refused _) => second
  | result => result

@[simp] theorem answer_bind (value : α) (next : α → AddrResult crates β) :
    ((.ok value : AddrResult crates α) >>= next) = next value := rfl

@[simp] theorem stop_bind (stop : Stop crates.url.ParseError) (next : α → AddrResult crates β) :
    ((.error stop : AddrResult crates α) >>= next) = .error stop := rfl

theorem orElse_eq_ok {first second : AddrResult crates α} {value : α}
    (isValue : orElse first second = .ok value) : first = .ok value ∨ second = .ok value := by
  cases first with
  | ok other => exact Or.inl isValue
  | error stop =>
    cases stop with
    | refused error => exact Or.inr isValue
    | panicked panic => cases isValue

theorem map_eq_ok {result : AddrResult crates α} {f : α → β} {value : β}
    (isValue : result.map f = .ok value) : ∃ before, result = .ok before ∧ f before = value := by
  cases result with
  | ok before =>
    cases isValue
    exact ⟨before, rfl, rfl⟩
  | error stop => cases isValue

end Results

/-- Equivalent to pattern "^[\w\-]{1,32}$" on 32 bytes -/
def matchOrganizationId (id : Text) : Bool :=
  (1 ≤ utf8Len id && utf8Len id ≤ 32) && id.all fun c => c == '-' || crates.isWordCharacter c

/-- An organization id comes from a text that has been normalized. -/
structure OrganizationID where
  text : Text
  normalized : ∃ raw, crates.nfc raw = text
  valid : matchOrganizationId crates text = true
  deriving DecidableEq

def OrganizationID.tryFrom (raw : Text) : Option (OrganizationID crates) :=
  if valid : matchOrganizationId crates (crates.nfc raw) = true then
    some ⟨crates.nfc raw, ⟨raw, rfl⟩, valid⟩
  else none

/-- str::replacen with a count of 1 -/
def replaceFirst (pattern replacement : Text) : Text → Text
  | [] => if pattern = [] then replacement else []
  | c :: rest =>
    if pattern.isPrefixOf (c :: rest) then replacement ++ (c :: rest).drop pattern.length
    else c :: replaceFirst pattern replacement rest

/-- str::to_lowercase, for a comparison with the words true and false: no character outside of
    ASCII has one of their letters as its lower case. -/
def toLowercase (text : Text) : Text := text.map Char.toLower

structure ParsecUrlAsHTTPScheme where
  url : Url

namespace ParsecUrlAsHTTPScheme

def parseUrl (text : Text) : AddrResult crates Url :=
  match crates.url.parse text with
  | .ok url => .ok url
  | .error error => refuse (.invalidUrl error)

/-- The query without no_ssl: the scheme says it already. -/
def cleanedQuery (parsed : Url) : Url :=
  crates.url.setQuery parsed (some (crates.url.serializePairs
    ((crates.url.queryPairs parsed).filter fun pair => pair.1 ≠ noSsl)))

def parseHttp (text : Text) : AddrResult crates Url := do
  let parsed ← parseUrl crates text
  if IsHttp parsed.scheme then .ok (cleanedQuery crates parsed)
  else refuse (.invalidUrlScheme httpOrHttpsScheme)

def fromHttpRedirection (text : Text) : AddrResult crates ParsecUrlAsHTTPScheme := do
  let parsed ← parseHttp crates text
  match parsed.pathSegments with
  | some (first :: rest) =>
    if first = redirect then .ok ⟨crates.url.setPath parsed (['/'].intercalate rest)⟩
    else refuse .notARedirection
  | _ => refuse .notARedirection

def fromHttpUrl (text : Text) : AddrResult crates ParsecUrlAsHTTPScheme := do
  let parsed ← parseHttp crates text
  .ok ⟨parsed⟩

def readNoSsl : Option Text → AddrResult crates Bool
  | none => .ok true
  | some value =>
    if toLowercase value = "false".toList then .ok true
    else if toLowercase value = "true".toList then .ok false
    else refuse (.invalidParamValue noSsl "Expected `no_ssl=true` or `no_ssl=false`".toList)

/-- Whether to use ssl, from the no_ssl parameters in the order of the query. -/
def readUseSsl (values : List Text) : AddrResult crates Bool := do
  let useSsl ← readNoSsl crates values.head?
  if values.tail = [] then .ok useSsl else refuse (.duplicateParam noSsl)

def httpScheme (useSsl : Bool) : Text := if useSsl then https else http

def fromStr (text : Text) : AddrResult crates ParsecUrlAsHTTPScheme := do
  let parsed ← parseUrl crates text
  let noSslQueries := (crates.url.queryPairs parsed).filter fun pair => pair.1 = noSsl
  let useSsl ← readUseSsl crates (noSslQueries.map (·.2))
  if parsed.scheme = parsecScheme then
    let url ← parseUrl crates (replaceFirst parsecScheme (httpScheme useSsl) parsed.asStr)
    .ok ⟨url⟩
  else refuse (.invalidUrlScheme parsecScheme)

end ParsecUrlAsHTTPScheme

structure BaseParsecAddr where
  hostname : Text
  port : Option UInt16
  useSsl : Bool
  deriving DecidableEq

namespace BaseParsecAddr

def defaultPort (useSsl : Bool) : UInt16 :=
  if useSsl then parsecSslDefaultPort else parsecNoSslDefaultPort

def useSslOf (scheme : Text) : AddrResult crates Bool :=
  if scheme = http then .ok false
  else if scheme = https then .ok true
  else .error (.panicked (.assert "scheme can only be http or https"))

def fromUrl (parsed : ParsecUrlAsHTTPScheme) : AddrResult crates BaseParsecAddr := do
  let hostname ← lift
    (expectSome "cannot-be-a-base url must contain a hostname" parsed.url.host)
  let useSsl ← useSslOf crates parsed.url.scheme
  let port := parsed.url.port.bind fun port =>
    if port = defaultPort useSsl then none else some port
  .ok ⟨hostname, port, useSsl⟩

def parseValidated (text : Text) : Checked Url :=
  match crates.url.parse text with
  | .ok url => .ok url
  | .error _ => .error (.expect "hostname already validated")

/-- The URL of the host with this scheme, and the port. -/
def serverUrl (base : BaseParsecAddr) (scheme : Text) : Checked Url := do
  let url ← parseValidated crates (scheme ++ "://".toList ++ base.hostname)
  expectSome "port already validated" (crates.url.setPort url base.port)

def toUrl (base : BaseParsecAddr) : Checked Url := do
  let url ← serverUrl crates base parsecScheme
  .ok (if base.useSsl then url else crates.url.appendPair url (noSsl, "true".toList))

def toHttpUrl (base : BaseParsecAddr) (path : Option Text) : Checked Url := do
  let url ← serverUrl crates base (ParsecUrlAsHTTPScheme.httpScheme base.useSsl)
  .ok (crates.url.setPath url (path.getD []))

end BaseParsecAddr

section Params

def extractParam (pairs : List (Text × Text)) (param : Text) : AddrResult crates Text :=
  match pairs.filter fun pair => pair.1 = param with
  | [] => refuse (.missingParam param)
  | [(_, value)] => .ok value
  | _ => refuse (.duplicateParam param)

def extractParamAndExpectValue (pairs : List (Text × Text)) (param expectedValue : Text) :
    AddrResult crates Text := do
  let value ← extractParam crates pairs param
  if value = expectedValue then .ok value
  else refuse (.invalidParamValue param
    ("Expected `".toList ++ param ++ "=".toList ++ expectedValue ++ "`".toList))

def b64MsgpackSerialize (codec : Msgpack α) (data : α) : Checked Text :=
  expectSome "data are valid" ((codec.toVec data).map crates.base64Encode)

def extractParamAndB64MsgpackDeserialize (codec : Msgpack α) (pairs : List (Text × Text))
    (param : Text) : AddrResult crates α := do
  let value ← extractParam crates pairs param
  match (crates.base64Decode value).bind codec.fromSlice with
  | some data => .ok data
  | none => refuse (.invalidParamValue param
      ("Invalid `".toList ++ param ++ "` parameter".toList))

def extractOrganizationId (parsed : ParsecUrlAsHTTPScheme) :
    AddrResult crates (OrganizationID crates) :=
  match parsed.url.path.text with
  | [] => refuse .invalidOrganizationID
  | _ :: raw =>
    match (crates.url.percentDecode raw).bind (OrganizationID.tryFrom crates) with
    | some id => .ok id
    | none => refuse .invalidOrganizationID

end Params

def pushSegment (url : Url) (segment : Text) : Checked Url :=
  expectSome "expected url not to be a cannot-be-a-base" (crates.url.pushSegment url segment)

def appendPairs (url : Url) (pairs : List (Text × Text)) : Url :=
  pairs.foldl crates.url.appendPair url

/-- What a type of addresses says of its own. -/
structure AddrKind (α : Type) where
  base : α → BaseParsecAddr
  readUrl : ParsecUrlAsHTTPScheme → AddrResult crates α
  writeUrl : α → Url → Checked Url

namespace AddrKind
variable {crates} {α : Type} (kind : AddrKind crates α)

def toUrl (addr : α) : Checked Url := do
  let url ← (kind.base addr).toUrl crates
  kind.writeUrl addr url

def toHttpRedirectionUrl (addr : α) : Checked Url := do
  let url ← (kind.base addr).toHttpUrl crates none
  let url ← pushSegment crates url redirect
  kind.writeUrl addr url

def fromHttpRedirection (text : Text) : AddrResult crates α := do
  let parsed ← ParsecUrlAsHTTPScheme.fromHttpRedirection crates text
  kind.readUrl parsed

def fromStr (text : Text) : AddrResult crates α := do
  let parsed ← ParsecUrlAsHTTPScheme.fromStr crates text
  kind.readUrl parsed

def fromAny (text : Text) : AddrResult crates α :=
  orElse (kind.fromHttpRedirection text) (kind.fromStr text)

end AddrKind

end ParsecCloud.Addr
