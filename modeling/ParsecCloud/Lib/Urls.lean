import Mathlib.Data.List.Basic

/- URLs as the WHATWG standard describes them: the record that a parser fills, its serialization,
   and what is relied on in a crate that reads and changes URLs. -/
namespace Urls

abbrev Text := List Char

inductive Path where
  | cannotBeABase (text : Text)
  | segments (raw : List Text)
  deriving DecidableEq

/-- The host, the path and the rest are the texts of the serialization. -/
structure Url where
  scheme : Text
  username : Text
  password : Text
  host : Option Text
  port : Option UInt16
  path : Path
  query : Option Text
  fragment : Option Text
  deriving DecidableEq

def http : Text := "http".toList
def https : Text := "https".toList

def IsHttp (scheme : Text) : Prop := scheme = http ∨ scheme = https

instance (scheme : Text) : Decidable (IsHttp scheme) :=
  inferInstanceAs (Decidable (scheme = http ∨ scheme = https))

/-- The special schemes with their default ports. -/
def specialSchemes : List (Text × Option UInt16) :=
  [("ftp".toList, some 21), ("file".toList, none), (http, some 80), (https, some 443),
    ("ws".toList, some 80), ("wss".toList, some 443)]

def isSpecial (scheme : Text) : Bool := (specialSchemes.lookup scheme).isSome

def defaultPort (scheme : Text) : Option UInt16 := (specialSchemes.lookup scheme).join

/-- A URL never shows the default port of its scheme. -/
def explicitPort (scheme : Text) (port : Option UInt16) : Option UInt16 :=
  if port = defaultPort scheme then none else port

theorem explicitPort_twice (scheme : Text) (port : Option UInt16) :
    explicitPort scheme (explicitPort scheme port) = explicitPort scheme port := by
  by_cases isDefault : port = defaultPort scheme
  · rw [explicitPort, explicitPort, if_pos isDefault]
    split <;> rfl
  · simp [explicitPort, isDefault]

section Serialization

def segmentsText : List Text → Text
  | [] => []
  | segment :: rest => '/' :: (segment ++ segmentsText rest)

def Path.text : Path → Text
  | .cannotBeABase text => text
  | .segments raw => segmentsText raw

def credentialsText (username password : Text) : Text :=
  if username = [] ∧ password = [] then []
  else username ++ ((if password = [] then [] else ':' :: password) ++ ['@'])

def portText : Option UInt16 → Text
  | none => []
  | some port => ':' :: Nat.toDigits 10 port.toNat

/-- Without a host, a path that starts with two slashes is kept from looking like one. -/
def Url.authorityText (url : Url) : Text :=
  match url.host, url.path with
  | some host, _ =>
    '/' :: '/' :: (credentialsText url.username url.password ++ (host ++ portText url.port))
  | none, .segments ([] :: _ :: _) => ['/', '.']
  | none, _ => []

def optionalText (mark : Char) : Option Text → Text
  | none => []
  | some text => mark :: text

def Url.asStr (url : Url) : Text :=
  url.scheme ++ ':' :: (url.authorityText ++ (url.path.text ++
    (optionalText '?' url.query ++ optionalText '#' url.fragment)))

/-- The segments after each slash, when the path starts with one. -/
def Url.pathSegments (url : Url) : Option (List Text) :=
  match url.path with
  | .segments (first :: rest) => some (first :: rest)
  | _ => none

end Serialization

section Plain

/-- A scheme in lower case, other than that of local files. -/
structure IsScheme (scheme : Text) : Prop where
  first : ∃ letter rest, scheme = letter :: rest ∧ letter.isLower = true
  chars : ∀ c ∈ scheme, c.isLower = true ∨ c.isDigit = true
  notFile : scheme ≠ "file".toList

def isNameChar (c : Char) : Bool := c.isAlphanum || (c == '-' || c == '_')

/-- A segment as its percent-encoding leaves it. The last condition excludes the segments . and ..
    in their encoded forms. -/
structure SafeSegment (segment : Text) : Prop where
  nonempty : segment ≠ []
  chars : ∀ c ∈ segment, isNameChar c = true ∨ c = '%'
  noDots : segment.take 2 ≠ ['%', '2']

/-- What the form serializer writes. -/
def SafeQuery (query : Text) : Prop :=
  ∀ c ∈ query, isNameChar c = true ∨ c ∈ ['*', '.', '+', '%', '&', '=']

/-- A text that can be a segment. -/
def IsName (name : Text) : Prop := name ≠ [] ∧ ∀ c ∈ name, c.toNat < 128 → isNameChar c = true

theorem all_chars {text : Text} {p : Char → Prop} [DecidablePred p]
    (checked : text.all (fun c => decide (p c)) = true) : ∀ c ∈ text, p c := by
  simpa using checked

def rooted : List Text → List Text
  | [] => [[]]
  | first :: rest => first :: rest

def pushed (raw : List Text) (segment : Text) : List Text :=
  if raw = [[]] then [segment] else raw ++ [segment]

/-- The URL that its serialization is read as: the default port is dropped, and the path of a
    special URL is never empty. -/
def Url.reparsed (url : Url) : Url :=
  { url with
    port := explicitPort url.scheme url.port
    path := match url.path with
      | .segments raw => .segments (if isSpecial url.scheme then rooted raw else raw)
      | .cannotBeABase text => .cannotBeABase text }

end Plain

/-- The functions of a crate. A function that changes a URL in place is one to the new URL, and
    to none when it refuses. -/
structure UrlCrate where
  ParseError : Type
  parse : Text → Except ParseError Url
  setPort : Url → Option UInt16 → Option Url
  setQuery : Url → Option Text → Url
  setPath : Url → Text → Url
  /-- path_segments_mut, then push -/
  pushSegment : Url → Text → Option Url
  queryPairs : Url → List (Text × Text)
  /-- query_pairs_mut, then append_pair -/
  appendPair : Url → Text × Text → Url
  /-- form_urlencoded::Serializer, given pairs one after another -/
  serializePairs : List (Text × Text) → Text
  /-- percent_decode_str, then decode_utf8 -/
  percentDecode : Text → Option Text

variable (crate : UrlCrate)

/-- A host in the form that the crate gives to those of http and https URLs. -/
def UrlCrate.Returned (host : Text) : Prop :=
  ∃ text url, crate.parse text = .ok url ∧ IsHttp url.scheme ∧ url.host = some host

structure UrlCrate.Plain (url : Url) : Prop where
  scheme : IsScheme url.scheme
  username : url.username = []
  password : url.password = []
  host : ∃ host, url.host = some host ∧ crate.Returned host
  path : ∃ raw, url.path = .segments raw ∧ ∀ segment ∈ raw, SafeSegment segment
  query : ∀ query, url.query = some query → SafeQuery query
  fragment : url.fragment = none

/-- What the standard and the documentation of the crate say. -/
structure UrlCrate.Documented : Prop where
  schemeRead : ∀ scheme rest url, IsScheme scheme →
    crate.parse (scheme ++ ':' :: rest) = .ok url → url.scheme = scheme
  hostRead : ∀ text url, crate.parse text = .ok url → IsHttp url.scheme →
    ∃ host, url.host = some host ∧ host ≠ []
  pathRead : ∀ text url, crate.parse text = .ok url → IsHttp url.scheme →
    ∃ first rest, url.path = .segments (first :: rest)
  plainRead : ∀ url, crate.Plain url → crate.parse url.asStr = .ok url.reparsed
  portSet : ∀ url host port, url.host = some host → host ≠ [] → url.scheme ≠ "file".toList →
    crate.setPort url port = some { url with port := explicitPort url.scheme port }
  querySet : ∀ url query, SafeQuery query →
    crate.setQuery url (some query) = { url with query := some query }
  pathSet : ∀ url before raw, IsHttp url.scheme → url.path = .segments before →
    (∀ segment ∈ raw, SafeSegment segment) →
    crate.setPath url (['/'].intercalate raw) = { url with path := .segments (rooted raw) }
  pathSetKeeps : ∀ url text, ∃ path, crate.setPath url text = { url with path }
  segmentPushed : ∀ url raw name, url.path = .segments raw → IsName name →
    ∃ segment, SafeSegment segment ∧
      crate.pushSegment url name = some { url with path := .segments (pushed raw segment) } ∧
      crate.percentDecode segment = some name ∧
      ((∀ c ∈ name, isNameChar c = true) → segment = name)
  noPairs : ∀ url, url.query = none → crate.queryPairs url = []
  pairsOfQuery : ∀ url url', url.query = url'.query → crate.queryPairs url = crate.queryPairs url'
  pairAppended : ∀ url pair, ∃ query, crate.appendPair url pair = { url with query := some query } ∧
    ((∀ before, url.query = some before → SafeQuery before) → SafeQuery query) ∧
    crate.queryPairs { url with query := some query } = crate.queryPairs url ++ [pair]
  pairsSerialized : ∀ pairs, SafeQuery (crate.serializePairs pairs) ∧
    ∀ url, url.query = some (crate.serializePairs pairs) → crate.queryPairs url = pairs

end Urls
