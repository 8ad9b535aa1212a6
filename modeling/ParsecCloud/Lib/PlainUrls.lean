import ParsecCloud.Lib.PercentEncoding

/- A crate that reads the URLs of plain hosts: a scheme, a host of lower-case labels, a port, a path
   and a query. It behaves on them as the standard says. -/
namespace Urls.PlainUrls

def isHostChar (c : Char) : Bool := c.isLower || (c.isDigit || (c == '-' || c == '.'))

def isSchemeText (scheme : Text) : Bool :=
  scheme ≠ "file".toList && ((scheme.head?.any Char.isLower) &&
    scheme.all fun c => c.isLower || c.isDigit)

def readPort (digits : Text) : Option UInt16 :=
  if digits ≠ [] ∧ digits.all Char.isDigit = true ∧ Nat.ofDigitChars 10 digits 0 < 65536 then
    some (UInt16.ofNat (Nat.ofDigitChars 10 digits 0))
  else none

def readAuthority (text : Text) : Option (Text × Option UInt16) :=
  let host := text.takeWhile (· ≠ ':')
  if host ≠ [] ∧ host.all isHostChar = true then
    match text.dropWhile (· ≠ ':') with
    | [] => some (host, none)
    | _ :: digits => (readPort digits).map fun port => (host, some port)
  else none

def readQuery : Text → Option Text
  | [] => none
  | _ :: query => some query

def readPath (special : Bool) (text : Text) : List Text :=
  let raw := (text.splitOn '/').drop 1
  if special then rooted raw else raw

def isPathMark (c : Char) : Bool := c == '/' || c == '?'

def readRest (scheme rest : Text) : Option Url := do
  let after := rest.dropWhile fun c => !isPathMark c
  let (host, port) ← readAuthority (rest.takeWhile fun c => !isPathMark c)
  some ⟨scheme, [], [], some host, explicitPort scheme port,
    .segments (readPath (isSpecial scheme) (after.takeWhile (· ≠ '?'))),
    readQuery (after.dropWhile (· ≠ '?')), none⟩

def parse (text : Text) : Except Unit Url :=
  let scheme := text.takeWhile (· ≠ ':')
  match text.dropWhile (· ≠ ':') with
  | ':' :: '/' :: '/' :: rest =>
    if isSchemeText scheme then
      match readRest scheme rest with
      | some url => .ok url
      | none => .error ()
    else .error ()
  | _ => .error ()

def setPort (url : Url) (port : Option UInt16) : Option Url :=
  match url.host with
  | none | some [] => none
  | some _ =>
    if url.scheme = "file".toList then none
    else some { url with port := explicitPort url.scheme port }

/-- The dots and the characters to encode are not looked for. -/
def setPath (url : Url) (text : Text) : Url :=
  { url with path := .segments (rooted (text.splitOn '/')) }

def pushSegment (url : Url) (segment : Text) : Option Url :=
  match url.path with
  | .cannotBeABase _ => none
  | .segments raw =>
    some { url with path := .segments (pushed raw (percentEncode isNameChar segment)) }

def crate : UrlCrate where
  ParseError := Unit
  parse := parse
  setPort := setPort
  setQuery url query := { url with query }
  setPath := setPath
  pushSegment := pushSegment
  queryPairs url := readPairs (url.query.getD [])
  appendPair url pair := { url with query := some (appendPairText (url.query.getD []) pair) }
  serializePairs pairs := pairs.foldl appendPairText []
  percentDecode := percentDecodeUtf8

section Parse

theorem isSchemeText_of {scheme : Text} (isScheme : IsScheme scheme) :
    isSchemeText scheme = true := by
  obtain ⟨letter, rest, rfl, isLower⟩ := isScheme.first
  simp only [isSchemeText, List.head?_cons, Option.any_some, isLower, Bool.true_and,
    Bool.and_eq_true, decide_eq_true_eq, List.all_eq_true, Bool.or_eq_true]
  exact ⟨isScheme.notFile, isScheme.chars⟩

theorem scheme_noColon {scheme : Text} (isScheme : IsScheme scheme) :
    ∀ c ∈ scheme, decide (c ≠ ':') = true := by
  intro c member
  rw [decide_eq_true_eq]
  intro isColon
  rw [isColon] at member
  rcases isScheme.chars ':' member with lower | digit
  · exact absurd lower (by decide)
  · exact absurd digit (by decide)

theorem parse_scheme {scheme : Text} (isScheme : IsScheme scheme) (rest : Text) :
    parse (scheme ++ ':' :: '/' :: '/' :: rest) =
      (readRest scheme rest).elim (.error ()) .ok := by
  have before := scheme_noColon isScheme
  unfold parse
  rw [List.takeWhile_append_of_pos before, List.dropWhile_append_of_pos before]
  simp only [ne_eq, not_true_eq_false, decide_false, Bool.false_eq_true, not_false_eq_true,
    List.takeWhile_cons_of_neg, List.append_nil, List.dropWhile_cons_of_neg,
    isSchemeText_of isScheme, if_true]
  cases readRest scheme rest <;> rfl

theorem parse_ok {text : Text} {url : Url} (isUrl : parse text = .ok url) :
    ∃ rest, text.dropWhile (· ≠ ':') = ':' :: '/' :: '/' :: rest ∧
      readRest (text.takeWhile (· ≠ ':')) rest = some url := by
  unfold parse at isUrl
  simp only at isUrl
  split at isUrl
  · rename_i rest isRest
    split at isUrl
    · split at isUrl
      · rename_i isUrl'
        cases isUrl
        exact ⟨rest, isRest, isUrl'⟩
      · cases isUrl
    · cases isUrl
  · cases isUrl

theorem readRest_scheme {scheme rest : Text} {url : Url} (isUrl : readRest scheme rest = some url) :
    url.scheme = scheme ∧ (∃ host, url.host = some host ∧ host ≠ [] ∧
      ∀ c ∈ host, isHostChar c = true) ∧
      ∃ raw, url.path = .segments (if isSpecial scheme then rooted raw else raw) := by
  unfold readRest at isUrl
  obtain ⟨⟨host, port⟩, isAuthority, isUrl⟩ := Option.bind_eq_some_iff.mp isUrl
  cases isUrl
  have isHost : host ≠ [] ∧ ∀ c ∈ host, isHostChar c = true := by
    unfold readAuthority at isAuthority
    simp only at isAuthority
    split at isAuthority
    · rename_i valid
      rw [List.all_eq_true] at valid
      split at isAuthority
      · cases isAuthority
        exact valid
      · obtain ⟨port', -, same⟩ := Option.map_eq_some_iff.mp isAuthority
        cases same
        exact valid
    · cases isAuthority
  exact ⟨rfl, ⟨host, rfl, isHost⟩, _, rfl⟩

end Parse

section Plain

theorem readPort_toDigits (port : UInt16) : readPort (Nat.toDigits 10 port.toNat) = some port := by
  have value : Nat.ofDigitChars 10 (Nat.toDigits 10 port.toNat) 0 = port.toNat :=
    Nat.ofDigitChars_ten_toDigits
  have digits : (Nat.toDigits 10 port.toNat).all Char.isDigit = true := by
    rw [List.all_eq_true]
    intro c member
    exact Nat.isDigit_of_mem_toDigits (by decide) (by decide) member
  rw [readPort, value, if_pos ⟨Nat.toDigits_ne_nil, digits, port.toNat_lt⟩, UInt16.ofNat_toNat]

theorem host_free {host : Text} (chars : ∀ c ∈ host, isHostChar c = true) {mark : Char}
    (isMark : isHostChar mark = false) : mark ∉ host := by
  intro member
  rw [chars mark member] at isMark
  cases isMark

theorem readAuthority_portText {host : Text} (nonempty : host ≠ [])
    (chars : ∀ c ∈ host, isHostChar c = true) (port : Option UInt16) :
    readAuthority (host ++ portText port) = some (host, port) := by
  have before : ∀ c ∈ host, decide (c ≠ ':') = true := by
    intro c member
    rw [decide_eq_true_eq]
    intro isColon
    exact host_free chars (by decide) (isColon ▸ member)
  have valid : host ≠ [] ∧ host.all isHostChar = true := ⟨nonempty, List.all_eq_true.mpr chars⟩
  unfold readAuthority
  rw [List.takeWhile_append_of_pos before, List.dropWhile_append_of_pos before]
  cases port with
  | none => simp [portText, valid]
  | some port =>
    simp only [portText, ne_eq, not_true_eq_false, decide_false, Bool.false_eq_true,
      not_false_eq_true, List.takeWhile_cons_of_neg, List.append_nil, List.dropWhile_cons_of_neg,
      readPort_toDigits, Option.map_some]
    rw [if_pos valid]

theorem splitOn_segmentsText {segment : Text} {raw : List Text} (free : '/' ∉ segment)
    (allFree : ∀ other ∈ raw, '/' ∉ other) :
    (segment ++ segmentsText raw).splitOn '/' = segment :: raw := by
  induction raw generalizing segment with
  | nil =>
    rw [segmentsText, List.append_nil]
    exact List.splitOn_eq_singleton free
  | cons next raw ih =>
    have later := ih (allFree next List.mem_cons_self)
      fun other member => allFree other (List.mem_cons_of_mem next member)
    rw [segmentsText, List.splitOn_append_cons_self_of_not_mem free, later]

theorem readPath_segmentsText (special : Bool) {raw : List Text}
    (allFree : ∀ segment ∈ raw, '/' ∉ segment) :
    readPath special (segmentsText raw) = if special then rooted raw else raw := by
  have split : ([] ++ segmentsText raw).splitOn '/' = [] :: raw :=
    splitOn_segmentsText (by simp) allFree
  rw [List.nil_append] at split
  rw [readPath, split]
  rfl

theorem safeSegment_free {segment : Text} (safe : SafeSegment segment) {mark : Char}
    (notName : isNameChar mark = false) (notPercent : mark ≠ '%') : mark ∉ segment := by
  intro member
  rcases safe.chars mark member with name | percent
  · rw [notName] at name
    cases name
  · exact notPercent percent

theorem segmentsText_noMark {raw : List Text} (safe : ∀ segment ∈ raw, SafeSegment segment) :
    ∀ c ∈ segmentsText raw, decide (c ≠ '?') = true := by
  intro c member
  rw [decide_eq_true_eq]
  intro isMark
  rw [isMark] at member
  induction raw with
  | nil => cases member
  | cons segment raw ih =>
    rw [segmentsText] at member
    cases member with
    | tail _ member =>
      rcases List.mem_append.mp member with first | later
      · exact safeSegment_free (safe segment List.mem_cons_self) (by decide) (by decide) first
      · exact ih (fun other isOther => safe other (List.mem_cons_of_mem segment isOther)) later

theorem portText_free {port : Option UInt16} {mark : Char} (notColon : mark ≠ ':')
    (notDigit : mark.isDigit = false) : mark ∉ portText port := by
  intro member
  cases port with
  | none => cases member
  | some port =>
    rcases List.mem_cons.mp member with colon | digit
    · exact notColon colon
    · rw [Nat.isDigit_of_mem_toDigits (by decide) (by decide) digit] at notDigit
      cases notDigit

theorem authority_free {host : Text} (chars : ∀ c ∈ host, isHostChar c = true)
    (port : Option UInt16) {mark : Char} (notHost : isHostChar mark = false)
    (notColon : mark ≠ ':') (notDigit : mark.isDigit = false) : mark ∉ host ++ portText port := by
  intro member
  rcases List.mem_append.mp member with inHost | inPort
  · exact host_free chars notHost inHost
  · exact portText_free notColon notDigit inPort

theorem authority_chars {host : Text} (chars : ∀ c ∈ host, isHostChar c = true)
    (port : Option UInt16) : ∀ c ∈ host ++ portText port, (!isPathMark c) = true := by
  intro c member
  have notSlash : c ≠ '/' := fun same =>
    authority_free chars port (by decide) (by decide) (by decide) (same ▸ member)
  have notMark : c ≠ '?' := fun same =>
    authority_free chars port (by decide) (by decide) (by decide) (same ▸ member)
  simp [isPathMark, notSlash, notMark]

theorem readQuery_optionalText (query : Option Text) :
    readQuery (optionalText '?' query) = query := by
  cases query <;> rfl

/-- The text after the authority starts with a mark, if there is any. -/
theorem after_marked (raw : List Text) (query : Option Text) :
    (segmentsText raw ++ optionalText '?' query).takeWhile (fun c => !isPathMark c) = [] ∧
      (segmentsText raw ++ optionalText '?' query).dropWhile (fun c => !isPathMark c) =
        segmentsText raw ++ optionalText '?' query := by
  cases raw with
  | cons segment raw => simp [segmentsText, isPathMark]
  | nil => cases query <;> simp [segmentsText, optionalText, isPathMark]

theorem readRest_plain {scheme host : Text} {port : Option UInt16} {raw : List Text}
    {query : Option Text} (nonempty : host ≠ []) (chars : ∀ c ∈ host, isHostChar c = true)
    (safe : ∀ segment ∈ raw, SafeSegment segment) :
    readRest scheme (host ++ portText port ++ (segmentsText raw ++ optionalText '?' query)) =
      some ⟨scheme, [], [], some host, explicitPort scheme port,
        .segments (if isSpecial scheme then rooted raw else raw), query, none⟩ := by
  have authority := authority_chars chars port
  obtain ⟨noMore, after⟩ := after_marked raw query
  have path := segmentsText_noMark safe
  have queryStart : (optionalText '?' query).takeWhile (fun c => decide (c ≠ '?')) = [] ∧
      (optionalText '?' query).dropWhile (fun c => decide (c ≠ '?')) = optionalText '?' query := by
    cases query <;> simp [optionalText]
  have free : ∀ segment ∈ raw, '/' ∉ segment := fun segment member =>
    safeSegment_free (safe segment member) (by decide) (by decide)
  unfold readRest
  rw [List.takeWhile_append_of_pos authority, List.dropWhile_append_of_pos authority, noMore,
    List.append_nil, after, readAuthority_portText nonempty chars]
  simp only [Option.bind_eq_bind, Option.bind_some]
  rw [List.takeWhile_append_of_pos path, List.dropWhile_append_of_pos path, queryStart.1,
    queryStart.2, List.append_nil, readPath_segmentsText _ free, readQuery_optionalText]

theorem returned_chars {host : Text} (returned : crate.Returned host) :
    host ≠ [] ∧ ∀ c ∈ host, isHostChar c = true := by
  obtain ⟨text, url, isUrl, -, isHost⟩ := returned
  obtain ⟨rest, -, isUrl⟩ := parse_ok isUrl
  obtain ⟨-, ⟨host', isHost', valid⟩, -⟩ := readRest_scheme isUrl
  rw [isHost] at isHost'
  cases isHost'
  exact valid

theorem parse_plain {url : Url} (plain : crate.Plain url) : parse url.asStr = .ok url.reparsed := by
  obtain ⟨scheme, username, password, host, port, path, query, fragment⟩ := url
  obtain ⟨isScheme, noName, noPassword, ⟨host', isHost, returned⟩, ⟨raw, isPath, safe⟩, -, noFragment⟩ :=
    plain
  cases noName
  cases noPassword
  cases isHost
  cases isPath
  cases noFragment
  obtain ⟨nonempty, chars⟩ := returned_chars returned
  have text : Url.asStr ⟨scheme, [], [], some host', port, .segments raw, query, none⟩ =
      scheme ++ ':' :: '/' :: '/' ::
        (host' ++ portText port ++ (segmentsText raw ++ optionalText '?' query)) := by
    simp [Url.asStr, Url.authorityText, credentialsText, Path.text, optionalText]
  rw [text, parse_scheme isScheme, readRest_plain nonempty chars safe]
  rfl

end Plain

section Documented

theorem utf8EncodeChar_high {c : Char} (notAscii : 128 ≤ c.toNat) :
    ∃ byte bytes, String.utf8EncodeChar c = byte :: bytes ∧ 8 ≤ byte.toNat / 16 := by
  have value : c.val.toNat = c.toNat := rfl
  unfold String.utf8EncodeChar
  simp only [value]
  rw [if_neg (by omega)]
  split
  · refine ⟨_, _, rfl, ?_⟩
    rw [UInt8.toNat_ofNat']
    omega
  · split
    · refine ⟨_, _, rfl, ?_⟩
      rw [UInt8.toNat_ofNat']
      omega
    · refine ⟨_, _, rfl, ?_⟩
      rw [UInt8.toNat_ofNat']
      omega

theorem hexDigit_high : ∀ n < 16, 8 ≤ n → hexDigit n ≠ '2' := by decide

theorem percentEncode_safe {name : Text} (isName : IsName name) :
    SafeSegment (percentEncode isNameChar name) := by
  obtain ⟨nonempty, ascii⟩ := isName
  cases name with
  | nil => exact absurd rfl nonempty
  | cons c name =>
    have chars : ∀ other ∈ percentEncode isNameChar (c :: name),
        isNameChar other = true ∨ other = '%' := by
      intro other member
      rcases percentEncode_chars isNameChar member with isKept | alphanum | percent
      · exact Or.inl isKept
      · exact Or.inl (by simp [isNameChar, alphanum])
      · exact Or.inr percent
    by_cases isKept : isNameChar c = true
    · have first : percentEncode isNameChar (c :: name) = c :: percentEncode isNameChar name := by
        rw [percentEncode, List.flatMap_cons, encodeChar, if_pos isKept]
        rfl
      rw [first] at chars ⊢
      refine ⟨by simp, chars, ?_⟩
      intro dots
      have isPercent : c = '%' := (List.cons.inj dots).1
      rw [isPercent] at isKept
      exact absurd isKept (by decide)
    · have notAscii : 128 ≤ c.toNat := by
        by_contra low
        exact isKept (ascii c List.mem_cons_self (by omega))
      obtain ⟨byte, bytes, isBytes, high⟩ := utf8EncodeChar_high notAscii
      have bound := byte.toNat_lt
      have notTwo := hexDigit_high (byte.toNat / 16) (by omega) high
      have first : ∃ rest, percentEncode isNameChar (c :: name) =
          '%' :: hexDigit (byte.toNat / 16) :: rest := by
        rw [percentEncode, List.flatMap_cons, encodeChar, if_neg isKept, isBytes, List.flatMap_cons]
        exact ⟨_, rfl⟩
      obtain ⟨rest, first⟩ := first
      rw [first] at chars ⊢
      refine ⟨by simp, chars, ?_⟩
      intro dots
      exact notTwo (List.cons.inj (List.cons.inj dots).2).1

theorem serializePairs_reads (pairs : List (Text × Text)) (before : Text) (safe : SafeQuery before) :
    SafeQuery (pairs.foldl appendPairText before) ∧
      readPairs (pairs.foldl appendPairText before) = readPairs before ++ pairs := by
  induction pairs generalizing before with
  | nil => exact ⟨safe, (List.append_nil _).symm⟩
  | cons pair pairs ih =>
    obtain ⟨safe', reads⟩ := ih _ (appendPairText_safe safe pair)
    refine ⟨safe', ?_⟩
    rw [List.foldl_cons, reads, readPairs_appendPairText, List.append_assoc]
    rfl

theorem documented : crate.Documented where
  schemeRead := by
    intro scheme rest url isScheme isUrl
    obtain ⟨rest', -, isUrl⟩ := parse_ok isUrl
    rw [List.takeWhile_append_of_pos (scheme_noColon isScheme)] at isUrl
    simp only [ne_eq, not_true_eq_false, decide_false, Bool.false_eq_true, not_false_eq_true,
      List.takeWhile_cons_of_neg, List.append_nil] at isUrl
    exact (readRest_scheme isUrl).1
  hostRead := by
    intro text url isUrl _
    obtain ⟨rest, -, isUrl⟩ := parse_ok isUrl
    obtain ⟨-, ⟨host, isHost, nonempty, -⟩, -⟩ := readRest_scheme isUrl
    exact ⟨host, isHost, nonempty⟩
  pathRead := by
    intro text url isUrl isHttp
    obtain ⟨rest, -, isUrl⟩ := parse_ok isUrl
    obtain ⟨isScheme, -, raw, isPath⟩ := readRest_scheme isUrl
    have special : isSpecial (text.takeWhile (· ≠ ':')) = true := by
      rw [← isScheme]
      rcases isHttp with isHttp | isHttps
      · rw [isHttp]
        decide
      · rw [isHttps]
        decide
    rw [special, if_pos rfl] at isPath
    cases raw with
    | nil => exact ⟨[], [], isPath⟩
    | cons first raw => exact ⟨first, raw, isPath⟩
  plainRead _ plain := parse_plain plain
  portSet := by
    intro url host port isHost nonempty notFile
    show setPort url port = _
    unfold setPort
    rw [isHost]
    cases host with
    | nil => exact absurd rfl nonempty
    | cons c host => exact if_neg notFile
  querySet _ _ _ := rfl
  pathSet := by
    intro url before raw _ _ safe
    show setPath url _ = _
    unfold setPath
    cases raw with
    | nil => rfl
    | cons first raw =>
      rw [List.splitOn_intercalate '/' (fun segment member =>
        safeSegment_free (safe segment member) (by decide) (by decide)) (by simp)]
  pathSetKeeps url text := ⟨_, rfl⟩
  segmentPushed := by
    intro url raw name isPath isName
    refine ⟨percentEncode isNameChar name, percentEncode_safe isName, ?_, ?_, ?_⟩
    · show pushSegment url name = _
      unfold pushSegment
      rw [isPath]
    · exact percentDecodeUtf8_percentEncode isNameChar (by decide) name
    · exact percentEncode_kept isNameChar
  noPairs := by
    intro url none
    show readPairs (url.query.getD []) = []
    rw [none]
    rfl
  pairsOfQuery := by
    intro url url' same
    show readPairs (url.query.getD []) = readPairs (url'.query.getD [])
    rw [same]
  pairAppended := by
    intro url pair
    refine ⟨_, rfl, ?_, readPairs_appendPairText _ pair⟩
    intro safe
    apply appendPairText_safe
    cases isQuery : url.query with
    | none =>
      intro c member
      cases member
    | some query => exact safe query isQuery
  pairsSerialized := by
    intro pairs
    obtain ⟨safe, reads⟩ := serializePairs_reads pairs [] (fun c member => by cases member)
    refine ⟨safe, ?_⟩
    intro url isQuery
    show readPairs (url.query.getD []) = pairs
    rw [isQuery]
    exact reads

end Documented

end Urls.PlainUrls
