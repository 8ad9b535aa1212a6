import ParsecCloud.Certif.Certificate
import ParsecCloud.Lib.Utf8
import Mathlib.Algebra.GroupWithZero.Nat

/- Human handles and email addresses (libparsec_types, id.rs): how they are made, written, read,
   compared and hashed. The addresses themselves come from the email_address_parser crate, and
   the normalization form C from unicode_normalization. -/
namespace ParsecCloud
open Rust Certif

/-- UserID::hex -/
def Certif.UserID.hex (userId : UserID) : List Char :=
  (List.range 32).reverse.map fun digit => Nat.digitChar (userId.uuid / 16 ^ digit % 16)

/-- email_address_parser::EmailAddress -/
structure EmailParser (E : Type) where
  new : List Char → List Char → Option E
  parse : List Char → Option E
  toText : E → List Char
  domain : E → List Char

def humanHandleReservedRedactedDomain : List Char := "redacted.invalid".toList

inductive EmailAddressParseError where
  | parseError
  | invalidDomain
  deriving DecidableEq, Repr

inductive HumanHandleParseError where
  | missingEmail
  | invalidEmail
  | invalidLabel
  deriving DecidableEq, Repr

variable {E : Type}

structure EmailAddress (parser : EmailParser E) where
  value : E
  display : List Char
  displayed : display = parser.toText value

/-- The label is informative. The text of the whole handle is kept beside its parts. -/
structure HumanHandle (parser : EmailParser E) where
  email : EmailAddress parser
  label : List Char
  display : List Char
  displayed : display = label ++ ' ' :: '<' :: (email.display ++ ['>'])

variable {parser : EmailParser E}

namespace EmailAddress

def new (parser : EmailParser E) (email : E) : EmailAddress parser where
  value := email
  display := parser.toText email
  displayed := rfl

def tryFrom (parser : EmailParser E) (value : E) :
    Except EmailAddressParseError (EmailAddress parser) :=
  if parser.domain value = humanHandleReservedRedactedDomain then .error .invalidDomain
  else .ok (new parser value)

def fromStr (parser : EmailParser E) (nfc : List Char → List Char) (text : List Char) :
    Except EmailAddressParseError (EmailAddress parser) :=
  match parser.parse (nfc text) with
  | none => .error .parseError
  | some value => tryFrom parser value

instance [DecidableEq E] : BEq (EmailAddress parser) where
  beq a b := a.value == b.value

end EmailAddress

namespace HumanHandle

def labelIsValid (label : List Char) : Bool :=
  !label.isEmpty && decide (utf8Len label < 255) &&
    !label.any fun c => ['<', '>', '@', ',', ':', ';', '\\', '"', '[', ']'].contains c

def format (email : EmailAddress parser) (label : List Char) : List Char :=
  label ++ ' ' :: '<' :: (email.display ++ ['>'])

def new (nfc : List Char → List Char) (email : EmailAddress parser) (label : List Char) :
    Except HumanHandleParseError (HumanHandle parser) :=
  if labelIsValid (nfc label) then
    .ok { email, label := nfc label, display := format email (nfc label), displayed := rfl }
  else .error .invalidLabel

def fromRaw (parser : EmailParser E) (nfc : List Char → List Char) (email label : List Char) :
    Except HumanHandleParseError (HumanHandle parser) :=
  match EmailAddress.fromStr parser nfc email with
  | .error _ => .error .invalidEmail
  | .ok email => new nfc email label

/-- The label of a redacted handle is made of the user ID, and so is its address. -/
def newRedacted (parser : EmailParser E) (userId : UserID) : Checked (HumanHandle parser) := do
  let email ← expectSome "Invalid generated redacted email"
    (parser.new userId.hex humanHandleReservedRedactedDomain)
  let email := EmailAddress.new parser email
  return { email, label := userId.hex, display := format email userId.hex, displayed := rfl }

def usesRedactedDomain (handle : HumanHandle parser) : Bool :=
  parser.domain handle.email.value == humanHandleReservedRedactedDomain

/-- The position of a character, counted in characters. -/
def position (c : Char) (text : List Char) : Option Nat := text.findIdx? (· == c)

/-- The positions are counted in characters, and the text is sliced at these bytes. -/
def fromStr (parser : EmailParser E) (nfc : List Char → List Char) (text : List Char) :
    Checked (Except HumanHandleParseError (HumanHandle parser)) :=
  match position '<' text with
  | none => .ok (.error .missingEmail)
  | some start =>
    match position '>' text with
    | none => .ok (.error .missingEmail)
    | some stop => do
      let email ← strSlice text (start + 1) stop
      let labelEnd ← sub start 1
      let label ← strSlice text 0 labelEnd
      return fromRaw parser nfc email label

/-- Handles are compared by their addresses. -/
instance [DecidableEq E] : BEq (HumanHandle parser) where
  beq a b := a.email == b.email

/-- What a hasher is fed with. -/
inductive Fed (E : Type) where
  | email (value : E)
  | str (text : List Char)
  deriving DecidableEq

def hash (handle : HumanHandle parser) : List (Fed E) :=
  [.email handle.email.value, .str handle.label]

section Slices

/-- Where the positions counted in characters may be used as the bytes to slice at. -/
def Sliceable (text : List Char) : Prop :=
  ∀ start stop, position '<' text = some start → position '>' text = some stop →
    1 ≤ start ∧ start + 1 ≤ stop ∧ isCharBoundary text (start - 1) = true ∧
      isCharBoundary text (start + 1) = true ∧ isCharBoundary text stop = true

theorem isCharBoundary_zero (text : List Char) : isCharBoundary text 0 = true := by
  cases text <;> rfl

theorem fromStr_returns {nfc : List Char → List Char} {text : List Char} :
    (∃ result, fromStr parser nfc text = .ok result) ↔ Sliceable text := by
  unfold fromStr Sliceable
  cases position '<' text with
  | none => simp
  | some start =>
    cases position '>' text with
    | none => simp
    | some stop =>
      have emailSlice := @strSlice_returns text (start + 1) stop
      have labelSlice := @strSlice_returns text 0 (start - 1)
      constructor
      · rintro ⟨result, run⟩ _ _ ⟨⟩ ⟨⟩
        obtain ⟨email, sliced, run⟩ := bind_eq_ok.mp run
        obtain ⟨labelEnd, subtracted, run⟩ := bind_eq_ok.mp run
        obtain ⟨label, labelSliced, _⟩ := bind_eq_ok.mp run
        obtain ⟨ordered, first, last⟩ := emailSlice.mp ⟨email, sliced⟩
        by_cases positive : 1 ≤ start
        · rw [sub_ok positive] at subtracted
          cases subtracted
          exact ⟨positive, ordered, (labelSlice.mp ⟨label, labelSliced⟩).2.2, first, last⟩
        · simp [sub, positive] at subtracted
      · intro sliceable
        obtain ⟨positive, ordered, labelEnd, first, last⟩ := sliceable start stop rfl rfl
        obtain ⟨email, sliced⟩ := emailSlice.mpr ⟨ordered, first, last⟩
        obtain ⟨label, labelSliced⟩ :=
          labelSlice.mpr ⟨Nat.zero_le _, isCharBoundary_zero text, labelEnd⟩
        exists fromRaw parser nfc email label
        simp only [sliced, ok_bind, sub_ok positive, labelSliced, pure_eq_ok]

end Slices

end HumanHandle

/-- What is relied on of unicode_normalization. -/
structure Normalizes (nfc : List Char → List Char) : Prop where
  ascii : ∀ text, Ascii text → nfc text = text
  idempotent : ∀ text, nfc (nfc text) = nfc text

/-- What is relied on of email_address_parser: it reads the text of an address, which has no
    angle bracket and is made of the two parts. -/
structure EmailParser.Reads (parser : EmailParser E) : Prop where
  parse : ∀ value, parser.parse (parser.toText value) = some value
  opening : ∀ value, '<' ∉ parser.toText value
  closing : ∀ value, '>' ∉ parser.toText value
  new : ∀ localPart domain value, parser.new localPart domain = some value →
    parser.toText value = localPart ++ '@' :: domain ∧ parser.domain value = domain

namespace HumanHandle
section RoundTrips
variable {nfc : List Char → List Char} {email : EmailAddress parser} {label : List Char}
  {handle : HumanHandle parser}

theorem position_append {c : Char} {before : List Char} (absent : c ∉ before) (after : List Char) :
    position c (before ++ c :: after) = some before.length := by
  unfold position
  induction before with
  | nil => simp [List.findIdx?_cons]
  | cons other rest later =>
    rw [List.mem_cons, not_or] at absent
    simp [List.findIdx?_cons, later absent.2, Ne.symm absent.1]

theorem no_bracket {c : Char} (valid : labelIsValid label = true) (isBracket : c = '<' ∨ c = '>') :
    c ∉ label := by
  intro inLabel
  simp only [labelIsValid, Bool.and_eq_true, Bool.not_eq_true', List.any_eq_false] at valid
  have allowed := valid.2 c inLabel
  rcases isBracket with rfl | rfl
  · simp at allowed
  · simp at allowed

/-- In a text of one-byte characters the positions are the bytes. -/
theorem fromStr_format (reads : parser.Reads) (ascii : Ascii (format email label))
    (opening : '<' ∉ label) (closing : '>' ∉ label) :
    fromStr parser nfc (format email label) = .ok (fromRaw parser nfc email.display label) := by
  have inDisplay : ∀ part, (∀ c ∈ part, c ∈ format email label) → utf8Len part = part.length := by
    intro part within
    exact utf8Len_ascii fun c isIn => ascii c (within c isIn)
  have labelLength := inDisplay label fun c isIn => by simp [format, isIn]
  have emailLength := inDisplay email.display fun c isIn => by simp [format, isIn]
  have space : ' '.utf8Size = 1 := by decide
  have bracket : '<'.utf8Size = 1 := by decide
  have frontLength : utf8Len (label ++ [' ', '<']) = label.length + 2 := by
    simp [utf8Len_append, utf8Len, labelLength, space, bracket]
  have closingEmail : '>' ∉ email.display := by
    rw [email.displayed]
    exact reads.closing email.value
  have start : position '<' (format email label) = some (label.length + 1) := by
    have absent : '<' ∉ label ++ [' '] := by simp [opening]
    have found := position_append absent (email.display ++ ['>'])
    simpa [format] using found
  have stop : position '>' (format email label) =
      some (label.length + 2 + email.display.length) := by
    have absent : '>' ∉ label ++ ' ' :: '<' :: email.display := by simp [closing, closingEmail]
    have found := position_append absent []
    rw [List.length_append, List.length_cons, List.length_cons] at found
    have length : label.length + (email.display.length + 1 + 1) =
        label.length + 2 + email.display.length := by omega
    simpa [format, length] using found
  have emailSlice : strSlice (format email label) (label.length + 1 + 1)
      (label.length + 2 + email.display.length) = .ok email.display := by
    have sliced := strSlice_middle (label ++ [' ', '<']) email.display ['>']
    rw [frontLength, emailLength] at sliced
    simpa [format] using sliced
  have labelSlice : strSlice (format email label) 0 label.length = .ok label := by
    have sliced := strSlice_middle [] label (' ' :: '<' :: (email.display ++ ['>']))
    simpa [format, utf8Len, labelLength] using sliced
  have labelEnd : sub (label.length + 1) 1 = .ok label.length := sub_ok (by omega)
  rw [fromStr, start, stop]
  simp only [emailSlice, ok_bind, labelEnd, labelSlice, pure_eq_ok]

theorem new_spec (made : new nfc email label = .ok handle) :
    labelIsValid (nfc label) = true ∧ handle.email = email ∧ handle.label = nfc label := by
  unfold new at made
  split at made
  · rename_i valid
    cases made
    exact ⟨valid, rfl, rfl⟩
  · cases made

theorem display_eq (handle : HumanHandle parser) :
    handle.display = format handle.email handle.label := handle.displayed

theorem emailFromStr_display (reads : parser.Reads) (normalizes : Normalizes nfc)
    (ascii : Ascii email.display) :
    EmailAddress.fromStr parser nfc email.display =
      if parser.domain email.value = humanHandleReservedRedactedDomain then
        .error .invalidDomain
      else .ok email := by
  cases email with
  | mk value display displayed =>
    subst displayed
    simp only [EmailAddress.fromStr, normalizes.ascii _ ascii, reads.parse, EmailAddress.tryFrom]
    rfl

theorem ascii_email (ascii : Ascii (format email label)) : Ascii email.display := by
  intro c inEmail
  apply ascii
  simp [format, inEmail]

/-- What a handle prints is read again, unless its domain is the one of redacted handles. -/
theorem fromStr_display_of_new (reads : parser.Reads) (normalizes : Normalizes nfc)
    (made : new nfc email label = .ok handle) (ascii : Ascii handle.display) :
    fromStr parser nfc handle.display =
      .ok (if handle.usesRedactedDomain then .error .invalidEmail else .ok handle) := by
  obtain ⟨valid, sameEmail, sameLabel⟩ := new_spec made
  have again : new nfc handle.email handle.label = .ok handle := by
    rw [sameEmail, sameLabel, ← made]
    simp only [new, normalizes.idempotent]
  rw [← sameLabel] at valid
  rw [display_eq] at ascii ⊢
  rw [fromStr_format reads ascii (no_bracket valid (.inl rfl)) (no_bracket valid (.inr rfl)),
    fromRaw, emailFromStr_display reads normalizes (ascii_email ascii), usesRedactedDomain]
  by_cases reserved : parser.domain handle.email.value = humanHandleReservedRedactedDomain
  · simp [reserved]
  · simp [reserved, again]

theorem newRedacted_spec (reads : parser.Reads) {userId : UserID}
    (made : newRedacted parser userId = .ok handle) :
    handle.label = userId.hex ∧
      handle.email.display = userId.hex ++ '@' :: humanHandleReservedRedactedDomain ∧
      handle.usesRedactedDomain = true := by
  obtain ⟨email, generated, made⟩ := bind_eq_ok.mp made
  cases made
  cases built : parser.new userId.hex humanHandleReservedRedactedDomain with
  | none =>
    rw [built] at generated
    cases generated
  | some value =>
    rw [built] at generated
    cases generated
    obtain ⟨text, domain⟩ := reads.new _ _ _ built
    exact ⟨rfl, text, by simp [usesRedactedDomain, EmailAddress.new, domain]⟩

theorem digitChar_hex : ∀ n < 16, (Nat.digitChar n).utf8Size = 1 ∧
    Nat.digitChar n ≠ '<' ∧ Nat.digitChar n ≠ '>' := by decide

theorem mem_hex {userId : UserID} {c : Char} (isIn : c ∈ userId.hex) :
    c.utf8Size = 1 ∧ c ≠ '<' ∧ c ≠ '>' := by
  simp only [UserID.hex, List.mem_map] at isIn
  obtain ⟨digit, _, rfl⟩ := isIn
  exact digitChar_hex _ (Nat.mod_lt _ (by decide))

theorem ascii_reservedDomain : ∀ c ∈ humanHandleReservedRedactedDomain, c.utf8Size = 1 := by
  have letters : humanHandleReservedRedactedDomain =
      ['r', 'e', 'd', 'a', 'c', 't', 'e', 'd', '.', 'i', 'n', 'v', 'a', 'l', 'i', 'd'] := rfl
  rw [letters]
  simp [Char.utf8Size]

/-- The reserved domain is refused by the reader of addresses, hence redacted handles are. -/
theorem fromStr_display_of_newRedacted (reads : parser.Reads) (normalizes : Normalizes nfc)
    {userId : UserID} (made : newRedacted parser userId = .ok handle) :
    fromStr parser nfc handle.display = .ok (.error .invalidEmail) := by
  obtain ⟨label, email, reserved⟩ := newRedacted_spec reads made
  have ascii : Ascii (format handle.email handle.label) := by
    intro c isIn
    rw [format, label, email] at isIn
    simp only [List.mem_append, List.mem_cons, List.not_mem_nil, or_false] at isIn
    rcases isIn with inLabel | rfl | rfl | (inHex | rfl | inDomain) | rfl
    · exact (mem_hex inLabel).1
    · decide
    · decide
    · exact (mem_hex inHex).1
    · decide
    · exact ascii_reservedDomain c inDomain
    · decide
  have opening : '<' ∉ handle.label := by
    rw [label]
    intro isIn
    exact (mem_hex isIn).2.1 rfl
  have closing : '>' ∉ handle.label := by
    rw [label]
    intro isIn
    exact (mem_hex isIn).2.2 rfl
  have sameDomain : parser.domain handle.email.value = humanHandleReservedRedactedDomain := by
    simpa [usesRedactedDomain] using reserved
  rw [display_eq, fromStr_format reads ascii opening closing, fromRaw,
    emailFromStr_display reads normalizes (ascii_email ascii), if_pos sameDomain]

theorem hash_eq_iff [DecidableEq E] {a b : HumanHandle parser} (same : (a == b) = true) :
    a.hash = b.hash ↔ a.label = b.label := by
  have sameEmail : a.email.value = b.email.value := by simpa [BEq.beq] using same
  simp [hash, sameEmail]

/-- Human handles of one-byte characters parse what they print, except in the reserved domain,
    and handles that are equal and have one label are hashed alike. -/
theorem human_handle_round_trip [DecidableEq E] (reads : parser.Reads)
    (normalizes : Normalizes nfc) :
    (∀ text, Sliceable text → ∃ result, fromStr parser nfc text = .ok result) ∧
    (∀ email label (handle : HumanHandle parser), new nfc email label = .ok handle →
      Ascii handle.display → fromStr parser nfc handle.display =
        .ok (if handle.usesRedactedDomain then .error .invalidEmail else .ok handle)) ∧
    (∀ userId (handle : HumanHandle parser), newRedacted parser userId = .ok handle →
      fromStr parser nfc handle.display = .ok (.error .invalidEmail)) ∧
    ∀ a b : HumanHandle parser, (a == b) = true → a.label = b.label → a.hash = b.hash := by
  refine ⟨fun text sliceable => fromStr_returns.mpr sliceable, ?_, ?_, ?_⟩
  · intro email label handle made ascii
    exact fromStr_display_of_new reads normalizes made ascii
  · intro userId handle made
    exact fromStr_display_of_newRedacted reads normalizes made
  · intro a b same sameLabel
    exact (hash_eq_iff same).mpr sameLabel

end RoundTrips

namespace Samples

/-- Letters and digits, with single dots between them. -/
def plainPart : List Char → Bool
  | [] => false
  | [c] => c.isAlphanum
  | c :: '.' :: rest => c.isAlphanum && plainPart rest
  | c :: rest => c.isAlphanum && plainPart rest

theorem plainPart_chars {text : List Char} (plain : plainPart text = true) :
    ∀ c ∈ text, c = '.' ∨ c.isAlphanum = true := by
  induction text using plainPart.induct with
  | case1 => simp
  | case2 c =>
    intro other isIn
    cases List.mem_singleton.mp isIn
    exact .inr plain
  | case3 c rest later =>
    simp only [plainPart, Bool.and_eq_true] at plain
    simpa [plain.1] using later plain.2
  | case4 c rest notDot notEmpty later =>
    rw [plainPart, Bool.and_eq_true] at plain
    · simpa [plain.1] using later plain.2
    · exact notDot
    · exact notEmpty

structure PlainEmail where
  localPart : List Char
  domain : List Char
  plainLocalPart : plainPart localPart = true
  plainDomain : plainPart domain = true
  deriving DecidableEq

def plainEmail (localPart domain : List Char) : Option PlainEmail :=
  if plainLocalPart : plainPart localPart = true then
    if plainDomain : plainPart domain = true then
      some { localPart, domain, plainLocalPart, plainDomain }
    else none
  else none

def plainEmails : EmailParser PlainEmail where
  new := plainEmail
  parse text := (splitOnce '@' text).bind fun (localPart, domain) => plainEmail localPart domain
  toText email := email.localPart ++ '@' :: email.domain
  domain := PlainEmail.domain

theorem PlainEmail.absent (email : PlainEmail) {c : Char} (notDot : c ≠ '.')
    (special : c.isAlphanum = false) : c ∉ email.localPart ∧ c ∉ email.domain := by
  constructor
  · intro isIn
    rcases plainPart_chars email.plainLocalPart c isIn with dot | plain
    · exact notDot dot
    · simp [special] at plain
  · intro isIn
    rcases plainPart_chars email.plainDomain c isIn with dot | plain
    · exact notDot dot
    · simp [special] at plain

theorem plainEmails_reads : plainEmails.Reads where
  parse email := by
    have separator := (email.absent (c := '@') (by decide) (by decide)).1
    have split : splitOnce '@' (plainEmails.toText email) = some (email.localPart, email.domain) :=
      splitOnce_append separator email.domain
    show (splitOnce '@' (plainEmails.toText email)).bind _ = _
    simp [split, plainEmail, email.plainLocalPart, email.plainDomain]
  opening email := by
    have absent := email.absent (c := '<') (by decide) (by decide)
    simp [plainEmails, absent]
  closing email := by
    have absent := email.absent (c := '>') (by decide) (by decide)
    simp [plainEmails, absent]
  new localPart domain email made := by
    simp only [plainEmails, plainEmail] at made ⊢
    split at made
    · split at made
      · cases made
        exact ⟨rfl, rfl⟩
      · cases made
    · cases made

theorem id_normalizes : Normalizes id := ⟨fun _ _ => rfl, fun _ => rfl⟩

def aliceEmail : EmailAddress plainEmails :=
  .new plainEmails ⟨"alice".toList, "example.com".toList, rfl, rfl⟩

def handleOf (label : List Char) : HumanHandle plainEmails :=
  { email := aliceEmail, label, display := format aliceEmail label, displayed := rfl }

theorem ascii_alice : Ascii (handleOf "Alice".toList).display := by
  have letters : (handleOf "Alice".toList).display =
      ['A', 'l', 'i', 'c', 'e', ' ', '<', 'a', 'l', 'i', 'c', 'e', '@', 'e', 'x', 'a', 'm', 'p',
        'l', 'e', '.', 'c', 'o', 'm', '>'] := rfl
  rw [letters]
  simp [Ascii, Char.utf8Size]

end Samples

open Samples in
/-- A text that begins with the bracket, a label with a character of two bytes and the handle of
    a redacted certificate are not read, and equal handles are not hashed alike. -/
theorem human_handle_not_read :
    fromStr plainEmails id ['<', '>'] = .error .overflow ∧
      (new id aliceEmail ['é'] = .ok (handleOf ['é']) ∧
        fromStr plainEmails id (handleOf ['é']).display = .error .outOfRange) ∧
      (∃ handle, newRedacted plainEmails ⟨1⟩ = .ok handle ∧
        fromStr plainEmails id handle.display = .ok (.error .invalidEmail)) ∧
      (handleOf ['A'] == handleOf ['B']) = true ∧
        (handleOf ['A']).hash ≠ (handleOf ['B']).hash := by
  refine ⟨rfl, ⟨rfl, rfl⟩, ?_, rfl, ?_⟩
  · obtain ⟨handle, made⟩ : ∃ handle, newRedacted plainEmails ⟨1⟩ = .ok handle := ⟨_, rfl⟩
    exact ⟨handle, made, fromStr_display_of_newRedacted plainEmails_reads id_normalizes made⟩
  · intro same
    have labels := (hash_eq_iff (a := handleOf ['A']) (b := handleOf ['B']) rfl).mp same
    simp [handleOf] at labels

open Samples in
theorem alice_is_read :
    fromStr plainEmails id (handleOf "Alice".toList).display = .ok (.ok (handleOf "Alice".toList)) :=
  (human_handle_round_trip plainEmails_reads id_normalizes).2.1 aliceEmail "Alice".toList _ rfl
    ascii_alice

end HumanHandle
end ParsecCloud
