import ParsecCloud.Merge.ConflictName

/- The name of the copy that is made of a file in conflict (transactions/inbound_sync.rs). -/
namespace ParsecCloud
open Rust CountedSearch

/-- The first dot is left out when the name begins with it. -/
def EntryName.prefixAndSuffix (name : EntryName) : List Char × Option (List Char) :=
  match splitOnce '.' name.chars with
  | none => (name.chars, none)
  | some ([], ext) =>
    match splitOnce '.' ext with
    | some (base, ext) => ('.' :: base, some ext)
    | none => (name.chars, none)
  | some (base, ext) => (base, some ext)

def conflictText (attempt : Nat) (childPrefix : List Char) (childSuffix : Option (List Char)) :
    List Char :=
  childPrefix ++ (" (Parsec sync conflict ".toList ++ (Nat.toDigits 10 attempt ++ (")".toList ++
    match childSuffix with
    | none => []
    | some suffix => '.' :: suffix)))

/-- The room that the suffix takes in the text, in characters. -/
def suffixRoom (childSuffix : Option (List Char)) : Nat := childSuffix.elim 0 (·.length + 1)

/-- The macro build_next_conflict_name: 10 bytes are cut off the prefix as long as the name is too
    long, and then the parts of the suffix, from the left. -/
def buildNextConflictName (nfc : List Char → List Char) (attempt : Nat) (childPrefix : List Char)
    (childSuffix : Option (List Char)) : Checked EntryName :=
  match EntryName.parse nfc (conflictText attempt childPrefix childSuffix) with
  | .ok name => .ok name
  | .error .invalidName => .error (.assert "internal error: entered unreachable code")
  | .error .nameTooLong =>
    if _long : utf8Len childPrefix > 10 then
      match _cut : takeBytes childPrefix (utf8Len childPrefix - 10) with
      | some shorter => buildNextConflictName nfc attempt shorter childSuffix
      | none => .error .outOfRange
    else
      match childSuffix with
      | none => .error (.expect "must be present")
      | some suffix =>
        match _split : splitOnce '.' suffix with
        | some (_, keptSuffix) => buildNextConflictName nfc attempt childPrefix (some keptSuffix)
        | none => buildNextConflictName nfc attempt childPrefix none
termination_by utf8Len childPrefix + suffixRoom childSuffix
decreasing_by
  · rw [(takeBytes_spec _cut).1]
    omega
  · have shorter := congrArg List.length (splitOnce_spec _split)
    simp only [suffixRoom, Option.elim_some, List.length_append, List.length_cons] at shorter ⊢
    omega
  · simp [suffixRoom]

/-- The loop over the attempts of insert_conflicting_new_child_in_parent. The attempt is an i32. -/
def searchConflictName (nfc : List Char → List Char) (childPrefix : List Char)
    (childSuffix : Option (List Char)) (reserved : Finset EntryName) : Checked EntryName :=
  search (fun attempt => buildNextConflictName nfc attempt childPrefix childSuffix) reserved
    (i32Max - 2) 2

/-- The bytes of the suffix and of its dot. -/
def suffixLen (childSuffix : Option (List Char)) : Nat := childSuffix.elim 0 (utf8Len · + 1)

theorem utf8Len_digits (attempt : Nat) :
    utf8Len (Nat.toDigits 10 attempt) = (Nat.toDigits 10 attempt).length := by
  have ascii : ∀ c ∈ Nat.toDigits 10 attempt, c.utf8Size = 1 := by
    intro c member
    have digit := Nat.isDigit_of_mem_toDigits (by decide) (by decide) member
    simp only [Char.isDigit, Bool.and_eq_true, decide_eq_true_eq] at digit
    exact if_pos (UInt32.le_trans digit.2 (by decide))
  generalize Nat.toDigits 10 attempt = digits at ascii
  induction digits with
  | nil => rfl
  | cons c rest ih =>
    rw [utf8Len, ascii c (by simp), ih fun d member => ascii d (by simp [member]), List.length_cons]
    omega

theorem utf8Len_conflictText (attempt : Nat) (childPrefix : List Char)
    (childSuffix : Option (List Char)) :
    utf8Len (conflictText attempt childPrefix childSuffix) =
      utf8Len childPrefix + 24 + (Nat.toDigits 10 attempt).length + suffixLen childSuffix := by
  have opening : utf8Len " (Parsec sync conflict ".toList = 23 := by decide
  have closing : utf8Len ")".toList = 1 := by decide
  simp only [conflictText, utf8Len_append, utf8Len_digits, opening, closing]
  cases childSuffix with
  | none =>
    simp only [utf8Len, suffixLen, Option.elim_none]
    omega
  | some suffix =>
    have dot : ('.').utf8Size = 1 := by decide
    simp only [utf8Len, suffixLen, Option.elim_some, dot]
    omega

/-- The parts of a name have no separator and no null character. -/
def CleanParts (childPrefix : List Char) (childSuffix : Option (List Char)) : Prop :=
  ∀ c ∈ childPrefix ++ childSuffix.getD [], c ≠ '/' ∧ c ≠ '\x00'

/-- The texts made from parts of a name are in normalization form C, as parts of a name are. -/
def KeptByNfc (nfc : List Char → List Char) (childPrefix : List Char)
    (childSuffix : Option (List Char)) : Prop :=
  ∀ attempt front kept, front <+: childPrefix → (∀ k ∈ kept, ∃ s ∈ childSuffix, k <:+ s) →
    nfc (conflictText attempt front kept) = conflictText attempt front kept

section Build
variable {nfc : List Char → List Char} {attempt : Nat} {childPrefix : List Char}
  {childSuffix : Option (List Char)}

theorem KeptByNfc.cut {front : List Char} (kept : KeptByNfc nfc childPrefix childSuffix)
    (isPrefix : front <+: childPrefix) : KeptByNfc nfc front childSuffix :=
  fun attempt shorter suffix first second =>
    kept attempt shorter suffix (first.trans isPrefix) second

theorem CleanParts.cut {front : List Char} (clean : CleanParts childPrefix childSuffix)
    (isPrefix : front <+: childPrefix) : CleanParts front childSuffix := by
  intro c member
  apply clean c
  rcases List.mem_append.mp member with first | second
  · exact List.mem_append_left _ (isPrefix.subset first)
  · exact List.mem_append_right _ second

theorem clean_of_all {text : List Char} (all : text.all (fun c => c ≠ '/' && c ≠ '\x00') = true) :
    ∀ c ∈ text, c ≠ '/' ∧ c ≠ '\x00' := by
  intro c member
  simpa using List.all_eq_true.mp all c member

theorem clean_of_valid (name : EntryName) : ∀ c ∈ name.chars, c ≠ '/' ∧ c ≠ '\x00' := by
  intro c member
  have valid := name.valid
  unfold EntryName.isValid at valid
  split at valid
  · cases valid
  · split at valid
    · cases valid
    · rename_i allowed
      simp only [not_or] at allowed
      constructor
      · rintro rfl
        exact allowed.2.2.2.1 member
      · rintro rfl
        exact allowed.2.2.2.2 member

theorem clean_prefixAndSuffix (name : EntryName) :
    CleanParts name.prefixAndSuffix.1 name.prefixAndSuffix.2 := by
  intro c member
  apply clean_of_valid name c
  unfold EntryName.prefixAndSuffix at member
  split at member
  · simpa using member
  · rename_i ext split
    split at member
    · rename_i base later splitAgain
      rw [splitOnce_spec split, splitOnce_spec splitAgain]
      simp only [Option.getD_some, List.cons_append, List.mem_cons, List.mem_append,
        List.nil_append] at member ⊢
      rcases member with isDot | isBase | isLater
      · exact Or.inl isDot
      · exact Or.inr (Or.inl isBase)
      · exact Or.inr (Or.inr (Or.inr isLater))
    · simpa using member
  · rename_i base ext _ split
    rw [splitOnce_spec split]
    simp only [Option.getD_some, List.mem_append, List.mem_cons] at member ⊢
    rcases member with isBase | isExt
    · exact Or.inl isBase
    · exact Or.inr (Or.inr isExt)

theorem mem_conflictText {c : Char} (clean : CleanParts childPrefix childSuffix)
    (member : c ∈ conflictText attempt childPrefix childSuffix) : c ≠ '/' ∧ c ≠ '\x00' := by
  simp only [conflictText, List.mem_append] at member
  rcases member with inPrefix | opening | digit | closing | inSuffix
  · exact clean c (List.mem_append_left _ inPrefix)
  · exact clean_of_all (by decide) c opening
  · have isDigit := Nat.isDigit_of_mem_toDigits (by decide) (by decide) digit
    constructor
    · rintro rfl
      exact absurd isDigit (by decide)
    · rintro rfl
      exact absurd isDigit (by decide)
  · exact clean_of_all (by decide) c closing
  · cases childSuffix with
    | none => cases inSuffix
    | some suffix =>
      rcases List.mem_cons.mp inSuffix with rfl | later
      · decide
      · exact clean c (List.mem_append_right _ later)

theorem isValid_of_clean {text : List Char} (space : ' ' ∈ text)
    (clean : ∀ c ∈ text, c ≠ '/' ∧ c ≠ '\x00') (short : utf8Len text ≤ 255) :
    EntryName.isValid text = .ok () := by
  rw [EntryName.isValid, if_neg (by simpa [EntryName.maxLengthBytes] using short), if_neg]
  rintro (empty | dot | dots | separator | null)
  · rw [empty] at space
    exact absurd space (by decide)
  · rw [dot] at space
    exact absurd space (by decide)
  · rw [dots] at space
    exact absurd space (by decide)
  · exact (clean _ separator).1 rfl
  · exact (clean _ null).2 rfl

theorem parse_of_valid {raw text : List Char} (same : nfc raw = text)
    (valid : EntryName.isValid text = .ok ()) : EntryName.parse nfc raw = .ok ⟨text, valid⟩ := by
  subst same
  unfold EntryName.parse
  split
  · rfl
  · rename_i other
    rw [valid] at other
    cases other

theorem parse_of_invalid {raw text : List Char} {e : EntryNameError} (same : nfc raw = text)
    (invalid : EntryName.isValid text = .error e) : EntryName.parse nfc raw = .error e := by
  subst same
  unfold EntryName.parse
  split
  · rename_i other
    rw [invalid] at other
    cases other
  · rename_i other
    rw [invalid] at other
    cases other
    rfl

theorem parse_of_clean {text : List Char} (same : nfc text = text) (space : ' ' ∈ text)
    (clean : ∀ c ∈ text, c ≠ '/' ∧ c ≠ '\x00') :
    (utf8Len text ≤ 255 ∧ ∃ name, EntryName.parse nfc text = .ok name ∧ name.chars = text) ∨
    (255 < utf8Len text ∧ EntryName.parse nfc text = .error .nameTooLong) := by
  by_cases short : utf8Len text ≤ 255
  · have valid := isValid_of_clean space clean short
    exact Or.inl ⟨short, ⟨_, valid⟩, parse_of_valid same valid, rfl⟩
  · have tooLong : EntryName.isValid text = .error .nameTooLong := by
      rw [EntryName.isValid, if_pos (by simpa [EntryName.maxLengthBytes] using short)]
    exact Or.inr ⟨by omega, parse_of_invalid same tooLong⟩

theorem parse_conflictText (attempt : Nat) (kept : KeptByNfc nfc childPrefix childSuffix)
    (clean : CleanParts childPrefix childSuffix) :
    (utf8Len (conflictText attempt childPrefix childSuffix) ≤ 255 ∧
      ∃ name, EntryName.parse nfc (conflictText attempt childPrefix childSuffix) = .ok name ∧
        name.chars = conflictText attempt childPrefix childSuffix) ∨
    (255 < utf8Len (conflictText attempt childPrefix childSuffix) ∧
      EntryName.parse nfc (conflictText attempt childPrefix childSuffix) = .error .nameTooLong) := by
  have same := kept attempt childPrefix childSuffix List.prefix_rfl
    fun k member => ⟨k, member, List.suffix_rfl⟩
  have space : ' ' ∈ conflictText attempt childPrefix childSuffix := by simp [conflictText]
  exact parse_of_clean same space fun c member => mem_conflictText clean member

/-- Each cut of 10 bytes that is made of the end of a base, in a text of so many bytes, is made
    between two characters. A cut is made while the text is too long and more than 10 bytes of the
    base are left. -/
def CutsBetweenCharacters (base : List Char) (total : Nat) : Prop :=
  ∀ cuts, 10 * cuts + 10 < utf8Len base → 10 * cuts + 255 < total →
    (takeBytes base (utf8Len base - (10 * cuts + 10))).isSome = true

/-- Each slice that shortens the prefix ends between two characters. A slice is taken while the
    text is too long and more than 10 bytes of the prefix are left. -/
def SlicesBetweenCharacters (attempt : Nat) (childPrefix : List Char)
    (childSuffix : Option (List Char)) : Prop :=
  ∀ cuts, 10 * cuts + 10 < utf8Len childPrefix →
    10 * cuts + 255 < utf8Len (conflictText attempt childPrefix childSuffix) →
      (takeBytes childPrefix (utf8Len childPrefix - (10 * cuts + 10))).isSome = true

theorem cuts_cut {base shorter : List Char} {total less : Nat} (long : utf8Len base > 10)
    (cut : takeBytes base (utf8Len base - 10) = some shorter) (shortened : total = less + 10) :
    CutsBetweenCharacters base total ↔ CutsBetweenCharacters shorter less := by
  have length := (takeBytes_spec cut).1
  constructor
  · intro cuts n left stillLong
    rw [takeBytes_takeBytes cut (by omega)]
    have next := cuts (n + 1) (by omega) (by omega)
    rw [length]
    have bytes : utf8Len base - 10 - (10 * n + 10) = utf8Len base - (10 * (n + 1) + 10) := by omega
    rw [bytes]
    exact next
  · intro cuts n left stillLong
    cases n with
    | zero =>
      rw [Nat.mul_zero, Nat.zero_add, cut]
      rfl
    | succ n =>
      have next := cuts n (by omega) (by omega)
      rw [takeBytes_takeBytes cut (by omega), length] at next
      have bytes : utf8Len base - (10 * (n + 1) + 10) = utf8Len base - 10 - (10 * n + 10) := by omega
      rw [bytes]
      exact next

theorem slices_cut {shorter : List Char} (long : utf8Len childPrefix > 10)
    (cut : takeBytes childPrefix (utf8Len childPrefix - 10) = some shorter) :
    SlicesBetweenCharacters attempt childPrefix childSuffix ↔
      SlicesBetweenCharacters attempt shorter childSuffix := by
  have length := (takeBytes_spec cut).1
  have total := utf8Len_conflictText attempt childPrefix childSuffix
  have shorterTotal := utf8Len_conflictText attempt shorter childSuffix
  exact cuts_cut long cut (by omega)

theorem slices_short (short : utf8Len childPrefix ≤ 10) :
    SlicesBetweenCharacters attempt childPrefix childSuffix := by
  intro cuts left
  omega

section Steps
variable (kept : KeptByNfc nfc childPrefix childSuffix) (clean : CleanParts childPrefix childSuffix)
include kept clean

theorem build_fits (fits : utf8Len (conflictText attempt childPrefix childSuffix) ≤ 255) :
    ∃ name, buildNextConflictName nfc attempt childPrefix childSuffix = .ok name ∧
      name.chars = conflictText attempt childPrefix childSuffix := by
  rcases parse_conflictText attempt kept clean with ⟨-, name, parsed, chars⟩ | ⟨long, -⟩
  · refine ⟨name, ?_, chars⟩
    rw [buildNextConflictName.eq_def, parsed]
  · exact absurd fits (by omega)

theorem parse_tooLong (long : 255 < utf8Len (conflictText attempt childPrefix childSuffix)) :
    EntryName.parse nfc (conflictText attempt childPrefix childSuffix) = .error .nameTooLong := by
  rcases parse_conflictText attempt kept clean with ⟨fits, -⟩ | ⟨-, parsed⟩
  · exact absurd long (by omega)
  · exact parsed

theorem build_cut {shorter : List Char}
    (tooLong : 255 < utf8Len (conflictText attempt childPrefix childSuffix))
    (long : utf8Len childPrefix > 10)
    (cut : takeBytes childPrefix (utf8Len childPrefix - 10) = some shorter) :
    buildNextConflictName nfc attempt childPrefix childSuffix =
      buildNextConflictName nfc attempt shorter childSuffix := by
  rw [buildNextConflictName.eq_def, parse_tooLong kept clean tooLong]
  simp only [dif_pos long]
  split
  · rename_i other cutOther
    rw [cut] at cutOther
    cases cutOther
    rfl
  · rename_i cutOther
    rw [cut] at cutOther
    cases cutOther

theorem build_uncut (tooLong : 255 < utf8Len (conflictText attempt childPrefix childSuffix))
    (long : utf8Len childPrefix > 10)
    (cut : takeBytes childPrefix (utf8Len childPrefix - 10) = none) :
    buildNextConflictName nfc attempt childPrefix childSuffix = .error .outOfRange := by
  rw [buildNextConflictName.eq_def, parse_tooLong kept clean tooLong]
  simp only [dif_pos long]
  split
  · rename_i other cutOther
    rw [cut] at cutOther
    cases cutOther
  · rfl

end Steps

/-- The part of the suffix that is kept when one item is removed. -/
def keptSuffix (suffix : List Char) : Option (List Char) := (splitOnce '.' suffix).map Prod.snd

theorem build_drop {suffix : List Char} (kept : KeptByNfc nfc childPrefix (some suffix))
    (clean : CleanParts childPrefix (some suffix))
    (tooLong : 255 < utf8Len (conflictText attempt childPrefix (some suffix)))
    (short : ¬ utf8Len childPrefix > 10) :
    buildNextConflictName nfc attempt childPrefix (some suffix) =
      buildNextConflictName nfc attempt childPrefix (keptSuffix suffix) := by
  rw [buildNextConflictName.eq_def, parse_tooLong kept clean tooLong]
  simp only [dif_neg short]
  split
  · rename_i before after split
    rw [keptSuffix, split]
    rfl
  · rename_i split
    rw [keptSuffix, split]
    rfl

theorem keptSuffix_suffix {suffix later : List Char} (member : later ∈ keptSuffix suffix) :
    later <:+ suffix := by
  obtain ⟨⟨before, after⟩, split, rfl⟩ := Option.map_eq_some_iff.mp member
  rw [splitOnce_spec split]
  exact ⟨before ++ ['.'], by simp⟩

theorem KeptByNfc.drop {suffix : List Char} (kept : KeptByNfc nfc childPrefix (some suffix)) :
    KeptByNfc nfc childPrefix (keptSuffix suffix) := by
  intro attempt front later isPrefix isSuffix
  refine kept attempt front later isPrefix fun k member => ?_
  obtain ⟨s, isKept, shorter⟩ := isSuffix k member
  exact ⟨suffix, rfl, shorter.trans (keptSuffix_suffix isKept)⟩

theorem CleanParts.drop {suffix : List Char} (clean : CleanParts childPrefix (some suffix)) :
    CleanParts childPrefix (keptSuffix suffix) := by
  intro c member
  apply clean c
  rcases List.mem_append.mp member with first | second
  · exact List.mem_append_left _ first
  · refine List.mem_append_right _ ?_
    cases isKept : keptSuffix suffix with
    | none =>
      rw [isKept] at second
      cases second
    | some later =>
      rw [isKept] at second
      exact (keptSuffix_suffix isKept).subset second

theorem suffixRoom_keptSuffix (suffix : List Char) :
    suffixRoom (keptSuffix suffix) < suffixRoom (some suffix) := by
  cases isKept : keptSuffix suffix with
  | none => simp [suffixRoom]
  | some later =>
    obtain ⟨⟨before, after⟩, split, rfl⟩ := Option.map_eq_some_iff.mp isKept
    have length := congrArg List.length (splitOnce_spec split)
    simp only [suffixRoom, Option.elim_some, List.length_append, List.length_cons] at length ⊢
    omega

theorem few_digits {n : Nat} (few : n ≤ i32Max) : (Nat.toDigits 10 n).length ≤ 200 := by
  apply (Nat.length_toDigits_le_iff (by decide) (by decide)).mpr
  have bigger : 10 ^ 24 ≤ 10 ^ 200 := Nat.pow_le_pow_right (by decide) (by decide)
  unfold i32Max at few
  omega

theorem build_of_slices (few : attempt ≤ i32Max) (kept : KeptByNfc nfc childPrefix childSuffix)
    (clean : CleanParts childPrefix childSuffix)
    (slices : SlicesBetweenCharacters attempt childPrefix childSuffix) :
    ∃ name, buildNextConflictName nfc attempt childPrefix childSuffix = .ok name := by
  induction room : utf8Len childPrefix + suffixRoom childSuffix using Nat.strongRecOn
    generalizing childPrefix childSuffix with
  | ind n ih =>
    by_cases fits : utf8Len (conflictText attempt childPrefix childSuffix) ≤ 255
    · obtain ⟨name, built, -⟩ := build_fits kept clean fits
      exact ⟨name, built⟩
    · by_cases long : utf8Len childPrefix > 10
      · have first := slices 0 (by omega) (by omega)
        rw [Nat.mul_zero, Nat.zero_add, Option.isSome_iff_exists] at first
        obtain ⟨shorter, cut⟩ := first
        obtain ⟨length, isPrefix⟩ := takeBytes_spec cut
        rw [build_cut kept clean (by omega) long cut]
        exact ih (utf8Len shorter + suffixRoom childSuffix) (by omega) (kept.cut isPrefix)
          (clean.cut isPrefix) ((slices_cut long cut).mp slices) rfl
      · cases childSuffix with
        | none =>
          have bytes := utf8Len_conflictText attempt childPrefix none
          have digits := few_digits few
          simp only [suffixLen, Option.elim_none] at bytes
          omega
        | some suffix =>
          have smaller := suffixRoom_keptSuffix suffix
          rw [build_drop kept clean (by omega) long]
          exact ih (utf8Len childPrefix + suffixRoom (keptSuffix suffix)) (by omega) kept.drop
            clean.drop (slices_short (by omega)) rfl

theorem slices_of_build {name : EntryName} (kept : KeptByNfc nfc childPrefix childSuffix)
    (clean : CleanParts childPrefix childSuffix)
    (built : buildNextConflictName nfc attempt childPrefix childSuffix = .ok name) :
    SlicesBetweenCharacters attempt childPrefix childSuffix := by
  induction room : utf8Len childPrefix using Nat.strongRecOn generalizing childPrefix with
  | ind n ih =>
    by_cases fits : utf8Len (conflictText attempt childPrefix childSuffix) ≤ 255
    · intro cuts _ tooLong
      omega
    · by_cases long : utf8Len childPrefix > 10
      · cases cut : takeBytes childPrefix (utf8Len childPrefix - 10) with
        | none =>
          rw [build_uncut kept clean (by omega) long cut] at built
          cases built
        | some shorter =>
          obtain ⟨length, isPrefix⟩ := takeBytes_spec cut
          rw [build_cut kept clean (by omega) long cut] at built
          apply (slices_cut long cut).mpr
          exact ih (utf8Len shorter) (by omega) (kept.cut isPrefix) (clean.cut isPrefix) built rfl
      · exact slices_short (by omega)

theorem build_ok_iff (few : attempt ≤ i32Max) (kept : KeptByNfc nfc childPrefix childSuffix)
    (clean : CleanParts childPrefix childSuffix) :
    (∃ name, buildNextConflictName nfc attempt childPrefix childSuffix = .ok name) ↔
      SlicesBetweenCharacters attempt childPrefix childSuffix := by
  constructor
  · intro built
    obtain ⟨name, built⟩ := built
    exact slices_of_build kept clean built
  · exact build_of_slices few kept clean

end Build

/-- Each attempt that is made is in range, and its slices end between two characters. -/
def AttemptsFit (nfc : List Char → List Char) (childPrefix : List Char)
    (childSuffix : Option (List Char)) (reserved : Finset EntryName) : Prop :=
  ∀ attempt,
    Tried (fun attempt => buildNextConflictName nfc attempt childPrefix childSuffix) reserved 2 attempt →
      attempt ≤ i32Max ∧ SlicesBetweenCharacters attempt childPrefix childSuffix

theorem searchConflictName_ends_iff {nfc : List Char → List Char} {childPrefix : List Char}
    {childSuffix : Option (List Char)} {reserved : Finset EntryName}
    (kept : KeptByNfc nfc childPrefix childSuffix) (clean : CleanParts childPrefix childSuffix) :
    (∃ name, searchConflictName nfc childPrefix childSuffix reserved = .ok name) ↔
      AttemptsFit nfc childPrefix childSuffix reserved := by
  apply search_ends_iff.trans
  apply forall₂_congr
  intro attempt tried
  exact and_congr_right fun few => build_ok_iff few kept clean

end ParsecCloud
