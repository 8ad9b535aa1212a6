import ParsecCloud.Merge.SyncConflictName

/- The texts of the names made for conflicts: a name, a parenthesis with a count before its extension.
   Different counts make different texts, also when the name is cut. -/
namespace ParsecCloud
open Rust

/-- What the normalization form C is relied on for. -/
structure NormalizationFormC (nfc : List Char → List Char) : Prop where
  ascii : ∀ text, (∀ c ∈ text, c.toNat < 128) → nfc text = text
  part : ∀ before after, nfc (before ++ after) = before ++ after →
    nfc before = before ∧ nfc after = after
  beforeAscii : ∀ before c after, nfc before = before → nfc (c :: after) = c :: after →
    c.toNat < 128 → nfc (before ++ c :: after) = before ++ c :: after
  afterDot : ∀ text, nfc text = text → nfc ('.' :: text) = '.' :: text

section Texts

def extensionTail : Option (List Char) → List Char
  | none => []
  | some extension => '.' :: extension

/-- The text of a candidate: the middle is what the code adds to the name. -/
def joined (front middle : List Char) (extension : Option (List Char)) : List Char :=
  front ++ (middle ++ extensionTail extension)

def leading (hasLeadingDot : Bool) (base : List Char) : List Char :=
  if hasLeadingDot then '.' :: base else base

def renameMiddle (suffix : List Char) : List Char := " (".toList ++ suffix ++ ")".toList

def syncMiddle (attempt : Nat) : List Char :=
  " (Parsec sync conflict ".toList ++ (Nat.toDigits 10 attempt ++ ")".toList)

theorem buildName_eq (hasLeadingDot : Bool) (suffix base : List Char)
    (extension : Option (List Char)) :
    buildName hasLeadingDot suffix base extension =
      joined (leading hasLeadingDot base) (renameMiddle suffix) extension := by
  cases hasLeadingDot <;> cases extension <;>
    simp [buildName, joined, leading, renameMiddle, extensionTail]

theorem conflictText_eq (attempt : Nat) (childPrefix : List Char) (childSuffix : Option (List Char)) :
    conflictText attempt childPrefix childSuffix =
      joined childPrefix (syncMiddle attempt) childSuffix := by
  unfold conflictText joined syncMiddle
  rw [List.append_assoc, List.append_assoc]
  cases childSuffix with
  | none => rw [extensionTail]
  | some suffix => rw [extensionTail]

theorem digit_ascii {n : Nat} {c : Char} (member : c ∈ Nat.toDigits 10 n) : c.isDigit = true :=
  Nat.isDigit_of_mem_toDigits (by decide) (by decide) member

/-- In ASCII, and not the dot of an extension or a character that names cannot have. -/
def Plain (c : Char) : Prop := c.toNat < 128 ∧ c ≠ '.' ∧ c ≠ '/' ∧ c ≠ '\x00'

theorem plain_of_isDigit {c : Char} (isDigit : c.isDigit = true) : Plain c := by
  have upper : c.toNat ≤ 57 := by
    simp only [Char.isDigit, Bool.and_eq_true, decide_eq_true_eq] at isDigit
    exact isDigit.2
  have notDigit : ∀ other : Char, other.isDigit = false → c ≠ other := by
    intro other not same
    rw [← same, isDigit] at not
    cases not
  exact ⟨by omega, notDigit '.' (by decide), notDigit '/' (by decide), notDigit '\x00' (by decide)⟩

def PlainMiddle (middle : List Char) : Prop :=
  (∃ rest, middle = ' ' :: rest) ∧ ∀ c ∈ middle, Plain c

theorem plain_of_all {text : List Char}
    (all : text.all (fun c => c.toNat < 128 && (c ≠ '.' && (c ≠ '/' && c ≠ '\x00'))) = true) :
    ∀ c ∈ text, Plain c := by
  intro c member
  simpa [Plain] using List.all_eq_true.mp all c member

theorem suffixWithCount_plain (count : Nat) :
    ∀ c ∈ suffixWithCount filenameConflictSuffix count, Plain c := by
  intro c member
  have constant : ∀ c ∈ filenameConflictSuffix, Plain c :=
    plain_of_all (by decide)
  unfold suffixWithCount at member
  split at member
  · exact constant c member
  · rcases List.mem_append.mp member with first | later
    · exact constant c first
    · rcases List.mem_cons.mp later with rfl | digit
      · exact plain_of_all (by decide) ' ' (List.mem_singleton_self ' ')
      · rw [Nat.toString_eq_repr, Nat.toList_repr] at digit
        exact plain_of_isDigit (digit_ascii digit)

theorem renameMiddle_plain (count : Nat) :
    PlainMiddle (renameMiddle (suffixWithCount filenameConflictSuffix count)) := by
  refine ⟨⟨_, rfl⟩, ?_⟩
  intro c member
  simp only [renameMiddle, List.mem_append] at member
  rcases member with (opening | suffix) | closing
  · exact plain_of_all (by decide) c opening
  · exact suffixWithCount_plain count c suffix
  · exact plain_of_all (by decide) c closing

theorem syncMiddle_eq (attempt : Nat) :
    syncMiddle attempt =
      ' ' :: ("(Parsec sync conflict ".toList ++ (Nat.toDigits 10 attempt ++ ")".toList)) := by
  have opening : " (Parsec sync conflict ".toList = ' ' :: "(Parsec sync conflict ".toList := by
    decide
  unfold syncMiddle
  rw [opening, List.cons_append]

theorem syncMiddle_plain (attempt : Nat) : PlainMiddle (syncMiddle attempt) := by
  refine ⟨⟨_, syncMiddle_eq attempt⟩, ?_⟩
  intro c member
  unfold syncMiddle at member
  rw [List.mem_append, List.mem_append] at member
  rcases member with opening | digit | closing
  · exact plain_of_all (by decide) c opening
  · exact plain_of_isDigit (digit_ascii digit)
  · exact plain_of_all (by decide) c closing

theorem nfc_joined {nfc : List Char → List Char} (laws : NormalizationFormC nfc)
    {front middle : List Char} {extension : Option (List Char)} (normalFront : nfc front = front)
    (plain : PlainMiddle middle) (normalExtension : ∀ k ∈ extension, nfc k = k) :
    nfc (joined front middle extension) = joined front middle extension := by
  obtain ⟨⟨rest, rfl⟩, ascii⟩ := plain
  have normalMiddle : nfc (' ' :: rest) = ' ' :: rest :=
    laws.ascii _ fun c member => (ascii c member).1
  have normalEnd : nfc (' ' :: rest ++ extensionTail extension) =
      ' ' :: rest ++ extensionTail extension := by
    cases extension with
    | none =>
      rw [extensionTail, List.append_nil]
      exact normalMiddle
    | some extension =>
      exact laws.beforeAscii _ '.' _ normalMiddle
        (laws.afterDot _ (normalExtension extension rfl)) (by decide)
  exact laws.beforeAscii front ' ' _ normalFront normalEnd (by decide)

theorem front_middle_of_joined {front front' middle middle' : List Char}
    {extension extension' : Option (List Char)}
    (same : joined front middle extension = joined front' middle' extension')
    (noDot : '.' ∉ front ++ middle) (noDot' : '.' ∉ front' ++ middle') :
    front ++ middle = front' ++ middle' := by
  have stem : ∀ (text : List Char) (ext : Option (List Char)), '.' ∉ text →
      (text ++ extensionTail ext).takeWhile (· ≠ '.') = text := by
    intro text ext none
    have all : ∀ c ∈ text, (decide (c ≠ '.')) = true := by
      intro c member
      rw [decide_eq_true_eq]
      rintro rfl
      exact none member
    rw [List.takeWhile_append_of_pos all]
    cases ext <;> simp [extensionTail]
  have cut := congrArg (List.takeWhile (· ≠ '.')) same
  simp only [joined, ← List.append_assoc] at cut
  rwa [stem _ _ noDot, stem _ _ noDot'] at cut

theorem takeWhile_digits {text digits : List Char} {c : Char}
    (isDigits : ∀ d ∈ digits, d.isDigit = true) (other : c.isDigit = false) :
    (text ++ c :: digits).reverse.takeWhile Char.isDigit = digits.reverse := by
  rw [List.reverse_append, List.reverse_cons, List.append_assoc,
    List.takeWhile_append_of_pos (by simpa using isDigits)]
  simp [other]

theorem digits_of_append {front front' digits digits' : List Char} {c c' : Char}
    (same : front ++ c :: digits = front' ++ c' :: digits')
    (isDigits : ∀ d ∈ digits, d.isDigit = true) (isDigits' : ∀ d ∈ digits', d.isDigit = true)
    (other : c.isDigit = false) (other' : c'.isDigit = false) : digits = digits' := by
  have ends := congrArg (fun text => text.reverse.takeWhile Char.isDigit) same
  simp only [takeWhile_digits isDigits other, takeWhile_digits isDigits' other'] at ends
  exact List.reverse_injective ends

/-- The text ends, before its extension, with these digits in a parenthesis. The first character
    aside, there is no dot before. -/
def Numbered (digits text : List Char) : Prop :=
  ∃ first rest middle last extension,
    text = joined (first :: rest) (middle ++ last :: (digits ++ [')'])) extension ∧
      '.' ∉ rest ∧ '.' ∉ middle ∧ last ≠ '.' ∧ last.isDigit = false ∧
      ∀ d ∈ digits, d.isDigit = true

theorem Numbered.unique {digits digits' text : List Char} (numbered : Numbered digits text)
    (numbered' : Numbered digits' text) : digits = digits' := by
  obtain ⟨first, rest, middle, last, ext, same, inRest, inMiddle, dot, other, isDigits⟩ := numbered
  obtain ⟨first', rest', middle', last', ext', same', inRest', inMiddle', dot', other', isDigits'⟩ :=
    numbered'
  have noDot : '.' ∉ rest ++ (middle ++ last :: (digits ++ [')'])) := by
    have inDigits : '.' ∉ digits := fun member => absurd (isDigits _ member) (by decide)
    simp [inRest, inMiddle, inDigits, Ne.symm dot]
  have noDot' : '.' ∉ rest' ++ (middle' ++ last' :: (digits' ++ [')'])) := by
    have inDigits : '.' ∉ digits' := fun member => absurd (isDigits' _ member) (by decide)
    simp [inRest', inMiddle', inDigits, Ne.symm dot']
  have tails : joined rest (middle ++ last :: (digits ++ [')'])) ext =
      joined rest' (middle' ++ last' :: (digits' ++ [')'])) ext' :=
    (List.cons.inj (same.symm.trans same')).2
  have stems := front_middle_of_joined tails noDot noDot'
  have split : ∀ (rest middle digits : List Char) (last : Char),
      rest ++ (middle ++ last :: (digits ++ [')'])) = (rest ++ middle ++ last :: digits) ++ [')'] := by
    intro rest middle digits last
    simp
  rw [split, split] at stems
  exact digits_of_append (List.append_cancel_right stems) isDigits isDigits' other other'

theorem toDigits_injective {a b : Nat} (same : Nat.toDigits 10 a = Nat.toDigits 10 b) : a = b := by
  rw [← Nat.ofDigitChars_ten_toDigits (n := a), same, Nat.ofDigitChars_ten_toDigits]

end Texts

section Parts

theorem chars_ne_nil (name : EntryName) : name.chars ≠ [] := by
  intro empty
  have valid := name.valid
  rw [empty] at valid
  cases valid

theorem prefixAndSuffix_spec (name : EntryName) :
    name.chars = name.prefixAndSuffix.1 ++ extensionTail name.prefixAndSuffix.2 ∧
      ∃ c rest, name.prefixAndSuffix.1 = c :: rest ∧ '.' ∉ rest := by
  have some_char : ∃ c rest, name.chars = c :: rest := List.exists_cons_of_ne_nil (chars_ne_nil name)
  unfold EntryName.prefixAndSuffix
  split
  · rename_i split
    obtain ⟨c, rest, chars⟩ := some_char
    have absent := not_mem_of_splitOnce_none split
    rw [chars, List.mem_cons, not_or] at absent
    exact ⟨by simp [extensionTail], c, rest, chars, absent.2⟩
  · rename_i ext split
    have chars := splitOnce_spec split
    split
    · rename_i base later splitAgain
      refine ⟨?_, '.', base, rfl, not_mem_before splitAgain⟩
      rw [chars, splitOnce_spec splitAgain]
      simp [extensionTail]
    · rename_i splitAgain
      exact ⟨by simp [extensionTail], '.', ext, chars, not_mem_of_splitOnce_none splitAgain⟩
  · rename_i base ext nonempty split
    have absent := not_mem_before split
    refine ⟨splitOnce_spec split, ?_⟩
    cases base with
    | nil => exact (nonempty rfl).elim
    | cons c rest =>
      rw [List.mem_cons, not_or] at absent
      exact ⟨c, rest, rfl, absent.2⟩

end Parts

end ParsecCloud
