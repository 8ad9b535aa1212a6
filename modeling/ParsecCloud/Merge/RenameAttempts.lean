import ParsecCloud.Merge.NumberedTexts

/- rename_with_suffix (merge.rs): which names it shortens and extends without a panic, and what
   the new name is made of. -/
namespace ParsecCloud
open Rust

section Parts

structure RenameParts where
  hasLeadingDot : Bool
  base : List Char
  extension : Option (List Char)

def stripLeadingDot : List Char → List Char × Bool
  | '.' :: rest => (rest, true)
  | chars => (chars, false)

def cutExtension (raw : List Char) : List Char × Option (List Char) :=
  match splitOnce '.' raw with
  | none => (raw, none)
  | some (base, extension) => (base, some extension)

def renameParts (name : EntryName) : RenameParts where
  hasLeadingDot := (stripLeadingDot name.chars).2
  base := (cutExtension (stripLeadingDot name.chars).1).1
  extension := (cutExtension (stripLeadingDot name.chars).1).2

theorem renameWithSuffix_eq (nfc : List Char → List Char) (name : EntryName) (suffix : List Char) :
    renameWithSuffix nfc name suffix =
      tryExtensions (EntryName.parse nfc) (buildName (renameParts name).hasLeadingDot suffix)
        (renameParts name).base (suffixRoom (renameParts name).extension)
        (renameParts name).extension :=
  rfl

theorem cutExtension_spec (raw : List Char) :
    raw = (cutExtension raw).1 ++ extensionTail (cutExtension raw).2 ∧ '.' ∉ (cutExtension raw).1 := by
  unfold cutExtension
  split
  · rename_i split
    exact ⟨by simp [extensionTail], not_mem_of_splitOnce_none split⟩
  · rename_i base extension split
    exact ⟨splitOnce_spec split, not_mem_before split⟩

theorem stripLeadingDot_spec (chars : List Char) :
    chars = leading (stripLeadingDot chars).2 (stripLeadingDot chars).1 ∧
      ((stripLeadingDot chars).2 = false → ∀ rest, (stripLeadingDot chars).1 ≠ '.' :: rest) := by
  unfold stripLeadingDot
  split
  · simp [leading]
  · rename_i noDot
    exact ⟨by simp [leading], fun _ rest => noDot rest⟩

/-- The parts of a name: without a leading dot, the base is not empty. -/
theorem renameParts_spec (name : EntryName) :
    name.chars = leading (renameParts name).hasLeadingDot
        ((renameParts name).base ++ extensionTail (renameParts name).extension) ∧
      '.' ∉ (renameParts name).base ∧
      ((renameParts name).hasLeadingDot = false → (renameParts name).base ≠ []) := by
  obtain ⟨stripped, noDot⟩ := stripLeadingDot_spec name.chars
  obtain ⟨cut, inBase⟩ := cutExtension_spec (stripLeadingDot name.chars).1
  have chars : name.chars = leading (renameParts name).hasLeadingDot
      ((renameParts name).base ++ extensionTail (renameParts name).extension) := by
    unfold renameParts
    rw [← cut]
    exact stripped
  refine ⟨chars, inBase, fun without empty => ?_⟩
  have raw : name.chars = extensionTail (renameParts name).extension := by
    rw [chars, without, empty]
    rfl
  cases isExtension : (renameParts name).extension with
  | none =>
    rw [isExtension] at raw
    exact chars_ne_nil name raw
  | some extension =>
    rw [without, empty, isExtension] at chars
    apply noDot without extension
    rw [stripped] at chars
    have same : (stripLeadingDot name.chars).2 = false := without
    rw [same] at chars
    exact chars

end Parts

theorem cuts_mono {base : List Char} {total less : Nat} (cuts : CutsBetweenCharacters base total)
    (le : less ≤ total) : CutsBetweenCharacters base less :=
  fun n left stillLong => cuts n left (by omega)

theorem cuts_of_fits {base : List Char} {total : Nat} (fits : total ≤ 255) :
    CutsBetweenCharacters base total := by
  intro n left tooLong
  omega

theorem cuts_of_short {base : List Char} {total : Nat} (short : ¬ utf8Len base > 10) :
    CutsBetweenCharacters base total := by
  intro n left
  omega

section Attempts
variable {parse : List Char → Except EntryNameError EntryName} {build : List Char → List Char}
  {base : List Char} {bound room : Nat}

/-- A text that is not too long is a name. -/
def ParsesBySize (parse : List Char → Except EntryNameError EntryName) (text : List Char) : Prop :=
  (utf8Len text ≤ 255 ∧ ∃ name, parse text = .ok name ∧ name.chars = text) ∨
    (255 < utf8Len text ∧ parse text = .error .nameTooLong)

theorem tryBases_fits {name : EntryName} (parsed : parse (build base) = .ok name) :
    tryBases parse build bound base = .ok (some name) := by
  unfold tryBases
  rw [parsed]

theorem tryBases_short (tooLong : parse (build base) = .error .nameTooLong)
    (short : ¬ utf8Len base > 10) : tryBases parse build bound base = .ok none := by
  unfold tryBases
  rw [tooLong]
  exact if_neg short

theorem tryBases_cut {shorter : List Char} (tooLong : parse (build base) = .error .nameTooLong)
    (long : utf8Len base > 10) (cut : takeBytes base (utf8Len base - 10) = some shorter) :
    tryBases parse build (bound + 1) base = tryBases parse build bound shorter := by
  rw [tryBases, tooLong]
  simp only [if_pos long, cut]

theorem tryBases_uncut (tooLong : parse (build base) = .error .nameTooLong)
    (long : utf8Len base > 10) (cut : takeBytes base (utf8Len base - 10) = none) :
    tryBases parse build (bound + 1) base = .error (.expect "already checked") := by
  rw [tryBases, tooLong]
  simp only [if_pos long, cut]

/-- The attempts with one extension end with a name made of a part of the base, or with the base
    down to 10 bytes, unless a cut is not made between two characters. -/
theorem tryBases_cases (size : ∀ front, utf8Len (build front) = utf8Len front + room)
    (parses : ∀ front, front <+: base → ParsesBySize parse (build front))
    (enough : utf8Len base ≤ bound) :
    (CutsBetweenCharacters base (utf8Len base + room) ∧
      ((∃ name front, tryBases parse build bound base = .ok (some name) ∧ front <+: base ∧
          name.chars = build front ∧ (base ≠ [] → front ≠ [])) ∨
        (tryBases parse build bound base = .ok none ∧ 245 < room))) ∨
    (¬ CutsBetweenCharacters base (utf8Len base + room) ∧
      ∃ e, tryBases parse build bound base = .error e) := by
  induction bound generalizing base with
  | zero =>
    have here := size base
    rcases parses base List.prefix_rfl with ⟨fits, name, parsed, chars⟩ | ⟨tooLong, unparsed⟩
    · exact Or.inl ⟨cuts_of_fits (by omega), Or.inl
        ⟨name, base, tryBases_fits parsed, List.prefix_rfl, chars, id⟩⟩
    · exact Or.inl ⟨cuts_of_short (by omega), Or.inr
        ⟨tryBases_short unparsed (by omega), by omega⟩⟩
  | succ bound later =>
    have here := size base
    rcases parses base List.prefix_rfl with ⟨fits, name, parsed, chars⟩ | ⟨tooLong, unparsed⟩
    · exact Or.inl ⟨cuts_of_fits (by omega), Or.inl
        ⟨name, base, tryBases_fits parsed, List.prefix_rfl, chars, id⟩⟩
    · by_cases long : utf8Len base > 10
      · cases cut : takeBytes base (utf8Len base - 10) with
        | none =>
          right
          refine ⟨fun cuts => ?_, _, tryBases_uncut unparsed long cut⟩
          have first := cuts 0 (by omega) (by omega)
          rw [Nat.mul_zero, Nat.zero_add, cut] at first
          cases first
        | some shorter =>
          obtain ⟨length, isPrefix⟩ := takeBytes_spec cut
          have nonempty : shorter ≠ [] := by
            intro empty
            rw [empty, utf8Len] at length
            omega
          have total : utf8Len base + room = utf8Len shorter + room + 10 := by omega
          rw [cuts_cut long cut total, tryBases_cut unparsed long cut]
          have rest := @later shorter (fun front first => parses front (first.trans isPrefix))
            (by omega)
          apply rest.imp_left
          intro done
          refine ⟨done.1, done.2.imp_left ?_⟩
          intro found
          obtain ⟨name, front, tried, isFront, chars, kept⟩ := found
          exact ⟨name, front, tried, isFront.trans isPrefix, chars, fun _ => kept nonempty⟩
      · exact Or.inl ⟨cuts_of_short long, Or.inr ⟨tryBases_short unparsed long, by omega⟩⟩

end Attempts

section Extensions
variable {parse : List Char → Except EntryNameError EntryName}
  {build : List Char → Option (List Char) → List Char} {base : List Char}
  {extension : Option (List Char)} {bound room : Nat}

theorem suffixLen_keptSuffix (suffix : List Char) :
    suffixLen (keptSuffix suffix) ≤ suffixLen (some suffix) := by
  cases isKept : keptSuffix suffix with
  | none => simp [suffixLen]
  | some later =>
    obtain ⟨before, same⟩ := keptSuffix_suffix isKept
    simp only [suffixLen, Option.elim_some, ← same, utf8Len_append]
    omega

theorem tryExtensions_found {name : EntryName}
    (tried : tryBases parse (build · extension) (utf8Len base) base = .ok (some name)) :
    tryExtensions parse build base bound extension = .ok name := by
  unfold tryExtensions
  rw [tried]
  rfl

theorem tryExtensions_error {e : Panic}
    (tried : tryBases parse (build · extension) (utf8Len base) base = .error e) :
    tryExtensions parse build base bound extension = .error e := by
  unfold tryExtensions
  rw [tried]
  rfl

theorem tryExtensions_next {suffix : List Char}
    (tried : tryBases parse (build · (some suffix)) (utf8Len base) base = .ok none) :
    tryExtensions parse build base (bound + 1) (some suffix) =
      tryExtensions parse build base bound (keptSuffix suffix) := by
  rw [tryExtensions, tried]
  rfl

theorem tryExtensions_none (tried : tryBases parse (build · none) (utf8Len base) base = .ok none) :
    tryExtensions parse build base bound none = .error (.expect "must contain extension") := by
  unfold tryExtensions
  rw [tried]
  rfl

/-- The whole base is tried again with each shorter extension, but then no cut is made that was not
    made with the first one. -/
theorem tryExtensions_cases
    (size : ∀ front kept, utf8Len (build front kept) = utf8Len front + (room + suffixLen kept))
    (parses : ∀ front kept, front <+: base → (∀ k ∈ kept, ∃ s ∈ extension, k <:+ s) →
      ParsesBySize parse (build front kept))
    (enough : suffixRoom extension ≤ bound) :
    (CutsBetweenCharacters base (utf8Len base + (room + suffixLen extension)) ∧
      ∃ name front kept, tryExtensions parse build base bound extension = .ok name ∧
        name.chars = build front kept ∧ front <+: base ∧ (base ≠ [] → front ≠ [])) ∨
    ((245 < room ∨ ¬ CutsBetweenCharacters base (utf8Len base + (room + suffixLen extension))) ∧
      ∃ e, tryExtensions parse build base bound extension = .error e) := by
  induction bound generalizing extension with
  | zero =>
    cases extension with
    | some suffix => simp [suffixRoom] at enough
    | none =>
      rcases tryBases_cases (size · none) (fun front first => parses front none first (by simp))
        (Nat.le_refl _) with ⟨cuts, ⟨name, front, tried, first, chars, kept⟩ | ⟨tried, large⟩⟩ | ⟨uncut, e, tried⟩
      · exact Or.inl ⟨cuts, name, front, none, tryExtensions_found tried, chars, first, kept⟩
      · exact Or.inr ⟨Or.inl large, _, tryExtensions_none tried⟩
      · exact Or.inr ⟨Or.inr uncut, e, tryExtensions_error tried⟩
  | succ bound later =>
    rcases tryBases_cases (size · extension)
      (fun front first => parses front extension first fun k member => ⟨k, member, List.suffix_rfl⟩)
      (Nat.le_refl _) with ⟨cuts, ⟨name, front, tried, first, chars, kept⟩ | ⟨tried, large⟩⟩ | ⟨uncut, e, tried⟩
    · exact Or.inl ⟨cuts, name, front, extension, tryExtensions_found tried, chars, first, kept⟩
    · cases extension with
      | none => exact Or.inr ⟨Or.inl large, _, tryExtensions_none tried⟩
      | some suffix =>
        have smaller := suffixRoom_keptSuffix suffix
        have shorter := suffixLen_keptSuffix suffix
        rw [tryExtensions_next tried]
        have rest := @later (keptSuffix suffix)
          (fun front kept first inKept => parses front kept first fun k member => by
            obtain ⟨s, isKept, isSuffix⟩ := inKept k member
            exact ⟨suffix, rfl, isSuffix.trans (keptSuffix_suffix isKept)⟩)
          (by omega)
        rcases rest with ⟨-, found⟩ | ⟨large | uncut, failed⟩
        · exact Or.inl ⟨cuts, found⟩
        · exact Or.inr ⟨Or.inl large, failed⟩
        · exact absurd (cuts_mono cuts (by omega)) uncut
    · exact Or.inr ⟨Or.inr uncut, e, tryExtensions_error tried⟩

end Extensions

section Names

theorem leading_append (hasLeadingDot : Bool) (front after : List Char) :
    leading hasLeadingDot (front ++ after) = leading hasLeadingDot front ++ after := by
  cases hasLeadingDot <;> rfl

theorem utf8Len_extensionTail (extension : Option (List Char)) :
    utf8Len (extensionTail extension) = suffixLen extension := by
  have dot : ('.').utf8Size = 1 := by decide
  cases extension with
  | none => rfl
  | some extension =>
    simp only [extensionTail, utf8Len, suffixLen, Option.elim_some, dot]
    omega

theorem utf8Len_renameMiddle (suffix : List Char) :
    utf8Len (renameMiddle suffix) = utf8Len suffix + 3 := by
  have opening : utf8Len " (".toList = 2 := by decide
  have closing : utf8Len ")".toList = 1 := by decide
  simp only [renameMiddle, utf8Len_append, opening, closing]
  omega

theorem utf8Len_leading (hasLeadingDot : Bool) (front : List Char) :
    utf8Len (leading hasLeadingDot front) = utf8Len front + hasLeadingDot.toNat := by
  have dot : ('.').utf8Size = 1 := by decide
  cases hasLeadingDot with
  | false => rfl
  | true =>
    simp only [leading, if_true, utf8Len, dot, Bool.toNat_true]
    omega

theorem utf8Len_buildName (hasLeadingDot : Bool) (suffix front : List Char)
    (kept : Option (List Char)) :
    utf8Len (buildName hasLeadingDot suffix front kept) =
      utf8Len front + (hasLeadingDot.toNat + (utf8Len suffix + 3) + suffixLen kept) := by
  rw [buildName_eq]
  simp only [joined, utf8Len_append, utf8Len_leading, utf8Len_renameMiddle, utf8Len_extensionTail]
  omega

theorem utf8Len_suffixWithCount {count : Nat} (few : count ≤ i32Max) :
    utf8Len (suffixWithCount filenameConflictSuffix count) ≤ 240 := by
  have constant : utf8Len filenameConflictSuffix = 22 := by decide
  have space : (' ').utf8Size = 1 := by decide
  have digits := few_digits few
  unfold suffixWithCount
  split
  · omega
  · rw [Nat.toString_eq_repr, Nat.toList_repr, utf8Len_append, utf8Len, utf8Len_digits, constant,
      space]
    omega

variable {nfc : List Char → List Char} (laws : NormalizationFormC nfc) {name : EntryName}
  (normalized : nfc name.chars = name.chars) {count : Nat} {front : List Char}
  {kept : Option (List Char)} (isPrefix : front <+: (renameParts name).base)
  (isSuffix : ∀ k ∈ kept, ∃ s ∈ (renameParts name).extension, k <:+ s)
include isPrefix isSuffix

theorem parts_of_name : (∃ after, name.chars = leading (renameParts name).hasLeadingDot front ++ after) ∧
    ∀ k ∈ kept, ∃ before, name.chars = before ++ k := by
  obtain ⟨chars, -, -⟩ := renameParts_spec name
  obtain ⟨after, isBase⟩ := isPrefix
  rw [← isBase, List.append_assoc, leading_append] at chars
  refine ⟨⟨_, chars⟩, ?_⟩
  intro k member
  obtain ⟨s, isExtension, before, same⟩ := isSuffix k member
  rw [Option.mem_def.mp isExtension, extensionTail, ← same] at chars
  rw [chars]
  refine ⟨leading (renameParts name).hasLeadingDot front ++ after ++ '.' :: before, ?_⟩
  simp

theorem clean_buildName {c : Char} (member : c ∈ buildName (renameParts name).hasLeadingDot
    (suffixWithCount filenameConflictSuffix count) front kept) : c ≠ '/' ∧ c ≠ '\x00' := by
  obtain ⟨⟨after, chars⟩, ends⟩ := parts_of_name isPrefix isSuffix
  rw [buildName_eq, joined, List.mem_append, List.mem_append] at member
  rcases member with inFront | inMiddle | inTail
  · apply clean_of_valid name
    rw [chars]
    exact List.mem_append_left _ inFront
  · exact ((renameMiddle_plain count).2 c inMiddle).2.2
  · cases kept with
    | none => cases inTail
    | some k =>
      rcases List.mem_cons.mp inTail with rfl | inKept
      · decide
      · obtain ⟨before, chars⟩ := ends k rfl
        apply clean_of_valid name
        rw [chars]
        exact List.mem_append_right _ inKept

include laws normalized in
theorem parses_buildName : ParsesBySize (EntryName.parse nfc)
    (buildName (renameParts name).hasLeadingDot (suffixWithCount filenameConflictSuffix count)
      front kept) := by
  obtain ⟨⟨after, chars⟩, ends⟩ := parts_of_name isPrefix isSuffix
  apply parse_of_clean _ _ fun c member => clean_buildName isPrefix isSuffix member
  · rw [buildName_eq]
    apply nfc_joined laws _ (renameMiddle_plain count)
    · intro k member
      obtain ⟨before, chars⟩ := ends k member
      rw [chars] at normalized
      exact (laws.part _ _ normalized).2
    · rw [chars] at normalized
      exact (laws.part _ _ normalized).1
  · rw [buildName_eq]
    simp [joined, renameMiddle]

end Names

end ParsecCloud
