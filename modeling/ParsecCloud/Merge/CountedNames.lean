import ParsecCloud.Merge.RenameAttempts

/- The searches for a conflict name with their counters, which are i32 (merge.rs and
   transactions/inbound_sync.rs): when they end with a name, whatever names are reserved. -/
namespace ParsecCloud
open Rust CountedSearch

def renameCandidate (nfc : List Char → List Char) (filename : EntryName) (count : Nat) :
    Checked EntryName :=
  renameWithSuffix nfc filename (suffixWithCount filenameConflictSuffix count)

def syncConflictCandidate (nfc : List Char → List Char) (childName : EntryName) (attempt : Nat) :
    Checked EntryName :=
  buildNextConflictName nfc attempt childName.prefixAndSuffix.1 childName.prefixAndSuffix.2

section Sync
variable {nfc : List Char → List Char}

theorem numbered_conflictText {attempt : Nat} {first : Char} {rest : List Char}
    {later : Option (List Char)} (noDot : '.' ∉ rest) :
    Numbered (Nat.toDigits 10 attempt) (conflictText attempt (first :: rest) later) := by
  refine ⟨first, rest, " (Parsec sync conflict".toList, ' ', later, ?_, noDot, by decide, by decide,
    by decide, fun d member => digit_ascii member⟩
  have opening : " (Parsec sync conflict ".toList = " (Parsec sync conflict".toList ++ [' '] := by
    decide
  have closing : ")".toList = [')'] := by decide
  rw [conflictText_eq]
  unfold syncMiddle
  rw [opening, closing, List.append_assoc]
  rfl

theorem built_text {attempt : Nat} {childPrefix : List Char} {childSuffix : Option (List Char)}
    {name : EntryName} (kept : KeptByNfc nfc childPrefix childSuffix)
    (clean : CleanParts childPrefix childSuffix)
    (built : buildNextConflictName nfc attempt childPrefix childSuffix = .ok name) :
    ∃ front later, name.chars = conflictText attempt front later ∧ front <+: childPrefix ∧
      (childPrefix ≠ [] → front ≠ []) := by
  induction room : utf8Len childPrefix + suffixRoom childSuffix using Nat.strongRecOn
    generalizing childPrefix childSuffix with
  | ind n shorterRoom =>
    by_cases fits : utf8Len (conflictText attempt childPrefix childSuffix) ≤ 255
    · obtain ⟨other, builtOther, chars⟩ := build_fits kept clean fits
      rw [built] at builtOther
      cases builtOther
      exact ⟨childPrefix, childSuffix, chars, List.prefix_rfl, id⟩
    · by_cases long : utf8Len childPrefix > 10
      · cases cut : takeBytes childPrefix (utf8Len childPrefix - 10) with
        | none =>
          rw [build_uncut kept clean (by omega) long cut] at built
          cases built
        | some shorter =>
          obtain ⟨length, isPrefix⟩ := takeBytes_spec cut
          rw [build_cut kept clean (by omega) long cut] at built
          obtain ⟨front, later, chars, isFront, nonempty⟩ :=
            shorterRoom (utf8Len shorter + suffixRoom childSuffix) (by omega) (kept.cut isPrefix)
              (clean.cut isPrefix) built rfl
          refine ⟨front, later, chars, isFront.trans isPrefix, fun _ => nonempty ?_⟩
          intro empty
          rw [empty, utf8Len] at length
          omega
      · cases childSuffix with
        | none =>
          rw [buildNextConflictName.eq_def, parse_tooLong kept clean (by omega)] at built
          simp only [dif_neg long] at built
          cases built
        | some suffix =>
          have smaller := suffixRoom_keptSuffix suffix
          rw [build_drop kept clean (by omega) long] at built
          exact shorterRoom _ (by omega) kept.drop clean.drop built rfl

variable (laws : NormalizationFormC nfc)
include laws

theorem keptByNfc_of_normalized {childPrefix : List Char} {childSuffix : Option (List Char)}
    (normalized : nfc (childPrefix ++ extensionTail childSuffix) =
      childPrefix ++ extensionTail childSuffix) : KeptByNfc nfc childPrefix childSuffix := by
  rintro attempt front kept ⟨after, isPrefix⟩ isSuffix
  rw [conflictText_eq]
  apply nfc_joined laws
  · rw [← isPrefix, List.append_assoc] at normalized
    exact (laws.part _ _ normalized).1
  · exact syncMiddle_plain attempt
  · intro k member
    obtain ⟨s, isSome, before, same⟩ := isSuffix k member
    rw [Option.mem_def.mp isSome, extensionTail, ← same] at normalized
    have split : childPrefix ++ '.' :: (before ++ k) = (childPrefix ++ '.' :: before) ++ k := by simp
    rw [split] at normalized
    exact (laws.part _ _ normalized).2

variable {childName : EntryName} (normalized : nfc childName.chars = childName.chars)
include normalized

theorem kept_prefixAndSuffix :
    KeptByNfc nfc childName.prefixAndSuffix.1 childName.prefixAndSuffix.2 := by
  apply keptByNfc_of_normalized laws
  rw [← (prefixAndSuffix_spec childName).1]
  exact normalized

theorem syncConflictCandidate_ok_iff {attempt : Nat} (few : attempt ≤ i32Max) :
    (∃ found, syncConflictCandidate nfc childName attempt = .ok found) ↔
      SlicesBetweenCharacters attempt childName.prefixAndSuffix.1 childName.prefixAndSuffix.2 := by
  have kept := kept_prefixAndSuffix laws normalized
  exact build_ok_iff few kept (clean_prefixAndSuffix childName)

theorem syncConflictCandidate_distinct : Distinct (syncConflictCandidate nfc childName) := by
  have kept := kept_prefixAndSuffix laws normalized
  obtain ⟨first, rest, isPrefix, noDot⟩ := (prefixAndSuffix_spec childName).2
  have numbered : ∀ attempt found, syncConflictCandidate nfc childName attempt = .ok found →
      Numbered (Nat.toDigits 10 attempt) found.chars := by
    intro attempt found built
    obtain ⟨front, later, chars, isFront, nonempty⟩ :=
      built_text kept (clean_prefixAndSuffix childName) built
    rw [isPrefix] at isFront nonempty
    rw [chars]
    cases front with
    | nil => exact absurd rfl (nonempty (List.cons_ne_nil first rest))
    | cons c front =>
      obtain ⟨-, isTail⟩ := List.cons_prefix_cons.mp isFront
      exact numbered_conflictText fun member => noDot (isTail.subset member)
  intro a b found builtA builtB
  exact toDigits_injective ((numbered a found builtA).unique (numbered b found builtB))

end Sync

section Rename

/-- The cuts of the base name with one count. -/
def RenameCutsBetweenCharacters (name : EntryName) (count : Nat) : Prop :=
  CutsBetweenCharacters (renameParts name).base
    (utf8Len name.chars + (utf8Len (suffixWithCount filenameConflictSuffix count) + 3))

theorem numbered_buildName {hasLeadingDot : Bool} {count : Nat} {front : List Char}
    {kept : Option (List Char)} (noDot : '.' ∉ front)
    (nonempty : hasLeadingDot = false → front ≠ []) :
    Numbered (if count = 1 then [] else Nat.toDigits 10 count)
      (buildName hasLeadingDot (suffixWithCount filenameConflictSuffix count) front kept) := by
  have start : ∃ first rest, leading hasLeadingDot front = first :: rest ∧ '.' ∉ rest := by
    cases hasLeadingDot with
    | true => exact ⟨'.', front, rfl, noDot⟩
    | false =>
      obtain ⟨first, rest, rfl⟩ := List.exists_cons_of_ne_nil (nonempty rfl)
      exact ⟨first, rest, rfl, fun member => noDot (List.mem_cons_of_mem first member)⟩
  obtain ⟨first, rest, isStart, inRest⟩ := start
  have closing : ")".toList = [')'] := by decide
  rw [buildName_eq, isStart]
  unfold renameMiddle suffixWithCount
  rw [closing]
  split
  · refine ⟨first, rest, " (Parsec - name conflic".toList, 't', kept, ?_, inRest, by decide,
      by decide, by decide, by simp⟩
    have constant : " (".toList ++ filenameConflictSuffix =
        " (Parsec - name conflic".toList ++ ['t'] := by decide
    rw [constant]
    simp only [List.append_assoc, List.cons_append, List.nil_append]
  · refine ⟨first, rest, " (Parsec - name conflict".toList, ' ', kept, ?_, inRest, by decide,
      by decide, by decide, fun d member => digit_ascii member⟩
    have constant : " (".toList ++ filenameConflictSuffix = " (Parsec - name conflict".toList := by
      decide
    rw [Nat.toString_eq_repr, Nat.toList_repr, ← List.append_assoc, constant]
    simp only [List.append_assoc, List.cons_append]

theorem countDigits_injective {a b : Nat}
    (same : (if a = 1 then [] else Nat.toDigits 10 a) = if b = 1 then [] else Nat.toDigits 10 b) :
    a = b := by
  have nonempty : ∀ n, Nat.toDigits 10 n ≠ [] := fun n => Nat.toDigits_ne_nil
  split at same
  · rename_i one
    split at same
    · omega
    · exact absurd same.symm (nonempty b)
  · split at same
    · exact absurd same (nonempty a)
    · exact toDigits_injective same

variable {nfc : List Char → List Char} (laws : NormalizationFormC nfc) {name : EntryName}
  (normalized : nfc name.chars = name.chars)
include laws normalized

theorem renameCandidate_cases (count : Nat) :
    (RenameCutsBetweenCharacters name count ∧
      ∃ found front kept, renameCandidate nfc name count = .ok found ∧
        found.chars = buildName (renameParts name).hasLeadingDot
          (suffixWithCount filenameConflictSuffix count) front kept ∧
        front <+: (renameParts name).base ∧ ((renameParts name).base ≠ [] → front ≠ [])) ∨
    ((i32Max < count ∨ ¬ RenameCutsBetweenCharacters name count) ∧
      ∃ e, renameCandidate nfc name count = .error e) := by
  have total : utf8Len name.chars + (utf8Len (suffixWithCount filenameConflictSuffix count) + 3) =
      utf8Len (renameParts name).base +
        ((renameParts name).hasLeadingDot.toNat +
          (utf8Len (suffixWithCount filenameConflictSuffix count) + 3) +
            suffixLen (renameParts name).extension) := by
    rw [(renameParts_spec name).1, utf8Len_leading, utf8Len_append, utf8Len_extensionTail]
    omega
  unfold RenameCutsBetweenCharacters renameCandidate
  rw [renameWithSuffix_eq, total]
  apply (tryExtensions_cases
    (utf8Len_buildName _ (suffixWithCount filenameConflictSuffix count))
    (fun front kept isPrefix isSuffix => parses_buildName laws normalized isPrefix isSuffix)
    (Nat.le_refl _)).imp_right
  intro failed
  refine ⟨failed.1.imp_left fun large => ?_, failed.2⟩
  by_contra few
  have suffix := utf8Len_suffixWithCount (Nat.le_of_not_lt few)
  have dot := Bool.toNat_le (renameParts name).hasLeadingDot
  omega

theorem renameCandidate_ok_iff {count : Nat} (few : count ≤ i32Max) :
    (∃ found, renameCandidate nfc name count = .ok found) ↔
      RenameCutsBetweenCharacters name count := by
  rcases renameCandidate_cases laws normalized count with ⟨cuts, found, -, -, made, -⟩ |
    ⟨large | uncut, e, failed⟩
  · exact ⟨fun _ => cuts, fun _ => ⟨found, made⟩⟩
  · omega
  · constructor
    · intro made
      obtain ⟨found, made⟩ := made
      rw [failed] at made
      cases made
    · exact fun cuts => absurd cuts uncut

theorem renameCandidate_distinct : Distinct (renameCandidate nfc name) := by
  obtain ⟨-, noDot, nonempty⟩ := renameParts_spec name
  have numbered : ∀ count found, renameCandidate nfc name count = .ok found →
      Numbered (if count = 1 then [] else Nat.toDigits 10 count) found.chars := by
    intro count found made
    rcases renameCandidate_cases laws normalized count with
      ⟨-, other, front, kept, madeOther, chars, isFront, keeps⟩ | ⟨-, e, failed⟩
    · rw [made] at madeOther
      cases madeOther
      rw [chars]
      exact numbered_buildName (fun member => noDot (isFront.subset member))
        fun without => keeps (nonempty without)
    · rw [failed] at made
      cases made
  intro a b found madeA madeB
  exact countDigits_injective ((numbered a found madeA).unique (numbered b found madeB))

end Rename

section Searches

theorem search_candidates_iff {candidate : Nat → Checked EntryName} (distinct : Distinct candidate)
    {start size : Nat} {cuts : Nat → Prop} (small : start ≤ i32Max)
    (made : ∀ count, count ≤ i32Max → ((∃ found, candidate count = .ok found) ↔ cuts count)) :
    (∀ reserved : Finset EntryName, reserved.card ≤ size →
      ∃ new, search candidate reserved (i32Max - start) start = .ok new ∧ new ∉ reserved) ↔
    size + start ≤ i32Max ∧ ∀ count, start ≤ count → count ≤ size + start → cuts count := by
  rw [search_all_iff distinct]
  constructor
  · intro ends
    refine ⟨by omega, fun count first last => ?_⟩
    have here := ends.2 (count - start) (by omega)
    rw [Nat.add_sub_cancel' first] at here
    exact (made count (by omega)).mp here
  · intro fits
    exact ⟨by omega, fun m le => (made _ (by omega)).mpr (fits.2 _ (by omega) (by omega))⟩

/-- Each count that is tried for the name is in range, and its cuts are made between characters. -/
def CountsFit (nfc : List Char → List Char) (name : EntryName) (reserved : Finset EntryName) : Prop :=
  ∀ count, Tried (renameCandidate nfc name) reserved 1 count →
    count ≤ i32Max ∧ RenameCutsBetweenCharacters name count

section Names
variable {nfc : List Char → List Char} (laws : NormalizationFormC nfc) {name : EntryName}
  (normalized : nfc name.chars = name.chars)
include laws normalized

theorem getConflictFilename_ends_iff {reserved : Finset EntryName} :
    (∃ new, getConflictFilename nfc name filenameConflictSuffix reserved = .ok new) ↔
      CountsFit nfc name reserved := by
  apply search_ends_iff.trans
  apply forall₂_congr
  intro count tried
  exact and_congr_right fun few => renameCandidate_ok_iff laws normalized few

theorem countsFit_of_cuts {reserved : Finset EntryName} {size : Nat} (fits : reserved.card ≤ size)
    (few : size + 1 ≤ i32Max)
    (cuts : ∀ count, 1 ≤ count → count ≤ size + 1 → RenameCutsBetweenCharacters name count) :
    CountsFit nfc name reserved := by
  have all := (search_candidates_iff (renameCandidate_distinct laws normalized) (by decide)
    fun count few => renameCandidate_ok_iff laws normalized few).mpr ⟨few, cuts⟩
  obtain ⟨new, made, -⟩ := all reserved fits
  exact (getConflictFilename_ends_iff laws normalized).mp ⟨new, made⟩

end Names

/-- For each set of reserved names, and for all sets of so many names, the two searches end with a
    name that is not reserved exactly when the counter does not overflow, and the cuts are made between
    characters, at each count that is tried. Different counts give different names. -/
theorem conflict_names_iff {nfc : List Char → List Char} (laws : NormalizationFormC nfc)
    (name : EntryName) (normalized : nfc name.chars = name.chars) (size : Nat) :
    ((∀ reserved : Finset EntryName, reserved.card ≤ size →
        ∃ new, getConflictFilename nfc name filenameConflictSuffix reserved = .ok new ∧
          new ∉ reserved) ↔
      size + 1 ≤ i32Max ∧
        ∀ count, 1 ≤ count → count ≤ size + 1 → RenameCutsBetweenCharacters name count) ∧
    ((∀ reserved : Finset EntryName, reserved.card ≤ size →
        ∃ new, searchConflictName nfc name.prefixAndSuffix.1 name.prefixAndSuffix.2 reserved =
          .ok new ∧ new ∉ reserved) ↔
      size + 2 ≤ i32Max ∧
        ∀ attempt, 2 ≤ attempt → attempt ≤ size + 2 →
          SlicesBetweenCharacters attempt name.prefixAndSuffix.1 name.prefixAndSuffix.2) ∧
    (∀ reserved : Finset EntryName,
      ((∃ new, getConflictFilename nfc name filenameConflictSuffix reserved = .ok new ∧
        new ∉ reserved) ↔ CountsFit nfc name reserved) ∧
      ((∃ new, searchConflictName nfc name.prefixAndSuffix.1 name.prefixAndSuffix.2 reserved =
        .ok new ∧ new ∉ reserved) ↔
          AttemptsFit nfc name.prefixAndSuffix.1 name.prefixAndSuffix.2 reserved)) ∧
    Distinct (renameCandidate nfc name) ∧ Distinct (syncConflictCandidate nfc name) := by
  have renamed := renameCandidate_distinct laws normalized
  have numbered := syncConflictCandidate_distinct laws normalized
  refine ⟨?_, ?_, fun reserved => ⟨?_, ?_⟩, renamed, numbered⟩
  · exact search_candidates_iff renamed (by decide) fun count few =>
      renameCandidate_ok_iff laws normalized few
  · exact search_candidates_iff numbered (by decide) fun attempt few =>
      syncConflictCandidate_ok_iff laws normalized few
  · rw [← getConflictFilename_ends_iff laws normalized]
    exact exists_congr fun new => and_iff_left_of_imp search_unreserved
  · rw [← searchConflictName_ends_iff (kept_prefixAndSuffix laws normalized)
      (clean_prefixAndSuffix name)]
    exact exists_congr fun new => and_iff_left_of_imp search_unreserved

theorem normalizationFormC_id : NormalizationFormC id where
  ascii _ _ := rfl
  part _ _ _ := ⟨rfl, rfl⟩
  beforeAscii _ _ _ _ _ _ := rfl
  afterDot _ _ := rfl

theorem conflict_names_iff_entryA :
    ∃ new, getConflictFilename id entryA filenameConflictSuffix {entryA} = .ok new ∧
      new ∉ ({entryA} : Finset EntryName) := by
  apply (conflict_names_iff normalizationFormC_id entryA rfl 1).1.mpr _ {entryA} (by decide)
  refine ⟨by decide, fun count first last => cuts_of_short (by decide)⟩

/-- A name of the largest size, of characters of 3 bytes. -/
def euros : EntryName := ⟨List.replicate 85 '€', by decide⟩

theorem euros_not_cut : syncConflictCandidate id euros 2 = .error .outOfRange :=
  build_uncut (kept_prefixAndSuffix normalizationFormC_id rfl) (clean_prefixAndSuffix euros)
    (by decide +kernel) (by decide +kernel) (by decide +kernel)

theorem euros_not_renamed :
    getConflictFilename id euros filenameConflictSuffix ∅ = .error (.expect "already checked") ∧
      searchConflictName id euros.prefixAndSuffix.1 euros.prefixAndSuffix.2 ∅ = .error .outOfRange := by
  constructor
  · decide +kernel
  · unfold searchConflictName search
    rw [show buildNextConflictName id 2 _ _ = _ from euros_not_cut]
    rfl

end Searches

end ParsecCloud
