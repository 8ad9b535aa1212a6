import ParsecCloud.Certif.Storage

/- What the queries of the storage return. -/
namespace ParsecCloud.Certif.Storage
open Rust GetCertificateQuery
variable {α : Type} {storage : Storage} {query : GetCertificateQuery} {upTo : UpTo}
variable {certif : Certificate}

@[simp] theorem covers_current (date : DateTime) : UpTo.current.covers date = true := rfl

@[simp] theorem covers_timestamp {limit date : DateTime} :
    (UpTo.timestamp limit).covers date = true ↔ date ≤ limit := by
  simp [UpTo.covers]

theorem mem_select : certif ∈ storage.select query upTo ↔
    certif ∈ storage ∧ query.selects certif = true ∧ upTo.covers certif.timestamp = true := by
  simp [select]

theorem newest_none {certifs : List Certificate} (none : newest certifs = none) : certifs = [] := by
  cases certifs with
  | nil => rfl
  | cons first rest =>
    unfold newest at none
    split at none
    · split at none <;> cases none
    · cases none

theorem newest_some {certifs : List Certificate} (found : newest certifs = some certif) :
    certif ∈ certifs ∧ ∀ other ∈ certifs, other.timestamp ≤ certif.timestamp := by
  induction certifs generalizing certif with
  | nil => cases found
  | cons first rest ih =>
    unfold newest at found
    split at found
    · rename_i last last_eq
      obtain ⟨member, bound⟩ := ih last_eq
      split at found
      · rename_i older
        cases found
        refine ⟨List.mem_cons_of_mem first member, fun other selected => ?_⟩
        rcases List.mem_cons.mp selected with rfl | selected
        · exact Int.le_of_lt older
        · exact bound other selected
      · rename_i notOlder
        cases found
        refine ⟨List.mem_cons_self, fun other selected => ?_⟩
        rcases List.mem_cons.mp selected with rfl | selected
        · exact Int.le_refl _
        · exact Int.le_trans (bound other selected) (Int.not_lt.mp notOlder)
    · rename_i none
      cases found
      cases newest_none none
      simp

theorem getCertificate_ok (found : storage.getCertificate query upTo = .ok certif) :
    certif ∈ storage.select query upTo ∧
      ∀ other ∈ storage.select query upTo, other.timestamp ≤ certif.timestamp := by
  unfold getCertificate at found
  split at found
  · rename_i last last_eq
    cases found
    exact newest_some last_eq
  · rename_i nothing
    have nothing := newest_none nothing
    split at found
    · cases found
    · split at found
      · cases found
      · rename_i first
        split at found
        · cases found
        · rename_i early
          cases found
          have member := mem_select.mp (List.mem_of_mem_head? first)
          have covered := covers_timestamp.mpr (Int.not_lt.mp early)
          have selected := mem_select.mpr ⟨member.1, member.2.1, covered⟩
          rw [nothing] at selected
          cases selected

theorem getCertificate_error {error : GetCertificateError}
    (failed : storage.getCertificate query upTo = .error error) :
    storage.select query upTo = [] ∧ (error = .nonExisting → storage.select query .current = []) := by
  unfold getCertificate at failed
  split at failed
  · cases failed
  · rename_i nothing
    have nothing := newest_none nothing
    refine ⟨nothing, fun missing => ?_⟩
    subst missing
    split at failed
    · exact nothing
    · split at failed
      · rename_i first
        exact List.head?_eq_none_iff.mp first
      · split at failed <;> cases failed

theorem getCertificate_tooRecent {date : DateTime}
    (failed : storage.getCertificate query upTo = .error (.existButTooRecent date)) :
    ∃ limit, upTo = .timestamp limit ∧ limit < date ∧
      ∃ certif ∈ storage.select query .current, certif.timestamp = date := by
  unfold getCertificate at failed
  split at failed
  · cases failed
  · split at failed
    · cases failed
    · split at failed
      · cases failed
      · rename_i first
        split at failed
        · rename_i late
          cases failed
          exact ⟨_, rfl, late, _, List.mem_of_mem_head? first, rfl⟩
        · cases failed

theorem getCertificate_internal (message : String) :
    storage.getCertificate query upTo ≠ .error (.internal message) := by
  intro failed
  unfold getCertificate at failed
  split at failed
  · cases failed
  · split at failed
    · cases failed
    · split at failed
      · cases failed
      · split at failed <;> cases failed

section Append
variable {added : Certificate}

theorem select_append_other (other : query.selects added = false) :
    select (storage ++ [added]) query upTo = storage.select query upTo := by
  simp [select, other]

theorem getCertificate_append_other (other : query.selects added = false) :
    getCertificate (storage ++ [added]) query upTo = storage.getCertificate query upTo := by
  unfold getCertificate
  rw [select_append_other other, select_append_other other]

theorem getOne_append_other {expected : Certificate → Option α}
    (other : query.selects added = false) :
    getOne (storage ++ [added]) query upTo expected = storage.getOne query upTo expected := by
  unfold getOne
  rw [getCertificate_append_other other]

theorem getMaybe_append_other {expected : Certificate → Option α}
    (other : query.selects added = false) :
    getMaybe (storage ++ [added]) query upTo expected = storage.getMaybe query upTo expected := by
  unfold getMaybe
  rw [getOne_append_other other]

end Append

/-- The query selects the certificates of one type that meet a condition. -/
structure Selects (query : GetCertificateQuery) (expected : Certificate → Option α)
    (wrap : α → Certificate) (meets : α → Prop) : Prop where
  selects_iff : ∀ certif, query.selects certif = true ↔ ∃ a, certif = wrap a ∧ meets a
  expected_wrap : ∀ a, expected (wrap a) = some a
  wrap_expected : ∀ certif a, expected certif = some a → certif = wrap a

section Typed
variable {expected : Certificate → Option α} {wrap : α → Certificate} {meets : α → Prop}
variable (selects : Selects query expected wrap meets) {a : α}

include selects

theorem Selects.mem_select : wrap a ∈ storage.select query upTo ↔
    wrap a ∈ storage ∧ meets a ∧ upTo.covers (wrap a).timestamp = true := by
  rw [Storage.mem_select, selects.selects_iff]
  constructor
  · rintro ⟨member, ⟨b, same, met⟩, covered⟩
    have : a = b := Option.some.inj (by rw [← selects.expected_wrap a, same, selects.expected_wrap])
    exact ⟨member, this ▸ met, covered⟩
  · rintro ⟨member, met, covered⟩
    exact ⟨member, ⟨a, rfl, met⟩, covered⟩

theorem Selects.exists_wrap (member : certif ∈ storage.select query upTo) :
    ∃ a, certif = wrap a ∧ meets a :=
  (selects.selects_iff certif).mp (Storage.mem_select.mp member).2.1

theorem Selects.not_selects (other : ∀ a, certif = wrap a → ¬ meets a) :
    query.selects certif = false := by
  rw [← Bool.not_eq_true, selects.selects_iff]
  rintro ⟨a, same, met⟩
  exact other a same met

theorem Selects.getOne_ok (found : storage.getOne query upTo expected = .ok a) :
    wrap a ∈ storage ∧ meets a ∧ upTo.covers (wrap a).timestamp = true ∧
      ∀ b, wrap b ∈ storage → meets b → upTo.covers (wrap b).timestamp = true →
        (wrap b).timestamp ≤ (wrap a).timestamp := by
  unfold getOne at found
  cases row : storage.getCertificate query upTo with
  | error e =>
    rw [row] at found
    cases found
  | ok certif =>
    rw [row] at found
    obtain ⟨member, last⟩ := getCertificate_ok row
    obtain ⟨b, rfl, met⟩ := selects.exists_wrap member
    have same : a = b := by
      have : load expected (wrap b) = .ok a := found
      rw [load, selects.expected_wrap] at this
      exact (Except.ok.inj this).symm
    subst same
    have member := selects.mem_select.mp member
    exact ⟨member.1, met, member.2.2, fun c stored met covered =>
      last (wrap c) (selects.mem_select.mpr ⟨stored, met, covered⟩)⟩

theorem Selects.getOne_error {error : GetCertificateError}
    (failed : storage.getOne query upTo expected = .error error) :
    storage.getCertificate query upTo = .error error := by
  unfold getOne at failed
  cases row : storage.getCertificate query upTo with
  | error e =>
    rw [row] at failed
    cases failed
    rfl
  | ok certif =>
    rw [row] at failed
    obtain ⟨b, rfl, met⟩ := selects.exists_wrap (getCertificate_ok row).1
    have : load expected (wrap b) = .error error := failed
    rw [load, selects.expected_wrap] at this
    cases this

theorem Selects.getOne_nonExisting
    (failed : storage.getOne query upTo expected = .error .nonExisting) (stored : wrap a ∈ storage) :
    ¬ meets a := by
  intro met
  have nothing := (getCertificate_error (selects.getOne_error failed)).2 rfl
  have : wrap a ∈ storage.select query .current := selects.mem_select.mpr ⟨stored, met, rfl⟩
  rw [nothing] at this
  cases this

theorem Selects.getMaybe_some (found : storage.getMaybe query upTo expected = .ok (some a)) :
    wrap a ∈ storage ∧ meets a ∧ upTo.covers (wrap a).timestamp = true ∧
      ∀ b, wrap b ∈ storage → meets b → upTo.covers (wrap b).timestamp = true →
        (wrap b).timestamp ≤ (wrap a).timestamp := by
  unfold getMaybe at found
  split at found
  · rename_i row
    cases found
    exact selects.getOne_ok row
  · cases found
  · cases found
  · cases found

theorem Selects.getMaybe_none (found : storage.getMaybe query upTo expected = .ok none)
    (stored : wrap a ∈ storage) (met : meets a) : upTo.covers (wrap a).timestamp = false := by
  have nothing : storage.select query upTo = [] := by
    unfold getMaybe at found
    split at found
    · cases found
    · rename_i failed
      exact (getCertificate_error (selects.getOne_error failed)).1
    · rename_i failed
      exact (getCertificate_error (selects.getOne_error failed)).1
    · cases found
  rw [← Bool.not_eq_true]
  intro covered
  have : wrap a ∈ storage.select query upTo := selects.mem_select.mpr ⟨stored, met, covered⟩
  rw [nothing] at this
  cases this

theorem Selects.getMaybe_total : ∃ found, storage.getMaybe query upTo expected = .ok found := by
  unfold getMaybe
  split
  · exact ⟨_, rfl⟩
  · exact ⟨_, rfl⟩
  · exact ⟨_, rfl⟩
  · rename_i failed
    exact absurd (selects.getOne_error failed) (getCertificate_internal _)

theorem Selects.getOne_append (met : meets a)
    (newest : ∀ b, wrap b ∈ storage → meets b → (wrap b).timestamp < (wrap a).timestamp) :
    getOne (storage ++ [wrap a]) query .current expected = .ok a := by
  cases found : getOne (storage ++ [wrap a]) query .current expected with
  | error e =>
    have nothing := (getCertificate_error (selects.getOne_error found)).1
    have : wrap a ∈ select (storage ++ [wrap a]) query .current :=
      selects.mem_select.mpr ⟨by simp, met, rfl⟩
    rw [nothing] at this
    cases this
  | ok b =>
    obtain ⟨stored, met', _, last⟩ := selects.getOne_ok found
    have le := last a (by simp) met rfl
    rcases List.mem_append.mp stored with stored | stored
    · exact absurd (newest b stored met') (not_lt.mpr le)
    · have same : wrap b = wrap a := List.mem_singleton.mp stored
      have : b = a := Option.some.inj (by
        rw [← selects.expected_wrap b, same, selects.expected_wrap])
      rw [this]

variable (storage upTo) in
theorem Selects.filterMap_select [DecidablePred meets] :
    (storage.select query upTo).filterMap expected =
      (storage.filterMap expected).filter fun a => meets a ∧ upTo.covers (wrap a).timestamp := by
  induction storage with
  | nil => rfl
  | cons certif rest ih =>
    unfold select at ih ⊢
    rw [List.filter_cons, List.filterMap_cons]
    cases read : expected certif with
    | none =>
      have other : query.selects certif = false := by
        refine selects.not_selects fun a same met => ?_
        rw [same, selects.expected_wrap] at read
        cases read
      simpa [other] using ih
    | some a =>
      have same := selects.wrap_expected certif a read
      have kept : (query.selects certif && upTo.covers certif.timestamp) =
          decide (meets a ∧ upTo.covers (wrap a).timestamp = true) := by
        rw [Bool.eq_iff_iff, Bool.and_eq_true, decide_eq_true_eq, selects.selects_iff, same]
        constructor
        · rintro ⟨⟨b, equal, met⟩, covered⟩
          have : a = b := Option.some.inj (by
            rw [← selects.expected_wrap a, equal, selects.expected_wrap])
          exact ⟨this ▸ met, covered⟩
        · rintro ⟨met, covered⟩
          exact ⟨⟨a, rfl, met⟩, covered⟩
      rw [kept]
      by_cases met : meets a ∧ upTo.covers (wrap a).timestamp = true
      · simp [met, read, ih]
      · simp [met, ih]

theorem Selects.getMultiple_eq : storage.getMultiple query upTo expected =
    .ok ((storage.getMultipleCertificates query upTo).filterMap expected) := by
  have loads : ∀ certif ∈ storage.getMultipleCertificates query upTo, ∃ a, expected certif = some a := by
    intro certif member
    obtain ⟨a, rfl, _⟩ := selects.exists_wrap (List.mem_insertionSort _ |>.mp member)
    exact ⟨a, selects.expected_wrap a⟩
  unfold getMultiple
  generalize storage.getMultipleCertificates query upTo = rows at loads
  induction rows with
  | nil => rfl
  | cons certif rest ih =>
    obtain ⟨a, loaded⟩ := loads certif (by simp)
    rw [List.mapM_cons, loaded, ih fun other member => loads other (by simp [member])]
    simp only [List.filterMap_cons, loaded]
    rfl

theorem Selects.getMultiple_sorted
    (sorted : (storage.select query upTo).Pairwise fun a b => a.timestamp ≤ b.timestamp) :
    storage.getMultiple query upTo expected
      = .ok ((storage.select query upTo).filterMap expected) := by
  rw [selects.getMultiple_eq, getMultipleCertificates, sorted.insertionSort_eq]

theorem Selects.getMultiple_perm : ∃ found, storage.getMultiple query upTo expected = .ok found ∧
    (found.map wrap).Perm (storage.select query upTo) ∧
    found.Pairwise fun a b => (wrap a).timestamp ≤ (wrap b).timestamp := by
  have wraps : ∀ rows : List Certificate, (∀ certif ∈ rows, ∃ a, certif = wrap a) →
      (rows.filterMap expected).map wrap = rows := by
    intro rows all
    induction rows with
    | nil => rfl
    | cons certif rest ih =>
      obtain ⟨a, rfl⟩ := all certif (by simp)
      rw [List.filterMap_cons, selects.expected_wrap, List.map_cons,
        ih fun other member => all other (by simp [member])]
  have perm := List.perm_insertionSort (fun a b : Certificate => a.timestamp ≤ b.timestamp)
    (storage.select query upTo)
  have isFound := wraps (storage.getMultipleCertificates query upTo) fun certif member =>
    (selects.exists_wrap (perm.mem_iff.mp member)).imp fun a same => same.1
  refine ⟨_, selects.getMultiple_eq, isFound.symm ▸ perm, ?_⟩
  have sorted := List.pairwise_insertionSort (fun a b : Certificate => a.timestamp ≤ b.timestamp)
    (storage.select query upTo)
  change (storage.getMultipleCertificates query upTo).Pairwise _ at sorted
  rw [← isFound, List.pairwise_map] at sorted
  exact sorted

theorem Selects.mem_getMultiple_upTo {found : List α}
    (isFound : storage.getMultiple query upTo expected = .ok found) :
    a ∈ found ↔ wrap a ∈ storage ∧ meets a ∧ upTo.covers (wrap a).timestamp = true := by
  obtain ⟨found', isFound', perm, -⟩ := @Selects.getMultiple_perm _ storage query upTo _ _ _ selects
  rw [isFound] at isFound'
  cases isFound'
  have member : a ∈ found ↔ wrap a ∈ found.map wrap := by
    constructor
    · exact List.mem_map_of_mem
    · intro wrapped
      obtain ⟨b, isFound, same⟩ := List.mem_map.mp wrapped
      have : a = b := Option.some.inj (by
        rw [← selects.expected_wrap a, ← same, selects.expected_wrap])
      exact this ▸ isFound
  rw [member, perm.mem_iff, selects.mem_select]

theorem Selects.mem_getMultiple {found : List α}
    (isFound : storage.getMultiple query .current expected = .ok found) :
    a ∈ found ↔ wrap a ∈ storage ∧ meets a := by
  rw [selects.mem_getMultiple_upTo isFound]
  simp

end Typed

/-- The certificates of a type are the ones that are read back as such. -/
structure Reads (type : CertificateType) (expected : Certificate → Option α)
    (wrap : α → Certificate) : Prop where
  exists_wrap : ∀ certif, certif.type = type → ∃ a, certif = wrap a
  type_wrap : ∀ a, (wrap a).type = type
  expected_wrap : ∀ a, expected (wrap a) = some a
  wrap_expected : ∀ certif a, expected certif = some a → certif = wrap a

section Reads
variable {type : CertificateType} {expected : Certificate → Option α} {wrap : α → Certificate}

/-- Each certificate is a wrapped one of the type, or of another type and not read. -/
theorem Reads.of (expected_wrap : ∀ a, expected (wrap a) = some a)
    (cover : ∀ certif, (∃ a, certif = wrap a ∧ certif.type = type) ∨
      certif.type ≠ type ∧ expected certif = none) : Reads type expected wrap where
  exists_wrap certif typed := by
    rcases cover certif with ⟨a, same, -⟩ | ⟨other, -⟩
    · exact ⟨a, same⟩
    · exact absurd typed other
  type_wrap a := by
    rcases cover (wrap a) with ⟨-, -, typed⟩ | ⟨-, unread⟩
    · exact typed
    · rw [expected_wrap] at unread
      cases unread
  expected_wrap := expected_wrap
  wrap_expected certif a read := by
    rcases cover certif with ⟨b, rfl, -⟩ | ⟨-, unread⟩
    · rw [expected_wrap] at read
      cases read
      rfl
    · rw [unread] at read
      cases read

variable {meets : α → Prop} (reads : Reads type expected wrap)
include reads

theorem Reads.selects {columns : FilterKind × FilterKind → Bool}
    (typed : ∀ certif, query.selects certif = (decide (certif.type = type) && columns certif.filters))
    (isMet : ∀ a, columns (wrap a).filters = true ↔ meets a) :
    Selects query expected wrap meets where
  selects_iff certif := by
    rw [typed, Bool.and_eq_true, decide_eq_true_eq]
    constructor
    · intro selected
      obtain ⟨a, rfl⟩ := reads.exists_wrap certif selected.1
      exact ⟨a, rfl, (isMet a).mp selected.2⟩
    · intro wrapped
      obtain ⟨a, rfl, met⟩ := wrapped
      exact ⟨reads.type_wrap a, (isMet a).mpr met⟩
  expected_wrap := reads.expected_wrap
  wrap_expected := reads.wrap_expected

theorem Reads.noFilter : Selects (noFilter type) expected wrap fun _ => True :=
  @Reads.selects _ (.noFilter type) _ _ _ _ reads (fun _ => true)
    (fun _ => (Bool.and_true _).symm) fun _ => ⟨fun _ => trivial, fun _ => rfl⟩

theorem Reads.filter1 {value : FilterKind}
    (isMet : ∀ a, sqlEq (wrap a).filters.1 value = true ↔ meets a) :
    Selects (filter1 type value) expected wrap meets :=
  @Reads.selects _ (.filter1 type value) _ _ _ _ reads (fun columns => sqlEq columns.1 value)
    (fun _ => rfl) isMet

theorem Reads.bothFilters {value1 value2 : FilterKind}
    (isMet : ∀ a, (sqlEq (wrap a).filters.1 value1 && sqlEq (wrap a).filters.2 value2) = true ↔
      meets a) :
    Selects (bothFilters type value1 value2) expected wrap meets :=
  @Reads.selects _ (.bothFilters type value1 value2) _ _ _ _ reads
    (fun columns => sqlEq columns.1 value1 && sqlEq columns.2 value2)
    (fun _ => Bool.and_assoc _ _ _) isMet

end Reads

@[simp] theorem sqlEq_bytes {a b : Nat} : sqlEq (.bytes a) (.bytes b) = true ↔ a = b := by
  simp [sqlEq]

theorem userUuid_inj {a b : UserID} : a.uuid = b.uuid ↔ a = b := by
  cases a
  cases b
  simp

theorem deviceUuid_inj {a b : DeviceID} : a.uuid = b.uuid ↔ a = b := by
  cases a
  cases b
  simp

theorem realmUuid_inj {a b : VlobID} : a.uuid = b.uuid ↔ a = b := by
  cases a
  cases b
  simp

theorem reads_user : Reads .user isUser fun c => .common (.user c) :=
  .of (fun _ => rfl) fun certif => by
    rcases certif with (c | c | c | c) | (c | c | c | c) | (c | c | c) | (c | c | c) <;>
      first | exact .inl ⟨c, rfl, rfl⟩ | exact .inr ⟨nofun, rfl⟩

theorem reads_device : Reads .device isDevice fun c => .common (.device c) :=
  .of (fun _ => rfl) fun certif => by
    rcases certif with (c | c | c | c) | (c | c | c | c) | (c | c | c) | (c | c | c) <;>
      first | exact .inl ⟨c, rfl, rfl⟩ | exact .inr ⟨nofun, rfl⟩

theorem reads_revokedUser :
    Reads .revokedUser isRevokedUser fun c => .common (.revokedUser c) :=
  .of (fun _ => rfl) fun certif => by
    rcases certif with (c | c | c | c) | (c | c | c | c) | (c | c | c) | (c | c | c) <;>
      first | exact .inl ⟨c, rfl, rfl⟩ | exact .inr ⟨nofun, rfl⟩

theorem reads_userUpdate : Reads .userUpdate isUserUpdate fun c => .common (.userUpdate c) :=
  .of (fun _ => rfl) fun certif => by
    rcases certif with (c | c | c | c) | (c | c | c | c) | (c | c | c) | (c | c | c) <;>
      first | exact .inl ⟨c, rfl, rfl⟩ | exact .inr ⟨nofun, rfl⟩

theorem reads_realmRole : Reads .realmRole isRealmRole fun c => .realm (.role c) :=
  .of (fun _ => rfl) fun certif => by
    rcases certif with (c | c | c | c) | (c | c | c | c) | (c | c | c) | (c | c | c) <;>
      first | exact .inl ⟨c, rfl, rfl⟩ | exact .inr ⟨nofun, rfl⟩

theorem reads_realmKeyRotation :
    Reads .realmKeyRotation isRealmKeyRotation fun c => .realm (.keyRotation c) :=
  .of (fun _ => rfl) fun certif => by
    rcases certif with (c | c | c | c) | (c | c | c | c) | (c | c | c) | (c | c | c) <;>
      first | exact .inl ⟨c, rfl, rfl⟩ | exact .inr ⟨nofun, rfl⟩

theorem reads_sequesterAuthority :
    Reads .sequesterAuthority isSequesterAuthority fun c => .sequester (.authority c) :=
  .of (fun _ => rfl) fun certif => by
    rcases certif with (c | c | c | c) | (c | c | c | c) | (c | c | c) | (c | c | c) <;>
      first | exact .inl ⟨c, rfl, rfl⟩ | exact .inr ⟨nofun, rfl⟩

theorem reads_sequesterService :
    Reads .sequesterService isSequesterService fun c => .sequester (.service c) :=
  .of (fun _ => rfl) fun certif => by
    rcases certif with (c | c | c | c) | (c | c | c | c) | (c | c | c) | (c | c | c) <;>
      first | exact .inl ⟨c, rfl, rfl⟩ | exact .inr ⟨nofun, rfl⟩

theorem reads_sequesterRevokedService :
    Reads .sequesterRevokedService isSequesterRevokedService fun c => .sequester (.revokedService c) :=
  .of (fun _ => rfl) fun certif => by
    rcases certif with (c | c | c | c) | (c | c | c | c) | (c | c | c) | (c | c | c) <;>
      first | exact .inl ⟨c, rfl, rfl⟩ | exact .inr ⟨nofun, rfl⟩

theorem reads_shamirRecoveryBrief :
    Reads .shamirRecoveryBrief isShamirRecoveryBrief fun c => .shamirRecovery (.brief c) :=
  .of (fun _ => rfl) fun certif => by
    rcases certif with (c | c | c | c) | (c | c | c | c) | (c | c | c) | (c | c | c) <;>
      first | exact .inl ⟨c, rfl, rfl⟩ | exact .inr ⟨nofun, rfl⟩

theorem reads_shamirRecoveryShare :
    Reads .shamirRecoveryShare isShamirRecoveryShare fun c => .shamirRecovery (.share c) :=
  .of (fun _ => rfl) fun certif => by
    rcases certif with (c | c | c | c) | (c | c | c | c) | (c | c | c) | (c | c | c) <;>
      first | exact .inl ⟨c, rfl, rfl⟩ | exact .inr ⟨nofun, rfl⟩

theorem reads_shamirRecoveryDeletion :
    Reads .shamirRecoveryDeletion isShamirRecoveryDeletion fun c => .shamirRecovery (.deletion c) :=
  .of (fun _ => rfl) fun certif => by
    rcases certif with (c | c | c | c) | (c | c | c | c) | (c | c | c) | (c | c | c) <;>
      first | exact .inl ⟨c, rfl, rfl⟩ | exact .inr ⟨nofun, rfl⟩

theorem selects_user (id : UserID) :
    Selects (userCertificate id) isUser (fun c => .common (.user c)) (fun c => c.userId = id) :=
  reads_user.filter1 fun _ => sqlEq_bytes.trans userUuid_inj

theorem selects_device (id : DeviceID) :
    Selects (deviceCertificate id) isDevice (fun c => .common (.device c))
      (fun c => c.deviceId = id) :=
  reads_device.filter1 fun _ => sqlEq_bytes.trans deviceUuid_inj

theorem selects_revokedUser (id : UserID) :
    Selects (revokedUserCertificate id) isRevokedUser (fun c => .common (.revokedUser c))
      (fun c => c.userId = id) :=
  reads_revokedUser.filter1 fun _ => sqlEq_bytes.trans userUuid_inj

theorem selects_userUpdate (id : UserID) :
    Selects (userUpdateCertificates id) isUserUpdate (fun c => .common (.userUpdate c))
      (fun c => c.userId = id) :=
  reads_userUpdate.filter1 fun _ => sqlEq_bytes.trans userUuid_inj

theorem selects_realmRoles (id : VlobID) :
    Selects (realmRoleCertificates id) isRealmRole (fun c => .realm (.role c))
      (fun c => c.realmId = id) :=
  reads_realmRole.filter1 fun _ => sqlEq_bytes.trans realmUuid_inj

theorem selects_realmRole (id : VlobID) (user : UserID) :
    Selects (realmRoleCertificate id user) isRealmRole (fun c => .realm (.role c))
      (fun c => c.realmId = id ∧ c.userId = user) := by
  apply reads_realmRole.bothFilters
  intro c
  rw [Bool.and_eq_true]
  exact and_congr (sqlEq_bytes.trans realmUuid_inj) (sqlEq_bytes.trans userUuid_inj)

theorem realmNames_selects (id : VlobID) :
    (realmNameCertificates id).selects certif = true ↔
      ∃ c, certif = .realm (.name c) ∧ c.realmId = id := by
  rcases certif with (c | c | c | c) | (c | c | c | c) | (c | c | c) | (c | c | c) <;>
    simp [selects, realmNameCertificates, Certificate.type, Certificate.filters, sqlEq,
      realmUuid_inj]

theorem selects_keyRotations (id : VlobID) :
    Selects (realmKeyRotationCertificates id) isRealmKeyRotation (fun c => .realm (.keyRotation c))
      (fun c => c.realmId = id) :=
  reads_realmKeyRotation.filter1 fun _ => sqlEq_bytes.trans realmUuid_inj

theorem selects_sequesterAuthority :
    Selects sequesterAuthorityCertificate isSequesterAuthority (fun c => .sequester (.authority c))
      (fun _ => True) :=
  reads_sequesterAuthority.noFilter

theorem selects_sequesterServices :
    Selects sequesterServiceCertificates isSequesterService (fun c => .sequester (.service c))
      (fun _ => True) :=
  reads_sequesterService.noFilter

theorem selects_shamirBriefs :
    Selects shamirRecoveryBriefCertificates isShamirRecoveryBrief
      (fun c => .shamirRecovery (.brief c)) (fun _ => True) :=
  reads_shamirRecoveryBrief.noFilter

theorem selects_userShamirBriefs (id : UserID) :
    Selects (userShamirRecoveryBriefCertificates id) isShamirRecoveryBrief
      (fun c => .shamirRecovery (.brief c)) (fun c => c.userId = id) :=
  reads_shamirRecoveryBrief.filter1 fun _ => sqlEq_bytes.trans userUuid_inj

theorem selects_shamirShares (user recipient : UserID) :
    Selects (userRecipientShamirRecoveryShareCertificates user recipient) isShamirRecoveryShare
      (fun c => .shamirRecovery (.share c))
      (fun c => c.userId = user ∧ c.recipient = recipient) := by
  apply reads_shamirRecoveryShare.bothFilters
  intro c
  rw [Bool.and_eq_true]
  exact and_congr (sqlEq_bytes.trans userUuid_inj) (sqlEq_bytes.trans userUuid_inj)

theorem selects_shamirDeletions (id : UserID) :
    Selects (userShamirRecoveryDeletionCertificates id) isShamirRecoveryDeletion
      (fun c => .shamirRecovery (.deletion c)) (fun c => c.setupToDeleteUserId = id) :=
  reads_shamirRecoveryDeletion.filter1 fun _ => sqlEq_bytes.trans userUuid_inj

end ParsecCloud.Certif.Storage
