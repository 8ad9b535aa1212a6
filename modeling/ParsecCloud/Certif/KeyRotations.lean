import ParsecCloud.Certif.RealmHistory

/- The numbering of the key rotations of a realm. It is looked at when the keys are used, and
   not when a key rotation certificate is accepted. -/
namespace ParsecCloud.Certif
open Rust HashMap Storage Journal Runs Samples

variable {device : LocalDevice} {store : Store} {rows storage : Storage} {id : VlobID}

/-- A key rotation comes with the index after those of the ones already stored. -/
def NextKeyIndex (rows : Storage) (certif : Certificate) : Prop :=
  ∀ rotation, certif = .realm (.keyRotation rotation) →
    rotation.keyIndex = (rows.keyRotations rotation.realmId).length + 1

def Numbered (certifs : List RealmKeyRotationCertificate) : Prop :=
  certifs.map (·.keyIndex) = List.range' 1 certifs.length

theorem keyRotations_append (rows : Storage) (added : Certificate) (id : VlobID) :
    keyRotations (rows ++ [added]) id = rows.keyRotations id ++ keyRotations [added] id := by
  simp [keyRotations]

theorem keyRotations_numbered (met : Admitted NextKeyIndex storage) (id : VlobID) :
    Numbered (storage.keyRotations id) := by
  induction storage using List.reverseRecOn with
  | nil => rfl
  | append_singleton rows added ih =>
    obtain ⟨earlier, next⟩ := admitted_concat.mp met
    rw [keyRotations_append]
    by_cases rotates : ∃ rotation, added = .realm (.keyRotation rotation) ∧ rotation.realmId = id
    · obtain ⟨rotation, rfl, rfl⟩ := rotates
      have only : keyRotations [.realm (.keyRotation rotation)] rotation.realmId = [rotation] := by
        simp [keyRotations, isRealmKeyRotation]
      have index := next rotation rfl
      have known := ih earlier
      unfold Numbered at known ⊢
      rw [only, List.map_append, known, List.length_append, List.length_singleton,
        List.range'_concat]
      simp [index, Nat.add_comm]
    · have none : keyRotations [added] id = [] := by
        unfold keyRotations
        rw [List.filter_eq_nil_iff]
        intro rotation member same
        obtain ⟨row, stored, found⟩ := List.mem_filterMap.mp member
        cases List.mem_singleton.mp stored
        exact rotates ⟨rotation, (selects_keyRotations id).wrap_expected _ _ found,
          of_decide_eq_true same⟩
      rw [none, List.append_nil]
      exact ih earlier

theorem filter_initial {α : Type} {R : α → α → Prop} {keeps : α → Bool} {list : List α}
    (ordered : list.Pairwise R) (closed : ∀ a b, R a b → keeps b = true → keeps a = true) :
    list.filter keeps <+: list := by
  induction list with
  | nil => exact List.prefix_rfl
  | cons a rest ih =>
    rw [List.pairwise_cons] at ordered
    by_cases kept : keeps a = true
    · rw [List.filter_cons_of_pos kept]
      exact List.cons_prefix_cons.mpr ⟨rfl, ih ordered.2⟩
    · have none : rest.filter keeps = [] := by
        rw [List.filter_eq_nil_iff]
        exact fun b member kept' => kept (closed a b (ordered.1 b member) kept')
      rw [List.filter_cons_of_neg kept, none]
      exact List.nil_prefix

theorem Numbered.initial {certifs all : List RealmKeyRotationCertificate}
    (head : certifs <+: all) (numbered : Numbered all) : Numbered certifs := by
  obtain ⟨rest, rfl⟩ := head
  unfold Numbered at numbered ⊢
  rw [List.map_append, List.length_append, ← List.range'_append_1] at numbered
  exact (List.append_inj numbered (by simp)).1

theorem Numbered.check {certifs : List RealmKeyRotationCertificate} (numbered : Numbered certifs) :
    ((certifs.zipIdx 1).all fun (certif, expected) => certif.keyIndex = expected) = true := by
  rw [List.all_eq_true]
  rintro ⟨certif, expected⟩ member
  obtain ⟨first, found⟩ := List.mk_mem_zipIdx_iff_le_and_getElem?_sub.mp member
  have index : (certifs.map (·.keyIndex))[expected - 1]? = some certif.keyIndex := by
    rw [List.getElem?_map, found]
    rfl
  rw [numbered] at index
  obtain ⟨_, same⟩ := List.getElem?_eq_some_iff.mp index
  rw [List.getElem_range'] at same
  exact decide_eq_true (by omega)

theorem Numbered.getLast {certifs : List RealmKeyRotationCertificate} (numbered : Numbered certifs)
    {last : RealmKeyRotationCertificate} (found : certifs.getLast? = some last) :
    last.keyIndex = certifs.length := by
  obtain ⟨earlier, rfl⟩ := List.getLast?_eq_some_iff.mp found
  unfold Numbered at numbered
  rw [List.map_append, List.length_append, ← List.range'_append_1] at numbered
  have same : [last.keyIndex] = [1 + earlier.length] := (List.append_inj numbered (by simp)).2
  rw [List.length_append, List.length_singleton, Nat.add_comm]
  exact List.singleton_inj.mp same

section Reading
variable (history : Admitted Accepted storage)

include history

theorem keyRotations_ordered (id : VlobID) :
    (storage.keyRotations id).Pairwise fun a b => a.timestamp < b.timestamp := by
  have ordered : (storage.filterMap isRealmKeyRotation).Pairwise fun a b =>
      a.realmId = b.realmId → a.timestamp < b.timestamp := by
    rw [List.pairwise_filterMap]
    refine (realm_ordered history).imp fun known a found b found' same => ?_
    cases (selects_keyRotations id).wrap_expected _ _ found
    cases (selects_keyRotations id).wrap_expected _ _ found'
    exact known _ _ rfl rfl same
  unfold keyRotations
  apply (ordered.filter _).imp_of_mem
  intro a b first second known
  have ofRealm := of_decide_eq_true (List.mem_filter.mp first).2
  have ofRealm' := of_decide_eq_true (List.mem_filter.mp second).2
  exact known (ofRealm.trans ofRealm'.symm)

/-- What is read of well numbered key rotations is never taken as corrupted. -/
theorem getRealmKeyRotationCertificates_ok (numbered : Numbered (storage.keyRotations id))
    (upTo : UpTo) :
    storage.getRealmKeyRotationCertificates upTo id
      = .ok ((storage.keyRotations id).filter fun certif => upTo.covers certif.timestamp) := by
  unfold getRealmKeyRotationCertificates
  rw [getMultiple_realm history (selects_keyRotations id) upTo]
  have read : (storage.filterMap isRealmKeyRotation).filter (fun a =>
      (RealmCertificate.keyRotation a).realmId = id ∧
        upTo.covers (RealmCertificate.keyRotation a).timestamp) =
      (storage.keyRotations id).filter fun certif => upTo.covers certif.timestamp := by
    unfold keyRotations
    rw [List.filter_filter]
    apply List.filter_congr
    intro certif _
    rw [Bool.decide_and, Bool.and_comm, Bool.decide_coe]
    rfl
  rw [read]
  have closed : ∀ a b : RealmKeyRotationCertificate, a.timestamp < b.timestamp →
      upTo.covers b.timestamp = true → upTo.covers a.timestamp = true := by
    intro a b older covered
    cases upTo with
    | current => rfl
    | timestamp limit =>
      exact covers_timestamp.mpr (le_trans (le_of_lt older) (covers_timestamp.mp covered))
  exact if_pos (numbered.initial (filter_initial (keyRotations_ordered history id) closed)).check

end Reading

section Loading
variable {decryptsCanary : KeyDerivation → List Byte → Bool}

theorem getDeviceVerifyKeyAndUserId_notInternal {upTo : UpTo} {author : DeviceID}
    {message : String} :
    store.getDeviceVerifyKeyAndUserId upTo author ≠ .error (.internal message) := by
  intro failed
  unfold Store.getDeviceVerifyKeyAndUserId at failed
  split at failed
  · split at failed
    · split at failed <;> cases failed
    · cases failed
  · cases found : store.storage.getDeviceCertificate upTo author with
    | ok certif =>
      rw [found] at failed
      cases failed
    | error error =>
      rw [found] at failed
      cases failed
      exact getCertificate_internal _ ((selects_device author).getOne_error found)

theorem checkKeysBundle_notInternal {accessKey : SecretKey} {bundle : RealmKeysBundle}
    {certif : RealmKeyRotationCertificate} {keyRotations : List RealmKeyRotationCertificate}
    {message : String} :
    checkKeysBundle decryptsCanary id accessKey bundle certif keyRotations
      ≠ .error (.internal message) := by
  intro failed
  unfold checkKeysBundle at failed
  split at failed
  · cases failed
  · split at failed
    · cases failed
    · split at failed
      · cases failed
      · dsimp only at failed
        split at failed <;> cases failed

theorem validateKeysBundle_notInternal {keysBundle : EncryptedKeysBundle}
    {access : EncryptedKeysBundleAccess} {certif : RealmKeyRotationCertificate}
    {keyRotations : List RealmKeyRotationCertificate} {store' : Store} {message : String} :
    validateKeysBundle decryptsCanary device id keysBundle access certif keyRotations store
      ≠ (.error (.internal message), store') := by
  intro failed
  unfold validateKeysBundle at failed
  split at failed
  · cases failed
  · cases failed
  · split at failed
    · cases failed
    · split at failed
      · cases failed
      · split at failed
        · rename_i lookup
          exact getDeviceVerifyKeyAndUserId_notInternal lookup
        · cases failed
        · split at failed
          · cases failed
          · exact checkKeysBundle_notInternal (Prod.mk.inj failed).1

def isCorrupted (message : String) : Prop :=
  message = missingKeyRotations ∨ message = unexpectedKeyIndex

theorem loadLastRealmKeysBundle_notCorrupted (sound : Authentic store)
    (numbered : Numbered (store.storage.keyRotations id)) (server : VlobID → Nat → KeysBundleRep)
    {message : String} (corrupted : isCorrupted message) :
    (loadLastRealmKeysBundle decryptsCanary device server id store).1
      ≠ .error (.internal message) := by
  have response : ∀ message, isCorrupted message → message ≠ "Unexpected server response" := by
    rintro message (rfl | rfl) <;> decide
  intro failed
  unfold loadLastRealmKeysBundle at failed
  rw [getRealmKeyRotationCertificates_ok sound.history numbered .current] at failed
  simp only [covers_current, List.filter_true] at failed
  split at failed
  · cases failed
  · split at failed
    · cases failed
    · rename_i last found
      rw [if_neg (not_not.mpr (numbered.getLast found))] at failed
      split at failed
      · cases failed
      · cases failed
      · cases failed
      · cases failed
        exact response _ corrupted rfl
      · cases failed
        exact response _ corrupted rfl
      · split at failed
        · rename_i run
          cases failed
          exact validateKeysBundle_notInternal run
        · cases failed

theorem getDeviceVerifyKeyAndUserId_total (sound : Authentic store) {date : DateTime} {user : UserID}
    {author : DeviceID} (known : HasDevice store.storage date user author) :
    ∃ key user store', store.getDeviceVerifyKeyAndUserId (.timestamp date) author
      = .ok ((key, user), store') := by
  obtain ⟨certif, stored, same, _, early⟩ := known
  unfold Store.getDeviceVerifyKeyAndUserId
  split
  · rename_i cached
    obtain ⟨other, stored', same', entry⟩ := sound.deviceKey author _ cached
    cases entry
    cases devices_unique sound.history certif other stored stored' (same.trans same'.symm)
    exact ⟨_, _, _, if_neg (not_lt.mpr early)⟩
  · cases found : store.storage.getDeviceCertificate (.timestamp date) author with
    | ok certif => exact ⟨_, _, _, rfl⟩
    | error error =>
      have nothing := (getCertificate_error ((selects_device author).getOne_error found)).1
      have selected := (selects_device author).mem_select.mpr
        ⟨stored, same, covers_timestamp.mpr early⟩
      rw [nothing] at selected
      cases selected

def bundleOf (certif : RealmKeyRotationCertificate) (positive : certif.keyIndex ≠ 0) :
    RealmKeysBundle where
  author := certif.author
  timestamp := certif.timestamp
  realmId := certif.realmId
  keys := List.replicate certif.keyIndex ⟨0⟩
  notEmpty := by simpa [List.replicate_eq_nil_iff] using positive

theorem loadLastRealmKeysBundle_usable (sound : Authentic store)
    (numbered : Numbered (store.storage.keyRotations id))
    (rotated : store.storage.keyRotations id ≠ []) :
    ∃ server realmKeys,
      (loadLastRealmKeysBundle decryptsCanary device server id store).1 = .ok realmKeys := by
  obtain ⟨last, found⟩ : ∃ last, (store.storage.keyRotations id).getLast? = some last :=
    ⟨_, List.getLast?_eq_some_getLast rotated⟩
  have index := numbered.getLast found
  have positive : last.keyIndex ≠ 0 := by
    rw [index]
    exact fun none => rotated (List.length_eq_zero_iff.mp none)
  have stored : .realm (.keyRotation last) ∈ store.storage := by
    have member := List.mem_of_getLast? found
    obtain ⟨row, stored, read⟩ := List.mem_filterMap.mp (List.mem_filter.mp member).1
    cases (selects_keyRotations id).wrap_expected row last read
    exact stored
  obtain ⟨before, within, accepted⟩ := sound.history.mem stored
  obtain ⟨user, ⟨signer, signed, isSigner⟩, _⟩ := accepted.author_known rfl
  obtain ⟨key, owner, seen, lookup⟩ :=
    getDeviceVerifyKeyAndUserId_total sound ⟨signer, within signed, isSigner⟩
  refine ⟨fun _ _ => .ok ⟨⟨0⟩, .certificate (bundleOf last positive) key⟩ (.access ⟨0⟩), ?_⟩
  unfold loadLastRealmKeysBundle
  rw [getRealmKeyRotationCertificates_ok sound.history numbered .current]
  simp only [covers_current, List.filter_true, found]
  split
  · exact ⟨_, rfl⟩
  · rw [if_neg (not_not.mpr index)]
    have checked : checkKeysBundle decryptsCanary id ⟨0⟩ (bundleOf last positive) last
        (store.storage.keyRotations id) = .ok ⟨id, List.zipWith (validateKey decryptsCanary)
          (bundleOf last positive).keys (store.storage.keyRotations id), ⟨0⟩⟩ := by
      simp [checkKeysBundle, bundleOf, RealmKeysBundle.keyIndex, index]
    have valid : validateKeysBundle decryptsCanary device id
        ⟨⟨0⟩, .certificate (bundleOf last positive) key⟩ (.access ⟨0⟩) last
        (store.storage.keyRotations id) store = (.ok ⟨id, List.zipWith (validateKey decryptsCanary)
          (bundleOf last positive).keys (store.storage.keyRotations id), ⟨0⟩⟩, seen) := by
      have lookup : store.getDeviceVerifyKeyAndUserId
          (.timestamp (bundleOf last positive).timestamp) (bundleOf last positive).author
          = .ok ((key, owner), seen) := lookup
      simp [validateKeysBundle, Signed.unsecureLoad, lookup, checked]
    simp only [valid]
    exact ⟨_, rfl⟩

end Loading

/-- The key rotations of a realm are numbered from 1 on, and its keys can be loaded. -/
structure KeysUsable (device : LocalDevice) (store : Store) (id : VlobID) : Prop where
  ordered : (store.storage.keyRotations id).Pairwise fun a b => a.timestamp < b.timestamp
  numbered : (store.storage.keyRotations id).map (·.keyIndex) =
    List.range' 1 (store.storage.keyRotations id).length
  readable : ∀ upTo, ∃ certifs,
    store.storage.getRealmKeyRotationCertificates upTo id = .ok certifs
  notCorrupted : ∀ decryptsCanary server message, isCorrupted message →
    (loadLastRealmKeysBundle decryptsCanary device server id store).1
      ≠ .error (.internal message)
  loadable : store.storage.keyRotations id ≠ [] → ∀ decryptsCanary, ∃ server realmKeys,
    (loadLastRealmKeysBundle decryptsCanary device server id store).1 = .ok realmKeys

theorem key_rotations_numbered (reached : Reached device NextKeyIndex store) (id : VlobID) :
    KeysUsable device store id := by
  obtain ⟨sound, met⟩ := reached.sound
  have numbered := keyRotations_numbered met id
  exact ⟨keyRotations_ordered sound.history id, numbered,
    fun upTo => ⟨_, getRealmKeyRotationCertificates_ok sound.history numbered upTo⟩,
    fun _ server _ corrupted => loadLastRealmKeysBundle_notCorrupted sound numbered server corrupted,
    fun rotated _ => loadLastRealmKeysBundle_usable sound numbered rotated⟩

namespace Samples

def rotated (timestamp : DateTime) (keyIndex : Nat) : Signed RealmCertificate :=
  .certificate (.keyRotation ⟨alice1, timestamp, wksp, keyIndex, []⟩) ⟨11⟩

def rotations (second : Nat) : Batch :=
  batch enrollment [role alice1 3 alice (some .owner), rotated 4 1, rotated 5 second]

end Samples

set_option maxRecDepth 10000 in
theorem key_rotations_numbered_two : ∃ store, Reached self NextKeyIndex store ∧
    store.storage = (rotations 2).arrivals ∧ KeysUsable self store wksp := by
  have admits : Admits NextKeyIndex (Store.start []) (rotations 2) := by
    simp [Admits, admitted_cons, admitted_nil, NextKeyIndex, Batch.arrivals, Signed.certificates,
      Store.start, rotations, rotated, batch, role, enrollment, keyRotations, isRealmKeyRotation,
      List.filterMap_cons]
  obtain ⟨store, reached, stored⟩ := reached_batch self admits ⟨_, _, rfl, rfl⟩
  exact ⟨store, reached, stored, key_rotations_numbered reached wksp⟩

set_option maxRecDepth 10000 in
/-- A key rotation that skips an index is accepted. -/
theorem key_rotation_skips_index : ∃ store, Reachable self store ∧ ¬ KeysUsable self store wksp := by
  obtain ⟨store, reached, stored⟩ := reachable_batch self (rotations 3) ⟨_, _, rfl, rfl⟩
  refine ⟨store, reached, fun usable => ?_⟩
  have numbered := usable.numbered
  rw [stored] at numbered
  exact absurd numbered (by decide)

end ParsecCloud.Certif
