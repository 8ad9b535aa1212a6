import ParsecCloud.Certif.CacheRuns
import ParsecCloud.Certif.KeyRotations
import ParsecCloud.Certif.ManifestValidate

/- The keys of a realm as the cache has them: each was checked against the key rotation of its
   index, and every key rotation is still one of the store. -/
namespace ParsecCloud.Certif
open Rust HashMap GetCertificateQuery Storage Journal Runs

variable {device : LocalDevice} {decryptsCanary : KeyDerivation → List Byte → Bool}
variable {store store' : Store} {storage : Storage} {id : VlobID}

/-- The keys of a bundle, checked against these key rotations. -/
structure ValidatedBy (decryptsCanary : KeyDerivation → List Byte → Bool)
    (rotations : List RealmKeyRotationCertificate) (keys : List ValidatedKey) : Prop where
  numbered : Numbered rotations
  checked : ∃ bundle, keys = List.zipWith (validateKey decryptsCanary) bundle rotations

def CachedKeys (decryptsCanary : KeyDerivation → List Byte → Bool) (store : Store) : Prop :=
  ∀ id realmKeys, store.cache.perRealmKeys.lookup id = some realmKeys →
    ValidatedBy decryptsCanary (store.storage.keyRotations id) realmKeys.keys

theorem numbered_of_check {certifs : List RealmKeyRotationCertificate}
    (check : ((certifs.zipIdx 1).all fun (certif, expected) => certif.keyIndex = expected) = true) :
    Numbered certifs := by
  unfold Numbered
  apply List.ext_getElem
  · simp
  · intro index small _
    have small : index < certifs.length := by simpa using small
    rw [List.getElem_map, List.getElem_range', Nat.one_mul]
    rw [List.all_eq_true] at check
    have member : (certifs[index], 1 + index) ∈ certifs.zipIdx 1 := by
      rw [List.mk_mem_zipIdx_iff_le_and_getElem?_sub]
      exact ⟨by omega, by simp [small]⟩
    exact of_decide_eq_true (check _ member)

theorem Numbered.getElem? {certifs : List RealmKeyRotationCertificate} (numbered : Numbered certifs)
    {index : Nat} {certif : RealmKeyRotationCertificate} (found : certifs[index]? = some certif) :
    certif.keyIndex = index + 1 := by
  have index_eq : (certifs.map (·.keyIndex))[index]? = some certif.keyIndex := by
    rw [List.getElem?_map, found]
    rfl
  rw [numbered] at index_eq
  obtain ⟨_, same⟩ := List.getElem?_eq_some_iff.mp index_eq
  rw [List.getElem_range'] at same
  omega

theorem validateKey_valid {key found : KeyDerivation} {certif : RealmKeyRotationCertificate}
    {timestamp : DateTime}
    (valid : validateKey decryptsCanary key certif = .valid found timestamp) :
    key = found ∧ decryptsCanary key certif.keyCanary = true := by
  unfold validateKey at valid
  split at valid
  · rename_i decrypts
    cases valid
    exact ⟨rfl, decrypts⟩
  · cases valid

/-- A key found by its index decrypts the canary of the key rotation of that index. -/
theorem ValidatedBy.keyFromIndex {rotations : List RealmKeyRotationCertificate}
    {realmKeys : RealmKeys} {keyIndex : Nat} {key : KeyDerivation}
    (validated : ValidatedBy decryptsCanary rotations realmKeys.keys)
    (found : realmKeys.keyFromIndex keyIndex none = .ok key) :
    ∃ certif ∈ rotations, certif.keyIndex = keyIndex ∧
      decryptsCanary key certif.keyCanary = true := by
  unfold RealmKeys.keyFromIndex at found
  split at found
  · cases found
  · rename_i index
    split at found
    · cases found
    · cases found
    · rename_i read
      cases found
      obtain ⟨bundle, checked⟩ := validated.checked
      rw [checked] at read
      obtain ⟨known, certif, _, rotation, valid⟩ := List.getElem?_zipWith_eq_some.mp read
      obtain ⟨rfl, decrypts⟩ := validateKey_valid valid
      exact ⟨certif, List.mem_of_getElem? rotation, validated.numbered.getElem? rotation, decrypts⟩

/-- The keys in the cache were there before, and no key rotation was added since. -/
def KeysRemain (store store' : Store) : Prop :=
  ∀ id realmKeys, store'.cache.perRealmKeys.lookup id = some realmKeys →
    store.cache.perRealmKeys.lookup id = some realmKeys ∧
      store'.storage.keyRotations id = store.storage.keyRotations id

theorem KeysRemain.refl (store : Store) : KeysRemain store store :=
  fun _ _ cached => ⟨cached, rfl⟩

theorem KeysRemain.trans {store'' : Store} (first : KeysRemain store store')
    (second : KeysRemain store' store'') : KeysRemain store store'' := by
  intro id realmKeys cached
  obtain ⟨cached', same⟩ := second id realmKeys cached
  obtain ⟨cached'', same'⟩ := first id realmKeys cached'
  exact ⟨cached'', same.trans same'⟩

theorem KeysRemain.cachedKeys (remain : KeysRemain store store')
    (cached : CachedKeys decryptsCanary store) : CachedKeys decryptsCanary store' := by
  intro id realmKeys found
  obtain ⟨known, same⟩ := remain id realmKeys found
  rw [same]
  exact cached id realmKeys known

theorem Seen.keysRemain (seen : Seen store store') : KeysRemain store store' := by
  intro id realmKeys cached
  rw [seen.realmKeys] at cached
  rw [seen.storage]
  exact ⟨cached, Eq.refl _⟩

section Adding

theorem keysRemain_append {seen : Store} {certif : Certificate} (unchanged : Seen store seen)
    (storage : store'.storage = seen.storage ++ [certif])
    (cache : store'.cache.perRealmKeys = seen.cache.perRealmKeys)
    (other : ∀ rotation, certif ≠ .realm (.keyRotation rotation)) : KeysRemain store store' := by
  apply unchanged.keysRemain.trans
  intro id realmKeys cached
  rw [cache] at cached
  rw [storage]
  exact ⟨cached, keyRotations_append_other fun rotation same => absurd same (other rotation)⟩

theorem addCommon_keysRemain {signed : Signed CommonCertificate}
    (run : addCommon device store signed = .ok store') : KeysRemain store store' := by
  obtain ⟨⟨cooked, seen⟩, checked, run⟩ := bind_eq_ok.mp run
  cases run
  obtain ⟨_, unchanged⟩ := validateCommonCertificate_seen _ checked
  apply keysRemain_append unchanged rfl _ fun rotation same => by cases same
  cases cooked with
  | user certif =>
    exact (setProfile_other _ _ _ _).2.2.2.2.trans (updateTimestampCache_perRealmKeys _ _)
  | device certif => exact updateTimestampCache_perRealmKeys _ _
  | userUpdate certif =>
    exact (setProfile_other _ _ _ _).2.2.2.2.trans (updateTimestampCache_perRealmKeys _ _)
  | revokedUser certif => exact updateTimestampCache_perRealmKeys _ _

theorem addSequester_keysRemain {signed : SignedSequester}
    (run : addSequester device store signed = .ok store') : KeysRemain store store' := by
  obtain ⟨⟨cooked, seen⟩, checked, run⟩ := bind_eq_ok.mp run
  cases run
  obtain ⟨_, unchanged⟩ := validateSequesterCertificate_seen _ checked
  exact keysRemain_append unchanged rfl (updateTimestampCache_perRealmKeys _ _)
    fun rotation same => by cases same

theorem addShamirRecovery_keysRemain {state state' : NextShamirCertifExpect × Store}
    {signed : Signed ShamirRecoveryCertificate}
    (run : addShamirRecovery device state signed = .ok state') : KeysRemain state.2 state'.2 := by
  obtain ⟨⟨cooked, seen⟩, checked, run⟩ := bind_eq_ok.mp run
  obtain ⟨expected, _, run⟩ := bind_eq_ok.mp run
  cases run
  obtain ⟨_, unchanged⟩ := validateShamirRecoveryCertificate_seen _ checked
  exact keysRemain_append unchanged rfl (updateTimestampCache_perRealmKeys _ _)
    fun rotation same => by cases same

theorem addRealm_keysRemain {signed : Signed RealmCertificate}
    (run : addRealm id store signed = .ok store') : KeysRemain store store' := by
  obtain ⟨⟨cooked, seen⟩, checked, run⟩ := bind_eq_ok.mp run
  cases run
  obtain ⟨_, unchanged⟩ := validateRealmCertificate_seen _ checked
  cases cooked with
  | role certif =>
    exact keysRemain_append unchanged rfl (updateTimestampCache_perRealmKeys _ _)
      fun rotation same => by cases same
  | name certif =>
    exact keysRemain_append unchanged rfl (updateTimestampCache_perRealmKeys _ _)
      fun rotation same => by cases same
  | archiving certif =>
    exact keysRemain_append unchanged rfl (updateTimestampCache_perRealmKeys _ _)
      fun rotation same => by cases same
  | keyRotation certif =>
    -- the keys of the realm are forgotten with its new key rotation
    apply unchanged.keysRemain.trans
    intro other realmKeys cached
    have cached : (seen.cache.perRealmKeys.erase certif.realmId).lookup other = some realmKeys := by
      rw [← updateTimestampCache_perRealmKeys seen.cache]
      exact cached
    have elsewhere : certif.realmId ≠ other := by
      rintro rfl
      rw [Finmap.lookup_erase] at cached
      cases cached
    rw [Finmap.lookup_erase_ne (Ne.symm elsewhere)] at cached
    exact ⟨cached, keyRotations_append_other fun rotation same => by cases same; exact elsewhere⟩

end Adding

theorem getCurrentSelfProfile_keysRemain {profile : UserProfile}
    (read : store.getCurrentSelfProfile device = .ok (profile, store')) :
    KeysRemain store store' := by
  unfold Store.getCurrentSelfProfile at read
  split at read
  · cases read
    exact .refl _
  · obtain ⟨known, _, read⟩ := bind_eq_ok.mp read
    cases read
    exact fun _ _ cached => ⟨cached, rfl⟩

theorem addCertificatesBatch_keysRemain {batch : Batch} {outcome : MaybeRedactedSwitch}
    (run : addCertificatesBatch device batch store = .ok (outcome, store')) :
    KeysRemain store store' := by
  rcases addCertificatesBatch_cases run with ⟨_, rfl⟩ | ⟨_, known, added, profile, topics, last⟩
  · exact .refl _
  · have topics : KeysRemain known added :=
      addTopics_relates (R := fun _ => KeysRemain) .refl (fun _ _ _ _ _ => .trans)
        (fun _ _ _ => addSequester_keysRemain) (fun _ _ _ => addCommon_keysRemain)
        (fun _ _ _ _ => addRealm_keysRemain) (fun _ _ _ => addShamirRecovery_keysRemain) topics
    have remain : KeysRemain store added := (getLastTimestamps_seen.keysRemain.trans
      (getCurrentSelfProfile_keysRemain profile)).trans topics
    rcases last with rfl | ⟨_, again⟩ | ⟨_, rfl⟩
    · exact remain
    · exact remain.trans (getCurrentSelfProfile_keysRemain again)
    · intro id realmKeys cached
      cases cached

theorem checkKeysBundle_validated {accessKey : SecretKey} {bundle : RealmKeysBundle}
    {certif : RealmKeyRotationCertificate} {keyRotations : List RealmKeyRotationCertificate}
    {realmKeys : RealmKeys}
    (checked : checkKeysBundle decryptsCanary id accessKey bundle certif keyRotations
      = .ok realmKeys) :
    realmKeys.keys = List.zipWith (validateKey decryptsCanary) bundle.keys keyRotations := by
  unfold checkKeysBundle at checked
  split at checked
  · cases checked
  · split at checked
    · cases checked
    · split at checked
      · cases checked
      · dsimp only at checked
        split at checked
        · cases checked
          rfl
        · cases checked

section Loading
variable (sound : Authentic store)

include sound

theorem getRealmKeyRotationCertificates_all {certifs : List RealmKeyRotationCertificate}
    (read : store.storage.getRealmKeyRotationCertificates .current id = .ok certifs) :
    certifs = store.storage.keyRotations id ∧ Numbered certifs := by
  unfold getRealmKeyRotationCertificates at read
  obtain ⟨found, several, read⟩ := bind_eq_ok.mp read
  have all : (store.storage.filterMap isRealmKeyRotation).filter (fun a =>
      (RealmCertificate.keyRotation a).realmId = id ∧
        UpTo.current.covers (RealmCertificate.keyRotation a).timestamp) =
      store.storage.keyRotations id := by
    unfold keyRotations
    apply List.filter_congr
    intro certif _
    simp only [covers_current, and_true]
    rfl
  rw [getMultiple_realm sound.history (selects_keyRotations id) .current, all] at several
  cases several
  split at read
  · rename_i check
    cases read
    exact ⟨rfl, numbered_of_check check⟩
  · cases read

theorem validateKeysBundle_validated {keysBundle : EncryptedKeysBundle}
    {access : EncryptedKeysBundleAccess} {certif : RealmKeyRotationCertificate}
    {keyRotations : List RealmKeyRotationCertificate}
    {result : Except LoadLastKeysBundleError RealmKeys}
    (run : validateKeysBundle decryptsCanary device id keysBundle access certif keyRotations store
      = (result, store')) :
    Authentic store' ∧ KeysRemain store store' ∧ store'.storage = store.storage ∧
      ∀ realmKeys, result = .ok realmKeys → ∃ bundle,
        realmKeys.keys = List.zipWith (validateKey decryptsCanary) bundle keyRotations := by
  have refused : ∀ error, (Except.error error, store) = (result, store') →
      Authentic store' ∧ KeysRemain store store' ∧ store'.storage = store.storage ∧
        ∀ realmKeys, result = .ok realmKeys → ∃ bundle,
          realmKeys.keys = List.zipWith (validateKey decryptsCanary) bundle keyRotations := by
    intro error same
    cases same
    exact ⟨sound, .refl store, rfl, fun _ impossible => by cases impossible⟩
  unfold validateKeysBundle at run
  split at run
  · exact refused _ run
  · exact refused _ run
  · split at run
    · exact refused _ run
    · split at run
      · exact refused _ run
      · split at run
        · exact refused _ run
        · exact refused _ run
        · rename_i read
          obtain ⟨_, same, trusted, _⟩ := getDeviceVerifyKeyAndUserId_trusted sound.toTrusted read
          have sound' : Authentic _ := ⟨trusted, same ▸ sound.history⟩
          have remain := (getDeviceVerifyKeyAndUserId_seen read).keysRemain
          split at run
          · cases run
            exact ⟨sound', remain, same, fun _ impossible => by cases impossible⟩
          · cases run
            exact ⟨sound', remain, same, fun _ checked => ⟨_, checkKeysBundle_validated checked⟩⟩

theorem updateCacheForRealmKeys_cached {realmKeys : RealmKeys}
    (cached : CachedKeys decryptsCanary store)
    (validated : ValidatedBy decryptsCanary (store.storage.keyRotations id) realmKeys.keys) :
    (store.updateCacheForRealmKeys id realmKeys).2.storage = store.storage ∧
      Authentic (store.updateCacheForRealmKeys id realmKeys).2 ∧
      CachedKeys decryptsCanary (store.updateCacheForRealmKeys id realmKeys).2 ∧
      ValidatedBy decryptsCanary (store.storage.keyRotations id)
        (store.updateCacheForRealmKeys id realmKeys).1.keys := by
  have inserted : CachedKeys decryptsCanary { store with
      cache := { store.cache with
        perRealmKeys := store.cache.perRealmKeys.insert id realmKeys } } := by
    intro other found lookup
    rw [lookup_insert_ite] at lookup
    split at lookup
    · rename_i same
      cases lookup
      rw [same]
      exact validated
    · exact cached other found lookup
  unfold Store.updateCacheForRealmKeys
  dsimp only
  split
  · exact ⟨rfl, { sound with }, inserted, validated⟩
  · rename_i known lookup
    split
    · exact ⟨rfl, { sound with }, inserted, validated⟩
    · exact ⟨rfl, sound, cached, cached id known lookup⟩

end Loading

/-- What the certificates store keeps about the keys, beside the history of its certificates. -/
structure Kept (decryptsCanary : KeyDerivation → List Byte → Bool) (store : Store) : Prop where
  authentic : Authentic store
  cached : CachedKeys decryptsCanary store

theorem Kept.unchanged (kept : Kept decryptsCanary store) (authentic : Authentic store')
    (remain : KeysRemain store store') : Kept decryptsCanary store' :=
  ⟨authentic, remain.cachedKeys kept.cached⟩

theorem loadLastRealmKeysBundle_kept (kept : Kept decryptsCanary store)
    {server : VlobID → Nat → KeysBundleRep} {result : Except LoadLastKeysBundleError RealmKeys}
    (run : loadLastRealmKeysBundle decryptsCanary device server id store = (result, store')) :
    Kept decryptsCanary store' ∧ store'.storage = store.storage ∧
      ∀ realmKeys, result = .ok realmKeys →
        ValidatedBy decryptsCanary (store.storage.keyRotations id) realmKeys.keys := by
  have refused : ∀ error, (Except.error error, store) = (result, store') →
      Kept decryptsCanary store' ∧ store'.storage = store.storage ∧
        ∀ realmKeys, result = .ok realmKeys →
          ValidatedBy decryptsCanary (store.storage.keyRotations id) realmKeys.keys := by
    intro error same
    cases same
    exact ⟨kept, rfl, fun _ impossible => by cases impossible⟩
  unfold loadLastRealmKeysBundle at run
  split at run
  · rename_i known cached
    cases run
    refine ⟨kept, rfl, fun realmKeys same => ?_⟩
    cases same
    exact kept.cached id known cached
  · split at run
    · exact refused _ run
    · rename_i keyRotations read
      obtain ⟨rfl, numbered⟩ := getRealmKeyRotationCertificates_all kept.authentic read
      split at run
      · exact refused _ run
      · split at run
        · exact refused _ run
        · split at run
          · exact refused _ run
          · exact refused _ run
          · exact refused _ run
          · exact refused _ run
          · exact refused _ run
          · split at run
            · rename_i checked
              cases run
              obtain ⟨sound, remain, same, _⟩ := validateKeysBundle_validated kept.authentic checked
              exact ⟨kept.unchanged sound remain, same, fun _ impossible => by cases impossible⟩
            · rename_i realmKeys seen checked
              cases run
              obtain ⟨sound, remain, same, validated⟩ :=
                validateKeysBundle_validated kept.authentic checked
              have kept' := kept.unchanged sound remain
              have validated : ValidatedBy decryptsCanary (seen.storage.keyRotations id)
                  realmKeys.keys := by
                rw [same]
                exact ⟨numbered, validated realmKeys rfl⟩
              obtain ⟨same', sound', cached', validated'⟩ :=
                updateCacheForRealmKeys_cached sound kept'.cached validated
              refine ⟨⟨sound', cached'⟩, same'.trans same, fun found equal => ?_⟩
              cases equal
              rw [← same]
              exact validated'

theorem Kept.keepStore (kept : Kept decryptsCanary store) {ε α : Type}
    {result : Except ε (α × Store)}
    (spec : ∀ a store', result = .ok (a, store') → Authentic store' ∧ KeysRemain store store') :
    Kept decryptsCanary (keepStore store result) := by
  cases result with
  | error error => exact kept
  | ok found =>
    obtain ⟨authentic, remain⟩ := spec found.1 found.2 rfl
    exact kept.unchanged authentic remain

theorem read_kept (kept : Kept decryptsCanary store) (op : ReadOp) :
    Kept decryptsCanary (store.read device op) := by
  cases op with
  | lastTimestamps =>
    exact kept.unchanged (getLastTimestamps_adds rfl kept.authentic).1
      getLastTimestamps_seen.keysRemain
  | selfProfile =>
    apply kept.keepStore
    intro profile store' read
    exact ⟨(getCurrentSelfProfile_adds read kept.authentic).1,
      getCurrentSelfProfile_keysRemain read⟩
  | deviceKey upTo id =>
    apply kept.keepStore
    intro key store' read
    obtain ⟨_, same, trusted, _⟩ :=
      getDeviceVerifyKeyAndUserId_trusted kept.authentic.toTrusted read
    exact ⟨⟨trusted, same ▸ kept.authentic.history⟩,
      (getDeviceVerifyKeyAndUserId_seen read).keysRemain⟩
  | selfRole id =>
    apply kept.keepStore
    intro role store' read
    unfold Store.getSelfUserRealmRole at read
    split at read
    · cases read
      exact ⟨kept.authentic, .refl _⟩
    · obtain ⟨certif, _, read⟩ := bind_eq_ok.mp read
      cases certif with
      | none =>
        cases read
        exact ⟨kept.authentic, .refl _⟩
      | some certif =>
        cases read
        exact ⟨{ kept.authentic with }, fun _ _ cached => ⟨cached, rfl⟩⟩
  | bootstrapState id =>
    apply kept.keepStore
    intro state store' read
    unfold Store.getRealmBootstrapState at read
    split at read
    · cases read
      exact ⟨kept.authentic, .refl _⟩
    · obtain ⟨known, _, read⟩ := bind_eq_ok.mp read
      cases read
      exact ⟨{ kept.authentic with }, fun _ _ cached => ⟨cached, rfl⟩⟩

theorem readWith_kept (kept : Kept decryptsCanary store) (op : ReaderOp) :
    Kept decryptsCanary (store.readWith device decryptsCanary op) := by
  cases op with
  | read op => exact read_kept kept op
  | realmKeys id server => exact (loadLastRealmKeysBundle_kept kept rfl).1

theorem kept_cleared (history : Admitted Accepted storage) :
    Kept decryptsCanary ⟨storage, .empty⟩ :=
  ⟨⟨trusted_empty storage, history⟩, fun _ _ cached => by cases cached⟩

theorem addCertificatesBatch_kept {batch : Batch} {outcome : MaybeRedactedSwitch}
    (kept : Kept decryptsCanary store)
    (run : addCertificatesBatch device batch store = .ok (outcome, store')) :
    Kept decryptsCanary store' := by
  rcases addCertificatesBatch_adds run with adds | ⟨_, rfl⟩
  · exact kept.unchanged (adds kept.authentic).1 (addCertificatesBatch_keysRemain run)
  · exact kept_cleared admitted_nil

/-- What happens to the certificates store of a client. -/
inductive StoreAction where
  | batch (batch : Batch)
  | read (op : ReaderOp)
  /-- a batch is refused or cannot be committed, or the client is restarted -/
  | cleared

def StoreStep (device : LocalDevice) (decryptsCanary : KeyDerivation → List Byte → Bool)
    (store : Store) (action : StoreAction) (store' : Store) : Prop :=
  match action with
  | .batch batch => AddsBatch device store batch store'
  | .read op => store' = store.readWith device decryptsCanary op
  | .cleared => store' = ⟨store.storage, .empty⟩

/-- The certificates stores a client can have. -/
def Local (device : LocalDevice) (decryptsCanary : KeyDerivation → List Byte → Bool) :
    Store → Prop :=
  Run (StoreStep device decryptsCanary) (fun _ _ => True) (Store.start [])

theorem Local.kept (reached : Local device decryptsCanary store) : Kept decryptsCanary store := by
  apply reached.keeps
  · exact kept_cleared admitted_nil
  · intro store action store' kept _ step
    cases action with
    | batch batch =>
      obtain ⟨outcome, run⟩ := step
      exact addCertificatesBatch_kept kept run
    | read op =>
      cases step
      exact readWith_kept kept op
    | cleared =>
      cases step
      exact kept_cleared kept.authentic.history

end ParsecCloud.Certif
