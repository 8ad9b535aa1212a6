import ParsecCloud.Certif.ValidatedKeys

/- What the keys given for a realm owe to the keys bundle that the server has sent, and the keys
   bundle that comes next (client, certif/realm_keys_bundle.rs). -/
namespace ParsecCloud.Certif
open Rust HashMap Storage Journal Runs Samples

structure RealmKeysBundleAccess where
  keysBundleKey : SecretKey

inductive GenerateNextKeyBundleForRealmError where
  | offline
  | notAllowed
  | invalidKeysBundle (error : InvalidKeysBundleError)
  | internal (message : String)
  | panicked (panic : Panic)

/-- What the device and the random generator give to a new keys bundle. -/
structure NextKeysSource where
  deviceId : DeviceID
  now : DateTime
  newKey : KeyDerivation
  keysBundleKey : SecretKey

/-- A corrupted key is not used, it is only kept as it is. -/
def ValidatedKey.keyDerivation : ValidatedKey → KeyDerivation
  | .valid key _ => key
  | .corrupted key => key

def nextKeys (newKey : KeyDerivation) : Option RealmKeys → List KeyDerivation
  | none => [newKey]
  | some realmKeys => realmKeys.keys.map ValidatedKey.keyDerivation ++ [newKey]

theorem nextKeys_ne_nil (newKey : KeyDerivation) (realmKeys : Option RealmKeys) :
    nextKeys newKey realmKeys ≠ [] := by
  cases realmKeys <;> simp [nextKeys]

def NextKeysSource.keysBundle (source : NextKeysSource) (realmId : VlobID)
    (realmKeys : Option RealmKeys) : RealmKeysBundle :=
  ⟨source.deviceId, source.now, realmId, nextKeys source.newKey realmKeys,
    nextKeys_ne_nil source.newKey realmKeys⟩

section Generate
variable (decryptsCanary : KeyDerivation → List Byte → Bool)

def generateNextKeysBundleForRealm (device : LocalDevice) (server : VlobID → Nat → KeysBundleRep)
    (realmId : VlobID) (source : NextKeysSource) (store : Store) :
    Except GenerateNextKeyBundleForRealmError (RealmKeysBundle × RealmKeysBundleAccess) × Store :=
  match loadLastRealmKeysBundle decryptsCanary device server realmId store with
  | (.ok realmKeys, store) =>
    (.ok (source.keysBundle realmId (some realmKeys), ⟨source.keysBundleKey⟩), store)
  | (.error .noKey, store) => (.ok (source.keysBundle realmId none, ⟨source.keysBundleKey⟩), store)
  | (.error .offline, store) => (.error .offline, store)
  | (.error .notAllowed, store) => (.error .notAllowed, store)
  | (.error (.invalidKeysBundle error), store) => (.error (.invalidKeysBundle error), store)
  | (.error (.internal message), store) => (.error (.internal message), store)
  | (.error (.panicked panic), store) => (.error (.panicked panic), store)

end Generate

def Opens (keysBundle : EncryptedKeysBundle) (access : EncryptedKeysBundleAccess)
    (bundle : RealmKeysBundle) (signedBy : VerifyKey) : Prop :=
  access = .access keysBundle.encryptedWith ∧ keysBundle.content = .certificate bundle signedBy

def KeyOf (storage : Storage) (author : DeviceID) (date : DateTime) (key : VerifyKey) : Prop :=
  ∃ certif, .common (.device certif) ∈ storage ∧ certif.deviceId = author ∧
    certif.verifyKey = key ∧ certif.timestamp ≤ date

/-- The checks that a keys bundle goes through. -/
structure Checked (storage : Storage) (certif : RealmKeyRotationCertificate)
    (bundle : RealmKeysBundle) (signedBy : VerifyKey) : Prop where
  signed : KeyOf storage certif.author bundle.timestamp signedBy
  author : bundle.author = certif.author
  realm : bundle.realmId = certif.realmId
  keyIndex : bundle.keyIndex = certif.keyIndex

def ValidatedKey.IsValid : ValidatedKey → Prop
  | .valid _ _ => True
  | .corrupted _ => False

/-- The keys of a realm are those of the keys bundle, and only the ones that decrypt the canary of
    their key rotation are valid. -/
def KeysOf (decryptsCanary : KeyDerivation → List Byte → Bool)
    (rotations : List RealmKeyRotationCertificate) (bundle : RealmKeysBundle)
    (keys : List ValidatedKey) : Prop :=
  keys.length = bundle.keys.length ∧
    ∀ (i : Nat) key, bundle.keys[i]? = some key → ∃ (rotation : RealmKeyRotationCertificate)
      (validated : ValidatedKey), rotations[i]? = some rotation ∧
      keys[i]? = some validated ∧ validated.keyDerivation = key ∧
      (validated.IsValid ↔ decryptsCanary key rotation.keyCanary = true)

variable {device : LocalDevice} {decryptsCanary : KeyDerivation → List Byte → Bool}
variable {store : Store} {id : VlobID} {rotations : List RealmKeyRotationCertificate}
variable {certif : RealmKeyRotationCertificate}

theorem Numbered.keyIndex_le (numbered : Numbered rotations) (member : certif ∈ rotations) :
    certif.keyIndex ≤ rotations.length := by
  obtain ⟨index, small, found⟩ := List.mem_iff_getElem.mp member
  have position : rotations[index]? = some certif := by
    rw [List.getElem?_eq_getElem small, found]
  have same := numbered.getElem? position
  omega

theorem keysOf_zipWith {bundle : RealmKeysBundle} (enough : bundle.keys.length ≤ rotations.length) :
    KeysOf decryptsCanary rotations bundle
      (List.zipWith (validateKey decryptsCanary) bundle.keys rotations) := by
  constructor
  · rw [List.length_zipWith]
    omega
  · intro i key found
    obtain ⟨small, -⟩ := List.getElem?_eq_some_iff.mp found
    have other : i < rotations.length := by omega
    refine ⟨rotations[i], validateKey decryptsCanary key rotations[i], by simp [other], ?_, ?_⟩
    · simp [List.getElem?_zipWith, found, other]
    · unfold validateKey
      split
      · rename_i decrypts
        exact ⟨rfl, by simp [ValidatedKey.IsValid, decrypts]⟩
      · rename_i refuses
        exact ⟨rfl, by simp [ValidatedKey.IsValid, refuses]⟩

theorem checkKeysBundle_eq {accessKey : SecretKey} {bundle : RealmKeysBundle}
    (enough : certif.keyIndex ≤ rotations.length) (realmKeys : RealmKeys) :
    checkKeysBundle decryptsCanary id accessKey bundle certif rotations = .ok realmKeys ↔
      bundle.realmId = certif.realmId ∧ bundle.keyIndex = certif.keyIndex ∧
        bundle.author = certif.author ∧ realmKeys =
          ⟨id, List.zipWith (validateKey decryptsCanary) bundle.keys rotations, accessKey⟩ := by
  unfold checkKeysBundle
  by_cases realm : bundle.realmId = certif.realmId
  · by_cases keyIndex : bundle.keyIndex = certif.keyIndex
    · by_cases author : bundle.author = certif.author
      · have length : (List.zipWith (validateKey decryptsCanary) bundle.keys rotations).length =
            bundle.keys.length := by
          unfold RealmKeysBundle.keyIndex at keyIndex
          rw [List.length_zipWith]
          omega
        simp only [realm, keyIndex, author, length, ne_eq, not_true_eq_false, if_false, if_true,
          true_and, Except.ok.injEq]
        exact eq_comm
      · simp [realm, keyIndex, author]
    · simp [realm, keyIndex]
  · simp [realm]

theorem checkKeysBundle_noPanic {accessKey : SecretKey} {bundle : RealmKeysBundle}
    (enough : certif.keyIndex ≤ rotations.length) (panic : Panic) :
    checkKeysBundle decryptsCanary id accessKey bundle certif rotations ≠
      .error (.panicked panic) := by
  intro panicked
  unfold checkKeysBundle at panicked
  split at panicked
  · cases panicked
  · split at panicked
    · cases panicked
    · rename_i keyIndex
      split at panicked
      · cases panicked
      · simp only at panicked
        split at panicked
        · cases panicked
        · rename_i missing
          apply missing
          have keyIndex := not_not.mp keyIndex
          unfold RealmKeysBundle.keyIndex at keyIndex
          rw [List.length_zipWith]
          omega

section Validate
variable (sound : Authentic store)
include sound

theorem getDeviceVerifyKeyAndUserId_iff {date : DateTime} {author : DeviceID} {key : VerifyKey} :
    (∃ user store', store.getDeviceVerifyKeyAndUserId (.timestamp date) author =
      .ok ((key, user), store')) ↔ KeyOf store.storage author date key := by
  constructor
  · rintro ⟨user, store', read⟩
    obtain ⟨⟨certif, stored, same, isKey, -, covered⟩, -⟩ :=
      getDeviceVerifyKeyAndUserId_trusted sound.toTrusted read
    exact ⟨certif, stored, same, isKey, covers_timestamp.mp covered⟩
  · rintro ⟨certif, stored, same, isKey, early⟩
    obtain ⟨key', user, store', read⟩ :=
      getDeviceVerifyKeyAndUserId_total sound ⟨certif, stored, same, rfl, early⟩
    obtain ⟨⟨other, stored', same', isKey', -⟩, -⟩ :=
      getDeviceVerifyKeyAndUserId_trusted sound.toTrusted read
    have unique := devices_unique sound.history other certif stored' stored (same'.trans same.symm)
    subst unique
    rw [← isKey, isKey']
    exact ⟨user, store', read⟩

theorem validateKeysBundle_ok_iff {keysBundle : EncryptedKeysBundle}
    {access : EncryptedKeysBundleAccess} (enough : certif.keyIndex ≤ rotations.length)
    (realmKeys : RealmKeys) :
    (validateKeysBundle decryptsCanary device id keysBundle access certif rotations store).1 =
        .ok realmKeys ↔
      ∃ bundle signedBy, Opens keysBundle access bundle signedBy ∧
        Checked store.storage certif bundle signedBy ∧ realmKeys = ⟨id,
          List.zipWith (validateKey decryptsCanary) bundle.keys rotations,
          keysBundle.encryptedWith⟩ := by
  constructor
  · intro returned
    unfold validateKeysBundle at returned
    split at returned
    · cases returned
    · cases returned
    · split at returned
      · cases returned
      · rename_i accessKey decrypted
        have decrypted := not_not.mp decrypted
        subst decrypted
        split at returned
        · cases returned
        · rename_i bundle signedBy loaded
          split at returned
          · cases returned
          · cases returned
          · rename_i verifyKey user store' read
            split at returned
            · cases returned
            · rename_i verified
              have verified := not_not.mp verified
              subst verified
              obtain ⟨realm, keyIndex, author, same⟩ :=
                (checkKeysBundle_eq enough realmKeys).mp returned
              have signed := (getDeviceVerifyKeyAndUserId_iff sound).mp ⟨user, store', read⟩
              refine ⟨bundle, signedBy, ⟨rfl, ?_⟩, ⟨author ▸ signed, author, realm, keyIndex⟩, same⟩
              cases content : keysBundle.content with
              | malformed error =>
                rw [content] at loaded
                cases loaded
              | certificate other key =>
                rw [content] at loaded
                cases loaded
                rfl
  · rintro ⟨bundle, signedBy, ⟨opened, content⟩, checked, same⟩
    obtain ⟨user, store', read⟩ := (getDeviceVerifyKeyAndUserId_iff sound).mpr checked.signed
    rw [← checked.author] at read
    have passed : checkKeysBundle decryptsCanary id keysBundle.encryptedWith bundle certif
        rotations = .ok realmKeys :=
      (checkKeysBundle_eq enough realmKeys).mpr
        ⟨checked.realm, checked.keyIndex, checked.author, same⟩
    simp [validateKeysBundle, opened, content, Signed.unsecureLoad, read, passed]

end Validate

theorem validateKeysBundle_noPanic {keysBundle : EncryptedKeysBundle}
    {access : EncryptedKeysBundleAccess} (enough : certif.keyIndex ≤ rotations.length)
    (panic : Panic) :
    (validateKeysBundle decryptsCanary device id keysBundle access certif rotations store).1 ≠
      .error (.panicked panic) := by
  intro panicked
  unfold validateKeysBundle at panicked
  split at panicked
  · cases panicked
  · cases panicked
  · split at panicked
    · cases panicked
    · split at panicked
      · cases panicked
      · split at panicked
        · cases panicked
        · cases panicked
        · split at panicked
          · cases panicked
          · exact checkKeysBundle_noPanic enough panic panicked

section Sound
variable (device decryptsCanary store id rotations certif)
variable (keysBundle : EncryptedKeysBundle) (access : EncryptedKeysBundleAccess)

/-- The canaries are never too few, and the keys returned are those of a keys bundle that was
    made for this key rotation. -/
def AnswerValidated : Prop :=
  let result := (validateKeysBundle decryptsCanary device id keysBundle access certif rotations
    store).1
  (∀ panic, result ≠ .error (.panicked panic)) ∧
  ∀ realmKeys, result = .ok realmKeys → ∃ bundle signedBy,
    Opens keysBundle access bundle signedBy ∧
    KeyOf store.storage certif.author bundle.timestamp signedBy ∧
    bundle.author = certif.author ∧ bundle.realmId = certif.realmId ∧
    bundle.timestamp = certif.timestamp ∧ bundle.keys.length = certif.keyIndex ∧
    KeysOf decryptsCanary rotations bundle realmKeys.keys

/-- The keys of the next keys bundle are the current ones and a new one. -/
def NextKeysKept : Prop :=
  ∀ server source,
    (∀ realmKeys store', loadLastRealmKeysBundle decryptsCanary device server id store =
        (.ok realmKeys, store') →
      ∃ bundle access, generateNextKeysBundleForRealm decryptsCanary device server id source store =
          (.ok (bundle, access), store') ∧
        (∀ (i : Nat) validated, realmKeys.keys[i]? = some validated →
          bundle.keys[i]? = some validated.keyDerivation) ∧
        bundle.keys.length = realmKeys.keys.length + 1 ∧
        bundle.keys.getLast? = some source.newKey) ∧
    ∀ store', loadLastRealmKeysBundle decryptsCanary device server id store =
        (.error .noKey, store') →
      ∃ bundle access, generateNextKeysBundleForRealm decryptsCanary device server id source store =
        (.ok (bundle, access), store') ∧ bundle.keys = [source.newKey]

/-- A keys bundle that goes through the checks is the one of the key rotation. -/
def SameTimestamp : Prop :=
  ∀ bundle signedBy, Opens keysBundle access bundle signedBy →
    Checked store.storage certif bundle signedBy → bundle.timestamp = certif.timestamp

variable {device decryptsCanary store id rotations certif keysBundle access}

theorem nextKeysKept : NextKeysKept device decryptsCanary store id := by
  intro server source
  constructor
  · intro realmKeys store' loaded
    refine ⟨source.keysBundle id (some realmKeys), ⟨source.keysBundleKey⟩, ?_, ?_, ?_, ?_⟩
    · simp only [generateNextKeysBundleForRealm, loaded]
    · intro i validated found
      change (realmKeys.keys.map ValidatedKey.keyDerivation ++ [source.newKey])[i]? = _
      obtain ⟨small, -⟩ := List.getElem?_eq_some_iff.mp found
      rw [List.getElem?_append_left (by simpa using small), List.getElem?_map, found]
      rfl
    · simp [NextKeysSource.keysBundle, nextKeys]
    · simp [NextKeysSource.keysBundle, nextKeys]
  · intro store' missing
    refine ⟨source.keysBundle id none, ⟨source.keysBundleKey⟩, ?_, rfl⟩
    simp only [generateNextKeysBundleForRealm, missing]

theorem answerValidated_iff (sound : Authentic store) (numbered : Numbered rotations)
    (member : certif ∈ rotations) :
    AnswerValidated device decryptsCanary store id rotations certif keysBundle access ↔
      SameTimestamp store certif keysBundle access := by
  have enough := numbered.keyIndex_le member
  constructor
  · rintro ⟨_, validated⟩ bundle signedBy opened checked
    have returned : (validateKeysBundle decryptsCanary device id keysBundle access certif rotations
        store).1 = .ok ⟨id, List.zipWith (validateKey decryptsCanary) bundle.keys rotations,
          keysBundle.encryptedWith⟩ :=
      (validateKeysBundle_ok_iff sound enough _).mpr ⟨bundle, signedBy, opened, checked, rfl⟩
    obtain ⟨other, key, ⟨-, content⟩, -, -, -, same, -⟩ := validated _ returned
    rw [opened.2] at content
    cases content
    exact same
  · intro sameTimestamp
    refine ⟨validateKeysBundle_noPanic enough, ?_⟩
    intro realmKeys returned
    obtain ⟨bundle, signedBy, opened, checked, same⟩ :=
      (validateKeysBundle_ok_iff sound enough realmKeys).mp returned
    have count : bundle.keys.length = certif.keyIndex := checked.keyIndex
    refine ⟨bundle, signedBy, opened, checked.signed, checked.author, checked.realm,
      sameTimestamp bundle signedBy opened checked, count, ?_⟩
    rw [same]
    exact keysOf_zipWith (count ▸ enough)

end Sound

/-- Exactly when the keys returned come from the keys bundle of the key rotation. -/
theorem keys_bundle_validated_iff (device : LocalDevice)
    (decryptsCanary : KeyDerivation → List Byte → Bool) (store : Store) (id : VlobID)
    (rotations : List RealmKeyRotationCertificate) (certif : RealmKeyRotationCertificate)
    (keysBundle : EncryptedKeysBundle) (access : EncryptedKeysBundleAccess)
    (reached : Local device decryptsCanary store)
    (read : store.storage.getRealmKeyRotationCertificates .current id = .ok rotations)
    (member : certif ∈ rotations) :
    (AnswerValidated device decryptsCanary store id rotations certif keysBundle access ∧
      NextKeysKept device decryptsCanary store id) ↔
    SameTimestamp store certif keysBundle access := by
  have sound := reached.kept.authentic
  obtain ⟨-, numbered⟩ := getRealmKeyRotationCertificates_all sound read
  rw [answerValidated_iff sound numbered member]
  exact and_iff_left nextKeysKept

namespace Samples

def firstRotation : RealmKeyRotationCertificate := ⟨alice1, 4, wksp, 1, []⟩

def firstBundle (timestamp : DateTime) : EncryptedKeysBundle :=
  ⟨⟨0⟩, .certificate ⟨alice1, timestamp, wksp, [⟨0⟩], List.cons_ne_nil _ _⟩ ⟨11⟩⟩

def oneRotation : Batch := batch enrollment [role alice1 3 alice (some .owner), rotated 4 1]

end Samples

set_option maxRecDepth 10000 in
theorem oneRotation_local (decryptsCanary : KeyDerivation → List Byte → Bool) :
    ∃ store, Local self decryptsCanary store ∧ store.storage = oneRotation.arrivals := by
  obtain ⟨outcome, store, run, stored⟩ : ∃ outcome store,
      addCertificatesBatch self oneRotation (Store.start []) = .ok (outcome, store) ∧
        store.storage = oneRotation.arrivals := ⟨_, _, rfl, rfl⟩
  have added : StoreStep self decryptsCanary (Store.start []) (.batch oneRotation) store :=
    ⟨outcome, run⟩
  exact ⟨store, .step .start trivial added, stored⟩

set_option maxRecDepth 10000 in
theorem oneRotation_read :
    Storage.getRealmKeyRotationCertificates oneRotation.arrivals .current wksp =
      .ok [firstRotation] := rfl

theorem keys_bundle_validated_first : ∃ store, Local self (fun _ _ => true) store ∧
    store.storage = oneRotation.arrivals ∧
    AnswerValidated self (fun _ _ => true) store wksp [firstRotation] firstRotation (firstBundle 4)
      (.access ⟨0⟩) ∧
    NextKeysKept self (fun _ _ => true) store wksp := by
  obtain ⟨store, reached, stored⟩ := oneRotation_local fun _ _ => true
  refine ⟨store, reached, stored, ?_⟩
  have read : store.storage.getRealmKeyRotationCertificates .current wksp = .ok [firstRotation] := by
    rw [stored]
    exact oneRotation_read
  apply (keys_bundle_validated_iff self (fun _ _ => true) store wksp [firstRotation] firstRotation
    (firstBundle 4) (.access ⟨0⟩) reached read (List.mem_singleton_self _)).mpr
  intro bundle signedBy opened _
  obtain ⟨-, content⟩ := opened
  cases content
  rfl

/-- A keys bundle of another date, by the same author and with as many keys, is taken as well. -/
theorem other_keys_bundle_taken : ∃ store, Local self (fun _ _ => true) store ∧
    store.storage.getRealmKeyRotationCertificates .current wksp = .ok [firstRotation] ∧
    ¬ AnswerValidated self (fun _ _ => true) store wksp [firstRotation] firstRotation
      (firstBundle 3) (.access ⟨0⟩) := by
  obtain ⟨store, reached, stored⟩ := oneRotation_local fun _ _ => true
  have read : store.storage.getRealmKeyRotationCertificates .current wksp = .ok [firstRotation] := by
    rw [stored]
    exact oneRotation_read
  refine ⟨store, reached, read, ?_⟩
  have sound := reached.kept.authentic
  obtain ⟨-, numbered⟩ := getRealmKeyRotationCertificates_all sound read
  rw [answerValidated_iff sound numbered (List.mem_singleton_self _)]
  intro same
  have known : .common (.device aliceDevice) ∈ store.storage := by
    rw [stored]
    exact List.mem_of_getElem? (i := 1) rfl
  have checked : Checked store.storage firstRotation
      ⟨alice1, 3, wksp, [⟨0⟩], List.cons_ne_nil _ _⟩ ⟨11⟩ :=
    ⟨⟨aliceDevice, known, rfl, rfl, by decide⟩, rfl, rfl, rfl⟩
  have equal := same _ _ ⟨rfl, rfl⟩ checked
  exact absurd equal (by decide)

end ParsecCloud.Certif
