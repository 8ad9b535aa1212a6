import ParsecCloud.Certif.ValidatedKeys

/- What is known of a manifest that was validated: who wrote it, with which right, and the key it
   was encrypted with. -/
namespace ParsecCloud.Certif
open Rust HashMap GetCertificateQuery Storage Runs Samples

/-- The last role certificate of a user in a realm at a date. -/
structure LastRole (rows : Storage) (date : DateTime) (user : UserID) (realm : VlobID)
    (certif : RealmRoleCertificate) : Prop where
  stored : .realm (.role certif) ∈ rows
  ofUser : certif.realmId = realm ∧ certif.userId = user
  early : certif.timestamp ≤ date
  last : ∀ other, .realm (.role other) ∈ rows → other.realmId = realm → other.userId = user →
    other.timestamp ≤ date → other.timestamp ≤ certif.timestamp

/-- A device of a user who could write in a realm at a date. -/
structure MayWrite (rows : Storage) (date : DateTime) (realm : VlobID) (author : DeviceID)
    (user : UserID) : Prop where
  ofUser : HasDevice rows date user author
  notRevoked : NotRevoked rows date user
  canWrite : ∃ certif role, LastRole rows date user realm certif ∧ certif.role = some role ∧
    role.canWrite = true

/-- The manifest is the announced one, and its author could write it. -/
structure WrittenAsAnnounced (rows : Storage) (announced : Announced) (header : ManifestHeader) :
    Prop where
  header : header =
    ⟨announced.author, announced.timestamp, announced.vlob, announced.version⟩
  author : ∃ user, MayWrite rows announced.timestamp announced.realm announced.author user

section Statement
variable (decryptsCanary : KeyDerivation → List Byte → Bool)
variable (deriveSecretKeyFromUuid : KeyDerivation → Nat → SecretKey)

/-- The key of a manifest is the one of a key rotation: it decrypts its canary. -/
def EncryptedAt (rotation : RealmKeyRotationCertificate) (vlob : VlobID)
    (encryptedWith : SecretKey) : Prop :=
  ∃ key, decryptsCanary key rotation.keyCanary = true ∧
    encryptedWith = deriveSecretKeyFromUuid key vlob.uuid

/-- The manifest of a realm was also encrypted with a key that existed at its date. -/
structure Legitimate (rows : Storage) (announced : Announced) (keyIndex : Nat)
    (encryptedWith : SecretKey) (header : ManifestHeader) : Prop
    extends WrittenAsAnnounced rows announced header where
  key : ∃ rotation ∈ rows.keyRotations announced.realm, rotation.keyIndex = keyIndex ∧
    rotation.timestamp ≤ announced.timestamp ∧
    EncryptedAt decryptsCanary deriveSecretKeyFromUuid rotation announced.vlob encryptedWith

end Statement

/-- The key rotation of this index is not after the date. -/
def RotatedBy (rows : Storage) (date : DateTime) (realm : VlobID) (keyIndex : Nat) : Prop :=
  ∀ rotation ∈ rows.keyRotations realm, rotation.keyIndex = keyIndex → rotation.timestamp ≤ date

/-- A store on which the callback of for_read_with_requirements is run. -/
structure Consulted (device : LocalDevice) (decryptsCanary : KeyDerivation → List Byte → Bool)
    (needed : PerTopicLastTimestamps) (store seen : Store) : Prop where
  reached : Local device decryptsCanary seen
  upToDate : seen.storage.getLastTimestamps.isUpToDate needed = true
  same : store.storage.getLastTimestamps.isUpToDate needed = true → seen.storage = store.storage

variable {device : LocalDevice} {decryptsCanary : KeyDerivation → List Byte → Bool}
variable {deriveSecretKeyFromUuid : KeyDerivation → Nat → SecretKey}
variable {store store' : Store} {rows : Storage} {id : VlobID} {announced : Announced}

theorem ManifestHeader.verify_ok {header : ManifestHeader} {author : DeviceID} {date : DateTime}
    {version : Nat} {done : Unit}
    (verified : header.verify author date (some id) (some version) = .ok done) :
    header = ⟨author, date, id, version⟩ := by
  unfold ManifestHeader.verify at verified
  by_cases author_eq : header.author = author
  · by_cases date_eq : header.timestamp = date
    · by_cases id_eq : header.id = id
      · by_cases version_eq : header.version = version
        · rw [← author_eq, ← date_eq, ← id_eq, ← version_eq]
        · simp [author_eq, date_eq, id_eq, version_eq] at verified
      · simp [author_eq, date_eq, id_eq] at verified
        cases verified
    · simp [author_eq, date_eq] at verified
      cases verified
  · simp [author_eq] at verified
    cases verified

theorem verifyAndLoad_ok {M : Type} {kind : ManifestKind M} {signed : Signed ManifestData}
    {key : VerifyKey} {author : DeviceID} {date : DateTime} {version : Nat} {manifest : M}
    (loaded : kind.verifyAndLoad signed key author date (some id) (some version)
      = .ok (.ok manifest)) :
    kind.header manifest = ⟨author, date, id, version⟩ := by
  unfold ManifestKind.verifyAndLoad at loaded
  split at loaded
  · cases loaded
  · split at loaded
    · cases loaded
    · split at loaded
      · cases loaded
      · obtain ⟨integrity, _, loaded⟩ := bind_eq_ok.mp loaded
        cases integrity with
        | error error => cases loaded
        | ok done =>
          have verified := Except.ok.inj loaded
          cases run : ManifestHeader.verify _ author date (some id) (some version) with
          | error error =>
            rw [run] at verified
            cases verified
          | ok done =>
            rw [run] at verified
            cases verified
            exact ManifestHeader.verify_ok run

theorem validateManifest_ok {M : Type} {kind : ManifestKind M} {cleartext : Signed ManifestData}
    {manifest : M} (validated : validateManifest kind announced cleartext rows = .ok manifest) :
    WrittenAsAnnounced rows announced (kind.header manifest) := by
  unfold validateManifest at validated
  dsimp only at validated
  split at validated
  · cases validated
  · cases validated
  · rename_i certif found
    obtain ⟨stored, ofDevice, early, _⟩ := (selects_device announced.author).getOne_ok found
    split at validated
    · cases validated
    · cases validated
    · rename_i notRevoked
      split at validated
      · cases validated
      · cases validated
      · rename_i loaded
        split at validated
        · cases validated
        · rename_i lookup
          split at validated
          · cases validated
          · rename_i role given
            split at validated
            · rename_i canWrite
              cases validated
              obtain ⟨last, rfl, given⟩ := Option.bind_eq_some_iff.mp given
              obtain ⟨stored', ofUser, early', newest⟩ :=
                (selects_realmRole announced.realm certif.userId).getMaybe_some lookup
              refine ⟨verifyAndLoad_ok loaded, certif.userId,
                ⟨certif, stored, ofDevice, rfl, covers_timestamp.mp early⟩,
                getRevokedUserCertificate_none notRevoked, last, role,
                ⟨stored', ofUser, covers_timestamp.mp early', ?_⟩, given, canWrite⟩
              intro other member ofRealm ofUser' before
              exact newest other member ⟨ofRealm, ofUser'⟩ (covers_timestamp.mpr before)
            · cases validated

section Reading

theorem Local.read (reached : Local device decryptsCanary store) (op : ReaderOp) :
    Local device decryptsCanary (store.readWith device decryptsCanary op) :=
  reached.step (t := .read op) trivial rfl

theorem tryWithRequirements_some {α : Type} {needed : PerTopicLastTimestamps}
    {callback : Store → α × Store} {result : α} (reached : Local device decryptsCanary store)
    (run : tryWithRequirements needed callback store = (some result, store')) :
    ∃ seen, seen.storage = store.storage ∧ Local device decryptsCanary seen ∧
      store.storage.getLastTimestamps.isUpToDate needed = true ∧
      callback seen = (result, store') := by
  have last_eq := getLastTimestamps_eq reached.kept.authentic.toTrusted
  have same := getLastTimestamps_storage store
  have seen := reached.read (.read .lastTimestamps)
  unfold tryWithRequirements at run
  change Local device decryptsCanary store.getLastTimestamps.2 at seen
  generalize store.getLastTimestamps = read at run last_eq same seen
  obtain ⟨last, store''⟩ := read
  dsimp only at run last_eq same seen
  subst last_eq
  split at run
  · rename_i upToDate
    cases run
    exact ⟨store'', same, seen, upToDate, rfl⟩
  · cases run

theorem tryWithRequirements_none {α : Type} {needed : PerTopicLastTimestamps}
    {callback : Store → α × Store} (reached : Local device decryptsCanary store)
    (run : tryWithRequirements needed callback store = (none, store')) :
    Local device decryptsCanary store' ∧
      store.storage.getLastTimestamps.isUpToDate needed = false := by
  have last_eq := getLastTimestamps_eq reached.kept.authentic.toTrusted
  have seen := reached.read (.read .lastTimestamps)
  unfold tryWithRequirements at run
  change Local device decryptsCanary store.getLastTimestamps.2 at seen
  generalize store.getLastTimestamps = read at run last_eq seen
  obtain ⟨last, store''⟩ := read
  dsimp only at run last_eq seen
  subst last_eq
  split at run
  · cases run
  · rename_i outdated
    cases run
    exact ⟨seen, Bool.eq_false_iff.mpr outdated⟩

theorem pollServerForNewCertificates_local (needed : PerTopicLastTimestamps)
    (answers : List (Option Batch)) (reached : Local device decryptsCanary store) :
    Local device decryptsCanary (pollServerForNewCertificates device needed answers store).2 := by
  induction answers generalizing store with
  | nil =>
    have seen := reached.read (.read .lastTimestamps)
    unfold pollServerForNewCertificates
    change Local device decryptsCanary store.getLastTimestamps.2 at seen
    generalize store.getLastTimestamps = read at seen
    dsimp only
    split <;> exact seen
  | cons answer rest ih =>
    have seen := reached.read (.read .lastTimestamps)
    unfold pollServerForNewCertificates
    change Local device decryptsCanary store.getLastTimestamps.2 at seen
    generalize store.getLastTimestamps = read at seen
    split
    · exact seen
    · cases answer with
      | none => exact seen
      | some batch =>
        dsimp only
        split
        · exact seen.step (t := .cleared) trivial rfl
        · rename_i added
          exact seen.step (t := .batch batch) trivial ⟨_, added⟩
        · rename_i added
          exact ih (seen.step (t := .batch batch) trivial ⟨_, added⟩)

theorem forReadWithRequirements_ok {α : Type} {needed : PerTopicLastTimestamps}
    {answers : List (Option Batch)} {callback : Store → α × Store} {result : α}
    (reached : Local device decryptsCanary store)
    (run : forReadWithRequirements device needed answers callback store = (.ok result, store')) :
    ∃ seen, Consulted device decryptsCanary needed store seen ∧
      callback seen = (result, store') := by
  unfold forReadWithRequirements at run
  split at run
  · rename_i tried
    cases run
    obtain ⟨seen, same, reached', upToDate, done⟩ := tryWithRequirements_some reached tried
    exact ⟨seen, ⟨reached', same ▸ upToDate, fun _ => same⟩, done⟩
  · rename_i tried
    obtain ⟨reached', outdated⟩ := tryWithRequirements_none reached tried
    split at run
    · cases run
    · rename_i count polled poll
      have reached'' : Local device decryptsCanary polled := by
        have := pollServerForNewCertificates_local needed answers reached'
        rw [poll] at this
        exact this
      split at run
      · rename_i tried'
        cases run
        obtain ⟨seen, same, reached', upToDate, done⟩ := tryWithRequirements_some reached'' tried'
        refine ⟨seen, ⟨reached', same ▸ upToDate, fun met => ?_⟩, done⟩
        rw [met] at outdated
        cases outdated
      · cases run

end Reading

theorem decryptForRealm_ok {α : Type} {server : VlobID → Nat → KeysBundleRep}
    {usage : EncrytionUsage} {keyIndex : Nat} {encrypted : Encrypted α} {cleartext : α}
    (kept : Kept decryptsCanary store)
    (run : decryptForRealm device decryptsCanary deriveSecretKeyFromUuid server usage id keyIndex
      encrypted store = (.ok cleartext, store')) :
    store'.storage = store.storage ∧ Numbered (store.storage.keyRotations id) ∧
      ∃ rotation ∈ store.storage.keyRotations id, rotation.keyIndex = keyIndex ∧
        ∃ key, decryptsCanary key rotation.keyCanary = true ∧
          encrypted.encryptedWith = deriveSecretKeyFromUuid key usage.keyDerivationUuid := by
  unfold decryptForRealm at run
  split at run
  · cases run
  · rename_i realmKeys seen load
    obtain ⟨_, same, validated⟩ := loadLastRealmKeysBundle_kept kept load
    have validated := validated realmKeys rfl
    split at run
    · cases run
    · cases run
    · rename_i key found
      obtain ⟨rotation, member, index, decrypts⟩ := validated.keyFromIndex found
      split at run
      · rename_i decrypted
        cases run
        unfold SecretKey.decrypt at decrypted
        split at decrypted
        · rename_i with_eq
          exact ⟨same, validated.numbered, rotation, member, index, key, decrypts, with_eq⟩
        · cases decrypted
      · cases run

theorem Numbered.unique {certifs : List RealmKeyRotationCertificate} (numbered : Numbered certifs)
    {a b : RealmKeyRotationCertificate} (first : a ∈ certifs) (second : b ∈ certifs)
    (same : a.keyIndex = b.keyIndex) : a = b := by
  obtain ⟨i, found⟩ := List.mem_iff_getElem?.mp first
  obtain ⟨j, found'⟩ := List.mem_iff_getElem?.mp second
  have index := numbered.getElem? found
  have index' := numbered.getElem? found'
  have equal : i = j := by omega
  subst equal
  rw [found] at found'
  exact Option.some.inj found'

theorem flatten_ok {M : Type} {manifest : M}
    {result : Except CertifForReadWithRequirementsError (Except CertifValidateManifestError M)}
    (ok : flatten result = .ok manifest) : result = .ok (.ok manifest) := by
  unfold flatten at ok
  split at ok
  · rw [ok]
  · cases ok

/-- A manifest that is accepted is legitimate if and only if its key is not too recent. -/
theorem validateRealmManifest_ok {M : Type} {kind : ManifestKind M}
    {server : VlobID → Nat → KeysBundleRep} {answers : List (Option Batch)}
    {neededRealm neededCommon : DateTime} {keyIndex : Nat}
    {encrypted : Encrypted (Signed ManifestData)} {manifest : M}
    (reached : Local device decryptsCanary store)
    (run : validateRealmManifest device decryptsCanary deriveSecretKeyFromUuid server answers
      neededRealm neededCommon kind announced keyIndex encrypted store = (.ok manifest, store')) :
    ∃ seen, Consulted device decryptsCanary
        (newForCommonAndRealm neededCommon announced.realm neededRealm) store seen ∧
      (Legitimate decryptsCanary deriveSecretKeyFromUuid seen.storage announced keyIndex
          encrypted.encryptedWith (kind.header manifest) ↔
        RotatedBy seen.storage announced.timestamp announced.realm keyIndex) := by
  unfold validateRealmManifest at run
  obtain ⟨flat, rfl⟩ := Prod.mk.inj run
  obtain ⟨seen, consulted, done⟩ :=
    forReadWithRequirements_ok reached (Prod.ext (flatten_ok flat) rfl)
  refine ⟨seen, consulted, ?_⟩
  split at done
  · cases done
  · rename_i cleartext after decrypted
    obtain ⟨validated, rfl⟩ := Prod.mk.inj done
    obtain ⟨same, numbered, rotation, member, index, encryptedAt⟩ :=
      decryptForRealm_ok consulted.reached.kept decrypted
    rw [same] at validated
    have written := validateManifest_ok validated
    constructor
    · intro legitimate other member' index'
      obtain ⟨known, stored, sameIndex, early, _⟩ := legitimate.key
      rw [numbered.unique member' stored (index'.trans sameIndex.symm)]
      exact early
    · intro rotated
      exact ⟨written, rotation, member, index, rotated rotation member index, encryptedAt⟩

/-- What the three validations accept: a manifest of a realm was encrypted with a key that existed
    at its date exactly when the key rotation of its index is not after that date. -/
theorem accepted_manifests (reached : Local device decryptsCanary store)
    (deriveSecretKeyFromUuid : KeyDerivation → Nat → SecretKey)
    (server : VlobID → Nat → KeysBundleRep) (answers : List (Option Batch))
    (neededRealm neededCommon : DateTime) (author : DeviceID) (version : Nat)
    (timestamp : DateTime) (encrypted : Encrypted (Signed ManifestData)) :
    (∀ realmId keyIndex vlobId manifest store',
      validateChildManifest device decryptsCanary deriveSecretKeyFromUuid server answers
        neededRealm neededCommon realmId keyIndex vlobId author version timestamp encrypted store
        = (.ok manifest, store') →
      ∃ seen, Consulted device decryptsCanary
          (newForCommonAndRealm neededCommon realmId neededRealm) store seen ∧
        (Legitimate decryptsCanary deriveSecretKeyFromUuid seen.storage
            ⟨realmId, vlobId, version, author, timestamp⟩ keyIndex encrypted.encryptedWith
            manifest.header ↔
          RotatedBy seen.storage timestamp realmId keyIndex)) ∧
    (∀ realmId keyIndex manifest store',
      validateWorkspaceManifest device decryptsCanary deriveSecretKeyFromUuid server answers
        neededRealm neededCommon realmId keyIndex author version timestamp encrypted store
        = (.ok manifest, store') →
      ∃ seen, Consulted device decryptsCanary
          (newForCommonAndRealm neededCommon realmId neededRealm) store seen ∧
        (Legitimate decryptsCanary deriveSecretKeyFromUuid seen.storage
            ⟨realmId, realmId, version, author, timestamp⟩ keyIndex encrypted.encryptedWith
            manifest.header ↔
          RotatedBy seen.storage timestamp realmId keyIndex)) ∧
    (∀ userRealm manifest store',
      validateUserManifest device answers neededRealm neededCommon userRealm author version
        timestamp encrypted store = (.ok manifest, store') →
      ∃ seen, Consulted device decryptsCanary
          (newForCommonAndRealm neededCommon userRealm.id neededRealm) store seen ∧
        WrittenAsAnnounced seen.storage
          ⟨userRealm.id, userRealm.id, version, author, timestamp⟩ manifest.header ∧
        encrypted.encryptedWith = userRealm.key) := by
  refine ⟨?_, ?_, ?_⟩
  · intro realmId keyIndex vlobId manifest store' run
    exact validateRealmManifest_ok reached run
  · intro realmId keyIndex manifest store' run
    unfold validateWorkspaceManifest at run
    obtain ⟨result, last, inner⟩ : ∃ result last, validateRealmManifest device decryptsCanary
      deriveSecretKeyFromUuid server answers neededRealm neededCommon workspaceManifest
      ⟨realmId, realmId, version, author, timestamp⟩ keyIndex encrypted store = (result, last) :=
      ⟨_, _, rfl⟩
    rw [inner] at run
    obtain ⟨mapped, rfl⟩ := Prod.mk.inj run
    cases result with
    | error error => cases mapped
    | ok workspace =>
      cases mapped
      exact validateRealmManifest_ok reached inner
  · intro userRealm manifest store' run
    unfold validateUserManifest at run
    obtain ⟨flat, rfl⟩ := Prod.mk.inj run
    obtain ⟨seen, consulted, done⟩ :=
      forReadWithRequirements_ok reached (Prod.ext (flatten_ok flat) rfl)
    refine ⟨seen, consulted, ?_⟩
    split at done
    · cases done
    · rename_i cleartext decrypted
      obtain ⟨validated, rfl⟩ := Prod.mk.inj done
      refine ⟨validateManifest_ok validated, ?_⟩
      unfold SecretKey.decrypt at decrypted
      split at decrypted
      · assumption
      · cases decrypted

namespace Samples

def aliceRealm : UserRealm := ⟨⟨7⟩, ⟨70⟩⟩

/-- The two keys of the workspace were added on 4 and on 5. -/
def twoRealms : Batch where
  common := enrollment
  sequester := []
  shamirRecovery := []
  realm := [(wksp, [role alice1 3 alice (some .owner), rotated 4 1, rotated 5 2]),
    (aliceRealm.id,
      [.certificate (.role ⟨alice1, 3, aliceRealm.id, alice, some .owner⟩) ⟨11⟩])]
  distinct := by decide

def keysBundle : RealmKeysBundle := ⟨alice1, 5, wksp, [⟨1⟩, ⟨2⟩], by decide⟩

def keysServer (_ : VlobID) (_ : Nat) : KeysBundleRep :=
  .ok ⟨⟨9⟩, .certificate keysBundle ⟨11⟩⟩ (.access ⟨9⟩)

def anyCanary (_ : KeyDerivation) (_ : List Byte) : Bool := true

def derived (key : KeyDerivation) (uuid : Nat) : SecretKey := ⟨100 * key.key + uuid⟩

def emptyFolder (timestamp : DateTime) (id : VlobID) : FolderManifest :=
  ⟨alice1, timestamp, id, wksp, 1, timestamp, timestamp, ∅⟩

def sentFolder (timestamp : DateTime) (id : VlobID) : Encrypted (Signed ManifestData) :=
  ⟨derived ⟨2⟩ id.uuid, .certificate (.folder (emptyFolder timestamp id)) ⟨11⟩⟩

def aliceManifest : UserManifest := ⟨alice1, 6, aliceRealm.id, 1, 6, 6⟩

set_option maxRecDepth 10000 in
theorem twoRealms_local : ∃ store, Local self anyCanary store ∧
    store.storage = twoRealms.arrivals ∧
    store.storage.getLastTimestamps.isUpToDate (newForCommonAndRealm 2 wksp 5) = true ∧
    (∃ store', validateChildManifest self anyCanary derived keysServer [] 5 2 wksp 2 ⟨6⟩ alice1 1 3
      (sentFolder 3 ⟨6⟩) store = (.ok (.folder (emptyFolder 3 ⟨6⟩)), store')) ∧
    (∃ store', validateChildManifest self anyCanary derived keysServer [] 5 2 wksp 2 ⟨6⟩ alice1 1 6
      (sentFolder 6 ⟨6⟩) store = (.ok (.folder (emptyFolder 6 ⟨6⟩)), store')) ∧
    (∃ store', validateWorkspaceManifest self anyCanary derived keysServer [] 5 2 wksp 2 alice1 1 6
      (sentFolder 6 wksp) store = (.ok (emptyFolder 6 wksp), store')) ∧
    (∃ store', validateUserManifest self [] 3 2 aliceRealm alice1 1 6
      ⟨⟨70⟩, .certificate (.user aliceManifest) ⟨11⟩⟩ store = (.ok aliceManifest, store')) :=
  ⟨_, .step (t := .batch twoRealms) .start trivial ⟨_, rfl⟩, rfl, rfl, ⟨_, rfl⟩, ⟨_, rfl⟩, ⟨_, rfl⟩,
    ⟨_, rfl⟩⟩

end Samples

/-- The manifests of day 6 are legitimate, those of the workspace with the key of day 5. -/
theorem accepted_manifests_of_alice : ∃ store, Local self anyCanary store ∧
    Legitimate anyCanary derived store.storage ⟨wksp, ⟨6⟩, 1, alice1, 6⟩ 2
      (sentFolder 6 ⟨6⟩).encryptedWith (emptyFolder 6 ⟨6⟩).header ∧
    Legitimate anyCanary derived store.storage ⟨wksp, wksp, 1, alice1, 6⟩ 2
      (sentFolder 6 wksp).encryptedWith (emptyFolder 6 wksp).header ∧
    WrittenAsAnnounced store.storage ⟨aliceRealm.id, aliceRealm.id, 1, alice1, 6⟩
      aliceManifest.header := by
  obtain ⟨store, reached, stored, met, -, ⟨_, child⟩, ⟨_, workspace⟩, ⟨_, user⟩⟩ := twoRealms_local
  have rotated : RotatedBy store.storage 6 wksp 2 := by
    rw [stored]
    unfold RotatedBy
    decide
  have metByUser : store.storage.getLastTimestamps.isUpToDate
      (newForCommonAndRealm 2 aliceRealm.id 3) = true := by
    rw [stored]
    rfl
  refine ⟨store, reached, ?_, ?_, ?_⟩
  · obtain ⟨seen, consulted, legitimate⟩ :=
      (accepted_manifests reached derived keysServer [] 5 2 alice1 1 6 _).1 _ _ _ _ _ child
    rw [consulted.same met] at legitimate
    exact legitimate.mpr rotated
  · obtain ⟨seen, consulted, legitimate⟩ :=
      (accepted_manifests reached derived keysServer [] 5 2 alice1 1 6 _).2.1 _ _ _ _ workspace
    rw [consulted.same met] at legitimate
    exact legitimate.mpr rotated
  · obtain ⟨seen, consulted, written, _⟩ :=
      (accepted_manifests reached derived keysServer [] 3 2 alice1 1 6 _).2.2 _ _ _ user
    rw [consulted.same metByUser] at written
    exact written

/-- A manifest of day 3 is accepted although it was encrypted with the key of day 5. -/
theorem manifest_older_than_its_key : ∃ store, Local self anyCanary store ∧
    store.storage.getLastTimestamps.isUpToDate (newForCommonAndRealm 2 wksp 5) = true ∧
    (∃ store', validateChildManifest self anyCanary derived keysServer [] 5 2 wksp 2 ⟨6⟩ alice1 1 3
      (sentFolder 3 ⟨6⟩) store = (.ok (.folder (emptyFolder 3 ⟨6⟩)), store')) ∧
    ¬ Legitimate anyCanary derived store.storage ⟨wksp, ⟨6⟩, 1, alice1, 3⟩ 2
      (sentFolder 3 ⟨6⟩).encryptedWith (emptyFolder 3 ⟨6⟩).header := by
  obtain ⟨store, reached, stored, met, early, _⟩ := twoRealms_local
  refine ⟨store, reached, met, early, fun legitimate => ?_⟩
  obtain ⟨rotation, member, index, before, _⟩ := legitimate.key
  rw [stored] at member
  have after : ∀ rotation ∈ keyRotations twoRealms.arrivals wksp, rotation.keyIndex = 2 →
      ¬ rotation.timestamp ≤ 3 := by decide
  exact after rotation member index before

end ParsecCloud.Certif
