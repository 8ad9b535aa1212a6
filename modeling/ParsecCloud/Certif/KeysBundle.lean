import ParsecCloud.Certif.Store

/- The keys of a realm (client, certif/realm_keys_bundle.rs): how the keys bundle sent by the
   server is checked against the key rotation certificates of the store. Whether a key decrypts
   a canary is a parameter. -/
namespace ParsecCloud.Certif
open Rust HashMap GetCertificateQuery

/-- A keys bundle that could be deserialized has at least one key. -/
structure RealmKeysBundle where
  author : DeviceID
  timestamp : DateTime
  realmId : VlobID
  keys : List KeyDerivation
  notEmpty : keys ≠ []

def RealmKeysBundle.keyIndex (bundle : RealmKeysBundle) : Nat := bundle.keys.length

structure EncryptedKeysBundle where
  encryptedWith : SecretKey
  content : Signed RealmKeysBundle

inductive EncryptedKeysBundleAccess where
  | notForSelf
  | malformed (error : LoadError)
  | access (keysBundleKey : SecretKey)

/-- The answers to realm_get_keys_bundle, and the lack of one. -/
inductive KeysBundleRep where
  | offline
  | ok (keysBundle : EncryptedKeysBundle) (keysBundleAccess : EncryptedKeysBundleAccess)
  | accessNotAvailableForAuthor
  | authorNotAllowed
  | badKeyIndex
  | unknownStatus

inductive InvalidKeysBundleError where
  | corruptedAccess (realm : VlobID) (keyIndex : Nat) (keyRotationAuthor : DeviceID)
      (keyRotationTimestamp : DateTime) (recipient : UserID) (error : Option LoadError)
  | decryption (realm : VlobID) (keyIndex : Nat) (keyRotationAuthor : DeviceID)
      (keyRotationTimestamp : DateTime) (recipient : UserID)
  | corrupted (realm : VlobID) (keyIndex : Nat) (author : DeviceID) (timestamp : DateTime)
      (error : LoadError)
  | nonExistentAuthor (realm : VlobID) (keyIndex : Nat) (author : DeviceID) (timestamp : DateTime)
  | keyIndexMismatch (realm : VlobID) (expectedKeyIndex badKeyIndex : Nat) (author : DeviceID)
      (timestamp : DateTime)
  | realmIDMismatch (expectedRealmId badRealmId : VlobID) (keyIndex : Nat) (author : DeviceID)
      (timestamp : DateTime)
  | authorMismatch (realm : VlobID) (keyIndex : Nat) (expectedAuthor badAuthor : DeviceID)
      (timestamp : DateTime)
  | timestampMismatch (realm : VlobID) (keyIndex : Nat) (author : DeviceID)
      (expectedTimestamp badTimestamp : DateTime)

inductive LoadLastKeysBundleError where
  | offline
  | notAllowed
  | noKey
  | invalidKeysBundle (error : InvalidKeysBundleError)
  | internal (message : String)
  | panicked (panic : Panic)

def missingKeyRotations : String :=
  "Certificates local storage seems corrupted: some realm key rotation certificates are missing"

def unexpectedKeyIndex : String :=
  "Local storage of certificates seems corrupted: unexpected number of certificates"

def Storage.getRealmKeyRotationCertificates (storage : Storage) (upTo : UpTo) (realmId : VlobID) :
    Except String (List RealmKeyRotationCertificate) := do
  let certifs ← storage.getMultiple (realmKeyRotationCertificates realmId) upTo isRealmKeyRotation
  if (certifs.zipIdx 1).all fun (certif, expected) => certif.keyIndex = expected then
    return certifs
  else throw missingKeyRotations

section
variable (decryptsCanary : KeyDerivation → List Byte → Bool)

def validateKey (key : KeyDerivation) (certif : RealmKeyRotationCertificate) : ValidatedKey :=
  if decryptsCanary key certif.keyCanary then .valid key certif.timestamp else .corrupted key

/-- The checks of validate_keys_bundle once the keys bundle is decrypted and its signature
    verified. The author is compared twice, and the timestamp never. -/
def checkKeysBundle (realmId : VlobID) (accessKey : SecretKey) (bundle : RealmKeysBundle)
    (certif : RealmKeyRotationCertificate) (keyRotations : List RealmKeyRotationCertificate) :
    Except LoadLastKeysBundleError RealmKeys :=
  if bundle.realmId ≠ certif.realmId then
    .error (.invalidKeysBundle (.realmIDMismatch certif.realmId bundle.realmId bundle.keyIndex
      certif.author certif.timestamp))
  else if bundle.keyIndex ≠ certif.keyIndex then
    .error (.invalidKeysBundle (.keyIndexMismatch realmId certif.keyIndex bundle.keyIndex
      certif.author certif.timestamp))
  else if bundle.author ≠ certif.author then
    .error (.invalidKeysBundle (.authorMismatch realmId bundle.keyIndex certif.author bundle.author
      certif.timestamp))
  else if bundle.author ≠ certif.author then
    .error (.invalidKeysBundle (.timestampMismatch realmId bundle.keyIndex certif.author
      certif.timestamp bundle.timestamp))
  else
    let validatedKeys := List.zipWith (validateKey decryptsCanary) bundle.keys keyRotations
    if validatedKeys.length = bundle.keys.length then .ok ⟨realmId, validatedKeys, accessKey⟩
    else .error (.panicked (.assert "validated_keys.len() == keys_bundle.keys().len()"))

def validateKeysBundle (device : LocalDevice) (realmId : VlobID) (keysBundle : EncryptedKeysBundle)
    (keysBundleAccess : EncryptedKeysBundleAccess) (certif : RealmKeyRotationCertificate)
    (keyRotations : List RealmKeyRotationCertificate) (store : Store) :
    Except LoadLastKeysBundleError RealmKeys × Store :=
  match keysBundleAccess with
  | .notForSelf =>
    (.error (.invalidKeysBundle (.corruptedAccess realmId certif.keyIndex certif.author
      certif.timestamp device.userId none)), store)
  | .malformed error =>
    (.error (.invalidKeysBundle (.corruptedAccess realmId certif.keyIndex certif.author
      certif.timestamp device.userId (some error))), store)
  | .access accessKey =>
    if keysBundle.encryptedWith ≠ accessKey then
      (.error (.invalidKeysBundle (.decryption realmId certif.keyIndex certif.author
        certif.timestamp device.userId)), store)
    else
      match keysBundle.content.unsecureLoad with
      | .error error =>
        (.error (.invalidKeysBundle (.corrupted realmId certif.keyIndex certif.author
          certif.timestamp error)), store)
      | .ok (bundle, signedBy) =>
        match store.getDeviceVerifyKeyAndUserId (.timestamp bundle.timestamp) bundle.author with
        | .error (.internal message) => (.error (.internal message), store)
        | .error _ =>
          (.error (.invalidKeysBundle (.nonExistentAuthor realmId certif.keyIndex certif.author
            certif.timestamp)), store)
        | .ok ((verifyKey, _), store) =>
          if signedBy ≠ verifyKey then
            (.error (.invalidKeysBundle (.corrupted realmId certif.keyIndex certif.author
              certif.timestamp .signature)), store)
          else (checkKeysBundle decryptsCanary realmId accessKey bundle certif keyRotations, store)

def loadLastRealmKeysBundle (device : LocalDevice) (server : VlobID → Nat → KeysBundleRep)
    (realmId : VlobID) (store : Store) : Except LoadLastKeysBundleError RealmKeys × Store :=
  match store.getRealmKeys realmId with
  | some cached => (.ok cached, store)
  | none =>
    match store.storage.getRealmKeyRotationCertificates .current realmId with
    | .error message => (.error (.internal message), store)
    | .ok keyRotations =>
      match keyRotations.getLast? with
      | none => (.error .noKey, store)
      | some certif =>
        if certif.keyIndex ≠ keyRotations.length then
          (.error (.internal unexpectedKeyIndex), store)
        else
          match server realmId certif.keyIndex with
          | .offline => (.error .offline, store)
          | .accessNotAvailableForAuthor => (.error .notAllowed, store)
          | .authorNotAllowed => (.error .notAllowed, store)
          | .badKeyIndex => (.error (.internal "Unexpected server response"), store)
          | .unknownStatus => (.error (.internal "Unexpected server response"), store)
          | .ok keysBundle keysBundleAccess =>
            match validateKeysBundle decryptsCanary device realmId keysBundle keysBundleAccess
                certif keyRotations store with
            | (.error error, store) => (.error error, store)
            | (.ok realmKeys, store) =>
              let (realmKeys, store) := store.updateCacheForRealmKeys realmId realmKeys
              (.ok realmKeys, store)

end

end ParsecCloud.Certif
