import ParsecCloud.Certif.ManifestValidate

/- The three views of the shamir recoveries (client, certif/shamir_recovery_list.rs): our own
   recovery, the list of those we are a recipient of, and our share of one of them. The hash maps
   are walked through in any order. -/
namespace ParsecCloud.Certif
open Rust HashMap Storage

namespace GetCertificateQuery

def shamirRecoveryDeletionCertificates := noFilter .shamirRecoveryDeletion

end GetCertificateQuery

namespace Storage
open GetCertificateQuery

def getShamirRecoveryBriefs (storage : Storage) (upTo : UpTo) :=
  storage.getMultiple shamirRecoveryBriefCertificates upTo isShamirRecoveryBrief

def getShamirRecoveryDeletions (storage : Storage) (upTo : UpTo) :=
  storage.getMultiple shamirRecoveryDeletionCertificates upTo isShamirRecoveryDeletion

end Storage

inductive ShamirViewError where
  | internal (message : String)
  | panicked (panic : Panic)

/-- What the infos tell of a setup. -/
structure ShamirSetup where
  createdOn : DateTime
  createdBy : DeviceID
  threshold : Nat
  perRecipientShares : List (UserID × Nat)

def ShamirRecoveryBriefCertificate.setup (brief : ShamirRecoveryBriefCertificate) : ShamirSetup :=
  ⟨brief.timestamp, brief.author, brief.threshold, brief.perRecipientShares⟩

inductive SelfShamirRecoveryInfo where
  | neverSetup
  | deleted (setup : ShamirSetup) (deletedOn : DateTime) (deletedBy : DeviceID)
  | setupAllValid (setup : ShamirSetup)
  | setupWithRevokedRecipients (setup : ShamirSetup) (revokedRecipients : Finset UserID)
  | setupButUnusable (setup : ShamirSetup) (revokedRecipients : Finset UserID)

inductive OtherShamirRecoveryInfo where
  | deleted (userId : UserID) (setup : ShamirSetup) (deletedOn : DateTime) (deletedBy : DeviceID)
  | setupAllValid (userId : UserID) (setup : ShamirSetup)
  | setupWithRevokedRecipients (userId : UserID) (setup : ShamirSetup)
      (revokedRecipients : Finset UserID)
  | setupButUnusable (userId : UserID) (setup : ShamirSetup) (revokedRecipients : Finset UserID)

section Counts

/-- The variables of the loop over the recipients of a setup. -/
structure ShareCounts where
  total : Nat
  unreachable : Nat
  revokedRecipients : Finset UserID

def countShare (counts : ShareCounts) (share : UserID × Nat) (revoked : Bool) :
    Checked ShareCounts := do
  let unreachable ← if revoked then add counts.unreachable share.2 else pure counts.unreachable
  let total ← add counts.total share.2
  return ⟨total, unreachable,
    if revoked then insert share.1 counts.revokedRecipients else counts.revokedRecipients⟩

/-- The last match, on whether nobody is revoked and whether the setup is usable. -/
def arrange {α : Type} (counts : ShareCounts) (threshold : Nat) (allValid : α)
    (withRevoked unusable : Finset UserID → α) : Checked α := do
  let usable := decide (threshold ≤ (← sub counts.total counts.unreachable))
  if counts.revokedRecipients = ∅ then
    if usable then return allValid
    else throw (.assert "internal error: entered unreachable code")
  else if usable then return withRevoked counts.revokedRecipients
  else return unusable counts.revokedRecipients

end Counts

section OwnView

def isRevokedNow (storage : Storage) (userId : UserID) : Except ShamirViewError Bool :=
  ((storage.getRevokedUserCertificate .current userId).map Option.isSome).mapError .internal

def getSelfShamirRecovery (device : LocalDevice) (storage : Storage) :
    Except ShamirViewError SelfShamirRecoveryInfo := do
  match ← (storage.getLastShamirRecoveryForAuthor .current device.userId).mapError .internal with
  | .neverSetup => return .neverSetup
  | .deleted brief deletion =>
    return .deleted brief.setup deletion.timestamp deletion.author
  | .valid brief =>
    let counts ← brief.perRecipientShares.foldlM (fun counts share => do
      let revoked ← isRevokedNow storage share.1
      (countShare counts share revoked).mapError .panicked) ⟨0, 0, ∅⟩
    (arrange counts brief.threshold (.setupAllValid brief.setup)
      (.setupWithRevokedRecipients brief.setup)
      (.setupButUnusable brief.setup)).mapError .panicked

end OwnView

section ListView

abbrev LastShamirs :=
  HashMap UserID (ShamirRecoveryBriefCertificate × Option ShamirRecoveryDeletionCertificate)

/-- A turn of the loop over the briefs: ours are not kept, and the newer ones replace the older. -/
def keepBrief (us : UserID) (perUser : LastShamirs) (brief : ShamirRecoveryBriefCertificate) :
    LastShamirs :=
  if us ∈ brief.recipients then perUser.insert brief.userId (brief, none) else perUser

def markDeleted (perUser : LastShamirs) (deletion : ShamirRecoveryDeletionCertificate) :
    LastShamirs :=
  match perUser.lookup deletion.setupToDeleteUserId with
  | some (brief, _) =>
    if brief.timestamp = deletion.setupToDeleteTimestamp then
      perUser.insert deletion.setupToDeleteUserId (brief, some deletion)
    else perUser
  | none => perUser

/-- The values of a map in the order of a walk. -/
def valuesIn {ν : Type} (order : HashOrder UserID) (map : HashMap UserID ν) : List ν :=
  (order.list map.keys).filterMap map.lookup

def allRecipients (lasts : List (ShamirRecoveryBriefCertificate ×
    Option ShamirRecoveryDeletionCertificate)) : Finset UserID :=
  lasts.foldl (fun recipients last => recipients ∪ last.1.recipients.toFinset) ∅

def allRevokedRecipients (order : HashOrder UserID) (storage : Storage)
    (recipients : Finset UserID) : Except ShamirViewError (Finset UserID) :=
  (order.list recipients).foldlM (fun revoked recipient => do
    return if ← isRevokedNow storage recipient then insert recipient revoked else revoked) ∅

def otherInfo (allRevoked : Finset UserID) (last : ShamirRecoveryBriefCertificate ×
    Option ShamirRecoveryDeletionCertificate) : Except ShamirViewError OtherShamirRecoveryInfo :=
  match last with
  | (brief, some deletion) =>
    return .deleted brief.userId brief.setup deletion.timestamp deletion.author
  | (brief, none) => Except.mapError .panicked do
    let counts ← brief.perRecipientShares.foldlM
      (fun counts share => countShare counts share (share.1 ∈ allRevoked)) ⟨0, 0, ∅⟩
    arrange counts brief.threshold (.setupAllValid brief.userId brief.setup)
      (.setupWithRevokedRecipients brief.userId brief.setup)
      (.setupButUnusable brief.userId brief.setup)

def OtherShamirRecoveryInfo.setup : OtherShamirRecoveryInfo → ShamirSetup
  | .deleted _ setup _ _ => setup
  | .setupAllValid _ setup => setup
  | .setupWithRevokedRecipients _ setup _ => setup
  | .setupButUnusable _ setup _ => setup

def OtherShamirRecoveryInfo.userId : OtherShamirRecoveryInfo → UserID
  | .deleted userId _ _ _ => userId
  | .setupAllValid userId _ => userId
  | .setupWithRevokedRecipients userId _ _ => userId
  | .setupButUnusable userId _ _ => userId

def listShamirRecoveriesForOthers (order : HashOrder UserID) (device : LocalDevice)
    (storage : Storage) : Except ShamirViewError (List OtherShamirRecoveryInfo) := do
  let briefs ← (storage.getShamirRecoveryBriefs .current).mapError .internal
  let perUser := briefs.foldl (keepBrief device.userId) ∅
  let deletions ← (storage.getShamirRecoveryDeletions .current).mapError .internal
  let perUser := deletions.foldl markDeleted perUser
  let lasts := valuesIn order perUser
  let allRevoked ← allRevokedRecipients order storage (allRecipients lasts)
  let infos ← lasts.mapM (otherInfo allRevoked)
  return infos.insertionSort fun a b => a.setup.createdOn ≤ b.setup.createdOn

end ListView

section ShareView

inductive CertifGetShamirRecoveryShareDataError where
  | shamirRecoveryBriefCertificateNotFound
  | shamirRecoveryShareCertificateNotFound
  | shamirRecoveryDeleted
  | shamirRecoveryUnusable
  | corruptedShareData (error : LoadError)
  | offline
  | invalidCertificate (error : InvalidCertificateError)
  | invalidRequirements
  | internal (message : String)
  | panicked (panic : Panic)

def CertifForReadWithRequirementsError.forShareData :
    CertifForReadWithRequirementsError → CertifGetShamirRecoveryShareDataError
  | .offline => .offline
  | .invalidCertificate error => .invalidCertificate error
  | .invalidRequirements => .invalidRequirements
  | .internal message => .internal message
  | .panicked panic => .panicked panic

def ShamirViewError.forShareData : ShamirViewError → CertifGetShamirRecoveryShareDataError
  | .internal message => .internal message
  | .panicked panic => .panicked panic

/-- PerTopicLastTimestamps::new_for_shamir -/
def newForShamir (shamirTimestamp : DateTime) : PerTopicLastTimestamps :=
  ⟨none, none, ∅, some shamirTimestamp⟩

def countUsable (storage : Storage) (usable : Nat) (share : UserID × Nat) :
    Except ShamirViewError Nat := do
  if ← isRevokedNow storage share.1 then return usable
  else (add usable share.2).mapError .panicked

/-- The share of the last setup of a user, when it is the one that is asked for and is usable. -/
def usableShare (device : LocalDevice) (userId : UserID) (createdOn : DateTime)
    (storage : Storage) :
    Except CertifGetShamirRecoveryShareDataError ShamirRecoveryShareCertificate := do
  let deletions ← (storage.getShamirRecoveryDeletions .current).mapError .internal
  if deletions.any fun deletion => deletion.setupToDeleteUserId = userId ∧
      deletion.setupToDeleteTimestamp = createdOn then
    throw .shamirRecoveryDeleted
  let brief ← (storage.getLastShamirRecoveryBriefCertificateForAuthor .current userId).mapError
    .internal
  match brief.filter fun brief => brief.timestamp = createdOn with
  | none => throw .shamirRecoveryBriefCertificateNotFound
  | some brief =>
    let share ← (storage.getLastShamirRecoveryShareCertificateForRecipient .current userId
      device.userId).mapError .internal
    match share.filter fun share => share.timestamp = createdOn with
    | none => throw .shamirRecoveryShareCertificateNotFound
    | some share =>
      let usable ← (brief.perRecipientShares.foldlM (countUsable storage) 0).mapError
        ShamirViewError.forShareData
      if usable < brief.threshold then throw .shamirRecoveryUnusable
      return share

/-- The message, less the share that is printed in it. -/
def authorNotStored : String :=
  "Local storage of certificates seems corrupted: Shamir recovery share certificate has been " ++
    "validated, but its author's certificate doesn't exist"

variable {ShareData : Type} (device : LocalDevice)
  (decryptVerifyAndLoadFor : ShamirRecoveryShareCertificate → VerifyKey → Except LoadError ShareData)

def readShareData (userId : UserID) (createdOn : DateTime) (store : Store) :
    Except CertifGetShamirRecoveryShareDataError ShareData × Store :=
  match usableShare device userId createdOn store.storage with
  | .error error => (.error error, store)
  | .ok share =>
    match store.getDeviceVerifyKeyAndUserId .current share.author with
    | .error .nonExisting => (.error (.internal authorNotStored), store)
    | .error (.existButTooRecent _) =>
      (.error (.panicked (.assert "internal error: entered unreachable code")), store)
    | .error (.internal message) => (.error (.internal message), store)
    | .ok ((authorVerifyKey, _), store) =>
      ((decryptVerifyAndLoadFor share authorVerifyKey).mapError .corruptedShareData, store)

def getShamirRecoveryShareData (answers : List (Option Batch)) (userId : UserID)
    (shamirRecoveryCreatedOn : DateTime) (store : Store) :
    Except CertifGetShamirRecoveryShareDataError ShareData × Store :=
  match forReadWithRequirements device (newForShamir shamirRecoveryCreatedOn) answers
    (readShareData device decryptVerifyAndLoadFor userId shamirRecoveryCreatedOn) store with
  | (.ok result, store) => (result, store)
  | (.error error, store) => (.error error.forShareData, store)

end ShareView

end ParsecCloud.Certif
