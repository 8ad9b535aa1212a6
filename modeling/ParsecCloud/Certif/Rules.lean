import ParsecCloud.Certif.Insertion
import ParsecCloud.Certif.Add
import ParsecCloud.Lib.Journal

/- The rules that an accepted certificate meets, stated over the rows that were stored when it
   was validated and without the queries of the code. -/
namespace ParsecCloud.Certif
open Rust HashMap Storage Journal

def Storage.roles (rows : Storage) (id : VlobID) : List RealmRoleCertificate :=
  (rows.filterMap isRealmRole).filter fun certif => certif.realmId = id

/-- The role each user has once the certificates are applied one after the other. -/
def roleAfter (roles : List RealmRoleCertificate) : UserID → Option RealmRole :=
  roles.foldl (fun given certif => Function.update given certif.userId certif.role) fun _ => none

def isOwnerOrManager (role : Option RealmRole) : Prop :=
  role = some .owner ∨ role = some .manager

/-- Whether an author with a role can change the one of another user. -/
def MayChange (author : RealmRole) (old new : Option RealmRole) : Prop :=
  (isOwnerOrManager old ∨ isOwnerOrManager new → author = .owner) ∧
    (author = .owner ∨ author = .manager)

section Rows
variable (rows : Storage) (date : DateTime) (user : UserID)

def HasDevice (device : DeviceID) : Prop :=
  ∃ certif, .common (.device certif) ∈ rows ∧ certif.deviceId = device ∧ certif.userId = user ∧
    certif.timestamp ≤ date

def Registered : Prop :=
  ∃ certif, .common (.user certif) ∈ rows ∧ certif.userId = user ∧ certif.timestamp ≤ date

def NotRevoked : Prop :=
  ∀ certif, .common (.revokedUser certif) ∈ rows → certif.userId = user → date < certif.timestamp

/-- The profile of a user at a date: the one of the last update, or else the initial one. -/
inductive HasProfile : UserProfile → Prop where
  | updated (certif : UserUpdateCertificate) : .common (.userUpdate certif) ∈ rows →
      certif.userId = user → certif.timestamp ≤ date →
      (∀ other, .common (.userUpdate other) ∈ rows → other.userId = user →
        other.timestamp ≤ date → other.timestamp ≤ certif.timestamp) →
      HasProfile certif.newProfile
  | initial (certif : UserCertificate) : .common (.user certif) ∈ rows →
      certif.userId = user → certif.timestamp ≤ date →
      (∀ other, .common (.userUpdate other) ∈ rows → other.userId = user →
        date < other.timestamp) →
      HasProfile certif.profile

def AfterCommon : Prop := ∀ certif, .common certif ∈ rows → certif.timestamp < date

def AfterRealm (id : VlobID) : Prop :=
  ∀ certif, .realm certif ∈ rows → certif.realmId = id → certif.timestamp < date

/-- An administrator who is not revoked. -/
structure ByAdmin (device : DeviceID) : Prop where
  ofUser : HasDevice rows date user device
  notRevoked : NotRevoked rows date user
  admin : HasProfile rows date user .admin

/-- What the user of a role certificate has to be. -/
structure MayReceive (role : Option RealmRole) : Prop where
  registered : Registered rows date user
  notRevoked : role.isSome → NotRevoked rows date user
  notOutsider : isOwnerOrManager role → ¬ HasProfile rows date user .outsider

end Rows

structure NewDevice (rows : Storage) (certif : DeviceCertificate) : Prop where
  new : ∀ other, .common (.device other) ∈ rows → other.deviceId ≠ certif.deviceId
  notRevoked : NotRevoked rows certif.timestamp certif.userId

inductive Accepted (rows : Storage) : Certificate → Prop where
  | bootstrap (certif : UserCertificate) : certif.author = .root →
      (∀ other, .common other ∉ rows) → Accepted rows (.common (.user certif))
  | user (certif : UserCertificate) (author : DeviceID) (admin : UserID) :
      certif.author = .user author → ByAdmin rows certif.timestamp admin author →
      (∀ other, .common (.user other) ∈ rows → other.userId ≠ certif.userId) →
      AfterCommon rows certif.timestamp → Accepted rows (.common (.user certif))
  | firstDevice (certif : DeviceCertificate) (related : UserCertificate) :
      .common (.user related) ∈ rows → related.userId = certif.userId →
      related.author = certif.author → related.timestamp = certif.timestamp →
      (∀ author, certif.author = .user author → ∃ admin, admin ≠ certif.userId ∧
        ByAdmin rows certif.timestamp admin author) →
      (∀ other, .common other ∈ rows → other.timestamp ≤ certif.timestamp) →
      NewDevice rows certif → Accepted rows (.common (.device certif))
  | device (certif : DeviceCertificate) (author : DeviceID) : certif.author = .user author →
      HasDevice rows certif.timestamp certif.userId author →
      AfterCommon rows certif.timestamp → NewDevice rows certif →
      Accepted rows (.common (.device certif))
  | userUpdate (certif : UserUpdateCertificate) (admin : UserID) :
      ByAdmin rows certif.timestamp admin certif.author → admin ≠ certif.userId →
      Registered rows certif.timestamp certif.userId →
      NotRevoked rows certif.timestamp certif.userId →
      ¬ HasProfile rows certif.timestamp certif.userId certif.newProfile →
      AfterCommon rows certif.timestamp → Accepted rows (.common (.userUpdate certif))
  | revokedUser (certif : RevokedUserCertificate) (admin : UserID) :
      ByAdmin rows certif.timestamp admin certif.author → admin ≠ certif.userId →
      Registered rows certif.timestamp certif.userId →
      NotRevoked rows certif.timestamp certif.userId →
      AfterCommon rows certif.timestamp → Accepted rows (.common (.revokedUser certif))
  | firstRole (certif : RealmRoleCertificate) : rows.roles certif.realmId = [] →
      HasDevice rows certif.timestamp certif.userId certif.author → certif.role = some .owner →
      MayReceive rows certif.timestamp certif.userId certif.role →
      AfterRealm rows certif.timestamp certif.realmId → Accepted rows (.realm (.role certif))
  -- the author is not compared with the user of the certificate and may be revoked
  | role (certif : RealmRoleCertificate) (author : UserID) (authorRole : RealmRole) :
      rows.roles certif.realmId ≠ [] →
      HasDevice rows certif.timestamp author certif.author →
      roleAfter (rows.roles certif.realmId) author = some authorRole →
      MayChange authorRole (roleAfter (rows.roles certif.realmId) certif.userId) certif.role →
      roleAfter (rows.roles certif.realmId) certif.userId ≠ certif.role →
      MayReceive rows certif.timestamp certif.userId certif.role →
      AfterRealm rows certif.timestamp certif.realmId → Accepted rows (.realm (.role certif))
  | byOwner (certif : RealmCertificate) (author : DeviceID) (owner : UserID) :
      (∀ role, certif ≠ .role role) →
      (Certificate.realm certif).author = some (.user author) →
      rows.roles certif.realmId ≠ [] → HasDevice rows certif.timestamp owner author →
      NotRevoked rows certif.timestamp owner →
      roleAfter (rows.roles certif.realmId) owner = some .owner →
      AfterRealm rows certif.timestamp certif.realmId → Accepted rows (.realm certif)
  | shamirRecovery (certif : ShamirRecoveryCertificate) (author : DeviceID) (user : UserID) :
      (Certificate.shamirRecovery certif).author = some (.user author) →
      HasDevice rows certif.timestamp user author → NotRevoked rows certif.timestamp user →
      (∀ other, .shamirRecovery other ∈ rows → other.timestamp ≤ certif.timestamp) →
      Accepted rows (.shamirRecovery certif)
  | sequester (certif : SequesterCertificate) :
      (∀ other, .sequester other ∈ rows → other.timestamp ≤ certif.timestamp) →
      Accepted rows (.sequester certif)

section History
variable {rows : Storage} {date : DateTime} {user : UserID} {id : VlobID}

theorem Accepted.afterUpdate {certif : UserUpdateCertificate}
    (accepted : Accepted rows (.common (.userUpdate certif))) :
    AfterCommon rows certif.timestamp := by
  cases accepted
  assumption

theorem Accepted.newUser {certif other : UserCertificate}
    (accepted : Accepted rows (.common (.user certif))) (stored : .common (.user other) ∈ rows) :
    other.userId ≠ certif.userId := by
  cases accepted with
  | bootstrap _ _ none => exact absurd stored (none _)
  | user _ _ _ _ _ new => exact new other stored

theorem Accepted.newDevice {certif : DeviceCertificate}
    (accepted : Accepted rows (.common (.device certif))) : NewDevice rows certif := by
  cases accepted <;> assumption

theorem Accepted.afterRealm {certif : RealmCertificate}
    (accepted : Accepted rows (.realm certif)) :
    AfterRealm rows certif.timestamp certif.realmId := by
  cases accepted <;> assumption

variable (history : Admitted Accepted rows)

include history

theorem updates_unique {a b : UserUpdateCertificate} (first : .common (.userUpdate a) ∈ rows)
    (second : .common (.userUpdate b) ∈ rows) (same : a.timestamp = b.timestamp) : a = b := by
  have unique := history.unique (S := fun x y => ∃ a b, x = .common (.userUpdate a) ∧
    y = .common (.userUpdate b) ∧ a.timestamp = b.timestamp) ?_ ?_ _ first _ second
    ⟨a, b, rfl, rfl, same⟩
  · cases unique
    rfl
  · rintro x y ⟨a, b, first, second, same⟩
    exact ⟨b, a, second, first, same.symm⟩
  · rintro before _ _ accepted _ earlier ⟨a, b, rfl, rfl, same⟩
    have := accepted.afterUpdate _ earlier
    exact absurd same (ne_of_lt this)

theorem users_unique {a b : UserCertificate} (first : .common (.user a) ∈ rows)
    (second : .common (.user b) ∈ rows) (same : a.userId = b.userId) : a = b := by
  have unique := history.unique (S := fun x y => ∃ a b, x = .common (.user a) ∧
    y = .common (.user b) ∧ a.userId = b.userId) ?_ ?_ _ first _ second ⟨a, b, rfl, rfl, same⟩
  · cases unique
    rfl
  · rintro x y ⟨a, b, first, second, same⟩
    exact ⟨b, a, second, first, same.symm⟩
  · rintro before _ _ accepted _ earlier ⟨a, b, rfl, rfl, same⟩
    exact absurd same (accepted.newUser earlier)

theorem devices_unique : DistinctDevices rows := by
  intro a b first second same
  have unique := history.unique (S := fun x y => ∃ a b, x = .common (.device a) ∧
    y = .common (.device b) ∧ a.deviceId = b.deviceId) ?_ ?_ _ first _ second
    ⟨a, b, rfl, rfl, same⟩
  · cases unique
    rfl
  · rintro x y ⟨a, b, first, second, same⟩
    exact ⟨b, a, second, first, same.symm⟩
  · rintro before _ _ accepted _ earlier ⟨a, b, rfl, rfl, same⟩
    exact absurd same (accepted.newDevice.new a earlier)

theorem HasProfile.unique {p q : UserProfile} (first : HasProfile rows date user p)
    (second : HasProfile rows date user q) : p = q := by
  cases first with
  | updated a stored ofUser early last =>
    cases second with
    | updated b stored' ofUser' early' last' =>
      have same := le_antisymm (last' a stored ofUser early) (last b stored' ofUser' early')
      rw [updates_unique history stored stored' same]
    | initial b _ _ _ late => exact absurd early (not_le.mpr (late a stored ofUser))
  | initial a stored ofUser _ late =>
    cases second with
    | updated b stored' ofUser' early' _ => exact absurd early' (not_le.mpr (late b stored' ofUser'))
    | initial b stored' ofUser' =>
      rw [users_unique history stored stored' (ofUser.trans ofUser'.symm)]

theorem realm_ordered : rows.Pairwise fun a b => ∀ x y, a = .realm x → b = .realm y →
    x.realmId = y.realmId → x.timestamp < y.timestamp := by
  apply history.pairwise
  rintro before _ accepted _ earlier x y rfl rfl same
  exact accepted.afterRealm x earlier same

/-- The certificates of a realm are stored from the oldest to the newest, so a query returns them
    in the order of the rows. -/
theorem getMultiple_realm {α : Type} {query : GetCertificateQuery}
    {expected : Certificate → Option α} {wrap : α → RealmCertificate}
    (selects : Selects query expected (fun a => .realm (wrap a)) fun a => (wrap a).realmId = id)
    (upTo : UpTo) :
    rows.getMultiple query upTo expected = .ok ((rows.filterMap expected).filter fun a =>
      (wrap a).realmId = id ∧ upTo.covers (wrap a).timestamp) := by
  rw [selects.getMultiple_sorted, selects.filterMap_select]
  · rfl
  · apply ((realm_ordered history).filter _).imp_of_mem
    intro a b first second ordered
    obtain ⟨x, rfl, ofRealm⟩ := selects.exists_wrap first
    obtain ⟨y, rfl, ofRealm'⟩ := selects.exists_wrap second
    exact le_of_lt (ordered _ _ rfl rfl (ofRealm.trans ofRealm'.symm))

end History

end ParsecCloud.Certif
