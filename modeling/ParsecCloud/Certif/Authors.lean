import ParsecCloud.Certif.History

/- Who may sign: no certificate of a revoked author, and only the first device of a user is
   created by somebody else. Both need of the batches what the checks leave out. -/
namespace ParsecCloud.Certif
open Rust Storage Journal Runs

variable {device : LocalDevice} {store : Store} {rows : Storage}

/-- No certificate is signed by a device of a user whose revocation, not later than the
    certificate, was already stored when it was validated. -/
def NoRevokedAuthor (storage : Storage) : Prop :=
  ∀ before certif after, storage = before ++ certif :: after →
    ∀ device, .common (.device device) ∈ storage →
      certif.author = some (.user device.deviceId) →
      NotRevoked before certif.timestamp device.userId

def RoleAuthorNotRevoked (rows : Storage) (certif : Certificate) : Prop :=
  ∀ role, certif = .realm (.role role) → ∀ device, .common (.device device) ∈ rows →
    device.deviceId = role.author → NotRevoked rows role.timestamp device.userId

theorem Accepted.author_known {certif : Certificate} (accepted : Accepted rows certif)
    {id : DeviceID} (author : certif.author = some (.user id)) :
    ∃ user, HasDevice rows certif.timestamp user id ∧
      ((∀ role, certif ≠ .realm (.role role)) → NotRevoked rows certif.timestamp user) := by
  cases accepted with
  | bootstrap certif root =>
    rw [Certificate.author, root] at author
    cases author
  | user certif device admin signed byAdmin =>
    rw [Certificate.author, signed] at author
    cases author
    exact ⟨admin, byAdmin.ofUser, fun _ => byAdmin.notRevoked⟩
  | firstDevice certif _ _ _ _ _ signed =>
    obtain ⟨admin, _, byAdmin⟩ := signed id (Option.some.inj author)
    exact ⟨admin, byAdmin.ofUser, fun _ => byAdmin.notRevoked⟩
  | device certif device signed ofUser _ new =>
    rw [Certificate.author, signed] at author
    cases author
    exact ⟨certif.userId, ofUser, fun _ => new.notRevoked⟩
  | userUpdate certif admin byAdmin =>
    cases author
    exact ⟨admin, byAdmin.ofUser, fun _ => byAdmin.notRevoked⟩
  | revokedUser certif admin byAdmin =>
    cases author
    exact ⟨admin, byAdmin.ofUser, fun _ => byAdmin.notRevoked⟩
  | firstRole certif _ ofUser =>
    cases author
    exact ⟨certif.userId, ofUser, fun notRole => absurd rfl (notRole certif)⟩
  | role certif user _ _ ofUser =>
    cases author
    exact ⟨user, ofUser, fun notRole => absurd rfl (notRole certif)⟩
  | byOwner certif device owner _ signed _ ofUser notRevoked =>
    rw [signed] at author
    cases author
    exact ⟨owner, ofUser, fun _ => notRevoked⟩
  | shamirRecovery certif device user signed ofUser notRevoked =>
    rw [signed] at author
    cases author
    exact ⟨user, ofUser, fun _ => notRevoked⟩
  | sequester certif => cases author

theorem author_before {storage before : Storage} (history : Admitted Accepted storage)
    (within : before ⊆ storage) {date : DateTime} {user : UserID} {device : DeviceCertificate}
    (stored : .common (.device device) ∈ storage)
    (ofUser : HasDevice before date user device.deviceId) :
    .common (.device device) ∈ before ∧ device.userId = user ∧ device.timestamp ≤ date := by
  obtain ⟨known, earlier, same, ofUser, early⟩ := ofUser
  cases devices_unique history known device (within earlier) stored same
  exact ⟨earlier, ofUser, early⟩

theorem no_revoked_author (reached : Reached device RoleAuthorNotRevoked store) :
    NoRevokedAuthor store.storage := by
  obtain ⟨history, met⟩ := reached.spec
  intro before certif after split author stored signed
  have within : before ⊆ store.storage := by
    rw [split]
    exact List.subset_append_left before (certif :: after)
  obtain ⟨user, ofUser, notRevoked⟩ :=
    (history before certif after split).author_known signed
  obtain ⟨earlier, rfl, _⟩ := author_before history within stored ofUser
  by_cases isRole : ∃ role, certif = .realm (.role role)
  · obtain ⟨role, rfl⟩ := isRole
    have same : role.author = author.deviceId := by simpa [Certificate.author] using signed
    exact met before _ after split role rfl author earlier same.symm
  · exact notRevoked fun role same => isRole ⟨role, same⟩

namespace Samples

def alice : UserID := ⟨1⟩
def bob : UserID := ⟨2⟩
def alice1 : DeviceID := ⟨11⟩
def bob1 : DeviceID := ⟨21⟩
def wksp : VlobID := ⟨5⟩

def self : LocalDevice := ⟨alice, .admin, ⟨0⟩⟩

def aliceUser : UserCertificate := ⟨.root, 1, alice, .admin⟩
def aliceDevice : DeviceCertificate := ⟨.root, 1, alice, alice1, ⟨11⟩⟩
def bobUser : UserCertificate := ⟨.user alice1, 2, bob, .standard⟩
def bobDevice : DeviceCertificate := ⟨.user alice1, 2, bob, bob1, ⟨21⟩⟩
def bobRevoked : RevokedUserCertificate := ⟨alice1, 10, bob⟩

def enrollment : List (Signed CommonCertificate) :=
  [.certificate (.user aliceUser) ⟨0⟩, .certificate (.device aliceDevice) ⟨0⟩,
    .certificate (.user bobUser) ⟨11⟩, .certificate (.device bobDevice) ⟨11⟩]

def role (author : DeviceID) (timestamp : DateTime) (user : UserID) (given : Option RealmRole) :
    Signed RealmCertificate :=
  .certificate (.role ⟨author, timestamp, wksp, user, given⟩) ⟨author.uuid⟩

def batch (common : List (Signed CommonCertificate)) (realm : List (Signed RealmCertificate)) :
    Batch where
  common := common
  sequester := []
  shamirRecovery := []
  realm := [(wksp, realm)]
  distinct := List.nodup_singleton wksp

def demotion (timestamp : DateTime) : Batch :=
  batch (enrollment ++ [.certificate (.revokedUser bobRevoked) ⟨11⟩])
    [role alice1 3 alice (some .owner), role alice1 4 bob (some .owner),
      role bob1 timestamp alice (some .reader)]

end Samples

open Samples

theorem reached_batch (device : LocalDevice) {P : Storage → Certificate → Prop} {batch : Batch}
    (admits : Admits P (Store.start []) batch)
    (run : ∃ outcome store, addCertificatesBatch device batch (Store.start [])
      = .ok (outcome, store) ∧ store.storage = batch.arrivals) :
    ∃ store, Reached device P store ∧ store.storage = batch.arrivals := by
  obtain ⟨outcome, store, run, stored⟩ := run
  exact ⟨store, .step .start admits ⟨outcome, run⟩, stored⟩

theorem reachable_batch (device : LocalDevice) (batch : Batch)
    (run : ∃ outcome store, addCertificatesBatch device batch (Store.start [])
      = .ok (outcome, store) ∧ store.storage = batch.arrivals) :
    ∃ store, Reachable device store ∧ store.storage = batch.arrivals :=
  reached_batch device (fun _ _ _ _ => trivial) run

set_option maxRecDepth 10000 in
/-- The certificate of an author revoked later is accepted. -/
theorem no_revoked_author_demotion : ∃ store, Reached self RoleAuthorNotRevoked store ∧
    store.storage = (demotion 5).arrivals ∧ NoRevokedAuthor store.storage := by
  have admits : Admits RoleAuthorNotRevoked (Store.start []) (demotion 5) := by
    simp [Admits, admitted_cons, admitted_nil, RoleAuthorNotRevoked, NotRevoked, Batch.arrivals,
      Signed.certificates, Store.start, demotion, batch, role, enrollment, aliceDevice, bobDevice,
      bobRevoked, alice, bob, alice1, bob1]
  obtain ⟨store, reached, stored⟩ := reached_batch self admits ⟨_, _, rfl, rfl⟩
  exact ⟨store, reached, stored, no_revoked_author reached⟩

set_option maxRecDepth 10000 in
/-- The certificate of an author revoked earlier is accepted as well. -/
theorem revoked_author_accepted :
    ∃ store, Reachable self store ∧ ¬ NoRevokedAuthor store.storage := by
  obtain ⟨store, reached, stored⟩ := reachable_batch self (demotion 20) ⟨_, _, rfl, rfl⟩
  refine ⟨store, reached, fun safe => ?_⟩
  rw [stored] at safe
  have early : (20 : DateTime) < 10 :=
    safe ((demotion 20).arrivals.take 7) (.realm (.role ⟨bob1, 20, wksp, alice, some .reader⟩)) []
      rfl bobDevice (List.mem_of_getElem? (i := 3) rfl) rfl bobRevoked
      (List.mem_of_getElem? (i := 4) rfl) rfl
  exact absurd early (by decide)

/-- A device certificate signed by the root key or by a device of another user. -/
def ForeignDevice (storage : Storage) (certif : DeviceCertificate) : Prop :=
  certif.author = .root ∨ ∃ other, .common (.device other) ∈ storage ∧
    certif.author = .user other.deviceId ∧ other.userId ≠ certif.userId

/-- A device certificate signed by an earlier device of the same user. -/
def OwnDevice (storage : Storage) (certif : DeviceCertificate) : Prop :=
  ∃ other, .common (.device other) ∈ storage ∧ certif.author = .user other.deviceId ∧
    other.userId = certif.userId ∧ other.timestamp < certif.timestamp

structure FirstDeviceOnly (storage : Storage) : Prop where
  foreignOnce : ∀ a b, .common (.device a) ∈ storage → .common (.device b) ∈ storage →
    a.userId = b.userId → ForeignDevice storage a → ForeignDevice storage b → a = b
  foreignEarliest : ∀ a b, .common (.device a) ∈ storage → .common (.device b) ∈ storage →
    a.userId = b.userId → ForeignDevice storage a → a ≠ b → a.timestamp < b.timestamp
  foreignWithUser : ∀ a, .common (.device a) ∈ storage → ForeignDevice storage a →
    ∃ user, .common (.user user) ∈ storage ∧ user.userId = a.userId ∧
      user.timestamp = a.timestamp ∧ user.author = a.author
  userOnce : ∀ a b, .common (.user a) ∈ storage → .common (.user b) ∈ storage →
    a.userId = b.userId → a = b
  others : ∀ a, .common (.device a) ∈ storage → ForeignDevice storage a ∨ OwnDevice storage a
  rootUserOnce : ∀ a b, .common (.user a) ∈ storage → .common (.user b) ∈ storage →
    a.author = .root → b.author = .root → a = b
  rootDeviceOnce : ∀ a b, .common (.device a) ∈ storage → .common (.device b) ∈ storage →
    a.author = .root → b.author = .root → a = b

/-- A device signed by somebody else comes when the user has no device. -/
def ForeignDeviceFirst (rows : Storage) (certif : Certificate) : Prop :=
  ∀ device, certif = .common (.device device) → ForeignDevice rows device →
    ∀ other, .common (.device other) ∈ rows → other.userId ≠ device.userId

section Devices
variable {storage before : Storage} {certif : DeviceCertificate}
variable (history : Admitted Accepted storage) (within : before ⊆ storage)
variable (accepted : Accepted before (.common (.device certif)))

include accepted in
theorem Accepted.foreign_or_own : ForeignDevice before certif ∧
    (∃ user, .common (.user user) ∈ before ∧ user.userId = certif.userId ∧
      user.timestamp = certif.timestamp ∧ user.author = certif.author) ∨
    OwnDevice before certif ∧ AfterCommon before certif.timestamp := by
  cases accepted with
  | firstDevice _ user stored ofUser sameAuthor sameTimestamp signed =>
    refine .inl ⟨?_, user, stored, ofUser, sameTimestamp, sameAuthor⟩
    cases author : certif.author with
    | root => exact .inl author
    | user id =>
      obtain ⟨admin, different, ⟨other, stored, same, ofAdmin, _⟩, _⟩ := signed id author
      subst ofAdmin
      exact .inr ⟨other, stored, by rw [author, same], different⟩
  | device _ id author ofUser newest =>
    obtain ⟨other, stored, same, ofUser, _⟩ := ofUser
    exact .inr ⟨⟨other, stored, by rw [author, same], ofUser, newest _ stored⟩, newest⟩

include history within accepted in
theorem foreign_before (foreign : ForeignDevice storage certif) : ForeignDevice before certif := by
  rcases accepted.foreign_or_own with ⟨known, _⟩ | ⟨⟨other, stored, author, ofUser, _⟩, _⟩
  · exact known
  · rcases foreign with root | ⟨signer, stored', author', different⟩
    · rw [root] at author
      cases author
    · rw [author] at author'
      cases devices_unique history other signer (within stored) stored' (by simpa using author')
      exact absurd ofUser different

end Devices

section FirstDevice
variable {storage : Storage} (history : Admitted Accepted storage)

include history

/-- Of two devices of a user, the later one is newer and not foreign. -/
theorem devices_ordered (met : Admitted ForeignDeviceFirst storage) {a b : DeviceCertificate}
    (first : .common (.device a) ∈ storage) (second : .common (.device b) ∈ storage)
    (same : a.userId = b.userId) :
    a = b ∨ (¬ ForeignDevice storage b ∧ a.timestamp < b.timestamp) ∨
      (¬ ForeignDevice storage a ∧ b.timestamp < a.timestamp) := by
  have both : Admitted (fun before certif => Accepted before certif ∧
      ForeignDeviceFirst before certif) storage := fun before certif after split =>
    ⟨history before certif after split, met before certif after split⟩
  have ordered := both.ordered (R := fun x y => ∀ a b, x = .common (.device a) →
    y = .common (.device b) → a.userId = b.userId →
    ¬ ForeignDevice storage b ∧ a.timestamp < b.timestamp) ?_ _ first _ second
  · rcases ordered with equal | earlier | later
    · cases equal
      exact .inl rfl
    · exact .inr (.inl (earlier a b rfl rfl same))
    · exact .inr (.inr (later b a rfl rfl same.symm))
  · rintro before _ within ⟨accepted, alone⟩ _ earlier a b rfl rfl same
    refine ⟨fun foreign => ?_, ?_⟩
    · exact alone b rfl (foreign_before history within accepted foreign) a earlier same
    · rcases accepted.foreign_or_own with ⟨foreign, _⟩ | ⟨_, newest⟩
      · exact absurd same (alone b rfl foreign a earlier)
      · exact newest _ earlier

theorem foreign_with_user {certif : DeviceCertificate} (stored : .common (.device certif) ∈ storage)
    (foreign : ForeignDevice storage certif) :
    ∃ user, .common (.user user) ∈ storage ∧ user.userId = certif.userId ∧
      user.timestamp = certif.timestamp ∧ user.author = certif.author := by
  obtain ⟨before, within, accepted⟩ := history.mem stored
  rcases accepted.foreign_or_own with ⟨_, user, known, related⟩ | ⟨own, _⟩
  · exact ⟨user, within known, related⟩
  · obtain ⟨other, known, author, ofUser, _⟩ := own
    rcases foreign_before history within accepted foreign with root | ⟨signer, known', author', different⟩
    · rw [root] at author
      cases author
    · rw [author] at author'
      cases devices_unique history other signer (within known) (within known')
        (by simpa using author')
      exact absurd ofUser different

theorem foreign_or_own {certif : DeviceCertificate} (stored : .common (.device certif) ∈ storage) :
    ForeignDevice storage certif ∨ OwnDevice storage certif := by
  obtain ⟨before, within, accepted⟩ := history.mem stored
  rcases accepted.foreign_or_own with ⟨root | ⟨other, known, signed⟩, _⟩ | ⟨⟨other, known, signed⟩, _⟩
  · exact .inl (.inl root)
  · exact .inl (.inr ⟨other, within known, signed⟩)
  · exact .inr ⟨other, within known, signed⟩

theorem root_users_unique {a b : UserCertificate} (first : .common (.user a) ∈ storage)
    (second : .common (.user b) ∈ storage) (rootA : a.author = .root) (rootB : b.author = .root) :
    a = b := by
  have unique := history.unique (S := fun x y => ∃ a b, x = .common (.user a) ∧
    y = .common (.user b) ∧ a.author = .root ∧ b.author = .root) ?_ ?_ _ first _ second
    ⟨a, b, rfl, rfl, rootA, rootB⟩
  · cases unique
    rfl
  · rintro x y ⟨a, b, first, second, rootA, rootB⟩
    exact ⟨b, a, second, first, rootB, rootA⟩
  · rintro before _ _ accepted _ earlier ⟨a, b, rfl, rfl, _, root⟩
    cases accepted with
    | bootstrap _ _ none => exact none _ earlier
    | user _ _ _ author =>
      rw [root] at author
      cases author

end FirstDevice

theorem first_device_only (reached : Reached device ForeignDeviceFirst store) :
    FirstDeviceOnly store.storage := by
  obtain ⟨history, met⟩ := reached.spec
  have foreignOnce : ∀ a b, .common (.device a) ∈ store.storage →
      .common (.device b) ∈ store.storage → a.userId = b.userId →
      ForeignDevice store.storage a → ForeignDevice store.storage b → a = b := by
    intro a b first second same foreignA foreignB
    rcases devices_ordered history met first second same with equal | ⟨own, _⟩ | ⟨own, _⟩
    · exact equal
    · exact absurd foreignB own
    · exact absurd foreignA own
  refine ⟨foreignOnce, ?_, fun a => foreign_with_user history, fun a b => users_unique history,
    fun a => foreign_or_own history, fun a b => root_users_unique history, ?_⟩
  · intro a b first second same foreign different
    rcases devices_ordered history met first second same with equal | ⟨_, older⟩ | ⟨own, _⟩
    · exact absurd equal different
    · exact older
    · exact absurd foreign own
  · intro a b first second rootA rootB
    obtain ⟨userA, storedA, ofA, _, authorA⟩ := foreign_with_user history first (.inl rootA)
    obtain ⟨userB, storedB, ofB, _, authorB⟩ := foreign_with_user history second (.inl rootB)
    have users := root_users_unique history storedA storedB (authorA.trans rootA)
      (authorB.trans rootB)
    have same : a.userId = b.userId := by rw [← ofA, ← ofB, users]
    exact foreignOnce a b first second same (.inl rootA) (.inl rootB)

namespace Samples

def bob2 : DeviceID := ⟨22⟩

def secondDevice (author : DeviceID) (timestamp : DateTime) : Batch :=
  batch (enrollment ++ [.certificate (.device ⟨.user author, timestamp, bob, bob2, ⟨22⟩⟩)
    ⟨author.uuid⟩]) []

end Samples

set_option maxRecDepth 10000 in
/-- Bob adds a second device himself. -/
theorem first_device_only_second : ∃ store, Reached self ForeignDeviceFirst store ∧
    store.storage = (secondDevice bob1 3).arrivals ∧ FirstDeviceOnly store.storage := by
  have admits : Admits ForeignDeviceFirst (Store.start []) (secondDevice bob1 3) := by
    simp [Admits, admitted_cons, admitted_nil, ForeignDeviceFirst, ForeignDevice, Batch.arrivals,
      Signed.certificates, Store.start, secondDevice, batch, enrollment, aliceDevice, bobDevice,
      alice, bob, alice1, bob1, bob2]
  obtain ⟨store, reached, stored⟩ := reached_batch self admits ⟨_, _, rfl, rfl⟩
  exact ⟨store, reached, stored, first_device_only reached⟩

set_option maxRecDepth 10000 in
/-- Alice adds a second device to Bob, at the timestamp of the first one. -/
theorem second_foreign_device :
    ∃ store, Reachable self store ∧ ¬ FirstDeviceOnly store.storage := by
  obtain ⟨store, reached, stored⟩ := reachable_batch self (secondDevice alice1 2) ⟨_, _, rfl, rfl⟩
  refine ⟨store, reached, fun safe => ?_⟩
  rw [stored] at safe
  have different : alice ≠ bob := by decide
  have foreign : ∀ id key, ForeignDevice (secondDevice alice1 2).arrivals
      ⟨.user alice1, 2, bob, id, key⟩ :=
    fun _ _ => .inr ⟨aliceDevice, List.mem_of_getElem? (i := 1) rfl, rfl, different⟩
  have same := safe.foreignOnce bobDevice ⟨.user alice1, 2, bob, bob2, ⟨22⟩⟩
    (List.mem_of_getElem? (i := 3) rfl) (List.mem_of_getElem? (i := 4) rfl) rfl (foreign _ _)
    (foreign _ _)
  exact absurd (congrArg DeviceCertificate.deviceId same) (by decide)

end ParsecCloud.Certif
