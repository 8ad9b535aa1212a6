import ParsecCloud.Certif.Coherence

/- The methods that add a certificate, and when they keep the cache coherent: the certificate
   has to be the next one of its topic, and the last timestamps of the other topics have to be
   in the cache already, unless there is nothing to know about them. -/
namespace ParsecCloud.Certif
open Rust HashMap GetCertificateQuery Storage
variable {device : LocalDevice} {store : Store} {storage : Storage} {added : Certificate}

structure NextCommon (device : LocalDevice) (store : Store) (certif : CommonCertificate) :
    Prop where
  known : store.cache.perTopicLastTimestamps.isSome ∨
    ∀ other ∈ store.storage, ∃ k, other = .common k
  newest : ∀ k, .common k ∈ store.storage → k.timestamp ≤ certif.timestamp
  newUser : ∀ c, certif = .user c →
    (∀ k, .common (.user k) ∈ store.storage → k.userId ≠ c.userId) ∧
    (∀ k, .common (.userUpdate k) ∈ store.storage → k.userId ≠ c.userId) ∧
    (c.userId = device.userId → c.profile = device.initialProfile)
  newDevice : ∀ c, certif = .device c →
    ∀ k, .common (.device k) ∈ store.storage → k.deviceId ≠ c.deviceId
  newUpdate : ∀ c, certif = .userUpdate c →
    ∀ k, .common (.userUpdate k) ∈ store.storage → k.userId = c.userId → k.timestamp < c.timestamp

structure NextRealm (store : Store) (certif : RealmCertificate) : Prop where
  known : store.cache.perTopicLastTimestamps.isSome ∨
    ∀ other ∈ store.storage, ∃ k, other = .realm k ∧ k.realmId = certif.realmId
  newest : ∀ k, .realm k ∈ store.storage → k.realmId = certif.realmId →
    k.timestamp ≤ certif.timestamp

structure NextShamirRecovery (store : Store) (certif : ShamirRecoveryCertificate) : Prop where
  known : store.cache.perTopicLastTimestamps.isSome ∨
    ∀ other ∈ store.storage, ∃ k, other = .shamirRecovery k
  newest : ∀ k, .shamirRecovery k ∈ store.storage → k.timestamp ≤ certif.timestamp

structure NextSequester (store : Store) (certif : SequesterCertificate) : Prop where
  known : store.cache.perTopicLastTimestamps.isSome ∨
    ∀ other ∈ store.storage, ∃ k, other = .sequester k
  newest : ∀ k, .sequester k ∈ store.storage → k.timestamp ≤ certif.timestamp

section Topics

theorem noCommonDate (other : ∀ c ∈ storage, ∀ k, c ≠ .common k) :
    storage.getLastTimestamps.common = none := by
  rw [Option.eq_none_iff_forall_ne_some]
  intro date found
  obtain ⟨k, stored, _⟩ := (lastTimestamps_known storage).common.attained date found
  exact other _ stored k rfl

theorem noRealmDate {id : VlobID} (other : ∀ c ∈ storage, ∀ k, c = .realm k → k.realmId ≠ id) :
    storage.getLastTimestamps.realm.lookup id = none := by
  rw [Option.eq_none_iff_forall_ne_some]
  intro date found
  obtain ⟨k, stored, same, _⟩ := ((lastTimestamps_known storage).realm id).attained date found
  exact other _ stored k rfl same

theorem noShamirRecoveryDate (other : ∀ c ∈ storage, ∀ k, c ≠ .shamirRecovery k) :
    storage.getLastTimestamps.shamirRecovery = none := by
  rw [Option.eq_none_iff_forall_ne_some]
  intro date found
  obtain ⟨k, stored, _⟩ := (lastTimestamps_known storage).shamirRecovery.attained date found
  exact other _ stored k rfl

theorem noSequesterDate (other : ∀ c ∈ storage, ∀ k, c ≠ .sequester k) :
    storage.getLastTimestamps.sequester = none := by
  rw [Option.eq_none_iff_forall_ne_some]
  intro date found
  obtain ⟨k, stored, _⟩ := (lastTimestamps_known storage).sequester.attained date found
  exact other _ stored k rfl

theorem noRealmDates (other : ∀ c ∈ storage, ∀ k, c ≠ .realm k) :
    storage.getLastTimestamps.realm = ∅ := by
  refine Finmap.ext_lookup fun id => ?_
  rw [noRealmDate fun c stored k same => (other c stored k same).elim, Finmap.lookup_empty]

end Topics

theorem updateTimestampCache_last (trusted : Trusted store)
    {update : PerTopicLastTimestamps → PerTopicLastTimestamps}
    (known : store.cache.perTopicLastTimestamps.isSome ∨
      update .empty = store.storage.getLastTimestamps.record added)
    (updated : update store.storage.getLastTimestamps =
      store.storage.getLastTimestamps.record added)
    {last : PerTopicLastTimestamps}
    (cached : (Store.updateTimestampCache store.cache update).perTopicLastTimestamps = some last) :
    last = getLastTimestamps (store.storage ++ [added]) := by
  rw [getLastTimestamps_append]
  unfold Store.updateTimestampCache at cached
  split at cached
  · rename_i present
    cases cached
    rw [trusted.lastTimestamps _ present, updated]
  · rename_i miss
    cases cached
    rw [miss] at known
    rcases known with known | known
    · cases known
    · exact known

section Fields
variable (cache : CurrentViewCache) (update : PerTopicLastTimestamps → PerTopicLastTimestamps)

@[simp] theorem updateTimestampCache_selfProfile :
    (Store.updateTimestampCache cache update).selfProfile = cache.selfProfile := by
  unfold Store.updateTimestampCache
  split <;> rfl

@[simp] theorem updateTimestampCache_perUserProfile :
    (Store.updateTimestampCache cache update).perUserProfile = cache.perUserProfile := by
  unfold Store.updateTimestampCache
  split <;> rfl

@[simp] theorem updateTimestampCache_perDevice :
    (Store.updateTimestampCache cache update).perDeviceVerifyKeyAndUserId =
      cache.perDeviceVerifyKeyAndUserId := by
  unfold Store.updateTimestampCache
  split <;> rfl

@[simp] theorem updateTimestampCache_perRealmKeys :
    (Store.updateTimestampCache cache update).perRealmKeys = cache.perRealmKeys := by
  unfold Store.updateTimestampCache
  split <;> rfl

@[simp] theorem updateTimestampCache_perRealmBootstrapState :
    (Store.updateTimestampCache cache update).perRealmBootstrapState =
      cache.perRealmBootstrapState := by
  unfold Store.updateTimestampCache
  split <;> rfl

@[simp] theorem updateTimestampCache_perRealmSelfRole :
    (Store.updateTimestampCache cache update).perRealmSelfRole = cache.perRealmSelfRole := by
  unfold Store.updateTimestampCache
  split <;> rfl

end Fields

theorem isStored_append_other {query : GetCertificateQuery} (other : query.selects added = false) :
    Store.isStored (storage ++ [added]) query = Store.isStored storage query := by
  unfold Store.isStored
  rw [getCertificate_append_other other]

section Realm
variable {id : VlobID} (elsewhere : ∀ k, added = .realm k → k.realmId ≠ id)

include elsewhere

theorem realmBootstrapState_append :
    Store.realmBootstrapState (storage ++ [added]) id = Store.realmBootstrapState storage id := by
  have name : (realmNameCertificates id).selects added = false := by
    rw [← Bool.not_eq_true, realmNames_selects]
    rintro ⟨c, same, met⟩
    exact elsewhere _ same met
  have keyRotation : (realmKeyRotationCertificates id).selects added = false :=
    (selects_keyRotations id).not_selects fun c same met => elsewhere _ same met
  have role : (realmRoleCertificates id).selects added = false :=
    (selects_realmRoles id).not_selects fun c same met => elsewhere _ same met
  unfold Store.realmBootstrapState
  rw [isStored_append_other name, isStored_append_other keyRotation,
    isStored_append_other role]

theorem selfRole_append {user : UserID} :
    getMaybe (storage ++ [added]) (realmRoleCertificate id user) .current isRealmRole =
      storage.getMaybe (realmRoleCertificate id user) .current isRealmRole :=
  getMaybe_append_other ((selects_realmRole id user).not_selects fun _ same met =>
    elsewhere _ same met.1)

end Realm

theorem keyRotations_append_other {id : VlobID}
    (other : ∀ k, added = .realm (.keyRotation k) → k.realmId ≠ id) :
    keyRotations (storage ++ [added]) id = storage.keyRotations id := by
  unfold keyRotations
  rw [List.filterMap_append, List.filter_append]
  cases read : isRealmKeyRotation added with
  | none => simp [read]
  | some c =>
    have : c.realmId ≠ id := other c ((selects_keyRotations id).wrap_expected added c read)
    simp [read, this]

theorem lastProfile_append_other {id : UserID} {initial : UserProfile}
    (other : ∀ k, added = .common (.userUpdate k) → k.userId ≠ id) :
    lastProfile (storage ++ [added]) id initial = storage.lastProfile id initial := by
  unfold lastProfile getLastUserUpdateCertificate
  rw [getMaybe_append_other ((selects_userUpdate id).not_selects fun c same met =>
    other c same met)]

theorem currentProfile_append_other {id : UserID}
    (other : ∀ k, added = .common (.userUpdate k) → k.userId ≠ id)
    (otherUser : ∀ k, added = .common (.user k) → k.userId ≠ id) :
    currentProfile (storage ++ [added]) id = storage.currentProfile id := by
  unfold currentProfile getLastUserUpdateCertificate getUserCertificate
  rw [getMaybe_append_other ((selects_userUpdate id).not_selects fun c same met =>
    other c same met), getOne_append_other ((selects_user id).not_selects fun c same met =>
    otherUser c same met)]

theorem insert_only {id : VlobID} {date : DateTime}
    (only : ∀ c ∈ storage, ∃ k, c = .realm k ∧ k.realmId = id) :
    storage.getLastTimestamps.realm.insert id date = (∅ : HashMap VlobID DateTime).insert id date := by
  refine Finmap.ext_lookup fun other => ?_
  rw [lookup_insert_ite, lookup_insert_ite]
  split
  · rfl
  · rename_i different
    rw [noRealmDate, Finmap.lookup_empty]
    intro c stored k same equal
    obtain ⟨k', same', here⟩ := only c stored
    rw [same] at same'
    cases same'
    exact different (equal.symm.trans here)

section Updates
variable (trusted : Trusted store) {last : PerTopicLastTimestamps}

include trusted

theorem commonTimestamp_updated {certif : CommonCertificate}
    (known : store.cache.perTopicLastTimestamps.isSome ∨
      ∀ other ∈ store.storage, ∃ k, other = .common k)
    (newest : ∀ k, .common k ∈ store.storage → k.timestamp ≤ certif.timestamp)
    (cached : (Store.updateTimestampCache store.cache fun last =>
      { last with common := some certif.timestamp }).perTopicLastTimestamps = some last) :
    last = getLastTimestamps (store.storage ++ [.common certif]) := by
  have latest := (lastTimestamps_known store.storage).common.latest_eq
    (by rintro _ ⟨k, stored, rfl⟩; exact newest k stored)
  refine updateTimestampCache_last trusted (known.imp_right fun only => ?_) ?_ cached
  · rw [PerTopicLastTimestamps.record, latest, noShamirRecoveryDate, noSequesterDate,
      noRealmDates]
    · rfl
    all_goals
      intro c stored k same
      obtain ⟨_, other⟩ := only c stored
      rw [same] at other
      cases other
  · rw [PerTopicLastTimestamps.record, latest]

theorem realmTimestamp_updated {certif : RealmCertificate}
    (known : store.cache.perTopicLastTimestamps.isSome ∨
      ∀ other ∈ store.storage, ∃ k, other = .realm k ∧ k.realmId = certif.realmId)
    (newest : ∀ k, .realm k ∈ store.storage → k.realmId = certif.realmId →
      k.timestamp ≤ certif.timestamp)
    (cached : (Store.updateTimestampCache store.cache fun last =>
      { last with realm := last.realm.insert certif.realmId certif.timestamp }).perTopicLastTimestamps
        = some last) :
    last = getLastTimestamps (store.storage ++ [.realm certif]) := by
  have latest := ((lastTimestamps_known store.storage).realm certif.realmId).latest_eq
    (by rintro _ ⟨k, stored, same, rfl⟩; exact newest k stored same)
  refine updateTimestampCache_last trusted (known.imp_right fun only => ?_) ?_ cached
  · rw [PerTopicLastTimestamps.record, latest, noCommonDate, noShamirRecoveryDate, noSequesterDate,
      insert_only only]
    · rfl
    all_goals
      intro c stored k same
      obtain ⟨_, other, _⟩ := only c stored
      rw [same] at other
      cases other
  · rw [PerTopicLastTimestamps.record, latest]

theorem shamirRecoveryTimestamp_updated {certif : ShamirRecoveryCertificate}
    (known : store.cache.perTopicLastTimestamps.isSome ∨
      ∀ other ∈ store.storage, ∃ k, other = .shamirRecovery k)
    (newest : ∀ k, .shamirRecovery k ∈ store.storage → k.timestamp ≤ certif.timestamp)
    (cached : (Store.updateTimestampCache store.cache fun last =>
      { last with shamirRecovery := some certif.timestamp }).perTopicLastTimestamps = some last) :
    last = getLastTimestamps (store.storage ++ [.shamirRecovery certif]) := by
  have latest := (lastTimestamps_known store.storage).shamirRecovery.latest_eq
    (by rintro _ ⟨k, stored, rfl⟩; exact newest k stored)
  refine updateTimestampCache_last trusted (known.imp_right fun only => ?_) ?_ cached
  · rw [PerTopicLastTimestamps.record, latest, noCommonDate, noSequesterDate, noRealmDates]
    · rfl
    all_goals
      intro c stored k same
      obtain ⟨_, other⟩ := only c stored
      rw [same] at other
      cases other
  · rw [PerTopicLastTimestamps.record, latest]

theorem sequesterTimestamp_updated {certif : SequesterCertificate}
    (known : store.cache.perTopicLastTimestamps.isSome ∨
      ∀ other ∈ store.storage, ∃ k, other = .sequester k)
    (newest : ∀ k, .sequester k ∈ store.storage → k.timestamp ≤ certif.timestamp)
    (cached : (Store.updateTimestampCache store.cache fun last =>
      { last with sequester := some certif.timestamp }).perTopicLastTimestamps = some last) :
    last = getLastTimestamps (store.storage ++ [.sequester certif]) := by
  have latest := (lastTimestamps_known store.storage).sequester.latest_eq
    (by rintro _ ⟨k, stored, rfl⟩; exact newest k stored)
  refine updateTimestampCache_last trusted (known.imp_right fun only => ?_) ?_ cached
  · rw [PerTopicLastTimestamps.record, latest, noCommonDate, noShamirRecoveryDate, noRealmDates]
    · rfl
    all_goals
      intro c stored k same
      obtain ⟨_, other⟩ := only c stored
      rw [same] at other
      cases other
  · rw [PerTopicLastTimestamps.record, latest]

end Updates

theorem Coherent.append (coherent : Coherent device store) {cache : CurrentViewCache}
    (lastTimestamps : ∀ last, cache.perTopicLastTimestamps = some last →
      last = getLastTimestamps (store.storage ++ [added]))
    (selfProfile : ∀ profile, cache.selfProfile = some profile →
      lastProfile (store.storage ++ [added]) device.userId device.initialProfile = .ok profile)
    (userProfile : ∀ id profile, cache.perUserProfile.lookup id = some profile →
      currentProfile (store.storage ++ [added]) id = .ok profile)
    (deviceKey : ∀ id entry, cache.perDeviceVerifyKeyAndUserId.lookup id = some entry →
      store.cache.perDeviceVerifyKeyAndUserId.lookup id = some entry ∨
      ∃ certif, added = .common (.device certif) ∧ certif.deviceId = id ∧
        entry = (certif.verifyKey, certif.timestamp, certif.userId))
    (bootstrapState : ∀ id state, cache.perRealmBootstrapState.lookup id = some state →
      store.cache.perRealmBootstrapState.lookup id = some state ∧
        ∀ k, added = .realm k → k.realmId ≠ id)
    (selfRole : ∀ id role, cache.perRealmSelfRole.lookup id = some role →
      store.cache.perRealmSelfRole.lookup id = some role ∧ ∀ k, added = .realm k → k.realmId ≠ id)
    (realmKeys : ∀ id keys, cache.perRealmKeys.lookup id = some keys →
      store.cache.perRealmKeys.lookup id = some keys ∧
        ∀ k, added = .realm (.keyRotation k) → k.realmId ≠ id) :
    Coherent device ⟨store.storage ++ [added], cache⟩ where
  lastTimestamps := lastTimestamps
  selfProfile := selfProfile
  userProfile := userProfile
  deviceKey id entry cached := by
    rcases deviceKey id entry cached with known | ⟨certif, rfl, same, equal⟩
    · obtain ⟨certif, stored, found⟩ := coherent.deviceKey id entry known
      exact ⟨certif, List.mem_append_left _ stored, found⟩
    · exact ⟨certif, by simp, same, equal⟩
  bootstrapState id state cached := by
    obtain ⟨known, elsewhere⟩ := bootstrapState id state cached
    rw [realmBootstrapState_append elsewhere]
    exact coherent.bootstrapState id state known
  selfRole id role cached := by
    obtain ⟨known, elsewhere⟩ := selfRole id role cached
    rw [selfRole_append elsewhere]
    exact coherent.selfRole id role known
  realmKeys id keys cached := by
    obtain ⟨known, other⟩ := realmKeys id keys cached
    rw [keyRotations_append_other other]
    exact coherent.realmKeys id keys known

theorem Coherent.append_untouched (coherent : Coherent device store)
    {update : PerTopicLastTimestamps → PerTopicLastTimestamps}
    (last : ∀ last, (Store.updateTimestampCache store.cache update).perTopicLastTimestamps
      = some last → last = getLastTimestamps (store.storage ++ [added]))
    (notCommon : ∀ k, added ≠ .common k) (notRealm : ∀ k, added ≠ .realm k) :
    Coherent device ⟨store.storage ++ [added], Store.updateTimestampCache store.cache update⟩ := by
  refine coherent.append last ?_ ?_ ?_ ?_ ?_ ?_
  · intro profile cached
    rw [updateTimestampCache_selfProfile] at cached
    rw [lastProfile_append_other fun k same => (notCommon _ same).elim]
    exact coherent.selfProfile profile cached
  · intro id profile cached
    rw [updateTimestampCache_perUserProfile] at cached
    rw [currentProfile_append_other (fun k same => (notCommon _ same).elim)
      fun k same => (notCommon _ same).elim]
    exact coherent.userProfile id profile cached
  · intro id entry cached
    rw [updateTimestampCache_perDevice] at cached
    exact .inl cached
  · intro id state cached
    rw [updateTimestampCache_perRealmBootstrapState] at cached
    exact ⟨cached, fun k same => (notRealm k same).elim⟩
  · intro id role cached
    rw [updateTimestampCache_perRealmSelfRole] at cached
    exact ⟨cached, fun k same => (notRealm k same).elim⟩
  · intro id keys cached
    rw [updateTimestampCache_perRealmKeys] at cached
    exact ⟨cached, fun k same => (notRealm _ same).elim⟩

theorem addNextShamirRecovery_coherent (coherent : Coherent device store)
    {certif : ShamirRecoveryCertificate} (next : NextShamirRecovery store certif) :
    Coherent device (store.addNextShamirRecoveryCertificate certif) := by
  apply coherent.append_untouched
  · intro last
    exact shamirRecoveryTimestamp_updated coherent.toTrusted next.known next.newest
  · intro k same
    cases same
  · intro k same
    cases same

theorem addNextSequester_coherent (coherent : Coherent device store)
    {certif : SequesterCertificate} (next : NextSequester store certif) :
    Coherent device (store.addNextSequesterCertificate certif) := by
  apply coherent.append_untouched
  · intro last
    exact sequesterTimestamp_updated coherent.toTrusted next.known next.newest
  · intro k same
    cases same
  · intro k same
    cases same

theorem addNextRealmX_coherent (coherent : Coherent device store)
    {certif : RealmCertificate} (next : NextRealm store certif) :
    Coherent device (store.addNextRealmXCertificate certif) := by
  unfold Store.addNextRealmXCertificate
  apply coherent.append
  · intro last cached
    refine realmTimestamp_updated coherent.toTrusted next.known next.newest ?_
    split at cached <;> exact cached
  · intro profile cached
    rw [lastProfile_append_other fun _ same => by cases same]
    refine coherent.selfProfile profile ?_
    dsimp only at cached
    split at cached <;> simpa using cached
  · intro id profile cached
    rw [currentProfile_append_other (fun _ same => by cases same) fun _ same => by cases same]
    refine coherent.userProfile id profile ?_
    dsimp only at cached
    split at cached <;> simpa using cached
  · intro id entry cached
    left
    dsimp only at cached
    split at cached <;> simpa using cached
  · intro id state cached
    have erased : (store.cache.perRealmBootstrapState.erase certif.realmId).lookup id
        = some state := by
      dsimp only at cached
      split at cached <;> simpa using cached
    rw [lookup_erase_ite] at erased
    split at erased
    · cases erased
    · rename_i other
      exact ⟨erased, fun k same equal => other (by cases same; exact equal.symm)⟩
  · intro id role cached
    have erased : (store.cache.perRealmSelfRole.erase certif.realmId).lookup id = some role := by
      dsimp only at cached
      split at cached <;> simpa using cached
    rw [lookup_erase_ite] at erased
    split at erased
    · cases erased
    · rename_i other
      exact ⟨erased, fun k same equal => other (by cases same; exact equal.symm)⟩
  · intro id keys cached
    cases certif with
    | keyRotation certif =>
      have erased : (store.cache.perRealmKeys.erase certif.realmId).lookup id = some keys := by
        simpa [RealmCertificate.realmId] using cached
      rw [lookup_erase_ite] at erased
      split at erased
      · cases erased
      · rename_i other
        exact ⟨erased, fun k same equal => other (by cases same; exact equal.symm)⟩
    | _ => exact ⟨by simpa using cached, fun k same => by cases same⟩

theorem lastProfile_eq {id : UserID} {initial profile : UserProfile}
    (update : ∃ k, storage.getLastUserUpdateCertificate .current id = .ok (some k) ∧
      k.newProfile = profile) : storage.lastProfile id initial = .ok profile := by
  obtain ⟨k, found, same⟩ := update
  unfold lastProfile
  rw [found, ← same]
  rfl

theorem update_append {certif : UserUpdateCertificate}
    (newest : ∀ k, .common (.userUpdate k) ∈ storage → k.userId = certif.userId →
      k.timestamp < certif.timestamp) :
    getLastUserUpdateCertificate (storage ++ [.common (.userUpdate certif)]) .current certif.userId
      = .ok (some certif) := by
  unfold getLastUserUpdateCertificate getMaybe
  rw [(selects_userUpdate certif.userId).getOne_append rfl newest]

theorem noUpdate {id : UserID}
    (none : ∀ k, .common (.userUpdate k) ∈ storage → k.userId ≠ id) :
    storage.getLastUserUpdateCertificate .current id = .ok .none := by
  obtain ⟨found, read⟩ : ∃ found, storage.getLastUserUpdateCertificate .current id = .ok found :=
    (selects_userUpdate id).getMaybe_total
  cases found with
  | none => exact read
  | some k =>
    obtain ⟨stored, same, _⟩ := (selects_userUpdate id).getMaybe_some read
    exact absurd same (none k stored)

section Profiles
variable {cache : CurrentViewCache} {user : UserID} {profile : UserProfile}

theorem setProfile_lookup (id : UserID) :
    (Store.setProfile device user profile cache).perUserProfile.lookup id =
      if id = user then some profile else cache.perUserProfile.lookup id := by
  unfold Store.setProfile
  dsimp only
  split <;> exact lookup_insert_ite _ _ _ _

theorem setProfile_selfProfile :
    (Store.setProfile device user profile cache).selfProfile =
      if user = device.userId then some profile else cache.selfProfile := by
  unfold Store.setProfile
  dsimp only
  split <;> rfl

variable (device user profile cache) in
theorem setProfile_other :
    (Store.setProfile device user profile cache).perTopicLastTimestamps =
        cache.perTopicLastTimestamps ∧
      (Store.setProfile device user profile cache).perDeviceVerifyKeyAndUserId =
        cache.perDeviceVerifyKeyAndUserId ∧
      (Store.setProfile device user profile cache).perRealmBootstrapState =
        cache.perRealmBootstrapState ∧
      (Store.setProfile device user profile cache).perRealmSelfRole = cache.perRealmSelfRole ∧
      (Store.setProfile device user profile cache).perRealmKeys = cache.perRealmKeys := by
  unfold Store.setProfile
  dsimp only
  split <;> exact ⟨rfl, rfl, rfl, rfl, rfl⟩

end Profiles

theorem Coherent.append_common (coherent : Coherent device store) {certif : CommonCertificate}
    {cache : CurrentViewCache}
    (lastTimestamps : ∀ last, cache.perTopicLastTimestamps = some last →
      last = getLastTimestamps (store.storage ++ [.common certif]))
    (selfProfile : ∀ profile, cache.selfProfile = some profile →
      lastProfile (store.storage ++ [.common certif]) device.userId device.initialProfile
        = .ok profile)
    (userProfile : ∀ id profile, cache.perUserProfile.lookup id = some profile →
      currentProfile (store.storage ++ [.common certif]) id = .ok profile)
    (deviceKey : ∀ id entry, cache.perDeviceVerifyKeyAndUserId.lookup id = some entry →
      store.cache.perDeviceVerifyKeyAndUserId.lookup id = some entry ∨
      ∃ c, certif = .device c ∧ c.deviceId = id ∧ entry = (c.verifyKey, c.timestamp, c.userId))
    (bootstrapState : cache.perRealmBootstrapState = store.cache.perRealmBootstrapState)
    (selfRole : cache.perRealmSelfRole = store.cache.perRealmSelfRole)
    (realmKeys : cache.perRealmKeys = store.cache.perRealmKeys) :
    Coherent device ⟨store.storage ++ [.common certif], cache⟩ := by
  refine coherent.append lastTimestamps selfProfile userProfile ?_ ?_ ?_ ?_
  · intro id entry cached
    refine (deviceKey id entry cached).imp_right ?_
    rintro ⟨c, rfl, found⟩
    exact ⟨c, rfl, found⟩
  · intro id state cached
    exact ⟨bootstrapState ▸ cached, fun k same => by cases same⟩
  · intro id role cached
    exact ⟨selfRole ▸ cached, fun k same => by cases same⟩
  · intro id keys cached
    exact ⟨realmKeys ▸ cached, fun k same => by cases same⟩

theorem setProfile_coherent (coherent : Coherent device store) {certif : CommonCertificate}
    {user : UserID} {profile : UserProfile}
    {update : PerTopicLastTimestamps → PerTopicLastTimestamps}
    (last : ∀ last, (Store.updateTimestampCache store.cache update).perTopicLastTimestamps
      = some last → last = getLastTimestamps (store.storage ++ [.common certif]))
    (given : currentProfile (store.storage ++ [.common certif]) user = .ok profile)
    (self : user = device.userId →
      lastProfile (store.storage ++ [.common certif]) user device.initialProfile = .ok profile)
    (otherUpdate : ∀ id ≠ user, ∀ k, certif = .userUpdate k → k.userId ≠ id)
    (otherUser : ∀ id ≠ user, ∀ k, certif = .user k → k.userId ≠ id) :
    Coherent device ⟨store.storage ++ [.common certif],
      Store.setProfile device user profile (Store.updateTimestampCache store.cache update)⟩ := by
  obtain ⟨same1, same2, same3, same4, same5⟩ := setProfile_other device
    (Store.updateTimestampCache store.cache update) user profile
  refine coherent.append_common ?_ ?_ ?_ ?_ ?_ ?_ ?_
  · rw [same1]
    exact last
  · intro known cached
    rw [setProfile_selfProfile, updateTimestampCache_selfProfile] at cached
    split at cached
    · rename_i ours
      cases cached
      rw [← ours]
      exact self ours
    · rename_i others
      rw [lastProfile_append_other fun k same => otherUpdate _ (Ne.symm others) k (by cases same; rfl)]
      exact coherent.selfProfile known cached
  · intro id known cached
    rw [setProfile_lookup, updateTimestampCache_perUserProfile] at cached
    split at cached
    · rename_i equal
      cases cached
      rw [equal]
      exact given
    · rename_i others
      rw [currentProfile_append_other
        (fun k same => otherUpdate _ others k (by cases same; rfl))
        (fun k same => otherUser _ others k (by cases same; rfl))]
      exact coherent.userProfile id known cached
  · intro id entry cached
    rw [same2, updateTimestampCache_perDevice] at cached
    exact .inl cached
  · rw [same3, updateTimestampCache_perRealmBootstrapState]
  · rw [same4, updateTimestampCache_perRealmSelfRole]
  · rw [same5, updateTimestampCache_perRealmKeys]

theorem addNextCommon_coherent (coherent : Coherent device store)
    {certif : CommonCertificate} (next : NextCommon device store certif) :
    Coherent device (store.addNextCommonCertificate device certif) := by
  have last : ∀ last, (Store.updateTimestampCache store.cache fun last =>
      { last with common := some certif.timestamp }).perTopicLastTimestamps = some last →
      last = getLastTimestamps (store.storage ++ [.common certif]) :=
    fun _ => commonTimestamp_updated coherent.toTrusted next.known next.newest
  unfold Store.addNextCommonCertificate
  cases certif with
  | user certif =>
    obtain ⟨noUser, noUpdates, own⟩ := next.newUser certif rfl
    have unchanged : getLastUserUpdateCertificate (store.storage ++ [.common (.user certif)])
        .current certif.userId = .ok none := by
      apply noUpdate
      intro k stored
      rcases List.mem_append.mp stored with stored | stored
      · exact noUpdates k stored
      · cases List.mem_singleton.mp stored
    have found : getUserCertificate (store.storage ++ [.common (.user certif)]) .current
        certif.userId = .ok certif :=
      (selects_user certif.userId).getOne_append rfl fun k stored same =>
        absurd same (noUser k stored)
    apply setProfile_coherent coherent last
    · unfold currentProfile
      rw [unchanged, found]
      rfl
    · intro ours
      unfold lastProfile
      rw [unchanged, own ours]
      rfl
    · intro id _ k same
      cases same
    · intro id other k same
      cases same
      exact Ne.symm other
  | device certif =>
    apply coherent.append_common
    · exact last
    · intro profile cached
      rw [lastProfile_append_other fun _ same => by cases same]
      exact coherent.selfProfile profile (by simpa using cached)
    · intro id profile cached
      rw [currentProfile_append_other (fun _ same => by cases same) fun _ same => by cases same]
      exact coherent.userProfile id profile (by simpa using cached)
    · intro id entry cached
      rw [updateTimestampCache_perDevice, lookup_insert_ite] at cached
      split at cached
      · rename_i same
        cases cached
        exact .inr ⟨certif, rfl, same.symm, rfl⟩
      · exact .inl cached
    · simp
    · simp
    · simp
  | userUpdate certif =>
    have found := update_append (next.newUpdate certif rfl)
    apply setProfile_coherent coherent last
    · unfold currentProfile
      rw [found]
    · intro _
      exact lastProfile_eq ⟨certif, found, rfl⟩
    · intro id other k same
      cases same
      exact Ne.symm other
    · intro id _ k same
      cases same
  | revokedUser certif =>
    apply coherent.append_common last
    · intro profile cached
      rw [lastProfile_append_other fun _ same => by cases same]
      exact coherent.selfProfile profile (by simpa using cached)
    · intro id profile cached
      rw [currentProfile_append_other (fun _ same => by cases same) fun _ same => by cases same]
      exact coherent.userProfile id profile (by simpa using cached)
    · intro id entry cached
      exact .inl (by simpa using cached)
    · simp
    · simp
    · simp

section Trusted
variable (trusted : Trusted store) (present : store.cache.perTopicLastTimestamps.isSome)

include trusted present

omit present in
theorem trusted_append {cache : CurrentViewCache}
    (last : ∀ last, cache.perTopicLastTimestamps = some last →
      last = getLastTimestamps (store.storage ++ [added]))
    (keys : cache.perDeviceVerifyKeyAndUserId = store.cache.perDeviceVerifyKeyAndUserId) :
    Trusted ⟨store.storage ++ [added], cache⟩ where
  lastTimestamps := last
  deviceKey id entry cached := by
    obtain ⟨certif, stored, found⟩ := trusted.deviceKey id entry (keys ▸ cached)
    exact ⟨certif, List.mem_append_left _ stored, found⟩

theorem addNextCommon_trusted {certif : CommonCertificate}
    (newest : ∀ k, .common k ∈ store.storage → k.timestamp ≤ certif.timestamp) :
    Trusted (store.addNextCommonCertificate device certif) := by
  have last : ∀ last, (Store.updateTimestampCache store.cache fun last =>
      { last with common := some certif.timestamp }).perTopicLastTimestamps = some last →
      last = getLastTimestamps (store.storage ++ [.common certif]) :=
    fun _ => commonTimestamp_updated trusted (.inl present) newest
  unfold Store.addNextCommonCertificate
  cases certif with
  | user certif =>
    obtain ⟨same1, same2, _⟩ := setProfile_other device
      (Store.updateTimestampCache store.cache _) certif.userId certif.profile
    apply trusted_append trusted
    · rw [same1]
      exact last
    · rw [same2, updateTimestampCache_perDevice]
  | device certif =>
    refine ⟨last, fun id entry cached => ?_⟩
    dsimp only at cached ⊢
    rw [updateTimestampCache_perDevice, lookup_insert_ite] at cached
    split at cached
    · rename_i same
      cases cached
      exact ⟨certif, by simp, same.symm, rfl⟩
    · obtain ⟨known, stored, found⟩ := trusted.deviceKey id entry cached
      exact ⟨known, List.mem_append_left _ stored, found⟩
  | userUpdate certif =>
    obtain ⟨same1, same2, _⟩ := setProfile_other device
      (Store.updateTimestampCache store.cache _) certif.userId certif.newProfile
    apply trusted_append trusted
    · rw [same1]
      exact last
    · rw [same2, updateTimestampCache_perDevice]
  | revokedUser certif =>
    exact trusted_append trusted last (updateTimestampCache_perDevice _ _)

theorem addNextRealmX_trusted {certif : RealmCertificate}
    (newest : ∀ k, .realm k ∈ store.storage → k.realmId = certif.realmId →
      k.timestamp ≤ certif.timestamp) :
    Trusted (store.addNextRealmXCertificate certif) := by
  unfold Store.addNextRealmXCertificate
  apply trusted_append trusted
  · intro last cached
    refine realmTimestamp_updated trusted (.inl present) newest ?_
    split at cached <;> exact cached
  · dsimp only
    split <;> simp

theorem addNextShamirRecovery_trusted {certif : ShamirRecoveryCertificate}
    (newest : ∀ k, .shamirRecovery k ∈ store.storage → k.timestamp ≤ certif.timestamp) :
    Trusted (store.addNextShamirRecoveryCertificate certif) :=
  trusted_append trusted
    (fun _ => shamirRecoveryTimestamp_updated trusted (.inl present) newest)
    (updateTimestampCache_perDevice _ _)

theorem addNextSequester_trusted {certif : SequesterCertificate}
    (newest : ∀ k, .sequester k ∈ store.storage → k.timestamp ≤ certif.timestamp) :
    Trusted (store.addNextSequesterCertificate certif) :=
  trusted_append trusted
    (fun _ => sequesterTimestamp_updated trusted (.inl present) newest)
    (updateTimestampCache_perDevice _ _)

end Trusted

end ParsecCloud.Certif
