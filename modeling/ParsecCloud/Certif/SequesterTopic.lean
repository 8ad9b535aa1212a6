import ParsecCloud.Certif.Authors
import ParsecCloud.Certif.History

/- The sequester topic over whole runs of add_certificates_batch: what its three checks enforce,
   and what they leave to the sequester authority. -/
namespace ParsecCloud.Certif
open Rust Storage GetCertificateQuery Journal Runs Samples

section Rules
variable (rows : Storage)

def AfterSequester (date : DateTime) : Prop :=
  ∀ other, .sequester other ∈ rows → other.timestamp < date

def Sequestered : Prop := ∃ authority, .sequester (.authority authority) ∈ rows

/-- What a certificate of the topic meets over the certificates stored before it. -/
inductive SequesterAccepted : Certificate → Prop where
  | elsewhere (certif : Certificate) : (∀ other, certif ≠ .sequester other) →
      SequesterAccepted certif
  | authority (certif : SequesterAuthorityCertificate) : rows = [] →
      SequesterAccepted (.sequester (.authority certif))
  | service (certif : SequesterServiceCertificate) : Sequestered rows →
      AfterSequester rows certif.timestamp →
      (∀ other, .sequester (.service other) ∈ rows → other.serviceId ≠ certif.serviceId) →
      SequesterAccepted (.sequester (.service certif))
  | revokedService (certif : SequesterRevokedServiceCertificate) : Sequestered rows →
      AfterSequester rows certif.timestamp →
      (∀ other, .sequester (.revokedService other) ∈ rows → other.serviceId ≠ certif.serviceId) →
      SequesterAccepted (.sequester (.revokedService certif))

/-- A revoked service has a certificate. None of the checks asks for it. -/
def RevokesKnownService (certif : Certificate) : Prop :=
  ∀ revoked, certif = .sequester (.revokedService revoked) →
    ∃ service, .sequester (.service service) ∈ rows ∧ service.serviceId = revoked.serviceId

end Rules

variable {rows : Storage} {store store' : Store} {device : LocalDevice}

theorem sequesterServiceUuid_inj {a b : SequesterServiceID} : a.uuid = b.uuid ↔ a = b := by
  cases a
  cases b
  simp

theorem selects_sequesterRevokedService (id : SequesterServiceID) :
    Selects (sequesterRevokedServiceCertificate id) isSequesterRevokedService
      (fun c => .sequester (.revokedService c)) (fun c => c.serviceId = id) :=
  reads_sequesterRevokedService.filter1 fun _ => sqlEq_bytes.trans sequesterServiceUuid_inj

theorem AfterSequester.covers {date : DateTime} (after : AfterSequester rows date)
    {certif : SequesterCertificate} (stored : .sequester certif ∈ rows) :
    (UpTo.timestamp date).covers (Certificate.sequester certif).timestamp = true :=
  covers_timestamp.mpr (le_of_lt (after certif stored))

section Checks
variable {date : DateTime} (last : ∀ other, .sequester other ∈ store.storage → other.timestamp ≤ date)
include last

theorem checkNewest_afterSequester {timestamp : DateTime} {hint : Hint} {done : Unit}
    (newest : checkNewest (some date) timestamp hint = .ok done) :
    AfterSequester store.storage timestamp :=
  fun other stored => lt_of_le_of_lt (last other stored) (checkNewest_ok newest date rfl)

theorem checkSequesterService_rule {cooked : SequesterServiceCertificate}
    (sequestered : Sequestered store.storage)
    (checked : checkSequesterServiceCertificateConsistency date cooked store = .ok store') :
    SequesterAccepted store.storage (.sequester (.service cooked)) := by
  unfold checkSequesterServiceCertificateConsistency at checked
  obtain ⟨_, newest, checked⟩ := bind_eq_ok.mp checked
  obtain ⟨existing, read, checked⟩ := bind_eq_ok.mp checked
  obtain ⟨_, unknown, _⟩ := bind_eq_ok.mp checked
  have after := checkNewest_afterSequester last newest
  refine .service cooked sequestered after ?_
  intro other stored same
  have read := internal_ok.mp read
  unfold getSequesterServiceCertificates at read
  obtain ⟨authority, found, read⟩ := bind_eq_ok.mp read
  cases authority with
  | none =>
    obtain ⟨authority, member⟩ := sequestered
    have late := selects_sequesterAuthority.getMaybe_none found member trivial
    cases late
  | some authority =>
    have member : other ∈ existing :=
      (selects_sequesterServices.mem_getMultiple_upTo read).mpr ⟨stored, trivial, after.covers stored⟩
    have absent := refuseIf_ok.mp unknown
    rw [List.any_eq_false] at absent
    exact absent other member (decide_eq_true same)

theorem checkSequesterRevokedService_rule {cooked : SequesterRevokedServiceCertificate}
    (sequestered : Sequestered store.storage)
    (checked : checkSequesterRevokedServiceCertificateConsistency date cooked store = .ok store') :
    SequesterAccepted store.storage (.sequester (.revokedService cooked)) := by
  unfold checkSequesterRevokedServiceCertificateConsistency at checked
  obtain ⟨_, newest, checked⟩ := bind_eq_ok.mp checked
  obtain ⟨revoked, read, checked⟩ := bind_eq_ok.mp checked
  have after := checkNewest_afterSequester last newest
  refine .revokedService cooked sequestered after ?_
  intro other stored same
  cases revoked with
  | some revoked => cases checked
  | none =>
    have read := internal_ok.mp read
    unfold getSequesterRevokedServiceCertificate at read
    obtain ⟨known, found, read⟩ := bind_eq_ok.mp read
    cases known with
    | none =>
      have late := (selects_sequesterRevokedService cooked.serviceId).getMaybe_none found stored same
      rw [after.covers stored] at late
      cases late
    | some known =>
      obtain ⟨authority, found, read⟩ := bind_eq_ok.mp read
      cases authority with
      | none =>
        obtain ⟨authority, member⟩ := sequestered
        have late := selects_sequesterAuthority.getMaybe_none found member trivial
        cases late
      | some authority => cases read

end Checks

theorem validateSequesterAuthority_rule (trusted : Trusted store) {signed : SignedSequester}
    {cooked : SequesterCertificate}
    (checked : validateSequesterAuthorityCertificate device signed store = .ok (cooked, store')) :
    SequesterAccepted store.storage (.sequester cooked) := by
  unfold validateSequesterAuthorityCertificate at checked
  split at checked
  · split at checked
    · obtain ⟨seen, consistent, checked⟩ := bind_eq_ok.mp checked
      cases checked
      unfold checkSequesterAuthorityCertificateConsistency at consistent
      have known := getLastTimestamps_eq trusted
      generalize store.getLastTimestamps = read at consistent known
      obtain ⟨last, seen⟩ := read
      cases known
      obtain ⟨_, first, _⟩ := bind_eq_ok.mp consistent
      have empty := refuseIf_ok.mp first
      rw [Bool.not_eq_false'] at empty
      exact .authority _ (isEmpty_iff.mp empty)
    · cases checked
  · cases checked
  · cases checked

theorem validateSequesterNonAuthority_rule {date : DateTime} {signed : SignedSequester}
    {cooked : SequesterCertificate}
    (last : ∀ other, .sequester other ∈ store.storage → other.timestamp ≤ date)
    (checked : validateSequesterNonAuthorityCertificate date signed store = .ok (cooked, store')) :
    SequesterAccepted store.storage (.sequester cooked) := by
  unfold validateSequesterNonAuthorityCertificate at checked
  obtain ⟨authority, read, checked⟩ := bind_eq_ok.mp checked
  cases authority with
  | none => cases checked
  | some authority =>
    have sequestered : Sequestered store.storage :=
      ⟨authority, (selects_sequesterAuthority.getMaybe_some (internal_ok.mp read)).1⟩
    dsimp only at checked
    split at checked
    · split at checked
      · obtain ⟨seen, consistent, checked⟩ := bind_eq_ok.mp checked
        cases checked
        exact checkSequesterService_rule last sequestered consistent
      · cases checked
    · split at checked
      · obtain ⟨seen, consistent, checked⟩ := bind_eq_ok.mp checked
        cases checked
        exact checkSequesterRevokedService_rule last sequestered consistent
      · cases checked
    · cases checked
    · cases checked

theorem validateSequesterCertificate_rule (trusted : Trusted store) {signed : SignedSequester}
    {cooked : SequesterCertificate}
    (checked : validateSequesterCertificate device signed store = .ok (cooked, store')) :
    SequesterAccepted store.storage (.sequester cooked) := by
  unfold validateSequesterCertificate at checked
  obtain ⟨last, seen, read, known, same, validated⟩ := getLastTimestamps_ok trusted
  rw [read] at checked
  dsimp only at checked
  rw [← same] at known ⊢
  split at checked
  · exact validateSequesterAuthority_rule validated.trusted checked
  · rename_i date found
    apply validateSequesterNonAuthority_rule _ checked
    intro other stored
    apply known.sequester.le _ _ ⟨other, stored, rfl⟩
    intro bound equal
    rw [found] at equal
    cases equal
    exact le_refl date

/-- The certificates are added, and the rules of the topic are kept. -/
def SequesterAdds (added : List Certificate) (store store' : Store) : Prop :=
  Adds added store store' ∧
    (Authentic store → Admitted SequesterAccepted store.storage →
      Admitted SequesterAccepted store'.storage)

theorem SequesterAdds.trans {first second : List Certificate} {store'' : Store}
    (one : SequesterAdds first store store') (two : SequesterAdds second store' store'') :
    SequesterAdds (first ++ second) store store'' := by
  refine ⟨one.1.trans two.1, ?_⟩
  intro sound met
  exact two.2 (one.1 sound).1 (one.2 sound met)

theorem sequesterAdds_elsewhere {added : List Certificate} (adds : Adds added store store')
    (elsewhere : ∀ certif ∈ added, ∀ other, certif ≠ .sequester other) :
    SequesterAdds added store store' := by
  refine ⟨adds, ?_⟩
  intro sound met
  rw [(adds sound).2, admitted_append]
  refine ⟨met, ?_⟩
  intro before certif after split
  apply SequesterAccepted.elsewhere
  apply elsewhere
  rw [split]
  simp

theorem addSequester_sequesterAdds {signed : SignedSequester}
    (run : addSequester device store signed = .ok store') :
    SequesterAdds signed.certificates store store' := by
  refine ⟨addSequester_adds run, ?_⟩
  intro sound met
  have stored := (addSequester_adds run sound).2
  obtain ⟨⟨cooked, seen⟩, checked, run⟩ := bind_eq_ok.mp run
  obtain ⟨content, -⟩ := validateSequesterCertificate_ok sound.toTrusted checked
  rw [stored, content]
  exact admitted_concat.mpr ⟨met, validateSequesterCertificate_rule sound.toTrusted checked⟩

theorem not_sequester_of_signed {α : Type} {wrap : α → Certificate} {signed : Signed α}
    (other : ∀ content certif, wrap content ≠ .sequester certif) :
    ∀ certif ∈ signed.certificates wrap, ∀ sequester, certif ≠ .sequester sequester := by
  intro certif member
  cases signed with
  | malformed error => cases member
  | certificate content signedBy =>
    cases List.mem_singleton.mp member
    exact other content

theorem addTopics_sequesterAdds {batch : Batch} (run : addTopics device batch store = .ok store') :
    SequesterAdds batch.arrivals store store' := by
  apply addTopics_relates (R := SequesterAdds) _ _ _ _ _ _ run
  · intro store
    exact ⟨fun sound => ⟨sound, (List.append_nil _).symm⟩, fun _ met => met⟩
  · exact fun _ _ _ _ _ => SequesterAdds.trans
  · exact fun _ _ _ => addSequester_sequesterAdds
  · intro store signed store' run
    exact sequesterAdds_elsewhere (addCommon_adds run)
      (not_sequester_of_signed fun _ _ same => by cases same)
  · intro id store signed store' run
    exact sequesterAdds_elsewhere (addRealm_adds run)
      (not_sequester_of_signed fun _ _ same => by cases same)
  · intro store signed store' run
    exact sequesterAdds_elsewhere (addShamirRecovery_adds run)
      (not_sequester_of_signed fun _ _ same => by cases same)

theorem addCertificatesBatch_sequester {batch : Batch} {outcome : MaybeRedactedSwitch}
    (run : addCertificatesBatch device batch store = .ok (outcome, store'))
    (sound : Authentic store) (met : Admitted SequesterAccepted store.storage) :
    Admitted SequesterAccepted store'.storage := by
  have nothing : ∀ {s s' : Store}, Adds [] s s' → SequesterAdds [] s s' :=
    fun adds => sequesterAdds_elsewhere adds fun _ member => by cases member
  rcases addCertificatesBatch_cases run with ⟨_, rfl⟩ | ⟨_, known, added, profile, topics, last⟩
  · exact met
  · have adds : SequesterAdds batch.arrivals store added :=
      ((nothing (getLastTimestamps_adds rfl)).trans
        (nothing (getCurrentSelfProfile_adds profile))).trans (addTopics_sequesterAdds topics)
    rcases last with rfl | ⟨_, again⟩ | ⟨_, rfl⟩
    · exact adds.2 sound met
    · exact (adds.trans (nothing (getCurrentSelfProfile_adds again))).2 sound met
    · exact admitted_nil

theorem sequesterAccepted_of_reachable (reached : Reachable device store) :
    Admitted SequesterAccepted store.storage := by
  have kept : Authentic store ∧ Admitted SequesterAccepted store.storage := by
    apply reached.keeps
    · exact ⟨⟨trusted_empty [], admitted_nil⟩, admitted_nil⟩
    · rintro store batch store' ⟨sound, met⟩ _ ⟨outcome, run⟩
      refine ⟨?_, addCertificatesBatch_sequester run sound met⟩
      rcases addCertificatesBatch_adds run with adds | ⟨_, rfl⟩
      · exact (adds sound).1
      · exact ⟨trusted_empty [], admitted_nil⟩
  exact kept.2

/-- The topic as it is stored: the authority comes before anything else, then the services and
    their revocations, one after the other. -/
structure SequesterSound (rows : Storage) : Prop where
  authorityFirst : ∀ (i : Nat) authority, rows[i]? = some (.sequester (.authority authority)) → i = 0
  afterAuthority : ∀ before certif after, rows = before ++ .sequester certif :: after →
    (∀ authority, certif ≠ .authority authority) → Sequestered before
  increasing : rows.Pairwise fun a b => ∀ x y, a = .sequester x → b = .sequester y →
    x.timestamp < y.timestamp
  services : ((rows.filterMap isSequesterService).map (·.serviceId)).Nodup
  revocations : ((rows.filterMap isSequesterRevokedService).map (·.serviceId)).Nodup
  revokesStored : ∀ before revoked after,
    rows = before ++ .sequester (.revokedService revoked) :: after →
    ∃ service, .sequester (.service service) ∈ before ∧ service.serviceId = revoked.serviceId

section Sound
variable (met : Admitted SequesterAccepted rows)
include met

theorem authority_first {i : Nat} {authority : SequesterAuthorityCertificate}
    (found : rows[i]? = some (.sequester (.authority authority))) : i = 0 := by
  obtain ⟨inside, isAuthority⟩ := List.getElem?_eq_some_iff.mp found
  have split : rows = rows.take i ++ .sequester (.authority authority) :: rows.drop (i + 1) := by
    rw [← isAuthority, List.getElem_cons_drop, List.take_append_drop]
  have accepted := met _ _ _ split
  cases accepted with
  | elsewhere _ other => exact absurd rfl (other _)
  | authority _ first =>
    rw [List.take_eq_nil_iff] at first
    rcases first with first | empty
    · exact first
    · rw [empty] at inside
      cases inside

theorem sequester_increasing : rows.Pairwise fun a b => ∀ x y, a = .sequester x →
    b = .sequester y → x.timestamp < y.timestamp := by
  apply met.pairwise
  intro before certif accepted earlier member x y isEarlier isLater
  subst isEarlier
  cases accepted with
  | elsewhere _ other => exact absurd isLater (other y)
  | authority _ first =>
    rw [first] at member
    cases member
  | service certif _ after =>
    cases isLater
    exact after x member
  | revokedService certif _ after =>
    cases isLater
    exact after x member

theorem ids_nodup {α : Type} {expected : Certificate → Option α} {wrap : α → Certificate}
    {id : α → SequesterServiceID} (known : ∀ certif a, expected certif = some a → certif = wrap a)
    (new : ∀ before x y, SequesterAccepted before (wrap y) → wrap x ∈ before → id x ≠ id y) :
    ((rows.filterMap expected).map id).Nodup := by
  have apart : rows.Pairwise fun a b => ∀ x y, expected a = some x → expected b = some y →
      id x ≠ id y := by
    apply met.pairwise
    intro before certif accepted earlier member x y isEarlier isLater
    rw [known earlier x isEarlier] at member
    rw [known certif y isLater] at accepted
    exact new before x y accepted member
  rw [List.Nodup, List.pairwise_map, List.pairwise_filterMap]
  exact apart.imp fun ids x isEarlier y isLater => ids x y isEarlier isLater

theorem services_nodup : ((rows.filterMap isSequesterService).map (·.serviceId)).Nodup := by
  apply ids_nodup met selects_sequesterServices.wrap_expected
  intro before x y accepted member
  cases accepted with
  | elsewhere _ other => exact absurd rfl (other _)
  | service _ _ _ new => exact new x member

theorem revocations_nodup :
    ((rows.filterMap isSequesterRevokedService).map (·.serviceId)).Nodup := by
  apply ids_nodup met fun certif a =>
    (selects_sequesterRevokedService a.serviceId).wrap_expected certif a
  intro before x y accepted member
  cases accepted with
  | elsewhere _ other => exact absurd rfl (other _)
  | revokedService _ _ _ new => exact new x member

theorem sequesterSound (known : Admitted RevokesKnownService rows) : SequesterSound rows where
  authorityFirst _ _ := authority_first met
  afterAuthority before certif after split isOther := by
    have accepted := met before _ after split
    cases accepted with
    | elsewhere _ other => exact absurd rfl (other certif)
    | authority certif first => exact absurd rfl (isOther certif)
    | service certif sequestered => exact sequestered
    | revokedService certif sequestered => exact sequestered
  increasing := sequester_increasing met
  services := services_nodup met
  revocations := revocations_nodup met
  revokesStored before revoked after split := known before _ after split revoked rfl

end Sound

/-- The sequester topic of every store reached by batches that revoke known services only. -/
theorem sequester_topic (reached : Reached device RevokesKnownService store) :
    SequesterSound store.storage :=
  sequesterSound (sequesterAccepted_of_reachable (reached.weaken fun _ _ _ _ _ _ _ => trivial))
    reached.sound.2

namespace Samples

def sequestered (certificates : List SignedSequester) : Batch where
  common := enrollment
  sequester := .authority ⟨1, ⟨7⟩⟩ ⟨0⟩ :: certificates
  shamirRecovery := []
  realm := []
  distinct := List.nodup_nil

def serviceRevoked : SignedSequester := .revokedService ⟨3, ⟨4⟩⟩ ⟨7⟩

end Samples

set_option maxRecDepth 10000 in
theorem sequester_topic_revoked : ∃ store, Reached self RevokesKnownService store ∧
    store.storage = (sequestered [.service ⟨2, ⟨4⟩⟩ ⟨7⟩, serviceRevoked]).arrivals ∧
    SequesterSound store.storage := by
  have admits : Admits RevokesKnownService (Store.start [])
      (sequestered [.service ⟨2, ⟨4⟩⟩ ⟨7⟩, serviceRevoked]) := by
    simp [Admits, admitted_cons, admitted_nil, RevokesKnownService, Batch.arrivals,
      SignedSequester.certificates, Signed.certificates, Store.start, sequestered, serviceRevoked,
      enrollment]
  obtain ⟨store, reached, stored⟩ := reached_batch self admits ⟨_, _, rfl, rfl⟩
  exact ⟨store, reached, stored, sequester_topic reached⟩

set_option maxRecDepth 10000 in
/-- The authority revokes a service that does not exist. -/
theorem unknown_service_revoked :
    ∃ store, Reachable self store ∧ ¬ SequesterSound store.storage := by
  obtain ⟨store, reached, stored⟩ :=
    reachable_batch self (sequestered [serviceRevoked]) ⟨_, _, rfl, rfl⟩
  refine ⟨store, reached, ?_⟩
  intro sound
  rw [stored] at sound
  obtain ⟨service, member, -⟩ :=
    sound.revokesStored [.sequester (.authority ⟨1, ⟨7⟩⟩)] ⟨3, ⟨4⟩⟩ _ rfl
  cases List.mem_singleton.mp member

end ParsecCloud.Certif
