import ParsecCloud.Certif.Queries

/- The last timestamps of the topics, as the storage computes them: they are those of stored
   certificates, and no stored certificate of the topic is newer. -/
namespace ParsecCloud.Certif
open Rust HashMap

/-- The last timestamp is one of the dates, and none of them is newer. -/
structure IsLast (last : Option DateTime) (dates : DateTime → Prop) : Prop where
  attained : ∀ date, last = some date → dates date
  bounds : ∀ date, dates date → ∃ newest, last = some newest ∧ date ≤ newest

section
variable {last : Option DateTime} {dates : DateTime → Prop}

theorem isLast_none : IsLast none fun _ => False where
  attained _ found := by cases found
  bounds _ known := known.elim

theorem IsLast.latest (isLast : IsLast last dates) (date : DateTime) :
    IsLast (some (PerTopicLastTimestamps.latest last date)) fun other =>
      dates other ∨ other = date := by
  cases last with
  | none =>
    refine ⟨fun other found => .inr (Option.some.inj found).symm, fun other known => ?_⟩
    rcases known with known | rfl
    · obtain ⟨newest, found, _⟩ := isLast.bounds other known
      cases found
    · exact ⟨other, rfl, le_refl other⟩
  | some newest =>
    have known := isLast.attained newest rfl
    refine ⟨fun other found => ?_, fun other found => ⟨_, rfl, ?_⟩⟩
    · cases found
      rcases max_choice newest date with same | same
      · exact .inl (by rwa [PerTopicLastTimestamps.latest, same])
      · exact .inr (by rw [PerTopicLastTimestamps.latest, same])
    · rcases found with found | rfl
      · obtain ⟨bound, same, le⟩ := isLast.bounds other found
        cases same
        exact le_trans le (le_max_left newest date)
      · exact le_max_right newest other

theorem IsLast.congr {dates' : DateTime → Prop} (isLast : IsLast last dates)
    (same : ∀ date, dates date ↔ dates' date) : IsLast last dates' :=
  ⟨fun date found => (same date).mp (isLast.attained date found),
    fun date known => isLast.bounds date ((same date).mpr known)⟩

theorem IsLast.latest_eq (isLast : IsLast last dates) {date : DateTime}
    (newest : ∀ other, dates other → other ≤ date) :
    PerTopicLastTimestamps.latest last date = date := by
  cases last with
  | none => rfl
  | some known => exact max_eq_right (newest known (isLast.attained known rfl))

end

namespace Storage
variable {storage : Storage}

def CommonDate (storage : Storage) (date : DateTime) : Prop :=
  ∃ certif, .common certif ∈ storage ∧ certif.timestamp = date

def RealmDate (storage : Storage) (id : VlobID) (date : DateTime) : Prop :=
  ∃ certif, .realm certif ∈ storage ∧ certif.realmId = id ∧ certif.timestamp = date

def ShamirRecoveryDate (storage : Storage) (date : DateTime) : Prop :=
  ∃ certif, .shamirRecovery certif ∈ storage ∧ certif.timestamp = date

def SequesterDate (storage : Storage) (date : DateTime) : Prop :=
  ∃ certif, .sequester certif ∈ storage ∧ certif.timestamp = date

/-- The last timestamps are those of the four topics. -/
structure LastTimestamps (last : PerTopicLastTimestamps) (storage : Storage) : Prop where
  common : IsLast last.common storage.CommonDate
  realm : ∀ id, IsLast (last.realm.lookup id) (storage.RealmDate id)
  shamirRecovery : IsLast last.shamirRecovery storage.ShamirRecoveryDate
  sequester : IsLast last.sequester storage.SequesterDate

@[simp] theorem getLastTimestamps_append (storage : Storage) (certif : Certificate) :
    getLastTimestamps (storage ++ [certif]) = storage.getLastTimestamps.record certif := by
  simp [getLastTimestamps]

theorem lastTimestamps_empty : LastTimestamps .empty ([] : Storage) where
  common := isLast_none.congr fun date => by simp [CommonDate]
  realm id := by
    rw [PerTopicLastTimestamps.empty, Finmap.lookup_empty]
    exact isLast_none.congr fun date => by simp [RealmDate]
  shamirRecovery := isLast_none.congr fun date => by simp [ShamirRecoveryDate]
  sequester := isLast_none.congr fun date => by simp [SequesterDate]

theorem lastTimestamps_record {last : PerTopicLastTimestamps} (known : LastTimestamps last storage)
    (certif : Certificate) : LastTimestamps (last.record certif) (storage ++ [certif]) := by
  cases certif with
  | common certif =>
    refine ⟨(known.common.latest certif.timestamp).congr fun date => ?_, fun id =>
      (known.realm id).congr fun date => ?_, known.shamirRecovery.congr fun date => ?_,
      known.sequester.congr fun date => ?_⟩
    · simp [CommonDate, or_and_right, exists_or, eq_comm]
    all_goals simp [RealmDate, ShamirRecoveryDate, SequesterDate]
  | realm certif =>
    refine ⟨known.common.congr fun date => ?_, fun id => ?_,
      known.shamirRecovery.congr fun date => ?_, known.sequester.congr fun date => ?_⟩
    · simp [CommonDate]
    · rw [PerTopicLastTimestamps.record, lookup_insert_ite]
      split
      · rename_i same
        subst same
        refine ((known.realm _).latest certif.timestamp).congr fun date => ?_
        simp [RealmDate, or_and_right, exists_or, eq_comm]
      · rename_i other
        refine (known.realm id).congr fun date => ?_
        have : certif.realmId ≠ id := fun same => other same.symm
        simp [RealmDate, or_and_right, exists_or, this]
    · simp [ShamirRecoveryDate]
    · simp [SequesterDate]
  | shamirRecovery certif =>
    refine ⟨known.common.congr fun date => ?_, fun id => (known.realm id).congr fun date => ?_,
      (known.shamirRecovery.latest certif.timestamp).congr fun date => ?_,
      known.sequester.congr fun date => ?_⟩
    · simp [CommonDate]
    · simp [RealmDate]
    · simp [ShamirRecoveryDate, or_and_right, exists_or, eq_comm]
    · simp [SequesterDate]
  | sequester certif =>
    refine ⟨known.common.congr fun date => ?_, fun id => (known.realm id).congr fun date => ?_,
      known.shamirRecovery.congr fun date => ?_,
      (known.sequester.latest certif.timestamp).congr fun date => ?_⟩
    · simp [CommonDate]
    · simp [RealmDate]
    · simp [ShamirRecoveryDate]
    · simp [SequesterDate, or_and_right, exists_or, eq_comm]

theorem lastTimestamps_known (storage : Storage) :
    LastTimestamps storage.getLastTimestamps storage := by
  induction storage using List.reverseRecOn with
  | nil => exact lastTimestamps_empty
  | append_singleton rest certif ih =>
    rw [getLastTimestamps_append]
    exact lastTimestamps_record ih certif

theorem isEmpty_iff : storage.getLastTimestamps.isEmpty = true ↔ storage = [] := by
  constructor
  · intro nothing
    rw [List.eq_nil_iff_forall_not_mem]
    have known := lastTimestamps_known storage
    simp only [PerTopicLastTimestamps.isEmpty, Bool.and_eq_true, Option.isNone_iff_eq_none,
      decide_eq_true_eq] at nothing
    obtain ⟨⟨⟨common, sequester⟩, realm⟩, shamirRecovery⟩ := nothing
    intro certif member
    cases certif with
    | common certif =>
      obtain ⟨_, found, _⟩ := known.common.bounds _ ⟨certif, member, rfl⟩
      rw [common] at found
      cases found
    | realm certif =>
      obtain ⟨newest, found, _⟩ := (known.realm certif.realmId).bounds _ ⟨certif, member, rfl, rfl⟩
      have key : certif.realmId ∈ storage.getLastTimestamps.realm.keys :=
        mem_keys_iff.mpr ⟨newest, found⟩
      rw [realm] at key
      simp at key
    | shamirRecovery certif =>
      obtain ⟨_, found, _⟩ := known.shamirRecovery.bounds _ ⟨certif, member, rfl⟩
      rw [shamirRecovery] at found
      cases found
    | sequester certif =>
      obtain ⟨_, found, _⟩ := known.sequester.bounds _ ⟨certif, member, rfl⟩
      rw [sequester] at found
      cases found
  · intro empty
    subst empty
    rfl

end Storage

end ParsecCloud.Certif
