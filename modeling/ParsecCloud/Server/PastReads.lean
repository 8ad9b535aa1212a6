import ParsecCloud.Lib.DatedVersions
import ParsecCloud.Server.VlobTables
import ParsecCloud.Server.VlobWrites

/- The reads of the vlobs at a date, by the in-memory server (memory/vlob.py) and by the PostgreSQL
   one (vlob_read_batch.py). The versions of a vlob have the order of their dates only if each update
   is dated after the version before it, which no server checks. -/
namespace ParsecCloud.Server
open Certif Runs MemoryOrganization ChangeFeed DatedLog DatedVersions

structure VlobItem where
  vlobId : VlobID
  keyIndex : Nat
  author : DeviceID
  version : Nat
  createdOn : DateTime
  blob : List Byte

structure VlobReadResult where
  items : List VlobItem
  neededCommonCertificateTimestamp : DateTime
  neededRealmCertificateTimestamp : DateTime

def MemoryVlobAtom.item (atom : MemoryVlobAtom) (vlobId : VlobID) : VlobItem :=
  ⟨vlobId, atom.keyIndex, atom.author, atom.version, atom.createdOn, atom.blob⟩

/-- The last atom, or the last one at the date. -/
def readAtom (vlob : List MemoryVlobAtom) : Option DateTime → Except BadOutcome (Option MemoryVlobAtom)
  | none =>
    match vlob.getLast? with
    | none => .error (.raised .indexError)
    | some atom => .ok (some atom)
  | some at_ => .ok (vlob.reverse.find? fun atom => atom.createdOn ≤ at_)

namespace MemoryOrganization
variable (org : MemoryOrganization)

def readItems (realm : MemoryRealm) (at_ : Option DateTime) :
    List VlobID → Except BadOutcome (List VlobItem)
  | [] => .ok []
  | vlobId :: rest =>
    match realm.vlobs.get? vlobId with
    | none => readItems realm at_ rest
    | some place => do
      let atom ← readAtom (org.atomLists.getD place []) at_
      let items ← readItems realm at_ rest
      return (atom.map (·.item vlobId)).toList ++ items

/-- read_batch -/
def readBatch (author : DeviceID) (realmId : VlobID) (vlobs : List VlobID) (at_ : Option DateTime) :
    Except BadOutcome VlobReadResult := do
  let (authorDevice, _) ← org.checkAuthor author
  let realm ← org.findRealm realmId
  refuse (realm.getCurrentRoleFor authorDevice.cooked.userId).isNone .authorNotAllowed
  let items ← org.readItems realm at_ vlobs
  return ⟨items, org.lastTimestamp .common, org.lastTimestamp (.realm realmId)⟩

end MemoryOrganization

/-- The row of a vlob with the device that its author refers to. -/
def AtomRow.item (row : AtomRow) (deviceId : InternalID → DeviceID) : VlobItem :=
  ⟨row.vlobId, row.keyIndex, deviceId row.author, row.version, row.createdOn, row.blob⟩

namespace VlobTables
variable (tables : VlobTables) (realm : InternalID)

/-- _q_get_latest_vlob and _q_get_vlob_at_timestamp -/
def readRow (at_ : Option DateTime) (vlobId : VlobID) : Option AtomRow :=
  match at_ with
  | none => (sortBy AtomRow.version (tables.atomsOfVlob realm vlobId)).getLast?
  | some at_ => (sortBy AtomRow.version
      ((tables.atomsOfVlob realm vlobId).filter fun atom => atom.createdOn ≤ at_)).getLast?

/-- The items of vlob_read_batch, once its checks are good. -/
def vlobReadBatch (deviceId : InternalID → DeviceID) (vlobs : List VlobID)
    (at_ : Option DateTime) : List VlobItem :=
  vlobs.filterMap fun vlobId => (tables.readRow realm at_ vlobId).map (·.item deviceId)

end VlobTables

/-- What the reads of a realm say of the past of its vlobs. -/
structure BatchesRight (strict : Bool) (atoms : VlobID → List VlobItem)
    (batch : List VlobID → Option DateTime → List VlobItem → Prop) : Prop where
  increase : ∀ vlobId, ∀ a ∈ atoms vlobId, ∀ b ∈ atoms vlobId, a.version < b.version →
    After strict a.createdOn b.createdOn
  monotone : ∀ vlobs vlobs' t t' items items', t ≤ t' → batch vlobs (some t) items →
    batch vlobs' (some t') items' → ∀ a ∈ items, ∀ b ∈ items', a.vlobId = b.vlobId →
    a.version ≤ b.version
  current : ∀ vlobs t items, batch vlobs (some t) items → ∀ a ∈ items,
    a ∈ atoms a.vlobId ∧ a.createdOn ≤ t ∧ ∀ b ∈ atoms a.vlobId,
      (b.version < a.version → b.createdOn ≤ a.createdOn) ∧ (a.version < b.version → t < b.createdOn)
  found : ∀ vlobs t items, batch vlobs (some t) items → ∀ vlobId ∈ vlobs,
    (∃ a ∈ atoms vlobId, a.createdOn ≤ t) → ∃ a ∈ items, a.vlobId = vlobId
  last : ∀ vlobs t items, batch vlobs none items →
    (∀ vlobId ∈ vlobs, ∀ a, (atoms vlobId).getLast? = some a → a.createdOn ≤ t) →
    batch vlobs (some t) items

section Batches
variable {strict : Bool} {atoms : VlobID → List VlobItem}
  {batch : List VlobID → Option DateTime → List VlobItem → Prop}

theorem BatchesRight.of_reads (read : Option DateTime → VlobID → Option VlobItem)
    (dated : ∀ vlobId, Dated VlobItem.version VlobItem.createdOn strict (atoms vlobId))
    (vlob : ∀ vlobId, ∀ a ∈ atoms vlobId, a.vlobId = vlobId)
    (current : ∀ vlobId t a, read (some t) vlobId = some a →
      IsCurrent VlobItem.version VlobItem.createdOn (atoms vlobId) t a)
    (found : ∀ vlobId t, (∃ a ∈ atoms vlobId, a.createdOn ≤ t) → ∃ a, read (some t) vlobId = some a)
    (last : ∀ vlobId, read none vlobId = (atoms vlobId).getLast?)
    (items : ∀ vlobs at_ items, batch vlobs at_ items → items = vlobs.filterMap (read at_))
    (batches : ∀ vlobs at_ at' items, batch vlobs at_ items →
      batch vlobs at' (vlobs.filterMap (read at'))) :
    BatchesRight strict atoms batch := by
  have isCurrent : ∀ vlobs t result, batch vlobs (some t) result → ∀ a ∈ result,
      IsCurrent VlobItem.version VlobItem.createdOn (atoms a.vlobId) t a := by
    intro vlobs t result isBatch a member
    rw [items vlobs _ result isBatch] at member
    obtain ⟨vlobId, -, isRead⟩ := List.mem_filterMap.mp member
    have isCurrent := current vlobId t a isRead
    rw [vlob vlobId a isCurrent.member]
    exact isCurrent
  constructor
  · intro vlobId a isA b isB less
    exact (dated vlobId).after isA isB less
  · intro vlobs vlobs' t t' result result' before isBatch isBatch' a isA b isB same
    have isCurrentA := isCurrent vlobs t result isBatch a isA
    rw [same] at isCurrentA
    exact isCurrentA.mono (isCurrent vlobs' t' result' isBatch' b isB) before
  · intro vlobs t result isBatch a member
    have isCurrentA := isCurrent vlobs t result isBatch a member
    refine ⟨isCurrentA.member, isCurrentA.dated, ?_⟩
    intro b isB
    exact ⟨fun less => ((dated a.vlobId).after isB isCurrentA.member less).le,
      fun greater => isCurrentA.after isB greater⟩
  · intro vlobs t result isBatch vlobId member some
    obtain ⟨a, isRead⟩ := found vlobId t some
    refine ⟨a, ?_, vlob vlobId a (current vlobId t a isRead).member⟩
    rw [items vlobs _ result isBatch]
    exact List.mem_filterMap.mpr ⟨vlobId, member, isRead⟩
  · intro vlobs t result isBatch before
    have same : vlobs.filterMap (read none) = vlobs.filterMap (read (some t)) := by
      apply List.filterMap_congr
      intro vlobId member
      rw [last]
      cases isLast : (atoms vlobId).getLast? with
      | none =>
        cases isRead : read (some t) vlobId with
        | none => rfl
        | some a =>
          have member := (current vlobId t a isRead).member
          rw [List.getLast?_eq_none_iff.mp isLast] at member
          cases member
      | some a =>
        have isCurrentA := isCurrent_last (dated vlobId).numbered isLast
          (before vlobId member a isLast)
        obtain ⟨b, isRead⟩ := found vlobId t ⟨a, isCurrentA.member, isCurrentA.dated⟩
        rw [isRead, (current vlobId t b isRead).eq isCurrentA (dated vlobId).numbered]
    have isItems := items vlobs _ result isBatch
    rw [isItems, same]
    exact batches vlobs none (some t) result isBatch

end Batches

/-- What the in-memory server reads of the atoms of a vlob. -/
def currentAtom (vlob : List MemoryVlobAtom) : Option DateTime → Option MemoryVlobAtom
  | none => vlob.getLast?
  | some at_ => vlob.reverse.find? fun atom => atom.createdOn ≤ at_

/-- The items of the atoms that a realm keeps for a vlob. -/
def MemoryOrganization.itemsOf (org : MemoryOrganization) (realm : MemoryRealm) (vlobId : VlobID) :
    List VlobItem :=
  (org.atomsOf realm vlobId).map (·.item vlobId)

/-- The lists of atoms have the order of the dates. -/
structure ListsDated (strict : Bool) (org : MemoryOrganization) : Prop where
  dated : ∀ atoms ∈ org.atomLists, Dated MemoryVlobAtom.version MemoryVlobAtom.createdOn strict atoms
  nonempty : ∀ atoms ∈ org.atomLists, atoms ≠ []
  inside : ∀ realmId vlobId place, IsAt org realmId vlobId place → place < org.atomLists.length

/-- An update is dated after the last atom of its vlob. -/
def DatedAfterLast (strict : Bool) (org : MemoryOrganization) : Waiting → Prop
  | .updateVlob write place => ∀ last, (org.atomLists.getD place []).getLast? = some last →
      After strict last.createdOn write.timestamp
  | _ => True

def UpdatesDated (strict : Bool) (s : State) : Event → Prop
  | .request _ call => s.org.callsWebhooks = false → DatedAfterLast strict s.org call
  | .accepted call => DatedAfterLast strict s.org call
  | _ => True

section Memory
variable {strict : Bool} {org org' : MemoryOrganization} {realm : MemoryRealm}
  {realmId vlobId : VlobID}

theorem ListsDated.getD (lists : ListsDated strict org) (place : Nat) :
    Dated MemoryVlobAtom.version MemoryVlobAtom.createdOn strict (org.atomLists.getD place []) := by
  rw [List.getD_eq_getElem?_getD]
  cases found : org.atomLists[place]? with
  | none => exact ⟨rfl, List.Pairwise.nil⟩
  | some atoms => exact lists.dated atoms (List.mem_of_getElem? found)

theorem ListsDated.same (lists : ListsDated strict org) (same : SameVlobs org org') :
    ListsDated strict org' := by
  constructor
  · rw [same.lists]
    exact lists.dated
  · rw [same.lists]
    exact lists.nonempty
  · intro realmId vlobId place isAt
    rw [same.lists]
    exact lists.inside realmId vlobId place (same.isAt.mp isAt)

theorem ListsDated.create {write : VlobWrite} (lists : ListsDated strict org)
    (isRealm : org.realms.get? write.realmId = some realm) (first : write.version = 1) :
    ListsDated strict (org.withNewVlob realm write) := by
  have isLists : (org.withNewVlob realm write).atomLists = org.atomLists ++ [[write.atom]] := rfl
  constructor
  · intro atoms member
    rw [isLists] at member
    rcases List.mem_append.mp member with isOld | isNew
    · exact lists.dated atoms isOld
    · rw [List.mem_singleton.mp isNew]
      refine ⟨?_, List.pairwise_singleton _ _⟩
      change [write.version] = [1]
      rw [first]
  · intro atoms member
    rw [isLists] at member
    rcases List.mem_append.mp member with isOld | isNew
    · exact lists.nonempty atoms isOld
    · rw [List.mem_singleton.mp isNew]
      exact List.cons_ne_nil _ _
  · intro realmId vlobId place isAt
    rw [isLists, List.length_append, List.length_singleton]
    rcases isAt_create isRealm isAt with isOld | ⟨-, -, isNew⟩
    · exact Nat.lt_succ_of_lt (lists.inside realmId vlobId place isOld)
    · omega

theorem ListsDated.update {write : VlobWrite} {place : Nat} (lists : ListsDated strict org)
    (isRealm : org.realms.get? write.realmId = some realm)
    (version : write.version = (org.atomLists.getD place []).length + 1)
    (later : DatedAfterLast strict org (.updateVlob write place)) :
    ListsDated strict (org.withAtom realm write place) := by
  have isLists : (org.withAtom realm write place).atomLists =
      org.atomLists.set place (org.atomLists.getD place [] ++ [write.atom]) := rfl
  constructor
  · intro atoms member
    rw [isLists] at member
    rcases List.mem_or_eq_of_mem_set member with isOld | isNew
    · exact lists.dated atoms isOld
    · rw [isNew]
      exact (lists.getD place).concat version later
  · intro atoms member
    rw [isLists] at member
    rcases List.mem_or_eq_of_mem_set member with isOld | isNew
    · exact lists.nonempty atoms isOld
    · rw [isNew]
      simp
  · intro realmId vlobId other isAt
    rw [isLists, List.length_set]
    exact lists.inside realmId vlobId other (isAt_update isRealm isAt)

theorem ListsDated.store {call : Waiting} (lists : ListsDated strict org)
    (effect : StoreEffect org call org') (valid : call.Valid org)
    (later : DatedAfterLast strict org call) : ListsDated strict org' := by
  cases effect with
  | createVlob isRealm => exact lists.create isRealm valid.1
  | updateVlob isRealm version => exact lists.update isRealm version later
  | rotateKey isRealm _ => exact lists.same (.of_set isRealm rfl rfl rfl rfl)

theorem lists_dated {start s : State} (noVlob : NoVlob start)
    (run : Run Step (UpdatesDated strict) start s) : ListsDated strict s.org := by
  have both : StateValid s ∧ ListsDated strict s.org := by
    apply @Run.keeps _ _ _ _ _ _ (fun s => StateValid s ∧ ListsDated strict s.org) _ _ run
    · refine ⟨noVlob.kept.valid, ?_, ?_, ?_⟩
      · rw [noVlob.noList]
        intro atoms member
        cases member
      · rw [noVlob.noList]
        intro atoms member
        cases member
      · intro realmId vlobId place isAt
        exact noVlob.kept.places.inside isAt
    · intro s event s' holds admitted step
      obtain ⟨valid, lists⟩ := holds
      refine ⟨valid.step step, ?_⟩
      cases step with
      | operation _ ok =>
        obtain ⟨topic, -, effect⟩ := Operation.effect ok
        exact lists.same effect.sameVlobs
      | waits => exact lists.same (.of_realms rfl rfl)
      | atOnce checked _ noWebhook ok =>
        exact lists.store (Waiting.store_effect ok) checked.valid (admitted noWebhook)
      | accepted ok =>
        exact lists.store (Waiting.store_effect ok) (valid.valid _ (by simp)) admitted
      | rejected => exact lists.same (.of_realms rfl rfl)
  exact both.2

theorem readItems_eq {at_ : Option DateTime} {vlobs : List VlobID}
    (some : ∀ vlobId place, realm.vlobs.get? vlobId = some place →
      org.atomLists.getD place [] ≠ []) :
    org.readItems realm at_ vlobs = .ok (vlobs.filterMap fun vlobId =>
      (currentAtom (org.atomsOf realm vlobId) at_).map (·.item vlobId)) := by
  induction vlobs with
  | nil => rfl
  | cons vlobId rest ih =>
    cases found : realm.vlobs.get? vlobId with
    | none =>
      have nothing : currentAtom (org.atomsOf realm vlobId) at_ = none := by
        rw [atomsOf_none found]
        cases at_ with
        | none => rfl
        | some t => rfl
      simp only [readItems, found]
      rw [ih, List.filterMap_cons, nothing]
      rfl
    | some place =>
      have isRead : readAtom (org.atomLists.getD place []) at_ =
          .ok (currentAtom (org.atomsOf realm vlobId) at_) := by
        rw [atomsOf_some found]
        cases at_ with
        | none =>
          obtain ⟨last, isLast⟩ : ∃ last, (org.atomLists.getD place []).getLast? = .some last :=
            ⟨_, List.getLast?_eq_some_getLast (some vlobId place found)⟩
          simp only [readAtom, currentAtom, isLast]
        | some t => rfl
      simp only [readItems, found, isRead, ih]
      cases current : currentAtom (org.atomsOf realm vlobId) at_ with
      | none =>
        rw [List.filterMap_cons, current]
        rfl
      | some atom =>
        rw [List.filterMap_cons, current]
        rfl

/-- Batches of the realm, by any of its members. -/
def MemoryOrganization.Batch (org : MemoryOrganization) (realmId : VlobID) (vlobs : List VlobID)
    (at_ : Option DateTime) (items : List VlobItem) : Prop :=
  ∃ author result, org.readBatch author realmId vlobs at_ = .ok result ∧ result.items = items

theorem batch_items (lists : ListsDated strict org) (isRealm : org.realms.get? realmId = some realm)
    {vlobs : List VlobID} {at_ : Option DateTime} {items : List VlobItem}
    (batch : org.Batch realmId vlobs at_ items) :
    (items = vlobs.filterMap fun vlobId =>
      (currentAtom (org.atomsOf realm vlobId) at_).map (·.item vlobId)) ∧
    ∀ at', org.Batch realmId vlobs at' (vlobs.filterMap fun vlobId =>
      (currentAtom (org.atomsOf realm vlobId) at').map (·.item vlobId)) := by
  have some : ∀ vlobId place, realm.vlobs.get? vlobId = some place →
      org.atomLists.getD place [] ≠ [] := by
    intro vlobId place found
    have inside := lists.inside realmId vlobId place ⟨realm, isRealm, found⟩
    rw [List.getD_eq_getElem?_getD, List.getElem?_eq_getElem inside]
    exact lists.nonempty _ (List.getElem_mem inside)
  obtain ⟨author, result, ok, rfl⟩ := batch
  obtain ⟨device, checked, rest⟩ := Rust.bind_eq_ok.mp ok
  obtain ⟨found, isFound, rest⟩ := Rust.bind_eq_ok.mp rest
  obtain ⟨done, allowed, rest⟩ := Rust.bind_eq_ok.mp rest
  have same := findRealm_ok isFound
  rw [isRealm] at same
  cases same
  rw [readItems_eq some] at rest
  cases rest
  refine ⟨rfl, ?_⟩
  intro at'
  refine ⟨author, ⟨_, org.lastTimestamp .common, org.lastTimestamp (.realm realmId)⟩, ?_, rfl⟩
  unfold MemoryOrganization.readBatch
  rw [checked]
  change (org.findRealm realmId >>= _) = _
  rw [isFound]
  change (refuse _ _ >>= _) = _
  rw [allowed]
  change (org.readItems realm at' vlobs >>= _) = _
  rw [readItems_eq some]
  rfl

end Memory

section Memory
variable {strict : Bool} {org : MemoryOrganization} {realm : MemoryRealm} {realmId : VlobID}

theorem memory_batches (lists : ListsDated strict org)
    (isRealm : org.realms.get? realmId = some realm) :
    BatchesRight strict (org.itemsOf realm) (org.Batch realmId) := by
  have dated : ∀ vlobId, Dated MemoryVlobAtom.version MemoryVlobAtom.createdOn strict
      (org.atomsOf realm vlobId) := by
    intro vlobId
    cases found : realm.vlobs.get? vlobId with
    | none =>
      rw [atomsOf_none found]
      exact ⟨rfl, List.Pairwise.nil⟩
    | some place =>
      rw [atomsOf_some found]
      exact lists.getD place
  apply BatchesRight.of_reads
    (fun at_ vlobId => (currentAtom (org.atomsOf realm vlobId) at_).map (·.item vlobId))
  · intro vlobId
    exact (dated vlobId).map (fun _ => rfl) fun _ => rfl
  · intro vlobId a member
    obtain ⟨atom, -, rfl⟩ := List.mem_map.mp member
    rfl
  · intro vlobId t a isRead
    obtain ⟨atom, found, rfl⟩ := Option.map_eq_some_iff.mp isRead
    exact (isCurrent_find (dated vlobId).numbered found).map (fun _ => rfl) fun _ => rfl
  · intro vlobId t some
    obtain ⟨a, member, before⟩ := some
    obtain ⟨atom, isAtom, rfl⟩ := List.mem_map.mp member
    cases found : currentAtom (org.atomsOf realm vlobId) (some t) with
    | none =>
      have later := List.find?_eq_none.mp found atom (List.mem_reverse.mpr isAtom)
      exact absurd (decide_eq_true before) later
    | some atom => exact ⟨_, rfl⟩
  · intro vlobId
    exact List.getLast?_map.symm
  · intro vlobs at_ items batch
    exact (batch_items lists isRealm batch).1
  · intro vlobs at_ at' items batch
    exact (batch_items lists isRealm batch).2 at'

end Memory

/-- The rows of each vlob have the order of the dates. -/
structure RowsDated (strict : Bool) (database : VlobDatabase) : Prop where
  numbered : DatabaseNumbered database
  dated : ∀ realm vlobId, Dated AtomRow.version AtomRow.createdOn strict
    (database.tables.atomsOfVlob realm vlobId)

/-- A row that is inserted is dated after that of the version before. -/
def InsertionsDated (strict : Bool) (database : VlobDatabase) : DatabaseEvent → Prop
  | .ends new index => database.tables.insertVlob new index ≠ database.tables →
      ∀ row ∈ database.tables.atomsOfVlob new.realm new.vlobId, row.version + 1 = new.version →
      After strict row.createdOn new.createdOn
  | _ => True

/-- Batches of the realm, whose members are found by their internal ids. -/
def VlobTables.Batch (tables : VlobTables) (realm : InternalID) (deviceId : InternalID → DeviceID)
    (vlobs : List VlobID) (at_ : Option DateTime) (items : List VlobItem) : Prop :=
  tables.vlobReadBatch realm deviceId vlobs at_ = items

def VlobTables.itemsOf (tables : VlobTables) (realm : InternalID) (deviceId : InternalID → DeviceID)
    (vlobId : VlobID) : List VlobItem :=
  (tables.atomsOfVlob realm vlobId).map (·.item deviceId)

section Database
variable {strict : Bool} {database database' : VlobDatabase} {event : DatabaseEvent}
  {tables : VlobTables} {new : NewVlobAtom} {index : Nat}

theorem atomsOfVlob_inserted (realm : InternalID) (vlobId : VlobID) :
    (tables.inserted new index).atomsOfVlob realm vlobId = tables.atomsOfVlob realm vlobId ++
      if new.realm = realm ∧ new.vlobId = vlobId then [new.row tables.nextId] else [] := by
  unfold VlobTables.atomsOfVlob
  rw [atomsOfRealm_inserted, List.filter_append]
  by_cases same : new.realm = realm
  · by_cases sameVlob : new.vlobId = vlobId
    · simp [same, sameVlob, NewVlobAtom.row]
    · simp [same, sameVlob, NewVlobAtom.row]
  · simp [same]

theorem RowsDated.insert (dated : ∀ realm vlobId, Dated AtomRow.version AtomRow.createdOn
      strict (tables.atomsOfVlob realm vlobId))
    (numbered : TablesNumbered tables)
    (version : ChangeFeed.Follows (versions (tables.log new.realm) new.vlobId) new.version)
    (later : tables.insertVlob new index ≠ tables →
      ∀ row ∈ tables.atomsOfVlob new.realm new.vlobId, row.version + 1 = new.version →
      After strict row.createdOn new.createdOn) :
    ∀ realm vlobId, Dated AtomRow.version AtomRow.createdOn strict
      ((tables.insertVlob new index).atomsOfVlob realm vlobId) := by
  rcases insertVlob_cases tables new index with same | ⟨free, -, inserted⟩
  · rw [same]
    exact dated
  · have isNext := (numbered.versions new.realm new.vlobId).next version free
    have changed : tables.insertVlob new index ≠ tables := by
      rw [inserted]
      intro same
      have ids := congrArg VlobTables.nextId same
      exact absurd ids (Nat.succ_ne_self _)
    rw [inserted]
    change ∀ realm vlobId, Dated _ _ strict ((tables.inserted new index).atomsOfVlob realm vlobId)
    intro realm vlobId
    rw [atomsOfVlob_inserted]
    by_cases here : new.realm = realm ∧ new.vlobId = vlobId
    · obtain ⟨rfl, rfl⟩ := here
      rw [if_pos ⟨rfl, rfl⟩]
      rw [versions_log, List.length_map] at isNext
      apply (dated new.realm new.vlobId).concat isNext
      intro last isLast
      apply later changed last (List.mem_of_getLast? isLast)
      have isVersion := (dated new.realm new.vlobId).numbered.last
      rw [List.getLast?_map, isLast, List.length_map] at isVersion
      rw [isNext]
      exact congrArg (· + 1) isVersion
    · rw [if_neg here, List.append_nil]
      exact dated realm vlobId

theorem RowsDated.step (rows : RowsDated strict database)
    (admitted : InsertionsDated strict database event)
    (step : DatabaseStep database event database') : RowsDated strict database' := by
  have numbered := (rows.numbered.step step).1
  cases step with
  | checks => exact ⟨numbered, rows.dated⟩
  | begins => exact ⟨numbered, rows.dated⟩
  | @ends tables before after new index =>
    refine ⟨numbered, RowsDated.insert rows.dated rows.numbered.tables ?_ admitted⟩
    exact rows.numbered.transactions.version ⟨new, some index⟩ (by simp)

theorem database_batches (rows : RowsDated strict database) (realm : InternalID)
    (deviceId : InternalID → DeviceID) :
    BatchesRight strict (database.tables.itemsOf realm deviceId)
      (database.tables.Batch realm deviceId) := by
  apply BatchesRight.of_reads
    (fun at_ vlobId => (database.tables.readRow realm at_ vlobId).map (·.item deviceId))
  · intro vlobId
    exact (rows.dated realm vlobId).map (fun _ => rfl) fun _ => rfl
  · intro vlobId a member
    obtain ⟨row, isRow, rfl⟩ := List.mem_map.mp member
    exact of_decide_eq_true (List.mem_filter.mp isRow).2
  · intro vlobId t a isRead
    obtain ⟨row, found, rfl⟩ := Option.map_eq_some_iff.mp isRead
    exact (isCurrent_sorted found).map (fun _ => rfl) fun _ => rfl
  · intro vlobId t some
    obtain ⟨a, member, before⟩ := some
    obtain ⟨row, isRow, rfl⟩ := List.mem_map.mp member
    have isMember : row ∈ sortBy AtomRow.version
        ((database.tables.atomsOfVlob realm vlobId).filter fun atom => atom.createdOn ≤ t) :=
      mem_sortBy.mpr (List.mem_filter.mpr ⟨isRow, decide_eq_true before⟩)
    have isLast := List.getLast?_eq_some_getLast (List.ne_nil_of_mem isMember)
    exact ⟨_, congrArg (Option.map (·.item deviceId)) isLast⟩
  · intro vlobId
    rw [VlobTables.readRow, sortBy_eq (List.Perm.refl _)
      (increasing (rows.dated realm vlobId).numbered), VlobTables.itemsOf, List.getLast?_map]
  · intro vlobs at_ items batch
    exact batch.symm
  · intro vlobs at_ at' items _
    rfl

end Database

/-- When each update is dated after the version before it, the reads of the past are right on both
    servers, and the dates increase strictly if those of the updates do. -/
theorem past_reads_right {strict : Bool} {start s : State} {database : VlobDatabase}
    (noVlob : NoVlob start) (run : Run Step (UpdatesDated strict) start s)
    (databaseRun : Run DatabaseStep (InsertionsDated strict) .empty database) :
    (∀ realmId realm, s.org.realms.get? realmId = some realm →
      BatchesRight strict (s.org.itemsOf realm) (s.org.Batch realmId)) ∧
    ∀ realm deviceId, BatchesRight strict (database.tables.itemsOf realm deviceId)
      (database.tables.Batch realm deviceId) := by
  constructor
  · intro realmId realm isRealm
    exact memory_batches (lists_dated noVlob run) isRealm
  · intro realm deviceId
    have rows : RowsDated strict database := by
      apply databaseRun.keeps
      · exact ⟨.empty, fun _ _ => ⟨rfl, List.Pairwise.nil⟩⟩
      · intro database event database' rows admitted step
        exact rows.step admitted step
    exact database_batches rows realm deviceId

def plainOrganization : MemoryOrganization :=
  { teamOrganization with
    realms := Dict.empty.set ⟨5⟩ keyedRealm
    perTopicLastTimestamp := Function.update teamOrganization.perTopicLastTimestamp (.realm ⟨5⟩)
      (some 3) }

theorem noVlob_plainOrganization : NoVlob ⟨plainOrganization, [], []⟩ := by
  refine ⟨rfl, ?_, rfl, rfl⟩
  intro realmId realm isRealm
  change (Dict.empty.set _ _).get? realmId = some realm at isRealm
  rcases Dict.found_set rfl isRealm with ⟨-, rfl⟩ | ⟨-, isRealm⟩
  · exact ⟨rfl, rfl⟩
  · cases isRealm

def updateAt (timestamp : DateTime) : VlobWrite := ⟨⟨11⟩, ⟨5⟩, ⟨8⟩, 1, 2, timestamp, [2]⟩

def createAt (timestamp : DateTime) : VlobWrite := ⟨⟨11⟩, ⟨5⟩, ⟨8⟩, 1, 1, timestamp, [1]⟩

/-- A vlob with two versions. -/
def twoVersions (first second : DateTime) : MemoryOrganization :=
  (plainOrganization.withNewVlob keyedRealm (createAt first)).withAtom
    { recordWrite keyedRealm (createAt first) with vlobs := Dict.empty.set ⟨8⟩ 0 } (updateAt second) 0

/-- A row for a version of the vlob. -/
def rowAt (version : Nat) (timestamp : DateTime) : NewVlobAtom :=
  ⟨1, 1, ⟨8⟩, version, [], 1, timestamp⟩

def createdRows : VlobTables := VlobDatabase.empty.tables.insertVlob (rowAt 1 50) 1

def updatedRows : VlobTables := createdRows.insertVlob (rowAt 2 100) 2

/-- A write while there is no other one. -/
theorem write_alone {database : VlobDatabase} {tables : VlobTables} {new : NewVlobAtom}
    (run : Run DatabaseStep (InsertionsDated true) database ⟨tables, []⟩)
    (checked : VersionChecked tables new)
    (dated : ∀ row ∈ tables.atomsOfVlob new.realm new.vlobId, row.createdOn < new.createdOn) :
    Run DatabaseStep (InsertionsDated true) database
      ⟨tables.insertVlob new (tables.newIndex new.realm), []⟩ := by
  have waits : Run DatabaseStep (InsertionsDated true) database _ :=
    .step (t := .checks new) run trivial (.checks checked)
  have begun : Run DatabaseStep (InsertionsDated true) database _ :=
    .step (t := .begins new) waits trivial (@DatabaseStep.begins _ [] [] _)
  refine begun.step ?_ (@DatabaseStep.ends _ [] [] _ _)
  intro _ row isRow _
  exact dated row isRow

theorem updatedRows_inserted : Run DatabaseStep (InsertionsDated true) .empty ⟨updatedRows, []⟩ := by
  have created : Run DatabaseStep (InsertionsDated true) .empty ⟨createdRows, []⟩ :=
    write_alone .start (.create rfl) fun row isRow => by cases isRow
  have rows : createdRows.atomsOfVlob 1 ⟨8⟩ = [(rowAt 1 50).row 1] := rfl
  have current : createdRows.vlobCurrentVersion 1 ⟨8⟩ = some 1 := by
    rw [VlobTables.vlobCurrentVersion, rows]
    simp [sortBy, NewVlobAtom.row, rowAt]
  apply write_alone created (.update current rfl)
  intro row isRow
  cases List.mem_singleton.mp isRow
  exact Int.lt_of_sub_pos (by decide)

theorem reads_after_later_update :
    (∀ realmId realm, (twoVersions 50 100).realms.get? realmId = some realm →
      BatchesRight true ((twoVersions 50 100).itemsOf realm) ((twoVersions 50 100).Batch realmId)) ∧
    ∀ realm deviceId, BatchesRight true (updatedRows.itemsOf realm deviceId)
      (updatedRows.Batch realm deviceId) := by
  have run : Run Step (UpdatesDated true) ⟨plainOrganization, [], []⟩
      ⟨twoVersions 50 100, [], [createAt 50, updateAt 100]⟩ :=
    .step (.step .start (t := .request (.createVlob 100 (createAt 50)) (.createVlob (createAt 50)))
      (fun _ => trivial) (.atOnce (.createVlob rfl rfl) (by simp [CanLock]) rfl rfl))
      (t := .request (.updateVlob 100 (updateAt 100)) (.updateVlob (updateAt 100) 0))
      (by intro _ last isLast; cases isLast; exact Int.lt_of_sub_pos (by decide))
      (.atOnce (.updateVlob rfl) (by simp [CanLock]) rfl rfl)
  exact past_reads_right noVlob_plainOrganization run updatedRows_inserted

/-- The clock of the second writer is late: the version that is read at its date hides a lower one
    that is dated later. -/
theorem late_clock_breaks_the_past :
    ∃ s realm, Run Step (fun _ _ => True) ⟨plainOrganization, [], []⟩ s ∧
      s.org.realms.get? ⟨5⟩ = some realm ∧
      s.org.readBatch ⟨11⟩ ⟨5⟩ [⟨8⟩] (some 60) =
        .ok ⟨[⟨⟨8⟩, 1, ⟨11⟩, 2, 50, [2]⟩], 1, 3⟩ ∧
      ¬ BatchesRight false (s.org.itemsOf realm) (s.org.Batch ⟨5⟩) := by
  have run : Run Step (fun _ _ => True) ⟨plainOrganization, [], []⟩
      ⟨twoVersions 100 50, [], [createAt 100, updateAt 50]⟩ :=
    .step (.step .start (t := .request (.createVlob 100 (createAt 100)) (.createVlob (createAt 100)))
      trivial (.atOnce (.createVlob rfl rfl) (by simp [CanLock]) rfl rfl))
      (t := .request (.updateVlob 100 (updateAt 50)) (.updateVlob (updateAt 50) 0))
      trivial (.atOnce (.updateVlob rfl) (by simp [CanLock]) rfl rfl)
  refine ⟨_, _, run, rfl, rfl, ?_⟩
  intro right
  have after := right.increase ⟨8⟩ ⟨⟨8⟩, 1, ⟨11⟩, 1, 100, [1]⟩ (.head _)
    ⟨⟨8⟩, 1, ⟨11⟩, 2, 50, [2]⟩ (.tail _ (.head _)) (by decide)
  exact absurd after.le (by decide)

end ParsecCloud.Server
