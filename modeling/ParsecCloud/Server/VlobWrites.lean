import ParsecCloud.Server.KeyAccess

/- The writes of the vlobs. A creation that waits for the webhooks does not see another creation of
   the same vlob: the second one to be accepted replaces the atoms of the first one. When this does
   not happen, the atoms are those of the successful writes, each of them once. -/
namespace ParsecCloud.Server
open Certif Rust Runs MemoryOrganization

/-- The atoms of a vlob, which are none when there is no such vlob. -/
def MemoryOrganization.atomsOf (org : MemoryOrganization) (realm : MemoryRealm) (vlobId : VlobID) :
    List MemoryVlobAtom :=
  match realm.vlobs.get? vlobId with
  | none => []
  | some place => org.atomLists.getD place []

def MemoryRealm.updatedAtoms (realm : MemoryRealm) : List MemoryVlobAtom :=
  realm.vlobUpdates.map (·.vlobAtom)

/-- The updates of the realm are its atoms, and those of the successful writes. -/
structure RealmVlobs (org : MemoryOrganization) (succeeded : List VlobWrite) (realmId : VlobID)
    (realm : MemoryRealm) : Prop where
  indexes : ∀ i update, realm.vlobUpdates[i]? = some update → update.index = i + 1
  once : realm.updatedAtoms.Nodup
  stored : ∀ atom, atom ∈ realm.updatedAtoms ↔ ∃ vlobId, atom ∈ org.atomsOf realm vlobId
  versions : ∀ vlobId i atom, (org.atomsOf realm vlobId)[i]? = some atom →
    atom.version = i + 1 ∧ atom.vlobId = vlobId
  succeeded : realm.updatedAtoms =
    (succeeded.filter fun write => write.realmId = realmId).map (·.atom)

/-- No write is lost or duplicated. -/
structure WritesKept (org : MemoryOrganization) (succeeded : List VlobWrite) : Prop where
  realms : ∀ realmId realm, org.realms.get? realmId = some realm →
    RealmVlobs org succeeded realmId realm
  known : ∀ write ∈ succeeded, ∃ realm, org.realms.get? write.realmId = some realm

/-- Where the atoms of a vlob are. -/
def IsAt (org : MemoryOrganization) (realmId vlobId : VlobID) (place : Nat) : Prop :=
  ∃ realm, org.realms.get? realmId = some realm ∧ realm.vlobs.get? vlobId = some place

/-- Each vlob has a list of atoms of its own, the one that the updates that wait have seen. -/
structure PlacesKept (org : MemoryOrganization) (waiting : List Waiting) : Prop where
  inside : ∀ {realmId vlobId place}, IsAt org realmId vlobId place → place < org.atomLists.length
  distinct : ∀ {realmId vlobId realmId' vlobId' place}, IsAt org realmId vlobId place →
    IsAt org realmId' vlobId' place → realmId = realmId' ∧ vlobId = vlobId'
  waiting : ∀ write place, .updateVlob write place ∈ waiting →
    IsAt org write.realmId write.vlobId place

theorem MemoryOrganization.atomsOf_none {org : MemoryOrganization} {realm : MemoryRealm}
    {vlobId : VlobID} (absent : realm.vlobs.get? vlobId = none) : org.atomsOf realm vlobId = [] := by
  rw [atomsOf, absent]

theorem MemoryOrganization.atomsOf_some {org : MemoryOrganization} {realm : MemoryRealm}
    {vlobId : VlobID} {place : Nat} (found : realm.vlobs.get? vlobId = some place) :
    org.atomsOf realm vlobId = org.atomLists.getD place [] := by
  rw [atomsOf, found]

section Realm
variable {org org' : MemoryOrganization} {succeeded : List VlobWrite} {realmId : VlobID}
  {realm realm' : MemoryRealm} {write : VlobWrite}

theorem RealmVlobs.congr (vlobs : RealmVlobs org succeeded realmId realm)
    (updates : realm'.vlobUpdates = realm.vlobUpdates)
    (atoms : ∀ vlobId, org'.atomsOf realm' vlobId = org.atomsOf realm vlobId)
    {succeeded' : List VlobWrite}
    (same : succeeded'.filter (fun write => write.realmId = realmId) =
      succeeded.filter fun write => write.realmId = realmId) :
    RealmVlobs org' succeeded' realmId realm' := by
  have sameAtoms : realm'.updatedAtoms = realm.updatedAtoms := by
    rw [MemoryRealm.updatedAtoms, updates, MemoryRealm.updatedAtoms]
  constructor
  · rw [updates]
    exact vlobs.indexes
  · rw [sameAtoms]
    exact vlobs.once
  · intro atom
    rw [sameAtoms, vlobs.stored]
    simp only [atoms]
  · intro vlobId
    rw [atoms]
    exact vlobs.versions vlobId
  · rw [sameAtoms, same]
    exact vlobs.succeeded

theorem RealmVlobs.empty (noVlob : realm.vlobs = .empty) (noUpdate : realm.vlobUpdates = [])
    (noWrite : succeeded.filter (fun write => write.realmId = realmId) = []) :
    RealmVlobs org succeeded realmId realm := by
  have noAtom : ∀ vlobId, org.atomsOf realm vlobId = [] := by
    intro vlobId
    apply atomsOf_none
    rw [noVlob]
    rfl
  have nothing : realm.updatedAtoms = [] := by
    rw [MemoryRealm.updatedAtoms, noUpdate]
    rfl
  constructor
  · simp [noUpdate]
  · rw [nothing]
    exact List.nodup_nil
  · simp [nothing, noAtom]
  · simp [noAtom]
  · rw [nothing, noWrite]
    rfl

theorem RealmVlobs.record (vlobs : RealmVlobs org succeeded write.realmId realm)
    (updates : realm'.vlobUpdates =
      realm.vlobUpdates ++ [⟨realm.vlobUpdates.length + 1, write.atom⟩])
    (atoms : ∀ vlobId, org'.atomsOf realm' vlobId =
      if vlobId = write.vlobId then org.atomsOf realm vlobId ++ [write.atom]
      else org.atomsOf realm vlobId)
    (version : write.version = (org.atomsOf realm write.vlobId).length + 1) :
    RealmVlobs org' (succeeded ++ [write]) write.realmId realm' := by
  have updated : realm'.updatedAtoms = realm.updatedAtoms ++ [write.atom] := by
    rw [MemoryRealm.updatedAtoms, updates, List.map_append]
    rfl
  have isNew : write.atom ∉ realm.updatedAtoms := by
    intro member
    obtain ⟨vlobId, isAtom⟩ := (vlobs.stored _).mp member
    obtain ⟨i, found⟩ := List.mem_iff_getElem?.mp isAtom
    obtain ⟨isVersion, isVlob⟩ := vlobs.versions vlobId i _ found
    change write.version = i + 1 at isVersion
    change write.vlobId = vlobId at isVlob
    have bound := (List.getElem?_eq_some_iff.mp found).1
    rw [← isVlob] at bound
    omega
  constructor
  · intro i update found
    rw [updates] at found
    by_cases inside : i < realm.vlobUpdates.length
    · rw [List.getElem?_append_left inside] at found
      exact vlobs.indexes i update found
    · have bound := (List.getElem?_eq_some_iff.mp found).1
      rw [List.length_append, List.length_singleton] at bound
      have isLast : i = realm.vlobUpdates.length := by omega
      rw [isLast, List.getElem?_concat_length] at found
      cases found
      rw [isLast]
  · rw [updated]
    apply List.Nodup.append vlobs.once (List.nodup_singleton _)
    rw [List.disjoint_singleton]
    exact isNew
  · intro atom
    rw [updated, List.mem_append, List.mem_singleton, vlobs.stored]
    constructor
    · intro member
      rcases member with ⟨vlobId, isOld⟩ | rfl
      · refine ⟨vlobId, ?_⟩
        rw [atoms]
        split
        · exact List.mem_append_left _ isOld
        · exact isOld
      · refine ⟨write.vlobId, ?_⟩
        rw [atoms, if_pos rfl]
        exact List.mem_append_right _ (List.mem_singleton_self _)
    · rintro ⟨vlobId, isAtom⟩
      rw [atoms] at isAtom
      split at isAtom
      · rcases List.mem_append.mp isAtom with isOld | isWritten
        · exact Or.inl ⟨vlobId, isOld⟩
        · exact Or.inr (List.mem_singleton.mp isWritten)
      · exact Or.inl ⟨vlobId, isAtom⟩
  · intro vlobId i atom found
    rw [atoms] at found
    split at found
    · rename_i same
      subst same
      by_cases inside : i < (org.atomsOf realm write.vlobId).length
      · rw [List.getElem?_append_left inside] at found
        exact vlobs.versions _ i atom found
      · have bound := (List.getElem?_eq_some_iff.mp found).1
        rw [List.length_append, List.length_singleton] at bound
        have isLast : i = (org.atomsOf realm write.vlobId).length := by omega
        rw [isLast, List.getElem?_concat_length] at found
        cases found
        rw [isLast]
        exact ⟨version, rfl⟩
    · exact vlobs.versions vlobId i atom found
  · rw [updated, List.filter_append, List.map_append, vlobs.succeeded]
    simp

end Realm

section Steps
variable {org org' : MemoryOrganization} {succeeded : List VlobWrite} {waiting : List Waiting}

/-- The vlobs stay, and a new realm has none. -/
structure SameVlobs (org org' : MemoryOrganization) : Prop where
  lists : org'.atomLists = org.atomLists
  kept : ∀ realmId realm, org.realms.get? realmId = some realm →
    ∃ realm', org'.realms.get? realmId = some realm' ∧ realm'.vlobs = realm.vlobs
  origin : ∀ realmId realm', org'.realms.get? realmId = some realm' →
    (∃ realm, org.realms.get? realmId = some realm ∧ realm'.vlobs = realm.vlobs ∧
      realm'.vlobUpdates = realm.vlobUpdates) ∨
    org.realms.get? realmId = none ∧ realm'.vlobs = .empty ∧ realm'.vlobUpdates = []

theorem SameVlobs.of_realms (lists : org'.atomLists = org.atomLists)
    (realms : org'.realms = org.realms) : SameVlobs org org' := by
  refine ⟨lists, ?_, ?_⟩
  · intro realmId realm isRealm
    rw [realms]
    exact ⟨realm, isRealm, rfl⟩
  · intro realmId realm isRealm
    rw [realms] at isRealm
    exact Or.inl ⟨realm, isRealm, rfl, rfl⟩

theorem SameVlobs.of_set {realmId : VlobID} {realm realm' : MemoryRealm}
    (isRealm : org.realms.get? realmId = some realm) (lists : org'.atomLists = org.atomLists)
    (realms : org'.realms = org.realms.set realmId realm') (vlobs : realm'.vlobs = realm.vlobs)
    (updates : realm'.vlobUpdates = realm.vlobUpdates) : SameVlobs org org' := by
  refine ⟨lists, ?_, ?_⟩
  · intro other found isFound
    rw [realms, Dict.get?_set]
    split
    · rename_i same
      rw [same, isRealm] at isFound
      cases isFound
      exact ⟨realm', rfl, vlobs⟩
    · exact ⟨found, isFound, rfl⟩
  · intro other found isFound
    rcases Dict.found_set realms isFound with ⟨same, rfl⟩ | ⟨-, isFound⟩
    · rw [same]
      exact Or.inl ⟨realm, isRealm, vlobs, updates⟩
    · exact Or.inl ⟨found, isFound, rfl, rfl⟩

theorem SameVlobs.of_new {realmId : VlobID} {realm' : MemoryRealm}
    (isNew : org.realms.get? realmId = none) (lists : org'.atomLists = org.atomLists)
    (realms : org'.realms = org.realms.set realmId realm') (vlobs : realm'.vlobs = .empty)
    (updates : realm'.vlobUpdates = []) : SameVlobs org org' := by
  refine ⟨lists, ?_, ?_⟩
  · intro other found isFound
    refine ⟨found, ?_, rfl⟩
    rw [realms]
    exact Dict.kept_set isNew isFound
  · intro other found isFound
    rcases Dict.found_set realms isFound with ⟨same, rfl⟩ | ⟨-, isFound⟩
    · rw [same]
      exact Or.inr ⟨isNew, vlobs, updates⟩
    · exact Or.inl ⟨found, isFound, rfl, rfl⟩

theorem Effect.sameVlobs {kind : OperationKind} {topic : TopicAndDiscriminant}
    (effect : Effect org kind topic org') : SameVlobs org org' := by
  cases effect with
  | user => exact .of_realms rfl rfl
  | device => exact .of_realms rfl rfl
  | revocation => exact .of_realms rfl rfl
  | update => exact .of_realms rfl rfl
  | newRealm now raw hasAuthor notOutsider owner isNew => exact .of_new isNew rfl rfl rfl rfl
  | share raw access hasAuthor other role isUser active isRealm =>
    exact .of_set isRealm rfl rfl rfl rfl
  | unshare raw hasAuthor other noRole isUser isRealm => exact .of_set isRealm rfl rfl rfl rfl
  | rename raw hasAuthor isRealm => exact .of_set isRealm rfl rfl rfl rfl
  | setup => exact .of_realms rfl rfl
  | deletion => exact .of_realms rfl rfl
  | service => exact .of_realms rfl rfl
  | revokedService => exact .of_realms rfl rfl

theorem SameVlobs.isAt {realmId vlobId : VlobID} {place : Nat} (same : SameVlobs org org') :
    IsAt org' realmId vlobId place ↔ IsAt org realmId vlobId place := by
  constructor
  · rintro ⟨realm', isRealm', found⟩
    rcases same.origin realmId realm' isRealm' with ⟨realm, isRealm, vlobs, -⟩ | ⟨-, empty, -⟩
    · exact ⟨realm, isRealm, vlobs ▸ found⟩
    · rw [empty] at found
      cases found
  · rintro ⟨realm, isRealm, found⟩
    obtain ⟨realm', isRealm', vlobs⟩ := same.kept realmId realm isRealm
    exact ⟨realm', isRealm', vlobs.symm ▸ found⟩

theorem PlacesKept.same (places : PlacesKept org waiting) (same : SameVlobs org org') :
    PlacesKept org' waiting := by
  constructor
  · intro realmId vlobId place isAt
    rw [same.lists]
    exact places.inside (same.isAt.mp isAt)
  · intro realmId vlobId realmId' vlobId' place isAt isAt'
    exact places.distinct (same.isAt.mp isAt) (same.isAt.mp isAt')
  · intro write place member
    exact same.isAt.mpr (places.waiting write place member)

theorem WritesKept.same (writes : WritesKept org succeeded) (same : SameVlobs org org') :
    WritesKept org' succeeded := by
  constructor
  · intro realmId realm' isRealm'
    rcases same.origin realmId realm' isRealm' with
      ⟨realm, isRealm, vlobs, updates⟩ | ⟨isNew, empty, noUpdate⟩
    · refine (writes.realms realmId realm isRealm).congr updates ?_ rfl
      intro vlobId
      rw [atomsOf, vlobs, same.lists, atomsOf]
    · apply RealmVlobs.empty empty noUpdate
      rw [List.filter_eq_nil_iff]
      intro write member isHere
      obtain ⟨realm, isRealm⟩ := writes.known write member
      rw [of_decide_eq_true isHere, isNew] at isRealm
      cases isRealm
  · intro write member
    obtain ⟨realm, isRealm⟩ := writes.known write member
    obtain ⟨realm', isRealm', -⟩ := same.kept _ realm isRealm
    exact ⟨realm', isRealm'⟩

/-- A write in one of the realms, with the next version of its vlob. -/
structure WriteRecorded (org org' : MemoryOrganization) (write : VlobWrite)
    (realm realm' : MemoryRealm) : Prop where
  isRealm : org.realms.get? write.realmId = some realm
  realms : org'.realms = org.realms.set write.realmId realm'
  updates : realm'.vlobUpdates =
    realm.vlobUpdates ++ [⟨realm.vlobUpdates.length + 1, write.atom⟩]
  atoms : ∀ vlobId, org'.atomsOf realm' vlobId =
    if vlobId = write.vlobId then org.atomsOf realm vlobId ++ [write.atom]
    else org.atomsOf realm vlobId
  others : ∀ realmId other, realmId ≠ write.realmId → org.realms.get? realmId = some other →
    ∀ vlobId, org'.atomsOf other vlobId = org.atomsOf other vlobId
  version : write.version = (org.atomsOf realm write.vlobId).length + 1

theorem WritesKept.write {write : VlobWrite} {realm realm' : MemoryRealm}
    (writes : WritesKept org succeeded) (recorded : WriteRecorded org org' write realm realm') :
    WritesKept org' (succeeded ++ [write]) := by
  constructor
  · intro realmId found isFound
    rcases Dict.found_set recorded.realms isFound with ⟨same, rfl⟩ | ⟨different, isFound⟩
    · rw [same]
      exact (writes.realms _ realm recorded.isRealm).record recorded.updates recorded.atoms
        recorded.version
    · refine (writes.realms realmId found isFound).congr rfl
        (recorded.others realmId found different isFound) ?_
      rw [List.filter_append, List.filter_singleton]
      simp [Ne.symm different]
  · intro other member
    rw [recorded.realms, Dict.get?_set]
    split
    · exact ⟨_, rfl⟩
    · rename_i different
      rcases List.mem_append.mp member with isOld | isNew
      · exact writes.known other isOld
      · rw [List.mem_singleton.mp isNew] at different
        exact absurd rfl different

section Creation
variable {write : VlobWrite} {realm : MemoryRealm}

theorem isAt_create {realmId vlobId : VlobID} {place : Nat}
    (isRealm : org.realms.get? write.realmId = some realm)
    (isAt : IsAt (org.withNewVlob realm write) realmId vlobId place) :
    IsAt org realmId vlobId place ∨
      realmId = write.realmId ∧ vlobId = write.vlobId ∧ place = org.atomLists.length := by
  obtain ⟨found, isFound, isPlace⟩ := isAt
  change (org.realms.set _ _).get? realmId = some found at isFound
  rcases Dict.found_set rfl isFound with ⟨same, rfl⟩ | ⟨-, isFound⟩
  · change (realm.vlobs.set write.vlobId org.atomLists.length).get? vlobId = some place at isPlace
    rw [Dict.get?_set] at isPlace
    rw [same]
    split at isPlace
    · rename_i sameVlob
      cases isPlace
      exact Or.inr ⟨rfl, sameVlob, rfl⟩
    · exact Or.inl ⟨realm, isRealm, isPlace⟩
  · exact Or.inl ⟨found, isFound, isPlace⟩

theorem atomsOf_create {realmId vlobId : VlobID} {other other' : MemoryRealm}
    (inside : ∀ {realmId vlobId place}, IsAt org realmId vlobId place →
      place < org.atomLists.length)
    (isOther : org.realms.get? realmId = some other)
    (same : other'.vlobs.get? vlobId = other.vlobs.get? vlobId) :
    (org.withNewVlob realm write).atomsOf other' vlobId = org.atomsOf other vlobId := by
  cases found : other.vlobs.get? vlobId with
  | none => rw [atomsOf_none found, atomsOf_none (same.trans found)]
  | some place =>
    rw [atomsOf_some found, atomsOf_some (same.trans found)]
    change (org.atomLists ++ [[write.atom]]).getD place [] = _
    rw [List.getD_eq_getElem?_getD, List.getElem?_append_left (inside ⟨other, isOther, found⟩),
      List.getD_eq_getElem?_getD]

theorem atomsOf_created (found : MemoryRealm)
    (isPlace : found.vlobs.get? write.vlobId = some org.atomLists.length) :
    (org.withNewVlob realm write).atomsOf found write.vlobId = [write.atom] := by
  rw [atomsOf_some isPlace]
  simp [withNewVlob]

theorem PlacesKept.create (places : PlacesKept org waiting)
    (isRealm : org.realms.get? write.realmId = some realm)
    (absent : realm.vlobs.get? write.vlobId = none) :
    PlacesKept (org.withNewVlob realm write) waiting := by
  have isAt : ∀ {realmId vlobId place}, IsAt (org.withNewVlob realm write) realmId vlobId place →
      IsAt org realmId vlobId place ∨
        realmId = write.realmId ∧ vlobId = write.vlobId ∧ place = org.atomLists.length :=
    isAt_create isRealm
  have longer : (org.withNewVlob realm write).atomLists.length = org.atomLists.length + 1 :=
    List.length_append
  constructor
  · intro realmId vlobId place found
    rw [longer]
    rcases isAt found with isOld | ⟨-, -, isNew⟩
    · have bound := places.inside isOld
      omega
    · omega
  · intro realmId vlobId realmId' vlobId' place found found'
    rcases isAt found with isOld | ⟨isRealm, isVlob, isNew⟩
    · have bound := places.inside isOld
      rcases isAt found' with isOld' | ⟨-, -, isNew'⟩
      · exact places.distinct isOld isOld'
      · omega
    · rcases isAt found' with isOld' | ⟨isRealm', isVlob', -⟩
      · have bound := places.inside isOld'
        omega
      · exact ⟨isRealm.trans isRealm'.symm, isVlob.trans isVlob'.symm⟩
  · intro other place member
    obtain ⟨found, isFound, isPlace⟩ := places.waiting other place member
    change ∃ realm', (org.realms.set _ _).get? other.realmId = some realm' ∧ _
    rw [Dict.get?_set]
    split
    · rename_i same
      rw [same, isRealm] at isFound
      cases isFound
      refine ⟨_, rfl, (Dict.get?_set_of_ne ?_).trans isPlace⟩
      rintro same
      rw [same, absent] at isPlace
      cases isPlace
    · exact ⟨found, isFound, isPlace⟩

theorem recorded_create (places : PlacesKept org waiting)
    (isRealm : org.realms.get? write.realmId = some realm)
    (absent : realm.vlobs.get? write.vlobId = none) (first : write.version = 1) :
    ∃ realm', WriteRecorded org (org.withNewVlob realm write) write realm realm' := by
  have noAtom : org.atomsOf realm write.vlobId = [] := atomsOf_none absent
  refine ⟨_, isRealm, rfl, rfl, ?_, ?_, by rw [noAtom, first]; rfl⟩
  · intro vlobId
    split
    · rename_i same
      rw [same, noAtom]
      exact atomsOf_created _ (Dict.get?_set_self _ _ _)
    · rename_i different
      exact atomsOf_create places.inside isRealm (Dict.get?_set_of_ne different)
  · intro realmId other different isOther vlobId
    exact atomsOf_create places.inside isOther rfl

end Creation

section Update
variable {write : VlobWrite} {realm : MemoryRealm} {place : Nat}

theorem isAt_update {realmId vlobId : VlobID} {found : Nat}
    (isRealm : org.realms.get? write.realmId = some realm)
    (isAt : IsAt (org.withAtom realm write place) realmId vlobId found) :
    IsAt org realmId vlobId found := by
  obtain ⟨other, isOther, isPlace⟩ := isAt
  change (org.realms.set write.realmId (recordWrite realm write)).get? realmId = _ at isOther
  rcases Dict.found_set rfl isOther with ⟨same, rfl⟩ | ⟨-, isOther⟩
  · rw [same]
    exact ⟨realm, isRealm, isPlace⟩
  · exact ⟨other, isOther, isPlace⟩

theorem PlacesKept.update (places : PlacesKept org waiting)
    (isRealm : org.realms.get? write.realmId = some realm) :
    PlacesKept (org.withAtom realm write place) waiting := by
  have isAt : ∀ {realmId vlobId found}, IsAt (org.withAtom realm write place) realmId vlobId found →
      IsAt org realmId vlobId found := isAt_update isRealm
  constructor
  · intro realmId vlobId found isFound
    change found < (org.atomLists.set _ _).length
    rw [List.length_set]
    exact places.inside (isAt isFound)
  · intro realmId vlobId realmId' vlobId' found isFound isFound'
    exact places.distinct (isAt isFound) (isAt isFound')
  · intro other found member
    obtain ⟨otherRealm, isOther, isPlace⟩ := places.waiting other found member
    change ∃ realm', (org.realms.set write.realmId (recordWrite realm write)).get? other.realmId =
      some realm' ∧ _
    rw [Dict.get?_set]
    split
    · rename_i same
      rw [same, isRealm] at isOther
      cases isOther
      exact ⟨_, rfl, isPlace⟩
    · exact ⟨otherRealm, isOther, isPlace⟩

theorem atomsOf_update {vlobId : VlobID} {other : MemoryRealm}
    (apart : other.vlobs.get? vlobId ≠ some place) :
    (org.withAtom realm write place).atomsOf other vlobId = org.atomsOf other vlobId := by
  cases found : other.vlobs.get? vlobId with
  | none => rw [atomsOf_none found, atomsOf_none found]
  | some otherPlace =>
    have different : place ≠ otherPlace := by
      rintro rfl
      exact apart found
    rw [atomsOf_some found, atomsOf_some found, List.getD_eq_getElem?_getD,
      List.getD_eq_getElem?_getD]
    change ((org.atomLists.set place _)[otherPlace]?).getD [] = _
    rw [List.getElem?_set_ne different]

theorem atomsOf_updated {vlobId : VlobID} {other : MemoryRealm}
    (inside : place < org.atomLists.length) (isPlace : other.vlobs.get? vlobId = some place) :
    (org.withAtom realm write place).atomsOf other vlobId =
      org.atomsOf other vlobId ++ [write.atom] := by
  rw [atomsOf_some isPlace, atomsOf_some isPlace]
  change (org.atomLists.set place _).getD place [] = _
  rw [List.getD_eq_getElem?_getD, List.getElem?_set_self inside]
  rfl

theorem recorded_update (places : PlacesKept org waiting)
    (isRealm : org.realms.get? write.realmId = some realm)
    (isPlace : realm.vlobs.get? write.vlobId = some place)
    (version : write.version = (org.atomLists.getD place []).length + 1) :
    ∃ realm', WriteRecorded org (org.withAtom realm write place) write realm realm' := by
  have inside := places.inside ⟨realm, isRealm, isPlace⟩
  refine ⟨_, isRealm, rfl, rfl, ?_, ?_, by rw [atomsOf_some isPlace]; exact version⟩
  · intro vlobId
    -- the record of a write leaves the vlobs of the realm
    change (org.withAtom realm write place).atomsOf realm vlobId = _
    split
    · rename_i same
      rw [same]
      exact atomsOf_updated inside isPlace
    · rename_i different
      apply atomsOf_update
      intro found
      exact different (places.distinct ⟨realm, isRealm, found⟩ ⟨realm, isRealm, isPlace⟩).2
  · intro realmId other different isOther vlobId
    apply atomsOf_update
    intro found
    exact different (places.distinct ⟨other, isOther, found⟩ ⟨realm, isRealm, isPlace⟩).1

end Update

end Steps

/-- A creation that is accepted is of a vlob that does not exist by then. -/
def NoOverwrite (s : State) : Event → Prop
  | .accepted (.createVlob write) => ∀ realm, s.org.realms.get? write.realmId = some realm →
      realm.vlobs.get? write.vlobId = none
  | _ => True

structure VlobsKept (s : State) : Prop where
  valid : StateValid s
  writes : WritesKept s.org s.succeeded
  places : PlacesKept s.org s.waiting

theorem PlacesKept.waits {org : MemoryOrganization} {waiting waiting' : List Waiting}
    (places : PlacesKept org waiting)
    (updates : ∀ write place, .updateVlob write place ∈ waiting' →
      .updateVlob write place ∈ waiting ∨ IsAt org write.realmId write.vlobId place) :
    PlacesKept org waiting' := by
  refine ⟨places.inside, places.distinct, ?_⟩
  intro write place member
  rcases updates write place member with isOld | isAt
  · exact places.waiting write place isOld
  · exact isAt

theorem Request.Checked.isAt {org : MemoryOrganization} {request : Request} {write : VlobWrite}
    {place : Nat} (checked : request.Checked org (.updateVlob write place)) :
    IsAt org write.realmId write.vlobId place := by
  cases checked with
  | updateVlob ok =>
    obtain ⟨userId, user, realm, valid, found⟩ := updateVlobCheck_ok ok
    exact ⟨realm, valid.isRealm, found⟩

theorem Request.Checked.absent {org : MemoryOrganization} {request : Request} {write : VlobWrite}
    {realm : MemoryRealm} (checked : request.Checked org (.createVlob write))
    (isRealm : org.realms.get? write.realmId = some realm) :
    realm.vlobs.get? write.vlobId = none := by
  cases checked with
  | createVlob first ok =>
    obtain ⟨userId, user, found, valid, isNew⟩ := createVlobCheck_ok ok
    rw [valid.isRealm] at isRealm
    cases isRealm
    exact isNew

/-- What the vlobs become, and the writes that have succeeded. -/
inductive VlobsStep (org : MemoryOrganization) : List VlobWrite → MemoryOrganization → Prop where
  | same {org' : MemoryOrganization} : SameVlobs org org' → VlobsStep org [] org'
  | write {org' : MemoryOrganization} {write : VlobWrite} {realm realm' : MemoryRealm} :
      WriteRecorded org org' write realm realm' → VlobsStep org [write] org'

theorem WritesKept.step {org org' : MemoryOrganization} {succeeded written : List VlobWrite}
    (writes : WritesKept org succeeded) (step : VlobsStep org written org') :
    WritesKept org' (succeeded ++ written) := by
  cases step with
  | same same =>
    rw [List.append_nil]
    exact writes.same same
  | write recorded => exact writes.write recorded

theorem StoreEffect.vlobs {org org' : MemoryOrganization} {call : Waiting} {waiting : List Waiting}
    (effect : StoreEffect org call org') (valid : call.Valid org) (places : PlacesKept org waiting)
    (create : ∀ write realm, call = .createVlob write →
      org.realms.get? write.realmId = some realm → realm.vlobs.get? write.vlobId = none)
    (update : ∀ write place, call = .updateVlob write place →
      IsAt org write.realmId write.vlobId place) :
    VlobsStep org call.written org' ∧ PlacesKept org' waiting := by
  cases effect with
  | @createVlob write realm isRealm =>
    have absent := create write realm rfl isRealm
    obtain ⟨_, recorded⟩ := recorded_create places isRealm absent valid.1
    exact ⟨.write recorded, places.create isRealm absent⟩
  | @updateVlob write place realm isRealm version =>
    obtain ⟨found, isFound, isPlace⟩ := update write place rfl
    rw [isRealm] at isFound
    cases isFound
    obtain ⟨_, recorded⟩ := recorded_update places isRealm isPlace version
    exact ⟨.write recorded, places.update isRealm⟩
  | @rotateKey rotation realm isRealm later =>
    have same : SameVlobs org (org.withRotation realm rotation) := .of_set isRealm rfl rfl rfl rfl
    exact ⟨.same same, places.same same⟩

theorem VlobsKept.vlobs {s s' : State} {event : Event} (kept : VlobsKept s)
    (admitted : NoOverwrite s event) (step : Step s event s') :
    ∃ written, s'.succeeded = s.succeeded ++ written ∧ VlobsStep s.org written s'.org ∧
      PlacesKept s'.org s'.waiting := by
  obtain ⟨isValid, -, places⟩ := kept
  cases step with
  | operation free ok =>
    obtain ⟨topic, -, effect⟩ := Operation.effect ok
    exact ⟨[], (List.append_nil _).symm, .same effect.sameVlobs, places.same effect.sameVlobs⟩
  | waits checked free webhooks =>
    refine ⟨[], (List.append_nil _).symm, .same (.of_realms rfl rfl), places.waits ?_⟩
    intro write place member
    rcases List.mem_append.mp member with isOld | isNew
    · exact Or.inl isOld
    · rw [← List.mem_singleton.mp isNew] at checked
      exact Or.inr checked.isAt
  | atOnce checked free noWebhook ok =>
    exact ⟨_, rfl, (Waiting.store_effect ok).vlobs checked.valid places
      (by rintro write realm rfl isRealm; exact checked.absent isRealm)
      (by rintro write place rfl; exact checked.isAt)⟩
  | @accepted org org' before after succeeded call ok =>
    obtain ⟨vlobs, places'⟩ := (Waiting.store_effect ok).vlobs
      (isValid.valid call (by simp)) places
      (by rintro write realm rfl isRealm; exact admitted realm isRealm)
      (by rintro write place rfl; exact places.waiting write place (by simp))
    refine ⟨_, rfl, vlobs, places'.waits ?_⟩
    intro write place member
    exact Or.inl (((List.sublist_cons_self call after).append_left before).subset member)
  | @rejected org before after succeeded call =>
    refine ⟨[], (List.append_nil _).symm, .same (.of_realms rfl rfl), places.waits ?_⟩
    intro write place member
    exact Or.inl (((List.sublist_cons_self call after).append_left before).subset member)

theorem VlobsKept.step {s s' : State} {event : Event} (kept : VlobsKept s)
    (admitted : NoOverwrite s event) (step : Step s event s') : VlobsKept s' := by
  obtain ⟨written, succeeded, vlobs, places⟩ := kept.vlobs admitted step
  refine ⟨kept.valid.step step, ?_, places⟩
  rw [succeeded]
  exact kept.writes.step vlobs

/-- No vlob has been written yet. -/
structure NoVlob (s : State) : Prop where
  noList : s.org.atomLists = []
  realms : ∀ realmId realm, s.org.realms.get? realmId = some realm →
    realm.vlobs = .empty ∧ realm.vlobUpdates = []
  noCall : s.waiting = []
  noWrite : s.succeeded = []

theorem NoVlob.kept {s : State} (noVlob : NoVlob s) : VlobsKept s := by
  have nowhere : ∀ {realmId vlobId place}, ¬ IsAt s.org realmId vlobId place := by
    rintro realmId vlobId place ⟨realm, isRealm, found⟩
    rw [(noVlob.realms realmId realm isRealm).1] at found
    cases found
  refine ⟨?_, ?_, ?_⟩
  · constructor
    · simp [noVlob.noCall]
    · simp [noVlob.noCall]
  · constructor
    · intro realmId realm isRealm
      obtain ⟨noVlobs, noUpdate⟩ := noVlob.realms realmId realm isRealm
      exact RealmVlobs.empty noVlobs noUpdate (by simp [noVlob.noWrite])
    · simp [noVlob.noWrite]
  · constructor
    · intro realmId vlobId place isAt
      exact absurd isAt nowhere
    · intro realmId vlobId realmId' vlobId' place isAt
      exact absurd isAt nowhere
    · simp [noVlob.noCall]

/-- When no creation is accepted over another one, no write is lost or duplicated. -/
theorem writes_kept (start : State) (noVlob : NoVlob start) (s : State)
    (run : Run Step NoOverwrite start s) : WritesKept s.org s.succeeded := by
  have kept : VlobsKept s := by
    apply run.keeps noVlob.kept
    intro s event s' kept admitted step
    exact kept.step admitted step
  exact kept.writes

/-- The organization has an authority and a service with a webhook. -/
def webhookOrganization : MemoryOrganization :=
  { teamOrganization with
    sequesterAuthority := some (⟨1, ⟨31⟩⟩, [])
    sequesterServices := some (Dict.empty.set ⟨7⟩ ⟨⟨1, ⟨7⟩⟩, [], .webhook, none⟩)
    realms := Dict.empty.set ⟨5⟩ keyedRealm
    perTopicLastTimestamp := Function.update teamOrganization.perTopicLastTimestamp (.realm ⟨5⟩)
      (some 3) }

theorem noVlob_webhookOrganization : NoVlob ⟨webhookOrganization, [], []⟩ := by
  refine ⟨rfl, ?_, rfl, rfl⟩
  intro realmId realm isRealm
  change (Dict.empty.set _ _).get? realmId = some realm at isRealm
  rcases Dict.found_set rfl isRealm with ⟨-, rfl⟩ | ⟨-, isRealm⟩
  · exact ⟨rfl, rfl⟩
  · cases isRealm

def firstCreation : VlobWrite := ⟨⟨11⟩, ⟨5⟩, ⟨8⟩, 1, 1, 4, [1]⟩

def secondCreation : VlobWrite := ⟨⟨11⟩, ⟨5⟩, ⟨8⟩, 1, 1, 4, [2]⟩

theorem creation_kept :
    ∃ s, Run Step NoOverwrite ⟨webhookOrganization, [], []⟩ s ∧ s.succeeded = [firstCreation] ∧
      WritesKept s.org s.succeeded := by
  have run : Run Step NoOverwrite ⟨webhookOrganization, [], []⟩ ⟨_, [], [firstCreation]⟩ :=
    .step (.step .start (t := .request (.createVlob 4 firstCreation) (.createVlob firstCreation))
      trivial (.waits (.createVlob rfl rfl) (by simp [CanLock]) rfl))
      (t := .accepted (.createVlob firstCreation))
      (by rintro realm isRealm; cases isRealm; rfl)
      (@Step.accepted _ _ [] [] _ _ rfl)
  exact ⟨_, run, rfl, writes_kept _ noVlob_webhookOrganization _ run⟩

/-- Two creations of a vlob that wait for the webhook together both succeed. -/
theorem both_creations_succeed :
    ¬ ∀ start, NoVlob start → ∀ s, Run Step (fun _ _ => True) start s →
      WritesKept s.org s.succeeded := by
  intro always
  have run : Run Step (fun _ _ => True) ⟨webhookOrganization, [], []⟩
      ⟨_, [], [firstCreation, secondCreation]⟩ :=
    .step (.step (.step (.step .start
      (t := .request (.createVlob 4 firstCreation) (.createVlob firstCreation)) trivial
      (.waits (.createVlob rfl rfl) (by simp [CanLock]) rfl))
      (t := .request (.createVlob 4 secondCreation) (.createVlob secondCreation)) trivial
      (.waits (.createVlob rfl rfl) (by simp [CanLock, Waiting.isRotation]) rfl))
      (t := .accepted (.createVlob firstCreation)) trivial
      (@Step.accepted _ _ [] [.createVlob secondCreation] _ _ rfl))
      (t := .accepted (.createVlob secondCreation)) trivial
      (@Step.accepted _ _ [] [] _ _ rfl)
  have kept := (always _ noVlob_webhookOrganization _ run).realms ⟨5⟩ _ rfl
  obtain ⟨vlobId, isAtom⟩ := (kept.stored firstCreation.atom).mp (by decide)
  obtain ⟨i, found⟩ := List.mem_iff_getElem?.mp isAtom
  obtain ⟨-, rfl⟩ := kept.versions vlobId i _ found
  exact absurd isAtom (by decide)

end ParsecCloud.Server
