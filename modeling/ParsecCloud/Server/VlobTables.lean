import ParsecCloud.Lib.ChangeFeed
import ParsecCloud.Lib.DatedLog
import ParsecCloud.Lib.Runs
import ParsecCloud.Server.Datamodel

/- The vlobs in the tables of the PostgreSQL server (vlob_create.py, vlob_update.py). A write checks
   the version of its vlob in the committed rows; its insertion then takes a number after those
   committed when it begins, and gives up on a conflict with those committed when it ends. -/
namespace ParsecCloud.Server
open ChangeFeed DatedLog Runs

/-- The value of a SERIAL column. -/
abbrev InternalID := Nat

structure AtomRow where
  id : InternalID
  realm : InternalID
  keyIndex : Nat
  vlobId : VlobID
  version : Nat
  blob : List Byte
  author : InternalID
  createdOn : DateTime

structure RealmVlobUpdateRow where
  realm : InternalID
  index : Nat
  vlobAtom : InternalID

/-- The columns of an insertion. -/
structure NewVlobAtom where
  realm : InternalID
  keyIndex : Nat
  vlobId : VlobID
  version : Nat
  blob : List Byte
  author : InternalID
  createdOn : DateTime

def NewVlobAtom.row (new : NewVlobAtom) (id : InternalID) : AtomRow :=
  ⟨id, new.realm, new.keyIndex, new.vlobId, new.version, new.blob, new.author, new.createdOn⟩

structure VlobTables where
  nextId : InternalID
  vlobAtom : List AtomRow
  realmVlobUpdate : List RealmVlobUpdateRow

namespace VlobTables
variable (tables : VlobTables)

def atomsOfRealm (realm : InternalID) : List AtomRow :=
  tables.vlobAtom.filter fun atom => atom.realm = realm

def atomsOfVlob (realm : InternalID) (vlobId : VlobID) : List AtomRow :=
  (tables.atomsOfRealm realm).filter fun atom => atom.vlobId = vlobId

def updatesOfRealm (realm : InternalID) : List RealmVlobUpdateRow :=
  tables.realmVlobUpdate.filter fun update => update.realm = realm

/-- my_last_vlob_atom -/
def vlobCurrentVersion (realm : InternalID) (vlobId : VlobID) : Option Nat :=
  (sortBy AtomRow.version (tables.atomsOfVlob realm vlobId)).getLast?.map (·.version)

/-- COALESCE(MAX(realm_vlob_update.index), 0) + 1 -/
def newIndex (realm : InternalID) : Nat :=
  (((tables.updatesOfRealm realm).map (·.index)).max?.getD 0) + 1

/-- The end of _q_insert_vlob, none of the rows being inserted on a conflict. -/
def insertVlob (new : NewVlobAtom) (index : Nat) : VlobTables :=
  if (tables.atomsOfVlob new.realm new.vlobId).any fun atom => atom.version = new.version then tables
  else if (tables.updatesOfRealm new.realm).any fun update => update.index = index then tables
  else ⟨tables.nextId + 1, tables.vlobAtom ++ [new.row tables.nextId],
    tables.realmVlobUpdate ++ [⟨new.realm, index, tables.nextId⟩]⟩

end VlobTables

/-- A write whose checks are done, and the index that its insertion takes once it has begun. -/
structure VlobTransaction where
  new : NewVlobAtom
  index : Option Nat

structure VlobDatabase where
  tables : VlobTables
  transactions : List VlobTransaction

/-- The checks before a write, but those about its author, its key and its timestamp. -/
inductive VersionChecked (tables : VlobTables) (new : NewVlobAtom) : Prop where
  | create : new.version = 1 → VersionChecked tables new
  | update {version : Nat} : tables.vlobCurrentVersion new.realm new.vlobId = some version →
      new.version = version + 1 → VersionChecked tables new

inductive DatabaseEvent where
  | checks (new : NewVlobAtom)
  | begins (new : NewVlobAtom)
  | ends (new : NewVlobAtom) (index : Nat)

/-- A transaction that finds a conflict is given up, or starts again. -/
inductive DatabaseStep : VlobDatabase → DatabaseEvent → VlobDatabase → Prop where
  | checks {tables : VlobTables} {transactions : List VlobTransaction} {new : NewVlobAtom} :
      VersionChecked tables new →
      DatabaseStep ⟨tables, transactions⟩ (.checks new) ⟨tables, transactions ++ [⟨new, none⟩]⟩
  | begins {tables : VlobTables} {before after : List VlobTransaction} {new : NewVlobAtom} :
      DatabaseStep ⟨tables, before ++ ⟨new, none⟩ :: after⟩ (.begins new)
        ⟨tables, before ++ ⟨new, some (tables.newIndex new.realm)⟩ :: after⟩
  | ends {tables : VlobTables} {before after : List VlobTransaction} {new : NewVlobAtom}
      {index : Nat} :
      DatabaseStep ⟨tables, before ++ ⟨new, some index⟩ :: after⟩ (.ends new index)
        ⟨tables.insertVlob new index, before ++ after⟩

def VlobDatabase.empty : VlobDatabase := ⟨⟨1, [], []⟩, []⟩

/-- The updates of the realm, in the order of the commits. -/
def VlobTables.log (tables : VlobTables) (realm : InternalID) : List (VlobID × Nat) :=
  (tables.atomsOfRealm realm).map fun atom => (atom.vlobId, atom.version)

structure TablesNumbered (tables : VlobTables) : Prop where
  ids : (tables.vlobAtom.map (·.id)).Nodup
  fresh : ∀ atom ∈ tables.vlobAtom, atom.id < tables.nextId
  linked : ∀ realm, (tables.updatesOfRealm realm).map (·.vlobAtom) =
    (tables.atomsOfRealm realm).map (·.id)
  indexes : ∀ realm, Consecutive ((tables.updatesOfRealm realm).map (·.index))
  versions : ∀ realm, WellNumbered (tables.log realm)

structure TransactionsFollow (database : VlobDatabase) : Prop where
  version : ∀ transaction ∈ database.transactions, ChangeFeed.Follows
    (versions (database.tables.log transaction.new.realm) transaction.new.vlobId)
    transaction.new.version
  index : ∀ transaction ∈ database.transactions, ∀ index, transaction.index = some index →
    ChangeFeed.Follows ((database.tables.updatesOfRealm transaction.new.realm).map (·.index)) index

structure DatabaseNumbered (database : VlobDatabase) : Prop where
  tables : TablesNumbered database.tables
  transactions : TransactionsFollow database

section Rows
variable {tables : VlobTables} {realm : InternalID} {vlobId : VlobID}

theorem versions_log : versions (tables.log realm) vlobId =
    (tables.atomsOfVlob realm vlobId).map (·.version) := by
  rw [versions, VlobTables.log, List.filter_map, List.map_map]
  rfl

theorem newIndex_follows :
    ChangeFeed.Follows ((tables.updatesOfRealm realm).map (·.index)) (tables.newIndex realm) := by
  unfold VlobTables.newIndex
  cases isMax : ((tables.updatesOfRealm realm).map (·.index)).max? with
  | none => exact .inl rfl
  | some n => exact .inr ⟨n, List.max?_mem isMax, rfl⟩

theorem VersionChecked.follows {new : NewVlobAtom} (checked : VersionChecked tables new) :
    ChangeFeed.Follows (versions (tables.log new.realm) new.vlobId) new.version := by
  cases checked with
  | create isFirst => exact .inl isFirst
  | @update version current isNext =>
    right
    obtain ⟨atom, isLast, isVersion⟩ := Option.map_eq_some_iff.mp current
    refine ⟨version, ?_, isNext⟩
    rw [versions_log, ← isVersion]
    exact List.mem_map_of_mem (mem_sortBy.mp (List.mem_of_getLast? isLast))

end Rows

section Insertion
variable {tables : VlobTables} {new : NewVlobAtom} {index : Nat}

theorem insertVlob_cases (tables : VlobTables) (new : NewVlobAtom) (index : Nat) :
    tables.insertVlob new index = tables ∨
      (new.version ∉ versions (tables.log new.realm) new.vlobId ∧
        index ∉ (tables.updatesOfRealm new.realm).map (·.index) ∧
        tables.insertVlob new index =
          ⟨tables.nextId + 1, tables.vlobAtom ++ [new.row tables.nextId],
            tables.realmVlobUpdate ++ [⟨new.realm, index, tables.nextId⟩]⟩) := by
  unfold VlobTables.insertVlob
  by_cases atomTaken : (tables.atomsOfVlob new.realm new.vlobId).any
      (fun atom => atom.version = new.version) = true
  · exact .inl (if_pos atomTaken)
  · rw [if_neg atomTaken]
    by_cases indexTaken : (tables.updatesOfRealm new.realm).any
        (fun update => update.index = index) = true
    · exact .inl (if_pos indexTaken)
    · refine .inr ⟨?_, ?_, if_neg indexTaken⟩
      · rw [versions_log]
        intro member
        obtain ⟨atom, isAtom, isVersion⟩ := List.mem_map.mp member
        exact atomTaken (List.any_eq_true.mpr ⟨atom, isAtom, decide_eq_true isVersion⟩)
      · intro member
        obtain ⟨update, isUpdate, isIndex⟩ := List.mem_map.mp member
        exact indexTaken (List.any_eq_true.mpr ⟨update, isUpdate, decide_eq_true isIndex⟩)

/-- The rows stay, and new ones come after them. -/
structure VlobTables.Grows (tables tables' : VlobTables) : Prop where
  log : ∀ realm, ∃ more, tables'.log realm = tables.log realm ++ more
  updates : ∀ realm, ∃ more,
    tables'.updatesOfRealm realm = tables.updatesOfRealm realm ++ more

theorem VlobTables.Grows.refl (tables : VlobTables) : tables.Grows tables :=
  ⟨fun _ => ⟨[], (List.append_nil _).symm⟩, fun _ => ⟨[], (List.append_nil _).symm⟩⟩

section Inserted
variable (tables : VlobTables) (new : NewVlobAtom) (index : Nat)

def VlobTables.inserted : VlobTables :=
  ⟨tables.nextId + 1, tables.vlobAtom ++ [new.row tables.nextId],
    tables.realmVlobUpdate ++ [⟨new.realm, index, tables.nextId⟩]⟩

theorem atomsOfRealm_inserted (realm : InternalID) :
    (tables.inserted new index).atomsOfRealm realm = tables.atomsOfRealm realm ++
      if new.realm = realm then [new.row tables.nextId] else [] := by
  unfold VlobTables.atomsOfRealm VlobTables.inserted
  rw [List.filter_append, List.filter_singleton]
  by_cases same : new.realm = realm
  · simp [same, NewVlobAtom.row]
  · simp [same, NewVlobAtom.row]

theorem updatesOfRealm_inserted (realm : InternalID) :
    (tables.inserted new index).updatesOfRealm realm = tables.updatesOfRealm realm ++
      if new.realm = realm then [⟨new.realm, index, tables.nextId⟩] else [] := by
  unfold VlobTables.updatesOfRealm VlobTables.inserted
  rw [List.filter_append, List.filter_singleton]
  by_cases same : new.realm = realm
  · simp [same]
  · simp [same]

theorem log_inserted (realm : InternalID) :
    (tables.inserted new index).log realm = tables.log realm ++
      if new.realm = realm then [(new.vlobId, new.version)] else [] := by
  rw [VlobTables.log, atomsOfRealm_inserted, List.map_append]
  by_cases same : new.realm = realm
  · rw [if_pos same, if_pos same]
    rfl
  · rw [if_neg same, if_neg same]
    rfl

theorem grows_inserted : tables.Grows (tables.inserted new index) :=
  ⟨fun realm => ⟨_, log_inserted tables new index realm⟩,
    fun realm => ⟨_, updatesOfRealm_inserted tables new index realm⟩⟩

end Inserted

theorem insertVlob_grows : tables.Grows (tables.insertVlob new index) := by
  rcases insertVlob_cases tables new index with same | ⟨-, -, inserted⟩
  · rw [same]
    exact .refl tables
  · rw [inserted]
    exact grows_inserted tables new index

theorem TablesNumbered.insert (numbered : TablesNumbered tables)
    (version : ChangeFeed.Follows (ChangeFeed.versions (tables.log new.realm) new.vlobId)
      new.version)
    (isIndex : ChangeFeed.Follows ((tables.updatesOfRealm new.realm).map (·.index)) index) :
    TablesNumbered (tables.insertVlob new index) := by
  rcases insertVlob_cases tables new index with same | ⟨freeVersion, freeIndex, inserted⟩
  · rw [same]
    exact numbered
  · have isNext := (numbered.versions new.realm new.vlobId).next version freeVersion
    have isNextIndex := (numbered.indexes new.realm).next isIndex freeIndex
    rw [inserted]
    change TablesNumbered (tables.inserted new index)
    constructor
    · change ((tables.vlobAtom ++ [new.row tables.nextId]).map (·.id)).Nodup
      rw [List.map_append, List.nodup_append]
      refine ⟨numbered.ids, List.nodup_singleton _, ?_⟩
      intro old isOld fresh isFresh same
      obtain ⟨atom, isAtom, rfl⟩ := List.mem_map.mp isOld
      have below := numbered.fresh atom isAtom
      rw [List.mem_singleton.mp isFresh] at same
      exact absurd same (Nat.ne_of_lt below)
    · intro atom member
      rcases List.mem_append.mp member with isOld | isNew
      · exact Nat.lt_succ_of_lt (numbered.fresh atom isOld)
      · rw [List.mem_singleton.mp isNew]
        exact Nat.lt_succ_self _
    · intro realm
      rw [atomsOfRealm_inserted, updatesOfRealm_inserted, List.map_append, List.map_append,
        numbered.linked]
      by_cases same : new.realm = realm
      · rw [if_pos same, if_pos same]
        rfl
      · rw [if_neg same, if_neg same]
        rfl
    · intro realm
      rw [updatesOfRealm_inserted, List.map_append]
      by_cases same : new.realm = realm
      · subst same
        rw [if_pos rfl, List.map_singleton, isNextIndex]
        exact (numbered.indexes new.realm).concat
      · rw [if_neg same, List.map_nil, List.append_nil]
        exact numbered.indexes realm
    · intro realm
      rw [log_inserted]
      by_cases same : new.realm = realm
      · subst same
        rw [if_pos rfl]
        exact (numbered.versions new.realm).concat isNext
      · rw [if_neg same, List.append_nil]
        exact numbered.versions realm

end Insertion

section Steps
variable {database database' : VlobDatabase} {event : DatabaseEvent}

theorem follows_version_grows {tables tables' : VlobTables} {realm : InternalID} {vlobId : VlobID}
    {n : Nat}
    (grows : tables.Grows tables')
    (follows : ChangeFeed.Follows (versions (tables.log realm) vlobId) n) :
    ChangeFeed.Follows (versions (tables'.log realm) vlobId) n := by
  obtain ⟨more, isLog⟩ := grows.log realm
  rw [isLog, versions_append]
  exact follows.append

theorem follows_index_grows {tables tables' : VlobTables} {realm : InternalID} {n : Nat}
    (grows : tables.Grows tables')
    (follows : ChangeFeed.Follows ((tables.updatesOfRealm realm).map (·.index)) n) :
    ChangeFeed.Follows ((tables'.updatesOfRealm realm).map (·.index)) n := by
  obtain ⟨more, isLog⟩ := grows.updates realm
  rw [isLog, List.map_append]
  exact follows.append

theorem DatabaseNumbered.step (numbered : DatabaseNumbered database)
    (step : DatabaseStep database event database') :
    DatabaseNumbered database' ∧ database.tables.Grows database'.tables := by
  obtain ⟨isNumbered, follow⟩ := numbered
  cases step with
  | @checks tables transactions new checked =>
    refine ⟨⟨isNumbered, ?_⟩, .refl tables⟩
    constructor
    · intro transaction member
      rcases List.mem_append.mp member with isOld | isNew
      · exact follow.version transaction isOld
      · rw [List.mem_singleton.mp isNew]
        exact checked.follows
    · intro transaction member
      rcases List.mem_append.mp member with isOld | isNew
      · exact follow.index transaction isOld
      · rw [List.mem_singleton.mp isNew]
        intro index noIndex
        cases noIndex
  | @begins tables before after new =>
    refine ⟨⟨isNumbered, ?_⟩, .refl tables⟩
    have others : ∀ transaction ∈ before ++ ⟨new, some (tables.newIndex new.realm)⟩ :: after,
        transaction ∈ before ++ ⟨new, none⟩ :: after ∨
          transaction = ⟨new, some (tables.newIndex new.realm)⟩ := by
      intro transaction member
      rw [List.mem_append, List.mem_cons] at member ⊢
      rcases member with isBefore | isNew | isAfter
      · exact .inl (.inl isBefore)
      · exact .inr isNew
      · exact .inl (.inr (.inr isAfter))
    constructor
    · intro transaction member
      rcases others transaction member with isOld | isNew
      · exact follow.version transaction isOld
      · rw [isNew]
        exact follow.version ⟨new, none⟩ (by simp)
    · intro transaction member index isIndex
      rcases others transaction member with isOld | isNew
      · exact follow.index transaction isOld index isIndex
      · rw [isNew] at isIndex ⊢
        cases isIndex
        exact newIndex_follows
  | @ends tables before after new index =>
    have grows : tables.Grows (tables.insertVlob new index) := insertVlob_grows
    have version := follow.version ⟨new, some index⟩ (by simp)
    have isIndex := follow.index ⟨new, some index⟩ (by simp) index rfl
    refine ⟨⟨isNumbered.insert version isIndex, ?_⟩, grows⟩
    have others : ∀ transaction ∈ before ++ after,
        transaction ∈ before ++ ⟨new, some index⟩ :: after := by
      intro transaction member
      exact ((List.sublist_cons_self _ after).append_left before).subset member
    constructor
    · intro transaction member
      exact follows_version_grows grows (follow.version transaction (others transaction member))
    · intro transaction member index isIndex
      exact follows_index_grows grows
        (follow.index transaction (others transaction member) index isIndex)

theorem DatabaseNumbered.empty : DatabaseNumbered .empty := by
  refine ⟨⟨List.nodup_nil, ?_, fun _ => rfl, fun _ => rfl, fun _ => .nil⟩, ?_, ?_⟩
  · intro atom member
    cases member
  · intro transaction member
    cases member
  · intro transaction member
    cases member

end Steps

end ParsecCloud.Server
