import ParsecCloud.PlatformStorage.RemoteVersions
import ParsecCloud.Server.VlobHistory
import ParsecCloud.Server.VlobTables

/- The changes of a realm since a checkpoint, as the in-memory server (memory/vlob.py) and the
   PostgreSQL one (vlob_poll_changes.py) give them to the clients that follow the realm. -/
namespace ParsecCloud.Server
open Certif Runs MemoryOrganization ChangeFeed DatedLog

/-- poll_changes -/
def MemoryOrganization.pollChanges (org : MemoryOrganization) (author : DeviceID) (realmId : VlobID)
    (checkpoint : Nat) : Except BadOutcome (Nat × List (VlobID × Nat)) := do
  let (authorDevice, _) ← org.checkAuthor author
  let realm ← org.findRealm realmId
  refuse (realm.getCurrentRoleFor authorDevice.cooked.userId).isNone .authorNotAllowed
  return PlatformStorage.pollChanges realm.vlobUpdates checkpoint

structure PolledRow where
  index : Nat
  vlobId : VlobID
  version : Nat

namespace VlobTables
variable (tables : VlobTables)

/-- The join of an update with its atom, kept after the checkpoint. -/
def polledRow (realm : InternalID) (checkpoint : Nat) (update : RealmVlobUpdateRow) :
    Option PolledRow :=
  match tables.vlobAtom.find? fun atom => atom.id = update.vlobAtom with
  | none => none
  | some atom =>
    if atom.realm = realm ∧ update.index > checkpoint then
      some ⟨update.index, atom.vlobId, atom.version⟩
    else none

/-- _q_poll_changes -/
def qPollChanges (realm : InternalID) (checkpoint : Nat) : List PolledRow :=
  sortBy PolledRow.index (tables.realmVlobUpdate.filterMap (tables.polledRow realm checkpoint))

/-- The end of vlob_poll_changes, once its checks are good. -/
def vlobPollChanges (realm : InternalID) (checkpoint : Nat) : Nat × List (VlobID × Nat) :=
  let rows := tables.qPollChanges realm checkpoint
  (rows.foldl (fun _ row => row.index) checkpoint,
    (rows.foldl (fun items row => items.set row.vlobId row.version) Dict.empty).items)

end VlobTables

section Memory
variable {updates : List MemoryRealmVlobUpdate} {checkpoint : Nat}

def changeOf (update : MemoryRealmVlobUpdate) : VlobID × Nat :=
  (update.vlobAtom.vlobId, update.vlobAtom.version)

theorem pollItems_items : (PlatformStorage.pollItems updates).items =
    (collect (updates.map changeOf)).items.map fun change => (change.1, change) := by
  induction updates using List.reverseRecOn with
  | nil => rfl
  | append_singleton rest update ih =>
    have keys : (PlatformStorage.pollItems rest).keys = (collect (rest.map changeOf)).keys := by
      rw [Dict.keys, ih, List.map_map]
      rfl
    rw [PlatformStorage.pollItems_append_last, List.map_append, List.map_singleton,
      collect_concat]
    unfold Dict.set
    by_cases present : update.vlobAtom.vlobId ∈ (PlatformStorage.pollItems rest).keys
    · rw [dif_pos present, dif_pos (by rw [← keys]; exact present)]
      dsimp only
      rw [ih, List.map_map, List.map_map]
      apply List.map_congr_left
      intro change _
      simp only [Function.comp, Dict.replace, changeOf]
      by_cases same : change.1 = update.vlobAtom.vlobId
      · simp only [same, if_true]
      · simp only [same, if_false]
    · rw [dif_neg present, dif_neg (by rw [← keys]; exact present)]
      dsimp only
      rw [ih, List.map_append]
      rfl

theorem pollChanges_eq : PlatformStorage.pollChanges updates checkpoint =
    (updates.length, (collect ((updates.map changeOf).drop checkpoint)).items) := by
  rw [PlatformStorage.pollChanges, Dict.values, pollItems_items, List.map_map, List.map_drop]
  simp [Function.comp_def]

theorem pollChanges_ok {org : MemoryOrganization} {author : DeviceID} {realmId : VlobID}
    {answer : Nat × List (VlobID × Nat)}
    (polled : org.pollChanges author realmId checkpoint = .ok answer) :
    ∃ realm, org.realms.get? realmId = some realm ∧
      answer = PlatformStorage.pollChanges realm.vlobUpdates checkpoint := by
  obtain ⟨⟨device, user⟩, -, rest⟩ := Rust.bind_eq_ok.mp polled
  obtain ⟨realm, found, rest⟩ := Rust.bind_eq_ok.mp rest
  obtain ⟨_, -, rest⟩ := Rust.bind_eq_ok.mp rest
  exact ⟨realm, findRealm_ok found, (Except.ok.inj rest).symm⟩

end Memory

section Tables
variable {tables : VlobTables} {realm : InternalID} {checkpoint : Nat}

/-- The entries numbered after the checkpoint are those that come after as many entries. -/
theorem filter_index {α : Type} {entries : List α} {index : α → Nat} {first : Nat}
    (numbered : entries.map index = List.range' first entries.length) :
    entries.filter (fun entry => first + checkpoint ≤ index entry) = entries.drop checkpoint := by
  induction entries generalizing first checkpoint with
  | nil => rw [List.drop_nil, List.filter_nil]
  | cons entry rest ih =>
    rw [List.map_cons, List.length_cons, List.range'_succ, List.cons.injEq] at numbered
    obtain ⟨isFirst, isRest⟩ := numbered
    cases checkpoint with
    | zero =>
      rw [List.drop_zero, List.filter_eq_self]
      intro other member
      have isIndex : index other ∈ List.range' first (rest.length + 1) := by
        rw [List.range'_succ, ← isRest, ← isFirst]
        exact List.mem_map_of_mem (f := index) member
      have bounds := List.mem_range'_1.mp isIndex
      exact decide_eq_true bounds.1
    | succ checkpoint =>
      have before : ¬ first + (checkpoint + 1) ≤ index entry := by omega
      rw [List.filter_cons_of_neg (by simpa using before), List.drop_succ_cons, ← ih isRest]
      apply List.filter_congr
      intro other _
      congr 1
      rw [Nat.add_assoc, Nat.add_comm 1]

/-- Each update with its atom. -/
def joined (tables : VlobTables) (realm : InternalID) : List (RealmVlobUpdateRow × AtomRow) :=
  (tables.updatesOfRealm realm).zip (tables.atomsOfRealm realm)

theorem linked_length (numbered : TablesNumbered tables) :
    (tables.updatesOfRealm realm).length = (tables.atomsOfRealm realm).length := by
  have length := congrArg List.length (numbered.linked realm)
  rwa [List.length_map, List.length_map] at length

theorem joined_fst (numbered : TablesNumbered tables) :
    (joined tables realm).map Prod.fst = tables.updatesOfRealm realm :=
  List.map_fst_zip (Nat.le_of_eq (linked_length numbered))

theorem joined_snd (numbered : TablesNumbered tables) :
    (joined tables realm).map Prod.snd = tables.atomsOfRealm realm :=
  List.map_snd_zip (Nat.le_of_eq (linked_length numbered).symm)

theorem joined_linked (numbered : TablesNumbered tables)
    {row : RealmVlobUpdateRow × AtomRow} (member : row ∈ joined tables realm) :
    row.2 ∈ tables.vlobAtom ∧ row.2.realm = realm ∧ row.1.vlobAtom = row.2.id := by
  obtain ⟨i, found⟩ := List.mem_iff_getElem?.mp member
  obtain ⟨isUpdate, isAtom⟩ := List.getElem?_zip_eq_some.mp found
  have linked := congrArg (·[i]?) (numbered.linked realm)
  simp only [List.getElem?_map, isUpdate, isAtom, Option.map_some, Option.some.injEq] at linked
  obtain ⟨isRow, here⟩ := List.mem_filter.mp (List.mem_of_getElem? isAtom)
  exact ⟨isRow, of_decide_eq_true here, linked⟩

theorem find_atom (numbered : TablesNumbered tables) {atom : AtomRow}
    (member : atom ∈ tables.vlobAtom) :
    (tables.vlobAtom.find? fun other => other.id = atom.id) = some atom := by
  cases search : tables.vlobAtom.find? fun other => other.id = atom.id with
  | none =>
    rw [List.find?_eq_none] at search
    exact absurd (decide_eq_true rfl) (search atom member)
  | some other =>
    have same : other.id = atom.id := by simpa using List.find?_some search
    rw [List.inj_on_of_nodup_map numbered.ids (List.mem_of_find?_eq_some search) member same]

def rowOf (row : RealmVlobUpdateRow × AtomRow) : PolledRow :=
  ⟨row.1.index, row.2.vlobId, row.2.version⟩

theorem polledRow_joined (numbered : TablesNumbered tables)
    {row : RealmVlobUpdateRow × AtomRow} (member : row ∈ joined tables realm) :
    tables.polledRow realm checkpoint row.1 =
      if 1 + checkpoint ≤ row.1.index then some (rowOf row) else none := by
  obtain ⟨isAtom, here, linked⟩ := joined_linked numbered member
  rw [VlobTables.polledRow, linked, find_atom numbered isAtom]
  by_cases after : row.1.index > checkpoint
  · rw [if_pos (by omega)]
    exact if_pos ⟨here, after⟩
  · rw [if_neg (by omega)]
    exact if_neg fun both => after both.2

theorem polledRow_other (numbered : TablesNumbered tables) {update : RealmVlobUpdateRow}
    (member : update ∈ tables.realmVlobUpdate) (other : update.realm ≠ realm) :
    tables.polledRow realm checkpoint update = none := by
  have isUpdate : update ∈ tables.updatesOfRealm update.realm :=
    List.mem_filter.mpr ⟨member, decide_eq_true rfl⟩
  rw [← joined_fst numbered] at isUpdate
  obtain ⟨row, isRow, rfl⟩ := List.mem_map.mp isUpdate
  obtain ⟨isAtom, here, linked⟩ := joined_linked numbered isRow
  rw [VlobTables.polledRow, linked, find_atom numbered isAtom]
  apply if_neg
  intro both
  exact other (here.symm.trans both.1)

theorem joined_index (numbered : TablesNumbered tables) :
    (joined tables realm).map (fun row => row.1.index) =
      List.range' 1 (joined tables realm).length := by
  have indexes := numbered.indexes realm
  rw [Consecutive, List.length_map, ← joined_fst numbered, List.map_map, List.length_map] at indexes
  exact indexes

theorem qPollChanges_eq (numbered : TablesNumbered tables) :
    tables.qPollChanges realm checkpoint = ((joined tables realm).drop checkpoint).map rowOf := by
  have isIndex : (joined tables realm).map (fun row => row.1.index) =
      List.range' 1 (joined tables realm).length := joined_index numbered
  have rows : tables.realmVlobUpdate.filterMap (tables.polledRow realm checkpoint) =
      ((joined tables realm).drop checkpoint).map rowOf := by
    have here : tables.realmVlobUpdate.filterMap (tables.polledRow realm checkpoint) =
        (tables.updatesOfRealm realm).filterMap (tables.polledRow realm checkpoint) := by
      rw [VlobTables.updatesOfRealm, List.filterMap_filter]
      apply List.filterMap_congr
      intro update member
      by_cases same : update.realm = realm
      · rw [decide_eq_true same, if_pos rfl]
      · rw [decide_eq_false same, polledRow_other numbered member same, if_neg Bool.false_ne_true]
    rw [here, ← joined_fst numbered, List.filterMap_map, ← filter_index isIndex,
      List.filterMap_congr (g := fun row =>
        if 1 + checkpoint ≤ row.1.index then some (rowOf row) else none),
      ← List.filterMap_eq_map, List.filterMap_filter]
    · apply List.filterMap_congr
      intro row _
      simp
    · intro row member
      exact polledRow_joined numbered member
  have ordered : (((joined tables realm).drop checkpoint).map rowOf).Pairwise
      fun a b => a.index < b.index := by
    rw [List.pairwise_map]
    apply List.Pairwise.drop
    have increasing : ((joined tables realm).map fun row => row.1.index).Pairwise (· < ·) := by
      rw [isIndex]
      exact List.pairwise_lt_range' 1
    exact List.pairwise_map.mp increasing
  rw [VlobTables.qPollChanges, rows]
  exact sortBy_eq (List.Perm.refl _) ordered

theorem foldl_last {α β : Type} (f : α → β) (start : β) (entries : List α) :
    entries.foldl (fun _ entry => f entry) start = (entries.getLast?.map f).getD start := by
  induction entries using List.reverseRecOn with
  | nil => rfl
  | append_singleton rest entry _ =>
    rw [List.foldl_append, List.getLast?_concat]
    rfl

/-- The answer for the changes after the checkpoint, which a checkpoint beyond them all keeps. -/
theorem vlobPollChanges_eq (numbered : TablesNumbered tables) :
    tables.vlobPollChanges realm checkpoint = (max checkpoint (tables.log realm).length,
      (collect ((tables.log realm).drop checkpoint)).items) := by
  have isLog : tables.log realm =
      (joined tables realm).map fun row => (row.2.vlobId, row.2.version) := by
    rw [VlobTables.log, ← joined_snd numbered, List.map_map]
    rfl
  have lastIndex : (((joined tables realm).drop checkpoint).map rowOf).getLast?.map (·.index) =
      (List.range' (1 + checkpoint) ((joined tables realm).length - checkpoint)).getLast? := by
    have joinedIndex : (joined tables realm).map (fun row => row.1.index) =
        List.range' 1 (joined tables realm).length := joined_index numbered
    have indexes := congrArg (List.drop checkpoint) joinedIndex
    rw [← List.map_drop, List.drop_range', Nat.mul_one] at indexes
    rw [← indexes, ← List.getLast?_map, List.map_map]
    rfl
  simp only [VlobTables.vlobPollChanges, qPollChanges_eq numbered]
  rw [foldl_last, lastIndex, List.getLast?_range', isLog, List.length_map]
  congr 1
  · by_cases beyond : (joined tables realm).length - checkpoint = 0
    · rw [if_pos beyond, Option.getD_none]
      omega
    · rw [if_neg beyond, Option.getD_some]
      omega
  · rw [collect, ← List.map_drop, List.foldl_map, List.foldl_map]
    rfl

end Tables

/-- A realm on both servers, and a client of each of them. -/
structure PolledRealm where
  memory : State
  database : VlobDatabase
  client : Follower VlobID
  databaseClient : Follower VlobID

inductive PolledEvent where
  | memory (event : Event)
  | database (event : DatabaseEvent)
  | both (event : Event) (databaseEvent : DatabaseEvent)
  | poll (author : DeviceID)
  | databasePoll

/-- Both servers have got the same updates of the realm. -/
def SameHistory (realmId : VlobID) (internalId : InternalID) (memory : State)
    (database : VlobDatabase) : Prop :=
  memory.log realmId = database.tables.log internalId

/-- The servers go on with the same history, and the clients poll them at any time. -/
inductive PolledStep (realmId : VlobID) (internalId : InternalID) :
    PolledRealm → PolledEvent → PolledRealm → Prop where
  | memory {s : PolledRealm} {event : Event} {memory' : State} : Step s.memory event memory' →
      SameHistory realmId internalId memory' s.database →
      PolledStep realmId internalId s (.memory event) { s with memory := memory' }
  | database {s : PolledRealm} {event : DatabaseEvent} {database' : VlobDatabase} :
      DatabaseStep s.database event database' → SameHistory realmId internalId s.memory database' →
      PolledStep realmId internalId s (.database event) { s with database := database' }
  | both {s : PolledRealm} {event : Event} {databaseEvent : DatabaseEvent} {memory' : State}
      {database' : VlobDatabase} :
      Step s.memory event memory' → DatabaseStep s.database databaseEvent database' →
      SameHistory realmId internalId memory' database' →
      PolledStep realmId internalId s (.both event databaseEvent)
        { s with memory := memory', database := database' }
  | poll {s : PolledRealm} {author : DeviceID} {answer : Nat × List (VlobID × Nat)} :
      s.memory.org.pollChanges author realmId s.client.checkpoint = .ok answer →
      PolledStep realmId internalId s (.poll author) { s with client := s.client.receive answer }
  | databasePoll {s : PolledRealm} :
      PolledStep realmId internalId s .databasePoll { s with
        databaseClient := s.databaseClient.receive
          (s.database.tables.vlobPollChanges internalId s.databaseClient.checkpoint) }

/-- No creation is accepted over another one. -/
def PollsNoOverwrite (s : PolledRealm) : PolledEvent → Prop
  | .memory event => NoOverwrite s.memory event
  | .both event _ => NoOverwrite s.memory event
  | _ => True

/-- Nothing has been written nor polled yet. -/
structure FreshRealm (s : PolledRealm) : Prop where
  memory : NoVlob s.memory
  database : s.database = .empty
  client : s.client = .fresh
  databaseClient : s.databaseClient = .fresh

/-- One more answer brings the client up to date. -/
structure Converges (realm : MemoryRealm) (org : MemoryOrganization) (client : Follower VlobID)
    (answer : Nat × List (VlobID × Nat)) : Prop where
  forward : client.checkpoint ≤ (client.receive answer).checkpoint
  known : ∀ vlobId, (client.receive answer).known vlobId =
    ((org.atomsOf realm vlobId).getLast?.map (·.version)).getD 0

/-- What an answer of the in-memory server for a checkpoint should be. -/
structure PollsRight (realmId : VlobID) (internalId : InternalID) (s : PolledRealm)
    (checkpoint : Nat) (answer : Nat × List (VlobID × Nat)) : Prop where
  exact : ExactChanges (s.memory.log realmId) checkpoint answer.2
  exactDatabase : ExactChanges (s.database.tables.log internalId) checkpoint
    (s.database.tables.vlobPollChanges internalId checkpoint).2
  same : s.database.tables.vlobPollChanges internalId checkpoint = answer
  client : ∀ author realm next, s.memory.org.realms.get? realmId = some realm →
    s.memory.org.pollChanges author realmId s.client.checkpoint = .ok next →
    Converges realm s.memory.org s.client next
  databaseClient : ∀ realm, s.memory.org.realms.get? realmId = some realm →
    Converges realm s.memory.org s.databaseClient
      (s.database.tables.vlobPollChanges internalId s.databaseClient.checkpoint)

structure PollInvariant (realmId : VlobID) (internalId : InternalID) (s : PolledRealm) : Prop where
  memory : VlobsOrdered s.memory
  database : DatabaseNumbered s.database
  same : SameHistory realmId internalId s.memory s.database
  client : s.client.UpToDate (s.memory.log realmId)
  databaseClient : s.databaseClient.UpToDate (s.memory.log realmId)

section Polls
variable {realmId : VlobID} {internalId : InternalID} {s s' : PolledRealm} {event : PolledEvent}
  {author : DeviceID} {checkpoint : Nat} {answer : Nat × List (VlobID × Nat)}

theorem VlobsOrdered.pollChanges {memory : State} (ordered : VlobsOrdered memory)
    (polled : memory.org.pollChanges author realmId checkpoint = .ok answer) :
    answer = ((memory.log realmId).length,
      (collect ((memory.log realmId).drop checkpoint)).items) := by
  obtain ⟨realm, isRealm, rfl⟩ := pollChanges_ok polled
  have isLog : memory.log realmId = realm.vlobUpdates.map changeOf := by
    rw [ordered.log isRealm, MemoryRealm.updatedAtoms, List.map_map]
    rfl
  rw [pollChanges_eq, isLog, List.length_map]

/-- A client that is up to date polls below the end, where both servers answer alike. -/
theorem PollInvariant.databaseAnswer (inv : PollInvariant realmId internalId s)
    (inside : checkpoint ≤ (s.memory.log realmId).length) :
    s.database.tables.vlobPollChanges internalId checkpoint =
      ((s.memory.log realmId).length,
        (collect ((s.memory.log realmId).drop checkpoint)).items) := by
  rw [vlobPollChanges_eq inv.database.tables, ← inv.same, Nat.max_eq_right inside]

theorem PollInvariant.step (inv : PollInvariant realmId internalId s)
    (admitted : PollsNoOverwrite s event) (step : PolledStep realmId internalId s event s') :
    PollInvariant realmId internalId s' := by
  obtain ⟨memory, database, same, client, databaseClient⟩ := inv
  cases step with
  | memory taken history =>
    obtain ⟨ordered, written, succeeded⟩ := memory.step admitted taken
    obtain ⟨more, isLog⟩ := State.log_append realmId succeeded
    exact ⟨ordered, database, history, isLog ▸ client.append, isLog ▸ databaseClient.append⟩
  | database taken history =>
    exact ⟨memory, (database.step taken).1, history, client, databaseClient⟩
  | both taken databaseTaken history =>
    obtain ⟨ordered, written, succeeded⟩ := memory.step admitted taken
    obtain ⟨more, isLog⟩ := State.log_append realmId succeeded
    exact ⟨ordered, (database.step databaseTaken).1, history, isLog ▸ client.append,
      isLog ▸ databaseClient.append⟩
  | poll polled =>
    refine ⟨memory, database, same, ?_, databaseClient⟩
    rw [memory.pollChanges polled]
    exact client.receive memory.wellNumbered exactChanges_collect rfl
  | databasePoll =>
    have answer := PollInvariant.databaseAnswer ⟨memory, database, same, client, databaseClient⟩
      databaseClient.inside
    refine ⟨memory, database, same, client, ?_⟩
    dsimp only
    rw [answer]
    exact databaseClient.receive memory.wellNumbered exactChanges_collect rfl

theorem FreshRealm.inv (fresh : FreshRealm s) : PollInvariant realmId internalId s := by
  refine ⟨fresh.memory.ordered, ?_, ?_, ?_, ?_⟩
  · rw [fresh.database]
    exact .empty
  · rw [SameHistory, State.log, fresh.memory.noWrite, fresh.database]
    rfl
  · rw [fresh.client]
    exact Follower.upToDate_fresh
  · rw [fresh.databaseClient]
    exact Follower.upToDate_fresh

theorem VlobsOrdered.converges {memory : State} {realm : MemoryRealm} {client : Follower VlobID}
    (ordered : VlobsOrdered memory) (isRealm : memory.org.realms.get? realmId = some realm)
    (upToDate : client.UpToDate (memory.log realmId)) :
    Converges realm memory.org client ((memory.log realmId).length,
      (collect ((memory.log realmId).drop client.checkpoint)).items) := by
  refine ⟨upToDate.inside, ?_⟩
  intro vlobId
  rw [upToDate.receive_known ordered.wellNumbered exactChanges_collect, ordered.latest isRealm]

end Polls

/-- In every run, the answer is right when the checkpoint is that of one of the updates, or zero:
    the servers differ only beyond the last update, where the in-memory one goes back to it. -/
theorem polls_right_iff {realmId : VlobID} {internalId : InternalID} {start s : PolledRealm}
    {author : DeviceID} {checkpoint : Nat} {answer : Nat × List (VlobID × Nat)}
    (fresh : FreshRealm start) (run : Run (PolledStep realmId internalId) PollsNoOverwrite start s)
    (polled : s.memory.org.pollChanges author realmId checkpoint = .ok answer) :
    PollsRight realmId internalId s checkpoint answer ↔
      checkpoint ≤ (s.memory.log realmId).length := by
  have inv : PollInvariant realmId internalId s := by
    apply run.keeps fresh.inv
    intro s event s' inv admitted step
    exact inv.step admitted step
  have isAnswer := inv.memory.pollChanges polled
  constructor
  · intro right
    have same := right.same
    rw [isAnswer, vlobPollChanges_eq inv.database.tables, ← inv.same,
      Prod.mk.injEq] at same
    have isEnd := same.1
    omega
  · intro inside
    constructor
    · rw [isAnswer]
      exact exactChanges_collect
    · rw [vlobPollChanges_eq inv.database.tables]
      exact exactChanges_collect
    · rw [isAnswer]
      exact inv.databaseAnswer inside
    · intro author realm next isRealm polledNext
      rw [inv.memory.pollChanges polledNext]
      exact inv.memory.converges isRealm inv.client
    · intro realm isRealm
      rw [inv.databaseAnswer inv.databaseClient.inside]
      exact inv.memory.converges isRealm inv.databaseClient

def freshRealm : PolledRealm :=
  ⟨⟨webhookOrganization, [], []⟩, .empty, .fresh, .fresh⟩

theorem freshRealm_fresh : FreshRealm freshRealm :=
  ⟨noVlob_webhookOrganization, rfl, rfl, rfl⟩

/-- The row of the first creation. -/
def firstRow : NewVlobAtom := ⟨1, 1, ⟨8⟩, 1, [1], 1, 4⟩

def createdRealm : PolledRealm :=
  ⟨⟨webhookOrganization.withNewVlob keyedRealm firstCreation, [], [firstCreation]⟩,
    ⟨⟨2, [firstRow.row 1], [⟨1, 1, 1⟩]⟩, []⟩, .fresh, .fresh⟩

theorem createdRealm_reached : Run (PolledStep ⟨5⟩ 1) PollsNoOverwrite freshRealm createdRealm := by
  have waits : Run (PolledStep ⟨5⟩ 1) PollsNoOverwrite freshRealm _ :=
    .step .start (t := .memory (.request (.createVlob 4 firstCreation) (.createVlob firstCreation)))
      trivial (.memory (.waits (.createVlob rfl rfl) (by simp [CanLock]) rfl) rfl)
  have checked : Run (PolledStep ⟨5⟩ 1) PollsNoOverwrite freshRealm _ :=
    waits.step (t := .database (.checks firstRow)) trivial (.database (.checks (.create rfl)) rfl)
  have begun : Run (PolledStep ⟨5⟩ 1) PollsNoOverwrite freshRealm _ :=
    checked.step (t := .database (.begins firstRow)) trivial
      (.database (@DatabaseStep.begins _ [] [] firstRow) rfl)
  exact begun.step (t := .both (.accepted (.createVlob firstCreation)) (.ends firstRow 1))
    (by rintro realm isRealm; cases isRealm; rfl)
    (.both (@Step.accepted _ _ [] [] _ _ rfl) (@DatabaseStep.ends _ [] [] firstRow 1) rfl)

theorem created_poll :
    createdRealm.memory.org.pollChanges ⟨11⟩ ⟨5⟩ 0 = .ok (1, [(⟨8⟩, 1)]) := by
  rfl

theorem created_polls_right : PollsRight ⟨5⟩ 1 createdRealm 0 (1, [(⟨8⟩, 1)]) :=
  (polls_right_iff freshRealm_fresh createdRealm_reached created_poll).mpr (Nat.zero_le _)

/-- A checkpoint beyond the only update goes back to it on one server and stays on the other. -/
theorem polls_differ_beyond_the_end :
    Run (PolledStep ⟨5⟩ 1) PollsNoOverwrite freshRealm createdRealm ∧
      createdRealm.memory.org.pollChanges ⟨11⟩ ⟨5⟩ 2 = .ok (1, []) ∧
      createdRealm.database.tables.vlobPollChanges 1 2 = (2, []) ∧
      ¬ PollsRight ⟨5⟩ 1 createdRealm 2 (1, []) := by
  have rows : createdRealm.database.tables.qPollChanges 1 2 = [] := by
    change sortBy PolledRow.index [] = []
    simp [sortBy]
  have answer : createdRealm.database.tables.vlobPollChanges 1 2 = (2, []) := by
    rw [VlobTables.vlobPollChanges, rows]
    rfl
  refine ⟨createdRealm_reached, rfl, answer, ?_⟩
  intro right
  have same := right.same
  rw [answer] at same
  cases same

end ParsecCloud.Server
