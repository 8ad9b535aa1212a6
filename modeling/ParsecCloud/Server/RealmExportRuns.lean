import ParsecCloud.Server.RealmExport

/- Whole runs of the export of a realm, for any backend whose tables keep some laws. The rows of the
   snapshot have to come first in the tables, since they are told from the others by their ids alone. -/
namespace ParsecCloud.Server
open Certif Runs Sequence

section Table
variable {α κ : Type} {schema : ExportSchema α κ} {realmId : VlobID} {snapshot : DateTime}
  {rows among : List (Nat × α)}

/-- No row among these that is newer than the snapshot has an id below one of the realm that is
    not. -/
def CutAtSnapshot (schema : ExportSchema α κ) (realmId : VlobID) (snapshot : DateTime)
    (rows among : List (Nat × α)) : Prop :=
  ∀ row ∈ realmRows schema realmId rows, ∀ other ∈ among,
    schema.createdOn row.2 ≤ snapshot → snapshot < schema.createdOn other.2 → row.1 < other.1

/-- Two rows of the snapshot differ in the columns that the export wants unique. -/
def KeysApart (schema : ExportSchema α κ) (realmId : VlobID) (snapshot : DateTime)
    (rows : List (Nat × α)) : Prop :=
  ∀ row ∈ snapshotRows schema realmId snapshot rows,
    ∀ other ∈ snapshotRows schema realmId snapshot rows,
    schema.uniqueKey row.2 = schema.uniqueKey other.2 → row.1 = other.1

instance : Decidable (CutAtSnapshot schema realmId snapshot rows among) :=
  inferInstanceAs (Decidable (∀ row ∈ realmRows schema realmId rows, ∀ other ∈ among,
    schema.createdOn row.2 ≤ snapshot → snapshot < schema.createdOn other.2 → row.1 < other.1))

instance [DecidableEq κ] : Decidable (KeysApart schema realmId snapshot rows) :=
  inferInstanceAs (Decidable (∀ row ∈ snapshotRows schema realmId snapshot rows,
    ∀ other ∈ snapshotRows schema realmId snapshot rows,
      schema.uniqueKey row.2 = schema.uniqueKey other.2 → row.1 = other.1))

theorem realmRows_increasing (increasing : Increasing Prod.fst rows) :
    Increasing Prod.fst (realmRows schema realmId rows) :=
  increasing.sublist List.filter_sublist

theorem snapshotRows_increasing (increasing : Increasing Prod.fst rows) :
    Increasing Prod.fst (snapshotRows schema realmId snapshot rows) :=
  (realmRows_increasing increasing).sublist List.filter_sublist

theorem CutAtSnapshot.isFront (increasing : Increasing Prod.fst rows)
    (cut : CutAtSnapshot schema realmId snapshot rows (realmRows schema realmId rows)) :
    snapshotRows schema realmId snapshot rows <+: realmRows schema realmId rows := by
  apply filter_prefix_of_before (realmRows_increasing increasing).sorted
  intro row member other isOther isIn isOut
  exact cut row member other isOther (of_decide_eq_true isIn)
    (Int.not_le.mp (of_decide_eq_false isOut))

/-- What the server has of a table since the export has begun. -/
structure TableCut (schema : ExportSchema α κ) (realmId : VlobID) (snapshot : DateTime)
    (rows : List (Nat × α)) : Prop where
  front : snapshotRows schema realmId snapshot rows <+: realmRows schema realmId rows
  keys : KeysApart schema realmId snapshot rows

/-- The table with other rows has the same snapshot, that still comes first if it did. -/
structure SameSnapshot (schema : ExportSchema α κ) (realmId : VlobID) (snapshot : DateTime)
    (rows rows' : List (Nat × α)) : Prop where
  same : snapshotRows schema realmId snapshot rows' = snapshotRows schema realmId snapshot rows
  front : snapshotRows schema realmId snapshot rows <+: realmRows schema realmId rows →
    snapshotRows schema realmId snapshot rows' <+: realmRows schema realmId rows'

theorem SameSnapshot.of_eq {rows' : List (Nat × α)} (same : rows' = rows) :
    SameSnapshot schema realmId snapshot rows rows' := by
  subst same
  exact ⟨rfl, id⟩

/-- The snapshot does not change when a row of another realm or a newer one is added at the end. -/
theorem SameSnapshot.append {row : Nat × α}
    (newer : schema.realmId row.2 = realmId → snapshot < schema.createdOn row.2) :
    SameSnapshot schema realmId snapshot rows (rows ++ [row]) := by
  have same : snapshotRows schema realmId snapshot (rows ++ [row]) =
      snapshotRows schema realmId snapshot rows := by
    unfold snapshotRows realmRows
    rw [List.filter_append, List.filter_append]
    by_cases isRealm : schema.realmId row.2 = realmId
    · have isNewer : ¬ schema.createdOn row.2 ≤ snapshot := Int.not_le.mpr (newer isRealm)
      simp [isRealm, inSnapshot, isNewer]
    · simp [isRealm]
  refine ⟨same, fun front => ?_⟩
  rw [same]
  apply front.trans
  unfold realmRows
  rw [List.filter_append]
  exact List.prefix_append _ _

theorem TableCut.keep {rows' : List (Nat × α)} (cut : TableCut schema realmId snapshot rows)
    (kept : SameSnapshot schema realmId snapshot rows rows') :
    TableCut schema realmId snapshot rows' := by
  refine ⟨kept.front cut.front, ?_⟩
  unfold KeysApart
  rw [kept.same]
  exact cut.keys

theorem cutBatch_ok {exported : List (Nat × α)} {batchSize : Nat}
    (increasing : Increasing Prod.fst rows)
    (front : snapshotRows schema realmId snapshot rows <+: realmRows schema realmId rows)
    (part : exported <+: snapshotRows schema realmId snapshot rows) (positive : 1 ≤ batchSize)
    (goesOn : maxNumber Prod.fst exported <
      maxNumber Prod.fst (snapshotRows schema realmId snapshot rows)) :
    ∃ items, cutBatch ((rowsAbove schema realmId (maxNumber Prod.fst exported) rows).take batchSize)
        (maxNumber Prod.fst (snapshotRows schema realmId snapshot rows)) = .ok items ∧
      items ≠ [] ∧ exported ++ items <+: snapshotRows schema realmId snapshot rows := by
  obtain ⟨left, isLeft⟩ := part
  obtain ⟨newer, isNewer⟩ := front
  have increasing : Increasing Prod.fst (realmRows schema realmId rows) :=
    realmRows_increasing increasing
  have someLeft : left ≠ [] := by
    intro none
    rw [none, List.append_nil] at isLeft
    rw [isLeft] at goesOn
    omega
  have above : rowsAbove schema realmId (maxNumber Prod.fst exported) rows = left ++ newer := by
    unfold rowsAbove
    rw [← isNewer, ← isLeft, List.append_assoc] at increasing ⊢
    exact filter_above increasing
  have cutRows : ((left ++ newer).take batchSize).filter (fun item => item.1 ≤
      maxNumber Prod.fst (snapshotRows schema realmId snapshot rows)) = left.take batchSize := by
    rw [List.take_append, List.filter_append]
    have allLeft : (left.take batchSize).filter (fun item => item.1 ≤
        maxNumber Prod.fst (snapshotRows schema realmId snapshot rows)) = left.take batchSize := by
      rw [List.filter_eq_self]
      intro item member
      have isRow : item ∈ snapshotRows schema realmId snapshot rows := by
        rw [← isLeft]
        exact List.mem_append_right _ (List.mem_of_mem_take member)
      simpa using number_le_maxNumber isRow
    have noNewer : (newer.take (batchSize - left.length)).filter (fun item => item.1 ≤
        maxNumber Prod.fst (snapshotRows schema realmId snapshot rows)) = [] := by
      rw [List.filter_eq_nil_iff]
      intro item member
      rw [← isNewer] at increasing
      simpa using maxNumber_lt_of_back increasing (List.mem_of_mem_take member)
    rw [allLeft, noNewer, List.append_nil]
  have someItem : left.take batchSize ≠ [] := by
    intro none
    rcases List.take_eq_nil_iff.mp none with isZero | isNil
    · omega
    · exact someLeft isNil
  refine ⟨left.take batchSize, ?_, someItem, ?_⟩
  · unfold cutBatch
    rw [above]
    split
    · rename_i noLast
      rw [List.getLast?_eq_none_iff] at noLast
      rw [noLast] at cutRows
      exact absurd cutRows.symm someItem
    · rename_i last isLast
      split
      · rw [cutRows]
      · rename_i upTo
        have sorted : Increasing Prod.fst ((left ++ newer).take batchSize) := by
          rw [← isNewer, ← isLeft, List.append_assoc] at increasing
          exact increasing.sublist
            ((List.take_sublist _ _).trans (List.sublist_append_right _ _))
        rw [← cutRows, List.filter_eq_self.mpr]
        intro item member
        have upToLast := number_le_last sorted isLast member
        exact decide_eq_true (by omega)
  · rw [← isLeft, List.prefix_append_right_inj]
    exact List.take_prefix _ _

theorem batchOffsetMarker_eq {exported items : List (Nat × α)}
    (increasing : Increasing Prod.fst (exported ++ items)) (someItem : items ≠ []) :
    batchOffsetMarker items = maxNumber Prod.fst (exported ++ items) := by
  cases isLast : items.getLast? with
  | none => exact absurd (List.getLast?_eq_none_iff.mp isLast) someItem
  | some last =>
    obtain ⟨front, rfl⟩ := List.getLast?_eq_some_iff.mp isLast
    rw [batchOffsetMarker, isLast]
    rw [← List.append_assoc] at increasing ⊢
    exact (maxNumber_append_last increasing).symm

theorem eq_of_reached {wanted exported : List (Nat × α)} (increasing : Increasing Prod.fst wanted)
    (part : exported <+: wanted)
    (reached : maxNumber Prod.fst wanted ≤ maxNumber Prod.fst exported) : exported = wanted := by
  obtain ⟨left, rfl⟩ := part
  cases left with
  | nil => exact (List.append_nil exported).symm
  | cons row rest =>
    have isBack : row ∈ row :: rest := List.mem_cons_self
    have upTo : row.1 ≤ maxNumber Prod.fst (exported ++ row :: rest) :=
      number_le_maxNumber (List.mem_append_right _ isBack)
    have above := maxNumber_lt_of_back increasing isBack
    omega

section Loop
variable [DecidableEq κ]

theorem insertRows_ok (keys : KeysApart schema realmId snapshot rows)
    (increasing : Increasing Prod.fst (snapshotRows schema realmId snapshot rows)) :
    ∀ {items exported : List (Nat × α)},
      exported ++ items <+: snapshotRows schema realmId snapshot rows →
        insertRows schema exported items = .ok (exported ++ items) := by
  intro items
  induction items with
  | nil =>
    intro exported _
    rw [insertRows, List.append_nil]
  | cons item rest ih =>
    intro exported part
    have isRow : ∀ row ∈ exported ++ item :: rest,
        row ∈ snapshotRows schema realmId snapshot rows := fun row member => part.subset member
    have sorted := (increasing.sublist part.sublist).sorted
    have isNew : (exported.any fun row => row.1 = item.1 ||
        schema.uniqueKey row.2 = schema.uniqueKey item.2) = false := by
      rw [List.any_eq_false]
      intro row member isSame
      have isBefore := (List.pairwise_append.mp sorted).2.2 row member item List.mem_cons_self
      rw [Bool.or_eq_true, decide_eq_true_eq, decide_eq_true_eq] at isSame
      rcases isSame with sameId | sameKey
      · omega
      · have sameId := keys row (isRow row (List.mem_append_left _ member)) item
          (isRow item (List.mem_append_right _ List.mem_cons_self)) sameKey
        omega
    rw [insertRows, isNew, if_neg (by simp), ih (by simpa using part)]
    simp

/-- What the export has of a table, from which certain rows are wanted. -/
structure TableExported (schema : ExportSchema α κ) (wanted : List (Nat × α))
    (table : ExportedTable α) (totalBytes : Nat) : Prop where
  total : totalBytes = totalSize schema wanted
  part : table.rows <+: wanted
  whole : table.exportDone = true → table.rows = wanted

/-- Where the loop over a table is. -/
def LoopAt (wanted : List (Nat × α)) (table : ExportedTable α) : ExportLoop α → Prop
  | .head marker => marker = maxNumber Prod.fst table.rows
  | .writing items => items ≠ [] ∧ table.rows ++ items <+: wanted

def OutcomeAt (wanted : List (Nat × α)) (table : ExportedTable α) : LoopOutcome α → Prop
  | .goesOn loop => LoopAt wanted table loop
  | .done => True
  | .failed _ => False

theorem loopStep_keeps {fetch : Nat → List (Nat × α)} {batchSize upperBound totalBytes : Nat}
    {table : ExportedTable α} {loop : ExportLoop α} (increasing : Increasing Prod.fst rows)
    (cut : TableCut schema realmId snapshot rows)
    (fetches : ∀ marker, fetch marker = (rowsAbove schema realmId marker rows).take batchSize)
    (positive : 1 ≤ batchSize)
    (isBound : upperBound = maxNumber Prod.fst (snapshotRows schema realmId snapshot rows))
    (exported : TableExported schema (snapshotRows schema realmId snapshot rows) table totalBytes)
    (isAt : LoopAt (snapshotRows schema realmId snapshot rows) table loop) :
    TableExported schema (snapshotRows schema realmId snapshot rows)
        (loopStep schema fetch upperBound table loop).1 totalBytes ∧
      OutcomeAt (snapshotRows schema realmId snapshot rows)
        (loopStep schema fetch upperBound table loop).1
        (loopStep schema fetch upperBound table loop).2 := by
  subst isBound
  have wanted : Increasing Prod.fst (snapshotRows schema realmId snapshot rows) :=
    snapshotRows_increasing increasing
  cases loop with
  | head marker =>
    cases isAt
    rw [loopStep]
    split
    · rename_i goesOn
      obtain ⟨items, isFetched, someItem, part⟩ :=
        cutBatch_ok increasing cut.front exported.part positive goesOn
      rw [fetches, isFetched]
      exact ⟨exported, someItem, part⟩
    · rename_i reached
      exact ⟨⟨exported.total, exported.part,
        fun _ => eq_of_reached wanted exported.part (Nat.not_lt.mp reached)⟩, trivial⟩
  | writing items =>
    obtain ⟨someItem, part⟩ := isAt
    rw [loopStep, insertRows_ok cut.keys wanted part]
    refine ⟨⟨exported.total, part, fun done => ?_⟩,
      batchOffsetMarker_eq (wanted.sublist part.sublist) someItem⟩
    have length := part.length_le
    rw [exported.whole done, List.length_append] at length
    have positive := List.length_pos_of_ne_nil someItem
    omega

end Loop

end Table

/-- What the export relies on in a table of a backend, cut as it should be. -/
structure TableReads {σ α κ : Type} (schema : ExportSchema α κ) (parameters : ExportParameters)
    (sound cut : σ → Prop) (table : σ → List (Nat × α)) (info : σ → TableBaseInfo)
    (batch : Nat → Nat → σ → List (Nat × α)) : Prop where
  increasing : ∀ tables, sound tables → Increasing Prod.fst (table tables)
  isCut : ∀ tables, sound tables → cut tables →
    TableCut schema parameters.realmId parameters.snapshot (table tables)
  isInfo : ∀ tables, sound tables → cut tables →
    info tables = snapshotInfo schema parameters.realmId parameters.snapshot (table tables)
  isBatch : ∀ tables marker size, 1 ≤ size →
    batch marker size tables = (rowsAbove schema parameters.realmId marker (table tables)).take size

/-- What the export relies on in a backend: on some condition the tables are cut when it begins, and
    new rows leave the snapshot. The atoms of some realms have to be newer for that. -/
structure BackendLaws {σ : Type} (backend : ExportBackend σ) (parameters : ExportParameters)
    (sound cut : σ → Prop) (concerns : VlobID → Prop) : Prop where
  empty : sound backend.empty
  vlobs : TableReads vlobAtomSchema parameters sound cut backend.vlobAtomTable
    (fun tables => (backend.exportDoBaseInfo parameters.realmId parameters.snapshot tables).vlobs)
    (backend.exportDoVlobsBatch parameters.realmId)
  blocks : TableReads blockSchema parameters sound cut backend.blockTable
    (fun tables => (backend.exportDoBaseInfo parameters.realmId parameters.snapshot tables).blocks)
    (backend.exportDoBlocksMetadataBatch parameters.realmId)
  createsRealm : ∀ realmId before after, backend.createsRealm realmId before after →
    sound before → sound after ∧ backend.vlobAtomTable after = backend.vlobAtomTable before ∧
      backend.blockTable after = backend.blockTable before
  insertsVlob : ∀ atom before after, backend.insertsVlob atom before after → sound before →
    sound after ∧ backend.blockTable after = backend.blockTable before ∧
      ((concerns atom.realmId → parameters.snapshot < atom.createdOn) →
        SameSnapshot vlobAtomSchema parameters.realmId parameters.snapshot
          (backend.vlobAtomTable before) (backend.vlobAtomTable after))
  insertsBlock : ∀ block before after, backend.insertsBlock block before after → sound before →
    sound after ∧ backend.vlobAtomTable after = backend.vlobAtomTable before ∧
      ((block.realmId = parameters.realmId → parameters.snapshot < block.createdOn) →
        SameSnapshot blockSchema parameters.realmId parameters.snapshot
          (backend.blockTable before) (backend.blockTable after))

section Runs
variable {σ : Type} {backend : ExportBackend σ} {parameters : ExportParameters}
  {sound cut : σ → Prop} {concerns : VlobID → Prop} {s s' : ExportServer σ}

/-- A row that is added once the export has begun was asked for since then, or is newer than the
    snapshot anyway. -/
def OnTime (parameters : ExportParameters) (s : ExportServer σ) (requestedAt createdOn : DateTime) :
    Prop :=
  ∀ begunAt, s.begunAt = some begunAt → begunAt ≤ requestedAt ∨ parameters.snapshot < createdOn

/-- The tables are cut when the export begins, and the rows that matter come on time. -/
def Exportable (parameters : ExportParameters) (cut : σ → Prop) (concerns : VlobID → Prop)
    (s : ExportServer σ) : ExportStep → Prop
  | .begins => cut s.tables
  | .insertVlob requestedAt atom =>
    concerns atom.realmId → OnTime parameters s requestedAt atom.createdOn
  | .insertBlock requestedAt block =>
    block.realmId = parameters.realmId → OnTime parameters s requestedAt block.createdOn
  | _ => True

def wantedVlobs (backend : ExportBackend σ) (parameters : ExportParameters) (tables : σ) :
    List (Nat × MemoryVlobAtom) :=
  snapshotRows vlobAtomSchema parameters.realmId parameters.snapshot (backend.vlobAtomTable tables)

def wantedBlocks (backend : ExportBackend σ) (parameters : ExportParameters) (tables : σ) :
    List (Nat × MemoryBlock) :=
  snapshotRows blockSchema parameters.realmId parameters.snapshot (backend.blockTable tables)

def currentInfo (backend : ExportBackend σ) (parameters : ExportParameters) (tables : σ) :
    BaseInfo :=
  ⟨⟨maxNumber Prod.fst (wantedVlobs backend parameters tables),
      totalSize vlobAtomSchema (wantedVlobs backend parameters tables)⟩,
    ⟨maxNumber Prod.fst (wantedBlocks backend parameters tables),
      totalSize blockSchema (wantedBlocks backend parameters tables)⟩⟩

def PhaseAt (backend : ExportBackend σ) (parameters : ExportParameters) (s : ExportServer σ) :
    Prop :=
  match s.phase with
  | .idle => True
  | .connecting info => info = currentInfo backend parameters s.tables
  | .vlobs info loop => info = currentInfo backend parameters s.tables ∧
    ∃ db, s.db = some db ∧ LoopAt (wantedVlobs backend parameters s.tables) db.vlobs loop
  | .blocks info loop => info = currentInfo backend parameters s.tables ∧
    ∃ db, s.db = some db ∧ db.vlobs.exportDone = true ∧
      LoopAt (wantedBlocks backend parameters s.tables) db.blocks loop
  | .completed => ∃ db, s.db = some db ∧ db.vlobs.exportDone = true ∧ db.blocks.exportDone = true
  | .failed _ => False

/-- What the export database has, of both tables. -/
structure DbExported (backend : ExportBackend σ) (parameters : ExportParameters) (tables : σ)
    (db : OutputDb) : Prop where
  vlobs : TableExported vlobAtomSchema (wantedVlobs backend parameters tables) db.vlobs
    db.vlobsTotalBytes
  blocks : TableExported blockSchema (wantedBlocks backend parameters tables) db.blocks
    db.blocksTotalBytes

/-- What holds since the export has begun. -/
structure Exporting (backend : ExportBackend σ) (parameters : ExportParameters)
    (s : ExportServer σ) : Prop where
  vlobsCut : TableCut vlobAtomSchema parameters.realmId parameters.snapshot
    (backend.vlobAtomTable s.tables)
  blocksCut : TableCut blockSchema parameters.realmId parameters.snapshot
    (backend.blockTable s.tables)
  exported : ∀ db, s.db = some db → DbExported backend parameters s.tables db
  phase : PhaseAt backend parameters s

structure ExportInvariant (backend : ExportBackend σ) (parameters : ExportParameters)
    (sound : σ → Prop) (s : ExportServer σ) : Prop where
  isSound : sound s.tables
  clock : ∀ begunAt, s.begunAt = some begunAt → begunAt ≤ s.now ∧
    parameters.snapshot ≤ begunAt - ballparkClientLateOffset
  notBegun : s.begunAt = none → s.db = none ∧ s.phase = .idle
  exporting : ∀ begunAt, s.begunAt = some begunAt → Exporting backend parameters s

theorem newer_of_onTime {requestedAt createdOn begunAt : DateTime}
    (onTime : OnTime parameters s requestedAt createdOn) (isBegun : s.begunAt = some begunAt)
    (isOld : parameters.snapshot ≤ begunAt - ballparkClientLateOffset)
    (dated : requestedAt - ballparkClientLateOffset < createdOn) :
    parameters.snapshot < createdOn := by
  rcases onTime begunAt isBegun with since | newer
  · exact lt_of_le_of_lt (le_trans isOld (Int.sub_le_sub_right since _)) dated
  · exact newer

theorem resume_phaseAt {info : BaseInfo} (db : OutputDb)
    (isInfo : info = currentInfo backend parameters s.tables) :
    PhaseAt backend parameters
      { s with db := some db, phase := ExportServer.resume info db } := by
  unfold PhaseAt ExportServer.resume
  cases vlobsDone : db.vlobs.exportDone with
  | false => exact ⟨isInfo, db, rfl, rfl⟩
  | true =>
    cases blocksDone : db.blocks.exportDone with
    | false => exact ⟨isInfo, db, rfl, vlobsDone, rfl⟩
    | true => exact ⟨db, rfl, vlobsDone, blocksDone⟩

theorem vlobs_phaseAt {info : BaseInfo} {db : OutputDb} {table : ExportedTable MemoryVlobAtom}
    {outcome : LoopOutcome MemoryVlobAtom} (isInfo : info = currentInfo backend parameters s.tables)
    (isAt : OutcomeAt (wantedVlobs backend parameters s.tables) table outcome) :
    PhaseAt backend parameters { s with
      db := some { db with vlobs := table }
      phase := ExportServer.afterLoop (.vlobs info)
        (ExportServer.resume info { db with vlobs := table }) outcome } := by
  cases outcome with
  | goesOn loop => exact ⟨isInfo, _, rfl, isAt⟩
  | done => exact resume_phaseAt _ isInfo
  | failed error => exact isAt

theorem blocks_phaseAt {info : BaseInfo} {db : OutputDb} {table : ExportedTable MemoryBlock}
    {outcome : LoopOutcome MemoryBlock} (isInfo : info = currentInfo backend parameters s.tables)
    (vlobsDone : db.vlobs.exportDone = true)
    (isAt : OutcomeAt (wantedBlocks backend parameters s.tables) table outcome) :
    PhaseAt backend parameters { s with
      db := some { db with blocks := table }
      phase := ExportServer.afterLoop (.blocks info)
        (ExportServer.resume info { db with blocks := table }) outcome } := by
  cases outcome with
  | goesOn loop => exact ⟨isInfo, _, rfl, vlobsDone, isAt⟩
  | done => exact resume_phaseAt _ isInfo
  | failed error => exact isAt

section Invariant
variable (inv : ExportInvariant backend parameters sound s)
include inv

theorem ExportInvariant.begun {phase : ExportPhase} (isPhase : s.phase = phase)
    (isRunning : phase ≠ .idle) : Exporting backend parameters s := by
  cases isBegun : s.begunAt with
  | some begunAt => exact inv.exporting begunAt isBegun
  | none => exact absurd (isPhase.symm.trans (inv.notBegun isBegun).2) isRunning

theorem ExportInvariant.tick {now : DateTime} (later : s.now ≤ now) :
    ExportInvariant backend parameters sound { s with now := now } := by
  refine ⟨inv.isSound, ?_, inv.notBegun, ?_⟩
  · intro begunAt isBegun
    obtain ⟨isPast, isOld⟩ := inv.clock begunAt isBegun
    exact ⟨le_trans isPast later, isOld⟩
  · intro begunAt isBegun
    have exporting := inv.exporting begunAt isBegun
    exact ⟨exporting.vlobsCut, exporting.blocksCut, exporting.exported, exporting.phase⟩

theorem ExportInvariant.insert {tables : σ} (isSound : sound tables)
    (vlobs : ∀ begunAt, s.begunAt = some begunAt →
      SameSnapshot vlobAtomSchema parameters.realmId parameters.snapshot
        (backend.vlobAtomTable s.tables) (backend.vlobAtomTable tables))
    (blocks : ∀ begunAt, s.begunAt = some begunAt →
      SameSnapshot blockSchema parameters.realmId parameters.snapshot
        (backend.blockTable s.tables) (backend.blockTable tables)) :
    ExportInvariant backend parameters sound { s with tables := tables } := by
  refine ⟨isSound, inv.clock, inv.notBegun, ?_⟩
  intro begunAt isBegun
  have exporting := inv.exporting begunAt isBegun
  have vlobsKept := vlobs begunAt isBegun
  have blocksKept := blocks begunAt isBegun
  have sameVlobs : wantedVlobs backend parameters tables =
      wantedVlobs backend parameters s.tables := vlobsKept.same
  have sameBlocks : wantedBlocks backend parameters tables =
      wantedBlocks backend parameters s.tables := blocksKept.same
  refine ⟨exporting.vlobsCut.keep vlobsKept, exporting.blocksCut.keep blocksKept, ?_, ?_⟩
  · intro db isDb
    have exported := exporting.exported db isDb
    constructor
    · rw [sameVlobs]
      exact exported.vlobs
    · rw [sameBlocks]
      exact exported.blocks
  · have isAt := exporting.phase
    unfold PhaseAt currentInfo at isAt ⊢
    simp only [sameVlobs, sameBlocks]
    exact isAt

theorem ExportInvariant.exports {db : Option OutputDb} {before phase : ExportPhase}
    (isPhase : s.phase = before) (isRunning : before ≠ .idle)
    (exported : ∀ found, db = some found → DbExported backend parameters s.tables found)
    (isAt : PhaseAt backend parameters { s with db := db, phase := phase }) :
    ExportInvariant backend parameters sound { s with db := db, phase := phase } := by
  have exporting := inv.begun isPhase isRunning
  refine ⟨inv.isSound, inv.clock, ?_, ?_⟩
  · intro notBegun
    exact absurd (isPhase.symm.trans (inv.notBegun notBegun).2) isRunning
  · intro _ _
    exact ⟨exporting.vlobsCut, exporting.blocksCut, exported, isAt⟩

theorem ExportInvariant.interrupt :
    ExportInvariant backend parameters sound { s with phase := .idle } := by
  refine ⟨inv.isSound, inv.clock, ?_, ?_⟩
  · intro notBegun
    exact ⟨(inv.notBegun notBegun).1, rfl⟩
  · intro begunAt isBegun
    have exporting := inv.exporting begunAt isBegun
    exact ⟨exporting.vlobsCut, exporting.blocksCut, exporting.exported, trivial⟩

theorem ExportInvariant.connect {info : BaseInfo} (isPhase : s.phase = .connecting info) :
    ExportInvariant backend parameters sound { s with
      db := some (s.db.getD (ExportServer.newDb info))
      phase := ExportServer.connectOrCreate info (s.db.getD (ExportServer.newDb info)) } := by
  have exporting := inv.begun isPhase nofun
  have isInfo := exporting.phase
  unfold PhaseAt at isInfo
  rw [isPhase] at isInfo
  dsimp only at isInfo
  have exported : DbExported backend parameters s.tables
      (s.db.getD (ExportServer.newDb info)) := by
    cases isDb : s.db with
    | some db => exact exporting.exported db isDb
    | none =>
      rw [isInfo]
      constructor
      · exact ⟨rfl, List.nil_prefix, fun done => by cases done⟩
      · exact ⟨rfl, List.nil_prefix, fun done => by cases done⟩
  apply inv.exports isPhase nofun
  · intro found isFound
    cases isFound
    exact exported
  · have same : ExportServer.connectOrCreate info (s.db.getD (ExportServer.newDb info)) =
        ExportServer.resume info (s.db.getD (ExportServer.newDb info)) := by
      rw [ExportServer.connectOrCreate, exported.vlobs.total, exported.blocks.total, isInfo]
      simp [currentInfo]
    rw [same]
    exact resume_phaseAt _ isInfo

theorem ExportInvariant.begins (laws : BackendLaws backend parameters sound cut concerns)
    (allowed : parameters.snapshot ≤ s.now - ballparkClientLateOffset) (isCut : cut s.tables) :
    ExportInvariant backend parameters sound { s with
      begunAt := some s.now
      phase := .connecting
        (backend.exportDoBaseInfo parameters.realmId parameters.snapshot s.tables) } := by
  have isSound := inv.isSound
  constructor
  · exact isSound
  · intro begunAt isBegun
    cases isBegun
    exact ⟨le_refl _, allowed⟩
  · intro isBegun
    cases isBegun
  · intro begunAt _
    refine ⟨laws.vlobs.isCut _ isSound isCut, laws.blocks.isCut _ isSound isCut, ?_, ?_⟩
    · intro db isDb
      cases isBegun : s.begunAt with
      | some earlier => exact (inv.exporting earlier isBegun).exported db isDb
      | none =>
        rw [(inv.notBegun isBegun).1] at isDb
        cases isDb
    · have vlobs := laws.vlobs.isInfo _ isSound isCut
      have blocks := laws.blocks.isInfo _ isSound isCut
      exact congrArg₂ BaseInfo.mk vlobs blocks

theorem ExportInvariant.vlobsStep (laws : BackendLaws backend parameters sound cut concerns)
    {info : BaseInfo} {loop : ExportLoop MemoryVlobAtom} {db : OutputDb}
    (isPhase : s.phase = .vlobs info loop) (isDb : s.db = some db) :
    ExportInvariant backend parameters sound (s.vlobsStep backend parameters info loop db) := by
  have exporting := inv.begun isPhase nofun
  have isAt := exporting.phase
  unfold PhaseAt at isAt
  rw [isPhase, isDb] at isAt
  obtain ⟨isInfo, found, isFound, loopAt⟩ := isAt
  cases isFound
  have exported := exporting.exported db isDb
  obtain ⟨tableExported, outcomeAt⟩ := loopStep_keeps (laws.vlobs.increasing _ inv.isSound)
    exporting.vlobsCut (fun marker => laws.vlobs.isBatch s.tables marker _ parameters.vlobBatch)
    parameters.vlobBatch (congrArg (fun info => info.vlobs.offsetMarkerUpperBound) isInfo)
    exported.vlobs loopAt
  apply inv.exports isPhase nofun
  · intro found isFound
    cases isFound
    exact ⟨tableExported, exported.blocks⟩
  · exact vlobs_phaseAt isInfo outcomeAt

theorem ExportInvariant.blocksStep (laws : BackendLaws backend parameters sound cut concerns)
    {info : BaseInfo} {loop : ExportLoop MemoryBlock} {db : OutputDb}
    (isPhase : s.phase = .blocks info loop) (isDb : s.db = some db) :
    ExportInvariant backend parameters sound (s.blocksStep backend parameters info loop db) := by
  have exporting := inv.begun isPhase nofun
  have isAt := exporting.phase
  unfold PhaseAt at isAt
  rw [isPhase, isDb] at isAt
  obtain ⟨isInfo, found, isFound, vlobsDone, loopAt⟩ := isAt
  cases isFound
  have exported := exporting.exported db isDb
  obtain ⟨tableExported, outcomeAt⟩ := loopStep_keeps (laws.blocks.increasing _ inv.isSound)
    exporting.blocksCut (fun marker => laws.blocks.isBatch s.tables marker _ parameters.blockBatch)
    parameters.blockBatch (congrArg (fun info => info.blocks.offsetMarkerUpperBound) isInfo)
    exported.blocks loopAt
  apply inv.exports isPhase nofun
  · intro found isFound
    cases isFound
    exact ⟨exported.vlobs, tableExported⟩
  · exact blocks_phaseAt isInfo vlobsDone outcomeAt

theorem ExportInvariant.step (laws : BackendLaws backend parameters sound cut concerns)
    {step : ExportStep} (exportable : Exportable parameters cut concerns s step)
    (taken : s.Step backend parameters step s') : ExportInvariant backend parameters sound s' := by
  cases taken with
  | tick later => exact inv.tick later
  | createRealm created =>
    obtain ⟨isSound, sameVlobs, sameBlocks⟩ :=
      laws.createsRealm _ _ _ created inv.isSound
    exact inv.insert isSound (fun _ _ => .of_eq sameVlobs) (fun _ _ => .of_eq sameBlocks)
  | insertVlob _ ballpark inserted =>
    obtain ⟨isSound, sameBlocks, kept⟩ := laws.insertsVlob _ _ _ inserted inv.isSound
    refine inv.insert isSound (fun begunAt isBegun => kept fun concerned => ?_)
      (fun _ _ => .of_eq sameBlocks)
    unfold timestampsInTheBallpark at ballpark
    rw [Bool.and_eq_true, decide_eq_true_eq, decide_eq_true_eq] at ballpark
    exact newer_of_onTime (exportable concerned) isBegun (inv.clock begunAt isBegun).2
      (Int.sub_lt_of_sub_lt ballpark.2)
  | insertBlock _ isDate inserted =>
    obtain ⟨isSound, sameVlobs, kept⟩ := laws.insertsBlock _ _ _ inserted inv.isSound
    refine inv.insert isSound (fun _ _ => .of_eq sameVlobs)
      (fun begunAt isBegun => kept fun isRealm => ?_)
    apply newer_of_onTime (exportable isRealm) isBegun (inv.clock begunAt isBegun).2
    rw [isDate]
    exact Int.sub_lt_self _ (by decide)
  | interrupt => exact inv.interrupt
  | begins allowed => exact inv.begins laws allowed exportable
  | connect isPhase => exact inv.connect isPhase
  | vlobs isPhase isDb => exact inv.vlobsStep laws isPhase isDb
  | blocks isPhase isDb => exact inv.blocksStep laws isPhase isDb

end Invariant

end Runs

end ParsecCloud.Server
