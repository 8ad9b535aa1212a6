import ParsecCloud.File.RoundTrip
import ParsecCloud.File.Content
import ParsecCloud.Workspace.Reshape
import Mathlib.Data.Finset.Insert

/- The upload of the blocks of a file (reshape_and_upload_blocks and upload_blocks in
   outbound_sync.rs), with the local storage of chunks and blocks and what the server has. -/
namespace ParsecCloud
open Rust OrderedSegments

structure UploadStorage where
  chunks : ChunkStore
  blocks : ChunkStore
  uploaded : Finset BlockID

namespace UploadStorage

def getChunkOrBlockLocalOnly (s : UploadStorage) : ChunkStore :=
  fun id => (s.chunks id).or (s.blocks id)

/-- What reads give: the local data where there is some. Else the memory cache may still have it, or
    the server. -/
def ReadAs (s : UploadStorage) (found : ChunkStore) : Prop :=
  ∀ id data, s.getChunkOrBlockLocalOnly id = some data → found id = some data

def promoteLocalOnlyChunkToUploadedBlock (s : UploadStorage) (id : ChunkID) (data : List Byte) :
    UploadStorage :=
  { s with chunks := s.chunks.removeAll {id}, blocks := s.blocks.insert id data }

end UploadStorage

inductive UploadError where
  | notAllowed
  | serverBlockstoreUnavailable
  | unexpectedReply
  | failed
  deriving DecidableEq

inductive BlockCreateRep where
  | ok
  | blockAlreadyExists
  | authorNotAllowed
  | storeUnavailable
  | realmNotFound
  | unknownStatus
  deriving DecidableEq

/-- The last reply of the server, which has not been that the key index is bad. -/
def BlockCreateRep.outcome : BlockCreateRep → Except UploadError Unit
  | ok => .ok ()
  | blockAlreadyExists => .ok ()
  | authorNotAllowed => .error .notAllowed
  | storeUnavailable => .error .serverBlockstoreUnavailable
  | realmNotFound => .error .unexpectedReply
  | unknownStatus => .error .unexpectedReply

section Upload
variable (answer : BlockID → Except UploadError BlockCreateRep)

/-- One turn of the loop of upload_blocks. The answer stands for the encryption of the block and
    the requests to the server. -/
def uploadBlock (s : UploadStorage) (block : List ChunkView) :
    Checked (Except UploadError UploadStorage) := do
  assert (block.length == 1) "block.len() == 1"
  let chunkView ← expectSome "index out of bounds" block[0]?
  let blockAccess ← expectSome "already reshaped" chunkView.access
  let blockId := blockAccess.id
  assert (blockId == BlockID.ofChunkID chunkView.id) "block_id == chunk_view.id.into()"
  match s.chunks chunkView.id with
  | none => return .ok s
  | some data =>
    match answer blockId >>= BlockCreateRep.outcome with
    | .error e => return .error e
    | .ok () =>
      let s := { s with uploaded := insert blockId s.uploaded }
      return .ok (s.promoteLocalOnlyChunkToUploadedBlock chunkView.id data)

/-- What has been uploaded before an error stays so. -/
def uploadBlocks : UploadStorage → List (List ChunkView) →
    Checked (UploadStorage × Except UploadError Unit)
  | s, [] => .ok (s, .ok ())
  | s, block :: rest => do
    match ← uploadBlock answer s block with
    | .error e => return (s, .error e)
    | .ok s => uploadBlocks s rest

end Upload

/-- A turn of the first loop of reshape_and_upload_blocks, which stores the next reshape. -/
inductive ReshapeStep (fromData : List Byte → HashDigest) :
    LocalFileManifest × UploadStorage → Unit → LocalFileManifest × UploadStorage → Prop where
  | step {m s found id update} : s.ReadAs found → id ∉ chunkIds m →
      doNextReshapeOperation fromData found id m = .ok (some update) →
      ReshapeStep fromData (m, s) ()
        (update.manifest, { s with chunks := update.transaction s.chunks })

section Next
variable {fromData : List Byte → HashDigest} {found : ChunkStore} {id : ChunkID}

theorem firstReshape_spec (id : ChunkID) (first : Nat) {blocks : List (List ChunkView)}
    (ok : ∀ views ∈ blocks, ∃ lo hi, SlotOk lo hi views) :
    (firstReshape id first blocks = .ok none ∧ ∀ views ∈ blocks, NoReshape views) ∨
    ∃ i operation, firstReshape id first blocks = .ok (some (first + i, operation)) ∧
      ReshapeBlockOperation.tryReshape id (slot blocks i) = .ok (some operation) ∧
      Reshapes id (slot blocks i) operation := by
  induction blocks generalizing first with
  | nil => exact Or.inl ⟨rfl, by simp⟩
  | cons views rest later =>
    obtain ⟨lo, hi, here⟩ := ok views (by simp)
    rcases tryReshape_spec id here with ⟨tried, none⟩ | ⟨operation, tried, reshapes⟩
    · have next : firstReshape id first (views :: rest) = firstReshape id (first + 1) rest := by
        rw [firstReshape, tried]
        rfl
      rw [next]
      rcases later (first + 1) (fun other member => ok other (List.mem_cons_of_mem _ member)) with
        ⟨run, all⟩ | ⟨i, operation, run, tried, reshapes⟩
      · exact Or.inl ⟨run, by simpa using ⟨none, all⟩⟩
      · refine Or.inr ⟨i + 1, operation, ?_, tried, reshapes⟩
        rw [run, Nat.add_right_comm, Nat.add_assoc]
    · refine Or.inr ⟨0, operation, ?_, tried, reshapes⟩
      rw [firstReshape, tried]
      rfl

theorem copyViews_found {offset : Nat} {views : List ChunkView} {buf : List Byte × Nat}
    (run : copyViews found offset views = .ok buf) : ∀ v ∈ views, found v.id ≠ none := by
  unfold copyViews at run
  generalize ([], 0) = first at run
  induction views generalizing first with
  | nil => simp
  | cons v rest later =>
    rw [List.foldlM_cons] at run
    obtain ⟨next, here, run⟩ := bind_eq_ok.mp run
    obtain ⟨data, isSome, -⟩ := bind_eq_ok.mp here
    have known : found v.id ≠ none := by
      intro missing
      rw [missing] at isSome
      cases isSome
    intro w member
    rcases List.mem_cons.mp member with rfl | member
    · exact known
    · exact later _ run w member

/-- What a reshape operation that returns has done. -/
structure Reshaped (fromData : List Byte → HashDigest) (found : ChunkStore) (id : ChunkID)
    (m : LocalFileManifest) (i : Nat) (operation : ReshapeBlockOperation) (buf : List Byte)
    (update : FileUpdate) : Prop where
  tried : ReshapeBlockOperation.tryReshape id (slot m.blocks i) = .ok (some operation)
  reshapes : Reshapes id (slot m.blocks i) operation
  read : ∀ v ∈ slot m.blocks i, found v.id ≠ none
  length : buf.length = operation.destination.stop - operation.destination.start
  manifest : update.manifest =
    { m with blocks := m.blocks.set i [operation.destination.promoted (fromData buf)] }
  newChunks : update.newChunks = [(operation.destination.id, buf)]
  removedChunks : update.removedChunks = operation.cleanupIds

theorem slot_of_mem {blocks : List (List ChunkView)} {views : List ChunkView}
    (member : views ∈ blocks) : ∃ i, slot blocks i = views := by
  obtain ⟨i, inside, isSlot⟩ := List.getElem_of_mem member
  refine ⟨i, ?_⟩
  rw [slot, List.getD_eq_getElem?_getD, List.getElem?_eq_getElem inside, isSlot]
  rfl

theorem slots_ok {m : LocalFileManifest} (layout : Layout m.blocksize.inner m.size m.blocks) :
    ∀ views ∈ m.blocks, ∃ lo hi, SlotOk lo hi views := by
  intro views member
  obtain ⟨i, isSlot⟩ := slot_of_mem member
  rw [← isSlot]
  exact ⟨_, _, layout.slots i⟩

theorem doNext_cases {m : LocalFileManifest} {next : Option FileUpdate}
    (layout : Layout m.blocksize.inner m.size m.blocks)
    (run : doNextReshapeOperation fromData found id m = .ok next) :
    (next = none ∧ ∀ views ∈ m.blocks, NoReshape views) ∨
    ∃ i operation buf update, next = some update ∧
      Reshaped fromData found id m i operation buf update := by
  unfold doNextReshapeOperation at run
  rcases firstReshape_spec id 0 (slots_ok layout) with ⟨first, all⟩ |
    ⟨i, operation, first, tried, reshapes⟩
  · rw [first] at run
    cases run
    exact Or.inl ⟨rfl, all⟩
  · rw [first, Nat.zero_add, ok_bind] at run
    simp only at run
    obtain ⟨⟨buf, size⟩, copied, run⟩ := bind_eq_ok.mp run
    obtain ⟨_, checked, run⟩ := bind_eq_ok.mp run
    have length := assert_eq_ok.mp checked
    rw [@commitReshape_ok (fun _ => id) fromData m i operation buf reshapes, ok_bind] at run
    cases run
    refine Or.inr ⟨i, operation, buf, _, rfl, tried, reshapes, ?_, by simpa using length, rfl, rfl, rfl⟩
    rw [← reshapes.source]
    exact copyViews_found copied

theorem not_noReshape {views : List ChunkView} {operation : ReshapeBlockOperation}
    (tried : ReshapeBlockOperation.tryReshape id views = .ok (some operation)) :
    ¬ NoReshape views := by
  intro none
  rcases none with rfl | ⟨v, rfl, isBlock⟩
  · cases tried
  · unfold ReshapeBlockOperation.tryReshape at tried
    simp only [isBlock, if_true] at tried
    cases tried

theorem doNext_returns {m : LocalFileManifest} (fromData : List Byte → HashDigest)
    (id : ChunkID) (layout : Layout m.blocksize.inner m.size m.blocks)
    (stored : ∀ i, ¬ NoReshape (slot m.blocks i) → Stored found (slot m.blocks i)) :
    ∃ next, doNextReshapeOperation fromData found id m = .ok next := by
  unfold doNextReshapeOperation
  rcases firstReshape_spec id 0 (slots_ok layout) with ⟨first, -⟩ |
    ⟨i, operation, first, tried, reshapes⟩
  · rw [first]
    exact ⟨none, rfl⟩
  · obtain ⟨v, rest, views, start⟩ := reshapes.first
    have ok := layout.slots i
    have here := stored i (not_noReshape tried)
    have stop := reshapes.last
    have inside := reshapes.inside
    rw [views] at ok here stop
    have ordered : OrderedViews v.start ((i + 1) * m.blocksize.inner) (v :: rest) :=
      ⟨Nat.le_refl _, ok.ordered.2⟩
    have copied := copyViews_eq ordered (fun w mw => valid_readable (ok.valid w mw)) here
    have span : viewsEnd v.start (v :: rest) = operation.destination.stop := stop.symm
    rw [span] at copied
    rw [first, Nat.zero_add, ok_bind]
    simp only
    rw [reshapes.source, views, start, copied, ok_bind]
    simp only
    rw [assert_eq_ok.mpr (by simp [contents_length]), ok_bind,
      @commitReshape_ok (fun _ => id) fromData m i operation _ reshapes]
    exact ⟨_, rfl⟩

end Next

section Blocks

/-- A slot that passes the sanity checks of upload_blocks. -/
def SanityChecked (views : List ChunkView) : Prop :=
  ∃ v access, views = [v] ∧ v.access = some access ∧ access.id = BlockID.ofChunkID v.id

/-- Chunks are only taken away once they are uploaded, and only chunks are uploaded. -/
structure UploadedFrom (s s' : UploadStorage) : Prop where
  keeps : s.uploaded ⊆ s'.uploaded
  moved : ∀ c, s'.chunks c = none → s.chunks c = none ∨ BlockID.ofChunkID c ∈ s'.uploaded
  fromChunks : ∀ b ∈ s'.uploaded, b ∈ s.uploaded ∨ ∃ c, s.chunks c ≠ none ∧ b = BlockID.ofChunkID c
  gone : ∀ c, s.chunks c = none → s'.chunks c = none

theorem UploadedFrom.refl (s : UploadStorage) : UploadedFrom s s :=
  ⟨fun _ member => member, fun _ none => Or.inl none, fun _ member => Or.inl member,
    fun _ none => none⟩

theorem UploadedFrom.trans {s s' s'' : UploadStorage} (first : UploadedFrom s s')
    (second : UploadedFrom s' s'') : UploadedFrom s s'' := by
  refine ⟨fun b member => second.keeps (first.keeps member), ?_, ?_,
    fun c none => second.gone c (first.gone c none)⟩
  · intro c none
    rcases second.moved c none with before | uploaded
    · exact (first.moved c before).imp_right fun uploaded => second.keeps uploaded
    · exact Or.inr uploaded
  · intro b member
    rcases second.fromChunks b member with before | ⟨c, there, same⟩
    · exact first.fromChunks b before
    · exact Or.inr ⟨c, fun none => there (first.gone c none), same⟩

variable {answer : BlockID → Except UploadError BlockCreateRep} {s : UploadStorage}

theorem uploadBlock_checked {views : List ChunkView} {next : Except UploadError UploadStorage}
    (run : uploadBlock answer s views = .ok next) : SanityChecked views := by
  unfold uploadBlock at run
  obtain ⟨_, one, run⟩ := bind_eq_ok.mp run
  obtain ⟨v, isView, run⟩ := bind_eq_ok.mp run
  obtain ⟨access, isAccess, run⟩ := bind_eq_ok.mp run
  obtain ⟨_, named, -⟩ := bind_eq_ok.mp run
  have length : views.length = 1 := by simpa using assert_eq_ok.mp one
  obtain ⟨w, rfl⟩ := List.length_eq_one_iff.mp length
  cases isView
  refine ⟨v, access, rfl, ?_, by simpa using assert_eq_ok.mp named⟩
  cases found : v.access with
  | none =>
    rw [found] at isAccess
    cases isAccess
  | some other =>
    rw [found] at isAccess
    cases isAccess
    rfl

theorem uploadBlock_cases {v : ChunkView} {access : BlockAccess} (isAccess : v.access = some access)
    (named : access.id = BlockID.ofChunkID v.id) :
    (∃ s', uploadBlock answer s [v] = .ok (.ok s') ∧ UploadedFrom s s' ∧
      (s.chunks v.id = none ∨ BlockID.ofChunkID v.id ∈ s'.uploaded)) ∨
    ∃ e, uploadBlock answer s [v] = .ok (.error e) ∧
      answer access.id >>= BlockCreateRep.outcome = .error e := by
  unfold uploadBlock
  simp only [assert, List.length_singleton, beq_self_eq_true, if_true, ok_bind, expectSome,
    List.getElem?_cons_zero, isAccess, named]
  cases found : s.chunks v.id with
  | none => exact Or.inl ⟨s, rfl, UploadedFrom.refl s, Or.inl rfl⟩
  | some data =>
    cases reply : answer (BlockID.ofChunkID v.id) >>= BlockCreateRep.outcome with
    | error e => exact Or.inr ⟨e, rfl, rfl⟩
    | ok _ =>
      refine Or.inl ⟨_, rfl, ⟨?_, ?_, ?_, ?_⟩, Or.inr (Finset.mem_insert_self _ _)⟩
      · intro b member
        exact Finset.mem_insert_of_mem member
      · intro c none
        by_cases same : c = v.id
        · rw [same]
          exact Or.inr (Finset.mem_insert_self _ _)
        · left
          simpa [UploadStorage.promoteLocalOnlyChunkToUploadedBlock, ChunkStore.removeAll, same]
            using none
      · intro b member
        rcases Finset.mem_insert.mp member with rfl | before
        · exact Or.inr ⟨v.id, by simp [found], rfl⟩
        · exact Or.inl before
      · intro c none
        simp [UploadStorage.promoteLocalOnlyChunkToUploadedBlock, ChunkStore.removeAll, none]

/-- The upload of slots that pass the checks ends, after an error of the server or with all of
    them uploaded. -/
theorem uploadBlocks_spec {blocks : List (List ChunkView)}
    (checked : ∀ views ∈ blocks, SanityChecked views) :
    ∃ s' outcome, uploadBlocks answer s blocks = .ok (s', outcome) ∧ UploadedFrom s s' ∧
      (outcome = .ok () → ∀ v, [v] ∈ blocks →
        s.chunks v.id = none ∨ BlockID.ofChunkID v.id ∈ s'.uploaded) ∧
      ((∀ b, answer b >>= BlockCreateRep.outcome = .ok ()) → outcome = .ok ()) := by
  induction blocks generalizing s with
  | nil => exact ⟨s, .ok (), rfl, UploadedFrom.refl s, by simp, fun _ => rfl⟩
  | cons views rest later =>
    obtain ⟨v, access, rfl, isAccess, named⟩ := checked views (by simp)
    unfold uploadBlocks
    rcases @uploadBlock_cases answer s v access isAccess named with
      ⟨s', run, first, here⟩ | ⟨e, run, refused⟩
    · obtain ⟨s'', outcome, runRest, second, all, accepts⟩ :=
        @later s' fun other member => checked other (List.mem_cons_of_mem _ member)
      rw [run, ok_bind]
      refine ⟨s'', outcome, runRest, first.trans second, ?_, accepts⟩
      intro done w member
      rcases List.mem_cons.mp member with isFirst | inRest
      · cases isFirst
        exact here.imp_right fun uploaded => second.keeps uploaded
      · rcases all done w inRest with none | uploaded
        · exact (first.moved w.id none).imp_right fun uploaded => second.keeps uploaded
        · exact Or.inr uploaded
    · rw [run, ok_bind]
      refine ⟨s, .error e, rfl, UploadedFrom.refl s, by simp, ?_⟩
      intro accepts
      rw [accepts] at refused
      cases refused

theorem uploadBlocks_checked {blocks : List (List ChunkView)}
    {last : UploadStorage × Except UploadError Unit}
    (accepts : ∀ b, answer b >>= BlockCreateRep.outcome = .ok ())
    (run : uploadBlocks answer s blocks = .ok last) : ∀ views ∈ blocks, SanityChecked views := by
  induction blocks generalizing s with
  | nil => simp
  | cons views rest later =>
    unfold uploadBlocks at run
    obtain ⟨next, here, run⟩ := bind_eq_ok.mp run
    have checked := uploadBlock_checked here
    intro other member
    rcases List.mem_cons.mp member with rfl | inRest
    · exact checked
    · obtain ⟨v, access, rfl, isAccess, named⟩ := checked
      rcases @uploadBlock_cases answer s v access isAccess named with
        ⟨s', uploaded, -⟩ | ⟨e, -, refused⟩
      · rw [uploaded] at here
        cases here
        exact later run other inRest
      · rw [accepts] at refused
        cases refused

end Blocks
end ParsecCloud
