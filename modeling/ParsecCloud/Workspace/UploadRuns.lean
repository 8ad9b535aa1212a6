import ParsecCloud.Workspace.BlockUpload
import ParsecCloud.Lib.Runs
import Mathlib.Data.Fintype.EquivFin

/- The runs of reshape_and_upload_blocks on a file: for which manifests every run ends with all
   blocks uploaded. -/
namespace ParsecCloud
open Rust OrderedSegments

/-- A slot that is not to be reshaped any more. -/
def settled : List ChunkView → Bool
  | [] => true
  | [v] => v.isBlock
  | _ => false

theorem settled_iff {views : List ChunkView} : settled views = true ↔ NoReshape views := by
  unfold settled NoReshape
  split
  · simp
  · simp
  · rename_i empty single
    simp only [Bool.false_eq_true, false_iff, not_or, not_exists, not_and]
    exact ⟨empty, fun v same => (single v same).elim⟩

def unsettledSlots (m : LocalFileManifest) : Nat := m.blocks.countP fun views => !settled views

/-- The slots that are to be reshaped have the data of their views; what is a block is among the
    chunks, or has been uploaded. -/
structure HasChunks (s : UploadStorage) (m : LocalFileManifest) : Prop where
  data : ∀ i, ¬ NoReshape (slot m.blocks i) → Stored s.getChunkOrBlockLocalOnly (slot m.blocks i)
  uploaded : ∀ i v, slot m.blocks i = [v] → v.isBlock = true → s.chunks v.id = none →
    BlockID.ofChunkID v.id ∈ s.uploaded

section Property
variable (fromData : List Byte → HashDigest)

/-- A reshaped manifest can be uploaded: without a failed assertion and, unless the server refuses a
    block, with all its blocks on the server in the end. -/
def UploadsAll (m : LocalFileManifest) (s : UploadStorage) : Prop :=
  m.isReshaped = true ∧ ∀ author timestamp, ∃ remote, m.toRemote author timestamp = .ok (.ok remote) ∧
    ∀ answer, ∃ s' outcome, uploadBlocks answer s m.blocks = .ok (s', outcome) ∧
      (outcome = .ok () → ∀ access ∈ remote.blocks, access.id ∈ s'.uploaded)

/-- The next reshape operation returns, with fewer slots to reshape after it, or there is none and
    the blocks are uploaded. -/
def Advances (m : LocalFileManifest) (s : UploadStorage) : Prop :=
  ∀ found id, s.ReadAs found → id ∉ chunkIds m →
    ∃ next, doNextReshapeOperation fromData found id m = .ok next ∧
      (∀ update, next = some update → unsettledSlots update.manifest < unsettledSlots m) ∧
      (next = none → UploadsAll m s)

/-- From any storage that has the chunks, in every state of every run. -/
def Uploads (m : LocalFileManifest) : Prop :=
  ∀ s, HasChunks s m → ∀ m' s',
    Runs.Run (ReshapeStep fromData) (fun _ _ => True) (m, s) (m', s') → Advances fromData m' s'

end Property

/-- The views of the slot are to be flattened into a new chunk. -/
def Flattened (views : List ChunkView) : Prop :=
  views ≠ [] ∧ ∀ v, views = [v] → v.isAlignedWithRawData = false

/-- No slot is empty, blocks are named after their chunks, and no chunk of a slot to flatten is
    used in another slot. -/
structure Uploadable (m : LocalFileManifest) : Prop where
  filled : ∀ views ∈ m.blocks, views ≠ []
  named : ∀ i v access, slot m.blocks i = [v] → v.block = some access →
    access.id = BlockID.ofChunkID v.id
  apart : ∀ i j v w, v ∈ slot m.blocks i → w ∈ slot m.blocks j → v.id = w.id →
    Flattened (slot m.blocks i) → i = j

section Step
variable {fromData : List Byte → HashDigest} {found : ChunkStore} {id : ChunkID}
  {m : LocalFileManifest} {s : UploadStorage} {i : Nat} {operation : ReshapeBlockOperation}
  {buf : List Byte} {update : FileUpdate}

theorem tryReshape_kind {views : List ChunkView}
    (tried : ReshapeBlockOperation.tryReshape id views = .ok (some operation))
    (reshapes : Reshapes id views operation) :
    (Flattened views ∧ operation.destination.id = id ∧ operation.cleanupIds = viewIds views) ∨
    (views = [operation.destination] ∧ operation.destination.isAlignedWithRawData = true ∧
      operation.cleanupIds = ∅) := by
  rcases reshapes.kind with ⟨back, dest, cleanup⟩ | ⟨-, single, cleanup⟩
  · refine Or.inl ⟨⟨?_, ?_⟩, dest, cleanup⟩
    · obtain ⟨v, rest, same, -⟩ := reshapes.first
      rw [same]
      exact List.cons_ne_nil v rest
    · intro v single
      rw [single] at tried
      unfold ReshapeBlockOperation.tryReshape at tried
      simp only at tried
      split at tried
      · cases tried
      · split at tried
        · cases tried
          cases back
        · rename_i crooked
          simpa using crooked
  · exact Or.inr ⟨single, reshapes.aligned, cleanup⟩

theorem block_promoted (digest : HashDigest) (reshapes : Reshapes id (slot m.blocks i) operation) :
    ∃ access, (operation.destination.promoted digest).block = some access ∧
      access.id = BlockID.ofChunkID operation.destination.id := by
  obtain ⟨left, right⟩ := (ChunkView.aligned_iff _).mp reshapes.aligned
  have inside := reshapes.inside
  have aligned : (operation.destination.promoted digest).isAlignedWithRawData = true :=
    reshapes.aligned
  have size : operation.destination.rawSize =
      max 1 (operation.destination.stop - operation.destination.start) := by omega
  refine ⟨⟨BlockID.ofChunkID operation.destination.id, operation.destination.start,
    max 1 (operation.destination.stop - operation.destination.start), by omega, digest⟩, ?_, rfl⟩
  unfold ChunkView.block
  rw [aligned]
  simp [ChunkView.promoted, left, size]

theorem slot_id_mem {k : Nat} {v : ChunkView} (member : v ∈ slot m.blocks k) :
    v.id ∈ chunkIds m := mem_viewIds.mpr ⟨v, slot_member member, rfl⟩

variable (reshaped : Reshaped fromData found id m i operation buf update)
include reshaped

theorem slot_reshaped (k : Nat) : slot update.manifest.blocks k =
    if k = i then [operation.destination.promoted (fromData buf)] else slot m.blocks k := by
  rw [reshaped.manifest]
  exact slot_set m.blocks k _ (reshapes_inside reshaped.reshapes)

theorem settled_promoted : settled [operation.destination.promoted (fromData buf)] = true := by
  obtain ⟨access, isBlock, -⟩ := block_promoted (fromData buf) reshaped.reshapes
  simp [settled, ChunkView.isBlock, isBlock]

theorem fewer_unsettled : unsettledSlots update.manifest < unsettledSlots m := by
  have inside := reshapes_inside reshaped.reshapes
  have isSlot : m.blocks[i] = slot m.blocks i := by
    simp [slot, List.getD_eq_getElem?_getD, inside]
  have unsettled : settled m.blocks[i] = false := by
    rw [isSlot, Bool.eq_false_iff]
    exact mt settled_iff.mp (not_noReshape reshaped.tried)
  have some_left : 0 < unsettledSlots m := by
    rw [unsettledSlots, List.countP_pos_iff]
    exact ⟨_, List.getElem_mem inside, by simp [unsettled]⟩
  unfold unsettledSlots at some_left ⊢
  rw [reshaped.manifest, List.countP_set inside, unsettled, settled_promoted reshaped]
  simp only [Bool.not_false, Bool.not_true, if_true, Bool.false_eq_true, if_false]
  omega

theorem lookup_transaction (chunks : ChunkStore) (c : ChunkID) :
    update.transaction chunks c =
      if c ∈ operation.cleanupIds then none
      else if c = operation.destination.id then some buf else chunks c := by
  unfold FileUpdate.transaction
  rw [reshaped.newChunks, reshaped.removedChunks]
  rfl

theorem layout_reshaped (layout : Layout m.blocksize.inner m.size m.blocks) :
    Layout update.manifest.blocksize.inner update.manifest.size update.manifest.blocks := by
  rw [reshaped.manifest]
  exact @reshape_layout (fun _ => id) _ _ _ _ _ (fromData buf) layout reshaped.reshapes

variable (fresh : id ∉ chunkIds m)
include fresh

theorem kept_chunk (uploadable : Uploadable m) {k : Nat} (other : k ≠ i) {v : ChunkView}
    (member : v ∈ slot m.blocks k) :
    v.id ∉ operation.cleanupIds ∧
      (v.id = operation.destination.id → slot m.blocks i = [operation.destination]) := by
  rcases tryReshape_kind reshaped.tried reshaped.reshapes with ⟨flat, dest, cleanup⟩ |
    ⟨single, -, cleanup⟩
  · constructor
    · intro removed
      rw [cleanup] at removed
      obtain ⟨w, inSlot, same⟩ := mem_viewIds.mp removed
      exact other (uploadable.apart i k w v inSlot member same flat).symm
    · intro same
      rw [dest] at same
      exact absurd (same ▸ slot_id_mem member) fresh
  · rw [cleanup]
    exact ⟨by simp, fun _ => single⟩

theorem uploadable_reshaped (uploadable : Uploadable m) : Uploadable update.manifest := by
  have slots := slot_reshaped reshaped
  refine ⟨?_, ?_, ?_⟩
  · intro views member
    rw [reshaped.manifest] at member
    rcases List.mem_or_eq_of_mem_set member with old | new
    · exact uploadable.filled views old
    · rw [new]
      exact List.cons_ne_nil _ _
  · intro k v access single isBlock
    rw [slots] at single
    split at single
    · cases single
      obtain ⟨made, isMade, named⟩ := block_promoted (fromData buf) reshaped.reshapes
      rw [isMade] at isBlock
      cases isBlock
      exact named
    · exact uploadable.named k v access single isBlock
  · intro a b v w inA inB same flat
    rw [slots] at inA flat
    by_cases here : a = i
    · -- the new view is aligned with its chunk
      rw [if_pos here] at flat
      have crooked := flat.2 _ rfl
      have aligned : (operation.destination.promoted (fromData buf)).isAlignedWithRawData = true :=
        reshaped.reshapes.aligned
      rw [aligned] at crooked
      cases crooked
    · rw [if_neg here] at inA flat
      rw [slots] at inB
      split at inB
      · rename_i there
        rw [List.mem_singleton.mp inB] at same
        have single := (kept_chunk reshaped fresh uploadable here inA).2 same
        rw [there]
        exact uploadable.apart a i v operation.destination inA (by simp [single]) same flat
      · exact uploadable.apart a b v w inA inB same flat

theorem hasChunks_reshaped (uploadable : Uploadable m)
    (has : HasChunks s m) :
    HasChunks { s with chunks := update.transaction s.chunks } update.manifest := by
  have slots := slot_reshaped reshaped
  have lookup := lookup_transaction reshaped s.chunks
  constructor
  · intro k unsettled
    rw [slots] at unsettled ⊢
    split at unsettled
    · exact absurd (settled_iff.mp (settled_promoted reshaped)) unsettled
    · rename_i other
      rw [if_neg other]
      intro v member
      obtain ⟨data, stored, length⟩ := has.data k unsettled v member
      obtain ⟨kept, promotes⟩ := kept_chunk reshaped fresh uploadable other member
      have here := lookup v.id
      rw [if_neg kept] at here
      by_cases same : v.id = operation.destination.id
      · -- the same chunk is stored once more
        rw [if_pos same] at here
        refine ⟨buf, by simp [UploadStorage.getChunkOrBlockLocalOnly, here], ?_⟩
        have single := promotes same
        have ownData := has.data i (not_noReshape reshaped.tried) operation.destination
          (by simp [single])
        obtain ⟨own, found, ownLength⟩ := ownData
        rw [← same, stored] at found
        cases found
        obtain ⟨left, right⟩ := (ChunkView.aligned_iff _).mp reshaped.reshapes.aligned
        have bufLength := reshaped.length
        omega
      · rw [if_neg same] at here
        refine ⟨data, ?_, length⟩
        unfold UploadStorage.getChunkOrBlockLocalOnly at stored ⊢
        simp only [here]
        exact stored
  · intro k v single isBlock missing
    have here := missing.symm.trans (lookup v.id)
    rw [slots] at single
    split at single
    · cases single
      -- the chunk of the new view has just been stored
      have kept : operation.destination.id ∉ operation.cleanupIds := by
        rcases tryReshape_kind reshaped.tried reshaped.reshapes with ⟨-, dest, cleanup⟩ |
          ⟨-, -, cleanup⟩
        · rw [dest, cleanup]
          intro removed
          obtain ⟨w, inSlot, same⟩ := mem_viewIds.mp removed
          exact fresh (same ▸ slot_id_mem inSlot)
        · simp [cleanup]
      simp only [ChunkView.promoted, if_neg kept, if_true] at here
      cases here
    · rename_i other
      obtain ⟨kept, -⟩ := kept_chunk reshaped fresh uploadable other
        (show v ∈ slot m.blocks k by simp [single])
      rw [if_neg kept] at here
      split at here
      · cases here
      · exact has.uploaded k v single isBlock here.symm

end Step
section Finish
variable {m : LocalFileManifest} {s : UploadStorage}

theorem access_of_block {v : ChunkView} {access : BlockAccess} (isBlock : v.block = some access) :
    v.access = some access := by
  unfold ChunkView.block at isBlock
  cases found : v.access with
  | none =>
    rw [found] at isBlock
    cases isBlock
  | some other =>
    rw [found] at isBlock
    simp only at isBlock
    split at isBlock
    · exact isBlock
    · cases isBlock

theorem isReshaped_of_settled (all : ∀ views ∈ m.blocks, NoReshape views) : m.isReshaped = true := by
  apply List.all_eq_true.mpr
  intro views member
  rcases all views member with rfl | ⟨v, rfl, isBlock⟩
  · rfl
  · exact isBlock

theorem accessView_of_settled (uploadable : Uploadable m) {views : List ChunkView}
    (member : views ∈ m.blocks) (settled : NoReshape views) :
    ∃ access, views = [accessView access] ∧ (accessView access).isBlock = true := by
  rcases settled with empty | ⟨v, single, isBlock⟩
  · exact absurd empty (uploadable.filled views member)
  · obtain ⟨i, isSlot⟩ := slot_of_mem member
    obtain ⟨access, block⟩ := Option.isSome_iff_exists.mp isBlock
    have named : Named v := by
      intro other isAccess
      rw [access_of_block block] at isAccess
      cases isAccess
      exact uploadable.named i v access (isSlot.trans single) block
    obtain ⟨whole, same⟩ := eq_accessView isBlock named
    exact ⟨whole, by rw [single, same], same ▸ isBlock⟩

theorem uploadsAll_of_settled (accepted : m.checkDataIntegrity = .ok (.ok ()))
    (uploadable : Uploadable m) (has : HasChunks s m)
    (all : ∀ views ∈ m.blocks, NoReshape views) : UploadsAll m s := by
  have views := fun views member => accessView_of_settled uploadable member (all views member)
  have whole : WholeBlocks m.blocks := by
    intro slot member
    obtain ⟨access, same, -⟩ := views slot member
    exact Or.inr ⟨access, same⟩
  refine ⟨isReshaped_of_settled all, fun author timestamp => ⟨_, toRemote_eq accepted whole _ _, ?_⟩⟩
  intro answer
  have checked : ∀ slot ∈ m.blocks, SanityChecked slot := by
    intro slot member
    obtain ⟨access, same, -⟩ := views slot member
    exact ⟨_, access, same, rfl, rfl⟩
  obtain ⟨s', outcome, run, moved, done, -⟩ := @uploadBlocks_spec answer s m.blocks checked
  refine ⟨s', outcome, run, ?_⟩
  intro finished access member
  obtain ⟨v, inBlocks, isAccess⟩ := List.mem_filterMap.mp member
  obtain ⟨slot, inSlots, inSlot⟩ := List.mem_flatten.mp inBlocks
  obtain ⟨other, same, isBlock⟩ := views slot inSlots
  rw [same, List.mem_singleton] at inSlot
  subst inSlot
  cases isAccess
  rw [same] at inSlots
  rcases done finished _ inSlots with none | uploaded
  · obtain ⟨i, isSlot⟩ := slot_of_mem inSlots
    exact moved.keeps (has.uploaded i _ isSlot isBlock none)
  · exact uploaded

end Finish

section Runs
variable {fromData : List Byte → HashDigest}

/-- What the runs of an uploadable manifest keep. -/
structure Ready (m : LocalFileManifest) (s : UploadStorage) : Prop where
  accepted : m.checkDataIntegrity = .ok (.ok ())
  uploadable : Uploadable m
  has : HasChunks s m

theorem stored_of_reads {s : UploadStorage} {found : ChunkStore} {views : List ChunkView}
    (reads : s.ReadAs found) (stored : Stored s.getChunkOrBlockLocalOnly views) :
    Stored found views := by
  intro v member
  obtain ⟨data, there, length⟩ := stored v member
  exact ⟨data, reads v.id data there, length⟩

theorem accepted_reshaped {m : LocalFileManifest} {found : ChunkStore} {id : ChunkID} {i : Nat}
    {operation : ReshapeBlockOperation} {buf : List Byte} {update : FileUpdate}
    (accepted : m.checkDataIntegrity = .ok (.ok ()))
    (reshaped : Reshaped fromData found id m i operation buf update) :
    update.manifest.checkDataIntegrity = .ok (.ok ()) := by
  obtain ⟨root, layout⟩ := (checkDataIntegrity_ok_iff m).mp accepted
  refine (checkDataIntegrity_ok_iff _).mpr ⟨?_, layout_reshaped reshaped layout⟩
  rw [reshaped.manifest]
  exact root

theorem ready_advances {m : LocalFileManifest} {s : UploadStorage} (ready : Ready m s) :
    Advances fromData m s := by
  intro found id reads fresh
  have layout := ((checkDataIntegrity_ok_iff m).mp ready.accepted).2
  obtain ⟨next, run⟩ := doNext_returns fromData id layout fun i unsettled =>
    stored_of_reads reads (ready.has.data i unsettled)
  refine ⟨next, run, ?_⟩
  rcases doNext_cases layout run with ⟨rfl, all⟩ | ⟨i, operation, buf, update, rfl, reshaped⟩
  · refine ⟨?_, fun _ => uploadsAll_of_settled ready.accepted ready.uploadable ready.has all⟩
    intro update same
    cases same
  · constructor
    · intro other same
      cases same
      exact fewer_unsettled reshaped
    · intro same
      cases same

theorem ready_step {before after : LocalFileManifest × UploadStorage} (ready : Ready before.1 before.2)
    (step : ReshapeStep fromData before () after) : Ready after.1 after.2 := by
  cases step with
  | step reads fresh run =>
    have layout := ((checkDataIntegrity_ok_iff _).mp ready.accepted).2
    rcases doNext_cases layout run with ⟨none, -⟩ | ⟨i, operation, buf, update, same, reshaped⟩
    · cases none
    · cases same
      exact ⟨accepted_reshaped ready.accepted reshaped,
        uploadable_reshaped reshaped fresh ready.uploadable,
        hasChunks_reshaped reshaped fresh ready.uploadable ready.has⟩

theorem ready_run {start reached : LocalFileManifest × UploadStorage}
    (ready : Ready start.1 start.2)
    (run : Runs.Run (ReshapeStep fromData) (fun _ _ => True) start reached) :
    Ready reached.1 reached.2 := by
  induction run with
  | start => exact ready
  | step _ _ step earlier => exact ready_step earlier step

theorem uploads_of_uploadable {m : LocalFileManifest}
    (accepted : m.checkDataIntegrity = .ok (.ok ())) (uploadable : Uploadable m) :
    Uploads fromData m := by
  intro s has m' s' run
  have ready : Ready m s := ⟨accepted, uploadable, has⟩
  exact ready_advances (ready_run ready run)

end Runs

section Needed
variable {fromData : List Byte → HashDigest} {m : LocalFileManifest} {s : UploadStorage}

/-- Nothing has been uploaded, and no block of the server is known. -/
structure Unsent (s : UploadStorage) : Prop where
  blocks : ∀ id, s.blocks id = none
  uploaded : s.uploaded = ∅

theorem Unsent.found (unsent : Unsent s) (id : ChunkID) :
    s.getChunkOrBlockLocalOnly id = s.chunks id := by
  unfold UploadStorage.getChunkOrBlockLocalOnly
  rw [unsent.blocks]
  simp

def ChunksKnown (m : LocalFileManifest) (s : UploadStorage) : Prop :=
  ∀ id ∈ chunkIds m, s.chunks id ≠ none

theorem slot_mem_iff {blocks : List (List ChunkView)} {views : List ChunkView} :
    views ∈ blocks ↔ ∃ i < blocks.length, slot blocks i = views := by
  rw [List.mem_iff_getElem]
  apply exists_congr
  intro i
  constructor
  · rintro ⟨inside, isSlot⟩
    exact ⟨inside, by simp [slot, List.getD_eq_getElem?_getD, inside, isSlot]⟩
  · rintro ⟨inside, isSlot⟩
    exact ⟨inside, by simpa [slot, List.getD_eq_getElem?_getD, inside] using isSlot⟩

theorem slot_mem {blocks : List (List ChunkView)} {i : Nat} {v : ChunkView}
    (member : v ∈ slot blocks i) : slot blocks i ∈ blocks :=
  slot_mem_iff.mpr ⟨i, slot_inside (List.ne_nil_of_mem member), rfl⟩

theorem aligned_of_isBlock {v : ChunkView} (isBlock : v.isBlock = true) :
    v.isAlignedWithRawData = true := by
  obtain ⟨access, isAccess⟩ := Option.isSome_iff_exists.mp isBlock
  unfold ChunkView.block at isAccess
  cases found : v.access with
  | none => simp [found] at isAccess
  | some other =>
    simp only [found] at isAccess
    split at isAccess
    · rename_i checks
      simp only [Bool.and_eq_true] at checks
      exact checks.1.1
    · cases isAccess

theorem chunksKnown_iff :
    ChunksKnown m s ↔ ∀ i, ∀ v ∈ slot m.blocks i, s.chunks v.id ≠ none := by
  constructor
  · intro known i v member
    exact known v.id (slot_id_mem member)
  · intro known id member
    obtain ⟨v, inBlocks, same⟩ := mem_viewIds.mp member
    obtain ⟨views, isSlot, inSlot⟩ := List.mem_flatten.mp inBlocks
    obtain ⟨i, rfl⟩ := slot_of_mem isSlot
    exact same ▸ known i v inSlot

theorem infinite_chunkIds : Infinite ChunkID :=
  Infinite.of_injective (fun n : Nat => (⟨n⟩ : ChunkID)) fun _ _ same => congrArg ChunkID.uuid same

theorem fresh_chunkId (m : LocalFileManifest) : ∃ id, id ∉ chunkIds m := by
  have := infinite_chunkIds
  exact Infinite.exists_notMem_finset (chunkIds m)

theorem uploadable_of_checked (checked : ∀ views ∈ m.blocks, SanityChecked views)
    (all : ∀ views ∈ m.blocks, NoReshape views) : Uploadable m := by
  refine ⟨?_, ?_, ?_⟩
  · intro views member
    obtain ⟨v, access, single, -⟩ := checked views member
    simp [single]
  · intro i v access single isBlock
    obtain ⟨w, other, same, isAccess, named⟩ :=
      checked [v] (single ▸ slot_mem (show v ∈ slot m.blocks i by simp [single]))
    cases same
    rw [access_of_block isBlock] at isAccess
    cases isAccess
    exact named
  · intro i j v w inI inJ same flat
    rcases all _ (slot_mem inI) with empty | ⟨u, single, isBlock⟩
    · exact absurd empty flat.1
    · have crooked := flat.2 u single
      rw [aligned_of_isBlock isBlock] at crooked
      cases crooked

theorem known_of_uploadsAll (accepted : m.checkDataIntegrity = .ok (.ok ())) (unsent : Unsent s)
    (uploads : UploadsAll m s) (all : ∀ views ∈ m.blocks, NoReshape views) :
    Uploadable m ∧ ChunksKnown m s := by
  obtain ⟨-, uploads⟩ := uploads
  obtain ⟨remote, isRemote, uploads⟩ := uploads ⟨0⟩ 0
  obtain ⟨s', outcome, run, done⟩ := uploads fun _ => .ok .ok
  have accepts : ∀ b : BlockID, (Except.ok BlockCreateRep.ok >>= BlockCreateRep.outcome :
      Except UploadError Unit) = .ok () := fun _ => rfl
  have checked := uploadBlocks_checked accepts run
  have uploadable := uploadable_of_checked checked all
  refine ⟨uploadable, chunksKnown_iff.mpr ?_⟩
  intro i v member
  have inBlocks := slot_mem member
  obtain ⟨access, single, -⟩ := accessView_of_settled uploadable inBlocks (all _ inBlocks)
  rw [single, List.mem_singleton] at member
  subst member
  have whole : WholeBlocks m.blocks := by
    intro views inside
    obtain ⟨other, same, -⟩ := accessView_of_settled uploadable inside (all views inside)
    exact Or.inr ⟨other, same⟩
  rw [toRemote_eq accepted whole] at isRemote
  cases isRemote
  obtain ⟨last, finished, rerun, moved, -, succeeds⟩ :=
    @uploadBlocks_spec (fun _ => .ok .ok) s m.blocks checked
  rw [run] at rerun
  cases rerun
  have listed : access ∈ accesses m.blocks :=
    List.mem_filterMap.mpr ⟨accessView access,
      List.mem_flatten.mpr ⟨_, inBlocks, by simp [single]⟩, rfl⟩
  rcases moved.fromChunks _ (done (succeeds accepts) access listed) with before | ⟨c, known, same⟩
  · rw [unsent.uploaded] at before
    simp at before
  · have name : (accessView access).id = c := by
      have uuids := congrArg BlockID.uuid same
      cases c
      exact congrArg ChunkID.mk uuids
    rw [name]
    exact known

section Back
variable {id : ChunkID} {i : Nat} {operation : ReshapeBlockOperation} {buf : List Byte}
  {update : FileUpdate} (unsent : Unsent s)
  (reshaped : Reshaped fromData s.getChunkOrBlockLocalOnly id m i operation buf update)
  (known : ChunksKnown update.manifest { s with chunks := update.transaction s.chunks })
include reshaped known

theorem not_removed {k : Nat} (other : k ≠ i) {v : ChunkView} (member : v ∈ slot m.blocks k) :
    v.id ∉ operation.cleanupIds := by
  intro removed
  have slots := slot_reshaped reshaped k
  rw [if_neg other] at slots
  apply chunksKnown_iff.mp known k v (slots ▸ member)
  simp only [lookup_transaction reshaped, if_pos removed]

include unsent in
theorem known_before (fresh : id ∉ chunkIds m) : ChunksKnown m s := by
  apply chunksKnown_iff.mpr
  intro k v member
  have read : ∀ w ∈ slot m.blocks i, s.chunks w.id ≠ none := by
    intro w inSlot
    have there := reshaped.read w inSlot
    rw [unsent.found] at there
    exact there
  by_cases here : k = i
  · exact read v (here ▸ member)
  · have slots := slot_reshaped reshaped k
    rw [if_neg here] at slots
    have after := chunksKnown_iff.mp known k v (slots ▸ member)
    simp only [lookup_transaction reshaped, if_neg (not_removed reshaped known here member)] at after
    by_cases same : v.id = operation.destination.id
    · rcases tryReshape_kind reshaped.tried reshaped.reshapes with ⟨-, dest, -⟩ | ⟨single, -, -⟩
      · rw [dest] at same
        exact absurd (same ▸ slot_id_mem member) fresh
      · rw [same]
        exact read operation.destination (by simp [single])
    · rw [if_neg same] at after
      exact after

theorem uploadable_before (after : Uploadable update.manifest) : Uploadable m := by
  have slots := slot_reshaped reshaped
  refine ⟨?_, ?_, ?_⟩
  · intro views member
    obtain ⟨k, inside, rfl⟩ := slot_mem_iff.mp member
    by_cases here : k = i
    · obtain ⟨v, rest, same, -⟩ := reshaped.reshapes.first
      rw [here, same]
      exact List.cons_ne_nil v rest
    · have unchanged := slots k
      rw [if_neg here] at unchanged
      apply after.filled
      exact slot_mem_iff.mpr ⟨k, by simpa [reshaped.manifest] using inside, unchanged⟩
  · intro k v access single isBlock
    by_cases here : k = i
    · have isReshaped : NoReshape (slot m.blocks i) :=
        Or.inr ⟨v, here ▸ single, by simp [ChunkView.isBlock, isBlock]⟩
      exact absurd isReshaped (not_noReshape reshaped.tried)
    · have same := slots k
      rw [if_neg here, single] at same
      exact after.named k v access same isBlock
  · intro a b v w inA inB same flat
    by_contra apart
    by_cases first : a = i
    · -- the flattened views give up the chunk that the other slot uses
      rw [first] at inA flat
      have other : b ≠ i := fun there => apart (first.trans there.symm)
      rcases tryReshape_kind reshaped.tried reshaped.reshapes with ⟨-, -, cleanup⟩ |
        ⟨single, aligned, -⟩
      · apply not_removed reshaped known other inB
        rw [cleanup]
        exact mem_viewIds.mpr ⟨v, inA, same⟩
      · rw [flat.2 _ single] at aligned
        cases aligned
    · have unchanged := slots a
      rw [if_neg first] at unchanged
      by_cases second : b = i
      · rw [second] at inB
        rcases tryReshape_kind reshaped.tried reshaped.reshapes with ⟨-, -, cleanup⟩ |
          ⟨single, -, -⟩
        · apply not_removed reshaped known first inA
          rw [cleanup]
          exact mem_viewIds.mpr ⟨w, inB, same.symm⟩
        · rw [single, List.mem_singleton] at inB
          have promoted := slots i
          rw [if_pos rfl] at promoted
          apply apart
          rw [second]
          apply after.apart a i v (operation.destination.promoted (fromData buf))
          · rw [unchanged]
            exact inA
          · rw [promoted]
            exact List.mem_singleton.mpr rfl
          · rw [same, inB]
            rfl
          · rw [unchanged]
            exact flat
      · have others := slots b
        rw [if_neg second] at others
        exact apart (after.apart a b v w (unchanged ▸ inA) (others ▸ inB) same (unchanged ▸ flat))

end Back

/-- By induction on the slots to reshape: in the end what is uploaded was among the chunks, and
    each operation has kept the chunks of the other slots. -/
theorem uploadable_of_advances (accepted : m.checkDataIntegrity = .ok (.ok ())) (unsent : Unsent s)
    (advances : ∀ m' s', Runs.Run (ReshapeStep fromData) (fun _ _ => True) (m, s) (m', s') →
      Advances fromData m' s') : Uploadable m ∧ ChunksKnown m s := by
  induction left : unsettledSlots m using Nat.strong_induction_on generalizing m s with
  | h slots earlier =>
    obtain ⟨id, fresh⟩ := fresh_chunkId m
    have layout := ((checkDataIntegrity_ok_iff m).mp accepted).2
    obtain ⟨next, run, fewer, last⟩ :=
      advances m s .start s.getChunkOrBlockLocalOnly id (fun _ _ found => found) fresh
    rcases doNext_cases layout run with ⟨rfl, all⟩ | ⟨i, operation, buf, update, rfl, reshaped⟩
    · exact known_of_uploadsAll accepted unsent (last rfl) all
    · have step : ReshapeStep fromData (m, s) ()
          (update.manifest, { s with chunks := update.transaction s.chunks }) :=
        .step (fun _ _ found => found) fresh run
      have after := earlier _ (left ▸ fewer update rfl) (accepted_reshaped accepted reshaped)
        (s := { s with chunks := update.transaction s.chunks }) ⟨unsent.blocks, unsent.uploaded⟩
        (fun m' s' rest => advances m' s' ((Runs.Run.start.step trivial step).append rest)) rfl
      exact ⟨uploadable_before reshaped after.2 after.1, known_before unsent reshaped after.2 fresh⟩

/-- The storage with the same data where all of it is in chunks. -/
def asChunks (s : UploadStorage) : UploadStorage where
  chunks := fun id => some ((s.getChunkOrBlockLocalOnly id).getD [])
  blocks := ChunkStore.empty
  uploaded := ∅

theorem hasChunks_asChunks (has : HasChunks s m) : HasChunks (asChunks s) m := by
  constructor
  · intro i unsettled v member
    obtain ⟨data, there, length⟩ := has.data i unsettled v member
    have same : (asChunks s).chunks v.id = some data := by simp only [asChunks, there, Option.getD_some]
    exact ⟨data, by simp [UploadStorage.getChunkOrBlockLocalOnly, same], length⟩
  · intro i v single isBlock missing
    cases missing

theorem uploadable_of_uploads (accepted : m.checkDataIntegrity = .ok (.ok ()))
    (has : HasChunks s m) (uploads : Uploads fromData m) : Uploadable m := by
  have unsent : Unsent (asChunks s) := ⟨fun _ => rfl, rfl⟩
  exact (uploadable_of_advances accepted unsent (uploads _ (hasChunks_asChunks has))).1

end Needed

/-- A file whose chunks can be stored is uploaded without a failed assertion exactly when it has no
    hole of a slot, its blocks are named after their chunks, and what is flattened is not shared. -/
theorem upload_succeeds_iff (fromData : List Byte → HashDigest) (m : LocalFileManifest)
    (accepted : m.checkDataIntegrity = .ok (.ok ())) (stored : ∃ s, HasChunks s m) :
    Uploads fromData m ↔ Uploadable m := by
  constructor
  · intro uploads
    obtain ⟨s, has⟩ := stored
    exact uploadable_of_uploads accepted has uploads
  · exact uploads_of_uploadable accepted

/-- An empty file after a write of one byte past so many slots. -/
def oneByteFile (slots : Nat) : LocalFileManifest :=
  { (newFile ⟨1⟩ ⟨2⟩ ⟨3⟩ 0 smallestBlocksize).manifest with
    size := 8 * slots + 1
    updated := 5
    blocks := List.replicate slots [] ++
      [[⟨⟨10⟩, 8 * slots, 8 * slots + 1, 8 * slots, 1, none⟩]] }

def oneByteStorage : UploadStorage where
  chunks := fun _ => some [7]
  blocks := ChunkStore.empty
  uploaded := ∅

theorem oneByte_hasChunks {slots : Nat} : HasChunks oneByteStorage (oneByteFile slots) := by
  constructor
  · intro i _ v member
    have inBlocks := slot_member member
    simp only [oneByteFile, List.flatten_append, List.flatten_replicate_nil, List.nil_append,
      List.flatten_cons, List.flatten_nil, List.append_nil, List.mem_singleton] at inBlocks
    exact ⟨[7], rfl, by simp [inBlocks]⟩
  · intro i v _ _ missing
    cases missing

theorem oneByte_uploadable : Uploadable (oneByteFile 0) := by
  have single : slot (oneByteFile 0).blocks 0 = [⟨⟨10⟩, 0, 1, 0, 1, none⟩] := rfl
  have first : ∀ {i v}, v ∈ slot (oneByteFile 0).blocks i → i = 0 := by
    intro i v member
    have inside : i < 1 := slot_inside (List.ne_nil_of_mem member)
    omega
  refine ⟨by decide, ?_, ?_⟩
  · intro i v access isSlot isBlock
    obtain rfl := first (show v ∈ slot (oneByteFile 0).blocks i by simp [isSlot])
    rw [single] at isSlot
    cases isSlot
    cases isBlock
  · intro i j v w inI inJ _ _
    rw [first inI, first inJ]

theorem upload_succeeds_iff_oneByte : Uploads noDigest (oneByteFile 0) :=
  (upload_succeeds_iff noDigest (oneByteFile 0) (by decide) ⟨_, oneByte_hasChunks⟩).mpr
    oneByte_uploadable

/-- A write past the end leaves an empty slot, which fails the upload. -/
theorem writtenPastEnd_not_uploaded :
    (∃ operations, prepareWrite (newFile ⟨1⟩ ⟨2⟩ ⟨3⟩ 0 smallestBlocksize).manifest 1 8 5
        (fun i => ⟨9 + i⟩) = .ok (oneByteFile 1, operations, ∅)) ∧
      (oneByteFile 1).checkDataIntegrity = .ok (.ok ()) ∧
      HasChunks oneByteStorage (oneByteFile 1) ∧ ¬ Uploads noDigest (oneByteFile 1) := by
  refine ⟨⟨_, rfl⟩, by decide, oneByte_hasChunks, ?_⟩
  intro uploads
  have uploadable := uploadable_of_uploads (by decide) oneByte_hasChunks uploads
  exact uploadable.filled [] (by decide) rfl

end ParsecCloud
