import ParsecCloud.File.Runs

/- From remote manifests to local ones, and the manifests that can be reached from there. -/
namespace ParsecCloud
open Rust OrderedSegments

def accessView (access : BlockAccess) : ChunkView :=
  ⟨ChunkID.ofBlockID access.id, access.offset, access.offset + access.size, access.offset,
    access.size, some access⟩

/-- The block span that holds each block ends below 2^64. The check of the local manifest
    computes that end, the check of the remote one does not. -/
def SpansFit (remote : FileManifest) : Prop :=
  ∀ b ∈ remote.blocks, (b.offset / remote.blocksize.inner + 1) * remote.blocksize.inner < u64Limit

instance (remote : FileManifest) : Decidable (SpansFit remote) :=
  inferInstanceAs (Decidable (∀ b ∈ remote.blocks, _))

section FromRemote
variable {blocksize size : Nat}

/-- Views that each stand in a block span of their own, from span number n on. -/
def Spaced (blocksize size : Nat) : Nat → List ChunkView → Prop
  | _, [] => True
  | n, v :: rest => n ≤ v.start / blocksize ∧ v.Valid ∧ v.stop ≤ (v.start / blocksize + 1) * blocksize ∧
      v.stop ≤ size ∧ (v.start / blocksize + 1) * blocksize < u64Limit ∧
      Spaced blocksize size (v.start / blocksize + 1) rest

theorem pushView_append {blocks : List (List ChunkView)} {v : ChunkView}
    (past : blocks.length ≤ v.start / blocksize) :
    LocalFileManifest.pushView blocksize blocks v =
      blocks ++ List.replicate (v.start / blocksize - blocks.length) [] ++ [[v]] := by
  have padded : LocalFileManifest.padBlocks blocks (v.start / blocksize) =
      blocks ++ List.replicate (v.start / blocksize - blocks.length) [] ++ [[]] := by
    rw [LocalFileManifest.padBlocks,
      show v.start / blocksize + 1 - blocks.length = v.start / blocksize - blocks.length + 1 by omega,
      List.replicate_succ', List.append_assoc]
  have length : (blocks ++ List.replicate (v.start / blocksize - blocks.length) []).length =
      v.start / blocksize := by
    simp
    omega
  have empty : (blocks ++ List.replicate (v.start / blocksize - blocks.length) [] ++ [[]]).getD
      (v.start / blocksize) [] = ([] : List ChunkView) := by
    rw [List.getD_eq_getElem?_getD, List.getElem?_append_right (by omega)]
    simp [length]
  unfold LocalFileManifest.pushView
  dsimp only
  rw [padded, empty, List.set_append_right _ _ (by omega), length]
  simp

theorem pushView_layout {blocks : List (List ChunkView)} {v : ChunkView}
    (layout : Layout blocksize size blocks) (past : blocks.length ≤ v.start / blocksize)
    (valid : v.Valid) (span : v.stop ≤ (v.start / blocksize + 1) * blocksize)
    (within : v.stop ≤ size) (fits : (v.start / blocksize + 1) * blocksize < u64Limit) :
    Layout blocksize size (LocalFileManifest.pushView blocksize blocks v) ∧
      (LocalFileManifest.pushView blocksize blocks v).length = v.start / blocksize + 1 ∧
      (LocalFileManifest.pushView blocksize blocks v).flatten = blocks.flatten ++ [v] := by
  have begins : v.start / blocksize * blocksize ≤ v.start := Nat.div_mul_le_self _ _
  have length : (LocalFileManifest.pushView blocksize blocks v).length = v.start / blocksize + 1 := by
    rw [pushView_append past]
    simp
    omega
  have slots : ∀ i, slot (LocalFileManifest.pushView blocksize blocks v) i =
      if i = v.start / blocksize then [v] else slot blocks i := by
    intro i
    have here : (LocalFileManifest.padBlocks blocks (v.start / blocksize)).getD (v.start / blocksize) []
        = ([] : List ChunkView) := by
      rw [LocalFileManifest.padBlocks, List.getD_eq_getElem?_getD,
        List.getElem?_append_right past, List.getElem?_replicate]
      split <;> rfl
    unfold LocalFileManifest.pushView
    dsimp only
    rw [here, slot_set_pad]
    rfl
  refine ⟨⟨?_, ?_, ?_, ?_⟩, length, ?_⟩
  · intro i
    rw [slots]
    split
    · rename_i here
      subst i
      exact ⟨⟨begins, Nat.le_of_lt valid.inside, span⟩, by simpa using valid⟩
    · exact layout.slots i
  · rw [pushView_append past]
    simp
  · intro i w member
    rw [slots] at member
    split at member
    · rw [List.mem_singleton.mp member]
      exact within
    · exact layout.within i w member
  · rw [length]
    exact fits
  · rw [pushView_append past]
    simp

theorem pushViews_layout {blocks : List (List ChunkView)} {views : List ChunkView}
    (layout : Layout blocksize size blocks)
    (spaced : Spaced blocksize size blocks.length views) :
    Layout blocksize size (views.foldl (LocalFileManifest.pushView blocksize) blocks) ∧
      (views.foldl (LocalFileManifest.pushView blocksize) blocks).flatten =
        blocks.flatten ++ views := by
  induction views generalizing blocks with
  | nil => exact ⟨layout, by simp⟩
  | cons v rest ih =>
    obtain ⟨past, valid, span, within, fits, others⟩ := spaced
    obtain ⟨next, length, flat⟩ := pushView_layout layout past valid span within fits
    rw [← length] at others
    obtain ⟨final, all⟩ := ih next others
    refine ⟨final, ?_⟩
    rw [List.foldl_cons, all, flat]
    simp

/-- What the checks of the blocks of a remote manifest promise about the views over them. -/
theorem checkBlocks_spaced (size : Nat) {offset index last : Nat} {blocks : List BlockAccess}
    (positive : 0 < blocksize)
    (ok : FileManifest.checkBlocks blocksize offset index blocks = .ok (.ok last))
    (fits : ∀ b ∈ blocks, (b.offset / blocksize + 1) * blocksize < u64Limit) :
    offset ≤ last ∧ (last ≤ size → Spaced blocksize size index (blocks.map accessView)) ∧
      ∀ b ∈ blocks, b.offset + b.size < u64Limit := by
  induction blocks generalizing offset index with
  | nil =>
    cases ok
    exact ⟨Nat.le_refl _, fun _ => trivial, by simp⟩
  | cons b rest ih =>
    simp only [FileManifest.checkBlocks, FileManifest.integrityError] at ok
    split at ok
    · cases ok
    rename_i order
    obtain ⟨stop, sum, ok⟩ := bind_eq_ok.mp ok
    obtain ⟨small, rfl⟩ := add_eq_ok.mp sum
    split at ok
    · cases ok
    rename_i apart
    split at ok
    · cases ok
    rename_i whole
    obtain ⟨after, spaced, others⟩ := ih ok fun c mc => fits c (by simp [mc])
    have size' := b.positive
    have span : b.offset + b.size ≤ (b.offset / blocksize + 1) * blocksize := by
      have inside := (Nat.div_lt_iff_lt_mul positive).mp
        (show (b.offset + b.size - 1) / blocksize < b.offset / blocksize + 1 by omega)
      omega
    refine ⟨by omega, ?_, ?_⟩
    · intro within
      have valid : (accessView b).Valid :=
        ⟨Nat.le_refl _, by simp only [accessView]; omega, Nat.le_refl _, small⟩
      refine ⟨?_, valid, span, ?_, fits b (by simp), spaced within⟩
      · exact Nat.le_of_not_lt apart
      · simp only [accessView]
        omega
    · simpa using ⟨small, others⟩

theorem fromBlockAccess_eq {access : BlockAccess} (fits : access.offset + access.size < u64Limit) :
    ChunkView.fromBlockAccess access = .ok (accessView access) := by
  have := access.positive
  unfold ChunkView.fromBlockAccess
  rw [add_ok fits, ok_bind, nonZero_ok (by omega), ok_bind]
  rfl

/-- An accepted remote manifest becomes a local one with a view over each of its blocks. -/
theorem fromRemote_spec (remote : FileManifest)
    (accepted : remote.checkDataIntegrity = .ok (.ok ())) (fits : SpansFit remote) :
    ∃ blocks, LocalFileManifest.fromRemote remote = .ok
        { base := remote, parent := remote.parent, needSync := false, updated := remote.updated
          size := remote.size, blocksize := remote.blocksize, blocks := blocks } ∧
      blocks.flatten = remote.blocks.map accessView := by
  have positive := blocksize_positive remote.blocksize
  unfold FileManifest.checkDataIntegrity FileManifest.integrityError at accepted
  split at accepted
  · cases accepted
  rename_i root
  obtain ⟨outcome, check, accepted⟩ := bind_eq_ok.mp accepted
  cases outcome with
  | error e => cases accepted
  | ok last =>
    dsimp only at accepted
    split at accepted
    · cases accepted
    rename_i bound
    obtain ⟨-, spaced, small⟩ := checkBlocks_spaced remote.size positive check fits
    have empty : Layout remote.blocksize.inner remote.size [] := by
      refine ⟨?_, by simp, by simp [slot], by simp [u64Limit]⟩
      intro i
      exact ⟨Nat.mul_le_mul_right _ (by omega), by simp [slot]⟩
    obtain ⟨layout, flat⟩ := pushViews_layout empty (spaced (by omega))
    refine ⟨_, ?_, flat⟩
    unfold LocalFileManifest.fromRemote
    rw [mapM_ok fun b mb => fromBlockAccess_eq (small b mb), ok_bind]
    dsimp only
    rw [(checkDataIntegrity_ok_iff _).mpr ⟨root, layout⟩]
    rfl

end FromRemote

section Named

/-- A view that refers to a block access refers to the block of its own chunk. -/
def Named (v : ChunkView) : Prop := ∀ access, v.access = some access → access.id = BlockID.ofChunkID v.id

def AllNamed (blocks : List (List ChunkView)) : Prop := ∀ views ∈ blocks, ∀ v ∈ views, Named v

theorem slot_named {blocks : List (List ChunkView)} (named : AllNamed blocks) (i : Nat) :
    ∀ v ∈ slot blocks i, Named v := by
  intro v member
  obtain ⟨views, inside, member⟩ := List.mem_flatten.mp (slot_member member)
  exact named views inside v member

theorem mem_getRange {views : List ChunkView} {first last : Nat} {v : ChunkView}
    (member : v ∈ getRange views first last) : v ∈ views := by
  unfold getRange at member
  split at member
  · exact List.mem_of_mem_take (List.mem_of_mem_drop member)
  · cases member

theorem expectSome_mem {message : String} {views : List ChunkView} {i : Nat} {v : ChunkView}
    (ok : expectSome message views[i]? = .ok v) : v ∈ views := by
  cases found : views[i]? with
  | none =>
    rw [found] at ok
    cases ok
  | some w =>
    rw [found] at ok
    cases ok
    exact List.mem_of_getElem? found

theorem testStartChunk_named {views newViews out : List ChunkView} {first start : Nat}
    {ids removed : Finset ChunkID} (named : ∀ v ∈ views, Named v) (new : ∀ v ∈ newViews, Named v)
    (ok : testStartChunk views first start newViews ids = .ok (out, removed)) :
    ∀ v ∈ out, Named v := by
  unfold testStartChunk at ok
  obtain ⟨w, found, ok⟩ := bind_eq_ok.mp ok
  split at ok
  · obtain ⟨n, -, ok⟩ := bind_eq_ok.mp ok
    cases ok
    intro v member
    rcases List.mem_append.mp member with member | member
    · exact new v member
    · rw [List.mem_singleton.mp member]
      exact named w (expectSome_mem found)
  · cases ok
    exact new

theorem testStopChunk_named {views newViews out : List ChunkView} {last stop : Nat}
    {ids removed : Finset ChunkID} (named : ∀ v ∈ views, Named v) (new : ∀ v ∈ newViews, Named v)
    (ok : testStopChunk views last stop newViews ids = .ok (out, removed)) :
    ∀ v ∈ out, Named v := by
  unfold testStopChunk at ok
  split at ok
  · obtain ⟨w, found, ok⟩ := bind_eq_ok.mp ok
    split at ok
    · cases ok
      intro v member
      rcases List.mem_append.mp member with member | member
      · exact new v member
      · rw [List.mem_singleton.mp member]
        exact named w (expectSome_mem found)
    · cases ok
      exact new
  · cases ok
    exact new

theorem blockWrite_named {views out : List ChunkView} {size start : Nat} {newView : ChunkView}
    {removed : Finset ChunkID} (named : ∀ v ∈ views, Named v) (new : Named newView)
    (ok : blockWrite views size start newView = .ok (out, removed)) : ∀ v ∈ out, Named v := by
  unfold blockWrite at ok
  obtain ⟨stop, -, ok⟩ := bind_eq_ok.mp ok
  split at ok
  · cases ok
    simpa using new
  dsimp only at ok
  obtain ⟨⟨viewsA, removedA⟩, first, ok⟩ := bind_eq_ok.mp ok
  obtain ⟨⟨viewsB, removedB⟩, second, ok⟩ := bind_eq_ok.mp ok
  cases ok
  have namedA := testStartChunk_named named (fun v member => named v (mem_getRange member)) first
  have namedB := testStopChunk_named named (fun v member => by
    rcases List.mem_append.mp member with member | member
    · exact namedA v member
    · rw [List.mem_singleton.mp member]
      exact new) second
  intro v member
  rcases List.mem_append.mp member with member | member
  · exact namedB v member
  · exact named v (mem_getRange member)

theorem set_named {blocks : List (List ChunkView)} {views : List ChunkView} (i : Nat)
    (named : AllNamed blocks) (new : ∀ v ∈ views, Named v) : AllNamed (blocks.set i views) := by
  intro other member
  rcases List.mem_or_eq_of_mem_set member with member | rfl
  · exact named other member
  · exact new

theorem pad_named {blocks : List (List ChunkView)} (i : Nat) (named : AllNamed blocks) :
    AllNamed (LocalFileManifest.padBlocks blocks i) := by
  intro views member
  rcases List.mem_append.mp member with member | member
  · exact named views member
  · rw [List.eq_of_mem_replicate member]
    simp

theorem new_named {id : ChunkID} {start stop : Nat} {v : ChunkView}
    (ok : ChunkView.new id start stop = .ok v) : Named v := by
  unfold ChunkView.new at ok
  obtain ⟨size, -, ok⟩ := bind_eq_ok.mp ok
  obtain ⟨rawSize, -, ok⟩ := bind_eq_ok.mp ok
  obtain ⟨outcome, -, ok⟩ := bind_eq_ok.mp ok
  split at ok
  · cases ok
    intro access none
    cases none
  · cases ok

theorem writeBlock_named {blocksize size offset block : Nat} {ids : Nat → ChunkID}
    {state state' : WriteState} (named : AllNamed state.blocks)
    (ok : prepareWriteBlock blocksize size offset ids state block = .ok state') :
    AllNamed state'.blocks := by
  unfold prepareWriteBlock at ok
  obtain ⟨blockStart, -, ok⟩ := bind_eq_ok.mp ok
  obtain ⟨rangeStop, -, ok⟩ := bind_eq_ok.mp ok
  obtain ⟨blockStop, -, ok⟩ := bind_eq_ok.mp ok
  obtain ⟨subSize, -, ok⟩ := bind_eq_ok.mp ok
  obtain ⟨contentOffset, -, ok⟩ := bind_eq_ok.mp ok
  obtain ⟨viewStop, -, ok⟩ := bind_eq_ok.mp ok
  obtain ⟨viewStop', -, ok⟩ := bind_eq_ok.mp ok
  obtain ⟨newView, new, ok⟩ := bind_eq_ok.mp ok
  dsimp only at ok
  split at ok
  · rename_i views found
    obtain ⟨⟨out, removed⟩, write, ok⟩ := bind_eq_ok.mp ok
    cases ok
    refine set_named block (pad_named block named) ?_
    exact blockWrite_named (named views (List.mem_of_getElem? found)) (new_named new) write
  · cases ok
    refine set_named block (pad_named block named) ?_
    simpa using new_named new

theorem write_named {m m' : LocalFileManifest} {size offset : Nat} {timestamp : DateTime}
    {ids : Nat → ChunkID} {operations : List WriteOperation} {removed : Finset ChunkID}
    (named : AllNamed m.blocks)
    (ok : prepareWrite m size offset timestamp ids = .ok (m', operations, removed)) :
    AllNamed m'.blocks ∧ m'.base = m.base := by
  unfold prepareWrite at ok
  split at ok
  · cases ok
    exact ⟨named, rfl⟩
  obtain ⟨rangeStop, -, ok⟩ := bind_eq_ok.mp ok
  obtain ⟨state, run, ok⟩ := bind_eq_ok.mp ok
  obtain ⟨newStop, -, ok⟩ := bind_eq_ok.mp ok
  cases ok
  refine ⟨foldlM_keeps (P := fun state : WriteState => AllNamed state.blocks) ?_ run named, rfl⟩
  intro state block next step kept
  exact writeBlock_named kept step

theorem resize_named {m m' : LocalFileManifest} {size : Nat} {timestamp : DateTime}
    {removed : Finset ChunkID} (named : AllNamed m.blocks)
    (ok : prepareResize m size timestamp = .ok (m', removed)) :
    AllNamed m'.blocks ∧ m'.base = m.base := by
  unfold prepareResize at ok
  split at ok
  · cases ok
    exact ⟨named, rfl⟩
  unfold prepareTruncate at ok
  split at ok
  · cases ok
    exact ⟨named, rfl⟩
  dsimp only at ok
  split at ok
  · cases ok
    refine ⟨?_, rfl⟩
    intro views member
    exact named views (List.mem_of_mem_take ((List.rdropWhile_prefix List.isEmpty _).subset member))
  · obtain ⟨_, -, ok⟩ := bind_eq_ok.mp ok
    obtain ⟨lastView, found, ok⟩ := bind_eq_ok.mp ok
    obtain ⟨_, -, ok⟩ := bind_eq_ok.mp ok
    cases ok
    refine ⟨?_, rfl⟩
    have inSlot : ∀ v ∈ (m.getChunks (size / m.blocksize.inner)).getD [], Named v := by
      rw [LocalFileManifest.getChunks, ← List.getD_eq_getElem?_getD]
      exact slot_named named _
    intro views member
    rcases List.mem_append.mp member with member | member
    · exact named views (List.mem_of_mem_take member)
    · rw [List.mem_singleton.mp member]
      intro v inside
      rcases List.mem_append.mp inside with inside | inside
      · exact inSlot v (mem_getRange inside)
      · rw [List.mem_singleton.mp inside]
        exact inSlot lastView (expectSome_mem found)

theorem promote_named {fromData : List Byte → HashDigest} {v w : ChunkView} {data : List Byte}
    (ok : v.promoteAsBlock fromData data = .ok (.ok w)) : Named w := by
  unfold ChunkView.promoteAsBlock at ok
  split at ok
  · cases ok
  split at ok
  · cases ok
  obtain ⟨size, -, ok⟩ := bind_eq_ok.mp ok
  split at ok
  · cases ok
    intro access same
    cases same
    rfl
  · cases ok

theorem commit_named {fromData : List Byte → HashDigest} {m m' : LocalFileManifest} {i : Nat}
    {operation : ReshapeBlockOperation} {data : List Byte}
    (ok : commitReshape fromData m i operation data = .ok m') (named : AllNamed m.blocks) :
    AllNamed m'.blocks ∧ m'.base = m.base := by
  unfold commitReshape at ok
  obtain ⟨views, commit, ok⟩ := bind_eq_ok.mp ok
  cases ok
  refine ⟨set_named i named ?_, rfl⟩
  unfold ReshapeBlockOperation.commit at commit
  obtain ⟨outcome, promote, commit⟩ := bind_eq_ok.mp commit
  split at commit
  · cases commit
    simpa using promote_named promote
  · cases commit

/-- The manifests that writes, resizes, reshapes and changes of parent make of a remote one. -/
inductive Reachable (fromData : List Byte → HashDigest) (base : FileManifest) :
    LocalFileManifest → Prop where
  | fromRemote {m} : LocalFileManifest.fromRemote base = .ok m → Reachable fromData base m
  | write {m m' size offset timestamp ids operations removed} : Reachable fromData base m →
      prepareWrite m size offset timestamp ids = .ok (m', operations, removed) →
      Reachable fromData base m'
  | resize {m m' size timestamp removed} : Reachable fromData base m →
      prepareResize m size timestamp = .ok (m', removed) → Reachable fromData base m'
  | reshape {m m' ids plan operations} : Reachable fromData base m →
      prepareReshape m ids = .ok plan → List.Sublist (operations.map Prod.fst) plan →
      commitAll fromData m operations = .ok m' → Reachable fromData base m'
  | reparent {m} (parent : VlobID) (timestamp : DateTime) : Reachable fromData base m →
      Reachable fromData base { m with parent := parent, needSync := true, updated := timestamp }

theorem fromBlockAccess_named {access : BlockAccess} {v : ChunkView}
    (ok : ChunkView.fromBlockAccess access = .ok v) : Named v := by
  unfold ChunkView.fromBlockAccess at ok
  obtain ⟨stop, -, ok⟩ := bind_eq_ok.mp ok
  obtain ⟨stop', -, ok⟩ := bind_eq_ok.mp ok
  cases ok
  intro other same
  cases same
  rfl

theorem pushViews_named {blocksize : Nat} {views : List ChunkView} {blocks : List (List ChunkView)}
    (new : ∀ v ∈ views, Named v) (named : AllNamed blocks) :
    AllNamed (views.foldl (LocalFileManifest.pushView blocksize) blocks) := by
  induction views generalizing blocks with
  | nil => exact named
  | cons v rest ih =>
    refine ih (fun w mw => new w (by simp [mw])) (set_named _ (pad_named _ named) ?_)
    intro w member
    rcases List.mem_append.mp member with member | member
    · exact slot_named (pad_named _ named) _ w member
    · rw [List.mem_singleton.mp member]
      exact new v (by simp)

theorem fromRemote_named {remote : FileManifest} {m : LocalFileManifest}
    (ok : LocalFileManifest.fromRemote remote = .ok m) : AllNamed m.blocks ∧ m.base = remote := by
  unfold LocalFileManifest.fromRemote at ok
  obtain ⟨views, access, ok⟩ := bind_eq_ok.mp ok
  obtain ⟨outcome, -, ok⟩ := bind_eq_ok.mp ok
  split at ok
  · cases ok
    refine ⟨pushViews_named ?_ (by simp [AllNamed]), rfl⟩
    intro v member
    obtain ⟨b, -, built⟩ := mem_mapM access member
    exact fromBlockAccess_named built
  · cases ok

theorem reachable_named {fromData : List Byte → HashDigest} {base : FileManifest}
    {m : LocalFileManifest} (reachable : Reachable fromData base m) :
    AllNamed m.blocks ∧ m.base = base := by
  induction reachable with
  | fromRemote ok => exact fromRemote_named ok
  | write _ ok ih => exact ⟨(write_named ih.1 ok).1, (write_named ih.1 ok).2.trans ih.2⟩
  | resize _ ok ih => exact ⟨(resize_named ih.1 ok).1, (resize_named ih.1 ok).2.trans ih.2⟩
  | reshape _ _ _ ok ih =>
    refine foldlM_keeps (P := fun m : LocalFileManifest => AllNamed m.blocks ∧ m.base = base) ?_ ok ih
    intro m p m' step kept
    exact ⟨(commit_named step kept.1).1, (commit_named step kept.1).2.trans kept.2⟩
  | reparent _ _ _ ih => exact ih

end Named

end ParsecCloud
