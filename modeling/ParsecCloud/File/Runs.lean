import ParsecCloud.File.Refinement

/- Resizing and reshaping refine the plain array too, and so does any run of operations on a
   new file. -/
namespace ParsecCloud
open Rust OrderedSegments Ownership

section Resize
variable {s : FileState}

theorem removeAll_update (removed : Finset ChunkID) (store : ChunkStore) :
    StoreUpdate (fun _ => none) removed store (store.removeAll removed) := by
  refine ⟨by simp, ?_, ?_⟩
  · intro id stays _
    rw [ChunkStore.removeAll, if_neg stays]
  · intro id lost
    rw [ChunkStore.removeAll, if_pos lost]

theorem extend_refines {length : Nat} (timestamp : DateTime) (well : WellStored s)
    (larger : s.manifest.size ≤ length) (fits : length + s.manifest.blocksize.inner < u64Limit) :
    Refines ⟨{ s.manifest with needSync := true, size := length, updated := timestamp },
        s.store.removeAll ∅⟩
      (flatResize (contents s.store s.manifest.blocks.flatten 0 s.manifest.size) length) := by
  rw [ChunkStore.removeAll_empty]
  refine ⟨⟨⟨well.layout.slots, well.layout.last, ?_, well.layout.fits⟩, well.clean, well.stored,
    well.tight, fits⟩, (contents_resize (past_size well.layout) fun _ _ => rfl).symm⟩
  intro i v member
  exact Nat.le_trans (well.layout.within i v member) larger

theorem truncate_refines {length : Nat} {blocks : List (List ChunkView)} {removed : Finset ChunkID}
    (timestamp : DateTime) (well : WellStored s) (smaller : length < s.manifest.size)
    (result : TruncateResult s.manifest.blocksize.inner length s.manifest.blocks blocks removed) :
    Refines ⟨{ s.manifest with
        blocks := blocks, needSync := true, size := length, updated := timestamp },
        s.store.removeAll removed⟩
      (flatResize (contents s.store s.manifest.blocks.flatten 0 s.manifest.size) length) := by
  have layout := truncate_layout well.layout result
  have update := truncate_update well.clean well.layout result
  have stores := removeAll_update removed s.store
  have bounded := well.bounded
  refine ⟨wellStored_update well { s.manifest with
    blocks := blocks, needSync := true, size := length, updated := timestamp } layout
    (by simp only; omega) update stores, (contents_resize (past_size well.layout) ?_).symm⟩
  intro p inside
  refine byteIn_congr (layout_flatten well.layout) (layout_flatten layout) ?_ ?_
  · intro v mv covers
    obtain ⟨i, here⟩ := mem_flatten_iff_slot.mp mv
    rw [result.slots] at here
    obtain ⟨w, mw, -, rfl⟩ := mem_keptBefore.mp here
    obtain ⟨left, right⟩ := covers
    simp only [clipStop] at left right
    exact ⟨w, slot_member mw, ⟨left, by omega⟩,
      kept_byte update stores mv (slot_member mw) ⟨rfl, rfl, rfl⟩ p⟩
  · intro w mw covers
    obtain ⟨i, here⟩ := mem_flatten_iff_slot.mp mw
    obtain ⟨left, right⟩ := covers
    refine ⟨clipStop length w, mem_flatten_iff_slot.mpr ⟨i, ?_⟩, left, ?_⟩
    · rw [result.slots]
      exact mem_keptBefore.mpr ⟨w, here, by omega, rfl⟩
    · simp only [clipStop]
      omega

theorem resize_refines {length : Nat} {flat : List Byte} (timestamp : DateTime)
    (refines : Refines s flat) (allowed : FileOp.Allowed s (.resize length timestamp)) :
    ∃ s', s.resize length timestamp = .ok s' ∧ Refines s' (flatResize flat length) := by
  obtain ⟨well, rfl⟩ := refines
  unfold FileState.resize
  split
  · rename_i same
    refine ⟨s, rfl, well, ?_⟩
    rw [← same]
    exact (contents_resize (past_size well.layout) fun _ _ => rfl).symm
  · unfold prepareResize
    split
    · rename_i larger
      exact ⟨_, rfl, extend_refines timestamp well larger allowed⟩
    · rename_i smaller
      obtain ⟨blocks, removed, result, run⟩ := prepareTruncate_spec s.manifest length
        timestamp (by omega) well.layout.slots
      refine ⟨_, ?_, truncate_refines timestamp well (by omega) result⟩
      rw [run]
      rfl

end Resize

section Reshape
variable {s : FileState} {ids : Nat → ChunkID} {i : Nat} {operation : ReshapeBlockOperation}

/-- The data of the new block: what its views hold, from the first to the last of them. -/
def reshapeData (s : FileState) (operation : ReshapeBlockOperation) : List Byte :=
  contents s.store operation.source operation.destination.start
    (operation.destination.stop - operation.destination.start)

theorem reshape_copy (well : WellStored s)
    (reshapes : Reshapes (ids i) (slot s.manifest.blocks i) operation) :
    copyViews s.store operation.destination.start operation.source =
      .ok (reshapeData s operation, operation.destination.stop - operation.destination.start) := by
  obtain ⟨v, rest, views, start⟩ := reshapes.first
  have ok := well.layout.slots i
  have stop := reshapes.last
  rw [reshapeData, reshapes.source]
  rw [views] at ok stop ⊢
  have ordered : OrderedViews v.start ((i + 1) * s.manifest.blocksize.inner) (v :: rest) :=
    ⟨Nat.le_refl _, ok.ordered.2⟩
  rw [start, copyViews_eq ordered, stop]
  · rfl
  · intro w mw
    exact valid_readable (ok.valid w mw)
  · intro w mw
    exact well.stored w (slot_member (views ▸ mw))

def reshapeStore (s : FileState) (operation : ReshapeBlockOperation) : ChunkStore :=
  (if operation.writeBack then
      s.store.insert operation.destination.id (reshapeData s operation)
    else s.store).removeAll operation.cleanupIds

theorem reshapeBlock_eq (fromData : List Byte → HashDigest) (well : WellStored s)
    (reshapes : Reshapes (ids i) (slot s.manifest.blocks i) operation) :
    s.reshapeBlock fromData (i, operation) = .ok ⟨{ s.manifest with
      blocks := s.manifest.blocks.set i
        [operation.destination.promoted (fromData (reshapeData s operation))] },
      reshapeStore s operation⟩ := by
  unfold FileState.reshapeBlock
  dsimp only
  rw [reshape_copy well reshapes, ok_bind]
  dsimp only
  rw [assert_eq_ok.mpr (by simp [reshapeData, contents_length]), ok_bind,
    commitReshape_ok fromData s.manifest _ reshapes]
  rfl

theorem reshapeStore_new (fresh : ids i ∉ chunkIds s.manifest)
    (reshapes : Reshapes (ids i) (slot s.manifest.blocks i) operation)
    (back : operation.writeBack = true) :
    reshapeStore s operation operation.destination.id = some (reshapeData s operation) := by
  rcases reshapes.kind with ⟨-, dest, cleanup⟩ | ⟨no, -, -⟩
  · have stays : operation.destination.id ∉ operation.cleanupIds := by
      rw [dest, cleanup]
      intro member
      obtain ⟨w, mw, same⟩ := mem_viewIds.mp member
      exact fresh (mem_viewIds.mpr ⟨w, slot_member mw, same⟩)
    simp [reshapeStore, ChunkStore.removeAll, ChunkStore.insert, stays, back]
  · rw [no] at back
    cases back

theorem reshape_store_update (digest : HashDigest) (fresh : ids i ∉ chunkIds s.manifest)
    (reshapes : Reshapes (ids i) (slot s.manifest.blocks i) operation) :
    StoreUpdate (reshapeAdded operation digest i) operation.cleanupIds s.store
      (reshapeStore s operation) := by
  refine ⟨?_, ?_, ?_⟩
  · intro k v isNew
    simp only [reshapeAdded] at isNew
    split at isNew
    · rename_i back
      cases isNew
      refine ⟨reshapeData s operation, reshapeStore_new fresh reshapes back.1, ?_⟩
      have := (ChunkView.aligned_iff _).mp reshapes.aligned
      simp only [reshapeData, contents_length, ChunkView.promoted]
      omega
    · cases isNew
  · intro id kept others
    rw [reshapeStore, ChunkStore.removeAll, if_neg kept]
    split
    · rename_i back
      rw [ChunkStore.insert, if_neg]
      intro same
      exact others i (by simp [addedIds, reshapeAdded, back, ChunkView.promoted, same])
    · rfl
  · intro id lost
    rw [reshapeStore, ChunkStore.removeAll, if_pos lost]

theorem reshape_bytes (digest : HashDigest) (well : WellStored s)
    (fresh : ids i ∉ chunkIds s.manifest)
    (reshapes : Reshapes (ids i) (slot s.manifest.blocks i) operation) (p : Nat) :
    byteIn (reshapeStore s operation)
        (s.manifest.blocks.set i [operation.destination.promoted digest]).flatten p =
      byteIn s.store s.manifest.blocks.flatten p := by
  have layout := reshape_layout digest well.layout reshapes
  have update := reshape_update digest well.clean fresh reshapes
  have stores := reshape_store_update digest fresh reshapes
  have slots := fun k => slot_set s.manifest.blocks k [operation.destination.promoted digest]
    (reshapes_inside reshapes)
  have member : operation.destination.promoted digest ∈
      (s.manifest.blocks.set i [operation.destination.promoted digest]).flatten :=
    mem_flatten_iff_slot.mpr ⟨i, by simp [slots]⟩
  have kept : ∀ v w, v ∈ (s.manifest.blocks.set i [operation.destination.promoted digest]).flatten →
      w ∈ s.manifest.blocks.flatten → SameChunk w v →
      chunkByte (reshapeStore s operation) v p = chunkByte s.store w p := by
    intro v w mv mw part
    exact @kept_byte s { s.manifest with
      blocks := s.manifest.blocks.set i [operation.destination.promoted digest] }
      _ _ _ update stores v w mv mw part p
  obtain ⟨u, rest, views, start⟩ := reshapes.first
  have ok := well.layout.slots i
  -- the new view covers everything from the first old view of the slot to the last
  have span : ∀ w ∈ slot s.manifest.blocks i,
      operation.destination.start ≤ w.start ∧ w.stop ≤ operation.destination.stop := by
    intro w mw
    have ends := reshapes.last
    rw [views] at ok ends mw
    have order : OrderedViews u.start ((i + 1) * s.manifest.blocksize.inner) (u :: rest) :=
      ⟨Nat.le_refl _, ok.ordered.2⟩
    have := ordered_member (ordered_viewsEnd order).1 mw
    rw [start, ends]
    exact ⟨this.1, this.2.2⟩
  by_cases inside : operation.destination.start ≤ p ∧ p < operation.destination.stop
  · rw [byteIn_covered (layout_flatten layout) member ⟨inside.1, inside.2⟩]
    rcases reshapes.kind with ⟨back, -, -⟩ | ⟨-, single, -⟩
    · have block : chunkByte (reshapeStore s operation) (operation.destination.promoted digest) p =
          byteIn s.store (slot s.manifest.blocks i) p := by
        have raw := (ChunkView.aligned_iff _).mp reshapes.aligned
        have position : operation.destination.start + (p - operation.destination.rawOffset) = p := by
          omega
        rw [chunkByte]
        simp only [ChunkView.promoted]
        rw [reshapeStore_new fresh reshapes back, Option.getD_some, reshapeData,
          List.getD_eq_getElem?_getD, contents_getElem?, if_pos (by omega), Option.getD_some,
          position, reshapes.source]
      rw [block]
      refine byteIn_congr (layout_flatten well.layout) ok.ordered ?_ ?_
      · intro v mv covers
        exact ⟨v, slot_member mv, covers, rfl⟩
      · intro w mw covers
        refine ⟨w, ?_, covers⟩
        obtain ⟨k, mk⟩ := mem_flatten_iff_slot.mp mw
        -- a block holds only positions of its own span
        have here := reshaped_ok digest ok reshapes
        obtain ⟨low, -, high⟩ := ordered_member here.ordered (List.mem_singleton.mpr rfl)
        obtain ⟨low', -, high'⟩ := ordered_member (well.layout.slots k).ordered mk
        simp only [ChunkView.promoted] at low high
        have same : k = i := by
          have left := Nat.lt_of_le_of_lt (Nat.le_trans low inside.1)
            (Nat.lt_of_lt_of_le covers.2 high')
          have right := Nat.lt_of_le_of_lt (Nat.le_trans low' covers.1)
            (Nat.lt_of_lt_of_le inside.2 high)
          have := Nat.lt_of_mul_lt_mul_right left
          have := Nat.lt_of_mul_lt_mul_right right
          omega
        rw [← same]
        exact mk
    · have old : operation.destination ∈ s.manifest.blocks.flatten :=
        mem_flatten_iff_slot.mpr ⟨i, by simp [single]⟩
      rw [kept _ _ member old ⟨rfl, rfl, rfl⟩,
        byteIn_covered (layout_flatten well.layout) old ⟨inside.1, inside.2⟩]
  · refine byteIn_congr (layout_flatten well.layout) (layout_flatten layout) ?_ ?_
    · intro v mv covers
      obtain ⟨k, mk⟩ := mem_flatten_iff_slot.mp mv
      rw [slots] at mk
      split at mk
      · rw [List.mem_singleton.mp mk] at covers
        exact absurd ⟨covers.1, covers.2⟩ inside
      · exact ⟨v, slot_member mk, covers, kept v v mv (slot_member mk) ⟨rfl, rfl, rfl⟩⟩
    · intro w mw covers
      obtain ⟨k, mk⟩ := mem_flatten_iff_slot.mp mw
      have other : k ≠ i := by
        rintro rfl
        have := span w mk
        obtain ⟨left, right⟩ := covers
        omega
      exact ⟨w, mem_flatten_iff_slot.mpr ⟨k, by simp [slots, other, mk]⟩, covers⟩

theorem reshapeBlock_refines {flat : List Byte} (fromData : List Byte → HashDigest)
    (refines : Refines s flat) (fresh : ids i ∉ chunkIds s.manifest)
    (reshapes : Reshapes (ids i) (slot s.manifest.blocks i) operation) :
    ∃ s', s.reshapeBlock fromData (i, operation) = .ok s' ∧ Refines s' flat ∧
      (∀ k, k ≠ i → slot s'.manifest.blocks k = slot s.manifest.blocks k) ∧
      (∀ id ∈ chunkIds s'.manifest, id ∈ chunkIds s.manifest ∨ id = ids i) := by
  obtain ⟨well, rfl⟩ := refines
  have slots := fun k => slot_set s.manifest.blocks k
    [operation.destination.promoted (fromData (reshapeData s operation))] (reshapes_inside reshapes)
  have update := reshape_update (fromData (reshapeData s operation)) well.clean fresh reshapes
  refine ⟨_, reshapeBlock_eq fromData well reshapes, ⟨?_, ?_⟩, ?_, ?_⟩
  · exact wellStored_update well _ (reshape_layout _ well.layout reshapes) well.bounded update
      (reshape_store_update _ fresh reshapes)
  · exact (contents_congr fun p _ _ => reshape_bytes _ well fresh reshapes p).symm
  · intro k other
    rw [slots, if_neg other]
  · intro id member
    rw [← owned_slotIds] at member
    rcases ((update_owned update.ids id).mp member).1 with old | ⟨k, new⟩
    · exact Or.inl (owned_slotIds.mp old)
    · right
      rcases reshapes.kind with ⟨back, dest, -⟩ | ⟨back, -, -⟩
      · simp only [addedIds, reshapeAdded, back, Set.mem_ofPred_eq] at new
        split at new
        · cases new
          exact dest
        · cases new
      · simp [addedIds, reshapeAdded, back] at new

theorem reshape_refines {flat : List Byte} (fromData : List Byte → HashDigest)
    (refines : Refines s flat) (allowed : FileOp.Allowed s (.reshape ids)) :
    ∃ s', s.reshape fromData ids = .ok s' ∧ Refines s' flat := by
  obtain ⟨plan, run, planned⟩ := prepareReshape_spec s.manifest ids refines.wellStored.layout.slots
  unfold FileState.reshape
  rw [run, ok_bind]
  -- the slots still to do are as they were, and the identifiers drawn for them still unused
  obtain ⟨s', steps, final, -⟩ := foldlM_list (f := FileState.reshapeBlock fromData) (l := plan)
    (P := fun done t => Refines t flat ∧
      (∀ k, k ∉ done.map Prod.fst → slot t.manifest.blocks k = slot s.manifest.blocks k) ∧
      ∀ id ∈ chunkIds t.manifest, id ∈ chunkIds s.manifest ∨ ∃ k ∈ done.map Prod.fst, id = ids k)
    (s := s) ⟨refines, fun _ _ => rfl, fun id member => Or.inl member⟩ (by
      rintro done ⟨i, operation⟩ rest t split ⟨reached, untouched, taken⟩
      have distinct := planned.distinct
      rw [split, List.map_append, List.map_cons, List.pairwise_append] at distinct
      have later : ∀ k ∈ done.map Prod.fst, k < i :=
        fun k earlier => distinct.2.2 k earlier i (by simp)
      have inPlan : (i, operation) ∈ plan := by simp [split]
      have here := planned.reshapes i operation inPlan
      have inside := reshapes_inside here
      have outside : i ∉ done.map Prod.fst := fun earlier => Nat.lt_irrefl i (later i earlier)
      have fresh : ids i ∉ chunkIds t.manifest := by
        intro member
        rcases taken (ids i) member with old | ⟨k, earlier, same⟩
        · exact allowed.unused i inside old
        · have small := later k earlier
          have := allowed.distinct i k inside (Nat.lt_trans small inside) same
          omega
      rw [← untouched i outside] at here
      obtain ⟨t', step, next, others, ids'⟩ := reshapeBlock_refines fromData reached fresh here
      refine ⟨t', step, next, ?_, ?_⟩
      · intro k fromOut
        simp only [List.map_append, List.mem_append, not_or, List.map_cons, List.map_nil,
          List.mem_singleton] at fromOut
        rw [others k fromOut.2, untouched k fromOut.1]
      · intro id member
        rcases ids' id member with old | same
        · rcases taken id old with first | ⟨k, earlier, same⟩
          · exact Or.inl first
          · exact Or.inr ⟨k, by simp only [List.map_append, List.mem_append]; exact Or.inl earlier, same⟩
        · exact Or.inr ⟨i, by simp, same⟩)
  exact ⟨s', steps, final⟩

end Reshape

theorem apply_refines {s : FileState} {flat : List Byte} {op : FileOp}
    (fromData : List Byte → HashDigest) (refines : Refines s flat) (allowed : op.Allowed s) :
    ∃ s', op.apply fromData s = .ok s' ∧ Refines s' (op.flatApply flat) := by
  cases op with
  | write data offset timestamp ids => exact write_refines timestamp refines allowed
  | resize length timestamp => exact resize_refines timestamp refines allowed
  | reshape ids => exact reshape_refines fromData refines allowed

theorem run_refines {s : FileState} {flat : List Byte} (fromData : List Byte → HashDigest)
    (ops : List FileOp) (refines : Refines s flat) (admissible : FileOp.Admissible fromData s ops) :
    ∃ s', FileOp.run fromData s ops = .ok s' ∧ Refines s' (FileOp.flatRun flat ops) := by
  induction ops generalizing s flat with
  | nil => exact ⟨s, rfl, refines⟩
  | cons op rest ih =>
    obtain ⟨allowed, later⟩ := admissible
    obtain ⟨s', step, next⟩ := apply_refines fromData refines allowed
    obtain ⟨last, run, final⟩ := ih next (later s' step)
    refine ⟨last, ?_, final⟩
    rw [FileOp.run, List.foldlM_cons, step]
    exact run

theorem newFile_refines (id : VlobID) (author : DeviceID) (parent : VlobID) (timestamp : DateTime)
    (blocksize : Blocksize) : Refines (newFile id author parent timestamp blocksize) [] := by
  have empty : ∀ i, slot [] i = [] := fun i => rfl
  refine ⟨⟨⟨?_, by simp [newFile, LocalFileManifest.new], ?_, ?_⟩, ⟨?_, ?_⟩, ?_, ?_, ?_⟩, rfl⟩
  · intro i
    exact ⟨Nat.mul_le_mul_right _ (by omega), by simp [newFile, LocalFileManifest.new, empty]⟩
  · simp [newFile, LocalFileManifest.new, empty]
  · simp [newFile, LocalFileManifest.new, u64Limit]
  · simp [newFile, LocalFileManifest.new, empty]
  · simp [newFile, LocalFileManifest.new]
  · simp [Stored, newFile, LocalFileManifest.new]
  · simp [newFile, ChunkStore.empty]
  · simpa [newFile, LocalFileManifest.new] using blocksize.fits

/-- Any run of writes, resizes and reshapes on a new file ends, and every read then returns
    what the same run on a plain array of bytes holds. -/
theorem file_refines_flat_array (fromData : List Byte → HashDigest) (id : VlobID) (author : DeviceID)
    (parent : VlobID) (timestamp : DateTime) (blocksize : Blocksize) (ops : List FileOp)
    (admissible : FileOp.Admissible fromData (newFile id author parent timestamp blocksize) ops) :
    ∃ s, FileOp.run fromData (newFile id author parent timestamp blocksize) ops = .ok s ∧
      s.manifest.size = (FileOp.flatRun [] ops).length ∧
      ∀ size offset, s.read size offset = .ok (flatRead (FileOp.flatRun [] ops) size offset) := by
  obtain ⟨s, run, refines⟩ := run_refines fromData ops
    (newFile_refines id author parent timestamp blocksize) admissible
  refine ⟨s, run, ?_, read_refines refines⟩
  rw [refines.same, contents_length]

def sampleRun : List FileOp :=
  [.write [1, 2, 3] 2 0 (fun i => ⟨30 + i⟩), .write [4, 5] 12 0 (fun i => ⟨10 + i⟩), .resize 13 0,
    .reshape (fun i => ⟨20 + i⟩)]

def sampleFile : FileState := newFile ⟨1⟩ ⟨2⟩ ⟨3⟩ 7 smallestBlocksize

def noDigest : List Byte → HashDigest := fun _ => ⟨[]⟩

theorem sampleRun_admissible : FileOp.Admissible noDigest sampleFile sampleRun := by
  have drawn : ∀ n (i j : Nat), (⟨n + i⟩ : ChunkID) = ⟨n + j⟩ → i = j := by
    intro n i j same
    simpa using same
  have two : ∀ i, i < 2 → i = 0 ∨ i = 1 := by omega
  refine ⟨⟨by decide, by decide, ?_, fun i j _ _ => drawn 30 i j⟩, fun s step => ?_⟩
  · intro i _
    simp [chunkIds, sampleFile, newFile, LocalFileManifest.new]
  -- each step is evaluated, and the next one judged on its result
  cases step.symm.trans (show _ = Except.ok _ from rfl)
  refine ⟨⟨by decide, by decide, ?_, fun i j _ _ => drawn 10 i j⟩, fun s step => ?_⟩
  · rintro i ⟨low, high⟩
    obtain rfl : i = 1 := by
      have : 12 < i * 8 + 8 := low
      have : i * 8 < 14 := high
      omega
    decide
  cases step.symm.trans (show _ = Except.ok _ from rfl)
  refine ⟨show 13 + 8 < u64Limit by decide, fun s step => ?_⟩
  cases step.symm.trans (show _ = Except.ok _ from rfl)
  refine ⟨⟨?_, fun i j _ _ => drawn 20 i j⟩, fun _ _ => trivial⟩
  intro i inside
  have small : i < 2 := inside
  have cases := two i small
  clear inside small
  rcases cases with first | second
  · rw [first]
    decide
  · rw [second]
    decide

theorem sampleRun_refines_flat_array :
    ∃ s, FileOp.run noDigest sampleFile sampleRun = .ok s ∧
      s.read 20 1 = .ok [0, 1, 2, 3, 0, 0, 0, 0, 0, 0, 0, 4] := by
  obtain ⟨s, run, -, reads⟩ := file_refines_flat_array noDigest ⟨1⟩ ⟨2⟩ ⟨3⟩ 7
    smallestBlocksize sampleRun sampleRun_admissible
  exact ⟨s, run, reads 20 1⟩

/-- No chunk that a manifest refers to is ever given for removal, and none is forgotten. -/
theorem chunk_ids_accounted :
    (∀ m : LocalFileManifest, m.checkDataIntegrity = .ok (.ok ()) → IdClean m.blocks →
      (∀ size offset timestamp ids, offset + size + m.blocksize.inner < u64Limit →
        FreshIds (Touched m.blocksize.inner size offset) ids (chunkIds m) →
        ∃ m' operations removed,
          prepareWrite m size offset timestamp ids = .ok (m', operations, removed) ∧
          Accounted m m' (viewIds (operations.map WriteOperation.chunkView)) removed) ∧
      (∀ size timestamp, ∃ m' removed, prepareResize m size timestamp = .ok (m', removed) ∧
        Accounted m m' ∅ removed) ∧
      (∀ ids, FreshIds (· < m.blocks.length) ids (chunkIds m) →
        ∃ plan, prepareReshape m ids = .ok plan ∧
          ∀ fromData done i operation data,
            List.Sublist (done.map Prod.fst ++ [(i, operation)]) plan →
            ∃ m₁ m₂, commitAll fromData m done = .ok m₁ ∧
              commitReshape fromData m₁ i operation data = .ok m₂ ∧
              Accounted m₁ m₂ operation.newIds operation.cleanupIds)) ∧
    ∀ fromData id author parent timestamp blocksize ops,
      FileOp.Admissible fromData (newFile id author parent timestamp blocksize) ops →
      ∃ s, FileOp.run fromData (newFile id author parent timestamp blocksize) ops = .ok s ∧
        ∀ id, (s.store id).isSome = true ↔ id ∈ chunkIds s.manifest := by
  refine ⟨?_, ?_⟩
  · intro m accepted clean
    obtain ⟨-, layout⟩ := (checkDataIntegrity_ok_iff m).mp accepted
    refine ⟨?_, fun size timestamp => resize_accounted size timestamp layout clean, ?_⟩
    · intro size offset timestamp ids fits fresh
      exact write_accounted timestamp layout clean fits fresh
    · intro ids fresh
      obtain ⟨plan, run, planned⟩ := prepareReshape_spec m ids layout.slots
      exact ⟨plan, run, fun fromData done i operation data part =>
        commits_accounted fromData layout clean fresh planned data part⟩
  · intro fromData id author parent timestamp blocksize ops admissible
    obtain ⟨s, run, refines⟩ := run_refines fromData ops
      (newFile_refines id author parent timestamp blocksize) admissible
    refine ⟨s, run, fun id => ⟨refines.wellStored.tight id, ?_⟩⟩
    intro member
    obtain ⟨v, mv, same⟩ := mem_viewIds.mp member
    obtain ⟨data, found, -⟩ := refines.wellStored.stored v mv
    rw [← same, found]
    rfl

theorem splitFile_clean : IdClean splitFile.blocks := by
  have past : ∀ i v, v ∈ slot splitFile.blocks i → i < 2 := fun i v member =>
    slot_inside (List.ne_nil_of_mem member)
  have apart : ∀ v ∈ slot splitFile.blocks 0, ∀ w ∈ slot splitFile.blocks 1, v.id ≠ w.id := by decide
  have raw : ∀ v ∈ splitFile.blocks.flatten, ∀ w ∈ splitFile.blocks.flatten, v.id = w.id →
    v.rawOffset = w.rawOffset ∧ v.rawSize = w.rawSize := by decide
  refine ⟨?_, fun v w mv mw => raw v mv w mw⟩
  intro i j v w mv mw same
  have left := past i v mv
  have right := past j w mw
  obtain rfl | rfl : i = 0 ∨ i = 1 := by omega
  · obtain rfl | rfl : j = 0 ∨ j = 1 := by omega
    · rfl
    · exact absurd same (apart v mv w mw)
  · obtain rfl | rfl : j = 0 ∨ j = 1 := by omega
    · exact absurd same.symm (apart w mw v mv)
    · rfl

theorem chunk_ids_accounted_samples :
    (∃ m' removed, prepareResize splitFile 6 0 = .ok (m', removed) ∧
      Accounted splitFile m' ∅ removed) ∧
    ∃ s, FileOp.run noDigest sampleFile sampleRun = .ok s ∧
      ∀ id, (s.store id).isSome = true ↔ id ∈ chunkIds s.manifest :=
  ⟨(chunk_ids_accounted.1 splitFile (by decide) splitFile_clean).2.1 6 0,
    chunk_ids_accounted.2 noDigest ⟨1⟩ ⟨2⟩ ⟨3⟩ 7 smallestBlocksize sampleRun
      sampleRun_admissible⟩

end ParsecCloud
