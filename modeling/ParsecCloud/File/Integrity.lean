import ParsecCloud.File.OperationSpec

/- Every file operation turns a manifest that LocalFileManifest::check_data_integrity accepts
   into one that it accepts, without a panic on the way. -/
namespace ParsecCloud
open Rust OrderedSegments

section Write
variable {blocksize size offset : Nat} {ids : Nat → ChunkID}

theorem newSlot_ok {block : Nat} {views : List ChunkView} (nonempty : 0 < size)
    (positive : 0 < blocksize) (fits : offset + size < u64Limit)
    (touched : Touched blocksize size offset block)
    (ok : SlotOk (block * blocksize) ((block + 1) * blocksize) views) :
    SlotOk (block * blocksize) ((block + 1) * blocksize)
      (newSlot blocksize size offset ids block views) := by
  obtain ⟨low, -, -, high, -⟩ := touched_bounds nonempty positive touched
  refine written_ok ok low ?_ (newView_valid nonempty positive fits touched) rfl rfl
  rw [Nat.add_mul, Nat.one_mul]
  exact high

/-- A view of a rewritten slot stops where a view of the old slot stopped, or inside the
    written range. -/
theorem newSlot_within {block bound : Nat} {views : List ChunkView} (nonempty : 0 < size)
    (positive : 0 < blocksize) (touched : Touched blocksize size offset block)
    (within : ∀ v ∈ views, v.stop ≤ bound) :
    ∀ v ∈ newSlot blocksize size offset ids block views, v.stop ≤ max bound (offset + size) := by
  have bounds := touched_bounds nonempty positive touched
  intro v member
  rcases mem_written.mp member with rfl | member | ⟨w, mw, -, -, rfl⟩ | ⟨member, -⟩
  · simp only [newView]
    omega
  · obtain ⟨w, mw, -, rfl⟩ := mem_keptBefore.mp member
    have := within w mw
    simp only [clipStop]
    omega
  · have := within w mw
    simp only [clipStart]
    omega
  · have := within v member
    omega

theorem write_layout {bound : Nat} {before : List (List ChunkView)} {state : WriteState}
    (nonempty : 0 < size) (positive : 0 < blocksize) (fits : offset + size + blocksize < u64Limit)
    (layout : Layout blocksize bound before)
    (result : WriteResult blocksize size offset ids before state) :
    Layout blocksize (max bound (offset + size)) state.blocks := by
  refine ⟨?_, ?_, ?_, ?_⟩
  · intro i
    rw [result.slots]
    split
    · rename_i touched
      exact newSlot_ok nonempty positive (by omega) touched (layout.slots i)
    · exact layout.slots i
  · rw [last_iff]
    intro n length
    rw [result.slots]
    split
    · simp [newSlot, written]
    · rename_i untouched
      -- the last slot was already the last one before the write
      have range : ¬ (offset / blocksize ≤ n ∧ n < divCeil (offset + size) blocksize) := by
        rwa [← touched_iff_range positive]
      have used : offset / blocksize < divCeil (offset + size) blocksize := by
        rw [lt_divCeil positive]
        have := Nat.div_mul_le_self offset blocksize
        omega
      rw [result.length] at length
      exact last_iff.mp layout.last n (by omega)
  · intro i v member
    rw [result.slots] at member
    split at member
    · rename_i touched
      exact newSlot_within nonempty positive touched (layout.within i) v member
    · have := layout.within i v member
      omega
  · rw [result.length]
    rcases Nat.le_total before.length (divCeil (offset + size) blocksize) with le | le
    · rw [Nat.max_eq_right le]
      have used : divCeil (offset + size) blocksize - 1 < divCeil (offset + size) blocksize := by
        have : 0 < divCeil (offset + size) blocksize := by
          rw [lt_divCeil positive]
          omega
        omega
      have start := (lt_divCeil positive).mp used
      rw [Nat.sub_mul, Nat.one_mul] at start
      omega
    · rw [Nat.max_eq_left le]
      exact layout.fits

end Write

theorem write_integrity {m : LocalFileManifest} {size offset : Nat} (timestamp : DateTime)
    (ids : Nat → ChunkID) (layout : Layout m.blocksize.inner m.size m.blocks)
    (fits : offset + size + m.blocksize.inner < u64Limit) :
    ∃ m' operations removed, prepareWrite m size offset timestamp ids = .ok (m', operations, removed) ∧
      m'.base = m.base ∧ m'.parent = m.parent ∧ Layout m'.blocksize.inner m'.size m'.blocks := by
  by_cases empty : size = 0
  · exact ⟨m, [], ∅, by simp [prepareWrite, empty], rfl, rfl, layout⟩
  · have nonempty : 0 < size := by omega
    obtain ⟨state, result, run⟩ := prepareWrite_spec m timestamp ids nonempty fits layout.slots
    exact ⟨_, _, _, run, rfl, rfl,
      write_layout nonempty (blocksize_positive m.blocksize) fits layout result⟩

theorem truncate_layout {blocksize bound size : Nat} {before blocks : List (List ChunkView)}
    {removed : Finset ChunkID} (layout : Layout blocksize bound before)
    (result : TruncateResult blocksize size before blocks removed) :
    Layout blocksize size blocks := by
  have bound : ∀ i, ∀ v ∈ slot blocks i, v.stop ≤ size := by
    intro i v member
    rw [result.slots] at member
    obtain ⟨w, -, -, rfl⟩ := mem_keptBefore.mp member
    exact Nat.min_le_right _ _
  refine ⟨?_, result.last, bound, ?_⟩
  · intro i
    have ok := layout.slots i
    by_cases before_ : i * blocksize ≤ size
    · have kept := keptBefore_ok ok before_
      rw [result.slots]
      refine ⟨ordered_narrow_right kept.ordered (ordered_bounds ok.ordered) ?_, kept.valid⟩
      intro v member
      obtain ⟨w, mw, -, rfl⟩ := mem_keptBefore.mp member
      exact Nat.le_trans (Nat.min_le_left _ _) (ordered_member ok.ordered mw).2.2
    · rw [result.slots, keptBefore_of_ge ok.ordered (by omega)]
      exact ⟨ordered_bounds ok.ordered, by simp⟩
  · exact Nat.lt_of_le_of_lt (Nat.mul_le_mul_right _ result.length) layout.fits

theorem resize_integrity {m : LocalFileManifest} (size : Nat) (timestamp : DateTime)
    (layout : Layout m.blocksize.inner m.size m.blocks) :
    ∃ m' removed, prepareResize m size timestamp = .ok (m', removed) ∧
      m'.base = m.base ∧ m'.parent = m.parent ∧ Layout m'.blocksize.inner m'.size m'.blocks := by
  unfold prepareResize
  split
  · rename_i larger
    refine ⟨_, _, rfl, rfl, rfl, layout.slots, layout.last, ?_, layout.fits⟩
    intro i v member
    exact Nat.le_trans (layout.within i v member) larger
  · obtain ⟨blocks, removed, result, run⟩ :=
      prepareTruncate_spec m size timestamp (by omega) layout.slots
    exact ⟨_, _, run, rfl, rfl, truncate_layout layout result⟩

section Reshape
variable {ids : Nat → ChunkID}

theorem reshape_layout {blocksize size i : Nat} {blocks : List (List ChunkView)}
    {operation : ReshapeBlockOperation} (digest : HashDigest) (layout : Layout blocksize size blocks)
    (reshapes : Reshapes (ids i) (slot blocks i) operation) :
    Layout blocksize size (blocks.set i [operation.destination.promoted digest]) := by
  have inside := reshapes_inside reshapes
  refine ⟨?_, ?_, ?_, by simpa using layout.fits⟩
  · intro k
    rw [slot_set blocks k _ inside]
    split
    · rename_i same
      subst k
      exact reshaped_ok digest (layout.slots i) reshapes
    · exact layout.slots k
  · rw [last_iff]
    intro n length
    rw [slot_set blocks n _ inside]
    split
    · simp
    · exact last_iff.mp layout.last n (by simpa using length)
  · intro k v member
    rw [slot_set blocks k _ inside] at member
    split at member
    · obtain ⟨u, rest, same, -⟩ := reshapes.first
      obtain ⟨w, mw, stop⟩ := viewsEnd_stop 0 (show slot blocks i ≠ [] by simp [same])
      have := layout.within i w mw
      have last := reshapes.last
      rw [List.mem_singleton.mp member]
      simp only [ChunkView.promoted]
      omega
    · exact layout.within k v member

/-- What remains of a plan once the operations of done are committed. -/
structure Committed (before : LocalFileManifest) (done : List ((Nat × ReshapeBlockOperation) × List Byte))
    (m : LocalFileManifest) : Prop where
  base : m.base = before.base
  parent : m.parent = before.parent
  size : m.size = before.size
  blocksize : m.blocksize = before.blocksize
  layout : Layout m.blocksize.inner m.size m.blocks
  untouched : ∀ i, i ∉ done.map (fun p => p.1.1) → slot m.blocks i = slot before.blocks i

/-- The rule for committing some operations of a plan, in their order: what holds at first and
    is carried by each commit holds at the end. -/
theorem commitAll_rule (fromData : List Byte → HashDigest) {before : LocalFileManifest}
    {plan : List (Nat × ReshapeBlockOperation)}
    {operations : List ((Nat × ReshapeBlockOperation) × List Byte)}
    {P : List ((Nat × ReshapeBlockOperation) × List Byte) → LocalFileManifest → Prop}
    (planned : ReshapePlan ids before.blocks plan)
    (part : List.Sublist (operations.map Prod.fst) plan)
    (layout : Layout before.blocksize.inner before.size before.blocks) (first : P [] before)
    (step : ∀ done i operation data m, ((i, operation), data) ∈ operations →
      i ∉ done.map (fun p => p.1.1) → Reshapes (ids i) (slot m.blocks i) operation → P done m →
      P (done ++ [((i, operation), data)]) { m with
        blocks := m.blocks.set i [operation.destination.promoted (fromData data)] }) :
    ∃ m, commitAll fromData before operations = .ok m ∧ Committed before operations m ∧
      P operations m := by
  have distinct : (operations.map (fun p => p.1.1)).Pairwise (· < ·) := by
    have := planned.distinct.sublist (part.map Prod.fst)
    rwa [List.map_map] at this
  refine foldlM_list (P := fun done m => Committed before done m ∧ P done m)
    ⟨⟨rfl, rfl, rfl, rfl, layout, fun i _ => rfl⟩, first⟩ ?_
  rintro done ⟨⟨i, operation⟩, data⟩ rest m split ⟨committed, holds⟩
  have member : ((i, operation), data) ∈ operations := by simp [split]
  have later : i ∉ done.map (fun p => p.1.1) := by
    rw [split, List.map_append, List.pairwise_append] at distinct
    intro earlier
    have := distinct.2.2 i earlier i (by simp)
    omega
  have reshapes : Reshapes (ids i) (slot m.blocks i) operation := by
    rw [committed.untouched i later]
    exact planned.reshapes i operation (part.subset (List.mem_map_of_mem member))
  refine ⟨_, commitReshape_ok fromData m data reshapes, ?_, ?_⟩
  · refine ⟨committed.base, committed.parent, committed.size, committed.blocksize,
      reshape_layout _ committed.layout reshapes, ?_⟩
    intro k outside
    rw [slot_set m.blocks k _ (reshapes_inside reshapes)]
    have : k ≠ i ∧ k ∉ done.map (fun p => p.1.1) := by
      simp only [List.map_append, List.mem_append, not_or, List.map_cons, List.map_nil,
        List.mem_singleton] at outside
      exact ⟨outside.2, outside.1⟩
    rw [if_neg this.1]
    exact committed.untouched k this.2
  · exact step done i operation data m member later reshapes holds

end Reshape

/-- Reading, writing, resizing in both directions and committing operations of a reshape never
    panic on an accepted manifest, and what they leave is accepted again. -/
theorem operations_keep_integrity (m : LocalFileManifest)
    (accepted : m.checkDataIntegrity = .ok (.ok ())) :
    (∀ size offset timestamp ids, offset + size + m.blocksize.inner < u64Limit →
      (∃ views, prepareRead m size offset = .ok views) ∧
      ∃ m' operations removed,
        prepareWrite m size offset timestamp ids = .ok (m', operations, removed) ∧
        m'.checkDataIntegrity = .ok (.ok ())) ∧
    (∀ size timestamp, ∃ m' removed, prepareResize m size timestamp = .ok (m', removed) ∧
      m'.checkDataIntegrity = .ok (.ok ())) ∧
    (∀ ids, ∃ plan, prepareReshape m ids = .ok plan ∧
      ∀ fromData operations, List.Sublist (operations.map Prod.fst) plan →
        ∃ m', commitAll fromData m operations = .ok m' ∧ m'.checkDataIntegrity = .ok (.ok ())) := by
  obtain ⟨root, layout⟩ := (checkDataIntegrity_ok_iff m).mp accepted
  refine ⟨?_, ?_, ?_⟩
  · intro size offset timestamp ids fits
    refine ⟨?_, ?_⟩
    · obtain ⟨views, run, -⟩ := prepareRead_spec m size offset (by omega) layout.slots
      exact ⟨_, run⟩
    · obtain ⟨m', operations, removed, run, base, parent, kept⟩ :=
        write_integrity timestamp ids layout fits
      exact ⟨m', operations, removed, run,
        (checkDataIntegrity_ok_iff m').mpr ⟨by rwa [base, parent], kept⟩⟩
  · intro size timestamp
    obtain ⟨m', removed, run, base, parent, kept⟩ := resize_integrity size timestamp layout
    exact ⟨m', removed, run, (checkDataIntegrity_ok_iff m').mpr ⟨by rwa [base, parent], kept⟩⟩
  · intro ids
    obtain ⟨plan, run, planned⟩ := prepareReshape_spec m ids layout.slots
    refine ⟨plan, run, ?_⟩
    intro fromData operations part
    obtain ⟨m', commits, committed, -⟩ := commitAll_rule fromData
      (P := fun _ _ => True) planned part layout trivial (fun _ _ _ _ _ _ _ _ _ => trivial)
    exact ⟨m', commits, (checkDataIntegrity_ok_iff m').mpr
      ⟨by rw [committed.base, committed.parent]; exact root, committed.layout⟩⟩

def smallestBlocksize : Blocksize := ⟨8, by decide, by decide⟩

/-- A file of two blocks of 8 bytes: one chunk seen through two views with a hole between
    them, then a promoted block. -/
def splitFile : LocalFileManifest :=
  { LocalFileManifest.new ⟨1⟩ ⟨2⟩ ⟨3⟩ 0 with
    blocksize := smallestBlocksize
    size := 20
    blocks := [[⟨⟨10⟩, 0, 2, 0, 7, none⟩, ⟨⟨11⟩, 2, 4, 2, 2, none⟩, ⟨⟨10⟩, 5, 7, 0, 7, none⟩],
      [⟨⟨12⟩, 8, 16, 8, 8, some ⟨⟨12⟩, 8, 8, by decide, ⟨[]⟩⟩⟩]] }

theorem splitFile_keeps_integrity :
    ∃ m' operations removed, prepareWrite splitFile 6 3 0 (fun i => ⟨20 + i⟩) =
      .ok (m', operations, removed) ∧ m'.checkDataIntegrity = .ok (.ok ()) :=
  ((operations_keep_integrity splitFile (by decide)).1 6 3 0 (fun i => ⟨20 + i⟩) (by decide)).2

end ParsecCloud
