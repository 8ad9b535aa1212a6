import ParsecCloud.File.BlockSpec

/- prepare_write, prepare_resize and prepare_reshape in closed form: which slots they change,
   and what they put there. -/
namespace ParsecCloud
open Rust OrderedSegments

section Slots
variable {blocks : List (List ChunkView)}

theorem slot_of_length_le {i : Nat} (past : blocks.length ≤ i) : slot blocks i = [] := by
  simp [slot, List.getD_eq_getElem?_getD, List.getElem?_eq_none past]

theorem slot_inside {i : Nat} (nonempty : slot blocks i ≠ []) : i < blocks.length := by
  by_contra past
  exact nonempty (slot_of_length_le (by omega))

theorem last_iff : blocks.getLast? ≠ some [] ↔ ∀ n, blocks.length = n + 1 → slot blocks n ≠ [] := by
  rw [List.getLast?_eq_getElem?]
  constructor
  · intro last n length empty
    apply last
    rw [length, Nat.add_sub_cancel, List.getElem?_eq_getElem (by omega)]
    simpa [slot, List.getD_eq_getElem?_getD, length] using empty
  · intro all same
    obtain ⟨small, empty⟩ := List.getElem?_eq_some_iff.mp same
    refine all (blocks.length - 1) (by omega) ?_
    simp [slot, List.getD_eq_getElem?_getD, small, empty]

theorem slot_set_pad (block i : Nat) (views : List ChunkView) :
    slot ((LocalFileManifest.padBlocks blocks block).set block views) i =
      if i = block then views else slot blocks i := by
  unfold slot LocalFileManifest.padBlocks
  simp only [List.getD_eq_getElem?_getD, List.getElem?_set, List.length_append, List.length_replicate]
  by_cases same : block = i
  · subst i
    have : block < blocks.length + (block + 1 - blocks.length) := by omega
    simp [this]
  · have other : i ≠ block := fun h => same h.symm
    simp only [same, other, if_false]
    by_cases inside : i < blocks.length
    · rw [List.getElem?_append_left inside]
    · rw [List.getElem?_append_right (by omega), List.getElem?_eq_none (by omega : blocks.length ≤ i)]
      rw [List.getElem?_replicate]
      split <;> rfl

theorem length_set_pad (block : Nat) (views : List ChunkView) :
    ((LocalFileManifest.padBlocks blocks block).set block views).length =
      max blocks.length (block + 1) := by
  simp only [LocalFileManifest.padBlocks, List.length_set, List.length_append, List.length_replicate]
  omega

theorem slot_take (n i : Nat) : slot (blocks.take n) i = if i < n then slot blocks i else [] := by
  simp only [slot, List.getD_eq_getElem?_getD, List.getElem?_take]
  split <;> rfl

theorem mem_drop_ids {n : Nat} {id : ChunkID} :
    id ∈ viewIds (blocks.drop n).flatten ↔ ∃ i, n ≤ i ∧ id ∈ viewIds (slot blocks i) := by
  have shift : ∀ i, slot (blocks.drop n) i = slot blocks (n + i) := by
    intro i
    simp [slot, List.getD_eq_getElem?_getD]
  simp only [mem_viewIds, mem_flatten_iff_slot, shift]
  constructor
  · rintro ⟨v, ⟨i, member⟩, same⟩
    exact ⟨n + i, by omega, v, member, same⟩
  · rintro ⟨i, le, v, member, same⟩
    refine ⟨v, ⟨i - n, ?_⟩, same⟩
    rwa [show n + (i - n) = i by omega]

end Slots

section Write
variable {blocksize size offset : Nat} {ids : Nat → ChunkID}

/-- The part of block number block that a write covers. -/
def subStart (blocksize offset block : Nat) : Nat := max offset (block * blocksize)

def subStop (blocksize size offset block : Nat) : Nat :=
  min (offset + size) (block * blocksize + blocksize)

def Touched (blocksize size offset block : Nat) : Prop :=
  offset < block * blocksize + blocksize ∧ block * blocksize < offset + size

instance (blocksize size offset block : Nat) : Decidable (Touched blocksize size offset block) :=
  inferInstanceAs (Decidable (_ ∧ _))

def newView (blocksize size offset : Nat) (ids : Nat → ChunkID) (block : Nat) : ChunkView :=
  ⟨ids block, subStart blocksize offset block, subStop blocksize size offset block,
    subStart blocksize offset block,
    subStop blocksize size offset block - subStart blocksize offset block, none⟩

def newSlot (blocksize size offset : Nat) (ids : Nat → ChunkID) (block : Nat)
    (views : List ChunkView) : List ChunkView :=
  written views (subStart blocksize offset block) (subStop blocksize size offset block)
    (newView blocksize size offset ids block)

/-- The identifiers of a touched slot that are in none of its remaining views. -/
def slotRemoved (blocksize size offset block : Nat) (views : List ChunkView) : Finset ChunkID :=
  viewIds views \ viewIds (keptBefore views (subStart blocksize offset block) ++
    keptAcross views (subStop blocksize size offset block) ++
    keptAfter views (subStop blocksize size offset block))

theorem touched_iff_range (positive : 0 < blocksize) {block : Nat} :
    Touched blocksize size offset block ↔
      offset / blocksize ≤ block ∧ block < divCeil (offset + size) blocksize := by
  rw [lt_divCeil positive, Touched, ← Nat.lt_succ_iff, Nat.div_lt_iff_lt_mul positive,
    Nat.succ_mul]

theorem touched_bounds {block : Nat} (nonempty : 0 < size) (positive : 0 < blocksize)
    (touched : Touched blocksize size offset block) :
    block * blocksize ≤ subStart blocksize offset block ∧
      offset ≤ subStart blocksize offset block ∧
      subStart blocksize offset block < subStop blocksize size offset block ∧
      subStop blocksize size offset block ≤ block * blocksize + blocksize ∧
      subStop blocksize size offset block ≤ offset + size := by
  obtain ⟨low, high⟩ := touched
  simp only [subStart, subStop]
  omega

theorem newView_valid {block : Nat} (nonempty : 0 < size) (positive : 0 < blocksize)
    (fits : offset + size < u64Limit) (touched : Touched blocksize size offset block) :
    (newView blocksize size offset ids block).Valid := by
  have bounds := touched_bounds nonempty positive touched
  exact ⟨Nat.le_refl _, bounds.2.2.1, by simp only [newView]; omega, by simp only [newView]; omega⟩

theorem prepareWriteBlock_eq {state : WriteState} {block lo hi : Nat} (nonempty : 0 < size)
    (positive : 0 < blocksize) (fits : offset + size + blocksize < u64Limit)
    (touched : Touched blocksize size offset block)
    (ordered : OrderedViews lo hi (slot state.blocks block)) :
    prepareWriteBlock blocksize size offset ids state block = .ok
      ⟨(LocalFileManifest.padBlocks state.blocks block).set block
        (newSlot blocksize size offset ids block (slot state.blocks block)),
      state.writeOperations ++ [⟨newView blocksize size offset ids block,
        asI64 (subStart blocksize offset block - offset)⟩],
      state.removedIds ∪ slotRemoved blocksize size offset block (slot state.blocks block)⟩ := by
  obtain ⟨low, after, inside, high, within⟩ := touched_bounds nonempty positive touched
  obtain ⟨-, begins⟩ := touched
  unfold prepareWriteBlock
  rw [mul_ok (by omega), ok_bind, add_ok (by omega), ok_bind, add_ok (by omega), ok_bind]
  dsimp only
  rw [← subStart, ← subStop, checkedSub_ok (by omega), ok_bind, sub_ok after, ok_bind]
  have total : subStart blocksize offset block +
      (subStop blocksize size offset block - subStart blocksize offset block) =
      subStop blocksize size offset block := by omega
  rw [add_ok (by omega), ok_bind, total, nonZero_ok (by omega), ok_bind,
    ChunkView.new_ok inside (by omega), ok_bind, ← newView]
  cases found : state.blocks[block]? with
  | none =>
    have empty : slot state.blocks block = [] := by
      simp [slot, List.getD_eq_getElem?_getD, found]
    simp [empty, newSlot, slotRemoved, written, keptBefore, keptAcross, keptAfter]
  | some views =>
    have same : slot state.blocks block = views := by
      simp [slot, List.getD_eq_getElem?_getD, found]
    rw [same] at ordered ⊢
    simp only [ok_bind, pure_eq_ok]
    rw [blockWrite_eq ordered (by omega), ok_bind, total]
    rfl

/-- The loop of prepare_write before block number k: every touched block below k has been
    rewritten from what it was at first, and nothing else has changed. -/
structure WriteInvariant (blocksize size offset : Nat) (ids : Nat → ChunkID)
    (before : List (List ChunkView)) (k : Nat) (state : WriteState) : Prop where
  slots : ∀ i, slot state.blocks i =
    if Touched blocksize size offset i ∧ i < k then
      newSlot blocksize size offset ids i (slot before i)
    else slot before i
  length : state.blocks.length =
    if k = offset / blocksize then before.length else max before.length k
  operations : state.writeOperations =
    (List.range' (offset / blocksize) (k - offset / blocksize)).map fun block =>
      ⟨newView blocksize size offset ids block, asI64 (subStart blocksize offset block - offset)⟩
  removed : ∀ id, id ∈ state.removedIds ↔ ∃ block, (Touched blocksize size offset block ∧ block < k) ∧
    id ∈ slotRemoved blocksize size offset block (slot before block)

theorem write_invariant_first {before : List (List ChunkView)} (positive : 0 < blocksize) :
    WriteInvariant blocksize size offset ids before (offset / blocksize) ⟨before, [], ∅⟩ := by
  have none : ∀ block, ¬ (Touched blocksize size offset block ∧ block < offset / blocksize) := by
    intro block
    rw [touched_iff_range positive]
    omega
  refine ⟨?_, by simp, by simp, ?_⟩
  · intro i
    simp [none]
  · intro id
    simp [none]

theorem write_invariant_step {before : List (List ChunkView)} {k : Nat} {state : WriteState}
    (nonempty : 0 < size) (positive : 0 < blocksize) (fits : offset + size + blocksize < u64Limit)
    (slots : ∀ i, SlotOk (i * blocksize) ((i + 1) * blocksize) (slot before i))
    (touched : Touched blocksize size offset k)
    (inv : WriteInvariant blocksize size offset ids before k state) :
    ∃ state', prepareWriteBlock blocksize size offset ids state k = .ok state' ∧
      WriteInvariant blocksize size offset ids before (k + 1) state' := by
  obtain ⟨slotsK, lengthK, operationsK, removedK⟩ := inv
  have low := ((touched_iff_range positive).mp touched).1
  have fresh : slot state.blocks k = slot before k := by simp [slotsK]
  have ordered := (slots k).ordered
  rw [← fresh] at ordered
  refine ⟨_, prepareWriteBlock_eq nonempty positive fits touched ordered, ?_, ?_, ?_, ?_⟩
  · intro i
    rw [slot_set_pad, fresh]
    by_cases same : i = k
    · subst i
      simp [touched]
    · have : i < k + 1 ↔ i < k := by omega
      simp [same, slotsK, this]
  · rw [length_set_pad, lengthK]
    split <;> split <;> omega
  · rw [operationsK, show k + 1 - offset / blocksize = k - offset / blocksize + 1 by omega,
      List.range'_1_concat, List.map_append,
      show offset / blocksize + (k - offset / blocksize) = k by omega]
    rfl
  · intro id
    rw [Finset.mem_union, removedK, fresh]
    constructor
    · rintro (⟨block, ⟨cond, lt⟩, member⟩ | member)
      · exact ⟨block, ⟨cond, by omega⟩, member⟩
      · exact ⟨k, ⟨touched, by omega⟩, member⟩
    · rintro ⟨block, ⟨cond, lt⟩, member⟩
      by_cases same : block = k
      · subst block
        exact Or.inr member
      · exact Or.inl ⟨block, ⟨cond, by omega⟩, member⟩

/-- What the loop of prepare_write leaves once every block is done. -/
structure WriteResult (blocksize size offset : Nat) (ids : Nat → ChunkID)
    (before : List (List ChunkView)) (state : WriteState) : Prop where
  slots : ∀ i, slot state.blocks i =
    if Touched blocksize size offset i then newSlot blocksize size offset ids i (slot before i)
    else slot before i
  length : state.blocks.length = max before.length (divCeil (offset + size) blocksize)
  operations : state.writeOperations =
    (List.range' (offset / blocksize)
      (divCeil (offset + size) blocksize - offset / blocksize)).map fun block =>
        ⟨newView blocksize size offset ids block, asI64 (subStart blocksize offset block - offset)⟩
  removed : ∀ id, id ∈ state.removedIds ↔ ∃ block, Touched blocksize size offset block ∧
    id ∈ slotRemoved blocksize size offset block (slot before block)

theorem write_loop {before : List (List ChunkView)} (ids : Nat → ChunkID) (nonempty : 0 < size)
    (positive : 0 < blocksize) (fits : offset + size + blocksize < u64Limit)
    (slots : ∀ i, SlotOk (i * blocksize) ((i + 1) * blocksize) (slot before i)) :
    ∃ state, (List.range' (offset / blocksize)
        (divCeil (offset + size) blocksize - offset / blocksize)).foldlM
        (prepareWriteBlock blocksize size offset ids) ⟨before, [], ∅⟩ = .ok state ∧
      WriteResult blocksize size offset ids before state := by
  have range : offset / blocksize < divCeil (offset + size) blocksize := by
    rw [lt_divCeil positive]
    have := Nat.div_mul_le_self offset blocksize
    omega
  obtain ⟨state, run, inv⟩ := foldlM_range
    (P := WriteInvariant blocksize size offset ids before)
    (n := divCeil (offset + size) blocksize - offset / blocksize)
    (write_invariant_first positive)
    (fun k state low high => write_invariant_step nonempty positive fits slots
      ((touched_iff_range positive).mpr ⟨low, by omega⟩))
  rw [show offset / blocksize + (divCeil (offset + size) blocksize - offset / blocksize) =
    divCeil (offset + size) blocksize by omega] at inv
  have all : ∀ block, (Touched blocksize size offset block ∧
      block < divCeil (offset + size) blocksize) ↔ Touched blocksize size offset block := by
    intro block
    rw [touched_iff_range positive]
    omega
  obtain ⟨slotsEnd, lengthEnd, operationsEnd, removedEnd⟩ := inv
  simp only [all] at slotsEnd removedEnd
  refine ⟨state, run, slotsEnd, ?_, operationsEnd, removedEnd⟩
  rw [lengthEnd, if_neg (by omega)]

theorem prepareWrite_spec (m : LocalFileManifest) (timestamp : DateTime) (ids : Nat → ChunkID)
    (nonempty : 0 < size) (fits : offset + size + m.blocksize.inner < u64Limit)
    (slots : ∀ i, SlotOk (i * m.blocksize.inner) ((i + 1) * m.blocksize.inner) (slot m.blocks i)) :
    ∃ state, WriteResult m.blocksize.inner size offset ids m.blocks state ∧
      prepareWrite m size offset timestamp ids = .ok
        ({ m with
            blocks := state.blocks, needSync := true, updated := timestamp
            size := max m.size (offset + size) },
          state.writeOperations, state.removedIds) := by
  have positive := blocksize_positive m.blocksize
  obtain ⟨state, run, result⟩ := write_loop ids nonempty positive fits slots
  refine ⟨state, result, ?_⟩
  unfold prepareWrite
  rw [if_neg (by omega), add_ok (by omega)]
  simp only [ok_bind]
  rw [run]
  rfl

end Write

section Read
variable {blocksize size offset : Nat}

def readSlot (blocksize size offset block : Nat) (views : List ChunkView) : List ChunkView :=
  (views.filter fun v => v.start < subStop blocksize size offset block &&
    v.stop > subStart blocksize offset block).map
      (clipTo (subStart blocksize offset block) (subStop blocksize size offset block))

theorem read_bounds {block : Nat} (touched : Touched blocksize size offset block) :
    subStart blocksize offset block ≤ subStop blocksize size offset block := by
  obtain ⟨low, high⟩ := touched
  simp only [subStart, subStop]
  omega

theorem prepareReadBlock_eq (m : LocalFileManifest) {block lo hi : Nat}
    (fits : offset + size + m.blocksize.inner < u64Limit)
    (touched : Touched m.blocksize.inner size offset block)
    (ordered : OrderedViews lo hi (slot m.blocks block)) :
    prepareReadBlock m size offset block =
      .ok (readSlot m.blocksize.inner size offset block (slot m.blocks block)) := by
  have le := read_bounds touched
  obtain ⟨-, begins⟩ := touched
  unfold prepareReadBlock
  dsimp only
  rw [mul_ok (by omega), ok_bind, add_ok (by omega), ok_bind, add_ok (by omega), ok_bind,
    ← subStart, ← subStop, checkedSub_ok le, ok_bind, LocalFileManifest.getChunks]
  have bound : subStop m.blocksize.inner size offset block ≤ offset + size := by
    simp only [subStop]
    omega
  cases found : m.blocks[block]? with
  | none =>
    have empty : slot m.blocks block = [] := by
      simp [slot, List.getD_eq_getElem?_getD, found]
    simp [empty, readSlot]
  | some views =>
    have same : slot m.blocks block = views := by
      simp [slot, List.getD_eq_getElem?_getD, found]
    rw [same] at ordered ⊢
    dsimp only
    by_cases empty : views = []
    · simp [empty, readSlot]
    · rw [if_neg (by simpa using empty), blockRead_eq ordered (by omega)]
      simp only [Nat.add_sub_cancel' le]
      rfl

theorem readSlot_ordered {block lo hi : Nat} {views : List ChunkView}
    (touched : Touched blocksize size offset block) (ok : SlotOk lo hi views) :
    OrderedViews (subStart blocksize offset block) (subStop blocksize size offset block)
      (readSlot blocksize size offset block views) := by
  have le := read_bounds touched
  have shrunk : OrderedViews lo hi (readSlot blocksize size offset block views) := by
    refine ordered_shrink (ordered_filter _ ok.ordered) ?_
    intro v member
    obtain ⟨member, overlap⟩ := List.mem_filter.mp member
    have := (ok.valid v member).inside
    simp only [Bool.and_eq_true, decide_eq_true_eq] at overlap
    simp only [clipTo]
    omega
  have inside : ∀ v ∈ readSlot blocksize size offset block views,
      subStart blocksize offset block ≤ v.start ∧ v.stop ≤ subStop blocksize size offset block := by
    intro v member
    obtain ⟨w, -, rfl⟩ := List.mem_map.mp member
    exact ⟨Nat.le_max_right _ _, Nat.min_le_right _ _⟩
  by_cases empty : readSlot blocksize size offset block views = []
  · rw [empty]
    exact le
  · obtain ⟨v, member⟩ := List.exists_mem_of_ne_nil _ empty
    have := ordered_member shrunk member
    have := inside v member
    refine ordered_narrow_left (ordered_narrow_right shrunk (by omega) fun w mw => (inside w mw).2)
      le fun w mw => (inside w mw).1

/-- A view of a block overlaps the part of a range in that block when it overlaps the range,
    and the two cut it in the same way. -/
theorem mem_readSlot {block : Nat} {views : List ChunkView} {v : ChunkView}
    (ok : SlotOk (block * blocksize) ((block + 1) * blocksize) views) :
    v ∈ readSlot blocksize size offset block views ↔
      ∃ w ∈ views, (w.start < offset + size ∧ offset < w.stop) ∧ v = clipTo offset (offset + size) w := by
  have cut : ∀ w ∈ views, ((w.start < subStop blocksize size offset block ∧
      subStart blocksize offset block < w.stop) ↔ (w.start < offset + size ∧ offset < w.stop)) ∧
      clipTo (subStart blocksize offset block) (subStop blocksize size offset block) w =
        clipTo offset (offset + size) w := by
    intro w member
    obtain ⟨first, -, last⟩ := ordered_member ok.ordered member
    have inside := (ok.valid w member).inside
    rw [Nat.add_mul, Nat.one_mul] at last
    have start : max w.start (subStart blocksize offset block) = max w.start offset := by
      simp only [subStart]
      omega
    have stop : min w.stop (subStop blocksize size offset block) = min w.stop (offset + size) := by
      simp only [subStop]
      omega
    refine ⟨?_, by rw [clipTo, clipTo, start, stop]⟩
    simp only [subStart, subStop]
    omega
  simp only [readSlot, List.mem_map, List.mem_filter, Bool.and_eq_true, decide_eq_true_eq]
  constructor
  · rintro ⟨w, ⟨member, overlap⟩, rfl⟩
    exact ⟨w, member, (cut w member).1.mp overlap, (cut w member).2⟩
  · rintro ⟨w, member, overlap, rfl⟩
    exact ⟨w, ⟨member, (cut w member).1.mpr overlap⟩, (cut w member).2⟩

/-- The views a read returns: those over the range, cut to it, in order. -/
structure ReadResult (size offset : Nat) (blocks : List (List ChunkView)) (views : List ChunkView) :
    Prop where
  ordered : OrderedViews offset (offset + size) views
  member : ∀ v, v ∈ views ↔ ∃ w ∈ blocks.flatten,
    (w.start < offset + size ∧ offset < w.stop) ∧ v = clipTo offset (offset + size) w

theorem read_loop (m : LocalFileManifest) (fits : offset + size + m.blocksize.inner < u64Limit)
    (slots : ∀ i, SlotOk (i * m.blocksize.inner) ((i + 1) * m.blocksize.inner) (slot m.blocks i)) :
    ∃ chunks, (List.range' (offset / m.blocksize.inner)
        (divCeil (offset + size) m.blocksize.inner - offset / m.blocksize.inner)).mapM
        (prepareReadBlock m size offset) = .ok chunks ∧
      ReadResult size offset m.blocks chunks.flatten := by
  have positive := blocksize_positive m.blocksize
  have inRange : ∀ k, k ∈ List.range' (offset / m.blocksize.inner)
      (divCeil (offset + size) m.blocksize.inner - offset / m.blocksize.inner) ↔
      Touched m.blocksize.inner size offset k := by
    intro k
    rw [touched_iff_range positive, List.mem_range'_1]
    omega
  refine ⟨_, mapM_ok (g := fun k => readSlot m.blocksize.inner size offset k (slot m.blocks k)) ?_,
    ?_, ?_⟩
  · intro k member
    exact prepareReadBlock_eq m fits ((inRange k).mp member) (slots k).ordered
  · -- the bound between two blocks is their border, brought inside the range
    have ordered := ordered_flatten_range
      (fun k => max offset (min (offset + size) (k * m.blocksize.inner)))
      (a := offset / m.blocksize.inner)
      (n := divCeil (offset + size) m.blocksize.inner - offset / m.blocksize.inner)
      (f := fun k => readSlot m.blocksize.inner size offset k (slot m.blocks k))
      (fun k low high => by
        have touched := (inRange k).mp (List.mem_range'_1.mpr ⟨low, high⟩)
        refine ordered_widen (readSlot_ordered touched (slots k)) ?_ ?_
        · simp only [subStart]
          omega
        · rw [Nat.add_mul, Nat.one_mul]
          simp only [subStop]
          omega)
    exact ordered_widen ordered (by omega) (by omega)
  · intro v
    simp only [List.mem_flatten, List.mem_map, inRange]
    constructor
    · rintro ⟨_, ⟨k, touched, rfl⟩, member⟩
      obtain ⟨w, member, overlap, same⟩ := (mem_readSlot (slots k)).mp member
      exact ⟨w, List.mem_flatten.mp (slot_member member), overlap, same⟩
    · rintro ⟨w, member, overlap, same⟩
      obtain ⟨k, member⟩ := mem_flatten_iff_slot.mp (List.mem_flatten.mpr member)
      obtain ⟨first, -, last⟩ := ordered_member (slots k).ordered member
      rw [Nat.add_mul, Nat.one_mul] at last
      exact ⟨_, ⟨k, ⟨by omega, by omega⟩, rfl⟩, (mem_readSlot (slots k)).mpr ⟨w, member, overlap, same⟩⟩

theorem prepareRead_spec (m : LocalFileManifest) (size offset : Nat)
    (fits : min offset m.size + min size (m.size - min offset m.size) + m.blocksize.inner < u64Limit)
    (slots : ∀ i, SlotOk (i * m.blocksize.inner) ((i + 1) * m.blocksize.inner) (slot m.blocks i)) :
    ∃ views, prepareRead m size offset = .ok (min size (m.size - min offset m.size), views) ∧
      ReadResult (min size (m.size - min offset m.size)) (min offset m.size) m.blocks views := by
  obtain ⟨chunks, run, result⟩ := read_loop m fits slots
  refine ⟨chunks.flatten, ?_, result⟩
  unfold prepareRead
  dsimp only
  rw [checkedSub_ok (Nat.min_le_right offset m.size), ok_bind, add_ok (by omega), ok_bind, run]
  rfl

end Read

section Truncate
variable {size : Nat}

theorem rdropWhile_slot (blocks : List (List ChunkView)) (i : Nat) :
    slot (blocks.rdropWhile List.isEmpty) i = slot blocks i := by
  induction blocks using List.reverseRecOn with
  | nil => rfl
  | append_singleton rest views ih =>
    rw [List.rdropWhile_concat]
    split
    · rename_i empty
      rw [ih]
      have : views = [] := by simpa using empty
      subst views
      unfold slot
      simp only [List.getD_eq_getElem?_getD, List.getElem?_append]
      split
      · rfl
      · rename_i past
        rw [List.getElem?_eq_none (by omega)]
        cases i - rest.length <;> simp
    · rfl

theorem keptBefore_of_le {lo hi : Nat} {views : List ChunkView} (ok : SlotOk lo hi views)
    (le : hi ≤ size) : keptBefore views size = views := by
  have ends : ∀ v ∈ views, v.stop ≤ size := by
    intro v member
    have := (ordered_member ok.ordered member).2.2
    omega
  have all : views.filter (fun v => decide (v.start < size)) = views := by
    rw [List.filter_eq_self]
    intro v member
    have := (ok.valid v member).inside
    have := ends v member
    simp
    omega
  rw [keptBefore, all, map_clipStop_of_le ends]

theorem keptBefore_of_ge {lo hi : Nat} {views : List ChunkView} (ordered : OrderedViews lo hi views)
    (ge : size ≤ lo) : keptBefore views size = [] := by
  rw [keptBefore, List.map_eq_nil_iff, List.filter_eq_nil_iff]
  intro v member
  have := (ordered_member ordered member).1
  simp
  omega

theorem keptBefore_slots {blocksize : Nat} {blocks : List (List ChunkView)} (size : Nat)
    (positive : 0 < blocksize)
    (slots : ∀ i, SlotOk (i * blocksize) ((i + 1) * blocksize) (slot blocks i)) (i : Nat) :
    keptBefore (slot blocks i) size =
      if i < size / blocksize then slot blocks i
      else if i = size / blocksize then keptBefore (slot blocks (size / blocksize)) size
      else [] := by
  split
  · rename_i before
    refine keptBefore_of_le (slots i) ?_
    exact (Nat.le_div_iff_mul_le positive).mp before
  split
  · rename_i same
    rw [same]
  · refine keptBefore_of_ge (slots i).ordered ?_
    have : size / blocksize < i := by omega
    exact Nat.le_of_lt ((Nat.div_lt_iff_lt_mul positive).mp this)

/-- Truncating cuts every slot at the new size, and removes the chunks of the slots from the
    cut one on, except those the cut slot still refers to. -/
structure TruncateResult (blocksize size : Nat) (before blocks : List (List ChunkView))
    (removed : Finset ChunkID) : Prop where
  slots : ∀ i, slot blocks i = keptBefore (slot before i) size
  last : blocks.getLast? ≠ some []
  length : blocks.length ≤ before.length
  removed : ∀ id, id ∈ removed ↔
    (∃ i, size / blocksize ≤ i ∧ id ∈ viewIds (slot before i)) ∧
    id ∉ viewIds (slot blocks (size / blocksize))

theorem truncate_whole_blocks {blocksize : Nat} {before : List (List ChunkView)}
    (positive : 0 < blocksize)
    (slots : ∀ i, SlotOk (i * blocksize) ((i + 1) * blocksize) (slot before i))
    (zero : lowerBound ChunkView.start size (slot before (size / blocksize)) = 0) :
    TruncateResult blocksize size before
      ((before.take (size / blocksize)).rdropWhile List.isEmpty)
      (viewIds (before.drop (size / blocksize)).flatten) := by
  have none := keptBefore_none (slots _).ordered zero
  have cutSlots : ∀ i, slot ((before.take (size / blocksize)).rdropWhile List.isEmpty) i =
      keptBefore (slot before i) size := by
    intro i
    rw [rdropWhile_slot, slot_take, keptBefore_slots size positive slots, none]
    simp
  refine ⟨cutSlots, ?_, ?_, ?_⟩
  · intro last
    have nonempty : (before.take (size / blocksize)).rdropWhile List.isEmpty ≠ [] := by
      intro empty
      simp [empty] at last
    have := List.rdropWhile_last_not List.isEmpty _ nonempty
    rw [List.getLast?_eq_some_getLast nonempty] at last
    simp [Option.some.inj last] at this
  · have := (List.rdropWhile_prefix (p := List.isEmpty) (before.take (size / blocksize))).length_le
    simp at this
    omega
  · intro id
    rw [mem_drop_ids, cutSlots, none]
    simp

/-- Some view of that block begins before the new size: the block stays, with its last view cut. -/
theorem truncate_inside_block {blocksize : Nat} {before : List (List ChunkView)}
    (positive : 0 < blocksize)
    (slots : ∀ i, SlotOk (i * blocksize) ((i + 1) * blocksize) (slot before i))
    (kept : keptBefore (slot before (size / blocksize)) size ≠ []) :
    TruncateResult blocksize size before
      (before.take (size / blocksize) ++ [keptBefore (slot before (size / blocksize)) size])
      (viewIds (before.drop (size / blocksize)).flatten \
        viewIds (keptBefore (slot before (size / blocksize)) size)) := by
  have inside : size / blocksize < before.length := by
    refine slot_inside fun empty => kept ?_
    rw [empty]
    rfl
  have cutSlots : ∀ i, slot (before.take (size / blocksize) ++
      [keptBefore (slot before (size / blocksize)) size]) i = keptBefore (slot before i) size := by
    intro i
    rw [keptBefore_slots size positive slots i]
    have length : (before.take (size / blocksize)).length = size / blocksize := by
      simp
      omega
    unfold slot
    simp only [List.getD_eq_getElem?_getD, List.getElem?_append, length, List.getElem?_take]
    split
    · rfl
    split
    · rename_i same
      subst i
      simp
    · rw [List.getElem?_eq_none (by simp; omega)]
      rfl
  refine ⟨cutSlots, ?_, ?_, ?_⟩
  · simp [kept]
  · simp
    omega
  · intro id
    rw [Finset.mem_sdiff, mem_drop_ids, cutSlots]

theorem prepareTruncate_spec (m : LocalFileManifest) (size : Nat) (timestamp : DateTime)
    (smaller : size < m.size)
    (slots : ∀ i, SlotOk (i * m.blocksize.inner) ((i + 1) * m.blocksize.inner) (slot m.blocks i)) :
    ∃ blocks removed, TruncateResult m.blocksize.inner size m.blocks blocks removed ∧
      prepareTruncate m size timestamp = .ok
        ({ m with blocks := blocks, needSync := true, size := size, updated := timestamp },
          removed) := by
  have positive := blocksize_positive m.blocksize
  have ordered := (slots (size / m.blocksize.inner)).ordered
  have chunks : (m.getChunks (size / m.blocksize.inner)).getD [] =
      slot m.blocks (size / m.blocksize.inner) := by
    rw [LocalFileManifest.getChunks, slot, List.getD_eq_getElem?_getD]
  unfold prepareTruncate
  rw [if_neg (by omega)]
  simp only [chunks, stopIndex_eq]
  by_cases zero : lowerBound ChunkView.start size (slot m.blocks (size / m.blocksize.inner)) = 0
  · exact ⟨_, _, truncate_whole_blocks positive slots zero, by simp [zero]⟩
  have bound : lowerBound ChunkView.start size (slot m.blocks (size / m.blocksize.inner)) ≤
    (slot m.blocks (size / m.blocksize.inner)).length := lowerBound_le_length
  have found := List.getElem?_eq_getElem (show lowerBound ChunkView.start size
    (slot m.blocks (size / m.blocksize.inner)) - 1 < (slot m.blocks (size / m.blocksize.inner)).length
    by omega)
  have last := keptBefore_last ordered (by omega) found
  obtain ⟨-, early, -⟩ := filter_before_eq ordered (by omega) found
  have remainder : size % m.blocksize.inner ≠ 0 := by
    -- the view cut begins in the block and before the new size
    have begins := (ordered_member ordered (List.mem_of_getElem? found)).1
    have := Nat.div_add_mod size m.blocksize.inner
    rw [Nat.mul_comm] at this
    omega
  refine ⟨_, _, truncate_inside_block positive slots (by simp [last]), ?_⟩
  have checked : assert (size % m.blocksize.inner != 0) "The remainder cannot be zero" = .ok () :=
    assert_eq_ok.mpr (by simpa using remainder)
  have prior := getRange_prefix (show lowerBound ChunkView.start size
    (slot m.blocks (size / m.blocksize.inner)) - 1 ≤ (slot m.blocks (size / m.blocksize.inner)).length
    by omega)
  rw [if_neg zero, checked, found, ok_bind, expectSome, ok_bind, nonZero_ok (by omega), ok_bind]
  simp only [prior, last, pure_eq_ok, ok_bind, clipStop]

end Truncate

section Reshape

/-- An operation that reshapes the views of a slot into one view over the same span. -/
structure Reshapes (id : ChunkID) (views : List ChunkView) (operation : ReshapeBlockOperation) :
    Prop where
  source : operation.source = views
  first : ∃ v rest, views = v :: rest ∧ operation.destination.start = v.start
  last : operation.destination.stop = viewsEnd 0 views
  inside : operation.destination.start < operation.destination.stop
  aligned : operation.destination.isAlignedWithRawData = true
  notBlock : operation.destination.isBlock = false
  kind :
    (operation.writeBack = true ∧ operation.destination.id = id ∧
      operation.cleanupIds = viewIds views) ∨
    (operation.writeBack = false ∧ views = [operation.destination] ∧ operation.cleanupIds = ∅)

def NoReshape (views : List ChunkView) : Prop :=
  views = [] ∨ ∃ v, views = [v] ∧ v.isBlock = true

theorem viewsEnd_getLast (current : Nat) (v : ChunkView) {w : ChunkView} {rest : List ChunkView} :
    ((w :: rest).getLast (List.cons_ne_nil w rest)).stop = viewsEnd current (v :: w :: rest) := by
  induction rest generalizing v w with
  | nil => rfl
  | cons u rest ih =>
    rw [List.getLast_cons_cons]
    exact ih w

theorem new_reshapes (id : ChunkID) {lo hi : Nat} {v : ChunkView} {rest : List ChunkView}
    (ok : SlotOk lo hi (v :: rest)) :
    ∃ view, ChunkView.new id v.start (viewsEnd 0 (v :: rest)) = .ok view ∧
      Reshapes id (v :: rest) (.toReshape (v :: rest) view) := by
  obtain ⟨w, member, stop⟩ := viewsEnd_stop 0 (List.cons_ne_nil v rest)
  have valid := ok.valid w member
  have inside : v.start < viewsEnd 0 (v :: rest) := by
    have here := (ok.valid v (by simp)).inside
    have after := ordered_bounds (ordered_viewsEnd ok.ordered.2.2).1
    exact Nat.lt_of_lt_of_le here after
  have fits : viewsEnd 0 (v :: rest) < u64Limit := by
    have := valid.right
    have := valid.fits
    omega
  refine ⟨_, ChunkView.new_ok inside fits, rfl, ⟨v, rest, rfl, rfl⟩, rfl, inside, ?_, rfl,
    Or.inl ⟨rfl, rfl, rfl⟩⟩
  rw [ChunkView.aligned_iff]
  exact ⟨rfl, by simp only [ReshapeBlockOperation.destination]; omega⟩

theorem tryReshape_spec {lo hi : Nat} {views : List ChunkView} (id : ChunkID)
    (ok : SlotOk lo hi views) :
    (ReshapeBlockOperation.tryReshape id views = .ok none ∧ NoReshape views) ∨
    ∃ operation, ReshapeBlockOperation.tryReshape id views = .ok (some operation) ∧
      Reshapes id views operation := by
  match views with
  | [] => exact Or.inl ⟨rfl, Or.inl rfl⟩
  | [v] =>
    unfold ReshapeBlockOperation.tryReshape
    dsimp only
    split
    · rename_i block
      exact Or.inl ⟨rfl, Or.inr ⟨v, rfl, block⟩⟩
    split
    · rename_i notBlock aligned
      refine Or.inr ⟨_, rfl, rfl, ⟨v, [], rfl, rfl⟩, rfl, (ok.valid v (by simp)).inside, aligned,
        by simpa [ReshapeBlockOperation.destination] using notBlock, Or.inr ⟨rfl, rfl, rfl⟩⟩
    · obtain ⟨view, new, spec⟩ := new_reshapes id ok
      refine Or.inr ⟨_, ?_, spec⟩
      rw [show v.stop = viewsEnd 0 [v] from rfl, new]
      rfl
  | v :: w :: rest =>
    obtain ⟨view, new, spec⟩ := new_reshapes id ok
    refine Or.inr ⟨_, ?_, spec⟩
    unfold ReshapeBlockOperation.tryReshape
    dsimp only
    rw [viewsEnd_getLast 0 v, new]
    rfl

theorem commit_ok {id : ChunkID} {views : List ChunkView} {operation : ReshapeBlockOperation}
    (fromData : List Byte → HashDigest) (data : List Byte) (reshapes : Reshapes id views operation) :
    operation.commit fromData data = .ok [operation.destination.promoted (fromData data)] := by
  unfold ReshapeBlockOperation.commit
  rw [ChunkView.promote_ok reshapes.inside reshapes.notBlock reshapes.aligned]
  rfl

theorem reshaped_ok {id : ChunkID} {lo hi : Nat} {views : List ChunkView}
    {operation : ReshapeBlockOperation} (digest : HashDigest) (ok : SlotOk lo hi views)
    (reshapes : Reshapes id views operation) :
    SlotOk lo hi [operation.destination.promoted digest] := by
  obtain ⟨v, rest, rfl, start⟩ := reshapes.first
  obtain ⟨w, member, stop⟩ := viewsEnd_stop 0 (List.cons_ne_nil v rest)
  have first := (ordered_member ok.ordered (show v ∈ v :: rest by simp)).1
  have last := (ordered_member ok.ordered member).2.2
  have valid := ok.valid w member
  have end_ := reshapes.last
  have inside := reshapes.inside
  obtain ⟨left, right⟩ := (ChunkView.aligned_iff _).mp reshapes.aligned
  refine ⟨⟨?_, Nat.le_of_lt inside, ?_⟩, ?_⟩
  · simp only [ChunkView.promoted]
    omega
  · simp only [ChunkView.promoted, Ordered]
    omega
  · intro u mu
    rw [List.mem_singleton.mp mu]
    have := valid.right
    have := valid.fits
    exact ⟨Nat.le_of_eq left.symm, inside, Nat.le_of_eq right, by
      simp only [ChunkView.promoted]
      omega⟩

/-- The operations prepared for a list of slots numbered from first on. -/
structure ReshapePlan (ids : Nat → ChunkID) (blocks : List (List ChunkView))
    (operations : List (Nat × ReshapeBlockOperation)) : Prop where
  distinct : (operations.map Prod.fst).Pairwise (· < ·)
  reshapes : ∀ i operation, (i, operation) ∈ operations →
    Reshapes (ids i) (slot blocks i) operation
  complete : ∀ i, i ∈ operations.map Prod.fst ∨ NoReshape (slot blocks i)

theorem reshapes_inside {id : ChunkID} {i : Nat} {blocks : List (List ChunkView)}
    {operation : ReshapeBlockOperation} (reshapes : Reshapes id (slot blocks i) operation) :
    i < blocks.length := by
  obtain ⟨v, rest, same, -⟩ := reshapes.first
  exact slot_inside (by simp [same])

def reshapeSlot (ids : Nat → ChunkID) (p : List ChunkView × Nat) :
    Checked (Option (Nat × ReshapeBlockOperation)) := do
  let operation ← ReshapeBlockOperation.tryReshape (ids p.2) p.1
  return operation.map (p.2, ·)

theorem reshape_loop (ids : Nat → ChunkID) {blocksize : Nat} {blocks : List (List ChunkView)}
    (rest : List (List ChunkView)) {n : Nat}
    (slots : ∀ i, SlotOk (i * blocksize) ((i + 1) * blocksize) (slot blocks i))
    (shift : ∀ i, slot rest i = slot blocks (n + i)) :
    ∃ found, (rest.zipIdx n).mapM (reshapeSlot ids) = .ok found ∧
      ((found.filterMap id).map Prod.fst).Pairwise (· < ·) ∧
      (∀ i operation, (i, operation) ∈ found.filterMap id →
        n ≤ i ∧ Reshapes (ids i) (slot blocks i) operation) ∧
      ∀ i, n ≤ i → i ∈ (found.filterMap id).map Prod.fst ∨ NoReshape (slot blocks i) := by
  induction rest generalizing n with
  | nil =>
    refine ⟨[], rfl, by simp, by simp, ?_⟩
    intro i le
    have := shift (i - n)
    rw [show n + (i - n) = i by omega] at this
    exact Or.inr (Or.inl (by simpa [slot] using this.symm))
  | cons views rest ih =>
    have here : slot blocks n = views := by simpa [slot] using (shift 0).symm
    obtain ⟨found, run, sorted, each, complete⟩ := ih (n := n + 1) (by
      intro i
      simpa [slot, Nat.add_comm, Nat.add_left_comm] using shift (i + 1))
    have later : ∀ i, n ≤ i → i = n ∨ n + 1 ≤ i := by omega
    rw [List.zipIdx_cons, List.mapM_cons]
    have ok := slots n
    rw [here] at ok
    rcases tryReshape_spec (ids n) ok with ⟨none, stays⟩ | ⟨operation, some, reshapes⟩
    · refine ⟨Option.none :: found, by simp [reshapeSlot, none, run], by simpa using sorted, ?_, ?_⟩
      · intro i operation member
        obtain ⟨le, reshapes⟩ := each i operation (by simpa using member)
        exact ⟨by omega, reshapes⟩
      · intro i le
        rcases later i le with rfl | le
        · exact Or.inr (here ▸ stays)
        · simpa using complete i le
    · refine ⟨Option.some (n, operation) :: found, by simp [reshapeSlot, some, run], ?_, ?_, ?_⟩
      · simp only [List.filterMap_cons, id_eq, List.map_cons, List.pairwise_cons]
        refine ⟨?_, sorted⟩
        intro i member
        obtain ⟨p, mp, rfl⟩ := List.mem_map.mp member
        exact (each p.1 p.2 mp).1
      · intro i operation' member
        rcases List.mem_cons.mp (show _ ∈ (n, operation) :: found.filterMap id from member) with
          same | member
        · cases same
          exact ⟨Nat.le_refl n, here ▸ reshapes⟩
        · obtain ⟨le, spec⟩ := each i operation' member
          exact ⟨by omega, spec⟩
      · intro i le
        rcases later i le with rfl | le
        · exact Or.inl (by simp)
        · rcases complete i le with member | stays
          · exact Or.inl (by simpa using Or.inr (by simpa using member))
          · exact Or.inr stays

theorem prepareReshape_spec (m : LocalFileManifest) (ids : Nat → ChunkID)
    (slots : ∀ i, SlotOk (i * m.blocksize.inner) ((i + 1) * m.blocksize.inner) (slot m.blocks i)) :
    ∃ operations, prepareReshape m ids = .ok operations ∧ ReshapePlan ids m.blocks operations := by
  obtain ⟨found, run, sorted, each, complete⟩ := reshape_loop ids m.blocks (n := 0) slots
    (by simp)
  refine ⟨found.filterMap id, ?_, sorted, fun i operation member => (each i operation member).2,
    fun i => complete i (Nat.zero_le i)⟩
  unfold prepareReshape
  rw [show (fun (p : List ChunkView × Nat) => do
    let operation ← ReshapeBlockOperation.tryReshape (ids p.2) p.1
    return operation.map (p.2, ·)) = reshapeSlot ids from rfl, run]
  rfl

theorem slot_set (blocks : List (List ChunkView)) {block : Nat} (i : Nat) (views : List ChunkView)
    (inside : block < blocks.length) :
    slot (blocks.set block views) i = if i = block then views else slot blocks i := by
  unfold slot
  simp only [List.getD_eq_getElem?_getD, List.getElem?_set]
  by_cases same : block = i
  · subst i
    simp [inside]
  · have other : i ≠ block := fun h => same h.symm
    simp [same, other]

theorem commitReshape_ok {ids : Nat → ChunkID} (fromData : List Byte → HashDigest)
    (m : LocalFileManifest) {i : Nat} {operation : ReshapeBlockOperation} (data : List Byte)
    (reshapes : Reshapes (ids i) (slot m.blocks i) operation) :
    commitReshape fromData m i operation data = .ok { m with
      blocks := m.blocks.set i [operation.destination.promoted (fromData data)] } := by
  unfold commitReshape
  rw [commit_ok fromData data reshapes]
  rfl

end Reshape

end ParsecCloud
