import ParsecCloud.File.Content

/- A file and its chunks behave as a plain array of bytes, and the store never holds anything
   else than the chunks of the manifest. -/
namespace ParsecCloud
open Rust OrderedSegments Ownership

section Flat

/-- Writing past the end fills the gap with zeroes; writing nothing does nothing. -/
def flatWrite (flat data : List Byte) (offset : Nat) : List Byte :=
  if data = [] then flat
  else flat.take offset ++ List.replicate (offset - flat.length) 0 ++ data ++
    flat.drop (offset + data.length)

def flatResize (flat : List Byte) (length : Nat) : List Byte :=
  flat.take length ++ List.replicate (length - flat.length) 0

def flatRead (flat : List Byte) (size offset : Nat) : List Byte := (flat.drop offset).take size

def FileOp.flatApply (flat : List Byte) : FileOp → List Byte
  | .write data offset _ _ => flatWrite flat data offset
  | .resize length _ => flatResize flat length
  | .reshape _ => flat

def FileOp.flatRun (flat : List Byte) (ops : List FileOp) : List Byte := ops.foldl FileOp.flatApply flat

variable {store store' : ChunkStore} {views views' : List ChunkView}

theorem contents_write {n offset : Nat} {data : List Byte} (nonempty : data ≠ [])
    (hole : ∀ p, n ≤ p → byteIn store views p = 0)
    (bytes : ∀ p, byteIn store' views' p =
      if offset ≤ p ∧ p < offset + data.length then data.getD (p - offset) 0
      else byteIn store views p) :
    contents store' views' 0 (max n (offset + data.length)) =
      flatWrite (contents store views 0 n) data offset := by
  have padded : (contents store views 0 n).take offset ++ List.replicate (offset - n) 0 =
      contents store views 0 offset := by
    refine List.ext_getElem? fun i => ?_
    rw [List.getElem?_append, List.getElem?_take, contents_getElem?, contents_getElem?,
      List.getElem?_replicate, List.length_take, contents_length, Nat.zero_add]
    have := hole i
    grind
  rw [flatWrite, if_neg nonempty, contents_length, padded]
  refine List.ext_getElem? fun i => ?_
  rw [contents_getElem?, List.getElem?_append, List.getElem?_append, List.getElem?_drop,
    contents_getElem?, contents_getElem?, List.length_append, contents_length, bytes, Nat.zero_add,
    Nat.zero_add]
  by_cases before : i < offset
  · have : i < max n (offset + data.length) := by omega
    simp [before, this, Nat.lt_add_right data.length before]
  · by_cases inside : i < offset + data.length
    · have : i < max n (offset + data.length) := by omega
      have range : offset ≤ i ∧ i < offset + data.length := by omega
      have small : i - offset < data.length := by omega
      simp [before, inside, this, range, small]
    · have past : offset + data.length + (i - (offset + data.length)) = i := by omega
      have same : i < max n (offset + data.length) ↔ i < n := by omega
      simp only [inside, before, past, same, and_false, if_false]

theorem contents_resize {n length : Nat} (hole : ∀ p, n ≤ p → byteIn store views p = 0)
    (bytes : ∀ p, p < length → byteIn store' views' p = byteIn store views p) :
    contents store' views' 0 length = flatResize (contents store views 0 n) length := by
  refine List.ext_getElem? fun i => ?_
  rw [flatResize, List.getElem?_append, List.getElem?_take, contents_getElem?, contents_getElem?,
    List.getElem?_replicate, List.length_take, contents_length, Nat.zero_add]
  have := hole i
  have := bytes i
  grind

theorem contents_read {n size offset : Nat} :
    flatRead (contents store views 0 n) size offset =
      contents store views (min offset n) (min size (n - min offset n)) := by
  refine List.ext_getElem? fun i => ?_
  rw [flatRead, List.getElem?_take, List.getElem?_drop, contents_getElem?, contents_getElem?]
  have range : (i < size ∧ offset + i < n) ↔ i < min size (n - min offset n) := by omega
  by_cases inside : i < min size (n - min offset n)
  · have := range.mpr inside
    have position : min offset n + i = offset + i := by omega
    simp [this, inside, position]
  · by_cases small : i < size
    · have : ¬ offset + i < n := fun h => inside (range.mp ⟨small, h⟩)
      simp [small, this, inside]
    · simp [small, inside]

end Flat

/-- The chunks of the store are those of the manifest, each of the size its views say. -/
structure WellStored (s : FileState) : Prop where
  layout : Layout s.manifest.blocksize.inner s.manifest.size s.manifest.blocks
  clean : IdClean s.manifest.blocks
  stored : Stored s.store s.manifest.blocks.flatten
  tight : ∀ id, (s.store id).isSome = true → id ∈ chunkIds s.manifest
  bounded : s.manifest.size + s.manifest.blocksize.inner < u64Limit

structure Refines (s : FileState) (flat : List Byte) : Prop where
  wellStored : WellStored s
  same : flat = contents s.store s.manifest.blocks.flatten 0 s.manifest.size

theorem past_size {m : LocalFileManifest} {store : ChunkStore}
    (layout : Layout m.blocksize.inner m.size m.blocks) (p : Nat) (past : m.size ≤ p) :
    byteIn store m.blocks.flatten p = 0 := by
  refine byteIn_hole fun v member covers => ?_
  have := (ordered_member (layout_flatten layout) member).2.2
  have := covers.2
  omega

theorem flatten_valid {m : LocalFileManifest} (layout : Layout m.blocksize.inner m.size m.blocks) :
    ∀ v ∈ m.blocks.flatten, v.Valid := by
  intro v member
  obtain ⟨i, member⟩ := mem_flatten_iff_slot.mp member
  exact (layout.slots i).valid v member

theorem read_refines {s : FileState} {flat : List Byte} (refines : Refines s flat)
    (size offset : Nat) : s.read size offset = .ok (flatRead flat size offset) := by
  obtain ⟨⟨layout, -, stored, -, bounded⟩, same⟩ := refines
  rw [same, contents_read]
  obtain ⟨views, run, ordered, member⟩ := prepareRead_spec s.manifest size offset
    (by omega) layout.slots
  have readable : ∀ v ∈ views, Readable v := by
    intro v mv
    obtain ⟨w, mw, overlap, rfl⟩ := (member v).mp mv
    obtain ⟨left, inside, right, -⟩ := flatten_valid layout w mw
    exact ⟨by simp only [clipTo]; omega, by simp only [clipTo]; omega, by simp only [clipTo]; omega⟩
  have cut : Stored s.store views := by
    intro v mv
    obtain ⟨w, mw, -, rfl⟩ := (member v).mp mv
    exact stored w mw
  have bytes : ∀ p, min offset s.manifest.size ≤ p →
      p < min offset s.manifest.size + min size (s.manifest.size - min offset s.manifest.size) →
      byteIn s.store views p = byteIn s.store s.manifest.blocks.flatten p := by
    intro p low high
    refine byteIn_congr (layout_flatten layout) ordered ?_ ?_
    · intro v mv covers
      obtain ⟨w, mw, -, rfl⟩ := (member v).mp mv
      obtain ⟨left, right⟩ := covers
      simp only [clipTo] at left right
      exact ⟨w, mw, ⟨by omega, by omega⟩, rfl⟩
    · intro w mw covers
      obtain ⟨left, right⟩ := covers
      refine ⟨_, (member _).mpr ⟨w, mw, ⟨by omega, by omega⟩, rfl⟩, ?_, ?_⟩
      · simp only [clipTo]
        omega
      · simp only [clipTo]
        omega
  have copied : copyViews s.store offset views =
      copyViews s.store (min offset s.manifest.size) views := by
    by_cases past : s.manifest.size < offset
    · have none : views = [] := by
        rw [List.eq_nil_iff_forall_not_mem]
        intro v mv
        obtain ⟨w, mw, overlap, -⟩ := (member v).mp mv
        have := (ordered_member (layout_flatten layout) mw).2.2
        omega
      rw [none]
      rfl
    · rw [Nat.min_eq_left (by omega)]
  unfold FileState.read
  rw [run, ok_bind]
  dsimp only
  rw [copied, copyViews_eq ordered readable cut, ok_bind]
  dsimp only
  obtain ⟨order, bound⟩ := ordered_viewsEnd ordered
  rw [← contents_congr bytes]
  generalize min size (s.manifest.size - min offset s.manifest.size) = n at *
  generalize min offset s.manifest.size = lo at *
  have start := ordered_bounds order
  split
  · rename_i short
    have rest : contents s.store views lo n = contents s.store views lo (viewsEnd lo views - lo) ++
        contents s.store views (viewsEnd lo views) (n - (viewsEnd lo views - lo)) := by
      conv => lhs; rw [show n = viewsEnd lo views - lo + (n - (viewsEnd lo views - lo)) by omega,
        contents_add, show lo + (viewsEnd lo views - lo) = viewsEnd lo views by omega]
    have hole : contents s.store views (viewsEnd lo views) (n - (viewsEnd lo views - lo)) =
        List.replicate (n - (viewsEnd lo views - lo)) 0 := by
      refine contents_hole fun p low high => byteIn_hole fun v mv covers => ?_
      have := (ordered_member order mv).2.2
      have := covers.2
      omega
    rw [rest, hole]
    rfl
  · rename_i full
    rw [show n = viewsEnd lo views - lo by omega]
    rfl

section Update
variable {s : FileState} {m' : LocalFileManifest} {store' : ChunkStore}
  {added : Nat → Option ChunkView} {removed : Finset ChunkID}

/-- What an operation does to the store, next to what it does to the views. -/
structure StoreUpdate (added : Nat → Option ChunkView) (removed : Finset ChunkID)
    (before after : ChunkStore) : Prop where
  new : ∀ i v, added i = some v → ∃ data, after v.id = some data ∧ data.length = v.rawSize
  same : ∀ id, id ∉ removed → (∀ i, id ∉ addedIds added i) → after id = before id
  gone : ∀ id ∈ removed, after id = none

theorem kept_data (update : ViewUpdate s.manifest.blocks m'.blocks added removed)
    (stores : StoreUpdate added removed s.store store') {v w : ChunkView}
    (mv : v ∈ m'.blocks.flatten) (mw : w ∈ s.manifest.blocks.flatten) (part : SameChunk w v) :
    store' v.id = s.store w.id := by
  rw [part.1]
  obtain ⟨i, mv⟩ := mem_flatten_iff_slot.mp mv
  obtain ⟨j, mw⟩ := mem_flatten_iff_slot.mp mw
  refine stores.same v.id ?_ ?_
  · exact update_disjoint update.ids ⟨i, mem_slotIds.mpr ⟨v, mv, rfl⟩⟩
  · intro k new
    exact update.ids.fresh.unused k v.id new ⟨j, mem_slotIds.mpr ⟨w, mw, part.1⟩⟩

theorem kept_byte (update : ViewUpdate s.manifest.blocks m'.blocks added removed)
    (stores : StoreUpdate added removed s.store store') {v w : ChunkView}
    (mv : v ∈ m'.blocks.flatten) (mw : w ∈ s.manifest.blocks.flatten) (part : SameChunk w v)
    (p : Nat) : chunkByte store' v p = chunkByte s.store w p := by
  rw [chunkByte, chunkByte, kept_data update stores mv mw part, part.2.1]

theorem wellStored_update (well : WellStored s) (m' : LocalFileManifest)
    (layout : Layout m'.blocksize.inner m'.size m'.blocks)
    (bounded : m'.size + m'.blocksize.inner < u64Limit)
    (update : ViewUpdate s.manifest.blocks m'.blocks added removed)
    (stores : StoreUpdate added removed s.store store') : WellStored ⟨m', store'⟩ := by
  refine ⟨layout, update_clean well.clean update, ?_, ?_, bounded⟩
  · intro v mv
    obtain ⟨i, here⟩ := mem_flatten_iff_slot.mp mv
    rcases update.views i v here with new | ⟨w, mw, part⟩
    · exact stores.new i v new
    · obtain ⟨data, found, length⟩ := well.stored w (slot_member mw)
      exact ⟨data, (kept_data update stores mv (slot_member mw) part).trans found,
        length.trans part.2.2⟩
  · intro id present
    have owned' := update_owned update.ids id
    rw [owned_slotIds, owned_slotIds] at owned'
    have stays : id ∉ removed := by
      intro lost
      simp [stores.gone id lost] at present
    refine owned'.mpr ⟨?_, stays⟩
    by_cases new : ∃ i, id ∈ addedIds added i
    · exact Or.inr new
    · left
      refine well.tight id ?_
      rw [← stores.same id stays fun i member => new ⟨i, member⟩]
      exact present

end Update

section WriteOperations
variable {blocksize offset : Nat} {ids : Nat → ChunkID} {data : List Byte}

def blockData (blocksize offset : Nat) (data : List Byte) (block : Nat) : List Byte :=
  (data.take (subStop blocksize data.length offset block - offset)).drop
    (subStart blocksize offset block - offset)

theorem writeChunkData_slice {operation : WriteOperation} {first last : Nat}
    (order : operation.chunkView.start ≤ operation.chunkView.stop)
    (begins : operation.offset = (first : Int))
    (ends : first + (operation.chunkView.stop - operation.chunkView.start) = last)
    (inside : last ≤ data.length) (small : data.length ≤ isizeMax) :
    writeChunkData data operation = .ok ((data.take last).drop first) := by
  have limit : isizeMax < i64Limit := by decide
  have total : (first : Int) +
      ((operation.chunkView.stop - operation.chunkView.start : Nat) : Int) = (last : Int) := by omega
  unfold writeChunkData
  dsimp only
  rw [assert_eq_ok.mpr (decide_eq_true order), ok_bind, begins, checkedAddUnsigned, total,
    if_pos (by omega), ok_bind, if_pos (by omega), Int.toNat_natCast, Int.toNat_natCast,
    slice_ok (by omega) inside]

theorem writeChunkData_eq {block : Nat} (positive : 0 < blocksize) (nonempty : 0 < data.length)
    (small : data.length ≤ isizeMax) (touched : Touched blocksize data.length offset block) :
    writeChunkData data ⟨newView blocksize data.length offset ids block,
        asI64 (subStart blocksize offset block - offset)⟩ =
      .ok (blockData blocksize offset data block) := by
  obtain ⟨-, low, inside, -, high⟩ := touched_bounds nonempty positive touched
  have limit : isizeMax < i64Limit := by decide
  refine writeChunkData_slice (Nat.le_of_lt inside) (asI64_small (by omega)) ?_ (by omega) small
  simp only [newView]
  omega

/-- The store while the operations of a write are executed, before block number k. -/
structure WriteStored (blocksize offset : Nat) (ids : Nat → ChunkID) (data : List Byte)
    (before : ChunkStore) (k : Nat) (store : ChunkStore) : Prop where
  new : ∀ block, Touched blocksize data.length offset block → block < k →
    store (ids block) = some (blockData blocksize offset data block)
  same : ∀ id, (∀ block, Touched blocksize data.length offset block → ids block ≠ id) →
    store id = before id

theorem write_operations_stored (before : ChunkStore) (ids : Nat → ChunkID) (positive : 0 < blocksize)
    (nonempty : 0 < data.length) (small : data.length ≤ isizeMax)
    (distinct : ∀ i j, Touched blocksize data.length offset i → Touched blocksize data.length offset j →
      ids i = ids j → i = j) :
    ∃ store, ((List.range' (offset / blocksize)
        (divCeil (offset + data.length) blocksize - offset / blocksize)).map fun block =>
          (⟨newView blocksize data.length offset ids block,
            asI64 (subStart blocksize offset block - offset)⟩ : WriteOperation)).foldlM
        (fun (store : ChunkStore) operation => do
          let chunkData ← writeChunkData data operation
          return store.insert operation.chunkView.id chunkData) before = .ok store ∧
      WriteStored blocksize offset ids data before
        (divCeil (offset + data.length) blocksize) store := by
  rw [List.foldlM_map]
  have range : offset / blocksize ≤ divCeil (offset + data.length) blocksize := by
    refine Nat.le_of_lt ((lt_divCeil positive).mpr ?_)
    have := Nat.div_mul_le_self offset blocksize
    omega
  obtain ⟨store, run, final⟩ := foldlM_range (a := offset / blocksize)
    (n := divCeil (offset + data.length) blocksize - offset / blocksize)
    (P := WriteStored blocksize offset ids data before) (s := before)
    (f := fun (store : ChunkStore) block => do
      let chunkData ← writeChunkData data ⟨newView blocksize data.length offset ids block,
        asI64 (subStart blocksize offset block - offset)⟩
      return store.insert (newView blocksize data.length offset ids block).id chunkData)
    ⟨fun block touched early => by
      have := ((touched_iff_range positive).mp touched).1
      omega, fun _ _ => rfl⟩ (by
    intro k store low high stored
    have touched : Touched blocksize data.length offset k :=
      (touched_iff_range positive).mpr ⟨low, by omega⟩
    refine ⟨store.insert (ids k) (blockData blocksize offset data k), ?_, ?_, ?_⟩
    · rw [writeChunkData_eq positive nonempty small touched]
      rfl
    · intro block touchedB early
      unfold ChunkStore.insert
      split
      · rename_i same
        rw [distinct block k touchedB touched same]
      · rename_i other
        refine stored.new block touchedB ?_
        have : block ≠ k := fun h => other (by rw [h])
        omega
    · intro id others
      unfold ChunkStore.insert
      rw [if_neg fun h => others k touched h.symm]
      exact stored.same id others)
  rw [show offset / blocksize + (divCeil (offset + data.length) blocksize - offset / blocksize) =
    divCeil (offset + data.length) blocksize by omega] at final
  exact ⟨store, run, final⟩

end WriteOperations

section WriteContent
variable {blocksize size offset : Nat} {ids : Nat → ChunkID}

theorem keptViews_covers {block : Nat} {views : List ChunkView} {v : ChunkView} {p : Nat}
    (member : v ∈ keptViews blocksize size offset block views) (covers : CoversView v p) :
    ∃ w ∈ views, CoversView w p ∧ SameChunk w v := by
  obtain ⟨left, right⟩ := covers
  rcases List.mem_append.mp member with member | member
  · rcases List.mem_append.mp member with member | member
    · obtain ⟨w, mw, -, rfl⟩ := mem_keptBefore.mp member
      simp only [clipStop] at left right
      exact ⟨w, mw, ⟨left, by omega⟩, rfl, rfl, rfl⟩
    · obtain ⟨w, mw, rfl⟩ := List.mem_map.mp member
      simp only [List.mem_filter, Bool.and_eq_true, decide_eq_true_eq] at mw
      simp only [clipStart] at left right
      exact ⟨w, mw.1, ⟨by omega, right⟩, rfl, rfl, rfl⟩
  · exact ⟨v, (List.mem_filter.mp member).1, ⟨left, right⟩, rfl, rfl, rfl⟩

theorem covered_keptViews (blocksize size offset block : Nat) {views : List ChunkView}
    {w : ChunkView} {p : Nat}
    (member : w ∈ views) (covers : CoversView w p)
    (outside : p < subStart blocksize offset block ∨ subStop blocksize size offset block ≤ p) :
    ∃ v ∈ keptViews blocksize size offset block views, CoversView v p := by
  obtain ⟨left, right⟩ := covers
  unfold keptViews
  simp only [List.mem_append]
  rcases outside with before | after
  · refine ⟨clipStop (subStart blocksize offset block) w, Or.inl (Or.inl ?_), left, ?_⟩
    · exact mem_keptBefore.mpr ⟨w, member, by omega, rfl⟩
    · simp only [clipStop]
      omega
  · by_cases early : w.start < subStop blocksize size offset block
    · refine ⟨clipStart (subStop blocksize size offset block) w, Or.inl (Or.inr ?_), after, right⟩
      refine List.mem_map.mpr ⟨w, List.mem_filter.mpr ⟨member, ?_⟩, rfl⟩
      simp only [Bool.and_eq_true, decide_eq_true_eq]
      omega
    · refine ⟨w, Or.inr (List.mem_filter.mpr ⟨member, ?_⟩), left, right⟩
      simp only [decide_eq_true_eq]
      omega

theorem blockData_length {data : List Byte} {block : Nat} (positive : 0 < blocksize)
    (nonempty : 0 < data.length) (touched : Touched blocksize data.length offset block) :
    (blockData blocksize offset data block).length =
      subStop blocksize data.length offset block - subStart blocksize offset block := by
  have := touched_bounds nonempty positive touched
  simp only [blockData, List.length_drop, List.length_take]
  omega

theorem blockData_getD {data : List Byte} {block p : Nat}
    (first : subStart blocksize offset block ≤ p)
    (last : p < subStop blocksize data.length offset block) :
    (blockData blocksize offset data block).getD (p - subStart blocksize offset block) 0 =
      data.getD (p - offset) 0 := by
  have : offset ≤ subStart blocksize offset block := Nat.le_max_left _ _
  rw [blockData, List.getD_eq_getElem?_getD, List.getElem?_drop, List.getElem?_take,
    if_pos (by omega), List.getD_eq_getElem?_getD]
  congr 2
  omega

variable {s : FileState} {state : WriteState} {store' : ChunkStore} {m' : LocalFileManifest}
  {data : List Byte}

theorem write_bytes (well : WellStored s) (nonempty : 0 < data.length)
    (blocks : m'.blocks = state.blocks) (layout : Layout m'.blocksize.inner m'.size m'.blocks)
    (result : WriteResult s.manifest.blocksize.inner data.length offset ids s.manifest.blocks state)
    (update : ViewUpdate s.manifest.blocks m'.blocks
      (writeAdded s.manifest.blocksize.inner data.length offset ids) state.removedIds)
    (stores : StoreUpdate (writeAdded s.manifest.blocksize.inner data.length offset ids)
      state.removedIds s.store store')
    (new : ∀ block, Touched s.manifest.blocksize.inner data.length offset block →
      store' (ids block) = some (blockData s.manifest.blocksize.inner offset data block)) (p : Nat) :
    byteIn store' m'.blocks.flatten p =
      if offset ≤ p ∧ p < offset + data.length then data.getD (p - offset) 0
      else byteIn s.store s.manifest.blocks.flatten p := by
  have positive := blocksize_positive s.manifest.blocksize
  have slots : ∀ i, slot m'.blocks i =
      if Touched s.manifest.blocksize.inner data.length offset i then
        newSlot s.manifest.blocksize.inner data.length offset ids i (slot s.manifest.blocks i)
      else slot s.manifest.blocks i := by
    rw [blocks]
    exact result.slots
  split
  · rename_i inside
    -- the view written in the block of p covers it
    have here := Nat.div_add_mod p s.manifest.blocksize.inner
    have small := Nat.mod_lt p positive
    rw [Nat.mul_comm] at here
    have touched : Touched s.manifest.blocksize.inner data.length offset
        (p / s.manifest.blocksize.inner) := ⟨by omega, by omega⟩
    have first : subStart s.manifest.blocksize.inner offset (p / s.manifest.blocksize.inner) ≤ p := by
      simp only [subStart]
      omega
    have last : p < subStop s.manifest.blocksize.inner data.length offset
        (p / s.manifest.blocksize.inner) := by
      simp only [subStop]
      omega
    have member : newView s.manifest.blocksize.inner data.length offset ids
        (p / s.manifest.blocksize.inner) ∈ m'.blocks.flatten := by
      refine mem_flatten_iff_slot.mpr ⟨p / s.manifest.blocksize.inner, ?_⟩
      rw [slots, if_pos touched]
      exact mem_newSlot.mpr (Or.inl rfl)
    rw [byteIn_covered (layout_flatten layout) member ⟨first, last⟩, chunkByte]
    simp only [newView]
    rw [new _ touched, Option.getD_some, blockData_getD first last]
  · rename_i outside
    refine byteIn_congr (layout_flatten well.layout) (layout_flatten layout) ?_ ?_
    · intro v mv covers
      obtain ⟨i, here⟩ := mem_flatten_iff_slot.mp mv
      rw [slots] at here
      split at here
      · rename_i touched
        rcases mem_newSlot.mp here with rfl | kept
        · have bounds := touched_bounds nonempty positive touched
          obtain ⟨left, right⟩ := covers
          simp only [newView] at left right
          omega
        · obtain ⟨w, mw, cw, part⟩ := keptViews_covers kept covers
          exact ⟨w, slot_member mw, cw, kept_byte update stores mv (slot_member mw) part p⟩
      · exact ⟨v, slot_member here, covers,
          kept_byte update stores mv (slot_member here) ⟨rfl, rfl, rfl⟩ p⟩
    · intro w mw covers
      obtain ⟨i, here⟩ := mem_flatten_iff_slot.mp mw
      by_cases touched : Touched s.manifest.blocksize.inner data.length offset i
      · have span := ordered_member (well.layout.slots i).ordered here
        rw [Nat.add_mul, Nat.one_mul] at span
        obtain ⟨v, mv, cv⟩ := covered_keptViews s.manifest.blocksize.inner data.length offset i
          here covers (by
            obtain ⟨left, right⟩ := covers
            simp only [subStart, subStop]
            omega)
        refine ⟨v, mem_flatten_iff_slot.mpr ⟨i, ?_⟩, cv⟩
        rw [slots, if_pos touched]
        exact mem_newSlot.mpr (Or.inr mv)
      · refine ⟨w, mem_flatten_iff_slot.mpr ⟨i, ?_⟩, covers⟩
        rw [slots, if_neg touched]
        exact here

theorem write_store_update {store : ChunkStore} (positive : 0 < blocksize) (nonempty : 0 < data.length)
    {removed : Finset ChunkID} {before : ChunkStore}
    (stays : ∀ block, Touched blocksize data.length offset block → ids block ∉ removed)
    (stored : WriteStored blocksize offset ids data before
      (divCeil (offset + data.length) blocksize) store) :
    StoreUpdate (writeAdded blocksize data.length offset ids) removed before
      (store.removeAll removed) ∧
    ∀ block, Touched blocksize data.length offset block →
      store.removeAll removed (ids block) = some (blockData blocksize offset data block) := by
  have new : ∀ block, Touched blocksize data.length offset block →
      store.removeAll removed (ids block) = some (blockData blocksize offset data block) := by
    intro block touched
    rw [ChunkStore.removeAll, if_neg (stays block touched)]
    exact stored.new block touched ((touched_iff_range positive).mp touched).2
  refine ⟨⟨?_, ?_, ?_⟩, new⟩
  · intro i v isNew
    unfold writeAdded at isNew
    split at isNew
    · rename_i touched
      cases isNew
      exact ⟨_, new i touched, blockData_length positive nonempty touched⟩
    · cases isNew
  · intro id kept others
    rw [ChunkStore.removeAll, if_neg kept]
    refine stored.same id fun block touched same => ?_
    exact others block (by simp [addedIds, writeAdded, touched, newView, same])
  · intro id lost
    rw [ChunkStore.removeAll, if_pos lost]

theorem write_refines {flat : List Byte} (timestamp : DateTime) (refines : Refines s flat)
    (allowed : FileOp.Allowed s (.write data offset timestamp ids)) :
    ∃ s', s.write data offset timestamp ids = .ok s' ∧ Refines s' (flatWrite flat data offset) := by
  obtain ⟨well, rfl⟩ := refines
  obtain ⟨small, fits, fresh⟩ := allowed
  have positive := blocksize_positive s.manifest.blocksize
  by_cases empty : data = []
  · subst data
    refine ⟨s, ?_, well, by simp [flatWrite]⟩
    simp [FileState.write, prepareWrite, ChunkStore.removeAll_empty]
  have nonempty : 0 < data.length := List.length_pos_iff.mpr empty
  obtain ⟨state, result, run⟩ := prepareWrite_spec s.manifest timestamp ids nonempty fits
    well.layout.slots
  have layout := write_layout nonempty positive fits well.layout result
  have update := write_update well.clean fresh result
  obtain ⟨store, stored, writes⟩ := write_operations_stored s.store ids
    positive nonempty small fresh.distinct
  have stays : ∀ block, Touched s.manifest.blocksize.inner data.length offset block →
      ids block ∉ state.removedIds := by
    intro block touched
    refine update_disjoint update.ids ⟨block, mem_slotIds.mpr
      ⟨newView s.manifest.blocksize.inner data.length offset ids block, ?_, rfl⟩⟩
    rw [result.slots, if_pos touched]
    exact mem_newSlot.mpr (Or.inl rfl)
  obtain ⟨stores, new⟩ := write_store_update positive nonempty stays writes
  refine ⟨_, ?_, wellStored_update well { s.manifest with
      blocks := state.blocks, needSync := true, updated := timestamp
      size := max s.manifest.size (offset + data.length) } layout ?_ update stores, ?_⟩
  · unfold FileState.write
    rw [run, ok_bind]
    dsimp only
    rw [result.operations, stored]
    rfl
  · have := well.bounded
    simp only
    omega
  · refine (contents_write empty ?_ ?_).symm
    · exact past_size well.layout
    · exact write_bytes well nonempty rfl layout result update stores new

end WriteContent

end ParsecCloud
