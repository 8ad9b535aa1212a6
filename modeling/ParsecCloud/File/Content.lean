import ParsecCloud.File.Store

/- The bytes that a list of views stands for, and what reading and copying views give. A
   position that no view covers holds a zero. -/
namespace ParsecCloud
open Rust OrderedSegments

def chunkByte (store : ChunkStore) (v : ChunkView) (p : Nat) : Byte :=
  ((store v.id).getD []).getD (p - v.rawOffset) 0

def byteIn (store : ChunkStore) (views : List ChunkView) (p : Nat) : Byte :=
  match segmentAt ChunkView.start ChunkView.stop views p with
  | some v => chunkByte store v p
  | none => 0

def contents (store : ChunkStore) (views : List ChunkView) (lo n : Nat) : List Byte :=
  (List.range n).map fun i => byteIn store views (lo + i)

abbrev CoversView (v : ChunkView) (p : Nat) : Prop := Covers ChunkView.start ChunkView.stop v p

/-- Every view has its chunk in the store, of the size that the view says. -/
def Stored (store : ChunkStore) (views : List ChunkView) : Prop :=
  ∀ v ∈ views, ∃ data, store v.id = some data ∧ data.length = v.rawSize

/-- What copying a view needs of it. A read of no byte inside a view gives one that is empty. -/
structure Readable (v : ChunkView) : Prop where
  left : v.rawOffset ≤ v.start
  inside : v.start ≤ v.stop
  right : v.stop ≤ v.rawOffset + v.rawSize

theorem valid_readable {v : ChunkView} (valid : v.Valid) : Readable v :=
  ⟨valid.left, Nat.le_of_lt valid.inside, valid.right⟩

section Bytes
variable {store store' : ChunkStore} {views views' : List ChunkView} {lo hi n p : Nat}

theorem byteIn_covered {v : ChunkView} (ordered : OrderedViews lo hi views) (member : v ∈ views)
    (covers : CoversView v p) : byteIn store views p = chunkByte store v p := by
  rw [byteIn, (segmentAt_eq_some ordered).mpr ⟨member, covers⟩]

theorem byteIn_hole (hole : ∀ v ∈ views, ¬ CoversView v p) : byteIn store views p = 0 := by
  rw [byteIn, segmentAt_eq_none.mpr hole]

theorem byteIn_congr {lo' hi' : Nat} (ordered : OrderedViews lo hi views)
    (ordered' : OrderedViews lo' hi' views')
    (part : ∀ v ∈ views', CoversView v p →
      ∃ w ∈ views, CoversView w p ∧ chunkByte store' v p = chunkByte store w p)
    (whole : ∀ w ∈ views, CoversView w p → ∃ v ∈ views', CoversView v p) :
    byteIn store' views' p = byteIn store views p := by
  by_cases hole : ∀ v ∈ views', ¬ CoversView v p
  · rw [byteIn_hole hole, byteIn_hole]
    intro w member covers
    obtain ⟨v, mv, cv⟩ := whole w member covers
    exact hole v mv cv
  · obtain ⟨v, mv, cv⟩ : ∃ v ∈ views', CoversView v p := by simpa using hole
    obtain ⟨w, mw, cw, same⟩ := part v mv cv
    rw [byteIn_covered ordered' mv cv, byteIn_covered ordered mw cw, same]

theorem contents_length : (contents store views lo n).length = n := by
  simp [contents]

theorem contents_getElem? (i : Nat) :
    (contents store views lo n)[i]? = if i < n then some (byteIn store views (lo + i)) else none := by
  by_cases inside : i < n <;> simp [contents, inside]

theorem contents_add (a b : Nat) :
    contents store views lo (a + b) = contents store views lo a ++ contents store views (lo + a) b := by
  simp only [contents, List.range_add, List.map_append, List.map_map, List.append_cancel_left_eq]
  refine List.map_congr_left ?_
  intro i _
  simp [Nat.add_assoc]

theorem contents_congr (same : ∀ p, lo ≤ p → p < lo + n → byteIn store' views' p = byteIn store views p) :
    contents store' views' lo n = contents store views lo n := by
  refine List.map_congr_left ?_
  intro i member
  exact same (lo + i) (by omega) (by have := List.mem_range.mp member; omega)

theorem contents_hole (hole : ∀ p, lo ≤ p → p < lo + n → byteIn store views p = 0) :
    contents store views lo n = List.replicate n 0 := by
  rw [List.eq_replicate_iff]
  refine ⟨contents_length, ?_⟩
  intro b member
  obtain ⟨i, mi, rfl⟩ := List.mem_map.mp member
  exact hole (lo + i) (by omega) (by have := List.mem_range.mp mi; omega)

theorem contents_view {v : ChunkView} {data : List Byte} (readable : Readable v)
    (found : store v.id = some data) (length : data.length = v.rawSize) :
    (data.take (v.stop - v.rawOffset)).drop (v.start - v.rawOffset) =
      contents store [v] v.start (v.stop - v.start) := by
  obtain ⟨left, inside, right⟩ := readable
  refine List.ext_getElem? fun i => ?_
  rw [contents_getElem?, List.getElem?_drop]
  split
  · rename_i small
    have covers : CoversView v (v.start + i) := ⟨by omega, by omega⟩
    have ordered : OrderedViews v.start v.stop [v] := ⟨Nat.le_refl _, by omega, Nat.le_refl _⟩
    rw [byteIn_covered ordered (by simp) covers, chunkByte, found, List.getElem?_take,
      if_pos (by omega)]
    have position : v.start - v.rawOffset + i = v.start + i - v.rawOffset := by omega
    rw [position, Option.getD_some, List.getD_eq_getElem?_getD,
      List.getElem?_eq_getElem (by omega), Option.getD_some]
  · exact List.getElem?_take_eq_none (by omega)

end Bytes

section Copy
variable {store : ChunkStore} {offset : Nat}

theorem viewsEnd_concat (current : Nat) (views : List ChunkView) (v : ChunkView) :
    viewsEnd current (views ++ [v]) = v.stop := by
  induction views generalizing current with
  | nil => rfl
  | cons w rest ih => exact ih w.stop

theorem contents_concat {lo : Nat} {views : List ChunkView} {v : ChunkView}
    (ordered : OrderedViews lo (viewsEnd lo views) views) (after : viewsEnd lo views ≤ v.start)
    (readable : Readable v) :
    contents store (views ++ [v]) lo (v.stop - lo) =
      contents store views lo (viewsEnd lo views - lo) ++
        List.replicate (v.start - viewsEnd lo views) 0 ++
        contents store [v] v.start (v.stop - v.start) := by
  have inside := readable.inside
  have start := ordered_bounds ordered
  have whole : OrderedViews lo v.stop (views ++ [v]) :=
    ordered_append.mpr ⟨_, ordered, after, inside, Nat.le_refl _⟩
  have single : OrderedViews v.start v.stop [v] := ⟨Nat.le_refl _, inside, Nat.le_refl _⟩
  rw [show v.stop - lo = viewsEnd lo views - lo + (v.start - viewsEnd lo views) + (v.stop - v.start)
    by omega, contents_add, contents_add,
    show lo + (viewsEnd lo views - lo) = viewsEnd lo views by omega,
    show lo + (viewsEnd lo views - lo + (v.start - viewsEnd lo views)) = v.start by omega]
  congr 1
  · congr 1
    · refine contents_congr fun p low high => byteIn_congr ordered whole ?_ ?_
      · intro w member covers
        rcases List.mem_append.mp member with member | member
        · exact ⟨w, member, covers, rfl⟩
        · rw [List.mem_singleton.mp member] at covers
          have := covers.1
          omega
      · intro w member covers
        exact ⟨w, by simp [member], covers⟩
    · refine contents_hole fun p low high => byteIn_hole ?_
      intro w member covers
      rcases List.mem_append.mp member with member | member
      · have := (ordered_member ordered member).2.2
        have := covers.2
        omega
      · rw [List.mem_singleton.mp member] at covers
        have := covers.1
        omega
  · refine contents_congr fun p low high => byteIn_congr single whole ?_ ?_
    · intro w member covers
      rcases List.mem_append.mp member with member | member
      · have := (ordered_member ordered member).2.2
        have := covers.2
        omega
      · exact ⟨w, member, covers, rfl⟩
    · intro w member covers
      exact ⟨w, by simp [List.mem_singleton.mp member], covers⟩

theorem copyBetween_eq {lo : Nat} {views : List ChunkView} {v : ChunkView} {data : List Byte}
    (ordered : OrderedViews lo (viewsEnd lo views) views) (after : viewsEnd lo views ≤ v.start)
    (readable : Readable v) (found : store v.id = some data) (length : data.length = v.rawSize) :
    v.copyBetweenStartAndStop data lo (contents store views lo (viewsEnd lo views - lo))
        (viewsEnd lo views - lo) =
      .ok (contents store (views ++ [v]) lo (v.stop - lo), v.stop - lo) := by
  obtain ⟨left, inside, right⟩ := readable
  have start := ordered_bounds ordered
  have data_ := contents_view ⟨left, inside, right⟩ found length
  rw [contents_concat ordered after ⟨left, inside, right⟩]
  unfold ChunkView.copyBetweenStartAndStop
  rw [sub_ok left, ok_bind, sub_ok (by omega), ok_bind, slice_ok (by omega) (by omega), ok_bind,
    sub_ok (by omega), ok_bind, data_]
  simp only [contents_length]
  split
  · rename_i hole
    simp only [pure_eq_ok]
    rw [show v.start - lo - (viewsEnd lo views - lo) = v.start - viewsEnd lo views by omega,
      show v.start - lo + (v.stop - v.start) = v.stop - lo by omega]
  · rename_i adjacent
    simp only [pure_eq_ok]
    rw [show v.start - viewsEnd lo views = 0 by omega,
      show viewsEnd lo views - lo + (v.stop - v.start) = v.stop - lo by omega, List.replicate_zero,
      List.append_nil]

theorem copyViews_eq {lo hi : Nat} {views : List ChunkView} (ordered : OrderedViews lo hi views)
    (readable : ∀ v ∈ views, Readable v) (stored : Stored store views) :
    copyViews store lo views = .ok (contents store views lo (viewsEnd lo views - lo),
      viewsEnd lo views - lo) := by
  obtain ⟨final, run, same⟩ := foldlM_list (l := views)
    (f := fun (p : List Byte × Nat) v => do
      let data ← expectSome "Chunk ID referenced in local manifest not in local storage !" (store v.id)
      v.copyBetweenStartAndStop data lo p.1 p.2)
    (P := fun done p => p = (contents store done lo (viewsEnd lo done - lo), viewsEnd lo done - lo))
    (s := ([], 0)) (by simp [viewsEnd, contents]) (by
      rintro done v rest p split rfl
      obtain ⟨data, found, length⟩ := stored v (by simp [split])
      rw [split] at ordered
      obtain ⟨mid, left, right⟩ := ordered_append.mp ordered
      obtain ⟨order, bound⟩ := ordered_viewsEnd left
      refine ⟨_, ?_, rfl⟩
      dsimp only
      rw [found, expectSome, ok_bind, copyBetween_eq order (Nat.le_trans bound right.1)
        (readable v (by simp [split])) found length, viewsEnd_concat])
  rw [same] at run
  exact run

end Copy

end ParsecCloud
