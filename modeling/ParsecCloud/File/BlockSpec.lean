import ParsecCloud.File.Operations

/- What block_read and block_write do to the ordered views of one block, with the two binary
   searches replaced by conditions on the views themselves. -/
namespace ParsecCloud
open Rust OrderedSegments

section Indexes
variable {lo hi x : Nat} {views : List ChunkView}

theorem stopIndex_eq (views : List ChunkView) (x : Nat) :
    stopIndex views x = lowerBound ChunkView.start x views := by
  unfold stopIndex binarySearchByKey lowerBound
  dsimp only
  split <;> rename_i found <;> split at found <;> cases found <;> rfl

/-- Where the search for the start of a range ends up: on the last view that begins before x,
    unless some view begins exactly at x or none begins before it. -/
theorem startIndex_spec (ordered : OrderedViews lo hi views) (nonempty : views ≠ []) :
    ∃ w, views[startIndex views x]? = some w ∧
      (if w.start < x then startIndex views x + 1 else startIndex views x) =
        lowerBound ChunkView.start x views ∧ (startIndex views x = 0 ∨ w.start ≤ x) := by
  have inside : lowerBound ChunkView.start x views ≤ views.length := lowerBound_le_length
  have positive : 0 < views.length := List.length_pos_iff.mpr nonempty
  unfold startIndex binarySearchByKey
  dsimp only
  rw [← lowerBound]
  by_cases found : (views[lowerBound ChunkView.start x views]?).map ChunkView.start = some x
  · obtain ⟨w, at_, same⟩ := Option.map_eq_some_iff.mp found
    exact ⟨w, by simpa [found] using at_, by simp [found, same], by simp [same]⟩
  · simp only [found, if_false]
    by_cases zero : lowerBound ChunkView.start x views = 0
    · have at_ : views[0]? = some views[0] := List.getElem?_eq_getElem positive
      have late : x ≤ views[0].start := by
        refine lowerBound_getElem ordered (v := views[0]) ?_
        rw [zero]
        exact at_
      refine ⟨views[0], by simp [zero, at_], ?_, by simp [zero]⟩
      simp [zero, Nat.not_lt.mpr late]
    · have small : lowerBound ChunkView.start x views - 1 < views.length := by omega
      have at_ := List.getElem?_eq_getElem small
      have member : views[lowerBound ChunkView.start x views - 1] ∈
          views.take (lowerBound ChunkView.start x views) := by
        rw [List.mem_take_iff_getElem]
        exact ⟨lowerBound ChunkView.start x views - 1, by omega, rfl⟩
      rw [take_lowerBound ordered] at member
      have early : views[lowerBound ChunkView.start x views - 1].start < x := by
        simpa using (List.mem_filter.mp member).2
      refine ⟨_, at_, ?_, Or.inr (Nat.le_of_lt early)⟩
      simp only [early, if_true]
      omega

theorem take_startIndex {w : ChunkView} (ordered : OrderedViews lo hi views)
    (found : views[startIndex views x]? = some w)
    (index : (if w.start < x then startIndex views x + 1 else startIndex views x) =
      lowerBound ChunkView.start x views) :
    views.take (startIndex views x) ++ (if w.start < x then [w] else []) =
      views.filter (fun v => decide (v.start < x)) := by
  rw [← take_lowerBound ordered, ← index]
  split
  · rw [List.take_add_one, found]
    rfl
  · simp

theorem before_startIndex {v : ChunkView} (ordered : OrderedViews lo hi views)
    (member : v ∈ views.take (startIndex views x)) : v.stop ≤ x := by
  have nonempty : views ≠ [] := by
    rintro rfl
    simp at member
  obtain ⟨w, found, -, first | early⟩ := startIndex_spec (x := x) ordered nonempty
  · simp [first] at member
  obtain ⟨small, at_⟩ := List.getElem?_eq_some_iff.mp found
  have split : views = views.take (startIndex views x) ++ w :: views.drop (startIndex views x + 1) := by
    rw [← at_, ← List.drop_eq_getElem_cons small, List.take_append_drop]
  rw [split] at ordered
  exact Nat.le_trans (ordered_before ordered member) early

end Indexes

section Read
variable {lo hi : Nat} {views : List ChunkView}

def clipTo (start stop : Nat) (v : ChunkView) : ChunkView :=
  { v with start := max v.start start, stop := min v.stop stop }

theorem blockRead_eq {size start : Nat} (ordered : OrderedViews lo hi views)
    (fits : start + size < u64Limit) :
    blockRead views size start = .ok ((views.filter fun v =>
      v.start < start + size && v.stop > start).map (clipTo start (start + size))) := by
  have le : startIndex views start ≤ stopIndex views (start + size) := by
    rw [stopIndex_eq]
    by_cases empty : views = []
    · simp [empty, startIndex, binarySearchByKey]
    · obtain ⟨w, -, index, -⟩ := startIndex_spec (x := start) ordered empty
      have mono : lowerBound ChunkView.start start views ≤
        lowerBound ChunkView.start (start + size) views := lowerBound_monotone (by omega)
      split at index <;> omega
  have inside : stopIndex views (start + size) ≤ views.length := by
    rw [stopIndex_eq]
    exact lowerBound_le_length
  have outside : (getRange views (startIndex views start) (stopIndex views (start + size))).filter
      (fun v => v.start < start + size && v.stop > start) =
      views.filter (fun v => v.start < start + size && v.stop > start) := by
    simp only [getRange, le, inside, and_self, if_true]
    conv => rhs; rw [← List.take_append_drop (stopIndex views (start + size)) views,
      ← List.take_append_drop (startIndex views start) (views.take (stopIndex views (start + size)))]
    have early : ((views.take (stopIndex views (start + size))).take (startIndex views start)).filter
        (fun v => decide (v.start < start + size) && decide (v.stop > start)) = [] := by
      rw [List.filter_eq_nil_iff]
      intro v member
      rw [List.take_take, Nat.min_eq_left le] at member
      have := before_startIndex ordered member
      simp
      omega
    have late : (views.drop (stopIndex views (start + size))).filter
        (fun v => decide (v.start < start + size) && decide (v.stop > start)) = [] := by
      rw [List.filter_eq_nil_iff]
      intro v member
      rw [stopIndex_eq, drop_lowerBound ordered] at member
      have : start + size ≤ v.start := by simpa using (List.mem_filter.mp member).2
      simp
      omega
    rw [List.filter_append, List.filter_append, early, late]
    simp
  unfold blockRead
  rw [add_ok fits, ok_bind]
  dsimp only
  rw [outside]
  refine mapM_ok ?_
  intro v member
  have : v.start < start + size := by
    have := (List.mem_filter.mp member).2
    simp at this
    omega
  rw [nonZero_ok (by omega)]
  rfl

end Read

section Write
variable {lo hi : Nat} {views : List ChunkView}

def clipStop (x : Nat) (v : ChunkView) : ChunkView := { v with stop := min v.stop x }
def clipStart (x : Nat) (v : ChunkView) : ChunkView := { v with start := x }

/-- What remains of the views before a write that begins at start. -/
def keptBefore (views : List ChunkView) (start : Nat) : List ChunkView :=
  (views.filter fun v => v.start < start).map (clipStop start)

/-- What remains past stop of a view that goes over it. -/
def keptAcross (views : List ChunkView) (stop : Nat) : List ChunkView :=
  (views.filter fun v => v.start < stop && v.stop > stop).map (clipStart stop)

def keptAfter (views : List ChunkView) (stop : Nat) : List ChunkView :=
  views.filter fun v => stop ≤ v.start

def written (views : List ChunkView) (start stop : Nat) (newView : ChunkView) : List ChunkView :=
  keptBefore views start ++ [newView] ++ keptAcross views stop ++ keptAfter views stop

theorem clipStop_of_le {x : Nat} {v : ChunkView} (le : v.stop ≤ x) : clipStop x v = v := by
  simp [clipStop, Nat.min_eq_left le]

theorem map_clipStop_of_le {x : Nat} {l : List ChunkView} (le : ∀ v ∈ l, v.stop ≤ x) :
    l.map (clipStop x) = l := by
  conv => rhs; rw [← List.map_id l]
  exact List.map_congr_left fun v member => clipStop_of_le (le v member)

theorem keptBefore_eq {start : Nat} {w : ChunkView} (ordered : OrderedViews lo hi views)
    (found : views[startIndex views start]? = some w)
    (index : (if w.start < start then startIndex views start + 1 else startIndex views start) =
      lowerBound ChunkView.start start views) :
    keptBefore views start =
      views.take (startIndex views start) ++ (if w.start < start then [clipStop start w] else []) := by
  rw [keptBefore, ← take_startIndex ordered found index, List.map_append,
    map_clipStop_of_le fun v member => before_startIndex ordered member]
  split <;> rfl

theorem filter_before_eq {x : Nat} {q : ChunkView} (ordered : OrderedViews lo hi views)
    (positive : 0 < lowerBound ChunkView.start x views)
    (found : views[lowerBound ChunkView.start x views - 1]? = some q) :
    views.filter (fun v => decide (v.start < x)) =
        views.take (lowerBound ChunkView.start x views - 1) ++ [q] ∧ q.start < x ∧
      ∀ v ∈ views.take (lowerBound ChunkView.start x views - 1), v.stop ≤ q.start := by
  have split : views.filter (fun v => decide (v.start < x)) =
      views.take (lowerBound ChunkView.start x views - 1) ++ [q] := by
    rw [← take_lowerBound ordered]
    conv => lhs; rw [show lowerBound ChunkView.start x views =
      lowerBound ChunkView.start x views - 1 + 1 by omega]
    rw [List.take_add_one, found]
    rfl
  refine ⟨split, ?_, ?_⟩
  · have member : q ∈ views.filter (fun v => decide (v.start < x)) := by simp [split]
    simpa using (List.mem_filter.mp member).2
  · intro v member
    have order := ordered_filter (fun v => decide (v.start < x)) ordered
    rw [split] at order
    exact ordered_before order member

/-- Only the last of the views that begin before a bound can go over it. -/
theorem keptBefore_last {x : Nat} {q : ChunkView} (ordered : OrderedViews lo hi views)
    (positive : 0 < lowerBound ChunkView.start x views)
    (found : views[lowerBound ChunkView.start x views - 1]? = some q) :
    keptBefore views x = views.take (lowerBound ChunkView.start x views - 1) ++ [clipStop x q] := by
  obtain ⟨split, early, before⟩ := filter_before_eq ordered positive found
  rw [keptBefore, split, List.map_append, map_clipStop_of_le]
  · rfl
  · intro v member
    have := before v member
    omega

theorem keptBefore_none {x : Nat} (ordered : OrderedViews lo hi views)
    (zero : lowerBound ChunkView.start x views = 0) : keptBefore views x = [] := by
  rw [keptBefore, ← take_lowerBound ordered, zero]
  rfl

theorem keptAcross_eq {stop : Nat} {q : ChunkView} (ordered : OrderedViews lo hi views)
    (positive : 0 < lowerBound ChunkView.start stop views)
    (found : views[lowerBound ChunkView.start stop views - 1]? = some q) :
    keptAcross views stop = if q.stop > stop then [clipStart stop q] else [] := by
  obtain ⟨split, early, before⟩ := filter_before_eq ordered positive found
  have short : (views.take (lowerBound ChunkView.start stop views - 1)).filter
      (fun v => decide (v.stop > stop)) = [] := by
    rw [List.filter_eq_nil_iff]
    intro v member
    have := before v member
    simp
    omega
  have both : views.filter (fun v => decide (v.start < stop) && decide (v.stop > stop)) =
      if q.stop > stop then [q] else [] := by
    rw [← List.filter_filter, List.filter_comm, split, List.filter_append, short]
    by_cases crosses : q.stop > stop <;> simp [crosses]
  rw [keptAcross, both]
  split <;> rfl

theorem keptAcross_none {stop : Nat} (ordered : OrderedViews lo hi views)
    (zero : lowerBound ChunkView.start stop views = 0) : keptAcross views stop = [] := by
  have none : views.filter (fun v => decide (v.start < stop)) = [] := by
    rw [← take_lowerBound ordered, zero]
    rfl
  rw [keptAcross, ← List.filter_filter, List.filter_comm, none]
  rfl

@[simp] theorem viewIds_append (a b : List ChunkView) :
    viewIds (a ++ b) = viewIds a ∪ viewIds b := by
  simp [viewIds]

@[simp] theorem viewIds_nil : viewIds [] = ∅ := rfl

@[simp] theorem viewIds_singleton (v : ChunkView) : viewIds [v] = {v.id} := by
  simp [viewIds]

theorem mem_viewIds {views : List ChunkView} {id : ChunkID} :
    id ∈ viewIds views ↔ ∃ v ∈ views, v.id = id := by
  simp [viewIds]

theorem testStartChunk_eq {start : Nat} {w : ChunkView} {ids : Finset ChunkID}
    (ordered : OrderedViews lo hi views) (found : views[startIndex views start]? = some w)
    (index : (if w.start < start then startIndex views start + 1 else startIndex views start) =
      lowerBound ChunkView.start start views) :
    testStartChunk views (startIndex views start) start (views.take (startIndex views start))
        (ids \ viewIds (views.take (startIndex views start))) =
      .ok (keptBefore views start, ids \ viewIds (keptBefore views start)) := by
  rw [keptBefore_eq ordered found index]
  unfold testStartChunk
  rw [found]
  simp only [expectSome, ok_bind]
  split
  · rw [nonZero_ok (by omega)]
    simp [clipStop, Finset.sdiff_insert]
  · simp

theorem testStopChunk_eq {stop : Nat} {newViews : List ChunkView} {ids : Finset ChunkID}
    (ordered : OrderedViews lo hi views) :
    testStopChunk views (stopIndex views stop) stop newViews ids =
      .ok (newViews ++ keptAcross views stop, ids \ viewIds (keptAcross views stop)) := by
  have inside : lowerBound ChunkView.start stop views ≤ views.length := lowerBound_le_length
  unfold testStopChunk
  rw [stopIndex_eq]
  by_cases positive : 0 < lowerBound ChunkView.start stop views
  · have at_ := List.getElem?_eq_getElem
      (show lowerBound ChunkView.start stop views - 1 < views.length by omega)
    rw [keptAcross_eq ordered positive at_, at_]
    simp only [positive, expectSome, ok_bind, if_true, gt_iff_lt]
    split
    · simp [clipStart, Finset.sdiff_singleton_eq_erase]
    · simp
  · rw [keptAcross_none ordered (by omega)]
    simp [positive]

/-- A block write keeps every view up to the range, the rest of a view that goes over its end,
    and every view past it; it removes the chunks that are in none of those. -/
theorem blockWrite_eq {size start : Nat} {newView : ChunkView} (ordered : OrderedViews lo hi views)
    (fits : start + size < u64Limit) :
    blockWrite views size start newView = .ok (written views start (start + size) newView,
      viewIds views \ viewIds (keptBefore views start ++ keptAcross views (start + size) ++
        keptAfter views (start + size))) := by
  unfold blockWrite
  rw [add_ok fits, ok_bind]
  by_cases empty : views = []
  · subst views
    simp [written, keptBefore, keptAcross, keptAfter]
  obtain ⟨w, found, index, -⟩ := startIndex_spec (x := start) ordered empty
  have low : startIndex views start ≤ views.length := by
    have := (List.getElem?_eq_some_iff.mp found).1
    omega
  have high : stopIndex views (start + size) ≤ views.length := by
    rw [stopIndex_eq]
    exact lowerBound_le_length
  have le : startIndex views start ≤ stopIndex views (start + size) := by
    rw [stopIndex_eq]
    have mono : lowerBound ChunkView.start start views ≤
      lowerBound ChunkView.start (start + size) views := lowerBound_monotone (by omega)
    split at index <;> omega
  have nonempty : views.isEmpty = false := by simpa using empty
  have after : views.drop (stopIndex views (start + size)) = keptAfter views (start + size) := by
    rw [stopIndex_eq]
    exact drop_lowerBound ordered
  simp only [nonempty, getRange_prefix low, getRange_suffix high, testStartChunk_eq ordered found index,
    testStopChunk_eq ordered, ok_bind, after, written]
  have parts : viewIds views = viewIds (views.take (startIndex views start)) ∪
      viewIds (getRange views (startIndex views start) (stopIndex views (start + size))) ∪
      viewIds (keptAfter views (start + size)) := by
    rw [← after, ← viewIds_append, ← viewIds_append]
    simp only [getRange, le, high, and_self, if_true]
    rw [show views.take (startIndex views start) =
      (views.take (stopIndex views (start + size))).take (startIndex views start) by
        rw [List.take_take, Nat.min_eq_left le]]
    rw [List.take_append_drop, List.take_append_drop]
  have left : viewIds (views.take (startIndex views start)) ⊆ viewIds (keptBefore views start) := by
    rw [keptBefore_eq ordered found index, viewIds_append]
    exact Finset.subset_union_left
  have removed : ((viewIds (getRange views (startIndex views start) (stopIndex views (start + size))) \
      viewIds (keptBefore views start)) \ viewIds (keptAcross views (start + size))) \
      viewIds (keptAfter views (start + size)) =
      viewIds views \ viewIds (keptBefore views start ++ keptAcross views (start + size) ++
        keptAfter views (start + size)) := by
    ext id
    have := @left id
    simp only [viewIds_append, parts, Finset.mem_sdiff, Finset.mem_union]
    grind
  rw [removed]
  rfl

theorem mem_keptBefore {start : Nat} {v : ChunkView} :
    v ∈ keptBefore views start ↔ ∃ w ∈ views, w.start < start ∧ v = clipStop start w := by
  simp [keptBefore, and_assoc, eq_comm]

theorem mem_written {start stop : Nat} {newView v : ChunkView} :
    v ∈ written views start stop newView ↔
      v = newView ∨ v ∈ keptBefore views start ∨
      (∃ w ∈ views, w.start < stop ∧ w.stop > stop ∧ v = clipStart stop w) ∨
      (v ∈ views ∧ stop ≤ v.start) := by
  simp only [written, keptAcross, keptAfter, List.mem_append, List.mem_singleton, List.mem_map,
    List.mem_filter, Bool.and_eq_true, decide_eq_true_eq, and_assoc, eq_comm (a := v), or_assoc]
  exact or_left_comm

theorem keptBefore_ok {start : Nat} (ok : SlotOk lo hi views) (low : lo ≤ start) :
    SlotOk lo start (keptBefore views start) := by
  have shrunk : OrderedViews lo hi (keptBefore views start) := by
    refine ordered_shrink (ordered_filter _ ok.ordered) ?_
    intro v member
    obtain ⟨member, early⟩ := List.mem_filter.mp member
    have := (ok.valid v member).inside
    have : v.start < start := by simpa using early
    simp only [clipStop]
    omega
  refine ⟨ordered_narrow_right shrunk low ?_, ?_⟩
  · intro v member
    obtain ⟨w, -, -, rfl⟩ := mem_keptBefore.mp member
    exact Nat.min_le_right _ _
  · intro v member
    obtain ⟨w, mw, early, rfl⟩ := mem_keptBefore.mp member
    obtain ⟨left, inside, right, fits⟩ := ok.valid w mw
    exact ⟨left, by simp only [clipStop]; omega, by simp only [clipStop]; omega, fits⟩

theorem keptPast_ok {stop : Nat} (ok : SlotOk lo hi views) (high : stop ≤ hi) :
    SlotOk stop hi (keptAcross views stop ++ keptAfter views stop) := by
  have valid : ∀ v ∈ keptAcross views stop ++ keptAfter views stop, v.Valid ∧ stop ≤ v.start := by
    intro v member
    rcases List.mem_append.mp member with member | member
    · obtain ⟨w, mw, rfl⟩ := List.mem_map.mp member
      obtain ⟨mw, cond⟩ := List.mem_filter.mp mw
      obtain ⟨left, inside, right, fits⟩ := ok.valid w mw
      simp only [Bool.and_eq_true, decide_eq_true_eq] at cond
      exact ⟨⟨by simp only [clipStart]; omega, by simp only [clipStart]; omega, right, fits⟩,
        Nat.le_refl _⟩
    · obtain ⟨member, late⟩ := List.mem_filter.mp member
      exact ⟨ok.valid v member, by simpa using late⟩
  have order : OrderedViews lo hi (keptAcross views stop ++ keptAfter views stop) := by
    have whole := ok.ordered
    rw [← List.take_append_drop (lowerBound ChunkView.start stop views) views] at whole
    obtain ⟨mid, before, after⟩ := ordered_append.mp whole
    rw [take_lowerBound ok.ordered] at before
    rw [drop_lowerBound ok.ordered] at after
    refine ordered_append.mpr ⟨mid, ?_, after⟩
    rw [keptAcross, ← List.filter_filter, List.filter_comm]
    refine ordered_shrink (ordered_filter _ before) ?_
    intro v member
    simp only [List.mem_filter, decide_eq_true_eq] at member
    simp only [clipStart]
    omega
  exact ⟨ordered_narrow_left order high fun v member => (valid v member).2,
    fun v member => (valid v member).1⟩

theorem written_ok {start stop : Nat} {newView : ChunkView} (ok : SlotOk lo hi views)
    (low : lo ≤ start) (high : stop ≤ hi) (valid : newView.Valid) (first : newView.start = start)
    (last : newView.stop = stop) : SlotOk lo hi (written views start stop newView) := by
  have before := keptBefore_ok ok low
  have past := keptPast_ok ok high
  have inside := valid.inside
  rw [written, List.append_assoc, List.append_assoc]
  refine ⟨?_, ?_⟩
  · refine ordered_append.mpr ⟨start, before.ordered, ordered_append.mpr ⟨stop, ?_, past.ordered⟩⟩
    exact ⟨by omega, by omega, by simp only [Ordered]; omega⟩
  · intro v member
    rcases List.mem_append.mp member with member | member
    · exact before.valid v member
    rcases List.mem_append.mp member with member | member
    · rw [List.mem_singleton.mp member]
      exact valid
    · exact past.valid v member

end Write

end ParsecCloud
