import ParsecCloud.Types.LocalFile

/- What LocalFileManifest::check_data_integrity accepts, slot by slot. A slot is read by its
   index; an index past the end of the list is an empty slot. -/
namespace ParsecCloud
open Rust OrderedSegments

abbrev OrderedViews (lo hi : Nat) (views : List ChunkView) : Prop :=
  Ordered ChunkView.start ChunkView.stop lo hi views

structure SlotOk (lo hi : Nat) (views : List ChunkView) : Prop where
  ordered : OrderedViews lo hi views
  valid : ∀ v ∈ views, v.Valid

def slot (blocks : List (List ChunkView)) (i : Nat) : List ChunkView := blocks.getD i []

/-- The part of the invariant that concerns the slots: every view stands in the span of its
    slot, after the previous one; the last slot is not empty; nothing goes past the size. -/
structure Layout (blocksize size : Nat) (blocks : List (List ChunkView)) : Prop where
  slots : ∀ i, SlotOk (i * blocksize) ((i + 1) * blocksize) (slot blocks i)
  last : blocks.getLast? ≠ some []
  within : ∀ i, ∀ v ∈ slot blocks i, v.stop ≤ size
  fits : blocks.length * blocksize < u64Limit

/-- Where the last of the views stops, or current when there is none. -/
def viewsEnd : Nat → List ChunkView → Nat
  | current, [] => current
  | _, v :: rest => viewsEnd v.stop rest

theorem ordered_viewsEnd {lo hi : Nat} {views : List ChunkView} (ordered : OrderedViews lo hi views) :
    OrderedViews lo (viewsEnd lo views) views ∧ viewsEnd lo views ≤ hi := by
  induction views generalizing lo with
  | nil => exact ⟨Nat.le_refl lo, ordered⟩
  | cons v rest ih =>
    obtain ⟨first, valid, tail⟩ := ordered
    obtain ⟨order, bound⟩ := ih tail
    exact ⟨⟨first, valid, order⟩, bound⟩

theorem viewsEnd_stop {views : List ChunkView} (current : Nat) (nonempty : views ≠ []) :
    ∃ v ∈ views, v.stop = viewsEnd current views := by
  induction views generalizing current with
  | nil => contradiction
  | cons v rest ih =>
    by_cases empty : rest = []
    · subst rest
      exact ⟨v, by simp, rfl⟩
    · obtain ⟨w, member, same⟩ := ih v.stop empty
      exact ⟨w, by simp [member], same⟩

theorem checkViews_eq_ok {spanStart spanStop current last : Nat} {views : List ChunkView} :
    LocalFileManifest.checkViews spanStart spanStop current views = .ok (.ok last) ↔
      (∀ v ∈ views, v.Valid ∧ spanStart ≤ v.start ∧ v.stop ≤ spanStop) ∧
      OrderedViews current last views ∧ last = viewsEnd current views := by
  induction views generalizing current with
  | nil =>
    simp only [LocalFileManifest.checkViews, viewsEnd, Ordered]
    constructor
    · intro same
      cases same
      simp
    · rintro ⟨-, -, rfl⟩
      rfl
  | cons v rest ih =>
    simp only [LocalFileManifest.checkViews, bind_eq_ok, viewsEnd, Ordered, List.forall_mem_cons]
    constructor
    · rintro ⟨outcome, check, ok⟩
      cases outcome with
      | error e => simp at ok
      | ok u =>
        have valid := (ChunkView.check_ok_iff v).mp check
        simp only [LocalFileManifest.integrityError] at ok
        split at ok
        · simp at ok
        split at ok
        · simp at ok
        rename_i span order
        obtain ⟨others, ordered, same⟩ := ih.mp ok
        exact ⟨⟨⟨valid, by omega, by omega⟩, others⟩,
          ⟨by omega, Nat.le_of_lt valid.inside, ordered⟩, same⟩
    · rintro ⟨⟨⟨valid, left, right⟩, others⟩, ⟨order, -, ordered⟩, same⟩
      refine ⟨.ok (), (ChunkView.check_ok_iff v).mpr valid, ?_⟩
      have span : ¬ (v.start < spanStart ∨ v.stop > spanStop) := by omega
      have after : ¬ current > v.start := by omega
      simp only [span, after, if_false]
      exact ih.mpr ⟨others, ordered, same⟩

/-- For a slot that begins where the previous views have stopped, the checks of its views
    amount to the order of the slot inside its own span. -/
theorem checkViews_slot {lo hi current last : Nat} {views : List ChunkView} (before : current ≤ lo)
    (span : lo ≤ hi) :
    LocalFileManifest.checkViews lo hi current views = .ok (.ok last) ↔
      SlotOk lo hi views ∧ last = viewsEnd current views := by
  rw [checkViews_eq_ok]
  constructor
  · rintro ⟨all, ordered, same⟩
    refine ⟨⟨?_, fun v mv => (all v mv).1⟩, same⟩
    cases views with
    | nil => exact span
    | cons v rest =>
      obtain ⟨first, valid, tail⟩ := ordered
      have bound : last ≤ hi := by
        obtain ⟨w, member, stop⟩ := viewsEnd_stop current (List.cons_ne_nil v rest)
        have := (all w member).2.2
        omega
      exact ⟨(all v (by simp)).2.1, valid, ordered_widen tail (Nat.le_refl _) bound⟩
  · rintro ⟨⟨ordered, valid⟩, rfl⟩
    refine ⟨fun v mv => ⟨valid v mv, (ordered_member ordered mv).1, (ordered_member ordered mv).2.2⟩,
      ?_, rfl⟩
    exact (ordered_viewsEnd (ordered_widen ordered before (Nat.le_refl hi))).1

theorem checkSlots_eq_ok {blocksize i current last : Nat} {blocks : List (List ChunkView)}
    (before : current ≤ i * blocksize) :
    LocalFileManifest.checkSlots blocksize i current blocks = .ok (.ok last) ↔
      (∀ k, SlotOk ((i + k) * blocksize) ((i + k + 1) * blocksize) (slot blocks k)) ∧
      (blocks ≠ [] → (i + blocks.length) * blocksize < u64Limit) ∧
      last = viewsEnd current blocks.flatten := by
  induction blocks generalizing i current with
  | nil =>
    have empty : ∀ k, SlotOk ((i + k) * blocksize) ((i + k + 1) * blocksize) [] := by
      intro k
      exact ⟨Nat.mul_le_mul_right _ (by omega), by simp⟩
    simp [LocalFileManifest.checkSlots, slot, empty, viewsEnd, eq_comm]
  | cons views rest ih =>
    have next : (i + 1) * blocksize = i * blocksize + blocksize := by rw [Nat.add_mul, Nat.one_mul]
    have flat : viewsEnd current (views :: rest).flatten =
        viewsEnd (viewsEnd current views) rest.flatten := by
      simp only [List.flatten_cons]
      clear ih before
      induction views generalizing current with
      | nil => rfl
      | cons v vs ihv => exact ihv
    simp only [LocalFileManifest.checkSlots, bind_eq_ok, mul_eq_ok, add_eq_ok]
    constructor
    · rintro ⟨_, ⟨small, rfl⟩, _, ⟨fits, rfl⟩, outcome, check, ok⟩
      cases outcome with
      | error e => simp at ok
      | ok stop =>
        rw [← next] at check
        obtain ⟨here, rfl⟩ := (checkViews_slot before (by omega)).mp check
        have bound : viewsEnd current views ≤ (i + 1) * blocksize := by
          have ordered := ordered_widen here.ordered before (Nat.le_refl _)
          exact (ordered_viewsEnd ordered).2
        obtain ⟨others, fitsRest, same⟩ := (ih bound).mp ok
        refine ⟨?_, ?_, by rw [flat, same]⟩
        · intro k
          cases k with
          | zero => simpa [slot] using here
          | succ k => simpa [slot, Nat.add_comm, Nat.add_left_comm] using others k
        · intro _
          by_cases empty : rest = []
          · subst rest
            simp only [List.length_cons, List.length_nil, Nat.zero_add]
            omega
          · have := fitsRest empty
            simpa [Nat.add_comm, Nat.add_left_comm] using this
    · rintro ⟨all, fits, rfl⟩
      have fits := fits (List.cons_ne_nil _ _)
      have here : SlotOk (i * blocksize) ((i + 1) * blocksize) views := by simpa [slot] using all 0
      have ordered := ordered_widen here.ordered before (Nat.le_refl _)
      have bound : viewsEnd current views ≤ (i + 1) * blocksize := (ordered_viewsEnd ordered).2
      have total : (i + 1) * blocksize ≤ (i + (views :: rest).length) * blocksize := by
        refine Nat.mul_le_mul_right _ ?_
        simp only [List.length_cons]
        omega
      refine ⟨_, ⟨by omega, rfl⟩, _, ⟨by omega, rfl⟩, .ok (viewsEnd current views), ?_, ?_⟩
      · rw [← next]
        exact (checkViews_slot before (by omega)).mpr ⟨here, rfl⟩
      · refine (ih bound).mpr ⟨?_, ?_, flat⟩
        · intro k
          simpa [slot, Nat.add_comm, Nat.add_left_comm] using all (k + 1)
        · intro _
          simpa [Nat.add_comm, Nat.add_left_comm] using fits

theorem slot_member {blocks : List (List ChunkView)} {i : Nat} {v : ChunkView}
    (member : v ∈ slot blocks i) : v ∈ blocks.flatten := by
  unfold slot at member
  rw [List.getD_eq_getElem?_getD] at member
  cases found : blocks[i]? with
  | none => simp [found] at member
  | some views =>
    rw [found] at member
    exact List.mem_flatten.mpr ⟨views, List.mem_of_getElem? found, member⟩

theorem mem_flatten_iff_slot {blocks : List (List ChunkView)} {v : ChunkView} :
    v ∈ blocks.flatten ↔ ∃ i, v ∈ slot blocks i := by
  constructor
  · intro member
    obtain ⟨views, mem, member⟩ := List.mem_flatten.mp member
    obtain ⟨i, found⟩ := List.mem_iff_getElem?.mp mem
    exact ⟨i, by simpa [slot, List.getD_eq_getElem?_getD, found] using member⟩
  · rintro ⟨i, member⟩
    exact slot_member member

theorem flatten_ordered {blocksize i : Nat} {blocks : List (List ChunkView)}
    (slots : ∀ k, SlotOk ((i + k) * blocksize) ((i + k + 1) * blocksize) (slot blocks k)) :
    OrderedViews (i * blocksize) ((i + blocks.length) * blocksize) blocks.flatten := by
  induction blocks generalizing i with
  | nil => exact Nat.le_refl _
  | cons views rest ih =>
    rw [List.flatten_cons]
    have here : SlotOk (i * blocksize) ((i + 1) * blocksize) views := by simpa [slot] using slots 0
    have tail := ih (i := i + 1) (by
      intro k
      simpa [slot, Nat.add_comm, Nat.add_left_comm] using slots (k + 1))
    refine ordered_append.mpr ⟨_, here.ordered, ?_⟩
    simpa [Nat.add_comm, Nat.add_left_comm] using tail

theorem layout_flatten {blocksize size : Nat} {blocks : List (List ChunkView)}
    (layout : Layout blocksize size blocks) : OrderedViews 0 size blocks.flatten := by
  have ordered := flatten_ordered (i := 0) (by simpa using layout.slots)
  rw [Nat.zero_mul] at ordered
  refine ordered_widen (ordered_viewsEnd ordered).1 (Nat.le_refl 0) ?_
  by_cases empty : blocks.flatten = []
  · simp [empty, viewsEnd]
  · obtain ⟨v, member, same⟩ := viewsEnd_stop 0 empty
    obtain ⟨i, member⟩ := mem_flatten_iff_slot.mp member
    have := layout.within i v member
    omega

/-- The check accepts a manifest exactly when it is not its own parent and its slots are laid
    out as they should. -/
theorem checkDataIntegrity_ok_iff (m : LocalFileManifest) :
    m.checkDataIntegrity = .ok (.ok ()) ↔
      m.base.id ≠ m.parent ∧ Layout m.blocksize.inner m.size m.blocks := by
  unfold LocalFileManifest.checkDataIntegrity LocalFileManifest.integrityError
  by_cases root : m.base.id = m.parent
  · simp [root]
  simp only [root, if_false, ne_eq, not_false_eq_true, true_and, bind_eq_ok]
  constructor
  · rintro ⟨outcome, check, ok⟩
    cases outcome with
    | error e => simp at ok
    | ok current =>
      obtain ⟨slots, fits, rfl⟩ := (checkSlots_eq_ok (by omega)).mp check
      simp only [bind_eq_ok] at ok
      obtain ⟨_, nonempty, ok⟩ := ok
      split at ok
      · simp at ok
      rename_i bound
      simp only [Nat.zero_add] at slots fits
      have ordered := flatten_ordered (i := 0) (by simpa using slots)
      rw [Nat.zero_mul] at ordered
      refine ⟨slots, by simpa using assert_eq_ok.mp nonempty, ?_, ?_⟩
      · intro i v member
        have := (ordered_member (ordered_viewsEnd ordered).1 (slot_member member)).2.2
        omega
      · by_cases empty : m.blocks = []
        · simp [empty, u64Limit]
        · exact fits empty
  · intro layout
    refine ⟨.ok (viewsEnd 0 m.blocks.flatten), ?_, ?_⟩
    · refine (checkSlots_eq_ok (by omega)).mpr ⟨by simpa using layout.slots, ?_, rfl⟩
      intro _
      simpa using layout.fits
    · have bound := (ordered_viewsEnd (layout_flatten layout)).2
      refine bind_eq_ok.mpr ⟨(), assert_eq_ok.mpr (by simpa using layout.last), ?_⟩
      have inside : ¬ viewsEnd 0 m.blocks.flatten > m.size := by omega
      simp [inside]

end ParsecCloud
