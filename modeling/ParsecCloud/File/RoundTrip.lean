import ParsecCloud.File.Remote

/- From local file manifests to remote ones and back: a slot that is reshaped is a whole block, or it
   is empty, and the blocks are back in their slots. -/
namespace ParsecCloud
open Rust OrderedSegments

/-- Every slot is empty or a view over a whole block. -/
def WholeBlocks (blocks : List (List ChunkView)) : Prop :=
  ∀ views ∈ blocks, views = [] ∨ ∃ access, views = [accessView access]

def accesses (blocks : List (List ChunkView)) : List BlockAccess :=
  blocks.flatten.filterMap ChunkView.access

section Slots
variable {blocks others : List (List ChunkView)} {blocksize size : Nat}

theorem WholeBlocks.rest {views : List ChunkView} (whole : WholeBlocks (views :: blocks)) :
    WholeBlocks blocks := fun other member => whole other (List.mem_cons_of_mem _ member)

theorem accesses_views (whole : WholeBlocks blocks) :
    (accesses blocks).map accessView = blocks.flatten := by
  induction blocks with
  | nil => rfl
  | cons views rest later =>
    have tail := later whole.rest
    rcases whole views (by simp) with rfl | ⟨access, rfl⟩
    · exact tail
    · have isAccess : accesses ([accessView access] :: rest) = access :: accesses rest := rfl
      rw [isAccess, List.map_cons, tail]
      rfl

theorem accessView_injective {first second : BlockAccess} (same : accessView first = accessView second) :
    first = second := by
  have access := congrArg ChunkView.access same
  simpa [accessView] using access

theorem getBlockAccess_accessView (access : BlockAccess) :
    (accessView access).getBlockAccess = .ok access := by
  simp [ChunkView.getBlockAccess, ChunkView.block, ChunkView.isAlignedWithRawData, accessView]

theorem slotAccesses (whole : WholeBlocks blocks) :
    (blocks.filter fun views => !views.isEmpty).mapM LocalFileManifest.slotAccess =
      .ok (accesses blocks) := by
  induction blocks with
  | nil => rfl
  | cons views rest later =>
    have tail := later whole.rest
    rcases whole views (by simp) with rfl | ⟨access, rfl⟩
    · exact tail
    · have kept : ([accessView access] :: rest).filter (fun views => !views.isEmpty) =
          [accessView access] :: rest.filter fun views => !views.isEmpty := rfl
      rw [kept, List.mapM_cons, LocalFileManifest.slotAccess, getBlockAccess_accessView, tail]
      rfl

/-- A block that is aligned with its chunk and named after it is the view over its access. -/
theorem eq_accessView {v : ChunkView} (isBlock : v.isBlock = true) (named : Named v) :
    ∃ access, v = accessView access := by
  obtain ⟨id, start, stop, rawOffset, rawSize, access⟩ := v
  cases access with
  | none => cases isBlock
  | some access =>
    refine ⟨access, ?_⟩
    have sameId : id = ChunkID.ofBlockID access.id := by rw [named access rfl]; rfl
    simp only [ChunkView.isBlock, ChunkView.block, ChunkView.isAlignedWithRawData] at isBlock
    by_cases aligned : (start == rawOffset && stop == rawOffset + rawSize &&
        rawOffset == access.offset && rawSize == access.size) = true
    · simp only [Bool.and_eq_true, beq_iff_eq] at aligned
      obtain ⟨⟨⟨atOffset, atStop⟩, sameOffset⟩, sameSize⟩ := aligned
      subst sameId atOffset atStop sameOffset sameSize
      rfl
    · simp [aligned] at isBlock

theorem wholeBlocks_of_reshaped {m : LocalFileManifest} (reshaped : m.isReshaped = true)
    (named : AllNamed m.blocks) : WholeBlocks m.blocks := by
  intro views member
  have isSlot := List.all_eq_true.mp reshaped views member
  have names := named views member
  cases views with
  | nil => exact Or.inl rfl
  | cons v rest =>
    cases rest with
    | nil =>
      obtain ⟨access, rfl⟩ := eq_accessView isSlot (names v (by simp))
      exact Or.inr ⟨access, rfl⟩
    | cons _ _ => cases isSlot

theorem slot_eq_filter (positive : 0 < blocksize) {i : Nat}
    (slots : ∀ k, SlotOk ((i + k) * blocksize) ((i + k + 1) * blocksize) (slot blocks k)) (k : Nat) :
    slot blocks k = blocks.flatten.filter fun v => v.start / blocksize = i + k := by
  induction blocks generalizing i k with
  | nil => rfl
  | cons views rest later =>
    have here : SlotOk (i * blocksize) ((i + 1) * blocksize) views := by simpa [slot] using slots 0
    have tail : ∀ k, SlotOk ((i + 1 + k) * blocksize) ((i + 1 + k + 1) * blocksize) (slot rest k) := by
      intro k
      have next := slots (k + 1)
      rwa [show i + (k + 1) = i + 1 + k by omega] at next
    have inSpan : ∀ v ∈ views, v.start / blocksize = i := by
      intro v member
      obtain ⟨left, inside, right⟩ := ordered_member here.ordered member
      have valid := (here.valid v member).inside
      rw [Nat.div_eq_iff positive]
      rw [Nat.add_mul] at right
      constructor <;> omega
    have pastSpan : ∀ v ∈ rest.flatten, i + 1 ≤ v.start / blocksize := by
      intro v member
      have ordered := flatten_ordered tail
      exact (Nat.le_div_iff_mul_le positive).mpr (ordered_member ordered member).1
    rw [List.flatten_cons, List.filter_append]
    cases k with
    | zero =>
      have all : views.filter (fun v => v.start / blocksize = i + 0) = views := by
        rw [List.filter_eq_self]
        intro v member
        simpa using inSpan v member
      have none : rest.flatten.filter (fun v => v.start / blocksize = i + 0) = [] := by
        rw [List.filter_eq_nil_iff]
        intro v member same
        have past := pastSpan v member
        simp only [decide_eq_true_eq] at same
        omega
      rw [all, none, List.append_nil]
      rfl
    | succ k =>
      have none : views.filter (fun v => v.start / blocksize = i + (k + 1)) = [] := by
        rw [List.filter_eq_nil_iff]
        intro v member same
        have here := inSpan v member
        simp only [decide_eq_true_eq] at same
        omega
      have next := later tail k
      rw [none, List.nil_append, show i + (k + 1) = i + 1 + k by omega]
      exact next

theorem length_le_of_slots (last : blocks.getLast? ≠ some [])
    (same : ∀ i, slot blocks i = slot others i) : blocks.length ≤ others.length := by
  by_contra longer
  cases isLast : blocks.getLast? with
  | none =>
    rw [List.getLast?_eq_none_iff.mp isLast] at longer
    exact longer (Nat.zero_le _)
  | some views =>
    have atEnd : slot blocks (blocks.length - 1) = views := by
      rw [List.getLast?_eq_getElem?] at isLast
      rw [slot, List.getD_eq_getElem?_getD, isLast]
      rfl
    have past : slot others (blocks.length - 1) = [] := by
      rw [slot, List.getD_eq_getElem?_getD, List.getElem?_eq_none (by omega)]
      rfl
    rw [same, past] at atEnd
    exact last (by rw [isLast, atEnd])

theorem layout_unique {other : Nat} (positive : 0 < blocksize) (layout : Layout blocksize size blocks)
    (layout' : Layout blocksize other others) (same : blocks.flatten = others.flatten) :
    blocks = others := by
  have slots : ∀ i, slot blocks i = slot others i := by
    intro i
    have here := slot_eq_filter positive (i := 0) (by simpa using layout.slots) i
    have there := slot_eq_filter positive (i := 0) (by simpa using layout'.slots) i
    rw [here, there, same]
  have length : blocks.length = others.length :=
    Nat.le_antisymm (length_le_of_slots layout.last slots)
      (length_le_of_slots layout'.last fun i => (slots i).symm)
  apply List.ext_getElem length
  intro i inside inside'
  have atSlot := slots i
  simpa [slot, List.getD_eq_getElem?_getD, List.getElem?_eq_getElem inside,
    List.getElem?_eq_getElem inside'] using atSlot

theorem checkBlocks_of_slots (positive : 0 < blocksize) {i current index : Nat}
    (whole : WholeBlocks blocks)
    (slots : ∀ k, SlotOk ((i + k) * blocksize) ((i + k + 1) * blocksize) (slot blocks k))
    (before : current ≤ i * blocksize) (next : index ≤ i) :
    FileManifest.checkBlocks blocksize current index (accesses blocks) =
      .ok (.ok (viewsEnd current blocks.flatten)) := by
  induction blocks generalizing i current index with
  | nil => rfl
  | cons views rest later =>
    have here : SlotOk (i * blocksize) ((i + 1) * blocksize) views := by simpa [slot] using slots 0
    have tail : ∀ k, SlotOk ((i + 1 + k) * blocksize) ((i + 1 + k + 1) * blocksize) (slot rest k) := by
      intro k
      have next := slots (k + 1)
      rwa [show i + (k + 1) = i + 1 + k by omega] at next
    have span : (i + 1) * blocksize = i * blocksize + blocksize := by rw [Nat.add_mul, Nat.one_mul]
    rcases whole views (by simp) with rfl | ⟨access, rfl⟩
    · exact later whole.rest tail (by omega) (by omega)
    · have isAccess : accesses ([accessView access] :: rest) = access :: accesses rest := rfl
      have valid := here.valid (accessView access) (by simp)
      have member := ordered_member here.ordered (List.mem_singleton_self (accessView access))
      obtain ⟨left, inside, right⟩ := member
      have fits := valid.fits
      simp only [accessView] at left inside right fits
      have positiveSize := access.positive
      have atSpan : access.offset / blocksize = i := by
        rw [Nat.div_eq_iff positive]
        constructor <;> omega
      have lastSpan : (access.offset + access.size - 1) / blocksize = i := by
        rw [Nat.div_eq_iff positive]
        constructor <;> omega
      rw [isAccess, FileManifest.checkBlocks, if_neg (by omega), add_ok fits, ok_bind, atSpan,
        lastSpan, if_neg (by omega), if_neg (by simp)]
      exact later whole.rest tail right (by omega)

end Slots
section Conversions

def remoteOf (m : LocalFileManifest) (author : DeviceID) (timestamp : DateTime) (version : Nat) :
    FileManifest :=
  { author := author, timestamp := timestamp, id := m.base.id, parent := m.parent
    version := version, created := m.base.created, updated := m.updated
    size := m.size, blocksize := m.blocksize, blocks := accesses m.blocks }

variable {m : LocalFileManifest} {remote : FileManifest}

theorem remoteOf_accepted (accepted : m.checkDataIntegrity = .ok (.ok ()))
    (whole : WholeBlocks m.blocks) (author : DeviceID) (timestamp : DateTime)
    (version : Nat) : (remoteOf m author timestamp version).checkDataIntegrity = .ok (.ok ()) := by
  obtain ⟨root, layout⟩ := (checkDataIntegrity_ok_iff m).mp accepted
  have before : 0 ≤ 0 * m.blocksize.inner := Nat.zero_le _
  have checked := checkBlocks_of_slots (blocksize_positive m.blocksize) whole
    (by simpa using layout.slots) before (Nat.le_refl 0)
  have bound := (ordered_viewsEnd (layout_flatten layout)).2
  rw [FileManifest.checkDataIntegrity, if_neg (by exact root)]
  change (FileManifest.checkBlocks m.blocksize.inner 0 0 (accesses m.blocks) >>= _) = _
  rw [checked, ok_bind]
  change (if viewsEnd 0 m.blocks.flatten > m.size then _ else _) = _
  rw [if_neg (by omega)]
  rfl

theorem toRemote_eq (accepted : m.checkDataIntegrity = .ok (.ok ())) (whole : WholeBlocks m.blocks)
    (author : DeviceID) (timestamp : DateTime) :
    m.toRemote author timestamp = .ok (.ok (remoteOf m author timestamp (m.base.version + 1))) := by
  have valid := remoteOf_accepted accepted whole author timestamp (m.base.version + 1)
  unfold LocalFileManifest.toRemote
  rw [accepted, ok_bind]
  simp only [slotAccesses whole]
  change ((remoteOf m author timestamp _).checkDataIntegrity >>= _) = _
  rw [valid]
  rfl

theorem remoteOf_spansFit (accepted : m.checkDataIntegrity = .ok (.ok ()))
    (whole : WholeBlocks m.blocks) (author : DeviceID) (timestamp : DateTime)
    (version : Nat) : SpansFit (remoteOf m author timestamp version) := by
  obtain ⟨-, layout⟩ := (checkDataIntegrity_ok_iff m).mp accepted
  have positive := blocksize_positive m.blocksize
  intro access member
  have isView : accessView access ∈ m.blocks.flatten := by
    rw [← accesses_views whole]
    exact List.mem_map_of_mem member
  have ordered := flatten_ordered (i := 0) (by simpa using layout.slots)
  have fits := layout.fits
  obtain ⟨-, inside, right⟩ := ordered_member ordered isView
  have valid := access.positive
  have below : access.offset / m.blocksize.inner < m.blocks.length := by
    rw [Nat.div_lt_iff_lt_mul positive]
    simp only [accessView, Nat.zero_add] at right
    omega
  exact Nat.lt_of_le_of_lt (Nat.mul_le_mul_right _ below) fits

theorem fromRemote_accepted (made : LocalFileManifest.fromRemote remote = .ok m) :
    m.checkDataIntegrity = .ok (.ok ()) := by
  unfold LocalFileManifest.fromRemote at made
  obtain ⟨views, -, made⟩ := bind_eq_ok.mp made
  obtain ⟨outcome, checked, made⟩ := bind_eq_ok.mp made
  cases outcome with
  | ok _ =>
    cases made
    exact checked
  | error error => cases made

theorem fromRemote_remoteOf (accepted : m.checkDataIntegrity = .ok (.ok ()))
    (whole : WholeBlocks m.blocks) (author : DeviceID) (timestamp : DateTime)
    (version : Nat) :
    ∃ back, LocalFileManifest.fromRemote (remoteOf m author timestamp version) = .ok back ∧
      back.blocks = m.blocks ∧ back.size = m.size ∧ back.blocksize = m.blocksize ∧
      back.parent = m.parent ∧ back.updated = m.updated := by
  obtain ⟨blocks, made, flat⟩ := fromRemote_spec (remoteOf m author timestamp version)
    (remoteOf_accepted accepted whole author timestamp version)
    (remoteOf_spansFit accepted whole author timestamp version)
  refine ⟨_, made, ?_, rfl, rfl, rfl, rfl⟩
  have layout := ((checkDataIntegrity_ok_iff _).mp (fromRemote_accepted made)).2
  apply layout_unique (blocksize_positive m.blocksize) layout
    ((checkDataIntegrity_ok_iff m).mp accepted).2
  rw [flat]
  exact accesses_views whole

theorem pushView_whole {blocksize : Nat} {blocks : List (List ChunkView)} {access : BlockAccess}
    (whole : WholeBlocks blocks) (past : blocks.length ≤ (accessView access).start / blocksize) :
    WholeBlocks (LocalFileManifest.pushView blocksize blocks (accessView access)) := by
  rw [pushView_append past]
  intro views member
  simp only [List.mem_append, List.mem_singleton] at member
  rcases member with (before | padding) | isLast
  · exact whole views before
  · exact Or.inl (List.eq_of_mem_replicate padding)
  · exact Or.inr ⟨access, isLast⟩

theorem pushViews_whole {blocksize size : Nat} {blocks : List (List ChunkView)}
    {added : List BlockAccess} (whole : WholeBlocks blocks)
    (spaced : Spaced blocksize size blocks.length (added.map accessView)) :
    WholeBlocks ((added.map accessView).foldl (LocalFileManifest.pushView blocksize) blocks) := by
  induction added generalizing blocks with
  | nil => exact whole
  | cons access rest later =>
    obtain ⟨past, -, -, -, -, others⟩ := spaced
    apply later (pushView_whole whole past)
    rw [pushView_append past, List.length_append, List.length_append, List.length_replicate,
      List.length_singleton, Nat.add_sub_cancel' past]
    exact others

/-- An accepted remote manifest becomes whole blocks, and is given back. -/
theorem fromRemote_whole (accepted : remote.checkDataIntegrity = .ok (.ok ()))
    (fits : SpansFit remote) :
    ∃ m, LocalFileManifest.fromRemote remote = .ok m ∧ WholeBlocks m.blocks ∧
      accesses m.blocks = remote.blocks := by
  obtain ⟨blocks, made, flat⟩ := fromRemote_spec remote accepted fits
  refine ⟨_, made, ?_⟩
  have whole : WholeBlocks blocks := by
    unfold FileManifest.checkDataIntegrity FileManifest.integrityError at accepted
    split at accepted
    · cases accepted
    obtain ⟨outcome, check, accepted⟩ := bind_eq_ok.mp accepted
    cases outcome with
    | error e => cases accepted
    | ok last =>
      dsimp only at accepted
      split at accepted
      · cases accepted
      rename_i bound
      obtain ⟨-, spaced, small⟩ :=
        checkBlocks_spaced remote.size (blocksize_positive remote.blocksize) check fits
      have empty : WholeBlocks [] := by simp [WholeBlocks]
      have pushed := pushViews_whole empty (spaced (by omega))
      unfold LocalFileManifest.fromRemote at made
      rw [mapM_ok fun b mb => fromBlockAccess_eq (small b mb), ok_bind] at made
      obtain ⟨outcome, -, made⟩ := bind_eq_ok.mp made
      cases outcome with
      | ok _ =>
        cases made
        exact pushed
      | error error => cases made
  refine ⟨whole, ?_⟩
  have views := (accesses_views whole).trans flat
  exact List.map_injective_iff.mpr (fun _ _ => accessView_injective) views

end Conversions
end ParsecCloud
