import ParsecCloud.File.RoundTrip

/- The checks and the conversions of file manifests in a release build, where an addition or a
   multiplication that leaves the range of u64 wraps around (local_manifest/file.rs and manifest.rs). -/
namespace Rust

def wrappingAdd (a b : Nat) : Nat := (a + b) % u64Limit
def wrappingSub (a b : Nat) : Nat := (a + u64Limit - b) % u64Limit
def wrappingMul (a b : Nat) : Nat := a * b % u64Limit

theorem wrappingAdd_small {a b : Nat} (fits : a + b < u64Limit) : wrappingAdd a b = a + b :=
  Nat.mod_eq_of_lt fits

theorem wrappingMul_small {a b : Nat} (fits : a * b < u64Limit) : wrappingMul a b = a * b :=
  Nat.mod_eq_of_lt fits

theorem wrappingAdd_large {a b : Nat} (left : a < u64Limit) (right : b < u64Limit)
    (large : u64Limit ≤ a + b) : wrappingAdd a b = a + b - u64Limit := by
  rw [wrappingAdd, Nat.mod_eq_sub_mod large, Nat.mod_eq_of_lt (by omega)]

theorem wrappingSub_small {a b : Nat} (le : b ≤ a) (fits : a < u64Limit) :
    wrappingSub a b = a - b := by
  rw [wrappingSub, show a + u64Limit - b = a - b + u64Limit by omega, Nat.add_mod_right,
    Nat.mod_eq_of_lt (by omega)]

theorem eq_map_of_mapM {f : β → Checked γ} {g : β → γ} (image : ∀ x y, f x = .ok y → y = g x)
    {l : List β} {r : List γ} (run : l.mapM f = .ok r) : r = l.map g := by
  induction l generalizing r with
  | nil =>
    cases run
    rfl
  | cons x rest later =>
    rw [List.mapM_cons] at run
    obtain ⟨y, first, run⟩ := bind_eq_ok.mp run
    obtain ⟨ys, others, run⟩ := bind_eq_ok.mp run
    cases run
    rw [image x y first, later others]
    rfl

end Rust

namespace ParsecCloud
open Rust OrderedSegments

namespace FileManifest

def checkBlocksInRelease (blocksize : Nat) :
    Nat → Nat → List BlockAccess → Except DataError Nat
  | currentOffset, _, [] => .ok currentOffset
  | currentOffset, currentBlockIndex, block :: rest =>
    if currentOffset > block.offset then
      .error ⟨"FileManifest", "blocks are ordered and not overlapping"⟩
    else
      let stop := wrappingAdd block.offset block.size
      let blockIndex := block.offset / blocksize
      if currentBlockIndex > blockIndex then
        .error ⟨"FileManifest", "blocks are not sharing the same block span"⟩
      else if wrappingSub stop 1 / blocksize ≠ blockIndex then
        .error ⟨"FileManifest", "blocks are not spanning over multiple block spans"⟩
      else checkBlocksInRelease blocksize stop (wrappingAdd blockIndex 1) rest

def checkDataIntegrityInRelease (m : FileManifest) : Except DataError Unit :=
  if m.id = m.parent then .error ⟨"FileManifest", "id and parent are different"⟩
  else do
    let currentOffset ← checkBlocksInRelease m.blocksize.inner 0 0 m.blocks
    if currentOffset > m.size then .error ⟨"FileManifest", "file size is not exceeded"⟩
    else return ()

end FileManifest

namespace ChunkView

def checkDataIntegrityInRelease (v : ChunkView) : Except DataError Unit :=
  if ¬ v.rawOffset ≤ v.start then .error ⟨"ChunkView", "raw_offset <= start"⟩
  else if ¬ v.start < v.stop then .error ⟨"ChunkView", "start < stop"⟩
  else if ¬ v.stop ≤ wrappingAdd v.rawOffset v.rawSize then
    .error ⟨"ChunkView", "stop <= raw_offset + raw_size"⟩
  else .ok ()

def fromBlockAccessInRelease (access : BlockAccess) : Checked ChunkView := do
  let stop ← nonZero
    "Chunk view stop should be NonZeroU64 since bloc_access.size is already NonZeroU64"
    (wrappingAdd access.offset access.size)
  return ⟨ChunkID.ofBlockID access.id, access.offset, stop, access.offset, access.size, some access⟩

end ChunkView

namespace LocalFileManifest

def checkViewsInRelease (spanStart spanStop : Nat) : Nat → List ChunkView → Except DataError Nat
  | current, [] => .ok current
  | current, v :: rest => do
    v.checkDataIntegrityInRelease
    if v.start < spanStart ∨ v.stop > spanStop then
      .error ⟨"LocalFileManifest", "Chunk view belong to the block span"⟩
    else if current > v.start then
      .error ⟨"LocalFileManifest", "Chunk views are ordered and do not overlap"⟩
    else checkViewsInRelease spanStart spanStop v.stop rest

def checkSlotsInRelease (blocksize : Nat) :
    Nat → Nat → List (List ChunkView) → Except DataError Nat
  | _, current, [] => .ok current
  | i, current, views :: rest => do
    let spanStart := wrappingMul i blocksize
    let spanStop := wrappingAdd spanStart blocksize
    let current ← checkViewsInRelease spanStart spanStop current views
    checkSlotsInRelease blocksize (i + 1) current rest

def checkDataIntegrityInRelease (m : LocalFileManifest) : Checked (Except DataError Unit) :=
  if m.base.id = m.parent then integrityError "id and parent are different"
  else
    match checkSlotsInRelease m.blocksize.inner 0 0 m.blocks with
    | .error e => .ok (.error e)
    | .ok current => do
      assert (m.blocks.getLast? != some []) "!chunks.is_empty()"
      if current > m.size then integrityError "File size is consistent with the last chunk view"
      else return .ok ()

def fromRemoteInRelease (remote : FileManifest) : Checked LocalFileManifest := do
  let chunkViews ← remote.blocks.mapM ChunkView.fromBlockAccessInRelease
  let manifest : LocalFileManifest :=
    { base := remote, parent := remote.parent, needSync := false, updated := remote.updated
      size := remote.size, blocksize := remote.blocksize
      blocks := chunkViews.foldl (pushView remote.blocksize.inner) [] }
  match ← manifest.checkDataIntegrityInRelease with
  | .ok () => return manifest
  | .error _ => .error (.expect "Manifest integrity")

/-- The version is a u32. -/
def toRemoteInRelease (m : LocalFileManifest) (author : DeviceID) (timestamp : DateTime) :
    Checked (Except ToRemoteError FileManifest) := do
  match ← m.checkDataIntegrityInRelease with
  | .error _ => .error (.expect "Local file manifest content integrity")
  | .ok () =>
    match (m.blocks.filter fun views => !views.isEmpty).mapM slotAccess with
    | .error e => return .error e
    | .ok blocks =>
      let manifest : FileManifest :=
        { author := author, timestamp := timestamp, id := m.base.id, parent := m.parent
          version := (m.base.version + 1) % 4294967296, created := m.base.created
          updated := m.updated, size := m.size, blocksize := m.blocksize, blocks := blocks }
      match manifest.checkDataIntegrityInRelease with
      | .ok () => return .ok manifest
      | .error _ => .error (.expect "Invalid manifest")

end LocalFileManifest

/-- The fields of a view are u64. -/
structure ChunkView.Wide (v : ChunkView) : Prop where
  start : v.start < u64Limit
  stop : v.stop < u64Limit
  rawOffset : v.rawOffset < u64Limit
  rawSize : v.rawSize < u64Limit

def WideSlots (blocks : List (List ChunkView)) : Prop := ∀ views ∈ blocks, ∀ v ∈ views, v.Wide

def WideBlocks (blocks : List BlockAccess) : Prop :=
  ∀ access ∈ blocks, access.offset < u64Limit ∧ access.size < u64Limit

section Views
variable {v : ChunkView} {views : List ChunkView} {blocks : List (List ChunkView)}

theorem ChunkView.releaseCheck_of_valid (valid : v.Valid) :
    v.checkDataIntegrityInRelease = .ok () := by
  obtain ⟨left, inside, right, fits⟩ := valid
  rw [checkDataIntegrityInRelease, wrappingAdd_small fits, if_neg (by simpa using left),
    if_neg (by simpa using inside), if_neg (by simpa using right)]

/-- A sum that wraps around is refused all the same. -/
theorem ChunkView.valid_of_releaseCheck (wide : v.Wide)
    (accepted : v.checkDataIntegrityInRelease = .ok ()) : v.Valid := by
  unfold checkDataIntegrityInRelease at accepted
  split at accepted
  · cases accepted
  split at accepted
  · cases accepted
  split at accepted
  · cases accepted
  rename_i left inside right
  by_cases fits : v.rawOffset + v.rawSize < u64Limit
  · rw [wrappingAdd_small fits] at right
    constructor <;> omega
  · rw [wrappingAdd_large wide.rawOffset wide.rawSize (by omega)] at right
    have bound := wide.rawSize
    omega

theorem releaseViews_of_checked {spanStart spanStop current last : Nat}
    (accepted : LocalFileManifest.checkViews spanStart spanStop current views = .ok (.ok last)) :
    LocalFileManifest.checkViewsInRelease spanStart spanStop current views = .ok last := by
  induction views generalizing current with
  | nil =>
    cases accepted
    rfl
  | cons v rest later =>
    obtain ⟨all, ordered, isLast⟩ := checkViews_eq_ok.mp accepted
    obtain ⟨valid, left, right⟩ := all v (by simp)
    obtain ⟨order, -, tail⟩ := ordered
    have others := checkViews_eq_ok.mpr ⟨fun w member => all w (by simp [member]), tail, isLast⟩
    rw [LocalFileManifest.checkViewsInRelease, ChunkView.releaseCheck_of_valid valid]
    change (if _ then _ else _) = _
    rw [if_neg (by omega), if_neg (by omega)]
    exact later others

theorem checked_of_releaseViews (wide : ∀ v ∈ views, v.Wide) {spanStart spanStop current last : Nat}
    (accepted : LocalFileManifest.checkViewsInRelease spanStart spanStop current views = .ok last) :
    LocalFileManifest.checkViews spanStart spanStop current views = .ok (.ok last) := by
  induction views generalizing current with
  | nil =>
    cases accepted
    rfl
  | cons v rest later =>
    unfold LocalFileManifest.checkViewsInRelease at accepted
    obtain ⟨_, isValid, accepted⟩ := bind_eq_ok.mp accepted
    have valid := ChunkView.valid_of_releaseCheck (wide v (by simp)) isValid
    rw [LocalFileManifest.checkViews, (ChunkView.check_ok_iff v).mpr valid, ok_bind]
    split at accepted
    · cases accepted
    split at accepted
    · cases accepted
    rename_i span order
    simp only [span, order, if_false]
    exact later (fun w member => wide w (by simp [member])) accepted

theorem WideSlots.rest (wide : WideSlots (views :: blocks)) : WideSlots blocks :=
  fun other member => wide other (List.mem_cons_of_mem _ member)

theorem releaseSlots_of_checked {blocksize i current last : Nat}
    (accepted : LocalFileManifest.checkSlots blocksize i current blocks = .ok (.ok last)) :
    LocalFileManifest.checkSlotsInRelease blocksize i current blocks = .ok last := by
  induction blocks generalizing i current with
  | nil =>
    cases accepted
    rfl
  | cons views rest later =>
    unfold LocalFileManifest.checkSlots at accepted
    obtain ⟨_, isStart, accepted⟩ := bind_eq_ok.mp accepted
    obtain ⟨startFits, rfl⟩ := mul_eq_ok.mp isStart
    obtain ⟨_, isStop, accepted⟩ := bind_eq_ok.mp accepted
    obtain ⟨stopFits, rfl⟩ := add_eq_ok.mp isStop
    obtain ⟨outcome, checked, accepted⟩ := bind_eq_ok.mp accepted
    cases outcome with
    | error error => cases accepted
    | ok stop =>
      rw [LocalFileManifest.checkSlotsInRelease, wrappingMul_small startFits,
        wrappingAdd_small stopFits]
      exact bind_eq_ok.mpr ⟨stop, releaseViews_of_checked checked, later accepted⟩

theorem checked_of_releaseSlots (wide : WideSlots blocks) {blocksize i current last : Nat}
    (fits : (i + blocks.length) * blocksize < u64Limit)
    (accepted : LocalFileManifest.checkSlotsInRelease blocksize i current blocks = .ok last) :
    LocalFileManifest.checkSlots blocksize i current blocks = .ok (.ok last) := by
  induction blocks generalizing i current with
  | nil =>
    cases accepted
    rfl
  | cons views rest later =>
    have whole : i * blocksize + blocksize ≤ (i + (views :: rest).length) * blocksize := by
      rw [← Nat.succ_mul]
      exact Nat.mul_le_mul_right _ (by simp only [List.length_cons]; omega)
    have startFits : i * blocksize < u64Limit := by omega
    have stopFits : i * blocksize + blocksize < u64Limit := by omega
    unfold LocalFileManifest.checkSlotsInRelease at accepted
    simp only [wrappingMul_small startFits, wrappingAdd_small stopFits] at accepted
    obtain ⟨stop, checked, accepted⟩ := bind_eq_ok.mp accepted
    rw [LocalFileManifest.checkSlots, mul_ok startFits, ok_bind, add_ok stopFits, ok_bind,
      checked_of_releaseViews (wide views (by simp)) checked, ok_bind]
    apply later wide.rest _ accepted
    rwa [List.length_cons, show i + (rest.length + 1) = i + 1 + rest.length by omega] at fits

theorem releaseSlots_views (wide : WideSlots blocks) {blocksize i current last : Nat}
    (accepted : LocalFileManifest.checkSlotsInRelease blocksize i current blocks = .ok last) (k : Nat) :
    ∀ v ∈ slot blocks k, v.Valid ∧ wrappingMul (i + k) blocksize ≤ v.start ∧
      v.stop ≤ wrappingAdd (wrappingMul (i + k) blocksize) blocksize := by
  induction blocks generalizing i current k with
  | nil =>
    intro v member
    cases member
  | cons views rest later =>
    unfold LocalFileManifest.checkSlotsInRelease at accepted
    obtain ⟨stop, checked, accepted⟩ := bind_eq_ok.mp accepted
    cases k with
    | zero =>
      intro v member
      exact (checkViews_eq_ok.mp (checked_of_releaseViews (wide views (by simp)) checked)).1 v member
    | succ k =>
      intro v member
      rw [show i + (k + 1) = i + 1 + k by omega]
      exact later wide.rest accepted k v member

/-- A view that begins in the span of its slot is only accepted when this span does not wrap
    around. -/
theorem span_fits {blocksize i : Nat} (small : blocksize < u64Limit)
    (wide : v.Wide) (valid : v.Valid) (begins : v.start / blocksize = i)
    (inSpan : v.stop ≤ wrappingAdd (wrappingMul i blocksize) blocksize) :
    (i + 1) * blocksize < u64Limit := by
  have before : i * blocksize ≤ v.start := by
    rw [← begins]
    exact Nat.div_mul_le_self _ _
  have startFits : i * blocksize < u64Limit := Nat.lt_of_le_of_lt before wide.start
  have inside := valid.inside
  rw [Nat.succ_mul]
  by_contra large
  rw [wrappingMul_small startFits, wrappingAdd_large startFits small (by omega)] at inSpan
  omega

end Views
section Manifests
variable {m : LocalFileManifest} {remote : FileManifest}

theorem LocalFileManifest.release_of_checked (accepted : m.checkDataIntegrity = .ok (.ok ())) :
    m.checkDataIntegrityInRelease = .ok (.ok ()) := by
  unfold LocalFileManifest.checkDataIntegrity at accepted
  unfold LocalFileManifest.checkDataIntegrityInRelease
  split at accepted
  · cases accepted
  rename_i root
  rw [if_neg root]
  obtain ⟨outcome, checked, accepted⟩ := bind_eq_ok.mp accepted
  cases outcome with
  | error error => cases accepted
  | ok last =>
    simp only [releaseSlots_of_checked checked]
    exact accepted

theorem LocalFileManifest.checked_of_release (wide : WideSlots m.blocks)
    (fits : m.blocks.length * m.blocksize.inner < u64Limit)
    (accepted : m.checkDataIntegrityInRelease = .ok (.ok ())) :
    m.checkDataIntegrity = .ok (.ok ()) := by
  unfold LocalFileManifest.checkDataIntegrityInRelease at accepted
  unfold LocalFileManifest.checkDataIntegrity
  split at accepted
  · cases accepted
  rename_i root
  rw [if_neg root]
  cases checked : LocalFileManifest.checkSlotsInRelease m.blocksize.inner 0 0 m.blocks with
  | error error =>
    simp only [checked] at accepted
    cases accepted
  | ok last =>
    simp only [checked] at accepted
    rw [checked_of_releaseSlots wide (by simpa using fits) checked, ok_bind]
    exact accepted

theorem releaseBlocks_of_checked {blocksize current index last : Nat} {blocks : List BlockAccess}
    (accepted : FileManifest.checkBlocks blocksize current index blocks = .ok (.ok last)) :
    FileManifest.checkBlocksInRelease blocksize current index blocks = .ok last := by
  induction blocks generalizing current index with
  | nil =>
    cases accepted
    rfl
  | cons access rest later =>
    unfold FileManifest.checkBlocks FileManifest.integrityError at accepted
    split at accepted
    · cases accepted
    rename_i order
    obtain ⟨_, isStop, accepted⟩ := bind_eq_ok.mp accepted
    obtain ⟨fits, rfl⟩ := add_eq_ok.mp isStop
    dsimp only at accepted
    split at accepted
    · cases accepted
    rename_i apart
    split at accepted
    · cases accepted
    rename_i whole
    have sizePositive := access.positive
    have indexSmall : access.offset / blocksize + 1 < u64Limit := by
      have bound := Nat.div_le_self access.offset blocksize
      omega
    rw [FileManifest.checkBlocksInRelease, if_neg order]
    simp only [wrappingAdd_small fits, wrappingSub_small (show 1 ≤ access.offset + access.size by omega)
      fits, wrappingAdd_small indexSmall]
    rw [if_neg apart, if_neg whole]
    exact later accepted

theorem checked_of_releaseBlocks {blocksize current index last : Nat} {blocks : List BlockAccess}
    (fits : ∀ access ∈ blocks, access.offset + access.size < u64Limit)
    (accepted : FileManifest.checkBlocksInRelease blocksize current index blocks = .ok last) :
    FileManifest.checkBlocks blocksize current index blocks = .ok (.ok last) := by
  induction blocks generalizing current index with
  | nil =>
    cases accepted
    rfl
  | cons access rest later =>
    have here := fits access (by simp)
    have sizePositive := access.positive
    have indexSmall : access.offset / blocksize + 1 < u64Limit := by
      have bound := Nat.div_le_self access.offset blocksize
      omega
    unfold FileManifest.checkBlocksInRelease at accepted
    simp only [wrappingAdd_small here, wrappingSub_small
      (show 1 ≤ access.offset + access.size by omega) here, wrappingAdd_small indexSmall] at accepted
    split at accepted
    · cases accepted
    rename_i order
    split at accepted
    · cases accepted
    rename_i apart
    split at accepted
    · cases accepted
    rename_i whole
    rw [FileManifest.checkBlocks, if_neg order, add_ok here, ok_bind]
    dsimp only
    rw [if_neg apart, if_neg whole]
    exact later (fun other member => fits other (by simp [member])) accepted

theorem FileManifest.release_of_checked (accepted : remote.checkDataIntegrity = .ok (.ok ())) :
    remote.checkDataIntegrityInRelease = .ok () := by
  unfold FileManifest.checkDataIntegrity FileManifest.integrityError at accepted
  unfold FileManifest.checkDataIntegrityInRelease
  split at accepted
  · cases accepted
  rename_i root
  rw [if_neg root]
  obtain ⟨outcome, checked, accepted⟩ := bind_eq_ok.mp accepted
  cases outcome with
  | error error => cases accepted
  | ok last =>
    dsimp only at accepted
    split at accepted
    · cases accepted
    rename_i bound
    have valid := remote.blocksize.valid
    rw [releaseBlocks_of_checked checked]
    change (if _ then _ else _) = _
    rw [if_neg bound]
    rfl

theorem FileManifest.checked_of_release
    (fits : ∀ access ∈ remote.blocks, access.offset + access.size < u64Limit)
    (accepted : remote.checkDataIntegrityInRelease = .ok ()) :
    remote.checkDataIntegrity = .ok (.ok ()) := by
  unfold FileManifest.checkDataIntegrityInRelease at accepted
  unfold FileManifest.checkDataIntegrity FileManifest.integrityError
  split at accepted
  · cases accepted
  rename_i root
  rw [if_neg root]
  obtain ⟨last, checked, accepted⟩ := bind_eq_ok.mp accepted
  split at accepted
  · cases accepted
  rename_i bound
  rw [checked_of_releaseBlocks fits checked, ok_bind]
  dsimp only
  rw [if_neg bound]
  rfl

/-- The view of a block, where the stop has wrapped around. -/
def releaseView (access : BlockAccess) : ChunkView :=
  ⟨ChunkID.ofBlockID access.id, access.offset, wrappingAdd access.offset access.size, access.offset,
    access.size, some access⟩

theorem fromBlockAccessInRelease_eq (access : BlockAccess) (v : ChunkView)
    (made : ChunkView.fromBlockAccessInRelease access = .ok v) : v = releaseView access := by
  unfold ChunkView.fromBlockAccessInRelease at made
  obtain ⟨stop, isStop, made⟩ := bind_eq_ok.mp made
  cases made
  unfold nonZero at isStop
  split at isStop
  · cases isStop
  · cases isStop
    rfl

theorem slot_pushViews {blocksize : Nat} (views : List ChunkView) (blocks : List (List ChunkView))
    (k : Nat) (v : ChunkView) :
    v ∈ slot (views.foldl (LocalFileManifest.pushView blocksize) blocks) k ↔
      v ∈ slot blocks k ∨ v ∈ views ∧ v.start / blocksize = k := by
  induction views generalizing blocks with
  | nil => simp
  | cons first rest later =>
    have pushed : slot (LocalFileManifest.pushView blocksize blocks first) k =
        if k = first.start / blocksize then
          (LocalFileManifest.padBlocks blocks (first.start / blocksize)).getD
            (first.start / blocksize) [] ++ [first]
        else slot blocks k :=
      slot_set_pad _ _ _
    have padded : (LocalFileManifest.padBlocks blocks (first.start / blocksize)).getD
        (first.start / blocksize) [] = slot blocks (first.start / blocksize) := by
      rw [LocalFileManifest.padBlocks, slot, List.getD_eq_getElem?_getD, List.getD_eq_getElem?_getD]
      by_cases inside : first.start / blocksize < blocks.length
      · rw [List.getElem?_append_left inside]
      · rw [List.getElem?_append_right (by omega), List.getElem?_replicate,
          List.getElem?_eq_none (by omega)]
        split <;> rfl
    rw [List.foldl_cons, later, pushed, padded]
    by_cases here : k = first.start / blocksize
    · subst here
      simp only [if_true, List.mem_append, List.mem_cons, List.not_mem_nil, or_false]
      constructor
      · rintro ((before | rfl) | ⟨member, same⟩)
        · exact Or.inl before
        · exact Or.inr ⟨Or.inl rfl, rfl⟩
        · exact Or.inr ⟨Or.inr member, same⟩
      · rintro (before | ⟨rfl | member, same⟩)
        · exact Or.inl (Or.inl before)
        · exact Or.inl (Or.inr rfl)
        · exact Or.inr ⟨member, same⟩
    · rw [if_neg here]
      constructor
      · rintro (before | ⟨member, same⟩)
        · exact Or.inl before
        · exact Or.inr ⟨List.mem_cons_of_mem _ member, same⟩
      · rintro (before | ⟨member, same⟩)
        · exact Or.inl before
        · rcases List.mem_cons.mp member with rfl | member
          · exact absurd same.symm here
          · exact Or.inr ⟨member, same⟩

theorem spansFit_of_fromRemote (made : LocalFileManifest.fromRemote remote = .ok m) :
    SpansFit remote := by
  have accepted := fromRemote_accepted made
  have image : ∀ access view, ChunkView.fromBlockAccess access = .ok view →
      view = accessView access := by
    intro access view built
    obtain ⟨stop, sum, -⟩ := bind_eq_ok.mp built
    rw [fromBlockAccess_eq (add_eq_ok.mp sum).1] at built
    cases built
    rfl
  unfold LocalFileManifest.fromRemote at made
  obtain ⟨views, isViews, made⟩ := bind_eq_ok.mp made
  obtain ⟨outcome, -, made⟩ := bind_eq_ok.mp made
  cases outcome with
  | error error => cases made
  | ok _ =>
    cases made
    have layout := ((checkDataIntegrity_ok_iff _).mp accepted).2
    have fits := layout.fits
    have allViews := eq_map_of_mapM image isViews
    subst allViews
    intro access member
    have inSlot := (@slot_pushViews remote.blocksize.inner _ [] _ _).mpr
      (Or.inr ⟨List.mem_map_of_mem (f := accessView) member, rfl⟩)
    have below := slot_inside (List.ne_nil_of_mem inSlot)
    exact Nat.lt_of_le_of_lt (Nat.mul_le_mul_right _ below) fits

/-- The manifest that is made passes the check, and each view begins in the span of its slot. -/
theorem fromRemoteInRelease_cases (made : LocalFileManifest.fromRemoteInRelease remote = .ok m) :
    m.checkDataIntegrityInRelease = .ok (.ok ()) ∧ m.blocksize = remote.blocksize ∧
      (∀ k v, v ∈ slot m.blocks k → v.start / remote.blocksize.inner = k ∧
        ∃ access ∈ remote.blocks, v = releaseView access) ∧
      ∀ access ∈ remote.blocks,
        releaseView access ∈ slot m.blocks (access.offset / remote.blocksize.inner) := by
  unfold LocalFileManifest.fromRemoteInRelease at made
  obtain ⟨views, isViews, made⟩ := bind_eq_ok.mp made
  obtain ⟨outcome, accepted, made⟩ := bind_eq_ok.mp made
  cases outcome with
  | error error => cases made
  | ok _ =>
    cases made
    have allViews := eq_map_of_mapM fromBlockAccessInRelease_eq isViews
    subst allViews
    refine ⟨accepted, rfl, ?_, ?_⟩
    · intro k v member
      rcases (slot_pushViews _ [] k v).mp member with before | ⟨isView, begins⟩
      · cases before
      · obtain ⟨access, isAccess, rfl⟩ := List.mem_map.mp isView
        exact ⟨begins, access, isAccess, rfl⟩
    · intro access member
      exact (slot_pushViews _ [] _ _).mpr (Or.inr ⟨List.mem_map_of_mem member, rfl⟩)

theorem release_fromRemote
    (fits : ∀ access ∈ remote.blocks, access.offset + access.size < u64Limit)
    (made : LocalFileManifest.fromRemote remote = .ok m) :
    LocalFileManifest.fromRemoteInRelease remote = .ok m := by
  have accepted := LocalFileManifest.release_of_checked (fromRemote_accepted made)
  unfold LocalFileManifest.fromRemote at made
  unfold LocalFileManifest.fromRemoteInRelease
  have isView : ∀ access ∈ remote.blocks,
      ChunkView.fromBlockAccessInRelease access = .ok (accessView access) := by
    intro access member
    have positive := access.positive
    rw [ChunkView.fromBlockAccessInRelease, wrappingAdd_small (fits access member),
      nonZero_ok (by omega)]
    rfl
  rw [mapM_ok fun access member => fromBlockAccess_eq (fits access member), ok_bind] at made
  rw [mapM_ok isView, ok_bind]
  obtain ⟨outcome, -, made⟩ := bind_eq_ok.mp made
  cases outcome with
  | error error => cases made
  | ok _ =>
    cases made
    exact bind_eq_ok.mpr ⟨.ok (), accepted, rfl⟩

theorem release_toRemote (accepted : m.checkDataIntegrity = .ok (.ok ()))
    (whole : WholeBlocks m.blocks) (author : DeviceID) (timestamp : DateTime) :
    m.toRemoteInRelease author timestamp =
      .ok (.ok (remoteOf m author timestamp ((m.base.version + 1) % 4294967296))) := by
  have valid := FileManifest.release_of_checked
    (remoteOf_accepted accepted whole author timestamp ((m.base.version + 1) % 4294967296))
  unfold LocalFileManifest.toRemoteInRelease
  rw [LocalFileManifest.release_of_checked accepted, ok_bind]
  simp only [slotAccesses whole]
  simp only [remoteOf] at valid ⊢
  simp only [valid]
  rfl

theorem releaseSlots_of_accepted (accepted : m.checkDataIntegrityInRelease = .ok (.ok ())) :
    m.blocks.getLast? ≠ some [] ∧
      ∃ last, LocalFileManifest.checkSlotsInRelease m.blocksize.inner 0 0 m.blocks = .ok last := by
  unfold LocalFileManifest.checkDataIntegrityInRelease at accepted
  split at accepted
  · cases accepted
  cases checked : LocalFileManifest.checkSlotsInRelease m.blocksize.inner 0 0 m.blocks with
  | error error =>
    simp only [checked] at accepted
    cases accepted
  | ok last =>
    simp only [checked] at accepted
    obtain ⟨_, nonempty, -⟩ := bind_eq_ok.mp accepted
    exact ⟨by simpa using assert_eq_ok.mp nonempty, last, rfl⟩

theorem slot_wide (wide : WideSlots m.blocks) {k : Nat} {v : ChunkView}
    (member : v ∈ slot m.blocks k) : v.Wide := by
  obtain ⟨views, isSlot, isView⟩ := List.mem_flatten.mp (slot_member member)
  exact wide views isSlot v isView

theorem slot_fits (wide : WideSlots m.blocks) (accepted : m.checkDataIntegrityInRelease = .ok (.ok ()))
    {k : Nat} {v : ChunkView} (member : v ∈ slot m.blocks k)
    (begins : v.start / m.blocksize.inner = k) :
    v.Valid ∧ (k + 1) * m.blocksize.inner < u64Limit := by
  obtain ⟨-, last, checked⟩ := releaseSlots_of_accepted accepted
  obtain ⟨valid, -, inSpan⟩ := releaseSlots_views wide checked k v member
  rw [Nat.zero_add] at inSpan
  exact ⟨valid, span_fits m.blocksize.fits (slot_wide wide member) valid begins inSpan⟩

end Manifests

/-- The remote manifest that is made of a local one is accepted, and gives its content back. -/
def ComesBack (m : LocalFileManifest) (author : DeviceID) (timestamp : DateTime) : Prop :=
  ∃ remote back, m.toRemoteInRelease author timestamp = .ok (.ok remote) ∧
    remote.checkDataIntegrityInRelease = .ok () ∧
    LocalFileManifest.fromRemoteInRelease remote = .ok back ∧ back.blocks = m.blocks ∧
    back.size = m.size ∧ back.blocksize = m.blocksize ∧ back.parent = m.parent ∧
    back.updated = m.updated

/-- The local manifest that is made of a remote one is accepted, and gives its blocks back. -/
def GivenBack (remote : FileManifest) : Prop :=
  ∃ m, LocalFileManifest.fromRemoteInRelease remote = .ok m ∧
    m.checkDataIntegrityInRelease = .ok (.ok ()) ∧
    ∀ author timestamp, ∃ again,
      m.toRemoteInRelease author timestamp = .ok (.ok again) ∧ again.blocks = remote.blocks

section Conversions
variable {m : LocalFileManifest} {remote : FileManifest}

theorem comesBack_iff (author : DeviceID) (timestamp : DateTime) (wide : WideSlots m.blocks)
    (accepted : m.checkDataIntegrityInRelease = .ok (.ok ())) (whole : WholeBlocks m.blocks) :
    ComesBack m author timestamp ↔ m.blocks.length * m.blocksize.inner < u64Limit := by
  constructor
  · rintro ⟨remote, back, -, -, made, sameBlocks, -, sameSize, -⟩
    obtain ⟨acceptedBack, isBlocksize, slots, -⟩ := fromRemoteInRelease_cases made
    obtain ⟨nonempty, -⟩ := releaseSlots_of_accepted accepted
    cases isLast : m.blocks.getLast? with
    | none =>
      rw [List.getLast?_eq_none_iff.mp isLast]
      simp [u64Limit]
    | some views =>
      cases views with
      | nil => exact absurd isLast nonempty
      | cons v rest =>
        have positive : 0 < m.blocks.length := by
          cases isBlocks : m.blocks with
          | nil =>
            rw [isBlocks] at isLast
            cases isLast
          | cons first others => exact Nat.succ_pos _
        have member : v ∈ slot back.blocks (m.blocks.length - 1) := by
          rw [List.getLast?_eq_getElem?] at isLast
          rw [sameBlocks, slot, List.getD_eq_getElem?_getD, isLast]
          exact List.mem_cons_self
        have begins := (slots _ v member).1
        rw [← isBlocksize] at begins
        have fits := (slot_fits (sameBlocks ▸ wide) acceptedBack member begins).2
        rwa [Nat.sub_add_cancel positive, sameSize] at fits
  · intro fits
    have checked := LocalFileManifest.checked_of_release wide fits accepted
    obtain ⟨back, made, sameBlocks, sameFields⟩ := fromRemote_remoteOf checked whole author timestamp
      ((m.base.version + 1) % 4294967296)
    have acceptedRemote := remoteOf_accepted checked whole author timestamp
      ((m.base.version + 1) % 4294967296)
    refine ⟨_, back, release_toRemote checked whole author timestamp,
      FileManifest.release_of_checked acceptedRemote, release_fromRemote ?_ made, sameBlocks,
      sameFields⟩
    intro access member
    have isView : accessView access ∈ m.blocks.flatten := by
      rw [← accesses_views whole]
      exact List.mem_map_of_mem member
    obtain ⟨k, inSlot⟩ := mem_flatten_iff_slot.mp isView
    have layout := ((checkDataIntegrity_ok_iff m).mp checked).2
    exact ((layout.slots k).valid _ inSlot).fits

theorem givenBack_iff (wide : WideBlocks remote.blocks)
    (accepted : remote.checkDataIntegrityInRelease = .ok ()) :
    GivenBack remote ↔ (∀ access ∈ remote.blocks, access.offset + access.size < u64Limit) ∧
      SpansFit remote := by
  constructor
  · rintro ⟨m, made, acceptedMade, -⟩
    obtain ⟨-, isBlocksize, slots, views⟩ := fromRemoteInRelease_cases made
    have wideSlots : WideSlots m.blocks := by
      intro views isSlot v isView
      obtain ⟨k, inSlot⟩ := mem_flatten_iff_slot.mp (List.mem_flatten.mpr ⟨views, isSlot, isView⟩)
      obtain ⟨-, access, member, rfl⟩ := slots k v inSlot
      obtain ⟨offset, size⟩ := wide access member
      exact ⟨offset, Nat.mod_lt _ (by decide), offset, size⟩
    have fits : ∀ access ∈ remote.blocks, (releaseView access).Valid ∧
        (access.offset / remote.blocksize.inner + 1) * remote.blocksize.inner < u64Limit := by
      intro access member
      have inSlot := views access member
      have begins := (slots _ _ inSlot).1
      rw [← isBlocksize] at begins ⊢
      exact slot_fits wideSlots acceptedMade (isBlocksize ▸ inSlot) begins
    constructor
    · intro access member
      exact (fits access member).1.fits
    · intro access member
      exact (fits access member).2
  · rintro ⟨fits, spans⟩
    have checked := FileManifest.checked_of_release fits accepted
    obtain ⟨m, made, whole, sameBlocks⟩ := fromRemote_whole checked spans
    have checkedMade := fromRemote_accepted made
    refine ⟨m, release_fromRemote fits made, LocalFileManifest.release_of_checked checkedMade, ?_⟩
    intro author timestamp
    exact ⟨_, release_toRemote checkedMade whole author timestamp, sameBlocks⟩

/-- The conversions undo each other as long as nothing wraps around. -/
theorem release_conversions_iff (m : LocalFileManifest) (author : DeviceID) (timestamp : DateTime)
    (remote : FileManifest) (wide : WideSlots m.blocks)
    (accepted : m.checkDataIntegrityInRelease = .ok (.ok ())) (reshaped : m.isReshaped = true)
    (named : AllNamed m.blocks) (wideRemote : WideBlocks remote.blocks)
    (acceptedRemote : remote.checkDataIntegrityInRelease = .ok ()) :
    (ComesBack m author timestamp ↔ m.blocks.length * m.blocksize.inner < u64Limit) ∧
    (GivenBack remote ↔ (∀ access ∈ remote.blocks, access.offset + access.size < u64Limit) ∧
      SpansFit remote) :=
  ⟨comesBack_iff author timestamp wide accepted (wholeBlocks_of_reshaped reshaped named),
    givenBack_iff wideRemote acceptedRemote⟩

end Conversions

/-- One block, of the last bytes that an offset can be in. -/
def lastBytes : FileManifest where
  author := ⟨0⟩
  timestamp := 0
  id := ⟨1⟩
  parent := ⟨2⟩
  version := 1
  created := 0
  updated := 0
  size := 0
  blocksize := smallestBlocksize
  blocks := [⟨⟨3⟩, 18446744073709551608, 8, Nat.succ_pos _, ⟨[]⟩⟩]

theorem lastBytes_accepted : lastBytes.checkDataIntegrityInRelease = .ok () := by decide

theorem lastBytes_not_givenBack :
    lastBytes.checkDataIntegrityInRelease = .ok () ∧ ¬ GivenBack lastBytes := by
  refine ⟨lastBytes_accepted, ?_⟩
  rintro ⟨m, made, -⟩
  cases made

def oneBlock : FileManifest :=
  { lastBytes with size := 3, blocks := [⟨⟨3⟩, 0, 3, Nat.succ_pos _, ⟨[]⟩⟩] }

def oneSlot : LocalFileManifest where
  base := oneBlock
  parent := ⟨2⟩
  needSync := false
  updated := 0
  size := 3
  blocksize := smallestBlocksize
  blocks := [[accessView ⟨⟨3⟩, 0, 3, Nat.succ_pos _, ⟨[]⟩⟩]]

theorem oneBlock_conversions :
    (ComesBack oneSlot ⟨0⟩ 0 ↔ oneSlot.blocks.length * oneSlot.blocksize.inner < u64Limit) ∧
    (GivenBack oneBlock ↔ (∀ access ∈ oneBlock.blocks, access.offset + access.size < u64Limit) ∧
      SpansFit oneBlock) := by
  apply release_conversions_iff
  · intro views isSlot v isView
    rw [List.mem_singleton.mp isSlot] at isView
    rw [List.mem_singleton.mp isView]
    constructor <;> decide
  · rfl
  · rfl
  · intro views isSlot v isView access isAccess
    rw [List.mem_singleton.mp isSlot] at isView
    rw [List.mem_singleton.mp isView] at isAccess ⊢
    cases isAccess
    rfl
  · intro access isBlock
    rw [List.mem_singleton.mp isBlock]
    decide
  · decide

end ParsecCloud
