import ParsecCloud.File.Remote

/- The merge of a local file manifest with a newer remote one (merge.rs). -/
namespace ParsecCloud
open Rust OrderedSegments

inductive MergeLocalFileManifestOutcome where
  | noChange
  | merged (manifest : LocalFileManifest)
  | conflict (remote : FileManifest)
  deriving DecidableEq

/-- The loop over the blocksize areas, next to the blocks of the base still to be met. -/
def compareAreas : List BlockAccess → List (List ChunkView) → Bool
  | _, [] => false
  -- an area of zeroes: the base should have a hole here
  | baseBlocks, [] :: rest => compareAreas baseBlocks rest
  | baseBlocks, [v] :: rest =>
    match v.getBlockAccess, baseBlocks with
    | .error .notPromotedAsBlock, _ => true
    | _, [] => true
    | .ok localAccess, baseAccess :: others =>
      if localAccess ≠ baseAccess then true else compareAreas others rest
  | _, (_ :: _ :: _) :: _ => true

def hasFileContentChangedInLocal (baseSize : Nat) (baseBlocksize : Blocksize)
    (baseBlocks : List BlockAccess) (localSize : Nat) (localBlocksize : Blocksize)
    (localBlocks : List (List ChunkView)) : Bool :=
  if baseSize ≠ localSize ∨ baseBlocksize ≠ localBlocksize then true
  else compareAreas baseBlocks localBlocks

def mergeParent (base localParent remote : VlobID) : VlobID :=
  let remoteChange := remote != base
  let localChange := localParent != base
  match localChange, remoteChange with
  | false, false => base
  | true, false => localParent
  | false, true => remote
  | true, true => remote

def mergeLocalFileManifest (localAuthor : DeviceID) (timestamp : DateTime) (m : LocalFileManifest)
    (remote : FileManifest) : Checked MergeLocalFileManifestOutcome := do
  assert (m.base.id == remote.id) "local.base.id == remote.id"
  if remote.version ≤ m.base.version then return .noChange
  else if m.needSync = false then return .merged (← LocalFileManifest.fromRemote remote)
  else if remote.author = localAuthor then return .merged { m with base := remote }
  else
    let localContentChanged := hasFileContentChangedInLocal m.base.size m.base.blocksize
      m.base.blocks m.size m.blocksize m.blocks
    let remoteContentChanged : Bool := remote.size != m.base.size ||
      remote.blocksize != m.base.blocksize || remote.blocks != m.base.blocks
    if localContentChanged && remoteContentChanged then return .conflict remote
    else do
      let mergeInProgress ← LocalFileManifest.fromRemote remote
      let mergeInProgress := if localContentChanged then { mergeInProgress with
        size := m.size, blocksize := m.blocksize, blocks := m.blocks } else mergeInProgress
      let parent := mergeParent m.base.parent m.parent remote.parent
      let mergeInProgress := { mergeInProgress with parent := parent }
      if localContentChanged || parent != remote.parent then
        return .merged { mergeInProgress with updated := timestamp, needSync := true }
      else return .merged mergeInProgress

/-- The blocks that the slots list, when each slot is empty or is one whole block. -/
def listedBlocks : List (List ChunkView) → Option (List BlockAccess)
  | [] => some []
  | [] :: rest => listedBlocks rest
  | [v] :: rest =>
    match v.block, listedBlocks rest with
    | some access, some others => some (access :: others)
    | _, _ => none
  | (_ :: _ :: _) :: _ => none

/-- The local manifest describes its content just as its base does. -/
def SameDescription (m : LocalFileManifest) : Prop :=
  m.size = m.base.size ∧ m.blocksize = m.base.blocksize ∧ listedBlocks m.blocks = some m.base.blocks

instance (m : LocalFileManifest) : Decidable (SameDescription m) :=
  inferInstanceAs (Decidable (_ ∧ _))

/-- The local manifest lists the first blocks of its base and not the others, although the
    sizes agree: a file cut at the border of a block, and extended again. -/
def ListShortened (m : LocalFileManifest) : Prop :=
  m.size = m.base.size ∧ m.blocksize = m.base.blocksize ∧
    ∃ listed, listedBlocks m.blocks = some listed ∧ List.IsPrefix listed m.base.blocks ∧
      listed ≠ m.base.blocks

def ContentDiffers (base remote : FileManifest) : Prop :=
  remote.size ≠ base.size ∨ remote.blocksize ≠ base.blocksize ∨ remote.blocks ≠ base.blocks

instance (base remote : FileManifest) : Decidable (ContentDiffers base remote) :=
  inferInstanceAs (Decidable (_ ∨ _))

def localContent (store : ChunkStore) (m : LocalFileManifest) : List Byte :=
  contents store m.blocks.flatten 0 m.size

def remoteContent (store : ChunkStore) (remote : FileManifest) : List Byte :=
  contents store (remote.blocks.map accessView) 0 remote.size

theorem getBlockAccess_ok {v : ChunkView} {access : BlockAccess} :
    v.getBlockAccess = .ok access ↔ v.block = some access := by
  unfold ChunkView.getBlockAccess
  cases v.block <;> simp

theorem compareAreas_eq_false {baseBlocks : List BlockAccess} {blocks : List (List ChunkView)} :
    compareAreas baseBlocks blocks = false ↔
      ∃ listed, listedBlocks blocks = some listed ∧ List.IsPrefix listed baseBlocks := by
  induction blocks generalizing baseBlocks with
  | nil => simp [compareAreas, listedBlocks]
  | cons views rest ih =>
    match views with
    | [] =>
      simp only [compareAreas, listedBlocks]
      exact ih
    | [v] =>
      cases block : v.block with
      | none =>
        have failed : v.getBlockAccess = .error .notPromotedAsBlock := by
          simp [ChunkView.getBlockAccess, block]
        simp [compareAreas, listedBlocks, block, failed]
      | some access =>
        have found := getBlockAccess_ok.mpr block
        cases baseBlocks with
        | nil =>
          simp only [compareAreas, listedBlocks, found, block]
          cases listedBlocks rest <;> simp
        | cons baseAccess others =>
          simp only [compareAreas, listedBlocks, found, block]
          by_cases same : access = baseAccess
          · subst baseAccess
            simp only [ne_eq, not_true_eq_false, if_false, ih]
            cases listedBlocks rest <;> simp
          · simp only [ne_eq, same, not_false_eq_true, if_true]
            cases listedBlocks rest <;> simp [same]
    | v :: w :: more => simp [compareAreas, listedBlocks]

/-- Outside the shortened lists, the comparison answers that nothing has changed exactly when
    the two descriptions are the same. -/
theorem hasChanged_eq_false {m : LocalFileManifest} (whole : ¬ ListShortened m) :
    hasFileContentChangedInLocal m.base.size m.base.blocksize m.base.blocks m.size m.blocksize
      m.blocks = false ↔ SameDescription m := by
  unfold hasFileContentChangedInLocal
  constructor
  · intro unchanged
    split at unchanged
    · cases unchanged
    rename_i equal
    obtain ⟨size, blocksize⟩ : m.base.size = m.size ∧ m.base.blocksize = m.blocksize := by
      simpa using equal
    obtain ⟨listed, found, first⟩ := compareAreas_eq_false.mp unchanged
    refine ⟨size.symm, blocksize.symm, ?_⟩
    by_contra shortened
    refine whole ⟨size.symm, blocksize.symm, listed, found, first, ?_⟩
    rintro rfl
    exact shortened found
  · rintro ⟨size, blocksize, listed⟩
    rw [if_neg (by simp [size, blocksize])]
    exact compareAreas_eq_false.mpr ⟨_, listed, List.prefix_refl _⟩

theorem block_eq_some {v : ChunkView} {access : BlockAccess} (named : Named v)
    (block : v.block = some access) : v = accessView access := by
  obtain ⟨id, start, stop, rawOffset, rawSize, held⟩ := v
  unfold ChunkView.block at block
  cases held with
  | none => cases block
  | some other =>
    dsimp only at block
    split at block
    · rename_i aligned
      cases block
      have id' := named access rfl
      simp only [ChunkView.isAlignedWithRawData, Bool.and_eq_true, beq_iff_eq] at aligned
      obtain ⟨⟨⟨rfl, rfl⟩, rfl⟩, rfl⟩ := aligned
      rw [accessView, id']
      rfl
    · cases block

theorem listedBlocks_views {blocks : List (List ChunkView)} {listed : List BlockAccess}
    (named : AllNamed blocks) (found : listedBlocks blocks = some listed) :
    blocks.flatten = listed.map accessView := by
  induction blocks generalizing listed with
  | nil =>
    cases found
    rfl
  | cons views rest ih =>
    have others : AllNamed rest := fun views member => named views (by simp [member])
    match views with
    | [] => exact ih others found
    | [v] =>
      unfold listedBlocks at found
      split at found
      · rename_i access tail block rests
        cases found
        have first := block_eq_some (named [v] (by simp) v (by simp)) block
        rw [List.flatten_cons, ih others rests, first]
        rfl
      · cases found
    | v :: w :: more => cases found

/-- A content that differs from the base's is described otherwise. -/
theorem content_of_same_description {m : LocalFileManifest} (store : ChunkStore)
    (named : AllNamed m.blocks) (same : SameDescription m) :
    localContent store m = remoteContent store m.base := by
  obtain ⟨size, -, listed⟩ := same
  rw [localContent, remoteContent, listedBlocks_views named listed, size]

theorem mergeParent_eq (base localParent remote : VlobID) :
    mergeParent base localParent remote = if remote = base then localParent else remote := by
  unfold mergeParent
  by_cases moved : remote = base
  · by_cases here : localParent = base
    · simp [moved, here]
    · simp [moved, bne_iff_ne.mpr here]
  · cases localParent != base <;> simp [moved, bne_iff_ne.mpr moved]

/-- The merged manifest, from what from_remote makes of the remote one. -/
def mergedManifest (timestamp : DateTime) (m : LocalFileManifest) (remote : FileManifest)
    (blocks : List (List ChunkView)) (changed : Bool) : LocalFileManifest :=
  let parent := mergeParent m.base.parent m.parent remote.parent
  { base := remote
    parent := parent
    needSync := changed || parent != remote.parent
    updated := if changed || parent != remote.parent then timestamp else remote.updated
    size := if changed then m.size else remote.size
    blocksize := if changed then m.blocksize else remote.blocksize
    blocks := if changed then m.blocks else blocks }

theorem merge_eq {author : DeviceID} {remote : FileManifest} {m : LocalFileManifest}
    {blocks : List (List ChunkView)} (timestamp : DateTime) (pending : m.needSync = true)
    (sameId : remote.id = m.base.id) (newer : m.base.version < remote.version)
    (other : remote.author ≠ author)
    (made : LocalFileManifest.fromRemote remote = .ok
      { base := remote, parent := remote.parent, needSync := false, updated := remote.updated
        size := remote.size, blocksize := remote.blocksize, blocks := blocks }) :
    mergeLocalFileManifest author timestamp m remote =
      if hasFileContentChangedInLocal m.base.size m.base.blocksize m.base.blocks m.size m.blocksize
          m.blocks = true ∧ ContentDiffers m.base remote then .ok (.conflict remote)
      else .ok (.merged (mergedManifest timestamp m remote blocks (hasFileContentChangedInLocal
        m.base.size m.base.blocksize m.base.blocks m.size m.blocksize m.blocks))) := by
  have differs : (remote.size != m.base.size || remote.blocksize != m.base.blocksize ||
      remote.blocks != m.base.blocks) = true ↔ ContentDiffers m.base remote := by
    simp [ContentDiffers, or_assoc]
  unfold mergeLocalFileManifest
  rw [assert_eq_ok.mpr (by simpa using sameId.symm), ok_bind, if_neg (by omega),
    if_neg (by simp [pending]), if_neg other]
  dsimp only
  rw [made]
  generalize hasFileContentChangedInLocal m.base.size m.base.blocksize m.base.blocks m.size
    m.blocksize m.blocks = changed
  simp only [Bool.and_eq_true, differs]
  split
  · rfl
  · unfold mergedManifest
    cases changed with
    | true => rfl
    | false =>
      cases moved : (mergeParent m.base.parent m.parent remote.parent != remote.parent) <;>
        simp [moved]

/-- Every change of content is a change of description, and a change of description is either
    kept or reported as a conflict; without one the remote content is taken over. This leaves
    out the shortened lists. -/
theorem file_merge_keeps_content (fromData : List Byte → HashDigest) (store : ChunkStore)
    (author : DeviceID) (timestamp : DateTime) (base remote : FileManifest) (m : LocalFileManifest)
    (reachable : Reachable fromData base m) (pending : m.needSync = true)
    (sameId : remote.id = base.id) (newer : base.version < remote.version)
    (other : remote.author ≠ author) (accepted : remote.checkDataIntegrity = .ok (.ok ()))
    (fits : SpansFit remote) (whole : ¬ ListShortened m) :
    (localContent store m ≠ remoteContent store base → ¬ SameDescription m) ∧
    (¬ SameDescription m ∧ ContentDiffers base remote →
      mergeLocalFileManifest author timestamp m remote = .ok (.conflict remote)) ∧
    (¬ (¬ SameDescription m ∧ ContentDiffers base remote) →
      ∃ result, mergeLocalFileManifest author timestamp m remote = .ok (.merged result) ∧
        result.base = remote ∧
        localContent store result =
          (if localContent store m ≠ remoteContent store base then localContent store m
            else remoteContent store remote) ∧
        result.parent = (if remote.parent = base.parent then m.parent else remote.parent) ∧
        (localContent store result ≠ remoteContent store remote ∨ result.parent ≠ remote.parent →
          result.needSync = true)) := by
  obtain ⟨named, rfl⟩ := reachable_named reachable
  have content := content_of_same_description store named
  have unchanged := hasChanged_eq_false whole
  obtain ⟨blocks, made, flat⟩ := fromRemote_spec remote accepted fits
  rw [merge_eq timestamp pending sameId newer other made]
  refine ⟨fun change same => change (content same), ?_, ?_⟩
  · rintro ⟨changed, remoteChanged⟩
    rw [if_pos]
    exact ⟨by simpa using mt unchanged.mp changed, remoteChanged⟩
  · intro noConflict
    by_cases same : SameDescription m
    · rw [unchanged.mpr same, if_neg (by simp)]
      have taken : localContent store (mergedManifest timestamp m remote blocks false) =
          remoteContent store remote := by
        simp [localContent, remoteContent, mergedManifest, flat]
      refine ⟨_, rfl, rfl, ?_, mergeParent_eq _ _ _, ?_⟩
      · rw [if_neg (by simpa using content same), taken]
      · rintro (differs | moved)
        · exact absurd taken differs
        · simpa [mergedManifest] using moved
    · have equal : ¬ ContentDiffers m.base remote := fun differs => noConflict ⟨same, differs⟩
      have flag := mt unchanged.mp same
      rw [Bool.not_eq_false] at flag
      rw [flag, if_neg (by simp [equal])]
      refine ⟨_, rfl, rfl, ?_, mergeParent_eq _ _ _, fun _ => rfl⟩
      have kept : localContent store (mergedManifest timestamp m remote blocks true) =
          localContent store m := rfl
      rw [kept]
      split
      · rfl
      · rename_i equalContent
        obtain ⟨size, -, blocks⟩ : remote.size = m.base.size ∧ remote.blocksize = m.base.blocksize ∧
            remote.blocks = m.base.blocks := by simpa [ContentDiffers] using equal
        rw [not_not.mp equalContent, remoteContent, remoteContent, size, blocks]

theorem threeBytes_pos : 0 < 3 := Nat.succ_pos 2

/-- A file of three bytes, the same bytes written again over them, and a remote change. -/
def threeBytes : FileManifest :=
  { author := ⟨1⟩, timestamp := 7, id := ⟨10⟩, parent := ⟨11⟩, version := 5, created := 7
    updated := 7, size := 3, blocksize := smallestBlocksize
    blocks := [⟨⟨30⟩, 0, 3, threeBytes_pos, ⟨[]⟩⟩] }

def otherBytes : FileManifest :=
  { threeBytes with
    author := ⟨2⟩, version := 6, blocks := [⟨⟨31⟩, 0, 3, threeBytes_pos, ⟨[]⟩⟩] }

def rewrittenBytes : LocalFileManifest :=
  { base := threeBytes, parent := ⟨11⟩, needSync := true, updated := 8, size := 3
    blocksize := smallestBlocksize, blocks := [[⟨⟨32⟩, 0, 3, 0, 3, none⟩]] }

def sameBytes : ChunkStore := fun id => if id = ⟨31⟩ then some [4, 5, 6] else some [1, 2, 3]

theorem rewrittenBytes_reachable : Reachable noDigest threeBytes rewrittenBytes :=
  .write (.fromRemote rfl) (show prepareWrite _ 3 0 8 (fun _ => ⟨32⟩) = _ from rfl)

theorem rewritten_bytes_conflict :
    ¬ ∀ (fromData : List Byte → HashDigest) (store : ChunkStore) (author : DeviceID)
      (timestamp : DateTime) (base remote : FileManifest) (m : LocalFileManifest),
      Reachable fromData base m → m.needSync = true → remote.id = base.id →
      base.version < remote.version → remote.author ≠ author →
      remote.checkDataIntegrity = .ok (.ok ()) →
      ¬ (localContent store m ≠ remoteContent store base ∧ ContentDiffers base remote) →
      ∃ result, mergeLocalFileManifest author timestamp m remote = .ok (.merged result) := by
  intro claim
  obtain ⟨result, merged⟩ := claim noDigest sameBytes ⟨1⟩ 9 threeBytes otherBytes rewrittenBytes
    rewrittenBytes_reachable rfl rfl (by decide) (by decide) (by decide)
    (fun both => both.1 (by decide))
  have conflict : mergeLocalFileManifest ⟨1⟩ 9 rewrittenBytes otherBytes =
      .ok (.conflict otherBytes) := by decide
  rw [conflict] at merged
  cases merged

theorem rewrittenBytes_whole : ¬ ListShortened rewrittenBytes := by
  rintro ⟨-, -, listed, found, -⟩
  cases found

theorem rewritten_bytes_merge :
    ¬ SameDescription rewrittenBytes ∧
      mergeLocalFileManifest ⟨1⟩ 9 rewrittenBytes otherBytes = .ok (.conflict otherBytes) :=
  ⟨by decide, (file_merge_keeps_content noDigest sameBytes ⟨1⟩ 9 threeBytes otherBytes rewrittenBytes
    rewrittenBytes_reachable rfl rfl (by decide) (by decide) (by decide) (by decide)
    rewrittenBytes_whole).2.1 ⟨by decide, Or.inr (Or.inr (by decide))⟩⟩

end ParsecCloud
