import ParsecCloud.File.Integrity
import ParsecCloud.Lib.Ownership

/- The chunk identifiers that a manifest refers to, and what each operation does to them. -/
namespace ParsecCloud
open Rust OrderedSegments Ownership

def chunkIds (m : LocalFileManifest) : Finset ChunkID := viewIds m.blocks.flatten

def SameChunk (v w : ChunkView) : Prop :=
  v.id = w.id ∧ v.rawOffset = w.rawOffset ∧ v.rawSize = w.rawSize

structure IdClean (blocks : List (List ChunkView)) : Prop where
  apart : ∀ i j v w, v ∈ slot blocks i → w ∈ slot blocks j → v.id = w.id → i = j
  raw : ∀ v w, v ∈ blocks.flatten → w ∈ blocks.flatten → v.id = w.id →
    v.rawOffset = w.rawOffset ∧ v.rawSize = w.rawSize

/-- The identifiers drawn for the blocks in use are all different, and none is taken. -/
structure FreshIds (used : Nat → Prop) (ids : Nat → ChunkID) (taken : Finset ChunkID) : Prop where
  unused : ∀ i, used i → ids i ∉ taken
  distinct : ∀ i j, used i → used j → ids i = ids j → i = j

def slotIds (blocks : List (List ChunkView)) (i : Nat) : Set ChunkID :=
  {id | id ∈ viewIds (slot blocks i)}

def addedIds (added : Nat → Option ChunkView) (i : Nat) : Set ChunkID :=
  {id | (added i).map ChunkView.id = some id}

theorem mem_slotIds {blocks : List (List ChunkView)} {i : Nat} {id : ChunkID} :
    id ∈ slotIds blocks i ↔ ∃ v ∈ slot blocks i, v.id = id := mem_viewIds

theorem owned_slotIds {m : LocalFileManifest} {id : ChunkID} :
    id ∈ owned (slotIds m.blocks) ↔ id ∈ chunkIds m := by
  simp only [owned, Set.mem_ofPred_eq, mem_slotIds, chunkIds, mem_viewIds, mem_flatten_iff_slot]
  constructor
  · rintro ⟨i, v, member, same⟩
    exact ⟨v, ⟨i, member⟩, same⟩
  · rintro ⟨v, ⟨i, member⟩, same⟩
    exact ⟨i, v, member, same⟩

theorem clean_exclusive {blocks : List (List ChunkView)} (clean : IdClean blocks) :
    Exclusive (slotIds blocks) := by
  intro i j id left right
  obtain ⟨v, mv, sv⟩ := mem_slotIds.mp left
  obtain ⟨w, mw, sw⟩ := mem_slotIds.mp right
  exact clean.apart i j v w mv mw (sv.trans sw.symm)

/-- A change of the slots: a view of the result is the one added to its slot, or a part of a
    view that the slot had. -/
structure ViewUpdate (before after : List (List ChunkView)) (added : Nat → Option ChunkView)
    (removed : Finset ChunkID) : Prop where
  ids : Update (slotIds before) (slotIds after) (addedIds added) {id | id ∈ removed}
  views : ∀ i, ∀ v ∈ slot after i, added i = some v ∨ ∃ w ∈ slot before i, SameChunk w v

theorem update_clean {before after : List (List ChunkView)} {added : Nat → Option ChunkView}
    {removed : Finset ChunkID} (clean : IdClean before)
    (update : ViewUpdate before after added removed) : IdClean after := by
  have exclusive := update_exclusive (clean_exclusive clean) update.ids
  have apart : ∀ i j v w, v ∈ slot after i → w ∈ slot after j → v.id = w.id → i = j := by
    intro i j v w mv mw same
    exact exclusive i j v.id (mem_slotIds.mpr ⟨v, mv, rfl⟩) (mem_slotIds.mpr ⟨w, mw, same.symm⟩)
  -- an added view cannot share its identifier with a view that was there before
  have new : ∀ i j v w u, added i = some v → u ∈ slot before j → SameChunk u w → v.id ≠ w.id := by
    intro i j v w u isNew old part same
    refine update.ids.fresh.unused i v.id (by simp [addedIds, isNew]) ?_
    exact ⟨j, mem_slotIds.mpr ⟨u, old, part.1.trans same.symm⟩⟩
  refine ⟨apart, ?_⟩
  intro v w mv mw same
  obtain ⟨i, mv⟩ := mem_flatten_iff_slot.mp mv
  obtain ⟨j, mw⟩ := mem_flatten_iff_slot.mp mw
  have here := apart i j v w mv mw same
  subst j
  rcases update.views i v mv with newV | ⟨a, ma, pa⟩ <;>
    rcases update.views i w mw with newW | ⟨b, mb, pb⟩
  · rw [newV] at newW
    cases newW
    exact ⟨rfl, rfl⟩
  · exact absurd same (new i i v w b newV mb pb)
  · exact absurd same.symm (new i i w v a newW ma pa)
  · have raw := clean.raw a b (slot_member ma) (slot_member mb)
      (pa.1.trans (same.trans pb.1.symm))
    exact ⟨pa.2.1.symm.trans (raw.1.trans pb.2.1), pa.2.2.symm.trans (raw.2.trans pb.2.2)⟩

section Write
variable {blocksize size offset : Nat} {ids : Nat → ChunkID}

def keptViews (blocksize size offset block : Nat) (views : List ChunkView) : List ChunkView :=
  keptBefore views (subStart blocksize offset block) ++
    keptAcross views (subStop blocksize size offset block) ++
    keptAfter views (subStop blocksize size offset block)

theorem mem_newSlot {block : Nat} {views : List ChunkView} {v : ChunkView} :
    v ∈ newSlot blocksize size offset ids block views ↔
      v = newView blocksize size offset ids block ∨ v ∈ keptViews blocksize size offset block views := by
  simp only [newSlot, written, keptViews, List.mem_append, List.mem_singleton]
  constructor
  · rintro (((h | h) | h) | h) <;> simp [h]
  · rintro (h | (h | h) | h) <;> simp [h]

theorem keptViews_part {block : Nat} {views : List ChunkView} {v : ChunkView}
    (member : v ∈ keptViews blocksize size offset block views) : ∃ w ∈ views, SameChunk w v := by
  rcases List.mem_append.mp member with member | member
  · rcases List.mem_append.mp member with member | member
    · obtain ⟨w, mw, -, rfl⟩ := mem_keptBefore.mp member
      exact ⟨w, mw, rfl, rfl, rfl⟩
    · obtain ⟨w, mw, rfl⟩ := List.mem_map.mp member
      exact ⟨w, (List.mem_filter.mp mw).1, rfl, rfl, rfl⟩
  · exact ⟨v, (List.mem_filter.mp member).1, rfl, rfl, rfl⟩

def writeAdded (blocksize size offset : Nat) (ids : Nat → ChunkID) (block : Nat) :
    Option ChunkView :=
  if Touched blocksize size offset block then some (newView blocksize size offset ids block)
  else none

theorem write_update {m : LocalFileManifest} {state : WriteState}
    (clean : IdClean m.blocks)
    (fresh : FreshIds (Touched m.blocksize.inner size offset) ids (chunkIds m))
    (result : WriteResult m.blocksize.inner size offset ids m.blocks state) :
    ViewUpdate m.blocks state.blocks (writeAdded m.blocksize.inner size offset ids)
      state.removedIds := by
  refine ⟨update_of_kept (fun i => if Touched m.blocksize.inner size offset i then
      {id | id ∈ viewIds (keptViews m.blocksize.inner size offset i (slot m.blocks i))}
      else slotIds m.blocks i) (clean_exclusive clean) ⟨?_, ?_⟩ ?_ ?_ ?_, ?_⟩
  · intro i id member
    simp only [addedIds, writeAdded, Set.mem_ofPred_eq] at member
    rw [owned_slotIds]
    split at member
    · rename_i touched
      cases member
      exact fresh.unused i touched
    · simp at member
  · intro i j id left right
    simp only [addedIds, writeAdded, Set.mem_ofPred_eq] at left right
    split at left <;> split at right <;> simp_all only [Option.map_some, Option.map_none,
      reduceCtorEq, Option.some.injEq]
    rename_i touchedI touchedJ
    exact fresh.distinct i j touchedI touchedJ (left.trans right.symm)
  · intro i id member
    split at member
    · obtain ⟨v, mv, same⟩ := mem_viewIds.mp member
      obtain ⟨w, mw, part⟩ := keptViews_part mv
      exact mem_slotIds.mpr ⟨w, mw, part.1.trans same⟩
    · exact member
  · intro i id
    rw [mem_slotIds, result.slots]
    by_cases touched : Touched m.blocksize.inner size offset i
    · simp only [touched, if_true, mem_newSlot, addedIds, writeAdded, Set.mem_ofPred_eq, mem_viewIds,
        Option.map_some, Option.some.injEq]
      constructor
      · rintro ⟨v, rfl | member, same⟩
        · exact Or.inr same
        · exact Or.inl ⟨v, member, same⟩
      · rintro (⟨v, member, same⟩ | same)
        · exact ⟨v, Or.inr member, same⟩
        · exact ⟨_, Or.inl rfl, same⟩
    · simp [touched, mem_slotIds, addedIds, writeAdded]
  · intro id
    rw [Set.mem_ofPred_eq, result.removed]
    constructor
    · rintro ⟨i, touched, member⟩
      obtain ⟨old, lost⟩ := Finset.mem_sdiff.mp member
      exact ⟨i, old, by simpa [touched, keptViews] using lost⟩
    · rintro ⟨i, old, lost⟩
      by_cases touched : Touched m.blocksize.inner size offset i
      · exact ⟨i, touched, Finset.mem_sdiff.mpr ⟨old, by simpa [touched, keptViews] using lost⟩⟩
      · simp [touched, old] at lost
  · intro i v member
    rw [result.slots] at member
    split at member
    · rename_i touched
      rcases mem_newSlot.mp member with rfl | member
      · exact Or.inl (by simp [writeAdded, touched])
      · exact Or.inr (keptViews_part member)
    · exact Or.inr ⟨v, member, rfl, rfl, rfl⟩

end Write

/-- Nothing is added by a truncation, so every view of the result is a part of an old one. -/
theorem truncate_update {m : LocalFileManifest} {size : Nat} {blocks : List (List ChunkView)}
    {removed : Finset ChunkID} (clean : IdClean m.blocks)
    (layout : Layout m.blocksize.inner m.size m.blocks)
    (result : TruncateResult m.blocksize.inner size m.blocks blocks removed) :
    ViewUpdate m.blocks blocks (fun _ => none) removed := by
  have positive := blocksize_positive m.blocksize
  have slots := keptBefore_slots size positive layout.slots
  refine ⟨update_of_kept (slotIds blocks) (clean_exclusive clean) ⟨?_, ?_⟩ ?_ ?_ ?_, ?_⟩
  · intro i id member
    simp [addedIds] at member
  · intro i j id member
    simp [addedIds] at member
  · intro i id member
    obtain ⟨v, mv, same⟩ := mem_slotIds.mp member
    rw [result.slots] at mv
    obtain ⟨w, mw, -, rfl⟩ := mem_keptBefore.mp mv
    exact mem_slotIds.mpr ⟨w, mw, same⟩
  · intro i id
    simp [addedIds]
  · intro id
    rw [Set.mem_ofPred_eq, result.removed]
    constructor
    · rintro ⟨⟨i, after, old⟩, lost⟩
      refine ⟨i, old, ?_⟩
      intro member
      -- past the cut block every slot is empty
      rw [mem_slotIds, result.slots, slots, if_neg (by omega)] at member
      split at member
      · rename_i same
        subst i
        rw [result.slots] at lost
        exact lost (mem_viewIds.mpr member)
      · simp at member
    · rintro ⟨i, old, lost⟩
      by_cases before : i < size / m.blocksize.inner
      · rw [mem_slotIds, result.slots, slots, if_pos before] at lost
        exact absurd (mem_viewIds.mp old) lost
      · refine ⟨⟨i, by omega, old⟩, ?_⟩
        intro member
        have same : size / m.blocksize.inner = i := by
          obtain ⟨v, mv, sv⟩ := mem_viewIds.mp member
          rw [result.slots] at mv
          obtain ⟨u, mu, -, rfl⟩ := mem_keptBefore.mp mv
          obtain ⟨w, mw, sw⟩ := mem_viewIds.mp old
          exact clean.apart _ _ u w mu mw (sv.trans sw.symm)
        rw [same] at member
        exact lost member
  · intro i v member
    rw [result.slots] at member
    obtain ⟨w, mw, -, rfl⟩ := mem_keptBefore.mp member
    exact Or.inr ⟨w, mw, rfl, rfl, rfl⟩

def reshapeAdded (operation : ReshapeBlockOperation) (digest : HashDigest) (i k : Nat) :
    Option ChunkView :=
  if operation.writeBack = true ∧ k = i then some (operation.destination.promoted digest) else none

theorem reshape_update {ids : Nat → ChunkID} {m : LocalFileManifest} {i : Nat}
    {operation : ReshapeBlockOperation} (digest : HashDigest) (clean : IdClean m.blocks)
    (fresh : ids i ∉ chunkIds m) (reshapes : Reshapes (ids i) (slot m.blocks i) operation) :
    ViewUpdate m.blocks (m.blocks.set i [operation.destination.promoted digest])
      (reshapeAdded operation digest i) operation.cleanupIds := by
  have inside := reshapes_inside reshapes
  have slots := fun k => slot_set m.blocks k [operation.destination.promoted digest] inside
  refine ⟨update_of_kept (fun k => {id | id ∈ slotIds m.blocks k ∧
      ¬ (operation.writeBack = true ∧ k = i)}) (clean_exclusive clean) ⟨?_, ?_⟩ ?_ ?_ ?_, ?_⟩
  · intro k id member
    rcases reshapes.kind with ⟨back, dest, -⟩ | ⟨back, -, -⟩
    · simp only [addedIds, reshapeAdded, back, Set.mem_ofPred_eq] at member
      split at member
      · cases member
        rw [owned_slotIds]
        simpa [ChunkView.promoted, dest] using fresh
      · simp at member
    · simp [addedIds, reshapeAdded, back] at member
  · intro k l id left right
    simp only [addedIds, reshapeAdded, Set.mem_ofPred_eq] at left right
    split at left <;> split at right <;> simp_all
  · intro k id member
    exact member.1
  · intro k id
    rw [mem_slotIds, slots, Set.mem_ofPred_eq, mem_slotIds]
    by_cases here : k = i
    · subst k
      rcases reshapes.kind with ⟨back, dest, -⟩ | ⟨back, same, -⟩
      · simpa [addedIds, reshapeAdded, back] using eq_comm
      · simp [addedIds, reshapeAdded, back, same, ChunkView.promoted]
    · simp [addedIds, reshapeAdded, here]
  · intro id
    rcases reshapes.kind with ⟨back, -, cleanup⟩ | ⟨back, -, cleanup⟩
    · rw [cleanup]
      simp only [Set.mem_ofPred_eq, back, true_and, not_and, not_not]
      constructor
      · intro member
        exact ⟨i, member, fun _ => rfl⟩
      · rintro ⟨k, member, only⟩
        rw [only member] at member
        exact member
    · simp [cleanup, back]
  · intro k v member
    rw [slots] at member
    split at member
    · rename_i here
      rw [List.mem_singleton] at member
      subst member
      rcases reshapes.kind with ⟨back, -, -⟩ | ⟨back, same, -⟩
      · exact Or.inl (by simp [reshapeAdded, back, here])
      · refine Or.inr ⟨operation.destination, ?_, rfl, rfl, rfl⟩
        rw [here, same]
        simp
    · exact Or.inr ⟨v, member, rfl, rfl, rfl⟩

/-- What an operation with new identifiers, and removed ones, makes of a manifest. -/
structure Accounted (before after : LocalFileManifest) (new removed : Finset ChunkID) : Prop where
  clean : IdClean after.blocks
  apart : Disjoint removed (chunkIds after)
  ids : chunkIds after = (chunkIds before ∪ new) \ removed

theorem accounted_of_update {before after : LocalFileManifest} {added : Nat → Option ChunkView}
    {new removed : Finset ChunkID} (clean : IdClean before.blocks)
    (update : ViewUpdate before.blocks after.blocks added removed)
    (new_iff : ∀ id, id ∈ new ↔ ∃ i, id ∈ addedIds added i) : Accounted before after new removed := by
  refine ⟨update_clean clean update, ?_, ?_⟩
  · rw [Finset.disjoint_right]
    intro id member
    exact update_disjoint update.ids (owned_slotIds.mpr member)
  · ext id
    have ids := update_owned update.ids id
    rw [owned_slotIds, owned_slotIds] at ids
    rw [ids, Finset.mem_sdiff, Finset.mem_union, new_iff]
    rfl

theorem accounted_refl {m : LocalFileManifest} (clean : IdClean m.blocks) : Accounted m m ∅ ∅ :=
  ⟨clean, by simp, by simp⟩

theorem write_accounted {m : LocalFileManifest} {size offset : Nat} {ids : Nat → ChunkID}
    (timestamp : DateTime) (layout : Layout m.blocksize.inner m.size m.blocks)
    (clean : IdClean m.blocks) (fits : offset + size + m.blocksize.inner < u64Limit)
    (fresh : FreshIds (Touched m.blocksize.inner size offset) ids (chunkIds m)) :
    ∃ m' operations removed, prepareWrite m size offset timestamp ids = .ok (m', operations, removed) ∧
      Accounted m m' (viewIds (operations.map WriteOperation.chunkView)) removed := by
  by_cases empty : size = 0
  · exact ⟨m, [], ∅, by simp [prepareWrite, empty], accounted_refl clean⟩
  have positive := blocksize_positive m.blocksize
  obtain ⟨state, result, run⟩ := prepareWrite_spec m timestamp ids (by omega) fits layout.slots
  refine ⟨_, _, _, run, accounted_of_update clean (write_update clean fresh result) ?_⟩
  intro id
  have inRange : ∀ k, k ∈ List.range' (offset / m.blocksize.inner)
      (divCeil (offset + size) m.blocksize.inner - offset / m.blocksize.inner) ↔
      Touched m.blocksize.inner size offset k := by
    intro k
    rw [touched_iff_range positive, List.mem_range'_1]
    omega
  rw [mem_viewIds, result.operations, List.map_map]
  constructor
  · rintro ⟨v, member, same⟩
    obtain ⟨k, mk, rfl⟩ := List.mem_map.mp member
    exact ⟨k, by simpa [addedIds, writeAdded, (inRange k).mp mk] using same.symm⟩
  · rintro ⟨k, member⟩
    simp only [addedIds, writeAdded, Set.mem_ofPred_eq] at member
    split at member
    · rename_i touched
      exact ⟨_, List.mem_map.mpr ⟨k, (inRange k).mpr touched, rfl⟩, Option.some.inj member⟩
    · cases member

theorem resize_accounted {m : LocalFileManifest} (size : Nat) (timestamp : DateTime)
    (layout : Layout m.blocksize.inner m.size m.blocks) (clean : IdClean m.blocks) :
    ∃ m' removed, prepareResize m size timestamp = .ok (m', removed) ∧ Accounted m m' ∅ removed := by
  unfold prepareResize
  split
  · exact ⟨_, _, rfl, clean, by simp, by simp [chunkIds]⟩
  · obtain ⟨blocks, removed, result, run⟩ :=
      prepareTruncate_spec m size timestamp (by omega) layout.slots
    refine ⟨_, _, run, accounted_of_update clean (truncate_update clean layout result) ?_⟩
    intro id
    simp [addedIds]

/-- The identifier that an operation brings in: none when it promotes the view it has. -/
def ReshapeBlockOperation.newIds (operation : ReshapeBlockOperation) : Finset ChunkID :=
  if operation.writeBack then {operation.destination.id} else ∅

theorem commit_accounted {ids : Nat → ChunkID} {m : LocalFileManifest} {i : Nat}
    {operation : ReshapeBlockOperation} (digest : HashDigest) (clean : IdClean m.blocks)
    (fresh : ids i ∉ chunkIds m) (reshapes : Reshapes (ids i) (slot m.blocks i) operation) :
    Accounted m { m with blocks := m.blocks.set i [operation.destination.promoted digest] }
      operation.newIds operation.cleanupIds := by
  refine accounted_of_update clean (reshape_update digest clean fresh reshapes) ?_
  intro id
  by_cases back : operation.writeBack = true
  · simp only [ReshapeBlockOperation.newIds, back, if_true, Finset.mem_singleton, addedIds,
      reshapeAdded, true_and, Set.mem_ofPred_eq]
    constructor
    · rintro rfl
      exact ⟨i, by simp [ChunkView.promoted]⟩
    · rintro ⟨k, member⟩
      split at member
      · cases member
        rfl
      · cases member
  · simp [ReshapeBlockOperation.newIds, back, addedIds, reshapeAdded]

theorem reshapes_new {id : ChunkID} {views : List ChunkView} {operation : ReshapeBlockOperation}
    (reshapes : Reshapes id views operation) {other : ChunkID} (member : other ∈ operation.newIds) :
    other = id := by
  unfold ReshapeBlockOperation.newIds at member
  rcases reshapes.kind with ⟨back, dest, -⟩ | ⟨back, -, -⟩
  · rw [back, if_pos rfl, Finset.mem_singleton] at member
    rw [member, dest]
  · rw [back] at member
    simp at member

/-- Committing part of a plan and then one more operation: the last commit is accounted for. -/
theorem commits_accounted {m : LocalFileManifest} {ids : Nat → ChunkID}
    {plan : List (Nat × ReshapeBlockOperation)} (fromData : List Byte → HashDigest)
    (layout : Layout m.blocksize.inner m.size m.blocks) (clean : IdClean m.blocks)
    (fresh : FreshIds (· < m.blocks.length) ids (chunkIds m)) (planned : ReshapePlan ids m.blocks plan)
    {done : List ((Nat × ReshapeBlockOperation) × List Byte)} {i : Nat}
    {operation : ReshapeBlockOperation} (data : List Byte)
    (part : List.Sublist (done.map Prod.fst ++ [(i, operation)]) plan) :
    ∃ m₁ m₂, commitAll fromData m done = .ok m₁ ∧
      commitReshape fromData m₁ i operation data = .ok m₂ ∧
      Accounted m₁ m₂ operation.newIds operation.cleanupIds := by
  have distinct := planned.distinct.sublist (part.map Prod.fst)
  rw [List.map_append, List.map_map, List.pairwise_append] at distinct
  have later : ∀ k ∈ done.map (fun p => p.1.1), k < i := fun k earlier => by
    exact distinct.2.2 k earlier i (by simp)
  have inside : ∀ p ∈ done, p.1.1 < m.blocks.length := fun p mp =>
    reshapes_inside (planned.reshapes p.1.1 p.1.2
      (part.subset (List.mem_append_left _ (List.mem_map_of_mem mp))))
  have here := planned.reshapes i operation (part.subset (by simp))
  -- the identifiers in use are those of the start and those drawn for the slots done
  have still : ∀ (done : List ((Nat × ReshapeBlockOperation) × List Byte)) t k, k < m.blocks.length →
      k ∉ done.map (fun p => p.1.1) → (∀ p ∈ done, p.1.1 < m.blocks.length) →
      (∀ id ∈ chunkIds t, id ∈ chunkIds m ∨ ∃ p ∈ done, id = ids p.1.1) → ids k ∉ chunkIds t := by
    intro done t k small outside inside taken member
    rcases taken (ids k) member with old | ⟨p, mp, same⟩
    · exact fresh.unused k small old
    · refine outside ?_
      rw [fresh.distinct k p.1.1 small (inside p mp) same]
      exact List.mem_map_of_mem (f := fun p => p.1.1) mp
  obtain ⟨m₁, commits, committed, cleanDone, taken, insideDone⟩ := commitAll_rule fromData
    (P := fun done t => IdClean t.blocks ∧
      (∀ id ∈ chunkIds t, id ∈ chunkIds m ∨ ∃ p ∈ done, id = ids p.1.1) ∧
      ∀ p ∈ done, p.1.1 < m.blocks.length)
    planned ((List.sublist_append_left _ _).trans part) layout
    ⟨clean, fun id member => Or.inl member, by simp⟩ (by
      rintro before k op bytes t member outside reshapes ⟨cleanT, takenT, insideT⟩
      have small : k < m.blocks.length := inside _ member
      have freshT := still before t k small outside insideT takenT
      have account := commit_accounted (fromData bytes) cleanT freshT reshapes
      refine ⟨account.clean, ?_, ?_⟩
      · intro id member
        rw [account.ids, Finset.mem_sdiff, Finset.mem_union] at member
        rcases member.1 with old | new
        · rcases takenT id old with first | ⟨p, mp, same⟩
          · exact Or.inl first
          · exact Or.inr ⟨p, by simp [mp], same⟩
        · exact Or.inr ⟨((k, op), bytes), by simp, reshapes_new reshapes new⟩
      · intro p mp
        rcases List.mem_append.mp mp with mp | mp
        · exact insideT p mp
        · rw [List.mem_singleton.mp mp]
          exact small)
  have outside : i ∉ done.map (fun p => p.1.1) := fun earlier => Nat.lt_irrefl i (later i earlier)
  have freshI := still done m₁ i (reshapes_inside here) outside inside taken
  rw [← committed.untouched i outside] at here
  exact ⟨m₁, _, commits, commitReshape_ok fromData m₁ data here,
    commit_accounted (fromData data) cleanDone freshI here⟩

end ParsecCloud
