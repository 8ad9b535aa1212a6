import Mathlib.Data.Set.Basic

/- Resources owned by slots: a resource belongs to one slot at most, an update takes some
   resources away and gives fresh ones. Slots and resources are arbitrary types. -/
namespace Ownership
variable {ι α : Type}

def Exclusive (owns : ι → Set α) : Prop := ∀ i j x, x ∈ owns i → x ∈ owns j → i = j

/-- The resources that some slot owns. -/
def owned (owns : ι → Set α) : Set α := {x | ∃ i, x ∈ owns i}

/-- Resources that nobody owns yet, given to one slot each. -/
structure Fresh (owns added : ι → Set α) : Prop where
  unused : ∀ i x, x ∈ added i → x ∉ owned owns
  exclusive : Exclusive added

structure Update (owns after added : ι → Set α) (removed : Set α) : Prop where
  change : ∀ i x, x ∈ after i ↔ (x ∈ owns i ∧ x ∉ removed) ∨ x ∈ added i
  taken : ∀ x ∈ removed, x ∈ owned owns
  fresh : Fresh owns added

variable {owns after added : ι → Set α} {removed : Set α}

/-- An update given by what each slot keeps: whatever a slot does not keep is removed, and
    nobody else had it. -/
theorem update_of_kept (kept : ι → Set α) (exclusive : Exclusive owns) (fresh : Fresh owns added)
    (part : ∀ i x, x ∈ kept i → x ∈ owns i)
    (result : ∀ i x, x ∈ after i ↔ x ∈ kept i ∨ x ∈ added i)
    (rest : ∀ x, x ∈ removed ↔ ∃ i, x ∈ owns i ∧ x ∉ kept i) : Update owns after added removed := by
  refine ⟨?_, ?_, fresh⟩
  · intro i x
    rw [result, rest]
    refine or_congr_left ⟨?_, ?_⟩
    · intro member
      refine ⟨part i x member, ?_⟩
      rintro ⟨j, mine, lost⟩
      rw [exclusive j i x mine (part i x member)] at lost
      exact lost member
    · rintro ⟨mine, stays⟩
      by_contra lost
      exact stays ⟨i, mine, lost⟩
  · intro x lost
    obtain ⟨i, mine, -⟩ := (rest x).mp lost
    exact ⟨i, mine⟩

theorem update_exclusive (exclusive : Exclusive owns) (update : Update owns after added removed) :
    Exclusive after := by
  intro i j x left right
  rcases (update.change i x).mp left with ⟨left, -⟩ | left <;>
    rcases (update.change j x).mp right with ⟨right, -⟩ | right
  · exact exclusive i j x left right
  · exact absurd ⟨i, left⟩ (update.fresh.unused j x right)
  · exact absurd ⟨j, right⟩ (update.fresh.unused i x left)
  · exact update.fresh.exclusive i j x left right

theorem update_disjoint (update : Update owns after added removed) {x : α}
    (member : x ∈ owned after) : x ∉ removed := by
  obtain ⟨i, member⟩ := member
  rcases (update.change i x).mp member with ⟨-, stays⟩ | new
  · exact stays
  · intro lost
    exact update.fresh.unused i x new (update.taken x lost)

theorem update_owned (update : Update owns after added removed) (x : α) :
    x ∈ owned after ↔ (x ∈ owned owns ∨ x ∈ owned added) ∧ x ∉ removed := by
  constructor
  · intro member
    refine ⟨?_, update_disjoint update member⟩
    obtain ⟨i, member⟩ := member
    rcases (update.change i x).mp member with ⟨mine, -⟩ | new
    · exact Or.inl ⟨i, mine⟩
    · exact Or.inr ⟨i, new⟩
  · rintro ⟨⟨i, mine⟩ | ⟨i, new⟩, stays⟩
    · exact ⟨i, (update.change i x).mpr (Or.inl ⟨mine, stays⟩)⟩
    · exact ⟨i, (update.change i x).mpr (Or.inr new)⟩

end Ownership
