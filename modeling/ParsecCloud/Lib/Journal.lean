import Mathlib.Data.List.Induction
import Mathlib.Data.List.Pairwise

/- Lists that only grow at their end, each entry being admitted over the entries before it. -/
namespace Journal
variable {α : Type} {P Q : List α → α → Prop} {rows added : List α} {entry : α}

def Admitted (P : List α → α → Prop) (rows : List α) : Prop :=
  ∀ before entry after, rows = before ++ entry :: after → P before entry

theorem admitted_nil : Admitted P [] := by
  intro before entry after split
  cases before <;> cases split

theorem admitted_append : Admitted P (rows ++ added) ↔
    Admitted P rows ∧ Admitted (fun before => P (rows ++ before)) added := by
  constructor
  · intro admitted
    constructor
    · intro before entry after split
      apply admitted before entry (after ++ added)
      rw [split, List.append_assoc, List.cons_append]
    · intro before entry after split
      apply admitted (rows ++ before) entry after
      rw [split, List.append_assoc]
  · rintro ⟨kept, new⟩ before entry after split
    rcases List.append_eq_append_iff.mp split with ⟨mid, rfl, rest⟩ | ⟨mid, rfl, rest⟩
    · exact new mid entry after rest
    · cases mid with
      | nil => simpa using new [] entry after rest.symm
      | cons first mid =>
        obtain ⟨same, _⟩ := List.cons.inj rest
        exact kept before entry mid (by rw [same])

theorem admitted_concat : Admitted P (rows ++ [entry]) ↔ Admitted P rows ∧ P rows entry := by
  rw [admitted_append]
  constructor
  · rintro ⟨kept, new⟩
    exact ⟨kept, by simpa using new [] entry [] rfl⟩
  · rintro ⟨kept, new⟩
    refine ⟨kept, fun before other after split => ?_⟩
    cases before with
    | nil =>
      cases split
      simpa using new
    | cons first rest =>
      cases rest <;> cases split

theorem admitted_cons : Admitted P (entry :: rows) ↔
    P [] entry ∧ Admitted (fun before => P (entry :: before)) rows := by
  have first : Admitted P [entry] ↔ P [] entry := by
    rw [← List.nil_append [entry], admitted_concat]
    exact and_iff_right admitted_nil
  rw [← List.singleton_append, admitted_append, first]
  rfl

theorem Admitted.imp (weaker : ∀ before entry, P before entry → Q before entry)
    (admitted : Admitted P rows) : Admitted Q rows :=
  fun before entry after split => weaker before entry (admitted before entry after split)

theorem Admitted.mem (admitted : Admitted P rows) (member : entry ∈ rows) :
    ∃ before, before ⊆ rows ∧ P before entry := by
  obtain ⟨before, after, split⟩ := List.append_of_mem member
  refine ⟨before, ?_, admitted before entry after split⟩
  rw [split]
  exact List.subset_append_left before (entry :: after)

/-- A rule that relates an entry to each of those before it holds of every pair in order. -/
theorem Admitted.pairwise {R : α → α → Prop} (admitted : Admitted P rows)
    (related : ∀ before entry, P before entry → ∀ earlier ∈ before, R earlier entry) :
    rows.Pairwise R := by
  induction rows using List.reverseRecOn with
  | nil => exact .nil
  | append_singleton rows entry ih =>
    obtain ⟨kept, new⟩ := admitted_concat.mp admitted
    rw [List.pairwise_append]
    refine ⟨ih kept, List.pairwise_singleton R entry, fun earlier member last same => ?_⟩
    cases List.mem_singleton.mp same
    exact related rows entry new earlier member

theorem Admitted.ordered {R : α → α → Prop} (admitted : Admitted P rows)
    (related : ∀ before entry, before ⊆ rows → P before entry → ∀ earlier ∈ before,
      R earlier entry) :
    ∀ a ∈ rows, ∀ b ∈ rows, a = b ∨ R a b ∨ R b a := by
  have within : Admitted (fun before entry => before ⊆ rows ∧ P before entry) rows := by
    intro before entry after split
    refine ⟨?_, admitted before entry after split⟩
    rw [split]
    exact List.subset_append_left before (entry :: after)
  have pairs := within.pairwise fun before entry met earlier member =>
    related before entry met.1 met.2 earlier member
  have : Std.Symm fun a b => a = b ∨ R a b ∨ R b a :=
    ⟨fun a b known => known.imp Eq.symm Or.symm⟩
  have pairs : rows.Pairwise fun a b => a = b ∨ R a b ∨ R b a :=
    pairs.imp fun known => .inr (.inl known)
  exact pairs.forall_of_forall fun _ _ => .inl rfl

theorem Admitted.unique {S : α → α → Prop} (admitted : Admitted P rows)
    (symmetric : ∀ a b, S a b → S b a)
    (apart : ∀ before entry, before ⊆ rows → P before entry → ∀ earlier ∈ before,
      ¬ S earlier entry) :
    ∀ a ∈ rows, ∀ b ∈ rows, S a b → a = b := by
  intro a first b second same
  rcases admitted.ordered apart a first b second with equal | other | other
  · exact equal
  · exact absurd same other
  · exact absurd (symmetric a b same) other

/-- An element kept by a filter comes from an entry, and those before it from earlier entries. -/
theorem filterMap_split {β : Type} {f : α → Option β} {earlier later : List β} {b : β}
    (split : rows.filterMap f = earlier ++ b :: later) :
    ∃ before entry after, rows = before ++ entry :: after ∧ before.filterMap f = earlier ∧
      f entry = some b := by
  obtain ⟨head, tail, rfl, rfl, rest⟩ := List.filterMap_eq_append_iff.mp split
  obtain ⟨skipped, entry, after, rfl, none, kept, _⟩ := List.filterMap_eq_cons_iff.mp rest
  refine ⟨head ++ skipped, entry, after, by simp, ?_, kept⟩
  rw [List.filterMap_append, List.filterMap_eq_nil_iff.mpr none, List.append_nil]

end Journal
