import Mathlib.Data.List.Chain
import Mathlib.Logic.Relation

/- Links from parents to children where no node has two parents, what is reached from a root
   through them, and what is still reached when links are cut and others joined. -/
namespace Forest
open Relation
variable {α : Type}

def SingleParent (link : α → α → Prop) : Prop := ∀ p q c, link p c → link q c → p = q

variable {link : α → α → Prop} {root x y : α}

/-- A cycle goes through the parent of each of its nodes. -/
theorem cycle_of_child (single : SingleParent link) (linked : link x y)
    (cycle : TransGen link y y) : TransGen link x x := by
  obtain ⟨z, toParent, last⟩ := TransGen.tail'_iff.mp cycle
  cases single z x y last linked
  exact TransGen.head' linked toParent

/-- Only a cycle through the root can be reached from the root. -/
theorem acyclic_of_reached (single : SingleParent link) (acyclic : ¬ TransGen link root root)
    (reached : ReflTransGen link root x) : ¬ TransGen link x x := by
  induction reached with
  | refl => exact acyclic
  | tail _ linked ih => exact fun cycle => ih (cycle_of_child single linked cycle)

theorem reached_of_mem {ids : List α} (chain : (root :: ids).IsChain link) (member : x ∈ root :: ids) :
    ReflTransGen link root x := by
  induction ids generalizing root with
  | nil =>
    cases List.mem_singleton.mp member
    exact .refl
  | cons child rest ih =>
    obtain ⟨linked, tail⟩ := List.isChain_cons_cons.mp chain
    rcases List.mem_cons.mp member with rfl | later
    · exact .refl
    · exact .head linked (ih tail later)

theorem chain_nodup (single : SingleParent link) (acyclic : ¬ TransGen link root root) {ids : List α}
    (chain : (root :: ids).IsChain link) : (root :: ids).Nodup := by
  have below : (root :: ids).Pairwise (TransGen link) :=
    (chain.imp fun _ _ => TransGen.single).pairwise
  apply below.imp_of_mem
  intro a b memberA _ linked same
  cases same
  exact acyclic_of_reached single acyclic (reached_of_mem chain memberA) linked

section Root
variable (rooted : ∀ p, link p root → p = root)
include rooted

theorem eq_root_of_above (above : ReflTransGen link x root) : x = root := by
  induction above using ReflTransGen.head_induction_on with
  | refl => rfl
  | head linked _ ih =>
    rw [ih] at linked
    exact rooted _ linked

/-- Only the root can be below itself. -/
theorem eq_root_of_cycle (single : SingleParent link) (reached : ReflTransGen link root x)
    (cycle : TransGen link x x) : x = root := by
  induction reached with
  | refl => rfl
  | tail _ linked ih =>
    obtain ⟨z, toParent, last⟩ := TransGen.tail'_iff.mp cycle
    cases single _ _ _ last linked
    rw [ih (cycle_of_child single linked cycle)] at toParent
    exact eq_root_of_above rooted toParent

end Root

/-- The nodes that are cut off from their parents, and the new links. -/
structure Rewired (link link' : α → α → Prop) (cut : α → Prop) (joins : α → α → Prop) : Prop where
  joined : ∀ p c, joins p c → link' p c
  kept : ∀ p c, link p c → ¬ cut c → link' p c
  only : ∀ p c, link' p c → joins p c ∨ link p c ∧ ¬ cut c

section Rewired
variable {link' : α → α → Prop}

theorem reached_of_kept {cut : α → Prop} (kept : ∀ p c, link p c → ¬ cut c → link' p c)
    (reached : ReflTransGen link root x)
    (rejoined : ∀ c, cut c → ReflTransGen link c x → ReflTransGen link' root c) :
    ReflTransGen link' root x := by
  induction reached with
  | refl => exact .refl
  | @tail p c _ linked ih =>
    by_cases isCut : cut c
    · exact rejoined c isCut .refl
    · apply (ih ?_).tail (kept p c linked isCut)
      intro node nodeCut above
      exact rejoined node nodeCut (above.tail linked)

/-- What is reached leaves no set that has the parents of all its members, unless the root is in
    it. -/
theorem not_reached_of_closed (members : α → Prop) (closed : ∀ p c, link' p c → members c → members p)
    (outside : ¬ members root) (inside : members x) : ¬ ReflTransGen link' root x := by
  intro reached
  induction reached with
  | refl => exact outside inside
  | tail _ linked ih => exact ih (closed _ _ linked inside)

end Rewired

/-- A node s, with the parent sp, gets the new parent dp, and the nodes of a set D are cut off from
    dp. They may get new parents too. -/
structure Moved (link link' : α → α → Prop) (root sp s dp : α) (D : α → Prop)
    (joins : α → α → Prop) : Prop where
  single : SingleParent link
  rooted : ∀ p, link p root → p = root
  parent : link sp s
  reachedParent : ReflTransGen link root sp
  reachedNewParent : ReflTransGen link root dp
  otherParent : s ≠ sp
  otherNewParent : s ≠ dp
  cut : ∀ d, D d → link dp d ∧ d ≠ s
  elsewhere : ∀ p c, joins p c → D c
  rewired : Rewired link link' (fun c => c = s ∨ D c) (fun p c => p = dp ∧ c = s ∨ joins p c)

namespace Moved
variable {link' : α → α → Prop} {sp s dp : α} {D : α → Prop} {joins : α → α → Prop}
  (moved : Moved link link' root sp s dp D joins)
include moved

theorem reachedNode : ReflTransGen link root s := moved.reachedParent.tail moved.parent

theorem node_ne_root : s ≠ root := by
  intro isRoot
  have above := moved.parent
  rw [isRoot] at above
  exact moved.otherParent (isRoot.trans (moved.rooted sp above).symm)

theorem acyclic_node : ¬ TransGen link s s := by
  intro cycle
  exact moved.node_ne_root (eq_root_of_cycle moved.rooted moved.single moved.reachedNode cycle)

theorem not_above_parent : ¬ ReflTransGen link s sp := by
  intro above
  exact moved.acyclic_node (TransGen.tail' above moved.parent)

/-- Only the root is cut off from the new parent and above it. -/
theorem cut_above_newParent {d : α} (isCut : D d) (above : ReflTransGen link d dp) :
    d = root ∧ dp = root := by
  have isRoot : dp = root := eq_root_of_cycle moved.rooted moved.single moved.reachedNewParent
    (TransGen.head' (moved.cut d isCut).1 above)
  rw [isRoot] at above
  exact ⟨eq_root_of_above moved.rooted above, isRoot⟩

/-- Everything is still reached when the new parent is not below the node, except what is below
    a node that is cut off and not reached anymore. -/
theorem reached (outside : ¬ ReflTransGen link s dp) (apart : ∀ d, D d → ¬ ReflTransGen link d dp)
    (before : ReflTransGen link root x)
    (rejoined : ∀ d, D d → ReflTransGen link d x → ReflTransGen link' root d) :
    ReflTransGen link' root x := by
  have newParent : ReflTransGen link' root dp := by
    apply reached_of_kept moved.rewired.kept moved.reachedNewParent
    intro c isCut above
    rcases isCut with rfl | isCut
    · exact absurd above outside
    · exact absurd above (apart c isCut)
  apply reached_of_kept moved.rewired.kept before
  intro c isCut above
  rcases isCut with rfl | isCut
  · exact newParent.tail (moved.rewired.joined dp c (Or.inl ⟨rfl, rfl⟩))
  · exact rejoined c isCut above

/-- When the new parent is below the node, the node is not reached anymore. -/
theorem node_lost (below : ReflTransGen link s dp) :
    ¬ ReflTransGen link' root s ∧ ∀ d, D d → ¬ ReflTransGen link d s := by
  have apart : ∀ d, D d → ¬ ReflTransGen link d s := by
    intro d isCut above
    exact moved.acyclic_node ((TransGen.tail' below (moved.cut d isCut).1).trans_left above)
  refine ⟨?_, apart⟩
  -- The parents of the nodes below s, and not below a node of D, are such nodes too.
  apply not_reached_of_closed
    (fun y => ReflTransGen link s y ∧ ∀ d, D d → ¬ ReflTransGen link d y)
  · intro p c linked inside
    rcases moved.rewired.only p c linked with (⟨rfl, rfl⟩ | elsewhere) | ⟨linked, uncut⟩
    · refine ⟨below, ?_⟩
      intro d isCut above
      have isRoot := (moved.cut_above_newParent isCut above).2
      rw [isRoot] at below
      exact moved.node_ne_root (eq_root_of_above moved.rooted below)
    · exact absurd .refl (inside.2 c (moved.elsewhere p c elsewhere))
    · rcases ReflTransGen.cases_tail inside.1 with same | ⟨q, above, last⟩
      · exact absurd (Or.inl same) uncut
      · cases moved.single q p c last linked
        exact ⟨above, fun d isCut aboveParent => inside.2 d isCut (aboveParent.tail linked)⟩
  · intro inside
    exact moved.node_ne_root (eq_root_of_above moved.rooted inside.1)
  · exact ⟨.refl, apart⟩

end Moved

end Forest
