import ParsecCloud.Transactions.MoveSpec

/- When a move keeps the tree of the entries connected. -/
namespace ParsecCloud
open Rust HashMap Relation

/-- Every entry that was reached still is, except what is below the entry that is replaced, and
    the entries that are reached agree with their parents. -/
structure TreeKept (view view' : View) (rootId : VlobID) (src dst : List EntryName)
    (mode : MoveEntryMode) : Prop where
  reached : ∀ id, Above view rootId id →
    (mode ≠ .exchange → ∀ replaced, At view rootId dst replaced → ¬ At view rootId src replaced →
      ¬ Above view replaced id) → Above view' rootId id
  agrees : ∀ parentId childId child, Above view' rootId parentId → Lists view' parentId childId →
    view' childId = some child → child.parent = parentId

/-- The parent of the destination is below the source. -/
def MovedInside (view : View) (rootId : VlobID) (src dst : List EntryName) : Prop :=
  ∃ srcId dstParentId, At view rootId src srcId ∧ At view rootId dst.dropLast dstParentId ∧
    srcId ≠ dstParentId ∧ Above view srcId dstParentId

/-- An entry s gets a new parent, and in an exchange the entry in its place gets the old one. -/
structure Reparenting (view view' : View) (rootId : VlobID) (srcPath : List EntryName)
    (srcName : EntryName) (dstPath : List EntryName) (dstName : EntryName) (sp s dp : VlobID)
    (exchange : Option VlobID) : Prop where
  tree : AgreeingTree view rootId
  rootParent : parentAt view rootId = some rootId
  srcAt : At view rootId srcPath sp
  dstAt : At view rootId dstPath dp
  listed : childAt view sp srcName = some s
  isParent : parentAt view s = some sp
  otherParent : s ≠ sp
  otherNewParent : s ≠ dp
  parentsDiffer : sp ≠ dp
  exchanged : ∀ d, exchange = some d → childAt view dp dstName = some d ∧
    parentAt view d = some dp ∧ d ≠ s ∧ d ≠ sp ∧ d ≠ dp
  child : ∀ p name, childAt view' p name =
    if p = sp ∧ name = srcName then exchange
    else if p = dp ∧ name = dstName then some s else childAt view p name
  parent : ∀ id, parentAt view' id =
    if id = s then some dp else if exchange = some id then some sp else parentAt view id

/-- The entry at the destination. -/
def AtDestination (view : View) (dp : VlobID) (dstName : EntryName) (id : VlobID) : Prop :=
  childAt view dp dstName = some id ∧ parentAt view id = some dp

namespace Reparenting
variable {view view' : View} {rootId : VlobID} {srcPath dstPath : List EntryName}
  {srcName dstName : EntryName} {sp s dp : VlobID} {exchange : Option VlobID}
  (move : Reparenting view view' rootId srcPath srcName dstPath dstName sp s dp exchange)
include move

theorem atDestination_ne {id : VlobID} (there : AtDestination view dp dstName id) : id ≠ s := by
  intro same
  have twice := there.2
  rw [same, move.isParent] at twice
  exact move.parentsDiffer (Option.some.inj twice)

theorem agreed_iff' {p c : VlobID} :
    Agreed view' p c ↔ (p = dp ∧ c = s ∨ p = sp ∧ exchange = some c) ∨
      Agreed view p c ∧ ¬ (c = s ∨ AtDestination view dp dstName c) := by
  rw [agreed_iff, agreed_iff, move.parent]
  simp only [move.child]
  constructor
  · rintro ⟨⟨name, named⟩, isParent⟩
    split at isParent
    · rename_i isNode
      cases isParent
      exact Or.inl (Or.inl ⟨rfl, isNode⟩)
    · rename_i otherNode
      split at isParent
      · rename_i isExchanged
        cases isParent
        exact Or.inl (Or.inr ⟨rfl, isExchanged⟩)
      · rename_i notExchanged
        split at named
        · exact absurd named notExchanged
        · split at named
          · cases named
            exact absurd rfl otherNode
          · rename_i notHere
            refine Or.inr ⟨⟨⟨name, named⟩, isParent⟩, ?_⟩
            rintro (isNode | there)
            · exact otherNode isNode
            · have here : p = dp := by
                rw [there.2] at isParent
                exact (Option.some.inj isParent).symm
              rw [here] at named
              exact notHere ⟨here, move.tree.name_unique move.dstAt.above named there.1⟩
  · rintro ((⟨rfl, rfl⟩ | ⟨rfl, isExchanged⟩) | ⟨⟨⟨name, named⟩, isParent⟩, kept⟩)
    · refine ⟨⟨dstName, ?_⟩, if_pos rfl⟩
      rw [if_neg fun here => move.parentsDiffer here.1.symm, if_pos ⟨rfl, rfl⟩]
    · refine ⟨⟨srcName, ?_⟩, ?_⟩
      · rw [if_pos ⟨rfl, rfl⟩]
        exact isExchanged
      · rw [if_neg (move.exchanged c isExchanged).2.2.1, if_pos isExchanged]
    · have notExchanged : exchange ≠ some c := by
        intro isExchanged
        obtain ⟨there, isChild, -⟩ := move.exchanged c isExchanged
        exact kept (Or.inr ⟨there, isChild⟩)
      refine ⟨⟨name, ?_⟩, ?_⟩
      · rw [if_neg, if_neg]
        · exact named
        · rintro ⟨rfl, rfl⟩
          exact kept (Or.inr ⟨named, isParent⟩)
        · rintro ⟨rfl, rfl⟩
          rw [move.listed] at named
          exact kept (Or.inl (Option.some.inj named).symm)
      · rw [if_neg fun isNode => kept (Or.inl isNode), if_neg notExchanged]
        exact isParent

theorem agreed_of_lists {p c : VlobID} (reached : Above view rootId p) (lists : Lists view' p c) :
    Agreed view' p c := by
  obtain ⟨⟨name, named⟩, found⟩ := lists_iff.mp lists
  rw [move.child] at named
  apply move.agreed_iff'.mpr
  split at named
  · rename_i here
    exact Or.inl (Or.inr ⟨here.1, named⟩)
  · rename_i notSource
    split at named
    · rename_i here
      cases named
      exact Or.inl (Or.inl ⟨here.1, rfl⟩)
    · rename_i notDestination
      have manifest : (parentAt view c).isSome = true := by
        rw [move.parent] at found
        split at found
        · rename_i isNode
          rw [isNode, move.isParent]
          rfl
        · split at found
          · rename_i isExchanged
            rw [(move.exchanged c isExchanged).2.1]
            rfl
          · exact found
      have agreed : Agreed view p c :=
        move.tree.agreed reached (lists_iff.mpr ⟨⟨name, named⟩, manifest⟩)
      have isParent := (agreed_iff.mp agreed).2
      refine Or.inr ⟨agreed, ?_⟩
      rintro (isNode | there)
      · have here : p = sp := by
          rw [isNode, move.isParent] at isParent
          exact (Option.some.inj isParent).symm
        rw [here, isNode] at named
        exact notSource ⟨here, move.tree.name_unique move.srcAt.above named move.listed⟩
      · have here : p = dp := by
          rw [there.2] at isParent
          exact (Option.some.inj isParent).symm
        rw [here] at named
        exact notDestination ⟨here, move.tree.name_unique move.dstAt.above named there.1⟩

theorem above_node : Above view rootId s :=
  move.srcAt.above.tail (lists_iff.mpr ⟨⟨srcName, move.listed⟩, by rw [move.isParent]; rfl⟩)

theorem above_destination {id : VlobID} (there : AtDestination view dp dstName id) :
    Above view rootId id :=
  move.dstAt.above.tail (lists_iff.mpr ⟨⟨dstName, there.1⟩, by rw [there.2]; rfl⟩)

theorem above_before {id : VlobID} (reached : Above view' rootId id) : Above view rootId id := by
  induction reached with
  | refl => exact .refl
  | tail _ lists ih =>
    rcases move.agreed_iff'.mp (move.agreed_of_lists ih lists) with
      (⟨-, isNode⟩ | ⟨-, isExchanged⟩) | ⟨agreed, -⟩
    · rw [isNode]
      exact move.above_node
    · obtain ⟨there, isParent, -⟩ := move.exchanged _ isExchanged
      exact move.above_destination ⟨there, isParent⟩
    · exact ih.tail agreed.1

theorem agrees {p c : VlobID} {child : LocalChildManifest} (reached : Above view' rootId p)
    (lists : Lists view' p c) (found : view' c = some child) : child.parent = p := by
  have isParent := (agreed_iff.mp (move.agreed_of_lists (move.above_before reached) lists)).2
  rw [parentAt, found] at isParent
  exact Option.some.inj isParent

theorem reached_iff {id : VlobID} :
    Above view' rootId id ↔ ReflTransGen (Agreed view') rootId id := by
  constructor
  · intro reached
    induction reached with
    | refl => exact .refl
    | tail before lists ih => exact ih.tail (move.agreed_of_lists (move.above_before before) lists)
  · exact Above.of_agreed

theorem rooted (p : VlobID) (agreed : Agreed view p rootId) : p = rootId := by
  have isParent := (agreed_iff.mp agreed).2
  rw [move.rootParent] at isParent
  exact (Option.some.inj isParent).symm

theorem moved : Forest.Moved (Agreed view) (Agreed view') rootId sp s dp
    (AtDestination view dp dstName) (fun p c => p = sp ∧ exchange = some c) where
  single := agreed_singleParent view
  rooted := move.rooted
  parent := agreed_iff.mpr ⟨⟨srcName, move.listed⟩, move.isParent⟩
  reachedParent := (move.tree.above_iff .refl).mp move.srcAt.above
  reachedNewParent := (move.tree.above_iff .refl).mp move.dstAt.above
  otherParent := move.otherParent
  otherNewParent := move.otherNewParent
  cut d there := ⟨agreed_iff.mpr ⟨⟨dstName, there.1⟩, there.2⟩, move.atDestination_ne there⟩
  elsewhere p c joined := by
    obtain ⟨there, isParent, -⟩ := move.exchanged c joined.2
    exact ⟨there, isParent⟩
  rewired :=
    { joined := fun p c joined => move.agreed_iff'.mpr (Or.inl joined)
      kept := fun p c agreed kept => move.agreed_iff'.mpr (Or.inr ⟨agreed, kept⟩)
      only := fun p c agreed => move.agreed_iff'.mp agreed }

/-- The same move, seen from the entry at the destination of an exchange. -/
theorem movedBack {d : VlobID} (isExchanged : exchange = some d) :
    Forest.Moved (Agreed view) (Agreed view') rootId dp d sp (· = s)
      (fun p c => p = dp ∧ c = s) := by
  obtain ⟨there, isParent, otherNode, otherParent, otherNewParent⟩ := move.exchanged d isExchanged
  have isDestination : ∀ c, AtDestination view dp dstName c ↔ c = d := by
    intro c
    constructor
    · rintro ⟨found, -⟩
      rw [there] at found
      exact (Option.some.inj found).symm
    · rintro rfl
      exact ⟨there, isParent⟩
  have agreed : ∀ p c, Agreed view' p c ↔ (p = sp ∧ c = d ∨ p = dp ∧ c = s) ∨
      Agreed view p c ∧ ¬ (c = d ∨ c = s) := by
    intro p c
    rw [move.agreed_iff', isDestination, isExchanged, Option.some.injEq, or_comm (a := p = dp ∧ c = s),
      or_comm (a := c = s), eq_comm (a := d)]
  have before := move.moved
  exact
    { single := before.single
      rooted := before.rooted
      parent := agreed_iff.mpr ⟨⟨dstName, there⟩, isParent⟩
      reachedParent := before.reachedNewParent
      reachedNewParent := before.reachedParent
      otherParent := otherNewParent
      otherNewParent := otherParent
      cut := by
        rintro _ rfl
        exact ⟨before.parent, otherNode.symm⟩
      elsewhere := fun p c joined => joined.2
      rewired :=
        { joined := fun p c joined => (agreed p c).mpr (Or.inl joined)
          kept := fun p c linked kept => (agreed p c).mpr (Or.inr ⟨linked, kept⟩)
          only := fun p c linked => (agreed p c).mp linked } }

theorem atSource : At view rootId (srcPath ++ [srcName]) s :=
  move.srcAt.step move.listed move.isParent

theorem atDestination_iff {id : VlobID} :
    At view rootId (dstPath ++ [dstName]) id ↔ AtDestination view dp dstName id :=
  ⟨fun there => move.dstAt.step_inv there, fun there => move.dstAt.step there.1 there.2⟩

theorem movedInside_iff :
    MovedInside view rootId (srcPath ++ [srcName]) (dstPath ++ [dstName]) ↔
      ReflTransGen (Agreed view) s dp := by
  rw [← move.tree.above_iff move.above_node]
  unfold MovedInside
  rw [List.dropLast_concat]
  constructor
  · rintro ⟨srcId, dstParentId, atSrc, atDst, -, above⟩
    cases atSrc.unique move.atSource
    cases atDst.unique move.dstAt
    exact above
  · intro above
    exact ⟨s, dp, move.atSource, move.dstAt, move.otherNewParent, above⟩

theorem movedInside_back_iff {d : VlobID} (isExchanged : exchange = some d) :
    MovedInside view rootId (dstPath ++ [dstName]) (srcPath ++ [srcName]) ↔
      ReflTransGen (Agreed view) d sp := by
  obtain ⟨there, isParent, -, otherParent, -⟩ := move.exchanged d isExchanged
  have atD : At view rootId (dstPath ++ [dstName]) d := move.dstAt.step there isParent
  rw [← move.tree.above_iff atD.above]
  unfold MovedInside
  rw [List.dropLast_concat]
  constructor
  · rintro ⟨dstId, srcParentId, atDst, atSrc, -, above⟩
    cases atDst.unique atD
    cases atSrc.unique move.srcAt
    exact above
  · intro above
    exact ⟨d, sp, atD, move.srcAt, otherParent, above⟩

/-- Outside an exchange, the move keeps the tree unless the new parent is below the entry. -/
theorem kept_iff_of_replacing {mode : MoveEntryMode} (replaces : mode ≠ .exchange) :
    TreeKept view view' rootId (srcPath ++ [srcName]) (dstPath ++ [dstName]) mode ↔
      ¬ ReflTransGen (Agreed view) s dp := by
  have notSource : ∀ d, AtDestination view dp dstName d → ¬ At view rootId (srcPath ++ [srcName]) d :=
    fun d there atSrc => move.atDestination_ne there (atSrc.unique move.atSource)
  constructor
  · intro kept inside
    obtain ⟨lost, apart⟩ := move.moved.node_lost inside
    apply lost
    rw [← move.reached_iff]
    apply kept.reached s move.above_node
    intro _ d there _ above
    have isDestination := move.atDestination_iff.mp there
    exact apart d isDestination ((move.tree.above_iff there.above).mp above)
  · intro outside
    refine ⟨?_, fun _ _ _ => move.agrees⟩
    intro id reached excluded
    have before := (move.tree.above_iff .refl).mp reached
    have apart : ∀ d, AtDestination view dp dstName d → ¬ ReflTransGen (Agreed view) d id :=
      fun d there above =>
        excluded replaces d (move.atDestination_iff.mpr there) (notSource d there) (.of_agreed above)
    rw [move.reached_iff]
    apply move.moved.reached outside _ before
    · exact fun d there above => absurd above (apart d there)
    · intro d there above
      rw [(move.moved.cut_above_newParent there above).1] at there
      exact apart rootId there before

theorem kept_iff_of_exchange {d : VlobID} (isExchanged : exchange = some d) :
    TreeKept view view' rootId (srcPath ++ [srcName]) (dstPath ++ [dstName]) .exchange ↔
      ¬ ReflTransGen (Agreed view) s dp ∧ ¬ ReflTransGen (Agreed view) d sp := by
  obtain ⟨there, isParent, -, -, otherNewParent⟩ := move.exchanged d isExchanged
  have isDestination : AtDestination view dp dstName d := ⟨there, isParent⟩
  have only : ∀ c, AtDestination view dp dstName c → c = d := by
    rintro c ⟨found, -⟩
    rw [there] at found
    exact (Option.some.inj found).symm
  constructor
  · intro kept
    constructor
    · intro inside
      apply (move.moved.node_lost inside).1
      rw [← move.reached_iff]
      exact kept.reached s move.above_node fun replaces => absurd rfl replaces
    · intro inside
      apply ((move.movedBack isExchanged).node_lost inside).1
      rw [← move.reached_iff]
      exact kept.reached d (move.above_destination isDestination) fun replaces => absurd rfl replaces
  · rintro ⟨outside, outsideBack⟩
    refine ⟨?_, fun _ _ _ => move.agrees⟩
    intro id reached _
    have before := (move.tree.above_iff .refl).mp reached
    have sourceParent : ReflTransGen (Agreed view') rootId sp := by
      apply Forest.reached_of_kept move.moved.rewired.kept move.moved.reachedParent
      rintro c (rfl | isCut) above
      · exact absurd above move.moved.not_above_parent
      · rw [only c isCut] at above
        exact absurd above outsideBack
    rw [move.reached_iff]
    apply move.moved.reached outside _ before
    · intro c isCut _
      rw [only c isCut]
      exact sourceParent.tail (move.moved.rewired.joined sp d (Or.inr ⟨rfl, isExchanged⟩))
    · intro c isCut above
      obtain ⟨isRoot, newParentRoot⟩ := move.moved.cut_above_newParent isCut above
      rw [only c isCut] at isRoot
      exact otherNewParent (isRoot.trans newParentRoot.symm)

end Reparenting

/-- An entry s of the folder p gets another name, and in an exchange the entry that has this name
    gets the old one. -/
structure Renaming (view view' : View) (rootId : VlobID) (path : List EntryName)
    (srcName dstName : EntryName) (p s : VlobID) (exchange : Option VlobID) : Prop where
  tree : AgreeingTree view rootId
  rootParent : parentAt view rootId = some rootId
  parentReached : At view rootId path p
  listed : childAt view p srcName = some s
  isParent : parentAt view s = some p
  exchanged : ∀ d, exchange = some d → childAt view p dstName = some d
  child : ∀ q name, childAt view' q name =
    if q = p ∧ name = dstName then some s
    else if q = p ∧ name = srcName then exchange else childAt view q name
  parent : ∀ id, parentAt view' id = parentAt view id

namespace Renaming
variable {view view' : View} {rootId : VlobID} {path : List EntryName} {srcName dstName : EntryName}
  {p s : VlobID} {exchange : Option VlobID}
  (move : Renaming view view' rootId path srcName dstName p s exchange)
include move

theorem lists_before {q c : VlobID} (lists : Lists view' q c) : Lists view q c := by
  obtain ⟨⟨name, named⟩, found⟩ := lists_iff.mp lists
  rw [move.parent] at found
  rw [move.child] at named
  apply lists_iff.mpr
  refine ⟨?_, found⟩
  split at named
  · rename_i here
    cases named
    exact ⟨srcName, here.1 ▸ move.listed⟩
  · split at named
    · rename_i here
      exact ⟨dstName, here.1 ▸ move.exchanged c named⟩
    · exact ⟨name, named⟩

theorem lists_after {q c : VlobID} (lists : Lists view q c)
    (kept : ¬ (q = p ∧ childAt view p dstName = some c ∧ c ≠ s ∧ exchange = none)) :
    Lists view' q c := by
  obtain ⟨⟨name, named⟩, found⟩ := lists_iff.mp lists
  apply lists_iff.mpr
  rw [move.parent]
  refine ⟨?_, found⟩
  simp only [move.child]
  by_cases here : q = p
  · subst here
    by_cases isNode : c = s
    · exact ⟨dstName, by simp [isNode]⟩
    · by_cases isDst : name = dstName
      · rw [isDst] at named
        cases isExchange : exchange with
        | none => exact absurd ⟨rfl, named, isNode, isExchange⟩ kept
        | some d =>
          have same := move.exchanged d isExchange
          rw [named] at same
          cases same
          have differ : srcName ≠ dstName := by
            rintro rfl
            rw [move.listed] at named
            exact isNode (Option.some.inj named).symm
          exact ⟨srcName, by simp [differ]⟩
      · have notSrc : name ≠ srcName := by
          rintro rfl
          rw [move.listed] at named
          exact isNode (Option.some.inj named).symm
        exact ⟨name, by simp [isDst, notSrc, named]⟩
  · exact ⟨name, by simp [here, named]⟩

theorem above_before {id : VlobID} (reached : Above view' rootId id) : Above view rootId id := by
  induction reached with
  | refl => exact .refl
  | tail _ lists ih => exact ih.tail (move.lists_before lists)

theorem kept {mode : MoveEntryMode} (exchanges : mode = .exchange → exchange ≠ none) :
    TreeKept view view' rootId (path ++ [srcName]) (path ++ [dstName]) mode := by
  have atSource : At view rootId (path ++ [srcName]) s :=
    move.parentReached.step move.listed move.isParent
  constructor
  · intro id reached excluded
    have kept : ∀ q c, Lists view q c →
        ¬ (AtDestination view p dstName c ∧ c ≠ s ∧ exchange = none) → Lists view' q c := by
      intro q c lists uncut
      apply move.lists_after lists
      rintro ⟨rfl, there, other, noExchange⟩
      have isParent := move.tree.parent_of_listed move.parentReached.above lists
      exact uncut ⟨⟨there, isParent⟩, other, noExchange⟩
    apply Forest.reached_of_kept kept reached
    rintro c ⟨there, other, noExchange⟩ above
    refine absurd above (excluded ?_ c (move.parentReached.step there.1 there.2) ?_)
    · exact fun isExchange => exchanges isExchange noExchange
    · exact fun atSrc => other (atSrc.unique atSource)
  · intro q c child reached lists found
    have isParent := move.tree.parent_of_listed (move.above_before reached) (move.lists_before lists)
    rw [← move.parent, parentAt, found] at isParent
    exact Option.some.inj isParent

theorem not_inside {name : EntryName} {other : List EntryName} {c : VlobID}
    (named : childAt view p name = some c) (isChild : parentAt view c = some p)
    (sameParent : other.dropLast = path) : ¬ MovedInside view rootId (path ++ [name]) other := by
  rintro ⟨srcId, dstParentId, atSrc, atDst, differ, above⟩
  rw [sameParent] at atDst
  cases atSrc.unique (move.parentReached.step named isChild)
  cases atDst.unique move.parentReached
  have agreed : Agreed view p c := agreed_iff.mpr ⟨⟨name, named⟩, isChild⟩
  have rooted : ∀ q, Agreed view q rootId → q = rootId := by
    intro q agreed
    have isParent := (agreed_iff.mp agreed).2
    rw [move.rootParent] at isParent
    exact (Option.some.inj isParent).symm
  have cycle : TransGen (Agreed view) c c :=
    TransGen.tail' ((move.tree.above_iff atSrc.above).mp above) agreed
  have isRoot := Forest.eq_root_of_cycle rooted (agreed_singleParent view)
    ((move.tree.above_iff .refl).mp atSrc.above) cycle
  rw [isRoot] at agreed differ
  exact differ (rooted p agreed).symm

end Renaming

end ParsecCloud
