import ParsecCloud.Merge.CountedNames
import ParsecCloud.Types.LocalFolder

/- The three-way merge of the children of a folder (merge_children in merge.rs). The hash maps
   and sets are walked through in any order, so the orders are a parameter. -/
namespace ParsecCloud
open Rust HashMap CountedSearch

/-- The order of each walk of one call. -/
structure ChildrenOrders where
  base : HashOrder EntryName
  localOrder : HashOrder EntryName
  remote : HashOrder EntryName
  solved : HashOrder EntryName
  ids : HashOrder VlobID

inductive Placement where
  | nowhere
  | inLocal (name : EntryName)
  | inRemote (name : EntryName)

/-- The rightful name of an id, and which of the two solved maps gets it. -/
def place (baseName localName remoteName : Option EntryName) : Placement :=
  match baseName, localName, remoteName with
  | _, none, none => .nowhere
  | none, some _, some remoteName => .inRemote remoteName
  | none, some localName, none => .inLocal localName
  | none, none, some remoteName => .inRemote remoteName
  | some baseName, none, some remoteName =>
    if baseName ≠ remoteName then .inRemote remoteName else .nowhere
  | some baseName, some localName, none =>
    if baseName ≠ localName then .inRemote localName else .nowhere
  | some baseName, some localName, some remoteName =>
    if localName = remoteName then .inRemote remoteName
    else if baseName = remoteName then .inLocal localName
    -- renamed remotely, or on both sides
    else .inRemote remoteName

def Placement.localEntry (id : VlobID) : Placement → Option (EntryName × VlobID)
  | .inLocal name => some (name, id)
  | _ => none

def Placement.remoteEntry (id : VlobID) : Placement → Option (EntryName × VlobID)
  | .inRemote name => some (name, id)
  | _ => none

/-- The name itself, or a conflict name. -/
def freeName (nfc : List Char → List Char) (children : Children) (entryName : EntryName) :
    Checked EntryName :=
  if entryName ∈ children.keys then
    getConflictFilename nfc entryName filenameConflictSuffix children.keys
  else .ok entryName

def addLocalChild (nfc : List Char → List Char) (solvedLocal children : Children)
    (entryName : EntryName) : Checked Children :=
  match solvedLocal.lookup entryName with
  | none => .ok children
  | some entryId => do
    let entryName ← freeName nfc children entryName
    return children.insert entryName entryId

section Merge
variable (nfc : List Char → List Char) (orders : ChildrenOrders)
variable (base localChildren remote : Children)

def placement (id : VlobID) : Placement :=
  place ((reversed orders.base base).lookup id) ((reversed orders.localOrder localChildren).lookup id)
    ((reversed orders.remote remote).lookup id)

/-- All ids that might remain. -/
def remainingIds : List VlobID :=
  orders.ids.list
    ((reversed orders.localOrder localChildren).keys ∪ (reversed orders.remote remote).keys)

def solvedLocalChildren : Children :=
  placeAll (fun id => (placement orders base localChildren remote id).localEntry id)
    (remainingIds orders localChildren remote) ∅

def solvedRemoteChildren : Children :=
  placeAll (fun id => (placement orders base localChildren remote id).remoteEntry id)
    (remainingIds orders localChildren remote) ∅

def mergeChildren : Checked Children :=
  let solvedLocal := solvedLocalChildren orders base localChildren remote
  (orders.solved.list solvedLocal.keys).foldlM (addLocalChild nfc solvedLocal)
    (solvedRemoteChildren orders base localChildren remote)

end Merge

section Specification
variable (base localChildren remote : Children)

/-- In both sides, or in one side only and absent from the base or renamed since. -/
def Kept (id : VlobID) : Prop :=
  (Holds localChildren id ∧ Holds remote id) ∨
  (Holds localChildren id ∧ ¬ Holds remote id ∧
    (¬ Holds base id ∨ ∃ b l, base.lookup b = some id ∧ localChildren.lookup l = some id ∧ b ≠ l)) ∨
  (Holds remote id ∧ ¬ Holds localChildren id ∧
    (¬ Holds base id ∨ ∃ b r, base.lookup b = some id ∧ remote.lookup r = some id ∧ b ≠ r))

/-- An entry removed remotely and renamed locally takes a name that the remote gives to an
    entry that is new under it. -/
def Collides : Prop :=
  ∃ name b renamed other, base.lookup b = some renamed ∧ b ≠ name ∧
    localChildren.lookup name = some renamed ∧ ¬ Holds remote renamed ∧
    remote.lookup name = some other ∧ base.lookup name ≠ some other

/-- The name of an entry added locally, or renamed locally and left alone remotely. -/
def TakesLocalName (name : EntryName) : Prop :=
  ∃ id, localChildren.lookup name = some id ∧
    ((¬ Holds base id ∧ ¬ Holds remote id) ∨
      ∃ b, b ≠ name ∧ base.lookup b = some id ∧ remote.lookup b = some id)

/-- The name of a remote entry, unless the base has it under this name and the local side has
    it no more there; or the name of an entry removed remotely and renamed locally. -/
def TakesRemoteName (name : EntryName) : Prop :=
  (∃ id, remote.lookup name = some id ∧
    (base.lookup name = some id → localChildren.lookup name = some id)) ∨
  ∃ id b, localChildren.lookup name = some id ∧ ¬ Holds remote id ∧
    base.lookup b = some id ∧ b ≠ name

open Classical in
noncomputable def localNames : Finset EntryName :=
  localChildren.keys.filter (TakesLocalName base localChildren remote)

open Classical in
noncomputable def remoteNames : Finset EntryName :=
  (localChildren.keys ∪ remote.keys).filter (TakesRemoteName base localChildren remote)

end Specification

section Names
variable (nfc : List Char → List Char)

/-- The names in use once these local names have got theirs, one after the other: one that is free is
    kept, another one is numbered. -/
inductive InUse : Finset EntryName → List EntryName → Finset EntryName → Prop where
  | start {inUse : Finset EntryName} : InUse inUse [] inUse
  | kept {taken inUse : Finset EntryName} {name : EntryName} {names : List EntryName}
      (free : name ∉ taken) (later : InUse (insert name taken) names inUse) :
      InUse taken (name :: names) inUse
  | numbered {taken inUse : Finset EntryName} {name new : EntryName} {names : List EntryName}
      (used : name ∈ taken) (first : FirstFree (renameCandidate nfc name) taken 1 new)
      (later : InUse (insert new taken) names inUse) : InUse taken (name :: names) inUse

/-- Each name that meets one in use has counts that fit it. -/
def NamesFit (taken : Finset EntryName) (walk : List EntryName) : Prop :=
  ∀ names name rest inUse, walk = names ++ name :: rest → InUse nfc taken names inUse →
    name ∈ inUse → CountsFit nfc name inUse

variable {nfc} {taken : Finset EntryName} {name : EntryName} {rest : List EntryName}

theorem namesFit_cons : NamesFit nfc taken (name :: rest) ↔
    (name ∉ taken → NamesFit nfc (insert name taken) rest) ∧
    (name ∈ taken → CountsFit nfc name taken ∧
      ∀ new, FirstFree (renameCandidate nfc name) taken 1 new →
        NamesFit nfc (insert new taken) rest) := by
  constructor
  · intro fit
    refine ⟨fun free => ?_, fun used => ⟨fit [] name rest taken rfl .start used, fun new first => ?_⟩⟩
    · rintro names other after inUse rfl before
      exact fit (name :: names) other after inUse rfl (.kept free before)
    · rintro names other after inUse rfl before
      exact fit (name :: names) other after inUse rfl (.numbered used first before)
  · rintro ⟨kept, numbered⟩ names other after inUse split before used
    cases before with
    | start =>
      cases split
      exact (numbered used).1
    | kept free later =>
      cases split
      exact kept free _ other after inUse rfl later used
    | numbered taken first later =>
      cases split
      exact (numbered taken).2 _ first _ other after inUse rfl later used

theorem namesFit_nil : NamesFit nfc taken [] := by
  intro names name rest inUse split
  exact absurd split.symm (List.append_ne_nil_of_right_ne_nil names (List.cons_ne_nil name rest))

/-- Names fit when their cuts are made between characters at as many counts as there are names. -/
theorem namesFit_of_cuts (laws : NormalizationFormC nfc) (size : Nat) {walk : List EntryName}
    (few : size + 1 ≤ i32Max) (normalized : ∀ n ∈ walk, nfc n.chars = n.chars)
    (cuts : ∀ n ∈ walk, ∀ count, 1 ≤ count → count ≤ size + 1 → RenameCutsBetweenCharacters n count)
    (room : taken.card + walk.length ≤ size) : NamesFit nfc taken walk := by
  induction walk generalizing taken with
  | nil => exact namesFit_nil
  | cons name rest ih =>
    rw [List.length_cons] at room
    have later : ∀ new, NamesFit nfc (insert new taken) rest := by
      intro new
      have larger := Finset.card_insert_le new taken
      exact ih (fun n mn => normalized n (by simp [mn])) (fun n mn => cuts n (by simp [mn])) (by omega)
    refine namesFit_cons.mpr ⟨fun _ => later name, fun _ => ⟨?_, fun new _ => later new⟩⟩
    exact countsFit_of_cuts laws (normalized name (by simp)) (by omega) few (cuts name (by simp))

end Names

theorem place_inLocal {b l r : Option EntryName} {name : EntryName} :
    place b l r = .inLocal name ↔
      l = some name ∧
        ((b = none ∧ r = none) ∨ ∃ other, other ≠ name ∧ b = some other ∧ r = some other) := by
  unfold place
  cases b <;> cases l <;> cases r <;> simp <;> grind

theorem place_inRemote {b l r : Option EntryName} {name : EntryName} :
    place b l r = .inRemote name ↔
      (r = some name ∧ (b = some name → l = some name)) ∨
      (l = some name ∧ r = none ∧ ∃ other, b = some other ∧ other ≠ name) := by
  unfold place
  cases b <;> cases l <;> cases r <;> simp <;> grind

theorem localEntry_eq {p : Placement} {id other : VlobID} {name : EntryName} :
    p.localEntry id = some (name, other) ↔ p = .inLocal name ∧ id = other := by
  cases p <;> simp [Placement.localEntry]

theorem remoteEntry_eq {p : Placement} {id other : VlobID} {name : EntryName} :
    p.remoteEntry id = some (name, other) ↔ p = .inRemote name ∧ id = other := by
  cases p <;> simp [Placement.remoteEntry]

section Solved
variable {orders : ChildrenOrders} {base localChildren remote : Children} {id : VlobID}
  {name : EntryName}

theorem mem_remainingIds :
    id ∈ remainingIds orders localChildren remote ↔ Holds localChildren id ∨ Holds remote id := by
  rw [remainingIds, orders.ids.mem_iff, Finset.mem_union, mem_keys_reversed,
    mem_keys_reversed]

theorem solvedLocalChildren_placed
    (found : (solvedLocalChildren orders base localChildren remote).lookup name = some id) :
    placement orders base localChildren remote id = .inLocal name := by
  rcases placeAll_mem found with ⟨a, -, placed⟩ | none
  · obtain ⟨named, rfl⟩ := localEntry_eq.mp placed
    exact named
  · cases none

theorem solvedRemoteChildren_placed
    (found : (solvedRemoteChildren orders base localChildren remote).lookup name = some id) :
    placement orders base localChildren remote id = .inRemote name := by
  rcases placeAll_mem found with ⟨a, -, placed⟩ | none
  · obtain ⟨named, rfl⟩ := remoteEntry_eq.mp placed
    exact named
  · cases none

theorem mem_keys_solvedLocalChildren :
    name ∈ (solvedLocalChildren orders base localChildren remote).keys ↔
      ∃ id, placement orders base localChildren remote id = .inLocal name := by
  rw [mem_keys_iff]
  constructor
  · intro found
    obtain ⟨id, found⟩ := found
    exact ⟨id, solvedLocalChildren_placed found⟩
  · intro placed
    obtain ⟨id, placed⟩ := placed
    have listed := lookup_of_reversed (place_inLocal.mp placed).1
    exact placeAll_claimed (mem_remainingIds.mpr (Or.inl ⟨name, listed⟩))
      (localEntry_eq.mpr ⟨placed, rfl⟩)

theorem mem_keys_solvedRemoteChildren :
    name ∈ (solvedRemoteChildren orders base localChildren remote).keys ↔
      ∃ id, placement orders base localChildren remote id = .inRemote name := by
  rw [mem_keys_iff]
  constructor
  · intro found
    obtain ⟨id, found⟩ := found
    exact ⟨id, solvedRemoteChildren_placed found⟩
  · intro placed
    obtain ⟨id, placed⟩ := placed
    apply placeAll_claimed (mem_remainingIds.mpr _) (remoteEntry_eq.mpr ⟨placed, rfl⟩)
    rcases place_inRemote.mp placed with ⟨listed, -⟩ | ⟨listed, -⟩
    · exact Or.inr ⟨name, lookup_of_reversed listed⟩
    · exact Or.inl ⟨name, lookup_of_reversed listed⟩

/-- An id that is listed twice counts under the name that its reverse lookup keeps. -/
theorem solvedLocalChildren_oneKeyEach : solvedLocalChildren orders (oneKeyEach orders.base base)
    (oneKeyEach orders.localOrder localChildren) (oneKeyEach orders.remote remote) =
      solvedLocalChildren orders base localChildren remote := by
  simp only [solvedLocalChildren, remainingIds, placement, reversed_oneKeyEach]

theorem solvedRemoteChildren_oneKeyEach : solvedRemoteChildren orders (oneKeyEach orders.base base)
    (oneKeyEach orders.localOrder localChildren) (oneKeyEach orders.remote remote) =
      solvedRemoteChildren orders base localChildren remote := by
  simp only [solvedRemoteChildren, remainingIds, placement, reversed_oneKeyEach]

end Solved

section Placed
variable {orders : ChildrenOrders} {base localChildren remote : Children}
variable (baseInjective : Injective base) (localInjective : Injective localChildren)
variable (remoteInjective : Injective remote)
include baseInjective localInjective remoteInjective

theorem placement_inLocal {id : VlobID} {name : EntryName} :
    placement orders base localChildren remote id = .inLocal name ↔
      localChildren.lookup name = some id ∧
        ((¬ Holds base id ∧ ¬ Holds remote id) ∨
          ∃ b, b ≠ name ∧ base.lookup b = some id ∧ remote.lookup b = some id) := by
  simp only [placement, place_inLocal, lookup_reversed _ baseInjective,
    lookup_reversed _ localInjective, lookup_reversed _ remoteInjective,
    reversed_eq_none]

theorem placement_inRemote {id : VlobID} {name : EntryName} :
    placement orders base localChildren remote id = .inRemote name ↔
      (remote.lookup name = some id ∧
        (base.lookup name = some id → localChildren.lookup name = some id)) ∨
      (localChildren.lookup name = some id ∧ ¬ Holds remote id ∧
        ∃ b, base.lookup b = some id ∧ b ≠ name) := by
  simp only [placement, place_inRemote, lookup_reversed _ baseInjective,
    lookup_reversed _ localInjective, lookup_reversed _ remoteInjective,
    reversed_eq_none]

/-- An id gets a name exactly when the claimed set has it. -/
theorem kept_iff_placed {id : VlobID} :
    Kept base localChildren remote id ↔
      (∃ name, placement orders base localChildren remote id = .inLocal name) ∨
      ∃ name, placement orders base localChildren remote id = .inRemote name := by
  simp only [Kept, Holds, ← lookup_reversed orders.base baseInjective,
    ← lookup_reversed orders.localOrder localInjective,
    ← lookup_reversed orders.remote remoteInjective, placement]
  generalize (reversed orders.base base).lookup id = b
  generalize (reversed orders.localOrder localChildren).lookup id = l
  generalize (reversed orders.remote remote).lookup id = r
  cases b <;> cases l <;> cases r <;> simp [place] <;> split_ifs <;> simp_all

theorem solvedLocalChildren_lookup {id : VlobID} {name : EntryName} :
    (solvedLocalChildren orders base localChildren remote).lookup name = some id ↔
      placement orders base localChildren remote id = .inLocal name := by
  rw [solvedLocalChildren, placeAll_lookup]
  · simp only [localEntry_eq, Finmap.lookup_empty, reduceCtorEq, and_false, or_false]
    constructor
    · rintro ⟨a, -, placed, rfl⟩
      exact placed
    · intro placed
      have held := ((placement_inLocal baseInjective localInjective remoteInjective).mp placed).1
      exact ⟨id, (mem_remainingIds).mpr (Or.inl ⟨name, held⟩),
        placed, rfl⟩
  · intro a _ b _ v w first second
    obtain ⟨placed, rfl⟩ := localEntry_eq.mp first
    obtain ⟨again, rfl⟩ := localEntry_eq.mp second
    -- both are the local entry of this name
    have left := ((placement_inLocal baseInjective localInjective remoteInjective).mp placed).1
    have right := ((placement_inLocal baseInjective localInjective remoteInjective).mp again).1
    exact Option.some.inj (left.symm.trans right)

/-- Two ids get one name in the solved remote children only by a collision. -/
theorem collides_of_placed {id other : VlobID} {name : EntryName} (differ : id ≠ other)
    (first : placement orders base localChildren remote id = .inRemote name)
    (second : placement orders base localChildren remote other = .inRemote name) :
    Collides base localChildren remote := by
  rw [placement_inRemote baseInjective localInjective remoteInjective] at first second
  rcases first with ⟨mine, kept⟩ | ⟨mine, gone, b, based, renamed⟩
  · rcases second with ⟨theirs, -⟩ | ⟨theirs, gone, b, based, renamed⟩
    · exact absurd (Option.some.inj (mine.symm.trans theirs)) differ
    · refine ⟨name, b, other, id, based, renamed, theirs, gone, mine, ?_⟩
      intro unchanged
      exact differ (Option.some.inj ((kept unchanged).symm.trans theirs))
  · rcases second with ⟨theirs, kept⟩ | ⟨theirs, -⟩
    · refine ⟨name, b, id, other, based, renamed, mine, gone, theirs, ?_⟩
      intro unchanged
      exact differ (Option.some.inj (mine.symm.trans (kept unchanged)))
    · exact absurd (Option.some.inj (mine.symm.trans theirs)) differ

theorem solvedRemoteChildren_lookup (apart : ¬ Collides base localChildren remote) {id : VlobID}
    {name : EntryName} :
    (solvedRemoteChildren orders base localChildren remote).lookup name = some id ↔
      placement orders base localChildren remote id = .inRemote name := by
  constructor
  · exact solvedRemoteChildren_placed
  · intro placed
    rw [solvedRemoteChildren, placeAll_lookup]
    · refine Or.inl ⟨id, ?_, remoteEntry_eq.mpr ⟨placed, rfl⟩⟩
      rw [mem_remainingIds]
      rcases (placement_inRemote baseInjective localInjective remoteInjective).mp placed with
        ⟨held, -⟩ | ⟨held, -⟩
      · exact Or.inr ⟨name, held⟩
      · exact Or.inl ⟨name, held⟩
    · intro a _ b _ v w first second
      obtain ⟨one, rfl⟩ := remoteEntry_eq.mp first
      obtain ⟨two, rfl⟩ := remoteEntry_eq.mp second
      by_contra differ
      exact apart (collides_of_placed baseInjective localInjective remoteInjective differ one two)

theorem keys_solvedLocalChildren :
    (solvedLocalChildren orders base localChildren remote).keys =
      localNames base localChildren remote := by
  ext name
  rw [mem_keys_solvedLocalChildren]
  simp only [placement_inLocal baseInjective localInjective remoteInjective, localNames,
    Finset.mem_filter, TakesLocalName, mem_keys_iff]
  exact ⟨fun ⟨id, held, why⟩ => ⟨⟨id, held⟩, id, held, why⟩, And.right⟩

theorem keys_solvedRemoteChildren :
    (solvedRemoteChildren orders base localChildren remote).keys =
      remoteNames base localChildren remote := by
  ext name
  rw [mem_keys_solvedRemoteChildren]
  simp only [placement_inRemote baseInjective localInjective remoteInjective, remoteNames,
    Finset.mem_filter, Finset.mem_union, TakesRemoteName, mem_keys_iff]
  constructor
  · rintro ⟨id, ⟨held, kept⟩ | ⟨held, gone, b, based, renamed⟩⟩
    · exact ⟨Or.inr ⟨id, held⟩, Or.inl ⟨id, held, kept⟩⟩
    · exact ⟨Or.inl ⟨id, held⟩, Or.inr ⟨id, b, held, gone, based, renamed⟩⟩
  · rintro ⟨-, ⟨id, held, kept⟩ | ⟨id, b, held, gone, based, renamed⟩⟩
    · exact ⟨id, Or.inl ⟨held, kept⟩⟩
    · exact ⟨id, Or.inr ⟨held, gone, b, based, renamed⟩⟩

end Placed

section Adding
variable {nfc : List Char → List Char} {solvedLocal children out : Children}

theorem freeName_free {name new : EntryName} (chosen : freeName nfc children name = .ok new) :
    new ∉ children.keys := by
  unfold freeName at chosen
  split at chosen
  · exact search_unreserved chosen
  · rename_i free
    cases chosen
    exact free

theorem addLocalChild_cases {name : EntryName}
    (added : addLocalChild nfc solvedLocal children name = .ok out) :
    (solvedLocal.lookup name = none ∧ out = children) ∨
    ∃ id new, solvedLocal.lookup name = some id ∧ new ∉ children.keys ∧
      out = children.insert new id := by
  unfold addLocalChild at added
  split at added
  · rename_i absent
    cases added
    exact Or.inl ⟨absent, rfl⟩
  · rename_i id found
    obtain ⟨new, chosen, inserted⟩ := bind_eq_ok.mp added
    cases inserted
    exact Or.inr ⟨id, new, found, freeName_free chosen, rfl⟩

/-- The loop ends exactly when each name that meets one in use has counts that fit it. -/
theorem addLocalChildren_ends_iff (laws : NormalizationFormC nfc) {names : List EntryName}
    (known : ∀ n ∈ names, n ∈ solvedLocal.keys) (normalized : ∀ n ∈ names, nfc n.chars = n.chars) :
    (∃ out, names.foldlM (addLocalChild nfc solvedLocal) children = .ok out) ↔
      NamesFit nfc children.keys names := by
  induction names generalizing children with
  | nil => exact ⟨fun _ => namesFit_nil, fun _ => ⟨children, rfl⟩⟩
  | cons name rest ih =>
    obtain ⟨id, found⟩ := mem_keys_iff.mp (known name (by simp))
    have next := fun new => @ih (children.insert new id) (fun n mn => known n (by simp [mn]))
      fun n mn => normalized n (by simp [mn])
    have ends := @getConflictFilename_ends_iff nfc laws name (normalized name (by simp)) children.keys
    simp only [keys_insert] at next
    simp only [List.foldlM_cons, addLocalChild, found, freeName, namesFit_cons]
    by_cases used : name ∈ children.keys
    · simp only [used, not_true_eq_false, false_implies, true_and, forall_const, ← ends]
      cases chosen : getConflictFilename nfc name filenameConflictSuffix children.keys with
      | error panic =>
        constructor
        · rintro ⟨out, run⟩
          cases run
        · rintro ⟨⟨new, built⟩, -⟩
          cases built
      | ok new =>
        have first := search_firstFree chosen
        constructor
        · intro run
          refine ⟨⟨new, rfl⟩, fun other firstOther => ?_⟩
          rw [firstOther.unique first]
          exact (next new).mp run
        · exact fun fit => (next new).mpr (fit.2 new first)
    · simpa [used] using next name

theorem addLocalChildren_holds {names : List EntryName} {id : VlobID}
    (run : names.foldlM (addLocalChild nfc solvedLocal) children = .ok out) :
    Holds out id ↔ Holds children id ∨ ∃ n ∈ names, solvedLocal.lookup n = some id := by
  induction names generalizing children with
  | nil =>
    cases run
    simp
  | cons name rest ih =>
    rw [List.foldlM_cons] at run
    obtain ⟨next, added, others⟩ := bind_eq_ok.mp run
    rw [ih others]
    obtain ⟨absent, rfl⟩ | ⟨other, new, found, fresh, rfl⟩ := addLocalChild_cases added
    · simp [absent]
    · simp [holds_insert_fresh fresh, found, or_assoc, eq_comm]

theorem addLocalChildren_injective {names : List EntryName} (nodup : names.Nodup)
    (solvedInjective : Injective solvedLocal) (injective : Injective children)
    (apart : ∀ n ∈ names, ∀ id, solvedLocal.lookup n = some id → ¬ Holds children id)
    (run : names.foldlM (addLocalChild nfc solvedLocal) children = .ok out) : Injective out := by
  induction names generalizing children with
  | nil =>
    cases run
    exact injective
  | cons name rest ih =>
    rw [List.foldlM_cons] at run
    obtain ⟨next, added, others⟩ := bind_eq_ok.mp run
    obtain ⟨new, nodup⟩ := List.nodup_cons.mp nodup
    obtain ⟨absent, rfl⟩ | ⟨id, chosen, found, fresh, rfl⟩ := addLocalChild_cases added
    · exact ih nodup injective (fun n mn => apart n (by simp [mn])) others
    · apply ih nodup (injective_insert injective (apart name (by simp) id found)) _ others
      intro n mn other lookup held
      rcases (holds_insert_fresh fresh).mp held with old | rfl
      · exact apart n (by simp [mn]) other lookup old
      · exact new (solvedInjective name n other found lookup ▸ mn)

end Adding

/-- No id is lost, none is duplicated. -/
def MergesChildren (base localChildren remote children : Children) : Prop :=
  Injective children ∧ ∀ id, Holds children id ↔ Kept base localChildren remote id

/-- The merge returns exactly when the names fit, for the name of each id that is kept. -/
theorem mergeChildren_ends_iff {nfc : List Char → List Char} (laws : NormalizationFormC nfc)
    {orders : ChildrenOrders} {base localChildren remote : Children}
    (normalized : ∀ name ∈ localChildren.keys, nfc name.chars = name.chars) :
    (∃ children, mergeChildren nfc orders base localChildren remote = .ok children) ↔
      NamesFit nfc
        (remoteNames (oneKeyEach orders.base base) (oneKeyEach orders.localOrder localChildren)
          (oneKeyEach orders.remote remote))
        (orders.solved.list
          (localNames (oneKeyEach orders.base base) (oneKeyEach orders.localOrder localChildren)
            (oneKeyEach orders.remote remote))) := by
  have solvedLocal := @keys_solvedLocalChildren orders _ _ _ (injective_oneKeyEach orders.base base)
    (injective_oneKeyEach orders.localOrder localChildren) (injective_oneKeyEach orders.remote remote)
  have solvedRemote := @keys_solvedRemoteChildren orders _ _ _ (injective_oneKeyEach orders.base base)
    (injective_oneKeyEach orders.localOrder localChildren) (injective_oneKeyEach orders.remote remote)
  rw [solvedLocalChildren_oneKeyEach] at solvedLocal
  rw [solvedRemoteChildren_oneKeyEach] at solvedRemote
  rw [← solvedLocal, ← solvedRemote]
  apply addLocalChildren_ends_iff laws
  · exact fun name member => (orders.solved.mem_iff _ _).mp member
  · intro name member
    obtain ⟨id, placed⟩ := mem_keys_solvedLocalChildren.mp ((orders.solved.mem_iff _ _).mp member)
    exact normalized name (mem_keys_iff.mpr ⟨id, lookup_of_reversed (place_inLocal.mp placed).1⟩)

section Merged
variable {nfc : List Char → List Char} {orders : ChildrenOrders}
variable {base localChildren remote children : Children}
variable (baseInjective : Injective base) (localInjective : Injective localChildren)
variable (remoteInjective : Injective remote)
include baseInjective localInjective remoteInjective

theorem mergeChildren_holds {id : VlobID}
    (run : mergeChildren nfc orders base localChildren remote = .ok children) :
    Holds children id ↔ Holds (solvedRemoteChildren orders base localChildren remote) id ∨
      ∃ name, placement orders base localChildren remote id = .inLocal name := by
  rw [addLocalChildren_holds run]
  simp only [orders.solved.mem_iff, mem_keys_iff,
    solvedLocalChildren_lookup baseInjective localInjective remoteInjective]
  apply or_congr Iff.rfl
  exact ⟨fun ⟨name, _, placed⟩ => ⟨name, placed⟩, fun ⟨name, placed⟩ => ⟨name, ⟨id, placed⟩, placed⟩⟩

omit baseInjective localInjective remoteInjective in
/-- No id is duplicated, also when the sides merged have duplicates. -/
theorem mergeChildren_injective
    (run : mergeChildren nfc orders base localChildren remote = .ok children) :
    Injective children := by
  apply addLocalChildren_injective (orders.solved.nodup _) _ _ _ run
  · intro name name' id first second
    have placed := solvedLocalChildren_placed first
    rw [solvedLocalChildren_placed second] at placed
    cases placed
    rfl
  · intro name name' id first second
    have placed := solvedRemoteChildren_placed first
    rw [solvedRemoteChildren_placed second] at placed
    cases placed
    rfl
  · rintro name - id found ⟨name', held⟩
    have placed := solvedLocalChildren_placed found
    rw [solvedRemoteChildren_placed held] at placed
    cases placed

/-- One of two colliding entries is overwritten by the other. -/
theorem not_merges_of_collides (collides : Collides base localChildren remote)
    (run : mergeChildren nfc orders base localChildren remote = .ok children) :
    ¬ MergesChildren base localChildren remote children := by
  rintro ⟨-, same⟩
  obtain ⟨name, b, renamed, other, based, moved, held, gone, theirs, new⟩ := collides
  have placedMine : placement orders base localChildren remote renamed = .inRemote name :=
    (placement_inRemote baseInjective localInjective remoteInjective).mpr
      (Or.inr ⟨held, gone, b, based, moved⟩)
  have placedTheirs : placement orders base localChildren remote other = .inRemote name :=
    (placement_inRemote baseInjective localInjective remoteInjective).mpr
      (Or.inl ⟨theirs, fun unchanged => absurd unchanged new⟩)
  have inSolved : ∀ id, placement orders base localChildren remote id = .inRemote name →
      (solvedRemoteChildren orders base localChildren remote).lookup name = some id := by
    intro id placed
    have kept := (kept_iff_placed baseInjective localInjective remoteInjective).mpr
      (Or.inr ⟨name, placed⟩)
    rcases (mergeChildren_holds baseInjective localInjective remoteInjective run).mp
        ((same id).mpr kept) with ⟨name', found⟩ | ⟨name', placed'⟩
    · have placed' := solvedRemoteChildren_placed found
      rw [placed] at placed'
      cases placed'
      exact found
    · rw [placed] at placed'
      cases placed'
  have equal := Option.some.inj ((inSolved renamed placedMine).symm.trans (inSolved other placedTheirs))
  exact gone ⟨name, equal ▸ theirs⟩

end Merged

/-- No id is lost and none is duplicated exactly when no entries collide, and each local name that
    meets one in use has its cuts between characters at the counts that are tried for it. -/
theorem children_merge_loses_nothing_iff {nfc : List Char → List Char} (laws : NormalizationFormC nfc)
    (orders : ChildrenOrders) (base localChildren remote : Children) (baseInjective : Injective base)
    (localInjective : Injective localChildren) (remoteInjective : Injective remote)
    (normalized : ∀ name ∈ localChildren.keys, nfc name.chars = name.chars) :
    (∃ children, mergeChildren nfc orders base localChildren remote = .ok children ∧
      MergesChildren base localChildren remote children) ↔
    ¬ Collides base localChildren remote ∧
      NamesFit nfc (remoteNames base localChildren remote)
        (orders.solved.list (localNames base localChildren remote)) := by
  have ends := @mergeChildren_ends_iff nfc laws orders base localChildren remote normalized
  rw [oneKeyEach_eq baseInjective, oneKeyEach_eq localInjective, oneKeyEach_eq remoteInjective] at ends
  constructor
  · rintro ⟨children, run, merges⟩
    refine ⟨fun collides => ?_, ends.mp ⟨children, run⟩⟩
    exact not_merges_of_collides baseInjective localInjective remoteInjective collides run merges
  · rintro ⟨apart, fit⟩
    obtain ⟨children, run⟩ := ends.mpr fit
    refine ⟨children, run, mergeChildren_injective run, ?_⟩
    intro id
    rw [mergeChildren_holds baseInjective localInjective remoteInjective run,
      kept_iff_placed baseInjective localInjective remoteInjective, or_comm]
    apply or_congr Iff.rfl
    exact exists_congr fun name =>
      solvedRemoteChildren_lookup baseInjective localInjective remoteInjective apart

noncomputable def someOrders : ChildrenOrders := ⟨.any _, .any _, .any _, .any _, .any _⟩

/-- Two entries added under one name. -/
theorem competing_names_merge :
    (∃ children, mergeChildren id someOrders ∅ (Finmap.singleton entryA ⟨1⟩)
        (Finmap.singleton entryA ⟨2⟩) = .ok children ∧
      MergesChildren ∅ (Finmap.singleton entryA ⟨1⟩) (Finmap.singleton entryA ⟨2⟩) children) := by
  apply (children_merge_loses_nothing_iff normalizationFormC_id someOrders _ _ _ injective_empty
    injective_singleton injective_singleton fun _ _ => rfl).mpr
  have mine : localNames ∅ (Finmap.singleton entryA ⟨1⟩) (Finmap.singleton entryA ⟨2⟩) = {entryA} := by
    ext name
    simp [localNames, TakesLocalName, Holds, lookup_singleton_ite]
  constructor
  · rintro ⟨name, b, renamed, other, based, -⟩
    cases based
  · rw [mine]
    apply namesFit_of_cuts normalizationFormC_id 2 (by decide) fun _ _ => rfl
    · intro name member count _ _
      have isA : name = entryA := by simpa [someOrders, HashOrder.any] using member
      rw [isA]
      exact cuts_of_short (by decide)
    · have theirs : remoteNames ∅ (Finmap.singleton entryA ⟨1⟩) (Finmap.singleton entryA ⟨2⟩) =
          {entryA} := by
        ext name
        simp [remoteNames, TakesRemoteName, lookup_singleton_ite]
      simp [theirs, someOrders, HashOrder.any]

/-- An entry is moved from a to b here, removed there and replaced by another one. -/
theorem renamed_entry_overwritten :
    ¬ ∃ children, mergeChildren id someOrders (Finmap.singleton entryA ⟨1⟩)
        (Finmap.singleton entryB ⟨1⟩) (Finmap.singleton entryB ⟨2⟩) = .ok children ∧
      MergesChildren (Finmap.singleton entryA ⟨1⟩) (Finmap.singleton entryB ⟨1⟩)
        (Finmap.singleton entryB ⟨2⟩) children := by
  rintro ⟨children, run, merges⟩
  apply not_merges_of_collides injective_singleton injective_singleton injective_singleton _ run merges
  refine ⟨entryB, entryA, ⟨1⟩, ⟨2⟩, ?_⟩
  simp [lookup_singleton_ite, Holds]
  decide

end ParsecCloud
