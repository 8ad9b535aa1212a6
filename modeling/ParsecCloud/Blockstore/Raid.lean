import ParsecCloud.Lib.TaskGroup
import ParsecCloud.Types.Manifest

/- The block stores that spread the blocks over several nodes without or with a full copy
   (raid0_blockstore.py and raid1_blockstore.py). -/
namespace ParsecCloud
open TaskGroup

abbrev Bytes := List Byte

inductive BlockStoreReadBadOutcome where
  | blockNotFound
  | storeUnavailable
  deriving DecidableEq

inductive BlockStoreCreateBadOutcome where
  | storeUnavailable
  deriving DecidableEq

/-- How the nodes answer: the errors of their create and read operations. -/
structure NodeOutcomes where
  createError : Nat → Option BlockStoreCreateBadOutcome
  readError : Nat → Option BlockStoreReadBadOutcome

/-- What each node holds for the block. -/
abbrev Held := Nat → Option Bytes

namespace NodeOutcomes
variable (nodes : NodeOutcomes)

def create (node : Nat) (data : Bytes) (held : Held) : Option BlockStoreCreateBadOutcome × Held :=
  match nodes.createError node with
  | some error => (some error, held)
  | none => (none, Function.update held node (some data))

def read (held : Held) (node : Nat) : Except BlockStoreReadBadOutcome Bytes :=
  match nodes.readError node with
  | some error => .error error
  | none =>
    match held node with
    | some data => .ok data
    | none => .error .blockNotFound

end NodeOutcomes

def noNode : Held := fun _ => none

inductive PythonError where
  | zeroDivisionError
  | assertionError
  | structError
  | overflowError
  | indexError
  deriving DecidableEq

namespace RAID0

def getBlockstore (count : Nat) (blockId : BlockID) : Except PythonError Nat :=
  if count = 0 then .error .zeroDivisionError else .ok (blockId.uuid % count)

def read (nodes : NodeOutcomes) (count : Nat) (blockId : BlockID) (held : Held) :
    Except PythonError (Except BlockStoreReadBadOutcome Bytes) := do
  return nodes.read held (← getBlockstore count blockId)

/-- The outcome of the node is dropped. -/
def create (nodes : NodeOutcomes) (count : Nat) (blockId : BlockID) (block : Bytes) (held : Held) :
    Except PythonError (Option BlockStoreCreateBadOutcome × Held) := do
  let (_, held) := nodes.create (← getBlockstore count blockId) block held
  return (none, held)

end RAID0

namespace RAID1
variable (nodes : NodeOutcomes)

def singleBlockstoreRead (held : Held) (node : Nat) (value : Option Bytes) :
    Completion (Option Bytes) Nat :=
  match nodes.read held node with
  | .ok data => ⟨some data, [], true⟩
  | .error _ => ⟨value, [], false⟩

/-- An empty value is taken for none. -/
def readResult : Option Bytes → Except BlockStoreReadBadOutcome Bytes
  | none => .error .storeUnavailable
  | some [] => .error .storeUnavailable
  | some value => .ok value

def Reads (count : Nat) (held : Held) (result : Except BlockStoreReadBadOutcome Bytes) : Prop :=
  ∃ value, Ends (singleBlockstoreRead nodes held) (List.range count) none value ∧
    result = readResult value

structure Creating where
  atLeastOneSuccess : Bool
  atLeastOneError : Bool
  held : Held

def singleBlockstoreCreate (partialCreateOk : Bool) (block : Bytes) (node : Nat) (s : Creating) :
    Completion Creating Nat :=
  match nodes.create node block s.held with
  | (none, held) => ⟨{ s with atLeastOneSuccess := true, held := held }, [], false⟩
  | (some _, held) => ⟨{ s with atLeastOneError := true, held := held }, [], !partialCreateOk⟩

def createResult (partialCreateOk : Bool) (s : Creating) : Option BlockStoreCreateBadOutcome :=
  if partialCreateOk then if !s.atLeastOneSuccess then some .storeUnavailable else none
  else if s.atLeastOneError then some .storeUnavailable else none

def Creates (partialCreateOk : Bool) (count : Nat) (block : Bytes)
    (result : Option BlockStoreCreateBadOutcome) (held : Held) : Prop :=
  ∃ s, Ends (singleBlockstoreCreate nodes partialCreateOk block) (List.range count)
      ⟨false, false, noNode⟩ s ∧
    result = createResult partialCreateOk s ∧ held = s.held

end RAID1

section Nodes
variable {nodes : NodeOutcomes} {node : Nat} {data : Bytes} {held : Held}

theorem create_failed {error : BlockStoreCreateBadOutcome}
    (failed : nodes.createError node = some error) :
    nodes.create node data held = (some error, held) := by
  rw [NodeOutcomes.create, failed]

theorem create_stored (works : nodes.createError node = none) :
    nodes.create node data held = (none, Function.update held node (some data)) := by
  rw [NodeOutcomes.create, works]

theorem read_held (works : nodes.readError node = none) (holds : held node = some data) :
    nodes.read held node = .ok data := by
  rw [NodeOutcomes.read, works, holds]

theorem read_eq_ok (answer : nodes.read held node = .ok data) :
    nodes.readError node = none ∧ held node = some data := by
  unfold NodeOutcomes.read at answer
  split at answer
  · cases answer
  · rename_i works
    split at answer
    · rename_i holds
      cases answer
      exact ⟨works, holds⟩
    · cases answer

end Nodes

/-- A create that fails on the chosen node is an error, and after a create that is a success the
    node gives the block back when it answers. -/
def RAID0.Faithful (nodes : NodeOutcomes) (count : Nat) (blockId : BlockID) (block : Bytes) : Prop :=
  ∀ node, getBlockstore count blockId = .ok node →
    (∀ error, nodes.createError node = some error →
      ∃ held, create nodes count blockId block noNode = .ok (some error, held)) ∧
    ∀ held, create nodes count blockId block noNode = .ok (none, held) →
      nodes.readError node = none → read nodes count blockId held = .ok (.ok block)

namespace RAID1
variable {nodes : NodeOutcomes} {partialCreateOk : Bool} {count : Nat} {block : Bytes}

/-- What holds while the nodes are written. -/
structure CreateInvariant (nodes : NodeOutcomes) (partialCreateOk : Bool) (count : Nat)
    (block : Bytes) (group : Group Creating Nat) : Prop where
  unique : group.pending.Nodup
  done : ∀ node < count, node ∉ group.pending → nodes.createError node = none →
    group.shared.held node = some block ∧ group.shared.atLeastOneSuccess = true
  holds : ∀ node data, group.shared.held node = some data →
    node < count ∧ data = block ∧ nodes.createError node = none
  success : group.shared.atLeastOneSuccess = true → ∃ node < count, group.shared.held node = some block
  noError : group.shared.atLeastOneError = false → ∀ node < count, node ∉ group.pending →
    nodes.createError node = none
  error : group.shared.atLeastOneError = true → ∃ node < count, nodes.createError node ≠ none
  known : ∀ node ∈ group.pending, node < count
  cancels : group.cancelled = true → partialCreateOk = false ∧ group.shared.atLeastOneError = true

theorem create_keeps {shared : Creating} {before after : List Nat} {node : Nat} {cancelled : Bool}
    (kept : CreateInvariant nodes partialCreateOk count block
      ⟨shared, before ++ node :: after, cancelled⟩) :
    CreateInvariant nodes partialCreateOk count block
      ⟨(singleBlockstoreCreate nodes partialCreateOk block node shared).shared,
        before ++ after ++ (singleBlockstoreCreate nodes partialCreateOk block node shared).started,
        cancelled || (singleBlockstoreCreate nodes partialCreateOk block node shared).cancels⟩ := by
  have isNode : node < count := kept.known node (by simp)
  have unique : (before ++ after).Nodup :=
    (List.nodup_cons.mp (List.perm_middle.nodup_iff.mp kept.unique)).2
  have known : ∀ other ∈ before ++ after, other < count := by
    intro other member
    apply kept.known
    exact List.perm_middle.mem_iff.mpr (List.mem_cons_of_mem node member)
  have before_or : ∀ other, other ∉ before ++ after → other = node ∨
      other ∉ before ++ node :: after := by
    intro other absent
    by_cases same : other = node
    · exact Or.inl same
    · rw [List.perm_middle.mem_iff, List.mem_cons, not_or]
      exact Or.inr ⟨same, absent⟩
  cases outcome : nodes.createError node with
  | some error =>
    simp only [singleBlockstoreCreate, create_failed outcome, List.append_nil]
    refine ⟨unique, ?_, kept.holds, kept.success, by simp, fun _ => ⟨node, isNode, by simp [outcome]⟩,
      known, ?_⟩
    · intro other isOther absent works
      rcases before_or other absent with rfl | earlier
      · rw [outcome] at works
        cases works
      · exact kept.done other isOther earlier works
    · intro isCancelled
      rw [Bool.or_eq_true] at isCancelled
      rcases isCancelled with already | now
      · exact ⟨(kept.cancels already).1, rfl⟩
      · exact ⟨by simpa using now, rfl⟩
  | none =>
    simp only [singleBlockstoreCreate, create_stored outcome, List.append_nil]
    have heldNode : Function.update shared.held node (some block) node = some block := by simp
    refine ⟨unique, ?_, ?_, ?_, ?_, kept.error, known, ?_⟩
    · intro other isOther absent works
      rcases before_or other absent with rfl | earlier
      · exact ⟨heldNode, rfl⟩
      · refine ⟨?_, rfl⟩
        by_cases same : other = node
        · rw [same]
          exact heldNode
        · simp only [Function.update_of_ne same]
          exact (kept.done other isOther earlier works).1
    · intro other data holds
      change Function.update shared.held node (some block) other = some data at holds
      by_cases same : other = node
      · rw [same, heldNode] at holds
        cases holds
        rw [same]
        exact ⟨isNode, rfl, outcome⟩
      · rw [Function.update_of_ne same] at holds
        exact kept.holds other data holds
    · exact fun _ => ⟨node, isNode, heldNode⟩
    · intro noError other isOther absent
      rcases before_or other absent with rfl | earlier
      · exact outcome
      · exact kept.noError noError other isOther earlier
    · intro isCancelled
      rw [Bool.or_false] at isCancelled
      exact kept.cancels isCancelled

theorem creates_spec {result : Option BlockStoreCreateBadOutcome} {held : Held}
    (creates : Creates nodes partialCreateOk count block result held) :
    (∀ node data, held node = some data → node < count ∧ data = block ∧
      nodes.createError node = none) ∧
    (result = none → if partialCreateOk then ∃ node < count, held node = some block
      else ∀ node < count, held node = some block) ∧
    ((partialCreateOk = true ∨ ∀ node < count, nodes.createError node = none) →
      ∀ node < count, nodes.createError node = none → result = none ∧ held node = some block) := by
  obtain ⟨final, ends, rfl, rfl⟩ := creates
  obtain ⟨⟨shared, pending, cancelled⟩, kept, finished, rfl⟩ := ends.keeps
    (CreateInvariant nodes partialCreateOk count block)
    { unique := List.nodup_range
      done := fun node isNode absent => absurd (List.mem_range.mpr isNode) absent
      holds := by simp [noNode]
      success := by simp
      noError := fun _ node isNode absent => absurd (List.mem_range.mpr isNode) absent
      error := by simp
      known := fun node member => List.mem_range.mp member
      cancels := by simp }
    fun _ _ _ _ _ => create_keeps
  refine ⟨kept.holds, ?_, ?_⟩
  · intro isNone
    unfold createResult at isNone
    cases partialCreateOk with
    | true =>
      cases success : shared.atLeastOneSuccess with
      | true => exact kept.success success
      | false => simp [success] at isNone
    | false =>
      cases error : shared.atLeastOneError with
      | true => simp [error] at isNone
      | false =>
        intro node isNode
        have all : pending = [] := by
          rcases finished with all | isCancelled
          · exact all
          · have failed := (kept.cancels isCancelled).2
            rw [error] at failed
            cases failed
        have absent : node ∉ pending := by simp [all]
        exact (kept.done node isNode absent (kept.noError error node isNode absent)).1
  · intro lenient node isNode works
    have noCancel : cancelled ≠ true := by
      intro isCancelled
      obtain ⟨notPartial, failed⟩ := kept.cancels isCancelled
      rcases lenient with isPartial | allWork
      · rw [notPartial] at isPartial
        cases isPartial
      · obtain ⟨other, isOther, fails⟩ := kept.error failed
        exact fails (allWork other isOther)
    have all : pending = [] := finished.resolve_right noCancel
    obtain ⟨holds, success⟩ := kept.done node isNode (by simp [all]) works
    change shared.atLeastOneSuccess = true at success
    refine ⟨?_, holds⟩
    unfold createResult
    rcases lenient with isPartial | allWork
    · simp [isPartial, success]
    · cases error : shared.atLeastOneError with
      | false => cases partialCreateOk <;> simp [success]
      | true =>
        obtain ⟨other, isOther, fails⟩ := kept.error error
        exact absurd (allWork other isOther) fails

theorem reads_spec {held : Held} {result : Except BlockStoreReadBadOutcome Bytes}
    (holds : ∀ node data, held node = some data → data = block)
    (reads : Reads nodes count held result) {node : Nat} (isNode : node < count)
    (isHeld : held node = some block) (answers : nodes.readError node = none) :
    result = readResult (some block) := by
  obtain ⟨value, ends, rfl⟩ := reads
  obtain ⟨⟨shared, pending, cancelled⟩, ⟨isBlock, waits⟩, finished, rfl⟩ := ends.keeps
    (fun group => (∀ data, group.shared = some data → data = block) ∧
      (group.shared = none → group.cancelled = false ∧ node ∈ group.pending))
    ⟨by simp, fun _ => ⟨rfl, List.mem_range.mpr isNode⟩⟩ (by
      rintro shared before other after cancelled ⟨isBlock, waits⟩
      cases answer : nodes.read held other with
      | ok data =>
        simp only [singleBlockstoreRead, answer]
        refine ⟨?_, by simp⟩
        rintro _ ⟨⟩
        exact holds other data (read_eq_ok answer).2
      | error error =>
        simp only [singleBlockstoreRead, answer, List.append_nil, Bool.or_false]
        refine ⟨isBlock, fun isNone => ?_⟩
        obtain ⟨running, waiting⟩ := waits isNone
        refine ⟨running, ?_⟩
        have differ : node ≠ other := by
          rintro rfl
          rw [read_held answers isHeld] at answer
          cases answer
        rw [List.perm_middle.mem_iff] at waiting
        exact List.mem_of_ne_of_mem differ waiting)
  cases shared with
  | some data => rw [isBlock data rfl]
  | none =>
    obtain ⟨running, waiting⟩ := waits rfl
    rcases finished with empty | isCancelled
    · change pending = [] at empty
      rw [empty] at waiting
      cases waiting
    · exact absurd (running.symm.trans isCancelled) Bool.false_ne_true

theorem read_ends (nodes : NodeOutcomes) (count : Nat) (held : Held) :
    ∃ result, Reads nodes count held result := by
  obtain ⟨final, ends⟩ := ends_of_measure (singleBlockstoreRead nodes held)
    (fun _ pending => pending.length) (by
      intro shared before node after
      have nothing : (singleBlockstoreRead nodes held node shared).started = [] := by
        unfold singleBlockstoreRead
        split <;> rfl
      simp [nothing]) (List.range count) none
  exact ⟨_, final, ends, rfl⟩

/-- After a create that is a success, all the nodes hold the block, or at least one of them in
    partial mode, and a read gives the block when a node that holds it answers. -/
def Faithful (nodes : NodeOutcomes) (partialCreateOk : Bool) (count : Nat) (block : Bytes) : Prop :=
  ∀ held, Creates nodes partialCreateOk count block none held →
    (if partialCreateOk then ∃ node < count, held node = some block
      else ∀ node < count, held node = some block) ∧
    ∀ node < count, held node = some block → nodes.readError node = none →
      ∀ result, Reads nodes count held result → result = .ok block

/-- A node that stores the block and answers, in a create that is a success. -/
def Answers (nodes : NodeOutcomes) (partialCreateOk : Bool) (count node : Nat) : Prop :=
  node < count ∧ nodes.createError node = none ∧ nodes.readError node = none ∧
    (partialCreateOk = true ∨ ∀ other < count, nodes.createError other = none)

end RAID1

def workingNodes : NodeOutcomes := ⟨fun _ => none, fun _ => none⟩

end ParsecCloud
