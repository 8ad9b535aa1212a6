import ParsecCloud.Blockstore.Codec

/- The block store that cuts each block into chunks with a checksum on the last node
   (raid5_blockstore.py). -/
namespace ParsecCloud
open TaskGroup Bytes

namespace RAID5

structure Creating where
  errorCount : Nat
  held : Held

def subBlockstoreCreate (nodes : NodeOutcomes) (partialCreateOk : Bool) (task : Nat × Bytes)
    (s : Creating) : Completion Creating (Nat × Bytes) :=
  match nodes.create task.1 task.2 s.held with
  | (none, held) => ⟨{ s with held := held }, [], false⟩
  | (some _, held) =>
    ⟨⟨s.errorCount + 1, held⟩, [], decide (s.errorCount + 1 > 1) || !partialCreateOk⟩

def createResult (partialCreateOk : Bool) (s : Creating) : Option BlockStoreCreateBadOutcome :=
  if partialCreateOk then if s.errorCount > 1 then some .storeUnavailable else none
  else if s.errorCount ≠ 0 then some .storeUnavailable else none

/-- The data of each node: the chunks and then the checksum. -/
def nodeData (byteorder : ByteOrder) (count : Nat) (block : Bytes) :
    Except PythonError (List Bytes) := do
  let nbChunks := count - 1
  let chunks ← splitBlockInChunks block nbChunks
  assertThat (chunks.length == nbChunks)
  let checksumChunk ← generateChecksumChunk byteorder chunks
  return chunks ++ [checksumChunk]

def Creates (nodes : NodeOutcomes) (byteorder : ByteOrder) (partialCreateOk : Bool) (count : Nat)
    (block : Bytes) (result : Option BlockStoreCreateBadOutcome) (held : Held) : Prop :=
  ∃ data s, nodeData byteorder count block = .ok data ∧
    Ends (subBlockstoreCreate nodes partialCreateOk) ((List.range data.length).zip data)
      ⟨0, noNode⟩ s ∧
    result = createResult partialCreateOk s ∧ held = s.held

abbrev FetchResult := Option (Except BlockStoreReadBadOutcome Bytes)

structure Reading where
  errorCount : Nat
  fetchResults : List FetchResult

/-- The checksum is fetched at the first error, and the second one is too many. -/
def partialBlockstoreRead (nodes : NodeOutcomes) (count : Nat) (held : Held) (node : Nat)
    (s : Reading) : Completion Reading Nat :=
  match nodes.read held node with
  | .ok chunk => ⟨{ s with fetchResults := s.fetchResults.set node (some (.ok chunk)) }, [], false⟩
  | .error error =>
    let s : Reading := ⟨s.errorCount + 1, s.fetchResults.set node (some (.error error))⟩
    if s.errorCount > 1 then ⟨s, [], true⟩ else ⟨s, [count - 1], false⟩

def isBytes : FetchResult → Bool
  | some (.ok _) => true
  | _ => false

def isBadOutcome : FetchResult → Bool
  | some (.error _) => true
  | _ => false

def bytesOf : FetchResult → Option Bytes
  | some (.ok data) => some data
  | _ => none

/-- The last sanity check of the degraded mode counts the results and not the errors. -/
def readResult (byteorder : ByteOrder) (s : Reading) :
    Except PythonError (Except BlockStoreReadBadOutcome Bytes) := do
  if s.errorCount = 0 then
    assertThat ((s.fetchResults.filter Option.isNone).length == 1)
    match s.fetchResults.getLast? with
    | none => .error .indexError
    | some last =>
      assertThat last.isNone
      assertThat (!s.fetchResults.any isBadOutcome)
      return .ok (← rebuildBlockFromChunks byteorder (s.fetchResults.dropLast.map bytesOf) none)
  else if s.errorCount = 1 then
    match s.fetchResults.getLast? with
    | none => .error .indexError
    | some checksum =>
      assertThat ((s.fetchResults.filter Option.isNone).length == 0)
      assertThat (isBytes checksum)
      assertThat ((s.fetchResults.map isBadOutcome).length == 1)
      return .ok (← rebuildBlockFromChunks byteorder (s.fetchResults.dropLast.map bytesOf)
        (bytesOf checksum))
  else return .error .storeUnavailable

def Reads (nodes : NodeOutcomes) (byteorder : ByteOrder) (count : Nat) (held : Held)
    (result : Except PythonError (Except BlockStoreReadBadOutcome Bytes)) : Prop :=
  ∃ s, Ends (partialBlockstoreRead nodes count held) (List.range (count - 1))
      ⟨0, List.replicate count none⟩ s ∧ result = readResult byteorder s

theorem nodeData_spec {byteorder : ByteOrder} {count : Nat} {block : Bytes} (two : 2 ≤ count)
    (fits : block.length < 256 ^ 4) :
    ∃ chunks checksum, splitBlockInChunks block (count - 1) = .ok chunks ∧
      Split block (count - 1) chunks ∧ generateChecksumChunk byteorder chunks = .ok checksum ∧
      nodeData byteorder count block = .ok (chunks ++ [checksum]) := by
  obtain ⟨chunks, run, split⟩ := split_spec (by omega : 0 < count - 1) fits
  obtain ⟨length, sameLength⟩ := split.sameLength
  obtain ⟨checksum, isChecksum⟩ : ∃ checksum,
      generateChecksumChunk byteorder chunks = .ok checksum := by
    have some : chunks ≠ [] := by
      rintro rfl
      have count := split.count
      simp only [List.length_nil] at count
      omega
    obtain ⟨first, rest, rfl⟩ := List.exists_cons_of_ne_nil some
    obtain ⟨out, isOut, -⟩ := @xorBuffers_spec byteorder first rest (by
      intro buffer member
      rw [sameLength first (by simp), sameLength buffer (by simp [member])])
    exact ⟨out, isOut⟩
  refine ⟨chunks, checksum, run, split, isChecksum, ?_⟩
  simp only [nodeData, run]
  change (do
    assertThat (chunks.length == count - 1)
    let checksumChunk ← generateChecksumChunk byteorder chunks
    return chunks ++ [checksumChunk]) = _
  rw [split.count, assertThat, if_pos (by simp), isChecksum]
  rfl

variable {nodes : NodeOutcomes} {byteorder : ByteOrder} {partialCreateOk : Bool} {count : Nat}
  {block : Bytes} {held : Held}

/-- What holds while the nodes are written. -/
structure CreateInvariant (nodes : NodeOutcomes) (partialCreateOk : Bool) (data : List Bytes)
    (group : Group Creating (Nat × Bytes)) : Prop where
  known : ∀ task ∈ group.pending, data[task.1]? = some task.2
  done : ∀ task : Nat × Bytes, data[task.1]? = some task.2 → task ∉ group.pending →
    nodes.createError task.1 = none → group.shared.held task.1 = some task.2
  holds : ∀ node chunk, group.shared.held node = some chunk → nodes.createError node = none
  cancels : group.cancelled = true → group.shared.errorCount > 1 ∨
    partialCreateOk = false ∧ group.shared.errorCount ≠ 0

theorem create_keeps {data : List Bytes} {shared : Creating} {before after : List (Nat × Bytes)}
    {task : Nat × Bytes} {cancelled : Bool}
    (kept : CreateInvariant nodes partialCreateOk data ⟨shared, before ++ task :: after, cancelled⟩) :
    CreateInvariant nodes partialCreateOk data
      ⟨(subBlockstoreCreate nodes partialCreateOk task shared).shared,
        before ++ after ++ (subBlockstoreCreate nodes partialCreateOk task shared).started,
        cancelled || (subBlockstoreCreate nodes partialCreateOk task shared).cancels⟩ := by
  have isData : data[task.1]? = some task.2 := kept.known task (by simp)
  have known : ∀ other ∈ before ++ after, data[other.1]? = some other.2 := by
    intro other member
    apply kept.known
    exact List.perm_middle.mem_iff.mpr (List.mem_cons_of_mem task member)
  have earlier : ∀ other, other ∉ before ++ after → other ≠ task →
      other ∉ before ++ task :: after := by
    intro other absent differ
    rw [List.perm_middle.mem_iff, List.mem_cons, not_or]
    exact ⟨differ, absent⟩
  cases outcome : nodes.createError task.1 with
  | some error =>
    simp only [subBlockstoreCreate, create_failed outcome, List.append_nil]
    refine ⟨known, ?_, kept.holds, ?_⟩
    · intro other isOther absent works
      have differ : other ≠ task := by
        rintro rfl
        rw [outcome] at works
        cases works
      exact kept.done other isOther (earlier other absent differ) works
    · intro isCancelled
      simp only [Bool.or_eq_true, decide_eq_true_eq, Bool.not_eq_true'] at isCancelled
      rcases isCancelled with already | many | strict
      · rcases kept.cancels already with many | ⟨strict, -⟩
        · exact Or.inl (Nat.lt_succ_of_lt many)
        · exact Or.inr ⟨strict, Nat.succ_ne_zero _⟩
      · exact Or.inl many
      · exact Or.inr ⟨strict, Nat.succ_ne_zero _⟩
  | none =>
    simp only [subBlockstoreCreate, create_stored outcome, List.append_nil, Bool.or_false]
    refine ⟨known, ?_, ?_, kept.cancels⟩
    · intro other isOther absent works
      change Function.update shared.held task.1 (some task.2) other.1 = some other.2
      by_cases sameNode : other.1 = task.1
      · rw [sameNode] at isOther ⊢
        rw [isData] at isOther
        rw [Function.update_self, Option.some.inj isOther]
      · rw [Function.update_of_ne sameNode]
        apply kept.done other isOther _ works
        apply earlier other absent
        rintro rfl
        exact sameNode rfl
    · intro node chunk isHeld
      change Function.update shared.held task.1 (some task.2) node = some chunk at isHeld
      by_cases sameNode : node = task.1
      · rw [sameNode]
        exact outcome
      · rw [Function.update_of_ne sameNode] at isHeld
        exact kept.holds node chunk isHeld

/-- After a create that is a success, each node that does not fail holds its data. -/
theorem creates_spec (creates : Creates nodes byteorder partialCreateOk count block none held) :
    ∃ data, nodeData byteorder count block = .ok data ∧
      (∀ node chunk, data[node]? = some chunk → nodes.createError node = none →
        held node = some chunk) ∧
      ∀ node chunk, held node = some chunk → nodes.createError node = none := by
  obtain ⟨data, final, isData, ends, success, rfl⟩ := creates
  obtain ⟨⟨shared, pending, cancelled⟩, kept, finished, rfl⟩ := ends.keeps
    (CreateInvariant nodes partialCreateOk data)
    { known := by
        intro task member
        obtain ⟨i, inZip, rfl⟩ := List.mem_iff_getElem.mp member
        simp only [List.getElem_zip, List.getElem_range]
        rw [List.getElem?_eq_getElem]
      done := by
        intro task isTask absent
        refine absurd (List.mem_iff_getElem.mpr ?_) absent
        obtain ⟨inside, isChunk⟩ := List.getElem?_eq_some_iff.mp isTask
        refine ⟨task.1, by simpa using inside, ?_⟩
        simp only [List.getElem_zip, List.getElem_range, isChunk]
      holds := by simp [noNode]
      cancels := by simp }
    fun _ _ _ _ _ => create_keeps
  refine ⟨data, isData, ?_, kept.holds⟩
  intro node chunk isChunk works
  have all : pending = [] := by
    rcases finished with all | isCancelled
    · exact all
    · have failed : createResult partialCreateOk shared ≠ none := by
        rcases kept.cancels isCancelled with many | ⟨strict, some⟩
        · cases partialCreateOk with
          | true => simp [createResult, show shared.errorCount > 1 from many]
          | false =>
            have some : shared.errorCount ≠ 0 := Nat.ne_of_gt (Nat.lt_of_succ_lt many)
            simp [createResult, some]
        · simp [createResult, strict, show shared.errorCount ≠ 0 from some]
      exact absurd success.symm failed
  exact kept.done (node, chunk) isChunk (by simp [all]) works

def Failed (nodes : NodeOutcomes) (node : Nat) : Prop :=
  nodes.createError node ≠ none ∨ nodes.readError node ≠ none

/-- How the nodes answer to a read after a create that is a success. -/
structure Answers (nodes : NodeOutcomes) (held : Held) (data : List Bytes) : Prop where
  error : ∀ node, Failed nodes node → ∃ error, nodes.read held node = .error error
  ok : ∀ node chunk, data[node]? = some chunk → ¬ Failed nodes node →
    nodes.read held node = .ok chunk

theorem answers_of_creates {data : List Bytes}
    (creates : Creates nodes byteorder partialCreateOk count block none held)
    (isData : nodeData byteorder count block = .ok data) : Answers nodes held data := by
  obtain ⟨created, isCreated, holds, works⟩ := creates_spec creates
  rw [isData] at isCreated
  cases isCreated
  constructor
  · intro node failed
    cases answer : nodes.read held node with
    | error error => exact ⟨error, rfl⟩
    | ok chunk =>
      obtain ⟨answers, isHeld⟩ := read_eq_ok answer
      rcases failed with atCreation | atRead
      · exact absurd (works node chunk isHeld) atCreation
      · exact absurd answers atRead
  · intro node chunk isChunk healthy
    rw [Failed, not_or, not_not, not_not] at healthy
    exact read_held healthy.2 (holds node chunk isChunk healthy.1)

/-- What holds while the nodes are read, when at most one of them fails. -/
structure ReadInvariant (nodes : NodeOutcomes) (count : Nat) (held : Held)
    (group : Group Reading Nat) : Prop where
  unique : group.pending.Nodup
  running : group.cancelled = false
  known : ∀ node ∈ group.pending, node < count - 1 ∨
    node = count - 1 ∧ group.shared.errorCount = 1
  length : group.shared.fetchResults.length = count
  waiting : ∀ node < count, node ∈ group.pending ∨ node = count - 1 ∧ group.shared.errorCount = 0 →
    group.shared.fetchResults[node]? = some none
  fetched : ∀ node < count, node ∉ group.pending →
    (node = count - 1 → group.shared.errorCount ≠ 0) →
    group.shared.fetchResults[node]? = some (some (nodes.read held node))
  noError : group.shared.errorCount = 0 → ∀ node < count - 1, node ∉ group.pending →
    ¬ Failed nodes node
  oneError : group.shared.errorCount ≠ 0 → group.shared.errorCount = 1 ∧
    ∃ node < count - 1, node ∉ group.pending ∧ Failed nodes node

theorem read_keeps {data : List Bytes} (answers : Answers nodes held data)
    (isCount : data.length = count) (three : 3 ≤ count)
    (single : ∀ a b, a < count → b < count → Failed nodes a → Failed nodes b → a = b)
    {shared : Reading} {before after : List Nat} {node : Nat} {cancelled : Bool}
    (kept : ReadInvariant nodes count held ⟨shared, before ++ node :: after, cancelled⟩) :
    ReadInvariant nodes count held
      ⟨(partialBlockstoreRead nodes count held node shared).shared,
        before ++ after ++ (partialBlockstoreRead nodes count held node shared).started,
        cancelled || (partialBlockstoreRead nodes count held node shared).cancels⟩ := by
  obtain ⟨unique, running, known, length, waiting, fetched, noError, oneError⟩ := kept
  change cancelled = false at running
  change shared.fetchResults.length = count at length
  change shared.errorCount = 0 → _ at noError
  change shared.errorCount ≠ 0 → shared.errorCount = 1 ∧ _ at oneError
  have isNode : node < count := by
    rcases known node (by simp) with isData | ⟨isChecksum, -⟩ <;> omega
  obtain ⟨absent, rest⟩ := List.nodup_cons.mp (List.perm_middle.nodup_iff.mp unique)
  have pending : ∀ other, other ∈ before ++ node :: after ↔ other = node ∨ other ∈ before ++ after := by
    intro other
    rw [List.mem_append, List.mem_cons, List.mem_append]
    exact or_left_comm
  cases answer : nodes.read held node with
  | ok chunk =>
    have healthy : ¬ Failed nodes node := by
      intro failed
      obtain ⟨error, isError⟩ := answers.error node failed
      rw [answer] at isError
      cases isError
    simp only [partialBlockstoreRead, answer, List.append_nil, Bool.or_false]
    refine ⟨rest, running, ?_, ?_, ?_, ?_, ?_, ?_⟩
    · intro other member
      exact known other ((pending other).mpr (Or.inr member))
    · rw [List.length_set, length]
    · intro other isOther waits
      have differ : other ≠ node := by
        rintro rfl
        rcases waits with member | ⟨isChecksum, none⟩
        · exact absent member
        · rcases known other (by simp) with isData | ⟨-, one⟩
          · omega
          · rw [show shared.errorCount = 0 from none] at one
            cases one
      rw [List.getElem?_set_ne (Ne.symm differ)]
      apply waiting other isOther
      rcases waits with member | isLast
      · exact Or.inl ((pending other).mpr (Or.inr member))
      · exact Or.inr isLast
    · intro other isOther notPending isLast
      by_cases same : other = node
      · rw [same, List.getElem?_set_self (by rw [length]; exact isNode), answer]
      · rw [List.getElem?_set_ne (Ne.symm same)]
        apply fetched other isOther _ isLast
        rw [pending, not_or]
        exact ⟨same, notPending⟩
    · intro none other isOther notPending
      by_cases same : other = node
      · rw [same]
        exact healthy
      · apply noError none other isOther
        rw [pending, not_or]
        exact ⟨same, notPending⟩
    · intro some
      obtain ⟨one, other, isOther, notPending, failed⟩ := oneError some
      rw [pending, not_or] at notPending
      exact ⟨one, other, isOther, notPending.2, failed⟩
  | error error =>
    have failed : Failed nodes node := by
      by_contra healthy
      rw [answers.ok node _ (List.getElem?_eq_getElem (isCount ▸ isNode)) healthy] at answer
      cases answer
    have first : shared.errorCount = 0 := by
      by_contra some
      obtain ⟨-, other, isOther, notPending, alsoFailed⟩ := oneError some
      have same := single other node (by omega) isNode alsoFailed failed
      rw [same] at notPending
      exact notPending (by simp)
    have isData : node < count - 1 := by
      rcases known node (by simp) with isData | ⟨-, one⟩
      · exact isData
      · rw [show shared.errorCount = 0 from first] at one
        cases one
    have others : ∀ other ∈ before ++ after, other < count - 1 := by
      intro other member
      rcases known other ((pending other).mpr (Or.inr member)) with isOther | ⟨-, one⟩
      · exact isOther
      · rw [show shared.errorCount = 0 from first] at one
        cases one
    simp only [partialBlockstoreRead, answer, first, gt_iff_lt, Nat.zero_add, Nat.lt_irrefl, if_false,
      Bool.or_false]
    refine ⟨?_, running, ?_, ?_, ?_, ?_, ?_, ?_⟩
    · rw [List.nodup_append]
      refine ⟨rest, by simp, ?_⟩
      intro other member last isLast
      rw [List.mem_singleton.mp isLast]
      exact Nat.ne_of_lt (others other member)
    · intro other member
      rcases List.mem_append.mp member with isOther | isLast
      · exact Or.inl (others other isOther)
      · exact Or.inr ⟨List.mem_singleton.mp isLast, rfl⟩
    · rw [List.length_set, length]
    · intro other isOther waits
      rcases waits with member | ⟨-, none⟩
      · have differ : other ≠ node := by
          rintro rfl
          rcases List.mem_append.mp member with isPending | isLast
          · exact absent isPending
          · rw [List.mem_singleton] at isLast
            omega
        rw [List.getElem?_set_ne (Ne.symm differ)]
        apply waiting other isOther
        rcases List.mem_append.mp member with isPending | isLast
        · exact Or.inl ((pending other).mpr (Or.inr isPending))
        · exact Or.inr ⟨List.mem_singleton.mp isLast, first⟩
      · cases none
    · intro other isOther notPending isLast
      rw [List.mem_append, List.mem_singleton, not_or] at notPending
      by_cases same : other = node
      · rw [same, List.getElem?_set_self (by rw [length]; exact isNode), answer]
      · rw [List.getElem?_set_ne (Ne.symm same)]
        apply fetched other isOther
        · rw [pending, not_or]
          exact ⟨same, notPending.1⟩
        · exact fun last => absurd last notPending.2
    · intro none
      cases none
    · intro _
      refine ⟨rfl, node, isData, ?_, failed⟩
      rw [List.mem_append, List.mem_singleton, not_or]
      exact ⟨absent, Nat.ne_of_lt isData⟩

theorem readResult_all {chunks : List Bytes} {nbChunks : Nat} (split : Split block nbChunks chunks)
    (fits : block.length < 256 ^ 4) :
    readResult byteorder ⟨0, chunks.map (fun chunk => some (.ok chunk)) ++ [none]⟩ =
      .ok (.ok block) := by
  have missing : ((chunks.map fun chunk => (some (.ok chunk) : FetchResult)).filter
      Option.isNone) = [] := by
    rw [List.filter_eq_nil_iff]
    simp
  have bad : (chunks.map fun chunk => (some (.ok chunk) : FetchResult)).any isBadOutcome = false := by
    rw [List.any_eq_false]
    simp [isBadOutcome]
  have fetched : (chunks.map fun chunk => (some (.ok chunk) : FetchResult)).map bytesOf =
      chunks.map some := by
    rw [List.map_map]
    rfl
  simp only [readResult, if_true, List.filter_append, missing, List.getLast?_concat,
    List.dropLast_concat, List.any_append, bad, fetched, rebuild_all split fits]
  rfl

/-- With an error the last sanity check of the degraded mode fails. -/
theorem readResult_degraded {results : List FetchResult} (many : 1 < results.length) :
    readResult byteorder ⟨1, results⟩ = .error .assertionError := by
  have wrong : ((results.map isBadOutcome).length == 1) = false := by
    rw [List.length_map, beq_eq_false_iff_ne]
    omega
  simp only [readResult, Nat.one_ne_zero, if_false, if_true]
  cases last : results.getLast? with
  | none =>
    rw [List.getLast?_eq_none_iff] at last
    simp [last] at many
  | some checksum =>
    simp only [wrong]
    cases complete : (results.filter Option.isNone).length == 0 with
    | false => rfl
    | true =>
      cases answered : isBytes checksum with
      | false => rfl
      | true => rfl

theorem reads_spec {chunks : List Bytes} {checksum : Bytes}
    (answers : Answers nodes held (chunks ++ [checksum])) (split : Split block (count - 1) chunks)
    (fits : block.length < 256 ^ 4) (three : 3 ≤ count)
    (single : ∀ a b, a < count → b < count → Failed nodes a → Failed nodes b → a = b)
    {result : Except PythonError (Except BlockStoreReadBadOutcome Bytes)}
    (reads : Reads nodes byteorder count held result) :
    ((∀ node < count - 1, ¬ Failed nodes node) → result = .ok (.ok block)) ∧
      ((∃ node < count - 1, Failed nodes node) → result = .error .assertionError) := by
  have isCount : (chunks ++ [checksum]).length = count := by
    rw [List.length_append, List.length_singleton, split.count]
    omega
  obtain ⟨final, ends, rfl⟩ := reads
  obtain ⟨⟨⟨errorCount, results⟩, pending, cancelled⟩, kept, finished, rfl⟩ := ends.keeps
    (ReadInvariant nodes count held)
    { unique := List.nodup_range
      running := rfl
      known := fun node member => Or.inl (List.mem_range.mp member)
      length := by simp
      waiting := by
        intro node isNode _
        simp [isNode]
      fetched := by
        intro node isNode absent isLast
        simp only [List.mem_range] at absent
        exact absurd rfl (isLast (by omega))
      noError := fun _ node isNode absent => absurd (List.mem_range.mpr isNode) absent
      oneError := fun some => absurd rfl some }
    fun _ _ _ _ _ => read_keeps answers isCount three single
  have all : pending = [] := by
    rcases finished with all | isCancelled
    · exact all
    · rw [show cancelled = false from kept.running] at isCancelled
      cases isCancelled
  subst all
  cases errorCount with
  | zero =>
    have healthy : ∀ node < count - 1, ¬ Failed nodes node :=
      fun node isNode => kept.noError rfl node isNode (by simp)
    have isResults : results = chunks.map (fun chunk => some (.ok chunk)) ++ [none] := by
      apply List.ext_getElem?
      intro node
      by_cases isData : node < count - 1
      · have inside : node < chunks.length := split.count ▸ isData
        have found : (chunks ++ [checksum])[node]? = some chunks[node] := by
          rw [List.getElem?_append_left inside, List.getElem?_eq_getElem inside]
        have fetched := kept.fetched node (by omega) (by simp) (by omega)
        rw [answers.ok node _ found (healthy node isData)] at fetched
        rw [List.getElem?_append_left (by simpa using inside)]
        simpa [inside] using fetched
      · by_cases isLast : node = count - 1
        · have waiting := kept.waiting node (by omega) (Or.inr ⟨isLast, rfl⟩)
          have here : node = (chunks.map fun chunk => (some (.ok chunk) : FetchResult)).length := by
            rw [List.length_map, split.count, isLast]
          rw [show results[node]? = _ from waiting, here, List.getElem?_concat_length]
        · have length : results.length = count := kept.length
          rw [List.getElem?_eq_none (by omega), List.getElem?_eq_none]
          rw [List.length_append, List.length_map, split.count, List.length_singleton]
          omega
    refine ⟨fun _ => ?_, ?_⟩
    · rw [isResults]
      exact readResult_all split fits
    · rintro ⟨node, isNode, failed⟩
      exact absurd failed (healthy node isNode)
  | succ errors =>
    obtain ⟨one, node, isNode, -, failed⟩ := kept.oneError (Nat.succ_ne_zero _)
    have length : results.length = count := kept.length
    have isOne : errors + 1 = 1 := one
    refine ⟨fun healthy => absurd failed (healthy node isNode), fun _ => ?_⟩
    change readResult byteorder ⟨errors + 1, results⟩ = _
    rw [isOne]
    exact readResult_degraded (by omega)

theorem read_ends (nodes : NodeOutcomes) (byteorder : ByteOrder) (count : Nat) (held : Held) :
    ∃ result, Reads nodes byteorder count held result := by
  obtain ⟨final, ends⟩ := ends_of_measure (partialBlockstoreRead nodes count held)
    (fun shared pending => pending.length + (1 - shared.errorCount)) (by
      intro shared before node after
      unfold partialBlockstoreRead
      split
      · simp only [List.length_append, List.length_cons, List.length_nil]
        omega
      · by_cases second : shared.errorCount + 1 > 1
        · simp only [second, if_true, List.length_append, List.length_cons, List.length_nil]
          omega
        · simp only [second, if_false, List.length_append, List.length_cons, List.length_nil]
          omega)
    (List.range (count - 1)) ⟨0, List.replicate count none⟩
  exact ⟨_, final, ends, rfl⟩

theorem create_succeeds (byteorder : ByteOrder) (partialCreateOk : Bool)
    (works : ∀ node, nodes.createError node = none) (two : 2 ≤ count)
    (fits : block.length < 256 ^ 4) :
    ∃ held, Creates nodes byteorder partialCreateOk count block none held := by
  obtain ⟨chunks, checksum, -, -, -, isData⟩ := @nodeData_spec byteorder count block two fits
  obtain ⟨final, ends⟩ := ends_of_measure (subBlockstoreCreate nodes partialCreateOk)
    (fun _ pending => pending.length) (by
      intro shared before task after
      simp [subBlockstoreCreate, create_stored (works task.1)])
    ((List.range (chunks ++ [checksum]).length).zip (chunks ++ [checksum])) ⟨0, noNode⟩
  obtain ⟨group, noError, -, rfl⟩ := ends.keeps (fun group => group.shared.errorCount = 0) rfl
    (by
      intro shared before task after cancelled noError
      simp only [subBlockstoreCreate, create_stored (works task.1)]
      exact noError)
  refine ⟨_, _, group.shared, isData, ends, ?_, rfl⟩
  simp [createResult, noError]

/-- After a create that is a success, with at most one node that fails at creation or at read, each
    read gives the block back. -/
def SurvivesOneLoss (nodes : NodeOutcomes) (byteorder : ByteOrder) (count : Nat) (block : Bytes)
    (held : Held) : Prop :=
  (∃ result, Reads nodes byteorder count held result) ∧
  ∀ result, Reads nodes byteorder count held result → result = .ok (.ok block)

/-- The chunks of the block without one of them, and the checksum, give the block back. -/
def Rebuilt (byteorder : ByteOrder) (count : Nat) (block : Bytes) : Prop :=
  ∃ chunks checksum, splitBlockInChunks block (count - 1) = .ok chunks ∧
    generateChecksumChunk byteorder chunks = .ok checksum ∧ chunks.length = count - 1 ∧
    ∀ missing < count - 1,
      rebuildBlockFromChunks byteorder ((chunks.map some).set missing none) (some checksum) =
        .ok block

/-- The loss of one node is survived if and only if the node is not one of the data nodes. -/
theorem survives_iff (nodes : NodeOutcomes) (byteorder : ByteOrder) (partialCreateOk : Bool)
    (count : Nat) (block : Bytes) (held : Held) (three : 3 ≤ count)
    (fits : block.length < 256 ^ 4)
    (creates : Creates nodes byteorder partialCreateOk count block none held)
    (single : ∀ a b, a < count → b < count → Failed nodes a → Failed nodes b → a = b) :
    (SurvivesOneLoss nodes byteorder count block held ↔
      ∀ node < count - 1, ¬ Failed nodes node) ∧
    Rebuilt byteorder count block := by
  obtain ⟨chunks, checksum, run, split, isChecksum, isData⟩ :=
    @nodeData_spec byteorder count block (by omega) fits
  have answers := answers_of_creates creates isData
  refine ⟨⟨?_, ?_⟩, chunks, checksum, run, isChecksum, split.count, ?_⟩
  · intro survives node isNode failed
    obtain ⟨result, reads⟩ := survives.1
    have isBlock := survives.2 result reads
    have fails := (reads_spec answers split fits three single reads).2 ⟨node, isNode, failed⟩
    rw [isBlock] at fails
    cases fails
  · intro healthy
    refine ⟨read_ends nodes byteorder count held, ?_⟩
    intro result reads
    exact (reads_spec answers split fits three single reads).1 healthy
  · intro missing isChunk
    exact rebuild_missing split fits isChecksum isChunk

theorem working_nodes_survive : ∃ held,
    Creates workingNodes .little false 3 [7] none held ∧
      SurvivesOneLoss workingNodes .little 3 [7] held := by
  have fits : ([7] : Bytes).length < 256 ^ 4 := by decide
  obtain ⟨held, creates⟩ := @create_succeeds workingNodes 3 [7] .little false (fun _ => rfl)
    (by decide) fits
  have healthy : ∀ node, ¬ Failed workingNodes node := by
    intro node failed
    rcases failed with atCreation | atRead
    · exact atCreation rfl
    · exact atRead rfl
  have survives := survives_iff workingNodes .little false 3 [7] held (by decide) fits creates
    (fun node _ _ _ failed _ => absurd failed (healthy node))
  exact ⟨held, creates, survives.1.mpr fun node _ => healthy node⟩

def firstNodeLost : NodeOutcomes :=
  ⟨fun _ => none, fun node => if node = 0 then some .storeUnavailable else none⟩

theorem failed_firstNodeLost {node : Nat} (failed : Failed firstNodeLost node) : node = 0 := by
  rcases failed with atCreation | atRead
  · exact absurd rfl atCreation
  · by_contra other
    exact atRead (if_neg other)

theorem first_node_not_survived : ∃ held,
    Creates firstNodeLost .little false 3 [7] none held ∧
      (∀ a b, a < 3 → b < 3 → Failed firstNodeLost a → Failed firstNodeLost b → a = b) ∧
      Reads firstNodeLost .little 3 held (.error .assertionError) ∧
      ¬ SurvivesOneLoss firstNodeLost .little 3 [7] held := by
  have fits : ([7] : Bytes).length < 256 ^ 4 := by decide
  obtain ⟨held, creates⟩ := @create_succeeds firstNodeLost 3 [7] .little false (fun _ => rfl)
    (by decide) fits
  have single : ∀ a b, a < 3 → b < 3 → Failed firstNodeLost a → Failed firstNodeLost b → a = b := by
    intro a b _ _ failedA failedB
    rw [failed_firstNodeLost failedA, failed_firstNodeLost failedB]
  obtain ⟨chunks, checksum, -, split, -, isData⟩ := @nodeData_spec .little 3 [7] (by decide) fits
  obtain ⟨result, reads⟩ := read_ends firstNodeLost .little 3 held
  have fails := (reads_spec (answers_of_creates creates isData) split fits (by decide) single
    reads).2 ⟨0, by decide, Or.inr (by simp [firstNodeLost])⟩
  rw [fails] at reads
  refine ⟨held, creates, single, reads, ?_⟩
  intro survives
  cases survives.2 _ reads

end RAID5

end ParsecCloud
