import ParsecCloud.Merge.FolderMerge
import ParsecCloud.Transactions.InboundConflict
import ParsecCloud.Lib.Runs

/- The inbound sync of an entry whose last version may be invalid (transactions/inbound_sync.rs). The
   last valid version is then searched for backwards, down to the one the local manifest is based
   on, and takes the number of the last version. A client syncs the entry once at a time, as its
   monitor does; the server and the other clients go on between any two of its steps. -/
namespace ParsecCloud
open Rust Runs LocalFolderManifest UnconfinedLocalFolderManifest

def ChildManifest.version : ChildManifest → Nat
  | file manifest => manifest.version
  | folder manifest => manifest.version

/-- The manifest that pretends to be another version. -/
def ChildManifest.withVersion (version : Nat) : ChildManifest → ChildManifest
  | file manifest => file { manifest with version := version }
  | folder manifest => folder { manifest with version := version }

@[simp] theorem ChildManifest.version_withVersion (version : Nat) (manifest : ChildManifest) :
    (manifest.withVersion version).version = version := by
  cases manifest with
  | file manifest => rfl
  | folder manifest => rfl

@[simp] theorem ChildManifest.withVersion_withVersion (version version' : Nat)
    (manifest : ChildManifest) :
    (manifest.withVersion version').withVersion version = manifest.withVersion version := by
  cases manifest with
  | file manifest => rfl
  | folder manifest => rfl

theorem ChildManifest.withVersion_version (manifest : ChildManifest) :
    manifest.withVersion manifest.version = manifest := by
  cases manifest with
  | file manifest => rfl
  | folder manifest => rfl

def LocalChildManifest.base : LocalChildManifest → ChildManifest
  | file manifest => .file manifest.base
  | folder manifest => .folder manifest.base

/-- What a client merges with: its device and its clock, its pattern, and the orders in which it walks
    through its maps. -/
structure MergeContext where
  nfc : List Char → List Char
  childrenOrders : ChildrenOrders
  orders : FolderOrders
  deviceId : DeviceID
  now : DateTime
  preventSyncPattern : PreventSyncPattern

/-- The manifest of the entry once the remote one is merged, none when nothing changes. An entry that
    has changed its type is in conflict, and so may be a file with local changes. -/
def mergeManifestAndUpdateStore (context : MergeContext) (localManifest : LocalChildManifest)
    (remoteManifest : ChildManifest) : Checked (Option LocalChildManifest) :=
  match localManifest, remoteManifest with
  | .folder manifest, .folder remote => do
    match ← mergeLocalFolderManifest context.nfc context.childrenOrders context.orders
        context.deviceId context.now context.preventSyncPattern manifest remote with
    | .noChange => return none
    | .merged merged => return some (.folder merged)
  | .file manifest, .file remote => do
    match ← mergeLocalFileManifest context.deviceId context.now manifest remote with
    | .noChange => return none
    | .merged merged => return some (.file merged)
    | .conflict remote => return some (← (ChildManifest.file remote).fromRemote
        context.preventSyncPattern)
  | .folder _, .file remote => do
    return some (← (ChildManifest.file remote).fromRemote context.preventSyncPattern)
  | .file _, .folder remote => do
    return some (← (ChildManifest.folder remote).fromRemote context.preventSyncPattern)

section Merge
variable {context : MergeContext}

theorem evolveChildrenAndMarkUpdated_base {orders : FolderOrders} {data : ChildrenChanges}
    {pattern : PreventSyncPattern} {timestamp : DateTime} {m m' : LocalFolderManifest}
    (ok : m.evolveChildrenAndMarkUpdated orders data pattern timestamp = .ok m') :
    m'.base = m.base := by
  unfold evolveChildrenAndMarkUpdated at ok
  obtain ⟨removed, -, ok⟩ := bind_eq_ok.mp ok
  obtain ⟨-, -, ok⟩ := bind_eq_ok.mp ok
  dsimp only at ok
  split at ok
  · cases ok
    rfl
  · cases ok
    rfl

theorem applyConfinement_base {orders : FolderOrders} {m : UnconfinedLocalFolderManifest}
    {existing m' : LocalFolderManifest} {pattern : PreventSyncPattern} {timestamp : DateTime}
    (ok : m.applyConfinement orders existing pattern timestamp = .ok m') : m'.base = m.base := by
  unfold applyConfinement at ok
  dsimp only at ok
  split at ok
  · exact evolveChildrenAndMarkUpdated_base ok
  · cases ok
    rfl

/-- A folder is always based on the newer remote one afterwards, with its local changes or not. -/
theorem mergeLocalFolderManifest_base {nfc : List Char → List Char}
    {childrenOrders : ChildrenOrders} {orders : FolderOrders} {localAuthor : DeviceID}
    {timestamp : DateTime} {pattern : PreventSyncPattern} {m : LocalFolderManifest}
    {remote : FolderManifest} {outcome : MergeLocalFolderManifestOutcome}
    (ok : mergeLocalFolderManifest nfc childrenOrders orders localAuthor timestamp pattern m remote =
      .ok outcome) :
    (outcome = .noChange ∧ remote.version ≤ m.base.version) ∨
      ∃ m', outcome = .merged m' ∧ m'.base = remote := by
  unfold mergeLocalFolderManifest at ok
  obtain ⟨-, -, ok⟩ := bind_eq_ok.mp ok
  split at ok
  · rename_i outdated
    cases ok
    exact .inl ⟨rfl, outdated⟩
  · right
    dsimp only at ok
    split at ok
    · obtain ⟨m', applied, ok⟩ := bind_eq_ok.mp ok
      cases ok
      exact ⟨m', rfl, applyConfinement_base applied⟩
    · split at ok
      · obtain ⟨m', applied, ok⟩ := bind_eq_ok.mp ok
        cases ok
        exact ⟨m', rfl, applyConfinement_base applied⟩
      · obtain ⟨unconfined, merged, ok⟩ := bind_eq_ok.mp ok
        obtain ⟨m', applied, ok⟩ := bind_eq_ok.mp ok
        cases ok
        refine ⟨m', rfl, (applyConfinement_base applied).trans ?_⟩
        unfold mergeUnconfined at merged
        obtain ⟨mergedChildren, -, merged⟩ := bind_eq_ok.mp merged
        cases merged
        rfl

theorem fileFromRemote_base {remote : FileManifest} {m : LocalFileManifest}
    (ok : LocalFileManifest.fromRemote remote = .ok m) :
    m.base = remote ∧ m.needSync = false := by
  unfold LocalFileManifest.fromRemote at ok
  obtain ⟨views, -, ok⟩ := bind_eq_ok.mp ok
  obtain ⟨outcome, -, ok⟩ := bind_eq_ok.mp ok
  split at ok
  · cases ok
    exact ⟨rfl, rfl⟩
  · cases ok

theorem mergeLocalFileManifest_base {localAuthor : DeviceID} {timestamp : DateTime}
    {m : LocalFileManifest} {remote : FileManifest} {outcome : MergeLocalFileManifestOutcome}
    (unchanged : m.needSync = false)
    (ok : mergeLocalFileManifest localAuthor timestamp m remote = .ok outcome) :
    (outcome = .noChange ∧ remote.version ≤ m.base.version) ∨
      ∃ m', outcome = .merged m' ∧ m'.base = remote ∧ m'.needSync = false := by
  unfold mergeLocalFileManifest at ok
  obtain ⟨-, -, ok⟩ := bind_eq_ok.mp ok
  split at ok
  · rename_i outdated
    cases ok
    exact .inl ⟨rfl, outdated⟩
  · right
    obtain ⟨m', applied, ok⟩ := bind_eq_ok.mp ok
    cases ok
    exact ⟨m', rfl, fileFromRemote_base applied⟩

/-- A client holds the entry without local change. The children of a folder may be merged, so that
    only a file has to be without. -/
def LocalChildManifest.Unchanged : LocalChildManifest → Prop
  | file manifest => manifest.needSync = false
  | folder _ => True

theorem fromRemote_base {pattern : PreventSyncPattern} {remote : ChildManifest}
    {manifest : LocalChildManifest} (ok : remote.fromRemote pattern = .ok manifest) :
    manifest.base = remote ∧ manifest.Unchanged := by
  cases remote with
  | file remote =>
    obtain ⟨m, isFile, ok⟩ := bind_eq_ok.mp ok
    cases ok
    obtain ⟨isBase, unchanged⟩ := fileFromRemote_base isFile
    exact ⟨congrArg ChildManifest.file isBase, unchanged⟩
  | folder remote =>
    cases ok
    exact ⟨rfl, trivial⟩

theorem mergeManifestAndUpdateStore_base {localManifest : LocalChildManifest}
    {remote : ChildManifest} {outcome : Option LocalChildManifest}
    (unchanged : localManifest.Unchanged)
    (ok : mergeManifestAndUpdateStore context localManifest remote = .ok outcome) :
    (outcome = none ∧ remote.version ≤ localManifest.base.version) ∨
      ∃ merged, outcome = some merged ∧ merged.base = remote ∧ merged.Unchanged := by
  have replaced : ∀ (result : Checked LocalChildManifest), result =
      remote.fromRemote context.preventSyncPattern →
      (do return some (← result)) = Except.ok (ε := Panic) outcome →
      ∃ merged, outcome = some merged ∧ merged.base = remote ∧ merged.Unchanged := by
    intro result isResult ok
    obtain ⟨merged, isMerged, ok⟩ := bind_eq_ok.mp ok
    cases ok
    rw [isResult] at isMerged
    exact ⟨merged, rfl, fromRemote_base isMerged⟩
  cases localManifest with
  | folder manifest =>
    cases remote with
    | folder remote =>
      obtain ⟨result, isResult, ok⟩ := bind_eq_ok.mp ok
      rcases mergeLocalFolderManifest_base isResult with ⟨isSame, outdated⟩ | ⟨m', isMerged, isBase⟩
      · rw [isSame] at ok
        cases ok
        exact .inl ⟨rfl, outdated⟩
      · rw [isMerged] at ok
        cases ok
        exact .inr ⟨.folder m', rfl, congrArg ChildManifest.folder isBase, trivial⟩
    | file remote => exact .inr (replaced _ rfl ok)
  | file manifest =>
    cases remote with
    | file remote =>
      obtain ⟨result, isResult, ok⟩ := bind_eq_ok.mp ok
      rcases mergeLocalFileManifest_base unchanged isResult with
        ⟨isSame, outdated⟩ | ⟨m', isMerged, isBase, clean⟩
      · rw [isSame] at ok
        cases ok
        exact .inl ⟨rfl, outdated⟩
      · rw [isMerged] at ok
        cases ok
        exact .inr ⟨.file m', rfl, congrArg ChildManifest.file isBase, clean⟩
    | folder remote => exact .inr (replaced _ rfl ok)

end Merge

/-- The versions that the server has of the entry, the first one first. An invalid version is refused
    by every client. -/
abbrev VlobVersions := List (Option ChildManifest)

namespace VlobVersions
variable {versions : VlobVersions}

/-- The manifest of a version, none when it is invalid. Versions begin at one. -/
def valid (versions : VlobVersions) : Nat → Option ChildManifest
  | 0 => none
  | k + 1 => (versions[k]?).join

/-- A manifest that is accepted has the number that the server gives it. -/
structure Numbered (versions : VlobVersions) : Prop where
  version : ∀ k manifest, versions.valid k = some manifest → manifest.version = k
  first : ∃ manifest, versions.valid 1 = some manifest

/-- The manifest of the greatest valid version up to a number. -/
def GreatestValid (versions : VlobVersions) (n : Nat) (manifest : ChildManifest) : Prop :=
  ∃ k ≤ n, versions.valid k = some manifest ∧ ∀ j, k < j → j ≤ n → versions.valid j = none

/-- A manifest that carries the greatest valid version up to its number, under its number. -/
structure Carries (versions : VlobVersions) (base : ChildManifest) : Prop where
  reached : base.version ≤ versions.length
  content : ∃ manifest, versions.GreatestValid base.version manifest ∧
    base = manifest.withVersion base.version

theorem valid_append {k : Nat} (below : k ≤ versions.length) (new : Option ChildManifest) :
    valid (versions ++ [new]) k = versions.valid k := by
  cases k with
  | zero => rfl
  | succ k =>
    rw [valid, valid, List.getElem?_append_left below]

theorem GreatestValid.unique {n : Nat} {manifest manifest' : ChildManifest}
    (greatest : versions.GreatestValid n manifest)
    (greatest' : versions.GreatestValid n manifest') : manifest = manifest' := by
  obtain ⟨k, below, isValid, later⟩ := greatest
  obtain ⟨k', below', isValid', later'⟩ := greatest'
  rcases Nat.lt_trichotomy k k' with isLess | isSame | isMore
  · rw [later k' isLess below'] at isValid'
    cases isValid'
  · rw [isSame, isValid'] at isValid
    exact (Option.some.inj isValid).symm
  · rw [later' k isMore below] at isValid
    cases isValid

theorem GreatestValid.of_valid {n : Nat} {manifest : ChildManifest}
    (isValid : versions.valid n = some manifest) : versions.GreatestValid n manifest := by
  refine ⟨n, Nat.le_refl n, isValid, ?_⟩
  intro j above below
  omega

theorem GreatestValid.skip {n m : Nat} {manifest : ChildManifest}
    (greatest : versions.GreatestValid n manifest) (below : n ≤ m)
    (invalid : ∀ j, n < j → j ≤ m → versions.valid j = none) :
    versions.GreatestValid m manifest := by
  obtain ⟨k, isBelow, isValid, later⟩ := greatest
  refine ⟨k, isBelow.trans below, isValid, ?_⟩
  intro j above upTo
  by_cases inside : j ≤ n
  · exact later j above inside
  · exact invalid j (Nat.lt_of_not_le inside) upTo

theorem GreatestValid.append {n : Nat} {manifest : ChildManifest} (below : n ≤ versions.length)
    (greatest : versions.GreatestValid n manifest) (new : Option ChildManifest) :
    GreatestValid (versions ++ [new]) n manifest := by
  obtain ⟨k, isBelow, isValid, later⟩ := greatest
  refine ⟨k, isBelow, ?_, ?_⟩
  · rw [valid_append (isBelow.trans below)]
    exact isValid
  · intro j above upTo
    rw [valid_append (upTo.trans below)]
    exact later j above upTo

theorem Carries.append {base : ChildManifest} (carries : versions.Carries base)
    (new : Option ChildManifest) : Carries (versions ++ [new]) base := by
  obtain ⟨manifest, greatest, isBase⟩ := carries.content
  constructor
  · rw [List.length_append]
    exact Nat.le_add_right_of_le carries.reached
  · exact ⟨manifest, greatest.append carries.reached new, isBase⟩

theorem Carries.of_greatest {n : Nat} {manifest : ChildManifest} (reached : n ≤ versions.length)
    (greatest : versions.GreatestValid n manifest) :
    versions.Carries (manifest.withVersion n) := by
  constructor
  · rw [ChildManifest.version_withVersion]
    exact reached
  · rw [ChildManifest.version_withVersion]
    exact ⟨manifest, greatest, rfl⟩

theorem Numbered.append (numbered : versions.Numbered) {new : Option ChildManifest}
    (isNext : ∀ manifest, new = some manifest → manifest.version = versions.length + 1) :
    Numbered (versions ++ [new]) := by
  obtain ⟨firstManifest, isFirst⟩ := numbered.first
  have positive : 1 ≤ versions.length := by
    cases versions with
    | nil => cases isFirst
    | cons first rest => exact Nat.le_add_left 1 _
  constructor
  · intro k manifest isValid
    by_cases below : k ≤ versions.length
    · rw [valid_append below] at isValid
      exact numbered.version k manifest isValid
    · cases k with
      | zero => cases isValid
      | succ k =>
        rw [valid] at isValid
        by_cases isLast : k = versions.length
        · rw [isLast, List.getElem?_concat_length] at isValid
          rw [isLast]
          exact isNext manifest isValid
        · rw [List.getElem?_eq_none] at isValid
          · cases isValid
          · rw [List.length_append, List.length_singleton]
            omega
  · use firstManifest
    rw [valid_append positive]
    exact isFirst

end VlobVersions

/-- Where a client is in its sync. The number is the last version of the server when it was fetched. -/
inductive HealPhase where
  | idle
  | invalid (lastVersion : Nat)
  | searching (lastVersion localBaseVersion : Nat) (localBase : ChildManifest)
      (candidateVersion : Nat)
  | fetched (lastVersion : Nat) (remote : ChildManifest)

/-- A client with the entry, and the last version of the server when it fetched it for the last sync
    that it has completed. -/
structure HealClient where
  manifest : LocalChildManifest
  phase : HealPhase
  lastFetch : Option Nat

structure HealSystem (ι : Type) where
  versions : VlobVersions
  clients : ι → HealClient

inductive HealAction (ι : Type) where
  | upload (new : Option ChildManifest)
  | fetchLastVersion (i : ι)
  | readLocal (i : ι)
  | fetchCandidate (i : ι)
  | merge (i : ι) (context : MergeContext)
  | giveUp (i : ι)

namespace HealSystem
variable {ι : Type} [DecidableEq ι]

def setClient (s : HealSystem ι) (i : ι) (client : HealClient) : HealSystem ι :=
  { s with clients := Function.update s.clients i client }

/-- The client goes on to another phase. -/
def setPhase (s : HealSystem ι) (i : ι) (phase : HealPhase) : HealSystem ι :=
  s.setClient i { s.clients i with phase := phase }

def fetchRemoteManifestLastVersion (versions : VlobVersions) : HealPhase :=
  match versions.valid versions.length with
  | some manifest => .fetched versions.length manifest
  | none => .invalid versions.length

/-- One round of the search: a candidate is tried, and the local base is taken when none is left. -/
def findLastValidManifest (versions : VlobVersions) (lastVersion localBaseVersion : Nat)
    (localBase : ChildManifest) (candidateVersion : Nat) : HealPhase :=
  if candidateVersion ≤ localBaseVersion then
    .fetched lastVersion (localBase.withVersion lastVersion)
  else
    match versions.valid candidateVersion with
    | some manifest => .fetched lastVersion (manifest.withVersion lastVersion)
    | none => .searching lastVersion localBaseVersion localBase (candidateVersion - 1)

inductive Step (s : HealSystem ι) : HealAction ι → HealSystem ι → Prop where
  | upload {new : Option ChildManifest}
      (isNext : ∀ manifest, new = some manifest → manifest.version = s.versions.length + 1) :
      Step s (.upload new) { s with versions := s.versions ++ [new] }
  | fetchLastVersion {i : ι} (isIdle : (s.clients i).phase = .idle) :
      Step s (.fetchLastVersion i) (s.setPhase i (fetchRemoteManifestLastVersion s.versions))
  | readLocal {i : ι} {lastVersion : Nat} (isInvalid : (s.clients i).phase = .invalid lastVersion) :
      Step s (.readLocal i) (s.setPhase i (.searching lastVersion
        (s.clients i).manifest.base.version (s.clients i).manifest.base (lastVersion - 1)))
  | fetchCandidate {i : ι} {lastVersion localBaseVersion candidateVersion : Nat}
      {localBase : ChildManifest} (isSearching : (s.clients i).phase =
        .searching lastVersion localBaseVersion localBase candidateVersion) :
      Step s (.fetchCandidate i) (s.setPhase i
        (findLastValidManifest s.versions lastVersion localBaseVersion localBase candidateVersion))
  | merge {i : ι} {context : MergeContext} {lastVersion : Nat} {remote : ChildManifest}
      {outcome : Option LocalChildManifest}
      (isFetched : (s.clients i).phase = .fetched lastVersion remote)
      (ok : mergeManifestAndUpdateStore context (s.clients i).manifest remote = .ok outcome) :
      Step s (.merge i context)
        (s.setClient i ⟨outcome.getD (s.clients i).manifest, .idle, some lastVersion⟩)
  | giveUp {i : ι} : Step s (.giveUp i) (s.setPhase i .idle)

/-- The clients hold the entry without local change, each based on a valid version. -/
structure Starts (s : HealSystem ι) : Prop where
  numbered : s.versions.Numbered
  holds : ∀ i, ∃ k ≤ s.versions.length, s.versions.valid k = some (s.clients i).manifest.base
  unchanged : ∀ i, (s.clients i).manifest.Unchanged
  idle : ∀ i, (s.clients i).phase = .idle
  noFetch : ∀ i, (s.clients i).lastFetch = none

end HealSystem

/-- What a phase of the sync has found out. The versions above the candidate are invalid. -/
def HealPhase.Sound (versions : VlobVersions) (base : ChildManifest) : HealPhase → Prop
  | idle => True
  | invalid lastVersion => base.version ≤ lastVersion ∧ lastVersion ≤ versions.length ∧
      versions.valid lastVersion = none
  | searching lastVersion localBaseVersion localBase candidateVersion =>
      localBase = base ∧ localBaseVersion = base.version ∧ base.version ≤ lastVersion ∧
      lastVersion ≤ versions.length ∧ candidateVersion ≤ lastVersion ∧
      ∀ j, candidateVersion < j → j ≤ lastVersion → versions.valid j = none
  | fetched lastVersion remote => base.version ≤ lastVersion ∧ remote.version = lastVersion ∧
      versions.Carries remote

structure HealClient.Sound (versions : VlobVersions) (client : HealClient) : Prop where
  carries : versions.Carries client.manifest.base
  unchanged : client.manifest.Unchanged
  phase : client.phase.Sound versions client.manifest.base
  lastFetch : ∀ n, client.lastFetch = some n → client.manifest.base.version = n

structure HealInvariant {ι : Type} (s : HealSystem ι) : Prop where
  numbered : s.versions.Numbered
  clients : ∀ i, (s.clients i).Sound s.versions

section Invariant
variable {versions : VlobVersions} {base : ChildManifest}

theorem HealPhase.Sound.append {phase : HealPhase} (sound : phase.Sound versions base)
    (new : Option ChildManifest) : phase.Sound (versions ++ [new]) base := by
  have longer : versions.length ≤ (versions ++ [new]).length := by
    rw [List.length_append]
    exact Nat.le_add_right _ _
  cases phase with
  | idle => trivial
  | invalid lastVersion =>
    obtain ⟨below, reached, isInvalid⟩ := sound
    refine ⟨below, reached.trans longer, ?_⟩
    rw [VlobVersions.valid_append reached]
    exact isInvalid
  | searching lastVersion localBaseVersion localBase candidateVersion =>
    obtain ⟨isBase, isVersion, below, reached, isCandidate, skipped⟩ := sound
    refine ⟨isBase, isVersion, below, reached.trans longer, isCandidate, ?_⟩
    intro j above upTo
    rw [VlobVersions.valid_append (upTo.trans reached)]
    exact skipped j above upTo
  | fetched lastVersion remote =>
    obtain ⟨below, isLast, carries⟩ := sound
    exact ⟨below, isLast, carries.append new⟩

theorem HealClient.Sound.append {client : HealClient} (sound : client.Sound versions)
    (new : Option ChildManifest) : client.Sound (versions ++ [new]) :=
  ⟨sound.carries.append new, sound.unchanged, sound.phase.append new, sound.lastFetch⟩

theorem fetchRemoteManifestLastVersion_sound (numbered : versions.Numbered)
    (carries : versions.Carries base) :
    (HealSystem.fetchRemoteManifestLastVersion versions).Sound versions base := by
  unfold HealSystem.fetchRemoteManifestLastVersion
  split
  · rename_i manifest isValid
    have isNumber := numbered.version _ manifest isValid
    refine ⟨carries.reached, isNumber, ?_⟩
    have carried := VlobVersions.Carries.of_greatest (Nat.le_refl _)
      (VlobVersions.GreatestValid.of_valid isValid)
    rw [← isNumber, ChildManifest.withVersion_version] at carried
    exact carried
  · rename_i isInvalid
    exact ⟨carries.reached, Nat.le_refl _, isInvalid⟩

/-- A valid candidate is the greatest valid version, and so is the base when there is none. -/
theorem findLastValidManifest_sound {lastVersion localBaseVersion candidateVersion : Nat}
    {localBase : ChildManifest} (carries : versions.Carries base)
    (sound : (HealPhase.searching lastVersion localBaseVersion localBase candidateVersion).Sound
      versions base) :
    (HealSystem.findLastValidManifest versions lastVersion localBaseVersion localBase
      candidateVersion).Sound versions base := by
  obtain ⟨isBase, isVersion, below, reached, isCandidate, skipped⟩ := sound
  unfold HealSystem.findLastValidManifest
  split
  · rename_i exhausted
    refine ⟨below, ChildManifest.version_withVersion _ _, ?_⟩
    obtain ⟨manifest, greatest, isContent⟩ := carries.content
    have greatestLast := greatest.skip below fun j above upTo => skipped j (by omega) upTo
    have carried := VlobVersions.Carries.of_greatest reached greatestLast
    rw [isBase, isContent, ChildManifest.withVersion_withVersion]
    exact carried
  · split
    · rename_i manifest isValid
      refine ⟨below, ChildManifest.version_withVersion _ _, ?_⟩
      exact VlobVersions.Carries.of_greatest reached
        ((VlobVersions.GreatestValid.of_valid isValid).skip isCandidate skipped)
    · rename_i isInvalid
      refine ⟨isBase, isVersion, below, reached, by omega, ?_⟩
      intro j above upTo
      by_cases same : j = candidateVersion
      · rw [same]
        exact isInvalid
      · exact skipped j (by omega) upTo

end Invariant

section Runs
variable {ι : Type} [DecidableEq ι] {s s' : HealSystem ι}

theorem HealInvariant.setClient {i : ι} {client : HealClient} (inv : HealInvariant s)
    (sound : client.Sound s.versions) : HealInvariant (s.setClient i client) := by
  refine ⟨inv.numbered, ?_⟩
  intro j
  change HealClient.Sound s.versions (Function.update s.clients i client j)
  by_cases same : j = i
  · rw [same, Function.update_self]
    exact sound
  · rw [Function.update_of_ne same]
    exact inv.clients j

theorem HealInvariant.setPhase {i : ι} {phase : HealPhase} (inv : HealInvariant s)
    (sound : phase.Sound s.versions (s.clients i).manifest.base) :
    HealInvariant (s.setPhase i phase) := by
  apply inv.setClient
  have client := inv.clients i
  exact ⟨client.carries, client.unchanged, sound, client.lastFetch⟩

/-- The number that each client is based on does not go back. -/
def BaseKept (s s' : HealSystem ι) : Prop :=
  ∀ i, (s.clients i).manifest.base.version ≤ (s'.clients i).manifest.base.version

omit [DecidableEq ι] in
theorem BaseKept.refl (s : HealSystem ι) : BaseKept s s := fun _ => Nat.le_refl _

theorem baseKept_setClient {i : ι} {client : HealClient}
    (above : (s.clients i).manifest.base.version ≤ client.manifest.base.version) :
    BaseKept s (s.setClient i client) := by
  intro j
  change _ ≤ (Function.update s.clients i client j).manifest.base.version
  by_cases same : j = i
  · rw [same, Function.update_self]
    exact above
  · rw [Function.update_of_ne same]

theorem HealInvariant.merge {i : ι} {context : MergeContext} {lastVersion : Nat}
    {remote : ChildManifest} {outcome : Option LocalChildManifest} (inv : HealInvariant s)
    (isFetched : (s.clients i).phase = .fetched lastVersion remote)
    (ok : mergeManifestAndUpdateStore context (s.clients i).manifest remote = .ok outcome) :
    HealInvariant (s.setClient i
      ⟨outcome.getD (s.clients i).manifest, .idle, some lastVersion⟩) ∧
    BaseKept s (s.setClient i ⟨outcome.getD (s.clients i).manifest, .idle, some lastVersion⟩) := by
  have client := inv.clients i
  have phase := client.phase
  rw [isFetched] at phase
  obtain ⟨below, isLast, carries⟩ := phase
  rcases mergeManifestAndUpdateStore_base client.unchanged ok with
    ⟨isSame, outdated⟩ | ⟨merged, isMerged, isBase, unchanged⟩
  · rw [isSame]
    constructor
    · apply inv.setClient
      refine ⟨client.carries, client.unchanged, trivial, ?_⟩
      intro n isFetch
      cases isFetch
      exact Nat.le_antisymm below (isLast ▸ outdated)
    · exact baseKept_setClient (Nat.le_refl _)
  · rw [isMerged]
    constructor
    · apply inv.setClient
      refine ⟨isBase ▸ carries, unchanged, trivial, ?_⟩
      intro n isFetch
      cases isFetch
      change merged.base.version = lastVersion
      rw [isBase]
      exact isLast
    · apply baseKept_setClient
      change _ ≤ merged.base.version
      rw [isBase, isLast]
      exact below

theorem HealInvariant.step {action : HealAction ι} (inv : HealInvariant s)
    (taken : s.Step action s') : HealInvariant s' ∧ BaseKept s s' := by
  cases taken with
  | upload isNext =>
    constructor
    · exact ⟨inv.numbered.append isNext, fun i => (inv.clients i).append _⟩
    · exact BaseKept.refl s
  | fetchLastVersion isIdle =>
    constructor
    · exact inv.setPhase
        (fetchRemoteManifestLastVersion_sound inv.numbered (inv.clients _).carries)
    · exact baseKept_setClient (Nat.le_refl _)
  | @readLocal i lastVersion isInvalid =>
    have phase := (inv.clients i).phase
    rw [isInvalid] at phase
    obtain ⟨below, reached, lastInvalid⟩ := phase
    constructor
    · apply inv.setPhase
      refine ⟨rfl, rfl, below, reached, Nat.sub_le _ _, ?_⟩
      intro j above upTo
      rw [show j = lastVersion by omega]
      exact lastInvalid
    · exact baseKept_setClient (Nat.le_refl _)
  | @fetchCandidate i lastVersion localBaseVersion candidateVersion localBase isSearching =>
    have phase := (inv.clients i).phase
    rw [isSearching] at phase
    constructor
    · exact inv.setPhase (findLastValidManifest_sound (inv.clients i).carries phase)
    · exact baseKept_setClient (Nat.le_refl _)
  | merge isFetched ok => exact inv.merge isFetched ok
  | giveUp =>
    constructor
    · exact inv.setPhase trivial
    · exact baseKept_setClient (Nat.le_refl _)

theorem HealInvariant.later {later : HealSystem ι} (inv : HealInvariant s)
    (run : Run HealSystem.Step (fun _ _ => True) s later) :
    HealInvariant later ∧ BaseKept s later := by
  induction run with
  | start => exact ⟨inv, BaseKept.refl s⟩
  | step _ _ taken ih =>
    obtain ⟨before, keptBefore⟩ := ih
    obtain ⟨after, kept⟩ := before.step taken
    exact ⟨after, fun i => (keptBefore i).trans (kept i)⟩

omit [DecidableEq ι] in
theorem HealSystem.Starts.inv (starts : s.Starts) : HealInvariant s := by
  refine ⟨starts.numbered, ?_⟩
  intro i
  obtain ⟨k, reached, isValid⟩ := starts.holds i
  have isNumber := starts.numbered.version k _ isValid
  have carried := VlobVersions.Carries.of_greatest reached
    (VlobVersions.GreatestValid.of_valid isValid)
  rw [← isNumber, ChildManifest.withVersion_version] at carried
  refine ⟨carried, starts.unchanged i, ?_, ?_⟩
  · rw [starts.idle i]
    trivial
  · intro n isFetch
    rw [starts.noFetch i] at isFetch
    cases isFetch

/-- The clients as they should be. -/
structure HealConverges (s : HealSystem ι) : Prop where
  content : ∀ i, ∃ manifest,
    s.versions.GreatestValid (s.clients i).manifest.base.version manifest ∧
    (s.clients i).manifest.base = manifest.withVersion (s.clients i).manifest.base.version
  kept : ∀ later, Run HealSystem.Step (fun _ _ => True) s later → ∀ i,
    (s.clients i).manifest.base.version ≤ (later.clients i).manifest.base.version
  lastFetch : ∀ i n, (s.clients i).lastFetch = some n → (s.clients i).manifest.base.version = n
  agree : ∀ i j, (s.clients i).manifest.base.version = (s.clients j).manifest.base.version →
    (s.clients i).manifest.base = (s.clients j).manifest.base

/-- Whatever versions the clients have skipped or healed. -/
theorem self_heal_converges {start : HealSystem ι} (starts : start.Starts)
    (run : Run HealSystem.Step (fun _ _ => True) start s) : HealConverges s := by
  have inv := (starts.inv.later run).1
  constructor
  · intro i
    exact (inv.clients i).carries.content
  · intro later goesOn
    exact (inv.later goesOn).2
  · intro i
    exact (inv.clients i).lastFetch
  · intro i j sameVersion
    obtain ⟨manifest, greatest, isBase⟩ := (inv.clients i).carries.content
    obtain ⟨manifest', greatest', isBase'⟩ := (inv.clients j).carries.content
    rw [← sameVersion] at greatest' isBase'
    rw [isBase, isBase', greatest.unique greatest']

end Runs

section Healed

def emptyVersion (version : Nat) : FileManifest :=
  ⟨⟨1⟩, 0, ⟨7⟩, ⟨8⟩, version, 0, 0, 0, defaultBlockSize, []⟩

/-- An empty file at its first version, held by two clients. -/
def twoHolders : HealSystem Bool :=
  ⟨[some (.file (emptyVersion 1))], fun _ =>
    ⟨.file ⟨emptyVersion 1, ⟨8⟩, false, 0, 0, defaultBlockSize, []⟩, .idle, none⟩⟩

noncomputable def someMergeContext : MergeContext :=
  ⟨id, someOrders, someFolderOrders, ⟨1⟩, 0, ⟨[]⟩⟩

theorem twoHolders_starts : twoHolders.Starts := by
  constructor
  · constructor
    · intro k manifest isValid
      cases k with
      | zero => cases isValid
      | succ k =>
        cases k with
        | zero =>
          cases isValid
          rfl
        | succ k => cases isValid
    · exact ⟨_, rfl⟩
  · intro i
    exact ⟨1, Nat.le_refl 1, rfl⟩
  · intro i
    rfl
  · intro i
    rfl
  · intro i
    rfl

/-- The file after a later update. -/
def savedVersion (version : Nat) : FileManifest := { emptyVersion version with updated := 5 }

/-- The two versions after the second one are invalid. A client that has not seen the second one
    tries the third one, and then finds it. -/
theorem self_heal_converges_of_invalid :
    ∃ s : HealSystem Bool, HealConverges s ∧
      (s.clients true).manifest.base = .file (savedVersion 4) := by
  have saved : Run HealSystem.Step (fun _ _ => True) twoHolders _ :=
    .step (t := .upload (some (.file (savedVersion 2)))) .start trivial
      (.upload (fun _ isNew => by cases isNew; rfl))
  have broken : Run HealSystem.Step (fun _ _ => True) twoHolders _ :=
    .step (t := .upload none) saved trivial (.upload (fun _ isNone => by cases isNone))
  have brokenAgain : Run HealSystem.Step (fun _ _ => True) twoHolders _ :=
    .step (t := .upload none) broken trivial (.upload (fun _ isNone => by cases isNone))
  have fetched : Run HealSystem.Step (fun _ _ => True) twoHolders _ :=
    .step (t := .fetchLastVersion true) brokenAgain trivial (.fetchLastVersion rfl)
  have read : Run HealSystem.Step (fun _ _ => True) twoHolders _ :=
    .step (t := .readLocal true) fetched trivial (.readLocal rfl)
  have tried : Run HealSystem.Step (fun _ _ => True) twoHolders _ :=
    .step (t := .fetchCandidate true) read trivial (.fetchCandidate rfl)
  have found : Run HealSystem.Step (fun _ _ => True) twoHolders _ :=
    .step (t := .fetchCandidate true) tried trivial (.fetchCandidate rfl)
  have merged : Run HealSystem.Step (fun _ _ => True) twoHolders _ :=
    .step (t := .merge true someMergeContext) found trivial (.merge rfl rfl)
  exact ⟨_, self_heal_converges twoHolders_starts merged, rfl⟩

end Healed

end ParsecCloud
