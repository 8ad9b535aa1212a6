import ParsecCloud.Lib.ChangeFeed
import ParsecCloud.Server.VlobWrites

/- The order of the writes. The atoms of a vlob are the updates of its realm that are about it, in the
   same order, so that the versions of each vlob are numbered along the updates. -/
namespace ParsecCloud.Server
open Certif Runs MemoryOrganization ChangeFeed

/-- The changes of the realm, in the order of the successful writes. -/
def State.log (s : State) (realmId : VlobID) : List (VlobID × Nat) :=
  (s.succeeded.filter fun write => write.realmId = realmId).map fun write =>
    (write.vlobId, write.version)

def UpdatesInOrder (org : MemoryOrganization) : Prop :=
  ∀ realmId realm, org.realms.get? realmId = some realm → ∀ vlobId,
    (realm.updatedAtoms.filter fun atom => atom.vlobId = vlobId) = org.atomsOf realm vlobId

section Order
variable {org org' : MemoryOrganization} {written : List VlobWrite}

theorem UpdatesInOrder.same (inOrder : UpdatesInOrder org) (same : SameVlobs org org') :
    UpdatesInOrder org' := by
  intro realmId realm' isRealm' vlobId
  rcases same.origin realmId realm' isRealm' with
    ⟨realm, isRealm, vlobs, updates⟩ | ⟨-, empty, noUpdate⟩
  · have ordered := inOrder realmId realm isRealm vlobId
    rw [MemoryRealm.updatedAtoms] at ordered ⊢
    rw [updates, ordered, atomsOf, atomsOf, vlobs, same.lists]
  · rw [MemoryRealm.updatedAtoms, noUpdate, atomsOf_none]
    · rfl
    · rw [empty]
      rfl

theorem UpdatesInOrder.write {write : VlobWrite} {realm realm' : MemoryRealm}
    (inOrder : UpdatesInOrder org) (recorded : WriteRecorded org org' write realm realm') :
    UpdatesInOrder org' := by
  intro realmId found isFound vlobId
  rw [recorded.realms, Dict.get?_set] at isFound
  by_cases here : realmId = write.realmId
  · rw [if_pos here] at isFound
    cases isFound
    have ordered := inOrder write.realmId realm recorded.isRealm vlobId
    have updated : realm'.updatedAtoms = realm.updatedAtoms ++ [write.atom] := by
      rw [MemoryRealm.updatedAtoms, recorded.updates, List.map_append]
      rfl
    rw [updated, List.filter_append, ordered, recorded.atoms]
    by_cases same : vlobId = write.vlobId
    · rw [if_pos same]
      simp [VlobWrite.atom, same]
    · rw [if_neg same]
      simp [VlobWrite.atom, Ne.symm same]
  · rw [if_neg here] at isFound
    rw [inOrder realmId found isFound, recorded.others realmId found here isFound]

theorem UpdatesInOrder.step (inOrder : UpdatesInOrder org) (step : VlobsStep org written org') :
    UpdatesInOrder org' := by
  cases step with
  | same same => exact inOrder.same same
  | write recorded => exact inOrder.write recorded

end Order

structure VlobsOrdered (s : State) : Prop where
  kept : VlobsKept s
  inOrder : UpdatesInOrder s.org

theorem VlobsOrdered.step {s s' : State} {event : Event} (ordered : VlobsOrdered s)
    (admitted : NoOverwrite s event) (step : Step s event s') :
    VlobsOrdered s' ∧ ∃ written, s'.succeeded = s.succeeded ++ written := by
  obtain ⟨written, succeeded, vlobs, -⟩ := ordered.kept.vlobs admitted step
  exact ⟨⟨ordered.kept.step admitted step, ordered.inOrder.step vlobs⟩, written, succeeded⟩

theorem NoVlob.ordered {s : State} (noVlob : NoVlob s) : VlobsOrdered s := by
  refine ⟨noVlob.kept, ?_⟩
  intro realmId realm isRealm vlobId
  obtain ⟨noPlace, noUpdate⟩ := noVlob.realms realmId realm isRealm
  rw [MemoryRealm.updatedAtoms, noUpdate, atomsOf_none]
  · rfl
  · rw [noPlace]
    rfl

section Log
variable {s s' : State} {realmId : VlobID} {realm : MemoryRealm}

theorem State.log_append {written : List VlobWrite} (realmId : VlobID)
    (succeeded : s'.succeeded = s.succeeded ++ written) :
    ∃ more, s'.log realmId = s.log realmId ++ more := by
  refine ⟨(written.filter fun write => write.realmId = realmId).map fun write =>
    (write.vlobId, write.version), ?_⟩
  rw [State.log, succeeded, List.filter_append, List.map_append]
  rfl

theorem VlobsOrdered.log (ordered : VlobsOrdered s)
    (isRealm : s.org.realms.get? realmId = some realm) :
    s.log realmId = realm.updatedAtoms.map fun atom => (atom.vlobId, atom.version) := by
  rw [(ordered.kept.writes.realms realmId realm isRealm).succeeded, List.map_map]
  rfl

theorem VlobsOrdered.versions (ordered : VlobsOrdered s)
    (isRealm : s.org.realms.get? realmId = some realm) (vlobId : VlobID) :
    ChangeFeed.versions (s.log realmId) vlobId =
      (s.org.atomsOf realm vlobId).map (·.version) := by
  rw [ordered.log isRealm, ← ordered.inOrder realmId realm isRealm vlobId, ChangeFeed.versions,
    List.filter_map, List.map_map]
  rfl

theorem VlobsOrdered.latest (ordered : VlobsOrdered s)
    (isRealm : s.org.realms.get? realmId = some realm) (vlobId : VlobID) :
    ChangeFeed.latest (s.log realmId) vlobId =
      ((s.org.atomsOf realm vlobId).getLast?.map (·.version)).getD 0 := by
  rw [ChangeFeed.latest, ordered.versions isRealm, List.getLast?_map]

theorem VlobsOrdered.wellNumbered (ordered : VlobsOrdered s) : WellNumbered (s.log realmId) := by
  intro vlobId
  cases isRealm : s.org.realms.get? realmId with
  | none =>
    have none : s.log realmId = [] := by
      rw [State.log, List.map_eq_nil_iff, List.filter_eq_nil_iff]
      intro write member isHere
      obtain ⟨realm, found⟩ := ordered.kept.writes.known write member
      rw [of_decide_eq_true isHere, isRealm] at found
      cases found
    rw [none]
    exact WellNumbered.nil vlobId
  | some realm =>
    rw [ordered.versions isRealm, Consecutive]
    apply List.ext_getElem?
    intro i
    rw [List.getElem?_map]
    cases found : (s.org.atomsOf realm vlobId)[i]? with
    | none =>
      have outside := List.getElem?_eq_none_iff.mp found
      rw [Option.map_none, eq_comm, List.getElem?_eq_none_iff, List.length_range', List.length_map]
      exact outside
    | some atom =>
      have inside := (List.getElem?_eq_some_iff.mp found).1
      have version := ((ordered.kept.writes.realms realmId realm isRealm).versions vlobId i atom
        found).1
      rw [List.getElem?_range' (by rw [List.length_map]; exact inside), Option.map_some, version]
      congr 1
      omega

end Log

end ParsecCloud.Server
