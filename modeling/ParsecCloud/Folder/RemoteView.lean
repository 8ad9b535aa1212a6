import ParsecCloud.Folder.PatternChange

/- Confinement is a local matter: the server sees neither the pattern nor what it confines. -/
namespace ParsecCloud
open Rust HashMap LocalFolderManifest UnconfinedLocalFolderManifest

theorem lookup_toRemote_fromRemote (orders : FolderOrders) {remote : FolderManifest}
    (pattern : PreventSyncPattern) (injective : Injective remote.children) {name : EntryName}
    {id : VlobID} :
    (removeConfinement orders (LocalFolderManifest.fromRemote remote pattern)).children.lookup
      name = some id ↔ remote.children.lookup name = some id := by
  have seen : ∀ {name id}, (LocalFolderManifest.fromRemote remote pattern).children.lookup name =
      some id ↔ remote.children.lookup name = some id ∧ pattern.isMatch name = false := by
    intro name id
    change (remote.children.retain fun name _ => !pattern.isMatch name).lookup name = some id ↔ _
    simp [lookup_retain]
  have confined := fromRemote_wellConfined pattern injective
  rw [lookup_upload confined, hidden_iff confined, unconfined_iff confined]
  simp only [seen]
  change remote.children.lookup name = some id ∧ _ ∨ _ ↔ _
  cases matching : pattern.isMatch name with
  | false => simp
  | true =>
    constructor
    · intro uploaded
      simp only [Bool.true_eq_false, and_false, or_false] at uploaded
      exact uploaded.1
    · intro based
      refine Or.inl ⟨based, rfl, ?_⟩
      rintro ⟨other, shown⟩
      rw [injective other name id shown.1.1 based, matching] at shown
      cases shown.2

section Evolve
variable {orders : FolderOrders} {data : ChildrenChanges} {pattern : PreventSyncPattern}
variable {timestamp : DateTime} {m r : LocalFolderManifest}

theorem evolve_unmarked (injective : Injective m.children) (fits : ChangesFit data m.children)
    (removals : ∀ name ∈ data.keys, ∀ id, m.children.lookup name = some id →
      id ∈ m.localConfinementPoints)
    (additions : ∀ name id, data.lookup name = some (some id) → pattern.isMatch name = true)
    (run : m.evolveChildrenAndMarkUpdated orders data pattern timestamp = .ok r) :
    r = { m with children := r.children, localConfinementPoints := r.localConfinementPoints } := by
  obtain ⟨removed, walked, gone⟩ := removals_spec orders injective fits
  have added := additions_spec orders pattern fun name member => by
    rw [gone.children, if_pos ((orders.removals.mem_iff _ _).mpr member)]
  have fresh := no_duplicate_of_fits orders fits gone
  have unmarked := (loops_unflagged gone added).mpr ⟨removals, additions⟩
  simp only [evolveChildrenAndMarkUpdated, walked, ok_bind, assert, fresh, unmarked] at run
  cases run
  rfl

end Evolve

section WellConfined
variable {pattern : PreventSyncPattern} {m : LocalFolderManifest} (confined : WellConfined pattern m)
include confined

/-- Without the confined entries and with the hidden ones hidden again, what is left is what was
    not confined. -/
theorem new_unconfined (orders : FolderOrders) {name : EntryName} {id : VlobID} :
    (newManifest orders (removeConfinement orders m) pattern).children.lookup name = some id ↔
      Unconfined m name id := by
  rw [new_lookup confined, hidden_iff confined, unconfined_iff confined]
  constructor
  · rintro ⟨⟨based, matching, -⟩ | seen, unmatched⟩
    · exact absurd ⟨matching, based⟩ unmatched
    · exact seen
  · intro seen
    refine ⟨Or.inr seen, ?_⟩
    rw [seen.2]
    simp

/-- Only the confined entries are restored, and their names are free. -/
theorem restores_confined (orders : FolderOrders) {name : EntryName} {id : VlobID}
    (restores : Restores pattern m (newManifest orders (removeConfinement orders m) pattern)
      name id) : pattern.isMatch name = true := by
  obtain ⟨there, ⟨point, -⟩ | ⟨point, absent, -⟩⟩ := restores
  · exact (mem_localPoints confined there).mp point
  · exact absurd ⟨name, (new_unconfined confined orders).mpr ⟨there, point⟩⟩ absent

theorem not_renames (orders : FolderOrders) {name previous : EntryName} {id : VlobID} :
    ¬ Renames m (newManifest orders (removeConfinement orders m) pattern) name id previous := by
  rintro ⟨_, point, before, _⟩
  exact ((new_unconfined confined orders).mp before).2 point

theorem restored_unmarked (orders : FolderOrders) {r : LocalFolderManifest} {data : ChildrenChanges}
    {timestamp : DateTime}
    (restoration : Restoration pattern m (newManifest orders (removeConfinement orders m) pattern)
      data)
    (run : (newManifest orders (removeConfinement orders m) pattern).evolveChildrenAndMarkUpdated
      orders data pattern timestamp = .ok r) :
    r.needSync = m.needSync ∧ r.updated = m.updated ∧ r.speculative = m.speculative := by
  have newInjective : Injective
      (newManifest orders (removeConfinement orders m) pattern).children :=
    injective_hideBaseEntries (injective_removeConfinement orders confined.children confined.base)
  have additions : ∀ name id, data.lookup name = some (some id) → pattern.isMatch name = true :=
    fun name id given => restores_confined confined orders (restoration.added name id given)
  have unmarked := evolve_unmarked newInjective restoration.fits ?_ additions run
  · rw [unmarked]
    exact ⟨rfl, rfl, rfl⟩
  · intro name member id before
    exfalso
    obtain ⟨entry, given⟩ := mem_keys_iff.mp member
    have seen := (unconfined_iff confined).mp ((new_unconfined confined orders).mp before)
    cases entry with
    | none =>
      obtain ⟨other, moved, renames⟩ := restoration.removed name given
      exact not_renames confined orders renames
    | some other =>
      have matching := additions name other given
      rw [seen.2] at matching
      cases matching

/-- An entry confined locally is uploaded under its base name, if it has a hidden one. -/
theorem uploaded_point (orders : FolderOrders) {name : EntryName} {id : VlobID}
    (point : id ∈ m.localConfinementPoints) :
    (removeConfinement orders m).children.lookup name = some id ↔
      id ∈ m.remoteConfinementPoints ∧ m.base.children.lookup name = some id := by
  have unseen : ∀ other, ¬ Unconfined m other id := fun other seen => seen.2 point
  rw [lookup_upload confined]
  constructor
  · rintro (hidden | seen)
    · exact ⟨hidden.2.1, hidden.1⟩
    · exact absurd seen (unseen name)
  · rintro ⟨hidden, based⟩
    exact Or.inl ⟨based, hidden, fun ⟨other, seen⟩ => unseen other seen⟩

theorem result_same (orders : FolderOrders) {r : LocalFolderManifest} {data : ChildrenChanges}
    (restoration : Restoration pattern m (newManifest orders (removeConfinement orders m) pattern)
      data)
    (change : Evolved data pattern (newManifest orders (removeConfinement orders m) pattern) r)
    (unmarked : r.needSync = m.needSync ∧ r.updated = m.updated ∧ r.speculative = m.speculative) :
    r = m := by
  have agree : NamesAgree pattern pattern m := by
    intro name id other matching shown
    rw [matching] at shown
    cases shown
  have children : r.children = m.children := by
    apply Finmap.ext_lookup
    intro name
    apply Option.ext
    intro id
    constructor
    · intro found
      rcases result_of_lookup confined restoration change found with there | ⟨-, matching, shown, -⟩
      · exact there
      · rw [matching] at shown
        cases shown
    · exact kept_of_agree confined restoration change agree
  have still : WellConfined pattern r :=
    result_wellConfined confined change (by rw [children]; exact confined.children)
  have localPoints : r.localConfinementPoints = m.localConfinementPoints := by
    rw [still.localPoints, confined.localPoints, children]
  have remotePoints : r.remoteConfinementPoints = m.remoteConfinementPoints := by
    rw [still.remotePoints, confined.remotePoints, change.base]
    rfl
  obtain ⟨needSync, updated, speculative⟩ := unmarked
  cases r
  cases m
  simp only [LocalFolderManifest.mk.injEq]
  exact ⟨change.base, change.parent, needSync, updated, children, localPoints, remotePoints,
    speculative⟩

theorem applyPreventSyncPattern_same (orders : FolderOrders) (timestamp : DateTime) :
    m.applyPreventSyncPattern orders pattern timestamp = .ok m := by
  have injective := injective_removeConfinement orders confined.children confined.base
  have newInjective : Injective
      (newManifest orders (removeConfinement orders m) pattern).children :=
    injective_hideBaseEntries injective
  obtain ⟨r, data, run, restoration, change⟩ :=
    applyConfinement_spec orders pattern timestamp injective confined.children
  have unmarked : r.needSync = m.needSync ∧ r.updated = m.updated ∧
      r.speculative = m.speculative := by
    have branches := run
    unfold applyConfinement at branches
    simp only at branches
    split at branches
    · exact restored_unmarked confined orders
        (restoreExisting_restoration pattern orders confined.children newInjective) branches
    · cases branches
      exact ⟨rfl, rfl, rfl⟩
  have same := result_same confined orders restoration change unmarked
  rw [same] at run
  exact run

end WellConfined

/-- A folder is left as it is exactly when its confinement points are those of the pattern. -/
theorem applyPreventSyncPattern_same_iff (orders : FolderOrders) {pattern : PreventSyncPattern}
    {m : LocalFolderManifest} (timestamp : DateTime) (children : Injective m.children)
    (base : Injective m.base.children) :
    m.applyPreventSyncPattern orders pattern timestamp = .ok m ↔ WellConfined pattern m := by
  constructor
  · intro same
    have injective := injective_removeConfinement orders children base
    obtain ⟨r, data, run, restoration, change⟩ :=
      applyConfinement_spec orders pattern timestamp injective children
    cases run.symm.trans same
    exact ⟨children, base, evolved_localPoints (injective_hideBaseEntries injective) rfl change,
      change.remotePoints⟩
  · intro confined
    exact applyPreventSyncPattern_same confined orders timestamp

/-- What the server gets of a folder: the pattern takes nothing from it and adds nothing to it. -/
theorem confinement_invisible (orders : FolderOrders) (pattern : PreventSyncPattern)
    (author : DeviceID) (timestamp : DateTime) :
    (∀ remote : FolderManifest, Injective remote.children →
      let uploaded := (LocalFolderManifest.fromRemote remote pattern).toRemote orders author timestamp
      uploaded.children = remote.children ∧ uploaded.parent = remote.parent ∧
        uploaded.version = remote.version + 1) ∧
    ∀ m : LocalFolderManifest, WellConfined pattern m →
      m.applyPreventSyncPattern orders pattern timestamp = .ok m ∧
      ∀ id ∈ m.localConfinementPoints,
        (Holds (m.toRemote orders author timestamp).children id → id ∈ m.remoteConfinementPoints) ∧
        (id ∈ m.remoteConfinementPoints → ∃ name, m.base.children.lookup name = some id ∧
          ∀ other, (m.toRemote orders author timestamp).children.lookup other = some id ↔
            other = name) := by
  constructor
  · intro remote injective
    refine ⟨?_, rfl, rfl⟩
    apply Finmap.ext_lookup
    intro name
    apply Option.ext
    intro id
    exact lookup_toRemote_fromRemote orders pattern injective
  · intro m confined
    refine ⟨applyPreventSyncPattern_same confined orders timestamp, ?_⟩
    intro id point
    constructor
    · rintro ⟨name, found⟩
      exact ((uploaded_point confined orders point).mp found).1
    · intro hidden
      have based := hidden
      rw [confined.remotePoints, mem_valuesAt] at based
      obtain ⟨name, based, -⟩ := based
      refine ⟨name, based, ?_⟩
      intro other
      constructor
      · intro found
        exact confined.base other name id ((uploaded_point confined orders point).mp found).2 based
      · intro same
        rw [same]
        exact (uploaded_point confined orders point).mpr ⟨hidden, based⟩

/-- An entry that the server knows as b has been hidden, and is confined here under the name b. -/
theorem confinement_invisible_entryB :
    let m := confinedFolder patternB (Finmap.singleton entryB ⟨1⟩) (Finmap.singleton entryB ⟨1⟩)
    ((LocalFolderManifest.fromRemote m.base patternB).toRemote someFolderOrders ⟨0⟩ 3).children =
        m.base.children ∧
      m.applyPreventSyncPattern someFolderOrders patternB 3 = .ok m ∧
      ∃ name, m.base.children.lookup name = some ⟨1⟩ ∧
        ∀ other, (m.toRemote someFolderOrders ⟨0⟩ 3).children.lookup other = some ⟨1⟩ ↔
          other = name := by
  intro m
  have confined : WellConfined patternB m := ⟨injective_singleton, injective_singleton, rfl, rfl⟩
  have invisible := confinement_invisible someFolderOrders patternB ⟨0⟩ 3
  have point : ⟨1⟩ ∈ m.localConfinementPoints := by decide
  obtain ⟨same, points⟩ := invisible.2 m confined
  exact ⟨(invisible.1 m.base injective_singleton).1, same, (points ⟨1⟩ point).2 point⟩

end ParsecCloud
