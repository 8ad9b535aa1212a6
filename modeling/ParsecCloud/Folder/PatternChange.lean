import ParsecCloud.Folder.NeedSync

/- Changing the prevent-sync pattern of a folder. -/
namespace ParsecCloud
open Rust HashMap LocalFolderManifest UnconfinedLocalFolderManifest

theorem evolved_localPoints {data : ChildrenChanges} {pattern : PreventSyncPattern}
    {m evolved : LocalFolderManifest} (injective : Injective m.children)
    (exact : m.localConfinementPoints = m.children.valuesAt pattern.isMatch)
    (change : Evolved data pattern m evolved) :
    evolved.localConfinementPoints = evolved.children.valuesAt pattern.isMatch := by
  ext id
  rw [change.localPoints, exact, mem_valuesAt, mem_valuesAt]
  constructor
  · rintro (⟨⟨name, found, matching⟩, stays⟩ | ⟨name, added, matching⟩)
    · have unchanged : data.lookup name = none :=
        lookup_eq_none_iff.mpr fun member => stays ⟨name, member, found⟩
      exact ⟨name, by rw [change.children, unchanged]; exact found, matching⟩
    · exact ⟨name, by rw [change.children, added]; rfl, matching⟩
  · rintro ⟨name, found, matching⟩
    rw [change.children] at found
    cases given : data.lookup name with
    | some entry =>
      rw [given] at found
      cases found
      exact Or.inr ⟨name, given, matching⟩
    | none =>
      rw [given] at found
      refine Or.inl ⟨⟨name, found, matching⟩, ?_⟩
      rintro ⟨other, member, there⟩
      rw [injective other name id there found] at member
      exact lookup_eq_none_iff.mp given member

/-- Every entry stays under its name, every id that was to be uploaded still is or is confined,
    and the confinement is that of the new pattern, without duplicated ids. -/
structure LosesNothing (q : PreventSyncPattern) (m r : LocalFolderManifest) : Prop where
  kept : ∀ name id, m.children.lookup name = some id → r.children.lookup name = some id
  uploaded : ∀ orders author timestamp id, Holds (m.toRemote orders author timestamp).children id →
    Holds (r.toRemote orders author timestamp).children id ∨ id ∈ r.localConfinementPoints
  confined : WellConfined q r

/-- Where a name is confined no more and has an entry here and in the base, these are the same
    entry, or the entry of the base is here under a name that was not confined. -/
def NamesAgree (p q : PreventSyncPattern) (m : LocalFolderManifest) : Prop :=
  ∀ name id other, p.isMatch name = true → q.isMatch name = false →
    m.children.lookup name = some id → m.base.children.lookup name = some other →
    other = id ∨ ∃ name', m.children.lookup name' = some other ∧ p.isMatch name' = false

section Change
variable {p q : PreventSyncPattern} {m r : LocalFolderManifest} {orders : FolderOrders}
variable {data : ChildrenChanges} (confined : WellConfined p m)
include confined

theorem new_lookup {name : EntryName} {id : VlobID} :
    (newManifest orders (removeConfinement orders m) q).children.lookup name = some id ↔
      (Hidden m name id ∨ Unconfined m name id) ∧
        ¬ (q.isMatch name = true ∧ m.base.children.lookup name = some id) := by
  rw [← lookup_upload confined orders]
  exact lookup_hideBaseEntries

section Result
variable (restoration : Restoration q m (newManifest orders (removeConfinement orders m) q) data)
variable (change : Evolved data q (newManifest orders (removeConfinement orders m) q) r)
include restoration change

/-- What is seen afterwards was seen before, or was hidden as the base entry of its name. -/
theorem result_of_lookup {name : EntryName} {id : VlobID} (found : r.children.lookup name = some id) :
    m.children.lookup name = some id ∨
      (m.base.children.lookup name = some id ∧ p.isMatch name = true ∧ q.isMatch name = false ∧
        ¬ Holds m.children id) := by
  rw [change.children] at found
  cases given : data.lookup name with
  | some entry =>
    rw [given] at found
    cases found
    exact Or.inl (restoration.added name id given).1
  | none =>
    rw [given] at found
    obtain ⟨hidden | seen, unmatched⟩ := (new_lookup confined).mp found
    · obtain ⟨based, matching, alone⟩ := (hidden_iff confined).mp hidden
      have shown : q.isMatch name = false := by
        rw [← Bool.not_eq_true]
        exact fun again => unmatched ⟨again, based⟩
      by_cases held : Holds m.children id
      · -- it is confined here, under the same name or else it would have been renamed
        obtain ⟨other, there⟩ := held
        have point : id ∈ m.localConfinementPoints := by
          rw [mem_localPoints confined there, ← Bool.not_eq_false]
          exact fun seen => alone ⟨other, there, seen⟩
        by_cases same : other = name
        · exact Or.inl (same ▸ there)
        · have renamed := restoration.renamed other id name ⟨there, point, found, Ne.symm same⟩
          exact absurd renamed (lookup_eq_none_iff.mp given)
      · exact Or.inr ⟨based, matching, shown, held⟩
    · exact Or.inl seen.1

omit change in
theorem not_removed_of_agree (agree : NamesAgree p q m) {name : EntryName} {id : VlobID}
    (there : m.children.lookup name = some id) : data.lookup name ≠ some none := by
  intro removed
  obtain ⟨other, moved, elsewhere, -, before, different⟩ := restoration.removed name removed
  have apart : m.children.lookup name ≠ some moved :=
    fun same => different (confined.children name other moved same elsewhere)
  obtain ⟨hidden | seen, unmatched⟩ := (new_lookup confined).mp before
  · obtain ⟨based, matching, alone⟩ := (hidden_iff confined).mp hidden
    have shown : q.isMatch name = false := by
      rw [← Bool.not_eq_true]
      exact fun again => unmatched ⟨again, based⟩
    rcases agree name id moved matching shown there based with same | seen
    · exact apart (same ▸ there)
    · exact alone seen
  · exact apart seen.1

theorem kept_of_agree (agree : NamesAgree p q m) {name : EntryName} {id : VlobID}
    (there : m.children.lookup name = some id) : r.children.lookup name = some id := by
  have notRemoved := not_removed_of_agree confined restoration agree there
  rw [change.children]
  cases given : data.lookup name with
  | some entry =>
    cases entry with
    | none => exact absurd given notRemoved
    | some other =>
      have again := (restoration.added name other given).1
      rw [there] at again
      exact again.symm
  | none =>
    -- it is not restored, so it is in the new manifest
    have unrestored : ¬ Restores q m (newManifest orders (removeConfinement orders m) q) name id :=
      fun restores => lookup_eq_none_iff.mp given (restoration.restored name id restores)
    by_contra missing
    have absent : (newManifest orders (removeConfinement orders m) q).children.lookup name ≠ some id :=
      missing
    have unpoint : id ∉ m.localConfinementPoints :=
      fun point => unrestored ⟨there, Or.inl ⟨point, absent⟩⟩
    have seen : Unconfined m name id := ⟨there, unpoint⟩
    have reason : q.isMatch name = true ∧ m.base.children.lookup name = some id := by
      by_contra unmatched
      exact absent ((new_lookup confined).mpr ⟨Or.inr seen, unmatched⟩)
    refine unrestored ⟨there, Or.inr ⟨unpoint, ?_, mem_valuesAt.mpr ⟨name, reason.2, reason.1⟩,
      reason.1⟩⟩
    rintro ⟨other, found⟩
    obtain ⟨hidden | seen', unmatched⟩ := (new_lookup confined).mp found
    · exact hidden.2.2 ⟨name, seen⟩
    · rw [confined.children other name id seen'.1 there] at unmatched
      exact unmatched reason

theorem shown_of_agree (agree : NamesAgree p q m) {name : EntryName} {id : VlobID}
    (based : m.base.children.lookup name = some id) (matching : p.isMatch name = true)
    (shown : q.isMatch name = false) (absent : ¬ Holds m.children id) :
    r.children.lookup name = some id := by
  have new : (newManifest orders (removeConfinement orders m) q).children.lookup name = some id := by
    rw [new_lookup confined]
    refine ⟨Or.inl ((hidden_iff confined).mpr ⟨based, matching, ?_⟩), ?_⟩
    · exact fun ⟨other, there, _⟩ => absent ⟨other, there⟩
    · rw [shown]
      exact fun ⟨impossible, _⟩ => Bool.false_ne_true impossible
  rw [change.children]
  cases given : data.lookup name with
  | none => exact new
  | some entry =>
    exfalso
    cases entry with
    | none =>
      obtain ⟨other, moved, elsewhere, -, before, -⟩ := restoration.removed name given
      rw [new] at before
      cases before
      exact absent ⟨other, elsewhere⟩
    | some other =>
      have there := (restoration.added name other given).1
      rcases agree name other id matching shown there based with same | ⟨name', seen, -⟩
      · exact absent ⟨name, same ▸ there⟩
      · exact absent ⟨name', seen⟩

omit restoration in
theorem result_wellConfined (injective : Injective r.children) : WellConfined q r := by
  have newInjective : Injective (newManifest orders (removeConfinement orders m) q).children :=
    injective_hideBaseEntries (injective_removeConfinement orders confined.children confined.base)
  refine ⟨injective, ?_, evolved_localPoints newInjective rfl change, ?_⟩
  · rw [change.base]
    exact confined.base
  · rw [change.remotePoints, change.base]
    rfl

theorem losesNothing_of_agree (agree : NamesAgree p q m) : LosesNothing q m r := by
  have injective : Injective r.children := by
    intro name name' id first second
    rcases result_of_lookup confined restoration change first with there | ⟨based, -, -, absent⟩
    · rcases result_of_lookup confined restoration change second with there' | ⟨-, -, -, absent⟩
      · exact confined.children name name' id there there'
      · exact absurd ⟨name, there⟩ absent
    · rcases result_of_lookup confined restoration change second with there | ⟨based', -⟩
      · exact absurd ⟨name', there⟩ absent
      · exact confined.base name name' id based based'
  have wellConfined := result_wellConfined confined change injective
  have kept : ∀ name id, m.children.lookup name = some id → r.children.lookup name = some id :=
    fun name id => kept_of_agree confined restoration change agree
  refine ⟨kept, ?_, wellConfined⟩
  intro orders' author timestamp id held
  change Holds (removeConfinement orders' r).children id ∨ _
  obtain ⟨name, found⟩ := held
  rcases (lookup_upload confined orders').mp found with hidden | seen
  · obtain ⟨based, matching, -⟩ := (hidden_iff confined).mp hidden
    cases again : q.isMatch name with
    | true =>
      left
      apply uploaded_of_base wellConfined orders' _ again
      rw [change.base]
      exact based
    | false =>
      by_cases here : Holds m.children id
      · obtain ⟨other, there⟩ := here
        exact uploaded_or_confined wellConfined orders' (kept other id there)
      · exact uploaded_or_confined wellConfined orders'
          (shown_of_agree confined restoration change agree based matching again here)
  · exact uploaded_or_confined wellConfined orders' (kept name id seen.1)

/-- A hidden entry is lost when an existing entry of the same name comes back. -/
theorem lost_entry {name : EntryName} {id other : VlobID} (matching : p.isMatch name = true)
    (shown : q.isMatch name = false) (there : m.children.lookup name = some id)
    (based : m.base.children.lookup name = some other) (absent : ¬ Holds m.children other) :
    ¬ LosesNothing q m r := by
  intro nothing
  have hidden : Hidden m name other := by
    refine (hidden_iff confined).mpr ⟨based, matching, ?_⟩
    exact fun ⟨name', there', _⟩ => absent ⟨name', there'⟩
  have gone : ∀ name', r.children.lookup name' ≠ some other := by
    intro name' found
    rcases result_of_lookup confined restoration change found with there' | ⟨based', -⟩
    · exact absent ⟨name', there'⟩
    · have kept := nothing.kept name id there
      rw [← confined.base name' name other based' based, found] at kept
      cases kept
      exact absent ⟨name, there⟩
  have before : Holds (m.toRemote orders m.base.author 0).children other :=
    ⟨name, (lookup_upload confined orders).mpr (Or.inl hidden)⟩
  rcases nothing.uploaded orders m.base.author 0 other before with ⟨name', after⟩ | point
  · rcases (lookup_upload nothing.confined orders).mp after with hidden' | seen
    · obtain ⟨based', again, -⟩ := (hidden_iff nothing.confined).mp hidden'
      rw [change.base] at based'
      rw [confined.base name' name other based' based, shown] at again
      cases again
    · exact gone name' seen.1
  · rw [nothing.confined.localPoints, mem_valuesAt] at point
    obtain ⟨name', found, -⟩ := point
    exact gone name' found

end Result

omit confined in
noncomputable def walkingFirst (name : EntryName) : FolderOrders :=
  { someFolderOrders with existing := .first name }

/-- When the entry of a name is walked through before the confined entry that leaves the name,
    the removal of the name comes last. -/
theorem overwritten_entry {name moved : EntryName} {id other : VlobID} {timestamp : DateTime}
    (first : orders.existing = HashOrder.first name) (matching : p.isMatch name = true)
    (shown : q.isMatch name = false) (there : m.children.lookup name = some id)
    (based : m.base.children.lookup name = some other) (different : other ≠ id)
    (elsewhere : m.children.lookup moved = some other) (also : p.isMatch moved = true)
    (run : m.applyPreventSyncPattern orders q timestamp = .ok r) : ¬ LosesNothing q m r := by
  intro nothing
  have newInjective : Injective (newManifest orders (removeConfinement orders m) q).children :=
    injective_hideBaseEntries (injective_removeConfinement orders confined.children confined.base)
  have point : other ∈ m.localConfinementPoints := (mem_localPoints confined elsewhere).mpr also
  have hidden : Hidden m name other := by
    refine (hidden_iff confined).mpr ⟨based, matching, ?_⟩
    rintro ⟨name', there', seen⟩
    rw [confined.children name' moved other there' elsewhere, also] at seen
    cases seen
  have renames : Renames m (newManifest orders (removeConfinement orders m) q) moved other name := by
    refine ⟨elsewhere, point, (new_lookup confined).mpr ⟨Or.inl hidden, ?_⟩, ?_⟩
    · rw [shown]
      exact fun ⟨impossible, _⟩ => Bool.false_ne_true impossible
    · rintro rfl
      rw [there] at elsewhere
      exact different (Option.some.inj elsewhere).symm
  have walk : ∃ names, orders.existing.list m.children.keys = name :: names := by
    rw [first]
    exact ⟨_, if_pos (mem_keys_iff.mpr ⟨id, there⟩)⟩
  obtain ⟨names, walk⟩ := walk
  have removed := restoreExisting_removed q confined.children newInjective walk renames
  have restoration := restoreExisting_restoration q orders confined.children newInjective
  obtain ⟨r', evolved, change⟩ := evolve_spec orders q timestamp newInjective restoration.fits
  have same : r = r' := by
    unfold applyPreventSyncPattern applyConfinement at run
    simp only at run
    rw [if_pos (Or.inl (Finset.ne_empty_of_mem point)), evolved] at run
    exact (Except.ok.inj run).symm
  have kept := nothing.kept name id there
  rw [same, change.children, removed] at kept
  cases kept

end Change

/-- Exactly when no entry is lost, whatever the order of the walks. -/
theorem pattern_change_loses_nothing_iff (p q : PreventSyncPattern) (timestamp : DateTime)
    (m : LocalFolderManifest) (confined : WellConfined p m) :
    (∀ orders, ∃ r, m.applyPreventSyncPattern orders q timestamp = .ok r ∧ LosesNothing q m r) ↔
      NamesAgree p q m := by
  have spec := fun orders => applyConfinement_spec (m := removeConfinement orders m) orders q timestamp
    (injective_removeConfinement orders confined.children confined.base) confined.children
  constructor
  · intro all name id other matching shown there based
    by_contra disagree
    obtain ⟨different, alone⟩ := not_or.mp disagree
    by_cases held : Holds m.children other
    · obtain ⟨moved, elsewhere⟩ := held
      have also : p.isMatch moved = true := by
        rw [← Bool.not_eq_false]
        exact fun seen => alone ⟨moved, elsewhere, seen⟩
      obtain ⟨r, run, nothing⟩ := all (walkingFirst name)
      exact overwritten_entry confined rfl matching shown there based different elsewhere also run
        nothing
    · obtain ⟨r, run, nothing⟩ := all someFolderOrders
      obtain ⟨r', data, run', restoration, change⟩ := spec someFolderOrders
      have same : r = r' := Except.ok.inj (run.symm.trans run')
      subst same
      exact lost_entry confined restoration change matching shown there based held nothing
  · intro agree orders
    obtain ⟨r, data, run, restoration, change⟩ := spec orders
    exact ⟨r, run, losesNothing_of_agree confined restoration change agree⟩

def agreeingFolder : LocalFolderManifest :=
  confinedFolder patternB (Finmap.singleton entryB ⟨1⟩)
    ((Finmap.singleton entryB ⟨1⟩).insert entryA ⟨2⟩)

theorem agreeing_name_loses_nothing :
    ∃ r, agreeingFolder.applyPreventSyncPattern someFolderOrders ⟨[]⟩ 1 = .ok r ∧
      LosesNothing ⟨[]⟩ agreeingFolder r := by
  have confined : WellConfined patternB agreeingFolder :=
    ⟨injective_insert injective_singleton (by decide), injective_singleton, rfl, rfl⟩
  apply (pattern_change_loses_nothing_iff patternB ⟨[]⟩ 1 agreeingFolder confined).mpr
  intro name id other matching _ there based
  left
  simp only [agreeingFolder, confinedFolder, folderOf, lookup_singleton_ite] at based
  split at based
  · rename_i same
    subst same
    cases based
    cases there
    rfl
  · cases based

/-- Two confined names exchanged since the base. -/
def exchangedFolder : LocalFolderManifest :=
  confinedFolder ⟨[fun _ => true]⟩ ((Finmap.singleton entryA ⟨2⟩).insert entryB ⟨1⟩)
    ((Finmap.singleton entryA ⟨1⟩).insert entryB ⟨2⟩)

theorem exchanged_entry_lost :
    WellConfined ⟨[fun _ => true]⟩ exchangedFolder ∧
    ¬ ∃ r, exchangedFolder.applyPreventSyncPattern (walkingFirst entryA) ⟨[]⟩ 1 = .ok r ∧
      LosesNothing ⟨[]⟩ exchangedFolder r := by
  have confined : WellConfined ⟨[fun _ => true]⟩ exchangedFolder :=
    ⟨injective_insert injective_singleton (by decide),
      injective_insert injective_singleton (by decide), rfl, rfl⟩
  refine ⟨confined, ?_⟩
  rintro ⟨r, run, nothing⟩
  have there : exchangedFolder.children.lookup entryA = some ⟨1⟩ := rfl
  have based : exchangedFolder.base.children.lookup entryA = some ⟨2⟩ := rfl
  have elsewhere : exchangedFolder.children.lookup entryB = some ⟨2⟩ := rfl
  exact overwritten_entry confined rfl rfl rfl there based (by decide) elsewhere rfl run nothing

end ParsecCloud
