import ParsecCloud.Server.Locked

/- The roles of a realm: the current role of a user, and its role at a date, are those of the last
   certificate of the user. -/
namespace ParsecCloud.Server
open Certif MemoryOrganization

abbrev Roles := List (RealmRoleCertificate × List Byte)

/-- The role given by the last of the certificates of the user. -/
def currentRole (roles : Roles) (userId : UserID) : Option RealmRole :=
  match roles.reverse.find? fun role => role.1.userId = userId with
  | some (certif, _) => certif.role
  | none => none

theorem getCurrentRoleFor_eq (realm : MemoryRealm) (userId : UserID) :
    realm.getCurrentRoleFor userId = currentRole realm.roles userId := rfl

/-- The role at a date. -/
def roleAt (roles : Roles) (userId : UserID) (date : DateTime) : Option RealmRole :=
  currentRole (roles.filter fun role => role.1.timestamp ≤ date) userId

variable {roles : Roles} {certif : RealmRoleCertificate} {raw : List Byte} {userId : UserID}
  {date : DateTime}

theorem currentRole_append : currentRole (roles ++ [(certif, raw)]) userId =
    if certif.userId = userId then certif.role else currentRole roles userId := by
  unfold currentRole
  rw [List.reverse_append, List.reverse_singleton, List.singleton_append, List.find?_cons]
  by_cases same : certif.userId = userId
  · simp [same]
  · simp [same]

theorem participants_append : participants (roles ++ [(certif, raw)]) =
    if certif.role.isNone then (participants roles).erase certif.userId
    else insert certif.userId (participants roles) := by
  rw [participants, List.foldl_append]
  rfl

theorem mem_participants : userId ∈ participants roles ↔ currentRole roles userId ≠ none := by
  induction roles using List.reverseRecOn with
  | nil => simp [participants, currentRole]
  | append_singleton rest last ih =>
    obtain ⟨certif, raw⟩ := last
    rw [participants_append, currentRole_append]
    by_cases same : certif.userId = userId
    · cases role : certif.role with
      | none => simp [same]
      | some => simp [same]
    · cases role : certif.role with
      | none =>
        simp only [Option.isNone_none, if_true, Finset.mem_erase, same, if_false]
        rw [← ih]
        exact ⟨fun member => member.2, fun member => ⟨Ne.symm same, member⟩⟩
      | some =>
        simp only [Option.isNone_some, Bool.false_eq_true, if_false, Finset.mem_insert, same]
        rw [← ih]
        exact ⟨fun member => member.resolve_left (Ne.symm same), Or.inr⟩

theorem roleAt_append (later : date < certif.timestamp) :
    roleAt (roles ++ [(certif, raw)]) userId date = roleAt roles userId date := by
  rw [roleAt, List.filter_append, List.filter_singleton]
  simp [not_le.mpr later, roleAt]

theorem roleAt_eq_currentRole (dated : ∀ role ∈ roles, role.1.timestamp ≤ date) :
    roleAt roles userId date = currentRole roles userId := by
  rw [roleAt, List.filter_eq_self.mpr]
  intro role member
  exact decide_eq_true (dated role member)

theorem le_foldl_max {x : DateTime} {l : List DateTime} {init : DateTime}
    (below : x ≤ init ∨ x ∈ l) : x ≤ l.foldl max init := by
  induction l generalizing init with
  | nil => simpa using below
  | cons y rest ih =>
    apply ih
    rcases below with isInit | member
    · exact Or.inl (isInit.trans (le_max_left _ _))
    · rcases List.mem_cons.mp member with rfl | isRest
      · exact Or.inl (le_max_right _ _)
      · exact Or.inr isRest

theorem common_le_forRevocation {org : MemoryOrganization} :
    org.lastTimestamp .common ≤ org.lastTimestampForRevocation userId :=
  le_foldl_max (Or.inl (le_foldl_max (Or.inl (le_refl _))))

/-- A revocation comes after the vlobs of the realms that the user is part of. -/
theorem lastVlob_le_forRevocation {org : MemoryOrganization} {realmId : VlobID}
    {realm : MemoryRealm} {last : DateTime} (isRealm : org.realms.get? realmId = some realm)
    (hasRole : realm.getCurrentRoleFor userId ≠ none)
    (isLast : realm.lastVlobTimestamp = some last) :
    last ≤ org.lastTimestampForRevocation userId := by
  unfold lastTimestampForRevocation
  apply le_foldl_max
  refine Or.inl (le_foldl_max (Or.inr ?_))
  rw [List.mem_filterMap]
  refine ⟨realm, ?_, isLast⟩
  rw [realmsUserIsPartOf, List.mem_filter, Dict.values, List.mem_map]
  exact ⟨⟨_, Dict.get?_eq_some_iff.mp isRealm, rfl⟩,
    by simpa [Option.isSome_iff_ne_none] using hasRole⟩

end ParsecCloud.Server
