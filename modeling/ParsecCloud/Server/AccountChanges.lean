import ParsecCloud.Server.Accounts
import Mathlib.Data.List.Nodup
import Mathlib.Data.List.Perm.Basic

/- What a call makes of one account, and how accounts are found by their methods. The operations
   that disable methods do not all leave the disabled ones as they are. -/
namespace ParsecCloud.Server
open Certif

variable {data data' : AccountsData} {now : DateTime}

def MemoryAccount.methodIds (account : MemoryAccount) : List AccountAuthMethodID :=
  account.vaults.flatMap fun vault => vault.authenticationMethods.keys

/-- The ids of all the methods of all the accounts. -/
def AccountsData.methodIds (data : AccountsData) : List AccountAuthMethodID :=
  data.accounts.values.flatMap MemoryAccount.methodIds

def MemoryAccountVault.HasMethod (vault : MemoryAccountVault) (id : AccountAuthMethodID)
    (method : MemoryAuthenticationMethod) : Prop :=
  vault.authenticationMethods.get? id = some method

def AccountsData.HasMethod (data : AccountsData) (id : AccountAuthMethodID)
    (method : MemoryAuthenticationMethod) : Prop :=
  ∃ email account, data.accounts.get? email = some account ∧
    ∃ vault ∈ account.vaults, vault.HasMethod id method

def MemoryAccountVault.AllDisabled (vault : MemoryAccountVault) : Prop :=
  ∀ id method, vault.HasMethod id method → method.disabledOn ≠ none

/-- An account has active methods in its current vault only, with at most one password, and has
    one as long as it is not deleted. -/
structure AccountSound (account : MemoryAccount) : Prop where
  active : account.deletedOn = none →
    ∃ id method, account.currentVault.HasMethod id method ∧ method.disabledOn = none
  deleted : account.deletedOn ≠ none → account.currentVault.AllDisabled
  previous : ∀ vault ∈ account.previousVaults, vault.AllDisabled
  password : ∀ id id' method method', account.currentVault.HasMethod id method →
    account.currentVault.HasMethod id' method' → method.disabledOn = none →
    method'.disabledOn = none → method.passwordAlgorithm.isSome →
    method'.passwordAlgorithm.isSome → id = id'

section Ids

theorem mem_methodIds_of_hasMethod {account : MemoryAccount} {vault : MemoryAccountVault}
    {id : AccountAuthMethodID} {method : MemoryAuthenticationMethod}
    (member : vault ∈ account.vaults) (has : vault.HasMethod id method) :
    id ∈ account.methodIds :=
  List.mem_flatMap.mpr ⟨vault, member, Dict.mem_keys_of_mem (Dict.get?_eq_some_iff.mp has)⟩

theorem mem_methodIds {id : AccountAuthMethodID} {method : MemoryAuthenticationMethod}
    (has : data.HasMethod id method) : id ∈ data.methodIds := by
  obtain ⟨email, account, found, vault, member, has⟩ := has
  exact List.mem_flatMap.mpr
    ⟨account, Dict.mem_values_of_get? found, mem_methodIds_of_hasMethod member has⟩

theorem eq_of_nodup_flatMap {α β : Type} {f : α → List β} {l : List α} {a b : α} {x : β}
    (nodup : (l.flatMap f).Nodup) (isA : a ∈ l) (isB : b ∈ l) (inA : x ∈ f a) (inB : x ∈ f b) :
    a = b := by
  by_contra apart
  have disjoint := (List.nodup_flatMap.mp nodup).2
  have symmetric : Std.Symm (Function.onFun List.Disjoint f) :=
    ⟨fun _ _ apart => List.disjoint_comm.mp apart⟩
  exact disjoint.forall isA isB apart inA inB

theorem hasMethod_unique {id : AccountAuthMethodID} {method method' : MemoryAuthenticationMethod}
    (unique : data.methodIds.Nodup) (has : data.HasMethod id method)
    (has' : data.HasMethod id method') : method = method' := by
  obtain ⟨email, account, found, vault, member, has⟩ := has
  obtain ⟨email', account', found', vault', member', has'⟩ := has'
  have isValue := Dict.mem_values_of_get? found
  have sameAccount : account = account' :=
    eq_of_nodup_flatMap unique isValue (Dict.mem_values_of_get? found')
      (mem_methodIds_of_hasMethod member has) (mem_methodIds_of_hasMethod member' has')
  rw [← sameAccount] at member'
  have sameVault : vault = vault' :=
    eq_of_nodup_flatMap ((List.nodup_flatMap.mp unique).1 account isValue) member member'
      (Dict.mem_keys_of_mem (Dict.get?_eq_some_iff.mp has))
      (Dict.mem_keys_of_mem (Dict.get?_eq_some_iff.mp has'))
  rw [← sameVault] at has'
  exact Option.some.inj (has.symm.trans has')

end Ids

section Disable
variable {select : MemoryAuthenticationMethod → Bool} {vault : MemoryAccountVault}
  {id : AccountAuthMethodID} {method : MemoryAuthenticationMethod}

@[simp] theorem disableWhere_keys :
    (vault.disableWhere select now).authenticationMethods.keys =
      vault.authenticationMethods.keys :=
  Dict.keys_mapValues _ _

theorem disableWhere_hasMethod
    (has : (vault.disableWhere select now).HasMethod id method) :
    ∃ old, vault.HasMethod id old ∧ method = old.disableIf select now := by
  unfold MemoryAccountVault.HasMethod MemoryAccountVault.disableWhere at has
  rw [Dict.get?_mapValues] at has
  obtain ⟨old, isOld, rfl⟩ := Option.map_eq_some_iff.mp has
  exact ⟨old, isOld, rfl⟩

/-- A vault whose active methods are all selected has none any more. -/
theorem disableWhere_allDisabled (all : ∀ old, old.disabledOn = none → select old = true) :
    (vault.disableWhere select now).AllDisabled := by
  intro id method has
  obtain ⟨old, -, rfl⟩ := disableWhere_hasMethod has
  unfold MemoryAuthenticationMethod.disableIf
  split
  · exact Option.some_ne_none now
  · rename_i notSelected
    intro isActive
    exact notSelected (all old isActive)

theorem disableIf_of_disabled {old : MemoryAuthenticationMethod} {t : DateTime}
    (isDisabled : old.disabledOn = some t) (kept : select old = true → t = now) :
    (old.disableIf select now).disabledOn = some t := by
  unfold MemoryAuthenticationMethod.disableIf
  split
  · rename_i selected
    rw [kept selected]
  · exact isDisabled

theorem disableIf_active {old : MemoryAuthenticationMethod}
    (isActive : (old.disableIf select now).disabledOn = none) :
    select old = false ∧ old.disableIf select now = old := by
  unfold MemoryAuthenticationMethod.disableIf at isActive ⊢
  split at isActive
  · cases isActive
  · rename_i notSelected
    exact ⟨Bool.not_eq_true _ ▸ notSelected, if_neg notSelected⟩

theorem not_isActive_of_disabled {old : MemoryAuthenticationMethod} {t : DateTime}
    (isDisabled : old.disabledOn = some t) : ¬ old.isActive = true := by
  rw [MemoryAuthenticationMethod.isActive, isDisabled]
  exact Bool.false_ne_true

/-- A vault that takes the place of another, its disabled methods as they are. -/
def VaultKeeps (vault vault' : MemoryAccountVault) (newIds : List AccountAuthMethodID) : Prop :=
  ∀ id method, vault'.HasMethod id method → id ∈ newIds ∨ ∃ old, vault.HasMethod id old ∧
    ∀ t, old.disabledOn = some t → method.disabledOn = some t

theorem VaultKeeps.refl (vault : MemoryAccountVault) (newIds : List AccountAuthMethodID) :
    VaultKeeps vault vault newIds :=
  fun _ method has => .inr ⟨method, has, fun _ isDisabled => isDisabled⟩

theorem disableWhere_vaultKeeps {newIds : List AccountAuthMethodID}
    (kept : ∀ id old t, vault.HasMethod id old → old.disabledOn = some t →
      select old = true → t = now) :
    VaultKeeps vault (vault.disableWhere select now) newIds := by
  intro id method has
  obtain ⟨old, hasOld, rfl⟩ := disableWhere_hasMethod has
  right
  use old, hasOld
  intro t isDisabled
  exact disableIf_of_disabled isDisabled (kept id old t hasOld isDisabled)

end Disable

theorem newVault_hasMethod {items : Dict HashDigest (List Byte)} {new : NewAuthMethod}
    {id : AccountAuthMethodID} {method : MemoryAuthenticationMethod} :
    (newVault items new now).HasMethod id method ↔ id = new.id ∧ method = new.create now := by
  unfold MemoryAccountVault.HasMethod newVault
  rw [Dict.get?_set]
  split
  · rename_i same
    simp [same, eq_comm]
  · rename_i apart
    simp [apart]

theorem newVault_keys {items : Dict HashDigest (List Byte)} {new : NewAuthMethod} :
    (newVault items new now).authenticationMethods.keys = [new.id] := by
  unfold newVault Dict.keys
  rw [Dict.items_set_of_absent (Dict.get?_empty new.id)]
  rfl

theorem newVault_vaultKeeps {items : Dict HashDigest (List Byte)} {new : NewAuthMethod}
    (vault : MemoryAccountVault) : VaultKeeps vault (newVault items new now) [new.id] := by
  intro id method has
  left
  rw [(newVault_hasMethod.mp has).1]
  exact List.mem_singleton_self _

theorem newVault_sound {items : Dict HashDigest (List Byte)} {new : NewAuthMethod}
    {account : MemoryAccount} (isVault : account.currentVault = newVault items new now)
    (notDeleted : account.deletedOn = none)
    (previous : ∀ vault ∈ account.previousVaults, vault.AllDisabled) : AccountSound account := by
  constructor
  · intro _
    use new.id, new.create now
    rw [isVault]
    exact ⟨newVault_hasMethod.mpr ⟨rfl, rfl⟩, rfl⟩
  · intro isDeleted
    exact absurd notDeleted isDeleted
  · exact previous
  · intro id id' method method' has has' _ _ _ _
    rw [isVault] at has has'
    rw [(newVault_hasMethod.mp has).1, (newVault_hasMethod.mp has').1]

/-- How a call changes an account: its methods stay, the new ones added, and those that are
    disabled stay as they are. -/
structure AccountChange (account account' : MemoryAccount) (newIds : List AccountAuthMethodID) :
    Prop where
  email : account'.accountEmail = account.accountEmail
  ids : account'.methodIds.Perm (newIds ++ account.methodIds)
  sound : AccountSound account'
  disabled : ∀ vault' ∈ account'.vaults, ∃ vault ∈ account.vaults, VaultKeeps vault vault' newIds

section Changes
variable {account : MemoryAccount} {new : NewAuthMethod}

theorem methodIds_eq (account : MemoryAccount) :
    account.methodIds = account.currentVault.authenticationMethods.keys ++
      account.previousVaults.flatMap fun vault => vault.authenticationMethods.keys :=
  List.flatMap_cons

theorem deletedAccount_change (sound : AccountSound account) :
    AccountChange account (AccountsData.deletedAccount now account) [] := by
  have allDisabled : (account.currentVault.disableWhere (·.isActive) now).AllDisabled :=
    disableWhere_allDisabled fun old isActive => by
      rw [MemoryAuthenticationMethod.isActive, isActive]
      rfl
  constructor
  · rfl
  · rw [methodIds_eq, methodIds_eq]
    unfold AccountsData.deletedAccount
    rw [disableWhere_keys]
    exact List.Perm.refl _
  · constructor
    · intro isNone
      cases isNone
    · intro _
      exact allDisabled
    · exact sound.previous
    · intro id id' method method' has _ isActive
      exact absurd isActive (allDisabled id method has)
  · intro vault' member
    rcases List.mem_cons.mp member with isCurrent | isPrevious
    · use account.currentVault, List.mem_cons_self
      rw [isCurrent]
      apply disableWhere_vaultKeeps
      intro id old t _ isDisabled isActive
      exact absurd isActive (not_isActive_of_disabled isDisabled)
    · exact ⟨vault', List.mem_cons_of_mem _ isPrevious, VaultKeeps.refl vault' []⟩

/-- A vault replaced by a new one, whichever methods the loop has selected. -/
theorem replaceVault_change (now : DateTime) (new : NewAuthMethod)
    (items : Dict HashDigest (List Byte)) (select : MemoryAuthenticationMethod → Bool)
    (sound : AccountSound account)
    (notDeleted : account.deletedOn = none)
    (all : ∀ old : MemoryAuthenticationMethod, old.disabledOn = none → select old = true)
    (kept : ∀ id old t, account.currentVault.HasMethod id old → old.disabledOn = some t →
      select old = true → t = now) :
    AccountChange account (account.replaceVault (account.currentVault.disableWhere select now)
      (newVault items new now)) [new.id] := by
  constructor
  · rfl
  · rw [methodIds_eq, methodIds_eq]
    unfold MemoryAccount.replaceVault
    rw [newVault_keys, List.flatMap_append, List.flatMap_singleton, disableWhere_keys]
    exact (List.perm_append_comm).append_left [new.id]
  · apply newVault_sound (show _ = newVault items new now from rfl)
    · exact notDeleted
    intro vault member
    rcases List.mem_append.mp member with isPrevious | isOld
    · exact sound.previous vault isPrevious
    · rw [List.mem_singleton.mp isOld]
      exact disableWhere_allDisabled all
  · intro vault' member
    rcases List.mem_cons.mp member with isCurrent | isPrevious
    · use account.currentVault, List.mem_cons_self
      rw [isCurrent]
      exact newVault_vaultKeeps account.currentVault
    · rcases List.mem_append.mp isPrevious with isPrevious | isOld
      · exact ⟨vault', List.mem_cons_of_mem _ isPrevious, VaultKeeps.refl vault' _⟩
      · use account.currentVault, List.mem_cons_self
        rw [List.mem_singleton.mp isOld]
        exact disableWhere_vaultKeeps kept

theorem upload_change {items : Dict HashDigest (List Byte)} (sound : AccountSound account) :
    AccountChange account
      { account with currentVault := { account.currentVault with items := items } } [] := by
  constructor
  · rfl
  · exact List.Perm.refl _
  · exact ⟨sound.active, sound.deleted, sound.previous, sound.password⟩
  · intro vault' member
    rcases List.mem_cons.mp member with isCurrent | isPrevious
    · use account.currentVault, List.mem_cons_self
      rw [isCurrent]
      exact VaultKeeps.refl account.currentVault []
    · exact ⟨vault', List.mem_cons_of_mem _ isPrevious, VaultKeeps.refl vault' []⟩

theorem withNewMethod_vault (now : DateTime) (account : MemoryAccount) (new : NewAuthMethod) :
    ∃ select : MemoryAuthenticationMethod → Bool,
      (∀ old, select old = true → old.isActive = true) ∧
      (new.passwordAlgorithm.isSome → ∀ old, old.passwordAlgorithm.isSome → old.isActive = true →
        select old = true) ∧
      AccountsData.withNewMethod now account new =
        { account with
          currentVault := { account.currentVault.disableWhere select now with
            authenticationMethods :=
              (account.currentVault.disableWhere select now).authenticationMethods.set new.id
                (new.create now) } } := by
  by_cases hasPassword : new.passwordAlgorithm.isSome
  · use fun method => method.passwordAlgorithm.isSome && method.isActive
    constructor
    · intro old selected
      exact (Bool.and_eq_true_iff.mp selected).2
    constructor
    · intro _ old isPassword isActive
      rw [isPassword, isActive]
      rfl
    · unfold AccountsData.withNewMethod
      rw [if_pos hasPassword]
  · use fun _ => false
    constructor
    · intro old selected
      cases selected
    constructor
    · intro isPassword
      exact absurd isPassword hasPassword
    · unfold AccountsData.withNewMethod
      rw [if_neg hasPassword]
      have unchanged : account.currentVault.disableWhere (fun _ => false) now =
          account.currentVault := by
        unfold MemoryAccountVault.disableWhere MemoryAuthenticationMethod.disableIf
        unfold Dict.mapValues
        simp
      rw [unchanged]

theorem withNewMethod_change (sound : AccountSound account) (notDeleted : account.deletedOn = none)
    (fresh : new.id ∉ account.methodIds) :
    AccountChange account (AccountsData.withNewMethod now account new) [new.id] := by
  obtain ⟨select, onlyActive, passwords, isAccount⟩ := withNewMethod_vault now account new
  rw [isAccount]
  rw [methodIds_eq, List.mem_append, not_or] at fresh
  have absent : (account.currentVault.disableWhere select now).authenticationMethods.get? new.id =
      none := by
    rw [Dict.get?_eq_none_iff, disableWhere_keys]
    exact fresh.1
  have hasMethod : ∀ id method,
      ((account.currentVault.disableWhere select now).authenticationMethods.set new.id
        (new.create now)).get? id = some method →
      (id = new.id ∧ method = new.create now) ∨
        (account.currentVault.disableWhere select now).HasMethod id method := by
    intro id method has
    rw [Dict.get?_set] at has
    split at has
    · rename_i same
      exact .inl ⟨same, (Option.some.inj has).symm⟩
    · exact .inr has
  constructor
  · rfl
  · rw [methodIds_eq, methodIds_eq]
    change (List.map Prod.fst (Dict.items _) ++ _).Perm _
    rw [Dict.items_set_of_absent absent, List.map_append]
    change (Dict.keys _ ++ [new.id] ++ _).Perm _
    rw [disableWhere_keys, ← List.append_assoc]
    exact List.perm_append_comm.append_right _
  · constructor
    · intro _
      exact ⟨new.id, new.create now, Dict.get?_set_self _ _ _, rfl⟩
    · intro isDeleted
      exact absurd notDeleted isDeleted
    · exact sound.previous
    · have notPassword : ∀ id method,
          (account.currentVault.disableWhere select now).HasMethod id method →
          method.disabledOn = none → method.passwordAlgorithm.isSome →
          ¬ new.passwordAlgorithm.isSome := by
        intro id method has isActive isPassword newPassword
        obtain ⟨old, hasOld, rfl⟩ := disableWhere_hasMethod has
        obtain ⟨notSelected, same⟩ := disableIf_active isActive
        rw [same] at isActive isPassword
        have selected := passwords newPassword old isPassword (by
          rw [MemoryAuthenticationMethod.isActive, isActive]
          rfl)
        rw [selected] at notSelected
        cases notSelected
      intro id id' method method' has has' isActive isActive' isPassword isPassword'
      rcases hasMethod id method has with ⟨isNew, isMethod⟩ | isOld
      · rcases hasMethod id' method' has' with ⟨isNew', -⟩ | isOld'
        · rw [isNew, isNew']
        · rw [isMethod] at isPassword
          exact absurd isPassword (notPassword id' method' isOld' isActive' isPassword')
      · rcases hasMethod id' method' has' with ⟨-, isMethod'⟩ | isOld'
        · rw [isMethod'] at isPassword'
          exact absurd isPassword' (notPassword id method isOld isActive isPassword)
        · obtain ⟨old, hasOld, rfl⟩ := disableWhere_hasMethod isOld
          obtain ⟨old', hasOld', rfl⟩ := disableWhere_hasMethod isOld'
          have same := (disableIf_active isActive).2
          have same' := (disableIf_active isActive').2
          rw [same] at isActive isPassword
          rw [same'] at isActive' isPassword'
          exact sound.password id id' old old' hasOld hasOld' isActive isActive' isPassword
            isPassword'
  · intro vault' member
    rcases List.mem_cons.mp member with isCurrent | isPrevious
    · use account.currentVault, List.mem_cons_self
      rw [isCurrent]
      intro id method has
      rcases hasMethod id method has with ⟨isNew, -⟩ | isOld
      · left
        rw [isNew]
        exact List.mem_singleton_self _
      · apply disableWhere_vaultKeeps _ id method isOld
        intro id old t _ isDisabled selected
        exact absurd (onlyActive old selected) (not_isActive_of_disabled isDisabled)
    · exact ⟨vault', List.mem_cons_of_mem _ isPrevious, VaultKeeps.refl vault' _⟩

/-- An active method is disabled while another one stays. -/
theorem withDisabled_change {id other : AccountAuthMethodID}
    {method otherMethod : MemoryAuthenticationMethod} (sound : AccountSound account)
    (notDeleted : account.deletedOn = none) (has : account.currentVault.HasMethod id method)
    (isActive : method.disabledOn = none)
    (hasOther : account.currentVault.HasMethod other otherMethod)
    (otherActive : otherMethod.disabledOn = none) (apart : other ≠ id) :
    AccountChange account (AccountsData.withDisabled now account id) [] := by
  have isAccount : AccountsData.withDisabled now account id =
      { account with
        currentVault := { account.currentVault with
          authenticationMethods := account.currentVault.authenticationMethods.set id
            { method with disabledOn := some now } } } := by
    unfold MemoryAccountVault.HasMethod at has
    unfold AccountsData.withDisabled MemoryAccount.vaults disableInVaults
    rw [has]
  rw [isAccount]
  have hasMethod : ∀ id' method',
      (account.currentVault.authenticationMethods.set id
        { method with disabledOn := some now }).get? id' = some method' →
      (id' = id ∧ method'.disabledOn ≠ none) ∨ account.currentVault.HasMethod id' method' := by
    intro id' method' has'
    rcases Dict.found_set rfl has' with ⟨same, rfl⟩ | ⟨-, has'⟩
    · exact .inl ⟨same, Option.some_ne_none now⟩
    · exact .inr has'
  constructor
  · rfl
  · rw [methodIds_eq, methodIds_eq]
    change (Dict.keys (Dict.set _ _ _) ++ _).Perm _
    rw [Dict.keys_set_of_found has]
    exact List.Perm.refl _
  · constructor
    · intro _
      use other, otherMethod
      exact ⟨(Dict.get?_set_of_ne apart).trans hasOther, otherActive⟩
    · intro isDeleted
      exact absurd notDeleted isDeleted
    · exact sound.previous
    · intro first second method' method'' has' has'' active' active''
      rcases hasMethod first method' has' with ⟨-, isDisabled⟩ | isOld
      · exact absurd active' isDisabled
      · rcases hasMethod second method'' has'' with ⟨-, isDisabled⟩ | isOld'
        · exact absurd active'' isDisabled
        · exact sound.password first second method' method'' isOld isOld' active' active''
  · intro vault' member
    rcases List.mem_cons.mp member with isCurrent | isPrevious
    · use account.currentVault, List.mem_cons_self
      rw [isCurrent]
      intro id' method' has'
      rcases hasMethod id' method' has' with ⟨same, -⟩ | isOld
      · right
        use method
        rw [same]
        use has
        intro t isDisabled
        rw [isActive] at isDisabled
        cases isDisabled
      · exact VaultKeeps.refl account.currentVault [] id' method' isOld
    · exact ⟨vault', List.mem_cons_of_mem _ isPrevious, VaultKeeps.refl vault' []⟩

end Changes

section Search
variable {account : MemoryAccount} {method : MemoryAuthenticationMethod} {id : AccountAuthMethodID}

def AccountsData.Keyed (data : AccountsData) : Prop :=
  ∀ email account, data.accounts.get? email = some account → account.accountEmail = email

theorem AccountsData.Keyed.get?_of_mem (keyed : data.Keyed) (member : account ∈ data.accounts.values) :
    data.accounts.get? account.accountEmail = some account := by
  obtain ⟨email, found⟩ := Dict.get?_of_mem_values member
  rw [keyed email account found]
  exact found

/-- The account of an active method is stored and has that method in its current vault. -/
theorem getAccountFromActiveAuthMethod_some (keyed : data.Keyed)
    (isAccount : data.getAccountFromActiveAuthMethod id = .ok (some (account, method))) :
    data.accounts.get? account.accountEmail = some account ∧ account.deletedOn = none ∧
      account.currentVault.HasMethod id method ∧ method.disabledOn = none := by
  unfold AccountsData.getAccountFromActiveAuthMethod at isAccount
  split at isAccount
  · cases isAccount
  · rename_i found
    split at isAccount
    · cases isAccount
    · rename_i notDisabled
      split at isAccount
      · cases isAccount
      · rename_i notDeleted
        cases isAccount
        obtain ⟨stored, member, isFound⟩ := List.exists_of_findSome?_eq_some found
        obtain ⟨own, has, isPair⟩ := Option.map_eq_some_iff.mp isFound
        cases isPair
        rw [Option.not_isSome_iff_eq_none] at notDisabled notDeleted
        exact ⟨keyed.get?_of_mem member, notDeleted, has, notDisabled⟩

/-- The check of the search cannot fail, the methods of a deleted account are disabled. -/
theorem getAccountFromActiveAuthMethod_ok {error : Raised}
    (sound : ∀ email account, data.accounts.get? email = some account → AccountSound account) :
    data.getAccountFromActiveAuthMethod id ≠ .error error := by
  intro isError
  unfold AccountsData.getAccountFromActiveAuthMethod at isError
  split at isError
  · cases isError
  · rename_i account method found
    split at isError
    · cases isError
    · rename_i notDisabled
      split at isError
      · rename_i isDeleted
        obtain ⟨stored, member, isFound⟩ := List.exists_of_findSome?_eq_some found
        obtain ⟨own, has, isPair⟩ := Option.map_eq_some_iff.mp isFound
        cases isPair
        obtain ⟨email, isStored⟩ := Dict.get?_of_mem_values member
        rw [Option.not_isSome_iff_eq_none] at notDisabled
        have deleted : account.deletedOn ≠ none := by
          rw [← Option.isSome_iff_ne_none]
          exact isDeleted
        exact (sound email account isStored).deleted deleted id method has notDisabled
      · cases isError

theorem getAccountFromAnyAuthMethod_some
    (isAccount : data.getAccountFromAnyAuthMethod id = some (account, method)) :
    account ∈ data.accounts.values ∧ ∃ vault ∈ account.vaults, vault.HasMethod id method := by
  obtain ⟨stored, member, isFound⟩ := List.exists_of_findSome?_eq_some isAccount
  obtain ⟨own, has, isPair⟩ := Option.map_eq_some_iff.mp isFound
  cases isPair
  exact ⟨member, List.exists_of_findSome?_eq_some has⟩

theorem not_mem_methodIds_of_not_exists (absent : ¬ data.authMethodIdAlreadyExists id = true) :
    id ∉ data.methodIds := by
  intro member
  obtain ⟨account, isAccount, isId⟩ := List.mem_flatMap.mp member
  obtain ⟨vault, isVault, isKey⟩ := List.mem_flatMap.mp isId
  apply absent
  unfold AccountsData.authMethodIdAlreadyExists AccountsData.getAccountFromAnyAuthMethod
  rw [List.findSome?_isSome_iff]
  use account, isAccount
  rw [Option.isSome_map, List.findSome?_isSome_iff]
  use vault, isVault
  rw [Option.isSome_iff_ne_none]
  intro isNone
  exact Dict.get?_eq_none_iff.mp isNone isKey

theorem not_mem_account_methodIds (member : account ∈ data.accounts.values)
    (fresh : id ∉ data.methodIds) : id ∉ account.methodIds :=
  fun isId => fresh (List.mem_flatMap.mpr ⟨account, member, isId⟩)

end Search

end ParsecCloud.Server
