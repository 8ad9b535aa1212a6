import ParsecCloud.Server.AccountChanges
import ParsecCloud.Lib.Runs

/- The accounts over whole runs. The codes of the three tables outlive the operations that should
   put an end to them. -/
namespace ParsecCloud.Server
open Certif Runs

variable {data data' : AccountsData} {now : DateTime}

/-- What the codes that can still be used say about the accounts. -/
structure TablesSound (data : AccountsData) (accounts : Dict EmailAddress MemoryAccount) :
    Prop where
  create : ∀ email, data.accountCreateValidationEmails.get? email ≠ none →
    accounts.get? email = none
  recover : ∀ email info, data.accountRecoverValidationEmails.get? email = some info →
    info.hasRemainingAttempts = true →
      ∃ account, accounts.get? email = some account ∧ account.deletedOn = none

structure AccountsInvariant (data : AccountsData) : Prop where
  keyed : data.Keyed
  sound : ∀ email account, data.accounts.get? email = some account → AccountSound account
  unique : data.methodIds.Nodup
  tables : TablesSound data data.accounts

/-- A disabled method is still there, disabled at the same date. -/
def DisabledKept (data data' : AccountsData) : Prop :=
  ∀ id method t, data.HasMethod id method → method.disabledOn = some t →
    ∃ method', data'.HasMethod id method' ∧ method'.disabledOn = some t

/-- What a request does to the accounts. -/
inductive AccountsEffect (data data' : AccountsData) : Prop where
  | same (accounts : data'.accounts = data.accounts)
  | put {account account' : MemoryAccount} {newIds : List AccountAuthMethodID}
      (found : data.accounts.get? account.accountEmail = some account)
      (change : AccountChange account account' newIds) (nodup : newIds.Nodup)
      (fresh : ∀ id ∈ newIds, id ∉ data.methodIds)
      (isPut : data'.accounts = data.accounts.set account.accountEmail account')
      (deleted : account'.deletedOn = account.deletedOn ∨
        ∀ info, data'.accountRecoverValidationEmails.get? account.accountEmail = some info →
          info.hasRemainingAttempts = false)
  | created {account : MemoryAccount} {id : AccountAuthMethodID}
      (absent : data.accounts.get? account.accountEmail = none) (ids : account.methodIds = [id])
      (fresh : id ∉ data.methodIds) (sound : AccountSound account)
      (isPut : data'.accounts = data.accounts.set account.accountEmail account)
      (codes : data'.accountCreateValidationEmails.get? account.accountEmail = none)

section Effects

theorem mem_methodIds_iff {id : AccountAuthMethodID} :
    id ∈ data.methodIds ↔ ∃ method, data.HasMethod id method := by
  constructor
  · intro member
    obtain ⟨account, isAccount, isId⟩ := List.mem_flatMap.mp member
    obtain ⟨vault, isVault, isKey⟩ := List.mem_flatMap.mp isId
    obtain ⟨email, found⟩ := Dict.get?_of_mem_values isAccount
    have present : vault.authenticationMethods.get? id ≠ none :=
      fun isNone => Dict.get?_eq_none_iff.mp isNone isKey
    obtain ⟨method, has⟩ := Option.ne_none_iff_exists'.mp present
    exact ⟨method, email, account, found, vault, isVault, has⟩
  · intro has
    obtain ⟨method, has⟩ := has
    exact mem_methodIds has

theorem disabledKept_of_ids (unique : data.methodIds.Nodup)
    (ids : ∀ id ∈ data.methodIds, id ∈ data'.methodIds)
    (kept : ∀ id method, data'.HasMethod id method → id ∉ data.methodIds ∨
      ∃ old, data.HasMethod id old ∧ ∀ t, old.disabledOn = some t → method.disabledOn = some t) :
    DisabledKept data data' := by
  intro id method t has isDisabled
  have member := mem_methodIds has
  obtain ⟨method', has'⟩ := mem_methodIds_iff.mp (ids id member)
  use method', has'
  rcases kept id method' has' with isNew | isOld
  · exact absurd member isNew
  · obtain ⟨old, hasOld, same⟩ := isOld
    apply same t
    rw [hasMethod_unique unique hasOld has]
    exact isDisabled

theorem methodIds_put {account account' : MemoryAccount} {newIds : List AccountAuthMethodID}
    (found : data.accounts.get? account.accountEmail = some account)
    (ids : account'.methodIds.Perm (newIds ++ account.methodIds))
    (isPut : data'.accounts = data.accounts.set account.accountEmail account') :
    data'.methodIds.Perm (newIds ++ data.methodIds) := by
  unfold AccountsData.methodIds
  rw [isPut]
  obtain ⟨front, back, before, after⟩ := Dict.values_set_of_found (v := account') found
  rw [before, after, List.flatMap_append, List.flatMap_append, List.flatMap_cons,
    List.flatMap_cons]
  have replaced := (ids.append_right (back.flatMap MemoryAccount.methodIds)).append_left
    (front.flatMap MemoryAccount.methodIds)
  apply replaced.trans
  rw [List.append_assoc, ← List.append_assoc, ← List.append_assoc newIds]
  exact List.perm_append_comm.append_right _

theorem methodIds_created {account : MemoryAccount}
    (absent : data.accounts.get? account.accountEmail = none)
    (isPut : data'.accounts = data.accounts.set account.accountEmail account) :
    data'.methodIds = data.methodIds ++ account.methodIds := by
  unfold AccountsData.methodIds
  rw [isPut, Dict.values_set_of_absent absent, List.flatMap_append, List.flatMap_singleton]

theorem put_get? {account account' : MemoryAccount} {email : EmailAddress}
    {stored : MemoryAccount}
    (isPut : data'.accounts = data.accounts.set account.accountEmail account')
    (found : data'.accounts.get? email = some stored) :
    (email = account.accountEmail ∧ stored = account') ∨
      data.accounts.get? email = some stored := by
  rw [isPut, Dict.get?_set] at found
  split at found
  · rename_i same
    exact .inl ⟨same, (Option.some.inj found).symm⟩
  · exact .inr found

theorem AccountsInvariant.put {account account' : MemoryAccount}
    {newIds : List AccountAuthMethodID} (inv : AccountsInvariant data)
    (tables : TablesSound data' data.accounts)
    (found : data.accounts.get? account.accountEmail = some account)
    (change : AccountChange account account' newIds) (nodup : newIds.Nodup)
    (fresh : ∀ id ∈ newIds, id ∉ data.methodIds)
    (isPut : data'.accounts = data.accounts.set account.accountEmail account')
    (deleted : account'.deletedOn = account.deletedOn ∨
      ∀ info, data'.accountRecoverValidationEmails.get? account.accountEmail = some info →
        info.hasRemainingAttempts = false) :
    AccountsInvariant data' ∧ DisabledKept data data' := by
  have ids := methodIds_put found change.ids isPut
  constructor
  · constructor
    · intro email stored isStored
      rcases put_get? isPut isStored with ⟨isEmail, isAccount⟩ | isOld
      · rw [isEmail, isAccount, change.email]
      · exact inv.keyed email stored isOld
    · intro email stored isStored
      rcases put_get? isPut isStored with ⟨-, isAccount⟩ | isOld
      · rw [isAccount]
        exact change.sound
      · exact inv.sound email stored isOld
    · rw [ids.nodup_iff, List.nodup_append]
      use nodup, inv.unique
      intro id isNew id' isOld same
      rw [← same] at isOld
      exact fresh id isNew isOld
    · constructor
      · intro email hasCode
        have absent := tables.create email hasCode
        rw [isPut, Dict.get?_set_of_ne]
        · exact absent
        · intro same
          rw [same, found] at absent
          cases absent
      · intro email info hasCode remaining
        obtain ⟨stored, isStored, notDeleted⟩ := tables.recover email info hasCode remaining
        by_cases same : email = account.accountEmail
        · rw [same] at hasCode isStored ⊢
          rw [found] at isStored
          cases isStored
          use account'
          rw [isPut, Dict.get?_set_self]
          rcases deleted with isSame | unusable
          · exact ⟨rfl, isSame.trans notDeleted⟩
          · rw [unusable info hasCode] at remaining
            cases remaining
        · use stored
          rw [isPut, Dict.get?_set_of_ne same]
          exact ⟨isStored, notDeleted⟩
  · apply disabledKept_of_ids inv.unique
    · intro id member
      rw [ids.mem_iff]
      exact List.mem_append_right _ member
    · intro id method has
      obtain ⟨email, stored, isStored, vault, isVault, hasMethod⟩ := has
      rcases put_get? isPut isStored with ⟨-, isAccount⟩ | isOld
      · rw [isAccount] at isVault
        obtain ⟨old, isOldVault, keeps⟩ := change.disabled vault isVault
        rcases keeps id method hasMethod with isNew | isKept
        · exact .inl (fresh id isNew)
        · obtain ⟨oldMethod, hasOld, same⟩ := isKept
          exact .inr ⟨oldMethod, ⟨_, account, found, old, isOldVault, hasOld⟩, same⟩
      · exact .inr ⟨method, ⟨email, stored, isOld, vault, isVault, hasMethod⟩,
          fun _ isDisabled => isDisabled⟩

theorem AccountsInvariant.created {account : MemoryAccount} {id : AccountAuthMethodID}
    (inv : AccountsInvariant data) (tables : TablesSound data' data.accounts)
    (absent : data.accounts.get? account.accountEmail = none) (ids : account.methodIds = [id])
    (fresh : id ∉ data.methodIds) (sound : AccountSound account)
    (isPut : data'.accounts = data.accounts.set account.accountEmail account)
    (codes : data'.accountCreateValidationEmails.get? account.accountEmail = none) :
    AccountsInvariant data' ∧ DisabledKept data data' := by
  have allIds := methodIds_created absent isPut
  rw [ids] at allIds
  constructor
  · constructor
    · intro email stored isStored
      rcases put_get? isPut isStored with ⟨isEmail, isAccount⟩ | isOld
      · rw [isEmail, isAccount]
      · exact inv.keyed email stored isOld
    · intro email stored isStored
      rcases put_get? isPut isStored with ⟨-, isAccount⟩ | isOld
      · rw [isAccount]
        exact sound
      · exact inv.sound email stored isOld
    · rw [allIds, List.nodup_append]
      use inv.unique, List.nodup_singleton id
      intro old isOld new isNew same
      rw [List.mem_singleton.mp isNew] at same
      rw [same] at isOld
      exact fresh isOld
    · constructor
      · intro email hasCode
        rw [isPut, Dict.get?_set_of_ne]
        · exact tables.create email hasCode
        · intro same
          rw [same] at hasCode
          exact hasCode codes
      · intro email info hasCode remaining
        obtain ⟨stored, isStored, notDeleted⟩ := tables.recover email info hasCode remaining
        use stored
        rw [isPut]
        exact ⟨Dict.kept_set absent isStored, notDeleted⟩
  · apply disabledKept_of_ids inv.unique
    · intro old member
      rw [allIds]
      exact List.mem_append_left _ member
    · intro old method has
      obtain ⟨email, stored, isStored, vault, isVault, hasMethod⟩ := has
      rcases put_get? isPut isStored with ⟨-, isAccount⟩ | isOld
      · left
        have isId := mem_methodIds_of_hasMethod isVault hasMethod
        rw [isAccount, ids] at isId
        rw [List.mem_singleton.mp isId]
        exact fresh
      · exact .inr ⟨method, ⟨email, stored, isOld, vault, isVault, hasMethod⟩,
          fun _ isDisabled => isDisabled⟩

theorem AccountsInvariant.effect (inv : AccountsInvariant data)
    (tables : TablesSound data' data.accounts) (effect : AccountsEffect data data') :
    AccountsInvariant data' ∧ DisabledKept data data' := by
  cases effect with
  | same accounts =>
    have sameIds : data'.methodIds = data.methodIds := by
      unfold AccountsData.methodIds
      rw [accounts]
    have kept : DisabledKept data data' := by
      intro id method t has isDisabled
      use method
      unfold AccountsData.HasMethod at has ⊢
      rw [accounts]
      exact ⟨has, isDisabled⟩
    use ?_, kept
    constructor
    · unfold AccountsData.Keyed
      rw [accounts]
      exact inv.keyed
    · rw [accounts]
      exact inv.sound
    · rw [sameIds]
      exact inv.unique
    · rw [accounts]
      exact tables
  | put found change nodup fresh isPut deleted =>
    exact inv.put tables found change nodup fresh isPut deleted
  | created absent ids fresh sound isPut codes =>
    exact inv.created tables absent ids fresh sound isPut codes

end Effects

section Codes
variable {emails : ValidationEmails} {email : EmailAddress} {code : ValidationCode}

theorem checkValidationCode_codes {email' : EmailAddress} {info : ValidationCodeInfo}
    (hasCode : (checkValidationCode emails now email code).1.get? email' = some info) :
    ∃ old, emails.get? email' = some old ∧
      (info.hasRemainingAttempts = true → old.hasRemainingAttempts = true) := by
  unfold checkValidationCode at hasCode
  split at hasCode
  · exact ⟨info, hasCode, id⟩
  · rename_i last isLast
    split at hasCode
    · exact ⟨info, hasCode, id⟩
    · split at hasCode
      · rw [Dict.get?_set] at hasCode
        split at hasCode
        · rename_i same
          cases hasCode
          use last
          rw [same]
          use isLast
          unfold ValidationCodeInfo.hasRemainingAttempts
          intro remaining
          rw [decide_eq_true_iff] at remaining ⊢
          exact Nat.lt_of_succ_lt remaining
        · exact ⟨info, hasCode, id⟩
      · exact ⟨info, hasCode, id⟩

theorem checkValidationCode_ok (isOk : (checkValidationCode emails now email code).2 = .ok ()) :
    (checkValidationCode emails now email code).1 = emails ∧
      ∃ info, emails.get? email = some info ∧ info.hasRemainingAttempts = true := by
  unfold checkValidationCode at isOk ⊢
  split at isOk
  · cases isOk
  · rename_i last isLast
    split at isOk
    · cases isOk
    · rename_i usable
      split at isOk
      · cases isOk
      · rename_i sameCode
        rw [isLast]
        rw [Bool.not_eq_true, Bool.not_eq_false'] at usable
        have remaining := (Bool.and_eq_true_iff.mp usable).2
        simp only [usable, Bool.not_true, Bool.false_eq_true, if_false, if_neg sameCode, true_and]
        exact ⟨last, rfl, remaining⟩

end Codes

/-- What a request does: no assertion fails, and the invariant can be established again. -/
structure RequestEffect (data : AccountsData) (result : AccountsData × AccountOutcome) : Prop where
  tables : TablesSound result.1 data.accounts
  effect : AccountsEffect data result.1
  accepted : ∀ error, result.2 ≠ .raised error

section Requests
variable {email : EmailAddress} {code : ValidationCode} {id : AccountAuthMethodID}
  {new : NewAuthMethod}

theorem AccountsInvariant.refused (inv : AccountsInvariant data)
    (outcome : AccountBadOutcome) : RequestEffect data (data, .bad outcome) := by
  constructor
  · exact inv.tables
  · exact .same rfl
  · intro error isRaised
    cases isRaised

theorem AccountsInvariant.withAccount {next : MemoryAccount → AccountsData × AccountOutcome}
    (inv : AccountsInvariant data)
    (effect : ∀ account method,
      data.getAccountFromActiveAuthMethod id = .ok (some (account, method)) →
        RequestEffect data (next account)) :
    RequestEffect data (data.withAccount id next) := by
  unfold AccountsData.withAccount
  split
  · rename_i error isError
    exact absurd isError (getAccountFromActiveAuthMethod_ok inv.sound)
  · exact inv.refused .accountNotFound
  · rename_i account method isAccount
    exact effect account method isAccount

theorem AccountsInvariant.createSendValidationEmail (inv : AccountsInvariant data) :
    RequestEffect data (data.createSendValidationEmail now email code) := by
  unfold AccountsData.createSendValidationEmail
  split
  · rename_i isStored
    split
    · rename_i hasCode
      rw [Option.isSome_iff_ne_none] at hasCode isStored
      exact absurd (inv.tables.create email hasCode) isStored
    · exact inv.refused .accountAlreadyExists
  · rename_i absent
    rw [Option.not_isSome_iff_eq_none] at absent
    constructor
    · constructor
      · intro email' hasCode
        by_cases same : email' = email
        · rw [same]
          exact absent
        · apply inv.tables.create email'
          rw [Dict.get?_set_of_ne same] at hasCode
          exact hasCode
      · exact inv.tables.recover
    · exact .same rfl
    · intro error isRaised
      cases isRaised

theorem AccountsInvariant.createCodes (inv : AccountsInvariant data) :
    TablesSound
      { data with
        accountCreateValidationEmails :=
          (checkValidationCode data.accountCreateValidationEmails now email code).1 }
      data.accounts := by
  constructor
  · intro email' hasCode
    obtain ⟨info, isInfo⟩ := Option.ne_none_iff_exists'.mp hasCode
    obtain ⟨old, isOld, -⟩ := checkValidationCode_codes isInfo
    apply inv.tables.create email'
    rw [isOld]
    exact Option.some_ne_none old
  · exact inv.tables.recover

/-- A code that passes the check is for an address without account. -/
theorem AccountsInvariant.createAccountCheckCode (inv : AccountsInvariant data) :
    RequestEffect data (data.createAccountCheckCode now email code) := by
  unfold AccountsData.createAccountCheckCode
  dsimp only
  split
  · constructor
    · exact inv.createCodes
    · exact .same rfl
    · intro error isRaised
      cases isRaised
  · rename_i isOk
    split
    · rename_i isStored
      obtain ⟨-, info, isInfo, -⟩ := checkValidationCode_ok isOk
      rw [Option.isSome_iff_ne_none] at isStored
      exact absurd (inv.tables.create email (isInfo ▸ Option.some_ne_none info)) isStored
    · constructor
      · exact inv.createCodes
      · exact .same rfl
      · intro error isRaised
        cases isRaised

theorem createAccountCheckCode_done
    (isDone : data.createAccountCheckCode now email code = (data', .done)) :
    data' = data ∧ data.accounts.get? email = none := by
  unfold AccountsData.createAccountCheckCode at isDone
  dsimp only at isDone
  split at isDone
  · cases isDone
  · rename_i isOk
    split at isDone
    · cases isDone
    · rename_i absent
      rw [(checkValidationCode_ok isOk).1] at isDone
      cases isDone
      exact ⟨rfl, Option.not_isSome_iff_eq_none.mp absent⟩

theorem AccountsInvariant.createProceed {humanHandle : HumanHandle}
    (inv : AccountsInvariant data) :
    RequestEffect data (data.createProceed now code humanHandle new) := by
  unfold AccountsData.createProceed
  split
  · rename_i checked isDone
    obtain ⟨same, absent⟩ := createAccountCheckCode_done isDone
    rw [same]
    split
    · exact inv.refused .authMethodIdAlreadyExists
    · rename_i notExists
      let account : MemoryAccount :=
        ⟨humanHandle.email, humanHandle, newVault .empty new now, [], none⟩
      have ids : account.methodIds = [new.id] := by
        rw [methodIds_eq, newVault_keys]
        rfl
      have sound : AccountSound account := by
        apply newVault_sound (show _ = newVault .empty new now from rfl) rfl
        intro vault isPrevious
        cases isPrevious
      have codes : (data.accountCreateValidationEmails.erase humanHandle.email).get?
          account.accountEmail = none := by
        rw [Dict.get?_erase, if_pos rfl]
      constructor
      · constructor
        · intro email hasCode
          apply inv.tables.create email
          change (data.accountCreateValidationEmails.erase humanHandle.email).get? email ≠ none
            at hasCode
          rw [Dict.get?_erase] at hasCode
          split at hasCode
          · exact absurd rfl hasCode
          · exact hasCode
        · exact inv.tables.recover
      · exact .created absent ids (not_mem_methodIds_of_not_exists notExists) sound rfl codes
      · intro error isRaised
        cases isRaised
  · rename_i result outcome notDone isResult
    rw [← isResult]
    exact inv.createAccountCheckCode

theorem AccountsInvariant.deleteSendValidationEmail (inv : AccountsInvariant data) :
    RequestEffect data (data.deleteSendValidationEmail now id code) := by
  apply inv.withAccount
  intro account method _
  constructor
  · exact ⟨inv.tables.create, inv.tables.recover⟩
  · exact .same rfl
  · intro error isRaised
    cases isRaised

/-- The condition is that no code that could bring the account back is left. -/
theorem AccountsInvariant.deleteProceed (inv : AccountsInvariant data)
    (noRecovery : ∀ account method,
      data.getAccountFromActiveAuthMethod id = .ok (some (account, method)) →
      (checkValidationCode data.accountDeleteValidationEmails now account.accountEmail code).2 =
        .ok () →
      ∀ info, data.accountRecoverValidationEmails.get? account.accountEmail = some info →
        info.hasRemainingAttempts = false) :
    RequestEffect data (data.deleteProceed now id code) := by
  apply inv.withAccount
  intro account method isAccount
  obtain ⟨found, notDeleted, -, -⟩ := getAccountFromActiveAuthMethod_some inv.keyed isAccount
  have sound := inv.sound _ account found
  rw [notDeleted]
  simp only [Option.isSome_none, Bool.false_eq_true, if_false]
  split
  · constructor
    · exact ⟨inv.tables.create, inv.tables.recover⟩
    · exact .same rfl
    · intro error isRaised
      cases isRaised
  · rename_i isOk
    constructor
    · exact ⟨inv.tables.create, inv.tables.recover⟩
    · have change : AccountChange account (AccountsData.deletedAccount now account) [] :=
        deletedAccount_change sound
      exact .put found change List.nodup_nil
        (fun _ isNew => by cases isNew) rfl (.inr (noRecovery account method isAccount isOk))
    · intro error isRaised
      cases isRaised

theorem AccountsInvariant.recoverSendValidationEmail (inv : AccountsInvariant data) :
    RequestEffect data (data.recoverSendValidationEmail now email code) := by
  unfold AccountsData.recoverSendValidationEmail
  split
  · exact inv.refused .accountNotFound
  · rename_i account found
    split
    · exact inv.refused .accountNotFound
    · rename_i notDeleted
      rw [Option.not_isSome_iff_eq_none] at notDeleted
      constructor
      · constructor
        · exact inv.tables.create
        · intro email' info hasCode remaining
          by_cases same : email' = email
          · rw [same]
            exact ⟨account, found, notDeleted⟩
          · apply inv.tables.recover email' info _ remaining
            rw [Dict.get?_set_of_ne same] at hasCode
            exact hasCode
      · exact .same rfl
      · intro error isRaised
        cases isRaised

theorem AccountsInvariant.recoverCodes (inv : AccountsInvariant data) :
    TablesSound
      { data with
        accountRecoverValidationEmails :=
          (checkValidationCode data.accountRecoverValidationEmails now email code).1 }
      data.accounts := by
  constructor
  · exact inv.tables.create
  · intro email' info hasCode remaining
    obtain ⟨old, isOld, stillRemaining⟩ := checkValidationCode_codes hasCode
    exact inv.tables.recover email' old isOld (stillRemaining remaining)

/-- A code that passes the check is for an account that is not deleted. -/
theorem AccountsInvariant.recoverProceed (inv : AccountsInvariant data) :
    RequestEffect data (data.recoverProceed now code email new) := by
  unfold AccountsData.recoverProceed
  dsimp only
  split
  · constructor
    · exact inv.recoverCodes
    · exact .same rfl
    · intro error isRaised
      cases isRaised
  · rename_i isOk
    obtain ⟨same, info, isInfo, remaining⟩ := checkValidationCode_ok isOk
    obtain ⟨account, found, notDeleted⟩ := inv.tables.recover email info isInfo remaining
    have isEmail := inv.keyed email account found
    rw [same]
    split
    · rename_i absent
      rw [found] at absent
      cases absent
    · rename_i stored isStored
      rw [found] at isStored
      cases isStored
      rw [notDeleted]
      simp only [Option.isSome_none, Bool.false_eq_true, if_false]
      split
      · exact inv.refused .authMethodIdAlreadyExists
      · rename_i notExists
        have change := replaceVault_change now new .empty (·.isActive)
          (inv.sound email account found) notDeleted
        rw [← isEmail] at found
        constructor
        · constructor
          · exact inv.tables.create
          · intro email' info hasCode remaining
            change (data.accountRecoverValidationEmails.erase email).get? email' = some info
              at hasCode
            rw [Dict.get?_erase] at hasCode
            split at hasCode
            · cases hasCode
            · exact inv.tables.recover email' info hasCode remaining
        · refine .put found (change ?_ ?_) (List.nodup_singleton _) ?_ rfl (.inl rfl)
          · intro old isActive
            rw [MemoryAuthenticationMethod.isActive, isActive]
            rfl
          · intro id old t _ isDisabled isActive
            exact absurd isActive (not_isActive_of_disabled isDisabled)
          · intro id isNew
            rw [List.mem_singleton.mp isNew]
            exact not_mem_methodIds_of_not_exists notExists
        · intro error isRaised
          cases isRaised

theorem AccountsInvariant.vaultItemUpload {fingerprint : HashDigest} {item : List Byte}
    (inv : AccountsInvariant data) :
    RequestEffect data (data.vaultItemUpload id fingerprint item) := by
  apply inv.withAccount
  intro account method isAccount
  obtain ⟨found, notDeleted, -, -⟩ := getAccountFromActiveAuthMethod_some inv.keyed isAccount
  split
  · exact inv.refused .fingerprintAlreadyExists
  · constructor
    · exact ⟨inv.tables.create, inv.tables.recover⟩
    · exact .put found (upload_change (inv.sound _ account found)) List.nodup_nil
        (fun _ isNew => by cases isNew) rfl (.inl rfl)
    · intro error isRaised
      cases isRaised

/-- The condition is that no method was disabled at another date. -/
theorem AccountsInvariant.vaultKeyRotation {items : Dict HashDigest (List Byte)}
    (inv : AccountsInvariant data)
    (noneBefore : ∀ account method,
      data.getAccountFromActiveAuthMethod id = .ok (some (account, method)) →
      data.authMethodIdAlreadyExists new.id = false →
      account.currentVault.items.keys.toFinset = items.keys.toFinset →
      ∀ id' old t, account.currentVault.HasMethod id' old → old.disabledOn = some t → t = now) :
    RequestEffect data (data.vaultKeyRotation now id new items) := by
  apply inv.withAccount
  intro account method isAccount
  obtain ⟨found, notDeleted, -, -⟩ := getAccountFromActiveAuthMethod_some inv.keyed isAccount
  split
  · exact inv.refused .newAuthMethodIdAlreadyExists
  · rename_i notExists
    split
    · exact inv.refused .itemsMismatch
    · rename_i sameItems
      have kept := noneBefore account method isAccount (Bool.not_eq_true _ ▸ notExists)
        (not_not.mp sameItems)
      have change := replaceVault_change now new items (fun _ => true)
        (inv.sound _ account found) notDeleted (fun _ _ => rfl)
        (fun id' old t has isDisabled _ => kept id' old t has isDisabled)
      constructor
      · exact ⟨inv.tables.create, inv.tables.recover⟩
      · refine .put found change (List.nodup_singleton _) ?_ rfl (.inl rfl)
        intro id isNew
        rw [List.mem_singleton.mp isNew]
        exact not_mem_methodIds_of_not_exists notExists
      · intro error isRaised
        cases isRaised

theorem AccountsInvariant.authMethodCreate (inv : AccountsInvariant data) :
    RequestEffect data (data.authMethodCreate now id new) := by
  apply inv.withAccount
  intro account method isAccount
  obtain ⟨found, notDeleted, -, -⟩ := getAccountFromActiveAuthMethod_some inv.keyed isAccount
  split
  · exact inv.refused .authMethodIdAlreadyExists
  · rename_i notExists
    have fresh := not_mem_methodIds_of_not_exists notExists
    have change : AccountChange account (AccountsData.withNewMethod now account new) [new.id] :=
      withNewMethod_change (inv.sound _ account found) notDeleted
        (not_mem_account_methodIds (Dict.mem_values_of_get? found) fresh)
    constructor
    · exact ⟨inv.tables.create, inv.tables.recover⟩
    · refine .put found change (List.nodup_singleton _) ?_ rfl (.inl ?_)
      · intro id isNew
        rw [List.mem_singleton.mp isNew]
        exact fresh
      · obtain ⟨select, -, -, isAccount⟩ := withNewMethod_vault now account new
        rw [isAccount]
    · intro error isRaised
      cases isRaised

/-- The method to disable is active, and hence in the current vault as the one that asks. -/
theorem AccountsInvariant.authMethodDisable {toDisable : AccountAuthMethodID}
    (inv : AccountsInvariant data) :
    RequestEffect data (data.authMethodDisable now id toDisable) := by
  unfold AccountsData.authMethodDisable
  split
  · exact inv.refused .selfDisableNotAllowed
  · rename_i apart
    apply inv.withAccount
    intro account method isAccount
    obtain ⟨found, notDeleted, has, isActive⟩ :=
      getAccountFromActiveAuthMethod_some inv.keyed isAccount
    have sound := inv.sound _ account found
    split
    · exact inv.refused .authMethodNotFound
    · rename_i target targetMethod isTarget
      split
      · exact inv.refused .crossAccountNotAllowed
      · rename_i sameEmail
        split
        · exact inv.refused .authMethodAlreadyDisabled
        · rename_i notDisabled
          rw [Option.not_isSome_iff_eq_none] at notDisabled
          obtain ⟨member, vault, isVault, hasTarget⟩ := getAccountFromAnyAuthMethod_some isTarget
          have same : target = account := by
            have isStored := inv.keyed.get?_of_mem member
            rw [not_not.mp sameEmail, found] at isStored
            exact (Option.some.inj isStored).symm
          rw [same] at isVault
          have hasCurrent : account.currentVault.HasMethod toDisable targetMethod := by
            rcases List.mem_cons.mp isVault with isCurrent | isPrevious
            · rw [← isCurrent]
              exact hasTarget
            · exact absurd notDisabled
                (sound.previous vault isPrevious toDisable targetMethod hasTarget)
          have change : AccountChange account
              (AccountsData.withDisabled now account toDisable) [] :=
            withDisabled_change sound notDeleted hasCurrent notDisabled has isActive apart
          constructor
          · exact ⟨inv.tables.create, inv.tables.recover⟩
          · refine .put found change List.nodup_nil (fun _ isNew => by cases isNew) ?_ (.inl ?_)
            · unfold AccountsData.putAccount
              rw [change.email]
            · unfold AccountsData.withDisabled
              split
              · rfl
              · rfl
          · intro error isRaised
            cases isRaised

end Requests

def AccountsData.Step (data : AccountsData) (t : DateTime × AccountRequest)
    (data' : AccountsData) : Prop :=
  (data.run t.1 t.2).1 = data'

/-- The requests after which the accounts are as they should be: an account is deleted when no
    recovery code with attempts left is stored for its address, and a key rotation finds no method
    of the vault disabled at another date. -/
def AccountsData.Spared (data : AccountsData) (t : DateTime × AccountRequest) : Prop :=
  match t.2 with
  | .deleteProceed id code => ∀ account method,
      data.getAccountFromActiveAuthMethod id = .ok (some (account, method)) →
      (checkValidationCode data.accountDeleteValidationEmails t.1 account.accountEmail code).2 =
        .ok () →
      ∀ info, data.accountRecoverValidationEmails.get? account.accountEmail = some info →
        info.hasRemainingAttempts = false
  | .vaultKeyRotation id new items => ∀ account method,
      data.getAccountFromActiveAuthMethod id = .ok (some (account, method)) →
      data.authMethodIdAlreadyExists new.id = false →
      account.currentVault.items.keys.toFinset = items.keys.toFinset →
      ∀ id' old date, account.currentVault.HasMethod id' old → old.disabledOn = some date →
        date = t.1
  | _ => True

theorem AccountsInvariant.run (inv : AccountsInvariant data) {request : AccountRequest}
    (spared : data.Spared (now, request)) : RequestEffect data (data.run now request) := by
  cases request with
  | createSendValidationEmail => exact inv.createSendValidationEmail
  | createCheckValidationCode => exact inv.createAccountCheckCode
  | createProceed => exact inv.createProceed
  | deleteSendValidationEmail => exact inv.deleteSendValidationEmail
  | deleteProceed => exact inv.deleteProceed spared
  | recoverSendValidationEmail => exact inv.recoverSendValidationEmail
  | recoverProceed => exact inv.recoverProceed
  | vaultItemUpload => exact inv.vaultItemUpload
  | vaultKeyRotation => exact inv.vaultKeyRotation spared
  | authMethodCreate => exact inv.authMethodCreate
  | authMethodDisable => exact inv.authMethodDisable

def AccountsData.noAccount : AccountsData := ⟨.empty, .empty, .empty, .empty⟩

theorem AccountsInvariant.noAccount : AccountsInvariant AccountsData.noAccount := by
  constructor
  · intro email account found
    cases found
  · intro email account found
    cases found
  · exact List.nodup_nil
  · constructor
    · intro email hasCode
      exact absurd rfl hasCode
    · intro email info hasCode
      cases hasCode

theorem DisabledKept.trans {data'' : AccountsData} (first : DisabledKept data data')
    (second : DisabledKept data' data'') : DisabledKept data data'' := by
  intro id method t has isDisabled
  obtain ⟨method', has', isDisabled'⟩ := first id method t has isDisabled
  exact second id method' t has' isDisabled'

theorem AccountsInvariant.step {t : DateTime × AccountRequest} (inv : AccountsInvariant data)
    (spared : data.Spared t) (taken : data.Step t data') :
    AccountsInvariant data' ∧ DisabledKept data data' := by
  obtain ⟨now, request⟩ := t
  have effect := inv.run spared
  cases taken
  exact inv.effect effect.tables effect.effect

theorem AccountsInvariant.later {later : AccountsData} (inv : AccountsInvariant data)
    (run : Run AccountsData.Step AccountsData.Spared data later) :
    AccountsInvariant later ∧ DisabledKept data later := by
  induction run with
  | start => exact ⟨inv, fun _ method _ has isDisabled => ⟨method, has, isDisabled⟩⟩
  | step _ spared taken ih =>
    obtain ⟨before, keptBefore⟩ := ih
    obtain ⟨after, kept⟩ := before.step spared taken
    exact ⟨after, keptBefore.trans kept⟩

/-- The two requests that a run may have to avoid fail no assertion either. -/
theorem AccountsInvariant.accepted (inv : AccountsInvariant data) (now : DateTime)
    (request : AccountRequest) (error : Raised) : (data.run now request).2 ≠ .raised error := by
  by_cases spared : data.Spared (now, request)
  · exact (inv.run spared).accepted error
  · have ofAccount : ∀ (id : AccountAuthMethodID)
        (next : MemoryAccount → AccountsData × AccountOutcome),
        (∀ account, account.deletedOn = none → (next account).2 ≠ .raised error) →
        (data.withAccount id next).2 ≠ .raised error := by
      intro id next accepted
      unfold AccountsData.withAccount
      split
      · rename_i isError
        exact absurd isError (getAccountFromActiveAuthMethod_ok inv.sound)
      · intro isRaised
        cases isRaised
      · rename_i account method isAccount
        exact accepted account (getAccountFromActiveAuthMethod_some inv.keyed isAccount).2.1
    cases request with
    | deleteProceed id code =>
      apply ofAccount
      intro account notDeleted
      rw [notDeleted]
      simp only [Option.isSome_none, Bool.false_eq_true, if_false]
      split
      · intro isRaised
        cases isRaised
      · intro isRaised
        cases isRaised
    | vaultKeyRotation id new items =>
      apply ofAccount
      intro account _
      split
      · intro isRaised
        cases isRaised
      · split
        · intro isRaised
          cases isRaised
        · intro isRaised
          cases isRaised
    | _ => exact absurd trivial spared

/-- The accounts as they should be, with what is kept as long as the requests are admitted. -/
structure AccountsSound (admits : AccountsData → DateTime × AccountRequest → Prop)
    (data : AccountsData) : Prop where
  unique : data.methodIds.Nodup
  active : ∀ email account, data.accounts.get? email = some account → account.deletedOn = none →
    ∃ id method, account.currentVault.HasMethod id method ∧ method.disabledOn = none
  current : ∀ email account, data.accounts.get? email = some account →
    ∀ vault ∈ account.previousVaults, vault.AllDisabled
  password : ∀ email account, data.accounts.get? email = some account →
    ∀ id id' method method', account.currentVault.HasMethod id method →
      account.currentVault.HasMethod id' method' → method.disabledOn = none →
      method'.disabledOn = none → method.passwordAlgorithm.isSome →
      method'.passwordAlgorithm.isSome → id = id'
  deleted : ∀ email account, data.accounts.get? email = some account → account.deletedOn ≠ none →
    ∀ vault ∈ account.vaults, vault.AllDisabled
  disabled : ∀ later, Run AccountsData.Step admits data later → DisabledKept data later
  accepted : ∀ now request error, (data.run now request).2 ≠ .raised error
  recoverable : ∀ email info now, data.accountRecoverValidationEmails.get? email = some info →
    info.canBeUsed now = true →
      ∃ account, data.accounts.get? email = some account ∧ account.deletedOn = none

/-- In the runs that delete no account with a recovery code and rotate no key over disabled
    methods. -/
theorem accounts_sound (run : Run AccountsData.Step AccountsData.Spared AccountsData.noAccount data) :
    AccountsSound AccountsData.Spared data := by
  have inv := (AccountsInvariant.noAccount.later run).1
  constructor
  · exact inv.unique
  · intro email account found
    exact (inv.sound email account found).active
  · intro email account found
    exact (inv.sound email account found).previous
  · intro email account found
    exact (inv.sound email account found).password
  · intro email account found isDeleted vault isVault
    have sound := inv.sound email account found
    rcases List.mem_cons.mp isVault with isCurrent | isPrevious
    · rw [isCurrent]
      exact sound.deleted isDeleted
    · exact sound.previous vault isPrevious
  · intro later goesOn
    exact (inv.later goesOn).2
  · exact inv.accepted
  · intro email info now hasCode usable
    exact inv.tables.recover email info hasCode (Bool.and_eq_true_iff.mp usable).2

section Alice

def newMethod (uuid : Nat) (passwordAlgorithm : Option UntrustedPasswordAlgorithm) :
    NewAuthMethod :=
  ⟨⟨uuid⟩, "127.0.0.1", "Parsec-Client/3", ⟨uuid⟩, [], passwordAlgorithm⟩

def aliceEmail : EmailAddress := ⟨"alice@example.com"⟩

def aliceCode : ValidationCode := ⟨"AD3FXJ"⟩

/-- Alice has created her account with a password. -/
def aliceCreated : AccountsData :=
  let data := (AccountsData.noAccount.run 0 (.createSendValidationEmail aliceEmail aliceCode)).1
  (data.run 1 (.createProceed aliceCode ⟨aliceEmail, "Alice"⟩
    (newMethod 1 (some ⟨65536, 3, 1⟩)))).1

/-- She has created another method, and disabled it again. -/
def aliceDisabled : AccountsData :=
  let data := (aliceCreated.run 2 (.authMethodCreate ⟨1⟩ (newMethod 2 none))).1
  (data.run 3 (.authMethodDisable ⟨1⟩ ⟨2⟩)).1

theorem aliceCreated_run : Run AccountsData.Step AccountsData.Spared AccountsData.noAccount
    aliceCreated := by
  have sent : Run AccountsData.Step AccountsData.Spared AccountsData.noAccount _ :=
    .step (t := (0, .createSendValidationEmail aliceEmail aliceCode)) .start trivial rfl
  exact .step (t := (1, .createProceed aliceCode ⟨aliceEmail, "Alice"⟩
    (newMethod 1 (some ⟨65536, 3, 1⟩)))) sent trivial rfl

theorem aliceDisabled_run : Run AccountsData.Step AccountsData.Spared AccountsData.noAccount
    aliceDisabled := by
  have another : Run AccountsData.Step AccountsData.Spared AccountsData.noAccount _ :=
    .step (t := (2, .authMethodCreate ⟨1⟩ (newMethod 2 none))) aliceCreated_run trivial rfl
  exact .step (t := (3, .authMethodDisable ⟨1⟩ ⟨2⟩)) another trivial rfl

theorem accounts_sound_of_alice :
    AccountsSound AccountsData.Spared aliceDisabled ∧ aliceDisabled.methodIds = [⟨1⟩, ⟨2⟩] :=
  ⟨accounts_sound aliceDisabled_run, by decide +kernel⟩

/-- A code asked for before the deletion is used after it. -/
theorem deleted_account_recovered :
    ¬ ∀ data, Run AccountsData.Step (fun _ _ => True) AccountsData.noAccount data →
      AccountsSound (fun _ _ => True) data := by
  intro claim
  have created := aliceCreated_run.weaken (fun _ _ _ => trivial)
  have recoverSent : Run AccountsData.Step (fun _ _ => True) AccountsData.noAccount _ :=
    .step (t := (2, .recoverSendValidationEmail aliceEmail ⟨"RECVR1"⟩)) created trivial rfl
  have deleteSent : Run AccountsData.Step (fun _ _ => True) AccountsData.noAccount _ :=
    .step (t := (3, .deleteSendValidationEmail ⟨1⟩ ⟨"DELET1"⟩)) recoverSent trivial rfl
  have deleted : Run AccountsData.Step (fun _ _ => True) AccountsData.noAccount _ :=
    .step (t := (4, .deleteProceed ⟨1⟩ ⟨"DELET1"⟩)) deleteSent trivial rfl
  have accepted := (claim _ deleted).accepted 5
    (.recoverProceed ⟨"RECVR1"⟩ aliceEmail (newMethod 2 none)) .assertionError
  exact accepted (by decide +kernel)

end Alice

end ParsecCloud.Server
