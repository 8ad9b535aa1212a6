import ParsecCloud.Server.Datamodel
import ParsecCloud.Certif.Store

/- The accounts of the server (memory/account.py). No call waits between its checks and its writes,
   so that each one is a single step; the emails are sent afterwards. -/
namespace ParsecCloud.Server
open Certif

structure AccountAuthMethodID where
  uuid : Nat
  deriving DecidableEq

structure ValidationCode where
  code : String
  deriving DecidableEq

structure HumanHandle where
  email : EmailAddress
  label : String
  deriving DecidableEq

structure UntrustedPasswordAlgorithm where
  opslimit : Nat
  memlimitKb : Nat
  parallelism : Nat
  deriving DecidableEq

structure MemoryAuthenticationMethod where
  id : AccountAuthMethodID
  createdOn : DateTime
  createdByIp : String
  createdByUserAgent : String
  macKey : SecretKey
  vaultKeyAccess : List Byte
  passwordAlgorithm : Option UntrustedPasswordAlgorithm
  disabledOn : Option DateTime

structure MemoryAccountVault where
  items : Dict HashDigest (List Byte)
  authenticationMethods : Dict AccountAuthMethodID MemoryAuthenticationMethod

structure MemoryAccount where
  accountEmail : EmailAddress
  humanHandle : HumanHandle
  currentVault : MemoryAccountVault
  previousVaults : List MemoryAccountVault
  deletedOn : Option DateTime

def MemoryAccount.vaults (account : MemoryAccount) : List MemoryAccountVault :=
  account.currentVault :: account.previousVaults

def validationCodeValidityDuration : Int := 3600 * 1000000

def validationCodeMaxFailedAttempts : Nat := 3

structure ValidationCodeInfo where
  validationCode : ValidationCode
  createdAt : DateTime
  failedAttempts : Nat

namespace ValidationCodeInfo
variable (info : ValidationCodeInfo)

def isExpired (now : DateTime) : Bool := now - info.createdAt > validationCodeValidityDuration

def hasRemainingAttempts : Bool := info.failedAttempts < validationCodeMaxFailedAttempts

def canBeUsed (now : DateTime) : Bool := !info.isExpired now && info.hasRemainingAttempts

end ValidationCodeInfo

abbrev ValidationEmails := Dict EmailAddress ValidationCodeInfo

structure AccountsData where
  accounts : Dict EmailAddress MemoryAccount
  accountCreateValidationEmails : ValidationEmails
  accountDeleteValidationEmails : ValidationEmails
  accountRecoverValidationEmails : ValidationEmails

inductive AccountBadOutcome where
  | accountAlreadyExists
  | accountNotFound
  | sendValidationEmailRequired
  | invalidValidationCode
  | authMethodIdAlreadyExists
  | newAuthMethodIdAlreadyExists
  | itemsMismatch
  | fingerprintAlreadyExists
  | selfDisableNotAllowed
  | authMethodNotFound
  | crossAccountNotAllowed
  | authMethodAlreadyDisabled
  deriving DecidableEq

inductive AccountOutcome where
  | done
  | bad (outcome : AccountBadOutcome)
  | raised (error : Raised)
  deriving DecidableEq

/-- The method that a call is to create. -/
structure NewAuthMethod where
  id : AccountAuthMethodID
  createdByIp : String
  createdByUserAgent : String
  macKey : SecretKey
  vaultKeyAccess : List Byte
  passwordAlgorithm : Option UntrustedPasswordAlgorithm

def NewAuthMethod.create (new : NewAuthMethod) (now : DateTime) : MemoryAuthenticationMethod :=
  ⟨new.id, now, new.createdByIp, new.createdByUserAgent, new.macKey, new.vaultKeyAccess,
    new.passwordAlgorithm, none⟩

/-- A vault with a single method. -/
def newVault (items : Dict HashDigest (List Byte)) (new : NewAuthMethod) (now : DateTime) :
    MemoryAccountVault :=
  ⟨items, Dict.empty.set new.id (new.create now)⟩

namespace MemoryAuthenticationMethod
variable (method : MemoryAuthenticationMethod)

def isActive : Bool := method.disabledOn.isNone

/-- The methods that a loop disables are those it selects. -/
def disableIf (select : MemoryAuthenticationMethod → Bool) (now : DateTime) :
    MemoryAuthenticationMethod :=
  if select method then { method with disabledOn := some now } else method

end MemoryAuthenticationMethod

def MemoryAccountVault.disableWhere (select : MemoryAuthenticationMethod → Bool) (now : DateTime)
    (vault : MemoryAccountVault) : MemoryAccountVault :=
  { vault with
    authenticationMethods := vault.authenticationMethods.mapValues (·.disableIf select now) }

/-- The method is disabled in the vault where it is found first. -/
def disableInVaults (id : AccountAuthMethodID) (now : DateTime) :
    List MemoryAccountVault → List MemoryAccountVault
  | [] => []
  | vault :: rest =>
    match vault.authenticationMethods.get? id with
    | some method =>
      { vault with
        authenticationMethods :=
          vault.authenticationMethods.set id { method with disabledOn := some now } } :: rest
    | none => vault :: disableInVaults id now rest

/-- The vault is left to the previous ones, a new one takes its place. -/
def MemoryAccount.replaceVault (account : MemoryAccount) (old new : MemoryAccountVault) :
    MemoryAccount :=
  { account with previousVaults := account.previousVaults ++ [old], currentVault := new }

namespace AccountsData
variable (data : AccountsData)

def getAccountFromActiveAuthMethod (authMethodId : AccountAuthMethodID) :
    Except Raised (Option (MemoryAccount × MemoryAuthenticationMethod)) :=
  match data.accounts.values.findSome? fun account =>
      (account.currentVault.authenticationMethods.get? authMethodId).map fun method =>
        (account, method) with
  | none => .ok none
  | some (account, method) =>
    if method.disabledOn.isSome then .ok none
    else if account.deletedOn.isSome then .error .assertionError
    else .ok (some (account, method))

def getAccountFromAnyAuthMethod (authMethodId : AccountAuthMethodID) :
    Option (MemoryAccount × MemoryAuthenticationMethod) :=
  data.accounts.values.findSome? fun account =>
    (account.vaults.findSome? fun vault => vault.authenticationMethods.get? authMethodId).map
      fun method => (account, method)

def authMethodIdAlreadyExists (authMethodId : AccountAuthMethodID) : Bool :=
  (data.getAccountFromAnyAuthMethod authMethodId).isSome

/-- An account is changed in place. -/
def putAccount (account : MemoryAccount) : AccountsData :=
  { data with accounts := data.accounts.set account.accountEmail account }

/-- What is to be done for the account of an active method. -/
def withAccount (authMethodId : AccountAuthMethodID)
    (next : MemoryAccount → AccountsData × AccountOutcome) : AccountsData × AccountOutcome :=
  match data.getAccountFromActiveAuthMethod authMethodId with
  | .error error => (data, .raised error)
  | .ok none => (data, .bad .accountNotFound)
  | .ok (some (account, _)) => next account

end AccountsData

/-- The check of a validation code, where a wrong guess is counted. -/
def checkValidationCode (emails : ValidationEmails) (now : DateTime) (email : EmailAddress)
    (validationCode : ValidationCode) : ValidationEmails × Except AccountBadOutcome Unit :=
  match emails.get? email with
  | none => (emails, .error .sendValidationEmailRequired)
  | some lastMailInfo =>
    if !lastMailInfo.canBeUsed now then (emails, .error .sendValidationEmailRequired)
    else if lastMailInfo.validationCode ≠ validationCode then
      (emails.set email { lastMailInfo with failedAttempts := lastMailInfo.failedAttempts + 1 },
        .error .invalidValidationCode)
    else (emails, .ok ())

namespace AccountsData
variable (data : AccountsData) (now : DateTime)

def createSendValidationEmail (email : EmailAddress) (validationCode : ValidationCode) :
    AccountsData × AccountOutcome :=
  if (data.accounts.get? email).isSome then
    if (data.accountCreateValidationEmails.get? email).isSome then (data, .raised .assertionError)
    else (data, .bad .accountAlreadyExists)
  else
    ({ data with
      accountCreateValidationEmails :=
        data.accountCreateValidationEmails.set email ⟨validationCode, now, 0⟩ }, .done)

/-- The check of a creation, which is also a call of its own. -/
def createAccountCheckCode (email : EmailAddress) (validationCode : ValidationCode) :
    AccountsData × AccountOutcome :=
  let (emails, outcome) :=
    checkValidationCode data.accountCreateValidationEmails now email validationCode
  let data := { data with accountCreateValidationEmails := emails }
  match outcome with
  | .error error => (data, .bad error)
  | .ok () =>
    if (data.accounts.get? email).isSome then (data, .raised .assertionError) else (data, .done)

def createProceed (validationCode : ValidationCode) (humanHandle : HumanHandle)
    (new : NewAuthMethod) : AccountsData × AccountOutcome :=
  match data.createAccountCheckCode now humanHandle.email validationCode with
  | (data, .done) =>
    if data.authMethodIdAlreadyExists new.id then (data, .bad .authMethodIdAlreadyExists)
    else
      ({ data with
        accounts := data.accounts.set humanHandle.email
          ⟨humanHandle.email, humanHandle, newVault .empty new now, [], none⟩
        accountCreateValidationEmails :=
          data.accountCreateValidationEmails.erase humanHandle.email }, .done)
  | (data, outcome) => (data, outcome)

def deleteSendValidationEmail (authMethodId : AccountAuthMethodID)
    (validationCode : ValidationCode) : AccountsData × AccountOutcome :=
  data.withAccount authMethodId fun account =>
    ({ data with
      accountDeleteValidationEmails :=
        data.accountDeleteValidationEmails.set account.accountEmail ⟨validationCode, now, 0⟩ },
      .done)

/-- The account with its active methods disabled. -/
def deletedAccount (account : MemoryAccount) : MemoryAccount :=
  { account with
    deletedOn := some now
    currentVault := account.currentVault.disableWhere (·.isActive) now }

def deleteProceed (authMethodId : AccountAuthMethodID) (validationCode : ValidationCode) :
    AccountsData × AccountOutcome :=
  data.withAccount authMethodId fun account =>
    if account.deletedOn.isSome then (data, .raised .assertionError)
    else
      let (emails, outcome) := checkValidationCode data.accountDeleteValidationEmails now
        account.accountEmail validationCode
      let data := { data with accountDeleteValidationEmails := emails }
      match outcome with
      | .error error => (data, .bad error)
      | .ok () =>
        ({ data.putAccount (deletedAccount now account) with
          accountDeleteValidationEmails :=
            data.accountDeleteValidationEmails.erase account.accountEmail }, .done)

def recoverSendValidationEmail (email : EmailAddress) (validationCode : ValidationCode) :
    AccountsData × AccountOutcome :=
  match data.accounts.get? email with
  | none => (data, .bad .accountNotFound)
  | some account =>
    if account.deletedOn.isSome then (data, .bad .accountNotFound)
    else
      ({ data with
        accountRecoverValidationEmails :=
          data.accountRecoverValidationEmails.set email ⟨validationCode, now, 0⟩ }, .done)

def recoverProceed (validationCode : ValidationCode) (email : EmailAddress)
    (new : NewAuthMethod) : AccountsData × AccountOutcome :=
  let (emails, outcome) :=
    checkValidationCode data.accountRecoverValidationEmails now email validationCode
  let data := { data with accountRecoverValidationEmails := emails }
  match outcome with
  | .error error => (data, .bad error)
  | .ok () =>
    match data.accounts.get? email with
    | none => (data, .raised .keyError)
    | some account =>
      if account.deletedOn.isSome then (data, .raised .assertionError)
      else if data.authMethodIdAlreadyExists new.id then (data, .bad .authMethodIdAlreadyExists)
      else
        ({ data.putAccount (account.replaceVault
            (account.currentVault.disableWhere (·.isActive) now) (newVault .empty new now)) with
          accountRecoverValidationEmails := data.accountRecoverValidationEmails.erase email },
          .done)

def vaultItemUpload (authMethodId : AccountAuthMethodID) (itemFingerprint : HashDigest)
    (item : List Byte) : AccountsData × AccountOutcome :=
  data.withAccount authMethodId fun account =>
    if (account.currentVault.items.get? itemFingerprint).isSome then
      (data, .bad .fingerprintAlreadyExists)
    else
      (data.putAccount { account with
        currentVault := { account.currentVault with
          items := account.currentVault.items.set itemFingerprint item } }, .done)

/-- Every method of the vault is disabled, the disabled ones as well. -/
def vaultKeyRotation (authMethodId : AccountAuthMethodID) (new : NewAuthMethod)
    (items : Dict HashDigest (List Byte)) : AccountsData × AccountOutcome :=
  data.withAccount authMethodId fun account =>
    if data.authMethodIdAlreadyExists new.id then (data, .bad .newAuthMethodIdAlreadyExists)
    else if account.currentVault.items.keys.toFinset ≠ items.keys.toFinset then
      (data, .bad .itemsMismatch)
    else
      (data.putAccount (account.replaceVault
        (account.currentVault.disableWhere (fun _ => true) now) (newVault items new now)), .done)

/-- A new password takes the place of the former one. -/
def withNewMethod (account : MemoryAccount) (new : NewAuthMethod) : MemoryAccount :=
  let vault := if new.passwordAlgorithm.isSome then
      account.currentVault.disableWhere
        (fun method => method.passwordAlgorithm.isSome && method.isActive) now
    else account.currentVault
  { account with
    currentVault := { vault with
      authenticationMethods := vault.authenticationMethods.set new.id (new.create now) } }

def authMethodCreate (authMethodId : AccountAuthMethodID) (new : NewAuthMethod) :
    AccountsData × AccountOutcome :=
  data.withAccount authMethodId fun account =>
    if data.authMethodIdAlreadyExists new.id then (data, .bad .authMethodIdAlreadyExists)
    else (data.putAccount (withNewMethod now account new), .done)

/-- The account with the method disabled, in whichever vault it is. -/
def withDisabled (account : MemoryAccount) (id : AccountAuthMethodID) : MemoryAccount :=
  match disableInVaults id now account.vaults with
  | [] => account
  | currentVault :: previousVaults =>
    { account with currentVault := currentVault, previousVaults := previousVaults }

def authMethodDisable (authMethodId toDisableAuthMethodId : AccountAuthMethodID) :
    AccountsData × AccountOutcome :=
  if authMethodId = toDisableAuthMethodId then (data, .bad .selfDisableNotAllowed)
  else
    data.withAccount authMethodId fun account =>
      match data.getAccountFromAnyAuthMethod toDisableAuthMethodId with
      | none => (data, .bad .authMethodNotFound)
      | some (targetAccount, targetAuthMethod) =>
        if targetAccount.accountEmail ≠ account.accountEmail then
          (data, .bad .crossAccountNotAllowed)
        else if targetAuthMethod.disabledOn.isSome then (data, .bad .authMethodAlreadyDisabled)
        else (data.putAccount (withDisabled now account toDisableAuthMethodId), .done)

end AccountsData

inductive AccountRequest where
  | createSendValidationEmail (email : EmailAddress) (validationCode : ValidationCode)
  | createCheckValidationCode (email : EmailAddress) (validationCode : ValidationCode)
  | createProceed (validationCode : ValidationCode) (humanHandle : HumanHandle)
      (new : NewAuthMethod)
  | deleteSendValidationEmail (authMethodId : AccountAuthMethodID)
      (validationCode : ValidationCode)
  | deleteProceed (authMethodId : AccountAuthMethodID) (validationCode : ValidationCode)
  | recoverSendValidationEmail (email : EmailAddress) (validationCode : ValidationCode)
  | recoverProceed (validationCode : ValidationCode) (email : EmailAddress) (new : NewAuthMethod)
  | vaultItemUpload (authMethodId : AccountAuthMethodID) (itemFingerprint : HashDigest)
      (item : List Byte)
  | vaultKeyRotation (authMethodId : AccountAuthMethodID) (new : NewAuthMethod)
      (items : Dict HashDigest (List Byte))
  | authMethodCreate (authMethodId : AccountAuthMethodID) (new : NewAuthMethod)
  | authMethodDisable (authMethodId toDisableAuthMethodId : AccountAuthMethodID)

def AccountsData.run (data : AccountsData) (now : DateTime) :
    AccountRequest → AccountsData × AccountOutcome
  | .createSendValidationEmail email code => data.createSendValidationEmail now email code
  | .createCheckValidationCode email code => data.createAccountCheckCode now email code
  | .createProceed code humanHandle new => data.createProceed now code humanHandle new
  | .deleteSendValidationEmail id code => data.deleteSendValidationEmail now id code
  | .deleteProceed id code => data.deleteProceed now id code
  | .recoverSendValidationEmail email code => data.recoverSendValidationEmail now email code
  | .recoverProceed code email new => data.recoverProceed now code email new
  | .vaultItemUpload id fingerprint item => data.vaultItemUpload id fingerprint item
  | .vaultKeyRotation id new items => data.vaultKeyRotation now id new items
  | .authMethodCreate id new => data.authMethodCreate now id new
  | .authMethodDisable id toDisable => data.authMethodDisable now id toDisable

end ParsecCloud.Server
