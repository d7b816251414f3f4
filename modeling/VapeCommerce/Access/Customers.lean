import VapeCommerce.Access.Users

set_option autoImplicit false

-- customer-account-actions.service.ts: the lifecycle of customer accounts.
namespace VapeCommerce.Access.Customers

open VapeCommerce.Lib VapeCommerce.Lib.Outcome VapeCommerce.Schema VapeCommerce.Database
open VapeCommerce.Access.Users

-- A customer profile with its user.
structure CustomerAccount where
  id : Id
  phoneE164 : Text
  suspendedAt : Option Int
  suspensionReason : Option Text
  anonymizedAt : Option Int
  version : Nat
  user : User
deriving DecidableEq, Repr

inductive SessionStatus where
  | active
  | revoked
  | expired
deriving DecidableEq, Repr

structure Session where
  id : Id
  userId : Id
  audience : AuthAudience
  tokenHash : Nat
  status : SessionStatus
  lastSeenAt : Int
  idleExpiresAt : Int
  absoluteExpiresAt : Int
  revokedAt : Option Int
  revokedReason : Option String
  rotatedFromId : Option Id
deriving DecidableEq, Repr

structure PasswordResetToken where
  id : Id
  userId : Id
  audience : AuthAudience
  tokenHash : Nat
  expiresAt : Int
  consumedAt : Option Int
deriving DecidableEq, Repr

structure Accounts where
  administrators : Table User.id
  customers : Table CustomerAccount.id
  sessions : Table Session.id
  resetTokens : Table PasswordResetToken.id

-- The random password and the redacted phone number are made before the transaction.
structure AnonymizeCustomerAccount extends AccountLifecycle where
  passwordHash : Nat
  anonymizedPhone : Text

inductive LifecycleAction where
  | suspend
  | reactivate
  | disable
deriving DecidableEq, Repr

inductive Call where
  | lifecycle (action : LifecycleAction) (id : Id) (input : AccountLifecycle) (actorUserId : Id)
      (now : Int)
  | anonymize (id : Id) (input : AnonymizeCustomerAccount) (actorUserId : Id) (now : Int)

def revokedSession (reason : String) (now : Int) (row : Session) : Session :=
  { row with status := .revoked, revokedAt := some now, revokedReason := some reason }

@[simp]
theorem revokedSession_id (reason : String) (now : Int) (row : Session) :
    (revokedSession reason now row).id = row.id := rfl

def liveSessionOf (userId : Id) (row : Session) : Bool :=
  row.userId == userId && row.audience == .customer && row.status == .active

def revokeSessions (sessions : Table Session.id) (userId : Id) (reason : String) (now : Int) :
    Table Session.id :=
  sessions.update (liveSessionOf userId) (revokedSession reason now) (revokedSession_id reason now)

def removeTokens (tokens : Table PasswordResetToken.id) (userId : Id) : Table PasswordResetToken.id where
  rows := tokens.rows.filter fun row => row.userId != userId
  distinct := tokens.distinct.sublist (List.filter_sublist.map _)

def revokeCustomerAccess (accounts : Accounts) (userId : Id) (reason : String) (now : Int) : Accounts :=
  { accounts with
    sessions := revokeSessions accounts.sessions userId reason now
    resetTokens := removeTokens accounts.resetTokens userId }

def versionConflict : Failure := conflict "CUSTOMER_ACCOUNT_VERSION_CONFLICT"

def accountNotFound : Failure := notFound "CUSTOMER_ACCOUNT_NOT_FOUND"

def assertVersions (target : CustomerAccount) (input : AccountLifecycle) : Except Failure Unit :=
  throwIf (target.user.version ≠ input.expectedUserVersion \/
      target.version ≠ input.expectedProfileVersion)
    versionConflict

def findTarget (customers : Table CustomerAccount.id) (id : Id) : Except Failure CustomerAccount :=
  orThrow ((customers.find? id).filter fun account => account.user.audience == .customer) accountNotFound

def assertState (action : LifecycleAction) (target : CustomerAccount) : Except Failure Unit :=
  match action with
  | .suspend =>
    throwIf (target.user.status ≠ .active \/ target.suspendedAt.isSome)
      (conflict "CUSTOMER_ACCOUNT_NOT_ACTIVE")
  | .reactivate =>
    throwIf (target.user.status ≠ .suspended \/ target.suspendedAt.isNone)
      (conflict "CUSTOMER_ACCOUNT_NOT_SUSPENDED")
  | .disable =>
    throwIf (target.user.status ≠ .suspended \/ target.suspendedAt.isNone)
      (conflict "CUSTOMER_ACCOUNT_MUST_BE_SUSPENDED_FIRST")

def lifecycleAccount (action : LifecycleAction) (reason : Text) (now : Int) (row : CustomerAccount) :
    CustomerAccount :=
  match action with
  | .suspend =>
    { row with
      suspendedAt := some now
      suspensionReason := some reason
      version := row.version + 1
      user := { row.user with status := .suspended, version := row.user.version + 1 } }
  | .reactivate =>
    { row with
      suspendedAt := none
      suspensionReason := none
      version := row.version + 1
      user := { row.user with
        status := .active
        failedLoginCount := 0
        lockedUntil := none
        version := row.user.version + 1 } }
  | .disable =>
    { row with
      suspensionReason := some reason
      version := row.version + 1
      user := { row.user with
        status := .disabled
        deletedAt := some now
        version := row.user.version + 1 } }

@[simp]
theorem lifecycleAccount_id (action : LifecycleAction) (reason : Text) (now : Int)
    (row : CustomerAccount) : (lifecycleAccount action reason now row).id = row.id := by
  cases action <;> rfl

def anonymizedAccount (input : AnonymizeCustomerAccount) (now : Int) (row : CustomerAccount) :
    CustomerAccount :=
  { row with
    phoneE164 := input.anonymizedPhone
    suspensionReason := some "Customer record anonymized by an authorized administrator.".toList
    anonymizedAt := some now
    version := row.version + 1
    user := { row.user with
      emailNormalized := none
      passwordHash := some input.passwordHash
      status := .anonymized
      failedLoginCount := 0
      lockedUntil := none
      deletedAt := some now
      version := row.user.version + 1 } }

@[simp]
theorem anonymizedAccount_id (input : AnonymizeCustomerAccount) (now : Int) (row : CustomerAccount) :
    (anonymizedAccount input now row).id = row.id := rfl

-- Both `updateMany` calls with their versions; either count that is not one fails the same way.
def updateLifecycleVersions (customers : Table CustomerAccount.id) (target : CustomerAccount)
    (input : AccountLifecycle) (change : CustomerAccount -> CustomerAccount)
    (keeps : forall row, (change row).id = row.id) : Except Failure (Table CustomerAccount.id) :=
  updateOne customers
    (fun row => row.id == target.id && row.user.version == input.expectedUserVersion &&
      row.version == input.expectedProfileVersion)
    change keeps versionConflict

def revokedReason : LifecycleAction -> Option String
  | .suspend => some "customer_suspended"
  | .reactivate => none
  | .disable => some "customer_disabled"

def revokeWhen (accounts : Accounts) (userId : Id) (now : Int) : Option String -> Accounts
  | some reason => revokeCustomerAccess accounts userId reason now
  | none => accounts

variable (rules : TextRules)

def lifecycle (snapshot current : Accounts) (action : LifecycleAction) (id : Id)
    (input : AccountLifecycle) (actorUserId : Id) (now : Int) : Except Failure Accounts := do
  requireActor rules snapshot.administrators actorUserId
  let target <- findTarget snapshot.customers id
  assertVersions target input
  assertState action target
  let customers <- updateLifecycleVersions current.customers target input
    (lifecycleAccount action (trim input.reason) now) (lifecycleAccount_id _ _ _)
  return revokeWhen { current with customers } target.user.id now (revokedReason action)

-- The statuses an order may have when its customer is anonymized.
def finishedOrderStatuses : List OrderStatus :=
  [.delivered, .refused, .failed, .returned, .cancelled]

-- `activeOrderCount` answers the count of the customer's orders outside those statuses.
def anonymize (activeOrderCount : Id -> Nat) (snapshot current : Accounts) (id : Id)
    (input : AnonymizeCustomerAccount) (actorUserId : Id) (now : Int) : Except Failure Accounts := do
  requireActor rules snapshot.administrators actorUserId
  let target <- findTarget snapshot.customers id
  assertVersions target input.toAccountLifecycle
  throwIf (Not (target.user.status = .suspended \/ target.user.status = .disabled) \/
      target.suspendedAt.isNone)
    (conflict "CUSTOMER_ACCOUNT_MUST_BE_DISABLED_FIRST")
  throwIf (activeOrderCount target.id > 0) (conflict "CUSTOMER_ACTIVE_ORDERS_EXIST")
  let revoked := revokeCustomerAccess current target.user.id "customer_anonymized" now
  let customers <- updateLifecycleVersions revoked.customers target input.toAccountLifecycle
    (anonymizedAccount input now) (anonymizedAccount_id _ _)
  return { revoked with customers }

def Call.run (activeOrderCount : Id -> Nat) (snapshot current : Accounts) : Call -> Except Failure Accounts
  | .lifecycle action id input actorUserId now =>
    Customers.lifecycle rules snapshot current action id input actorUserId now
  | .anonymize id input actorUserId now =>
    Customers.anonymize rules activeOrderCount snapshot current id input actorUserId now

variable {rules}

-- What a call that takes effect has read of its target and written to it.
structure Changes (snapshot current next : Accounts) (id : Id) (target : CustomerAccount)
    (input : AccountLifecycle) (change : CustomerAccount -> CustomerAccount) : Prop where
  found : snapshot.customers.find? id = some target
  versions : target.user.version = input.expectedUserVersion /\ target.version = input.expectedProfileVersion
  one : current.customers.count (fun row => row.id == target.id &&
    row.user.version == input.expectedUserVersion && row.version == input.expectedProfileVersion) = 1
  rows : next.customers.rows = current.customers.rows.map (Table.rewrite (fun row => row.id == target.id &&
    row.user.version == input.expectedUserVersion && row.version == input.expectedProfileVersion) change)
  administrators : next.administrators = current.administrators

theorem findTarget_ok {customers : Table CustomerAccount.id} {id : Id} {target : CustomerAccount} :
    findTarget customers id = .ok target <->
      customers.find? id = some target /\ target.user.audience = .customer := by
  simp only [findTarget, orThrow_ok, Option.filter_eq_some_iff, beq_iff_eq]

theorem lifecycle_ok {snapshot current next : Accounts} {action : LifecycleAction} {id : Id}
    {input : AccountLifecycle} {actorUserId : Id} {now : Int}
    (ran : lifecycle rules snapshot current action id input actorUserId now = .ok next) :
    exists target, Changes snapshot current next id target input
        (lifecycleAccount action (trim input.reason) now) /\
      assertState action target = .ok () /\
      exists customers, next = revokeWhen { current with customers } target.user.id now
        (revokedReason action) := by
  simp only [lifecycle, bind_ok, findTarget_ok, updateLifecycleVersions, updateOne_ok, pure_ok] at ran
  obtain ⟨-, -, target, ⟨found, -⟩, ⟨⟩, versions, ⟨⟩, state, customers, ⟨one, rfl⟩, rfl⟩ := ran
  simp only [assertVersions, throwIf_ok, not_or, not_not] at versions
  refine ⟨target, ⟨found, versions, one, ?_, ?_⟩, state, _, rfl⟩
  all_goals
    unfold revokeWhen
    split <;> rfl

theorem anonymize_ok {activeOrderCount : Id -> Nat} {snapshot current next : Accounts} {id : Id}
    {input : AnonymizeCustomerAccount} {actorUserId : Id} {now : Int}
    (ran : anonymize rules activeOrderCount snapshot current id input actorUserId now = .ok next) :
    exists target, Changes snapshot current next id target input.toAccountLifecycle
        (anonymizedAccount input now) /\
      (target.user.status = .suspended \/ target.user.status = .disabled) /\
      target.suspendedAt.isSome = true /\ activeOrderCount target.id = 0 /\
      exists customers, next = { revokeCustomerAccess current target.user.id "customer_anonymized" now with
        customers } := by
  simp only [anonymize, bind_ok, findTarget_ok, updateLifecycleVersions, updateOne_ok, pure_ok, throwIf_ok,
    not_or, Nat.not_lt, Nat.le_zero] at ran
  obtain ⟨-, -, target, ⟨found, -⟩, ⟨⟩, versions, ⟨⟩, ⟨status, suspended⟩, ⟨⟩, finished, customers,
    ⟨one, rfl⟩, rfl⟩ := ran
  simp only [assertVersions, throwIf_ok, not_or, not_not] at versions
  refine ⟨target, ⟨found, versions, one, rfl, rfl⟩, ?_, ?_, finished, _, rfl⟩
  next => exact Decidable.byContradiction fun apart => status (not_or.1 apart)
  next => simpa [Option.isSome_iff_ne_none, Option.isNone_iff_eq_none] using suspended

namespace Sample

def customer (id : Id) : CustomerAccount where
  id := id
  phoneE164 := ['p']
  suspendedAt := none
  suspensionReason := none
  anonymizedAt := none
  version := 1
  user := {
    id := id
    audience := .customer
    emailNormalized := some ['e']
    passwordHash := some 1
    status := .active
    failedLoginCount := 0
    lockedUntil := none
    version := 1
    deletedAt := none
    adminProfile := none
    twoFactorSecret := none
    roles := [] }

def accounts : Accounts where
  administrators := { rows := [Users.Sample.superAdministrator 9], distinct := by decide }
  customers := { rows := [customer 7], distinct := by decide }
  sessions := Table.empty
  resetTokens := Table.empty

def input (version : Nat) : AccountLifecycle where
  expectedUserVersion := version
  expectedProfileVersion := version
  reason := ['r']

def suspends (version : Nat) : Call :=
  .lifecycle .suspend 7 (input version) 9 1

def reactivates (version : Nat) : Call :=
  .lifecycle .reactivate 7 (input version) 9 1

def anonymizes (version : Nat) : Call :=
  .anonymize 7 { input version with passwordHash := 2, anonymizedPhone := ['a'] } 9 1

end Sample

end VapeCommerce.Access.Customers
