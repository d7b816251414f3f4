import VapeCommerce.Lib.Locking
import VapeCommerce.Access.Users

set_option autoImplicit false

-- admin-accounts.service.ts under the lock on the super administrator's role.
namespace VapeCommerce.Access.Administrators

open VapeCommerce.Lib VapeCommerce.Lib.Locking VapeCommerce.Lib.Outcome VapeCommerce.Schema
open VapeCommerce.Database VapeCommerce.Access.Users

attribute [local instance] text_lawful

structure Directory where
  users : Table User.id
  roles : List Role

-- `id` is the fresh key of the new row.
structure CreateAdminAccount where
  id : Id
  email : Text
  displayName : Text
  employeeCode : Option Text
  jobTitle : Option Text
  passwordHash : Nat
  roleKeys : Option (List Text)

inductive LifecycleAction where
  | suspend
  | reactivate
  | anonymize
deriving DecidableEq, Repr

-- A call with its actor; `now` is when its transaction writes.
inductive Call where
  | create (input : CreateAdminAccount) (actorUserId : Id)
  | lifecycle (action : LifecycleAction) (id : Id) (input : AccountLifecycle) (actorUserId : Id)
      (replacementPasswordHash : Nat) (now : Int)

def Call.actorUserId : Call -> Id
  | .create _ actorUserId => actorUserId
  | .lifecycle _ _ _ actorUserId _ _ => actorUserId

variable (rules : TextRules)

def selectedRoleKeys (input : CreateAdminAccount) : List Text :=
  match input.roleKeys with
  | none => ["administrator".toList]
  | some keys => (keys.map trim).reverse.dedup.reverse

def newAdministrator (input : CreateAdminAccount) (emailNormalized : Text) (roles : List Role) : User where
  id := input.id
  audience := .admin
  emailNormalized := some emailNormalized
  passwordHash := some input.passwordHash
  status := .active
  failedLoginCount := 0
  lockedUntil := none
  version := 1
  deletedAt := none
  adminProfile := some {
    displayName := trim input.displayName
    employeeCode := trimmedOrNull input.employeeCode
    jobTitle := trimmedOrNull input.jobTitle
    mustEnrollTwoFactor := true
    suspendedAt := none
    suspensionReason := none
    version := 1 }
  twoFactorSecret := none
  roles := roles.map Role.key

-- The unique columns a new administrator shares with another user.
def sharesIdentifier (row other : User) : Bool :=
  (row.emailNormalized.isSome &&
      row.emailNormalized.map rules.fold == other.emailNormalized.map rules.fold) ||
    ((row.adminProfile.bind (·.employeeCode)).isSome &&
      (row.adminProfile.bind (·.employeeCode)).map rules.fold ==
        (other.adminProfile.bind (·.employeeCode)).map rules.fold)

def create (snapshot current : Directory) (input : CreateAdminAccount) (actorUserId : Id) :
    Except Failure Directory := do
  let emailNormalized := rules.lower (trim input.email)
  let roleKeys := selectedRoleKeys input
  throwIf (superAdministratorRoleKey ∈ roleKeys)
    (forbidden "SUPER_ADMINISTRATOR_ASSIGNMENT_REQUIRES_APPROVAL")
  requireActor rules snapshot.users actorUserId
  let roles := snapshot.roles.filter fun role =>
    decide (rules.fold role.key ∈ roleKeys.map rules.fold) && role.isSystem
  throwIf (roles.length ≠ roleKeys.length) (conflict "ADMIN_ROLE_SELECTION_INVALID")
  let row := newAdministrator input emailNormalized roles
  throwIf (current.users.rows.any (sharesIdentifier rules row)) (conflict "ADMIN_ACCOUNT_UNAVAILABLE")
  let users <- orThrow (current.users.insert? row) (conflict "ADMIN_ACCOUNT_UNAVAILABLE")
  return { current with users }

def selfForbidden : LifecycleAction -> Failure
  | .anonymize => forbidden "SELF_ADMIN_ANONYMIZATION_FORBIDDEN"
  | _ => forbidden "SELF_ADMIN_LIFECYCLE_FORBIDDEN"

def versionConflict : Failure := conflict "ADMIN_ACCOUNT_VERSION_CONFLICT"

def assertVersions (target : User) (profile : AdminProfile) (input : AccountLifecycle) :
    Except Failure Unit :=
  throwIf (target.version ≠ input.expectedUserVersion \/ profile.version ≠ input.expectedProfileVersion)
    versionConflict

def assertAnotherOperationalSuper (users : Table User.id) (target : User) : Except Failure Unit :=
  requireWhen (superAdministratorRoleKey ∈ target.roles)
    (throwIf ((users.rows.countP fun user => user.id != target.id && operationalSuper rules user) < 1)
      (conflict "LAST_SUPER_ADMINISTRATOR_REQUIRED"))

def assertState (action : LifecycleAction) (target : User) (profile : AdminProfile) :
    Except Failure Unit :=
  match action with
  | .suspend =>
    throwIf (target.status ≠ .active \/ profile.suspendedAt.isSome) (conflict "ADMIN_ACCOUNT_NOT_ACTIVE")
  | .reactivate =>
    throwIf (target.status ≠ .suspended \/ profile.suspendedAt.isNone)
      (conflict "ADMIN_ACCOUNT_NOT_SUSPENDED")
  | .anonymize =>
    throwIf (target.status ≠ .suspended \/ profile.suspendedAt.isNone)
      (conflict "ADMIN_ACCOUNT_MUST_BE_SUSPENDED_FIRST")

def lifecycleProfile (action : LifecycleAction) (reason : Text) (now : Int) (profile : AdminProfile) :
    AdminProfile :=
  match action with
  | .suspend =>
    { profile with suspendedAt := some now, suspensionReason := some reason, version := profile.version + 1 }
  | .reactivate =>
    { profile with suspendedAt := none, suspensionReason := none, version := profile.version + 1 }
  | .anonymize =>
    { profile with
      displayName := "Administrator removed".toList
      employeeCode := none
      jobTitle := none
      mustEnrollTwoFactor := true
      suspensionReason := some reason
      version := profile.version + 1 }

def lifecycleUser (action : LifecycleAction) (reason : Text) (replacementPasswordHash : Nat) (now : Int)
    (user : User) : User :=
  let adminProfile := user.adminProfile.map (lifecycleProfile action reason now)
  match action with
  | .suspend => { user with status := .suspended, adminProfile, version := user.version + 1 }
  | .reactivate =>
    { user with
      status := .active
      failedLoginCount := 0
      lockedUntil := none
      adminProfile
      version := user.version + 1 }
  | .anonymize =>
    { user with
      status := .anonymized
      emailNormalized := none
      passwordHash := some replacementPasswordHash
      failedLoginCount := 0
      lockedUntil := none
      deletedAt := some now
      roles := []
      twoFactorSecret := none
      adminProfile
      version := user.version + 1 }

@[simp]
theorem lifecycleUser_id (action : LifecycleAction) (reason : Text) (replacementPasswordHash : Nat)
    (now : Int) (user : User) :
    (lifecycleUser action reason replacementPasswordHash now user).id = user.id := by
  cases action <;> rfl

-- The guards of both versions in one: either count that is not one fails the same way.
def lifecycle (snapshot current : Directory) (action : LifecycleAction) (id : Id)
    (input : AccountLifecycle) (actorUserId : Id) (replacementPasswordHash : Nat) (now : Int) :
    Except Failure Directory := do
  let notFound := notFound "ADMIN_ACCOUNT_NOT_FOUND"
  requireActor rules snapshot.users actorUserId
  throwIf (id = actorUserId) (selfForbidden action)
  let target <- orThrow
    ((snapshot.users.find? id).filter fun user => user.audience == .admin) notFound
  let profile <- orThrow target.adminProfile notFound
  assertVersions target profile input
  requireWhen (action ≠ .reactivate) (assertAnotherOperationalSuper rules snapshot.users target)
  assertState action target profile
  let users <- updateOne current.users
    (fun user => user.id == target.id && user.version == input.expectedUserVersion &&
      user.adminProfile.any fun other => other.version == input.expectedProfileVersion)
    (lifecycleUser action (trim input.reason) replacementPasswordHash now)
    (lifecycleUser_id _ _ _ _) versionConflict
  return { current with users }

def Call.run (snapshot current : Directory) : Call -> Except Failure Directory
  | .create input actorUserId => Administrators.create rules snapshot current input actorUserId
  | .lifecycle action id input actorUserId replacementPasswordHash now =>
    Administrators.lifecycle rules snapshot current action id input actorUserId
      replacementPasswordHash now

-- Every call locks the role's row before its first plain read.
def system : Locking.System Directory Call Empty where
  plan := fun _ => System.lockFirst
  work := fun call snapshot current => succeeded (call.run rules snapshot current)
  outside := fun nothing _ => nothing.elim

def Operational (state : Directory) (userId : Id) : Prop :=
  operationalActor rules state.users userId = true

instance (state : Directory) (userId : Id) : Decidable (Operational rules state userId) :=
  inferInstanceAs (Decidable (_ = true))

def SomeOperational (state : Directory) : Prop :=
  exists userId, Operational rules state userId

variable {rules}

theorem operational_iff {state : Directory} {userId : Id} : Operational rules state userId <->
    exists user, user ∈ state.users.rows /\ user.id = userId /\ operationalSuper rules user = true := by
  simp [Operational, operationalActor]

-- A call that takes effect leaves its actor operational, as it found it.
theorem create_actor {snapshot current next : Directory} {input : CreateAdminAccount}
    {actorUserId : Id} (ran : create rules snapshot current input actorUserId = .ok next) :
    Operational rules snapshot actorUserId /\
      forall userId, Operational rules current userId -> Operational rules next userId := by
  simp only [create, requireActor, bind_ok, throwIf_ok, orThrow_ok, pure_ok] at ran
  obtain ⟨-, -, -, actor, -, -, -, -, users, inserted, rfl⟩ := ran
  refine ⟨by simpa [Operational] using actor, fun userId operational => ?_⟩
  obtain ⟨user, member, same, fine⟩ := operational_iff.1 operational
  refine operational_iff.2 ⟨user, ?_, same, fine⟩
  rw [(Table.insert?_rows inserted).1]
  exact List.mem_append_left _ member

theorem lifecycle_actor {snapshot current next : Directory} {action : LifecycleAction} {id : Id}
    {input : AccountLifecycle} {actorUserId : Id} {replacementPasswordHash : Nat} {now : Int}
    (ran : lifecycle rules snapshot current action id input actorUserId replacementPasswordHash now =
      .ok next) :
    Operational rules snapshot actorUserId /\
      (Operational rules current actorUserId -> Operational rules next actorUserId) := by
  simp only [lifecycle, requireActor, bind_ok, throwIf_ok, orThrow_ok, updateOne_ok, pure_ok] at ran
  obtain ⟨-, actor, -, other, target, found, profile, -, -, -, -, -, -, -, users, ⟨-, rfl⟩, rfl⟩ := ran
  refine ⟨by simpa [Operational] using actor, fun operational => ?_⟩
  obtain ⟨user, member, same, fine⟩ := operational_iff.1 operational
  refine operational_iff.2 ⟨user, ?_, same, fine⟩
  have targeted : target.id = id := Table.find?_key (Option.eq_some_of_filter_eq_some found)
  refine List.mem_map.2 ⟨user, member, Table.rewrite_other (Bool.eq_false_iff.2 fun hit => other ?_)⟩
  simp only [Bool.and_eq_true, beq_iff_eq] at hit
  exact (targeted.symm.trans hit.1.1.symm).trans same

theorem run_actor {snapshot current next : Directory} {call : Call}
    (ran : call.run rules snapshot current = .ok next) :
    Operational rules snapshot call.actorUserId /\
      (Operational rules current call.actorUserId -> Operational rules next call.actorUserId) := by
  cases call with
  | create input actorUserId =>
    obtain ⟨actor, kept⟩ := create_actor ran
    exact ⟨actor, kept actorUserId⟩
  | lifecycle => exact lifecycle_actor ran

theorem work_actor {call : Call} {state next : Directory}
    (works : (system rules).work call state state = some next) :
    Operational rules state call.actorUserId /\ Operational rules next call.actorUserId := by
  have ran : call.run rules state state = .ok next := by
    cases result : call.run rules state state with
    | error failure => simp [system, result, succeeded] at works
    | ok value => simpa [system, result, succeeded] using works
  obtain ⟨actor, kept⟩ := run_actor ran
  exact ⟨actor, kept actor⟩

/-- Under every interleaving there stays an operational super administrator, and a call commits only
for an actor that is one at that moment. -/
theorem operational_super_remains (rules : TextRules) (start : Directory)
    (initial : SomeOperational rules start) (labels : List (Locking.Label Call Empty)) :
    (forall state, Runs.Visits (system rules).step (State.opening start) labels state ->
      SomeOperational rules state.committed) /\
    forall state label transaction next,
      Runs.Takes (system rules).step (State.opening start) labels state label ->
      (system rules).Commits state label transaction next ->
      Operational rules state.committed transaction.call.actorUserId := by
  have first : forall call, (system rules).plan call = System.lockFirst := fun _ => rfl
  constructor
  next =>
    rintro state ⟨before, after, -, rfl⟩
    obtain ⟨calls, reached⟩ := System.run_serial first start before
    rw [reached]
    exact System.serial_keeps (fun _ _ _ _ works => ⟨_, (work_actor works).2⟩) initial calls
  next =>
    intro state label transaction next taken commits
    have guarded := Runs.visits_keeps (System.step_guarded first)
      (System.opening_guarded (system rules) start) (Runs.takes_visits taken).1
    exact (work_actor (System.commits_current guarded commits)).1

-- Two super administrators suspend each other at the same time.
namespace Example

def directory : Directory where
  users := { rows := [Sample.superAdministrator 1, Sample.superAdministrator 2], distinct := by decide }
  roles := []

def suspends (id actorUserId : Id) : Call :=
  .lifecycle .suspend id { expectedUserVersion := 1, expectedProfileVersion := 1, reason := ['r'] }
    actorUserId 0 1

def labels : List (Locking.Label Call Empty) :=
  [.start 1 (suspends 2 1), .start 2 (suspends 1 2), .advance 1, .advance 2, .advance 1, .advance 1,
    .advance 2, .advance 2, .advance 2]

end Example

theorem mutual_suspension_leaves_one :
    SomeOperational Sample.exactText
      (Runs.run (system Sample.exactText).step (State.opening Example.directory)
        Example.labels).committed :=
  (operational_super_remains Sample.exactText Example.directory ⟨1, by decide +kernel⟩
    Example.labels).1 _ (Runs.visits_end _ _)

end VapeCommerce.Access.Administrators
