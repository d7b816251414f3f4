import VapeCommerce.Database

set_option autoImplicit false

-- The accounts of administrators and customers, and the actor both account services require.
namespace VapeCommerce.Access.Users

open VapeCommerce.Lib VapeCommerce.Lib.Outcome VapeCommerce.Schema

inductive AuthAudience where
  | admin
  | customer
deriving DecidableEq, Repr

inductive UserStatus where
  | pendingVerification
  | active
  | suspended
  | disabled
  | anonymized
deriving DecidableEq, Repr

structure AdminProfile where
  displayName : Text
  employeeCode : Option Text
  jobTitle : Option Text
  mustEnrollTwoFactor : Bool
  suspendedAt : Option Int
  suspensionReason : Option Text
  version : Nat
deriving DecidableEq, Repr

structure TwoFactorSecret where
  verifiedAt : Option Int
deriving DecidableEq, Repr

-- A user with the rows of an administrator: profile, second factor and the keys of its roles.
structure User where
  id : Id
  audience : AuthAudience
  emailNormalized : Option Text
  passwordHash : Option Nat
  status : UserStatus
  failedLoginCount : Nat
  lockedUntil : Option Int
  version : Nat
  deletedAt : Option Int
  adminProfile : Option AdminProfile
  twoFactorSecret : Option TwoFactorSecret
  roles : List Text
deriving DecidableEq, Repr

structure Role where
  key : Text
  isSystem : Bool
deriving DecidableEq, Repr

def superAdministratorRoleKey : Text :=
  "super-administrator".toList

-- What text the database compares as equal, and how the runtime lower-cases an address.
structure TextRules where
  fold : Text -> Text
  lower : Text -> Text

variable (rules : TextRules)

def holdsRole (key : Text) (user : User) : Bool :=
  user.roles.any fun role => rules.fold role == rules.fold key

-- The `where` of the actor and of the operational super administrators that are counted.
def operationalSuper (user : User) : Bool :=
  user.audience == .admin && user.status == .active && user.deletedAt.isNone &&
    user.adminProfile.any (fun profile => profile.suspendedAt.isNone && !profile.mustEnrollTwoFactor) &&
    user.twoFactorSecret.any (fun secret => secret.verifiedAt.isSome) &&
    holdsRole rules superAdministratorRoleKey user

def operationalActor (users : Table User.id) (actorUserId : Id) : Bool :=
  users.rows.any fun user => user.id == actorUserId && operationalSuper rules user

-- The read of `lockAndRequireActor`, after its lock on the row of the role.
def requireActor (users : Table User.id) (actorUserId : Id) : Except Failure Unit :=
  throwIf (operationalActor rules users actorUserId = false)
    (forbidden "SUPER_ADMINISTRATOR_STATE_INVALID")

structure AccountLifecycle where
  expectedUserVersion : Nat
  expectedProfileVersion : Nat
  reason : Text

-- Accounts for runs on concrete inputs.
namespace Sample

def exactText : TextRules where
  fold := id
  lower := id

def superAdministrator (id : Id) : User where
  id := id
  audience := .admin
  emailNormalized := none
  passwordHash := none
  status := .active
  failedLoginCount := 0
  lockedUntil := none
  version := 1
  deletedAt := none
  adminProfile := some {
    displayName := []
    employeeCode := none
    jobTitle := none
    mustEnrollTwoFactor := false
    suspendedAt := none
    suspensionReason := none
    version := 1 }
  twoFactorSecret := some { verifiedAt := some 0 }
  roles := [superAdministratorRoleKey]

end Sample

end VapeCommerce.Access.Users
