import Mathlib.Data.List.Sort
import VapeCommerce.Access.Customers
import VapeCommerce.Lib.Locking

set_option autoImplicit false

-- customer-addresses.service.ts. A transaction opens its snapshot when it first reads the customer, then
-- waits for the lock on the profile, then does its work: it reads from the snapshot and writes to the
-- latest rows.
namespace VapeCommerce.Access.Addresses

open VapeCommerce.Lib VapeCommerce.Lib.Outcome VapeCommerce.Schema VapeCommerce.Config
open VapeCommerce.Database VapeCommerce.Access.Customers VapeCommerce.Lib.Locking

inductive AddressType where
  | home
  | work
  | other
deriving DecidableEq, Repr

structure GeographySelection where
  governorateId : Id
  delegationId : Id
  localityId : Option Id
  postalCode : Option Text
deriving DecidableEq, Repr

structure Address extends GeographySelection where
  id : Id
  customerId : Id
  type : AddressType
  label : Option Text
  fullName : Text
  phoneE164 : Text
  street : Text
  building : Option Text
  floor : Option Text
  apartment : Option Text
  landmark : Option Text
  deliveryInstructions : Option Text
  isDefault : Bool
  version : Nat
  createdAt : Int
  deletedAt : Option Int
deriving DecidableEq, Repr

-- The rows a call reads and no call writes.
structure Registry where
  customers : Table CustomerAccount.id
  governorates : List Governorate
  delegations : List Delegation
  localities : List Locality
  postalCodes : List PostalCode

structure CreateCustomerAddress where
  type : Option AddressType
  label : Option Text
  fullName : Text
  phone : Text
  governorateId : Id
  delegationId : Id
  localityId : Option Id
  postalCode : Option Text
  street : Text
  building : Option Text
  floor : Option Text
  apartment : Option Text
  landmark : Option Text
  deliveryInstructions : Option Text
  isDefault : Option Bool

-- The outer option says whether the input has the property, the inner one whether it has a value.
structure UpdateCustomerAddress where
  expectedVersion : Nat
  type : Option AddressType
  label : Option (Option Text)
  fullName : Option Text
  phone : Option Text
  governorateId : Option Id
  delegationId : Option Id
  localityId : Option (Option Id)
  postalCode : Option (Option Text)
  street : Option Text
  building : Option (Option Text)
  floor : Option (Option Text)
  apartment : Option (Option Text)
  landmark : Option (Option Text)
  deliveryInstructions : Option (Option Text)
  isDefault : Option Bool
deriving DecidableEq

inductive Call where
  | create (id : Id) (input : CreateCustomerAddress) (now : Int)
  | update (addressId : Id) (input : UpdateCustomerAddress)
  | remove (addressId : Id) (expectedVersion : Nat) (now : Int)

def maxCustomerAddresses : Nat := 20

def addressNotFound : Failure := notFound "ADDRESS_NOT_FOUND"

def versionConflict : Failure := conflict "ADDRESS_VERSION_CONFLICT"

def invalidGeography : Failure := badRequest "ADDRESS_GEOGRAPHY_INVALID"

variable (registry : Registry)

def requireCustomer (userId : Id) : Except Failure Id := do
  let customer <- orThrow
    (registry.customers.rows.find? fun account =>
      account.user.id == userId && account.suspendedAt.isNone && account.anonymizedAt.isNone &&
        account.user.audience == .customer && account.user.status == .active &&
        account.user.deletedAt.isNone)
    (forbidden "CUSTOMER_ACCOUNT_UNAVAILABLE")
  return customer.id

def activeDelegation (selection : GeographySelection) : Bool :=
  registry.delegations.any fun delegation =>
    delegation.id == selection.delegationId && delegation.governorateId == selection.governorateId &&
      delegation.active &&
      registry.governorates.any fun governorate =>
        governorate.id == delegation.governorateId && governorate.active

def activeLocality (selection : GeographySelection) (localityId : Id) : Bool :=
  registry.localities.any fun locality =>
    locality.id == localityId && locality.delegationId == selection.delegationId && locality.active &&
      selection.postalCode.all fun postalCode =>
        registry.postalCodes.any fun row =>
          row.localityId == locality.id && row.code == postalCode && row.active

def validateGeography (selection : GeographySelection) : Except Failure Unit := do
  throwIf (activeDelegation registry selection = false \/
      (selection.localityId.isNone /\ selection.postalCode.isSome))
    invalidGeography
  match selection.localityId with
  | none => return ()
  | some localityId => throwIf (activeLocality registry selection localityId = false) invalidGeography

def live (customerId : Id) (row : Address) : Bool :=
  row.customerId == customerId && row.deletedAt.isNone

def liveDefault (customerId : Id) (row : Address) : Bool :=
  live customerId row && row.isDefault

def withDefault (isDefault : Bool) (row : Address) : Address :=
  { row with isDefault, version := row.version + 1 }

@[simp]
theorem withDefault_id (isDefault : Bool) (row : Address) : (withDefault isDefault row).id = row.id := rfl

def clearDefaults (addresses : Table Address.id) (customerId : Id) (except : Option Id) :
    Table Address.id :=
  addresses.update (fun row => liveDefault customerId row && decide (some row.id ≠ except))
    (withDefault false) (withDefault_id false)

-- orderBy: [{ createdAt: 'asc' }, { id: 'asc' }]
def createdBefore (left right : Address) : Prop :=
  left.createdAt < right.createdAt \/ (left.createdAt = right.createdAt /\ left.id <= right.id)

instance : DecidableRel createdBefore :=
  fun _ _ => inferInstanceAs (Decidable (_ \/ _))

def replacementFor (addresses : Table Address.id) (customerId id : Id) : Option Address :=
  ((addresses.filter fun row => live customerId row && row.id != id).insertionSort createdBefore).head?

-- The limit and the first default are decided on the count in the snapshot.
def create (userId : Id) (snapshot current : Table Address.id) (id : Id) (input : CreateCustomerAddress)
    (now : Int) : Except Failure (Table Address.id) := do
  let customerId <- requireCustomer registry userId
  let count := snapshot.count (live customerId)
  throwIf (count >= maxCustomerAddresses) (conflict "ADDRESS_LIMIT_REACHED")
  let geography : GeographySelection := {
    governorateId := input.governorateId
    delegationId := input.delegationId
    localityId := input.localityId
    postalCode := trimmedOrNull input.postalCode }
  validateGeography registry geography
  let isDefault := input.isDefault == some true || count == 0
  let cleared := if isDefault then clearDefaults current customerId none else current
  Database.create cleared { geography with
    id
    customerId
    type := input.type.getD .home
    label := trimmedOrNull input.label
    fullName := input.fullName
    phoneE164 := input.phone
    street := input.street
    building := trimmedOrNull input.building
    floor := trimmedOrNull input.floor
    apartment := trimmedOrNull input.apartment
    landmark := trimmedOrNull input.landmark
    deliveryInstructions := trimmedOrNull input.deliveryInstructions
    isDefault
    version := 1
    createdAt := now
    deletedAt := none }

def UpdateCustomerAddress.empty (input : UpdateCustomerAddress) : Bool :=
  input.type.isNone && input.label.isNone && input.fullName.isNone && input.phone.isNone &&
    input.governorateId.isNone && input.delegationId.isNone && input.localityId.isNone &&
    input.postalCode.isNone && input.street.isNone && input.building.isNone && input.floor.isNone &&
    input.apartment.isNone && input.landmark.isNone && input.deliveryInstructions.isNone &&
    input.isDefault.isNone

def UpdateCustomerAddress.geography (input : UpdateCustomerAddress) (current : Address) :
    GeographySelection where
  governorateId := input.governorateId.getD current.governorateId
  delegationId := input.delegationId.getD current.delegationId
  localityId := input.localityId.getD current.localityId
  postalCode := (input.postalCode.map trimmedOrNull).getD current.postalCode

def UpdateCustomerAddress.movesPlace (input : UpdateCustomerAddress) : Bool :=
  input.governorateId.isSome || input.delegationId.isSome || input.localityId.isSome ||
    input.postalCode.isSome

def updateData (input : UpdateCustomerAddress) (geography : GeographySelection) (row : Address) : Address :=
  { row with
    type := input.type.getD row.type
    label := (input.label.map trimmedOrNull).getD row.label
    fullName := input.fullName.getD row.fullName
    phoneE164 := input.phone.getD row.phoneE164
    governorateId := if input.governorateId.isSome then geography.governorateId else row.governorateId
    delegationId := if input.delegationId.isSome then geography.delegationId else row.delegationId
    localityId := if input.localityId.isSome then geography.localityId else row.localityId
    postalCode := if input.postalCode.isSome then geography.postalCode else row.postalCode
    street := input.street.getD row.street
    building := (input.building.map trimmedOrNull).getD row.building
    floor := (input.floor.map trimmedOrNull).getD row.floor
    apartment := (input.apartment.map trimmedOrNull).getD row.apartment
    landmark := (input.landmark.map trimmedOrNull).getD row.landmark
    deliveryInstructions := (input.deliveryInstructions.map trimmedOrNull).getD row.deliveryInstructions
    isDefault := input.isDefault.getD row.isDefault
    version := row.version + 1 }

@[simp]
theorem updateData_id (input : UpdateCustomerAddress) (geography : GeographySelection) (row : Address) :
    (updateData input geography row).id = row.id := rfl

def removed (now : Int) (row : Address) : Address :=
  { row with deletedAt := some now, isDefault := false, version := row.version + 1 }

@[simp]
theorem removed_id (now : Int) (row : Address) : (removed now row).id = row.id := rfl

-- The row a call is about, at the version its caller has seen.
def findCurrent (snapshot : Table Address.id) (customerId addressId : Id) (expectedVersion : Nat) :
    Except Failure Address := do
  let current <- orThrow ((snapshot.find? addressId).filter (live customerId)) addressNotFound
  throwIf (current.version ≠ expectedVersion) versionConflict
  return current

def atVersion (customerId id : Id) (version : Nat) (row : Address) : Bool :=
  row.id == id && live customerId row && row.version == version

def promote (addresses : Table Address.id) (customerId : Id) : Option Address -> Table Address.id
  | none => addresses
  | some replacement =>
    addresses.update (fun row => row.id == replacement.id && live customerId row) (withDefault true)
      (withDefault_id true)

def replacementDefault (snapshot : Table Address.id) (customerId : Id) (current : Address)
    (input : UpdateCustomerAddress) : Except Failure (Option Address) :=
  if current.isDefault = true /\ input.isDefault = some false then
    match replacementFor snapshot customerId current.id with
    | none => .error (badRequest "DEFAULT_ADDRESS_REQUIRED")
    | some replacement => .ok (some replacement)
  else .ok none

def update (userId : Id) (snapshot latest : Table Address.id) (addressId : Id)
    (input : UpdateCustomerAddress) : Except Failure (Table Address.id) := do
  throwIf (input.empty = true) (badRequest "ADDRESS_UPDATE_EMPTY")
  let customerId <- requireCustomer registry userId
  let current <- findCurrent snapshot customerId addressId input.expectedVersion
  let geography := input.geography current
  requireWhen (input.movesPlace = true) (validateGeography registry geography)
  let replacement <- replacementDefault snapshot customerId current input
  let cleared := if input.isDefault = some true then clearDefaults latest customerId (some current.id) else latest
  let updated <- updateOne cleared (atVersion customerId current.id input.expectedVersion)
    (updateData input geography) (updateData_id _ _) versionConflict
  let promoted := promote updated customerId replacement
  -- The last read sees the transaction's own write.
  throwIf (promoted.count (fun row => row.id == current.id && live customerId row) = 0) addressNotFound
  return promoted

-- After the deletion a plain read still answers the snapshot, except for the row just written.
def remove (userId : Id) (snapshot latest : Table Address.id) (addressId : Id) (expectedVersion : Nat)
    (now : Int) : Except Failure (Table Address.id) := do
  let customerId <- requireCustomer registry userId
  let current <- findCurrent snapshot customerId addressId expectedVersion
  let deleted <- updateOne latest (atVersion customerId current.id expectedVersion) (removed now)
    (removed_id _) versionConflict
  let replacement := if current.isDefault then replacementFor snapshot customerId current.id else none
  return promote deleted customerId replacement

def Call.run (userId : Id) (snapshot latest : Table Address.id) : Call -> Except Failure (Table Address.id)
  | .create id input now => Addresses.create registry userId snapshot latest id input now
  | .update addressId input => Addresses.update registry userId snapshot latest addressId input
  | .remove addressId expectedVersion now =>
    Addresses.remove registry userId snapshot latest addressId expectedVersion now

-- `requireCustomer` reads before `FOR UPDATE` locks.
def system (userId : Id) : System (Table Address.id) Call Empty where
  plan _ := [.look, .lock, .work]
  work call snapshot latest := succeeded (call.run registry userId snapshot latest)
  outside op := nomatch op

end VapeCommerce.Access.Addresses
