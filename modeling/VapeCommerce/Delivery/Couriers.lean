import VapeCommerce.Delivery.Operations

set_option autoImplicit false

-- admin-delivery-operations.service.ts: the couriers run by hand
namespace VapeCommerce.Delivery.Couriers

open VapeCommerce.Lib VapeCommerce.Lib.Outcome VapeCommerce.Schema VapeCommerce.Config
open VapeCommerce.Database VapeCommerce.Orders.StateMachine VapeCommerce.Orders.Admin
open VapeCommerce.Delivery.Admin VapeCommerce.Delivery.Operations

inductive CourierStatus where
  | active
  | suspended
  | archived
deriving DecidableEq, Repr

inductive CourierAvailabilityStatus where
  | available
  | offDuty
deriving DecidableEq, Repr

inductive CourierIntegrationType where
  | manual
  | api
  | csv
deriving DecidableEq, Repr

structure CourierRecord where
  id : Id
  code : Text
  status : CourierStatus
  availabilityStatus : CourierAvailabilityStatus
  phoneE164 : Option Text
  whatsappPhoneE164 : Option Text
  defaultFeeMillimes : Option Int
  maximumActiveDeliveries : Option Int
  whatsappTemplate : Option Text
  integrations : List CourierIntegrationType
  deliveryZones : List CourierDeliveryZone
  updatedAt : Int

abbrev CourierTable := Table CourierRecord.id

-- The courier as the other services read it.
def CourierRecord.listed (record : CourierRecord) : Courier where
  id := record.id
  active := record.status == .active
  available := record.availabilityStatus == .available
  defaultFeeMillimes := record.defaultFeeMillimes
  maximumActiveDeliveries := record.maximumActiveDeliveries
  deliveryZones := record.deliveryZones

-- The database with the couriers where the other services look for them.
structure Store where
  db : Db
  couriers : CourierTable

def Store.listed (store : Store) : Db :=
  { store.db with
    config := { store.db.config with couriers := store.couriers.rows.map CourierRecord.listed } }

structure CreateManualCourier where
  id : Id
  code : Text
  availabilityStatus : Option CourierAvailabilityStatus
  phoneE164 : Option Text
  whatsappPhoneE164 : Option Text
  defaultFeeMillimes : Option Int
  maximumActiveDeliveries : Option Int
  whatsappTemplate : Option Text
  coverageZones : List CourierDeliveryZone

-- A nullable field is absent, `some none` or `some (some value)`; `describes` stands for the name,
-- company, contact, email and notes, which nothing here reads.
structure UpdateManualCourier where
  expectedUpdatedAt : Int
  code : Option Text
  availabilityStatus : Option CourierAvailabilityStatus
  phoneE164 : Option (Option Text)
  whatsappPhoneE164 : Option (Option Text)
  defaultFeeMillimes : Option (Option Int)
  maximumActiveDeliveries : Option (Option Int)
  whatsappTemplate : Option (Option Text)
  coverageZones : Option (List CourierDeliveryZone)
  status : Option CourierStatus
  describes : Bool

def UpdateManualCourier.changes (input : UpdateManualCourier) : Bool :=
  input.code.isSome || input.describes || input.availabilityStatus.isSome ||
    input.phoneE164.isSome || input.whatsappPhoneE164.isSome || input.defaultFeeMillimes.isSome ||
    input.maximumActiveDeliveries.isSome || input.whatsappTemplate.isSome ||
    input.coverageZones.isSome || input.status.isSome

-- The rendering check of courier-whatsapp.ts, by template and phone number; no template is the
-- default one.
abbrev WhatsAppCheck := Option Text -> Option Text -> Except Failure Unit

def courierCode (code : Text) : Text :=
  (trim code).map Char.toUpper

def validateCoverageZones (config : Configuration) (zones : List CourierDeliveryZone) :
    Except Failure Unit :=
  throwIf ((config.deliveryZones.filter fun zone =>
      decide (zone.id ∈ zones.map CourierDeliveryZone.deliveryZoneId)).length ≠ zones.length)
    (badRequest "COURIER_COVERAGE_ZONE_INVALID")

def assertCodeFree (couriers : CourierTable) (id : Id) (code : Text) : Except Failure Unit :=
  throwIf (couriers.rows.any fun other => other.id != id && other.code == code)
    (conflict "COURIER_CODE_CONFLICT")

def newCourier (input : CreateManualCourier) (now : Int) : CourierRecord where
  id := input.id
  code := courierCode input.code
  status := .active
  availabilityStatus := input.availabilityStatus.getD .available
  phoneE164 := input.phoneE164
  whatsappPhoneE164 := input.whatsappPhoneE164
  defaultFeeMillimes := input.defaultFeeMillimes
  maximumActiveDeliveries := input.maximumActiveDeliveries
  whatsappTemplate := input.whatsappTemplate.map trim
  integrations := [.manual]
  deliveryZones := input.coverageZones
  updatedAt := now

def createManualCourier (whatsApp : WhatsAppCheck) (snapshot : Store) (couriers : CourierTable)
    (input : CreateManualCourier) (now : Int) : Except Failure CourierTable := do
  validateCoverageZones snapshot.db.config input.coverageZones
  whatsApp input.whatsappTemplate (input.whatsappPhoneE164.or input.phoneE164)
  assertCodeFree couriers input.id (courierCode input.code)
  create couriers (newCourier input now)

def activeManifestCount (db : Db) (courierId : Id) : Nat :=
  db.manifests.count fun manifest => manifest.courierId == courierId && activeManifest manifest

def assertNoCustody (db : Db) (courierId : Id) : Except Failure Unit :=
  throwIf (activeDeliveryCount db courierId > 0 \/ activeManifestCount db courierId > 0)
    (conflict "COURIER_HAS_ACTIVE_CUSTODY")

def courierUpdated (input : UpdateManualCourier) (now : Int) (record : CourierRecord) :
    CourierRecord :=
  { record with
    code := (input.code.map courierCode).getD record.code
    status := input.status.getD record.status
    availabilityStatus := input.availabilityStatus.getD record.availabilityStatus
    phoneE164 := input.phoneE164.getD record.phoneE164
    whatsappPhoneE164 := input.whatsappPhoneE164.getD record.whatsappPhoneE164
    defaultFeeMillimes := input.defaultFeeMillimes.getD record.defaultFeeMillimes
    maximumActiveDeliveries := input.maximumActiveDeliveries.getD record.maximumActiveDeliveries
    whatsappTemplate := (input.whatsappTemplate.map fun template => template.map trim).getD
      record.whatsappTemplate
    deliveryZones := input.coverageZones.getD record.deliveryZones
    updatedAt := now }

theorem courierUpdated_id (input : UpdateManualCourier) (now : Int) (record : CourierRecord) :
    (courierUpdated input now record).id = record.id := rfl

-- The courier row is locked before the first plain read.
def updateManualCourier (whatsApp : WhatsAppCheck) (snapshot : Store) (couriers : CourierTable) (id : Id)
    (input : UpdateManualCourier) (now : Int) : Except Failure CourierTable := do
  throwIf (input.changes = false) (badRequest "COURIER_UPDATE_EMPTY")
  let courier <- orThrow (snapshot.couriers.find? id) (notFound "COURIER_NOT_FOUND")
  throwIf (courier.updatedAt ≠ input.expectedUpdatedAt) (conflict "COURIER_VERSION_CONFLICT")
  throwIf (courier.integrations.any fun type => type != .manual)
    (conflict "COURIER_EXTERNAL_CONFIGURATION_MANAGED_ELSEWHERE")
  validateCoverageZones snapshot.db.config (input.coverageZones.getD [])
  whatsApp ((input.whatsappTemplate.getD courier.whatsappTemplate))
    ((input.whatsappPhoneE164.getD courier.whatsappPhoneE164).or
      (input.phoneE164.getD courier.phoneE164))
  requireWhen (input.status.any (fun status => status != .active) = true /\ courier.status = .active)
    (assertNoCustody snapshot.db id)
  assertCodeFree couriers id ((input.code.map courierCode).getD courier.code)
  updateOne couriers (fun row => row.id == id && row.updatedAt == courier.updatedAt)
    (courierUpdated input now) (courierUpdated_id input now) (conflict "COURIER_VERSION_CONFLICT")

end VapeCommerce.Delivery.Couriers
