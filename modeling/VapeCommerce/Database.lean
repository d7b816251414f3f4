import VapeCommerce.Config

set_option autoImplicit false

namespace VapeCommerce.Database

open VapeCommerce.Lib VapeCommerce.Lib.Outcome VapeCommerce.Schema VapeCommerce.Config

-- `OrderIdempotencyKey`; its request hash is the normalized request itself.
structure OrderIdempotencyKey (Request : Type) where
  id : Id
  keyHash : ScopedKey
  audienceScope : Id
  requestHash : Request
  orderId : Option Id
  completedAt : Option Int

-- The request DTOs; their fields carry what the validation pipe has already checked.
structure CheckoutItem where
  variantId : Id
  quantity : Int
  bounds : 1 <= quantity /\ quantity <= 20
deriving DecidableEq

structure CheckoutAddress where
  street : Text
  building : Option Text
  floor : Option Text
  apartment : Option Text
  landmark : Option Text
  postalCode : Option Text
  instructions : Option Text
deriving DecidableEq

structure CheckoutConsent where
  ageConfirmed : Bool
  termsAccepted : Bool
  privacyAccepted : Bool
  termsDocumentVersionId : Option Id
  privacyDocumentVersionId : Option Id
deriving DecidableEq, Repr

structure CheckoutOrder where
  items : List CheckoutItem
  localityId : Option Id
  pickupLocationId : Option Id
  express : Option Bool
  customerName : Text
  phone : Text
  email : Option Text
  address : Option CheckoutAddress
  consent : CheckoutConsent
  sized : 1 <= items.length /\ items.length <= 50
deriving DecidableEq

-- A parsed row of the status CSV.
structure DeliveryStatusCsvCommand where
  deliveryId : Id
  expectedVersion : Nat
  currentStatus : DeliveryStatus
  targetStatus : DeliveryStatus
  reasonCode : Option Text
  note : Option Text
deriving DecidableEq, Repr

-- What a dry run or an applied import answered, under its key; a row's code is its rejection.
structure DeliveryStatusImport where
  importKey : Text
  dryRun : Bool
  payloadHash : Text
  rowCodes : List (Option String)
  appliedCount : Nat
deriving DecidableEq, Repr

structure Db where
  config : Configuration
  carts : Table Cart.id
  batches : Table ProductBatch.id
  items : Table InventoryItem.id
  reservations : Table StockReservation.id
  movements : List StockMovement
  adjustments : Table InventoryAdjustment.id
  transfers : Table InventoryTransfer.id
  orderSequence : Option Int
  idempotencyKeys : Table (@OrderIdempotencyKey.keyHash CheckoutOrder)
  orders : Table Order.id
  history : List OrderStatusHistory
  deliveries : Table Delivery.id
  attempts : List DeliveryAttempt
  ageEvents : List AgeVerificationEvent
  manifests : Table DeliveryManifest.id
  imports : List DeliveryStatusImport
  collections : Table CashCollection.id
  discrepancies : Table CashDiscrepancy.id
  remittances : Table CashRemittance.id
  remittanceItems : List CashRemittanceItem
  cashEvents : List CashReconciliationEvent

def Db.empty (config : Configuration) (orderSequence : Option Int) : Db where
  config := config
  carts := Table.empty
  batches := Table.empty
  items := Table.empty
  reservations := Table.empty
  movements := []
  adjustments := Table.empty
  transfers := Table.empty
  orderSequence := orderSequence
  idempotencyKeys := Table.empty
  orders := Table.empty
  history := []
  deliveries := Table.empty
  attempts := []
  ageEvents := []
  manifests := Table.empty
  imports := []
  collections := Table.empty
  discrepancies := Table.empty
  remittances := Table.empty
  remittanceItems := []
  cashEvents := []

-- `create`, failing as Prisma does on a unique violation.
def create {K R : Type} [DecidableEq K] {key : R -> K} (table : Table key) (row : R) :
    Except Failure (Table key) :=
  orThrow (table.insert? row) uniqueViolation

-- `updateMany` followed by the caller's `count !== 1` check.
def updateOne {K R : Type} {key : R -> K} (table : Table key) (chosen : R -> Bool)
    (change : R -> R) (keeps : forall row, key (change row) = key row) (failure : Failure) :
    Except Failure (Table key) := do
  throwIf (table.count chosen ≠ 1) failure
  return table.update chosen change keeps

@[simp]
theorem create_ok {K R : Type} [DecidableEq K] {key : R -> K} (table next : Table key) (row : R) :
    create table row = .ok next <-> table.insert? row = some next := by
  simp [create]

theorem updateOne_ok {K R : Type} {key : R -> K} (table next : Table key) (chosen : R -> Bool)
    (change : R -> R) (keeps : forall row, key (change row) = key row) (failure : Failure) :
    updateOne table chosen change keeps failure = .ok next <->
      table.count chosen = 1 /\ table.update chosen change keeps = next := by
  simp only [updateOne, bind_ok, throwIf_ok, not_not, pure_ok, exists_const]

-- The guard of an update holds of the row it was made from.
theorem updateOne_runs {K R : Type} {key : R -> K} {table : Table key} {row : R}
    (member : row ∈ table.rows) {chosen : R -> Bool} (hit : chosen row = true)
    (only : forall other, chosen other = true -> key other = key row) (change : R -> R)
    (keeps : forall row, key (change row) = key row) (failure : Failure) :
    updateOne table chosen change keeps failure = .ok (table.update chosen change keeps) :=
  (updateOne_ok _ _ _ _ _ _).2 ⟨table.count_eq_one member hit only, rfl⟩

end VapeCommerce.Database
