import VapeCommerce.Lib.Table

set_option autoImplicit false

-- The tables of prisma/schema.prisma, with the columns the modelled services read or write.
namespace VapeCommerce.Schema

open VapeCommerce.Lib

abbrev Id := Nat

-- Free text, trimmed as String.prototype.trim does.
abbrev Text := List Char

theorem text_lawful : LawfulBEq Text := inferInstance

def isSpace (char : Char) : Bool :=
  let code := char.toNat
  (9 <= code && code <= 13) || code == 32 || code == 160 || code == 5760 ||
    (8192 <= code && code <= 8202) || code == 8232 || code == 8233 || code == 8239 ||
    code == 8287 || code == 12288 || code == 65279

def trim (text : Text) : Text :=
  ((text.dropWhile isSpace).reverse.dropWhile isSpace).reverse

-- `text?.trim() || null`
def trimmedOrNull (text : Option Text) : Option Text :=
  match text.map trim with
  | none => none
  | some [] => none
  | some trimmed => some trimmed

inductive FailureKind where
  | badRequest
  | forbidden
  | notFound
  | conflict
  | unavailable
  | internal
deriving DecidableEq, Repr

structure Failure where
  kind : FailureKind
  code : String
deriving DecidableEq, Repr

def badRequest (code : String) : Failure := { kind := .badRequest, code }

def forbidden (code : String) : Failure := { kind := .forbidden, code }

def notFound (code : String) : Failure := { kind := .notFound, code }

def conflict (code : String) : Failure := { kind := .conflict, code }

def unavailable (code : String) : Failure := { kind := .unavailable, code }

def uniqueViolation : Failure := { kind := .internal, code := "P2002" }

inductive OrderStatus where
  | pendingConfirmation
  | confirmed
  | onHold
  | preparing
  | readyForPickup
  | assignedToCourier
  | handedToCourier
  | inTransit
  | outForDelivery
  | deliveryAttempted
  | rescheduled
  | delivered
  | refused
  | failed
  | returnToSender
  | returned
  | cancelled
deriving DecidableEq, Repr

-- `DeliveryStatus` has the values of `OrderStatus`, under the same names.
abbrev DeliveryStatus := OrderStatus

inductive PaymentStatus where
  | paymentPending
  | cashExpected
  | cashCollectedByCourier
  | cashCollectedAtStore
  | cashPartiallyCollected
  | cashRemitted
  | reconciliationDiscrepancy
  | refunded
  | cancelled
deriving DecidableEq, Repr

inductive DeliveryMethodType where
  | courier
  | storePickup
  | manualQuote
deriving DecidableEq, Repr

inductive AgeVerificationResult where
  | notRequired
  | pending
  | passed
  | failed
  | refused
  | unableToVerify
deriving DecidableEq, Repr

inductive AgeVerificationPhase where
  | storeEntry
  | checkout
  | delivery
  | customerSupport
deriving DecidableEq, Repr

inductive DeliveryAttemptOutcome where
  | delivered
  | customerUnavailable
  | addressNotFound
  | customerRefused
  | failedAgeVerification
  | partialCashNotAllowed
  | rescheduled
  | otherFailed
deriving DecidableEq, Repr

inductive ManifestStatus where
  | draft
  | sealed
  | handedOver
  | closed
  | cancelled
deriving DecidableEq, Repr

inductive CashCollectionStatus where
  | expected
  | collected
  | partiallyCollected
  | voided
  | remitted
deriving DecidableEq, Repr

inductive CashRemittanceStatus where
  | draft
  | submitted
  | verified
  | discrepancy
  | rejected
  | cancelled
deriving DecidableEq, Repr

inductive CashDiscrepancyStatus where
  | opened
  | investigating
  | resolved
  | writtenOff
deriving DecidableEq, Repr

inductive StockReservationState where
  | active
  | consumed
  | released
  | expired
deriving DecidableEq, Repr

inductive StockMovementType where
  | initialStock
  | purchaseReceipt
  | manualAdjustment
  | reservation
  | reservationRelease
  | orderConfirmed
  | damage
  | expiry
  | transferIn
  | transferOut
deriving DecidableEq, Repr

inductive InventoryAdjustmentStatus where
  | pendingApproval
  | approved
  | rejected
  | applied
  | expired
deriving DecidableEq, Repr

inductive InventoryAdjustmentReason where
  | stockCountCorrection
  | damage
  | expiry
  | purchaseReceipt
  | other
deriving DecidableEq, Repr

structure OrderItem where
  id : Id
  productId : Id
  variantId : Id
  unitPriceMillimes : Int
  unitDiscountMillimes : Int
  taxRateBpsSnapshot : Int
  unitTaxMillimes : Int
  quantity : Int
  lineSubtotalMillimes : Int
  lineDiscountMillimes : Int
  lineTaxMillimes : Int
  lineTotalMillimes : Int
deriving DecidableEq, Repr

structure Order where
  id : Id
  orderNumber : Int
  customerId : Id
  cartId : Id
  status : OrderStatus
  paymentStatus : PaymentStatus
  subtotalMillimes : Int
  discountTotalMillimes : Int
  deliveryTotalMillimes : Int
  taxTotalMillimes : Int
  grandTotalMillimes : Int
  expectedCodMillimes : Int
  deliveryMethodType : DeliveryMethodType
  deliveryZoneId : Option Id
  deliveryRateId : Option Id
  pickupLocationId : Option Id
  minimumAgeSnapshot : Int
  ageVerificationAtDeliveryRequired : Bool
  phoneConfirmationRequired : Bool
  manualReviewRequired : Bool
  version : Nat
  createdAt : Int
  items : List OrderItem
deriving DecidableEq, Repr

structure OrderStatusHistory where
  orderId : Id
  fromStatus : Option OrderStatus
  toStatus : OrderStatus
  reasonCode : Text
  changedByUserId : Id
deriving DecidableEq, Repr

structure Delivery where
  id : Id
  orderId : Id
  courierId : Option Id
  status : DeliveryStatus
  trackingNumber : Option Text
  courierFeeMillimes : Option Int
  nextAttemptAt : Option Int
  ageVerificationRequired : Bool
  ageVerificationResult : AgeVerificationResult
  cashCollectedResult : Option Bool
  version : Nat
deriving DecidableEq, Repr

structure DeliveryAttempt where
  deliveryId : Id
  attemptNumber : Nat
  attemptedAt : Int
  outcome : DeliveryAttemptOutcome
  nextAttemptAt : Option Int
  ageVerificationResult : AgeVerificationResult
  cashExpectedMillimes : Int
  cashCollectedMillimes : Option Int
  recordedByUserId : Id
deriving DecidableEq, Repr

structure AgeVerificationEvent where
  orderId : Id
  deliveryId : Option Id
  phase : AgeVerificationPhase
  result : AgeVerificationResult
  minimumAge : Int
deriving DecidableEq, Repr

structure DeliveryManifest where
  id : Id
  courierId : Id
  status : ManifestStatus
  deliveryIds : List Id
deriving DecidableEq, Repr

-- SHA-256 is injective here: a hash is the value hashed, so a scoped key is its parts.
structure ScopedKey where
  scope : String
  actorUserId : Id
  resourceId : Option Id
  key : Text
deriving DecidableEq, Repr

structure RecordRequest where
  collectedMillimes : Int
  expectedDeliveryVersion : Nat
  expectedOrderVersion : Nat
  reasonCode : Option Text
  reasonDetail : Option Text
deriving DecidableEq, Repr

structure CashCollection where
  id : Id
  orderId : Id
  deliveryId : Option Id
  courierId : Option Id
  status : CashCollectionStatus
  expectedMillimes : Int
  collectedMillimes : Int
  collectedByUserId : Option Id
  recordIdempotencyKeyHash : Option ScopedKey
  recordRequestHash : Option RecordRequest
deriving DecidableEq, Repr

structure CashDiscrepancy where
  id : Id
  remittanceId : Option Id
  cashCollectionId : Option Id
  orderId : Option Id
  status : CashDiscrepancyStatus
  expectedMillimes : Int
  actualMillimes : Int
  differenceMillimes : Int
  openedByUserId : Id
  resolvedByUserId : Option Id
deriving DecidableEq, Repr

structure CashRemittance where
  id : Id
  remittanceNumber : Text
  courierId : Id
  status : CashRemittanceStatus
  declaredMillimes : Int
  verifiedMillimes : Option Int
  differenceMillimes : Option Int
  receivedByUserId : Option Id
  verifiedByUserId : Option Id
deriving DecidableEq, Repr

structure CashRemittanceItem where
  remittanceId : Id
  cashCollectionId : Id
  amountMillimes : Int
deriving DecidableEq, Repr

inductive CashReconciliationEventType where
  | collectionRecorded
  | discrepancyOpened
  | remittanceSubmitted
  | remittanceVerified
  | adjustmentRecorded
  | discrepancyResolved
deriving DecidableEq, Repr

structure CashReconciliationEvent where
  type : CashReconciliationEventType
  remittanceId : Option Id
  cashCollectionId : Option Id
  amountMillimes : Int
  actorUserId : Id
deriving DecidableEq, Repr

structure ProductBatch where
  id : Id
  variantId : Id
  supplierId : Option Id
  batchNumber : Text
  supplierReference : Option Text
  manufacturedAt : Option Int
  expiryDate : Option Int
  receivedAt : Option Int
  archivedAt : Option Int
deriving DecidableEq, Repr

-- `lotKey` is the batch id, or "UNBATCHED" as `none`.
structure InventoryItem where
  id : Id
  variantId : Id
  locationId : Id
  batchId : Option Id
  lotKey : Option Id
  onHandQuantity : Int
  version : Nat
deriving DecidableEq, Repr

inductive InventoryFingerprint where
  | batchReceipt (variantId locationId : Id) (batchNumber : Text) (supplierId : Option Id)
      (supplierReference : Option Text) (manufacturedAt : Option Int) (expiryDate : Int)
      (quantity : Int) (note : Option Text)
  | transfer (sourceInventoryItemId destinationLocationId : Id) (quantity : Int)
      (expectedSourceVersion : Nat) (note : Option Text)
deriving DecidableEq, Repr

-- Orders are written "Order" by the API's cancellations and confirmation, "ORDER" elsewhere.
inductive StockReferenceType where
  | order
  | inventoryItem
  | productBatchReceipt
  | inventoryAdjustment
  | inventoryTransfer
deriving DecidableEq, Repr

structure StockMovement where
  inventoryItemId : Id
  locationId : Id
  batchId : Option Id
  type : StockMovementType
  quantityDelta : Int
  onHandAfter : Int
  referenceType : Option StockReferenceType
  referenceId : Option Id
  actorUserId : Option Id
  idempotencyKeyHash : Option ScopedKey
  requestFingerprint : Option InventoryFingerprint
deriving DecidableEq, Repr

structure StockReservation where
  id : Id
  inventoryItemId : Id
  quantity : Int
  state : StockReservationState
  orderId : Id
  orderItemId : Id
  expiresAt : Int
deriving DecidableEq, Repr

structure InventoryAdjustment where
  id : Id
  inventoryItemId : Id
  quantityDelta : Int
  reasonCode : InventoryAdjustmentReason
  status : InventoryAdjustmentStatus
  requestedBy : Id
  approvedBy : Option Id
  expectedVersion : Nat
  onHandBefore : Int
  expiresAt : Option Int
deriving DecidableEq, Repr

structure InventoryTransfer where
  id : Id
  sourceInventoryItemId : Id
  destinationInventoryItemId : Id
  quantity : Int
  idempotencyKeyHash : ScopedKey
  requestFingerprint : InventoryFingerprint
  requestedBy : Id
deriving DecidableEq, Repr

structure CartItem where
  variantId : Id
  quantity : Int
deriving DecidableEq, Repr

inductive CartStatus where
  | active
  | converted
  | abandoned
  | expired
deriving DecidableEq, Repr

structure Cart where
  id : Id
  customerId : Id
  status : CartStatus
  version : Nat
  updatedAt : Int
  expiresAt : Option Int
  items : List CartItem
deriving DecidableEq, Repr

end VapeCommerce.Schema
