import VapeCommerce.Cash.Calculations
import VapeCommerce.Checkout.Order
import VapeCommerce.Orders.Admin

set_option autoImplicit false

-- admin-cash.service.ts
namespace VapeCommerce.Cash.Admin

open VapeCommerce.Lib VapeCommerce.Lib.Outcome VapeCommerce.Schema VapeCommerce.Database
open VapeCommerce.Money VapeCommerce.Cash.Calculations VapeCommerce.Orders.Admin
open VapeCommerce.Checkout.Order

-- A transaction at REPEATABLE READ: its plain reads see `snapshot`, while its FOR UPDATE reads
-- and the `where` of its writes see `current`.
structure View where
  snapshot : Db
  current : Db

def View.latest (db : Db) : View where
  snapshot := db
  current := db

def versionConflict : Failure := conflict "VERSION_CONFLICT"

def collectionNotFound : Failure := notFound "CASH_COLLECTION_NOT_FOUND"

def remittanceNotFound : Failure := notFound "CASH_REMITTANCE_NOT_FOUND"

def discrepancyNotFound : Failure := notFound "CASH_DISCREPANCY_NOT_FOUND"

def approverRequired : Failure := forbidden "SEPARATE_RECONCILIATION_APPROVER_REQUIRED"

def remittableCollectionStatuses : List CashCollectionStatus :=
  [.collected, .partiallyCollected]

def accountedCollectionStatuses : List CashCollectionStatus :=
  [.collected, .remitted]

structure CollectionOperation where
  collection : CashCollection
  order : Order
  delivery : Option Delivery

def lockCollection (db : Db) (id : Id) : Except Failure CollectionOperation := do
  let collection <- orThrow (db.collections.find? id) collectionNotFound
  throwIf collection.deliveryId.isNone collectionNotFound
  let order <- orThrow (db.orders.find? collection.orderId) collectionNotFound
  return { collection, order, delivery := collection.deliveryId.bind db.deliveries.find? }

def requireIdempotencyKey (value : Option Text) : Except Failure Text :=
  orThrow (validateIdempotencyKey value) (badRequest "INVALID_IDEMPOTENCY_KEY")

def requireDiscrepancyReason (reasonCode reasonDetail : Option Text) : Except Failure Unit :=
  throwIf (Not (reasonCode.any (fun text => !(trim text).isEmpty) &&
      reasonDetail.any fun text => (trim text).length >= 4))
    (badRequest "DISCREPANCY_REASON_REQUIRED")

def collectionKeyHash (actorUserId id : Id) (key : Text) : ScopedKey where
  scope := "cash-collection"
  actorUserId := actorUserId
  resourceId := some id
  key := key

def hashed (input : RecordRequest) : RecordRequest :=
  { input with
    reasonCode := input.reasonCode.map trim
    reasonDetail := input.reasonDetail.map trim }

def collectableStatus (order : Order) : DeliveryStatus :=
  if order.deliveryMethodType = .storePickup then .readyForPickup else .outForDelivery

def collectedPaymentStatus (order : Order) : PaymentStatus :=
  if order.deliveryMethodType = .storePickup then .cashCollectedAtStore else .cashCollectedByCourier

-- `cashCollectionId` is a unique column; remittance discrepancies leave it null.
def openDiscrepancy (discrepancies : Table CashDiscrepancy.id) (row : CashDiscrepancy) :
    Except Failure (Table CashDiscrepancy.id) := do
  throwIf (row.cashCollectionId.isSome && discrepancies.rows.any fun other =>
      other.cashCollectionId == row.cashCollectionId)
    uniqueViolation
  create discrepancies row

def assertCollectable (operation : CollectionOperation) (delivery : Delivery) (input : RecordRequest) :
    Except Failure Unit := do
  let collection := operation.collection
  let order := operation.order
  throwIf (collection.deliveryId ≠ some delivery.id \/ collection.orderId ≠ order.id \/
      delivery.orderId ≠ order.id \/ collection.expectedMillimes ≠ order.expectedCodMillimes)
    (conflict "COLLECTION_LINKAGE_INVALID")
  throwIf (collection.status ≠ .expected) (conflict "COLLECTION_ALREADY_RECORDED")
  throwIf (order.status ≠ delivery.status \/ uncollected order.paymentStatus = false)
    (conflict "COLLECTION_ORDER_STATE_INVALID")
  throwIf (delivery.status ≠ collectableStatus order) (conflict "COLLECTION_DELIVERY_STATE_INVALID")
  throwIf (input.collectedMillimes <= 0) (badRequest "COLLECTED_AMOUNT_INVALID")

def assertCollectionCourier (operation : CollectionOperation) (delivery : Delivery) :
    Except Failure Unit :=
  throwIf (operation.order.deliveryMethodType = .courier /\ (delivery.courierId.isNone \/
      (operation.collection.courierId.isSome /\
        operation.collection.courierId ≠ delivery.courierId)))
    (conflict "COLLECTION_COURIER_REQUIRED")

def recordedCollection (order : Order) (delivery : Delivery) (target : CashCollectionStatus)
    (input : RecordRequest) (keyHash : ScopedKey) (actorUserId : Id) (row : CashCollection) :
    CashCollection :=
  { row with
    status := target
    collectedMillimes := input.collectedMillimes
    collectedByUserId := some actorUserId
    courierId := if order.deliveryMethodType = .courier then delivery.courierId else none
    recordIdempotencyKeyHash := some keyHash
    recordRequestHash := some (hashed input) }

def collectionDiscrepancy (id : Id) (collection : CashCollection) (actualMillimes : Int)
    (differenceMillimes : Int) (actorUserId : Id) : CashDiscrepancy where
  id := id
  remittanceId := none
  cashCollectionId := some collection.id
  orderId := some collection.orderId
  status := .opened
  expectedMillimes := collection.expectedMillimes
  actualMillimes := actualMillimes
  differenceMillimes := differenceMillimes
  openedByUserId := actorUserId
  resolvedByUserId := none

-- Only a difference opens a discrepancy.
def openRecorded (discrepancies : Table CashDiscrepancy.id) (row : CashDiscrepancy) :
    Except Failure (Table CashDiscrepancy.id) :=
  if row.differenceMillimes ≠ 0 then openDiscrepancy discrepancies row else .ok discrepancies

def collectionEvent (type : CashReconciliationEventType) (collectionId : Id) (amountMillimes : Int)
    (actorUserId : Id) : CashReconciliationEvent where
  type := type
  remittanceId := none
  cashCollectionId := some collectionId
  amountMillimes := amountMillimes
  actorUserId := actorUserId

def remittanceEvent (type : CashReconciliationEventType) (remittanceId : Id) (amountMillimes : Int)
    (actorUserId : Id) : CashReconciliationEvent where
  type := type
  remittanceId := some remittanceId
  cashCollectionId := none
  amountMillimes := amountMillimes
  actorUserId := actorUserId

def paid (paymentStatus : PaymentStatus) (row : Order) : Order :=
  { row with paymentStatus, version := row.version + 1 }

def cashCounted (result : Bool) (row : Delivery) : Delivery :=
  { row with cashCollectedResult := some result, version := row.version + 1 }

@[simp]
theorem recordedCollection_id (order : Order) (delivery : Delivery) (target : CashCollectionStatus)
    (input : RecordRequest) (keyHash : ScopedKey) (actorUserId : Id) (row : CashCollection) :
    (recordedCollection order delivery target input keyHash actorUserId row).id = row.id := rfl

@[simp]
theorem paid_id (paymentStatus : PaymentStatus) (row : Order) :
    (paid paymentStatus row).id = row.id := rfl

@[simp]
theorem cashCounted_id (result : Bool) (row : Delivery) : (cashCounted result row).id = row.id := rfl

def recordCollection (view : View) (id : Id) (input : RecordRequest) (idempotencyKey : Option Text)
    (discrepancyId actorUserId : Id) : Except Failure Db := do
  let key <- requireIdempotencyKey idempotencyKey
  let keyHash := collectionKeyHash actorUserId id key
  let operation <- lockCollection view.snapshot id
  let collection := operation.collection
  let order := operation.order
  if collection.recordIdempotencyKeyHash = some keyHash /\
      collection.recordRequestHash = some (hashed input) then return view.current
  throwIf (collection.recordIdempotencyKeyHash = some keyHash) (conflict "IDEMPOTENCY_KEY_REUSED")
  throwIf (order.version ≠ input.expectedOrderVersion) versionConflict
  let delivery <- orThrow operation.delivery versionConflict
  throwIf (delivery.version ≠ input.expectedDeliveryVersion) versionConflict
  assertCollectable operation delivery input
  let difference <- cashDifference collection.expectedMillimes input.collectedMillimes
  throwIf (difference < 0 /\ view.snapshot.config.partialCodCollection = false)
    (conflict "PARTIAL_CASH_COLLECTION_DISABLED")
  requireWhen (difference ≠ 0) (requireDiscrepancyReason input.reasonCode input.reasonDetail)
  let target : CashCollectionStatus := if difference < 0 then .partiallyCollected else .collected
  throwIf (canTransitionCollection collection.status target = false)
    (conflict "COLLECTION_TRANSITION_NOT_ALLOWED")
  assertCollectionCourier operation delivery
  let current := view.current
  let collections <- updateOne current.collections
    (fun row => row.id == collection.id && row.status == .expected &&
      row.recordIdempotencyKeyHash.isNone)
    (recordedCollection order delivery target input keyHash actorUserId)
    (recordedCollection_id _ _ _ _ _ _) versionConflict
  let orders <- updateOne current.orders
    (fun row => row.id == order.id && row.version == input.expectedOrderVersion &&
      row.paymentStatus == order.paymentStatus)
    (paid (if difference ≠ 0 then .reconciliationDiscrepancy else collectedPaymentStatus order))
    (paid_id _) versionConflict
  let deliveries <- updateOne current.deliveries
    (fun row => row.id == delivery.id && row.version == input.expectedDeliveryVersion)
    (cashCounted (difference == 0)) (cashCounted_id _) versionConflict
  let discrepancies <- openRecorded current.discrepancies
    (collectionDiscrepancy discrepancyId collection input.collectedMillimes difference actorUserId)
  return { current with
    collections
    orders
    deliveries
    discrepancies
    cashEvents := current.cashEvents ++
      collectionEvent .collectionRecorded collection.id input.collectedMillimes actorUserId ::
        (if difference ≠ 0 then
          [collectionEvent .discrepancyOpened collection.id difference actorUserId] else []) }

-- The amount a collection answers for; an open discrepancy leaves it undefined.
def accountableCollectionMillimes (discrepancy : Option CashDiscrepancy)
    (collection : CashCollection) : Except Failure Int := do
  let recordedDifference <- cashDifference collection.expectedMillimes collection.collectedMillimes
  match discrepancy with
  | none =>
    throwIf (recordedDifference ≠ 0) (conflict "COLLECTION_DISCREPANCY_LINK_MISSING")
    return collection.collectedMillimes
  | some discrepancy =>
    throwIf (discrepancy.expectedMillimes ≠ collection.expectedMillimes \/
        discrepancy.actualMillimes ≠ collection.collectedMillimes \/
        discrepancy.differenceMillimes ≠ recordedDifference)
      (conflict "COLLECTION_DISCREPANCY_LINKAGE_INVALID")
    throwIf (discrepancy.status = .opened \/ discrepancy.status = .investigating)
      (conflict "COLLECTION_DISCREPANCY_UNRESOLVED")
    return if discrepancy.status = .resolved then collection.expectedMillimes
      else collection.collectedMillimes

structure RemittanceAllocation where
  cashCollectionId : Id
  amountMillimes : Int
  bounds : 1 <= amountMillimes /\ amountMillimes <= maxMillimes
deriving DecidableEq

structure CreateCashRemittance where
  id : Id
  courierId : Id
  remittanceNumber : Text
  declaredMillimes : Int
  allocations : List RemittanceAllocation
  sized : 1 <= allocations.length /\ allocations.length <= 200

def itemsTotal (items : List CashRemittanceItem) : Int :=
  (items.map (·.amountMillimes)).sum

def itemsOn (items : List CashRemittanceItem) (collectionId : Id) : List CashRemittanceItem :=
  items.filter fun item => item.cashCollectionId == collectionId

def requestedAmount (allocations : List RemittanceAllocation) (collectionId : Id) : Int :=
  ((allocations.find? fun allocation => allocation.cashCollectionId == collectionId).map
    (·.amountMillimes)).getD 0

-- The collection as the snapshot has it, against the allocations committed by now.
def assertAllocation (view : View) (courierId : Id) (allocations : List RemittanceAllocation)
    (collection : CashCollection) : Except Failure Unit := do
  let accountableMillimes <- accountableCollectionMillimes
    (discrepancyOf view.snapshot collection.id) collection
  throwIf (collection.courierId ≠ some courierId \/
      Not (collection.status ∈ remittableCollectionStatuses))
    (conflict "COLLECTION_NOT_REMITTABLE")
  throwIf (itemsTotal (itemsOn view.current.remittanceItems collection.id) +
      requestedAmount allocations collection.id > accountableMillimes)
    (conflict "COLLECTION_OVER_ALLOCATED")

def createRemittance (view : View) (input : CreateCashRemittance) : Except Failure Db := do
  let allocationIds := input.allocations.map (·.cashCollectionId)
  throwIf (Not allocationIds.Nodup) (badRequest "DUPLICATE_COLLECTION_ALLOCATION")
  throwIf (input.allocations.any fun allocation => allocation.amountMillimes <= 0)
    (badRequest "REMITTANCE_ALLOCATION_INVALID")
  let total <- sumMillimes (input.allocations.map (·.amountMillimes))
  throwIf (total ≠ input.declaredMillimes) (badRequest "REMITTANCE_TOTAL_MISMATCH")
  let collections := view.snapshot.collections.filter fun row => decide (row.id ∈ allocationIds)
  throwIf (collections.length ≠ allocationIds.length) collectionNotFound
  let courier <- orThrow
    (view.snapshot.config.couriers.find? fun courier => courier.id == input.courierId && courier.active)
    (conflict "COURIER_UNAVAILABLE")
  (collections.insertionSort fun left right => left.id <= right.id).forM
    (assertAllocation view courier.id input.allocations)
  let remittanceNumber := trim input.remittanceNumber
  throwIf (view.current.remittances.rows.any fun other => other.remittanceNumber == remittanceNumber)
    (conflict "REMITTANCE_CONFLICT")
  let remittances <- orThrow
    (view.current.remittances.insert? {
      id := input.id
      remittanceNumber
      courierId := courier.id
      status := .draft
      declaredMillimes := input.declaredMillimes
      verifiedMillimes := none
      differenceMillimes := none
      receivedByUserId := none
      verifiedByUserId := none })
    (conflict "REMITTANCE_CONFLICT")
  return { view.current with
    remittances
    remittanceItems := view.current.remittanceItems ++ input.allocations.map fun allocation => {
      remittanceId := input.id
      cashCollectionId := allocation.cashCollectionId
      amountMillimes := allocation.amountMillimes } }

structure AllocatedItem where
  item : CashRemittanceItem
  collection : CashCollection
  order : Order

structure RemittanceOperation where
  remittance : CashRemittance
  items : List AllocatedItem

def allocatedItem (db : Db) (item : CashRemittanceItem) : Except Failure AllocatedItem := do
  let collection <- orThrow (db.collections.find? item.cashCollectionId) remittanceNotFound
  let order <- orThrow (db.orders.find? collection.orderId) remittanceNotFound
  return { item, collection, order }

def itemsIn (items : List CashRemittanceItem) (remittanceId : Id) : List CashRemittanceItem :=
  items.filter fun item => item.remittanceId == remittanceId

def lockRemittance (db : Db) (id : Id) : Except Failure RemittanceOperation := do
  let remittance <- orThrow (db.remittances.find? id) remittanceNotFound
  let items <- (itemsIn db.remittanceItems id).mapM (allocatedItem db)
  return { remittance, items }

def assertTotal (operation : RemittanceOperation) : Except Failure Unit := do
  let total <- sumMillimes (operation.items.map (·.item.amountMillimes))
  throwIf (total ≠ operation.remittance.declaredMillimes) (conflict "REMITTANCE_TOTAL_INVALID")

def submitRemittance (view : View) (id actorUserId : Id) : Except Failure Db := do
  let operation <- lockRemittance view.snapshot id
  let remittance := operation.remittance
  throwIf (canTransitionRemittance remittance.status .submitted = false)
    (conflict "REMITTANCE_SUBMISSION_NOT_ALLOWED")
  assertTotal operation
  let remittances <- updateOne view.current.remittances
    (fun row => row.id == id && row.status == .draft)
    (fun row => { row with status := .submitted, receivedByUserId := some actorUserId })
    (fun _ => rfl) (conflict "REMITTANCE_SUBMISSION_NOT_ALLOWED")
  return { view.current with
    remittances
    cashEvents := view.current.cashEvents ++
      [remittanceEvent .remittanceSubmitted id remittance.declaredMillimes actorUserId] }

def assertIndependentActor (receivedByUserId : Option Id) (actorUserId : Id) : Except Failure Unit :=
  throwIf (receivedByUserId.all fun received => received == actorUserId) approverRequired

def verifiedIn (db : Db) (remittanceId : Id) : Bool :=
  (db.remittances.find? remittanceId).any fun remittance => remittance.status == .verified

-- The items that count when this remittance is verified, as the snapshot has them.
def countedItems (db : Db) (operation : RemittanceOperation) : List CashRemittanceItem :=
  db.remittanceItems.filter fun item =>
    decide (item.cashCollectionId ∈ operation.items.map (·.item.cashCollectionId)) &&
      (item.remittanceId == operation.remittance.id || verifiedIn db item.remittanceId)

-- The rows of the transaction so far, with the ids of the collections it has rewritten.
structure Remitting where
  collections : Table CashCollection.id
  written : List Id

def remitted (row : CashCollection) : CashCollection :=
  { row with status := .remitted }

@[simp]
theorem remitted_id (row : CashCollection) : (remitted row).id = row.id := rfl

def remitItem (snapshot : Db) (counted : List CashRemittanceItem) (state : Remitting)
    (allocation : AllocatedItem) : Except Failure Remitting := do
  let collection := allocation.collection
  let accountableMillimes <- accountableCollectionMillimes (discrepancyOf snapshot collection.id)
    collection
  let allocated := itemsTotal (itemsOn counted collection.id)
  throwIf (allocated > accountableMillimes) (conflict "COLLECTION_OVER_ALLOCATED")
  if allocated ≠ accountableMillimes then return state
  throwIf (canTransitionCollection collection.status .remitted = false)
    (conflict "COLLECTION_REMITTANCE_STATE_INVALID")
  let collections <- updateOne state.collections
    (fun row => row.id == collection.id && row.status == collection.status) remitted remitted_id
    (conflict "COLLECTION_REMITTANCE_CONFLICT")
  return { collections, written := state.written ++ [collection.id] }

-- A plain read after the transaction's own writes: those rows are current, all others old.
def rereadCollections (snapshot : Db) (state : Remitting) : List CashCollection :=
  snapshot.collections.rows.map fun row =>
    if row.id ∈ state.written then (state.collections.find? row.id).getD row else row

def uniqueOrders (operation : RemittanceOperation) : List Order :=
  (operation.items.map (·.order)).foldl
    (fun orders order => if orders.any (fun other => other.id == order.id) then orders
      else orders ++ [order]) []

def clearOrder (snapshot : Db) (state : Remitting) (orders : Table Order.id) (order : Order) :
    Except Failure (Table Order.id) := do
  let orderCollections := (rereadCollections snapshot state).filter fun row =>
    row.orderId == order.id && row.status != .voided
  if orderCollections.isEmpty || orderCollections.any (fun row => row.status != .remitted) then
    return orders
  let amounts <- orderCollections.mapM fun collection =>
    accountableCollectionMillimes (discrepancyOf snapshot collection.id) collection
  let accountableTotal <- sumMillimes amounts
  if accountableTotal ≠ order.expectedCodMillimes then return orders
  updateOne orders (fun row => row.id == order.id && row.version == order.version)
    (paid .cashRemitted) (paid_id _) versionConflict

def applyVerifiedAllocations (view : View) (operation : RemittanceOperation) : Except Failure Db := do
  let state <- operation.items.foldlM (remitItem view.snapshot (countedItems view.snapshot operation))
    { collections := view.current.collections, written := [] }
  let orders <- (uniqueOrders operation).foldlM (clearOrder view.snapshot state) view.current.orders
  return { view.current with collections := state.collections, orders }

structure ReconcileCashRemittance where
  verifiedMillimes : Int
  reasonCode : Option Text
  reasonDetail : Option Text

def discrepantOrder (orders : Table Order.id) (order : Order) : Except Failure (Table Order.id) :=
  updateOne orders (fun row => row.id == order.id && row.version == order.version)
    (paid .reconciliationDiscrepancy) (paid_id _) versionConflict

def reconcileRemittance (view : View) (id : Id) (input : ReconcileCashRemittance)
    (discrepancyId actorUserId : Id) : Except Failure Db := do
  let notAllowed := conflict "REMITTANCE_RECONCILIATION_NOT_ALLOWED"
  let operation <- lockRemittance view.snapshot id
  let remittance := operation.remittance
  throwIf (canTransitionRemittance remittance.status .verified = false) notAllowed
  assertIndependentActor remittance.receivedByUserId actorUserId
  assertTotal operation
  throwIf (operation.items.any fun allocation =>
      allocation.collection.courierId != some remittance.courierId ||
        !decide (allocation.collection.status ∈ remittableCollectionStatuses))
    (conflict "REMITTANCE_COLLECTION_STATE_INVALID")
  let difference <- cashDifference remittance.declaredMillimes input.verifiedMillimes
  requireWhen (difference ≠ 0) (requireDiscrepancyReason input.reasonCode input.reasonDetail)
  let target : CashRemittanceStatus := if difference = 0 then .verified else .discrepancy
  throwIf (canTransitionRemittance remittance.status target = false) notAllowed
  let remittances <- updateOne view.current.remittances
    (fun row => row.id == id && row.status == .submitted)
    (fun row => { row with
      status := target
      verifiedMillimes := some input.verifiedMillimes
      differenceMillimes := some difference
      verifiedByUserId := some actorUserId })
    (fun _ => rfl) notAllowed
  let current := { view.current with remittances }
  if difference = 0 then
    let applied <- applyVerifiedAllocations { view with current } operation
    return { applied with
      cashEvents := applied.cashEvents ++
        [remittanceEvent .remittanceVerified id input.verifiedMillimes actorUserId] }
  else
    let discrepancies <- openDiscrepancy current.discrepancies {
      id := discrepancyId
      remittanceId := some id
      cashCollectionId := none
      orderId := none
      status := .opened
      expectedMillimes := remittance.declaredMillimes
      actualMillimes := input.verifiedMillimes
      differenceMillimes := difference
      openedByUserId := actorUserId
      resolvedByUserId := none }
    let orders <- (uniqueOrders operation).foldlM discrepantOrder current.orders
    return { current with
      discrepancies
      orders
      cashEvents := current.cashEvents ++
        [remittanceEvent .discrepancyOpened id difference actorUserId] }

inductive Resolution where
  | resolved
  | writtenOff
deriving DecidableEq, Repr

def Resolution.status : Resolution -> CashDiscrepancyStatus
  | .resolved => .resolved
  | .writtenOff => .writtenOff

structure ResolveCashDiscrepancy where
  resolution : Resolution
  finalVerifiedMillimes : Option Int

def resolutionNotAllowed : Failure := conflict "DISCREPANCY_RESOLUTION_NOT_ALLOWED"

def finalAmountInvalid : Failure := badRequest "FINAL_VERIFIED_AMOUNT_INVALID"

def finalAmountNotApplicable : Failure := badRequest "FINAL_VERIFIED_AMOUNT_NOT_APPLICABLE"

-- One collection of the order as clearing its projection counts it; `none` is not ready.
def projectedMillimes (discrepancy : Option CashDiscrepancy) (own collection : CashCollection) :
    Except Failure (Option Int) := do
  if collection.id = own.id then return some own.expectedMillimes
  let difference <- cashDifference collection.expectedMillimes collection.collectedMillimes
  match discrepancy with
  | none =>
    return if Not (collection.status ∈ accountedCollectionStatuses) \/ difference ≠ 0 then none
      else some collection.collectedMillimes
  | some discrepancy =>
    return if discrepancy.status ≠ .resolved \/ Not (linked collection discrepancy difference) \/
        Not (collection.status ∈ accountedCollectionStatuses) then none
      else some collection.expectedMillimes

-- `orderCollections.every(...)` with its running total.
def projectedTotal (db : Db) (own : CashCollection) : List CashCollection -> Except Failure (Option Int)
  | [] => .ok (some 0)
  | collection :: rest => do
    match <- projectedMillimes (discrepancyOf db collection.id) own collection with
    | none => return none
    | some amount =>
      let total <- projectedTotal db own rest
      return total.map (amount + ·)

def orderCollectionsOf (db : Db) (orderId : Id) : List CashCollection :=
  db.collections.filter fun row => row.orderId == orderId && row.status != .voided

def clearsProjection (db : Db) (operation : CollectionOperation) : Except Failure Bool := do
  let orderCollections := orderCollectionsOf db operation.collection.orderId
  let total <- projectedTotal db operation.collection orderCollections
  return orderCollections.any (fun row => row.id == operation.collection.id) &&
    total == some operation.order.expectedCodMillimes

def assertDiscrepancyLinkage (operation : CollectionOperation) (delivery : Delivery)
    (discrepancy : CashDiscrepancy) : Except Failure Unit := do
  let collection := operation.collection
  let linkageInvalid := conflict "COLLECTION_DISCREPANCY_LINKAGE_INVALID"
  throwIf (discrepancy.remittanceId.isSome \/ discrepancy.cashCollectionId ≠ some collection.id \/
      discrepancy.orderId ≠ some collection.orderId \/ collection.deliveryId ≠ some delivery.id \/
      delivery.orderId ≠ collection.orderId \/
      discrepancy.expectedMillimes ≠ collection.expectedMillimes \/
      discrepancy.actualMillimes ≠ collection.collectedMillimes)
    linkageInvalid
  let difference <- cashDifference collection.expectedMillimes collection.collectedMillimes
  throwIf (discrepancy.differenceMillimes ≠ difference) linkageInvalid

def settleDiscrepancy (discrepancies : Table CashDiscrepancy.id) (discrepancy : CashDiscrepancy)
    (resolution : Resolution) (actorUserId : Id) : Except Failure (Table CashDiscrepancy.id) :=
  updateOne discrepancies
    (fun row => row.id == discrepancy.id && row.status == discrepancy.status)
    (fun row => { row with status := resolution.status, resolvedByUserId := some actorUserId })
    (fun _ => rfl) resolutionNotAllowed

-- An exact second count: the collection stands as collected, and the order's cash is clear again
-- if every other collection of it is.
def correctCollection (view : View) (operation : CollectionOperation) (delivery : Delivery) :
    Except Failure Db := do
  let collection := operation.collection
  let clear <- clearsProjection view.snapshot operation
  let collections <- updateOne view.current.collections
    (fun row => row.id == collection.id && row.status == collection.status)
    (fun row => { row with status := .collected }) (fun _ => rfl) versionConflict
  let corrected := { view.current with collections }
  if clear then
    let orders <- updateOne corrected.orders
      (fun row => row.id == operation.order.id && row.version == operation.order.version &&
        row.paymentStatus == .reconciliationDiscrepancy)
      (paid (collectedPaymentStatus operation.order)) (paid_id _) versionConflict
    let deliveries <- updateOne corrected.deliveries
      (fun row => row.id == delivery.id && row.version == delivery.version)
      (cashCounted true) (cashCounted_id _) versionConflict
    return { corrected with orders, deliveries }
  else return corrected

def correctWhenResolved (view : View) (operation : CollectionOperation) (delivery : Delivery) :
    Resolution -> Except Failure Db
  | .resolved => correctCollection view operation delivery
  | .writtenOff => .ok view.current

def resolveCollectionDiscrepancy (view : View) (cashCollectionId id : Id)
    (input : ResolveCashDiscrepancy) (actorUserId : Id) : Except Failure Db := do
  let operation <- lockCollection view.snapshot cashCollectionId
  let collection := operation.collection
  let discrepancy <- orThrow (view.snapshot.discrepancies.find? id) discrepancyNotFound
  let delivery <- orThrow operation.delivery (conflict "COLLECTION_DISCREPANCY_LINKAGE_INVALID")
  assertDiscrepancyLinkage operation delivery discrepancy
  throwIf (canTransitionDiscrepancy discrepancy.status input.resolution.status = false)
    resolutionNotAllowed
  throwIf (Not (collection.status ∈ remittableCollectionStatuses) \/
      operation.order.paymentStatus ≠ .reconciliationDiscrepancy)
    (conflict "COLLECTION_DISCREPANCY_STATE_INVALID")
  throwIf (collection.collectedByUserId.isNone \/ discrepancy.openedByUserId = actorUserId \/
      collection.collectedByUserId = some actorUserId)
    approverRequired
  throwIf (itemsOn view.snapshot.remittanceItems collection.id ≠ [])
    (conflict "COLLECTION_DISCREPANCY_ALREADY_ALLOCATED")
  throwIf (input.resolution = .resolved /\
      input.finalVerifiedMillimes ≠ some collection.expectedMillimes)
    finalAmountInvalid
  throwIf (input.resolution = .writtenOff /\ input.finalVerifiedMillimes.isSome)
    finalAmountNotApplicable
  let corrected <- correctWhenResolved view operation delivery input.resolution
  let discrepancies <- settleDiscrepancy corrected.discrepancies discrepancy input.resolution actorUserId
  let adjusted := if input.resolution = .resolved then
      [collectionEvent .adjustmentRecorded collection.id
        (collection.expectedMillimes - collection.collectedMillimes) actorUserId]
    else []
  return { corrected with
    discrepancies
    cashEvents := corrected.cashEvents ++ adjusted ++
      [collectionEvent .discrepancyResolved collection.id discrepancy.differenceMillimes actorUserId] }

def verifyDiscrepant (view : View) (operation : RemittanceOperation) (actorUserId : Id) :
    Except Failure Db := do
  let remittance := operation.remittance
  let applied <- applyVerifiedAllocations view operation
  let remittances <- updateOne applied.remittances
    (fun row => row.id == remittance.id && row.status == .discrepancy)
    (fun row => { row with
      status := .verified
      verifiedMillimes := some remittance.declaredMillimes
      differenceMillimes := some 0
      verifiedByUserId := some actorUserId })
    (fun _ => rfl) resolutionNotAllowed
  return { applied with remittances }

def verifyWhenResolved (view : View) (operation : RemittanceOperation) (actorUserId : Id) :
    Resolution -> Except Failure Db
  | .resolved => verifyDiscrepant view operation actorUserId
  | .writtenOff => .ok view.current

def resolveRemittanceDiscrepancy (view : View) (remittanceId id : Id)
    (input : ResolveCashDiscrepancy) (actorUserId : Id) : Except Failure Db := do
  let discrepancy <- orThrow (view.snapshot.discrepancies.find? id) discrepancyNotFound
  throwIf (discrepancy.remittanceId ≠ some remittanceId \/ discrepancy.cashCollectionId.isSome \/
      discrepancy.orderId.isSome)
    (conflict "DISCREPANCY_SCOPE_INVALID")
  throwIf (canTransitionDiscrepancy discrepancy.status input.resolution.status = false)
    resolutionNotAllowed
  throwIf (discrepancy.openedByUserId = actorUserId) approverRequired
  let operation <- lockRemittance view.snapshot remittanceId
  let remittance := operation.remittance
  throwIf (remittance.status ≠ .discrepancy) (conflict "REMITTANCE_DISCREPANCY_STATE_INVALID")
  assertIndependentActor remittance.receivedByUserId actorUserId
  throwIf (input.resolution = .resolved /\
      input.finalVerifiedMillimes ≠ some remittance.declaredMillimes)
    finalAmountInvalid
  throwIf (input.resolution = .writtenOff /\ input.finalVerifiedMillimes.isSome)
    finalAmountNotApplicable
  let verified <- verifyWhenResolved view operation actorUserId input.resolution
  let discrepancies <- settleDiscrepancy verified.discrepancies discrepancy input.resolution actorUserId
  return { verified with
    discrepancies
    cashEvents := verified.cashEvents ++
      [remittanceEvent .discrepancyResolved remittance.id discrepancy.differenceMillimes
        actorUserId] }

def resolveDiscrepancy (view : View) (id : Id) (input : ResolveCashDiscrepancy) (actorUserId : Id) :
    Except Failure Db := do
  let reference <- orThrow (view.snapshot.discrepancies.find? id) discrepancyNotFound
  match reference.cashCollectionId, reference.orderId, reference.remittanceId with
  | some cashCollectionId, some _, none =>
    resolveCollectionDiscrepancy view cashCollectionId id input actorUserId
  | none, none, some remittanceId =>
    resolveRemittanceDiscrepancy view remittanceId id input actorUserId
  | _, _, _ => .error (conflict "DISCREPANCY_SCOPE_INVALID")

end VapeCommerce.Cash.Admin
