import VapeCommerce.Checkout.Allocation
import VapeCommerce.Checkout.Lines

set_option autoImplicit false

-- checkout-order.service.ts
namespace VapeCommerce.Checkout.Order

open VapeCommerce.Lib VapeCommerce.Lib.Outcome VapeCommerce.Schema VapeCommerce.Config
open VapeCommerce.Database VapeCommerce.Money VapeCommerce.Checkout.Policy
open VapeCommerce.Checkout.Catalogue VapeCommerce.Checkout.Fulfillment
open VapeCommerce.Checkout.Lines VapeCommerce.Checkout.Allocation VapeCommerce.Checkout.Pricing

def reservationTtl : Int := 30 * 60 * 1000

-- The transaction runs at READ COMMITTED: each of these reads sees the latest commit when it runs.
inductive ReadPoint where
  | claim
  | policy
  | customer
  | cartCandidate
  | cart
  | inventory
  | variants
  | locality
  | rates
  | address
  | consents
  | sequence
deriving DecidableEq, Repr

abbrev Views := ReadPoint -> Db

-- The ids the database generates for the rows of one order.
structure FreshIds where
  claimId : Id
  orderId : Id
  deliveryId : Id
  collectionId : Id
  orderItemId : Id -> Id
  reservationId : Id -> Id

structure CheckoutCall where
  customerUserId : Id
  idempotencyKey : Option Text
  input : CheckoutOrder
  ids : FreshIds

def keyCharacter (char : Char) : Bool :=
  char.isAlphanum || char ∈ ['.', '_', '~', ':', '+', '-']

def validateIdempotencyKey (value : Option Text) : Option Text :=
  value.filter fun key => 16 <= key.length && key.length <= 128 && key.all keyCharacter

def scopedIdempotencyKeyHash (customerUserId : Id) (key : Text) : ScopedKey where
  scope := "checkout-order"
  actorUserId := customerUserId
  resourceId := none
  key := key

def byVariant (items : List CheckoutItem) : List CheckoutItem :=
  items.insertionSort fun left right => left.variantId <= right.variantId

-- The fingerprint: the request with its lines sorted and `express` defaulted.
def checkoutRequestFingerprint (input : CheckoutOrder) : CheckoutOrder :=
  { input with
    express := some (input.express.getD false)
    items := byVariant input.items
    sized := by simpa [byVariant, List.length_insertionSort] using input.sized }

def assertRequestShape (input : CheckoutOrder) : Except Failure Unit := do
  throwIf (Not (input.items.map (·.variantId)).Nodup) (badRequest "DUPLICATE_CHECKOUT_ITEM")
  throwIf (input.localityId.isSome = input.pickupLocationId.isSome)
    (badRequest "FULFILLMENT_SELECTION_REQUIRED")
  throwIf (input.localityId.isSome /\ input.address.isNone) (badRequest "DELIVERY_ADDRESS_REQUIRED")
  throwIf (input.express = some true /\ input.pickupLocationId.isSome)
    (badRequest "EXPRESS_PICKUP_UNSUPPORTED")

def claimIdempotency (keys : Table (@OrderIdempotencyKey.keyHash CheckoutOrder))
    (audienceScope : Id) (keyHash : ScopedKey) (requestHash : CheckoutOrder) (claimId : Id) :
    Except Failure (OrderIdempotencyKey CheckoutOrder) := do
  let stored := keys.find? keyHash
  throwIf (stored.isNone /\ keys.rows.any (fun row => row.id == claimId))
    (unavailable "IDEMPOTENCY_STATE_INVALID")
  let claim := stored.getD {
    id := claimId
    keyHash
    audienceScope
    requestHash
    orderId := none
    completedAt := none }
  throwIf (claim.audienceScope ≠ audienceScope \/ claim.requestHash ≠ requestHash)
    (conflict "IDEMPOTENCY_CONFLICT")
  throwIf (claim.completedAt.isNone /\ claim.id ≠ claimId) (conflict "IDEMPOTENCY_IN_PROGRESS")
  return claim

-- The order a stored claim answers with.
def replayed? (claim : OrderIdempotencyKey CheckoutOrder) : Option Id :=
  if claim.completedAt.isSome then claim.orderId else none

structure AcceptedPolicy where
  minimumAge : Int
  requirements : CheckoutRequirements

def acceptPolicy (config : Configuration) (now : Int) : Except Failure AcceptedPolicy := do
  let policy := evaluate config now
  throwIf (Not policy.allowed) (conflict "CHECKOUT_UNAVAILABLE")
  let minimumAge <- orThrow policy.minimumAge (conflict "CHECKOUT_UNAVAILABLE")
  return { minimumAge, requirements := policy.requirements }

def assertConfiguredConsent (consent : CheckoutConsent) (requirements : CheckoutRequirements) :
    Except Failure Unit :=
  throwIf ((requirements.ageConfirmationRequired && !consent.ageConfirmed) ||
      (requirements.termsAcceptanceRequired && !consent.termsAccepted) ||
      (requirements.privacyAcceptanceRequired && !consent.privacyAccepted))
    (badRequest "CONSENT_REQUIRED")

def blocked (now : Int) (entry : BlocklistEntry) : Bool :=
  entry.active && entry.startsAt <= now && entry.expiresAt.all (fun stop => stop > now)

def findCustomer (config : Configuration) (customerUserId : Id) (now : Int) :
    Except Failure CustomerUser := do
  let customer <- orThrow
    (config.customers.find? fun user =>
      user.id == customerUserId && user.active && user.deletedAt.isNone &&
        user.suspendedAt.isNone && user.anonymizedAt.isNone)
    (forbidden "CUSTOMER_ACCOUNT_UNAVAILABLE")
  throwIf (customer.blocklistEntries.any (blocked now)) (forbidden "CUSTOMER_CHECKOUT_BLOCKED")
  return customer

def cartBefore (left right : Cart) : Prop :=
  left.updatedAt > right.updatedAt \/ (left.updatedAt = right.updatedAt /\ left.id <= right.id)

instance : DecidableRel cartBefore := fun _ _ => inferInstanceAs (Decidable (_ \/ _))

def cartLines (cart : Cart) : List (Id × Int) :=
  (cart.items.insertionSort fun left right => left.variantId <= right.variantId).map fun item =>
    (item.variantId, item.quantity)

def lockCheckoutCart (candidates locked : Db) (customerId : Id) (requestedItems : List CheckoutItem)
    (now : Int) : Except Failure Cart := do
  let active := candidates.carts.filter fun cart =>
    cart.customerId == customerId && cart.status == .active
  let candidate <- orThrow (active.insertionSort cartBefore).head? (conflict "CART_EMPTY")
  let cart <- orThrow
    ((locked.carts.find? candidate.id).filter fun cart =>
      cart.customerId == customerId && cart.status == .active)
    (conflict "CART_EXPIRED")
  throwIf (cart.expiresAt.any (fun expiry => expiry <= now)) (conflict "CART_EXPIRED")
  throwIf ((byVariant requestedItems).map (fun item => (item.variantId, item.quantity)) ≠ cartLines cart)
    (conflict "CART_CHANGED")
  return cart

def ageCheck (minimumAge : Int) : LineCheck := fun _ _ product =>
  throwIf (product.minimumAge.any (fun age => age > minimumAge)) (conflict "PRODUCT_AGE_RESTRICTION")

def inventoryInvariantBreach : Failure := unavailable "INVENTORY_INVARIANT_BREACH"

def addReserved (total : Int) (reservation : StockReservation) : Except Failure Int := do
  throwIf (Not (isSafeInteger reservation.quantity) \/ reservation.quantity <= 0)
    inventoryInvariantBreach
  throwIf (Not (isSafeInteger (total + reservation.quantity))) inventoryInvariantBreach
  return total + reservation.quantity

def allocationBucket (db : Db) (now : Int) (item : InventoryItem) :
    Except Failure InventoryAllocationBucket := do
  let reserved <- (activeReservations db now item.id).foldlM addReserved 0
  throwIf (reserved > item.onHandQuantity) inventoryInvariantBreach
  return {
    id := item.id
    variantId := item.variantId
    availableQuantity := item.onHandQuantity - reserved }

def candidateIds (db : Db) (now : Int) (variantIds : List Id) : List Id :=
  (db.items.filter fun item =>
    decide (item.variantId ∈ variantIds) && eligibleOrderInventoryWhere db now item).map (·.id)

def variantItems (db : Db) (inventoryIds : List Id) (variant : ProductVariant) : List InventoryItem :=
  db.items.filter fun item => item.variantId == variant.id && decide (item.id ∈ inventoryIds)

def resolveFulfillment (views : Views) (input : CheckoutOrder) (orderMillimes weightGrams now : Int) :
    Except Failure ResolvedFulfillment :=
  match input.pickupLocationId, input.localityId with
  | some pickupLocationId, _ => pickup (views .locality).config pickupLocationId orderMillimes
  | none, some localityId =>
    courier true (views .locality).config (views .rates).config localityId orderMillimes weightGrams
      (input.express.getD false) now
  | none, none => .error (badRequest "FULFILLMENT_SELECTION_REQUIRED")

structure PricedOrder where
  priced : Priced
  inventory : List InventoryItem
  allocations : List InventoryAllocation
  discountedSubtotalMillimes : Int
  fulfillment : ResolvedFulfillment
  grandTotalMillimes : Int

def priceOrder (views : Views) (input : CheckoutOrder) (minimumAge now : Int) :
    Except Failure PricedOrder := do
  let variantIds := input.items.map (·.variantId)
  let inventoryIds := candidateIds (views .inventory) now variantIds
  let variants := sellableVariants (views .variants).config now variantIds
  throwIf (variants.length ≠ variantIds.length) (conflict "PRODUCT_UNAVAILABLE")
  let priced <- priceLines (ageCheck minimumAge) variants input.items
  let inventory := variants.flatMap fun entry => variantItems (views .variants) inventoryIds entry.1
  let buckets <- inventory.mapM (allocationBucket (views .variants) now)
  let allocations <- orThrow (allocateInventory (input.items.map demandOf) buckets) (conflict "OUT_OF_STOCK")
  let totals := priced.totals
  let discountedSubtotalMillimes <-
    orFail (addMillimes [totals.subtotalMillimes, -totals.discountTotalMillimes]) rangeFailure
  let fulfillment <- resolveFulfillment views input discountedSubtotalMillimes
    totals.totalWeightGrams now
  let grandTotalMillimes <- orFail (addMillimes [discountedSubtotalMillimes,
    totals.taxTotalMillimes, fulfillment.deliveryTotalMillimes]) rangeFailure
  throwIf (fulfillment.maxCodMillimes.any (fun bound => grandTotalMillimes > bound))
    (conflict "MAXIMUM_COD_EXCEEDED")
  return {
    priced
    inventory
    allocations
    discountedSubtotalMillimes
    fulfillment
    grandTotalMillimes }

def validateAddress (config : Configuration) (input : CheckoutOrder)
    (fulfillment : ResolvedFulfillment) : Except Failure Unit :=
  match fulfillment.courierLocalityId, input.address.bind (·.postalCode) with
  | some localityId, some code =>
    throwIf (Not (config.postalCodes.any fun postalCode =>
        postalCode.localityId == localityId && postalCode.code == code && postalCode.active))
      (conflict "POSTAL_CODE_INVALID")
  | _, _ => .ok ()

def effectiveVersion (config : Configuration) (locale : Text) (now : Int) (wanted : Id)
    (type : LegalDocumentType) : Bool :=
  config.legalDocumentVersions.any fun version =>
    version.id == wanted && version.type == type && version.published &&
      version.publishedAt.any (fun instant => instant <= now) &&
      version.effectiveAt.any (fun instant => instant <= now) &&
      version.retiredAt.isNone && version.locale == locale

def resolveConsentVersions (config : Configuration) (consent : CheckoutConsent) (locale : Text)
    (now : Int) : Except Failure Unit :=
  throwIf
    (consent.termsDocumentVersionId.any
        (fun wanted => !effectiveVersion config locale now wanted .termsAndConditions) ||
      consent.privacyDocumentVersionId.any
        (fun wanted => !effectiveVersion config locale now wanted .privacyPolicy))
    (conflict "CONSENT_VERSION_INVALID")

def nextOrderNumber (sequence : Option Int) : Except Failure Int := do
  let value <- orThrow sequence (unavailable "ORDER_SEQUENCE_UNAVAILABLE")
  throwIf (value + 1 <= 0 \/ value + 1 > 999999999999) (unavailable "ORDER_SEQUENCE_EXHAUSTED")
  return value + 1

def orderItem (ids : FreshIds) (line : PricedLine) : Except Failure OrderItem := do
  let unitDiscountMillimes <- orFail
    (addMillimes [line.variant.priceMillimes, -line.calculation.effectiveUnitPriceMillimes])
    rangeFailure
  let unitTaxMillimes <- orFail
    (calculateBasisPoints line.calculation.effectiveUnitPriceMillimes line.variant.taxRateBps)
    rangeFailure
  return {
    id := ids.orderItemId line.variant.id
    productId := line.product.id
    variantId := line.variant.id
    unitPriceMillimes := line.variant.priceMillimes
    unitDiscountMillimes
    taxRateBpsSnapshot := line.variant.taxRateBps
    unitTaxMillimes
    quantity := line.requested.quantity
    lineSubtotalMillimes := line.calculation.listSubtotalMillimes
    lineDiscountMillimes := line.calculation.discountMillimes
    lineTaxMillimes := line.calculation.taxMillimes
    lineTotalMillimes := line.calculation.totalMillimes }

def reservation (ids : FreshIds) (expiresAt : Int) (allocation : InventoryAllocation) :
    StockReservation where
  id := ids.reservationId allocation.inventoryItemId
  inventoryItemId := allocation.inventoryItemId
  quantity := allocation.quantity
  state := .active
  orderId := ids.orderId
  orderItemId := ids.orderItemId allocation.variantId
  expiresAt := expiresAt

def reservationMovement (inventory : List InventoryItem) (orderId customerUserId : Id)
    (allocation : InventoryAllocation) : Except Failure StockMovement := do
  let item <- orThrow (inventory.find? fun item => item.id == allocation.inventoryItemId)
    (unavailable "CHECKOUT_TRANSACTION_INVALID")
  return {
    inventoryItemId := item.id
    locationId := item.locationId
    batchId := item.batchId
    type := .reservation
    quantityDelta := 0
    onHandAfter := item.onHandQuantity
    referenceType := some .order
    referenceId := some orderId
    actorUserId := some customerUserId
    idempotencyKeyHash := none
    requestFingerprint := none }

-- The rows one successful call writes, from what it read.
structure Placement where
  claim : OrderIdempotencyKey CheckoutOrder
  completedAt : Int
  order : Order
  reservations : List StockReservation
  movements : List StockMovement
  ageEvents : List AgeVerificationEvent
  history : OrderStatusHistory
  delivery : Delivery
  collection : CashCollection
  cart : Cart

def newOrder (ids : FreshIds) (orderNumber : Int) (customer : CustomerUser) (cart : Cart)
    (policy : AcceptedPolicy) (order : PricedOrder) (items : List OrderItem) (now : Int) :
    Schema.Order where
  id := ids.orderId
  orderNumber := orderNumber
  customerId := customer.profileId
  cartId := cart.id
  status := .pendingConfirmation
  paymentStatus := .cashExpected
  subtotalMillimes := order.priced.totals.subtotalMillimes
  discountTotalMillimes := order.priced.totals.discountTotalMillimes
  deliveryTotalMillimes := order.fulfillment.deliveryTotalMillimes
  taxTotalMillimes := order.priced.totals.taxTotalMillimes
  grandTotalMillimes := order.grandTotalMillimes
  expectedCodMillimes := order.grandTotalMillimes
  deliveryMethodType := order.fulfillment.methodType
  deliveryZoneId := order.fulfillment.deliveryZoneId
  deliveryRateId := order.fulfillment.deliveryRateId
  pickupLocationId := order.fulfillment.pickupLocationId
  minimumAgeSnapshot := policy.minimumAge
  ageVerificationAtDeliveryRequired := policy.requirements.deliveryAgeVerificationRequired
  phoneConfirmationRequired := order.fulfillment.phoneConfirmationRequired
  manualReviewRequired := order.fulfillment.manualReviewRequired
  version := 1
  createdAt := now
  items := items

def newDelivery (ids : FreshIds) (policy : AcceptedPolicy) : Delivery where
  id := ids.deliveryId
  orderId := ids.orderId
  courierId := none
  status := .pendingConfirmation
  trackingNumber := none
  courierFeeMillimes := none
  nextAttemptAt := none
  ageVerificationRequired := policy.requirements.deliveryAgeVerificationRequired
  ageVerificationResult :=
    if policy.requirements.deliveryAgeVerificationRequired then .pending else .notRequired
  cashCollectedResult := none
  version := 1

def newCollection (ids : FreshIds) (expectedMillimes : Int) : CashCollection where
  id := ids.collectionId
  orderId := ids.orderId
  deliveryId := some ids.deliveryId
  courierId := none
  status := .expected
  expectedMillimes := expectedMillimes
  collectedMillimes := 0
  collectedByUserId := none
  recordIdempotencyKeyHash := none
  recordRequestHash := none

def checkoutAgeEvents (ids : FreshIds) (policy : AcceptedPolicy) (consent : CheckoutConsent) :
    List AgeVerificationEvent :=
  if policy.requirements.consentRecordingEnabled && consent.ageConfirmed then
    [{ orderId := ids.orderId
       deliveryId := none
       phase := .checkout
       result := .pending
       minimumAge := policy.minimumAge }]
  else []

def createdHistory (orderId customerUserId : Id) : OrderStatusHistory where
  orderId := orderId
  fromStatus := none
  toStatus := .pendingConfirmation
  reasonCode := "CHECKOUT_CREATED".toList
  changedByUserId := customerUserId

inductive CheckoutResult where
  | replayed (orderId : Id)
  | placed (placement : Placement)

def CheckoutResult.orderId : CheckoutResult -> Id
  | .replayed orderId => orderId
  | .placed placement => placement.order.id

def replay (db : Db) (orderId : Id) : Except Failure CheckoutResult := do
  let order <- orThrow (db.orders.find? orderId) (unavailable "IDEMPOTENCY_STATE_INVALID")
  return .replayed order.id

def preparePlacement (views : Views) (call : CheckoutCall)
    (claim : OrderIdempotencyKey CheckoutOrder) (now : Int) : Except Failure Placement := do
  let input := call.input
  let policy <- acceptPolicy (views .policy).config now
  assertConfiguredConsent input.consent policy.requirements
  let customer <- findCustomer (views .customer).config call.customerUserId now
  let cart <- lockCheckoutCart (views .cartCandidate) (views .cart) customer.profileId input.items now
  let order <- priceOrder views input policy.minimumAge now
  validateAddress (views .address).config input order.fulfillment
  resolveConsentVersions (views .consents).config input.consent customer.locale now
  let orderNumber <- nextOrderNumber (views .sequence).orderSequence
  let items <- order.priced.lines.mapM (orderItem call.ids)
  let movements <- order.allocations.mapM
    (reservationMovement order.inventory call.ids.orderId call.customerUserId)
  return {
    claim
    completedAt := now
    order := newOrder call.ids orderNumber customer cart policy order items now
    reservations := order.allocations.map (reservation call.ids (now + reservationTtl))
    movements
    ageEvents := checkoutAgeEvents call.ids policy input.consent
    history := createdHistory call.ids.orderId call.customerUserId
    delivery := newDelivery call.ids policy
    collection := newCollection call.ids order.grandTotalMillimes
    cart }

def createInTransaction (views : Views) (call : CheckoutCall) (keyHash : ScopedKey) (now : Int) :
    Except Failure CheckoutResult := do
  let claim <- claimIdempotency (views .claim).idempotencyKeys call.customerUserId keyHash
    (checkoutRequestFingerprint call.input) call.ids.claimId
  match replayed? claim with
  | some orderId => replay (views .claim) orderId
  | none =>
    let placement <- preparePlacement views call claim now
    return .placed placement

def completeClaim (keys : Table (@OrderIdempotencyKey.keyHash CheckoutOrder))
    (claim : OrderIdempotencyKey CheckoutOrder) (orderId : Id) (now : Int) :
    Except Failure (Table (@OrderIdempotencyKey.keyHash CheckoutOrder)) :=
  match keys.find? claim.keyHash with
  | none => create keys { claim with orderId := some orderId, completedAt := some now }
  | some _ => .ok <| keys.update (fun row => row.keyHash == claim.keyHash)
      (fun row => { row with orderId := some orderId, completedAt := some now }) fun _ => rfl

def convertCart (cart : Cart) : Cart :=
  { cart with status := .converted, version := cart.version + 1 }

theorem convertCart_id (cart : Cart) : (convertCart cart).id = cart.id := rfl

-- The writes of a placement, on the rows as they stand when it commits.
def place (db : Db) (placement : Placement) : Except Failure Db := do
  let order := placement.order
  throwIf (Not ((order.items.map (·.id)).Nodup) \/ (db.orders.rows.any fun other =>
      other.orderNumber == order.orderNumber ||
        other.items.any fun item => order.items.any fun fresh => fresh.id == item.id))
    uniqueViolation
  throwIf (db.deliveries.rows.any fun delivery => delivery.orderId == order.id) uniqueViolation
  let orders <- create db.orders order
  let reservations <- placement.reservations.foldlM create db.reservations
  let deliveries <- create db.deliveries placement.delivery
  let collections <- create db.collections placement.collection
  let idempotencyKeys <- completeClaim db.idempotencyKeys placement.claim order.id
    placement.completedAt
  let carts <- updateOne db.carts
    (fun cart => cart.id == placement.cart.id && cart.status == .active &&
      cart.version == placement.cart.version)
    convertCart convertCart_id (conflict "CART_CHANGED")
  return { db with
    orders
    reservations
    deliveries
    collections
    idempotencyKeys
    carts
    movements := db.movements ++ placement.movements
    ageEvents := db.ageEvents ++ placement.ageEvents
    history := db.history ++ [placement.history]
    orderSequence := some order.orderNumber }

def finish (db : Db) : CheckoutResult -> Except Failure Db
  | .replayed _ => .ok db
  | .placed placement => place db placement

def admitCall (call : CheckoutCall) : Except Failure ScopedKey := do
  let key <- orThrow (validateIdempotencyKey call.idempotencyKey)
    (badRequest "IDEMPOTENCY_KEY_INVALID")
  assertRequestShape call.input
  return scopedIdempotencyKeyHash call.customerUserId key

-- One call with nothing else running: every read sees the same rows.
def create (db : Db) (call : CheckoutCall) (now : Int) : Except Failure (Db × Id) := do
  let keyHash <- admitCall call
  let result <- createInTransaction (fun _ => db) call keyHash now
  let next <- finish db result
  return (next, result.orderId)

end VapeCommerce.Checkout.Order
