import VapeCommerce.Lib.Runs
import VapeCommerce.Cash.Admin
import VapeCommerce.Delivery.Operations
import VapeCommerce.Orders.Customer
import VapeCommerce.Worker.Expiry

set_option autoImplicit false

-- The services together: every operation as one atomic transaction at its own time.
namespace VapeCommerce.System

open VapeCommerce.Lib VapeCommerce.Lib.Outcome VapeCommerce.Schema VapeCommerce.Config
open VapeCommerce.Database VapeCommerce.Checkout.Order VapeCommerce.Cash.Admin

inductive CashOp where
  | recordCollection (id : Id) (input : RecordRequest) (idempotencyKey : Option Text)
      (discrepancyId actorUserId : Id)
  | createRemittance (input : CreateCashRemittance)
  | submitRemittance (id actorUserId : Id)
  | reconcileRemittance (id : Id) (input : ReconcileCashRemittance) (discrepancyId actorUserId : Id)
  | resolveDiscrepancy (id : Id) (input : ResolveCashDiscrepancy) (actorUserId : Id)

def CashOp.exec (view : View) : CashOp -> Except Failure Db
  | .recordCollection id input key discrepancyId actor =>
    Cash.Admin.recordCollection view id input key discrepancyId actor
  | .createRemittance input => Cash.Admin.createRemittance view input
  | .submitRemittance id actor => Cash.Admin.submitRemittance view id actor
  | .reconcileRemittance id input discrepancyId actor =>
    Cash.Admin.reconcileRemittance view id input discrepancyId actor
  | .resolveDiscrepancy id input actor => Cash.Admin.resolveDiscrepancy view id input actor

-- `configure` and `replaceCarts` are what administrators and customers change between the others.
inductive Op where
  | configure (config : Configuration)
  | replaceCarts (carts : Table Cart.id)
  | createItem (input : Inventory.Admin.CreateInventoryItem) (actorUserId : Id)
  | receiveBatch (input : Inventory.Admin.CreateBatchReceipt) (key : Text) (actorUserId : Id)
  | adjust (id : Id) (input : Inventory.Admin.ApplyInventoryAdjustment) (actorUserId : Id)
  | decideAdjustment (id : Id) (decision : Inventory.Admin.AdjustmentDecision)
      (reason : Option Text) (actorUserId : Id)
  | transfer (sourceId : Id) (input : Inventory.Admin.TransferInventory) (key : Text)
      (actorUserId : Id)
  | createOrder (call : CheckoutCall)
  | confirm (id : Id) (expectedVersion : Nat) (actorUserId : Id)
  | terminate (disposition : Orders.Admin.Disposition) (id : Id) (expectedVersion : Nat)
      (actorUserId : Id)
  | prepare (id : Id) (expectedVersion : Nat) (actorUserId : Id)
  | readyForPickup (id : Id) (expectedVersion : Nat) (actorUserId : Id)
  | cancelOrder (userId : Id) (orderNumber : Int) (expectedVersion : Nat)
  | expireReservations (cutoff : Int) (batchSize : Nat)
  | assign (action : Delivery.Admin.AssignmentAction) (id : Id)
      (input : Delivery.Admin.AssignDelivery)
  | unassign (id : Id) (expectedVersion : Nat) (reason : Text)
  | transition (id : Id) (input : Delivery.Admin.TransitionDelivery) (actorUserId : Id)
  | recordAttempt (id : Id) (input : Delivery.Admin.RecordDeliveryAttempt) (actorUserId : Id)
  | complete (id : Id) (expectedVersion : Nat) (ageResult : Delivery.Admin.CompletionAgeResult)
      (actorUserId : Id)
  | completeReturn (id : Id) (expectedVersion : Nat) (reason : Text) (actorUserId : Id)
  | createManifest (input : Delivery.Operations.CreateDeliveryManifest)
  | transitionManifest (id : Id) (expectedStatus target : ManifestStatus) (actorUserId : Id)
  | importStatusCsv (importKey : Text) (dryRun : Bool) (file : Delivery.Operations.DeliveryStatusCsv)
      (actorUserId : Id)
  | cash (op : CashOp)

def exec (db : Db) (now : Int) : Op -> Except Failure Db
  | .configure config => .ok { db with config }
  | .replaceCarts carts => .ok { db with carts }
  | .createItem input actor => Inventory.Admin.createItem db input actor
  | .receiveBatch input key actor => Inventory.Admin.receiveBatch db input key actor now
  | .adjust id input actor => Inventory.Admin.adjust db id input actor now
  | .decideAdjustment id decision reason actor =>
    Prod.fst <$> Inventory.Admin.decideAdjustment db id decision reason actor now
  | .transfer sourceId input key actor => Inventory.Admin.transfer db sourceId input key actor now
  | .createOrder call => Prod.fst <$> Checkout.Order.create db call now
  | .confirm id version actor => Orders.Admin.confirm db id version actor now
  | .terminate disposition id version actor => Orders.Admin.terminate db disposition id version actor
  | .prepare id version actor => Orders.Admin.prepare db id version actor
  | .readyForPickup id version actor => Orders.Admin.readyForPickup db id version actor
  | .cancelOrder userId orderNumber version => Orders.Customer.cancel db userId orderNumber version
  | .expireReservations cutoff batchSize =>
    Worker.Expiry.expireReservations db cutoff batchSize now
  | .assign action id input => Delivery.Admin.assignment db action id input
  | .unassign id version reason => Delivery.Admin.unassign db id version reason
  | .transition id input actor => Delivery.Admin.transition db id input actor
  | .recordAttempt id input actor => Delivery.Admin.recordAttempt db id input actor now
  | .complete id version ageResult actor => Delivery.Admin.complete db id version ageResult actor now
  | .completeReturn id version reason actor =>
    Delivery.Admin.completeReturn db id version reason actor
  | .createManifest input => Delivery.Operations.createManifest db input
  | .transitionManifest id expected target actor =>
    Delivery.Operations.transitionManifest db id expected target actor
  | .importStatusCsv key dryRun file actor =>
    Prod.fst <$> Delivery.Operations.importStatusCsv db key dryRun file actor
  | .cash op => op.exec (View.latest db)

structure Clocked where
  now : Int
  db : Db

-- An operation some time after the one before it.
structure Timed where
  elapsed : Nat
  op : Op

-- A transaction that fails rolls back.
def step (state : Clocked) (label : Timed) : Clocked where
  now := state.now + label.elapsed
  db := (succeeded (exec state.db (state.now + label.elapsed) label.op)).getD state.db

def opening (config : Configuration) (orderSequence : Option Int) (now : Int) : Clocked where
  now := now
  db := Db.empty config orderSequence

theorem step_db (state : Clocked) (label : Timed) :
    (step state label).db = state.db \/
      exec state.db (state.now + label.elapsed) label.op = .ok (step state label).db := by
  unfold step
  cases ran : exec state.db (state.now + label.elapsed) label.op with
  | error failure => exact .inl rfl
  | ok next => exact .inr rfl

-- What every successful operation keeps, at every time, holds in every state of a run.
theorem step_keeps {keep : Int -> Db -> Prop}
    (later : forall now next db, now <= next -> keep now db -> keep next db)
    (each : forall now db op next, keep now db -> exec db now op = .ok next -> keep now next)
    (state : Clocked) (label : Timed) (kept : keep state.now state.db) :
    keep (step state label).now (step state label).db := by
  have waited : keep (state.now + label.elapsed) state.db :=
    later state.now _ state.db (by omega) kept
  cases step_db state label with
  | inl same => exact same ▸ waited
  | inr ran => exact each _ _ label.op _ waited ran

theorem run_keeps (keep : Int -> Db -> Prop)
    (later : forall now next db, now <= next -> keep now db -> keep next db)
    (each : forall now db op next, keep now db -> exec db now op = .ok next -> keep now next)
    {start : Clocked} (initial : keep start.now start.db) (labels : List Timed) :
    keep (Runs.run step start labels).now (Runs.run step start labels).db := by
  have states := @Runs.run_keeps Clocked Timed step (fun state => keep state.now state.db)
    (step_keeps later each) start initial labels
  exact states

-- A small shop with one product, for runs on concrete inputs.
namespace Sample

def listing : Config.Listing where
  published := true
  archivedAt := none
  suspendedAt := none
  deletedAt := none
  restrictions := []

def shop : Configuration where
  environment := { checkoutEnabled := true, maintenanceMode := false, prelaunchMode := false }
  storeSettings := [(.checkoutEnabled, .boolean true), (.storeName, .text ['n']),
    (.storePhone, .text ['p']), (.storeEmail, .text ['e']), (.storeAddress, .text ['a'])]
  complianceSettings := [(.minimumPurchaseAge, .integer 18)]
  products := [{ id := 1, listing := listing, publishedAt := some 0, category := listing, brand := none
                 minimumAge := none, images := [{ deletedAt := none, approved := true }] }]
  variants := [{ id := 1, productId := 1, published := true, archivedAt := none, deletedAt := none
                 priceMillimes := 20000, promotionalPriceMillimes := some 18000, taxRateBps := 1900
                 weightGrams := 100, images := [] }]
  governorates := [{ id := 1, active := true }]
  delegations := [{ id := 1, governorateId := 1, active := true }]
  localities := [{ id := 1, delegationId := 1, active := true
                   zoneLinks := [{ deliveryZoneId := 1, active := true, priorityOverride := none }] }]
  deliveryZones := [{ id := 1, active := true, supported := true, temporarilySuspended := false
                      priority := 1, minOrderMillimes := none, maxCodMillimes := none
                      freeDeliveryThresholdMillimes := none, phoneConfirmationRequired := false
                      manualReviewRequired := false }]
  deliveryRates := [{ id := 1, active := true, validFrom := none, validUntil := none, type := .base
                      priority := 1, feeMillimes := 7000, deliveryZoneId := some 1
                      governorateId := none, delegationId := none, localityId := none
                      minWeightGrams := none, maxWeightGrams := none, minOrderMillimes := none
                      maxOrderMillimes := none, maxCodMillimes := none }]
  pickupLocations := [{ id := 1, active := true, minOrderMillimes := none, maxCodMillimes := none }]
  postalCodes := []
  legalDocumentVersions := []
  customers := [{ id := 7, profileId := 7, active := true, deletedAt := none, suspendedAt := none
                  anonymizedAt := none, locale := ['f'], blocklistEntries := [] }]
  inventoryLocations := [{ id := 1, active := true, fulfillsOrders := true }]
  suppliers := []
  couriers := [{ id := 5, active := true, available := true, defaultFeeMillimes := none
                 maximumActiveDeliveries := none, deliveryZones := [] }]
  partialCodCollection := true
  variantIds := by decide

def input : CheckoutOrder where
  items := [{ variantId := 1, quantity := 2, bounds := by decide }]
  localityId := some 1
  pickupLocationId := none
  express := none
  customerName := ['c']
  phone := ['p']
  email := none
  address := some { street := ['s'], building := none, floor := none, apartment := none
                    landmark := none, postalCode := none, instructions := none }
  consent := { ageConfirmed := true, termsAccepted := true, privacyAccepted := true
               termsDocumentVersionId := none, privacyDocumentVersionId := none }
  sized := by decide

def call : CheckoutCall where
  customerUserId := 7
  idempotencyKey := some (List.replicate 16 'k')
  input := input
  ids := { claimId := 1, orderId := 1, deliveryId := 1, collectionId := 1
           orderItemId := id, reservationId := id }

def carts : Table Cart.id where
  rows := [{ id := 1, customerId := 7, status := .active, version := 1, updatedAt := 0
             expiresAt := none, items := [{ variantId := 1, quantity := 2 }] }]
  distinct := by decide

def receipt : Inventory.Admin.CreateBatchReceipt where
  batchId := 1
  itemId := 1
  variantId := 1
  locationId := 1
  batchNumber := ['b']
  supplierId := none
  supplierReference := none
  manufacturedAt := none
  expiryDate := 100000000000
  quantity := { value := 10, bounds := by decide }
  note := none

def move (expectedVersion : Nat) (status : DeliveryStatus)
    (operational : status ∈ Orders.StateMachine.operationalDeliveryTargets) : Op :=
  .transition 1
    { expectedVersion, target := { status, operational }, reasonCode := none, explanation := none } 9

def attempt (expectedVersion : Nat) (outcome : Orders.StateMachine.FailedAttemptOutcome)
    (nextAttemptAt : Option Int) : Op :=
  .recordAttempt 1 { expectedVersion, outcome, explanation := none, nextAttemptAt } 9

def collect (collectedMillimes : Int) (expectedOrderVersion expectedDeliveryVersion : Nat) : Op :=
  .cash (.recordCollection 1
    { collectedMillimes, expectedOrderVersion, expectedDeliveryVersion
      reasonCode := some ['r'], reasonDetail := some "short".toList }
    (some (List.replicate 16 'c')) 1 9)

def stocked : List Op := [
  .replaceCarts carts,
  .receiveBatch receipt ['k'] 9]

theorem assigned_operational :
    OrderStatus.assignedToCourier ∈ Orders.StateMachine.operationalDeliveryTargets := by decide

-- An order, confirmed, prepared and on its way.
def dispatched : List Op := stocked ++ [
  .createOrder call,
  .confirm 1 1 9,
  .prepare 1 2 9,
  .assign .assign 1
    { courierId := 5, expectedVersion := 3, trackingNumber := none, acknowledgedWarnings := [] },
  move 4 .assignedToCourier assigned_operational,
  move 5 .handedToCourier (by decide),
  move 6 .inTransit (by decide),
  move 7 .outForDelivery (by decide)]

def fulfilled : List Op :=
  dispatched ++ [collect 49840 7 8, .complete 1 9 .passed 9]

def timed (ops : List Op) : List Timed :=
  ops.map fun op => { elapsed := 1, op }

def start : Clocked :=
  opening shop (some 0) 0

def after (ops : List Op) : Clocked :=
  Runs.run step start (timed ops)

end Sample

end VapeCommerce.System
