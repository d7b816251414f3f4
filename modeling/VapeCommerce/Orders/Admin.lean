import VapeCommerce.Orders.Reservations
import VapeCommerce.Orders.StateMachine
import VapeCommerce.Inventory.Admin

set_option autoImplicit false

-- admin-orders.service.ts
namespace VapeCommerce.Orders.Admin

open VapeCommerce.Lib VapeCommerce.Lib.Outcome VapeCommerce.Schema VapeCommerce.Database
open VapeCommerce.Orders.StateMachine VapeCommerce.Orders.Reservations
open VapeCommerce.Inventory.Admin

structure OrderOperation where
  order : Order
  delivery : Option Delivery
  cashCollections : List CashCollection

def deliveryOf (db : Db) (orderId : Id) : Option Delivery :=
  db.deliveries.lookup Delivery.orderId orderId

def collectionsOf (db : Db) (orderId : Id) : List CashCollection :=
  db.collections.filter fun collection => collection.orderId == orderId

def lockOrder (db : Db) (id : Id) : Except Failure OrderOperation := do
  let order <- orThrow (db.orders.find? id) (notFound "ORDER_NOT_FOUND")
  return {
    order
    delivery := deliveryOf db order.id
    cashCollections := collectionsOf db order.id }

def staleOrder : Failure := conflict "VERSION_CONFLICT"

def assertVersion (order : Order) (expectedVersion : Nat) : Except Failure Unit :=
  throwIf (order.version ≠ expectedVersion) staleOrder

-- The guards of the pair of updates that ends every order operation.
def guardsOrder (order : Order) (row : Order) : Bool :=
  row.id == order.id && row.status == order.status && row.version == order.version

def guardsDelivery (delivery : Delivery) (row : Delivery) : Bool :=
  row.id == delivery.id && row.status == delivery.status && row.version == delivery.version

def orderMoved (target : OrderStatus) (row : Order) : Order :=
  { row with status := target, version := row.version + 1 }

def deliveryMoved (target : DeliveryStatus) (row : Delivery) : Delivery :=
  { row with status := target, version := row.version + 1 }

def orderCancelled (row : Order) : Order :=
  { row with status := .cancelled, paymentStatus := .cancelled, version := row.version + 1 }

@[simp]
theorem orderMoved_id (target : OrderStatus) (row : Order) : (orderMoved target row).id = row.id := rfl

@[simp]
theorem deliveryMoved_id (target : DeliveryStatus) (row : Delivery) :
    (deliveryMoved target row).id = row.id := rfl

@[simp]
theorem orderCancelled_id (row : Order) : (orderCancelled row).id = row.id := rfl

def historyEntry (order : Order) (target : OrderStatus) (reasonCode : Text) (actorUserId : Id) :
    OrderStatusHistory where
  orderId := order.id
  fromStatus := some order.status
  toStatus := target
  reasonCode := reasonCode
  changedByUserId := actorUserId

-- One reservation against the order item it is for; both failures end confirmation.
def assertReservation (order : Order) (items : List InventoryItem) (now : Int)
    (row : StockReservation) : Except Failure Unit := do
  let invalid := conflict
    (if row.expiresAt <= now then "ORDER_RESERVATION_EXPIRED" else "ORDER_RESERVATION_INVALID")
  let orderItem := order.items.find? fun item => item.id == row.orderItemId
  let inventory := items.find? fun item => item.id == row.inventoryItemId
  throwIf (row.quantity <= 0 \/ row.expiresAt <= now \/ orderItem.isNone \/
      inventory.map (·.variantId) ≠ orderItem.map (·.variantId))
    invalid

def assertReservationCoverage (order : Order) (locked : LockedInventory) (now : Int) :
    Except Failure Unit := do
  throwIf (locked.reservations = [] \/ order.items = []) (conflict "ORDER_RESERVATION_MISSING")
  locked.reservations.forM (assertReservation order locked.items now)
  throwIf (order.items.any fun item =>
      !locked.reservations.any (fun row => row.orderItemId == item.id) ||
        ((locked.reservations.filter fun row => row.orderItemId == item.id).map
          (·.quantity)).sum != item.quantity)
    (conflict "ORDER_RESERVATION_MISMATCH")

-- One inventory item of a confirmation: its reserved quantity leaves the stock.
def consumeItem (order : Order) (actorUserId : Id) (reservations : List StockReservation)
    (state : Table InventoryItem.id × List StockMovement) (inventory : InventoryItem) :
    Except Failure (Table InventoryItem.id × List StockMovement) := do
  let quantity := reservedIn reservations inventory.id
  let onHandAfter := inventory.onHandQuantity - quantity
  throwIf (quantity <= 0 \/ onHandAfter < 0) (conflict "INSUFFICIENT_STOCK")
  let items <- updateOne state.1
    (fun row => row.id == inventory.id && row.version == inventory.version &&
      row.onHandQuantity >= quantity)
    (fun row => { row with
      onHandQuantity := row.onHandQuantity - quantity
      version := row.version + 1 })
    (fun _ => rfl) (conflict "INVENTORY_CONFLICT")
  return (items, state.2 ++ [movementOf inventory .orderConfirmed (-quantity) onHandAfter
    .order order.id actorUserId])

def confirm (db : Db) (id : Id) (expectedVersion : Nat) (actorUserId : Id) (now : Int) :
    Except Failure Db := do
  let operation <- lockOrder db id
  let order := operation.order
  assertVersion order expectedVersion
  throwIf (order.status ≠ .pendingConfirmation \/
      canTransitionOrder order.status .confirmed = false)
    (conflict "ORDER_CONFIRMATION_NOT_ALLOWED")
  let delivery <- orThrow operation.delivery (conflict "ORDER_DELIVERY_MISSING")
  throwIf (delivery.status ≠ .pendingConfirmation) (conflict "DELIVERY_CONFIRMATION_NOT_ALLOWED")
  let locked <- lockActiveInventory db order.id
  assertReservationCoverage order locked now
  let (items, movements) <- locked.items.foldlM
    (consumeItem order actorUserId locked.reservations) (db.items, db.movements)
  let reservations <- settle db.reservations locked.reservations .consumed
  let orders <- updateOne db.orders (guardsOrder order) (orderMoved .confirmed) (orderMoved_id _)
    staleOrder
  let deliveries <- updateOne db.deliveries (guardsDelivery delivery) (deliveryMoved .confirmed)
    (deliveryMoved_id _) staleOrder
  return { db with
    items
    movements
    reservations
    orders
    deliveries
    history := db.history ++
      [historyEntry order .confirmed "ADMIN_CONFIRMED".toList actorUserId] }

inductive Disposition where
  | cancel
  | reject
deriving DecidableEq, Repr

def Disposition.admits : Disposition -> OrderStatus -> Bool
  | .cancel, status => decide (status ∈ earlyCancellationStatuses)
  | .reject, status => status == .pendingConfirmation

def Disposition.failure (disposition : Disposition) (subject : String) : Failure :=
  conflict (match disposition with
    | .cancel => subject ++ "_CANCELLATION_NOT_ALLOWED"
    | .reject => subject ++ "_REJECTION_NOT_ALLOWED")

def voidExpected (collections : Table CashCollection.id) (chosen : CashCollection -> Bool) :
    Table CashCollection.id :=
  collections.update (fun row => chosen row && row.status == .expected)
    (fun row => { row with status := .voided }) fun _ => rfl

def uncollected (status : PaymentStatus) : Bool :=
  status == .paymentPending || status == .cashExpected

def terminate (db : Db) (disposition : Disposition) (id : Id) (expectedVersion : Nat)
    (actorUserId : Id) : Except Failure Db := do
  let operation <- lockOrder db id
  let order := operation.order
  assertVersion order expectedVersion
  throwIf (Not (disposition.admits order.status && canTransitionOrder order.status .cancelled))
    (disposition.failure "ORDER")
  let delivery <- orThrow operation.delivery (conflict "ORDER_DELIVERY_MISSING")
  throwIf (Not (disposition.admits delivery.status) \/ delivery.status ≠ order.status)
    (disposition.failure "DELIVERY")
  let nonVoidableCash := operation.cashCollections.any fun collection =>
    collection.status != .expected && collection.status != .voided
  throwIf (nonVoidableCash || !uncollected order.paymentStatus)
    (conflict "ORDER_CASH_ALREADY_COLLECTED")
  let released <- releaseAll db order.id actorUserId
  let orders <- updateOne db.orders (guardsOrder order) orderCancelled orderCancelled_id staleOrder
  let deliveries <- updateOne db.deliveries (guardsDelivery delivery) (deliveryMoved .cancelled)
    (deliveryMoved_id _) staleOrder
  let reasonCode := match disposition with
    | .cancel => "ADMIN_CANCELLED"
    | .reject => "ADMIN_REJECTED"
  return { released with
    collections := voidExpected db.collections fun row => row.orderId == order.id
    orders
    deliveries
    history := db.history ++ [historyEntry order .cancelled reasonCode.toList actorUserId] }

-- `prepare` and `readyForPickup` are this with their own pair of statuses.
def transitionIntake (db : Db) (source target : OrderStatus) (reasonCode : String) (id : Id)
    (expectedVersion : Nat) (actorUserId : Id) : Except Failure Db := do
  let operation <- lockOrder db id
  let order := operation.order
  assertVersion order expectedVersion
  throwIf (order.status ≠ source \/ canTransitionOrder order.status target = false)
    (conflict "ORDER_TRANSITION_NOT_ALLOWED")
  let delivery <- orThrow operation.delivery (conflict "ORDER_TRANSITION_NOT_ALLOWED")
  throwIf (delivery.status ≠ source) (conflict "ORDER_TRANSITION_NOT_ALLOWED")
  throwIf (target = .readyForPickup /\ order.deliveryMethodType ≠ .storePickup)
    (conflict "ORDER_IS_NOT_STORE_PICKUP")
  let orders <- updateOne db.orders (guardsOrder order) (orderMoved target) (orderMoved_id _)
    staleOrder
  let deliveries <- updateOne db.deliveries (guardsDelivery delivery) (deliveryMoved target)
    (deliveryMoved_id _) staleOrder
  return { db with
    orders
    deliveries
    history := db.history ++ [historyEntry order target reasonCode.toList actorUserId] }

def prepare (db : Db) (id : Id) (expectedVersion : Nat) (actorUserId : Id) : Except Failure Db :=
  transitionIntake db .confirmed .preparing "ADMIN_PREPARING" id expectedVersion actorUserId

def readyForPickup (db : Db) (id : Id) (expectedVersion : Nat) (actorUserId : Id) :
    Except Failure Db :=
  transitionIntake db .preparing .readyForPickup "ADMIN_READY_FOR_PICKUP" id expectedVersion
    actorUserId

end VapeCommerce.Orders.Admin
