import VapeCommerce.Database
import Mathlib.Data.List.Dedup

set_option autoImplicit false

-- The locked reservations of one order, as confirmation, cancellation and expiry use them.
namespace VapeCommerce.Orders.Reservations

open VapeCommerce.Lib VapeCommerce.Lib.Outcome VapeCommerce.Schema VapeCommerce.Database

structure LockedInventory where
  reservations : List StockReservation
  items : List InventoryItem

def reservationConflict : Failure := conflict "RESERVATION_CONFLICT"

def inventoryIdsOf (reservations : List StockReservation) : List Id :=
  (reservations.map (·.inventoryItemId)).dedup

def itemsOf (items : Table InventoryItem.id) (reservations : List StockReservation) :
    List InventoryItem :=
  items.filter fun item => decide (item.id ∈ inventoryIdsOf reservations)

def activeOf (db : Db) (orderId : Id) : List StockReservation :=
  db.reservations.filter fun row => row.orderId == orderId && row.state == .active

def lockActiveInventory (db : Db) (orderId : Id) : Except Failure LockedInventory := do
  let reservations := activeOf db orderId
  let items := itemsOf db.items reservations
  throwIf (items.length ≠ (inventoryIdsOf reservations).length) reservationConflict
  return { reservations, items }

def reservedIn (reservations : List StockReservation) (itemId : Id) : Int :=
  ((reservations.filter fun row => row.inventoryItemId == itemId).map (·.quantity)).sum

-- Every locked reservation leaves ACTIVE for `state`; the caller has checked the count.
def settle (table : Table StockReservation.id) (reservations : List StockReservation)
    (state : StockReservationState) : Except Failure (Table StockReservation.id) := do
  let chosen := fun row : StockReservation =>
    decide (row.id ∈ reservations.map (·.id)) && row.state == .active
  throwIf (table.count chosen ≠ reservations.length) reservationConflict
  return table.update chosen (fun row => { row with state }) fun _ => rfl

def releaseMovement (items : List InventoryItem) (referenceId actorUserId : Option Id)
    (failure : Failure) (row : StockReservation) : Except Failure StockMovement := do
  let item <- orThrow (items.find? fun item => item.id == row.inventoryItemId) failure
  throwIf (row.quantity <= 0 \/ item.onHandQuantity < 0) failure
  return {
    inventoryItemId := item.id
    locationId := item.locationId
    batchId := item.batchId
    type := .reservationRelease
    quantityDelta := 0
    onHandAfter := item.onHandQuantity
    referenceType := some .order
    referenceId
    actorUserId
    idempotencyKeyHash := none
    requestFingerprint := none }

-- Cancellation releases whatever the order still reserves; stock itself does not move.
def releaseAll (db : Db) (orderId actorUserId : Id) : Except Failure Db := do
  let locked <- lockActiveInventory db orderId
  if locked.reservations.isEmpty then return db
  let reservations <- settle db.reservations locked.reservations .released
  let movements <- locked.reservations.mapM
    (releaseMovement locked.items (some orderId) (some actorUserId)
      (conflict "INVENTORY_INVARIANT_BREACH"))
  return { db with reservations, movements := db.movements ++ movements }

end VapeCommerce.Orders.Reservations
