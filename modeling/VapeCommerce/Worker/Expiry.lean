import Mathlib.Data.List.Sort
import VapeCommerce.Orders.Reservations

set_option autoImplicit false

-- `expireReservations` of the worker's outbox-processor.ts
namespace VapeCommerce.Worker.Expiry

open VapeCommerce.Lib VapeCommerce.Lib.Outcome VapeCommerce.Schema VapeCommerce.Database
open VapeCommerce.Orders.Reservations

def lockOrderBefore (left right : StockReservation) : Prop :=
  left.inventoryItemId < right.inventoryItemId \/
    (left.inventoryItemId = right.inventoryItemId /\ left.id <= right.id)

instance : DecidableRel lockOrderBefore := fun _ _ => inferInstanceAs (Decidable (_ \/ _))

def due (cutoff : Int) (row : StockReservation) : Bool :=
  row.state == .active && row.expiresAt <= cutoff

def dueReservations (db : Db) (cutoff : Int) (batchSize : Nat) : List StockReservation :=
  ((db.reservations.filter (due cutoff)).insertionSort lockOrderBefore).take batchSize

def invariantBreach : Failure := { kind := .internal, code := "RESERVATION_INVARIANT_BREACH" }

-- One reservation of the batch; a row that is no longer due is passed over.
def expireOne (items : List InventoryItem) (cutoff : Int)
    (state : Table StockReservation.id × List StockMovement) (row : StockReservation) :
    Except Failure (Table StockReservation.id × List StockMovement) := do
  let movement <- releaseMovement items (some row.orderId) none invariantBreach row
  let chosen := fun other : StockReservation => other.id == row.id && due cutoff other
  if state.1.count chosen ≠ 1 then return state
  return (state.1.update chosen (fun other => { other with state := .expired }) fun _ => rfl,
    state.2 ++ [movement])

def expireReservations (db : Db) (cutoff : Int) (batchSize : Nat) (now : Int) :
    Except Failure Db := do
  throwIf (cutoff > now + 5000) { kind := .internal, code := "RESERVATION_CUTOFF_INVALID" }
  let locked := dueReservations db cutoff batchSize
  if locked.isEmpty then return db
  let items := itemsOf db.items locked
  throwIf (items.length ≠ (inventoryIdsOf locked).length)
    { kind := .internal, code := "INVENTORY_ITEM_MISSING" }
  let (reservations, movements) <- locked.foldlM (expireOne items cutoff)
    (db.reservations, db.movements)
  return { db with reservations, movements }

end VapeCommerce.Worker.Expiry
