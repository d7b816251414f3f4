import VapeCommerce.Orders.Admin

set_option autoImplicit false

-- customer-orders.service.ts
namespace VapeCommerce.Orders.Customer

open VapeCommerce.Lib.Outcome VapeCommerce.Schema VapeCommerce.Config VapeCommerce.Database
open VapeCommerce.Orders.StateMachine VapeCommerce.Orders.Reservations VapeCommerce.Orders.Admin

def owns (config : Configuration) (userId : Id) (order : Order) : Bool :=
  config.customers.any fun user =>
    user.id == userId && user.profileId == order.customerId && user.suspendedAt.isNone && user.active

def lockOwnedOrder (db : Db) (userId : Id) (orderNumber : Int) : Except Failure OrderOperation := do
  let order <- orThrow
    (db.orders.rows.find? fun row => row.orderNumber == orderNumber && owns db.config userId row)
    (notFound "ORDER_NOT_FOUND")
  return {
    order
    delivery := deliveryOf db order.id
    cashCollections := collectionsOf db order.id }

def cancel (db : Db) (userId : Id) (orderNumber : Int) (expectedVersion : Nat) :
    Except Failure Db := do
  let operation <- lockOwnedOrder db userId orderNumber
  let order := operation.order
  throwIf (order.version ≠ expectedVersion) (conflict "VERSION_CONFLICT")
  throwIf (canCustomerCancelOrder order.status = false) (conflict "ORDER_CANCELLATION_NOT_ALLOWED")
  let delivery <- orThrow operation.delivery (conflict "DELIVERY_CANCELLATION_NOT_ALLOWED")
  throwIf (delivery.status ≠ .pendingConfirmation) (conflict "DELIVERY_CANCELLATION_NOT_ALLOWED")
  throwIf (uncollected order.paymentStatus = false) (conflict "ORDER_CASH_ALREADY_COLLECTED")
  let collection <- orThrow
    (match operation.cashCollections with
      | [collection] => if collection.status = .expected then some collection else none
      | _ => none)
    (conflict "ORDER_COD_STATE_INVALID")
  let released <- releaseAll db order.id userId
  let collections <- updateOne db.collections
    (fun row => row.id == collection.id && row.status == .expected)
    (fun row => { row with status := .voided }) (Lib.Table.kept CashCollection.id) staleOrder
  let orders <- updateOne db.orders (guardsOrder order) orderCancelled orderCancelled_id staleOrder
  let deliveries <- updateOne db.deliveries (guardsDelivery delivery) (deliveryMoved .cancelled)
    (deliveryMoved_id _) staleOrder
  return { released with
    collections
    orders
    deliveries
    history := db.history ++ [historyEntry order .cancelled "CUSTOMER_CANCELLED".toList userId] }

end VapeCommerce.Orders.Customer
