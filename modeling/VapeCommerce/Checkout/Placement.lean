import VapeCommerce.Checkout.Stock

set_option autoImplicit false

-- What a successful order creation has computed and what it has written.
namespace VapeCommerce.Checkout.Placement

open VapeCommerce.Lib VapeCommerce.Lib.Outcome VapeCommerce.Schema VapeCommerce.Database
open VapeCommerce.Money VapeCommerce.Checkout.Catalogue VapeCommerce.Checkout.Fulfillment
open VapeCommerce.Checkout.Lines VapeCommerce.Checkout.Allocation VapeCommerce.Checkout.Order

-- Everything the rows of a placement are made from.
structure Prepared (views : Views) (call : CheckoutCall) (now : Int) (placement : Placement) where
  policy : AcceptedPolicy
  customer : Config.CustomerUser
  cart : Cart
  order : PricedOrder
  orderNumber : Int
  items : List OrderItem
  accepted : acceptPolicy (views .policy).config now = .ok policy
  priced : priceOrder views call.input policy.minimumAge now = .ok order
  itemized : order.priced.lines.mapM (orderItem call.ids) = .ok items
  ledgered : order.allocations.mapM
    (reservationMovement order.inventory call.ids.orderId call.customerUserId) = .ok placement.movements
  cartLocked : placement.cart = cart
  orderRow : placement.order = newOrder call.ids orderNumber customer cart policy order items now
  reservationRows :
    placement.reservations = order.allocations.map (reservation call.ids (now + reservationTtl))
  deliveryRow : placement.delivery = newDelivery call.ids policy
  collectionRow : placement.collection = newCollection call.ids order.grandTotalMillimes
  ageRows : placement.ageEvents = checkoutAgeEvents call.ids policy call.input.consent
  historyRow : placement.history = createdHistory call.ids.orderId call.customerUserId

theorem preparePlacement_ok {views : Views} {call : CheckoutCall}
    {claim : OrderIdempotencyKey CheckoutOrder} {now : Int} {placement : Placement}
    (ran : preparePlacement views call claim now = .ok placement) :
    placement.claim = claim /\ Nonempty (Prepared views call now placement) := by
  simp only [preparePlacement, bind_ok, pure_ok] at ran
  obtain ⟨policy, accepted, ⟨⟩, -, customer, -, cart, -, order, priced, ⟨⟩, -, ⟨⟩, -, orderNumber, -,
    items, itemized, movements, ledgered, rfl⟩ := ran
  refine ⟨rfl, ⟨?_⟩⟩
  exact {
    policy, customer, cart, order, orderNumber, items, accepted, priced, itemized, ledgered
    cartLocked := rfl
    orderRow := rfl
    reservationRows := rfl
    deliveryRow := rfl
    collectionRow := rfl
    ageRows := rfl
    historyRow := rfl }

theorem create_reservations_rows {table next : Table StockReservation.id}
    {reservations : List StockReservation} (ran : reservations.foldlM Database.create table = .ok next) :
    next.rows = table.rows ++ reservations := by
  induction reservations generalizing table with
  | nil =>
    simp only [List.foldlM_nil, pure_ok] at ran
    simp [ran]
  | cons reservation rest ih =>
    simp only [List.foldlM_cons, bind_ok, create_ok] at ran
    obtain ⟨middle, inserted, later⟩ := ran
    rw [ih later, (Table.insert?_rows inserted).1]
    simp

-- The tables after a placement; everything else is as it was.
structure Placed (db next : Db) (placement : Placement) : Prop where
  orders : db.orders.insert? placement.order = some next.orders
  deliveries : db.deliveries.insert? placement.delivery = some next.deliveries
  collections : db.collections.insert? placement.collection = some next.collections
  reservations : next.reservations.rows = db.reservations.rows ++ placement.reservations
  keys : completeClaim db.idempotencyKeys placement.claim placement.order.id placement.completedAt =
    .ok next.idempotencyKeys
  carts : next.carts = db.carts.update
    (fun cart => cart.id == placement.cart.id && cart.status == .active &&
      cart.version == placement.cart.version) convertCart convertCart_id
  rest : next = { db with
    orders := next.orders
    reservations := next.reservations
    deliveries := next.deliveries
    collections := next.collections
    idempotencyKeys := next.idempotencyKeys
    carts := next.carts
    movements := db.movements ++ placement.movements
    ageEvents := db.ageEvents ++ placement.ageEvents
    history := db.history ++ [placement.history]
    orderSequence := some placement.order.orderNumber }

theorem place_placed {db next : Db} {placement : Placement} (ran : place db placement = .ok next) :
    Placed db next placement := by
  simp only [place, bind_ok, create_ok, updateOne_ok, pure_ok] at ran
  obtain ⟨⟨⟩, -, ⟨⟩, -, orders, ordered, reservations, reserved, deliveries, delivered, collections,
    collected, keys, completed, carts, ⟨-, rfl⟩, rfl⟩ := ran
  exact {
    orders := ordered
    deliveries := delivered
    collections := collected
    reservations := create_reservations_rows reserved
    keys := completed
    carts := rfl
    rest := rfl }

theorem place_itemIds {db next : Db} {placement : Placement} (ran : place db placement = .ok next) :
    (placement.order.items.map (·.id)).Nodup := by
  simp only [place, bind_ok, throwIf_ok, not_or, not_not] at ran
  obtain ⟨_, ⟨distinct, -⟩, -⟩ := ran
  exact distinct

-- A call on one state replays what is stored, or places what it has prepared.
theorem create_places {db next : Db} {call : CheckoutCall} {now : Int} {orderId : Id}
    (ran : Order.create db call now = .ok (next, orderId)) :
    next = db \/ exists placement, placement.order.id = orderId /\
      Nonempty (Prepared (fun _ => db) call now placement) /\ place db placement = .ok next := by
  simp only [Order.create, bind_ok, pure_ok, Prod.mk.injEq] at ran
  obtain ⟨keyHash, -, result, ran, after, finished, rfl, rfl⟩ := ran
  simp only [createInTransaction, bind_ok] at ran
  obtain ⟨claim, -, ran⟩ := ran
  split at ran
  next =>
    simp only [replay, bind_ok, pure_ok] at ran
    obtain ⟨order, -, rfl⟩ := ran
    simp only [finish, Except.ok.injEq] at finished
    exact .inl finished.symm
  next =>
    simp only [bind_ok, pure_ok] at ran
    obtain ⟨placement, prepared, rfl⟩ := ran
    exact .inr ⟨placement, rfl, (preparePlacement_ok prepared).2, finished⟩

theorem create_cases {db next : Db} {call : CheckoutCall} {now : Int} {orderId : Id}
    (ran : Order.create db call now = .ok (next, orderId)) :
    next = db \/ exists placement, placement.order.id = orderId /\
      Nonempty (Prepared (fun _ => db) call now placement) /\ Placed db next placement := by
  refine (create_places ran).imp_right ?_
  rintro ⟨placement, same, prepared, placing⟩
  exact ⟨placement, same, prepared, place_placed placing⟩

theorem Placed.items {db next : Db} {placement : Placement} (placed : Placed db next placement) :
    next.items = db.items := by
  rw [placed.rest]

end VapeCommerce.Checkout.Placement
