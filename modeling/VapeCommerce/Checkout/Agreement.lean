import VapeCommerce.Checkout.Placement

set_option autoImplicit false

-- The quote and the order price one request alike, and an order's amounts balance.
namespace VapeCommerce.Checkout.Agreement

open VapeCommerce.Lib VapeCommerce.Lib.Outcome VapeCommerce.Schema VapeCommerce.Database
open VapeCommerce.Money VapeCommerce.Checkout.Policy VapeCommerce.Checkout.Catalogue
open VapeCommerce.Checkout.Fulfillment VapeCommerce.Checkout.Lines VapeCommerce.Checkout.Pricing
open VapeCommerce.Checkout.Order VapeCommerce.Checkout.Quote VapeCommerce.Checkout.Stock
open VapeCommerce.Checkout.Placement

def quoteRequest (input : CheckoutOrder) : CheckoutQuote where
  items := input.items
  localityId := input.localityId
  pickupLocationId := input.pickupLocationId
  express := input.express

structure Agrees (order : PricedOrder) (response : QuoteResponse) : Prop where
  lines : response.lines.map (fun line => (line.variantId, line.quantity, line.lineTotalMillimes)) =
    order.priced.lines.map fun line =>
      (line.variant.id, line.requested.quantity, line.calculation.totalMillimes)
  subtotal : response.subtotalMillimes = order.priced.totals.subtotalMillimes
  discount : response.discountTotalMillimes = order.priced.totals.discountTotalMillimes
  tax : response.taxTotalMillimes = order.priced.totals.taxTotalMillimes
  deliveryFee : response.deliveryTotalMillimes = order.fulfillment.deliveryTotalMillimes
  grandTotal : response.grandTotalMillimes = order.grandTotalMillimes

theorem quote_shape_accepted {input : CheckoutOrder} (shape : assertRequestShape input = .ok ()) :
    assertQuoteShape (quoteRequest input) = .ok () := by
  simp only [assertRequestShape, bind_ok, throwIf_ok] at shape
  obtain ⟨⟨⟩, distinct, ⟨⟩, selected, ⟨⟩, -, express⟩ := shape
  simp only [assertQuoteShape, bind_ok, throwIf_ok]
  exact ⟨(), selected, (), express, distinct⟩

theorem policy_allowed {config : Config.Configuration} {now : Int} {policy : AcceptedPolicy}
    (accepted : acceptPolicy config now = .ok policy) : (evaluate config now).allowed = true := by
  simp only [acceptPolicy, bind_ok, throwIf_ok, not_not] at accepted
  exact accepted.choose_spec.1

theorem fulfillment_accepted {db : Db} {input : CheckoutOrder} {orderMillimes weightGrams now : Int}
    {fulfillment : ResolvedFulfillment}
    (resolved : resolveFulfillment (fun _ => db) input orderMillimes weightGrams now = .ok fulfillment) :
    quoteFulfillment db.config (quoteRequest input) orderMillimes weightGrams now = .ok fulfillment := by
  simp only [resolveFulfillment] at resolved
  simp only [quoteFulfillment, quoteRequest]
  cases collected : input.pickupLocationId with
  | some pickupLocationId => simpa [collected] using resolved
  | none =>
    simp only [collected] at resolved
    cases delivered : input.localityId with
    | none => simp [delivered] at resolved
    | some localityId =>
      simp only [delivered] at resolved
      exact courier_accepted resolved

theorem fulfillment_fee_nonneg {views : Views} {input : CheckoutOrder}
    {orderMillimes weightGrams now : Int} {fulfillment : ResolvedFulfillment}
    (resolved : resolveFulfillment views input orderMillimes weightGrams now = .ok fulfillment) :
    0 <= fulfillment.deliveryTotalMillimes := by
  unfold resolveFulfillment at resolved
  split at resolved
  next => exact le_of_eq (pickup_fee resolved).symm
  next => exact courier_fee_nonneg resolved
  next => simp at resolved

-- Whatever order creation can allocate, the quote finds in stock.
theorem lines_in_stock {db : Db} {input : CheckoutOrder} {minimumAge now : Int} {order : PricedOrder}
    (ran : priceOrder (fun _ => db) input minimumAge now = .ok order) :
    forall requested variant product, requested ∈ input.items ->
      (sellableVariants db.config now (input.items.map (·.variantId))).find?
        (fun entry => entry.1.id == requested.variantId) = some (variant, product) ->
      stockCheck db now requested variant product = .ok () := by
  intro requested variant product member found
  have same : variant.id = requested.variantId := by simpa using List.find?_some found
  have covered := (priceOrder_draws ran).covered requested member
  simp only [stockCheck, throwIf_ok, Int.not_lt, availableQuantity_sellable, same]
  exact covered

theorem priced_order_quoted {db : Db} {input : CheckoutOrder} {policy : AcceptedPolicy} {now : Int}
    {order : PricedOrder} (shape : assertRequestShape input = .ok ())
    (accepted : acceptPolicy db.config now = .ok policy)
    (ran : priceOrder (fun _ => db) input policy.minimumAge now = .ok order) :
    exists response, quote db (quoteRequest input) now = .ok response /\ Agrees order response := by
  have stocked := lines_in_stock ran
  simp only [priceOrder, bind_ok, throwIf_ok, pure_ok] at ran
  obtain ⟨⟨⟩, sellable, priced, pricing, _, -, _, -, discounted, subtracted, fulfillment, resolved,
    grandTotal, added, ⟨⟩, maximum, rfl⟩ := ran
  have repriced := priceLines_recheck stocked pricing
  have fulfilled := fulfillment_accepted resolved
  let response : QuoteResponse := {
    lines := priced.lines.map quotedLine
    subtotalMillimes := priced.totals.subtotalMillimes
    discountTotalMillimes := priced.totals.discountTotalMillimes
    deliveryTotalMillimes := fulfillment.deliveryTotalMillimes
    taxTotalMillimes := priced.totals.taxTotalMillimes
    grandTotalMillimes := grandTotal
    expectedCodMillimes := grandTotal
    totalWeightGrams := priced.totals.totalWeightGrams
    selectedRateIds := fulfillment.selectedRateIds
    minimumAge := (evaluate db.config now).minimumAge
    expiresAt := now + 5 * 60000 }
  refine ⟨response, ?_, ?_⟩
  next =>
    simp only [quote, bind_ok, throwIf_ok, not_not, pure_ok]
    exact ⟨(), policy_allowed accepted, (), quote_shape_accepted shape, (), not_not.1 sellable, priced, repriced,
      discounted, subtracted, fulfillment, fulfilled, grandTotal, added, (), maximum, rfl⟩
  next =>
    exact {
      lines := by simp [response, quotedLine, Function.comp_def]
      subtotal := rfl
      discount := rfl
      tax := rfl
      deliveryFee := rfl
      grandTotal := rfl }

-- The grand total is what the lines and the delivery fee add up to.
theorem priced_order_balanced {views : Views} {input : CheckoutOrder} {minimumAge now : Int}
    {order : PricedOrder} (ran : priceOrder views input minimumAge now = .ok order) :
    (order.priced.lines.map fun line => line.calculation.totalMillimes).sum +
      order.fulfillment.deliveryTotalMillimes = order.grandTotalMillimes := by
  simp only [priceOrder, bind_ok, orFail_ok, addMillimes_ok, pure_ok] at ran
  obtain ⟨_, -, priced, pricing, _, -, _, -, _, ⟨-, -, rfl⟩, fulfillment, -, _, ⟨-, -, rfl⟩, _, -, rfl⟩ :=
    ran
  have lines := (priceLines_exact pricing).line_totals
  simp only [lines, List.sum_cons, List.sum_nil]
  omega

theorem itemized_totals {ids : FreshIds} {lines : List PricedLine} {items : List OrderItem}
    (itemized : lines.mapM (orderItem ids) = .ok items) :
    items.map (·.lineTotalMillimes) = lines.map fun line => line.calculation.totalMillimes := by
  induction lines generalizing items with
  | nil =>
    simp only [List.mapM_nil, pure_ok] at itemized
    simp [<- itemized]
  | cons line rest ih =>
    obtain ⟨item, first, others, later, rfl⟩ := (mapM_cons_ok _ _ _ _).1 itemized
    simp only [orderItem, bind_ok, pure_ok] at first
    obtain ⟨_, -, _, -, rfl⟩ := first
    simp [ih later]

-- The amounts of an order with its delivery and its cash collection.
structure Balanced (db : Db) (order : Schema.Order) : Prop where
  lines : (order.items.map (·.lineTotalMillimes)).sum + order.deliveryTotalMillimes =
    order.grandTotalMillimes
  cod : order.grandTotalMillimes = order.expectedCodMillimes
  collection : exists delivery collection, delivery ∈ db.deliveries.rows /\
    collection ∈ db.collections.rows /\ delivery.orderId = order.id /\
    collection.orderId = order.id /\ collection.deliveryId = some delivery.id /\
    collection.expectedMillimes = order.expectedCodMillimes

theorem placed_order_balanced {db next : Db} {call : CheckoutCall} {now : Int} {placement : Placement}
    {views : Views} (prepared : Prepared views call now placement)
    (placed : Placed db next placement) : Balanced next placement.order := by
  have itemized := itemized_totals prepared.itemized
  have balanced := priced_order_balanced prepared.priced
  refine { lines := ?_, cod := ?_, collection := ?_ }
  next =>
    rw [prepared.orderRow]
    simpa [newOrder, itemized] using balanced
  next => simp [prepared.orderRow, newOrder]
  next =>
    have deliveries := (Table.insert?_rows placed.deliveries).1
    have collections := (Table.insert?_rows placed.collections).1
    refine ⟨placement.delivery, placement.collection, by simp [deliveries], by simp [collections], ?_⟩
    simp [prepared.orderRow, prepared.deliveryRow, prepared.collectionRow, newOrder, newDelivery,
      newCollection]

/-- Pricing an order implies the same quote, and every order that is created balances. -/
theorem quote_and_order_agree (db : Db) (call : CheckoutCall) (now : Int) :
    (forall policy order, assertRequestShape call.input = .ok () ->
      acceptPolicy db.config now = .ok policy ->
      priceOrder (fun _ => db) call.input policy.minimumAge now = .ok order ->
      exists response, quote db (quoteRequest call.input) now = .ok response /\ Agrees order response) /\
    (forall next orderId, Order.create db call now = .ok (next, orderId) ->
      forall order, order ∈ next.orders.rows -> order ∈ db.orders.rows \/ Balanced next order) := by
  constructor
  next => exact fun policy order shape accepted ran => priced_order_quoted shape accepted ran
  next =>
    intro next orderId ran order member
    cases create_cases ran with
    | inl same => exact .inl (same ▸ member)
    | inr created =>
      obtain ⟨placement, -, ⟨prepared⟩, placed⟩ := created
      rw [(Table.insert?_rows placed.orders).1, List.mem_append, List.mem_singleton] at member
      cases member with
      | inl known => exact .inl known
      | inr fresh => exact .inr (fresh ▸ placed_order_balanced prepared placed)

end VapeCommerce.Checkout.Agreement
