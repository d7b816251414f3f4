import Mathlib.Algebra.Order.Group.Int
import VapeCommerce.Checkout.Agreement
import VapeCommerce.Orders.Transactions

set_option autoImplicit false

-- Checkout adds one new order and leaves every other order as it was.
namespace VapeCommerce.Orders.Creation

open VapeCommerce.Lib VapeCommerce.Lib.Outcome VapeCommerce.Schema VapeCommerce.Database
open VapeCommerce.Cash.Calculations VapeCommerce.Checkout.Lines VapeCommerce.Checkout.Order
open VapeCommerce.Checkout.Placement VapeCommerce.Checkout.Catalogue VapeCommerce.Checkout.Pricing
open VapeCommerce.Checkout.Agreement VapeCommerce.Checkout.Fulfillment VapeCommerce.Delivery.Admin
open VapeCommerce.Orders.Case VapeCommerce.Orders.Progress VapeCommerce.Orders.Transactions

-- Every line costs something, since prices are positive and at least one piece is bought.
theorem line_positive {config : Config.Configuration} {now : Int} {variantIds : List Id}
    {line : PricedLine} (exact : line.calculation.Exact (quoteLineInput line.requested line.variant))
    (sellable : (line.variant, line.product) ∈ sellableVariants config now variantIds) :
    0 < line.calculation.totalMillimes := by
  obtain ⟨list, promotional⟩ := sellableVariants_price config now variantIds _ _ sellable
  have price : 0 < (quoteLineInput line.requested line.variant).effectiveUnitPriceMillimes := by
    simp only [QuoteLineInput.effectiveUnitPriceMillimes, quoteLineInput]
    cases promoted : line.variant.promotionalPriceMillimes with
    | none => simpa using list
    | some price => simpa [promoted] using promotional
  have taxable : 0 < line.calculation.taxableSubtotalMillimes := by
    rw [exact.taxableSubtotal]
    exact Int.mul_pos price (Int.lt_of_lt_of_le (by decide) line.requested.bounds.1)
  have total := exact.total
  have tax := exact.tax
  omega

theorem grandTotal_positive {views : Views} {input : CheckoutOrder} {minimumAge now : Int}
    {order : PricedOrder} (ran : priceOrder views input minimumAge now = .ok order) :
    0 < order.grandTotalMillimes := by
  rw [<- priced_order_balanced ran]
  simp only [priceOrder, bind_ok, throwIf_ok, pure_ok] at ran
  obtain ⟨⟨⟩, -, priced, pricing, _, -, _, -, _, -, fulfillment, resolved, _, -, ⟨⟩, -, rfl⟩ := ran
  have fee := fulfillment_fee_nonneg resolved
  have lines := (priceLines_exact pricing).lines
  have some : priced.lines ≠ [] := by
    have requested := priceLines_requested pricing
    intro none
    rw [none] at requested
    have sized := input.sized.1
    simp only [noLines, List.map_nil, List.nil_append] at requested
    simp [<- requested] at sized
  have positive : 0 < (priced.lines.map fun line => line.calculation.totalMillimes).sum := by
    refine List.sum_pos _ (fun total member => ?_) (by simpa using some)
    obtain ⟨line, there, rfl⟩ := List.mem_map.1 member
    obtain ⟨exact, sellable, -⟩ := lines line there
    exact line_positive exact sellable
  simp only
  omega

-- The order a placement adds, with what belongs to it.
def placedCase (placement : Placement) : OrderCase where
  order := placement.order
  delivery := placement.delivery
  collection := placement.collection
  discrepancy := none
  history := [placement.history]
  attempts := []
  ageEvents := []

section Placed

variable {db next : Db} {call : CheckoutCall} {now : Int} {placement : Placement}

theorem placed_ids (prepared : Prepared (fun _ => db) call now placement) :
    placement.delivery.orderId = placement.order.id /\ placement.collection.orderId = placement.order.id /\
      placement.collection.deliveryId = some placement.delivery.id /\
      placement.history = createdHistory placement.order.id call.customerUserId := by
  rw [prepared.orderRow, prepared.deliveryRow, prepared.collectionRow, prepared.historyRow]
  exact ⟨rfl, rfl, rfl, rfl⟩

theorem placed_fresh (prepared : Prepared (fun _ => db) call now placement) :
    Fresh (placedCase placement) := by
  have positive := grandTotal_positive prepared.priced
  refine {
    status := by simp [placedCase, prepared.orderRow, newOrder]
    delivery := by simp [placedCase, prepared.deliveryRow, newDelivery]
    unassigned := by simp [placedCase, prepared.deliveryRow, newDelivery]
    payment := by simp [placedCase, prepared.orderRow, newOrder]
    positive := by simpa [placedCase, prepared.orderRow, newOrder] using positive
    owed := by simp [placedCase, prepared.orderRow, prepared.collectionRow, newOrder, newCollection]
    collection := by simp [placedCase, prepared.collectionRow, newCollection]
    collected := by simp [placedCase, prepared.collectionRow, newCollection]
    key := by simp [placedCase, prepared.collectionRow, newCollection]
    discrepancy := rfl
    age := ?_
    attempts := rfl
    ageEvents := rfl
    history := ⟨call.customerUserId, by simp [placedCase, (placed_ids prepared).2.2.2]⟩ }
  simp only [placedCase, prepared.deliveryRow, newDelivery]
  split <;> decide

variable (linked : Linked db) (prepared : Prepared (fun _ => db) call now placement)
  (placed : Placed db next placement)

include linked prepared placed

omit linked prepared in
theorem placed_unknown :
    Not (placement.order.id ∈ orderIds db) /\
      Not (placement.delivery.id ∈ (deliveryLinks db).map (·.2)) /\
      Not (placement.collection.id ∈ (collectionLinks db).map (·.2.2)) := by
  refine ⟨fun known => ?_, fun known => ?_, fun known => ?_⟩
  next =>
    obtain ⟨order, member, same⟩ := List.mem_map.1 known
    exact (Table.insert?_rows placed.orders).2 order member same
  next =>
    simp only [deliveryLinks, List.map_map] at known
    obtain ⟨delivery, member, same⟩ := List.mem_map.1 known
    exact (Table.insert?_rows placed.deliveries).2 delivery member same
  next =>
    simp only [collectionLinks, List.map_map] at known
    obtain ⟨collection, member, same⟩ := List.mem_map.1 known
    exact (Table.insert?_rows placed.collections).2 collection member same

omit linked prepared in
theorem placed_rows : next.history = db.history ++ [placement.history] /\ next.attempts = db.attempts /\
    next.ageEvents = db.ageEvents ++ placement.ageEvents /\ next.discrepancies = db.discrepancies := by
  rw [placed.rest]
  exact ⟨rfl, rfl, rfl, rfl⟩

omit linked placed in
theorem placed_age_events (event : AgeVerificationEvent) (member : event ∈ placement.ageEvents) :
    event.deliveryId = none := by
  rw [prepared.ageRows, checkoutAgeEvents] at member
  split at member
  next => simp only [List.mem_singleton] at member; rw [member]
  next => simp at member

omit linked placed in
theorem placed_age_of (deliveryId : Id) :
    placement.ageEvents.filter (fun event => event.deliveryId == some deliveryId) = [] :=
  List.filter_eq_nil_iff.2 fun event member => by simp [placed_age_events prepared event member]

theorem placed_is : IsCase next placement.order.id (placedCase placement) := by
  obtain ⟨newOrder, newDelivery, newCollection⟩ := placed_unknown placed
  obtain ⟨delivered, collected, -, history⟩ := placed_ids prepared
  obtain ⟨entries, attempts, ages, discrepancies⟩ := placed_rows placed
  refine {
    order := by rw [Table.find?_insert? placed.orders, if_pos rfl]; rfl
    delivery := ?_, collection := ?_, discrepancy := ?_, history := ?_, attempts := ?_, ageEvents := ?_ }
  next =>
    have absent : db.deliveries.lookup Delivery.orderId placement.order.id = none := by
      refine (Table.lookup_none _ _ _).2 fun row member same => newOrder ?_
      rw [<- linked.deliveries, deliveryLinks, List.map_map]
      exact List.mem_map.2 ⟨row, member, same⟩
    rw [Table.lookup_append placed.deliveries, absent, if_pos delivered]
    rfl
  next =>
    have absent : db.collections.lookup CashCollection.orderId placement.order.id = none := by
      refine (Table.lookup_none _ _ _).2 fun row member same => newOrder ?_
      obtain ⟨case, is, rfl⟩ := linked.case_of_collection member
      rw [<- same]
      exact is.order_id ▸ List.mem_map_of_mem is.order_mem
    rw [Table.lookup_append placed.collections, absent, if_pos collected]
    rfl
  next =>
    rw [discrepancyOf, discrepancies]
    refine (Table.lookup_none _ _ _).2 fun row member same => newCollection ?_
    exact linked.discrepancies row member _ same
  next =>
    have none : db.history.filter (fun entry => entry.orderId == placement.order.id) = [] := by
      refine List.filter_eq_nil_iff.2 fun entry member same => newOrder ?_
      exact beq_iff_eq.1 same ▸ linked.history entry member
    rw [historyOf, entries, List.filter_append, none, List.nil_append, history]
    simp [placedCase, createdHistory, history]
  next =>
    rw [attemptsOf, attempts]
    refine List.filter_eq_nil_iff.2 fun attempt member same => newDelivery ?_
    have here : attempt.deliveryId = placement.delivery.id := beq_iff_eq.1 same
    exact here ▸ linked.attempts attempt member
  next =>
    have none : db.ageEvents.filter (fun event => event.deliveryId == some placement.delivery.id) = [] := by
      refine List.filter_eq_nil_iff.2 fun event member same => newDelivery ?_
      exact linked.ageEvents event member _ (beq_iff_eq.1 same)
    simp only [placedCase]
    rw [ageEventsOf, ages, List.filter_append, none, placed_age_of prepared]
    rfl

omit linked in
theorem placed_elsewhere {orderId : Id} {case : OrderCase} (is : IsCase db orderId case) :
    IsCase next orderId case := by
  obtain ⟨newOrder, -, -⟩ := placed_unknown placed
  obtain ⟨-, -, -, history⟩ := placed_ids prepared
  obtain ⟨entries, attempts, ages, discrepancies⟩ := placed_rows placed
  have apart : placement.order.id ≠ orderId := fun same =>
    newOrder (same ▸ is.order_id ▸ List.mem_map_of_mem is.order_mem)
  exact {
    order := by rw [Table.find?_insert? placed.orders, if_neg apart, is.order]
    delivery := by rw [Table.lookup_append placed.deliveries, is.delivery]; rfl
    collection := by rw [Table.lookup_append placed.collections, is.collection]; rfl
    discrepancy := by rw [discrepancyOf, discrepancies]; exact is.discrepancy
    history := by
      have other : (placement.history.orderId == orderId) = false := by
        simpa [history, createdHistory] using apart
      rw [historyOf, entries, List.filter_append, List.filter_cons_of_neg (by simp [other]),
        List.filter_nil, List.append_nil]
      exact is.history
    attempts := by rw [attemptsOf, attempts]; exact is.attempts
    ageEvents := by
      rw [ageEventsOf, ages, List.filter_append, placed_age_of prepared, List.append_nil]
      exact is.ageEvents }

theorem placed_linked : Linked next := by
  obtain ⟨delivered, collected, counted, history⟩ := placed_ids prepared
  obtain ⟨entries, attempts, ages, discrepancies⟩ := placed_rows placed
  have orders := (Table.insert?_rows placed.orders).1
  have deliveries := (Table.insert?_rows placed.deliveries).1
  have collections := (Table.insert?_rows placed.collections).1
  have ids : orderIds next = orderIds db ++ [placement.order.id] := by simp [orderIds, orders]
  have deliveryRows : deliveryLinks next =
      deliveryLinks db ++ [(placement.order.id, placement.delivery.id)] := by
    simp [deliveryLinks, deliveries, delivered]
  have collectionRows : collectionLinks next = collectionLinks db ++
      [(placement.order.id, some placement.delivery.id, placement.collection.id)] := by
    simp [collectionLinks, collections, collected, counted]
  refine { deliveries := ?_, collections := ?_, history := ?_, attempts := ?_, ageEvents := ?_
           discrepancies := ?_, opened := ?_ }
  next => simp [ids, deliveryRows, linked.deliveries]
  next => simp [collectionRows, deliveryRows, linked.collections]
  next =>
    intro entry member
    rw [entries, List.mem_append, List.mem_singleton] at member
    rw [ids, List.mem_append, List.mem_singleton]
    rcases member with known | rfl
    next => exact .inl (linked.history entry known)
    next => exact .inr (by rw [history]; rfl)
  next =>
    intro attempt member
    rw [attempts] at member
    simp [deliveryRows, linked.attempts attempt member]
  next =>
    intro event member deliveryId here
    rw [ages] at member
    rcases List.mem_append.1 member with known | added
    next => simp [deliveryRows, linked.ageEvents event known deliveryId here]
    next => simp [placed_age_events prepared event added] at here
  next =>
    rw [discrepancies]
    intro row member collectionId here
    simp [collectionRows, linked.discrepancies row member collectionId here]
  next => rw [discrepancies]; exact linked.opened

theorem placed_advance {allowed : Id -> Event -> Prop} : Advance allowed db next where
  linked := placed_linked linked prepared placed
  known orderId case is := ⟨case, placed_elsewhere prepared placed is, .refl⟩
  created orderId after there := by
    refine ⟨after, ?_, .refl⟩
    have ordered := there.order_mem
    rw [(Table.insert?_rows placed.orders).1, List.mem_append, List.mem_singleton] at ordered
    rcases ordered with known | fresh
    next =>
      obtain ⟨case, is, -⟩ := linked.case_exists known
      rw [there.order_id] at is
      obtain rfl := (placed_elsewhere prepared placed is).unique there
      exact .inl is
    next =>
      have is := placed_is linked prepared placed
      rw [<- fresh, there.order_id] at is
      obtain rfl := is.unique there
      exact .inr (placed_fresh prepared)

end Placed

theorem create_advance {allowed : Id -> Event -> Prop} {db next : Db} {call : CheckoutCall} {now : Int}
    {orderId : Id} (linked : Linked db) (ran : Checkout.Order.create db call now = .ok (next, orderId)) :
    Advance allowed db next := by
  rcases create_cases ran with rfl | ⟨placement, -, ⟨prepared⟩, placed⟩
  next => exact Advance.refl linked
  next => exact placed_advance linked prepared placed

end VapeCommerce.Orders.Creation
