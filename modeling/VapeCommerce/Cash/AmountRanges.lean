import VapeCommerce.Checkout.Agreement
import VapeCommerce.Checkout.LinePricing
import VapeCommerce.System

set_option autoImplicit false

-- Three upper limits: safe integers when an order is priced, INT columns when it is stored, and the
-- cash module's own when its amount is collected.
namespace VapeCommerce.Cash.AmountRanges

open VapeCommerce.Lib VapeCommerce.Lib.Outcome VapeCommerce.Schema VapeCommerce.Database VapeCommerce.Money
open VapeCommerce.Checkout.Pricing VapeCommerce.Checkout.Lines VapeCommerce.Checkout.Order
open VapeCommerce.Checkout.Catalogue VapeCommerce.Checkout.Fulfillment VapeCommerce.Checkout.Placement
open VapeCommerce.Checkout.Agreement VapeCommerce.Checkout.LinePricing VapeCommerce.Cash.Admin
open VapeCommerce.Cash.Calculations
open VapeCommerce.Catalog (databaseIntMax)

def orderAmounts (order : Schema.Order) : List Int :=
  [order.subtotalMillimes, order.discountTotalMillimes, order.deliveryTotalMillimes,
    order.taxTotalMillimes, order.grandTotalMillimes, order.expectedCodMillimes]

def itemAmounts (item : OrderItem) : List Int :=
  [item.unitPriceMillimes, item.unitDiscountMillimes, item.unitTaxMillimes, item.lineSubtotalMillimes,
    item.lineDiscountMillimes, item.lineTaxMillimes, item.lineTotalMillimes]

-- Every amount that order creation writes.
def storedAmounts (placement : Placement) : List Int :=
  orderAmounts placement.order ++ placement.order.items.flatMap itemAmounts ++
    [placement.collection.expectedMillimes, placement.collection.collectedMillimes]

def Storable (placement : Placement) : Prop :=
  forall amount, amount ∈ storedAmounts placement -> 0 <= amount /\ amount <= databaseIntMax

-- The two answers to an amount that cash collection refuses.
def InvalidAmount {A : Type} (result : Except Failure A) : Prop :=
  result = .error (badRequest "COLLECTED_AMOUNT_INVALID") \/ result = .error rangeFailure

-- Recording exactly what a collection expects is never refused for its amount.
def Collectable (expectedMillimes : Int) : Prop :=
  forall view id input key discrepancyId actorUserId operation,
    lockCollection view.snapshot id = .ok operation ->
    operation.collection.expectedMillimes = expectedMillimes -> input.collectedMillimes = expectedMillimes ->
    Not (InvalidAmount (recordCollection view id input key discrepancyId actorUserId))

structure Ranged (placement : Placement) : Prop where
  stored : Storable placement
  accepted : 0 <= placement.collection.expectedMillimes /\ placement.collection.expectedMillimes <= maxMillimes
  collected : Collectable placement.collection.expectedMillimes

section Request

-- The lines of a request with the catalogue's rows for them.
abbrev Requested := CheckoutItem × Config.ProductVariant

def requestedLines (variants : List (Config.ProductVariant × Config.Product)) (items : List CheckoutItem) :
    List Requested :=
  items.filterMap fun item =>
    (variants.find? fun entry => entry.1.id == item.variantId).map fun entry => (item, entry.1)

def listAmount (line : Requested) : Int :=
  line.2.priceMillimes * line.1.quantity

def netAmount (line : Requested) : Int :=
  line.2.promotionalPriceMillimes.getD line.2.priceMillimes * line.1.quantity

def taxAmount (line : Requested) : Int :=
  basisPointsFloor (netAmount line) line.2.taxRateBps

def weight (line : Requested) : Int :=
  line.2.weightGrams * line.1.quantity

def total (amount : Requested -> Int) (lines : List Requested) : Int :=
  (lines.map amount).sum

variable (views : Views) (input : CheckoutOrder) (now : Int)

def orderedLines : List Requested :=
  requestedLines (sellableVariants (views .variants).config now (input.items.map (·.variantId))) input.items

def deliveryCharge : Int :=
  match resolveFulfillment views input (total netAmount (orderedLines views input now))
    (total weight (orderedLines views input now)) now with
  | .ok fulfillment => fulfillment.deliveryTotalMillimes
  | .error _ => 0

def amountDue : Int :=
  total netAmount (orderedLines views input now) + total taxAmount (orderedLines views input now) +
    deliveryCharge views input now

-- The list prices fit a column, and what is due is an amount that the cash module takes.
structure Affordable : Prop where
  listed : total listAmount (orderedLines views input now) <= databaseIntMax
  due : 0 < amountDue views input now /\ amountDue views input now <= maxMillimes

end Request

section Lines

theorem calculation_amounts {input : QuoteLineInput} {line : QuoteLineCalculation}
    (calculated : calculateQuoteLine input = .ok line) :
    line.taxMillimes = basisPointsFloor line.taxableSubtotalMillimes input.taxRateBps /\
      line.effectiveUnitPriceMillimes = input.effectiveUnitPriceMillimes /\ 0 <= input.taxRateBps := by
  simp only [calculateQuoteLine, bind_ok, throwIf_ok, multiplyMillimes_ok, addMillimes_ok,
    calculateBasisPoints_ok, pure_ok, exists_const] at calculated
  obtain ⟨-, _, ⟨-, -, -, rfl⟩, _, ⟨-, -, -, rfl⟩, _, ⟨-, -, rfl⟩, _, ⟨-, points, -, rfl⟩, _, ⟨-, -, rfl⟩,
    rfl⟩ := calculated
  exact ⟨roundedBasisPoints_floor _ _, rfl, points.1⟩

theorem priceLines_calculated {check : LineCheck} {variants : List (Config.ProductVariant × Config.Product)}
    {items : List CheckoutItem} {priced : Priced} (ran : priceLines check variants items = .ok priced) :
    forall line, line ∈ priced.lines ->
      calculateQuoteLine (quoteLineInput line.requested line.variant) = .ok line.calculation := by
  refine foldlM_keeps (fun priced : Priced => forall line, line ∈ priced.lines ->
    calculateQuoteLine (quoteLineInput line.requested line.variant) = .ok line.calculation)
    (priceLine check variants) items ?_ noLines priced (by simp [noLines]) ran
  intro state item next _ earlier step line member
  obtain ⟨variant, product, calculation, -, -, calculated, -, lines⟩ := priceLine_ok step
  rw [lines, List.mem_append, List.mem_singleton] at member
  cases member with
  | inl known => exact earlier line known
  | inr last => rw [last]; exact calculated

theorem priceLines_weight {check : LineCheck} {variants : List (Config.ProductVariant × Config.Product)}
    {items : List CheckoutItem} {priced : Priced} (ran : priceLines check variants items = .ok priced) :
    priced.totals.totalWeightGrams =
      (priced.lines.map fun line => line.variant.weightGrams * line.requested.quantity).sum := by
  refine foldlM_keeps (fun priced : Priced => priced.totals.totalWeightGrams =
    (priced.lines.map fun line => line.variant.weightGrams * line.requested.quantity).sum)
    (priceLine check variants) items ?_ noLines priced rfl ran
  intro state item next _ earlier step
  obtain ⟨variant, product, calculation, -, -, -, added, lines⟩ := priceLine_ok step
  simp only [Totals.add, safeQuantityProduct, bind_ok, throwIf_ok, orFail_ok, addMillimes_ok, pure_ok] at added
  obtain ⟨_, -, _, -, _, -, _, ⟨_, -, rfl⟩, _, ⟨-, -, rfl⟩, same⟩ := added
  rw [lines, <- same]
  simp [earlier]

theorem priceLines_found {check : LineCheck} {variants : List (Config.ProductVariant × Config.Product)}
    {items : List CheckoutItem} {start priced : Priced}
    (ran : items.foldlM (priceLine check variants) start = .ok priced) :
    priced.lines.map (fun line => (line.requested, line.variant)) =
      start.lines.map (fun line => (line.requested, line.variant)) ++ requestedLines variants items := by
  induction items generalizing start with
  | nil =>
    simp only [List.foldlM_nil, pure_ok] at ran
    simp [ran, requestedLines]
  | cons requested rest ih =>
    simp only [List.foldlM_cons, bind_ok] at ran
    obtain ⟨next, first, later⟩ := ran
    obtain ⟨variant, product, calculation, found, -, -, -, lines⟩ := priceLine_ok first
    rw [ih later, lines]
    simp [requestedLines, found]

-- What a priced line has of each amount.
structure LineRanges (line : PricedLine) : Prop where
  list : line.calculation.listSubtotalMillimes = listAmount (line.requested, line.variant)
  net : line.calculation.taxableSubtotalMillimes = netAmount (line.requested, line.variant)
  tax : line.calculation.taxMillimes = taxAmount (line.requested, line.variant)
  price : 0 <= line.calculation.effectiveUnitPriceMillimes /\
    line.calculation.effectiveUnitPriceMillimes <= line.variant.priceMillimes
  priced : line.variant.priceMillimes <= line.calculation.listSubtotalMillimes
  parts : 0 <= line.calculation.taxableSubtotalMillimes /\
    line.calculation.taxableSubtotalMillimes <= line.calculation.listSubtotalMillimes
  discount : line.calculation.discountMillimes =
    line.calculation.listSubtotalMillimes - line.calculation.taxableSubtotalMillimes
  total : line.calculation.totalMillimes = line.calculation.taxableSubtotalMillimes + line.calculation.taxMillimes
  unitTax : 0 <= roundedBasisPoints line.calculation.effectiveUnitPriceMillimes line.variant.taxRateBps /\
    roundedBasisPoints line.calculation.effectiveUnitPriceMillimes line.variant.taxRateBps <=
      line.calculation.taxMillimes

theorem line_ranges {line : PricedLine}
    (calculated : calculateQuoteLine (quoteLineInput line.requested line.variant) = .ok line.calculation) :
    LineRanges line := by
  have exact := calculateQuoteLine_exact calculated
  obtain ⟨tax, effective, points⟩ := calculation_amounts calculated
  have quantity : 1 <= line.requested.quantity := line.requested.bounds.1
  have price : 0 <= line.variant.priceMillimes := exact.listPrice
  have listed : line.calculation.listSubtotalMillimes = line.variant.priceMillimes * line.requested.quantity :=
    exact.listSubtotal
  have net : line.calculation.taxableSubtotalMillimes =
      line.calculation.effectiveUnitPriceMillimes * line.requested.quantity := by
    rw [effective]
    exact exact.taxableSubtotal
  have bounds : 0 <= line.calculation.effectiveUnitPriceMillimes /\
      line.calculation.effectiveUnitPriceMillimes <= line.variant.priceMillimes := by
    rw [effective]
    exact exact.effectivePrice
  have unit : line.calculation.effectiveUnitPriceMillimes <= line.calculation.taxableSubtotalMillimes := by
    rw [net]
    exact le_mul_of_one_le_right bounds.1 quantity
  exact {
    list := listed
    net := exact.taxableSubtotal
    tax := by rw [tax, exact.taxableSubtotal]; rfl
    price := bounds
    priced := by rw [listed]; exact le_mul_of_one_le_right price quantity
    parts := by
      rw [net, listed]
      exact ⟨Int.mul_nonneg bounds.1 (by omega), Int.mul_le_mul_of_nonneg_right bounds.2 (by omega)⟩
    discount := exact.discount
    total := exact.total
    unitTax := by
      refine ⟨roundedBasisPoints_nonneg _ _ bounds.1 points, ?_⟩
      rw [roundedBasisPoints_floor, tax]
      exact basisPointsFloor_mono unit points }

end Lines

section Orders

-- The sums of a priced order, over the catalogue's rows for the request.
structure OrderRanges (views : Views) (input : CheckoutOrder) (now : Int) (order : PricedOrder) : Prop where
  exact : order.priced.Exact (sellableVariants (views .variants).config now (input.items.map (·.variantId)))
  lines : forall line, line ∈ order.priced.lines -> LineRanges line
  subtotal : order.priced.totals.subtotalMillimes = total listAmount (orderedLines views input now)
  discount : order.priced.totals.discountTotalMillimes =
    total listAmount (orderedLines views input now) - total netAmount (orderedLines views input now)
  tax : order.priced.totals.taxTotalMillimes = total taxAmount (orderedLines views input now)
  delivery : 0 <= order.fulfillment.deliveryTotalMillimes /\
    order.fulfillment.deliveryTotalMillimes = deliveryCharge views input now
  due : order.grandTotalMillimes = amountDue views input now

theorem total_lines {priced : Priced} {lines : List Requested}
    (found : priced.lines.map (fun line => (line.requested, line.variant)) = lines)
    {amount : Requested -> Int} {computed : PricedLine -> Int}
    (same : forall line, line ∈ priced.lines -> computed line = amount (line.requested, line.variant)) :
    (priced.lines.map computed).sum = total amount lines := by
  rw [total, <- found, List.map_map]
  exact congrArg List.sum (List.map_congr_left same)

theorem priceOrder_ranges {views : Views} {input : CheckoutOrder} {minimumAge now : Int} {order : PricedOrder}
    (ran : priceOrder views input minimumAge now = .ok order) : OrderRanges views input now order := by
  simp only [priceOrder, bind_ok, orFail_ok, addMillimes_ok, pure_ok] at ran
  obtain ⟨_, -, priced, pricing, _, -, _, -, _, ⟨-, -, rfl⟩, fulfillment, resolved, _, ⟨-, -, rfl⟩, _, -, rfl⟩ :=
    ran
  have exact := priceLines_exact pricing
  have found : priced.lines.map (fun line => (line.requested, line.variant)) = orderedLines views input now := by
    unfold orderedLines
    simpa [noLines] using priceLines_found pricing
  have ranges : forall line, line ∈ priced.lines -> LineRanges line :=
    fun line member => line_ranges (priceLines_calculated pricing line member)
  have lists := total_lines found fun line member => (ranges line member).list
  have nets := total_lines found fun line member => (ranges line member).net
  have taxes := total_lines found fun line member => (ranges line member).tax
  have weights : priced.totals.totalWeightGrams = total weight (orderedLines views input now) := by
    rw [priceLines_weight pricing]
    exact total_lines found fun _ _ => rfl
  have totals : (priced.lines.map fun line => line.calculation.totalMillimes).sum =
      total netAmount (orderedLines views input now) + total taxAmount (orderedLines views input now) := by
    rw [<- nets, <- taxes, <- List.sum_map_add]
    exact congrArg List.sum (List.map_congr_left fun line member => (ranges line member).total)
  have subtotal := exact.subtotal.trans lists
  have tax := exact.tax.trans taxes
  have discount : priced.totals.discountTotalMillimes =
      total listAmount (orderedLines views input now) - total netAmount (orderedLines views input now) := by
    have balanced := exact.line_totals
    omega
  have net : [priced.totals.subtotalMillimes, -priced.totals.discountTotalMillimes].sum =
      total netAmount (orderedLines views input now) := by
    simp only [List.sum_cons, List.sum_nil]
    omega
  have charge : fulfillment.deliveryTotalMillimes = deliveryCharge views input now := by
    rw [net, weights] at resolved
    unfold deliveryCharge
    rw [resolved]
  exact {
    exact
    lines := ranges
    subtotal
    discount
    tax
    delivery := ⟨fulfillment_fee_nonneg resolved, charge⟩
    due := by
      rw [net]
      simp only [List.sum_cons, List.sum_nil, amountDue]
      omega }

theorem each_below {lines : List PricedLine} {computed : PricedLine -> Int}
    (nonneg : forall line, line ∈ lines -> 0 <= computed line) {line : PricedLine} (member : line ∈ lines) :
    computed line <= (lines.map computed).sum := by
  refine List.single_le_sum (fun value there => ?_) _ (List.mem_map_of_mem member)
  obtain ⟨other, inside, rfl⟩ := List.mem_map.1 there
  exact nonneg other inside

theorem OrderRanges.net_bounds {views : Views} {input : CheckoutOrder} {now : Int} {order : PricedOrder}
    (ranges : OrderRanges views input now order) :
    0 <= order.priced.totals.discountTotalMillimes /\
      order.priced.totals.discountTotalMillimes <= order.priced.totals.subtotalMillimes := by
  have exact := ranges.exact
  rw [exact.discount, exact.subtotal]
  constructor
  next =>
    refine List.sum_nonneg fun amount member => ?_
    obtain ⟨line, known, rfl⟩ := List.mem_map.1 member
    have parts := (ranges.lines line known).parts
    have discount := (ranges.lines line known).discount
    omega
  next =>
    refine List.sum_le_sum fun line known => ?_
    have parts := (ranges.lines line known).parts
    have discount := (ranges.lines line known).discount
    omega

theorem OrderRanges.tax_nonneg {views : Views} {input : CheckoutOrder} {now : Int} {order : PricedOrder}
    (ranges : OrderRanges views input now order) : 0 <= order.priced.totals.taxTotalMillimes := by
  rw [ranges.exact.tax]
  refine List.sum_nonneg fun amount member => ?_
  obtain ⟨line, known, rfl⟩ := List.mem_map.1 member
  exact (ranges.exact.lines line known).1.tax

-- The amounts of the items stay within those of the order.
theorem item_ranges {views : Views} {input : CheckoutOrder} {now : Int} {order : PricedOrder} {ids : FreshIds}
    {items : List OrderItem} (ranges : OrderRanges views input now order) (itemized : order.priced.lines.mapM (orderItem ids) = .ok items)
    {item : OrderItem} (member : item ∈ items) {amount : Int} (inside : amount ∈ itemAmounts item) :
    0 <= amount /\ (amount <= order.priced.totals.subtotalMillimes \/
      amount <= order.priced.totals.subtotalMillimes - order.priced.totals.discountTotalMillimes +
        order.priced.totals.taxTotalMillimes) := by
  obtain ⟨line, known, made⟩ := mapM_ok_mem itemized member
  have exact := ranges.exact
  have line_exact := (exact.lines line known).1
  have range := ranges.lines line known
  have taxes : forall other, other ∈ order.priced.lines -> 0 <= other.calculation.taxMillimes :=
    fun other there => (exact.lines other there).1.tax
  have lists : line.calculation.listSubtotalMillimes <= order.priced.totals.subtotalMillimes := by
    rw [exact.subtotal]
    refine each_below (fun other there => ?_) known
    have parts := (ranges.lines other there).parts
    omega
  have totals : line.calculation.totalMillimes <= order.priced.totals.subtotalMillimes -
      order.priced.totals.discountTotalMillimes + order.priced.totals.taxTotalMillimes := by
    rw [<- exact.line_totals]
    refine each_below (fun other there => ?_) known
    have parts := (ranges.lines other there).parts
    have whole := (ranges.lines other there).total
    have tax := taxes other there
    omega
  have price := range.price
  have priced := range.priced
  have parts := range.parts
  have discount := range.discount
  have whole := range.total
  have tax := taxes line known
  have unitTax := range.unitTax
  simp only [orderItem, bind_ok, orFail_ok, addMillimes_ok, calculateBasisPoints_ok, pure_ok] at made
  obtain ⟨_, ⟨-, -, rfl⟩, _, ⟨-, -, -, rfl⟩, rfl⟩ := made
  simp only [itemAmounts, List.sum_cons, List.sum_nil, List.mem_cons, List.not_mem_nil, or_false] at inside
  rcases inside with rfl | rfl | rfl | rfl | rfl | rfl | rfl
  all_goals omega

end Orders

section Collecting

theorem avoids_bind {A B : Type} {first : Except Failure A} {next : A -> Except Failure B}
    (before : Not (InvalidAmount first)) (after : forall value, first = .ok value -> Not (InvalidAmount (next value))) :
    Not (InvalidAmount (first >>= next)) := by
  cases ran : first with
  | error failure =>
    rw [ran] at before
    simpa [InvalidAmount, bind, Except.bind] using before
  | ok value => exact after value ran

def OtherFailure (failure : Failure) : Prop :=
  failure ≠ badRequest "COLLECTED_AMOUNT_INVALID" /\ failure ≠ rangeFailure

instance (failure : Failure) : Decidable (OtherFailure failure) :=
  inferInstanceAs (Decidable (_ /\ _))

theorem avoids_throwIf {bad : Prop} [Decidable bad] {failure : Failure} (other : OtherFailure failure) :
    Not (InvalidAmount (throwIf bad failure)) := by
  rintro (same | same)
  next => exact other.1 ((throwIf_error _ _ _).1 same).2
  next => exact other.2 ((throwIf_error _ _ _).1 same).2

theorem avoids_orThrow {A : Type} {found : Option A} {failure : Failure} (other : OtherFailure failure) :
    Not (InvalidAmount (orThrow found failure)) := by
  cases found with
  | none => simpa [InvalidAmount, orThrow, OtherFailure] using other
  | some value => simp [InvalidAmount, orThrow]

theorem avoids_ok {A : Type} (value : A) : Not (InvalidAmount (.ok value : Except Failure A)) := by
  simp [InvalidAmount]

theorem avoids_updateOne {K R : Type} {key : R -> K} {table : Table key} {chosen : R -> Bool} {change : R -> R}
    {keeps : forall row, key (change row) = key row} {failure : Failure} (other : OtherFailure failure) :
    Not (InvalidAmount (updateOne table chosen change keeps failure)) :=
  avoids_bind (avoids_throwIf other) fun _ _ => avoids_ok _

theorem assertCollectable_avoids {operation : CollectionOperation} {delivery : Delivery} {input : RecordRequest}
    (positive : 0 < input.collectedMillimes) :
    Not (InvalidAmount (assertCollectable operation delivery input)) := by
  refine avoids_bind (avoids_throwIf (by decide)) fun _ _ => ?_
  refine avoids_bind (avoids_throwIf (by decide)) fun _ _ => ?_
  refine avoids_bind (avoids_throwIf (by decide)) fun _ _ => ?_
  refine avoids_bind (avoids_throwIf (by decide)) fun _ _ => ?_
  rw [throwIf_passes (by omega)]
  exact avoids_ok ()

theorem cashDifference_avoids {expected actual : Int} (expecteds : 0 <= expected /\ expected <= maxMillimes)
    (actuals : 0 <= actual /\ actual <= maxMillimes) : Not (InvalidAmount (cashDifference expected actual)) := by
  have taken : cashDifference expected actual = .ok (actual - expected) :=
    (orFail_ok _ _ _).2 ((Money.Cash.cashDifference_ok _ _ _).2 ⟨expecteds, actuals, rfl⟩)
  rw [taken]
  exact avoids_ok _

theorem openRecorded_avoids {discrepancies : Table CashDiscrepancy.id} {row : CashDiscrepancy} :
    Not (InvalidAmount (openRecorded discrepancies row)) := by
  unfold openRecorded
  split
  next =>
    refine avoids_bind (avoids_throwIf (by decide)) fun _ _ => ?_
    exact avoids_orThrow (by decide)
  next => exact avoids_ok _

theorem collectable_of_range {expectedMillimes : Int} (positive : 0 < expectedMillimes)
    (bounded : expectedMillimes <= maxMillimes) : Collectable expectedMillimes := by
  intro view id input key discrepancyId actorUserId operation locked expected collected
  have range : 0 <= expectedMillimes /\ expectedMillimes <= maxMillimes := ⟨by omega, bounded⟩
  unfold recordCollection
  refine avoids_bind (avoids_orThrow (by decide)) fun _ _ => ?_
  rw [ok_of_bind locked]
  dsimp only
  split
  next => exact avoids_ok _
  next =>
    refine avoids_bind (avoids_throwIf (by decide)) fun _ _ => ?_
    refine avoids_bind (avoids_throwIf (by decide)) fun _ _ => ?_
    refine avoids_bind (avoids_orThrow (by decide)) fun delivery _ => ?_
    refine avoids_bind (avoids_throwIf (by decide)) fun _ _ => ?_
    refine avoids_bind (assertCollectable_avoids (by omega)) fun _ _ => ?_
    refine avoids_bind (cashDifference_avoids (expected ▸ range) (collected ▸ range)) fun difference _ => ?_
    refine avoids_bind (avoids_throwIf (by decide)) fun _ _ => ?_
    refine avoids_bind ?_ fun _ _ => ?_
    next =>
      unfold requireWhen
      split
      next => exact avoids_throwIf (by decide)
      next => exact avoids_ok ()
    refine avoids_bind (avoids_throwIf (by decide)) fun _ _ => ?_
    refine avoids_bind (avoids_throwIf (by decide)) fun _ _ => ?_
    refine avoids_bind (avoids_updateOne (by decide)) fun _ _ => ?_
    refine avoids_bind (avoids_updateOne (by decide)) fun _ _ => ?_
    refine avoids_bind (avoids_updateOne (by decide)) fun _ _ => ?_
    exact avoids_bind openRecorded_avoids fun _ _ => avoids_ok _

-- A delivery whose cash is due, whatever its amount.
def dueOrder (expectedMillimes : Int) : Schema.Order where
  id := 1
  orderNumber := 1
  customerId := 7
  cartId := 1
  status := .readyForPickup
  paymentStatus := .cashExpected
  subtotalMillimes := expectedMillimes
  discountTotalMillimes := 0
  deliveryTotalMillimes := 0
  taxTotalMillimes := 0
  grandTotalMillimes := expectedMillimes
  expectedCodMillimes := expectedMillimes
  deliveryMethodType := .storePickup
  deliveryZoneId := none
  deliveryRateId := none
  pickupLocationId := some 1
  minimumAgeSnapshot := 18
  ageVerificationAtDeliveryRequired := false
  phoneConfirmationRequired := false
  manualReviewRequired := false
  version := 1
  createdAt := 0
  items := []

def dueDelivery : Delivery where
  id := 1
  orderId := 1
  courierId := none
  status := .readyForPickup
  trackingNumber := none
  courierFeeMillimes := none
  nextAttemptAt := none
  ageVerificationRequired := false
  ageVerificationResult := .notRequired
  cashCollectedResult := none
  version := 1

def dueCollection (expectedMillimes : Int) : CashCollection where
  id := 1
  orderId := 1
  deliveryId := some 1
  courierId := none
  status := .expected
  expectedMillimes := expectedMillimes
  collectedMillimes := 0
  collectedByUserId := none
  recordIdempotencyKeyHash := none
  recordRequestHash := none

def dueView (expectedMillimes : Int) : View :=
  View.latest { Db.empty System.Sample.shop none with
    orders := { rows := [dueOrder expectedMillimes], distinct := by simp }
    deliveries := { rows := [dueDelivery], distinct := by simp }
    collections := { rows := [dueCollection expectedMillimes], distinct := by simp } }

def dueOperation (expectedMillimes : Int) : CollectionOperation where
  collection := dueCollection expectedMillimes
  order := dueOrder expectedMillimes
  delivery := some dueDelivery

def exactly (expectedMillimes : Int) : RecordRequest where
  collectedMillimes := expectedMillimes
  expectedDeliveryVersion := 1
  expectedOrderVersion := 1
  reasonCode := none
  reasonDetail := none

theorem dueView_locked (expectedMillimes : Int) :
    lockCollection (dueView expectedMillimes).snapshot 1 = .ok (dueOperation expectedMillimes) := rfl

theorem dueView_refused {expectedMillimes : Int} (low : expectedMillimes <= 0) :
    recordCollection (dueView expectedMillimes) 1 (exactly expectedMillimes) (some (List.replicate 16 'c')) 1 9 =
      .error (badRequest "COLLECTED_AMOUNT_INVALID") := by
  have key : requireIdempotencyKey (some (List.replicate 16 'c')) = .ok (List.replicate 16 'c') := by decide
  have refused : assertCollectable (dueOperation expectedMillimes) dueDelivery (exactly expectedMillimes) =
      .error (badRequest "COLLECTED_AMOUNT_INVALID") := by
    simp [assertCollectable, dueOperation, dueCollection, dueOrder, dueDelivery, exactly, collectableStatus,
      Orders.Admin.uncollected, low]
  unfold recordCollection
  rw [ok_of_bind key, ok_of_bind (dueView_locked expectedMillimes)]
  have unkeyed : (dueOperation expectedMillimes).collection.recordIdempotencyKeyHash = none := rfl
  dsimp only
  rw [if_neg (by rw [unkeyed]; simp), ok_of_bind (throwIf_passes (by rw [unkeyed]; simp) _),
    ok_of_bind (throwIf_passes (by simp [dueOperation, dueOrder, exactly]) _),
    ok_of_bind (rfl : orThrow (dueOperation expectedMillimes).delivery versionConflict = .ok dueDelivery),
    ok_of_bind (throwIf_passes (by simp [dueDelivery, exactly]) _), refused]
  rfl

theorem collectable_iff {expectedMillimes : Int} (range : expectedMillimes <= maxMillimes) :
    Collectable expectedMillimes <-> 0 < expectedMillimes := by
  constructor
  next =>
    intro collectable
    by_contra low
    exact collectable (dueView expectedMillimes) 1 (exactly expectedMillimes) _ 1 9 _
      (dueView_locked expectedMillimes) rfl rfl (.inl (dueView_refused (by omega)))
  next => exact fun positive => collectable_of_range positive range

end Collecting

/--
Everything that an order stores fits its column, and what it expects is collected without an
invalid amount, if and only if the list prices of its lines add up to no more than a column
holds and what is due is positive and within the cash module's limit.
-/
theorem amounts_ranged_exactly {views : Views} {call : CheckoutCall}
    {claim : OrderIdempotencyKey CheckoutOrder} {now : Int} {placement : Placement}
    (ran : preparePlacement views call claim now = .ok placement) :
    Ranged placement <-> Affordable views call.input now := by
  obtain ⟨-, ⟨prepared⟩⟩ := preparePlacement_ok ran
  have ranges := priceOrder_ranges prepared.priced
  have subtotal := ranges.subtotal
  have discount := ranges.discount
  have tax := ranges.tax
  have delivery := ranges.delivery
  have due := ranges.due
  have expected : placement.collection.expectedMillimes = prepared.order.grandTotalMillimes := by
    rw [prepared.collectionRow]
    rfl
  constructor
  next =>
    intro ranged
    have listed := ranged.stored placement.order.subtotalMillimes (by simp [storedAmounts, orderAmounts])
    have positive := (collectable_iff ranged.accepted.2).1 ranged.collected
    have bounded := ranged.accepted.2
    rw [prepared.orderRow] at listed
    simp only [newOrder] at listed
    exact ⟨by omega, by omega, by omega⟩
  next =>
    intro affordable
    have listed := affordable.listed
    have payable := affordable.due
    have accepted : 0 < prepared.order.grandTotalMillimes /\
        prepared.order.grandTotalMillimes <= maxMillimes := by
      rw [due]
      exact payable
    have small : maxMillimes <= databaseIntMax := by decide
    have summed : amountDue views call.input now = total netAmount (orderedLines views call.input now) +
        total taxAmount (orderedLines views call.input now) + deliveryCharge views call.input now := rfl
    refine ⟨fun amount member => ?_, by omega, (collectable_iff (by omega)).2 (by omega)⟩
    have nets := ranges.net_bounds
    have taxes := ranges.tax_nonneg
    simp only [storedAmounts, List.mem_append] at member
    rcases member with (ordered | itemized) | collected
    next =>
      rw [prepared.orderRow] at ordered
      simp only [orderAmounts, newOrder, List.mem_cons, List.not_mem_nil, or_false] at ordered
      rcases ordered with rfl | rfl | rfl | rfl | rfl | rfl
      all_goals omega
    next =>
      rw [prepared.orderRow] at itemized
      obtain ⟨item, there, inside⟩ := List.mem_flatMap.1 itemized
      have bounds := item_ranges ranges prepared.itemized there inside
      omega
    next =>
      rw [prepared.collectionRow] at collected
      simp only [newCollection, List.mem_cons, List.not_mem_nil, or_false] at collected
      rcases collected with rfl | rfl
      all_goals omega

section Sample

open VapeCommerce.System.Sample

def claim : OrderIdempotencyKey CheckoutOrder where
  keyHash := scopedIdempotencyKeyHash 7 (List.replicate 16 'k')
  audienceScope := 7
  requestHash := checkoutRequestFingerprint input
  id := 1
  orderId := none
  completedAt := none

theorem two_pods_ranged :
    exists placement, preparePlacement (fun _ => (after stocked).db) call claim 3 = .ok placement /\
      Ranged placement := by
  have succeeds : (succeeded (preparePlacement (fun _ => (after stocked).db) call claim 3)).isSome = true := by
    decide +kernel
  obtain ⟨placement, found⟩ := Option.isSome_iff_exists.1 succeeds
  have ran := (succeeded_some _ placement).1 found
  refine ⟨placement, ran, (amounts_ranged_exactly ran).2 ⟨?_, ?_⟩⟩
  all_goals decide +kernel

-- One device dearer than the cash module's limit, which the catalogue takes.
def luxuryShop : Config.Configuration :=
  { shop with
    variants := [{
      id := 1
      productId := 1
      published := true
      archivedAt := none
      deletedAt := none
      priceMillimes := 2100000000
      promotionalPriceMillimes := none
      taxRateBps := 0
      weightGrams := 100
      images := [] }]
    variantIds := by decide }

def luxuryInput : CheckoutOrder :=
  { input with
    items := [{ variantId := 1, quantity := 1, bounds := by decide }]
    localityId := none
    pickupLocationId := some 1
    sized := by decide }

def luxuryCarts : Table Cart.id where
  rows := [{ id := 1, customerId := 7, status := .active, version := 1, updatedAt := 0
             expiresAt := none, items := [{ variantId := 1, quantity := 1 }] }]
  distinct := by decide

def luxuryDb : Db :=
  (Runs.run System.step (System.opening luxuryShop (some 0) 0)
    (timed [.replaceCarts luxuryCarts, .receiveBatch receipt ['k'] 9])).db

theorem luxury_order_not_collectable :
    exists placement, preparePlacement (fun _ => luxuryDb) { call with input := luxuryInput } claim 3 =
        .ok placement /\
      placement.collection.expectedMillimes = 2100000000 /\ Not (Ranged placement) := by
  have succeeds : (succeeded (preparePlacement (fun _ => luxuryDb) { call with input := luxuryInput } claim 3)).any
      (fun placement => placement.collection.expectedMillimes == 2100000000) = true := by
    decide +kernel
  obtain ⟨placement, found, expected⟩ := (Option.any_eq_true _ _).1 succeeds
  have amount : placement.collection.expectedMillimes = 2100000000 := by simpa using expected
  refine ⟨placement, (succeeded_some _ placement).1 found, amount, fun ranged => ?_⟩
  have bounded := ranged.accepted.2
  rw [amount] at bounded
  exact absurd bounded (by decide)

end Sample

end VapeCommerce.Cash.AmountRanges
