import VapeCommerce.Checkout.Stock
import VapeCommerce.Lib.Doubles
import VapeCommerce.Lib.Refusals
import VapeCommerce.System

set_option autoImplicit false

-- cart-policy.ts and cart.service.ts, with the availability a product page shows: the cart against the
-- quote of its items.
namespace VapeCommerce.Storefront.Cart

open VapeCommerce.Lib VapeCommerce.Lib.Outcome VapeCommerce.Lib.Refusals VapeCommerce.Schema
open VapeCommerce.Config VapeCommerce.Database VapeCommerce.Money VapeCommerce.Checkout.Catalogue
open VapeCommerce.Checkout.Fulfillment VapeCommerce.Checkout.Lines VapeCommerce.Checkout.Quote
open VapeCommerce.Checkout.Pricing VapeCommerce.Checkout.Stock
open VapeCommerce.Checkout.Order (addReserved inventoryInvariantBreach)

section Cart

structure CartUnitPrice where
  listPriceMillimes : Int
  promotionalPriceMillimes : Option Int
  unitPriceMillimes : Int
deriving DecidableEq, Repr

def effectiveCartUnitPrice (listPriceMillimes : Int) (promotionalPriceMillimes : Option Int) :
    Except Failure CartUnitPrice := do
  throwIf (Not (isSafeInteger listPriceMillimes) \/ listPriceMillimes < 0) (unavailable "CATALOG_PRICE_INVALID")
  let promotion := promotionalPriceMillimes.filter fun price =>
    isSafeInteger price && 0 <= price && price <= listPriceMillimes
  return {
    listPriceMillimes
    promotionalPriceMillimes := promotion
    unitPriceMillimes := promotion.getD listPriceMillimes }

variable (db : Db) (now : Int)

-- The checks on a bucket's reservations are those of the order's allocation.
def addBucket (total : Int) (item : InventoryItem) : Except Failure Int := do
  throwIf (Not (isSafeInteger item.onHandQuantity) \/ item.onHandQuantity < 0) inventoryInvariantBreach
  let reserved <- (activeReservations db now item.id).foldlM addReserved 0
  throwIf (reserved > item.onHandQuantity) inventoryInvariantBreach
  let next := total + item.onHandQuantity - reserved
  throwIf (Not (isSafeInteger next)) inventoryInvariantBreach
  return next

def availableCartQuantity (inventory : List InventoryItem) : Except Failure Int :=
  inventory.foldlM (addBucket db now) 0

def inventoryItems (variantId : Id) : List InventoryItem :=
  (eligibleItems db now variantId).insertionSort fun left right => left.id <= right.id

structure CartLine where
  variantId : Id
  quantity : Int
  unitPriceMillimes : Int
  lineTotalMillimes : Int
  priceMillimes : Int
  promotionalPriceMillimes : Option Int
  availableQuantity : Int
deriving DecidableEq, Repr

structure CartResponse where
  id : Id
  items : List CartLine
  itemCount : Int
  subtotalMillimes : Int
deriving DecidableEq, Repr

def serializeItem (entry : CartItem × ProductVariant) : Except Failure CartLine := do
  let (item, variant) := entry
  let availability <- availableCartQuantity db now (inventoryItems db now variant.id)
  let price <- effectiveCartUnitPrice variant.priceMillimes variant.promotionalPriceMillimes
  let lineTotalMillimes <- orFail (multiplyMillimes price.unitPriceMillimes item.quantity) rangeFailure
  return {
    variantId := variant.id
    quantity := item.quantity
    unitPriceMillimes := price.unitPriceMillimes
    lineTotalMillimes
    priceMillimes := price.listPriceMillimes
    promotionalPriceMillimes := price.promotionalPriceMillimes
    availableQuantity := availability }

def publicVariantWhere (variant : ProductVariant) : Bool :=
  (sellableProduct? db.config now variant).isSome

-- An item is selected with its variant where the variant is public.
def cartItem? (item : CartItem) : Option (CartItem × ProductVariant) :=
  ((db.config.variants.find? fun variant => variant.id == item.variantId).filter (publicVariantWhere db now)).map
    fun variant => (item, variant)

def serializeCart (cart : Schema.Cart) : Except Failure CartResponse := do
  let items <- (cart.items.filterMap (cartItem? db now)).mapM (serializeItem db now)
  let subtotalMillimes <- orFail (addMillimes (items.map (·.lineTotalMillimes))) rangeFailure
  return {
    id := cart.id
    items
    itemCount := (items.map (·.quantity)).sum
    subtotalMillimes }

def cartWhere (userId : Id) (cart : Schema.Cart) : Bool :=
  cart.status == .active && cart.expiresAt.all (fun expiry => expiry > now) &&
    db.config.customers.any fun customer =>
      customer.profileId == cart.customerId && customer.id == userId && customer.suspendedAt.isNone && customer.active

def response (userId cartId : Id) : Except Failure CartResponse := do
  let cart <- orThrow ((db.carts.find? cartId).filter (cartWhere db now userId))
    (forbidden "CUSTOMER_ACCOUNT_UNAVAILABLE")
  serializeCart db now cart

end Cart

section Page

variable (db : Db) (now : Int)

-- What `advisoryAvailableQuantity` of a quote's line is.
def advisoryAvailableQuantity (line : QuotedLine) : Int :=
  availableQuantity db now line.variantId

-- The inventory a product page selects: that of checkout, whatever is on hand.
def pageInventoryWhere (item : InventoryItem) : Bool :=
  db.config.inventoryLocations.any (fun location =>
      location.id == item.locationId && location.active && location.fulfillsOrders) &&
    eligibleBatch db now item

def pageItems (variantId : Id) : List InventoryItem :=
  db.items.filter fun item => item.variantId == variantId && pageInventoryWhere db now item

def pageAvailableQuantity (variantId : Id) : Int :=
  ((pageItems db now variantId).map fun item =>
    max 0 (item.onHandQuantity - reservedQuantity db now item.id)).sum

-- No bucket of the page without stock has active reservations that sum below what is on hand.
def Drained (variantId : Id) : Prop :=
  forall item, item ∈ pageItems db now variantId -> item.onHandQuantity <= 0 ->
    item.onHandQuantity <= reservedQuantity db now item.id

end Page

section Availability

variable {db : Db} {now : Int}

theorem addBucket_ok {total next : Int} {item : InventoryItem} (ran : addBucket db now total item = .ok next) :
    next = total + max 0 (item.onHandQuantity - reservedQuantity db now item.id) := by
  simp only [addBucket, bind_ok, throwIf_ok, pure_ok] at ran
  obtain ⟨⟨⟩, -, reserved, added, ⟨⟩, covered, ⟨⟩, -, rfl⟩ := ran
  have summed := addReserved_total added
  have same : reserved = reservedQuantity db now item.id := by
    rw [summed, reservedQuantity]
    omega
  subst same
  omega

theorem addBuckets {inventory : List InventoryItem} {start total : Int}
    (ran : inventory.foldlM (addBucket db now) start = .ok total) :
    total = start + (inventory.map fun item =>
      max 0 (item.onHandQuantity - reservedQuantity db now item.id)).sum := by
  induction inventory generalizing start with
  | nil =>
    simp only [List.foldlM_nil, pure_ok] at ran
    simp [ran]
  | cons item rest ih =>
    simp only [List.foldlM_cons, bind_ok] at ran
    obtain ⟨next, first, later⟩ := ran
    rw [ih later, addBucket_ok first, List.map_cons, List.sum_cons]
    omega

/-- What the cart shows as available is what the quote counts. -/
theorem availableCartQuantity_ok {variantId : Id} {total : Int}
    (ran : availableCartQuantity db now (inventoryItems db now variantId) = .ok total) :
    total = availableQuantity db now variantId := by
  have sorted := List.perm_insertionSort (fun left right : InventoryItem => left.id <= right.id)
    (eligibleItems db now variantId)
  rw [addBuckets ran, inventoryItems, (sorted.map _).sum_eq, Int.zero_add]
  rfl

theorem eligible_split (item : InventoryItem) : eligibleOrderInventoryWhere db now item =
    (decide (item.onHandQuantity > 0) && pageInventoryWhere db now item) := by
  rw [eligibleOrderInventoryWhere, pageInventoryWhere, Bool.and_assoc]

-- The page counts beyond the quote what its buckets without stock come to.
theorem page_sum (variantId : Id) : pageAvailableQuantity db now variantId = availableQuantity db now variantId +
    (((pageItems db now variantId).filter fun item => item.onHandQuantity <= 0).map fun item =>
      max 0 (item.onHandQuantity - reservedQuantity db now item.id)).sum := by
  have stocked : (pageItems db now variantId).filter (fun item => !decide (item.onHandQuantity <= 0)) =
      eligibleItems db now variantId := by
    rw [pageItems, eligibleItems, Table.filter, Table.filter, List.filter_filter]
    refine List.filter_congr fun item _ => ?_
    have positive : (!decide (item.onHandQuantity <= 0)) = decide (item.onHandQuantity > 0) := by
      rw [<- decide_not]
      exact decide_eq_decide.2 Int.not_le
    rw [positive, eligible_split, Bool.and_left_comm]
  have split := (List.filter_append_perm (fun item : InventoryItem => decide (item.onHandQuantity <= 0))
    (pageItems db now variantId)).map fun item => max 0 (item.onHandQuantity - reservedQuantity db now item.id)
  rw [stocked, List.map_append] at split
  have sums := split.sum_eq
  rw [List.sum_append] at sums
  rw [pageAvailableQuantity, <- sums, availableQuantity, Int.add_comm]

theorem sum_max_zero {A : Type} (amount : A -> Int) (items : List A) :
    (items.map fun item => max 0 (amount item)).sum = 0 <-> forall item, item ∈ items -> amount item <= 0 := by
  induction items with
  | nil => simp
  | cons item rest ih =>
    have least : 0 <= (rest.map fun item => max 0 (amount item)).sum :=
      List.sum_nonneg fun value here => by
        obtain ⟨other, -, rfl⟩ := List.mem_map.1 here
        exact le_max_left 0 _
    rw [List.map_cons, List.sum_cons, List.forall_mem_cons, <- ih]
    omega

/-- The page shows the quote's quantity exactly where its buckets without stock come to nothing. -/
theorem page_iff (variantId : Id) :
    availableQuantity db now variantId = pageAvailableQuantity db now variantId <-> Drained db now variantId := by
  have zero := sum_max_zero (fun item : InventoryItem => item.onHandQuantity - reservedQuantity db now item.id)
    ((pageItems db now variantId).filter fun item => item.onHandQuantity <= 0)
  have split := @page_sum db now variantId
  simp only [List.mem_filter, decide_eq_true_eq, and_imp] at zero
  rw [split]
  constructor
  next =>
    intro same item here empty
    have none := zero.1 (by omega) item here empty
    omega
  next =>
    intro drained
    have none := zero.2 fun item here empty => by
      have covered := drained item here empty
      omega
    omega

end Availability

section Lines

variable {db : Db} {now : Int}

def cartUnitPrice (variant : ProductVariant) : Int :=
  (variant.promotionalPriceMillimes.filter fun price =>
    isSafeInteger price && 0 <= price && price <= variant.priceMillimes).getD variant.priceMillimes

def variant? (config : Configuration) (variantId : Id) : Option ProductVariant :=
  config.variants.find? fun variant => variant.id == variantId

def unitPriceOf (config : Configuration) (variantId : Id) : Int :=
  ((variant? config variantId).map cartUnitPrice).getD 0

theorem variant?_of_mem {config : Configuration} {variant : ProductVariant} (here : variant ∈ config.variants) :
    variant? config variant.id = some variant := by
  cases found : variant? config variant.id with
  | none => simpa using List.find?_eq_none.1 found variant here
  | some other =>
    have same : other.id = variant.id := by simpa using List.find?_some found
    exact congrArg some (List.inj_on_of_nodup_map config.variantIds (List.mem_of_find?_eq_some found) here same)

-- What a line of the cart shows, read off the database.
structure Shows (db : Db) (now : Int) (line : CartLine) : Prop where
  offered : exists variant, variant? db.config line.variantId = some variant /\ publicVariantWhere db now variant = true
  unitPrice : line.unitPriceMillimes = unitPriceOf db.config line.variantId
  lineTotal : line.lineTotalMillimes = line.unitPriceMillimes * line.quantity
  available : line.availableQuantity = availableQuantity db now line.variantId

theorem effectiveCartUnitPrice_ok {variant : ProductVariant} {price : CartUnitPrice}
    (ran : effectiveCartUnitPrice variant.priceMillimes variant.promotionalPriceMillimes = .ok price) :
    price.unitPriceMillimes = cartUnitPrice variant := by
  simp only [effectiveCartUnitPrice, bind_ok, throwIf_ok, pure_ok] at ran
  obtain ⟨_, -, rfl⟩ := ran
  rfl

theorem serializeItem_ok {item : CartItem} {entry : CartItem × ProductVariant} {line : CartLine}
    (selected : cartItem? db now item = some entry) (ran : serializeItem db now entry = .ok line) :
    Shows db now line := by
  obtain ⟨variant, found, rfl⟩ := Option.map_eq_some_iff.1 selected
  obtain ⟨found, shown⟩ := Option.filter_eq_some_iff.1 found
  simp only [serializeItem, bind_ok, orFail_ok, multiplyMillimes_ok, pure_ok] at ran
  obtain ⟨availability, counted, price, priced, total, ⟨-, -, -, rfl⟩, rfl⟩ := ran
  have known := variant?_of_mem (List.mem_of_find?_eq_some found)
  exact {
    offered := ⟨variant, known, shown⟩
    unitPrice := by rw [unitPriceOf, known]; exact effectiveCartUnitPrice_ok priced
    lineTotal := rfl
    available := availableCartQuantity_ok counted }

theorem serializeCart_ok {cart : Schema.Cart} {shown : CartResponse} (ran : serializeCart db now cart = .ok shown) :
    (forall line, line ∈ shown.items -> Shows db now line) /\
      shown.subtotalMillimes = (shown.items.map (·.lineTotalMillimes)).sum := by
  simp only [serializeCart, bind_ok, orFail_ok, addMillimes_ok, pure_ok] at ran
  obtain ⟨items, made, total, ⟨-, -, rfl⟩, rfl⟩ := ran
  refine ⟨fun line here => ?_, rfl⟩
  obtain ⟨entry, present, serialized⟩ := mapM_ok_mem made here
  obtain ⟨item, -, selected⟩ := List.mem_filterMap.1 present
  exact serializeItem_ok selected serialized

theorem response_ok {userId cartId : Id} {shown : CartResponse} (ran : response db now userId cartId = .ok shown) :
    (forall line, line ∈ shown.items -> Shows db now line) /\
      shown.subtotalMillimes = (shown.items.map (·.lineTotalMillimes)).sum := by
  simp only [response, bind_ok] at ran
  obtain ⟨cart, -, serialized⟩ := ran
  exact serializeCart_ok serialized

-- The variants and quantities of a cart's lines, as a quote asks for them.
def Asks (input : CheckoutQuote) (shown : CartResponse) : Prop :=
  input.items.map (fun item => (item.variantId, item.quantity)) =
    shown.items.map fun line => (line.variantId, line.quantity)

end Lines

section Quoted

variable {db : Db} {now : Int}

-- A price the quote accepts is the one the cart shows.
theorem calculated_unit {requested : CheckoutItem} {variant : ProductVariant} {calculation : QuoteLineCalculation}
    (calculated : calculateQuoteLine (quoteLineInput requested variant) = .ok calculation) :
    calculation.effectiveUnitPriceMillimes = cartUnitPrice variant /\
      calculation.taxableSubtotalMillimes = cartUnitPrice variant * requested.quantity := by
  have exact := calculateQuoteLine_exact calculated
  simp only [calculateQuoteLine, bind_ok, throwIf_ok, multiplyMillimes_ok, pure_ok, exists_const] at calculated
  obtain ⟨accepted, _, ⟨safe, -, -, -⟩, _, -, _, -, _, -, _, -, rfl⟩ := calculated
  have unit : (quoteLineInput requested variant).effectiveUnitPriceMillimes = cartUnitPrice variant := by
    rw [QuoteLineInput.effectiveUnitPriceMillimes, cartUnitPrice]
    cases promotional : variant.promotionalPriceMillimes with
    | none => simp [quoteLineInput, promotional]
    | some price =>
      simp only [quoteLineInput, promotional, Option.any_some, Bool.or_eq_true, decide_eq_true_eq, not_or,
        Int.not_lt] at accepted safe
      have kept : isSafeInteger price /\ 0 <= price /\ price <= variant.priceMillimes := by
        unfold isSafeInteger at safe ⊢
        omega
      simp [quoteLineInput, promotional, Option.filter, kept]
  exact ⟨unit, by rw [exact.taxableSubtotal, unit]; rfl⟩

structure PricedAs (config : Configuration) (line : PricedLine) : Prop where
  same : line.variant.id = line.requested.variantId
  unitPrice : line.calculation.effectiveUnitPriceMillimes = unitPriceOf config line.requested.variantId
  taxable : line.calculation.taxableSubtotalMillimes =
    unitPriceOf config line.requested.variantId * line.requested.quantity
  discount : line.calculation.listSubtotalMillimes - line.calculation.discountMillimes =
    line.calculation.taxableSubtotalMillimes

theorem sellable_known {config : Configuration} {variantIds : List Id} {variant : ProductVariant} {product : Product}
    (here : (variant, product) ∈ sellableVariants config now variantIds) : variant ∈ config.variants := by
  obtain ⟨other, present, found⟩ := List.mem_filterMap.1 here
  split at found
  next =>
    obtain ⟨_, -, same⟩ := Option.map_eq_some_iff.1 found
    have equal : other = variant := congrArg Prod.fst same
    exact equal ▸ present
  next => cases found

theorem priceLines_as {check : LineCheck} {variantIds : List Id} {items : List CheckoutItem} {priced : Priced}
    (ran : priceLines check (sellableVariants db.config now variantIds) items = .ok priced) :
    forall line, line ∈ priced.lines -> PricedAs db.config line := by
  refine foldlM_keeps (fun priced : Priced => forall line, line ∈ priced.lines -> PricedAs db.config line) _ items
    (fun state item next _ known step => ?_) noLines priced (by simp [noLines]) ran
  obtain ⟨variant, product, calculation, found, -, calculated, -, lines⟩ := priceLine_ok step
  intro line here
  rw [lines, List.mem_append, List.mem_singleton] at here
  rcases here with earlier | rfl
  next => exact known line earlier
  next =>
    have same : variant.id = item.variantId := by simpa using List.find?_some found
    have price : unitPriceOf db.config item.variantId = cartUnitPrice variant := by
      rw [unitPriceOf, <- same, variant?_of_mem (sellable_known (List.mem_of_find?_eq_some found))]
      rfl
    obtain ⟨unit, taxable⟩ := calculated_unit calculated
    have discounted := (calculateQuoteLine_exact calculated).discount
    have left : calculation.listSubtotalMillimes - calculation.discountMillimes =
        calculation.taxableSubtotalMillimes := by omega
    exact {
      same
      unitPrice := unit.trans price.symm
      taxable := by rw [price]; exact taxable
      discount := left }

end Quoted

section Refused

variable {db : Db} {now : Int}

-- A selected product is no longer public, or has too little stock.
def Unsold (failure : Failure) : Prop :=
  failure = conflict "PRODUCT_UNAVAILABLE" \/ failure = conflict "OUT_OF_STOCK"

theorem orFail_avoids {A : Type} {calculation : Except RangeError A} {failure : Failure} (fine : Not (Unsold failure)) :
    Avoids Unsold (orFail calculation failure) := by
  cases calculation with
  | ok value => exact avoids_ok value
  | error _ => exact avoids_error fine

theorem resolved_avoids {A : Type} (selection : Except RateResolutionError A) : Avoids Unsold (resolved selection) := by
  cases selection with
  | ok value => exact avoids_ok value
  | error error => cases error <;> exact avoids_error (by simp [Unsold, rateFailure, deliveryConfigurationError, conflict, unavailable])

theorem rangeFailure_fine : Not (Unsold rangeFailure) := by
  simp [Unsold, rangeFailure, conflict]

theorem selectZone_avoids (config : Configuration) (locality : Locality) : Avoids Unsold (selectZone config locality) := by
  unfold selectZone
  split
  next => exact avoids_error (by simp [Unsold, conflict])
  next => exact avoids_ok _
  next =>
    split
    next => exact avoids_error (by simp [Unsold, deliveryConfigurationError, conflict, unavailable])
    next => exact avoids_ok _

theorem selectRates_avoids (rates : List DeliveryRate) (context : RateContext) :
    Avoids Unsold (selectRates rates context) := by
  unfold selectRates
  refine avoids_bind (resolved_avoids _) fun base _ => ?_
  refine avoids_bind (avoids_mapM _ fun type => resolved_avoids _) fun surcharges _ => ?_
  exact avoids_bind (avoids_throwIf fun _ => by simp [Unsold, conflict]) fun _ _ => avoids_pure _

theorem courier_avoids (rejects : Bool) (config rateConfig : Configuration) (localityId : Id)
    (orderMillimes weightGrams : Int) (express : Bool) :
    Avoids Unsold (courier rejects config rateConfig localityId orderMillimes weightGrams express now) := by
  unfold courier
  refine avoids_bind (avoids_orThrow fun _ => by simp [Unsold, conflict]) fun place _ => ?_
  refine avoids_bind (selectZone_avoids _ _) fun zone _ => ?_
  refine avoids_bind (avoids_throwIf fun _ => by simp [Unsold, conflict]) fun _ _ => ?_
  refine avoids_bind (selectRates_avoids _ _) fun rates _ => ?_
  refine avoids_bind (avoids_throwIf fun _ => by simp [Unsold, deliveryConfigurationError, conflict, unavailable])
    fun _ _ => ?_
  exact avoids_bind (orFail_avoids rangeFailure_fine) fun fees _ => avoids_pure _

theorem quoteFulfillment_avoids (config : Configuration) (input : CheckoutQuote) (orderMillimes weightGrams : Int) :
    Avoids Unsold (quoteFulfillment config input orderMillimes weightGrams now) := by
  unfold quoteFulfillment
  split
  next =>
    refine avoids_bind (avoids_orThrow fun _ => by simp [Unsold, conflict]) fun location _ => ?_
    exact avoids_bind (avoids_throwIf fun _ => by simp [Unsold, conflict]) fun _ _ => avoids_pure _
  next => exact courier_avoids _ _ _ _ _ _ _
  next => exact avoids_error (by simp [Unsold, badRequest, conflict])

theorem safeQuantityProduct_avoids (left right : Int) : Avoids Unsold (safeQuantityProduct left right) :=
  avoids_bind (avoids_throwIf fun _ => by simp [Unsold, unavailable, conflict]) fun _ _ => avoids_pure _

theorem add_avoids (totals : Totals) (calculation : QuoteLineCalculation) {weight : Except Failure Int}
    (fine : Avoids Unsold weight) : Avoids Unsold (totals.add calculation weight) := by
  unfold Totals.add
  refine avoids_bind (orFail_avoids rangeFailure_fine) fun _ _ => ?_
  refine avoids_bind (orFail_avoids rangeFailure_fine) fun _ _ => ?_
  refine avoids_bind (orFail_avoids rangeFailure_fine) fun _ _ => ?_
  refine avoids_bind fine fun _ _ => ?_
  exact avoids_bind (orFail_avoids rangeFailure_fine) fun _ _ => avoids_pure _

theorem priceLine_avoids {check : LineCheck} {variants : List (ProductVariant × Product)} {priced : Priced}
    {requested : CheckoutItem}
    (sold : exists entry, variants.find? (fun entry => entry.1.id == requested.variantId) = some entry)
    (checked : forall entry, variants.find? (fun entry => entry.1.id == requested.variantId) = some entry ->
      check requested entry.1 entry.2 = .ok ()) :
    Avoids Unsold (priceLine check variants priced requested) := by
  obtain ⟨entry, found⟩ := sold
  unfold priceLine
  refine avoids_bind (avoids_orThrow fun none => by rw [found] at none; cases none) fun other same => ?_
  have equal := (orThrow_ok _ _ _).1 same
  refine avoids_bind ?_ fun _ _ => ?_
  next => rw [checked other equal]; exact avoids_ok ()
  next =>
    refine avoids_bind (orFail_avoids (by simp [Unsold, unavailable, conflict])) fun calculation _ => ?_
    exact avoids_bind (add_avoids _ _ (safeQuantityProduct_avoids _ _)) fun _ _ => avoids_pure _

-- The variants a quote asks for, each public and with enough stock.
structure Sells (db : Db) (now : Int) (item : CheckoutItem) : Prop where
  offered : exists variant, variant? db.config item.variantId = some variant /\ publicVariantWhere db now variant = true
  stock : item.quantity <= availableQuantity db now item.variantId

theorem mem_sellableVariants {config : Configuration} {variantIds : List Id} {variant : ProductVariant}
    (known : variant ∈ config.variants) (wanted : variant.id ∈ variantIds)
    (shown : (sellableProduct? config now variant).isSome = true) :
    exists product, (variant, product) ∈ sellableVariants config now variantIds := by
  obtain ⟨product, sellable⟩ := Option.isSome_iff_exists.1 shown
  refine ⟨product, List.mem_filterMap.2 ⟨variant, known, ?_⟩⟩
  rw [if_pos wanted, sellable]
  rfl

theorem sellable_wanted {config : Configuration} {variantIds : List Id} {entry : ProductVariant × Product}
    (here : entry ∈ sellableVariants config now variantIds) : entry.1.id ∈ variantIds := by
  obtain ⟨other, -, found⟩ := List.mem_filterMap.1 here
  split at found
  next wanted =>
    obtain ⟨_, -, rfl⟩ := Option.map_eq_some_iff.1 found
    exact wanted
  next => cases found

theorem sellable_length {items : List CheckoutItem} (distinct : (items.map (·.variantId)).Nodup)
    (sells : forall item, item ∈ items -> Sells db now item) :
    (sellableVariants db.config now (items.map (·.variantId))).length = (items.map (·.variantId)).length := by
  have ids := sellableVariants_ids db.config now (items.map (·.variantId))
  have same : ((sellableVariants db.config now (items.map (·.variantId))).map (·.1.id)).Perm
      (items.map (·.variantId)) := by
    refine (List.perm_ext_iff_of_nodup ids distinct).2 fun variantId => ⟨fun here => ?_, fun here => ?_⟩
    next =>
      obtain ⟨entry, present, rfl⟩ := List.mem_map.1 here
      exact sellable_wanted present
    next =>
      obtain ⟨item, present, rfl⟩ := List.mem_map.1 here
      obtain ⟨variant, found, shown⟩ := (sells item present).offered
      have equal : variant.id = item.variantId := by simpa using List.find?_some found
      obtain ⟨product, listed⟩ := mem_sellableVariants (List.mem_of_find?_eq_some found) (equal ▸ here) shown
      exact equal ▸ List.mem_map.2 ⟨(variant, product), listed, rfl⟩
  rw [<- same.length_eq, List.length_map]

/-- A quote of public variants in sufficient stock is not refused for either. -/
theorem quote_avoids {input : CheckoutQuote} (sells : forall item, item ∈ input.items -> Sells db now item) :
    Avoids Unsold (quote db input now) := by
  unfold quote
  refine avoids_bind (avoids_throwIf fun _ => by simp [Unsold, conflict]) fun _ _ => ?_
  refine avoids_bind ?_ fun _ shape => ?_
  next =>
    unfold assertQuoteShape
    refine avoids_bind (avoids_throwIf fun _ => by simp [Unsold, badRequest, conflict]) fun _ _ => ?_
    refine avoids_bind (avoids_throwIf fun _ => by simp [Unsold, badRequest, conflict]) fun _ _ => ?_
    exact avoids_throwIf fun _ => by simp [Unsold, badRequest, conflict]
  simp only [assertQuoteShape, bind_ok, throwIf_ok, not_not, exists_const] at shape
  have length := sellable_length shape.2.2 sells
  refine avoids_bind (avoids_throwIf fun short => absurd length short) fun _ _ => ?_
  refine avoids_bind (avoids_foldlM (fun state item here => priceLine_avoids ?_ fun entry found => ?_) noLines)
    fun priced _ => ?_
  next =>
    obtain ⟨variant, found, shown⟩ := (sells item here).offered
    have equal : variant.id = item.variantId := by simpa using List.find?_some found
    have wanted : variant.id ∈ input.items.map (·.variantId) := equal ▸ List.mem_map_of_mem here
    obtain ⟨product, listed⟩ := mem_sellableVariants (List.mem_of_find?_eq_some found) wanted shown
    cases looked : (sellableVariants db.config now (input.items.map (·.variantId))).find?
        fun entry => entry.1.id == item.variantId with
    | none => exact absurd equal (by simpa using List.find?_eq_none.1 looked _ listed)
    | some entry => exact ⟨entry, rfl⟩
  next =>
    have equal : entry.1.id = item.variantId := by simpa using List.find?_some found
    have stock := (sells item here).stock
    rw [stockCheck, equal]
    exact throwIf_passes (by omega) _
  refine avoids_bind (orFail_avoids rangeFailure_fine) fun discounted _ => ?_
  refine avoids_bind (quoteFulfillment_avoids _ _ _ _) fun fulfillment _ => ?_
  refine avoids_bind (orFail_avoids rangeFailure_fine) fun grand _ => ?_
  exact avoids_bind (avoids_throwIf fun _ => by simp [Unsold, conflict]) fun _ _ => avoids_pure _

end Refused

section Results

variable {db : Db} {userId cartId : Id} {now : Int} {shown : CartResponse} {input : CheckoutQuote}

theorem asked_map {A : Type} (asks : Asks input shown) (read : Id × Int -> A) :
    input.items.map (fun item => read (item.variantId, item.quantity)) =
      shown.items.map fun line => read (line.variantId, line.quantity) := by
  have mapped := congrArg (List.map read) asks
  rwa [List.map_map, List.map_map] at mapped

/-- The lines of a quote are those of the cart it was asked for. -/
theorem quoted_lines (returned : response db now userId cartId = .ok shown) (asks : Asks input shown)
    {quoted : QuoteResponse} (ran : quote db input now = .ok quoted) :
    quoted.lines.map (fun line =>
          (line.variantId, line.effectiveUnitPriceMillimes, advisoryAvailableQuantity db now line)) =
        shown.items.map (fun line => (line.variantId, line.unitPriceMillimes, line.availableQuantity)) /\
      shown.subtotalMillimes = quoted.subtotalMillimes - quoted.discountTotalMillimes := by
  obtain ⟨lines, subtotal⟩ := response_ok returned
  simp only [quote, bind_ok, throwIf_ok, pure_ok] at ran
  obtain ⟨_, -, _, -, _, -, priced, ran, _, -, _, -, _, -, _, -, rfl⟩ := ran
  have known := priceLines_as ran
  have exact := priceLines_exact ran
  have requested : priced.lines.map (·.requested) = input.items := priceLines_requested ran
  constructor
  next =>
    have read := asked_map asks fun asked =>
      (asked.1, unitPriceOf db.config asked.1, availableQuantity db now asked.1)
    rw [<- requested, List.map_map] at read
    have cart : shown.items.map (fun line => (line.variantId, line.unitPriceMillimes, line.availableQuantity)) =
        shown.items.map fun line =>
          (line.variantId, unitPriceOf db.config line.variantId, availableQuantity db now line.variantId) :=
      List.map_congr_left fun line here => by rw [(lines line here).unitPrice, (lines line here).available]
    rw [cart, <- read, List.map_map]
    refine List.map_congr_left fun line here => ?_
    have priced := known line here
    simp only [Function.comp_apply, advisoryAvailableQuantity, quotedLine, priced.same, priced.unitPrice]
  next =>
    have read := asked_map asks fun asked => unitPriceOf db.config asked.1 * asked.2
    rw [<- requested, List.map_map] at read
    have cart : shown.items.map (·.lineTotalMillimes) =
        shown.items.map fun line => unitPriceOf db.config line.variantId * line.quantity :=
      List.map_congr_left fun line here => by rw [(lines line here).lineTotal, (lines line here).unitPrice]
    rw [subtotal, cart, <- read, exact.subtotal, exact.discount, <- Doubles.sum_map_sub]
    refine congrArg List.sum (List.map_congr_left fun line here => ?_)
    have priced := known line here
    rw [Function.comp_apply, priced.discount, priced.taxable]

/-- The cart prices its items as their quote does and counts the stock that the quote counts, which is
the stock of the product page exactly where no bucket of the page without stock has active reservations
that sum below what is on hand; and a cart whose quantities are available is not refused as unsold. -/
theorem cart_and_quote_agree (returned : response db now userId cartId = .ok shown) (asks : Asks input shown) :
    (forall quoted, quote db input now = .ok quoted ->
      quoted.lines.map (fun line =>
            (line.variantId, line.effectiveUnitPriceMillimes, advisoryAvailableQuantity db now line)) =
          shown.items.map (fun line => (line.variantId, line.unitPriceMillimes, line.availableQuantity)) /\
        shown.subtotalMillimes = quoted.subtotalMillimes - quoted.discountTotalMillimes) /\
      (forall line, line ∈ shown.items ->
        (line.availableQuantity = pageAvailableQuantity db now line.variantId <-> Drained db now line.variantId)) /\
      ((forall line, line ∈ shown.items -> line.quantity <= line.availableQuantity) ->
        forall failure, quote db input now = .error failure -> Not (Unsold failure)) := by
  obtain ⟨lines, -⟩ := response_ok returned
  refine ⟨fun quoted ran => quoted_lines returned asks ran, fun line here => ?_, fun enough => ?_⟩
  next =>
    rw [(lines line here).available]
    exact page_iff line.variantId
  next =>
    refine quote_avoids fun item here => ?_
    have member : (item.variantId, item.quantity) ∈ shown.items.map fun line => (line.variantId, line.quantity) :=
      asks ▸ List.mem_map_of_mem (f := fun item : CheckoutItem => (item.variantId, item.quantity)) here
    obtain ⟨line, present, same⟩ := List.mem_map.1 member
    obtain ⟨ids, quantities⟩ := Prod.mk.inj same
    have shows := lines line present
    exact {
      offered := by rw [<- ids]; exact shows.offered
      stock := by
        have bound := enough line present
        rw [shows.available] at bound
        rw [<- ids, <- quantities]
        exact bound }

end Results

section Sample

-- Five pieces in one bucket, and an empty bucket with one active reservation.
def sampleDb (quantity : Int) : Db :=
  { Db.empty System.Sample.shop (some 0) with
    carts := System.Sample.carts
    batches := {
      rows := [{
        id := 1, variantId := 1, supplierId := none, batchNumber := ['b'], supplierReference := none,
        manufacturedAt := none, expiryDate := none, receivedAt := none, archivedAt := none }]
      distinct := by simp }
    items := {
      rows := [
        { id := 1, variantId := 1, locationId := 1, batchId := none, lotKey := none, onHandQuantity := 5,
          version := 1 },
        { id := 2, variantId := 1, locationId := 1, batchId := some 1, lotKey := some 1, onHandQuantity := 0,
          version := 1 }]
      distinct := by simp }
    reservations := {
      rows := [{
        id := 1, inventoryItemId := 2, quantity, state := .active, orderId := 1, orderItemId := 1,
        expiresAt := 100 }]
      distinct := by simp } }

def sampleQuote : CheckoutQuote where
  items := System.Sample.input.items
  localityId := some 1
  pickupLocationId := none
  express := none

def sampleLine : CartLine where
  variantId := 1
  quantity := 2
  unitPriceMillimes := 18000
  lineTotalMillimes := 36000
  priceMillimes := 20000
  promotionalPriceMillimes := some 18000
  availableQuantity := 5

def sampleCart : CartResponse where
  id := 1
  items := [sampleLine]
  itemCount := 2
  subtotalMillimes := 36000

theorem sample_asks : Asks sampleQuote sampleCart := by
  unfold Asks
  decide

-- The bucket is empty, and the page counts its negative reservation as stock.
theorem page_counts_empty_bucket : exists shown quoted, response (sampleDb (-5)) 1 7 1 = .ok shown /\
    Asks sampleQuote shown /\ quote (sampleDb (-5)) sampleQuote 1 = .ok quoted /\
      Not (forall line, line ∈ shown.items ->
        line.availableQuantity = pageAvailableQuantity (sampleDb (-5)) 1 line.variantId) := by
  have returned : succeeded (response (sampleDb (-5)) 1 7 1) = some sampleCart := by decide +kernel
  have priced : (succeeded (quote (sampleDb (-5)) sampleQuote 1)).isSome = true := by decide +kernel
  obtain ⟨quoted, ran⟩ := Option.isSome_iff_exists.1 priced
  have page : pageAvailableQuantity (sampleDb (-5)) 1 1 = 10 := by decide +kernel
  refine ⟨sampleCart, quoted, (succeeded_some _ _).1 returned, sample_asks, (succeeded_some _ _).1 ran, ?_⟩
  intro same
  have shown := (same sampleLine (by simp [sampleCart])).trans page
  exact absurd shown (by decide)

theorem sample_cart_agrees : exists quoted, quote (sampleDb 2) sampleQuote 1 = .ok quoted /\
    36000 = quoted.subtotalMillimes - quoted.discountTotalMillimes /\
      pageAvailableQuantity (sampleDb 2) 1 1 = 5 := by
  have returned : succeeded (response (sampleDb 2) 1 7 1) = some sampleCart := by decide +kernel
  have priced : (succeeded (quote (sampleDb 2) sampleQuote 1)).isSome = true := by decide +kernel
  obtain ⟨quoted, ran⟩ := Option.isSome_iff_exists.1 priced
  have made := (succeeded_some _ _).1 ran
  have agree := cart_and_quote_agree ((succeeded_some _ _).1 returned) sample_asks
  have drained : Drained (sampleDb 2) 1 1 := by
    unfold Drained
    decide +kernel
  have page := (agree.2.1 sampleLine (by simp [sampleCart])).2 drained
  exact ⟨quoted, made, (agree.1 quoted made).2, page.symm⟩

end Sample

end VapeCommerce.Storefront.Cart
