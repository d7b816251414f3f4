import VapeCommerce.Checkout.Catalogue
import VapeCommerce.Checkout.Fulfillment

set_option autoImplicit false

-- The loop over the requested lines that the quote and order creation both run.
namespace VapeCommerce.Checkout.Lines

open VapeCommerce.Lib.Outcome VapeCommerce.Schema VapeCommerce.Config VapeCommerce.Database
open VapeCommerce.Money VapeCommerce.Checkout.Pricing VapeCommerce.Checkout.Fulfillment

structure Totals where
  subtotalMillimes : Int
  discountTotalMillimes : Int
  taxTotalMillimes : Int
  totalWeightGrams : Int
deriving DecidableEq, Repr

structure PricedLine where
  requested : CheckoutItem
  variant : ProductVariant
  product : Product
  calculation : QuoteLineCalculation

structure Priced where
  totals : Totals
  lines : List PricedLine

abbrev LineCheck := CheckoutItem -> ProductVariant -> Product -> Except Failure Unit

def noLines : Priced where
  totals := {
    subtotalMillimes := 0
    discountTotalMillimes := 0
    taxTotalMillimes := 0
    totalWeightGrams := 0 }
  lines := []

def safeQuantityProduct (left right : Int) : Except Failure Int := do
  throwIf (Not (isSafeInteger (left * right)) \/ left * right < 0)
    (unavailable "CATALOG_MEASUREMENT_INVALID")
  return left * right

def quoteLineInput (requested : CheckoutItem) (variant : ProductVariant) : QuoteLineInput where
  listUnitPriceMillimes := variant.priceMillimes
  promotionalUnitPriceMillimes := variant.promotionalPriceMillimes
  quantity := requested.quantity
  taxRateBps := variant.taxRateBps

def Totals.add (totals : Totals) (calculation : QuoteLineCalculation) (weight : Except Failure Int) :
    Except Failure Totals := do
  let subtotalMillimes <-
    orFail (addMillimes [totals.subtotalMillimes, calculation.listSubtotalMillimes]) rangeFailure
  let discountTotalMillimes <-
    orFail (addMillimes [totals.discountTotalMillimes, calculation.discountMillimes]) rangeFailure
  let taxTotalMillimes <-
    orFail (addMillimes [totals.taxTotalMillimes, calculation.taxMillimes]) rangeFailure
  let lineWeight <- weight
  let totalWeightGrams <- orFail (addMillimes [totals.totalWeightGrams, lineWeight]) rangeFailure
  return { subtotalMillimes, discountTotalMillimes, taxTotalMillimes, totalWeightGrams }

def priceLine (check : LineCheck) (variants : List (ProductVariant × Product)) (priced : Priced)
    (requested : CheckoutItem) : Except Failure Priced := do
  let (variant, product) <- orThrow
    (variants.find? fun entry => entry.1.id == requested.variantId) (conflict "PRODUCT_UNAVAILABLE")
  check requested variant product
  let calculation <- orFail (calculateQuoteLine (quoteLineInput requested variant))
    (unavailable "CATALOG_PRICE_INVALID")
  let totals <- priced.totals.add calculation
    (safeQuantityProduct variant.weightGrams requested.quantity)
  return { totals, lines := priced.lines ++ [{ requested, variant, product, calculation }] }

def priceLines (check : LineCheck) (variants : List (ProductVariant × Product))
    (items : List CheckoutItem) : Except Failure Priced :=
  items.foldlM (priceLine check variants) noLines

theorem priceLine_ok {check : LineCheck} {variants : List (ProductVariant × Product)}
    {priced next : Priced} {requested : CheckoutItem}
    (ran : priceLine check variants priced requested = .ok next) :
    exists variant product calculation,
      variants.find? (fun entry => entry.1.id == requested.variantId) = some (variant, product) /\
      check requested variant product = .ok () /\
      calculateQuoteLine (quoteLineInput requested variant) = .ok calculation /\
      priced.totals.add calculation (safeQuantityProduct variant.weightGrams requested.quantity) =
        .ok next.totals /\
      next.lines = priced.lines ++ [PricedLine.mk requested variant product calculation] := by
  simp only [priceLine, bind_ok, orThrow_ok, orFail_ok, pure_ok] at ran
  obtain ⟨⟨variant, product⟩, found, ⟨⟩, checked, calculation, calculated, totals, added, rfl⟩ := ran
  exact ⟨variant, product, calculation, found, checked, calculated, added, rfl⟩

theorem add_ok {totals next : Totals} {calculation : QuoteLineCalculation}
    {weight : Except Failure Int} (added : totals.add calculation weight = .ok next) :
    next.subtotalMillimes = totals.subtotalMillimes + calculation.listSubtotalMillimes /\
      next.discountTotalMillimes = totals.discountTotalMillimes + calculation.discountMillimes /\
      next.taxTotalMillimes = totals.taxTotalMillimes + calculation.taxMillimes := by
  simp only [Totals.add, bind_ok, orFail_ok, addMillimes_ok, pure_ok] at added
  obtain ⟨_, ⟨-, -, rfl⟩, _, ⟨-, -, rfl⟩, _, ⟨-, -, rfl⟩, _, -, _, -, rfl⟩ := added
  simp

-- Another check that accepts the same lines prices them alike.
theorem priceLines_recheck {check other : LineCheck} {variants : List (ProductVariant × Product)}
    {items : List CheckoutItem} {start priced : Priced}
    (accepts : forall requested variant product, requested ∈ items ->
      variants.find? (fun entry => entry.1.id == requested.variantId) = some (variant, product) ->
      other requested variant product = .ok ())
    (ran : items.foldlM (priceLine check variants) start = .ok priced) :
    items.foldlM (priceLine other variants) start = .ok priced := by
  induction items generalizing start with
  | nil => exact ran
  | cons requested rest ih =>
    simp only [List.foldlM_cons, bind_ok] at ran ⊢
    obtain ⟨next, first, later⟩ := ran
    refine ⟨next, ?_, ih (fun item variant product member => accepts item variant product
      (by simp [member])) later⟩
    simp only [priceLine, bind_ok, orThrow_ok] at first ⊢
    obtain ⟨entry, found, ⟨⟩, -, remaining⟩ := first
    exact ⟨entry, found, (), accepts requested entry.1 entry.2 (by simp) found, remaining⟩

-- The running totals are the sums over the lines, and every line is priced exactly.
structure Priced.Exact (variants : List (ProductVariant × Product)) (priced : Priced) : Prop where
  subtotal : priced.totals.subtotalMillimes =
    (priced.lines.map fun line => line.calculation.listSubtotalMillimes).sum
  discount : priced.totals.discountTotalMillimes =
    (priced.lines.map fun line => line.calculation.discountMillimes).sum
  tax : priced.totals.taxTotalMillimes =
    (priced.lines.map fun line => line.calculation.taxMillimes).sum
  lines : forall line, line ∈ priced.lines ->
    line.calculation.Exact (quoteLineInput line.requested line.variant) /\
      (line.variant, line.product) ∈ variants /\ line.variant.id = line.requested.variantId

theorem priceLine_exact {check : LineCheck} {variants : List (ProductVariant × Product)}
    {priced next : Priced} {requested : CheckoutItem} (exact : priced.Exact variants)
    (ran : priceLine check variants priced requested = .ok next) :
    next.Exact variants := by
  obtain ⟨variant, product, calculation, found, -, calculated, added, lines⟩ := priceLine_ok ran
  obtain ⟨subtotal, discount, tax⟩ := add_ok added
  refine { subtotal := ?_, discount := ?_, tax := ?_, lines := ?_ }
  next => simp [subtotal, lines, exact.subtotal]
  next => simp [discount, lines, exact.discount]
  next => simp [tax, lines, exact.tax]
  next =>
    intro line member
    rw [lines, List.mem_append, List.mem_singleton] at member
    cases member with
    | inl earlier => exact exact.lines line earlier
    | inr last =>
      subst last
      exact ⟨calculateQuoteLine_exact calculated, List.mem_of_find?_eq_some found,
        by simpa using List.find?_some found⟩

theorem priceLines_exact {check : LineCheck} {variants : List (ProductVariant × Product)}
    {items : List CheckoutItem} {priced : Priced}
    (ran : priceLines check variants items = .ok priced) : priced.Exact variants := by
  refine foldlM_keeps (Priced.Exact variants) (priceLine check variants) items
    (fun state item next _ exact step => priceLine_exact exact step) noLines priced ?_ ran
  exact { subtotal := rfl, discount := rfl, tax := rfl, lines := by simp [noLines] }

theorem priceLines_requested {check : LineCheck} {variants : List (ProductVariant × Product)}
    {items : List CheckoutItem} {start priced : Priced}
    (ran : items.foldlM (priceLine check variants) start = .ok priced) :
    priced.lines.map (·.requested) = start.lines.map (·.requested) ++ items := by
  induction items generalizing start with
  | nil =>
    simp only [List.foldlM_nil, pure_ok] at ran
    simp [ran]
  | cons requested rest ih =>
    simp only [List.foldlM_cons, bind_ok] at ran
    obtain ⟨next, first, later⟩ := ran
    obtain ⟨_, _, _, -, -, -, -, lines⟩ := priceLine_ok first
    simp [ih later, lines]

-- Line totals add up to the discounted subtotal and the tax.
theorem Priced.Exact.line_totals {variants : List (ProductVariant × Product)} {priced : Priced}
    (exact : priced.Exact variants) :
    (priced.lines.map fun line => line.calculation.totalMillimes).sum =
      priced.totals.subtotalMillimes - priced.totals.discountTotalMillimes +
        priced.totals.taxTotalMillimes := by
  rw [exact.subtotal, exact.discount, exact.tax]
  have lines := exact.lines
  clear exact
  revert lines
  induction priced.lines with
  | nil => simp
  | cons line rest ih =>
    intro lines
    have here := (lines line (by simp)).1
    have there := ih fun other member => lines other (by simp [member])
    have total := here.total
    have discount := here.discount
    simp only [List.map_cons, List.sum_cons]
    omega

end VapeCommerce.Checkout.Lines
