import VapeCommerce.Checkout.Lines

set_option autoImplicit false

-- checkout-quote.service.ts
namespace VapeCommerce.Checkout.Quote

open VapeCommerce.Lib.Outcome VapeCommerce.Schema VapeCommerce.Config VapeCommerce.Database
open VapeCommerce.Money VapeCommerce.Checkout.Policy VapeCommerce.Checkout.Catalogue
open VapeCommerce.Checkout.Fulfillment VapeCommerce.Checkout.Lines

structure CheckoutQuote where
  items : List CheckoutItem
  localityId : Option Id
  pickupLocationId : Option Id
  express : Option Bool

structure QuotedLine where
  variantId : Id
  productId : Id
  quantity : Int
  listUnitPriceMillimes : Int
  effectiveUnitPriceMillimes : Int
  discountMillimes : Int
  taxMillimes : Int
  lineTotalMillimes : Int
deriving DecidableEq, Repr

structure QuoteResponse where
  lines : List QuotedLine
  subtotalMillimes : Int
  discountTotalMillimes : Int
  deliveryTotalMillimes : Int
  taxTotalMillimes : Int
  grandTotalMillimes : Int
  expectedCodMillimes : Int
  totalWeightGrams : Int
  selectedRateIds : List Id
  minimumAge : Option Int
  expiresAt : Int
deriving DecidableEq, Repr

def eligibleItems (db : Db) (now : Int) (variantId : Id) : List InventoryItem :=
  db.items.filter fun item => item.variantId == variantId && eligibleOrderInventoryWhere db now item

def availableQuantity (db : Db) (now : Int) (variantId : Id) : Int :=
  ((eligibleItems db now variantId).map fun item =>
    max 0 (item.onHandQuantity - reservedQuantity db now item.id)).sum

def stockCheck (db : Db) (now : Int) : LineCheck := fun requested variant _ =>
  throwIf (availableQuantity db now variant.id < requested.quantity) (conflict "OUT_OF_STOCK")

def quotedLine (line : PricedLine) : QuotedLine where
  variantId := line.variant.id
  productId := line.product.id
  quantity := line.requested.quantity
  listUnitPriceMillimes := line.variant.priceMillimes
  effectiveUnitPriceMillimes := line.calculation.effectiveUnitPriceMillimes
  discountMillimes := line.calculation.discountMillimes
  taxMillimes := line.calculation.taxMillimes
  lineTotalMillimes := line.calculation.totalMillimes

def assertQuoteShape (input : CheckoutQuote) : Except Failure Unit := do
  throwIf (input.localityId.isSome = input.pickupLocationId.isSome)
    (badRequest "FULFILLMENT_SELECTION_REQUIRED")
  throwIf (input.express = some true /\ input.pickupLocationId.isSome)
    (badRequest "EXPRESS_PICKUP_UNSUPPORTED")
  throwIf (Not (input.items.map (·.variantId)).Nodup) (badRequest "DUPLICATE_QUOTE_ITEM")

def quoteFulfillment (config : Configuration) (input : CheckoutQuote) (orderMillimes weightGrams : Int)
    (now : Int) : Except Failure ResolvedFulfillment :=
  match input.pickupLocationId, input.localityId with
  | some pickupLocationId, _ => pickup config pickupLocationId orderMillimes
  | none, some localityId =>
    courier false config config localityId orderMillimes weightGrams (input.express.getD false) now
  | none, none => .error (badRequest "FULFILLMENT_SELECTION_REQUIRED")

def quote (db : Db) (input : CheckoutQuote) (now : Int) : Except Failure QuoteResponse := do
  let policy := evaluate db.config now
  throwIf (Not policy.allowed) (conflict "CHECKOUT_UNAVAILABLE")
  assertQuoteShape input
  let variantIds := input.items.map (·.variantId)
  let variants := sellableVariants db.config now variantIds
  throwIf (variants.length ≠ variantIds.length) (conflict "PRODUCT_UNAVAILABLE")
  let priced <- priceLines (stockCheck db now) variants input.items
  let totals := priced.totals
  let discountedSubtotalMillimes <-
    orFail (addMillimes [totals.subtotalMillimes, -totals.discountTotalMillimes]) rangeFailure
  let fulfillment <- quoteFulfillment db.config input discountedSubtotalMillimes
    totals.totalWeightGrams now
  let grandTotalMillimes <- orFail (addMillimes [discountedSubtotalMillimes,
    totals.taxTotalMillimes, fulfillment.deliveryTotalMillimes]) rangeFailure
  throwIf (fulfillment.maxCodMillimes.any (fun bound => grandTotalMillimes > bound))
    (conflict "MAXIMUM_COD_EXCEEDED")
  return {
    lines := priced.lines.map quotedLine
    subtotalMillimes := totals.subtotalMillimes
    discountTotalMillimes := totals.discountTotalMillimes
    deliveryTotalMillimes := fulfillment.deliveryTotalMillimes
    taxTotalMillimes := totals.taxTotalMillimes
    grandTotalMillimes
    expectedCodMillimes := grandTotalMillimes
    totalWeightGrams := totals.totalWeightGrams
    selectedRateIds := fulfillment.selectedRateIds
    minimumAge := policy.minimumAge
    expiresAt := now + 5 * 60000 }

end VapeCommerce.Checkout.Quote
