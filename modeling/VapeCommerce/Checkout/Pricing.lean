import Mathlib.Data.List.Sort
import VapeCommerce.Config
import VapeCommerce.Money

set_option autoImplicit false

namespace VapeCommerce.Checkout.Pricing

open VapeCommerce.Lib.Outcome VapeCommerce.Schema VapeCommerce.Config VapeCommerce.Money

structure QuoteLineInput where
  listUnitPriceMillimes : Int
  promotionalUnitPriceMillimes : Option Int
  quantity : Int
  taxRateBps : Int

structure QuoteLineCalculation where
  listSubtotalMillimes : Int
  discountMillimes : Int
  taxableSubtotalMillimes : Int
  taxMillimes : Int
  totalMillimes : Int
  effectiveUnitPriceMillimes : Int
deriving DecidableEq, Repr

def QuoteLineInput.effectiveUnitPriceMillimes (input : QuoteLineInput) : Int :=
  input.promotionalUnitPriceMillimes.getD input.listUnitPriceMillimes

def calculateQuoteLine (input : QuoteLineInput) : Except RangeError QuoteLineCalculation := do
  throwIf (input.listUnitPriceMillimes < 0 \/
      input.promotionalUnitPriceMillimes.any
        (fun price => price < 0 || price > input.listUnitPriceMillimes))
    { message := "Invalid catalog price" }
  let effectiveUnitPriceMillimes := input.effectiveUnitPriceMillimes
  let listSubtotalMillimes <- multiplyMillimes input.listUnitPriceMillimes input.quantity
  let effectiveSubtotal <- multiplyMillimes effectiveUnitPriceMillimes input.quantity
  let discountMillimes <- addMillimes [listSubtotalMillimes, -effectiveSubtotal]
  let taxMillimes <- calculateBasisPoints effectiveSubtotal input.taxRateBps
  let totalMillimes <- addMillimes [effectiveSubtotal, taxMillimes]
  return {
    listSubtotalMillimes
    discountMillimes
    taxableSubtotalMillimes := effectiveSubtotal
    taxMillimes
    totalMillimes
    effectiveUnitPriceMillimes }

-- What a successful calculation says about its parts.
structure QuoteLineCalculation.Exact (input : QuoteLineInput) (line : QuoteLineCalculation) : Prop where
  listPrice : 0 <= input.listUnitPriceMillimes
  effectivePrice : 0 <= input.effectiveUnitPriceMillimes /\
    input.effectiveUnitPriceMillimes <= input.listUnitPriceMillimes
  quantity : 0 <= input.quantity
  listSubtotal : line.listSubtotalMillimes = input.listUnitPriceMillimes * input.quantity
  discount : line.discountMillimes = line.listSubtotalMillimes - line.taxableSubtotalMillimes
  taxableSubtotal :
    line.taxableSubtotalMillimes = input.effectiveUnitPriceMillimes * input.quantity
  tax : 0 <= line.taxMillimes
  total : line.totalMillimes = line.taxableSubtotalMillimes + line.taxMillimes

theorem effectiveUnitPrice_bounds (input : QuoteLineInput)
    (accepted : Not (input.listUnitPriceMillimes < 0 \/
      input.promotionalUnitPriceMillimes.any
        (fun price => price < 0 || price > input.listUnitPriceMillimes) = true)) :
    0 <= input.listUnitPriceMillimes /\ 0 <= input.effectiveUnitPriceMillimes /\
      input.effectiveUnitPriceMillimes <= input.listUnitPriceMillimes := by
  simp only [not_or, Int.not_lt] at accepted
  obtain ⟨list, promotion⟩ := accepted
  unfold QuoteLineInput.effectiveUnitPriceMillimes
  cases promotional : input.promotionalUnitPriceMillimes with
  | none => exact ⟨list, by simpa using list, by simp⟩
  | some price =>
    simp only [promotional, Option.any_some, Bool.or_eq_true, decide_eq_true_eq, not_or, Int.not_lt] at promotion
    exact ⟨list, promotion.1, by simpa using promotion.2⟩

theorem calculateQuoteLine_exact {input : QuoteLineInput} {line : QuoteLineCalculation}
    (calculated : calculateQuoteLine input = .ok line) : line.Exact input := by
  simp only [calculateQuoteLine, bind_ok, throwIf_ok, multiplyMillimes_ok, addMillimes_ok,
    calculateBasisPoints_ok, pure_ok, exists_const] at calculated
  obtain ⟨accepted, list, ⟨-, ⟨-, quantity⟩, -, rfl⟩, effective, ⟨-, -, -, rfl⟩, discount,
    ⟨-, -, rfl⟩, tax, ⟨-, points, -, rfl⟩, total, ⟨-, -, rfl⟩, rfl⟩ := calculated
  obtain ⟨listPrice, effectivePrice⟩ := effectiveUnitPrice_bounds input accepted
  exact {
    listPrice
    effectivePrice
    quantity
    listSubtotal := rfl
    discount := by simp only [List.sum_cons, List.sum_nil]; omega
    taxableSubtotal := rfl
    tax := roundedBasisPoints_nonneg _ _ (Int.mul_nonneg effectivePrice.1 quantity) points.1
    total := by simp only [List.sum_cons, List.sum_nil]; omega }

structure RateContext where
  deliveryZoneId : Id
  governorateId : Id
  delegationId : Id
  localityId : Id
  orderMillimes : Int
  weightGrams : Int
  express : Bool

inductive RateResolutionError where
  | deliveryRateMissing
  | deliveryRateAmbiguous
deriving DecidableEq, Repr

def withinBounds (rate : DeliveryRate) (context : RateContext) : Bool :=
  rate.minOrderMillimes.all (fun bound => context.orderMillimes >= bound) &&
    rate.maxOrderMillimes.all (fun bound => context.orderMillimes <= bound) &&
    rate.maxCodMillimes.all (fun bound => context.orderMillimes <= bound) &&
    rate.minWeightGrams.all (fun bound => context.weightGrams >= bound) &&
    rate.maxWeightGrams.all (fun bound => context.weightGrams <= bound)

def geographicRank (rate : DeliveryRate) (context : RateContext) : Int :=
  if rate.localityId = some context.localityId then 5
  else if rate.delegationId = some context.delegationId /\ rate.localityId = none then 4
  else if rate.governorateId = some context.governorateId /\ rate.delegationId = none /\
      rate.localityId = none then 3
  else if rate.deliveryZoneId = some context.deliveryZoneId /\ rate.governorateId = none /\
      rate.delegationId = none /\ rate.localityId = none then 2
  else if rate.deliveryZoneId = none /\ rate.governorateId = none /\ rate.delegationId = none /\
      rate.localityId = none then 1
  else -1

def baseTypeMatchesRank (rate : DeliveryRate) (rank : Int) : Bool :=
  (rank == 5 && rate.type == .locality) || (rank == 4 && rate.type == .delegation) ||
    (rank == 3 && rate.type == .governorate) || ((rank == 2 || rank == 1) && rate.type == .base)

-- The comparator of `chooseUnique`: rank and priority descending, then id ascending.
def ranksBefore (left right : DeliveryRate × Int) : Prop :=
  left.2 > right.2 \/ (left.2 = right.2 /\
    (left.1.priority > right.1.priority \/
      (left.1.priority = right.1.priority /\ left.1.id <= right.1.id)))

instance : DecidableRel ranksBefore := fun _ _ => inferInstanceAs (Decidable (_ \/ _))

def chooseUnique (ranked : List (DeliveryRate × Int)) (required : Bool) :
    Except RateResolutionError (Option DeliveryRate) :=
  match ranked.insertionSort ranksBefore with
  | [] => if required then .error .deliveryRateMissing else .ok none
  | [first] => .ok (some first.1)
  | first :: second :: _ =>
    if second.2 = first.2 /\ second.1.priority = first.1.priority then .error .deliveryRateAmbiguous
    else .ok (some first.1)

def selectBaseRate (rates : List DeliveryRate) (context : RateContext) :
    Except RateResolutionError DeliveryRate := do
  let selected <- chooseUnique
    (rates.filterMap fun rate =>
      let rank := geographicRank rate context
      if rank > 0 && baseTypeMatchesRank rate rank && withinBounds rate context then some (rate, rank)
      else none)
    true
  orThrow selected .deliveryRateMissing

def selectSurchargeRate (rates : List DeliveryRate) (context : RateContext)
    (type : DeliveryRateType) : Except RateResolutionError (Option DeliveryRate) :=
  chooseUnique
    (rates.filterMap fun rate =>
      let rank := geographicRank rate context
      let expressAllowed := type != .expressSurcharge || context.express
      if rate.type == type && rank > 0 && expressAllowed && withinBounds rate context then
        some (rate, rank)
      else none)
    false

end VapeCommerce.Checkout.Pricing
