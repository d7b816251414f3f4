import Mathlib.Algebra.Order.Ring.Int
import VapeCommerce.Catalog.Tables

set_option autoImplicit false

-- The rounding of basis points and the arithmetic of a line, over everything the catalogue admits.
namespace VapeCommerce.Checkout.LinePricing

open VapeCommerce.Lib.Outcome VapeCommerce.Schema VapeCommerce.Database VapeCommerce.Money
open VapeCommerce.Checkout.Pricing VapeCommerce.Catalog

-- Halves are rounded up, on both sides of zero.
def basisPointsFloor (amount basisPoints : Int) : Int :=
  (amount * basisPoints + 5000) / 10000

-- Truncating division leaves a remainder with the sign of what is divided.
theorem truncated (numerator : Int) :
    numerator = 10000 * numerator.tdiv 10000 + numerator.tmod 10000 /\
      -10000 < numerator.tmod 10000 /\ numerator.tmod 10000 < 10000 := by
  have whole := Int.mul_tdiv_add_tmod numerator 10000
  have above := Int.tmod_lt_of_pos numerator (by decide : (0 : Int) < 10000)
  have below := Int.lt_tmod_of_pos numerator (by decide : (0 : Int) < 10000)
  omega

theorem roundedBasisPoints_floor (amount basisPoints : Int) :
    roundedBasisPoints amount basisPoints = basisPointsFloor amount basisPoints := by
  have parts := truncated (amount * basisPoints)
  unfold roundedBasisPoints basisPointsFloor
  dsimp only
  generalize amount * basisPoints = numerator at parts ⊢
  generalize numerator.tdiv 10000 = quotient at parts ⊢
  generalize numerator.tmod 10000 = remainder at parts ⊢
  split
  next => omega
  next =>
    split
    next => omega
    next => split <;> omega

theorem basisPointsFloor_mono {lesser greater basisPoints : Int} (ordered : lesser <= greater)
    (points : 0 <= basisPoints) :
    basisPointsFloor lesser basisPoints <= basisPointsFloor greater basisPoints := by
  have scaled : lesser * basisPoints <= greater * basisPoints := Int.mul_le_mul_of_nonneg_right ordered points
  unfold basisPointsFloor
  omega

-- Up to the whole of a safe amount the result stays safe.
theorem basisPointsFloor_safe {amount basisPoints : Int} (safe : isSafeInteger amount)
    (points : 0 <= basisPoints /\ basisPoints <= 10000) :
    isSafeInteger (basisPointsFloor amount basisPoints) := by
  unfold isSafeInteger at safe ⊢
  have lower := basisPointsFloor_mono safe.1 points.1
  have upper := basisPointsFloor_mono safe.2 points.1
  unfold basisPointsFloor at *
  omega

theorem calculateBasisPoints_floor {amount basisPoints : Int} (safe : isSafeInteger amount)
    (points : 0 <= basisPoints /\ basisPoints <= 100000) :
    calculateBasisPoints amount basisPoints =
      if isSafeInteger (basisPointsFloor amount basisPoints) then
        .ok (basisPointsFloor amount basisPoints)
      else .error { message := "Money must be a safe integer in millimes" } := by
  have admitted : Not (basisPoints < 0 \/ basisPoints > 100000) := by omega
  have amounts : assertMillimes amount = .ok () := (assertMillimes_ok amount ()).2 safe
  unfold calculateBasisPoints
  rw [ok_of_bind amounts, ok_of_bind (throwIf_passes admitted _), roundedBasisPoints_floor]
  split
  next fits => exact ok_of_bind ((assertMillimes_ok _ ()).2 fits) _
  next exceeds => simp [assertMillimes, throwIf, exceeds, bind, Except.bind]

structure LineAmounts (input : QuoteLineInput) (line : QuoteLineCalculation) : Prop where
  list : line.listSubtotalMillimes = input.listUnitPriceMillimes * input.quantity /\
    0 <= line.listSubtotalMillimes
  discount : 0 <= line.discountMillimes
  net : line.listSubtotalMillimes - line.discountMillimes = line.taxableSubtotalMillimes
  netPrice : line.taxableSubtotalMillimes = input.effectiveUnitPriceMillimes * input.quantity
  tax : line.taxMillimes = basisPointsFloor line.taxableSubtotalMillimes input.taxRateBps /\
    0 <= line.taxMillimes
  total : line.taxableSubtotalMillimes + line.taxMillimes = line.totalMillimes

-- Everything the catalogue and the cart admit of one line.
def admittedLine (price : Amount) (promotional : Option Amount) (taxRate : TaxRate) (item : CheckoutItem) :
    QuoteLineInput where
  listUnitPriceMillimes := price.millimes
  promotionalUnitPriceMillimes := promotional.map Amount.millimes
  quantity := item.quantity
  taxRateBps := taxRate.bps

theorem effective_bounds {price : Amount} {promotional : Option Amount} (taxRate : TaxRate)
    (item : CheckoutItem) (below : forall amount, promotional = some amount -> amount.millimes <= price.millimes) :
    0 <= (admittedLine price promotional taxRate item).effectiveUnitPriceMillimes /\
      (admittedLine price promotional taxRate item).effectiveUnitPriceMillimes <= price.millimes := by
  cases promotional with
  | none => exact ⟨price.bounds.1, Int.le_refl _⟩
  | some amount => exact ⟨amount.bounds.1, below amount rfl⟩

theorem subtotal_bounds {unitPrice quantity : Int} (price : 0 <= unitPrice /\ unitPrice <= databaseIntMax)
    (quantities : 1 <= quantity /\ quantity <= 20) :
    0 <= unitPrice * quantity /\ unitPrice * quantity <= 42949672940 := by
  have positive : 0 <= unitPrice * quantity := Int.mul_nonneg price.1 (by omega)
  have bounded : unitPrice * quantity <= databaseIntMax * 20 :=
    Int.mul_le_mul price.2 quantities.2 (by omega) (by decide)
  exact ⟨positive, by simpa [databaseIntMax] using bounded⟩

theorem safe_of_bounds {value : Int} (bounds : -1000000000000 <= value /\ value <= 1000000000000) :
    isSafeInteger value := by
  unfold isSafeInteger
  omega

theorem addMillimes_pair {left right : Int} (first : -500000000000 <= left /\ left <= 500000000000)
    (second : -500000000000 <= right /\ right <= 500000000000) :
    addMillimes [left, right] = .ok (left + right) := by
  have sum : [left, right].sum = left + right := by simp
  refine (addMillimes_ok _ _).2 ⟨?_, sum ▸ safe_of_bounds (by omega), sum⟩
  intro value member
  simp only [List.mem_cons, List.not_mem_nil, or_false] at member
  obtain rfl | rfl := member <;> exact safe_of_bounds (by omega)

theorem admitted_priced {price : Amount} {promotional : Option Amount} (taxRate : TaxRate)
    (item : CheckoutItem) (below : forall amount, promotional = some amount -> amount.millimes <= price.millimes) :
    exists line, calculateQuoteLine (admittedLine price promotional taxRate item) = .ok line /\
      LineAmounts (admittedLine price promotional taxRate item) line := by
  have effective := effective_bounds taxRate item below
  generalize made : admittedLine price promotional taxRate item = input at effective ⊢
  have quantity : 1 <= input.quantity /\ input.quantity <= 20 := made ▸ item.bounds
  have unitPrice : 0 <= input.listUnitPriceMillimes /\ input.listUnitPriceMillimes <= databaseIntMax :=
    made ▸ price.bounds
  have points : 0 <= input.taxRateBps /\ input.taxRateBps <= 10000 := made ▸ taxRate.bounds
  have same : price.millimes = input.listUnitPriceMillimes := made ▸ rfl
  have list := subtotal_bounds unitPrice quantity
  have net := subtotal_bounds ⟨effective.1, by omega⟩ quantity
  have ordered : input.effectiveUnitPriceMillimes * input.quantity <=
      input.listUnitPriceMillimes * input.quantity :=
    Int.mul_le_mul_of_nonneg_right (by omega) (by omega)
  have taxed : 0 <= basisPointsFloor (input.effectiveUnitPriceMillimes * input.quantity) input.taxRateBps /\
      basisPointsFloor (input.effectiveUnitPriceMillimes * input.quantity) input.taxRateBps <= 42949672940 := by
    have lower := basisPointsFloor_mono net.1 points.1
    have upper := basisPointsFloor_mono net.2 points.1
    unfold basisPointsFloor at *
    omega
  have prices : throwIf (input.listUnitPriceMillimes < 0 \/
      input.promotionalUnitPriceMillimes.any
        (fun price => price < 0 || price > input.listUnitPriceMillimes))
      (RangeError.mk "Invalid catalog price") = .ok () := by
    refine throwIf_passes ?_ _
    subst made
    cases promotional with
    | none => simp [admittedLine, price.bounds.1]
    | some amount => simp [admittedLine, price.bounds.1, amount.bounds.1, below amount rfl]
  have quantities : isSafeInteger input.quantity /\ 0 <= input.quantity :=
    ⟨safe_of_bounds (by omega), by omega⟩
  have listSubtotal := (multiplyMillimes_ok input.listUnitPriceMillimes input.quantity _).2
    ⟨safe_of_bounds (by unfold databaseIntMax at unitPrice; omega), quantities,
      safe_of_bounds (by omega), rfl⟩
  have netSubtotal := (multiplyMillimes_ok input.effectiveUnitPriceMillimes input.quantity _).2
    ⟨safe_of_bounds (by unfold databaseIntMax at unitPrice; omega), quantities,
      safe_of_bounds (by omega), rfl⟩
  generalize listIs : input.listUnitPriceMillimes * input.quantity = listAmount at *
  generalize netIs : input.effectiveUnitPriceMillimes * input.quantity = netAmount at *
  have discount : addMillimes [listAmount, -netAmount] = .ok (listAmount - netAmount) := by
    rw [Int.sub_eq_add_neg]
    exact addMillimes_pair ⟨by omega, by omega⟩ ⟨by omega, by omega⟩
  have tax := calculateBasisPoints_floor (safe_of_bounds (by omega) : isSafeInteger netAmount)
    ⟨points.1, by omega⟩
  rw [if_pos (safe_of_bounds (by omega))] at tax
  have total : addMillimes [netAmount, basisPointsFloor netAmount input.taxRateBps] =
      .ok (netAmount + basisPointsFloor netAmount input.taxRateBps) :=
    addMillimes_pair ⟨by omega, by omega⟩ ⟨by omega, by omega⟩
  refine ⟨{
    listSubtotalMillimes := listAmount
    discountMillimes := listAmount - netAmount
    taxableSubtotalMillimes := netAmount
    taxMillimes := basisPointsFloor netAmount input.taxRateBps
    totalMillimes := netAmount + basisPointsFloor netAmount input.taxRateBps
    effectiveUnitPriceMillimes := input.effectiveUnitPriceMillimes }, ?_, ?_⟩
  next =>
    unfold calculateQuoteLine
    rw [ok_of_bind prices]
    simp only [listSubtotal, netSubtotal, discount, tax, total, bind, Except.bind]
    rfl
  next =>
    exact {
      list := ⟨listIs.symm, list.1⟩
      discount := by simp only; omega
      net := by simp only; omega
      netPrice := netIs.symm
      tax := ⟨rfl, taxed.1⟩
      total := rfl }

/-- Basis points round to the nearest millime, halves upwards, without leaving the exact range; they
    grow with the amount; and every line the catalogue and the cart admit is priced without an
    overflow, its discount and tax adding up exactly. -/
theorem line_pricing_exact :
    (forall amount basisPoints, isSafeInteger amount -> 0 <= basisPoints -> basisPoints <= 100000 ->
        calculateBasisPoints amount basisPoints =
          if isSafeInteger (basisPointsFloor amount basisPoints) then
            .ok (basisPointsFloor amount basisPoints)
          else .error { message := "Money must be a safe integer in millimes" }) /\
      (forall amount basisPoints, isSafeInteger amount -> 0 <= basisPoints -> basisPoints <= 10000 ->
        isSafeInteger (basisPointsFloor amount basisPoints)) /\
      (forall lesser greater basisPoints lesserResult greaterResult, lesser <= greater ->
        calculateBasisPoints lesser basisPoints = .ok lesserResult ->
        calculateBasisPoints greater basisPoints = .ok greaterResult -> lesserResult <= greaterResult) /\
      forall (price : Amount) (promotional : Option Amount) (taxRate : TaxRate) (item : CheckoutItem),
        (forall amount, promotional = some amount -> amount.millimes <= price.millimes) ->
        exists line, calculateQuoteLine (admittedLine price promotional taxRate item) = .ok line /\
          LineAmounts (admittedLine price promotional taxRate item) line := by
  refine ⟨?_, ?_, ?_, ?_⟩
  next => exact fun amount basisPoints safe lower upper => calculateBasisPoints_floor safe ⟨lower, upper⟩
  next => exact fun amount basisPoints safe lower upper => basisPointsFloor_safe safe ⟨lower, upper⟩
  next =>
    intro lesser greater basisPoints lesserResult greaterResult ordered first second
    obtain ⟨-, points, -, rfl⟩ := (calculateBasisPoints_ok _ _ _).1 first
    obtain ⟨-, -, -, rfl⟩ := (calculateBasisPoints_ok _ _ _).1 second
    rw [roundedBasisPoints_floor, roundedBasisPoints_floor]
    exact basisPointsFloor_mono ordered points.1
  next => exact fun price promotional taxRate item below => admitted_priced taxRate item below

def podPrice : Amount := { millimes := 20000, bounds := by decide }

def podPromotion : Amount := { millimes := 18000, bounds := by decide }

def podTax : TaxRate := { bps := 1900, bounds := by decide }

def threePods : CheckoutItem := { variantId := 1, quantity := 3, bounds := by decide }

theorem half_rounds_up :
    (calculateBasisPoints (-1) 5000 = .ok 0 /\ calculateBasisPoints 3 5000 = .ok 2 /\
        calculateBasisPoints (-3) 7000 = .ok (-2)) /\
      exists line, calculateQuoteLine (admittedLine podPrice (some podPromotion) podTax threePods) = .ok line /\
        LineAmounts (admittedLine podPrice (some podPromotion) podTax threePods) line :=
  ⟨⟨(line_pricing_exact.1 (-1) 5000 (by decide) (by decide) (by decide)).trans rfl,
      (line_pricing_exact.1 3 5000 (by decide) (by decide) (by decide)).trans rfl,
      (line_pricing_exact.1 (-3) 7000 (by decide) (by decide) (by decide)).trans rfl⟩,
    line_pricing_exact.2.2.2 podPrice (some podPromotion) podTax threePods
      (fun _ same => Option.some.inj same ▸ by decide)⟩

end VapeCommerce.Checkout.LinePricing
