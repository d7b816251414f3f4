import VapeCommerce.Lib.Outcome

set_option autoImplicit false

namespace VapeCommerce.Money

open VapeCommerce.Lib.Outcome

structure RangeError where
  message : String
deriving DecidableEq, Repr

-- The integers a JavaScript number holds exactly.
def isSafeInteger (value : Int) : Prop :=
  -9007199254740991 <= value /\ value <= 9007199254740991

instance (value : Int) : Decidable (isSafeInteger value) :=
  inferInstanceAs (Decidable (_ /\ _))

def assertMillimes (value : Int) : Except RangeError Unit :=
  throwIf (Not (isSafeInteger value)) { message := "Money must be a safe integer in millimes" }

def addMillimes (values : List Int) : Except RangeError Int := do
  throwIf (Not (forall value, value ∈ values -> isSafeInteger value))
    { message := "Money must be a safe integer in millimes" }
  assertMillimes values.sum
  return values.sum

def multiplyMillimes (unitPrice : Int) (quantity : Int) : Except RangeError Int := do
  assertMillimes unitPrice
  throwIf (Not (isSafeInteger quantity) \/ quantity < 0) { message := "Invalid quantity" }
  assertMillimes (unitPrice * quantity)
  return unitPrice * quantity

-- BigInt division truncates; only an exact positive half is rounded up.
def roundedBasisPoints (amount : Int) (basisPoints : Int) : Int :=
  let numerator := amount * basisPoints
  let quotient := numerator.tdiv 10000
  let remainder := numerator.tmod 10000
  if remainder > 5000 then quotient + 1
  else if remainder < -5000 then quotient - 1
  else if remainder = 5000 then quotient + 1
  else quotient

def calculateBasisPoints (amount : Int) (basisPoints : Int) : Except RangeError Int := do
  assertMillimes amount
  throwIf (basisPoints < 0 \/ basisPoints > 100000) { message := "Invalid basis points" }
  assertMillimes (roundedBasisPoints amount basisPoints)
  return roundedBasisPoints amount basisPoints

@[simp]
theorem assertMillimes_ok (value : Int) (result : Unit) :
    assertMillimes value = .ok result <-> isSafeInteger value := by
  simp [assertMillimes]

theorem addMillimes_ok (values : List Int) (total : Int) :
    addMillimes values = .ok total <->
      (forall value, value ∈ values -> isSafeInteger value) /\ isSafeInteger values.sum /\
        values.sum = total := by
  simp only [addMillimes, bind_ok, throwIf_ok, assertMillimes_ok, pure_ok, not_not,
    exists_const]

theorem multiplyMillimes_ok (unitPrice quantity total : Int) :
    multiplyMillimes unitPrice quantity = .ok total <->
      isSafeInteger unitPrice /\ (isSafeInteger quantity /\ 0 <= quantity) /\
        isSafeInteger (unitPrice * quantity) /\ unitPrice * quantity = total := by
  simp only [multiplyMillimes, bind_ok, throwIf_ok, assertMillimes_ok, pure_ok, exists_const,
    not_or, not_not, Int.not_lt]

theorem calculateBasisPoints_ok (amount basisPoints result : Int) :
    calculateBasisPoints amount basisPoints = .ok result <->
      isSafeInteger amount /\ (0 <= basisPoints /\ basisPoints <= 100000) /\
        isSafeInteger (roundedBasisPoints amount basisPoints) /\
        roundedBasisPoints amount basisPoints = result := by
  simp only [calculateBasisPoints, bind_ok, throwIf_ok, assertMillimes_ok, pure_ok, exists_const,
    not_or, Int.not_lt]

theorem roundedBasisPoints_nonneg (amount basisPoints : Int) (amounts : 0 <= amount)
    (points : 0 <= basisPoints) : 0 <= roundedBasisPoints amount basisPoints := by
  have numerator : 0 <= amount * basisPoints := Int.mul_nonneg amounts points
  have quotient : 0 <= (amount * basisPoints).tdiv 10000 := Int.tdiv_nonneg numerator (by decide)
  have remainder : 0 <= (amount * basisPoints).tmod 10000 := Int.tmod_nonneg 10000 numerator
  unfold roundedBasisPoints
  simp only
  split
  next => omega
  next =>
    split
    next => omega
    next =>
      split
      next => omega
      next => exact quotient

-- The cash module's own bounds.
def maxMillimes : Int := 2000000000

namespace Cash

def assertMillimes (value : Int) : Except RangeError Int := do
  throwIf (Not (isSafeInteger value) \/ value < 0 \/ value > maxMillimes)
    { message := "INVALID_MILLIMES" }
  return value

def sumMillimes (values : List Int) : Except RangeError Int := do
  let checked <- values.mapM assertMillimes
  assertMillimes checked.sum

def cashDifference (expectedMillimes actualMillimes : Int) : Except RangeError Int := do
  let actual <- assertMillimes actualMillimes
  let expected <- assertMillimes expectedMillimes
  return actual - expected

theorem assertMillimes_ok (value result : Int) :
    assertMillimes value = .ok result <->
      (0 <= value /\ value <= maxMillimes) /\ value = result := by
  simp only [assertMillimes, bind_ok, throwIf_ok, pure_ok, exists_const, not_or, not_not]
  simp only [isSafeInteger, maxMillimes]
  constructor
  next => rintro ⟨⟨-, low, high⟩, same⟩; exact ⟨⟨by omega, by omega⟩, same⟩
  next => rintro ⟨bounds, same⟩; exact ⟨⟨by omega, by omega, by omega⟩, same⟩

theorem mapM_assertMillimes_ok (values results : List Int) :
    values.mapM assertMillimes = .ok results <->
      (forall value, value ∈ values -> 0 <= value /\ value <= maxMillimes) /\ values = results := by
  induction values generalizing results with
  | nil => simp [pure_ok]
  | cons head tail ih =>
    simp only [mapM_cons_ok, assertMillimes_ok, ih, List.forall_mem_cons]
    constructor
    next =>
      rintro ⟨first, ⟨bounds, rfl⟩, rest, ⟨others, rfl⟩, rfl⟩
      exact ⟨⟨bounds, others⟩, rfl⟩
    next =>
      rintro ⟨⟨bounds, others⟩, rfl⟩
      exact ⟨head, ⟨bounds, rfl⟩, tail, ⟨others, rfl⟩, rfl⟩

theorem sumMillimes_ok (values : List Int) (total : Int) :
    sumMillimes values = .ok total <->
      (forall value, value ∈ values -> 0 <= value /\ value <= maxMillimes) /\
        (0 <= values.sum /\ values.sum <= maxMillimes) /\ values.sum = total := by
  simp only [sumMillimes, bind_ok, mapM_assertMillimes_ok, assertMillimes_ok]
  constructor
  next => rintro ⟨checked, ⟨each, rfl⟩, bounds, same⟩; exact ⟨each, bounds, same⟩
  next => rintro ⟨each, bounds, same⟩; exact ⟨values, ⟨each, rfl⟩, bounds, same⟩

theorem cashDifference_ok (expected actual difference : Int) :
    cashDifference expected actual = .ok difference <->
      (0 <= expected /\ expected <= maxMillimes) /\ (0 <= actual /\ actual <= maxMillimes) /\
        actual - expected = difference := by
  simp only [cashDifference, bind_ok, assertMillimes_ok, pure_ok]
  constructor
  next => rintro ⟨_, ⟨actuals, rfl⟩, _, ⟨expecteds, rfl⟩, same⟩; exact ⟨expecteds, actuals, same⟩
  next => rintro ⟨expecteds, actuals, same⟩; exact ⟨_, ⟨actuals, rfl⟩, _, ⟨expecteds, rfl⟩, same⟩

end Cash

end VapeCommerce.Money
