import Mathlib.Data.List.Sort
import Mathlib.Algebra.Order.BigOperators.Group.List
import VapeCommerce.Database

set_option autoImplicit false

-- `allocateInventory` of checkout-order.helpers.ts, and what it takes from where.
namespace VapeCommerce.Checkout.Allocation

open VapeCommerce.Schema VapeCommerce.Database

structure InventoryDemand where
  variantId : Id
  quantity : Int
deriving DecidableEq, Repr

def demandOf (item : CheckoutItem) : InventoryDemand where
  variantId := item.variantId
  quantity := item.quantity

structure InventoryAllocationBucket where
  id : Id
  variantId : Id
  availableQuantity : Int
deriving DecidableEq, Repr

structure InventoryAllocation where
  inventoryItemId : Id
  variantId : Id
  quantity : Int
deriving DecidableEq, Repr

structure Served where
  taken : List InventoryAllocation
  left : List InventoryAllocationBucket
  remaining : Int

def Served.keeping (bucket : InventoryAllocationBucket) (served : Served) : Served :=
  { served with left := bucket :: served.left }

def Served.taking (bucket : InventoryAllocationBucket) (quantity : Int) (served : Served) : Served :=
  { taken :=
      { inventoryItemId := bucket.id, variantId := bucket.variantId, quantity } :: served.taken
    left := { bucket with availableQuantity := bucket.availableQuantity - quantity } :: served.left
    remaining := served.remaining }

-- The loop over the buckets for one line; it stops once nothing remains.
def allocateLine (variantId : Id) (remaining : Int) : List InventoryAllocationBucket -> Served
  | [] => { taken := [], left := [], remaining }
  | bucket :: rest =>
    if bucket.variantId ≠ variantId \/ bucket.availableQuantity <= 0 then
      (allocateLine variantId remaining rest).keeping bucket
    else
      let quantity := min remaining bucket.availableQuantity
      if quantity > 0 then
        if remaining - quantity = 0 then
          Served.taking bucket quantity { taken := [], left := rest, remaining := 0 }
        else (allocateLine variantId (remaining - quantity) rest).taking bucket quantity
      else if remaining = 0 then { taken := [], left := bucket :: rest, remaining := 0 }
      else (allocateLine variantId remaining rest).keeping bucket

def allocateLines : List InventoryDemand -> List InventoryAllocationBucket ->
    Option (List InventoryAllocation)
  | [], _ => some []
  | line :: lines, buckets =>
    let served := allocateLine line.variantId line.quantity buckets
    if served.remaining > 0 then none
    else (allocateLines lines served.left).map (served.taken ++ ·)

def allocateInventory (requested : List InventoryDemand) (buckets : List InventoryAllocationBucket) :
    Option (List InventoryAllocation) :=
  allocateLines (requested.insertionSort fun left right => left.variantId <= right.variantId)
    (buckets.insertionSort fun left right => left.id <= right.id)

-- What the buckets chosen by item and variant still hold, and what was taken from them.
def available (chosen : Id -> Id -> Bool) (buckets : List InventoryAllocationBucket) : Int :=
  (buckets.map fun bucket =>
    if chosen bucket.id bucket.variantId then bucket.availableQuantity else 0).sum

def allocated (chosen : Id -> Id -> Bool) (allocations : List InventoryAllocation) : Int :=
  (allocations.map fun allocation =>
    if chosen allocation.inventoryItemId allocation.variantId then allocation.quantity else 0).sum

def Stocked (buckets : List InventoryAllocationBucket) : Prop :=
  forall bucket, bucket ∈ buckets -> 0 <= bucket.availableQuantity

@[simp]
theorem available_nil (chosen : Id -> Id -> Bool) : available chosen [] = 0 := rfl

@[simp]
theorem available_cons (chosen : Id -> Id -> Bool) (bucket : InventoryAllocationBucket)
    (rest : List InventoryAllocationBucket) :
    available chosen (bucket :: rest) =
      (if chosen bucket.id bucket.variantId then bucket.availableQuantity else 0) +
        available chosen rest := rfl

@[simp]
theorem allocated_nil (chosen : Id -> Id -> Bool) : allocated chosen [] = 0 := rfl

@[simp]
theorem allocated_cons (chosen : Id -> Id -> Bool) (allocation : InventoryAllocation)
    (rest : List InventoryAllocation) :
    allocated chosen (allocation :: rest) =
      (if chosen allocation.inventoryItemId allocation.variantId then allocation.quantity else 0) +
        allocated chosen rest := rfl

theorem allocated_append (chosen : Id -> Id -> Bool) (left right : List InventoryAllocation) :
    allocated chosen (left ++ right) = allocated chosen left + allocated chosen right := by
  simp [allocated]

theorem available_nonneg (chosen : Id -> Id -> Bool) {buckets : List InventoryAllocationBucket}
    (stocked : Stocked buckets) : 0 <= available chosen buckets := by
  refine List.sum_nonneg fun amount member => ?_
  obtain ⟨bucket, present, rfl⟩ := List.mem_map.1 member
  split
  next => exact stocked bucket present
  next => exact Int.le_refl 0

theorem available_perm (chosen : Id -> Id -> Bool) {left right : List InventoryAllocationBucket}
    (same : left.Perm right) : available chosen left = available chosen right :=
  (same.map _).sum_eq

-- What one line may do: every bucket's loss is allocated, and the demand is met or outstanding.
structure Serves (variantId : Id) (demand : Int) (buckets : List InventoryAllocationBucket)
    (served : Served) : Prop where
  conserved : forall chosen,
    available chosen buckets = allocated chosen served.taken + available chosen served.left
  demanded : allocated (fun _ _ => true) served.taken + served.remaining = demand
  remaining : 0 <= served.remaining
  stocked : Stocked served.left
  kept : forall bucket, bucket ∈ served.left -> exists old, old ∈ buckets /\ old.id = bucket.id /\
    old.variantId = bucket.variantId
  taken : forall allocation, allocation ∈ served.taken -> 0 < allocation.quantity /\
    allocation.variantId = variantId /\
    exists bucket, bucket ∈ buckets /\ bucket.id = allocation.inventoryItemId /\
      bucket.variantId = variantId

theorem Serves.keeping {variantId : Id} {demand : Int} {rest : List InventoryAllocationBucket}
    {served : Served} (serves : Serves variantId demand rest served)
    (bucket : InventoryAllocationBucket) (stocked : 0 <= bucket.availableQuantity) :
    Serves variantId demand (bucket :: rest) (served.keeping bucket) where
  conserved chosen := by
    have rest := serves.conserved chosen
    simp only [Served.keeping, available_cons]
    omega
  demanded := serves.demanded
  remaining := serves.remaining
  stocked := by simpa [Stocked, Served.keeping] using ⟨stocked, serves.stocked⟩
  kept other member := by
    simp only [Served.keeping, List.mem_cons] at member
    cases member with
    | inl first => exact ⟨bucket, by simp, by simp [first]⟩
    | inr later =>
      obtain ⟨old, present, same⟩ := serves.kept other later
      exact ⟨old, by simp [present], same⟩
  taken allocation member := by
    obtain ⟨positive, same, other, present, matching⟩ := serves.taken allocation member
    exact ⟨positive, same, other, by simp [present], matching⟩

theorem Serves.taking {variantId : Id} {demand quantity : Int}
    {rest : List InventoryAllocationBucket} {served : Served}
    {bucket : InventoryAllocationBucket}
    (serves : Serves variantId (demand - quantity) rest served) (positive : 0 < quantity)
    (enough : quantity <= bucket.availableQuantity) (same : bucket.variantId = variantId) :
    Serves variantId demand (bucket :: rest) (served.taking bucket quantity) where
  conserved chosen := by
    have rest := serves.conserved chosen
    simp only [Served.taking, available_cons, allocated_cons]
    split <;> omega
  demanded := by
    have rest := serves.demanded
    simp only [Served.taking, allocated_cons, if_true]
    omega
  remaining := serves.remaining
  stocked := by
    have left : 0 <= bucket.availableQuantity - quantity := by omega
    intro other member
    simp only [Served.taking, List.mem_cons] at member
    cases member with
    | inl first => subst first; exact left
    | inr later => exact serves.stocked other later
  kept other member := by
    simp only [Served.taking, List.mem_cons] at member
    cases member with
    | inl first => exact ⟨bucket, by simp, by simp [first]⟩
    | inr later =>
      obtain ⟨old, present, same⟩ := serves.kept other later
      exact ⟨old, by simp [present], same⟩
  taken allocation member := by
    simp only [Served.taking, List.mem_cons] at member
    cases member with
    | inl first => subst first; exact ⟨positive, same, bucket, by simp, rfl, same⟩
    | inr later =>
      obtain ⟨more, variant, other, present, matching⟩ := serves.taken allocation later
      exact ⟨more, variant, other, by simp [present], matching⟩

theorem serves_nothing (variantId : Id) {buckets : List InventoryAllocationBucket}
    (stocked : Stocked buckets) :
    Serves variantId 0 buckets { taken := [], left := buckets, remaining := 0 } where
  conserved chosen := by simp
  demanded := by simp
  remaining := Int.le_refl 0
  stocked := stocked
  kept bucket member := ⟨bucket, member, rfl, rfl⟩
  taken allocation member := by simp at member

theorem allocateLine_serves (variantId : Id) (demand : Int) (demanded : 0 <= demand)
    (buckets : List InventoryAllocationBucket) (stocked : Stocked buckets) :
    Serves variantId demand buckets (allocateLine variantId demand buckets) := by
  induction buckets generalizing demand with
  | nil =>
    exact {
      conserved := by simp [allocateLine]
      demanded := by simp [allocateLine]
      remaining := demanded
      stocked
      kept := by simp [allocateLine]
      taken := by simp [allocateLine] }
  | cons bucket rest ih =>
    have here : 0 <= bucket.availableQuantity := stocked bucket (by simp)
    have there : Stocked rest := fun other member => stocked other (by simp [member])
    unfold allocateLine
    split
    next => exact (ih demand demanded there).keeping bucket here
    next usable =>
      simp only [not_or, not_not, Int.not_le] at usable
      dsimp only
      split
      next positive =>
        have enough : min demand bucket.availableQuantity <= bucket.availableQuantity :=
          Int.min_le_right _ _
        split
        next finished =>
          refine Serves.taking ?_ positive enough usable.1
          rw [finished]
          exact serves_nothing variantId there
        next =>
          have rest : 0 <= demand - min demand bucket.availableQuantity := by omega
          exact (ih _ rest there).taking positive enough usable.1
      next =>
        split
        next empty => rw [empty]; exact serves_nothing variantId stocked
        next => exact (ih demand demanded there).keeping bucket here

theorem Serves.taken_nonneg {variantId : Id} {demand : Int}
    {buckets : List InventoryAllocationBucket} {served : Served}
    (serves : Serves variantId demand buckets served) (chosen : Id -> Id -> Bool) :
    0 <= allocated chosen served.taken := by
  refine List.sum_nonneg fun amount member => ?_
  obtain ⟨allocation, present, rfl⟩ := List.mem_map.1 member
  split
  next => exact Int.le_of_lt (serves.taken allocation present).1
  next => exact Int.le_refl 0

-- A line that is served in full found its quantity among the buckets of its variant.
theorem Serves.demand_available {variantId : Id} {demand : Int}
    {buckets : List InventoryAllocationBucket} {served : Served}
    (serves : Serves variantId demand buckets served) (full : Not (served.remaining > 0)) :
    demand <= available (fun _ variant => variant == variantId) buckets := by
  have same : allocated (fun _ _ => true) served.taken =
      allocated (fun _ variant => variant == variantId) served.taken := by
    refine congrArg List.sum (List.map_congr_left fun allocation member => ?_)
    simp [(serves.taken allocation member).2.1]
  have conserved := serves.conserved fun _ variant => variant == variantId
  have left := available_nonneg (fun _ variant => variant == variantId) serves.stocked
  have demanded := serves.demanded
  omega

theorem allocateLines_cons {line : InventoryDemand} {lines : List InventoryDemand}
    {buckets : List InventoryAllocationBucket} {allocations : List InventoryAllocation}
    (done : allocateLines (line :: lines) buckets = some allocations) :
    Not ((allocateLine line.variantId line.quantity buckets).remaining > 0) /\
      exists later,
        allocateLines lines (allocateLine line.variantId line.quantity buckets).left = some later /\
        (allocateLine line.variantId line.quantity buckets).taken ++ later = allocations := by
  simp only [allocateLines] at done
  split at done
  next => simp at done
  next full => exact ⟨full, Option.map_eq_some_iff.1 done⟩

-- What a whole allocation guarantees about the buckets it drew on.
structure Allocates (lines : List InventoryDemand) (buckets : List InventoryAllocationBucket)
    (allocations : List InventoryAllocation) : Prop where
  bounded : forall chosen, allocated chosen allocations <= available chosen buckets
  covered : forall line, line ∈ lines ->
    line.quantity <= available (fun _ variant => variant == line.variantId) buckets
  drawn : forall allocation, allocation ∈ allocations -> 0 < allocation.quantity /\
    exists bucket, bucket ∈ buckets /\ bucket.id = allocation.inventoryItemId /\
      bucket.variantId = allocation.variantId

theorem allocateLines_allocates {lines : List InventoryDemand}
    {buckets : List InventoryAllocationBucket} {allocations : List InventoryAllocation}
    (quantities : forall line, line ∈ lines -> 0 <= line.quantity) (stocked : Stocked buckets)
    (done : allocateLines lines buckets = some allocations) :
    Allocates lines buckets allocations := by
  induction lines generalizing buckets allocations with
  | nil =>
    obtain rfl := Option.some.inj done
    exact {
      bounded := fun chosen => available_nonneg chosen stocked
      covered := by simp
      drawn := by simp }
  | cons line lines ih =>
    have serves := allocateLine_serves line.variantId line.quantity
      (quantities line (by simp)) buckets stocked
    obtain ⟨full, later, served, rfl⟩ := allocateLines_cons done
    have rest := ih (fun other member => quantities other (by simp [member])) serves.stocked served
    refine { bounded := fun chosen => ?_, covered := ?_, drawn := ?_ }
    next =>
      have here := serves.conserved chosen
      have there := rest.bounded chosen
      rw [allocated_append]
      omega
    next =>
      intro other member
      cases List.mem_cons.1 member with
      | inl first => subst first; exact serves.demand_available full
      | inr after =>
        have there := rest.covered other after
        have conserved := serves.conserved fun _ variant => variant == other.variantId
        have taken := serves.taken_nonneg fun _ variant => variant == other.variantId
        omega
    next =>
      intro allocation member
      cases List.mem_append.1 member with
      | inl first =>
        obtain ⟨positive, variant, bucket, present, same, matching⟩ :=
          serves.taken allocation first
        exact ⟨positive, bucket, present, same, matching.trans variant.symm⟩
      | inr after =>
        obtain ⟨positive, bucket, present, same, matching⟩ := rest.drawn allocation after
        obtain ⟨old, known, sameOld, matchingOld⟩ := serves.kept bucket present
        exact ⟨positive, old, known, sameOld.trans same, matchingOld.trans matching⟩

theorem allocateInventory_allocates {requested : List InventoryDemand}
    {buckets : List InventoryAllocationBucket} {allocations : List InventoryAllocation}
    (quantities : forall line, line ∈ requested -> 0 <= line.quantity) (stocked : Stocked buckets)
    (done : allocateInventory requested buckets = some allocations) :
    Allocates requested buckets allocations := by
  have lines := List.perm_insertionSort (fun left right : InventoryDemand =>
    left.variantId <= right.variantId) requested
  have sorted := List.perm_insertionSort (fun left right : InventoryAllocationBucket =>
    left.id <= right.id) buckets
  have allocates := allocateLines_allocates
    (fun line member => quantities line (lines.mem_iff.1 member))
    (fun bucket member => stocked bucket (sorted.mem_iff.1 member)) done
  refine { bounded := fun chosen => ?_, covered := fun line member => ?_, drawn := ?_ }
  next =>
    rw [<- available_perm chosen sorted]
    exact allocates.bounded chosen
  next =>
    rw [<- available_perm _ sorted]
    exact allocates.covered line (lines.mem_iff.2 member)
  next =>
    intro allocation member
    obtain ⟨positive, bucket, present, same⟩ := allocates.drawn allocation member
    exact ⟨positive, bucket, sorted.mem_iff.1 present, same⟩

end VapeCommerce.Checkout.Allocation
