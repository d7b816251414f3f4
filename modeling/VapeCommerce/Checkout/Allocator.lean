import Mathlib.Data.List.Nodup
import VapeCommerce.Checkout.Allocation

set_option autoImplicit false

-- When `allocateInventory` succeeds and what it hands out, for any demands and any stock.
namespace VapeCommerce.Checkout.Allocator

open VapeCommerce.Schema VapeCommerce.Checkout.Allocation

-- An exhausted or oversold bucket adds nothing.
def supply (variantId : Id) (buckets : List InventoryAllocationBucket) : Int :=
  (buckets.map fun bucket =>
    if bucket.variantId = variantId then max bucket.availableQuantity 0 else 0).sum

def ofVariant (variantId : Id) (buckets : List InventoryAllocationBucket) :
    List InventoryAllocationBucket :=
  buckets.filter fun bucket => decide (bucket.variantId = variantId)

def allocatedTo (variantId : Id) (allocations : List InventoryAllocation) : Int :=
  allocated (fun _ variant => variant == variantId) allocations

-- An allocation drawn on one of the buckets, within what that bucket had.
def DrawnFrom (variantId : Id) (buckets : List InventoryAllocationBucket)
    (allocation : InventoryAllocation) : Prop :=
  0 < allocation.quantity /\ allocation.variantId = variantId /\
    exists bucket, bucket ∈ buckets /\ bucket.id = allocation.inventoryItemId /\
      bucket.variantId = variantId /\ allocation.quantity <= bucket.availableQuantity

theorem supply_cons (variantId : Id) (bucket : InventoryAllocationBucket)
    (rest : List InventoryAllocationBucket) :
    supply variantId (bucket :: rest) =
      (if bucket.variantId = variantId then max bucket.availableQuantity 0 else 0) +
        supply variantId rest := rfl

theorem supply_nonneg (variantId : Id) (buckets : List InventoryAllocationBucket) :
    0 <= supply variantId buckets := by
  refine List.sum_nonneg fun amount member => ?_
  obtain ⟨bucket, -, rfl⟩ := List.mem_map.1 member
  split <;> omega

theorem supply_perm (variantId : Id) {left right : List InventoryAllocationBucket}
    (same : left.Perm right) : supply variantId left = supply variantId right :=
  (same.map _).sum_eq

theorem DrawnFrom.cons {variantId : Id} {buckets : List InventoryAllocationBucket}
    {allocation : InventoryAllocation} (drawn : DrawnFrom variantId buckets allocation)
    (bucket : InventoryAllocationBucket) : DrawnFrom variantId (bucket :: buckets) allocation := by
  obtain ⟨positive, same, found, present, facts⟩ := drawn
  exact ⟨positive, same, found, by simp [present], facts⟩

-- One line takes what it can from the buckets of its variant and leaves the others alone.
structure Fills (variantId : Id) (demand : Int) (buckets : List InventoryAllocationBucket)
    (served : Served) : Prop where
  total : allocatedTo variantId served.taken + served.remaining = demand
  shortfall : served.remaining = max (demand - supply variantId buckets) 0
  drawn : forall allocation, allocation ∈ served.taken -> DrawnFrom variantId buckets allocation
  once : (served.taken.map (·.inventoryItemId)).Sublist (buckets.map (·.id))
  others : forall other, other ≠ variantId -> ofVariant other served.left = ofVariant other buckets

theorem Fills.keeping {variantId : Id} {demand : Int} {rest : List InventoryAllocationBucket}
    {served : Served} (fills : Fills variantId demand rest served) {bucket : InventoryAllocationBucket}
    (useless : bucket.variantId ≠ variantId \/ bucket.availableQuantity <= 0) :
    Fills variantId demand (bucket :: rest) (served.keeping bucket) where
  total := fills.total
  shortfall := by
    have nothing : (if bucket.variantId = variantId then max bucket.availableQuantity 0 else 0) = 0 := by
      split
      next same =>
        have empty := useless.resolve_left (not_not_intro same)
        omega
      next => rfl
    rw [supply_cons, nothing, Int.zero_add]
    exact fills.shortfall
  drawn allocation member := (fills.drawn allocation member).cons bucket
  once := fills.once.cons _
  others other apart := by
    have same := fills.others other apart
    simp only [ofVariant, Served.keeping, List.filter_cons] at same ⊢
    rw [same]

theorem Fills.taking {variantId : Id} {demand quantity : Int} {rest : List InventoryAllocationBucket}
    {served : Served} {bucket : InventoryAllocationBucket}
    (fills : Fills variantId (demand - quantity) rest served) (positive : 0 < quantity)
    (enough : quantity <= bucket.availableQuantity) (same : bucket.variantId = variantId)
    (exhausts : quantity = bucket.availableQuantity \/ quantity = demand) :
    Fills variantId demand (bucket :: rest) (served.taking bucket quantity) where
  total := by
    have rest := fills.total
    simp only [allocatedTo, Served.taking, allocated_cons, same, beq_self_eq_true, if_true] at rest ⊢
    omega
  shortfall := by
    have supplied := supply_nonneg variantId rest
    have later := fills.shortfall
    simp only [Served.taking, supply_cons, same, if_true]
    omega
  drawn allocation member := by
    simp only [Served.taking, List.mem_cons] at member
    cases member with
    | inl first => subst first; exact ⟨positive, same, bucket, by simp, rfl, same, enough⟩
    | inr later => exact (fills.drawn allocation later).cons bucket
  once := fills.once.cons_cons _
  others other apart := by
    have kept := fills.others other apart
    have different : Not (variantId = other) := fun matching => apart matching.symm
    simp only [ofVariant, Served.taking, List.filter_cons, same, different, decide_false,
      Bool.false_eq_true, if_false] at kept ⊢
    exact kept

theorem fills_nothing (variantId : Id) (buckets : List InventoryAllocationBucket) :
    Fills variantId 0 buckets { taken := [], left := buckets, remaining := 0 } where
  total := rfl
  shortfall := by
    have supplied := supply_nonneg variantId buckets
    simp only
    omega
  drawn allocation member := by simp at member
  once := List.nil_sublist _
  others _ _ := rfl

theorem allocateLine_fills (variantId : Id) {demand : Int} (demanded : 0 <= demand)
    (buckets : List InventoryAllocationBucket) :
    Fills variantId demand buckets (allocateLine variantId demand buckets) := by
  induction buckets generalizing demand with
  | nil =>
    exact {
      total := by simp [allocateLine, allocatedTo]
      shortfall := by simp [allocateLine, supply]; omega
      drawn := by simp [allocateLine]
      once := by simp [allocateLine]
      others := fun _ _ => rfl }
  | cons bucket rest ih =>
    unfold allocateLine
    split
    next useless => exact (ih demanded).keeping useless
    next usable =>
      simp only [not_or, not_not, Int.not_le] at usable
      dsimp only
      split
      next positive =>
        have enough : min demand bucket.availableQuantity <= bucket.availableQuantity :=
          Int.min_le_right _ _
        have exhausts : min demand bucket.availableQuantity = bucket.availableQuantity \/
            min demand bucket.availableQuantity = demand := by omega
        split
        next finished =>
          refine Fills.taking ?_ positive enough usable.1 exhausts
          rw [finished]
          exact fills_nothing variantId rest
        next =>
          have left : 0 <= demand - min demand bucket.availableQuantity := by omega
          exact (ih left).taking positive enough usable.1 exhausts
      next idle =>
        have empty : demand = 0 := by omega
        rw [if_pos empty, empty]
        exact fills_nothing variantId (bucket :: rest)

section Lines

-- A line sees the buckets of its own variant only.
theorem allocateLine_ofVariant (variantId : Id) (demand : Int)
    (buckets : List InventoryAllocationBucket) :
    (allocateLine variantId demand buckets).taken =
        (allocateLine variantId demand (ofVariant variantId buckets)).taken /\
      (allocateLine variantId demand buckets).remaining =
        (allocateLine variantId demand (ofVariant variantId buckets)).remaining := by
  induction buckets generalizing demand with
  | nil => exact ⟨rfl, rfl⟩
  | cons bucket rest ih =>
    by_cases same : bucket.variantId = variantId
    next =>
      have chosen : ofVariant variantId (bucket :: rest) = bucket :: ofVariant variantId rest := by
        simp [ofVariant, same]
      rw [chosen, allocateLine, allocateLine]
      split
      next => exact ih demand
      next =>
        dsimp only
        split
        next =>
          split
          next => exact ⟨rfl, rfl⟩
          next =>
            obtain ⟨taken, remaining⟩ := ih (demand - min demand bucket.availableQuantity)
            exact ⟨by simp only [Served.taking, taken], remaining⟩
        next =>
          split
          next => exact ⟨rfl, rfl⟩
          next => exact ih demand
    next =>
      have skipped : ofVariant variantId (bucket :: rest) = ofVariant variantId rest := by
        simp [ofVariant, same]
      rw [skipped, allocateLine, if_pos (.inl same)]
      exact ih demand

theorem allocateLine_congr {variantId : Id} (demand : Int)
    {left right : List InventoryAllocationBucket}
    (same : ofVariant variantId left = ofVariant variantId right) :
    (allocateLine variantId demand left).taken = (allocateLine variantId demand right).taken /\
      (allocateLine variantId demand left).remaining =
        (allocateLine variantId demand right).remaining := by
  obtain ⟨leftTaken, leftRemaining⟩ := allocateLine_ofVariant variantId demand left
  obtain ⟨rightTaken, rightRemaining⟩ := allocateLine_ofVariant variantId demand right
  rw [leftTaken, leftRemaining, rightTaken, rightRemaining, same]
  exact ⟨rfl, rfl⟩

-- Distinct demands are served as if each of them came first.
theorem allocateLines_eq {lines : List InventoryDemand} {buckets current : List InventoryAllocationBucket}
    (demands : (lines.map (·.variantId)).Nodup) (positive : forall line, line ∈ lines -> 0 < line.quantity)
    (untouched : forall line, line ∈ lines ->
      ofVariant line.variantId current = ofVariant line.variantId buckets) :
    allocateLines lines current =
      if forall line, line ∈ lines -> line.quantity <= supply line.variantId buckets then
        some (lines.flatMap fun line => (allocateLine line.variantId line.quantity buckets).taken)
      else none := by
  induction lines generalizing current with
  | nil => simp [allocateLines]
  | cons line lines ih =>
    have here : 0 <= line.quantity := Int.le_of_lt (positive line (by simp))
    obtain ⟨taken, remaining⟩ := allocateLine_congr line.quantity (untouched line (by simp))
    have shortfall := (allocateLine_fills line.variantId here buckets).shortfall
    rw [List.map_cons, List.nodup_cons] at demands
    rw [allocateLines, taken, remaining]
    split
    next short =>
      rw [if_neg]
      intro all
      have fits := all line (by simp)
      omega
    next full =>
      have fits : line.quantity <= supply line.variantId buckets := by omega
      have later := @ih (allocateLine line.variantId line.quantity current).left demands.2
        (fun other member => positive other (by simp [member])) (by
          intro other member
          have apart : other.variantId ≠ line.variantId := fun same =>
            demands.1 (same ▸ List.mem_map_of_mem member)
          rw [(allocateLine_fills line.variantId here current).others _ apart]
          exact untouched other (by simp [member]))
      rw [later]
      by_cases rest : forall other, other ∈ lines -> other.quantity <= supply other.variantId buckets
      next =>
        have all : forall other, other ∈ line :: lines ->
            other.quantity <= supply other.variantId buckets := by
          intro other member
          cases List.mem_cons.1 member with
          | inl first => exact first ▸ fits
          | inr after => exact rest other after
        rw [if_pos rest, if_pos all]
        rfl
      next =>
        rw [if_neg rest, if_neg fun all => rest fun other member => all other (by simp [member])]
        rfl

theorem supply_of_perm {lines other : List InventoryDemand}
    {buckets otherBuckets : List InventoryAllocationBucket} (sameLines : other.Perm lines)
    (sameBuckets : otherBuckets.Perm buckets) :
    (forall line, line ∈ other -> line.quantity <= supply line.variantId otherBuckets) <->
      forall line, line ∈ lines -> line.quantity <= supply line.variantId buckets := by
  simp only [sameLines.mem_iff, supply_perm _ sameBuckets]

theorem allocatedTo_flatMap (variantId : Id) (lines : List InventoryDemand)
    (taken : InventoryDemand -> List InventoryAllocation) :
    allocatedTo variantId (lines.flatMap taken) =
      (lines.map fun line => allocatedTo variantId (taken line)).sum := by
  induction lines with
  | nil => rfl
  | cons line rest ih =>
    rw [List.flatMap_cons, List.map_cons, List.sum_cons, <- ih]
    exact allocated_append _ _ _

-- Only the line that asks for a variant adds to what is allocated to it.
theorem allocated_once {lines : List InventoryDemand} (demands : (lines.map (·.variantId)).Nodup)
    {taken : InventoryDemand -> List InventoryAllocation}
    (own : forall line, line ∈ lines -> forall allocation, allocation ∈ taken line ->
      allocation.variantId = line.variantId)
    {line : InventoryDemand} (member : line ∈ lines) :
    allocatedTo line.variantId (lines.flatMap taken) = allocatedTo line.variantId (taken line) := by
  have elsewhere : forall other, other ∈ lines -> other.variantId ≠ line.variantId ->
      allocatedTo line.variantId (taken other) = 0 := by
    intro other present apart
    refine List.sum_eq_zero fun amount counted => ?_
    obtain ⟨allocation, drawn, rfl⟩ := List.mem_map.1 counted
    have different : allocation.variantId ≠ line.variantId := by
      rw [own other present allocation drawn]
      exact apart
    simp [different]
  rw [allocatedTo_flatMap]
  clear own
  induction lines with
  | nil => simp at member
  | cons first rest ih =>
    rw [List.map_cons, List.nodup_cons] at demands
    rw [List.map_cons, List.sum_cons]
    cases List.mem_cons.1 member with
    | inl here =>
      subst here
      have others : (rest.map fun other => allocatedTo line.variantId (taken other)).sum = 0 := by
        refine List.sum_eq_zero fun amount counted => ?_
        obtain ⟨other, present, rfl⟩ := List.mem_map.1 counted
        exact elsewhere other (by simp [present]) fun same =>
          demands.1 (same ▸ List.mem_map_of_mem present)
      omega
    | inr later =>
      have apart : first.variantId ≠ line.variantId := fun same =>
        demands.1 (same ▸ List.mem_map_of_mem later)
      have first := elsewhere first (by simp) apart
      have rest := ih demands.2 later fun other present => elsewhere other (by simp [present])
      omega

-- Lines of different variants never draw on one bucket.
theorem drawn_once {lines : List InventoryDemand} {buckets : List InventoryAllocationBucket}
    (demands : (lines.map (·.variantId)).Nodup) (distinct : (buckets.map (·.id)).Nodup)
    {taken : InventoryDemand -> List InventoryAllocation}
    (drawn : forall line, line ∈ lines -> forall allocation, allocation ∈ taken line ->
      DrawnFrom line.variantId buckets allocation)
    (once : forall line, line ∈ lines ->
      ((taken line).map (·.inventoryItemId)).Sublist (buckets.map (·.id))) :
    ((lines.flatMap taken).map (·.inventoryItemId)).Nodup := by
  rw [List.map_flatMap, List.nodup_flatMap]
  refine ⟨fun line member => (once line member).nodup distinct, ?_⟩
  have apart := List.pairwise_map.1 demands
  refine apart.imp_of_mem fun {left right} leftMember rightMember different => ?_
  simp only [Function.onFun, List.disjoint_left, List.mem_map, not_exists, not_and]
  rintro itemId ⟨allocation, present, rfl⟩ other otherPresent same
  obtain ⟨-, -, bucket, bucketPresent, bucketId, bucketVariant, -⟩ :=
    drawn left leftMember allocation present
  obtain ⟨-, -, bucket', bucketPresent', bucketId', bucketVariant', -⟩ :=
    drawn right rightMember other otherPresent
  have one : bucket = bucket' :=
    List.inj_on_of_nodup_map distinct bucketPresent bucketPresent' (by rw [bucketId, bucketId', same])
  exact different (bucketVariant.symm.trans (one ▸ bucketVariant'))

end Lines

-- What a complete allocation owes to the demands and to the stock.
structure Exact (requested : List InventoryDemand) (buckets : List InventoryAllocationBucket)
    (allocations : List InventoryAllocation) : Prop where
  served : forall line, line ∈ requested -> allocatedTo line.variantId allocations = line.quantity
  drawn : forall allocation, allocation ∈ allocations ->
    exists line, line ∈ requested /\ DrawnFrom line.variantId buckets allocation
  once : (allocations.map (·.inventoryItemId)).Nodup

theorem allocateInventory_eq {requested : List InventoryDemand}
    {buckets : List InventoryAllocationBucket} (demands : (requested.map (·.variantId)).Nodup)
    (positive : forall line, line ∈ requested -> 0 < line.quantity) :
    exists (lines : List InventoryDemand) (sorted : List InventoryAllocationBucket),
      lines.Perm requested /\ sorted.Perm buckets /\
      allocateInventory requested buckets =
        if forall line, line ∈ requested -> line.quantity <= supply line.variantId buckets then
          some (lines.flatMap fun line => (allocateLine line.variantId line.quantity sorted).taken)
        else none := by
  have lines := List.perm_insertionSort (fun left right : InventoryDemand =>
    left.variantId <= right.variantId) requested
  have sorted := List.perm_insertionSort (fun left right : InventoryAllocationBucket =>
    left.id <= right.id) buckets
  refine ⟨_, _, lines, sorted, ?_⟩
  have computed := @allocateLines_eq _
    (buckets.insertionSort fun left right => left.id <= right.id) _ ((lines.map _).nodup_iff.2 demands)
    (fun line member => positive line (lines.mem_iff.1 member)) (fun _ _ => rfl)
  simp only [supply_of_perm lines sorted] at computed
  exact computed

-- Whatever the allocator hands out serves every demand.
theorem allocateInventory_serves {requested : List InventoryDemand}
    {buckets : List InventoryAllocationBucket} (demands : (requested.map (·.variantId)).Nodup)
    (positive : forall line, line ∈ requested -> 0 < line.quantity)
    (distinct : (buckets.map (·.id)).Nodup) {allocations : List InventoryAllocation}
    (done : allocateInventory requested buckets = some allocations) :
    Exact requested buckets allocations := by
  obtain ⟨lines, sorted, sameLines, sameBuckets, computed⟩ := @allocateInventory_eq _ buckets demands positive
  rw [computed] at done
  split at done
  next fits =>
    obtain rfl := Option.some.inj done
    have distinctLines := (sameLines.map (·.variantId)).nodup_iff.2 demands
    have distinctSorted := (sameBuckets.map (·.id)).nodup_iff.2 distinct
    have fills : forall line, line ∈ lines -> Fills line.variantId line.quantity sorted
        (allocateLine line.variantId line.quantity sorted) := fun line member =>
      allocateLine_fills line.variantId (Int.le_of_lt (positive line (sameLines.mem_iff.1 member))) sorted
    refine { served := fun line member => ?_, drawn := fun allocation member => ?_, once := ?_ }
    next =>
      have here := sameLines.mem_iff.2 member
      have own := allocated_once distinctLines (fun other present allocation taken =>
        ((fills other present).drawn allocation taken).2.1) here
      have supplied := fits line member
      rw [<- supply_perm _ sameBuckets] at supplied
      have total := (fills line here).total
      have shortfall := (fills line here).shortfall
      rw [own]
      omega
    next =>
      obtain ⟨line, here, taken⟩ := List.mem_flatMap.1 member
      obtain ⟨more, same, bucket, present, facts⟩ := (fills line here).drawn allocation taken
      exact ⟨line, sameLines.mem_iff.1 here, more, same, bucket, sameBuckets.mem_iff.1 present, facts⟩
    next =>
      exact drawn_once distinctLines distinctSorted (fun line here => (fills line here).drawn)
        fun line here => (fills line here).once
  next => simp at done

/-- The allocator succeeds exactly when every variant has the stock asked for, whatever the order of
    its arguments, and then serves every demand in full without drawing on a bucket twice. -/
theorem allocateInventory_exact (requested : List InventoryDemand)
    (buckets : List InventoryAllocationBucket) (demands : (requested.map (·.variantId)).Nodup)
    (positive : forall line, line ∈ requested -> 0 < line.quantity)
    (distinct : (buckets.map (·.id)).Nodup) :
    ((allocateInventory requested buckets).isSome = true <->
        forall line, line ∈ requested -> line.quantity <= supply line.variantId buckets) /\
      (forall allocations, allocateInventory requested buckets = some allocations ->
        Exact requested buckets allocations) /\
      forall other otherBuckets, other.Perm requested -> otherBuckets.Perm buckets ->
        (allocateInventory other otherBuckets).isSome = (allocateInventory requested buckets).isSome := by
  obtain ⟨lines, sorted, sameLines, sameBuckets, computed⟩ := @allocateInventory_eq _ buckets demands positive
  refine ⟨?_, ?_, ?_⟩
  next =>
    rw [computed]
    split <;> simp_all
  next => exact fun allocations done => allocateInventory_serves demands positive distinct done
  next =>
    intro other otherBuckets otherLines otherStock
    obtain ⟨_, _, -, -, otherComputed⟩ := @allocateInventory_eq other otherBuckets
      ((otherLines.map (·.variantId)).nodup_iff.2 demands)
      (fun line member => positive line (otherLines.mem_iff.1 member))
    rw [computed, otherComputed]
    simp only [supply_of_perm otherLines otherStock]
    split <;> rfl

theorem three_pods_from_two_buckets :
    allocateInventory [{ variantId := 7, quantity := 3 }]
        [{ id := 2, variantId := 7, availableQuantity := 5 }, { id := 9, variantId := 8, availableQuantity := 4 },
          { id := 1, variantId := 7, availableQuantity := 2 }] =
        some [{ inventoryItemId := 1, variantId := 7, quantity := 2 },
          { inventoryItemId := 2, variantId := 7, quantity := 1 }] /\
      Exact [{ variantId := 7, quantity := 3 }]
        [{ id := 2, variantId := 7, availableQuantity := 5 }, { id := 9, variantId := 8, availableQuantity := 4 },
          { id := 1, variantId := 7, availableQuantity := 2 }]
        [{ inventoryItemId := 1, variantId := 7, quantity := 2 },
          { inventoryItemId := 2, variantId := 7, quantity := 1 }] :=
  ⟨by decide, (allocateInventory_exact _ _ (by decide) (by decide) (by decide)).2.1 _ (by decide)⟩

end VapeCommerce.Checkout.Allocator
