import Mathlib.Data.List.Perm.Subperm
import VapeCommerce.Checkout.Quote
import VapeCommerce.Checkout.Order

set_option autoImplicit false

-- What order creation may allocate, measured by the stock the quote counts.
namespace VapeCommerce.Checkout.Stock

open VapeCommerce.Lib VapeCommerce.Lib.Outcome VapeCommerce.Schema VapeCommerce.Config
open VapeCommerce.Database VapeCommerce.Money VapeCommerce.Checkout.Catalogue
open VapeCommerce.Checkout.Fulfillment VapeCommerce.Checkout.Lines VapeCommerce.Checkout.Allocation
open VapeCommerce.Checkout.Order VapeCommerce.Checkout.Quote

def freeQuantity (db : Db) (now : Int) (item : InventoryItem) : Int :=
  item.onHandQuantity - reservedQuantity db now item.id

-- The free stock of the eligible items that `chosen` picks by item and variant.
def sellableQuantity (db : Db) (now : Int) (chosen : Id -> Id -> Bool) : Int :=
  (db.items.rows.map fun item =>
    if chosen item.id item.variantId && eligibleOrderInventoryWhere db now item then
      max 0 (freeQuantity db now item)
    else 0).sum

theorem addReserved_total {reservations : List StockReservation} {start total : Int}
    (added : reservations.foldlM addReserved start = .ok total) :
    total = start + (reservations.map (·.quantity)).sum := by
  induction reservations generalizing start with
  | nil =>
    simp only [List.foldlM_nil, pure_ok] at added
    simp [added]
  | cons reservation rest ih =>
    simp only [List.foldlM_cons, bind_ok, addReserved, throwIf_ok, pure_ok] at added
    obtain ⟨_, ⟨⟨⟩, -, ⟨⟩, -, rfl⟩, later⟩ := added
    rw [ih later, List.map_cons, List.sum_cons]
    omega

theorem allocationBucket_ok {db : Db} {now : Int} {item : InventoryItem}
    {bucket : InventoryAllocationBucket} (made : allocationBucket db now item = .ok bucket) :
    0 <= freeQuantity db now item /\
      bucket = {
        id := item.id
        variantId := item.variantId
        availableQuantity := freeQuantity db now item } := by
  simp only [allocationBucket, bind_ok, throwIf_ok, pure_ok] at made
  obtain ⟨reserved, added, ⟨⟩, covered, rfl⟩ := made
  have total := addReserved_total added
  have same : reserved = reservedQuantity db now item.id := by
    rw [total, reservedQuantity]
    omega
  subst same
  exact ⟨by unfold freeQuantity; omega, rfl⟩

theorem buckets_available {db : Db} {now : Int} {inventory : List InventoryItem}
    {buckets : List InventoryAllocationBucket}
    (made : inventory.mapM (allocationBucket db now) = .ok buckets) (chosen : Id -> Id -> Bool) :
    available chosen buckets =
      (inventory.map fun item =>
        if chosen item.id item.variantId then max 0 (freeQuantity db now item) else 0).sum := by
  induction inventory generalizing buckets with
  | nil =>
    simp only [List.mapM_nil, pure_ok] at made
    simp [<- made]
  | cons item rest ih =>
    obtain ⟨bucket, first, others, later, rfl⟩ := (mapM_cons_ok _ _ _ _).1 made
    obtain ⟨free, rfl⟩ := allocationBucket_ok first
    rw [available_cons, ih later, List.map_cons, List.sum_cons, max_eq_right free]

theorem bucket_of_item {db : Db} {now : Int} {inventory : List InventoryItem}
    {buckets : List InventoryAllocationBucket}
    (made : inventory.mapM (allocationBucket db now) = .ok buckets)
    {bucket : InventoryAllocationBucket} (member : bucket ∈ buckets) :
    0 <= bucket.availableQuantity /\ exists item, item ∈ inventory /\ item.id = bucket.id /\
      item.variantId = bucket.variantId := by
  obtain ⟨item, present, ran⟩ := mapM_ok_mem made member
  obtain ⟨free, rfl⟩ := allocationBucket_ok ran
  exact ⟨free, item, present, rfl, rfl⟩

theorem sellableVariants_ids (config : Configuration) (now : Int) (variantIds : List Id) :
    ((sellableVariants config now variantIds).map (·.1.id)).Nodup := by
  have sub : ((sellableVariants config now variantIds).map (·.1)).Sublist config.variants := by
    unfold sellableVariants
    induction config.variants with
    | nil => simp
    | cons variant rest ih =>
      rw [List.filterMap_cons]
      split
      next => exact ih.cons variant
      next entry found =>
        split at found
        next =>
          obtain ⟨product, -, rfl⟩ := Option.map_eq_some_iff.1 found
          exact ih.cons_cons variant
        next => simp at found
  have ids := (sub.map ProductVariant.id).nodup config.variantIds
  simpa [List.map_map, Function.comp_def] using ids

def orderInventory (db : Db) (now : Int) (variantIds : List Id) : List InventoryItem :=
  (sellableVariants db.config now variantIds).flatMap fun entry =>
    variantItems db (candidateIds db now variantIds) entry.1

theorem mem_orderInventory {db : Db} {now : Int} {variantIds : List Id} {item : InventoryItem}
    (member : item ∈ orderInventory db now variantIds) :
    item ∈ db.items.rows /\ eligibleOrderInventoryWhere db now item = true := by
  simp only [orderInventory, List.mem_flatMap, variantItems, Table.filter, List.mem_filter,
    Bool.and_eq_true, decide_eq_true_eq] at member
  obtain ⟨entry, -, present, -, candidate⟩ := member
  simp only [candidateIds, Table.filter, List.mem_map, List.mem_filter, Bool.and_eq_true] at candidate
  obtain ⟨other, ⟨known, -, eligible⟩, same⟩ := candidate
  obtain rfl := db.items.same_of_key known present same
  exact ⟨present, eligible⟩

theorem orderInventory_nodup (db : Db) (now : Int) (variantIds : List Id) :
    (orderInventory db now variantIds).Nodup := by
  have rows : db.items.rows.Nodup := List.Nodup.of_map _ db.items.distinct
  refine List.nodup_flatMap.2 ⟨fun entry _ => rows.filter _, ?_⟩
  have apart := List.pairwise_map.1 (sellableVariants_ids db.config now variantIds)
  refine apart.imp fun {left right} different item here there => different ?_
  simp only [variantItems, Table.filter, List.mem_filter, Bool.and_eq_true, beq_iff_eq] at here there
  exact here.2.1.symm.trans there.2.1

-- The buckets hold no more than the eligible stock, whatever is asked of them.
theorem orderInventory_bound (db : Db) (now : Int) (variantIds : List Id) (chosen : Id -> Id -> Bool) :
    ((orderInventory db now variantIds).map fun item =>
      if chosen item.id item.variantId then max 0 (freeQuantity db now item) else 0).sum <=
      sellableQuantity db now chosen := by
  have same : ((orderInventory db now variantIds).map fun item =>
      if chosen item.id item.variantId then max 0 (freeQuantity db now item) else 0) =
      (orderInventory db now variantIds).map fun item =>
        if chosen item.id item.variantId && eligibleOrderInventoryWhere db now item then
          max 0 (freeQuantity db now item)
        else 0 :=
    List.map_congr_left fun item member => by simp [(mem_orderInventory member).2]
  rw [same]
  obtain ⟨chosenRows, permuted, sub⟩ := List.Nodup.subperm (orderInventory_nodup db now variantIds)
    (fun item member => (mem_orderInventory member).1)
  rw [<- (permuted.map _).sum_eq]
  refine (sub.map _).sum_le_sum fun amount member => ?_
  obtain ⟨item, -, rfl⟩ := List.mem_map.1 member
  split
  next => exact Int.le_max_left _ _
  next => exact Int.le_refl 0

-- What a priced order takes from the stock.
structure Draws (db : Db) (now : Int) (items : List CheckoutItem)
    (allocations : List InventoryAllocation) : Prop where
  bounded : forall chosen, allocated chosen allocations <= sellableQuantity db now chosen
  covered : forall line, line ∈ items ->
    line.quantity <= sellableQuantity db now fun _ variant => variant == line.variantId
  drawn : forall allocation, allocation ∈ allocations -> 0 < allocation.quantity /\
    exists item, item ∈ db.items.rows /\ item.id = allocation.inventoryItemId

theorem priceOrder_draws {db : Db} {input : CheckoutOrder} {minimumAge now : Int} {order : PricedOrder}
    (ran : priceOrder (fun _ => db) input minimumAge now = .ok order) :
    Draws db now input.items order.allocations := by
  simp only [priceOrder, bind_ok, throwIf_ok, orThrow_ok, pure_ok] at ran
  obtain ⟨⟨⟩, -, priced, -, buckets, made, allocations, done, _, -, _, -, _, -, ⟨⟩, -, rfl⟩ := ran
  change (orderInventory db now (input.items.map (·.variantId))).mapM
    (allocationBucket db now) = .ok buckets at made
  have positive : forall line, line ∈ input.items.map demandOf -> 0 <= line.quantity := by
    intro line member
    obtain ⟨item, -, rfl⟩ := List.mem_map.1 member
    exact le_trans (by decide : (0 : Int) <= 1) item.bounds.1
  have allocates := allocateInventory_allocates positive
    (fun bucket member => (bucket_of_item made member).1) done
  have bound := orderInventory_bound db now (input.items.map (·.variantId))
  refine { bounded := fun chosen => ?_, covered := fun line member => ?_, drawn := ?_ }
  next =>
    calc allocated chosen allocations
        <= available chosen buckets := allocates.bounded chosen
      _ = _ := buckets_available made chosen
      _ <= sellableQuantity db now chosen := bound chosen
  next =>
    calc line.quantity
        <= available (fun _ variant => variant == line.variantId) buckets :=
          allocates.covered (demandOf line) (List.mem_map_of_mem member)
      _ = _ := buckets_available made _
      _ <= _ := bound _
  next =>
    intro allocation member
    obtain ⟨positive, bucket, present, same, -⟩ := allocates.drawn allocation member
    obtain ⟨-, item, stocked, known, -⟩ := bucket_of_item made present
    exact ⟨positive, item, (mem_orderInventory stocked).1, known.trans same⟩

-- The quote's availability of a variant is the same sum.
theorem availableQuantity_sellable (db : Db) (now : Int) (variantId : Id) :
    availableQuantity db now variantId =
      sellableQuantity db now fun _ variant => variant == variantId := by
  simp only [availableQuantity, eligibleItems, sellableQuantity, Table.filter, freeQuantity]
  induction db.items.rows with
  | nil => rfl
  | cons item rest ih =>
    by_cases counted : (item.variantId == variantId && eligibleOrderInventoryWhere db now item) = true
    next => simp only [List.filter_cons, counted, if_true, List.map_cons, List.sum_cons, ih]
    next =>
      simp only [Bool.not_eq_true] at counted
      simp only [List.filter_cons, counted, Bool.false_eq_true, if_false, List.map_cons,
        List.sum_cons, ih, Int.zero_add]

end VapeCommerce.Checkout.Stock
