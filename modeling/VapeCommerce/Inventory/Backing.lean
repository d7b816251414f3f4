import VapeCommerce.Checkout.Allocator
import VapeCommerce.Inventory.Bookings
import VapeCommerce.Orders.Creation

set_option autoImplicit false

-- The reservations behind an order: every item reserved in full, from stock of its variant.
namespace VapeCommerce.Inventory.Backing

open VapeCommerce.Lib VapeCommerce.Lib.Outcome VapeCommerce.Schema VapeCommerce.Database
open VapeCommerce.Checkout.Order VapeCommerce.Checkout.Placement VapeCommerce.Checkout.Stock
open VapeCommerce.Checkout.Lines VapeCommerce.Checkout.Catalogue VapeCommerce.Checkout.Allocation
open VapeCommerce.Checkout.Allocator VapeCommerce.Inventory.Bookings

def quantityOf (rows : List StockReservation) (chosen : StockReservation -> Bool) : Int :=
  ((rows.filter chosen).map (·.quantity)).sum

def variantOf (items : Table InventoryItem.id) (itemId : Id) : Option Id :=
  (items.find? itemId).map (·.variantId)

structure Backed (items : Table InventoryItem.id) (reservations : List StockReservation) (order : Order) :
    Prop where
  distinct : (order.items.map (·.id)).Nodup
  served : forall item, item ∈ order.items ->
    quantityOf reservations (fun row => row.orderId == order.id && row.orderItemId == item.id) = item.quantity
  matched : forall row, row ∈ reservations -> row.orderId = order.id ->
    exists item, item ∈ order.items /\ item.id = row.orderItemId /\
      variantOf items row.inventoryItemId = some item.variantId

-- Nothing of a reservation is ever rewritten but its state.
def restated (state : StockReservation -> StockReservationState) (row : StockReservation) : StockReservation :=
  { row with state := state row }

section Quantities

theorem quantityOf_append (rows added : List StockReservation) (chosen : StockReservation -> Bool) :
    quantityOf (rows ++ added) chosen = quantityOf rows chosen + quantityOf added chosen := by
  simp [quantityOf]

theorem quantityOf_congr {rows : List StockReservation} {chosen other : StockReservation -> Bool}
    (same : forall row, row ∈ rows -> chosen row = other row) : quantityOf rows chosen = quantityOf rows other := by
  rw [quantityOf, quantityOf, List.filter_congr same]

theorem quantityOf_none {rows : List StockReservation} {chosen : StockReservation -> Bool}
    (none : forall row, row ∈ rows -> chosen row = false) : quantityOf rows chosen = 0 := by
  rw [quantityOf, List.filter_eq_nil_iff.2 fun row member => by simp [none row member]]
  rfl

theorem quantityOf_restated (rows : List StockReservation) (state : StockReservation -> StockReservationState)
    (chosen : StockReservation -> Bool) :
    quantityOf (rows.map (restated state)) chosen = quantityOf rows fun row => chosen (restated state row) := by
  simp only [quantityOf, List.filter_map, List.map_map]
  rfl

theorem quantityOf_split (rows : List StockReservation) (chosen part : StockReservation -> Bool) :
    quantityOf rows chosen = quantityOf rows (fun row => chosen row && part row) +
      quantityOf rows fun row => chosen row && !part row := by
  simp only [quantityOf, sum_filter]
  rw [<- List.sum_map_add]
  refine congrArg List.sum (List.map_congr_left fun row _ => ?_)
  cases chosen row <;> cases part row <;> simp

theorem quantityOf_pos {rows : List StockReservation} (positive : forall row, row ∈ rows -> 0 < row.quantity)
    {chosen : StockReservation -> Bool} {row : StockReservation} (member : row ∈ rows)
    (picked : chosen row = true) : 0 < quantityOf rows chosen := by
  have least : row.quantity <= quantityOf rows chosen := by
    refine List.single_le_sum (fun amount there => ?_) _ (List.mem_map_of_mem (List.mem_filter.2 ⟨member, picked⟩))
    obtain ⟨other, present, rfl⟩ := List.mem_map.1 there
    exact Int.le_of_lt (positive other (List.mem_filter.1 present).1)
  exact Int.lt_of_lt_of_le (positive row member) least

end Quantities

theorem variantOf_of_mem {items : Table InventoryItem.id} {item : InventoryItem} (member : item ∈ items.rows) :
    variantOf items item.id = some item.variantId := by
  rw [variantOf, Table.find?_of_mem member, Option.map_some]

theorem variantOf_kept {old new : Table InventoryItem.id} {added : List StockMovement}
    (books : Books old new added) {itemId variantId : Id} (before : variantOf old itemId = some variantId) :
    variantOf new itemId = some variantId := by
  obtain ⟨item, found, rfl⟩ := Option.map_eq_some_iff.1 before
  obtain ⟨row, here, same⟩ := books.kept item (Table.find?_mem found)
  have kept := variantOf_of_mem here
  rwa [same.id, same.variant, Table.find?_key found] at kept

theorem Backed.restated {old new : Table InventoryItem.id} {added : List StockMovement}
    {reservations : List StockReservation} {order after : Order} (backed : Backed old reservations order)
    (books : Books old new added) (state : StockReservation -> StockReservationState)
    (id : after.id = order.id) (items : after.items = order.items) :
    Backed new (reservations.map (restated state)) after where
  distinct := items ▸ backed.distinct
  served item member := by
    rw [quantityOf_restated]
    rw [items] at member
    simp only [id]
    exact backed.served item member
  matched row member here := by
    obtain ⟨was, there, rfl⟩ := List.mem_map.1 member
    obtain ⟨item, present, same, variant⟩ := backed.matched was there (here.trans id)
    exact ⟨item, items ▸ present, same, variantOf_kept books variant⟩

theorem Backed.append {items : Table InventoryItem.id} {reservations added : List StockReservation}
    {order : Order} (backed : Backed items reservations order)
    (others : forall row, row ∈ added -> row.orderId ≠ order.id) :
    Backed items (reservations ++ added) order where
  distinct := backed.distinct
  served item member := by
    rw [quantityOf_append, backed.served item member, quantityOf_none fun row new => by simp [others row new],
      Int.add_zero]
  matched row member own :=
    backed.matched row ((List.mem_append.1 member).resolve_right fun new => others row new own) own

-- What an order asks for of a variant.
def ordered (order : Order) (variantId : Id) : Int :=
  ((order.items.filter fun item => item.variantId == variantId).map (·.quantity)).sum

-- All that is reserved of a variant is what the order asks for of it.
theorem Backed.reserved {items : Table InventoryItem.id} {reservations : List StockReservation} {order : Order}
    (backed : Backed items reservations order) (variantId : Id) :
    quantityOf reservations (fun row =>
        row.orderId == order.id && variantOf items row.inventoryItemId == some variantId) =
      ordered order variantId := by
  let lines : Table OrderItem.id := { rows := order.items, distinct := backed.distinct }
  have grouped := lines.total_grouped (reservations.filter fun row => row.orderId == order.id)
    StockReservation.orderItemId
    (fun row => if variantOf items row.inventoryItemId == some variantId then row.quantity else 0)
    (fun row member => by
      obtain ⟨there, mine⟩ := List.mem_filter.1 member
      obtain ⟨item, present, same, -⟩ := backed.matched row there (beq_iff_eq.1 mine)
      exact ⟨item, present, same⟩)
  calc quantityOf reservations _
      = ((reservations.filter fun row => row.orderId == order.id).map fun row =>
          if variantOf items row.inventoryItemId == some variantId then row.quantity else 0).sum := by
        rw [quantityOf, sum_filter, sum_filter]
        refine congrArg List.sum (List.map_congr_left fun row _ => ?_)
        cases row.orderId == order.id <;> simp
    _ = _ := grouped.symm
    _ = ordered order variantId := by
        rw [ordered, sum_filter]
        refine congrArg List.sum (List.map_congr_left fun item member => ?_)
        have own : forall row, row ∈ reservations.filter (fun row => row.orderId == order.id) ->
            item.id = row.orderItemId -> variantOf items row.inventoryItemId = some item.variantId := by
          intro row there same
          obtain ⟨present, mine⟩ := List.mem_filter.1 there
          obtain ⟨other, known, id, variant⟩ := backed.matched row present (beq_iff_eq.1 mine)
          rwa [List.inj_on_of_nodup_map backed.distinct known member (id.trans same.symm)] at variant
        by_cases wanted : item.variantId = variantId
        next =>
          have served := backed.served item member
          rw [quantityOf, sum_filter] at served
          rw [sum_filter, if_pos (by simpa using wanted), <- served]
          refine congrArg List.sum (List.map_congr_left fun row there => ?_)
          by_cases mine : row.orderId = order.id
          next =>
            by_cases same : item.id = row.orderItemId
            next =>
              have variant := own row (List.mem_filter.2 ⟨there, by simpa using mine⟩) same
              simp [mine, same, variant, wanted]
            next => simp [mine, same, Ne.symm same]
          next =>
            have other : (row.orderId == order.id) = false := by simpa using mine
            simp [other]
        next =>
          rw [if_neg (by simpa using wanted)]
          refine List.sum_eq_zero fun amount counted => ?_
          obtain ⟨row, there, rfl⟩ := List.mem_map.1 counted
          by_cases same : item.id = row.orderItemId
          next => simp [same, own row there same, wanted]
          next => simp [same]

section Placed

variable {db next : Db} {call : CheckoutCall} {now : Int} {orderId : Id} {placement : Placement}

theorem create_distinct (ran : Checkout.Order.create db call now = .ok (next, orderId)) :
    (call.input.items.map (·.variantId)).Nodup := by
  simp only [Checkout.Order.create, admitCall, assertRequestShape, bind_ok, throwIf_ok, not_not] at ran
  obtain ⟨keyHash, ⟨_, -, _, ⟨_, distinct, -⟩, -⟩, -⟩ := ran
  exact distinct

-- What order creation allocates serves every line from stock of its variant.
theorem priceOrder_exact {input : CheckoutOrder} {minimumAge : Int} {order : PricedOrder}
    (distinct : (input.items.map (·.variantId)).Nodup)
    (ran : priceOrder (fun _ => db) input minimumAge now = .ok order) :
    (forall item, item ∈ input.items -> allocatedTo item.variantId order.allocations = item.quantity) /\
      forall allocation, allocation ∈ order.allocations ->
        variantOf db.items allocation.inventoryItemId = some allocation.variantId /\
          exists item, item ∈ input.items /\ item.variantId = allocation.variantId := by
  simp only [priceOrder, bind_ok, throwIf_ok, orThrow_ok, pure_ok] at ran
  obtain ⟨⟨⟩, -, priced, -, buckets, made, allocations, done, _, -, _, -, _, -, ⟨⟩, -, rfl⟩ := ran
  change (orderInventory db now (input.items.map (·.variantId))).mapM (allocationBucket db now) =
    .ok buckets at made
  have ids : (buckets.map (·.id)).Nodup := by
    rw [mapM_field InventoryItem.id (·.id) (fun item bucket round => by rw [(allocationBucket_ok round).2]) made]
    refine List.Nodup.map_on (fun left here right there same => ?_) (orderInventory_nodup db now _)
    exact db.items.same_of_key (mem_orderInventory here).1 (mem_orderInventory there).1 same
  have exactly := @allocateInventory_serves (input.items.map demandOf) buckets
    (by simpa [demandOf, Function.comp_def] using distinct) (fun line member => by
      obtain ⟨item, -, rfl⟩ := List.mem_map.1 member
      exact Int.lt_of_lt_of_le (by decide) item.bounds.1) ids _ done
  refine ⟨fun item member => exactly.served (demandOf item) (List.mem_map_of_mem member),
    fun allocation member => ?_⟩
  obtain ⟨line, asked, -, same, bucket, present, bucketId, bucketVariant, -⟩ := exactly.drawn allocation member
  obtain ⟨-, item, stocked, itemId, itemVariant⟩ := bucket_of_item made present
  obtain ⟨requested, known, rfl⟩ := List.mem_map.1 asked
  refine ⟨?_, requested, known, same.symm⟩
  rw [<- bucketId, <- itemId, variantOf_of_mem (mem_orderInventory stocked).1, itemVariant, bucketVariant, same]

-- The items of a new order, against the lines they were priced as.
theorem prepared_item (prepared : Prepared (fun _ => db) call now placement) {item : OrderItem}
    (member : item ∈ placement.order.items) : exists requested, requested ∈ call.input.items /\
      item.id = call.ids.orderItemId requested.variantId /\ item.variantId = requested.variantId /\
        item.quantity = requested.quantity := by
  rw [prepared.orderRow] at member
  obtain ⟨line, there, made⟩ := mapM_ok_mem prepared.itemized member
  have priced := prepared.priced
  simp only [priceOrder, bind_ok, pure_ok] at priced
  obtain ⟨_, -, lines, pricing, _, -, _, -, _, -, _, -, _, -, _, -, same⟩ := priced
  rw [<- same] at there
  have requested := priceLines_requested pricing
  simp only [noLines, List.map_nil, List.nil_append] at requested
  have variant := ((priceLines_exact pricing).lines line there).2.2
  simp only [orderItem, bind_ok, pure_ok] at made
  obtain ⟨_, -, _, -, rfl⟩ := made
  exact ⟨line.requested, requested ▸ List.mem_map_of_mem there, congrArg _ variant, variant, rfl⟩

theorem prepared_requested (prepared : Prepared (fun _ => db) call now placement) {requested : CheckoutItem}
    (member : requested ∈ call.input.items) : exists item, item ∈ placement.order.items /\
      item.id = call.ids.orderItemId requested.variantId /\ item.variantId = requested.variantId := by
  have priced := prepared.priced
  simp only [priceOrder, bind_ok, pure_ok] at priced
  obtain ⟨_, -, lines, pricing, _, -, _, -, _, -, _, -, _, -, _, -, same⟩ := priced
  have asked := priceLines_requested pricing
  simp only [noLines, List.map_nil, List.nil_append] at asked
  rw [<- asked] at member
  obtain ⟨line, there, rfl⟩ := List.mem_map.1 member
  have variant := ((priceLines_exact pricing).lines line there).2.2
  have itemized := mapM_field (fun line : PricedLine => (call.ids.orderItemId line.variant.id, line.variant.id))
    (fun item : OrderItem => (item.id, item.variantId)) (fun line item made => by
      simp only [orderItem, bind_ok, pure_ok] at made
      obtain ⟨_, -, _, -, rfl⟩ := made
      rfl) prepared.itemized
  rw [<- same] at itemized
  have ids : (call.ids.orderItemId line.variant.id, line.variant.id) ∈
      prepared.items.map fun item => (item.id, item.variantId) :=
    itemized ▸ List.mem_map_of_mem there
  obtain ⟨item, present, fields⟩ := List.mem_map.1 ids
  rw [Prod.mk.injEq] at fields
  refine ⟨item, by rw [prepared.orderRow]; exact present, ?_, ?_⟩
  next => rw [fields.1, variant]
  next => rw [fields.2, variant]

theorem placed_backed (prepared : Prepared (fun _ => db) call now placement)
    (distinct : (call.input.items.map (·.variantId)).Nodup)
    (itemIds : (placement.order.items.map (·.id)).Nodup)
    (fresh : forall row, row ∈ db.reservations.rows -> row.orderId ≠ placement.order.id) :
    Backed db.items (db.reservations.rows ++ placement.reservations) placement.order := by
  obtain ⟨served, drawn⟩ := priceOrder_exact distinct prepared.priced
  have orderId : call.ids.orderId = placement.order.id := by rw [prepared.orderRow]; rfl
  refine { distinct := itemIds, served := fun item member => ?_, matched := fun row member here => ?_ }
  next =>
    obtain ⟨requested, asked, id, -, quantity⟩ := prepared_item prepared member
    have before : quantityOf db.reservations.rows (fun row =>
        row.orderId == placement.order.id && row.orderItemId == item.id) = 0 :=
      quantityOf_none fun row there => by simp [fresh row there]
    rw [quantityOf_append, before, Int.zero_add, quantity, <- served requested asked, quantityOf, sum_filter,
      prepared.reservationRows, List.map_map]
    refine congrArg List.sum (List.map_congr_left fun allocation taken => ?_)
    -- Two lines of one order never share the id of their order item.
    have own : (call.ids.orderItemId allocation.variantId == item.id) =
        (allocation.variantId == requested.variantId) := by
      rw [Bool.eq_iff_iff, beq_iff_eq, beq_iff_eq]
      constructor
      next =>
        intro same
        obtain ⟨-, other, known, variant⟩ := drawn allocation taken
        obtain ⟨its, present, itsId, itsVariant⟩ := prepared_requested prepared known
        obtain ⟨mine, mineThere, mineId, mineVariant⟩ := prepared_requested prepared asked
        have one : its = mine := List.inj_on_of_nodup_map itemIds present mineThere
          (by rw [itsId, mineId, variant, same, id])
        rw [<- variant, <- itsVariant, one, mineVariant]
      next => exact fun same => by rw [same, id]
    simp only [Function.comp_apply, reservation, orderId, beq_self_eq_true, Bool.true_and, own]
  next =>
    rcases List.mem_append.1 member with old | new
    next => exact absurd here (fresh row old)
    next =>
      rw [prepared.reservationRows] at new
      obtain ⟨allocation, taken, rfl⟩ := List.mem_map.1 new
      obtain ⟨variant, requested, asked, same⟩ := drawn allocation taken
      obtain ⟨item, present, id, itemVariant⟩ := prepared_requested prepared asked
      refine ⟨item, present, by rw [id, same]; rfl, ?_⟩
      rw [itemVariant, same]
      exact variant

end Placed

end VapeCommerce.Inventory.Backing
