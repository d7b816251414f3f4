import VapeCommerce.Frames

set_option autoImplicit false

-- No operation sells stock that an unexpired reservation holds.
namespace VapeCommerce.Inventory.Safety

open VapeCommerce.Lib VapeCommerce.Lib.Outcome VapeCommerce.Schema VapeCommerce.Database
open VapeCommerce.Checkout.Catalogue VapeCommerce.Orders.Reservations VapeCommerce.Orders.Admin
open VapeCommerce.Inventory.Admin VapeCommerce.Checkout.Allocation VapeCommerce.Checkout.Order
open VapeCommerce.Checkout.Stock VapeCommerce.Checkout.Placement VapeCommerce.System
open VapeCommerce.Frames (Area areas)

def weight (now : Int) (itemId : Id) (row : StockReservation) : Int :=
  if holds now itemId row then row.quantity else 0

def reserved (reservations : Table StockReservation.id) (now : Int) (itemId : Id) : Int :=
  reservations.total (weight now itemId)

theorem reservedQuantity_reserved (db : Db) (now : Int) (itemId : Id) :
    reservedQuantity db now itemId = reserved db.reservations now itemId := by
  exact sum_filter db.reservations.rows (holds now itemId) (·.quantity)

-- What every state of the stock satisfies, as of its time.
structure StockSafe (now : Int) (items : Table InventoryItem.id)
    (reservations : Table StockReservation.id) : Prop where
  onHand : forall item, item ∈ items.rows ->
    0 <= item.onHandQuantity /\ item.onHandQuantity <= databaseIntMax
  covered : forall item, item ∈ items.rows ->
    reserved reservations now item.id <= item.onHandQuantity
  positive : forall row, row ∈ reservations.rows -> 0 < row.quantity
  known : forall row, row ∈ reservations.rows ->
    exists item, item ∈ items.rows /\ item.id = row.inventoryItemId

theorem holds_later {now next : Int} (later : now <= next) {itemId : Id} {row : StockReservation}
    (held : holds next itemId row = true) : holds now itemId row = true := by
  simp only [holds, Bool.and_eq_true, decide_eq_true_eq] at held ⊢
  exact ⟨held.1, by omega⟩

theorem weight_nonneg {row : StockReservation} (positive : 0 < row.quantity) (now : Int)
    (itemId : Id) : 0 <= weight now itemId row := by
  unfold weight
  split
  next => exact Int.le_of_lt positive
  next => exact Int.le_refl 0

theorem weight_later {now next : Int} (later : now <= next) (itemId : Id) {row : StockReservation}
    (positive : 0 < row.quantity) : weight next itemId row <= weight now itemId row := by
  cases held : holds next itemId row with
  | false => simpa [weight, held] using weight_nonneg positive now itemId
  | true => simp [weight, held, holds_later later held]

-- Time only releases stock.
theorem StockSafe.later {now next : Int} {items : Table InventoryItem.id}
    {reservations : Table StockReservation.id} (safe : StockSafe now items reservations)
    (later : now <= next) : StockSafe next items reservations where
  onHand := safe.onHand
  covered item member := by
    have less : reserved reservations next item.id <= reserved reservations now item.id :=
      List.sum_le_sum fun row present => weight_later later item.id (safe.positive row present)
    exact le_trans less (safe.covered item member)
  positive := safe.positive
  known := safe.known

theorem reserved_nonneg {reservations : Table StockReservation.id}
    (positive : forall row, row ∈ reservations.rows -> 0 < row.quantity) (now : Int) (itemId : Id) :
    0 <= reserved reservations now itemId := by
  refine List.sum_nonneg fun amount member => ?_
  obtain ⟨row, present, rfl⟩ := List.mem_map.1 member
  exact weight_nonneg (positive row present) now itemId

theorem reserved_unknown {reservations : Table StockReservation.id} {itemId : Id}
    (unknown : forall row, row ∈ reservations.rows -> row.inventoryItemId ≠ itemId) (now : Int) :
    reserved reservations now itemId = 0 := by
  refine List.sum_eq_zero fun amount member => ?_
  obtain ⟨row, present, rfl⟩ := List.mem_map.1 member
  simp [weight, holds, unknown row present]

theorem StockSafe.insert {now : Int} {items next : Table InventoryItem.id}
    {reservations : Table StockReservation.id} (safe : StockSafe now items reservations)
    {item : InventoryItem} (inserted : items.insert? item = some next)
    (bounds : 0 <= item.onHandQuantity /\ item.onHandQuantity <= databaseIntMax) :
    StockSafe now next reservations := by
  obtain ⟨rows, fresh⟩ := Table.insert?_rows inserted
  refine { onHand := ?_, covered := ?_, positive := safe.positive, known := ?_ }
  next =>
    intro other member
    rw [rows, List.mem_append, List.mem_singleton] at member
    cases member with
    | inl old => exact safe.onHand other old
    | inr new => exact new ▸ bounds
  next =>
    intro other member
    rw [rows, List.mem_append, List.mem_singleton] at member
    cases member with
    | inl old => exact safe.covered other old
    | inr new =>
      subst new
      rw [reserved_unknown]
      next => exact bounds.1
      next =>
        intro row present same
        obtain ⟨known, old, matching⟩ := safe.known row present
        exact fresh known old (matching.trans same)
  next =>
    intro row present
    obtain ⟨known, old, same⟩ := safe.known row present
    exact ⟨known, by simp [rows, old], same⟩

theorem known_update {items : Table InventoryItem.id} {reservations : Table StockReservation.id}
    (known : forall row, row ∈ reservations.rows ->
      exists item, item ∈ items.rows /\ item.id = row.inventoryItemId)
    {next : Table InventoryItem.id} (ids : next.rows.map (·.id) = items.rows.map (·.id))
    (row : StockReservation) (member : row ∈ reservations.rows) :
    exists item, item ∈ next.rows /\ item.id = row.inventoryItemId := by
  obtain ⟨item, present, same⟩ := known row member
  have there : item.id ∈ next.rows.map (·.id) := ids ▸ List.mem_map_of_mem present
  obtain ⟨other, found, matching⟩ := List.mem_map.1 there
  exact ⟨other, found, matching.trans same⟩

-- Setting the stock of some items to a quantity that covers their reservations.
theorem StockSafe.restock {now : Int} {items : Table InventoryItem.id}
    {reservations : Table StockReservation.id} (safe : StockSafe now items reservations)
    (chosen : InventoryItem -> Bool) (quantity : Int)
    (keeps : forall row : InventoryItem, (restocked quantity row).id = row.id)
    (bounds : 0 <= quantity /\ quantity <= databaseIntMax)
    (covers : forall item, item ∈ items.rows -> chosen item = true ->
      reserved reservations now item.id <= quantity) :
    StockSafe now (items.update chosen (restocked quantity) keeps) reservations := by
  have rowwise : forall item, item ∈ items.rows ->
      (0 <= (Table.rewrite chosen (restocked quantity) item).onHandQuantity /\
        (Table.rewrite chosen (restocked quantity) item).onHandQuantity <= databaseIntMax) /\
      reserved reservations now (Table.rewrite chosen (restocked quantity) item).id <=
        (Table.rewrite chosen (restocked quantity) item).onHandQuantity := by
    intro item member
    cases hit : chosen item with
    | false => simpa [hit] using ⟨safe.onHand item member, safe.covered item member⟩
    | true =>
      rw [Table.rewrite_chosen hit]
      exact ⟨bounds, covers item member hit⟩
  refine { onHand := ?_, covered := ?_, positive := safe.positive, known := ?_ }
  next =>
    intro item member
    obtain ⟨old, present, rfl⟩ := List.mem_map.1 member
    exact (rowwise old present).1
  next =>
    intro item member
    obtain ⟨old, present, rfl⟩ := List.mem_map.1 member
    exact (rowwise old present).2
  next => exact known_update safe.known (Table.map_field_rewrite _ _ _ _ (by intro item; rfl))

-- Reservations that stop being active release their stock.
theorem reserved_settled (reservations : Table StockReservation.id) (chosen : StockReservation -> Bool)
    (state : StockReservationState) (inactive : state ≠ .active)
    (keeps : forall row : StockReservation, ({ row with state } : StockReservation).id = row.id)
    (now : Int) (itemId : Id) :
    reserved (reservations.update chosen (fun row => { row with state }) keeps) now itemId =
      reserved reservations now itemId -
        ((reservations.filter chosen).map (weight now itemId)).sum := by
  have released : forall row : StockReservation,
      weight now itemId { row with state } = 0 := by
    intro row
    cases state <;> simp_all [weight, holds]
  unfold reserved
  rw [Table.total_update, Int.sub_eq_add_neg]
  congr 1
  induction reservations.filter chosen with
  | nil => rfl
  | cons row rest ih =>
    simp only [List.map_cons, List.sum_cons, released] at ih ⊢
    omega

theorem StockSafe.settled {now : Int} {items : Table InventoryItem.id}
    {reservations : Table StockReservation.id} (safe : StockSafe now items reservations)
    (chosen : StockReservation -> Bool) (state : StockReservationState) (inactive : state ≠ .active)
    (keeps : forall row : StockReservation, ({ row with state } : StockReservation).id = row.id) :
    StockSafe now items (reservations.update chosen (fun row => { row with state }) keeps) := by
  have same : forall row, row ∈ (reservations.update chosen (fun row => { row with state }) keeps).rows ->
      exists old, old ∈ reservations.rows /\ row.quantity = old.quantity /\
        row.inventoryItemId = old.inventoryItemId := by
    intro row member
    obtain ⟨old, present, rfl⟩ := List.mem_map.1 member
    cases hit : chosen old <;> exact ⟨old, present, by simp [hit], by simp [hit]⟩
  refine { onHand := safe.onHand, covered := ?_, positive := ?_, known := ?_ }
  next =>
    intro item member
    have released : 0 <= ((reservations.filter chosen).map (weight now item.id)).sum := by
      refine List.sum_nonneg fun amount there => ?_
      obtain ⟨row, found, rfl⟩ := List.mem_map.1 there
      exact weight_nonneg (safe.positive row (List.mem_filter.1 found).1) now item.id
    have covered := safe.covered item member
    rw [reserved_settled _ _ _ inactive]
    omega
  next =>
    intro row member
    obtain ⟨old, present, quantity, -⟩ := same row member
    exact quantity ▸ safe.positive old present
  next =>
    intro row member
    obtain ⟨old, present, -, item⟩ := same row member
    exact item ▸ safe.known old present

abbrev Safe (now : Int) (db : Db) : Prop :=
  StockSafe now db.items db.reservations

theorem createItem_safe {db next : Db} {now : Int} {input : CreateInventoryItem} {actorUserId : Id}
    (safe : Safe now db) (ran : createItem db input actorUserId = .ok next) : Safe now next := by
  simp only [createItem, bind_ok, throwIf_ok, createBucket, create_ok, pure_ok] at ran
  obtain ⟨⟨⟩, initial, ⟨⟩, -, items, ⟨⟨⟩, -, inserted⟩, rfl⟩ := ran
  refine safe.insert inserted ?_
  have zero : input.initialQuantity = 0 := not_not.1 initial
  simp only [zero, databaseIntMax]
  decide

theorem mem_findBucket {db : Db} {variantId locationId : Id} {lotKey : Option Id} {item : InventoryItem}
    (found : findBucket db variantId locationId lotKey = some item) :
    item ∈ db.items.rows /\ item.locationId = locationId := by
  have matching := List.find?_some found
  simp only [Bool.and_eq_true, beq_iff_eq] at matching
  exact ⟨List.mem_of_find?_eq_some found, matching.1.2⟩

theorem receiptItem_safe {db : Db} {now : Int} {input : CreateBatchReceipt} {batchId : Id}
    {items : Table InventoryItem.id} {item : InventoryItem} (safe : Safe now db)
    (ran : receiptItem db input batchId = .ok (items, item)) :
    StockSafe now items db.reservations := by
  obtain ⟨least, most⟩ := input.quantity.bounds
  unfold receiptItem at ran
  split at ran
  next bucket found =>
    simp only [bind_ok, throwIf_ok, pure_ok, Prod.mk.injEq] at ran
    obtain ⟨⟨⟩, room, rfl, -⟩ := ran
    have member := (mem_findBucket found).1
    have onHand := safe.onHand bucket member
    refine safe.restock _ _ (restocked_id _) ⟨by omega, by omega⟩ fun other present same => ?_
    obtain rfl : other = bucket := db.items.same_of_key present member (by simpa using same)
    have covered := safe.covered other present
    omega
  next =>
    simp only [bind_ok, create_ok, pure_ok, Prod.mk.injEq] at ran
    obtain ⟨inserted, created, rfl, -⟩ := ran
    exact safe.insert created ⟨by simp only; omega, most⟩

theorem receiveBatch_safe {db next : Db} {now : Int} {input : CreateBatchReceipt} {key : Text}
    {actorUserId : Id} (safe : Safe now db)
    (ran : receiveBatch db input key actorUserId now = .ok next) : Safe now next := by
  simp only [receiveBatch, bind_ok] at ran
  obtain ⟨replay, -, ran⟩ := ran
  split at ran
  next => exact (pure_ok _ _).1 ran ▸ safe
  next =>
    simp only [bind_ok, pure_ok] at ran
    obtain ⟨_, -, _, -, ⟨batches, batchId⟩, -, ⟨items, item⟩, received, rfl⟩ := ran
    have booked := receiptItem_safe safe received
    exact booked

theorem adjust_safe {db next : Db} {now : Int} {id : Id} {input : ApplyInventoryAdjustment}
    {actorUserId : Id} (safe : Safe now db) (ran : adjust db id input actorUserId now = .ok next) :
    Safe now next := by
  simp only [adjust, bind_ok, pure_ok] at ran
  obtain ⟨_, -, _, -, _, -, _, -, _, -, _, -, rfl⟩ := ran
  exact safe

theorem applyAdjustment_safe {db next : Db} {now : Int} {pending : InventoryAdjustment}
    {current : InventoryItem} {actorUserId : Id} (safe : Safe now db)
    (ran : applyAdjustment db pending current actorUserId now = .ok next) : Safe now next := by
  simp only [applyAdjustment, bind_ok, throwIf_ok, updateOne_ok, pure_ok] at ran
  obtain ⟨⟨⟩, bounds, ⟨⟩, covered, items, ⟨-, rfl⟩, rfl⟩ := ran
  rw [reservedQuantity_reserved] at covered
  refine safe.restock _ _ (restocked_id _) ⟨by omega, by omega⟩ fun item _ same => ?_
  have here : item.id = current.id := by
    simp only [Bool.and_eq_true, beq_iff_eq] at same
    exact same.1
  rw [here]
  omega

theorem decideAdjustment_safe {db next : Db} {now : Int} {id : Id} {decision : AdjustmentDecision}
    {reason : Option Text} {actorUserId : Id} {decided : Decided} (safe : Safe now db)
    (ran : decideAdjustment db id decision reason actorUserId now = .ok (next, decided)) :
    Safe now next := by
  simp only [decideAdjustment, bind_ok] at ran
  obtain ⟨_, -, pending, -, _, -, ran⟩ := ran
  split at ran
  next => obtain ⟨rfl, -⟩ := Prod.mk.inj ((pure_ok _ _).1 ran); exact safe
  next =>
    simp only [bind_ok] at ran
    obtain ⟨_, -, ran⟩ := ran
    split at ran
    next => obtain ⟨rfl, -⟩ := Prod.mk.inj ((pure_ok _ _).1 ran); exact safe
    next =>
      split at ran
      next => obtain ⟨rfl, -⟩ := Prod.mk.inj ((pure_ok _ _).1 ran); exact safe
      next =>
        simp only [bind_ok] at ran
        obtain ⟨current, -, ran⟩ := ran
        split at ran
        next => obtain ⟨rfl, -⟩ := Prod.mk.inj ((pure_ok _ _).1 ran); exact safe
        next =>
          simp only [bind_ok, pure_ok, Prod.mk.injEq] at ran
          obtain ⟨applied, done, rfl, -⟩ := ran
          exact applyAdjustment_safe safe done

-- Withdrawing what is not reserved, then booking it into another item or a new one.
theorem transfer_safe {db next : Db} {now : Int} {sourceId : Id} {input : TransferInventory}
    {key : Text} {actorUserId : Id} (safe : Safe now db)
    (ran : transfer db sourceId input key actorUserId now = .ok next) : Safe now next := by
  obtain ⟨least, most⟩ := input.quantity.bounds
  simp only [transfer, bind_ok] at ran
  obtain ⟨replay, -, ran⟩ := ran
  split at ran
  next => exact (pure_ok _ _).1 ran ▸ safe
  next =>
    simp only [bind_ok, throwIf_ok, orThrow_ok, updateOne_ok, calculateInventoryTransfer,
      pure_ok] at ran
    obtain ⟨source, found, ⟨⟩, -, _, -, _, -, _, ⟨⟨⟩, free, ⟨⟩, room, rfl⟩,
      withdrawn, ⟨-, rfl⟩, ⟨items, destination⟩, booked, transfers, -, rfl⟩ := ran
    rw [reservedQuantity_reserved] at free
    have member := Table.find?_mem found
    have onHand := safe.onHand source member
    have held := reserved_nonneg safe.positive now source.id
    have drawn : StockSafe now _ db.reservations :=
      safe.restock (fun row => row.id == source.id && row.version == input.expectedSourceVersion)
        (source.onHandQuantity - input.quantity.value) (restocked_id _)
        ⟨by omega, by omega⟩
        (fun item _ same => by
          have here : item.id = source.id := by
            simp only [Bool.and_eq_true, beq_iff_eq] at same
            exact same.1
          rw [here]
          omega)
    unfold transferDestination at booked
    split at booked
    next target chosen =>
      simp only [Except.ok.injEq, Prod.mk.injEq] at booked
      obtain ⟨rfl, -⟩ := booked
      have present := (mem_findBucket chosen).1
      have bounds := safe.onHand target present
      have covered := safe.covered target present
      simp only [chosen, Option.map_some, Option.getD_some] at room
      refine drawn.restock _ _ (restocked_id _) ⟨by omega, by omega⟩ fun item _ same => ?_
      rw [beq_iff_eq.1 same]
      omega
    next =>
      simp only [bind_ok, create_ok, pure_ok, Prod.mk.injEq] at booked
      obtain ⟨_, created, rfl, -⟩ := booked
      exact drawn.insert created ⟨by simp only; omega, most⟩

theorem settle_safe {now : Int} {items : Table InventoryItem.id}
    {reservations next : Table StockReservation.id} {locked : List StockReservation}
    {state : StockReservationState} (safe : StockSafe now items reservations)
    (inactive : state ≠ .active) (ran : settle reservations locked state = .ok next) :
    StockSafe now items next := by
  simp only [settle, bind_ok, pure_ok] at ran
  obtain ⟨_, -, rfl⟩ := ran
  exact safe.settled _ state inactive fun _ => rfl

theorem releaseAll_safe {db next : Db} {now : Int} {orderId actorUserId : Id} (safe : Safe now db)
    (ran : releaseAll db orderId actorUserId = .ok next) : Safe now next := by
  simp only [releaseAll, bind_ok] at ran
  obtain ⟨locked, -, ran⟩ := ran
  split at ran
  next => exact (pure_ok _ _).1 ran ▸ safe
  next =>
    simp only [bind_ok, pure_ok] at ran
    obtain ⟨reservations, settled, movements, -, rfl⟩ := ran
    exact settle_safe safe (by decide) settled

theorem terminate_safe {db next : Db} {now : Int} {disposition : Disposition} {id : Id}
    {expectedVersion : Nat} {actorUserId : Id} (safe : Safe now db)
    (ran : terminate db disposition id expectedVersion actorUserId = .ok next) : Safe now next := by
  simp only [terminate, bind_ok, pure_ok] at ran
  obtain ⟨_, -, _, -, _, -, _, -, _, -, _, -, released, ran, _, -, _, -, rfl⟩ := ran
  have safe := releaseAll_safe safe ran
  exact safe

theorem cancel_safe {db next : Db} {now : Int} {userId : Id} {orderNumber : Int}
    {expectedVersion : Nat} (safe : Safe now db)
    (ran : Orders.Customer.cancel db userId orderNumber expectedVersion = .ok next) :
    Safe now next := by
  simp only [Orders.Customer.cancel, bind_ok, pure_ok] at ran
  obtain ⟨_, -, _, -, _, -, _, -, _, -, _, -, _, -, released, ran, _, -, _, -, _, -, rfl⟩ := ran
  have safe := releaseAll_safe safe ran
  exact safe

theorem expireReservations_safe {db next : Db} {now cutoff : Int} {batchSize : Nat}
    (safe : Safe now db)
    (ran : Worker.Expiry.expireReservations db cutoff batchSize now = .ok next) : Safe now next := by
  simp only [Worker.Expiry.expireReservations, bind_ok] at ran
  obtain ⟨_, -, ran⟩ := ran
  split at ran
  next => exact (pure_ok _ _).1 ran ▸ safe
  next =>
    simp only [bind_ok, pure_ok] at ran
    obtain ⟨_, -, ⟨reservations, movements⟩, expired, rfl⟩ := ran
    refine foldlM_keeps (fun state : Table StockReservation.id × List StockMovement =>
      StockSafe now db.items state.1) _ _ (fun state row after _ kept round => ?_) _ _ safe expired
    simp only [Worker.Expiry.expireOne, bind_ok] at round
    obtain ⟨movement, -, round⟩ := round
    split at round
    next => exact (pure_ok _ _).1 round ▸ kept
    next =>
      obtain rfl := (pure_ok _ _).1 round
      exact kept.settled _ .expired (by decide) fun _ => rfl

-- One row of the stock before and after the reserved quantities of `consumed` have left it.
structure Consumes (reservations : List StockReservation) (consumed : List Id)
    (old new : InventoryItem) : Prop where
  id : new.id = old.id
  onHand : new.onHandQuantity =
    old.onHandQuantity - if old.id ∈ consumed then reservedIn reservations old.id else 0
  bounded : 0 <= old.onHandQuantity -> 0 <= new.onHandQuantity

theorem consumeItem_consumes {order : Order} {actorUserId : Id}
    {reservations : List StockReservation} {inventory : InventoryItem}
    {state next : Table InventoryItem.id × List StockMovement}
    (ran : consumeItem order actorUserId reservations state inventory = .ok next)
    {item : InventoryItem} (member : item ∈ next.1.rows) :
    exists old, old ∈ state.1.rows /\ Consumes reservations [inventory.id] old item := by
  simp only [consumeItem, bind_ok, throwIf_ok, updateOne_ok, pure_ok] at ran
  obtain ⟨⟨⟩, -, items, ⟨one, rfl⟩, rfl⟩ := ran
  obtain ⟨old, present, rfl⟩ := List.mem_map.1 member
  refine ⟨old, present, ?_⟩
  obtain ⟨chosen, there, hit, -⟩ := Table.count_one one
  by_cases here : old.id = inventory.id
  next =>
    have guarded := hit
    simp only [Bool.and_eq_true, beq_iff_eq, decide_eq_true_eq] at guarded
    obtain rfl : chosen = old := state.1.same_of_key there present (guarded.1.1.trans here.symm)
    unfold Table.rewrite
    rw [if_pos hit]
    exact {
      id := rfl
      onHand := by simp [here]
      bounded := fun _ => by have := guarded.2; simp only; omega }
  next =>
    rw [Table.rewrite_other (by simp [here])]
    exact { id := rfl, onHand := by simp [here], bounded := id }

-- The items are distinct, so each gives up its own quantity once.
theorem consumeItems_consumes {order : Order} {actorUserId : Id}
    {reservations : List StockReservation} {consumed : List InventoryItem}
    {state next : Table InventoryItem.id × List StockMovement}
    (distinct : (consumed.map (·.id)).Nodup)
    (ran : consumed.foldlM (consumeItem order actorUserId reservations) state = .ok next)
    {item : InventoryItem} (member : item ∈ next.1.rows) :
    exists old, old ∈ state.1.rows /\ Consumes reservations (consumed.map (·.id)) old item := by
  induction consumed generalizing state with
  | nil =>
    obtain rfl := (pure_ok _ _).1 ran
    exact ⟨item, member, { id := rfl, onHand := by simp, bounded := id }⟩
  | cons first rest ih =>
    simp only [List.foldlM_cons, bind_ok] at ran
    obtain ⟨middle, round, later⟩ := ran
    rw [List.map_cons, List.nodup_cons] at distinct
    obtain ⟨between, there, after⟩ := ih distinct.2 later
    obtain ⟨old, present, before⟩ := consumeItem_consumes round there
    refine ⟨old, present, ?_⟩
    have onHand := after.onHand
    rw [before.onHand, before.id] at onHand
    refine { id := after.id.trans before.id, onHand := ?_, bounded := fun low => after.bounded (before.bounded low) }
    by_cases here : old.id = first.id
    next =>
      have absent := distinct.1
      simpa [here, absent] using onHand
    next => simpa [here] using onHand

theorem assertReservation_live {order : Order} {items : List InventoryItem} {now : Int}
    {row : StockReservation} (ran : assertReservation order items now row = .ok ()) :
    now < row.expiresAt := by
  simp only [assertReservation, throwIf_ok, not_or] at ran
  omega

-- Everything a confirmation locks is still held, so settling it releases exactly what leaves.
theorem locked_weight {db : Db} {orderId : Id} {now : Int}
    (live : forall row, row ∈ activeOf db orderId -> now < row.expiresAt) (itemId : Id) :
    ((activeOf db orderId).map (weight now itemId)).sum = reservedIn (activeOf db orderId) itemId := by
  rw [reservedIn, sum_filter]
  refine congrArg List.sum (List.map_congr_left fun row member => ?_)
  have state := (List.mem_filter.1 member).2
  simp only [Bool.and_eq_true, beq_iff_eq] at state
  simp [weight, holds, state.2, live row member]

theorem reservedIn_unlocked {db : Db} {orderId itemId : Id} (known : exists item, item ∈ db.items.rows /\
    item.id = itemId) (unlocked : Not (itemId ∈ (itemsOf db.items (activeOf db orderId)).map (·.id))) :
    reservedIn (activeOf db orderId) itemId = 0 := by
  have none : forall row, row ∈ activeOf db orderId -> row.inventoryItemId ≠ itemId := by
    rintro row member rfl
    obtain ⟨item, present, same⟩ := known
    refine unlocked (List.mem_map.2 ⟨item, List.mem_filter.2 ⟨present, ?_⟩, same⟩)
    simp only [inventoryIdsOf, List.mem_dedup, List.mem_map, decide_eq_true_eq]
    exact ⟨row, member, same.symm⟩
  rw [reservedIn, List.filter_eq_nil_iff.2 fun row member => by simpa using none row member]
  rfl

-- Consuming what an order has reserved takes the same quantity off both sides.
theorem StockSafe.consumed {now : Int} {db : Db} {orderId : Id} {items : Table InventoryItem.id}
    (safe : Safe now db)
    (live : forall row, row ∈ activeOf db orderId -> now < row.expiresAt)
    (rows : forall item, item ∈ items.rows -> exists old, old ∈ db.items.rows /\
      Consumes (activeOf db orderId) ((itemsOf db.items (activeOf db orderId)).map (·.id)) old item)
    (ids : items.rows.map (·.id) = db.items.rows.map (·.id))
    (keeps : forall row : StockReservation,
      ({ row with state := .consumed } : StockReservation).id = row.id) :
    StockSafe now items (db.reservations.update
      (fun row => decide (row.id ∈ (activeOf db orderId).map (·.id)) && row.state == .active)
      (fun row => { row with state := .consumed }) keeps) := by
  have settled := safe.settled
    (fun row => decide (row.id ∈ (activeOf db orderId).map (·.id)) && row.state == .active)
    .consumed (by decide) keeps
  have released : forall itemId, 0 <= reservedIn (activeOf db orderId) itemId := by
    intro itemId
    rw [<- locked_weight live]
    refine List.sum_nonneg fun amount member => ?_
    obtain ⟨row, found, rfl⟩ := List.mem_map.1 member
    exact weight_nonneg (safe.positive row (List.mem_filter.1 found).1) now itemId
  have onHand : forall old item, old ∈ db.items.rows ->
      Consumes (activeOf db orderId) ((itemsOf db.items (activeOf db orderId)).map (·.id)) old item ->
      item.onHandQuantity = old.onHandQuantity - reservedIn (activeOf db orderId) old.id := by
    intro old item present consumes
    rw [consumes.onHand]
    split
    next => rfl
    next unlocked => rw [reservedIn_unlocked ⟨old, present, rfl⟩ unlocked]
  refine { onHand := ?_, covered := ?_, positive := settled.positive, known := known_update settled.known ids }
  next =>
    intro item member
    obtain ⟨old, present, consumes⟩ := rows item member
    have bounds := safe.onHand old present
    have exact := onHand old item present consumes
    have less := released old.id
    exact ⟨consumes.bounded bounds.1, by omega⟩
  next =>
    intro item member
    obtain ⟨old, present, consumes⟩ := rows item member
    have covered := safe.covered old present
    have exact := onHand old item present consumes
    have chosen : (db.reservations.filter fun row =>
        decide (row.id ∈ (activeOf db orderId).map (·.id)) && row.state == .active) =
        activeOf db orderId :=
      Table.filter_keys db.reservations _ _ fun row hit => (Bool.and_eq_true_iff.1 hit).2
    rw [reserved_settled _ _ _ (by decide), chosen, locked_weight live, consumes.id]
    omega

theorem consumeItems_ids {order : Order} {actorUserId : Id} {reservations : List StockReservation}
    {consumed : List InventoryItem} {state next : Table InventoryItem.id × List StockMovement}
    (ran : consumed.foldlM (consumeItem order actorUserId reservations) state = .ok next) :
    next.1.rows.map (·.id) = state.1.rows.map (·.id) := by
  refine foldlM_keeps (fun after : Table InventoryItem.id × List StockMovement =>
    after.1.rows.map (·.id) = state.1.rows.map (·.id)) _ _ (fun before row after _ kept round => ?_)
    _ _ rfl ran
  simp only [consumeItem, bind_ok, updateOne_ok, pure_ok] at round
  obtain ⟨_, -, items, ⟨-, rfl⟩, rfl⟩ := round
  refine Eq.trans ?_ kept
  exact Table.map_field_rewrite _ _ _ _ (by intro item; rfl)

theorem confirm_safe {db next : Db} {now : Int} {id : Id} {expectedVersion : Nat} {actorUserId : Id}
    (safe : Safe now db) (ran : confirm db id expectedVersion actorUserId now = .ok next) :
    Safe now next := by
  simp only [confirm, bind_ok, lockActiveInventory, assertReservationCoverage, settle, throwIf_ok,
    forM_ok, pure_ok] at ran
  obtain ⟨operation, -, _, -, _, -, delivery, -, _, -, locked, ⟨_, -, rfl⟩, _, ⟨_, -, _, asserted, -⟩,
    ⟨items, movements⟩, folded, reservations, ⟨_, -, rfl⟩, _, -, _, -, rfl⟩ := ran
  have live : forall row, row ∈ activeOf db operation.order.id -> now < row.expiresAt :=
    fun row member => assertReservation_live (asserted row member)
  have distinct : ((itemsOf db.items (activeOf db operation.order.id)).map (·.id)).Nodup :=
    (List.filter_sublist.map _).nodup db.items.distinct
  have consumed := StockSafe.consumed safe live
    (fun item member => consumeItems_consumes distinct folded member) (consumeItems_ids folded)
    (fun _ => rfl)
  exact consumed

theorem sellable_item {db : Db} {now : Int} {item : InventoryItem} (member : item ∈ db.items.rows) :
    sellableQuantity db now (fun id _ => id == item.id) <= max 0 (freeQuantity db now item) := by
  rw [<- Table.total_at_key db.items (fun row => max 0 (freeQuantity db now row)) member]
  refine List.sum_le_sum fun row _ => ?_
  by_cases same : row.id = item.id
  next =>
    simp only [same, beq_self_eq_true, Bool.true_and, if_true]
    split
    next => exact Int.le_refl _
    next => exact Int.le_max_left _ _
  next => simp [same]

theorem reservations_weight (ids : FreshIds) (allocations : List InventoryAllocation) (now : Int)
    (itemId : Id) :
    ((allocations.map (reservation ids (now + reservationTtl))).map (weight now itemId)).sum =
      allocated (fun id _ => id == itemId) allocations := by
  have unexpired : now + reservationTtl > now := by unfold reservationTtl; omega
  simp [allocated, weight, holds, reservation, unexpired, Function.comp_def]

theorem create_safe {db next : Db} {now : Int} {call : CheckoutCall} {orderId : Id}
    (safe : Safe now db) (ran : Checkout.Order.create db call now = .ok (next, orderId)) : Safe now next := by
  cases create_cases ran with
  | inl same => exact same ▸ safe
  | inr created =>
    obtain ⟨placement, -, ⟨prepared⟩, placed⟩ := created
    have items := placed.items
    have draws := priceOrder_draws prepared.priced
    have rows := placed.reservations
    rw [prepared.reservationRows] at rows
    have added : forall itemId, reserved next.reservations now itemId =
        reserved db.reservations now itemId +
          allocated (fun id _ => id == itemId) prepared.order.allocations := by
      intro itemId
      rw [<- reservations_weight call.ids _ now]
      simp only [reserved, Table.total, rows, List.map_append, List.sum_append]
    have origin : forall row, row ∈ next.reservations.rows -> row ∈ db.reservations.rows \/
        exists allocation, allocation ∈ prepared.order.allocations /\
          reservation call.ids (now + reservationTtl) allocation = row := by
      intro row member
      rwa [rows, List.mem_append, List.mem_map] at member
    refine { onHand := ?_, covered := ?_, positive := ?_, known := ?_ }
    next => rw [items]; exact safe.onHand
    next =>
      rw [items]
      intro item member
      have bound := le_trans (draws.bounded fun id _ => id == item.id) (sellable_item member)
      have covered := safe.covered item member
      rw [freeQuantity, reservedQuantity_reserved] at bound
      rw [added]
      omega
    next =>
      intro row member
      cases origin row member with
      | inl old => exact safe.positive row old
      | inr new =>
        obtain ⟨allocation, present, rfl⟩ := new
        exact (draws.drawn allocation present).1
    next =>
      rw [items]
      intro row member
      cases origin row member with
      | inl old => exact safe.known row old
      | inr new =>
        obtain ⟨allocation, present, rfl⟩ := new
        exact (draws.drawn allocation present).2

-- Nothing else touches the stock or the reservations.
theorem safe_elsewhere {areas : List Area} {db next : Db} {now : Int} (safe : Safe now db)
    (writes : Frames.Writes areas db next) (elsewhere : Not (Area.stock ∈ areas)) : Safe now next := by
  have same := writes .stock elsewhere
  simp only [Area.Same, Prod.mk.injEq] at same
  obtain ⟨items, reservations, -⟩ := same
  unfold Safe
  rw [items, reservations]
  exact safe

theorem exec_safe (now : Int) (db : Db) (op : Op) (next : Db) (safe : Safe now db)
    (ran : exec db now op = .ok next) : Safe now next := by
  cases op with
  | createItem => exact createItem_safe safe ran
  | receiveBatch => exact receiveBatch_safe safe ran
  | adjust => exact adjust_safe safe ran
  | decideAdjustment =>
    obtain ⟨⟨after, decided⟩, decision, rfl⟩ := (map_ok _ _ _).1 ran
    exact decideAdjustment_safe safe decision
  | transfer => exact transfer_safe safe ran
  | createOrder =>
    obtain ⟨⟨after, orderId⟩, created, rfl⟩ := (map_ok _ _ _).1 ran
    exact create_safe safe created
  | confirm => exact confirm_safe safe ran
  | terminate => exact terminate_safe safe ran
  | cancelOrder => exact cancel_safe safe ran
  | expireReservations => exact expireReservations_safe safe ran
  | _ => exact safe_elsewhere safe (Frames.exec_writes ran) (by simp [areas])

theorem opening_safe (config : Config.Configuration) (orderSequence : Option Int) (now : Int) :
    Safe (opening config orderSequence now).now (opening config orderSequence now).db where
  onHand := by simp [opening, Db.empty]
  covered := by simp [opening, Db.empty]
  positive := by simp [opening, Db.empty]
  known := by simp [opening, Db.empty]

theorem run_safe (config : Config.Configuration) (orderSequence : Option Int) (start : Int)
    (labels : List Timed) :
    Safe (Runs.run step (opening config orderSequence start) labels).now
      (Runs.run step (opening config orderSequence start) labels).db :=
  run_keeps Safe (fun _ _ _ later safe => StockSafe.later safe later) exec_safe
    (opening_safe config orderSequence start) labels

/-- In every reachable state, now and at every later time, unexpired reservations are in stock. -/
theorem stock_never_oversold (config : Config.Configuration) (orderSequence : Option Int)
    (start : Int) (labels : List Timed) :
    let reached := Runs.run step (opening config orderSequence start) labels
    forall item, item ∈ reached.db.items.rows ->
      (0 <= item.onHandQuantity /\ item.onHandQuantity <= 2147483647) /\
      forall time, reached.now <= time ->
        reservedQuantity reached.db time item.id <= item.onHandQuantity := by
  intro reached item member
  have safe : Safe reached.now reached.db := run_safe config orderSequence start labels
  refine ⟨safe.onHand item member, fun time later => ?_⟩
  rw [reservedQuantity_reserved]
  exact (safe.later later).covered item member

theorem dispatched_stock_covered :
    exists item, item ∈ (Sample.after Sample.dispatched).db.items.rows /\ item.onHandQuantity = 8 /\
      reservedQuantity (Sample.after Sample.dispatched).db 20 item.id <= item.onHandQuantity := by
  have items : (Sample.after Sample.dispatched).db.items.rows.any (·.onHandQuantity == 8) = true := by
    decide +kernel
  obtain ⟨item, member, found⟩ := List.any_eq_true.1 items
  have covered := (stock_never_oversold Sample.shop (some 0) 0 (Sample.timed Sample.dispatched) item
    member).2 20 (by decide +kernel)
  exact ⟨item, member, beq_iff_eq.1 found, covered⟩

end VapeCommerce.Inventory.Safety
