import VapeCommerce.Cash.Steps

set_option autoImplicit false

-- Remittances over the orders they hold: what verifying or disputing one writes.
namespace VapeCommerce.Cash.Remittances

open VapeCommerce.Lib VapeCommerce.Lib.Outcome VapeCommerce.Schema VapeCommerce.Database
open VapeCommerce.Cash.Calculations VapeCommerce.Cash.Admin VapeCommerce.Cash.Accountable
open VapeCommerce.Orders.Case VapeCommerce.Orders.Progress VapeCommerce.Orders.Transactions
open VapeCommerce.Orders.Onward VapeCommerce.Orders.Steps VapeCommerce.Cash.Steps

-- The amount a case answers for.
def Answers (case : OrderCase) (accountable : Int) : Prop :=
  accountableCollectionMillimes case.discrepancy case.collection = .ok accountable

-- Every item stands for cash that is there, and a remittance declares what its items add up to.
structure Funded (db : Db) : Prop where
  amount : forall item, item ∈ db.remittanceItems -> 1 <= item.amountMillimes
  remittance : forall item, item ∈ db.remittanceItems ->
    exists remittance, remittance ∈ db.remittances.rows /\ remittance.id = item.remittanceId
  backed : forall item, item ∈ db.remittanceItems -> exists orderId case accountable,
    IsCase db orderId case /\ case.collection.id = item.cashCollectionId /\
      case.collection.courierId.isSome = true /\ Answers case accountable
  covered : forall orderId case accountable, IsCase db orderId case -> Answers case accountable ->
    itemsTotal (itemsOn db.remittanceItems case.collection.id) <= accountable
  declared : forall remittance, remittance ∈ db.remittances.rows ->
    itemsTotal (itemsIn db.remittanceItems remittance.id) = remittance.declaredMillimes
  single : forall remittance, remittance ∈ db.remittances.rows ->
    ((itemsIn db.remittanceItems remittance.id).map (·.cashCollectionId)).Nodup

theorem answers_nonneg {case : OrderCase} {accountable : Int} (answers : Answers case accountable) :
    0 <= accountable := by
  simp only [Answers, accountableCollectionMillimes, bind_ok, cashDifference_ok] at answers
  obtain ⟨difference, ⟨expected, collected, -⟩, answers⟩ := answers
  cases found : case.discrepancy with
  | none =>
    simp only [found, bind_ok, pure_ok] at answers
    obtain ⟨-, -, rfl⟩ := answers
    exact collected.1
  | some row =>
    simp only [found, bind_ok, pure_ok] at answers
    obtain ⟨-, -, -, -, rfl⟩ := answers
    split
    next => exact expected.1
    next => exact collected.1

def allocatedTo (item : CashRemittanceItem) (case : OrderCase) : AllocatedItem where
  item := item
  collection := case.collection
  order := case.order

theorem allocatedItem_ok {db : Db} {item : CashRemittanceItem} {allocation : AllocatedItem}
    (linked : Linked db) (ran : allocatedItem db item = .ok allocation) :
    exists orderId case, IsCase db orderId case /\ case.collection.id = item.cashCollectionId /\
      allocation = allocatedTo item case := by
  simp only [allocatedItem, bind_ok, orThrow_ok, pure_ok] at ran
  obtain ⟨collection, found, order, ordered, rfl⟩ := ran
  obtain ⟨case, is, rfl⟩ := linked.case_of_collection (Table.find?_mem found)
  obtain rfl := Option.some.inj (is.order.symm.trans ordered)
  exact ⟨_, case, is, Table.find?_key found, rfl⟩

theorem mapM_items {db : Db} {items : List CashRemittanceItem} {allocations : List AllocatedItem}
    (ran : items.mapM (allocatedItem db) = .ok allocations) : allocations.map (·.item) = items := by
  induction items generalizing allocations with
  | nil =>
    simp only [List.mapM_nil, pure_ok] at ran
    simp [<- ran]
  | cons item rest ih =>
    obtain ⟨first, made, others, later, rfl⟩ := (mapM_cons_ok _ _ _ _).1 ran
    simp only [allocatedItem, bind_ok, pure_ok] at made
    obtain ⟨_, -, _, -, rfl⟩ := made
    simp [ih later]

-- A remittance as a transaction reads it.
structure Reads (db : Db) (id : Id) (operation : RemittanceOperation) : Prop where
  found : db.remittances.find? id = some operation.remittance
  items : operation.items.map (·.item) = itemsIn db.remittanceItems id
  allocation : forall allocation, allocation ∈ operation.items -> exists orderId case,
    IsCase db orderId case /\ case.collection.id = allocation.item.cashCollectionId /\
      allocation = allocatedTo allocation.item case

theorem lockRemittance_ok {db : Db} {id : Id} {operation : RemittanceOperation} (linked : Linked db)
    (ran : lockRemittance db id = .ok operation) : Reads db id operation := by
  simp only [lockRemittance, bind_ok, orThrow_ok, pure_ok] at ran
  obtain ⟨remittance, found, items, made, rfl⟩ := ran
  refine ⟨found, mapM_items made, fun allocation member => ?_⟩
  obtain ⟨item, -, same⟩ := mapM_ok_mem made member
  obtain ⟨orderId, case, is, here, rfl⟩ := allocatedItem_ok linked same
  exact ⟨orderId, case, is, here, rfl⟩

theorem Reads.item_mem {db : Db} {id : Id} {operation : RemittanceOperation}
    (reads : Reads db id operation) {allocation : AllocatedItem}
    (member : allocation ∈ operation.items) :
    allocation.item ∈ db.remittanceItems /\ allocation.item.remittanceId = id := by
  have there : allocation.item ∈ operation.items.map (·.item) := List.mem_map_of_mem member
  rw [reads.items] at there
  obtain ⟨known, same⟩ := List.mem_filter.1 there
  exact ⟨known, by simpa using same⟩

theorem Reads.collections {db : Db} {id : Id} {operation : RemittanceOperation}
    (reads : Reads db id operation) : operation.items.map (·.collection.id) =
      (itemsIn db.remittanceItems id).map (·.cashCollectionId) := by
  rw [<- reads.items, List.map_map]
  refine List.map_congr_left fun allocation member => ?_
  obtain ⟨orderId, case, -, here, same⟩ := reads.allocation allocation member
  rw [same] at here ⊢
  exact here

theorem Reads.distinct {db : Db} {id : Id} {operation : RemittanceOperation}
    (reads : Reads db id operation) (funded : Funded db) :
    (operation.items.map (·.collection.id)).Nodup := by
  rw [reads.collections]
  have row := Table.find?_mem reads.found
  exact Table.find?_key reads.found ▸ funded.single _ row

-- The items whose collection is allocated in full, as the transaction counts.
def fullyAllocated (snapshot : Db) (counted : List CashRemittanceItem) (allocation : AllocatedItem) :
    Bool :=
  match accountableCollectionMillimes (discrepancyOf snapshot allocation.collection.id)
    allocation.collection with
  | .ok accountable => itemsTotal (itemsOn counted allocation.collection.id) == accountable
  | .error _ => false

def guardsCollection (allocation : AllocatedItem) (row : CashCollection) : Bool :=
  row.id == allocation.collection.id && row.status == allocation.collection.status

theorem remitItem_cases {snapshot : Db} {counted : List CashRemittanceItem} {state next : Remitting}
    {allocation : AllocatedItem} (ran : remitItem snapshot counted state allocation = .ok next) :
    (fullyAllocated snapshot counted allocation = false /\ next = state) \/
      (fullyAllocated snapshot counted allocation = true /\
        canTransitionCollection allocation.collection.status .remitted = true /\
        state.collections.count (guardsCollection allocation) = 1 /\
        next.collections = state.collections.update (guardsCollection allocation) remitted remitted_id /\
        next.written = state.written ++ [allocation.collection.id]) := by
  simp only [remitItem, bind_ok] at ran
  obtain ⟨accountable, answers, ⟨⟩, -, ran⟩ := ran
  simp only [fullyAllocated, answers]
  split at ran
  next differs => exact .inl ⟨by simpa using differs, ((pure_ok _ _).1 ran).symm⟩
  next same =>
    simp only [bind_ok, throwIf_ok, updateOne_ok, pure_ok] at ran
    obtain ⟨⟨⟩, allowed, collections, ⟨one, rfl⟩, rfl⟩ := ran
    exact .inr ⟨by simpa using same, by simpa using allowed, one, rfl, rfl⟩

theorem remitItem_round (snapshot : Db) (counted : List CashRemittanceItem) :
    Table.UpdateRound Remitting.collections (fun allocation : AllocatedItem => allocation.collection.id)
      (fullyAllocated snapshot counted) guardsCollection remitted (remitItem snapshot counted) where
  picked state allocation next ran pick := by
    rcases remitItem_cases ran with ⟨skipped, -⟩ | ⟨-, -, one, rows, -⟩
    next => simp [skipped] at pick
    next => exact ⟨one, by rw [rows, Table.update_rows]⟩
  passed state allocation next ran pass := by
    rcases remitItem_cases ran with ⟨-, same⟩ | ⟨picked, -⟩
    next => exact same
    next => simp [picked] at pass
  only allocation row hit := by
    simp only [guardsCollection, Bool.and_eq_true, beq_iff_eq] at hit
    exact hit.1
  keeps := remitted_id

theorem remitItems_written {snapshot : Db} {counted : List CashRemittanceItem}
    {items : List AllocatedItem} {start finish : Remitting}
    (ran : items.foldlM (remitItem snapshot counted) start = .ok finish) :
    finish.written = start.written ++
      (items.filter (fullyAllocated snapshot counted)).map (·.collection.id) := by
  induction items generalizing start with
  | nil =>
    simp only [List.foldlM_nil, pure_ok] at ran
    simp [ran]
  | cons allocation rest ih =>
    simp only [List.foldlM_cons, bind_ok] at ran
    obtain ⟨middle, first, later⟩ := ran
    rw [ih later]
    rcases remitItem_cases first with ⟨skipped, rfl⟩ | ⟨picked, -, -, -, written⟩
    next => rw [List.filter_cons_of_neg (by simp [skipped])]
    next => rw [List.filter_cons_of_pos picked, written, List.map_cons, List.append_assoc]; rfl

-- When an order's collections are all remitted for what is owed, as the transaction reads them.
def clears (snapshot : Db) (state : Remitting) (order : Order) : Bool :=
  let orderCollections := (rereadCollections snapshot state).filter fun row =>
    row.orderId == order.id && row.status != .voided
  !(orderCollections.isEmpty || orderCollections.any fun row => row.status != .remitted) &&
    match (do
      let amounts <- orderCollections.mapM fun collection =>
        accountableCollectionMillimes (discrepancyOf snapshot collection.id) collection
      sumMillimes amounts : Except Failure Int) with
    | .ok total => total == order.expectedCodMillimes
    | .error _ => false

def guardsVersion (order row : Order) : Bool :=
  row.id == order.id && row.version == order.version

theorem clearOrder_cases {snapshot : Db} {state : Remitting} {orders next : Table Order.id}
    {order : Order} (ran : clearOrder snapshot state orders order = .ok next) :
    (clears snapshot state order = false /\ next = orders) \/
      (clears snapshot state order = true /\ orders.count (guardsVersion order) = 1 /\
        next = orders.update (guardsVersion order) (paid .cashRemitted) (paid_id _)) := by
  simp only [clearOrder] at ran
  split at ran
  next pending =>
    refine .inl ⟨?_, ((pure_ok _ _).1 ran).symm⟩
    simp only [clears, pending, Bool.not_true, Bool.false_and]
  next counted =>
    simp only [bind_ok] at ran
    obtain ⟨amounts, answers, total, summed, ran⟩ := ran
    have known : ((do
        let amounts <- ((rereadCollections snapshot state).filter fun row =>
          row.orderId == order.id && row.status != .voided).mapM fun collection =>
            accountableCollectionMillimes (discrepancyOf snapshot collection.id) collection
        sumMillimes amounts : Except Failure Int)) = .ok total :=
      (bind_ok _ _ _).2 ⟨amounts, answers, summed⟩
    simp only [clears, known, counted, Bool.not_false, Bool.true_and]
    split at ran
    next differs => exact .inl ⟨by simpa using differs, ((pure_ok _ _).1 ran).symm⟩
    next same =>
      obtain ⟨one, rfl⟩ := (updateOne_ok _ _ _ _ _ _).1 ran
      exact .inr ⟨by simpa using same, one, rfl⟩

theorem clearOrder_round (snapshot : Db) (state : Remitting) :
    Table.UpdateRound (fun orders : Table Order.id => orders) Order.id (clears snapshot state)
      guardsVersion (paid .cashRemitted) (clearOrder snapshot state) where
  picked orders order next ran pick := by
    rcases clearOrder_cases ran with ⟨skipped, -⟩ | ⟨-, one, rows⟩
    next => simp [skipped] at pick
    next => exact ⟨one, by rw [rows, Table.update_rows]⟩
  passed orders order next ran pass := by
    rcases clearOrder_cases ran with ⟨-, same⟩ | ⟨picked, -⟩
    next => exact same
    next => simp [picked] at pass
  only order row hit := by
    simp only [guardsVersion, Bool.and_eq_true, beq_iff_eq] at hit
    exact hit.1
  keeps := paid_id _

theorem discrepantOrder_round : Table.UpdateRound (fun orders : Table Order.id => orders) Order.id
    (fun _ => true) guardsVersion (paid .reconciliationDiscrepancy) discrepantOrder where
  picked orders order next ran _ := by
    obtain ⟨one, rfl⟩ := (updateOne_ok _ _ _ _ _ _).1 ran
    exact ⟨one, rfl⟩
  passed orders order next _ pass := by simp at pass
  only order row hit := by
    simp only [guardsVersion, Bool.and_eq_true, beq_iff_eq] at hit
    exact hit.1
  keeps := paid_id _

def collectOrder (orders : List Order) (order : Order) : List Order :=
  if orders.any (fun other => other.id == order.id) then orders else orders ++ [order]

-- The orders of a remittance, each once.
theorem collectOrders {orders seen : List Order} (distinct : (seen.map Order.id).Nodup) :
    ((orders.foldl collectOrder seen).map Order.id).Nodup /\
      (forall order, order ∈ orders.foldl collectOrder seen -> order ∈ seen \/ order ∈ orders) /\
      forall order, order ∈ seen \/ order ∈ orders ->
        order.id ∈ (orders.foldl collectOrder seen).map Order.id := by
  induction orders generalizing seen with
  | nil => exact ⟨distinct, fun order member => .inl member, fun order member => by
      rcases member with known | none
      next => exact List.mem_map_of_mem known
      next => simp at none⟩
  | cons first rest ih =>
    rw [List.foldl_cons]
    by_cases known : seen.any (fun other => other.id == first.id) = true
    next =>
      rw [collectOrder, if_pos known]
      obtain ⟨unique, sources, covers⟩ := ih distinct
      refine ⟨unique, fun order member => (sources order member).imp_right (List.mem_cons_of_mem _), ?_⟩
      rintro order (there | there)
      next => exact covers order (.inl there)
      next =>
        rcases List.mem_cons.1 there with rfl | later
        next =>
          obtain ⟨other, present, same⟩ := List.any_eq_true.1 known
          exact (beq_iff_eq.1 same) ▸ covers other (.inl present)
        next => exact covers order (.inr later)
    next =>
      rw [collectOrder, if_neg known]
      have fresh : Not (first.id ∈ seen.map Order.id) := by
        intro there
        obtain ⟨other, present, same⟩ := List.mem_map.1 there
        exact known (List.any_eq_true.2 ⟨other, present, by simp [same]⟩)
      have appended : ((seen ++ [first]).map Order.id).Nodup := by
        rw [List.map_append, List.nodup_append]
        refine ⟨distinct, by simp, fun left member right other same => ?_⟩
        simp only [List.map_cons, List.map_nil, List.mem_singleton] at other
        exact fresh (other ▸ same ▸ member)
      obtain ⟨unique, sources, covers⟩ := ih appended
      refine ⟨unique, fun order member => ?_, ?_⟩
      next =>
        rcases sources order member with there | later
        next =>
          rcases List.mem_append.1 there with there | here
          next => exact .inl there
          next => exact .inr (by simp [List.mem_singleton.1 here])
        next => exact .inr (List.mem_cons_of_mem _ later)
      next =>
        rintro order (there | there)
        next => exact covers order (.inl (by simp [there]))
        next =>
          rcases List.mem_cons.1 there with rfl | later
          next => exact covers order (.inl (by simp))
          next => exact covers order (.inr later)

theorem uniqueOrders_spec (operation : RemittanceOperation) :
    ((uniqueOrders operation).map Order.id).Nodup /\
      (forall order, order ∈ uniqueOrders operation ->
        exists allocation, allocation ∈ operation.items /\ allocation.order = order) /\
      forall allocation, allocation ∈ operation.items ->
        allocation.order.id ∈ (uniqueOrders operation).map Order.id := by
  obtain ⟨unique, sources, covers⟩ := @collectOrders (operation.items.map (·.order)) [] (by simp)
  refine ⟨unique, fun order member => ?_, fun allocation member => ?_⟩
  next =>
    rcases sources order member with none | there
    next => simp at none
    next => exact List.mem_map.1 there
  next => exact covers allocation.order (.inr (List.mem_map_of_mem member))

def writtenIds (view : View) (operation : RemittanceOperation) : List Id :=
  (operation.items.filter
    (fullyAllocated view.snapshot (countedItems view.snapshot operation))).map (·.collection.id)

def remittedCollections (view : View) (operation : RemittanceOperation) : Table CashCollection.id :=
  view.current.collections.update (fun row => decide (row.id ∈ writtenIds view operation)) remitted
    remitted_id

def remittingOf (view : View) (operation : RemittanceOperation) : Remitting where
  collections := remittedCollections view operation
  written := writtenIds view operation

def clearedIds (view : View) (operation : RemittanceOperation) : List Id :=
  ((uniqueOrders operation).filter (clears view.snapshot (remittingOf view operation))).map Order.id

def ordersPaid (db : Db) (paymentStatus : PaymentStatus) (ids : List Id) : Table Order.id :=
  db.orders.update (fun row => decide (row.id ∈ ids)) (paid paymentStatus) (paid_id _)

structure AppliesAllocations (view : View) (operation : RemittanceOperation) (next : Db) : Prop where
  rows : next = { view.current with
    collections := remittedCollections view operation
    orders := ordersPaid view.current .cashRemitted (clearedIds view operation) }
  remitted : forall allocation, allocation ∈ operation.items ->
    fullyAllocated view.snapshot (countedItems view.snapshot operation) allocation = true ->
    canTransitionCollection allocation.collection.status .remitted = true /\
      exists row, row ∈ view.current.collections.rows /\ guardsCollection allocation row = true
  cleared : forall order, order ∈ uniqueOrders operation ->
    clears view.snapshot (remittingOf view operation) order = true ->
    exists row, row ∈ view.current.orders.rows /\ guardsVersion order row = true

theorem applyVerifiedAllocations_ok {view : View} {id : Id} {operation : RemittanceOperation} {next : Db}
    (funded : Funded view.snapshot) (reads : Reads view.snapshot id operation)
    (ran : applyVerifiedAllocations view operation = .ok next) :
    AppliesAllocations view operation next := by
  simp only [applyVerifiedAllocations, bind_ok, pure_ok] at ran
  obtain ⟨state, remits, orders, clearing, rfl⟩ := ran
  obtain ⟨rows, held⟩ := Table.update_loop
    (remitItem_round view.snapshot (countedItems view.snapshot operation)) operation.items
    (reads.distinct funded) remits
  have written := remitItems_written remits
  have same : state = remittingOf view operation := by
    have collections : state.collections = remittedCollections view operation :=
      Table.ext_rows (by rw [rows]; rfl)
    cases state
    simp only at collections written
    rw [collections, written]
    rfl
  obtain ⟨unique, -, -⟩ := uniqueOrders_spec operation
  rw [same] at clearing
  obtain ⟨paidRows, guarded⟩ := Table.update_loop
    (clearOrder_round view.snapshot (remittingOf view operation)) (uniqueOrders operation) unique clearing
  have ordered : orders = ordersPaid view.current .cashRemitted (clearedIds view operation) :=
    Table.ext_rows (by rw [paidRows]; rfl)
  have checked : forall allocation, allocation ∈ operation.items ->
      fullyAllocated view.snapshot (countedItems view.snapshot operation) allocation = true ->
      canTransitionCollection allocation.collection.status .remitted = true :=
    foldlM_each (fun _ allocation _ round => by
      rcases remitItem_cases round with ⟨skipped, -⟩ | ⟨-, allowed, -⟩
      next => simp [skipped]
      next => exact fun _ => allowed) remits
  exact {
    rows := by rw [same, ordered]; rfl
    remitted := fun allocation member full => ⟨checked allocation member full, held allocation member full⟩
    cleared := guarded }

end VapeCommerce.Cash.Remittances
