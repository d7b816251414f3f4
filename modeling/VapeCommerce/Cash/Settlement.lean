import VapeCommerce.Cash.Remittances

set_option autoImplicit false

-- What verifying a remittance does to the orders in it, case by case.
namespace VapeCommerce.Cash.Settlement

open VapeCommerce.Lib VapeCommerce.Lib.Outcome VapeCommerce.Schema VapeCommerce.Database
open VapeCommerce.Cash.Calculations VapeCommerce.Cash.Admin VapeCommerce.Cash.Accountable
open VapeCommerce.Orders.Case VapeCommerce.Orders.Progress VapeCommerce.Orders.Transactions
open VapeCommerce.Orders.Onward VapeCommerce.Orders.Steps VapeCommerce.Cash.Steps
open VapeCommerce.Cash.Remittances
open VapeCommerce.Checkout.Fulfillment (orFail_ok)

theorem case_of_collection_id {db : Db} {orderId otherId : Id} {case other : OrderCase}
    (is : IsCase db orderId case) (also : IsCase db otherId other)
    (same : case.collection.id = other.collection.id) : orderId = otherId /\ case = other := by
  have row := db.collections.same_of_key is.collection_mem also.collection_mem same
  have ids : orderId = otherId := by rw [<- is.collection_order, row, also.collection_order]
  subst ids
  exact ⟨rfl, is.unique also⟩

-- Orders that keep their rows and links advance one by one.
theorem advance_of_each {allowed : Id -> Event -> Prop} {db next : Db} (linked : Linked db)
    (after : Linked next) (sameIds : orderIds next = orderIds db)
    (each : forall orderId case, IsCase db orderId case ->
      exists later, IsCase next orderId later /\ Path (allowed orderId) case later) :
    Advance allowed db next where
  linked := after
  known := each
  created orderId later is := by
    have ordered : orderId ∈ orderIds db := by
      rw [<- sameIds]
      exact is.order_id ▸ List.mem_map_of_mem is.order_mem
    obtain ⟨order, member, here⟩ := List.mem_map.1 ordered
    obtain ⟨case, before, -⟩ := linked.case_exists member
    rw [here] at before
    obtain ⟨there, found, path⟩ := each orderId case before
    obtain rfl := found.unique is
    exact ⟨case, .inl before, path⟩

-- The rows of orders and collections after some of them are paid and remitted.
def settledRows (db : Db) (collectionIds paidIds : List Id) (paymentStatus : PaymentStatus) : Db :=
  { db with
    collections := db.collections.update (fun row => decide (row.id ∈ collectionIds)) remitted
      remitted_id
    orders := ordersPaid db paymentStatus paidIds }

def remittedCase (collectionIds : List Id) (case : OrderCase) : OrderCase :=
  { case with
    collection := Table.rewrite (fun row => decide (row.id ∈ collectionIds)) remitted case.collection }

def settledCase (collectionIds paidIds : List Id) (paymentStatus : PaymentStatus) (case : OrderCase) :
    OrderCase :=
  { remittedCase collectionIds case with
    order := Table.rewrite (fun row => decide (row.id ∈ paidIds)) (paid paymentStatus) case.order }

theorem rewritten_remitted_id (ids : List Id) (row : CashCollection) :
    (Table.rewrite (fun row => decide (row.id ∈ ids)) remitted row).id = row.id :=
  Table.rewrite_field remitted_id row

theorem settled_is {db : Db} {orderId : Id} {case : OrderCase} (is : IsCase db orderId case)
    (collectionIds paidIds : List Id) (paymentStatus : PaymentStatus) :
    IsCase (settledRows db collectionIds paidIds paymentStatus) orderId
      (settledCase collectionIds paidIds paymentStatus case) where
  order := by
    simp only [settledRows, ordersPaid, Table.find?_update, is.order, Option.map_some, settledCase]
  delivery := is.delivery
  collection := by
    have same : forall row : CashCollection, (remitted row).orderId = row.orderId := fun _ => rfl
    simp only [settledRows, Table.lookup_update _ _ _ _ _ same, is.collection, Option.map_some,
      settledCase, remittedCase]
  discrepancy := by
    simp only [settledCase, remittedCase, rewritten_remitted_id]
    exact is.discrepancy
  history := is.history
  attempts := is.attempts
  ageEvents := is.ageEvents

theorem settled_linked {db : Db} (linked : Linked db) (collectionIds paidIds : List Id)
    (paymentStatus : PaymentStatus) : Linked (settledRows db collectionIds paidIds paymentStatus) := by
  have ids : orderIds (settledRows db collectionIds paidIds paymentStatus) = orderIds db :=
    orderIds_updated _ _ (paid_id _)
  have links : collectionLinks (settledRows db collectionIds paidIds paymentStatus) =
      collectionLinks db :=
    collectionLinks_updated _ _ remitted_id (fun _ => rfl) fun _ => rfl
  exact {
    deliveries := by rw [ids]; exact linked.deliveries
    collections := by rw [links]; exact linked.collections
    history := by rw [ids]; exact linked.history
    attempts := linked.attempts
    ageEvents := linked.ageEvents
    discrepancies := by rw [links]; exact linked.discrepancies
    opened := linked.opened }

-- The amount does not depend on whether the collection is remitted.
theorem answers_remitted {case : OrderCase} {accountable : Int} :
    Answers { case with collection := remitted case.collection } accountable <->
      Answers case accountable := Iff.rfl

section View

variable {view : View} {id : Id} {operation : RemittanceOperation}

-- A collection is remitted when the transaction counts it as allocated in full.
structure Allocated (view : View) (operation : RemittanceOperation) (orderId : Id) (was : OrderCase)
    (accountable : Int) : Prop where
  is : IsCase view.snapshot orderId was
  answers : Answers was accountable
  total : itemsTotal (itemsOn (countedItems view.snapshot operation) was.collection.id) = accountable
  listed : exists allocation, allocation ∈ operation.items /\
    was.collection.id = allocation.item.cashCollectionId /\ allocation = allocatedTo allocation.item was

theorem fullyAllocated_case {db : Db} {counted : List CashRemittanceItem} {orderId : Id}
    {was : OrderCase} (is : IsCase db orderId was) (item : CashRemittanceItem) :
    fullyAllocated db counted (allocatedTo item was) = true <->
      exists accountable, Answers was accountable /\
        itemsTotal (itemsOn counted was.collection.id) = accountable := by
  simp only [fullyAllocated, allocatedTo, is.discrepancy, Answers]
  cases answered : accountableCollectionMillimes was.discrepancy was.collection with
  | error failure => simp
  | ok accountable =>
    constructor
    next => exact fun same => ⟨accountable, rfl, beq_iff_eq.1 same⟩
    next =>
      rintro ⟨other, ⟨⟩, total⟩
      exact beq_iff_eq.2 total

theorem written_allocated (reads : Reads view.snapshot id operation) {collectionId : Id}
    (member : collectionId ∈ writtenIds view operation) : exists orderId was accountable,
      was.collection.id = collectionId /\ Allocated view operation orderId was accountable := by
  obtain ⟨allocation, chosen, rfl⟩ := List.mem_map.1 member
  obtain ⟨listed, full⟩ := List.mem_filter.1 chosen
  obtain ⟨orderId, was, is, here, same⟩ := reads.allocation allocation listed
  rw [same] at full
  obtain ⟨accountable, answers, total⟩ := (fullyAllocated_case is _).1 full
  exact ⟨orderId, was, accountable, by rw [same]; rfl, is, answers, total, allocation, listed, here, same⟩

theorem allocated_written {orderId : Id} {was : OrderCase} {accountable : Int}
    (allocated : Allocated view operation orderId was accountable) :
    was.collection.id ∈ writtenIds view operation := by
  obtain ⟨allocation, listed, -, same⟩ := allocated.listed
  refine List.mem_map.2 ⟨allocation, List.mem_filter.2 ⟨listed, ?_⟩, by rw [same]; rfl⟩
  rw [same]
  exact (fullyAllocated_case allocated.is _).2 ⟨accountable, allocated.answers, allocated.total⟩

theorem remittable_before {status : CashCollectionStatus}
    (allowed : canTransitionCollection status .remitted = true) :
    status ∈ remittableCollectionStatuses := by
  revert allowed
  cases status <;> decide

-- The collection an item stands for has a courier.
theorem Funded.courier {db : Db} (funded : Funded db) {item : CashRemittanceItem}
    (member : item ∈ db.remittanceItems) {orderId : Id} {case : OrderCase} (is : IsCase db orderId case)
    (here : case.collection.id = item.cashCollectionId) :
    case.collection.courierId.isSome = true /\ exists accountable, Answers case accountable := by
  obtain ⟨_, other, accountable, also, there, courier, answers⟩ := funded.backed item member
  obtain ⟨-, rfl⟩ := case_of_collection_id is also (here.trans there.symm)
  exact ⟨courier, accountable, answers⟩

section Clearing

-- An order of the snapshot is, by its collection, the same order now.
theorem current_case (ahead : Ahead view.snapshot view.current) {wasId : Id} {was : OrderCase}
    (before : IsCase view.snapshot wasId was) {orderId : Id} {case : OrderCase}
    (is : IsCase view.current orderId case) (same : was.collection.id = case.collection.id) :
    wasId = orderId /\ Later was case := by
  obtain ⟨after, there, later⟩ := ahead wasId was before
  obtain ⟨rfl, rfl⟩ := case_of_collection_id is there (same.symm.trans later.collectionId.symm)
  exact ⟨rfl, later⟩

-- A collection as the transaction reads it back.
def rereadRow (view : View) (operation : RemittanceOperation) (row : CashCollection) : CashCollection :=
  if row.id ∈ (remittingOf view operation).written then
    ((remittingOf view operation).collections.find? row.id).getD row else row

theorem rereadRow_case {orderId : Id} {was case : OrderCase} (later : Later was case)
    (is : IsCase view.current orderId case) : rereadRow view operation was.collection =
      if was.collection.id ∈ writtenIds view operation then remitted case.collection
        else was.collection := by
  have found : view.current.collections.find? was.collection.id = some case.collection := by
    rw [<- later.collectionId]
    exact Table.find?_of_mem is.collection_mem
  simp only [rereadRow, remittingOf, remittedCollections, Table.find?_update, found, Option.map_some,
    Option.getD_some]
  by_cases written : was.collection.id ∈ writtenIds view operation
  next => rw [if_pos written, if_pos written, Table.rewrite_chosen (by simp [later.collectionId, written])]
  next => rw [if_neg written, if_neg written]

theorem rereadRow_order (linked : Linked view.snapshot) (ahead : Ahead view.snapshot view.current)
    {row : CashCollection} (member : row ∈ view.snapshot.collections.rows) :
    (rereadRow view operation row).orderId = row.orderId := by
  obtain ⟨was, before, rfl⟩ := linked.case_of_collection member
  obtain ⟨case, is, later⟩ := ahead _ was before
  rw [rereadRow_case later is]
  split
  next => exact is.collection_order
  next => rfl

-- The transaction finds one collection for an order: its own, rewritten if it was just remitted.
theorem reread_case {orderId : Id} {was case : OrderCase} (linked : Linked view.snapshot)
    (ahead : Ahead view.snapshot view.current) (before : IsCase view.snapshot orderId was)
    (is : IsCase view.current orderId case) (later : Later was case) :
    (rereadCollections view.snapshot (remittingOf view operation)).filter (fun row =>
      row.orderId == was.order.id && row.status != .voided) =
      [if was.collection.id ∈ writtenIds view operation then remitted case.collection
        else was.collection].filter fun row => row.status != .voided := by
  have alone : view.snapshot.collections.rows.filter (fun row => row.orderId == orderId) =
      [was.collection] := by
    simpa only [Orders.Admin.collectionsOf, Table.filter] using collectionsOf_case linked before
  have own : (rereadCollections view.snapshot (remittingOf view operation)).filter (fun row =>
      row.orderId == orderId) = [rereadRow view operation was.collection] := by
    have rows : rereadCollections view.snapshot (remittingOf view operation) =
        view.snapshot.collections.rows.map (rereadRow view operation) := rfl
    have chosen : forall row, row ∈ view.snapshot.collections.rows ->
        ((fun row : CashCollection => row.orderId == orderId) ∘ rereadRow view operation) row =
          (row.orderId == orderId) := fun row member => by
      simp only [Function.comp_apply, rereadRow_order linked ahead member]
    rw [rows, List.filter_map, List.filter_congr chosen, alone, List.map_singleton]
  rw [<- rereadRow_case later is, <- own, List.filter_filter, before.order_id]
  exact List.filter_congr fun row _ => Bool.and_comm _ _

-- The amount depends on what is owed and collected only.
theorem answers_same {was : OrderCase} {collection : CashCollection} {accountable : Int}
    (owed : collection.expectedMillimes = was.collection.expectedMillimes)
    (collected : collection.collectedMillimes = was.collection.collectedMillimes) :
    accountableCollectionMillimes was.discrepancy collection = .ok accountable <->
      Answers was accountable := by
  simp only [Answers, accountableCollectionMillimes, owed, collected]

theorem clears_alone {orderId : Id} {was : OrderCase} {row : CashCollection} {state : Remitting}
    (before : IsCase view.snapshot orderId was)
    (alone : (rereadCollections view.snapshot state).filter (fun other =>
      other.orderId == was.order.id && other.status != .voided) =
        [row].filter fun other => other.status != .voided)
    (same : row.id = was.collection.id) (clear : clears view.snapshot state was.order = true) :
    row.status = .remitted /\
      accountableCollectionMillimes was.discrepancy row = .ok was.order.expectedCodMillimes := by
  cases live : row.status != .voided with
  | false => simp [clears, alone, live] at clear
  | true =>
    have single : [row].filter (fun other => other.status != .voided) = [row] := by simp [live]
    simp only [clears, alone, single, Bool.and_eq_true] at clear
    obtain ⟨remitted, total⟩ := clear
    refine ⟨by simpa using remitted, ?_⟩
    split at total
    next sum summed =>
      simp only [bind_ok, sumMillimes, orFail_ok] at summed
      obtain ⟨amounts, answers, summed⟩ := summed
      obtain ⟨amount, answered, others, none, rfl⟩ := (mapM_cons_ok _ _ _ _).1 answers
      obtain rfl := (pure_ok _ _).1 none
      obtain ⟨-, -, rfl⟩ := (Money.Cash.sumMillimes_ok _ _).1 summed
      rw [same, before.discrepancy] at answered
      simpa [<- beq_iff_eq.1 total] using answered
    next => simp at total

theorem clears_case {orderId : Id} {was case : OrderCase} (linked : Linked view.snapshot)
    (ahead : Ahead view.snapshot view.current) (before : IsCase view.snapshot orderId was)
    (sound : Sound was) (is : IsCase view.current orderId case) (later : Later was case)
    (reads : Reads view.snapshot id operation)
    (clear : clears view.snapshot (remittingOf view operation) was.order = true) :
    Answers was was.order.expectedCodMillimes /\
      (was.collection.id ∈ writtenIds view operation \/ was.collection.status = .remitted) := by
  have alone := @reread_case view operation orderId was case linked ahead before is later
  by_cases written : was.collection.id ∈ writtenIds view operation
  next =>
    rw [if_pos written] at alone
    obtain ⟨-, answered⟩ := clears_alone before alone later.collectionId clear
    obtain ⟨_, other, accountable, same, allocated⟩ := written_allocated reads written
    obtain ⟨rfl, rfl⟩ := case_of_collection_id allocated.is before same
    have count := later.counted (answered_recorded sound allocated.answers)
    exact ⟨(answers_same later.owed count.collected).1 answered, .inl written⟩
  next =>
    rw [if_neg written] at alone
    obtain ⟨status, answered⟩ := clears_alone before alone rfl clear
    exact ⟨answered, .inr status⟩

-- An allocated collection still answers for the amount, and has a courier.
theorem Allocated.current {wasId : Id} {was case : OrderCase} {accountable : Int}
    (allocated : Allocated view operation wasId was accountable) (old : Settled view.snapshot)
    (funded : Funded view.snapshot) (reads : Reads view.snapshot id operation) (later : Later was case) :
    Answers case accountable /\ case.collection.courierId.isSome = true := by
  obtain ⟨allocation, listed, here, -⟩ := allocated.listed
  have sound := old.sound wasId was allocated.is
  have count := later.counted (answered_recorded sound allocated.answers)
  refine ⟨later.answered sound allocated.answers, ?_⟩
  rw [count.courier]
  exact (Funded.courier funded (reads.item_mem listed).1 allocated.is here).1

theorem written_remits (old : Settled view.snapshot) (ahead : Ahead view.snapshot view.current)
    (funded : Funded view.snapshot) (reads : Reads view.snapshot id operation) {next : Db}
    (applies : AppliesAllocations view operation next) {orderId : Id} {case : OrderCase}
    (is : IsCase view.current orderId case)
    (written : case.collection.id ∈ writtenIds view operation) : exists accountable,
      case.collection.status ∈ remittableCollectionStatuses /\ Answers case accountable /\
        case.collection.courierId.isSome = true := by
  obtain ⟨_, was, accountable, same, allocated⟩ := written_allocated reads written
  obtain ⟨-, later⟩ := current_case ahead allocated.is is same
  obtain ⟨answers, courier⟩ := allocated.current old funded reads later
  obtain ⟨allocation, listed, -, row⟩ := allocated.listed
  have full : fullyAllocated view.snapshot (countedItems view.snapshot operation) allocation = true := by
    rw [row]
    exact (fullyAllocated_case allocated.is _).2 ⟨accountable, allocated.answers, allocated.total⟩
  obtain ⟨allowed, found, member, guard⟩ := applies.remitted allocation listed full
  rw [row] at allowed guard
  simp only [guardsCollection, allocatedTo, Bool.and_eq_true, beq_iff_eq] at guard
  obtain rfl := view.current.collections.same_of_key member is.collection_mem (guard.1.trans same)
  exact ⟨accountable, guard.2 ▸ remittable_before allowed, answers, courier⟩

theorem remitted_path (old : Settled view.snapshot) (ahead : Ahead view.snapshot view.current)
    (funded : Funded view.snapshot) (reads : Reads view.snapshot id operation) {next : Db}
    (applies : AppliesAllocations view operation next) {orderId : Id} {case : OrderCase}
    (is : IsCase view.current orderId case) :
    Path (· = .managed) case (remittedCase (writtenIds view operation) case) := by
  by_cases written : case.collection.id ∈ writtenIds view operation
  next =>
    obtain ⟨accountable, counted, answers, courier⟩ :=
      written_remits old ahead funded reads applies is written
    rw [remittedCase, Table.rewrite_chosen (by simp [written])]
    exact .single ⟨.managed, rfl, .remitted case accountable counted answers courier⟩
  next =>
    rw [remittedCase, Table.rewrite_other (by simp [written])]
    exact .refl

-- An order whose cash is cleared answers for all it owes, and its collection is remitted.
theorem cleared_answers (old : Settled view.snapshot) (ahead : Ahead view.snapshot view.current)
    (funded : Funded view.snapshot) (reads : Reads view.snapshot id operation) {orderId : Id}
    {case : OrderCase} (is : IsCase view.current orderId case)
    (cleared : case.order.id ∈ clearedIds view operation) :
    Answers case case.order.expectedCodMillimes /\ case.collection.courierId.isSome = true /\
      (remittedCase (writtenIds view operation) case).collection.status = .remitted := by
  obtain ⟨order, chosen, sameOrder⟩ := List.mem_map.1 cleared
  obtain ⟨unique, clear⟩ := List.mem_filter.1 chosen
  obtain ⟨allocation, listed, rfl⟩ := (uniqueOrders_spec operation).2.1 order unique
  obtain ⟨wasId, was, before, here, row⟩ := reads.allocation allocation listed
  rw [row] at clear sameOrder
  simp only [allocatedTo] at clear sameOrder
  obtain ⟨after, there, later⟩ := ahead wasId was before
  obtain rfl : wasId = orderId := by
    rw [<- before.order_id, sameOrder, is.order_id]
  obtain rfl := there.unique is
  have sound := old.sound _ was before
  obtain ⟨answers, remits⟩ := clears_case old.linked ahead before sound is later reads clear
  have count := later.counted (answered_recorded sound answers)
  refine ⟨later.cod ▸ later.answered sound answers, ?_, ?_⟩
  next =>
    rw [count.courier]
    exact (Funded.courier funded (reads.item_mem listed).1 before here).1
  next =>
    rcases remits with written | remitted
    next => rw [remittedCase, Table.rewrite_chosen (by simp [later.collectionId, written])]; rfl
    next =>
      have now := count.remitted remitted
      by_cases written : after.collection.id ∈ writtenIds view operation
      next => rw [remittedCase, Table.rewrite_chosen (by simp [written])]; rfl
      next => rw [remittedCase, Table.rewrite_other (by simp [written]), now]

theorem remittedCase_answers (collectionIds : List Id) {case : OrderCase} {accountable : Int} :
    Answers (remittedCase collectionIds case) accountable <-> Answers case accountable := by
  by_cases written : case.collection.id ∈ collectionIds
  next => rw [remittedCase, Table.rewrite_chosen (by simp [written])]; exact answers_remitted
  next => rw [remittedCase, Table.rewrite_other (by simp [written])]

theorem remittedCase_courier (collectionIds : List Id) (case : OrderCase) :
    (remittedCase collectionIds case).collection.courierId = case.collection.courierId := by
  have same : forall row : CashCollection, (remitted row).courierId = row.courierId := fun _ => rfl
  exact Table.rewrite_field same case.collection

-- What verifying does to one order: its collection is remitted, and then its cash is clear.
theorem settled_path (old : Settled view.snapshot) (ahead : Ahead view.snapshot view.current)
    (funded : Funded view.snapshot) (reads : Reads view.snapshot id operation) {next : Db}
    (applies : AppliesAllocations view operation next) {orderId : Id} {case : OrderCase}
    (is : IsCase view.current orderId case) :
    Path (· = .managed) case
      (settledCase (writtenIds view operation) (clearedIds view operation) .cashRemitted case) := by
  have remits := remitted_path old ahead funded reads applies is
  by_cases cleared : case.order.id ∈ clearedIds view operation
  next =>
    obtain ⟨answers, courier, status⟩ := cleared_answers old ahead funded reads is cleared
    rw [settledCase, Table.rewrite_chosen (by simp [cleared])]
    refine remits.tail ⟨.managed, rfl, .paid _ .cashRemitted case.order.expectedCodMillimes (.inl rfl)
      ((remittedCase_answers _).2 answers) ?_ fun _ => ⟨status, rfl⟩⟩
    rw [remittedCase_courier]
    exact courier
  next =>
    rw [settledCase, Table.rewrite_other (by simp [cleared])]
    exact remits

theorem applied_advance (old : Settled view.snapshot) (settled : Settled view.current)
    (ahead : Ahead view.snapshot view.current) (funded : Funded view.snapshot)
    (reads : Reads view.snapshot id operation) {next : Db}
    (applies : AppliesAllocations view operation next) : Advance managed view.current next := by
  have rows : next = settledRows view.current (writtenIds view operation) (clearedIds view operation)
      .cashRemitted := applies.rows
  refine advance_of_each settled.linked ?_ ?_ fun orderId case is => ?_
  next => exact rows ▸ settled_linked settled.linked _ _ _
  next => exact rows ▸ orderIds_updated _ _ (paid_id _)
  next => exact ⟨_, rows ▸ settled_is is _ _ _, settled_path old ahead funded reads applies is⟩

end Clearing

end View

end VapeCommerce.Cash.Settlement
