import VapeCommerce.Orders.Customer
import VapeCommerce.Orders.Transactions

set_option autoImplicit false

-- The operations on orders, as steps of their cases.
namespace VapeCommerce.Orders.Steps

open VapeCommerce.Lib VapeCommerce.Lib.Outcome VapeCommerce.Schema VapeCommerce.Database
open VapeCommerce.Orders.StateMachine VapeCommerce.Orders.Reservations VapeCommerce.Orders.Admin
open VapeCommerce.Orders.Case VapeCommerce.Orders.Progress VapeCommerce.Orders.Transactions
open VapeCommerce.Delivery.Admin

def managed (_ : Id) (event : Event) : Prop :=
  event = .managed

variable {db next : Db} {orderId : Id} {case : OrderCase}

def locked (case : OrderCase) : OrderOperation where
  order := case.order
  delivery := some case.delivery
  cashCollections := [case.collection]

theorem collectionsOf_case (linked : Linked db) (is : IsCase db orderId case) :
    collectionsOf db orderId = [case.collection] := by
  have unique := Table.filter_unique linked.collections_unique is.collection
  simpa only [collectionsOf, Table.filter, beq_eq_decide] using unique

theorem lockOrder_case (linked : Linked db) (is : IsCase db orderId case) :
    lockOrder db orderId = .ok (locked case) := by
  simp only [lockOrder, bind_ok, orThrow_ok, pure_ok]
  exact ⟨case.order, is.order, by
    simp only [is.order_id, deliveryOf, is.delivery, collectionsOf_case linked is, locked]⟩

theorem lockOrder_ok {id : Id} {operation : OrderOperation} (linked : Linked db)
    (ran : lockOrder db id = .ok operation) :
    exists case, IsCase db id case /\ operation = locked case := by
  have found := ran
  simp only [lockOrder, bind_ok, orThrow_ok] at found
  obtain ⟨order, there, -⟩ := found
  obtain ⟨case, is, -⟩ := linked.case_exists (Table.find?_mem there)
  rw [Table.find?_key there] at is
  exact ⟨case, is, Except.ok.inj (ran.symm.trans (lockOrder_case linked is))⟩

theorem history_appended (is : IsCase db orderId case) {entry : OrderStatusHistory}
    (here : entry.orderId = case.order.id) (id : Id) :
    (db.history ++ [entry]).filter (fun other => other.orderId == id) =
      if id = case.order.id then case.history ++ [entry] else historyOf db id := by
  refine appended_at (fun id (other : OrderStatusHistory) => other.orderId == id)
    (congrArg (· ++ [entry]) (is.order_id ▸ is.history)) (fun id => ?_) id
  simpa only [here, beq_iff_eq] using eq_comm

theorem guardsOrder_self (order : Order) : guardsOrder order order = true := by
  simp [guardsOrder]

theorem guardsOrder_only {order other : Order} (hit : guardsOrder order other = true) :
    other.id = order.id := by
  simp only [guardsOrder, Bool.and_eq_true, beq_iff_eq] at hit
  exact hit.1.1

theorem guardsDelivery_self (delivery : Schema.Delivery) : guardsDelivery delivery delivery = true := by
  simp [guardsDelivery]

theorem guardsDelivery_only {delivery other : Schema.Delivery}
    (hit : guardsDelivery delivery other = true) : other.id = delivery.id := by
  simp only [guardsDelivery, Bool.and_eq_true, beq_iff_eq] at hit
  exact hit.1.1

-- The updates on the rows of a case, with its history entry.
theorem rewritten_writes {change : Order -> Order} (orderKeeps : forall row, (change row).id = row.id)
    {data : Schema.Delivery -> Schema.Delivery} (keeps : forall row, (data row).id = row.id)
    (same : forall row, (data row).orderId = row.orderId) {collection : CashCollection}
    {entry : OrderStatusHistory} (linked : Linked db) (is : IsCase db orderId case)
    (orders : next.orders = db.orders.update (guardsOrder case.order) change orderKeeps)
    (deliveries : next.deliveries = db.deliveries.update (guardsDelivery case.delivery) data keeps)
    (collected : forall id, next.collections.lookup CashCollection.orderId id =
      if id = case.order.id then some collection
      else db.collections.lookup CashCollection.orderId id)
    (sameCollection : collection.id = case.collection.id)
    (links : collectionLinks next = collectionLinks db)
    (history : next.history = db.history ++ [entry]) (here : entry.orderId = case.order.id)
    (rest : next.discrepancies = db.discrepancies /\ next.attempts = db.attempts /\
      next.ageEvents = db.ageEvents) :
    Writes db next case { case with
      order := change case.order
      delivery := data case.delivery
      collection
      history := case.history ++ [entry] } := by
  obtain ⟨discrepancies, attempts, ageEvents⟩ := rest
  have base := is.unwritten linked
  exact {
    order := by
      rw [orders]
      exact is.order_updated orderKeeps (guardsOrder_self _) fun _ => guardsOrder_only
    delivery := by
      rw [deliveries]
      exact is.delivery_updated linked keeps same (guardsDelivery_self _) fun _ => guardsDelivery_only
    collection := collected
    discrepancy := by
      unfold Cash.Calculations.discrepancyOf
      rw [discrepancies]
      exact base.discrepancy
    history := by
      unfold historyOf
      rw [history]
      exact history_appended is here
    attempts := by unfold Delivery.Admin.attemptsOf; rw [attempts]; exact base.attempts
    ageEvents := by unfold ageEventsOf; rw [ageEvents]; exact base.ageEvents
    sameDelivery := keeps case.delivery
    sameCollection
    orderIds := by unfold Case.orderIds; rw [orders]; exact orderIds_updated _ _ _
    deliveryLinks := by
      unfold Case.deliveryLinks
      rw [deliveries]
      exact deliveryLinks_updated _ _ _ same
    collectionLinks := links
    opened := by rw [discrepancies]; exact base.opened }

theorem moved_writes (target : OrderStatus) (data : Schema.Delivery -> Schema.Delivery)
    (keeps : forall row, (data row).id = row.id) (same : forall row, (data row).orderId = row.orderId)
    (reasonCode : Text) (actorUserId : Id) (linked : Linked db) (is : IsCase db orderId case)
    (orders : next.orders =
      db.orders.update (guardsOrder case.order) (orderMoved target) (orderMoved_id _))
    (deliveries : next.deliveries = db.deliveries.update (guardsDelivery case.delivery)
      (fun row => deliveryMoved target (data row)) keeps)
    (history : next.history =
      db.history ++ [historyEntry case.order target reasonCode actorUserId])
    (rest : next.collections = db.collections /\ next.discrepancies = db.discrepancies /\
      next.attempts = db.attempts /\ next.ageEvents = db.ageEvents) :
    Writes db next case (moved target (data case.delivery) reasonCode actorUserId case) := by
  obtain ⟨collections, others⟩ := rest
  refine rewritten_writes (orderMoved_id _) (movedWith_id keeps) same linked is orders deliveries
    ?_ rfl ?_ history rfl others
  next =>
    rw [collections]
    exact (is.unwritten linked).collection
  next =>
    unfold Case.collectionLinks
    rw [collections]

-- A confirmation of a pending order consumes what the order reserves.
structure Confirms (db next : Db) (orderId actorUserId : Id) (now : Int) (case : OrderCase)
    (locked : LockedInventory) : Prop where
  is : IsCase db orderId case
  pending : case.order.status = .pendingConfirmation
  mirrored : case.delivery.status = case.order.status
  locks : lockActiveInventory db orderId = .ok locked
  covered : assertReservationCoverage case.order locked now = .ok ()
  consumed : locked.items.foldlM (consumeItem case.order actorUserId locked.reservations)
    (db.items, db.movements) = .ok (next.items, next.movements)
  settled : settle db.reservations locked.reservations .consumed = .ok next.reservations
  writes : Writes db next case
    (moved .confirmed case.delivery "ADMIN_CONFIRMED".toList actorUserId case)

theorem confirm_confirms {id actorUserId : Id} {expectedVersion : Nat} {now : Int}
    (linked : Linked db) (ran : confirm db id expectedVersion actorUserId now = .ok next) :
    exists case locked, Confirms db next id actorUserId now case locked := by
  simp only [confirm, bind_ok, throwIf_ok, orThrow_ok, updateOne_ok, pure_ok] at ran
  obtain ⟨operation, locks, ⟨⟩, -, ⟨⟩, status, delivery, found, ⟨⟩, deliveryStatus, inventory, held, ⟨⟩,
    covered, ⟨items, movements⟩, consumed, reservations, settled, orders, ⟨-, rfl⟩, deliveries, ⟨-, rfl⟩,
    rfl⟩ := ran
  obtain ⟨case, is, rfl⟩ := lockOrder_ok linked locks
  obtain rfl := Option.some.inj found
  simp only [locked, not_or, not_not] at status deliveryStatus
  have same : (locked case).order.id = id := is.order_id
  rw [same] at held
  exact ⟨case, inventory, {
    is
    pending := status.1
    mirrored := deliveryStatus.trans status.1.symm
    locks := held
    covered
    consumed
    settled
    writes := moved_writes .confirmed (fun row => row) (fun _ => rfl) (fun _ => rfl) _ actorUserId linked is
      rfl rfl rfl ⟨rfl, rfl, rfl, rfl⟩ }⟩

theorem confirm_advance {id actorUserId : Id} {expectedVersion : Nat} {now : Int}
    (linked : Linked db) (ran : confirm db id expectedVersion actorUserId now = .ok next) :
    Advance managed db next := by
  obtain ⟨case, inventory, confirms⟩ := confirm_confirms linked ran
  refine Writes.advance linked confirms.is confirms.writes
    (.intake case .confirmed _ actorUserId ?_ confirms.mirrored nofun) rfl
  simp [confirms.pending, intakeSteps]

theorem transitionIntake_advance {source target : OrderStatus} {reasonCode : String}
    {id actorUserId : Id} {expectedVersion : Nat} (linked : Linked db)
    (listed : (source, target) ∈ intakeSteps)
    (ran : transitionIntake db source target reasonCode id expectedVersion actorUserId = .ok next) :
    Advance managed db next := by
  simp only [transitionIntake, bind_ok, throwIf_ok, orThrow_ok, updateOne_ok, pure_ok] at ran
  obtain ⟨operation, locks, ⟨⟩, -, ⟨⟩, status, delivery, found, ⟨⟩, deliveryStatus, ⟨⟩, pickup, orders,
    ⟨-, rfl⟩, deliveries, ⟨-, rfl⟩, rfl⟩ := ran
  obtain ⟨case, is, rfl⟩ := lockOrder_ok linked locks
  obtain rfl := Option.some.inj found
  simp only [locked, not_or, not_not, not_and] at status deliveryStatus pickup
  refine Writes.advance linked is (moved_writes target (fun row => row) (fun _ => rfl) (fun _ => rfl) _
    actorUserId linked is rfl rfl rfl ⟨rfl, rfl, rfl, rfl⟩)
    (.intake case target _ actorUserId (status.1 ▸ listed) ?_ pickup) rfl
  exact deliveryStatus.trans status.1.symm

theorem releaseAll_frame {actorUserId : Id} (ran : releaseAll db orderId actorUserId = .ok next) :
    next = { db with reservations := next.reservations, movements := next.movements } := by
  simp only [releaseAll, bind_ok] at ran
  obtain ⟨locked, -, ran⟩ := ran
  split at ran
  next => obtain rfl := (pure_ok _ _).1 ran; rfl
  next =>
    simp only [bind_ok, pure_ok] at ran
    obtain ⟨reservations, -, movements, -, rfl⟩ := ran
    rfl

-- Voiding an order's expected cash: its one collection ends up void.
theorem voidExpected_rewrites (is : IsCase db orderId case)
    (unrecorded : case.collection.status ∈ unrecordedStatuses) (id : Id) :
    (voidExpected db.collections fun row => row.orderId == orderId).lookup CashCollection.orderId id =
      if id = case.order.id then some { case.collection with status := .voided }
      else db.collections.lookup CashCollection.orderId id := by
  refine (Table.lookup_update _ CashCollection.orderId _ _ _ (fun _ => by rfl) id).trans ?_
  rw [is.order_id]
  split
  next here =>
    subst here
    rw [is.collection, Option.map_some]
    simp only [unrecordedStatuses, List.mem_cons, List.not_mem_nil, or_false] at unrecorded
    rcases unrecorded with expected | voided
    next => rw [Table.rewrite_chosen (by simp [is.collection_order, expected])]
    next =>
      rw [Table.rewrite_other (by simp [voided])]
      simp only [<- voided]
  next apart =>
    cases found : db.collections.lookup CashCollection.orderId id with
    | none => rfl
    | some other =>
      have here := (Table.lookup_some found).2
      rw [Option.map_some, Table.rewrite_other (by simp [here, apart])]

def cancelledCase (reasonCode : Text) (actorUserId : Id) (case : OrderCase) : OrderCase :=
  { case with
    order := orderCancelled case.order
    delivery := deliveryMoved .cancelled case.delivery
    collection := { case.collection with status := .voided }
    history := case.history ++ [historyEntry case.order .cancelled reasonCode actorUserId] }

theorem cancelled_writes {reasonCode : Text} {actorUserId : Id} (linked : Linked db)
    (is : IsCase db orderId case)
    (orders : next.orders =
      db.orders.update (guardsOrder case.order) orderCancelled orderCancelled_id)
    (deliveries : next.deliveries = db.deliveries.update (guardsDelivery case.delivery)
      (deliveryMoved .cancelled) (deliveryMoved_id _))
    (collection : forall id, next.collections.lookup CashCollection.orderId id =
      if id = case.order.id then some { case.collection with status := .voided }
      else db.collections.lookup CashCollection.orderId id)
    (links : collectionLinks next = collectionLinks db)
    (history : next.history =
      db.history ++ [historyEntry case.order .cancelled reasonCode actorUserId])
    (rest : next.discrepancies = db.discrepancies /\ next.attempts = db.attempts /\
      next.ageEvents = db.ageEvents) :
    Writes db next case (cancelledCase reasonCode actorUserId case) :=
  rewritten_writes orderCancelled_id (deliveryMoved_id _) (fun _ => rfl) linked is orders deliveries
    collection rfl links history rfl rest

def dispositionReason : Disposition -> Text
  | .cancel => "ADMIN_CANCELLED".toList
  | .reject => "ADMIN_REJECTED".toList

theorem disposition_early {disposition : Disposition} {status : OrderStatus}
    (admitted : disposition.admits status = true) : status ∈ earlyCancellationStatuses := by
  cases disposition with
  | cancel => simpa [Disposition.admits] using admitted
  | reject =>
    simp only [Disposition.admits, beq_iff_eq] at admitted
    simp [admitted, earlyCancellationStatuses]

-- A cancellation, by whichever side, releases what the order reserves.
structure Cancels (db next : Db) (orderId actorUserId : Id) (reasonCode : Text) (case : OrderCase)
    (released : Db) : Prop where
  is : IsCase db orderId case
  taken : CaseStep .managed case (cancelledCase reasonCode actorUserId case)
  writes : Writes db next case (cancelledCase reasonCode actorUserId case)
  releases : releaseAll db orderId actorUserId = .ok released
  reservations : next.reservations = released.reservations
  movements : next.movements = released.movements
  items : next.items = db.items

theorem Cancels.advance {orderId actorUserId : Id} {reasonCode : Text} {case : OrderCase} {released : Db}
    (cancels : Cancels db next orderId actorUserId reasonCode case released) (linked : Linked db) :
    Advance managed db next :=
  Writes.advance linked cancels.is cancels.writes cancels.taken rfl

theorem terminate_cancels {disposition : Disposition} {id actorUserId : Id} {expectedVersion : Nat}
    (linked : Linked db)
    (ran : terminate db disposition id expectedVersion actorUserId = .ok next) :
    exists reasonCode case released, Cancels db next id actorUserId reasonCode case released := by
  simp only [terminate, bind_ok, throwIf_ok, orThrow_ok, updateOne_ok, pure_ok] at ran
  obtain ⟨operation, locks, ⟨⟩, -, ⟨⟩, admitted, delivery, found, ⟨⟩, mirrored, ⟨⟩, uncounted,
    released, releases, orders, ⟨-, rfl⟩, deliveries, ⟨-, rfl⟩, rfl⟩ := ran
  obtain ⟨case, is, rfl⟩ := lockOrder_ok linked locks
  obtain rfl := Option.some.inj found
  have same : (locked case).order.id = id := is.order_id
  rw [same] at releases
  simp only [locked, not_or, not_not, Bool.and_eq_true] at admitted mirrored
  simp only [locked, List.any_cons, List.any_nil, Bool.or_false, Bool.or_eq_true, Bool.and_eq_true,
    bne_iff_ne, ne_eq, Bool.not_eq_true', not_or, not_and, not_not] at uncounted
  have unrecorded : case.collection.status ∈ unrecordedStatuses := by
    by_cases expected : case.collection.status = .expected
    next => simp [expected, unrecordedStatuses]
    next => simp [uncounted.1 expected, unrecordedStatuses]
  have unpaid : uncollected case.order.paymentStatus = true := by simpa using uncounted.2
  refine ⟨dispositionReason disposition, case, released, {
    is, releases
    taken := .cancelled case _ actorUserId (disposition_early admitted.1) mirrored.2 unpaid unrecorded
    writes := ?_
    reservations := rfl
    movements := rfl
    items := by rw [releaseAll_frame releases] }⟩
  rw [releaseAll_frame releases]
  exact cancelled_writes linked is rfl rfl (is.order_id.symm ▸ voidExpected_rewrites is unrecorded)
    (by exact collectionLinks_updated _ _ (fun _ => by rfl) (fun _ => by rfl) fun _ => by rfl)
    (by cases disposition <;> rfl) ⟨rfl, rfl, rfl⟩

theorem terminate_advance {disposition : Disposition} {id actorUserId : Id} {expectedVersion : Nat}
    (linked : Linked db)
    (ran : terminate db disposition id expectedVersion actorUserId = .ok next) :
    Advance managed db next := by
  obtain ⟨reasonCode, case, released, cancels⟩ := terminate_cancels linked ran
  exact cancels.advance linked

theorem lockOwnedOrder_ok {userId : Id} {orderNumber : Int} {operation : OrderOperation}
    (linked : Linked db)
    (ran : Orders.Customer.lockOwnedOrder db userId orderNumber = .ok operation) :
    exists orderId case, IsCase db orderId case /\ operation = locked case := by
  simp only [Orders.Customer.lockOwnedOrder, bind_ok, orThrow_ok, pure_ok] at ran
  obtain ⟨order, found, rfl⟩ := ran
  obtain ⟨case, is, rfl⟩ := linked.case_exists (List.mem_of_find?_eq_some found)
  refine ⟨case.order.id, case, is, ?_⟩
  simp only [locked, deliveryOf, is.delivery, collectionsOf_case linked is]

theorem cancel_cancels {userId : Id} {orderNumber : Int} {expectedVersion : Nat} (linked : Linked db)
    (ran : Orders.Customer.cancel db userId orderNumber expectedVersion = .ok next) :
    exists orderId reasonCode case released, Cancels db next orderId userId reasonCode case released := by
  simp only [Orders.Customer.cancel, bind_ok, throwIf_ok, orThrow_ok, updateOne_ok, pure_ok] at ran
  obtain ⟨operation, locks, ⟨⟩, -, ⟨⟩, admitted, delivery, found, ⟨⟩, deliveryStatus, ⟨⟩, unpaid,
    collection, expected, released, releases, collections, ⟨-, rfl⟩, orders, ⟨-, rfl⟩, deliveries,
    ⟨-, rfl⟩, rfl⟩ := ran
  obtain ⟨orderId, case, is, rfl⟩ := lockOwnedOrder_ok linked locks
  obtain rfl := Option.some.inj found
  have same : (locked case).order.id = orderId := is.order_id
  rw [same] at releases
  simp only [locked, not_not, Bool.not_eq_false] at admitted deliveryStatus unpaid expected
  split at expected
  next here =>
    obtain rfl := Option.some.inj expected
    have pending : case.order.status = .pendingConfirmation := by
      simpa [canCustomerCancelOrder, customerCancellationStatuses] using admitted
    refine ⟨orderId, "CUSTOMER_CANCELLED".toList, case, released, {
      is, releases
      taken := .cancelled case _ userId ?_ (deliveryStatus.trans pending.symm) unpaid ?_
      writes := ?_
      reservations := rfl
      movements := rfl
      items := by rw [releaseAll_frame releases] }⟩
    next => simp [pending, earlyCancellationStatuses]
    next => simp [here, unrecordedStatuses]
    next =>
      rw [releaseAll_frame releases]
      refine cancelled_writes linked is rfl rfl ?_
        (by exact collectionLinks_updated _ _ (fun _ => by rfl) (fun _ => by rfl) fun _ => by rfl) rfl
        ⟨rfl, rfl, rfl⟩
      refine is.collection_updated linked (fun _ => by rfl) (fun _ => by rfl) ?_ fun other hit => ?_
      next => simp [here]
      next =>
        simp only [Bool.and_eq_true, beq_iff_eq] at hit
        exact hit.1
  next => simp at expected

theorem cancel_advance {userId : Id} {orderNumber : Int} {expectedVersion : Nat} (linked : Linked db)
    (ran : Orders.Customer.cancel db userId orderNumber expectedVersion = .ok next) :
    Advance managed db next := by
  obtain ⟨orderId, reasonCode, case, released, cancels⟩ := cancel_cancels linked ran
  exact cancels.advance linked

end VapeCommerce.Orders.Steps
