import VapeCommerce.Inventory.Safety
import VapeCommerce.Orders.Runs

set_option autoImplicit false

-- From which states an order can still be delivered, returned or cancelled.
namespace VapeCommerce.Orders.DeadEnds

open VapeCommerce.Lib VapeCommerce.Lib.Outcome VapeCommerce.Schema VapeCommerce.Database
open VapeCommerce.Orders.StateMachine VapeCommerce.Orders.Admin VapeCommerce.Orders.Reservations
open VapeCommerce.Orders.Case VapeCommerce.Orders.Progress VapeCommerce.Orders.Transactions
open VapeCommerce.Orders.Steps VapeCommerce.Orders.Runs VapeCommerce.Delivery.Admin
open VapeCommerce.Delivery.Steps VapeCommerce.Cash.Admin VapeCommerce.Cash.Calculations
open VapeCommerce.Cash.Accountable VapeCommerce.Cash.Steps VapeCommerce.Cash.Remittances
open VapeCommerce.Cash.Operations VapeCommerce.Inventory.Safety VapeCommerce.System

-- The operations that carry an order to its end.
def drives : Op -> Bool
  | .confirm .. | .terminate .. | .prepare .. | .readyForPickup .. | .assign .. | .transition .. => true
  | .recordAttempt .. | .complete .. | .completeReturn .. => true
  | .cash (.recordCollection ..) | .cash (.resolveDiscrepancy ..) => true
  | _ => false

def Ended (db : Db) (orderId : Id) : Prop :=
  exists order, order ∈ db.orders.rows /\ order.id = orderId /\
    order.status ∈ terminalDeliveryStatuses

def CanEnd (state : Clocked) (orderId : Id) : Prop :=
  exists labels : List Timed, (forall label, label ∈ labels -> drives label.op = true) /\
    Ended (Runs.run step state labels).db orderId

-- The cash of the order is written off.
def WrittenOff (db : Db) (order : Order) : Prop :=
  exists collection discrepancy, collection ∈ db.collections.rows /\ collection.orderId = order.id /\
    discrepancy ∈ db.discrepancies.rows /\ discrepancy.cashCollectionId = some collection.id /\
    discrepancy.status = .writtenOff

-- No request leaves DELIVERY_ATTEMPTED; an order that waits for its pickup is not completed once
-- its cash is written off, nor cancelled once it is paid.
def Stranded (db : Db) (order : Order) : Prop :=
  order.status = .deliveryAttempted \/ (order.status = .readyForPickup /\ WrittenOff db order)

variable {db next : Db} {orderId : Id} {case after : OrderCase} {now : Int}

section Stranded

def StrandedCase (case : OrderCase) : Prop :=
  case.order.status = .deliveryAttempted \/ (case.order.status = .readyForPickup /\
    exists discrepancy, case.discrepancy = some discrepancy /\ discrepancy.status = .writtenOff)

theorem stranded_case (linked : Linked db) (is : IsCase db orderId case) :
    Stranded db case.order <-> StrandedCase case := by
  refine or_congr Iff.rfl (and_congr Iff.rfl ⟨?_, ?_⟩)
  next =>
    rintro ⟨collection, discrepancy, member, same, listed, linkedTo, status⟩
    have found : db.collections.lookup CashCollection.orderId orderId = some collection :=
      (Table.lookup_iff linked.collections_unique _ _).2 ⟨member, same.trans is.order_id⟩
    obtain rfl := Option.some.inj (is.collection.symm.trans found)
    exact ⟨discrepancy, is.discrepancy.symm.trans (discrepancy_of_row linked listed linkedTo), status⟩
  next =>
    rintro ⟨discrepancy, found, status⟩
    obtain ⟨listed, linkedTo⟩ := Table.lookup_some (is.discrepancy.trans found)
    exact ⟨case.collection, discrepancy, is.collection_mem,
      is.collection_order.trans is.order_id.symm, listed, linkedTo, status⟩

theorem stranded_live (stranded : StrandedCase case) :
    Not (case.order.status ∈ terminalDeliveryStatuses) := by
  rcases stranded with status | ⟨status, -⟩ <;> rw [status] <;> decide

-- A recorded count is behind every discrepancy.
theorem disputed_recorded (sound : Sound case) {discrepancy : CashDiscrepancy}
    (found : case.discrepancy = some discrepancy) :
    Not (case.collection.status ∈ unrecordedStatuses) := fun fresh => by
  simp [(sound.unrecorded fresh).discrepancy] at found

-- Whatever an order does, it stays where it is stranded.
theorem CaseStep.stranded {event : Event} (taken : CaseStep event case after) (sound : Sound case)
    (stranded : StrandedCase case) : StrandedCase after := by
  cases taken with
  | intake _ target reasonCode actor listed =>
    rcases stranded with status | ⟨status, -⟩ <;> simp [status, intakeSteps] at listed
  | cancelled _ reasonCode actor early mirrored unpaid unrecorded =>
    rcases stranded with status | ⟨-, discrepancy, found, -⟩
    next => simp [status, earlyCancellationStatuses] at early
    next => exact absurd unrecorded (disputed_recorded sound found)
  | transitioned _ target nextAttemptAt reasonCode actor edge mirrored operational =>
    exfalso
    rw [<- mirrored] at edge
    revert edge operational
    rcases stranded with status | ⟨status, -⟩ <;> rw [status] <;> cases target <;> decide
  | attempted _ outcome nextAttemptAt attempt reasonCode actor mirrored =>
    rcases stranded with status | ⟨status, -⟩ <;> simp [status] at mirrored
  | completed _ ageResult attempt result accountable reasonCode actor mirrored source verified clean counted =>
    exfalso
    rcases stranded with status | ⟨-, discrepancy, found, writtenOff⟩
    next =>
      rw [status, completionSource] at mirrored
      split at mirrored <;> simp at mirrored
    next =>
      rw [found] at counted
      simp [accountable_cash_resolved counted] at writtenOff
  | returned _ reasonCode actor mirrored =>
    rcases stranded with status | ⟨status, -⟩ <;> simp [status] at mirrored
  | recorded _ input keyHash discrepancyId actor difference expected mirrored collectable =>
    exfalso
    rcases stranded with status | ⟨-, discrepancy, found, -⟩
    next =>
      rw [<- mirrored, status, collectableStatus] at collectable
      split at collectable <;> simp at collectable
    next => exact disputed_recorded sound found (by simp [expected, unrecordedStatuses])
  | corrected _ discrepancy actor found unsettled =>
    refine stranded.imp_right ?_
    rintro ⟨-, other, same, writtenOff⟩
    obtain rfl := Option.some.inj (found.symm.trans same)
    simp [writtenOff, unsettledStatuses] at unsettled
  | writtenOff _ discrepancy actor found unsettled =>
    refine stranded.imp_right ?_
    rintro ⟨-, other, same, writtenOff⟩
    obtain rfl := Option.some.inj (found.symm.trans same)
    simp [writtenOff, unsettledStatuses] at unsettled
  | rerouted => exact stranded
  | remitted => exact stranded
  | paid => exact stranded

theorem path_stranded {allowed : Event -> Prop} (path : Path allowed case after) (sound : Sound case)
    (stranded : StrandedCase case) : StrandedCase after := by
  have both := @Path.keeps allowed (fun case => Sound case /\ StrandedCase case) case after path
    (fun _ _ _ _ taken kept => ⟨taken.sound kept.1, CaseStep.stranded taken kept.1 kept.2⟩)
    ⟨sound, stranded⟩
  exact both.2

-- A stranded order stays so through any operations.
theorem run_stranded {state : Clocked} (sums : Sums state.db) (is : IsCase state.db orderId case)
    (stranded : StrandedCase case) (labels : List Timed) :
    exists after, IsCase (Runs.run step state labels).db orderId after /\ StrandedCase after := by
  have reached := @Runs.run_keeps Clocked Timed step
    (fun state => Sums state.db /\ exists case, IsCase state.db orderId case /\ StrandedCase case)
    (fun state label kept => ?_) state ⟨sums, case, is, stranded⟩ labels
  next => exact reached.2
  next =>
    obtain ⟨sums, case, is, stranded⟩ := kept
    obtain ⟨after, there, path⟩ := (step_advance state label sums).known orderId case is
    exact ⟨step_sums state label sums, after, there,
      path_stranded path (sums.settled.sound orderId case is) stranded⟩

theorem stranded_never_ends {state : Clocked} (sums : Sums state.db) (is : IsCase state.db orderId case)
    (stranded : StrandedCase case) : Not (CanEnd state orderId) := by
  rintro ⟨labels, -, order, member, here, ended⟩
  obtain ⟨after, there, stays⟩ := run_stranded sums is stranded labels
  have found := Table.find?_of_mem member
  rw [here] at found
  obtain rfl := Option.some.inj (there.order.symm.trans found)
  exact stranded_live stays ended

end Stranded

section Driving

theorem ended_here (is : IsCase db orderId case) (ended : case.order.status ∈ terminalDeliveryStatuses) :
    CanEnd { now, db } orderId :=
  ⟨[], by simp, case.order, is.order_mem, is.order_id, ended⟩

theorem drive (op : Op) (ran : exec db now op = .ok next) (driven : drives op = true)
    (onward : CanEnd { now, db := next } orderId) : CanEnd { now, db } orderId := by
  obtain ⟨labels, driving, ended⟩ := onward
  have stepped : step { now, db } { elapsed := 0, op } = { now, db := next } := by
    simp [step, ran, succeeded]
  refine ⟨{ elapsed := 0, op } :: labels, ?_, ?_⟩
  next => simpa [driven] using driving
  next => rwa [Runs.run_cons, stepped]

theorem drive_case (op : Op) (sums : Sums db) (ran : exec db now op = .ok next) (driven : drives op = true)
    (there : IsCase next orderId after)
    (onward : Sums next -> IsCase next orderId after -> CanEnd { now, db := next } orderId) :
    CanEnd { now, db } orderId :=
  drive op ran driven (onward (exec_sums sums ran).1 there)

-- Four characters explain everything.
def explanation : Text := "none".toList

theorem explained (code : String) : requireExplanation (some explanation) code = .ok () := by
  rw [requireExplanation, throwIf_ok]
  decide

theorem return_ends (sums : Sums db) (is : IsCase db orderId case)
    (status : case.order.status = .returnToSender) : CanEnd { now, db } orderId := by
  have linked := sums.settled.linked
  have mirrored := (sums.settled.sound orderId case is).mirrored
  have ran := (completeReturn_ok linked is case.delivery.version explanation 0).2
    ⟨⟨rfl, explained _, mirrored.symm.trans status, status⟩, rfl⟩
  have writes := mirrored_writes linked is .returned (fun row => row) (fun _ => rfl) (fun _ => rfl)
    "RETURN_RECEIVED".toList 0
  refine drive_case (.completeReturn case.delivery.id case.delivery.version explanation 0) sums ran rfl
    (writes.here is) fun _ there => ended_here there ?_
  simp [moved, orderMoved, terminalDeliveryStatuses]

-- A transition that needs no courier takes the order to its target, and on from there.
theorem transition_ends (target : OperationalTarget) (sums : Sums db) (is : IsCase db orderId case)
    (edge : canTransitionDelivery case.order.status target.status = true)
    (alone : Not (target.status ∈ courierRequiredTargets))
    (onward : forall next after, Sums next -> IsCase next orderId after ->
      after.order.status = target.status -> CanEnd { now, db := next } orderId) :
    CanEnd { now, db } orderId := by
  have linked := sums.settled.linked
  have mirrored := (sums.settled.sound orderId case is).mirrored
  let input : TransitionDelivery := {
    expectedVersion := case.delivery.version
    target
    reasonCode := none
    explanation := some explanation }
  have ran := (transition_ok linked is input 0).2 ⟨{
    version := rfl
    edge := mirrored ▸ edge
    mirrored
    courier := fun required => absurd required alone
    explained := fun _ => explained _ }, rfl⟩
  obtain ⟨after, taken, writes⟩ := transition_takes linked is ran
  have there : after.order.status = target.status := by
    cases taken
    rfl
  exact drive_case (.transition case.delivery.id input 0) sums ran rfl (writes.here is)
    fun sums is => onward _ after sums is there

theorem refused_ends (sums : Sums db) (is : IsCase db orderId case)
    (status : case.order.status = .refused \/ case.order.status = .failed) :
    CanEnd { now, db } orderId := by
  refine transition_ends ⟨.returnToSender, by decide⟩ sums is ?_ (by decide)
    fun _ _ sums is => return_ends sums is
  rcases status with here | here <;> rw [here] <;> decide

-- A customer at the door can always refuse.
theorem out_ends (sums : Sums db) (is : IsCase db orderId case)
    (status : case.order.status = .outForDelivery) : CanEnd { now, db } orderId := by
  have linked := sums.settled.linked
  have mirrored := (sums.settled.sound orderId case is).mirrored
  let input : RecordDeliveryAttempt := {
    expectedVersion := case.delivery.version
    outcome := .customerRefused
    explanation := none
    nextAttemptAt := none }
  have ran := (recordAttempt_ok linked is input 0 now).2 ⟨none, {
    version := rfl
    delivery := mirrored.symm.trans status
    order := status
    explained := fun other => by simp [input] at other
    next := rfl }, rfl⟩
  obtain ⟨after, taken, writes⟩ := recordAttempt_takes linked is ran
  have there : after.order.status = .refused := by
    cases taken
    rfl
  exact drive_case (.recordAttempt case.delivery.id input 0) sums ran rfl (writes.here is)
    fun sums is => refused_ends sums is (.inl there)

theorem carried_ends (sums : Sums db) (is : IsCase db orderId case)
    (status : case.order.status = .inTransit \/ case.order.status = .rescheduled) :
    CanEnd { now, db } orderId := by
  refine transition_ends ⟨.outForDelivery, by decide⟩ sums is ?_ (by decide)
    fun _ _ sums is => out_ends sums is
  rcases status with here | here <;> rw [here] <;> decide

theorem handed_ends (sums : Sums db) (is : IsCase db orderId case)
    (status : case.order.status = .handedToCourier) : CanEnd { now, db } orderId := by
  refine transition_ends ⟨.inTransit, by decide⟩ sums is ?_ (by decide)
    fun _ _ sums is there => carried_ends sums is (.inl there)
  rw [status]
  decide

-- The items of known reservations are all there to be locked.
theorem lockActiveInventory_runs (safe : Safe now db) (orderId : Id) :
    lockActiveInventory db orderId =
      .ok { reservations := activeOf db orderId, items := itemsOf db.items (activeOf db orderId) } := by
  have locked : ((itemsOf db.items (activeOf db orderId)).map (·.id)).Nodup :=
    (List.filter_sublist.map _).nodup db.items.distinct
  have same : ((itemsOf db.items (activeOf db orderId)).map (·.id)).Perm
      (inventoryIdsOf (activeOf db orderId)) := by
    refine (List.perm_ext_iff_of_nodup locked (List.nodup_dedup _)).2 fun id => ⟨?_, ?_⟩
    next =>
      intro member
      obtain ⟨item, chosen, rfl⟩ := List.mem_map.1 member
      exact of_decide_eq_true (List.mem_filter.1 chosen).2
    next =>
      intro member
      obtain ⟨row, active, rfl⟩ := List.mem_map.1 (List.mem_dedup.1 member)
      obtain ⟨item, present, here⟩ := safe.known row (List.mem_filter.1 active).1
      refine List.mem_map.2 ⟨item, List.mem_filter.2 ⟨present, ?_⟩, here⟩
      exact decide_eq_true (here ▸ member)
  have counted := same.length_eq
  rw [List.length_map] at counted
  simp only [lockActiveInventory, bind_ok, throwIf_ok, pure_ok]
  exact ⟨(), not_not.2 counted, trivial⟩

theorem releaseAll_runs (safe : Safe now db) (orderId actorUserId : Id) :
    exists released, releaseAll db orderId actorUserId = .ok released := by
  simp only [releaseAll, ok_of_bind (lockActiveInventory_runs safe orderId)]
  split
  next => exact ⟨db, rfl⟩
  next =>
    have chosen := Table.filter_keys db.reservations
      (fun row => row.orderId == orderId && row.state == .active) (fun row => row.state == .active)
      fun row hit => (Bool.and_eq_true_iff.1 hit).2
    have settles : exists reservations,
        settle db.reservations (activeOf db orderId) .released = .ok reservations := by
      simp only [settle, bind_ok, throwIf_ok, pure_ok]
      exact ⟨_, (), not_not.2 (congrArg List.length chosen), rfl⟩
    obtain ⟨reservations, settled⟩ := settles
    have releases : forall row, row ∈ activeOf db orderId -> exists movement,
        releaseMovement (itemsOf db.items (activeOf db orderId)) (some orderId) (some actorUserId)
          (conflict "INVENTORY_INVARIANT_BREACH") row = .ok movement := by
      intro row active
      have member := (List.mem_filter.1 active).1
      obtain ⟨item, present, here⟩ := safe.known row member
      have held : item ∈ itemsOf db.items (activeOf db orderId) := by
        refine List.mem_filter.2 ⟨present, ?_⟩
        simp only [inventoryIdsOf, List.mem_dedup, List.mem_map, decide_eq_true_eq]
        exact ⟨row, active, here.symm⟩
      cases found : (itemsOf db.items (activeOf db orderId)).find? fun item =>
          item.id == row.inventoryItemId with
      | none => simpa [here] using List.find?_eq_none.1 found item held
      | some locked =>
        have stocked := safe.onHand locked (List.mem_filter.1 (List.mem_of_find?_eq_some found)).1
        have positive := safe.positive row member
        simp only [releaseMovement, bind_ok, orThrow_ok, throwIf_ok, pure_ok]
        exact ⟨_, locked, found, (), by omega, rfl⟩
    obtain ⟨movements, released⟩ := mapM_runs releases
    simp only [bind_ok, pure_ok]
    exact ⟨_, reservations, settled, movements, released, rfl⟩

-- An order whose cash is only expected can be cancelled until it is handed over.
theorem cancel_ends (sums : Sums db) (safe : Safe now db) (is : IsCase db orderId case)
    (early : case.order.status ∈ earlyCancellationStatuses)
    (expected : case.collection.status = .expected) : CanEnd { now, db } orderId := by
  have linked := sums.settled.linked
  have sound := sums.settled.sound orderId case is
  obtain ⟨released, releases⟩ := releaseAll_runs safe case.order.id 0
  have runs : exists next, terminate db .cancel orderId case.order.version 0 = .ok next := by
    simp only [terminate, ok_of_bind (lockOrder_case linked is), assertVersion, bind_ok, throwIf_ok,
      orThrow_ok, pure_ok]
    refine ⟨_, (), not_not.2 rfl, (), ?_, case.delivery, rfl, (), ?_, (), ?_, released, releases,
      _, updateOne_runs is.order_mem (guardsOrder_self _) (fun _ => guardsOrder_only) _ _ _,
      _, updateOne_runs is.delivery_mem (guardsDelivery_self _) (fun _ => guardsDelivery_only) _ _ _,
      rfl⟩
    next => simpa [locked, Disposition.admits, early] using early_cancellation_permitted _ early
    next => simpa [locked, Disposition.admits, sound.mirrored] using sound.mirrored ▸ early
    next => simp [locked, expected, sound.unpaid expected]
  obtain ⟨next, ran⟩ := runs
  obtain ⟨reasonCode, same, released, cancels⟩ := terminate_cancels linked ran
  refine drive_case (.terminate .cancel orderId case.order.version 0) sums ran rfl
    (cancels.writes.here cancels.is) fun _ there => ended_here there ?_
  simp [cancelledCase, orderCancelled, terminalDeliveryStatuses]

-- Cash whose count is exact or corrected covers the order.
theorem settled_counts (recorded : Recorded case) (settled : forall discrepancy,
      case.discrepancy = some discrepancy -> discrepancy.status = .resolved) :
    accountableCashForDeliveryCompletion case.discrepancy case.collection =
      .ok case.collection.expectedMillimes := by
  obtain ⟨difference, balance, accounts⟩ := recorded.balance
  simp only [accountableCashForDeliveryCompletion, ok_of_bind balance]
  cases found : case.discrepancy with
  | none =>
    simp only [Accounts, found] at accounts
    obtain ⟨rfl, collected⟩ := accounts
    have same := ((cashDifference_ok _ _ _).1 balance).2.2
    simp only [bind_ok, throwIf_ok, pure_ok, collected, if_true]
    exact ⟨(), by simp, by omega⟩
  | some discrepancy =>
    simp only [Accounts, found] at accounts
    have resolved := settled discrepancy found
    simp only [bind_ok, throwIf_ok, pure_ok]
    exact ⟨(), not_not.2 accounts.1, (), not_not.2 resolved,
      (), not_not.2 (accounts.2.2.2.1 resolved), trivial⟩

theorem pickup_method (recorded : Recorded case) (status : case.order.status = .readyForPickup) :
    case.order.deliveryMethodType = .storePickup := by
  have there := recorded.status
  rw [status, cashStatuses] at there
  split at there
  next pickup => exact pickup
  next => simp at there

theorem collected_ends (sums : Sums db) (is : IsCase db orderId case)
    (status : case.order.status = .readyForPickup)
    (counted : Not (case.collection.status ∈ unrecordedStatuses))
    (settled : forall discrepancy, case.discrepancy = some discrepancy -> discrepancy.status = .resolved) :
    CanEnd { now, db } orderId := by
  have linked := sums.settled.linked
  have sound := sums.settled.sound orderId case is
  have recorded := sound.recorded counted
  have method := pickup_method recorded status
  have source : case.order.status = completionSource case.order := by
    rw [completionSource, if_pos method, status]
  let ageResult : CompletionAgeResult :=
    if case.delivery.ageVerificationRequired then .passed else .notRequired
  have ran := (complete_ok linked is case.delivery.version ageResult 0 now).2 ⟨_, {
    version := rfl
    source := sound.mirrored.symm.trans source
    mirrored := source
    courier := fun courier => by simp [method] at courier
    age := rfl
    clean := fun evidence => by
      have failed := sound.aged evidence
      simp [status, failedStatuses] at failed
    counted := settled_counts recorded settled
    covered := fun _ => ⟨sound.owed, by simp [recorded.store method settled, cashPaymentStatuses]⟩ }, rfl⟩
  obtain ⟨after, taken, writes⟩ := complete_takes linked is ran
  have there : after.order.status = .delivered := by
    cases taken
    rfl
  refine drive_case (.complete case.delivery.id case.delivery.version ageResult 0) sums ran rfl
    (writes.here is) fun _ is => ended_here is ?_
  simp [there, terminalDeliveryStatuses]

theorem lockCollection_case (linked : Linked db) (is : IsCase db orderId case) :
    lockCollection db case.collection.id = .ok (lockedCollection case) := by
  have delivered := is.collection_delivery linked
  simp only [lockCollection, bind_ok, orThrow_ok, throwIf_ok, pure_ok]
  refine ⟨case.collection, Table.find?_of_mem is.collection_mem, (), by simp [delivered], case.order, ?_, ?_⟩
  next => rw [is.collection_order]; exact is.order
  next =>
    simp only [lockedCollection, delivered, Option.bind_some, Table.find?_of_mem is.delivery_mem]

theorem correctCollection_runs (sums : Sums db) (is : IsCase db orderId case)
    (counted : case.collection.status ∈ remittableCollectionStatuses)
    (disputed : case.order.paymentStatus = .reconciliationDiscrepancy) :
    exists corrected, correctCollection (View.latest db) (lockedCollection case) case.delivery =
      .ok corrected /\ corrected.discrepancies = db.discrepancies := by
  have clear := clearsProjection_case sums.settled.linked is (sums.settled.sound orderId case is) counted
  simp only [correctCollection, View.latest, ok_of_bind clear, if_true, bind_ok, pure_ok]
  refine ⟨_, ⟨_, updateOne_runs is.collection_mem ?_ (fun row hit => ?_) _ _ _,
    _, updateOne_runs is.order_mem ?_ (fun row hit => ?_) _ _ _,
    _, updateOne_runs is.delivery_mem ?_ (fun row hit => ?_) _ _ _, rfl⟩, rfl⟩
  next => simp [lockedCollection]
  next =>
    simp only [Bool.and_eq_true, beq_iff_eq] at hit
    exact hit.1
  next => simp [lockedCollection, disputed]
  next =>
    simp only [Bool.and_eq_true, beq_iff_eq] at hit
    exact hit.1.1
  next => simp
  next =>
    simp only [Bool.and_eq_true, beq_iff_eq] at hit
    exact hit.1

-- Nobody has opened the discrepancy or counted the cash under the approver's id.
def approver (discrepancy : CashDiscrepancy) (collection : CashCollection) : Id :=
  discrepancy.openedByUserId + collection.collectedByUserId.getD 0 + 1

-- The discrepancy of an order is resolved with its collection.
theorem resolveDiscrepancy_routed (is : IsCase db orderId case) {discrepancy : CashDiscrepancy}
    (found : case.discrepancy = some discrepancy) (unremitted : discrepancy.remittanceId = none)
    (ordered : discrepancy.orderId = some case.collection.orderId) (input : ResolveCashDiscrepancy)
    (actorUserId : Id) :
    resolveDiscrepancy (View.latest db) discrepancy.id input actorUserId =
      resolveCollectionDiscrepancy (View.latest db) case.collection.id discrepancy.id input actorUserId := by
  obtain ⟨member, linkedTo⟩ := Table.lookup_some (is.discrepancy.trans found)
  have known : orThrow ((View.latest db).snapshot.discrepancies.find? discrepancy.id) discrepancyNotFound =
      .ok discrepancy := (orThrow_ok _ _ _).2 (Table.find?_of_mem member)
  simp only [resolveDiscrepancy, ok_of_bind known, linkedTo, ordered, unremitted]

theorem resolveCollectionDiscrepancy_runs (sums : Sums db) (is : IsCase db orderId case)
    (recorded : Recorded case) (method : case.order.deliveryMethodType = .storePickup)
    {discrepancy : CashDiscrepancy} (found : case.discrepancy = some discrepancy)
    (unsettled : discrepancy.status ∈ unsettledStatuses) :
    (discrepancy.remittanceId = none /\ discrepancy.orderId = some case.collection.orderId) /\
      exists next, resolveCollectionDiscrepancy (View.latest db) case.collection.id discrepancy.id
        { resolution := .resolved, finalVerifiedMillimes := some case.collection.expectedMillimes }
        (approver discrepancy case.collection) = .ok next := by
  have linked := sums.settled.linked
  obtain ⟨member, linkedTo⟩ := Table.lookup_some (is.discrepancy.trans found)
  obtain ⟨difference, balance, accounts⟩ := recorded.balance
  simp only [Accounts, found, Cash.Calculations.linked, Bool.and_eq_true, beq_iff_eq] at accounts
  obtain ⟨⟨⟨⟨-, expected⟩, actual⟩, differs⟩, unremitted, ordered, -, disputed⟩ := accounts
  obtain ⟨payment, counted⟩ := disputed unsettled
  obtain ⟨collector, collected⟩ := Option.isSome_iff_exists.1 recorded.collector
  have unallocated : itemsOn db.remittanceItems case.collection.id = [] := by
    refine List.filter_eq_nil_iff.2 fun item listed hit => ?_
    obtain ⟨otherId, other, accountable, also, same, courier, -⟩ := sums.funded.backed item listed
    have row := db.collections.same_of_key also.collection_mem is.collection_mem
      (same.trans (beq_iff_eq.1 hit))
    simp [row, recorded.pickup method] at courier
  obtain ⟨corrected, corrects, rows⟩ := correctCollection_runs sums is counted payment
  refine ⟨⟨unremitted, ordered⟩, ?_⟩
  simp only [resolveCollectionDiscrepancy, View.latest, ok_of_bind (lockCollection_case linked is),
    assertDiscrepancyLinkage, bind_ok, orThrow_ok, throwIf_ok, pure_ok]
  refine ⟨_, discrepancy, Table.find?_of_mem member, case.delivery, rfl, (),
    ⟨(), ?_, difference, balance, not_not.2 differs⟩, (), ?_, (), ?_, (), ?_, (), ?_, (), ?_, (), ?_,
    corrected, corrects, _, updateOne_runs (rows ▸ member) ?_ (fun row hit => ?_) _ _ _, rfl⟩
  next =>
    simp [lockedCollection, unremitted, linkedTo, ordered, expected, actual,
      is.collection_delivery linked, is.delivery_order, is.collection_order]
  next =>
    simp only [unsettledStatuses, List.mem_cons, List.not_mem_nil, or_false] at unsettled
    rcases unsettled with here | here <;> rw [here] <;> decide
  next => simp [lockedCollection, counted, payment]
  next =>
    simp only [lockedCollection, collected, approver, Option.isNone_some, Option.getD_some,
      Option.some.injEq, Bool.false_eq_true, false_or, not_or]
    exact ⟨Nat.ne_of_lt (Nat.lt_succ_of_le (Nat.le_add_right _ _)),
      Nat.ne_of_lt (Nat.lt_succ_of_le (Nat.le_add_left _ _))⟩
  next => simp [lockedCollection, unallocated]
  next => simp [lockedCollection]
  next => simp
  next => simp
  next =>
    simp only [Bool.and_eq_true, beq_iff_eq] at hit
    exact hit.1

theorem disputed_ends (sums : Sums db) (is : IsCase db orderId case)
    (status : case.order.status = .readyForPickup) (recorded : Recorded case) {discrepancy : CashDiscrepancy}
    (found : case.discrepancy = some discrepancy) (unsettled : discrepancy.status ∈ unsettledStatuses) :
    CanEnd { now, db } orderId := by
  obtain ⟨⟨unremitted, ordered⟩, next, resolved⟩ :=
    resolveCollectionDiscrepancy_runs sums is recorded (pickup_method recorded status) found unsettled
  have ran := (resolveDiscrepancy_routed is found unremitted ordered _ _).trans resolved
  obtain ⟨otherId, other, row, resolves⟩ := resolveCollectionDiscrepancy_ok sums.settled sums.settled
    (Ahead.refl db) resolved
  obtain ⟨member, linkedTo⟩ := Table.lookup_some (is.discrepancy.trans found)
  obtain ⟨listed, also⟩ := Table.lookup_some (resolves.is.discrepancy.trans resolves.found)
  obtain rfl := db.discrepancies.same_of_key listed member resolves.id
  have collection := db.collections.same_of_key resolves.is.collection_mem is.collection_mem
    (Option.some.inj (also.symm.trans linkedTo))
  have order : otherId = orderId :=
    resolves.is.collection_order.symm.trans (collection ▸ is.collection_order)
  subst order
  obtain rfl := is.unique resolves.is
  refine drive_case (.cash (.resolveDiscrepancy row.id _ _)) sums ran rfl (resolves.writes.here is)
    fun sums there => collected_ends sums there status (by simp [unrecordedStatuses]) fun settled same => ?_
  obtain rfl := Option.some.inj same
  rfl

-- Cash that is not recorded is still expected, unless the order is cancelled.
theorem unrecorded_expected (sound : Sound case) (live : Not (case.order.status ∈ terminalDeliveryStatuses))
    (fresh : case.collection.status ∈ unrecordedStatuses) : case.collection.status = .expected := by
  simp only [unrecordedStatuses, List.mem_cons, List.not_mem_nil, or_false] at fresh
  refine fresh.resolve_right fun voided => live ?_
  simp [sound.voided voided, terminalDeliveryStatuses]

-- An order that waits for its pickup is paid and goes, or is cancelled.
theorem pickup_ends (sums : Sums db) (safe : Safe now db) (is : IsCase db orderId case)
    (status : case.order.status = .readyForPickup) (live : Not (StrandedCase case)) :
    CanEnd { now, db } orderId := by
  have sound := sums.settled.sound orderId case is
  by_cases fresh : case.collection.status ∈ unrecordedStatuses
  next =>
    refine cancel_ends sums safe is (by simp [status, earlyCancellationStatuses])
      (unrecorded_expected sound ?_ fresh)
    simp [status, terminalDeliveryStatuses]
  next =>
    cases found : case.discrepancy with
    | none => exact collected_ends sums is status fresh (by simp [found])
    | some discrepancy =>
      by_cases unsettled : discrepancy.status ∈ unsettledStatuses
      next => exact disputed_ends sums is status (sound.recorded fresh) found unsettled
      next =>
        refine collected_ends sums is status fresh fun other same => ?_
        obtain rfl := Option.some.inj (found.symm.trans same)
        cases here : discrepancy.status with
        | resolved => rfl
        | writtenOff => exact absurd (.inr ⟨status, discrepancy, found, here⟩) live
        | _ => simp [here, unsettledStatuses] at unsettled

theorem early_ends (sums : Sums db) (safe : Safe now db) (is : IsCase db orderId case)
    (early : case.order.status ∈ earlyCancellationStatuses) (packed : case.order.status ≠ .readyForPickup) :
    CanEnd { now, db } orderId := by
  have sound := sums.settled.sound orderId case is
  have fresh : case.collection.status ∈ unrecordedStatuses := by
    refine not_not.1 fun counted => ?_
    have there := (sound.recorded counted).status
    revert early packed there
    generalize case.order.status = status
    cases status <;> cases case.order.deliveryMethodType <;> decide
  refine cancel_ends sums safe is early (unrecorded_expected sound ?_ fresh)
  revert early
  generalize case.order.status = status
  cases status <;> decide

theorem live_ends (sums : Sums db) (safe : Safe now db) (is : IsCase db orderId case)
    (live : Not (case.order.status ∈ terminalDeliveryStatuses)) (free : Not (StrandedCase case)) :
    CanEnd { now, db } orderId := by
  cases status : case.order.status with
  | readyForPickup => exact pickup_ends sums safe is status free
  | handedToCourier => exact handed_ends sums is status
  | inTransit => exact carried_ends sums is (.inl status)
  | rescheduled => exact carried_ends sums is (.inr status)
  | outForDelivery => exact out_ends sums is status
  | refused => exact refused_ends sums is (.inl status)
  | failed => exact refused_ends sums is (.inr status)
  | returnToSender => exact return_ends sums is status
  | deliveryAttempted => exact absurd (.inl status) free
  | delivered | returned | cancelled => simp [status, terminalDeliveryStatuses] at live
  | _ => exact early_ends sums safe is (by simp [status, earlyCancellationStatuses]) (by simp [status])

end Driving

/-- From every reachable state, an order that is not delivered, returned or cancelled can still be,
exactly when it is neither in DELIVERY_ATTEMPTED nor ready for a pickup whose cash is written off. -/
theorem order_ends_unless_stranded (config : Config.Configuration) (orderSequence : Option Int)
    (start : Int) (labels : List Timed) :
    let reached := Runs.run step (opening config orderSequence start) labels
    forall order, order ∈ reached.db.orders.rows -> Not (order.status ∈ terminalDeliveryStatuses) ->
      (CanEnd reached order.id <-> Not (Stranded reached.db order)) := by
  intro reached order member live
  have sums : Sums reached.db := run_sums config orderSequence start labels
  have safe : Safe reached.now reached.db := run_safe config orderSequence start labels
  obtain ⟨case, is, rfl⟩ := sums.settled.linked.case_exists member
  rw [stranded_case sums.settled.linked is]
  exact ⟨fun ends stranded => stranded_never_ends sums is stranded ends, live_ends sums safe is live⟩

theorem dispatched_order_ends :
    exists order, order ∈ (Sample.after Sample.dispatched).db.orders.rows /\
      order.status = .outForDelivery /\ CanEnd (Sample.after Sample.dispatched) order.id := by
  have orders : (Sample.after Sample.dispatched).db.orders.rows.any
      (·.status == .outForDelivery) = true := by decide +kernel
  obtain ⟨order, member, found⟩ := List.any_eq_true.1 orders
  have status : order.status = .outForDelivery := beq_iff_eq.1 found
  refine ⟨order, member, status, (order_ends_unless_stranded Sample.shop (some 0) 0
    (Sample.timed Sample.dispatched) order member (by rw [status]; decide)).2 ?_⟩
  rintro (attempted | ⟨waiting, -⟩)
  next => simp [status] at attempted
  next => simp [status] at waiting

-- The customer was not there: the order ends nowhere.
def attempted : List Op :=
  Sample.dispatched ++ [Sample.attempt 8 .customerUnavailable none]

theorem attempted_order_never_ends :
    exists order, order ∈ (Sample.after attempted).db.orders.rows /\
      Not (order.status ∈ terminalDeliveryStatuses) /\ Not (CanEnd (Sample.after attempted) order.id) := by
  have orders : (Sample.after attempted).db.orders.rows.any
      (·.status == .deliveryAttempted) = true := by decide +kernel
  obtain ⟨order, member, found⟩ := List.any_eq_true.1 orders
  have sums : Sums (Sample.after attempted).db :=
    run_sums Sample.shop (some 0) 0 (Sample.timed attempted)
  obtain ⟨case, is, rfl⟩ := sums.settled.linked.case_exists member
  have stranded : StrandedCase case := .inl (beq_iff_eq.1 found)
  exact ⟨case.order, member, stranded_live stranded, stranded_never_ends sums is stranded⟩

end VapeCommerce.Orders.DeadEnds
