import VapeCommerce.Delivery.Steps
import VapeCommerce.Notifications.OrderNotifications

set_option autoImplicit false

-- Which orders an operation moves to another status, and which row each was read as.
namespace VapeCommerce.Notifications.Movements

open VapeCommerce.Lib VapeCommerce.Lib.Outcome VapeCommerce.Schema VapeCommerce.Database
open VapeCommerce.Orders.StateMachine VapeCommerce.Orders.Admin VapeCommerce.Orders.Steps
open VapeCommerce.Delivery.Admin VapeCommerce.Delivery.Operations VapeCommerce.Delivery.Steps
open VapeCommerce.Notifications.OrderNotifications

structure MovedBy (db next : Db) (moves : List (OrderStatus × Order)) : Prop where
  known : forall move, move ∈ moves -> db.orders.find? move.2.id = some move.2
  away : forall move, move ∈ moves -> move.2.status ≠ move.1
  distinct : (moves.map fun move => move.2.id).Nodup
  moved : forall move, move ∈ moves -> exists row, next.orders.find? move.2.id = some row /\
    row.status = move.1 /\ row.version = move.2.version + 1
  others : forall id, Not (id ∈ moves.map fun move => move.2.id) ->
    next.orders.find? id = db.orders.find? id

variable {db next : Db}

theorem moved_none (same : next.orders = db.orders) : MovedBy db next [] where
  known := by simp
  away := by simp
  distinct := by simp
  moved := by simp
  others _ _ := by rw [same]

theorem moved_one {order : Order} {target : OrderStatus} {change : Order -> Order}
    (found : db.orders.find? order.id = some order) (keeps : forall row, (change row).id = row.id)
    (rows : next.orders = db.orders.update (guardsOrder order) change keeps)
    (away : order.status ≠ target) (status : (change order).status = target)
    (version : (change order).version = order.version + 1) : MovedBy db next [(target, order)] := by
  have lookups : forall id, next.orders.find? id =
      if id = order.id then some (change order) else db.orders.find? id := fun id => by
    rw [rows]
    exact Table.find?_update_at (Table.find?_mem found) (guardsOrder_self _) (fun _ => guardsOrder_only) id
  exact {
    known := by simpa using found
    away := by simpa using away
    distinct := by simp
    moved := by
      simp only [List.mem_singleton, forall_eq]
      exact ⟨change order, by rw [lookups, if_pos rfl], status, version⟩
    others := fun id apart => by
      rw [lookups, if_neg (by simpa using apart)] }

theorem lockOrder_locked {id : Id} {operation : OrderOperation}
    (locks : lockOrder db id = .ok operation) :
    lockedOrder db id = [operation.order] /\
      db.orders.find? operation.order.id = some operation.order := by
  have found := locks
  simp only [lockOrder, bind_ok, orThrow_ok, pure_ok] at found
  obtain ⟨order, there, rfl⟩ := found
  refine ⟨by simp [lockedOrder, locks, succeeded], ?_⟩
  rw [Table.find?_key there]
  exact there

theorem lockOwnedOrder_locked {userId : Id} {orderNumber : Int} {operation : OrderOperation}
    (locks : Orders.Customer.lockOwnedOrder db userId orderNumber = .ok operation) :
    lockedOwnedOrder db userId orderNumber = [operation.order] /\
      db.orders.find? operation.order.id = some operation.order := by
  have found := locks
  simp only [Orders.Customer.lockOwnedOrder, bind_ok, orThrow_ok, pure_ok] at found
  obtain ⟨order, there, rfl⟩ := found
  refine ⟨by simp [lockedOwnedOrder, locks, succeeded], ?_⟩
  exact Table.find?_of_mem (List.mem_of_find?_eq_some there)

theorem lockDelivery_locked {id : Id} {operation : DeliveryOperation}
    (locks : lockDelivery db id = .ok operation) :
    deliveredOrder db id = [operation.order] /\
      db.orders.find? operation.order.id = some operation.order := by
  have found := locks
  simp only [lockDelivery, bind_ok, orThrow_ok, pure_ok] at found
  obtain ⟨delivery, -, order, there, rfl⟩ := found
  refine ⟨by simp [deliveredOrder, locks, succeeded], ?_⟩
  rw [Table.find?_key there]
  exact there

theorem confirm_moves {id actorUserId : Id} {expectedVersion : Nat} {now : Int}
    (ran : confirm db id expectedVersion actorUserId now = .ok next) :
    exists order, lockedOrder db id = [order] /\ order.status = .pendingConfirmation /\
      MovedBy db next [(.confirmed, order)] := by
  simp only [confirm, bind_ok, throwIf_ok, updateOne_ok, pure_ok, not_or, not_not] at ran
  obtain ⟨operation, locks, ⟨⟩, -, ⟨⟩, ⟨status, -⟩, delivery, -, ⟨⟩, -, -, -, ⟨⟩, -, -, -,
    -, -, orders, ⟨-, rfl⟩, deliveries, -, rfl⟩ := ran
  obtain ⟨here, found⟩ := lockOrder_locked locks
  refine ⟨operation.order, here, status, moved_one found (orderMoved_id _) rfl ?_ rfl rfl⟩
  rw [status]
  decide

theorem prepare_moves {id actorUserId : Id} {expectedVersion : Nat}
    (ran : prepare db id expectedVersion actorUserId = .ok next) :
    exists order, lockedOrder db id = [order] /\ order.status = .confirmed /\
      MovedBy db next [(.preparing, order)] := by
  simp only [prepare, transitionIntake, bind_ok, throwIf_ok, updateOne_ok, pure_ok, not_or,
    not_not] at ran
  obtain ⟨operation, locks, ⟨⟩, -, ⟨⟩, ⟨status, -⟩, delivery, -, ⟨⟩, -, ⟨⟩, -, orders, ⟨-, rfl⟩,
    deliveries, -, rfl⟩ := ran
  obtain ⟨here, found⟩ := lockOrder_locked locks
  refine ⟨operation.order, here, status, moved_one found (orderMoved_id _) rfl ?_ rfl rfl⟩
  rw [status]
  decide

theorem early_not_cancelled {status : OrderStatus} (early : status ∈ earlyCancellationStatuses) :
    status ≠ .cancelled := by
  rintro rfl
  exact absurd early (by decide)

theorem terminate_moves {disposition : Disposition} {id actorUserId : Id} {expectedVersion : Nat}
    (ran : terminate db disposition id expectedVersion actorUserId = .ok next) :
    exists order, lockedOrder db id = [order] /\ MovedBy db next [(.cancelled, order)] := by
  simp only [terminate, bind_ok, throwIf_ok, updateOne_ok, pure_ok, not_not] at ran
  obtain ⟨operation, locks, ⟨⟩, -, ⟨⟩, admitted, delivery, -, ⟨⟩, -, ⟨⟩, -, released, -, orders,
    ⟨-, rfl⟩, deliveries, -, rfl⟩ := ran
  obtain ⟨here, found⟩ := lockOrder_locked locks
  rw [Bool.and_eq_true] at admitted
  exact ⟨operation.order, here,
    moved_one found orderCancelled_id rfl (early_not_cancelled (disposition_early admitted.1)) rfl rfl⟩

theorem cancel_moves {userId : Id} {orderNumber : Int} {expectedVersion : Nat}
    (ran : Orders.Customer.cancel db userId orderNumber expectedVersion = .ok next) :
    exists order, lockedOwnedOrder db userId orderNumber = [order] /\
      MovedBy db next [(.cancelled, order)] := by
  simp only [Orders.Customer.cancel, bind_ok, throwIf_ok, updateOne_ok, pure_ok,
    Bool.not_eq_false] at ran
  obtain ⟨operation, locks, ⟨⟩, -, ⟨⟩, admitted, delivery, -, ⟨⟩, -, ⟨⟩, -, collection, -, released, -,
    collections, -, orders, ⟨-, rfl⟩, deliveries, -, rfl⟩ := ran
  obtain ⟨here, found⟩ := lockOwnedOrder_locked locks
  have pending : operation.order.status = .pendingConfirmation := by
    simpa [canCustomerCancelOrder, customerCancellationStatuses] using admitted
  refine ⟨operation.order, here, moved_one found orderCancelled_id rfl ?_ rfl rfl⟩
  rw [pending]
  decide

theorem mirrored_rows {order : Order} {delivery : Schema.Delivery} {target : DeliveryStatus}
    {data : Schema.Delivery -> Schema.Delivery} {keeps : forall row, (data row).id = row.id}
    {reasonCode : Text} {actorUserId : Id}
    (ran : updateMirroredStatus db order delivery target data keeps reasonCode actorUserId = .ok next) :
    db.orders.count (guardsOrder order) = 1 /\
      next.orders = db.orders.update (guardsOrder order) (orderMoved target) (orderMoved_id _) := by
  simp only [updateMirroredStatus, bind_ok, updateOne_ok, pure_ok] at ran
  obtain ⟨deliveries, -, orders, ⟨one, rfl⟩, rfl⟩ := ran
  exact ⟨one, rfl⟩

-- Every edge of the delivery table leads to another status.
theorem edge_away {source target : DeliveryStatus} (edge : canTransitionDelivery source target = true) :
    source ≠ target := by
  rintro rfl
  revert edge
  cases source <;> decide

theorem transition_moves {id actorUserId : Id} {input : TransitionDelivery}
    (ran : transition db id input actorUserId = .ok next) :
    exists order, deliveredOrder db id = [order] /\
      MovedBy db next [(input.target.status, order)] := by
  simp only [transition, bind_ok, throwIf_ok, not_or, not_not, Bool.not_eq_false] at ran
  obtain ⟨operation, locks, ⟨⟩, -, ⟨⟩, ⟨edge, same⟩, ⟨⟩, -, ⟨⟩, -, moves⟩ := ran
  obtain ⟨here, found⟩ := lockDelivery_locked locks
  exact ⟨operation.order, here,
    moved_one found (orderMoved_id _) (mirrored_rows moves).2 (same ▸ edge_away edge) rfl rfl⟩

theorem recordAttempt_moves {id actorUserId : Id} {input : RecordDeliveryAttempt} {now : Int}
    (ran : recordAttempt db id input actorUserId now = .ok next) :
    exists order, deliveredOrder db id = [order] /\
      MovedBy db next [(attemptOutcomeStatus input.outcome, order)] := by
  simp only [recordAttempt, bind_ok, throwIf_ok, pure_ok, not_or, not_not] at ran
  obtain ⟨operation, locks, ⟨⟩, -, ⟨⟩, ⟨-, status⟩, ⟨⟩, -, nextAttemptAt, -, ⟨⟩, -, moved, moves, rfl⟩ :=
    ran
  obtain ⟨here, found⟩ := lockDelivery_locked locks
  refine ⟨operation.order, here, moved_one found (orderMoved_id _) (mirrored_rows moves).2 ?_ rfl rfl⟩
  rw [status]
  exact edge_away (attempt_allowed input.outcome)

theorem complete_moves {id actorUserId : Id} {expectedVersion : Nat} {ageResult : CompletionAgeResult}
    {now : Int} (ran : complete db id expectedVersion ageResult actorUserId now = .ok next) :
    exists order, deliveredOrder db id = [order] /\ MovedBy db next [(.delivered, order)] := by
  simp only [complete, bind_ok, throwIf_ok, pure_ok, not_or, not_not] at ran
  obtain ⟨operation, locks, ⟨⟩, -, ⟨⟩, ⟨-, status, -⟩, ⟨⟩, -, ⟨⟩, -, ⟨⟩, -, ⟨⟩, -, collected, -, ⟨⟩, -,
    moved, moves, rfl⟩ := ran
  obtain ⟨here, found⟩ := lockDelivery_locked locks
  refine ⟨operation.order, here, moved_one found (orderMoved_id _) (mirrored_rows moves).2 ?_ rfl rfl⟩
  rw [status, completionSource]
  split <;> decide

theorem completeReturn_moves {id actorUserId : Id} {expectedVersion : Nat} {reason : Text}
    (ran : completeReturn db id expectedVersion reason actorUserId = .ok next) :
    exists order, deliveredOrder db id = [order] /\ MovedBy db next [(.returned, order)] := by
  simp only [completeReturn, bind_ok, throwIf_ok, not_or, not_not] at ran
  obtain ⟨operation, locks, ⟨⟩, -, ⟨⟩, -, ⟨⟩, ⟨-, status, -⟩, moves⟩ := ran
  obtain ⟨here, found⟩ := lockDelivery_locked locks
  refine ⟨operation.order, here, moved_one found (orderMoved_id _) (mirrored_rows moves).2 ?_ rfl rfl⟩
  rw [status]
  decide

-- The guard on the order's version sees to it that no loop of moves takes an order twice.
theorem MovedBy.add {read : Db} {moves : List (OrderStatus × Order)} {bulk : BulkDelivery}
    {target : DeliveryStatus} {reasonCode : Text} {actorUserId : Id} (before : MovedBy read db moves)
    (known : read.orders.find? bulk.order.id = some bulk.order) (away : bulk.order.status ≠ target)
    (ran : applyDeliveryTransition db bulk target reasonCode actorUserId = .ok next) :
    MovedBy read next (moves ++ [(target, bulk.order)]) := by
  obtain ⟨one, rows⟩ := mirrored_rows ran
  obtain ⟨row, member, guarded, -⟩ := Table.count_one one
  have here : row.id = bulk.order.id := guardsOrder_only guarded
  have version : row.version = bulk.order.version := by
    simp only [guardsOrder, Bool.and_eq_true, beq_iff_eq] at guarded
    exact guarded.2
  have lookups : forall id, next.orders.find? id =
      if id = bulk.order.id then some (orderMoved target row) else db.orders.find? id := fun id => by
    rw [rows, <- here]
    exact Table.find?_update_at member guarded (fun other hit => (guardsOrder_only hit).trans here.symm) id
  have apart : Not (bulk.order.id ∈ moves.map fun move => move.2.id) := by
    intro taken
    obtain ⟨move, there, same⟩ := List.mem_map.1 taken
    obtain ⟨moved, found, -, raised⟩ := before.moved move there
    have first := before.known move there
    rw [same] at found first
    have order : bulk.order = move.2 := Option.some.inj (known.symm.trans first)
    rw [<- here, Table.find?_of_mem member] at found
    obtain rfl := Option.some.inj found
    rw [version, order] at raised
    exact Nat.succ_ne_self _ raised.symm
  have distinct : ((moves ++ [(target, bulk.order)]).map fun move => move.2.id).Nodup := by
    rw [List.map_append, List.nodup_append]
    refine ⟨before.distinct, by simp, fun id there other added same => apart ?_⟩
    simp only [List.map_cons, List.map_nil, List.mem_singleton] at added
    rwa [<- added, <- same]
  refine { known := ?_, away := ?_, distinct, moved := ?_, others := ?_ }
  next =>
    intro move there
    rcases List.mem_append.1 there with earlier | added
    next => exact before.known move earlier
    next => rw [List.mem_singleton.1 added]; exact known
  next =>
    intro move there
    rcases List.mem_append.1 there with earlier | added
    next => exact before.away move earlier
    next => rw [List.mem_singleton.1 added]; exact away
  next =>
    intro move there
    rcases List.mem_append.1 there with earlier | added
    next =>
      have other : move.2.id ≠ bulk.order.id := fun same =>
        apart (List.mem_map.2 ⟨move, earlier, same⟩)
      rw [lookups, if_neg other]
      exact before.moved move earlier
    next =>
      rw [List.mem_singleton.1 added, lookups, if_pos rfl]
      exact ⟨orderMoved target row, rfl, rfl, congrArg (· + 1) version⟩
  next =>
    intro id other
    rw [List.map_append, List.mem_append, not_or] at other
    rw [lookups, if_neg (by simpa using other.2)]
    exact before.others id other.1

-- One round of such a loop, on a row read before the loop.
structure Round {A : Type} (read : Db) (apply : Db -> A -> Except Failure Db)
    (moveOf : A -> Option (OrderStatus × Order)) (item : A) (bulk : BulkDelivery)
    (target : DeliveryStatus) : Prop where
  move : moveOf item = some (target, bulk.order)
  known : read.orders.find? bulk.order.id = some bulk.order
  away : bulk.order.status ≠ target
  applied : forall state, exists reasonCode actorUserId,
    apply state item = applyDeliveryTransition state bulk target reasonCode actorUserId

theorem loop_moves {A : Type} {read : Db} (apply : Db -> A -> Except Failure Db)
    (moveOf : A -> Option (OrderStatus × Order)) {items : List A}
    (each : forall item, item ∈ items -> exists bulk target, Round read apply moveOf item bulk target)
    (ran : items.foldlM apply read = .ok next) : MovedBy read next (items.filterMap moveOf) := by
  induction items using List.reverseRecOn generalizing next with
  | nil =>
    simp only [List.foldlM_nil, pure_ok] at ran
    exact moved_none (ran ▸ rfl)
  | append_singleton items item ih =>
    simp only [List.foldlM_append, List.foldlM_cons, List.foldlM_nil, bind_ok, pure_ok] at ran
    obtain ⟨middle, earlier, after, last, rfl⟩ := ran
    obtain ⟨bulk, target, round⟩ := each item (by simp)
    obtain ⟨reasonCode, actorUserId, applied⟩ := round.applied middle
    have before := ih (fun other member => each other (List.mem_append_left _ member)) earlier
    rw [List.filterMap_append, List.filterMap_cons, round.move, List.filterMap_nil]
    exact before.add round.known round.away (applied.symm.trans last)

theorem bulk_known {id : Id} {bulk : BulkDelivery} (found : bulkDelivery? db id = some bulk) :
    db.orders.find? bulk.order.id = some bulk.order := by
  simp only [bulkDelivery?, Option.bind_eq_bind, Option.bind_eq_some_iff, Option.pure_def,
    Option.some.injEq] at found
  obtain ⟨delivery, -, order, there, rfl⟩ := found
  rw [Table.find?_key there]
  exact there

theorem transitionManifest_moves {id actorUserId : Id} {expectedStatus target : ManifestStatus}
    (ran : transitionManifest db id expectedStatus target actorUserId = .ok next) :
    MovedBy db next ((handedOver db id target).map fun order => (.handedToCourier, order)) := by
  simp only [transitionManifest, bind_ok, throwIf_ok, orThrow_ok, pure_ok] at ran
  obtain ⟨manifest, found, ⟨⟩, -, ⟨⟩, -, ⟨⟩, -, ⟨⟩, -, ⟨⟩, eligible, moved, moves, ⟨⟩, -, manifests, -,
    rfl⟩ := ran
  unfold moveManifest at moves
  split at moves
  next handing =>
    simp only [assertManifestTarget, bind_ok, requireWhen_ok, handing, or_true, true_imp_iff,
      assertManifestAssignedDeliveries, throwIf_ok, List.any_eq_true, not_exists, not_and,
      Bool.or_eq_true, bne_iff_ne, ne_eq, not_or, not_not] at eligible
    obtain ⟨⟨⟩, -, assigned⟩ := eligible
    have handed := loop_moves (handOver actorUserId)
      (fun bulk => some (.handedToCourier, bulk.order)) (fun bulk member => by
        obtain ⟨deliveryId, -, there⟩ := List.mem_filterMap.1 member
        refine ⟨bulk, .handedToCourier, rfl, bulk_known there, ?_, fun state => ⟨_, _, rfl⟩⟩
        rw [(assigned bulk member).2]
        decide) moves
    have rows : ((handedOver db id target).map fun order => (OrderStatus.handedToCourier, order)) =
        (findBulkDeliveries db manifest.deliveryIds).filterMap fun bulk =>
          some (.handedToCourier, bulk.order) := by
      simp [handedOver, handing, found, Function.comp_def]
    rw [rows]
    exact { handed with }
  next keeping =>
    obtain rfl := Except.ok.inj moves
    rw [handedOver, if_neg keeping]
    exact moved_none rfl

theorem importStatusCsv_moves {importKey : Text} {dryRun : Bool} {file : DeliveryStatusCsv}
    {actorUserId : Id} {result : DeliveryStatusImport}
    (ran : importStatusCsv db importKey dryRun file actorUserId = .ok (next, result)) :
    MovedBy db next (appliedCommands db importKey dryRun file) := by
  unfold importStatusCsv at ran
  unfold appliedCommands
  split at ran
  next record known =>
    simp only [bind_ok, pure_ok, Prod.mk.injEq] at ran
    obtain ⟨-, -, rfl, -⟩ := ran
    rw [if_neg (by simp [known])]
    exact moved_none rfl
  next fresh =>
    simp only [bind_ok, pure_ok, Prod.mk.injEq] at ran
    obtain ⟨moved, moves, rfl, -⟩ := ran
    have condition : (!dryRun && (file.commands.map fun command =>
        validateImportCommand command (bulkDelivery? db command.deliveryId)).all Option.isNone) =
        (!dryRun && file.commands.all fun command =>
          (validateImportCommand command (bulkDelivery? db command.deliveryId)).isNone) := by
      rw [List.all_map]
      rfl
    rw [condition] at moves
    simp only [fresh, Option.isNone_none, Bool.true_and]
    unfold applyCommands at moves
    split at moves
    next applies =>
      rw [if_pos applies]
      have applied := loop_moves (applyCommand db actorUserId)
        (fun command => (bulkDelivery? db command.deliveryId).map fun bulk =>
          (command.targetStatus, bulk.order)) (fun command member => by
          simp only [Bool.and_eq_true, List.all_eq_true, Option.isNone_iff_eq_none] at applies
          obtain ⟨bulk, there, admitted⟩ := validated_command (applies.2 command member)
          refine ⟨bulk, command.targetStatus, by simp [there], bulk_known there, ?_, fun state => ?_⟩
          next => exact admitted.mirrored ▸ edge_away admitted.edge
          next =>
            refine ⟨command.reasonCode.getD "CSV_STATUS_IMPORT".toList, actorUserId, ?_⟩
            rw [applyCommand, ok_of_bind ((orThrow_ok _ _ _).2 there)]) moves
      exact { applied with }
    next keeps =>
      obtain rfl := Except.ok.inj moves
      rw [if_neg keeps]
      exact moved_none rfl

end VapeCommerce.Notifications.Movements
