import VapeCommerce.Orders.Runs

set_option autoImplicit false

-- What every operation that is not one of cash leaves of the rows cash is recorded in.
namespace VapeCommerce.Cash.Outside

open VapeCommerce.Lib VapeCommerce.Lib.Outcome VapeCommerce.Schema VapeCommerce.Database
open VapeCommerce.Orders.Admin VapeCommerce.Orders.Case VapeCommerce.Delivery.Admin
open VapeCommerce.Delivery.Operations VapeCommerce.Checkout.Order VapeCommerce.Checkout.Placement
open VapeCommerce.System VapeCommerce.Frames

-- An order keeps what it owes and how it is paid, unless it is cancelled before any cash came in.
structure Billed (was row : Order) : Prop where
  id : row.id = was.id
  cod : row.expectedCodMillimes = was.expectedCodMillimes
  payment : row.paymentStatus = was.paymentStatus \/
    (uncollected was.paymentStatus = true /\ row.paymentStatus = .cancelled)

-- A collection stays as it is, unless it is voided before it is recorded.
def Counted (was row : CashCollection) : Prop :=
  row = was \/ (was.status = .expected /\ row = { was with status := .voided })

structure LeavesCash (db next : Db) : Prop where
  orders : forall row, row ∈ next.orders.rows -> exists was, was ∈ db.orders.rows /\ Billed was row
  collections : forall row, row ∈ next.collections.rows ->
    exists was, was ∈ db.collections.rows /\ Counted was row

theorem Billed.refl (row : Order) : Billed row row :=
  ⟨rfl, rfl, .inl rfl⟩

theorem Billed.trans {first second third : Order} (one : Billed first second)
    (two : Billed second third) : Billed first third where
  id := two.id.trans one.id
  cod := two.cod.trans one.cod
  payment := by
    rcases one.payment with same | ⟨unpaid, cancelled⟩
    next => exact same ▸ two.payment
    next =>
      rcases two.payment with same | ⟨again, -⟩
      next => exact .inr ⟨unpaid, same.trans cancelled⟩
      next => simp [cancelled, uncollected] at again

theorem Counted.trans {first second third : CashCollection} (one : Counted first second)
    (two : Counted second third) : Counted first third := by
  rcases one with rfl | ⟨expected, rfl⟩
  next => exact two
  next =>
    rcases two with rfl | ⟨again, -⟩
    next => exact .inr ⟨expected, rfl⟩
    next => simp at again

variable {db next : Db}

theorem LeavesCash.refl (db : Db) : LeavesCash db db where
  orders row member := ⟨row, member, Billed.refl row⟩
  collections row member := ⟨row, member, .inl rfl⟩

theorem LeavesCash.trans {first second third : Db} (one : LeavesCash first second)
    (two : LeavesCash second third) : LeavesCash first third where
  orders row member := by
    obtain ⟨middle, between, last⟩ := two.orders row member
    obtain ⟨was, there, before⟩ := one.orders middle between
    exact ⟨was, there, before.trans last⟩
  collections row member := by
    obtain ⟨middle, between, last⟩ := two.collections row member
    obtain ⟨was, there, before⟩ := one.collections middle between
    exact ⟨was, there, before.trans last⟩

theorem outside_same (orders : next.orders = db.orders) (collections : next.collections = db.collections) :
    LeavesCash db next where
  orders row member := ⟨row, orders ▸ member, Billed.refl row⟩
  collections row member := ⟨row, collections ▸ member, .inl rfl⟩

theorem updated_billed {guard : Order -> Bool} {change : Order -> Order}
    {keeps : forall row, (change row).id = row.id} {failure : Failure}
    {orders : Table Order.id} (ran : updateOne db.orders guard change keeps failure = .ok orders)
    (billed : forall row, row ∈ db.orders.rows -> guard row = true -> Billed row (change row)) :
    forall row, row ∈ orders.rows -> exists was, was ∈ db.orders.rows /\ Billed was row := by
  intro row member
  obtain ⟨-, rfl⟩ := (updateOne_ok _ _ _ _ _ _).1 ran
  obtain ⟨was, there, rfl⟩ := List.mem_map.1 member
  refine ⟨was, there, ?_⟩
  cases hit : guard was with
  | true =>
    rw [Table.rewrite_chosen hit]
    exact billed was there hit
  | false =>
    rw [Table.rewrite_other hit]
    exact Billed.refl was

-- A new status leaves what an order owes.
theorem outside_moved {guard : Order -> Bool} {target : OrderStatus} {failure : Failure}
    (ran : updateOne db.orders guard (orderMoved target) (orderMoved_id _) failure = .ok next.orders)
    (collections : next.collections = db.collections) : LeavesCash db next where
  orders := updated_billed ran fun _ _ _ => ⟨rfl, rfl, .inl rfl⟩
  collections row member := ⟨row, collections ▸ member, .inl rfl⟩

theorem cancelled_billed {order : Order} {orders : Table Order.id} (member : order ∈ db.orders.rows)
    (unpaid : uncollected order.paymentStatus = true)
    (ran : updateOne db.orders (guardsOrder order) orderCancelled orderCancelled_id staleOrder =
      .ok orders) :
    forall row, row ∈ orders.rows -> exists was, was ∈ db.orders.rows /\ Billed was row := by
  refine updated_billed ran fun row there hit => ?_
  simp only [guardsOrder, Bool.and_eq_true, beq_iff_eq] at hit
  obtain rfl := db.orders.same_of_key there member hit.1.1
  exact ⟨rfl, rfl, .inr ⟨unpaid, rfl⟩⟩

def voidRow (row : CashCollection) : CashCollection :=
  { row with status := .voided }

theorem voidRow_id (row : CashCollection) : (voidRow row).id = row.id := rfl

theorem voided_counted (guard : CashCollection -> Bool)
    (expected : forall row, guard row = true -> row.status = .expected) :
    forall row, row ∈ (db.collections.update guard voidRow voidRow_id).rows ->
      exists was, was ∈ db.collections.rows /\ Counted was row := by
  intro row member
  obtain ⟨was, there, rfl⟩ := List.mem_map.1 member
  refine ⟨was, there, ?_⟩
  cases hit : guard was with
  | true => exact .inr ⟨expected was hit, by rw [Table.rewrite_chosen hit]; rfl⟩
  | false => exact .inl (Table.rewrite_other hit)

theorem confirm_outside {id actorUserId : Id} {expectedVersion : Nat} {now : Int}
    (ran : confirm db id expectedVersion actorUserId now = .ok next) : LeavesCash db next := by
  simp only [confirm, bind_ok, pure_ok] at ran
  obtain ⟨_, -, _, -, _, -, _, -, _, -, _, -, _, -, _, -, _, -, _, updated, _, -, rfl⟩ := ran
  exact outside_moved updated rfl

theorem lockOrder_found {id : Id} {operation : OrderOperation} (ran : lockOrder db id = .ok operation) :
    operation.order ∈ db.orders.rows := by
  simp only [lockOrder, bind_ok, orThrow_ok, pure_ok] at ran
  obtain ⟨order, found, rfl⟩ := ran
  exact Table.find?_mem found

theorem terminate_outside {disposition : Disposition} {id actorUserId : Id} {expectedVersion : Nat}
    (ran : terminate db disposition id expectedVersion actorUserId = .ok next) : LeavesCash db next := by
  simp only [terminate, bind_ok, throwIf_ok, pure_ok] at ran
  obtain ⟨operation, locks, _, -, _, -, _, -, _, -, _, payable, _, -, _, updated, _, -, rfl⟩ := ran
  simp only [Bool.or_eq_true, Bool.not_eq_true', not_or, Bool.not_eq_false] at payable
  refine ⟨cancelled_billed (lockOrder_found locks) payable.2 updated, ?_⟩
  refine voided_counted _ fun row hit => ?_
  simp only [Bool.and_eq_true, beq_iff_eq] at hit
  exact hit.2

theorem cancel_outside {userId : Id} {orderNumber : Int} {expectedVersion : Nat}
    (ran : Orders.Customer.cancel db userId orderNumber expectedVersion = .ok next) :
    LeavesCash db next := by
  simp only [Orders.Customer.cancel, bind_ok, throwIf_ok, pure_ok] at ran
  obtain ⟨operation, locks, _, -, _, -, _, -, _, -, _, payable, _, -, _, -, _, voided, _, updated, _, -,
    rfl⟩ := ran
  have member : operation.order ∈ db.orders.rows := by
    simp only [Orders.Customer.lockOwnedOrder, bind_ok, orThrow_ok, pure_ok] at locks
    obtain ⟨order, found, rfl⟩ := locks
    exact List.mem_of_find?_eq_some found
  refine ⟨cancelled_billed member (by simpa using payable) updated, ?_⟩
  obtain ⟨-, rfl⟩ := (updateOne_ok _ _ _ _ _ _).1 voided
  refine voided_counted _ fun row hit => ?_
  simp only [Bool.and_eq_true, beq_iff_eq] at hit
  exact hit.2

theorem transitionIntake_outside {source target : OrderStatus} {reasonCode : String}
    {id actorUserId : Id} {expectedVersion : Nat}
    (ran : transitionIntake db source target reasonCode id expectedVersion actorUserId = .ok next) :
    LeavesCash db next := by
  simp only [transitionIntake, bind_ok, pure_ok] at ran
  obtain ⟨_, -, _, -, _, -, _, -, _, -, _, -, _, updated, _, -, rfl⟩ := ran
  exact outside_moved updated rfl

theorem updateMirroredStatus_outside {order : Order} {delivery : Schema.Delivery}
    {target : DeliveryStatus} {deliveryData : Schema.Delivery -> Schema.Delivery}
    {keeps : forall row, (deliveryData row).id = row.id} {reasonCode : Text} {actorUserId : Id}
    (ran : updateMirroredStatus db order delivery target deliveryData keeps reasonCode actorUserId =
      .ok next) : LeavesCash db next := by
  simp only [updateMirroredStatus, bind_ok, pure_ok] at ran
  obtain ⟨_, -, _, updated, rfl⟩ := ran
  exact outside_moved updated rfl

theorem assignment_outside {action : AssignmentAction} {id : Id} {input : AssignDelivery}
    (ran : assignment db action id input = .ok next) : LeavesCash db next := by
  simp only [assignment, bind_ok, pure_ok] at ran
  obtain ⟨_, -, _, -, _, -, _, -, _, -, _, -, _, -, _, -, _, -, _, -, rfl⟩ := ran
  exact outside_same rfl rfl

theorem unassign_outside {id : Id} {expectedVersion : Nat} {reason : Text}
    (ran : unassign db id expectedVersion reason = .ok next) : LeavesCash db next := by
  simp only [unassign, bind_ok, pure_ok] at ran
  obtain ⟨_, -, _, -, _, -, _, -, _, -, _, -, rfl⟩ := ran
  exact outside_same rfl rfl

theorem transition_outside {id : Id} {input : TransitionDelivery} {actorUserId : Id}
    (ran : transition db id input actorUserId = .ok next) : LeavesCash db next := by
  simp only [transition, bind_ok] at ran
  obtain ⟨_, -, _, -, _, -, _, -, _, -, mirrored⟩ := ran
  exact updateMirroredStatus_outside mirrored

theorem recordAttempt_outside {id : Id} {input : RecordDeliveryAttempt} {actorUserId : Id} {now : Int}
    (ran : recordAttempt db id input actorUserId now = .ok next) : LeavesCash db next := by
  simp only [recordAttempt, bind_ok, pure_ok] at ran
  obtain ⟨_, -, _, -, _, -, _, -, _, -, _, -, moved, mirrored, rfl⟩ := ran
  exact (updateMirroredStatus_outside mirrored).trans (outside_same rfl rfl)

theorem complete_outside {id : Id} {expectedVersion : Nat} {ageResult : CompletionAgeResult}
    {actorUserId : Id} {now : Int}
    (ran : complete db id expectedVersion ageResult actorUserId now = .ok next) : LeavesCash db next := by
  simp only [complete, bind_ok, pure_ok] at ran
  obtain ⟨_, -, _, -, _, -, _, -, _, -, _, -, _, -, _, -, _, -, moved, mirrored, rfl⟩ := ran
  exact (updateMirroredStatus_outside mirrored).trans (outside_same rfl rfl)

theorem completeReturn_outside {id : Id} {expectedVersion : Nat} {reason : Text} {actorUserId : Id}
    (ran : completeReturn db id expectedVersion reason actorUserId = .ok next) : LeavesCash db next := by
  simp only [completeReturn, bind_ok] at ran
  obtain ⟨_, -, _, -, _, -, _, -, mirrored⟩ := ran
  exact updateMirroredStatus_outside mirrored

theorem applyDeliveryTransition_outside {bulk : BulkDelivery} {target : DeliveryStatus}
    {reasonCode : Text} {actorUserId : Id}
    (ran : applyDeliveryTransition db bulk target reasonCode actorUserId = .ok next) :
    LeavesCash db next := by
  unfold applyDeliveryTransition at ran
  exact updateMirroredStatus_outside ran

theorem moveManifest_outside {deliveries : List BulkDelivery} {target : ManifestStatus}
    {actorUserId : Id} (ran : moveManifest db deliveries target actorUserId = .ok next) :
    LeavesCash db next :=
  moveManifest_keeps (fun _ _ _ _ _ kept moved => kept.trans (applyDeliveryTransition_outside moved))
    (LeavesCash.refl _) ran

theorem transitionManifest_outside {id : Id} {expectedStatus target : ManifestStatus} {actorUserId : Id}
    (ran : transitionManifest db id expectedStatus target actorUserId = .ok next) : LeavesCash db next := by
  simp only [transitionManifest, bind_ok, pure_ok] at ran
  obtain ⟨_, -, _, -, _, -, _, -, _, -, _, -, _, moved, _, -, _, -, rfl⟩ := ran
  exact (moveManifest_outside moved).trans (outside_same rfl rfl)

theorem importStatusCsv_outside {importKey : Text} {dryRun : Bool} {file : DeliveryStatusCsv}
    {actorUserId : Id} {record : DeliveryStatusImport}
    (ran : importStatusCsv db importKey dryRun file actorUserId = .ok (next, record)) :
    LeavesCash db next :=
  importStatusCsv_keeps (fun _ _ _ _ _ kept moved => kept.trans (applyDeliveryTransition_outside moved))
    (fun _ _ kept => kept.trans (outside_same rfl rfl)) (LeavesCash.refl _) ran

-- A new order comes with a new collection that is still expected.
structure Enters (db next : Db) (order : Order) (collection : CashCollection) : Prop where
  orders : db.orders.insert? order = some next.orders
  unpaid : uncollected order.paymentStatus = true
  collections : db.collections.insert? collection = some next.collections
  expected : collection.status = .expected
  key : collection.recordIdempotencyKeyHash = none
  owner : collection.orderId = order.id

theorem create_outside {call : CheckoutCall} {now : Int} {orderId : Id}
    (ran : Checkout.Order.create db call now = .ok (next, orderId)) :
    LeavesCash db next \/ exists order collection, Enters db next order collection := by
  rcases create_cases ran with rfl | ⟨placement, -, ⟨prepared⟩, placed⟩
  next => exact .inl (LeavesCash.refl _)
  next =>
    refine .inr ⟨placement.order, placement.collection, placed.orders, ?_, placed.collections, ?_, ?_, ?_⟩
    all_goals simp [prepared.orderRow, prepared.collectionRow, newOrder, newCollection, uncollected]

-- Neither a cash operation nor a checkout: the rows of cash stay, up to a voided collection.
theorem exec_leaves {now : Int} {op : Op} (ran : exec db now op = .ok next)
    (uncounted : forall cash, op ≠ .cash cash) (placed : forall call, op ≠ .createOrder call) :
    LeavesCash db next := by
  cases op with
  | createOrder call => exact absurd rfl (placed call)
  | confirm => exact confirm_outside ran
  | terminate => exact terminate_outside ran
  | prepare => exact transitionIntake_outside ran
  | readyForPickup => exact transitionIntake_outside ran
  | cancelOrder => exact cancel_outside ran
  | assign => exact assignment_outside ran
  | unassign => exact unassign_outside ran
  | transition => exact transition_outside ran
  | recordAttempt => exact recordAttempt_outside ran
  | complete => exact complete_outside ran
  | completeReturn => exact completeReturn_outside ran
  | transitionManifest => exact transitionManifest_outside ran
  | importStatusCsv =>
    obtain ⟨⟨after, record⟩, imported, rfl⟩ := (map_ok _ _ _).1 ran
    exact importStatusCsv_outside imported
  | cash op => exact absurd rfl (uncounted op)
  | _ =>
    have same := Frames.exec_writes ran .cases (by simp [areas])
    simp only [Area.Same, Prod.mk.injEq] at same
    exact outside_same same.1 same.2.2.1

-- What an operation does to orders and collections, cash operations apart.
theorem exec_outside {now : Int} {op : Op} (ran : exec db now op = .ok next)
    (other : forall cash, op ≠ .cash cash) :
    LeavesCash db next \/ exists order collection, Enters db next order collection := by
  cases op with
  | createOrder =>
    obtain ⟨⟨after, orderId⟩, created, rfl⟩ := (map_ok _ _ _).1 ran
    exact create_outside created
  | _ => exact .inl (exec_leaves ran other fun _ => by simp)

end VapeCommerce.Cash.Outside
