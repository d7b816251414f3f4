import VapeCommerce.Inventory.Ledger

set_option autoImplicit false

-- Which orders there are, their numbers and lines, the sequence, the idempotency keys and the carts: only
-- order creation writes them.
namespace VapeCommerce.Checkout.Issued

open VapeCommerce.Lib VapeCommerce.Lib.Outcome VapeCommerce.Schema VapeCommerce.Database
open VapeCommerce.Checkout.Order VapeCommerce.Inventory.Admin VapeCommerce.Orders.Admin
open VapeCommerce.Orders.Reservations VapeCommerce.Delivery.Admin VapeCommerce.Delivery.Operations
open VapeCommerce.Cash.Admin VapeCommerce.System

def issued (orders : Table Order.id) : List (Id × Int) :=
  orders.rows.map fun order => (order.id, order.orderNumber)

-- What of an order no operation rewrites.
structure Content where
  id : Id
  orderNumber : Int
  customerId : Id
  cartId : Id
  items : List OrderItem

def content (order : Order) : Content where
  id := order.id
  orderNumber := order.orderNumber
  customerId := order.customerId
  cartId := order.cartId
  items := order.items

def contents (orders : Table Order.id) : List Content :=
  orders.rows.map content

theorem contents_issued (orders : Table Order.id) :
    issued orders = (contents orders).map fun order => (order.id, order.orderNumber) := by
  simp [issued, contents, content]

structure SameIssue (db next : Db) : Prop where
  keys : next.idempotencyKeys = db.idempotencyKeys
  sequence : next.orderSequence = db.orderSequence
  orders : issued next.orders = issued db.orders

structure Spared (db next : Db) : Prop where
  keys : next.idempotencyKeys = db.idempotencyKeys
  sequence : next.orderSequence = db.orderSequence
  orders : contents next.orders = contents db.orders
  carts : next.carts = db.carts

theorem Spared.refl (db : Db) : Spared db db :=
  ⟨rfl, rfl, rfl, rfl⟩

theorem Spared.trans {first second third : Db} (one : Spared first second) (two : Spared second third) :
    Spared first third :=
  ⟨two.keys.trans one.keys, two.sequence.trans one.sequence, two.orders.trans one.orders,
    two.carts.trans one.carts⟩

theorem Spared.issue {db next : Db} (spared : Spared db next) : SameIssue db next :=
  ⟨spared.keys, spared.sequence, by rw [contents_issued, contents_issued, spared.orders]⟩

theorem contents_updateOne {orders next : Table Order.id} {chosen : Order -> Bool} {change : Order -> Order}
    {keeps : forall row, (change row).id = row.id} {failure : Failure}
    (ran : updateOne orders chosen change keeps failure = .ok next)
    (same : forall row, content (change row) = content row) : contents next = contents orders := by
  obtain ⟨-, rfl⟩ := (updateOne_ok _ _ _ _ _ _).1 ran
  exact Table.map_field_rewrite _ content _ _ same

variable {db next : Db}

theorem releaseAll_spared {orderId actorUserId : Id}
    (ran : releaseAll db orderId actorUserId = .ok next) : Spared db next :=
  Orders.Steps.releaseAll_frame ran ▸ ⟨rfl, rfl, rfl, rfl⟩

theorem transitionIntake_spared {source target : OrderStatus} {reasonCode : String}
    {id actorUserId : Id} {expectedVersion : Nat}
    (ran : transitionIntake db source target reasonCode id expectedVersion actorUserId = .ok next) :
    Spared db next := by
  simp only [transitionIntake, bind_ok, pure_ok] at ran
  obtain ⟨_, -, _, -, _, -, _, -, _, -, _, -, _, moved, _, -, rfl⟩ := ran
  exact ⟨rfl, rfl, contents_updateOne moved fun _ => rfl, rfl⟩

theorem updateMirroredStatus_spared {order : Order} {delivery : Delivery} {target : DeliveryStatus}
    {deliveryData : Delivery -> Delivery} {keeps : forall row, (deliveryData row).id = row.id}
    {reasonCode : Text} {actorUserId : Id}
    (ran : updateMirroredStatus db order delivery target deliveryData keeps reasonCode actorUserId =
      .ok next) : Spared db next := by
  simp only [updateMirroredStatus, bind_ok, pure_ok] at ran
  obtain ⟨_, -, _, moved, rfl⟩ := ran
  exact ⟨rfl, rfl, contents_updateOne moved fun _ => rfl, rfl⟩

theorem applyDeliveryTransition_spared {bulk : BulkDelivery} {target : DeliveryStatus}
    {reasonCode : Text} {actorUserId : Id}
    (ran : applyDeliveryTransition db bulk target reasonCode actorUserId = .ok next) :
    Spared db next := by
  unfold applyDeliveryTransition at ran
  exact updateMirroredStatus_spared ran

section View

variable {view : View}

theorem contents_loop {A : Type} {each : Table Order.id -> A -> Except Failure (Table Order.id)}
    {rows : List A} {orders after : Table Order.id} (ran : rows.foldlM each orders = .ok after)
    (keeps : forall orders after row, each orders row = .ok after -> contents after = contents orders) :
    contents after = contents orders := by
  induction rows generalizing orders with
  | nil => exact congrArg contents ((pure_ok _ _).1 ran).symm
  | cons row rest ih =>
    simp only [List.foldlM_cons, bind_ok] at ran
    obtain ⟨middle, first, later⟩ := ran
    exact (ih later).trans (keeps _ _ _ first)

theorem clearOrder_spared {snapshot : Db} {state : Remitting} {orders after : Table Order.id} {order : Order}
    (ran : clearOrder snapshot state orders order = .ok after) : contents after = contents orders := by
  simp only [clearOrder] at ran
  split at ran
  next => exact congrArg contents ((pure_ok _ _).1 ran).symm
  next =>
    simp only [bind_ok] at ran
    obtain ⟨_, -, _, -, ran⟩ := ran
    split at ran
    next => exact congrArg contents ((pure_ok _ _).1 ran).symm
    next => exact contents_updateOne ran fun _ => rfl

theorem applyVerifiedAllocations_spared {operation : RemittanceOperation}
    (ran : applyVerifiedAllocations view operation = .ok next) : Spared view.current next := by
  simp only [applyVerifiedAllocations, bind_ok, pure_ok] at ran
  obtain ⟨_, -, _, cleared, rfl⟩ := ran
  exact ⟨rfl, rfl, contents_loop cleared fun _ _ _ => clearOrder_spared, rfl⟩

theorem correctWhenResolved_spared {operation : CollectionOperation} {delivery : Delivery}
    {resolution : Resolution}
    (ran : correctWhenResolved view operation delivery resolution = .ok next) :
    Spared view.current next := by
  unfold correctWhenResolved at ran
  split at ran
  next =>
    simp only [correctCollection, bind_ok] at ran
    obtain ⟨_, -, _, -, ran⟩ := ran
    split at ran
    next =>
      simp only [bind_ok, pure_ok] at ran
      obtain ⟨_, moved, _, -, rfl⟩ := ran
      exact ⟨rfl, rfl, contents_updateOne moved fun _ => rfl, rfl⟩
    next =>
      obtain rfl := (pure_ok _ _).1 ran
      exact ⟨rfl, rfl, rfl, rfl⟩
  next => exact Except.ok.inj ran ▸ Spared.refl _

theorem verifyWhenResolved_spared {operation : RemittanceOperation} {actorUserId : Id}
    {resolution : Resolution}
    (ran : verifyWhenResolved view operation actorUserId resolution = .ok next) :
    Spared view.current next := by
  unfold verifyWhenResolved at ran
  split at ran
  next =>
    simp only [verifyDiscrepant, bind_ok, pure_ok] at ran
    obtain ⟨applied, applying, _, -, rfl⟩ := ran
    have applies := applyVerifiedAllocations_spared applying
    exact ⟨applies.keys, applies.sequence, applies.orders, applies.carts⟩
  next => exact Except.ok.inj ran ▸ Spared.refl _

theorem resolveDiscrepancy_spared {id : Id} {input : ResolveCashDiscrepancy} {actorUserId : Id}
    (ran : resolveDiscrepancy view id input actorUserId = .ok next) : Spared view.current next := by
  simp only [resolveDiscrepancy, bind_ok] at ran
  obtain ⟨reference, -, ran⟩ := ran
  split at ran
  next =>
    simp only [resolveCollectionDiscrepancy, bind_ok, pure_ok] at ran
    obtain ⟨_, -, _, -, _, -, _, -, _, -, _, -, _, -, _, -, _, -, _, -, corrected, correcting, _, -, rfl⟩ :=
      ran
    have corrects := correctWhenResolved_spared correcting
    exact ⟨corrects.keys, corrects.sequence, corrects.orders, corrects.carts⟩
  next =>
    simp only [resolveRemittanceDiscrepancy, bind_ok, pure_ok] at ran
    obtain ⟨_, -, _, -, _, -, _, -, _, -, _, -, _, -, _, -, _, -, verified, verifying, _, -, rfl⟩ := ran
    have verifies := verifyWhenResolved_spared verifying
    exact ⟨verifies.keys, verifies.sequence, verifies.orders, verifies.carts⟩
  next => simp at ran

theorem cash_spared {op : CashOp} (ran : op.exec view = .ok next) : Spared view.current next := by
  cases op with
  | recordCollection =>
    simp only [CashOp.exec, recordCollection, bind_ok] at ran
    obtain ⟨_, -, _, -, ran⟩ := ran
    split at ran
    next => exact (pure_ok _ _).1 ran ▸ Spared.refl _
    next =>
      simp only [bind_ok, pure_ok] at ran
      obtain ⟨_, -, _, -, _, -, _, -, _, -, _, -, _, -, _, -, _, -, _, -, _, -, _, moved, _, -, _, -, rfl⟩ :=
        ran
      exact ⟨rfl, rfl, contents_updateOne moved fun _ => rfl, rfl⟩
  | createRemittance =>
    simp only [CashOp.exec, createRemittance, bind_ok, pure_ok] at ran
    obtain ⟨_, -, _, -, _, -, _, -, _, -, _, -, _, -, _, -, _, -, rfl⟩ := ran
    exact ⟨rfl, rfl, rfl, rfl⟩
  | submitRemittance =>
    simp only [CashOp.exec, submitRemittance, bind_ok, pure_ok] at ran
    obtain ⟨_, -, _, -, _, -, _, -, rfl⟩ := ran
    exact ⟨rfl, rfl, rfl, rfl⟩
  | reconcileRemittance =>
    simp only [CashOp.exec, reconcileRemittance, bind_ok] at ran
    obtain ⟨_, -, _, -, _, -, _, -, _, -, _, -, _, -, _, -, _, -, ran⟩ := ran
    split at ran
    next =>
      simp only [bind_ok, pure_ok] at ran
      obtain ⟨applied, verified, rfl⟩ := ran
      have applying := applyVerifiedAllocations_spared verified
      exact ⟨applying.keys, applying.sequence, applying.orders, applying.carts⟩
    next =>
      simp only [bind_ok, pure_ok] at ran
      obtain ⟨_, -, _, disputed, rfl⟩ := ran
      exact ⟨rfl, rfl, contents_loop disputed fun _ _ _ moved => contents_updateOne moved fun _ => rfl, rfl⟩
  | resolveDiscrepancy => exact resolveDiscrepancy_spared ran

end View

def createsOrder : Op -> Bool
  | .createOrder _ => true
  | _ => false

def replacesCarts : Op -> Bool
  | .replaceCarts _ => true
  | _ => false

-- Every other operation leaves all of it as it is.
theorem exec_spared {now : Int} {op : Op} (other : createsOrder op = false)
    (kept : replacesCarts op = false) (ran : exec db now op = .ok next) : Spared db next := by
  cases op with
  | configure config => exact Except.ok.inj ran ▸ ⟨rfl, rfl, rfl, rfl⟩
  | replaceCarts => simp [replacesCarts] at kept
  | createItem =>
    simp only [exec, createItem, bind_ok, pure_ok] at ran
    obtain ⟨_, -, _, -, _, -, rfl⟩ := ran
    exact ⟨rfl, rfl, rfl, rfl⟩
  | receiveBatch =>
    simp only [exec, receiveBatch, bind_ok] at ran
    obtain ⟨_, -, ran⟩ := ran
    split at ran
    next => exact (pure_ok _ _).1 ran ▸ Spared.refl _
    next =>
      simp only [bind_ok, pure_ok] at ran
      obtain ⟨_, -, _, -, _, -, _, -, rfl⟩ := ran
      exact ⟨rfl, rfl, rfl, rfl⟩
  | adjust =>
    simp only [exec, adjust, bind_ok, pure_ok] at ran
    obtain ⟨_, -, _, -, _, -, _, -, _, -, _, -, rfl⟩ := ran
    exact ⟨rfl, rfl, rfl, rfl⟩
  | decideAdjustment =>
    obtain ⟨⟨after, decided⟩, decides, rfl⟩ := (map_ok _ _ _).1 ran
    rcases Inventory.Ledger.decideAdjustment_shape decides with ⟨_, rfl⟩ | ⟨_, _, -, -, applied⟩
    next => exact ⟨rfl, rfl, rfl, rfl⟩
    next =>
      simp only [applyAdjustment, bind_ok, pure_ok] at applied
      obtain ⟨_, -, _, -, _, -, rfl⟩ := applied
      exact ⟨rfl, rfl, rfl, rfl⟩
  | transfer =>
    simp only [exec, transfer, bind_ok] at ran
    obtain ⟨_, -, ran⟩ := ran
    split at ran
    next => exact (pure_ok _ _).1 ran ▸ Spared.refl _
    next =>
      simp only [bind_ok, pure_ok] at ran
      obtain ⟨_, -, _, -, _, -, _, -, _, -, _, -, _, -, _, -, rfl⟩ := ran
      exact ⟨rfl, rfl, rfl, rfl⟩
  | createOrder => simp [createsOrder] at other
  | confirm =>
    simp only [exec, confirm, bind_ok, pure_ok] at ran
    obtain ⟨_, -, _, -, _, -, _, -, _, -, _, -, _, -, _, -, _, -, _, moved, _, -, rfl⟩ := ran
    exact ⟨rfl, rfl, contents_updateOne moved fun _ => rfl, rfl⟩
  | terminate =>
    simp only [exec, terminate, bind_ok, pure_ok] at ran
    obtain ⟨_, -, _, -, _, -, _, -, _, -, _, -, released, releases, _, moved, _, -, rfl⟩ := ran
    have left := releaseAll_spared releases
    exact ⟨left.keys, left.sequence, contents_updateOne moved fun _ => rfl, left.carts⟩
  | prepare => exact transitionIntake_spared ran
  | readyForPickup => exact transitionIntake_spared ran
  | cancelOrder =>
    simp only [exec, Orders.Customer.cancel, bind_ok, pure_ok] at ran
    obtain ⟨_, -, _, -, _, -, _, -, _, -, _, -, _, -, released, releases, _, -, _, moved, _, -, rfl⟩ := ran
    have left := releaseAll_spared releases
    exact ⟨left.keys, left.sequence, contents_updateOne moved fun _ => rfl, left.carts⟩
  | expireReservations =>
    simp only [exec, Worker.Expiry.expireReservations, bind_ok] at ran
    obtain ⟨_, -, ran⟩ := ran
    split at ran
    next => exact (pure_ok _ _).1 ran ▸ Spared.refl _
    next =>
      simp only [bind_ok, pure_ok] at ran
      obtain ⟨_, -, _, -, rfl⟩ := ran
      exact ⟨rfl, rfl, rfl, rfl⟩
  | assign =>
    simp only [exec, assignment, bind_ok, pure_ok] at ran
    obtain ⟨_, -, _, -, _, -, _, -, _, -, _, -, _, -, _, -, _, -, _, -, rfl⟩ := ran
    exact ⟨rfl, rfl, rfl, rfl⟩
  | unassign =>
    simp only [exec, unassign, bind_ok, pure_ok] at ran
    obtain ⟨_, -, _, -, _, -, _, -, _, -, _, -, rfl⟩ := ran
    exact ⟨rfl, rfl, rfl, rfl⟩
  | transition =>
    simp only [exec, transition, bind_ok] at ran
    obtain ⟨_, -, _, -, _, -, _, -, _, -, mirrored⟩ := ran
    exact updateMirroredStatus_spared mirrored
  | recordAttempt =>
    simp only [exec, recordAttempt, bind_ok, pure_ok] at ran
    obtain ⟨_, -, _, -, _, -, _, -, _, -, _, -, moved, mirrored, rfl⟩ := ran
    exact (updateMirroredStatus_spared mirrored).trans ⟨rfl, rfl, rfl, rfl⟩
  | complete =>
    simp only [exec, complete, bind_ok, pure_ok] at ran
    obtain ⟨_, -, _, -, _, -, _, -, _, -, _, -, _, -, _, -, _, -, moved, mirrored, rfl⟩ := ran
    exact (updateMirroredStatus_spared mirrored).trans ⟨rfl, rfl, rfl, rfl⟩
  | completeReturn =>
    simp only [exec, completeReturn, bind_ok] at ran
    obtain ⟨_, -, _, -, _, -, _, -, mirrored⟩ := ran
    exact updateMirroredStatus_spared mirrored
  | createManifest =>
    simp only [exec, createManifest, bind_ok, pure_ok] at ran
    obtain ⟨_, -, _, -, _, -, _, -, rfl⟩ := ran
    exact ⟨rfl, rfl, rfl, rfl⟩
  | transitionManifest =>
    simp only [exec, transitionManifest, bind_ok, pure_ok] at ran
    obtain ⟨_, -, _, -, _, -, _, -, _, -, _, -, moved, handed, _, -, _, -, rfl⟩ := ran
    have kept : Spared db moved :=
      moveManifest_keeps (fun _ _ _ _ _ kept moved => kept.trans (applyDeliveryTransition_spared moved))
        (Spared.refl _) handed
    exact ⟨kept.keys, kept.sequence, kept.orders, kept.carts⟩
  | importStatusCsv =>
    obtain ⟨⟨after, record⟩, imported, rfl⟩ := (map_ok _ _ _).1 ran
    exact importStatusCsv_keeps
      (fun _ _ _ _ _ kept moved => kept.trans (applyDeliveryTransition_spared moved))
      (fun _ _ kept => kept.trans ⟨rfl, rfl, rfl, rfl⟩) (Spared.refl _) imported
  | cash => exact cash_spared ran

theorem exec_issued {now : Int} {op : Op} (other : createsOrder op = false)
    (ran : exec db now op = .ok next) : SameIssue db next := by
  cases kept : replacesCarts op with
  | false => exact (exec_spared other kept ran).issue
  | true =>
    cases op with
    | replaceCarts carts => exact Except.ok.inj ran ▸ ⟨rfl, rfl, rfl⟩
    | _ => simp [replacesCarts] at kept

end VapeCommerce.Checkout.Issued
