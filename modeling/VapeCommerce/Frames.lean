import VapeCommerce.System
import VapeCommerce.Checkout.Placement

set_option autoImplicit false

-- Which tables each operation can write; all others stay as they are.
namespace VapeCommerce.Frames

open VapeCommerce.Lib VapeCommerce.Lib.Outcome VapeCommerce.Schema VapeCommerce.Database
open VapeCommerce.Checkout.Order VapeCommerce.Checkout.Placement VapeCommerce.Inventory.Admin
open VapeCommerce.Orders.Admin VapeCommerce.Orders.Reservations VapeCommerce.Delivery.Admin
open VapeCommerce.Delivery.Operations VapeCommerce.Cash.Admin VapeCommerce.System

inductive Area where
  | stock
  | cases
  | dispatch
  | remitting
deriving DecidableEq

def Area.Same (db next : Db) : Area -> Prop
  | .stock => (next.items, next.reservations, next.movements, next.batches, next.adjustments,
      next.transfers) = (db.items, db.reservations, db.movements, db.batches, db.adjustments,
      db.transfers)
  | .cases => (next.orders, next.deliveries, next.collections, next.history, next.attempts,
      next.ageEvents) = (db.orders, db.deliveries, db.collections, db.history, db.attempts,
      db.ageEvents)
  | .dispatch => next.manifests = db.manifests
  | .remitting => (next.remittances, next.remittanceItems, next.discrepancies, next.cashEvents) =
      (db.remittances, db.remittanceItems, db.discrepancies, db.cashEvents)

def Writes (areas : List Area) (db next : Db) : Prop :=
  forall area, Not (area ∈ areas) -> Area.Same db next area

def areas : Op -> List Area
  | .configure _ | .replaceCarts _ => []
  | .createItem .. | .receiveBatch .. | .adjust .. | .decideAdjustment .. | .transfer ..
  | .expireReservations .. => [.stock]
  | .createOrder .. | .confirm .. | .terminate .. | .cancelOrder .. => [.stock, .cases]
  | .prepare .. | .readyForPickup .. | .assign .. | .unassign .. | .transition ..
  | .recordAttempt .. | .complete .. | .completeReturn .. | .importStatusCsv .. => [.cases]
  | .createManifest .. => [.dispatch]
  | .transitionManifest .. => [.cases, .dispatch]
  | .cash _ => [.cases, .remitting]

theorem Area.Same.trans {first second third : Db} {area : Area} (one : Area.Same first second area)
    (two : Area.Same second third area) : Area.Same first third area := by
  cases area <;> exact Eq.trans two one

theorem Writes.refl (areas : List Area) (db : Db) : Writes areas db db := by
  intro area _
  cases area <;> rfl

theorem Writes.trans {areas : List Area} {first second third : Db} (one : Writes areas first second)
    (two : Writes areas second third) : Writes areas first third :=
  fun area free => (one area free).trans (two area free)

theorem Writes.widen {areas wider : List Area} {db next : Db} (writes : Writes areas db next)
    (more : forall area, area ∈ areas -> area ∈ wider) : Writes wider db next :=
  fun area free => writes area fun member => free (more area member)

variable {db next : Db}

theorem writes_none (stock : Area.Same db next .stock) (cases : Area.Same db next .cases)
    (dispatch : Area.Same db next .dispatch) (remitting : Area.Same db next .remitting)
    (areas : List Area) : Writes areas db next := by
  intro area _
  cases area with
  | stock => exact stock
  | cases => exact cases
  | dispatch => exact dispatch
  | remitting => exact remitting

theorem writes_stock (cases : Area.Same db next .cases) (dispatch : Area.Same db next .dispatch)
    (remitting : Area.Same db next .remitting) : Writes [.stock] db next := by
  intro area free
  cases area with
  | stock => simp at free
  | cases => exact cases
  | dispatch => exact dispatch
  | remitting => exact remitting

theorem writes_cases (stock : Area.Same db next .stock) (dispatch : Area.Same db next .dispatch)
    (remitting : Area.Same db next .remitting) : Writes [.cases] db next := by
  intro area free
  cases area with
  | stock => exact stock
  | cases => simp at free
  | dispatch => exact dispatch
  | remitting => exact remitting

theorem writes_both (dispatch : Area.Same db next .dispatch)
    (remitting : Area.Same db next .remitting) : Writes [.stock, .cases] db next := by
  intro area free
  cases area with
  | stock => simp at free
  | cases => simp at free
  | dispatch => exact dispatch
  | remitting => exact remitting

theorem createItem_writes {input : CreateInventoryItem} {actorUserId : Id}
    (ran : createItem db input actorUserId = .ok next) : Writes [.stock] db next := by
  simp only [createItem, bind_ok, pure_ok] at ran
  obtain ⟨_, -, _, -, _, -, rfl⟩ := ran
  exact writes_stock rfl rfl rfl

theorem receiveBatch_writes {input : CreateBatchReceipt} {key : Text} {actorUserId : Id} {now : Int}
    (ran : receiveBatch db input key actorUserId now = .ok next) : Writes [.stock] db next := by
  simp only [receiveBatch, bind_ok] at ran
  obtain ⟨_, -, ran⟩ := ran
  split at ran
  next => exact (pure_ok _ _).1 ran ▸ Writes.refl _ _
  next =>
    simp only [bind_ok, pure_ok] at ran
    obtain ⟨_, -, _, -, _, -, _, -, rfl⟩ := ran
    exact writes_stock rfl rfl rfl

theorem adjust_writes {id : Id} {input : ApplyInventoryAdjustment} {actorUserId : Id} {now : Int}
    (ran : adjust db id input actorUserId now = .ok next) : Writes [.stock] db next := by
  simp only [adjust, bind_ok, pure_ok] at ran
  obtain ⟨_, -, _, -, _, -, _, -, _, -, _, -, rfl⟩ := ran
  exact writes_stock rfl rfl rfl

theorem decideAdjustment_writes {id : Id} {decision : AdjustmentDecision} {reason : Option Text}
    {actorUserId : Id} {now : Int} {decided : Decided}
    (ran : decideAdjustment db id decision reason actorUserId now = .ok (next, decided)) :
    Writes [.stock] db next := by
  simp only [decideAdjustment, bind_ok] at ran
  obtain ⟨_, -, pending, -, _, -, ran⟩ := ran
  split at ran
  next => obtain ⟨rfl, -⟩ := Prod.mk.inj ((pure_ok _ _).1 ran); exact Writes.refl _ _
  next =>
    simp only [bind_ok] at ran
    obtain ⟨_, -, ran⟩ := ran
    split at ran
    next => obtain ⟨rfl, -⟩ := Prod.mk.inj ((pure_ok _ _).1 ran); exact writes_stock rfl rfl rfl
    next =>
      split at ran
      next => obtain ⟨rfl, -⟩ := Prod.mk.inj ((pure_ok _ _).1 ran); exact writes_stock rfl rfl rfl
      next =>
        simp only [bind_ok] at ran
        obtain ⟨current, -, ran⟩ := ran
        split at ran
        next => obtain ⟨rfl, -⟩ := Prod.mk.inj ((pure_ok _ _).1 ran); exact writes_stock rfl rfl rfl
        next =>
          simp only [bind_ok, pure_ok, Prod.mk.injEq, applyAdjustment] at ran
          obtain ⟨_, ⟨_, -, _, -, _, -, rfl⟩, rfl, -⟩ := ran
          exact writes_stock rfl rfl rfl

theorem transfer_writes {sourceId : Id} {input : TransferInventory} {key : Text} {actorUserId : Id}
    {now : Int} (ran : transfer db sourceId input key actorUserId now = .ok next) :
    Writes [.stock] db next := by
  simp only [transfer, bind_ok] at ran
  obtain ⟨_, -, ran⟩ := ran
  split at ran
  next => exact (pure_ok _ _).1 ran ▸ Writes.refl _ _
  next =>
    simp only [bind_ok, pure_ok] at ran
    obtain ⟨_, -, _, -, _, -, _, -, _, -, _, -, _, -, _, -, rfl⟩ := ran
    exact writes_stock rfl rfl rfl

theorem create_writes {call : CheckoutCall} {now : Int} {orderId : Id}
    (ran : Checkout.Order.create db call now = .ok (next, orderId)) :
    Writes [.stock, .cases] db next := by
  rcases create_cases ran with rfl | ⟨placement, -, -, placed⟩
  next => exact Writes.refl _ _
  next =>
    rw [placed.rest]
    exact writes_both rfl rfl

theorem confirm_writes {id actorUserId : Id} {expectedVersion : Nat} {now : Int}
    (ran : confirm db id expectedVersion actorUserId now = .ok next) :
    Writes [.stock, .cases] db next := by
  simp only [confirm, bind_ok, pure_ok] at ran
  obtain ⟨_, -, _, -, _, -, _, -, _, -, _, -, _, -, _, -, _, -, _, -, _, -, rfl⟩ := ran
  exact writes_both rfl rfl

theorem releaseAll_writes {orderId actorUserId : Id}
    (ran : releaseAll db orderId actorUserId = .ok next) : Writes [.stock] db next := by
  simp only [releaseAll, bind_ok] at ran
  obtain ⟨_, -, ran⟩ := ran
  split at ran
  next => exact (pure_ok _ _).1 ran ▸ Writes.refl _ _
  next =>
    simp only [bind_ok, pure_ok] at ran
    obtain ⟨_, -, _, -, rfl⟩ := ran
    exact writes_stock rfl rfl rfl

theorem released_writes {released : Db} (releases : Writes [.stock] db released)
    (dispatch : Area.Same released next .dispatch) (remitting : Area.Same released next .remitting) :
    Writes [.stock, .cases] db next :=
  (releases.widen (by simp)).trans (writes_both dispatch remitting)

theorem terminate_writes {disposition : Disposition} {id actorUserId : Id} {expectedVersion : Nat}
    (ran : terminate db disposition id expectedVersion actorUserId = .ok next) :
    Writes [.stock, .cases] db next := by
  simp only [terminate, bind_ok, pure_ok] at ran
  obtain ⟨_, -, _, -, _, -, _, -, _, -, _, -, released, releases, _, -, _, -, rfl⟩ := ran
  exact released_writes (releaseAll_writes releases) rfl rfl

theorem cancel_writes {userId : Id} {orderNumber : Int} {expectedVersion : Nat}
    (ran : Orders.Customer.cancel db userId orderNumber expectedVersion = .ok next) :
    Writes [.stock, .cases] db next := by
  simp only [Orders.Customer.cancel, bind_ok, pure_ok] at ran
  obtain ⟨_, -, _, -, _, -, _, -, _, -, _, -, _, -, released, releases, _, -, _, -, _, -, rfl⟩ := ran
  exact released_writes (releaseAll_writes releases) rfl rfl

theorem expireReservations_writes {cutoff : Int} {batchSize : Nat} {now : Int}
    (ran : Worker.Expiry.expireReservations db cutoff batchSize now = .ok next) :
    Writes [.stock] db next := by
  simp only [Worker.Expiry.expireReservations, bind_ok] at ran
  obtain ⟨_, -, ran⟩ := ran
  split at ran
  next => exact (pure_ok _ _).1 ran ▸ Writes.refl _ _
  next =>
    simp only [bind_ok, pure_ok] at ran
    obtain ⟨_, -, _, -, rfl⟩ := ran
    exact writes_stock rfl rfl rfl

theorem transitionIntake_writes {source target : OrderStatus} {reasonCode : String}
    {id actorUserId : Id} {expectedVersion : Nat}
    (ran : transitionIntake db source target reasonCode id expectedVersion actorUserId = .ok next) :
    Writes [.cases] db next := by
  simp only [transitionIntake, bind_ok, pure_ok] at ran
  obtain ⟨_, -, _, -, _, -, _, -, _, -, _, -, _, -, _, -, rfl⟩ := ran
  exact writes_cases rfl rfl rfl

theorem updateMirroredStatus_writes {order : Order} {delivery : Delivery} {target : DeliveryStatus}
    {deliveryData : Delivery -> Delivery} {keeps : forall row, (deliveryData row).id = row.id}
    {reasonCode : Text} {actorUserId : Id}
    (ran : updateMirroredStatus db order delivery target deliveryData keeps reasonCode actorUserId =
      .ok next) : Writes [.cases] db next := by
  simp only [updateMirroredStatus, bind_ok, pure_ok] at ran
  obtain ⟨_, -, _, -, rfl⟩ := ran
  exact writes_cases rfl rfl rfl

theorem assignment_writes {action : AssignmentAction} {id : Id} {input : AssignDelivery}
    (ran : assignment db action id input = .ok next) : Writes [.cases] db next := by
  simp only [assignment, bind_ok, pure_ok] at ran
  obtain ⟨_, -, _, -, _, -, _, -, _, -, _, -, _, -, _, -, _, -, _, -, rfl⟩ := ran
  exact writes_cases rfl rfl rfl

theorem unassign_writes {id : Id} {expectedVersion : Nat} {reason : Text}
    (ran : unassign db id expectedVersion reason = .ok next) : Writes [.cases] db next := by
  simp only [unassign, bind_ok, pure_ok] at ran
  obtain ⟨_, -, _, -, _, -, _, -, _, -, _, -, rfl⟩ := ran
  exact writes_cases rfl rfl rfl

theorem transition_writes {id : Id} {input : TransitionDelivery} {actorUserId : Id}
    (ran : transition db id input actorUserId = .ok next) : Writes [.cases] db next := by
  simp only [transition, bind_ok] at ran
  obtain ⟨_, -, _, -, _, -, _, -, _, -, mirrored⟩ := ran
  exact updateMirroredStatus_writes mirrored

theorem recordAttempt_writes {id : Id} {input : RecordDeliveryAttempt} {actorUserId : Id} {now : Int}
    (ran : recordAttempt db id input actorUserId now = .ok next) : Writes [.cases] db next := by
  simp only [recordAttempt, bind_ok, pure_ok] at ran
  obtain ⟨_, -, _, -, _, -, _, -, _, -, _, -, moved, mirrored, rfl⟩ := ran
  exact (updateMirroredStatus_writes mirrored).trans (writes_cases rfl rfl rfl)

theorem complete_writes {id : Id} {expectedVersion : Nat} {ageResult : CompletionAgeResult}
    {actorUserId : Id} {now : Int}
    (ran : complete db id expectedVersion ageResult actorUserId now = .ok next) :
    Writes [.cases] db next := by
  simp only [complete, bind_ok, pure_ok] at ran
  obtain ⟨_, -, _, -, _, -, _, -, _, -, _, -, _, -, _, -, _, -, moved, mirrored, rfl⟩ := ran
  exact (updateMirroredStatus_writes mirrored).trans (writes_cases rfl rfl rfl)

theorem completeReturn_writes {id : Id} {expectedVersion : Nat} {reason : Text} {actorUserId : Id}
    (ran : completeReturn db id expectedVersion reason actorUserId = .ok next) :
    Writes [.cases] db next := by
  simp only [completeReturn, bind_ok] at ran
  obtain ⟨_, -, _, -, _, -, _, -, mirrored⟩ := ran
  exact updateMirroredStatus_writes mirrored

theorem createManifest_writes {input : CreateDeliveryManifest}
    (ran : createManifest db input = .ok next) : Writes [.dispatch] db next := by
  simp only [createManifest, bind_ok, pure_ok] at ran
  obtain ⟨_, -, _, -, _, -, _, -, rfl⟩ := ran
  intro area free
  cases area with
  | dispatch => simp at free
  | _ => rfl

theorem applyDeliveryTransition_writes {bulk : BulkDelivery} {target : DeliveryStatus}
    {reasonCode : Text} {actorUserId : Id}
    (ran : applyDeliveryTransition db bulk target reasonCode actorUserId = .ok next) :
    Writes [.cases] db next := by
  unfold applyDeliveryTransition at ran
  exact updateMirroredStatus_writes ran

theorem moveManifest_writes {deliveries : List BulkDelivery} {target : ManifestStatus}
    {actorUserId : Id} (ran : moveManifest db deliveries target actorUserId = .ok next) :
    Writes [.cases] db next :=
  moveManifest_keeps (fun _ _ _ _ _ kept moved => kept.trans (applyDeliveryTransition_writes moved))
    (Writes.refl _ _) ran

theorem transitionManifest_writes {id : Id} {expectedStatus target : ManifestStatus} {actorUserId : Id}
    (ran : transitionManifest db id expectedStatus target actorUserId = .ok next) :
    Writes [.cases, .dispatch] db next := by
  simp only [transitionManifest, bind_ok, pure_ok] at ran
  obtain ⟨_, -, _, -, _, -, _, -, _, -, _, -, moved, handed, _, -, _, -, rfl⟩ := ran
  refine ((moveManifest_writes handed).widen (by simp)).trans fun area free => ?_
  cases area with
  | cases => simp at free
  | dispatch => simp at free
  | _ => rfl

theorem importStatusCsv_writes {importKey : Text} {dryRun : Bool} {file : DeliveryStatusCsv}
    {actorUserId : Id} {record : DeliveryStatusImport}
    (ran : importStatusCsv db importKey dryRun file actorUserId = .ok (next, record)) :
    Writes [.cases] db next :=
  importStatusCsv_keeps (fun _ _ _ _ _ kept moved => kept.trans (applyDeliveryTransition_writes moved))
    (fun _ _ kept => kept.trans (writes_cases rfl rfl rfl)) (Writes.refl _ _) ran

section View

variable {view : View}

theorem writes_cash (stock : Area.Same db next .stock) (dispatch : Area.Same db next .dispatch) :
    Writes [.cases, .remitting] db next := by
  intro area free
  cases area with
  | stock => exact stock
  | cases => simp at free
  | dispatch => exact dispatch
  | remitting => simp at free

theorem recordCollection_writes {id : Id} {input : RecordRequest} {idempotencyKey : Option Text}
    {discrepancyId actorUserId : Id}
    (ran : recordCollection view id input idempotencyKey discrepancyId actorUserId = .ok next) :
    Writes [.cases, .remitting] view.current next := by
  simp only [recordCollection, bind_ok] at ran
  obtain ⟨_, -, _, -, ran⟩ := ran
  split at ran
  next => exact (pure_ok _ _).1 ran ▸ Writes.refl _ _
  next =>
    simp only [bind_ok, pure_ok] at ran
    obtain ⟨_, -, _, -, _, -, _, -, _, -, _, -, _, -, _, -, _, -, _, -, _, -, _, -, _, -, _, -, rfl⟩ := ran
    exact writes_cash rfl rfl

theorem createRemittance_writes {input : CreateCashRemittance}
    (ran : createRemittance view input = .ok next) : Writes [.cases, .remitting] view.current next := by
  simp only [createRemittance, bind_ok, pure_ok] at ran
  obtain ⟨_, -, _, -, _, -, _, -, _, -, _, -, _, -, _, -, _, -, rfl⟩ := ran
  exact writes_cash rfl rfl

theorem submitRemittance_writes {id actorUserId : Id}
    (ran : submitRemittance view id actorUserId = .ok next) :
    Writes [.cases, .remitting] view.current next := by
  simp only [submitRemittance, bind_ok, pure_ok] at ran
  obtain ⟨_, -, _, -, _, -, _, -, rfl⟩ := ran
  exact writes_cash rfl rfl

theorem applyVerifiedAllocations_writes {operation : RemittanceOperation}
    (ran : applyVerifiedAllocations view operation = .ok next) :
    Writes [.cases, .remitting] view.current next := by
  simp only [applyVerifiedAllocations, bind_ok, pure_ok] at ran
  obtain ⟨_, -, _, -, rfl⟩ := ran
  exact writes_cash rfl rfl

theorem reconcileRemittance_writes {id : Id} {input : ReconcileCashRemittance}
    {discrepancyId actorUserId : Id}
    (ran : reconcileRemittance view id input discrepancyId actorUserId = .ok next) :
    Writes [.cases, .remitting] view.current next := by
  simp only [reconcileRemittance, bind_ok] at ran
  obtain ⟨_, -, _, -, _, -, _, -, _, -, _, -, _, -, _, -, _, -, ran⟩ := ran
  split at ran
  next =>
    simp only [bind_ok, pure_ok] at ran
    obtain ⟨applied, verified, rfl⟩ := ran
    have applying := applyVerifiedAllocations_writes verified
    have all : Writes [.cases, .remitting] view.current applied := by
      refine Writes.trans ?_ applying
      exact writes_cash rfl rfl
    exact all.trans (writes_cash rfl rfl)
  next =>
    simp only [bind_ok, pure_ok] at ran
    obtain ⟨_, -, _, -, rfl⟩ := ran
    exact writes_cash rfl rfl

theorem correctWhenResolved_writes {operation : CollectionOperation} {delivery : Delivery}
    {resolution : Resolution}
    (ran : correctWhenResolved view operation delivery resolution = .ok next) :
    Writes [.cases, .remitting] view.current next := by
  unfold correctWhenResolved at ran
  split at ran
  next =>
    simp only [correctCollection, bind_ok] at ran
    obtain ⟨_, -, _, -, ran⟩ := ran
    split at ran
    next =>
      simp only [bind_ok, pure_ok] at ran
      obtain ⟨_, -, _, -, rfl⟩ := ran
      exact writes_cash rfl rfl
    next =>
      obtain rfl := (pure_ok _ _).1 ran
      exact writes_cash rfl rfl
  next => exact Except.ok.inj ran ▸ Writes.refl _ _

theorem resolveCollectionDiscrepancy_writes {cashCollectionId id : Id} {input : ResolveCashDiscrepancy}
    {actorUserId : Id}
    (ran : resolveCollectionDiscrepancy view cashCollectionId id input actorUserId = .ok next) :
    Writes [.cases, .remitting] view.current next := by
  simp only [resolveCollectionDiscrepancy, bind_ok, pure_ok] at ran
  obtain ⟨_, -, _, -, _, -, _, -, _, -, _, -, _, -, _, -, _, -, _, -, corrected, correcting, _, -, rfl⟩ :=
    ran
  exact (correctWhenResolved_writes correcting).trans (writes_cash rfl rfl)

theorem verifyWhenResolved_writes {operation : RemittanceOperation} {actorUserId : Id}
    {resolution : Resolution}
    (ran : verifyWhenResolved view operation actorUserId resolution = .ok next) :
    Writes [.cases, .remitting] view.current next := by
  unfold verifyWhenResolved at ran
  split at ran
  next =>
    simp only [verifyDiscrepant, bind_ok, pure_ok] at ran
    obtain ⟨applied, applying, _, -, rfl⟩ := ran
    exact (applyVerifiedAllocations_writes applying).trans (writes_cash rfl rfl)
  next => exact Except.ok.inj ran ▸ Writes.refl _ _

theorem resolveRemittanceDiscrepancy_writes {remittanceId id : Id} {input : ResolveCashDiscrepancy}
    {actorUserId : Id}
    (ran : resolveRemittanceDiscrepancy view remittanceId id input actorUserId = .ok next) :
    Writes [.cases, .remitting] view.current next := by
  simp only [resolveRemittanceDiscrepancy, bind_ok, pure_ok] at ran
  obtain ⟨_, -, _, -, _, -, _, -, _, -, _, -, _, -, _, -, _, -, verified, verifying, _, -, rfl⟩ := ran
  exact (verifyWhenResolved_writes verifying).trans (writes_cash rfl rfl)

theorem resolveDiscrepancy_writes {id : Id} {input : ResolveCashDiscrepancy} {actorUserId : Id}
    (ran : resolveDiscrepancy view id input actorUserId = .ok next) :
    Writes [.cases, .remitting] view.current next := by
  simp only [resolveDiscrepancy, bind_ok] at ran
  obtain ⟨reference, -, ran⟩ := ran
  split at ran
  next => exact resolveCollectionDiscrepancy_writes ran
  next => exact resolveRemittanceDiscrepancy_writes ran
  next => simp at ran

theorem cash_writes {op : CashOp} (ran : op.exec view = .ok next) :
    Writes [.cases, .remitting] view.current next := by
  cases op with
  | recordCollection => exact recordCollection_writes ran
  | createRemittance => exact createRemittance_writes ran
  | submitRemittance => exact submitRemittance_writes ran
  | reconcileRemittance => exact reconcileRemittance_writes ran
  | resolveDiscrepancy => exact resolveDiscrepancy_writes ran

end View

-- No operation writes outside its areas.
theorem exec_writes {now : Int} {op : Op} (ran : exec db now op = .ok next) :
    Writes (areas op) db next := by
  cases op with
  | configure config => exact Except.ok.inj ran ▸ writes_none rfl rfl rfl rfl _
  | replaceCarts carts => exact Except.ok.inj ran ▸ writes_none rfl rfl rfl rfl _
  | createItem => exact createItem_writes ran
  | receiveBatch => exact receiveBatch_writes ran
  | adjust => exact adjust_writes ran
  | decideAdjustment =>
    obtain ⟨⟨after, decided⟩, decision, rfl⟩ := (map_ok _ _ _).1 ran
    exact decideAdjustment_writes decision
  | transfer => exact transfer_writes ran
  | createOrder =>
    obtain ⟨⟨after, orderId⟩, created, rfl⟩ := (map_ok _ _ _).1 ran
    exact create_writes created
  | confirm => exact confirm_writes ran
  | terminate => exact terminate_writes ran
  | prepare => exact transitionIntake_writes ran
  | readyForPickup => exact transitionIntake_writes ran
  | cancelOrder => exact cancel_writes ran
  | expireReservations => exact expireReservations_writes ran
  | assign => exact assignment_writes ran
  | unassign => exact unassign_writes ran
  | transition => exact transition_writes ran
  | recordAttempt => exact recordAttempt_writes ran
  | complete => exact complete_writes ran
  | completeReturn => exact completeReturn_writes ran
  | createManifest => exact createManifest_writes ran
  | transitionManifest => exact transitionManifest_writes ran
  | importStatusCsv =>
    obtain ⟨⟨after, record⟩, imported, rfl⟩ := (map_ok _ _ _).1 ran
    exact importStatusCsv_writes imported
  | cash => exact cash_writes ran

end VapeCommerce.Frames
