import VapeCommerce.Frames
import VapeCommerce.Orders.Steps

set_option autoImplicit false

-- Which entries each operation posts in the stock ledger; entries are never changed or dropped.
namespace VapeCommerce.Inventory.Ledger

open VapeCommerce.Lib VapeCommerce.Lib.Outcome VapeCommerce.Schema VapeCommerce.Database
open VapeCommerce.Inventory.Admin VapeCommerce.Orders.Admin VapeCommerce.Orders.Reservations
open VapeCommerce.Checkout.Order VapeCommerce.Checkout.Placement VapeCommerce.Worker.Expiry
open VapeCommerce.System

-- The entry belongs to an order and has no key of its own.
def ForOrder (movement : StockMovement) : Prop :=
  movement.referenceType = some .order /\ movement.idempotencyKeyHash = none

def Posts : Op -> StockMovement -> Prop
  | .createItem input actorUserId, movement =>
    movement.referenceType = some .inventoryItem /\ movement.idempotencyKeyHash = none /\
      movement.referenceId = some input.id /\ movement.actorUserId = some actorUserId
  | .receiveBatch input key actorUserId, movement =>
    movement.referenceType = some .productBatchReceipt /\
      movement.idempotencyKeyHash = some (scopedKey "batch-receipt" actorUserId key) /\
      movement.requestFingerprint = some (batchFingerprint input)
  | .decideAdjustment id _ _ actorUserId, movement =>
    movement.referenceType = some .inventoryAdjustment /\ movement.idempotencyKeyHash = none /\
      movement.referenceId = some id /\ movement.actorUserId = some actorUserId
  | .transfer _ input key actorUserId, movement =>
    movement.referenceType = some .inventoryTransfer /\
      (movement.idempotencyKeyHash = some (scopedKey "transfer-out" actorUserId key) \/
        movement.idempotencyKeyHash = some (scopedKey "transfer-in" actorUserId key)) /\
      movement.referenceId = some input.transferId
  | .createOrder _, movement | .confirm .., movement | .terminate .., movement
  | .cancelOrder .., movement | .expireReservations .., movement => ForOrder movement
  | _, _ => False

def Extends (posts : StockMovement -> Prop) (old new : List StockMovement) : Prop :=
  exists added, new = old ++ added /\ forall movement, movement ∈ added -> posts movement

variable {posts : StockMovement -> Prop} {db next : Db}

theorem Extends.refl (movements : List StockMovement) : Extends posts movements movements :=
  ⟨[], by simp, by simp⟩

theorem Extends.one {old : List StockMovement} {movement : StockMovement} (fits : posts movement) :
    Extends posts old (old ++ [movement]) :=
  ⟨[movement], rfl, fun _ member => List.mem_singleton.1 member ▸ fits⟩

theorem Extends.trans {first second third : List StockMovement} (one : Extends posts first second)
    (two : Extends posts second third) : Extends posts first third := by
  obtain ⟨added, rfl, fits⟩ := one
  obtain ⟨more, rfl, fits'⟩ := two
  refine ⟨added ++ more, List.append_assoc .., fun movement member => ?_⟩
  exact (List.mem_append.1 member).elim (fits movement) (fits' movement)

theorem Extends.weaken {wider : StockMovement -> Prop} {old new : List StockMovement}
    (extension : Extends posts old new) (implies : forall movement, posts movement -> wider movement) :
    Extends wider old new := by
  obtain ⟨added, entries, fits⟩ := extension
  exact ⟨added, entries, fun movement member => implies movement (fits movement member)⟩

theorem Extends.cases {old new : List StockMovement} (extension : Extends posts old new)
    {movement : StockMovement} (member : movement ∈ new) : movement ∈ old \/ posts movement := by
  obtain ⟨added, rfl, fits⟩ := extension
  exact (List.mem_append.1 member).imp_right (fits movement)

theorem releaseMovement_forOrder {items : List InventoryItem} {referenceId actorUserId : Option Id}
    {failure : Failure} {row : StockReservation} {movement : StockMovement}
    (ran : releaseMovement items referenceId actorUserId failure row = .ok movement) :
    ForOrder movement := by
  simp only [releaseMovement, bind_ok, pure_ok] at ran
  obtain ⟨item, -, ⟨⟩, -, rfl⟩ := ran
  exact ⟨rfl, rfl⟩

theorem releaseAll_extends {orderId actorUserId : Id} (ran : releaseAll db orderId actorUserId = .ok next) :
    Extends ForOrder db.movements next.movements := by
  simp only [releaseAll, bind_ok] at ran
  obtain ⟨locked, -, ran⟩ := ran
  split at ran
  next => exact (pure_ok _ _).1 ran ▸ Extends.refl _
  next =>
    simp only [bind_ok, pure_ok] at ran
    obtain ⟨reservations, -, movements, released, rfl⟩ := ran
    refine ⟨movements, rfl, fun movement member => ?_⟩
    obtain ⟨row, -, made⟩ := mapM_ok_mem released member
    exact releaseMovement_forOrder made

theorem confirm_extends {id actorUserId : Id} {expectedVersion : Nat} {now : Int}
    (ran : confirm db id expectedVersion actorUserId now = .ok next) :
    Extends ForOrder db.movements next.movements := by
  simp only [confirm, bind_ok, pure_ok] at ran
  obtain ⟨operation, -, _, -, _, -, _, -, _, -, locked, -, _, -, ⟨items, movements⟩, consumed, _, -, _, -,
    _, -, rfl⟩ := ran
  refine foldlM_keeps (fun state : Table InventoryItem.id × List StockMovement =>
    Extends ForOrder db.movements state.2) _ _ (fun state inventory after _ kept round => ?_)
    (db.items, db.movements) (items, movements) (Extends.refl _) consumed
  simp only [consumeItem, bind_ok, pure_ok] at round
  obtain ⟨_, -, _, -, rfl⟩ := round
  exact kept.trans (Extends.one ⟨rfl, rfl⟩)

theorem expireReservations_extends {cutoff : Int} {batchSize : Nat} {now : Int}
    (ran : expireReservations db cutoff batchSize now = .ok next) :
    Extends ForOrder db.movements next.movements := by
  simp only [expireReservations, bind_ok] at ran
  obtain ⟨_, -, ran⟩ := ran
  split at ran
  next => exact (pure_ok _ _).1 ran ▸ Extends.refl _
  next =>
    simp only [bind_ok, pure_ok] at ran
    obtain ⟨_, -, ⟨reservations, movements⟩, expired, rfl⟩ := ran
    refine foldlM_keeps (fun state : Table StockReservation.id × List StockMovement =>
      Extends ForOrder db.movements state.2) _ _ (fun state row after _ kept round => ?_)
      (db.reservations, db.movements) (reservations, movements) (Extends.refl _) expired
    simp only [expireOne, bind_ok] at round
    obtain ⟨movement, made, round⟩ := round
    split at round
    next => exact (pure_ok _ _).1 round ▸ kept
    next =>
      obtain rfl := (pure_ok _ _).1 round
      exact kept.trans (Extends.one (releaseMovement_forOrder made))

theorem create_extends {call : CheckoutCall} {now : Int} {orderId : Id}
    (ran : Checkout.Order.create db call now = .ok (next, orderId)) :
    Extends ForOrder db.movements next.movements := by
  rcases create_cases ran with rfl | ⟨placement, -, ⟨prepared⟩, placed⟩
  next => exact Extends.refl _
  next =>
    rw [placed.rest]
    refine ⟨placement.movements, rfl, fun movement member => ?_⟩
    obtain ⟨allocation, -, made⟩ := mapM_ok_mem prepared.ledgered member
    simp only [reservationMovement, bind_ok, pure_ok] at made
    obtain ⟨item, -, rfl⟩ := made
    exact ⟨rfl, rfl⟩

-- A decision writes its row, and stock and the ledger only when it applies the adjustment.
theorem decideAdjustment_shape {id actorUserId : Id} {decision : AdjustmentDecision}
    {reason : Option Text} {now : Int} {decided : Decided}
    (ran : decideAdjustment db id decision reason actorUserId now = .ok (next, decided)) :
    (exists adjustments, next = { db with adjustments }) \/
      exists pending current, db.adjustments.find? id = some pending /\
        db.items.find? pending.inventoryItemId = some current /\
        applyAdjustment db pending current actorUserId now = .ok next := by
  simp only [decideAdjustment, bind_ok, orThrow_ok] at ran
  obtain ⟨_, -, pending, found, _, -, ran⟩ := ran
  split at ran
  next =>
    obtain ⟨rfl, -⟩ := Prod.mk.inj ((pure_ok _ _).1 ran)
    exact .inl ⟨_, rfl⟩
  next =>
    simp only [bind_ok] at ran
    obtain ⟨_, -, ran⟩ := ran
    split at ran
    next =>
      obtain ⟨rfl, -⟩ := Prod.mk.inj ((pure_ok _ _).1 ran)
      exact .inl ⟨_, rfl⟩
    next =>
      split at ran
      next =>
        obtain ⟨rfl, -⟩ := Prod.mk.inj ((pure_ok _ _).1 ran)
        exact .inl ⟨_, rfl⟩
      next =>
        simp only [bind_ok, orThrow_ok] at ran
        obtain ⟨current, stocked, ran⟩ := ran
        split at ran
        next =>
          obtain ⟨rfl, -⟩ := Prod.mk.inj ((pure_ok _ _).1 ran)
          exact .inl ⟨_, rfl⟩
        next =>
          simp only [bind_ok, pure_ok, Prod.mk.injEq] at ran
          obtain ⟨_, applied, rfl, -⟩ := ran
          exact .inr ⟨pending, current, found, stocked, applied⟩

theorem decideAdjustment_extends {id actorUserId : Id} {decision : AdjustmentDecision}
    {reason : Option Text} {now : Int} {decided : Decided}
    (ran : decideAdjustment db id decision reason actorUserId now = .ok (next, decided)) :
    Extends (Posts (.decideAdjustment id decision reason actorUserId)) db.movements next.movements := by
  rcases decideAdjustment_shape ran with ⟨adjustments, rfl⟩ | ⟨pending, current, found, -, applied⟩
  next => exact Extends.refl _
  next =>
    simp only [applyAdjustment, bind_ok, pure_ok] at applied
    obtain ⟨_, -, _, -, _, -, rfl⟩ := applied
    exact Extends.one ⟨rfl, rfl, congrArg _ (Table.find?_key found), rfl⟩

theorem decideAdjustment_rest {id actorUserId : Id} {decision : AdjustmentDecision}
    {reason : Option Text} {now : Int} {decided : Decided}
    (ran : decideAdjustment db id decision reason actorUserId now = .ok (next, decided)) :
    next.batches = db.batches /\ next.transfers = db.transfers := by
  rcases decideAdjustment_shape ran with ⟨adjustments, rfl⟩ | ⟨pending, current, -, -, applied⟩
  next => exact ⟨rfl, rfl⟩
  next =>
    simp only [applyAdjustment, bind_ok, pure_ok] at applied
    obtain ⟨_, -, _, -, _, -, rfl⟩ := applied
    exact ⟨rfl, rfl⟩

theorem transfer_extends {sourceId actorUserId : Id} {input : TransferInventory} {key : Text} {now : Int}
    (ran : transfer db sourceId input key actorUserId now = .ok next) :
    Extends (Posts (.transfer sourceId input key actorUserId)) db.movements next.movements := by
  simp only [transfer, bind_ok] at ran
  obtain ⟨_, -, ran⟩ := ran
  split at ran
  next => exact (pure_ok _ _).1 ran ▸ Extends.refl _
  next =>
    simp only [bind_ok, pure_ok] at ran
    obtain ⟨_, -, _, -, _, -, _, -, _, -, _, -, _, -, _, -, rfl⟩ := ran
    refine ⟨_, rfl, fun movement member => ?_⟩
    simp only [List.mem_cons, List.not_mem_nil, or_false] at member
    rcases member with rfl | rfl
    next => exact ⟨rfl, .inl rfl, rfl⟩
    next => exact ⟨rfl, .inr rfl, rfl⟩

theorem receiveBatch_extends {input : CreateBatchReceipt} {key : Text} {actorUserId : Id} {now : Int}
    (ran : receiveBatch db input key actorUserId now = .ok next) :
    Extends (Posts (.receiveBatch input key actorUserId)) db.movements next.movements := by
  simp only [receiveBatch, bind_ok] at ran
  obtain ⟨_, -, ran⟩ := ran
  split at ran
  next => exact (pure_ok _ _).1 ran ▸ Extends.refl _
  next =>
    simp only [bind_ok, pure_ok] at ran
    obtain ⟨_, -, _, -, _, -, _, -, rfl⟩ := ran
    exact Extends.one ⟨rfl, rfl, rfl⟩

/-- Every operation appends to the ledger, and only entries of its own kind. -/
theorem exec_extends {now : Int} {op : Op} (ran : exec db now op = .ok next) :
    Extends (Posts op) db.movements next.movements := by
  cases op with
  | createItem input actorUserId =>
    simp only [exec, createItem, bind_ok, pure_ok] at ran
    obtain ⟨_, -, _, -, _, -, rfl⟩ := ran
    exact Extends.one ⟨rfl, rfl, rfl, rfl⟩
  | receiveBatch => exact receiveBatch_extends ran
  | decideAdjustment =>
    obtain ⟨⟨after, decided⟩, decides, rfl⟩ := (map_ok _ _ _).1 ran
    exact decideAdjustment_extends decides
  | transfer => exact transfer_extends ran
  | createOrder =>
    obtain ⟨⟨after, orderId⟩, created, rfl⟩ := (map_ok _ _ _).1 ran
    exact create_extends created
  | confirm => exact confirm_extends ran
  | terminate =>
    simp only [exec, terminate, bind_ok, pure_ok] at ran
    obtain ⟨_, -, _, -, _, -, _, -, _, -, _, -, released, releases, _, -, _, -, rfl⟩ := ran
    have posted := releaseAll_extends releases
    exact posted
  | cancelOrder =>
    simp only [exec, Orders.Customer.cancel, bind_ok, pure_ok] at ran
    obtain ⟨_, -, _, -, _, -, _, -, _, -, _, -, _, -, released, releases, _, -, _, -, _, -, rfl⟩ := ran
    have posted := releaseAll_extends releases
    exact posted
  | expireReservations => exact expireReservations_extends ran
  | adjust =>
    simp only [exec, adjust, bind_ok, pure_ok] at ran
    obtain ⟨_, -, _, -, _, -, _, -, _, -, _, -, rfl⟩ := ran
    exact Extends.refl _
  | _ =>
    have same := Frames.exec_writes ran .stock (by simp [Frames.areas])
    simp only [Frames.Area.Same, Prod.mk.injEq] at same
    rw [same.2.2.1]
    exact Extends.refl _

def writesBatches : Op -> Bool
  | .receiveBatch .. => true
  | _ => false

def writesAdjustments : Op -> Bool
  | .adjust .. | .decideAdjustment .. => true
  | _ => false

def writesTransfers : Op -> Bool
  | .transfer .. => true
  | _ => false

-- The tables that only their own operations write.
structure OwnTables (op : Op) (db next : Db) : Prop where
  batches : writesBatches op = false -> next.batches = db.batches
  adjustments : writesAdjustments op = false -> next.adjustments = db.adjustments
  transfers : writesTransfers op = false -> next.transfers = db.transfers

theorem ownTables_same {op : Op} (batches : next.batches = db.batches)
    (adjustments : next.adjustments = db.adjustments) (transfers : next.transfers = db.transfers) :
    OwnTables op db next :=
  ⟨fun _ => batches, fun _ => adjustments, fun _ => transfers⟩

theorem releaseAll_ownTables {op : Op} {released : Db} {orderId actorUserId : Id}
    (releases : releaseAll db orderId actorUserId = .ok released)
    (batches : next.batches = released.batches) (adjustments : next.adjustments = released.adjustments)
    (transfers : next.transfers = released.transfers) : OwnTables op db next := by
  have frame := Orders.Steps.releaseAll_frame releases
  exact ownTables_same (batches.trans (by rw [frame])) (adjustments.trans (by rw [frame]))
    (transfers.trans (by rw [frame]))

theorem exec_ownTables {now : Int} {op : Op} (ran : exec db now op = .ok next) :
    OwnTables op db next := by
  cases op with
  | createItem =>
    simp only [exec, createItem, bind_ok, pure_ok] at ran
    obtain ⟨_, -, _, -, _, -, rfl⟩ := ran
    exact ownTables_same rfl rfl rfl
  | receiveBatch =>
    simp only [exec, receiveBatch, bind_ok] at ran
    obtain ⟨_, -, ran⟩ := ran
    split at ran
    next => exact (pure_ok _ _).1 ran ▸ ownTables_same rfl rfl rfl
    next =>
      simp only [bind_ok, pure_ok] at ran
      obtain ⟨_, -, _, -, _, -, _, -, rfl⟩ := ran
      exact ⟨by simp [writesBatches], fun _ => rfl, fun _ => rfl⟩
  | adjust =>
    simp only [exec, adjust, bind_ok, pure_ok] at ran
    obtain ⟨_, -, _, -, _, -, _, -, _, -, _, -, rfl⟩ := ran
    exact ⟨fun _ => rfl, by simp [writesAdjustments], fun _ => rfl⟩
  | decideAdjustment =>
    obtain ⟨⟨after, decided⟩, decides, rfl⟩ := (map_ok _ _ _).1 ran
    have rest := decideAdjustment_rest decides
    exact ⟨fun _ => rest.1, by simp [writesAdjustments], fun _ => rest.2⟩
  | transfer =>
    simp only [exec, transfer, bind_ok] at ran
    obtain ⟨_, -, ran⟩ := ran
    split at ran
    next => exact (pure_ok _ _).1 ran ▸ ownTables_same rfl rfl rfl
    next =>
      simp only [bind_ok, pure_ok] at ran
      obtain ⟨_, -, _, -, _, -, _, -, _, -, _, -, _, -, _, -, rfl⟩ := ran
      exact ⟨fun _ => rfl, fun _ => rfl, by simp [writesTransfers]⟩
  | createOrder =>
    obtain ⟨⟨after, orderId⟩, created, rfl⟩ := (map_ok _ _ _).1 ran
    rcases create_cases created with unchanged | ⟨placement, -, -, placed⟩
    next => exact ownTables_same (by rw [unchanged]) (by rw [unchanged]) (by rw [unchanged])
    next => exact ownTables_same (by rw [placed.rest]) (by rw [placed.rest]) (by rw [placed.rest])
  | confirm =>
    simp only [exec, confirm, bind_ok, pure_ok] at ran
    obtain ⟨_, -, _, -, _, -, _, -, _, -, _, -, _, -, _, -, _, -, _, -, _, -, rfl⟩ := ran
    exact ownTables_same rfl rfl rfl
  | terminate =>
    simp only [exec, terminate, bind_ok, pure_ok] at ran
    obtain ⟨_, -, _, -, _, -, _, -, _, -, _, -, released, releases, _, -, _, -, rfl⟩ := ran
    exact releaseAll_ownTables releases rfl rfl rfl
  | cancelOrder =>
    simp only [exec, Orders.Customer.cancel, bind_ok, pure_ok] at ran
    obtain ⟨_, -, _, -, _, -, _, -, _, -, _, -, _, -, released, releases, _, -, _, -, _, -, rfl⟩ := ran
    exact releaseAll_ownTables releases rfl rfl rfl
  | expireReservations =>
    simp only [exec, expireReservations, bind_ok] at ran
    obtain ⟨_, -, ran⟩ := ran
    split at ran
    next => exact (pure_ok _ _).1 ran ▸ ownTables_same rfl rfl rfl
    next =>
      simp only [bind_ok, pure_ok] at ran
      obtain ⟨_, -, _, -, rfl⟩ := ran
      exact ownTables_same rfl rfl rfl
  | _ =>
    have untouched := Frames.exec_writes ran .stock (by simp [Frames.areas])
    simp only [Frames.Area.Same, Prod.mk.injEq] at untouched
    obtain ⟨-, -, -, batches, adjustments, transfers⟩ := untouched
    exact ownTables_same batches adjustments transfers

end VapeCommerce.Inventory.Ledger
