import VapeCommerce.Lib.Journal
import VapeCommerce.Inventory.Ledger
import VapeCommerce.Inventory.Safety

set_option autoImplicit false

-- Stock and its ledger move together: what an operation books is what it does to the counters.
namespace VapeCommerce.Inventory.Bookings

open VapeCommerce.Lib VapeCommerce.Lib.Outcome VapeCommerce.Schema VapeCommerce.Database
open VapeCommerce.Inventory.Admin VapeCommerce.Inventory.Ledger VapeCommerce.Inventory.Safety
open VapeCommerce.Orders.Admin VapeCommerce.Orders.Reservations VapeCommerce.Checkout.Order
open VapeCommerce.Checkout.Placement VapeCommerce.Checkout.Stock VapeCommerce.Worker.Expiry
open VapeCommerce.System

def ledger : Journal.Columns Id StockMovement where
  account := StockMovement.inventoryItemId
  delta := StockMovement.quantityDelta
  balance := StockMovement.onHandAfter

def onHand (items : Table InventoryItem.id) : Journal.Balances Id := fun itemId =>
  (items.find? itemId).map (·.onHandQuantity)

-- The row of a bucket, whatever is in it.
structure SameBucket (item row : InventoryItem) : Prop where
  id : row.id = item.id
  variant : row.variantId = item.variantId
  location : row.locationId = item.locationId
  batch : row.batchId = item.batchId
  lot : row.lotKey = item.lotKey

structure Books (old new : Table InventoryItem.id) (added : List StockMovement) : Prop where
  kept : forall item, item ∈ old.rows -> exists row, row ∈ new.rows /\ SameBucket item row
  moves : Journal.Moves ledger (onHand old) (onHand new) added

variable {old middle new : Table InventoryItem.id} {added more : List StockMovement} {db next : Db}

def Booked (db next : Db) : Prop :=
  exists added, next.movements = db.movements ++ added /\ Books db.items next.items added

theorem SameBucket.refl (item : InventoryItem) : SameBucket item item :=
  ⟨rfl, rfl, rfl, rfl, rfl⟩

theorem SameBucket.trans {first second third : InventoryItem} (one : SameBucket first second)
    (two : SameBucket second third) : SameBucket first third :=
  ⟨two.id.trans one.id, two.variant.trans one.variant, two.location.trans one.location,
    two.batch.trans one.batch, two.lot.trans one.lot⟩

theorem Books.refl (items : Table InventoryItem.id) : Books items items [] :=
  ⟨fun item member => ⟨item, member, SameBucket.refl item⟩, Journal.Moves.refl _⟩

theorem Books.trans (first : Books old middle added) (second : Books middle new more) :
    Books old new (added ++ more) where
  kept item member := by
    obtain ⟨between, there, same⟩ := first.kept item member
    obtain ⟨row, here, also⟩ := second.kept between there
    exact ⟨row, here, same.trans also⟩
  moves := first.moves.trans second.moves

theorem Booked.refl (db : Db) : Booked db db :=
  ⟨[], (List.append_nil _).symm, Books.refl _⟩

theorem onHand_of_mem {items : Table InventoryItem.id} {item : InventoryItem} (member : item ∈ items.rows) :
    onHand items item.id = some item.onHandQuantity := by
  rw [onHand, Table.find?_of_mem member, Option.map_some]

section Entries

variable {items : Table InventoryItem.id} {item : InventoryItem} {movement : StockMovement}

-- An entry that only records what an item has.
def Noted (items : Table InventoryItem.id) (movement : StockMovement) : Prop :=
  exists item, item ∈ items.rows /\ movement.inventoryItemId = item.id /\ movement.quantityDelta = 0 /\
    movement.onHandAfter = item.onHandQuantity

theorem Books.noted (noted : Noted items movement) : Books items items [movement] where
  kept := (Books.refl items).kept
  moves := by
    obtain ⟨item, member, account, still, stands⟩ := noted
    have here : onHand items (ledger.account movement) = some item.onHandQuantity :=
      (congrArg (onHand items) account).trans (onHand_of_mem member)
    refine Journal.Moves.one ?_ (fun _ _ => rfl) ?_
    next => rw [here, <- stands]; rfl
    next =>
      rw [here, Option.getD_some]
      exact stands.trans (by rw [show ledger.delta movement = 0 from still, Int.add_zero])

theorem Books.notes (each : forall movement, movement ∈ added -> Noted items movement) :
    Books items items added := by
  induction added with
  | nil => exact Books.refl items
  | cons movement rest ih =>
    have later := ih fun other there => each other (List.mem_cons_of_mem movement there)
    exact (Books.noted (each movement List.mem_cons_self)).trans later

-- An entry on the one item an update changes.
theorem Books.updated (member : item ∈ items.rows) {chosen : InventoryItem -> Bool}
    {change : InventoryItem -> InventoryItem} (keeps : forall row : InventoryItem, (change row).id = row.id)
    (hit : chosen item = true) (only : forall other, chosen other = true -> other.id = item.id)
    (same : forall row, SameBucket row (change row)) (account : movement.inventoryItemId = item.id)
    (stands : movement.onHandAfter = (change item).onHandQuantity)
    (sum : movement.onHandAfter = item.onHandQuantity + movement.quantityDelta) :
    Books items (items.update chosen change keeps) [movement] where
  kept row there := by
    refine ⟨Table.rewrite chosen change row, List.mem_map_of_mem there, ?_⟩
    cases picked : chosen row with
    | true => rw [Table.rewrite_chosen picked]; exact same row
    | false => rw [Table.rewrite_other picked]; exact SameBucket.refl row
  moves := by
    have found := fun wanted => @Table.find?_update_at _ _ _ _ items item member chosen change keeps hit only
      wanted
    have at_account : ledger.account movement = item.id := account
    refine Journal.Moves.one ?_ (fun key apart => ?_) ?_
    next => rw [onHand, found, if_pos at_account, Option.map_some]; exact congrArg some stands.symm
    next =>
      rw [at_account] at apart
      simp only [onHand, found, if_neg apart]
    next => rw [at_account, onHand_of_mem member]; exact sum

-- The first entry on a new item.
theorem Books.inserted (inserted : items.insert? item = some new) (account : movement.inventoryItemId = item.id)
    (stands : movement.onHandAfter = item.onHandQuantity)
    (sum : movement.quantityDelta = item.onHandQuantity) : Books items new [movement] where
  kept row there := ⟨row, by rw [(Table.insert?_rows inserted).1]; exact List.mem_append_left _ there,
    SameBucket.refl row⟩
  moves := by
    have at_account : ledger.account movement = item.id := account
    have absent : items.find? item.id = none :=
      (Table.find?_none _ _).2 fun other member => (Table.insert?_rows inserted).2 other member
    refine Journal.Moves.one ?_ (fun key apart => ?_) ?_
    next =>
      rw [onHand, Table.find?_insert? inserted, if_pos at_account.symm, Option.map_some]
      exact congrArg some stands.symm
    next =>
      rw [at_account] at apart
      rw [onHand, Table.find?_insert? inserted, if_neg (Ne.symm apart)]
      rfl
    next =>
      rw [at_account, onHand, absent, Option.map_none, Option.getD_none, Int.zero_add]
      exact stands.trans sum.symm

theorem guarded_id {item other : InventoryItem} {version : Nat}
    (hit : (other.id == item.id && other.version == version) = true) : other.id = item.id :=
  beq_iff_eq.1 (Bool.and_eq_true_iff.1 hit).1

theorem restocked_bucket (quantity : Int) (row : InventoryItem) : SameBucket row (restocked quantity row) :=
  ⟨rfl, rfl, rfl, rfl, rfl⟩

end Entries

section Operations

theorem createItem_books {input : CreateInventoryItem} {actorUserId : Id}
    (ran : createItem db input actorUserId = .ok next) :
    Booked db next := by
  simp only [createItem, bind_ok, createBucket, create_ok, pure_ok] at ran
  obtain ⟨_, -, _, -, items, ⟨_, -, inserted⟩, rfl⟩ := ran
  exact ⟨_, rfl, Books.inserted inserted rfl rfl rfl⟩

theorem receiptItem_books {input : CreateBatchReceipt} {batchId : Id} {items : Table InventoryItem.id}
    {item : InventoryItem} (ran : receiptItem db input batchId = .ok (items, item)) {movement : StockMovement}
    (account : movement.inventoryItemId = item.id) (stands : movement.onHandAfter = item.onHandQuantity)
    (sum : movement.quantityDelta = input.quantity.value) : Books db.items items [movement] := by
  unfold receiptItem at ran
  split at ran
  next bucket found =>
    simp only [bind_ok, pure_ok, Prod.mk.injEq] at ran
    obtain ⟨_, -, rfl, rfl⟩ := ran
    exact Books.updated (mem_findBucket found).1 (restocked_id _) (by simp) (fun other hit => beq_iff_eq.1 hit)
      (restocked_bucket _) account stands (stands.trans (by rw [sum]; rfl))
  next =>
    simp only [bind_ok, create_ok, pure_ok, Prod.mk.injEq] at ran
    obtain ⟨inserted, created, rfl, rfl⟩ := ran
    exact Books.inserted created account stands sum

theorem receiveBatch_books {input : CreateBatchReceipt} {key : Text} {actorUserId : Id} {now : Int}
    (ran : receiveBatch db input key actorUserId now = .ok next) :
    Booked db next := by
  simp only [receiveBatch, bind_ok] at ran
  obtain ⟨replay, -, ran⟩ := ran
  split at ran
  next => exact (pure_ok _ _).1 ran ▸ Booked.refl _
  next =>
    simp only [bind_ok, pure_ok] at ran
    obtain ⟨_, -, _, -, ⟨batches, batchId⟩, -, ⟨items, item⟩, received, rfl⟩ := ran
    exact ⟨_, rfl, receiptItem_books received rfl rfl rfl⟩

theorem applyAdjustment_books {pending : InventoryAdjustment} {current : InventoryItem} {actorUserId : Id}
    {now : Int} (found : db.items.find? pending.inventoryItemId = some current)
    (ran : applyAdjustment db pending current actorUserId now = .ok next) :
    Booked db next := by
  simp only [applyAdjustment, bind_ok, updateOne_ok, pure_ok] at ran
  obtain ⟨_, -, _, -, items, ⟨one, rfl⟩, rfl⟩ := ran
  have member := Table.find?_mem found
  exact ⟨_, rfl, Books.updated member (restocked_id _)
    (Table.count_one_hit one member fun _ => guarded_id) (fun _ => guarded_id) (restocked_bucket _) rfl rfl rfl⟩

theorem decideAdjustment_books {id actorUserId : Id} {decision : AdjustmentDecision} {reason : Option Text}
    {now : Int} {decided : Decided}
    (ran : decideAdjustment db id decision reason actorUserId now = .ok (next, decided)) :
    Booked db next := by
  rcases decideAdjustment_shape ran with ⟨adjustments, rfl⟩ | ⟨pending, current, -, found, applied⟩
  next => exact Booked.refl db
  next => exact applyAdjustment_books found applied

-- What leaves the source arrives in another bucket, which the withdrawal has left alone.
theorem transfer_books {sourceId actorUserId : Id} {input : TransferInventory} {key : Text} {now : Int}
    (ran : transfer db sourceId input key actorUserId now = .ok next) :
    Booked db next := by
  simp only [transfer, bind_ok] at ran
  obtain ⟨replay, -, ran⟩ := ran
  split at ran
  next => exact (pure_ok _ _).1 ran ▸ Booked.refl _
  next =>
    simp only [bind_ok, throwIf_ok, orThrow_ok, updateOne_ok, calculateInventoryTransfer, pure_ok] at ran
    obtain ⟨source, found, ⟨⟩, apart, _, -, _, -, _, ⟨⟨⟩, -, ⟨⟩, -, rfl⟩, withdrawn, ⟨one, rfl⟩,
      ⟨items, destination⟩, booked, transfers, -, rfl⟩ := ran
    have member := Table.find?_mem found
    have left := @Books.updated db.items source
      { movementOf source .transferOut (-input.quantity.value) (source.onHandQuantity - input.quantity.value)
          .inventoryTransfer input.transferId actorUserId with
        idempotencyKeyHash := some (scopedKey "transfer-out" actorUserId key)
        requestFingerprint := some (.transfer sourceId input.destinationLocationId input.quantity.value
          input.expectedSourceVersion (trimmedOrNull input.note)) } member _ _ (restocked_id _)
      (Table.count_one_hit one member fun _ => guarded_id) (fun _ => guarded_id) (restocked_bucket _) rfl rfl rfl
    refine ⟨_, rfl, left.trans ?_⟩
    unfold transferDestination at booked
    split at booked
    next target chosen =>
      simp only [Except.ok.injEq, Prod.mk.injEq] at booked
      obtain ⟨rfl, rfl⟩ := booked
      obtain ⟨present, here⟩ := mem_findBucket chosen
      have other : target.id ≠ source.id := fun same => by
        rw [db.items.same_of_key present member same] at here
        exact apart here
      have still : target ∈ (db.items.update (fun row =>
          row.id == source.id && row.version == input.expectedSourceVersion)
            (restocked (source.onHandQuantity - input.quantity.value)) (restocked_id _)).rows :=
        List.mem_map.2 ⟨target, present, Table.rewrite_other (by simp [other])⟩
      exact Books.updated still (restocked_id _) (by simp) (fun row hit => beq_iff_eq.1 hit)
        (restocked_bucket _) rfl rfl rfl
    next =>
      simp only [bind_ok, create_ok, pure_ok, Prod.mk.injEq] at booked
      obtain ⟨inserted, created, rfl, rfl⟩ := booked
      exact Books.inserted created rfl rfl rfl

theorem releaseMovement_noted {reservations : List StockReservation} {referenceId actorUserId : Option Id}
    {failure : Failure} {row : StockReservation} {movement : StockMovement}
    (ran : releaseMovement (itemsOf db.items reservations) referenceId actorUserId failure row = .ok movement) :
    Noted db.items movement := by
  simp only [releaseMovement, bind_ok, orThrow_ok, pure_ok] at ran
  obtain ⟨item, found, _, -, rfl⟩ := ran
  exact ⟨item, (List.mem_filter.1 (List.mem_of_find?_eq_some found)).1, rfl, rfl, rfl⟩

theorem releaseAll_notes {orderId actorUserId : Id} (ran : releaseAll db orderId actorUserId = .ok next) :
    Extends (Noted db.items) db.movements next.movements /\ next.items = db.items := by
  simp only [releaseAll, lockActiveInventory, bind_ok, pure_ok] at ran
  obtain ⟨locked, ⟨_, -, rfl⟩, ran⟩ := ran
  split at ran
  next => exact (pure_ok _ _).1 ran ▸ ⟨Extends.refl _, rfl⟩
  next =>
    simp only [bind_ok, pure_ok] at ran
    obtain ⟨reservations, -, movements, released, rfl⟩ := ran
    refine ⟨⟨movements, rfl, fun movement member => ?_⟩, rfl⟩
    obtain ⟨row, -, made⟩ := mapM_ok_mem released member
    exact releaseMovement_noted made

theorem consumeItem_books {order : Order} {actorUserId : Id} {reservations : List StockReservation}
    {inventory : InventoryItem} {state after : Table InventoryItem.id × List StockMovement}
    (member : inventory ∈ state.1.rows)
    (ran : consumeItem order actorUserId reservations state inventory = .ok after) :
    exists movement, after.2 = state.2 ++ [movement] /\ Books state.1 after.1 [movement] /\
      forall other, other ∈ state.1.rows -> other.id ≠ inventory.id -> other ∈ after.1.rows := by
  simp only [consumeItem, bind_ok, updateOne_ok, pure_ok] at ran
  obtain ⟨_, -, items, ⟨one, rfl⟩, rfl⟩ := ran
  have only : forall other : InventoryItem, (other.id == inventory.id && other.version == inventory.version &&
      decide (other.onHandQuantity >= reservedIn reservations inventory.id)) = true ->
        other.id = inventory.id :=
    fun other hit => guarded_id (Bool.and_eq_true_iff.1 hit).1
  refine ⟨_, rfl, ?_, fun other there apart => ?_⟩
  next =>
    refine Books.updated member ?_ (Table.count_one_hit one member only) only (fun _ => ?_) rfl rfl ?_
    next => exact fun _ => rfl
    next => exact ⟨rfl, rfl, rfl, rfl, rfl⟩
    next => exact Int.sub_eq_add_neg
  next =>
    refine List.mem_map.2 ⟨other, there, Table.rewrite_other ?_⟩
    exact Bool.eq_false_iff.2 fun hit => apart (only other hit)

theorem consumeItems_books {order : Order} {actorUserId : Id} {reservations : List StockReservation}
    {consumed : List InventoryItem} {state after : Table InventoryItem.id × List StockMovement}
    (distinct : (consumed.map (·.id)).Nodup) (known : forall item, item ∈ consumed -> item ∈ state.1.rows)
    (ran : consumed.foldlM (consumeItem order actorUserId reservations) state = .ok after) :
    exists added, after.2 = state.2 ++ added /\ Books state.1 after.1 added := by
  induction consumed generalizing state with
  | nil =>
    obtain rfl := (pure_ok _ _).1 ran
    exact ⟨[], (List.append_nil _).symm, Books.refl _⟩
  | cons first rest ih =>
    simp only [List.foldlM_cons, bind_ok] at ran
    obtain ⟨between, round, later⟩ := ran
    rw [List.map_cons, List.nodup_cons] at distinct
    obtain ⟨movement, entered, booked, others⟩ := consumeItem_books (known first List.mem_cons_self) round
    obtain ⟨added, entries, books⟩ := ih distinct.2 (fun item member =>
      others item (known item (List.mem_cons_of_mem first member)) fun same =>
        distinct.1 (same ▸ List.mem_map_of_mem member)) later
    exact ⟨movement :: added, by rw [entries, entered, List.append_assoc]; rfl, booked.trans books⟩

theorem confirm_books {id actorUserId : Id} {expectedVersion : Nat} {now : Int}
    (ran : confirm db id expectedVersion actorUserId now = .ok next) :
    Booked db next := by
  simp only [confirm, lockActiveInventory, bind_ok, pure_ok] at ran
  obtain ⟨operation, -, _, -, _, -, _, -, _, -, locked, ⟨_, -, rfl⟩, _, -, ⟨items, movements⟩, consumed, _, -,
    _, -, _, -, rfl⟩ := ran
  have distinct : ((itemsOf db.items (activeOf db operation.order.id)).map (·.id)).Nodup :=
    (List.filter_sublist.map _).nodup db.items.distinct
  exact consumeItems_books distinct (fun item member => (List.mem_filter.1 member).1) consumed

theorem expireReservations_notes {cutoff : Int} {batchSize : Nat} {now : Int}
    (ran : expireReservations db cutoff batchSize now = .ok next) :
    Extends (Noted db.items) db.movements next.movements /\ next.items = db.items := by
  simp only [expireReservations, bind_ok] at ran
  obtain ⟨_, -, ran⟩ := ran
  split at ran
  next => exact (pure_ok _ _).1 ran ▸ ⟨Extends.refl _, rfl⟩
  next =>
    simp only [bind_ok, pure_ok] at ran
    obtain ⟨_, -, ⟨reservations, movements⟩, expired, rfl⟩ := ran
    refine ⟨foldlM_keeps (fun state : Table StockReservation.id × List StockMovement =>
      Extends (Noted db.items) db.movements state.2) _ _ (fun state row after _ kept round => ?_)
      (db.reservations, db.movements) (reservations, movements) (Extends.refl _) expired, rfl⟩
    simp only [expireOne, bind_ok] at round
    obtain ⟨movement, made, round⟩ := round
    split at round
    next => exact (pure_ok _ _).1 round ▸ kept
    next =>
      obtain rfl := (pure_ok _ _).1 round
      exact kept.trans (Extends.one (releaseMovement_noted made))

theorem create_notes {call : CheckoutCall} {now : Int} {orderId : Id}
    (ran : Checkout.Order.create db call now = .ok (next, orderId)) :
    Extends (Noted db.items) db.movements next.movements /\ next.items = db.items := by
  rcases create_cases ran with rfl | ⟨placement, -, ⟨prepared⟩, placed⟩
  next => exact ⟨Extends.refl _, rfl⟩
  next =>
    rw [placed.rest]
    refine ⟨⟨placement.movements, rfl, fun movement member => ?_⟩, rfl⟩
    obtain ⟨allocation, -, made⟩ := mapM_ok_mem prepared.ledgered member
    simp only [reservationMovement, bind_ok, orThrow_ok, pure_ok] at made
    obtain ⟨item, found, rfl⟩ := made
    have priced := prepared.priced
    simp only [priceOrder, bind_ok, pure_ok] at priced
    obtain ⟨_, -, _, -, _, -, _, -, _, -, _, -, _, -, _, -, same⟩ := priced
    have stocked := List.mem_of_find?_eq_some found
    rw [<- same] at stocked
    have known : item ∈ orderInventory db now (call.input.items.map (·.variantId)) := stocked
    exact ⟨item, (mem_orderInventory known).1, rfl, rfl, rfl⟩

theorem noted_books (noted : Extends (Noted db.items) db.movements next.movements)
    (same : next.items = db.items) : Booked db next := by
  obtain ⟨added, entries, each⟩ := noted
  refine ⟨added, entries, ?_⟩
  rw [same]
  exact Books.notes each

/-- What an operation does to the stock is what it enters in the ledger. -/
theorem exec_books {now : Int} {op : Op} (ran : exec db now op = .ok next) :
    Booked db next := by
  cases op with
  | createItem => exact createItem_books ran
  | receiveBatch => exact receiveBatch_books ran
  | adjust =>
    simp only [exec, adjust, bind_ok, pure_ok] at ran
    obtain ⟨_, -, _, -, _, -, _, -, _, -, _, -, rfl⟩ := ran
    exact Booked.refl db
  | decideAdjustment =>
    obtain ⟨⟨after, decided⟩, decides, rfl⟩ := (map_ok _ _ _).1 ran
    exact decideAdjustment_books decides
  | transfer => exact transfer_books ran
  | createOrder =>
    obtain ⟨⟨after, orderId⟩, created, rfl⟩ := (map_ok _ _ _).1 ran
    obtain ⟨noted, items⟩ := create_notes created
    exact noted_books noted items
  | confirm => exact confirm_books ran
  | terminate =>
    simp only [exec, terminate, bind_ok, pure_ok] at ran
    obtain ⟨_, -, _, -, _, -, _, -, _, -, _, -, released, releases, _, -, _, -, rfl⟩ := ran
    obtain ⟨noted, items⟩ := releaseAll_notes releases
    exact noted_books noted items
  | cancelOrder =>
    simp only [exec, Orders.Customer.cancel, bind_ok, pure_ok] at ran
    obtain ⟨_, -, _, -, _, -, _, -, _, -, _, -, _, -, released, releases, _, -, _, -, _, -, rfl⟩ := ran
    obtain ⟨noted, items⟩ := releaseAll_notes releases
    exact noted_books noted items
  | expireReservations =>
    obtain ⟨noted, items⟩ := expireReservations_notes ran
    exact noted_books noted items
  | _ =>
    have same := Frames.exec_writes ran .stock (by simp [Frames.areas])
    simp only [Frames.Area.Same, Prod.mk.injEq] at same
    refine noted_books ?_ same.1
    rw [same.2.2.1]
    exact Extends.refl _

end Operations

end VapeCommerce.Inventory.Bookings
