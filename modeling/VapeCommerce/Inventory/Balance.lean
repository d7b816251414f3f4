import VapeCommerce.Inventory.Bookings

set_option autoImplicit false

-- Over any run the counters equal the ledger, and transfers only move stock between locations.
namespace VapeCommerce.Inventory.Balance

open VapeCommerce.Lib VapeCommerce.Lib.Outcome VapeCommerce.Schema VapeCommerce.Database
open VapeCommerce.Inventory.Admin VapeCommerce.Inventory.Ledger VapeCommerce.Inventory.Safety
open VapeCommerce.Inventory.Bookings VapeCommerce.System

abbrev Reconciled (db : Db) : Prop :=
  Journal.Balanced ledger (onHand db.items) db.movements

variable {db next : Db} {lot : Id × Option Id}

theorem exec_reconciled {now : Int} {op : Op} (reconciled : Reconciled db) (ran : exec db now op = .ok next) :
    Reconciled next := by
  obtain ⟨added, entries, books⟩ := exec_books ran
  unfold Reconciled
  rw [entries]
  exact reconciled.moves books.moves

variable (config : Config.Configuration) (orderSequence : Option Int) (start : Int)

theorem opening_reconciled : Reconciled (opening config orderSequence start).db :=
  Journal.Balanced.empty fun _ => rfl

theorem run_reconciled (labels : List Timed) :
    Reconciled (Runs.run step (opening config orderSequence start) labels).db :=
  run_keeps (fun _ db => Reconciled db) (fun _ _ _ _ reconciled => reconciled)
    (fun _ _ _ _ reconciled ran => exec_reconciled reconciled ran)
    (opening_reconciled config orderSequence start) labels

/-- In every reachable state what is on hand of an item is the sum of its ledger entries, and its last
    entry states it. -/
theorem stock_equals_ledger (labels : List Timed) :
    let reached := (Runs.run step (opening config orderSequence start) labels).db
    forall item, item ∈ reached.items.rows ->
      item.onHandQuantity =
          ((reached.movements.filter fun entry => entry.inventoryItemId == item.id).map
            (·.quantityDelta)).sum /\
        exists last,
          (reached.movements.filter fun entry => entry.inventoryItemId == item.id).getLast? = some last /\
            last.onHandAfter = item.onHandQuantity := by
  intro reached item member
  have reconciled : Reconciled reached := run_reconciled config orderSequence start labels
  have here := onHand_of_mem member
  obtain ⟨last, entered, stands⟩ := reconciled.closed item.id _ here
  refine ⟨(reconciled.counted item.id _ here).trans ?_, last, Eq.trans ?_ entered, stands⟩
  next =>
    rw [sum_filter]
    refine congrArg List.sum (List.map_congr_left fun entry _ => ?_)
    by_cases same : entry.inventoryItemId = item.id <;> simp [ledger, same]
  next => exact congrArg List.getLast? (List.filter_congr fun entry _ => beq_eq_decide _ _)

theorem dispatched_stock_explained :
    exists item, item ∈ (Sample.after Sample.dispatched).db.items.rows /\ item.onHandQuantity = 8 /\
      item.onHandQuantity = (((Sample.after Sample.dispatched).db.movements.filter fun entry =>
        entry.inventoryItemId == item.id).map (·.quantityDelta)).sum := by
  have items : (Sample.after Sample.dispatched).db.items.rows.any (·.onHandQuantity == 8) = true := by
    decide +kernel
  obtain ⟨item, member, found⟩ := List.any_eq_true.1 items
  exact ⟨item, member, beq_iff_eq.1 found,
    (stock_equals_ledger Sample.shop (some 0) 0 (Sample.timed Sample.dispatched) item member).1⟩

-- A lot of a variant, wherever it is stored.
def lotOf (items : Table InventoryItem.id) (itemId : Id) : Option (Id × Option Id) :=
  (items.find? itemId).map fun item => (item.variantId, item.lotKey)

def lotEntries (items : Table InventoryItem.id) (entries : List StockMovement) (lot : Id × Option Id) : Int :=
  (entries.map fun entry => if lotOf items entry.inventoryItemId = some lot then entry.quantityDelta else 0).sum

-- What is on hand of a lot over all locations.
def lotTotal (items : Table InventoryItem.id) (lot : Id × Option Id) : Int :=
  items.total fun item => if (item.variantId, item.lotKey) = lot then item.onHandQuantity else 0

section Lots

theorem lotOf_of_mem {items : Table InventoryItem.id} {item : InventoryItem} (member : item ∈ items.rows) :
    lotOf items item.id = some (item.variantId, item.lotKey) := by
  rw [lotOf, Table.find?_of_mem member, Option.map_some]

theorem lotEntries_append (items : Table InventoryItem.id) (entries added : List StockMovement)
    (lot : Id × Option Id) :
    lotEntries items (entries ++ added) lot = lotEntries items entries lot + lotEntries items added lot := by
  simp [lotEntries]

-- Rows keep their lot, so entries on known items count for the lots they counted for.
theorem lotEntries_kept {old new : Table InventoryItem.id}
    (kept : forall item, item ∈ old.rows -> exists row, row ∈ new.rows /\ SameBucket item row)
    {entries : List StockMovement}
    (known : forall entry, entry ∈ entries -> (onHand old entry.inventoryItemId).isSome = true)
    (lot : Id × Option Id) : lotEntries new entries lot = lotEntries old entries lot := by
  refine congrArg List.sum (List.map_congr_left fun entry member => ?_)
  obtain ⟨item, found⟩ : exists item, old.find? entry.inventoryItemId = some item := by
    simpa [onHand, Option.isSome_iff_exists] using known entry member
  obtain ⟨row, here, same⟩ := kept item (Table.find?_mem found)
  have unmoved : lotOf new entry.inventoryItemId = lotOf old entry.inventoryItemId := by
    rw [<- Table.find?_key found, lotOf_of_mem (Table.find?_mem found), <- same.id, lotOf_of_mem here,
      same.variant, same.lot]
  rw [unmoved]

theorem lotTotal_reconciled (reconciled : Reconciled db) (lot : Id × Option Id) :
    lotTotal db.items lot = lotEntries db.items db.movements lot := by
  have grouped := db.items.total_grouped db.movements StockMovement.inventoryItemId
    (fun entry => if lotOf db.items entry.inventoryItemId = some lot then entry.quantityDelta else 0)
    (fun entry member => by
      obtain ⟨amount, here⟩ := Option.isSome_iff_exists.1 (reconciled.known entry member)
      obtain ⟨item, found, -⟩ := Option.map_eq_some_iff.1 here
      exact ⟨item, Table.find?_mem found, Table.find?_key found⟩)
  rw [lotEntries, <- grouped]
  refine congrArg List.sum (List.map_congr_left fun item member => ?_)
  have counted := reconciled.counted item.id _ (onHand_of_mem member)
  split
  next same =>
    rw [counted]
    refine congrArg List.sum (List.map_congr_left fun entry _ => ?_)
    by_cases account : entry.inventoryItemId = item.id
    next => simp [ledger, account, lotOf_of_mem member, same]
    next =>
      have apart : Not (item.id = entry.inventoryItemId) := fun equal => account equal.symm
      simp [ledger, account, apart]
  next other =>
    refine (List.sum_eq_zero fun amount present => ?_).symm
    obtain ⟨entry, -, rfl⟩ := List.mem_map.1 present
    by_cases account : item.id = entry.inventoryItemId
    next => rw [if_pos account, <- account, lotOf_of_mem member, if_neg (by simpa using other)]
    next => exact if_neg account

end Lots

section Transfers

-- A transfer enters what leaves one item of a lot as what arrives at another item of it.
theorem transfer_pairs {sourceId actorUserId : Id} {input : TransferInventory} {key : Text} {now : Int}
    (ran : transfer db sourceId input key actorUserId now = .ok next) :
    next.movements = db.movements \/ exists left arrived,
      next.movements = db.movements ++ [left, arrived] /\ left.quantityDelta = -arrived.quantityDelta /\
        lotOf next.items left.inventoryItemId = lotOf next.items arrived.inventoryItemId := by
  have booked := transfer_books ran
  simp only [transfer, bind_ok] at ran
  obtain ⟨replay, -, ran⟩ := ran
  split at ran
  next => exact .inl (congrArg Db.movements ((pure_ok _ _).1 ran)).symm
  next =>
    simp only [bind_ok, orThrow_ok, pure_ok] at ran
    obtain ⟨source, found, _, -, _, -, _, -, _, -, withdrawn, -, ⟨items, destination⟩, arriving, _, -, rfl⟩ := ran
    refine .inr ⟨_, _, rfl, rfl, ?_⟩
    obtain ⟨added, -, books⟩ := booked
    obtain ⟨row, here, same⟩ := books.kept source (Table.find?_mem found)
    have left : lotOf items source.id = some (source.variantId, source.lotKey) := by
      rw [<- same.id, lotOf_of_mem here, same.variant, same.lot]
    unfold transferDestination at arriving
    split at arriving
    next target chosen =>
      simp only [Except.ok.injEq, Prod.mk.injEq] at arriving
      obtain ⟨rfl, rfl⟩ := arriving
      have matching := List.find?_some chosen
      simp only [Bool.and_eq_true, beq_iff_eq] at matching
      obtain ⟨other, there, alike⟩ := books.kept target (mem_findBucket chosen).1
      have arrived := lotOf_of_mem there
      rw [alike.id, alike.variant, alike.lot, matching.1.1, matching.2] at arrived
      exact left.trans arrived.symm
    next =>
      simp only [bind_ok, create_ok, pure_ok, Prod.mk.injEq] at arriving
      obtain ⟨inserted, created, rfl, rfl⟩ := arriving
      exact left.trans (lotOf_of_mem (Table.find?_mem (Table.find?_inserted created))).symm

/-- In every reachable state the stock of a lot over all locations is what its items have entered in the
    ledger, and whatever a transfer moves, every lot stays as it was. -/
theorem transfers_conserve_lots (labels : List Timed) (lot : Id × Option Id) :
    let reached := Runs.run step (opening config orderSequence start) labels
    lotTotal reached.db.items lot = lotEntries reached.db.items reached.db.movements lot /\
      forall sourceId input key actorUserId elapsed,
        lotTotal (step reached ⟨elapsed, .transfer sourceId input key actorUserId⟩).db.items lot =
          lotTotal reached.db.items lot := by
  intro reached
  have reconciled : Reconciled reached.db := run_reconciled config orderSequence start labels
  refine ⟨lotTotal_reconciled reconciled lot, fun sourceId input key actorUserId elapsed => ?_⟩
  rcases step_db reached ⟨elapsed, .transfer sourceId input key actorUserId⟩ with same | ran
  next => rw [same]
  next =>
    obtain ⟨added, entries, books⟩ := exec_books ran
    have kept := lotEntries_kept books.kept reconciled.known lot
    rw [lotTotal_reconciled (exec_reconciled reconciled ran), lotTotal_reconciled reconciled, <- kept]
    rcases transfer_pairs ran with same | ⟨left, arrived, pair, opposite, lots⟩
    next => rw [same]
    next =>
      rw [pair, lotEntries_append]
      simp only [lotEntries, List.map_cons, List.map_nil, List.sum_cons, List.sum_nil, lots, opposite]
      split <;> omega

end Transfers

end VapeCommerce.Inventory.Balance
