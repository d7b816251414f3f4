import VapeCommerce.Inventory.Backing
import VapeCommerce.Orders.Intake

set_option autoImplicit false

-- The stock of an order leaves once, with its confirmation, and never otherwise.
namespace VapeCommerce.Inventory.Consumption

open VapeCommerce.Lib VapeCommerce.Lib.Outcome VapeCommerce.Schema VapeCommerce.Database
open VapeCommerce.Inventory.Admin VapeCommerce.Inventory.Ledger VapeCommerce.Inventory.Bookings
open VapeCommerce.Inventory.Backing VapeCommerce.Inventory.Safety VapeCommerce.Checkout.Placement
open VapeCommerce.Orders.Admin VapeCommerce.Orders.Reservations VapeCommerce.Orders.Case
open VapeCommerce.Orders.Progress VapeCommerce.Orders.Transactions VapeCommerce.Orders.Steps
open VapeCommerce.Orders.Intake VapeCommerce.Orders.Runs VapeCommerce.Worker.Expiry
open VapeCommerce.Cash.Operations VapeCommerce.System

def refersTo (orderId : Id) (movement : StockMovement) : Bool :=
  movement.referenceType == some .order && movement.referenceId == some orderId

-- What the entries that refer to an order have moved of the chosen items.
def movedFor (movements : List StockMovement) (orderId : Id) (chosen : Id -> Bool) : Int :=
  (movements.map fun movement =>
    if refersTo orderId movement && chosen movement.inventoryItemId then movement.quantityDelta else 0).sum

def consumedBy (orderId : Id) (chosen : Id -> Bool) (row : StockReservation) : Bool :=
  row.orderId == orderId && row.state == .consumed && chosen row.inventoryItemId

-- The states of an order's reservations follow from whether it was ever confirmed.
structure Settled (reservations : List StockReservation) (case : OrderCase) : Prop where
  confirmed : Confirmed case.history ->
    forall row, row ∈ reservations -> row.orderId = case.order.id -> row.state = .consumed
  unconfirmed : Not (Confirmed case.history) ->
    forall row, row ∈ reservations -> row.orderId = case.order.id -> row.state ≠ .consumed
  cancelled : case.order.status = .cancelled ->
    forall row, row ∈ reservations -> row.orderId = case.order.id -> row.state ≠ .active

structure Accounted (db : Db) : Prop where
  told : forall orderId case, IsCase db orderId case -> Told case
  backed : forall orderId case, IsCase db orderId case -> Backed db.items db.reservations.rows case.order
  settled : forall orderId case, IsCase db orderId case -> Settled db.reservations.rows case
  owned : forall row, row ∈ db.reservations.rows -> exists case, IsCase db row.orderId case
  balanced : forall orderId chosen,
    movedFor db.movements orderId chosen = -quantityOf db.reservations.rows (consumedBy orderId chosen)

variable {db next : Db}

theorem movedFor_append (movements added : List StockMovement) (orderId : Id) (chosen : Id -> Bool) :
    movedFor (movements ++ added) orderId chosen =
      movedFor movements orderId chosen + movedFor added orderId chosen := by
  simp [movedFor]

theorem movedFor_still {added : List StockMovement} {orderId : Id}
    (still : forall movement, movement ∈ added -> refersTo orderId movement = true -> movement.quantityDelta = 0)
    (chosen : Id -> Bool) : movedFor added orderId chosen = 0 := by
  refine List.sum_eq_zero fun amount member => ?_
  obtain ⟨movement, present, rfl⟩ := List.mem_map.1 member
  cases refers : refersTo orderId movement with
  | false => simp
  | true => simp [still movement present refers]

section Settling

-- A reservation keeps its state, or is given up while it is active.
def Releases (row : StockReservation) (state : StockReservationState) : Prop :=
  state = row.state \/ (row.state = .active /\ state ≠ .active /\ state ≠ .consumed)

def Released (before after : List StockReservation) : Prop :=
  exists state, after = before.map (restated state) /\ forall row, Releases row (state row)

-- The stock side of an operation that neither checks an order out nor confirms one.
structure Quiet (db next : Db) : Prop where
  released : Released db.reservations.rows next.reservations.rows
  still : Extends (fun movement => forall orderId, refersTo orderId movement = true -> movement.quantityDelta = 0)
    db.movements next.movements

theorem unchanged_released (rows : List StockReservation) : Released rows rows :=
  ⟨(·.state), (List.map_id rows).symm, fun _ => .inl rfl⟩

theorem released_trans {first second third : List StockReservation} (one : Released first second)
    (two : Released second third) : Released first third := by
  obtain ⟨state, rfl, releases⟩ := one
  obtain ⟨later, rfl, after⟩ := two
  refine ⟨fun row => later (restated state row), List.map_map, fun row => ?_⟩
  rcases after (restated state row) with same | ⟨active, idle, unused⟩
  next =>
    have unmoved : later (restated state row) = state row := same
    simpa only [unmoved] using releases row
  next =>
    rcases releases row with same | ⟨-, idleBefore, -⟩
    next => exact .inr ⟨same ▸ active, idle, unused⟩
    next => exact absurd active idleBefore

theorem Noted.still {items : Table InventoryItem.id} {movement : StockMovement} (noted : Noted items movement)
    (orderId : Id) (_ : refersTo orderId movement = true) : movement.quantityDelta = 0 := by
  obtain ⟨_, -, -, still, -⟩ := noted
  exact still

theorem rewrite_restates (chosen : StockReservation -> Bool) (state : StockReservationState)
    (row : StockReservation) : Table.rewrite chosen (fun row => { row with state }) row =
      restated (fun row => if chosen row then state else row.state) row := by
  cases hit : chosen row with
  | true => simp [restated, hit]
  | false => simp [restated, hit]

-- Settling what was locked of an order settles all that was active of it.
theorem settle_restates {orderId : Id} {state : StockReservationState} {table : Table StockReservation.id}
    (ran : settle db.reservations (activeOf db orderId) state = .ok table) :
    table.rows = db.reservations.rows.map (restated fun row =>
      if row.orderId = orderId /\ row.state = .active then state else row.state) := by
  simp only [settle, bind_ok, throwIf_ok, pure_ok] at ran
  obtain ⟨_, -, rfl⟩ := ran
  refine List.map_congr_left fun row member => ?_
  have chosen : (decide (row.id ∈ (activeOf db orderId).map (·.id)) && row.state == .active) =
      decide (row.orderId = orderId /\ row.state = .active) := by
    rw [Bool.eq_iff_iff, Bool.and_eq_true, decide_eq_true_eq, decide_eq_true_eq, beq_iff_eq]
    constructor
    next =>
      rintro ⟨listed, active⟩
      obtain ⟨other, locked, same⟩ := List.mem_map.1 listed
      obtain ⟨present, matching⟩ := List.mem_filter.1 locked
      obtain rfl := db.reservations.same_of_key present member same
      exact ⟨by simpa using (Bool.and_eq_true_iff.1 matching).1, active⟩
    next =>
      intro mine
      have locked : row ∈ activeOf db orderId := List.mem_filter.2 ⟨member, by simp [mine]⟩
      exact ⟨List.mem_map_of_mem locked, mine.2⟩
  rw [rewrite_restates]
  simp only [restated, chosen, decide_eq_true_eq]

-- A cancellation gives up everything the order still holds.
theorem releaseAll_restates {orderId actorUserId : Id} (ran : releaseAll db orderId actorUserId = .ok next) :
    next.reservations.rows = db.reservations.rows.map (restated fun row =>
      if row.orderId = orderId /\ row.state = .active then .released else row.state) := by
  simp only [releaseAll, lockActiveInventory, bind_ok, pure_ok] at ran
  obtain ⟨locked, ⟨_, -, rfl⟩, ran⟩ := ran
  split at ran
  next none =>
    obtain rfl := (pure_ok _ _).1 ran
    refine ((List.map_congr_left fun row member => ?_).trans (List.map_id _)).symm
    have idle : Not (row.orderId = orderId /\ row.state = .active) := fun mine => by
      have locked : row ∈ activeOf db orderId := List.mem_filter.2 ⟨member, by simp [mine]⟩
      have empty : activeOf db orderId = [] := List.isEmpty_iff.1 none
      simp [empty] at locked
    rw [restated, if_neg idle]
    rfl
  next =>
    simp only [bind_ok, pure_ok] at ran
    obtain ⟨reservations, settled, movements, -, rfl⟩ := ran
    exact settle_restates settled

theorem releaseAll_released {orderId actorUserId : Id} (ran : releaseAll db orderId actorUserId = .ok next) :
    Released db.reservations.rows next.reservations.rows := by
  refine ⟨_, releaseAll_restates ran, fun row => ?_⟩
  by_cases mine : row.orderId = orderId /\ row.state = .active
  next => exact .inr ⟨mine.2, by simp [mine], by simp [mine]⟩
  next => exact .inl (if_neg mine)

theorem releaseAll_quiet {orderId actorUserId : Id} (ran : releaseAll db orderId actorUserId = .ok next) :
    Quiet db next :=
  ⟨releaseAll_released ran, (releaseAll_notes ran).1.weaken fun _ => Noted.still⟩

theorem expireReservations_quiet {cutoff : Int} {batchSize : Nat} {now : Int}
    (ran : expireReservations db cutoff batchSize now = .ok next) : Quiet db next where
  still := (expireReservations_notes ran).1.weaken fun _ => Noted.still
  released := by
    simp only [expireReservations, bind_ok] at ran
    obtain ⟨_, -, ran⟩ := ran
    split at ran
    next => exact (pure_ok _ _).1 ran ▸ unchanged_released _
    next =>
      simp only [bind_ok, pure_ok] at ran
      obtain ⟨_, -, ⟨reservations, movements⟩, expired, rfl⟩ := ran
      refine foldlM_keeps (fun state : Table StockReservation.id × List StockMovement =>
        Released db.reservations.rows state.1.rows) _ _ (fun state row after _ kept round => ?_)
        (db.reservations, db.movements) (reservations, movements) (unchanged_released _) expired
      simp only [expireOne, bind_ok] at round
      obtain ⟨movement, -, round⟩ := round
      split at round
      next => exact (pure_ok _ _).1 round ▸ kept
      next =>
        obtain rfl := (pure_ok _ _).1 round
        refine released_trans kept ⟨_, List.map_congr_left fun other _ => rewrite_restates _ _ other,
          fun other => ?_⟩
        cases hit : other.id == row.id && due cutoff other with
        | true =>
          simp only [Bool.and_eq_true, due, beq_iff_eq] at hit
          exact .inr ⟨hit.2.1, by simp, by simp⟩
        | false => exact .inl (by simp)

theorem sameReservations_quiet {now : Int} {op : Op} (ran : exec db now op = .ok next)
    (same : next.reservations = db.reservations)
    (elsewhere : forall movement, Posts op movement -> movement.referenceType ≠ some .order) : Quiet db next where
  released := same ▸ unchanged_released _
  still := (exec_extends ran).weaken fun movement posts orderId refers => by
    simp [refersTo, elsewhere movement posts] at refers

theorem exec_quiet {now : Int} {op : Op} (ran : exec db now op = .ok next)
    (placed : forall call, op ≠ .createOrder call)
    (confirmed : forall id version actor, op ≠ .confirm id version actor) : Quiet db next := by
  cases op with
  | createOrder call => exact absurd rfl (placed call)
  | confirm id version actor => exact absurd rfl (confirmed id version actor)
  | createItem =>
    refine sameReservations_quiet ran ?_ fun movement posts => by simp [posts.1]
    simp only [exec, createItem, bind_ok, pure_ok] at ran
    obtain ⟨_, -, _, -, _, -, rfl⟩ := ran
    rfl
  | receiveBatch =>
    refine sameReservations_quiet ran ?_ fun movement posts => by simp [posts.1]
    simp only [exec, receiveBatch, bind_ok] at ran
    obtain ⟨_, -, ran⟩ := ran
    split at ran
    next => exact (pure_ok _ _).1 ran ▸ rfl
    next =>
      simp only [bind_ok, pure_ok] at ran
      obtain ⟨_, -, _, -, _, -, _, -, rfl⟩ := ran
      rfl
  | adjust =>
    refine sameReservations_quiet ran ?_ fun movement posts => posts.elim
    simp only [exec, adjust, bind_ok, pure_ok] at ran
    obtain ⟨_, -, _, -, _, -, _, -, _, -, _, -, rfl⟩ := ran
    rfl
  | decideAdjustment =>
    refine sameReservations_quiet ran ?_ fun movement posts => by simp [posts.1]
    obtain ⟨⟨after, decided⟩, decides, rfl⟩ := (map_ok _ _ _).1 ran
    rcases decideAdjustment_shape decides with ⟨adjustments, rfl⟩ | ⟨pending, current, -, -, applied⟩
    next => rfl
    next =>
      simp only [applyAdjustment, bind_ok, pure_ok] at applied
      obtain ⟨_, -, _, -, _, -, rfl⟩ := applied
      rfl
  | transfer =>
    refine sameReservations_quiet ran ?_ fun movement posts => by simp [posts.1]
    simp only [exec, transfer, bind_ok] at ran
    obtain ⟨_, -, ran⟩ := ran
    split at ran
    next => exact (pure_ok _ _).1 ran ▸ rfl
    next =>
      simp only [bind_ok, pure_ok] at ran
      obtain ⟨_, -, _, -, _, -, _, -, _, -, _, -, _, -, _, -, rfl⟩ := ran
      rfl
  | terminate =>
    simp only [exec, terminate, bind_ok, pure_ok] at ran
    obtain ⟨_, -, _, -, _, -, _, -, _, -, _, -, released, releases, _, -, _, -, rfl⟩ := ran
    obtain ⟨given, still⟩ := releaseAll_quiet releases
    exact ⟨given, still⟩
  | cancelOrder =>
    simp only [exec, Orders.Customer.cancel, bind_ok, pure_ok] at ran
    obtain ⟨_, -, _, -, _, -, _, -, _, -, _, -, _, -, released, releases, _, -, _, -, _, -, rfl⟩ := ran
    obtain ⟨given, still⟩ := releaseAll_quiet releases
    exact ⟨given, still⟩
  | expireReservations => exact expireReservations_quiet ran
  | _ =>
    have same := Frames.exec_writes ran .stock (by simp [Frames.areas])
    simp only [Frames.Area.Same, Prod.mk.injEq] at same
    refine ⟨same.2.1 ▸ unchanged_released _, ?_⟩
    rw [same.2.2.1]
    exact Extends.refl _

end Settling

section Quiet

-- What an operation leaves of what the stock of an order is judged by.
def Unmoved (db next : Db) (orderId : Id) (after : OrderCase) : Prop :=
  exists case, IsCase db orderId case /\ after.order.items = case.order.items /\
    (Confirmed after.history <-> Confirmed case.history) /\
    (after.order.status = .cancelled -> case.order.status = .cancelled \/
      forall row, row ∈ next.reservations.rows -> row.orderId = orderId -> row.state ≠ .active)

theorem written_case {changedId orderId : Id} {was later after : OrderCase} (linked : Linked db)
    (ids : orderIds next = orderIds db) (is : IsCase db changedId was) (writes : Writes db next was later)
    (here : IsCase next orderId after) :
    (orderId = changedId /\ after = later) \/ (orderId ≠ changedId /\ IsCase db orderId after) := by
  by_cases same : orderId = changedId
  next => exact .inl ⟨same, (here.unique (same ▸ writes.here is))⟩
  next =>
    have known : orderId ∈ orderIds db := by
      rw [<- ids, <- here.order_id]
      exact List.mem_map_of_mem here.order_mem
    obtain ⟨order, member, rfl⟩ := List.mem_map.1 known
    obtain ⟨case, before, -⟩ := linked.case_exists member
    obtain rfl := (writes.elsewhere is same before).unique here
    exact .inr ⟨same, before⟩

theorem Cancels.unmoved {changedId actorUserId : Id} {reasonCode : Text} {was : OrderCase} {released : Db}
    (linked : Linked db) (cancels : Cancels db next changedId actorUserId reasonCode was released)
    {orderId : Id} {after : OrderCase} (here : IsCase next orderId after) : Unmoved db next orderId after := by
  rcases written_case linked cancels.writes.orderIds cancels.is cancels.writes here with
    ⟨rfl, rfl⟩ | ⟨-, before⟩
  next =>
    refine ⟨was, cancels.is, rfl, ⟨?_, fun confirmed => confirmed.append _⟩, fun _ => .inr ?_⟩
    next =>
      rintro ⟨entry, member, status⟩
      rcases List.mem_append.1 member with old | new
      next => exact ⟨entry, old, status⟩
      next =>
        rw [List.mem_singleton.1 new] at status
        simp [historyEntry] at status
    next =>
      rw [cancels.reservations, releaseAll_restates cancels.releases]
      intro row member mine
      obtain ⟨old, -, rfl⟩ := List.mem_map.1 member
      have own : old.orderId = orderId := mine
      by_cases active : old.state = .active
      next => simp [restated, own, active]
      next => simp [restated, active]
  next => exact ⟨after, before, rfl, Iff.rfl, .inl⟩

theorem Releases.consumed {row : StockReservation} {state : StockReservationState}
    (releases : Releases row state) : state = .consumed <-> row.state = .consumed := by
  rcases releases with rfl | ⟨active, -, unused⟩
  next => exact Iff.rfl
  next => simp [active, unused]

theorem Releases.active {row : StockReservation} {state : StockReservationState}
    (releases : Releases row state) (still : state = .active) : row.state = .active := by
  rcases releases with rfl | ⟨active, -, -⟩
  next => exact still
  next => exact active

theorem Settled.released {reservations : List StockReservation} {case after : OrderCase}
    {state : StockReservation -> StockReservationState} (settled : Settled reservations case)
    (releases : forall row, row.orderId = case.order.id -> Releases row (state row))
    (id : after.order.id = case.order.id)
    (history : Confirmed after.history <-> Confirmed case.history)
    (gone : after.order.status = .cancelled -> case.order.status = .cancelled \/
      forall row, row ∈ reservations.map (restated state) -> row.orderId = case.order.id -> row.state ≠ .active) :
    Settled (reservations.map (restated state)) after where
  confirmed known row member mine := by
    obtain ⟨old, there, rfl⟩ := List.mem_map.1 member
    have own := mine.trans id
    exact (releases old own).consumed.2 (settled.confirmed (history.1 known) old there own)
  unconfirmed unknown row member mine used := by
    obtain ⟨old, there, rfl⟩ := List.mem_map.1 member
    have own := mine.trans id
    exact settled.unconfirmed (fun known => unknown (history.2 known)) old there own
      ((releases old own).consumed.1 used)
  cancelled status row member mine active := by
    rcases gone status with before | idle
    next =>
      obtain ⟨old, there, rfl⟩ := List.mem_map.1 member
      have own := mine.trans id
      exact settled.cancelled before old there own ((releases old own).active active)
    next => exact idle row member (mine.trans id) active

theorem Settled.append {reservations added : List StockReservation} {case : OrderCase}
    (settled : Settled reservations case) (others : forall row, row ∈ added -> row.orderId ≠ case.order.id) :
    Settled (reservations ++ added) case := by
  have kept : forall row, row ∈ reservations ++ added -> row.orderId = case.order.id -> row ∈ reservations :=
    fun row member own => (List.mem_append.1 member).resolve_right fun new => others row new own
  exact ⟨fun known row member own => settled.confirmed known row (kept row member own) own,
    fun unknown row member own => settled.unconfirmed unknown row (kept row member own) own,
    fun gone row member own => settled.cancelled gone row (kept row member own) own⟩

variable {op : Op} {now : Int} (sums : Sums db) (accounted : Accounted db) (ran : exec db now op = .ok next)
include sums accounted ran

theorem exec_unmoved (placed : forall call, op ≠ .createOrder call)
    (confirmed : forall id version actor, op ≠ .confirm id version actor) {orderId : Id} {after : OrderCase}
    (here : IsCase next orderId after) : Unmoved db next orderId after := by
  cases decides : decidesIntake op with
  | false =>
    obtain ⟨case, before, untouched⟩ := exec_untouched sums ran decides accounted.told here
    exact ⟨case, before, untouched.items, untouched.confirmed, fun gone => .inl (untouched.cancelled gone)⟩
  | true =>
    cases op with
    | createOrder call => exact absurd rfl (placed call)
    | confirm id version actor => exact absurd rfl (confirmed id version actor)
    | terminate =>
      obtain ⟨_, _, _, cancels⟩ := terminate_cancels sums.settled.linked ran
      exact Cancels.unmoved sums.settled.linked cancels here
    | cancelOrder =>
      obtain ⟨_, _, _, _, cancels⟩ := cancel_cancels sums.settled.linked ran
      exact Cancels.unmoved sums.settled.linked cancels here
    | _ => simp [decidesIntake] at decides

theorem exec_told (orderId : Id) (after : OrderCase) (here : IsCase next orderId after) :
    Told after := by
  obtain ⟨start, known | fresh, path⟩ := (exec_advance sums ran).created orderId after here
  next => exact Path.told path (accounted.told orderId start known)
  next => exact Path.told path (fresh_told fresh)

theorem restated_owned {state : StockReservation -> StockReservationState}
    (rows : next.reservations.rows = db.reservations.rows.map (restated state)) :
    forall row, row ∈ next.reservations.rows -> exists case, IsCase next row.orderId case := by
  intro row member
  rw [rows] at member
  obtain ⟨old, there, rfl⟩ := List.mem_map.1 member
  obtain ⟨case, before⟩ := accounted.owned old there
  obtain ⟨after, here, -⟩ := (exec_advance sums ran).known old.orderId case before
  exact ⟨after, here⟩

theorem quiet_accounted (placed : forall call, op ≠ .createOrder call)
    (confirmed : forall id version actor, op ≠ .confirm id version actor) : Accounted next := by
  obtain ⟨⟨state, rows, releases⟩, added, entries, still⟩ := exec_quiet ran placed confirmed
  obtain ⟨booked, -, books⟩ := exec_books ran
  have unmoved := fun orderId after => @exec_unmoved db next op now sums accounted ran placed confirmed orderId
    after
  refine {
    told := exec_told sums accounted ran, backed := ?_, settled := ?_
    owned := restated_owned sums accounted ran rows, balanced := ?_ }
  next =>
    intro orderId after here
    obtain ⟨case, before, items, -, -⟩ := unmoved orderId after here
    rw [rows]
    exact (accounted.backed orderId case before).restated books state
      (here.order_id.trans before.order_id.symm) items
  next =>
    intro orderId after here
    obtain ⟨case, before, -, history, gone⟩ := unmoved orderId after here
    rw [rows] at gone ⊢
    rw [<- before.order_id] at gone
    exact (accounted.settled orderId case before).released (fun row _ => releases row)
      (here.order_id.trans before.order_id.symm) history gone
  next =>
    intro orderId chosen
    rw [entries, movedFor_append, movedFor_still (fun movement member => still movement member orderId),
      Int.add_zero, accounted.balanced, rows, quantityOf_restated]
    refine congrArg Neg.neg (quantityOf_congr fun row _ => ?_)
    have consumed : ((restated state row).state == .consumed) = (row.state == .consumed) := by
      rw [Bool.eq_iff_iff, beq_iff_eq, beq_iff_eq]
      exact (releases row).consumed
    simp only [consumedBy, consumed]
    rfl

end Quiet

section Confirming

def consumptionOf (order : Order) (actorUserId : Id) (reservations : List StockReservation)
    (inventory : InventoryItem) : StockMovement :=
  movementOf inventory .orderConfirmed (-reservedIn reservations inventory.id)
    (inventory.onHandQuantity - reservedIn reservations inventory.id) .order order.id actorUserId

theorem consumeItems_entries {order : Order} {actorUserId : Id} {reservations : List StockReservation}
    {consumed : List InventoryItem} {state after : Table InventoryItem.id × List StockMovement}
    (ran : consumed.foldlM (consumeItem order actorUserId reservations) state = .ok after) :
    after.2 = state.2 ++ consumed.map (consumptionOf order actorUserId reservations) := by
  induction consumed generalizing state with
  | nil =>
    obtain rfl := (pure_ok _ _).1 ran
    simp
  | cons first rest ih =>
    simp only [List.foldlM_cons, bind_ok] at ran
    obtain ⟨between, round, later⟩ := ran
    simp only [consumeItem, bind_ok, pure_ok] at round
    obtain ⟨_, -, items, -, rfl⟩ := round
    rw [ih later, List.append_assoc]
    rfl

-- What is entered for the locked items is what was reserved, item by item.
theorem movedFor_consumption {orderId actorUserId : Id} {order : Order} (own : order.id = orderId)
    (stocked : forall row, row ∈ db.reservations.rows ->
      exists item, item ∈ db.items.rows /\ item.id = row.inventoryItemId) (chosen : Id -> Bool) :
    movedFor ((itemsOf db.items (activeOf db orderId)).map
        (consumptionOf order actorUserId (activeOf db orderId))) orderId chosen =
      -quantityOf (activeOf db orderId) (fun row => chosen row.inventoryItemId) := by
  let held : Table InventoryItem.id := {
    rows := itemsOf db.items (activeOf db orderId)
    distinct := (List.filter_sublist.map _).nodup db.items.distinct }
  have grouped := held.total_grouped (activeOf db orderId) StockReservation.inventoryItemId
    (fun row => if chosen row.inventoryItemId then row.quantity else 0) (fun row member => by
      obtain ⟨item, present, same⟩ := stocked row (List.mem_filter.1 member).1
      refine ⟨item, List.mem_filter.2 ⟨present, ?_⟩, same⟩
      simp only [inventoryIdsOf, List.mem_dedup, List.mem_map, decide_eq_true_eq]
      exact ⟨row, member, same.symm⟩)
  rw [quantityOf, sum_filter, <- grouped, movedFor, List.map_map, Table.total, List.sum_neg, List.map_map]
  refine congrArg List.sum (List.map_congr_left fun item _ => ?_)
  have refers : refersTo orderId (consumptionOf order actorUserId (activeOf db orderId) item) = true := by
    simp [refersTo, consumptionOf, movementOf, own]
  rw [Function.comp_apply, Function.comp_apply, refers, Bool.true_and]
  change (if chosen item.id = true then -reservedIn (activeOf db orderId) item.id else 0) = _
  rw [reservedIn, sum_filter]
  cases picked : chosen item.id with
  | true =>
    refine congrArg Neg.neg (congrArg List.sum (List.map_congr_left fun row _ => ?_))
    by_cases same : item.id = row.inventoryItemId
    next => simp [<- same, picked]
    next => simp [same, Ne.symm same]
  | false =>
    have none : ((activeOf db orderId).map fun row => if item.id = row.inventoryItemId then
        if chosen row.inventoryItemId = true then row.quantity else 0 else 0).sum = 0 := by
      refine List.sum_eq_zero fun amount member => ?_
      obtain ⟨row, -, rfl⟩ := List.mem_map.1 member
      by_cases same : item.id = row.inventoryItemId
      next => simp [<- same, picked]
      next => simp [same]
    rw [none]
    rfl

theorem covered_active {order : Order} {now : Int} {locked : LockedInventory}
    (locks : lockActiveInventory db order.id = .ok locked)
    (covered : assertReservationCoverage order locked now = .ok ())
    (backed : Backed db.items db.reservations.rows order)
    (positive : forall row, row ∈ db.reservations.rows -> 0 < row.quantity) {row : StockReservation}
    (member : row ∈ db.reservations.rows) (mine : row.orderId = order.id) : row.state = .active := by
  simp only [lockActiveInventory, bind_ok, pure_ok] at locks
  obtain ⟨_, -, rfl⟩ := locks
  simp only [assertReservationCoverage, bind_ok, throwIf_ok] at covered
  obtain ⟨_, -, _, -, matched⟩ := covered
  obtain ⟨item, present, same, -⟩ := backed.matched row member mine
  have counted : quantityOf (activeOf db order.id) (fun row => row.orderItemId == item.id) = item.quantity := by
    simp only [Bool.not_eq_true, List.any_eq_false, Bool.or_eq_true, not_or, bne_iff_ne, ne_eq, not_not] at matched
    exact (matched item present).2
  have served := backed.served item present
  rw [quantityOf_split _ _ (·.state == .active)] at served
  have active : quantityOf db.reservations.rows (fun row =>
      row.orderId == order.id && row.orderItemId == item.id && row.state == .active) =
      quantityOf (activeOf db order.id) fun row => row.orderItemId == item.id := by
    rw [quantityOf, quantityOf, activeOf, Table.filter, List.filter_filter]
    refine congrArg (fun rows : List StockReservation => (rows.map (·.quantity)).sum)
      (List.filter_congr fun row _ => ?_)
    cases row.orderId == order.id <;> cases row.orderItemId == item.id <;> simp
  by_contra idle
  have left := @quantityOf_pos _ positive (fun row =>
    row.orderId == order.id && row.orderItemId == item.id && !(row.state == .active)) _ member
    (by simp [mine, same, idle])
  omega

-- A confirmation consumes every reservation of its order, and books each of them once.
theorem confirm_accounted {id actorUserId : Id} {expectedVersion : Nat} {now : Int} (sums : Sums db)
    (safe : Safe now db) (accounted : Accounted db)
    (ran : exec db now (.confirm id expectedVersion actorUserId) = .ok next) : Accounted next := by
  obtain ⟨was, locked, confirms⟩ := confirm_confirms sums.settled.linked ran
  obtain ⟨booked, -, books⟩ := exec_books ran
  obtain rfl := confirms.is.order_id
  have whole : forall row, row ∈ db.reservations.rows -> row.orderId = was.order.id -> row.state = .active :=
    fun row member mine => covered_active confirms.locks confirms.covered
      (accounted.backed _ was confirms.is) safe.positive member mine
  have locks := confirms.locks
  simp only [lockActiveInventory, bind_ok, pure_ok] at locks
  obtain ⟨_, -, rfl⟩ := locks
  have rows := settle_restates confirms.settled
  have entries := consumeItems_entries confirms.consumed
  have cases := fun orderId after => @written_case db next was.order.id orderId was _ after sums.settled.linked
    confirms.writes.orderIds confirms.is confirms.writes
  have unconfirmed := (accounted.told _ was confirms.is).pending confirms.pending
  refine {
    told := exec_told sums accounted ran, backed := ?_, settled := ?_
    owned := restated_owned sums accounted ran rows, balanced := ?_ }
  next =>
    intro orderId after here
    rw [rows]
    rcases cases orderId after here with ⟨rfl, rfl⟩ | ⟨-, before⟩
    next => exact (accounted.backed _ was confirms.is).restated books _ rfl rfl
    next => exact (accounted.backed orderId after before).restated books _ rfl rfl
  next =>
    intro orderId after here
    rw [rows]
    rcases cases orderId after here with ⟨rfl, rfl⟩ | ⟨apart, before⟩
    next =>
      have every : forall row, row ∈ db.reservations.rows -> row.orderId = was.order.id ->
          (if row.orderId = was.order.id /\ row.state = .active then StockReservationState.consumed
            else row.state) = .consumed := fun row member mine => if_pos ⟨mine, whole row member mine⟩
      have known : Confirmed (was.history ++ [historyEntry was.order .confirmed "ADMIN_CONFIRMED".toList
          actorUserId]) := ⟨_, List.mem_append_right _ List.mem_cons_self, rfl⟩
      refine ⟨fun _ row member mine => ?_, fun unknown => absurd known unknown, fun status => ?_⟩
      next =>
        obtain ⟨old, there, rfl⟩ := List.mem_map.1 member
        exact every old there mine
      next => exact absurd status (by simp [moved, orderMoved])
    next =>
      refine (accounted.settled orderId after before).released (fun old mine => .inl (if_neg fun taken => ?_))
        rfl Iff.rfl .inl
      exact apart (before.order_id.symm.trans (mine.symm.trans taken.1))
  next =>
    intro orderId chosen
    simp only at entries
    rw [entries, movedFor_append, accounted.balanced, rows, quantityOf_restated]
    by_cases same : orderId = was.order.id
    next =>
      subst same
      have before : quantityOf db.reservations.rows (consumedBy was.order.id chosen) = 0 :=
        quantityOf_none fun row member => by
          by_cases mine : row.orderId = was.order.id
          next => simp [consumedBy, whole row member mine]
          next => simp [consumedBy, mine]
      rw [before, movedFor_consumption rfl safe.known, Int.neg_zero, Int.zero_add]
      refine congrArg Neg.neg ?_
      rw [quantityOf, quantityOf, activeOf, Table.filter, List.filter_filter]
      refine congrArg (fun rows : List StockReservation => (rows.map (·.quantity)).sum)
        (List.filter_congr fun row member => ?_)
      by_cases mine : row.orderId = was.order.id
      next => simp [consumedBy, restated, mine, whole row member mine]
      next =>
        have other : (row.orderId == was.order.id) = false := by simpa using mine
        simp [consumedBy, restated, other]
    next =>
      have elsewhere : forall movement, movement ∈ (itemsOf db.items (activeOf db was.order.id)).map
          (consumptionOf was.order actorUserId (activeOf db was.order.id)) ->
            refersTo orderId movement = true -> movement.quantityDelta = 0 := by
        intro movement member refers
        obtain ⟨item, -, rfl⟩ := List.mem_map.1 member
        simp only [refersTo, consumptionOf, movementOf, Bool.and_eq_true, beq_iff_eq, Option.some.injEq] at refers
        exact absurd refers.2.symm same
      rw [movedFor_still elsewhere, Int.add_zero]
      refine congrArg Neg.neg (quantityOf_congr fun row _ => ?_)
      by_cases mine : row.orderId = orderId
      next =>
        have apart : Not (row.orderId = was.order.id) := fun taken => same (mine.symm.trans taken)
        simp [consumedBy, restated, apart]
      next =>
        have other : (row.orderId == orderId) = false := by simpa using mine
        simp [consumedBy, restated, other]

end Confirming

section Checkout

-- A new order is backed in full, and nothing of it has left the stock yet.
theorem create_accounted {call : Checkout.Order.CheckoutCall} {now : Int} (sums : Sums db)
    (accounted : Accounted db) (ran : exec db now (.createOrder call) = .ok next) : Accounted next := by
  have told := exec_told sums accounted ran
  obtain ⟨⟨after, orderId⟩, created, rfl⟩ := (map_ok _ _ _).1 ran
  obtain ⟨⟨added, entries, noted⟩, items⟩ := create_notes created
  have distinct := create_distinct created
  rcases create_places created with rfl | ⟨placement, -, ⟨prepared⟩, placing⟩
  next => exact accounted
  next =>
    have placed := place_placed placing
    have linked := sums.settled.linked
    have new := (Orders.Creation.placed_unknown placed).1
    have fresh : forall row, row ∈ db.reservations.rows -> row.orderId ≠ placement.order.id := by
      intro row member same
      obtain ⟨case, is⟩ := accounted.owned row member
      exact new (same ▸ is.order_id ▸ List.mem_map_of_mem is.order_mem)
    have mine : forall row, row ∈ placement.reservations ->
        row.orderId = placement.order.id /\ row.state = .active := by
      intro row member
      rw [prepared.reservationRows] at member
      obtain ⟨allocation, -, rfl⟩ := List.mem_map.1 member
      exact ⟨by rw [prepared.orderRow]; rfl, rfl⟩
    have cases : forall orderId case, IsCase after orderId case ->
        (orderId = placement.order.id /\ case = Orders.Creation.placedCase placement) \/
          (orderId ≠ placement.order.id /\ IsCase db orderId case) := by
      intro orderId case here
      have ordered := here.order_mem
      rw [(Table.insert?_rows placed.orders).1, List.mem_append, List.mem_singleton] at ordered
      rcases ordered with known | latest
      next =>
        obtain ⟨was, is, -⟩ := linked.case_exists known
        rw [here.order_id] at is
        obtain rfl := (Orders.Creation.placed_elsewhere prepared placed is).unique here
        exact .inr ⟨fun same => new (same ▸ is.order_id ▸ List.mem_map_of_mem is.order_mem), is⟩
      next =>
        have is := Orders.Creation.placed_is linked prepared placed
        rw [<- latest, here.order_id] at is
        exact .inl ⟨here.order_id.symm.trans (congrArg Order.id latest), here.unique is⟩
    have others : forall {orderId case}, orderId ≠ placement.order.id -> IsCase db orderId case ->
        forall row, row ∈ placement.reservations -> row.orderId ≠ case.order.id :=
      fun apart before row member own => apart (before.order_id.symm.trans (own.symm.trans (mine row member).1))
    refine { told, backed := ?_, settled := ?_, owned := ?_, balanced := ?_ }
    next =>
      intro orderId case here
      simp only [items, placed.reservations]
      rcases cases orderId case here with ⟨-, rfl⟩ | ⟨apart, before⟩
      next => exact placed_backed prepared distinct (place_itemIds placing) fresh
      next => exact (accounted.backed orderId case before).append (others apart before)
    next =>
      intro orderId case here
      simp only [placed.reservations]
      rcases cases orderId case here with ⟨-, rfl⟩ | ⟨apart, before⟩
      next =>
        have told := (fresh_told (Orders.Creation.placed_fresh prepared)).pending
          (Orders.Creation.placed_fresh prepared).status
        refine ⟨fun known => absurd known told, fun _ row member own => ?_, fun gone => ?_⟩
        next =>
          rcases List.mem_append.1 member with old | added
          next => exact absurd own (fresh row old)
          next => simp [(mine row added).2]
        next => exact absurd ((Orders.Creation.placed_fresh prepared).status.symm.trans gone) (by decide)
      next => exact (accounted.settled orderId case before).append (others apart before)
    next =>
      intro row member
      rw [placed.reservations] at member
      rcases List.mem_append.1 member with old | added
      next =>
        obtain ⟨case, before⟩ := accounted.owned row old
        exact ⟨case, Orders.Creation.placed_elsewhere prepared placed before⟩
      next =>
        rw [(mine row added).1]
        exact ⟨_, Orders.Creation.placed_is linked prepared placed⟩
    next =>
      intro orderId chosen
      have idle : quantityOf placement.reservations (consumedBy orderId chosen) = 0 :=
        quantityOf_none fun row member => by simp [consumedBy, (mine row member).2]
      simp only [entries, placed.reservations]
      rw [movedFor_append, movedFor_still (fun movement member => Noted.still (noted movement member) orderId),
        quantityOf_append, idle, Int.add_zero, Int.add_zero]
      exact accounted.balanced orderId chosen

end Checkout

section Runs

theorem exec_accounted {op : Op} {now : Int} (sums : Sums db) (safe : Safe now db) (accounted : Accounted db)
    (ran : exec db now op = .ok next) : Accounted next := by
  by_cases placed : exists call, op = .createOrder call
  next =>
    obtain ⟨call, rfl⟩ := placed
    exact create_accounted sums accounted ran
  next =>
    by_cases confirming : exists id version actor, op = .confirm id version actor
    next =>
      obtain ⟨id, version, actor, rfl⟩ := confirming
      exact confirm_accounted sums safe accounted ran
    next =>
      exact quiet_accounted sums accounted ran (fun call same => placed ⟨call, same⟩)
        fun id version actor same => confirming ⟨id, version, actor, same⟩

variable (config : Config.Configuration) (orderSequence : Option Int) (start : Int)

theorem opening_accounted : Accounted (opening config orderSequence start).db where
  told orderId case is := (no_case is).elim
  backed orderId case is := (no_case is).elim
  settled orderId case is := (no_case is).elim
  owned := by simp [opening, Db.empty]
  balanced orderId chosen := rfl

theorem run_accounted (labels : List Timed) :
    Accounted (Runs.run step (opening config orderSequence start) labels).db := by
  have initial : Sums (opening config orderSequence start).db /\
      Safe (opening config orderSequence start).now (opening config orderSequence start).db /\
      Accounted (opening config orderSequence start).db :=
    ⟨empty_sums config orderSequence, opening_safe config orderSequence start,
      opening_accounted config orderSequence start⟩
  exact (run_keeps (fun now db => Sums db /\ Safe now db /\ Accounted db)
    (fun _ _ _ later kept => ⟨kept.1, kept.2.1.later later, kept.2.2⟩)
    (fun now db op next kept ran => ⟨(exec_sums kept.1 ran).1, exec_safe now db op next kept.2.1 ran,
      exec_accounted kept.1 kept.2.1 kept.2.2 ran⟩) initial labels).2.2

-- What the entries that refer to an order have moved of a variant.
def movedOf (db : Db) (orderId variantId : Id) : Int :=
  movedFor db.movements orderId fun itemId => variantOf db.items itemId == some variantId

/-- Once an order has been confirmed its reservations are consumed and its entries have moved exactly
    what it asks for; until then, and for ever if it never is, they have moved nothing. -/
theorem stock_consumed_once (labels : List Timed) :
    let reached := (Runs.run step (opening config orderSequence start) labels).db
    forall order, order ∈ reached.orders.rows ->
      ((exists entry, entry ∈ historyOf reached order.id /\ entry.toStatus = .confirmed) ->
        (forall row, row ∈ reached.reservations.rows -> row.orderId = order.id -> row.state = .consumed) /\
          forall variantId, movedOf reached order.id variantId = -ordered order variantId) /\
      (Not (exists entry, entry ∈ historyOf reached order.id /\ entry.toStatus = .confirmed) ->
        (forall chosen, movedFor reached.movements order.id chosen = 0) /\
          (forall row, row ∈ reached.reservations.rows -> row.orderId = order.id -> row.state ≠ .consumed) /\
          (order.status = .cancelled -> forall row, row ∈ reached.reservations.rows ->
            row.orderId = order.id -> row.state ≠ .active)) := by
  intro reached order member
  have accounted : Accounted reached := run_accounted config orderSequence start labels
  have sums : Sums reached := run_sums config orderSequence start labels
  obtain ⟨case, is, rfl⟩ := sums.settled.linked.case_exists member
  have settled := accounted.settled _ case is
  have backed := accounted.backed _ case is
  rw [is.history]
  refine ⟨fun confirmed => ⟨settled.confirmed confirmed, fun variantId => ?_⟩,
    fun unconfirmed => ⟨fun chosen => ?_, settled.unconfirmed unconfirmed, settled.cancelled⟩⟩
  next =>
    rw [movedOf, accounted.balanced, <- backed.reserved]
    refine congrArg Neg.neg (quantityOf_congr fun row there => ?_)
    by_cases mine : row.orderId = case.order.id
    next => simp [consumedBy, mine, settled.confirmed confirmed row there mine]
    next =>
      have other : (row.orderId == case.order.id) = false := by simpa using mine
      simp [consumedBy, other]
  next =>
    rw [accounted.balanced, quantityOf_none fun row there => ?_, Int.neg_zero]
    by_cases mine : row.orderId = case.order.id
    next => simp [consumedBy, settled.unconfirmed unconfirmed row there mine]
    next => simp [consumedBy, mine]

theorem dispatched_stock_consumed :
    exists order, order ∈ (Sample.after Sample.dispatched).db.orders.rows /\ ordered order 1 = 2 /\
      movedOf (Sample.after Sample.dispatched).db order.id 1 = -2 := by
  have orders : (Sample.after Sample.dispatched).db.orders.rows.any (fun order => ordered order 1 == 2 &&
      (historyOf (Sample.after Sample.dispatched).db order.id).any fun entry =>
        entry.toStatus == .confirmed) = true := by
    decide +kernel
  obtain ⟨order, member, found⟩ := List.any_eq_true.1 orders
  obtain ⟨asked, confirmed⟩ := Bool.and_eq_true_iff.1 found
  obtain ⟨entry, entered, status⟩ := List.any_eq_true.1 confirmed
  have moved := ((stock_consumed_once Sample.shop (some 0) 0 (Sample.timed Sample.dispatched) order member).1
    ⟨entry, entered, beq_iff_eq.1 status⟩).2 1
  rw [beq_iff_eq.1 asked] at moved
  exact ⟨order, member, beq_iff_eq.1 asked, moved⟩

end Runs

end VapeCommerce.Inventory.Consumption
