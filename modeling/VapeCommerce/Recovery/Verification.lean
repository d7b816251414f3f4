import VapeCommerce.Orders.Origins
import VapeCommerce.Inventory.Safety
import VapeCommerce.Checkout.Agreement

set_option autoImplicit false

-- restore-verification.mjs: what a restored database has to satisfy, against what the services write.
namespace VapeCommerce.Recovery.Verification

open VapeCommerce.Lib VapeCommerce.Lib.Outcome VapeCommerce.Schema VapeCommerce.Database
open VapeCommerce.Money VapeCommerce.Checkout.Catalogue VapeCommerce.Checkout.Lines
open VapeCommerce.Checkout.Order VapeCommerce.Checkout.Placement VapeCommerce.Inventory.Safety
open VapeCommerce.Cash.Admin VapeCommerce.Cash.Calculations VapeCommerce.Cash.Accountable
open VapeCommerce.Cash.Steps VapeCommerce.Cash.Operations VapeCommerce.Cash.Remittances
open VapeCommerce.Orders.Case VapeCommerce.Orders.Progress VapeCommerce.Orders.Transactions
open VapeCommerce.Orders.Runs VapeCommerce.Orders.Origins VapeCommerce.System

def negativeInventory (db : Db) : Nat :=
  db.items.rows.countP fun item => decide (item.onHandQuantity < 0)

-- The left join sums the unexpired active reservations of each item.
def overReservedInventory (db : Db) (now : Int) : Nat :=
  db.items.rows.countP fun item =>
    decide (((db.reservations.rows.filter fun row => row.inventoryItemId == item.id &&
      row.state == .active && decide (row.expiresAt > now)).map (·.quantity)).sum > item.onHandQuantity)

def invalidOrderTotals (db : Db) : Nat :=
  db.orders.rows.countP fun order =>
    order.grandTotalMillimes != order.subtotalMillimes - order.discountTotalMillimes +
      order.deliveryTotalMillimes + order.taxTotalMillimes

def invalidLineTotals (db : Db) : Nat :=
  (db.orders.rows.flatMap (·.items)).countP fun item =>
    item.lineTotalMillimes !=
      item.lineSubtotalMillimes - item.lineDiscountMillimes + item.lineTaxMillimes

def invalidCollection (row : CashCollection) : Bool :=
  decide (row.expectedMillimes < 0) || decide (row.collectedMillimes < 0)

-- A comparison with a column of a missing join is null, which is not true.
def invalidLink (db : Db) (row : CashDiscrepancy) : Bool :=
  row.cashCollectionId.isSome && (row.orderId.isNone ||
    (row.cashCollectionId.bind db.collections.find?).any fun collection =>
      row.orderId.any (fun orderId => collection.orderId != orderId) ||
        collection.expectedMillimes != row.expectedMillimes ||
        collection.collectedMillimes != row.actualMillimes)

def invalidDiscrepancy (db : Db) (row : CashDiscrepancy) : Bool :=
  decide (row.expectedMillimes < 0) || decide (row.actualMillimes < 0) ||
    row.differenceMillimes != row.actualMillimes - row.expectedMillimes ||
    !((row.remittanceId.isSome && row.orderId.isNone && row.cashCollectionId.isNone) ||
      (row.remittanceId.isNone && row.orderId.isSome)) ||
    invalidLink db row

def invalidEvent (row : CashReconciliationEvent) : Bool :=
  row.remittanceId.isSome && row.cashCollectionId.isSome

def invalidCash (db : Db) : Nat :=
  db.collections.rows.countP invalidCollection +
    db.discrepancies.rows.countP (invalidDiscrepancy db) + db.cashEvents.countP invalidEvent

structure Violations where
  negativeInventory : Nat
  overReservedInventory : Nat
  invalidOrderTotals : Nat
  invalidLineTotals : Nat
  invalidCash : Nat
deriving DecidableEq, Repr

-- The business part of `violations`, as the queries count them at one time.
def verifyRestoredDatabase (db : Db) (now : Int) : Violations where
  negativeInventory := negativeInventory db
  overReservedInventory := overReservedInventory db now
  invalidOrderTotals := invalidOrderTotals db
  invalidLineTotals := invalidLineTotals db
  invalidCash := invalidCash db

def Violations.zero : Violations where
  negativeInventory := 0
  overReservedInventory := 0
  invalidOrderTotals := 0
  invalidLineTotals := 0
  invalidCash := 0

-- The amounts of an order and of its lines add up.
structure Totalled (order : Schema.Order) : Prop where
  grandTotal : order.grandTotalMillimes = order.subtotalMillimes - order.discountTotalMillimes +
    order.deliveryTotalMillimes + order.taxTotalMillimes
  lines : forall item, item ∈ order.items ->
    item.lineTotalMillimes = item.lineSubtotalMillimes - item.lineDiscountMillimes + item.lineTaxMillimes

def AllTotalled (db : Db) : Prop :=
  forall order, order ∈ db.orders.rows -> Totalled order

theorem Totalled.written {was row : Schema.Order} (written : Written was row) (totalled : Totalled was) :
    Totalled row where
  grandTotal := by
    rw [written.grandTotal, written.subtotal, written.discount, written.delivery, written.tax]
    exact totalled.grandTotal
  lines item member := totalled.lines item (written.items ▸ member)

theorem priced_totals {views : Views} {input : CheckoutOrder} {minimumAge now : Int}
    {order : PricedOrder} (ran : priceOrder views input minimumAge now = .ok order) :
    order.grandTotalMillimes = order.priced.totals.subtotalMillimes -
      order.priced.totals.discountTotalMillimes + order.fulfillment.deliveryTotalMillimes +
      order.priced.totals.taxTotalMillimes := by
  simp only [priceOrder, bind_ok, Checkout.Fulfillment.orFail_ok, addMillimes_ok, pure_ok] at ran
  obtain ⟨-, -, priced, -, _, -, _, -, _, ⟨-, -, rfl⟩, fulfillment, -, _, ⟨-, -, rfl⟩, -, -, rfl⟩ := ran
  simp only [List.sum_cons, List.sum_nil]
  omega

theorem itemized_lines {ids : FreshIds} {lines : List PricedLine} {items : List OrderItem}
    (itemized : lines.mapM (orderItem ids) = .ok items)
    (exact : forall line, line ∈ lines ->
      line.calculation.Exact (quoteLineInput line.requested line.variant)) :
    forall item, item ∈ items -> item.lineTotalMillimes =
      item.lineSubtotalMillimes - item.lineDiscountMillimes + item.lineTaxMillimes := by
  induction lines generalizing items with
  | nil =>
    simp only [List.mapM_nil, pure_ok] at itemized
    simp [<- itemized]
  | cons line rest ih =>
    obtain ⟨item, first, others, later, rfl⟩ := (mapM_cons_ok _ _ _ _).1 itemized
    simp only [orderItem, bind_ok, pure_ok] at first
    obtain ⟨_, -, _, -, rfl⟩ := first
    have here := exact line (by simp)
    intro other member
    rcases List.mem_cons.1 member with rfl | there
    next =>
      have discount := here.discount
      have total := here.total
      simp only
      omega
    next => exact ih later (fun line member => exact line (by simp [member])) other there

theorem placed_totalled {views : Views} {call : CheckoutCall} {now : Int} {placement : Placement}
    (prepared : Prepared views call now placement) : Totalled placement.order := by
  rw [prepared.orderRow]
  have priced := prepared.priced
  simp only [priceOrder, bind_ok, pure_ok] at priced
  obtain ⟨-, -, lines, pricing, _, -, _, -, _, -, fulfillment, -, _, -, -, -, same⟩ := priced
  have exact := priceLines_exact pricing
  have listed : prepared.order.priced = lines := by rw [<- same]
  exact {
    grandTotal := priced_totals prepared.priced
    lines := itemized_lines prepared.itemized fun line member =>
      (exact.lines line (listed ▸ member)).1 }

variable {db next : Db} {view : View}

theorem exec_totalled {now : Int} {op : Op} (sums : Sums db) (totalled : AllTotalled db)
    (ran : exec db now op = .ok next) : AllTotalled next := by
  intro row member
  by_cases placed : exists call, op = .createOrder call
  next =>
    obtain ⟨call, rfl⟩ := placed
    obtain ⟨⟨after, orderId⟩, created, rfl⟩ := (map_ok _ _ _).1 ran
    rcases create_cases created with rfl | ⟨placement, -, ⟨prepared⟩, enters⟩
    next => exact totalled row member
    next =>
      rw [(Table.insert?_rows enters.orders).1, List.mem_append, List.mem_singleton] at member
      rcases member with known | rfl
      next => exact totalled row known
      next => exact placed_totalled prepared
  next =>
    obtain ⟨case, after, is, -, rfl, path⟩ :=
      exec_origin sums ran (fun call same => placed ⟨call, same⟩) member
    exact (totalled case.order is.order_mem).written (Path.written path)

-- A discrepancy that is not of a collection is of a remittance alone.
structure OfRemittance (row : CashDiscrepancy) : Prop where
  remittance : row.remittanceId.isSome = true
  order : row.orderId = none
  expected : 0 <= row.expectedMillimes
  actual : 0 <= row.actualMillimes
  difference : row.differenceMillimes = row.actualMillimes - row.expectedMillimes

-- What the rows of cash satisfy that belong to no order.
structure Separated (db : Db) : Prop where
  discrepancies : forall row, row ∈ db.discrepancies.rows -> row.cashCollectionId = none ->
    OfRemittance row
  events : forall event, event ∈ db.cashEvents -> invalidEvent event = false

theorem Separated.kept (separated : Separated db) (discrepancies : next.discrepancies = db.discrepancies)
    (events : forall event, event ∈ next.cashEvents -> event ∈ db.cashEvents \/
      invalidEvent event = false) : Separated next where
  discrepancies row member := separated.discrepancies row (discrepancies ▸ member)
  events event member := (events event member).elim (separated.events event) id

-- A new discrepancy is of a collection, or of a remittance alone.
theorem opened_separated {old new : Table CashDiscrepancy.id} {row : CashDiscrepancy}
    (ran : openDiscrepancy old row = .ok new)
    (fresh : row.cashCollectionId = none -> OfRemittance row)
    (separated : forall row, row ∈ old.rows -> row.cashCollectionId = none -> OfRemittance row) :
    forall row, row ∈ new.rows -> row.cashCollectionId = none -> OfRemittance row := by
  intro other member
  rw [(Table.insert?_rows (openDiscrepancy_ok.1 ran).2).1, List.mem_append, List.mem_singleton] at member
  rcases member with known | rfl
  next => exact separated other known
  next => exact fresh

theorem recorded_separated {old new : Table CashDiscrepancy.id} {row : CashDiscrepancy}
    (ran : openRecorded old row = .ok new) (counted : row.cashCollectionId.isSome = true)
    (separated : forall row, row ∈ old.rows -> row.cashCollectionId = none -> OfRemittance row) :
    forall row, row ∈ new.rows -> row.cashCollectionId = none -> OfRemittance row := by
  unfold openRecorded at ran
  split at ran
  next => exact opened_separated ran (fun absent => by simp [absent] at counted) separated
  next => exact Except.ok.inj ran ▸ separated

theorem settled_separated {old new : Table CashDiscrepancy.id} {row : CashDiscrepancy}
    {resolution : Resolution} {actorUserId : Id}
    (ran : settleDiscrepancy old row resolution actorUserId = .ok new)
    (separated : forall row, row ∈ old.rows -> row.cashCollectionId = none -> OfRemittance row) :
    forall row, row ∈ new.rows -> row.cashCollectionId = none -> OfRemittance row := by
  obtain ⟨-, rfl⟩ := (updateOne_ok _ _ _ _ _ _).1 ran
  intro other member absent
  obtain ⟨was, there, ⟨-, rfl⟩ | ⟨-, rfl⟩⟩ := Table.rewrite_mem member
  next =>
    have before := separated was there absent
    exact ⟨before.remittance, before.order, before.expected, before.actual, before.difference⟩
  next => exact separated other there absent

theorem applied_frame {operation : RemittanceOperation} {applied : Db}
    (ran : applyVerifiedAllocations view operation = .ok applied) :
    applied.discrepancies = view.current.discrepancies /\
      applied.cashEvents = view.current.cashEvents := by
  simp only [applyVerifiedAllocations, bind_ok, pure_ok] at ran
  obtain ⟨state, -, orders, -, rfl⟩ := ran
  exact ⟨rfl, rfl⟩

theorem verified_frame {operation : RemittanceOperation} {actorUserId : Id} {resolution : Resolution}
    {verified : Db} (ran : verifyWhenResolved view operation actorUserId resolution = .ok verified) :
    verified.discrepancies = view.current.discrepancies /\
      verified.cashEvents = view.current.cashEvents := by
  cases resolution with
  | writtenOff => exact Except.ok.inj ran ▸ ⟨rfl, rfl⟩
  | resolved =>
    simp only [verifyWhenResolved, verifyDiscrepant, bind_ok, pure_ok] at ran
    obtain ⟨applied, applies, remittances, -, rfl⟩ := ran
    have frame := applied_frame applies
    exact frame

theorem corrected_frame {operation : CollectionOperation} {delivery : Schema.Delivery}
    {resolution : Resolution} {corrected : Db}
    (ran : correctWhenResolved view operation delivery resolution = .ok corrected) :
    corrected.discrepancies = view.current.discrepancies /\
      corrected.cashEvents = view.current.cashEvents := by
  cases resolution with
  | writtenOff => exact Except.ok.inj ran ▸ ⟨rfl, rfl⟩
  | resolved =>
    simp only [correctWhenResolved, correctCollection, bind_ok] at ran
    obtain ⟨_, -, _, -, ran⟩ := ran
    split at ran
    next =>
      simp only [bind_ok, pure_ok] at ran
      obtain ⟨_, -, _, -, rfl⟩ := ran
      exact ⟨rfl, rfl⟩
    next => exact (pure_ok _ _).1 ran ▸ ⟨rfl, rfl⟩

theorem recordCollection_separated {id discrepancyId actorUserId : Id} {input : RecordRequest}
    {idempotencyKey : Option Text} (separated : Separated view.current)
    (ran : recordCollection view id input idempotencyKey discrepancyId actorUserId = .ok next) :
    Separated next := by
  simp only [recordCollection, bind_ok] at ran
  obtain ⟨_, -, operation, -, ran⟩ := ran
  split at ran
  next => exact (pure_ok _ _).1 ran ▸ separated
  next =>
    simp only [bind_ok, pure_ok] at ran
    obtain ⟨_, -, _, -, delivery, -, _, -, _, -, difference, -, _, -, _, -, _, -, _, -, _, -, _, -, _, -,
      discrepancies, opens, rfl⟩ := ran
    refine ⟨recorded_separated opens rfl separated.discrepancies, fun event member => ?_⟩
    rcases List.mem_append.1 member with known | added
    next => exact separated.events event known
    next =>
      rcases List.mem_cons.1 added with rfl | opened
      next => rfl
      next =>
        split at opened
        next => exact List.mem_singleton.1 opened ▸ rfl
        next => simp at opened

theorem reconcileRemittance_separated {id discrepancyId actorUserId : Id}
    {input : ReconcileCashRemittance} (separated : Separated view.current)
    (ran : reconcileRemittance view id input discrepancyId actorUserId = .ok next) : Separated next := by
  simp only [reconcileRemittance, bind_ok] at ran
  obtain ⟨operation, -, _, -, _, -, _, -, _, -, difference, balance, _, -, _, -, remittances, -, ran⟩ := ran
  split at ran
  next =>
    simp only [bind_ok, pure_ok] at ran
    obtain ⟨applied, applies, rfl⟩ := ran
    obtain ⟨discrepancies, events⟩ := applied_frame applies
    refine separated.kept discrepancies fun event member => ?_
    rcases List.mem_append.1 member with known | added
    next => exact .inl (events ▸ known)
    next => exact .inr (List.mem_singleton.1 added ▸ rfl)
  next =>
    simp only [bind_ok, pure_ok] at ran
    obtain ⟨discrepancies, opens, orders, -, rfl⟩ := ran
    obtain ⟨expected, actual, same⟩ := (cashDifference_ok _ _ _).1 balance
    refine ⟨opened_separated opens (fun _ => ⟨rfl, rfl, expected.1, actual.1, same.symm⟩)
      separated.discrepancies, fun event member => ?_⟩
    rcases List.mem_append.1 member with known | added
    next => exact separated.events event known
    next => exact List.mem_singleton.1 added ▸ rfl

theorem resolveCollectionDiscrepancy_separated {cashCollectionId id actorUserId : Id}
    {input : ResolveCashDiscrepancy} (separated : Separated view.current)
    (ran : resolveCollectionDiscrepancy view cashCollectionId id input actorUserId = .ok next) :
    Separated next := by
  simp only [resolveCollectionDiscrepancy, bind_ok, pure_ok] at ran
  obtain ⟨operation, -, _, -, _, -, _, -, _, -, _, -, _, -, _, -, _, -, _, -, corrected, corrects,
    discrepancies, settles, rfl⟩ := ran
  obtain ⟨same, events⟩ := corrected_frame corrects
  rw [same] at settles
  refine ⟨settled_separated settles separated.discrepancies, fun event member => ?_⟩
  rcases List.mem_append.1 member with earlier | last
  next =>
    rcases List.mem_append.1 earlier with known | adjusted
    next => exact separated.events event (events ▸ known)
    next =>
      split at adjusted
      next => exact List.mem_singleton.1 adjusted ▸ rfl
      next => simp at adjusted
  next => exact List.mem_singleton.1 last ▸ rfl

theorem resolveRemittanceDiscrepancy_separated {remittanceId id actorUserId : Id}
    {input : ResolveCashDiscrepancy} (separated : Separated view.current)
    (ran : resolveRemittanceDiscrepancy view remittanceId id input actorUserId = .ok next) :
    Separated next := by
  simp only [resolveRemittanceDiscrepancy, bind_ok, pure_ok] at ran
  obtain ⟨_, -, _, -, _, -, _, -, operation, -, _, -, _, -, _, -, _, -, verified, verifies, discrepancies,
    settles, rfl⟩ := ran
  obtain ⟨same, events⟩ := verified_frame verifies
  rw [same] at settles
  refine ⟨settled_separated settles separated.discrepancies, fun event member => ?_⟩
  rcases List.mem_append.1 member with known | added
  next => exact separated.events event (events ▸ known)
  next => exact List.mem_singleton.1 added ▸ rfl

theorem cash_separated {op : CashOp} (separated : Separated view.current) (ran : op.exec view = .ok next) :
    Separated next := by
  cases op with
  | recordCollection => exact recordCollection_separated separated ran
  | createRemittance =>
    simp only [CashOp.exec, createRemittance, bind_ok, pure_ok] at ran
    obtain ⟨_, -, _, -, _, -, _, -, _, -, _, -, _, -, _, -, _, -, rfl⟩ := ran
    exact separated.kept rfl fun event member => .inl member
  | submitRemittance =>
    simp only [CashOp.exec, submitRemittance, bind_ok, pure_ok] at ran
    obtain ⟨operation, -, _, -, _, -, remittances, -, rfl⟩ := ran
    refine separated.kept rfl fun event member => ?_
    rcases List.mem_append.1 member with known | added
    next => exact .inl known
    next => exact .inr (List.mem_singleton.1 added ▸ rfl)
  | reconcileRemittance => exact reconcileRemittance_separated separated ran
  | resolveDiscrepancy =>
    rcases resolveDiscrepancy_cases ran with ⟨_, collection⟩ | ⟨_, remittance⟩
    next => exact resolveCollectionDiscrepancy_separated separated collection
    next => exact resolveRemittanceDiscrepancy_separated separated remittance

theorem exec_separated {now : Int} {op : Op} (separated : Separated db) (ran : exec db now op = .ok next) :
    Separated next := by
  by_cases remitting : Frames.Area.remitting ∈ Frames.areas op
  next =>
    cases op with
    | cash => exact @cash_separated _ (View.latest db) _ separated ran
    | _ => simp [Frames.areas] at remitting
  next =>
    have same := Frames.exec_writes ran .remitting remitting
    simp only [Frames.Area.Same, Prod.mk.injEq] at same
    obtain ⟨-, -, discrepancies, events⟩ := same
    exact separated.kept discrepancies fun event member => .inl (events ▸ member)

-- Everything the queries ask of the rows of orders and cash.
structure Sound (db : Db) : Prop where
  sums : Sums db
  totalled : AllTotalled db
  separated : Separated db

theorem step_sound (state : Clocked) (label : Timed) (sound : Sound state.db) :
    Sound (step state label).db :=
  @step_keeps (fun _ db => Sound db) (fun _ _ _ _ sound => sound)
    (fun _ _ _ _ sound ran => ⟨(exec_sums sound.sums ran).1,
      exec_totalled sound.sums sound.totalled ran, exec_separated sound.separated ran⟩) state label sound

theorem opening_sound (config : Config.Configuration) (orderSequence : Option Int) (start : Int) :
    Sound (opening config orderSequence start).db where
  sums := empty_sums config orderSequence
  totalled := by simp [AllTotalled, opening, Db.empty]
  separated := ⟨by simp [opening, Db.empty], by simp [opening, Db.empty]⟩

theorem collections_valid (sums : Sums db) {row : CashCollection} (member : row ∈ db.collections.rows) :
    invalidCollection row = false := by
  obtain ⟨case, is, rfl⟩ := sums.settled.linked.case_of_collection member
  have sound := sums.settled.sound _ case is
  have collected : 0 <= case.collection.collectedMillimes := by
    by_cases unrecorded : case.collection.status ∈ unrecordedStatuses
    next => rw [(sound.unrecorded unrecorded).collected]
    next => exact Int.le_of_lt (sound.recorded unrecorded).positive
  have owed := sound.owed
  have positive := sound.positive
  simp only [invalidCollection, Bool.or_eq_false_iff, decide_eq_false_iff_not]
  omega

-- The discrepancy of a collection says what the collection says.
theorem counted_valid (sums : Sums db) {row : CashDiscrepancy} (member : row ∈ db.discrepancies.rows)
    {collectionId : Id} (here : row.cashCollectionId = some collectionId) :
    invalidDiscrepancy db row = false := by
  have linked := sums.settled.linked
  have listed := linked.discrepancies row member collectionId here
  simp only [collectionLinks, List.map_map, List.mem_map, Function.comp_apply] at listed
  obtain ⟨collection, there, rfl⟩ := listed
  obtain ⟨case, is, rfl⟩ := linked.case_of_collection there
  have found : case.discrepancy = some row :=
    is.discrepancy.symm.trans (discrepancy_of_row linked member here)
  have sound := sums.settled.sound _ case is
  have recorded := sound.recorded fun unrecorded => by
    simp [(sound.unrecorded unrecorded).discrepancy] at found
  obtain ⟨difference, balance, accounts⟩ := recorded.balance
  simp only [Accounts, found, Cash.Calculations.linked, Bool.and_eq_true, beq_iff_eq] at accounts
  obtain ⟨⟨⟨⟨-, expected⟩, actual⟩, same⟩, scope, order, -, -⟩ := accounts
  obtain ⟨low, high, counted⟩ := (cashDifference_ok _ _ _).1 balance
  have row_found : db.collections.find? case.collection.id = some case.collection :=
    Table.find?_of_mem there
  have link : invalidLink db row = false := by
    simp [invalidLink, here, order, row_found, expected, actual]
  simp only [invalidDiscrepancy, link, scope, order, here, expected, actual, same, Bool.or_eq_false_iff,
    decide_eq_false_iff_not, bne_eq_false_iff_eq]
  exact ⟨⟨⟨⟨by omega, by omega⟩, counted.symm⟩, by simp⟩, trivial⟩

theorem discrepancies_valid (sound : Sound db) {row : CashDiscrepancy}
    (member : row ∈ db.discrepancies.rows) : invalidDiscrepancy db row = false := by
  cases here : row.cashCollectionId with
  | some collectionId => exact counted_valid sound.sums member here
  | none =>
    obtain ⟨remittance, order, expected, actual, difference⟩ :=
      sound.separated.discrepancies row member here
    simp only [invalidDiscrepancy, invalidLink, here, remittance, order, difference,
      Bool.or_eq_false_iff, decide_eq_false_iff_not]
    exact ⟨⟨⟨⟨by omega, by omega⟩, by simp⟩, by simp⟩, by simp⟩

theorem count_zero {A : Type} {rows : List A} {invalid : A -> Bool}
    (valid : forall row, row ∈ rows -> invalid row = false) : rows.countP invalid = 0 :=
  List.countP_eq_zero.2 fun row member => by simp [valid row member]

theorem accepted {now : Int} (safe : Safe now db) (sound : Sound db) :
    verifyRestoredDatabase db now = Violations.zero := by
  have stock : negativeInventory db = 0 := count_zero fun item member => by
    simpa using (safe.onHand item member).1
  have reserved : overReservedInventory db now = 0 := count_zero fun item member => by
    have covered := safe.covered item member
    rw [<- reservedQuantity_reserved] at covered
    have summed := covered
    simp only [reservedQuantity, activeReservations, Table.filter] at summed
    exact decide_eq_false (Int.not_lt.2 summed)
  have totals : invalidOrderTotals db = 0 := count_zero fun order member => by
    simpa using (sound.totalled order member).grandTotal
  have lines : invalidLineTotals db = 0 := count_zero fun item member => by
    obtain ⟨order, there, listed⟩ := List.mem_flatMap.1 member
    simpa using (sound.totalled order there).lines item listed
  have cash : invalidCash db = 0 := by
    have collections : db.collections.rows.countP invalidCollection = 0 :=
      count_zero fun row member => collections_valid sound.sums member
    have discrepancies : db.discrepancies.rows.countP (invalidDiscrepancy db) = 0 :=
      count_zero fun row member => discrepancies_valid sound member
    have events : db.cashEvents.countP invalidEvent = 0 := count_zero sound.separated.events
    simp [invalidCash, collections, discrepancies, events]
  simp [verifyRestoredDatabase, Violations.zero, stock, reserved, totals, lines, cash]

/-- Whatever the services have done, and however much later the restore is verified, none of the
business queries counts a row. -/
theorem restore_accepts_reachable (config : Config.Configuration) (orderSequence : Option Int)
    (start : Int) (labels : List Timed) (waited : Nat) :
    let reached := Runs.run step (opening config orderSequence start) labels
    verifyRestoredDatabase reached.db (reached.now + waited) = Violations.zero := by
  intro reached
  have safe : Safe reached.now reached.db := run_safe config orderSequence start labels
  have sound : Sound reached.db :=
    @Runs.run_keeps Clocked Timed step (fun state => Sound state.db) step_sound
      (opening config orderSequence start) (opening_sound config orderSequence start) labels
  exact accepted (StockSafe.later safe (by omega)) sound

end VapeCommerce.Recovery.Verification
