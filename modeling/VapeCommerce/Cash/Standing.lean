import VapeCommerce.Cash.Disputes

set_option autoImplicit false

-- An order stands in discrepancy as long as an unresolved discrepancy concerns it.
namespace VapeCommerce.Cash.Standing

open VapeCommerce.Lib VapeCommerce.Lib.Outcome VapeCommerce.Schema VapeCommerce.Database
open VapeCommerce.Cash.Calculations VapeCommerce.Cash.Admin VapeCommerce.Cash.Accountable
open VapeCommerce.Cash.Steps VapeCommerce.Cash.Remittances VapeCommerce.Cash.Settlement
open VapeCommerce.Cash.Operations VapeCommerce.Cash.Outside VapeCommerce.Cash.Sessions
open VapeCommerce.Cash.Verified VapeCommerce.Cash.Exactness VapeCommerce.Cash.Disputes
open VapeCommerce.Orders.Case VapeCommerce.Orders.Progress VapeCommerce.Orders.Onward
open VapeCommerce.Orders.Transactions
open VapeCommerce.Checkout.Fulfillment (orFail_ok)
open VapeCommerce.Orders.Admin (uncollected)
open VapeCommerce.System hiding step step_keeps run_keeps opening

/-- An unresolved discrepancy concerns an order by a collection of it, or by a remittance that holds
one of its collections. -/
def Concerns (db : Db) (order : Order) (row : CashDiscrepancy) : Prop :=
  row.status ≠ .resolved /\ exists collection, collection ∈ db.collections.rows /\
    collection.orderId = order.id /\
      ((collection.status ≠ .voided /\ row.cashCollectionId = some collection.id) \/
        exists item, item ∈ db.remittanceItems /\ item.cashCollectionId = collection.id /\
          row.remittanceId = some item.remittanceId)

def StatusExact (db : Db) : Prop :=
  forall order, order ∈ db.orders.rows -> (order.paymentStatus = .reconciliationDiscrepancy <->
    exists row, row ∈ db.discrepancies.rows /\ Concerns db order row)

def Disputed (db : Db) (remittanceId : Id) : Prop :=
  exists row, row ∈ db.discrepancies.rows /\ row.remittanceId = some remittanceId /\
    row.status ≠ .resolved

def Held (db : Db) (collectionId : Id) : Prop :=
  exists item, item ∈ db.remittanceItems /\ item.cashCollectionId = collectionId /\
    Disputed db item.remittanceId

def Unresolved (case : OrderCase) : Prop :=
  exists row, case.discrepancy = some row /\ row.status ≠ .resolved

def Marked (db : Db) (case : OrderCase) : Prop :=
  Unresolved case \/ Held db case.collection.id

def Stands (db : Db) (case : OrderCase) : Prop :=
  case.order.paymentStatus = .reconciliationDiscrepancy <-> Marked db case

def AllStand (db : Db) : Prop :=
  forall orderId case, IsCase db orderId case -> Stands db case

-- A discrepancy is only opened for an amount that differs.
def Uneven (case : OrderCase) : Prop :=
  forall row, case.discrepancy = some row -> row.differenceMillimes ≠ 0

def AllUneven (db : Db) : Prop :=
  forall orderId case, IsCase db orderId case -> Uneven case

variable {db next : Db} {view : View}

section Cases

variable {orderId : Id} {case : OrderCase} (settled : Settled db) (is : IsCase db orderId case)

include settled is

theorem own_collection {collection : CashCollection} (member : collection ∈ db.collections.rows)
    (owner : collection.orderId = case.order.id) : collection = case.collection := by
  obtain ⟨other, also, rfl⟩ := settled.linked.case_of_collection member
  rw [owner, is.order_id] at also
  rw [also.unique is]

-- The discrepancies that concern an order are its own one and those of its remittances.
theorem concerns_case (row : CashDiscrepancy) (member : row ∈ db.discrepancies.rows) :
    Concerns db case.order row <-> row.status ≠ .resolved /\ (case.discrepancy = some row \/
      exists item, item ∈ db.remittanceItems /\ item.cashCollectionId = case.collection.id /\
        row.remittanceId = some item.remittanceId) := by
  refine and_congr_right fun _ => ?_
  constructor
  next =>
    rintro ⟨collection, known, owner, ⟨-, here⟩ | held⟩
    all_goals obtain rfl := own_collection settled is known owner
    next => exact .inl (is.discrepancy.symm.trans (discrepancy_of_row settled.linked member here))
    next => exact .inr held
  next =>
    have owner := is.collection_order.trans is.order_id.symm
    rintro (own | held)
    next =>
      refine ⟨case.collection, is.collection_mem, owner, .inl ⟨fun void => ?_, ?_⟩⟩
      next =>
        have fresh := (settled.sound orderId case is).unrecorded (by simp [void, unrecordedStatuses])
        simp [fresh.discrepancy] at own
      next => exact (Table.lookup_some (is.discrepancy.trans own)).2
    next => exact ⟨case.collection, is.collection_mem, owner, .inr held⟩

theorem marked_iff : Marked db case <->
    exists row, row ∈ db.discrepancies.rows /\ Concerns db case.order row := by
  constructor
  next =>
    rintro (⟨row, own, unresolved⟩ | ⟨item, known, here, row, member, scope, unresolved⟩)
    next =>
      have member := (Table.lookup_some (is.discrepancy.trans own)).1
      exact ⟨row, member, (concerns_case settled is row member).2 ⟨unresolved, .inl own⟩⟩
    next =>
      exact ⟨row, member, (concerns_case settled is row member).2
        ⟨unresolved, .inr ⟨item, known, here, scope⟩⟩⟩
  next =>
    rintro ⟨row, member, concerns⟩
    obtain ⟨unresolved, own | ⟨item, known, here, scope⟩⟩ := (concerns_case settled is row member).1 concerns
    next => exact .inl ⟨row, own, unresolved⟩
    next => exact .inr ⟨item, known, here, row, member, scope, unresolved⟩

end Cases

theorem status_exact_cases (settled : Settled db) : StatusExact db <-> AllStand db := by
  constructor
  next =>
    intro exact orderId case is
    exact (exact case.order is.order_mem).trans (marked_iff settled is).symm
  next =>
    intro all order member
    obtain ⟨case, is, rfl⟩ := settled.linked.case_exists member
    exact (all _ case is).trans (marked_iff settled is)

-- Where all that a collection is allocated is verified, each of its remittances is.
theorem covered_verified (funded : Funded db) {collectionId : Id}
    (covered : itemsTotal (itemsOn db.remittanceItems collectionId) <= verifiedTotal db collectionId)
    {item : CashRemittanceItem} (member : item ∈ db.remittanceItems)
    (here : item.cashCollectionId = collectionId) : verifiedIn db item.remittanceId = true := by
  by_contra unverified
  let pending (other : CashRemittanceItem) : Bool :=
    other.cashCollectionId == collectionId && !verifiedIn db other.remittanceId
  have positive := total_positive
    (fun other listed => funded.amount other (List.mem_filter.1 listed).1)
    (List.mem_filter.2 (show item ∈ db.remittanceItems /\ pending item = true from
      ⟨member, by simp [pending, here, unverified]⟩))
  have split : itemsTotal (itemsOn db.remittanceItems collectionId) =
      itemsTotal (db.remittanceItems.filter (countsVerified db collectionId)) +
        itemsTotal (db.remittanceItems.filter pending) := by
    refine total_split (fun other _ => ?_) fun other _ counted => ?_
    next =>
      simp only [countsVerified, pending]
      cases verifiedIn db other.remittanceId <;> simp
    next =>
      simp only [countsVerified, Bool.and_eq_true] at counted
      simp [pending, counted.2]
  rw [verifiedTotal_filter] at covered
  omega

theorem disputed_unverified (disputing : Disputing db) {remittanceId : Id}
    (disputed : Disputed db remittanceId) : verifiedIn db remittanceId = false := by
  obtain ⟨row, member, scope, unresolved⟩ := disputed
  obtain ⟨-, remittance, known, here, status⟩ := disputing.scope row member remittanceId scope
  rw [if_neg unresolved] at status
  refine Bool.eq_false_iff.2 fun verified => ?_
  obtain ⟨other, there, same, is⟩ := verifiedIn_iff.1 verified
  obtain rfl := db.remittances.same_of_key there known (same.trans here.symm)
  simp [status] at is

-- A collection that answers for exactly what is owed has no discrepancy, or a resolved one.
theorem answers_resolved {case : OrderCase} (sound : Sound case) (uneven : Uneven case)
    (answers : Answers case case.order.expectedCodMillimes) : Not (Unresolved case) := by
  rintro ⟨row, found, unresolved⟩
  simp only [Answers, accountableCollectionMillimes, bind_ok, cashDifference_ok, found, throwIf_ok,
    pure_ok, if_neg unresolved] at answers
  obtain ⟨difference, ⟨-, -, rfl⟩, ⟨⟩, linkage, ⟨⟩, -, same⟩ := answers
  have owed := sound.owed
  exact linkage (.inr (.inr fun equal => uneven row found (by omega)))

-- Unless the discrepancy is written off, the collection answers for what is owed.
theorem resolved_answers {case : OrderCase} {accountable : Int} (sound : Sound case)
    (answers : Answers case accountable) (resolved : Not (Unresolved case)) :
    accountable = case.order.expectedCodMillimes := by
  have owed := sound.owed
  cases found : case.discrepancy with
  | none =>
    rw [Answers, found] at answers
    obtain ⟨count, same⟩ := answered_exact answers
    omega
  | some row =>
    have status : row.status = .resolved := by
      by_contra unresolved
      exact resolved ⟨row, found, unresolved⟩
    simp only [Answers, accountableCollectionMillimes, bind_ok, found, pure_ok, if_pos status] at answers
    obtain ⟨-, -, -, -, -, -, same⟩ := answers
    omega

-- No unresolved discrepancy concerns an order whose cash is remitted.
theorem cleared_unmarked (sums : Sums db) (full : Full db) (disputing : Disputing db) {orderId : Id}
    {case : OrderCase} (is : IsCase db orderId case) (uneven : Uneven case) (cleared : Cleared case)
    (status : case.order.paymentStatus = .cashRemitted) : Not (Marked db case) := by
  obtain ⟨remitted, answers⟩ := cleared status
  have sound := sums.settled.sound orderId case is
  rintro (unresolved | ⟨item, member, here, disputed⟩)
  next => exact answers_resolved sound uneven answers unresolved
  next =>
    have total := full orderId case is remitted
    have verified := covered_verified sums.funded (sums.funded.covered orderId case _ is total) member here
    rw [disputed_unverified disputing disputed] at verified
    simp at verified

-- The tables an unresolved discrepancy reaches an order by are the same.
theorem held_same (items : next.remittanceItems = db.remittanceItems)
    (same : SameDisputes db.discrepancies next.discrepancies) (collectionId : Id) :
    Held next collectionId <-> Held db collectionId := by
  have disputed (remittanceId : Id) : Disputed next remittanceId <-> Disputed db remittanceId := by
    constructor
    next =>
      rintro ⟨row, member, scope, unresolved⟩
      exact ⟨row, (same row (by simp [scope])).1 member, scope, unresolved⟩
    next =>
      rintro ⟨row, member, scope, unresolved⟩
      exact ⟨row, (same row (by simp [scope])).2 member, scope, unresolved⟩
  simp only [Held, items, disputed]

theorem stands_same {case after : OrderCase} (stands : Stands db case)
    (payment : after.order.paymentStatus = .reconciliationDiscrepancy <->
      case.order.paymentStatus = .reconciliationDiscrepancy)
    (collection : after.collection.id = case.collection.id)
    (discrepancy : after.discrepancy = case.discrepancy)
    (held : Held next case.collection.id <-> Held db case.collection.id) : Stands next after := by
  unfold Stands Marked Unresolved at *
  rw [payment, stands, collection, discrepancy, held]

-- Before it answers for an amount, a collection is in no remittance.
theorem unanswered_unheld (funded : Funded db) {orderId : Id} {case : OrderCase}
    (is : IsCase db orderId case) (unanswered : forall accountable, Not (Answers case accountable)) :
    Not (Held db case.collection.id) := by
  rintro ⟨item, member, here, -⟩
  obtain ⟨-, accountable, answers⟩ := Funded.courier funded member is here.symm
  exact unanswered accountable answers

theorem writes_source {orderId otherId : Id} {case after other : OrderCase} (linked : Linked db)
    (is : IsCase db orderId case) (writes : Writes db next case after) (there : IsCase next otherId other) :
    (otherId = orderId /\ other = after) \/ IsCase db otherId other := by
  by_cases same : otherId = orderId
  next =>
    subst same
    exact .inl ⟨rfl, there.unique (writes.here is)⟩
  next =>
    have ordered : otherId ∈ orderIds db := by
      rw [<- writes.orderIds]
      exact there.order_id ▸ List.mem_map_of_mem there.order_mem
    obtain ⟨order, member, here⟩ := List.mem_map.1 ordered
    obtain ⟨before, was, -⟩ := linked.case_exists member
    rw [here] at was
    obtain rfl := (writes.elsewhere is same was).unique there
    exact .inr was

-- An operation on one order leaves the others standing as they do.
theorem writes_stand {orderId : Id} {case after : OrderCase} (linked : Linked db) (stand : AllStand db)
    (is : IsCase db orderId case) (writes : Writes db next case after)
    (items : next.remittanceItems = db.remittanceItems)
    (same : SameDisputes db.discrepancies next.discrepancies) (here : Stands next after) :
    AllStand next := by
  intro otherId other there
  rcases writes_source linked is writes there with ⟨-, rfl⟩ | was
  next => exact here
  next => exact stands_same (stand otherId other was) Iff.rfl rfl rfl (held_same items same _)

section Orders

variable {id : Id} {operation : RemittanceOperation} (old : Sums view.snapshot)
  (behind : Behind view.snapshot view.current) (reads : Reads view.snapshot id operation)
  {orderId : Id} {case : OrderCase} (is : IsCase view.current orderId case)

include old behind reads is

omit old in
-- The orders of a remittance are those with an item in it.
theorem ordered_iff : case.order.id ∈ (uniqueOrders operation).map Order.id <->
    exists item, item ∈ view.current.remittanceItems /\ item.remittanceId = id /\
      item.cashCollectionId = case.collection.id := by
  obtain ⟨added, items, -⟩ := behind.retains.items
  constructor
  next =>
    intro listed
    obtain ⟨order, unique, same⟩ := List.mem_map.1 listed
    obtain ⟨allocation, member, rfl⟩ := (uniqueOrders_spec operation).2.1 order unique
    obtain ⟨wasId, was, before, here, row⟩ := reads.allocation allocation member
    rw [row] at same
    obtain rfl : wasId = orderId := by
      rw [<- before.order_id, <- is.order_id]
      exact same
    obtain ⟨after, there, later⟩ := behind.ahead _ was before
    obtain rfl := there.unique is
    obtain ⟨known, mine⟩ := reads.item_mem member
    exact ⟨allocation.item, by simp [items, known], mine, here.symm.trans later.collectionId.symm⟩
  next =>
    rintro ⟨item, known, mine, here⟩
    have stay := items_stay behind.retains (Table.find?_mem reads.found)
    rw [Table.find?_key reads.found, <- reads.items] at stay
    have listed : item ∈ itemsIn view.current.remittanceItems id :=
      List.mem_filter.2 ⟨known, beq_iff_eq.2 mine⟩
    rw [stay] at listed
    obtain ⟨allocation, member, rfl⟩ := List.mem_map.1 listed
    obtain ⟨wasId, was, before, at_item, row⟩ := reads.allocation allocation member
    obtain ⟨rfl, -⟩ := current_case behind.ahead before is (at_item.trans here)
    have covers := (uniqueOrders_spec operation).2.2 allocation member
    rw [row] at covers
    exact (before.order_id.trans is.order_id.symm) ▸ covers

-- An order whose collection is written for all that is owed has its cash cleared.
theorem allocated_cleared (written : case.collection.id ∈ writtenIds view operation)
    (answers : Answers case case.order.expectedCodMillimes) :
    case.order.id ∈ clearedIds view operation := by
  obtain ⟨wasId, was, accountable, same, allocated⟩ := written_allocated reads written
  obtain ⟨rfl, later⟩ := current_case behind.ahead allocated.is is same
  have sound := old.settled.sound _ was allocated.is
  have count := later.counted (answered_recorded sound allocated.answers)
  obtain ⟨allocation, listed, -, row⟩ := allocated.listed
  have covers := (uniqueOrders_spec operation).2.2 allocation listed
  obtain ⟨order, unique, named⟩ := List.mem_map.1 covers
  obtain ⟨other, member, rfl⟩ := (uniqueOrders_spec operation).2.1 order unique
  obtain ⟨_, found, before, -, there⟩ := reads.allocation other member
  have one : other.order = was.order := by
    rw [there, row] at named
    have owner : found.order.id = was.order.id := named
    have sameId := before.order_id.symm.trans (owner.trans allocated.is.order_id)
    subst sameId
    rw [there, before.unique allocated.is]
    rfl
  refine List.mem_map.2 ⟨other.order, List.mem_filter.2 ⟨unique, ?_⟩, ?_⟩
  next =>
    have alone := @reread_case view operation wasId was case old.settled.linked behind.ahead allocated.is is later
    rw [if_pos (same ▸ written)] at alone
    have single : [remitted case.collection].filter (fun row => row.status != .voided) =
        [remitted case.collection] := by simp [remitted]
    rw [single] at alone
    have amount : accountableCollectionMillimes
        (discrepancyOf view.snapshot (remitted case.collection).id) (remitted case.collection) =
          .ok was.order.expectedCodMillimes := by
      have now := later.answered sound allocated.answers
      obtain rfl := Except.ok.inj (answers.symm.trans now)
      rw [remitted_id, later.collectionId, allocated.is.discrepancy]
      exact (later.cod ▸ (answers_same later.owed count.collected).2 allocated.answers)
    have bounds : 0 <= was.order.expectedCodMillimes /\
        was.order.expectedCodMillimes <= Money.maxMillimes := by
      have owed := sound.owed
      have counted := allocated.answers
      simp only [Answers, accountableCollectionMillimes, bind_ok, cashDifference_ok] at counted
      obtain ⟨_, ⟨expected, -⟩, -⟩ := counted
      omega
    have total : (do
        let amounts <- [remitted case.collection].mapM fun collection =>
          accountableCollectionMillimes (discrepancyOf view.snapshot collection.id) collection
        sumMillimes amounts : Except Failure Int) = .ok was.order.expectedCodMillimes := by
      refine (bind_ok _ _ _).2 ⟨[was.order.expectedCodMillimes], ?_, ?_⟩
      next => exact (mapM_cons_ok _ _ _ _).2 ⟨_, amount, [], rfl, rfl⟩
      next =>
        refine (orFail_ok _ _ _).2 ((Money.Cash.sumMillimes_ok _ _).2 ?_)
        simpa using bounds
    simp only [one, clears, alone, total]
    simp [remitted]
  next => rw [one, allocated.is.order_id, is.order_id]

end Orders

section Operations

variable (sums : Sums view.current) (stand : AllStand view.current)

include sums stand

theorem counting_stand {id discrepancyId actorUserId orderId : Id} {input : RecordRequest}
    {keyHash : ScopedKey} {case : OrderCase} {difference : Int}
    (counting : Counting view next id input keyHash discrepancyId actorUserId orderId case difference) :
    AllStand next := by
  have same := openRecorded_disputes rfl counting.opens
  have sound := sums.settled.sound orderId case counting.is
  have fresh : case.collection.status ∈ unrecordedStatuses := by
    simp [counting.expected, unrecordedStatuses]
  have free := unanswered_unheld sums.funded counting.is fun _ answers =>
    answered_recorded sound answers fresh
  rw [<- held_same counting.same.items same] at free
  refine writes_stand sums.settled.linked stand counting.is counting.writes counting.same.items same ?_
  by_cases differs : difference ≠ 0
  next =>
    refine iff_of_true (by simp [recordedCase, paid, differs]) (.inl ?_)
    exact ⟨_, if_pos differs, by simp [collectionDiscrepancy]⟩
  next =>
    refine iff_of_false ?_ ?_
    next =>
      simp only [recordedCase, paid, if_neg differs, collectedPaymentStatus]
      split <;> simp
    next =>
      rintro (⟨row, found, -⟩ | held)
      next => simp [recordedCase, if_neg differs, (sound.unrecorded fresh).discrepancy] at found
      next => exact free held

theorem resolves_stand {cashCollectionId id actorUserId orderId : Id} {input : ResolveCashDiscrepancy}
    {case : OrderCase} {row : CashDiscrepancy} (behind : Behind view.snapshot view.current)
    (ran : resolveCollectionDiscrepancy view cashCollectionId id input actorUserId = .ok next)
    (resolves : ResolvesCollection view next id input.resolution actorUserId orderId case row) :
    AllStand next := by
  have same := resolveCollectionDiscrepancy_disputes behind ran
  have free := unanswered_unheld sums.funded resolves.is fun _ answers => by
    rw [Answers, resolves.found] at answers
    exact answered_settled answers resolves.unsettled
  have unresolved : Unresolved case := ⟨row, resolves.found, fun settled => by
    have pending := resolves.unsettled
    simp [settled, unsettledStatuses] at pending⟩
  rw [<- held_same resolves.same.items same] at free
  have writes := resolves.writes
  cases resolution : input.resolution with
  | resolved =>
    rw [resolution] at writes
    refine writes_stand sums.settled.linked stand resolves.is writes resolves.same.items same ?_
    refine iff_of_false ?_ ?_
    next =>
      simp only [paid, collectedPaymentStatus]
      split <;> simp
    next =>
      rintro (⟨other, found, unsettled⟩ | held)
      next =>
        obtain rfl := Option.some.inj found
        exact unsettled rfl
      next => exact free held
  | writtenOff =>
    rw [resolution] at writes
    refine writes_stand sums.settled.linked stand resolves.is writes resolves.same.items same ?_
    exact iff_of_true ((stand orderId case resolves.is).2 (.inl unresolved)) (.inl ⟨_, rfl, by simp⟩)

-- A new remittance has no discrepancy yet.
theorem creates_stand {input : CreateCashRemittance} (disputing : Disputing view.current)
    (creates : Creates view input next) : AllStand next := by
  have same := creates.sameCases sums.settled.linked
  obtain ⟨row, remittances, id, -, -, inserted, rows⟩ := creates.rows
  have fresh := (Table.insert?_rows inserted).2
  intro orderId case is
  refine stands_same (stand orderId case (same.isCase.1 is)) Iff.rfl rfl rfl ?_
  simp only [Held, Disputed, rows, List.mem_append]
  constructor
  next =>
    rintro ⟨item, known | added, here, disputed⟩
    next => exact ⟨item, known, here, disputed⟩
    next =>
      obtain ⟨allocation, -, rfl⟩ := List.mem_map.1 added
      obtain ⟨other, member, scope, -⟩ := disputed
      obtain ⟨-, remittance, there, named, -⟩ := disputing.scope other member _ scope
      exact absurd (named.trans id.symm) (fresh remittance there)
  next =>
    rintro ⟨item, known, rest⟩
    exact ⟨item, .inl known, rest⟩

theorem disputes_stand {id : Id} {operation : RemittanceOperation}
    (behind : Behind view.snapshot view.current) (disputes : Disputes view id operation next) :
    AllStand next := by
  obtain ⟨row, scope, none, status, opens⟩ := disputes.opened
  have rows := (Table.insert?_rows (openDiscrepancy_ok.1 opens).2).1
  have items : next.remittanceItems = view.current.remittanceItems := by
    obtain ⟨events, written⟩ := disputes.rows
    rw [written]
  have disputed (remittanceId : Id) : Disputed next remittanceId <->
      Disputed view.current remittanceId \/ remittanceId = id := by
    simp only [Disputed, rows, List.mem_append, List.mem_singleton]
    constructor
    next =>
      rintro ⟨other, known | rfl, named, unresolved⟩
      next => exact .inl ⟨other, known, named, unresolved⟩
      next => exact .inr (Option.some.inj (named.symm.trans scope))
    next =>
      rintro (⟨other, known, rest⟩ | rfl)
      next => exact ⟨other, .inl known, rest⟩
      next => exact ⟨row, .inr rfl, scope, by simp [status]⟩
  have only := scoped_opened sums.settled.linked none opens
  have same : SameCases (settledRows view.current [] ((uniqueOrders operation).map Order.id)
      .reconciliationDiscrepancy) next := by
    obtain ⟨events, written⟩ := disputes.rows
    rw [settledRows_unremitted, written]
    exact sameCases_of_reads only.reads only.unique
  intro orderId last there
  obtain ⟨case, is, rfl⟩ := settled_case_before sums.settled.linked same there
  by_cases listed : case.order.id ∈ (uniqueOrders operation).map Order.id
  next =>
    obtain ⟨item, known, rfl, here⟩ := (ordered_iff behind disputes.reads is).1 listed
    refine iff_of_true ?_ (.inr ⟨item, items ▸ known, ?_, (disputed _).2 (.inr rfl)⟩)
    next =>
      rw [settledCase, Table.rewrite_chosen (by simpa using listed)]
      rfl
    next => rw [settledCase_collection, rewritten_remitted_id, here]
  next =>
    refine stands_same (stand orderId case is) ?_ (rewritten_remitted_id _ _) rfl ?_
    next => rw [settledCase, Table.rewrite_other (by simpa using listed)]
    next =>
      simp only [Held, items, disputed]
      refine exists_congr fun item => and_congr_right fun known => and_congr_right fun here => ?_
      exact or_iff_left fun mine =>
        listed ((ordered_iff behind disputes.reads is).2 ⟨item, known, mine, here⟩)

end Operations

-- Verifying is the last allocation of an order's cash or leaves a discrepancy of it; `id` concerns the
-- order and no other unresolved discrepancy does.
def Leaves (view : View) (id remittanceId : Id) : Prop :=
  exists order collection item, order ∈ view.current.orders.rows /\
    collection ∈ view.current.collections.rows /\ collection.orderId = order.id /\
    item ∈ view.current.remittanceItems /\ item.remittanceId = remittanceId /\
    item.cashCollectionId = collection.id /\
    Not (AccountsFor view.current collection.id
      (verifiedTotal view.snapshot collection.id + heldIn view.current remittanceId collection.id)) /\
    forall row, row ∈ view.current.discrepancies.rows -> Concerns view.current order row -> row.id = id

theorem verifies_items {source : CashRemittanceStatus} {id : Id} {operation : RemittanceOperation}
    (verifies : Verifies view source id operation next) :
    next.remittanceItems = view.current.remittanceItems := by
  obtain ⟨events, rows⟩ := verifies.rows
  rw [rows]
  rfl

section Settling

variable {id actorUserId remittanceId : Id} {input : ResolveCashDiscrepancy} {row : CashDiscrepancy}
  (behind : Behind view.snapshot view.current) (disputing : Disputing view.current)
  (settles : SettlesRemittance view id input actorUserId remittanceId row next)

include behind disputing settles

-- A remittance is no longer disputed once its discrepancy is resolved.
theorem settles_disputed (other : Id) : Disputed next other <->
    Disputed view.current other /\ (other = remittanceId -> input.resolution = .writtenOff) := by
  obtain ⟨now, there, same, named, unsettled, rows, status⟩ := settles_rows behind settles
  have pending : now.status ≠ .resolved := fun resolved => by simp [resolved, unsettledStatuses] at unsettled
  have chosen {found : CashDiscrepancy} (known : found ∈ view.current.discrepancies.rows)
      (hit : (found.id == id && found.status == row.status) = true) : found = now := by
    simp only [Bool.and_eq_true, beq_iff_eq] at hit
    exact view.current.discrepancies.same_of_key known there (hit.1.trans same.symm)
  simp only [Disputed, rows]
  constructor
  next =>
    rintro ⟨found, listed, scope, unresolved⟩
    obtain ⟨was, known, ⟨hit, rfl⟩ | ⟨miss, rfl⟩⟩ := Table.rewrite_mem listed
    next =>
      obtain rfl := chosen known hit
      refine ⟨⟨was, known, scope, pending⟩, fun _ => ?_⟩
      cases resolution : input.resolution with
      | resolved => simp [settledBy, resolution, Resolution.status] at unresolved
      | writtenOff => rfl
    next =>
      refine ⟨⟨found, known, scope, unresolved⟩, fun equal => ?_⟩
      have one := disputing.single found now known there (by simp [scope])
        (scope.trans (equal ▸ named.symm))
      simp [one, same, status] at miss
  next =>
    rintro ⟨⟨found, known, scope, unresolved⟩, otherwise⟩
    refine ⟨_, List.mem_map_of_mem known, (Table.rewrite_field (fun _ => by rfl) found).trans scope, ?_⟩
    let guard (other : CashDiscrepancy) : Bool := other.id == id && other.status == row.status
    change (Table.rewrite guard (settledBy input.resolution actorUserId) found).status ≠ .resolved
    cases hit : guard found with
    | false => rwa [Table.rewrite_other hit]
    | true =>
      obtain rfl := chosen known hit
      have equal := Option.some.inj (scope.symm.trans named)
      rw [Table.rewrite_chosen hit, settledBy, otherwise equal]
      simp [Resolution.status]

end Settling

section Verifying

variable {source : CashRemittanceStatus} {id : Id} {operation : RemittanceOperation}
  (old : Sums view.snapshot) (sums : Sums view.current) (behind : Behind view.snapshot view.current)
  (verifies : Verifies view source id operation next) (after : Sums next) (full : Full next)
  (disputing : Disputing next) (uneven : AllUneven next) (cleared : AllCleared next)

include verifies

omit verifies in
theorem settled_cleared {case : OrderCase} (listed : case.order.id ∈ clearedIds view operation) :
    (settledCase (writtenIds view operation) (clearedIds view operation) .cashRemitted
      case).order.paymentStatus = .cashRemitted := by
  rw [settledCase, Table.rewrite_chosen (by simpa using listed)]
  rfl

omit verifies in
theorem settled_uncleared {case : OrderCase} (listed : Not (case.order.id ∈ clearedIds view operation)) :
    (settledCase (writtenIds view operation) (clearedIds view operation) .cashRemitted
      case).order = case.order := by
  rw [settledCase, Table.rewrite_other (by simpa using listed)]

include after full disputing uneven cleared

theorem cleared_stands {orderId : Id} {case : OrderCase} (is : IsCase view.current orderId case)
    (listed : case.order.id ∈ clearedIds view operation) :
    Stands next (settledCase (writtenIds view operation) (clearedIds view operation) .cashRemitted case) := by
  have there := verifies_case verifies is
  have status := settled_cleared listed
  refine iff_of_false (by simp [status]) ?_
  exact cleared_unmarked after full disputing there (uneven orderId _ there) (cleared orderId _ there) status

-- Verifying a remittance without a discrepancy leaves every order standing as it should.
theorem agreed_stand (sums : Sums view.current) (stand : AllStand view.current)
    (same : next.discrepancies = view.current.discrepancies) : AllStand next := by
  intro orderId last there
  obtain ⟨case, is, rfl⟩ := verifies_case_before verifies sums there
  by_cases listed : case.order.id ∈ clearedIds view operation
  next => exact cleared_stands verifies after full disputing uneven cleared is listed
  next =>
    refine stands_same (stand orderId case is) ?_ (rewritten_remitted_id _ _) rfl ?_
    next => rw [settled_uncleared listed]
    next =>
      refine held_same (verifies_items verifies) ?_ _
      rw [same]
      exact SameDisputes.refl _

end Verifying

section Resolving

variable {id actorUserId remittanceId : Id} {input : ResolveCashDiscrepancy} {row : CashDiscrepancy}
  {operation : RemittanceOperation} (old : Sums view.snapshot) (sums : Sums view.current)
  (behind : Behind view.snapshot view.current) (disputing : Disputing view.current)
  (settles : SettlesRemittance view id input actorUserId remittanceId row next)
  (resolution : input.resolution = .resolved)
  (verifies : Verifies view .discrepancy remittanceId operation next)

-- What concerns an order besides one remittance.
def Otherwise (view : View) (remittanceId : Id) (case : OrderCase) : Prop :=
  Unresolved case \/ exists item, item ∈ view.current.remittanceItems /\
    item.cashCollectionId = case.collection.id /\ Disputed view.current item.remittanceId /\
    item.remittanceId ≠ remittanceId

include sums behind disputing settles

theorem otherwise_iff {orderId : Id} {case : OrderCase} (is : IsCase view.current orderId case) :
    Otherwise view remittanceId case <->
      exists other, other ∈ view.current.discrepancies.rows /\
        Concerns view.current case.order other /\ other.id ≠ id := by
  obtain ⟨now, there, same, named, -⟩ := settles_rows behind settles
  have settled := sums.settled
  constructor
  next =>
    rintro (⟨own, found, unresolved⟩ | ⟨item, known, here, ⟨other, member, scope, unresolved⟩, apart⟩)
    next =>
      have member := (Table.lookup_some (is.discrepancy.trans found)).1
      refine ⟨own, member, (concerns_case settled is own member).2 ⟨unresolved, .inl found⟩, fun equal => ?_⟩
      obtain rfl := view.current.discrepancies.same_of_key member there (equal.trans same.symm)
      simp [own_discrepancy (settled.sound orderId case is) found] at named
    next =>
      refine ⟨other, member, (concerns_case settled is other member).2
        ⟨unresolved, .inr ⟨item, known, here, scope⟩⟩, fun equal => ?_⟩
      obtain rfl := view.current.discrepancies.same_of_key member there (equal.trans same.symm)
      exact apart (Option.some.inj (scope.symm.trans named))
  next =>
    rintro ⟨other, member, concerns, apart⟩
    obtain ⟨unresolved, own | ⟨item, known, here, scope⟩⟩ :=
      (concerns_case settled is other member).1 concerns
    next => exact .inl ⟨other, own, unresolved⟩
    next =>
      refine .inr ⟨item, known, here, ⟨other, member, scope, unresolved⟩, fun equal => apart ?_⟩
      have one := disputing.single other now member there (by simp [scope])
        (scope.trans (equal ▸ named.symm))
      exact one ▸ same

include verifies resolution

omit sums in
theorem settled_marked {case : OrderCase} : Marked next
      (settledCase (writtenIds view operation) (clearedIds view operation) .cashRemitted case) <->
    Otherwise view remittanceId case := by
  have unresolved : Unresolved (settledCase (writtenIds view operation) (clearedIds view operation)
      .cashRemitted case) <-> Unresolved case := Iff.rfl
  rw [Marked, Otherwise, unresolved, settledCase_collection, rewritten_remitted_id]
  simp only [Held, verifies_items verifies, settles_disputed behind disputing settles, resolution]
  simp

include old

-- An order that only this discrepancy concerned, and whose collection is not allocated in full, stays.
theorem leaves_stuck (full : Full view.current) (stand : AllStand view.current) (after : Sums next)
    (leaves : Leaves view id remittanceId) : Not (AllStand next) := by
  intro every
  obtain ⟨order, collection, item, ordered, counted, owner, known, rfl, here, partially, only⟩ := leaves
  obtain ⟨case, is, rfl⟩ := sums.settled.linked.case_exists ordered
  obtain rfl := own_collection sums.settled is counted owner
  rw [accountsFor_case is] at partially
  have held := heldIn_positive sums.funded known
  rw [here] at held
  have alone : Not (Otherwise view item.remittanceId case) := fun others => by
    obtain ⟨other, member, concerns, apart⟩ := (otherwise_iff sums behind disputing settles is).1 others
    exact apart (only other member concerns)
  have unwritten : Not (case.collection.id ∈ writtenIds view operation) := fun written =>
    partially ((written_iff old behind verifies (by decide) is (by omega)).1 written)
  have uncleared : Not (case.order.id ∈ clearedIds view operation) := fun listed => by
    obtain ⟨-, -, status⟩ :=
      cleared_answers old.settled behind.ahead old.funded verifies.reads is listed
    rw [remittedCase, Table.rewrite_other (by simpa using unwritten)] at status
    have most := verifies_bound verifies (by decide) after is (full _ case is status)
    omega
  obtain ⟨now, there, -, named, unsettled, -⟩ := settles_rows behind settles
  have marked : Marked view.current case := .inr ⟨item, known, here, now, there, named, fun resolved => by
    simp [resolved, unsettledStatuses] at unsettled⟩
  have stands := every _ _ (verifies_case verifies is)
  rw [Stands, settled_marked behind disputing settles resolution verifies, settled_uncleared uncleared] at stands
  exact alone (stands.1 ((stand _ case is).2 marked))

theorem resolved_stand (stand : AllStand view.current) (after : Sums next) (fullAfter : Full next)
    (disputingAfter : Disputing next) (uneven : AllUneven next) (cleared : AllCleared next)
    (clears : Not (Leaves view id remittanceId)) : AllStand next := by
  intro orderId last there
  obtain ⟨case, is, rfl⟩ := verifies_case_before verifies sums there
  by_cases listed : case.order.id ∈ clearedIds view operation
  next => exact cleared_stands verifies after fullAfter disputingAfter uneven cleared is listed
  next =>
    have stands := stand orderId case is
    rw [Stands] at stands
    rw [Stands, settled_marked behind disputing settles resolution verifies, settled_uncleared listed,
      stands]
    refine ⟨fun marked => ?_, fun others => others.imp_right fun ⟨item, known, here, disputed, _⟩ =>
      ⟨item, known, here, disputed⟩⟩
    by_contra alone
    have resolved : Not (Unresolved case) := fun unresolved => alone (.inl unresolved)
    obtain ⟨item, known, here, disputed⟩ := marked.resolve_left resolved
    have mine : item.remittanceId = remittanceId := by
      by_contra apart
      exact alone (.inr ⟨item, known, here, disputed, apart⟩)
    have held := heldIn_positive sums.funded known
    rw [here, mine] at held
    refine clears ⟨case.order, case.collection, item, is.order_mem, is.collection_mem,
      is.collection_order.trans is.order_id.symm, known, mine, here, fun accounts => ?_,
      fun other member concerns => ?_⟩
    next =>
      have answers := (accountsFor_case is _).1 accounts
      have written := (written_iff old behind verifies (by decide) is (by omega)).2 answers
      have owed := resolved_answers (sums.settled.sound orderId case is) answers resolved
      exact listed (allocated_cleared old behind verifies.reads is written (owed ▸ answers))
    next =>
      by_contra apart
      exact alone ((otherwise_iff sums behind disputing settles is).2 ⟨other, member, concerns, apart⟩)

end Resolving

-- Writing a discrepancy off leaves it unresolved.
theorem written_off_stand {id actorUserId remittanceId : Id} {input : ResolveCashDiscrepancy}
    {row : CashDiscrepancy} (sums : Sums view.current) (behind : Behind view.snapshot view.current)
    (disputing : Disputing view.current) (stand : AllStand view.current)
    (settles : SettlesRemittance view id input actorUserId remittanceId row next)
    (writes : input.resolution = .writtenOff) : AllStand next := by
  have member := Table.find?_mem settles.read
  have scope := scoped_settled sums.settled.linked
    (fun other there same => (scope_of_snapshot behind member settles.scope.1 other there same).1)
    settles.unsettled settles.settles
  have outcome := settles.outcome
  rw [writes] at outcome
  obtain ⟨events, rows⟩ := outcome
  have same : SameCases view.current next := by
    rw [rows]
    exact sameCases_of_reads scope.reads scope.unique
  have items : next.remittanceItems = view.current.remittanceItems := by rw [rows]
  intro orderId case is
  refine stands_same (stand orderId case (same.isCase.1 is)) Iff.rfl rfl rfl ?_
  simp only [Held, items, settles_disputed behind disputing settles, writes, implies_true, and_true]

-- Outside cash no operation touches a discrepancy, and a cancelled order had none.
theorem outside_stand {now : Int} {op : System.Op} (sums : Sums db) (stand : AllStand db)
    (after : Sums next) (other : forall cash, op ≠ .cash cash)
    (ran : System.exec db now op = .ok next) : AllStand next := by
  have same := Frames.exec_writes ran .remitting (by cases op <;> simp [Frames.areas] at other ⊢)
  simp only [Frames.Area.Same, Prod.mk.injEq] at same
  obtain ⟨-, items, discrepancies, -⟩ := same
  have held := @held_same db next items (by rw [discrepancies]; exact SameDisputes.refl _)
  -- Discrepancies are as they were, so a case keeps its own wherever its collection is known.
  have keeps {orderId : Id} {last : OrderCase} (there : IsCase next orderId last)
      (ordered : exists was, was ∈ db.orders.rows /\ Billed was last.order)
      (counted : exists was, was ∈ db.collections.rows /\ Counted was last.collection) :
      Stands next last := by
    obtain ⟨order, member, billed⟩ := ordered
    obtain ⟨collection, known, kept⟩ := counted
    obtain ⟨case, is, rfl⟩ := sums.settled.linked.case_exists member
    rw [<- billed.id, there.order_id] at is
    have sameId : collection.id = last.collection.id /\ collection.orderId = last.collection.orderId := by
      rcases kept with equal | ⟨-, equal⟩ <;> rw [equal] <;> exact ⟨rfl, rfl⟩
    obtain rfl := own_collection sums.settled is known
      (sameId.2.trans (there.collection_order.trans is.order_id.symm))
    refine stands_same (stand orderId case is) ?_ sameId.1.symm ?_ (held _)
    next =>
      rcases billed.payment with equal | ⟨unpaid, cancelled⟩
      next => rw [equal]
      next =>
        refine iff_of_false (by simp [cancelled]) fun status => ?_
        simp [status, uncollected] at unpaid
    next =>
      rw [<- there.discrepancy, <- is.discrepancy, sameId.1, discrepancyOf, discrepancies]
      rfl
  intro orderId last there
  rcases exec_outside ran other with leaves | ⟨order, collection, enters⟩
  next => exact keeps there (leaves.orders _ there.order_mem) (leaves.collections _ there.collection_mem)
  next =>
    obtain ⟨orders, freshOrder⟩ := Table.insert?_rows enters.orders
    obtain ⟨collections, -⟩ := Table.insert?_rows enters.collections
    have ordered := there.order_mem
    have counted := there.collection_mem
    rw [orders, List.mem_append, List.mem_singleton] at ordered
    rw [collections, List.mem_append, List.mem_singleton] at counted
    have owner := there.collection_order.trans there.order_id.symm
    rcases counted with known | new
    next =>
      obtain ⟨case, is, row⟩ := sums.settled.linked.case_of_collection known
      rcases ordered with before | placed
      next => exact keeps there ⟨_, before, Billed.refl _⟩ ⟨_, known, .inl rfl⟩
      next => exact absurd (is.order_id.trans (owner.trans (placed ▸ rfl))) (freshOrder _ is.order_mem)
    next =>
      rcases ordered with before | placed
      next =>
        exact absurd (owner.symm.trans (new ▸ enters.owner)) (freshOrder _ before)
      next =>
        have sound := after.settled.sound orderId last there
        have fresh : last.collection.status ∈ unrecordedStatuses := by
          simp [new, enters.expected, unrecordedStatuses]
        refine iff_of_false (fun status => ?_) ?_
        next =>
          have unpaid := enters.unpaid
          rw [<- placed, status] at unpaid
          simp [uncollected] at unpaid
        next =>
          rintro (⟨row, found, -⟩ | reached)
          next => simp [(sound.unrecorded fresh).discrepancy] at found
          next =>
            exact unanswered_unheld after.funded there
              (fun _ answers => answered_recorded sound answers fresh) reached

theorem CaseStep.uneven {event : Event} {case after : OrderCase} (taken : CaseStep event case after)
    (uneven : Uneven case) : Uneven after := by
  cases taken with
  | recorded _ _ _ _ _ difference =>
    intro row found
    by_cases differs : difference ≠ 0
    next =>
      obtain rfl := Option.some.inj ((if_pos differs).symm.trans found)
      exact differs
    next => exact uneven row ((if_neg differs).symm.trans found)
  | corrected _ discrepancy _ found =>
    intro row resolved
    obtain rfl := Option.some.inj resolved
    exact uneven discrepancy found
  | writtenOff _ discrepancy _ found =>
    intro row resolved
    obtain rfl := Option.some.inj resolved
    exact uneven discrepancy found
  | _ => exact uneven

/-- A step resolves the last discrepancy that concerns an order whose collection is not yet allocated
in full to verified remittances. -/
def Sticks (session : Session) (label : Label) : Prop :=
  exists view id input actorUserId row remittanceId next,
    performed session label = some (view, .resolveDiscrepancy id input actorUserId) /\
      input.resolution = .resolved /\ view.current.discrepancies.find? id = some row /\
      row.remittanceId = some remittanceId /\
      resolveDiscrepancy view id input actorUserId = .ok next /\ Leaves view id remittanceId

-- What the discrepancies of a run rest on.
structure Orderly (session : Session) : Prop where
  steady : Steady session
  cleared : AllCleared session.clocked.db
  full : Full session.clocked.db
  uneven : AllUneven session.clocked.db
  disputing : Disputing session.clocked.db

section Cash

variable (old : Sums view.snapshot) (sums : Sums view.current)
  (behind : Behind view.snapshot view.current) (disputing : Disputing view.current)

include old sums behind disputing

theorem cash_disputing {op : CashOp} (ran : op.exec view = .ok next) : Disputing next := by
  cases op with
  | recordCollection =>
    obtain ⟨_, _, -, ⟨_, -, rfl⟩ | ⟨case, difference, counting⟩⟩ :=
      recordCollection_cases old.settled sums.settled behind.ahead ran
    next => exact disputing
    next =>
      refine disputing_kept disputing (openRecorded_disputes rfl counting.opens) ?_
      rw [counting.same.remittances]
      exact KeepsJudged.refl _
  | createRemittance =>
    have creates := createRemittance_ok old behind ran
    refine disputing_kept disputing ?_ (creates_judged creates)
    obtain ⟨_, _, -, -, -, -, rfl⟩ := creates.rows
    exact SameDisputes.refl _
  | submitRemittance =>
    obtain ⟨turned, rows⟩ := submitRemittance_ok ran
    refine disputing_kept disputing ?_ (turned_judged turned (by decide))
    rw [rows]
    exact SameDisputes.refl _
  | reconcileRemittance =>
    obtain ⟨operation, ⟨-, verifies, same⟩ | ⟨-, disputes⟩⟩ := reconcileRemittance_cases old sums ran
    next =>
      refine disputing_kept disputing ?_ (turned_judged verifies.turned (by decide))
      rw [same]
      exact SameDisputes.refl _
    next => exact disputes_disputing disputing disputes
  | resolveDiscrepancy =>
    rcases resolveDiscrepancy_cases ran with ⟨_, collection⟩ | ⟨_, remittance⟩
    next =>
      obtain ⟨_, _, _, resolves⟩ :=
        resolveCollectionDiscrepancy_ok old.settled sums.settled behind.ahead collection
      refine disputing_kept disputing (resolveCollectionDiscrepancy_disputes behind collection) ?_
      rw [resolves.same.remittances]
      exact KeepsJudged.refl _
    next =>
      obtain ⟨row, settles⟩ := resolveRemittanceDiscrepancy_ok old sums behind remittance
      exact settles_disputing behind disputing settles

variable (full : Full view.current) (stand : AllStand view.current) (after : Sums next)
  (fullAfter : Full next) (disputingAfter : Disputing next) (uneven : AllUneven next)
  (cleared : AllCleared next)

include full stand after fullAfter disputingAfter uneven cleared

theorem resolution_stand {id actorUserId : Id} {input : ResolveCashDiscrepancy}
    (ran : resolveDiscrepancy view id input actorUserId = .ok next) : AllStand next <->
      Not (exists row remittanceId, input.resolution = .resolved /\
        view.current.discrepancies.find? id = some row /\ row.remittanceId = some remittanceId /\
        Leaves view id remittanceId) := by
  rcases resolveDiscrepancy_cases ran with ⟨_, collection⟩ | ⟨_, remittance⟩
  next =>
    obtain ⟨orderId, case, own, resolves⟩ :=
      resolveCollectionDiscrepancy_ok old.settled sums.settled behind.ahead collection
    refine iff_of_true (resolves_stand sums stand behind collection resolves) ?_
    rintro ⟨row, _, -, found, scope, -⟩
    have here := Table.find?_of_mem (Table.lookup_some (resolves.is.discrepancy.trans resolves.found)).1
    rw [resolves.id, found] at here
    obtain rfl := Option.some.inj here
    simp [own_discrepancy (sums.settled.sound orderId case resolves.is) resolves.found] at scope
  next =>
    obtain ⟨read, settles⟩ := resolveRemittanceDiscrepancy_ok old sums behind remittance
    obtain ⟨now, there, same, named, -⟩ := settles_rows behind settles
    have found : view.current.discrepancies.find? id = some now := same ▸ Table.find?_of_mem there
    have outcome := settles.outcome
    cases resolution : input.resolution with
    | resolved =>
      rw [resolution] at outcome
      obtain ⟨operation, verifies⟩ := outcome
      constructor
      next =>
        rintro every ⟨row, remittanceId, -, known, scope, leaves⟩
        obtain rfl := Option.some.inj (found.symm.trans known)
        obtain rfl := Option.some.inj (named.symm.trans scope)
        exact leaves_stuck old sums behind disputing settles resolution verifies full stand after leaves every
      next =>
        intro clears
        exact resolved_stand old sums behind disputing settles resolution verifies stand after fullAfter
          disputingAfter uneven cleared fun leaves => clears ⟨now, _, rfl, found, named, leaves⟩
    | writtenOff =>
      refine iff_of_true (written_off_stand sums behind disputing stand settles resolution) ?_
      rintro ⟨_, _, resolved, -⟩
      simp at resolved

omit full in
theorem cash_stand {op : CashOp} (ran : op.exec view = .ok next)
    (other : forall id input actorUserId, op ≠ .resolveDiscrepancy id input actorUserId) :
    AllStand next := by
  cases op with
  | recordCollection =>
    obtain ⟨_, _, -, ⟨_, -, rfl⟩ | ⟨case, difference, counting⟩⟩ :=
      recordCollection_cases old.settled sums.settled behind.ahead ran
    next => exact stand
    next => exact counting_stand sums stand counting
  | createRemittance => exact creates_stand sums stand disputing (createRemittance_ok old behind ran)
  | submitRemittance =>
    obtain ⟨-, rows⟩ := submitRemittance_ok ran
    have same : SameCases view.current next := by
      rw [rows]
      exact sameCases_of_reads (fun _ => rfl) sums.settled.linked.opened
    intro orderId case is
    refine stands_same (stand orderId case (same.isCase.1 is)) Iff.rfl rfl rfl (held_same ?_ ?_ _)
    next => rw [rows]
    next =>
      rw [rows]
      exact SameDisputes.refl _
  | reconcileRemittance =>
    obtain ⟨operation, ⟨-, verifies, same⟩ | ⟨-, disputes⟩⟩ := reconcileRemittance_cases old sums ran
    next => exact agreed_stand verifies after fullAfter disputingAfter uneven cleared sums stand same
    next => exact disputes_stand sums stand behind disputes
  | resolveDiscrepancy id input actorUserId => exact absurd rfl (other id input actorUserId)

end Cash

theorem step_disputing (session : Session) (label : Label) (steady : Steady session)
    (disputing : Disputing session.clocked.db) : Disputing (step session label).clocked.db := by
  cases performs : performed session label with
  | none =>
    rcases unperformed performs with same | ⟨timed, -, other, ran⟩
    next => rwa [same]
    next =>
      have same := Frames.exec_writes ran .remitting (by
        cases op : timed.op <;> simp [Frames.areas, op] at other ⊢)
      simp only [Frames.Area.Same, Prod.mk.injEq] at same
      obtain ⟨remittances, -, discrepancies, -⟩ := same
      refine disputing_kept disputing ?_ ?_
      next => exact discrepancies ▸ SameDisputes.refl _
      next => exact remittances ▸ KeepsJudged.refl _
  | some both =>
    obtain ⟨view, op⟩ := both
    obtain ⟨same, old, behind, reached⟩ := performed_view steady performs
    rw [<- same] at disputing
    rw [reached]
    cases ran : op.exec view with
    | error failure => exact disputing
    | ok next => exact cash_disputing old (same ▸ steady.sums) behind disputing ran

theorem step_orderly (session : Session) (label : Label) (orderly : Orderly session) :
    Orderly (step session label) where
  steady := step_steady session label orderly.steady
  cleared := step_cleared session label orderly.steady orderly.cleared
  full := step_full session label orderly.steady orderly.full
  uneven := step_each (fun case fresh row found => by simp [fresh.discrepancy] at found)
    (fun _ _ _ taken _ kept => CaseStep.uneven taken kept) session label orderly.steady orderly.uneven
  disputing := step_disputing session label orderly.steady orderly.disputing

theorem step_stand (session : Session) (label : Label) (orderly : Orderly session)
    (stand : AllStand session.clocked.db) :
    AllStand (step session label).clocked.db <-> Not (Sticks session label) := by
  have last := step_orderly session label orderly
  cases performs : performed session label with
  | none =>
    refine iff_of_true ?_ fun ⟨_, _, _, _, _, _, _, here, _⟩ => by simp [performs] at here
    rcases unperformed performs with same | ⟨timed, -, other, ran⟩
    next => rwa [same]
    next => exact outside_stand orderly.steady.sums stand last.steady.sums other ran
  | some both =>
    obtain ⟨view, op⟩ := both
    obtain ⟨same, old, behind, reached⟩ := performed_view orderly.steady performs
    have sums : Sums view.current := same ▸ orderly.steady.sums
    have disputing : Disputing view.current := same ▸ orderly.disputing
    have full : Full view.current := same ▸ orderly.full
    obtain ⟨steady, cleared, fullAfter, uneven, disputingAfter⟩ := last
    have after := steady.sums
    rw [<- same] at stand
    rw [reached] at after cleared fullAfter uneven disputingAfter ⊢
    cases ran : op.exec view with
    | error failure =>
      refine iff_of_true stand ?_
      rintro ⟨_, _, _, _, _, _, _, here, -, -, -, succeeds, -⟩
      obtain ⟨rfl, rfl⟩ := Prod.mk.inj (Option.some.inj (performs.symm.trans here))
      have failed : resolveDiscrepancy view _ _ _ = .error failure := ran
      simp [failed] at succeeds
    | ok next =>
      simp only [ran, succeeded, Option.getD_some] at after cleared fullAfter uneven disputingAfter ⊢
      by_cases resolving : exists id input actorUserId, op = .resolveDiscrepancy id input actorUserId
      next =>
        obtain ⟨id, input, actorUserId, rfl⟩ := resolving
        refine (resolution_stand old sums behind disputing full stand after fullAfter disputingAfter
          uneven cleared ran).trans (not_congr ⟨?_, ?_⟩)
        next =>
          rintro ⟨row, remittanceId, resolution, found, scope, leaves⟩
          exact ⟨view, id, input, actorUserId, row, remittanceId, next, performs, resolution, found, scope,
            ran, leaves⟩
        next =>
          rintro ⟨_, _, _, _, row, remittanceId, _, here, resolution, found, scope, -, leaves⟩
          obtain ⟨rfl, call⟩ := Prod.mk.inj (Option.some.inj (performs.symm.trans here))
          injection call with sameId sameInput
          subst sameId sameInput
          exact ⟨row, remittanceId, resolution, found, scope, leaves⟩
      next =>
        refine iff_of_true (cash_stand old sums behind disputing stand after fullAfter disputingAfter
          uneven cleared ran fun id input actorUserId is => resolving ⟨id, input, actorUserId, is⟩) ?_
        rintro ⟨_, id, input, actorUserId, _, _, _, here, -⟩
        exact resolving ⟨id, input, actorUserId,
          (Prod.mk.inj (Option.some.inj (performs.symm.trans here))).2⟩

/-- The orders in discrepancy are, throughout an interleaving, exactly those that an unresolved
discrepancy concerns when no step of it resolves the last one of an order whose collection is not yet
allocated in full. -/
theorem status_exact_iff (config : Config.Configuration) (orderSequence : Option Int) (start : Int)
    (labels : List Label) :
    (forall session, Runs.Visits step (opening config orderSequence start) labels session ->
        StatusExact session.clocked.db) <->
      forall session label, Runs.Takes step (opening config orderSequence start) labels session label ->
        Not (Sticks session label) := by
  have none {orderId : Id} {case : OrderCase} :
      Not (IsCase (opening config orderSequence start).clocked.db orderId case) :=
    fun is => Orders.Runs.no_case is
  have orderly : Orderly (opening config orderSequence start) := {
    steady := opening_steady config orderSequence start
    cleared := fun _ _ is => absurd is none
    full := fun _ _ is => absurd is none
    uneven := fun _ _ is => absurd is none
    disputing := ⟨by simp [opening, System.opening, Db.empty], by simp [opening, System.opening, Db.empty]⟩ }
  refine @Runs.always_iff_steps Session Label step Orderly
    (fun session => StatusExact session.clocked.db) (fun session label => Not (Sticks session label))
    step_orderly (fun session label orderly exact => ?_) _ orderly ?_ labels
  next =>
    rw [status_exact_cases (step_steady session label orderly.steady).sums.settled]
    exact step_stand session label orderly ((status_exact_cases orderly.steady.sums.settled).1 exact)
  next => exact (status_exact_cases orderly.steady.sums.settled).2 fun _ _ is => absurd is none

-- One of two remittances of a collection is counted short, then corrected.
def shortReason : ReconcileCashRemittance where
  verifiedMillimes := 19000
  reasonCode := some ['s']
  reasonDetail := some ['s', 'h', 'o', 'r', 't']

def correctedEarly : List System.Op := splitCollection ++ [
  .cash (.reconcileRemittance 1 shortReason 1 10),
  .cash (.resolveDiscrepancy 1 { resolution := .resolved, finalVerifiedMillimes := some 20000 } 11)]

theorem corrected_early_sticks : Not (forall config orderSequence start labels session,
    Runs.Visits step (opening config orderSequence start) labels session ->
      StatusExact session.clocked.db) := by
  intro claimed
  let labels := (System.Sample.timed correctedEarly).map Label.atomic
  let reached := Runs.run step (opening System.Sample.shop (some 0) 0) labels
  have exact := claimed System.Sample.shop (some 0) 0 labels reached (Runs.visits_end _ _)
  have stuck : reached.clocked.db.orders.rows.any (fun order =>
      order.paymentStatus == .reconciliationDiscrepancy &&
        reached.clocked.db.discrepancies.rows.all fun row => row.status == .resolved) = true := by
    decide +kernel
  obtain ⟨order, member, found⟩ := List.any_eq_true.1 stuck
  simp only [Bool.and_eq_true, beq_iff_eq, List.all_eq_true] at found
  obtain ⟨row, listed, unresolved, -⟩ := (exact order member).1 found.1
  exact unresolved (found.2 row listed)

end VapeCommerce.Cash.Standing
