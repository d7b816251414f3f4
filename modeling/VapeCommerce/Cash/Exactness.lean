import VapeCommerce.Cash.Outside
import VapeCommerce.Cash.Sessions
import VapeCommerce.Cash.Verified

set_option autoImplicit false

-- A collection is remitted exactly when verified remittances hold all it answers for.
namespace VapeCommerce.Cash.Exactness

open VapeCommerce.Lib VapeCommerce.Lib.Outcome VapeCommerce.Schema VapeCommerce.Database
open VapeCommerce.Cash.Calculations VapeCommerce.Cash.Admin VapeCommerce.Cash.Accountable
open VapeCommerce.Cash.Steps VapeCommerce.Cash.Remittances VapeCommerce.Cash.Settlement
open VapeCommerce.Cash.Operations VapeCommerce.Cash.Outside VapeCommerce.Cash.Sessions
open VapeCommerce.Cash.Verified
open VapeCommerce.Orders.Case VapeCommerce.Orders.Progress VapeCommerce.Orders.Onward
open VapeCommerce.Orders.Steps VapeCommerce.Orders.Transactions
open VapeCommerce.System hiding step step_keeps run_keeps opening

variable {db next : Db} {view : View}

theorem sound_answers_positive {case : OrderCase} {accountable : Int} (sound : Sound case)
    (answers : Answers case accountable) : 0 < accountable := by
  have recorded := sound.recorded (answered_recorded sound answers)
  have owed := sound.owed
  have positive := sound.positive
  have counted := recorded.positive
  simp only [Answers, accountableCollectionMillimes, bind_ok, cashDifference_ok] at answers
  obtain ⟨difference, -, answers⟩ := answers
  cases found : case.discrepancy with
  | none =>
    simp only [found, bind_ok, pure_ok] at answers
    obtain ⟨-, -, rfl⟩ := answers
    exact counted
  | some row =>
    simp only [found, bind_ok, pure_ok] at answers
    obtain ⟨-, -, -, -, rfl⟩ := answers
    split <;> omega

-- The discrepancy of a collection is of no remittance.
theorem own_discrepancy {case : OrderCase} {row : CashDiscrepancy} (sound : Sound case)
    (found : case.discrepancy = some row) : row.remittanceId = none := by
  have recorded : Not (case.collection.status ∈ unrecordedStatuses) := fun fresh => by
    simp [(sound.unrecorded fresh).discrepancy] at found
  obtain ⟨difference, -, accounts⟩ := (sound.recorded recorded).balance
  simp only [Accounts, found] at accounts
  exact accounts.2.1

-- A collection is remitted exactly when all it answers for is in verified remittances.
def Exact (db : Db) (case : OrderCase) : Prop :=
  case.collection.status = .remitted <-> Answers case (verifiedTotal db case.collection.id)

def AllExact (db : Db) : Prop :=
  forall orderId case, IsCase db orderId case -> Exact db case

-- Remitted collections of `next` were remitted before.
def RemitsNone (db next : Db) : Prop :=
  forall row, row ∈ next.collections.rows -> row.status = .remitted ->
    exists was, was ∈ db.collections.rows /\ was.id = row.id /\ was.status = .remitted

theorem case_before {orderId : Id} {case after : OrderCase} {otherId : Id} (behind : Behind db next)
    (is : IsCase db orderId case) (there : IsCase next otherId after)
    (same : case.collection.id = after.collection.id) : orderId = otherId /\ Later case after := by
  obtain ⟨last, here, later⟩ := behind.ahead orderId case is
  obtain ⟨rfl, rfl⟩ := case_of_collection_id here there (later.collectionId.trans same)
  exact ⟨rfl, later⟩

-- The half of it that no interleaving breaks.
def Full (db : Db) : Prop :=
  forall orderId case, IsCase db orderId case -> case.collection.status = .remitted ->
    Answers case (verifiedTotal db case.collection.id)

theorem AllExact.full (exact : AllExact db) : Full db :=
  fun orderId case is => (exact orderId case is).1

theorem full_kept (sums : Sums db) (behind : Behind db next) (full : Full db)
    (totals : forall collectionId, verifiedTotal next collectionId = verifiedTotal db collectionId)
    (none : RemitsNone db next) : Full next := by
  intro orderId last there remitted
  obtain ⟨row, member, same, status⟩ := none last.collection there.collection_mem remitted
  obtain ⟨case, is, rfl⟩ := sums.settled.linked.case_of_collection member
  obtain ⟨-, later⟩ := case_before behind is there same
  rw [totals, <- same]
  exact later.answered (sums.settled.sound _ case is) (full _ case is status)

-- Without new verified items and newly remitted collections nothing changes.
theorem exact_kept (sums : Sums db) (after : Sums next) (behind : Behind db next) (exact : AllExact db)
    (totals : forall collectionId, verifiedTotal next collectionId = verifiedTotal db collectionId)
    (none : RemitsNone db next) : AllExact next := by
  intro orderId last there
  refine ⟨full_kept sums behind exact.full totals none orderId last there, fun answers => ?_⟩
  rw [totals] at answers
  have positive := sound_answers_positive (after.settled.sound orderId last there) answers
  obtain ⟨item, known, here, -⟩ :=
    verifiedTotal_item (fun zero => by omega : verifiedTotal db last.collection.id ≠ 0)
  obtain ⟨caseId, case, accountable, is, on, -, backed⟩ := sums.funded.backed item known
  obtain ⟨-, later⟩ := case_before behind is there (on.trans here)
  have sound := sums.settled.sound caseId case is
  obtain rfl := Except.ok.inj (answers.symm.trans (later.answered sound backed))
  rw [<- here, <- on] at backed
  exact (later.counted (answered_recorded sound backed)).remitted ((exact caseId case is).2 backed)

def AccountsFor (db : Db) (collectionId : Id) (total : Int) : Prop :=
  exists row, db.collections.find? collectionId = some row /\
    accountableCollectionMillimes (discrepancyOf db collectionId) row = .ok total

theorem accountsFor_case {orderId : Id} {case : OrderCase} (is : IsCase db orderId case) (total : Int) :
    AccountsFor db case.collection.id total <-> Answers case total := by
  unfold AccountsFor
  rw [Table.find?_of_mem is.collection_mem, is.discrepancy]
  constructor
  next =>
    rintro ⟨row, ⟨⟩, answers⟩
    exact answers
  next => exact fun answers => ⟨_, rfl, answers⟩

-- The remittance is the last allocation of a collection, and the snapshot lacks another one.
def Lags (view : View) (remittanceId : Id) : Prop :=
  exists item, item ∈ view.current.remittanceItems /\ item.remittanceId = remittanceId /\
    AccountsFor view.current item.cashCollectionId
      (verifiedTotal view.current item.cashCollectionId +
        heldIn view.current remittanceId item.cashCollectionId) /\
    verifiedTotal view.snapshot item.cashCollectionId ≠
      verifiedTotal view.current item.cashCollectionId

-- The orders after some of them are paid and some collections remitted are the orders before, settled.
theorem settled_case_before {collectionIds paidIds : List Id} {paymentStatus : PaymentStatus} {orderId : Id}
    {last : OrderCase} (linked : Linked db)
    (same : SameCases (settledRows db collectionIds paidIds paymentStatus) next)
    (there : IsCase next orderId last) : exists case, IsCase db orderId case /\
      last = settledCase collectionIds paidIds paymentStatus case := by
  have before := same.isCase.1 there
  have known : orderId ∈ orderIds db := by
    have ids : orderIds (settledRows db collectionIds paidIds paymentStatus) = orderIds db :=
      orderIds_updated _ _ (paid_id _)
    rw [<- ids]
    exact before.order_id ▸ List.mem_map_of_mem before.order_mem
  obtain ⟨order, member, rfl⟩ := List.mem_map.1 known
  obtain ⟨case, is, -⟩ := linked.case_exists member
  exact ⟨case, is, before.unique (settled_is is _ _ _)⟩

theorem verifies_same {source : CashRemittanceStatus} {id : Id} {operation : RemittanceOperation}
    (verifies : Verifies view source id operation next) :
    SameCases (settledRows view.current (writtenIds view operation) (clearedIds view operation)
      .cashRemitted) next := by
  obtain ⟨events, rows⟩ := verifies.rows
  rw [rows]
  exact sameCases_of_reads verifies.scope.reads verifies.scope.unique

section Verifying

variable {source : CashRemittanceStatus} {id : Id} {operation : RemittanceOperation}
  (old : Sums view.snapshot) (sums : Sums view.current) (behind : Behind view.snapshot view.current)
  (verifies : Verifies view source id operation next) (pending : source ≠ .verified)

include verifies

-- A verified remittance leaves each order settled as far as the transaction counts.
theorem verifies_case {orderId : Id} {case : OrderCase}
    (is : IsCase view.current orderId case) : IsCase next orderId
      (settledCase (writtenIds view operation) (clearedIds view operation) .cashRemitted case) :=
  (verifies_same verifies).isCase.2 (settled_is is _ _ _)

omit verifies in
theorem settled_answers {case : OrderCase} {total : Int} :
    Answers (settledCase (writtenIds view operation) (clearedIds view operation) .cashRemitted case)
      total <-> Answers case total :=
  remittedCase_answers _

omit verifies in
theorem settledCase_collection (written cleared : List Id) (paymentStatus : PaymentStatus)
    (case : OrderCase) : (settledCase written cleared paymentStatus case).collection =
      Table.rewrite (fun row => decide (row.id ∈ written)) remitted case.collection := rfl

theorem verifies_case_before (sums : Sums view.current) {orderId : Id} {last : OrderCase}
    (there : IsCase next orderId last) : exists case, IsCase view.current orderId case /\
      last = settledCase (writtenIds view operation) (clearedIds view operation) .cashRemitted case :=
  settled_case_before sums.settled.linked (verifies_same verifies) there

include pending

theorem verifies_total (collectionId : Id) : verifiedTotal next collectionId =
    verifiedTotal view.current collectionId + heldIn view.current id collectionId := by
  obtain ⟨events, rows⟩ := verifies.rows
  exact verified_adds verifies.turned pending (by rw [rows]; rfl) collectionId

-- What a collection answers for bounds what is verified of it.
theorem verifies_bound (after : Sums next) {orderId : Id} {case : OrderCase}
    (is : IsCase view.current orderId case) {total : Int} (answers : Answers case total) :
    verifiedTotal view.current case.collection.id + heldIn view.current id case.collection.id <=
      total := by
  have items := after.funded.covered orderId _ total (verifies_case verifies is)
    (settled_answers.2 answers)
  rw [settledCase_collection, rewritten_remitted_id] at items
  rw [<- verifies_total verifies pending]
  exact (verifiedTotal_le_items after.funded _).trans items

include old behind

-- A collection is written exactly when the snapshot finds it allocated in full.
theorem written_iff {orderId : Id} {case : OrderCase} (is : IsCase view.current orderId case)
    (held : heldIn view.current id case.collection.id ≠ 0) :
    case.collection.id ∈ writtenIds view operation <->
      Answers case (verifiedTotal view.snapshot case.collection.id +
        heldIn view.current id case.collection.id) := by
  have reads := verifies.reads
  have unverified : verifiedIn view.snapshot id = false := by
    refine Bool.eq_false_iff.2 fun was => ?_
    obtain ⟨row, member, here, status⟩ := verifiedIn_iff.1 was
    obtain ⟨now, there, same, -, -, kept⟩ := behind.retains.remittances row member
    have still := verifiedIn_iff.2 ⟨now, there, same.trans here, kept status⟩
    rw [turned_unverified verifies.turned pending] at still
    simp at still
  have items : itemsIn view.current.remittanceItems id = itemsIn view.snapshot.remittanceItems id := by
    have stay := items_stay behind.retains (Table.find?_mem reads.found)
    rwa [Table.find?_key reads.found] at stay
  -- The remittance holds an item on the collection, so the transaction has read the case.
  have listed : case.collection.id ∈ operation.items.map (·.item.cashCollectionId) := by
    obtain ⟨item, mine, here⟩ := held_item held
    rw [items, <- reads.items] at mine
    obtain ⟨allocation, listed, rfl⟩ := List.mem_map.1 mine
    exact List.mem_map.2 ⟨allocation, listed, here⟩
  have counted : itemsTotal (itemsOn (countedItems view.snapshot operation) case.collection.id) =
      verifiedTotal view.snapshot case.collection.id + heldIn view.current id case.collection.id := by
    rw [counted_total reads unverified listed, heldIn, heldIn, items]
  rw [<- counted]
  constructor
  next =>
    intro written
    obtain ⟨_, was, accountable, same, allocated⟩ := written_allocated reads written
    obtain ⟨-, later⟩ := current_case behind.ahead allocated.is is same
    rw [<- same, allocated.total]
    exact (allocated.current old.settled old.funded reads later).1
  next =>
    intro answers
    obtain ⟨allocation, member, here⟩ := List.mem_map.1 listed
    obtain ⟨wasId, was, before, at_item, row⟩ := reads.allocation allocation member
    have same : was.collection.id = case.collection.id := at_item.trans here
    obtain ⟨-, later⟩ := current_case behind.ahead before is same
    obtain ⟨-, accountable, answered⟩ :=
      Funded.courier old.funded (reads.item_mem member).1 before at_item
    have now := later.answered (old.settled.sound wasId was before) answered
    obtain rfl := Except.ok.inj (answers.symm.trans now)
    rw [<- same] at answered ⊢
    exact allocated_written ⟨before, answered, rfl, allocation, member, at_item, row⟩

omit old pending in
-- The remittance holds something of every collection it writes.
theorem written_held (sums : Sums view.current) {case : OrderCase}
    (written : case.collection.id ∈ writtenIds view operation) :
    1 <= heldIn view.current id case.collection.id := by
  obtain ⟨_, was, accountable, same, allocated⟩ := written_allocated verifies.reads written
  obtain ⟨allocation, listed, here, -⟩ := allocated.listed
  obtain ⟨known, mine⟩ := verifies.reads.item_mem listed
  obtain ⟨added, items, -⟩ := behind.retains.items
  have holds := heldIn_positive sums.funded
    (show allocation.item ∈ view.current.remittanceItems by simp [items, known])
  rwa [mine, <- here, same] at holds

include sums

-- A collection that the snapshot does not find in full stays open, though it now is.
theorem verifies_lags (lags : Lags view id) (exact : AllExact view.current) : Not (AllExact next) := by
  intro every
  obtain ⟨item, member, rfl, accounts, behindhand⟩ := lags
  obtain ⟨orderId, case, accountable, is, here, -, -⟩ := sums.funded.backed item member
  have holds := heldIn_positive sums.funded member
  rw [<- here] at accounts behindhand holds
  have answers := (accountsFor_case is _).1 accounts
  have status : (settledCase (writtenIds view operation) (clearedIds view operation) .cashRemitted
      case).collection.status = .remitted := by
    refine (every orderId _ (verifies_case verifies is)).2 ?_
    rw [settledCase_collection, rewritten_remitted_id, verifies_total verifies pending]
    exact (remittedCase_answers _).2 answers
  rw [settledCase_collection] at status
  by_cases written : case.collection.id ∈ writtenIds view operation
  next =>
    have counts := (written_iff old behind verifies pending is (by omega)).1 written
    have equal := Except.ok.inj (answers.symm.trans counts)
    exact behindhand (by omega)
  next =>
    rw [Table.rewrite_other (by simpa using written)] at status
    have equal := Except.ok.inj (((exact orderId case is).1 status).symm.trans answers)
    omega

-- A collection that is written is verified in full by now.
theorem written_full (after : Sums next) {orderId : Id} {case : OrderCase}
    (is : IsCase view.current orderId case) (written : case.collection.id ∈ writtenIds view operation) :
    Answers case (verifiedTotal view.current case.collection.id +
      heldIn view.current id case.collection.id) := by
  have held := written_held behind verifies sums written
  have answers := (written_iff old behind verifies pending is (by omega)).1 written
  have most := verifies_bound verifies pending after is answers
  have grows := verifiedTotal_grows sums.funded behind.retains case.collection.id
  have equal : verifiedTotal view.snapshot case.collection.id =
      verifiedTotal view.current case.collection.id := by omega
  exact equal ▸ answers

theorem verifies_full (after : Sums next) (full : Full view.current) : Full next := by
  intro orderId last there
  obtain ⟨case, is, rfl⟩ := verifies_case_before verifies sums there
  rw [settled_answers, settledCase_collection, rewritten_remitted_id, verifies_total verifies pending]
  by_cases written : case.collection.id ∈ writtenIds view operation
  next => exact fun _ => written_full old sums behind verifies pending after is written
  next =>
    rw [Table.rewrite_other (by simpa using written)]
    intro status
    have answers := full orderId case is status
    have most := verifies_bound verifies pending after is answers
    have nonneg := heldIn_nonneg sums.funded id case.collection.id
    have none : heldIn view.current id case.collection.id = 0 := by omega
    rwa [none, Int.add_zero]

theorem verifies_exact (after : Sums next) (current : Not (Lags view id)) (exact : AllExact view.current) :
    AllExact next := by
  intro orderId last there
  refine ⟨verifies_full old sums behind verifies pending after exact.full orderId last there, ?_⟩
  obtain ⟨case, is, rfl⟩ := verifies_case_before verifies sums there
  rw [settled_answers, settledCase_collection, rewritten_remitted_id, verifies_total verifies pending]
  by_cases written : case.collection.id ∈ writtenIds view operation
  next => exact fun _ => by rw [Table.rewrite_chosen (by simpa using written)]; rfl
  next =>
    rw [Table.rewrite_other (by simpa using written)]
    intro answers
    by_cases held : heldIn view.current id case.collection.id = 0
    next =>
      rw [held, Int.add_zero] at answers
      exact (exact orderId case is).2 answers
    next =>
      refine absurd ?_ current
      obtain ⟨item, mine, on⟩ := held_item held
      obtain ⟨known, same⟩ := List.mem_filter.1 mine
      refine ⟨item, known, beq_iff_eq.1 same, ?_, ?_⟩
      next => exact on ▸ (accountsFor_case is _).2 answers
      next =>
        rw [on]
        intro equal
        exact written ((written_iff old behind verifies pending is held).2 (equal ▸ answers))

end Verifying

theorem remitsNone_same (same : next.collections = db.collections) : RemitsNone db next :=
  fun row member status => ⟨row, same ▸ member, rfl, status⟩

theorem remitsNone_update {guard : CashCollection -> Bool} {change : CashCollection -> CashCollection}
    (rows : next.collections.rows = db.collections.rows.map (Table.rewrite guard change))
    (other : forall row, (change row).status ≠ .remitted) : RemitsNone db next := by
  intro row member status
  rw [rows] at member
  obtain ⟨was, there, ⟨-, rfl⟩ | ⟨-, rfl⟩⟩ := Table.rewrite_mem member
  next => exact absurd status (other was)
  next => exact ⟨row, there, rfl, status⟩

theorem leavesCash_remitsNone (leaves : LeavesCash db next) : RemitsNone db next := by
  intro row member status
  obtain ⟨was, there, same | ⟨-, void⟩⟩ := leaves.collections row member
  next => exact ⟨was, there, same ▸ rfl, same ▸ status⟩
  next => simp [void] at status

theorem recordCollection_remitsNone {id discrepancyId actorUserId : Id} {input : RecordRequest}
    {idempotencyKey : Option Text}
    (ran : recordCollection view id input idempotencyKey discrepancyId actorUserId = .ok next) :
    RemitsNone view.current next := by
  simp only [recordCollection, bind_ok] at ran
  obtain ⟨_, -, _, -, ran⟩ := ran
  split at ran
  next =>
    obtain rfl := (pure_ok _ _).1 ran
    exact remitsNone_same rfl
  next =>
    simp only [bind_ok, pure_ok, updateOne_ok] at ran
    obtain ⟨_, -, _, -, _, -, _, -, _, -, difference, -, _, -, _, -, _, -, _, -, _, ⟨-, rfl⟩, _, -, _, -,
      _, -, rfl⟩ := ran
    refine remitsNone_update rfl fun row => ?_
    simp only [recordedCollection]
    split <;> simp

theorem resolveCollectionDiscrepancy_remitsNone {cashCollectionId id actorUserId : Id}
    {input : ResolveCashDiscrepancy}
    (ran : resolveCollectionDiscrepancy view cashCollectionId id input actorUserId = .ok next) :
    RemitsNone view.current next := by
  simp only [resolveCollectionDiscrepancy, bind_ok, pure_ok] at ran
  obtain ⟨_, -, _, -, _, -, _, -, _, -, _, -, _, -, _, -, _, -, _, -, corrected, corrects, _, -, rfl⟩ := ran
  unfold correctWhenResolved at corrects
  split at corrects
  next =>
    simp only [correctCollection, bind_ok, updateOne_ok] at corrects
    obtain ⟨clear, -, _, ⟨-, rfl⟩, corrects⟩ := corrects
    split at corrects
    next =>
      simp only [bind_ok, pure_ok] at corrects
      obtain ⟨_, -, _, -, rfl⟩ := corrects
      exact remitsNone_update rfl fun row => by simp
    next =>
      obtain rfl := (pure_ok _ _).1 corrects
      exact remitsNone_update rfl fun row => by simp
  next =>
    obtain rfl := Except.ok.inj corrects
    exact remitsNone_same rfl

-- A new remittance is a draft, and its items count for nothing yet.
theorem creates_total {input : CreateCashRemittance} (creates : Creates view input next) (collectionId : Id) :
    verifiedTotal next collectionId = verifiedTotal view.current collectionId := by
  obtain ⟨row, remittances, id, -, draft, inserted, rfl⟩ := creates.rows
  obtain ⟨appended, fresh⟩ := Table.insert?_rows inserted
  have verified {remittanceId : Id} : verifiedIn { view.current with
        remittances
        remittanceItems := view.current.remittanceItems ++
          input.allocations.map (remittanceItem input.id) } remittanceId =
      verifiedIn view.current remittanceId := by
    refine Bool.eq_iff_iff.2 ?_
    simp only [verifiedIn_iff, appended, List.mem_append, List.mem_singleton]
    constructor
    next =>
      rintro ⟨found, known | rfl, same, status⟩
      next => exact ⟨found, known, same, status⟩
      next => simp [draft] at status
    next =>
      rintro ⟨found, known, rest⟩
      exact ⟨found, .inl known, rest⟩
  have added : (input.allocations.map (remittanceItem input.id)).filter
      (countsVerified view.current collectionId) = [] := by
    refine List.filter_eq_nil_iff.2 fun item listed counted => ?_
    obtain ⟨allocation, -, rfl⟩ := List.mem_map.1 listed
    simp only [countsVerified, remittanceItem, Bool.and_eq_true, verifiedIn_iff] at counted
    obtain ⟨-, found, known, same, -⟩ := counted
    exact fresh found known (same.trans id.symm)
  rw [verifiedTotal_filter, verifiedTotal_filter]
  have same : countsVerified { view.current with
        remittances
        remittanceItems := view.current.remittanceItems ++
          input.allocations.map (remittanceItem input.id) } collectionId =
      countsVerified view.current collectionId :=
    funext fun item => by rw [countsVerified, countsVerified, verified]
  rw [same, List.filter_append, added, List.append_nil]

-- The remittance that a call verifies once it succeeds.
inductive Verifying (view : View) : CashOp -> Id -> Prop where
  | agreed (id : Id) (input : ReconcileCashRemittance) (discrepancyId actorUserId : Id)
      (remittance : CashRemittance) (found : view.current.remittances.find? id = some remittance)
      (agreed : input.verifiedMillimes = remittance.declaredMillimes) :
      Verifying view (.reconcileRemittance id input discrepancyId actorUserId) id
  | resolved (id : Id) (input : ResolveCashDiscrepancy) (actorUserId remittanceId : Id)
      (row : CashDiscrepancy) (found : view.current.discrepancies.find? id = some row)
      (scope : row.remittanceId = some remittanceId) (resolution : input.resolution = .resolved) :
      Verifying view (.resolveDiscrepancy id input actorUserId) remittanceId

/-- A step verifies the last allocation of a collection without seeing another verified one. -/
def Misses (session : Session) (label : Label) : Prop :=
  exists view op remittanceId next, performed session label = some (view, op) /\
    Verifying view op remittanceId /\ op.exec view = .ok next /\ Lags view remittanceId

section Cash

variable (old : Sums view.snapshot) (sums : Sums view.current)
  (behind : Behind view.snapshot view.current)

include old sums behind

omit old sums in
theorem declared_current {id : Id} {operation : RemittanceOperation}
    (reads : Reads view.snapshot id operation) {row : CashRemittance}
    (found : view.current.remittances.find? id = some row) :
    row.declaredMillimes = operation.remittance.declaredMillimes := by
  obtain ⟨now, there, same, declared, -⟩ :=
    behind.retains.remittances operation.remittance (Table.find?_mem reads.found)
  have here := Table.find?_of_mem there
  rw [same, Table.find?_key reads.found, found] at here
  exact Option.some.inj here ▸ declared

-- A call verifies its remittance, or leaves all verified totals and remits nothing.
def Counts (view : View) (op : CashOp) (next : Db) : Prop :=
  (exists source remittanceId operation, source ≠ .verified /\
      (forall verified, Verifying view op verified <-> verified = remittanceId) /\
      Verifies view source remittanceId operation next) \/
    ((forall remittanceId, Not (Verifying view op remittanceId)) /\
      (forall collectionId,
        verifiedTotal next collectionId = verifiedTotal view.current collectionId) /\
      RemitsNone view.current next)

theorem reconciles_counts {id discrepancyId actorUserId : Id} {input : ReconcileCashRemittance}
    (ran : reconcileRemittance view id input discrepancyId actorUserId = .ok next) :
    Counts view (.reconcileRemittance id input discrepancyId actorUserId) next := by
  obtain ⟨operation, ⟨agreed, verifies, -⟩ | ⟨differs, disputes⟩⟩ := reconcileRemittance_cases old sums ran
  next =>
    refine .inl ⟨_, id, operation, by decide, fun verified => ⟨?_, ?_⟩, verifies⟩
    next =>
      intro verifying
      cases verifying
      rfl
    next =>
      rintro rfl
      obtain ⟨row, member, here, -⟩ := verifies.turned.found
      have found : view.current.remittances.find? verified = some row := here ▸ Table.find?_of_mem member
      have declared := declared_current behind verifies.reads found
      exact .agreed verified input _ _ row found (agreed.trans declared.symm)
  next =>
    refine .inr ⟨fun _ verifying => ?_, ?_⟩
    next =>
      cases verifying with
      | agreed _ _ _ _ row found agreed =>
        exact differs (agreed.trans (declared_current behind disputes.reads found))
    next =>
      obtain ⟨events, rows⟩ := disputes.rows
      exact ⟨totals_same (by rw [rows]) (turned_keeps_verified disputes.turned (by decide) (by decide)),
        remitsNone_same (by rw [rows])⟩

theorem resolves_counts {id actorUserId : Id} {input : ResolveCashDiscrepancy}
    (ran : resolveDiscrepancy view id input actorUserId = .ok next) :
    Counts view (.resolveDiscrepancy id input actorUserId) next := by
  rcases resolveDiscrepancy_cases ran with ⟨_, collection⟩ | ⟨_, remittance⟩
  next =>
    obtain ⟨orderId, case, row, resolves⟩ :=
      resolveCollectionDiscrepancy_ok old.settled sums.settled behind.ahead collection
    refine .inr ⟨fun _ verifying => ?_, totals_same resolves.same.items fun _ => ?_,
      resolveCollectionDiscrepancy_remitsNone collection⟩
    next =>
      cases verifying with
      | resolved _ _ _ _ other found scope =>
        have member := (Table.lookup_some (resolves.is.discrepancy.trans resolves.found)).1
        have here := Table.find?_of_mem member
        rw [resolves.id, found] at here
        obtain rfl := Option.some.inj here
        have own := own_discrepancy (sums.settled.sound orderId case resolves.is) resolves.found
        simp [own] at scope
    next =>
      rw [verifiedIn, resolves.same.remittances]
      rfl
  next =>
    obtain ⟨row, settles⟩ := resolveRemittanceDiscrepancy_ok old sums behind remittance
    have outcome := settles.outcome
    cases resolution : input.resolution with
    | resolved =>
      rw [resolution] at outcome
      obtain ⟨operation, verifies⟩ := outcome
      obtain ⟨now, there, same, -, scope, -⟩ :=
        behind.retains.discrepancies row (Table.find?_mem settles.read)
      have found := Table.find?_of_mem there
      rw [same, Table.find?_key settles.read] at found
      refine .inl ⟨_, _, operation, by decide, fun verified => ⟨?_, ?_⟩, verifies⟩
      next =>
        intro verifying
        cases verifying with
        | resolved _ _ _ _ other known named =>
          obtain rfl := Option.some.inj (found.symm.trans known)
          exact Option.some.inj (named.symm.trans (scope.trans settles.scope.2))
      next =>
        rintro rfl
        exact .resolved id input actorUserId _ now found (scope.trans settles.scope.2) resolution
    | writtenOff =>
      rw [resolution] at outcome
      obtain ⟨events, rows⟩ := outcome
      refine .inr ⟨fun _ verifying => ?_, totals_same (by rw [rows]) fun _ => ?_,
        remitsNone_same (by rw [rows])⟩
      next =>
        cases verifying with
        | resolved _ _ _ _ _ _ _ resolved => simp [resolution] at resolved
      next =>
        rw [rows]
        rfl

theorem cash_counts {op : CashOp} (ran : op.exec view = .ok next) : Counts view op next := by
  cases op with
  | recordCollection id input key discrepancyId actorUserId =>
    refine .inr ⟨fun _ verifying => (by cases verifying), ?_, recordCollection_remitsNone ran⟩
    obtain ⟨_, _, -, ⟨_, -, rfl⟩ | ⟨case, difference, counting⟩⟩ :=
      recordCollection_cases old.settled sums.settled behind.ahead ran
    next => exact fun _ => rfl
    next =>
      refine totals_same counting.same.items fun _ => ?_
      rw [verifiedIn, counting.same.remittances]
      rfl
  | createRemittance input =>
    have creates := createRemittance_ok old behind ran
    refine .inr ⟨fun _ verifying => (by cases verifying), creates_total creates, remitsNone_same ?_⟩
    obtain ⟨_, _, -, -, -, -, rfl⟩ := creates.rows
    rfl
  | submitRemittance id actorUserId =>
    obtain ⟨turned, rows⟩ := submitRemittance_ok ran
    exact .inr ⟨fun _ verifying => (by cases verifying), totals_same (by rw [rows])
      (turned_keeps_verified turned (by decide) (by decide)), remitsNone_same (by rw [rows])⟩
  | reconcileRemittance => exact reconciles_counts old sums behind ran
  | resolveDiscrepancy => exact resolves_counts old sums behind ran

theorem cash_full {op : CashOp} (full : Full view.current) (ran : op.exec view = .ok next) :
    Full next := by
  obtain ⟨after, onward⟩ := (cash_commits old sums behind ran).sums sums
  rcases cash_counts old sums behind ran with
    ⟨source, remittanceId, operation, pending, -, verifies⟩ | ⟨-, totals, none⟩
  next => exact verifies_full old sums behind verifies pending after full
  next => exact full_kept sums onward full totals none

theorem cash_exact {op : CashOp} (exact : AllExact view.current) (ran : op.exec view = .ok next) :
    AllExact next <->
      Not (exists remittanceId, Verifying view op remittanceId /\ Lags view remittanceId) := by
  obtain ⟨after, onward⟩ := (cash_commits old sums behind ran).sums sums
  rcases cash_counts old sums behind ran with
    ⟨source, remittanceId, operation, pending, verified, verifies⟩ | ⟨other, totals, none⟩
  next =>
    constructor
    next =>
      rintro every ⟨id, verifying, lags⟩
      obtain rfl := (verified id).1 verifying
      exact verifies_lags old sums behind verifies pending lags exact every
    next =>
      intro current
      exact verifies_exact old sums behind verifies pending after
        (fun lags => current ⟨remittanceId, (verified _).2 rfl, lags⟩) exact
  next =>
    exact iff_of_true (exact_kept sums after onward exact totals none)
      fun ⟨id, verifying, _⟩ => other id verifying

end Cash

-- Operations that are not of cash leave the verified totals and remit nothing.
theorem outside_counts {now : Int} {op : System.Op} (other : forall cash, op ≠ .cash cash)
    (ran : System.exec db now op = .ok next) :
    (forall collectionId, verifiedTotal next collectionId = verifiedTotal db collectionId) /\
      RemitsNone db next := by
  have same := Frames.exec_writes ran .remitting (by cases op <;> simp [Frames.areas] at other ⊢)
  simp only [Frames.Area.Same, Prod.mk.injEq] at same
  obtain ⟨remittances, items, -, -⟩ := same
  constructor
  next =>
    refine totals_same items fun _ => ?_
    rw [verifiedIn, remittances]
    rfl
  next =>
    rcases exec_outside ran other with leaves | ⟨order, collection, enters⟩
    next => exact leavesCash_remitsNone leaves
    next =>
      intro row member status
      rw [(Table.insert?_rows enters.collections).1, List.mem_append, List.mem_singleton] at member
      rcases member with known | rfl
      next => exact ⟨row, known, rfl, status⟩
      next => simp [enters.expected] at status

theorem step_full (session : Session) (label : Label) (steady : Steady session)
    (full : Full session.clocked.db) : Full (step session label).clocked.db := by
  have onward := step_behind label steady
  cases performs : performed session label with
  | none =>
    rcases unperformed performs with same | ⟨timed, -, other, ran⟩
    next => rwa [same]
    next =>
      obtain ⟨totals, none⟩ := outside_counts other ran
      exact full_kept steady.sums onward full totals none
  | some both =>
    obtain ⟨view, op⟩ := both
    obtain ⟨same, old, behind, reached⟩ := performed_view steady performs
    rw [<- same] at full
    rw [reached]
    cases ran : op.exec view with
    | error failure => exact full
    | ok next => exact cash_full old (same ▸ steady.sums) behind full ran

theorem step_exact (session : Session) (label : Label) (steady : Steady session)
    (exact : AllExact session.clocked.db) :
    AllExact (step session label).clocked.db <-> Not (Misses session label) := by
  have after := (step_steady session label steady).sums
  have onward := step_behind label steady
  cases performs : performed session label with
  | none =>
    refine iff_of_true ?_ fun ⟨_, _, _, _, here, _⟩ => by simp [performs] at here
    rcases unperformed performs with same | ⟨timed, -, other, ran⟩
    next => rwa [same]
    next =>
      obtain ⟨totals, none⟩ := outside_counts other ran
      exact exact_kept steady.sums after onward exact totals none
  | some both =>
    obtain ⟨view, op⟩ := both
    obtain ⟨same, old, behind, reached⟩ := performed_view steady performs
    have sums : Sums view.current := same ▸ steady.sums
    rw [<- same] at exact
    rw [reached]
    cases ran : op.exec view with
    | error failure =>
      refine iff_of_true exact fun ⟨_, _, _, _, here, _, succeeds, _⟩ => ?_
      obtain ⟨rfl, rfl⟩ := Prod.mk.inj (Option.some.inj (performs.symm.trans here))
      simp [ran] at succeeds
    | ok next =>
      refine (cash_exact old sums behind exact ran).trans (not_congr ⟨?_, ?_⟩)
      next =>
        rintro ⟨remittanceId, verifying, lags⟩
        exact ⟨view, op, remittanceId, next, performs, verifying, ran, lags⟩
      next =>
        rintro ⟨_, _, remittanceId, _, here, verifying, -, lags⟩
        obtain ⟨rfl, rfl⟩ := Prod.mk.inj (Option.some.inj (performs.symm.trans here))
        exact ⟨remittanceId, verifying, lags⟩

-- An order whose cash is remitted has its collection remitted for all it owes.
def Cleared (case : OrderCase) : Prop :=
  case.order.paymentStatus = .cashRemitted ->
    case.collection.status = .remitted /\ Answers case case.order.expectedCodMillimes

theorem CaseStep.cleared {event : Event} {case after : OrderCase} (taken : CaseStep event case after)
    (sound : Sound case) (cleared : Cleared case) : Cleared after := by
  have later := Orders.Onward.CaseStep.later taken sound
  intro status
  have kept (before : case.order.paymentStatus = .cashRemitted) : after.collection.status = .remitted /\
      Answers after after.order.expectedCodMillimes := by
    obtain ⟨remitted, answers⟩ := cleared before
    have recorded : Not (case.collection.status ∈ unrecordedStatuses) := by
      simp [remitted, unrecordedStatuses]
    exact ⟨(later.counted recorded).remitted remitted, later.cod ▸ later.answered sound answers⟩
  cases taken with
  | cancelled => simp [Orders.Admin.orderCancelled] at status
  | recorded _ _ _ _ _ difference =>
    simp only [paid, collectedPaymentStatus] at status
    split at status
    next => simp at status
    next => split at status <;> simp at status
  | corrected =>
    simp only [paid, collectedPaymentStatus] at status
    split at status <;> simp at status
  | paid _ paymentStatus accountable _ answered _ clears =>
    obtain ⟨remitted, rfl⟩ := clears status
    exact ⟨remitted, answered⟩
  | _ => exact kept status

def AllCleared (db : Db) : Prop :=
  forall orderId case, IsCase db orderId case -> Cleared case

theorem step_cleared (session : Session) (label : Label) (steady : Steady session)
    (cleared : AllCleared session.clocked.db) : AllCleared (step session label).clocked.db :=
  step_each (fun case fresh status => by simp [fresh.payment] at status)
    (fun _ _ _ taken sound kept => CaseStep.cleared taken sound kept) session label steady cleared

/-- Collections are remitted exactly when verified remittances hold all they answer for, and an order
whose cash is remitted has all its collections remitted, for all that it owes. -/
structure SettlementExact (db : Db) : Prop where
  collections : forall collection, collection ∈ db.collections.rows ->
    (collection.status = .remitted <->
      accountableCollectionMillimes (discrepancyOf db collection.id) collection =
        .ok (verifiedTotal db collection.id))
  orders : forall order, order ∈ db.orders.rows -> order.paymentStatus = .cashRemitted ->
    (forall collection, collection ∈ orderCollectionsOf db order.id -> collection.status = .remitted) /\
      exists amounts, (orderCollectionsOf db order.id).mapM (fun collection =>
          accountableCollectionMillimes (discrepancyOf db collection.id) collection) = .ok amounts /\
        amounts.sum = order.expectedCodMillimes

theorem exact_collections (linked : Linked db) : AllExact db <->
    forall collection, collection ∈ db.collections.rows -> (collection.status = .remitted <->
      accountableCollectionMillimes (discrepancyOf db collection.id) collection =
        .ok (verifiedTotal db collection.id)) := by
  constructor
  next =>
    intro exact collection member
    obtain ⟨case, is, rfl⟩ := linked.case_of_collection member
    have here := exact _ case is
    unfold Exact Answers at here
    rwa [is.discrepancy]
  next =>
    intro every orderId case is
    have here := every case.collection is.collection_mem
    rwa [is.discrepancy] at here

theorem cleared_orders (linked : Linked db) (cleared : AllCleared db) :
    forall order, order ∈ db.orders.rows -> order.paymentStatus = .cashRemitted ->
      (forall collection, collection ∈ orderCollectionsOf db order.id -> collection.status = .remitted) /\
        exists amounts, (orderCollectionsOf db order.id).mapM (fun collection =>
            accountableCollectionMillimes (discrepancyOf db collection.id) collection) = .ok amounts /\
          amounts.sum = order.expectedCodMillimes := by
  intro order member status
  obtain ⟨case, is, rfl⟩ := linked.case_exists member
  obtain ⟨remitted, answers⟩ := cleared _ case is status
  have alone : orderCollectionsOf db case.order.id = [case.collection] := by
    have collections := collectionsOf_case linked is
    simp only [Orders.Admin.collectionsOf, Table.filter] at collections
    rw [orderCollectionsOf, Table.filter,
      show (fun row : CashCollection => row.orderId == case.order.id && row.status != .voided) =
        fun row => (row.status != .voided) && (row.orderId == case.order.id) from
          funext fun row => Bool.and_comm _ _, <- List.filter_filter, collections]
    simp [remitted]
  rw [alone]
  refine ⟨by simpa using remitted, [case.order.expectedCodMillimes], ?_, by simp⟩
  refine (mapM_cons_ok _ _ _ _).2 ⟨_, ?_, [], rfl, rfl⟩
  rw [is.discrepancy]
  exact answers

theorem settlement_exact_of {session : Session} (steady : Steady session)
    (cleared : AllCleared session.clocked.db) :
    SettlementExact session.clocked.db <-> AllExact session.clocked.db := by
  have linked := steady.sums.settled.linked
  exact ⟨fun exact => (exact_collections linked).2 exact.collections, fun exact =>
    ⟨(exact_collections linked).1 exact, cleared_orders linked cleared⟩⟩

/-- Settlement is exact throughout an interleaving exactly when no step of it verifies the last
allocation of a collection from a snapshot that lacks another verified one. -/
theorem settlement_exact_iff (config : Config.Configuration) (orderSequence : Option Int) (start : Int)
    (labels : List Label) :
    (forall session, Runs.Visits step (opening config orderSequence start) labels session ->
        SettlementExact session.clocked.db) <->
      forall session label, Runs.Takes step (opening config orderSequence start) labels session label ->
        Not (Misses session label) := by
  have none {orderId : Id} {case : OrderCase} :
      Not (IsCase (opening config orderSequence start).clocked.db orderId case) :=
    fun is => Orders.Runs.no_case is
  have steady := opening_steady config orderSequence start
  have cleared : AllCleared (opening config orderSequence start).clocked.db :=
    fun _ _ is => absurd is none
  refine @Runs.always_iff_steps Session Label step
    (fun session => Steady session /\ AllCleared session.clocked.db)
    (fun session => SettlementExact session.clocked.db) (fun session label => Not (Misses session label))
    (fun session label kept => ⟨step_steady session label kept.1, step_cleared session label kept.1 kept.2⟩)
    (fun session label kept exact => ?_) _ ⟨steady, cleared⟩ ?_ labels
  next =>
    rw [settlement_exact_of (step_steady session label kept.1) (step_cleared session label kept.1 kept.2)]
    exact step_exact session label kept.1 ((settlement_exact_of kept.1 kept.2).1 exact)
  next => exact (settlement_exact_of steady cleared).2 fun _ _ is => absurd is none

-- One collection in two remittances, verified by two people at once.
def allocation (amountMillimes : Int) (bounds : 1 <= amountMillimes /\ amountMillimes <= Money.maxMillimes) :
    RemittanceAllocation where
  cashCollectionId := 1
  amountMillimes := amountMillimes
  bounds := bounds

def remittance (id : Id) (number : Char) (amountMillimes : Int)
    (bounds : 1 <= amountMillimes /\ amountMillimes <= Money.maxMillimes) : System.Op :=
  .cash (.createRemittance {
    id := id
    courierId := 5
    remittanceNumber := [number]
    declaredMillimes := amountMillimes
    allocations := [allocation amountMillimes bounds]
    sized := ⟨Nat.le_refl _, by simp⟩ })

def splitCollection : List System.Op := System.Sample.fulfilled ++ [
  remittance 1 'a' 20000 (by decide),
  remittance 2 'b' 29840 (by decide),
  .cash (.submitRemittance 1 9),
  .cash (.submitRemittance 2 9)]

def agree (id : Id) (verifiedMillimes : Int) : CashOp :=
  .reconcileRemittance id { verifiedMillimes, reasonCode := none, reasonDetail := none } 1 10

def verifiedAtOnce : List Label :=
  (System.Sample.timed splitCollection).map .atomic ++
    [.begins, .begins, .commits 0 1 (agree 1 20000), .commits 0 1 (agree 2 29840)]

theorem split_collection_never_remitted : Not (forall config orderSequence start labels session,
    Runs.Visits step (opening config orderSequence start) labels session -> session.opened = [] ->
      SettlementExact session.clocked.db) := by
  intro claimed
  let reached := Runs.run step (opening System.Sample.shop (some 0) 0) verifiedAtOnce
  have idle : reached.opened.isEmpty = true := by decide +kernel
  have exact := claimed System.Sample.shop (some 0) 0 verifiedAtOnce reached (Runs.visits_end _ _)
    (List.isEmpty_iff.1 idle)
  have stuck : reached.clocked.db.collections.rows.any (fun collection =>
      collection.status != .remitted &&
        succeeded (accountableCollectionMillimes (discrepancyOf reached.clocked.db collection.id)
          collection) == some (verifiedTotal reached.clocked.db collection.id)) = true := by
    decide +kernel
  obtain ⟨collection, member, found⟩ := List.any_eq_true.1 stuck
  simp only [Bool.and_eq_true, bne_iff_ne, beq_iff_eq] at found
  refine found.1 ((exact.collections collection member).2 ?_)
  cases answers : accountableCollectionMillimes (discrepancyOf reached.clocked.db collection.id) collection with
  | error failure => simp [answers, succeeded] at found
  | ok total =>
    have same : some total = some (verifiedTotal reached.clocked.db collection.id) := by
      simpa [answers, succeeded] using found.2
    rw [Option.some.inj same]

end VapeCommerce.Cash.Exactness
