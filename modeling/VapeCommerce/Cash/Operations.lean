import VapeCommerce.System
import VapeCommerce.Cash.Settlement

set_option autoImplicit false

-- What a cash operation commits, also when its plain reads come from an older state.
namespace VapeCommerce.Cash.Operations

open VapeCommerce.Lib VapeCommerce.Lib.Outcome VapeCommerce.Schema VapeCommerce.Database
open VapeCommerce.Cash.Calculations VapeCommerce.Cash.Admin VapeCommerce.Cash.Accountable
open VapeCommerce.Orders.Case VapeCommerce.Orders.Progress VapeCommerce.Orders.Transactions
open VapeCommerce.Orders.Onward VapeCommerce.Orders.Steps VapeCommerce.Cash.Steps
open VapeCommerce.Cash.Remittances VapeCommerce.Cash.Settlement
open VapeCommerce.Checkout.Fulfillment (orFail_ok)

-- Everything the database holds of cash at all times.
structure Sums (db : Db) : Prop where
  settled : Settled db
  funded : Funded db

-- Remittances stay with what they declare, a verified one verified, and their items stay theirs.
structure Retains (old new : Db) : Prop where
  remittances : forall row, row ∈ old.remittances.rows -> exists now, now ∈ new.remittances.rows /\
    now.id = row.id /\ now.declaredMillimes = row.declaredMillimes /\ now.courierId = row.courierId /\
    (row.status = .verified -> now.status = .verified)
  items : exists added, new.remittanceItems = old.remittanceItems ++ added /\
    forall item, item ∈ added -> forall row, row ∈ old.remittances.rows -> row.id ≠ item.remittanceId
  discrepancies : Kept old.discrepancies new.discrepancies

structure Behind (old new : Db) : Prop where
  ahead : Ahead old new
  retains : Retains old new

theorem Retains.refl (db : Db) : Retains db db where
  remittances row member := ⟨row, member, rfl, rfl, rfl, id⟩
  items := ⟨[], by simp, by simp⟩
  discrepancies := Kept.refl _

theorem Retains.trans {first second third : Db} (one : Retains first second)
    (two : Retains second third) : Retains first third where
  remittances row member := by
    obtain ⟨middle, there, id, declared, courier, verified⟩ := one.remittances row member
    obtain ⟨last, here, id', declared', courier', verified'⟩ := two.remittances middle there
    exact ⟨last, here, id'.trans id, declared'.trans declared, courier'.trans courier,
      fun before => verified' (verified before)⟩
  items := by
    obtain ⟨added, items, fresh⟩ := one.items
    obtain ⟨more, items', fresh'⟩ := two.items
    refine ⟨added ++ more, by rw [items', items, List.append_assoc], fun item member row there => ?_⟩
    cases List.mem_append.1 member with
    | inl early => exact fresh item early row there
    | inr late =>
      obtain ⟨middle, here, id, -⟩ := one.remittances row there
      exact id ▸ fresh' item late middle here
  discrepancies := one.discrepancies.trans two.discrepancies

theorem Behind.refl (db : Db) : Behind db db := ⟨Ahead.refl db, Retains.refl db⟩

theorem Behind.trans {first second third : Db} (one : Behind first second)
    (two : Behind second third) : Behind first third :=
  ⟨one.ahead.trans two.ahead, one.retains.trans two.retains⟩

def remittanceTerms (db : Db) : List (Id × Int) :=
  db.remittances.rows.map fun row => (row.id, row.declaredMillimes)

variable {db next : Db}

-- The items of a database that keeps them are as well funded after its orders advance.
theorem Funded.advance {allowed : Id -> Event -> Prop} (funded : Funded db) (settled : Settled db)
    (advance : Advance allowed db next) (terms : remittanceTerms next = remittanceTerms db)
    (items : next.remittanceItems = db.remittanceItems) : Funded next := by
  have onward : forall orderId case accountable, IsCase db orderId case -> Answers case accountable ->
      exists after, IsCase next orderId after /\ Later case after /\ Answers after accountable := by
    intro orderId case accountable is answers
    have sound := settled.sound orderId case is
    obtain ⟨after, there, path⟩ := advance.known orderId case is
    have later := (Path.later path sound).1
    exact ⟨after, there, later, later.answered sound answers⟩
  have declared : forall row, row ∈ next.remittances.rows -> exists old, old ∈ db.remittances.rows /\
      old.id = row.id /\ old.declaredMillimes = row.declaredMillimes := by
    intro row member
    have term : (row.id, row.declaredMillimes) ∈ remittanceTerms db :=
      terms ▸ List.mem_map.2 ⟨row, member, rfl⟩
    obtain ⟨old, there, same⟩ := List.mem_map.1 term
    exact ⟨old, there, congrArg Prod.fst same, congrArg Prod.snd same⟩
  refine { amount := items ▸ funded.amount, remittance := ?_, backed := ?_, covered := ?_
           declared := ?_, single := ?_ }
  next =>
    rw [items]
    intro item member
    obtain ⟨old, there, same⟩ := funded.remittance item member
    have term : (old.id, old.declaredMillimes) ∈ remittanceTerms next :=
      terms ▸ List.mem_map.2 ⟨old, there, rfl⟩
    obtain ⟨row, here, equal⟩ := List.mem_map.1 term
    exact ⟨row, here, (congrArg Prod.fst equal).trans same⟩
  next =>
    rw [items]
    intro item member
    obtain ⟨orderId, case, accountable, is, here, courier, answers⟩ := funded.backed item member
    obtain ⟨after, there, later, still⟩ := onward orderId case accountable is answers
    have count := later.counted (answered_recorded (settled.sound orderId case is) answers)
    exact ⟨orderId, after, accountable, there, later.collectionId.trans here, count.courier ▸ courier,
      still⟩
  next =>
    rw [items]
    intro orderId after accountable there still
    cases listed : itemsOn db.remittanceItems after.collection.id with
    | nil => exact answers_nonneg still
    | cons item rest =>
      have member : item ∈ itemsOn db.remittanceItems after.collection.id := by simp [listed]
      obtain ⟨known, on⟩ := List.mem_filter.1 member
      obtain ⟨otherId, case, amount, is, here, -, answers⟩ := funded.backed item known
      obtain ⟨other, also, later, now⟩ := onward otherId case amount is answers
      obtain ⟨rfl, rfl⟩ := case_of_collection_id also there
        (later.collectionId.trans (here.trans (beq_iff_eq.1 on)))
      obtain rfl := Except.ok.inj (still.symm.trans now)
      rw [<- listed, later.collectionId]
      exact funded.covered otherId case accountable is answers
  next =>
    rw [items]
    intro row member
    obtain ⟨old, there, id, same⟩ := declared row member
    rw [<- id, <- same]
    exact funded.declared old there
  next =>
    rw [items]
    intro row member
    obtain ⟨old, there, id, -⟩ := declared row member
    exact id ▸ funded.single old there

-- Remittances on new statuses; what they declare and whom they come from stays.
structure Revised (old new : Table CashRemittance.id) : Prop where
  terms : new.rows.map (fun row => (row.id, row.declaredMillimes)) =
    old.rows.map fun row => (row.id, row.declaredMillimes)
  row : forall row, row ∈ old.rows -> exists now, now ∈ new.rows /\ now.id = row.id /\
    now.declaredMillimes = row.declaredMillimes /\ now.courierId = row.courierId /\
    (row.status = .verified -> now.status = .verified)

theorem Revised.refl (remittances : Table CashRemittance.id) : Revised remittances remittances :=
  ⟨rfl, fun row member => ⟨row, member, rfl, rfl, rfl, id⟩⟩

theorem update_revised (old : Table CashRemittance.id) (guard : CashRemittance -> Bool)
    (change : CashRemittance -> CashRemittance) (keeps : forall row, (change row).id = row.id)
    (declared : forall row, (change row).declaredMillimes = row.declaredMillimes)
    (courier : forall row, (change row).courierId = row.courierId)
    (open_ended : forall row, guard row = true -> row.status ≠ .verified) :
    Revised old (old.update guard change keeps) where
  terms := by
    rw [Table.update_rows]
    exact Table.map_field_rewrite _ (fun row : CashRemittance => (row.id, row.declaredMillimes)) _ _
      fun row => by rw [keeps, declared]
  row row member := by
    refine ⟨_, List.mem_map_of_mem member, Table.rewrite_field keeps row,
      Table.rewrite_field declared row, Table.rewrite_field courier row, fun verified => ?_⟩
    rw [Table.rewrite_other (Bool.eq_false_iff.2 fun chosen => open_ended row chosen verified)]
    exact verified

theorem Revised.retains (revised : Revised db.remittances next.remittances)
    (items : next.remittanceItems = db.remittanceItems)
    (kept : Kept db.discrepancies next.discrepancies) : Retains db next :=
  ⟨revised.row, ⟨[], by simp [items], by simp⟩, kept⟩

-- What a successful operation has committed.
structure Commits (view : View) (next : Db) : Prop where
  advance : Advance managed view.current next
  retains : Retains view.current next
  funded : Funded next

theorem Commits.sums {view : View} (commits : Commits view next) (sums : Sums view.current) :
    Sums next /\ Behind view.current next := by
  obtain ⟨settled, ahead⟩ := sums.settled.advance commits.advance
  exact ⟨⟨settled, commits.funded⟩, ⟨ahead, commits.retains⟩⟩

-- Operations that create no items.
theorem commits_of_revised {view : View} (sums : Sums view.current)
    (advance : Advance managed view.current next)
    (revised : Revised view.current.remittances next.remittances)
    (items : next.remittanceItems = view.current.remittanceItems)
    (kept : Kept view.current.discrepancies next.discrepancies) : Commits view next where
  advance := advance
  retains := revised.retains items kept
  funded := Funded.advance sums.funded sums.settled advance revised.terms items

theorem sameCases_of_reads {remittances : Table CashRemittance.id} {items : List CashRemittanceItem}
    {discrepancies : Table CashDiscrepancy.id} {events : List CashReconciliationEvent}
    (reads : forall id, discrepancies.lookup CashDiscrepancy.cashCollectionId (some id) =
      discrepancyOf db id)
    (unique : forall left right, left ∈ discrepancies.rows -> right ∈ discrepancies.rows ->
      left.cashCollectionId.isSome = true -> left.cashCollectionId = right.cashCollectionId ->
      left = right) :
    SameCases db { db with
      remittances, remittanceItems := items, discrepancies, cashEvents := events } :=
  ⟨rfl, rfl, rfl, rfl, rfl, rfl, reads, unique⟩

def remittanceItem (remittanceId : Id) (allocation : RemittanceAllocation) : CashRemittanceItem where
  remittanceId := remittanceId
  cashCollectionId := allocation.cashCollectionId
  amountMillimes := allocation.amountMillimes

-- With each collection named once, what is requested for it is what is added on it.
theorem requested_total (remittanceId collectionId : Id) (allocations : List RemittanceAllocation)
    (distinct : (allocations.map (·.cashCollectionId)).Nodup) :
    itemsTotal (itemsOn (allocations.map (remittanceItem remittanceId)) collectionId) =
      requestedAmount allocations collectionId := by
  induction allocations with
  | nil => rfl
  | cons first rest ih =>
    obtain ⟨fresh, others⟩ := List.nodup_cons.1 distinct
    by_cases here : first.cashCollectionId = collectionId
    next =>
      have none : itemsOn (rest.map (remittanceItem remittanceId)) collectionId = [] := by
        refine List.filter_eq_nil_iff.2 fun item member => ?_
        obtain ⟨allocation, listed, rfl⟩ := List.mem_map.1 member
        have apart : allocation.cashCollectionId ≠ collectionId := fun same =>
          fresh (List.mem_map.2 ⟨allocation, listed, same.trans here.symm⟩)
        simpa [remittanceItem] using apart
      have chosen : itemsOn ((first :: rest).map (remittanceItem remittanceId)) collectionId =
          [remittanceItem remittanceId first] := by
        rw [List.map_cons, itemsOn, List.filter_cons_of_pos (by simp [remittanceItem, here])]
        exact congrArg _ none
      rw [chosen]
      simp [requestedAmount, here, itemsTotal, remittanceItem]
    next =>
      have skipped : itemsOn ((first :: rest).map (remittanceItem remittanceId)) collectionId =
          itemsOn (rest.map (remittanceItem remittanceId)) collectionId := by
        rw [List.map_cons, itemsOn, List.filter_cons_of_neg (by simp [remittanceItem, here])]
        rfl
      rw [skipped, ih others]
      simp [requestedAmount, here]

-- The rows that a list of distinct ids finds are as many as the ids only if each finds one.
theorem all_found {collections : Table CashCollection.id} {ids : List Id}
    (same : (collections.filter fun row => decide (row.id ∈ ids)).length = ids.length) {wanted : Id}
    (member : wanted ∈ ids) :
    exists row, row ∈ collections.rows /\ row.id = wanted := by
  have subset : (collections.filter fun row => decide (row.id ∈ ids)).map (·.id) ⊆ ids := by
    intro id found
    obtain ⟨row, chosen, rfl⟩ := List.mem_map.1 found
    simpa using (List.mem_filter.1 chosen).2
  have unique : ((collections.filter fun row => decide (row.id ∈ ids)).map (·.id)).Nodup :=
    collections.distinct.sublist (List.Sublist.map _ List.filter_sublist)
  have perm := (List.subperm_of_subset unique subset).perm_of_length_le (by simp [same])
  obtain ⟨row, chosen, same⟩ := List.mem_map.1 (perm.mem_iff.2 member)
  exact ⟨row, (List.mem_filter.1 chosen).1, same⟩

-- What a successful `createRemittance` has checked of a collection it allocates, as of now.
structure Backs (view : View) (input : CreateCashRemittance) (orderId : Id) (case : OrderCase)
    (accountable : Int) : Prop where
  is : IsCase view.current orderId case
  answers : Answers case accountable
  courier : case.collection.courierId.isSome = true
  free : itemsTotal (itemsOn view.current.remittanceItems case.collection.id) +
    requestedAmount input.allocations case.collection.id <= accountable

structure Creates (view : View) (input : CreateCashRemittance) (next : Db) : Prop where
  distinct : (input.allocations.map (·.cashCollectionId)).Nodup
  total : (input.allocations.map (·.amountMillimes)).sum = input.declaredMillimes
  backs : forall allocation, allocation ∈ input.allocations -> exists orderId case accountable,
    case.collection.id = allocation.cashCollectionId /\ Backs view input orderId case accountable
  rows : exists row remittances, row.id = input.id /\ row.declaredMillimes = input.declaredMillimes /\
    row.status = .draft /\ view.current.remittances.insert? row = some remittances /\
    next = { view.current with
      remittances
      remittanceItems :=
        view.current.remittanceItems ++ input.allocations.map (remittanceItem input.id) }

theorem items_added (items : List CashRemittanceItem) (input : CreateCashRemittance) (remittanceId : Id)
    (fresh : forall item, item ∈ items -> item.remittanceId ≠ input.id) :
    itemsIn (items ++ input.allocations.map (remittanceItem input.id)) remittanceId =
      if remittanceId = input.id then input.allocations.map (remittanceItem input.id)
      else itemsIn items remittanceId := by
  have added : itemsIn (input.allocations.map (remittanceItem input.id)) remittanceId =
      if remittanceId = input.id then input.allocations.map (remittanceItem input.id) else [] := by
    split
    next same =>
      refine List.filter_eq_self.2 fun item member => ?_
      obtain ⟨allocation, -, rfl⟩ := List.mem_map.1 member
      simp [remittanceItem, same]
    next apart =>
      refine List.filter_eq_nil_iff.2 fun item member => ?_
      obtain ⟨allocation, -, rfl⟩ := List.mem_map.1 member
      simpa [remittanceItem] using Ne.symm apart
  rw [itemsIn, List.filter_append]
  rw [itemsIn] at added
  rw [added]
  split
  next same =>
    have none : items.filter (fun item => item.remittanceId == remittanceId) = [] :=
      List.filter_eq_nil_iff.2 fun item member => by simpa [same] using fresh item member
    rw [none, List.nil_append]
  next => rw [List.append_nil]; rfl

theorem Creates.sameCases {view : View} {input : CreateCashRemittance} (linked : Linked view.current)
    (creates : Creates view input next) : SameCases view.current next := by
  obtain ⟨row, remittances, -, -, -, -, rfl⟩ := creates.rows
  exact sameCases_of_reads (fun _ => rfl) linked.opened

theorem Creates.covered {view : View} {input : CreateCashRemittance} (sums : Sums view.current)
    (creates : Creates view input next) {orderId : Id} {case : OrderCase} {accountable : Int}
    (is : IsCase view.current orderId case) (answers : Answers case accountable) :
    itemsTotal (itemsOn (view.current.remittanceItems ++
      input.allocations.map (remittanceItem input.id)) case.collection.id) <= accountable := by
  have total : itemsTotal (itemsOn (view.current.remittanceItems ++
      input.allocations.map (remittanceItem input.id)) case.collection.id) =
      itemsTotal (itemsOn view.current.remittanceItems case.collection.id) +
        requestedAmount input.allocations case.collection.id := by
    rw [<- requested_total input.id case.collection.id input.allocations creates.distinct]
    simp [itemsTotal, itemsOn]
  rw [total]
  by_cases listed : exists allocation, allocation ∈ input.allocations /\
      allocation.cashCollectionId = case.collection.id
  next =>
    obtain ⟨allocation, member, here⟩ := listed
    obtain ⟨_, other, amount, same, backs⟩ := creates.backs allocation member
    obtain ⟨rfl, rfl⟩ := case_of_collection_id backs.is is (same.trans here)
    obtain rfl := Except.ok.inj (answers.symm.trans backs.answers)
    exact backs.free
  next =>
    have none : requestedAmount input.allocations case.collection.id = 0 := by
      have absent : input.allocations.find?
          (fun allocation => allocation.cashCollectionId == case.collection.id) = none :=
        List.find?_eq_none.2 fun allocation member => by
          simpa using fun here => listed ⟨allocation, member, here⟩
      simp [requestedAmount, absent]
    rw [none, Int.add_zero]
    exact sums.funded.covered orderId case accountable is answers

-- Items added within what their collections still answer for keep the database funded.
theorem Creates.funded {view : View} {input : CreateCashRemittance} (sums : Sums view.current)
    (creates : Creates view input next) : Funded next := by
  have same := creates.sameCases sums.settled.linked
  obtain ⟨row, remittances, id, declared, -, inserted, rows⟩ := creates.rows
  have funded := sums.funded
  obtain ⟨appended, distinct⟩ := Table.insert?_rows inserted
  have fresh : forall item, item ∈ view.current.remittanceItems -> item.remittanceId ≠ input.id := by
    intro item member
    obtain ⟨other, there, known⟩ := funded.remittance item member
    exact known ▸ id ▸ distinct other there
  have items : next.remittanceItems =
      view.current.remittanceItems ++ input.allocations.map (remittanceItem input.id) := by rw [rows]
  have known : next.remittances = remittances := by rw [rows]
  have cases : forall item, item ∈ next.remittanceItems ->
      item ∈ view.current.remittanceItems \/
        exists allocation, allocation ∈ input.allocations /\ remittanceItem input.id allocation = item := by
    intro item member
    rw [items] at member
    exact (List.mem_append.1 member).imp_right List.mem_map.1
  have listed : forall other, other ∈ next.remittances.rows ->
      (other ∈ view.current.remittances.rows /\ other.id ≠ input.id) \/ other = row := by
    intro other member
    rw [known, appended, List.mem_append, List.mem_singleton] at member
    exact member.imp_left fun there => ⟨there, id ▸ distinct other there⟩
  refine { amount := ?_, remittance := ?_, backed := ?_, covered := ?_, declared := ?_, single := ?_ }
  next =>
    intro item member
    rcases cases item member with before | ⟨allocation, -, rfl⟩
    next => exact funded.amount item before
    next => exact allocation.bounds.1
  next =>
    intro item member
    rcases cases item member with before | ⟨allocation, -, rfl⟩
    next =>
      obtain ⟨other, there, on⟩ := funded.remittance item before
      exact ⟨other, by simp [known, appended, there], on⟩
    next => exact ⟨row, by simp [known, appended], id⟩
  next =>
    intro item member
    rcases cases item member with before | ⟨allocation, requested, rfl⟩
    next =>
      obtain ⟨orderId, case, accountable, is, rest⟩ := funded.backed item before
      exact ⟨orderId, case, accountable, same.isCase.2 is, rest⟩
    next =>
      obtain ⟨orderId, case, accountable, here, backs⟩ := creates.backs allocation requested
      exact ⟨orderId, case, accountable, same.isCase.2 backs.is, here, backs.courier, backs.answers⟩
  next =>
    intro orderId case accountable is answers
    rw [items]
    exact creates.covered sums (same.isCase.1 is) answers
  next =>
    intro other member
    rw [items, items_added _ input other.id fresh]
    rcases listed other member with ⟨there, apart⟩ | rfl
    next => rw [if_neg apart]; exact funded.declared other there
    next =>
      rw [if_pos id, declared, <- creates.total, itemsTotal, List.map_map]
      rfl
  next =>
    intro other member
    rw [items, items_added _ input other.id fresh]
    rcases listed other member with ⟨there, apart⟩ | rfl
    next => rw [if_neg apart]; exact funded.single other there
    next =>
      rw [if_pos id, List.map_map]
      exact creates.distinct

theorem Creates.retains {view : View} {input : CreateCashRemittance} (creates : Creates view input next) :
    Retains view.current next := by
  obtain ⟨row, remittances, id, -, -, inserted, rfl⟩ := creates.rows
  obtain ⟨appended, distinct⟩ := Table.insert?_rows inserted
  refine ⟨fun other member => ⟨other, by simp [appended, member], rfl, rfl, rfl, fun same => same⟩,
    ⟨_, rfl, fun item added other member => ?_⟩, Kept.refl _⟩
  obtain ⟨allocation, -, rfl⟩ := List.mem_map.1 added
  exact id ▸ distinct other member

-- One remittance moves to a new status.
structure Turned (source target : CashRemittanceStatus) (id : Id) (old new : Table CashRemittance.id) :
    Prop where
  found : exists row, row ∈ old.rows /\ row.id = id /\ row.status = source
  status : new.rows.map (fun row => (row.id, row.status)) =
    old.rows.map fun row => (row.id, if row.id = id then target else row.status)
  revised : Revised old new

theorem turned_of_update {source target : CashRemittanceStatus} {id : Id}
    {old : Table CashRemittance.id} {change : CashRemittance -> CashRemittance}
    (keeps : forall row, (change row).id = row.id)
    (declared : forall row, (change row).declaredMillimes = row.declaredMillimes)
    (courier : forall row, (change row).courierId = row.courierId)
    (status : forall row, (change row).status = target) (pending : source ≠ .verified)
    (one : old.count (fun row => row.id == id && row.status == source) = 1) :
    Turned source target id old
      (old.update (fun row => row.id == id && row.status == source) change keeps) := by
  obtain ⟨row, member, hit, -⟩ := Table.count_one one
  simp only [Bool.and_eq_true, beq_iff_eq] at hit
  refine ⟨⟨row, member, hit⟩, ?_, ?_⟩
  next =>
    rw [Table.update_rows, List.map_map]
    refine List.map_congr_left fun other there => ?_
    simp only [Function.comp_apply, Table.rewrite_field keeps]
    by_cases here : other.id = id
    next =>
      obtain rfl := old.same_of_key there member (here.trans hit.1.symm)
      rw [if_pos here, Table.rewrite_chosen (by simp [hit]), status]
    next => rw [if_neg here, Table.rewrite_other (by simp [here])]
  next =>
    refine update_revised old _ change keeps declared courier fun other chosen => ?_
    simp only [Bool.and_eq_true, beq_iff_eq] at chosen
    exact chosen.2 ▸ pending

def judged (target : CashRemittanceStatus) (verifiedMillimes differenceMillimes : Int)
    (actorUserId : Id) (row : CashRemittance) : CashRemittance :=
  { row with
    status := target
    verifiedMillimes := some verifiedMillimes
    differenceMillimes := some differenceMillimes
    verifiedByUserId := some actorUserId }

theorem judged_turned {source : CashRemittanceStatus} (target : CashRemittanceStatus) {id : Id}
    {old : Table CashRemittance.id} (verifiedMillimes differenceMillimes : Int) (actorUserId : Id)
    (pending : source ≠ .verified)
    (one : old.count (fun row => row.id == id && row.status == source) = 1) :
    Turned source target id old (old.update (fun row => row.id == id && row.status == source)
      (judged target verifiedMillimes differenceMillimes actorUserId) fun _ => rfl) :=
  @turned_of_update source target id old
    (judged target verifiedMillimes differenceMillimes actorUserId)
    (fun _ => rfl) (fun _ => rfl) (fun _ => rfl) (fun _ => rfl) pending one

-- Discrepancies that differ in those of remittances only.
structure Scoped (db : Db) (discrepancies : Table CashDiscrepancy.id) : Prop where
  reads : forall id, discrepancies.lookup CashDiscrepancy.cashCollectionId (some id) =
    discrepancyOf db id
  unique : forall left right, left ∈ discrepancies.rows -> right ∈ discrepancies.rows ->
    left.cashCollectionId.isSome = true -> left.cashCollectionId = right.cashCollectionId -> left = right
  kept : Kept db.discrepancies discrepancies

theorem scoped_refl (linked : Linked db) : Scoped db db.discrepancies :=
  ⟨fun _ => rfl, linked.opened, Kept.refl _⟩

theorem scoped_opened {row : CashDiscrepancy} {discrepancies : Table CashDiscrepancy.id}
    (linked : Linked db) (scope : row.cashCollectionId = none)
    (opens : openDiscrepancy db.discrepancies row = .ok discrepancies) : Scoped db discrepancies where
  reads id := by
    rw [Table.lookup_append (openDiscrepancy_ok.1 opens).2, scope, if_neg (by simp), Option.or_none]
    rfl
  unique := opened_unique linked opens
  kept := openDiscrepancy_kept opens

theorem scoped_settled {row : CashDiscrepancy} {resolution : Resolution} {actorUserId : Id}
    {discrepancies : Table CashDiscrepancy.id} (linked : Linked db)
    (scope : forall other, other ∈ db.discrepancies.rows -> other.id = row.id ->
      other.cashCollectionId = none) (unsettled : row.status ∈ unsettledStatuses)
    (settles : settleDiscrepancy db.discrepancies row resolution actorUserId = .ok discrepancies) :
    Scoped db discrepancies := by
  refine ⟨fun id => ?_, ?_, settleDiscrepancy_kept unsettled settles⟩
  all_goals obtain ⟨-, rfl⟩ := (updateOne_ok _ _ _ _ _ _).1 settles
  next =>
    have same : forall other : CashDiscrepancy, { other with
        status := resolution.status
        resolvedByUserId := some actorUserId }.cashCollectionId = other.cashCollectionId := fun _ => rfl
    rw [Table.lookup_update _ _ _ _ _ same]
    cases found : discrepancyOf db id with
    | none => rw [discrepancyOf] at found; rw [found]; rfl
    | some other =>
      obtain ⟨member, here⟩ := Table.lookup_some found
      rw [discrepancyOf] at found
      rw [found, Option.map_some, Table.rewrite_other (Bool.eq_false_iff.2 fun chosen => ?_)]
      simp only [Bool.and_eq_true, beq_iff_eq] at chosen
      simp [scope other member chosen.1] at here
  next =>
    exact rewritten_unique _ (settledBy resolution actorUserId) linked (fun _ => rfl) fun _ => rfl

theorem settledRows_unremitted (db : Db) (paidIds : List Id) (paymentStatus : PaymentStatus) :
    settledRows db [] paidIds paymentStatus =
      { db with orders := ordersPaid db paymentStatus paidIds } := by
  have same : db.collections.update (fun row => decide (row.id ∈ ([] : List Id))) remitted remitted_id =
      db.collections :=
    Table.ext_rows (by
      have none : Table.rewrite (fun row : CashCollection => decide (row.id ∈ ([] : List Id))) remitted =
          id := funext fun row => Table.rewrite_other (by simp)
      rw [Table.update_rows, none, List.map_id])
  rw [settledRows, same]

-- What verifying a remittance has committed.
structure Verifies (view : View) (source : CashRemittanceStatus) (id : Id)
    (operation : RemittanceOperation) (next : Db) : Prop where
  reads : Reads view.snapshot id operation
  applies : AppliesAllocations view operation
    (settledRows view.current (writtenIds view operation) (clearedIds view operation) .cashRemitted)
  turned : Turned source .verified id view.current.remittances next.remittances
  scope : Scoped view.current next.discrepancies
  rows : exists events, next = {
    settledRows view.current (writtenIds view operation) (clearedIds view operation) .cashRemitted with
    remittances := next.remittances
    discrepancies := next.discrepancies
    cashEvents := events }

-- What disputing a remittance has committed.
structure Disputes (view : View) (id : Id) (operation : RemittanceOperation) (next : Db) : Prop where
  reads : Reads view.snapshot id operation
  turned : Turned .submitted .discrepancy id view.current.remittances next.remittances
  opened : exists row, row.remittanceId = some id /\ row.cashCollectionId = none /\
    row.status = .opened /\ openDiscrepancy view.current.discrepancies row = .ok next.discrepancies
  rows : exists events, next = { view.current with
    orders := ordersPaid view.current .reconciliationDiscrepancy ((uniqueOrders operation).map Order.id)
    remittances := next.remittances
    discrepancies := next.discrepancies
    cashEvents := events }

section View

variable {view : View} (old : Sums view.snapshot) (sums : Sums view.current)
  (behind : Behind view.snapshot view.current)

include old sums behind

theorem recordCollection_commits {id discrepancyId actorUserId : Id} {input : RecordRequest}
    {idempotencyKey : Option Text}
    (ran : recordCollection view id input idempotencyKey discrepancyId actorUserId = .ok next) :
    Commits view next := by
  obtain ⟨key, orderId, -, ⟨was, -, rfl⟩ | ⟨case, recording⟩⟩ :=
    recordCollection_ok old.settled sums.settled behind.ahead ran
  next => exact ⟨Advance.refl sums.settled.linked, Retains.refl _, sums.funded⟩
  next =>
    refine commits_of_revised sums ?_ ?_ recording.same.items recording.kept
    next => exact Takes.advance sums.settled.linked recording.is recording.takes rfl
    next => exact recording.same.remittances ▸ Revised.refl _

theorem resolveCollectionDiscrepancy_commits {cashCollectionId id actorUserId : Id}
    {input : ResolveCashDiscrepancy}
    (ran : resolveCollectionDiscrepancy view cashCollectionId id input actorUserId = .ok next) :
    Commits view next := by
  obtain ⟨orderId, case, row, resolves⟩ :=
    resolveCollectionDiscrepancy_ok old.settled sums.settled behind.ahead ran
  refine commits_of_revised sums ?_ (resolves.same.remittances ▸ Revised.refl _) resolves.same.items
    resolves.kept
  have writes := resolves.writes
  cases resolution : input.resolution with
  | resolved =>
    rw [resolution] at writes
    exact Writes.advance sums.settled.linked resolves.is writes
      (.corrected case row actorUserId resolves.found resolves.unsettled resolves.counted) rfl
  | writtenOff =>
    rw [resolution] at writes
    exact Writes.advance sums.settled.linked resolves.is writes
      (.writtenOff case row actorUserId resolves.found resolves.unsettled resolves.counted) rfl

omit sums in
theorem createRemittance_ok {input : CreateCashRemittance}
    (ran : createRemittance view input = .ok next) : Creates view input next := by
  simp only [createRemittance, bind_ok, throwIf_ok, orThrow_ok, pure_ok, forM_ok, not_not,
    sumMillimes, orFail_ok] at ran
  obtain ⟨⟨⟩, distinct, ⟨⟩, -, total, summed, ⟨⟩, declared, ⟨⟩, found, courier, -, ⟨⟩, checks, ⟨⟩, -,
    remittances, inserted, rfl⟩ := ran
  obtain ⟨-, -, rfl⟩ := (Money.Cash.sumMillimes_ok _ _).1 summed
  refine ⟨distinct, declared, fun allocation listed => ?_, _, remittances, rfl, rfl, rfl, inserted, rfl⟩
  have wanted : allocation.cashCollectionId ∈ input.allocations.map (·.cashCollectionId) :=
    List.mem_map_of_mem listed
  obtain ⟨row, member, same⟩ := all_found found wanted
  obtain ⟨was, before, rfl⟩ := old.settled.linked.case_of_collection member
  have checked := checks was.collection ((List.mem_insertionSort _).2
    (List.mem_filter.2 ⟨member, by simpa [same] using wanted⟩))
  simp only [assertAllocation, bind_ok, throwIf_ok, before.discrepancy, not_or, not_not] at checked
  obtain ⟨accountable, answers, ⟨⟩, ⟨owner, -⟩, free⟩ := checked
  obtain ⟨case, is, later⟩ := behind.ahead _ was before
  have sound := old.settled.sound _ was before
  have count := later.counted (answered_recorded sound answers)
  refine ⟨_, case, accountable, later.collectionId.trans same, is, later.answered sound answers, ?_, ?_⟩
  next => simp [count.courier, owner]
  next =>
    rw [later.collectionId]
    omega

theorem createRemittance_commits {input : CreateCashRemittance}
    (ran : createRemittance view input = .ok next) : Commits view next := by
  have creates := createRemittance_ok old behind ran
  exact ⟨(creates.sameCases sums.settled.linked).advance sums.settled.linked, creates.retains,
    creates.funded sums⟩

omit old sums behind in
theorem submitRemittance_ok {id actorUserId : Id}
    (ran : submitRemittance view id actorUserId = .ok next) :
    Turned .draft .submitted id view.current.remittances next.remittances /\
      next = { view.current with
        remittances := next.remittances, cashEvents := next.cashEvents } := by
  simp only [submitRemittance, bind_ok, throwIf_ok, updateOne_ok, pure_ok] at ran
  obtain ⟨operation, -, ⟨⟩, -, ⟨⟩, -, remittances, ⟨one, rfl⟩, rfl⟩ := ran
  exact ⟨turned_of_update (fun _ => by rfl) (fun _ => rfl) (fun _ => rfl) (fun _ => rfl) (by decide) one,
    rfl⟩

omit old behind in
theorem submitRemittance_commits {id actorUserId : Id}
    (ran : submitRemittance view id actorUserId = .ok next) : Commits view next := by
  obtain ⟨turned, rows⟩ := submitRemittance_ok ran
  rw [rows]
  refine commits_of_revised sums ?_ turned.revised rfl (Kept.refl _)
  exact SameCases.advance (sameCases_of_reads (fun _ => rfl) sums.settled.linked.opened)
    sums.settled.linked

omit sums in
-- The orders of a disputed remittance all answer for an amount.
theorem disputed_path {id : Id} {operation : RemittanceOperation}
    (reads : Reads view.snapshot id operation) {orderId : Id} {case : OrderCase}
    (is : IsCase view.current orderId case) :
    Path (· = .managed) case
      (settledCase [] ((uniqueOrders operation).map Order.id) .reconciliationDiscrepancy case) := by
  have untouched : remittedCase [] case = case := by
    rw [remittedCase, Table.rewrite_other (by simp)]
  by_cases listed : case.order.id ∈ (uniqueOrders operation).map Order.id
  next =>
    rw [settledCase, untouched, Table.rewrite_chosen (by simpa using listed)]
    obtain ⟨order, unique, same⟩ := List.mem_map.1 listed
    obtain ⟨allocation, member, rfl⟩ := (uniqueOrders_spec operation).2.1 order unique
    obtain ⟨wasId, was, before, here, row⟩ := reads.allocation allocation member
    obtain ⟨courier, accountable, answers⟩ :=
      Funded.courier old.funded (reads.item_mem member).1 before here
    rw [row] at same
    obtain rfl : wasId = orderId := by
      rw [<- before.order_id, <- is.order_id]
      exact same
    obtain ⟨after, there, later⟩ := behind.ahead _ was before
    obtain rfl := there.unique is
    have sound := old.settled.sound _ was before
    have count := later.counted (answered_recorded sound answers)
    exact .single ⟨.managed, rfl, .paid after .reconciliationDiscrepancy accountable (.inr rfl)
      (later.answered sound answers) (count.courier ▸ courier) fun clear => by simp at clear⟩
  next =>
    rw [settledCase, untouched, Table.rewrite_other (by simpa using listed)]
    exact .refl

omit old sums behind in
theorem reviewed_advance {rows : Db} (advance : Advance managed db rows)
    {discrepancies : Table CashDiscrepancy.id} (scope : Scoped rows discrepancies)
    (remittances : Table CashRemittance.id) (events : List CashReconciliationEvent) :
    Advance managed db { rows with remittances, discrepancies, cashEvents := events } :=
  advance.trans (SameCases.advance (sameCases_of_reads scope.reads scope.unique) advance.linked)

theorem verifies_commits {source : CashRemittanceStatus} {id : Id} {operation : RemittanceOperation}
    (verifies : Verifies view source id operation next) : Commits view next := by
  have applied := applied_advance old.settled sums.settled behind.ahead old.funded verifies.reads
    verifies.applies
  obtain ⟨events, rows⟩ := verifies.rows
  refine commits_of_revised sums ?_ verifies.turned.revised (by rw [rows]; rfl) verifies.scope.kept
  rw [rows]
  exact reviewed_advance applied
    ⟨verifies.scope.reads, verifies.scope.unique, verifies.scope.kept⟩ _ _

theorem disputes_commits {id : Id} {operation : RemittanceOperation}
    (disputes : Disputes view id operation next) : Commits view next := by
  have linked := sums.settled.linked
  have paid : Advance managed view.current
      (settledRows view.current [] ((uniqueOrders operation).map Order.id) .reconciliationDiscrepancy) :=
    advance_of_each linked (settled_linked linked _ _ _) (orderIds_updated _ _ (paid_id _))
      fun orderId case is => ⟨_, settled_is is _ _ _, disputed_path old behind disputes.reads is⟩
  rw [settledRows_unremitted] at paid
  obtain ⟨row, -, scope, -, opens⟩ := disputes.opened
  have only := scoped_opened linked scope opens
  obtain ⟨events, rows⟩ := disputes.rows
  refine commits_of_revised sums ?_ disputes.turned.revised (by rw [rows]) only.kept
  rw [rows]
  exact reviewed_advance paid ⟨only.reads, only.unique, only.kept⟩ _ _

omit sums behind in
-- An applied verification only differs from its rows in what the rest of the operation writes.
theorem applies_of_run {remittances : Table CashRemittance.id} {id : Id}
    {operation : RemittanceOperation} {applied : Db} (reads : Reads view.snapshot id operation)
    (ran : applyVerifiedAllocations { view with current := { view.current with remittances } } operation =
      .ok applied) :
    AppliesAllocations view operation
      (settledRows view.current (writtenIds view operation) (clearedIds view operation) .cashRemitted) /\
      applied = { settledRows view.current (writtenIds view operation) (clearedIds view operation)
        .cashRemitted with remittances } := by
  have applies := @applyVerifiedAllocations_ok
    { view with current := { view.current with remittances } } id operation applied old.funded reads ran
  exact ⟨⟨rfl, applies.remitted, applies.cleared⟩, applies.rows⟩

omit behind in
theorem reconcileRemittance_cases {id discrepancyId actorUserId : Id} {input : ReconcileCashRemittance}
    (ran : reconcileRemittance view id input discrepancyId actorUserId = .ok next) :
    exists operation, (input.verifiedMillimes = operation.remittance.declaredMillimes /\
        Verifies view .submitted id operation next /\
        next.discrepancies = view.current.discrepancies) \/
      (input.verifiedMillimes ≠ operation.remittance.declaredMillimes /\
        Disputes view id operation next) := by
  simp only [reconcileRemittance, bind_ok, throwIf_ok, updateOne_ok] at ran
  obtain ⟨operation, locks, ⟨⟩, -, -, -, -, -, ⟨⟩, -, difference, balance, -, -, ⟨⟩, -, remittances,
    ⟨one, rfl⟩, ran⟩ := ran
  have reads := lockRemittance_ok old.settled.linked locks
  obtain ⟨-, -, counted⟩ := (cashDifference_ok _ _ _).1 balance
  refine ⟨operation, ?_⟩
  split at ran
  next agreed =>
    simp only [bind_ok, pure_ok] at ran
    obtain ⟨applied, applying, rfl⟩ := ran
    obtain ⟨applies, rfl⟩ := applies_of_run old reads applying
    refine .inl ⟨by omega, ?_, rfl⟩
    exact {
      reads := reads
      applies := applies
      turned := judged_turned .verified input.verifiedMillimes difference actorUserId (by decide) one
      scope := scoped_refl sums.settled.linked
      rows := ⟨_, rfl⟩ }
  next differs =>
    simp only [bind_ok, pure_ok] at ran
    obtain ⟨discrepancies, opens, orders, paying, rfl⟩ := ran
    obtain ⟨unique, -, -⟩ := uniqueOrders_spec operation
    obtain ⟨paidRows, -⟩ := Table.update_loop discrepantOrder_round (uniqueOrders operation) unique paying
    have same : orders =
        ordersPaid view.current .reconciliationDiscrepancy ((uniqueOrders operation).map Order.id) :=
      Table.ext_rows (by rw [paidRows, List.filter_true]; rfl)
    refine .inr ⟨by omega, ?_⟩
    exact {
      reads := reads
      turned := judged_turned .discrepancy input.verifiedMillimes difference actorUserId (by decide) one
      opened := ⟨_, rfl, rfl, rfl, opens⟩
      rows := ⟨_, by rw [same]⟩ }

omit behind in
theorem reconcileRemittance_ok {id discrepancyId actorUserId : Id} {input : ReconcileCashRemittance}
    (ran : reconcileRemittance view id input discrepancyId actorUserId = .ok next) :
    exists operation, Verifies view .submitted id operation next \/ Disputes view id operation next := by
  obtain ⟨operation, ⟨-, verifies, -⟩ | ⟨-, disputes⟩⟩ := reconcileRemittance_cases old sums ran
  next => exact ⟨operation, .inl verifies⟩
  next => exact ⟨operation, .inr disputes⟩

omit old sums in
theorem scope_of_snapshot {row : CashDiscrepancy} (read : row ∈ view.snapshot.discrepancies.rows)
    (scope : row.cashCollectionId = none) (other : CashDiscrepancy)
    (member : other ∈ view.current.discrepancies.rows) (same : other.id = row.id) :
    other.cashCollectionId = none /\ other.remittanceId = row.remittanceId := by
  obtain ⟨now, there, id, collection, remittance, -⟩ := behind.retains.discrepancies row read
  obtain rfl := view.current.discrepancies.same_of_key member there (same.trans id.symm)
  exact ⟨collection.trans scope, remittance⟩

-- What settling the discrepancy of a remittance has committed.
structure SettlesRemittance (view : View) (id : Id) (input : ResolveCashDiscrepancy)
    (actorUserId remittanceId : Id) (row : CashDiscrepancy) (next : Db) : Prop where
  read : view.snapshot.discrepancies.find? id = some row
  scope : row.cashCollectionId = none /\ row.remittanceId = some remittanceId
  unsettled : row.status ∈ unsettledStatuses
  settles : settleDiscrepancy view.current.discrepancies row input.resolution actorUserId =
    .ok next.discrepancies
  outcome : match input.resolution with
    | .resolved => exists operation, Verifies view .discrepancy remittanceId operation next
    | .writtenOff => exists events, next = { view.current with
        discrepancies := next.discrepancies, cashEvents := events }

theorem resolveRemittanceDiscrepancy_ok {remittanceId id actorUserId : Id}
    {input : ResolveCashDiscrepancy}
    (ran : resolveRemittanceDiscrepancy view remittanceId id input actorUserId = .ok next) :
    exists row, SettlesRemittance view id input actorUserId remittanceId row next := by
  simp only [resolveRemittanceDiscrepancy, bind_ok, throwIf_ok, orThrow_ok, pure_ok] at ran
  obtain ⟨row, read, ⟨⟩, scope, ⟨⟩, allowed, ⟨⟩, -, operation, locks, ⟨⟩, -, -, -, ⟨⟩, -, ⟨⟩, -, verified,
    verifying, discrepancies, settles, rfl⟩ := ran
  have reads := lockRemittance_ok old.settled.linked locks
  simp only [not_or, not_not, Option.not_isSome_iff_eq_none] at scope
  obtain ⟨remittance, collection, -⟩ := scope
  have unsettled := discrepancy_unsettled allowed
  have member := Table.find?_mem read
  have others := fun other there same => (scope_of_snapshot behind member collection other there same).1
  cases resolution : input.resolution with
  | resolved =>
    rw [resolution] at verifying settles
    simp only [verifyWhenResolved, verifyDiscrepant, bind_ok, updateOne_ok, pure_ok] at verifying
    obtain ⟨applied, applying, remittances, ⟨one, rfl⟩, rfl⟩ := verifying
    obtain ⟨applies, rfl⟩ := applies_of_run old reads applying
    refine ⟨row, read, ⟨collection, remittance⟩, unsettled, resolution ▸ settles, ?_⟩
    rw [resolution]
    obtain rfl := Table.find?_key reads.found
    exact ⟨operation, {
      reads := reads
      applies := applies
      turned := judged_turned .verified operation.remittance.declaredMillimes 0 actorUserId (by decide) one
      scope := scoped_settled sums.settled.linked others unsettled settles
      rows := ⟨_, rfl⟩ }⟩
  | writtenOff =>
    rw [resolution] at verifying settles
    obtain rfl := Except.ok.inj verifying
    refine ⟨row, read, ⟨collection, remittance⟩, unsettled, resolution ▸ settles, ?_⟩
    rw [resolution]
    exact ⟨_, rfl⟩

omit old sums behind in
theorem resolveDiscrepancy_cases {id actorUserId : Id} {input : ResolveCashDiscrepancy}
    (ran : resolveDiscrepancy view id input actorUserId = .ok next) :
    (exists cashCollectionId,
      resolveCollectionDiscrepancy view cashCollectionId id input actorUserId = .ok next) \/
    exists remittanceId,
      resolveRemittanceDiscrepancy view remittanceId id input actorUserId = .ok next := by
  simp only [resolveDiscrepancy, bind_ok] at ran
  obtain ⟨reference, -, ran⟩ := ran
  split at ran
  next => exact .inl ⟨_, ran⟩
  next => exact .inr ⟨_, ran⟩
  next => simp at ran

theorem resolveRemittanceDiscrepancy_commits {remittanceId id actorUserId : Id}
    {input : ResolveCashDiscrepancy}
    (ran : resolveRemittanceDiscrepancy view remittanceId id input actorUserId = .ok next) :
    Commits view next := by
  obtain ⟨row, settles⟩ := resolveRemittanceDiscrepancy_ok old sums behind ran
  have outcome := settles.outcome
  cases resolution : input.resolution with
  | resolved =>
    rw [resolution] at outcome
    obtain ⟨operation, verifies⟩ := outcome
    exact verifies_commits old sums behind verifies
  | writtenOff =>
    rw [resolution] at outcome
    obtain ⟨events, rows⟩ := outcome
    have member := Table.find?_mem settles.read
    have scope := scoped_settled sums.settled.linked
      (fun other there same => (scope_of_snapshot behind member settles.scope.1 other there same).1)
      settles.unsettled settles.settles
    refine commits_of_revised sums ?_ (by rw [rows]; exact Revised.refl _) (by rw [rows]) scope.kept
    rw [rows]
    exact SameCases.advance (sameCases_of_reads scope.reads scope.unique) sums.settled.linked

theorem cash_commits {op : System.CashOp} (ran : op.exec view = .ok next) : Commits view next := by
  cases op with
  | recordCollection => exact recordCollection_commits old sums behind ran
  | createRemittance => exact createRemittance_commits old sums behind ran
  | submitRemittance => exact submitRemittance_commits sums ran
  | reconcileRemittance =>
    obtain ⟨operation, verifies | disputes⟩ := reconcileRemittance_ok old sums ran
    next => exact verifies_commits old sums behind verifies
    next => exact disputes_commits old sums behind disputes
  | resolveDiscrepancy =>
    rcases resolveDiscrepancy_cases ran with ⟨_, collection⟩ | ⟨_, remittance⟩
    next => exact resolveCollectionDiscrepancy_commits old sums behind collection
    next => exact resolveRemittanceDiscrepancy_commits old sums behind remittance

end View

end VapeCommerce.Cash.Operations
