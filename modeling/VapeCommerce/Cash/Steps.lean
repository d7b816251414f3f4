import VapeCommerce.Orders.Onward
import VapeCommerce.Orders.Steps

set_option autoImplicit false

-- The cash operations as steps of the cases they count, also where their plain reads are stale.
namespace VapeCommerce.Cash.Steps

open VapeCommerce.Lib VapeCommerce.Lib.Outcome VapeCommerce.Schema VapeCommerce.Database
open VapeCommerce.Cash.Calculations VapeCommerce.Cash.Admin VapeCommerce.Cash.Accountable
open VapeCommerce.Orders.Case VapeCommerce.Orders.Progress VapeCommerce.Orders.Transactions
open VapeCommerce.Orders.Onward VapeCommerce.Orders.Steps

-- Every order of `old` is in `new`, as it was or further on.
def Ahead (old new : Db) : Prop :=
  forall orderId case, IsCase old orderId case -> exists after, IsCase new orderId after /\ Later case after

def AllSound (db : Db) : Prop :=
  forall orderId case, IsCase db orderId case -> Sound case

structure Settled (db : Db) : Prop where
  linked : Linked db
  sound : AllSound db

theorem Ahead.refl (db : Db) : Ahead db db :=
  fun _ case is => ⟨case, is, Later.refl case⟩

theorem Ahead.trans {first second third : Db} (one : Ahead first second) (two : Ahead second third) :
    Ahead first third := by
  intro orderId case is
  obtain ⟨middle, there, later⟩ := one orderId case is
  obtain ⟨after, here, last⟩ := two orderId middle there
  exact ⟨after, here, later.trans last⟩

theorem Settled.advance {allowed : Id -> Event -> Prop} {db next : Db} (settled : Settled db)
    (advance : Advance allowed db next) : Settled next /\ Ahead db next := by
  constructor
  next =>
    exact ⟨advance.linked, fun _ _ is => advance.keeps (fun _ fresh => fresh.sound)
      (fun _ _ _ _ _ taken kept => taken.sound kept) settled.sound is⟩
  next =>
    intro orderId case is
    obtain ⟨after, there, path⟩ := advance.known orderId case is
    exact ⟨after, there, (Path.later path (settled.sound orderId case is)).1⟩

def lockedCollection (case : OrderCase) : CollectionOperation where
  collection := case.collection
  order := case.order
  delivery := some case.delivery

theorem lockCollection_ok {db : Db} {id : Id} {operation : CollectionOperation} (linked : Linked db)
    (ran : lockCollection db id = .ok operation) : exists orderId case, IsCase db orderId case /\
      case.collection.id = id /\ operation = lockedCollection case := by
  simp only [lockCollection, bind_ok, orThrow_ok, pure_ok] at ran
  obtain ⟨collection, found, -, -, order, ordered, rfl⟩ := ran
  obtain ⟨case, is, rfl⟩ := linked.case_of_collection (Table.find?_mem found)
  obtain rfl := Option.some.inj (is.order.symm.trans ordered)
  refine ⟨_, case, is, Table.find?_key found, ?_⟩
  simp only [lockedCollection, is.collection_delivery linked, Option.bind_some,
    Table.find?_of_mem is.delivery_mem]

theorem openDiscrepancy_ok {discrepancies next : Table CashDiscrepancy.id} {row : CashDiscrepancy} :
    openDiscrepancy discrepancies row = .ok next <->
      (row.cashCollectionId.isSome = true -> forall other, other ∈ discrepancies.rows ->
        other.cashCollectionId ≠ row.cashCollectionId) /\ discrepancies.insert? row = some next := by
  simp only [openDiscrepancy, bind_ok, throwIf_ok, create_ok, Bool.and_eq_true, List.any_eq_true,
    beq_iff_eq, not_and, not_exists, exists_const]

variable {view : View} {next : Db}

-- Opening the discrepancy of a collection adds it there and nowhere else.
theorem opened_discrepancy {db : Db} {discrepancies : Table CashDiscrepancy.id} {row : CashDiscrepancy}
    {collectionId : Id} (here : row.cashCollectionId = some collectionId)
    (opens : openDiscrepancy db.discrepancies row = .ok discrepancies) (id : Id) :
    discrepancies.lookup CashDiscrepancy.cashCollectionId (some id) =
      if id = collectionId then some row else discrepancyOf db id := by
  obtain ⟨unique, inserted⟩ := openDiscrepancy_ok.1 opens
  rw [Table.lookup_append inserted, here]
  by_cases same : id = collectionId
  next =>
    subst same
    have absent : db.discrepancies.lookup CashDiscrepancy.cashCollectionId (some id) = none :=
      (Table.lookup_none _ _ _).2 fun other member => here ▸ unique (by simp [here]) other member
    rw [absent, Option.none_or, if_pos rfl, if_pos rfl]
  next =>
    rw [if_neg fun found => same (Option.some.inj found).symm, Option.or_none, if_neg same]
    rfl

theorem opened_unique {db : Db} {discrepancies : Table CashDiscrepancy.id} {row : CashDiscrepancy}
    (linked : Linked db) (opens : openDiscrepancy db.discrepancies row = .ok discrepancies) :
    forall left right, left ∈ discrepancies.rows -> right ∈ discrepancies.rows ->
      left.cashCollectionId.isSome = true -> left.cashCollectionId = right.cashCollectionId ->
      left = right := by
  obtain ⟨unique, inserted⟩ := openDiscrepancy_ok.1 opens
  intro left right leftMember rightMember some same
  rw [(Table.insert?_rows inserted).1, List.mem_append, List.mem_singleton] at leftMember rightMember
  rcases leftMember with known | rfl <;> rcases rightMember with also | rfl
  next => exact linked.opened left right known also some same
  next => exact absurd same (unique (same ▸ some) left known)
  next => exact absurd same.symm (unique some right also)
  next => rfl

-- A guard on the version that was read finds the row that was read.
theorem version_current {A : Type} {version : A -> Nat} {old row : A}
    (later : row = old \/ version old < version row) (same : version row = version old) : row = old :=
  later.elim id fun grew => absurd same (by omega)

-- The rows of a case whose collection is recorded, all four at once.
theorem recordedRows_writes {db : Db} {orderId : Id} {case : OrderCase} {input : RecordRequest}
    {paymentStatus : PaymentStatus} {counted : Bool} {target : CashCollectionStatus} {keyHash : ScopedKey}
    {actorUserId : Id} {discrepancies : Table CashDiscrepancy.id} {found : Option CashDiscrepancy}
    {orderGuard : Order -> Bool} {collectionGuard : CashCollection -> Bool}
    {deliveryGuard : Delivery -> Bool} {events : List CashReconciliationEvent}
    (linked : Linked db) (is : IsCase db orderId case)
    (collectionHit : collectionGuard case.collection = true)
    (collectionOnly : forall row, collectionGuard row = true -> row.id = case.collection.id)
    (orderHit : orderGuard case.order = true)
    (orderOnly : forall row, orderGuard row = true -> row.id = case.order.id)
    (deliveryHit : deliveryGuard case.delivery = true)
    (deliveryOnly : forall row, deliveryGuard row = true -> row.id = case.delivery.id)
    (discrepancy : forall id, discrepancies.lookup CashDiscrepancy.cashCollectionId (some id) =
      if id = case.collection.id then found else discrepancyOf db id)
    (unique : forall left right, left ∈ discrepancies.rows -> right ∈ discrepancies.rows ->
      left.cashCollectionId.isSome = true -> left.cashCollectionId = right.cashCollectionId ->
      left = right) :
    Writes db
      { db with
        collections := db.collections.update collectionGuard
          (recordedCollection case.order case.delivery target input keyHash actorUserId)
          (recordedCollection_id _ _ _ _ _ _)
        orders := db.orders.update orderGuard (paid paymentStatus) (paid_id _)
        deliveries := db.deliveries.update deliveryGuard (cashCounted counted) (cashCounted_id _)
        discrepancies
        cashEvents := events }
      case { case with
        order := paid paymentStatus case.order
        delivery := cashCounted counted case.delivery
        collection := recordedCollection case.order case.delivery target input keyHash actorUserId
          case.collection
        discrepancy := found } := by
  have base := is.unwritten linked
  exact { base with
    order := is.order_updated (paid_id _) orderHit orderOnly
    delivery := is.delivery_updated linked (cashCounted_id _) (fun _ => rfl) deliveryHit deliveryOnly
    collection := is.collection_updated linked (recordedCollection_id _ _ _ _ _ _) (fun _ => rfl)
      collectionHit collectionOnly
    discrepancy := discrepancy
    orderIds := orderIds_updated _ _ (paid_id _)
    deliveryLinks := deliveryLinks_updated _ _ (cashCounted_id _) fun _ => rfl
    collectionLinks := collectionLinks_updated _ _ (recordedCollection_id _ _ _ _ _ _) (fun _ => rfl)
      fun _ => rfl
    opened := unique }

-- Discrepancies stay, with their scope, and a settled one stays as it is.
def Kept (old new : Table CashDiscrepancy.id) : Prop :=
  forall row, row ∈ old.rows -> exists now, now ∈ new.rows /\ now.id = row.id /\
    now.cashCollectionId = row.cashCollectionId /\ now.remittanceId = row.remittanceId /\
    (Not (row.status ∈ unsettledStatuses) -> now = row)

theorem Kept.refl (discrepancies : Table CashDiscrepancy.id) : Kept discrepancies discrepancies :=
  fun row member => ⟨row, member, rfl, rfl, rfl, fun _ => rfl⟩

theorem Kept.trans {first second third : Table CashDiscrepancy.id} (one : Kept first second)
    (two : Kept second third) : Kept first third := by
  intro row member
  obtain ⟨middle, there, id, collection, remittance, same⟩ := one row member
  obtain ⟨last, here, id', collection', remittance', same'⟩ := two middle there
  refine ⟨last, here, id'.trans id, collection'.trans collection, remittance'.trans remittance, ?_⟩
  intro settled
  obtain rfl := same settled
  exact same' settled

theorem openDiscrepancy_kept {old new : Table CashDiscrepancy.id} {row : CashDiscrepancy}
    (ran : openDiscrepancy old row = .ok new) : Kept old new := by
  obtain ⟨-, inserted⟩ := openDiscrepancy_ok.1 ran
  intro other member
  exact ⟨other, by simp [(Table.insert?_rows inserted).1, member], rfl, rfl, rfl, fun _ => rfl⟩

theorem openRecorded_kept {old new : Table CashDiscrepancy.id} {row : CashDiscrepancy}
    (ran : openRecorded old row = .ok new) : Kept old new := by
  unfold openRecorded at ran
  split at ran
  next => exact openDiscrepancy_kept ran
  next => exact Except.ok.inj ran ▸ Kept.refl old

theorem settleDiscrepancy_kept {old new : Table CashDiscrepancy.id} {row : CashDiscrepancy}
    {resolution : Resolution} {actorUserId : Id} (unsettled : row.status ∈ unsettledStatuses)
    (ran : settleDiscrepancy old row resolution actorUserId = .ok new) : Kept old new := by
  obtain ⟨-, rfl⟩ := (updateOne_ok _ _ _ _ _ _).1 ran
  intro other member
  refine ⟨_, List.mem_map_of_mem member, Table.rewrite_field (fun _ => by rfl) other,
    Table.rewrite_field (fun _ => by rfl) other, Table.rewrite_field (fun _ => by rfl) other, ?_⟩
  intro settled
  refine Table.rewrite_other (Bool.eq_false_iff.2 fun chosen => settled ?_)
  simp only [Bool.and_eq_true, beq_iff_eq] at chosen
  exact chosen.2 ▸ unsettled

-- The tables of remittances are as they were.
structure SameRemittances (db next : Db) : Prop where
  remittances : next.remittances = db.remittances
  items : next.remittanceItems = db.remittanceItems

-- What a call of `recordCollection` has done once it succeeds: replayed, or recorded.
structure Recording (view : View) (next : Db) (id : Id) (input : RecordRequest) (keyHash : ScopedKey)
    (orderId : Id) (case : OrderCase) : Prop where
  is : IsCase view.current orderId case
  collection : case.collection.id = id
  expected : case.collection.status = .expected
  takes : Takes view.current next .managed case
  same : SameRemittances view.current next
  kept : Kept view.current.discrepancies next.discrepancies
  stored : exists after, IsCase next orderId after /\
    after.collection.recordIdempotencyKeyHash = some keyHash /\
    after.collection.recordRequestHash = some (hashed input) /\
    after.collection.collectedMillimes = input.collectedMillimes

-- The case once an amount is recorded for it.
def recordedCase (input : RecordRequest) (keyHash : ScopedKey) (discrepancyId actorUserId : Id)
    (difference : Int) (case : OrderCase) : OrderCase :=
  { case with
    order := paid (if difference ≠ 0 then .reconciliationDiscrepancy
      else collectedPaymentStatus case.order) case.order
    delivery := cashCounted (difference == 0) case.delivery
    collection := recordedCollection case.order case.delivery
      (if difference < 0 then .partiallyCollected else .collected) input keyHash actorUserId
      case.collection
    discrepancy := if difference ≠ 0 then
        some (collectionDiscrepancy discrepancyId case.collection input.collectedMillimes
          difference actorUserId)
      else case.discrepancy }

-- Everything a recording writes.
structure Counting (view : View) (next : Db) (id : Id) (input : RecordRequest) (keyHash : ScopedKey)
    (discrepancyId actorUserId orderId : Id) (case : OrderCase) (difference : Int) : Prop where
  is : IsCase view.current orderId case
  collection : case.collection.id = id
  expected : case.collection.status = .expected
  step : CaseStep .managed case
    (recordedCase input keyHash discrepancyId actorUserId difference case)
  writes : Writes view.current next case
    (recordedCase input keyHash discrepancyId actorUserId difference case)
  same : SameRemittances view.current next
  opens : openRecorded view.current.discrepancies
    (collectionDiscrepancy discrepancyId case.collection input.collectedMillimes difference actorUserId) =
    .ok next.discrepancies

structure Replaying (view : View) (id : Id) (input : RecordRequest) (keyHash : ScopedKey)
    (orderId : Id) (was : OrderCase) : Prop where
  is : IsCase view.snapshot orderId was
  collection : was.collection.id = id
  key : was.collection.recordIdempotencyKeyHash = some keyHash
  request : was.collection.recordRequestHash = some (hashed input)

theorem recording_of_writes {id : Id} {input : RecordRequest} {keyHash : ScopedKey} {orderId : Id}
    {case after : OrderCase} (is : IsCase view.current orderId case) (here : case.collection.id = id)
    (expected : case.collection.status = .expected) (step : CaseStep .managed case after)
    (writes : Writes view.current next case after) (same : SameRemittances view.current next)
    (kept : Kept view.current.discrepancies next.discrepancies)
    (key : after.collection.recordIdempotencyKeyHash = some keyHash)
    (request : after.collection.recordRequestHash = some (hashed input))
    (amount : after.collection.collectedMillimes = input.collectedMillimes) :
    Recording view next id input keyHash orderId case where
  is := is
  collection := here
  expected := expected
  takes := ⟨after, step, writes⟩
  same := same
  kept := kept
  stored := ⟨after, writes.here is, key, request, amount⟩

theorem openRecorded_reads {db : Db} {orderId : Id} {case : OrderCase} {row : CashDiscrepancy}
    {discrepancies : Table CashDiscrepancy.id} (linked : Linked db) (is : IsCase db orderId case)
    (here : row.cashCollectionId = some case.collection.id)
    (opens : openRecorded db.discrepancies row = .ok discrepancies) :
    (forall id, discrepancies.lookup CashDiscrepancy.cashCollectionId (some id) =
      if id = case.collection.id then
        (if row.differenceMillimes ≠ 0 then some row else case.discrepancy)
      else discrepancyOf db id) /\
    forall left right, left ∈ discrepancies.rows -> right ∈ discrepancies.rows ->
      left.cashCollectionId.isSome = true -> left.cashCollectionId = right.cashCollectionId ->
      left = right := by
  unfold openRecorded at opens
  split at opens
  next differs =>
    simp only [if_pos differs]
    exact ⟨opened_discrepancy here opens, opened_unique linked opens⟩
  next exact_count =>
    obtain rfl := Except.ok.inj opens
    simp only [if_neg exact_count]
    exact ⟨(is.unwritten linked).discrepancy, linked.opened⟩

theorem recordCollection_cases {id discrepancyId actorUserId : Id} {input : RecordRequest}
    {idempotencyKey : Option Text} (old : Settled view.snapshot) (settled : Settled view.current)
    (ahead : Ahead view.snapshot view.current)
    (ran : recordCollection view id input idempotencyKey discrepancyId actorUserId = .ok next) :
    exists key orderId, requireIdempotencyKey idempotencyKey = .ok key /\
      ((exists was, Replaying view id input (collectionKeyHash actorUserId id key) orderId was /\
          next = view.current) \/
        exists case difference, Counting view next id input (collectionKeyHash actorUserId id key)
          discrepancyId actorUserId orderId case difference) := by
  simp only [recordCollection, bind_ok] at ran
  obtain ⟨key, valid, operation, locks, ran⟩ := ran
  obtain ⟨orderId, was, before, here, rfl⟩ := lockCollection_ok old.linked locks
  refine ⟨key, orderId, valid, ?_⟩
  split at ran
  next replay =>
    obtain rfl := (pure_ok _ _).1 ran
    exact .inl ⟨was, ⟨before, here, replay.1, replay.2⟩, rfl⟩
  next =>
    right
    simp only [bind_ok, throwIf_ok, orThrow_ok, updateOne_ok, pure_ok, assertCollectable,
      assertCollectionCourier, requireWhen_ok] at ran
    simp only [lockedCollection] at ran
    obtain ⟨⟨⟩, -, ⟨⟩, orderVersion, delivery, found, ⟨⟩, deliveryVersion, ⟨⟩,
      ⟨⟨⟩, -, ⟨⟩, -, ⟨⟩, payable, ⟨⟩, collectable, positive⟩, difference, balance, ⟨⟩, -, ⟨⟩, -, ⟨⟩, -,
      ⟨⟩, courier, collections, ⟨oneCollection, rfl⟩, orders, ⟨oneOrder, rfl⟩, deliveries,
      ⟨oneDelivery, rfl⟩, discrepancies, opens, rfl⟩ := ran
    obtain rfl := Option.some.inj found
    simp only [not_or, not_not] at orderVersion deliveryVersion payable collectable
    obtain ⟨case, is, later⟩ := ahead orderId was before
    have sameId := later.collectionId
    -- The guards on the current rows find the rows the snapshot showed.
    have collectionHit := Table.count_one_hit oneCollection is.collection_mem fun row hit => by
      simp only [Bool.and_eq_true, beq_iff_eq] at hit
      exact hit.1.1.trans sameId.symm
    have orderHit := Table.count_one_hit oneOrder is.order_mem fun row hit => by
      simp only [Bool.and_eq_true, beq_iff_eq] at hit
      exact hit.1.1.trans later.orderId.symm
    have deliveryHit := Table.count_one_hit oneDelivery is.delivery_mem fun row hit => by
      simp only [Bool.and_eq_true, beq_iff_eq] at hit
      exact hit.1.trans later.deliveryId.symm
    simp only [Bool.and_eq_true, beq_iff_eq] at collectionHit orderHit deliveryHit
    have sameOrder : case.order = was.order :=
      version_current later.order (orderHit.1.2.trans orderVersion.symm)
    have sameDelivery : case.delivery = was.delivery :=
      version_current later.delivery (deliveryHit.2.trans deliveryVersion.symm)
    have scope : collectionDiscrepancy discrepancyId was.collection input.collectedMillimes difference
        actorUserId = collectionDiscrepancy discrepancyId case.collection input.collectedMillimes
          difference actorUserId := by
      simp only [collectionDiscrepancy, sameId, later.owed, is.collection_order, before.collection_order]
    simp only [<- sameOrder, <- sameDelivery, <- sameId, <- later.owed, scope] at *
    have fresh := (settled.sound orderId case is).unrecorded (by
      simp [collectionHit.1.2, unrecordedStatuses])
    have step := CaseStep.recorded case input (collectionKeyHash actorUserId id key) discrepancyId
      actorUserId difference collectionHit.1.2 payable.1 collectable (by omega) balance (by
        intro method
        rw [Option.isSome_iff_ne_none]
        exact fun absent => courier ⟨method, .inl (by simp [absent])⟩)
    obtain ⟨reads, unique⟩ := openRecorded_reads settled.linked is rfl opens
    refine ⟨case, difference, is, here, collectionHit.1.2, step, recordedRows_writes settled.linked is
      ?_ ?_ ?_ ?_ ?_ ?_ reads unique, ⟨rfl, rfl⟩, opens⟩
    all_goals simp only [Bool.and_eq_true, beq_iff_eq]
    next => exact collectionHit
    next => exact fun row hit => hit.1.1
    next => exact orderHit
    next => exact fun row hit => hit.1.1
    next => exact deliveryHit
    next => exact fun row hit => hit.1

theorem recordCollection_ok {id discrepancyId actorUserId : Id} {input : RecordRequest}
    {idempotencyKey : Option Text} (old : Settled view.snapshot) (settled : Settled view.current)
    (ahead : Ahead view.snapshot view.current)
    (ran : recordCollection view id input idempotencyKey discrepancyId actorUserId = .ok next) :
    exists key orderId, requireIdempotencyKey idempotencyKey = .ok key /\
      ((exists was, Replaying view id input (collectionKeyHash actorUserId id key) orderId was /\
          next = view.current) \/
        exists case,
          Recording view next id input (collectionKeyHash actorUserId id key) orderId case) := by
  obtain ⟨key, orderId, valid, replaying | ⟨case, difference, counting⟩⟩ :=
    recordCollection_cases old settled ahead ran
  next => exact ⟨key, orderId, valid, .inl replaying⟩
  next =>
    exact ⟨key, orderId, valid, .inr ⟨case, recording_of_writes counting.is counting.collection
      counting.expected counting.step counting.writes counting.same (openRecorded_kept counting.opens)
      rfl rfl rfl⟩⟩

theorem discrepancy_of_row {db : Db} (linked : Linked db) {row : CashDiscrepancy} {collectionId : Id}
    (member : row ∈ db.discrepancies.rows) (here : row.cashCollectionId = some collectionId) :
    discrepancyOf db collectionId = some row := by
  cases found : discrepancyOf db collectionId with
  | none => exact absurd here ((Table.lookup_none _ _ _).1 found row member)
  | some other =>
    obtain ⟨present, same⟩ := Table.lookup_some found
    exact congrArg some (linked.opened other row present member (by simp [same]) (same.trans here.symm))

def settledBy (resolution : Resolution) (actorUserId : Id) (row : CashDiscrepancy) : CashDiscrepancy :=
  { row with status := resolution.status, resolvedByUserId := some actorUserId }

theorem rewritten_unique {db : Db} (guard : CashDiscrepancy -> Bool)
    (change : CashDiscrepancy -> CashDiscrepancy) (linked : Linked db)
    (keeps : forall other, (change other).id = other.id)
    (same : forall other, (change other).cashCollectionId = other.cashCollectionId) :
    forall left right, left ∈ (db.discrepancies.update guard change keeps).rows ->
      right ∈ (db.discrepancies.update guard change keeps).rows ->
      left.cashCollectionId.isSome = true -> left.cashCollectionId = right.cashCollectionId ->
      left = right := by
  intro left right leftMember rightMember some sameCollection
  obtain ⟨first, known, rfl⟩ := List.mem_map.1 leftMember
  obtain ⟨second, also, rfl⟩ := List.mem_map.1 rightMember
  simp only [Table.rewrite_field same] at some sameCollection
  rw [linked.opened first second known also some sameCollection]

-- Settling the discrepancy of a collection is read there and nowhere else.
theorem settled_reads {db : Db} {orderId : Id} {case : OrderCase} {row : CashDiscrepancy}
    (guard : CashDiscrepancy -> Bool) (change : CashDiscrepancy -> CashDiscrepancy)
    (linked : Linked db) (is : IsCase db orderId case) (found : case.discrepancy = some row)
    (keeps : forall other, (change other).id = other.id)
    (same : forall other, (change other).cashCollectionId = other.cashCollectionId)
    (hit : guard row = true) (only : forall other, guard other = true -> other.id = row.id) :
    (forall id, (db.discrepancies.update guard change keeps).lookup CashDiscrepancy.cashCollectionId
      (some id) = if id = case.collection.id then some (change row) else discrepancyOf db id) /\
    forall left right, left ∈ (db.discrepancies.update guard change keeps).rows ->
      right ∈ (db.discrepancies.update guard change keeps).rows ->
      left.cashCollectionId.isSome = true -> left.cashCollectionId = right.cashCollectionId ->
      left = right := by
  obtain ⟨member, here⟩ := Table.lookup_some (is.discrepancy.trans found)
  refine ⟨fun id => ?_, rewritten_unique guard change linked keeps same⟩
  rw [Table.lookup_update _ _ _ _ _ same]
  by_cases at_case : id = case.collection.id
  next =>
    rw [if_pos at_case, at_case]
    have read := is.discrepancy.trans found
    rw [discrepancyOf] at read
    rw [read, Option.map_some, Table.rewrite_chosen hit]
  next =>
    rw [if_neg at_case, discrepancyOf]
    cases read : db.discrepancies.lookup CashDiscrepancy.cashCollectionId (some id) with
    | none => rfl
    | some other =>
      obtain ⟨present, there⟩ := Table.lookup_some read
      have miss : guard other = false := Bool.eq_false_iff.2 fun chosen => by
        obtain rfl := db.discrepancies.same_of_key present member (only other chosen)
        exact at_case (Option.some.inj (there.symm.trans here))
      rw [Option.map_some, Table.rewrite_other miss]

theorem clearsProjection_case {db : Db} {orderId : Id} {case : OrderCase} (linked : Linked db)
    (is : IsCase db orderId case) (sound : Sound case)
    (counted : case.collection.status ∈ remittableCollectionStatuses) :
    clearsProjection db (lockedCollection case) = .ok true := by
  have alone : orderCollectionsOf db case.collection.orderId = [case.collection] := by
    have collections := collectionsOf_case linked is
    simp only [Orders.Admin.collectionsOf, Table.filter] at collections
    have live : (case.collection.status != .voided) = true := by
      revert counted
      cases case.collection.status <;> decide
    rw [orderCollectionsOf, Table.filter, is.collection_order]
    rw [show (fun row : CashCollection => row.orderId == orderId && row.status != .voided) =
      fun row => (row.status != .voided) && (row.orderId == orderId) from
        funext fun row => Bool.and_comm _ _]
    rw [<- List.filter_filter, collections]
    simp [live]
  have total : projectedTotal db case.collection [case.collection] =
      .ok (some case.order.expectedCodMillimes) := by
    simp only [projectedTotal, projectedMillimes, bind_ok, if_true, pure_ok]
    refine ⟨some case.collection.expectedMillimes, rfl, ?_⟩
    simp [sound.owed]
  simp only [clearsProjection, lockedCollection, alone, bind_ok, pure_ok]
  exact ⟨_, total, by simp⟩

theorem unsettled_counted {case : OrderCase} {row : CashDiscrepancy} (sound : Sound case)
    (found : case.discrepancy = some row) (unsettled : row.status ∈ unsettledStatuses) :
    case.collection.status ∈ remittableCollectionStatuses := by
  have recorded : Not (case.collection.status ∈ unrecordedStatuses) := fun fresh => by
    simp [(sound.unrecorded fresh).discrepancy] at found
  obtain ⟨difference, -, accounts⟩ := (sound.recorded recorded).balance
  simp only [Accounts, found] at accounts
  exact (accounts.2.2.2.2 unsettled).2

theorem discrepancy_unsettled {status : CashDiscrepancyStatus} {resolution : Resolution}
    (allowed : Not (canTransitionDiscrepancy status resolution.status = false)) :
    status ∈ unsettledStatuses := by
  revert allowed
  cases resolution <;> cases status <;> decide

-- What resolving the discrepancy of a collection has done once it succeeds.
structure ResolvesCollection (view : View) (next : Db) (id : Id) (resolution : Resolution)
    (actorUserId : Id) (orderId : Id) (case : OrderCase) (row : CashDiscrepancy) : Prop where
  is : IsCase view.current orderId case
  found : case.discrepancy = some row
  id : row.id = id
  unsettled : row.status ∈ unsettledStatuses
  unallocated : forall item, item ∈ view.snapshot.remittanceItems ->
    item.cashCollectionId ≠ case.collection.id
  writes : Writes view.current next case
    (match resolution with
    | .resolved => { case with
        order := paid (collectedPaymentStatus case.order) case.order
        delivery := cashCounted true case.delivery
        collection := { case.collection with status := .collected }
        discrepancy := some { row with status := .resolved, resolvedByUserId := some actorUserId } }
    | .writtenOff => { case with
        discrepancy := some { row with status := .writtenOff, resolvedByUserId := some actorUserId } })
  counted : case.collection.status ∈ remittableCollectionStatuses
  same : SameRemittances view.current next
  kept : Kept view.current.discrepancies next.discrepancies

def correctedCase (case : OrderCase) : OrderCase :=
  { case with
    order := paid (collectedPaymentStatus case.order) case.order
    delivery := cashCounted true case.delivery
    collection := { case.collection with status := .collected } }

theorem correctCollection_writes {was case : OrderCase} {orderId : Id} {corrected : Db}
    (old : Settled view.snapshot) (settled : Settled view.current)
    (before : IsCase view.snapshot orderId was) (is : IsCase view.current orderId case)
    (later : Later was case) (counted : was.collection.status ∈ remittableCollectionStatuses)
    (ran : correctCollection view (lockedCollection was) was.delivery = .ok corrected) :
    case.collection.status = was.collection.status /\
      Writes view.current corrected case (correctedCase case) /\
      corrected.discrepancies = view.current.discrepancies /\ SameRemittances view.current corrected := by
  have clear := clearsProjection_case old.linked before (old.sound orderId was before) counted
  simp only [correctCollection, ok_of_bind clear, if_true, bind_ok, updateOne_ok, pure_ok] at ran
  simp only [lockedCollection] at ran
  obtain ⟨collections, ⟨oneCollection, rfl⟩, orders, ⟨oneOrder, rfl⟩, deliveries, ⟨oneDelivery, rfl⟩,
    rfl⟩ := ran
  have collectionHit := Table.count_one_hit oneCollection is.collection_mem fun row hit => by
    simp only [Bool.and_eq_true, beq_iff_eq] at hit
    exact hit.1.trans later.collectionId.symm
  have orderHit := Table.count_one_hit oneOrder is.order_mem fun row hit => by
    simp only [Bool.and_eq_true, beq_iff_eq] at hit
    exact hit.1.1.trans later.orderId.symm
  have deliveryHit := Table.count_one_hit oneDelivery is.delivery_mem fun row hit => by
    simp only [Bool.and_eq_true, beq_iff_eq] at hit
    exact hit.1.trans later.deliveryId.symm
  have base := is.unwritten settled.linked
  have sameOrder : case.order = was.order := by
    refine version_current later.order ?_
    simp only [Bool.and_eq_true, beq_iff_eq] at orderHit
    exact orderHit.1.2
  simp only [<- sameOrder, <- later.collectionId, <- later.deliveryId] at *
  refine ⟨?_, ?_, trivial, ⟨rfl, rfl⟩⟩
  next =>
    simp only [Bool.and_eq_true, beq_iff_eq] at collectionHit
    exact collectionHit.2
  next =>
    exact { base with
      order := is.order_updated (paid_id _) orderHit fun row hit => by
        simp only [Bool.and_eq_true, beq_iff_eq] at hit
        exact hit.1.1
      delivery := is.delivery_updated settled.linked (cashCounted_id _) (fun _ => rfl) deliveryHit
        fun row hit => by
          simp only [Bool.and_eq_true, beq_iff_eq] at hit
          exact hit.1
      collection := by
        refine is.collection_updated settled.linked (fun _ => by rfl) (fun _ => by rfl) collectionHit
          fun row hit => ?_
        simp only [Bool.and_eq_true, beq_iff_eq] at hit
        exact hit.1
      orderIds := orderIds_updated _ _ (paid_id _)
      deliveryLinks := deliveryLinks_updated _ _ (cashCounted_id _) fun _ => rfl
      collectionLinks := by
        exact collectionLinks_updated _ _ (fun _ => by rfl) (fun _ => by rfl) fun _ => by rfl }

theorem settleDiscrepancy_writes {db : Db} {orderId : Id} {case : OrderCase} {row old : CashDiscrepancy}
    {resolution : Resolution} {actorUserId : Id} {discrepancies : Table CashDiscrepancy.id}
    (linked : Linked db) (is : IsCase db orderId case) (found : case.discrepancy = some row)
    (same : row.id = old.id)
    (ran : settleDiscrepancy db.discrepancies old resolution actorUserId = .ok discrepancies)
    (events : List CashReconciliationEvent) :
    row.status = old.status /\
      Writes db { db with discrepancies, cashEvents := events } case
        { case with discrepancy := some (settledBy resolution actorUserId row) } := by
  obtain ⟨one, rfl⟩ := (updateOne_ok _ _ _ _ _ _).1 ran
  have member := (Table.lookup_some (is.discrepancy.trans found)).1
  have hit := Table.count_one_hit one member fun other hit => by
    simp only [Bool.and_eq_true, beq_iff_eq] at hit
    exact hit.1.trans same.symm
  obtain ⟨reads, unique⟩ := settled_reads
    (fun other => other.id == old.id && other.status == old.status) (settledBy resolution actorUserId)
    linked is found (fun _ => rfl) (fun _ => rfl) hit fun other chosen => by
      simp only [Bool.and_eq_true, beq_iff_eq] at chosen
      exact chosen.1.trans same.symm
  simp only [Bool.and_eq_true, beq_iff_eq] at hit
  exact ⟨hit.2, { is.unwritten linked with discrepancy := reads, opened := unique }⟩

theorem resolveCollectionDiscrepancy_ok {cashCollectionId id actorUserId : Id}
    {input : ResolveCashDiscrepancy} (old : Settled view.snapshot) (settled : Settled view.current)
    (ahead : Ahead view.snapshot view.current)
    (ran : resolveCollectionDiscrepancy view cashCollectionId id input actorUserId = .ok next) :
    exists orderId case row,
      ResolvesCollection view next id input.resolution actorUserId orderId case row := by
  simp only [resolveCollectionDiscrepancy, bind_ok, orThrow_ok, throwIf_ok, pure_ok,
    assertDiscrepancyLinkage] at ran
  obtain ⟨operation, locks, discrepancy, read, delivery, found, ⟨⟩, ⟨⟨⟩, linkage, difference, -, -⟩,
    ⟨⟩, allowed, ⟨⟩, state, ⟨⟩, -, ⟨⟩, unallocated, ⟨⟩, -, ⟨⟩, -, corrected, corrects, discrepancies,
    settles, rfl⟩ := ran
  obtain ⟨orderId, was, before, here, rfl⟩ := lockCollection_ok old.linked locks
  simp only [lockedCollection] at found linkage state unallocated
  obtain rfl := Option.some.inj found
  simp only [not_or, not_not, ne_eq] at linkage state unallocated
  obtain ⟨case, is, later⟩ := ahead orderId was before
  have wasFound : was.discrepancy = some discrepancy := before.discrepancy.symm.trans
    (discrepancy_of_row old.linked (Table.find?_mem read) linkage.2.1)
  obtain ⟨row, rowFound, sameId, -⟩ := later.discrepancy discrepancy wasFound
  have unsettled := discrepancy_unsettled allowed
  have rowId : row.id = id := sameId.trans (Table.find?_key read)
  have free : forall item, item ∈ view.snapshot.remittanceItems ->
      item.cashCollectionId ≠ case.collection.id := by
    intro item member same
    have there : item ∈ itemsOn view.snapshot.remittanceItems was.collection.id :=
      List.mem_filter.2 ⟨member, by simp [same, later.collectionId]⟩
    simp [unallocated] at there
  refine ⟨orderId, case, row, ?_⟩
  cases resolution : input.resolution with
  | resolved =>
    rw [resolution] at corrects settles
    obtain ⟨sameStatus, writes, rows, same⟩ := correctCollection_writes old settled before is later
      state.1 corrects
    have there := writes.here is
    have linked := writes.linked is settled.linked
    obtain ⟨status, settling⟩ := settleDiscrepancy_writes linked there rowFound sameId settles _
    exact {
      is, found := rowFound, id := rowId
      unsettled := status ▸ unsettled
      unallocated := free
      writes := writes.trans rfl settling
      counted := sameStatus ▸ state.1
      same := ⟨same.remittances, same.items⟩
      kept := rows ▸ settleDiscrepancy_kept unsettled settles }
  | writtenOff =>
    rw [resolution] at corrects settles
    obtain rfl := Except.ok.inj corrects
    obtain ⟨status, settling⟩ := settleDiscrepancy_writes settled.linked is rowFound sameId settles _
    have rowUnsettled : row.status ∈ unsettledStatuses := status ▸ unsettled
    exact {
      is, found := rowFound, id := rowId
      unsettled := rowUnsettled
      unallocated := free
      writes := settling
      counted := unsettled_counted (settled.sound orderId case is) rowFound rowUnsettled
      same := ⟨rfl, rfl⟩
      kept := settleDiscrepancy_kept unsettled settles }

end VapeCommerce.Cash.Steps
