import VapeCommerce.Cash.Operations

set_option autoImplicit false

-- What verified remittances hold of each collection, and how that moves.
namespace VapeCommerce.Cash.Verified

open VapeCommerce.Lib VapeCommerce.Lib.Outcome VapeCommerce.Schema VapeCommerce.Database
open VapeCommerce.Cash.Admin VapeCommerce.Cash.Steps VapeCommerce.Cash.Remittances
open VapeCommerce.Cash.Operations

def verifiedItems (db : Db) : List CashRemittanceItem :=
  db.remittanceItems.filter fun item => verifiedIn db item.remittanceId

def verifiedTotal (db : Db) (collectionId : Id) : Int :=
  itemsTotal (itemsOn (verifiedItems db) collectionId)

-- What one remittance holds of a collection.
def heldIn (db : Db) (remittanceId collectionId : Id) : Int :=
  itemsTotal (itemsOn (itemsIn db.remittanceItems remittanceId) collectionId)

theorem verifiedIn_iff {db : Db} {remittanceId : Id} : verifiedIn db remittanceId = true <->
    exists row, row ∈ db.remittances.rows /\ row.id = remittanceId /\ row.status = .verified := by
  simp only [verifiedIn, Option.any_eq_true, beq_iff_eq]
  constructor
  next =>
    rintro ⟨row, found, status⟩
    exact ⟨row, Table.find?_mem found, Table.find?_key found, status⟩
  next =>
    rintro ⟨row, member, rfl, status⟩
    exact ⟨row, Table.find?_of_mem member, status⟩

section Totals

variable {items : List CashRemittanceItem} (amount : forall item, item ∈ items -> 1 <= item.amountMillimes)

include amount

theorem total_nonneg : 0 <= itemsTotal items := by
  refine List.sum_nonneg fun value member => ?_
  obtain ⟨item, there, rfl⟩ := List.mem_map.1 member
  have one := amount item there
  omega

theorem total_positive {item : CashRemittanceItem} (member : item ∈ items) : 1 <= itemsTotal items := by
  induction items with
  | nil => simp at member
  | cons first rest ih =>
    have rest_amount : forall other, other ∈ rest -> 1 <= other.amountMillimes := fun other there =>
      amount other (List.mem_cons_of_mem _ there)
    have nonneg := total_nonneg rest_amount
    have one := amount first List.mem_cons_self
    simp only [itemsTotal, List.map_cons, List.sum_cons] at nonneg ⊢
    omega

-- Items chosen by a wider test add up to no less.
theorem total_mono {chosen wider : CashRemittanceItem -> Bool}
    (implies : forall item, item ∈ items -> chosen item = true -> wider item = true) :
    itemsTotal (items.filter chosen) <= itemsTotal (items.filter wider) := by
  rw [itemsTotal, itemsTotal, sum_filter, sum_filter]
  refine List.sum_le_sum fun item member => ?_
  have one := amount item member
  cases hit : chosen item with
  | true => simp [implies item member hit]
  | false =>
    simp only [Bool.false_eq_true, if_false]
    split <;> omega

omit amount in
theorem total_split {chosen left right : CashRemittanceItem -> Bool}
    (either : forall item, item ∈ items -> chosen item = (left item || right item))
    (apart : forall item, item ∈ items -> left item = true -> right item = false) :
    itemsTotal (items.filter chosen) =
      itemsTotal (items.filter left) + itemsTotal (items.filter right) := by
  simp only [itemsTotal, sum_filter]
  rw [<- List.sum_map_add]
  refine congrArg List.sum (List.map_congr_left fun item member => ?_)
  rw [either item member]
  cases hit : left item with
  | true => simp [apart item member hit]
  | false => simp

end Totals

def countsVerified (db : Db) (collectionId : Id) (item : CashRemittanceItem) : Bool :=
  item.cashCollectionId == collectionId && verifiedIn db item.remittanceId

theorem verifiedTotal_filter (db : Db) (collectionId : Id) :
    verifiedTotal db collectionId =
      itemsTotal (db.remittanceItems.filter (countsVerified db collectionId)) := by
  simp only [verifiedTotal, verifiedItems, itemsOn, List.filter_filter]
  rfl

def countsHeld (remittanceId collectionId : Id) (item : CashRemittanceItem) : Bool :=
  item.cashCollectionId == collectionId && item.remittanceId == remittanceId

theorem heldIn_filter (db : Db) (remittanceId collectionId : Id) :
    heldIn db remittanceId collectionId =
      itemsTotal (db.remittanceItems.filter (countsHeld remittanceId collectionId)) := by
  simp only [heldIn, itemsIn, itemsOn, List.filter_filter]
  rfl

variable {db next : Db} {view : View}

theorem verifiedTotal_le_items (funded : Funded db) (collectionId : Id) :
    verifiedTotal db collectionId <= itemsTotal (itemsOn db.remittanceItems collectionId) := by
  rw [verifiedTotal_filter, itemsOn]
  refine total_mono funded.amount fun item _ hit => ?_
  simp only [countsVerified, Bool.and_eq_true] at hit
  exact hit.1

theorem verifiedTotal_item {collectionId : Id} (positive : verifiedTotal db collectionId ≠ 0) :
    exists item, item ∈ db.remittanceItems /\ item.cashCollectionId = collectionId /\
      verifiedIn db item.remittanceId = true := by
  rw [verifiedTotal_filter] at positive
  cases listed : db.remittanceItems.filter (countsVerified db collectionId) with
  | nil => simp [listed, itemsTotal] at positive
  | cons item rest =>
    have member : item ∈ db.remittanceItems.filter (countsVerified db collectionId) := by simp [listed]
    obtain ⟨known, hit⟩ := List.mem_filter.1 member
    simp only [countsVerified, Bool.and_eq_true, beq_iff_eq] at hit
    exact ⟨item, known, hit⟩

theorem heldIn_nonneg (funded : Funded db) (remittanceId collectionId : Id) :
    0 <= heldIn db remittanceId collectionId := by
  rw [heldIn_filter]
  exact total_nonneg fun item member => funded.amount item (List.mem_filter.1 member).1

theorem heldIn_positive (funded : Funded db) {item : CashRemittanceItem}
    (member : item ∈ db.remittanceItems) : 1 <= heldIn db item.remittanceId item.cashCollectionId := by
  rw [heldIn_filter]
  refine total_positive (fun other listed => funded.amount other (List.mem_filter.1 listed).1)
    (List.mem_filter.2 ⟨member, ?_⟩)
  simp [countsHeld]

theorem held_item {remittanceId collectionId : Id} (held : heldIn db remittanceId collectionId ≠ 0) :
    exists item, item ∈ itemsIn db.remittanceItems remittanceId /\
      item.cashCollectionId = collectionId := by
  have some : itemsOn (itemsIn db.remittanceItems remittanceId) collectionId ≠ [] :=
    fun none => held (by rw [heldIn, none]; rfl)
  obtain ⟨item, member⟩ := List.exists_mem_of_ne_nil _ some
  obtain ⟨mine, here⟩ := List.mem_filter.1 member
  exact ⟨item, mine, beq_iff_eq.1 here⟩

-- A verified remittance stays verified and keeps its items, so totals only grow.
theorem verifiedTotal_grows (funded : Funded next) (retains : Retains db next) (collectionId : Id) :
    verifiedTotal db collectionId <= verifiedTotal next collectionId := by
  obtain ⟨added, items, -⟩ := retains.items
  have amount : forall item, item ∈ db.remittanceItems -> 1 <= item.amountMillimes :=
    fun item member => funded.amount item (by simp [items, member])
  have more : forall item, item ∈ added -> 1 <= item.amountMillimes :=
    fun item member => funded.amount item (by simp [items, member])
  have before : itemsTotal (db.remittanceItems.filter (countsVerified db collectionId)) <=
      itemsTotal (db.remittanceItems.filter (countsVerified next collectionId)) := by
    refine total_mono amount fun item _ hit => ?_
    simp only [countsVerified, Bool.and_eq_true, verifiedIn_iff] at hit ⊢
    obtain ⟨here, row, member, same, verified⟩ := hit
    obtain ⟨now, there, id, -, -, kept⟩ := retains.remittances row member
    exact ⟨here, now, there, id.trans same, kept verified⟩
  have rest : 0 <= itemsTotal (added.filter (countsVerified next collectionId)) :=
    total_nonneg fun item member => more item (List.mem_filter.1 member).1
  have joined : itemsTotal (next.remittanceItems.filter (countsVerified next collectionId)) =
      itemsTotal (db.remittanceItems.filter (countsVerified next collectionId)) +
        itemsTotal (added.filter (countsVerified next collectionId)) := by
    simp [items, itemsTotal]
  rw [verifiedTotal_filter, verifiedTotal_filter, joined]
  omega

-- The items of a remittance that is there are all there.
theorem items_stay (retains : Retains db next) {row : CashRemittance}
    (member : row ∈ db.remittances.rows) :
    itemsIn next.remittanceItems row.id = itemsIn db.remittanceItems row.id := by
  obtain ⟨added, items, fresh⟩ := retains.items
  have none : itemsIn added row.id = [] := List.filter_eq_nil_iff.2 fun item listed => by
    simpa using Ne.symm (fresh item listed row member)
  rw [items, itemsIn, List.filter_append]
  rw [itemsIn] at none
  rw [none, List.append_nil]
  rfl

theorem turned_rows {source target status : CashRemittanceStatus} {id wanted : Id}
    {old new : Table CashRemittance.id} (turned : Turned source target id old new) :
    (exists row, row ∈ new.rows /\ row.id = wanted /\ row.status = status) <->
      exists row, row ∈ old.rows /\ row.id = wanted /\
        (if row.id = id then target else row.status) = status := by
  constructor
  next =>
    rintro ⟨row, member, rfl, rfl⟩
    have there : (row.id, row.status) ∈ new.rows.map fun row => (row.id, row.status) :=
      List.mem_map.2 ⟨row, member, rfl⟩
    rw [turned.status] at there
    obtain ⟨was, before, same⟩ := List.mem_map.1 there
    exact ⟨was, before, congrArg Prod.fst same, congrArg Prod.snd same⟩
  next =>
    rintro ⟨was, member, rfl, rfl⟩
    have there : (was.id, if was.id = id then target else was.status) ∈
        old.rows.map fun row => (row.id, if row.id = id then target else row.status) :=
      List.mem_map.2 ⟨was, member, rfl⟩
    rw [<- turned.status] at there
    obtain ⟨row, after, same⟩ := List.mem_map.1 there
    exact ⟨row, after, congrArg Prod.fst same, congrArg Prod.snd same⟩

-- A remittance on a status other than verified does not count.
theorem turned_unverified {source target : CashRemittanceStatus} {id : Id}
    (turned : Turned source target id db.remittances next.remittances) (pending : source ≠ .verified) :
    verifiedIn db id = false := by
  obtain ⟨row, member, here, status⟩ := turned.found
  refine Bool.eq_false_iff.2 fun verified => ?_
  obtain ⟨other, there, same, is⟩ := verifiedIn_iff.1 verified
  obtain rfl := db.remittances.same_of_key there member (same.trans here.symm)
  exact pending (status.symm.trans is)

theorem turned_verifies {source : CashRemittanceStatus} {id : Id}
    (turned : Turned source .verified id db.remittances next.remittances) (remittanceId : Id) :
    verifiedIn next remittanceId = (verifiedIn db remittanceId || remittanceId == id) := by
  refine Bool.eq_iff_iff.2 ?_
  rw [verifiedIn_iff, turned_rows turned, Bool.or_eq_true, verifiedIn_iff, beq_iff_eq]
  constructor
  next =>
    rintro ⟨row, member, rfl, status⟩
    split at status
    next same => exact .inr same
    next => exact .inl ⟨row, member, rfl, status⟩
  next =>
    rintro (⟨row, member, rfl, status⟩ | rfl)
    next =>
      refine ⟨row, member, rfl, ?_⟩
      split
      next => rfl
      next => exact status
    next =>
      obtain ⟨row, member, here, -⟩ := turned.found
      exact ⟨row, member, here, if_pos here⟩

theorem turned_keeps_verified {source target : CashRemittanceStatus} {id : Id}
    (turned : Turned source target id db.remittances next.remittances) (pending : source ≠ .verified)
    (other : target ≠ .verified) (remittanceId : Id) :
    verifiedIn next remittanceId = verifiedIn db remittanceId := by
  refine Bool.eq_iff_iff.2 ?_
  rw [verifiedIn_iff, turned_rows turned, verifiedIn_iff]
  obtain ⟨row, member, here, before⟩ := turned.found
  constructor
  next =>
    rintro ⟨found, there, same, status⟩
    split at status
    next => exact absurd status other
    next => exact ⟨found, there, same, status⟩
  next =>
    rintro ⟨found, there, same, status⟩
    refine ⟨found, there, same, ?_⟩
    split
    next equal =>
      obtain rfl := db.remittances.same_of_key there member (equal.trans here.symm)
      exact absurd (before.symm.trans status) pending
    next => exact status

theorem totals_same (items : next.remittanceItems = db.remittanceItems)
    (verified : forall remittanceId, verifiedIn next remittanceId = verifiedIn db remittanceId)
    (collectionId : Id) : verifiedTotal next collectionId = verifiedTotal db collectionId := by
  have same : countsVerified next collectionId = countsVerified db collectionId :=
    funext fun item => by rw [countsVerified, countsVerified, verified]
  rw [verifiedTotal_filter, verifiedTotal_filter, items, same]

-- Verifying a remittance adds what it holds.
theorem verified_adds {source : CashRemittanceStatus} {id : Id}
    (turned : Turned source .verified id db.remittances next.remittances) (pending : source ≠ .verified)
    (items : next.remittanceItems = db.remittanceItems) (collectionId : Id) :
    verifiedTotal next collectionId = verifiedTotal db collectionId + heldIn db id collectionId := by
  rw [verifiedTotal_filter, verifiedTotal_filter, heldIn_filter, items]
  refine total_split (fun item _ => ?_) fun item _ counted => ?_
  next => rw [countsVerified, turned_verifies turned, countsVerified, countsHeld, Bool.and_or_distrib_left]
  next =>
    simp only [countsVerified, Bool.and_eq_true, beq_iff_eq] at counted
    simp only [countsHeld, Bool.and_eq_false_iff, beq_eq_false_iff_ne]
    refine .inr fun same => ?_
    have unverified := turned_unverified turned pending
    rw [<- same, counted.2] at unverified
    simp at unverified

-- What the transaction counts for a collection: what its snapshot has verified, and its own items.
theorem counted_total {id : Id} {operation : RemittanceOperation} (reads : Reads db id operation)
    (unverified : verifiedIn db id = false) {collectionId : Id}
    (listed : collectionId ∈ operation.items.map (·.item.cashCollectionId)) :
    itemsTotal (itemsOn (countedItems db operation) collectionId) =
      verifiedTotal db collectionId + heldIn db id collectionId := by
  have same := Table.find?_key reads.found
  rw [verifiedTotal_filter, heldIn_filter, countedItems, itemsOn, List.filter_filter]
  refine total_split (fun item _ => ?_) fun item _ counted => ?_
  next =>
    rw [same, countsVerified, countsHeld]
    by_cases here : item.cashCollectionId = collectionId
    next =>
      subst here
      have known : decide (item.cashCollectionId ∈ operation.items.map (·.item.cashCollectionId)) =
        true := decide_eq_true listed
      rw [known, beq_self_eq_true, Bool.true_and, Bool.true_and, Bool.true_and, Bool.true_and,
        Bool.or_comm]
    next =>
      have apart : (item.cashCollectionId == collectionId) = false := by simpa using here
      rw [apart, Bool.false_and, Bool.false_and, Bool.false_and, Bool.or_false]
  next =>
    simp only [countsVerified, Bool.and_eq_true, beq_iff_eq] at counted
    simp only [countsHeld, Bool.and_eq_false_iff, beq_eq_false_iff_ne]
    refine .inr fun equal => ?_
    rw [<- equal, counted.2] at unverified
    simp at unverified

end VapeCommerce.Cash.Verified
