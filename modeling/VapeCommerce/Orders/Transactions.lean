import Mathlib.Logic.Relation
import VapeCommerce.Orders.Progress

set_option autoImplicit false

-- What a transaction does to the orders of a database: each takes allowed steps, or is new.
namespace VapeCommerce.Orders.Transactions

open VapeCommerce.Lib VapeCommerce.Schema VapeCommerce.Database VapeCommerce.Cash.Calculations
open VapeCommerce.Orders.Case VapeCommerce.Orders.Progress

def Path (allowed : Event -> Prop) : OrderCase -> OrderCase -> Prop :=
  Relation.ReflTransGen fun case after => exists event, allowed event /\ CaseStep event case after

theorem Path.weaken {allowed wider : Event -> Prop} {case after : OrderCase} (path : Path allowed case after)
    (implies : forall event, allowed event -> wider event) : Path wider case after := by
  refine Relation.ReflTransGen.mono (fun before later step => ?_) case after path
  obtain ⟨event, ok, taken⟩ := step
  exact ⟨event, implies event ok, taken⟩

-- What every allowed step keeps, a path keeps.
theorem Path.keeps {allowed : Event -> Prop} {keep : OrderCase -> Prop} {case after : OrderCase}
    (path : Path allowed case after)
    (each : forall event case after, allowed event -> CaseStep event case after -> keep case -> keep after)
    (initial : keep case) : keep after := by
  induction path with
  | refl => exact initial
  | tail _ last ih =>
    obtain ⟨event, ok, taken⟩ := last
    exact each event _ _ ok taken ih

structure Advance (allowed : Id -> Event -> Prop) (db next : Db) : Prop where
  linked : Linked next
  known : forall orderId case, IsCase db orderId case ->
    exists after, IsCase next orderId after /\ Path (allowed orderId) case after
  created : forall orderId after, IsCase next orderId after ->
    exists start, (IsCase db orderId start \/ Fresh start) /\ Path (allowed orderId) start after

variable {allowed : Id -> Event -> Prop} {db middle next : Db}

theorem Advance.trans (first : Advance allowed db middle) (second : Advance allowed middle next) :
    Advance allowed db next where
  linked := second.linked
  known orderId case is := by
    obtain ⟨between, there, path⟩ := first.known orderId case is
    obtain ⟨after, last, rest⟩ := second.known orderId between there
    exact ⟨after, last, path.trans rest⟩
  created orderId after is := by
    obtain ⟨between, before | fresh, rest⟩ := second.created orderId after is
    next =>
      obtain ⟨start, source, path⟩ := first.created orderId between before
      exact ⟨start, source, path.trans rest⟩
    next => exact ⟨between, .inr fresh, rest⟩

theorem Advance.weaken {wider : Id -> Event -> Prop} (advance : Advance allowed db next)
    (implies : forall orderId event, allowed orderId event -> wider orderId event) :
    Advance wider db next where
  linked := advance.linked
  known orderId case is := by
    obtain ⟨after, there, path⟩ := advance.known orderId case is
    exact ⟨after, there, path.weaken fun event ok => implies orderId event ok⟩
  created orderId after is := by
    obtain ⟨start, source, path⟩ := advance.created orderId after is
    exact ⟨start, source, path.weaken fun event ok => implies orderId event ok⟩

-- The tables an order is read from are the same, up to discrepancies of remittances.
structure SameCases (db next : Db) : Prop where
  orders : next.orders = db.orders
  deliveries : next.deliveries = db.deliveries
  collections : next.collections = db.collections
  history : next.history = db.history
  attempts : next.attempts = db.attempts
  ageEvents : next.ageEvents = db.ageEvents
  discrepancy : forall id, discrepancyOf next id = discrepancyOf db id
  opened : forall row other, row ∈ next.discrepancies.rows -> other ∈ next.discrepancies.rows ->
    row.cashCollectionId.isSome = true -> row.cashCollectionId = other.cashCollectionId -> row = other

theorem SameCases.isCase (same : SameCases db next) {orderId : Id} {case : OrderCase} :
    IsCase next orderId case <-> IsCase db orderId case := by
  constructor
  next =>
    rintro ⟨order, delivery, collection, discrepancy, history, attempts, ageEvents⟩
    exact ⟨same.orders ▸ order, same.deliveries ▸ delivery, same.collections ▸ collection,
      (same.discrepancy _).symm.trans discrepancy,
      by simpa only [historyOf, same.history] using history,
      by simpa only [Delivery.Admin.attemptsOf, same.attempts] using attempts,
      by simpa only [ageEventsOf, same.ageEvents] using ageEvents⟩
  next =>
    rintro ⟨order, delivery, collection, discrepancy, history, attempts, ageEvents⟩
    exact ⟨same.orders ▸ order, same.deliveries ▸ delivery, same.collections ▸ collection,
      (same.discrepancy _).trans discrepancy,
      by simpa only [historyOf, same.history] using history,
      by simpa only [Delivery.Admin.attemptsOf, same.attempts] using attempts,
      by simpa only [ageEventsOf, same.ageEvents] using ageEvents⟩

theorem SameCases.linked (same : SameCases db next) (linked : Linked db) : Linked next where
  deliveries := by
    simpa only [deliveryLinks, orderIds, same.deliveries, same.orders] using linked.deliveries
  collections := by
    simpa only [collectionLinks, deliveryLinks, same.collections, same.deliveries] using
      linked.collections
  history := by simpa only [orderIds, same.history, same.orders] using linked.history
  attempts := by simpa only [deliveryLinks, same.attempts, same.deliveries] using linked.attempts
  ageEvents := by simpa only [deliveryLinks, same.ageEvents, same.deliveries] using linked.ageEvents
  discrepancies row member collectionId linkedTo := by
    have found := same.discrepancy collectionId
    cases before : discrepancyOf db collectionId with
    | none =>
      rw [before] at found
      exact absurd linkedTo ((Table.lookup_none _ _ _).1 found row member)
    | some old =>
      obtain ⟨present, matching⟩ := Table.lookup_some before
      simpa only [collectionLinks, same.collections] using
        linked.discrepancies old present collectionId matching
  opened := same.opened

theorem SameCases.advance (same : SameCases db next) (linked : Linked db) : Advance allowed db next where
  linked := same.linked linked
  known _ case is := ⟨case, same.isCase.2 is, .refl⟩
  created _ after is := ⟨after, .inl (same.isCase.1 is), .refl⟩

theorem Advance.refl (linked : Linked db) : Advance allowed db db :=
  SameCases.advance ⟨rfl, rfl, rfl, rfl, rfl, rfl, fun _ => rfl, linked.opened⟩ linked

-- One order takes one step.
theorem Writes.advance {orderId : Id} {case after : OrderCase} {event : Event} (linked : Linked db)
    (is : IsCase db orderId case) (writes : Writes db next case after)
    (taken : CaseStep event case after) (ok : allowed orderId event) : Advance allowed db next where
  linked := writes.linked is linked
  known otherId other also := by
    by_cases same : otherId = orderId
    next =>
      subst same
      obtain rfl := is.unique also
      exact ⟨after, writes.here is, .single ⟨event, ok, taken⟩⟩
    next => exact ⟨other, writes.elsewhere is same also, .refl⟩
  created otherId other also := by
    by_cases same : otherId = orderId
    next =>
      subst same
      obtain rfl := (writes.here is).unique also
      exact ⟨case, .inl is, .single ⟨event, ok, taken⟩⟩
    next =>
      have ordered : otherId ∈ orderIds db := by
        rw [<- writes.orderIds]
        exact also.order_id ▸ List.mem_map_of_mem also.order_mem
      obtain ⟨order, member, here⟩ := List.mem_map.1 ordered
      obtain ⟨before, there, -⟩ := linked.case_exists member
      rw [here] at there
      obtain rfl := (writes.elsewhere is same there).unique also
      exact ⟨before, .inl there, .refl⟩

-- One case takes one step, whatever else the transaction writes.
def Takes (db next : Db) (event : Event) (case : OrderCase) : Prop :=
  exists after, CaseStep event case after /\ Writes db next case after

theorem Takes.advance {orderId : Id} {case : OrderCase} {event : Event} (linked : Linked db)
    (is : IsCase db orderId case) (takes : Takes db next event case) (ok : allowed orderId event) :
    Advance allowed db next := by
  obtain ⟨after, taken, writes⟩ := takes
  exact Writes.advance linked is writes taken ok

-- What every allowed step keeps of an order, and every new order has, a transaction keeps.
theorem Advance.keeps {keep : OrderCase -> Prop} (advance : Advance allowed db next)
    (fresh : forall case, Fresh case -> keep case)
    (each : forall orderId event case after, allowed orderId event -> CaseStep event case after ->
      keep case -> keep after)
    (kept : forall orderId case, IsCase db orderId case -> keep case) {orderId : Id} {after : OrderCase}
    (is : IsCase next orderId after) : keep after := by
  obtain ⟨start, source, path⟩ := advance.created orderId after is
  exact path.keeps (each orderId) (source.elim (kept orderId start) (fresh start))

end VapeCommerce.Orders.Transactions
