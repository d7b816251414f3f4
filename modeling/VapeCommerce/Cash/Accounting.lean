import VapeCommerce.Cash.Admin
import VapeCommerce.Delivery.Admin

set_option autoImplicit false

-- The four places that work out what a collection answers for, against one rule.
namespace VapeCommerce.Cash.Accounting

open VapeCommerce.Lib.Outcome VapeCommerce.Schema VapeCommerce.Database VapeCommerce.Config
open VapeCommerce.Money VapeCommerce.Cash.Calculations VapeCommerce.Cash.Admin
open VapeCommerce.Delivery.Admin VapeCommerce.Checkout.Fulfillment

structure AccountingProjection where
  accountableMillimes : Option Int
  adjustmentMillimes : Option Int
  discrepancyStatus : Option CashDiscrepancyStatus
deriving DecidableEq, Repr

def sameRecord (discrepancy : CashDiscrepancy) (collection : CashCollection) (difference : Int) : Bool :=
  discrepancy.expectedMillimes == collection.expectedMillimes &&
    discrepancy.actualMillimes == collection.collectedMillimes &&
    discrepancy.differenceMillimes == difference

-- What operators are shown.
def collectionAccountingProjection (discrepancy : Option CashDiscrepancy) (collection : CashCollection) :
    Except Failure AccountingProjection := do
  let rawDifference <- cashDifference collection.expectedMillimes collection.collectedMillimes
  match discrepancy with
  | none =>
    return {
      accountableMillimes := if rawDifference = 0 then some collection.collectedMillimes else none
      adjustmentMillimes := if rawDifference = 0 then some 0 else none
      discrepancyStatus := none }
  | some discrepancy =>
    if sameRecord discrepancy collection rawDifference = false then
      return {
        accountableMillimes := none
        adjustmentMillimes := none
        discrepancyStatus := some discrepancy.status }
    else match discrepancy.status with
      | .resolved => return {
          accountableMillimes := some collection.expectedMillimes
          adjustmentMillimes := some (collection.expectedMillimes - collection.collectedMillimes)
          discrepancyStatus := some .resolved }
      | .writtenOff => return {
          accountableMillimes := some collection.collectedMillimes
          adjustmentMillimes := some 0
          discrepancyStatus := some .writtenOff }
      | status => return {
          accountableMillimes := none
          adjustmentMillimes := none
          discrepancyStatus := some status }

-- The rule all four follow: an exact collection answers for what it holds, a resolved one for what
-- was expected, a written-off one for what it holds, and any other for nothing yet.
def settledMillimes (discrepancy : Option CashDiscrepancy) (collection : CashCollection) : Option Int :=
  match discrepancy with
  | none =>
    if collection.collectedMillimes = collection.expectedMillimes then some collection.collectedMillimes
    else none
  | some discrepancy =>
    if sameRecord discrepancy collection (collection.collectedMillimes - collection.expectedMillimes) then
      match discrepancy.status with
      | .resolved => some collection.expectedMillimes
      | .writtenOff => some collection.collectedMillimes
      | _ => none
    else none

-- Amounts the cash module can work with at all.
structure Countable (collection : CashCollection) : Prop where
  expected : 0 <= collection.expectedMillimes /\ collection.expectedMillimes <= maxMillimes
  collected : 0 <= collection.collectedMillimes /\ collection.collectedMillimes <= maxMillimes

theorem cashDifference_ok (collection : CashCollection) (difference : Int) :
    cashDifference collection.expectedMillimes collection.collectedMillimes = .ok difference <->
      Countable collection /\ collection.collectedMillimes - collection.expectedMillimes = difference := by
  rw [cashDifference, orFail_ok, Money.Cash.cashDifference_ok]
  constructor
  next => exact fun ⟨expected, collected, same⟩ => ⟨⟨expected, collected⟩, same⟩
  next => exact fun ⟨countable, same⟩ => ⟨countable.expected, countable.collected, same⟩

theorem sameRecord_iff (discrepancy : CashDiscrepancy) (collection : CashCollection) (difference : Int) :
    sameRecord discrepancy collection difference = true <->
      discrepancy.expectedMillimes = collection.expectedMillimes /\
        discrepancy.actualMillimes = collection.collectedMillimes /\
        discrepancy.differenceMillimes = difference := by
  simp [sameRecord, and_assoc]

theorem linked_iff (discrepancy : CashDiscrepancy) (collection : CashCollection) (difference : Int) :
    linked collection discrepancy difference = true <->
      discrepancy.cashCollectionId = some collection.id /\
        sameRecord discrepancy collection difference = true := by
  simp [linked, sameRecord_iff, and_assoc]

section Rule

theorem settled_exact (collection : CashCollection) (amount : Int) :
    settledMillimes none collection = some amount <->
      collection.collectedMillimes = collection.expectedMillimes /\
        collection.collectedMillimes = amount := by
  simp [settledMillimes]

theorem settled_counted (discrepancy : CashDiscrepancy) (collection : CashCollection) (amount : Int) :
    settledMillimes (some discrepancy) collection = some amount <->
      sameRecord discrepancy collection
          (collection.collectedMillimes - collection.expectedMillimes) = true /\
        ((discrepancy.status = .resolved /\ collection.expectedMillimes = amount) \/
          (discrepancy.status = .writtenOff /\ collection.collectedMillimes = amount)) := by
  unfold settledMillimes
  cases same : sameRecord discrepancy collection
    (collection.collectedMillimes - collection.expectedMillimes) <;>
    cases status : discrepancy.status <;> simp [same, status]

variable (discrepancy : Option CashDiscrepancy) (collection : CashCollection)

theorem remittance_follows (amount : Int) :
    accountableCollectionMillimes discrepancy collection = .ok amount <->
      Countable collection /\ settledMillimes discrepancy collection = some amount := by
  unfold accountableCollectionMillimes
  simp only [bind_ok, cashDifference_ok, and_assoc, exists_and_left, exists_eq_left']
  refine and_congr_right fun _ => ?_
  cases discrepancy with
  | none =>
    simp only [bind_ok, throwIf_ok, not_not, pure_ok, exists_const, settled_exact]
    exact and_congr_left fun _ => ⟨fun zero => by omega, fun same => by omega⟩
  | some discrepancy =>
    simp only [bind_ok, throwIf_ok, pure_ok, exists_const, not_or, not_not, settled_counted,
      sameRecord_iff]
    refine and_congr_right fun _ => ?_
    cases status : discrepancy.status <;> simp

theorem projection_follows (amount : Int) :
    (exists projection, collectionAccountingProjection discrepancy collection = .ok projection /\
        projection.accountableMillimes = some amount) <->
      Countable collection /\ settledMillimes discrepancy collection = some amount := by
  unfold collectionAccountingProjection
  simp only [bind_ok, cashDifference_ok, and_assoc, exists_and_left, exists_eq_left']
  refine and_congr_right fun _ => ?_
  cases discrepancy with
  | none =>
    simp only [pure_ok, exists_eq_left', settled_exact, Option.ite_none_right_eq_some, Option.some.injEq]
    exact and_congr_left fun _ => ⟨fun zero => by omega, fun same => by omega⟩
  | some discrepancy =>
    simp only [settled_counted]
    cases same : sameRecord discrepancy collection
        (collection.collectedMillimes - collection.expectedMillimes) with
    | false => simp
    | true =>
      cases status : discrepancy.status <;> simp

-- Delivery completion counts an uncollected collection without a discrepancy as nothing.
theorem completion_follows (amount : Int)
    (counted : accountableCashForDeliveryCompletion discrepancy collection = .ok amount) :
    Countable collection /\
      (collection.status ∈ collectedCashStatuses ->
        settledMillimes discrepancy collection = some amount) /\
      (Not (collection.status ∈ collectedCashStatuses) -> discrepancy = none /\ amount = 0) := by
  unfold accountableCashForDeliveryCompletion at counted
  simp only [bind_ok, cashDifference_ok] at counted
  obtain ⟨difference, ⟨countable, rfl⟩, decided⟩ := counted
  refine ⟨countable, ?_⟩
  cases discrepancy with
  | none =>
    simp only [bind_ok, throwIf_ok, pure_ok, exists_const, not_and] at decided
    obtain ⟨exact, rfl⟩ := decided
    constructor
    next =>
      intro collected
      have same : collection.collectedMillimes = collection.expectedMillimes := by
        by_contra apart
        exact exact (by omega) collected
      rw [settled_exact, if_pos collected]
      exact ⟨same, rfl⟩
    next => intro other; simp [other]
  | some discrepancy =>
    simp only [bind_ok, throwIf_ok, pure_ok, exists_const, not_not] at decided
    obtain ⟨same, resolved, collected, rfl⟩ := decided
    have record := ((linked_iff _ _ _).1 same).2
    exact ⟨fun _ => (settled_counted _ _ _).2 ⟨record, .inl ⟨resolved, rfl⟩⟩,
      fun other => absurd collected other⟩

theorem resolution_follows {own : CashCollection} (other : collection.id ≠ own.id) (amount : Int)
    (counted : projectedMillimes discrepancy own collection = .ok (some amount)) :
    Countable collection /\ settledMillimes discrepancy collection = some amount /\
      collection.status ∈ accountedCollectionStatuses := by
  unfold projectedMillimes at counted
  rw [if_neg other] at counted
  simp only [bind_ok, cashDifference_ok] at counted
  obtain ⟨difference, ⟨countable, rfl⟩, decided⟩ := counted
  refine ⟨countable, ?_⟩
  cases discrepancy with
  | none =>
    simp only [pure_ok, Option.ite_none_left_eq_some, not_or, not_not, Option.some.injEq] at decided
    obtain ⟨⟨accounted, exact⟩, same⟩ := decided
    exact ⟨(settled_exact _ _).2 ⟨by omega, same⟩, accounted⟩
  | some discrepancy =>
    simp only [pure_ok, Option.ite_none_left_eq_some, not_or, not_not, Option.some.injEq] at decided
    obtain ⟨⟨resolved, same, accounted⟩, amounts⟩ := decided
    have record := ((linked_iff _ _ _).1 same).2
    exact ⟨(settled_counted _ _ _).2 ⟨record, .inl ⟨resolved, amounts⟩⟩, accounted⟩

end Rule

section Agreement

-- Two of the four amounts that are both there are one amount.
structure Agrees (discrepancy : Option CashDiscrepancy) (collection : CashCollection) : Prop where
  shown : forall amount, accountableCollectionMillimes discrepancy collection = .ok amount <->
    exists projection, collectionAccountingProjection discrepancy collection = .ok projection /\
      projection.accountableMillimes = some amount
  resolving : forall own amount, collection.id ≠ own.id ->
    projectedMillimes discrepancy own collection = .ok (some amount) ->
    accountableCollectionMillimes discrepancy collection = .ok amount /\
      forall counted, accountableCashForDeliveryCompletion discrepancy collection = .ok counted ->
        counted = amount
  completing : forall amount counted, accountableCollectionMillimes discrepancy collection = .ok amount ->
    accountableCashForDeliveryCompletion discrepancy collection = .ok counted ->
    (amount = counted <->
      collection.status ∈ collectedCashStatuses \/ collection.collectedMillimes = 0)

theorem agrees (discrepancy : Option CashDiscrepancy) (collection : CashCollection) :
    Agrees discrepancy collection where
  shown amount :=
    (remittance_follows discrepancy collection amount).trans
      (projection_follows discrepancy collection amount).symm
  resolving own amount other counted := by
    obtain ⟨countable, settled, accounted⟩ := resolution_follows discrepancy collection other amount counted
    refine ⟨(remittance_follows _ _ _).2 ⟨countable, settled⟩, fun completed ran => ?_⟩
    have follows := (completion_follows discrepancy collection completed ran).2.1 accounted
    exact Option.some.inj (follows.symm.trans settled)
  completing amount counted answers ran := by
    have settled := ((remittance_follows discrepancy collection amount).1 answers).2
    obtain ⟨-, collected, uncollected⟩ := completion_follows discrepancy collection counted ran
    by_cases status : collection.status ∈ collectedCashStatuses
    next =>
      have same : amount = counted := Option.some.inj (settled.symm.trans (collected status))
      exact ⟨fun _ => .inl status, fun _ => same⟩
    next =>
      obtain ⟨rfl, rfl⟩ := uncollected status
      have held := ((settled_exact _ _).1 settled).2
      rw [held]
      exact ⟨.inr, fun zero => zero.resolve_left status⟩

-- While a discrepancy is being resolved only its own computation is defined; once it is resolved the
-- other three give the same amount.
structure AgreesOnceResolved (discrepancy : CashDiscrepancy) (own : CashCollection) : Prop where
  computed : projectedMillimes (some discrepancy) own own = .ok (some own.expectedMillimes)
  undefinedBefore : canTransitionDiscrepancy discrepancy.status .resolved = true -> forall amount,
    accountableCollectionMillimes (some discrepancy) own ≠ .ok amount /\
      accountableCashForDeliveryCompletion (some discrepancy) own ≠ .ok amount
  after : accountableCollectionMillimes (some { discrepancy with status := .resolved })
        { own with status := .collected } = .ok own.expectedMillimes /\
      accountableCashForDeliveryCompletion (some { discrepancy with status := .resolved })
        { own with status := .collected } = .ok own.expectedMillimes

theorem agrees_once_resolved {discrepancy : CashDiscrepancy} {own : CashCollection}
    (countable : Countable own)
    (same : linked own discrepancy (own.collectedMillimes - own.expectedMillimes) = true) :
    AgreesOnceResolved discrepancy own where
  computed := by simp [projectedMillimes, pure, Except.pure]
  undefinedBefore pending amount := by
    have unsettled : Not (discrepancy.status = .resolved) /\ Not (discrepancy.status = .writtenOff) := by
      cases status : discrepancy.status <;>
        simp [canTransitionDiscrepancy, cashDiscrepancyTransitions, status] at pending ⊢
    constructor
    next =>
      intro answers
      have settled := ((remittance_follows _ _ _).1 answers).2
      rw [settled_counted] at settled
      obtain ⟨resolved, -⟩ | ⟨writtenOff, -⟩ := settled.2
      next => exact unsettled.1 resolved
      next => exact unsettled.2 writtenOff
    next =>
      intro counted
      obtain ⟨-, collected, uncollected⟩ := completion_follows _ _ _ counted
      by_cases status : own.status ∈ collectedCashStatuses
      next =>
        obtain ⟨resolved, -⟩ | ⟨writtenOff, -⟩ := ((settled_counted _ _ _).1 (collected status)).2
        next => exact unsettled.1 resolved
        next => exact unsettled.2 writtenOff
      next => exact absurd (uncollected status).1 (by simp)
  after := by
    have record := ((linked_iff _ _ _).1 same).2
    have settled : settledMillimes (some { discrepancy with status := .resolved })
        { own with status := .collected } = some own.expectedMillimes :=
      (settled_counted _ _ _).2 ⟨record, .inl ⟨rfl, rfl⟩⟩
    have counted : Countable { own with status := .collected } := ⟨countable.expected, countable.collected⟩
    refine ⟨(remittance_follows _ _ _).2 ⟨counted, settled⟩, ?_⟩
    unfold accountableCashForDeliveryCompletion
    rw [ok_of_bind ((cashDifference_ok { own with status := .collected } _).2 ⟨counted, rfl⟩)]
    have linkedAfter : linked { own with status := .collected } { discrepancy with status := .resolved }
        (own.collectedMillimes - own.expectedMillimes) = true := same
    simp [linkedAfter, throwIf, collectedCashStatuses, bind, Except.bind, pure, Except.pure]

-- Over the collections of a delivery the amounts, and so their totals, are the same.
theorem mapM_agrees (discrepancies : Id -> Option CashDiscrepancy) {collections : List CashCollection}
    {amounts counted : List Int}
    (answers : collections.mapM (fun row => accountableCollectionMillimes (discrepancies row.id) row) =
      .ok amounts)
    (ran : collections.mapM (fun row => accountableCashForDeliveryCompletion (discrepancies row.id) row) =
      .ok counted)
    (settled : forall collection, collection ∈ collections ->
      collection.status ∈ collectedCashStatuses \/ collection.collectedMillimes = 0) :
    amounts = counted := by
  induction collections generalizing amounts counted with
  | nil =>
    simp only [List.mapM_nil, pure_ok] at answers ran
    exact answers.symm.trans ran
  | cons collection rest ih =>
    obtain ⟨amount, answer, later, others, rfl⟩ := (mapM_cons_ok _ _ _ _).1 answers
    obtain ⟨cash, count, after, remaining, rfl⟩ := (mapM_cons_ok _ _ _ _).1 ran
    have here := ((agrees (discrepancies collection.id) collection).completing amount cash answer count).2
      (settled collection (by simp))
    have there := ih others remaining fun other member => settled other (by simp [member])
    rw [here, there]

/-- The four computations agree wherever two of them are defined, but for one: delivery completion
    counts a collection in neither collected state, without a discrepancy, as nothing. -/
theorem accountable_cash_agrees (discrepancies : Id -> Option CashDiscrepancy)
    (collections : List CashCollection) :
    (forall collection, collection ∈ collections -> Agrees (discrepancies collection.id) collection) /\
      (forall own discrepancy, own ∈ collections -> discrepancies own.id = some discrepancy ->
        Countable own -> linked own discrepancy (own.collectedMillimes - own.expectedMillimes) = true ->
        AgreesOnceResolved discrepancy own) /\
      forall amounts counted,
        collections.mapM (fun row => accountableCollectionMillimes (discrepancies row.id) row) =
          .ok amounts ->
        collections.mapM (fun row => accountableCashForDeliveryCompletion (discrepancies row.id) row) =
          .ok counted ->
        (forall collection, collection ∈ collections ->
          collection.status ∈ collectedCashStatuses \/ collection.collectedMillimes = 0) ->
        amounts.sum = counted.sum := by
  refine ⟨fun collection _ => agrees _ collection, ?_, ?_⟩
  next => exact fun own discrepancy _ _ countable same => agrees_once_resolved countable same
  next =>
    intro amounts counted answers ran settled
    rw [mapM_agrees discrepancies answers ran settled]

def voidedCollection : CashCollection where
  id := 1
  orderId := 1
  deliveryId := some 1
  courierId := some 1
  status := .voided
  expectedMillimes := 20000
  collectedMillimes := 20000
  collectedByUserId := some 1
  recordIdempotencyKeyHash := none
  recordRequestHash := none

theorem voided_counted_apart :
    accountableCollectionMillimes none voidedCollection = .ok 20000 /\
      accountableCashForDeliveryCompletion none voidedCollection = .ok 0 :=
  ⟨rfl, rfl⟩

def exactCollection : CashCollection := { voidedCollection with status := .collected }

theorem collected_agrees :
    [(20000 : Int)].sum = [20000].sum /\ Agrees none exactCollection :=
  ⟨(accountable_cash_agrees (fun _ => none) [exactCollection]).2.2 [20000] [20000] rfl rfl
      (fun collection member => by
        rw [List.mem_singleton] at member
        exact .inl (by rw [member]; decide)),
    (accountable_cash_agrees (fun _ => none) [exactCollection]).1 exactCollection (by simp)⟩

end Agreement

end VapeCommerce.Cash.Accounting
