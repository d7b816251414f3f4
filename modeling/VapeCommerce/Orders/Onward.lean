import VapeCommerce.Orders.Transactions

set_option autoImplicit false

-- What of an order never changes, and what changes one way only; a stale read relies on this.
namespace VapeCommerce.Orders.Onward

open VapeCommerce.Schema VapeCommerce.Orders.StateMachine
open VapeCommerce.Cash.Accountable VapeCommerce.Cash.Admin VapeCommerce.Orders.Case
open VapeCommerce.Orders.Progress VapeCommerce.Orders.Transactions

-- A recorded collection keeps its count, and once remitted it stays so.
structure SameCount (before after : CashCollection) : Prop where
  recorded : Not (after.status ∈ unrecordedStatuses)
  collected : after.collectedMillimes = before.collectedMillimes
  courier : after.courierId = before.courierId
  collector : after.collectedByUserId = before.collectedByUserId
  key : after.recordIdempotencyKeyHash = before.recordIdempotencyKeyHash
  request : after.recordRequestHash = before.recordRequestHash
  remitted : before.status = .remitted -> after.status = .remitted

structure Later (case after : OrderCase) : Prop where
  orderId : after.order.id = case.order.id
  cod : after.order.expectedCodMillimes = case.order.expectedCodMillimes
  method : after.order.deliveryMethodType = case.order.deliveryMethodType
  order : after.order = case.order \/ case.order.version < after.order.version
  deliveryId : after.delivery.id = case.delivery.id
  delivery : after.delivery = case.delivery \/ case.delivery.version < after.delivery.version
  collectionId : after.collection.id = case.collection.id
  owed : after.collection.expectedMillimes = case.collection.expectedMillimes
  counted : Not (case.collection.status ∈ unrecordedStatuses) ->
    SameCount case.collection after.collection
  exact_count : Not (case.collection.status ∈ unrecordedStatuses) -> case.discrepancy = none ->
    after.discrepancy = none
  discrepancy : forall row, case.discrepancy = some row -> exists next, after.discrepancy = some next /\
    next.id = row.id /\ (Not (row.status ∈ unsettledStatuses) -> next = row)

theorem SameCount.refl {collection : CashCollection}
    (recorded : Not (collection.status ∈ unrecordedStatuses)) : SameCount collection collection :=
  ⟨recorded, rfl, rfl, rfl, rfl, rfl, id⟩

theorem Later.refl (case : OrderCase) : Later case case where
  orderId := rfl
  cod := rfl
  method := rfl
  order := .inl rfl
  deliveryId := rfl
  delivery := .inl rfl
  collectionId := rfl
  owed := rfl
  counted := SameCount.refl
  exact_count _ fresh := fresh
  discrepancy row found := ⟨row, found, rfl, fun _ => rfl⟩

theorem later_or {A : Type} (version : A -> Nat) {first second third : A}
    (one : second = first \/ version first < version second)
    (two : third = second \/ version second < version third) :
    third = first \/ version first < version third := by
  rcases one with rfl | grew
  next => exact two
  next =>
    right
    rcases two with rfl | more
    next => exact grew
    next => exact lt_trans grew more

theorem Later.trans {first second third : OrderCase} (one : Later first second)
    (two : Later second third) : Later first third where
  orderId := two.orderId.trans one.orderId
  cod := two.cod.trans one.cod
  method := two.method.trans one.method
  order := later_or Order.version one.order two.order
  deliveryId := two.deliveryId.trans one.deliveryId
  delivery := later_or Schema.Delivery.version one.delivery two.delivery
  collectionId := two.collectionId.trans one.collectionId
  owed := two.owed.trans one.owed
  counted recorded := by
    have before := one.counted recorded
    have after := two.counted before.recorded
    exact ⟨after.recorded, after.collected.trans before.collected, after.courier.trans before.courier,
      after.collector.trans before.collector, after.key.trans before.key, after.request.trans before.request,
      fun remitted => after.remitted (before.remitted remitted)⟩
  exact_count recorded fresh :=
    two.exact_count (one.counted recorded).recorded (one.exact_count recorded fresh)
  discrepancy row found := by
    obtain ⟨middle, there, id, settled⟩ := one.discrepancy row found
    obtain ⟨last, here, same, kept⟩ := two.discrepancy middle there
    refine ⟨last, here, same.trans id, fun done => ?_⟩
    obtain rfl := settled done
    exact kept done

theorem moved_later (target : OrderStatus) {delivery : Schema.Delivery} (reasonCode : Text)
    (actorUserId : Id) {case : OrderCase} (id : delivery.id = case.delivery.id)
    (version : delivery.version = case.delivery.version) :
    Later case (moved target delivery reasonCode actorUserId case) :=
  { Later.refl case with
    order := .inr (Nat.lt_succ_self _)
    deliveryId := id
    delivery := .inr (by simp [moved, Admin.deliveryMoved, version]) }

theorem recorded_later {case : OrderCase} {input : RecordRequest} (keyHash : ScopedKey)
    (discrepancyId actorUserId : Id) {difference : Int} (sound : Sound case)
    (expected : case.collection.status = .expected) :
    Later case { case with
      order := paid (if difference ≠ 0 then .reconciliationDiscrepancy
        else collectedPaymentStatus case.order) case.order
      delivery := cashCounted (difference == 0) case.delivery
      collection := recordedCollection case.order case.delivery
        (if difference < 0 then .partiallyCollected else .collected) input keyHash actorUserId
        case.collection
      discrepancy := if difference ≠ 0 then
          some (collectionDiscrepancy discrepancyId case.collection input.collectedMillimes
            difference actorUserId)
        else case.discrepancy } := by
  have unrecorded : case.collection.status ∈ unrecordedStatuses := by
    simp [expected, unrecordedStatuses]
  exact { Later.refl case with
    order := .inr (Nat.lt_succ_self _)
    delivery := .inr (Nat.lt_succ_self _)
    counted := fun recorded => absurd unrecorded recorded
    exact_count := fun recorded => absurd unrecorded recorded
    discrepancy := fun row found => by simp [(sound.unrecorded unrecorded).discrepancy] at found }

theorem CaseStep.later {event : Event} {case after : OrderCase} (taken : CaseStep event case after)
    (sound : Sound case) : Later case after := by
  cases taken with
  | intake _ target reasonCode actor listed _ => exact moved_later _ _ _ rfl rfl
  | cancelled _ reasonCode actor _ _ _ unrecorded =>
    exact { Later.refl case with
      order := .inr (Nat.lt_succ_self _)
      delivery := .inr (Nat.lt_succ_self _)
      counted := fun recorded => absurd unrecorded recorded }
  | transitioned _ target next reasonCode actor edge _ operational => exact moved_later _ _ _ rfl rfl
  | attempted _ outcome next attempt reasonCode actor mirrored _ recorded =>
    have moves := moved_later (attemptOutcomeStatus outcome) reasonCode actor
      (show ({ case.delivery with
        nextAttemptAt := next
        ageVerificationResult := agedResult outcome case.delivery.ageVerificationResult } :
          Schema.Delivery).id = case.delivery.id from rfl) rfl
    exact { moves with }
  | completed _ ageResult attempt result accountable reasonCode actor =>
    have moves := moved_later .delivered reasonCode actor
      (show ({ case.delivery with
        ageVerificationResult := ageResult.recorded
        cashCollectedResult := result
        nextAttemptAt := none } : Schema.Delivery).id = case.delivery.id from rfl) rfl
    exact { moves with }
  | returned _ reasonCode actor _ _ => exact moved_later _ _ _ rfl rfl
  | rerouted _ courier tracking fee =>
    exact { Later.refl case with delivery := .inr (Nat.lt_succ_self _) }
  | recorded _ input keyHash discrepancyId actor difference expected =>
    exact recorded_later keyHash discrepancyId actor sound expected
  | corrected _ discrepancy actor found unsettled counted =>
    exact { Later.refl case with
      order := .inr (Nat.lt_succ_self _)
      delivery := .inr (Nat.lt_succ_self _)
      counted := fun _ => ⟨by simp [unrecordedStatuses], rfl, rfl, rfl, rfl, rfl, fun remitted => by
        simp [remitted, remittableCollectionStatuses] at counted⟩
      exact_count := fun _ fresh => by simp [found] at fresh
      discrepancy := fun row same => by
        obtain rfl := Option.some.inj (found.symm.trans same)
        exact ⟨_, rfl, rfl, fun settled => absurd unsettled settled⟩ }
  | writtenOff _ discrepancy actor found unsettled counted =>
    exact { Later.refl case with
      exact_count := fun _ fresh => by simp [found] at fresh
      discrepancy := fun row same => by
        obtain rfl := Option.some.inj (found.symm.trans same)
        exact ⟨_, rfl, rfl, fun settled => absurd unsettled settled⟩ }
  | remitted _ accountable counted answered _ =>
    exact { Later.refl case with
      counted := fun _ => ⟨by simp [Cash.Admin.remitted, unrecordedStatuses], rfl, rfl, rfl, rfl,
        rfl, fun _ => rfl⟩ }
  | paid _ paymentStatus accountable _ answered courier _ =>
    exact { Later.refl case with order := .inr (Nat.lt_succ_self _) }

theorem Path.later {allowed : Event -> Prop} {case after : OrderCase} (path : Path allowed case after)
    (sound : Sound case) : Later case after /\ Sound after := by
  refine @Path.keeps allowed (fun last => Later case last /\ Sound last) case after path
    (fun event before last _ taken kept => ?_) ⟨Later.refl case, sound⟩
  exact ⟨kept.1.trans (CaseStep.later taken kept.2), taken.sound kept.2⟩

-- An amount once answered for stays the amount answered for.
theorem Later.answered {case after : OrderCase} {accountable : Int} (later : Later case after)
    (sound : Sound case)
    (answered : accountableCollectionMillimes case.discrepancy case.collection = .ok accountable) :
    accountableCollectionMillimes after.discrepancy after.collection = .ok accountable := by
  have recorded := answered_recorded sound answered
  have count := later.counted recorded
  cases found : case.discrepancy with
  | none =>
    rw [found] at answered
    rw [later.exact_count recorded found]
    simpa only [accountableCollectionMillimes, count.collected, later.owed] using answered
  | some row =>
    rw [found] at answered
    obtain ⟨next, there, -, settled⟩ := later.discrepancy row found
    obtain rfl := settled (answered_settled answered)
    rw [there]
    simpa only [accountableCollectionMillimes, count.collected, later.owed] using answered

end VapeCommerce.Orders.Onward
