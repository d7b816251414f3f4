import VapeCommerce.Frames

set_option autoImplicit false

-- Manifests and the couriers of the deliveries they list.
namespace VapeCommerce.Delivery.Manifests

open VapeCommerce.Lib VapeCommerce.Lib.Outcome VapeCommerce.Schema VapeCommerce.Database
open VapeCommerce.Orders.StateMachine VapeCommerce.Orders.Admin VapeCommerce.Delivery.Admin
open VapeCommerce.Delivery.Operations VapeCommerce.Cash.Admin VapeCommerce.Checkout.Placement
open VapeCommerce.System VapeCommerce.Frames

/-- Every delivery on an active manifest is its courier's, and on no other active manifest. -/
structure Agrees (db : Db) : Prop where
  courier : forall manifest, manifest ∈ db.manifests.rows -> activeManifest manifest = true ->
    forall deliveryId, deliveryId ∈ manifest.deliveryIds ->
      exists delivery, db.deliveries.find? deliveryId = some delivery /\
        delivery.courierId = some manifest.courierId
  single : forall manifest other, manifest ∈ db.manifests.rows -> other ∈ db.manifests.rows ->
    activeManifest manifest = true -> activeManifest other = true ->
    forall deliveryId, deliveryId ∈ manifest.deliveryIds -> deliveryId ∈ other.deliveryIds ->
      manifest = other

-- Every delivery is still there, with the courier it had.
def Carries (db next : Db) : Prop :=
  forall id delivery, db.deliveries.find? id = some delivery ->
    exists after, next.deliveries.find? id = some after /\ after.courierId = delivery.courierId

theorem Carries.refl (db : Db) : Carries db db :=
  fun _ delivery found => ⟨delivery, found, rfl⟩

theorem Carries.trans {first second third : Db} (one : Carries first second)
    (two : Carries second third) : Carries first third := by
  intro id delivery found
  obtain ⟨middle, between, same⟩ := one id delivery found
  obtain ⟨after, there, kept⟩ := two id middle between
  exact ⟨after, there, kept.trans same⟩

variable {db next : Db}

theorem carries_same (same : next.deliveries = db.deliveries) : Carries db next :=
  fun _ delivery found => ⟨delivery, same ▸ found, rfl⟩

theorem carries_update {chosen : Schema.Delivery -> Bool} {change : Schema.Delivery -> Schema.Delivery}
    {keeps : forall row, (change row).id = row.id} {failure : Failure}
    (ran : updateOne db.deliveries chosen change keeps failure = .ok next.deliveries)
    (courier : forall row, (change row).courierId = row.courierId) : Carries db next := by
  intro id delivery found
  obtain ⟨-, updated⟩ := (updateOne_ok _ _ _ _ _ _).1 ran
  refine ⟨Table.rewrite chosen change delivery, ?_, Table.rewrite_field courier delivery⟩
  rw [<- updated, Table.find?_update, found, Option.map_some]

theorem carries_insert {row : Schema.Delivery}
    (inserted : db.deliveries.insert? row = some next.deliveries) : Carries db next := by
  intro id delivery found
  refine ⟨delivery, ?_, rfl⟩
  have apart : row.id ≠ id := fun same =>
    (Table.insert?_rows inserted).2 delivery (Table.find?_mem found)
      ((Table.find?_key found).trans same.symm)
  rw [Table.find?_insert? inserted, if_neg apart, found]

theorem create_carries {call : Checkout.Order.CheckoutCall} {now : Int} {orderId : Id}
    (ran : Checkout.Order.create db call now = .ok (next, orderId)) : Carries db next := by
  rcases create_cases ran with rfl | ⟨placement, -, -, placed⟩
  next => exact Carries.refl _
  next => exact carries_insert placed.deliveries

theorem confirm_carries {id actorUserId : Id} {expectedVersion : Nat} {now : Int}
    (ran : confirm db id expectedVersion actorUserId now = .ok next) : Carries db next := by
  simp only [confirm, bind_ok, pure_ok] at ran
  obtain ⟨_, -, _, -, _, -, _, -, _, -, _, -, _, -, _, -, _, -, _, -, _, updated, rfl⟩ := ran
  exact carries_update updated fun _ => rfl

theorem terminate_carries {disposition : Disposition} {id actorUserId : Id} {expectedVersion : Nat}
    (ran : terminate db disposition id expectedVersion actorUserId = .ok next) : Carries db next := by
  simp only [terminate, bind_ok, pure_ok] at ran
  obtain ⟨_, -, _, -, _, -, _, -, _, -, _, -, _, -, _, -, _, updated, rfl⟩ := ran
  exact carries_update updated fun _ => rfl

theorem cancel_carries {userId : Id} {orderNumber : Int} {expectedVersion : Nat}
    (ran : Orders.Customer.cancel db userId orderNumber expectedVersion = .ok next) :
    Carries db next := by
  simp only [Orders.Customer.cancel, bind_ok, pure_ok] at ran
  obtain ⟨_, -, _, -, _, -, _, -, _, -, _, -, _, -, _, -, _, -, _, -, _, updated, rfl⟩ := ran
  exact carries_update updated fun _ => rfl

theorem transitionIntake_carries {source target : OrderStatus} {reasonCode : String}
    {id actorUserId : Id} {expectedVersion : Nat}
    (ran : transitionIntake db source target reasonCode id expectedVersion actorUserId = .ok next) :
    Carries db next := by
  simp only [transitionIntake, bind_ok, pure_ok] at ran
  obtain ⟨_, -, _, -, _, -, _, -, _, -, _, -, _, -, _, updated, rfl⟩ := ran
  exact carries_update updated fun _ => rfl

theorem updateMirroredStatus_carries {order : Order} {delivery : Schema.Delivery}
    {target : DeliveryStatus} {deliveryData : Schema.Delivery -> Schema.Delivery}
    {keeps : forall row, (deliveryData row).id = row.id} {reasonCode : Text} {actorUserId : Id}
    (ran : updateMirroredStatus db order delivery target deliveryData keeps reasonCode actorUserId =
      .ok next)
    (courier : forall row, (deliveryData row).courierId = row.courierId) : Carries db next := by
  simp only [updateMirroredStatus, bind_ok, pure_ok] at ran
  obtain ⟨_, updated, _, -, rfl⟩ := ran
  exact carries_update updated courier

theorem clearNextAttempt_courier (target : DeliveryStatus) (row : Schema.Delivery) :
    (clearNextAttempt target row).courierId = row.courierId := by
  unfold clearNextAttempt
  split <;> rfl

theorem transition_carries {id : Id} {input : TransitionDelivery} {actorUserId : Id}
    (ran : transition db id input actorUserId = .ok next) : Carries db next := by
  simp only [transition, bind_ok] at ran
  obtain ⟨_, -, _, -, _, -, _, -, _, -, mirrored⟩ := ran
  exact updateMirroredStatus_carries mirrored (clearNextAttempt_courier _)

theorem recordAttempt_carries {id : Id} {input : RecordDeliveryAttempt} {actorUserId : Id} {now : Int}
    (ran : recordAttempt db id input actorUserId now = .ok next) : Carries db next := by
  simp only [recordAttempt, bind_ok, pure_ok] at ran
  obtain ⟨_, -, _, -, _, -, _, -, _, -, _, -, moved, mirrored, rfl⟩ := ran
  have carried := updateMirroredStatus_carries mirrored fun _ => rfl
  exact carried.trans (carries_same rfl)

theorem complete_carries {id : Id} {expectedVersion : Nat} {ageResult : CompletionAgeResult}
    {actorUserId : Id} {now : Int}
    (ran : complete db id expectedVersion ageResult actorUserId now = .ok next) : Carries db next := by
  simp only [complete, bind_ok, pure_ok] at ran
  obtain ⟨_, -, _, -, _, -, _, -, _, -, _, -, _, -, _, -, _, -, moved, mirrored, rfl⟩ := ran
  have carried := updateMirroredStatus_carries mirrored fun _ => rfl
  exact carried.trans (carries_same rfl)

theorem completeReturn_carries {id : Id} {expectedVersion : Nat} {reason : Text} {actorUserId : Id}
    (ran : completeReturn db id expectedVersion reason actorUserId = .ok next) : Carries db next := by
  simp only [completeReturn, bind_ok] at ran
  obtain ⟨_, -, _, -, _, -, _, -, mirrored⟩ := ran
  exact updateMirroredStatus_carries mirrored fun _ => rfl

theorem applyDeliveryTransition_carries {bulk : BulkDelivery} {target : DeliveryStatus}
    {reasonCode : Text} {actorUserId : Id}
    (ran : applyDeliveryTransition db bulk target reasonCode actorUserId = .ok next) :
    Carries db next :=
  updateMirroredStatus_carries ran fun _ => rfl

theorem moveManifest_carries {deliveries : List BulkDelivery} {target : ManifestStatus}
    {actorUserId : Id} (ran : moveManifest db deliveries target actorUserId = .ok next) :
    Carries db next :=
  moveManifest_keeps (fun _ _ _ _ _ kept moved => kept.trans (applyDeliveryTransition_carries moved))
    (Carries.refl _) ran

theorem importStatusCsv_carries {importKey : Text} {dryRun : Bool} {file : DeliveryStatusCsv}
    {actorUserId : Id} {record : DeliveryStatusImport}
    (ran : importStatusCsv db importKey dryRun file actorUserId = .ok (next, record)) :
    Carries db next :=
  importStatusCsv_keeps (fun _ _ _ _ _ kept moved => kept.trans (applyDeliveryTransition_carries moved))
    (fun _ _ kept => kept.trans (carries_same rfl)) (Carries.refl _) ran

-- The deliveries as they were, but for what is not their courier or their status.
structure SameCustody (old new : Schema.Delivery) : Prop where
  id : new.id = old.id
  courierId : new.courierId = old.courierId
  status : new.status = old.status

def Retouches (db next : Db) : Prop :=
  exists change, next.deliveries.rows = db.deliveries.rows.map change /\
    forall row, SameCustody row (change row)

theorem retouches_same (same : next.deliveries = db.deliveries) : Retouches db next :=
  ⟨fun row => row, by rw [same, List.map_id'], fun _ => ⟨rfl, rfl, rfl⟩⟩

theorem Retouches.refl (db : Db) : Retouches db db :=
  retouches_same rfl

theorem Retouches.trans {first second third : Db} (one : Retouches first second)
    (two : Retouches second third) : Retouches first third := by
  obtain ⟨change, rows, each⟩ := one
  obtain ⟨again, after, every⟩ := two
  refine ⟨fun row => again (change row), by rw [after, rows, List.map_map]; rfl, fun row => ?_⟩
  have first := each row
  have second := every (change row)
  exact ⟨second.id.trans first.id, second.courierId.trans first.courierId,
    second.status.trans first.status⟩

theorem retouches_update {chosen : Schema.Delivery -> Bool}
    {change : Schema.Delivery -> Schema.Delivery} {keeps : forall row, (change row).id = row.id}
    {failure : Failure}
    (ran : updateOne db.deliveries chosen change keeps failure = .ok next.deliveries)
    (same : forall row, (change row).courierId = row.courierId /\ (change row).status = row.status) :
    Retouches db next := by
  obtain ⟨-, updated⟩ := (updateOne_ok _ _ _ _ _ _).1 ran
  refine ⟨Table.rewrite chosen change, by rw [<- updated, Table.update_rows], fun row => ?_⟩
  exact ⟨Table.rewrite_field keeps row, Table.rewrite_field (fun row => (same row).1) row,
    Table.rewrite_field (fun row => (same row).2) row⟩

theorem Retouches.carries (retouched : Retouches db next) : Carries db next := by
  obtain ⟨change, rows, each⟩ := retouched
  intro id delivery found
  have same := each delivery
  refine ⟨change delivery, (Table.find?_iff _ _ _).2 ⟨?_, ?_⟩, same.courierId⟩
  next =>
    rw [rows]
    exact List.mem_map_of_mem (Table.find?_mem found)
  next => rw [same.id, Table.find?_key found]

theorem recordCollection_retouches {id : Id} {input : RecordRequest} {idempotencyKey : Option Text}
    {discrepancyId actorUserId : Id}
    (ran : recordCollection (View.latest db) id input idempotencyKey discrepancyId actorUserId =
      .ok next) : Retouches db next := by
  simp only [recordCollection, bind_ok] at ran
  obtain ⟨_, -, _, -, ran⟩ := ran
  split at ran
  next => exact (pure_ok _ _).1 ran ▸ Retouches.refl _
  next =>
    simp only [bind_ok, pure_ok] at ran
    obtain ⟨_, -, _, -, _, -, _, -, _, -, _, -, _, -, _, -, _, -, _, -, _, -, _, -, _, updated, _, -,
      rfl⟩ := ran
    exact retouches_update updated fun _ => ⟨rfl, rfl⟩

theorem correctWhenResolved_retouches {operation : CollectionOperation} {delivery : Schema.Delivery}
    {resolution : Resolution}
    (ran : correctWhenResolved (View.latest db) operation delivery resolution = .ok next) :
    Retouches db next := by
  unfold correctWhenResolved at ran
  split at ran
  next =>
    simp only [correctCollection, bind_ok] at ran
    obtain ⟨_, -, _, -, ran⟩ := ran
    split at ran
    next =>
      simp only [bind_ok, pure_ok] at ran
      obtain ⟨_, -, _, updated, rfl⟩ := ran
      exact retouches_update updated fun _ => ⟨rfl, rfl⟩
    next => exact (pure_ok _ _).1 ran ▸ retouches_same rfl
  next => exact Except.ok.inj ran ▸ Retouches.refl _

theorem applyVerifiedAllocations_retouches {view : View} {operation : RemittanceOperation}
    (ran : applyVerifiedAllocations view operation = .ok next) : Retouches view.current next := by
  simp only [applyVerifiedAllocations, bind_ok, pure_ok] at ran
  obtain ⟨_, -, _, -, rfl⟩ := ran
  exact retouches_same rfl

theorem verifyWhenResolved_retouches {operation : RemittanceOperation} {actorUserId : Id}
    {resolution : Resolution}
    (ran : verifyWhenResolved (View.latest db) operation actorUserId resolution = .ok next) :
    Retouches db next := by
  unfold verifyWhenResolved at ran
  split at ran
  next =>
    simp only [verifyDiscrepant, bind_ok, pure_ok] at ran
    obtain ⟨_, applied, _, -, rfl⟩ := ran
    exact (applyVerifiedAllocations_retouches applied).trans (retouches_same rfl)
  next => exact Except.ok.inj ran ▸ Retouches.refl _

theorem resolveDiscrepancy_retouches {id : Id} {input : ResolveCashDiscrepancy} {actorUserId : Id}
    (ran : resolveDiscrepancy (View.latest db) id input actorUserId = .ok next) : Retouches db next := by
  simp only [resolveDiscrepancy, bind_ok] at ran
  obtain ⟨_, -, ran⟩ := ran
  split at ran
  next =>
    simp only [resolveCollectionDiscrepancy, bind_ok, pure_ok] at ran
    obtain ⟨_, -, _, -, _, -, _, -, _, -, _, -, _, -, _, -, _, -, _, -, _, corrected, _, -, rfl⟩ := ran
    exact (correctWhenResolved_retouches corrected).trans (retouches_same rfl)
  next =>
    simp only [resolveRemittanceDiscrepancy, bind_ok, pure_ok] at ran
    obtain ⟨_, -, _, -, _, -, _, -, _, -, _, -, _, -, _, -, _, -, _, verified, _, -, rfl⟩ := ran
    exact (verifyWhenResolved_retouches verified).trans (retouches_same rfl)
  next => simp at ran

theorem reconcileRemittance_retouches {id : Id} {input : ReconcileCashRemittance}
    {discrepancyId actorUserId : Id}
    (ran : reconcileRemittance (View.latest db) id input discrepancyId actorUserId = .ok next) :
    Retouches db next := by
  simp only [reconcileRemittance, bind_ok] at ran
  obtain ⟨_, -, _, -, _, -, _, -, _, -, _, -, _, -, _, -, _, -, ran⟩ := ran
  split at ran
  next =>
    simp only [bind_ok, pure_ok] at ran
    obtain ⟨_, applied, rfl⟩ := ran
    have retouched := applyVerifiedAllocations_retouches applied
    exact Retouches.trans (retouches_same rfl) (retouched.trans (retouches_same rfl))
  next =>
    simp only [bind_ok, pure_ok] at ran
    obtain ⟨_, -, _, -, rfl⟩ := ran
    exact retouches_same rfl

theorem cash_retouches {op : CashOp} (ran : op.exec (View.latest db) = .ok next) : Retouches db next := by
  cases op with
  | recordCollection => exact recordCollection_retouches ran
  | createRemittance =>
    simp only [CashOp.exec, createRemittance, bind_ok, pure_ok] at ran
    obtain ⟨_, -, _, -, _, -, _, -, _, -, _, -, _, -, _, -, _, -, rfl⟩ := ran
    exact retouches_same rfl
  | submitRemittance =>
    simp only [CashOp.exec, submitRemittance, bind_ok, pure_ok] at ran
    obtain ⟨_, -, _, -, _, -, _, -, rfl⟩ := ran
    exact retouches_same rfl
  | reconcileRemittance => exact reconcileRemittance_retouches ran
  | resolveDiscrepancy => exact resolveDiscrepancy_retouches ran

theorem Agrees.carried (agrees : Agrees db) (carried : Carries db next)
    (same : next.manifests = db.manifests) : Agrees next where
  courier := by
    rw [same]
    intro manifest member active deliveryId listed
    obtain ⟨delivery, found, assigned⟩ := agrees.courier manifest member active deliveryId listed
    obtain ⟨after, there, kept⟩ := carried deliveryId delivery found
    exact ⟨after, there, kept.trans assigned⟩
  single := by
    rw [same]
    exact agrees.single

-- A manifest that changes its status keeps its list, and does not come back into use.
structure Thins (change : DeliveryManifest -> DeliveryManifest) : Prop where
  courierId : forall row, (change row).courierId = row.courierId
  deliveryIds : forall row, (change row).deliveryIds = row.deliveryIds
  active : forall row, activeManifest (change row) = true -> activeManifest row = true

theorem Agrees.thinned (agrees : Agrees db) {change : DeliveryManifest -> DeliveryManifest}
    (thins : Thins change) (rows : next.manifests.rows = db.manifests.rows.map change)
    (same : next.deliveries = db.deliveries) : Agrees next where
  courier := by
    rw [rows, same]
    intro manifest member active deliveryId listed
    obtain ⟨before, present, rfl⟩ := List.mem_map.1 member
    rw [thins.deliveryIds] at listed
    rw [thins.courierId]
    exact agrees.courier before present (thins.active before active) deliveryId listed
  single := by
    rw [rows]
    intro manifest other member also active together deliveryId listed twice
    obtain ⟨before, present, rfl⟩ := List.mem_map.1 member
    obtain ⟨beside, there, rfl⟩ := List.mem_map.1 also
    rw [thins.deliveryIds] at listed twice
    have one := agrees.single before beside present there (thins.active before active)
      (thins.active beside together) deliveryId listed twice
    rw [one]

theorem transition_active {manifest : DeliveryManifest} {target : ManifestStatus}
    (edge : canTransitionManifest manifest.status target = true) : activeManifest manifest = true := by
  revert edge
  unfold activeManifest
  cases manifest.status <;> simp [canTransitionManifest, manifestTransitions]

theorem transitionManifest_agrees {id : Id} {expectedStatus target : ManifestStatus} {actorUserId : Id}
    (agrees : Agrees db)
    (ran : transitionManifest db id expectedStatus target actorUserId = .ok next) : Agrees next := by
  simp only [transitionManifest, bind_ok, orThrow_ok, throwIf_ok, not_not, Bool.not_eq_false,
    pure_ok] at ran
  obtain ⟨manifest, found, ⟨⟩, expected, ⟨⟩, edge, ⟨⟩, -, ⟨⟩, -, ⟨⟩, -, moved, handed, ⟨⟩, -, manifests,
    updated, rfl⟩ := ran
  have kept : moved.manifests = db.manifests := moveManifest_writes handed .dispatch (by simp)
  have carried : Agrees moved := agrees.carried (moveManifest_carries handed) kept
  obtain ⟨-, rewritten⟩ := (updateOne_ok _ _ _ _ _ _).1 updated
  apply carried.thinned
  case rows => rw [<- rewritten, kept, Table.update_rows]
  case same => rfl
  refine ⟨Table.rewrite_field fun _ => rfl, Table.rewrite_field fun _ => rfl, fun row active => ?_⟩
  by_cases chosen : (row.id == id && row.status == expectedStatus) = true
  next =>
    rw [Bool.and_eq_true, beq_iff_eq, beq_iff_eq, <- expected] at chosen
    exact transition_active (chosen.2 ▸ edge)
  next => simpa only [Table.rewrite, if_neg chosen] using active

theorem onActiveManifest_iff (deliveryId : Id) : onActiveManifest db deliveryId = true <->
    exists manifest, manifest ∈ db.manifests.rows /\ activeManifest manifest = true /\
      deliveryId ∈ manifest.deliveryIds := by
  simp [onActiveManifest]

theorem assertManifestDelivery_ok {courierId : Id} {requested : Id × Nat}
    (ran : assertManifestDelivery db courierId requested = .ok ()) :
    (exists delivery, db.deliveries.find? requested.1 = some delivery /\
        delivery.courierId = some courierId) /\
      onActiveManifest db requested.1 = false := by
  simp only [assertManifestDelivery, bind_ok, orThrow_ok, throwIf_ok, not_or, not_not,
    Bool.not_eq_true] at ran
  obtain ⟨bulk, read, ⟨⟩, -, ⟨⟩, eligible, free⟩ := ran
  simp only [bulkDelivery?, Option.bind_eq_bind, Option.bind_eq_some_iff, Option.pure_def,
    Option.some.injEq] at read
  obtain ⟨delivery, found, order, -, rfl⟩ := read
  refine ⟨⟨delivery, found, eligible.2.1⟩, ?_⟩
  rwa [Table.find?_key found] at free

theorem createManifest_agrees {input : CreateDeliveryManifest} (agrees : Agrees db)
    (ran : createManifest db input = .ok next) : Agrees next := by
  simp only [createManifest, bind_ok, throwIf_ok, create_ok, pure_ok] at ran
  obtain ⟨⟨⟩, -, ⟨⟩, asserted, ⟨⟩, -, manifests, inserted, rfl⟩ := ran
  have checked : forall deliveryId, deliveryId ∈ input.deliveries.map (·.1) ->
      (exists delivery, db.deliveries.find? deliveryId = some delivery /\
        delivery.courierId = some input.courierId) /\ onActiveManifest db deliveryId = false := by
    intro deliveryId listed
    obtain ⟨requested, member, rfl⟩ := List.mem_map.1 listed
    exact assertManifestDelivery_ok ((forM_ok _ _ _).1 asserted requested member)
  have free : forall deliveryId manifest, deliveryId ∈ input.deliveries.map (·.1) ->
      manifest ∈ db.manifests.rows -> activeManifest manifest = true ->
      Not (deliveryId ∈ manifest.deliveryIds) := by
    intro deliveryId manifest requested member active listed
    have there := (onActiveManifest_iff deliveryId).2 ⟨manifest, member, active, listed⟩
    simp [(checked deliveryId requested).2] at there
  obtain ⟨rows, -⟩ := Table.insert?_rows inserted
  constructor
  next =>
    intro manifest member active deliveryId listed
    rw [rows] at member
    rcases List.mem_append.1 member with known | added
    next => exact agrees.courier manifest known active deliveryId listed
    next =>
      obtain rfl := List.mem_singleton.1 added
      exact (checked deliveryId listed).1
  next =>
    intro manifest other member also active together deliveryId listed twice
    rw [rows] at member also
    rcases List.mem_append.1 member with known | added
    next =>
      rcases List.mem_append.1 also with beside | last
      next => exact agrees.single manifest other known beside active together deliveryId listed twice
      next =>
        obtain rfl := List.mem_singleton.1 last
        exact absurd listed (free deliveryId manifest twice known active)
    next =>
      obtain rfl := List.mem_singleton.1 added
      rcases List.mem_append.1 also with beside | last
      next => exact absurd twice (free deliveryId other listed beside together)
      next => exact (List.mem_singleton.1 last).symm

-- A delivery whose courier changes must be on no active manifest.
theorem rerouted_agrees (agrees : Agrees db) {delivery : Schema.Delivery}
    (member : delivery ∈ db.deliveries.rows) {chosen : Schema.Delivery -> Bool}
    {change : Schema.Delivery -> Schema.Delivery} {keeps : forall row, (change row).id = row.id}
    (hit : chosen delivery = true) (only : forall other, chosen other = true -> other.id = delivery.id)
    (courier : (change delivery).courierId ≠ delivery.courierId) :
    Agrees { db with deliveries := db.deliveries.update chosen change keeps } <->
      onActiveManifest db delivery.id = false := by
  have reads := @Table.find?_update_at _ _ Schema.Delivery.id _ db.deliveries delivery member chosen
    change keeps hit only
  constructor
  next =>
    intro after
    by_contra there
    rw [Bool.not_eq_false, onActiveManifest_iff] at there
    obtain ⟨manifest, present, active, listed⟩ := there
    obtain ⟨row, now, assigned⟩ := after.courier manifest present active delivery.id listed
    obtain ⟨other, before, had⟩ := agrees.courier manifest present active delivery.id listed
    rw [reads, if_pos rfl] at now
    rw [Table.find?_of_mem member] at before
    obtain rfl := Option.some.inj now
    obtain rfl := Option.some.inj before
    exact courier (assigned.trans had.symm)
  next =>
    intro free
    refine ⟨fun manifest present active deliveryId listed => ?_, agrees.single⟩
    have apart : deliveryId ≠ delivery.id := by
      rintro rfl
      have there : onActiveManifest db delivery.id = true :=
        (onActiveManifest_iff delivery.id).2 ⟨manifest, present, active, listed⟩
      simp [free] at there
    rw [reads, if_neg apart]
    exact agrees.courier manifest present active deliveryId listed

def assignedTracking (input : AssignDelivery) (delivery : Schema.Delivery) : Option Text :=
  (input.trackingNumber.map trim).or delivery.trackingNumber

-- What `assign` and `reassign` check before they write.
structure AssignmentAdmitted (db : Db) (action : AssignmentAction) (id : Id) (input : AssignDelivery)
    (delivery : Schema.Delivery) (order : Order) (courier : Config.Courier) : Prop where
  found : db.deliveries.find? id = some delivery
  ordered : db.orders.find? delivery.orderId = some order
  version : delivery.version = input.expectedVersion
  method : order.deliveryMethodType = .courier
  status : delivery.status ∈ deliveryAssignmentStatuses
  mirrored : order.status = delivery.status
  assignable : assertAssignable action delivery input.courierId = .ok ()
  active : (db.config.couriers.find? fun row => row.id == input.courierId && row.active) = some courier
  available : courier.available = true
  acknowledged : Not ((assignmentWarnings courier (activeDeliveryCount db courier.id)
    order.deliveryZoneId).any (fun warning => !decide (warning ∈ input.acknowledgedWarnings)) = true)
  tracking : Not (((assignedTracking input delivery).isSome && db.deliveries.rows.any fun other =>
    other.id != delivery.id && other.trackingNumber == assignedTracking input delivery) = true)

def assigned (input : AssignDelivery) (order : Order) (courier : Config.Courier)
    (delivery : Schema.Delivery) (row : Schema.Delivery) : Schema.Delivery :=
  { row with
    courierId := some courier.id
    trackingNumber := assignedTracking input delivery
    courierFeeMillimes := courierFee courier order.deliveryZoneId
    version := row.version + 1 }

theorem assigned_id (input : AssignDelivery) (order : Order) (courier : Config.Courier)
    (delivery row : Schema.Delivery) : (assigned input order courier delivery row).id = row.id := rfl

def guardsVersion (delivery : Schema.Delivery) (row : Schema.Delivery) : Bool :=
  row.id == delivery.id && row.version == delivery.version

theorem guardsVersion_self (delivery : Schema.Delivery) : guardsVersion delivery delivery = true := by
  simp [guardsVersion]

theorem guardsVersion_only (delivery other : Schema.Delivery)
    (hit : guardsVersion delivery other = true) : other.id = delivery.id := by
  simp only [guardsVersion, Bool.and_eq_true, beq_iff_eq] at hit
  exact hit.1

theorem assignment_ok (action : AssignmentAction) (id : Id) (input : AssignDelivery) :
    assignment db action id input = .ok next <->
      exists delivery order courier, AssignmentAdmitted db action id input delivery order courier /\
        { db with
          deliveries := db.deliveries.update (guardsVersion delivery)
            (assigned input order courier delivery) (assigned_id _ _ _ _) } = next := by
  simp only [assignment, lockDelivery, assertDeliveryVersion, bind_ok, orThrow_ok, throwIf_ok,
    not_not, pure_ok]
  constructor
  next =>
    rintro ⟨operation, ⟨delivery, found, order, ordered, rfl⟩, ⟨⟩, version, ⟨⟩, method, ⟨⟩, allowed, ⟨⟩,
      assignable, courier, active, ⟨⟩, available, ⟨⟩, acknowledged, ⟨⟩, tracking, deliveries, updated, rfl⟩
    rw [not_or, not_not, not_not] at allowed
    have admitted : AssignmentAdmitted db action id input delivery order courier :=
      ⟨found, ordered, version, method, allowed.1, allowed.2, assignable, active, available,
        acknowledged, tracking⟩
    refine ⟨delivery, order, courier, admitted, ?_⟩
    obtain ⟨-, rfl⟩ := (updateOne_ok _ _ _ _ _ _).1 updated
    rw [<- version]
    rfl
  next =>
    rintro ⟨delivery, order, courier, admitted, rfl⟩
    have updated := updateOne_runs (Table.find?_mem admitted.found) (guardsVersion_self delivery)
      (guardsVersion_only delivery) (assigned input order courier delivery) (assigned_id _ _ _ _)
      Delivery.Admin.versionConflict
    refine ⟨_, ⟨delivery, admitted.found, order, admitted.ordered, rfl⟩, (), admitted.version, (),
      admitted.method, (), ?_, (), admitted.assignable, courier, admitted.active, (), admitted.available,
      (), admitted.acknowledged, (), admitted.tracking, _, ?_, rfl⟩
    next => rw [not_or, not_not, not_not]; exact ⟨admitted.status, admitted.mirrored⟩
    next => rw [<- admitted.version]; exact updated

-- A delivery that has no courier is on no active manifest.
theorem unassigned_free (agrees : Agrees db) {delivery : Schema.Delivery}
    (member : delivery ∈ db.deliveries.rows) (none : delivery.courierId = none) :
    onActiveManifest db delivery.id = false := by
  by_contra there
  rw [Bool.not_eq_false, onActiveManifest_iff] at there
  obtain ⟨manifest, present, active, listed⟩ := there
  obtain ⟨row, found, assigned⟩ := agrees.courier manifest present active delivery.id listed
  rw [Table.find?_of_mem member] at found
  obtain rfl := Option.some.inj found
  simp [none] at assigned

theorem assigned_agrees {action : AssignmentAction} {id : Id} {input : AssignDelivery}
    {delivery : Schema.Delivery} {order : Order} {courier : Config.Courier} (agrees : Agrees db)
    (admitted : AssignmentAdmitted db action id input delivery order courier) :
    Agrees { db with
        deliveries := db.deliveries.update (guardsVersion delivery)
          (assigned input order courier delivery) (assigned_id _ _ _ _) } <->
      onActiveManifest db delivery.id = false := by
  refine rerouted_agrees agrees (Table.find?_mem admitted.found) (guardsVersion_self delivery)
    (guardsVersion_only delivery) ?_
  have requested : courier.id = input.courierId := by
    have matching := List.find?_some admitted.active
    simp only [Bool.and_eq_true, beq_iff_eq] at matching
    exact matching.1
  have assignable := admitted.assignable
  simp only [assigned, requested]
  cases action with
  | assign =>
    simp only [assertAssignable, throwIf_ok, Bool.not_eq_true, Option.isSome_eq_false_iff,
      Option.isNone_iff_eq_none] at assignable
    simp [assignable]
  | reassign reason =>
    simp only [assertAssignable, bind_ok, throwIf_ok] at assignable
    obtain ⟨⟨⟩, -, ⟨⟩, changed, -⟩ := assignable
    exact fun same => changed same.symm

theorem unassign_agrees {id : Id} {expectedVersion : Nat} {reason : Text} (agrees : Agrees db)
    (ran : unassign db id expectedVersion reason = .ok next) : Agrees next := by
  simp only [unassign, lockDelivery, bind_ok, orThrow_ok, throwIf_ok, pure_ok, Bool.not_eq_true] at ran
  obtain ⟨_, ⟨delivery, found, order, -, rfl⟩, ⟨⟩, version, ⟨⟩, -, ⟨⟩, allowed, ⟨⟩, free, _, updated,
    rfl⟩ := ran
  simp only [assertDeliveryVersion, throwIf_ok, not_not] at version
  obtain ⟨-, rfl⟩ := (updateOne_ok _ _ _ _ _ _).1 updated
  have moves := @rerouted_agrees db agrees delivery (Table.find?_mem found) (guardsVersion delivery)
    (fun row => { row with
      courierId := none
      trackingNumber := none
      courierFeeMillimes := none
      version := row.version + 1 }) (fun _ => rfl) (guardsVersion_self delivery)
    (guardsVersion_only delivery) (fun same => allowed (.inl (by simp [<- same])))
  unfold guardsVersion at moves
  rw [version] at moves
  exact moves.2 free

-- The operation moves a delivery that is on an active manifest to another courier.
def ReassignsListed (db : Db) (op : Op) : Prop :=
  exists reason id input delivery order courier, op = .assign (.reassign reason) id input /\
    AssignmentAdmitted db (.reassign reason) id input delivery order courier /\
    onActiveManifest db delivery.id = true

theorem assign_agrees {action : AssignmentAction} {id : Id} {input : AssignDelivery}
    (agrees : Agrees db) (ran : assignment db action id input = .ok next) :
    Agrees next <-> Not (ReassignsListed db (.assign action id input)) := by
  obtain ⟨delivery, order, courier, admitted, rfl⟩ := (assignment_ok action id input).1 ran
  rw [assigned_agrees agrees admitted]
  constructor
  next =>
    rintro free ⟨reason, other, asked, row, _, _, same, again, listed⟩
    obtain ⟨rfl, rfl, rfl⟩ := Op.assign.inj same
    obtain rfl := Option.some.inj (admitted.found.symm.trans again.found)
    simp [free] at listed
  next =>
    intro never
    cases action with
    | assign =>
      have assignable := admitted.assignable
      simp only [assertAssignable, throwIf_ok, Bool.not_eq_true, Option.isSome_eq_false_iff,
        Option.isNone_iff_eq_none] at assignable
      exact unassigned_free agrees (Table.find?_mem admitted.found) assignable
    | reassign reason =>
      by_contra listed
      rw [Bool.not_eq_false] at listed
      exact never ⟨reason, id, input, delivery, order, courier, rfl, admitted, listed⟩

-- What every operation but the two assignments keeps.
theorem exec_keeps {now : Int} {op : Op} (agrees : Agrees db) (ran : exec db now op = .ok next)
    (other : forall action id input, op ≠ .assign action id input) : Agrees next := by
  by_cases writes : Area.dispatch ∈ areas op
  next =>
    cases op with
    | createManifest => exact createManifest_agrees agrees ran
    | transitionManifest => exact transitionManifest_agrees agrees ran
    | _ => simp [areas] at writes
  next =>
    have same : next.manifests = db.manifests := exec_writes ran .dispatch writes
    by_cases cased : Area.cases ∈ areas op
    next =>
      cases op with
      | assign action id input => exact absurd rfl (other action id input)
      | unassign => exact unassign_agrees agrees ran
      | createOrder =>
        obtain ⟨⟨after, orderId⟩, created, rfl⟩ := (map_ok _ _ _).1 ran
        exact agrees.carried (create_carries created) same
      | confirm => exact agrees.carried (confirm_carries ran) same
      | terminate => exact agrees.carried (terminate_carries ran) same
      | prepare => exact agrees.carried (transitionIntake_carries ran) same
      | readyForPickup => exact agrees.carried (transitionIntake_carries ran) same
      | cancelOrder => exact agrees.carried (cancel_carries ran) same
      | transition => exact agrees.carried (transition_carries ran) same
      | recordAttempt => exact agrees.carried (recordAttempt_carries ran) same
      | complete => exact agrees.carried (complete_carries ran) same
      | completeReturn => exact agrees.carried (completeReturn_carries ran) same
      | importStatusCsv =>
        obtain ⟨⟨after, record⟩, imported, rfl⟩ := (map_ok _ _ _).1 ran
        exact agrees.carried (importStatusCsv_carries imported) same
      | cash => exact agrees.carried (cash_retouches ran).carries same
      | transitionManifest => simp [areas] at writes
      | _ => simp [areas] at cased
    next =>
      have cases := exec_writes ran .cases cased
      simp only [Area.Same, Prod.mk.injEq] at cases
      exact agrees.carried (carries_same cases.2.1) same

theorem exec_agrees {now : Int} {op : Op} (agrees : Agrees db) (ran : exec db now op = .ok next) :
    Agrees next <-> Not (ReassignsListed db op) := by
  by_cases assigns : exists action id input, op = .assign action id input
  next =>
    obtain ⟨action, id, input, rfl⟩ := assigns
    exact assign_agrees agrees ran
  next =>
    have other : forall action id input, op ≠ .assign action id input :=
      fun action id input same => assigns ⟨action, id, input, same⟩
    have kept := exec_keeps agrees ran other
    refine iff_of_true kept ?_
    rintro ⟨reason, id, input, _, _, _, same, -⟩
    exact other _ id input same

theorem step_agrees (state : Clocked) (label : Timed) (agrees : Agrees state.db) :
    Agrees (step state label).db <-> Not (ReassignsListed state.db label.op) := by
  cases ran : exec state.db (state.now + label.elapsed) label.op with
  | ok next =>
    have here : (step state label).db = next := by simp [step, ran, succeeded]
    rw [here]
    exact exec_agrees agrees ran
  | error failure =>
    have here : (step state label).db = state.db := by simp [step, ran, succeeded]
    rw [here]
    refine iff_of_true agrees ?_
    rintro ⟨reason, id, input, delivery, order, courier, same, admitted, -⟩
    have runs := (assignment_ok _ id input).2 ⟨delivery, order, courier, admitted, rfl⟩
    rw [same] at ran
    simp [exec, runs] at ran

theorem empty_agrees (config : Config.Configuration) (orderSequence : Option Int) :
    Agrees (Db.empty config orderSequence) :=
  ⟨by simp [Db.empty], by simp [Db.empty]⟩

/-- Manifests and couriers agree throughout a run exactly when no step of it reassigns a delivery
that is on an active manifest. -/
theorem manifests_agree_iff (config : Config.Configuration) (orderSequence : Option Int) (start : Int)
    (labels : List Timed) :
    (forall state, Runs.Visits step (opening config orderSequence start) labels state ->
        Agrees state.db) <->
      forall state label, Runs.Takes step (opening config orderSequence start) labels state label ->
        Not (ReassignsListed state.db label.op) :=
  @Runs.always_iff_steps Clocked Timed step (fun _ => True) (fun state => Agrees state.db)
    (fun state label => Not (ReassignsListed state.db label.op)) (fun _ _ _ => trivial)
    (fun state label _ => step_agrees state label) _ trivial (empty_agrees config orderSequence) labels

def twoCouriers : Config.Configuration :=
  { Sample.shop with
    couriers := Sample.shop.couriers ++ [{ id := 6, active := true, available := true
                                           defaultFeeMillimes := none, maximumActiveDeliveries := none
                                           deliveryZones := [] }] }

-- The manifest of the first courier is sealed, and its delivery then given to the second.
def reassignedAfterSealing : List Op := Sample.stocked ++ [
  .createOrder Sample.call,
  .confirm 1 1 9,
  .prepare 1 2 9,
  .assign .assign 1
    { courierId := 5, expectedVersion := 3, trackingNumber := none, acknowledgedWarnings := [] },
  Sample.move 4 .assignedToCourier Sample.assigned_operational,
  .createManifest { id := 1, courierId := 5, deliveries := [(1, 5)] },
  .transitionManifest 1 .draft .sealed 9,
  .assign (.reassign "vehicle".toList) 1
    { courierId := 6, expectedVersion := 5, trackingNumber := none, acknowledgedWarnings := [] }]

theorem sealed_delivery_reassigned :
    Not (forall config orderSequence start labels state,
      Runs.Visits step (opening config orderSequence start) labels state -> Agrees state.db) := by
  intro claimed
  have agrees := claimed twoCouriers (some 0) 0 (Sample.timed reassignedAfterSealing) _
    (Runs.visits_end _ _)
  have manifests : (Runs.run step (opening twoCouriers (some 0) 0)
      (Sample.timed reassignedAfterSealing)).db.manifests.rows.any (fun manifest =>
        activeManifest manifest && manifest.courierId == 5 && decide (1 ∈ manifest.deliveryIds)) =
      true := by
    decide +kernel
  have delivery : ((Runs.run step (opening twoCouriers (some 0) 0)
      (Sample.timed reassignedAfterSealing)).db.deliveries.find? 1).all (fun row =>
        row.courierId == some 6) = true := by
    decide +kernel
  obtain ⟨manifest, member, found⟩ := List.any_eq_true.1 manifests
  simp only [Bool.and_eq_true, beq_iff_eq, decide_eq_true_eq] at found
  obtain ⟨row, there, assigned⟩ := agrees.courier manifest member found.1.1 1 found.2
  rw [there, Option.all_some, beq_iff_eq, assigned, found.1.2] at delivery
  exact absurd delivery (by decide)

end VapeCommerce.Delivery.Manifests
