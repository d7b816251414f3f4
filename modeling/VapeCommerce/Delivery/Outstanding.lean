import VapeCommerce.Delivery.Manifests
import VapeCommerce.Delivery.Steps
import VapeCommerce.Delivery.Views

set_option autoImplicit false

-- The work a courier has in hand, and which transactions can add to it.
namespace VapeCommerce.Delivery.Outstanding

open VapeCommerce.Lib VapeCommerce.Lib.Outcome VapeCommerce.Schema VapeCommerce.Database
open VapeCommerce.Orders.StateMachine VapeCommerce.Orders.Admin VapeCommerce.Cash.Admin
open VapeCommerce.Checkout.Placement VapeCommerce.Delivery.Admin VapeCommerce.Delivery.Operations
open VapeCommerce.Delivery.Manifests VapeCommerce.Delivery.Views VapeCommerce.System VapeCommerce.Frames

def Holds (courierId : Id) (delivery : Schema.Delivery) : Prop :=
  delivery.courierId = some courierId /\ Not (delivery.status ∈ terminalDeliveryStatuses)

def Runs (courierId : Id) (manifest : DeliveryManifest) : Prop :=
  manifest.courierId = courierId /\ activeManifest manifest = true

-- A delivery that is not over, or a manifest that is not closed.
def HasWork (db : Db) (courierId : Id) : Prop :=
  (exists delivery, delivery ∈ db.deliveries.rows /\ Holds courierId delivery) \/
    exists manifest, manifest ∈ db.manifests.rows /\ Runs courierId manifest

-- Only the couriers that `gains` names have work they did not have before.
structure Adds (gains : Id -> Prop) (db next : Db) : Prop where
  deliveries : forall delivery, delivery ∈ next.deliveries.rows -> forall courierId,
    Holds courierId delivery -> gains courierId \/
      exists old, old ∈ db.deliveries.rows /\ Holds courierId old
  manifests : forall manifest, manifest ∈ next.manifests.rows -> forall courierId,
    Runs courierId manifest -> gains courierId \/
      exists old, old ∈ db.manifests.rows /\ Runs courierId old

abbrev Spares (db next : Db) : Prop := Adds (fun _ => False) db next

variable {gains : Id -> Prop} {db next : Db}

theorem Adds.work (adds : Adds gains db next) {courierId : Id} (works : HasWork next courierId) :
    gains courierId \/ HasWork db courierId := by
  obtain ⟨delivery, member, holds⟩ | ⟨manifest, member, runs⟩ := works
  next => exact (adds.deliveries delivery member courierId holds).imp_right .inl
  next => exact (adds.manifests manifest member courierId runs).imp_right .inr

theorem Adds.trans {first second third : Db} (one : Adds gains first second)
    (two : Adds gains second third) : Adds gains first third where
  deliveries := by
    intro delivery member courierId holds
    obtain gained | ⟨old, present, held⟩ := two.deliveries delivery member courierId holds
    next => exact .inl gained
    next => exact one.deliveries old present courierId held
  manifests := by
    intro manifest member courierId runs
    obtain gained | ⟨old, present, ran⟩ := two.manifests manifest member courierId runs
    next => exact .inl gained
    next => exact one.manifests old present courierId ran

theorem adds_same (deliveries : next.deliveries = db.deliveries)
    (manifests : next.manifests = db.manifests) : Adds gains db next where
  deliveries := fun delivery member _ holds => .inr ⟨delivery, deliveries ▸ member, holds⟩
  manifests := fun manifest member _ runs => .inr ⟨manifest, manifests ▸ member, runs⟩

section Deliveries

-- A guarded change of one delivery that gives work to nobody but those named.
theorem adds_update {chosen : Schema.Delivery -> Bool} {change : Schema.Delivery -> Schema.Delivery}
    {keeps : forall row, (change row).id = row.id} {failure : Failure}
    (ran : updateOne db.deliveries chosen change keeps failure = .ok next.deliveries)
    (same : next.manifests = db.manifests)
    (each : forall row courierId, chosen row = true -> Holds courierId (change row) ->
      gains courierId \/ Holds courierId row) : Adds gains db next where
  deliveries := by
    obtain ⟨-, updated⟩ := (updateOne_ok _ _ _ _ _ _).1 ran
    rw [<- updated]
    intro delivery member courierId holds
    obtain ⟨row, present, rfl⟩ := List.mem_map.1 member
    cases hit : chosen row with
    | true =>
      rw [Table.rewrite_chosen hit] at holds
      exact (each row courierId hit holds).imp_right fun held => ⟨row, present, held⟩
    | false =>
      rw [Table.rewrite_other hit] at holds
      exact .inr ⟨row, present, holds⟩
  manifests := fun manifest member _ runs => .inr ⟨manifest, same ▸ member, runs⟩

-- A move of a delivery that was not over, or is now.
theorem moved_spares {delivery : Schema.Delivery} {target : DeliveryStatus}
    {change : Schema.Delivery -> Schema.Delivery} {keeps : forall row, (change row).id = row.id}
    {failure : Failure}
    (ran : updateOne db.deliveries (guardsDelivery delivery) change keeps failure =
      .ok next.deliveries)
    (same : next.manifests = db.manifests)
    (moves : forall row, (change row).courierId = row.courierId /\ (change row).status = target)
    (running : Not (delivery.status ∈ terminalDeliveryStatuses) \/ target ∈ terminalDeliveryStatuses) :
    Spares db next := by
  apply adds_update ran same
  intro row courierId hit holds
  simp only [guardsDelivery, Bool.and_eq_true, beq_iff_eq] at hit
  obtain ⟨carried, unfinished⟩ := holds
  rw [(moves row).1] at carried
  rw [(moves row).2] at unfinished
  exact .inr ⟨carried, hit.1.2 ▸ running.resolve_right unfinished⟩

theorem updateMirroredStatus_spares {order : Order} {delivery : Schema.Delivery}
    {target : DeliveryStatus} {deliveryData : Schema.Delivery -> Schema.Delivery}
    {keeps : forall row, (deliveryData row).id = row.id} {reasonCode : Text} {actorUserId : Id}
    (ran : updateMirroredStatus db order delivery target deliveryData keeps reasonCode actorUserId =
      .ok next)
    (courier : forall row, (deliveryData row).courierId = row.courierId)
    (running : Not (delivery.status ∈ terminalDeliveryStatuses) \/ target ∈ terminalDeliveryStatuses) :
    Spares db next := by
  simp only [updateMirroredStatus, bind_ok, pure_ok] at ran
  obtain ⟨_, updated, _, -, rfl⟩ := ran
  exact moved_spares updated rfl (fun row => ⟨courier row, rfl⟩) running

theorem running_of_edge {source target : DeliveryStatus}
    (edge : canTransitionDelivery source target = true) :
    Not (source ∈ terminalDeliveryStatuses) := by
  revert edge
  cases source <;> simp [canTransitionDelivery, deliveryTransitions, terminalDeliveryStatuses]

end Deliveries

section Services

variable {view : View}

theorem assignment_adds {action : AssignmentAction} {id : Id} {input : AssignDelivery}
    (ran : Views.assignment view action id input = .ok next) :
    Adds (fun courierId => courierId = input.courierId) view.current next := by
  simp only [Views.assignment, bind_ok, orThrow_ok, pure_ok] at ran
  obtain ⟨_, -, _, -, _, -, _, -, _, -, courier, listed, _, -, _, -, _, -, deliveries, updated, rfl⟩ := ran
  have named : courier.id = input.courierId := by
    have hit := List.find?_some listed
    simp only [Bool.and_eq_true, beq_iff_eq] at hit
    exact hit.1
  refine adds_update updated rfl fun row courierId _ holds => .inl ?_
  rw [<- named]
  exact (Option.some.inj holds.1).symm

theorem assignment_active {action : AssignmentAction} {id : Id} {input : AssignDelivery}
    (ran : Views.assignment view action id input = .ok next) :
    (findActiveCourier view.snapshot.config input.courierId).isSome = true := by
  simp only [Views.assignment, bind_ok, orThrow_ok] at ran
  obtain ⟨_, -, _, -, _, -, _, -, _, -, courier, listed, -⟩ := ran
  simp [listed]

theorem unassign_spares {id : Id} {expectedVersion : Nat} {reason : Text}
    (ran : Views.unassign view id expectedVersion reason = .ok next) : Spares view.current next := by
  simp only [Views.unassign, bind_ok, pure_ok] at ran
  obtain ⟨_, -, _, -, _, -, _, -, _, -, deliveries, updated, rfl⟩ := ran
  exact adds_update updated rfl fun row courierId _ holds => absurd holds.1 (by simp)

theorem transition_spares {id : Id} {input : TransitionDelivery} {actorUserId : Id}
    (ran : Views.transition view id input actorUserId = .ok next) : Spares view.current next := by
  simp only [Views.transition, bind_ok, throwIf_ok] at ran
  obtain ⟨_, -, _, -, _, edge, _, -, _, -, mirrored⟩ := ran
  simp only [not_or, Bool.not_eq_false] at edge
  exact updateMirroredStatus_spares mirrored (clearNextAttempt_courier _)
    (.inl (running_of_edge edge.1))

theorem recordAttempt_spares {id : Id} {input : RecordDeliveryAttempt} {actorUserId : Id} {now : Int}
    (ran : Views.recordAttempt view id input actorUserId now = .ok next) :
    Spares view.current next := by
  simp only [Views.recordAttempt, bind_ok, throwIf_ok, pure_ok, Bool.not_eq_false] at ran
  obtain ⟨_, -, _, -, _, -, _, -, _, -, _, edge, moved, mirrored, rfl⟩ := ran
  have spared := updateMirroredStatus_spares mirrored (fun _ => rfl) (.inl (running_of_edge edge))
  exact spared.trans (adds_same rfl rfl)

theorem complete_spares {id : Id} {expectedVersion : Nat} {ageResult : CompletionAgeResult}
    {actorUserId : Id} {now : Int}
    (ran : Views.complete view id expectedVersion ageResult actorUserId now = .ok next) :
    Spares view.current next := by
  simp only [Views.complete, bind_ok, pure_ok] at ran
  obtain ⟨_, -, _, -, _, -, _, -, _, -, _, -, _, -, _, -, _, -, moved, mirrored, rfl⟩ := ran
  have spared := updateMirroredStatus_spares mirrored (fun _ => rfl) (.inr (by decide))
  exact spared.trans (adds_same rfl rfl)

theorem completeReturn_spares {id : Id} {expectedVersion : Nat} {reason : Text} {actorUserId : Id}
    (ran : Views.completeReturn view id expectedVersion reason actorUserId = .ok next) :
    Spares view.current next := by
  simp only [Views.completeReturn, bind_ok] at ran
  obtain ⟨_, -, _, -, _, -, _, -, mirrored⟩ := ran
  exact updateMirroredStatus_spares mirrored (fun _ => rfl) (.inr (by decide))

theorem createManifest_adds {input : CreateDeliveryManifest}
    (ran : Views.createManifest view input = .ok next) :
    (findActiveCourier view.snapshot.config input.courierId).isSome = true /\
      Adds (fun courierId => courierId = input.courierId) view.current next := by
  simp only [Views.createManifest, bind_ok, throwIf_ok, create_ok, pure_ok] at ran
  obtain ⟨_, listed, _, -, _, -, manifests, inserted, rfl⟩ := ran
  refine ⟨by simpa [Option.isSome_iff_ne_none] using listed, fun delivery member _ holds => .inr ⟨delivery, member, holds⟩, ?_⟩
  intro manifest member courierId runs
  rw [(Table.insert?_rows inserted).1] at member
  obtain known | added := List.mem_append.1 member
  next => exact .inr ⟨manifest, known, runs⟩
  next =>
    obtain rfl := List.mem_singleton.1 added
    exact .inl runs.1.symm

theorem handOver_spares {actorUserId : Id} {bulk : BulkDelivery}
    (running : Not (bulk.delivery.status ∈ terminalDeliveryStatuses))
    (ran : handOver actorUserId db bulk = .ok next) : Spares db next := by
  unfold handOver applyDeliveryTransition at ran
  exact updateMirroredStatus_spares ran (fun _ => rfl) (.inl running)

theorem moveManifest_spares {deliveries : List BulkDelivery} {target : ManifestStatus}
    {actorUserId : Id}
    (assigned : target = .handedOver -> forall bulk, bulk ∈ deliveries ->
      bulk.delivery.status = .assignedToCourier)
    (ran : moveManifest db deliveries target actorUserId = .ok next) : Spares db next := by
  unfold moveManifest at ran
  split at ran
  next handed =>
    refine foldlM_keeps (Spares db) (handOver actorUserId) deliveries
      (fun state bulk after listed kept round => ?_) db next (adds_same rfl rfl) ran
    refine kept.trans (handOver_spares ?_ round)
    rw [assigned handed bulk listed]
    decide
  next => exact Except.ok.inj ran ▸ adds_same rfl rfl

theorem transitionManifest_spares {id : Id} {expectedStatus target : ManifestStatus}
    {actorUserId : Id}
    (ran : Views.transitionManifest view id expectedStatus target actorUserId = .ok next) :
    Spares view.current next := by
  simp only [Views.transitionManifest, assertManifestTarget, bind_ok, orThrow_ok, throwIf_ok, not_not,
    requireWhen_ok, Bool.not_eq_false, pure_ok] at ran
  obtain ⟨manifest, found, ⟨⟩, expected, ⟨⟩, edge, ⟨⟩, -, ⟨⟩, -, ⟨⟩, ⟨⟨⟩, -, assigned⟩, moved, handed,
    ⟨⟩, -, manifests, updated, rfl⟩ := ran
  have moves : Spares view.current moved := by
    refine moveManifest_spares (fun target bulk listed => ?_) handed
    have checked := assigned (.inr target)
    simp only [assertManifestAssignedDeliveries, throwIf_ok, List.any_eq_true, not_exists, not_and,
      Bool.or_eq_true, bne_iff_ne, not_or, not_not] at checked
    exact (checked bulk listed).1.2
  have kept : moved.manifests = view.current.manifests :=
    moveManifest_writes handed .dispatch (by simp)
  obtain ⟨-, rewritten⟩ := (updateOne_ok _ _ _ _ _ _).1 updated
  refine moves.trans ⟨fun delivery member _ holds => .inr ⟨delivery, member, holds⟩, ?_⟩
  intro row member courierId runs
  rw [<- rewritten] at member
  rw [kept]
  obtain ⟨old, present, rfl⟩ := List.mem_map.1 member
  refine .inr ⟨old, present, ?_⟩
  unfold Table.rewrite at runs
  split at runs
  next chosen =>
    rw [Bool.and_eq_true, beq_iff_eq, beq_iff_eq, <- expected] at chosen
    exact ⟨runs.1, transition_active (chosen.2 ▸ edge)⟩
  next => exact runs

theorem applyCommand_spares {read : Db} {actorUserId : Id} {command : DeliveryStatusCsvCommand}
    (admitted : validateImportCommand command (bulkDelivery? read command.deliveryId) = none)
    (ran : applyCommand read actorUserId db command = .ok next) : Spares db next := by
  simp only [applyCommand, bind_ok, orThrow_ok] at ran
  obtain ⟨bulk, found, applied⟩ := ran
  rw [found, Delivery.Steps.validateImportCommand_none] at admitted
  unfold applyDeliveryTransition at applied
  exact updateMirroredStatus_spares applied (fun _ => rfl) (.inl (running_of_edge admitted.edge))

theorem importStatusCsv_spares {importKey : Text} {dryRun : Bool} {file : DeliveryStatusCsv}
    {actorUserId : Id} {record : DeliveryStatusImport}
    (ran : Views.importStatusCsv view importKey dryRun file actorUserId = .ok (next, record)) :
    Spares view.current next := by
  unfold Views.importStatusCsv at ran
  split at ran
  next =>
    simp only [bind_ok, pure_ok, Prod.mk.injEq] at ran
    obtain ⟨_, -, rfl, -⟩ := ran
    exact adds_same rfl rfl
  next =>
    simp only [bind_ok, pure_ok, Prod.mk.injEq] at ran
    obtain ⟨moved, applied, rfl, -⟩ := ran
    suffices moves : Spares view.current moved from moves.trans (adds_same rfl rfl)
    unfold Views.applyCommands at applied
    split at applied
    next admitted =>
      rw [Bool.and_eq_true, List.all_eq_true] at admitted
      refine foldlM_keeps (Spares view.current) (applyCommand view.snapshot actorUserId)
        file.commands (fun state command after listed kept round => ?_) view.current moved
        (adds_same rfl rfl) applied
      refine kept.trans (applyCommand_spares ?_ round)
      exact Option.isNone_iff_eq_none.1 (admitted.2 _ (List.mem_map_of_mem listed))
    next => exact Except.ok.inj applied ▸ adds_same rfl rfl

end Services

section Atomic

-- The operations that lock a courier run in the open only.
def locksCourier : Op -> Bool
  | .assign .. | .createManifest .. => true
  | _ => false

theorem Retouches.spares (retouched : Retouches db next) (same : next.manifests = db.manifests) :
    Spares db next where
  deliveries := by
    obtain ⟨change, rows, each⟩ := retouched
    rw [rows]
    intro delivery member courierId holds
    obtain ⟨old, present, rfl⟩ := List.mem_map.1 member
    have kept := each old
    exact .inr ⟨old, present, kept.courierId ▸ holds.1, kept.status ▸ holds.2⟩
  manifests := fun manifest member _ runs => .inr ⟨manifest, same ▸ member, runs⟩

theorem create_spares {call : Checkout.Order.CheckoutCall} {now : Int} {orderId : Id}
    (ran : Checkout.Order.create db call now = .ok (next, orderId)) : Spares db next := by
  obtain rfl | ⟨placement, -, ⟨prepared⟩, placed⟩ := create_cases ran
  next => exact adds_same rfl rfl
  next =>
    have same : next.manifests = db.manifests := by rw [placed.rest]
    refine ⟨?_, fun manifest member _ runs => .inr ⟨manifest, same ▸ member, runs⟩⟩
    intro delivery member courierId holds
    rw [(Table.insert?_rows placed.deliveries).1] at member
    obtain known | added := List.mem_append.1 member
    next => exact .inr ⟨delivery, known, holds⟩
    next =>
      obtain rfl := List.mem_singleton.1 added
      rw [prepared.deliveryRow] at holds
      exact absurd holds.1 (by simp [Checkout.Order.newDelivery])

theorem confirm_spares {id actorUserId : Id} {expectedVersion : Nat} {now : Int}
    (ran : confirm db id expectedVersion actorUserId now = .ok next) : Spares db next := by
  simp only [confirm, bind_ok, throwIf_ok, not_not, pure_ok] at ran
  obtain ⟨_, -, _, -, _, -, delivery, -, _, pending, _, -, _, -, _, -, _, -, _, -, _, updated, rfl⟩ := ran
  refine moved_spares updated rfl (fun _ => ⟨rfl, rfl⟩) (.inl ?_)
  rw [pending]
  decide

theorem terminate_spares {disposition : Disposition} {id actorUserId : Id} {expectedVersion : Nat}
    (ran : terminate db disposition id expectedVersion actorUserId = .ok next) : Spares db next := by
  have same : next.manifests = db.manifests := terminate_writes ran .dispatch (by simp)
  simp only [terminate, bind_ok, pure_ok] at ran
  obtain ⟨_, -, _, -, _, -, _, -, _, -, _, -, _, -, _, -, _, updated, rfl⟩ := ran
  exact moved_spares updated same (fun _ => ⟨rfl, rfl⟩) (.inr (by decide))

theorem cancel_spares {userId : Id} {orderNumber : Int} {expectedVersion : Nat}
    (ran : Orders.Customer.cancel db userId orderNumber expectedVersion = .ok next) :
    Spares db next := by
  have same : next.manifests = db.manifests := cancel_writes ran .dispatch (by simp)
  simp only [Orders.Customer.cancel, bind_ok, pure_ok] at ran
  obtain ⟨_, -, _, -, _, -, _, -, _, -, _, -, _, -, _, -, _, -, _, -, _, updated, rfl⟩ := ran
  exact moved_spares updated same (fun _ => ⟨rfl, rfl⟩) (.inr (by decide))

theorem transitionIntake_spares {source target : OrderStatus} {reasonCode : String}
    {id actorUserId : Id} {expectedVersion : Nat}
    (ran : transitionIntake db source target reasonCode id expectedVersion actorUserId = .ok next)
    (running : Not (source ∈ terminalDeliveryStatuses)) : Spares db next := by
  simp only [transitionIntake, bind_ok, throwIf_ok, not_not, pure_ok] at ran
  obtain ⟨_, -, _, -, _, -, delivery, -, _, standing, _, -, _, -, _, updated, rfl⟩ := ran
  exact moved_spares updated rfl (fun _ => ⟨rfl, rfl⟩) (.inl (standing ▸ running))

theorem DeliveryOp.spares {op : DeliveryOp} {view : View} {now : Int}
    (free : locksCourier op.alone = false) (ran : op.exec view now = .ok next) :
    Spares view.current next := by
  cases op with
  | assign action id input => simp [DeliveryOp.alone, locksCourier] at free
  | unassign => exact unassign_spares ran
  | transition => exact transition_spares ran
  | recordAttempt => exact recordAttempt_spares ran
  | complete => exact complete_spares ran
  | completeReturn => exact completeReturn_spares ran
  | createManifest input => simp [DeliveryOp.alone, locksCourier] at free
  | transitionManifest => exact transitionManifest_spares ran
  | importStatusCsv =>
    obtain ⟨⟨after, record⟩, imported, rfl⟩ := (map_ok _ _ _).1 ran
    exact importStatusCsv_spares imported

theorem alone_spares {now : Int} (op : DeliveryOp) (free : locksCourier op.alone = false)
    (ran : exec db now op.alone = .ok next) : Spares db next := by
  rw [<- exec_latest] at ran
  exact DeliveryOp.spares free ran

theorem stock_spares {now : Int} {op : Op} (ran : exec db now op = .ok next)
    (stock : areas op = [] \/ areas op = [.stock]) : Spares db next := by
  have writes := exec_writes ran
  have cases : Area.Same db next .cases := writes .cases (by obtain none | one := stock <;> simp_all)
  have dispatch : Area.Same db next .dispatch :=
    writes .dispatch (by obtain none | one := stock <;> simp_all)
  simp only [Area.Same, Prod.mk.injEq] at cases dispatch
  exact adds_same cases.2.1 dispatch

/-- No operation but an assignment or a new manifest gives a courier work. -/
theorem exec_spares {now : Int} {op : Op} (free : locksCourier op = false)
    (ran : exec db now op = .ok next) : Spares db next := by
  cases op with
  | configure => exact stock_spares ran (.inl rfl)
  | replaceCarts => exact stock_spares ran (.inl rfl)
  | createItem => exact stock_spares ran (.inr rfl)
  | receiveBatch => exact stock_spares ran (.inr rfl)
  | adjust => exact stock_spares ran (.inr rfl)
  | decideAdjustment => exact stock_spares ran (.inr rfl)
  | transfer => exact stock_spares ran (.inr rfl)
  | expireReservations => exact stock_spares ran (.inr rfl)
  | createOrder =>
    obtain ⟨⟨after, orderId⟩, created, rfl⟩ := (map_ok _ _ _).1 ran
    exact create_spares created
  | confirm => exact confirm_spares ran
  | terminate => exact terminate_spares ran
  | prepare => exact transitionIntake_spares ran (by decide)
  | readyForPickup => exact transitionIntake_spares ran (by decide)
  | cancelOrder => exact cancel_spares ran
  | assign => simp [locksCourier] at free
  | unassign id version reason => exact alone_spares (.unassign id version reason) rfl ran
  | transition id input actor => exact alone_spares (.transition id input actor) rfl ran
  | recordAttempt id input actor => exact alone_spares (.recordAttempt id input actor) rfl ran
  | complete id version ageResult actor =>
    exact alone_spares (.complete id version ageResult actor) rfl ran
  | completeReturn id version reason actor =>
    exact alone_spares (.completeReturn id version reason actor) rfl ran
  | createManifest => simp [locksCourier] at free
  | transitionManifest id expected target actor =>
    exact alone_spares (.transitionManifest id expected target actor) rfl ran
  | importStatusCsv key dryRun file actor =>
    exact alone_spares (.importStatusCsv key dryRun file actor) rfl ran
  | cash op =>
    have same : next.manifests = db.manifests := exec_writes ran .dispatch (by simp [areas])
    exact Retouches.spares (cash_retouches ran) same

end Atomic

end VapeCommerce.Delivery.Outstanding
