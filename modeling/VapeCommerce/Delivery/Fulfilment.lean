import VapeCommerce.Delivery.Outcomes

set_option autoImplicit false

-- The fulfilment method of an order against the statuses its order and delivery reach.
namespace VapeCommerce.Delivery.Fulfilment

open VapeCommerce.Lib VapeCommerce.Lib.Outcome VapeCommerce.Schema VapeCommerce.Database
open VapeCommerce.Orders.StateMachine VapeCommerce.Orders.Admin VapeCommerce.Delivery.Admin
open VapeCommerce.Delivery.Operations VapeCommerce.Orders.Case VapeCommerce.Orders.Progress
open VapeCommerce.Orders.Transactions VapeCommerce.Orders.Runs VapeCommerce.Delivery.Steps
open VapeCommerce.Delivery.Outcomes VapeCommerce.Cash.Operations VapeCommerce.System

def courierStatuses : List DeliveryStatus :=
  [.assignedToCourier, .outForDelivery]

/-- What waits for pickup is picked up, and what is picked up is never out with a courier. -/
structure MethodRespected (db : Db) : Prop where
  orders : forall order, order ∈ db.orders.rows -> order.status = .readyForPickup ->
    order.deliveryMethodType = .storePickup
  deliveries : forall order delivery, order ∈ db.orders.rows -> delivery ∈ db.deliveries.rows ->
    delivery.orderId = order.id -> delivery.status = .readyForPickup ->
    order.deliveryMethodType = .storePickup
  couriers : forall order delivery, order ∈ db.orders.rows -> delivery ∈ db.deliveries.rows ->
    delivery.orderId = order.id -> order.deliveryMethodType = .storePickup ->
    Not (delivery.status ∈ courierStatuses)

-- Where an order that no courier carries can be.
def uncarriedStatuses : List OrderStatus :=
  [.pendingConfirmation, .confirmed, .onHold, .preparing, .readyForPickup, .delivered, .cancelled]

def Uncarried (case : OrderCase) : Prop :=
  case.order.deliveryMethodType ≠ .courier ->
    case.delivery.courierId = none /\ case.delivery.status ∈ uncarriedStatuses

def CaseRespected (case : OrderCase) : Prop :=
  case.order.status = .readyForPickup -> case.order.deliveryMethodType = .storePickup

variable {db next : Db} {orderId : Id} {case after : OrderCase}

theorem uncarried_target {source target : DeliveryStatus} (held : source ∈ uncarriedStatuses)
    (edge : canTransitionDelivery source target = true)
    (free : Not (target ∈ courierRequiredTargets)) : target ∈ uncarriedStatuses := by
  revert held edge free
  cases source <;> cases target <;> decide

-- No step hands an order to a courier unless a courier is its method.
theorem CaseStep.uncarried {event : Event} (taken : CaseStep event case after) (kept : Uncarried case) :
    Uncarried after := by
  intro method
  cases taken with
  | intake _ target reasonCode actor listed =>
    refine ⟨(kept method).1, ?_⟩
    change target ∈ uncarriedStatuses
    revert listed
    cases case.order.status <;> cases target <;> decide
  | cancelled => exact ⟨(kept method).1, by simp [deliveryMoved, uncarriedStatuses]⟩
  | transitioned _ target next reasonCode actor edge mirrored operational courier =>
    obtain ⟨absent, held⟩ := kept method
    refine ⟨absent, uncarried_target held edge fun required => ?_⟩
    simpa [absent] using courier required
  | attempted _ outcome next attempt reasonCode actor mirrored out =>
    have held := (kept method).2
    simp [out, uncarriedStatuses] at held
  | completed => exact ⟨(kept method).1, by simp [moved, deliveryMoved, uncarriedStatuses]⟩
  | returned _ reasonCode actor mirrored source =>
    have held := (kept method).2
    simp [source, uncarriedStatuses] at held
  | rerouted _ courierId tracking fee courier =>
    refine ⟨?_, (kept method).2⟩
    change courierId = none
    by_contra present
    exact method (courier (Option.isSome_iff_ne_none.2 present))
  | _ => exact kept method

theorem fresh_uncarried (fresh : Fresh case) : Uncarried case :=
  fun _ => ⟨fresh.unassigned, by simp [fresh.delivery, uncarriedStatuses]⟩

theorem respected_cases (sums : Sums db)
    (uncarried : forall orderId case, IsCase db orderId case -> Uncarried case) :
    MethodRespected db <-> forall orderId case, IsCase db orderId case -> CaseRespected case := by
  have linked := sums.settled.linked
  constructor
  next => exact fun respected orderId case is => respected.orders case.order is.order_mem
  next =>
    intro cases
    have every : forall order delivery, order ∈ db.orders.rows -> delivery ∈ db.deliveries.rows ->
        delivery.orderId = order.id ->
        exists case, IsCase db order.id case /\ case.order = order /\ case.delivery = delivery := by
      intro order delivery member present same
      obtain ⟨case, is, rfl⟩ := linked.case_exists member
      have found := (Table.lookup_iff linked.deliveries_unique _ _).2 ⟨present, same⟩
      exact ⟨case, is, rfl, Option.some.inj (is.delivery.symm.trans found)⟩
    constructor
    next =>
      intro order member
      obtain ⟨case, is, rfl⟩ := linked.case_exists member
      exact cases _ case is
    next =>
      intro order delivery member present same ready
      obtain ⟨case, is, rfl, rfl⟩ := every order delivery member present same
      exact cases _ case is ((sums.settled.sound _ case is).mirrored.trans ready)
    next =>
      intro order delivery member present same method carried
      obtain ⟨case, is, rfl, rfl⟩ := every order delivery member present same
      have held := (uncarried _ case is (by simp [method])).2
      revert held carried
      cases case.delivery.status <;> decide

-- The events that may leave an order ready for pickup.
def readies (event : Event) : Prop :=
  event = .transitioned .readyForPickup

-- An intake step checks the method, and every other event leads elsewhere.
theorem CaseStep.respected {event : Event} (taken : CaseStep event case after)
    (fine : readies event -> case.order.deliveryMethodType = .storePickup)
    (respected : CaseRespected case) : CaseRespected after := by
  cases taken with
  | intake _ target reasonCode actor listed mirrored pickup => exact pickup
  | cancelled =>
    intro ready
    cases ready
  | transitioned _ target next reasonCode actor =>
    intro ready
    exact fine (congrArg Event.transitioned ready)
  | attempted _ outcome =>
    intro ready
    change attemptOutcomeStatus outcome = .readyForPickup at ready
    cases outcome <;> simp [attemptOutcomeStatus] at ready
  | completed =>
    intro ready
    cases ready
  | returned =>
    intro ready
    cases ready
  | _ => exact respected

theorem CaseStep.sameMethod {event : Event} (taken : CaseStep event case after) :
    after.order.deliveryMethodType = case.order.deliveryMethodType := by
  cases taken <;> rfl

-- Only the desk moves an order that waits for its confirmation.
theorem CaseStep.pending {event : Event} (taken : CaseStep event case after)
    (moves : event ≠ .managed) : case.order.status ≠ .pendingConfirmation := by
  intro pending
  cases taken with
  | transitioned _ target next reasonCode actor edge mirrored =>
    rw [<- mirrored, pending] at edge
    simp [canTransitionDelivery, deliveryTransitions] at edge
  | attempted _ outcome next attempt reasonCode actor mirrored => simp [pending] at mirrored
  | completed _ ageResult attempt result accountable reasonCode actor mirrored =>
    rw [pending, completionSource] at mirrored
    split at mirrored <;> simp at mirrored
  | _ => exact moves rfl

-- An order is never readied, or only moves and is picked up or still unconfirmed.
def Spares (db : Db) (allowed : Event -> Prop) (orderId : Id) : Prop :=
  (forall event, allowed event -> Not (readies event)) \/
    (forall event, allowed event -> event ≠ .managed) /\
      forall case, IsCase db orderId case -> case.order.deliveryMethodType = .storePickup

theorem path_respected {allowed : Event -> Prop} (path : Path allowed case after)
    (respected : CaseRespected case)
    (spares : (forall event, allowed event -> Not (readies event)) \/
      (forall event, allowed event -> event ≠ .managed) /\
        (case.order.deliveryMethodType = .storePickup \/ case.order.status = .pendingConfirmation)) :
    CaseRespected after := by
  rcases spares with unready | ⟨moves, pickup | pending⟩
  next =>
    exact path.keeps (fun event before last ok taken kept =>
      CaseStep.respected taken (fun readied => absurd readied (unready event ok)) kept) respected
  next =>
    have method : after.order.deliveryMethodType = .storePickup := by
      refine @Path.keeps allowed (fun last => last.order.deliveryMethodType = .storePickup) case after path
        (fun event before last ok taken kept => ?_) pickup
      exact (CaseStep.sameMethod taken).trans kept
    exact fun _ => method
  next =>
    have stays : after.order.status = .pendingConfirmation := by
      refine @Path.keeps allowed (fun last => last.order.status = .pendingConfirmation) case after path
        (fun event before last ok taken kept => ?_) pending
      exact absurd kept (CaseStep.pending taken (moves event ok))
    intro ready
    simp [stays] at ready

/-- The sums of a shop, and no courier for what no courier carries. -/
structure Kept (db : Db) : Prop where
  sums : Sums db
  uncarried : forall orderId case, IsCase db orderId case -> Uncarried case

theorem advance_respected {allowed : Id -> Event -> Prop} (advance : Advance allowed db next)
    (kept : Kept db) (after_kept : Kept next) (respected : MethodRespected db)
    (spares : forall orderId, Spares db (allowed orderId) orderId) : MethodRespected next := by
  refine (respected_cases after_kept.sums after_kept.uncarried).2 fun orderId after is => ?_
  obtain ⟨start, source, path⟩ := advance.created orderId after is
  rcases source with before | fresh
  next =>
    refine path_respected path
      ((respected_cases kept.sums kept.uncarried).1 respected orderId start before) ?_
    exact (spares orderId).imp_right fun only => ⟨only.1, .inl (only.2 start before)⟩
  next =>
    refine path_respected path (fun ready => by simp [fresh.status] at ready) ?_
    exact (spares orderId).imp_right fun only => ⟨only.1, .inr fresh.status⟩

theorem step_kept (state : Clocked) (label : Timed) (kept : Kept state.db) :
    Kept (step state label).db where
  sums := step_sums state label kept.sums
  uncarried _ _ is := (step_advance state label kept.sums).keeps (fun _ => fresh_uncarried)
    (fun _ _ _ _ _ => CaseStep.uncarried) kept.uncarried is

theorem empty_kept (config : Config.Configuration) (orderSequence : Option Int) :
    Kept (Db.empty config orderSequence) where
  sums := empty_sums config orderSequence
  uncarried _ _ is := (no_case is).elim

/-- The operation makes an order ready for pickup that is not to be picked up at the store. -/
inductive Mispicks (db : Db) : Op -> Prop where
  | transitioned (orderId : Id) (case : OrderCase) (input : TransitionDelivery) (actorUserId : Id)
      (is : IsCase db orderId case) (target : input.target.status = .readyForPickup)
      (admitted : TransitionAdmitted case input)
      (method : case.order.deliveryMethodType ≠ .storePickup) :
      Mispicks db (.transition case.delivery.id input actorUserId)
  | imported (orderId : Id) (case : OrderCase) (importKey : Text) (file : DeliveryStatusCsv)
      (actorUserId : Id) (command : DeliveryStatusCsvCommand) (is : IsCase db orderId case)
      (listed : command ∈ file.commands) (here : command.deliveryId = case.delivery.id)
      (target : command.targetStatus = .readyForPickup)
      (admitted : ImportAdmitted db importKey file)
      (method : case.order.deliveryMethodType ≠ .storePickup) :
      Mispicks db (.importStatusCsv importKey false file actorUserId)

theorem refuted (kept : Kept next) (is : IsCase next orderId after)
    (ready : after.order.status = .readyForPickup)
    (method : after.order.deliveryMethodType ≠ .storePickup) : Not (MethodRespected next) :=
  fun respected => method ((respected_cases kept.sums kept.uncarried).1 respected orderId after is ready)

theorem mispicks_included {now : Int} {op : Op} (sums : Sums db) (mispicked : Mispicks db op) :
    exists next orderId after, exec db now op = .ok next /\ IsCase next orderId after /\
      after.order.status = .readyForPickup /\ after.order.deliveryMethodType ≠ .storePickup := by
  have linked := sums.settled.linked
  cases mispicked with
  | transitioned orderId case input actor is target admitted method =>
    have ran := (transition_ok linked is input actor).2 ⟨admitted, rfl⟩
    obtain ⟨after, taken, writes⟩ := transition_takes linked is ran
    refine ⟨_, orderId, after, ran, writes.here is, ?_, (CaseStep.sameMethod taken).symm ▸ method⟩
    cases taken with
    | transitioned => exact target
  | imported orderId case importKey file actor command is listed here target admitted method =>
    obtain ⟨next, record, ran, -, lands⟩ := importStatusCsv_lands actor linked admitted
    obtain ⟨after, there, landed⟩ := lands orderId case is
    refine ⟨next, orderId, after, by simp only [exec, ran]; rfl, there, ?_, landed.method ▸ method⟩
    rw [landed.target command listed here, target]

theorem transition_respected {id : Id} {input : TransitionDelivery} {actorUserId : Id}
    (kept : Kept db) (after_kept : Kept next) (respected : MethodRespected db)
    (other : Not (Mispicks db (.transition id input actorUserId)))
    (ran : transition db id input actorUserId = .ok next) : MethodRespected next := by
  have linked := kept.sums.settled.linked
  obtain ⟨orderId, case, is, rfl⟩ := delivery_case linked ran
  obtain ⟨admitted, -⟩ := (transition_ok linked is input actorUserId).1 ran
  let only : Id -> Event -> Prop := fun id event =>
    id = orderId /\ event = .transitioned input.target.status
  have advance : Advance only db next := (transition_takes linked is ran).advance linked is ⟨rfl, rfl⟩
  refine advance_respected advance kept after_kept respected fun otherId => ?_
  by_cases readied : input.target.status = .readyForPickup /\ otherId = orderId
  next =>
    obtain ⟨target, rfl⟩ := readied
    refine .inr ⟨fun event ok => ok.2 ▸ nofun, fun beside also => ?_⟩
    obtain rfl := is.unique also
    by_contra method
    exact other (.transitioned otherId case input actorUserId is target admitted method)
  next =>
    left
    rintro event ⟨rfl, rfl⟩ ends
    exact readied ⟨Event.transitioned.inj ends, rfl⟩

theorem importStatusCsv_respected {importKey : Text} {dryRun : Bool} {file : DeliveryStatusCsv}
    {actorUserId : Id} {record : DeliveryStatusImport} (kept : Kept db) (after_kept : Kept next)
    (respected : MethodRespected db)
    (other : Not (Mispicks db (.importStatusCsv importKey dryRun file actorUserId)))
    (ran : importStatusCsv db importKey dryRun file actorUserId = .ok (next, record)) :
    MethodRespected next := by
  have linked := kept.sums.settled.linked
  rcases importStatusCsv_cases linked ran with same | ⟨rfl, admitted⟩
  next =>
    have advance : Advance (fun _ _ => False) db next := same.advance linked
    exact advance_respected advance kept after_kept respected fun _ => .inl fun _ never => never.elim
  next =>
    refine advance_respected (importStatusCsv_advance linked ran) kept after_kept respected
      fun orderId => ?_
    by_cases readied : exists command delivery, command ∈ file.commands /\
        delivery ∈ db.deliveries.rows /\ delivery.id = command.deliveryId /\
        delivery.orderId = orderId /\ command.targetStatus = .readyForPickup
    next =>
      obtain ⟨command, delivery, listed, member, here, owner, target⟩ := readied
      refine .inr ⟨?_, fun case is => ?_⟩
      next =>
        rintro event ⟨_, _, -, -, -, -, rfl⟩
        exact nofun
      next =>
        have found := (Table.lookup_iff linked.deliveries_unique _ _).2 ⟨member, owner⟩
        obtain rfl := Option.some.inj (is.delivery.symm.trans found)
        by_contra method
        exact other (.imported orderId case importKey file actorUserId command is listed here.symm target
          admitted method)
    next =>
      left
      rintro event ⟨command, delivery, listed, member, here, owner, rfl⟩ ends
      exact readied ⟨command, delivery, listed, member, here, owner, Event.transitioned.inj ends⟩

theorem exec_respected {now : Int} {op : Op} (kept : Kept db) (after_kept : Kept next)
    (respected : MethodRespected db) (other : Not (Mispicks db op))
    (ran : exec db now op = .ok next) : MethodRespected next := by
  cases op with
  | transition => exact transition_respected kept after_kept respected other ran
  | importStatusCsv =>
    obtain ⟨⟨after, record⟩, imported, rfl⟩ := (map_ok _ _ _).1 ran
    exact importStatusCsv_respected kept after_kept respected other imported
  | _ =>
    refine advance_respected (exec_advance kept.sums ran) kept after_kept respected fun orderId =>
      .inl fun event acted ends => ?_
    rcases acted with rfl | acted
    next => simp [readies] at ends
    next =>
      first
      | exact acted
      | (obtain rfl := acted; simp [readies] at ends)
      | (obtain ⟨rfl, -⟩ := acted; simp [readies] at ends)

theorem step_respected (state : Clocked) (label : Timed) (kept : Kept state.db)
    (respected : MethodRespected state.db) :
    MethodRespected (step state label).db <-> Not (Mispicks state.db label.op) := by
  have after_kept := step_kept state label kept
  constructor
  next =>
    intro still mispicked
    obtain ⟨next, orderId, after, ran, is, ready, method⟩ :=
      @mispicks_included _ (state.now + label.elapsed) _ kept.sums mispicked
    have here : (step state label).db = next := by simp [step, ran, succeeded]
    exact refuted after_kept (here ▸ is) ready method still
  next =>
    intro other
    cases step_db state label with
    | inl same => exact same ▸ respected
    | inr ran => exact exec_respected kept after_kept respected other ran

theorem empty_respected (config : Config.Configuration) (orderSequence : Option Int) :
    MethodRespected (Db.empty config orderSequence) where
  orders := by simp [Db.empty]
  deliveries := by simp [Db.empty]
  couriers := by simp [Db.empty]

/-- The fulfilment method is respected throughout a run exactly when no step of it, a transition or
a row of an import, makes an order ready for pickup that is not to be picked up. -/
theorem method_respected_iff (config : Config.Configuration) (orderSequence : Option Int) (start : Int)
    (labels : List Timed) :
    (forall state, Runs.Visits step (opening config orderSequence start) labels state ->
        MethodRespected state.db) <->
      forall state label, Runs.Takes step (opening config orderSequence start) labels state label ->
        Not (Mispicks state.db label.op) :=
  @Runs.always_iff_steps Clocked Timed step (fun state => Kept state.db)
    (fun state => MethodRespected state.db) (fun state label => Not (Mispicks state.db label.op))
    step_kept step_respected _ (empty_kept config orderSequence)
    (empty_respected config orderSequence) labels

-- A courier order is confirmed, prepared and then moved as if it were to be picked up.
def courierOrderReadied : List Op :=
  Sample.stocked ++ [.createOrder Sample.call, .confirm 1 1 9, .prepare 1 2 9,
    Sample.move 3 .readyForPickup (by decide)]

theorem courier_order_ready_for_pickup :
    Not (forall config orderSequence start labels state,
      Runs.Visits step (opening config orderSequence start) labels state ->
        MethodRespected state.db) := by
  intro claimed
  have respected := claimed Sample.shop (some 0) 0 (Sample.timed courierOrderReadied) _
    (Runs.visits_end _ _)
  have orders : (Sample.after courierOrderReadied).db.orders.rows.any (fun order =>
      order.status == .readyForPickup && order.deliveryMethodType == .courier) = true := by
    decide +kernel
  obtain ⟨order, member, found⟩ := List.any_eq_true.1 orders
  rw [Bool.and_eq_true, beq_iff_eq, beq_iff_eq] at found
  simpa [found.2] using respected.orders order member found.1

end VapeCommerce.Delivery.Fulfilment
