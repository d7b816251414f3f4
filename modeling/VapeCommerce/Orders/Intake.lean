import VapeCommerce.Delivery.Manifests
import VapeCommerce.Orders.Origins

set_option autoImplicit false

-- Which orders have ever been confirmed; only a confirmation and a cancellation end their intake.
namespace VapeCommerce.Orders.Intake

open VapeCommerce.Lib VapeCommerce.Lib.Outcome VapeCommerce.Schema VapeCommerce.Database
open VapeCommerce.Orders.StateMachine VapeCommerce.Orders.Admin VapeCommerce.Orders.Case
open VapeCommerce.Orders.Progress VapeCommerce.Orders.Transactions VapeCommerce.Orders.Steps
open VapeCommerce.Orders.Origins VapeCommerce.Orders.Runs VapeCommerce.Delivery.Admin
open VapeCommerce.Delivery.Steps VapeCommerce.Cash.Operations VapeCommerce.Orders.Onward VapeCommerce.System
open VapeCommerce.Frames (Area areas)

def Confirmed (entries : List OrderStatusHistory) : Prop :=
  exists entry, entry ∈ entries /\ entry.toStatus = .confirmed

-- An order has been confirmed, unless it waits for that or was cancelled.
structure Told (case : OrderCase) : Prop where
  pending : case.order.status = .pendingConfirmation -> Not (Confirmed case.history)
  confirmed : case.order.status ≠ .pendingConfirmation -> case.order.status ≠ .cancelled ->
    Confirmed case.history

variable {case after : OrderCase} {event : Event} {db next : Db} {orderId : Id}

section Cases

theorem Confirmed.append {entries : List OrderStatusHistory} (confirmed : Confirmed entries)
    (entry : OrderStatusHistory) : Confirmed (entries ++ [entry]) :=
  confirmed.imp fun _ known => ⟨List.mem_append_left _ known.1, known.2⟩

-- An order that moves on is confirmed with its first move.
theorem Told.moved (told : Told case) (target : OrderStatus) (live : case.order.status ≠ .cancelled)
    (onward : target ≠ .pendingConfirmation)
    (first : case.order.status = .pendingConfirmation -> target = .confirmed)
    (status : after.order.status = target) {entry : OrderStatusHistory}
    (history : after.history = case.history ++ [entry]) (entered : entry.toStatus = target) :
    Told after where
  pending waiting := absurd (status.symm.trans waiting) onward
  confirmed _ _ := by
    rw [history]
    by_cases waiting : case.order.status = .pendingConfirmation
    next => exact ⟨entry, List.mem_append_right _ List.mem_cons_self, entered.trans (first waiting)⟩
    next => exact (told.confirmed waiting live).append entry

theorem CaseStep.told (taken : CaseStep event case after) (told : Told case) : Told after := by
  cases taken with
  | intake _ target reasonCode actor listed =>
    simp only [intakeSteps, List.mem_cons, Prod.mk.injEq, List.not_mem_nil, or_false] at listed
    rcases listed with ⟨status, rfl⟩ | ⟨status, rfl⟩ | ⟨status, rfl⟩
    next => exact told.moved .confirmed (by simp [status]) (by decide) (fun _ => rfl) rfl rfl rfl
    next => exact told.moved .preparing (by simp [status]) (by decide) (by simp [status]) rfl rfl rfl
    next => exact told.moved .readyForPickup (by simp [status]) (by decide) (by simp [status]) rfl rfl rfl
  | cancelled => exact ⟨fun status => absurd status (by simp [orderCancelled]),
      fun _ live => absurd rfl live⟩
  | transitioned _ target nextAttemptAt reasonCode actor edge mirrored operational =>
    rw [<- mirrored] at edge
    refine told.moved target (fun status => ?_) (fun same => ?_) (fun status => ?_) rfl rfl rfl
    next => simp [status, canTransitionDelivery, deliveryTransitions] at edge
    next => simp [same, operationalDeliveryTargets] at operational
    next => simp [status, canTransitionDelivery, deliveryTransitions] at edge
  | attempted _ outcome nextAttemptAt attempt reasonCode actor mirrored =>
    refine told.moved (attemptOutcomeStatus outcome) (by simp [mirrored]) ?_ (by simp [mirrored]) rfl rfl rfl
    cases outcome <;> decide
  | completed _ ageResult attempt result accountable reasonCode actor mirrored =>
    have source : case.order.status ≠ .cancelled /\ case.order.status ≠ .pendingConfirmation := by
      rw [mirrored, completionSource]
      split <;> decide
    exact told.moved .delivered source.1 (by decide) (fun status => absurd status source.2) rfl rfl rfl
  | returned _ reasonCode actor mirrored =>
    exact told.moved .returned (by simp [mirrored]) (by decide) (by simp [mirrored]) rfl rfl rfl
  | rerouted => exact ⟨told.pending, told.confirmed⟩
  | recorded => exact ⟨told.pending, told.confirmed⟩
  | corrected => exact ⟨told.pending, told.confirmed⟩
  | writtenOff => exact ⟨told.pending, told.confirmed⟩
  | remitted => exact ⟨told.pending, told.confirmed⟩
  | paid => exact ⟨told.pending, told.confirmed⟩

theorem fresh_told (fresh : Fresh case) : Told case where
  pending _ := by
    obtain ⟨customerUserId, only⟩ := fresh.history
    rintro ⟨entry, member, status⟩
    rw [only, List.mem_singleton] at member
    simp [member, Checkout.Order.createdHistory] at status
  confirmed live := absurd fresh.status live

theorem Path.told {allowed : Event -> Prop} (path : Path allowed case after) (told : Told case) : Told after :=
  path.keeps (fun _ _ _ _ taken kept => CaseStep.told taken kept) told

-- A history only grows, and that of a cancelled order does not.
theorem CaseStep.told_on (taken : CaseStep event case after) :
    (Confirmed case.history -> Confirmed after.history) /\
      (case.order.status = .cancelled -> after.order.status = .cancelled /\ after.history = case.history) := by
  cases taken with
  | intake _ target reasonCode actor listed =>
    refine ⟨fun confirmed => confirmed.append _, fun status => ?_⟩
    simp [status, intakeSteps] at listed
  | cancelled _ reasonCode actor early =>
    refine ⟨fun confirmed => confirmed.append _, fun status => ?_⟩
    simp [status, earlyCancellationStatuses] at early
  | transitioned _ target nextAttemptAt reasonCode actor edge mirrored =>
    refine ⟨fun confirmed => confirmed.append _, fun status => ?_⟩
    simp [<- mirrored, status, canTransitionDelivery, deliveryTransitions] at edge
  | attempted _ outcome nextAttemptAt attempt reasonCode actor mirrored =>
    exact ⟨fun confirmed => confirmed.append _, fun status => by simp [mirrored] at status⟩
  | completed _ ageResult attempt result accountable reasonCode actor mirrored =>
    refine ⟨fun confirmed => confirmed.append _, fun status => ?_⟩
    rw [mirrored, completionSource] at status
    split at status <;> simp at status
  | returned _ reasonCode actor mirrored =>
    exact ⟨fun confirmed => confirmed.append _, fun status => by simp [mirrored] at status⟩
  | rerouted => exact ⟨id, fun status => ⟨status, rfl⟩⟩
  | recorded => exact ⟨id, fun status => ⟨status, rfl⟩⟩
  | corrected => exact ⟨id, fun status => ⟨status, rfl⟩⟩
  | writtenOff => exact ⟨id, fun status => ⟨status, rfl⟩⟩
  | remitted => exact ⟨id, fun status => ⟨status, rfl⟩⟩
  | paid => exact ⟨id, fun status => ⟨status, rfl⟩⟩

-- The order is where intake left it: unconfirmed or not, cancelled or not.
structure Spared (case after : OrderCase) : Prop where
  pending : case.order.status = .pendingConfirmation -> after.order.status = .pendingConfirmation
  cancelled : after.order.status = .cancelled -> case.order.status = .cancelled

theorem Spared.refl (case : OrderCase) : Spared case case :=
  ⟨id, id⟩

theorem Spared.same (status : after.order.status = case.order.status) : Spared case after :=
  ⟨fun waiting => status.trans waiting, fun cancelled => status.symm.trans cancelled⟩

theorem Spared.away (source : case.order.status ≠ .pendingConfirmation)
    (target : after.order.status ≠ .cancelled) : Spared case after :=
  ⟨fun waiting => absurd waiting source, fun cancelled => absurd cancelled target⟩

theorem CaseStep.spared (taken : CaseStep event case after) (delivering : event ≠ .managed) :
    Spared case after := by
  cases taken with
  | transitioned _ target nextAttemptAt reasonCode actor edge mirrored operational =>
    refine Spared.away (fun status => ?_) fun same => ?_
    next => simp [<- mirrored, status, canTransitionDelivery, deliveryTransitions] at edge
    next =>
      have here : target = .cancelled := same
      simp [here, operationalDeliveryTargets] at operational
  | attempted _ outcome nextAttemptAt attempt reasonCode actor mirrored =>
    refine Spared.away (by simp [mirrored]) fun same => ?_
    have here : attemptOutcomeStatus outcome = .cancelled := same
    cases outcome <;> simp [attemptOutcomeStatus] at here
  | completed _ ageResult attempt result accountable reasonCode actor mirrored =>
    refine Spared.away ?_ fun same => ?_
    next =>
      rw [mirrored, completionSource]
      split <;> decide
    next => exact absurd (show OrderStatus.delivered = .cancelled from same) (by decide)
  | _ => exact absurd rfl delivering

theorem Path.spared {allowed : Event -> Prop} (path : Path allowed case after)
    (delivering : forall event, allowed event -> event ≠ .managed) : Spared case after :=
  path.keeps (fun _ _ _ ok taken kept =>
    have last := CaseStep.spared taken (delivering _ ok)
    ⟨fun waiting => last.pending (kept.pending waiting), fun gone => kept.cancelled (last.cancelled gone)⟩)
    (Spared.refl case)

-- What confirmation and cancellation decide stays decided by them.
structure Untouched (case after : OrderCase) : Prop where
  items : after.order.items = case.order.items
  confirmed : Confirmed after.history <-> Confirmed case.history
  cancelled : after.order.status = .cancelled -> case.order.status = .cancelled

theorem Path.untouched {allowed : Event -> Prop} (path : Path allowed case after) (told : Told case)
    (spared : Spared case after) : Untouched case after where
  items := (Path.written path).items
  confirmed := by
    have grown := @Path.keeps allowed (fun last =>
        (Confirmed case.history -> Confirmed last.history) /\
          (case.order.status = .cancelled -> last.order.status = .cancelled /\ last.history = case.history))
      case after path (fun _ _ _ _ taken kept => ?_) ⟨id, fun status => ⟨status, rfl⟩⟩
    next =>
      refine ⟨fun confirmed => ?_, grown.1⟩
      by_cases waiting : case.order.status = .pendingConfirmation
      next => exact absurd confirmed ((Path.told path told).pending (spared.pending waiting))
      next =>
        by_cases gone : case.order.status = .cancelled
        next => rwa [(grown.2 gone).2] at confirmed
        next => exact told.confirmed waiting gone
    next =>
      obtain ⟨grows, stays⟩ := CaseStep.told_on taken
      refine ⟨fun confirmed => grows (kept.1 confirmed), fun gone => ?_⟩
      obtain ⟨status, history⟩ := kept.2 gone
      exact ⟨(stays status).1, (stays status).2.trans history⟩
  cancelled := spared.cancelled

end Cases

section Operations

def decidesIntake : Op -> Bool
  | .createOrder .. | .confirm .. | .terminate .. | .cancelOrder .. => true
  | _ => false

-- An operation that writes one case leaves the others as they were.
theorem writes_spared {was later : OrderCase} {changedId : Id} (is : IsCase db changedId was)
    (writes : Writes db next was later) (spared : Spared was later) (before : IsCase db orderId case)
    (here : IsCase next orderId after) : Spared case after := by
  by_cases same : orderId = changedId
  next =>
    subst same
    obtain rfl := is.unique before
    obtain rfl := (writes.here is).unique here
    exact spared
  next =>
    obtain rfl := (writes.elsewhere is same before).unique here
    exact Spared.refl case

theorem takes_spared {was : OrderCase} {changedId : Id} (is : IsCase db changedId was)
    (takes : Takes db next event was) (delivering : event ≠ .managed) (before : IsCase db orderId case)
    (here : IsCase next orderId after) : Spared case after := by
  obtain ⟨later, taken, writes⟩ := takes
  exact writes_spared is writes (CaseStep.spared taken delivering) before here

theorem transitionIntake_spared {source target : OrderStatus} {reasonCode : String} {id actorUserId : Id}
    {expectedVersion : Nat} (linked : Linked db) (late : source ≠ .pendingConfirmation)
    (live : target ≠ .cancelled)
    (ran : transitionIntake db source target reasonCode id expectedVersion actorUserId = .ok next)
    (before : IsCase db orderId case) (here : IsCase next orderId after) : Spared case after := by
  simp only [transitionIntake, bind_ok, throwIf_ok, orThrow_ok, updateOne_ok, pure_ok] at ran
  obtain ⟨operation, locks, ⟨⟩, -, ⟨⟩, status, delivery, found, ⟨⟩, -, ⟨⟩, -, orders, ⟨-, rfl⟩, deliveries,
    ⟨-, rfl⟩, rows⟩ := ran
  obtain ⟨was, is, rfl⟩ := lockOrder_ok linked locks
  obtain rfl := Option.some.inj found
  simp only [locked, not_or, not_not] at status
  have writes := @moved_writes db next _ was target (fun row => row) (fun _ => rfl) (fun _ => rfl)
    reasonCode.toList actorUserId linked is (by rw [<- rows]; rfl) (by rw [<- rows])
    (by rw [<- rows]; rfl) (by rw [<- rows]; exact ⟨rfl, rfl, rfl, rfl⟩)
  exact writes_spared is writes (Spared.away (status.1 ▸ late) live) before here

theorem completeReturn_spared {id actorUserId : Id} {expectedVersion : Nat} {reason : Text}
    (linked : Linked db) (ran : completeReturn db id expectedVersion reason actorUserId = .ok next)
    (before : IsCase db orderId case) (here : IsCase next orderId after) : Spared case after := by
  obtain ⟨changedId, was, is, rfl⟩ := delivery_case linked ran
  obtain ⟨⟨-, -, -, status⟩, rfl⟩ := (completeReturn_ok linked is expectedVersion reason actorUserId).1 ran
  refine writes_spared is (mirrored_writes linked is .returned (fun row => row) (fun _ => rfl)
    (fun _ => rfl) _ actorUserId) (Spared.away (by simp [status]) ?_) before here
  exact fun same => absurd (show OrderStatus.returned = .cancelled from same) (by decide)

theorem advance_spared {allowed : Id -> Event -> Prop} (advance : Advance allowed db next)
    (delivering : forall orderId event, allowed orderId event -> event ≠ .managed)
    (before : IsCase db orderId case) (here : IsCase next orderId after) : Spared case after := by
  obtain ⟨later, there, path⟩ := advance.known orderId case before
  obtain rfl := there.unique here
  exact Path.spared path (delivering orderId)

theorem sameOrders_spared (before : IsCase db orderId case) (here : IsCase next orderId after)
    (same : next.orders = db.orders) : Spared case after := by
  have order := here.order
  rw [same] at order
  exact Spared.same (congrArg Order.status (Option.some.inj (order.symm.trans before.order)))

-- A cash operation leaves every delivery where it is, and its order with it.
theorem cash_spared {op : CashOp} {now : Int} (sums : Sums db) (ran : exec db now (.cash op) = .ok next)
    (before : IsCase db orderId case) (here : IsCase next orderId after) : Spared case after := by
  have sound := sums.settled.sound orderId case before
  obtain ⟨later, there, path⟩ := (exec_advance sums ran).known orderId case before
  obtain rfl := there.unique here
  obtain ⟨later, later_sound⟩ := Path.later path sound
  obtain ⟨change, rows, each⟩ := Delivery.Manifests.cash_retouches ran
  have member := here.delivery_mem
  rw [rows] at member
  obtain ⟨delivery, known, same⟩ := List.mem_map.1 member
  have kept := each delivery
  rw [same] at kept
  obtain rfl := db.deliveries.same_of_key known before.delivery_mem (kept.id.symm.trans later.deliveryId)
  exact Spared.same (later_sound.mirrored.trans (kept.status.trans sound.mirrored.symm))

theorem exec_spared {op : Op} {now : Int} (sums : Sums db) (ran : exec db now op = .ok next)
    (elsewhere : decidesIntake op = false) (before : IsCase db orderId case)
    (here : IsCase next orderId after) : Spared case after := by
  have linked := sums.settled.linked
  cases op with
  | createOrder => simp [decidesIntake] at elsewhere
  | confirm => simp [decidesIntake] at elsewhere
  | terminate => simp [decidesIntake] at elsewhere
  | cancelOrder => simp [decidesIntake] at elsewhere
  | prepare => exact transitionIntake_spared linked (by decide) (by decide) ran before here
  | readyForPickup => exact transitionIntake_spared linked (by decide) (by decide) ran before here
  | assign =>
    simp only [exec, assignment, bind_ok, pure_ok] at ran
    obtain ⟨_, -, _, -, _, -, _, -, _, -, _, -, _, -, _, -, _, -, _, -, rfl⟩ := ran
    exact sameOrders_spared before here rfl
  | unassign =>
    simp only [exec, unassign, bind_ok, pure_ok] at ran
    obtain ⟨_, -, _, -, _, -, _, -, _, -, _, -, rfl⟩ := ran
    exact sameOrders_spared before here rfl
  | transition =>
    obtain ⟨_, was, is, rfl⟩ := delivery_case linked ran
    exact takes_spared is (transition_takes linked is ran) (by simp) before here
  | recordAttempt =>
    obtain ⟨_, was, is, rfl⟩ := delivery_case linked ran
    exact takes_spared is (recordAttempt_takes linked is ran) (by simp) before here
  | complete =>
    obtain ⟨_, was, is, rfl⟩ := delivery_case linked ran
    exact takes_spared is (complete_takes linked is ran) (by simp) before here
  | completeReturn => exact completeReturn_spared linked ran before here
  | transitionManifest =>
    exact advance_spared (transitionManifest_advance linked ran) (fun _ _ same => by simp [same]) before here
  | importStatusCsv =>
    obtain ⟨⟨rows, record⟩, imported, rfl⟩ := (map_ok _ _ _).1 ran
    refine advance_spared (importStatusCsv_advance linked imported) (fun _ _ commanded => ?_) before here
    obtain ⟨_, _, -, -, -, -, rfl⟩ := commanded
    simp
  | cash => exact cash_spared sums ran before here
  | _ =>
    have same := Frames.exec_writes ran .cases (by simp [areas])
    simp only [Area.Same, Prod.mk.injEq] at same
    exact sameOrders_spared before here same.1

-- What is known of an order's intake afterwards was known before.
theorem exec_untouched {op : Op} {now : Int} (sums : Sums db) (ran : exec db now op = .ok next)
    (elsewhere : decidesIntake op = false)
    (told : forall orderId case, IsCase db orderId case -> Told case) (here : IsCase next orderId after) :
    exists case, IsCase db orderId case /\ Untouched case after := by
  have placed : forall call, op ≠ .createOrder call := by
    rintro call rfl
    simp [decidesIntake] at elsewhere
  obtain ⟨case, there, before, also, -, path⟩ := exec_origin sums ran placed here.order_mem
  rw [here.order_id] at before also path
  obtain rfl := also.unique here
  exact ⟨case, before, Path.untouched path (told orderId case before)
    (exec_spared sums ran elsewhere before here)⟩

end Operations

end VapeCommerce.Orders.Intake
