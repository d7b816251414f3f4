import VapeCommerce.Schema

set_option autoImplicit false

-- order-state-machine.ts and delivery-transition-policy.ts
namespace VapeCommerce.Orders.StateMachine

open VapeCommerce.Schema

def orderStatusTransitions : OrderStatus -> List OrderStatus
  | .pendingConfirmation => [.confirmed, .onHold, .cancelled]
  | .confirmed => [.onHold, .preparing, .cancelled]
  | .onHold => [.confirmed, .preparing, .cancelled]
  | .preparing => [.readyForPickup, .assignedToCourier, .cancelled]
  | .readyForPickup => [.delivered, .cancelled]
  | .assignedToCourier => [.handedToCourier, .cancelled]
  | .handedToCourier => [.inTransit, .returnToSender]
  | .inTransit => [.outForDelivery, .deliveryAttempted, .returnToSender]
  | .outForDelivery => [.delivered, .deliveryAttempted, .refused, .failed]
  | .deliveryAttempted => [.rescheduled, .delivered, .refused, .failed, .returnToSender]
  | .rescheduled => [.outForDelivery, .returnToSender]
  | .delivered => []
  | .refused => [.returnToSender]
  | .failed => [.rescheduled, .returnToSender]
  | .returnToSender => [.returned]
  | .returned => []
  | .cancelled => []

def canTransitionOrder (source target : OrderStatus) : Bool :=
  decide (target ∈ orderStatusTransitions source)

def earlyCancellationStatuses : List OrderStatus :=
  [.pendingConfirmation, .confirmed, .onHold, .preparing, .readyForPickup, .assignedToCourier]

def customerCancellationStatuses : List OrderStatus :=
  [.pendingConfirmation]

def canCustomerCancelOrder (status : OrderStatus) : Bool :=
  decide (status ∈ customerCancellationStatuses)

def deliveryTransitions : DeliveryStatus -> List DeliveryStatus
  | .pendingConfirmation => []
  | .confirmed => [.onHold, .preparing]
  | .onHold => [.confirmed]
  | .preparing => [.readyForPickup, .assignedToCourier]
  | .readyForPickup => [.delivered]
  | .assignedToCourier => [.handedToCourier]
  | .handedToCourier => [.inTransit]
  | .inTransit => [.outForDelivery]
  | .outForDelivery => [.deliveryAttempted, .rescheduled, .delivered, .refused, .failed]
  | .deliveryAttempted => [.rescheduled]
  | .rescheduled => [.outForDelivery]
  | .delivered => []
  | .refused => [.returnToSender]
  | .failed => [.returnToSender]
  | .returnToSender => [.returned]
  | .returned => []
  | .cancelled => []

def canTransitionDelivery (source target : DeliveryStatus) : Bool :=
  decide (target ∈ deliveryTransitions source)

-- The targets a request or a CSV row may name; validation refuses every other one.
def operationalDeliveryTargets : List DeliveryStatus :=
  [.onHold, .confirmed, .preparing, .readyForPickup, .assignedToCourier, .handedToCourier,
    .inTransit, .outForDelivery, .returnToSender]

structure OperationalTarget where
  status : DeliveryStatus
  operational : status ∈ operationalDeliveryTargets
deriving DecidableEq

def deliveryAssignmentStatuses : List DeliveryStatus :=
  [.confirmed, .preparing, .assignedToCourier]

def courierUnassignmentStatuses : List DeliveryStatus :=
  [.confirmed, .preparing]

def terminalDeliveryStatuses : List DeliveryStatus :=
  [.delivered, .returned, .cancelled]

def courierRequiredTargets : List DeliveryStatus :=
  [.assignedToCourier, .handedToCourier]

def explanationRequiredTargets : List DeliveryStatus :=
  [.onHold, .returnToSender]

-- The outcomes an attempt may record; a delivery is completed elsewhere.
inductive FailedAttemptOutcome where
  | customerUnavailable
  | addressNotFound
  | customerRefused
  | failedAgeVerification
  | partialCashNotAllowed
  | rescheduled
  | otherFailed
deriving DecidableEq, Repr

def FailedAttemptOutcome.recorded : FailedAttemptOutcome -> DeliveryAttemptOutcome
  | .customerUnavailable => .customerUnavailable
  | .addressNotFound => .addressNotFound
  | .customerRefused => .customerRefused
  | .failedAgeVerification => .failedAgeVerification
  | .partialCashNotAllowed => .partialCashNotAllowed
  | .rescheduled => .rescheduled
  | .otherFailed => .otherFailed

def attemptOutcomeStatus : FailedAttemptOutcome -> DeliveryStatus
  | .customerUnavailable => .deliveryAttempted
  | .addressNotFound => .failed
  | .customerRefused => .refused
  | .failedAgeVerification => .failed
  | .partialCashNotAllowed => .failed
  | .rescheduled => .rescheduled
  | .otherFailed => .failed

-- The order table permits every edge of the delivery table but the rescheduling of a delivery
-- that is out.
theorem delivery_edge_permitted (source target : OrderStatus)
    (edge : canTransitionDelivery source target = true) :
    canTransitionOrder source target = true <->
      Not (source = .outForDelivery /\ target = .rescheduled) := by
  cases source <;> cases target <;> revert edge <;> decide

theorem attempt_edge_permitted (outcome : FailedAttemptOutcome) :
    canTransitionOrder .outForDelivery (attemptOutcomeStatus outcome) = true <->
      outcome ≠ .rescheduled := by
  cases outcome <;> decide

theorem early_cancellation_permitted (status : OrderStatus)
    (early : status ∈ earlyCancellationStatuses) : canTransitionOrder status .cancelled = true := by
  revert early
  cases status <;> decide

end VapeCommerce.Orders.StateMachine
