import Mathlib.Data.List.Sort
import VapeCommerce.Lib.Outcome
import VapeCommerce.Schema

set_option autoImplicit false

-- outbox-contracts.ts and outbox-repository.ts of the worker.
namespace VapeCommerce.Worker.Outbox

open VapeCommerce.Lib VapeCommerce.Lib.Outcome VapeCommerce.Schema

inductive OutboxEventStatus where
  | pending
  | leased
  | published
  | processing
  | retry
  | processed
  | deadLetter
  | cancelled
deriving DecidableEq, Repr

inductive EventType where
  | reservationExpiry
  | notificationDispatch
  | mediaObjectDelete
  | unsupported (name : Text)
deriving DecidableEq, Repr

inductive AggregateType where
  | inventory
  | notification
  | productImage
deriving DecidableEq, Repr

-- The deterministic key by the parts it is spelt from.
inductive EventKey where
  | reservationExpiry (bucket : Int)
  | notificationDispatch (notificationId : Id)
  | mediaObjectDelete (eventVersion : Nat) (imageId : Id)
deriving DecidableEq, Repr

structure MediaObjectDeletion where
  bucket : Text
  objectKey : Text
deriving DecidableEq, Repr

-- A stored payload by the strict schema it matches, if any.
inductive Payload where
  | reservationExpiry (cutoff : Int) (batchSize : Nat)
  | notificationDispatch (notificationId : Id)
  | mediaObject (object : MediaObjectDeletion)
  | mediaObjects (objects : List MediaObjectDeletion)
  | invalid
deriving DecidableEq, Repr

structure OutboxEvent where
  id : Id
  deterministicKey : EventKey
  aggregateType : AggregateType
  aggregateId : Id
  eventType : EventType
  eventVersion : Nat
  payload : Payload
  status : OutboxEventStatus
  availableAt : Int
  leaseOwner : Option Id
  leaseExpiresAt : Option Int
  attemptCount : Nat
  maxAttempts : Nat
  safeErrorCode : Option String
deriving DecidableEq, Repr

structure OutboxJobData where
  outboxEventId : Id
  eventType : EventType
  eventVersion : Nat
deriving DecidableEq, Repr

abbrev Events := Table OutboxEvent.id

inductive NotificationAdapter where
  | console
  | smtp
  | smtpWebhook
  | disabled
deriving DecidableEq, Repr

-- The settings of one running instance.
structure WorkerEnvironment where
  instanceId : Id
  batchSize : Nat
  leaseMilliseconds : Nat
  publishedLeaseMilliseconds : Nat
  retryBaseMilliseconds : Nat
  retryMaximumMilliseconds : Nat
  notificationAdapter : NotificationAdapter
  smsEnabled : Bool
deriving DecidableEq, Repr

def parseEventPayload (eventType : EventType) (eventVersion : Nat) (payload : Payload) :
    Except String Payload :=
  match eventType with
  | .reservationExpiry =>
    if eventVersion ≠ 1 then .error "EVENT_VERSION_UNSUPPORTED"
    else match payload with
      | .reservationExpiry cutoff batchSize => .ok (.reservationExpiry cutoff batchSize)
      | _ => .error "EVENT_PAYLOAD_INVALID"
  | .notificationDispatch =>
    if eventVersion ≠ 1 then .error "EVENT_VERSION_UNSUPPORTED"
    else match payload with
      | .notificationDispatch notificationId => .ok (.notificationDispatch notificationId)
      | _ => .error "EVENT_PAYLOAD_INVALID"
  | .mediaObjectDelete =>
    if eventVersion ≠ 1 /\ eventVersion ≠ 2 then .error "EVENT_VERSION_UNSUPPORTED"
    else match payload with
      | .mediaObject object =>
        if eventVersion = 1 then .ok (.mediaObject object) else .error "EVENT_PAYLOAD_INVALID"
      | .mediaObjects objects =>
        if eventVersion = 2 then .ok (.mediaObjects objects) else .error "EVENT_PAYLOAD_INVALID"
      | _ => .error "EVENT_PAYLOAD_INVALID"
  | .unsupported _ => .error "EVENT_TYPE_UNSUPPORTED"

def exponentialRetryDelay (attemptCount baseMilliseconds maximumMilliseconds : Nat) : Nat :=
  let exponent := max 0 (min 20 (attemptCount - 1))
  min maximumMilliseconds (baseMilliseconds * 2 ^ exponent)

def terminal (status : OutboxEventStatus) : Bool :=
  status == .processed || status == .deadLetter || status == .cancelled

def OutboxEvent.leased? (event : OutboxEvent) : Bool :=
  event.status == .leased || event.status == .published || event.status == .processing

-- The rows of the dead-letter sweep that opens a claim.
def exhausted (event : OutboxEvent) : Bool :=
  (event.status == .pending || event.status == .leased || event.status == .published ||
      event.status == .processing || event.status == .retry) &&
    event.attemptCount >= event.maxAttempts

def sweep (event : OutboxEvent) : OutboxEvent :=
  { event with
    status := .deadLetter
    safeErrorCode := some (event.safeErrorCode.getD "ATTEMPTS_EXHAUSTED")
    leaseOwner := none
    leaseExpiresAt := none }

theorem sweep_id (event : OutboxEvent) : (sweep event).id = event.id := rfl

def claimable (now : Int) (event : OutboxEvent) : Bool :=
  event.attemptCount < event.maxAttempts &&
    (((event.status == .pending || event.status == .retry) && event.availableAt <= now) ||
      (event.leased? && event.leaseExpiresAt.any fun expiry => expiry <= now))

def availableBefore (left right : OutboxEvent) : Prop :=
  left.availableAt < right.availableAt \/
    (left.availableAt = right.availableAt /\ left.id <= right.id)

instance : DecidableRel availableBefore := fun _ _ => inferInstanceAs (Decidable (_ \/ _))

def lease (env : WorkerEnvironment) (now : Int) (event : OutboxEvent) : OutboxEvent :=
  { event with
    status := .leased
    leaseOwner := some env.instanceId
    leaseExpiresAt := some (now + env.leaseMilliseconds)
    attemptCount := event.attemptCount + 1
    safeErrorCode := none }

theorem lease_id (env : WorkerEnvironment) (now : Int) (event : OutboxEvent) :
    (lease env now event).id = event.id := rfl

def claimedIds (swept : Events) (env : WorkerEnvironment) (now : Int) : List Id :=
  (((swept.filter (claimable now)).insertionSort availableBefore).take env.batchSize).map
    OutboxEvent.id

-- The events as claimed and the ones the caller is to publish.
def claimAvailable (events : Events) (env : WorkerEnvironment) (now : Int) :
    Events × List OutboxEvent :=
  let swept := events.update exhausted sweep sweep_id
  let ids := claimedIds swept env now
  let claimed := swept.update (fun event => decide (event.id ∈ ids)) (lease env now) (lease_id env now)
  (claimed, (claimed.filter fun event => decide (event.id ∈ ids) && event.status == .leased &&
    event.leaseOwner == some env.instanceId).insertionSort availableBefore)

def publish (env : WorkerEnvironment) (now : Int) (event : OutboxEvent) : OutboxEvent :=
  { event with
    status := .published
    leaseExpiresAt := some (now + env.publishedLeaseMilliseconds) }

theorem publish_id (env : WorkerEnvironment) (now : Int) (event : OutboxEvent) :
    (publish env now event).id = event.id := rfl

def markPublished (events : Events) (env : WorkerEnvironment) (eventId : Id) (now : Int) : Events :=
  events.update (fun event => event.id == eventId && event.status == .leased &&
    event.leaseOwner == some env.instanceId) (publish env now) (publish_id env now)

def bury (errorCode : String) (event : OutboxEvent) : OutboxEvent :=
  { event with
    status := .deadLetter
    safeErrorCode := some errorCode
    leaseOwner := none
    leaseExpiresAt := none }

def delay (availableAt : Int) (errorCode : String) (event : OutboxEvent) : OutboxEvent :=
  { event with
    status := .retry
    availableAt
    safeErrorCode := some errorCode
    leaseOwner := none
    leaseExpiresAt := none }

theorem bury_id (errorCode : String) (event : OutboxEvent) : (bury errorCode event).id = event.id := rfl

theorem delay_id (availableAt : Int) (errorCode : String) (event : OutboxEvent) :
    (delay availableAt errorCode event).id = event.id := rfl

def retryDelay (env : WorkerEnvironment) (event : OutboxEvent) : Nat :=
  exponentialRetryDelay event.attemptCount env.retryBaseMilliseconds env.retryMaximumMilliseconds

inductive RetryOutcome where
  | retry
  | deadLetter
  | terminal
  | missing
deriving DecidableEq, Repr

def scheduleRetry (events : Events) (env : WorkerEnvironment) (eventId : Id) (errorCode : String)
    (now : Int) : Events × RetryOutcome :=
  match events.find? eventId with
  | none => (events, .missing)
  | some event =>
    if terminal event.status then (events, .terminal)
    else if event.attemptCount >= event.maxAttempts then
      (events.modify event.id (bury errorCode) (bury_id errorCode), .deadLetter)
    else
      (events.modify event.id (delay (now + retryDelay env event) errorCode) (delay_id _ errorCode),
        .retry)

end VapeCommerce.Worker.Outbox
