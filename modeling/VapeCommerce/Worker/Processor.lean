import VapeCommerce.Worker.Outbox

set_option autoImplicit false

-- The transactions of outbox-processor.ts; a thrown code rolls its transaction back.
namespace VapeCommerce.Worker.Processor

open VapeCommerce.Lib VapeCommerce.Lib.Outcome VapeCommerce.Schema VapeCommerce.Worker.Outbox

inductive NotificationChannel where
  | email
  | sms
  | console
deriving DecidableEq, Repr

inductive NotificationStatus where
  | queued
  | processing
  | delivered
  | failed
  | deadLetter
  | cancelled
deriving DecidableEq, Repr

inductive Provider where
  | disabled
  | smtp
  | smsHttpsWebhook
  | consoleDevelopment
  | unsupported
deriving DecidableEq, Repr

structure Notification where
  id : Id
  channel : NotificationChannel
  status : NotificationStatus
  scheduledAt : Int
deriving DecidableEq, Repr

structure NotificationDeliveryAttempt where
  id : Id
  notificationId : Id
  attemptNumber : Nat
  provider : Provider
  status : NotificationStatus
  safeErrorCode : Option String
deriving DecidableEq, Repr

structure Ledger where
  events : Events
  notifications : Table Notification.id
  attempts : Table NotificationDeliveryAttempt.id

structure NotificationWork where
  outboxEventId : Id
  notificationId : Id
  attemptId : Id
  attemptNumber : Nat
  provider : Provider
  channel : NotificationChannel
deriving DecidableEq, Repr

structure NotificationDeliveryResult where
  provider : Provider
  providerMessageId : Text
deriving DecidableEq, Repr

inductive Claim (Work : Type) where
  | perform (work : Work)
  | alreadyProcessed
  | skippedDisabled
  | terminal

def providerFor (env : WorkerEnvironment) (channel : NotificationChannel) : Provider :=
  if env.notificationAdapter = .disabled then .disabled
  else if channel = .sms /\ env.smsEnabled = false then .disabled
  else match env.notificationAdapter with
    | .smtpWebhook =>
      match channel with
      | .email => .smtp
      | .sms => .smsHttpsWebhook
      | .console => .unsupported
    | .smtp => if channel = .email then .smtp else .consoleDevelopment
    | .console => if channel = .console then .consoleDevelopment else .unsupported
    | .disabled => .unsupported

def finish (errorCode : Option String) (event : OutboxEvent) : OutboxEvent :=
  { event with
    status := .processed
    safeErrorCode := errorCode
    leaseOwner := none
    leaseExpiresAt := none }

def start (env : WorkerEnvironment) (now : Int) (event : OutboxEvent) : OutboxEvent :=
  { event with
    status := .processing
    leaseOwner := some env.instanceId
    leaseExpiresAt := some (now + env.leaseMilliseconds) }

theorem finish_id (errorCode : Option String) (event : OutboxEvent) :
    (finish errorCode event).id = event.id := rfl

theorem start_id (env : WorkerEnvironment) (now : Int) (event : OutboxEvent) :
    (start env now event).id = event.id := rfl

def Ledger.setEvent (ledger : Ledger) (id : Id) (change : OutboxEvent -> OutboxEvent)
    (keeps : forall event, (change event).id = event.id) : Ledger :=
  { ledger with events := ledger.events.modify id change keeps }

def Notification.turned (status : NotificationStatus) (notification : Notification) : Notification :=
  { notification with status }

theorem turned_id (status : NotificationStatus) (notification : Notification) :
    (notification.turned status).id = notification.id := rfl

def Ledger.setNotification (ledger : Ledger) (id : Id) (status : NotificationStatus) : Ledger :=
  { ledger with
    notifications := ledger.notifications.modify id (Notification.turned status) (turned_id status) }

-- The row lock both claims and completions take first.
def lockEvent (ledger : Ledger) (id : Id) : Except String OutboxEvent :=
  orThrow (ledger.events.find? id) "OUTBOX_EVENT_MISSING"

def lockNotification (ledger : Ledger) (id : Id) : Except String Notification :=
  orThrow (ledger.notifications.find? id) "NOTIFICATION_MISSING"

def assertJobMatches (event : OutboxEvent) (job : OutboxJobData) : Except String Unit :=
  throwIf (event.eventType ≠ job.eventType \/ event.eventVersion ≠ job.eventVersion)
    "OUTBOX_JOB_MISMATCH"

-- `expired` is what `expireReservations` answered inside this transaction.
def affected (parsed : Payload) (expired : Except String Nat) : Except String Nat :=
  match parsed with
  | .reservationExpiry _ _ => expired
  | .notificationDispatch _ => .error "OUTBOX_HANDLER_ROUTE_MISMATCH"
  | _ => .ok 0

def processTransaction (ledger : Ledger) (job : OutboxJobData) (expired : Except String Nat) :
    Except String (Ledger × Claim Nat) := do
  let event <- lockEvent ledger job.outboxEventId
  if event.status = .processed then return (ledger, .alreadyProcessed)
  if event.status = .deadLetter \/ event.status = .cancelled then return (ledger, .terminal)
  assertJobMatches event job
  let parsed <- parseEventPayload event.eventType event.eventVersion event.payload
  let affectedCount <- affected parsed expired
  return (ledger.setEvent event.id (finish none) (finish_id none), .perform affectedCount)

def objectsOf : Payload -> Except String (List MediaObjectDeletion)
  | .mediaObject object => .ok [object]
  | .mediaObjects objects => .ok objects
  | _ => .error "OUTBOX_HANDLER_ROUTE_MISMATCH"

def claimMediaDeletion (ledger : Ledger) (env : WorkerEnvironment) (job : OutboxJobData) (now : Int) :
    Except String (Ledger × Claim (List MediaObjectDeletion)) := do
  let event <- lockEvent ledger job.outboxEventId
  if event.status = .processed then return (ledger, .alreadyProcessed)
  if event.status = .deadLetter \/ event.status = .cancelled then return (ledger, .terminal)
  assertJobMatches event job
  let parsed <- parseEventPayload event.eventType event.eventVersion event.payload
  let objects <- objectsOf parsed
  throwIf (event.aggregateType ≠ .productImage \/
      event.deterministicKey ≠ .mediaObjectDelete event.eventVersion event.aggregateId)
    "OUTBOX_MEDIA_AGGREGATE_MISMATCH"
  return (ledger.setEvent event.id (start env now) (start_id env now), .perform objects)

def completeMediaDeletion (ledger : Ledger) (job : OutboxJobData) : Except String Ledger := do
  let event <- lockEvent ledger job.outboxEventId
  if event.status = .processed then return ledger
  assertJobMatches event job
  return ledger.setEvent job.outboxEventId (finish none) (finish_id none)

def dispatchTarget (event : OutboxEvent) : Payload -> Except String Id
  | .notificationDispatch notificationId =>
    if event.deterministicKey ≠ .notificationDispatch notificationId \/
        event.aggregateType ≠ .notification \/ event.aggregateId ≠ notificationId then
      .error "OUTBOX_NOTIFICATION_AGGREGATE_MISMATCH"
    else .ok notificationId
  | _ => .error "OUTBOX_HANDLER_ROUTE_MISMATCH"

def lapse (attempt : NotificationDeliveryAttempt) : NotificationDeliveryAttempt :=
  { attempt with status := .failed, safeErrorCode := some "NOTIFICATION_ATTEMPT_LEASE_EXPIRED" }

theorem lapse_id (attempt : NotificationDeliveryAttempt) : (lapse attempt).id = attempt.id := rfl

def nextAttemptNumber (ledger : Ledger) (notificationId : Id) : Nat :=
  (((ledger.attempts.filter fun attempt => attempt.notificationId == notificationId).map
    NotificationDeliveryAttempt.attemptNumber).foldl max 0) + 1

def Ledger.withAttempts (ledger : Ledger) (attempts : Table NotificationDeliveryAttempt.id) : Ledger :=
  { ledger with attempts }

-- Attempts a lost handler left open are closed before the next one is opened.
def openAttempt (ledger : Ledger) (attempt : NotificationDeliveryAttempt) : Except String Ledger := do
  let lapsed := ledger.attempts.update
    (fun row => row.notificationId == attempt.notificationId && row.status == .processing) lapse
    lapse_id
  let attempts <- orThrow (lapsed.insert? attempt) "DATABASE_OPERATION_FAILED"
  return ledger.withAttempts attempts

def claimNotification (ledger : Ledger) (env : WorkerEnvironment) (job : OutboxJobData)
    (attemptId : Id) (now : Int) : Except String (Ledger × Claim NotificationWork) := do
  let event <- lockEvent ledger job.outboxEventId
  if event.status = .processed then return (ledger, .alreadyProcessed)
  if event.status = .deadLetter \/ event.status = .cancelled then return (ledger, .terminal)
  assertJobMatches event job
  let parsed <- parseEventPayload event.eventType event.eventVersion event.payload
  let notificationId <- dispatchTarget event parsed
  let notification <- lockNotification ledger notificationId
  if notification.status = .delivered \/ notification.status = .cancelled then
    return (ledger.setEvent event.id (finish none) (finish_id none), .alreadyProcessed)
  if notification.status = .deadLetter then
    return (ledger.setEvent event.id (bury "NOTIFICATION_DEAD_LETTER") (bury_id _), .terminal)
  let provider := providerFor env notification.channel
  let attempt : NotificationDeliveryAttempt := {
    id := attemptId
    notificationId
    attemptNumber := nextAttemptNumber ledger notificationId
    provider
    status := if provider = .disabled then .cancelled else .processing
    safeErrorCode := if provider = .disabled then some "NOTIFICATION_CHANNEL_DISABLED" else none }
  let opened <- openAttempt ledger attempt
  if provider = .disabled then
    return ((opened.setNotification notificationId .cancelled).setEvent event.id
      (finish (some "NOTIFICATION_CHANNEL_DISABLED")) (finish_id _), .skippedDisabled)
  return ((opened.setNotification notificationId .processing).setEvent event.id (start env now)
      (start_id env now),
    .perform {
      outboxEventId := event.id
      notificationId
      attemptId
      attemptNumber := attempt.attemptNumber
      provider
      channel := notification.channel })

def printable (value : Text) : Bool :=
  !value.isEmpty && value.length <= 255 && value.all fun char => 32 <= char.toNat && char.toNat <= 126

def ofWork (work : NotificationWork) (attempt : NotificationDeliveryAttempt) : Bool :=
  attempt.id == work.attemptId && attempt.notificationId == work.notificationId

def close (status : NotificationStatus) (safeErrorCode : Option String)
    (attempt : NotificationDeliveryAttempt) : NotificationDeliveryAttempt :=
  { attempt with status, safeErrorCode }

theorem close_id (status : NotificationStatus) (safeErrorCode : Option String)
    (attempt : NotificationDeliveryAttempt) : (close status safeErrorCode attempt).id = attempt.id := rfl

def closeAttempts (ledger : Ledger) (chosen : NotificationDeliveryAttempt -> Bool)
    (status : NotificationStatus) (safeErrorCode : Option String) : Ledger :=
  { ledger with
    attempts := ledger.attempts.update chosen (close status safeErrorCode)
      (close_id status safeErrorCode) }

-- The attempt must still be open; otherwise the whole transaction is given up.
def closeOpenAttempt (ledger : Ledger) (work : NotificationWork) (status : NotificationStatus)
    (safeErrorCode : Option String) : Except String Ledger := do
  let chosen := fun attempt : NotificationDeliveryAttempt =>
    ofWork work attempt && attempt.status == .processing
  throwIf (ledger.attempts.count chosen ≠ 1) "NOTIFICATION_ATTEMPT_STATE_CONFLICT"
  return closeAttempts ledger chosen status safeErrorCode

def recordDelivery (ledger : Ledger) (work : NotificationWork) (status : NotificationStatus) :
    Except String Ledger :=
  match status with
  | .cancelled =>
    .ok (closeAttempts ledger (ofWork work) .delivered
      (some "NOTIFICATION_CANCELLED_AFTER_PROVIDER_ACCEPTED"))
  | .delivered =>
    .ok (closeAttempts ledger (ofWork work) .delivered (some "NOTIFICATION_ALREADY_DELIVERED"))
  | _ => closeOpenAttempt (ledger.setNotification work.notificationId .delivered) work .delivered none

def finalizeNotificationSuccess (ledger : Ledger) (work : NotificationWork)
    (delivery : NotificationDeliveryResult) : Except String Ledger := do
  throwIf (delivery.provider ≠ work.provider) "NOTIFICATION_PROVIDER_MISMATCH"
  throwIf (printable delivery.providerMessageId = false) "NOTIFICATION_PROVIDER_RESPONSE_INVALID"
  let event <- lockEvent ledger work.outboxEventId
  let notification <- lockNotification ledger work.notificationId
  let closed <- recordDelivery ledger work notification.status
  return closed.setEvent event.id (finish none) (finish_id none)

def finalizeNotificationFailure (ledger : Ledger) (env : WorkerEnvironment) (work : NotificationWork)
    (errorCode : String) (now : Int) : Except String (Ledger × RetryOutcome) := do
  let event <- lockEvent ledger work.outboxEventId
  let notification <- lockNotification ledger work.notificationId
  if terminal event.status \/ notification.status = .delivered \/ notification.status = .cancelled then
    let closed := closeAttempts ledger (ofWork work) .failed (some errorCode)
    if notification.status = .delivered /\ event.status ≠ .processed then
      return (closed.setEvent event.id (finish none) (finish_id none), .terminal)
    return (closed, .terminal)
  if event.attemptCount >= event.maxAttempts then
    let closed <- closeOpenAttempt ledger work .deadLetter (some errorCode)
    return ((closed.setNotification work.notificationId .deadLetter).setEvent event.id (bury errorCode)
      (bury_id errorCode), .deadLetter)
  let closed <- closeOpenAttempt ledger work .failed (some errorCode)
  return ((closed.setNotification work.notificationId .failed).setEvent event.id
    (delay (now + retryDelay env event) errorCode) (Table.kept OutboxEvent.id), .retry)

end VapeCommerce.Worker.Processor
