import VapeCommerce.Lib.Runs
import VapeCommerce.Worker.Processor

set_option autoImplicit false

-- Any number of worker instances over one database and one queue. Every transaction is one step;
-- between its transactions a handler is a pending task, which a crash drops.
namespace VapeCommerce.Worker.Dispatch

open VapeCommerce.Lib VapeCommerce.Lib.Outcome VapeCommerce.Schema
open VapeCommerce.Worker.Outbox VapeCommerce.Worker.Processor

inductive Task where
  | publish (env : WorkerEnvironment) (event : OutboxEvent)
  | mark (env : WorkerEnvironment) (eventId : Id)
  | defer (env : WorkerEnvironment) (eventId : Id) (errorCode : String)
  | send (env : WorkerEnvironment) (work : NotificationWork)
  | settle (env : WorkerEnvironment) (work : NotificationWork) (errorCode : String)
  | delete (env : WorkerEnvironment) (job : OutboxJobData)
deriving DecidableEq, Repr

structure WorkerState where
  ledger : Ledger
  jobs : List OutboxJobData
  tasks : List Task

-- What other services and the source scheduler ask of the worker besides notifications.
inductive ScheduledWork where
  | reservationExpiry (bucket cutoff : Int) (batchSize : Nat)
  | mediaObjectDelete (imageId : Id) (object : MediaObjectDeletion)
  | mediaObjectsDelete (imageId : Id) (objects : List MediaObjectDeletion)
deriving DecidableEq, Repr

inductive Action where
  | schedule (eventId : Id) (work : ScheduledWork) (maxAttempts : Nat)
  | notify (eventId : Id) (notification : Notification) (maxAttempts : Nat)
  | bridge (eventId notificationId : Id) (maxAttempts : Nat)
  | poll (env : WorkerEnvironment)
  | publish (env : WorkerEnvironment) (event : OutboxEvent)
  | mark (env : WorkerEnvironment) (eventId : Id)
  | deliver (env : WorkerEnvironment) (job : OutboxJobData) (attemptId : Id)
      (expired : Except String Nat)
  | refuse (env : WorkerEnvironment) (job : OutboxJobData) (errorCode : String)
  | sent (env : WorkerEnvironment) (work : NotificationWork) (delivery : NotificationDeliveryResult)
  | settle (env : WorkerEnvironment) (work : NotificationWork) (errorCode : String)
  | deleted (env : WorkerEnvironment) (job : OutboxJobData)
  | retry (env : WorkerEnvironment) (eventId : Id) (errorCode : String)
  | abort (task : Task) (errorCode : String)
  | crash (task : Task)

-- A step at the clock reading of the instance that takes it.
structure Step where
  now : Int
  action : Action

def jobOf (event : OutboxEvent) : OutboxJobData where
  outboxEventId := event.id
  eventType := event.eventType
  eventVersion := event.eventVersion

def newEvent (id : Id) (key : EventKey) (aggregateType : AggregateType) (aggregateId : Id)
    (eventType : EventType) (eventVersion : Nat) (payload : Payload) (maxAttempts : Nat)
    (availableAt : Int) : OutboxEvent where
  id := id
  deterministicKey := key
  aggregateType := aggregateType
  aggregateId := aggregateId
  eventType := eventType
  eventVersion := eventVersion
  payload := payload
  status := .pending
  availableAt := availableAt
  leaseOwner := none
  leaseExpiresAt := none
  attemptCount := 0
  maxAttempts := maxAttempts
  safeErrorCode := none

def dispatchEvent (eventId notificationId : Id) (maxAttempts : Nat) (availableAt : Int) : OutboxEvent :=
  newEvent eventId (.notificationDispatch notificationId) .notification notificationId
    .notificationDispatch 1 (.notificationDispatch notificationId) maxAttempts availableAt

def scheduledEvent (eventId : Id) (maxAttempts : Nat) (availableAt : Int) : ScheduledWork -> OutboxEvent
  | .reservationExpiry bucket cutoff batchSize =>
    newEvent eventId (.reservationExpiry bucket) .inventory 0 .reservationExpiry 1
      (.reservationExpiry cutoff batchSize) maxAttempts availableAt
  | .mediaObjectDelete imageId object =>
    newEvent eventId (.mediaObjectDelete 1 imageId) .productImage imageId .mediaObjectDelete 1
      (.mediaObject object) maxAttempts availableAt
  | .mediaObjectsDelete imageId objects =>
    newEvent eventId (.mediaObjectDelete 2 imageId) .productImage imageId .mediaObjectDelete 2
      (.mediaObjects objects) maxAttempts availableAt

-- `upsert` with an empty update, by the unique deterministic key.
def upsertEvent (ledger : Ledger) (event : OutboxEvent) : Ledger :=
  if ledger.events.rows.any (fun row => row.deterministicKey == event.deterministicKey) then ledger
  else { ledger with events := (ledger.events.insert? event).getD ledger.events }

def notify (ledger : Ledger) (eventId : Id) (notification : Notification) (maxAttempts : Nat) :
    Option Ledger := do
  let event := dispatchEvent eventId notification.id maxAttempts notification.scheduledAt
  guard (Not (ledger.events.rows.any fun row => row.deterministicKey == event.deterministicKey))
  let notifications <- ledger.notifications.insert? { notification with status := .queued }
  let events <- ledger.events.insert? event
  return { ledger with events, notifications }

-- One notification of `bridgeNotifications`.
def bridge (ledger : Ledger) (eventId notificationId : Id) (maxAttempts : Nat) (now : Int) : Ledger :=
  match ledger.notifications.find? notificationId with
  | some notification =>
    if notification.status = .queued /\ notification.scheduledAt <= now then
      upsertEvent ledger (dispatchEvent eventId notificationId maxAttempts now)
    else ledger
  | none => ledger

def WorkerState.follow (state : WorkerState) (task : Task) (next : List Task) : WorkerState :=
  { state with tasks := state.tasks.erase task ++ next }

-- The catch block around each transaction.
def recovery (errorCode : String) : Task -> List Task
  | .publish env event => [.defer env event.id errorCode]
  | .mark env eventId => [.defer env eventId errorCode]
  | .defer _ _ _ => []
  | .send env work => [.settle env work errorCode]
  | .settle env work _ => [.defer env work.outboxEventId errorCode]
  | .delete env job => [.defer env job.outboxEventId errorCode]

def performed {Work : Type} (claim : Claim Work) (task : Work -> Task) : List Task :=
  match claim with
  | .perform work => [task work]
  | _ => []

-- `process`, up to the end of its first transaction.
def deliver (state : WorkerState) (env : WorkerEnvironment) (job : OutboxJobData) (attemptId : Id)
    (expired : Except String Nat) (now : Int) : Except String (Ledger × List Task) :=
  match job.eventType with
  | .notificationDispatch => do
    let (ledger, claim) <- claimNotification state.ledger env job attemptId now
    return (ledger, performed claim (.send env))
  | .mediaObjectDelete => do
    let (ledger, claim) <- claimMediaDeletion state.ledger env job now
    return (ledger, performed claim fun _ => .delete env job)
  | _ => do
    let (ledger, _) <- processTransaction state.ledger job expired
    return (ledger, [])

def perform (state : WorkerState) (now : Int) : Action -> WorkerState
  | .schedule eventId work maxAttempts =>
    { state with ledger := upsertEvent state.ledger (scheduledEvent eventId maxAttempts now work) }
  | .notify eventId notification maxAttempts =>
    { state with ledger := (notify state.ledger eventId notification maxAttempts).getD state.ledger }
  | .bridge eventId notificationId maxAttempts =>
    { state with ledger := bridge state.ledger eventId notificationId maxAttempts now }
  | .poll env =>
    let claimed := claimAvailable state.ledger.events env now
    { state with
      ledger := { state.ledger with events := claimed.1 }
      tasks := state.tasks ++ claimed.2.map (.publish env) }
  | .publish env event =>
    if .publish env event ∈ state.tasks then
      match parseEventPayload event.eventType event.eventVersion event.payload with
      | .error errorCode => state.follow (.publish env event) [.defer env event.id errorCode]
      | .ok _ =>
        { state.follow (.publish env event) [.mark env event.id] with
          jobs := state.jobs ++ [jobOf event] }
    else state
  | .mark env eventId =>
    if .mark env eventId ∈ state.tasks then
      { state.follow (.mark env eventId) [] with
        ledger := { state.ledger with events := markPublished state.ledger.events env eventId now } }
    else state
  -- A stalled job is delivered again, so a delivered job stays in the queue.
  | .deliver env job attemptId expired =>
    if job ∈ state.jobs then
      match deliver state env job attemptId expired now with
      | .ok (ledger, tasks) => { state with ledger, tasks := state.tasks ++ tasks }
      | .error errorCode =>
        { state with tasks := state.tasks ++ [.defer env job.outboxEventId errorCode] }
    else state
  | .refuse env job errorCode =>
    if job ∈ state.jobs then
      { state with tasks := state.tasks ++ [.defer env job.outboxEventId errorCode] }
    else state
  | .sent env work delivery =>
    if .send env work ∈ state.tasks then
      match finalizeNotificationSuccess state.ledger work delivery with
      | .ok ledger => { state.follow (.send env work) [] with ledger }
      | .error errorCode => state.follow (.send env work) [.settle env work errorCode]
    else state
  | .settle env work errorCode =>
    if .settle env work errorCode ∈ state.tasks then
      match finalizeNotificationFailure state.ledger env work errorCode now with
      | .ok (ledger, _) => { state.follow (.settle env work errorCode) [] with ledger }
      | .error code =>
        state.follow (.settle env work errorCode) [.defer env work.outboxEventId code]
    else state
  | .deleted env job =>
    if .delete env job ∈ state.tasks then
      match completeMediaDeletion state.ledger job with
      | .ok ledger => { state.follow (.delete env job) [] with ledger }
      | .error errorCode =>
        state.follow (.delete env job) [.defer env job.outboxEventId errorCode]
    else state
  | .retry env eventId errorCode =>
    if .defer env eventId errorCode ∈ state.tasks then
      { state.follow (.defer env eventId errorCode) [] with
        ledger := { state.ledger with
          events := (scheduleRetry state.ledger.events env eventId errorCode now).1 } }
    else state
  | .abort task errorCode =>
    if task ∈ state.tasks then state.follow task (recovery errorCode task) else state
  | .crash task => { state with tasks := state.tasks.erase task }

def step (state : WorkerState) (label : Step) : WorkerState :=
  perform state label.now label.action

def opening : WorkerState where
  ledger := { events := Table.empty, notifications := Table.empty, attempts := Table.empty }
  jobs := []
  tasks := []

-- An instance with the default settings, and a notification whose first attempts are all lost.
namespace Sample

def environment : WorkerEnvironment where
  instanceId := 1
  batchSize := 25
  leaseMilliseconds := 30000
  publishedLeaseMilliseconds := 900000
  retryBaseMilliseconds := 1000
  retryMaximumMilliseconds := 300000
  notificationAdapter := .smtpWebhook
  smsEnabled := false

def notification : Notification where
  id := 1
  channel := .email
  status := .queued
  scheduledAt := 0

def claimedEvent : OutboxEvent :=
  { dispatchEvent 1 1 8 0 with
    status := .leased
    leaseOwner := some 1
    leaseExpiresAt := some 240000
    attemptCount := 8 }

def work : NotificationWork where
  outboxEventId := 1
  notificationId := 1
  attemptId := 1
  attemptNumber := 1
  provider := .smtp
  channel := .email

def polls (times : List Int) : List Step :=
  times.map fun now => ⟨now, .poll environment⟩

def lastAttempt : List Step :=
  ⟨0, .notify 1 notification 8⟩ ::
    polls [0, 30000, 60000, 90000, 120000, 150000, 180000, 210000]

def sending : List Step :=
  lastAttempt ++ [⟨210001, .publish environment claimedEvent⟩, ⟨210002, .mark environment 1⟩,
    ⟨210003, .deliver environment (jobOf claimedEvent) 1 (.ok 0)⟩]

def reached (labels : List Step) : WorkerState := Runs.run step opening labels

end Sample

end VapeCommerce.Worker.Dispatch
