import VapeCommerce.Worker.Processor

set_option autoImplicit false

-- What each transaction of the worker can have done to its event and its notification.
namespace VapeCommerce.Worker.Transactions

open VapeCommerce.Lib VapeCommerce.Lib.Outcome VapeCommerce.Schema
open VapeCommerce.Worker.Outbox VapeCommerce.Worker.Processor

-- The notification a dispatch event is about.
def target (event : OutboxEvent) : Option Id :=
  match event.eventType, event.payload with
  | .notificationDispatch, .notificationDispatch notificationId => some notificationId
  | _, _ => none

theorem target_none {event : OutboxEvent} (other : event.eventType ≠ .notificationDispatch) :
    target event = none := by
  unfold target
  cases type : event.eventType <;> simp_all

section Repository

variable {env : WorkerEnvironment} {now : Int}

-- The event a claim leaves behind, by the batch it chose.
def claimed (ids : List Id) (env : WorkerEnvironment) (now : Int) (event : OutboxEvent) : OutboxEvent :=
  Table.rewrite (fun row => decide (row.id ∈ ids)) (lease env now)
    (Table.rewrite exhausted sweep event)

theorem claimAvailable_find? (events : Events) (env : WorkerEnvironment) (now : Int) (id : Id) :
    (claimAvailable events env now).1.find? id = (events.find? id).map
      (claimed (claimedIds (events.update exhausted sweep sweep_id) env now) env now) := by
  simp only [claimAvailable]
  rw [Table.find?_update, Table.find?_update, Option.map_map]
  rfl

theorem claimedIds_claimable {events : Events} {env : WorkerEnvironment} {now : Int} {id : Id}
    {event : OutboxEvent} (found : events.find? id = some event)
    (chosen : id ∈ claimedIds (events.update exhausted sweep sweep_id) env now) :
    claimable now (Table.rewrite exhausted sweep event) = true := by
  obtain ⟨row, member, same⟩ := List.mem_map.1 chosen
  have sorted := List.mem_of_mem_take member
  rw [List.mem_insertionSort] at sorted
  obtain ⟨present, hit⟩ := List.mem_filter.1 sorted
  have swept := Table.find?_update events exhausted sweep sweep_id id
  rw [found, (Table.find?_iff _ _ _).2 ⟨present, same⟩] at swept
  rwa [Option.some.inj swept] at hit

theorem claimAvailable_events (events : Events) (env : WorkerEnvironment) (now : Int) :
    exists ids : List Id,
      (forall id, (claimAvailable events env now).1.find? id =
        (events.find? id).map (claimed ids env now)) /\
      forall id event, events.find? id = some event -> id ∈ ids ->
        claimable now (Table.rewrite exhausted sweep event) = true :=
  ⟨_, claimAvailable_find? events env now, fun _ _ => claimedIds_claimable⟩

theorem sweep_unclaimable (now : Int) (event : OutboxEvent) : claimable now (sweep event) = false := by
  simp [claimable, sweep, OutboxEvent.leased?]

theorem claimed_chosen {ids : List Id} {id : Id} {event : OutboxEvent} (here : event.id = id)
    (chosen : id ∈ ids) (claims : claimable now (Table.rewrite exhausted sweep event) = true) :
    exhausted event = false /\ claimable now event = true /\
      claimed ids env now event = lease env now event := by
  cases spent : exhausted event with
  | true =>
    rw [Table.rewrite_chosen spent, sweep_unclaimable] at claims
    exact absurd claims (by simp)
  | false =>
    rw [Table.rewrite_other spent] at claims
    refine ⟨rfl, claims, ?_⟩
    unfold claimed
    rw [Table.rewrite_other spent]
    exact Table.rewrite_chosen (by simp [here, chosen])

theorem claimed_unchosen {ids : List Id} {id : Id} {event : OutboxEvent} (here : event.id = id)
    (unchosen : Not (id ∈ ids)) :
    claimed ids env now event = Table.rewrite exhausted sweep event := by
  have elsewhere : (Table.rewrite exhausted sweep event).id = id := by
    rw [Table.rewrite_field sweep_id, here]
  exact Table.rewrite_other (by simp [elsewhere, unchosen])

-- A claim leaves an event alone, sweeps it into the dead letters or leases it.
theorem claimed_cases (ids : List Id) {id : Id} {event : OutboxEvent} (here : event.id = id)
    (chosen : id ∈ ids -> claimable now (Table.rewrite exhausted sweep event) = true) :
    (exhausted event = false /\ claimed ids env now event = event) \/
      (exhausted event = true /\ claimed ids env now event = sweep event) \/
        (exhausted event = false /\ claimable now event = true /\
          claimed ids env now event = lease env now event) := by
  by_cases member : id ∈ ids
  next => exact .inr (.inr (claimed_chosen here member (chosen member)))
  next =>
    rw [claimed_unchosen here member]
    cases spent : exhausted event with
    | true => exact .inr (.inl ⟨rfl, Table.rewrite_chosen spent⟩)
    | false => exact .inl ⟨rfl, Table.rewrite_other spent⟩

theorem claimable_open {event : OutboxEvent} (hit : claimable now event = true) :
    terminal event.status = false := by
  simp only [claimable, OutboxEvent.leased?, Bool.and_eq_true, Bool.or_eq_true, beq_iff_eq] at hit
  cases status : event.status <;> simp_all [terminal]

theorem exhausted_open {event : OutboxEvent} (hit : exhausted event = true) :
    terminal event.status = false := by
  simp only [exhausted, Bool.and_eq_true, Bool.or_eq_true, beq_iff_eq] at hit
  cases status : event.status <;> simp_all [terminal]

end Repository

section Handlers

-- The event a handler has locked and found open.
structure Handled (ledger : Ledger) (job : OutboxJobData) (event : OutboxEvent) : Prop where
  found : ledger.events.find? job.outboxEventId = some event
  opened : terminal event.status = false
  eventType : event.eventType = job.eventType

-- The notification a dispatch handler has locked beside its event.
structure Dispatched (ledger : Ledger) (job : OutboxJobData) (event : OutboxEvent)
    (notification : Notification) : Prop extends Handled ledger job event where
  aimed : target event = some notification.id
  present : ledger.notifications.find? notification.id = some notification

def Claim.idle {Work : Type} : Claim Work -> Prop
  | .perform _ => False
  | _ => True

inductive NotificationClaimed (ledger : Ledger) (env : WorkerEnvironment) (job : OutboxJobData)
    (now : Int) : Ledger -> Claim NotificationWork -> Prop where
  | closed (claim : Claim NotificationWork) (idle : Claim.idle claim) :
      NotificationClaimed ledger env job now ledger claim
  | echoed (event : OutboxEvent) (notification : Notification)
      (dispatched : Dispatched ledger job event notification)
      (concluded : notification.status = .delivered \/ notification.status = .cancelled) :
      NotificationClaimed ledger env job now (ledger.setEvent event.id (finish none) (finish_id none))
        .alreadyProcessed
  | followed (event : OutboxEvent) (notification : Notification)
      (dispatched : Dispatched ledger job event notification)
      (dead : notification.status = .deadLetter) :
      NotificationClaimed ledger env job now
        (ledger.setEvent event.id (bury "NOTIFICATION_DEAD_LETTER") (bury_id _)) .terminal
  | skipped (event : OutboxEvent) (notification : Notification)
      (dispatched : Dispatched ledger job event notification)
      (attempts : Table NotificationDeliveryAttempt.id) :
      NotificationClaimed ledger env job now
        (((ledger.withAttempts attempts).setNotification notification.id .cancelled).setEvent event.id
          (finish (some "NOTIFICATION_CHANNEL_DISABLED")) (finish_id _)) .skippedDisabled
  | opened (event : OutboxEvent) (notification : Notification)
      (dispatched : Dispatched ledger job event notification)
      (undone : Not (notification.status = .delivered \/ notification.status = .cancelled))
      (undead : notification.status ≠ .deadLetter)
      (attempts : Table NotificationDeliveryAttempt.id) (work : NotificationWork)
      (eventId : work.outboxEventId = event.id)
      (notificationId : work.notificationId = notification.id) :
      NotificationClaimed ledger env job now
        (((ledger.withAttempts attempts).setNotification notification.id .processing).setEvent event.id
          (start env now) (start_id env now)) (.perform work)

theorem parsed_payload {eventType : EventType} {eventVersion : Nat} {payload parsed : Payload}
    (ran : parseEventPayload eventType eventVersion payload = .ok parsed) : parsed = payload := by
  unfold parseEventPayload at ran
  cases eventType <;> cases payload <;> simp only at ran <;>
    (try split_ifs at ran) <;> simp_all

theorem parsed_dispatch {eventType : EventType} {eventVersion : Nat} {payload : Payload}
    {notificationId : Id}
    (ran : parseEventPayload eventType eventVersion payload = .ok (.notificationDispatch notificationId)) :
    eventType = .notificationDispatch := by
  unfold parseEventPayload at ran
  cases eventType <;> cases payload <;> simp only at ran <;>
    (try split_ifs at ran) <;> simp_all

theorem dispatchTarget_ok {event : OutboxEvent} {parsed : Payload} {notificationId : Id}
    (ran : dispatchTarget event parsed = .ok notificationId) :
    parsed = .notificationDispatch notificationId := by
  unfold dispatchTarget at ran
  cases parsed with
  | notificationDispatch other =>
    simp only at ran
    split_ifs at ran
    simp_all
  | reservationExpiry cutoff batchSize => simp at ran
  | mediaObject object => simp at ran
  | mediaObjects objects => simp at ran
  | invalid => simp at ran

theorem aimed_of_parsed {event : OutboxEvent} {parsed : Payload} {notificationId : Id}
    (parse : parseEventPayload event.eventType event.eventVersion event.payload = .ok parsed)
    (ran : dispatchTarget event parsed = .ok notificationId) : target event = some notificationId := by
  have payload := dispatchTarget_ok ran
  subst payload
  simp [target, parsed_dispatch parse, <- parsed_payload parse]

theorem open_of_statuses {status : OutboxEventStatus} (unfinished : status ≠ .processed)
    (unended : Not (status = .deadLetter \/ status = .cancelled)) : terminal status = false := by
  cases status <;> simp_all [terminal]

theorem claimNotification_ok {ledger next : Ledger} {env : WorkerEnvironment} {job : OutboxJobData}
    {attemptId : Id} {now : Int} {claim : Claim NotificationWork}
    (ran : claimNotification ledger env job attemptId now = .ok (next, claim)) :
    NotificationClaimed ledger env job now next claim := by
  simp only [claimNotification, lockEvent, lockNotification, assertJobMatches, openAttempt, bind_ok,
    orThrow_ok] at ran
  obtain ⟨event, found, ran⟩ := ran
  split_ifs at ran with done ended
  next =>
    obtain ⟨rfl, rfl⟩ := Prod.mk.inj (Except.ok.inj ran)
    exact .closed _ trivial
  next =>
    obtain ⟨rfl, rfl⟩ := Prod.mk.inj (Except.ok.inj ran)
    exact .closed _ trivial
  simp only [bind_ok, throwIf_ok, exists_const, orThrow_ok] at ran
  obtain ⟨matching, parsed, parse, notificationId, aims, notification, present, ran⟩ := ran
  have keyed : notification.id = notificationId := Table.find?_key present
  subst keyed
  have dispatched : Dispatched ledger job event notification := {
    found
    opened := open_of_statuses done ended
    eventType := by simp only [not_or, not_not] at matching; exact matching.1
    aimed := aimed_of_parsed parse aims
    present }
  split_ifs at ran with concluded dead disabled
  next =>
    obtain ⟨rfl, rfl⟩ := Prod.mk.inj (Except.ok.inj ran)
    exact .echoed event notification dispatched concluded
  next =>
    obtain ⟨rfl, rfl⟩ := Prod.mk.inj (Except.ok.inj ran)
    exact .followed event notification dispatched dead
  next =>
    simp only [bind_ok, orThrow_ok, pure_ok] at ran
    obtain ⟨opened, ⟨attempts, -, rfl⟩, ran⟩ := ran
    obtain ⟨rfl, rfl⟩ := Prod.mk.inj ran
    exact .skipped event notification dispatched attempts
  next =>
    simp only [bind_ok, orThrow_ok, pure_ok] at ran
    obtain ⟨opened, ⟨attempts, -, rfl⟩, ran⟩ := ran
    obtain ⟨rfl, rfl⟩ := Prod.mk.inj ran
    exact .opened event notification dispatched concluded dead attempts _ rfl rfl

-- A handler's first transaction on an event of any other kind.
inductive EventHandled (ledger : Ledger) (job : OutboxJobData) (change : OutboxEvent -> OutboxEvent)
    (keeps : forall event, (change event).id = event.id) : Ledger -> Prop where
  | closed : EventHandled ledger job change keeps ledger
  | changed (event : OutboxEvent) (handled : Handled ledger job event) :
      EventHandled ledger job change keeps (ledger.setEvent event.id change keeps)

theorem claimMediaDeletion_ok {ledger next : Ledger} {env : WorkerEnvironment} {job : OutboxJobData}
    {now : Int} {claim : Claim (List MediaObjectDeletion)}
    (ran : claimMediaDeletion ledger env job now = .ok (next, claim)) :
    EventHandled ledger job (start env now) (start_id env now) next := by
  simp only [claimMediaDeletion, lockEvent, assertJobMatches, bind_ok, orThrow_ok] at ran
  obtain ⟨event, found, ran⟩ := ran
  split_ifs at ran with done ended
  next =>
    obtain ⟨rfl, -⟩ := Prod.mk.inj (Except.ok.inj ran)
    exact .closed
  next =>
    obtain ⟨rfl, -⟩ := Prod.mk.inj (Except.ok.inj ran)
    exact .closed
  simp only [bind_ok, throwIf_ok, exists_const, pure_ok] at ran
  obtain ⟨matching, parsed, -, objects, -, -, ran⟩ := ran
  obtain ⟨rfl, -⟩ := Prod.mk.inj ran
  simp only [not_or, not_not] at matching
  exact .changed event ⟨found, open_of_statuses done ended, matching.1⟩

theorem processTransaction_ok {ledger next : Ledger} {job : OutboxJobData}
    {expired : Except String Nat} {claim : Claim Nat}
    (ran : processTransaction ledger job expired = .ok (next, claim)) :
    EventHandled ledger job (finish none) (finish_id none) next := by
  simp only [processTransaction, lockEvent, assertJobMatches, bind_ok, orThrow_ok] at ran
  obtain ⟨event, found, ran⟩ := ran
  split_ifs at ran with done ended
  next =>
    obtain ⟨rfl, -⟩ := Prod.mk.inj (Except.ok.inj ran)
    exact .closed
  next =>
    obtain ⟨rfl, -⟩ := Prod.mk.inj (Except.ok.inj ran)
    exact .closed
  simp only [bind_ok, throwIf_ok, exists_const, pure_ok] at ran
  obtain ⟨matching, parsed, -, affectedCount, -, ran⟩ := ran
  obtain ⟨rfl, -⟩ := Prod.mk.inj ran
  simp only [not_or, not_not] at matching
  exact .changed event ⟨found, open_of_statuses done ended, matching.1⟩

theorem completeMediaDeletion_ok {ledger next : Ledger} {job : OutboxJobData} :
    completeMediaDeletion ledger job = .ok next <->
      exists event, ledger.events.find? job.outboxEventId = some event /\
        ((event.status = .processed /\ next = ledger) \/
          (event.status ≠ .processed /\ event.eventType = job.eventType /\
            event.eventVersion = job.eventVersion /\
              next = ledger.setEvent job.outboxEventId (finish none) (finish_id none))) := by
  simp only [completeMediaDeletion, lockEvent, assertJobMatches, bind_ok, orThrow_ok]
  constructor
  next =>
    rintro ⟨event, found, ran⟩
    split_ifs at ran with done
    next => exact ⟨event, found, .inl ⟨done, (Except.ok.inj ran).symm⟩⟩
    next =>
      simp only [bind_ok, throwIf_ok, exists_const, pure_ok, not_or, not_not] at ran
      exact ⟨event, found, .inr ⟨done, ran.1.1, ran.1.2, ran.2.symm⟩⟩
  next =>
    rintro ⟨event, found, ⟨done, rfl⟩ | ⟨undone, type, version, rfl⟩⟩
    next => exact ⟨event, found, by simp [done]⟩
    next => exact ⟨event, found, by simp [undone, type, version]⟩

-- The attempt row a result is written to, while it is still open.
def attemptOpen (ledger : Ledger) (work : NotificationWork) : Prop :=
  ledger.attempts.count (fun attempt => ofWork work attempt && attempt.status == .processing) = 1

def concluded (notification : Notification) : Prop :=
  notification.status = .delivered \/ notification.status = .cancelled

theorem closeOpenAttempt_ok {ledger next : Ledger} {work : NotificationWork}
    {status : NotificationStatus} {errorCode : Option String} :
    closeOpenAttempt ledger work status errorCode = .ok next <->
      attemptOpen ledger work /\
        next = closeAttempts ledger
          (fun attempt => ofWork work attempt && attempt.status == .processing) status errorCode := by
  simp only [closeOpenAttempt, bind_ok, throwIf_ok, not_not, pure_ok, exists_const, attemptOpen]
  exact and_congr_right fun _ => eq_comm

inductive DeliveryRecorded (ledger : Ledger) (work : NotificationWork) (event : OutboxEvent)
    (notification : Notification) : Ledger -> Prop where
  | again (done : concluded notification) (attempts : Table NotificationDeliveryAttempt.id) :
      DeliveryRecorded ledger work event notification
        ((ledger.withAttempts attempts).setEvent event.id (finish none) (finish_id none))
  | first (undone : Not (concluded notification)) (attempts : Table NotificationDeliveryAttempt.id) :
      DeliveryRecorded ledger work event notification
        (((ledger.setNotification work.notificationId .delivered).withAttempts attempts).setEvent
          event.id (finish none) (finish_id none))

-- When the provider's answer is recorded.
structure Deliverable (ledger : Ledger) (work : NotificationWork) (delivery : NotificationDeliveryResult)
    (event : OutboxEvent) (notification : Notification) : Prop where
  provider : delivery.provider = work.provider
  messageId : printable delivery.providerMessageId = true
  found : ledger.events.find? work.outboxEventId = some event
  present : ledger.notifications.find? work.notificationId = some notification
  writable : concluded notification \/ attemptOpen ledger work

theorem finalizeNotificationSuccess_ok {ledger next : Ledger} {work : NotificationWork}
    {delivery : NotificationDeliveryResult}
    (ran : finalizeNotificationSuccess ledger work delivery = .ok next) :
    exists event notification, Deliverable ledger work delivery event notification /\
      DeliveryRecorded ledger work event notification next := by
  simp only [finalizeNotificationSuccess, lockEvent, lockNotification, bind_ok, throwIf_ok, orThrow_ok,
    exists_const, not_not, Bool.not_eq_false, pure_ok] at ran
  obtain ⟨provider, messageId, event, found, notification, present, closed, closes, rfl⟩ := ran
  exists event, notification
  cases status : notification.status
  case cancelled =>
    simp only [status, recordDelivery, Except.ok.injEq] at closes
    exact ⟨⟨provider, messageId, found, present, .inl (.inr status)⟩,
      closes ▸ .again (.inr status) _⟩
  case delivered =>
    simp only [status, recordDelivery, Except.ok.injEq] at closes
    exact ⟨⟨provider, messageId, found, present, .inl (.inl status)⟩,
      closes ▸ .again (.inl status) _⟩
  all_goals
    simp only [status, recordDelivery, closeOpenAttempt_ok] at closes
    have undone : Not (concluded notification) := by simp [concluded, status]
    exact ⟨⟨provider, messageId, found, present, .inr closes.1⟩, closes.2 ▸ .first undone _⟩

theorem recordDelivery_writes {ledger : Ledger} {work : NotificationWork} {notification : Notification}
    (writable : concluded notification \/ attemptOpen ledger work) :
    exists closed, recordDelivery ledger work notification.status = .ok closed := by
  cases status : notification.status
  case cancelled => exact ⟨_, rfl⟩
  case delivered => exact ⟨_, rfl⟩
  all_goals
    have undone : Not (concluded notification) := by simp [concluded, status]
    exact ⟨_, closeOpenAttempt_ok.2 ⟨writable.resolve_left undone, rfl⟩⟩

theorem finalizeNotificationSuccess_records {ledger : Ledger} {work : NotificationWork}
    {delivery : NotificationDeliveryResult} {event : OutboxEvent} {notification : Notification}
    (deliverable : Deliverable ledger work delivery event notification) :
    exists next, finalizeNotificationSuccess ledger work delivery = .ok next := by
  obtain ⟨closed, closes⟩ := recordDelivery_writes deliverable.writable
  simp only [finalizeNotificationSuccess, lockEvent, lockNotification, bind_ok, throwIf_ok, orThrow_ok,
    exists_const, not_not, Bool.not_eq_false, pure_ok]
  exact ⟨_, deliverable.provider, deliverable.messageId, event, deliverable.found, notification,
    deliverable.present, closed, closes, rfl⟩

inductive FailureRecorded (ledger : Ledger) (env : WorkerEnvironment) (work : NotificationWork)
    (event : OutboxEvent) (notification : Notification) (errorCode : String) (now : Int) :
    Ledger -> Prop where
  | ended (ended : terminal event.status = true \/ concluded notification)
      (attempts : Table NotificationDeliveryAttempt.id) :
      FailureRecorded ledger env work event notification errorCode now (ledger.withAttempts attempts)
  | repaired (delivered : notification.status = .delivered) (unfinished : event.status ≠ .processed)
      (attempts : Table NotificationDeliveryAttempt.id) :
      FailureRecorded ledger env work event notification errorCode now
        ((ledger.withAttempts attempts).setEvent event.id (finish none) (finish_id none))
  | lost (opened : terminal event.status = false) (undone : Not (concluded notification))
      (spent : event.maxAttempts <= event.attemptCount)
      (attempts : Table NotificationDeliveryAttempt.id) :
      FailureRecorded ledger env work event notification errorCode now
        (((ledger.withAttempts attempts).setNotification work.notificationId .deadLetter).setEvent
          event.id (bury errorCode) (bury_id errorCode))
  | failed (opened : terminal event.status = false) (undone : Not (concluded notification))
      (attempts : Table NotificationDeliveryAttempt.id) :
      FailureRecorded ledger env work event notification errorCode now
        (((ledger.withAttempts attempts).setNotification work.notificationId .failed).setEvent
          event.id (delay (now + retryDelay env event) errorCode) (delay_id _ errorCode))

theorem finalizeNotificationFailure_ok {ledger next : Ledger} {env : WorkerEnvironment}
    {work : NotificationWork} {errorCode : String} {now : Int} {outcome : RetryOutcome}
    (ran : finalizeNotificationFailure ledger env work errorCode now = .ok (next, outcome)) :
    exists event notification, ledger.events.find? work.outboxEventId = some event /\
      ledger.notifications.find? work.notificationId = some notification /\
        FailureRecorded ledger env work event notification errorCode now next := by
  simp only [finalizeNotificationFailure, lockEvent, lockNotification, bind_ok, orThrow_ok] at ran
  obtain ⟨event, found, notification, present, ran⟩ := ran
  refine ⟨event, notification, found, present, ?_⟩
  split_ifs at ran with ended repairs spent
  next =>
    obtain ⟨rfl, -⟩ := Prod.mk.inj (Except.ok.inj ran)
    exact .repaired repairs.1 repairs.2 _
  next =>
    obtain ⟨rfl, -⟩ := Prod.mk.inj (Except.ok.inj ran)
    exact .ended ended _
  all_goals
    simp only [not_or, Bool.not_eq_true] at ended
    have undone : Not (concluded notification) := by simp [concluded, ended.2.1, ended.2.2]
    simp only [bind_ok, closeOpenAttempt_ok, pure_ok] at ran
    obtain ⟨closed, ⟨-, rfl⟩, ran⟩ := ran
    obtain ⟨rfl, -⟩ := Prod.mk.inj ran
  next => exact .lost ended.1 undone spent _
  next => exact .failed ended.1 undone _

end Handlers

end VapeCommerce.Worker.Transactions
