import VapeCommerce.Worker.Consistency

set_option autoImplicit false

-- When an event and its notification are given up together.
namespace VapeCommerce.Worker.DeadLetters

open VapeCommerce.Lib VapeCommerce.Lib.Outcome VapeCommerce.Schema
open VapeCommerce.Worker.Outbox VapeCommerce.Worker.Processor VapeCommerce.Worker.Dispatch
open VapeCommerce.Worker.Transactions VapeCommerce.Worker.Consistency

-- A dispatch event and its notification are given up together, so that a notification still to be
-- delivered has an event that is still to be tried.
structure DeadTogether (ledger : Ledger) : Prop where
  together : forall id event notification, ledger.events.find? id = some event ->
    target event = some notification.id ->
      ledger.notifications.find? notification.id = some notification ->
        (event.status = .deadLetter <-> notification.status = .deadLetter)
  retried : forall notification, ledger.notifications.find? notification.id = some notification ->
    notification.status = .queued \/ notification.status = .processing \/
        notification.status = .failed -> exists id event, ledger.events.find? id = some event /\
      target event = some notification.id /\ terminal event.status = false

-- The half of the law that a step can break.
def Mourned (ledger : Ledger) : Prop :=
  forall id event notification, ledger.events.find? id = some event ->
    target event = some notification.id ->
      ledger.notifications.find? notification.id = some notification ->
        event.status = .deadLetter -> notification.status = .deadLetter

-- The step gives up a dispatch event by the attempt count alone: in the sweep of a poll, or in a
-- retry scheduled outside the notification's own result.
def BuriesAlone (state : WorkerState) (label : Step) : Prop :=
  (exists env id event, label.action = .poll env /\ state.ledger.events.find? id = some event /\
    target event ≠ none /\ exhausted event = true) \/
    exists env eventId errorCode event, label.action = .retry env eventId errorCode /\
      .defer env eventId errorCode ∈ state.tasks /\
        state.ledger.events.find? eventId = some event /\ target event ≠ none /\
          terminal event.status = false /\ event.maxAttempts <= event.attemptCount

theorem deadTogether_iff {ledger : Ledger} (old : Consistent ledger) :
    DeadTogether ledger <-> Mourned ledger := by
  constructor
  next =>
    exact fun law id event notification found aimed present dead =>
      (law.together id event notification found aimed present).1 dead
  next =>
    intro mourned
    constructor
    case together =>
      intro id event notification found aimed present
      obtain ⟨other, here, pair⟩ := old.paired id event notification.id found aimed
      obtain rfl := Option.some.inj (present.symm.trans here)
      exact ⟨mourned id event notification found aimed present, pair.dead⟩
    case retried =>
      intro notification present waiting
      obtain ⟨id, event, found, aimed, -⟩ := old.listed notification.id notification present
      refine ⟨id, event, found, aimed, ?_⟩
      obtain ⟨other, here, pair⟩ := old.paired id event notification.id found aimed
      obtain rfl := Option.some.inj (present.symm.trans here)
      have alive : event.status ≠ .deadLetter := fun dead => by
        simp [mourned id event notification found aimed present dead] at waiting
      have unprocessed : event.status ≠ .processed := fun processed => by
        have done := pair.done.1 processed
        rcases waiting with queued | processing | failed <;> simp_all
      have uncancelled := (old.sound id event found).uncancelled
      cases status : event.status <;> simp_all [terminal]

variable {before after : Ledger}

theorem Mourned.same (old : Mourned before) (events : after.events = before.events)
    (notifications : after.notifications = before.notifications) : Mourned after := by
  intro id event notification found aimed present
  rw [events] at found
  rw [notifications] at present
  exact old id event notification found aimed present

theorem Mourned.rewritten (old : Mourned before) {change : OutboxEvent -> OutboxEvent}
    (events : forall id, after.events.find? id = (before.events.find? id).map change)
    (notifications : after.notifications = before.notifications)
    (same : forall event, Same event (change event))
    (alive : forall id event, before.events.find? id = some event -> target event ≠ none ->
      (change event).status = .deadLetter -> event.status = .deadLetter) : Mourned after := by
  intro id event notification found aimed present dead
  rw [events] at found
  obtain ⟨row, here, rfl⟩ := Option.map_eq_some_iff.1 found
  rw [(same row).target] at aimed
  rw [notifications] at present
  exact old id row notification here aimed present (alive id row here (by simp [aimed]) dead)

-- One event rewritten to a status other than dead letter, whatever its notification becomes.
theorem Mourned.set (old : Mourned before) {id : Id} {event : OutboxEvent}
    (found : before.events.find? id = some event) {change : OutboxEvent -> OutboxEvent}
    (keeps : forall row, (change row).id = row.id)
    (events : after.events = before.events.modify id change keeps)
    (notifications : after.notifications = before.notifications)
    (same : forall row, Same row (change row))
    (alive : target event ≠ none -> (change event).status ≠ .deadLetter) : Mourned after := by
  apply @Mourned.rewritten before after old (Table.rewrite (fun row => decide (row.id = id)) change)
  case events => intro other; rw [events, Table.modify, Table.find?_update]
  case notifications => exact notifications
  case same => exact Same.rewrite same
  case alive =>
    intro other row here aimed dead
    by_cases hit : row.id = id
    next =>
      obtain rfl := found_at found here hit
      rw [rewrite_at id change hit] at dead
      exact absurd dead (alive aimed)
    next => rwa [rewrite_elsewhere id change hit] at dead

theorem Mourned.setBoth (old : Mourned before) (consistent : Consistent before) {id notificationId : Id}
    {event : OutboxEvent} (found : before.events.find? id = some event)
    (aimed : target event = some notificationId) {change : OutboxEvent -> OutboxEvent}
    (keeps : forall row, (change row).id = row.id) {status : NotificationStatus}
    (events : after.events = before.events.modify id change keeps)
    (notifications : after.notifications =
      before.notifications.modify notificationId (Notification.turned status) (turned_id status))
    (same : forall row, Same row (change row))
    (together : (change event).status = .deadLetter -> status = .deadLetter) : Mourned after := by
  intro other row notification here aims present dead
  rw [events, Table.modify, Table.find?_update] at here
  obtain ⟨source, there, rfl⟩ := Option.map_eq_some_iff.1 here
  rw [((Same.rewrite same) source).target] at aims
  rw [notifications, Table.find?_modify] at present
  by_cases hit : source.id = id
  next =>
    obtain rfl := found_at found there hit
    rw [rewrite_at id change hit] at dead
    rw [if_pos (Option.some.inj (aims.symm.trans aimed))] at present
    obtain ⟨origin, -, rfl⟩ := Option.map_eq_some_iff.1 present
    exact together dead
  next =>
    rw [rewrite_elsewhere id change hit] at dead
    have elsewhere : notification.id ≠ notificationId := by
      intro same'
      have meets := consistent.single other id source event notificationId there found
        (same' ▸ aims) aimed
      exact hit ((Table.find?_key there).trans meets)
    rw [if_neg elsewhere] at present
    exact old other source notification there aims present dead

theorem Mourned.inserted (old : Mourned before) (consistent : Consistent before) {events : Events}
    {event : OutboxEvent} (inserted : before.events.insert? event = some events)
    (events' : after.events = events) (alive : event.status ≠ .deadLetter)
    (notifications : forall id row, before.notifications.find? id = some row ->
      after.notifications.find? id = some row) : Mourned after := by
  intro id row notification found aimed present dead
  rw [events'] at found
  cases find?_inserted inserted found with
  | inl earlier =>
    obtain ⟨other, here, -⟩ := consistent.paired id row notification.id earlier aimed
    obtain rfl := Option.some.inj (present.symm.trans (notifications _ other here))
    exact old id row notification earlier aimed here dead
  | inr added => exact absurd (added ▸ dead) alive

theorem upsertEvent_mourned (old : Mourned before) (consistent : Consistent before) {event : OutboxEvent}
    (alive : event.status ≠ .deadLetter) : Mourned (upsertEvent before event) := by
  unfold upsertEvent
  split
  next => exact old
  next =>
    cases inserted : before.events.insert? event with
    | none => exact old
    | some events => exact old.inserted consistent inserted rfl alive fun _ _ found => found

theorem notify_mourned (old : Mourned before) (consistent : Consistent before) {eventId : Id}
    {notification : Notification} {maxAttempts : Nat}
    (ran : notify before eventId notification maxAttempts = some after) : Mourned after := by
  simp only [notify, Option.bind_eq_bind, Option.bind_eq_some_iff, Option.guard_eq_some',
    Option.pure_def, Option.some.injEq] at ran
  obtain ⟨-, -, notifications, listed, events, inserted, rfl⟩ := ran
  apply old.inserted consistent inserted rfl (by simp [dispatchEvent, newEvent])
  intro id row found
  have fresh := (Table.insert?_rows listed).2 row (Table.find?_mem found)
  rw [Table.find?_insert? listed, if_neg, found]
  exact fun same => fresh ((Table.find?_key found).trans same.symm)

theorem claimAvailable_mourned (old : Mourned before) (env : WorkerEnvironment) (now : Int)
    (spared : forall id event, before.events.find? id = some event -> target event ≠ none ->
      exhausted event = false) :
    Mourned { before with events := (claimAvailable before.events env now).1 } := by
  obtain ⟨ids, events, chosen⟩ := claimAvailable_events before.events env now
  apply old.rewritten events
  case notifications => rfl
  case same => exact fun event => (Same.rewrite same_sweep event).trans (Same.rewrite (same_lease env now) _)
  case alive =>
    intro id event found aimed dead
    obtain same | swept | leased :=
      @claimed_cases env now ids id event (Table.find?_key found) (chosen id event found)
    next => rwa [same.2] at dead
    next => simp [spared id event found aimed] at swept
    next => simp [leased.2.2, lease] at dead

theorem markPublished_mourned (old : Mourned before) (env : WorkerEnvironment) (eventId : Id) (now : Int) :
    Mourned { before with events := markPublished before.events env eventId now } := by
  apply old.rewritten fun id => Table.find?_update before.events _ _ (publish_id env now) id
  case notifications => rfl
  case same => exact Same.rewrite (same_publish env now)
  case alive =>
    intro id event found aimed dead
    unfold Table.rewrite at dead
    split at dead
    next => simp [publish] at dead
    next => exact dead

variable {env : WorkerEnvironment} {job : OutboxJobData} {now : Int}

theorem notificationClaimed_mourned (old : Mourned before) (consistent : Consistent before)
    {claim : Claim NotificationWork} (claims : NotificationClaimed before env job now after claim) :
    Mourned after := by
  cases claims with
  | closed claim idle => exact old
  | echoed event notification dispatched isOver =>
    have found := dispatched.found
    rw [<- Table.find?_key found] at found
    exact old.set found (finish_id none) rfl rfl (same_finish none) (by simp [finish])
  | followed event notification dispatched dead =>
    obtain ⟨other, present, pair⟩ := consistent.paired _ event _ dispatched.found dispatched.aimed
    obtain rfl := Option.some.inj (dispatched.present.symm.trans present)
    have opened := dispatched.opened
    simp [pair.dead dead, terminal] at opened
  | skipped event notification dispatched attempts =>
    have found := dispatched.found
    rw [<- Table.find?_key found] at found
    exact old.setBoth consistent found dispatched.aimed (finish_id _) rfl rfl (same_finish _)
      (by simp [finish])
  | opened event notification dispatched undone undead attempts work eventId notificationId =>
    have found := dispatched.found
    rw [<- Table.find?_key found] at found
    exact old.setBoth consistent found dispatched.aimed (start_id env now) rfl rfl (same_start env now)
      (by simp [start])

theorem eventHandled_mourned (old : Mourned before) {change : OutboxEvent -> OutboxEvent}
    {keeps : forall event, (change event).id = event.id} (same : forall event, Same event (change event))
    (alive : forall event, (change event).status ≠ .deadLetter)
    (handles : EventHandled before job change keeps after) : Mourned after := by
  cases handles with
  | closed => exact old
  | changed event handled =>
    have found := handled.found
    rw [<- Table.find?_key found] at found
    exact old.set found keeps rfl rfl same fun _ => alive event

theorem deliver_mourned {state : WorkerState} (old : Mourned state.ledger)
    (consistent : Consistent state.ledger) {attemptId : Id} {expired : Except String Nat}
    {tasks : List Task} (ran : deliver state env job attemptId expired now = .ok (after, tasks)) :
    Mourned after := by
  unfold deliver at ran
  cases type : job.eventType
  all_goals
    simp only [type, bind_ok, pure_ok] at ran
    obtain ⟨⟨next, claim⟩, claims, ran⟩ := ran
    obtain ⟨rfl, rfl⟩ := Prod.mk.inj ran
  case notificationDispatch =>
    exact notificationClaimed_mourned old consistent (claimNotification_ok claims)
  case mediaObjectDelete =>
    exact eventHandled_mourned old (same_start env now) (by simp [start]) (claimMediaDeletion_ok claims)
  case reservationExpiry =>
    exact eventHandled_mourned old (same_finish none) (by simp [finish]) (processTransaction_ok claims)
  case unsupported name =>
    exact eventHandled_mourned old (same_finish none) (by simp [finish]) (processTransaction_ok claims)

variable {work : NotificationWork} {event : OutboxEvent} {notification : Notification}

theorem deliveryRecorded_mourned (old : Mourned before) (consistent : Consistent before)
    (found : before.events.find? work.outboxEventId = some event)
    (aimed : target event = some work.notificationId)
    (records : DeliveryRecorded before work event notification after) : Mourned after := by
  rw [<- Table.find?_key found] at found
  cases records with
  | again isOver attempts =>
    exact old.set found (finish_id none) rfl rfl (same_finish none) (by simp [finish])
  | first undone attempts =>
    exact old.setBoth consistent found aimed (finish_id none) rfl rfl (same_finish none)
      (by simp [finish])

theorem failureRecorded_mourned (old : Mourned before) (consistent : Consistent before)
    {errorCode : String} (found : before.events.find? work.outboxEventId = some event)
    (aimed : target event = some work.notificationId)
    (records : FailureRecorded before env work event notification errorCode now after) :
    Mourned after := by
  rw [<- Table.find?_key found] at found
  cases records with
  | ended isEnded attempts => exact old.same rfl rfl
  | repaired delivered unfinished attempts =>
    exact old.set found (finish_id none) rfl rfl (same_finish none) (by simp [finish])
  | lost opened undone spent attempts =>
    exact old.setBoth consistent found aimed (bury_id errorCode) rfl rfl (same_bury errorCode)
      fun _ => rfl
  | failed opened undone attempts =>
    exact old.setBoth consistent found aimed (delay_id _ errorCode) rfl rfl (same_delay _ errorCode)
      (by simp [delay])

theorem scheduleRetry_mourned (old : Mourned before) {eventId : Id} (errorCode : String)
    (spared : forall event, before.events.find? eventId = some event -> target event ≠ none ->
      terminal event.status = false -> Not (event.maxAttempts <= event.attemptCount)) :
    Mourned { before with events := (scheduleRetry before.events env eventId errorCode now).1 } := by
  unfold scheduleRetry
  cases found : before.events.find? eventId with
  | none => exact old
  | some event =>
    have keyed : event.id = eventId := Table.find?_key found
    simp only
    split_ifs with ended spent
    next => exact old
    next =>
      have lost : target event ≠ none -> (bury errorCode event).status ≠ .deadLetter :=
        fun aimed => absurd spent (spared event found aimed (by simpa using ended))
      exact old.set (keyed ▸ found) (bury_id errorCode) rfl rfl (same_bury errorCode) lost
    next =>
      exact old.set (keyed ▸ found) (delay_id _ errorCode) rfl rfl (same_delay _ errorCode)
        (by simp [delay])

theorem step_mourned {state : WorkerState} (steady : Steady state) (old : Mourned state.ledger)
    {label : Step} (spared : Not (BuriesAlone state label)) :
    Mourned (step state label).ledger := by
  obtain ⟨now, action⟩ := label
  have consistent := steady.consistent
  unfold step perform
  cases action with
  | schedule eventId work maxAttempts =>
    exact upsertEvent_mourned old consistent (by cases work <;> simp [scheduledEvent, newEvent])
  | notify eventId notification maxAttempts =>
    cases ran : notify state.ledger eventId notification maxAttempts with
    | none => simpa [ran] using old
    | some next => simpa [ran] using notify_mourned old consistent ran
  | bridge eventId notificationId maxAttempts =>
    simp only [bridge]
    cases state.ledger.notifications.find? notificationId with
    | none => exact old
    | some notification =>
      simp only
      split_ifs
      next => exact upsertEvent_mourned old consistent (by simp [dispatchEvent, newEvent])
      next => exact old
  | poll env =>
    apply claimAvailable_mourned old env now
    intro id event found aimed
    cases spent : exhausted event with
    | false => rfl
    | true => exact absurd (.inl ⟨env, id, event, rfl, found, aimed, spent⟩) spared
  | publish env event =>
    simp only
    split_ifs
    next =>
      cases parseEventPayload event.eventType event.eventVersion event.payload with
      | error errorCode => exact old
      | ok parsed => exact old
    next => exact old
  | mark env eventId =>
    simp only
    split_ifs
    next => exact markPublished_mourned old env eventId now
    next => exact old
  | deliver env job attemptId expired =>
    simp only
    split_ifs
    next =>
      cases ran : deliver state env job attemptId expired now with
      | ok next => exact deliver_mourned old consistent ran
      | error errorCode => exact old
    next => exact old
  | refuse env job errorCode =>
    simp only
    split_ifs <;> exact old
  | sent env work delivery =>
    simp only
    split_ifs with pending
    next =>
      cases ran : finalizeNotificationSuccess state.ledger work delivery with
      | ok next =>
        obtain ⟨event, notification, deliverable, records⟩ := finalizeNotificationSuccess_ok ran
        obtain ⟨row, here, aimed⟩ := steady.placed _ pending
        obtain rfl := Option.some.inj (deliverable.found.symm.trans here)
        exact deliveryRecorded_mourned old consistent here aimed records
      | error errorCode => exact old
    next => exact old
  | settle env work errorCode =>
    simp only
    split_ifs with pending
    next =>
      cases ran : finalizeNotificationFailure state.ledger env work errorCode now with
      | ok result =>
        obtain ⟨next, outcome⟩ := result
        obtain ⟨event, notification, found, present, records⟩ := finalizeNotificationFailure_ok ran
        obtain ⟨row, here, aimed⟩ := steady.placed _ pending
        obtain rfl := Option.some.inj (found.symm.trans here)
        exact failureRecorded_mourned old consistent found aimed records
      | error code => exact old
    next => exact old
  | deleted env job =>
    simp only
    split_ifs with pending
    next =>
      cases ran : completeMediaDeletion state.ledger job with
      | ok next =>
        obtain ⟨event, found, ⟨-, rfl⟩ | ⟨undone, type, version, rfl⟩⟩ := completeMediaDeletion_ok.1 ran
        next => exact old
        next => exact old.set found (finish_id none) rfl rfl (same_finish none) (by simp [finish])
      | error errorCode => exact old
    next => exact old
  | retry env eventId errorCode =>
    simp only
    split_ifs with pending
    next =>
      apply scheduleRetry_mourned old errorCode
      intro event found aimed opened spent
      exact spared (.inr ⟨env, eventId, errorCode, event, rfl, pending, found, aimed, opened, spent⟩)
    next => exact old
  | abort task errorCode =>
    simp only
    split_ifs <;> exact old
  | crash task => exact old

-- Burying a dispatch event alone leaves its notification behind.
theorem buried_alone {state : WorkerState} (steady : Steady state)
    {label : Step} (buries : BuriesAlone state label) : Not (Mourned (step state label).ledger) := by
  obtain ⟨now, action⟩ := label
  have consistent := steady.consistent
  rcases buries with ⟨env, id, event, rfl, found, aimed, spent⟩ |
    ⟨env, eventId, errorCode, event, rfl, pending, found, aimed, opened, spent⟩
  next =>
    obtain ⟨notificationId, aims⟩ := Option.ne_none_iff_exists'.1 aimed
    obtain ⟨notification, present, pair⟩ := consistent.paired id event notificationId found aims
    have keyed := Table.find?_key present
    subst keyed
    obtain ⟨ids, events, chosen⟩ := claimAvailable_events state.ledger.events env now
    have after : (step state ⟨now, .poll env⟩).ledger.events.find? id = some (sweep event) := by
      change (claimAvailable state.ledger.events env now).1.find? id = _
      rw [events, found]
      obtain same | swept | leased :=
        @claimed_cases env now ids id event (Table.find?_key found) (chosen id event found)
      next => simp [spent] at same
      next => simp [swept.2]
      next => simp [spent] at leased
    intro mourned
    have dead := mourned id (sweep event) notification after ((same_sweep event).target ▸ aims) present rfl
    have opened := exhausted_open spent
    simp [pair.dead dead, terminal] at opened
  next =>
    obtain ⟨notificationId, aims⟩ := Option.ne_none_iff_exists'.1 aimed
    obtain ⟨notification, present, pair⟩ := consistent.paired eventId event notificationId found aims
    have keyed := Table.find?_key present
    subst keyed
    have same : event.id = eventId := Table.find?_key found
    have after : (step state ⟨now, .retry env eventId errorCode⟩).ledger.events.find? eventId =
        some (bury errorCode event) := by
      simp only [step, perform, if_pos pending, scheduleRetry, found, opened, Bool.false_eq_true,
        if_false, if_pos spent]
      rw [same, Table.find?_modify, if_pos rfl, found]
      rfl
    have notifications : (step state ⟨now, .retry env eventId errorCode⟩).ledger.notifications =
        state.ledger.notifications := by
      simp only [step, perform, if_pos pending]
    intro mourned
    have dead := mourned eventId (bury errorCode event) notification after
      ((same_bury errorCode event).target ▸ aims) (notifications ▸ present) rfl
    simp [pair.dead dead, terminal] at opened

/-- Notifications and their events are given up together throughout a run exactly when no poll of
it sweeps, and no scheduled retry buries, a dispatch event whose attempts are used up. -/
theorem dead_letters_agree (labels : List Step) :
    (forall state, Runs.Visits step opening labels state -> DeadTogether state.ledger) <->
      forall state label, Runs.Takes step opening labels state label ->
        Not (BuriesAlone state label) := by
  apply @Runs.always_iff_steps WorkerState Step step Steady
  case keeps => exact step_steady
  case initial => exact opening_steady
  case exact =>
    intro state label steady law
    have mourned := (deadTogether_iff steady.consistent).1 law
    rw [deadTogether_iff (step_steady state label steady).consistent]
    exact ⟨fun after buries => buried_alone steady buries after,
      fun spared => step_mourned steady mourned spared⟩
  case starts =>
    rw [deadTogether_iff opening_steady.consistent]
    intro id event notification found
    simp [opening, Table.find?] at found

-- Eight attempts lost before they were published leave a queued notification and a dead letter.
theorem queued_notification_abandoned :
    Not (forall labels state, Runs.Visits step opening labels state -> DeadTogether state.ledger) := by
  intro holds
  have law := holds _ _ (Runs.visits_end opening (Sample.lastAttempt ++ Sample.polls [240000]))
  have queued : ((Sample.reached (Sample.lastAttempt ++ Sample.polls [240000])).ledger.notifications.find?
      1).any (fun notification => notification.id == 1 && notification.status == .queued) = true := by
    decide +kernel
  have buried : (Sample.reached (Sample.lastAttempt ++ Sample.polls [240000])).ledger.events.rows.all
      (fun event => terminal event.status) = true := by
    decide +kernel
  obtain ⟨notification, present, waiting⟩ := (Option.any_eq_true _ _).1 queued
  simp only [Bool.and_eq_true, beq_iff_eq] at waiting
  obtain ⟨id, event, found, -, opened⟩ :=
    law.retried notification (waiting.1.symm ▸ present) (.inl waiting.2)
  have final := List.all_eq_true.1 buried event (Table.find?_mem found)
  rw [opened] at final
  exact absurd final (by decide)

end VapeCommerce.Worker.DeadLetters
