import VapeCommerce.Worker.Dispatch
import VapeCommerce.Worker.Transactions

set_option autoImplicit false

-- What every step of every instance keeps between the events and their notifications.
namespace VapeCommerce.Worker.Consistency

open VapeCommerce.Lib VapeCommerce.Lib.Outcome VapeCommerce.Schema
open VapeCommerce.Worker.Outbox VapeCommerce.Worker.Processor VapeCommerce.Worker.Dispatch
open VapeCommerce.Worker.Transactions

structure Same (old new : OutboxEvent) : Prop where
  eventType : new.eventType = old.eventType
  payload : new.payload = old.payload
  deterministicKey : new.deterministicKey = old.deterministicKey

theorem Same.target {old new : OutboxEvent} (same : Same old new) : target new = target old := by
  simp [Transactions.target, same.eventType, same.payload]

theorem Same.rewrite {chosen : OutboxEvent -> Bool} {change : OutboxEvent -> OutboxEvent}
    (each : forall event, Same event (change event)) (event : OutboxEvent) :
    Same event (Table.rewrite chosen change event) := by
  cases hit : chosen event with
  | true =>
    rw [Table.rewrite_chosen hit]
    exact each event
  | false =>
    rw [Table.rewrite_other hit]
    exact ⟨rfl, rfl, rfl⟩

theorem Same.trans {first second third : OutboxEvent} (left : Same first second)
    (right : Same second third) : Same first third where
  eventType := right.eventType.trans left.eventType
  payload := right.payload.trans left.payload
  deterministicKey := right.deterministicKey.trans left.deterministicKey

structure Sound (event : OutboxEvent) : Prop where
  unleased : event.leased? = false -> event.leaseExpiresAt = none
  uncancelled : event.status ≠ .cancelled
  spent : event.status = .deadLetter -> event.maxAttempts <= event.attemptCount

structure Paired (event : OutboxEvent) (status : NotificationStatus) : Prop where
  done : event.status = .processed <-> status = .delivered \/ status = .cancelled
  dead : status = .deadLetter -> event.status = .deadLetter

structure Consistent (ledger : Ledger) : Prop where
  sound : forall id event, ledger.events.find? id = some event -> Sound event
  paired : forall id event notificationId, ledger.events.find? id = some event ->
    target event = some notificationId -> exists notification,
      ledger.notifications.find? notificationId = some notification /\
        Paired event notification.status
  single : forall left right leftEvent rightEvent notificationId,
    ledger.events.find? left = some leftEvent -> ledger.events.find? right = some rightEvent ->
      target leftEvent = some notificationId -> target rightEvent = some notificationId ->
        left = right
  listed : forall notificationId notification,
    ledger.notifications.find? notificationId = some notification ->
      exists id event, ledger.events.find? id = some event /\
        target event = some notificationId /\
          event.deterministicKey = .notificationDispatch notificationId

-- A consistent ledger follows, with every event still about what it was about.
structure Advances (before after : Ledger) : Prop where
  consistent : Consistent after
  retains : forall id event, before.events.find? id = some event ->
    exists row, after.events.find? id = some row /\ target row = target event

theorem Advances.refl {ledger : Ledger} (old : Consistent ledger) : Advances ledger ledger where
  consistent := old
  retains := fun _ event found => ⟨event, found, rfl⟩

-- Both tables rewritten row by row.
theorem Consistent.rewritten {before after : Ledger} (old : Consistent before)
    {change : OutboxEvent -> OutboxEvent} {react : Notification -> Notification}
    (events : forall id, after.events.find? id = (before.events.find? id).map change)
    (notifications : forall id,
      after.notifications.find? id = (before.notifications.find? id).map react)
    (same : forall event, Same event (change event))
    (sound : forall id event, before.events.find? id = some event -> Sound event ->
      Sound (change event))
    (paired : forall id event notificationId notification,
      before.events.find? id = some event -> target event = some notificationId ->
        before.notifications.find? notificationId = some notification ->
          Paired event notification.status -> Paired (change event) (react notification).status) :
    Advances before after := by
  have origin : forall id event, after.events.find? id = some event ->
      exists row, before.events.find? id = some row /\ change row = event := by
    intro id event found
    rw [events] at found
    exact Option.map_eq_some_iff.1 found
  refine ⟨?_, fun id event found => ⟨change event, by rw [events, found]; rfl, (same event).target⟩⟩
  constructor
  case sound =>
    intro id event found
    obtain ⟨row, here, rfl⟩ := origin id event found
    exact sound id row here (old.sound id row here)
  case paired =>
    intro id event notificationId found aimed
    obtain ⟨row, here, rfl⟩ := origin id event found
    rw [(same row).target] at aimed
    obtain ⟨notification, present, pair⟩ := old.paired id row notificationId here aimed
    exact ⟨react notification, by rw [notifications, present]; rfl,
      paired id row notificationId notification here aimed present pair⟩
  case single =>
    intro left right leftEvent rightEvent notificationId leftFound rightFound leftAimed rightAimed
    obtain ⟨leftRow, leftHere, rfl⟩ := origin left leftEvent leftFound
    obtain ⟨rightRow, rightHere, rfl⟩ := origin right rightEvent rightFound
    rw [(same leftRow).target] at leftAimed
    rw [(same rightRow).target] at rightAimed
    exact old.single left right leftRow rightRow notificationId leftHere rightHere leftAimed rightAimed
  case listed =>
    intro notificationId notification found
    rw [notifications] at found
    obtain ⟨row, present, -⟩ := Option.map_eq_some_iff.1 found
    obtain ⟨id, event, here, aimed, keyed⟩ := old.listed notificationId row present
    exact ⟨id, change event, by rw [events, here]; rfl, by rw [(same event).target, aimed],
      by rw [(same event).deterministicKey, keyed]⟩

section Changes

theorem same_start (env : WorkerEnvironment) (now : Int) (event : OutboxEvent) :
    Same event (start env now event) := ⟨rfl, rfl, rfl⟩

theorem same_finish (errorCode : Option String) (event : OutboxEvent) :
    Same event (finish errorCode event) := ⟨rfl, rfl, rfl⟩

theorem same_delay (availableAt : Int) (errorCode : String) (event : OutboxEvent) :
    Same event (delay availableAt errorCode event) := ⟨rfl, rfl, rfl⟩

theorem same_bury (errorCode : String) (event : OutboxEvent) : Same event (bury errorCode event) :=
  ⟨rfl, rfl, rfl⟩

theorem same_sweep (event : OutboxEvent) : Same event (sweep event) := ⟨rfl, rfl, rfl⟩

theorem same_lease (env : WorkerEnvironment) (now : Int) (event : OutboxEvent) :
    Same event (lease env now event) := ⟨rfl, rfl, rfl⟩

theorem same_publish (env : WorkerEnvironment) (now : Int) (event : OutboxEvent) :
    Same event (publish env now event) := ⟨rfl, rfl, rfl⟩

theorem sound_start (env : WorkerEnvironment) (now : Int) (event : OutboxEvent) :
    Sound (start env now event) :=
  ⟨by simp [start, OutboxEvent.leased?], by simp [start], by simp [start]⟩

theorem sound_finish (errorCode : Option String) (event : OutboxEvent) :
    Sound (finish errorCode event) :=
  ⟨by simp [finish], by simp [finish], by simp [finish]⟩

theorem sound_delay (availableAt : Int) (errorCode : String) (event : OutboxEvent) :
    Sound (delay availableAt errorCode event) :=
  ⟨by simp [delay], by simp [delay], by simp [delay]⟩

theorem sound_bury (errorCode : String) {event : OutboxEvent}
    (spent : event.maxAttempts <= event.attemptCount) : Sound (bury errorCode event) :=
  ⟨by simp [bury], by simp [bury], fun _ => spent⟩

theorem sound_sweep {event : OutboxEvent} (hit : exhausted event = true) : Sound (sweep event) := by
  simp only [exhausted, Bool.and_eq_true, decide_eq_true_eq] at hit
  exact ⟨by simp [sweep], by simp [sweep], fun _ => hit.2⟩

theorem sound_lease (env : WorkerEnvironment) (now : Int) (event : OutboxEvent) :
    Sound (lease env now event) :=
  ⟨by simp [lease, OutboxEvent.leased?], by simp [lease], by simp [lease]⟩

theorem sound_publish (env : WorkerEnvironment) (now : Int) (event : OutboxEvent) :
    Sound (publish env now event) :=
  ⟨by simp [publish, OutboxEvent.leased?], by simp [publish], by simp [publish]⟩

-- A pair whose event is open stays a pair while the event stays open.
theorem Paired.reopened {event next : OutboxEvent} {status : NotificationStatus}
    (pair : Paired event status) (opened : terminal event.status = false)
    (unfinished : next.status ≠ .processed) : Paired next status := by
  simp only [terminal, Bool.or_eq_false_iff, beq_eq_false_iff_ne] at opened
  constructor
  case done =>
    have undone : Not (status = .delivered \/ status = .cancelled) :=
      fun done => opened.1.1 (pair.done.2 done)
    simp [unfinished, undone]
  case dead => exact fun dead => absurd (pair.dead dead) opened.1.2

theorem rewrite_at (id : Id) (change : OutboxEvent -> OutboxEvent) {event : OutboxEvent}
    (here : event.id = id) :
    Table.rewrite (fun row => decide (row.id = id)) change event = change event :=
  Table.rewrite_chosen (by simp [here])

theorem rewrite_elsewhere (id : Id) (change : OutboxEvent -> OutboxEvent) {event : OutboxEvent}
    (elsewhere : event.id ≠ id) :
    Table.rewrite (fun row => decide (row.id = id)) change event = event :=
  Table.rewrite_other (by simp [elsewhere])

theorem found_at {events : Events} {id other : Id} {event row : OutboxEvent}
    (found : events.find? id = some event) (here : events.find? other = some row)
    (hit : row.id = id) : row = event := by
  rw [<- Table.find?_key here, hit, found] at here
  exact (Option.some.inj here).symm

-- One event rewritten, no notification touched.
theorem Consistent.setEvent {before after : Ledger} (old : Consistent before) {id : Id}
    {event : OutboxEvent} (found : before.events.find? id = some event)
    {change : OutboxEvent -> OutboxEvent} (keeps : forall row, (change row).id = row.id)
    (events : after.events = before.events.modify id change keeps)
    (notifications : after.notifications = before.notifications)
    (same : forall row, Same row (change row)) (sound : Sound (change event))
    (paired : forall notificationId notification, target event = some notificationId ->
      before.notifications.find? notificationId = some notification ->
        Paired event notification.status -> Paired (change event) notification.status) :
    Advances before after := by
  apply @Consistent.rewritten before after old
    (Table.rewrite (fun row => decide (row.id = id)) change) (fun notification => notification)
  case events => intro other; rw [events, Table.modify, Table.find?_update]
  case notifications => intro other; simp [notifications]
  case same => exact Same.rewrite same
  case sound =>
    intro other row here before_sound
    by_cases hit : row.id = id
    next =>
      have eq := found_at found here hit
      rw [rewrite_at id change hit, eq]
      exact sound
    next => rwa [rewrite_elsewhere id change hit]
  case paired =>
    intro other row notificationId notification here aimed present pair
    by_cases hit : row.id = id
    next =>
      have eq := found_at found here hit
      subst eq
      rw [rewrite_at id change hit]
      exact paired notificationId notification aimed present pair
    next => rwa [rewrite_elsewhere id change hit]

-- A dispatch event and its notification rewritten together.
theorem Consistent.setBoth {before after : Ledger} (old : Consistent before) {id notificationId : Id}
    {event : OutboxEvent} (found : before.events.find? id = some event)
    (aimed : target event = some notificationId) {change : OutboxEvent -> OutboxEvent}
    (keeps : forall row, (change row).id = row.id) {status : NotificationStatus}
    (events : after.events = before.events.modify id change keeps)
    (notifications : after.notifications =
      before.notifications.modify notificationId (Notification.turned status) (turned_id status))
    (same : forall row, Same row (change row)) (sound : Sound (change event))
    (paired : Paired (change event) status) : Advances before after := by
  apply @Consistent.rewritten before after old
    (Table.rewrite (fun row => decide (row.id = id)) change)
    (Table.rewrite (fun row => decide (row.id = notificationId)) (Notification.turned status))
  case events => intro other; rw [events, Table.modify, Table.find?_update]
  case notifications => intro other; rw [notifications, Table.modify, Table.find?_update]
  case same => exact Same.rewrite same
  case sound =>
    intro other row here before_sound
    by_cases hit : row.id = id
    next =>
      have eq := found_at found here hit
      rw [rewrite_at id change hit, eq]
      exact sound
    next => rwa [rewrite_elsewhere id change hit]
  case paired =>
    intro other row otherId notification here otherAimed present pair
    have keyed := Table.find?_key present
    by_cases hit : row.id = id
    next =>
      have eq := found_at found here hit
      subst eq
      obtain rfl : notificationId = otherId := Option.some.inj (aimed.symm.trans otherAimed)
      rw [rewrite_at id change hit, Table.rewrite_chosen (by simp [keyed])]
      exact paired
    next =>
      have elsewhere : otherId ≠ notificationId := by
        rintro rfl
        have meets := old.single other id row event otherId here found otherAimed aimed
        exact hit ((Table.find?_key here).trans meets)
      rw [rewrite_elsewhere id change hit, Table.rewrite_other (by simp [keyed, elsewhere])]
      exact pair

end Changes

section Repository

variable {ledger : Ledger} {env : WorkerEnvironment} {now : Int}

theorem claimAvailable_advances (old : Consistent ledger) :
    Advances ledger { ledger with events := (claimAvailable ledger.events env now).1 } := by
  obtain ⟨ids, events, chosen⟩ := claimAvailable_events ledger.events env now
  apply @Consistent.rewritten ledger _ old (claimed ids env now) (fun notification => notification)
  case events => exact events
  case notifications => intro id; simp
  case same =>
    intro event
    exact (Same.rewrite same_sweep event).trans (Same.rewrite (same_lease env now) _)
  case sound =>
    intro id event found sound
    obtain same | swept | leased :=
      @claimed_cases env now ids id event (Table.find?_key found) (chosen id event found)
    next => rwa [same.2]
    next => rw [swept.2]; exact sound_sweep swept.1
    next => rw [leased.2.2]; exact sound_lease env now event
  case paired =>
    intro id event notificationId notification found aimed present pair
    obtain same | swept | leased :=
      @claimed_cases env now ids id event (Table.find?_key found) (chosen id event found)
    next => rwa [same.2]
    next =>
      rw [swept.2]
      exact pair.reopened (exhausted_open swept.1) (by simp [sweep])
    next =>
      rw [leased.2.2]
      exact pair.reopened (claimable_open leased.2.1) (by simp [lease])

theorem markPublished_advances (old : Consistent ledger) (eventId : Id) :
    Advances ledger { ledger with events := markPublished ledger.events env eventId now } := by
  apply @Consistent.rewritten ledger _ old (Table.rewrite (fun event => event.id == eventId &&
    event.status == .leased && event.leaseOwner == some env.instanceId) (publish env now))
    (fun notification => notification)
  case events => exact fun id => Table.find?_update ledger.events _ _ (publish_id env now) id
  case notifications => intro id; simp
  case same => exact Same.rewrite (same_publish env now)
  case sound =>
    intro id event found sound
    unfold Table.rewrite
    split
    next => exact sound_publish env now event
    next => exact sound
  case paired =>
    intro id event notificationId notification found aimed present pair
    unfold Table.rewrite
    split
    next hit =>
      simp only [Bool.and_eq_true, beq_iff_eq] at hit
      exact pair.reopened (by simp [terminal, hit.1.2]) (by simp [publish])
    next => exact pair

theorem scheduleRetry_advances (old : Consistent ledger) (eventId : Id) (errorCode : String) :
    Advances ledger { ledger with
      events := (scheduleRetry ledger.events env eventId errorCode now).1 } := by
  unfold scheduleRetry
  cases found : ledger.events.find? eventId with
  | none => exact .refl old
  | some event =>
    have keyed : event.id = eventId := Table.find?_key found
    simp only
    split_ifs with ended spent
    next => exact .refl old
    next =>
      apply old.setEvent (keyed ▸ found) (bury_id errorCode)
      case events => rfl
      case notifications => rfl
      case same => exact same_bury errorCode
      case sound => exact sound_bury errorCode spent
      case paired =>
        intro notificationId notification aimed present pair
        exact pair.reopened (by simpa using ended) (by simp [bury])
    next =>
      apply old.setEvent (keyed ▸ found) (delay_id _ errorCode)
      case events => rfl
      case notifications => rfl
      case same => exact same_delay _ errorCode
      case sound => exact sound_delay _ errorCode event
      case paired =>
        intro notificationId notification aimed present pair
        exact pair.reopened (by simpa using ended) (by simp [delay])

end Repository

section Processor

variable {ledger next : Ledger} {env : WorkerEnvironment} {job : OutboxJobData} {now : Int}

theorem claimNotification_advances (old : Consistent ledger) {claim : Claim NotificationWork}
    (claims : NotificationClaimed ledger env job now next claim) : Advances ledger next := by
  cases claims with
  | closed claim idle => exact .refl old
  | echoed event notification dispatched isOver =>
    have found := dispatched.found
    rw [<- Table.find?_key found] at found
    apply old.setEvent found (finish_id none)
    case events => rfl
    case notifications => rfl
    case same => exact same_finish none
    case sound => exact sound_finish none event
    case paired =>
      intro notificationId other aimed present pair
      obtain rfl := Option.some.inj (dispatched.aimed.symm.trans aimed)
      obtain rfl := Option.some.inj (dispatched.present.symm.trans present)
      exact ⟨by simp [finish, isOver], fun dead => by simp [dead] at isOver⟩
  | followed event notification dispatched dead =>
    -- The pair would already be dead on both sides, but the event is open.
    obtain ⟨other, present, pair⟩ :=
      old.paired _ event _ dispatched.found dispatched.aimed
    obtain rfl := Option.some.inj (dispatched.present.symm.trans present)
    have opened := dispatched.opened
    simp [pair.dead dead, terminal] at opened
  | skipped event notification dispatched attempts =>
    have found := dispatched.found
    rw [<- Table.find?_key found] at found
    apply old.setBoth found dispatched.aimed (finish_id _)
    case events => rfl
    case notifications => rfl
    case same => exact same_finish _
    case sound => exact sound_finish _ event
    case paired => exact ⟨by simp [finish], by simp⟩
  | opened event notification dispatched undone undead attempts work eventId notificationId =>
    have found := dispatched.found
    rw [<- Table.find?_key found] at found
    apply old.setBoth found dispatched.aimed (start_id env now)
    case events => rfl
    case notifications => rfl
    case same => exact same_start env now
    case sound => exact sound_start env now event
    case paired => exact ⟨by simp [start], by simp⟩

theorem eventHandled_advances (old : Consistent ledger) (other : job.eventType ≠ .notificationDispatch)
    {change : OutboxEvent -> OutboxEvent} {keeps : forall event, (change event).id = event.id}
    (same : forall event, Same event (change event)) (sound : forall event, Sound (change event))
    (handles : EventHandled ledger job change keeps next) : Advances ledger next := by
  cases handles with
  | closed => exact .refl old
  | changed event handled =>
    have found := handled.found
    rw [<- Table.find?_key found] at found
    apply old.setEvent found keeps
    case events => rfl
    case notifications => rfl
    case same => exact same
    case sound => exact sound event
    case paired =>
      intro notificationId notification aimed
      rw [target_none (handled.eventType ▸ other)] at aimed
      simp at aimed

theorem completeMediaDeletion_advances (old : Consistent ledger)
    (other : job.eventType ≠ .notificationDispatch)
    (ran : completeMediaDeletion ledger job = .ok next) : Advances ledger next := by
  obtain ⟨event, found, ⟨-, rfl⟩ | ⟨-, type, -, rfl⟩⟩ := completeMediaDeletion_ok.1 ran
  next => exact .refl old
  next =>
    apply old.setEvent found (finish_id none)
    case events => rfl
    case notifications => rfl
    case same => exact same_finish none
    case sound => exact sound_finish none event
    case paired =>
      intro notificationId notification aimed
      rw [target_none (type ▸ other)] at aimed
      simp at aimed

variable {work : NotificationWork} {event : OutboxEvent} {notification : Notification}

theorem deliveryRecorded_advances (old : Consistent ledger)
    (found : ledger.events.find? work.outboxEventId = some event)
    (present : ledger.notifications.find? work.notificationId = some notification)
    (aimed : target event = some work.notificationId)
    (records : DeliveryRecorded ledger work event notification next) : Advances ledger next := by
  rw [<- Table.find?_key found] at found
  cases records with
  | again isOver attempts =>
    apply old.setEvent found (finish_id none)
    case events => rfl
    case notifications => rfl
    case same => exact same_finish none
    case sound => exact sound_finish none event
    case paired =>
      intro notificationId other aims here pair
      obtain rfl := Option.some.inj (aimed.symm.trans aims)
      obtain rfl := Option.some.inj (present.symm.trans here)
      unfold concluded at isOver
      exact ⟨by simp [finish, isOver], fun dead => by simp [dead] at isOver⟩
  | first undone attempts =>
    apply old.setBoth found aimed (finish_id none)
    case events => rfl
    case notifications => rfl
    case same => exact same_finish none
    case sound => exact sound_finish none event
    case paired => exact ⟨by simp [finish], by simp⟩

theorem failureRecorded_advances (old : Consistent ledger) {errorCode : String}
    (found : ledger.events.find? work.outboxEventId = some event)
    (present : ledger.notifications.find? work.notificationId = some notification)
    (aimed : target event = some work.notificationId)
    (records : FailureRecorded ledger env work event notification errorCode now next) :
    Advances ledger next := by
  rw [<- Table.find?_key found] at found
  obtain ⟨other, here, pair⟩ := old.paired _ event _ found aimed
  obtain rfl := Option.some.inj (present.symm.trans here)
  cases records with
  | ended isEnded attempts =>
    exact ⟨⟨old.sound, old.paired, old.single, old.listed⟩, (Advances.refl old).retains⟩
  | repaired delivered unfinished attempts =>
    exact absurd (pair.done.2 (.inl delivered)) unfinished
  | lost opened undone spent attempts =>
    apply old.setBoth found aimed (bury_id errorCode)
    case events => rfl
    case notifications => rfl
    case same => exact same_bury errorCode
    case sound => exact sound_bury errorCode spent
    case paired => exact ⟨by simp [bury], by simp [bury]⟩
  | failed opened undone attempts =>
    apply old.setBoth found aimed (delay_id _ errorCode)
    case events => rfl
    case notifications => rfl
    case same => exact same_delay _ errorCode
    case sound => exact sound_delay _ errorCode event
    case paired => exact ⟨by simp [delay], by simp⟩

end Processor

section Sources

variable {ledger : Ledger}

theorem sound_new {event : OutboxEvent} (pending : event.status = .pending)
    (unleased : event.leaseExpiresAt = none) : Sound event :=
  ⟨fun _ => unleased, by simp [pending], by simp [pending]⟩

theorem find?_inserted {events next : Events} {event : OutboxEvent}
    (inserted : events.insert? event = some next) {id : Id} {row : OutboxEvent}
    (found : next.find? id = some row) : events.find? id = some row \/ row = event := by
  rw [Table.find?_insert? inserted] at found
  split at found
  next => exact .inr (Option.some.inj found).symm
  next => exact .inl found

theorem find?_before {events next : Events} {event : OutboxEvent}
    (inserted : events.insert? event = some next) {id : Id} {row : OutboxEvent}
    (found : events.find? id = some row) : next.find? id = some row := by
  have fresh := (Table.insert?_rows inserted).2 row (Table.find?_mem found)
  rw [Table.find?_insert? inserted, if_neg, found]
  exact fun same => fresh ((Table.find?_key found).trans same.symm)

-- An event about nothing the pairs speak of.
theorem Consistent.added (old : Consistent ledger) {event : OutboxEvent} {events : Events}
    (inserted : ledger.events.insert? event = some events) (sound : Sound event)
    (aimless : target event = none) : Advances ledger { ledger with events } := by
  refine ⟨?_, fun id row found => ⟨row, find?_before inserted found, rfl⟩⟩
  constructor
  case sound =>
    intro id row found
    cases find?_inserted inserted found with
    | inl before => exact old.sound id row before
    | inr added => exact added ▸ sound
  case paired =>
    intro id row notificationId found aimed
    cases find?_inserted inserted found with
    | inl before => exact old.paired id row notificationId before aimed
    | inr added => simp [added, aimless] at aimed
  case single =>
    intro left right leftRow rightRow notificationId leftFound rightFound leftAimed rightAimed
    cases find?_inserted inserted leftFound with
    | inr added => simp [added, aimless] at leftAimed
    | inl leftBefore =>
      cases find?_inserted inserted rightFound with
      | inr added => simp [added, aimless] at rightAimed
      | inl rightBefore =>
        exact old.single left right leftRow rightRow notificationId leftBefore rightBefore leftAimed
          rightAimed
  case listed =>
    intro notificationId notification found
    obtain ⟨id, row, here, aimed, keyed⟩ := old.listed notificationId notification found
    exact ⟨id, row, find?_before inserted here, aimed, keyed⟩

theorem schedule_advances (old : Consistent ledger) (eventId : Id) (work : ScheduledWork)
    (maxAttempts : Nat) (now : Int) :
    Advances ledger (upsertEvent ledger (scheduledEvent eventId maxAttempts now work)) := by
  unfold upsertEvent
  split
  next => exact .refl old
  next =>
    cases inserted : ledger.events.insert? (scheduledEvent eventId maxAttempts now work) with
    | none => exact .refl old
    | some events =>
      apply old.added inserted
      next => cases work <;> exact sound_new rfl rfl
      next => cases work <;> rfl

-- Every notification already has its event, so the bridge has nothing to add.
theorem bridge_advances (old : Consistent ledger) (eventId notificationId : Id) (maxAttempts : Nat)
    (now : Int) : Advances ledger (bridge ledger eventId notificationId maxAttempts now) := by
  unfold bridge
  cases found : ledger.notifications.find? notificationId with
  | none => exact .refl old
  | some notification =>
    obtain ⟨id, row, here, -, keyed⟩ := old.listed notificationId notification found
    have known : ledger.events.rows.any (fun row => row.deterministicKey ==
        (dispatchEvent eventId notificationId maxAttempts now).deterministicKey) = true :=
      List.any_eq_true.2 ⟨row, Table.find?_mem here, by simp [keyed, dispatchEvent, newEvent]⟩
    simp only [upsertEvent, known, if_true, ite_self]
    exact .refl old

theorem notify_advances (old : Consistent ledger) {next : Ledger} {eventId : Id}
    {notification : Notification} {maxAttempts : Nat}
    (ran : notify ledger eventId notification maxAttempts = some next) : Advances ledger next := by
  simp only [notify, Option.bind_eq_bind, Option.bind_eq_some_iff, Option.guard_eq_some',
    Option.pure_def, Option.some.injEq] at ran
  obtain ⟨-, -, notifications, listed, events, inserted, rfl⟩ := ran
  generalize made : dispatchEvent eventId notification.id maxAttempts notification.scheduledAt = event
    at inserted
  have aimed : target event = some notification.id := by rw [<- made]; rfl
  have sound : Sound event := by rw [<- made]; exact sound_new rfl rfl
  have fresh := (Table.insert?_rows listed).2
  have unaimed : forall id row, ledger.events.find? id = some row ->
      target row ≠ some notification.id := by
    intro id row found same
    obtain ⟨other, present, -⟩ := old.paired id row notification.id found same
    exact fresh other (Table.find?_mem present) (Table.find?_key present)
  have keeps : forall id other, ledger.notifications.find? id = some other ->
      notifications.find? id = some other := by
    intro id other found
    rw [Table.find?_insert? listed, if_neg, found]
    exact fun same => fresh other (Table.find?_mem found) ((Table.find?_key found).trans same.symm)
  refine ⟨?_, fun id row found => ⟨row, find?_before inserted found, rfl⟩⟩
  constructor
  case sound =>
    intro id row found
    cases find?_inserted inserted found with
    | inl before => exact old.sound id row before
    | inr added => exact added ▸ sound
  case paired =>
    intro id row notificationId found aims
    cases find?_inserted inserted found with
    | inl before =>
      obtain ⟨other, present, pair⟩ := old.paired id row notificationId before aims
      exact ⟨other, keeps notificationId other present, pair⟩
    | inr added =>
      subst added
      obtain rfl := Option.some.inj (aimed.symm.trans aims)
      refine ⟨{ notification with status := .queued }, ?_, ?_⟩
      next => rw [Table.find?_insert? listed, if_pos rfl]
      next => rw [<- made]; exact ⟨by simp [dispatchEvent, newEvent], by simp⟩
  case single =>
    intro left right leftRow rightRow notificationId leftFound rightFound leftAimed rightAimed
    cases find?_inserted inserted leftFound with
    | inl leftBefore =>
      cases find?_inserted inserted rightFound with
      | inl rightBefore =>
        exact old.single left right leftRow rightRow notificationId leftBefore rightBefore leftAimed
          rightAimed
      | inr added =>
        rw [added, aimed] at rightAimed
        exact absurd (leftAimed.trans rightAimed.symm) (unaimed left leftRow leftBefore)
    | inr leftAdded =>
      cases find?_inserted inserted rightFound with
      | inl rightBefore =>
        rw [leftAdded, aimed] at leftAimed
        exact absurd (rightAimed.trans leftAimed.symm) (unaimed right rightRow rightBefore)
      | inr rightAdded =>
        have leftKey := Table.find?_key leftFound
        have rightKey := Table.find?_key rightFound
        rw [<- leftKey, <- rightKey, leftAdded, rightAdded]
  case listed =>
    intro notificationId other found
    rw [Table.find?_insert? listed] at found
    split at found
    next same =>
      have keyed : event.deterministicKey = .notificationDispatch notification.id := by
        rw [<- made]
        rfl
      exact ⟨event.id, event, by rw [Table.find?_insert? inserted, if_pos rfl], same ▸ aimed,
        same ▸ keyed⟩
    next =>
      obtain ⟨id, row, here, aims, keyed⟩ := old.listed notificationId other found
      exact ⟨id, row, find?_before inserted here, aims, keyed⟩

end Sources

section Steps

-- A pending task still knows what its event is about.
def Placed (ledger : Ledger) : Task -> Prop
  | .send _ work => exists event, ledger.events.find? work.outboxEventId = some event /\
      target event = some work.notificationId
  | .settle _ work _ => exists event, ledger.events.find? work.outboxEventId = some event /\
      target event = some work.notificationId
  | .delete _ job => job.eventType = .mediaObjectDelete
  | _ => True

theorem Placed.advance {before after : Ledger} (advances : Advances before after) {task : Task}
    (placed : Placed before task) : Placed after task := by
  cases task with
  | send env work =>
    obtain ⟨event, found, aimed⟩ := placed
    obtain ⟨row, here, same⟩ := advances.retains _ event found
    exact ⟨row, here, same.trans aimed⟩
  | settle env work errorCode =>
    obtain ⟨event, found, aimed⟩ := placed
    obtain ⟨row, here, same⟩ := advances.retains _ event found
    exact ⟨row, here, same.trans aimed⟩
  | delete env job => exact placed
  | publish env event => trivial
  | mark env eventId => trivial
  | defer env eventId errorCode => trivial

structure Steady (state : WorkerState) : Prop where
  consistent : Consistent state.ledger
  placed : forall task, task ∈ state.tasks -> Placed state.ledger task

theorem Steady.advance {state : WorkerState} (old : Steady state) {ledger : Ledger}
    (advances : Advances state.ledger ledger) {jobs : List OutboxJobData} {tasks : List Task}
    (known : forall task, task ∈ tasks -> task ∈ state.tasks \/ Placed ledger task) :
    Steady { ledger, jobs, tasks } where
  consistent := advances.consistent
  placed := by
    intro task member
    cases known task member with
    | inl before => exact (old.placed task before).advance advances
    | inr added => exact added

theorem mem_follow {tasks next : List Task} {done task : Task}
    (member : task ∈ tasks.erase done ++ next) : task ∈ tasks \/ task ∈ next := by
  cases List.mem_append.1 member with
  | inl before => exact .inl (List.mem_of_mem_erase before)
  | inr added => exact .inr added

-- What `deliver` writes, and the task it leaves.
theorem deliver_advances {state : WorkerState} (old : Consistent state.ledger) {env : WorkerEnvironment}
    {job : OutboxJobData} {attemptId : Id} {expired : Except String Nat} {now : Int} {ledger : Ledger}
    {tasks : List Task} (ran : deliver state env job attemptId expired now = .ok (ledger, tasks)) :
    Advances state.ledger ledger /\ forall task, task ∈ tasks -> Placed ledger task := by
  unfold deliver at ran
  cases type : job.eventType with
  | notificationDispatch =>
    simp only [type, bind_ok, pure_ok] at ran
    obtain ⟨⟨next, claim⟩, claims, ran⟩ := ran
    obtain ⟨rfl, rfl⟩ := Prod.mk.inj ran
    have claimed := claimNotification_ok claims
    have advances := claimNotification_advances old claimed
    refine ⟨advances, ?_⟩
    cases claimed with
    | closed claim idle => cases claim <;> simp_all [performed, Claim.idle]
    | echoed event notification dispatched isOver => simp [performed]
    | followed event notification dispatched dead => simp [performed]
    | skipped event notification dispatched attempts => simp [performed]
    | opened event notification dispatched undone undead attempts work eventId notificationId =>
      intro task member
      obtain rfl := List.mem_singleton.1 member
      have found := dispatched.found
      rw [<- Table.find?_key found] at found
      obtain ⟨row, here, same⟩ := advances.retains _ event found
      exact ⟨row, by rw [eventId]; exact here, by rw [same, notificationId]; exact dispatched.aimed⟩
  | mediaObjectDelete =>
    simp only [type, bind_ok, pure_ok] at ran
    obtain ⟨⟨next, claim⟩, claims, ran⟩ := ran
    obtain ⟨rfl, rfl⟩ := Prod.mk.inj ran
    refine ⟨eventHandled_advances old (by simp [type]) (same_start env now) (sound_start env now)
      (claimMediaDeletion_ok claims), ?_⟩
    cases claim <;> simp [performed, Placed, type]
  | reservationExpiry =>
    simp only [type, bind_ok, pure_ok] at ran
    obtain ⟨⟨next, claim⟩, claims, ran⟩ := ran
    obtain ⟨rfl, rfl⟩ := Prod.mk.inj ran
    exact ⟨eventHandled_advances old (by simp [type]) (same_finish none) (sound_finish none)
      (processTransaction_ok claims), by simp⟩
  | unsupported name =>
    simp only [type, bind_ok, pure_ok] at ran
    obtain ⟨⟨next, claim⟩, claims, ran⟩ := ran
    obtain ⟨rfl, rfl⟩ := Prod.mk.inj ran
    exact ⟨eventHandled_advances old (by simp [type]) (same_finish none) (sound_finish none)
      (processTransaction_ok claims), by simp⟩

section Tasks

variable {state : WorkerState} {jobs : List OutboxJobData} {done next : Task}

theorem Steady.resumed (old : Steady state) (placed : Placed state.ledger next) :
    Steady { ledger := state.ledger, jobs, tasks := state.tasks.erase done ++ [next] } := by
  apply old.advance (.refl old.consistent)
  intro task member
  cases mem_follow member with
  | inl before => exact .inl before
  | inr added => exact .inr ((List.mem_singleton.1 added).symm ▸ placed)

theorem Steady.queued (old : Steady state) (placed : Placed state.ledger next) :
    Steady { ledger := state.ledger, jobs, tasks := state.tasks ++ [next] } := by
  apply old.advance (.refl old.consistent)
  intro task member
  cases List.mem_append.1 member with
  | inl before => exact .inl before
  | inr added => exact .inr ((List.mem_singleton.1 added).symm ▸ placed)

theorem Steady.completed (old : Steady state) {ledger : Ledger}
    (advances : Advances state.ledger ledger) :
    Steady { ledger, jobs, tasks := state.tasks.erase done ++ [] } := by
  apply old.advance advances
  intro task member
  rw [List.append_nil] at member
  exact .inl (List.mem_of_mem_erase member)

end Tasks

theorem step_steady (state : WorkerState) (label : Step) (old : Steady state) :
    Steady (step state label) := by
  obtain ⟨now, action⟩ := label
  unfold step perform
  cases action with
  | schedule eventId work maxAttempts =>
    exact old.advance (schedule_advances old.consistent eventId work maxAttempts now) fun _ => .inl
  | notify eventId notification maxAttempts =>
    cases ran : notify state.ledger eventId notification maxAttempts with
    | none => simpa [ran] using old
    | some next =>
      simp only [ran, Option.getD_some]
      exact old.advance (notify_advances old.consistent ran) fun _ => .inl
  | bridge eventId notificationId maxAttempts =>
    exact old.advance (bridge_advances old.consistent eventId notificationId maxAttempts now)
      fun _ => .inl
  | poll env =>
    apply old.advance (claimAvailable_advances old.consistent)
    intro task member
    cases List.mem_append.1 member with
    | inl before => exact .inl before
    | inr added =>
      obtain ⟨event, -, rfl⟩ := List.mem_map.1 added
      exact .inr trivial
  | publish env event =>
    simp only
    split_ifs
    next =>
      cases parseEventPayload event.eventType event.eventVersion event.payload with
      | error errorCode =>
        exact old.resumed trivial
      | ok parsed =>
        exact old.resumed trivial
    next => exact old
  | mark env eventId =>
    simp only
    split_ifs
    next =>
      exact old.completed (markPublished_advances old.consistent eventId)
    next => exact old
  | deliver env job attemptId expired =>
    simp only
    split_ifs
    next =>
      cases ran : deliver state env job attemptId expired now with
      | ok next =>
        obtain ⟨advances, placed⟩ := deliver_advances old.consistent ran
        apply old.advance advances
        intro task member
        exact (List.mem_append.1 member).imp_right (placed task)
      | error errorCode =>
        exact old.queued trivial
    next => exact old
  | refuse env job errorCode =>
    simp only
    split_ifs
    next =>
      exact old.queued trivial
    next => exact old
  | sent env work delivery =>
    simp only
    split_ifs with pending
    next =>
      have placed := old.placed _ pending
      cases ran : finalizeNotificationSuccess state.ledger work delivery with
      | ok next =>
        obtain ⟨event, notification, deliverable, records⟩ := finalizeNotificationSuccess_ok ran
        obtain ⟨row, found, aimed⟩ := placed
        obtain rfl := Option.some.inj (deliverable.found.symm.trans found)
        exact old.completed
          (deliveryRecorded_advances old.consistent found deliverable.present aimed records)
      | error errorCode =>
        exact old.resumed placed
    next => exact old
  | settle env work errorCode =>
    simp only
    split_ifs with pending
    next =>
      cases ran : finalizeNotificationFailure state.ledger env work errorCode now with
      | ok result =>
        obtain ⟨next, outcome⟩ := result
        obtain ⟨event, notification, found, present, records⟩ := finalizeNotificationFailure_ok ran
        obtain ⟨row, here, aimed⟩ := old.placed _ pending
        obtain rfl := Option.some.inj (found.symm.trans here)
        exact old.completed (failureRecorded_advances old.consistent found present aimed records)
      | error code =>
        exact old.resumed trivial
    next => exact old
  | deleted env job =>
    simp only
    split_ifs with pending
    next =>
      have type : job.eventType = .mediaObjectDelete := old.placed _ pending
      cases ran : completeMediaDeletion state.ledger job with
      | ok next =>
        exact old.completed (completeMediaDeletion_advances old.consistent (by simp [type]) ran)
      | error errorCode =>
        exact old.resumed trivial
    next => exact old
  | retry env eventId errorCode =>
    simp only
    split_ifs
    next =>
      exact old.completed (scheduleRetry_advances old.consistent eventId errorCode)
    next => exact old
  | abort task errorCode =>
    simp only
    split_ifs with pending
    next =>
      have placed := old.placed _ pending
      cases task with
      | send env work => exact old.resumed placed
      | defer env eventId code => exact old.completed (.refl old.consistent)
      | publish env event => exact old.resumed trivial
      | mark env eventId => exact old.resumed trivial
      | settle env work code => exact old.resumed trivial
      | delete env job => exact old.resumed trivial
    next => exact old
  | crash task =>
    exact old.advance (.refl old.consistent) fun other member => .inl (List.mem_of_mem_erase member)

theorem opening_steady : Steady opening := by
  constructor
  case consistent =>
    constructor <;> simp [opening, Table.find?]
  case placed => simp [opening]

theorem run_steady (labels : List Step) : Steady (Runs.run step opening labels) :=
  Runs.run_keeps step_steady opening_steady labels

end Steps

end VapeCommerce.Worker.Consistency
