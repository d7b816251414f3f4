import VapeCommerce.Worker.Consistency

set_option autoImplicit false

-- When a final status is final.
namespace VapeCommerce.Worker.Finality

open VapeCommerce.Lib VapeCommerce.Lib.Outcome VapeCommerce.Schema
open VapeCommerce.Worker.Outbox VapeCommerce.Worker.Processor VapeCommerce.Worker.Dispatch
open VapeCommerce.Worker.Transactions VapeCommerce.Worker.Consistency

-- Every event in a final status keeps it.
def KeepsFinal (before after : Ledger) : Prop :=
  forall id event, before.events.find? id = some event -> terminal event.status = true ->
    exists row, after.events.find? id = some row /\ row.status = event.status

-- The step records a completion of this event: a delivery it can write, or a finished deletion.
def Completes (state : WorkerState) (label : Step) (event : OutboxEvent) : Prop :=
  (exists env work delivery notification, label.action = .sent env work delivery /\
    .send env work ∈ state.tasks /\
      Deliverable state.ledger work delivery event notification) \/
    exists env job, label.action = .deleted env job /\ .delete env job ∈ state.tasks /\
      state.ledger.events.find? job.outboxEventId = some event /\
        event.eventType = job.eventType /\ event.eventVersion = job.eventVersion

variable {before after : Ledger}

theorem KeepsFinal.same (same : after.events = before.events) : KeepsFinal before after :=
  fun _ event found _ => ⟨event, by rw [same]; exact found, rfl⟩

theorem KeepsFinal.rewritten {change : OutboxEvent -> OutboxEvent}
    (events : forall id, after.events.find? id = (before.events.find? id).map change)
    (unchanged : forall id event, before.events.find? id = some event ->
      terminal event.status = true -> (change event).status = event.status) :
    KeepsFinal before after :=
  fun id event found final =>
    ⟨change event, by rw [events, found]; rfl, unchanged id event found final⟩

-- A rewrite of one event that is open, or already has the status it is given.
theorem KeepsFinal.set {id : Id} {event : OutboxEvent} (found : before.events.find? id = some event)
    {change : OutboxEvent -> OutboxEvent} (keeps : forall row, (change row).id = row.id)
    (events : after.events = before.events.modify id change keeps)
    (unchanged : terminal event.status = true -> (change event).status = event.status) :
    KeepsFinal before after := by
  apply KeepsFinal.rewritten
  case events => intro other; rw [events, Table.modify, Table.find?_update]
  case unchanged =>
    intro other row here final
    by_cases hit : row.id = id
    next =>
      obtain rfl := found_at found here hit
      rw [rewrite_at id change hit]
      exact unchanged final
    next => rw [rewrite_elsewhere id change hit]

theorem KeepsFinal.inserted {events : Events} {event : OutboxEvent}
    (inserted : before.events.insert? event = some events) : KeepsFinal before { before with events } :=
  fun _ row found _ => ⟨row, find?_before inserted found, rfl⟩

theorem upsertEvent_final (event : OutboxEvent) : KeepsFinal before (upsertEvent before event) := by
  unfold upsertEvent
  split
  next => exact .same rfl
  next =>
    cases inserted : before.events.insert? event with
    | none => exact .same rfl
    | some events => exact .inserted inserted

theorem notify_final {eventId : Id} {notification : Notification} {maxAttempts : Nat}
    (ran : notify before eventId notification maxAttempts = some after) : KeepsFinal before after := by
  simp only [notify, Option.bind_eq_bind, Option.bind_eq_some_iff, Option.guard_eq_some',
    Option.pure_def, Option.some.injEq] at ran
  obtain ⟨-, -, notifications, -, events, inserted, rfl⟩ := ran
  exact fun _ row found _ => ⟨row, find?_before inserted found, rfl⟩

theorem claimAvailable_final (env : WorkerEnvironment) (now : Int) :
    KeepsFinal before { before with events := (claimAvailable before.events env now).1 } := by
  obtain ⟨ids, events, chosen⟩ := claimAvailable_events before.events env now
  apply KeepsFinal.rewritten events
  intro id event found final
  obtain same | swept | leased :=
    @claimed_cases env now ids id event (Table.find?_key found) (chosen id event found)
  next => rw [same.2]
  next => simp [exhausted_open swept.1] at final
  next => simp [claimable_open leased.2.1] at final

theorem markPublished_final (env : WorkerEnvironment) (eventId : Id) (now : Int) :
    KeepsFinal before { before with events := markPublished before.events env eventId now } := by
  apply KeepsFinal.rewritten fun id => Table.find?_update before.events _ _ (publish_id env now) id
  intro id event found final
  unfold Table.rewrite
  split
  next hit =>
    simp only [Bool.and_eq_true, beq_iff_eq] at hit
    simp [terminal, hit.1.2] at final
  next => rfl

theorem scheduleRetry_final (env : WorkerEnvironment) (eventId : Id) (errorCode : String) (now : Int) :
    KeepsFinal before
      { before with events := (scheduleRetry before.events env eventId errorCode now).1 } := by
  unfold scheduleRetry
  cases found : before.events.find? eventId with
  | none => exact .same rfl
  | some event =>
    have keyed : event.id = eventId := Table.find?_key found
    simp only
    split_ifs with ended spent
    next => exact .same rfl
    next => exact .set (keyed ▸ found) (bury_id errorCode) rfl fun final => absurd final ended
    next => exact .set (keyed ▸ found) (delay_id _ errorCode) rfl fun final => absurd final ended

variable {env : WorkerEnvironment} {job : OutboxJobData} {now : Int}

theorem Handled.final {event : OutboxEvent} (handled : Handled before job event)
    {change : OutboxEvent -> OutboxEvent} (keeps : forall row, (change row).id = row.id)
    (events : after.events = before.events.modify event.id change keeps) :
    KeepsFinal before after := by
  have found := handled.found
  rw [<- Table.find?_key found] at found
  exact .set found keeps events fun final => by simp [handled.opened] at final

theorem notificationClaimed_final {claim : Claim NotificationWork}
    (claims : NotificationClaimed before env job now after claim) : KeepsFinal before after := by
  cases claims with
  | closed claim idle => exact .same rfl
  | echoed event notification dispatched isOver =>
    exact Handled.final dispatched.toHandled (finish_id none) rfl
  | followed event notification dispatched dead =>
    exact Handled.final dispatched.toHandled (bury_id _) rfl
  | skipped event notification dispatched attempts =>
    exact Handled.final dispatched.toHandled (finish_id _) rfl
  | opened event notification dispatched undone undead attempts work eventId notificationId =>
    exact Handled.final dispatched.toHandled (start_id env now) rfl

theorem eventHandled_final {change : OutboxEvent -> OutboxEvent}
    {keeps : forall event, (change event).id = event.id}
    (handles : EventHandled before job change keeps after) : KeepsFinal before after := by
  cases handles with
  | closed => exact .same rfl
  | changed event handled => exact Handled.final handled keeps rfl

theorem deliver_final {state : WorkerState} {attemptId : Id} {expired : Except String Nat}
    {tasks : List Task} (ran : deliver state env job attemptId expired now = .ok (after, tasks)) :
    KeepsFinal state.ledger after := by
  unfold deliver at ran
  cases type : job.eventType
  all_goals
    simp only [type, bind_ok, pure_ok] at ran
    obtain ⟨⟨next, claim⟩, claims, ran⟩ := ran
    obtain ⟨rfl, rfl⟩ := Prod.mk.inj ran
  case notificationDispatch => exact notificationClaimed_final (claimNotification_ok claims)
  case mediaObjectDelete => exact eventHandled_final (claimMediaDeletion_ok claims)
  case reservationExpiry => exact eventHandled_final (processTransaction_ok claims)
  case unsupported name => exact eventHandled_final (processTransaction_ok claims)

theorem failureRecorded_final (old : Consistent before) {work : NotificationWork} {event : OutboxEvent}
    {notification : Notification} {errorCode : String}
    (found : before.events.find? work.outboxEventId = some event)
    (present : before.notifications.find? work.notificationId = some notification)
    (aimed : target event = some work.notificationId)
    (records : FailureRecorded before env work event notification errorCode now after) :
    KeepsFinal before after := by
  obtain ⟨other, here, pair⟩ := old.paired _ event _ found aimed
  obtain rfl := Option.some.inj (present.symm.trans here)
  rw [<- Table.find?_key found] at found
  cases records with
  | ended isEnded attempts => exact .same rfl
  | repaired delivered unfinished attempts => exact absurd (pair.done.2 (.inl delivered)) unfinished
  | lost opened undone spent attempts =>
    exact .set found (bury_id errorCode) rfl fun final => by simp [opened] at final
  | failed opened undone attempts =>
    exact .set found (delay_id _ errorCode) rfl fun final => by simp [opened] at final

theorem deliveryRecorded_event {work : NotificationWork} {event : OutboxEvent}
    {notification : Notification} (records : DeliveryRecorded before work event notification after) :
    after.events = before.events.modify event.id (finish none) (finish_id none) := by
  cases records with
  | again isOver attempts => rfl
  | first undone attempts => rfl

theorem completed_event {state : WorkerState} {label : Step} {event : OutboxEvent}
    (completes : Completes state label event) :
    state.ledger.events.find? event.id = some event /\ exists row,
      (step state label).ledger.events.find? event.id = some row /\ row.status = .processed := by
  obtain ⟨labelNow, action⟩ := label
  rcases completes with ⟨env, work, delivery, notification, rfl, pending, deliverable⟩ |
    ⟨env, job, rfl, pending, found, type, version⟩
  next =>
    obtain ⟨next, ran⟩ := finalizeNotificationSuccess_records deliverable
    obtain ⟨other, notification', written, records⟩ := finalizeNotificationSuccess_ok ran
    obtain rfl := Option.some.inj (deliverable.found.symm.trans written.found)
    have found := deliverable.found
    rw [<- Table.find?_key found] at found
    refine ⟨found, finish none event, ?_, rfl⟩
    simp only [step, perform, if_pos pending, ran]
    rw [deliveryRecorded_event records, Table.find?_modify, if_pos rfl, found]
    rfl
  next =>
    have keyed := Table.find?_key found
    rw [keyed]
    refine ⟨found, ?_⟩
    by_cases done : event.status = .processed
    next =>
      have ran := completeMediaDeletion_ok.2 ⟨event, found, .inl ⟨done, rfl⟩⟩
      exact ⟨event, by simp only [step, perform, if_pos pending, ran]; exact found, done⟩
    next =>
      have ran := completeMediaDeletion_ok.2 ⟨event, found, .inr ⟨done, type, version, rfl⟩⟩
      refine ⟨finish none event, ?_, rfl⟩
      simp only [step, perform, if_pos pending, ran, Ledger.setEvent]
      rw [Table.find?_modify, if_pos rfl, found]
      rfl

theorem finish_unchanged {event : OutboxEvent} (sound : Sound event) (alive : event.status ≠ .deadLetter)
    (final : terminal event.status = true) : (finish none event).status = event.status := by
  have uncancelled := sound.uncancelled
  cases status : event.status <;> simp_all [terminal, finish]

theorem step_final {state : WorkerState} (steady : Steady state) {label : Step}
    (alive : forall event, Completes state label event -> event.status ≠ .deadLetter) :
    KeepsFinal state.ledger (step state label).ledger := by
  obtain ⟨now, action⟩ := label
  unfold step perform
  cases action with
  | schedule eventId work maxAttempts => exact upsertEvent_final _
  | notify eventId notification maxAttempts =>
    cases ran : notify state.ledger eventId notification maxAttempts with
    | none => exact .same (by simp [ran])
    | some next => simpa [ran] using notify_final ran
  | bridge eventId notificationId maxAttempts =>
    simp only [bridge]
    cases state.ledger.notifications.find? notificationId with
    | none => exact .same rfl
    | some notification =>
      simp only
      split_ifs
      next => exact upsertEvent_final _
      next => exact .same rfl
  | poll env => exact claimAvailable_final env now
  | publish env event =>
    simp only
    split_ifs
    next =>
      cases parseEventPayload event.eventType event.eventVersion event.payload with
      | error errorCode => exact .same rfl
      | ok parsed => exact .same rfl
    next => exact .same rfl
  | mark env eventId =>
    simp only
    split_ifs
    next => exact markPublished_final env eventId now
    next => exact .same rfl
  | deliver env job attemptId expired =>
    simp only
    split_ifs
    next =>
      cases ran : deliver state env job attemptId expired now with
      | ok next => exact deliver_final ran
      | error errorCode => exact .same rfl
    next => exact .same rfl
  | refuse env job errorCode =>
    simp only
    split_ifs <;> exact .same rfl
  | sent env work delivery =>
    simp only
    split_ifs with pending
    next =>
      cases ran : finalizeNotificationSuccess state.ledger work delivery with
      | ok next =>
        obtain ⟨event, notification, deliverable, records⟩ := finalizeNotificationSuccess_ok ran
        have found := deliverable.found
        rw [<- Table.find?_key found] at found
        apply KeepsFinal.set found (finish_id none) (deliveryRecorded_event records)
        exact finish_unchanged (steady.consistent.sound _ event found)
          (alive event (.inl ⟨env, work, delivery, notification, rfl, pending, deliverable⟩))
      | error errorCode => exact .same rfl
    next => exact .same rfl
  | settle env work errorCode =>
    simp only
    split_ifs with pending
    next =>
      cases ran : finalizeNotificationFailure state.ledger env work errorCode now with
      | ok result =>
        obtain ⟨next, outcome⟩ := result
        obtain ⟨event, notification, found, present, records⟩ := finalizeNotificationFailure_ok ran
        obtain ⟨row, here, aimed⟩ := steady.placed _ pending
        obtain rfl := Option.some.inj (found.symm.trans here)
        exact failureRecorded_final steady.consistent found present aimed records
      | error code => exact .same rfl
    next => exact .same rfl
  | deleted env job =>
    simp only
    split_ifs with pending
    next =>
      cases ran : completeMediaDeletion state.ledger job with
      | ok next =>
        obtain ⟨event, found, ⟨-, rfl⟩ | ⟨undone, type, version, rfl⟩⟩ := completeMediaDeletion_ok.1 ran
        next => exact .same rfl
        next =>
          apply KeepsFinal.set found (finish_id none) rfl
          exact finish_unchanged (steady.consistent.sound _ event found)
            (alive event (.inr ⟨env, job, rfl, pending, found, type, version⟩))
      | error errorCode => exact .same rfl
    next => exact .same rfl
  | retry env eventId errorCode =>
    simp only
    split_ifs
    next => exact scheduleRetry_final env eventId errorCode now
    next => exact .same rfl
  | abort task errorCode =>
    simp only
    split_ifs <;> exact .same rfl
  | crash task => exact .same rfl

/-- Final statuses are absorbing in a run exactly when no completion in it is recorded for an event
that is already a dead letter. -/
theorem final_statuses_absorb (labels : List Step) :
    (forall state label, Runs.Takes step opening labels state label ->
        KeepsFinal state.ledger (step state label).ledger) <->
      forall state label event, Runs.Takes step opening labels state label ->
        Completes state label event -> event.status ≠ .deadLetter := by
  constructor
  next =>
    intro keeps state label event taken completes dead
    obtain ⟨found, row, here, processed⟩ := completed_event completes
    obtain ⟨other, there, same⟩ := keeps state label taken event.id event found (by simp [terminal, dead])
    obtain rfl := Option.some.inj (here.symm.trans there)
    simp [processed, dead] at same
  next =>
    intro alive state label taken
    have steady := Runs.visits_keeps step_steady opening_steady (Runs.takes_visits taken).1
    exact step_final steady fun event completes => alive state label event taken completes

-- A message delivered after the sweep turns the dead letter into a processed event.
theorem dead_letter_processed :
    Not (forall labels state label, Runs.Takes step opening labels state label ->
      KeepsFinal state.ledger (step state label).ledger) := by
  intro holds
  have taken : Runs.Takes step opening
      (Sample.sending ++ Sample.polls [211000] ++
        [⟨211500, .sent Sample.environment Sample.work ⟨.smtp, ['m']⟩⟩])
      (Sample.reached (Sample.sending ++ Sample.polls [211000]))
      ⟨211500, .sent Sample.environment Sample.work ⟨.smtp, ['m']⟩⟩ :=
    ⟨Sample.sending ++ Sample.polls [211000], [], rfl, rfl⟩
  have buried : ((Sample.reached (Sample.sending ++ Sample.polls [211000])).ledger.events.find? 1).any
      (fun event => event.status == .deadLetter) = true := by
    decide +kernel
  have processed : ((step (Sample.reached (Sample.sending ++ Sample.polls [211000]))
      ⟨211500, .sent Sample.environment Sample.work ⟨.smtp, ['m']⟩⟩).ledger.events.find? 1).all
        (fun row => row.status == .processed) = true := by
    decide +kernel
  obtain ⟨event, found, dead⟩ := (Option.any_eq_true _ _).1 buried
  rw [beq_iff_eq] at dead
  obtain ⟨row, after, same⟩ := holds _ _ _ taken 1 event found (by simp [terminal, dead])
  rw [after, Option.all_some, beq_iff_eq, same, dead] at processed
  exact absurd processed (by decide)

end VapeCommerce.Worker.Finality
