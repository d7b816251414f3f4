import VapeCommerce.Worker.Consistency

set_option autoImplicit false

-- The delivery attempts of the notifications: how they are numbered and how many are open.
namespace VapeCommerce.Worker.Attempts

open VapeCommerce.Lib VapeCommerce.Lib.Outcome VapeCommerce.Schema
open VapeCommerce.Worker.Outbox VapeCommerce.Worker.Processor VapeCommerce.Worker.Dispatch
open VapeCommerce.Worker.Transactions

abbrev AttemptTable := Table NotificationDeliveryAttempt.id

def stamp (attempt : NotificationDeliveryAttempt) : Id × Nat :=
  (attempt.notificationId, attempt.attemptNumber)

-- What the table has recorded, oldest first.
def stamps (attempts : AttemptTable) : List (Id × Nat) :=
  attempts.rows.map stamp

def openOf (notificationId : Id) (attempt : NotificationDeliveryAttempt) : Bool :=
  attempt.notificationId == notificationId && attempt.status == .processing

def Rising (earlier later : Id × Nat) : Prop :=
  earlier.1 = later.1 -> earlier.2 < later.2

structure WellNumbered (attempts : AttemptTable) : Prop where
  rising : (stamps attempts).Pairwise Rising
  single : forall notificationId, attempts.count (openOf notificationId) <= 1

-- Attempts are only closed, or one is opened after the others of its notification were closed.
inductive Attempted (before after : AttemptTable) : Prop where
  | closed (kept : stamps after = stamps before)
      (fewer : forall notificationId,
        after.count (openOf notificationId) <= before.count (openOf notificationId)) :
      Attempted before after
  | opened (notificationId : Id) (number : Nat)
      (appended : stamps after = stamps before ++ [(notificationId, number)])
      (above : forall earlier, earlier ∈ stamps before -> Rising earlier (notificationId, number))
      (single : after.count (openOf notificationId) <= 1)
      (fewer : forall other, other ≠ notificationId ->
        after.count (openOf other) <= before.count (openOf other)) :
      Attempted before after

theorem Attempted.refl (attempts : AttemptTable) : Attempted attempts attempts :=
  .closed rfl fun _ => Nat.le_refl _

theorem Attempted.of_eq {before after : AttemptTable} (same : after = before) : Attempted before after :=
  same ▸ .refl before

theorem Attempted.onward {before after : AttemptTable} (attempted : Attempted before after) :
    List.IsPrefix (stamps before) (stamps after) := by
  cases attempted with
  | closed kept fewer => exact kept ▸ List.prefix_refl _
  | opened notificationId number appended above single fewer =>
    rw [appended]
    exact List.prefix_append _ _

theorem Attempted.wellNumbered {before after : AttemptTable} (attempted : Attempted before after)
    (old : WellNumbered before) : WellNumbered after := by
  cases attempted with
  | closed kept fewer =>
    exact ⟨kept ▸ old.rising, fun notificationId => (fewer notificationId).trans (old.single _)⟩
  | opened notificationId number appended above single fewer =>
    constructor
    case rising =>
      rw [appended, List.pairwise_append]
      refine ⟨old.rising, List.pairwise_singleton _ _, ?_⟩
      intro earlier recorded later last
      rw [List.mem_singleton.1 last]
      exact above earlier recorded
    case single =>
      intro other
      by_cases same : other = notificationId
      next =>
        rw [same]
        exact single
      next => exact (fewer other same).trans (old.single other)

theorem count_update_le {R K : Type} {key : R -> K} (table : Table key) {counted chosen : R -> Bool}
    {change : R -> R} (keeps : forall row, key (change row) = key row)
    (within : forall row, counted (Table.rewrite chosen change row) = true -> counted row = true) :
    (table.update chosen change keeps).count counted <= table.count counted := by
  simp only [Table.count, Table.filter, Table.update_rows, <- List.countP_eq_length_filter,
    List.countP_map]
  exact List.countP_mono_left fun row _ hit => within row hit

theorem count_inserted {R K : Type} [DecidableEq K] {key : R -> K} {table next : Table key} {row : R}
    (inserted : table.insert? row = some next) (counted : R -> Bool) :
    next.count counted = table.count counted + if counted row then 1 else 0 := by
  obtain ⟨rows, -⟩ := Table.insert?_rows inserted
  simp only [Table.count, Table.filter, rows, List.filter_append, List.length_append]
  cases hit : counted row <;> simp [hit]

-- An update that opens no attempt.
theorem update_attempted (attempts : AttemptTable) {chosen : NotificationDeliveryAttempt -> Bool}
    {change : NotificationDeliveryAttempt -> NotificationDeliveryAttempt}
    (keeps : forall attempt, (change attempt).id = attempt.id)
    (same : forall attempt, stamp (change attempt) = stamp attempt)
    (closes : forall attempt, (change attempt).status ≠ .processing) :
    Attempted attempts (attempts.update chosen change keeps) := by
  apply Attempted.closed
  case kept => exact Table.map_field_rewrite attempts.rows stamp chosen change same
  case fewer =>
    intro notificationId
    apply count_update_le
    intro attempt counted
    cases hit : chosen attempt with
    | true =>
      rw [Table.rewrite_chosen hit] at counted
      simp [openOf, closes attempt] at counted
    | false => rwa [Table.rewrite_other hit] at counted

theorem closeAttempts_attempted (ledger : Ledger) (chosen : NotificationDeliveryAttempt -> Bool)
    {status : NotificationStatus} (closes : status ≠ .processing) (errorCode : Option String) :
    Attempted ledger.attempts (closeAttempts ledger chosen status errorCode).attempts :=
  update_attempted ledger.attempts (close_id status errorCode) (fun _ => rfl) fun _ => closes

theorem le_foldl_max (numbers : List Nat) (start : Nat) :
    start <= numbers.foldl max start /\ forall number, number ∈ numbers ->
      number <= numbers.foldl max start := by
  induction numbers generalizing start with
  | nil => exact ⟨Nat.le_refl start, by simp⟩
  | cons first rest ih =>
    obtain ⟨least, each⟩ := ih (max start first)
    rw [List.foldl_cons]
    constructor
    next => omega
    next =>
      intro number listed
      obtain rfl | later := List.mem_cons.1 listed
      next => omega
      next => exact each number later

theorem nextAttemptNumber_above (ledger : Ledger) (notificationId : Id) {earlier : Id × Nat}
    (recorded : earlier ∈ stamps ledger.attempts) :
    Rising earlier (notificationId, nextAttemptNumber ledger notificationId) := by
  intro same
  obtain ⟨attempt, member, rfl⟩ := List.mem_map.1 recorded
  have counted : attempt.attemptNumber ∈
      (ledger.attempts.filter fun row => row.notificationId == notificationId).map
        NotificationDeliveryAttempt.attemptNumber :=
    List.mem_map_of_mem (List.mem_filter.2 ⟨member, beq_iff_eq.2 same⟩)
  have bound := (le_foldl_max _ 0).2 _ counted
  exact Nat.lt_succ_of_le bound

theorem openAttempt_attempted {ledger opened : Ledger} {attempt : NotificationDeliveryAttempt}
    (ran : openAttempt ledger attempt = .ok opened)
    (number : attempt.attemptNumber = nextAttemptNumber ledger attempt.notificationId) :
    Attempted ledger.attempts opened.attempts := by
  simp only [openAttempt, bind_ok, orThrow_ok, pure_ok] at ran
  obtain ⟨attempts, inserted, rfl⟩ := ran
  change (ledger.attempts.update (openOf attempt.notificationId) lapse lapse_id).insert? attempt =
    some attempts at inserted
  obtain ⟨rows, -⟩ := Table.insert?_rows inserted
  have kept := Table.map_field_rewrite ledger.attempts.rows stamp
    (openOf attempt.notificationId) lapse fun _ => rfl
  apply Attempted.opened attempt.notificationId attempt.attemptNumber
  case appended =>
    simp only [stamps, Ledger.withAttempts, rows, List.map_append, List.map_cons, List.map_nil,
      Table.update_rows]
    rw [kept]
    rfl
  case above => exact fun earlier recorded => number ▸ nextAttemptNumber_above ledger _ recorded
  case single =>
    have none_open : (ledger.attempts.update (openOf attempt.notificationId) lapse lapse_id).count
        (openOf attempt.notificationId) = 0 := by
      simp only [Table.count, Table.filter, Table.update_rows, List.length_eq_zero_iff,
        List.filter_eq_nil_iff]
      intro row member
      obtain ⟨old, -, rfl⟩ := List.mem_map.1 member
      cases hit : openOf attempt.notificationId old with
      | true => simp [Table.rewrite_chosen hit, openOf, lapse]
      | false => rwa [Table.rewrite_other hit, Bool.not_eq_true]
    have counts := count_inserted inserted (openOf attempt.notificationId)
    simp only [Ledger.withAttempts]
    rw [counts, none_open]
    split_ifs <;> omega
  case fewer =>
    intro other apart
    have counts := count_inserted inserted (openOf other)
    have elsewhere : openOf other attempt = false := by
      simp [openOf, Ne.symm apart]
    simp only [Ledger.withAttempts]
    rw [counts, elsewhere]
    apply count_update_le
    intro row counted
    cases hit : openOf attempt.notificationId row with
    | true =>
      rw [Table.rewrite_chosen hit] at counted
      simp [openOf, lapse] at counted
    | false => rwa [Table.rewrite_other hit] at counted

theorem claimNotification_attempted {ledger next : Ledger} {env : WorkerEnvironment}
    {job : OutboxJobData} {attemptId : Id} {now : Int} {claim : Claim NotificationWork}
    (ran : claimNotification ledger env job attemptId now = .ok (next, claim)) :
    Attempted ledger.attempts next.attempts := by
  simp only [claimNotification, lockEvent, lockNotification, assertJobMatches, bind_ok,
    orThrow_ok] at ran
  obtain ⟨event, found, ran⟩ := ran
  split_ifs at ran
  next => exact .of_eq (congrArg Ledger.attempts (Prod.mk.inj (Except.ok.inj ran)).1.symm)
  next => exact .of_eq (congrArg Ledger.attempts (Prod.mk.inj (Except.ok.inj ran)).1.symm)
  simp only [bind_ok, throwIf_ok, exists_const, orThrow_ok] at ran
  obtain ⟨matching, parsed, parse, notificationId, aims, notification, present, ran⟩ := ran
  split_ifs at ran
  next =>
    obtain ⟨rfl, -⟩ := Prod.mk.inj (Except.ok.inj ran)
    exact .refl _
  next =>
    obtain ⟨rfl, -⟩ := Prod.mk.inj (Except.ok.inj ran)
    exact .refl _
  all_goals
    simp only [bind_ok, pure_ok] at ran
    obtain ⟨opened, opens, ran⟩ := ran
    obtain ⟨rfl, -⟩ := Prod.mk.inj ran
    have attempted := openAttempt_attempted opens
    exact attempted rfl

theorem claimMediaDeletion_attempts {ledger next : Ledger} {env : WorkerEnvironment}
    {job : OutboxJobData} {now : Int} {claim : Claim (List MediaObjectDeletion)}
    (ran : claimMediaDeletion ledger env job now = .ok (next, claim)) :
    next.attempts = ledger.attempts := by
  cases claimMediaDeletion_ok ran with
  | closed => rfl
  | changed event handled => rfl

theorem closeOpenAttempt_attempted {ledger next : Ledger} {work : NotificationWork}
    {status : NotificationStatus} {errorCode : Option String} (closes : status ≠ .processing)
    (ran : closeOpenAttempt ledger work status errorCode = .ok next) :
    Attempted ledger.attempts next.attempts := by
  obtain ⟨-, rfl⟩ := closeOpenAttempt_ok.1 ran
  exact closeAttempts_attempted ledger _ closes errorCode

theorem finalizeNotificationSuccess_attempted {ledger next : Ledger} {work : NotificationWork}
    {delivery : NotificationDeliveryResult}
    (ran : finalizeNotificationSuccess ledger work delivery = .ok next) :
    Attempted ledger.attempts next.attempts := by
  simp only [finalizeNotificationSuccess, bind_ok, throwIf_ok, exists_const, pure_ok] at ran
  obtain ⟨-, -, event, -, notification, -, closed, closes, rfl⟩ := ran
  unfold recordDelivery at closes
  split at closes
  next =>
    obtain rfl := Except.ok.inj closes
    exact closeAttempts_attempted ledger _ (by simp) _
  next =>
    obtain rfl := Except.ok.inj closes
    exact closeAttempts_attempted ledger _ (by simp) _
  next =>
    have attempted := closeOpenAttempt_attempted (by simp) closes
    exact attempted

theorem finalizeNotificationFailure_attempted {ledger next : Ledger} {env : WorkerEnvironment}
    {work : NotificationWork} {errorCode : String} {now : Int} {outcome : RetryOutcome}
    (ran : finalizeNotificationFailure ledger env work errorCode now = .ok (next, outcome)) :
    Attempted ledger.attempts next.attempts := by
  simp only [finalizeNotificationFailure, bind_ok] at ran
  obtain ⟨event, -, notification, -, ran⟩ := ran
  split_ifs at ran
  next =>
    obtain ⟨rfl, -⟩ := Prod.mk.inj (Except.ok.inj ran)
    exact closeAttempts_attempted ledger _ (by simp) _
  next =>
    obtain ⟨rfl, -⟩ := Prod.mk.inj (Except.ok.inj ran)
    exact closeAttempts_attempted ledger _ (by simp) _
  all_goals
    simp only [bind_ok, pure_ok] at ran
    obtain ⟨closed, closes, ran⟩ := ran
    obtain ⟨rfl, -⟩ := Prod.mk.inj ran
    have attempted := closeOpenAttempt_attempted (by simp) closes
    exact attempted

theorem deliver_attempted {state : WorkerState} {env : WorkerEnvironment} {job : OutboxJobData}
    {attemptId : Id} {expired : Except String Nat} {now : Int} {next : Ledger} {tasks : List Task}
    (ran : deliver state env job attemptId expired now = .ok (next, tasks)) :
    Attempted state.ledger.attempts next.attempts := by
  unfold deliver at ran
  cases type : job.eventType
  all_goals
    simp only [type, bind_ok, pure_ok] at ran
    obtain ⟨⟨ledger, claim⟩, claims, ran⟩ := ran
    obtain ⟨rfl, rfl⟩ := Prod.mk.inj ran
  case notificationDispatch => exact claimNotification_attempted claims
  case mediaObjectDelete => exact .of_eq (claimMediaDeletion_attempts claims)
  all_goals
    cases processTransaction_ok claims with
    | closed => exact .refl _
    | changed event handled => exact .refl _

theorem upsertEvent_attempts (ledger : Ledger) (event : OutboxEvent) :
    (upsertEvent ledger event).attempts = ledger.attempts := by
  unfold upsertEvent
  split <;> rfl

theorem notify_attempts {ledger next : Ledger} {eventId : Id} {notification : Notification}
    {maxAttempts : Nat} (ran : notify ledger eventId notification maxAttempts = some next) :
    next.attempts = ledger.attempts := by
  simp only [notify, Option.bind_eq_bind, Option.bind_eq_some_iff, Option.pure_def,
    Option.some.injEq] at ran
  obtain ⟨-, -, notifications, -, events, -, rfl⟩ := ran
  rfl

/-- What one step of any instance does to the attempts. -/
theorem step_attempted (state : WorkerState) (label : Step) :
    Attempted state.ledger.attempts (step state label).ledger.attempts := by
  obtain ⟨now, action⟩ := label
  unfold step perform
  cases action with
  | schedule eventId work maxAttempts => exact .of_eq (upsertEvent_attempts _ _)
  | notify eventId notification maxAttempts =>
    cases ran : notify state.ledger eventId notification maxAttempts with
    | none => exact .of_eq (by simp [ran])
    | some next => exact .of_eq (by simp [ran, notify_attempts ran])
  | bridge eventId notificationId maxAttempts =>
    simp only [bridge]
    cases state.ledger.notifications.find? notificationId with
    | none => exact .refl _
    | some notification =>
      simp only
      split_ifs
      next => exact .of_eq (upsertEvent_attempts _ _)
      next => exact .refl _
  | poll env => exact .refl _
  | publish env event =>
    simp only
    split_ifs
    next =>
      cases parseEventPayload event.eventType event.eventVersion event.payload with
      | error errorCode => exact .refl _
      | ok parsed => exact .refl _
    next => exact .refl _
  | mark env eventId =>
    simp only
    split_ifs <;> exact .refl _
  | deliver env job attemptId expired =>
    simp only
    split_ifs
    next =>
      cases ran : deliver state env job attemptId expired now with
      | error errorCode => exact .refl _
      | ok result => exact deliver_attempted ran
    next => exact .refl _
  | refuse env job errorCode =>
    simp only
    split_ifs <;> exact .refl _
  | sent env work delivery =>
    simp only
    split_ifs
    next =>
      cases ran : finalizeNotificationSuccess state.ledger work delivery with
      | error errorCode => exact .refl _
      | ok ledger => exact finalizeNotificationSuccess_attempted ran
    next => exact .refl _
  | settle env work errorCode =>
    simp only
    split_ifs
    next =>
      cases ran : finalizeNotificationFailure state.ledger env work errorCode now with
      | error code => exact .refl _
      | ok result => exact finalizeNotificationFailure_attempted ran
    next => exact .refl _
  | deleted env job =>
    simp only
    split_ifs
    next =>
      cases ran : completeMediaDeletion state.ledger job with
      | error errorCode => exact .refl _
      | ok ledger =>
        obtain ⟨event, -, ⟨-, rfl⟩ | ⟨-, -, -, rfl⟩⟩ := completeMediaDeletion_ok.1 ran
        next => exact .refl _
        next => exact .refl _
    next => exact .refl _
  | retry env eventId errorCode =>
    simp only
    split_ifs <;> exact .refl _
  | abort task errorCode =>
    simp only
    split_ifs <;> exact .refl _
  | crash task => exact .refl _

theorem opening_wellNumbered : WellNumbered opening.ledger.attempts where
  rising := List.Pairwise.nil
  single := fun _ => Nat.zero_le 1

/-- In every reached state the attempts of one notification are numbered upwards and at most one of
them is open. -/
theorem run_wellNumbered (labels : List Step) :
    WellNumbered (Runs.run step opening labels).ledger.attempts :=
  @Runs.run_keeps _ _ step (fun state => WellNumbered state.ledger.attempts)
    (fun state label old => (step_attempted state label).wellNumbered old) opening
    opening_wellNumbered labels

end VapeCommerce.Worker.Attempts
