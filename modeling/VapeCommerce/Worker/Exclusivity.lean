import VapeCommerce.Worker.Attempts
import VapeCommerce.Worker.Leases

set_option autoImplicit false

-- Who holds an event, and how its attempts are counted.
namespace VapeCommerce.Worker.Exclusivity

open VapeCommerce.Lib VapeCommerce.Lib.Outcome VapeCommerce.Schema
open VapeCommerce.Worker.Outbox VapeCommerce.Worker.Processor VapeCommerce.Worker.Dispatch
open VapeCommerce.Worker.Transactions VapeCommerce.Worker.Consistency VapeCommerce.Worker.Leases
open VapeCommerce.Worker.Attempts

-- An instance that is publishing or handling the event under a live lease. The lease of a published
-- event belongs to the queue: whichever instance receives the job goes on with it.
def heldBy (event : OutboxEvent) (now : Int) (instanceId : Id) : Prop :=
  (event.status = .leased \/ event.status = .processing) /\
    event.leaseOwner = some instanceId /\ leaseLive event now = true

-- No instance is given an event that another one holds.
def Exclusive (state : WorkerState) (label : Step) : Prop :=
  forall id event row holder taker, state.ledger.events.find? id = some event ->
    (step state label).ledger.events.find? id = some row ->
      heldBy event label.now holder -> heldBy row label.now taker -> holder = taker

-- A poll hands the event to the instance that asked.
def Claims (state : WorkerState) (label : Step) (id : Id) : Prop :=
  exists env event, label.action = .poll env /\
    event ∈ (claimAvailable state.ledger.events env label.now).2 /\ event.id = id

structure Counted (state : WorkerState) (label : Step) (id : Id) (event row : OutboxEvent) : Prop where
  found : (step state label).ledger.events.find? id = some row
  maximum : row.maxAttempts = event.maxAttempts
  claimed : Claims state label id -> row.attemptCount = event.attemptCount + 1
  unclaimed : Not (Claims state label id) -> row.attemptCount = event.attemptCount

-- A step counts one attempt for each event it claims, and none for any other.
def CountsClaims (state : WorkerState) (label : Step) : Prop :=
  forall id event, state.ledger.events.find? id = some event -> exists row,
    Counted state label id event row

def Bounded (state : WorkerState) : Prop :=
  forall id event, state.ledger.events.find? id = some event ->
    event.attemptCount <= event.maxAttempts

-- What a handler checks before it takes an event over: never the lease.
structure Startable (ledger : Ledger) (job : OutboxJobData) (event : OutboxEvent) : Prop where
  found : ledger.events.find? job.outboxEventId = some event
  opened : terminal event.status = false
  agrees : assertJobMatches event job = .ok ()

def StartsSending (ledger : Ledger) (env : WorkerEnvironment) (attemptId : Id) (event : OutboxEvent) :
    Prop :=
  exists parsed notificationId notification,
    parseEventPayload event.eventType event.eventVersion event.payload = .ok parsed /\
      dispatchTarget event parsed = .ok notificationId /\
        ledger.notifications.find? notificationId = some notification /\
          Not (notification.status = .delivered \/ notification.status = .cancelled) /\
            notification.status ≠ .deadLetter /\ providerFor env notification.channel ≠ .disabled /\
              ledger.attempts.find? attemptId = none

def StartsDeleting (event : OutboxEvent) : Prop :=
  exists parsed objects,
    parseEventPayload event.eventType event.eventVersion event.payload = .ok parsed /\
      objectsOf parsed = .ok objects /\
        Not (event.aggregateType ≠ .productImage \/
          event.deterministicKey ≠ .mediaObjectDelete event.eventVersion event.aggregateId)

def Starts (ledger : Ledger) (env : WorkerEnvironment) (job : OutboxJobData) (attemptId : Id)
    (event : OutboxEvent) : Prop :=
  Startable ledger job event /\
    ((job.eventType = .notificationDispatch /\ StartsSending ledger env attemptId event) \/
      (job.eventType = .mediaObjectDelete /\ StartsDeleting event))

-- A job is delivered to one instance while another still holds its event.
def Overtakes (state : WorkerState) (label : Step) : Prop :=
  exists env job attemptId expired event holder,
    label.action = .deliver env job attemptId expired /\ job ∈ state.jobs /\
      Starts state.ledger env job attemptId event /\ 0 < env.leaseMilliseconds /\
        heldBy event label.now holder /\ holder ≠ env.instanceId

section Claims

theorem claims_iff {state : WorkerState} {now : Int} {env : WorkerEnvironment} {id : Id}
    {event : OutboxEvent} (found : state.ledger.events.find? id = some event) :
    Claims state ⟨now, .poll env⟩ id <->
      id ∈ claimedIds (state.ledger.events.update exhausted sweep sweep_id) env now := by
  constructor
  next =>
    rintro ⟨other, row, asked, member, rfl⟩
    obtain rfl := Action.poll.inj asked
    rw [claimAvailable, List.mem_insertionSort] at member
    have chosen := (List.mem_filter.1 member).2
    simp only [Bool.and_eq_true, decide_eq_true_eq] at chosen
    exact chosen.1.1
  next =>
    intro chosen
    have keyed : event.id = id := Table.find?_key found
    have after := claimAvailable_find? state.ledger.events env now id
    rw [found, Option.map_some,
      (claimed_chosen keyed chosen (claimedIds_claimable found chosen)).2.2] at after
    refine ⟨env, lease env now event, rfl, ?_, keyed⟩
    rw [claimAvailable, List.mem_insertionSort]
    apply List.mem_filter.2
    refine ⟨Table.find?_mem after, ?_⟩
    simp [lease, keyed, chosen]

end Claims

section Moves

-- A change that gives the event back.
structure Frees (change : OutboxEvent -> OutboxEvent) : Prop where
  unleased : forall event, (change event).leased? = false
  counted : forall event, (change event).attemptCount = event.attemptCount
  maximum : forall event, (change event).maxAttempts = event.maxAttempts

theorem frees_finish (errorCode : Option String) : Frees (finish errorCode) :=
  ⟨fun _ => rfl, fun _ => rfl, fun _ => rfl⟩

theorem frees_bury (errorCode : String) : Frees (bury errorCode) :=
  ⟨fun _ => rfl, fun _ => rfl, fun _ => rfl⟩

theorem frees_delay (availableAt : Int) (errorCode : String) : Frees (delay availableAt errorCode) :=
  ⟨fun _ => rfl, fun _ => rfl, fun _ => rfl⟩

theorem frees_sweep : Frees sweep :=
  ⟨fun _ => rfl, fun _ => rfl, fun _ => rfl⟩

-- What a transaction of a handler writes to the events, if it starts only events of one kind.
inductive Written (env : WorkerEnvironment) (now : Int) (starting : OutboxEvent -> Prop)
    (before : Events) : Events -> Prop where
  | same : Written env now starting before before
  | freed (id : Id) (change : OutboxEvent -> OutboxEvent)
      (keeps : forall event, (change event).id = event.id) (frees : Frees change) :
      Written env now starting before (before.modify id change keeps)
  | started (event : OutboxEvent) (found : before.find? event.id = some event)
      (starts : starting event) :
      Written env now starting before (before.modify event.id (start env now) (start_id env now))

-- What one step can make of one event.
inductive Moved (state : WorkerState) (label : Step) (event : OutboxEvent) : OutboxEvent -> Prop where
  | kept : Moved state label event event
  | freed (change : OutboxEvent -> OutboxEvent) (frees : Frees change) :
      Moved state label event (change event)
  | published (env : WorkerEnvironment) (waiting : event.status = .leased)
      (owner : event.leaseOwner = some env.instanceId) :
      Moved state label event (publish env label.now event)
  | started (env : WorkerEnvironment) (job : OutboxJobData) (attemptId : Id)
      (expired : Except String Nat) (delivers : label.action = .deliver env job attemptId expired)
      (queued : job ∈ state.jobs) (starts : Starts state.ledger env job attemptId event) :
      Moved state label event (start env label.now event)

inductive Changed (state : WorkerState) (label : Step) : Option OutboxEvent -> Option OutboxEvent ->
    Prop where
  | absent : Changed state label none none
  | added (row : OutboxEvent) (uncounted : row.attemptCount = 0) : Changed state label none (some row)
  | moved (event row : OutboxEvent) (moved : Moved state label event row) :
      Changed state label (some event) (some row)

variable {ledger next : Ledger} {env : WorkerEnvironment} {job : OutboxJobData} {now : Int}

theorem Written.weaken {starting wider : OutboxEvent -> Prop} {before after : Events}
    (wide : forall event, starting event -> wider event)
    (written : Written env now starting before after) : Written env now wider before after := by
  cases written with
  | same => exact .same
  | freed id change keeps frees => exact .freed id change keeps frees
  | started event found starts => exact .started event found (wide event starts)

theorem claimNotification_written {attemptId : Id} {claim : Claim NotificationWork}
    (ran : claimNotification ledger env job attemptId now = .ok (next, claim)) :
    Written env now (fun event => Startable ledger job event /\
      StartsSending ledger env attemptId event) ledger.events next.events := by
  simp only [claimNotification, lockEvent, lockNotification, bind_ok, orThrow_ok] at ran
  obtain ⟨event, found, ran⟩ := ran
  split_ifs at ran with done ended
  next =>
    obtain ⟨rfl, -⟩ := Prod.mk.inj (Except.ok.inj ran)
    exact .same
  next =>
    obtain ⟨rfl, -⟩ := Prod.mk.inj (Except.ok.inj ran)
    exact .same
  simp only [bind_ok, orThrow_ok] at ran
  obtain ⟨⟨⟩, agrees, parsed, parse, notificationId, aims, notification, present, ran⟩ := ran
  split_ifs at ran with concluded dead disabled
  next =>
    obtain ⟨rfl, -⟩ := Prod.mk.inj (Except.ok.inj ran)
    exact .freed event.id _ (finish_id none) (frees_finish none)
  next =>
    obtain ⟨rfl, -⟩ := Prod.mk.inj (Except.ok.inj ran)
    exact .freed event.id _ (bury_id _) (frees_bury _)
  all_goals
    simp only [bind_ok, openAttempt, orThrow_ok, pure_ok] at ran
    obtain ⟨opened, ⟨attempts, inserted, rfl⟩, ran⟩ := ran
    obtain ⟨rfl, -⟩ := Prod.mk.inj ran
  next => exact .freed event.id _ (finish_id _) (frees_finish _)
  next =>
    have fresh : ledger.attempts.find? attemptId = none := by
      have lapsed := (Table.find?_none _ attemptId).2 (Table.insert?_rows inserted).2
      rwa [Table.find?_update, Option.map_eq_none_iff] at lapsed
    have here := found
    rw [<- Table.find?_key found] at here
    exact .started event here ⟨⟨found, open_of_statuses done ended, agrees⟩, parsed, notificationId,
      notification, parse, aims, present, concluded, dead, disabled, fresh⟩

theorem claimMediaDeletion_written {claim : Claim (List MediaObjectDeletion)}
    (ran : claimMediaDeletion ledger env job now = .ok (next, claim)) :
    Written env now (fun event => Startable ledger job event /\ StartsDeleting event) ledger.events
      next.events := by
  simp only [claimMediaDeletion, lockEvent, bind_ok, orThrow_ok] at ran
  obtain ⟨event, found, ran⟩ := ran
  split_ifs at ran with done ended
  next =>
    obtain ⟨rfl, -⟩ := Prod.mk.inj (Except.ok.inj ran)
    exact .same
  next =>
    obtain ⟨rfl, -⟩ := Prod.mk.inj (Except.ok.inj ran)
    exact .same
  simp only [bind_ok, throwIf_ok, pure_ok] at ran
  obtain ⟨⟨⟩, agrees, parsed, parse, objects, lists, ⟨⟩, aggregate, ran⟩ := ran
  obtain ⟨rfl, -⟩ := Prod.mk.inj ran
  have here := found
  rw [<- Table.find?_key found] at here
  exact .started event here ⟨⟨found, open_of_statuses done ended, agrees⟩, parsed, objects, parse,
    lists, aggregate⟩

theorem eventHandled_written {starting : OutboxEvent -> Prop} {change : OutboxEvent -> OutboxEvent}
    {keeps : forall event, (change event).id = event.id} (frees : Frees change)
    (handles : EventHandled ledger job change keeps next) :
    Written env now starting ledger.events next.events := by
  cases handles with
  | closed => exact .same
  | changed event handled => exact .freed event.id change keeps frees

theorem deliver_written {state : WorkerState} {attemptId : Id} {expired : Except String Nat}
    {tasks : List Task} (ran : deliver state env job attemptId expired now = .ok (next, tasks)) :
    Written env now (Starts state.ledger env job attemptId) state.ledger.events next.events := by
  unfold deliver at ran
  cases type : job.eventType
  all_goals
    simp only [type, bind_ok, pure_ok] at ran
    obtain ⟨⟨handled, claim⟩, claims, ran⟩ := ran
    obtain ⟨rfl, rfl⟩ := Prod.mk.inj ran
  case notificationDispatch =>
    exact (claimNotification_written claims).weaken fun _ starts =>
      ⟨starts.1, .inl ⟨type, starts.2⟩⟩
  case mediaObjectDelete =>
    exact (claimMediaDeletion_written claims).weaken fun _ starts =>
      ⟨starts.1, .inr ⟨type, starts.2⟩⟩
  all_goals exact eventHandled_written (frees_finish none) (processTransaction_ok claims)

theorem deliveryRecorded_written {starting : OutboxEvent -> Prop} {work : NotificationWork}
    {event : OutboxEvent} {notification : Notification}
    (records : DeliveryRecorded ledger work event notification next) :
    Written env now starting ledger.events next.events := by
  cases records with
  | again done attempts => exact .freed event.id _ (finish_id none) (frees_finish none)
  | first undone attempts => exact .freed event.id _ (finish_id none) (frees_finish none)

theorem failureRecorded_written {starting : OutboxEvent -> Prop} {work : NotificationWork}
    {event : OutboxEvent} {notification : Notification} {errorCode : String}
    (records : FailureRecorded ledger env work event notification errorCode now next) :
    Written env now starting ledger.events next.events := by
  cases records with
  | ended isEnded attempts => exact .same
  | repaired delivered unfinished attempts =>
    exact .freed event.id _ (finish_id none) (frees_finish none)
  | lost opened undone spent attempts => exact .freed event.id _ (bury_id _) (frees_bury _)
  | failed opened undone attempts => exact .freed event.id _ (delay_id _ _) (frees_delay _ _)

theorem scheduleRetry_written {starting : OutboxEvent -> Prop} (events : Events) (eventId : Id)
    (errorCode : String) :
    Written env now starting events (scheduleRetry events env eventId errorCode now).1 := by
  unfold scheduleRetry
  cases events.find? eventId with
  | none => exact .same
  | some event =>
    simp only
    split_ifs
    next => exact .same
    next => exact .freed event.id _ (bury_id _) (frees_bury _)
    next => exact .freed event.id _ (delay_id _ _) (frees_delay _ _)

variable {state : WorkerState} {label : Step}

theorem Changed.refl (found : Option OutboxEvent) : Changed state label found found := by
  cases found with
  | none => exact .absent
  | some event => exact .moved event event .kept

theorem Changed.of_eq {before after : Events} (same : after = before) (id : Id) :
    Changed state label (before.find? id) (after.find? id) :=
  same ▸ .refl _

theorem Written.changed {starting : OutboxEvent -> Prop} {after : Events}
    (written : Written env label.now starting state.ledger.events after)
    (starts : forall event, starting event ->
      Moved state label event (start env label.now event)) (id : Id) :
    Changed state label (state.ledger.events.find? id) (after.find? id) := by
  cases written with
  | same => exact .refl _
  | freed changed change keeps frees =>
    rw [Table.find?_modify]
    split_ifs with same
    next =>
      rw [<- same]
      cases state.ledger.events.find? id with
      | none => exact .absent
      | some event => exact .moved event (change event) (.freed change frees)
    next => exact .refl _
  | started other here starting =>
    rw [Table.find?_modify]
    split_ifs with same
    next =>
      rw [same, here]
      exact .moved other (start env label.now other) (starts other starting)
    next => exact .refl _

theorem inserted_changed {events next : Events} {added : OutboxEvent}
    (inserted : events.insert? added = some next) (uncounted : added.attemptCount = 0) (id : Id) :
    Changed state label (events.find? id) (next.find? id) := by
  cases found : events.find? id with
  | some event =>
    rw [find?_before inserted found]
    exact .refl _
  | none =>
    rw [Table.find?_insert? inserted]
    split_ifs
    next => exact .added added uncounted
    next =>
      rw [found]
      exact .absent

theorem upsertEvent_changed {added : OutboxEvent} (uncounted : added.attemptCount = 0) (id : Id) :
    Changed state label (ledger.events.find? id) ((upsertEvent ledger added).events.find? id) := by
  unfold upsertEvent
  split
  next => exact .refl _
  next =>
    cases inserted : ledger.events.insert? added with
    | none => exact .refl _
    | some events => exact inserted_changed inserted uncounted id

theorem notify_changed {eventId : Id} {notification : Notification} {maxAttempts : Nat}
    (ran : notify ledger eventId notification maxAttempts = some next) (id : Id) :
    Changed state label (ledger.events.find? id) (next.events.find? id) := by
  simp only [notify, Option.bind_eq_bind, Option.bind_eq_some_iff, Option.pure_def,
    Option.some.injEq] at ran
  obtain ⟨-, -, notifications, -, events, inserted, rfl⟩ := ran
  exact inserted_changed inserted rfl id

theorem markPublished_changed (env : WorkerEnvironment) (eventId id : Id) :
    Changed state label (state.ledger.events.find? id)
      ((markPublished state.ledger.events env eventId label.now).find? id) := by
  unfold markPublished
  rw [Table.find?_update]
  cases state.ledger.events.find? id with
  | none => exact .absent
  | some event =>
    apply Changed.moved
    unfold Table.rewrite
    split_ifs with hit
    next =>
      simp only [Bool.and_eq_true, beq_iff_eq] at hit
      exact .published env hit.1.2 hit.2
    next => exact .kept

theorem scheduledEvent_uncounted (eventId : Id) (maxAttempts : Nat) (now : Int)
    (work : ScheduledWork) : (scheduledEvent eventId maxAttempts now work).attemptCount = 0 := by
  cases work <;> rfl

-- Every step but a poll.
theorem step_changed (unpolled : forall env, label.action ≠ .poll env) (id : Id) :
    Changed state label (state.ledger.events.find? id)
      ((step state label).ledger.events.find? id) := by
  obtain ⟨now, action⟩ := label
  unfold step perform
  cases action with
  | schedule eventId work maxAttempts =>
    exact upsertEvent_changed (scheduledEvent_uncounted eventId maxAttempts now work) id
  | notify eventId notification maxAttempts =>
    cases ran : notify state.ledger eventId notification maxAttempts with
    | none => exact .of_eq (by simp [ran]) id
    | some next => simpa [ran] using notify_changed ran id
  | bridge eventId notificationId maxAttempts =>
    simp only [bridge]
    cases state.ledger.notifications.find? notificationId with
    | none => exact .refl _
    | some notification =>
      simp only
      split_ifs
      next => exact upsertEvent_changed rfl id
      next => exact .refl _
  | poll env => exact absurd rfl (unpolled env)
  | publish env event =>
    simp only
    split_ifs
    next =>
      cases parseEventPayload event.eventType event.eventVersion event.payload with
      | error errorCode => exact .refl _
      | ok parsed => exact .refl _
    next => exact .refl _
  | mark env eventId =>
    simp only
    split_ifs
    next => exact @markPublished_changed state ⟨now, .mark env eventId⟩ env eventId id
    next => exact .refl _
  | deliver env job attemptId expired =>
    simp only
    split_ifs with queued
    next =>
      cases ran : deliver state env job attemptId expired now with
      | error errorCode => exact .refl _
      | ok result =>
        exact @Written.changed env state ⟨now, .deliver env job attemptId expired⟩ _ _
          (deliver_written ran)
          (fun _ starts => .started env job attemptId expired rfl queued starts) id
    next => exact .refl _
  | refuse env job errorCode =>
    simp only
    split_ifs <;> exact .refl _
  | sent env work delivery =>
    simp only
    split_ifs
    next =>
      cases ran : finalizeNotificationSuccess state.ledger work delivery with
      | error errorCode => exact .refl _
      | ok ledger =>
        obtain ⟨row, notification, -, records⟩ := finalizeNotificationSuccess_ok ran
        exact @Written.changed env state ⟨now, .sent env work delivery⟩ (fun _ => False) _
          (deliveryRecorded_written records) (fun _ => False.elim) id
    next => exact .refl _
  | settle env work errorCode =>
    simp only
    split_ifs
    next =>
      cases ran : finalizeNotificationFailure state.ledger env work errorCode now with
      | error code => exact .refl _
      | ok result =>
        obtain ⟨row, notification, -, -, records⟩ := finalizeNotificationFailure_ok ran
        exact @Written.changed env state ⟨now, .settle env work errorCode⟩ (fun _ => False) _
          (failureRecorded_written records) (fun _ => False.elim) id
    next => exact .refl _
  | deleted env job =>
    simp only
    split_ifs
    next =>
      cases ran : completeMediaDeletion state.ledger job with
      | error errorCode => exact .refl _
      | ok ledger =>
        obtain ⟨row, -, ⟨-, rfl⟩ | ⟨-, -, -, rfl⟩⟩ := completeMediaDeletion_ok.1 ran
        next => exact .refl _
        next =>
          exact @Written.changed env state ⟨now, .deleted env job⟩ (fun _ => False) _
            (.freed job.outboxEventId _ (finish_id none) (frees_finish none)) (fun _ => False.elim) id
    next => exact .refl _
  | retry env eventId errorCode =>
    simp only
    split_ifs
    next =>
      exact @Written.changed env state ⟨now, .retry env eventId errorCode⟩ (fun _ => False) _
        (scheduleRetry_written state.ledger.events eventId errorCode) (fun _ => False.elim) id
    next => exact .refl _
  | abort task errorCode =>
    simp only
    split_ifs <;> exact .refl _
  | crash task => exact .refl _

end Moves

section Steps

variable {state : WorkerState} {label : Step} {id : Id} {event row : OutboxEvent}

theorem unclaimed (unpolled : forall env, label.action ≠ .poll env) (id : Id) :
    Not (Claims state label id) := by
  rintro ⟨env, event, polled, -, -⟩
  exact unpolled env polled

theorem Moved.counted (moved : Moved state label event row) :
    row.maxAttempts = event.maxAttempts /\ row.attemptCount = event.attemptCount := by
  cases moved with
  | kept => exact ⟨rfl, rfl⟩
  | freed change frees => exact ⟨frees.maximum event, frees.counted event⟩
  | published env waiting owner => exact ⟨rfl, rfl⟩
  | started env job attemptId expired delivers queued starts => exact ⟨rfl, rfl⟩

theorem poll_counted {now : Int} {env : WorkerEnvironment}
    (found : state.ledger.events.find? id = some event) :
    exists row, Counted state ⟨now, .poll env⟩ id event row := by
  have keyed : event.id = id := Table.find?_key found
  have after : (step state ⟨now, .poll env⟩).ledger.events.find? id = _ :=
    claimAvailable_find? state.ledger.events env now id
  rw [found, Option.map_some] at after
  refine ⟨_, after, ?_, ?_, ?_⟩
  all_goals
    by_cases chosen : id ∈ claimedIds (state.ledger.events.update exhausted sweep sweep_id) env now
  case pos =>
    rw [(claimed_chosen keyed chosen (claimedIds_claimable found chosen)).2.2]
    rfl
  case neg =>
    rw [claimed_unchosen keyed chosen]
    exact Table.rewrite_field frees_sweep.maximum event
  case pos =>
    intro claims
    rw [(claimed_chosen keyed chosen (claimedIds_claimable found chosen)).2.2]
    rfl
  case neg => exact fun claims => absurd ((claims_iff found).1 claims) chosen
  case pos => exact fun unclaimed => absurd ((claims_iff found).2 chosen) unclaimed
  case neg =>
    intro unclaimed
    rw [claimed_unchosen keyed chosen]
    exact Table.rewrite_field frees_sweep.counted event

theorem Changed.found {old new : Option OutboxEvent} (changed : Changed state label old new)
    (found : old = some event) : exists row, new = some row /\ Moved state label event row := by
  cases changed with
  | absent => simp at found
  | added row uncounted => simp at found
  | moved before row moved =>
    obtain rfl := Option.some.inj found
    exact ⟨row, rfl, moved⟩

/-- What one step of any instance does to the counters of an event. -/
theorem step_counts (state : WorkerState) (label : Step) : CountsClaims state label := by
  intro id event found
  by_cases polled : exists env, label.action = .poll env
  next =>
    obtain ⟨now, action⟩ := label
    obtain ⟨env, rfl⟩ := polled
    exact poll_counted found
  next =>
    have unpolled : forall env, label.action ≠ .poll env := fun env asked => polled ⟨env, asked⟩
    obtain ⟨row, here, moved⟩ := (step_changed unpolled id).found found
    exact ⟨row, here, moved.counted.1, fun claims => absurd claims (unclaimed unpolled id),
      fun _ => moved.counted.2⟩

theorem step_bounded (state : WorkerState) (label : Step) (old : Bounded state) :
    Bounded (step state label) := by
  intro id row found
  by_cases polled : exists env, label.action = .poll env
  next =>
    obtain ⟨now, action⟩ := label
    obtain ⟨env, rfl⟩ := polled
    have after : (step state ⟨now, .poll env⟩).ledger.events.find? id = _ :=
      claimAvailable_find? state.ledger.events env now id
    rw [after] at found
    obtain ⟨event, before, rfl⟩ := Option.map_eq_some_iff.1 found
    have bound := old id event before
    obtain same | swept | leased :=
      @claimed_cases env now _ id event (Table.find?_key before) (claimedIds_claimable before)
    next =>
      rw [same.2]
      exact bound
    next =>
      rw [swept.2]
      exact bound
    next =>
      -- A claim asks for an attempt that is left.
      have spare := leased.2.1
      simp only [claimable, Bool.and_eq_true, decide_eq_true_eq] at spare
      rw [leased.2.2]
      exact spare.1
  next =>
    have changed := @step_changed state label (fun env asked => polled ⟨env, asked⟩) id
    rw [found] at changed
    cases before : state.ledger.events.find? id with
    | none =>
      rw [before] at changed
      cases changed with
      | added row uncounted => omega
    | some event =>
      obtain ⟨row, same, moved⟩ := changed.found before
      obtain rfl := Option.some.inj same
      have bound := old id event before
      have counted := moved.counted
      omega

theorem opening_bounded : Bounded opening := by
  intro id event found
  exact absurd found (by simp [opening, Table.find?])

end Steps

section Holding

variable {state : WorkerState} {label : Step} {event row : OutboxEvent} {now : Int}
  {ledger : Ledger} {env : WorkerEnvironment} {job : OutboxJobData} {attemptId : Id}

theorem leased_of_held {instanceId : Id} (held : heldBy event now instanceId) :
    event.leased? = true := by
  obtain leased | processing := held.1
  next => simp [OutboxEvent.leased?, leased]
  next => simp [OutboxEvent.leased?, processing]

theorem unfinished (opened : terminal event.status = false) :
    event.status ≠ .processed /\ Not (event.status = .deadLetter \/ event.status = .cancelled) := by
  cases status : event.status <;> simp_all [terminal]

theorem one_holder {holder taker : Id} (held : heldBy event now holder)
    (taken : heldBy event now taker) : holder = taker :=
  Option.some.inj (held.2.1.symm.trans taken.2.1)

theorem openAttempt_runs {attempt : NotificationDeliveryAttempt}
    (fresh : ledger.attempts.find? attempt.id = none) :
    exists attempts, openAttempt ledger attempt = .ok (ledger.withAttempts attempts) := by
  have lapsed : (ledger.attempts.update (fun row => row.notificationId == attempt.notificationId &&
      row.status == .processing) lapse lapse_id).find? attempt.id = none := by
    rw [Table.find?_update, fresh]
    rfl
  obtain ⟨attempts, inserted⟩ := Table.insert?_fresh ((Table.find?_none _ _).1 lapsed)
  refine ⟨attempts, ?_⟩
  simp only [openAttempt, bind_ok, orThrow_ok, pure_ok]
  exact ⟨attempts, inserted, rfl⟩

theorem claimNotification_starts (now : Int) (startable : Startable ledger job event)
    (sends : StartsSending ledger env attemptId event) :
    exists next claim, claimNotification ledger env job attemptId now = .ok (next, claim) /\
      next.events = ledger.events.modify event.id (start env now) (start_id env now) := by
  obtain ⟨parsed, notificationId, notification, parse, aims, present, undone, undead, enabled,
    fresh⟩ := sends
  obtain ⟨unprocessed, unended⟩ := unfinished startable.opened
  have opens := @openAttempt_runs ledger {
    id := attemptId
    notificationId
    attemptNumber := nextAttemptNumber ledger notificationId
    provider := providerFor env notification.channel
    status := if providerFor env notification.channel = .disabled then .cancelled else .processing
    safeErrorCode := if providerFor env notification.channel = .disabled then
      some "NOTIFICATION_CHANNEL_DISABLED" else none } fresh
  obtain ⟨attempts, opened⟩ := opens
  refine ⟨((ledger.withAttempts attempts).setNotification notificationId .processing).setEvent event.id
    (start env now) (start_id env now), .perform {
      outboxEventId := event.id
      notificationId
      attemptId
      attemptNumber := nextAttemptNumber ledger notificationId
      provider := providerFor env notification.channel
      channel := notification.channel }, ?_, rfl⟩
  simp only [claimNotification, lockEvent, lockNotification, bind_ok, orThrow_ok]
  refine ⟨event, startable.found, ?_⟩
  rw [if_neg unprocessed, if_neg unended]
  simp only [bind_ok]
  refine ⟨(), startable.agrees, parsed, parse, notificationId, aims, notification,
    (orThrow_ok _ _ _).2 present, ?_⟩
  rw [if_neg undone, if_neg undead]
  simp only [bind_ok]
  refine ⟨_, opened, ?_⟩
  rw [if_neg enabled]
  rfl

theorem claimMediaDeletion_starts (now : Int) (startable : Startable ledger job event)
    (deletes : StartsDeleting event) :
    exists next claim, claimMediaDeletion ledger env job now = .ok (next, claim) /\
      next.events = ledger.events.modify event.id (start env now) (start_id env now) := by
  obtain ⟨parsed, objects, parse, lists, aggregate⟩ := deletes
  obtain ⟨unprocessed, unended⟩ := unfinished startable.opened
  refine ⟨ledger.setEvent event.id (start env now) (start_id env now), .perform objects, ?_, rfl⟩
  simp only [claimMediaDeletion, lockEvent, bind_ok, orThrow_ok]
  refine ⟨event, startable.found, ?_⟩
  rw [if_neg unprocessed, if_neg unended]
  simp only [bind_ok, throwIf_ok]
  exact ⟨(), startable.agrees, parsed, parse, objects, lists, (), aggregate, rfl⟩

theorem deliver_starts {expired : Except String Nat} (now : Int)
    (starts : Starts state.ledger env job attemptId event) :
    exists next tasks, deliver state env job attemptId expired now = .ok (next, tasks) /\
      next.events.find? event.id = some (start env now event) := by
  have found := starts.1.found
  rw [<- Table.find?_key found] at found
  have written : forall next : Ledger,
      next.events = state.ledger.events.modify event.id (start env now) (start_id env now) ->
        next.events.find? event.id = some (start env now event) := by
    intro next same
    rw [same, Table.find?_modify, if_pos rfl, found]
    rfl
  obtain ⟨type, sends⟩ | ⟨type, deletes⟩ := starts.2
  next =>
    obtain ⟨next, claim, ran, same⟩ := claimNotification_starts now starts.1 sends
    refine ⟨next, performed claim (.send env), ?_, written next same⟩
    simp only [deliver, type, ran]
    rfl
  next =>
    obtain ⟨next, claim, ran, same⟩ := @claimMediaDeletion_starts event _ env job now starts.1 deletes
    refine ⟨next, performed claim fun _ => .delete env job, ?_, written next same⟩
    simp only [deliver, type, ran]
    rfl

theorem leaseLive_start (env : WorkerEnvironment) (now : Int) (event : OutboxEvent) :
    leaseLive (start env now event) now = true <-> 0 < env.leaseMilliseconds := by
  simp [leaseLive, start]

theorem poll_exclusive (state : WorkerState) (now : Int) (env : WorkerEnvironment) :
    Exclusive state ⟨now, .poll env⟩ := by
  intro id event row holder taker found here held taken
  have after : (step state ⟨now, .poll env⟩).ledger.events.find? id = _ :=
    claimAvailable_find? state.ledger.events env now id
  rw [here, found, Option.map_some] at after
  obtain rfl := Option.some.inj after
  obtain same | swept | leased :=
    @claimed_cases env now _ id event (Table.find?_key found) (claimedIds_claimable found)
  next =>
    rw [same.2] at taken
    exact one_holder held taken
  next =>
    rw [swept.2] at taken
    exact absurd (leased_of_held taken) (by simp [frees_sweep.unleased])
  next =>
    have unclaimable := live_unclaimable (leased_of_held held) held.2.2
    exact absurd leased.2.1 (by simp [unclaimable])

theorem exclusive_iff (state : WorkerState) (label : Step) :
    Exclusive state label <-> Not (Overtakes state label) := by
  constructor
  next =>
    rintro exclusive ⟨env, job, attemptId, expired, event, holder, delivers, queued, starts, positive,
      held, apart⟩
    obtain ⟨now, action⟩ := label
    obtain rfl : action = .deliver env job attemptId expired := delivers
    obtain ⟨next, tasks, ran, after⟩ := @deliver_starts state event env job attemptId expired now starts
    have found := starts.1.found
    rw [<- Table.find?_key found] at found
    refine apart (exclusive event.id event (start env now event) holder env.instanceId found ?_ held ?_)
    next =>
      simp only [step, perform, if_pos queued, ran]
      exact after
    next => exact ⟨.inr rfl, rfl, (leaseLive_start env now event).2 positive⟩
  next =>
    intro waits id event row holder taker found here held taken
    by_cases polled : exists env, label.action = .poll env
    next =>
      obtain ⟨now, action⟩ := label
      obtain ⟨env, rfl⟩ := polled
      exact poll_exclusive state now env id event row holder taker found here held taken
    next =>
      have unpolled : forall env, label.action ≠ .poll env := fun env asked => polled ⟨env, asked⟩
      obtain ⟨other, there, moved⟩ := (step_changed unpolled id).found found
      obtain rfl := Option.some.inj (here.symm.trans there)
      cases moved with
      | kept => exact one_holder held taken
      | freed change frees =>
        exact absurd (leased_of_held taken) (by simp [frees.unleased event])
      | published env waiting owner =>
        exact absurd taken.1 (by simp [publish])
      | started env job attemptId expired delivers queued starts =>
        have positive := (leaseLive_start env label.now event).1 taken.2.2
        obtain rfl : env.instanceId = taker := Option.some.inj taken.2.1
        by_contra apart
        exact waits ⟨env, job, attemptId, expired, event, holder, delivers, queued, starts, positive,
          held, apart⟩

end Holding

namespace Sample

def firstClaim : OutboxEvent :=
  { dispatchEvent 1 1 8 0 with
    status := .leased
    leaseOwner := some 1
    leaseExpiresAt := some 30000
    attemptCount := 1 }

def secondInstance : WorkerEnvironment :=
  { Dispatch.Sample.environment with instanceId := 2 }

-- The job waits in the queue until the published lease has run out and another instance claims.
def reclaimed : List Step :=
  [⟨0, .notify 1 Dispatch.Sample.notification 8⟩, ⟨0, .poll Dispatch.Sample.environment⟩,
    ⟨1, .publish Dispatch.Sample.environment firstClaim⟩, ⟨2, .mark Dispatch.Sample.environment 1⟩,
    ⟨1000000, .poll secondInstance⟩]

def overtaking : Step :=
  ⟨1000001, .deliver Dispatch.Sample.environment (jobOf firstClaim) 1 (.ok 0)⟩

end Sample

/-- Any number of instances, any interleaving: attempts are counted once a claim and never beyond the
maximum, numbered upwards and open one at a time; and no instance is given an event another one holds
exactly when no job is delivered to one instance while another still holds its event. -/
theorem leases_and_attempts (labels : List Step) :
    (forall state label, Runs.Takes step opening labels state label -> CountsClaims state label /\
        List.IsPrefix (stamps state.ledger.attempts) (stamps (step state label).ledger.attempts)) /\
      (forall state, Runs.Visits step opening labels state ->
        Bounded state /\ WellNumbered state.ledger.attempts) /\
      ((forall state label, Runs.Takes step opening labels state label -> Exclusive state label) <->
        forall state label, Runs.Takes step opening labels state label ->
          Not (Overtakes state label)) := by
  refine ⟨?_, ?_, ?_⟩
  next =>
    intro state label _
    exact ⟨step_counts state label, (step_attempted state label).onward⟩
  next =>
    intro state visited
    have bounded := Runs.visits_keeps step_bounded opening_bounded visited
    obtain ⟨before, after, split, rfl⟩ := visited
    exact ⟨bounded, run_wellNumbered before⟩
  next =>
    constructor
    next => exact fun holds state label taken => (exclusive_iff state label).1 (holds state label taken)
    next => exact fun holds state label taken => (exclusive_iff state label).2 (holds state label taken)

-- The first instance then starts the event under the lease of the second.
theorem held_event_overtaken :
    Not (forall labels state label, Runs.Takes step opening labels state label ->
      Exclusive state label) := by
  intro holds
  have taken : Runs.Takes step opening (Sample.reclaimed ++ [Sample.overtaking])
      (Dispatch.Sample.reached Sample.reclaimed) Sample.overtaking :=
    ⟨Sample.reclaimed, [], rfl, rfl⟩
  have before : ((Dispatch.Sample.reached Sample.reclaimed).ledger.events.find? 1).any
      (fun event => event.status == .leased && event.leaseOwner == some 2 &&
        leaseLive event 1000001) = true := by
    decide +kernel
  have after : ((step (Dispatch.Sample.reached Sample.reclaimed) Sample.overtaking).ledger.events.find?
      1).any (fun row => row.status == .processing && row.leaseOwner == some 1 &&
        leaseLive row 1000001) = true := by
    decide +kernel
  obtain ⟨event, found, held⟩ := (Option.any_eq_true _ _).1 before
  obtain ⟨row, here, started⟩ := (Option.any_eq_true _ _).1 after
  simp only [Bool.and_eq_true, beq_iff_eq] at held started
  have same := holds _ _ _ taken 1 event row 2 1 found here ⟨.inl held.1.1, held.1.2, held.2⟩
    ⟨.inr started.1.1, started.1.2, started.2⟩
  exact absurd same (by decide)

end VapeCommerce.Worker.Exclusivity
