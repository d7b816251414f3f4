import VapeCommerce.Worker.Consistency

set_option autoImplicit false

-- What a poll does to events whose lease is still running.
namespace VapeCommerce.Worker.Leases

open VapeCommerce.Lib VapeCommerce.Lib.Outcome VapeCommerce.Schema
open VapeCommerce.Worker.Outbox VapeCommerce.Worker.Processor VapeCommerce.Worker.Dispatch
open VapeCommerce.Worker.Transactions VapeCommerce.Worker.Consistency

def leaseLive (event : OutboxEvent) (now : Int) : Bool :=
  event.leaseExpiresAt.any fun expiry => now < expiry

-- A poll leaves the status of every event under a live lease as it was.
def KeepsLeased (state : WorkerState) (label : Step) : Prop :=
  forall env id event, label.action = .poll env -> state.ledger.events.find? id = some event ->
    leaseLive event label.now = true -> exists row,
      (step state label).ledger.events.find? id = some row /\ row.status = event.status

-- An attempt in progress under a live lease that a poll turns into a dead letter.
def CutsShort (state : WorkerState) (label : Step) : Prop :=
  exists env id event row, label.action = .poll env /\ state.ledger.events.find? id = some event /\
    leaseLive event label.now = true /\
      (step state label).ledger.events.find? id = some row /\ row.status = .deadLetter

-- No event is given up before its last attempt has begun.
def AttemptsGranted (state : WorkerState) : Prop :=
  forall id event, state.ledger.events.find? id = some event -> event.status = .deadLetter ->
    event.maxAttempts <= event.attemptCount

-- No poll comes upon an event in its last attempt under a live lease.
def LastAttemptsDone (state : WorkerState) (label : Step) : Prop :=
  forall env id event, label.action = .poll env -> state.ledger.events.find? id = some event ->
    leaseLive event label.now = true -> event.attemptCount < event.maxAttempts

theorem leased_of_live {event : OutboxEvent} {now : Int} (sound : Sound event)
    (live : leaseLive event now = true) : event.leased? = true := by
  cases leased : event.leased? with
  | true => rfl
  | false => simp [leaseLive, sound.unleased leased] at live

theorem exhausted_of_leased {event : OutboxEvent} (leased : event.leased? = true) :
    exhausted event = true <-> event.maxAttempts <= event.attemptCount := by
  simp only [OutboxEvent.leased?, Bool.or_eq_true, beq_iff_eq] at leased
  cases status : event.status <;> simp_all [exhausted]

theorem live_unclaimable {event : OutboxEvent} {now : Int} (leased : event.leased? = true)
    (live : leaseLive event now = true) : claimable now event = false := by
  unfold leaseLive at live
  cases expiry : event.leaseExpiresAt with
  | none => simp [expiry] at live
  | some expiry' =>
    simp only [expiry, Option.any_some, decide_eq_true_eq] at live
    simp only [OutboxEvent.leased?, Bool.or_eq_true, beq_iff_eq] at leased
    have unexpired : Not (expiry' <= now) := by omega
    cases status : event.status <;> simp_all [claimable]

-- What one poll does to an event under a live lease.
theorem poll_live {state : WorkerState} (steady : Steady state) {now : Int} {env : WorkerEnvironment}
    {id : Id} {event : OutboxEvent} (found : state.ledger.events.find? id = some event)
    (live : leaseLive event now = true) :
    (step state ⟨now, .poll env⟩).ledger.events.find? id =
      some (if event.attemptCount < event.maxAttempts then event else sweep event) := by
  have leased := leased_of_live (steady.consistent.sound id event found) live
  obtain ⟨ids, events, chosen⟩ := claimAvailable_events state.ledger.events env now
  have after : (step state ⟨now, .poll env⟩).ledger.events.find? id = some (claimed ids env now event) := by
    change (claimAvailable state.ledger.events env now).1.find? id = _
    rw [events, found]
    rfl
  rw [after]
  obtain same | swept | claims :=
    @claimed_cases env now ids id event (Table.find?_key found) (chosen id event found)
  next =>
    have spare : Not (event.maxAttempts <= event.attemptCount) := fun spent => by
      simp [(exhausted_of_leased leased).2 spent] at same
    rw [same.2, if_pos (by omega)]
  next =>
    have spent := (exhausted_of_leased leased).1 swept.1
    rw [swept.2, if_neg (by omega)]
  next => simp [live_unclaimable leased live] at claims

theorem keepsLeased_iff {state : WorkerState} (steady : Steady state) (label : Step) :
    KeepsLeased state label /\ Not (CutsShort state label) <-> LastAttemptsDone state label := by
  obtain ⟨now, action⟩ := label
  constructor
  next =>
    rintro ⟨keeps, uncut⟩ env id event rfl found live
    have after := @poll_live state steady now env id event found live
    by_contra spent
    rw [if_neg spent] at after
    exact uncut ⟨env, id, event, sweep event, rfl, found, live, after, rfl⟩
  next =>
    intro done
    constructor
    next =>
      rintro env id event rfl found live
      have after := @poll_live state steady now env id event found live
      rw [if_pos (done env id event rfl found live)] at after
      exact ⟨event, after, rfl⟩
    next =>
      rintro ⟨env, id, event, row, rfl, found, live, here, dead⟩
      have after := @poll_live state steady now env id event found live
      rw [if_pos (done env id event rfl found live), here] at after
      obtain rfl := Option.some.inj after
      have leased := leased_of_live (steady.consistent.sound id row found) live
      simp [OutboxEvent.leased?, dead] at leased

theorem attempts_granted (labels : List Step) :
    AttemptsGranted (Runs.run step opening labels) :=
  fun id event found => ((run_steady labels).consistent.sound id event found).spent

/-- The polls of a run respect live leases exactly when none of them meets an event whose last
attempt is still under its lease; a dead letter has begun all its attempts in any run. -/
theorem polls_respect_leases (labels : List Step) :
    AttemptsGranted (Runs.run step opening labels) /\
      ((forall state label, Runs.Takes step opening labels state label ->
          KeepsLeased state label /\ Not (CutsShort state label)) <->
        forall state label, Runs.Takes step opening labels state label ->
          LastAttemptsDone state label) := by
  refine ⟨attempts_granted labels, ?_⟩
  have steady : forall state label, Runs.Takes step opening labels state label -> Steady state :=
    fun state label taken => Runs.visits_keeps step_steady opening_steady (Runs.takes_visits taken).1
  constructor
  next => exact fun holds state label taken =>
    (keepsLeased_iff (steady state label taken) label).1 (holds state label taken)
  next => exact fun holds state label taken =>
    (keepsLeased_iff (steady state label taken) label).2 (holds state label taken)

-- The next poll sweeps an event that its last attempt is still sending.
theorem last_attempt_swept :
    Not (forall labels state label, Runs.Takes step opening labels state label ->
      KeepsLeased state label /\ Not (CutsShort state label)) := by
  intro holds
  have taken : Runs.Takes step opening (Sample.sending ++ Sample.polls [211000])
      (Sample.reached Sample.sending) ⟨211000, .poll Sample.environment⟩ :=
    ⟨Sample.sending, [], rfl, rfl⟩
  have sending : ((Sample.reached Sample.sending).ledger.events.find? 1).any
      (fun event => leaseLive event 211000 && event.status == .processing) = true := by
    decide +kernel
  have swept : ((step (Sample.reached Sample.sending)
      ⟨211000, .poll Sample.environment⟩).ledger.events.find? 1).all
        (fun row => row.status == .deadLetter) = true := by
    decide +kernel
  obtain ⟨event, found, live⟩ := (Option.any_eq_true _ _).1 sending
  rw [Bool.and_eq_true, beq_iff_eq] at live
  obtain ⟨row, after, same⟩ := (holds _ _ _ taken).1 Sample.environment 1 event rfl found live.1
  rw [after, Option.all_some, beq_iff_eq, same, live.2] at swept
  exact absurd swept (by decide)

end VapeCommerce.Worker.Leases
