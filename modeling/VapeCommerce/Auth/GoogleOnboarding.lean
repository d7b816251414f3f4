import Mathlib.Logic.Function.Basic
import VapeCommerce.Access.Users
import VapeCommerce.Lib.Runs

set_option autoImplicit false

-- google-oauth-state.service.ts: the onboarding record that one cookie names, its lock and the scripts
-- that change them. Every request runs its Redis commands one by one, between those of the others.
namespace VapeCommerce.Auth.GoogleOnboarding

open VapeCommerce.Lib VapeCommerce.Schema

inductive Mode where
  | create
  | link
deriving DecidableEq, Repr

inductive Locale where
  | fr
  | ar
deriving DecidableEq, Repr

-- Omit<GoogleOnboardingRecord, 'attempts'>
structure OnboardingFields where
  mode : Mode
  subjectHash : Text
  email : Text
  emailNormalized : Text
  fullName : Text
  customerId : Option Text
  returnTo : Text
  locale : Locale
deriving DecidableEq, Repr

structure GoogleOnboardingRecord extends OnboardingFields where
  attempts : Nat
deriving DecidableEq, Repr

-- What the validation library takes for an address, and how the runtime lower-cases a path.
structure SchemaRules where
  isEmail : Text -> Bool
  lower : Text -> Text

variable (rules : SchemaRules)

def safeReturnPath (value : Text) : Bool :=
  let pathname := rules.lower (value.takeWhile fun char => char != '?' && char != '#')
  decide (1 <= value.length) && decide (value.length <= 500) && "/".toList.isPrefixOf value &&
    !"//".toList.isPrefixOf value && !value.contains '\\' && pathname != "/admin".toList &&
    !"/admin/".toList.isPrefixOf pathname && pathname != "/api".toList &&
    !"/api/".toList.isPrefixOf pathname

def emailField (value : Text) : Bool :=
  rules.isEmail value && decide (value.length <= 320)

def onboardingRecordSchema (record : GoogleOnboardingRecord) : Bool :=
  record.subjectHash.length == 64 && emailField rules record.email &&
    emailField rules record.emailNormalized && decide (record.fullName.length <= 120) &&
    record.customerId.all (fun id => decide (1 <= id.length) && decide (id.length <= 30)) &&
    safeReturnPath rules record.returnTo && decide (record.attempts <= 5)

-- The two keys of one onboarding token. A lock holds the random value of the claim that took it.
structure Store where
  record : Option GoogleOnboardingRecord
  lock : Option Nat
deriving DecidableEq, Repr

structure GoogleOnboardingClaim where
  lockValue : Nat
  ttlSeconds : Int
  record : GoogleOnboardingRecord
deriving DecidableEq, Repr

def createOnboarding (fields : OnboardingFields) : Store where
  record := some { fields with attempts := 0 }
  lock := none

-- Each script answers the store it leaves and its reply.
def releaseLockScript (store : Store) (lockValue : Nat) : Store × Nat :=
  if store.lock = some lockValue then ({ store with lock := none }, 1) else (store, 0)

def finishOnboardingScript (store : Store) (lockValue : Nat) : Store × Nat :=
  if store.lock ≠ some lockValue then (store, 0)
  else
    match store.record with
    | none => ({ store with lock := none }, 0)
    | some _ => ({ record := none, lock := none }, 1)

-- The last two arguments of the script: 'DELETE' with nothing, or 'UPDATE' with the next record.
inductive FailedLink where
  | delete
  | update (record : GoogleOnboardingRecord)
deriving DecidableEq, Repr

def recordFailedLinkScript (store : Store) (lockValue : Nat) (argument : FailedLink) : Store × Nat :=
  if store.lock ≠ some lockValue then (store, 0)
  else
    match store.record, argument with
    | none, _ => ({ store with lock := none }, 0)
    | some _, .delete => ({ record := none, lock := none }, 1)
    | some _, .update record => ({ record := some record, lock := none }, 1)

def failedLink (claim : GoogleOnboardingClaim) : FailedLink :=
  let attempts := claim.record.attempts + 1
  if 5 <= attempts then .delete else .update { claim.record with attempts }

-- How far a request is: after its SET, after its GET, with a claim, with a lock that its failed claim
-- still has to release, or without a claim.
inductive Phase where
  | idle
  | locked
  | read (found : Option GoogleOnboardingRecord)
  | claimed (claim : GoogleOnboardingClaim)
  | failing
  | refused
deriving DecidableEq, Repr

-- What the scripts have answered 1 to.
inductive Event where
  | finished (request : Nat)
  | failed (request : Nat)
deriving DecidableEq, Repr

structure State where
  store : Store
  phase : Nat -> Phase
  history : List Event

-- The commands of the requests. Their random lock values are distinct, so a request stands for its own;
-- the server answers TTL with what is left of a key that is there.
inductive Label where
  | lock (request : Nat)
  | get (request : Nat)
  | ttl (request : Nat) (remaining : Int)
  | fault (request : Nat)
  | releaseFailed (request : Nat)
  | finish (request : Nat)
  | release (request : Nat)
  | recordFailedLink (request : Nat)
  | lockExpires
  | recordExpires
deriving DecidableEq, Repr

def State.enter (state : State) (request : Nat) (phase : Phase) : State :=
  { state with phase := Function.update state.phase request phase }

def ttlReply (store : Store) (remaining : Int) : Int :=
  if store.record.isSome then remaining else -2

def claimAnswer (request : Nat) (ttlSeconds : Int) : Option GoogleOnboardingRecord -> Phase
  | none => .failing
  | some record =>
    if ttlSeconds <= 0 then .failing
    else if onboardingRecordSchema rules record then .claimed { lockValue := request, ttlSeconds, record }
    else .failing

-- The reply 1 is what the caller counts as done.
def State.answered (state : State) (result : Store × Nat) (event : Event) : State :=
  { state with
    store := result.1
    history := if result.2 = 1 then state.history ++ [event] else state.history }

def step (state : State) : Label -> State
  | .lock request =>
    match state.phase request, state.store.lock with
    | .idle, none => { state with store.lock := some request }.enter request .locked
    | .idle, some _ => state.enter request .refused
    | _, _ => state
  | .get request =>
    match state.phase request with
    | .locked => state.enter request (.read state.store.record)
    | _ => state
  | .ttl request remaining =>
    match state.phase request with
    | .read found => state.enter request (claimAnswer rules request (ttlReply state.store remaining) found)
    | _ => state
  | .fault request =>
    match state.phase request with
    | .locked => state.enter request .failing
    | .read _ => state.enter request .failing
    | _ => state
  | .releaseFailed request =>
    match state.phase request with
    | .failing =>
      { state with store := (releaseLockScript state.store request).1 }.enter request .refused
    | _ => state
  | .finish request =>
    match state.phase request with
    | .claimed claim =>
      state.answered (finishOnboardingScript state.store claim.lockValue) (.finished request)
    | _ => state
  | .release request =>
    match state.phase request with
    | .claimed claim => { state with store := (releaseLockScript state.store claim.lockValue).1 }
    | _ => state
  | .recordFailedLink request =>
    match state.phase request with
    | .claimed claim =>
      state.answered (recordFailedLinkScript state.store claim.lockValue (failedLink claim))
        (.failed request)
    | _ => state
  | .lockExpires => { state with store.lock := none }
  | .recordExpires => { state with store.record := none }

def opening (fields : OnboardingFields) : State where
  store := createOnboarding fields
  phase := fun _ => .idle
  history := []

def finishes (history : List Event) : Nat :=
  history.countP fun | .finished _ => true | .failed _ => false

def failures (history : List Event) : Nat :=
  history.countP fun | .failed _ => true | .finished _ => false

@[simp]
theorem finishes_finished (history : List Event) (request : Nat) :
    finishes (history ++ [.finished request]) = finishes history + 1 := by
  simp [finishes]

@[simp]
theorem finishes_failed (history : List Event) (request : Nat) :
    finishes (history ++ [.failed request]) = finishes history := by
  simp [finishes]

@[simp]
theorem failures_finished (history : List Event) (request : Nat) :
    failures (history ++ [.finished request]) = failures history := by
  simp [failures]

@[simp]
theorem failures_failed (history : List Event) (request : Nat) :
    failures (history ++ [.failed request]) = failures history + 1 := by
  simp [failures]

-- The record a request has read.
def Phase.known : Phase -> Option GoogleOnboardingRecord
  | .read found => found
  | .claimed claim => some claim.record
  | _ => none

-- What holds of every state: the stored attempts are the recorded failures, and who holds the lock knows
-- the stored record.
structure Sound (state : State) : Prop where
  counted : forall record, state.store.record = some record ->
    record.attempts = failures state.history /\ failures state.history <= 4 /\ finishes state.history = 0
  once : finishes state.history <= 1
  known : forall request seen record, state.store.lock = some request ->
    (state.phase request).known = some seen -> state.store.record = some record -> record = seen
  unlocked : forall request, state.phase request = .idle -> state.store.lock ≠ some request
  own : forall request claim, state.phase request = .claimed claim -> claim.lockValue = request

theorem opening_sound (fields : OnboardingFields) : Sound (opening fields) where
  counted := by simp [opening, createOnboarding, failures, finishes]
  once := by simp [opening, finishes]
  known := by simp [opening, createOnboarding]
  unlocked := by simp [opening, createOnboarding]
  own := by simp [opening]

theorem Sound.enter {state : State} (sound : Sound state) {request : Nat} {phase : Phase}
    (started : phase ≠ .idle)
    (knows : forall seen record, state.store.lock = some request -> phase.known = some seen ->
      state.store.record = some record -> record = seen)
    (own : forall claim, phase = .claimed claim -> claim.lockValue = request) :
    Sound (state.enter request phase) where
  counted := sound.counted
  once := sound.once
  known := by
    intro other seen record locked reads stored
    by_cases same : other = request
    next =>
      subst same
      exact knows seen record locked (by simpa [State.enter] using reads) stored
    next => exact sound.known other seen record locked (by simpa [State.enter, same] using reads) stored
  unlocked := by
    intro other idle
    by_cases same : other = request
    next => exact absurd (by simpa [State.enter, same] using idle) started
    next => exact sound.unlocked other (by simpa [State.enter, same] using idle)
  own := by
    intro other claim claimed
    by_cases same : other = request
    next => exact same ▸ own claim (by simpa [State.enter, same] using claimed)
    next => exact sound.own other claim (by simpa [State.enter, same] using claimed)

-- Keys only go.
structure Within (before after : Store) : Prop where
  record : after.record = before.record \/ after.record = none
  lock : after.lock = before.lock \/ after.lock = none

theorem Sound.drop {state : State} (sound : Sound state) {store : Store}
    (within : Within state.store store) : Sound { state with store } := by
  have stored : forall record, store.record = some record -> state.store.record = some record := by
    intro record here
    rcases within.record with same | gone
    next => exact same ▸ here
    next => simp [gone] at here
  have locked : forall request, store.lock = some request -> state.store.lock = some request := by
    intro request here
    rcases within.lock with same | gone
    next => exact same ▸ here
    next => simp [gone] at here
  exact {
    counted := fun record here => sound.counted record (stored record here)
    once := sound.once
    known := fun request seen record lock reads here =>
      sound.known request seen record (locked request lock) reads (stored record here)
    unlocked := fun request idle lock => sound.unlocked request idle (locked request lock)
    own := sound.own }

theorem releaseLockScript_within (store : Store) (lockValue : Nat) :
    Within store (releaseLockScript store lockValue).1 := by
  unfold releaseLockScript
  split
  next => exact ⟨.inl rfl, .inr rfl⟩
  next => exact ⟨.inl rfl, .inl rfl⟩

theorem finishOnboardingScript_cases (store : Store) (lockValue : Nat) :
    (exists record, store.lock = some lockValue /\ store.record = some record /\
        finishOnboardingScript store lockValue = ({ record := none, lock := none }, 1)) \/
      (finishOnboardingScript store lockValue).2 = 0 /\
        Within store (finishOnboardingScript store lockValue).1 := by
  unfold finishOnboardingScript
  split
  next => exact .inr ⟨rfl, .inl rfl, .inl rfl⟩
  next held =>
    split
    next => exact .inr ⟨rfl, .inl rfl, .inr rfl⟩
    next record stored => exact .inl ⟨record, not_not.1 held, stored, rfl⟩

def FailedLink.next : FailedLink -> Option GoogleOnboardingRecord
  | .delete => none
  | .update record => some record

theorem recordFailedLinkScript_cases (store : Store) (lockValue : Nat) (argument : FailedLink) :
    (exists record, store.lock = some lockValue /\ store.record = some record /\
        recordFailedLinkScript store lockValue argument = ({ record := argument.next, lock := none }, 1)) \/
      (recordFailedLinkScript store lockValue argument).2 = 0 /\
        Within store (recordFailedLinkScript store lockValue argument).1 := by
  unfold recordFailedLinkScript
  split
  next => exact .inr ⟨rfl, .inl rfl, .inl rfl⟩
  next held =>
    split
    next => exact .inr ⟨rfl, .inl rfl, .inr rfl⟩
    next record stored => exact .inl ⟨record, not_not.1 held, stored, rfl⟩
    next record _ stored => exact .inl ⟨record, not_not.1 held, stored, rfl⟩

theorem failedLink_next (claim : GoogleOnboardingClaim) (record : GoogleOnboardingRecord) :
    (failedLink claim).next = some record ->
      record.attempts = claim.record.attempts + 1 /\ record.attempts <= 4 := by
  intro next
  simp only [failedLink] at next
  split at next
  next => simp [FailedLink.next] at next
  next few =>
    obtain rfl := Option.some.inj next
    exact ⟨rfl, Nat.lt_succ_iff.1 (Nat.not_le.1 few)⟩

theorem step_sound (state : State) (label : Label) (sound : Sound state) :
    Sound (step rules state label) := by
  cases label with
  | lock request =>
    simp only [step]
    split
    next idle free =>
      -- Its new holder has not read anything yet.
      exact {
        counted := sound.counted
        once := sound.once
        known := by
          intro other seen record locked reads stored
          obtain rfl := Option.some.inj locked
          simp [State.enter, Phase.known] at reads
        unlocked := by
          intro other still locked
          obtain rfl := Option.some.inj locked
          simp [State.enter] at still
        own := by
          intro other claim claimed
          by_cases same : other = request
          next => simp [State.enter, same] at claimed
          next => exact sound.own other claim (by simpa [State.enter, same] using claimed) }
    next => exact sound.enter (by simp) (by simp [Phase.known]) (by simp)
    next => exact sound
  | get request =>
    simp only [step]
    split
    next =>
      refine sound.enter (by simp) (fun seen record _ reads stored => ?_) (by simp)
      exact Option.some.inj (stored.symm.trans reads)
    next => exact sound
  | ttl request remaining =>
    simp only [step]
    split
    next found read =>
      have before : (state.phase request).known = found := by rw [read]; rfl
      cases found with
      | none => exact sound.enter (by simp [claimAnswer]) (by simp [claimAnswer, Phase.known]) (by simp [claimAnswer])
      | some record =>
        simp only [claimAnswer]
        split
        next => exact sound.enter (by simp) (by simp [Phase.known]) (by simp)
        next =>
          split
          next =>
            refine sound.enter (by simp) (fun seen stored locked reads here => ?_) (by rintro claim ⟨⟩; rfl)
            exact sound.known request seen stored locked (before.trans reads) here
          next => exact sound.enter (by simp) (by simp [Phase.known]) (by simp)
    next => exact sound
  | fault request =>
    simp only [step]
    split
    next => exact sound.enter (by simp) (by simp [Phase.known]) (by simp)
    next => exact sound.enter (by simp) (by simp [Phase.known]) (by simp)
    next => exact sound
  | releaseFailed request =>
    simp only [step]
    split
    next =>
      exact (sound.drop (releaseLockScript_within state.store request)).enter (by simp)
        (by simp [Phase.known]) (by simp)
    next => exact sound
  | finish request =>
    simp only [step]
    split
    next claim claimed =>
      rcases finishOnboardingScript_cases state.store claim.lockValue with done | ⟨refused, within⟩
      next =>
        obtain ⟨record, -, stored, result⟩ := done
        have none_yet := (sound.counted record stored).2.2
        exact {
          counted := by simp [State.answered, result]
          once := by simp [State.answered, result, none_yet]
          known := by simp [State.answered, result]
          unlocked := by simp [State.answered, result]
          own := sound.own }
      next =>
        simp only [State.answered, refused]
        exact sound.drop within
    next => exact sound
  | release request =>
    simp only [step]
    split
    next claim claimed => exact sound.drop (releaseLockScript_within state.store claim.lockValue)
    next => exact sound
  | recordFailedLink request =>
    simp only [step]
    split
    next claim claimed =>
      rcases recordFailedLinkScript_cases state.store claim.lockValue (failedLink claim) with
        done | ⟨refused, within⟩
      next =>
        obtain ⟨record, locked, stored, result⟩ := done
        -- The claim's record is the stored one, so its attempts are those recorded so far.
        have same : record = claim.record := sound.known request claim.record record
          (sound.own request claim claimed ▸ locked) (by simp [claimed, Phase.known]) stored
        obtain ⟨attempts, few, unfinished⟩ := sound.counted record stored
        exact {
          counted := by
            intro next updated
            simp only [State.answered, result] at updated
            obtain ⟨increased, bounded⟩ := failedLink_next claim next updated
            simp only [State.answered, result, if_true, failures_failed, finishes_failed]
            rw [<- same] at increased
            exact ⟨by omega, by omega, unfinished⟩
          once := by simpa [State.answered, result] using sound.once
          known := by simp [State.answered, result]
          unlocked := by simp [State.answered, result]
          own := sound.own }
      next =>
        simp only [State.answered, refused]
        exact sound.drop within
    next => exact sound
  | lockExpires => exact sound.drop ⟨.inl rfl, .inr rfl⟩
  | recordExpires => exact sound.drop ⟨.inr rfl, .inl rfl⟩

-- Only a recorded failure writes a record.
theorem step_record (state : State) (label : Label) :
    (step rules state label).store.record = state.store.record \/
      (step rules state label).store.record = none \/
      exists request claim record, state.phase request = .claimed claim /\
        state.store.lock = some claim.lockValue /\ state.store.record = some record /\
        (step rules state label).store.record = (failedLink claim).next := by
  cases label with
  | lock request =>
    left
    simp only [step]
    split <;> rfl
  | get request =>
    left
    simp only [step]
    split <;> rfl
  | ttl request remaining =>
    left
    simp only [step]
    split <;> rfl
  | fault request =>
    left
    simp only [step]
    split <;> rfl
  | releaseFailed request =>
    simp only [step]
    split
    next => exact (releaseLockScript_within state.store request).record.imp_right .inl
    next => exact .inl rfl
  | finish request =>
    simp only [step]
    split
    next claim claimed =>
      rcases finishOnboardingScript_cases state.store claim.lockValue with ⟨_, -, -, result⟩ | ⟨-, within⟩
      next => exact .inr (.inl (by simp [State.answered, result]))
      next => exact within.record.imp_right .inl
    next => exact .inl rfl
  | release request =>
    simp only [step]
    split
    next claim claimed => exact (releaseLockScript_within state.store claim.lockValue).record.imp_right .inl
    next => exact .inl rfl
  | recordFailedLink request =>
    simp only [step]
    split
    next claim claimed =>
      rcases recordFailedLinkScript_cases state.store claim.lockValue (failedLink claim) with
        ⟨record, locked, stored, result⟩ | ⟨-, within⟩
      next => exact .inr (.inr ⟨request, claim, record, claimed, locked, stored, by simp [State.answered, result]⟩)
      next => exact within.record.imp_right .inl
    next => exact .inl rfl
  | lockExpires => exact .inl rfl
  | recordExpires => exact .inr (.inl rfl)

theorem step_attempts {state : State} (sound : Sound state) {label : Label} {next : GoogleOnboardingRecord}
    (stored : (step rules state label).store.record = some next) :
    exists record, state.store.record = some record /\ record.attempts <= next.attempts := by
  rcases step_record rules state label with same | gone | ⟨request, claim, record, claimed, locked, here, written⟩
  next => exact ⟨next, same ▸ stored, le_rfl⟩
  next => simp [gone] at stored
  next =>
    have same : record = claim.record := sound.known request claim.record record
      (sound.own request claim claimed ▸ locked) (by simp [claimed, Phase.known]) here
    have increased := (failedLink_next claim next (written ▸ stored)).1
    exact ⟨record, here, by rw [same]; omega⟩

-- The steps a claim can take.
def Label.uses (request : Nat) : Label -> Prop
  | .finish other => other = request
  | .release other => other = request
  | .recordFailedLink other => other = request
  | _ => False

theorem lost_claim_idles {state : State} {label : Label} {request : Nat} {claim : GoogleOnboardingClaim}
    (claimed : state.phase request = .claimed claim) (lost : state.store.lock ≠ some claim.lockValue)
    (uses : label.uses request) : step rules state label = state := by
  cases label with
  | finish other =>
    obtain rfl : other = request := uses
    simp [step, claimed, finishOnboardingScript, lost, State.answered]
  | release other =>
    obtain rfl : other = request := uses
    simp [step, claimed, releaseLockScript, lost]
  | recordFailedLink other =>
    obtain rfl : other = request := uses
    simp [step, claimed, recordFailedLinkScript, lost, State.answered]
  | _ => exact absurd uses (by simp [Label.uses])

/-- However the requests of one onboarding cookie interleave and whenever its keys expire, at most one
finish succeeds, the attempts only grow and stay below five, the fifth recorded failure removes the
record, and a claim that has lost its lock changes nothing. -/
theorem onboarding_used_once (fields : OnboardingFields) (labels : List Label) :
    (forall state, Runs.Visits (step rules) (opening fields) labels state ->
      finishes state.history <= 1 /\
      (forall record, state.store.record = some record -> record.attempts <= 4) /\
      (1 <= finishes state.history \/ 5 <= failures state.history -> state.store.record = none)) /\
    forall state label, Runs.Takes (step rules) (opening fields) labels state label ->
      (forall next, (step rules state label).store.record = some next ->
        exists record, state.store.record = some record /\ record.attempts <= next.attempts) /\
      forall request claim, state.phase request = .claimed claim ->
        state.store.lock ≠ some claim.lockValue -> label.uses request -> step rules state label = state := by
  have reached : forall state, Runs.Visits (step rules) (opening fields) labels state -> Sound state :=
    fun state visited => Runs.visits_keeps (step_sound rules) (opening_sound fields) visited
  refine ⟨fun state visited => ?_, fun state label taken => ⟨fun next stored => ?_, ?_⟩⟩
  next =>
    have sound := reached state visited
    refine ⟨sound.once, fun record stored => ?_, fun spent => ?_⟩
    next =>
      obtain ⟨attempts, few, -⟩ := sound.counted record stored
      omega
    next =>
      cases stored : state.store.record with
      | none => rfl
      | some record =>
        obtain ⟨-, few, unfinished⟩ := sound.counted record stored
        omega
  next => exact step_attempts rules (reached state (Runs.takes_visits taken).1) stored
  next => exact fun request claim claimed lost uses => lost_claim_idles rules claimed lost uses

namespace Sample

def schema : SchemaRules where
  isEmail := fun value => value.contains '@'
  lower := id

def fields : OnboardingFields where
  mode := .link
  subjectHash := List.replicate 64 '0'
  email := "a@b".toList
  emailNormalized := "a@b".toList
  fullName := []
  customerId := some ['7']
  returnTo := "/".toList
  locale := .fr

def claims (request : Nat) : List Label :=
  [.lock request, .get request, .ttl request 60]

-- Five wrong passwords; the lock of the first claim expires, so that the second finds one attempt less.
def guesses : List Label :=
  claims 0 ++ [.lockExpires] ++ claims 1 ++ [.recordFailedLink 0, .recordFailedLink 1] ++
    claims 2 ++ [.recordFailedLink 2] ++ claims 3 ++ [.recordFailedLink 3] ++
    claims 4 ++ [.recordFailedLink 4] ++ claims 5 ++ [.recordFailedLink 5]

end Sample

theorem fifth_guess_removes :
    failures (Runs.run (step Sample.schema) (opening Sample.fields) Sample.guesses).history = 5 /\
      (Runs.run (step Sample.schema) (opening Sample.fields) Sample.guesses).store.record = none := by
  have counted : failures (Runs.run (step Sample.schema) (opening Sample.fields)
      Sample.guesses).history = 5 := by decide +kernel
  exact ⟨counted, ((onboarding_used_once Sample.schema Sample.fields Sample.guesses).1 _
    (Runs.visits_end _ _)).2.2 (.inr (by omega))⟩

end VapeCommerce.Auth.GoogleOnboarding
