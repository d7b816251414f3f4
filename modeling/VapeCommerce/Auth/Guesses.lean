import VapeCommerce.Lib.ExpiringKeys
import VapeCommerce.Lib.Runs

set_option autoImplicit false

-- admin-auth.service.ts: the wrong codes that completeTotp checks against one challenge. Each Redis
-- command of a call is a step at a time of its own, in milliseconds since the challenge was issued.
namespace VapeCommerce.Auth.Guesses

open VapeCommerce.Lib VapeCommerce.Lib.ExpiringKeys

-- What the account and the code turn out to be.
inductive Verdict where
  | wrong
  | right
  | unavailable
deriving DecidableEq, Repr

inductive Phase where
  | idle
  | locked
  | fetched
  | validated
  | unavailable
  | invalid
  | counted (attempts : Nat)
  | exhausted
  | verified
  | accepted
  | releasing
  | done
deriving DecidableEq, Repr

-- `wrongCodes` only records.
structure State where
  now : Nat
  challenge : Key Unit
  attempts : Key Nat
  lock : Key Nat
  phases : Nat -> Phase
  wrongCodes : Nat

inductive Action where
  | lockChallenge
  | getChallenge
  | validate (addressMatches : Bool)
  | verifyCode (verdict : Verdict)
  | countAttempt
  | expireAttempts
  | accept (advanced : Bool)
  | deleteChallenge
  | releaseLock
deriving DecidableEq, Repr

-- `delay` is the time since the step before.
structure Label where
  call : Nat
  delay : Nat
  action : Action

def seconds (count : Nat) : Nat := count * 1000

def State.enter (state : State) (call : Nat) (phase : Phase) : State :=
  { state with phases := Function.update state.phases call phase }

def act (preauthTtlMinutes : Nat) (state : State) (call : Nat) : Action -> State
  | .lockChallenge =>
    match state.phases call with
    | .idle =>
      let (lock, acquired) := setNx state.lock call state.now (seconds 15)
      if acquired then { state with lock }.enter call .locked else state.enter call .done
    | _ => state
  | .getChallenge =>
    match state.phases call with
    | .locked =>
      state.enter call (if (get state.challenge state.now).isSome then .fetched else .releasing)
    | _ => state
  | .validate addressMatches =>
    match state.phases call with
    | .fetched =>
      if addressMatches = false \/ state.now > seconds (preauthTtlMinutes * 60) then
        state.enter call .releasing
      else state.enter call .validated
    | _ => state
  | .verifyCode verdict =>
    match state.phases call, verdict with
    | .validated, .wrong => { state with wrongCodes := state.wrongCodes + 1 }.enter call .invalid
    | .validated, .right => state.enter call .verified
    | .validated, .unavailable => state.enter call .unavailable
    | _, _ => state
  | .countAttempt =>
    match state.phases call with
    | .invalid =>
      let attempts := incr state.attempts state.now
      { state with attempts := some attempts }.enter call (.counted attempts.value)
    | _ => state
  | .expireAttempts =>
    match state.phases call with
    | .counted attempts =>
      { state with attempts := expire state.attempts state.now (seconds 300) }.enter call
        (if attempts >= 5 then .exhausted else .releasing)
    | _ => state
  | .accept advanced =>
    match state.phases call with
    | .verified => state.enter call (if advanced then .accepted else .releasing)
    | _ => state
  | .deleteChallenge =>
    match state.phases call with
    | .unavailable => { state with challenge := none }.enter call .releasing
    | .exhausted => { state with challenge := none, attempts := none }.enter call .releasing
    | .accepted => { state with challenge := none, attempts := none }.enter call .releasing
    | _ => state
  | .releaseLock =>
    match state.phases call with
    | .releasing =>
      { state with
        lock := if get state.lock state.now = some call then none else state.lock }.enter call .done
    | _ => state

def State.wait (state : State) (delay : Nat) : State :=
  { state with now := state.now + delay }

def step (preauthTtlMinutes : Nat) (state : State) (label : Label) : State :=
  act preauthTtlMinutes (state.wait label.delay) label.call label.action

-- beginLogin sets the key of the challenge some time after it has taken the time of issue.
def issued (preauthTtlMinutes setAfter : Nat) : State where
  now := setAfter
  challenge := (setNx none () setAfter (seconds (preauthTtlMinutes * 60))).1
  attempts := none
  lock := none
  phases := fun _ => .idle
  wrongCodes := 0

def working : Phase -> Bool
  | .idle => false
  | .done => false
  | _ => true

-- No call gets the lock while another one is still at work.
def LockOutlives (state : State) (label : Label) : Prop :=
  label.action = .lockChallenge -> get state.lock (state.now + label.delay) = none ->
    forall call, working (state.phases call) = false

section Bound

-- The counter holds every wrong code and outlives the first five minutes.
def Holds (attempts : Key Nat) (wrongCodes : Nat) : Prop :=
  (wrongCodes = 0 /\ attempts = none) \/
    exists expiry, seconds 300 <= expiry /\ attempts = some { value := wrongCodes, expiresAt := some expiry }

-- Between two calls.
def Settled (state : State) : Prop :=
  state.wrongCodes <= 5 /\
    (state.challenge ≠ none -> state.now <= seconds 300 ->
      state.wrongCodes <= 4 /\ Holds state.attempts state.wrongCodes)

-- What the call at work knows of the counter. Behind its own wrong code it no longer matters to it
-- how much time has passed.
def Sound (state : State) : Phase -> Prop
  | .fetched => Settled state /\ state.challenge ≠ none
  | .validated => state.wrongCodes <= 4 /\ Holds state.attempts state.wrongCodes
  | .invalid => exists counted, state.wrongCodes = counted + 1 /\ counted <= 4 /\ Holds state.attempts counted
  | .counted attempts => state.wrongCodes <= 5 /\
    (state.now <= seconds 300 -> attempts = state.wrongCodes /\
      exists entry, state.attempts = some entry /\ entry.value = attempts /\
        forall now, now <= seconds 300 -> entry.alive now = true)
  | .exhausted => state.wrongCodes <= 5
  | _ => Settled state

structure Kept (state : State) : Prop where
  alone : forall call other, working (state.phases call) = true ->
    working (state.phases other) = true -> call = other
  sound : forall call, working (state.phases call) = true -> Sound state (state.phases call)
  settled : (forall call, working (state.phases call) = false) -> Settled state

theorem Settled.wait {state : State} (settled : Settled state) (delay : Nat) :
    Settled (state.wait delay) := by
  refine ⟨settled.1, fun alive early => settled.2 alive ?_⟩
  simp only [State.wait] at early
  omega

theorem Sound.wait {state : State} {phase : Phase} (sound : Sound state phase) (delay : Nat) :
    Sound (state.wait delay) phase := by
  cases phase with
  | fetched => exact ⟨sound.1.wait delay, sound.2⟩
  | counted attempts =>
    refine ⟨sound.1, fun early => sound.2 ?_⟩
    simp only [State.wait] at early
    omega
  | validated => exact sound
  | invalid => exact sound
  | exhausted => exact sound
  | idle => exact Settled.wait sound delay
  | locked => exact Settled.wait sound delay
  | unavailable => exact Settled.wait sound delay
  | verified => exact Settled.wait sound delay
  | accepted => exact Settled.wait sound delay
  | releasing => exact Settled.wait sound delay
  | done => exact Settled.wait sound delay

theorem Kept.wait {state : State} (kept : Kept state) (delay : Nat) : Kept (state.wait delay) where
  alone := kept.alone
  sound := fun call works => (kept.sound call works).wait delay
  settled := fun rest => (kept.settled rest).wait delay

theorem enter_same (state : State) (call : Nat) (phase : Phase) :
    (state.enter call phase).phases call = phase := by
  simp [State.enter]

theorem enter_other {state : State} {call other : Nat} (apart : other ≠ call) (phase : Phase) :
    (state.enter call phase).phases other = state.phases other := by
  simp [State.enter, apart]

-- A call that goes on alone, or ends.
theorem Kept.enter {state next : State} {call : Nat} {phase : Phase}
    (others : forall other, other ≠ call -> working (state.phases other) = false)
    (same : next.phases = state.phases)
    (sound : if working phase then Sound next phase else Settled next) :
    Kept (next.enter call phase) := by
  have single : forall other, working ((next.enter call phase).phases other) = true -> other = call := by
    intro other works
    by_contra apart
    rw [enter_other apart, same, others other apart] at works
    simp at works
  constructor
  next =>
    intro first second works works'
    rw [single first works, single second works']
  next =>
    intro other works
    obtain rfl := single other works
    rw [enter_same] at works ⊢
    rw [if_pos works] at sound
    exact sound
  next =>
    intro rest
    have ended := rest call
    rw [enter_same] at ended
    rw [if_neg (by rw [ended]; simp)] at sound
    exact sound

theorem Kept.refuse {state : State} (kept : Kept state) {call : Nat}
    (here : state.phases call = .idle) : Kept (state.enter call .done) := by
  have same : forall other, working ((state.enter call .done).phases other) = working (state.phases other) := by
    intro other
    by_cases apart : other = call
    next =>
      subst apart
      rw [enter_same, here]
      rfl
    next => rw [enter_other apart]
  have phase : forall other, working (state.phases other) = true ->
      (state.enter call .done).phases other = state.phases other := by
    intro other works
    refine enter_other ?_ .done
    rintro rfl
    rw [here] at works
    simp [working] at works
  constructor
  next =>
    intro first second works works'
    rw [same] at works works'
    exact kept.alone first second works works'
  next =>
    intro other works
    rw [same] at works
    rw [phase other works]
    exact kept.sound other works
  next => exact fun rest => kept.settled fun other => (same other).symm.trans (rest other)

theorem Kept.others {state : State} (kept : Kept state) {call : Nat} {phase : Phase}
    (here : state.phases call = phase) (works : working phase = true) :
    forall other, other ≠ call -> working (state.phases other) = false := by
  intro other apart
  by_contra busy
  exact apart (kept.alone other call (by simpa using busy) (by rw [here]; exact works))

theorem Kept.at {state : State} (kept : Kept state) {call : Nat} {phase : Phase}
    (here : state.phases call = phase) (works : working phase = true) : Sound state phase := by
  have sound := kept.sound call (by rw [here]; exact works)
  rw [here] at sound
  exact sound

-- The counter after a wrong code, unless five minutes are over.
theorem incr_holds {attempts : Key Nat} {counted : Nat} (holds : Holds attempts counted) {now : Nat}
    (early : now <= seconds 300) :
    (incr attempts now).value = counted + 1 /\
      forall later, later <= seconds 300 -> (incr attempts now).alive later = true := by
  rcases holds with ⟨rfl, rfl⟩ | ⟨expiry, late, rfl⟩
  next => exact ⟨rfl, fun _ _ => rfl⟩
  next =>
    rw [incr_alive (alive_until (by omega))]
    exact ⟨rfl, fun later early => alive_until (by omega)⟩

theorem settled_of_deleted {state : State} (few : state.wrongCodes <= 5)
    (deleted : state.challenge = none) : Settled state :=
  ⟨few, fun present => absurd deleted present⟩

theorem settled_of_holds {state : State} (few : state.wrongCodes <= 4)
    (holds : Holds state.attempts state.wrongCodes) : Settled state :=
  ⟨by omega, fun _ _ => ⟨few, holds⟩⟩

variable {preauthTtlMinutes : Nat}

theorem act_kept (short : preauthTtlMinutes <= 5) {state : State} (kept : Kept state) (call : Nat)
    (action : Action)
    (outlives : action = .lockChallenge -> get state.lock state.now = none ->
      forall other, working (state.phases other) = false) :
    Kept (act preauthTtlMinutes state call action) := by
  cases action with
  | lockChallenge =>
    simp only [act]
    split
    next here =>
      by_cases held : (get state.lock state.now).isSome = true
      next =>
        rw [show setNx state.lock call state.now (seconds 15) = (state.lock, false) from if_pos held]
        exact kept.refuse here
      next =>
        have rest := outlives rfl (by simpa using held)
        rw [show setNx state.lock call state.now (seconds 15) = _ from if_neg held]
        exact Kept.enter (fun other _ => rest other) rfl (kept.settled rest)
    next => exact kept
  | getChallenge =>
    simp only [act]
    split
    next here =>
      have settled : Settled state := kept.at here rfl
      split
      next present =>
        refine Kept.enter (kept.others here rfl) rfl ⟨settled, fun gone => ?_⟩
        rw [gone] at present
        simp [ExpiringKeys.get] at present
      next => exact Kept.enter (kept.others here rfl) rfl settled
    next => exact kept
  | validate addressMatches =>
    simp only [act]
    split
    next here =>
      obtain ⟨settled, present⟩ : Settled state /\ state.challenge ≠ none := kept.at here rfl
      split
      next => exact Kept.enter (kept.others here rfl) rfl settled
      next valid =>
        refine Kept.enter (kept.others here rfl) rfl (settled.2 present ?_)
        simp only [seconds, not_or, Nat.not_lt, gt_iff_lt] at valid ⊢
        omega
    next => exact kept
  | verifyCode verdict =>
    simp only [act]
    split
    next here =>
      obtain ⟨few, holds⟩ : state.wrongCodes <= 4 /\ Holds state.attempts state.wrongCodes := kept.at here rfl
      exact Kept.enter (kept.others here rfl) rfl ⟨state.wrongCodes, rfl, few, holds⟩
    next here =>
      obtain ⟨few, holds⟩ : state.wrongCodes <= 4 /\ Holds state.attempts state.wrongCodes := kept.at here rfl
      exact Kept.enter (kept.others here rfl) rfl (settled_of_holds few holds)
    next here =>
      obtain ⟨few, holds⟩ : state.wrongCodes <= 4 /\ Holds state.attempts state.wrongCodes := kept.at here rfl
      exact Kept.enter (kept.others here rfl) rfl (settled_of_holds few holds)
    next => exact kept
  | countAttempt =>
    simp only [act]
    split
    next here =>
      obtain ⟨counted, wrong, few, holds⟩ : exists counted, state.wrongCodes = counted + 1 /\
        counted <= 4 /\ Holds state.attempts counted := kept.at here rfl
      refine Kept.enter (kept.others here rfl) rfl ⟨by dsimp only; omega, fun early => ?_⟩
      obtain ⟨value, alive⟩ := incr_holds holds early
      exact ⟨value.trans wrong.symm, _, rfl, rfl, alive⟩
    next => exact kept
  | expireAttempts =>
    simp only [act]
    split
    next attempts here =>
      obtain ⟨few, counts⟩ : Sound state (.counted attempts) := kept.at here rfl
      split
      next => exact Kept.enter (kept.others here rfl) rfl few
      next below =>
        refine Kept.enter (kept.others here rfl) rfl ⟨few, fun _ early => ?_⟩
        obtain ⟨same, entry, attempts', value, alive⟩ := counts early
        refine ⟨by dsimp only; omega, .inr ⟨state.now + seconds 300, Nat.le_add_left .., ?_⟩⟩
        dsimp only
        rw [attempts', expire_alive (alive _ early), value, same]
    next => exact kept
  | accept advanced =>
    simp only [act]
    split
    next here =>
      have settled : Settled state := kept.at here rfl
      split
      next => exact Kept.enter (kept.others here rfl) rfl settled
      next => exact Kept.enter (kept.others here rfl) rfl settled
    next => exact kept
  | deleteChallenge =>
    simp only [act]
    split
    next here =>
      have settled : Settled state := kept.at here rfl
      exact Kept.enter (kept.others here rfl) rfl (settled_of_deleted settled.1 rfl)
    next here =>
      have few : state.wrongCodes <= 5 := kept.at here rfl
      exact Kept.enter (kept.others here rfl) rfl (settled_of_deleted few rfl)
    next here =>
      have settled : Settled state := kept.at here rfl
      exact Kept.enter (kept.others here rfl) rfl (settled_of_deleted settled.1 rfl)
    next => exact kept
  | releaseLock =>
    simp only [act]
    split
    next here =>
      have settled : Settled state := kept.at here rfl
      exact Kept.enter (kept.others here rfl) rfl settled
    next => exact kept

theorem step_kept (short : preauthTtlMinutes <= 5) (state : State) (label : Label) (kept : Kept state)
    (outlives : LockOutlives state label) : Kept (step preauthTtlMinutes state label) :=
  act_kept short (kept.wait label.delay) label.call label.action outlives

theorem issued_kept (preauthTtlMinutes setAfter : Nat) : Kept (issued preauthTtlMinutes setAfter) where
  alone := by simp [issued, working]
  sound := by simp [issued, working]
  settled := fun _ => ⟨Nat.zero_le _, fun _ _ => ⟨Nat.zero_le _, .inl ⟨rfl, rfl⟩⟩⟩

theorem Sound.few {state : State} {phase : Phase} (sound : Sound state phase) : state.wrongCodes <= 5 := by
  cases phase with
  | fetched => exact sound.1.1
  | validated => exact Nat.le_succ_of_le sound.1
  | invalid =>
    obtain ⟨counted, same, few, _⟩ := sound
    omega
  | counted attempts => exact sound.1
  | exhausted => exact sound
  | idle => exact sound.1
  | locked => exact sound.1
  | unavailable => exact sound.1
  | verified => exact sound.1
  | accepted => exact sound.1
  | releasing => exact sound.1
  | done => exact sound.1

theorem Kept.few {state : State} (kept : Kept state) : state.wrongCodes <= 5 := by
  by_cases rest : forall call, working (state.phases call) = false
  next => exact (kept.settled rest).1
  next =>
    obtain ⟨call, works⟩ := not_forall.1 rest
    exact (kept.sound call (by simpa using works)).few

end Bound

section Spacing

-- A whole call with a wrong code, some time after the one before.
def wrongCall (call delay : Nat) : List Label :=
  [⟨call, delay, .lockChallenge⟩, ⟨call, 0, .getChallenge⟩, ⟨call, 0, .validate true⟩,
    ⟨call, 0, .verifyCode .wrong⟩, ⟨call, 0, .countAttempt⟩, ⟨call, 0, .expireAttempts⟩,
    ⟨call, 0, .releaseLock⟩]

-- Four wrong codes, a pause of a little over five minutes, and two more.
def spaced : List Label :=
  wrongCall 0 0 ++ wrongCall 1 0 ++ wrongCall 2 0 ++ wrongCall 3 0 ++ wrongCall 4 (seconds 300 + 1) ++
    wrongCall 5 0

variable (preauthTtlMinutes : Nat)

-- The first calls are done, the next one is at work and the others have not begun.
def during (now wrongCodes calls : Nat) (phase : Phase) (lock attempts : Key Nat) : State where
  now := now
  challenge := some { value := (), expiresAt := some (seconds (preauthTtlMinutes * 60)) }
  attempts := attempts
  lock := lock
  phases := fun call => if call < calls then .done else if call = calls then phase else .idle
  wrongCodes := wrongCodes

variable {preauthTtlMinutes} {now wrongCodes calls delay : Nat} {phase : Phase} {lock attempts : Key Nat}

theorem during_here :
    (during preauthTtlMinutes now wrongCodes calls phase lock attempts).phases calls = phase := by
  simp [during]

theorem during_enter (next : Phase) :
    (during preauthTtlMinutes now wrongCodes calls phase lock attempts).enter calls next =
      during preauthTtlMinutes now wrongCodes calls next lock attempts := by
  simp only [State.enter, during, State.mk.injEq, true_and, and_true]
  funext call
  by_cases same : call = calls
  next =>
    subst same
    simp
  next => simp [same]

theorem during_wait : (during preauthTtlMinutes now wrongCodes calls phase lock attempts).wait delay =
    during preauthTtlMinutes (now + delay) wrongCodes calls phase lock attempts :=
  rfl

theorem during_ended :
    during preauthTtlMinutes now wrongCodes calls .done none attempts =
      during preauthTtlMinutes now wrongCodes (calls + 1) .idle none attempts := by
  simp only [during, State.mk.injEq, true_and, and_true]
  funext call
  rcases Nat.lt_trichotomy call calls with less | rfl | more
  next => simp [less, Nat.lt_succ_of_lt less]
  next => simp
  next => simp [Nat.not_lt.2 (Nat.le_of_lt more), Nat.not_lt.2 (Nat.succ_le_of_lt more), Nat.ne_of_gt more]

/-- A whole call with a wrong code that is not the fifth of its counter. -/
theorem wrongCall_run (alive : now + delay <= seconds (preauthTtlMinutes * 60))
    (few : (incr attempts (now + delay)).value < 5) :
    Runs.run (step preauthTtlMinutes)
      (during preauthTtlMinutes now wrongCodes calls .idle none attempts) (wrongCall calls delay) =
      during preauthTtlMinutes (now + delay) (wrongCodes + 1) (calls + 1) .idle none
        (expire (some (incr attempts (now + delay))) (now + delay) (seconds 300)) := by
  let held : Key Nat := some { value := calls, expiresAt := some (now + delay + seconds 15) }
  let counted : Key Nat := some (incr attempts (now + delay))
  let limited : Key Nat := expire counted (now + delay) (seconds 300)
  have goes := fun (wrongCodes : Nat) (phase next : Phase) (lock attempts : Key Nat) =>
    @during_enter preauthTtlMinutes (now + delay) wrongCodes calls phase lock attempts next
  have locks : step preauthTtlMinutes
      (during preauthTtlMinutes now wrongCodes calls .idle none attempts) ⟨calls, delay, .lockChallenge⟩ =
      during preauthTtlMinutes (now + delay) wrongCodes calls .locked held attempts := by
    simp only [step, during_wait, act, during_here]
    exact goes wrongCodes .idle .locked held attempts
  have gets : step preauthTtlMinutes
      (during preauthTtlMinutes (now + delay) wrongCodes calls .locked held attempts)
      ⟨calls, 0, .getChallenge⟩ =
      during preauthTtlMinutes (now + delay) wrongCodes calls .fetched held attempts := by
    have present : (ExpiringKeys.get (during preauthTtlMinutes (now + delay) wrongCodes calls .locked
        held attempts).challenge (now + delay)).isSome = true := by
      simp [during, ExpiringKeys.get, Option.filter, Entry.alive, alive]
    simp only [step, during_wait, act, during_here, Nat.add_zero]
    rw [goes]
    exact congrArg (fun phase => during preauthTtlMinutes (now + delay) wrongCodes calls phase held attempts)
      (if_pos present)
  have validates : step preauthTtlMinutes
      (during preauthTtlMinutes (now + delay) wrongCodes calls .fetched held attempts)
      ⟨calls, 0, .validate true⟩ =
      during preauthTtlMinutes (now + delay) wrongCodes calls .validated held attempts := by
    have valid : Not (true = false \/ now + delay > seconds (preauthTtlMinutes * 60)) := by
      simp only [Bool.true_eq_false, false_or, Nat.not_lt, gt_iff_lt]
      exact alive
    simp only [step, during_wait, act, during_here, Nat.add_zero]
    exact (if_neg valid).trans (goes wrongCodes .fetched .validated held attempts)
  have verifies : step preauthTtlMinutes
      (during preauthTtlMinutes (now + delay) wrongCodes calls .validated held attempts)
      ⟨calls, 0, .verifyCode .wrong⟩ =
      during preauthTtlMinutes (now + delay) (wrongCodes + 1) calls .invalid held attempts := by
    simp only [step, during_wait, act, during_here, Nat.add_zero]
    exact goes (wrongCodes + 1) .validated .invalid held attempts
  have counts : step preauthTtlMinutes
      (during preauthTtlMinutes (now + delay) (wrongCodes + 1) calls .invalid held attempts)
      ⟨calls, 0, .countAttempt⟩ =
      during preauthTtlMinutes (now + delay) (wrongCodes + 1) calls
        (.counted (incr attempts (now + delay)).value) held counted := by
    simp only [step, during_wait, act, during_here, Nat.add_zero]
    exact goes (wrongCodes + 1) .invalid _ held counted
  have expires : step preauthTtlMinutes
      (during preauthTtlMinutes (now + delay) (wrongCodes + 1) calls
        (.counted (incr attempts (now + delay)).value) held counted)
      ⟨calls, 0, .expireAttempts⟩ =
      during preauthTtlMinutes (now + delay) (wrongCodes + 1) calls .releasing held limited := by
    simp only [step, during_wait, act, during_here, Nat.add_zero]
    rw [if_neg (Nat.not_le.2 few)]
    exact goes (wrongCodes + 1) _ .releasing held limited
  have releases : step preauthTtlMinutes
      (during preauthTtlMinutes (now + delay) (wrongCodes + 1) calls .releasing held limited)
      ⟨calls, 0, .releaseLock⟩ =
      during preauthTtlMinutes (now + delay) (wrongCodes + 1) calls .done none limited := by
    have own : ExpiringKeys.get held (now + delay) = some calls := by
      simp [held, ExpiringKeys.get, Option.filter, Entry.alive]
    simp only [step, during_wait, act, during_here, Nat.add_zero]
    exact (goes (wrongCodes + 1) .releasing .done _ limited).trans
      (congrArg (fun lock => during preauthTtlMinutes (now + delay) (wrongCodes + 1) calls .done lock limited)
        (if_pos own))
  simp only [wrongCall, Runs.run_cons, Runs.run_nil]
  rw [locks, gets, validates, verifies, counts, expires, releases, during_ended]

-- Of a call that comes after the others, only the first step needs that they are at rest.
theorem wrongCall_outlives {rest : List Label} {state : State} {label : Label}
    (taken : Runs.Takes (step preauthTtlMinutes)
      (during preauthTtlMinutes now wrongCodes calls .idle none attempts)
      (wrongCall calls delay ++ rest) state label) :
    LockOutlives state label \/ Runs.Takes (step preauthTtlMinutes)
      (Runs.run (step preauthTtlMinutes)
        (during preauthTtlMinutes now wrongCodes calls .idle none attempts) (wrongCall calls delay))
      rest state label := by
  have other : forall {state : State} {call delay : Nat} {action : Action},
      action ≠ .lockChallenge -> LockOutlives state ⟨call, delay, action⟩ :=
    fun apart locks => absurd locks apart
  simp only [wrongCall, List.cons_append, List.nil_append, Runs.takes_cons] at taken
  rcases taken with ⟨rfl, rfl⟩ | ⟨_, rfl⟩ | ⟨_, rfl⟩ | ⟨_, rfl⟩ | ⟨_, rfl⟩ | ⟨_, rfl⟩ | ⟨_, rfl⟩ | taken
  next =>
    refine .inl fun _ _ call => ?_
    simp only [during]
    split
    next => rfl
    next => split <;> rfl
  next => exact .inl (other (by decide))
  next => exact .inl (other (by decide))
  next => exact .inl (other (by decide))
  next => exact .inl (other (by decide))
  next => exact .inl (other (by decide))
  next => exact .inl (other (by decide))
  next => exact .inr taken

def counter (count now : Nat) : Key Nat :=
  some { value := count, expiresAt := some (now + seconds 300) }

-- Between two calls when every call before had a wrong code.
def between (preauthTtlMinutes now calls : Nat) (attempts : Key Nat) : State :=
  during preauthTtlMinutes now calls calls .idle none attempts

-- The state after each of the spaced calls: the pause lets the counter lapse.
theorem spaced_calls (long : seconds 300 + 1 <= seconds (preauthTtlMinutes * 60)) :
    Runs.run (step preauthTtlMinutes) (between preauthTtlMinutes 0 0 none) (wrongCall 0 0) =
        between preauthTtlMinutes 0 1 (counter 1 0) /\
      Runs.run (step preauthTtlMinutes) (between preauthTtlMinutes 0 1 (counter 1 0)) (wrongCall 1 0) =
        between preauthTtlMinutes 0 2 (counter 2 0) /\
      Runs.run (step preauthTtlMinutes) (between preauthTtlMinutes 0 2 (counter 2 0)) (wrongCall 2 0) =
        between preauthTtlMinutes 0 3 (counter 3 0) /\
      Runs.run (step preauthTtlMinutes) (between preauthTtlMinutes 0 3 (counter 3 0)) (wrongCall 3 0) =
        between preauthTtlMinutes 0 4 (counter 4 0) /\
      Runs.run (step preauthTtlMinutes) (between preauthTtlMinutes 0 4 (counter 4 0))
          (wrongCall 4 (seconds 300 + 1)) =
        between preauthTtlMinutes (seconds 300 + 1) 5 (counter 1 (seconds 300 + 1)) /\
      Runs.run (step preauthTtlMinutes)
          (between preauthTtlMinutes (seconds 300 + 1) 5 (counter 1 (seconds 300 + 1))) (wrongCall 5 0) =
        between preauthTtlMinutes (seconds 300 + 1) 6 (counter 2 (seconds 300 + 1)) := by
  refine ⟨?_, ?_, ?_, ?_, ?_, ?_⟩
  next => exact wrongCall_run (Nat.zero_le _) (by decide)
  next => exact wrongCall_run (Nat.zero_le _) (by decide)
  next => exact wrongCall_run (Nat.zero_le _) (by decide)
  next => exact wrongCall_run (Nat.zero_le _) (by decide)
  next => exact wrongCall_run (by omega) (by decide)
  next => exact wrongCall_run (by omega) (by decide)

theorem issued_between : issued preauthTtlMinutes 0 = between preauthTtlMinutes 0 0 none := by
  simp [issued, between, during, setNx, ExpiringKeys.get]

theorem spaced_run (long : seconds 300 + 1 <= seconds (preauthTtlMinutes * 60)) :
    (Runs.run (step preauthTtlMinutes) (issued preauthTtlMinutes 0) spaced).wrongCodes = 6 := by
  obtain ⟨first, second, third, fourth, fifth, sixth⟩ := spaced_calls long
  simp only [spaced, issued_between, Runs.run_append]
  rw [first, second, third, fourth, fifth, sixth]
  rfl

theorem between_outlives {rest : List Label} {state : State} {label : Label}
    (taken : Runs.Takes (step preauthTtlMinutes) (between preauthTtlMinutes now calls attempts)
      (wrongCall calls delay ++ rest) state label) :
    LockOutlives state label \/ Runs.Takes (step preauthTtlMinutes)
      (Runs.run (step preauthTtlMinutes) (between preauthTtlMinutes now calls attempts)
        (wrongCall calls delay)) rest state label :=
  wrongCall_outlives taken

theorem spaced_outlives (long : seconds 300 + 1 <= seconds (preauthTtlMinutes * 60)) {state : State}
    {label : Label}
    (taken : Runs.Takes (step preauthTtlMinutes) (issued preauthTtlMinutes 0) spaced state label) :
    LockOutlives state label := by
  obtain ⟨first, second, third, fourth, fifth, sixth⟩ := spaced_calls long
  rw [issued_between, spaced, <- List.append_nil (_ ++ wrongCall 5 0)] at taken
  simp only [List.append_assoc] at taken
  obtain fine | taken := between_outlives taken
  next => exact fine
  rw [first] at taken
  obtain fine | taken := between_outlives taken
  next => exact fine
  rw [second] at taken
  obtain fine | taken := between_outlives taken
  next => exact fine
  rw [third] at taken
  obtain fine | taken := between_outlives taken
  next => exact fine
  rw [fourth] at taken
  obtain fine | taken := between_outlives taken
  next => exact fine
  rw [fifth] at taken
  obtain fine | taken := between_outlives taken
  next => exact fine
  obtain ⟨before, after, split, _⟩ := taken
  exact absurd split (by simp)

end Spacing

-- The runs in which the lock of a challenge never lapses under a call at work.
def Bounded (preauthTtlMinutes : Nat) : Prop :=
  forall (setAfter : Nat) (labels : List Label),
    (forall state label, Runs.Takes (step preauthTtlMinutes) (issued preauthTtlMinutes setAfter) labels
      state label -> LockOutlives state label) ->
    forall state, Runs.Visits (step preauthTtlMinutes) (issued preauthTtlMinutes setAfter) labels state ->
      state.wrongCodes <= 5

/-- At most five wrong codes are checked in every run, however its calls are spaced, exactly when a
challenge lives no longer than the five minutes of its counter. -/
theorem five_guesses_iff (preauthTtlMinutes : Nat) : Bounded preauthTtlMinutes <-> preauthTtlMinutes <= 5 := by
  constructor
  next =>
    intro bounded
    by_contra lasting
    have long : seconds 300 + 1 <= seconds (preauthTtlMinutes * 60) := by
      unfold seconds
      omega
    have few := bounded 0 spaced (fun _ _ => spaced_outlives long) _ (Runs.visits_end _ _)
    rw [spaced_run long] at few
    exact absurd few (by decide)
  next =>
    intro short setAfter labels outlives state visited
    exact (Runs.fine_visits_keeps (step_kept short) (issued_kept preauthTtlMinutes setAfter) outlives
      visited).few

theorem six_guesses : Not (forall preauthTtlMinutes, 1 <= preauthTtlMinutes -> preauthTtlMinutes <= 15 ->
    forall setAfter labels state,
      Runs.Visits (step preauthTtlMinutes) (issued preauthTtlMinutes setAfter) labels state ->
      state.wrongCodes <= 5) := by
  intro bounded
  have few := bounded 15 (by decide) (by decide) 0 spaced _ (Runs.visits_end _ _)
  rw [spaced_run (by decide)] at few
  exact absurd few (by decide)

end VapeCommerce.Auth.Guesses
