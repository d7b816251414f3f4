import VapeCommerce.Auth.CustomerSessions

set_option autoImplicit false

-- session.service.ts: how long one session of a customer or an administrator is accepted. A call reads
-- the session and decides in one step and writes it in another.
namespace VapeCommerce.Auth.SessionLifetime

open VapeCommerce.Lib VapeCommerce.Schema VapeCommerce.Access.Users VapeCommerce.Access.Customers
open VapeCommerce.Auth.CustomerSessions (minutes expiredSession)

structure Lifetimes where
  idleMinutes : Int
  absoluteMinutes : Int

-- environment.ts
def Admissible : AuthAudience -> Lifetimes -> Prop
  | .admin, lifetimes => 5 <= lifetimes.idleMinutes /\ lifetimes.idleMinutes <= 120 /\
    30 <= lifetimes.absoluteMinutes /\ lifetimes.absoluteMinutes <= 1440
  | .customer, lifetimes => 30 <= lifetimes.idleMinutes /\ lifetimes.idleMinutes <= 43200 /\
    60 <= lifetimes.absoluteMinutes /\ lifetimes.absoluteMinutes <= 129600

-- What a call reads beside the session: the user with the profiles, and the rules for addresses.
structure Holder where
  audience : AuthAudience
  status : UserStatus
  customerSuspendedAt : Option (Option Int)
  adminProfile : Option AdminProfile
  twoFactorVerifiedAt : Option Int
  twoFactorVerified : Bool
  addressAllowed : Bool

def permitted (holder : Holder) : AuthAudience -> Bool
  | .customer => holder.customerSuspendedAt.any fun suspendedAt => suspendedAt.isNone
  | .admin =>
    (holder.adminProfile.any fun profile => profile.suspendedAt.isNone && !profile.mustEnrollTwoFactor) &&
      holder.twoFactorVerifiedAt.isSome && holder.twoFactorVerified && holder.addressAllowed

def Operational (holder : Holder) (audience : AuthAudience) : Prop :=
  holder.audience = audience /\ holder.status = .active /\ permitted holder audience = true

inductive Phase where
  | idle
  | touching (lastSeenAt now : Int)
  | expiring (now : Int)
  | done
deriving DecidableEq, Repr

-- `accepted` only records the times of the accepted calls, the last one first.
structure State where
  now : Int
  session : Session
  cookieExpiresAt : Int
  phases : Nat -> Phase
  accepted : List Int

-- A browser presents the cookie until its age is over; others may keep the token.
inductive Label where
  | resolve (call : Nat) (browser : Bool) (delay : Nat)
  | write (call : Nat) (delay : Nat)

variable (lifetimes : Lifetimes) (holder : Holder) (audience : AuthAudience)

def issue (id userId : Id) (tokenHash : Nat) (rotatedFromId : Option Id) (now : Int) : State :=
  let idleExpiresAt := now + minutes lifetimes.idleMinutes
  let absoluteExpiresAt := now + minutes lifetimes.absoluteMinutes
  let maxAge := min idleExpiresAt absoluteExpiresAt - now
  { now := now
    session := {
      id
      userId
      audience
      tokenHash
      status := .active
      lastSeenAt := now
      idleExpiresAt
      absoluteExpiresAt
      revokedAt := none
      revokedReason := none
      rotatedFromId }
    cookieExpiresAt := now + maxAge
    phases := fun _ => .idle
    accepted := [] }

inductive Resolution where
  | accepted
  | expired
  | refused
deriving DecidableEq, Repr

def check (session : Session) (now : Int) : Resolution :=
  if session.status ≠ .active \/ session.audience ≠ audience \/ holder.audience ≠ audience \/
      holder.status ≠ .active \/ session.idleExpiresAt <= now \/ session.absoluteExpiresAt <= now \/
      session.revokedAt.isSome then
    if session.status = .active then .expired else .refused
  else if permitted holder audience = false then .refused
  else .accepted

def State.enter (state : State) (call : Nat) (phase : Phase) : State :=
  { state with phases := Function.update state.phases call phase }

def State.wait (state : State) (delay : Nat) : State :=
  { state with now := state.now + delay }

def resolve (state : State) (call : Nat) (browser : Bool) : State :=
  if browser = true /\ state.cookieExpiresAt <= state.now then state.enter call .done
  else
    match check holder audience state.session state.now with
    | .refused => state.enter call .done
    | .expired => state.enter call (.expiring state.now)
    | .accepted =>
      { state with accepted := state.now :: state.accepted }.enter call
        (if state.now - state.session.lastSeenAt >= minutes 5 then
          .touching state.session.lastSeenAt state.now
        else .done)

def touched (now : Int) (session : Session) : Session :=
  let candidate := now + minutes lifetimes.idleMinutes
  { session with
    lastSeenAt := now
    idleExpiresAt := if candidate < session.absoluteExpiresAt then candidate else session.absoluteExpiresAt }

def write (state : State) (call : Nat) : State :=
  match state.phases call with
  | .touching lastSeenAt now =>
    let session := if state.session.status = .active /\ state.session.lastSeenAt = lastSeenAt then
      touched lifetimes now state.session else state.session
    { state with session }.enter call .done
  | .expiring now =>
    let session := if state.session.status = .active then expiredSession now state.session else state.session
    { state with session }.enter call .done
  | _ => state

def step (state : State) : Label -> State
  | .resolve call browser delay =>
    match state.phases call with
    | .idle => resolve holder audience (state.wait delay) call browser
    | _ => state.wait delay
  | .write call delay => write lifetimes (state.wait delay) call

section Law

-- The accepted calls, the last one first: each within the idle lifetime of the one before it, or of
-- the issue, and within the absolute lifetime.
def WithinLifetimes (issuedAt : Int) : List Int -> Prop
  | [] => True
  | now :: earlier => now < earlier.headD issuedAt + minutes lifetimes.idleMinutes /\
    now < issuedAt + minutes lifetimes.absoluteMinutes /\ WithinLifetimes issuedAt earlier

-- Calls that do not overlap, each given by the time since the end of the one before and its duration.
def browserLabels : Nat -> List (Nat × Nat) -> List Label
  | _, [] => []
  | call, (delay, duration) :: rest =>
    .resolve call true delay :: .write call duration :: browserLabels (call + 1) rest

def gaps : Nat -> List (Nat × Nat) -> List Nat
  | _, [] => []
  | before, (delay, duration) :: rest => (before + delay) :: gaps duration rest

def start (issuedAt : Int) : State :=
  issue lifetimes audience 0 0 0 none issuedAt

/-- Whatever calls there are, none is accepted too late; and while a browser calls at gaps of at most
the idle lifetime less five minutes, each of its calls before the absolute expiry is accepted. -/
structure LifetimeLaw : Prop where
  bounded : forall (issuedAt : Int) (labels : List Label) (state : State),
    Runs.Visits (step lifetimes holder audience) (start lifetimes audience issuedAt) labels state ->
    WithinLifetimes lifetimes issuedAt state.accepted
  served : forall (issuedAt : Int) (calls : List (Nat × Nat)),
    (forall gap, gap ∈ gaps 0 calls -> (gap : Int) <= minutes lifetimes.idleMinutes - minutes 5) ->
    forall (before : List (Nat × Nat)) (delay duration : Nat) (after : List (Nat × Nat)),
      calls = before ++ (delay, duration) :: after ->
      let state := Runs.run (step lifetimes holder audience) (start lifetimes audience issuedAt)
        (browserLabels 0 before)
      state.now + delay < issuedAt + minutes lifetimes.absoluteMinutes ->
      (step lifetimes holder audience state (.resolve before.length true delay)).accepted =
        (state.now + delay) :: state.accepted

end Law

section Bounded

variable {lifetimes holder audience} {issuedAt : Int}

structure Timed (lifetimes : Lifetimes) (issuedAt : Int) (state : State) : Prop where
  within : WithinLifetimes lifetimes issuedAt state.accepted
  absolute : state.session.absoluteExpiresAt = issuedAt + minutes lifetimes.absoluteMinutes
  idle : state.session.idleExpiresAt <= state.accepted.headD issuedAt + minutes lifetimes.idleMinutes
  latest : state.accepted.headD issuedAt <= state.now
  touches : forall call lastSeenAt now, state.phases call = .touching lastSeenAt now ->
    now <= state.accepted.headD issuedAt

theorem Timed.wait {state : State} (timed : Timed lifetimes issuedAt state) (delay : Nat) :
    Timed lifetimes issuedAt (state.wait delay) where
  within := timed.within
  absolute := timed.absolute
  idle := timed.idle
  latest := by
    have latest := timed.latest
    simp only [State.wait]
    omega
  touches := timed.touches

theorem Timed.enter {state : State} (timed : Timed lifetimes issuedAt state) (call : Nat) {phase : Phase}
    (touches : forall lastSeenAt now, phase = .touching lastSeenAt now ->
      now <= state.accepted.headD issuedAt) : Timed lifetimes issuedAt (state.enter call phase) where
  within := timed.within
  absolute := timed.absolute
  idle := timed.idle
  latest := timed.latest
  touches := by
    intro other lastSeenAt now here
    by_cases same : other = call
    next =>
      subst same
      simp only [State.enter, Function.update_self] at here
      exact touches lastSeenAt now here
    next =>
      simp only [State.enter, Function.update_of_ne same] at here
      exact timed.touches other lastSeenAt now here

theorem check_accepted {session : Session} {now : Int}
    (accepted : check holder audience session now = .accepted) :
    now < session.idleExpiresAt /\ now < session.absoluteExpiresAt := by
  unfold check at accepted
  split at accepted
  next => split at accepted <;> simp at accepted
  next valid =>
    simp only [not_or, Int.not_le] at valid
    exact ⟨valid.2.2.2.2.1, valid.2.2.2.2.2.1⟩

theorem resolve_timed {state : State} (timed : Timed lifetimes issuedAt state) (call : Nat)
    (browser : Bool) : Timed lifetimes issuedAt (resolve holder audience state call browser) := by
  unfold resolve
  split
  next => exact timed.enter call (by simp)
  next =>
    split
    next => exact timed.enter call (by simp)
    next => exact timed.enter call (by simp)
    next accepted =>
      obtain ⟨early, early'⟩ := check_accepted accepted
      have bound := timed.idle
      have latest := timed.latest
      have recorded : Timed lifetimes issuedAt { state with accepted := state.now :: state.accepted } := by
        refine ⟨⟨by omega, ?_, timed.within⟩, timed.absolute, ?_, Int.le_refl _, ?_⟩
        next =>
          rw [<- timed.absolute]
          exact early'
        next =>
          simp only [List.headD_cons]
          omega
        next =>
          intro other lastSeenAt now here
          have touch := timed.touches other lastSeenAt now here
          simp only [List.headD_cons]
          omega
      refine recorded.enter call ?_
      intro lastSeenAt now here
      split at here
      next =>
        obtain ⟨_, rfl⟩ := Phase.touching.inj here
        exact Int.le_refl _
      next => simp at here

theorem write_timed {state : State} (timed : Timed lifetimes issuedAt state) (call : Nat) :
    Timed lifetimes issuedAt (write lifetimes state call) := by
  unfold write
  split
  next lastSeenAt now here =>
    have touch := timed.touches call lastSeenAt now here
    have written : Timed lifetimes issuedAt { state with
        session := if state.session.status = .active /\ state.session.lastSeenAt = lastSeenAt then
          touched lifetimes now state.session else state.session } := by
      split
      next =>
        refine ⟨timed.within, timed.absolute, ?_, timed.latest, timed.touches⟩
        simp only [touched]
        split <;> omega
      next => exact timed
    exact written.enter call (by simp)
  next now here =>
    have written : Timed lifetimes issuedAt { state with
        session := if state.session.status = .active then expiredSession now state.session
          else state.session } := by
      split
      next => exact ⟨timed.within, timed.absolute, timed.idle, timed.latest, timed.touches⟩
      next => exact timed
    exact written.enter call (by simp)
  next => exact timed

theorem step_timed (state : State) (label : Label) (timed : Timed lifetimes issuedAt state) :
    Timed lifetimes issuedAt (step lifetimes holder audience state label) := by
  cases label with
  | resolve call browser delay =>
    simp only [step]
    split
    next => exact resolve_timed (timed.wait delay) call browser
    next => exact timed.wait delay
  | write call delay => exact write_timed (timed.wait delay) call

theorem start_timed (lifetimes : Lifetimes) (audience : AuthAudience) (issuedAt : Int) :
    Timed lifetimes issuedAt (start lifetimes audience issuedAt) where
  within := trivial
  absolute := rfl
  idle := Int.le_refl _
  latest := Int.le_refl _
  touches := by simp [start, issue]

/-- No call of any run is accepted too late. -/
theorem accepted_within {labels : List Label} {state : State}
    (visited : Runs.Visits (step lifetimes holder audience) (start lifetimes audience issuedAt) labels state) :
    WithinLifetimes lifetimes issuedAt state.accepted :=
  (Runs.visits_keeps step_timed (start_timed lifetimes audience issuedAt) visited).within

end Bounded

section Served

variable {lifetimes holder audience} {issuedAt : Int}

-- Before the call `next`, `passed` milliseconds after the call at the time `last`.
structure Ready (lifetimes : Lifetimes) (audience : AuthAudience) (issuedAt last : Int)
    (passed next : Nat) (state : State) : Prop where
  clock : state.now = last + passed
  fresh : forall call, next <= call -> state.phases call = .idle
  cookie : state.cookieExpiresAt =
    issuedAt + min (minutes lifetimes.idleMinutes) (minutes lifetimes.absoluteMinutes)
  begun : issuedAt <= last
  still : lifetimes.idleMinutes = 5 -> last = issuedAt
  absolute : state.session.absoluteExpiresAt = issuedAt + minutes lifetimes.absoluteMinutes
  audience : state.session.audience = audience
  live : last < issuedAt + minutes lifetimes.absoluteMinutes ->
    state.session.status = .active /\ state.session.revokedAt = none /\
      min (issuedAt + minutes lifetimes.absoluteMinutes)
        (state.session.lastSeenAt + minutes lifetimes.idleMinutes) <= state.session.idleExpiresAt /\
      state.session.lastSeenAt <= last /\ last - state.session.lastSeenAt < minutes 5

theorem start_ready (lifetimes : Lifetimes) (audience : AuthAudience) (issuedAt : Int) :
    Ready lifetimes audience issuedAt issuedAt 0 0 (start lifetimes audience issuedAt) where
  clock := by simp [start, issue]
  fresh := fun _ _ => rfl
  cookie := by
    simp only [start, issue]
    omega
  begun := Int.le_refl _
  still := fun _ => rfl
  absolute := rfl
  audience := rfl
  live := by
    refine fun _ => ⟨rfl, rfl, ?_, Int.le_refl _, ?_⟩
    next => exact min_le_right _ _
    next => simp [start, issue, minutes]

-- A session that is still active lapses by time only.
theorem check_operational {session : Session} {now : Int} (operational : Operational holder audience)
    (audienceSame : session.audience = audience) (active : session.status = .active)
    (unrevoked : session.revokedAt = none) (idle : now < session.idleExpiresAt)
    (absolute : now < session.absoluteExpiresAt) : check holder audience session now = .accepted := by
  obtain ⟨holderSame, status, allowed⟩ := operational
  have valid : Not (session.status ≠ .active \/ session.audience ≠ audience \/
      holder.audience ≠ audience \/ holder.status ≠ .active \/ session.idleExpiresAt <= now \/
      session.absoluteExpiresAt <= now \/ session.revokedAt.isSome) := by
    simp [active, audienceSame, holderSame, status, unrevoked, Int.not_le.2 idle, Int.not_le.2 absolute]
  rw [check, if_neg valid, allowed]
  rfl

-- The lifetimes under which the age of the cookie ends no session early.
def CookieLasts (lifetimes : Lifetimes) : Prop :=
  lifetimes.absoluteMinutes <= lifetimes.idleMinutes \/ lifetimes.idleMinutes = 5

theorem Ready.accepts {last : Int} {passed next delay : Nat} {state : State}
    (ready : Ready lifetimes audience issuedAt last passed next state)
    (operational : Operational holder audience) (lasts : CookieLasts lifetimes)
    (close : ((passed + delay : Nat) : Int) <= minutes lifetimes.idleMinutes - minutes 5)
    (early : state.now + delay < issuedAt + minutes lifetimes.absoluteMinutes) :
    state.cookieExpiresAt > state.now + delay /\
      check holder audience state.session (state.now + delay) = .accepted := by
  have clock := ready.clock
  have cookie := ready.cookie
  have absolute := ready.absolute
  obtain ⟨active, unrevoked, idle, seen, recent⟩ := ready.live (by omega)
  refine ⟨?_, check_operational operational ready.audience active unrevoked ?_ (by omega)⟩
  next =>
    rcases lasts with short | five
    next =>
      simp only [minutes] at early cookie ⊢
      omega
    next =>
      have still := ready.still five
      simp only [five, minutes] at close early cookie ⊢
      omega
  next =>
    simp only [minutes] at close early idle recent ⊢
    omega

-- What one step of a call leaves alone.
structure Beside (call : Nat) (elapsed : Nat) (before after : State) : Prop where
  clock : after.now = before.now + elapsed
  cookie : after.cookieExpiresAt = before.cookieExpiresAt
  absolute : after.session.absoluteExpiresAt = before.session.absoluteExpiresAt
  audience : after.session.audience = before.session.audience
  others : forall other, other ≠ call -> after.phases other = before.phases other

theorem Beside.waited (call delay : Nat) (state : State) : Beside call delay state (state.wait delay) where
  clock := rfl
  cookie := rfl
  absolute := rfl
  audience := rfl
  others := fun _ _ => rfl

theorem Beside.enter {call elapsed : Nat} {before after : State} (beside : Beside call elapsed before after)
    (phase : Phase) : Beside call elapsed before (after.enter call phase) where
  clock := beside.clock
  cookie := beside.cookie
  absolute := beside.absolute
  audience := beside.audience
  others := by
    intro other different
    simp only [State.enter, Function.update_of_ne different]
    exact beside.others other different

theorem Beside.trans {call first second : Nat} {before between after : State}
    (one : Beside call first before between) (two : Beside call second between after) :
    Beside call (first + second) before after where
  clock := by
    have clock := one.clock
    have clock' := two.clock
    omega
  cookie := two.cookie.trans one.cookie
  absolute := two.absolute.trans one.absolute
  audience := two.audience.trans one.audience
  others := fun other different => (two.others other different).trans (one.others other different)

theorem resolve_beside (state : State) (call : Nat) (browser : Bool) (delay : Nat) :
    Beside call delay state (step lifetimes holder audience state (.resolve call browser delay)) := by
  have waited := Beside.waited call delay state
  simp only [step]
  split
  next =>
    unfold resolve
    split
    next => exact waited.enter _
    next =>
      split
      next => exact waited.enter _
      next => exact waited.enter _
      next =>
        refine Beside.enter ?_ _
        exact ⟨waited.clock, waited.cookie, waited.absolute, waited.audience, waited.others⟩
  next => exact waited

theorem write_beside (state : State) (call delay : Nat) :
    Beside call delay state (step lifetimes holder audience state (.write call delay)) := by
  have waited := Beside.waited call delay state
  simp only [step, write]
  split
  next =>
    refine Beside.enter ?_ _
    split
    next => exact ⟨waited.clock, waited.cookie, waited.absolute, waited.audience, waited.others⟩
    next => exact waited
  next =>
    refine Beside.enter ?_ _
    split
    next => exact ⟨waited.clock, waited.cookie, waited.absolute, waited.audience, waited.others⟩
    next => exact waited
  next => exact waited

theorem resolve_accepted {state : State} {call delay : Nat} (idle : state.phases call = .idle)
    (presented : state.now + delay < state.cookieExpiresAt)
    (accepted : check holder audience state.session (state.now + delay) = .accepted) :
    step lifetimes holder audience state (.resolve call true delay) =
      { state.wait delay with accepted := (state.now + delay) :: state.accepted }.enter call
        (if state.now + delay - state.session.lastSeenAt >= minutes 5 then
          .touching state.session.lastSeenAt (state.now + delay)
        else .done) := by
  have shown : Not (True /\ (state.wait delay).cookieExpiresAt <= (state.wait delay).now) := by
    simp only [State.wait]
    omega
  have accepted' : check holder audience (state.wait delay).session (state.wait delay).now = .accepted :=
    accepted
  simp only [step, idle, resolve, accepted']
  exact if_neg shown

-- The session after an accepted call, its write included.
theorem call_session {state : State} {call delay duration : Nat} (idle : state.phases call = .idle)
    (presented : state.now + delay < state.cookieExpiresAt)
    (accepted : check holder audience state.session (state.now + delay) = .accepted)
    (active : state.session.status = .active) :
    (step lifetimes holder audience (step lifetimes holder audience state (.resolve call true delay))
      (.write call duration)).session =
        if state.now + delay - state.session.lastSeenAt >= minutes 5 then
          touched lifetimes (state.now + delay) state.session
        else state.session := by
  rw [resolve_accepted idle presented accepted]
  by_cases due : state.now + delay - state.session.lastSeenAt >= minutes 5
  next => simp [step, write, State.wait, State.enter, due, active]
  next => simp [step, write, State.wait, State.enter, due]

theorem Ready.call {last : Int} {passed next delay : Nat} {state : State}
    (ready : Ready lifetimes audience issuedAt last passed next state)
    (operational : Operational holder audience) (lasts : CookieLasts lifetimes)
    (close : ((passed + delay : Nat) : Int) <= minutes lifetimes.idleMinutes - minutes 5)
    (duration : Nat) :
    Ready lifetimes audience issuedAt (state.now + delay) duration (next + 1)
      (step lifetimes holder audience (step lifetimes holder audience state (.resolve next true delay))
        (.write next duration)) := by
  have clock := ready.clock
  have begun := ready.begun
  have beside := (@resolve_beside lifetimes holder audience state next true delay).trans
    (@write_beside lifetimes holder audience _ next duration)
  refine ⟨?_, ?_, beside.cookie.trans ready.cookie, by omega, ?_, beside.absolute.trans ready.absolute,
    beside.audience.trans ready.audience, ?_⟩
  next =>
    have passes := beside.clock
    omega
  next =>
    intro call later
    rw [beside.others call (by omega)]
    exact ready.fresh call (by omega)
  next =>
    intro five
    have still := ready.still five
    simp only [five, minutes] at close
    omega
  next =>
    intro early
    obtain ⟨active, unrevoked, idle, seen, recent⟩ := ready.live (by omega)
    obtain ⟨presented, accepted⟩ := ready.accepts operational lasts close early
    have absolute := ready.absolute
    rw [call_session (ready.fresh next (Nat.le_refl _)) presented accepted active]
    split
    next due =>
      refine ⟨active, unrevoked, ?_, Int.le_refl _, by simp [touched, minutes]⟩
      simp only [touched]
      split <;> omega
    next recently =>
      exact ⟨active, unrevoked, idle, by omega, by omega⟩

theorem served_from {delay duration : Nat} {after : List (Nat × Nat)}
    (operational : Operational holder audience) (lasts : CookieLasts lifetimes)
    (before : List (Nat × Nat)) : forall (last : Int) (passed next : Nat) (state : State),
    Ready lifetimes audience issuedAt last passed next state ->
    (forall gap, gap ∈ gaps passed (before ++ (delay, duration) :: after) ->
      (gap : Int) <= minutes lifetimes.idleMinutes - minutes 5) ->
    (Runs.run (step lifetimes holder audience) state (browserLabels next before)).now + delay <
      issuedAt + minutes lifetimes.absoluteMinutes ->
    (step lifetimes holder audience
      (Runs.run (step lifetimes holder audience) state (browserLabels next before))
      (.resolve (next + before.length) true delay)).accepted =
        ((Runs.run (step lifetimes holder audience) state (browserLabels next before)).now + delay) ::
          (Runs.run (step lifetimes holder audience) state (browserLabels next before)).accepted := by
  induction before with
  | nil =>
    intro last passed next state ready close early
    obtain ⟨presented, accepted⟩ := ready.accepts operational lasts (close _ List.mem_cons_self) early
    simp only [browserLabels, Runs.run, List.foldl_nil, List.length_nil, Nat.add_zero]
    rw [resolve_accepted (ready.fresh next (Nat.le_refl _)) presented accepted]
    rfl
  | cons call before ih =>
    intro last passed next state ready close early
    obtain ⟨wait, spent⟩ := call
    have called := ready.call operational lasts (close _ List.mem_cons_self) spent
    have rest := ih _ spent (next + 1) _ called
      (fun gap here => close gap (List.mem_cons_of_mem _ here)) early
    rw [List.length_cons, Nat.add_comm before.length 1, <- Nat.add_assoc]
    exact rest

end Served

section Lapsed

variable {lifetimes holder audience} {issuedAt : Int}

-- The browser presents no cookie, and the call is refused.
theorem resolve_lapsed {state : State} {call delay : Nat}
    (lapsed : state.cookieExpiresAt <= state.now + delay) :
    (step lifetimes holder audience state (.resolve call true delay)).accepted = state.accepted := by
  simp only [step]
  split
  next =>
    have hidden : true = true /\ (state.wait delay).cookieExpiresAt <= (state.wait delay).now :=
      ⟨rfl, lapsed⟩
    rw [resolve, if_pos hidden]
    rfl
  next => rfl

-- Nothing a call does keeps the cookie longer.
theorem steady_run (delay calls : Nat) : forall (next : Nat) (state : State),
    (Runs.run (step lifetimes holder audience) state
      (browserLabels next (List.replicate calls (delay, 0)))).now = state.now + (calls * delay : Nat) /\
    (Runs.run (step lifetimes holder audience) state
      (browserLabels next (List.replicate calls (delay, 0)))).cookieExpiresAt = state.cookieExpiresAt := by
  induction calls with
  | zero =>
    intro next state
    simp [browserLabels, Runs.run]
  | succ calls ih =>
    intro next state
    have beside := (@resolve_beside lifetimes holder audience state next true delay).trans
      (@write_beside lifetimes holder audience _ next 0)
    obtain ⟨clock, cookie⟩ := ih (next + 1) (step lifetimes holder audience
      (step lifetimes holder audience state (.resolve next true delay)) (.write next 0))
    refine ⟨clock.trans ?_, cookie.trans beside.cookie⟩
    rw [beside.clock, Nat.succ_mul]
    omega

theorem steady_gaps (delay calls : Nat) : forall gap, gap ∈ gaps 0 (List.replicate calls (delay, 0)) ->
    gap = delay := by
  induction calls with
  | zero => simp [gaps]
  | succ calls ih =>
    intro gap here
    simp only [List.replicate_succ, gaps, List.mem_cons, Nat.zero_add] at here
    rcases here with first | later
    next => exact first
    next => exact ih gap later

-- With a call every minute the session stays alive until the cookie is over.
theorem not_served {calls : Nat} (idle : lifetimes.idleMinutes = calls + 1) (many : 5 <= calls)
    (longer : lifetimes.idleMinutes < lifetimes.absoluteMinutes) :
    Not (LifetimeLaw lifetimes holder audience) := by
  intro law
  have close : forall gap, gap ∈ gaps 0 (List.replicate (calls + 1) (60000, 0)) ->
      (gap : Int) <= minutes lifetimes.idleMinutes - minutes 5 := by
    intro gap here
    rw [steady_gaps _ _ gap here, idle]
    simp only [minutes]
    omega
  obtain ⟨clock, cookie⟩ := @steady_run lifetimes holder audience 60000 calls 0
    (start lifetimes audience 0)
  have ended : (start lifetimes audience 0).cookieExpiresAt <= (start lifetimes audience 0).now +
      (calls * 60000 : Nat) + (60000 : Nat) := by
    simp only [start, issue, minutes, idle]
    omega
  have refused := @resolve_lapsed lifetimes holder audience _ (List.replicate calls (60000, 0)).length
    60000 (by
      rw [cookie, clock]
      exact ended)
  have accepted := law.served 0 (List.replicate (calls + 1) (60000, 0)) close
    (List.replicate calls (60000, 0)) 60000 0 [] List.replicate_succ' (by
      rw [clock]
      simp only [start, issue, minutes]
      omega)
  exact List.cons_ne_self _ _ (accepted.symm.trans refused)

end Lapsed

/-- The law holds exactly where the age of the cookie, which only the issue sets, ends no session early. -/
theorem lifetime_law_iff {lifetimes : Lifetimes} {holder : Holder} {audience : AuthAudience}
    (admissible : Admissible audience lifetimes) (operational : Operational holder audience) :
    LifetimeLaw lifetimes holder audience <-> CookieLasts lifetimes := by
  constructor
  next =>
    intro law
    by_contra short
    simp only [CookieLasts, not_or, Int.not_le] at short
    obtain ⟨calls, idle, many⟩ : exists calls : Nat, lifetimes.idleMinutes = calls + 1 /\ 5 <= calls := by
      refine ⟨(lifetimes.idleMinutes - 1).toNat, ?_⟩
      cases audience <;> simp only [Admissible] at admissible <;> omega
    exact not_served idle many short.1 law
  next =>
    intro lasts
    refine ⟨fun issuedAt labels state visited => accepted_within visited, ?_⟩
    intro issuedAt calls close before delay duration after split state early
    subst split
    have served := served_from operational lasts before issuedAt 0 0 _
      (start_ready lifetimes audience issuedAt) close early
    rw [Nat.zero_add] at served
    exact served

def administrator : Holder :=
  { audience := .admin
    status := .active
    customerSuspendedAt := none
    adminProfile := some {
      displayName := []
      employeeCode := none
      jobTitle := none
      mustEnrollTwoFactor := false
      suspendedAt := none
      suspensionReason := none
      version := 0 }
    twoFactorVerifiedAt := some 0
    twoFactorVerified := true
    addressAllowed := true }

theorem short_absolute_lifetime_served :
    LifetimeLaw { idleMinutes := 120, absoluteMinutes := 60 } administrator .admin :=
  (lifetime_law_iff (by simp [Admissible, administrator]) ⟨rfl, rfl, rfl⟩).2 (.inl (by decide))

-- The default lifetimes of an administrator, with a call every twenty minutes.
theorem cookie_ends_first :
    Not (LifetimeLaw { idleMinutes := 30, absoluteMinutes := 480 } administrator .admin) := by
  intro law
  have accepted := law.served 0 [(1200000, 0), (1200000, 0)] (by decide) [(1200000, 0)] 1200000 0 [] rfl
    (by decide)
  revert accepted
  decide

end VapeCommerce.Auth.SessionLifetime
