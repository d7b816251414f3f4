import VapeCommerce.Auth.CustomerSessions

set_option autoImplicit false

-- No session outlives a revocation that was committed after the credentials of its login were checked.
namespace VapeCommerce.Auth.Revocation

open VapeCommerce.Lib VapeCommerce.Lib.Outcome VapeCommerce.Schema VapeCommerce.Lib.Locking
open VapeCommerce.Access.Users VapeCommerce.Access.Customers VapeCommerce.Auth.CustomerSessions

-- Since the credentials were checked, the access of the session's user has been revoked.
def Outdated (premises : Premises) (session : Session) : Prop :=
  exists issue, issue ∈ premises.issued /\ issue.sessionId = session.id /\
    session.userId ∈ premises.revocations.drop issue.seen

structure Sound (premises : Premises) : Prop where
  recorded : forall session, session ∈ premises.accounts.sessions.rows ->
    exists issue, issue ∈ premises.issued /\ issue.sessionId = session.id /\ issue.userId = session.userId
  known : forall issue, issue ∈ premises.issued ->
    issue.sessionId ∈ premises.accounts.sessions.rows.map Session.id
  current : forall session, session ∈ premises.accounts.sessions.rows -> session.status = .active ->
    session.audience = .customer -> Not (Outdated premises session)

theorem opening_sound (accounts : Accounts) (activeOrders : Id -> Nat) :
    Sound (opening accounts activeOrders) where
  recorded := by simp [opening]
  known := by simp [opening]
  current := by simp [opening]

variable {premises : Premises}

-- The steps that write neither sessions nor what is recorded of them.
theorem Sound.frame {next : Premises} (sound : Sound premises)
    (sessions : next.accounts.sessions = premises.accounts.sessions) (issued : next.issued = premises.issued)
    (revocations : next.revocations = premises.revocations) : Sound next where
  recorded := by
    rw [sessions, issued]
    exact sound.recorded
  known := by
    rw [sessions, issued]
    exact sound.known
  current := by
    unfold Outdated
    rw [sessions, issued, revocations]
    exact sound.current

-- What an update may do to a session: nothing ever becomes active again.
structure Fades (change : Session -> Session) : Prop where
  id : forall row, (change row).id = row.id
  userId : forall row, (change row).userId = row.userId
  audience : forall row, (change row).audience = row.audience
  status : forall row, (change row).status = .active -> row.status = .active

theorem revoked_fades (reason : String) (now : Int) : Fades (revokedSession reason now) where
  id _ := rfl
  userId _ := rfl
  audience _ := rfl
  status row active := by simp [revokedSession] at active

theorem expired_fades (now : Int) : Fades (expiredSession now) where
  id _ := rfl
  userId _ := rfl
  audience _ := rfl
  status row active := by simp [expiredSession] at active

theorem touched_fades (rules : AuthRules) (now : Int) : Fades (touchedSession rules now) where
  id _ := rfl
  userId _ := rfl
  audience _ := rfl
  status _ active := active

-- The sessions of two states, one by one: each came from one that was active if it still is.
structure Faded (before after : Table Session.id) : Prop where
  ids : after.rows.map Session.id = before.rows.map Session.id
  origin : forall row, row ∈ after.rows -> exists was, was ∈ before.rows /\ row.id = was.id /\
    row.userId = was.userId /\ row.audience = was.audience /\ (row.status = .active -> was.status = .active)

theorem Faded.refl (sessions : Table Session.id) : Faded sessions sessions where
  ids := rfl
  origin row member := ⟨row, member, rfl, rfl, rfl, id⟩

theorem update_faded (sessions : Table Session.id) (chosen : Session -> Bool) {change : Session -> Session}
    (fades : Fades change) : Faded sessions (sessions.update chosen change fades.id) where
  ids := by
    simp only [Table.update_rows, List.map_map]
    exact List.map_congr_left fun row _ => Table.rewrite_field fades.id row
  origin row member := by
    obtain ⟨was, there, ⟨-, rfl⟩ | ⟨-, rfl⟩⟩ := Table.rewrite_mem member
    next => exact ⟨was, there, fades.id was, fades.userId was, fades.audience was, fades.status was⟩
    next => exact ⟨row, there, rfl, rfl, rfl, id⟩

theorem Sound.fade {next : Premises} (sound : Sound premises)
    (faded : Faded premises.accounts.sessions next.accounts.sessions) (issued : next.issued = premises.issued)
    (revocations : next.revocations = premises.revocations) : Sound next where
  recorded session member := by
    obtain ⟨was, there, id, userId, -, -⟩ := faded.origin session member
    rw [issued, id, userId]
    exact sound.recorded was there
  known issue member := by
    rw [faded.ids]
    exact sound.known issue (issued ▸ member)
  current session member active audience := by
    obtain ⟨was, there, id, userId, same, before⟩ := faded.origin session member
    unfold Outdated
    rw [issued, revocations, id, userId]
    exact sound.current was there (before active) (same ▸ audience)

-- A revocation is recorded together with the sessions it revokes.
theorem Sound.revoke {next : Premises} {userId : Id} {reason : String} {now : Int} (sound : Sound premises)
    (sessions : next.accounts.sessions = revokeSessions premises.accounts.sessions userId reason now)
    (issued : next.issued = premises.issued)
    (revocations : next.revocations = premises.revocations ++ [userId]) : Sound next := by
  have faded : Faded premises.accounts.sessions next.accounts.sessions := by
    rw [sessions]
    exact update_faded _ _ (revoked_fades reason now)
  have kept := (@Sound.fade _ { next with revocations := premises.revocations } sound faded issued rfl)
  refine ⟨kept.recorded, kept.known, fun session member active audience outdated => ?_⟩
  obtain ⟨issue, there, same, later⟩ := outdated
  rw [revocations, List.drop_append, List.mem_append] at later
  rcases later with before | now
  next => exact kept.current session member active audience ⟨issue, there, same, before⟩
  next =>
    -- An active session of the user would have been revoked.
    have mine : session.userId = userId := by simpa using List.mem_of_mem_drop now
    rw [sessions] at member
    obtain ⟨was, -, ⟨-, rfl⟩ | ⟨missed, rfl⟩⟩ := Table.rewrite_mem member
    next => simp [revokedSession] at active
    next => simp [liveSessionOf, mine, active, audience] at missed

theorem insertSession_rows {sessions next : Table Session.id} {session : Session}
    (inserted : insertSession sessions session = some next) :
    next.rows = sessions.rows ++ [session] /\ forall other, other ∈ sessions.rows -> other.id ≠ session.id := by
  unfold insertSession at inserted
  split at inserted
  next => cases inserted
  next => exact Table.insert?_rows inserted

-- A new session, whose user has not been revoked since its login.
theorem Sound.append {next : Premises} {session : Session} {seen : Nat} (sound : Sound premises)
    (rows : next.accounts.sessions.rows = premises.accounts.sessions.rows ++ [session])
    (apart : forall other, other ∈ premises.accounts.sessions.rows -> other.id ≠ session.id)
    (issued : next.issued = premises.issued ++ [{ sessionId := session.id, userId := session.userId, seen }])
    (revocations : next.revocations = premises.revocations)
    (fresh : Not (session.userId ∈ premises.revocations.drop seen)) : Sound next where
  recorded other member := by
    rw [rows, List.mem_append] at member
    rw [issued]
    rcases member with old | new
    next =>
      obtain ⟨issue, there, same⟩ := sound.recorded other old
      exact ⟨issue, List.mem_append_left _ there, same⟩
    next =>
      obtain rfl := List.mem_singleton.1 new
      exact ⟨_, List.mem_append_right _ (List.mem_singleton_self _), rfl, rfl⟩
  known issue member := by
    rw [issued, List.mem_append] at member
    rw [rows, List.map_append, List.mem_append]
    rcases member with old | new
    next => exact .inl (sound.known issue old)
    next => exact .inr (by simp [List.mem_singleton.1 new])
  current other member active audience := by
    rintro ⟨issue, there, same, later⟩
    rw [revocations] at later
    rw [rows, List.mem_append] at member
    rw [issued, List.mem_append] at there
    rcases member with old | new <;> rcases there with recorded | mine
    next => exact sound.current other old active audience ⟨issue, recorded, same, later⟩
    next => exact apart other old (by rw [<- same, List.mem_singleton.1 mine])
    next =>
      -- The id of the new session is new.
      obtain rfl := List.mem_singleton.1 new
      obtain ⟨known, present, here⟩ := List.mem_map.1 (sound.known issue recorded)
      exact apart known present (here.trans same)
    next =>
      rw [List.mem_singleton.1 mine, List.mem_singleton.1 new] at later
      exact fresh later

variable {rules : AuthRules}

-- A login closes the session its cookie named, then adds one for the user.
theorem issueSession_faded {sessions next : Table Session.id} {userId id : Id} {tokenHash : Nat}
    {previousToken : Option Nat} {now : Int}
    (issued : issueSession rules sessions userId id tokenHash previousToken now = some next) :
    exists rotated session, Faded sessions rotated /\ insertSession rotated session = some next /\
      session.id = id /\ session.userId = userId := by
  unfold issueSession at issued
  cases named : previousSession sessions previousToken with
  | none =>
    rw [named] at issued
    exact ⟨_, _, .refl _, issued, rfl, rfl⟩
  | some previous =>
    rw [named] at issued
    exact ⟨_, _, update_faded _ _ (revoked_fades _ _), issued, rfl, rfl⟩

theorem issue_sound {request : Nat} {userId : Id} {seen : Nat} (sound : Sound premises)
    (fresh : Not (userId ∈ premises.revocations.drop seen)) (id : Id) (tokenHash : Nat)
    (previousToken : Option Nat) (now : Int) :
    Sound (issue rules premises request userId seen id tokenHash previousToken now) := by
  unfold issue
  split
  next => exact sound.frame rfl rfl rfl
  next sessions issued =>
    obtain ⟨rotated, session, faded, inserted, rfl, rfl⟩ := issueSession_faded issued
    obtain ⟨rows, apart⟩ := insertSession_rows inserted
    have kept : Sound { premises with accounts.sessions := rotated } := sound.fade faded rfl rfl
    exact kept.append rows apart rfl rfl fresh

-- Where a step issues a session, the access of its user has not been revoked since its login.
def IssuesFresh (premises : Premises) : RequestStep -> Prop
  | .issue request _ _ _ _ =>
    forall userId seen, premises.phases request = .cleared userId seen ->
      Not (userId ∈ premises.revocations.drop seen)
  | _ => True

theorem completeReset_sessions {accounts next : Accounts} {token : PasswordResetToken} {passwordHash : Nat}
    {now : Int} (completed : completeReset accounts token passwordHash now = some next) :
    next.sessions = revokeSessions accounts.sessions token.userId "password_reset" now := by
  unfold completeReset at completed
  split at completed
  next => exact Option.some.inj completed ▸ rfl
  next => cases completed

theorem operate_sound (step : RequestStep) (sound : Sound premises)
    (fresh : IssuesFresh premises step) : Sound (premises.operate rules step) := by
  cases step with
  | checkLogin request emailOrPhone password now =>
    simp only [Premises.operate]
    split
    next =>
      unfold startLogin
      split <;> exact sound.frame rfl rfl rfl
    next => exact sound
  | countFailure request =>
    simp only [Premises.operate]
    split
    next => exact sound.frame rfl rfl rfl
    next => exact sound
  | lockLogin request now =>
    simp only [Premises.operate]
    split
    next => exact sound.frame rfl rfl rfl
    next => exact sound
  | clearFailures request =>
    simp only [Premises.operate]
    split
    next => exact sound.frame rfl rfl rfl
    next => exact sound
  | issue request id tokenHash previousToken now =>
    simp only [Premises.operate]
    split
    next userId seen cleared => exact issue_sound sound (fresh userId seen cleared) id tokenHash previousToken now
    next => exact sound
  | resolve request tokenHash now =>
    simp only [Premises.operate]
    split
    next =>
      unfold CustomerSessions.resolve
      split <;> exact sound.frame rfl rfl rfl
    next => exact sound
  | expire request =>
    simp only [Premises.operate]
    split
    next => exact sound.fade (update_faded _ _ (expired_fades _)) rfl rfl
    next => exact sound
  | touch request =>
    simp only [Premises.operate]
    split
    next => exact sound.fade (update_faded _ _ (touched_fades rules _)) rfl rfl
    next => exact sound
  | requestReset request email =>
    simp only [Premises.operate]
    split
    next => exact sound.frame rfl rfl rfl
    next => exact sound.frame rfl rfl rfl
    next => exact sound
  | createToken request id tokenHash now =>
    simp only [Premises.operate]
    split
    next => split <;> exact sound.frame rfl rfl rfl
    next => exact sound
  | checkReset request tokenHash now =>
    simp only [Premises.operate]
    split
    next => exact sound.frame rfl rfl rfl
    next => exact sound.frame rfl rfl rfl
    next => exact sound
  | completeReset request passwordHash =>
    simp only [Premises.operate]
    split
    next =>
      split
      next => exact sound.frame rfl rfl rfl
      next accounts completed => exact sound.revoke (completeReset_sessions completed) rfl rfl
    next => exact sound
  | ordered activeOrders => exact sound.frame rfl rfl rfl

-- An account call either leaves the sessions alone or revokes those of the user it is recorded with.
theorem run_sessions {activeOrders : Id -> Nat} {snapshot current next : Accounts} {call : Call}
    (ran : call.run rules.text activeOrders snapshot current = .ok next) :
    (revokedUser snapshot call = none /\ next.sessions = current.sessions) \/
      exists userId reason now, revokedUser snapshot call = some userId /\
        next.sessions = revokeSessions current.sessions userId reason now := by
  cases call with
  | lifecycle action id input actorUserId now =>
    obtain ⟨target, changes, -, customers, rfl⟩ := lifecycle_ok ran
    cases action with
    | suspend => exact .inr ⟨target.user.id, _, now, by simp [revokedUser, changes.found], rfl⟩
    | reactivate => exact .inl ⟨rfl, rfl⟩
    | disable => exact .inr ⟨target.user.id, _, now, by simp [revokedUser, changes.found], rfl⟩
  | anonymize id input actorUserId now =>
    obtain ⟨target, changes, -, -, -, customers, rfl⟩ := anonymize_ok ran
    exact .inr ⟨target.user.id, _, now, by simp [revokedUser, changes.found], rfl⟩

theorem step_sound (state : State Premises Call) (label : Label Call RequestStep)
    (sound : Sound state.committed)
    (fresh : forall step, label = .outside step -> IssuesFresh state.committed step) :
    Sound ((system rules).step state label).committed := by
  rcases (system rules).step_committed state label with same | ⟨step, rfl, same⟩ | ⟨transaction, commits⟩
  next => exact same ▸ sound
  next =>
    rw [same]
    exact operate_sound step sound (fresh step rfl)
  next =>
    obtain ⟨-, -, works⟩ := commits
    obtain ⟨accounts, ran, next⟩ := Option.map_eq_some_iff.1 works
    rw [<- next]
    rcases run_sessions ((succeeded_some _ _).1 ran) with ⟨nobody, sessions⟩ | ⟨userId, reason, now, user, sessions⟩
    next => exact sound.frame sessions rfl (by simp [nobody])
    next => exact sound.revoke sessions rfl (by simp [user])

theorem resolveRead_accepted {accounts : Accounts} {tokenHash : Nat} {now : Int} {session : Session}
    (accepted : resolveRead accounts tokenHash now = .accepted session) :
    session ∈ accounts.sessions.rows /\ session.status = .active /\ session.audience = .customer := by
  unfold resolveRead at accepted
  split at accepted
  next => cases accepted
  next found present =>
    split at accepted
    next => split at accepted <;> cases accepted
    next valid =>
      split at accepted
      next => cases accepted
      next =>
        obtain rfl := Resolution.accepted.inj accepted
        rw [not_or, not_or, not_not, not_not] at valid
        exact ⟨List.mem_of_find?_eq_some present, valid.1, valid.2.1⟩

/-- While no login issues its session after a revocation of its customer that was committed since its
credentials were checked, no session that is accepted has been issued to a login from before the latest
password reset, suspension, disabling or anonymization of its customer. -/
theorem accepted_sessions_current (rules : AuthRules) (accounts : Accounts) (activeOrders : Id -> Nat)
    (labels : List (Label Call RequestStep))
    (fresh : forall state step,
      Runs.Takes (system rules).step (State.opening (opening accounts activeOrders)) labels state
        (.outside step) ->
      IssuesFresh state.committed step) :
    forall state, Runs.Visits (system rules).step (State.opening (opening accounts activeOrders)) labels state ->
      forall tokenHash now session, resolveRead state.committed.accounts tokenHash now = .accepted session ->
        (exists issue, issue ∈ state.committed.issued /\ issue.sessionId = session.id /\
          issue.userId = session.userId) /\ Not (Outdated state.committed session) := by
  intro state visited tokenHash now session accepted
  have sound := @Runs.fine_visits_keeps _ _ (system rules).step (fun state => Sound state.committed)
    (fun state label => forall step, label = .outside step -> IssuesFresh state.committed step)
    step_sound _ _ labels (opening_sound accounts activeOrders)
    (fun state label taken step same => fresh state step (same ▸ taken)) visited
  obtain ⟨member, active, audience⟩ := resolveRead_accepted accepted
  exact ⟨sound.recorded session member, sound.current session member active audience⟩

namespace Example

def plainRules : AuthRules where
  text := Access.Users.Sample.exactText
  verify := fun hash password => hash == password.length
  dummyPasswordHash := 0
  idleMinutes := 60
  absoluteMinutes := 600
  resetTtlMinutes := 30

def start : State Premises Call :=
  State.opening (opening Access.Customers.Sample.accounts fun _ => 0)

def through (id : Nat) (call : Call) : List (Label Call RequestStep) :=
  [.start id call, .advance id, .advance id, .advance id]

def login (request : Nat) (password : Text) : List (Label Call RequestStep) :=
  [.outside (.checkLogin request ['e'] password 1), .outside (.clearFailures request)]

def issues (request : Nat) : Label Call RequestStep :=
  .outside (.issue request request request none 1)

-- A login, a password reset, and a login with the new password.
def inTurn : List (Label Call RequestStep) :=
  login 1 ['p'] ++ [issues 1, .outside (.requestReset 2 ['e']), .outside (.createToken 2 1 9 1),
    .outside (.checkReset 3 9 2), .outside (.completeReset 3 2)] ++ login 4 ['n', 'p'] ++ [issues 4]

-- The account is suspended between the check of a login and its session, and reactivated afterwards.
def suspendedBetween : List (Label Call RequestStep) :=
  login 1 ['p'] ++ through 1 (Access.Customers.Sample.suspends 1) ++ [issues 1] ++
    through 2 (Access.Customers.Sample.reactivates 2)

def fresh (state : State Premises Call) : Label Call RequestStep -> Bool
  | .outside (.issue request _ _ _ _) =>
    match state.committed.phases request with
    | .cleared userId seen => !(state.committed.revocations.drop seen).contains userId
    | _ => true
  | _ => true

theorem fresh_issues {state : State Premises Call} {step : RequestStep}
    (checked : fresh state (.outside step) = true) : IssuesFresh state.committed step := by
  cases step with
  | issue request id tokenHash previousToken now =>
    intro userId seen cleared
    simpa [fresh, cleared] using checked
  | _ => trivial

def acceptedIn (labels : List (Label Call RequestStep)) (tokenHash : Nat) : Option Session :=
  match resolveRead (Runs.run (system plainRules).step start labels).committed.accounts tokenHash 2 with
  | .accepted session => some session
  | _ => none

theorem acceptedIn_some {labels : List (Label Call RequestStep)} {tokenHash : Nat} {session : Session}
    (found : acceptedIn labels tokenHash = some session) :
    resolveRead (Runs.run (system plainRules).step start labels).committed.accounts tokenHash 2 =
      .accepted session := by
  unfold acceptedIn at found
  split at found
  next accepted => rw [accepted, Option.some.inj found]
  next => cases found

end Example

theorem new_password_accepted : exists session,
    Example.acceptedIn Example.inTurn 4 = some session /\ Example.acceptedIn Example.inTurn 1 = none /\
      Not (Outdated (Runs.run (system Example.plainRules).step Example.start Example.inTurn).committed
        session) := by
  obtain ⟨session, found⟩ := Option.isSome_iff_exists.1
    (show (Example.acceptedIn Example.inTurn 4).isSome = true by decide +kernel)
  exact ⟨session, found, by decide +kernel, (accepted_sessions_current Example.plainRules
    Access.Customers.Sample.accounts (fun _ => 0) Example.inTurn
    (fun _ _ taken => Example.fresh_issues (Runs.every_takes
      (show Runs.every _ Example.fresh _ Example.inTurn = true by decide +kernel) taken)) _
    (Runs.visits_end _ _) 4 2 session (Example.acceptedIn_some found)).2⟩

theorem session_outlives_suspension : Not (forall rules accounts activeOrders labels state,
    Runs.Visits (system rules).step (State.opening (opening accounts activeOrders)) labels state ->
    forall tokenHash now session, resolveRead state.committed.accounts tokenHash now = .accepted session ->
      Not (Outdated state.committed session)) := by
  intro always
  obtain ⟨session, found⟩ := Option.isSome_iff_exists.1
    (show (Example.acceptedIn Example.suspendedBetween 1).isSome = true by decide +kernel)
  have current := always Example.plainRules Access.Customers.Sample.accounts (fun _ => 0) Example.suspendedBetween _
    (Runs.visits_end _ _) 1 2 session (Example.acceptedIn_some found)
  have mine : (Example.acceptedIn Example.suspendedBetween 1).map (fun session =>
      (session.id, session.userId)) = some (1, 7) := by decide +kernel
  obtain ⟨id, user⟩ : session.id = 1 /\ session.userId = 7 := by simpa [found] using mine
  have issued : { sessionId := 1, userId := 7, seen := 0 } ∈ (Runs.run (system Example.plainRules).step
      Example.start Example.suspendedBetween).committed.issued := by
    decide +kernel
  have revoked : 7 ∈ (Runs.run (system Example.plainRules).step Example.start
      Example.suspendedBetween).committed.revocations.drop 0 := by
    decide +kernel
  exact current ⟨_, issued, id.symm, user ▸ revoked⟩

end VapeCommerce.Auth.Revocation
