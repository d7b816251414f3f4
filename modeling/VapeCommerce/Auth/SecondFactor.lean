import VapeCommerce.Auth.AdminLogin
import VapeCommerce.Lib.Runs

set_option autoImplicit false

-- Which secret an accepted code vouches for, over every interleaving of an administrator's logins.
namespace VapeCommerce.Auth.SecondFactor

open VapeCommerce.Lib VapeCommerce.Schema VapeCommerce.Access.Users
open VapeCommerce.Auth.CustomerSessions (AuthRules)
open VapeCommerce.Auth.AdminLogin

-- The phases that neither hold a secret nor follow an accepted code.
def plain : Phase -> Bool
  | .enrolling _ _ _ => false
  | .verified _ _ _ _ => false
  | .accepted _ => false
  | .consumed _ => false
  | _ => true

-- What a step leaves alone unless it says otherwise.
structure Rests (state next : State) : Prop where
  secret : next.account.twoFactorSecret = state.account.twoFactorSecret
  profile : next.account.adminProfile = state.account.adminProfile
  nextSecret : next.nextSecret = state.nextSecret
  acceptances : next.acceptances = state.acceptances
  sessions : next.sessions = state.sessions

theorem Rests.enter (state : State) (request : Nat) (phase : Phase) : Rests state (state.enter request phase) :=
  ⟨rfl, rfl, rfl, rfl, rfl⟩

-- Everything a step can do.
inductive Move (state : State) (label : Label) (next : State) : Prop where
  | quiet (rests : Rests state next)
      (phases : forall request, next.phases request = state.phases request \/
        plain (next.phases request) = true)
  | generated (request ip : Nat) (profile : AdminProfile)
      (here : state.account.adminProfile = some profile)
      (required : enrollmentRequired state.account profile = true)
      (next_is : next = { state with nextSecret := state.nextSecret + 1 }.enter request
        (.enrolling state.nextSecret state.acceptances.length ip))
  | stored (request secret seen ip : Nat) (is : label = .storeSecret request)
      (pending : state.phases request = .enrolling secret seen ip)
      (next_is : next = { state with account := storeSecret secret state.account }.enter request
        (.challenging .enrollment ip))
  | checked (request challengeId : Nat) (row : TwoFactorSecretRow) (timeStep verifiedAt : Int)
      (read : state.account.twoFactorSecret = some row)
      (next_is : next = state.enter request (.verified challengeId row.secret timeStep verifiedAt))
  | accepted (request challengeId checked : Nat) (row : TwoFactorSecretRow) (timeStep verifiedAt : Int)
      (verified : state.phases request = .verified challengeId checked timeStep verifiedAt)
      (stored : state.account.twoFactorSecret = some row)
      (later : row.lastUsedStep.all (fun last => last < timeStep) = true)
      (secret : next.account.twoFactorSecret =
        some { row with verifiedAt := some verifiedAt, lastUsedStep := some timeStep })
      (nextSecret : next.nextSecret = state.nextSecret)
      (acceptances : next.acceptances =
        state.acceptances ++ [{ request, checked, stored := row.secret, timeStep }])
      (sessions : next.sessions = state.sessions)
      (phases : next.phases = Function.update state.phases request (.accepted challengeId))
  | consumed (request challengeId : Nat) (accepted : state.phases request = .accepted challengeId)
      (rests : Rests state next)
      (phases : next.phases = Function.update state.phases request (.consumed challengeId))
  | issued (request challengeId : Nat) (consumed : state.phases request = .consumed challengeId)
      (next_is : next = { state with sessions := state.sessions ++ [request] }.enter request
        (.releasing challengeId))

variable {rules : AdminRules} {state next : State} {label : Label}

theorem Move.rest (state : State) (label : Label) : Move state label state :=
  .quiet ⟨rfl, rfl, rfl, rfl, rfl⟩ fun _ => .inl rfl

-- A step into a plain phase.
theorem Move.enter (rests : Rests state next) {request : Nat} {phase : Phase}
    (phases : next.phases = Function.update state.phases request phase) (is : plain phase = true) :
    Move state label next := by
  refine .quiet rests fun other => ?_
  rw [phases]
  by_cases same : other = request
  next => exact .inr (by rw [same, Function.update_self, is])
  next => exact .inl (Function.update_of_ne same _ _)

theorem beginLogin_move (request ip : Nat) (email password : Text) (now : Int) :
    Move state label (beginLogin rules state request ip (checkPassword rules state.account email password now)) := by
  cases result : checkPassword rules state.account email password now with
  | refused => exact .enter (.enter _ _ _) rfl rfl
  | failed => exact .enter (.enter _ _ _) rfl rfl
  | passed account profile =>
    have read : account = state.account /\ state.account.adminProfile = some profile := by
      simp only [checkPassword] at result
      split at result
      next => cases result
      split at result
      next => cases result
      split at result
      next => cases result
      next found here =>
        split at result
        next => cases result
        next =>
          obtain ⟨rfl, rfl⟩ := PasswordCheck.passed.inj result
          exact ⟨rfl, here⟩
    obtain ⟨rfl, here⟩ := read
    simp only [beginLogin]
    split
    next => exact .enter (.enter _ _ _) rfl rfl
    split
    next => exact .enter (.enter _ _ _) rfl rfl
    next required =>
      split
      next => exact .enter (.enter _ _ _) rfl rfl
      next => exact .generated request ip profile here (by simpa using required) rfl

theorem checkCode_move (request challengeId : Nat) (challenge : Challenge) (code : Text) (now : Int) :
    Move state label (state.enter request (checkCode rules state.account challengeId challenge code now)) := by
  unfold checkCode
  split
  next => exact .enter (.enter _ _ _) rfl rfl
  split
  next profile row _ read =>
    split
    next => exact .enter (.enter _ _ _) rfl rfl
    simp only
    split
    next => exact .enter (.enter _ _ _) rfl rfl
    next => exact .checked request challengeId row _ now read rfl
  next => exact .enter (.enter _ _ _) rfl rfl

theorem accept_move {request challengeId checked : Nat} {timeStep verifiedAt : Int}
    (verified : state.phases request = .verified challengeId checked timeStep verifiedAt) :
    Move state label (accept state request challengeId checked timeStep verifiedAt) := by
  unfold accept
  split
  next row account stored recorded =>
    simp only [acceptCode, stored] at recorded
    split at recorded
    next later =>
      obtain rfl := Option.some.inj recorded
      exact .accepted request challengeId checked row timeStep verifiedAt verified stored later rfl rfl rfl rfl rfl
    next => cases recorded
  next => exact .enter (.enter _ _ _) rfl rfl

theorem step_move (state : State) (label : Label) : Move state label (step rules state label) := by
  cases label with
  | beginLogin request email password ip now =>
    simp only [step]
    split
    next => exact beginLogin_move request ip email password now
    next => exact .rest state _
  | countFailure request =>
    simp only [step]
    split
    next => exact .enter ⟨rfl, rfl, rfl, rfl, rfl⟩ rfl (by split <;> rfl)
    next => exact .rest state _
  | lockAccount request now =>
    simp only [step]
    split
    next => exact .enter ⟨rfl, rfl, rfl, rfl, rfl⟩ rfl rfl
    next => exact .rest state _
  | storeSecret request =>
    simp only [step]
    split
    next secret seen ip pending => exact .stored request secret seen ip rfl pending rfl
    next => exact .rest state _
  | setChallenge request challengeId now =>
    simp only [step]
    split
    next => exact .enter ⟨rfl, rfl, rfl, rfl, rfl⟩ rfl rfl
    next => exact .enter (.enter _ _ _) rfl rfl
    next => exact .rest state _
  | lockChallenge request challengeId =>
    simp only [step]
    split
    next => exact .enter ⟨rfl, rfl, rfl, rfl, rfl⟩ rfl rfl
    next => exact .enter (.enter _ _ _) rfl rfl
    next => exact .rest state _
  | getChallenge request ip now =>
    simp only [step]
    split
    next =>
      split
      next => exact .enter (.enter _ _ _) rfl rfl
      next => split <;> exact .enter (.enter _ _ _) rfl rfl
    next => exact .rest state _
  | verifyCode request code now =>
    simp only [step]
    split
    next => exact checkCode_move request _ _ code now
    next => exact .rest state _
  | deleteChallenge request =>
    simp only [step]
    split
    next => exact .enter ⟨rfl, rfl, rfl, rfl, rfl⟩ rfl rfl
    next => exact .enter ⟨rfl, rfl, rfl, rfl, rfl⟩ rfl rfl
    next => exact .rest state _
  | countAttempt request =>
    simp only [step]
    split
    next => exact .enter ⟨rfl, rfl, rfl, rfl, rfl⟩ rfl (by split <;> rfl)
    next => exact .rest state _
  | accept request =>
    simp only [step]
    split
    next challengeId checked timeStep verifiedAt verified => exact accept_move verified
    next => exact .rest state _
  | consumeChallenge request =>
    simp only [step]
    split
    next challengeId accepted => exact .consumed request challengeId accepted ⟨rfl, rfl, rfl, rfl, rfl⟩ rfl
    next => exact .rest state _
  | issueSession request =>
    simp only [step]
    split
    next challengeId consumed => exact .issued request challengeId consumed rfl
    next => exact .rest state _
  | releaseLock request =>
    simp only [step]
    split
    next => exact .enter ⟨rfl, rfl, rfl, rfl, rfl⟩ rfl rfl
    next => exact .rest state _
  | challengeExpires challengeId => exact .quiet ⟨rfl, rfl, rfl, rfl, rfl⟩ fun _ => .inl rfl
  | lockExpires challengeId => exact .quiet ⟨rfl, rfl, rfl, rfl, rfl⟩ fun _ => .inl rfl
  | attemptsExpire challengeId => exact .quiet ⟨rfl, rfl, rfl, rfl, rfl⟩ fun _ => .inl rfl

-- What a request's phase says about the rest of the state.
def PhaseSound (state : State) (request : Nat) : Phase -> Prop
  | .enrolling secret _ _ =>
    secret < state.nextSecret /\
      (forall row, state.account.twoFactorSecret = some row -> row.secret ≠ secret) /\
      forall acceptance, acceptance ∈ state.acceptances -> acceptance.stored ≠ secret
  | .accepted _ => exists acceptance, acceptance ∈ state.acceptances /\ acceptance.request = request
  | .consumed _ => exists acceptance, acceptance ∈ state.acceptances /\ acceptance.request = request
  | _ => True

-- Holds of every run: secrets are stored at most once, and the steps accepted for one only grow.
structure Numbered (first : Option TwoFactorSecretRow) (state : State) : Prop where
  row : forall row, state.account.twoFactorSecret = some row -> row.secret < state.nextSecret
  recorded : forall acceptance, acceptance ∈ state.acceptances -> acceptance.stored < state.nextSecret
  phases : forall request, PhaseSound state request (state.phases request)
  distinct : forall request other secret seen ip seen' ip',
    state.phases request = .enrolling secret seen ip -> state.phases other = .enrolling secret seen' ip' ->
    request = other
  last : forall acceptance row, acceptance ∈ state.acceptances ->
    state.account.twoFactorSecret = some row -> acceptance.stored = row.secret ->
    exists last, row.lastUsedStep = some last /\ acceptance.timeStep <= last
  increasing : state.acceptances.Pairwise fun earlier later =>
    earlier.stored = later.stored -> earlier.timeStep < later.timeStep
  issued : forall request, request ∈ state.sessions ->
    exists acceptance, acceptance ∈ state.acceptances /\ acceptance.request = request
  verified : forall row, state.account.twoFactorSecret = some row -> row.verifiedAt.isSome = true ->
    first.any (fun old => old.secret == row.secret && old.verifiedAt.isSome) = true \/
      exists acceptance, acceptance ∈ state.acceptances /\ acceptance.stored = row.secret

theorem opening_numbered (account : Administrator) :
    Numbered account.twoFactorSecret (opening account) where
  row := by
    intro row here
    have is : account.twoFactorSecret = some row := here
    simp [opening, is]
  recorded := by simp [opening]
  phases := fun _ => trivial
  distinct := by simp [opening]
  last := by simp [opening]
  increasing := by simp [opening]
  issued := by simp [opening]
  verified := by
    intro row here verified
    have is : account.twoFactorSecret = some row := here
    exact .inl (by simp [is, verified])

theorem plain_sound {request : Nat} {phase : Phase} (is : plain phase = true) :
    PhaseSound state request phase := by
  cases phase with
  | enrolling => cases is
  | verified => cases is
  | accepted => cases is
  | consumed => cases is
  | _ => trivial

-- The acceptances only grow; what a pending secret says has to be looked at by itself.
theorem PhaseSound.grows {request : Nat} {phase : Phase} (sound : PhaseSound state request phase)
    (kept : forall acceptance, acceptance ∈ state.acceptances -> acceptance ∈ next.acceptances)
    (pending : forall secret seen ip, phase = .enrolling secret seen ip ->
      PhaseSound next request (.enrolling secret seen ip)) : PhaseSound next request phase := by
  cases phase with
  | enrolling secret seen ip => exact pending secret seen ip rfl
  | accepted =>
    obtain ⟨acceptance, member, is⟩ := sound
    exact ⟨acceptance, kept acceptance member, is⟩
  | consumed =>
    obtain ⟨acceptance, member, is⟩ := sound
    exact ⟨acceptance, kept acceptance member, is⟩
  | _ => trivial

theorem PhaseSound.rests {request : Nat} {phase : Phase} (sound : PhaseSound state request phase)
    (rests : Rests state next) : PhaseSound next request phase := by
  refine sound.grows (fun acceptance member => rests.acceptances ▸ member) ?_
  rintro secret seen ip rfl
  simp only [PhaseSound, rests.nextSecret, rests.secret, rests.acceptances]
  exact sound

variable {first : Option TwoFactorSecretRow}

-- The parts of the invariant that do not look at the phases.
theorem Numbered.rests (numbered : Numbered first state) (rests : Rests state next)
    (phases : forall request, PhaseSound next request (next.phases request))
    (distinct : forall request other secret seen ip seen' ip',
      next.phases request = .enrolling secret seen ip -> next.phases other = .enrolling secret seen' ip' ->
      request = other) : Numbered first next where
  row := by
    rw [rests.secret, rests.nextSecret]
    exact numbered.row
  recorded := by
    rw [rests.acceptances, rests.nextSecret]
    exact numbered.recorded
  phases := phases
  distinct := distinct
  last := by
    rw [rests.acceptances, rests.secret]
    exact numbered.last
  increasing := rests.acceptances ▸ numbered.increasing
  issued := by
    rw [rests.sessions, rests.acceptances]
    exact numbered.issued
  verified := by
    rw [rests.secret, rests.acceptances]
    exact numbered.verified

-- Where the new phase of one request is not an enrollment, the enrollments are among the old ones.
theorem distinct_update (numbered : Numbered first state) {request : Nat} {phase : Phase}
    (apart : forall secret seen ip, phase ≠ .enrolling secret seen ip)
    (phases : next.phases = Function.update state.phases request phase) (one other secret seen ip : Nat)
    (seen' ip' : Nat) (here : next.phases one = .enrolling secret seen ip)
    (there : next.phases other = .enrolling secret seen' ip') : one = other := by
  have before {which seen ip : Nat} (is : next.phases which = .enrolling secret seen ip) :
      state.phases which = .enrolling secret seen ip := by
    rw [phases] at is
    by_cases same : which = request
    next => rw [same, Function.update_self] at is; exact absurd is (apart _ _ _)
    next => rwa [Function.update_of_ne same] at is
  exact numbered.distinct one other secret seen ip seen' ip' (before here) (before there)

theorem phases_update {request : Nat} {phase : Phase}
    (phases : next.phases = Function.update state.phases request phase)
    (mine : PhaseSound next request phase)
    (others : forall other, other ≠ request -> PhaseSound next other (state.phases other)) (other : Nat) :
    PhaseSound next other (next.phases other) := by
  rw [phases]
  by_cases same : other = request
  next =>
    rw [same, Function.update_self]
    exact mine
  next =>
    rw [Function.update_of_ne same]
    exact others other same

theorem generated_numbered (numbered : Numbered first state) (request ip : Nat) :
    Numbered first ({ state with nextSecret := state.nextSecret + 1 }.enter request
      (.enrolling state.nextSecret state.acceptances.length ip)) where
  row := fun row here => Nat.lt_succ_of_lt (numbered.row row here)
  recorded := fun acceptance member => Nat.lt_succ_of_lt (numbered.recorded acceptance member)
  phases := by
    refine phases_update rfl ⟨Nat.lt_succ_self _, fun row here => (numbered.row row here).ne,
      fun acceptance member => (numbered.recorded acceptance member).ne⟩ fun other _ => ?_
    have sound := numbered.phases other
    refine sound.grows (fun _ member => member) fun secret seen ip phase => ?_
    rw [phase] at sound
    exact ⟨Nat.lt_succ_of_lt sound.1, sound.2⟩
  distinct := by
    -- The others have secrets below the new one.
    have below {other secret seen ip : Nat} (there : state.phases other = .enrolling secret seen ip) :
        secret < state.nextSecret := by
      have sound := numbered.phases other
      rw [there] at sound
      exact sound.1
    intro one other secret seen ip seen' ip' here there
    simp only [State.enter] at here there
    by_cases mine : one = request <;> by_cases same : other = request
    next => exact mine.trans same.symm
    next =>
      rw [mine, Function.update_self] at here
      rw [Function.update_of_ne same] at there
      obtain ⟨rfl, -, -⟩ := Phase.enrolling.inj here
      exact absurd (below there) (Nat.lt_irrefl _)
    next =>
      rw [same, Function.update_self] at there
      rw [Function.update_of_ne mine] at here
      obtain ⟨rfl, -, -⟩ := Phase.enrolling.inj there
      exact absurd (below here) (Nat.lt_irrefl _)
    next =>
      rw [Function.update_of_ne mine] at here
      rw [Function.update_of_ne same] at there
      exact numbered.distinct one other secret seen ip seen' ip' here there
  last := numbered.last
  increasing := numbered.increasing
  issued := numbered.issued
  verified := numbered.verified

theorem stored_numbered (numbered : Numbered first state) {request secret seen ip : Nat}
    (pending : state.phases request = .enrolling secret seen ip) :
    Numbered first ({ state with account := storeSecret secret state.account }.enter request
      (.challenging .enrollment ip)) := by
  have mine := numbered.phases request
  rw [pending] at mine
  have stored : forall row, (storeSecret secret state.account).twoFactorSecret = some row ->
      row = { secret, verifiedAt := none, lastUsedStep := none } :=
    fun row here => (Option.some.inj here).symm
  exact {
    row := fun row here => by
      rw [stored row here]
      exact mine.1
    recorded := numbered.recorded
    phases := by
      refine phases_update rfl trivial fun other apart => ?_
      have sound := numbered.phases other
      refine sound.grows (fun _ member => member) fun otherSecret otherSeen otherIp phase => ?_
      rw [phase] at sound
      refine ⟨sound.1, fun row here same => ?_, sound.2.2⟩
      -- The secret just stored was generated for this request alone.
      rw [stored row here] at same
      obtain rfl : secret = otherSecret := same
      exact apart (numbered.distinct other request secret otherSeen otherIp seen ip phase pending)
    distinct := distinct_update numbered (by simp) rfl
    last := fun acceptance row member here same => by
      rw [stored row here] at same
      exact absurd same (mine.2.2 acceptance member)
    increasing := numbered.increasing
    issued := numbered.issued
    verified := fun row here verified => by
      rw [stored row here] at verified
      cases verified }

theorem accepted_numbered (numbered : Numbered first state) {request challengeId checked : Nat}
    {row : TwoFactorSecretRow} {timeStep verifiedAt : Int}
    (stored : state.account.twoFactorSecret = some row)
    (later : row.lastUsedStep.all (fun last => last < timeStep) = true)
    (secret : next.account.twoFactorSecret =
      some { row with verifiedAt := some verifiedAt, lastUsedStep := some timeStep })
    (nextSecret : next.nextSecret = state.nextSecret)
    (acceptances : next.acceptances =
      state.acceptances ++ [{ request, checked, stored := row.secret, timeStep }])
    (sessions : next.sessions = state.sessions)
    (phases : next.phases = Function.update state.phases request (.accepted challengeId)) :
    Numbered first next := by
  have kept : forall acceptance, acceptance ∈ state.acceptances -> acceptance ∈ next.acceptances :=
    fun acceptance member => by
      rw [acceptances]
      exact List.mem_append_left _ member
  have new : ({ request, checked, stored := row.secret, timeStep } : Acceptance) ∈ next.acceptances := by
    rw [acceptances]
    exact List.mem_append_right _ (List.mem_singleton_self _)
  have cases_of {acceptance : Acceptance} (member : acceptance ∈ next.acceptances) :
      acceptance ∈ state.acceptances \/
        acceptance = { request, checked, stored := row.secret, timeStep } := by
    rw [acceptances, List.mem_append, List.mem_singleton] at member
    exact member
  have current {found : TwoFactorSecretRow} (here : next.account.twoFactorSecret = some found) :
      found.secret = row.secret /\ found.lastUsedStep = some timeStep := by
    obtain rfl := Option.some.inj (secret.symm.trans here)
    exact ⟨rfl, rfl⟩
  have older {acceptance : Acceptance} (member : acceptance ∈ state.acceptances)
      (same : acceptance.stored = row.secret) : acceptance.timeStep < timeStep := by
    obtain ⟨last, used, bound⟩ := numbered.last acceptance row member stored same
    have below : last < timeStep := by simpa [used] using later
    omega
  exact {
    row := fun found here => by
      rw [(current here).1, nextSecret]
      exact numbered.row row stored
    recorded := fun acceptance member => by
      rw [nextSecret]
      rcases cases_of member with old | rfl
      next => exact numbered.recorded acceptance old
      next => exact numbered.row row stored
    phases := by
      refine phases_update phases ⟨_, new, rfl⟩ fun other _ => ?_
      have sound := numbered.phases other
      refine sound.grows kept fun otherSecret seen ip phase => ?_
      rw [phase] at sound
      refine ⟨nextSecret ▸ sound.1, fun found here => ?_, fun acceptance member => ?_⟩
      next =>
        rw [(current here).1]
        exact sound.2.1 row stored
      next =>
        rcases cases_of member with old | rfl
        next => exact sound.2.2 acceptance old
        next => exact sound.2.1 row stored
    distinct := distinct_update numbered (by simp) phases
    last := fun acceptance found member here same => by
      obtain ⟨secretSame, used⟩ := current here
      refine ⟨timeStep, used, ?_⟩
      rcases cases_of member with old | rfl
      next => exact (older old (same.trans secretSame)).le
      next => exact le_rfl
    increasing := by
      rw [acceptances]
      refine List.pairwise_append.2 ⟨numbered.increasing, List.pairwise_singleton _ _, ?_⟩
      intro acceptance member last is same
      obtain rfl := List.mem_singleton.1 is
      exact older member same
    issued := fun session member => by
      obtain ⟨acceptance, there, is⟩ := numbered.issued session (sessions ▸ member)
      exact ⟨acceptance, kept acceptance there, is⟩
    verified := fun found here _ => .inr ⟨_, new, (current here).1.symm⟩ }

theorem step_numbered (state : State) (label : Label) (numbered : Numbered first state) :
    Numbered first (step rules state label) := by
  generalize after : step rules state label = next
  have move : Move state label next := after ▸ step_move state label
  cases move with
  | quiet rests phases =>
    refine numbered.rests rests (fun request => ?_) fun one other secret seen ip seen' ip' here there => ?_
    next =>
      rcases phases request with same | is
      next => exact same ▸ (numbered.phases request).rests rests
      next => exact plain_sound is
    next =>
      have before {which seen ip : Nat} (is : next.phases which = .enrolling secret seen ip) :
          state.phases which = .enrolling secret seen ip := by
        rcases phases which with same | quiet
        next => exact same ▸ is
        next => simp [is, plain] at quiet
      exact numbered.distinct one other secret seen ip seen' ip' (before here) (before there)
  | generated request ip profile here required next_is => exact next_is ▸ generated_numbered numbered request ip
  | stored request secret seen ip is pending next_is => exact next_is ▸ stored_numbered numbered pending
  | checked request challengeId row timeStep verifiedAt read next_is =>
    obtain rfl := next_is
    have rests := Rests.enter state request (.verified challengeId row.secret timeStep verifiedAt)
    exact numbered.rests rests
      (phases_update rfl trivial fun other _ => (numbered.phases other).rests rests)
      (distinct_update numbered (by simp) rfl)
  | accepted request challengeId checked row timeStep verifiedAt verified stored later secret nextSecret
      acceptances sessions phases =>
    exact accepted_numbered numbered stored later secret nextSecret acceptances sessions phases
  | consumed request challengeId accepted rests phases =>
    have mine := numbered.phases request
    rw [accepted] at mine
    exact numbered.rests rests
      (phases_update phases (mine.rests rests) fun other _ => (numbered.phases other).rests rests)
      (distinct_update numbered (by simp) phases)
  | issued request challengeId consumed next_is =>
    obtain rfl := next_is
    have mine := numbered.phases request
    rw [consumed] at mine
    exact {
      row := numbered.row
      recorded := numbered.recorded
      phases := phases_update rfl trivial fun other _ =>
        (numbered.phases other).grows (fun _ member => member) fun _ _ _ phase => by
          have sound := numbered.phases other
          rwa [phase] at sound
      distinct := distinct_update numbered (by simp) rfl
      last := numbered.last
      increasing := numbered.increasing
      issued := fun session member => by
        rcases List.mem_append.1 member with old | new
        next => exact numbered.issued session old
        next => exact List.mem_singleton.1 new ▸ mine
      verified := numbered.verified }

-- A login stores its new secret only if no code has been accepted since it read the account, and no
-- checked code is still to be recorded.
def StoresInTime (state : State) : Label -> Prop
  | .storeSecret request =>
    forall secret seen ip, state.phases request = .enrolling secret seen ip ->
      seen = state.acceptances.length /\
        forall other challengeId checked timeStep verifiedAt,
          state.phases other ≠ .verified challengeId checked timeStep verifiedAt
  | _ => True

-- The account still has to enroll.
def Owes (account : Administrator) : Prop :=
  account.adminProfile.any (fun profile => profile.mustEnrollTwoFactor) = true \/
    account.twoFactorSecret.any (fun row => row.verifiedAt.isSome) = false

-- Holds of the runs in which every login stores in time.
structure Matched (state : State) : Prop where
  checked : forall request challengeId secret timeStep verifiedAt,
    state.phases request = .verified challengeId secret timeStep verifiedAt ->
    exists row, state.account.twoFactorSecret = some row /\ row.secret = secret
  recorded : forall acceptance, acceptance ∈ state.acceptances -> acceptance.checked = acceptance.stored
  owing : forall request secret seen ip, state.phases request = .enrolling secret seen ip ->
    seen <= state.acceptances.length /\ (seen = state.acceptances.length -> Owes state.account)

theorem opening_matched (account : Administrator) : Matched (opening account) where
  checked := by simp [opening]
  recorded := by simp [opening]
  owing := by simp [opening]

theorem owes_same {account other : Administrator} (secret : other.twoFactorSecret = account.twoFactorSecret)
    (profile : other.adminProfile = account.adminProfile) : Owes other <-> Owes account := by
  rw [Owes, Owes, secret, profile]

-- A phase after the step is the one it entered, or one from before.
theorem phase_before {request : Nat} {phase : Phase}
    (phases : next.phases = Function.update state.phases request phase) {other : Nat} {found : Phase}
    (here : next.phases other = found) : found = phase \/ state.phases other = found := by
  rw [phases] at here
  by_cases same : other = request
  next =>
    rw [same, Function.update_self] at here
    exact .inl here.symm
  next =>
    rw [Function.update_of_ne same] at here
    exact .inr here

theorem Matched.rests (matched : Matched state) (rests : Rests state next)
    (checked : forall request challengeId secret timeStep verifiedAt,
      next.phases request = .verified challengeId secret timeStep verifiedAt ->
      exists row, state.account.twoFactorSecret = some row /\ row.secret = secret)
    (enrolling : forall request secret seen ip, next.phases request = .enrolling secret seen ip ->
      state.phases request = .enrolling secret seen ip) : Matched next where
  checked := by
    rw [rests.secret]
    exact checked
  recorded := by
    rw [rests.acceptances]
    exact matched.recorded
  owing := by
    intro request secret seen ip here
    rw [rests.acceptances, owes_same rests.secret rests.profile]
    exact matched.owing request secret seen ip (enrolling request secret seen ip here)

theorem accepted_matched (matched : Matched state) {request challengeId checked : Nat}
    {row : TwoFactorSecretRow} {timeStep verifiedAt : Int}
    (verified : state.phases request = .verified challengeId checked timeStep verifiedAt)
    (stored : state.account.twoFactorSecret = some row)
    (secret : next.account.twoFactorSecret =
      some { row with verifiedAt := some verifiedAt, lastUsedStep := some timeStep })
    (acceptances : next.acceptances =
      state.acceptances ++ [{ request, checked, stored := row.secret, timeStep }])
    (phases : next.phases = Function.update state.phases request (.accepted challengeId)) :
    Matched next where
  checked := by
    intro other found held step at_ here
    have old := (phase_before phases here).resolve_left (by simp)
    obtain ⟨before, read, is⟩ := matched.checked other found held step at_ old
    obtain rfl := Option.some.inj (stored.symm.trans read)
    exact ⟨_, secret, is⟩
  recorded := by
    intro acceptance member
    rw [acceptances, List.mem_append, List.mem_singleton] at member
    rcases member with old | rfl
    next => exact matched.recorded acceptance old
    next =>
      obtain ⟨before, read, is⟩ := matched.checked request challengeId checked timeStep verifiedAt verified
      obtain rfl := Option.some.inj (stored.symm.trans read)
      exact is.symm
  owing := by
    intro other pending seen ip here
    have old := (phase_before phases here).resolve_left (by simp)
    have bound := (matched.owing other pending seen ip old).1
    rw [acceptances, List.length_append, List.length_singleton]
    exact ⟨by omega, fun same => by omega⟩

theorem step_matched (state : State) (label : Label) (matched : Matched state)
    (inTime : StoresInTime state label) : Matched (step rules state label) := by
  generalize after : step rules state label = next
  have move : Move state label next := after ▸ step_move state label
  cases move with
  | quiet rests phases =>
    have before {request : Nat} {phase : Phase} (here : next.phases request = phase)
        (holds : plain phase = false) : state.phases request = phase := by
      rcases phases request with same | quiet
      next => exact same ▸ here
      next => simp [here, holds] at quiet
    exact matched.rests rests
      (fun request challengeId secret timeStep verifiedAt here =>
        matched.checked request challengeId secret timeStep verifiedAt (before here rfl))
      (fun request secret seen ip here => before here rfl)
  | generated request ip profile here required next_is =>
    obtain rfl := next_is
    have owes : Owes state.account := by
      simp only [enrollmentRequired, Bool.or_eq_true, Bool.not_eq_true'] at required
      exact required.imp_left fun must => by simp [here, must]
    refine ⟨fun other challengeId secret timeStep verifiedAt found => ?_, matched.recorded,
      fun other secret seen otherIp found => ?_⟩
    next =>
      have old := (phase_before rfl found).resolve_left (by simp)
      exact matched.checked other challengeId secret timeStep verifiedAt old
    next =>
      rcases phase_before rfl found with mine | old
      next =>
        obtain ⟨-, rfl, -⟩ := Phase.enrolling.inj mine
        exact ⟨le_rfl, fun _ => owes⟩
      next => exact matched.owing other secret seen otherIp old
  | stored request secret seen ip is pending next_is =>
    obtain rfl := is
    obtain rfl := next_is
    obtain ⟨-, unchecked⟩ := inTime secret seen ip pending
    refine ⟨fun other challengeId held step at_ here => ?_, matched.recorded,
      fun other held otherSeen otherIp here => ?_⟩
    next => exact absurd ((phase_before rfl here).resolve_left (by simp)) (unchecked other challengeId held step at_)
    next =>
      have old := (phase_before rfl here).resolve_left (by simp)
      exact ⟨(matched.owing other held otherSeen otherIp old).1, fun _ => .inr rfl⟩
  | checked request challengeId row timeStep verifiedAt read next_is =>
    obtain rfl := next_is
    refine matched.rests (.enter _ _ _) (fun other found secret step at_ here => ?_)
      (fun other secret seen ip here => (phase_before rfl here).resolve_left (by simp))
    rcases phase_before rfl here with mine | old
    next =>
      obtain ⟨-, rfl, -, -⟩ := Phase.verified.inj mine
      exact ⟨row, read, rfl⟩
    next => exact matched.checked other found secret step at_ old
  | accepted request challengeId checked row timeStep verifiedAt verified stored later secret nextSecret
      acceptances sessions phases =>
    exact accepted_matched matched verified stored secret acceptances phases
  | consumed request challengeId accepted rests phases =>
    exact matched.rests rests
      (fun other found secret step at_ here =>
        matched.checked other found secret step at_ ((phase_before phases here).resolve_left (by simp)))
      (fun other secret seen ip here => (phase_before phases here).resolve_left (by simp))
  | issued request challengeId consumed next_is =>
    obtain rfl := next_is
    refine ⟨fun other found secret step at_ here => ?_, matched.recorded, fun other secret seen ip here => ?_⟩
    next => exact matched.checked other found secret step at_ ((phase_before rfl here).resolve_left (by simp))
    next => exact matched.owing other secret seen ip ((phase_before rfl here).resolve_left (by simp))

-- A verified secret of an administrator who need not enroll stays, and stays verified.
theorem step_keeps_secret {row : TwoFactorSecretRow} (matched : Matched state)
    (inTime : StoresInTime state label) (here : state.account.twoFactorSecret = some row)
    (verified : row.verifiedAt.isSome = true)
    (enrolled : state.account.adminProfile.any (fun profile => profile.mustEnrollTwoFactor) = false) :
    exists kept, (step rules state label).account.twoFactorSecret = some kept /\
      kept.secret = row.secret /\ kept.verifiedAt.isSome = true := by
  generalize after : step rules state label = next
  have move : Move state label next := after ▸ step_move state label
  have stays (same : next.account.twoFactorSecret = state.account.twoFactorSecret) :
      exists kept, next.account.twoFactorSecret = some kept /\ kept.secret = row.secret /\
        kept.verifiedAt.isSome = true :=
    ⟨row, same.trans here, rfl, verified⟩
  cases move with
  | quiet rests => exact stays rests.secret
  | generated request ip profile _ _ next_is => exact stays (next_is ▸ rfl)
  | stored request secret seen ip is pending =>
    obtain rfl := is
    obtain ⟨current, -⟩ := inTime secret seen ip pending
    rcases (matched.owing request secret seen ip pending).2 current with must | unverified
    next => simp [enrolled] at must
    next => simp [here, verified] at unverified
  | checked _ _ _ _ _ _ next_is => exact stays (next_is ▸ rfl)
  | accepted _ _ _ found _ _ _ stored _ secret =>
    obtain rfl := Option.some.inj (stored.symm.trans here)
    exact ⟨_, secret, rfl, rfl⟩
  | consumed _ _ _ rests => exact stays rests.secret
  | issued _ _ _ next_is => exact stays (next_is ▸ rfl)

/-- In every run the steps accepted for one stored secret strictly increase, and a verified secret and a
session rest on an accepted code. While every login that stores a new secret does so before any code is
accepted that it has not seen and while no checked code is still to be recorded, each code was checked
against the secret stored when it was recorded, and a verified secret is never replaced or un-verified for
an administrator who need not enroll again. -/
theorem second_factor_sound (rules : AdminRules) (account : Administrator) (labels : List Label) :
    (forall state, Runs.Visits (step rules) (opening account) labels state ->
      (state.acceptances.Pairwise fun earlier later =>
        earlier.stored = later.stored -> earlier.timeStep < later.timeStep) /\
      (forall request, request ∈ state.sessions ->
        exists acceptance, acceptance ∈ state.acceptances /\ acceptance.request = request) /\
      forall row, state.account.twoFactorSecret = some row -> row.verifiedAt.isSome = true ->
        account.twoFactorSecret.any (fun old => old.secret == row.secret && old.verifiedAt.isSome) = true \/
          exists acceptance, acceptance ∈ state.acceptances /\ acceptance.stored = row.secret) /\
    ((forall state label, Runs.Takes (step rules) (opening account) labels state label ->
        StoresInTime state label) ->
      (forall state, Runs.Visits (step rules) (opening account) labels state ->
        forall acceptance, acceptance ∈ state.acceptances -> acceptance.checked = acceptance.stored) /\
      forall state label, Runs.Takes (step rules) (opening account) labels state label ->
        forall row, state.account.twoFactorSecret = some row -> row.verifiedAt.isSome = true ->
          state.account.adminProfile.any (fun profile => profile.mustEnrollTwoFactor) = false ->
          exists kept, (step rules state label).account.twoFactorSecret = some kept /\
            kept.secret = row.secret /\ kept.verifiedAt.isSome = true) := by
  refine ⟨fun state visited => ?_, fun inTime => ?_⟩
  next =>
    have numbered := Runs.visits_keeps (@step_numbered rules _) (opening_numbered account) visited
    exact ⟨numbered.increasing, numbered.issued, numbered.verified⟩
  next =>
    have matched (state : State) (visited : Runs.Visits (step rules) (opening account) labels state) :
        Matched state :=
      Runs.fine_visits_keeps step_matched (opening_matched account) inTime visited
    exact ⟨fun state visited => (matched state visited).recorded,
      fun state label taken row here verified enrolled =>
        step_keeps_secret (matched state (Runs.takes_visits taken).1) (inTime state label taken) here verified
          enrolled⟩

-- The request whose call a step belongs to.
def caller : Label -> Option Nat
  | .beginLogin request _ _ _ _ => some request
  | .countFailure request => some request
  | .lockAccount request _ => some request
  | .storeSecret request => some request
  | .setChallenge request _ _ => some request
  | .lockChallenge request _ => some request
  | .getChallenge request _ _ => some request
  | .verifyCode request _ _ => some request
  | .deleteChallenge request => some request
  | .countAttempt request => some request
  | .accept request => some request
  | .consumeChallenge request => some request
  | .issueSession request => some request
  | .releaseLock request => some request
  | .challengeExpires _ => none
  | .lockExpires _ => none
  | .attemptsExpire _ => none

theorem enter_elsewhere {request other : Nat} (apart : other ≠ request) (phase : Phase) :
    (state.enter request phase).phases other = state.phases other :=
  Function.update_of_ne apart _ _

theorem step_elsewhere {other : Nat} (apart : caller label ≠ some other) :
    (step rules state label).phases other = state.phases other := by
  have different {request : Nat} (is : caller label = some request) : other ≠ request := by
    rintro rfl
    exact apart is
  cases label with
  | beginLogin request =>
    simp only [step, beginLogin]
    repeat' split
    all_goals first | rfl | exact enter_elsewhere (different rfl) _
  | accept request =>
    simp only [step, accept]
    repeat' split
    all_goals first | rfl | exact enter_elsewhere (different rfl) _
  | challengeExpires => rfl
  | lockExpires => rfl
  | attemptsExpire => rfl
  | _ =>
    simp only [step, countAttempt, deleteChallenge]
    repeat' split
    all_goals first | rfl | exact enter_elsewhere (different rfl) _

namespace Sample

def codeRules : AdminRules where
  text := Access.Users.Sample.exactText
  verify := fun hash password => hash == password.length
  dummyPasswordHash := 0
  idleMinutes := 30
  absoluteMinutes := 480
  resetTtlMinutes := 30
  ipAllowed := fun _ => true
  hashToken := id
  preauthTtlMinutes := 5
  verifyCode := fun secret code now after =>
    { valid := code.length == secret && after.all (fun last => last < now), timeStep := some now }

-- An administrator who has never enrolled.
def administrator : Administrator where
  id := 9
  emailNormalized := some ['e']
  passwordHash := some 1
  status := .active
  failedLoginCount := 0
  lockedUntil := none
  adminProfile := (Access.Users.Sample.superAdministrator 9).adminProfile.map
    fun profile => { profile with mustEnrollTwoFactor := true }
  twoFactorSecret := none

def login (request : Nat) (now : Int) : Label :=
  .beginLogin request ['e'] ['p'] 0 now

def checksCode (request challengeId : Nat) (code : Text) (now : Int) : List Label :=
  [.lockChallenge request challengeId, .getChallenge request 0 now, .verifyCode request code now]

def records (request : Nat) : List Label :=
  [.accept request, .consumeChallenge request, .issueSession request, .releaseLock request]

-- The enrollment, and a login with the enrolled secret afterwards.
def inTurn : List Label :=
  [login 1 1, .storeSecret 1, .setChallenge 1 1 1] ++ checksCode 2 1 [] 2 ++ records 2 ++
    [login 3 3, .setChallenge 3 2 3] ++ checksCode 4 2 [] 4 ++ records 4

-- Two logins have read the account without a secret. The second stores its own after a code of the first
-- one's has been checked, and before it is recorded.
def overlapping : List Label :=
  [login 1 1, login 2 1, .storeSecret 1, .setChallenge 1 1 1] ++ checksCode 3 1 [] 2 ++
    [.storeSecret 2] ++ records 3

def isVerified : Phase -> Bool
  | .verified _ _ _ _ => true
  | _ => false

def early (label : Label) : Bool :=
  (caller label).all fun request => decide (request < 5)

def inTime (state : State) : Label -> Bool
  | .storeSecret request =>
    match state.phases request with
    | .enrolling _ seen _ =>
      seen == state.acceptances.length && (List.range 5).all fun other => !isVerified (state.phases other)
    | _ => true
  | _ => true

theorem inTime_stores {labels : List Label} (few : labels.all early = true) {state : State}
    (visited : Runs.Visits (step codeRules) (opening administrator) labels state) {label : Label}
    (checked : inTime state label = true) : StoresInTime state label := by
  have idle : forall other, 5 <= other -> state.phases other = .idle := by
    refine @Runs.fine_visits_keeps _ _ (step codeRules)
      (fun state => forall other, 5 <= other -> state.phases other = .idle) (fun _ label => early label = true)
      (fun state label idle small other large => ?_) _ _ labels (fun _ _ => rfl)
      (fun state label taken => ?_) visited
    next =>
      rw [step_elsewhere, idle other large]
      intro is
      simp only [early, is, Option.all_some, decide_eq_true_eq] at small
      omega
    next =>
      obtain ⟨before, after, rfl, -⟩ := taken
      exact List.all_eq_true.1 few label (by simp)
  cases label with
  | storeSecret request =>
    intro secret seen ip pending
    simp only [inTime, pending, Bool.and_eq_true, beq_iff_eq, List.all_eq_true, List.mem_range] at checked
    refine ⟨checked.1, fun other challengeId found timeStep verifiedAt is => ?_⟩
    rcases Nat.lt_or_ge other 5 with small | large
    next => simpa [is, isVerified] using checked.2 other small
    next => simp [idle other large] at is
  | _ => trivial

end Sample

theorem enrolled_in_turn :
    (Runs.run (step Sample.codeRules) (opening Sample.administrator) Sample.inTurn).sessions = [2, 4] /\
      forall acceptance, acceptance ∈ (Runs.run (step Sample.codeRules) (opening Sample.administrator)
        Sample.inTurn).acceptances -> acceptance.checked = acceptance.stored :=
  ⟨by decide +kernel, ((second_factor_sound Sample.codeRules Sample.administrator Sample.inTurn).2
    fun _ _ taken => Sample.inTime_stores (show Sample.inTurn.all Sample.early = true by decide +kernel)
      (Runs.takes_visits taken).1 (Runs.every_takes
        (show Runs.every _ Sample.inTime _ Sample.inTurn = true by decide +kernel) taken)).1 _
    (Runs.visits_end _ _)⟩

theorem wrong_secret_verified : Not (forall rules account labels state,
    Runs.Visits (step rules) (opening account) labels state ->
    forall acceptance, acceptance ∈ state.acceptances -> acceptance.checked = acceptance.stored) := by
  intro always
  have matched := always Sample.codeRules Sample.administrator Sample.overlapping _ (Runs.visits_end _ _)
  have wrong : ({ request := 3, checked := 0, stored := 1, timeStep := 2 } : Acceptance) ∈
      (Runs.run (step Sample.codeRules) (opening Sample.administrator) Sample.overlapping).acceptances := by
    decide +kernel
  exact absurd (matched _ wrong) (by decide)

end VapeCommerce.Auth.SecondFactor
