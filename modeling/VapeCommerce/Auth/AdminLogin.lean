import VapeCommerce.Auth.CustomerSessions

set_option autoImplicit false

-- admin-auth.service.ts: the two calls of an administrator's login, each database statement, transaction
-- and Redis command a step of its own. The model follows one administrator.
namespace VapeCommerce.Auth.AdminLogin

open VapeCommerce.Lib VapeCommerce.Schema VapeCommerce.Access.Users
open VapeCommerce.Auth.CustomerSessions

-- The row of the second factor; its secret is what decryption gives back.
structure TwoFactorSecretRow where
  secret : Nat
  verifiedAt : Option Int
  lastUsedStep : Option Int
deriving DecidableEq, Repr

structure Administrator where
  id : Id
  emailNormalized : Option Text
  passwordHash : Option Nat
  status : UserStatus
  failedLoginCount : Nat
  lockedUntil : Option Int
  adminProfile : Option AdminProfile
  twoFactorSecret : Option TwoFactorSecretRow
deriving DecidableEq, Repr

inductive ChallengeMode where
  | totp
  | enrollment
deriving DecidableEq, Repr

structure Challenge where
  userId : Id
  mode : ChallengeMode
  ipHash : Nat
  issuedAt : Int
deriving DecidableEq, Repr

structure Verification where
  valid : Bool
  timeStep : Option Int

-- `verifyCode secret code now afterTimeStep` is otplib's `verify` with its tolerance of 30 seconds.
structure AdminRules extends AuthRules where
  ipAllowed : Nat -> Bool
  hashToken : Nat -> Nat
  preauthTtlMinutes : Int
  verifyCode : Nat -> Text -> Int -> Option Int -> Verification

variable (rules : AdminRules)

inductive PasswordCheck where
  | passed (account : Administrator) (profile : AdminProfile)
  | failed
  | refused

def checkPassword (account : Administrator) (email password : Text) (now : Int) : PasswordCheck :=
  if account.emailNormalized.any (sameText rules.toAuthRules (normalizeEmail rules.toAuthRules email)) = false
  then .refused
  else
    let passwordValid := rules.verify (account.passwordHash.getD rules.dummyPasswordHash) password
    if account.lockedUntil.any (fun lockedUntil => now < lockedUntil) then .refused
    else
      match account.adminProfile with
      | none => .failed
      | some profile =>
        if passwordValid = false \/ account.status ≠ .active \/ profile.suspendedAt.isSome then .failed
        else .passed account profile

def enrollmentRequired (account : Administrator) (profile : AdminProfile) : Bool :=
  profile.mustEnrollTwoFactor || !account.twoFactorSecret.any fun row => row.verifiedAt.isSome

-- A secret that was handed out but never used is handed out again.
def pendingSecret (account : Administrator) : Option Nat :=
  (account.twoFactorSecret.filter fun row => row.verifiedAt.isNone && row.lastUsedStep.isNone).map (·.secret)

-- How far a call is. `enrolling` has generated a secret it still has to store; `seen` counts the codes
-- that had been accepted when its login read the account. `verified` has checked a code and still has to
-- record it.
inductive Phase where
  | idle
  | failed
  | counted (failedLoginCount : Nat)
  | enrolling (secret : Nat) (seen : Nat) (ip : Nat)
  | challenging (mode : ChallengeMode) (ip : Nat)
  | locked (challengeId : Nat)
  | fetched (challengeId : Nat) (challenge : Challenge)
  | invalid (challengeId : Nat)
  | exhausted (challengeId : Nat)
  | unavailable (challengeId : Nat)
  | verified (challengeId : Nat) (secret : Nat) (timeStep : Int) (verifiedAt : Int)
  | accepted (challengeId : Nat)
  | consumed (challengeId : Nat)
  | releasing (challengeId : Nat)
  | done
deriving DecidableEq, Repr

-- An accepted code: the secret it was checked against, and the one stored when it was recorded.
structure Acceptance where
  request : Nat
  checked : Nat
  stored : Nat
  timeStep : Int
deriving DecidableEq, Repr

-- Generated secrets are distinct, so they are numbered; `acceptances` and `sessions` only record.
structure State where
  account : Administrator
  nextSecret : Nat
  challenges : Nat -> Option Challenge
  locks : Nat -> Option Nat
  attempts : Nat -> Nat
  phases : Nat -> Phase
  acceptances : List Acceptance
  sessions : List Nat

inductive Label where
  | beginLogin (request : Nat) (email password : Text) (ip : Nat) (now : Int)
  | countFailure (request : Nat)
  | lockAccount (request : Nat) (now : Int)
  | storeSecret (request : Nat)
  | setChallenge (request challengeId : Nat) (now : Int)
  | lockChallenge (request challengeId : Nat)
  | getChallenge (request ip : Nat) (now : Int)
  | verifyCode (request : Nat) (code : Text) (now : Int)
  | deleteChallenge (request : Nat)
  | countAttempt (request : Nat)
  | accept (request : Nat)
  | consumeChallenge (request : Nat)
  | issueSession (request : Nat)
  | releaseLock (request : Nat)
  | challengeExpires (challengeId : Nat)
  | lockExpires (challengeId : Nat)
  | attemptsExpire (challengeId : Nat)

def State.enter (state : State) (request : Nat) (phase : Phase) : State :=
  { state with phases := Function.update state.phases request phase }

-- Login up to its first write: the pending secret, a new one, or none at all.
def beginLogin (state : State) (request ip : Nat) : PasswordCheck -> State
  | .refused => state.enter request .done
  | .failed => state.enter request .failed
  | .passed account profile =>
    if rules.ipAllowed ip = false then state.enter request .done
    else if enrollmentRequired account profile = false then state.enter request (.challenging .totp ip)
    else if (pendingSecret account).isSome then state.enter request (.challenging .enrollment ip)
    else
      { state with nextSecret := state.nextSecret + 1 }.enter request
        (.enrolling state.nextSecret state.acceptances.length ip)

-- The upsert by user id.
def storeSecret (secret : Nat) (account : Administrator) : Administrator :=
  { account with twoFactorSecret := some { secret, verifiedAt := none, lastUsedStep := none } }

def validChallenge (challenge : Challenge) (ip : Nat) (now : Int) : Bool :=
  rules.hashToken ip == challenge.ipHash &&
    decide (now - challenge.issuedAt <= minutes rules.preauthTtlMinutes)

-- The account and its secret are read in one statement; the code is checked against what was read.
def checkCode (account : Administrator) (challengeId : Nat) (challenge : Challenge) (code : Text) (now : Int) :
    Phase :=
  if account.id ≠ challenge.userId \/ account.status ≠ .active then .unavailable challengeId
  else
    match account.adminProfile, account.twoFactorSecret with
    | some profile, some row =>
      if profile.suspendedAt.isSome then .unavailable challengeId
      else
        let verification := rules.verifyCode row.secret code now row.lastUsedStep
        if verification.valid = false then .invalid challengeId
        else .verified challengeId row.secret (verification.timeStep.getD (now / 30000)) now
    | _, _ => .unavailable challengeId

def acceptedProfile (profile : AdminProfile) : AdminProfile :=
  { profile with mustEnrollTwoFactor := false }

-- The transaction of an accepted code: `updateMany` by user id where the last step is older.
def acceptCode (account : Administrator) (timeStep verifiedAt : Int) : Option Administrator :=
  match account.twoFactorSecret with
  | none => none
  | some row =>
    if row.lastUsedStep.all (fun last => last < timeStep) then
      some { account with
        twoFactorSecret := some { row with verifiedAt := some verifiedAt, lastUsedStep := some timeStep }
        adminProfile := account.adminProfile.map acceptedProfile
        failedLoginCount := 0
        lockedUntil := none }
    else none

def accept (state : State) (request challengeId checked : Nat) (timeStep verifiedAt : Int) : State :=
  match state.account.twoFactorSecret, acceptCode state.account timeStep verifiedAt with
  | some row, some account =>
    { state with
      account
      acceptances := state.acceptances ++
        [{ request, checked, stored := row.secret, timeStep : Acceptance }] }.enter
      request (.accepted challengeId)
  | _, _ => state.enter request (.releasing challengeId)

def countAttempt (state : State) (request challengeId : Nat) : State :=
  let attempts := state.attempts challengeId + 1
  { state with attempts := Function.update state.attempts challengeId attempts }.enter request
    (if attempts >= 5 then .exhausted challengeId else .releasing challengeId)

def deleteChallenge (state : State) (challengeId : Nat) : State :=
  { state with
    challenges := Function.update state.challenges challengeId none
    attempts := Function.update state.attempts challengeId 0 }

def failedAccount (account : Administrator) : Administrator :=
  { account with failedLoginCount := account.failedLoginCount + 1 }

def lockedAccount (failedLoginCount : Nat) (now : Int) (account : Administrator) : Administrator :=
  { account with lockedUntil := some (now + min ((failedLoginCount : Int) - 2) 12 * minutes 5) }

def step (state : State) : Label -> State
  | .beginLogin request email password ip now =>
    match state.phases request with
    | .idle =>
      AdminLogin.beginLogin rules state request ip (checkPassword rules state.account email password now)
    | _ => state
  | .countFailure request =>
    match state.phases request with
    | .failed =>
      let account := failedAccount state.account
      { state with account }.enter request
        (if account.failedLoginCount >= 3 then .counted account.failedLoginCount else .done)
    | _ => state
  | .lockAccount request now =>
    match state.phases request with
    | .counted failedLoginCount =>
      { state with account := lockedAccount failedLoginCount now state.account }.enter request .done
    | _ => state
  | .storeSecret request =>
    match state.phases request with
    | .enrolling secret _ ip =>
      { state with account := AdminLogin.storeSecret secret state.account }.enter request
        (.challenging .enrollment ip)
    | _ => state
  | .setChallenge request challengeId now =>
    match state.phases request, state.challenges challengeId with
    | .challenging mode ip, none =>
      { state with
        challenges := Function.update state.challenges challengeId
          (some { userId := state.account.id, mode, ipHash := rules.hashToken ip, issuedAt := now }) }.enter
        request .done
    | .challenging _ _, some _ => state.enter request .done
    | _, _ => state
  | .lockChallenge request challengeId =>
    match state.phases request, state.locks challengeId with
    | .idle, none =>
      { state with locks := Function.update state.locks challengeId (some request) }.enter request
        (.locked challengeId)
    | .idle, some _ => state.enter request .done
    | _, _ => state
  | .getChallenge request ip now =>
    match state.phases request with
    | .locked challengeId =>
      match state.challenges challengeId with
      | none => state.enter request (.releasing challengeId)
      | some challenge =>
        if validChallenge rules challenge ip now then state.enter request (.fetched challengeId challenge)
        else state.enter request (.releasing challengeId)
    | _ => state
  | .verifyCode request code now =>
    match state.phases request with
    | .fetched challengeId challenge =>
      state.enter request (checkCode rules state.account challengeId challenge code now)
    | _ => state
  | .deleteChallenge request =>
    match state.phases request with
    | .unavailable challengeId =>
      { state with challenges := Function.update state.challenges challengeId none }.enter request
        (.releasing challengeId)
    | .exhausted challengeId =>
      (AdminLogin.deleteChallenge state challengeId).enter request (.releasing challengeId)
    | _ => state
  | .countAttempt request =>
    match state.phases request with
    | .invalid challengeId => AdminLogin.countAttempt state request challengeId
    | _ => state
  | .accept request =>
    match state.phases request with
    | .verified challengeId checked timeStep verifiedAt =>
      AdminLogin.accept state request challengeId checked timeStep verifiedAt
    | _ => state
  | .consumeChallenge request =>
    match state.phases request with
    | .accepted challengeId =>
      (AdminLogin.deleteChallenge state challengeId).enter request (.consumed challengeId)
    | _ => state
  | .issueSession request =>
    match state.phases request with
    | .consumed challengeId =>
      { state with sessions := state.sessions ++ [request] }.enter request (.releasing challengeId)
    | _ => state
  | .releaseLock request =>
    match state.phases request with
    | .releasing challengeId =>
      let locks :=
        if state.locks challengeId = some request then Function.update state.locks challengeId none
        else state.locks
      { state with locks }.enter request .done
    | _ => state
  | .challengeExpires challengeId =>
    { state with challenges := Function.update state.challenges challengeId none }
  | .lockExpires challengeId => { state with locks := Function.update state.locks challengeId none }
  | .attemptsExpire challengeId => { state with attempts := Function.update state.attempts challengeId 0 }

-- Any account, with any second factor, before its next login.
def opening (account : Administrator) : State where
  account := account
  nextSecret := (account.twoFactorSecret.map (·.secret + 1)).getD 0
  challenges := fun _ => none
  locks := fun _ => none
  attempts := fun _ => 0
  phases := fun _ => .idle
  acceptances := []
  sessions := []

end VapeCommerce.Auth.AdminLogin
