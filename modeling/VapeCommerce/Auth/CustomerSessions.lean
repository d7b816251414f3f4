import Mathlib.Logic.Function.Basic
import VapeCommerce.Access.Customers
import VapeCommerce.Lib.Locking

set_option autoImplicit false

-- customer-auth.service.ts and session.service.ts: logins, password resets and the sessions of customers.
-- A request is a sequence of statements with those of the other requests between them.
namespace VapeCommerce.Auth.CustomerSessions

open VapeCommerce.Lib VapeCommerce.Lib.Outcome VapeCommerce.Schema VapeCommerce.Lib.Locking
open VapeCommerce.Access.Users VapeCommerce.Access.Customers

-- How text compares, what argon2 verifies, and the configured minutes.
structure AuthRules where
  text : TextRules
  verify : Nat -> Text -> Bool
  dummyPasswordHash : Nat
  idleMinutes : Int
  absoluteMinutes : Int
  resetTtlMinutes : Int

variable (rules : AuthRules)

def minutes (count : Int) : Int := count * 60000

def normalizeEmail (email : Text) : Text :=
  rules.text.lower (trim email)

def compactPhone (phone : Text) : Text :=
  phone.filter fun char => !isSpace char && !(['(', ')', '.', '-'].contains char)

def isDigit (char : Char) : Bool :=
  '0' <= char && char <= '9'

-- /^\+?(?:216)?\d+$/
def looksLikePhone (identifier : Text) : Bool :=
  match compactPhone identifier with
  | '+' :: digits => !digits.isEmpty && digits.all isDigit
  | digits => !digits.isEmpty && digits.all isDigit

def normalizePhone (phone : Text) : Text :=
  let compact :=
    match compactPhone phone with
    | '0' :: '0' :: '2' :: '1' :: '6' :: rest => "+216".toList ++ rest
    | compact => compact
  if "+216".toList.isPrefixOf compact then compact else "+216".toList ++ compact

def sameText (left right : Text) : Bool :=
  rules.text.fold left == rules.text.fold right

def findLogin (customers : Table CustomerAccount.id) (emailOrPhone : Text) : Option CustomerAccount :=
  let identifier := trim emailOrPhone
  let phoneE164 := if looksLikePhone identifier then normalizePhone identifier else "__not_a_phone__".toList
  customers.rows.find? fun account =>
    account.user.audience == .customer &&
      (account.user.emailNormalized.any (sameText rules (normalizeEmail rules identifier)) ||
        sameText rules phoneE164 account.phoneE164)

inductive LoginCheck where
  | passed (userId : Id)
  | failed (userId : Id)
  | locked
  | unknown
deriving DecidableEq, Repr

def checkLogin (customers : Table CustomerAccount.id) (emailOrPhone password : Text) (now : Int) :
    LoginCheck :=
  match findLogin rules customers emailOrPhone with
  | none => .unknown
  | some account =>
    let passwordValid := rules.verify (account.user.passwordHash.getD rules.dummyPasswordHash) password
    if account.user.lockedUntil.any (fun lockedUntil => now < lockedUntil) then .locked
    else if passwordValid = false \/ account.user.status ≠ .active \/ account.suspendedAt.isSome then
      .failed account.user.id
    else .passed account.user.id

inductive Resolution where
  | accepted (session : Session)
  | expired (sessionId : Id)
  | refused
deriving DecidableEq, Repr

def accountOf (accounts : Accounts) (session : Session) : Option CustomerAccount :=
  accounts.customers.rows.find? fun account => account.user.id == session.userId

def resolveRead (accounts : Accounts) (tokenHash : Nat) (now : Int) : Resolution :=
  match accounts.sessions.rows.find? (fun session => session.tokenHash == tokenHash) with
  | none => .refused
  | some session =>
    if session.status ≠ .active \/ session.audience ≠ .customer \/
        (accountOf accounts session).any (fun account =>
          account.user.audience == .customer && account.user.status == .active) = false \/
        session.idleExpiresAt <= now \/ session.absoluteExpiresAt <= now \/ session.revokedAt.isSome then
      if session.status = .active then .expired session.id else .refused
    else if (accountOf accounts session).any (fun account => account.suspendedAt.isSome) then .refused
    else .accepted session

def revokeOne (sessions : Table Session.id) (id : Id) (reason : String) (now : Int) : Table Session.id :=
  sessions.update (fun row => row.id == id && row.audience == .customer && row.status == .active)
    (revokedSession reason now) (revokedSession_id reason now)

-- The session of the cookie the login came with, if it is there and still active.
def previousSession (sessions : Table Session.id) (previousToken : Option Nat) : Option Session :=
  (previousToken.bind fun token => sessions.rows.find? fun row => row.tokenHash == token).filter
    fun previous => previous.audience == .customer && previous.status == .active

def insertSession (sessions : Table Session.id) (session : Session) : Option (Table Session.id) :=
  if sessions.rows.any fun row => row.tokenHash == session.tokenHash then none
  else sessions.insert? session

def issueSession (sessions : Table Session.id) (userId id : Id) (tokenHash : Nat)
    (previousToken : Option Nat) (now : Int) : Option (Table Session.id) :=
  let previous := previousSession sessions previousToken
  let rotated := match previous with
    | none => sessions
    | some previous => revokeOne sessions previous.id "session_rotated_after_authentication" now
  insertSession rotated {
    id
    userId
    audience := .customer
    tokenHash
    status := .active
    lastSeenAt := now
    idleExpiresAt := now + minutes rules.idleMinutes
    absoluteExpiresAt := now + minutes rules.absoluteMinutes
    revokedAt := none
    revokedReason := none
    rotatedFromId := (previous.filter fun previous => previous.userId == userId).map (·.id) }

def expiredSession (now : Int) (row : Session) : Session :=
  { row with status := .expired, revokedAt := some now, revokedReason := some "expired_or_invalid" }

def expireSession (sessions : Table Session.id) (id : Id) (now : Int) : Table Session.id :=
  sessions.update (fun row => row.id == id && row.status == .active) (expiredSession now) fun _ => rfl

def touchedSession (now : Int) (row : Session) : Session :=
  { row with
    lastSeenAt := now
    idleExpiresAt := min (now + minutes rules.idleMinutes) row.absoluteExpiresAt }

def touchSession (sessions : Table Session.id) (session : Session) (now : Int) : Table Session.id :=
  sessions.update
    (fun row => row.id == session.id && row.status == .active && row.lastSeenAt == session.lastSeenAt)
    (touchedSession rules now) fun _ => rfl

def updateUser (customers : Table CustomerAccount.id) (userId : Id) (change : User -> User) :
    Table CustomerAccount.id :=
  customers.update (fun row => row.user.id == userId) (fun row => { row with user := change row.user })
    fun _ => rfl

def failedLogin (user : User) : User :=
  { user with failedLoginCount := user.failedLoginCount + 1 }

def lockedLogin (failedLoginCount : Nat) (now : Int) (user : User) : User :=
  { user with lockedUntil := some (now + min ((failedLoginCount : Int) - 4) 6 * minutes 5) }

def succeededLogin (user : User) : User :=
  { user with failedLoginCount := 0, lockedUntil := none }

def resetUser (passwordHash : Nat) (user : User) : User :=
  { user with passwordHash := some passwordHash, failedLoginCount := 0, lockedUntil := none }

def consumedToken (now : Int) (row : PasswordResetToken) : PasswordResetToken :=
  { row with consumedAt := some now }

-- The user a token may reset, read with it.
def checkReset (accounts : Accounts) (tokenHash : Nat) (now : Int) : Option PasswordResetToken :=
  (accounts.resetTokens.rows.find? fun token => token.tokenHash == tokenHash).filter fun token =>
    token.audience == .customer && token.consumedAt.isNone && decide (now < token.expiresAt) &&
      (accounts.customers.rows.find? fun account => account.user.id == token.userId).any fun account =>
        account.user.audience == .customer && account.user.status == .active &&
          account.user.passwordHash.isSome && account.suspendedAt.isNone

-- The transaction of a reset: it consumes its token, and the other open ones with it.
def completeReset (accounts : Accounts) (token : PasswordResetToken) (passwordHash : Nat) (now : Int) :
    Option Accounts :=
  if accounts.resetTokens.count (fun row =>
      row.id == token.id && row.consumedAt.isNone && decide (now < row.expiresAt)) = 1 then
    some { accounts with
      resetTokens := accounts.resetTokens.update
        (fun row => row.id == token.id ||
          (row.userId == token.userId && row.audience == .customer && row.consumedAt.isNone))
        (consumedToken now) fun _ => rfl
      customers := updateUser accounts.customers token.userId (resetUser passwordHash)
      sessions := revokeSessions accounts.sessions token.userId "password_reset" now }
  else none

def requestReset (customers : Table CustomerAccount.id) (email : Text) : Option Id :=
  ((customers.rows.find? fun account =>
    account.user.audience == .customer &&
      account.user.emailNormalized.any (sameText rules (normalizeEmail rules email)) &&
      (account.user.status == .active || account.user.status == .pendingVerification)).filter
    fun account => account.user.passwordHash.isSome).map (·.user.id)

def insertToken (tokens : Table PasswordResetToken.id) (token : PasswordResetToken) :
    Option (Table PasswordResetToken.id) :=
  if tokens.rows.any fun row => row.tokenHash == token.tokenHash then none else tokens.insert? token

-- How far a request is. `seen` counts the revocations that had been committed when the credentials of a
-- login were checked.
inductive Phase where
  | idle
  | failed (userId : Id)
  | counted (userId : Id) (failedLoginCount : Nat)
  | checked (userId : Id) (seen : Nat)
  | cleared (userId : Id) (seen : Nat)
  | expiring (sessionId : Id) (now : Int)
  | touching (session : Session) (now : Int)
  | resetRequested (userId : Id)
  | resetChecked (token : PasswordResetToken) (now : Int)
  | done

-- A session with the login it was issued to.
structure IssuedSession where
  sessionId : Id
  userId : Id
  seen : Nat
deriving DecidableEq, Repr

-- `revocations` lists the users whose sessions a reset, a suspension, a disabling or an anonymization
-- has revoked, as these were committed.
structure Premises where
  accounts : Accounts
  phases : Nat -> Phase
  activeOrders : Id -> Nat
  revocations : List Id
  issued : List IssuedSession

def Premises.enter (premises : Premises) (request : Nat) (phase : Phase) : Premises :=
  { premises with phases := Function.update premises.phases request phase }

-- The steps of requests; `ordered` is whatever the shop does to the orders of its customers.
inductive RequestStep where
  | checkLogin (request : Nat) (emailOrPhone password : Text) (now : Int)
  | countFailure (request : Nat)
  | lockLogin (request : Nat) (now : Int)
  | clearFailures (request : Nat)
  | issue (request : Nat) (id : Id) (tokenHash : Nat) (previousToken : Option Nat) (now : Int)
  | resolve (request : Nat) (tokenHash : Nat) (now : Int)
  | expire (request : Nat)
  | touch (request : Nat)
  | requestReset (request : Nat) (email : Text)
  | createToken (request : Nat) (id : Id) (tokenHash : Nat) (now : Int)
  | checkReset (request : Nat) (tokenHash : Nat) (now : Int)
  | completeReset (request : Nat) (passwordHash : Nat)
  | ordered (activeOrders : Id -> Nat)

def startLogin (premises : Premises) (request : Nat) : LoginCheck -> Premises
  | .passed userId => premises.enter request (.checked userId premises.revocations.length)
  | .failed userId => premises.enter request (.failed userId)
  | .locked => premises.enter request .done
  | .unknown => premises.enter request .done

def countFailure (premises : Premises) (request : Nat) (userId : Id) : Premises :=
  let customers := updateUser premises.accounts.customers userId failedLogin
  let failed := customers.rows.find? fun account => account.user.id == userId
  { premises with accounts.customers := customers }.enter request
    (match failed with
    | none => .done
    | some account =>
      if account.user.failedLoginCount >= 5 then .counted userId account.user.failedLoginCount else .done)

def issue (premises : Premises) (request : Nat) (userId : Id) (seen : Nat) (id : Id) (tokenHash : Nat)
    (previousToken : Option Nat) (now : Int) : Premises :=
  match issueSession rules premises.accounts.sessions userId id tokenHash previousToken now with
  | none => premises.enter request .done
  | some sessions =>
    { premises with
      accounts.sessions := sessions
      issued := premises.issued ++ [{ sessionId := id, userId, seen : IssuedSession }] }.enter request .done

def resolve (premises : Premises) (request : Nat) (now : Int) : Resolution -> Premises
  | .accepted session =>
    premises.enter request
      (if now - session.lastSeenAt >= minutes 5 then .touching session now else .done)
  | .expired sessionId => premises.enter request (.expiring sessionId now)
  | .refused => premises.enter request .done

def Premises.operate (premises : Premises) : RequestStep -> Premises
  | .checkLogin request emailOrPhone password now =>
    match premises.phases request with
    | .idle =>
      startLogin premises request
        (CustomerSessions.checkLogin rules premises.accounts.customers emailOrPhone password now)
    | _ => premises
  | .countFailure request =>
    match premises.phases request with
    | .failed userId => CustomerSessions.countFailure premises request userId
    | _ => premises
  | .lockLogin request now =>
    match premises.phases request with
    | .counted userId failedLoginCount =>
      { premises with
        accounts.customers :=
          updateUser premises.accounts.customers userId (lockedLogin failedLoginCount now) }.enter
        request .done
    | _ => premises
  | .clearFailures request =>
    match premises.phases request with
    | .checked userId seen =>
      { premises with
        accounts.customers := updateUser premises.accounts.customers userId succeededLogin }.enter
        request (.cleared userId seen)
    | _ => premises
  | .issue request id tokenHash previousToken now =>
    match premises.phases request with
    | .cleared userId seen =>
      CustomerSessions.issue rules premises request userId seen id tokenHash previousToken now
    | _ => premises
  | .resolve request tokenHash now =>
    match premises.phases request with
    | .idle => CustomerSessions.resolve premises request now (resolveRead premises.accounts tokenHash now)
    | _ => premises
  | .expire request =>
    match premises.phases request with
    | .expiring sessionId now =>
      { premises with
        accounts.sessions := expireSession premises.accounts.sessions sessionId now }.enter request .done
    | _ => premises
  | .touch request =>
    match premises.phases request with
    | .touching session now =>
      { premises with
        accounts.sessions := touchSession rules premises.accounts.sessions session now }.enter request .done
    | _ => premises
  | .requestReset request email =>
    match premises.phases request, CustomerSessions.requestReset rules premises.accounts.customers email with
    | .idle, some userId => premises.enter request (.resetRequested userId)
    | .idle, none => premises.enter request .done
    | _, _ => premises
  | .createToken request id tokenHash now =>
    match premises.phases request with
    | .resetRequested userId =>
      match insertToken premises.accounts.resetTokens {
          id
          userId
          audience := .customer
          tokenHash
          expiresAt := now + minutes rules.resetTtlMinutes
          consumedAt := none } with
      | none => premises.enter request .done
      | some tokens => { premises with accounts.resetTokens := tokens }.enter request .done
    | _ => premises
  | .checkReset request tokenHash now =>
    match premises.phases request, CustomerSessions.checkReset premises.accounts tokenHash now with
    | .idle, some token => premises.enter request (.resetChecked token now)
    | .idle, none => premises.enter request .done
    | _, _ => premises
  | .completeReset request passwordHash =>
    match premises.phases request with
    | .resetChecked token now =>
      match CustomerSessions.completeReset premises.accounts token passwordHash now with
      | none => premises.enter request .done
      | some accounts =>
        { premises with accounts, revocations := premises.revocations ++ [token.userId] }.enter request .done
    | _ => premises
  | .ordered activeOrders => { premises with activeOrders }

-- The user whose access an account call revokes.
def revokedUser (accounts : Accounts) : Call -> Option Id
  | .lifecycle .reactivate _ _ _ _ => none
  | .lifecycle _ id _ _ _ => (accounts.customers.find? id).map (·.user.id)
  | .anonymize id _ _ _ => (accounts.customers.find? id).map (·.user.id)

-- The account calls lock the role of super administrators before they read.
def system : System Premises Call RequestStep where
  plan _ := System.lockFirst
  work call snapshot current :=
    (succeeded (call.run rules.text snapshot.activeOrders snapshot.accounts current.accounts)).map
      fun accounts =>
        { current with
          accounts
          revocations := current.revocations ++ (revokedUser snapshot.accounts call).toList }
  outside step premises := premises.operate rules step

def opening (accounts : Accounts) (activeOrders : Id -> Nat) : Premises where
  accounts := { accounts with sessions := Table.empty }
  phases := fun _ => .idle
  activeOrders := activeOrders
  revocations := []
  issued := []

end VapeCommerce.Auth.CustomerSessions
