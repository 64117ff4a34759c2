import RelayTerm.Account.Rows
/-!
# Account requests as tasks

The routes of `/api/v1/auth`: bootstrap, login, logout, and behind the
`AuthenticatedUser` extractor `me`, change-password, list-sessions, revoke-session
and revoke-all-except-current; with them the service's `revoke_all_for_user`. A
request rests at an await point, and every answer of the outside comes with the
event that resumes it. An `UPDATE` of `user_sessions` is two steps, as under READ
COMMITTED: it takes its snapshot, and later it has its locks and writes.

The login route is the one of `Auth.Logins`, its lookups now answered by the
tables.
-/
open RelayTerm.Lib

namespace RelayTerm.Account

open Auth (User SqlLower LoginRequest nanosPerSecond)

abbrev TaskId := Nat

/-- The errors of the account routes. -/
inductive AccountApiError where
  | auth (e : Auth.LoginApiError)
  | notFound (entity : String)
  | conflict (entity : String) (reason : Option String)
  | serviceUnavailable (detail : String)
  deriving DecidableEq, Repr

/-! ## Request bodies -/

def displayNameMaxLen : Nat := 200
def bootstrapTokenMaxLen : Nat := 4096

structure BootstrapRequest where
  bootstrapToken : String
  email : String
  displayName : String
  password : String
  deriving DecidableEq, Repr

def validateBootstrapTokenLen (value : String) : Except Auth.LoginApiError Unit :=
  if value.utf8ByteSize = 0 || value.utf8ByteSize > bootstrapTokenMaxLen then
    .error (.validation "bootstrap_token is invalid")
  else .ok ()

def validateDisplayName (value : String) : Except Auth.LoginApiError Unit :=
  if value.utf8ByteSize = 0 || value.utf8ByteSize > displayNameMaxLen then
    .error (.validation s!"display_name must be between 1 and {displayNameMaxLen} chars")
  else .ok ()

def BootstrapRequest.validated (req : BootstrapRequest) : Except Auth.LoginApiError BootstrapRequest := do
  validateBootstrapTokenLen req.bootstrapToken
  Auth.validateEmail req.email
  validateDisplayName req.displayName
  Auth.validatePassword req.password
  return req

structure ChangePasswordRequest where
  currentPassword : String
  newPassword : String
  deriving DecidableEq, Repr

/-- The current password has no length floor. -/
def ChangePasswordRequest.validated (req : ChangePasswordRequest) : Except Auth.LoginApiError ChangePasswordRequest :=
  if req.currentPassword.utf8ByteSize = 0 || req.currentPassword.utf8ByteSize > Auth.passwordMaxLen then
    .error (.validation "current_password is invalid")
  else do
    Auth.validatePassword req.newPassword
    return req

/-! ## Await points -/

def sessionTtl : Time := 30 * 24 * 60 * 60 * nanosPerSecond

structure AuthenticatedUser where
  user : User
  sessionId : UserSessionId
  deriving DecidableEq, Repr

/-- The routes behind the extractor. -/
inductive Route where
  | me
  | listSessions
  | changePassword (body : ChangePasswordRequest)
  | revokeSession (id : UserSessionId)
  | revokeAllExceptCurrent
  deriving DecidableEq, Repr

/-- Who calls `revoke_all_except`. -/
inductive Purge where
  | requested
  /-- `change_password`, which has stored the new hash. -/
  | passwordChanged (new : PasswordHash)
  deriving DecidableEq, Repr

/-- A call of an `UPDATE`, with what the caller goes on with. -/
inductive Call where
  | touchLastSeen (route : Route) (user : AuthenticatedUser) (now : Time)
  | revoke (id : UserSessionId) (user : UserId) (now : Time)
  | revokeForUser (user : AuthenticatedUser) (id : UserSessionId) (now : Time)
  | revokeAllForUser (user : UserId) (now : Time) (reason : Option String)
  | revokeAllExcept (user : AuthenticatedUser) (purge : Purge) (now : Time)
  deriving DecidableEq, Repr

def Purge.reason : Purge → String
  | .requested => "user_revoke_all"
  | .passwordChanged _ => "password_changed"

def Call.statement : Call → Statement
  | .touchLastSeen _ user now => .touchLastSeen user.sessionId now
  | .revoke id _ now => .revoke id now (some "logout")
  | .revokeForUser user id now => .revokeForUser user.user.id id now (some "user_revoke")
  | .revokeAllForUser user now reason => .revokeAllForUser user now reason
  | .revokeAllExcept user purge now => .revokeAllExcept user.user.id user.sessionId now (some purge.reason)

/-- A login: its body and clock reading, and the hash its password was verified against. -/
structure Login where
  req : LoginRequest
  now : Time
  against : Option PasswordHash
  deriving DecidableEq, Repr

inductive Task where
  | auditRefusedBootstrap (reason : String) (err : AccountApiError)
  | anyExists (req : BootstrapRequest)
  | createUser (req : BootstrapRequest)
  | setFirstPassword (user : User) (password : String)
  | auditFirstUser (user : User)
  | login (l : Login) (t : Auth.Task)
  | validateLogout (token : String) (now : Time)
  | validate (route : Route) (token : String) (now : Time)
  | getUser (route : Route) (id : UserSessionId) (user : UserId) (now : Time)
  | listSessions (user : AuthenticatedUser) (now : Time)
  | verifyCurrent (user : AuthenticatedUser) (body : ChangePasswordRequest) (now : Time)
  | setPassword (user : AuthenticatedUser) (password : String) (now : Time)
  /-- The statement has not started. -/
  | update (call : Call)
  /-- The statement has its snapshot and waits for its locks. -/
  | write (call : Call) (snap : Snapshot)
  | auditLogout (id : UserSessionId) (user : UserId) (now : Time)
  | auditSessionRevoked (user : AuthenticatedUser) (id : UserSessionId) (now : Time)
  | auditSessionsRevoked (user : AuthenticatedUser) (revokedCount : Nat) (now : Time)
  | auditPasswordChanged (user : AuthenticatedUser) (new : PasswordHash) (revokedOtherSessions : Nat) (now : Time)
  deriving DecidableEq, Repr

inductive SessionStatus where
  | active | expired | revoked
  deriving DecidableEq, Repr

structure SessionListItem where
  id : UserSessionId
  createdAt : Time
  lastSeenAt : Time
  expiresAt : Time
  revokedAt : Option Time
  current : Bool
  status : SessionStatus
  deriving DecidableEq, Repr

def SessionListItem.fromRow (now : Time) (currentId : UserSessionId) (id : UserSessionId) (row : UserSession) :
    SessionListItem where
  id := id
  createdAt := row.createdAt
  lastSeenAt := row.lastSeenAt
  expiresAt := row.expiresAt
  revokedAt := row.revokedAt
  current := id = currentId
  status := if row.isRevoked then .revoked else if row.isExpiredAt now then .expired else .active

inductive Reply where
  | user (user : User)
  | sessions (sessions : List SessionListItem)
  | noContent (clearCookie : Bool)
  | revokedCount (n : Nat)
  | revokedOtherSessions (n : Nat)
  | refused (e : AccountApiError)
  deriving DecidableEq, Repr

inductive Next where
  | await (t : Task)
  | ret (r : Reply)
  deriving DecidableEq, Repr

inductive AccountAuditEvent where
  | loginFailed (method reason : String)
  | loginSucceeded (user : UserId) (loginAt : Time)
  | logoutSucceeded (user : UserId) (session : UserSessionId) (logoutAt : Time)
  | firstUserCreated (user : UserId)
  | passwordChanged (user : UserId) (revokedOtherSessions : Nat) (changedAt : Time)
  | sessionRevoked (user : UserId) (session : UserSessionId) (currentSession : Bool) (revokedAt : Time)
  | sessionsRevoked (user : UserId) (revokedCount : Nat) (revokedAt : Time)
  deriving DecidableEq, Repr

/-- The session whose revocation the row records. -/
def AccountAuditEvent.session : AccountAuditEvent → Option UserSessionId
  | .logoutSucceeded _ session _ | .sessionRevoked _ session _ _ => some session
  | _ => none

/-- What happened, for the record. -/
inductive Fact where
  /-- A row of `audit_events` was written. -/
  | wrote (event : AccountAuditEvent)
  /-- The session went from not revoked to revoked. -/
  | moved (id : UserSessionId)
  /-- A login created the session; its password had been verified against the hash. -/
  | minted (id : UserSessionId) (user : UserId) (against : PasswordHash)
  /-- A bootstrap created the user and stored a password for it. -/
  | bootstrapped (user : UserId)
  /-- A `change_password` of the session has returned success; it stored the new hash. -/
  | changed (user : UserId) (current : UserSessionId) (new : PasswordHash)
  deriving DecidableEq, Repr

structure Config where
  sql : SqlLower
  hasher : PasswordHasher
  /-- `hash_session_token`. -/
  digest : String → Digest
  bootstrapToken : Option String

structure Server where
  auth : Auth.Server
  users : List User
  nextUser : UserId
  passwords : UserPasswords
  sessions : UserSessions

/-- What the outside answers at an await point. -/
structure Env where
  /-- The repository call succeeds. -/
  ok : Bool
  /-- The clock when the code goes on. -/
  now : Time
  /-- The token `SessionToken::generate` draws. -/
  token : String
  deriving DecidableEq, Repr

structure Out where
  server : Server
  next : Next
  facts : List Fact

def SessionError.detail : SessionError → String
  | .invalid => "session invalid"
  | .expired => "session expired"
  | .revoked => "session revoked"

namespace Server

variable (cfg : Config) (sv : Server)

def await (t : Task) : Out := ⟨sv, .await t, []⟩
def ret (r : Reply) : Out := ⟨sv, .ret r, []⟩
def refuse (e : AccountApiError) : Out := sv.ret (.refused e)
def unauthorized (detail : String) : Out := sv.refuse (.auth (.unauthorized detail))
def internal : Out := sv.refuse (.auth .internal)

/-- An audit row, written if the call succeeds, and the reply. -/
def audited (env : Env) (event : AccountAuditEvent) (r : Reply) : Out :=
  ⟨sv, .ret r, if env.ok then [.wrote event] else []⟩

/-! ## Bootstrap -/

def bootstrap (req : BootstrapRequest) : Out :=
  match req.validated with
  | .error e => sv.refuse (.auth e)
  | .ok req => match cfg.bootstrapToken with
    | none => sv.refuse (.serviceUnavailable "bootstrap is disabled (no first_user_bootstrap_token configured)")
    | some token =>
      if req.bootstrapToken ≠ token then
        sv.await (.auditRefusedBootstrap "bad_token" (.auth (.unauthorized "bad bootstrap token")))
      else sv.await (.anyExists req)

def anyExistsAnswered (req : BootstrapRequest) : Out :=
  if sv.passwords.anyExists then
    sv.await (.auditRefusedBootstrap "already_bootstrapped" (.conflict "user" (some "already_bootstrapped")))
  else sv.await (.createUser req)

/-- The unique index is on `LOWER(email)`. -/
def createUser (req : BootstrapRequest) : Out :=
  match Auth.getByEmail cfg.sql sv.users req.email with
  | some _ => sv.refuse (.conflict "user" none)
  | none =>
    let user : User := ⟨sv.nextUser, req.email⟩
    { sv with users := sv.users ++ [user], nextUser := sv.nextUser + 1 }.await (.setFirstPassword user req.password)

def setFirstPassword (user : User) (password : String) : Out :=
  ⟨{ sv with passwords := sv.passwords.upsertForUser cfg.hasher user.id password }, .await (.auditFirstUser user),
    [.bootstrapped user.id]⟩

/-! ## Login -/

/-- Go on as the login route does. -/
def loginOut (l : Login) (o : Auth.Out) (facts : List Fact) : Out where
  server := { sv with auth := o.server }
  next := match o.next with
    | .await t => .await (.login l t)
    | .ret (.ok user) => .ret (.user user)
    | .ret (.error e) => .ret (.refused (.auth e))
  facts := facts

def login (req : LoginRequest) (now : Time) : Out := sv.loginOut ⟨req, now, none⟩ (sv.auth.login req now) []

/-- `verify_password` with the row it reads. -/
def loginVerified (env : Env) (l : Login) (a : Auth.Attempt) (user : User) : Out :=
  let verified := if env.ok then sv.passwords.verifyPassword cfg.hasher user.id l.req.password else .error .other
  sv.loginOut { l with against := sv.passwords.rows.lookup user.id }
    (sv.auth.resume cfg.sql ⟨env.ok, sv.users, verified⟩ (.verifyPassword a user)) []

def newSession (env : Env) (l : Login) (user : User) : UserSession where
  userId := user.id
  tokenHash := cfg.digest env.token
  createdAt := env.now
  lastSeenAt := env.now
  expiresAt := l.now + sessionTtl

/-- `create_session`. -/
def loginCreated (env : Env) (l : Login) (user : User) : Out :=
  match if env.ok then sv.sessions.create (newSession cfg env l user) else none with
  | some sessions =>
    { sv with sessions := sessions }.loginOut l
      (sv.auth.resume cfg.sql ⟨true, sv.users, .error .other⟩ (.createSession user))
      (l.against.toList.map (.minted sv.sessions.nextId user.id))
  | none => sv.loginOut l (sv.auth.resume cfg.sql ⟨false, sv.users, .error .other⟩ (.createSession user)) []

/-- The audit row of a login that waits for it. -/
def loginAudit (l : Login) : Auth.Task → Option AccountAuditEvent
  | .auditThrottled => some (.loginFailed "password" "throttled")
  | .auditFailed _ => some (.loginFailed "password" "bad_credentials")
  | .auditSucceeded user => some (.loginSucceeded user.id l.now)
  | _ => none

def resumeLogin (env : Env) (l : Login) : Auth.Task → Out
  | .verifyPassword a user => sv.loginVerified cfg env l a user
  | .createSession user => sv.loginCreated cfg env l user
  | t => sv.loginOut l (sv.auth.resume cfg.sql ⟨env.ok, sv.users, .error .other⟩ t)
      (if env.ok then (loginAudit l t).toList.map .wrote else [])

/-! ## Logout and the extractor -/

/-- Every failure of the validation is a logout of nothing. -/
def logoutValidated (env : Env) (token : String) (now : Time) : Out :=
  if env.ok then match sv.sessions.validate (cfg.digest token) now with
    | .ok (id, row) => sv.await (.update (.revoke id row.userId now))
    | .error _ => sv.ret (.noContent true)
  else sv.ret (.noContent true)

def extractorValidated (route : Route) (token : String) (now : Time) : Out :=
  match sv.sessions.validate (cfg.digest token) now with
  | .ok (id, row) => sv.await (.getUser route id row.userId now)
  | .error e => sv.unauthorized e.detail

def extractorUser (route : Route) (id : UserSessionId) (user : UserId) (now : Time) : Out :=
  match sv.users.find? (·.id = user) with
  | some user => sv.await (.update (.touchLastSeen route ⟨user, id⟩ now))
  | none => sv.unauthorized "session references missing user"

/-- The handler of a route up to its first await point. -/
def handle (now : Time) (user : AuthenticatedUser) : Route → Out
  | .me => sv.ret (.user user.user)
  | .listSessions => sv.await (.listSessions user now)
  | .changePassword body => match body.validated with
    | .error e => sv.refuse (.auth e)
    | .ok body => sv.await (.verifyCurrent user body now)
  | .revokeSession id => sv.await (.update (.revokeForUser user id now))
  | .revokeAllExceptCurrent => sv.await (.update (.revokeAllExcept user .requested now))

def sessionsListed (user : AuthenticatedUser) (now : Time) : Out :=
  sv.ret (.sessions ((sv.sessions.listForUser user.user.id).map fun e =>
    .fromRow now user.sessionId e.1 e.2))

/-! ## Change password -/

def currentVerified (user : AuthenticatedUser) (body : ChangePasswordRequest) (now : Time) : Out :=
  match sv.passwords.verifyPassword cfg.hasher user.user.id body.currentPassword with
  | .ok () => sv.await (.setPassword user body.newPassword now)
  | .error _ => sv.unauthorized "invalid current password"

def setPassword (user : AuthenticatedUser) (password : String) (now : Time) : Out :=
  { sv with passwords := sv.passwords.upsertForUser cfg.hasher user.user.id password }.await
    (.update (.revokeAllExcept user (.passwordChanged (sv.passwords.fresh cfg.hasher password)) now))

/-! ## Updates -/

/-- What a caller does with the rows its `UPDATE` affected. -/
def answered (env : Env) (snap : Snapshot) (affected : Nat) : Call → Out
  | .touchLastSeen route user _ => sv.handle env.now user route
  | .revoke id user now => if affected = 0 then sv.ret (.noContent true) else sv.await (.auditLogout id user now)
  | .revokeForUser user id now =>
    if affected = 0 then sv.refuse (.notFound "user_session")
    else if snap.prior.isNone then sv.await (.auditSessionRevoked user id now)
    else sv.ret (.noContent (id = user.sessionId))
  | .revokeAllForUser _ _ _ => sv.ret (.revokedCount affected)
  | .revokeAllExcept user .requested now =>
    if affected > 0 then sv.await (.auditSessionsRevoked user affected now) else sv.ret (.revokedCount affected)
  | .revokeAllExcept user (.passwordChanged new) now => sv.await (.auditPasswordChanged user new affected now)

/-- A failed touch is ignored, every other failure is returned. -/
def updateFailed (env : Env) : Call → Out
  | .touchLastSeen route user _ => sv.handle env.now user route
  | _ => sv.internal

/-- The statement writes, and the caller goes on. -/
def written (env : Env) (call : Call) (snap : Snapshot) : Out :=
  let o := { sv with sessions := sv.sessions.write call.statement snap.targets }.answered env snap
    (call.statement.update.affected snap.targets sv.sessions.rows).length call
  { o with facts := (sv.sessions.moves call.statement snap.targets).map .moved }

/-! ## One resumption -/

def resume (env : Env) : Task → Out
  | .auditRefusedBootstrap reason err => sv.audited env (.loginFailed "bootstrap" reason) (.refused err)
  | .anyExists req => if env.ok then sv.anyExistsAnswered req else sv.internal
  | .createUser req => if env.ok then sv.createUser cfg req else sv.internal
  | .setFirstPassword user password => if env.ok then sv.setFirstPassword cfg user password else sv.internal
  | .auditFirstUser user =>
    sv.audited env (.firstUserCreated user.id) (if env.ok then .user user else .refused (.auth .internal))
  | .login l t => sv.resumeLogin cfg env l t
  | .validateLogout token now => sv.logoutValidated cfg env token now
  | .validate route token now => if env.ok then sv.extractorValidated cfg route token now else sv.internal
  | .getUser route id user now => if env.ok then sv.extractorUser route id user now else sv.internal
  | .listSessions user now => if env.ok then sv.sessionsListed user now else sv.internal
  | .verifyCurrent user body now => if env.ok then sv.currentVerified cfg user body now else sv.internal
  | .setPassword user password now => if env.ok then sv.setPassword cfg user password now else sv.internal
  | .update call =>
    if env.ok then sv.await (.write call (sv.sessions.snapshot call.statement)) else sv.updateFailed env call
  | .write call snap => if env.ok then sv.written env call snap else sv.updateFailed env call
  | .auditLogout id user now =>
    sv.audited env (.logoutSucceeded user id now) (if env.ok then .noContent true else .refused (.auth .internal))
  | .auditSessionRevoked user id now =>
    sv.audited env (.sessionRevoked user.user.id id (id = user.sessionId) now)
      (if env.ok then .noContent (id = user.sessionId) else .refused (.auth .internal))
  | .auditSessionsRevoked user n now =>
    sv.audited env (.sessionsRevoked user.user.id n now)
      (if env.ok then .revokedCount n else .refused (.auth .internal))
  | .auditPasswordChanged user new n now =>
    if env.ok then ⟨sv, .ret (.revokedOtherSessions n),
      [.wrote (.passwordChanged user.user.id n now), .changed user.user.id user.sessionId new]⟩
    else sv.internal

end Server

/-! ## The system -/

inductive Request where
  | bootstrap (req : BootstrapRequest)
  | login (req : LoginRequest)
  | logout (token : Option String)
  | authenticated (route : Route) (token : Option String)
  /-- The service's `revoke_all_for_user`. -/
  | revokeAllForUser (user : UserId) (reason : Option String)
  deriving DecidableEq, Repr

/-- A request up to its first await point. -/
def Server.enter (cfg : Config) (sv : Server) (now : Time) : Request → Out
  | .bootstrap req => sv.bootstrap cfg req
  | .login req => sv.login req now
  | .logout none => sv.ret (.noContent true)
  | .logout (some token) => sv.await (.validateLogout token now)
  | .authenticated _ none => sv.unauthorized "missing session cookie"
  | .authenticated route (some token) => sv.await (.validate route token now)
  | .revokeAllForUser user reason => sv.await (.update (.revokeAllForUser user now reason))

structure Sys where
  server : Server
  tasks : Registry TaskId Task
  nextTask : TaskId
  /-- What happened, and by which request. -/
  history : List (TaskId × Fact)

inductive Event where
  | request (r : Request) (now : Time)
  | resume (tid : TaskId) (env : Env)
  deriving DecidableEq, Repr

def Sys.settle (s : Sys) (tid : TaskId) (o : Out) : Sys where
  server := o.server
  tasks := match o.next with
    | .await t => s.tasks.insert tid t
    | .ret _ => s.tasks.erase tid
  nextTask := s.nextTask
  history := s.history ++ o.facts.map (tid, ·)

def Sys.step (cfg : Config) (s : Sys) : Event → Option Sys
  | .request r now => some { s.settle s.nextTask (s.server.enter cfg now r) with nextTask := s.nextTask + 1 }
  | .resume tid env => (s.tasks.lookup tid).map fun t => s.settle tid (s.server.resume cfg env t)

/-- How often something that satisfies `p` happened. -/
def Sys.count (s : Sys) (p : Fact → Bool) : Nat := s.history.countP fun e => p e.2

/-- The server over an empty database. -/
def Server.init : Server := ⟨⟨.new .v1Default, []⟩, [], 0, .empty, .empty⟩

def Sys.start (sv : Server) : Sys := ⟨sv, ∅, 0, []⟩

/-- A hasher one can compute: it keeps the plaintext. -/
def PasswordHasher.plain : PasswordHasher where
  hash plaintext _ := plaintext
  verify phc plaintext := phc = plaintext
  verify_hash _ _ _ := decide_eq_true_iff.trans eq_comm

/-- A configuration whose digest one can compute. -/
def Config.basic : Config :=
  ⟨.basic, .plain, fun token => token.toList.map fun c => UInt8.ofNat c.toNat, some "first"⟩

end RelayTerm.Account
