import RelayTerm.HostKey.Entries
import RelayTerm.Session.Alone
import RelayTerm.Session.Runtimes
/-!
# The create route

`POST /terminal-sessions` resolves the profile, reads the quota counts, creates
the session, starts the bridge and promotes the session to live. A request rests
at one of the route's own await points, or inside a manager call it made; the
stretches of that call are those of the manager. The manager's other tasks are
the calls of other routes, the forwarders and the timers.
-/
open RelayTerm.Lib

namespace RelayTerm.Create

open Session

abbrev RequestId := Nat

/-- The errors of the create route. -/
inductive CreateApiError where
  | validation (message : String)
  | notFound (entity : String)
  | conflict (entity : String) (reason : Option String)
  | tooManySessions
  | tooManySessionsDeployment
  | tooManyStartingSessions
  | serviceUnavailable (detail : String)
  | badGateway (detail : String)
  | internal (detail : String)
  | vault
  deriving DecidableEq, Repr

def entity : String := "terminal_session"

/-- The message of a database error is for the operator's log only. -/
def CreateApiError.ofRepository : RepositoryError → CreateApiError
  | .notFound entity => .notFound entity
  | .conflict entity _ => .conflict entity none
  | .validation field message => .internal s!"row integrity {field}: {message}"
  | .database message => .internal message

/-- The detail of a PTY error, too, is for the operator's log only. -/
def CreateApiError.ofManager : ManagerError → CreateApiError
  | .invalidDimensions field message => .validation s!"{field}: {message}"
  | .notFound => .notFound "terminal_session"
  | .sessionClosed => .conflict "terminal_session" none
  | .ptyNotLive => .conflict "pty_runtime" none
  | .ptyStart _ => .internal "ssh pty"
  | .repository e => .ofRepository e

/-- The error of a bridge that did not start, and the category of its `closed` event. -/
def mapPtyStartError : SshPtyError → CreateApiError × String
  | .invalidIdentity => (.internal "ssh identity material is malformed", "invalid_identity")
  | .transport _ => (.badGateway "ssh transport failure during pty start", "transport")
  | .hostKeyNotTrusted => (.conflict "host_key" none, "host_key_not_trusted")
  | .authenticationFailed => (.conflict "ssh_auth" none, "authentication_failed")
  | .ptyStartFailed => (.badGateway "ssh pty/shell start failed", "pty_alloc")
  | .bridgeClosed => (.internal "bridge closed before start completed", "bridge_closed")

/-- What the create route reads of a server profile, its host and its identity. -/
structure LoadedProfile where
  id : ServerProfileId
  ownerId : UserId
  hostId : HostId
  sshIdentityId : SshIdentityId
  disabled : Bool
  deriving DecidableEq, Repr

structure LoadedHost where
  id : HostId
  ownerId : UserId
  deriving DecidableEq, Repr

structure LoadedIdentity where
  ownerId : UserId
  deriving DecidableEq, Repr

structure Body where
  serverProfileId : ServerProfileId
  cols : Nat
  rows : Nat
  deriving DecidableEq, Repr

structure Caps where
  maxLivePtyPerUser : Nat
  maxLivePtyPerDeployment : Nat
  maxStartingPerUser : Nat
  deriving DecidableEq, Repr

/-- What the outside answers at an await point of a request. -/
structure CreateEnv where
  /-- For the await points of a manager call; `ok` also decides the route's own lookups. -/
  manager : Env := {}
  profile : Option LoadedProfile := none
  host : Option LoadedHost := none
  identity : Option LoadedIdentity := none
  known : List HostKey.KnownHostEntry := []
  /-- `none` is a vault that is disabled, `some false` one that cannot decrypt. -/
  vault : Option Bool := some true
  start : Except SshPtyError PtyId := .ok 0

inductive Stage where
  | getProfile (body : Body)
  | getHost (body : Body) (profile : LoadedProfile)
  | getIdentity (body : Body) (profile : LoadedProfile) (host : LoadedHost)
  | listForHost (body : Body) (profile : LoadedProfile) (host : LoadedHost)
  /-- In `create_session`. -/
  | creating (t : Task)
  /-- Waiting for the bridge to start. -/
  | bridging (sid : SessionId)
  /-- In `record_pty_start_failed`, to return `err`. -/
  | failing (err : CreateApiError) (t : Task)
  /-- In `start_live_pty`. -/
  | promoting (t : Task)
  deriving DecidableEq, Repr

structure Request where
  user : UserId
  stage : Stage
  deriving DecidableEq, Repr

inductive Next where
  | await (stage : Stage)
  | ret (reply : Except CreateApiError TerminalSession)

structure Out where
  sys : Sys
  next : Next

/-! ## The route -/

/-- The three quota checks, in their order. -/
def checkQuotas (caps : Caps) (st : Store) (user : UserId) : Except CreateApiError Unit :=
  if st.countLivePtyForUser user ≥ caps.maxLivePtyPerUser then .error .tooManySessions
  else if st.countLivePtyTotal ≥ caps.maxLivePtyPerDeployment then .error .tooManySessionsDeployment
  else if st.countStartingForUser user ≥ caps.maxStartingPerUser then .error .tooManyStartingSessions
  else .ok ()

/-- `create_session` got to the end of a stretch. -/
def afterCreating (s : Sys) (o : Session.Out) : Out :=
  ⟨s.leave o, match o.next with
    | .await t => .await (.creating t)
    | .ret (.created sid _ _ _) => .await (.bridging sid)
    | .ret (.failed e) => .ret (.error (.ofManager e))
    | .ret _ => .ret (.error (.notFound entity))⟩

/-- `record_pty_start_failed` got to the end of a stretch; its result is ignored. -/
def afterFailing (s : Sys) (err : CreateApiError) (o : Session.Out) : Out :=
  ⟨s.leave o, match o.next with
    | .await t => .await (.failing err t)
    | .ret _ => .ret (.error err)⟩

/-- `start_live_pty` got to the end of a stretch. -/
def afterPromoting (s : Sys) (o : Session.Out) : Out :=
  ⟨s.leave o, match o.next with
    | .await t => .await (.promoting t)
    | .ret (.started session) => .ret (.ok session)
    | .ret (.failed e) => .ret (.error (.ofManager e))
    | .ret _ => .ret (.error (.notFound entity))⟩

/-- The route from the known hosts to the first await point of `create_session`. -/
def listed (caps : Caps) (s : Sys) (env : CreateEnv) (user : UserId) (body : Body) (profile : LoadedProfile) : Out :=
  if HostKey.ptyAcceptPins env.known = [] then ⟨s, .ret (.error (.conflict "host_key" none))⟩
  else match checkQuotas caps s.store user with
    | .error e => ⟨s, .ret (.error e)⟩
    | .ok () => match env.vault with
      | none => ⟨s, .ret (.error (.serviceUnavailable "vault disabled — pty start not available"))⟩
      | some false => ⟨s, .ret (.error .vault)⟩
      | some true => afterCreating s (s.store.enter (.createSession ⟨user, profile.id, body.cols, body.rows⟩))

/-- A lookup that finds nothing of the caller's own is a 404. -/
def found {α : Type} (s : Sys) (ok : Bool) (row : Option α) (next : α → Out) : Out :=
  if ok then match row with
    | none => ⟨s, .ret (.error (.notFound entity))⟩
    | some x => next x
  else ⟨s, .ret (.error (.ofRepository .driver))⟩

/-- The route from an await point to the next one. -/
def resume (caps : Caps) (s : Sys) (env : CreateEnv) (user : UserId) : Stage → Out
  | .getProfile body =>
    found s env.manager.ok (env.profile.filter (·.ownerId = user)) fun profile =>
      if profile.disabled then ⟨s, .ret (.error (.conflict "server_profile" (some "disabled")))⟩
      else ⟨s, .await (.getHost body profile)⟩
  | .getHost body profile =>
    found s env.manager.ok (env.host.filter (·.ownerId = user)) fun host => ⟨s, .await (.getIdentity body profile host)⟩
  | .getIdentity body profile host =>
    found s env.manager.ok (env.identity.filter (·.ownerId = user)) fun _ =>
      ⟨s, .await (.listForHost body profile host)⟩
  | .listForHost body profile _ =>
    if env.manager.ok then listed caps s env user body profile else ⟨s, .ret (.error (.ofRepository .driver))⟩
  | .creating t => afterCreating s (s.store.resume env.manager s.nextTask t)
  | .bridging sid => match env.start with
    | .error e =>
      afterFailing s (mapPtyStartError e).1 (s.store.enter (.recordPtyStartFailed user sid (mapPtyStartError e).2))
    | .ok pty => afterPromoting s (s.store.enter (.startLivePty user sid pty))
  | .failing err t => afterFailing s err (s.store.resume env.manager s.nextTask t)
  | .promoting t => afterPromoting s (s.store.resume env.manager s.nextTask t)

/-! ## The server -/

/-- The manager calls of the other routes. -/
inductive ClientCall where
  | closeSession (sid : SessionId) (owner : UserId)
  | attachSession (req : AttachSessionRequest)
  | detach (req : DetachRequest)
  | writePtyInput (owner : UserId) (sid : SessionId) (bytes : List UInt8)
  | applyPtyResize (owner : UserId) (sid : SessionId) (cols rows : Nat)
  | resizeSession (owner : UserId) (sid : SessionId) (cols rows : Nat)
  deriving DecidableEq, Repr

def ClientCall.call : ClientCall → Call
  | .closeSession sid owner => .closeSession sid owner
  | .attachSession req => .attachSession req
  | .detach req => .detach req
  | .writePtyInput owner sid bytes => .writePtyInput owner sid bytes
  | .applyPtyResize owner sid cols rows => .applyPtyResize owner sid cols rows
  | .resizeSession owner sid cols rows => .resizeSession owner sid cols rows

structure Server where
  sys : Sys
  requests : Registry RequestId Request
  nextRequest : RequestId

def Server.init (ttl : Nat) : Server := ⟨Sys.init ttl, ∅, 0⟩

inductive Event where
  | create (user : UserId) (body : Body)
  | resume (rid : RequestId) (env : CreateEnv)
  | client (c : ClientCall)
  /-- A task of the manager goes on. -/
  | task (tid : TaskId) (env : Env)

def Server.settle (s : Server) (rid : RequestId) (user : UserId) (o : Out) : Server where
  sys := o.sys
  requests := match o.next with
    | .await stage => s.requests.insert rid ⟨user, stage⟩
    | .ret _ => s.requests.erase rid
  nextRequest := s.nextRequest

def Server.step (caps : Caps) (s : Server) : Event → Option Server
  | .create user body =>
    some { s with
      requests := s.requests.insert s.nextRequest ⟨user, .getProfile body⟩
      nextRequest := s.nextRequest + 1 }
  | .resume rid env =>
    (s.requests.lookup rid).map fun r => s.settle rid r.user (resume caps s.sys env r.user r.stage)
  | .client c => (s.sys.step (.call c.call)).map fun sys => { s with sys := sys }
  | .task tid env => (s.sys.step (.resume tid env)).map fun sys => { s with sys := sys }

end RelayTerm.Create
