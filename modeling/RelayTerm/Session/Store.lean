import RelayTerm.Core.Types
import RelayTerm.Lib.Registry
/-!
# Session rows and registries

What the terminal session manager keeps: the rows of `terminal_sessions`,
`terminal_session_attachments` and `session_events`, and its two in-memory
registries. Each repository method is one SQL statement, so it is one function
here; it fails when the environment says so, or when the statement itself does.
-/
open RelayTerm.Lib

namespace RelayTerm.Session

abbrev AttachmentId := Nat
abbrev PtyId := Nat
/-- Handle of a spawned task. -/
abbrev TaskId := Nat
abbrev Time := Nat

inductive TerminalSessionStatus where
  | starting | active | detached | closed
  deriving DecidableEq, Repr

/-- A row of `terminal_sessions`; its id is its key. -/
structure TerminalSession where
  ownerId : UserId
  serverProfileId : ServerProfileId
  status : TerminalSessionStatus
  cols : Nat
  rows : Nat
  createdAt : Time
  lastSeenAt : Time
  closedAt : Option Time
  deriving DecidableEq, Repr

/-- A row of `terminal_session_attachments`; its id is its key. -/
structure TerminalSessionAttachment where
  sessionId : SessionId
  attachedAt : Time
  detachedAt : Option Time
  clientInfo : Option String
  remoteAddr : Option String
  lastSeenSeq : Option Int
  deriving DecidableEq, Repr

/-- The JSON payloads the manager appends. -/
inductive SessionEventPayload where
  | created (cols rows : Nat) (stub : Bool)
  | attached (attachmentId : AttachmentId) (clientInfo remoteAddr : Option String) (stub live : Bool)
  | reattached (attachmentId : AttachmentId)
  | detached (attachmentId : AttachmentId) (lastSeenSeq : Option Int)
  | resized (cols rows : Nat)
  | closed (reason : String) (category : Option String)
  deriving DecidableEq, Repr

/-- A row of `session_events`. -/
structure SessionEvent where
  sessionId : SessionId
  kind : SessionEventKind
  payload : SessionEventPayload
  deriving DecidableEq, Repr

inductive RuntimeSessionStatus where
  | starting | live | ended
  deriving DecidableEq, Repr

structure TerminalSessionRuntime where
  ownerId : UserId
  serverProfileId : ServerProfileId
  status : RuntimeSessionStatus
  createdAt : Time
  cols : Nat
  rows : Nat
  deriving DecidableEq, Repr

structure DetachInfo where
  detachedAt : Time
  expiresAt : Time
  deriving DecidableEq, Repr

/-- A scheduled TTL close and the task that sleeps for it. -/
structure DetachClose where
  info : DetachInfo
  handle : TaskId
  deriving DecidableEq, Repr

/-- The part of a live PTY runtime that the session's lifecycle reads. -/
structure LiveRuntime where
  handle : PtyId
  forwarder : Option TaskId
  detachClose : Option DetachClose
  deriving DecidableEq, Repr

/-- The tasks that dropping the runtime aborts. -/
def LiveRuntime.tasks (live : LiveRuntime) : List TaskId :=
  live.forwarder.toList ++ (live.detachClose.map (·.handle)).toList

structure RuntimeEntry where
  snapshot : TerminalSessionRuntime
  live : Option LiveRuntime
  deriving DecidableEq, Repr

/-- The tasks that dropping the entry aborts. -/
def RuntimeEntry.tasks (e : RuntimeEntry) : List TaskId := (e.live.map LiveRuntime.tasks).getD []

structure AttachmentRuntime where
  sessionId : SessionId
  ownerId : UserId
  attachedAt : Time
  clientInfo : Option String
  remoteAddr : Option String
  deriving DecidableEq, Repr

inductive ManagerError where
  | invalidDimensions (field message : String)
  | notFound
  | sessionClosed
  | ptyNotLive
  | ptyStart (e : SshPtyError)
  | repository (e : RepositoryError)
  deriving DecidableEq, Repr

/-- What one resumption of a task meets: whether its repository call succeeds,
the clock, the id an insert draws, what the bridge's channel yields, and the
error of a call on the bridge's handle. -/
structure Env where
  ok : Bool := true
  now : Time := 0
  id : Nat := 0
  bridge : Option SshPtyEvent := none
  handleError : Option SshPtyError := none

structure Store where
  sessions : Registry SessionId TerminalSession
  attachmentRows : Registry AttachmentId TerminalSessionAttachment
  events : List SessionEvent
  runtimes : Registry SessionId RuntimeEntry
  attachments : Registry AttachmentId AttachmentRuntime
  detachTtl : Nat

/-- Empty tables and registries. -/
def Store.init (ttl : Nat) : Store := ⟨∅, ∅, [], ∅, ∅, ttl⟩

/-! ## Repository calls -/

structure CreateTerminalSessionRequest where
  ownerId : UserId
  serverProfileId : ServerProfileId
  cols : Nat
  rows : Nat
  deriving DecidableEq, Repr

/-- `INSERT INTO terminal_sessions`, with status `starting`. -/
def Store.createSession (st : Store) (env : Env) (req : CreateTerminalSessionRequest) :
    Except ManagerError (TerminalSession × Store) :=
  if !env.ok then .error (.repository .driver)
  else if (st.sessions.lookup env.id).isSome then
    .error (.repository (.conflict "terminal_session" "terminal_sessions_pkey"))
  else
    let row : TerminalSession :=
      { ownerId := req.ownerId, serverProfileId := req.serverProfileId, status := .starting,
        cols := req.cols, rows := req.rows, createdAt := env.now, lastSeenAt := env.now, closedAt := none }
    .ok (row, { st with sessions := st.sessions.insert env.id row })

/-- `get`, filtered on the owner: a foreign row is as good as none. -/
def Store.getOwned (st : Store) (env : Env) (sid : SessionId) (owner : UserId) :
    Except ManagerError TerminalSession :=
  if !env.ok then .error (.repository .driver)
  else match (st.sessions.lookup sid).filter (·.ownerId = owner) with
    | none => .error .notFound
    | some session => .ok session

/-- `SET status = $2, closed_at = $3, last_seen_at = NOW()`. -/
def TerminalSession.setStatus (row : TerminalSession) (status : TerminalSessionStatus) (closedAt : Option Time)
    (now : Time) : TerminalSession :=
  { row with status := status, closedAt := closedAt, lastSeenAt := now }

/-- `UPDATE terminal_sessions … WHERE id`: the statement does not look at the
status it overwrites. -/
def Store.setStatus (st : Store) (env : Env) (sid : SessionId) (status : TerminalSessionStatus)
    (closedAt : Option Time) : Except ManagerError Store :=
  if !env.ok then .error (.repository .driver)
  else match st.sessions.lookup sid with
    | none => .error (.repository (.notFound "terminal_session"))
    | some row => .ok { st with sessions := st.sessions.insert sid (row.setStatus status closedAt env.now) }

/-- `INSERT INTO terminal_session_attachments`. -/
def Store.createAttachment (st : Store) (env : Env) (sid : SessionId) (clientInfo remoteAddr : Option String) :
    Except ManagerError (TerminalSessionAttachment × Store) :=
  if !env.ok then .error (.repository .driver)
  else if (st.attachmentRows.lookup env.id).isSome then
    .error (.repository (.conflict "terminal_session_attachment" "terminal_session_attachments_pkey"))
  else
    let row : TerminalSessionAttachment :=
      { sessionId := sid, attachedAt := env.now, detachedAt := none, clientInfo := clientInfo,
        remoteAddr := remoteAddr, lastSeenSeq := none }
    .ok (row, { st with attachmentRows := st.attachmentRows.insert env.id row })

/-- `get_attachment`, filtered on the session. -/
def Store.getAttachment (st : Store) (env : Env) (aid : AttachmentId) (sid : SessionId) :
    Except ManagerError TerminalSessionAttachment :=
  if !env.ok then .error (.repository .driver)
  else match (st.attachmentRows.lookup aid).filter (·.sessionId = sid) with
    | none => .error .notFound
    | some a => .ok a

/-- `SET detached_at = COALESCE(detached_at, $2), last_seen_seq = COALESCE(last_seen_seq, $3)`. -/
def TerminalSessionAttachment.markDetached (a : TerminalSessionAttachment) (detachedAt : Time)
    (lastSeenSeq : Option Int) : TerminalSessionAttachment :=
  { a with detachedAt := a.detachedAt.or (some detachedAt), lastSeenSeq := a.lastSeenSeq.or lastSeenSeq }

/-- `UPDATE terminal_session_attachments … WHERE id`. -/
def Store.markAttachmentDetached (st : Store) (env : Env) (aid : AttachmentId) (detachedAt : Time)
    (lastSeenSeq : Option Int) : Except ManagerError Store :=
  if !env.ok then .error (.repository .driver)
  else match st.attachmentRows.lookup aid with
    | none => .error (.repository (.notFound "terminal_session_attachment"))
    | some a => .ok { st with attachmentRows := st.attachmentRows.insert aid (a.markDetached detachedAt lastSeenSeq) }

/-- `INSERT INTO session_events`. -/
def Store.createEvent (st : Store) (env : Env) (ev : SessionEvent) : Except ManagerError Store :=
  if !env.ok then .error (.repository .driver) else .ok { st with events := st.events ++ [ev] }

/-! ## Registry reads and writes -/

/-- The live runtime of a session, if a PTY is bound. -/
def Store.live (st : Store) (sid : SessionId) : Option LiveRuntime := (st.runtimes.lookup sid).bind (·.live)

/-- The scheduled TTL close of a session's live runtime. -/
def Store.pendingClose (st : Store) (sid : SessionId) : Option DetachClose := (st.live sid).bind (·.detachClose)

/-- Is some attachment of the session registered? -/
def Store.anyAttachment (st : Store) (sid : SessionId) : Bool := st.attachments.any fun a => a.sessionId = sid

/-- Replace the pending close of a session's live runtime. -/
def Store.setDetachClose (st : Store) (sid : SessionId) (d : Option DetachClose) : Store :=
  let f (e : RuntimeEntry) := { e with live := e.live.map fun l => { l with detachClose := d } }
  { st with runtimes := st.runtimes.modify sid f }

/-- `attachments.retain(|_, a| a.session_id != sid)`. -/
def Store.dropAttachments (st : Store) (sid : SessionId) : Store :=
  { st with attachments := st.attachments.retain fun a => a.sessionId ≠ sid }

end RelayTerm.Session
