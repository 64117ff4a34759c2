import RelayTerm.Session.Store
/-!
# The manager's operations as tasks

Every manager call, the PTY forwarder and the TTL timer is a task. A task rests
at an await point: its constructor names the repository call (or the sleep, or
the channel) it waits for and carries the locals that are live there. `resume`
runs that call and the synchronous code behind it up to the next await point.
-/
open RelayTerm.Lib

namespace RelayTerm.Session

def minDim : Nat := 1
def maxDim : Nat := 4096

def stubPtyNotImplementedMessage : String := "session metadata created; PTY startup is not implemented yet"
def stubPtyNotImplementedAttachMessage : String :=
  "attached to RelayTerm session placeholder; PTY streaming is not implemented yet"

structure AttachSessionRequest where
  sessionId : SessionId
  ownerId : UserId
  clientInfo : Option String := none
  remoteAddr : Option String := none
  deriving DecidableEq, Repr

/-- The arguments of `detach_session` and `detach_attachment`; `schedule` tells
the two apart (only the second schedules a TTL close). -/
structure DetachRequest where
  schedule : Bool
  ownerId : UserId
  sessionId : SessionId
  attachmentId : AttachmentId
  lastSeenSeq : Option Int := none
  deriving DecidableEq, Repr

structure DetachSessionOutcome where
  session : TerminalSession
  attachment : TerminalSessionAttachment
  alreadyDetached : Bool
  deriving DecidableEq, Repr

/-- Who called `close_session`: a request, or the TTL task. -/
inductive CloseOrigin where
  | request | ttl
  deriving DecidableEq, Repr

inductive Task where
  | createInsert (req : CreateTerminalSessionRequest)
  | createEvent (sid : SessionId) (session : TerminalSession)
  | startGet (owner : UserId) (sid : SessionId) (pty : PtyId)
  | startSetActive (owner : UserId) (sid : SessionId) (session : TerminalSession) (pty : PtyId) (forwarder : TaskId)
  | startReget (owner : UserId) (sid : SessionId) (pty : PtyId) (forwarder : TaskId)
  | startLeftoverClose (sid : SessionId)
  | failedGet (owner : UserId) (sid : SessionId) (category : String)
  | failedSetClosed (sid : SessionId) (session : TerminalSession) (category : String) (now : Time)
  | failedEvent (sid : SessionId) (category : String)
  | closeGet (origin : CloseOrigin) (sid : SessionId) (owner : UserId)
  | closeSetClosed (origin : CloseOrigin) (sid : SessionId) (owner : UserId) (session : TerminalSession) (now : Time)
  | closeEvent (origin : CloseOrigin) (sid : SessionId) (owner : UserId)
  | closeReget (origin : CloseOrigin) (sid : SessionId) (owner : UserId)
  | shutdownHandle (sid : SessionId) (live : LiveRuntime) (session : TerminalSession) (already : Bool)
  | shutdownForwarder (sid : SessionId) (live : LiveRuntime) (session : TerminalSession) (already : Bool)
  | shutdownRecording (sid : SessionId) (live : LiveRuntime) (session : TerminalSession) (already : Bool)
  | attachGet (req : AttachSessionRequest)
  | attachCreate (req : AttachSessionRequest) (session : TerminalSession) (wasPending : Bool)
  | attachEvent (req : AttachSessionRequest) (session : TerminalSession) (wasPending : Bool)
      (aid : AttachmentId) (attachment : TerminalSessionAttachment) (live : Option PtyId)
  | attachSetActive (req : AttachSessionRequest) (session : TerminalSession)
      (aid : AttachmentId) (attachment : TerminalSessionAttachment) (live : Option PtyId)
  | attachReattached (req : AttachSessionRequest) (session : TerminalSession)
      (aid : AttachmentId) (attachment : TerminalSessionAttachment) (live : Option PtyId)
  | detachGet (req : DetachRequest)
  | detachGetAttachment (req : DetachRequest) (session : TerminalSession)
  | detachMark (req : DetachRequest) (session : TerminalSession) (now : Time)
  | detachEvent (req : DetachRequest) (session : TerminalSession)
  | detachReget (req : DetachRequest) (session : TerminalSession)
  | scheduleSetDetached (req : DetachRequest) (detach : DetachSessionOutcome)
  | writeInput (pty : PtyId) (bytes : List UInt8)
  | applyResize (pty : PtyId) (cols rows : Nat)
  | resizeGet (owner : UserId) (sid : SessionId) (cols rows : Nat)
  | resizeEvent (sid : SessionId) (session : TerminalSession) (cols rows : Nat)
  | ttlSleep (sid : SessionId) (owner : UserId)
  | pump (sid : SessionId) (owner : UserId) (closedReason : Option ClosedReason)
  | teardownGet (sid : SessionId) (owner : UserId) (category : String)
  | teardownSetClosed (sid : SessionId) (session : TerminalSession) (category : String) (now : Time)
  | teardownEvent (sid : SessionId) (category : String)
  deriving DecidableEq, Repr

/-- What a call returns; background tasks return `finished`. -/
inductive Outcome where
  | created (sid : SessionId) (session : TerminalSession) (message : String) (ptyLive : Bool)
  | started (session : TerminalSession)
  | startFailed
  | closed (session : TerminalSession) (alreadyClosed : Bool)
  | attached (session : TerminalSession) (aid : AttachmentId) (attachment : TerminalSessionAttachment)
      (message : String) (live : Option PtyId)
  | detached (detach : DetachSessionOutcome) (pending : Option DetachInfo)
  | inputWritten
  | ptyResized (applied : Bool)
  | resized (session : TerminalSession) (cols rows : Nat)
  | finished
  | failed (e : ManagerError)
  deriving DecidableEq, Repr

inductive Next where
  | await (t : Task)
  | ret (r : Outcome)
  deriving DecidableEq, Repr

/-- One stretch of a task between two await points: the store it leaves, where
it goes on, the task it spawned and the tasks it aborted. -/
structure Out where
  store : Store
  next : Next
  spawned : Option Task := none
  aborted : List TaskId := []

namespace Store

variable (st : Store)

@[grind =] def await (t : Task) : Out := { store := st, next := .await t }
@[grind =] def ret (r : Outcome) : Out := { store := st, next := .ret r }
@[grind =] def fail (e : ManagerError) : Out := { store := st, next := .ret (.failed e) }

/-! ## create_session -/

def validateDim (field : String) (value : Nat) : Except ManagerError Unit :=
  if minDim ≤ value ∧ value ≤ maxDim then .ok ()
  else .error (.invalidDimensions field s!"expected {minDim}..={maxDim}, got {value}")

@[grind =]
def createSessionEnter (req : CreateTerminalSessionRequest) : Out :=
  match validateDim "cols" req.cols, validateDim "rows" req.rows with
  | .error e, _ => st.fail e
  | _, .error e => st.fail e
  | .ok _, .ok _ => st.await (.createInsert req)

@[grind =]
def createInsert (env : Env) (req : CreateTerminalSessionRequest) : Out :=
  match st.createSession env req with
  | .error e => st.fail e
  | .ok (session, st') => st'.await (.createEvent env.id session)

@[grind =]
def createEventInsert (env : Env) (sid : SessionId) (session : TerminalSession) : Out :=
  match st.createEvent env ⟨sid, .created, .created session.cols session.rows true⟩ with
  | .error e => st.fail e
  | .ok st' =>
    let snapshot : TerminalSessionRuntime :=
      { ownerId := session.ownerId, serverProfileId := session.serverProfileId, status := .starting,
        createdAt := session.createdAt, cols := session.cols, rows := session.rows }
    let st'' := { st' with runtimes := st'.runtimes.insert sid ⟨snapshot, none⟩ }
    st''.ret (.created sid session stubPtyNotImplementedMessage false)

/-! ## start_live_pty -/

/-- The forwarder is spawned before the row is marked `active`, so it can run
(and tear the session down) while the rest of the call still waits. -/
@[grind =]
def startGet (env : Env) (fresh : TaskId) (owner : UserId) (sid : SessionId) (pty : PtyId) : Out :=
  match st.getOwned env sid owner with
  | .error e => st.fail e
  | .ok session =>
    if session.status = .closed then st.fail .sessionClosed
    else if (st.runtimes.lookup sid).isNone then st.fail .notFound
    else { st.await (.startSetActive owner sid session pty fresh) with spawned := some (.pump sid owner none) }

@[grind =]
def startSetActive (env : Env) (owner : UserId) (sid : SessionId) (pty : PtyId) (forwarder : TaskId) : Out :=
  match st.setStatus env sid .active none with
  | .error e => st.fail e
  | .ok st' => st'.await (.startReget owner sid pty forwarder)

@[grind =]
def startReget (env : Env) (owner : UserId) (sid : SessionId) (pty : PtyId) (forwarder : TaskId) : Out :=
  match st.getOwned env sid owner with
  | .error e => st.fail e
  | .ok updated =>
    match st.runtimes.lookup sid with
    | some e =>
      let e' : RuntimeEntry := ⟨{ e.snapshot with status := .live }, some ⟨pty, some forwarder, none⟩⟩
      { ({ st with runtimes := st.runtimes.insert sid e' } : Store).ret (.started updated) with aborted := e.tasks }
    | none => { st.await (.startLeftoverClose sid) with aborted := [forwarder] }

/-! ## record_pty_start_failed -/

/-- The registry entry is emptied before the ownership check. -/
@[grind =]
def recordPtyStartFailedEnter (owner : UserId) (sid : SessionId) (category : String) : Out :=
  let f (e : RuntimeEntry) : RuntimeEntry := ⟨{ e.snapshot with status := .ended }, none⟩
  { ({ st with runtimes := st.runtimes.modify sid f } : Store).await (.failedGet owner sid category) with
    aborted := ((st.runtimes.lookup sid).map RuntimeEntry.tasks).getD [] }

@[grind =]
def failedGet (env : Env) (owner : UserId) (sid : SessionId) (category : String) : Out :=
  match st.getOwned env sid owner with
  | .error e => st.fail e
  | .ok session =>
    if session.status = .closed then st.ret .startFailed
    else st.await (.failedSetClosed sid session category env.now)

@[grind =]
def failedSetClosed (env : Env) (sid : SessionId) (category : String) (now : Time) : Out :=
  match st.setStatus env sid .closed (some now) with
  | .error e => st.fail e
  | .ok st' => st'.await (.failedEvent sid category)

/-- The event's own failure is ignored. -/
@[grind =]
def failedEvent (env : Env) (sid : SessionId) (category : String) : Out :=
  let st' := match st.createEvent env ⟨sid, .closed, .closed "ssh_start_failed" (some category)⟩ with
    | .error _ => st
    | .ok st' => st'
  let st'' := { st'.dropAttachments sid with runtimes := st'.runtimes.erase sid }
  { st''.ret .startFailed with aborted := ((st'.runtimes.lookup sid).map RuntimeEntry.tasks).getD [] }

/-! ## close_session -/

/-- The end of `close_session`, behind `shutdown_runtime`. -/
@[grind =]
def closeDone (sid : SessionId) (session : TerminalSession) (already : Bool) : Out :=
  if already then st.ret (.closed session true) else (st.dropAttachments sid).ret (.closed session false)

/-- Take the registry entry out and shut its runtime down. -/
@[grind =]
def closeRemove (sid : SessionId) (session : TerminalSession) (already : Bool) : Out :=
  let st' := { st with runtimes := st.runtimes.erase sid }
  match st.live sid with
  | some live => st'.await (.shutdownHandle sid live session already)
  | none => st'.closeDone sid session already

@[grind =]
def closeGet (env : Env) (origin : CloseOrigin) (sid : SessionId) (owner : UserId) : Out :=
  match st.getOwned env sid owner with
  | .error e => st.fail e
  | .ok session =>
    if session.status = .closed then st.closeRemove sid session true
    else st.await (.closeSetClosed origin sid owner session env.now)

@[grind =]
def closeSetClosed (env : Env) (origin : CloseOrigin) (sid : SessionId) (owner : UserId) (now : Time) : Out :=
  match st.setStatus env sid .closed (some now) with
  | .error e => st.fail e
  | .ok st' => st'.await (.closeEvent origin sid owner)

@[grind =]
def closeEvent (env : Env) (origin : CloseOrigin) (sid : SessionId) (owner : UserId) : Out :=
  match st.createEvent env ⟨sid, .closed, .closed "client_requested" none⟩ with
  | .error e => st.fail e
  | .ok st' => st'.await (.closeReget origin sid owner)

@[grind =]
def closeReget (env : Env) (sid : SessionId) (owner : UserId) : Out :=
  match st.getOwned env sid owner with
  | .error e => st.fail e
  | .ok updated => st.closeRemove sid updated false

/-- `handle.close()` returned; the forwarder, if still owned, is awaited for at most 500 ms. -/
@[grind =]
def shutdownHandle (sid : SessionId) (live : LiveRuntime) (session : TerminalSession) (already : Bool) : Out :=
  match live.forwarder with
  | some _ => st.await (.shutdownForwarder sid { live with forwarder := none } session already)
  | none => st.await (.shutdownRecording sid live session already)

/-- The recording writer is shut down, then the runtime is dropped. -/
@[grind =]
def shutdownRecording (sid : SessionId) (live : LiveRuntime) (session : TerminalSession) (already : Bool) : Out :=
  { st.closeDone sid session already with aborted := live.tasks }

/-! ## attach_session -/

/-- A TTL close that is pending is cancelled before the attachment row is written. -/
@[grind =]
def attachGet (env : Env) (req : AttachSessionRequest) : Out :=
  match st.getOwned env req.sessionId req.ownerId with
  | .error e => st.fail e
  | .ok session =>
    if session.status = .closed then st.fail .sessionClosed
    else
      match st.pendingClose req.sessionId with
      | some d =>
        { (st.setDetachClose req.sessionId none).await (.attachCreate req session true) with aborted := [d.handle] }
      | none => st.await (.attachCreate req session false)

@[grind =]
def attachCreate (env : Env) (req : AttachSessionRequest) (session : TerminalSession) (wasPending : Bool) : Out :=
  match st.createAttachment env req.sessionId req.clientInfo req.remoteAddr with
  | .error e => st.fail e
  | .ok (a, st') => st'.await (.attachEvent req session wasPending env.id a ((st'.live req.sessionId).map (·.handle)))

/-- Register the attachment; the last thing an attach does. -/
@[grind =]
def attachRegister (req : AttachSessionRequest) (session : TerminalSession) (aid : AttachmentId)
    (attachment : TerminalSessionAttachment) (live : Option PtyId) : Out :=
  let a : AttachmentRuntime :=
    { sessionId := req.sessionId, ownerId := session.ownerId, attachedAt := attachment.attachedAt,
      clientInfo := req.clientInfo, remoteAddr := req.remoteAddr }
  let message := if live.isSome then livePtyAttachMessage else stubPtyNotImplementedAttachMessage
  ({ st with attachments := st.attachments.insert aid a } : Store).ret (.attached session aid attachment message live)

@[grind =]
def attachEvent (env : Env) (req : AttachSessionRequest) (session : TerminalSession) (wasPending : Bool)
    (aid : AttachmentId) (attachment : TerminalSessionAttachment) (live : Option PtyId) : Out :=
  let payload := .attached aid req.clientInfo req.remoteAddr live.isNone live.isSome
  match st.createEvent env ⟨req.sessionId, .attached, payload⟩ with
  | .error e => st.fail e
  | .ok st' =>
    if wasPending then st'.await (.attachSetActive req session aid attachment live)
    else st'.attachRegister req session aid attachment live

@[grind =]
def attachSetActive (env : Env) (req : AttachSessionRequest) (session : TerminalSession)
    (aid : AttachmentId) (attachment : TerminalSessionAttachment) (live : Option PtyId) : Out :=
  match st.setStatus env req.sessionId .active none with
  | .error e => st.fail e
  | .ok st' => st'.await (.attachReattached req session aid attachment live)

/-- The `reattached` event's own failure is ignored. -/
@[grind =]
def attachReattached (env : Env) (req : AttachSessionRequest) (session : TerminalSession)
    (aid : AttachmentId) (attachment : TerminalSessionAttachment) (live : Option PtyId) : Out :=
  match st.createEvent env ⟨req.sessionId, .reattached, .reattached aid⟩ with
  | .error _ => st.attachRegister req session aid attachment live
  | .ok st' => st'.attachRegister req session aid attachment live

/-! ## detach_session and detach_attachment -/

@[grind =]
def detachGet (env : Env) (req : DetachRequest) : Out :=
  match st.getOwned env req.sessionId req.ownerId with
  | .error e => st.fail e
  | .ok session => st.await (.detachGetAttachment req session)

/-- `detach_session` returned: `detach_attachment` decides whether to schedule a TTL close. -/
@[grind =]
def detachDecide (req : DetachRequest) (detach : DetachSessionOutcome) : Out :=
  if req.schedule && !detach.alreadyDetached && !st.anyAttachment req.sessionId && (st.live req.sessionId).isSome then
    st.await (.scheduleSetDetached req detach)
  else st.ret (.detached detach none)

@[grind =]
def detachGetAttachment (env : Env) (req : DetachRequest) (session : TerminalSession) : Out :=
  match st.getAttachment env req.attachmentId req.sessionId with
  | .error e => st.fail e
  | .ok a =>
    if a.detachedAt.isSome then
      ({ st with attachments := st.attachments.erase req.attachmentId } : Store).detachDecide req ⟨session, a, true⟩
    else st.await (.detachMark req session env.now)

@[grind =]
def detachMark (env : Env) (req : DetachRequest) (session : TerminalSession) (now : Time) : Out :=
  match st.markAttachmentDetached env req.attachmentId now req.lastSeenSeq with
  | .error e => st.fail e
  | .ok st' => st'.await (.detachEvent req session)

@[grind =]
def detachEvent (env : Env) (req : DetachRequest) (session : TerminalSession) : Out :=
  match st.createEvent env ⟨req.sessionId, .detached, .detached req.attachmentId req.lastSeenSeq⟩ with
  | .error e => st.fail e
  | .ok st' => st'.await (.detachReget req session)

@[grind =]
def detachReget (env : Env) (req : DetachRequest) (session : TerminalSession) : Out :=
  match st.getAttachment env req.attachmentId req.sessionId with
  | .error e => st.fail e
  | .ok a =>
    ({ st with attachments := st.attachments.erase req.attachmentId } : Store).detachDecide req ⟨session, a, false⟩

/-- `schedule_detach_close` behind its status write, whose failure is only
logged. A new timer is installed when the runtime is still live and none is
pending; otherwise the one just spawned is aborted before it ever runs. -/
def scheduleInstall (env : Env) (fresh : TaskId) (req : DetachRequest) (detach : DetachSessionOutcome) : Out :=
  let info : DetachInfo := ⟨env.now, env.now + st.detachTtl⟩
  match st.live req.sessionId with
  | none => st.ret (.detached detach none)
  | some live =>
    match live.detachClose with
    | some existing => st.ret (.detached detach (some existing.info))
    | none =>
      { (st.setDetachClose req.sessionId (some ⟨info, fresh⟩)).ret (.detached detach (some info)) with
        spawned := some (.ttlSleep req.sessionId req.ownerId) }

def scheduleSetDetached (env : Env) (fresh : TaskId) (req : DetachRequest) (detach : DetachSessionOutcome) : Out :=
  match st.setStatus env req.sessionId .detached none with
  | .error _ => st.scheduleInstall env fresh req detach
  | .ok st' => st'.scheduleInstall env fresh req detach

/-! ## write_pty_input, apply_pty_resize and resize_session -/

/-- The registry entry of a session, filtered on the owner of its snapshot. -/
@[grind =]
def ownedEntry (owner : UserId) (sid : SessionId) : Except ManagerError RuntimeEntry :=
  match (st.runtimes.lookup sid).filter (·.snapshot.ownerId = owner) with
  | none => .error .notFound
  | some e => .ok e

@[grind =]
def liveHandleFor (owner : UserId) (sid : SessionId) : Except ManagerError PtyId :=
  match st.ownedEntry owner sid with
  | .error e => .error e
  | .ok entry => match entry.live with
    | none => .error .ptyNotLive
    | some live => .ok live.handle

@[grind =]
def maybeLiveHandleFor (owner : UserId) (sid : SessionId) : Except ManagerError (Option PtyId) :=
  match st.ownedEntry owner sid with
  | .error e => .error e
  | .ok entry => .ok (entry.live.map (·.handle))

@[grind =]
def writePtyInputEnter (owner : UserId) (sid : SessionId) (bytes : List UInt8) : Out :=
  match st.liveHandleFor owner sid with
  | .error e => st.fail e
  | .ok pty => st.await (.writeInput pty bytes)

@[grind =]
def inputDone (env : Env) : Out :=
  match env.handleError with
  | none => st.ret .inputWritten
  | some .bridgeClosed => st.fail .ptyNotLive
  | some e => st.fail (.ptyStart e)

@[grind =]
def applyPtyResizeEnter (owner : UserId) (sid : SessionId) (cols rows : Nat) : Out :=
  match st.maybeLiveHandleFor owner sid with
  | .error e => st.fail e
  | .ok none => st.ret (.ptyResized false)
  | .ok (some pty) => st.await (.applyResize pty cols rows)

@[grind =]
def applyResizeDone (env : Env) : Out :=
  match env.handleError with
  | none => st.ret (.ptyResized true)
  | some .bridgeClosed => st.ret (.ptyResized false)
  | some e => st.fail (.ptyStart e)

@[grind =]
def resizeSessionEnter (owner : UserId) (sid : SessionId) (cols rows : Nat) : Out :=
  match validateDim "cols" cols, validateDim "rows" rows with
  | .error e, _ => st.fail e
  | _, .error e => st.fail e
  | .ok _, .ok _ => st.await (.resizeGet owner sid cols rows)

/-- The dimensions the registry entry of a session shows. -/
def setDims (sid : SessionId) (cols rows : Nat) : Store :=
  let f (e : RuntimeEntry) := { e with snapshot := { e.snapshot with cols := cols, rows := rows } }
  { st with runtimes := st.runtimes.modify sid f }

/-- The recording's `resized` marker is queued in this stretch; the row keeps its dimensions. -/
@[grind =]
def resizeGet (env : Env) (owner : UserId) (sid : SessionId) (cols rows : Nat) : Out :=
  match st.getOwned env sid owner with
  | .error e => st.fail e
  | .ok session =>
    if session.status = .closed then st.fail .sessionClosed
    else (st.setDims sid cols rows).await (.resizeEvent sid session cols rows)

@[grind =]
def resizeEvent (env : Env) (sid : SessionId) (session : TerminalSession) (cols rows : Nat) : Out :=
  match st.createEvent env ⟨sid, .resized, .resized cols rows⟩ with
  | .error e => st.fail e
  | .ok st' => st'.ret (.resized session cols rows)

/-! ## The TTL task and the forwarder -/

/-- `expire_detach_close`: close the session if its runtime still has a pending close. -/
@[grind =]
def expireDetachClose (sid : SessionId) (owner : UserId) : Out :=
  if (st.pendingClose sid).isSome then st.await (.closeGet .ttl sid owner) else st.ret .finished

def teardownCategory : Option ClosedReason → String
  | some .remoteEof => "remote_eof"
  | some .transportError => "transport_error"
  | some .localClose | none => "local_close"

/-- The forwarder's receive loop, as far as the session's lifecycle sees it. -/
@[grind =]
def pump (env : Env) (sid : SessionId) (owner : UserId) (closedReason : Option ClosedReason) : Out :=
  match env.bridge with
  | some (.output _) | some (.exit _) => st.await (.pump sid owner closedReason)
  | some (.closed reason) => st.await (.pump sid owner (some reason))
  | none => st.await (.teardownGet sid owner (teardownCategory closedReason))

@[grind =]
def teardownGet (env : Env) (sid : SessionId) (owner : UserId) (category : String) : Out :=
  match st.getOwned env sid owner with
  | .error _ => st.ret .finished
  | .ok session =>
    if session.status = .closed then st.ret .finished
    else st.await (.teardownSetClosed sid session category env.now)

@[grind =]
def teardownSetClosed (env : Env) (sid : SessionId) (category : String) (now : Time) : Out :=
  match st.setStatus env sid .closed (some now) with
  | .error _ => st.await (.teardownEvent sid category)
  | .ok st' => st'.await (.teardownEvent sid category)

@[grind =]
def teardownEvent (env : Env) (sid : SessionId) (category : String) : Out :=
  match st.createEvent env ⟨sid, .closed, .closed "pty_teardown" (some category)⟩ with
  | .error _ => st.ret .finished
  | .ok st' => st'.ret .finished

/-- Run a task from its await point to the next one; `fresh` is the handle a
task it spawns gets. -/
@[grind =]
def resume (env : Env) (fresh : TaskId) : Task → Out
  | .createInsert req => st.createInsert env req
  | .createEvent sid session => st.createEventInsert env sid session
  | .startGet owner sid pty => st.startGet env fresh owner sid pty
  | .startSetActive owner sid _ pty forwarder => st.startSetActive env owner sid pty forwarder
  | .startReget owner sid pty forwarder => st.startReget env owner sid pty forwarder
  | .startLeftoverClose _ => st.fail .notFound
  | .failedGet owner sid category => st.failedGet env owner sid category
  | .failedSetClosed sid _ category now => st.failedSetClosed env sid category now
  | .failedEvent sid category => st.failedEvent env sid category
  | .closeGet origin sid owner => st.closeGet env origin sid owner
  | .closeSetClosed origin sid owner _ now => st.closeSetClosed env origin sid owner now
  | .closeEvent origin sid owner => st.closeEvent env origin sid owner
  | .closeReget _ sid owner => st.closeReget env sid owner
  | .shutdownHandle sid live session already => st.shutdownHandle sid live session already
  | .shutdownForwarder sid live session already => st.await (.shutdownRecording sid live session already)
  | .shutdownRecording sid live session already => st.shutdownRecording sid live session already
  | .attachGet req => st.attachGet env req
  | .attachCreate req session wasPending => st.attachCreate env req session wasPending
  | .attachEvent req session wasPending aid a live => st.attachEvent env req session wasPending aid a live
  | .attachSetActive req session aid a live => st.attachSetActive env req session aid a live
  | .attachReattached req session aid a live => st.attachReattached env req session aid a live
  | .detachGet req => st.detachGet env req
  | .detachGetAttachment req session => st.detachGetAttachment env req session
  | .detachMark req session now => st.detachMark env req session now
  | .detachEvent req session => st.detachEvent env req session
  | .detachReget req session => st.detachReget env req session
  | .scheduleSetDetached req detach => st.scheduleSetDetached env fresh req detach
  | .writeInput _ _ => st.inputDone env
  | .applyResize _ _ _ => st.applyResizeDone env
  | .resizeGet owner sid cols rows => st.resizeGet env owner sid cols rows
  | .resizeEvent sid session cols rows => st.resizeEvent env sid session cols rows
  | .ttlSleep sid owner => st.expireDetachClose sid owner
  | .pump sid owner closedReason => st.pump env sid owner closedReason
  | .teardownGet sid owner category => st.teardownGet env sid owner category
  | .teardownSetClosed sid _ category now => st.teardownSetClosed env sid category now
  | .teardownEvent sid category => st.teardownEvent env sid category

end Store

/-! ## The system -/

/-- A call of the manager's API. -/
inductive Call where
  | createSession (req : CreateTerminalSessionRequest)
  | startLivePty (owner : UserId) (sid : SessionId) (pty : PtyId)
  | recordPtyStartFailed (owner : UserId) (sid : SessionId) (category : String)
  | closeSession (sid : SessionId) (owner : UserId)
  | attachSession (req : AttachSessionRequest)
  | detach (req : DetachRequest)
  | writePtyInput (owner : UserId) (sid : SessionId) (bytes : List UInt8)
  | applyPtyResize (owner : UserId) (sid : SessionId) (cols rows : Nat)
  | resizeSession (owner : UserId) (sid : SessionId) (cols rows : Nat)
  deriving DecidableEq, Repr

/-- A call up to its first await point. -/
@[grind =]
def Store.enter (st : Store) : Call → Out
  | .createSession req => st.createSessionEnter req
  | .startLivePty owner sid pty => st.await (.startGet owner sid pty)
  | .recordPtyStartFailed owner sid category => st.recordPtyStartFailedEnter owner sid category
  | .closeSession sid owner => st.await (.closeGet .request sid owner)
  | .attachSession req => st.await (.attachGet req)
  | .detach req => st.await (.detachGet req)
  | .writePtyInput owner sid bytes => st.writePtyInputEnter owner sid bytes
  | .applyPtyResize owner sid cols rows => st.applyPtyResizeEnter owner sid cols rows
  | .resizeSession owner sid cols rows => st.resizeSessionEnter owner sid cols rows

structure Sys where
  store : Store
  tasks : Registry TaskId Task
  nextTask : TaskId

def Sys.init (ttl : Nat) : Sys := ⟨Store.init ttl, ∅, 0⟩

/-- A client makes a call, or the scheduler resumes a task. -/
inductive Event where
  | call (c : Call)
  | resume (tid : TaskId) (env : Env)

/-- The repository call of the resumed task, if it makes one, succeeds. -/
def Event.callSucceeds : Event → Bool
  | .call _ => true
  | .resume _ env => env.ok

/-- Abort tasks: each dies at the await point it rests at. -/
def abortAll (aborted : List TaskId) (tasks : Registry TaskId Task) : Registry TaskId Task :=
  aborted.foldr (fun i ts => ts.erase i) tasks

/-- Put a stretch of task `tid` into effect; `fresh` is the handle its spawned task gets. -/
def Sys.settle (s : Sys) (tid fresh : TaskId) (o : Out) : Sys :=
  let tasks := match o.next with
    | .await t => s.tasks.insert tid t
    | .ret _ => s.tasks.erase tid
  let tasks := match o.spawned with
    | some t => tasks.insert fresh t
    | none => tasks
  ⟨o.store, abortAll o.aborted tasks, if o.spawned.isSome then fresh + 1 else fresh⟩

def Sys.step (s : Sys) : Event → Option Sys
  | .call c => some (s.settle s.nextTask (s.nextTask + 1) (s.store.enter c))
  | .resume tid env =>
    (s.tasks.lookup tid).map fun t => s.settle tid s.nextTask (s.store.resume env s.nextTask t)

end RelayTerm.Session
