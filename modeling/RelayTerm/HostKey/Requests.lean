import RelayTerm.HostKey.Entries
import RelayTerm.Lib.Registry
import RelayTerm.Lib.Runs
/-!
# Host-key requests as tasks

A request rests at an await point: a lookup, the probe, or one statement of the
repository. Statements run under READ COMMITTED: each sees the rows committed
when it runs. `replace_active_pin` is a transaction, so what it wrote stays with
its task until the commit; meanwhile the row it locked and the key it inserted
make the statements of other tasks wait that would touch them.
-/
open RelayTerm.Lib

namespace RelayTerm.HostKey

abbrev TaskId := Nat

structure Db where
  rows : List KnownHostEntry
  audits : List HostKeyAuditEvent
  /-- The next fresh row id. -/
  nextId : EntryId
  deriving DecidableEq, Repr

/-- What the outside answers at an await point. -/
structure Env where
  /-- The statement, the lookup or the probe succeeds. -/
  ok : Bool
  now : Time
  /-- The host of the profile that is looked up. -/
  host : HostId
  captured : CapturedHostKey
  deriving DecidableEq, Repr

/-- A route with the validated part of its body. -/
inductive Route where
  | preflight
  | trust (expected : String)
  | replace (user : UserId) (req : ReplaceHostKeyValidatedRequest)
  deriving DecidableEq, Repr

inductive Task where
  | resolve (route : Route)
  | list (route : Route) (host : HostId)
  | probe (route : Route) (host : HostId) (known : List KnownHostEntry)
  | create (input : CreateKnownHostEntry)
  | recordTrusted (input : CreateKnownHostEntry)
  | replaceBegin (input : ReplaceActivePin)
  | replaceLock (input : ReplaceActivePin) (now : Time)
  | replaceCheck (input : ReplaceActivePin) (now : Time) (old : EntryId)
  | replaceInsert (input : ReplaceActivePin) (now : Time) (old : EntryId)
  | replaceUpdate (input : ReplaceActivePin) (now : Time) (old new : EntryId)
  | replaceAuditRevoked (input : ReplaceActivePin) (now : Time) (old new : EntryId)
  | replaceAuditAccepted (input : ReplaceActivePin) (now : Time) (old new : EntryId)
  | replaceCommit (input : ReplaceActivePin) (now : Time) (old new : EntryId)
  deriving DecidableEq, Repr

/-- The row the task's transaction holds `FOR UPDATE`. -/
def Task.locks : Task → Option EntryId
  | .replaceCheck _ _ old | .replaceInsert _ _ old => some old
  | .replaceUpdate _ _ old _ | .replaceAuditRevoked _ _ old _ | .replaceAuditAccepted _ _ old _
  | .replaceCommit _ _ old _ => some old
  | _ => none

/-- The key of the unique index the task's transaction has inserted. -/
def Task.reserves : Task → Option (HostId × String)
  | .replaceUpdate input _ _ _ | .replaceAuditRevoked input _ _ _ | .replaceAuditAccepted input _ _ _
  | .replaceCommit input _ _ _ => some (input.hostId, input.newFingerprintSha256)
  | _ => none

inductive Reply where
  | preflight (status : HostKeyStatus) (captured : CapturedHostKey) (activePin : Option String)
  | entry (row : KnownHostEntry)
  | replaced (revokedOld : Option KnownHostEntry) (trustedNew : KnownHostEntry)
  | refused (e : HostKeyApiError)
  | failed (e : RepositoryError)
  deriving DecidableEq, Repr

inductive Next where
  | await (t : Task)
  | ret (r : Reply)
  deriving DecidableEq, Repr

structure Out where
  db : Db
  next : Next
  deriving DecidableEq, Repr

namespace Db

variable (db : Db)

def await (t : Task) : Out := ⟨db, .await t⟩
def ret (r : Reply) : Out := ⟨db, .ret r⟩
def fail (e : RepositoryError) : Out := db.ret (.failed e)

/-- Another transaction holds the row. -/
def isLocked (others : Registry TaskId Task) (id : EntryId) : Bool := others.any fun t => t.locks = some id

/-- Another transaction has inserted the key and not yet committed. -/
def isReserved (others : Registry TaskId Task) (host : HostId) (fingerprint : String) : Bool :=
  others.any fun t => t.reserves = some (host, fingerprint)

/-- The route after its probe. -/
def probed (env : Env) (host : HostId) (known : List KnownHostEntry) : Route → Out
  | .preflight =>
    db.ret (.preflight (classifyHostKey env.captured known) env.captured (activePinFingerprint env.captured known))
  | .trust expected => match trustChecks host expected env.captured known with
    | .ok input => db.await (.recordTrusted input)
    | .error e => db.ret (.refused e)
  | .replace user req => match replaceChecks host user req env.captured known with
    | .ok input => db.await (.replaceBegin input)
    | .error e => db.ret (.refused e)

/-- `create` is a plain `INSERT`: the unique index decides. -/
def runCreate (env : Env) (input : CreateKnownHostEntry) : Out :=
  match insertRow db.rows (input.row db.nextId env.now none) with
  | .ok rows => { db with rows := rows, nextId := db.nextId + 1 }.ret (.entry (input.row db.nextId env.now none))
  | .error e => db.fail e

def runRecordTrusted (env : Env) (input : CreateKnownHostEntry) : Out :=
  match HostKey.recordTrusted db.rows input db.nextId env.now with
  | .ok (row, rows) => { db with rows := rows, nextId := db.nextId + 1 }.ret (.entry row)
  | .error e => db.fail e

def runLock (others : Registry TaskId Task) (input : ReplaceActivePin) (now : Time) : Option Out :=
  match selectActive db.rows input.hostId input.expectedOldFingerprint with
  | some old => if isLocked others old.id then none else some (db.await (.replaceCheck input now old.id))
  | none => some (db.fail (.conflict entity "active_pin_mismatch"))

def runCheck (input : ReplaceActivePin) (now : Time) (old : EntryId) : Out :=
  match checkNewFingerprint db.rows input with
  | .ok () => db.await (.replaceInsert input now old)
  | .error e => db.fail e

/-- The `INSERT` of the transaction: seen by others only as a reserved key. -/
def runInsert (input : ReplaceActivePin) (now : Time) (old : EntryId) : Out :=
  match insertRow db.rows (input.newRow db.nextId now) with
  | .ok _ => { db with nextId := db.nextId + 1 }.await (.replaceUpdate input now old db.nextId)
  | .error e => db.fail e

def runUpdate (input : ReplaceActivePin) (now : Time) (old new : EntryId) : Out :=
  if db.rows.any (·.id = old) then db.await (.replaceAuditRevoked input now old new)
  else db.fail (.notFound entity)

/-- The commit makes both rows and both audit rows visible at once. -/
def commit (input : ReplaceActivePin) (now : Time) (old new : EntryId) : Db :=
  { db with
    rows := replaceRows db.rows input old new now
    audits := db.audits ++ [input.auditRevoked old new, input.auditAccepted old new] }

def runCommit (input : ReplaceActivePin) (now : Time) (old new : EntryId) : Out :=
  let oldRow := db.rows.find? fun e => e.id = old
  (db.commit input now old new).ret (.replaced (oldRow.map (·.revoke input new now)) (input.newRow new now))

/-- The statement of a task would touch what another transaction holds. -/
def waits (others : Registry TaskId Task) : Task → Bool
  | .create input => isReserved others input.hostId input.fingerprintSha256
  | .recordTrusted input => isReserved others input.hostId input.fingerprintSha256 ||
      (findByFingerprint db.rows input.hostId input.fingerprintSha256).any fun e => isLocked others e.id
  | .replaceInsert input _ _ => isReserved others input.hostId input.newFingerprintSha256
  | _ => false

/-- The statement of a task, once it does not wait, and the code up to the next await point. -/
def perform (env : Env) (others : Registry TaskId Task) : Task → Option Out
  | .resolve route => some (db.await (.list route env.host))
  | .list route host => some (db.await (.probe route host (listForHost db.rows host)))
  | .probe route host known => some (db.probed env host known route)
  | .create input => some (db.runCreate env input)
  | .recordTrusted input => some (db.runRecordTrusted env input)
  | .replaceBegin input => some (db.await (.replaceLock input env.now))
  | .replaceLock input now => db.runLock others input now
  | .replaceCheck input now old => some (db.runCheck input now old)
  | .replaceInsert input now old => some (db.runInsert input now old)
  | .replaceUpdate input now old new => some (db.runUpdate input now old new)
  | .replaceAuditRevoked input now old new => some (db.await (.replaceAuditAccepted input now old new))
  | .replaceAuditAccepted input now old new => some (db.await (.replaceCommit input now old new))
  | .replaceCommit input now old new => some (db.runCommit input now old new)

/-- What a failed await point returns; a transaction is rolled back. -/
def failure : Task → Reply
  | .resolve _ | .probe _ _ _ => .refused .unavailable
  | _ => .failed .driver

/-- `none` says the statement has to wait. -/
def resume (env : Env) (others : Registry TaskId Task) (t : Task) : Option Out :=
  if env.ok = false then some (db.ret (failure t))
  else if db.waits others t then none
  else db.perform env others t

end Db

/-! ## The system -/

inductive Call where
  | hostKeyPreflight
  | trustHostKey (body : TrustHostKeyRequest)
  | replaceHostKey (user : UserId) (body : ReplaceHostKeyRequest)
  | create (input : CreateKnownHostEntry)
  | recordTrusted (input : CreateKnownHostEntry)
  | replaceActivePin (input : ReplaceActivePin)
  deriving DecidableEq, Repr

/-- A call up to its first await point. -/
def Call.enter : Call → Next
  | .hostKeyPreflight => .await (.resolve .preflight)
  | .trustHostKey body => match body.validatedExpectedFingerprint with
    | .ok expected => .await (.resolve (.trust expected))
    | .error e => .ret (.refused e)
  | .replaceHostKey user body => match body.validated with
    | .ok req => .await (.resolve (.replace user req))
    | .error e => .ret (.refused e)
  | .create input => .await (.create input)
  | .recordTrusted input => .await (.recordTrusted input)
  | .replaceActivePin input => .await (.replaceBegin input)

structure Sys where
  db : Db
  tasks : Registry TaskId Task
  nextTask : TaskId

def Sys.init : Sys := ⟨⟨[], [], 0⟩, ∅, 0⟩

inductive Event where
  | call (c : Call)
  | resume (tid : TaskId) (env : Env)
  deriving DecidableEq, Repr

def Sys.settle (s : Sys) (tid : TaskId) (o : Out) : Sys where
  db := o.db
  tasks := match o.next with
    | .await t => s.tasks.insert tid t
    | .ret _ => s.tasks.erase tid
  nextTask := s.nextTask

def Sys.step (s : Sys) : Event → Option Sys
  | .call c => some { s.settle s.nextTask ⟨s.db, c.enter⟩ with nextTask := s.nextTask + 1 }
  | .resume tid env =>
    (s.tasks.lookup tid).bind fun t => (s.db.resume env (s.tasks.erase tid) t).map (s.settle tid)

end RelayTerm.HostKey
