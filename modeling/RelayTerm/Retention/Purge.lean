import Mathlib.Data.List.Sort
import RelayTerm.Core.Types
import RelayTerm.Lib.ReadCommitted
import RelayTerm.Lib.Runs
/-!
# Retention of recordings

`list_eligible_for_retention` lists the sessions whose recordings have expired,
and `purge_for_retention` deletes the chunks and markers of one of them, with an
audit row, in one transaction. A purge rests at an await point, which is one
statement of its transaction. What it has written stays with its task until the
commit, and is dropped with the transaction when a statement fails. The row of
the session stays locked from the `SELECT ... FOR UPDATE` on; the chunks and
markers a purge deletes are those of the session it has locked, so its `DELETE`s
never wait for another purge.

`addDays` is `closed_at + make_interval(days => ...)`; a result out of range is a
failed statement.
-/
open RelayTerm.Lib

namespace RelayTerm.Retention

abbrev ChunkId := Nat
abbrev MarkerId := Nat
abbrev TaskId := Nat
abbrev Time := Int

/-! ## Tables -/

/-- What retention reads of a row of `terminal_sessions`. -/
structure RetainedSession where
  closedAt : Option Time
  deriving DecidableEq, Repr

/-- A row of `terminal_recording_chunks`. -/
structure Chunk where
  terminalSessionId : SessionId
  byteLen : Nat
  deriving DecidableEq, Repr

/-- A row of `terminal_recording_markers`. -/
structure Marker where
  terminalSessionId : SessionId
  deriving DecidableEq, Repr

inductive AuditPayload where
  | recordingPurged (targetKind : String) (targetId : SessionId) (chunkCount markerCount bytesPurged : Nat)
      (retentionDays : UInt32) (closedAt purgedAt : Time) (reason : String)
  /-- The payload of an event of another kind. -/
  | other (json : String)
  deriving DecidableEq, Repr

/-- A row of `audit_events`. -/
structure AuditRow where
  actorId : Option UserId
  kind : String
  payload : AuditPayload
  remoteAddr : Option String
  recordedAt : Time
  deriving DecidableEq, Repr

structure Db where
  sessions : Registry SessionId RetainedSession
  chunks : Registry ChunkId Chunk
  markers : Registry MarkerId Marker
  audits : List AuditRow

namespace Db

variable (db : Db)

def chunksOf (id : SessionId) : List (Σ _ : ChunkId, Chunk) := db.chunks.select fun c => c.terminalSessionId = id
def markersOf (id : SessionId) : List (Σ _ : MarkerId, Marker) := db.markers.select fun m => m.terminalSessionId = id

/-- `COALESCE(SUM(byte_len), 0)` -/
def bytesOf (id : SessionId) : Nat := (db.chunksOf id).foldl (fun sum e => sum + e.2.byteLen) 0

end Db

/-! ## Listing -/

/-- `i32::try_from(retention_days)` -/
def retentionDaysI32 (retentionDays : UInt32) : Except RepositoryError Nat :=
  if retentionDays.toNat ≤ i32Max then .ok retentionDays.toNat
  else .error (.validation "retention_days" s!"retention_days {retentionDays} exceeds i32::MAX")

variable (addDays : Time → Nat → Time)

/-- The `EXISTS` clauses. -/
def Db.isRecorded (db : Db) (id : SessionId) : Bool :=
  db.chunks.any (fun c => c.terminalSessionId = id) || db.markers.any fun m => m.terminalSessionId = id

/-- The rows the `WHERE` clause of the listing finds, with their `closed_at`. -/
def Db.eligibleRows (db : Db) (days : Nat) (now : Time) : List (SessionId × Time) :=
  db.sessions.entries.filterMap fun e =>
    (e.2.closedAt.filter fun closedAt => decide (addDays closedAt days ≤ now) && db.isRecorded e.1).map (e.1, ·)

/-- `fails` is the error of the statement, if it has one. -/
def listEligibleForRetention (fails : Option RepositoryError) (db : Db) (retentionDays : UInt32) (now : Time)
    (limit : UInt32) : Except RepositoryError (List SessionId) := do
  let boundedLimit := max limit.toNat 1
  let days ← retentionDaysI32 retentionDays
  match fails with
  | some err => .error err
  | none => .ok ((((db.eligibleRows addDays days now).insertionSort fun a b => a.2 ≤ b.2).take boundedLimit).map (·.1))

/-! ## The purge -/

structure PurgeRecordingForRetention where
  terminalSessionId : SessionId
  retentionDays : UInt32
  now : Time
  deriving DecidableEq, Repr

structure PurgedRecordingSummary where
  terminalSessionId : SessionId
  chunkCount : Nat
  markerCount : Nat
  bytesPurged : Nat
  closedAt : Time
  purgedAt : Time
  deriving DecidableEq, Repr

/-- What the transaction has read once it is known to delete something. -/
structure Purge where
  input : PurgeRecordingForRetention
  closedAt : Time
  chunkCount : Nat
  markerCount : Nat
  bytesPurged : Nat
  deriving DecidableEq, Repr

def Purge.summary (p : Purge) : PurgedRecordingSummary where
  terminalSessionId := p.input.terminalSessionId
  chunkCount := p.chunkCount
  markerCount := p.markerCount
  bytesPurged := p.bytesPurged
  closedAt := p.closedAt
  purgedAt := p.input.now

def Purge.audit (p : Purge) : AuditRow where
  actorId := none
  kind := "recording_purged"
  payload := .recordingPurged "terminal_session" p.input.terminalSessionId p.chunkCount p.markerCount p.bytesPurged
    p.input.retentionDays p.closedAt p.input.now "retention_expired"
  remoteAddr := none
  recordedAt := p.input.now

/-- What a transaction has written and not yet committed. -/
structure Writes where
  markers : List MarkerId
  chunks : List ChunkId
  audits : List AuditRow
  deriving DecidableEq, Repr

inductive Task where
  | begin (input : PurgeRecordingForRetention)
  | lock (input : PurgeRecordingForRetention)
  | countChunks (input : PurgeRecordingForRetention) (closedAt : Time)
  | countMarkers (input : PurgeRecordingForRetention) (closedAt : Time) (chunkCount bytesPurged : Nat)
  | deleteMarkers (p : Purge)
  | deleteChunks (p : Purge) (w : Writes)
  | insertAudit (p : Purge) (w : Writes)
  | commit (p : Purge) (w : Writes)
  deriving DecidableEq, Repr

abbrev Result := Except RepositoryError (Option PurgedRecordingSummary)

inductive Next where
  | await (t : Task)
  | ret (r : Result)

structure Out where
  db : Db
  next : Next

namespace Db

variable (db : Db)

/-- The row the `SELECT ... FOR UPDATE` finds. -/
def selectClosedAt (input : PurgeRecordingForRetention) : Option Time :=
  (db.sessions.lookup input.terminalSessionId).bind fun session =>
    session.closedAt.filter fun closedAt => addDays closedAt input.retentionDays.toNat ≤ input.now

/-- The commit. -/
def publish (w : Writes) : Db where
  sessions := db.sessions
  chunks := db.chunks.without w.chunks
  markers := db.markers.without w.markers
  audits := db.audits ++ w.audits

/-- After both counts: there is something to delete, or the transaction is dropped. -/
def counted (p : Purge) : Next :=
  if p.chunkCount = 0 ∧ p.markerCount = 0 then .ret (.ok none) else .await (.deleteMarkers p)

/-- The statement of a task and the code up to the next await point. -/
def perform : Task → Out
  | .begin input => ⟨db, .await (.lock input)⟩
  | .lock input => match db.selectClosedAt addDays input with
    | none => ⟨db, .ret (.ok none)⟩
    | some closedAt => ⟨db, .await (.countChunks input closedAt)⟩
  | .countChunks input closedAt =>
    let id := input.terminalSessionId
    ⟨db, .await (.countMarkers input closedAt (db.chunksOf id).length (db.bytesOf id))⟩
  | .countMarkers input closedAt chunkCount bytesPurged =>
    ⟨db, counted ⟨input, closedAt, chunkCount, (db.markersOf input.terminalSessionId).length, bytesPurged⟩⟩
  | .deleteMarkers p => ⟨db, .await (.deleteChunks p ⟨(db.markersOf p.input.terminalSessionId).map (·.1), [], []⟩)⟩
  | .deleteChunks p w =>
    ⟨db, .await (.insertAudit p { w with chunks := (db.chunksOf p.input.terminalSessionId).map (·.1) })⟩
  | .insertAudit p w => ⟨db, .await (.commit p { w with audits := [p.audit] })⟩
  | .commit p w => ⟨db.publish w, .ret (.ok (some p.summary))⟩

/-- A failed statement drops the transaction. -/
def resume (fails : Option RepositoryError) (t : Task) : Out :=
  match fails with
  | some err => ⟨db, .ret (.error err)⟩
  | none => db.perform addDays t

end Db

/-- A purge up to its first await point. -/
def PurgeRecordingForRetention.enter (input : PurgeRecordingForRetention) : Next :=
  match retentionDaysI32 input.retentionDays with
  | .ok _ => .await (.begin input)
  | .error err => .ret (.error err)

/-- At most `n` await points, with nobody else at work; `fails` answers each. -/
def Out.drive (fails : Task → Option RepositoryError) : Nat → Out → Out
  | 0, o => o
  | _ + 1, ⟨db, .ret r⟩ => ⟨db, .ret r⟩
  | n + 1, ⟨db, .await t⟩ => Out.drive fails n (db.resume addDays (fails t) t)

/-- A purge has eight await points. -/
def purgeForRetention (fails : Task → Option RepositoryError) (db : Db) (input : PurgeRecordingForRetention) : Out :=
  Out.drive addDays fails 8 ⟨db, input.enter⟩

/-! ## Purges at the same time -/

def Task.input : Task → PurgeRecordingForRetention
  | .begin input | .lock input | .countChunks input _ | .countMarkers input _ _ _ => input
  | .deleteMarkers p | .deleteChunks p _ | .insertAudit p _ | .commit p _ => p.input

/-- The session whose row the task's transaction holds `FOR UPDATE`. -/
def Task.holds : Task → Option SessionId
  | .begin _ | .lock _ => none
  | .countChunks input _ | .countMarkers input _ _ _ => some input.terminalSessionId
  | .deleteMarkers p | .deleteChunks p _ | .insertAudit p _ | .commit p _ => some p.input.terminalSessionId

/-- A transaction holds the row of the session. -/
def isLocked (tasks : Registry TaskId Task) (id : SessionId) : Bool := tasks.any fun t => t.holds = some id

/-- A row that the `SELECT ... FOR UPDATE` finds and another transaction holds makes it wait. -/
def Db.waits (db : Db) (others : Registry TaskId Task) : Task → Bool
  | .lock input => (db.selectClosedAt addDays input).isSome && isLocked others input.terminalSessionId
  | _ => false

structure Sys where
  db : Db
  tasks : Registry TaskId Task
  nextTask : TaskId
  /-- What the purges have returned, for which session. -/
  returned : List (SessionId × Result)

def Sys.init (db : Db) : Sys := ⟨db, ∅, 0, []⟩

inductive Event where
  | call (input : PurgeRecordingForRetention)
  | resume (tid : TaskId) (fails : Option RepositoryError)
  /-- Elsewhere a row of a recording is inserted. -/
  | appendChunk (id : ChunkId) (row : Chunk)
  | appendMarker (id : MarkerId) (row : Marker)
  deriving DecidableEq, Repr

def Sys.settle (s : Sys) (tid : TaskId) (id : SessionId) (o : Out) : Sys where
  db := o.db
  tasks := match o.next with
    | .await t => s.tasks.insert tid t
    | .ret _ => s.tasks.erase tid
  nextTask := s.nextTask
  returned := match o.next with
    | .await _ => s.returned
    | .ret r => s.returned ++ [(id, r)]

/-- The foreign key of a new row asks for its session `FOR KEY SHARE`, and waits for a purge that holds it. -/
def Sys.mayAppend (s : Sys) (id : SessionId) : Bool :=
  (s.db.sessions.lookup id).isSome && !isLocked s.tasks id

def Sys.step (s : Sys) : Event → Option Sys
  | .call input =>
    some { s.settle s.nextTask input.terminalSessionId ⟨s.db, input.enter⟩ with nextTask := s.nextTask + 1 }
  | .resume tid fails => (s.tasks.lookup tid).bind fun t =>
    if fails.isNone && s.db.waits addDays (s.tasks.erase tid) t then none
    else some (s.settle tid t.input.terminalSessionId (s.db.resume addDays fails t))
  | .appendChunk id row =>
    if (s.db.chunks.lookup id).isNone && s.mayAppend row.terminalSessionId then
      some { s with db := { s.db with chunks := s.db.chunks.insert id row } }
    else none
  | .appendMarker id row =>
    if (s.db.markers.lookup id).isNone && s.mayAppend row.terminalSessionId then
      some { s with db := { s.db with markers := s.db.markers.insert id row } }
    else none

end RelayTerm.Retention
