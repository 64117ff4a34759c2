import Mathlib.Data.List.Sort
import RelayTerm.Lib.ReadCommitted
import RelayTerm.Lib.Transaction
import RelayTerm.Session.Store
/-!
# Startup reconciliation

A backend that starts finds the sessions of its predecessor in `terminal_sessions`
with a status other than `closed`, and no PTY behind them.
`reconcile_orphaned_on_startup` closes them in one transaction, row by row: the
row, a `closed` event and, if the session was recorded, a `closed` marker at its
last sequence number. Nobody else is at work then, so the transaction sees the
tables as it found them and what it has written itself.
-/

namespace RelayTerm.Session

namespace TerminalSessionStatus

def asStr : TerminalSessionStatus → String
  | starting => "starting"
  | active => "active"
  | detached => "detached"
  | closed => "closed"

def fromStrTag : String → Option TerminalSessionStatus
  | "starting" => some starting
  | "active" => some active
  | "detached" => some detached
  | "closed" => some closed
  | _ => none

end TerminalSessionStatus

end RelayTerm.Session

namespace RelayTerm.Startup

open RelayTerm.Lib
open RelayTerm.Session (Time TerminalSession TerminalSessionStatus)

/-! ## Tables -/

/-- The JSON of a payload. -/
inductive Payload where
  | reconciliation (reason previousStatus : String) (reconciledAt : Time)
  | other (json : String)
  deriving DecidableEq, Repr

/-- A row of `session_events`. -/
structure SessionEventRow where
  sessionId : SessionId
  kind : SessionEventKind
  payload : Payload
  recordedAt : Time
  deriving DecidableEq, Repr

/-- A row of `terminal_recording_chunks`, within the table's checks. -/
structure ChunkRange where
  terminalSessionId : SessionId
  seqStart : Nat
  seqEnd : Nat
  one_le : 1 ≤ seqStart
  ordered : seqStart ≤ seqEnd
  deriving DecidableEq

inductive TerminalRecordingMarkerKind where
  | started | attached | detached | reattached | resized | closed | replayGap
  deriving DecidableEq, Repr

/-- A row of `terminal_recording_markers`. -/
structure TerminalRecordingMarker where
  terminalSessionId : SessionId
  kind : TerminalRecordingMarkerKind
  seq : Nat
  payload : Payload
  createdAt : Time
  deriving DecidableEq, Repr

structure Db where
  sessions : Registry SessionId TerminalSession
  events : List SessionEventRow
  chunks : List ChunkRange
  markers : List TerminalRecordingMarker

structure ReconciledTerminalSession where
  sessionId : SessionId
  previousStatus : TerminalSessionStatus
  deriving DecidableEq, Repr

/-! ## Statements -/

/-- `status IN ('starting', 'active', 'detached')` -/
def isOrphan (session : TerminalSession) : Bool := ["starting", "active", "detached"].elem session.status.asStr

/-- The columns the `UPDATE` sets; `now` is the time the transaction began. -/
def closeRow (reconciledAt now : Time) (session : TerminalSession) : TerminalSession :=
  { session with status := .closed, closedAt := some reconciledAt, lastSeenAt := now }

def reconciliationPayload (previousStatus : TerminalSessionStatus) (reconciledAt : Time) : Payload :=
  .reconciliation "startup_reconciliation" previousStatus.asStr reconciledAt

def closedEvent (id : SessionId) (previousStatus : TerminalSessionStatus) (reconciledAt now : Time) :
    SessionEventRow where
  sessionId := id
  kind := .closed
  payload := reconciliationPayload previousStatus reconciledAt
  recordedAt := now

def closedMarker (id : SessionId) (previousStatus : TerminalSessionStatus) (reconciledAt now : Time) (seq : Nat) :
    TerminalRecordingMarker where
  terminalSessionId := id
  kind := .closed
  seq := seq
  payload := reconciliationPayload previousStatus reconciledAt
  createdAt := now

namespace Db

variable (db : Db)

/-- The candidates, with the status as its column has it, `ORDER BY id`. -/
def candidates : List (SessionId × String) :=
  ((db.sessions.select isOrphan).insertionSort fun a b => a.1 ≤ b.1).map fun e => (e.1, e.2.status.asStr)

def updateSession (id : SessionId) (reconciledAt now : Time) : Db :=
  { db with sessions := db.sessions.modify id (closeRow reconciledAt now) }

def insertEvent (event : SessionEventRow) : Db := { db with events := db.events ++ [event] }

/-- `SELECT MAX(seq_end)` -/
def lastSeq (id : SessionId) : Option Nat :=
  ((db.chunks.filter fun c => c.terminalSessionId = id).map (·.seqEnd)).max?

/-- A row of the partial unique index on closed markers. -/
def hasClosedMarker (id : SessionId) (seq : Nat) : Bool :=
  db.markers.any fun m => m.kind = .closed && m.terminalSessionId = id && m.seq = seq

end Db

/-- The statements of the transaction. -/
inductive Statement where
  | begin
  | selectCandidates
  | updateSession (id : SessionId)
  | insertEvent (id : SessionId)
  | selectLastSeq (id : SessionId)
  | insertMarker (id : SessionId)
  | commit
  deriving DecidableEq, Repr

/-! ## The transaction -/

section Reconcile

variable (fails : Statement → Option RepositoryError) (reconciledAt now : Time)

end Reconcile

end RelayTerm.Startup
