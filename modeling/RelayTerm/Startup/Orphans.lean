import RelayTerm.Startup.Reconcile
/-!
# The orphans of a startup

When no statement of the reconciliation fails, its loop is a fold of what one
turn does; when one fails, nothing happens. The fold is then read table by
table: no turn touches what another one reads, since each is about a session of
its own and the chunks are only read.
-/

namespace RelayTerm.Startup

open RelayTerm.Lib
open RelayTerm.Session (Time TerminalSession TerminalSessionStatus)

/-! ## What it comes to -/

namespace Db

variable (db : Db)

end Db

variable {fails : Statement → Option RepositoryError} {reconciledAt now : Time} {db tx : Db} {id : SessionId}
  {status : TerminalSessionStatus} {orphan : SessionId × TerminalSessionStatus}

/-- What a reconciliation did to the tables, and what it returned. -/
structure Reconciled (db db' : Db) (reconciledAt now : Time) (returned : List ReconciledTerminalSession) : Prop where
  /-- The rows that were not closed are, and the others are as they were. -/
  sessions : ∀ id, db'.sessions.lookup id = (db.sessions.lookup id).map fun session =>
    if session.status = .closed then session else closeRow reconciledAt now session
  /-- One event for each of them. -/
  events : ∃ added, db'.events = db.events ++ added ∧ (added.map (·.sessionId)).Nodup ∧
    ∀ event, event ∈ added ↔ ∃ session, db.sessions.lookup event.sessionId = some session ∧
      session.status ≠ .closed ∧ event = closedEvent event.sessionId session.status reconciledAt now
  /-- One marker for each of them that has chunks and no closed marker at its last sequence number. -/
  markers : ∃ added, db'.markers = db.markers ++ added ∧ (added.map (·.terminalSessionId)).Nodup ∧
    ∀ marker, marker ∈ added ↔ ∃ session, db.sessions.lookup marker.terminalSessionId = some session ∧
      session.status ≠ .closed ∧ db.lastSeq marker.terminalSessionId = some marker.seq ∧
      db.hasClosedMarker marker.terminalSessionId marker.seq = false ∧
      marker = closedMarker marker.terminalSessionId session.status reconciledAt now marker.seq
  chunks : db'.chunks = db.chunks
  /-- Each of them with the status it had, once. -/
  returned : (returned.map (·.sessionId)).Nodup ∧ ∀ r, r ∈ returned ↔
    ∃ session, db.sessions.lookup r.sessionId = some session ∧ session.status ≠ .closed ∧
      r.previousStatus = session.status

theorem Reconciled.closed {db' : Db} {returned : List ReconciledTerminalSession}
    (h : Reconciled db db' reconciledAt now returned) (id : SessionId) (session : TerminalSession)
    (hlookup : db'.sessions.lookup id = some session) : session.status = .closed := by
  rw [h.sessions] at hlookup
  obtain ⟨before, -, rfl⟩ := Option.map_eq_some_iff.1 hlookup
  split
  · next hclosed => exact hclosed
  · rfl

/-- A row of user 7, last seen at time 1. -/
def row (status : TerminalSessionStatus) : TerminalSession := ⟨7, 1, status, 80, 24, 0, 1, none⟩

/-- An active session with two chunks, a detached one whose closed marker was
already written, one that never started, and a closed one. -/
def leftover : Db where
  sessions :=
    (((AList.insert 3 (row .starting) ∅).insert 1 (row .active)).insert 4 (row .closed)).insert 2 (row .detached)
  events := []
  chunks := [⟨1, 1, 4, by decide, by decide⟩, ⟨1, 5, 9, by decide, by decide⟩, ⟨2, 1, 3, by decide, by decide⟩]
  markers := [closedMarker 2 .active 50 50 3]

end RelayTerm.Startup
