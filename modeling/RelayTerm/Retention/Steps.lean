import RelayTerm.Retention.Purge
/-!
# The steps of a purge

What one await point can do, and what holds of a purge between two of them: what
its transaction has counted, and what it is going to delete, are the rows of the
session it has locked.
-/
open RelayTerm.Lib

namespace RelayTerm.Retention

variable {addDays : Time → Nat → Time} {db db' : Db} {t t' : Task} {id : SessionId} {p : Purge} {w : Writes}

/-! ## One await point -/

/-- From one statement of the transaction to the next. -/
inductive Advance (addDays : Time → Nat → Time) (db : Db) : Task → Task → Prop where
  | begin (input : PurgeRecordingForRetention) : Advance addDays db (.begin input) (.lock input)
  | lock (input : PurgeRecordingForRetention) (closedAt : Time)
      (hrow : db.selectClosedAt addDays input = some closedAt) :
      Advance addDays db (.lock input) (.countChunks input closedAt)
  | countChunks (input : PurgeRecordingForRetention) (closedAt : Time) :
      Advance addDays db (.countChunks input closedAt)
      (.countMarkers input closedAt (db.chunksOf input.terminalSessionId).length (db.bytesOf input.terminalSessionId))
  | countMarkers (input : PurgeRecordingForRetention) (closedAt : Time) (n bytes : Nat)
      (hsome : ¬ (n = 0 ∧ (db.markersOf input.terminalSessionId).length = 0)) :
      Advance addDays db (.countMarkers input closedAt n bytes)
        (.deleteMarkers ⟨input, closedAt, n, (db.markersOf input.terminalSessionId).length, bytes⟩)
  | deleteMarkers (p : Purge) : Advance addDays db (.deleteMarkers p)
      (.deleteChunks p ⟨(db.markersOf p.input.terminalSessionId).map (·.1), [], []⟩)
  | deleteChunks (p : Purge) (w : Writes) : Advance addDays db (.deleteChunks p w)
      (.insertAudit p { w with chunks := (db.chunksOf p.input.terminalSessionId).map (·.1) })
  | insertAudit (p : Purge) (w : Writes) :
      Advance addDays db (.insertAudit p w) (.commit p { w with audits := [p.audit] })

/-- What an await point can do. -/
inductive Effect (addDays : Time → Nat → Time) (db : Db) (t : Task) : Out → Prop where
  | failed (err : RepositoryError) : Effect addDays db t ⟨db, .ret (.error err)⟩
  | nothing : Effect addDays db t ⟨db, .ret (.ok none)⟩
  | advanced (t' : Task) (h : Advance addDays db t t') : Effect addDays db t ⟨db, .await t'⟩
  | committed (p : Purge) (w : Writes) (h : t = .commit p w) :
      Effect addDays db t ⟨db.publish w, .ret (.ok (some p.summary))⟩

theorem perform_effect (addDays : Time → Nat → Time) (db : Db) (t : Task) :
    Effect addDays db t (db.perform addDays t) := by
  cases t with
  | begin input => exact .advanced _ (.begin input)
  | lock input =>
    simp only [Db.perform]
    split
    · exact .nothing
    · next closedAt hrow => exact .advanced _ (.lock input closedAt hrow)
  | countChunks input closedAt => exact .advanced _ (.countChunks input closedAt)
  | countMarkers input closedAt n bytes =>
    simp only [Db.perform, Db.counted]
    split
    · exact .nothing
    · next hsome => exact .advanced _ (.countMarkers input closedAt n bytes hsome)
  | deleteMarkers p => exact .advanced _ (.deleteMarkers p)
  | deleteChunks p w => exact .advanced _ (.deleteChunks p w)
  | insertAudit p w => exact .advanced _ (.insertAudit p w)
  | commit p w => exact .committed p w rfl

theorem resume_effect (addDays : Time → Nat → Time) (db : Db) (fail : Option RepositoryError) (t : Task) :
    Effect addDays db t (db.resume addDays fail t) := by
  cases fail with
  | some err => exact .failed err
  | none => exact perform_effect addDays db t

/-- The statements a purge still has before it. -/
def Task.left : Task → Nat
  | .begin _ => 8
  | .lock _ => 7
  | .countChunks _ _ => 6
  | .countMarkers _ _ _ _ => 5
  | .deleteMarkers _ => 4
  | .deleteChunks _ _ => 3
  | .insertAudit _ _ => 2
  | .commit _ _ => 1

theorem Advance.left (h : Advance addDays db t t') : t'.left + 1 = t.left := by
  cases h <;> rfl

/-! ## What a purge has read -/

/-- The rows of the session as the transaction has counted them. -/
structure Purge.Counts (p : Purge) (db : Db) : Prop where
  chunks : p.chunkCount = (db.chunksOf p.input.terminalSessionId).length
  markers : p.markerCount = (db.markersOf p.input.terminalSessionId).length
  bytes : p.bytesPurged = db.bytesOf p.input.terminalSessionId
  some : ¬ (p.chunkCount = 0 ∧ p.markerCount = 0)

/-- What a transaction has counted and deleted are the rows of its session. -/
def Task.Counted (db : Db) : Task → Prop
  | .begin _ | .lock _ | .countChunks _ _ => True
  | .countMarkers input _ n bytes =>
    n = (db.chunksOf input.terminalSessionId).length ∧ bytes = db.bytesOf input.terminalSessionId
  | .deleteMarkers p => p.Counts db
  | .deleteChunks p w => p.Counts db ∧ w = ⟨(db.markersOf p.input.terminalSessionId).map (·.1), [], []⟩
  | .insertAudit p w => p.Counts db ∧ w = ⟨(db.markersOf p.input.terminalSessionId).map (·.1),
      (db.chunksOf p.input.terminalSessionId).map (·.1), []⟩
  | .commit p w => p.Counts db ∧ w = ⟨(db.markersOf p.input.terminalSessionId).map (·.1),
      (db.chunksOf p.input.terminalSessionId).map (·.1), [p.audit]⟩

theorem Advance.counted (h : Advance addDays db t t') (ht : t.Counted db) : t'.Counted db := by
  cases h with
  | begin | lock => trivial
  | countChunks input closedAt => exact ⟨rfl, rfl⟩
  | countMarkers input closedAt n bytes hsome => exact ⟨ht.1, rfl, ht.2, hsome⟩
  | deleteMarkers p => exact ⟨ht, rfl⟩
  | deleteChunks p w => exact ⟨ht.1, by rw [ht.2]⟩
  | insertAudit p w => exact ⟨ht.1, by rw [ht.2]⟩

/-- The recording of the session is the same. -/
def SameRecording (db db' : Db) (id : SessionId) : Prop :=
  db'.chunksOf id = db.chunksOf id ∧ db'.markersOf id = db.markersOf id

theorem SameRecording.bytes (h : SameRecording db db' id) : db'.bytesOf id = db.bytesOf id := by
  rw [Db.bytesOf, h.1, Db.bytesOf]

theorem Purge.Counts.same (hp : p.Counts db) (h : SameRecording db db' p.input.terminalSessionId) : p.Counts db' where
  chunks := by rw [h.1]; exact hp.chunks
  markers := by rw [h.2]; exact hp.markers
  bytes := by rw [h.bytes]; exact hp.bytes
  some := hp.some

/-- A transaction counts on nothing but the session it holds. -/
theorem Task.Counted.same (ht : t.Counted db) (h : ∀ id, t.holds = some id → SameRecording db db' id) :
    t.Counted db' := by
  cases t with
  | begin | lock | countChunks => trivial
  | countMarkers input closedAt n bytes =>
    have hsame := h _ rfl
    exact ⟨by rw [hsame.1]; exact ht.1, by rw [hsame.bytes]; exact ht.2⟩
  | deleteMarkers p => exact Purge.Counts.same ht (h _ rfl)
  | deleteChunks p w =>
    have hsame := h _ rfl
    exact ⟨ht.1.same hsame, by rw [hsame.2]; exact ht.2⟩
  | insertAudit p w =>
    have hsame := h _ rfl
    exact ⟨ht.1.same hsame, by rw [hsame.1, hsame.2]; exact ht.2⟩
  | commit p w =>
    have hsame := h _ rfl
    exact ⟨ht.1.same hsame, by rw [hsame.1, hsame.2]; exact ht.2⟩

/-! ## The commit -/

/-- What a purge that returns a summary has done. -/
structure Purged (input : PurgeRecordingForRetention) (summary : PurgedRecordingSummary) (db db' : Db) : Prop where
  sessions : db'.sessions = db.sessions
  /-- The chunks that are left are those of other sessions. -/
  chunks : ∀ k c, db'.chunks.lookup k = some c ↔
    db.chunks.lookup k = some c ∧ c.terminalSessionId ≠ input.terminalSessionId
  markers : ∀ k m, db'.markers.lookup k = some m ↔
    db.markers.lookup k = some m ∧ m.terminalSessionId ≠ input.terminalSessionId
  audits : db'.audits = db.audits ++ [⟨none, "recording_purged",
    .recordingPurged "terminal_session" input.terminalSessionId summary.chunkCount summary.markerCount
      summary.bytesPurged input.retentionDays summary.closedAt input.now "retention_expired", none, input.now⟩]
  chunkCount : summary.chunkCount = (db.chunksOf input.terminalSessionId).length
  markerCount : summary.markerCount = (db.markersOf input.terminalSessionId).length
  bytesPurged : summary.bytesPurged = db.bytesOf input.terminalSessionId

theorem commit_purged (ht : (Task.commit p w).Counted db) : Purged p.input p.summary db (db.publish w) := by
  obtain ⟨hp, rfl⟩ := ht
  refine ⟨rfl, ?_, ?_, rfl, hp.chunks, hp.markers, hp.bytes⟩
  · intro k c
    exact Registry.lookup_without_select.trans (by simp)
  · intro k m
    exact Registry.lookup_without_select.trans (by simp)

theorem commit_clears (ht : (Task.commit p w).Counted db) :
    (db.publish w).chunksOf p.input.terminalSessionId = [] ∧
      (db.publish w).markersOf p.input.terminalSessionId = [] := by
  obtain ⟨-, rfl⟩ := ht
  exact ⟨Registry.select_without_select, Registry.select_without_select⟩

/-- The recordings of other sessions stay. -/
theorem commit_same (ht : (Task.commit p w).Counted db) (hid : id ≠ p.input.terminalSessionId) :
    SameRecording db (db.publish w) id := by
  obtain ⟨-, rfl⟩ := ht
  constructor
  · apply Registry.select_without_disjoint
    intro c hc
    simpa [of_decide_eq_true hc] using hid.symm
  · apply Registry.select_without_disjoint
    intro m hm
    simpa [of_decide_eq_true hm] using hid.symm

end RelayTerm.Retention
