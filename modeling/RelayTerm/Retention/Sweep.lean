import RelayTerm.Lib.Queue
import RelayTerm.Retention.Once
/-!
# Sweeps

`run_recording_retention_sweep` lists a batch of expired recordings, oldest
first, and purges one after the other until the first error. The expired
recordings are a queue, and a sweep serves it from the front up to the first one
whose purge fails (`sweep_serves`). What fails stays in front, so a series of
sweeps comes to it and purges none of those behind it for as long as it fails.
-/
open RelayTerm.Lib

namespace RelayTerm.Retention

structure RecordingRetentionSweepSummary where
  candidateCount : Nat
  purgedSessions : Nat
  chunksPurged : Nat
  markersPurged : Nat
  bytesPurged : Nat
  errors : Nat
  batchTruncated : Bool
  deriving DecidableEq, Repr

namespace RecordingRetentionSweepSummary

def default : RecordingRetentionSweepSummary := ⟨0, 0, 0, 0, 0, 0, false⟩

def add (summary : RecordingRetentionSweepSummary) (purged : PurgedRecordingSummary) :
    RecordingRetentionSweepSummary :=
  { summary with
    purgedSessions := summary.purgedSessions + 1
    chunksPurged := summary.chunksPurged + purged.chunkCount
    markersPurged := summary.markersPurged + purged.markerCount
    bytesPurged := summary.bytesPurged + purged.bytesPurged }

theorem add_purgedSessions (summary : RecordingRetentionSweepSummary) (purged : PurgedRecordingSummary) :
    (summary.add purged).purgedSessions = summary.purgedSessions + 1 := rfl

end RecordingRetentionSweepSummary

/-- What a sweep is called with, and how its statements go. -/
structure Sweep where
  retentionDays : UInt32
  batchSize : UInt32
  now : Time
  listing : Option RepositoryError
  fails : SessionId → Task → Option RepositoryError

variable (addDays : Time → Nat → Time)

def Sweep.purge (sweep : Sweep) (db : Db) (id : SessionId) : Out :=
  purgeForRetention addDays (sweep.fails id) db ⟨id, sweep.retentionDays, sweep.now⟩

def Sweep.list (sweep : Sweep) (db : Db) : Except RepositoryError (List SessionId) :=
  listEligibleForRetention addDays sweep.listing db sweep.retentionDays sweep.now sweep.batchSize

/-- The loop over the candidates. -/
def Sweep.purgeEach (sweep : Sweep) :
    Db → RecordingRetentionSweepSummary → List SessionId → Db × RecordingRetentionSweepSummary
  | db, summary, [] => (db, summary)
  | db, summary, id :: rest => match sweep.purge addDays db id with
    | ⟨db', .ret (.ok (some purged))⟩ => sweep.purgeEach db' (summary.add purged) rest
    | ⟨db', .ret (.ok none)⟩ => sweep.purgeEach db' summary rest
    | ⟨db', .ret (.error _)⟩ => (db', { summary with errors := 1, batchTruncated := false })
    -- Not reached: a purge has returned (`purge_returns`).
    | ⟨db', .await _⟩ => (db', summary)

def runRecordingRetentionSweep (sweep : Sweep) (db : Db) : Db × RecordingRetentionSweepSummary :=
  match sweep.list addDays db with
  | .error _ => (db, { RecordingRetentionSweepSummary.default with errors := 1 })
  | .ok candidates =>
    let summary := { RecordingRetentionSweepSummary.default with
      candidateCount := candidates.length
      batchTruncated := candidates.length == sweep.batchSize.toNat }
    if candidates.isEmpty then (db, summary) else sweep.purgeEach addDays db summary candidates

/-- One sweep after the other. -/
def runSweeps (db : Db) (sweeps : List Sweep) : Db :=
  sweeps.foldl (fun db sweep => (runRecordingRetentionSweep addDays sweep db).1) db

def Sweep.Eligible (sweep : Sweep) (db : Db) (id : SessionId) : Prop :=
  ∃ closedAt, (id, closedAt) ∈ db.eligibleRows addDays sweep.retentionDays.toNat sweep.now

/-- The eligible sessions in the order in which they are listed. -/
def Sweep.queue (sweep : Sweep) (db : Db) : List SessionId :=
  ((db.eligibleRows addDays sweep.retentionDays.toNat sweep.now).insertionSort fun a b => a.2 ≤ b.2).map (·.1)

/-- An earlier sweep of the same deployment. -/
structure Sweep.Precedes (earlier sweep : Sweep) : Prop where
  retentionDays : earlier.retentionDays = sweep.retentionDays
  batchSize : earlier.batchSize = sweep.batchSize
  now : earlier.now ≤ sweep.now

/-- Purging an eligible session of `bad` always fails, and purging any other one succeeds. -/
structure Sweep.FailsFor (sweep : Sweep) (bad : SessionId → Bool) : Prop where
  failing : ∀ db id, bad id = true → sweep.Eligible addDays db id →
    ∃ err db', sweep.purge addDays db id = ⟨db', .ret (.error err)⟩
  succeeding : ∀ db id, bad id = false → sweep.Eligible addDays db id →
    ∃ result db', sweep.purge addDays db id = ⟨db', .ret (.ok result)⟩

variable {addDays} {sweep : Sweep} {bad : SessionId → Bool} {db db' : Db} {id : SessionId} {ids : List SessionId}
  {input : PurgeRecordingForRetention} {purged : PurgedRecordingSummary}

/-! ## What is listed -/

theorem eligibleRows_nodup (db : Db) (days : Nat) (now : Time) :
    ((db.eligibleRows addDays days now).map (·.1)).Nodup := by
  have hkeys : db.sessions.entries.Pairwise fun a b => a.1 ≠ b.1 := List.pairwise_map.1 db.sessions.nodupKeys
  apply List.pairwise_map.2
  apply List.pairwise_filterMap.2
  apply hkeys.imp
  intro a b hne x hx y hy
  obtain ⟨_, -, rfl⟩ := Option.map_eq_some_iff.1 hx
  obtain ⟨_, -, rfl⟩ := Option.map_eq_some_iff.1 hy
  exact hne

theorem list_days (h : sweep.list addDays db = .ok ids) :
    sweep.listing = none ∧ sweep.retentionDays.toNat ≤ i32Max := by
  by_cases hdays : sweep.retentionDays.toNat ≤ i32Max
  · refine ⟨?_, hdays⟩
    cases hfail : sweep.listing with
    | none => rfl
    | some err =>
      rw [Sweep.list, listEligibleForRetention, hfail, retentionDaysI32_ok hdays] at h
      cases h
  · exact absurd h (list_unbounded hdays _ _ _ _)

theorem list_eq (h : sweep.list addDays db = .ok ids) :
    ids = (sweep.queue addDays db).take (max sweep.batchSize.toNat 1) := by
  obtain ⟨hlisting, hdays⟩ := list_days h
  rw [Sweep.list, hlisting, list_ok hdays] at h
  rw [Sweep.queue, ← List.map_take]
  exact (Except.ok.inj h).symm

/-- Whether the listing succeeds does not depend on the rows. -/
theorem list_elsewhere (h : sweep.list addDays db = .ok ids) (db' : Db) :
    sweep.list addDays db' = .ok ((sweep.queue addDays db').take (max sweep.batchSize.toNat 1)) := by
  obtain ⟨hlisting, hdays⟩ := list_days h
  rw [Sweep.list, hlisting, list_ok hdays, Sweep.queue, List.map_take]

theorem queue_nodup (sweep : Sweep) (db : Db) : (sweep.queue addDays db).Nodup :=
  ((List.perm_insertionSort _ _).map _).nodup_iff.2 (eligibleRows_nodup db _ _)

theorem mem_queue : id ∈ sweep.queue addDays db ↔ sweep.Eligible addDays db id := by
  simp [Sweep.queue, Sweep.Eligible]

/-! ## One purge of a sweep -/

/-- A purge leaves the other sessions as they are. -/
theorem Purged.isRecorded (h : Purged input purged db db') (hid : id ≠ input.terminalSessionId) :
    db'.isRecorded id = db.isRecorded id := by
  have hother : ∀ {b : SessionId}, b = id → b ≠ input.terminalSessionId := fun hb => hb ▸ hid
  rw [Bool.eq_iff_iff]
  simp only [Db.isRecorded, Bool.or_eq_true, Registry.any_iff, h.chunks, h.markers, decide_eq_true_eq]
  constructor
  · rintro (⟨k, c, ⟨hk, -⟩, hc⟩ | ⟨k, m, ⟨hk, -⟩, hm⟩)
    · exact .inl ⟨k, c, hk, hc⟩
    · exact .inr ⟨k, m, hk, hm⟩
  · rintro (⟨k, c, hk, hc⟩ | ⟨k, m, hk, hm⟩)
    · exact .inl ⟨k, c, ⟨hk, hother hc⟩, hc⟩
    · exact .inr ⟨k, m, ⟨hk, hother hm⟩, hm⟩

/-- A purge takes its session out of the eligible ones, and leaves the others as they are. -/
theorem Purged.eligibleRows (h : Purged input purged db db') (hgone : db'.isRecorded input.terminalSessionId = false)
    (days : Nat) (now : Time) : db'.eligibleRows addDays days now =
      (db.eligibleRows addDays days now).filter fun row => decide (row.1 ≠ input.terminalSessionId) := by
  rw [Db.eligibleRows, Db.eligibleRows, List.filter_filterMap, h.sessions]
  apply List.filterMap_congr
  rintro ⟨i, session⟩ -
  by_cases hi : i = input.terminalSessionId
  · subst hi
    cases session.closedAt with
    | none => rfl
    | some closedAt =>
      rw [hgone]
      simp only [Option.filter_some, Bool.and_false, Bool.false_eq_true, if_false]
      split <;> simp [Option.filter]
  · rw [h.isRecorded hi]
    cases session.closedAt with
    | none => rfl
    | some closedAt =>
      simp only [Option.filter_some]
      split <;> simp [Option.filter, hi]

theorem Purged.queue (h : Purged input purged db db') (hgone : db'.isRecorded input.terminalSessionId = false)
    (sweep : Sweep) : sweep.queue addDays db' =
      (sweep.queue addDays db).filter fun id => decide (id ≠ input.terminalSessionId) := by
  have htotal : Std.Total fun a b : SessionId × Time => a.2 ≤ b.2 := ⟨fun a b => le_total a.2 b.2⟩
  have htrans : IsTrans (SessionId × Time) fun a b => a.2 ≤ b.2 := ⟨fun _ _ _ => le_trans⟩
  rw [Sweep.queue, h.eligibleRows hgone, Queue.insertionSort_filter, Sweep.queue, List.filter_map]
  rfl

/-- A purge that returns without an error is one in which no statement failed. -/
theorem drive_ok {fails : Task → Option RepositoryError} {o : Out} {result : Option PurgedRecordingSummary} {n : Nat}
    (h : Out.drive addDays fails n o = ⟨db', .ret (.ok result)⟩) :
    Out.drive addDays allSucceed n o = ⟨db', .ret (.ok result)⟩ := by
  induction n generalizing o with
  | zero => exact h
  | succ n ih =>
    obtain ⟨db, next⟩ := o
    cases next with
    | ret r => exact h
    | await t =>
      apply ih
      rw [Out.drive] at h
      cases hfails : fails t with
      | none =>
        rw [hfails] at h
        exact h
      | some err =>
        rw [hfails, Db.resume, drive_ret] at h
        cases h

/-- The purge of an eligible session has something to delete, unless it fails. -/
theorem purge_eligible {result : Option PurgedRecordingSummary} (hdays : sweep.retentionDays.toNat ≤ i32Max)
    (helig : sweep.Eligible addDays db id) (h : sweep.purge addDays db id = ⟨db', .ret (.ok result)⟩) :
    ∃ purged, result = some purged := by
  obtain ⟨⟨closedAt, hrow⟩, hrec⟩ := (@eligible_iff addDays db ⟨id, sweep.retentionDays, sweep.now⟩).1 helig
  obtain ⟨purged, db₁, hpurge⟩ := purge_recorded hdays hrow hrec
  have hsame : (⟨db₁, .ret (.ok (some purged))⟩ : Out) = ⟨db', .ret (.ok result)⟩ := hpurge.symm.trans (drive_ok h)
  cases hsame
  exact ⟨purged, rfl⟩

/-- What a purge does to the queue of any sweep, whatever it returns. -/
theorem purge_queue (earlier : Sweep) (addDays : Time → Nat → Time) (db : Db) (id : SessionId) :
    (earlier.purge addDays db id).db = db ∧ (∀ purged, (earlier.purge addDays db id).next ≠ .ret (.ok (some purged))) ∨
      (∃ purged, (earlier.purge addDays db id).next = .ret (.ok (some purged))) ∧
        ∀ sweep : Sweep, sweep.queue addDays (earlier.purge addDays db id).db =
          (sweep.queue addDays db).filter fun i => decide (i ≠ id) := by
  have hprogress := purge_progress addDays (earlier.fails id) db ⟨id, earlier.retentionDays, earlier.now⟩
  rw [Sweep.purge]
  generalize purgeForRetention addDays (earlier.fails id) db ⟨id, earlier.retentionDays, earlier.now⟩ = o at hprogress
  cases hprogress with
  | underWay | failed | nothing => exact .inl ⟨rfl, nofun⟩
  | purged db' summary h hchunks hmarkers =>
    exact .inr ⟨⟨summary, rfl⟩, h.queue (isRecorded_eq_false.2 ⟨hchunks, hmarkers⟩)⟩

/-! ## A sweep -/

/-- The loop over candidates from the front of the queue purges those before the
first whose purge fails, and leaves the rest of the queue. -/
theorem purgeEach_serves (hfails : sweep.FailsFor addDays bad) (hdays : sweep.retentionDays.toNat ≤ i32Max)
    (summary : RecordingRetentionSweepSummary) {rest : List SessionId} (hqueue : sweep.queue addDays db = ids ++ rest) :
    (sweep.purgeEach addDays db summary ids).2.purgedSessions =
        summary.purgedSessions + (ids.takeWhile fun id => !bad id).length ∧
      sweep.queue addDays (sweep.purgeEach addDays db summary ids).1 =
        (ids.dropWhile fun id => !bad id) ++ rest := by
  induction ids generalizing db summary with
  | nil => exact ⟨rfl, hqueue⟩
  | cons id ids ih =>
    have helig : sweep.Eligible addDays db id := mem_queue.1 (by simp [hqueue])
    have heffect := purge_queue sweep addDays db id
    rw [Sweep.purgeEach]
    cases hid : bad id with
    | true =>
      obtain ⟨err, db', hpurge⟩ := hfails.failing db id hid helig
      rw [hpurge] at heffect ⊢
      rcases heffect with ⟨hdb, -⟩ | ⟨⟨purged, hreturned⟩, -⟩
      · obtain rfl : db' = db := hdb
        simp [hid, hqueue]
      · cases hreturned
    | false =>
      obtain ⟨result, db', hpurge⟩ := hfails.succeeding db id hid helig
      obtain ⟨purged, rfl⟩ := purge_eligible hdays helig hpurge
      rw [hpurge] at heffect ⊢
      rcases heffect with ⟨-, hnone⟩ | ⟨-, hgone⟩
      · exact absurd rfl (hnone purged)
      -- the queue has each session once, so only its first element has gone
      have hnodup : (id :: (ids ++ rest)).Nodup := by
        rw [← List.cons_append, ← hqueue]
        exact queue_nodup sweep db
      have hrest : sweep.queue addDays db' = ids ++ rest := by
        rw [hgone sweep, hqueue, List.cons_append, List.filter_cons_of_neg (by simp)]
        apply List.filter_eq_self.2
        intro i hi
        have hne : i ≠ id := by
          rintro rfl
          exact (List.nodup_cons.1 hnodup).1 hi
        simpa using hne
      obtain ⟨hcount, hleft⟩ := ih (summary.add purged) hrest
      refine ⟨?_, ?_⟩
      · simp only [hcount, RecordingRetentionSweepSummary.add_purgedSessions, List.takeWhile_cons, hid, Bool.not_false,
          if_true, List.length_cons]
        omega
      · simp only [hleft, List.dropWhile_cons, hid, Bool.not_false, if_true]

/-- A sweep serves the queue once. -/
theorem sweep_serves (hfails : sweep.FailsFor addDays bad) (h : sweep.list addDays db = .ok ids) :
    (runRecordingRetentionSweep addDays sweep db).2.purgedSessions =
        Queue.served bad (max sweep.batchSize.toNat 1) (sweep.queue addDays db) ∧
      sweep.queue addDays (runRecordingRetentionSweep addDays sweep db).1 =
        Queue.serve bad (max sweep.batchSize.toNat 1) (sweep.queue addDays db) := by
  have hids := list_eq h
  have hsplit : sweep.queue addDays db = ids ++ (sweep.queue addDays db).drop (max sweep.batchSize.toNat 1) := by
    rw [hids, List.take_append_drop]
  -- the part of the queue that a round leaves
  have hleft : Queue.serve bad (max sweep.batchSize.toNat 1) (sweep.queue addDays db) =
      (ids.dropWhile fun id => !bad id) ++ (sweep.queue addDays db).drop (max sweep.batchSize.toNat 1) := by
    rw [Queue.serve, Queue.served, ← hids]
    conv_lhs => rw [hsplit]
    conv_lhs => enter [2, 1]; rw [← List.takeWhile_append_dropWhile (p := fun id => !bad id) (l := ids)]
    rw [List.append_assoc, List.drop_left']
    rfl
  rw [hleft, Queue.served, ← hids]
  simp only [runRecordingRetentionSweep, h]
  cases ids with
  | nil => exact ⟨rfl, hsplit⟩
  | cons id rest =>
    simp only [List.isEmpty_cons, Bool.false_eq_true, if_false]
    obtain ⟨hcount, hqueue⟩ := purgeEach_serves hfails (list_days h).2 _ hsplit
    refine ⟨?_, hqueue⟩
    rw [hcount]
    exact Nat.zero_add _

/-! ## A series of sweeps -/

theorem purgeEach_sublist (earlier : Sweep) (sweep : Sweep) (summary : RecordingRetentionSweepSummary)
    (ids : List SessionId) :
    List.Sublist (sweep.queue addDays (earlier.purgeEach addDays db summary ids).1) (sweep.queue addDays db) := by
  induction ids generalizing db summary with
  | nil => exact List.Sublist.refl _
  | cons id ids ih =>
    have hone : List.Sublist (sweep.queue addDays (earlier.purge addDays db id).db) (sweep.queue addDays db) := by
      rcases purge_queue earlier addDays db id with ⟨hdb, -⟩ | ⟨-, hgone⟩
      · rw [hdb]
      · rw [hgone sweep]
        exact List.filter_sublist
    rw [Sweep.purgeEach]
    generalize earlier.purge addDays db id = o at hone
    obtain ⟨db', next⟩ := o
    cases next with
    | await t => exact hone
    | ret r =>
      cases r with
      | error err => exact hone
      | ok result => cases result <;> exact (ih _).trans hone

/-- Whatever sweeps were before, those that are still eligible are still in their order. -/
theorem runSweeps_sublist (sweep : Sweep) (sweeps : List Sweep) :
    List.Sublist (sweep.queue addDays (runSweeps addDays db sweeps)) (sweep.queue addDays db) := by
  induction sweeps generalizing db with
  | nil => exact List.Sublist.refl _
  | cons earlier sweeps ih =>
    refine ih.trans ?_
    simp only [runRecordingRetentionSweep]
    split
    · exact List.Sublist.refl _
    · split
      · exact List.Sublist.refl _
      · exact purgeEach_sublist earlier sweep _ _

/-- A sweep made again and again serves the queue again and again. -/
theorem runSweeps_replicate (hfails : sweep.FailsFor addDays bad) (h : sweep.list addDays db = .ok ids) (k : Nat) :
    sweep.queue addDays (runSweeps addDays db (List.replicate k sweep)) =
      (Queue.serve bad (max sweep.batchSize.toNat 1))^[k] (sweep.queue addDays db) := by
  induction k generalizing db ids with
  | zero => rfl
  | succ k ih =>
    rw [Function.iterate_succ_apply, ← (sweep_serves hfails h).2]
    exact ih (list_elsewhere h _)

/-- After every series of sweeps the next one purges some session while one that
can be purged waits, if and only if in the first database no session that can be
purged is listed behind one whose purge fails. -/
theorem sweep_progress_iff (addDays : Time → Nat → Time) (bad : SessionId → Bool) (db : Db) (sweep : Sweep)
    (ids : List SessionId) (hfails : sweep.FailsFor addDays bad) (hlist : sweep.list addDays db = .ok ids) :
    (∀ sweeps : List Sweep, (∀ earlier ∈ sweeps, earlier.FailsFor addDays bad ∧ earlier.Precedes sweep) →
      ∀ id, sweep.Eligible addDays (runSweeps addDays db sweeps) id → bad id = false →
        0 < (runRecordingRetentionSweep addDays sweep (runSweeps addDays db sweeps)).2.purgedSessions) ↔
      Queue.Unblocked bad (sweep.queue addDays db) := by
  have hbatch : 0 < max sweep.batchSize.toNat 1 := by omega
  constructor
  · intro hprogress
    by_contra hblocked
    obtain ⟨k, ⟨id, hwaits, hgood⟩, hstuck⟩ := Queue.exists_stuck hbatch hblocked
    rw [← runSweeps_replicate hfails hlist] at hwaits hstuck
    have hpurged := hprogress (List.replicate k sweep) ?_ id (mem_queue.1 hwaits) hgood
    · rw [(sweep_serves hfails (list_elsewhere hlist _)).1, hstuck] at hpurged
      cases hpurged
    · intro earlier hearlier
      rw [List.eq_of_mem_replicate hearlier]
      exact ⟨hfails, rfl, rfl, le_refl _⟩
  · intro hunblocked sweeps _ id hwaits hgood
    have hstill : Queue.Unblocked bad (sweep.queue addDays (runSweeps addDays db sweeps)) :=
      hunblocked.sublist (runSweeps_sublist sweep sweeps)
    rw [(sweep_serves hfails (list_elsewhere hlist _)).1]
    exact hstill.served_pos hbatch (mem_queue.2 hwaits) hgood

/-- Sessions 1 and 2 were closed at times 0 and 10. -/
def backlog : Db where
  sessions := AList.insert 1 ⟨some 0⟩ (AList.insert 2 ⟨some 10⟩ ∅)
  chunks := AList.insert 10 ⟨1, 5⟩ (AList.insert 12 ⟨2, 9⟩ ∅)
  markers := ∅
  audits := []

/-- Session 3 was closed after them. -/
def longerBacklog : Db :=
  { backlog with
    sessions := backlog.sessions.insert 3 ⟨some 20⟩
    chunks := backlog.chunks.insert 14 ⟨3, 7⟩ }

/-- A sweep in which the row of one session cannot be locked. -/
def lockedOut (stuck : SessionId) (now : Time) : Sweep where
  retentionDays := 30
  batchSize := 100
  now := now
  listing := none
  fails id
    | .lock _ => if id = stuck then some (.database "canceling statement due to lock timeout") else none
    | _ => none

theorem lockedOut_fails (stuck : SessionId) (now : Time) :
    (lockedOut stuck now).FailsFor daysLater fun id => decide (id = stuck) where
  failing := by
    intro db id hid _
    rw [of_decide_eq_true hid, Sweep.purge, purgeForRetention]
    refine ⟨.database "canceling statement due to lock timeout", db, ?_⟩
    simp [lockedOut, PurgeRecordingForRetention.enter, retentionDaysI32, i32Max, Out.drive, Db.resume, Db.perform]
  succeeding := by
    intro db id hid helig
    obtain ⟨⟨closedAt, hrow⟩, hrec⟩ := (@eligible_iff daysLater db ⟨id, 30, now⟩).1 helig
    obtain ⟨purged, db', hpurge⟩ := purge_recorded (show (30 : UInt32).toNat ≤ i32Max by decide) hrow hrec
    have hnone : (lockedOut stuck now).fails id = allSucceed := by
      funext t
      cases t <;> simp_all [lockedOut, allSucceed]
    refine ⟨some purged, db', ?_⟩
    rw [Sweep.purge, hnone]
    exact hpurge

/-- The younger of the two is stuck: no series of sweeps comes to a halt while the older one waits. With a third
session behind them, some series does. -/
theorem sweep_progress_iff_younger :
    (∀ sweeps : List Sweep, (∀ earlier ∈ sweeps, earlier.FailsFor daysLater (fun id => decide (id = 2)) ∧
        earlier.Precedes (lockedOut 2 3000000)) →
      ∀ id, (lockedOut 2 3000000).Eligible daysLater (runSweeps daysLater backlog sweeps) id → decide (id = 2) = false →
        0 < (runRecordingRetentionSweep daysLater (lockedOut 2 3000000)
          (runSweeps daysLater backlog sweeps)).2.purgedSessions) ∧
    ¬ ∀ sweeps : List Sweep, (∀ earlier ∈ sweeps, earlier.FailsFor daysLater (fun id => decide (id = 2)) ∧
        earlier.Precedes (lockedOut 2 3000000)) →
      ∀ id, (lockedOut 2 3000000).Eligible daysLater (runSweeps daysLater longerBacklog sweeps) id →
        decide (id = 2) = false → 0 < (runRecordingRetentionSweep daysLater (lockedOut 2 3000000)
          (runSweeps daysLater longerBacklog sweeps)).2.purgedSessions :=
  ⟨(sweep_progress_iff daysLater _ backlog _ [1, 2] (lockedOut_fails 2 _) rfl).2 (by decide),
    (sweep_progress_iff daysLater _ longerBacklog _ [1, 2, 3] (lockedOut_fails 2 _) rfl).not.2 (by decide)⟩

/-- The older of the two is stuck: the younger one is not purged, in this sweep and those before. -/
theorem sweep_progress_blocked :
    ¬ ∀ (addDays : Time → Nat → Time) (bad : SessionId → Bool) (db : Db) (sweeps : List Sweep) (sweep : Sweep)
      (ids : List SessionId) (id : SessionId),
      (∀ sw ∈ sweeps ++ [sweep], sw.FailsFor addDays bad ∧ sw.retentionDays = sweep.retentionDays ∧
        sw.batchSize = sweep.batchSize) →
      ((db.sessions.keys.filter bad).length < sweep.batchSize.toNat) →
      sweep.list addDays (runSweeps addDays db sweeps) = .ok ids →
      sweep.Eligible addDays (runSweeps addDays db sweeps) id → bad id = false →
      0 < (runRecordingRetentionSweep addDays sweep (runSweeps addDays db sweeps)).2.purgedSessions := by
  intro h
  have hstuck := h daysLater (fun id => decide (id = 1)) backlog [lockedOut 1 3000000, lockedOut 1 3000001]
    (lockedOut 1 3000002) [1, 2] 2 ?_ (by decide) rfl ⟨10, by decide⟩ rfl
  · revert hstuck
    decide
  · intro sw hsw
    simp only [List.cons_append, List.nil_append, List.mem_cons, List.not_mem_nil, or_false] at hsw
    rcases hsw with rfl | rfl | rfl <;> exact ⟨lockedOut_fails 1 _, rfl, rfl⟩

end RelayTerm.Retention
