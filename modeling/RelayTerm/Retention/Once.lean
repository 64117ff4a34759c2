import RelayTerm.Retention.Eligible
/-!
# Retention purges what it lists, once

Since the row of the session is locked while a purge counts and deletes, what
holds of a purge alone holds of purges that run at the same time as well, and of
several purges of one session only one finds anything.
-/
open RelayTerm.Lib

namespace RelayTerm.Retention

variable {addDays : Time → Nat → Time} {fails : Task → Option RepositoryError} {db db' : Db} {t t' : Task} {o : Out}
  {input : PurgeRecordingForRetention} {id : SessionId} {p : Purge} {w : Writes}

/-! ## Purges at the same time -/

variable {s s' : Sys} {tid : TaskId}

structure Sys.Sound (s : Sys) : Prop where
  /-- One transaction at a time holds the row of a session. -/
  alone : Registry.Exclusive Task.holds s.tasks
  /-- What a transaction has counted is still so. -/
  counted : ∀ i t, s.tasks.lookup i = some t → t.Counted s.db

theorem init_sound (db : Db) : (Sys.init db).Sound where
  alone := .empty
  counted := by
    intro i t ht
    simp [Sys.init] at ht

theorem settle_await {t' : Task} {i : TaskId} :
    (s.settle tid id ⟨db, .await t'⟩).tasks.lookup i = some t ↔
      (i = tid ∧ t' = t) ∨ (i ≠ tid ∧ s.tasks.lookup i = some t) :=
  Registry.lookup_insert_iff

theorem settle_ret {r : Result} {i : TaskId} :
    (s.settle tid id ⟨db, .ret r⟩).tasks.lookup i = some t ↔ i ≠ tid ∧ s.tasks.lookup i = some t :=
  Registry.lookup_erase_iff

theorem not_isLocked {tasks : Registry TaskId Task} {i : TaskId} (h : isLocked tasks id = false)
    (ht : tasks.lookup i = some t) : t.holds ≠ some id := by
  intro hholds
  have hany : isLocked tasks id = true := Registry.any_iff.2 ⟨i, t, ht, by simpa using hholds⟩
  rw [h] at hany
  cases hany

theorem of_mayAppend (h : s.mayAppend id = true) : isLocked s.tasks id = false := by
  simp only [Sys.mayAppend, Bool.and_eq_true, Bool.not_eq_true'] at h
  exact h.2

/-- A transaction goes on holding its row, or has just locked it. -/
theorem Advance.holds (h : Advance addDays db t t') (hid : t'.holds = some id) (others : Registry TaskId Task)
    (hwaits : db.waits addDays others t = false) : t.holds = some id ∨ isLocked others id = false := by
  cases h with
  | begin input => cases hid
  | lock input closedAt hrow =>
    right
    cases hid
    simpa [Db.waits, hrow] using hwaits
  | countChunks | countMarkers | deleteMarkers | deleteChunks | insertAudit => exact .inl hid

/-- A step of a purge that leaves the rows as they are. -/
theorem settle_ret_sound {r : Result} (hs : s.Sound) : (s.settle tid id ⟨s.db, .ret r⟩).Sound where
  alone := hs.alone.erase tid
  counted := fun i t ht => hs.counted i t (settle_ret.1 ht).2

theorem settle_await_sound (hs : s.Sound) (ht : t'.Counted s.db)
    (halone : ∀ b, t'.holds = some b → (∃ t, s.tasks.lookup tid = some t ∧ t.holds = some b) ∨
      isLocked (s.tasks.erase tid) b = false) : (s.settle tid id ⟨s.db, .await t'⟩).Sound where
  alone := by
    apply hs.alone.insert
    intro b hb
    refine (halone b hb).imp_right fun hfree => ?_
    intro i u hi hu
    exact not_isLocked hfree (Registry.lookup_erase_iff.2 ⟨hi, hu⟩)
  counted := by
    intro i u hu
    rcases settle_await.1 hu with ⟨-, rfl⟩ | ⟨-, hu⟩
    · exact ht
    · exact hs.counted i u hu

/-- The commit of a purge leaves alone what the others have counted. -/
theorem commit_sound (hs : s.Sound) (ht : s.tasks.lookup tid = some (.commit p w)) {r : Result} :
    (s.settle tid id ⟨s.db.publish w, .ret r⟩).Sound where
  alone := hs.alone.erase tid
  counted := by
    intro i u hu
    obtain ⟨hi, hu⟩ := settle_ret.1 hu
    apply (hs.counted i u hu).same
    intro b hb
    apply commit_same (hs.counted tid _ ht)
    rintro rfl
    exact hi (hs.alone i tid u _ _ hu ht hb rfl)

/-- Rows that are inserted for sessions nobody holds. -/
theorem append_sound (hs : s.Sound) (hfree : isLocked s.tasks id = false)
    (hsame : ∀ b, b ≠ id → SameRecording s.db db' b) : Sys.Sound { s with db := db' } where
  alone := hs.alone
  counted := by
    intro i t ht
    apply (hs.counted i t ht).same
    intro b hb
    apply hsame
    rintro rfl
    exact not_isLocked hfree ht hb

theorem appendChunk_same {k : ChunkId} {row : Chunk} (hk : db.chunks.lookup k = none)
    (hid : id ≠ row.terminalSessionId) :
    SameRecording db { db with chunks := db.chunks.insert k row } id :=
  ⟨Registry.select_insert_of hk (by simpa using hid.symm), rfl⟩

theorem appendMarker_same {k : MarkerId} {row : Marker} (hk : db.markers.lookup k = none)
    (hid : id ≠ row.terminalSessionId) :
    SameRecording db { db with markers := db.markers.insert k row } id :=
  ⟨rfl, Registry.select_insert_of hk (by simpa using hid.symm)⟩

/-- The session an event inserts a row for. -/
def Event.recordsFor : Event → Option SessionId
  | .call _ | .resume _ _ => none
  | .appendChunk _ row => some row.terminalSessionId
  | .appendMarker _ row => some row.terminalSessionId

/-- The purge returned a summary. -/
def isPurge : Result → Bool
  | .ok (some _) => true
  | _ => false

/-- What a step does to the database and to what is returned. -/
inductive StepEffect (s : Sys) (ev : Event) (db' : Db) (returned' : List (SessionId × Result)) : Prop where
  /-- A purge goes on, or ends without a summary. -/
  | quiet (more : List (SessionId × Result)) (hdb : db' = s.db) (hreturned : returned' = s.returned ++ more)
      (hmore : ∀ r ∈ more, isPurge r.2 = false)
  | purged (p : Purge) (w : Writes) (hcounted : (Task.commit p w).Counted s.db) (hdb : db' = s.db.publish w)
      (hreturned : returned' = s.returned ++ [(p.input.terminalSessionId, .ok (some p.summary))])
  | recorded (id : SessionId) (hev : ev.recordsFor = some id) (hsame : ∀ b, b ≠ id → SameRecording s.db db' b)
      (hreturned : returned' = s.returned)

/-- The step keeps the invariant and has one of the effects. -/
def StepOk (s : Sys) (ev : Event) (s' : Sys) : Prop := s'.Sound ∧ StepEffect s ev s'.db s'.returned

/-- A purge that returns without a summary. -/
theorem settle_ret_ok {ev : Event} {r : Result} (hs : s.Sound) (hr : isPurge r = false) :
    StepOk s ev (s.settle tid id ⟨s.db, .ret r⟩) := by
  refine ⟨settle_ret_sound hs, .quiet [(id, r)] rfl rfl ?_⟩
  intro x hx
  rw [List.mem_singleton.1 hx]
  exact hr

/-- A purge that goes on. -/
theorem settle_await_ok {ev : Event} (h : (s.settle tid id ⟨s.db, .await t'⟩).Sound) :
    StepOk s ev (s.settle tid id ⟨s.db, .await t'⟩) :=
  ⟨h, .quiet [] rfl (List.append_nil _).symm (by simp)⟩

theorem call_ok (hs : s.Sound) (ev : Event) (input : PurgeRecordingForRetention) :
    StepOk s ev (s.settle s.nextTask input.terminalSessionId ⟨s.db, input.enter⟩) := by
  unfold PurgeRecordingForRetention.enter
  split
  · apply settle_await_ok
    refine settle_await_sound hs (by trivial) ?_
    rintro b ⟨⟩
  · exact settle_ret_ok hs rfl

theorem resume_ok {fail : Option RepositoryError} (hs : s.Sound) (ev : Event) (ht : s.tasks.lookup tid = some t)
    (hwaits : fail = none → s.db.waits addDays (s.tasks.erase tid) t = false) :
    StepOk s ev (s.settle tid t.input.terminalSessionId (s.db.resume addDays fail t)) := by
  cases fail with
  | some err => exact settle_ret_ok hs rfl
  | none =>
    show StepOk s ev (s.settle tid t.input.terminalSessionId (s.db.perform addDays t))
    generalize s.db.perform addDays t = o, perform_effect addDays s.db t = ho
    cases ho with
    | failed err => exact settle_ret_ok hs rfl
    | nothing => exact settle_ret_ok hs rfl
    | advanced t' hadv =>
      apply settle_await_ok
      apply settle_await_sound hs (hadv.counted (hs.counted tid t ht))
      intro b hb
      exact (hadv.holds hb _ (hwaits rfl)).imp_left fun hold => ⟨t, ht, hold⟩
    | committed p w heq =>
      subst heq
      exact ⟨commit_sound hs ht, .purged p w (hs.counted tid _ ht) rfl rfl⟩

theorem step_ok {ev : Event} (hs : s.Sound) (h : s.step addDays ev = some s') : StepOk s ev s' := by
  cases ev with
  | call input =>
    cases h
    obtain ⟨hsound, heffect⟩ := call_ok hs (.call input) input
    exact ⟨⟨hsound.alone, hsound.counted⟩, heffect⟩
  | resume tid fail =>
    obtain ⟨t, ht, hrest⟩ := Option.bind_eq_some_iff.1 h
    split at hrest
    · cases hrest
    · next hgo =>
      cases hrest
      apply resume_ok hs _ ht
      rintro rfl
      simpa using hgo
  | appendChunk k row =>
    obtain ⟨hok, heq⟩ := Option.ite_none_right_eq_some.1 h
    cases heq
    rw [Bool.and_eq_true, Option.isNone_iff_eq_none] at hok
    have hsame := fun b (hb : b ≠ row.terminalSessionId) => appendChunk_same hok.1 hb
    exact ⟨append_sound hs (of_mayAppend hok.2) hsame, .recorded _ rfl hsame rfl⟩
  | appendMarker k row =>
    obtain ⟨hok, heq⟩ := Option.ite_none_right_eq_some.1 h
    cases heq
    rw [Bool.and_eq_true, Option.isNone_iff_eq_none] at hok
    have hsame := fun b (hb : b ≠ row.terminalSessionId) => appendMarker_same hok.1 hb
    exact ⟨append_sound hs (of_mayAppend hok.2) hsame, .recorded _ rfl hsame rfl⟩

/-! ## Several purges of one session -/

/-- How many purges of the session have returned a summary. -/
def Sys.purgesOf (s : Sys) (id : SessionId) : Nat := s.returned.countP fun r => r.1 = id && isPurge r.2

structure Sys.Once (id : SessionId) (s : Sys) : Prop where
  sound : s.Sound
  atMost : s.purgesOf id ≤ 1
  /-- Once one has, nothing of the recording is left. -/
  cleared : 0 < s.purgesOf id → s.db.chunksOf id = [] ∧ s.db.markersOf id = []

theorem purgesOf_append {more : List (SessionId × Result)} (h : s'.returned = s.returned ++ more) (id : SessionId) :
    s'.purgesOf id = s.purgesOf id + more.countP fun r => r.1 = id && isPurge r.2 := by
  rw [Sys.purgesOf, h, List.countP_append]
  rfl

/-- Nothing new for the session. -/
theorem Sys.Once.same (hs : s.Once id) (hsound : s'.Sound) (hcount : s'.purgesOf id = s.purgesOf id)
    (hsame : SameRecording s.db s'.db id) : s'.Once id where
  sound := hsound
  atMost := hcount ▸ hs.atMost
  cleared := by
    intro hpos
    rw [hsame.1, hsame.2]
    exact hs.cleared (hcount ▸ hpos)

theorem step_once {ev : Event} (hs : s.Once id) (hev : ev.recordsFor ≠ some id) (h : s.step addDays ev = some s') :
    s'.Once id := by
  obtain ⟨hsound, heffect⟩ := step_ok hs.sound h
  cases heffect with
  | quiet more hdb hreturned hmore =>
    apply hs.same hsound
    · rw [purgesOf_append hreturned, List.countP_eq_zero.2, Nat.add_zero]
      intro r hr
      simp [hmore r hr]
    · rw [hdb]
      exact ⟨rfl, rfl⟩
  | recorded b hb hsame hreturned =>
    refine hs.same hsound (by rw [Sys.purgesOf, hreturned]; rfl) (hsame id ?_)
    rintro rfl
    exact hev hb
  | purged p w hcounted hdb hreturned =>
    have hcount := purgesOf_append hreturned id
    by_cases hid : p.input.terminalSessionId = id
    · subst hid
      -- The recording is still there, so no purge before this one returned a summary.
      have hzero : s.purgesOf p.input.terminalSessionId = 0 := by
        by_contra hpos
        obtain ⟨hchunks, hmarkers⟩ := hs.cleared (Nat.pos_of_ne_zero hpos)
        apply hcounted.1.some
        rw [hcounted.1.chunks, hcounted.1.markers, hchunks, hmarkers]
        exact ⟨rfl, rfl⟩
      rw [hzero] at hcount
      refine ⟨hsound, ?_, fun _ => hdb ▸ commit_clears hcounted⟩
      rw [hcount]
      simp [isPurge]
    · apply hs.same hsound
      · rw [hcount]
        simp [hid]
      · rw [hdb]
        exact commit_same hcounted (Ne.symm hid)

theorem run_once {evs : List Event} (h : run (Sys.step addDays) (.init db) evs = some s)
    (hrecords : ∀ ev ∈ evs, ev.recordsFor ≠ some id) : s.Once id := by
  have hg : Guarded (Sys.step addDays) (fun _ ev => ev.recordsFor ≠ some id) (.init db) evs := .of_forall hrecords
  exact hg.inv (Sys.Once id) (fun _ _ _ hs hev hstep => step_once hs hev hstep) h
    ⟨init_sound db, Nat.zero_le _, fun hpos => absurd hpos (Nat.lt_irrefl 0)⟩

theorem run_sound {evs : List Event} (h : run (Sys.step addDays) (.init db) evs = some s) : s.Sound :=
  run_inv Sys.Sound (fun _ _ _ hs hstep => (step_ok hs hstep).1) h (init_sound db)

/-- At any time, a step of a purge changes nothing, unless it is the commit of a whole purge. -/
theorem step_purges {ev : Event} (hs : s.Sound) (h : s.step addDays ev = some s') (hev : ev.recordsFor = none) :
    s'.db = s.db ∨ ∃ input summary, Purged input summary s.db s'.db ∧
      s'.returned = s.returned ++ [(input.terminalSessionId, .ok (some summary))] := by
  cases (step_ok hs h).2 with
  | quiet more hdb => exact .inl hdb
  | purged p w hcounted hdb hreturned => exact .inr ⟨p.input, p.summary, hdb ▸ commit_purged hcounted, hreturned⟩
  | recorded b hb =>
    rw [hev] at hb
    cases hb

/-- What a purge that returned a summary leaves for the next. -/
theorem purged_then {summary : PurgedRecordingSummary}
    (h : purgeForRetention addDays fails db input = ⟨db', .ret (.ok (some summary))⟩) :
    Purged input summary db db' ∧ input.retentionDays.toNat ≤ i32Max ∧
      db'.isRecorded input.terminalSessionId = false := by
  have hprogress := purge_progress addDays fails db input
  rw [h] at hprogress
  cases hprogress with
  | purged _ _ hpurged hchunks hmarkers =>
    refine ⟨hpurged, ?_, isRecorded_eq_false.2 ⟨hchunks, hmarkers⟩⟩
    by_contra hdays
    obtain ⟨err, herr⟩ := purge_unbounded addDays fails db hdays
    rw [herr] at h
    cases h

/-- Retention purges exactly what it lists, once. -/
theorem retention_purges_once (addDays : Time → Nat → Time) :
    -- A session is listed exactly when its purge returns a summary.
    (∀ (db : Db) (input : PurgeRecordingForRetention) (limit : UInt32),
      (db.eligibleRows addDays input.retentionDays.toNat input.now).length ≤ limit.toNat →
      ((∃ ids, listEligibleForRetention addDays none db input.retentionDays input.now limit = .ok ids ∧
          input.terminalSessionId ∈ ids) ↔
        ∃ summary db', purgeForRetention addDays allSucceed db input = ⟨db', .ret (.ok (some summary))⟩)) ∧
    -- Such a purge deletes the recording and counts it, and leaves nothing for another.
    (∀ (fails : Task → Option RepositoryError) (db db' : Db) (input : PurgeRecordingForRetention)
      (summary : PurgedRecordingSummary),
      purgeForRetention addDays fails db input = ⟨db', .ret (.ok (some summary))⟩ →
      Purged input summary db db' ∧
      (∀ days now limit ids, listEligibleForRetention addDays none db' days now limit = .ok ids →
        input.terminalSessionId ∉ ids) ∧
      ∀ now, purgeForRetention addDays allSucceed db' { input with now := now } = ⟨db', .ret (.ok none)⟩) ∧
    -- Of purges of one session at the same time at most one returns a summary.
    (∀ (db : Db) (evs : List Event) (s : Sys) (id : SessionId), run (Sys.step addDays) (.init db) evs = some s →
      (∀ ev ∈ evs, ev.recordsFor ≠ some id) → s.purgesOf id ≤ 1) ∧
    -- Their steps change nothing but by the commit of a whole purge.
    (∀ (db : Db) (evs : List Event) (ev : Event) (s s' : Sys), run (Sys.step addDays) (.init db) evs = some s →
      s.step addDays ev = some s' → ev.recordsFor = none →
      s'.db = s.db ∨ ∃ input summary, Purged input summary s.db s'.db ∧
        s'.returned = s.returned ++ [(input.terminalSessionId, .ok (some summary))]) ∧
    -- A statement that fails leaves the database as it was before the purge.
    (∀ (fails : Task → Option RepositoryError) (db db₁ : Db) (input : PurgeRecordingForRetention) (k : Nat) (t : Task)
      (err : RepositoryError), Out.drive addDays fails k ⟨db, input.enter⟩ = ⟨db₁, .await t⟩ → fails t = some err →
      purgeForRetention addDays fails db input = ⟨db, .ret (.error err)⟩) := by
  refine ⟨?_, ?_, ?_, ?_, ?_⟩
  · intro db input limit hlimit
    exact listed_iff_purged hlimit
  · intro fails db db' input summary h
    obtain ⟨hpurged, hdays, hnone⟩ := purged_then h
    refine ⟨hpurged, ?_, ?_⟩
    · intro days now limit ids hlist hid
      obtain ⟨-, closedAt, hmem⟩ := of_mem_listed hlist hid
      rw [(mem_eligibleRows.1 hmem).2] at hnone
      cases hnone
    · intro now
      exact purge_unrecorded hdays hnone
  · intro db evs s id h hrecords
    exact (run_once h hrecords).atMost
  · intro db evs ev s s' h hstep hev
    exact step_purges (run_sound h) hstep hev
  · intro fails db db₁ input k t err hreached hfails
    exact purge_failed hreached hfails

/-- Days of 86400 seconds. -/
def daysLater (t : Time) (days : Nat) : Time := t + 86400 * days

/-- Session 1 was closed at time 0, session 2 is open. -/
def twoRecordings : Db where
  sessions := AList.insert 1 ⟨some 0⟩ (AList.insert 2 ⟨none⟩ ∅)
  chunks := AList.insert 10 ⟨1, 5⟩ (AList.insert 11 ⟨1, 7⟩ (AList.insert 12 ⟨2, 9⟩ ∅))
  markers := AList.insert 20 ⟨1⟩ (AList.insert 21 ⟨2⟩ ∅)
  audits := []

def expired : PurgeRecordingForRetention := ⟨1, 30, 3000000⟩

/-- A second purge of the session waits for the first; meanwhile the open session goes on recording. -/
def overlapping : List Event :=
  [.call expired, .call expired, .resume 0 none, .resume 1 none, .resume 0 none, .resume 0 none, .resume 0 none,
    .appendChunk 13 ⟨2, 3⟩, .resume 0 none, .resume 0 none, .resume 0 none, .resume 0 none, .resume 1 none,
    .resume 1 none, .resume 1 none]

/-- The audit row cannot be written. -/
def auditFails : Task → Option RepositoryError
  | .insertAudit _ _ => some (.database "audit_event: connection closed")
  | _ => none

theorem retention_purges_once_overlapping :
    (∃ ids, listEligibleForRetention daysLater none twoRecordings 30 3000000 10 = .ok ids ∧ 1 ∈ ids) ∧
    (∃ db', purgeForRetention daysLater allSucceed twoRecordings expired =
        ⟨db', .ret (.ok (some ⟨1, 2, 1, 12, 0, 3000000⟩))⟩ ∧
      Purged expired ⟨1, 2, 1, 12, 0, 3000000⟩ twoRecordings db' ∧
      purgeForRetention daysLater allSucceed db' { expired with now := 4000000 } = ⟨db', .ret (.ok none)⟩) ∧
    (∃ s, run (Sys.step daysLater) (.init twoRecordings) overlapping = some s ∧ s.returned =
        [(1, .ok (some ⟨1, 2, 1, 12, 0, 3000000⟩)), (1, .ok none)] ∧ s.purgesOf 1 ≤ 1) ∧
    ∃ err, purgeForRetention daysLater auditFails twoRecordings expired = ⟨twoRecordings, .ret (.error err)⟩ := by
  obtain ⟨hlisted, hpurged, honce, -, hfailed⟩ := retention_purges_once daysLater
  refine ⟨?_, ?_, ?_, ?_⟩
  · exact (hlisted twoRecordings expired 10 (by decide)).2 ⟨_, _, rfl⟩
  · obtain ⟨heffect, -, hagain⟩ := hpurged allSucceed twoRecordings _ expired ⟨1, 2, 1, 12, 0, 3000000⟩ rfl
    exact ⟨_, rfl, heffect, hagain 4000000⟩
  · exact ⟨_, rfl, rfl, honce twoRecordings overlapping _ 1 rfl (by decide)⟩
  · exact ⟨_, hfailed auditFails twoRecordings _ expired 6 _ _ rfl rfl⟩

end RelayTerm.Retention
