import RelayTerm.Retention.Steps
/-!
# A purge alone, and the listing

A purge that nobody interferes with returns after eight await points at most,
and has then deleted the whole recording or changed nothing. It returns a summary
for the sessions the listing finds, although it asks in stages what the listing
asks in one statement.
-/
open RelayTerm.Lib

namespace RelayTerm.Retention

variable {addDays : Time → Nat → Time} {fails : Task → Option RepositoryError} {db db' : Db} {t t' : Task} {o : Out}
  {input : PurgeRecordingForRetention} {id : SessionId}

/-! ## A purge alone -/

@[simp] theorem drive_ret (n : Nat) (db : Db) (r : Result) : Out.drive addDays fails n ⟨db, .ret r⟩ = ⟨db, .ret r⟩ := by
  cases n <;> rfl

theorem drive_add (addDays : Time → Nat → Time) (fails : Task → Option RepositoryError) (m n : Nat) (o : Out) :
    Out.drive addDays fails (m + n) o = Out.drive addDays fails n (Out.drive addDays fails m o) := by
  induction m generalizing o with
  | zero => rw [Nat.zero_add]; rfl
  | succ m ih =>
    obtain ⟨db, next⟩ := o
    cases next with
    | ret r => rw [drive_ret, drive_ret, drive_ret]
    | await t =>
      rw [Nat.succ_add]
      exact ih _

/-- What every await point keeps, the purge keeps. -/
theorem drive_inv (P : Out → Prop) (hstep : ∀ db t fail, P ⟨db, .await t⟩ → P (db.resume addDays fail t)) (n : Nat)
    (h : P o) : P (Out.drive addDays fails n o) := by
  induction n generalizing o with
  | zero => exact h
  | succ n ih =>
    obtain ⟨db, next⟩ := o
    cases next with
    | ret r => exact h
    | await t => exact ih (hstep db t (fails t) h)

/-- Enough await points for what is left lead to the end. -/
theorem drive_returns (n : Nat) (hn : t.left ≤ n) :
    ∃ db' r, Out.drive addDays fails n ⟨db, .await t⟩ = ⟨db', .ret r⟩ := by
  induction n generalizing t with
  | zero => cases t <;> cases hn
  | succ n ih =>
    show ∃ db' r, Out.drive addDays fails n (db.resume addDays (fails t) t) = ⟨db', .ret r⟩
    generalize db.resume addDays (fails t) t = o, resume_effect addDays db (fails t) t = ho
    cases ho with
    | failed err => exact ⟨_, _, drive_ret n _ _⟩
    | nothing => exact ⟨_, _, drive_ret n _ _⟩
    | committed p w => exact ⟨_, _, drive_ret n _ _⟩
    | advanced t' hadv =>
      apply ih
      have := hadv.left
      omega

theorem purge_returns (addDays : Time → Nat → Time) (fails : Task → Option RepositoryError) (db : Db)
    (input : PurgeRecordingForRetention) : ∃ db' r, purgeForRetention addDays fails db input = ⟨db', .ret r⟩ := by
  unfold purgeForRetention PurgeRecordingForRetention.enter
  split
  · exact drive_returns 8 (Nat.le_refl _)
  · exact ⟨_, _, drive_ret 8 _ _⟩

/-- How far a purge has come, and what it has done to the database. -/
inductive Progress (input : PurgeRecordingForRetention) (db : Db) : Out → Prop where
  | underWay (t : Task) (hinput : t.input = input) (hcounted : t.Counted db) : Progress input db ⟨db, .await t⟩
  | failed (err : RepositoryError) : Progress input db ⟨db, .ret (.error err)⟩
  | nothing : Progress input db ⟨db, .ret (.ok none)⟩
  | purged (db' : Db) (summary : PurgedRecordingSummary) (h : Purged input summary db db')
      (hchunks : db'.chunksOf input.terminalSessionId = []) (hmarkers : db'.markersOf input.terminalSessionId = []) :
      Progress input db ⟨db', .ret (.ok (some summary))⟩

theorem Advance.input_eq (h : Advance addDays db t t') : t'.input = t.input := by
  cases h <;> rfl

theorem enter_progress (input : PurgeRecordingForRetention) (db : Db) : Progress input db ⟨db, input.enter⟩ := by
  unfold PurgeRecordingForRetention.enter
  split
  · exact .underWay _ rfl trivial
  · exact .failed _

theorem drive_progress (addDays : Time → Nat → Time) (fails : Task → Option RepositoryError) (n : Nat)
    (h : Progress input db o) : Progress input db (Out.drive addDays fails n o) := by
  apply drive_inv (Progress input db) ?_ n h
  intro db₁ t fail hprogress
  cases hprogress with
  | underWay _ hinput hcounted =>
    generalize db.resume addDays fail t = o, resume_effect addDays db fail t = ho
    cases ho with
    | failed err => exact .failed err
    | nothing => exact .nothing
    | advanced t' hadv => exact .underWay t' (hadv.input_eq.trans hinput) (hadv.counted hcounted)
    | committed p w heq =>
      subst heq
      obtain rfl : p.input = input := hinput
      obtain ⟨hchunks, hmarkers⟩ := commit_clears hcounted
      exact .purged _ _ (commit_purged hcounted) hchunks hmarkers

theorem purge_progress (addDays : Time → Nat → Time) (fails : Task → Option RepositoryError) (db : Db)
    (input : PurgeRecordingForRetention) : Progress input db (purgeForRetention addDays fails db input) :=
  drive_progress addDays fails 8 (enter_progress input db)

/-- A statement that fails ends the purge, and nothing has changed. -/
theorem purge_failed {k : Nat} {db₁ : Db} {err : RepositoryError}
    (hreached : Out.drive addDays fails k ⟨db, input.enter⟩ = ⟨db₁, .await t⟩) (hfails : fails t = some err) :
    purgeForRetention addDays fails db input = ⟨db, .ret (.error err)⟩ := by
  obtain rfl : db₁ = db := by
    have hprogress := drive_progress addDays fails k (enter_progress input db)
    rw [hreached] at hprogress
    cases hprogress
    rfl
  have hk : k < 8 := by
    by_contra hle
    obtain ⟨db', r, hret⟩ := purge_returns addDays fails db₁ input
    have hstill := drive_add addDays fails 8 (k - 8) ⟨db₁, input.enter⟩
    rw [purgeForRetention] at hret
    rw [Nat.add_sub_cancel' (Nat.not_lt.1 hle), hreached, hret, drive_ret] at hstill
    cases hstill
  calc purgeForRetention addDays fails db₁ input
      = Out.drive addDays fails (k + (1 + (7 - k))) ⟨db₁, input.enter⟩ := by
        rw [purgeForRetention, show k + (1 + (7 - k)) = 8 by omega]
    _ = Out.drive addDays fails (7 - k) (db₁.resume addDays (fails t) t) := by
        rw [drive_add, hreached, drive_add]
        rfl
    _ = ⟨db₁, .ret (.error err)⟩ := by
        rw [hfails]
        exact drive_ret _ _ _

/-! ## Which recordings have expired -/

theorem selectClosedAt_eq_some {closedAt : Time} : db.selectClosedAt addDays input = some closedAt ↔
    ∃ session, db.sessions.lookup input.terminalSessionId = some session ∧ session.closedAt = some closedAt ∧
      addDays closedAt input.retentionDays.toNat ≤ input.now := by
  simp [Db.selectClosedAt, Option.bind_eq_some_iff, Option.filter_eq_some_iff]

theorem mem_eligibleRows {days : Nat} {now closedAt : Time} : (id, closedAt) ∈ db.eligibleRows addDays days now ↔
    (∃ session, db.sessions.lookup id = some session ∧ session.closedAt = some closedAt ∧
      addDays closedAt days ≤ now) ∧ db.isRecorded id = true := by
  simp only [Db.eligibleRows, List.mem_filterMap, Option.map_eq_some_iff, Option.filter_eq_some_iff, Bool.and_eq_true,
    decide_eq_true_eq, Prod.mk.injEq]
  constructor
  · rintro ⟨⟨i, session⟩, hmem, c, ⟨hclosed, hdue, hrec⟩, rfl, rfl⟩
    exact ⟨⟨session, AList.mem_lookup_iff.2 hmem, hclosed, hdue⟩, hrec⟩
  · rintro ⟨⟨session, hlookup, hclosed, hdue⟩, hrec⟩
    exact ⟨⟨id, session⟩, AList.mem_lookup_iff.1 hlookup, closedAt, ⟨hclosed, hdue, hrec⟩, rfl, rfl⟩

/-- The purge's `WHERE` clause and its counts ask what the listing asks. -/
theorem eligible_iff : (∃ closedAt, (input.terminalSessionId, closedAt) ∈
      db.eligibleRows addDays input.retentionDays.toNat input.now) ↔
    (∃ closedAt, db.selectClosedAt addDays input = some closedAt) ∧ db.isRecorded input.terminalSessionId = true := by
  simp only [mem_eligibleRows, selectClosedAt_eq_some]
  exact exists_and_right

theorem isRecorded_eq_false : db.isRecorded id = false ↔ db.chunksOf id = [] ∧ db.markersOf id = [] := by
  rw [Db.isRecorded, Bool.or_eq_false_iff, Registry.any_eq_false_iff, Registry.any_eq_false_iff]
  rfl

theorem retentionDaysI32_ok {days : UInt32} (h : days.toNat ≤ i32Max) : retentionDaysI32 days = .ok days.toNat :=
  if_pos h

theorem list_ok {days : UInt32} (hdays : days.toNat ≤ i32Max) (now : Time) (limit : UInt32) :
    listEligibleForRetention addDays none db days now limit =
      .ok ((((db.eligibleRows addDays days.toNat now).insertionSort fun a b => a.2 ≤ b.2).take
        (max limit.toNat 1)).map (·.1)) := by
  simp only [listEligibleForRetention, retentionDaysI32_ok hdays]
  rfl

theorem list_unbounded {days : UInt32} (hdays : ¬ days.toNat ≤ i32Max) (fail : Option RepositoryError) (now : Time)
    (limit : UInt32) (ids : List SessionId) : listEligibleForRetention addDays fail db days now limit ≠ .ok ids := by
  simp only [listEligibleForRetention, retentionDaysI32, if_neg hdays]
  rintro ⟨⟩

/-- Whatever the limit, the listing has only rows its `WHERE` clause finds. -/
theorem of_mem_listed {days : UInt32} {now : Time} {limit : UInt32} {ids : List SessionId}
    (h : listEligibleForRetention addDays none db days now limit = .ok ids) (hid : id ∈ ids) :
    days.toNat ≤ i32Max ∧ ∃ closedAt, (id, closedAt) ∈ db.eligibleRows addDays days.toNat now := by
  by_cases hdays : days.toNat ≤ i32Max
  · rw [list_ok hdays] at h
    cases h
    obtain ⟨⟨_, closedAt⟩, hmem, rfl⟩ := List.mem_map.1 hid
    exact ⟨hdays, closedAt, (List.mem_insertionSort _).1 (List.mem_of_mem_take hmem)⟩
  · exact absurd h (list_unbounded hdays none now limit ids)

/-- With room for all of them, it has all of them. -/
theorem mem_listed {days : UInt32} {now closedAt : Time} {limit : UInt32} (hdays : days.toNat ≤ i32Max)
    (hlimit : (db.eligibleRows addDays days.toNat now).length ≤ limit.toNat)
    (hmem : (id, closedAt) ∈ db.eligibleRows addDays days.toNat now) :
    ∃ ids, listEligibleForRetention addDays none db days now limit = .ok ids ∧ id ∈ ids := by
  refine ⟨_, list_ok hdays now limit, List.mem_map.2 ⟨(id, closedAt), ?_, rfl⟩⟩
  rw [List.take_of_length_le (by rw [List.length_insertionSort]; omega)]
  exact (List.mem_insertionSort _).2 hmem

/-! ## When a purge returns a summary -/

/-- No statement fails. -/
def allSucceed : Task → Option RepositoryError := fun _ => none

theorem purge_unselected (hdays : input.retentionDays.toNat ≤ i32Max) (hrow : db.selectClosedAt addDays input = none) :
    purgeForRetention addDays allSucceed db input = ⟨db, .ret (.ok none)⟩ := by
  simp only [purgeForRetention, PurgeRecordingForRetention.enter, retentionDaysI32_ok hdays, Out.drive, allSucceed,
    Db.resume, Db.perform, hrow]

/-- With the row locked, six statements are left. -/
theorem purge_locked {closedAt : Time} (hdays : input.retentionDays.toNat ≤ i32Max)
    (hrow : db.selectClosedAt addDays input = some closedAt) : purgeForRetention addDays allSucceed db input =
      Out.drive addDays allSucceed 6 ⟨db, .await (.countChunks input closedAt)⟩ := by
  rw [purgeForRetention, PurgeRecordingForRetention.enter, retentionDaysI32_ok hdays]
  simp only [Out.drive, allSucceed, Db.resume, Db.perform, hrow]

theorem purge_unrecorded (hdays : input.retentionDays.toNat ≤ i32Max)
    (hnone : db.isRecorded input.terminalSessionId = false) :
    purgeForRetention addDays allSucceed db input = ⟨db, .ret (.ok none)⟩ := by
  obtain ⟨hchunks, hmarkers⟩ := isRecorded_eq_false.1 hnone
  cases hrow : db.selectClosedAt addDays input with
  | none => exact purge_unselected hdays hrow
  | some closedAt =>
    rw [purge_locked hdays hrow]
    simp [Out.drive, allSucceed, Db.resume, Db.perform, Db.counted, hchunks, hmarkers]

theorem purge_recorded {closedAt : Time} (hdays : input.retentionDays.toNat ≤ i32Max)
    (hrow : db.selectClosedAt addDays input = some closedAt) (hrec : db.isRecorded input.terminalSessionId = true) :
    ∃ summary db', purgeForRetention addDays allSucceed db input = ⟨db', .ret (.ok (some summary))⟩ := by
  have hsome : ¬ ((db.chunksOf input.terminalSessionId).length = 0 ∧
      (db.markersOf input.terminalSessionId).length = 0) := by
    rintro ⟨hchunks, hmarkers⟩
    have hnone := isRecorded_eq_false.2 ⟨List.eq_nil_of_length_eq_zero hchunks, List.eq_nil_of_length_eq_zero hmarkers⟩
    rw [hrec] at hnone
    cases hnone
  rw [purge_locked hdays hrow]
  simp only [Out.drive, allSucceed, Db.resume, Db.perform, Db.counted, if_neg hsome]
  exact ⟨_, _, rfl⟩

theorem purge_unbounded (addDays : Time → Nat → Time) (fails : Task → Option RepositoryError) (db : Db)
    (hdays : ¬ input.retentionDays.toNat ≤ i32Max) :
    ∃ err, purgeForRetention addDays fails db input = ⟨db, .ret (.error err)⟩ := by
  simp only [purgeForRetention, PurgeRecordingForRetention.enter, retentionDaysI32, if_neg hdays, drive_ret]
  exact ⟨_, rfl⟩

/-- Listed, if there is room, exactly when a purge in the same state returns a summary. -/
theorem listed_iff_purged {limit : UInt32}
    (hlimit : (db.eligibleRows addDays input.retentionDays.toNat input.now).length ≤ limit.toNat) :
    (∃ ids, listEligibleForRetention addDays none db input.retentionDays input.now limit = .ok ids ∧
        input.terminalSessionId ∈ ids) ↔
      ∃ summary db', purgeForRetention addDays allSucceed db input = ⟨db', .ret (.ok (some summary))⟩ := by
  constructor
  · rintro ⟨ids, hlist, hid⟩
    obtain ⟨hdays, hrow⟩ := of_mem_listed hlist hid
    obtain ⟨⟨closedAt, hclosed⟩, hrec⟩ := eligible_iff.1 hrow
    exact purge_recorded hdays hclosed hrec
  · rintro ⟨summary, db', hpurge⟩
    by_cases hdays : input.retentionDays.toNat ≤ i32Max
    · -- A purge that finds no row, or nothing to delete, returns `None`.
      have hrow : ∃ closedAt, db.selectClosedAt addDays input = some closedAt := by
        cases hrow : db.selectClosedAt addDays input with
        | some closedAt => exact ⟨closedAt, rfl⟩
        | none =>
          rw [purge_unselected hdays hrow] at hpurge
          cases hpurge
      have hrec : db.isRecorded input.terminalSessionId = true := by
        cases hrec : db.isRecorded input.terminalSessionId with
        | true => rfl
        | false =>
          rw [purge_unrecorded hdays hrec] at hpurge
          cases hpurge
      obtain ⟨closedAt, hmem⟩ := eligible_iff.2 ⟨hrow, hrec⟩
      exact mem_listed hdays hlimit hmem
    · obtain ⟨err, herr⟩ := purge_unbounded addDays allSucceed db hdays
      rw [herr] at hpurge
      cases hpurge

end RelayTerm.Retention
