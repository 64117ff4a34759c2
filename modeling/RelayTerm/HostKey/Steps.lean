import RelayTerm.HostKey.Requests
/-!
# What one step can do

Inversion of the repository's statements: which of them write, and what they
know of the rows and of the keys other transactions have reserved.
-/
open RelayTerm.Lib

namespace RelayTerm.HostKey

variable {db : Db} {env : Env} {others : Registry TaskId Task} {t : Task} {o : Out} {s s' : Sys} {tid : TaskId}
variable {rows : List KnownHostEntry} {host : HostId}

/-! ## What a statement can do -/

/-- A statement leaves the rows alone and reserves no new key; or it inserts,
stamps or commits. -/
inductive Effect (db : Db) (others : Registry TaskId Task) : Task → Out → Prop where
  | quiet (t : Task) (next : Next) (hres : ∀ t', next = .await t' → t'.reserves = none ∨ t'.reserves = t.reserves)
      (hcreate : ∀ input, next ≠ .await (.create input)) : Effect db others t ⟨db, next⟩
  | inserted (input : ReplaceActivePin) (now : Time) (old : EntryId)
      (free : Db.isReserved others input.hostId input.newFingerprintSha256 = false)
      (absent : findByFingerprint db.rows input.hostId input.newFingerprintSha256 = none) :
      Effect db others (.replaceInsert input now old)
        ⟨{ db with nextId := db.nextId + 1 }, .await (.replaceUpdate input now old db.nextId)⟩
  | created (input : CreateKnownHostEntry) (now : Time) (reply : Reply)
      (free : Db.isReserved others input.hostId input.fingerprintSha256 = false)
      (absent : findByFingerprint db.rows input.hostId input.fingerprintSha256 = none) :
      Effect db others (.create input)
        ⟨{ db with rows := db.rows ++ [input.row db.nextId now none], nextId := db.nextId + 1 }, .ret reply⟩
  | recorded (input : CreateKnownHostEntry) (now : Time) (reply : Reply)
      (free : Db.isReserved others input.hostId input.fingerprintSha256 = false)
      (absent : findByFingerprint db.rows input.hostId input.fingerprintSha256 = none) :
      Effect db others (.recordTrusted input)
        ⟨{ db with rows := db.rows ++ [input.row db.nextId now (some now)], nextId := db.nextId + 1 }, .ret reply⟩
  | stamped (input : CreateKnownHostEntry) (now : Time) (reply : Reply) (existing : KnownHostEntry)
      (found : findByFingerprint db.rows input.hostId input.fingerprintSha256 = some existing)
      (unrevoked : existing.revokedAt.isSome = false) :
      Effect db others (.recordTrusted input)
        ⟨{ db with
            rows := db.rows.map fun e =>
              if e.isAt input.hostId input.fingerprintSha256 then e.stampTrusted now else e
            nextId := db.nextId + 1 }, .ret reply⟩
  | committed (input : ReplaceActivePin) (now : Time) (old new : EntryId) (reply : Reply) :
      Effect db others (.replaceCommit input now old new) ⟨db.commit input now old new, .ret reply⟩

theorem Effect.ret (db : Db) (others : Registry TaskId Task) (t : Task) (r : Reply) :
    Effect db others t (db.ret r) :=
  .quiet t (.ret r) (by simp) (by simp)

/-- Going on to a task that has reserved nothing. -/
theorem Effect.await {t' : Task} (hres : t'.reserves = none) (hcreate : ∀ input, t' ≠ .create input) :
    Effect db others t (db.await t') := by
  refine .quiet t (.await t') (fun t₁ h => ?_) (fun input h => hcreate input (Next.await.inj h))
  obtain rfl := Next.await.inj h
  exact .inl hres

/-- Going on within a transaction. -/
theorem Effect.carry {t' : Task} (hres : t'.reserves = t.reserves) (hcreate : ∀ input, t' ≠ .create input) :
    Effect db others t (db.await t') := by
  refine .quiet t (.await t') (fun t₁ h => ?_) (fun input h => hcreate input (Next.await.inj h))
  obtain rfl := Next.await.inj h
  exact .inr hres

theorem insertRow_ok {row : KnownHostEntry} {rows' : List KnownHostEntry} (h : insertRow rows row = .ok rows') :
    findByFingerprint rows row.hostId row.fingerprintSha256 = none ∧ rows' = rows ++ [row] := by
  unfold insertRow at h
  split at h
  · simp at h
  · next habsent => exact ⟨habsent, (Except.ok.inj h).symm⟩

theorem probed_effect (route : Route) (known : List KnownHostEntry) :
    Effect db others t (db.probed env host known route) := by
  cases route with
  | preflight => exact .ret db others t _
  | trust expected =>
    simp only [Db.probed]
    split
    · exact .await rfl (by simp)
    · exact .ret db others t _
  | replace user req =>
    simp only [Db.probed]
    split
    · exact .await rfl (by simp)
    · exact .ret db others t _

theorem runCreate_effect {input : CreateKnownHostEntry}
    (free : Db.isReserved others input.hostId input.fingerprintSha256 = false) :
    Effect db others (.create input) (db.runCreate env input) := by
  unfold Db.runCreate
  split
  · next rows' hins =>
    obtain ⟨habsent, rfl⟩ := insertRow_ok hins
    exact .created input env.now _ free habsent
  · exact .ret db others _ _

theorem runRecordTrusted_effect {input : CreateKnownHostEntry}
    (free : Db.isReserved others input.hostId input.fingerprintSha256 = false) :
    Effect db others (.recordTrusted input) (db.runRecordTrusted env input) := by
  unfold Db.runRecordTrusted
  split
  · next row rows' hrec =>
    unfold recordTrusted at hrec
    split at hrec
    · next habsent =>
      obtain ⟨-, rfl⟩ := Prod.mk.inj (Except.ok.inj hrec)
      exact .recorded input env.now _ free habsent
    · next existing hfound =>
      split at hrec
      · simp at hrec
      · next hunrevoked =>
        obtain ⟨-, rfl⟩ := Prod.mk.inj (Except.ok.inj hrec)
        exact .stamped input env.now _ existing hfound (by simpa using hunrevoked)
  · exact .ret db others _ _

theorem runInsert_effect {input : ReplaceActivePin} {now : Time} {old : EntryId}
    (free : Db.isReserved others input.hostId input.newFingerprintSha256 = false) :
    Effect db others (.replaceInsert input now old) (db.runInsert input now old) := by
  unfold Db.runInsert
  split
  · next rows' hins => exact .inserted input now old free (insertRow_ok hins).1
  · exact .ret db others _ _

theorem resume_effect (h : db.resume env others t = some o) : Effect db others t o := by
  unfold Db.resume at h
  split_ifs at h with hok hwait
  · obtain rfl := Option.some.inj h
    exact .ret db others t _
  · have hwait : db.waits others t = false := by simpa using hwait
    cases t with
    | resolve route => obtain rfl := Option.some.inj h; exact .await rfl (by simp)
    | list route host => obtain rfl := Option.some.inj h; exact .await rfl (by simp)
    | probe route host known => obtain rfl := Option.some.inj h; exact probed_effect route known
    | create input => obtain rfl := Option.some.inj h; exact runCreate_effect hwait
    | recordTrusted input =>
      obtain rfl := Option.some.inj h
      exact runRecordTrusted_effect (Bool.or_eq_false_iff.1 hwait).1
    | replaceBegin input => obtain rfl := Option.some.inj h; exact .await rfl (by simp)
    | replaceLock input now =>
      simp only [Db.perform, Db.runLock] at h
      split at h
      · split at h
        · simp at h
        · obtain rfl := Option.some.inj h; exact .await rfl (by simp)
      · obtain rfl := Option.some.inj h; exact .ret db others _ _
    | replaceCheck input now old =>
      obtain rfl := Option.some.inj h
      unfold Db.runCheck
      split
      · exact .await rfl (by simp)
      · exact .ret db others _ _
    | replaceInsert input now old => obtain rfl := Option.some.inj h; exact runInsert_effect hwait
    | replaceUpdate input now old new =>
      obtain rfl := Option.some.inj h
      unfold Db.runUpdate
      split
      · exact .carry rfl (by simp)
      · exact .ret db others _ _
    | replaceAuditRevoked input now old new => obtain rfl := Option.some.inj h; exact .carry rfl (by simp)
    | replaceAuditAccepted input now old new => obtain rfl := Option.some.inj h; exact .carry rfl (by simp)
    | replaceCommit input now old new => obtain rfl := Option.some.inj h; exact .committed input now old new _

/-! ## The task pool -/

/-- A resumed task is in the pool and its statement did not wait. -/
theorem step_resume (h : s.step (.resume tid env) = some s') :
    ∃ t o, s.tasks.lookup tid = some t ∧ s.db.resume env (s.tasks.erase tid) t = some o ∧ s' = s.settle tid o := by
  obtain ⟨t, ht, hrest⟩ := Option.bind_eq_some_iff.1 h
  obtain ⟨o, ho, rfl⟩ := Option.map_eq_some_iff.1 hrest
  exact ⟨t, o, ht, ho, rfl⟩

theorem settle_lookup {i : TaskId} :
    (s.settle tid o).tasks.lookup i = some t ↔
      (i = tid ∧ o.next = .await t) ∨ (i ≠ tid ∧ s.tasks.lookup i = some t) := by
  obtain ⟨db', next⟩ := o
  cases next with
  | await t' => simp [Sys.settle, Registry.lookup_insert_iff]
  | ret r => simp [Sys.settle, Registry.lookup_erase_iff]

end RelayTerm.HostKey
