import RelayTerm.HostKey.Pins
/-!
# Revocation is permanent

Nothing touches a revoked row again. The upsert of `record_trusted` skips it,
the unique index keeps a second row of its key out, and a replace revokes the
row it has locked, which was unrevoked then and which nobody else can have
revoked since. The three readers of the rows, the two sets of accepted pins and
the classifier, leave revoked rows out.
-/
open RelayTerm.Lib

namespace RelayTerm.HostKey

variable {db : Db} {env : Env} {others : Registry TaskId Task} {t t' : Task} {o : Out} {s s' : Sys} {tid : TaskId}
variable {rows : List KnownHostEntry} {nextId nextId' : EntryId} {e row : KnownHostEntry}

/-! ## Rows and their two keys -/

/-- The key of the unique index. -/
def KnownHostEntry.key (e : KnownHostEntry) : HostId × String := (e.hostId, e.fingerprintSha256)

theorem isAt_iff {host : HostId} {fingerprint : String} :
    e.isAt host fingerprint = true ↔ e.key = (host, fingerprint) := by
  simp [KnownHostEntry.isAt, KnownHostEntry.key]

theorem key_not_mem {host : HostId} {fingerprint : String} (h : findByFingerprint rows host fingerprint = none) :
    (host, fingerprint) ∉ rows.map (·.key) := by
  intro hmem
  obtain ⟨e, he, hkey⟩ := List.mem_map.1 hmem
  exact List.find?_eq_none.1 h e he (isAt_iff.2 hkey)

theorem findByFingerprint_some {host : HostId} {fingerprint : String}
    (h : findByFingerprint rows host fingerprint = some e) : e ∈ rows ∧ e.key = (host, fingerprint) := by
  unfold findByFingerprint at h
  exact ⟨List.mem_of_find?_eq_some h, isAt_iff.1 (by simpa using List.find?_some h)⟩

/-- The ids are distinct and already given out, and the index holds. -/
structure Keyed (rows : List KnownHostEntry) (nextId : EntryId) : Prop where
  ids : (rows.map (·.id)).Nodup
  lt : ∀ e ∈ rows, e.id < nextId
  keys : (rows.map (·.key)).Nodup

theorem Keyed.eq_of_id (h : Keyed rows nextId) {e e' : KnownHostEntry} (he : e ∈ rows) (he' : e' ∈ rows)
    (hid : e.id = e'.id) : e = e' := List.inj_on_of_nodup_map h.ids he he' hid

theorem Keyed.eq_of_key (h : Keyed rows nextId) {e e' : KnownHostEntry} (he : e ∈ rows) (he' : e' ∈ rows)
    (hkey : e.key = e'.key) : e = e' := List.inj_on_of_nodup_map h.keys he he' hkey

theorem Keyed.mono (h : Keyed rows nextId) (hle : nextId ≤ nextId') : Keyed rows nextId' :=
  ⟨h.ids, fun e he => Nat.lt_of_lt_of_le (h.lt e he) hle, h.keys⟩

/-- An update that leaves both keys of each row alone. -/
theorem Keyed.map (h : Keyed rows nextId) {g : KnownHostEntry → KnownHostEntry} (hid : ∀ e, (g e).id = e.id)
    (hkey : ∀ e, (g e).key = e.key) : Keyed (rows.map g) nextId := by
  refine ⟨?_, fun e he => ?_, ?_⟩
  · simpa [Function.comp_def, hid] using h.ids
  · obtain ⟨e', he', rfl⟩ := List.mem_map.1 he
    rw [hid]
    exact h.lt e' he'
  · simpa [Function.comp_def, hkey] using h.keys

theorem Keyed.append (h : Keyed rows nextId) (hlt : row.id < nextId) (hid : row.id ∉ rows.map (·.id))
    (hkey : row.key ∉ rows.map (·.key)) : Keyed (rows ++ [row]) nextId := by
  refine ⟨?_, fun e he => ?_, ?_⟩
  · simpa [List.concat_eq_append] using h.ids.concat hid
  · rcases List.mem_append.1 he with he | he
    · exact h.lt e he
    · obtain rfl := List.mem_singleton.1 he
      exact hlt
  · simpa [List.concat_eq_append] using h.keys.concat hkey

/-- The only row of its key. -/
theorem Keyed.filter_isAt (h : Keyed rows nextId) (he : e ∈ rows) :
    rows.filter (·.isAt e.hostId e.fingerprintSha256) = [e] := by
  have hnodup : rows.Nodup := h.keys.of_map
  have hsame : rows.filter (·.isAt e.hostId e.fingerprintSha256) = rows.filter (· == e) := by
    refine List.filter_congr fun e' he' => ?_
    rw [Bool.eq_iff_iff, isAt_iff, beq_iff_eq]
    exact ⟨fun hkey => h.eq_of_key he' he hkey, fun hee => hee ▸ rfl⟩
  rw [hsame, List.filter_beq, List.count_eq_one_of_mem hnodup he]
  rfl

/-! ## What a transaction holds -/

/-- The id of the row the task's transaction has inserted. -/
def Task.newId : Task → Option EntryId
  | .replaceUpdate _ _ _ new | .replaceAuditRevoked _ _ _ new | .replaceAuditAccepted _ _ _ new
  | .replaceCommit _ _ _ new => some new
  | _ => none

/-- What the transaction of a task relies on: the row it inserted is not there
yet, and the row it locked is there and unrevoked. -/
structure Task.Holds (rows : List KnownHostEntry) (nextId : EntryId) (t : Task) : Prop where
  absent : ∀ key, t.reserves = some key → key ∉ rows.map (·.key)
  fresh : ∀ id, t.newId = some id → id < nextId ∧ id ∉ rows.map (·.id)
  locked : ∀ old, t.locks = some old → ∃ e ∈ rows, e.id = old ∧ e.revokedAt = none

/-- Outside a transaction there is nothing to rely on. -/
theorem Task.Holds.outside (hres : t.reserves = none) (hnew : t.newId = none) (hlock : t.locks = none) :
    t.Holds rows nextId := by
  refine ⟨?_, ?_, ?_⟩
  · simp [hres]
  · simp [hnew]
  · simp [hlock]

theorem Task.Holds.mono (h : t.Holds rows nextId) (hle : nextId ≤ nextId') : t.Holds rows nextId' :=
  ⟨h.absent, fun id hid => ⟨Nat.lt_of_lt_of_le (h.fresh id hid).1 hle, (h.fresh id hid).2⟩, h.locked⟩

/-- An update that leaves the keys alone and does not revoke the locked row. -/
theorem Task.Holds.map (h : t.Holds rows nextId) {g : KnownHostEntry → KnownHostEntry} (hid : ∀ e, (g e).id = e.id)
    (hkey : ∀ e, (g e).key = e.key) (hkeep : ∀ e, t.locks = some e.id → (g e).revokedAt = e.revokedAt) :
    t.Holds (rows.map g) nextId := by
  refine ⟨fun key hres => ?_, fun id hnew => ?_, fun old hlock => ?_⟩
  · simpa [Function.comp_def, hkey] using h.absent key hres
  · simpa [Function.comp_def, hid] using h.fresh id hnew
  · obtain ⟨e, he, rfl, hrevoked⟩ := h.locked old hlock
    exact ⟨g e, List.mem_map_of_mem he, hid e, (hkeep e hlock).trans hrevoked⟩

theorem Task.Holds.append (h : t.Holds rows nextId) (hkey : t.reserves ≠ some row.key) (hid : t.newId ≠ some row.id) :
    t.Holds (rows ++ [row]) nextId := by
  refine ⟨fun key hres => ?_, fun id hnew => ?_, fun old hlock => ?_⟩
  · have hne : key ≠ row.key := fun heq => hkey (heq ▸ hres)
    simpa [hne] using h.absent key hres
  · have hne : id ≠ row.id := fun heq => hid (heq ▸ hnew)
    simpa [hne] using h.fresh id hnew
  · obtain ⟨e, he, hrest⟩ := h.locked old hlock
    exact ⟨e, List.mem_append_left _ he, hrest⟩

/-- How a task that goes on comes by what it holds. -/
inductive Carries (db : Db) (others : Registry TaskId Task) (t : Task) : Task → Prop where
  | outside (t' : Task) (hres : t'.reserves = none) (hnew : t'.newId = none) (hlock : t'.locks = none) :
      Carries db others t t'
  | within (t' : Task) (hres : t'.reserves = t.reserves) (hnew : t'.newId = t.newId) (hlock : t'.locks = t.locks) :
      Carries db others t t'
  | locked (input : ReplaceActivePin) (now : Time) (old : KnownHostEntry) (hmem : old ∈ db.rows)
      (unrevoked : old.revokedAt = none) (free : Db.isLocked others old.id = false) :
      Carries db others t (.replaceCheck input now old.id)
  | inserted (input : ReplaceActivePin) (now : Time) (old : EntryId) (ht : t = .replaceInsert input now old) :
      Carries db others t (.replaceUpdate input now old db.nextId)

theorem selectActive_some {host : HostId} {fingerprint : String} (h : selectActive rows host fingerprint = some e) :
    e ∈ rows ∧ e.revokedAt = none := by
  have hp := List.find?_some h
  simp only [KnownHostEntry.isActivePin, Bool.and_eq_true, Option.isNone_iff_eq_none] at hp
  exact ⟨List.mem_of_find?_eq_some h, hp.2.2⟩

/-- After its probe a request is not in a transaction. -/
theorem probed_outside {host : HostId} {known : List KnownHostEntry} {route : Route}
    (h : (db.probed env host known route).next = .await t') :
    t'.reserves = none ∧ t'.newId = none ∧ t'.locks = none := by
  cases route with
  | preflight => cases h
  | trust expected =>
    simp only [Db.probed] at h
    split at h <;> cases h
    exact ⟨rfl, rfl, rfl⟩
  | replace user req =>
    simp only [Db.probed] at h
    split at h <;> cases h
    exact ⟨rfl, rfl, rfl⟩

theorem resume_carries (h : db.resume env others t = some o) (hnext : o.next = .await t') :
    Carries db others t t' := by
  unfold Db.resume at h
  split_ifs at h with hok hwait
  · obtain rfl := Option.some.inj h
    cases hnext
  · cases t with
    | resolve route | list route host | replaceBegin input =>
      obtain rfl := Option.some.inj h
      cases hnext
      exact .outside _ rfl rfl rfl
    | probe route host known =>
      obtain rfl := Option.some.inj h
      obtain ⟨hres, hnew, hlock⟩ := probed_outside hnext
      exact .outside _ hres hnew hlock
    | create input =>
      obtain rfl := Option.some.inj h
      simp only [Db.runCreate] at hnext
      split at hnext <;> cases hnext
    | recordTrusted input =>
      obtain rfl := Option.some.inj h
      simp only [Db.runRecordTrusted] at hnext
      split at hnext <;> cases hnext
    | replaceLock input now =>
      simp only [Db.perform, Db.runLock] at h
      split at h
      · next old hold =>
        split_ifs at h with hlocked
        obtain rfl := Option.some.inj h
        cases hnext
        obtain ⟨hmem, hunrevoked⟩ := selectActive_some hold
        exact .locked input now old hmem hunrevoked (by simpa using hlocked)
      · obtain rfl := Option.some.inj h
        cases hnext
    | replaceCheck input now old =>
      obtain rfl := Option.some.inj h
      simp only [Db.runCheck] at hnext
      split at hnext <;> cases hnext
      exact .within _ rfl rfl rfl
    | replaceInsert input now old =>
      obtain rfl := Option.some.inj h
      simp only [Db.runInsert] at hnext
      split at hnext <;> cases hnext
      exact .inserted input now old rfl
    | replaceUpdate input now old new =>
      obtain rfl := Option.some.inj h
      simp only [Db.runUpdate] at hnext
      split at hnext <;> cases hnext
      exact .within _ rfl rfl rfl
    | replaceAuditRevoked input now old new | replaceAuditAccepted input now old new =>
      obtain rfl := Option.some.inj h
      cases hnext
      exact .within _ rfl rfl rfl
    | replaceCommit input now old new =>
      obtain rfl := Option.some.inj h
      cases hnext

/-! ## The invariant -/

/-- The rows are keyed, and each transaction holds what it relies on, alone. -/
structure Sys.Sound (s : Sys) : Prop where
  keyed : Keyed s.db.rows s.db.nextId
  holds : ∀ i t, s.tasks.lookup i = some t → t.Holds s.db.rows s.db.nextId
  reserves : Registry.Exclusive Task.reserves s.tasks
  newIds : Registry.Exclusive Task.newId s.tasks
  locks : Registry.Exclusive Task.locks s.tasks

theorem init_sound : Sys.init.Sound where
  keyed := ⟨List.nodup_nil, by simp [Sys.init], List.nodup_nil⟩
  holds := by simp [Sys.init]
  reserves := Registry.Exclusive.empty
  newIds := Registry.Exclusive.empty
  locks := Registry.Exclusive.empty

theorem settle_exclusive {β : Type} {f : Task → Option β} (h : Registry.Exclusive f s.tasks)
    (hnext : ∀ t b, o.next = .await t → f t = some b → (∃ u, s.tasks.lookup tid = some u ∧ f u = some b) ∨
      ∀ i u, i ≠ tid → s.tasks.lookup i = some u → f u ≠ some b) :
    Registry.Exclusive f (s.settle tid o).tasks := by
  obtain ⟨db', next⟩ := o
  cases next with
  | await t => exact h.insert fun b hb => hnext t b rfl hb
  | ret r => exact h.erase tid

/-- A statement that ends its task: it is enough to look at the rows and the
other tasks. -/
theorem returned_sound {db : Db} {reply : Reply} (hs : s.Sound) (hkeyed : Keyed db.rows db.nextId)
    (hothers : ∀ i u, i ≠ tid → s.tasks.lookup i = some u → u.Holds db.rows db.nextId) :
    (s.settle tid ⟨db, .ret reply⟩).Sound where
  keyed := hkeyed
  holds i u hu := by
    rcases settle_lookup.1 hu with ⟨-, hnext⟩ | ⟨hi, hu⟩
    · cases hnext
    · exact hothers i u hi hu
  reserves := settle_exclusive hs.reserves (by simp)
  newIds := settle_exclusive hs.newIds (by simp)
  locks := settle_exclusive hs.locks (by simp)

/-- A row with a fresh id and a key that nobody has. -/
theorem appended_sound {audits : List HostKeyAuditEvent} {reply : Reply} (hs : s.Sound) (hid : row.id = s.db.nextId)
    (free : Db.isReserved (s.tasks.erase tid) row.hostId row.fingerprintSha256 = false)
    (absent : findByFingerprint s.db.rows row.hostId row.fingerprintSha256 = none) :
    (s.settle tid ⟨⟨s.db.rows ++ [row], audits, s.db.nextId + 1⟩, .ret reply⟩).Sound := by
  have hle : s.db.nextId ≤ s.db.nextId + 1 := Nat.le_succ _
  refine returned_sound hs ?_ fun i u hi hu => ?_
  · refine (hs.keyed.mono hle).append (hid ▸ Nat.lt_succ_self _) (fun hmem => ?_) (key_not_mem absent)
    obtain ⟨e, he, heid⟩ := List.mem_map.1 hmem
    exact Nat.lt_irrefl _ (hid ▸ heid ▸ hs.keyed.lt e he)
  · refine ((hs.holds i u hu).mono hle).append (not_reserved free hi hu) fun hnew => ?_
    exact Nat.lt_irrefl _ (hid ▸ ((hs.holds i u hu).fresh _ hnew).1)

theorem stamped_sound {input : CreateKnownHostEntry} {now : Time} {audits : List HostKeyAuditEvent} {reply : Reply}
    (hs : s.Sound) :
    (s.settle tid ⟨⟨s.db.rows.map fun e =>
      if e.isAt input.hostId input.fingerprintSha256 then e.stampTrusted now else e, audits, s.db.nextId + 1⟩,
      .ret reply⟩).Sound := by
  have hle : s.db.nextId ≤ s.db.nextId + 1 := Nat.le_succ _
  refine returned_sound hs ((hs.keyed.mono hle).map ?_ ?_)
    fun i u hi hu => ((hs.holds i u hu).mono hle).map ?_ ?_ ?_
  all_goals
    intro e
    split
    · simp [KnownHostEntry.stampTrusted, KnownHostEntry.key]
    · simp

/-- The commit revokes the row it has locked and adds the row it has inserted. -/
theorem committed_sound {input : ReplaceActivePin} {now : Time} {old new : EntryId} {reply : Reply} (hs : s.Sound)
    (ht : s.tasks.lookup tid = some (.replaceCommit input now old new)) :
    (s.settle tid ⟨s.db.commit input now old new, .ret reply⟩).Sound := by
  have hmine := hs.holds tid _ ht
  obtain ⟨hlt, hfresh⟩ := hmine.fresh new rfl
  have hid : ∀ e : KnownHostEntry, (if e.id = old then e.revoke input new now else e).id = e.id := by
    intro e
    split <;> rfl
  have hkey : ∀ e : KnownHostEntry, (if e.id = old then e.revoke input new now else e).key = e.key := by
    intro e
    split <;> rfl
  refine returned_sound hs ((hs.keyed.map hid hkey).append hlt ?_ ?_) fun i u hi hu =>
    ((hs.holds i u hu).map hid hkey fun e hlock => ?_).append ?_ ?_
  · simp only [List.map_map, Function.comp_def, hid]
    exact hfresh
  · simp only [List.map_map, Function.comp_def, hkey]
    exact hmine.absent _ rfl
  · -- another transaction has locked another row
    have hne : e.id ≠ old := fun heq => hi (hs.locks i tid u _ old hu ht (heq ▸ hlock) rfl)
    rw [if_neg hne]
  · exact fun hres => hi (hs.reserves i tid u _ _ hu ht hres rfl)
  · exact fun hnew => hi (hs.newIds i tid u _ _ hu ht hnew rfl)

/-- A transaction inserts a row with a key nobody has. -/
theorem inserted_sound {input : ReplaceActivePin} {now : Time} {old : EntryId} (hs : s.Sound)
    (ht : s.tasks.lookup tid = some (.replaceInsert input now old))
    (free : Db.isReserved (s.tasks.erase tid) input.hostId input.newFingerprintSha256 = false)
    (absent : findByFingerprint s.db.rows input.hostId input.newFingerprintSha256 = none) :
    (s.settle tid ⟨{ s.db with nextId := s.db.nextId + 1 },
      .await (.replaceUpdate input now old s.db.nextId)⟩).Sound := by
  have hle : s.db.nextId ≤ s.db.nextId + 1 := Nat.le_succ _
  refine ⟨hs.keyed.mono hle, fun i u hu => ?_, settle_exclusive hs.reserves fun u key hnext hres => .inr ?_,
    settle_exclusive hs.newIds fun u id hnext hnew => .inr ?_,
    settle_exclusive hs.locks fun u id hnext hlock => .inl ⟨_, ht, ?_⟩⟩
  · rcases settle_lookup.1 hu with ⟨-, hnext⟩ | ⟨hi, hu⟩
    · obtain rfl := Next.await.inj hnext
      refine ⟨fun key hres => ?_, fun id hnew => ?_, (hs.holds tid _ ht).locked⟩
      · obtain rfl := Option.some.inj hres
        exact key_not_mem absent
      · obtain rfl := Option.some.inj hnew
        refine ⟨Nat.lt_succ_self _, fun hmem => ?_⟩
        obtain ⟨e, he, heid⟩ := List.mem_map.1 hmem
        exact Nat.lt_irrefl _ (heid ▸ hs.keyed.lt e he)
    · exact (hs.holds i u hu).mono hle
  · obtain rfl := Next.await.inj hnext
    obtain rfl := Option.some.inj hres
    exact fun i v hi hv => not_reserved free hi hv
  · obtain rfl := Next.await.inj hnext
    obtain rfl := Option.some.inj hnew
    exact fun i v _ hv hvnew => Nat.lt_irrefl _ ((hs.holds i v hv).fresh _ hvnew).1
  · obtain rfl := Next.await.inj hnext
    exact hlock

/-- A row that is not locked by the others is locked by none of them. -/
theorem not_locked {id : EntryId} (h : Db.isLocked (s.tasks.erase tid) id = false) {i : TaskId} {u : Task}
    (hi : i ≠ tid) (hu : s.tasks.lookup i = some u) : u.locks ≠ some id := by
  intro hlock
  have hany : Db.isLocked (s.tasks.erase tid) id = true :=
    Registry.any_iff.2 ⟨i, u, Registry.lookup_erase_iff.2 ⟨hi, hu⟩, by simpa using hlock⟩
  rw [h] at hany
  cases hany

/-- A step that writes no row; `hnext` says where a task that goes on has its
holdings from. -/
theorem quiet_sound {next : Next} (hs : s.Sound)
    (hnext : ∀ u, next = .await u → (u.reserves = none ∧ u.newId = none ∧ u.locks = none) ∨
      (∃ t, s.tasks.lookup tid = some t ∧ u.reserves = t.reserves ∧ u.newId = t.newId ∧ u.locks = t.locks) ∨
      ∃ e ∈ s.db.rows, u.reserves = none ∧ u.newId = none ∧ u.locks = some e.id ∧ e.revokedAt = none ∧
        Db.isLocked (s.tasks.erase tid) e.id = false) :
    (s.settle tid ⟨s.db, next⟩).Sound := by
  refine ⟨hs.keyed, fun i u hu => ?_, settle_exclusive hs.reserves fun u key hu hres => ?_,
    settle_exclusive hs.newIds fun u id hu hnew => ?_, settle_exclusive hs.locks fun u id hu hlock => ?_⟩
  · rcases settle_lookup.1 hu with ⟨-, hu⟩ | ⟨-, hu⟩
    · rcases hnext u hu with ⟨hres, hnew, hlock⟩ | ⟨t, ht, hres, hnew, hlock⟩ | ⟨e, he, hres, hnew, hlock, hun, -⟩
      · exact .outside hres hnew hlock
      · have hold := hs.holds tid t ht
        exact ⟨hres ▸ hold.absent, hnew ▸ hold.fresh, hlock ▸ hold.locked⟩
      · refine ⟨by simp [hres], by simp [hnew], fun old hold => ?_⟩
        rw [hlock] at hold
        exact ⟨e, he, Option.some.inj hold, hun⟩
    · exact hs.holds i u hu
  · rcases hnext u hu with ⟨hnone, -, -⟩ | ⟨t, ht, hsame, -, -⟩ | ⟨e, -, hnone, -⟩
    · rw [hnone] at hres; cases hres
    · exact .inl ⟨t, ht, hsame ▸ hres⟩
    · rw [hnone] at hres; cases hres
  · rcases hnext u hu with ⟨-, hnone, -⟩ | ⟨t, ht, -, hsame, -⟩ | ⟨e, -, -, hnone, -⟩
    · rw [hnone] at hnew; cases hnew
    · exact .inl ⟨t, ht, hsame ▸ hnew⟩
    · rw [hnone] at hnew; cases hnew
  · rcases hnext u hu with ⟨-, -, hnone⟩ | ⟨t, ht, -, -, hsame⟩ | ⟨e, -, -, -, hid, -, hfree⟩
    · rw [hnone] at hlock; cases hlock
    · exact .inl ⟨t, ht, hsame ▸ hlock⟩
    · obtain rfl := Option.some.inj (hid.symm.trans hlock)
      exact .inr fun i v hi hv => not_locked hfree hi hv

theorem resume_sound (hs : s.Sound) (h : s.step (.resume tid env) = some s') : s'.Sound := by
  obtain ⟨t, o, ht, ho, rfl⟩ := step_resume h
  cases resume_effect ho with
  | quiet _ next hres hcreate =>
    refine quiet_sound hs fun u hu => ?_
    cases resume_carries ho hu with
    | outside _ hres hnew hlock => exact .inl ⟨hres, hnew, hlock⟩
    | within _ hres hnew hlock => exact .inr (.inl ⟨t, ht, hres, hnew, hlock⟩)
    | locked input now old hmem hun hfree => exact .inr (.inr ⟨old, hmem, rfl, rfl, rfl, hun, hfree⟩)
    | inserted input now old heq =>
      -- the insert is an effect of its own
      subst heq
      rcases hres _ hu with hnone | hnone <;> cases hnone
  | inserted input now old free absent => exact inserted_sound hs ht free absent
  | created input now reply free absent => exact appended_sound hs rfl free absent
  | recorded input now reply free absent => exact appended_sound hs rfl free absent
  | stamped input now reply existing => exact stamped_sound hs
  | committed input now old new reply => exact committed_sound hs ht

/-- A call starts outside any transaction. -/
theorem enter_outside {c : Call} (h : c.enter = .await t) : t.reserves = none ∧ t.newId = none ∧ t.locks = none := by
  cases c with
  | hostKeyPreflight | create | recordTrusted | replaceActivePin => cases h; exact ⟨rfl, rfl, rfl⟩
  | trustHostKey body =>
    simp only [Call.enter] at h
    split at h <;> cases h
    exact ⟨rfl, rfl, rfl⟩
  | replaceHostKey user body =>
    simp only [Call.enter] at h
    split at h <;> cases h
    exact ⟨rfl, rfl, rfl⟩

theorem step_sound {ev : Event} (hs : s.Sound) (h : s.step ev = some s') : s'.Sound := by
  cases ev with
  | call c =>
    obtain rfl := Option.some.inj h
    have hsettled : (s.settle s.nextTask ⟨s.db, c.enter⟩).Sound := quiet_sound hs fun u hu => .inl (enter_outside hu)
    exact ⟨hsettled.keyed, hsettled.holds, hsettled.reserves, hsettled.newIds, hsettled.locks⟩
  | resume tid env => exact resume_sound hs h

/-! ## Revoked rows -/

/-- No statement touches a revoked row. -/
theorem step_keeps_revoked {ev : Event} (hs : s.Sound) (h : s.step ev = some s') (he : e ∈ s.db.rows)
    (hrevoked : e.revokedAt.isSome = true) : e ∈ s'.db.rows := by
  cases ev with
  | call c =>
    obtain rfl := Option.some.inj h
    exact he
  | resume tid env =>
    obtain ⟨t, o, ht, ho, rfl⟩ := step_resume h
    cases resume_effect ho with
    | quiet | inserted => exact he
    | created | recorded => exact List.mem_append_left _ he
    | stamped input now reply existing found unrevoked =>
      refine List.mem_map.2 ⟨e, he, if_neg fun hat => ?_⟩
      -- the row of the key is the one the upsert found, and that one is unrevoked
      obtain ⟨hmem, hkey⟩ := findByFingerprint_some found
      have hsame : e = existing := hs.keyed.eq_of_key he hmem ((isAt_iff.1 hat).trans hkey.symm)
      rw [hsame, unrevoked] at hrevoked
      cases hrevoked
    | committed input now old new reply =>
      refine List.mem_append_left _ (List.mem_map.2 ⟨e, he, if_neg fun hid => ?_⟩)
      obtain ⟨e', he', hid', hunrevoked⟩ := (hs.holds tid _ ht).locked old rfl
      have hsame : e = e' := hs.keyed.eq_of_id he he' (hid.trans hid'.symm)
      rw [hsame, hunrevoked] at hrevoked
      cases hrevoked

theorem run_keeps_revoked {evs : List Event} (hs : s.Sound) (hr : run Sys.step s evs = some s') (he : e ∈ s.db.rows)
    (hrevoked : e.revokedAt.isSome = true) : s'.Sound ∧ e ∈ s'.db.rows :=
  run_inv (fun s => s.Sound ∧ e ∈ s.db.rows)
    (fun _ _ _ hs h => ⟨step_sound hs.1 h, step_keeps_revoked hs.1 h hs.2 hrevoked⟩) hr ⟨hs, he⟩

/-- A row that shares its fingerprint with a revoked row of the host is that row. -/
theorem Keyed.revoked_of_listed (h : Keyed rows nextId) (he : e ∈ rows)
    (hrevoked : e.revokedAt.isSome = true) (e' : KnownHostEntry) (he' : e' ∈ listForHost rows e.hostId)
    (hfp : e'.fingerprintSha256 = e.fingerprintSha256) : e'.revokedAt.isNone = false := by
  obtain ⟨hmem, hhost⟩ := mem_listForHost.1 he'
  have hsame : e' = e := h.eq_of_key hmem he (by simp [KnownHostEntry.key, hhost, hfp])
  rw [hsame, Option.isNone_eq_false_iff]
  exact hrevoked

/-- Neither set of accepted pins has the fingerprint of a revoked row, and the
classifier does not trust it. -/
theorem Keyed.revoked_rejected (h : Keyed rows nextId) (he : e ∈ rows) (hrevoked : e.revokedAt.isSome = true) :
    (∀ keyType, (keyType, e.fingerprintSha256) ∉ ptyAcceptPins (listForHost rows e.hostId)) ∧
      (∀ keyType, (keyType, e.fingerprintSha256) ∉ authCheckAcceptPins (listForHost rows e.hostId)) ∧
      ∀ captured : CapturedHostKey, captured.fingerprintSha256 = e.fingerprintSha256 →
        classifyHostKey captured (listForHost rows e.hostId) ≠ .trusted := by
  have hlisted := h.revoked_of_listed he hrevoked
  refine ⟨fun keyType hpin => ?_, fun keyType hpin => ?_, fun captured hfp htrusted => ?_⟩
  · obtain ⟨e', he', hpair⟩ := List.mem_map.1 hpin
    obtain ⟨he', hactive⟩ := List.mem_filter.1 he'
    rw [hlisted e' he' (Prod.mk.inj hpair).2, Bool.and_false] at hactive
    cases hactive
  · obtain ⟨e', he', hpair⟩ := List.mem_map.1 hpin
    obtain ⟨he', hactive⟩ := List.mem_filter.1 he'
    rw [hlisted e' he' (Prod.mk.inj hpair).2, Bool.false_and] at hactive
    cases hactive
  · simp only [classifyHostKey] at htrusted
    split at htrusted
    · next matching hmatch =>
      obtain ⟨hmem, hactive⟩ := List.mem_filter.1 (List.mem_of_find?_eq_some hmatch)
      have hholds := List.find?_some hmatch
      simp only [KnownHostEntry.holds, Bool.and_eq_true, decide_eq_true_eq] at hholds
      rw [hlisted matching hmem (hholds.2.trans hfp)] at hactive
      cases hactive
    · split at htrusted <;> cases htrusted

/-- **Revocation is permanent.** Whatever calls interleave after a row was
revoked, the row stays as it is and the only one of its host and fingerprint,
no PTY and no auth check accepts its key, and no preflight calls it trusted. -/
theorem revoked_forever (before after : List Event) (hbefore : run Sys.step .init before = some s)
    (hafter : run Sys.step s after = some s') (he : e ∈ s.db.rows) (hrevoked : e.revokedAt.isSome = true) :
    s'.db.rows.filter (·.isAt e.hostId e.fingerprintSha256) = [e] ∧
      (∀ keyType, (keyType, e.fingerprintSha256) ∉ ptyAcceptPins (listForHost s'.db.rows e.hostId)) ∧
      (∀ keyType, (keyType, e.fingerprintSha256) ∉ authCheckAcceptPins (listForHost s'.db.rows e.hostId)) ∧
      ∀ captured : CapturedHostKey, captured.fingerprintSha256 = e.fingerprintSha256 →
        classifyHostKey captured (listForHost s'.db.rows e.hostId) ≠ .trusted := by
  have hsound : s.Sound := run_inv Sys.Sound (fun _ _ _ hs h => step_sound hs h) hbefore init_sound
  obtain ⟨hsound', he'⟩ := run_keeps_revoked hsound hafter he hrevoked
  exact ⟨hsound'.keyed.filter_isAt he', hsound'.keyed.revoked_rejected he' hrevoked⟩

/-- After the rotation of `rotation`, each write of the repository is tried on the revoked key. -/
def retrust : List Event :=
  [.call (.recordTrusted ⟨1, .ed25519, "SHA256:a", []⟩), .call (.create ⟨1, .rsa, "SHA256:a", []⟩),
    .call (.replaceActivePin ⟨1, "SHA256:b", .ed25519, "SHA256:a", [], 5, .operatorOther⟩)] ++
    proceed 3 ⟨.ed25519, "SHA256:a", []⟩ 1 ++ proceed 4 ⟨.ed25519, "SHA256:a", []⟩ 1 ++
    proceed 5 ⟨.ed25519, "SHA256:a", []⟩ 3

theorem revoked_forever_rotated : ∃ s s' e, run Sys.step .init rotation = some s ∧ run Sys.step s retrust = some s' ∧
    s.db.rows.head? = some e ∧ e.fingerprintSha256 = "SHA256:a" ∧ s'.tasks.entries = [] ∧
    s'.db.rows.filter (·.isAt 1 "SHA256:a") = [e] ∧
    classifyHostKey ⟨.ed25519, "SHA256:a", []⟩ (listForHost s'.db.rows 1) ≠ .trusted := by
  refine ⟨_, _, _, rfl, rfl, rfl, rfl, rfl, ?_⟩
  have h := revoked_forever rotation retrust rfl rfl (List.mem_cons_self) rfl
  exact ⟨h.1, h.2.2.2 _ rfl⟩

end RelayTerm.HostKey
