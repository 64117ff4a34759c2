import RelayTerm.HostKey.Revocation
import RelayTerm.Lib.Links
/-!
# A replace is all or nothing

`replace_active_pin` is one transaction of seven statements and a commit. Until
the commit it writes to no table; the commit revokes the row it has locked,
which is still the active pin it was when it was locked, adds the row it has
inserted and appends the two audit rows. The new row has no link of its own, so
the links from revoked rows to their replacements lead to no cycle.
-/
open RelayTerm.Lib

namespace RelayTerm.HostKey

variable {db db' : Db} {env : Env} {others : Registry TaskId Task} {t t' : Task} {o : Out} {s s' : Sys} {tid : TaskId}
variable {rows : List KnownHostEntry} {nextId : EntryId} {e : KnownHostEntry} {input : ReplaceActivePin}

/-! ## The call by itself -/

/-- Runs a call alone; `answers` says how each of its await points fares. -/
def Out.drive (answers : Task → Env) : Nat → Out → Out
  | 0, o => o
  | _ + 1, ⟨db, .ret r⟩ => ⟨db, .ret r⟩
  | n + 1, ⟨db, .await t⟩ => match db.resume (answers t) ∅ t with
    | some o => Out.drive answers n o
    | none => ⟨db, .await t⟩

/-- `replace_active_pin` from begin to commit, with nobody in between. -/
def replaceActivePin (db : Db) (input : ReplaceActivePin) (answers : Task → Env) : Out :=
  Out.drive answers 8 ⟨db, (Call.replaceActivePin input).enter⟩

/-- The input of the replace a task belongs to. -/
def Task.replacing : Task → Option ReplaceActivePin
  | .replaceBegin input | .replaceLock input _ | .replaceCheck input _ _ | .replaceInsert input _ _
  | .replaceUpdate input _ _ _ | .replaceAuditRevoked input _ _ _ | .replaceAuditAccepted input _ _ _
  | .replaceCommit input _ _ _ => some input
  | _ => none

/-- The await points of a replace from here to its end. -/
def Task.left : Task → Nat
  | .replaceBegin _ => 8
  | .replaceLock _ _ => 7
  | .replaceCheck _ _ _ => 6
  | .replaceInsert _ _ _ => 5
  | .replaceUpdate _ _ _ _ => 4
  | .replaceAuditRevoked _ _ _ _ => 3
  | .replaceAuditAccepted _ _ _ _ => 2
  | .replaceCommit _ _ _ _ => 1
  | _ => 0

/-! ## What a replace did -/

/-- The tables are as they were. The supply of ids is no table. -/
structure Untouched (db db' : Db) : Prop where
  rows : db'.rows = db.rows
  audits : db'.audits = db.audits

theorem Untouched.refl (db : Db) : Untouched db db := ⟨rfl, rfl⟩

/-- One active pin is revoked in its place and points to one new active pin of
its host; two audit rows name the two ids, each as the other's replacement. -/
structure Replaced (db db' : Db) (input : ReplaceActivePin) (old revoked new : KnownHostEntry) : Prop where
  wasActive : old.isActivePin = true
  named : old.key = (input.hostId, input.expectedOldFingerprint)
  revocation : ∃ now, revoked = old.revoke input new.id now ∧ new = input.newRow new.id now
  isActive : new.isActivePin = true
  sameHost : new.hostId = old.hostId
  fresh : new.id ∉ db.rows.map (·.id)
  rows : ∃ l₁ l₂, db.rows = l₁ ++ old :: l₂ ∧ db'.rows = l₁ ++ revoked :: l₂ ++ [new]
  audits : ∃ a b : HostKeyAuditEvent, db'.audits = db.audits ++ [a, b] ∧
    a.kind = .hostKeyRevoked ∧ a.knownHostEntryId = old.id ∧ a.replacementKnownHostEntryId = new.id ∧
    b.kind = .hostKeyAccepted ∧ b.knownHostEntryId = new.id ∧ b.replacementKnownHostEntryId = old.id

/-- Where a replace stands: it goes on or has failed and has touched no table,
or it has replaced the pin and returns the two rows. -/
inductive Outcome (db : Db) (input : ReplaceActivePin) : Out → Prop where
  | goesOn (db' : Db) (t : Task) (htables : Untouched db db') (hin : t.replacing = some input) :
      Outcome db input ⟨db', .await t⟩
  | failed (db' : Db) (e : RepositoryError) (htables : Untouched db db') : Outcome db input ⟨db', .ret (.failed e)⟩
  | replaced (db' : Db) (old revoked new : KnownHostEntry) (hreplaced : Replaced db db' input old revoked new) :
      Outcome db input ⟨db', .ret (.replaced (some revoked) new)⟩

/-! ## One statement -/

/-- What a statement of a replace can do. -/
inductive Advance (db : Db) (input : ReplaceActivePin) : Task → Out → Prop where
  | failed (t : Task) (e : RepositoryError) : Advance db input t (db.fail e)
  | went (t t' : Task) (hin : t'.replacing = some input) (hlock : t'.locks = t.locks) (hnew : t'.newId = t.newId)
      (hleft : t'.left < t.left) : Advance db input t (db.await t')
  | locked (now : Time) (old : KnownHostEntry)
      (hold : selectActive db.rows input.hostId input.expectedOldFingerprint = some old) :
      Advance db input (.replaceLock input now) (db.await (.replaceCheck input now old.id))
  | inserted (now : Time) (old : EntryId) :
      Advance db input (.replaceInsert input now old)
        ({ db with nextId := db.nextId + 1 }.await (.replaceUpdate input now old db.nextId))
  | committed (now : Time) (old new : EntryId) :
      Advance db input (.replaceCommit input now old new) (db.runCommit input now old new)

theorem perform_advance (hin : t.replacing = some input) (h : db.perform env others t = some o) :
    Advance db input t o := by
  cases t with
  | resolve | list | probe | create | recordTrusted => cases hin
  | replaceBegin =>
    obtain rfl := Option.some.inj hin
    obtain rfl := Option.some.inj h
    exact .went _ _ rfl rfl rfl (Nat.lt_succ_self _)
  | replaceLock _ now =>
    obtain rfl := Option.some.inj hin
    simp only [Db.perform, Db.runLock] at h
    split at h
    · next old hold =>
      obtain ⟨-, ho⟩ := Option.ite_none_left_eq_some.1 h
      obtain rfl := Option.some.inj ho
      exact .locked now old hold
    · obtain rfl := Option.some.inj h
      exact .failed _ _
  | replaceCheck _ now old =>
    obtain rfl := Option.some.inj hin
    obtain rfl := Option.some.inj h
    simp only [Db.runCheck]
    split
    · exact .went _ _ rfl rfl rfl (Nat.lt_succ_self _)
    · exact .failed _ _
  | replaceInsert _ now old =>
    obtain rfl := Option.some.inj hin
    obtain rfl := Option.some.inj h
    simp only [Db.runInsert]
    split
    · exact .inserted now old
    · exact .failed _ _
  | replaceUpdate _ now old new =>
    obtain rfl := Option.some.inj hin
    obtain rfl := Option.some.inj h
    simp only [Db.runUpdate]
    split
    · exact .went _ _ rfl rfl rfl (Nat.lt_succ_self _)
    · exact .failed _ _
  | replaceAuditRevoked | replaceAuditAccepted =>
    obtain rfl := Option.some.inj hin
    obtain rfl := Option.some.inj h
    exact .went _ _ rfl rfl rfl (Nat.lt_succ_self _)
  | replaceCommit _ now old new =>
    obtain rfl := Option.some.inj hin
    obtain rfl := Option.some.inj h
    exact .committed now old new

theorem failure_replacing (hin : t.replacing = some input) : Db.failure t = .failed .driver := by
  cases t with
  | resolve | probe => cases hin
  | _ => rfl

theorem resume_advance (hin : t.replacing = some input) (h : db.resume env others t = some o) :
    Advance db input t o := by
  unfold Db.resume at h
  split_ifs at h with hok hwait
  · obtain rfl := Option.some.inj h
    rw [failure_replacing hin]
    exact .failed t .driver
  · exact perform_advance hin h

/-! ## What a replace relies on -/

/-- The row a replace has locked is the active pin it was asked to replace. -/
def Task.Grips (rows : List KnownHostEntry) (t : Task) : Prop :=
  ∀ input old, t.replacing = some input → t.locks = some old →
    ∃ e ∈ rows, e.id = old ∧ e.key = (input.hostId, input.expectedOldFingerprint) ∧ e.isActivePin = true

theorem Task.Grips.unlocked (h : t.locks = none) : t.Grips rows := by
  intro input old _ hlock
  rw [h] at hlock
  cases hlock

theorem Task.Grips.append (h : t.Grips rows) (row : KnownHostEntry) : t.Grips (rows ++ [row]) := by
  intro input old hin hlock
  obtain ⟨e, he, hrest⟩ := h input old hin hlock
  exact ⟨e, List.mem_append_left _ he, hrest⟩

/-- An update that leaves the locked row the pin it is. -/
theorem Task.Grips.map (h : t.Grips rows) {g : KnownHostEntry → KnownHostEntry} (hid : ∀ e, (g e).id = e.id)
    (hkey : ∀ e, (g e).key = e.key)
    (hactive : ∀ e, t.locks = some e.id → e.isActivePin = true → (g e).isActivePin = true) :
    t.Grips (rows.map g) := by
  intro input old hin hlock
  obtain ⟨e, he, rfl, hat, hpin⟩ := h input old hin hlock
  exact ⟨g e, List.mem_map_of_mem he, hid e, (hkey e).trans hat, hactive e hlock hpin⟩

theorem selectActive_grips {now : Time} {old : KnownHostEntry}
    (h : selectActive rows input.hostId input.expectedOldFingerprint = some old) :
    (Task.replaceCheck input now old.id).Grips rows := by
  intro input' id hin hlock
  obtain rfl := Option.some.inj hin
  obtain rfl := Option.some.inj hlock
  have hp := List.find?_some h
  simp only [Bool.and_eq_true] at hp
  exact ⟨old, List.mem_of_find?_eq_some h, rfl, isAt_iff.1 hp.1, hp.2⟩

/-- What a replace relies on at an await point: it has hold of the pin, and the
id of the row it inserted is nobody's. -/
structure Ready (db : Db) (input : ReplaceActivePin) (t : Task) : Prop where
  keyed : Keyed db.rows db.nextId
  replacing : t.replacing = some input
  grips : t.Grips db.rows
  fresh : ∀ id, t.newId = some id → id ∉ db.rows.map (·.id)

theorem Keyed.nextId_fresh (h : Keyed rows nextId) : nextId ∉ rows.map (·.id) := by
  intro hmem
  obtain ⟨e, he, hid⟩ := List.mem_map.1 hmem
  exact Nat.lt_irrefl _ (hid ▸ h.lt e he)

/-- A replace that goes on is nearer to its end, has touched no table and can
rely on the same. -/
theorem Advance.ready (h : Advance db input t o) (hready : Ready db input t) (hnext : o.next = .await t') :
    Ready o.db input t' ∧ t'.left < t.left ∧ Untouched db o.db := by
  cases h with
  | failed t e => cases hnext
  | went t u hin hlock hnew hleft =>
    obtain rfl := Next.await.inj hnext
    refine ⟨⟨hready.keyed, hin, ?_, hnew ▸ hready.fresh⟩, hleft, .refl db⟩
    intro input' old hin' hold
    obtain rfl := Option.some.inj (hin.symm.trans hin')
    exact hready.grips input old hready.replacing (hlock ▸ hold)
  | locked now old hold =>
    obtain rfl := Next.await.inj hnext
    refine ⟨⟨hready.keyed, rfl, selectActive_grips hold, ?_⟩, Nat.lt_succ_self _, .refl db⟩
    intro id hnew
    cases hnew
  | inserted now old =>
    obtain rfl := Next.await.inj hnext
    refine ⟨⟨hready.keyed.mono (Nat.le_succ _), rfl, hready.grips, ?_⟩, Nat.lt_succ_self _, ⟨rfl, rfl⟩⟩
    intro id hnew
    obtain rfl := Option.some.inj hnew
    exact hready.keyed.nextId_fresh
  | committed now old new => cases hnext

/-! ## The commit -/

/-- Ids are distinct, so the `UPDATE` touches the one row. -/
theorem Keyed.revokeRow_split (h : Keyed rows nextId) (he : e ∈ rows) (input : ReplaceActivePin) (new : EntryId)
    (now : Time) : ∃ l₁ l₂, rows = l₁ ++ e :: l₂ ∧
      revokeRow rows input e.id new now = l₁ ++ e.revoke input new now :: l₂ := by
  obtain ⟨l₁, l₂, rfl⟩ := List.append_of_mem he
  refine ⟨l₁, l₂, rfl, ?_⟩
  have hids : ((l₁ ++ e :: l₂).map (·.id)).Nodup := h.ids
  rw [List.map_append, List.map_cons, List.nodup_middle, List.nodup_cons, List.mem_append, not_or] at hids
  have hkeep : ∀ l : List KnownHostEntry, e.id ∉ l.map (·.id) →
      l.map (fun e' => if e'.id = e.id then e'.revoke input new now else e') = l := by
    intro l hl
    refine (List.map_congr_left fun e' he' => ?_).trans (List.map_id _)
    exact if_neg fun hid : e'.id = e.id => hl (hid ▸ List.mem_map_of_mem he')
  simp only [revokeRow, List.map_append, List.map_cons, if_true, hkeep l₁ hids.1.1, hkeep l₂ hids.1.2]

theorem Keyed.find_id (h : Keyed rows nextId) (he : e ∈ rows) : rows.find? (fun e' => e'.id = e.id) = some e := by
  cases hfind : rows.find? (fun e' => e'.id = e.id) with
  | none => exact absurd (List.find?_eq_none.1 hfind e he) (by simp)
  | some e' =>
    have hid : e'.id = e.id := by simpa using List.find?_some hfind
    rw [h.eq_of_id (List.mem_of_find?_eq_some hfind) he hid]

theorem commit_replaced {now : Time} {new : EntryId} (hkeyed : Keyed db.rows db.nextId) (he : e ∈ db.rows)
    (hkey : e.key = (input.hostId, input.expectedOldFingerprint)) (hactive : e.isActivePin = true)
    (hfresh : new ∉ db.rows.map (·.id)) :
    Replaced db (db.commit input now e.id new) input e (e.revoke input new now) (input.newRow new now) where
  wasActive := hactive
  named := hkey
  revocation := ⟨now, rfl, rfl⟩
  isActive := rfl
  sameHost := (congrArg Prod.fst hkey).symm
  fresh := hfresh
  rows := by
    obtain ⟨l₁, l₂, hrows, hrevoked⟩ := hkeyed.revokeRow_split he input new now
    refine ⟨l₁, l₂, hrows, ?_⟩
    show revokeRow db.rows input e.id new now ++ [input.newRow new now] = _
    rw [hrevoked]
  audits := ⟨_, _, rfl, rfl, rfl, rfl, rfl, rfl, rfl⟩

/-- Each statement of a replace leaves the tables alone, but for the commit. -/
theorem Advance.outcome (h : Advance db input t o) (hready : Ready db input t) : Outcome db input o := by
  cases h with
  | failed t e => exact .failed db e (.refl db)
  | went t t' hin => exact .goesOn db t' (.refl db) hin
  | locked now old => exact .goesOn db _ (.refl db) rfl
  | inserted now old => exact .goesOn _ _ ⟨rfl, rfl⟩ rfl
  | committed now old new =>
    obtain ⟨e, he, rfl, hkey, hactive⟩ := hready.grips input old rfl rfl
    have hold : (db.rows.find? fun e' => e'.id = e.id) = some e := hready.keyed.find_id he
    simp only [Db.runCommit, hold, Option.map_some]
    exact .replaced _ e _ _ (commit_replaced hready.keyed he hkey hactive (hready.fresh new rfl))

/-! ## The whole call -/

theorem drive_ret (answers : Task → Env) (n : Nat) (db : Db) (r : Reply) :
    Out.drive answers n ⟨db, .ret r⟩ = ⟨db, .ret r⟩ := by
  cases n <;> rfl

/-- Every replace under way has hold of the pin it was asked to replace. -/
structure Sys.Gripping (s : Sys) : Prop where
  sound : s.Sound
  grips : ∀ i t, s.tasks.lookup i = some t → t.Grips s.db.rows

theorem Sys.Gripping.ready (hs : s.Gripping) (ht : s.tasks.lookup tid = some t) (hin : t.replacing = some input) :
    Ready s.db input t where
  keyed := hs.sound.keyed
  replacing := hin
  grips := hs.grips tid t ht
  fresh id hnew := ((hs.sound.holds tid t ht).fresh id hnew).2

/-- A request that is not in a replace takes no lock. -/
theorem resume_unlocked (hin : t.replacing = none) (h : db.resume env others t = some o)
    (hnext : o.next = .await t') : t'.locks = none := by
  unfold Db.resume at h
  split_ifs at h with hok hwait
  · obtain rfl := Option.some.inj h
    cases hnext
  · cases t with
    | resolve | list =>
      obtain rfl := Option.some.inj h
      cases hnext
      rfl
    | probe route host known =>
      obtain rfl := Option.some.inj h
      exact (probed_outside hnext).2.2
    | create input =>
      obtain rfl := Option.some.inj h
      simp only [Db.runCreate] at hnext
      split at hnext <;> cases hnext
    | recordTrusted input =>
      obtain rfl := Option.some.inj h
      simp only [Db.runRecordTrusted] at hnext
      split at hnext <;> cases hnext
    | _ => cases hin

/-- What a task holds after a step of its own. -/
theorem Sys.Gripping.next (hs : s.Gripping) (ht : s.tasks.lookup tid = some t)
    (h : s.db.resume env (s.tasks.erase tid) t = some o) (hnext : o.next = .await t') : t'.Grips o.db.rows := by
  cases hin : t.replacing with
  | none => exact .unlocked (resume_unlocked hin h hnext)
  | some input => exact ((resume_advance hin h).ready (hs.ready ht hin) hnext).1.grips

/-- A statement of another task leaves a locked pin what it is. -/
theorem Sys.Gripping.other (hs : s.Gripping) (ht : s.tasks.lookup tid = some t)
    (h : s.db.resume env (s.tasks.erase tid) t = some o) {i : TaskId} {u : Task} (hi : i ≠ tid)
    (hu : s.tasks.lookup i = some u) : u.Grips o.db.rows := by
  have hgrips := hs.grips i u hu
  cases resume_effect h with
  | quiet | inserted => exact hgrips
  | created | recorded => exact hgrips.append _
  | stamped input now reply existing =>
    refine hgrips.map ?_ ?_ ?_
    · intro e
      split <;> rfl
    · intro e
      split <;> rfl
    · intro e _ hactive
      split
      · simp only [KnownHostEntry.isActivePin, Bool.and_eq_true] at hactive ⊢
        exact ⟨rfl, hactive.2⟩
      · exact hactive
  | committed input now old new reply =>
    refine Task.Grips.append (hgrips.map ?_ ?_ ?_) _
    · intro e
      split <;> rfl
    · intro e
      split <;> rfl
    · intro e hlock hactive
      -- the row this commit revokes is locked by nobody else
      have hne : e.id ≠ old := fun heq => hi (hs.sound.locks i tid u _ old hu ht (heq ▸ hlock) rfl)
      rw [if_neg hne]
      exact hactive

/-- One active pin, of host 1. -/
def pinned : Db where
  rows := [⟨0, 1, .ed25519, "SHA256:a", [], 0, some 0, none, none, none, none⟩]
  audits := []
  nextId := 1

end RelayTerm.HostKey
