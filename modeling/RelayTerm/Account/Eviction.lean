import RelayTerm.Account.Steps
/-!
# What a password change evicts

`change_password` stores the new hash and then revokes the user's other
sessions. A login verifies first and creates its session later, so one that
verified against the old hash can still be on its way when the revocation looks
for sessions, and its session then stays valid. If none is, then once the
request has returned no session but its own is valid that was opened with an
earlier password.
-/
open RelayTerm.Lib

namespace RelayTerm.Account

open Auth (User)

variable {cfg : Config} {s s' : Sys} {tid : TaskId} {o : Out} {id : UserSessionId}

/-! ## Password changes under way -/

/-- How far a password change has come. -/
inductive Phase where
  /-- The new hash is stored. -/
  | stored
  /-- The `UPDATE` has found these sessions. -/
  | found (targets : List UserSessionId)
  /-- The `UPDATE` has been made. -/
  | done
  deriving DecidableEq, Repr

structure Rotation where
  user : UserId
  current : UserSessionId
  new : PasswordHash
  phase : Phase
  deriving DecidableEq, Repr

/-- The password change a task is part of, once it has stored its hash. -/
def Task.rotation : Task → Option Rotation
  | .update (.revokeAllExcept user (.passwordChanged new) _) => some ⟨user.user.id, user.sessionId, new, .stored⟩
  | .write (.revokeAllExcept user (.passwordChanged new) _) snap =>
    some ⟨user.user.id, user.sessionId, new, .found snap.targets⟩
  | .auditPasswordChanged user new _ _ => some ⟨user.user.id, user.sessionId, new, .done⟩
  | _ => none

theorem Task.rotation_of_isIdle {t : Task} (h : t.isIdle = true) : t.rotation = none := by
  unfold Task.rotation
  split <;> first | rfl | cases h

/-- A login of the user that verified against a hash stored before `salt` is about to create its session. -/
def Sys.mintingBefore (s : Sys) (user : UserId) (salt : Nat) : Bool :=
  Registry.any (fun t => t.minting.any fun m => m.1 = user && m.2.salt < salt) s.tasks

/-- When the `UPDATE` of a password change takes its snapshot, no login of the
user that verified against an earlier hash is about to create its session. -/
def Sys.NoneMinting (s : Sys) : Event → Prop
  | .request _ _ => True
  | .resume tid _ => ∀ r ∈ (s.tasks.lookup tid).bind Task.rotation, r.phase = .stored →
      s.mintingBefore r.user r.new.salt = false

instance (s : Sys) : (ev : Event) → Decidable (s.NoneMinting ev)
  | .request _ _ => isTrue trivial
  | .resume tid _ => inferInstanceAs (Decidable (∀ r ∈ (s.tasks.lookup tid).bind Task.rotation, _))

/-- A login created the session for the user after verifying against a hash stored before `salt`. -/
def Sys.Stale (s : Sys) (user : UserId) (salt : Nat) (id : UserSessionId) : Prop :=
  ∃ tid hash, (tid, Fact.minted id user hash) ∈ s.history ∧ hash.salt < salt

/-! ## The invariant -/

/-- What a password change can count on. -/
structure Sys.Rotated (s : Sys) (r : Rotation) : Prop where
  /-- The user's hash is the new one or a later one. -/
  stored : ∃ hash, s.server.passwords.rows.lookup r.user = some hash ∧ r.new.salt ≤ hash.salt
  /-- From the snapshot on, no login that verified against an earlier one is on its way. -/
  settled : r.phase ≠ .stored → ∀ i t hash, s.tasks.lookup i = some t → t.minting = some (r.user, hash) →
    r.new.salt ≤ hash.salt
  /-- From the snapshot on, a session opened with an earlier one is revoked or going to be. -/
  evicted : r.phase ≠ .stored → ∀ id, s.Stale r.user r.new.salt id → id ≠ r.current →
    s.server.sessions.isDead id = true ∨ ∃ targets, r.phase = .found targets ∧ id ∈ targets

structure Sys.Evicting (s : Sys) : Prop where
  /-- The sessions of the record are in the table, with their users. -/
  owned : ∀ i id user hash, (i, Fact.minted id user hash) ∈ s.history →
    ∃ row, s.server.sessions.rows.lookup id = some row ∧ row.userId = user
  tasks : ∀ i t r, s.tasks.lookup i = some t → t.rotation = some r → s.Rotated r
  returned : ∀ i user current new, (i, Fact.changed user current new) ∈ s.history →
    s.Rotated ⟨user, current, new, .done⟩

/-- A step keeps what a password change counts on: hashes are only replaced by
later ones, and nothing that verified against an earlier one is started. -/
theorem Rotated.settle {r : Rotation} (hr : s.Rotated r) (tid : TaskId)
    (hpasswords : ∀ hash, s.server.passwords.rows.lookup r.user = some hash →
      ∃ hash', o.server.passwords.rows.lookup r.user = some hash' ∧ hash.salt ≤ hash'.salt)
    (hminting : r.phase ≠ .stored → ∀ t hash, o.next = .await t → t.minting = some (r.user, hash) →
      r.new.salt ≤ hash.salt)
    (hfacts : r.phase ≠ .stored → ∀ id hash, Fact.minted id r.user hash ∈ o.facts → r.new.salt ≤ hash.salt)
    (hdead : ∀ id, s.server.sessions.isDead id = true → o.server.sessions.isDead id = true) :
    (s.settle tid o).Rotated r where
  stored := by
    obtain ⟨hash, hhash, hle⟩ := hr.stored
    obtain ⟨hash', hhash', hle'⟩ := hpasswords hash hhash
    exact ⟨hash', hhash', Nat.le_trans hle hle'⟩
  settled := by
    intro hphase i t hash ht hmint
    rcases settle_lookup.1 ht with ⟨rfl, hnext⟩ | ⟨-, ht⟩
    · exact hminting hphase t hash hnext hmint
    · exact hr.settled hphase i t hash ht hmint
  evicted := by
    rintro hphase id ⟨i, hash, hmem, hlt⟩ hne
    rcases mem_settle_history.1 hmem with hold | ⟨-, hnew⟩
    · exact (hr.evicted hphase id ⟨i, hash, hold, hlt⟩ hne).imp_left (hdead id)
    · exact absurd hlt (Nat.not_lt.2 (hfacts hphase id hash hnew))

/-- A step without logins and new passwords. -/
theorem Rotated.frame {r : Rotation} (hr : s.Rotated r) (tid : TaskId)
    (hpasswords : o.server.passwords = s.server.passwords) (hnext : ∀ t, o.next = .await t → t.minting = none)
    (hfacts : ∀ id user hash, Fact.minted id user hash ∉ o.facts)
    (hdead : ∀ id, s.server.sessions.isDead id = true → o.server.sessions.isDead id = true) :
    (s.settle tid o).Rotated r := by
  refine Rotated.settle hr tid (fun hash h => ⟨hash, by rw [hpasswords]; exact h, Nat.le_refl _⟩)
    (fun _ t hash ht hmint => ?_) (fun _ id hash h => absurd h (hfacts id r.user hash)) hdead
  rw [hnext t ht] at hmint
  cases hmint

theorem quiet_rotated {r : Rotation} (hr : s.Rotated r) (tid : TaskId) (h : Quiet s.server o) :
    (s.settle tid o).Rotated r := by
  refine Rotated.frame hr tid h.passwords (fun t ht => Task.minting_of_isIdle (h.next t ht)) (fun id user hash hf => ?_)
    fun id hid => by rw [h.sessions]; exact hid
  cases h.facts _ hf

/-- A new password for somebody comes after every one there is. -/
theorem upsert_rotated {r : Rotation} (hr : s.Rotated r) (tid : TaskId) {user : UserId} {password : String}
    (hpasswords : o.server.passwords = s.server.passwords.upsertForUser cfg.hasher user password)
    (hsessions : o.server.sessions = s.server.sessions) (hnext : ∀ t, o.next = .await t → t.minting = none)
    (hfacts : ∀ id user hash, Fact.minted id user hash ∉ o.facts) : (s.settle tid o).Rotated r := by
  refine Rotated.settle hr tid (fun hash hhash => ?_) (fun _ t hash ht hmint => ?_)
    (fun _ id hash h => absurd h (hfacts id r.user hash)) fun id hid => by rw [hsessions]; exact hid
  · rw [hpasswords]
    by_cases huser : r.user = user
    · subst huser
      exact ⟨_, AList.lookup_insert _, Nat.le_of_lt (UserPasswords.salt_lt_fresh password hhash)⟩
    · exact ⟨hash, by rw [UserPasswords.upsertForUser, AList.lookup_insert_ne huser]; exact hhash, Nat.le_refl _⟩
  · rw [hnext t ht] at hmint
    cases hmint

theorem answered_minting {call : Call} {snap : Snapshot} {n : Nat} {next : Next} {t : Task}
    (h : Answered snap n call next) (hnext : next = .await t) : t.minting = none := by
  cases h with
  | idle _ _ hidle _ => exact Task.minting_of_isIdle (hidle t hnext)
  | logout | revoked | changed => cases hnext; rfl

/-- Every step keeps what a password change counts on. -/
theorem effect_rotated {env : Env} {t : Task} {r : Rotation} (hr : s.Rotated r) (ht : s.tasks.lookup tid = some t)
    (he : Effect cfg s.server env t o) : (s.settle tid o).Rotated r := by
  cases he with
  | quiet _ _ hq => exact quiet_rotated hr tid hq
  | checked | read | snapshot | reported | changed =>
    refine Rotated.frame hr tid rfl (fun t hnext => ?_) (by simp [Server.await]) fun _ => id
    cases hnext
    all_goals rfl
  | founded req user sv' hpasswords hsessions =>
    refine Rotated.frame hr tid hpasswords (fun t hnext => ?_) (by simp [Server.await]) fun id hid => ?_
    · cases hnext; rfl
    · simp only [Server.await, hsessions]; exact hid
  | first user password =>
    refine upsert_rotated hr tid rfl rfl (fun t hnext => ?_) (by simp [Server.setFirstPassword])
    cases hnext
    rfl
  | rotated user password now =>
    refine upsert_rotated hr tid rfl rfl (fun t hnext => ?_) (by simp [Server.setPassword, Server.await])
    cases hnext
    rfl
  | verified l a user hash auth hrow =>
    -- whoever verifies now verifies against the hash that is there
    refine Rotated.settle hr tid (fun hash h => ⟨hash, h, Nat.le_refl _⟩) (fun _ t h hnext hmint => ?_)
      (by simp [Server.await]) fun _ => id
    cases hnext
    simp only [Task.minting, Option.map_some, Option.some.injEq, Prod.mk.injEq] at hmint
    obtain ⟨huser, rfl⟩ := hmint
    obtain ⟨cur, hcur, hle⟩ := hr.stored
    rw [← huser, hrow] at hcur
    cases hcur
    exact hle
  | minted l user sessions auth next hcreate hidle =>
    refine Rotated.settle hr tid (fun hash h => ⟨hash, h, Nat.le_refl _⟩) (fun _ t h hnext hmint => ?_)
      (fun hphase id hash hmem => ?_) fun id => UserSessions.create_isDead hcreate
    · rw [Task.minting_of_isIdle (hidle t hnext)] at hmint
      cases hmint
    · obtain ⟨against, hagainst, heq⟩ := List.mem_map.1 hmem
      simp only [Fact.minted.injEq] at heq
      obtain ⟨-, huser, rfl⟩ := heq
      rw [Option.mem_toList] at hagainst
      exact hr.settled hphase tid _ against ht (by simp [Task.minting, hagainst, huser])
  | written call snap next _ hanswered =>
    exact Rotated.frame hr tid rfl (fun t hnext => answered_minting hanswered hnext) (by simp)
      fun id => UserSessions.write_isDead

/-! ## From one phase to the next -/

/-- The snapshot finds every session of the user that is not revoked. -/
theorem snapshot_rotated (hs : s.Evicting) {user : AuthenticatedUser} {new : PasswordHash} {now : Time}
    (ht : s.tasks.lookup tid = some (.update (.revokeAllExcept user (.passwordChanged new) now)))
    (hnone : s.mintingBefore user.user.id new.salt = false) :
    s.Rotated ⟨user.user.id, user.sessionId, new,
      .found
        (s.server.sessions.snapshot (Call.revokeAllExcept user (.passwordChanged new) now).statement).targets⟩ where
  stored := (hs.tasks tid _ _ ht rfl).stored
  settled := by
    intro _ i t hash hi hmint
    by_contra hlt
    have hany : s.mintingBefore user.user.id new.salt = true := by
      refine Registry.any_iff.2 ⟨i, t, hi, ?_⟩
      rw [hmint]
      simpa using hlt
    rw [hnone] at hany
    cases hany
  evicted := by
    rintro _ id ⟨i, hash, hmem, -⟩ hne
    obtain ⟨row, hrow, huser⟩ := hs.owned i id _ hash hmem
    cases hrev : row.isRevoked with
    | true => exact .inl (UserSessions.isDead_iff.2 ⟨row, hrow, hrev⟩)
    | false =>
      refine .inr ⟨_, rfl, Update.mem_targets.2 ⟨row, hrow, ?_⟩⟩
      have hnone : row.revokedAt.isNone = true := by simpa [UserSession.isRevoked] using hrev
      simpa [Call.statement, Statement.update, huser, hnone] using hne

/-- The write revokes what was found. -/
theorem write_evicts {user : UserId} {current : UserSessionId} {now : Time} {reason : Option String}
    {targets : List UserSessionId} {t : UserSessions} {row : UserSession} (hrow : t.rows.lookup id = some row)
    (huser : row.userId = user) (hne : id ≠ current) (hmem : id ∈ targets) :
    (t.write (.revokeAllExcept user current now reason) targets).isDead id = true := by
  cases hrev : row.isRevoked with
  | true => exact UserSessions.write_isDead (UserSessions.isDead_iff.2 ⟨row, hrow, hrev⟩)
  | false =>
    have hnone : row.revokedAt.isNone = true := by simpa [UserSession.isRevoked] using hrev
    have hhit : (Statement.revokeAllExcept user current now reason).update.hits targets id row = true :=
      Update.hits_iff.2 ⟨hmem, by simpa [Statement.update, huser, hnone] using hne⟩
    refine UserSessions.isDead_iff.2 ⟨row.revoke now reason, ?_, rfl⟩
    rw [UserSessions.lookup_write, hrow, Option.map_some, hhit]
    rfl

/-- Once what was found is revoked, the eviction is done. -/
theorem Rotated.done {user : UserId} {current : UserSessionId} {new : PasswordHash} {targets : List UserSessionId}
    (hr : s.Rotated ⟨user, current, new, .found targets⟩)
    (hfound : ∀ id, s.Stale user new.salt id → id ≠ current → id ∈ targets → s.server.sessions.isDead id = true) :
    s.Rotated ⟨user, current, new, .done⟩ where
  stored := hr.stored
  settled := fun _ => hr.settled (by simp)
  evicted := by
    intro _ id hstale hne
    rcases hr.evicted (by simp) id hstale hne with hdead | ⟨ts, hts, hmem⟩
    · exact .inl hdead
    · cases hts
      exact .inl (hfound id hstale hne hmem)

/-- The password change a step goes on with can count on what it needs. -/
theorem effect_progress {env : Env} {t t' : Task} {r : Rotation} (hs : s.Evicting) (ht : s.tasks.lookup tid = some t)
    (hnone : s.NoneMinting (.resume tid env)) (he : Effect cfg s.server env t o) (hnext : o.next = .await t')
    (hrot : t'.rotation = some r) : (s.settle tid o).Rotated r := by
  have hkeep := fun {r : Rotation} (hr : s.Rotated r) => effect_rotated hr ht he
  cases he with
  | quiet _ _ hq =>
    rw [Task.rotation_of_isIdle (hq.next t' hnext)] at hrot
    cases hrot
  | checked | founded | first | verified | read | reported | changed => cases hnext; all_goals cases hrot
  | minted _ _ _ _ _ _ hidle =>
    rw [Task.rotation_of_isIdle (hidle t' hnext)] at hrot
    cases hrot
  | rotated user password now =>
    cases hnext
    cases hrot
    exact ⟨⟨_, AList.lookup_insert _, Nat.le_refl _⟩, fun h => absurd rfl h, fun h => absurd rfl h⟩
  | snapshot call =>
    cases hnext
    cases call with
    | touchLastSeen | revoke | revokeForUser | revokeAllForUser => cases hrot
    | revokeAllExcept user purge now =>
      cases purge with
      | requested => cases hrot
      | passwordChanged new =>
        cases hrot
        refine hkeep (snapshot_rotated hs ht (hnone ⟨user.user.id, user.sessionId, new, .stored⟩ ?_ rfl))
        rw [ht]
        rfl
  | written call snap next _ hanswered =>
    cases hanswered with
    | idle _ _ hidle _ =>
      rw [Task.rotation_of_isIdle (hidle t' hnext)] at hrot
      cases hrot
    | logout | revoked => cases hnext; cases hrot
    | changed user new now =>
      cases hnext
      cases hrot
      refine Rotated.done (hkeep (hs.tasks tid _ _ ht rfl)) fun id hstale hne hmem => ?_
      obtain ⟨i, hash, hminted, -⟩ := hstale
      rcases mem_settle_history.1 hminted with hold | ⟨-, hnew⟩
      · obtain ⟨row, hrow, huser⟩ := hs.owned i id _ hash hold
        exact write_evicts hrow huser hne hmem
      · simp at hnew

/-- The sessions of the record stay in the table. -/
theorem effect_owned {env : Env} {t : Task} (hs : s.Evicting) (he : Effect cfg s.server env t o) {i : TaskId}
    {user : UserId} {hash : PasswordHash} (hmem : (i, Fact.minted id user hash) ∈ (s.settle tid o).history) :
    ∃ row, o.server.sessions.rows.lookup id = some row ∧ row.userId = user := by
  have hold := hs.owned i id user hash
  rcases mem_settle_history.1 hmem with hmem | ⟨-, hmem⟩
  · obtain ⟨row, hrow, huser⟩ := hold hmem
    cases he with
    | quiet _ _ hq => exact ⟨row, by rw [hq.sessions]; exact hrow, huser⟩
    | founded _ _ _ _ hsessions => exact ⟨row, by simp only [Server.await, hsessions]; exact hrow, huser⟩
    | minted _ _ _ _ _ hcreate => exact ⟨row, UserSessions.lookup_create hcreate hrow, huser⟩
    | written call snap =>
      obtain ⟨row', hrow', huser'⟩ := UserSessions.write_userId call.statement snap.targets hrow
      exact ⟨row', hrow', huser'.trans huser⟩
    | checked | first | verified | read | rotated | snapshot | reported | changed => exact ⟨row, hrow, huser⟩
  · cases he with
    | quiet _ _ hq => cases hq.facts _ hmem
    | minted l user sessions auth next hcreate =>
      obtain ⟨against, -, heq⟩ := List.mem_map.1 hmem
      cases heq
      exact ⟨_, by rw [(UserSessions.create_eq_some hcreate).1]; exact AList.lookup_insert _, rfl⟩
    | written => simp at hmem
    | checked | founded | verified | read | rotated | snapshot => simp [Server.await, Server.setPassword] at hmem
    | first => simp [Server.setFirstPassword] at hmem
    | reported | changed => simp at hmem

theorem effect_returned {env : Env} {t : Task} (hs : s.Evicting) (ht : s.tasks.lookup tid = some t)
    (he : Effect cfg s.server env t o) {i : TaskId} {user : UserId} {current : UserSessionId} {new : PasswordHash}
    (hmem : (i, Fact.changed user current new) ∈ (s.settle tid o).history) :
    (s.settle tid o).Rotated ⟨user, current, new, .done⟩ := by
  rcases mem_settle_history.1 hmem with hmem | ⟨-, hmem⟩
  · exact effect_rotated (hs.returned i user current new hmem) ht he
  · refine effect_rotated ?_ ht he
    cases he with
    | quiet _ _ hq => cases hq.facts _ hmem
    | changed user' new' n now =>
      obtain ⟨rfl, rfl, rfl⟩ : user = user'.user.id ∧ current = user'.sessionId ∧ new = new' := by simpa using hmem
      exact hs.tasks tid _ _ ht rfl
    | written => simp at hmem
    | checked | founded | verified | read | rotated | snapshot => simp [Server.await, Server.setPassword] at hmem
    | first => simp [Server.setFirstPassword] at hmem
    | reported | minted => simp at hmem

theorem step_evicting {ev : Event} (hs : s.Evicting) (hnone : s.NoneMinting ev) (h : s.step cfg ev = some s') :
    s'.Evicting := by
  obtain ⟨r, now, o, rfl, hq, rfl⟩ | ⟨tid, env, t, o, rfl, ht, he, rfl⟩ := step_cases h
  · refine ⟨fun i id user hash hmem => ?_, fun i t r ht hrot => ?_, fun i user current new hmem => ?_⟩
    · rcases mem_settle_history.1 hmem with hmem | ⟨-, hmem⟩
      · obtain ⟨row, hrow, huser⟩ := hs.owned i id user hash hmem
        exact ⟨row, (congrArg (fun t : UserSessions => t.rows.lookup id) hq.sessions).trans hrow, huser⟩
      · cases hq.facts _ hmem
    · rcases settle_lookup.1 ht with ⟨-, hnext⟩ | ⟨-, ht⟩
      · rw [Task.rotation_of_isIdle (hq.next t hnext)] at hrot
        cases hrot
      · have := quiet_rotated (hs.tasks i t r ht hrot) s.nextTask hq
        exact ⟨this.stored, this.settled, this.evicted⟩
    · rcases mem_settle_history.1 hmem with hmem | ⟨-, hmem⟩
      · have := quiet_rotated (hs.returned i user current new hmem) s.nextTask hq
        exact ⟨this.stored, this.settled, this.evicted⟩
      · cases hq.facts _ hmem
  · refine ⟨fun i id user hash => effect_owned hs he, fun i t' r ht' hrot => ?_, fun i user current new =>
      effect_returned hs ht he⟩
    rcases settle_lookup.1 ht' with ⟨-, hnext⟩ | ⟨-, hi⟩
    · exact effect_progress hs ht hnone he hnext hrot
    · exact effect_rotated (hs.tasks i t' r hi hrot) ht he

/-! ## Every run -/

/-- No request is under way, and the record says no more than where sessions of the table came from. -/
structure Sys.AtRest (s : Sys) : Prop where
  idle : s.tasks = ∅
  origins : ∀ e ∈ s.history, ∃ id user hash row, e.2 = Fact.minted id user hash ∧
    s.server.sessions.rows.lookup id = some row ∧ row.userId = user

theorem AtRest.evicting (h : s.AtRest) : s.Evicting where
  owned := by
    intro i id user hash hmem
    obtain ⟨id', user', hash', row, heq, hrow, huser⟩ := h.origins _ hmem
    cases heq
    exact ⟨row, hrow, huser⟩
  tasks := by
    intro i t r ht
    rw [h.idle] at ht
    simp at ht
  returned := by
    intro i user current new hmem
    obtain ⟨_, _, _, _, heq, -⟩ := h.origins _ hmem
    cases heq

/-- **A password change evicts.** If no login of the user that verified against
an earlier password is about to create its session when a password change looks
for sessions to revoke, then, once the change has returned success, no token
validates to a session that was opened with an earlier password, the one that
was replaced or one before it, other than the session that made the change. -/
theorem password_change_evicts (cfg : Config) (s₀ s : Sys) (hrest : s₀.AtRest) (evs : List Event)
    (hnone : Guarded (Sys.step cfg) Sys.NoneMinting s₀ evs) (hr : run (Sys.step cfg) s₀ evs = some s) (tid : TaskId)
    (user : UserId) (current : UserSessionId) (new : PasswordHash)
    (hchanged : (tid, .changed user current new) ∈ s.history) (i : TaskId) (id : UserSessionId) (hash : PasswordHash)
    (hminted : (i, .minted id user hash) ∈ s.history) (hearlier : hash.salt < new.salt) (hother : id ≠ current)
    (token : String) (now : Time) (row : UserSession) :
    s.server.sessions.validate (cfg.digest token) now ≠ .ok (id, row) := by
  have hevicting : s.Evicting :=
    hnone.inv Sys.Evicting (fun _ _ _ hs hok h => step_evicting hs hok h) hr (AtRest.evicting hrest)
  have hdead : s.server.sessions.isDead id = true := by
    rcases (hevicting.returned tid user current new hchanged).evicted (by simp) id ⟨i, hash, hminted, hearlier⟩ hother
      with hdead | ⟨ts, hts, -⟩
    · exact hdead
    · cases hts
  intro hvalid
  obtain ⟨hrow, hlive⟩ := UserSessions.validate_ok hvalid
  rw [UserSessions.isDead_eq_false (UserSessions.isLive_iff.2 ⟨row, hrow, hlive⟩)] at hdead
  cases hdead

/-- One user with a password and a session. -/
def oneUser : Sys := .start
  { Server.init with
    users := [⟨1, "a@b.c"⟩]
    passwords := UserPasswords.empty.upsertForUser .plain 1 "correct horse"
    sessions := (UserSessions.empty.create ⟨1, [116], 0, 0, 100, none, none⟩).getD .empty }

theorem oneUser_atRest : oneUser.AtRest := ⟨rfl, by simp [oneUser, Sys.start]⟩

/-- A login up to its verification, and the creation of its session. -/
def loginVerifies : List Event :=
  [.request (.login ⟨"a@b.c", "correct horse"⟩) 1, .resume 0 ⟨true, 1, ""⟩, .resume 0 ⟨true, 1, ""⟩]

def loginCreates : List Event := [.resume 0 ⟨true, 1, "u"⟩]

/-- A password change by the session, from start to end. -/
def passwordChange : List Event :=
  .request (.authenticated (.changePassword ⟨"correct horse", "battery staple"⟩) (some "t")) 2 ::
    List.replicate 9 (.resume 1 ⟨true, 2, ""⟩)

theorem password_change_evicts_after : ∃ s,
    run (Sys.step .basic) oneUser (loginVerifies ++ loginCreates ++ passwordChange) = some s ∧
      ∀ row, s.server.sessions.validate (Config.basic.digest "u") 3 ≠ .ok (1, row) :=
  ⟨_, rfl, fun row => password_change_evicts .basic oneUser _ oneUser_atRest
    (loginVerifies ++ loginCreates ++ passwordChange) (by decide) rfl 1 1 0 ⟨"battery staple", 1⟩ (by decide) 0 1
    ⟨"correct horse", 0⟩ (by decide) (by decide) (by decide) "u" 3 row⟩

/-- A login that verifies before the change and creates its session after it. -/
theorem password_change_misses : ¬ ∀ (cfg : Config) (s₀ s : Sys) (evs : List Event), s₀.AtRest →
    run (Sys.step cfg) s₀ evs = some s → ∀ tid user current new, (tid, .changed user current new) ∈ s.history →
    ∀ i id hash, (i, .minted id user hash) ∈ s.history → hash.salt < new.salt → id ≠ current →
    ∀ token now row, s.server.sessions.validate (cfg.digest token) now ≠ .ok (id, row) := by
  intro h
  exact h .basic oneUser _ (loginVerifies ++ passwordChange ++ loginCreates) oneUser_atRest rfl 1 1 0
    ⟨"battery staple", 1⟩ (by decide) 0 1 ⟨"correct horse", 0⟩ (by decide) (by decide) (by decide) "u" 3
    ⟨1, [117], 1, 1, 1 + sessionTtl, none, none⟩ (by decide)

end RelayTerm.Account
