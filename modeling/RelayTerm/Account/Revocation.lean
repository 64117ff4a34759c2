import RelayTerm.Account.Steps
/-!
# Revocation is final

`user_sessions` changes by inserts of new rows and by five `UPDATE`s. None of
them takes a revocation back or dates it anew, also not one that found the row
before it was revoked and gets its lock after: the `CASE` of `revoke` and
`revoke_for_user` and the `WHERE` of the others look at the row as it is then.
-/
open RelayTerm.Lib

namespace RelayTerm.Account

variable {cfg : Config} {s s' : Sys} {id : UserSessionId} {time : Time} {reason : Option String} {digest : Digest}

/-- The session was revoked at the time and for the reason. -/
def UserSessions.RevokedAt (t : UserSessions) (id : UserSessionId) (digest : Digest) (time : Time)
    (reason : Option String) : Prop :=
  ∃ row, t.rows.lookup id = some row ∧ row.tokenHash = digest ∧ row.revokedAt = some time ∧ row.revokedReason = reason

theorem create_revokedAt {t t' : UserSessions} {row : UserSession} (h : t.create row = some t')
    (hrev : t.RevokedAt id digest time reason) : t'.RevokedAt id digest time reason := by
  obtain ⟨old, hold, hrest⟩ := hrev
  exact ⟨old, UserSessions.lookup_create h hold, hrest⟩

theorem write_revokedAt {t : UserSessions} (st : Statement) (targets : List UserSessionId)
    (hrev : t.RevokedAt id digest time reason) : (t.write st targets).RevokedAt id digest time reason := by
  obtain ⟨row, hrow, hdigest, htime, hreason⟩ := hrev
  obtain ⟨row', hrow', hdigest', htime', hreason'⟩ := UserSessions.write_revoked st targets hrow htime
  exact ⟨row', hrow', hdigest'.trans hdigest, htime', hreason'.trans hreason⟩

theorem step_revokedAt {ev : Event} (h : s.step cfg ev = some s')
    (hrev : s.server.sessions.RevokedAt id digest time reason) :
    s'.server.sessions.RevokedAt id digest time reason := by
  obtain heq | ⟨row, hcreate⟩ | ⟨st, targets, heq⟩ := sessions_step h
  · rw [heq]; exact hrev
  · exact create_revokedAt hcreate hrev
  · rw [heq]; exact write_revokedAt st targets hrev

/-- **Revocation is final.** Whatever requests are under way and whatever
happens from then on: a session that is revoked stays so, with its time and its
reason, and no validation of its token succeeds again. -/
theorem revocation_final (cfg : Config) (s s' : Sys) (evs : List Event) (id : UserSessionId) (row : UserSession)
    (time : Time) (hrow : s.server.sessions.rows.lookup id = some row) (hrev : row.revokedAt = some time)
    (hr : run (Sys.step cfg) s evs = some s') :
    ∃ row', s'.server.sessions.rows.lookup id = some row' ∧ row'.revokedAt = some time ∧
      row'.revokedReason = row.revokedReason ∧
      ∀ token now, cfg.digest token = row.tokenHash →
        s'.server.sessions.validate (cfg.digest token) now = .error .revoked := by
  have hfinal : s'.server.sessions.RevokedAt id row.tokenHash time row.revokedReason :=
    run_inv (fun s => s.server.sessions.RevokedAt id row.tokenHash time row.revokedReason)
      (fun _ _ _ hs h => step_revokedAt h hs) hr ⟨row, hrow, rfl, hrev, rfl⟩
  obtain ⟨row', hrow', hdigest, htime, hreason⟩ := hfinal
  refine ⟨row', hrow', htime, hreason, fun token now htoken => ?_⟩
  rw [htoken, ← hdigest]
  exact UserSessions.validate_revoked hrow' (by simp [UserSession.isRevoked, htime])

/-- A session that a logout has revoked, and a revoke-session that took its snapshot before and waits for the row. -/
def overtaken : Sys where
  server := { Server.init with
    users := [⟨1, "a@b.c"⟩]
    sessions := (UserSessions.empty.create ⟨1, [7], 0, 0, 100, some 5, some "logout"⟩).getD .empty }
  tasks := (∅ : Registry TaskId Task).insert 3 (.write (.revokeForUser ⟨⟨1, "a@b.c"⟩, 0⟩ 0 6) ⟨[0], none⟩)
  nextTask := 4
  history := []

theorem revocation_final_overtaken : ∃ s' row', run (Sys.step .basic) overtaken [.resume 3 ⟨true, 7, ""⟩] = some s' ∧
    s'.server.sessions.rows.lookup 0 = some row' ∧ row'.revokedAt = some 5 ∧ row'.revokedReason = some "logout" := by
  obtain ⟨row', hrow', htime, hreason, -⟩ := revocation_final .basic overtaken _ [.resume 3 ⟨true, 7, ""⟩] 0
    ⟨1, [7], 0, 0, 100, some 5, some "logout"⟩ 5 rfl rfl rfl
  exact ⟨_, row', rfl, hrow', htime, hreason⟩

end RelayTerm.Account
