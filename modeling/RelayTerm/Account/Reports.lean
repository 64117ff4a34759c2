import RelayTerm.Account.Steps
/-!
# Who reports a revocation

`logout` writes `logout_succeeded` once its `UPDATE` has found the row, whether
or not it was the one that revoked it: it had read the session as live before.
`revoke_session` writes `session_revoked` when the row was live in the snapshot
of its statement. In between another request can revoke the session, and then
both report it. As long as nobody revokes a session that another request counts
on as live, every revocation has at most one audit row, written by the request
that made it.
-/
open RelayTerm.Lib

namespace RelayTerm.Account

variable {cfg : Config} {s s' : Sys} {tid : TaskId} {o : Out} {id : UserSessionId}

/-- An audit row about the revocation of the session. -/
def Fact.records (id : UserSessionId) : Fact → Bool
  | .wrote event => event.session = some id
  | _ => false

/-- The sessions that a resumption moves from not revoked to revoked. -/
def Sys.movedBy (s : Sys) (tid : TaskId) (env : Env) : List UserSessionId :=
  match s.tasks.lookup tid with
  | some (.write call snap) => if env.ok then s.server.sessions.moves call.statement snap.targets else []
  | _ => []

/-- Nobody else counts on a session as live that is revoked now. -/
def Sys.Unraced (s : Sys) : Event → Prop
  | .request _ _ => True
  | .resume tid env => ∀ id ∈ s.movedBy tid env, Registry.any (fun t => t.relies = some id) (s.tasks.erase tid) = false

instance (s : Sys) : (ev : Event) → Decidable (s.Unraced ev)
  | .request _ _ => isTrue trivial
  | .resume tid env => inferInstanceAs (Decidable (∀ id ∈ s.movedBy tid env, _))

/-- A live row that a revoking statement writes is moved by it. -/
theorem UserSessions.mem_moves_of_affected {t : UserSessions} {st : Statement} {targets : List UserSessionId}
    (hst : st.revokes = true) (hlive : t.isLive id = true) (haff : id ∈ st.update.affected targets t.rows) :
    id ∈ t.moves st targets := by
  rw [moves, if_pos hst]
  exact List.mem_filter.2 ⟨haff, hlive⟩

/-- A statement about one session that affected a row affected that one. -/
theorem mem_affected_of_pos {sv : Server} {call : Call} {snap : Snapshot}
    (hre : ∀ i row, call.statement.update.rechecks i row = true → i = id) (hpos : (sv.affected call snap).length ≠ 0) :
    id ∈ sv.affected call snap := by
  obtain ⟨i, hi⟩ := List.exists_mem_of_length_pos (Nat.pos_of_ne_zero hpos)
  obtain ⟨-, row, -, hrow⟩ := Update.mem_affected.1 hi
  rw [← hre i row hrow]
  exact hi

/-! ## The invariant -/

structure Sys.Reported (s : Sys) : Prop where
  /-- Who counts on a session as live is right. -/
  relied : ∀ i t id, s.tasks.lookup i = some t → t.relies = some id → s.server.sessions.isLive id = true
  /-- Who is about to report a revocation has made it. -/
  reporting : ∀ i t id, s.tasks.lookup i = some t → t.reports = some id → (i, Fact.moved id) ∈ s.history
  /-- Who has reported one has made it. -/
  recorded : ∀ i event id, (i, Fact.wrote event) ∈ s.history → event.session = some id →
    (i, Fact.moved id) ∈ s.history
  /-- A revoked session has one report, written or about to be; every other has none. -/
  once : ∀ id, Registry.count (fun t => t.reports = some id) s.tasks + s.count (Fact.records id) ≤
    if s.server.sessions.isDead id then 1 else 0

theorem start_reported (sv : Server) : (Sys.start sv).Reported where
  relied := by simp [Sys.start]
  reporting := by simp [Sys.start]
  recorded := by simp [Sys.start]
  once := fun id => Nat.zero_le _

/-- A step that writes no report. -/
theorem countP_records_eq_zero (hfacts : ∀ event, Fact.wrote event ∈ o.facts → event.session = none)
    (id : UserSessionId) : o.facts.countP (Fact.records id) = 0 := by
  rw [List.countP_eq_zero]
  intro f hf
  cases f with
  | wrote event => simp [Fact.records, hfacts event hf]
  | moved | minted | bootstrapped | changed => simp [Fact.records]

/-- A session that is moved now had no report before. -/
theorem once_moved {n n' added : Nat} {before after : Bool} (honce : n ≤ if before then 1 else 0)
    (hle : n' ≤ n) (hkept : before = true → after = true)
    (hadded : added = 0 ∨ (added = 1 ∧ before = false ∧ after = true)) : n' + added ≤ if after then 1 else 0 := by
  rcases hadded with rfl | ⟨rfl, rfl, rfl⟩
  · cases before with
    | false => exact Nat.le_trans (Nat.le_trans hle honce) (Nat.zero_le _)
    | true =>
      rw [hkept rfl]
      exact Nat.le_trans hle honce
  · exact Nat.add_le_add_right (Nat.le_trans hle honce) 1

/-- Every step but the writing of a report: it may take over a session it read as
live, and a report it is about to write is of a session it has just moved. -/
theorem Reported.settle (hs : s.Reported) (tid : TaskId)
    (hothers : ∀ i t id, i ≠ tid → s.tasks.lookup i = some t → t.relies = some id →
      o.server.sessions.isLive id = true)
    (hdead : ∀ id, s.server.sessions.isDead id = true → o.server.sessions.isDead id = true)
    (hrelies : ∀ t id, o.next = .await t → t.relies = some id → o.server.sessions.isLive id = true)
    (hreports : ∀ t id, o.next = .await t → t.reports = some id → Fact.moved id ∈ o.facts ∧
      s.server.sessions.isDead id = false ∧ o.server.sessions.isDead id = true)
    (hfacts : ∀ event, Fact.wrote event ∈ o.facts → event.session = none) : (s.settle tid o).Reported where
  relied := by
    intro i t id ht hrel
    rcases settle_lookup.1 ht with ⟨rfl, hnext⟩ | ⟨hi, ht⟩
    · exact hrelies t id hnext hrel
    · exact hothers i t id hi ht hrel
  reporting := by
    intro i t id ht hrep
    rcases settle_lookup.1 ht with ⟨rfl, hnext⟩ | ⟨-, ht⟩
    · exact mem_settle_history.2 (.inr ⟨rfl, (hreports t id hnext hrep).1⟩)
    · exact mem_settle_history.2 (.inl (hs.reporting i t id ht hrep))
  recorded := by
    intro i event id hev hid
    rcases mem_settle_history.1 hev with hev | ⟨-, hev⟩
    · exact mem_settle_history.2 (.inl (hs.recorded i event id hev hid))
    · rw [hfacts event hev] at hid
      cases hid
  once := by
    intro id
    rw [settle_count, settle_history_count, countP_records_eq_zero hfacts, Nat.add_zero, Nat.add_right_comm]
    have hle := Registry.count_erase_le (fun t : Task => decide (t.reports = some id)) s.tasks tid
    refine once_moved (hs.once id) (Nat.add_le_add_right hle _) (hdead id) ?_
    cases hsat : o.next.sat fun t => t.reports = some id with
    | false => exact .inl rfl
    | true =>
      -- the one report of the session that was moved
      cases hnext : o.next with
      | ret r => rw [hnext] at hsat; cases hsat
      | await t =>
        rw [hnext] at hsat
        exact .inr ⟨rfl, (hreports t id hnext (by simpa [Next.sat] using hsat)).2⟩

/-- A step that leaves the live sessions live and rests at a task without a report. -/
theorem Reported.frame (hs : s.Reported) (tid : TaskId)
    (hlive : ∀ id, s.server.sessions.isLive id = true → o.server.sessions.isLive id = true)
    (hdead : ∀ id, s.server.sessions.isDead id = true → o.server.sessions.isDead id = true)
    (hnext : ∀ t, o.next = .await t → t.reports = none ∧
      ∀ id, t.relies = some id → o.server.sessions.isLive id = true)
    (hfacts : ∀ event, Fact.wrote event ∈ o.facts → event.session = none) : (s.settle tid o).Reported := by
  refine Reported.settle hs tid (fun i t id _ ht hrel => hlive id (hs.relied i t id ht hrel)) hdead
    (fun t id ht => (hnext t ht).2 id) (fun t id ht hrep => ?_) hfacts
  rw [(hnext t ht).1] at hrep
  cases hrep

theorem isIdle_rests {sessions : UserSessions} {t : Task} (h : t.isIdle = true) :
    t.reports = none ∧ ∀ id, t.relies = some id → sessions.isLive id = true := by
  refine ⟨Task.reports_of_isIdle h, fun id hid => ?_⟩
  rw [Task.relies_of_isIdle h] at hid
  cases hid

theorem quiet_reported (hs : s.Reported) (tid : TaskId) (h : Quiet s.server o) : (s.settle tid o).Reported := by
  refine Reported.frame hs tid (fun id hid => ?_) (fun id hid => ?_) (fun t ht => isIdle_rests (h.next t ht))
    fun event hev => ?_
  · rw [h.sessions]; exact hid
  · rw [h.sessions]; exact hid
  · simpa [Fact.isPlain] using h.facts _ hev

/-- The snapshot of `revoke_for_user` finds the session live, if it finds it and found it not revoked. -/
theorem snapshot_relies {sessions : UserSessions} {call : Call}
    (hcall : ∀ id, (Task.update call).relies = some id → sessions.isLive id = true)
    (h : (Task.write call (sessions.snapshot call.statement)).relies = some id) : sessions.isLive id = true := by
  cases call with
  | revoke i user now => exact hcall id h
  | revokeForUser user i now =>
    simp only [Task.relies, Option.ite_none_right_eq_some, Bool.and_eq_true, Option.some.injEq] at h
    obtain ⟨⟨hprior, htarget⟩, rfl⟩ := h
    obtain ⟨row, hrow, -⟩ := Update.mem_targets.1 (List.mem_of_elem_eq_true htarget)
    refine UserSessions.isLive_iff.2 ⟨row, hrow, ?_⟩
    simp only [UserSessions.snapshot, Call.statement, hrow, Option.bind_some] at hprior
    simpa [UserSession.isRevoked] using hprior
  | touchLastSeen | revokeAllForUser | revokeAllExcept => cases h

/-- A caller that goes on to report a session had counted on it and has moved it. -/
theorem answered_moves (hs : s.Reported) {call : Call} {snap : Snapshot} {next : Next} {t : Task}
    (ht : s.tasks.lookup tid = some (.write call snap))
    (h : Answered snap (s.server.affected call snap).length call next) (hnext : next = .await t)
    (hrep : t.reports = some id) : id ∈ s.server.sessions.moves call.statement snap.targets := by
  cases h with
  | idle _ _ hidle _ =>
    rw [Task.reports_of_isIdle (hidle t hnext)] at hrep
    cases hrep
  | logout i user now hpos =>
    cases hnext
    cases hrep
    refine UserSessions.mem_moves_of_affected rfl (hs.relied tid _ id ht rfl)
      (mem_affected_of_pos (fun j row hj => ?_) hpos)
    simpa [Call.statement, Statement.update] using hj
  | revoked user i now hpos hprior =>
    cases hnext
    cases hrep
    have haff : id ∈ s.server.affected (.revokeForUser user id now) snap := by
      refine mem_affected_of_pos (fun j row hj => ?_) hpos
      simpa [Call.statement, Statement.update] using hj
    have htarget : id ∈ snap.targets := (Update.mem_affected.1 haff).1
    exact UserSessions.mem_moves_of_affected rfl (hs.relied tid _ id ht (by simp [Task.relies, hprior, htarget])) haff
  | changed => cases hnext; cases hrep

theorem answered_relies {call : Call} {snap : Snapshot} {n : Nat} {next : Next} {t : Task}
    (h : Answered snap n call next) (hnext : next = .await t) : t.relies = none := by
  cases h with
  | idle _ _ hidle _ => exact Task.relies_of_isIdle (hidle t hnext)
  | logout | revoked | changed => cases hnext; rfl

theorem written_reported (hs : s.Reported) {env : Env} {call : Call} {snap : Snapshot} {next : Next}
    (ht : s.tasks.lookup tid = some (.write call snap)) (hok : env.ok = true) (hun : s.Unraced (.resume tid env))
    (h : Answered snap (s.server.affected call snap).length call next) :
    (s.settle tid ⟨{ s.server with sessions := s.server.sessions.write call.statement snap.targets }, next,
      (s.server.sessions.moves call.statement snap.targets).map .moved⟩).Reported := by
  have hmoved : s.movedBy tid env = s.server.sessions.moves call.statement snap.targets := by
    simp [Sys.movedBy, ht, hok]
  refine Reported.settle hs tid (fun i t id hi ht' hrel => ?_) (fun id => UserSessions.write_isDead)
    (fun t id hnext hrel => ?_) (fun t id hnext hrep => ?_) (by simp)
  · -- what is moved, nobody else counts on
    have hlive := hs.relied i t id ht' hrel
    by_contra hdead
    have hmem : id ∈ s.movedBy tid env := hmoved ▸ UserSessions.mem_moves.2 ⟨hlive, by simpa using hdead⟩
    have hany : Registry.any (fun t => t.relies = some id) (s.tasks.erase tid) = true :=
      Registry.any_iff.2 ⟨i, t, Registry.lookup_erase_iff.2 ⟨hi, ht'⟩, by simpa using hrel⟩
    rw [hun id hmem] at hany
    cases hany
  · rw [answered_relies h hnext] at hrel
    cases hrel
  · have hmem := answered_moves hs ht h hnext hrep
    exact ⟨List.mem_map_of_mem hmem, UserSessions.isDead_eq_false (UserSessions.mem_moves.1 hmem).1,
      UserSessions.isDead_of_mem_moves hmem⟩

/-- A report is written by the request that was about to. -/
theorem reported_reported (hs : s.Reported) {t : Task} {event : AccountAuditEvent} {r : Reply}
    (ht : s.tasks.lookup tid = some t) (hrep : t.reports = some id) (hevent : event.session = some id) :
    (s.settle tid ⟨s.server, .ret r, [.wrote event]⟩).Reported where
  relied := by
    intro i u j hu hrel
    rcases settle_lookup.1 hu with ⟨-, hnext⟩ | ⟨-, hu⟩
    · cases hnext
    · exact hs.relied i u j hu hrel
  reporting := by
    intro i u j hu hj
    rcases settle_lookup.1 hu with ⟨-, hnext⟩ | ⟨-, hu⟩
    · cases hnext
    · exact mem_settle_history.2 (.inl (hs.reporting i u j hu hj))
  recorded := by
    intro i ev j hev hj
    refine mem_settle_history.2 (.inl ?_)
    rcases mem_settle_history.1 hev with hold | ⟨rfl, hnew⟩
    · exact hs.recorded i ev j hold hj
    · obtain rfl : ev = event := by simpa using hnew
      obtain rfl : id = j := Option.some.inj (hevent.symm.trans hj)
      exact hs.reporting i t id ht hrep
  once := by
    intro j
    -- one report fewer to write, one more written
    have honce := hs.once j
    have herase := Registry.count_erase (fun t : Task => decide (t.reports = some j)) ht
    rw [settle_count, settle_history_count]
    simp only [Next.sat, Fact.records, hrep, hevent, List.countP_singleton, Bool.false_eq_true, if_false] at herase ⊢
    show _ ≤ if s.server.sessions.isDead j then 1 else 0
    omega

theorem step_reported {ev : Event} (hs : s.Reported) (hun : s.Unraced ev) (h : s.step cfg ev = some s') :
    s'.Reported := by
  obtain ⟨r, now, o, rfl, hq, rfl⟩ | ⟨tid, env, t, o, rfl, ht, he, rfl⟩ := step_cases h
  · have := quiet_reported hs s.nextTask hq
    exact ⟨this.relied, this.reporting, this.recorded, this.once⟩
  · cases he with
    | quiet _ _ hq => exact quiet_reported hs tid hq
    | checked | first | verified | rotated =>
      refine Reported.frame hs tid (fun _ => id) (fun _ => id) (fun t hnext => ?_) ?_
      · cases hnext; exact ⟨rfl, by simp [Task.relies]⟩
      · simp [Server.await, Server.setFirstPassword, Server.setPassword]
    | founded req user sv' hpasswords hsessions =>
      refine Reported.frame hs tid (fun id hid => ?_) (fun id hid => ?_) (fun t hnext => ?_) (by simp [Server.await])
      · simp only [Server.await, hsessions]; exact hid
      · simp only [Server.await, hsessions]; exact hid
      · cases hnext; exact ⟨rfl, by simp [Task.relies]⟩
    | minted l user sessions auth next hcreate hidle =>
      exact Reported.frame hs tid (fun id => UserSessions.create_isLive hcreate)
        (fun id => UserSessions.create_isDead hcreate) (fun t hnext => isIdle_rests (hidle t hnext)) (by simp)
    | read token now i user hlive =>
      refine Reported.frame hs tid (fun _ => id) (fun _ => id) (fun t hnext => ?_) (by simp [Server.await])
      cases hnext
      refine ⟨rfl, fun j hj => ?_⟩
      cases hj
      exact hlive
    | snapshot call =>
      refine Reported.frame hs tid (fun _ => id) (fun _ => id) (fun t hnext => ?_) (by simp [Server.await])
      cases hnext
      exact ⟨rfl, fun j hj => snapshot_relies (fun i hi => hs.relied tid _ i ht hi) hj⟩
    | written call snap next hok hanswered => exact written_reported hs ht hok hun hanswered
    | reported _ id event r hrep hevent => exact reported_reported hs ht hrep hevent
    | changed =>
      refine Reported.frame hs tid (fun _ => id) (fun _ => id) (fun t hnext => ?_) ?_
      · cases hnext
      · simp [AccountAuditEvent.session]

/-- **One report for one revocation.** As long as nobody revokes a session that
another request has read as live and is about to revoke, every session has at
most one audit row about its revocation, and the request that wrote it is the
one that moved the row from not revoked to revoked. -/
theorem revocations_reported_once (cfg : Config) (sv : Server) (evs : List Event) (s : Sys)
    (hun : Guarded (Sys.step cfg) Sys.Unraced (.start sv) evs) (hr : run (Sys.step cfg) (.start sv) evs = some s)
    (id : UserSessionId) :
    s.count (Fact.records id) ≤ 1 ∧
      ∀ tid event, (tid, .wrote event) ∈ s.history → event.session = some id → (tid, .moved id) ∈ s.history := by
  have hreported : s.Reported :=
    hun.inv Sys.Reported (fun _ _ _ hs hok h => step_reported hs hok h) hr (start_reported sv)
  refine ⟨?_, fun tid event => hreported.recorded tid event id⟩
  have honce := hreported.once id
  split at honce <;> omega

/-- One user with one session. -/
def signedIn : Server :=
  { Server.init with
    users := [⟨1, "a@b.c"⟩]
    sessions := (UserSessions.empty.create ⟨1, [116], 0, 0, 100, none, none⟩).getD .empty }

/-- A logout, from start to end, and then another. -/
def logoutTwice : List Event :=
  [.request (.logout (some "t")) 1, .resume 0 ⟨true, 1, ""⟩, .resume 0 ⟨true, 1, ""⟩, .resume 0 ⟨true, 1, ""⟩,
    .resume 0 ⟨true, 1, ""⟩, .request (.logout (some "t")) 2, .resume 1 ⟨true, 2, ""⟩]

theorem revocations_reported_once_apart : ∃ s, run (Sys.step .basic) (.start signedIn) logoutTwice = some s ∧
    s.count (Fact.records 0) = 1 ∧ s.count (Fact.records 0) ≤ 1 :=
  ⟨_, rfl, by decide, (revocations_reported_once .basic signedIn logoutTwice _ (by decide) rfl 0).1⟩

def Event.succeeds : Event → Bool
  | .request _ _ => true
  | .resume _ env => env.ok

/-- Two logouts that both read the session as live before either revokes it. -/
theorem revocations_reported_twice : ¬ ∀ (cfg : Config) (sv : Server) (evs : List Event) (s : Sys),
    (∀ ev ∈ evs, ev.succeeds = true) → run (Sys.step cfg) (.start sv) evs = some s → ∀ id,
      s.count (Fact.records id) ≤ 1 ∧
        ∀ tid event, (tid, .wrote event) ∈ s.history → event.session = some id → (tid, .moved id) ∈ s.history := by
  intro h
  have hcount := (h .basic signedIn
    [.request (.logout (some "t")) 1, .request (.logout (some "t")) 1, .resume 0 ⟨true, 1, ""⟩,
      .resume 1 ⟨true, 1, ""⟩, .resume 0 ⟨true, 1, ""⟩, .resume 0 ⟨true, 1, ""⟩, .resume 0 ⟨true, 1, ""⟩,
      .resume 1 ⟨true, 1, ""⟩, .resume 1 ⟨true, 1, ""⟩, .resume 1 ⟨true, 1, ""⟩] _ (by decide) rfl 0).1
  exact absurd hcount (by decide)

end RelayTerm.Account
