import RelayTerm.Session.Steps
/-!
# Closed is absorbing, as long as no status write is stale

Six operations write a session's status with an `UPDATE` that does not look at
what it overwrites. Five of them checked, some await points earlier, that the
row was not closed; `detach_attachment` never looks. So a closed row is
reopened, or stamped again, exactly by a write whose operation was overtaken by
another's close, or by a detach of a session that was already closed.
-/
open RelayTerm.Lib

namespace RelayTerm.Session

variable {st : Store} {env : Env} {s s' : Sys} {sid : SessionId}

/-- The row of `sid` has status `closed` and the stamp `closedAt`. -/
def Sys.ClosedAt (s : Sys) (sid : SessionId) (closedAt : Time) : Prop :=
  ∃ row, s.store.sessions.lookup sid = some row ∧ row.status = .closed ∧ row.closedAt = some closedAt

def Sys.rowClosed (s : Sys) (sid : SessionId) : Bool := (s.store.sessions.lookup sid).any (·.status = .closed)

/-- A status write is not stale: no other operation closed the row since the
writer read it, and a detach that writes `detached` read a row that was not
closed. -/
def WriteNotStale (s : Sys) : Event → Prop
  | .call _ => True
  | .resume tid _ => ∀ w ∈ (s.tasks.lookup tid).bind Task.statusWrite,
      (s.rowClosed w.sid → w.read.status = .closed) ∧ (w.status = .detached → w.read.status ≠ .closed)

instance (s : Sys) : (e : Event) → Decidable (WriteNotStale s e)
  | .call _ => isTrue trivial
  | .resume _ _ => inferInstanceAs (Decidable (∀ w ∈ _, _))

/-! ## The check every other writer makes at its entry -/

/-- The row with which a task passed the check that the session is not closed. -/
def Task.gated : Task → Option TerminalSession
  | .startSetActive _ _ session _ _ | .failedSetClosed _ session _ _ | .closeSetClosed _ _ _ session _
  | .teardownSetClosed _ session _ _ | .attachCreate _ session _ | .attachEvent _ session _ _ _ _
  | .attachSetActive _ session _ _ _ => some session
  | _ => none

theorem enter_gated (c : Call) {t : Task} (h : (st.enter c).next = .await t) : t.gated = none := by
  cases c <;> grind [Task.gated]

/-- A stretch goes on with the row it was gated with, or has just checked a new one. -/
theorem resume_gated (fresh : TaskId) {t t' : Task} {session : TerminalSession}
    (h : (st.resume env fresh t).next = .await t') (hg : t'.gated = some session) :
    t.gated = some session ∨ session.status ≠ .closed := by
  cases resume_edge fresh h <;> simp only [Task.gated, reduceCtorEq, Option.some.injEq] at hg ⊢ <;> subst hg
  case startGate | failedGate | closeGate | attachGate | teardownGate => exact .inr ‹_›
  all_goals exact .inl rfl

theorem spawned_gated (fresh : TaskId) {t u : Task} (h : (st.resume env fresh t).spawned = some u) :
    u.gated = none := by
  rcases resume_spawned fresh h with ⟨_, _, _, _, rfl⟩ | ⟨_, _, _, rfl⟩ <;> rfl

/-- Every task that passed the check still holds a row that was not closed. -/
def Sys.GateKept (s : Sys) : Prop :=
  ∀ i t session, s.tasks.lookup i = some t → t.gated = some session → session.status ≠ .closed

theorem init_gateKept (ttl : Nat) : (Sys.init ttl).GateKept := by
  intro i t session h
  simp [Sys.init] at h

theorem step_gateKept {e : Event} (hs : s.GateKept) (h : s.step e = some s') : s'.GateKept := by
  intro i t session ht hg
  cases e with
  | call c =>
    cases h
    rcases entered_task ht with ⟨-, hnext⟩ | ⟨-, hold⟩
    · rw [enter_gated c hnext] at hg; cases hg
    · exact hs i t session hold hg
  | resume tid env =>
    obtain ⟨u, hu, rfl⟩ := step_resume h
    obtain ⟨-, ⟨-, hsp⟩ | ⟨-, hnext⟩ | ⟨-, hold⟩⟩ := settle_task ht
    · rw [spawned_gated _ hsp] at hg; cases hg
    · exact (resume_gated _ hnext hg).elim (hs tid u session hu) id
    · exact hs i t session hold hg

/-- Every writer but the detach is past the check. -/
theorem statusWrite_gated {t : Task} {w : StatusWrite} (h : t.statusWrite = some w) :
    w.status = .detached ∨ t.gated = some w.read := by
  cases t <;> cases h
  case scheduleSetDetached => exact .inl rfl
  all_goals exact .inr rfl

/-! ## A closed row -/

theorem rowClosed_iff : s.rowClosed sid ↔ ∃ row, s.store.sessions.lookup sid = some row ∧ row.status = .closed := by
  cases h : s.store.sessions.lookup sid <;> simp [Sys.rowClosed, h]

/-- A write that is not stale never meets a closed row. -/
theorem not_stale_not_closed {tid : TaskId} {t : Task} {w : StatusWrite} (hk : s.GateKept)
    (hok : WriteNotStale s (.resume tid env)) (ht : s.tasks.lookup tid = some t) (hw : t.statusWrite = some w) :
    ¬ s.rowClosed w.sid := by
  intro hclosed
  obtain ⟨hread, hdetach⟩ := hok w (by simp [ht, hw])
  rcases statusWrite_gated hw with hst | hg
  · exact hdetach hst (hread hclosed)
  · exact hk tid t w.read ht hg (hread hclosed)

/-- A step whose status write is not stale leaves a closed row as it is. -/
theorem step_closedRow {e : Event} {row : TerminalSession} (hk : s.GateKept) (hok : WriteNotStale s e)
    (h : s.step e = some s') (hrow : s.store.sessions.lookup sid = some row) (hst : row.status = .closed) :
    s'.store.sessions.lookup sid = some row := by
  cases e with
  | call c =>
    cases h
    exact (congrArg (AList.lookup sid) (enter_sessions c)).trans hrow
  | resume tid env =>
    obtain ⟨t, ht, rfl⟩ := step_resume h
    rcases resume_sessions s.store env s.nextTask t with he | ⟨new, row', hnew, -, he⟩ | ⟨w, row', hw, hrow', he⟩
    · exact (congrArg (AList.lookup sid) he).trans hrow
    · -- a created session has an id of its own
      have hne : sid ≠ new := by
        rintro rfl
        rw [hnew] at hrow
        cases hrow
      exact (congrArg (AList.lookup sid) he).trans ((AList.lookup_insert_ne hne).trans hrow)
    · have hne : sid ≠ w.sid := by
        rintro rfl
        exact not_stale_not_closed hk hok ht hw (rowClosed_iff.2 ⟨row, hrow, hst⟩)
      exact (congrArg (AList.lookup sid) he).trans ((AList.lookup_insert_ne hne).trans hrow)

theorem step_closedAt {e : Event} {closedAt : Time} (hk : s.GateKept) (hok : WriteNotStale s e)
    (h : s.step e = some s') (hc : s.ClosedAt sid closedAt) : s'.ClosedAt sid closedAt := by
  obtain ⟨row, hrow, hst, hat⟩ := hc
  exact ⟨row, step_closedRow hk hok h hrow hst, hst, hat⟩

theorem step_rowClosed {e : Event} (hk : s.GateKept) (hok : WriteNotStale s e) (h : s.step e = some s')
    (hc : s.rowClosed sid) : s'.rowClosed sid := by
  obtain ⟨row, hrow, hst⟩ := rowClosed_iff.1 hc
  exact rowClosed_iff.2 ⟨row, step_closedRow hk hok h hrow hst, hst⟩

/-- In a run whose status writes are never stale, a session that is closed stays
closed, with the `closed_at` it has. -/
theorem closed_absorbing (ttl : Nat) (pre post : List Event) (s s' : Sys) (sid : SessionId) (closedAt : Time)
    (hg : Guarded Sys.step WriteNotStale (Sys.init ttl) (pre ++ post))
    (hpre : run Sys.step (Sys.init ttl) pre = some s) (hpost : run Sys.step s post = some s')
    (hc : s.ClosedAt sid closedAt) : s'.ClosedAt sid closedAt := by
  have hk : s.GateKept := run_inv _ (fun _ _ _ hi h => step_gateKept hi h) hpre (init_gateKept ttl)
  obtain ⟨-, hg⟩ := hg.of_append hpre
  refine (hg.inv (fun u => u.GateKept ∧ u.ClosedAt sid closedAt) ?_ hpost ⟨hk, hc⟩).2
  rintro u e v ⟨hk, hc⟩ hok h
  exact ⟨step_gateKept hk h, step_closedAt hk hok h hc⟩

/-! ## Runs -/

/-- Session 7 of user 1 is created and its PTY, with forwarder 2, started. -/
def startedRun : List Event :=
  [.call (.createSession ⟨1, 1, 80, 24⟩), .resume 0 { id := 7, now := 1 }, .resume 0 {},
   .call (.startLivePty 1 7 100), .resume 1 {}, .resume 1 {}, .resume 1 {}]

/-- Task `tid` attaches `aid` to session 7. -/
def attachRun (tid : TaskId) (aid : AttachmentId) : List Event :=
  [.call (.attachSession { sessionId := 7, ownerId := 1 }), .resume tid {}, .resume tid { id := aid }, .resume tid {}]

/-- Task `tid` detaches `aid` from session 7, up to the status write of the scheduling. -/
def detachRun (tid : TaskId) (aid : AttachmentId) : List Event :=
  [.call (.detach { schedule := true, ownerId := 1, sessionId := 7, attachmentId := aid }),
   .resume tid {}, .resume tid {}, .resume tid { now := 40 }, .resume tid {}, .resume tid {}]

/-- The remote shell exits and the forwarder closes the row, at time 50. -/
def remoteExitRun : List Event :=
  [.resume 2 { bridge := some (.closed .remoteEof) }, .resume 2 {}, .resume 2 { now := 50 }, .resume 2 {}, .resume 2 {}]

/-- The only client detaches; the timer, task 5, fires and closes the session at time 90. -/
def expiredRun : List Event :=
  startedRun ++ attachRun 3 9 ++ detachRun 4 9 ++ [.resume 4 {}, .resume 5 {}, .resume 5 { now := 90 }, .resume 5 {},
    .resume 5 {}, .resume 5 {}, .resume 5 {}, .resume 5 {}, .resume 5 {}]

/-- A client request to close the session, task 6, which finds it closed. -/
def closeAgainRun : List Event := [.call (.closeSession 7 1), .resume 6 { now := 99 }]

theorem closed_absorbing_expiry :
    ∃ s s', run Sys.step (Sys.init 30) expiredRun = some s ∧ run Sys.step s closeAgainRun = some s' ∧
      s'.ClosedAt 7 90 :=
  ⟨_, _, rfl, rfl, closed_absorbing 30 expiredRun closeAgainRun _ _ 7 90 (by decide) rfl rfl ⟨_, rfl, rfl, rfl⟩⟩

theorem closed_not_absorbing :
    ¬ ∀ (ttl : Nat) (pre post : List Event) (s s' : Sys) (sid : SessionId) (closedAt : Time),
      (∀ e ∈ pre ++ post, e.callSucceeds) → run Sys.step (Sys.init ttl) pre = some s →
      run Sys.step s post = some s' → s.ClosedAt sid closedAt → s'.ClosedAt sid closedAt := by
  intro h
  have hopen := h 30 (startedRun ++ attachRun 3 9 ++ remoteExitRun) (detachRun 4 9 ++ [.resume 4 {}]) _ _ 7 50
    (by decide) rfl rfl ⟨_, rfl, rfl, rfl⟩
  obtain ⟨row, hrow, hst, -⟩ := hopen
  cases hrow
  cases hst

end RelayTerm.Session
