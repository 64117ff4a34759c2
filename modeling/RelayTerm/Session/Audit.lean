import RelayTerm.Session.Alone
/-!
# One end per session in the event log

Four operations end a session: a close, the TTL task, the forwarder and a failed
start. Each reads the row, writes `closed` and then writes its event. The row is
the lock: as long as no status write is stale, only one of them finds it open,
so the events in the log and those still to be written are one at most.
-/
open RelayTerm.Lib

namespace RelayTerm.Session

variable {st : Store} {env : Env} {s s' : Sys} {sid : SessionId}

/-- An event of kind `closed` for the session. -/
def SessionEvent.isClosedOf (sid : SessionId) (ev : SessionEvent) : Bool := ev.sessionId = sid && ev.kind = .closed

/-- The task's next statement writes such an event. -/
def Task.logsClosed (sid : SessionId) (t : Task) : Bool := t.logs.any (·.isClosedOf sid)

def Sys.closedEvents (s : Sys) (sid : SessionId) : Nat := s.store.events.countP (·.isClosedOf sid)

/-- The tasks that are about to write one. -/
def Sys.closedPending (s : Sys) (sid : SessionId) : Nat := Registry.count (·.logsClosed sid) s.tasks

/-! ## Counting tasks -/

theorem count_abortAll_le (p : Task → Bool) (aborted : List TaskId) (tasks : Registry TaskId Task) :
    Registry.count p (abortAll aborted tasks) ≤ Registry.count p tasks := by
  induction aborted with
  | nil => exact Nat.le_refl _
  | cons i aborted ih => exact Nat.le_trans (Registry.count_erase_le p _ i) ih

/-- What the next await point of a task counts for. -/
def Next.count (p : Task → Bool) : Next → Nat
  | .await t => if p t then 1 else 0
  | .ret _ => 0

/-- A stretch puts the next await point in the place of the task it resumed. -/
theorem settle_count {p : Task → Bool} {tid fresh : TaskId} {o : Out} (hsp : ∀ u, o.spawned = some u → p u = false) :
    Registry.count p (s.settle tid fresh o).tasks ≤ Registry.count p (s.tasks.erase tid) + o.next.count p := by
  refine Nat.le_trans (count_abortAll_le p _ _) ?_
  -- a spawned task counts for nothing, whatever it is added to
  have spawn : ∀ (tasks : Registry TaskId Task) u, p u = false →
      Registry.count p (tasks.insert fresh u) ≤ Registry.count p tasks := by
    intro tasks u hu
    rw [Registry.count_insert, hu]
    exact Registry.count_erase_le p _ fresh
  have await : ∀ t, Registry.count p (s.tasks.insert tid t) =
      Registry.count p (s.tasks.erase tid) + Next.count p (.await t) := fun t => Registry.count_insert p
  obtain ⟨store, next, spawned, aborted⟩ := o
  cases spawned with
  | none => cases next with
    | await t => exact Nat.le_of_eq (await t)
    | ret r => exact Nat.le_refl _
  | some u => cases next with
    | await t => exact Nat.le_trans (spawn _ u (hsp u rfl)) (Nat.le_of_eq (await t))
    | ret r => exact spawn _ u (hsp u rfl)

/-! ## Who closes -/

/-- Whoever is about to close a row has read it. -/
def Sys.ClosersRead (s : Sys) : Prop :=
  ∀ i t w, s.tasks.lookup i = some t → t.statusWrite = some w → w.status = .closed →
    (s.store.sessions.lookup w.sid).isSome

theorem enter_statusWrite (c : Call) {t : Task} (h : (st.enter c).next = .await t) : t.statusWrite = none := by
  cases c <;> grind [Task.statusWrite]

theorem resume_closersRead {fresh : TaskId} {t u : Task} {w : StatusWrite} (h : (st.resume env fresh t).next = .await u)
    (hw : u.statusWrite = some w) (hst : w.status = .closed) : (st.sessions.lookup w.sid).isSome := by
  cases resume_edge fresh h <;> cases hw <;> cases hst
  case failedGate hrow _ => rw [hrow]; rfl
  case closeGate hrow _ _ => rw [hrow]; rfl
  case teardownGate hrow _ _ => rw [hrow]; rfl

theorem step_closersRead {e : Event} (hs : s.ClosersRead) (h : s.step e = some s') : s'.ClosersRead := by
  intro i t w ht hw hst
  cases e with
  | call c =>
    cases h
    show ((s.store.enter c).store.sessions.lookup w.sid).isSome
    rw [enter_sessions]
    rcases entered_task ht with ⟨-, hn⟩ | ⟨-, hold⟩
    · rw [enter_statusWrite c hn] at hw
      cases hw
    · exact hs i t w hold hw hst
  | resume tid env =>
    obtain ⟨u, hu, rfl⟩ := step_resume h
    have hrow : (s.store.sessions.lookup w.sid).isSome := by
      obtain ⟨-, ⟨-, hsp⟩ | ⟨-, hn⟩ | ⟨-, hold⟩⟩ := settle_task ht
      · rcases resume_spawned _ hsp with ⟨_, _, _, _, rfl⟩ | ⟨_, _, _, rfl⟩ <;> cases hw
      · exact resume_closersRead hn hw hst
      · exact hs i t w hold hw hst
    obtain ⟨row, hrow⟩ := Option.isSome_iff_exists.1 hrow
    obtain ⟨row', hrow', -⟩ := resume_owners s.store env s.nextTask u w.sid hrow
    exact Option.isSome_iff_exists.2 ⟨row', hrow'⟩

/-- A task comes to write a `closed` event by its status write. -/
theorem resume_logsClosed {fresh : TaskId} {t u : Task} (h : (st.resume env fresh t).next = .await u)
    (hu : u.logsClosed sid) : ∃ w, t.statusWrite = some w ∧ w.sid = sid ∧ w.status = .closed := by
  cases resume_edge fresh h <;>
    simp [Task.logsClosed, Task.logs, SessionEvent.isClosedOf] at hu <;> subst hu <;> exact ⟨_, rfl, rfl, rfl⟩

/-! ## The invariant -/

structure LoggedOnce (sid : SessionId) (s : Sys) : Prop where
  gate : s.GateKept
  read : s.ClosersRead
  once : s.closedEvents sid + s.closedPending sid ≤ 1
  closed : 0 < s.closedEvents sid + s.closedPending sid → s.rowClosed sid

theorem init_loggedOnce (ttl : Nat) (sid : SessionId) : LoggedOnce sid (Sys.init ttl) := by
  refine ⟨init_gateKept ttl, ?_, Nat.zero_le 1, fun h => absurd h (Nat.lt_irrefl 0)⟩
  intro i t w ht
  simp [Sys.init] at ht

theorem LoggedOnce.of_le {e : Event} (hs : LoggedOnce sid s) (hok : WriteNotStale s e) (h : s.step e = some s')
    (hle : s'.closedEvents sid + s'.closedPending sid ≤ s.closedEvents sid + s.closedPending sid) :
    LoggedOnce sid s' where
  gate := step_gateKept hs.gate h
  read := step_closersRead hs.read h
  once := Nat.le_trans hle hs.once
  closed hpos := step_rowClosed hs.gate hok h (hs.closed (Nat.lt_of_lt_of_le hpos hle))

theorem call_loggedOnce {c : Call} (hs : LoggedOnce sid s) (h : s.step (.call c) = some s') : LoggedOnce sid s' := by
  refine hs.of_le (e := .call c) trivial h ?_
  cases h
  have hevents : (s.store.enter c).store.events = s.store.events := by cases c <;> grind
  have hnext : (s.store.enter c).next.count (·.logsClosed sid) = 0 := by
    cases hn : (s.store.enter c).next with
    | ret r => rfl
    | await t =>
      have hlogs : t.logs = none := by cases c <;> grind [Task.logs]
      simp [Next.count, Task.logsClosed, hlogs]
  have hpool : (s.settle s.nextTask (s.nextTask + 1) (s.store.enter c)).closedPending sid ≤ s.closedPending sid := by
    refine Nat.le_trans (settle_count fun u hu => ?_) ?_
    · rw [enter_spawned] at hu
      cases hu
    · rw [hnext]
      exact Registry.count_erase_le _ _ _
  have hlog : (s.settle s.nextTask (s.nextTask + 1) (s.store.enter c)).closedEvents sid = s.closedEvents sid :=
    congrArg (List.countP _) hevents
  omega

/-- A stretch moves an event from what is pending to the log. -/
theorem resume_logged {tid : TaskId} {t : Task} (hcall : env.ok) (ht : s.tasks.lookup tid = some t)
    (h : s' = s.settle tid s.nextTask (s.store.resume env s.nextTask t)) :
    s'.closedEvents sid + s'.closedPending sid ≤ s.closedEvents sid + s.closedPending sid +
      (s.store.resume env s.nextTask t).next.count (·.logsClosed sid) := by
  have hlog : s'.closedEvents sid = s.closedEvents sid + if t.logsClosed sid then 1 else 0 := by
    subst h
    show (s.store.resume env s.nextTask t).store.events.countP _ = _
    rw [resume_events, if_pos hcall, List.countP_append]
    cases hl : t.logs <;> simp [Task.logsClosed, hl, Sys.closedEvents]
  have hcount := Registry.count_erase (·.logsClosed sid) ht
  have hpool : s'.closedPending sid ≤ Registry.count (·.logsClosed sid) (s.tasks.erase tid) +
      (s.store.resume env s.nextTask t).next.count (·.logsClosed sid) := by
    subst h
    refine settle_count fun u hu => ?_
    rcases resume_spawned _ hu with ⟨_, _, _, _, rfl⟩ | ⟨_, _, _, rfl⟩ <;> rfl
  unfold Sys.closedPending at hpool ⊢
  omega

theorem resume_loggedOnce {tid : TaskId} (hs : LoggedOnce sid s) (hok : WriteNotStale s (.resume tid env))
    (hcall : env.ok) (h : s.step (.resume tid env) = some s') : LoggedOnce sid s' := by
  obtain ⟨t, ht, heq⟩ := step_resume h
  have hlogged : s'.closedEvents sid + s'.closedPending sid ≤ _ := resume_logged hcall ht heq
  by_cases hnext : (s.store.resume env s.nextTask t).next.count (·.logsClosed sid) = 0
  · rw [hnext] at hlogged
    exact hs.of_le hok h hlogged
  · -- the task has just closed the row, which was open
    cases hn : (s.store.resume env s.nextTask t).next with
    | ret r => exact absurd (by rw [hn]; rfl) hnext
    | await u =>
      rw [hn] at hnext hlogged
      have hu : u.logsClosed sid := by
        by_contra hu
        exact hnext (by simp [Next.count, hu])
      obtain ⟨w, hw, rfl, hst⟩ := resume_logsClosed hn hu
      have hopen := not_stale_not_closed hs.gate hok ht hw
      have hzero : s.closedEvents w.sid + s.closedPending w.sid = 0 := by
        by_contra hne
        exact hopen (hs.closed (Nat.pos_of_ne_zero hne))
      have hone : (Next.await u).count (·.logsClosed w.sid) = 1 := if_pos hu
      rw [hzero, hone] at hlogged
      obtain ⟨row, hrow⟩ := Option.isSome_iff_exists.1 (hs.read tid t w ht hw hst)
      have hclosed : s'.rowClosed w.sid := by
        subst heq
        exact rowClosed_iff.2 ⟨_, statusWrite_ok hcall hw hrow, hst⟩
      exact ⟨step_gateKept hs.gate h, step_closersRead hs.read h, hlogged, fun _ => hclosed⟩

/-- In a run whose repository calls succeed and whose status writes are never
stale, the log has at most one `closed` event for a session. -/
theorem closed_logged_once (ttl : Nat) (evs : List Event) (s : Sys) (sid : SessionId)
    (hcalls : ∀ e ∈ evs, e.callSucceeds) (hg : Guarded Sys.step WriteNotStale (Sys.init ttl) evs)
    (hr : run Sys.step (Sys.init ttl) evs = some s) : s.closedEvents sid ≤ 1 := by
  have hs : LoggedOnce sid s := by
    refine (hg.and_forall hcalls).inv (LoggedOnce sid) ?_ hr (init_loggedOnce ttl sid)
    rintro u e v hu ⟨hok, hcall⟩ h
    cases e with
    | call c => exact call_loggedOnce hu h
    | resume tid env => exact resume_loggedOnce hu hok hcall h
  exact Nat.le_trans (Nat.le_add_right _ _) hs.once

/-- The shell exits and, when the forwarder is done, a client closes the session. -/
theorem closed_logged_once_exit :
    ∃ s, run Sys.step (Sys.init 30) (startedRun ++ remoteExitRun ++ [.call (.closeSession 7 1), .resume 3 {}]) =
      some s ∧ s.closedEvents 7 ≤ 1 :=
  ⟨_, rfl, closed_logged_once 30 (startedRun ++ remoteExitRun ++ [.call (.closeSession 7 1), .resume 3 {}]) _ 7
    (by decide) (by decide) rfl⟩

/-- Two clients close the session, and both read the row before either writes it. -/
def closedTwiceRun : List Event :=
  startedRun ++ [.call (.closeSession 7 1), .call (.closeSession 7 1), .resume 3 {}, .resume 4 {}, .resume 3 {},
    .resume 4 {}, .resume 3 {}, .resume 4 {}]

theorem closed_logged_twice :
    ¬ ∀ (ttl : Nat) (evs : List Event) (s : Sys) (sid : SessionId), (∀ e ∈ evs, e.callSucceeds) →
      run Sys.step (Sys.init ttl) evs = some s → s.closedEvents sid ≤ 1 := by
  intro h
  exact absurd (h 30 closedTwiceRun _ 7 (by decide) rfl) (by decide)

end RelayTerm.Session
