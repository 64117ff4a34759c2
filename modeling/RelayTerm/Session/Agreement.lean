import RelayTerm.Session.Births
/-!
# How a closed session leaves the registry

Whoever closes a row has the rest still to do: a close takes the entry out and
shuts the runtime down, the forwarder only writes its event. The invariant says
where every closed session is on that way, in runs whose repository calls
succeed, whose status writes are not stale and which start a session once.
-/
open RelayTerm.Lib

namespace RelayTerm.Session

variable {st : Store} {env : Env} {s s' : Sys} {sid : SessionId}

/-! ## The runs -/

def Orderly (s : Sys) (e : Event) : Prop := WriteNotStale s e ∧ e.callSucceeds ∧ StartsOnce s e

instance (s : Sys) (e : Event) : Decidable (Orderly s e) := inferInstanceAs (Decidable (_ ∧ _))

/-- The event says that the forwarder of `sid` closed the row. -/
def SessionEvent.isTeardownOf (sid : SessionId) (ev : SessionEvent) : Bool :=
  match ev.payload with
  | .closed reason _ => ev.sessionId = sid && reason = "pty_teardown"
  | _ => false

/-- The log says that the forwarder of `sid` closed the row. -/
def Sys.tornDown (s : Sys) (sid : SessionId) : Bool := s.store.events.any (·.isTeardownOf sid)

/-! ## The invariant -/

/-- The row a task relies on: its session and the owner. -/
def Task.ownedBy : Task → Option (SessionId × UserId)
  | .closeSetClosed _ sid owner _ _ | .closeEvent _ sid owner | .closeReget _ sid owner
  | .pump sid owner _ | .teardownGet sid owner _ => some (sid, owner)
  | .teardownSetClosed sid session _ _ => some (sid, session.ownerId)
  | _ => none

/-- The session whose row a task has closed, or found closed. -/
def Task.behindClose : Task → Option SessionId
  | .closeEvent _ sid _ | .closeReget _ sid _ | .teardownEvent sid _ => some sid
  | .shutdownHandle sid _ _ _ | .shutdownForwarder sid _ _ _ | .shutdownRecording sid _ _ _ => some sid
  | _ => none

/-- The session a close is going to take out of the registry. -/
def Task.removing : Task → Option SessionId
  | .closeEvent _ sid _ | .closeReget _ sid _ => some sid
  | _ => none

def Sys.Settled (s : Sys) (sid : SessionId) : Prop :=
  s.store.live sid = none ∧
    (s.store.runtimes.lookup sid = none ∨ ∀ i t, s.tasks.lookup i = some t → t.starts ≠ some sid)

/-- A closed session is torn down, is being removed, or is settled. -/
def Sys.Ending (s : Sys) (sid : SessionId) : Prop :=
  s.tornDown sid ∨ (∃ i category, s.tasks.lookup i = some (.teardownEvent sid category)) ∨
    (∃ i t, s.tasks.lookup i = some t ∧ t.removing = some sid) ∨ s.Settled sid

structure Agreement (s : Sys) : Prop where
  gate : s.GateKept
  handles : s.Handles
  births : s.Births
  owned : ∀ i t k owner, s.tasks.lookup i = some t → t.ownedBy = some (k, owner) →
    ∃ row, s.store.sessions.lookup k = some row ∧ row.ownerId = owner
  behind : ∀ i t k, s.tasks.lookup i = some t → t.behindClose = some k → s.rowClosed k
  started : ∀ i t k, s.tasks.lookup i = some t → t.starts = some k →
    (s.store.runtimes.lookup k).isSome ∨ s.rowClosed k
  shut : ∀ i t k live, s.tasks.lookup i = some t → t.shutsDown = some (k, live) → s.Settled k
  ending : ∀ k, s.rowClosed k → s.Ending k

theorem init_agreement (ttl : Nat) : Agreement (Sys.init ttl) where
  gate := init_gateKept ttl
  handles := init_handles ttl
  births := init_births ttl
  owned := by simp [Sys.init]
  behind := by simp [Sys.init]
  started := by simp [Sys.init]
  shut := by simp [Sys.init]
  ending := by simp [Sys.init, Store.init, Sys.rowClosed]

/-! ## A call -/

theorem isFirst_unowned {t : Task} (h : t.isFirst) : t.ownedBy = none ∧ t.behindClose = none := by
  cases t <;> cases h <;> exact ⟨rfl, rfl⟩

section Call

variable {c : Call} (hc : c.isStartFailed = false) (h : s.step (.call c) = some s')
include hc h

theorem call_settled {k : SessionId} (hk : s.Settled k) : s'.Settled k := by
  obtain ⟨hlive, hstart⟩ := hk
  refine ⟨by rw [call_store hc h]; exact hlive, hstart.imp (fun he => by rw [call_store hc h]; exact he) ?_⟩
  intro hstart i t ht
  rcases call_task hc h ht with hold | hfirst
  · exact hstart i t hold
  · rw [(isFirst_plain hfirst).starts]
    simp

theorem call_agreement (hs : Agreement s) : Agreement s' := by
  have hstore := call_store hc h
  have hclosed : ∀ k, s'.rowClosed k = s.rowClosed k := fun k => by rw [Sys.rowClosed, hstore]; rfl
  refine ⟨step_gateKept hs.gate h, step_handles hs.handles h, call_births hc h hs.births, fun i t k owner ht ho => ?_,
    fun i t k ht hb => ?_, fun i t k ht hk => ?_, fun i t k live ht hl => ?_, fun k hk => ?_⟩
  · rcases call_task hc h ht with hold | hfirst
    · rw [hstore]
      exact hs.owned i t k owner hold ho
    · rw [(isFirst_unowned hfirst).1] at ho
      cases ho
  · rcases call_task hc h ht with hold | hfirst
    · rw [hclosed]
      exact hs.behind i t k hold hb
    · rw [(isFirst_unowned hfirst).2] at hb
      cases hb
  · rcases call_task hc h ht with hold | hfirst
    · rw [hstore, hclosed]
      exact hs.started i t k hold hk
    · rw [(isFirst_plain hfirst).starts] at hk
      cases hk
  · rcases call_task hc h ht with hold | hfirst
    · exact call_settled hc h (hs.shut i t k live hold hl)
    · rw [(isFirst_plain hfirst).shutsDown] at hl
      cases hl
  · rw [hclosed] at hk
    rcases hs.ending k hk with htorn | ⟨i, category, hi⟩ | ⟨i, t, hi, ht⟩ | hsettled
    · exact .inl (by rw [Sys.tornDown, hstore]; exact htorn)
    · exact .inr (.inl ⟨i, category, call_kept hc h hs.handles.ids hi⟩)
    · exact .inr (.inr (.inl ⟨i, t, call_kept hc h hs.handles.ids hi, ht⟩))
    · exact .inr (.inr (.inr (call_settled hc h hsettled)))

end Call

/-! ## What a stretch does to the rows and the registry -/

/-- A row that a stretch closes is closed by the task's status write. -/
theorem resume_closes {fresh : TaskId} {t : Task} {row : TerminalSession}
    (hnew : (st.resume env fresh t).store.sessions.lookup sid = some row) (hst : row.status = .closed)
    (hold : ∀ r, st.sessions.lookup sid = some r → r.status ≠ .closed) :
    ∃ w, t.statusWrite = some w ∧ w.sid = sid ∧ w.status = .closed := by
  rcases resume_sessions st env fresh t with he | ⟨k, r, -, hr, he⟩ | ⟨w, r, hw, -, he⟩ <;> rw [he] at hnew
  · exact absurd hst (hold row hnew)
  · rcases Registry.lookup_insert_iff.1 hnew with ⟨-, rfl⟩ | ⟨-, hrow⟩
    · rw [hr] at hst
      cases hst
    · exact absurd hst (hold row hrow)
  · rcases Registry.lookup_insert_iff.1 hnew with ⟨rfl, rfl⟩ | ⟨-, hrow⟩
    · exact ⟨w, hw, rfl, hst⟩
    · exact absurd hst (hold row hrow)

/-! ## A task goes on -/

theorem startGet_spawned {owner : UserId} {pty : PtyId} {fresh : TaskId} {u : Task}
    (h : (st.startGet env fresh owner sid pty).spawned = some u) :
    ∃ row, st.sessions.lookup sid = some row ∧ row.ownerId = owner := by
  unfold Store.startGet at h
  split at h
  · cases h
  · next session hget => exact ⟨session, Store.getOwned_ok hget⟩

theorem spawned_ownedBy {fresh : TaskId} {t u : Task} {owner : UserId} (h : (st.resume env fresh t).spawned = some u)
    (hu : u.ownedBy = some (sid, owner)) : ∃ row, st.sessions.lookup sid = some row ∧ row.ownerId = owner := by
  rcases resume_spawned fresh h with ⟨owner', k, pty, rfl, rfl⟩ | ⟨_, _, _, rfl⟩ <;> cases hu
  exact startGet_spawned h

theorem resume_ownedBy {fresh : TaskId} {t u : Task} {owner : UserId} (h : (st.resume env fresh t).next = .await u)
    (hu : u.ownedBy = some (sid, owner)) :
    t.ownedBy = some (sid, owner) ∨ ∃ row, st.sessions.lookup sid = some row ∧ row.ownerId = owner := by
  cases resume_edge fresh h <;> cases hu
  case closeGate => exact .inr ⟨_, ‹_›, ‹_›⟩
  case teardownGate => exact .inr ⟨_, ‹_›, rfl⟩
  all_goals exact .inl rfl

theorem resume_behindClose {fresh : TaskId} {t u : Task} (h : (st.resume env fresh t).next = .await u)
    (hu : u.behindClose = some sid) :
    t.behindClose = some sid ∨ (∃ row, st.sessions.lookup sid = some row ∧ row.status = .closed) ∨
      ∃ w owner, t.statusWrite = some w ∧ w.sid = sid ∧ w.status = .closed ∧ t.ownedBy = some (sid, owner) := by
  cases resume_edge fresh h <;> cases hu
  case closeStale => exact .inr (.inl ⟨_, ‹_›, ‹_›⟩)
  case closeClosed => exact .inr (.inr ⟨_, _, rfl, rfl, rfl, rfl⟩)
  case teardownClosed => exact .inr (.inr ⟨_, _, rfl, rfl, rfl, rfl⟩)
  all_goals exact .inl rfl

theorem Edge.shutsDown {fresh : TaskId} {t t' : Task} {p : SessionId × LiveRuntime} (h : Edge st env fresh t t')
    (ht : t.shutsDown = some p) : ∃ live, t'.shutsDown = some (p.1, live) := by
  cases h <;> cases ht <;> exact ⟨_, rfl⟩

theorem spawned_behindClose {fresh : TaskId} {t u : Task} (h : (st.resume env fresh t).spawned = some u) :
    u.behindClose = none := by
  rcases resume_spawned fresh h with ⟨_, _, _, _, rfl⟩ | ⟨_, _, _, rfl⟩ <;> rfl

section Resume

variable {tid : TaskId} {t : Task} (hs : Agreement s) (hok : Orderly s (.resume tid env))
  (ht : s.tasks.lookup tid = some t) (h : s' = s.settle tid s.nextTask (s.store.resume env s.nextTask t))

include hs hok ht in
/-- Whatever is aborted was the forwarder of a session that left the registry, or
a TTL task of a session that is settled or open. -/
theorem aborted_agreement {i : TaskId} {u : Task} (hu : s.tasks.lookup i = some u)
    (hi : i ∈ (s.store.resume env s.nextTask t).aborted) :
    (∃ k, u.forwards = some k ∧ s.store.runtimes.lookup k = none ∧ t.starts = some k) ∨
    (∃ k, u.timerOf = some k ∧ s.Settled k) ∨ ∃ k, u.timerOf = some k ∧ ¬ s.rowClosed k := by
  rcases aborted_cases hs.handles ht hu hi with ⟨k, hstart, hgone, hfwd⟩ | ⟨k, live, hshut, htimer⟩ |
    ⟨req, session, -, htimer, hrow, hst⟩ | ⟨owner, k, pty, fwd, e, rfl, he, hmem⟩ | ⟨k, category, rfl⟩
  · exact .inl ⟨k, hfwd, hgone, by rw [Task.starts, hstart]; rfl⟩
  · exact .inr (.inl ⟨k, htimer, hs.shut tid t k live ht hshut⟩)
  · refine .inr (.inr ⟨_, htimer, fun hclosed => ?_⟩)
    obtain ⟨row, hrow', hst'⟩ := rowClosed_iff.1 hclosed
    cases hrow.symm.trans hrow'
    exact hst hst'
  · -- a session that is started once is not live when it is promoted
    have hlive : s.store.live k = none := hok.2.2 k (by rw [ht]; rfl)
    rw [Store.live, he] at hlive
    have hnone : e.live = none := hlive
    rw [RuntimeEntry.tasks, hnone] at hmem
    cases hmem
  · exact absurd rfl (hs.births.unfailed tid _ ht)

include hs ht h in
/-- What is settled and closed stays settled. -/
theorem resumed_settled {k : SessionId} (hk : s.Settled k) (hclosed : s.rowClosed k) : s'.Settled k := by
  obtain ⟨hlive, hstart⟩ := hk
  have hentry := resumed_entry h k
  -- the start that could promote the session finds no entry
  have hunstarted : (s.store.runtimes.lookup k).isSome → t.starts ≠ some k := by
    intro hsome hst
    rcases hstart with hnone | hstart
    · rw [hnone] at hsome
      cases hsome
    · exact hstart tid t ht hst
  refine ⟨?_, ?_⟩
  · by_contra hne
    obtain ⟨hsome, hp⟩ := hentry.live hlive (Option.isSome_iff_ne_none.2 hne)
    refine hunstarted hsome ?_
    cases t <;> cases hp
    rfl
  · by_cases hsome : (s'.store.runtimes.lookup k).isSome
    · right
      -- nobody starts a closed session; a session just created has not been started
      have hold : ∀ i u, s.tasks.lookup i = some u → u.starts ≠ some k := by
        rcases hentry.isSome hsome with hbefore | hcreates
        · rcases hstart with hnone | hstart
          · rw [hnone] at hbefore
            cases hbefore
          · exact hstart
        · exact (hs.births.unborn tid t k ht hcreates).2.2
      intro i u hu
      rcases resumed_task h hu with hsp | ⟨-, hn⟩ | ⟨-, hu⟩
      · rw [(spawned_plain hsp).starts]
        simp
      · intro hst
        rcases resume_starts hn hst with hold' | ⟨⟨row, hrow, hopen⟩, -, -⟩
        · exact hold tid t ht hold'
        · obtain ⟨row', hrow', hclosed'⟩ := rowClosed_iff.1 hclosed
          cases hrow.symm.trans hrow'
          exact hopen hclosed'
      · exact hold i u hu
    · exact .inl (Option.not_isSome_iff_eq_none.1 hsome)

include hs hok ht h in
theorem resumed_rowClosed {k : SessionId} (hk : s.rowClosed k) : s'.rowClosed k :=
  step_rowClosed hs.gate hok.1 (resumed_step ht h) hk

include hs ht h in
/-- A close that has written the row goes on to take the entry out. -/
theorem removing_ending (hcall : env.ok) {k : SessionId} (hk : t.removing = some k) : s'.Ending k := by
  cases t <;> cases hk
  case closeEvent origin owner =>
    have hn : (s.store.resume env s.nextTask (.closeEvent origin k owner)).next = .await (.closeReget origin k owner) ∧
        (s.store.resume env s.nextTask (.closeEvent origin k owner)).aborted = [] := by
      simp only [Store.resume, Store.closeEvent, createEvent_eq hcall]
      exact ⟨rfl, rfl⟩
    exact .inr (.inr (.inl ⟨tid, _, resumed_next ht h hs.handles.ids hn.1 hn.2, rfl⟩))
  case closeReget origin owner =>
    obtain ⟨row, hrow, rfl⟩ := hs.owned tid _ k owner ht rfl
    have hgone : s'.store.runtimes.lookup k = none := by
      subst h
      show (s.store.resume env s.nextTask (.closeReget origin k row.ownerId)).store.runtimes.lookup k = none
      simp only [Store.resume, Store.closeReget, getOwned_eq hcall hrow, closeRemove_runtimes, AList.lookup_erase]
    exact .inr (.inr (.inr ⟨by rw [Store.live, hgone]; rfl, .inl hgone⟩))

include hok h in
theorem resumed_tornDown (k : SessionId) : s'.tornDown k = (s.tornDown k || t.logs.any (·.isTeardownOf k)) := by
  have hcall : env.ok := hok.2.1
  subst h
  show (s.store.resume env s.nextTask t).store.events.any _ = _
  rw [resume_events, if_pos hcall, List.any_append]
  cases t.logs <;> simp [Sys.tornDown]

include hs hok ht h in
/-- A closed row stays with its forwarder's event, its close, or settled. -/
theorem resumed_ending {k : SessionId} (hclosed : s.rowClosed k) (hk : s.Ending k) : s'.Ending k := by
  have hcall : env.ok := hok.2.1
  have hevents := resumed_tornDown hok h k
  have hsettled : s.Settled k → s'.Ending k := fun hk => .inr (.inr (.inr (resumed_settled hs ht h hk hclosed)))
  rcases hk with htorn | ⟨i, category, hi⟩ | ⟨i, u, hi, hu⟩ | hk
  · exact .inl (by rw [hevents, htorn]; rfl)
  · by_cases htid : i = tid
    · subst htid
      cases hi.symm.trans ht
      exact .inl (by rw [hevents]; simp [Task.logs, SessionEvent.isTeardownOf])
    · by_cases ha : i ∈ (s.store.resume env s.nextTask t).aborted
      · rcases aborted_agreement hs hok ht hi ha with ⟨k', hfwd, hgone, -⟩ | ⟨k', htimer, -⟩ | ⟨k', htimer, -⟩
        · cases hfwd
          exact hsettled ⟨by rw [Store.live, hgone]; rfl, .inl hgone⟩
        · cases htimer
        · cases htimer
      · exact .inr (.inl ⟨i, category, resumed_kept h hs.handles.ids hi htid ha⟩)
  · by_cases htid : i = tid
    · subst htid
      cases hi.symm.trans ht
      exact removing_ending hs ht h hcall hu
    · by_cases ha : i ∈ (s.store.resume env s.nextTask t).aborted
      · have htimer : ∀ k', u.timerOf = some k' → k' = k := by
          intro k' htimer
          cases u <;> cases hu <;> rename_i origin _ <;> cases origin <;> cases htimer <;> rfl
        rcases aborted_agreement hs hok ht hi ha with ⟨k', hfwd, -, -⟩ | ⟨k', htm, hset⟩ | ⟨k', htm, hopen⟩
        · cases u <;> cases hu <;> cases hfwd
        · cases htimer k' htm
          exact hsettled hset
        · cases htimer k' htm
          exact absurd hclosed hopen
      · exact .inr (.inr (.inl ⟨i, u, resumed_kept h hs.handles.ids hi htid ha, hu⟩))
  · exact hsettled hk

include hs hok ht h in
/-- A row that is closed in this stretch is closed by a close or by a forwarder. -/
theorem closing_ending {k : SessionId} (hold : ¬ s.rowClosed k) (hk : s'.rowClosed k) : s'.Ending k := by
  have hcall : env.ok := hok.2.1
  obtain ⟨row, hrow, hst⟩ := rowClosed_iff.1 hk
  have hrow' : (s.store.resume env s.nextTask t).store.sessions.lookup k = some row := by
    subst h
    exact hrow
  obtain ⟨w, hw, rfl, hwst⟩ := resume_closes hrow' hst fun r hr hc => hold (rowClosed_iff.2 ⟨r, hr, hc⟩)
  cases t <;> cases hw <;> cases hwst
  case failedSetClosed => exact absurd rfl (hs.births.unfailed tid _ ht)
  case closeSetClosed origin k owner session now =>
    obtain ⟨r, hr, -⟩ := hs.owned tid _ k owner ht rfl
    refine .inr (.inr (.inl ⟨tid, .closeEvent origin k owner, resumed_next ht h hs.handles.ids ?_ ?_, rfl⟩)) <;>
      simp only [Store.resume, Store.closeSetClosed, setStatus_eq hcall hr, Store.await]
  case teardownSetClosed k session category now =>
    obtain ⟨r, hr, -⟩ := hs.owned tid _ k session.ownerId ht rfl
    refine .inr (.inl ⟨tid, category, resumed_next ht h hs.handles.ids ?_ ?_⟩) <;>
      simp only [Store.resume, Store.teardownSetClosed, setStatus_eq hcall hr, Store.await]

include hs hok ht h in
theorem resumed_behind {k : SessionId} {u : Task} (hn : (s.store.resume env s.nextTask t).next = .await u)
    (hu : u.behindClose = some k) : s'.rowClosed k := by
  rcases resume_behindClose hn hu with hb | hrow | ⟨w, owner, hw, rfl, hwst, ho⟩
  · exact resumed_rowClosed hs hok ht h (hs.behind tid t k ht hb)
  · exact resumed_rowClosed hs hok ht h (rowClosed_iff.2 hrow)
  · obtain ⟨row, hrow, -⟩ := hs.owned tid t _ owner ht ho
    subst h
    exact rowClosed_iff.2 ⟨_, statusWrite_ok hok.2.1 hw hrow, hwst⟩

include hs ht in
/-- Who takes an entry out has found or written the row closed. -/
theorem removes_rowClosed {k : SessionId} (hr : t.removes = some k)
    (hclosed : ∀ origin owner, t = .closeGet origin k owner →
      ∃ row, s.store.sessions.lookup k = some row ∧ row.status = .closed) : s.rowClosed k := by
  cases t <;> cases hr
  case failedEvent => exact absurd rfl (hs.births.unfailed tid _ ht)
  case closeGet origin owner => exact rowClosed_iff.2 (hclosed origin owner rfl)
  case closeReget origin owner => exact hs.behind tid _ k ht rfl

include hs hok ht h in
/-- A start past its checks: the entry it found is there, or the session has been closed. -/
theorem resumed_started {i : TaskId} {k : SessionId} {u : Task} (hu : s'.tasks.lookup i = some u)
    (hk : u.starts = some k) : (s'.store.runtimes.lookup k).isSome ∨ s'.rowClosed k := by
  have hentry := resumed_entry h k
  have hkept : (s.store.runtimes.lookup k).isSome ∨ s.rowClosed k →
      (s'.store.runtimes.lookup k).isSome ∨ s'.rowClosed k := by
    rintro (hsome | hclosed)
    · by_cases hafter : (s'.store.runtimes.lookup k).isSome
      · exact .inl hafter
      · right
        obtain ⟨hr, hclosed⟩ := hentry.isNone hsome (Option.not_isSome_iff_eq_none.1 hafter)
        exact resumed_rowClosed hs hok ht h (removes_rowClosed hs ht hr hclosed)
    · exact .inr (resumed_rowClosed hs hok ht h hclosed)
  apply hkept
  rcases resumed_task h hu with hsp | ⟨-, hn⟩ | ⟨-, hold⟩
  · rw [(spawned_plain hsp).starts] at hk
    cases hk
  · rcases resume_starts hn hk with hst | ⟨-, hsome, -⟩
    · exact hs.started tid t k ht hst
    · exact .inl hsome
  · exact hs.started i u k hold hk

include hs ht h in
/-- Who shuts a runtime down has taken its entry out. -/
theorem resumed_shut {i : TaskId} {k : SessionId} {live : LiveRuntime} {u : Task} (hu : s'.tasks.lookup i = some u)
    (hk : u.shutsDown = some (k, live)) : s'.Settled k := by
  have hold : ∀ j v l, s.tasks.lookup j = some v → v.shutsDown = some (k, l) → s'.Settled k := by
    intro j v l hv hl
    have hb : v.behindClose = some k := by cases v <;> cases hl <;> rfl
    exact resumed_settled hs ht h (hs.shut j v k l hv hl) (hs.behind j v k hv hb)
  rcases resumed_task h hu with hsp | ⟨-, hn⟩ | ⟨-, hu'⟩
  · rw [(spawned_plain hsp).shutsDown] at hk
    cases hk
  · cases hsd : t.shutsDown with
    | some p =>
      obtain ⟨live', hl⟩ := (resume_edge _ hn).shutsDown hsd
      cases hk.symm.trans hl
      exact hold tid t p.2 ht hsd
    | none =>
      have hgone : s'.store.runtimes.lookup k = none := by
        subst h
        exact (congrArg (AList.lookup k) (shutdown_removed hn hk hsd)).trans (AList.lookup_erase ..)
      exact ⟨by rw [Store.live, hgone]; rfl, .inl hgone⟩
  · exact hold i u live hu' hk

include hs hok ht h in
theorem resume_agreement : Agreement s' := by
  have hstep := resumed_step ht h
  refine ⟨step_gateKept hs.gate hstep, step_handles hs.handles hstep, resume_births hs.births ht h,
    fun i u k owner hu ho => ?_, fun i u k hu hb => ?_, fun i u k hu hk => resumed_started hs hok ht h hu hk,
    fun i u k live hu hk => resumed_shut hs ht h hu hk, fun k hk => ?_⟩
  · have hrow : ∃ row, s.store.sessions.lookup k = some row ∧ row.ownerId = owner := by
      rcases resumed_task h hu with hsp | ⟨-, hn⟩ | ⟨-, hold⟩
      · exact spawned_ownedBy hsp ho
      · exact (resume_ownedBy hn ho).elim (hs.owned tid t k owner ht) id
      · exact hs.owned i u k owner hold ho
    obtain ⟨row, hrow, rfl⟩ := hrow
    subst h
    exact resume_owners s.store env s.nextTask t k hrow
  · rcases resumed_task h hu with hsp | ⟨-, hn⟩ | ⟨-, hold⟩
    · rw [spawned_behindClose hsp] at hb
      cases hb
    · exact resumed_behind hs hok ht h hn hb
    · exact resumed_rowClosed hs hok ht h (hs.behind i u k hold hb)
  · by_cases hold : s.rowClosed k
    · exact resumed_ending hs hok ht h hold (hs.ending k hold)
    · exact closing_ending hs hok ht h hold hk

end Resume

theorem step_agreement {e : Event} (hs : Agreement s) (hok : Orderly s e) (h : s.step e = some s') : Agreement s' := by
  cases e with
  | call c => exact call_agreement hok.2.2 h hs
  | resume tid env =>
    obtain ⟨t, ht, h⟩ := step_resume h
    exact resume_agreement hs hok ht h

end RelayTerm.Session
