import RelayTerm.Session.Alone
import RelayTerm.Session.Runtimes
/-!
# Sessions of other users

Every operation that names a session also names the caller, and refuses a
session that is not the caller's as if it did not exist. The row decides for
some operations and the registry entry for the others; the two name the same
owner. One operation acts before it looks: `record_pty_start_failed` empties the
registry entry first, which nobody sees only if there is none or it is empty.
-/
open RelayTerm.Lib

namespace RelayTerm.Session

variable {st : Store} {s s' : Sys} {sid : SessionId} {caller : UserId}

/-! ## Rows and entries name one owner -/

/-- The row a registry entry, or a task about to register one, belongs to. -/
structure EntriesOwned (s : Sys) : Prop where
  entries : ∀ k e, s.store.runtimes.lookup k = some e →
    ∃ row, s.store.sessions.lookup k = some row ∧ row.ownerId = e.snapshot.ownerId
  creating : ∀ i k session, s.tasks.lookup i = some (.createEvent k session) →
    ∃ row, s.store.sessions.lookup k = some row ∧ row.ownerId = session.ownerId

theorem init_entriesOwned (ttl : Nat) : EntriesOwned (Sys.init ttl) := by
  constructor <;> simp [Sys.init, Store.init]

/-- A call leaves the owners in the registry as they are. -/
theorem enter_owners (c : Call) {k : SessionId} {e : RuntimeEntry} (h : (st.enter c).store.runtimes.lookup k = some e) :
    ∃ old, st.runtimes.lookup k = some old ∧ e.snapshot.ownerId = old.snapshot.ownerId := by
  cases c
  case recordPtyStartFailed owner sid category =>
    simp only [Store.enter, Store.recordPtyStartFailedEnter, Store.await, Registry.lookup_modify] at h
    split at h
    · next hk =>
      obtain ⟨old, hold, rfl⟩ := Option.map_eq_some_iff.1 h
      exact ⟨old, hk ▸ hold, rfl⟩
    · exact ⟨e, h, rfl⟩
  all_goals exact ⟨e, by grind, rfl⟩

theorem EntryChange.owner {t : Task} {k : SessionId} {e : RuntimeEntry} (w : EntryChange st t k (some e)) :
    (∃ old, st.runtimes.lookup k = some old ∧ e.snapshot.ownerId = old.snapshot.ownerId) ∨
      ∃ session, t = .createEvent k session ∧ e.snapshot.ownerId = session.ownerId := by
  generalize hentry : some e = entry at w
  cases w with
  | same => exact .inl ⟨e, hentry.symm, rfl⟩
  | added session ht =>
    cases hentry
    exact .inr ⟨session, ht, rfl⟩
  | promoted owner pty forwarder old ht found =>
    cases hentry
    exact .inl ⟨old, found, rfl⟩
  | removed => cases hentry
  | reshaped f hf =>
    obtain ⟨old, hold, rfl⟩ := Option.map_eq_some_iff.1 hentry.symm
    exact .inl ⟨old, hold, congrArg Prod.fst (hf old)⟩

theorem resume_createEvent_task {env : Env} {fresh : TaskId} {t : Task} {k : SessionId} {session : TerminalSession}
    (h : (st.resume env fresh t).next = .await (.createEvent k session)) :
    (st.resume env fresh t).store.sessions.lookup k = some session := by
  cases t
  case createInsert req =>
    simp only [Store.resume, Store.createInsert] at h ⊢
    cases hc : st.createSession env req with
    | error e =>
      rw [hc] at h
      cases h
    | ok out =>
      obtain ⟨row, st'⟩ := out
      obtain ⟨-, -, hst'⟩ := Store.createSession_ok hc
      rw [hc] at h
      cases h
      simp [Store.await, hst']
  all_goals
    have he := resume_edge fresh h
    cases he

theorem step_entriesOwned {e : Event} (hs : EntriesOwned s) (h : s.step e = some s') : EntriesOwned s' := by
  cases e with
  | call c =>
    cases h
    have hrows : (s.settle s.nextTask (s.nextTask + 1) (s.store.enter c)).store.sessions = s.store.sessions :=
      enter_sessions c
    refine ⟨fun k e he => ?_, fun i k session hi => ?_⟩
    · obtain ⟨old, hold, ho⟩ := enter_owners c he
      rw [hrows, ho]
      exact hs.entries k old hold
    · rw [hrows]
      rcases entered_task hi with ⟨-, hn⟩ | ⟨-, hold⟩
      · cases c <;> grind
      · exact hs.creating i k session hold
  | resume tid env =>
    obtain ⟨t, ht, rfl⟩ := step_resume h
    have hkept : ∀ k row owner, s.store.sessions.lookup k = some row → row.ownerId = owner →
        ∃ row', (s.store.resume env s.nextTask t).store.sessions.lookup k = some row' ∧ row'.ownerId = owner := by
      rintro k row _ hrow rfl
      exact resume_owners s.store env s.nextTask t k hrow
    refine ⟨fun k e he => ?_, fun i k session hi => ?_⟩
    · have hchange := (resume_registry s.store env s.nextTask t).entry k
      rw [show (s.store.resume env s.nextTask t).store.runtimes.lookup k = some e from he] at hchange
      rcases hchange.owner with ⟨old, hold, ho⟩ | ⟨session, rfl, ho⟩
      · obtain ⟨row, hrow, howner⟩ := hs.entries k old hold
        exact hkept k row _ hrow (howner.trans ho.symm)
      · obtain ⟨row, hrow, howner⟩ := hs.creating tid k session ht
        exact hkept k row _ hrow (howner.trans ho.symm)
    · obtain ⟨-, ⟨-, hsp⟩ | ⟨-, hn⟩ | ⟨-, hold⟩⟩ := settle_task hi
      · rcases resume_spawned _ hsp with ⟨_, _, _, _, hu⟩ | ⟨_, _, _, hu⟩ <;> cases hu
      · exact ⟨session, resume_createEvent_task hn, rfl⟩
      · obtain ⟨row, hrow, howner⟩ := hs.creating i k session hold
        exact hkept k row _ hrow howner

/-! ## Refusals -/

/-- The session and the caller an operation names. -/
def Call.target : Call → Option (SessionId × UserId)
  | .createSession _ => none
  | .startLivePty owner sid _ | .recordPtyStartFailed owner sid _ | .closeSession sid owner
  | .writePtyInput owner sid _ | .applyPtyResize owner sid _ _ | .resizeSession owner sid _ _ => some (sid, owner)
  | .attachSession req => some (req.sessionId, req.ownerId)
  | .detach req => some (req.sessionId, req.ownerId)

/-- The caller owns neither the row nor the registry entry. -/
structure Store.Foreign (st : Store) (sid : SessionId) (caller : UserId) : Prop where
  row : ∀ row, st.sessions.lookup sid = some row → row.ownerId ≠ caller
  entry : ∀ e, st.runtimes.lookup sid = some e → e.snapshot.ownerId ≠ caller

/-- A registry entry of the session, if there is one, is already as a failed start leaves it. -/
def Store.Emptied (st : Store) (sid : SessionId) : Prop :=
  ∀ e, st.runtimes.lookup sid = some e → e.live = none ∧ e.snapshot.status = .ended

theorem Store.Foreign.getOwned (h : st.Foreign sid caller) (env : Env) :
    st.getOwned env sid caller = .error (if env.ok then .notFound else .repository .driver) := by
  unfold Store.getOwned
  have hnone : (st.sessions.lookup sid).filter (·.ownerId = caller) = none := by
    rw [Option.filter_eq_none_iff]
    intro row hrow
    simpa using h.row row hrow
  cases env.ok <;> simp [hnone]

/-- A failed start that finds an emptied entry comes to its first await point with nothing changed. -/
theorem Store.Emptied.enter (h : st.Emptied sid) (owner : UserId) (category : String) :
    st.recordPtyStartFailedEnter owner sid category = st.await (.failedGet owner sid category) := by
  have hruntimes : (st.runtimes.modify sid fun e => ⟨{ e.snapshot with status := .ended }, none⟩) = st.runtimes := by
    apply Registry.modify_eq_self
    intro e he
    obtain ⟨hlive, hstatus⟩ := h e he
    rw [← hlive, ← hstatus]
  have htasks : ((st.runtimes.lookup sid).map RuntimeEntry.tasks).getD [] = [] := by
    cases he : st.runtimes.lookup sid with
    | none => rfl
    | some e => simp [RuntimeEntry.tasks, (h e he).1]
  simp only [Store.recordPtyStartFailedEnter, hruntimes, htasks]
  rfl

/-- The rows that a failed start finds at its first await point are those it was called with. -/
theorem Store.Foreign.failedGet (h : st.Foreign sid caller) (env : Env) (category : String) :
    (st.recordPtyStartFailedEnter caller sid category).store.failedGet env caller sid category =
      (st.recordPtyStartFailedEnter caller sid category).store.fail
        (if env.ok then .notFound else .repository .driver) := by
  have hget : (st.recordPtyStartFailedEnter caller sid category).store.getOwned env sid caller =
      .error (if env.ok then .notFound else .repository .driver) := h.getOwned env
  simp only [Store.failedGet, hget]

theorem Store.Foreign.ownedEntry (h : st.Foreign sid caller) : st.ownedEntry caller sid = .error .notFound := by
  unfold Store.ownedEntry
  have hnone : (st.runtimes.lookup sid).filter (·.snapshot.ownerId = caller) = none := by
    rw [Option.filter_eq_none_iff]
    intro e he
    simpa using h.entry e he
  rw [hnone]

/-- The first await point of a call that reads the row there. -/
theorem perform_refused {c : Call} {t : Task} {env : Nat → Env} {e : ManagerError}
    (henter : s.store.enter c = s.store.await t) (hresume : s.store.resume (env 0) s.nextTask t = s.store.fail e) :
    s.perform c env = some (s, .failed e) := by
  unfold Sys.perform
  rw [henter]
  exact finish_fail hresume

/-- The call is refused with `r` in every state where the session is foreign, which then stays as it is. -/
def Refused (sid : SessionId) (caller : UserId) (c : Call) (env : Nat → Env) (r : Outcome) : Prop :=
  ∀ s : Sys, s.store.Foreign sid caller → (c.isStartFailed → s.store.Emptied sid) → s.perform c env = some (s, r)

section Refused

variable {c : Call} (env : Nat → Env)

/-- The operations that read the row at their first await point. -/
theorem gated_refused {t : Task}
    (henter : ∀ st : Store, (c.isStartFailed → st.Emptied sid) → st.enter c = st.await t)
    (hresume : ∀ (st : Store) (fresh : TaskId) (e : ManagerError), st.getOwned (env 0) sid caller = .error e →
      st.resume (env 0) fresh t = st.fail e) :
    Refused sid caller c env (.failed (if (env 0).ok then .notFound else .repository .driver)) := by
  intro s hs hstart
  exact perform_refused (henter s.store hstart) (hresume s.store s.nextTask _ (hs.getOwned (env 0)))

/-- The operations that are refused before they await anything. -/
theorem enter_refused {e : ManagerError}
    (henter : ∀ st : Store, st.Foreign sid caller → st.enter c = st.fail e) : Refused sid caller c env (.failed e) := by
  intro s hs _
  unfold Sys.perform
  rw [henter s.store hs]
  rfl

/-- The dimensions are validated before anything is read. -/
theorem resize_refused (cols rows : Nat) : ∃ r, Refused sid caller (.resizeSession caller sid cols rows) env r := by
  cases hcols : Store.validateDim "cols" cols with
  | error e =>
    refine ⟨.failed e, enter_refused env fun st _ => ?_⟩
    simp only [Store.enter, Store.resizeSessionEnter, hcols]
  | ok =>
    cases hrows : Store.validateDim "rows" rows with
    | error e =>
      refine ⟨.failed e, enter_refused env fun st _ => ?_⟩
      simp only [Store.enter, Store.resizeSessionEnter, hcols, hrows]
    | ok =>
      refine ⟨_, gated_refused env (t := .resizeGet caller sid cols rows) (fun st _ => ?_) fun st fresh e hget => ?_⟩
      · simp only [Store.enter, Store.resizeSessionEnter, hcols, hrows]
      · simp only [Store.resume, Store.resizeGet, hget]

/-- An operation on a foreign session has one outcome, whatever the state, and
leaves the state as it is. -/
theorem foreign_refused (hc : c.target = some (sid, caller)) : ∃ r, Refused sid caller c env r := by
  cases c <;> cases hc
  case startLivePty pty =>
    refine ⟨_, gated_refused env (t := .startGet caller sid pty) (fun _ _ => rfl) fun st fresh e hget => ?_⟩
    simp only [Store.resume, Store.startGet, hget]
  case recordPtyStartFailed category =>
    refine ⟨_, gated_refused env (t := .failedGet caller sid category) (fun st hst => ?_) fun st fresh e hget => ?_⟩
    · exact (hst rfl).enter caller category
    · simp only [Store.resume, Store.failedGet, hget]
  case closeSession =>
    refine ⟨_, gated_refused env (t := .closeGet .request sid caller) (fun _ _ => rfl) fun st fresh e hget => ?_⟩
    simp only [Store.resume, Store.closeGet, hget]
  case attachSession req =>
    refine ⟨_, gated_refused env (t := .attachGet req) (fun _ _ => rfl) fun st fresh e hget => ?_⟩
    simp only [Store.resume, Store.attachGet, hget]
  case detach req =>
    refine ⟨_, gated_refused env (t := .detachGet req) (fun _ _ => rfl) fun st fresh e hget => ?_⟩
    simp only [Store.resume, Store.detachGet, hget]
  case writePtyInput bytes =>
    refine ⟨.failed .notFound, enter_refused env fun st hst => ?_⟩
    simp only [Store.enter, Store.writePtyInputEnter, Store.liveHandleFor, hst.ownedEntry]
  case applyPtyResize cols rows =>
    refine ⟨.failed .notFound, enter_refused env fun st hst => ?_⟩
    simp only [Store.enter, Store.applyPtyResizeEnter, Store.maybeLiveHandleFor, hst.ownedEntry]
  case resizeSession cols rows => exact resize_refused env cols rows

end Refused

/-! ## A session that does not exist -/

/-- The state without the session: its row, its attachments, its events and its registry entries. -/
def Sys.without (s : Sys) (sid : SessionId) : Sys :=
  { s with store := { s.store with
      sessions := s.store.sessions.erase sid
      attachmentRows := s.store.attachmentRows.retain (·.sessionId ≠ sid)
      events := s.store.events.filter (·.sessionId ≠ sid)
      runtimes := s.store.runtimes.erase sid
      attachments := s.store.attachments.retain (·.sessionId ≠ sid) } }

theorem without_foreign (s : Sys) (sid : SessionId) (caller : UserId) : (s.without sid).store.Foreign sid caller := by
  constructor <;> simp [Sys.without]

/-- A failed start of a foreign session that is not seen has found its entry emptied. -/
theorem emptied_of_unseen {category : String} {env : Nat → Env} {r : Outcome} (hs : s.store.Foreign sid caller)
    (h : s.perform (.recordPtyStartFailed caller sid category) env = some (s, r)) : s.store.Emptied sid := by
  have hdone : s.perform (.recordPtyStartFailed caller sid category) env =
      some (s.leave (s.store.recordPtyStartFailedEnter caller sid category), .failed _) :=
    finish_fail (hs.failedGet (env 0) category)
  rw [hdone] at h
  have hleft : s.leave (s.store.recordPtyStartFailedEnter caller sid category) = s :=
    congrArg Prod.fst (Option.some.inj h)
  intro e he
  -- the entry is what the call has made of it
  have hmade : (s.leave (s.store.recordPtyStartFailedEnter caller sid category)).store.runtimes.lookup sid =
      some ⟨{ e.snapshot with status := .ended }, none⟩ := by
    simp [Sys.leave, Store.recordPtyStartFailedEnter, Store.await, Registry.lookup_modify, he]
  rw [hleft, he] at hmade
  have hentry := Option.some.inj hmade
  rw [hentry]
  exact ⟨rfl, rfl⟩

/-- In every state, an operation of a caller on a session of another user returns
what it returns where the session does not exist, and changes nothing, if and only
if it is not a failed start that finds an entry to empty. -/
theorem foreign_invisible_iff (ttl : Nat) (evs : List Event) (s : Sys) (sid : SessionId) (row : TerminalSession)
    (caller : UserId) (c : Call) (env : Nat → Env) (hr : run Sys.step (Sys.init ttl) evs = some s)
    (hrow : s.store.sessions.lookup sid = some row) (hne : row.ownerId ≠ caller) (hc : c.target = some (sid, caller)) :
    (∃ r, s.perform c env = some (s, r) ∧ (s.without sid).perform c env = some (s.without sid, r)) ↔
      (c.isStartFailed → s.store.Emptied sid) := by
  have howned : EntriesOwned s := run_inv _ (fun _ _ _ hs h => step_entriesOwned hs h) hr (init_entriesOwned ttl)
  have hforeign : s.store.Foreign sid caller := by
    refine ⟨fun r hr => ?_, fun e he => ?_⟩
    · cases hrow.symm.trans hr
      exact hne
    · obtain ⟨r, hr, ho⟩ := howned.entries sid e he
      cases hrow.symm.trans hr
      exact ho ▸ hne
  constructor
  · rintro ⟨r, hunseen, -⟩ hstart
    cases c with
    | recordPtyStartFailed owner k category =>
      cases hc
      exact emptied_of_unseen hforeign hunseen
    | _ => cases hstart
  · intro hstart
    obtain ⟨r, hrefused⟩ := foreign_refused env hc
    refine ⟨r, hrefused s hforeign hstart, hrefused _ (without_foreign s sid caller) fun _ e he => ?_⟩
    simp [Sys.without] at he

/-- The bridge of session 7 does not start, and the repository fails before its row is closed. -/
def failedStartRun : List Event :=
  [.call (.createSession ⟨1, 1, 80, 24⟩), .resume 0 { id := 7, now := 1 }, .resume 0 {},
   .call (.recordPtyStartFailed 1 7 "transport"), .resume 1 { ok := false }]

/-- What is left of session 7 user 2 can neither close nor report as failed again. -/
theorem foreign_invisible_iff_failed :
    ∃ s, run Sys.step (Sys.init 30) failedStartRun = some s ∧ (s.store.runtimes.lookup 7).isSome ∧
      ∀ c ∈ [Call.closeSession 7 2, .recordPtyStartFailed 2 7 "transport"], ∃ r,
        s.perform c (fun _ => {}) = some (s, r) ∧ (s.without 7).perform c (fun _ => {}) = some (s.without 7, r) := by
  refine ⟨_, rfl, rfl, fun c hc => ?_⟩
  have htarget : c.target = some (7, 2) := by
    rcases List.mem_pair.1 hc with rfl | rfl <;> rfl
  refine (foreign_invisible_iff 30 failedStartRun _ 7 _ 2 c (fun _ => {}) rfl rfl (by decide) htarget).2 ?_
  intro _ e he
  cases he
  exact ⟨rfl, rfl⟩

/-- User 2 reports a failed start of the live session 7: refused, but its runtime is gone. -/
theorem foreign_runtime_dropped :
    ¬ ∀ (ttl : Nat) (evs : List Event) (s : Sys) (sid : SessionId) (row : TerminalSession) (caller : UserId) (c : Call)
      (env : Nat → Env), run Sys.step (Sys.init ttl) evs = some s → s.store.sessions.lookup sid = some row →
      row.ownerId ≠ caller → c.target = some (sid, caller) →
      ∃ r, s.perform c env = some (s, r) ∧ (s.without sid).perform c env = some (s.without sid, r) := by
  intro h
  obtain ⟨r, hsame, -⟩ := h 30 startedRun _ 7 _ 2 (.recordPtyStartFailed 2 7 "transport") (fun _ => {}) rfl rfl
    (by decide) rfl
  have hlive : some false = some true := congrArg (fun o => o.map fun p => (p.1.store.live 7).isSome) hsame
  cases hlive

end RelayTerm.Session
