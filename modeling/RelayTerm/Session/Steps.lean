import RelayTerm.Session.Tasks
import RelayTerm.Lib.Runs
/-!
# What one step can do

Inversion lemmas: for each repository call, for the task pool, and for the
session rows. The invariants of the other modules are read off these.
-/
open RelayTerm.Lib

namespace RelayTerm.Session

variable {st st' : Store} {env : Env} {sid : SessionId} {s s' : Sys}

/-! ## Repository calls that succeed -/

namespace Store

@[grind →]
theorem getOwned_ok {owner : UserId} {session : TerminalSession} (h : st.getOwned env sid owner = .ok session) :
    st.sessions.lookup sid = some session ∧ session.ownerId = owner := by
  unfold getOwned at h
  split at h
  · cases h
  · split at h
    · cases h
    · rename_i hrow
      cases h
      obtain ⟨hrow, howner⟩ := Option.filter_eq_some_iff.1 hrow
      exact ⟨hrow, of_decide_eq_true howner⟩

@[grind →]
theorem createSession_ok {req : CreateTerminalSessionRequest} {row : TerminalSession}
    (h : st.createSession env req = .ok (row, st')) :
    st.sessions.lookup env.id = none ∧ row.status = .starting ∧
      st' = { st with sessions := st.sessions.insert env.id row } := by
  unfold createSession at h
  split at h
  · cases h
  · split at h <;> cases h
    exact ⟨Option.not_isSome_iff_eq_none.1 ‹_›, rfl, rfl⟩

@[grind →]
theorem setStatus_ok {status : TerminalSessionStatus} {closedAt : Option Time}
    (h : st.setStatus env sid status closedAt = .ok st') :
    ∃ row, st.sessions.lookup sid = some row ∧
      st' = { st with sessions := st.sessions.insert sid (row.setStatus status closedAt env.now) } := by
  unfold setStatus at h
  split at h
  · cases h
  · split at h <;> cases h
    exact ⟨_, ‹_›, rfl⟩

@[grind →]
theorem createAttachment_ok {clientInfo remoteAddr : Option String} {a : TerminalSessionAttachment}
    (h : st.createAttachment env sid clientInfo remoteAddr = .ok (a, st')) :
    st.attachmentRows.lookup env.id = none ∧ st' = { st with attachmentRows := st.attachmentRows.insert env.id a } := by
  unfold createAttachment at h
  split at h
  · cases h
  · split at h <;> cases h
    exact ⟨Option.not_isSome_iff_eq_none.1 ‹_›, rfl⟩

@[grind →]
theorem markAttachmentDetached_ok {aid : AttachmentId} {now : Time} {lastSeenSeq : Option Int}
    (h : st.markAttachmentDetached env aid now lastSeenSeq = .ok st') :
    ∃ a, st.attachmentRows.lookup aid = some a ∧
      st' = { st with attachmentRows := st.attachmentRows.insert aid (a.markDetached now lastSeenSeq) } := by
  unfold markAttachmentDetached at h
  split at h
  · cases h
  · split at h <;> cases h
    exact ⟨_, ‹_›, rfl⟩

@[grind →]
theorem createEvent_ok {ev : SessionEvent} (h : st.createEvent env ev = .ok st') :
    st' = { st with events := st.events ++ [ev] } := by
  unfold createEvent at h
  split at h <;> cases h
  rfl

end Store

/-! ## The scheduling of a TTL close -/

section Schedule

variable (st env) (fresh : TaskId) (req : DetachRequest) (detach : DetachSessionOutcome)

/-- Either nothing changes, or the runtime is live with no close pending and
the new timer is installed on it. -/
theorem scheduleInstall_cases :
    (∃ pending, st.scheduleInstall env fresh req detach = st.ret (.detached detach pending)) ∨
    (∃ live info, st.live req.sessionId = some live ∧ live.detachClose = none ∧
      st.scheduleInstall env fresh req detach =
        { (st.setDetachClose req.sessionId (some ⟨info, fresh⟩)).ret (.detached detach (some info)) with
          spawned := some (.ttlSleep req.sessionId req.ownerId) }) := by
  unfold Store.scheduleInstall
  cases hlive : st.live req.sessionId with
  | none => exact .inl ⟨none, rfl⟩
  | some live =>
    cases hd : live.detachClose with
    | some d => exact .inl ⟨some d.info, by simp [hd]⟩
    | none => exact .inr ⟨live, ⟨env.now, env.now + st.detachTtl⟩, rfl, hd, by simp only [hd]⟩

/-- `schedule_detach_close` writes the row, or fails to, and goes on to install the timer. -/
theorem scheduleSetDetached_cases :
    ∃ st', (st' = st ∨ ∃ row, st.sessions.lookup req.sessionId = some row ∧
        st' = { st with sessions := st.sessions.insert req.sessionId (row.setStatus .detached none env.now) }) ∧
      st.scheduleSetDetached env fresh req detach = st'.scheduleInstall env fresh req detach := by
  unfold Store.scheduleSetDetached
  split
  · exact ⟨st, .inl rfl, rfl⟩
  · obtain ⟨row, hrow, rfl⟩ := Store.setStatus_ok ‹_›
    exact ⟨_, .inr ⟨row, hrow, rfl⟩, rfl⟩

end Schedule

/-! ## The task pool -/

theorem lookup_abortAll {aborted : List TaskId} {tasks : Registry TaskId Task} {i : TaskId} {t : Task} :
    (abortAll aborted tasks).lookup i = some t ↔ i ∉ aborted ∧ tasks.lookup i = some t := by
  induction aborted with
  | nil => simp [abortAll]
  | cons j js ih =>
    simp only [abortAll, List.foldr_cons, Registry.lookup_erase_iff, List.mem_cons, not_or, and_assoc] at ih ⊢
    rw [ih]

/-- A task of the pool after a stretch of `tid`: spawned by it, its own next
await point, or one that was there before. -/
theorem settle_task {tid fresh i : TaskId} {o : Out} {t : Task}
    (h : (s.settle tid fresh o).tasks.lookup i = some t) :
    i ∉ o.aborted ∧ ((i = fresh ∧ o.spawned = some t) ∨ (i = tid ∧ o.next = .await t) ∨
      (i ≠ tid ∧ s.tasks.lookup i = some t)) := by
  obtain ⟨ha, h⟩ := lookup_abortAll.1 h
  refine ⟨ha, ?_⟩
  have awaited : ∀ u, (s.tasks.insert tid u).lookup i = some t →
      (i = tid ∧ Next.await u = .await t) ∨ (i ≠ tid ∧ s.tasks.lookup i = some t) := by
    intro u h
    rcases Registry.lookup_insert_iff.1 h with ⟨rfl, rfl⟩ | h
    · exact .inl ⟨rfl, rfl⟩
    · exact .inr h
  obtain ⟨store, next, spawned, aborted⟩ := o
  cases spawned with
  | none => cases next with
    | await u => exact .inr (awaited u h)
    | ret r => exact .inr (.inr (Registry.lookup_erase_iff.1 h))
  | some v =>
    rcases Registry.lookup_insert_iff.1 h with ⟨rfl, rfl⟩ | ⟨-, h⟩
    · exact .inl ⟨rfl, rfl⟩
    · cases next with
      | await u => exact .inr (awaited u h)
      | ret r => exact .inr (.inr (Registry.lookup_erase_iff.1 h))

theorem step_resume {tid : TaskId} (h : s.step (.resume tid env) = some s') :
    ∃ t, s.tasks.lookup tid = some t ∧ s' = s.settle tid s.nextTask (s.store.resume env s.nextTask t) := by
  obtain ⟨t, ht, rfl⟩ := Option.map_eq_some_iff.1 h
  exact ⟨t, ht, rfl⟩

/-! ## The session rows -/

/-- A status write an operation is about to make, with the row it read at its entry. -/
structure StatusWrite where
  sid : SessionId
  read : TerminalSession
  status : TerminalSessionStatus
  closedAt : Option Time

/-- The status write a task's next statement makes. -/
def Task.statusWrite : Task → Option StatusWrite
  | .startSetActive _ sid session _ _ => some ⟨sid, session, .active, none⟩
  | .attachSetActive req session _ _ _ => some ⟨req.sessionId, session, .active, none⟩
  | .scheduleSetDetached req detach => some ⟨req.sessionId, detach.session, .detached, none⟩
  | .failedSetClosed sid session _ now | .closeSetClosed _ sid _ session now | .teardownSetClosed sid session _ now =>
    some ⟨sid, session, .closed, some now⟩
  | _ => none

/-- No call touches a session row before its first await point. -/
theorem enter_sessions (c : Call) : (st.enter c).store.sessions = st.sessions := by
  cases c <;> grind

/-- A stretch leaves the session rows alone, inserts a row under a new id, or
makes the task's status write. -/
theorem resume_sessions (st : Store) (env : Env) (fresh : TaskId) (t : Task) :
    (st.resume env fresh t).store.sessions = st.sessions ∨
    (∃ sid row, st.sessions.lookup sid = none ∧ row.status = .starting ∧
      (st.resume env fresh t).store.sessions = st.sessions.insert sid row) ∨
    (∃ w row, t.statusWrite = some w ∧ st.sessions.lookup w.sid = some row ∧
      (st.resume env fresh t).store.sessions =
        st.sessions.insert w.sid (row.setStatus w.status w.closedAt env.now)) := by
  cases t
  case createInsert req =>
    simp only [Store.resume, Store.createInsert]
    split
    · exact .inl rfl
    · obtain ⟨hnew, hst, rfl⟩ := Store.createSession_ok ‹_›
      exact .inr (.inl ⟨_, _, hnew, hst, rfl⟩)
  case startSetActive | attachSetActive | failedSetClosed | closeSetClosed | teardownSetClosed =>
    simp only [Store.resume, Store.startSetActive, Store.attachSetActive, Store.failedSetClosed,
      Store.closeSetClosed, Store.teardownSetClosed]
    split
    · exact .inl rfl
    · obtain ⟨row, hrow, rfl⟩ := Store.setStatus_ok ‹_›
      exact .inr (.inr ⟨_, row, rfl, hrow, rfl⟩)
  case scheduleSetDetached req detach =>
    obtain ⟨st', hst', h⟩ := scheduleSetDetached_cases st env fresh req detach
    have hsess : (st.resume env fresh (.scheduleSetDetached req detach)).store.sessions = st'.sessions := by
      simp only [Store.resume, h]
      rcases scheduleInstall_cases st' env fresh req detach with ⟨_, h⟩ | ⟨_, _, _, _, h⟩ <;> rw [h] <;> rfl
    rw [hsess]
    rcases hst' with rfl | ⟨row, hrow, rfl⟩
    · exact .inl rfl
    · exact .inr (.inr ⟨_, row, rfl, hrow, rfl⟩)
  -- every other stretch reads, appends an event, or works on attachments and registries
  all_goals
    left
    grind [Store.dropAttachments, Store.setDetachClose, Store.setDims]

/-- Rewriting a row with its owner kept keeps the owner of every row. -/
theorem owners_insert {sessions : Registry SessionId TerminalSession} {sid : SessionId} {row new : TerminalSession}
    (h : sessions.lookup sid = some row) (howner : new.ownerId = row.ownerId) :
    ∀ k r, sessions.lookup k = some r →
      ∃ r', (sessions.insert sid new).lookup k = some r' ∧ r'.ownerId = r.ownerId := by
  intro k r hr
  by_cases hk : k = sid
  · subst hk
    cases h.symm.trans hr
    exact ⟨new, AList.lookup_insert .., howner⟩
  · exact ⟨r, (AList.lookup_insert_ne hk).trans hr, rfl⟩

/-- No stretch changes the owner of a session. -/
theorem resume_owners (st : Store) (env : Env) (fresh : TaskId) (t : Task) (k : SessionId) {row : TerminalSession}
    (h : st.sessions.lookup k = some row) :
    ∃ row', (st.resume env fresh t).store.sessions.lookup k = some row' ∧ row'.ownerId = row.ownerId := by
  rcases resume_sessions st env fresh t with he | ⟨new, r, hnew, -, he⟩ | ⟨w, r, -, hr, he⟩ <;> rw [he]
  · exact ⟨row, h, rfl⟩
  · have hne : k ≠ new := by rintro rfl; rw [hnew] at h; cases h
    exact ⟨row, (AList.lookup_insert_ne hne).trans h, rfl⟩
  · have howner : (r.setStatus w.status w.closedAt env.now).ownerId = r.ownerId := rfl
    exact owners_insert hr howner k row h

/-! ## The event log -/

/-- The event a task's next statement inserts. -/
def Task.logs : Task → Option SessionEvent
  | .createEvent sid session => some ⟨sid, .created, .created session.cols session.rows true⟩
  | .failedEvent sid category => some ⟨sid, .closed, .closed "ssh_start_failed" (some category)⟩
  | .closeEvent _ sid _ => some ⟨sid, .closed, .closed "client_requested" none⟩
  | .attachEvent req _ _ aid _ live =>
    some ⟨req.sessionId, .attached, .attached aid req.clientInfo req.remoteAddr live.isNone live.isSome⟩
  | .attachReattached req _ aid _ _ => some ⟨req.sessionId, .reattached, .reattached aid⟩
  | .detachEvent req _ => some ⟨req.sessionId, .detached, .detached req.attachmentId req.lastSeenSeq⟩
  | .resizeEvent sid _ cols rows => some ⟨sid, .resized, .resized cols rows⟩
  | .teardownEvent sid category => some ⟨sid, .closed, .closed "pty_teardown" (some category)⟩
  | _ => none

theorem createEvent_events (ev : SessionEvent) :
    st.createEvent env ev =
      if env.ok then .ok { st with events := st.events ++ [ev] } else .error (.repository .driver) := by
  unfold Store.createEvent
  cases env.ok <;> rfl

/-- A stretch appends its task's event, if the statement succeeds. -/
theorem resume_events (st : Store) (env : Env) (fresh : TaskId) (t : Task) :
    (st.resume env fresh t).store.events = st.events ++ if env.ok then t.logs.toList else [] := by
  cases t
  case createEvent | closeEvent | attachEvent | attachReattached | detachEvent | resizeEvent | teardownEvent
      | failedEvent =>
    simp only [Store.resume, Store.createEventInsert, Store.closeEvent, Store.attachEvent, Store.attachReattached,
      Store.detachEvent, Store.resizeEvent, Store.teardownEvent, Store.failedEvent, createEvent_events, Task.logs,
      Option.toList_some]
    cases env.ok <;> simp [Store.fail, Store.ret, Store.await, Store.attachRegister, Store.dropAttachments] <;> grind
  case scheduleSetDetached req detach =>
    obtain ⟨st', hst', h⟩ := scheduleSetDetached_cases st env fresh req detach
    have hev : st'.events = st.events := by rcases hst' with rfl | ⟨row, -, rfl⟩ <;> rfl
    simp only [Store.resume, h, Task.logs, Option.toList_none, ite_self, List.append_nil]
    rcases scheduleInstall_cases st' env fresh req detach with ⟨_, hi⟩ | ⟨_, _, _, _, hi⟩ <;> rw [hi] <;> exact hev
  all_goals
    simp only [Task.logs, Option.toList_none, ite_self, List.append_nil]
    grind [Store.dropAttachments, Store.setDetachClose, Store.setDims]

/-! ## Control flow -/

/-- The edges of the operations' control flow: from the await point a task is
resumed at to the one it reaches, with what the stretch between them checked. -/
@[grind intro]
inductive Edge (st : Store) (env : Env) (fresh : TaskId) : Task → Task → Prop
  | created {req session} : Edge st env fresh (.createInsert req) (.createEvent env.id session)
  | startGate {owner sid pty session} : st.sessions.lookup sid = some session → session.status ≠ .closed →
      ¬ (st.runtimes.lookup sid).isNone →
      Edge st env fresh (.startGet owner sid pty) (.startSetActive owner sid session pty fresh)
  | startActive {owner sid session pty fwd} :
      Edge st env fresh (.startSetActive owner sid session pty fwd) (.startReget owner sid pty fwd)
  | startLeftover {owner sid pty fwd} : Edge st env fresh (.startReget owner sid pty fwd) (.startLeftoverClose sid)
  | failedGate {owner sid category session} : st.sessions.lookup sid = some session → session.status ≠ .closed →
      Edge st env fresh (.failedGet owner sid category) (.failedSetClosed sid session category env.now)
  | failedClosed {sid session category now} :
      Edge st env fresh (.failedSetClosed sid session category now) (.failedEvent sid category)
  | closeGate {origin sid owner session} : st.sessions.lookup sid = some session → session.status ≠ .closed →
      session.ownerId = owner →
      Edge st env fresh (.closeGet origin sid owner) (.closeSetClosed origin sid owner session env.now)
  | closeStale {origin sid owner live session} : st.live sid = some live →
      st.sessions.lookup sid = some session → session.status = .closed →
      Edge st env fresh (.closeGet origin sid owner) (.shutdownHandle sid live session true)
  | closeClosed {origin sid owner session now} :
      Edge st env fresh (.closeSetClosed origin sid owner session now) (.closeEvent origin sid owner)
  | closeLogged {origin sid owner} : Edge st env fresh (.closeEvent origin sid owner) (.closeReget origin sid owner)
  | closeRemoved {origin sid owner live session} : st.live sid = some live →
      Edge st env fresh (.closeReget origin sid owner) (.shutdownHandle sid live session false)
  | handleForwarder {sid live session already} :
      Edge st env fresh (.shutdownHandle sid live session already)
        (.shutdownForwarder sid { live with forwarder := none } session already)
  | handleClosed {sid live session already} : live.forwarder = none →
      Edge st env fresh (.shutdownHandle sid live session already) (.shutdownRecording sid live session already)
  | forwarderDone {sid live session already} :
      Edge st env fresh (.shutdownForwarder sid live session already) (.shutdownRecording sid live session already)
  | attachGate {req session wasPending} : st.sessions.lookup req.sessionId = some session → session.status ≠ .closed →
      Edge st env fresh (.attachGet req) (.attachCreate req session wasPending)
  | attachCreated {req session wasPending a live} :
      Edge st env fresh (.attachCreate req session wasPending) (.attachEvent req session wasPending env.id a live)
  | attachLogged {req session aid a live} :
      Edge st env fresh (.attachEvent req session true aid a live) (.attachSetActive req session aid a live)
  | attachActive {req session aid a live} :
      Edge st env fresh (.attachSetActive req session aid a live) (.attachReattached req session aid a live)
  | detachGate {req session} : Edge st env fresh (.detachGet req) (.detachGetAttachment req session)
  | detachFound {req session} : Edge st env fresh (.detachGetAttachment req session) (.detachMark req session env.now)
  | detachMarked {req session now} : Edge st env fresh (.detachMark req session now) (.detachEvent req session)
  | detachLogged {req session} : Edge st env fresh (.detachEvent req session) (.detachReget req session)
  | detachLast {req session a} :
      Edge st env fresh (.detachReget req session) (.scheduleSetDetached req ⟨session, a, false⟩)
  | resizeGate {owner sid cols rows session} : st.sessions.lookup sid = some session → session.status ≠ .closed →
      Edge st env fresh (.resizeGet owner sid cols rows) (.resizeEvent sid session cols rows)
  | expired {sid owner} : (st.pendingClose sid).isSome →
      Edge st env fresh (.ttlSleep sid owner) (.closeGet .ttl sid owner)
  | pumped {sid owner reason reason'} : Edge st env fresh (.pump sid owner reason) (.pump sid owner reason')
  | pumpEnded {sid owner reason} :
      Edge st env fresh (.pump sid owner reason) (.teardownGet sid owner (Store.teardownCategory reason))
  | teardownGate {sid owner category session} : st.sessions.lookup sid = some session → session.status ≠ .closed →
      session.ownerId = owner →
      Edge st env fresh (.teardownGet sid owner category) (.teardownSetClosed sid session category env.now)
  | teardownClosed {sid session category now} :
      Edge st env fresh (.teardownSetClosed sid session category now) (.teardownEvent sid category)

theorem resume_edge (fresh : TaskId) {t t' : Task} (h : (st.resume env fresh t).next = .await t') :
    Edge st env fresh t t' := by
  cases t
  case scheduleSetDetached req detach =>
    obtain ⟨st', -, hs⟩ := scheduleSetDetached_cases st env fresh req detach
    simp only [Store.resume, hs] at h
    rcases scheduleInstall_cases st' env fresh req detach with ⟨_, hi⟩ | ⟨_, _, _, _, hi⟩ <;> rw [hi] at h <;> cases h
  all_goals grind

/-- Two stretches spawn a task: the start of a PTY its forwarder, the scheduling
of a close its timer. -/
theorem resume_spawned (fresh : TaskId) {t u : Task} (h : (st.resume env fresh t).spawned = some u) :
    (∃ owner sid pty, t = .startGet owner sid pty ∧ u = .pump sid owner none) ∨
    (∃ req detach, t = .scheduleSetDetached req detach ∧ u = .ttlSleep req.sessionId req.ownerId) := by
  cases t
  case scheduleSetDetached req detach =>
    obtain ⟨st', -, hs⟩ := scheduleSetDetached_cases st env fresh req detach
    simp only [Store.resume, hs] at h
    rcases scheduleInstall_cases st' env fresh req detach with ⟨_, hi⟩ | ⟨_, _, _, _, hi⟩ <;> rw [hi] at h <;> cases h
    exact .inr ⟨req, detach, rfl, rfl⟩
  all_goals grind

/-- A call spawns nothing before its first await point. -/
theorem enter_spawned (c : Call) : (st.enter c).spawned = none := by
  cases c <;> grind

/-- A task of the pool after a call: at its first await point, or there before. -/
theorem entered_task {c : Call} {i : TaskId} {t : Task}
    (h : (s.settle s.nextTask (s.nextTask + 1) (s.store.enter c)).tasks.lookup i = some t) :
    (i = s.nextTask ∧ (s.store.enter c).next = .await t) ∨ (i ≠ s.nextTask ∧ s.tasks.lookup i = some t) := by
  obtain ⟨-, ⟨-, hsp⟩ | hnew⟩ := settle_task h
  · rw [enter_spawned] at hsp
    cases hsp
  · exact hnew

end RelayTerm.Session
