import RelayTerm.Session.Detach
/-!
# Calls that run alone

A manager call that runs to its end with no other task in between, any of its
repository calls failing: what an attach, a detach and the close of a TTL task
leave behind when the calls that matter succeed, and that a call which fails
before it matters leaves everything as it was.
-/
open RelayTerm.Lib

namespace RelayTerm.Session

/-- Put a stretch of the running task into effect; the task itself is not in the pool. -/
def Sys.leave (s : Sys) (o : Out) : Sys :=
  let tasks := match o.spawned with
    | some u => s.tasks.insert s.nextTask u
    | none => s.tasks
  ⟨o.store, abortAll o.aborted tasks, if o.spawned.isSome then s.nextTask + 1 else s.nextTask⟩

/-- Run a task to its end with no other task in between; `env i` is what its
`i`-th await point meets. -/
def finish (env : Nat → Env) : Nat → Nat → Task → Sys → Option (Sys × Outcome)
  | 0, _, _, _ => none
  | fuel + 1, i, t, s =>
    let o := s.store.resume (env i) s.nextTask t
    match o.next with
    | .ret r => some (s.leave o, r)
    | .await t' => finish env fuel (i + 1) t' (s.leave o)

/-- No manager call has more await points. -/
def maxAwaits : Nat := 10

/-- Make a call and run it to its end. -/
def Sys.perform (s : Sys) (c : Call) (env : Nat → Env) : Option (Sys × Outcome) :=
  let o := s.store.enter c
  match o.next with
  | .ret r => some (s.leave o, r)
  | .await t => finish env maxAwaits 0 t (s.leave o)

def Call.isStartFailed : Call → Bool
  | .recordPtyStartFailed .. => true
  | _ => false

/-- A TTL close is pending: it is on the live runtime and its task still sleeps. -/
def Sys.TtlPending (s : Sys) (sid : SessionId) : Prop :=
  ∃ d owner, s.store.pendingClose sid = some d ∧ s.tasks.lookup d.handle = some (.ttlSleep sid owner)

section Finish

variable {env : Nat → Env} {fuel i : Nat} {t t' : Task} {s : Sys} {st st' : Store}

theorem finish_await (h : s.store.resume (env i) s.nextTask t = st'.await t') :
    finish env (fuel + 1) i t s = finish env fuel (i + 1) t' { s with store := st' } := by
  simp [finish, h, Store.await, Sys.leave, abortAll]

theorem finish_next {o : Out} (h : s.store.resume (env i) s.nextTask t = o) (hn : o.next = .await t') :
    finish env (fuel + 1) i t s = finish env fuel (i + 1) t' (s.leave o) := by
  simp [finish, h, hn]

theorem finish_fail {e : ManagerError} (h : s.store.resume (env i) s.nextTask t = s.store.fail e) :
    finish env (fuel + 1) i t s = some (s, .failed e) := by
  simp [finish, h, Store.fail, Sys.leave, abortAll]

theorem finish_ret {o : Out} {r : Outcome} (h : s.store.resume (env i) s.nextTask t = o) (hr : o.next = .ret r) :
    finish env (fuel + 1) i t s = some (s.leave o, r) := by
  simp [finish, h, hr]

end Finish

section Calls

variable {env : Env} {fresh : TaskId} {st : Store} {sid : SessionId}

theorem getOwned_eq {row : TerminalSession} (hok : env.ok) (h : st.sessions.lookup sid = some row) :
    st.getOwned env sid row.ownerId = .ok row := by
  simp [Store.getOwned, hok, h, Option.filter]

theorem getAttachment_eq {aid : AttachmentId} {a : TerminalSessionAttachment} (hok : env.ok)
    (h : st.attachmentRows.lookup aid = some a) : st.getAttachment env aid a.sessionId = .ok a := by
  simp [Store.getAttachment, hok, h, Option.filter]

theorem createEvent_eq (hok : env.ok) (ev : SessionEvent) :
    st.createEvent env ev = .ok { st with events := st.events ++ [ev] } := by
  simp [Store.createEvent, hok]

theorem setStatus_eq {row : TerminalSession} (hok : env.ok) (h : st.sessions.lookup sid = some row)
    (status : TerminalSessionStatus) (closedAt : Option Time) :
    st.setStatus env sid status closedAt =
      .ok { st with sessions := st.sessions.insert sid (row.setStatus status closedAt env.now) } := by
  simp [Store.setStatus, hok, h]

/-- A status write that succeeds. -/
theorem statusWrite_ok {fresh : TaskId} {t : Task} {w : StatusWrite} {row : TerminalSession} (hok : env.ok)
    (hw : t.statusWrite = some w) (hrow : st.sessions.lookup w.sid = some row) :
    (st.resume env fresh t).store.sessions.lookup w.sid = some (row.setStatus w.status w.closedAt env.now) := by
  cases t <;> cases hw
  case scheduleSetDetached req detach =>
    simp only [Store.resume, Store.scheduleSetDetached, setStatus_eq hok hrow]
    rcases scheduleInstall_cases _ env fresh req detach with ⟨_, hi⟩ | ⟨_, _, _, _, hi⟩ <;> rw [hi] <;>
      exact AList.lookup_insert ..
  all_goals
    simp only [Store.resume, Store.startSetActive, Store.attachSetActive, Store.failedSetClosed, Store.closeSetClosed,
      Store.teardownSetClosed, setStatus_eq hok hrow]
    exact AList.lookup_insert ..

end Calls

/-- Stores that differ only where no socket looks: in the events, in the
attachment rows and in the status of session rows. -/
structure Store.Quiet (st st' : Store) : Prop where
  runtimes : st'.runtimes = st.runtimes
  attachments : st'.attachments = st.attachments
  owners : ∀ sid row, st.sessions.lookup sid = some row →
    ∃ row', st'.sessions.lookup sid = some row' ∧ row'.ownerId = row.ownerId

/-- Keeping the owner of every row is transitive. -/
theorem owners_trans {st st' st'' : Store}
    (h : ∀ sid row, st.sessions.lookup sid = some row →
      ∃ row', st'.sessions.lookup sid = some row' ∧ row'.ownerId = row.ownerId)
    (h' : ∀ sid row, st'.sessions.lookup sid = some row →
      ∃ row', st''.sessions.lookup sid = some row' ∧ row'.ownerId = row.ownerId) :
    ∀ sid row, st.sessions.lookup sid = some row →
      ∃ row', st''.sessions.lookup sid = some row' ∧ row'.ownerId = row.ownerId := by
  intro sid row hrow
  obtain ⟨row', hrow', ho⟩ := h sid row hrow
  obtain ⟨row'', hrow'', ho'⟩ := h' sid row' hrow'
  exact ⟨row'', hrow'', ho'.trans ho⟩

theorem Store.Quiet.of_sessions {st st' : Store} (hr : st'.runtimes = st.runtimes)
    (ha : st'.attachments = st.attachments) (hs : st'.sessions = st.sessions) : st.Quiet st' :=
  ⟨hr, ha, fun _ row h => ⟨row, hs ▸ h, rfl⟩⟩

theorem Store.Quiet.trans {st st' st'' : Store} (h : st.Quiet st') (h' : st'.Quiet st'') : st.Quiet st'' :=
  ⟨h'.runtimes.trans h.runtimes, h'.attachments.trans h.attachments, owners_trans h.owners h'.owners⟩

/-- A status write keeps the owner of every row. -/
theorem Store.Quiet.setStatus {st : Store} {sid : SessionId} {row : TerminalSession}
    (h : st.sessions.lookup sid = some row) (status : TerminalSessionStatus) (closedAt : Option Time) (now : Time) :
    st.Quiet { st with sessions := st.sessions.insert sid (row.setStatus status closedAt now) } :=
  ⟨rfl, rfl, owners_insert h rfl⟩

theorem Store.Quiet.live {st st' : Store} (h : st.Quiet st') (sid : SessionId) : st'.live sid = st.live sid := by
  simp only [Store.live, h.runtimes]

theorem Store.Quiet.pendingClose {st st' : Store} (h : st.Quiet st') (sid : SessionId) :
    st'.pendingClose sid = st.pendingClose sid := by
  simp only [Store.pendingClose, h.live]

/-! ## Detaching -/

section Detach

variable {env : Nat → Env} {s : Sys} {req : DetachRequest} {row : TerminalSession} {a : TerminalSessionAttachment}

/-- The attachment a socket holds: its row is open and belongs to a session of the caller. -/
structure Holds (s : Sys) (req : DetachRequest) (row : TerminalSession) (a : TerminalSessionAttachment) : Prop where
  session : s.store.sessions.lookup req.sessionId = some row
  owner : row.ownerId = req.ownerId
  attachment : s.store.attachmentRows.lookup req.attachmentId = some a
  sessionId : a.sessionId = req.sessionId
  notDetached : a.detachedAt = none

theorem perform_detach : s.perform (.detach req) env = finish env maxAwaits 0 (.detachGet req) s := rfl

theorem Holds.get (h : Holds s req row a) (h0 : (env 0).ok) :
    s.store.resume (env 0) s.nextTask (.detachGet req) = s.store.await (.detachGetAttachment req row) := by
  simp only [Store.resume, Store.detachGet, ← h.owner, getOwned_eq h0 h.session]

theorem Holds.getAttachment (h : Holds s req row a) (h1 : (env 1).ok) :
    s.store.resume (env 1) s.nextTask (.detachGetAttachment req row) =
      s.store.await (.detachMark req row (env 1).now) := by
  simp [Store.resume, Store.detachGetAttachment, ← h.sessionId, getAttachment_eq h1 h.attachment, h.notDetached]

/-- A detach that fails at or before its mark changes nothing. -/
theorem detach_fails (h : Holds s req row a) (hfail : ¬ ((env 0).ok && (env 1).ok && (env 2).ok)) :
    ∃ e, s.perform (.detach req) env = some (s, .failed e) := by
  rw [perform_detach, maxAwaits]
  by_cases h0 : (env 0).ok
  · rw [finish_await (h.get h0)]
    by_cases h1 : (env 1).ok
    · rw [finish_await (h.getAttachment h1)]
      have h2 : (env 2).ok = false := by simpa [h0, h1] using hfail
      exact ⟨_, finish_fail (by simp [Store.resume, Store.detachMark, Store.markAttachmentDetached, h2]; rfl)⟩
    · exact ⟨_, finish_fail (by simp [Store.resume, Store.detachGetAttachment, Store.getAttachment, h1]; rfl)⟩
  · exact ⟨_, finish_fail (by simp [Store.resume, Store.detachGet, Store.getOwned, h0]; rfl)⟩

/-! The stretches of a detach whose call succeeds, one after the other. -/

section Stretches

variable (st : Store) {env : Env} (fresh : TaskId) (req : DetachRequest) (row : TerminalSession)

theorem detachMark_ok (now : Time) (hok : env.ok) (ha : st.attachmentRows.lookup req.attachmentId = some a) :
    ∃ st', st.resume env fresh (.detachMark req row now) = st'.await (.detachEvent req row) ∧ st.Quiet st' ∧
      st'.attachmentRows.lookup req.attachmentId = some (a.markDetached now req.lastSeenSeq) := by
  simp only [Store.resume, Store.detachMark, Store.markAttachmentDetached, hok, ha]
  exact ⟨_, rfl, .of_sessions rfl rfl rfl, AList.lookup_insert ..⟩

theorem detachEvent_ok (hok : env.ok) :
    ∃ st', st.resume env fresh (.detachEvent req row) = st'.await (.detachReget req row) ∧ st.Quiet st' ∧
      st'.attachmentRows = st.attachmentRows := by
  simp only [Store.resume, Store.detachEvent, createEvent_eq hok]
  exact ⟨_, rfl, .of_sessions rfl rfl rfl, rfl⟩

/-- With nobody else registered, the detach goes on to schedule a close when the session is live. -/
theorem detachReget_ok (hok : env.ok) (hsched : req.schedule) (ha : st.attachmentRows.lookup req.attachmentId = some a)
    (hsid : a.sessionId = req.sessionId)
    (halone : ∀ aid b, st.attachments.lookup aid = some b → b.sessionId = req.sessionId → aid = req.attachmentId) :
    ∃ (st' : Store) (d : DetachSessionOutcome), st'.runtimes = st.runtimes ∧ st'.sessions = st.sessions ∧
      st'.anyAttachment req.sessionId = false ∧ st.resume env fresh (.detachReget req row) =
        if (st.live req.sessionId).isSome then st'.await (.scheduleSetDetached req d)
        else st'.ret (.detached d none) := by
  have hnone : ({ st with attachments := st.attachments.erase req.attachmentId } : Store).anyAttachment
      req.sessionId = false := by
    rw [anyAttachment_false_iff]
    intro aid b hb hbs
    obtain ⟨hne, hb⟩ := Registry.lookup_erase_iff.1 hb
    exact hne (halone aid b hb hbs)
  refine ⟨{ st with attachments := st.attachments.erase req.attachmentId }, ⟨row, a, false⟩, rfl, rfl, hnone, ?_⟩
  simp only [Store.resume, Store.detachReget, ← hsid, getAttachment_eq hok ha]
  rw [Store.detachDecide, hsid, hnone, hsched]
  change (if (true && !false && !false && (st.live req.sessionId).isSome) = true then _ else _) = _
  simp only [Bool.not_false, Bool.and_self, Bool.true_and]

/-- Where the runtime is live with no close pending, the timer is installed and spawned. -/
theorem scheduleSetDetached_ok (detach : DetachSessionOutcome) {live : LiveRuntime}
    (hlive : st.live req.sessionId = some live) (hnone : live.detachClose = none) :
    ∃ (st' : Store) (info : DetachInfo), st.resume env fresh (.scheduleSetDetached req detach) =
        { st'.ret (.detached detach (some info)) with spawned := some (.ttlSleep req.sessionId req.ownerId) } ∧
      st'.pendingClose req.sessionId = some ⟨info, fresh⟩ ∧ st'.attachments = st.attachments ∧
      ∀ sid row, st.sessions.lookup sid = some row →
        ∃ row', st'.sessions.lookup sid = some row' ∧ row'.ownerId = row.ownerId := by
  obtain ⟨st₁, hst₁, h⟩ := scheduleSetDetached_cases st env fresh req detach
  have hq : st.Quiet st₁ := by
    rcases hst₁ with rfl | ⟨row, hrow, rfl⟩
    · exact .of_sessions rfl rfl rfl
    · exact .setStatus hrow ..
  have hlive₁ : st₁.live req.sessionId = some live := (hq.live _).trans hlive
  simp only [Store.resume, h, Store.scheduleInstall, hlive₁, hnone]
  exact ⟨_, _, rfl, by simp [pendingClose_setDetachClose, hlive₁], hq.attachments, hq.owners⟩

end Stretches

/-- What a completed detach leaves of a session: nobody registered, and a live
runtime under a TTL close. -/
structure Unattended (s s' : Sys) (sid : SessionId) : Prop where
  unattached : s'.store.anyAttachment sid = false
  pending : (s'.store.live sid).isSome → s'.TtlPending sid
  timers : ∀ i k o, s'.tasks.lookup i = some (.ttlSleep k o) → s.tasks.lookup i = some (.ttlSleep k o) ∨
    (k = sid ∧ ∃ row, s.store.sessions.lookup sid = some row ∧ row.ownerId = o)
  owners : ∀ k row, s.store.sessions.lookup k = some row →
    ∃ row', s'.store.sessions.lookup k = some row' ∧ row'.ownerId = row.ownerId

/-- A detach whose first five calls succeed takes the attachment out of the
registry and puts a live session under a TTL close. -/
theorem detach_completes (h : Holds s req row a) (hsched : req.schedule)
    (hok : ((env 0).ok && (env 1).ok && (env 2).ok) && ((env 3).ok && (env 4).ok))
    (hnone : s.store.pendingClose req.sessionId = none)
    (halone : ∀ aid b, s.store.attachments.lookup aid = some b → b.sessionId = req.sessionId → aid = req.attachmentId) :
    ∃ s' d p, s.perform (.detach req) env = some (s', .detached d p) ∧ Unattended s s' req.sessionId := by
  simp only [Bool.and_eq_true] at hok
  obtain ⟨⟨⟨h0, h1⟩, h2⟩, h3, h4⟩ := hok
  -- the mark and the event
  obtain ⟨st₁, e2, hq₁, ha₁⟩ := detachMark_ok s.store s.nextTask req row (env 1).now h2 h.attachment
  obtain ⟨st₂, e3, hq₂, ha₂⟩ := detachEvent_ok st₁ s.nextTask req row h3
  have hq := hq₁.trans hq₂
  rw [perform_detach, maxAwaits, finish_await (h.get h0), finish_await (h.getAttachment h1), finish_await e2,
    finish_await e3]
  -- the registry entry goes
  have ha : st₂.attachmentRows.lookup req.attachmentId = some (a.markDetached (env 1).now req.lastSeenSeq) := ha₂ ▸ ha₁
  obtain ⟨st₃, d, hrt, hses, hun, e4⟩ := detachReget_ok st₂ s.nextTask req row h4 hsched ha h.sessionId
    (hq.attachments ▸ halone)
  have hlive₃ : st₃.live req.sessionId = s.store.live req.sessionId := by
    rw [← hq.live]; simp only [Store.live, hrt]
  have howners : ∀ k row, s.store.sessions.lookup k = some row →
      ∃ row', st₃.sessions.lookup k = some row' ∧ row'.ownerId = row.ownerId := hses ▸ hq.owners
  rw [hq.live] at e4
  cases hlive : s.store.live req.sessionId with
  | none =>
    rw [hlive] at e4 hlive₃
    refine ⟨_, d, none, finish_ret e4 rfl, hun, fun hl => ?_, fun i k o ht => .inl ht, howners⟩
    simp [Sys.leave, Store.ret, hlive₃] at hl
  | some live =>
    rw [hlive] at e4 hlive₃
    have hd : live.detachClose = none := by simpa [Store.pendingClose, hlive] using hnone
    obtain ⟨st₄, info, e5, hpend, hatt, howners₄⟩ := scheduleSetDetached_ok st₃ s.nextTask req d hlive₃ hd
    have hun₄ : st₄.anyAttachment req.sessionId = false := by rw [Store.anyAttachment, hatt]; exact hun
    rw [finish_await e4]
    refine ⟨_, d, some info, finish_ret e5 rfl, hun₄, fun _ => ?_, fun i k o ht => ?_, owners_trans howners howners₄⟩
    · exact ⟨⟨info, s.nextTask⟩, req.ownerId, hpend, AList.lookup_insert ..⟩
    · rcases Registry.lookup_insert_iff.1 ht with ⟨-, he⟩ | ⟨-, hold⟩
      · cases he
        exact .inr ⟨rfl, row, h.session, h.owner⟩
      · exact .inl hold

end Detach

/-! ## Attaching -/

section Attach

variable {env : Env} (st : Store) (fresh : TaskId) (req : AttachSessionRequest) (row : TerminalSession)

/-- Behind the gate the timer is cancelled and nothing else changes. -/
theorem attachGet_ok (hok : env.ok) (hrow : st.sessions.lookup req.sessionId = some row)
    (howner : row.ownerId = req.ownerId) (hopen : row.status ≠ .closed) :
    ∃ (st' : Store) (aborted : List TaskId), st.resume env fresh (.attachGet req) =
        { st'.await (.attachCreate req row (st.pendingClose req.sessionId).isSome) with aborted := aborted } ∧
      st'.pendingClose req.sessionId = none ∧ st'.attachments = st.attachments ∧
      st'.attachmentRows = st.attachmentRows ∧ st'.sessions = st.sessions := by
  simp only [Store.resume, Store.attachGet, ← howner, getOwned_eq hok hrow, if_neg hopen]
  cases hp : st.pendingClose req.sessionId with
  | some d => exact ⟨_, _, rfl, by simp [pendingClose_setDetachClose], rfl, rfl, rfl⟩
  | none => exact ⟨st, [], rfl, hp, rfl, rfl, rfl⟩

theorem attachCreate_ok (wasPending : Bool) (hok : env.ok) (hfresh : st.attachmentRows.lookup env.id = none) :
    ∃ (st' : Store) (a : TerminalSessionAttachment) (live : Option PtyId),
      st.resume env fresh (.attachCreate req row wasPending) =
        st'.await (.attachEvent req row wasPending env.id a live) ∧
      st.Quiet st' ∧ st'.sessions = st.sessions ∧
      st'.attachmentRows.lookup env.id = some a ∧ a.sessionId = req.sessionId ∧ a.detachedAt = none := by
  simp only [Store.resume, Store.attachCreate, Store.createAttachment, hok, hfresh]
  exact ⟨_, _, _, rfl, .of_sessions rfl rfl rfl, rfl, AList.lookup_insert .., rfl, rfl⟩

theorem attachEvent_ok (wasPending : Bool) (aid : AttachmentId) (a : TerminalSessionAttachment) (live : Option PtyId)
    (hok : env.ok) :
    ∃ st' : Store, (st.resume env fresh (.attachEvent req row wasPending aid a live) =
        if wasPending then st'.await (.attachSetActive req row aid a live) else st'.attachRegister req row aid a live) ∧
      st.Quiet st' ∧ st'.sessions = st.sessions ∧ st'.attachmentRows = st.attachmentRows := by
  simp only [Store.resume, Store.attachEvent, createEvent_eq hok]
  exact ⟨_, rfl, .of_sessions rfl rfl rfl, rfl, rfl⟩

theorem attachSetActive_ok (aid : AttachmentId) (a : TerminalSessionAttachment) (live : Option PtyId)
    {row' : TerminalSession} (hok : env.ok) (hrow : st.sessions.lookup req.sessionId = some row') :
    ∃ st' : Store, st.resume env fresh (.attachSetActive req row aid a live) =
        st'.await (.attachReattached req row aid a live) ∧
      st.Quiet st' ∧ st'.attachmentRows = st.attachmentRows := by
  simp only [Store.resume, Store.attachSetActive, setStatus_eq hok hrow]
  exact ⟨_, rfl, .setStatus hrow .., rfl⟩

/-- The last event may fail; the attachment is registered all the same. -/
theorem attachReattached_ok (env : Env) (aid : AttachmentId) (a : TerminalSessionAttachment) (live : Option PtyId) :
    ∃ st' : Store, st.resume env fresh (.attachReattached req row aid a live) = st'.attachRegister req row aid a live ∧
      st.Quiet st' ∧ st'.attachmentRows = st.attachmentRows := by
  simp only [Store.resume, Store.attachReattached, Store.createEvent]
  cases env.ok
  · exact ⟨st, rfl, .of_sessions rfl rfl rfl, rfl⟩
  · exact ⟨_, rfl, .of_sessions rfl rfl rfl, rfl⟩

end Attach

section Attaches

variable {env : Nat → Env} {s : Sys} (req : AttachSessionRequest) {row : TerminalSession}

theorem perform_attach : s.perform (.attachSession req) env = finish env maxAwaits 0 (.attachGet req) s := rfl

/-- An attach that does not get past its gate changes nothing. -/
theorem attach_refused (h : ¬ ((env 0).ok ∧ (s.store.sessions.lookup req.sessionId).any
      (fun r => r.ownerId = req.ownerId ∧ r.status ≠ .closed))) :
    ∃ e, s.perform (.attachSession req) env = some (s, .failed e) := by
  have hfail : ∃ e, s.store.resume (env 0) s.nextTask (.attachGet req) = s.store.fail e := by
    simp only [Store.resume, Store.attachGet]
    split
    · exact ⟨_, rfl⟩
    · rename_i session hget
      obtain ⟨hrow, howner⟩ := Store.getOwned_ok hget
      have hok : (env 0).ok := by
        by_contra hno
        rw [Bool.not_eq_true] at hno
        simp [Store.getOwned, hno] at hget
      have hclosed : session.status = .closed := by
        by_contra hopen
        exact h ⟨hok, by simp [hrow, howner, hopen]⟩
      rw [if_pos hclosed]
      exact ⟨_, rfl⟩
  obtain ⟨e, he⟩ := hfail
  exact ⟨e, finish_fail he⟩

/-- What an attach leaves: no close pending, one open attachment more. -/
structure Attached (s s' : Sys) (sid : SessionId) (aid : AttachmentId) (a : TerminalSessionAttachment) : Prop where
  pending : s'.store.pendingClose sid = none
  attachment : s'.store.attachmentRows.lookup aid = some a
  sessionId : a.sessionId = sid
  notDetached : a.detachedAt = none
  registered : ∀ i b, s'.store.attachments.lookup i = some b → i = aid ∨ s.store.attachments.lookup i = some b
  tasks : ∀ i t, s'.tasks.lookup i = some t → s.tasks.lookup i = some t
  owners : ∀ k row, s.store.sessions.lookup k = some row →
    ∃ row', s'.store.sessions.lookup k = some row' ∧ row'.ownerId = row.ownerId

/-- The registration, behind stretches that changed nothing a socket looks at. -/
theorem register_attached {st₁ st : Store} {aborted : List TaskId} {aid : AttachmentId} {a : TerminalSessionAttachment}
    {live : Option PtyId} (hq : st₁.Quiet st) (hpend : st₁.pendingClose req.sessionId = none)
    (hatt : st₁.attachments = s.store.attachments) (hses : st₁.sessions = s.store.sessions)
    (ha : st.attachmentRows.lookup aid = some a) (hsid : a.sessionId = req.sessionId) (hd : a.detachedAt = none) :
    Attached s (Sys.leave ⟨st, abortAll aborted s.tasks, s.nextTask⟩ (st.attachRegister req row aid a live))
      req.sessionId aid a := by
  refine ⟨?_, ha, hsid, hd, fun i b hb => ?_, fun i t ht => ?_, ?_⟩
  · exact (hq.pendingClose _).trans hpend
  · rcases Registry.lookup_insert_iff.1 hb with ⟨rfl, -⟩ | ⟨-, hb⟩
    · exact .inl rfl
    · exact .inr (hatt ▸ hq.attachments ▸ hb)
  · have ht : (abortAll aborted s.tasks).lookup i = some t := (lookup_abortAll.1 ht).2
    exact (lookup_abortAll.1 ht).2
  · exact hses ▸ hq.owners

/-- An attach whose calls behind the gate succeed. -/
theorem attach_completes (h0 : (env 0).ok) (hrow : s.store.sessions.lookup req.sessionId = some row)
    (howner : row.ownerId = req.ownerId) (hopen : row.status ≠ .closed) (h1 : (env 1).ok)
    (hfresh : s.store.attachmentRows.lookup (env 1).id = none) (h2 : (env 2).ok)
    (h3 : (s.store.pendingClose req.sessionId).isSome → (env 3).ok) :
    ∃ s' a m live, s.perform (.attachSession req) env = some (s', .attached row (env 1).id a m live) ∧
      Attached s s' req.sessionId (env 1).id a := by
  obtain ⟨st₁, aborted, e0, hpend, hatt, harows, hses⟩ := attachGet_ok s.store s.nextTask req row h0 hrow howner hopen
  obtain ⟨st₂, a, live, e1, hq₂, hses₂, ha, hsid, hd⟩ :=
    attachCreate_ok st₁ s.nextTask req row (s.store.pendingClose req.sessionId).isSome h1 (harows ▸ hfresh)
  obtain ⟨st₃, e2, hq₃, hses₃, ha₃⟩ := attachEvent_ok st₂ s.nextTask req row
    (s.store.pendingClose req.sessionId).isSome (env 1).id a live h2
  have hs₁ : s.leave { st₁.await (.attachCreate req row (s.store.pendingClose req.sessionId).isSome) with
      aborted := aborted } = ⟨st₁, abortAll aborted s.tasks, s.nextTask⟩ := rfl
  rw [perform_attach, maxAwaits, finish_next e0 rfl, hs₁, finish_await e1]
  cases hp : (s.store.pendingClose req.sessionId).isSome with
  | false =>
    rw [hp] at e2
    refine ⟨_, a, _, live, finish_ret e2 rfl, register_attached req (hq₂.trans hq₃) hpend hatt hses (ha₃ ▸ ha) hsid hd⟩
  | true =>
    -- a reattach: the row goes back to `active` before the registration
    rw [hp] at e2
    have hrow₃ : st₃.sessions.lookup req.sessionId = some row := by rw [hses₃, hses₂, hses]; exact hrow
    obtain ⟨st₄, e3, hq₄, ha₄⟩ := attachSetActive_ok st₃ s.nextTask req row (env 1).id a live (h3 hp) hrow₃
    obtain ⟨st₅, e4, hq₅, ha₅⟩ := attachReattached_ok st₄ s.nextTask req row (env 4) (env 1).id a live
    rw [finish_await e2, finish_await e3]
    refine ⟨_, a, _, live, finish_ret e4 rfl, ?_⟩
    have ha₅ : st₅.attachmentRows.lookup (env 1).id = some a := by rw [ha₅, ha₄, ha₃]; exact ha
    exact register_attached req (((hq₂.trans hq₃).trans hq₄).trans hq₅) hpend hatt hses ha₅ hsid hd

end Attaches

/-! ## Expiring -/

section Expire

/-- The calls of the TTL task's close succeed, up to the removal of the runtime. -/
def ExpiryOk (s : Sys) (sid : SessionId) (env : Nat → Env) : Prop :=
  (env 1).ok ∧ (¬ s.rowClosed sid → (env 2).ok ∧ (env 3).ok ∧ (env 4).ok)

variable {env : Nat → Env} {s : Sys} {sid : SessionId}

/-- What a shutdown leaves of the registries: no more than there was. -/
structure Shrinks (s s' : Sys) : Prop where
  runtimes : s'.store.runtimes = s.store.runtimes
  sessions : s'.store.sessions = s.store.sessions
  attachments : ∀ i b, s'.store.attachments.lookup i = some b → s.store.attachments.lookup i = some b
  tasks : ∀ i t, s'.tasks.lookup i = some t → s.tasks.lookup i = some t

theorem closeDone_shrinks (st : Store) (s : Sys) (sid : SessionId) (session : TerminalSession) (already : Bool)
    {o : Out} (ho : o.store = (st.closeDone sid session already).store) (hsp : o.spawned = none) :
    Shrinks { s with store := st } (s.leave o) := by
  have htasks : ∀ i t, (s.leave o).tasks.lookup i = some t → s.tasks.lookup i = some t := by
    intro i t ht
    simp only [Sys.leave, hsp] at ht
    exact (lookup_abortAll.1 ht).2
  cases already with
  | true =>
    have ho : (s.leave o).store = st := ho
    exact ⟨by rw [ho], by rw [ho], fun i b h => by rwa [ho] at h, htasks⟩
  | false =>
    have ho : (s.leave o).store = st.dropAttachments sid := ho
    refine ⟨by rw [ho]; rfl, by rw [ho]; rfl, fun i b h => ?_, htasks⟩
    rw [ho] at h
    exact (Registry.lookup_retain_iff.1 h).1

theorem closeDone_ret (st : Store) (sid : SessionId) (session : TerminalSession) (already : Bool) :
    (st.closeDone sid session already).next = .ret (.closed session already) ∧
    (st.closeDone sid session already).spawned = none := by
  cases already <;> exact ⟨rfl, rfl⟩

theorem shutdown_finishes (env : Nat → Env) (s : Sys) (sid : SessionId) (live : LiveRuntime)
    (session : TerminalSession) (already : Bool) (fuel i : Nat) :
    ∃ s' r, finish env (fuel + 3) i (.shutdownHandle sid live session already) s = some (s', r) ∧ Shrinks s s' := by
  have last (live : LiveRuntime) (fuel i : Nat) :
      ∃ s' r, finish env (fuel + 1) i (.shutdownRecording sid live session already) s = some (s', r) ∧
        Shrinks s s' := by
    obtain ⟨hr, hsp⟩ := closeDone_ret s.store sid session already
    exact ⟨_, _, finish_ret rfl hr, closeDone_shrinks s.store s sid session already rfl hsp⟩
  cases hf : live.forwarder with
  | none =>
    have e : s.store.resume (env i) s.nextTask (.shutdownHandle sid live session already) =
        s.store.await (.shutdownRecording sid live session already) := by simp [Store.resume, Store.shutdownHandle, hf]
    rw [finish_await e]
    exact last live (fuel + 1) (i + 1)
  | some f =>
    have e : s.store.resume (env i) s.nextTask (.shutdownHandle sid live session already) =
        s.store.await (.shutdownForwarder sid { live with forwarder := none } session already) := by
      simp [Store.resume, Store.shutdownHandle, hf]
    have e' : s.store.resume (env (i + 1)) s.nextTask
        (.shutdownForwarder sid { live with forwarder := none } session already) =
        s.store.await (.shutdownRecording sid { live with forwarder := none } session already) := rfl
    rw [finish_await e, finish_await e']
    exact last _ fuel (i + 1 + 1)

/-- What a close leaves: no live runtime, and of the rest no more than there was. -/
structure Removed (s s' : Sys) (sid : SessionId) : Prop where
  live : s'.store.live sid = none
  attachments : ∀ i b, s'.store.attachments.lookup i = some b → s.store.attachments.lookup i = some b
  tasks : ∀ i t, s'.tasks.lookup i = some t → s.tasks.lookup i = some t
  owners : ∀ k row, s.store.sessions.lookup k = some row →
    ∃ row', s'.store.sessions.lookup k = some row' ∧ row'.ownerId = row.ownerId

theorem Shrinks.removed {s₁ s' : Sys} (h : Shrinks s₁ s')
    (hq : s.store.Quiet { s₁.store with runtimes := s.store.runtimes })
    (hrt : s₁.store.runtimes = s.store.runtimes.erase sid) (htasks : s₁.tasks = s.tasks) : Removed s s' sid := by
  refine ⟨?_, fun i b hb => ?_, fun i t ht => htasks ▸ h.tasks i t ht, ?_⟩
  · simp [Store.live, h.runtimes, hrt]
  · exact hq.attachments ▸ h.attachments i b hb
  · exact h.sessions ▸ hq.owners

/-- A close that reaches the removal of the runtime finishes. -/
theorem closeRemove_finishes {st : Store} {t : Task} {session : TerminalSession} {already : Bool} (fuel : Nat)
    {i : Nat} (hq : s.store.Quiet st) (h : st.resume (env i) s.nextTask t = st.closeRemove sid session already) :
    ∃ s' r, finish env (fuel + 4) i t { s with store := st } = some (s', r) ∧ Removed s s' sid := by
  have hq' : s.store.Quiet { st with runtimes := s.store.runtimes } := ⟨rfl, hq.attachments, hq.owners⟩
  have hrt : st.runtimes.erase sid = s.store.runtimes.erase sid := by rw [hq.runtimes]
  simp only [Store.closeRemove] at h
  cases hlive : st.live sid with
  | some live =>
    simp only [hlive] at h
    obtain ⟨s', r, hf, hsh⟩ := shutdown_finishes env { s with store := { st with runtimes := st.runtimes.erase sid } }
      sid live session already fuel (i + 1)
    exact ⟨s', r, (finish_await h).trans hf, hsh.removed hq' hrt rfl⟩
  | none =>
    simp only [hlive] at h
    obtain ⟨hr, hsp⟩ := closeDone_ret { st with runtimes := st.runtimes.erase sid } sid session already
    refine ⟨_, _, finish_ret h hr, ?_⟩
    have hsh := closeDone_shrinks { st with runtimes := st.runtimes.erase sid } { s with store := st } sid session
      already rfl hsp
    exact hsh.removed hq' hrt rfl

theorem closeSetClosed_ok (st : Store) {env : Env} (fresh : TaskId) (origin : CloseOrigin) (row : TerminalSession)
    (now : Time) (hok : env.ok) (hrow : st.sessions.lookup sid = some row) :
    ∃ st' : Store, st.resume env fresh (.closeSetClosed origin sid row.ownerId row now) =
      st'.await (.closeEvent origin sid row.ownerId) ∧ st.Quiet st' := by
  simp only [Store.resume, Store.closeSetClosed, setStatus_eq hok hrow]
  exact ⟨_, rfl, .setStatus hrow ..⟩

theorem closeEvent_ok (st : Store) {env : Env} (fresh : TaskId) (origin : CloseOrigin) (sid : SessionId)
    (owner : UserId) (hok : env.ok) :
    ∃ st' : Store, st.resume env fresh (.closeEvent origin sid owner) = st'.await (.closeReget origin sid owner) ∧
      st.Quiet st' := by
  simp only [Store.resume, Store.closeEvent, createEvent_eq hok]
  exact ⟨_, rfl, .of_sessions rfl rfl rfl⟩

/-- A TTL task whose close does not fail takes the runtime away; one that finds
no close pending does nothing. -/
theorem expire_finishes {row : TerminalSession} (hrow : s.store.sessions.lookup sid = some row)
    (hok : ExpiryOk s sid env) :
    ∃ s' r, finish env maxAwaits 0 (.ttlSleep sid row.ownerId) s = some (s', r) ∧
      ((s.store.pendingClose sid = none ∧ s' = s) ∨ Removed s s' sid) := by
  cases hp : s.store.pendingClose sid with
  | none =>
    have e0 : s.store.resume (env 0) s.nextTask (.ttlSleep sid row.ownerId) = s.store.ret .finished := by
      simp [Store.resume, Store.expireDetachClose, hp]
    exact ⟨_, _, finish_ret e0 rfl, .inl ⟨rfl, rfl⟩⟩
  | some d =>
    have e0 : s.store.resume (env 0) s.nextTask (.ttlSleep sid row.ownerId) =
        s.store.await (.closeGet .ttl sid row.ownerId) := by
      simp [Store.resume, Store.expireDetachClose, hp]
    rw [maxAwaits, finish_await e0]
    by_cases hclosed : row.status = .closed
    · -- the forwarder closed the row already
      have e1 : s.store.resume (env 1) s.nextTask (.closeGet .ttl sid row.ownerId) =
          s.store.closeRemove sid row true := by
        simp [Store.resume, Store.closeGet, getOwned_eq hok.1 hrow, hclosed]
      obtain ⟨s', r, hf, hrem⟩ := closeRemove_finishes 5 (.of_sessions rfl rfl rfl) e1
      exact ⟨s', r, hf, .inr hrem⟩
    · obtain ⟨h2, h3, h4⟩ := hok.2 (by simp [Sys.rowClosed, hrow, hclosed])
      have e1 : s.store.resume (env 1) s.nextTask (.closeGet .ttl sid row.ownerId) =
          s.store.await (.closeSetClosed .ttl sid row.ownerId row (env 1).now) := by
        simp [Store.resume, Store.closeGet, getOwned_eq hok.1 hrow, hclosed]
      obtain ⟨st₂, e2, hq₂⟩ := closeSetClosed_ok s.store s.nextTask .ttl row (env 1).now h2 hrow
      obtain ⟨st₃, e3, hq₃⟩ := closeEvent_ok st₂ s.nextTask .ttl sid row.ownerId h3
      have hq := hq₂.trans hq₃
      obtain ⟨row₃, hrow₃, ho₃⟩ := hq.owners sid row hrow
      have e4 : st₃.resume (env 4) s.nextTask (.closeReget .ttl sid row.ownerId) = st₃.closeRemove sid row₃ false := by
        simp only [Store.resume, Store.closeReget, ← ho₃, getOwned_eq h4 hrow₃]
      rw [finish_await e1, finish_await e2, finish_await e3]
      obtain ⟨s', r, hf, hrem⟩ := closeRemove_finishes 2 hq e4
      exact ⟨s', r, hf, .inr hrem⟩

end Expire

end RelayTerm.Session
