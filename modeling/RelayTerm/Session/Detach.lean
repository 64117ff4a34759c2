import RelayTerm.Session.Closed
/-!
# The detach timer

`attach_session` cancels a pending TTL close at its start and registers the
attachment at its end; `detach_attachment` decides that nobody is left and
installs the timer one await point later. A timer that is installed while
nobody is registered and nobody is between those two points of an attach is
always cancelled by the next attach, so it never fires on an attached session.
-/
open RelayTerm.Lib

namespace RelayTerm.Session

variable {st : Store} {env : Env} {s s' : Sys} {sid : SessionId}

/-! ## Attaching, detaching, expiring -/

/-- The session an attach is for, between its cancellation of the timer and its
registration. -/
def Task.pastCancel : Task → Option SessionId
  | .attachCreate req _ _ | .attachEvent req _ _ _ _ _ | .attachSetActive req _ _ _ _
  | .attachReattached req _ _ _ _ => some req.sessionId
  | _ => none

/-- The session a TTL task is closing, until it has taken the runtime out of the registry. -/
def Task.ttlClosing : Task → Option SessionId
  | .closeGet .ttl sid _ | .closeSetClosed .ttl sid _ _ _ | .closeEvent .ttl sid _ | .closeReget .ttl sid _ => some sid
  | _ => none

/-- The session a TTL task sleeps for or is closing. -/
def Task.ttlOf : Task → Option SessionId
  | .ttlSleep sid _ => some sid
  | t => t.ttlClosing

/-- The session a call of `attach_session` or `detach_attachment` is for. -/
def Task.attachOrDetachOf : Task → Option SessionId
  | .attachGet req => some req.sessionId
  | .detachGet req | .detachGetAttachment req _ | .detachMark req _ _ | .detachEvent req _ | .detachReget req _
  | .scheduleSetDetached req _ => some req.sessionId
  | t => t.pastCancel

/-- Tasks of PTY forwarders. -/
def Task.isForwarder : Task → Bool
  | .pump .. | .teardownGet .. | .teardownSetClosed .. | .teardownEvent .. => true
  | _ => false

/-- The steps of the runs below: an attach, a detach, or any task going on. -/
def Event.attachOrDetach : Event → Bool
  | .call (.attachSession _) | .call (.detach _) | .resume _ _ => true
  | .call _ => false

/-- The tasks such runs are made of. -/
def Task.attachDetachTtl : Task → Bool
  | .shutdownHandle .. | .shutdownForwarder .. | .shutdownRecording .. => true
  | t => t.isForwarder || t.ttlOf.isSome || t.attachOrDetachOf.isSome

/-- The session a detach is about to install a timer for. -/
def Task.schedules : Task → Option SessionId
  | .scheduleSetDetached req _ => some req.sessionId
  | _ => none

/-- A detach installs its timer only while no attachment of the session is
registered and no attach is between its cancellation and its registration. -/
def InstallsUnattached (s : Sys) : Event → Prop
  | .call _ => True
  | .resume tid _ => ∀ sid ∈ (s.tasks.lookup tid).bind Task.schedules,
      (s.store.live sid).any (·.detachClose.isNone) →
        s.store.anyAttachment sid = false ∧ s.tasks.any (·.pastCancel = some sid) = false

instance (s : Sys) : (e : Event) → Decidable (InstallsUnattached s e)
  | .call _ => isTrue trivial
  | .resume _ _ => inferInstanceAs (Decidable (∀ sid ∈ _, _))

/-! ## What a stretch does to the timer and to the attachments -/

theorem pendingClose_setDetachClose (st : Store) (k sid : SessionId) (d : Option DetachClose) :
    (st.setDetachClose k d).pendingClose sid =
      if sid = k then (st.live k).bind fun _ => d else st.pendingClose sid := by
  simp only [Store.pendingClose, Store.live, Store.setDetachClose, Registry.lookup_modify]
  split
  · cases st.runtimes.lookup k with
    | none => rfl
    | some e => cases h : e.live <;> simp [h]
  · rfl

theorem scheduleInstall_pendingClose (st : Store) (env : Env) (sid : SessionId) (fresh : TaskId) (req : DetachRequest)
    (detach : DetachSessionOutcome) :
    (st.scheduleInstall env fresh req detach).store.pendingClose sid = st.pendingClose sid ∨
    (req.sessionId = sid ∧ (st.live sid).any (·.detachClose.isNone) ∧
      ∃ info, (st.scheduleInstall env fresh req detach).store.pendingClose sid = some ⟨info, fresh⟩) := by
  rcases scheduleInstall_cases st env fresh req detach with ⟨_, h⟩ | ⟨live, info, hlive, hnone, h⟩
  · rw [h]; exact .inl rfl
  · by_cases hsid : sid = req.sessionId
    · subst hsid
      refine .inr ⟨rfl, by simp [hlive, hnone], info, ?_⟩
      rw [h]
      simp [Store.ret, pendingClose_setDetachClose, hlive]
    · left
      rw [h]
      simp [Store.ret, pendingClose_setDetachClose, hsid]

/-- The session whose pending close a task's next stretch may take away, by
cancelling it or by replacing or removing the whole registry entry. -/
def Task.takesClose : Task → Option SessionId
  | .attachGet req => some req.sessionId
  | .createEvent sid _ | .startReget _ sid _ _ | .failedEvent sid _ => some sid
  | .closeGet _ sid _ | .closeReget _ sid _ => some sid
  | _ => none

/-- A resize changes what the registry shows, not what is live. -/
theorem live_setDims (st : Store) (k : SessionId) (cols rows : Nat) : (st.setDims k cols rows).live = st.live := by
  funext sid
  simp only [Store.live, Store.setDims, Registry.lookup_modify]
  split
  · next hk => subst hk; cases st.runtimes.lookup sid <;> rfl
  · rfl

theorem resume_live (st : Store) (env : Env) (fresh : TaskId) {t : Task} (ht : t.takesClose = none)
    (hs : t.schedules = none) : (st.resume env fresh t).store.live = st.live := by
  cases t
  case resizeGet owner sid cols rows =>
    simp only [Store.resume, Store.resizeGet]
    split
    · rfl
    · split
      · rfl
      · exact live_setDims st sid cols rows
  -- the stretches left over write no registry entry, or are excluded
  all_goals
    simp only [Task.takesClose, Task.schedules, reduceCtorEq] at ht hs <;>
    (unfold Store.live; grind [Store.dropAttachments])

/-- A stretch that takes a session's pending close leaves the other sessions' entries alone. -/
theorem resume_runtimes_ne (fresh : TaskId) {t : Task} {k : SessionId} (ht : t.takesClose = some k) (hne : sid ≠ k) :
    (st.resume env fresh t).store.runtimes.lookup sid = st.runtimes.lookup sid := by
  cases t <;> cases ht <;>
    grind [Store.dropAttachments, Store.setDetachClose, Registry.lookup_modify, AList.lookup_insert_ne,
      AList.lookup_erase_ne]

theorem pendingClose_erase (h : st.runtimes.lookup sid = none) : st.pendingClose sid = none := by
  simp [Store.pendingClose, Store.live, h]

theorem closeRemove_pendingClose (session : TerminalSession) (already : Bool) :
    (st.closeRemove sid session already).store.pendingClose sid = none := by
  have h : (st.closeRemove sid session already).store.runtimes = st.runtimes.erase sid := by
    grind [Store.dropAttachments]
  exact pendingClose_erase (h ▸ AList.lookup_erase ..)

theorem resume_takesClose (fresh : TaskId) {t : Task} (ht : t.takesClose = some sid) :
    (st.resume env fresh t).store.pendingClose sid = st.pendingClose sid ∨
    (st.resume env fresh t).store.pendingClose sid = none := by
  cases t <;> cases ht
  case createEvent session =>
    simp only [Store.resume, Store.createEventInsert]
    split
    · exact .inl rfl
    · exact .inr (by simp [Store.ret, Store.pendingClose, Store.live])
  case startReget owner pty forwarder =>
    simp only [Store.resume, Store.startReget]
    split
    · exact .inl rfl
    · split
      · exact .inr (by simp [Store.ret, Store.pendingClose, Store.live])
      · exact .inl rfl
  case failedEvent category =>
    simp only [Store.resume, Store.failedEvent]
    exact .inr (pendingClose_erase (AList.lookup_erase ..))
  case closeGet origin owner =>
    simp only [Store.resume, Store.closeGet]
    split
    · exact .inl rfl
    · split
      · exact .inr (closeRemove_pendingClose ..)
      · exact .inl rfl
  case closeReget origin owner =>
    simp only [Store.resume, Store.closeReget]
    split
    · exact .inl rfl
    · exact .inr (closeRemove_pendingClose ..)
  case attachGet req =>
    simp only [Store.resume, Store.attachGet]
    split
    · exact .inl rfl
    · split
      · exact .inl rfl
      · split
        · exact .inr (by simp [Store.await, pendingClose_setDetachClose])
        · exact .inl rfl

/-- A stretch leaves the pending close of a session, takes it away, or installs one where there was none. -/
theorem resume_pendingClose (env : Env) (sid : SessionId) (fresh : TaskId) (t : Task) :
    (st.resume env fresh t).store.pendingClose sid = st.pendingClose sid ∨
    (t.takesClose = some sid ∧ (st.resume env fresh t).store.pendingClose sid = none) ∨
    (t.schedules = some sid ∧ (st.live sid).any (·.detachClose.isNone) ∧
      ∃ info, (st.resume env fresh t).store.pendingClose sid = some ⟨info, fresh⟩) := by
  cases hs : t.schedules with
  | some k =>
    cases t <;> cases hs
    rename_i req detach
    obtain ⟨st', hst', h⟩ := scheduleSetDetached_cases st env fresh req detach
    have hlive : st'.live = st.live := by rcases hst' with rfl | ⟨row, -, rfl⟩ <;> rfl
    have hpend : st'.pendingClose sid = st.pendingClose sid := by simp only [Store.pendingClose, hlive]
    simp only [Store.resume, h]
    rcases scheduleInstall_pendingClose st' env sid fresh req detach with he | ⟨rfl, hl, info, he⟩
    · exact .inl (he.trans hpend)
    · exact .inr (.inr ⟨rfl, hlive ▸ hl, info, he⟩)
  | none =>
    have frame {st' : Store} (h : st'.runtimes.lookup sid = st.runtimes.lookup sid) :
        st'.pendingClose sid = st.pendingClose sid := by simp only [Store.pendingClose, Store.live, h]
    cases ht : t.takesClose with
    | none => exact .inl (by simp only [Store.pendingClose, resume_live st env fresh ht hs])
    | some k =>
      by_cases hk : sid = k
      · subst hk
        exact (resume_takesClose fresh ht).imp_right fun h => .inl ⟨rfl, h⟩
      · exact .inl (frame (resume_runtimes_ne fresh ht hk))

theorem closeRemove_attachments {session : TerminalSession} {already : Bool} {aid : AttachmentId}
    {a : AttachmentRuntime} (h : (st.closeRemove sid session already).store.attachments.lookup aid = some a) :
    st.attachments.lookup aid = some a := by
  unfold Store.closeRemove at h
  split at h
  · exact h
  · unfold Store.closeDone at h
    split at h
    · exact h
    · exact (Registry.lookup_retain_iff.1 h).1

/-- An attachment that is registered after a stretch was registered before, or
is the one of an attach past its cancellation. -/
theorem resume_attachments (fresh : TaskId) {t : Task} {aid : AttachmentId} {a : AttachmentRuntime}
    (h : (st.resume env fresh t).store.attachments.lookup aid = some a) :
    st.attachments.lookup aid = some a ∨ t.pastCancel = some a.sessionId := by
  cases t
  case scheduleSetDetached req detach =>
    obtain ⟨st', hst', hs⟩ := scheduleSetDetached_cases st env fresh req detach
    have hatt : st'.attachments = st.attachments := by rcases hst' with rfl | ⟨row, -, rfl⟩ <;> rfl
    simp only [Store.resume, hs] at h
    rcases scheduleInstall_cases st' env fresh req detach with ⟨_, hi⟩ | ⟨_, _, _, _, hi⟩ <;> rw [hi] at h <;>
      exact .inl (hatt ▸ h)
  case closeGet origin k owner =>
    simp only [Store.resume, Store.closeGet] at h
    split at h
    · exact .inl h
    · split at h
      · exact .inl (closeRemove_attachments h)
      · exact .inl h
  case closeReget origin k owner =>
    simp only [Store.resume, Store.closeReget] at h
    split at h
    · exact .inl h
    · exact .inl (closeRemove_attachments h)
  case attachEvent | attachReattached => grind [Registry.lookup_insert_iff, Task.pastCancel]
  case detachGetAttachment | detachReget => grind [Registry.lookup_erase_iff]
  case failedEvent | shutdownHandle | shutdownForwarder | shutdownRecording =>
    grind [Store.dropAttachments, Registry.lookup_retain_iff]
  -- the stretches left over write no attachment
  all_goals grind [Store.setDetachClose, Store.setDims]

/-! ## Control flow of attaches and timers -/

theorem closeGet_gate {origin : CloseOrigin} {k owner : UserId} {session : TerminalSession} {now : Time}
    (h : (st.closeGet env origin sid owner).next = .await (.closeSetClosed origin k owner session now)) :
    (st.closeGet env origin sid owner).store = st := by
  unfold Store.closeGet at h ⊢
  split
  · rfl
  · split
    · simp only [*, if_true] at h
      unfold Store.closeRemove Store.closeDone at h
      split at h
      · cases h
      · cases h
    · rfl

/-- A TTL task that goes on for a session did so before, and leaves what is live alone. -/
theorem resume_ttlOf (fresh : TaskId) {t t' : Task} (h : (st.resume env fresh t).next = .await t')
    (ht : t'.ttlOf = some sid) : t.ttlOf = some sid ∧ (st.resume env fresh t).store.live = st.live := by
  have he := resume_edge fresh h
  cases he <;> simp only [Task.ttlOf, Task.ttlClosing, reduceCtorEq] at ht
  case closeGate origin k owner session hrow hst _ =>
    cases origin <;> cases ht
    exact ⟨rfl, congrArg Store.live (closeGet_gate h)⟩
  case closeClosed origin k owner session now =>
    cases origin <;> cases ht
    exact ⟨rfl, resume_live st env fresh rfl rfl⟩
  case closeLogged origin k owner =>
    cases origin <;> cases ht
    exact ⟨rfl, resume_live st env fresh rfl rfl⟩
  case expired =>
    cases ht
    exact ⟨rfl, resume_live st env fresh rfl rfl⟩

/-- An attach that goes on has cancelled the close that was pending. -/
theorem attachGet_cancels (fresh : TaskId) {req : AttachSessionRequest} {t' : Task}
    (h : (st.resume env fresh (.attachGet req)).next = .await t') :
    (st.resume env fresh (.attachGet req)).store.pendingClose req.sessionId = none := by
  simp only [Store.resume, Store.attachGet] at h ⊢
  split at h
  · cases h
  · split at h
    · cases h
    · split at h
      · simp [*, Store.await, pendingClose_setDetachClose]
      · simp [*, Store.await]

/-- The timer an attach cancels is aborted. -/
theorem attachGet_aborts (env : Env) (fresh : TaskId) (req : AttachSessionRequest) {d : DetachClose}
    (hd : st.pendingClose req.sessionId = some d) :
    (st.resume env fresh (.attachGet req)).store.pendingClose req.sessionId = some d ∨
    d.handle ∈ (st.resume env fresh (.attachGet req)).aborted := by
  simp only [Store.resume, Store.attachGet]
  split
  · exact .inl hd
  · split
    · exact .inl hd
    · simp [hd]

/-- An attach past its cancellation came there from its entry, or was there before. -/
theorem resume_pastCancel (fresh : TaskId) {t t' : Task} (h : (st.resume env fresh t).next = .await t')
    (ht : t'.pastCancel = some sid) :
    t.pastCancel = some sid ∨ (st.resume env fresh t).store.pendingClose sid = none := by
  cases resume_edge fresh h <;> simp only [Task.pastCancel, reduceCtorEq] at ht
  case attachGate => cases ht; exact .inr (attachGet_cancels fresh h)
  all_goals exact .inl ht

theorem resume_kind (fresh : TaskId) {t t' : Task} (h : (st.resume env fresh t).next = .await t')
    (ht : t.attachDetachTtl) : t'.attachDetachTtl := by
  cases resume_edge fresh h
  case closeGate origin _ _ _ _ _ _ => cases origin <;> first | rfl | cases ht
  case closeClosed origin _ _ _ _ => cases origin <;> first | rfl | cases ht
  case closeLogged origin _ _ => cases origin <;> first | rfl | cases ht
  all_goals first | rfl | cases ht

/-! ## The invariant -/

theorem anyAttachment_false_iff :
    st.anyAttachment sid = false ↔ ∀ aid a, st.attachments.lookup aid = some a → a.sessionId ≠ sid := by
  rw [← Bool.not_eq_true, Store.anyAttachment, Registry.any_iff]
  simp

theorem noPastCancel_iff {tasks : Registry TaskId Task} :
    tasks.any (·.pastCancel = some sid) = false ↔ ∀ i t, tasks.lookup i = some t → t.pastCancel ≠ some sid := by
  rw [← Bool.not_eq_true, Registry.any_iff]
  simp

structure TimerInv (sid : SessionId) (s : Sys) : Prop where
  kinds : ∀ i t, s.tasks.lookup i = some t → t.attachDetachTtl
  /-- While a close is pending nobody is registered or about to register. -/
  quiet : (s.store.pendingClose sid).isSome → s.store.anyAttachment sid = false ∧
    s.tasks.any (·.pastCancel = some sid) = false
  /-- A TTL task of the session is the one the pending close holds the handle of. -/
  owned : ∀ i t, s.tasks.lookup i = some t → t.ttlOf = some sid → ∃ d, s.store.pendingClose sid = some d ∧ d.handle = i

/-- Before any attach or detach: only forwarders run and no close is pending. -/
def Sys.Idle (s : Sys) (sid : SessionId) : Prop :=
  (∀ i t, s.tasks.lookup i = some t → t.isForwarder) ∧ s.store.pendingClose sid = none

theorem Sys.Idle.timerInv (h : s.Idle sid) : TimerInv sid s := by
  refine ⟨fun i t ht => ?_, fun hp => ?_, fun i t ht hsid => ?_⟩
  · have hf := h.1 i t ht
    cases t <;> first | rfl | cases hf
  · rw [h.2] at hp; cases hp
  · have hf := h.1 i t ht
    cases t <;> cases hf <;> cases hsid

theorem call_timerInv {c : Call} (hi : TimerInv sid s) (hc : (Event.call c).attachOrDetach)
    (h : s.step (.call c) = some s') : TimerInv sid s' := by
  cases h
  have hstore : (s.store.enter c).store = s.store := by cases c <;> first | rfl | cases hc
  have htask : ∀ {i t}, (s.settle s.nextTask (s.nextTask + 1) (s.store.enter c)).tasks.lookup i = some t →
      s.tasks.lookup i = some t ∨ (t.attachDetachTtl ∧ t.pastCancel = none ∧ t.ttlOf = none) := by
    intro i t ht
    rcases entered_task ht with ⟨-, hnext⟩ | ⟨-, hold⟩
    · cases c <;> cases hc <;> cases hnext <;> exact .inr ⟨rfl, rfl, rfl⟩
    · exact .inl hold
  refine ⟨fun i t ht => (htask ht).elim (hi.kinds i t) (·.1), fun hp => ?_, fun i t ht hsid => ?_⟩
  · simp only [Sys.settle, hstore] at hp ⊢
    refine ⟨(hi.quiet hp).1, noPastCancel_iff.2 fun i t ht => ?_⟩
    rcases htask ht with hold | ⟨-, hnone, -⟩
    · exact noPastCancel_iff.1 (hi.quiet hp).2 i t hold
    · simp [hnone]
  · simp only [Sys.settle, hstore]
    rcases htask ht with hold | ⟨-, -, hnone⟩
    · exact hi.owned i t hold hsid
    · rw [hnone] at hsid; cases hsid

section Resume

variable {tid : TaskId} {t : Task}

/-- Where a close is pending after a resumption, nobody was registered or about to be before it. -/
theorem resumed_quiet (hi : TimerInv sid s) (ht : s.tasks.lookup tid = some t)
    (hok : InstallsUnattached s (.resume tid env))
    (hp : ((s.store.resume env s.nextTask t).store.pendingClose sid).isSome) :
    s.store.anyAttachment sid = false ∧ s.tasks.any (·.pastCancel = some sid) = false := by
  rcases resume_pendingClose env sid s.nextTask t with he | ⟨-, he⟩ | ⟨hs, hl, info, he⟩
  · exact hi.quiet (he ▸ hp)
  · rw [he] at hp; cases hp
  · exact hok sid (by simp [ht, hs]) hl

theorem pendingClose_installable (hl : (st.live sid).any (·.detachClose.isNone)) : st.pendingClose sid = none := by
  unfold Store.pendingClose
  cases hlive : st.live sid with
  | none => rfl
  | some live => simpa [hlive] using hl

/-- A spawned TTL task is installed on the runtime of its session. -/
theorem spawned_owned {fresh : TaskId} {u : Task} (h : (st.resume env fresh t).spawned = some u)
    (hu : u.ttlOf = some sid) :
    ∃ d, (st.resume env fresh t).store.pendingClose sid = some d ∧ d.handle = fresh := by
  rcases resume_spawned _ h with ⟨_, _, _, _, rfl⟩ | ⟨req, detach, rfl, rfl⟩ <;> cases hu
  obtain ⟨st', -, hs⟩ := scheduleSetDetached_cases st env fresh req detach
  simp only [Store.resume, hs] at h ⊢
  rcases scheduleInstall_cases st' env fresh req detach with ⟨_, hi⟩ | ⟨live, info, hlive, -, hi⟩ <;> rw [hi] at h ⊢
  · cases h
  · exact ⟨⟨info, fresh⟩, by simp [Store.ret, pendingClose_setDetachClose, hlive], rfl⟩

/-- In these runs a pending close is taken away by an attach, or by the TTL task itself. -/
theorem takesClose_cases (hk : t.attachDetachTtl) (ht : t.takesClose = some sid) :
    (∃ req, t = .attachGet req ∧ req.sessionId = sid) ∨ t.ttlOf = some sid := by
  cases t <;> cases ht
  case attachGet req => exact .inl ⟨req, rfl, rfl⟩
  case closeGet origin _ | closeReget origin _ => cases origin <;> first | exact .inr rfl | cases hk
  all_goals cases hk

theorem resume_timerInv (hi : TimerInv sid s) (hok : InstallsUnattached s (.resume tid env))
    (h : s.step (.resume tid env) = some s') : TimerInv sid s' := by
  obtain ⟨t, ht, rfl⟩ := step_resume h
  refine ⟨fun i u hu => ?_, fun hp => ?_, fun i u hu hsid => ?_⟩
  · obtain ⟨-, ⟨-, hsp⟩ | ⟨-, hnext⟩ | ⟨-, hold⟩⟩ := settle_task hu
    · rcases resume_spawned _ hsp with ⟨_, _, _, _, rfl⟩ | ⟨_, _, _, rfl⟩ <;> rfl
    · exact resume_kind _ hnext (hi.kinds tid t ht)
    · exact hi.kinds i u hold
  · obtain ⟨hatt, hpast⟩ := resumed_quiet hi ht hok hp
    have htpast : t.pastCancel ≠ some sid := noPastCancel_iff.1 hpast tid t ht
    refine ⟨anyAttachment_false_iff.2 fun aid a ha => ?_, noPastCancel_iff.2 fun i u hu => ?_⟩
    · rcases resume_attachments _ ha with hold | hreg
      · exact anyAttachment_false_iff.1 hatt aid a hold
      · rintro rfl; exact htpast hreg
    · obtain ⟨-, ⟨-, hsp⟩ | ⟨-, hnext⟩ | ⟨-, hold⟩⟩ := settle_task hu
      · rcases resume_spawned _ hsp with ⟨_, _, _, _, rfl⟩ | ⟨_, _, _, rfl⟩ <;> simp [Task.pastCancel]
      · intro hsid
        rcases resume_pastCancel _ hnext hsid with hold | hnone
        · exact htpast hold
        · change ((s.store.resume env s.nextTask t).store.pendingClose sid).isSome at hp
          rw [hnone] at hp; cases hp
      · exact noPastCancel_iff.1 hpast i u hold
  · change ∃ d, (s.store.resume env s.nextTask t).store.pendingClose sid = some d ∧ d.handle = i
    obtain ⟨hab, ⟨rfl, hsp⟩ | ⟨rfl, hnext⟩ | ⟨hne, hold⟩⟩ := settle_task hu
    · exact spawned_owned hsp hsid
    · obtain ⟨hsid', hrt⟩ := resume_ttlOf _ hnext hsid
      obtain ⟨d, hd, hh⟩ := hi.owned i t ht hsid'
      exact ⟨d, by simpa only [Store.pendingClose, hrt] using hd, hh⟩
    · obtain ⟨d, hd, rfl⟩ := hi.owned i u hold hsid
      rcases resume_pendingClose env sid s.nextTask t with he | ⟨htake, he⟩ | ⟨hs, hl, info, he⟩
      · exact ⟨d, he.trans hd, rfl⟩
      · rcases takesClose_cases (hi.kinds tid t ht) htake with ⟨req, rfl, rfl⟩ | hown
        · -- an attach cancels: the task whose handle it found is gone
          rcases attachGet_aborts env s.nextTask req hd with hkept | hgone
          · exact ⟨d, hkept, rfl⟩
          · exact absurd hgone hab
        · -- the TTL task that takes the entry out is the only one of the session
          obtain ⟨d', hd', rfl⟩ := hi.owned tid t ht hown
          cases hd.symm.trans hd'
          exact absurd rfl hne
      · -- nothing is installed over a pending close
        rw [pendingClose_installable hl] at hd
        cases hd

end Resume

theorem step_timerInv {e : Event} (hi : TimerInv sid s) (hok : InstallsUnattached s e) (he : e.attachOrDetach)
    (h : s.step e = some s') : TimerInv sid s' := by
  cases e with
  | call c => exact call_timerInv hi he h
  | resume tid env => exact resume_timerInv hi hok h

/-- In a run of attaches, detaches and TTL expiries whose timers are all
installed unattached, a session with a pending close has no registered
attachment, and neither has one that its TTL task is closing. -/
theorem pending_close_unattached (s₀ s : Sys) (sid : SessionId) (evs : List Event) (h₀ : s₀.Idle sid)
    (he : ∀ e ∈ evs, e.attachOrDetach) (hg : Guarded Sys.step InstallsUnattached s₀ evs)
    (hr : run Sys.step s₀ evs = some s) :
    ((s.store.pendingClose sid).isSome → s.store.anyAttachment sid = false) ∧
    ∀ i t, s.tasks.lookup i = some t → t.ttlClosing = some sid → s.store.anyAttachment sid = false := by
  have hi : TimerInv sid s := (hg.and_forall he).inv (TimerInv sid)
    (fun _ _ _ hi hok h => step_timerInv hi hok.1 hok.2 h) hr h₀.timerInv
  refine ⟨fun hp => (hi.quiet hp).1, fun i t ht hclosing => ?_⟩
  have hsid : t.ttlOf = some sid := by cases t <;> first | exact hclosing | cases hclosing
  obtain ⟨d, hd, -⟩ := hi.owned i t ht hsid
  exact (hi.quiet (by simp [hd])).1

/-- The pool and the store after `startedRun`: the forwarder runs and nobody is attached. -/
def startedSys : Sys := ((run Sys.step (Sys.init 30) startedRun).getD (Sys.init 30))

theorem startedSys_idle : startedSys.Idle 7 :=
  ⟨fun _ _ ht => Registry.of_any_eq_false (p := Task.isForwarder) (by decide) ht, by decide⟩

/-- One client attaches and detaches, and the timer fires. -/
theorem pending_close_unattached_expiring :
    ∃ s, run Sys.step startedSys (attachRun 3 9 ++ detachRun 4 9 ++ [.resume 4 {}, .resume 5 {}]) = some s ∧
      s.store.anyAttachment 7 = false :=
  ⟨_, rfl, (pending_close_unattached startedSys _ 7 (attachRun 3 9 ++ detachRun 4 9 ++ [.resume 4 {}, .resume 5 {}])
    startedSys_idle (by decide) (by decide) rfl).1 rfl⟩

/-- A detach has decided to schedule; another client attaches before the timer is
installed. The timer is then pending on an attached session, with every call returned. -/
def overtakenDetachRun : List Event := attachRun 3 9 ++ detachRun 4 9 ++ attachRun 5 10 ++ [.resume 4 {}]

theorem pending_close_attached :
    ¬ ∀ (s₀ s : Sys) (sid : SessionId) (evs : List Event), s₀.Idle sid →
      (∀ e ∈ evs, e.attachOrDetach ∧ e.callSucceeds) → run Sys.step s₀ evs = some s →
      (∀ i t, s.tasks.lookup i = some t → t.attachOrDetachOf ≠ some sid) →
      (s.store.pendingClose sid).isSome → s.store.anyAttachment sid = false := by
  intro h
  have hno := h startedSys _ 7 overtakenDetachRun startedSys_idle (by decide) rfl (fun _ _ ht =>
    of_decide_eq_true (Registry.of_any_eq_false (p := fun t => t.attachOrDetachOf ≠ some 7) (by decide) ht)) rfl
  revert hno
  decide

end RelayTerm.Session
