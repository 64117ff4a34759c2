import RelayTerm.Session.Alone
/-!
# Socket lifecycles, one after another

`run_attached_socket` attaches, acknowledges, serves frames and detaches. Here
its lifecycles run one after another, each manager call alone, with any of the
repository calls failing. A session that was attached once and has nobody on it
is reaped by its TTL task unless one of four things went wrong: an attach failed
behind its cancellation of the timer, the acknowledgement could not be sent, a
detach failed behind its mark of the attachment row (or none got that far), or
the TTL task's own close failed.
-/
open RelayTerm.Lib

namespace RelayTerm.Session

/-! ## `run_attached_socket` -/

/-- What a socket's lifecycle meets: each call's repository, whether the
acknowledgement can be sent, and the detach frames before the socket drops. -/
structure Lifecycle where
  ownerId : UserId
  clientInfo : Option String := none
  attachEnv : Nat → Env := fun _ => {}
  ackSent : Bool := true
  ackDetachEnv : Nat → Env := fun _ => {}
  detachFrames : List (Nat → Env) := []
  tailEnv : Nat → Env := fun _ => {}

/-- The receive loop. A detach frame ends it when `detach_attachment` succeeds
and is answered with an error otherwise; when the socket drops the cleanup tail
detaches, and its failure is only logged. -/
def socketLoop (detach : DetachRequest) (tailEnv : Nat → Env) : List (Nat → Env) → Sys → Option Sys
  | [], s => (s.perform (.detach detach) tailEnv).map (·.1)
  | env :: frames, s =>
    match s.perform (.detach detach) env with
    | none => none
    | some (s', .detached _ _) => some s'
    | some (s', _) => socketLoop detach tailEnv frames s'

/-- `run_attached_socket`: the state it leaves, and whether it was attached. When
the acknowledgement cannot be sent only `detach_session` runs, which schedules nothing. -/
def runAttachedSocket (s : Sys) (sid : SessionId) (l : Lifecycle) : Option (Sys × Bool) :=
  match s.perform (.attachSession ⟨sid, l.ownerId, l.clientInfo, none⟩) l.attachEnv with
  | none => none
  | some (s', .attached _ aid _ _ _) =>
    if l.ackSent then (socketLoop ⟨true, l.ownerId, sid, aid, none⟩ l.tailEnv l.detachFrames s').map (·, true)
    else (s'.perform (.detach ⟨false, l.ownerId, sid, aid, none⟩) l.ackDetachEnv).map (·.1, true)
  | some (s', _) => some (s', false)

/-- The system and whether a client was ever attached. -/
structure SocketSys where
  sys : Sys
  attached : Bool

/-- A socket lives its whole life, a TTL task fires and runs to its end, or a forwarder goes on. -/
inductive SocketEvent where
  | socket (l : Lifecycle)
  | expire (tid : TaskId) (env : Nat → Env)
  | forward (tid : TaskId) (env : Env)

def socketStep (sid : SessionId) (x : SocketSys) : SocketEvent → Option SocketSys
  | .socket l => (runAttachedSocket x.sys sid l).map fun r => ⟨r.1, x.attached || r.2⟩
  | .expire tid env =>
    match x.sys.tasks.lookup tid with
    | some (.ttlSleep k owner) =>
      (finish env maxAwaits 0 (.ttlSleep k owner) { x.sys with tasks := x.sys.tasks.erase tid }).map
        fun r => { x with sys := r.1 }
    | _ => none
  | .forward tid env =>
    if (x.sys.tasks.lookup tid).any Task.isForwarder then
      (x.sys.step (.resume tid env)).map fun s => { x with sys := s }
    else none

/-- No orphan: a live session that was attached and has no socket is under a TTL close. -/
def SocketSys.Reaped (x : SocketSys) (sid : SessionId) : Prop :=
  x.attached → (x.sys.store.live sid).isSome → x.sys.TtlPending sid

/-! ## What must not fail -/

/-- Of the detaches a socket tries in turn, the first whose attachment mark
succeeds also writes its event and reads the row back, and there is such a one. -/
def detachesOk : List (Nat → Env) → Bool
  | [] => false
  | env :: rest =>
    if (env 0).ok && (env 1).ok && (env 2).ok then (env 3).ok && (env 4).ok else detachesOk rest

/-- Behind the attach's gate nothing fails that its cleanup does not make up for. -/
def LifecycleOk (s : Sys) (sid : SessionId) (l : Lifecycle) : Prop :=
  (l.attachEnv 0).ok → (s.store.sessions.lookup sid).any (fun r => r.ownerId = l.ownerId ∧ r.status ≠ .closed) →
    (l.attachEnv 1).ok ∧ s.store.attachmentRows.lookup (l.attachEnv 1).id = none ∧ (l.attachEnv 2).ok ∧
    ((s.store.pendingClose sid).isSome → (l.attachEnv 3).ok) ∧
    l.ackSent ∧ detachesOk (l.detachFrames ++ [l.tailEnv])

def SocketOk (sid : SessionId) (x : SocketSys) : SocketEvent → Prop
  | .socket l => LifecycleOk x.sys sid l
  | .expire _ env => ExpiryOk x.sys sid env
  | .forward _ _ => True

instance (sid : SessionId) (x : SocketSys) : (e : SocketEvent) → Decidable (SocketOk sid x e)
  | .socket _ => inferInstanceAs (Decidable (_ → _ → _))
  | .expire _ _ => inferInstanceAs (Decidable (_ ∧ _))
  | .forward _ _ => isTrue trivial

/-! ## The loop -/

/-- The loop of a socket whose detaches are in order leaves the session unattended. -/
theorem socketLoop_unattended {s : Sys} {req : DetachRequest} {row : TerminalSession} {a : TerminalSessionAttachment}
    (h : Holds s req row a) (hsched : req.schedule) {tailEnv : Nat → Env}
    {frames : List (Nat → Env)} (hok : detachesOk (frames ++ [tailEnv]))
    (hnone : s.store.pendingClose req.sessionId = none)
    (halone : ∀ aid b, s.store.attachments.lookup aid = some b → b.sessionId = req.sessionId → aid = req.attachmentId) :
    ∃ s', socketLoop req tailEnv frames s = some s' ∧ Unattended s s' req.sessionId := by
  induction frames with
  | nil =>
    simp only [List.nil_append, detachesOk] at hok
    have hall : ((tailEnv 0).ok && (tailEnv 1).ok && (tailEnv 2).ok) && ((tailEnv 3).ok && (tailEnv 4).ok) := by
      split at hok
      · simp_all
      · cases hok
    obtain ⟨s', d, p, hp, hu⟩ := detach_completes h hsched hall hnone halone
    exact ⟨s', by simp [socketLoop, hp], hu⟩
  | cons env frames ih =>
    simp only [List.cons_append, detachesOk] at hok
    by_cases hthree : ((env 0).ok && (env 1).ok && (env 2).ok) = true
    · rw [if_pos hthree] at hok
      have hall : ((env 0).ok && (env 1).ok && (env 2).ok) && ((env 3).ok && (env 4).ok) := by simp_all
      obtain ⟨s', d, p, hp, hu⟩ := detach_completes h hsched hall hnone halone
      exact ⟨s', by simp [socketLoop, hp], hu⟩
    · rw [if_neg hthree] at hok
      obtain ⟨e, hp⟩ := detach_fails h hthree
      obtain ⟨s', hs', hu⟩ := ih hok
      exact ⟨s', by simp [socketLoop, hp, hs'], hu⟩

/-! ## Forwarders -/

section Forward

variable (st : Store) (env : Env) (fresh : TaskId) {t : Task}

theorem forwarder_stretch (ht : t.isForwarder) :
    (st.resume env fresh t).aborted = [] ∧ (st.resume env fresh t).spawned = none := by
  cases t <;> simp only [Task.isForwarder, Bool.false_eq_true] at ht <;> grind

theorem forwarder_next (ht : t.isForwarder) {t' : Task} (h : (st.resume env fresh t).next = .await t') :
    t'.isForwarder := by
  cases resume_edge fresh h <;> first | rfl | cases ht

theorem forwarder_registries (ht : t.isForwarder) : t.takesClose = none ∧ t.schedules = none ∧ t.pastCancel = none := by
  cases t <;> first | exact ⟨rfl, rfl, rfl⟩ | cases ht

theorem settle_lookup_ne {s : Sys} {tid i fresh : TaskId} {o : Out} (ho : o.aborted = [] ∧ o.spawned = none)
    (hne : i ≠ tid) :
    (s.settle tid fresh o).tasks.lookup i = s.tasks.lookup i := by
  simp only [Sys.settle, ho.1, ho.2, abortAll, List.foldr_nil]
  cases o.next with
  | await u => exact AList.lookup_insert_ne hne
  | ret r => exact AList.lookup_erase_ne hne

end Forward

/-! ## The invariant -/

section Invariant

variable {sid : SessionId} {x x' : SocketSys}

structure Reapable (sid : SessionId) (x : SocketSys) : Prop where
  unattached : x.sys.store.anyAttachment sid = false
  timers : ∀ i k o, x.sys.tasks.lookup i = some (.ttlSleep k o) →
    k = sid ∧ ∃ row, x.sys.store.sessions.lookup sid = some row ∧ row.ownerId = o
  reaped : x.Reaped sid

theorem socket_reapable {l : Lifecycle} (hi : Reapable sid x) (hok : LifecycleOk x.sys sid l)
    (h : socketStep sid x (.socket l) = some x') : Reapable sid x' := by
  obtain ⟨⟨s₂, b⟩, hrun, rfl⟩ := Option.map_eq_some_iff.1 h
  unfold runAttachedSocket at hrun
  by_cases hgate : (l.attachEnv 0).ok ∧ (x.sys.store.sessions.lookup sid).any
      (fun r => r.ownerId = l.ownerId ∧ r.status ≠ .closed)
  · obtain ⟨h1, hfresh, h2, h3, hack, hdet⟩ := hok hgate.1 hgate.2
    obtain ⟨h0, row, hrow, howner, hopen⟩ : (l.attachEnv 0).ok ∧ ∃ row, x.sys.store.sessions.lookup sid = some row ∧
        row.ownerId = l.ownerId ∧ row.status ≠ .closed := by
      simpa [Option.any_eq_true] using hgate
    obtain ⟨s₁, a, m, live, hp, hatt⟩ :=
      attach_completes ⟨sid, l.ownerId, l.clientInfo, none⟩ h0 hrow howner hopen h1 hfresh h2 h3
    obtain ⟨row₁, hrow₁, ho₁⟩ := hatt.owners sid row hrow
    have hholds : Holds s₁ ⟨true, l.ownerId, sid, (l.attachEnv 1).id, none⟩ row₁ a :=
      ⟨hrow₁, ho₁.trans howner, hatt.attachment, hatt.sessionId, hatt.notDetached⟩
    obtain ⟨s', hloop, hun⟩ := socketLoop_unattended hholds rfl hdet hatt.pending (by
      intro aid b hb hbs
      rcases hatt.registered aid b hb with rfl | hold
      · rfl
      · exact absurd hbs (anyAttachment_false_iff.1 hi.unattached aid b hold))
    simp only [hp, hack, hloop, if_true, Option.map_some, Option.some.injEq, Prod.mk.injEq] at hrun
    obtain ⟨rfl, rfl⟩ := hrun
    refine ⟨hun.unattached, fun i k o ht => ?_, fun _ hl => hun.pending hl⟩
    rcases hun.timers i k o ht with hold | ⟨rfl, r, hr, ho⟩
    · obtain ⟨hk, r, hr, ho⟩ := hi.timers i k o (hatt.tasks i _ hold)
      obtain ⟨r₂, hr₂, hor₂⟩ := owners_trans hatt.owners hun.owners sid r hr
      exact ⟨hk, r₂, hr₂, hor₂.trans ho⟩
    · obtain ⟨r₂, hr₂, hor₂⟩ := hun.owners _ r hr
      exact ⟨rfl, r₂, hr₂, hor₂.trans ho⟩
  · obtain ⟨e, hp⟩ := attach_refused (s := x.sys) ⟨sid, l.ownerId, l.clientInfo, none⟩ hgate
    simp only [hp, Option.some.injEq, Prod.mk.injEq] at hrun
    obtain ⟨rfl, rfl⟩ := hrun
    exact ⟨hi.unattached, hi.timers, by simpa [SocketSys.Reaped] using hi.reaped⟩

theorem expire_reapable {tid : TaskId} {env : Nat → Env} (hi : Reapable sid x) (hok : ExpiryOk x.sys sid env)
    (h : socketStep sid x (.expire tid env) = some x') : Reapable sid x' := by
  simp only [socketStep] at h
  split at h
  · rename_i k owner htask
    obtain ⟨rfl, row, hrow, rfl⟩ := hi.timers tid k owner htask
    obtain ⟨s', r, hf, hcase⟩ := expire_finishes (s := { x.sys with tasks := x.sys.tasks.erase tid }) hrow hok
    simp only [hf, Option.map_some, Option.some.injEq] at h
    subst h
    rcases hcase with ⟨hnone, rfl⟩ | hrem
    · refine ⟨hi.unattached, fun i k o ht => hi.timers i k o (Registry.lookup_erase_iff.1 ht).2, fun ha hl => ?_⟩
      obtain ⟨d, o, hd, -⟩ := hi.reaped ha hl
      rw [show x.sys.store.pendingClose k = none from hnone] at hd
      cases hd
    · refine ⟨anyAttachment_false_iff.2 fun i b hb => ?_, fun i k' o ht => ?_, fun _ hl => ?_⟩
      · exact anyAttachment_false_iff.1 hi.unattached i b (hrem.attachments i b hb)
      · obtain ⟨hk, r₀, hr₀, ho₀⟩ := hi.timers i k' o (Registry.lookup_erase_iff.1 (hrem.tasks i _ ht)).2
        obtain ⟨r₁, hr₁, ho₁⟩ := hrem.owners k r₀ hr₀
        exact ⟨hk, r₁, hr₁, ho₁.trans ho₀⟩
      · rw [hrem.live] at hl
        cases hl
  · cases h

theorem forward_reapable {tid : TaskId} {env : Env} (hi : Reapable sid x)
    (h : socketStep sid x (.forward tid env) = some x') : Reapable sid x' := by
  simp only [socketStep] at h
  split at h
  · rename_i hfwd
    obtain ⟨s', hs', rfl⟩ := Option.map_eq_some_iff.1 h
    obtain ⟨t, ht, rfl⟩ := step_resume hs'
    have htf : t.isForwarder := by simpa [ht] using hfwd
    have hout := forwarder_stretch x.sys.store env x.sys.nextTask htf
    obtain ⟨htake, hsched, hpast⟩ := forwarder_registries htf
    have hrt := resume_live x.sys.store env x.sys.nextTask htake hsched
    refine ⟨anyAttachment_false_iff.2 fun i b hb => ?_, fun i k o hto => ?_, fun ha hl => ?_⟩
    · rcases resume_attachments _ hb with hold | hreg
      · exact anyAttachment_false_iff.1 hi.unattached i b hold
      · rw [hpast] at hreg; cases hreg
    · obtain ⟨-, ⟨-, hsp⟩ | ⟨-, hnext⟩ | ⟨-, hold⟩⟩ := settle_task hto
      · rw [hout.2] at hsp; cases hsp
      · cases forwarder_next _ _ _ htf hnext
      · obtain ⟨hk, r, hr, ho⟩ := hi.timers i k o hold
        obtain ⟨r', hr', ho'⟩ := resume_owners x.sys.store env x.sys.nextTask t sid hr
        exact ⟨hk, r', hr', ho'.trans ho⟩
    · simp only [Sys.settle, hrt] at hl
      obtain ⟨d, o, hd, hto⟩ := hi.reaped ha hl
      have hne : d.handle ≠ tid := by
        rintro rfl
        cases ht.symm.trans hto
        cases htf
      refine ⟨d, o, ?_, (settle_lookup_ne hout hne).trans hto⟩
      simpa only [Sys.settle, Store.pendingClose, hrt] using hd
  · cases h

theorem step_reapable {e : SocketEvent} (hi : Reapable sid x) (hok : SocketOk sid x e)
    (h : socketStep sid x e = some x') : Reapable sid x' := by
  cases e with
  | socket l => exact socket_reapable hi hok h
  | expire tid env => exact expire_reapable hi hok h
  | forward tid env => exact forward_reapable hi h

/-- Nobody was attached yet: only forwarders run and no attachment is registered. -/
def SocketSys.Unused (x : SocketSys) (sid : SessionId) : Prop :=
  x.attached = false ∧ x.sys.Idle sid ∧ x.sys.store.anyAttachment sid = false

theorem SocketSys.Unused.reapable (h : x.Unused sid) : Reapable sid x := by
  obtain ⟨hno, hidle, hun⟩ := h
  refine ⟨hun, fun i k o ht => ?_, fun ha => ?_⟩
  · cases hidle.1 i _ ht
  · rw [hno] at ha; cases ha

/-- In a sequence of socket lifecycles in which no failure hits one of the calls
of `SocketOk`, a live session that was attached and has no socket is under a TTL close. -/
theorem live_session_reaped (sid : SessionId) (x₀ x : SocketSys) (evs : List SocketEvent) (h₀ : x₀.Unused sid)
    (hg : Guarded (socketStep sid) (SocketOk sid) x₀ evs) (hr : run (socketStep sid) x₀ evs = some x) : x.Reaped sid :=
  (hg.inv (Reapable sid) (fun _ _ _ hi hok h => step_reapable hi hok h) hr h₀.reapable).reaped

end Invariant

/-- Session 7 is live and unattached. -/
def unusedSys : SocketSys := ⟨startedSys, false⟩

theorem unusedSys_unused : unusedSys.Unused 7 := ⟨rfl, startedSys_idle, by decide⟩

/-- A client attaches, its first detach frame fails at the mark, and it drops; a
second one reattaches and drops. -/
def droppedTwice : List SocketEvent :=
  [.socket { ownerId := 1, attachEnv := fun _ => { id := 9 }, detachFrames := [fun i => { ok := i != 2 }] },
   .socket { ownerId := 1, attachEnv := fun _ => { id := 10 } }]

theorem live_session_reaped_twice :
    ∃ x, run (socketStep 7) unusedSys droppedTwice = some x ∧ (x.sys.store.live 7).isSome ∧ x.sys.TtlPending 7 :=
  ⟨_, rfl, rfl, live_session_reaped 7 unusedSys _ droppedTwice unusedSys_unused (by decide) rfl rfl rfl⟩

/-- The acknowledgement of the first attach cannot be sent. No repository call fails. -/
def ackLost : List SocketEvent := [.socket { ownerId := 1, attachEnv := fun _ => { id := 9 }, ackSent := false }]

theorem live_session_orphaned :
    ¬ ∀ (sid : SessionId) (x₀ x : SocketSys) (evs : List SocketEvent), x₀.Unused sid →
      run (socketStep sid) x₀ evs = some x → x.Reaped sid := by
  intro h
  obtain ⟨d, owner, hd, -⟩ := h 7 unusedSys _ ackLost unusedSys_unused rfl rfl rfl
  cases hd

end RelayTerm.Session
