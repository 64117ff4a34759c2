import RelayTerm.Session.Detach
/-!
# Handles into the task pool

A live runtime holds the handle of its TTL task, and a start holds the handle of
the forwarder it spawned, until they are dropped or aborted. Whatever is found
under such a handle is a task of the same session: ids are never reused, and a
task stays what it is as it goes on.
-/
open RelayTerm.Lib

namespace RelayTerm.Session

variable {st : Store} {env : Env} {s s' : Sys} {sid : SessionId}

/-! ## What a stretch aborts -/

inductive Aborts (st : Store) : Task → List TaskId → Prop where
  | nothing (t : Task) : Aborts st t []
  | replaced (owner : UserId) (sid : SessionId) (pty : PtyId) (forwarder : TaskId) (e : RuntimeEntry)
      (found : st.runtimes.lookup sid = some e) : Aborts st (.startReget owner sid pty forwarder) e.tasks
  | leftover (owner : UserId) (sid : SessionId) (pty : PtyId) (forwarder : TaskId)
      (gone : st.runtimes.lookup sid = none) : Aborts st (.startReget owner sid pty forwarder) [forwarder]
  | failed (sid : SessionId) (category : String) :
      Aborts st (.failedEvent sid category) (((st.runtimes.lookup sid).map RuntimeEntry.tasks).getD [])
  | dropped (sid : SessionId) (live : LiveRuntime) (session : TerminalSession) (already : Bool) :
      Aborts st (.shutdownRecording sid live session already) live.tasks
  | cancelled (req : AttachSessionRequest) (d : DetachClose) (session : TerminalSession)
      (pending : st.pendingClose req.sessionId = some d) (row : st.sessions.lookup req.sessionId = some session)
      (unclosed : session.status ≠ .closed) : Aborts st (.attachGet req) [d.handle]

theorem Aborts.of_nil {t : Task} {l : List TaskId} (h : l = []) : Aborts st t l := h ▸ .nothing t

theorem resume_aborted (st : Store) (env : Env) (fresh : TaskId) (t : Task) :
    Aborts st t (st.resume env fresh t).aborted := by
  cases t
  case startReget owner sid pty forwarder =>
    simp only [Store.resume, Store.startReget]
    split
    · exact .nothing _
    · split
      · next e he => exact .replaced owner sid pty forwarder e he
      · next he => exact .leftover owner sid pty forwarder he
  case failedEvent sid category =>
    simp only [Store.resume, Store.failedEvent]
    split
    · exact .failed sid category
    · obtain rfl := Store.createEvent_ok ‹_›
      exact .failed sid category
  case shutdownRecording sid live session already =>
    simp only [Store.resume, Store.shutdownRecording]
    exact .dropped sid live session already
  case attachGet req =>
    simp only [Store.resume, Store.attachGet]
    split
    · exact .nothing _
    · next session hget =>
      split
      · exact .nothing _
      · next hst =>
        split
        · next d hd => exact .cancelled req d session hd (Store.getOwned_ok hget).1 hst
        · exact .nothing _
  case scheduleSetDetached req detach =>
    obtain ⟨st', -, h⟩ := scheduleSetDetached_cases st env fresh req detach
    simp only [Store.resume, h]
    rcases scheduleInstall_cases st' env fresh req detach with ⟨_, hi⟩ | ⟨_, _, _, _, hi⟩ <;>
      rw [hi] <;> exact .nothing _
  -- every other stretch aborts nothing
  all_goals
    apply Aborts.of_nil
    grind

/-! ## The pool after a stretch -/

theorem settle_kept {tid fresh i : TaskId} {o : Out} {t : Task} (h : s.tasks.lookup i = some t) (hi : i ≠ tid)
    (hf : i ≠ fresh) (ha : i ∉ o.aborted) : (s.settle tid fresh o).tasks.lookup i = some t := by
  apply lookup_abortAll.2
  refine ⟨ha, ?_⟩
  obtain ⟨store, next, spawned, aborted⟩ := o
  cases spawned <;> cases next <;>
    simp only [AList.lookup_insert_ne hf, AList.lookup_insert_ne hi, AList.lookup_erase_ne hi, h]

theorem settle_next {tid fresh : TaskId} {o : Out} {t : Task} (h : o.next = .await t) (hf : tid ≠ fresh)
    (ha : tid ∉ o.aborted) : (s.settle tid fresh o).tasks.lookup tid = some t := by
  apply lookup_abortAll.2
  refine ⟨ha, ?_⟩
  obtain ⟨store, next, spawned, aborted⟩ := o
  subst h
  cases spawned <;> simp only [AList.lookup_insert_ne hf, AList.lookup_insert]

theorem settle_nextTask (s : Sys) (tid fresh : TaskId) (o : Out) : fresh ≤ (s.settle tid fresh o).nextTask := by
  simp only [Sys.settle]
  split
  · exact Nat.le_succ fresh
  · exact Nat.le_refl fresh

/-- Every task has an id that was handed out. -/
def Sys.IdsFresh (s : Sys) : Prop := ∀ i t, s.tasks.lookup i = some t → i < s.nextTask

theorem step_idsFresh {e : Event} (hs : s.IdsFresh) (h : s.step e = some s') : s'.IdsFresh := by
  intro i t ht
  cases e with
  | call c =>
    cases h
    have hle := settle_nextTask s s.nextTask (s.nextTask + 1) (s.store.enter c)
    rcases entered_task ht with ⟨rfl, -⟩ | ⟨-, hold⟩
    · exact hle
    · exact Nat.lt_of_lt_of_le (Nat.lt_succ_of_lt (hs i t hold)) hle
  | resume tid env =>
    obtain ⟨u, hu, rfl⟩ := step_resume h
    have hle := settle_nextTask s tid s.nextTask (s.store.resume env s.nextTask u)
    obtain ⟨-, ⟨rfl, hsp⟩ | ⟨rfl, -⟩ | ⟨-, hold⟩⟩ := settle_task ht
    · simp [Sys.settle, hsp]
    · exact Nat.lt_of_lt_of_le (hs i u hu) hle
    · exact Nat.lt_of_lt_of_le (hs i t hold) hle

/-! ## What a handle leads to -/

/-- The id `i` was handed out, and whatever task has it satisfies `P`. -/
def Sys.At (s : Sys) (P : Task → Prop) (i : TaskId) : Prop := i < s.nextTask ∧ ∀ t, s.tasks.lookup i = some t → P t

/-- What a task stays as it goes on, it stays under its handle. -/
theorem step_at {P : Task → Prop} {e : Event} {i : TaskId}
    (hP : ∀ st env fresh t t', Edge st env fresh t t' → P t → P t') (h : s.step e = some s') (ha : s.At P i) :
    s'.At P i := by
  obtain ⟨hi, hP'⟩ := ha
  cases e with
  | call c =>
    cases h
    have hle := settle_nextTask s s.nextTask (s.nextTask + 1) (s.store.enter c)
    refine ⟨Nat.lt_of_lt_of_le (Nat.lt_succ_of_lt hi) hle, fun t ht => ?_⟩
    rcases entered_task ht with ⟨rfl, -⟩ | ⟨-, hold⟩
    · exact absurd hi (Nat.lt_irrefl _)
    · exact hP' t hold
  | resume tid env =>
    obtain ⟨u, hu, rfl⟩ := step_resume h
    have hle := settle_nextTask s tid s.nextTask (s.store.resume env s.nextTask u)
    refine ⟨Nat.lt_of_lt_of_le hi hle, fun t ht => ?_⟩
    obtain ⟨-, ⟨rfl, -⟩ | ⟨rfl, hn⟩ | ⟨-, hold⟩⟩ := settle_task ht
    · exact absurd hi (Nat.lt_irrefl _)
    · exact hP _ _ _ u t (resume_edge _ hn) (hP' u hu)
    · exact hP' t hold

/-- The handle of a task that a stretch spawns. -/
theorem spawned_at {P : Task → Prop} {tid : TaskId} {u t : Task} (hs : s.IdsFresh)
    (h : s.step (.resume tid env) = some s') (hu : s.tasks.lookup tid = some u)
    (hsp : (s.store.resume env s.nextTask u).spawned = some t) (hP : P t) : s'.At P s.nextTask := by
  obtain ⟨u', hu', rfl⟩ := step_resume h
  cases hu.symm.trans hu'
  refine ⟨by simp [Sys.settle, hsp], fun t' ht' => ?_⟩
  obtain ⟨-, ⟨-, hsp'⟩ | ⟨htid, -⟩ | ⟨-, hold⟩⟩ := settle_task ht'
  · cases hsp.symm.trans hsp'
    exact hP
  · exact absurd (htid ▸ hs tid u hu) (Nat.lt_irrefl _)
  · exact absurd (hs _ t' hold) (Nat.lt_irrefl _)

/-- The session a TTL task sleeps for or is closing; whoever closes it ends in the same shutdown. -/
def Task.timerOf : Task → Option SessionId
  | .shutdownHandle sid _ _ _ | .shutdownForwarder sid _ _ _ | .shutdownRecording sid _ _ _ => some sid
  | t => t.ttlOf

/-- The session of a forwarder. -/
def Task.forwards : Task → Option SessionId
  | .pump sid _ _ | .teardownGet sid _ _ | .teardownSetClosed sid _ _ _ | .teardownEvent sid _ => some sid
  | _ => none

/-- The runtime a task is shutting down. -/
def Task.shutsDown : Task → Option (SessionId × LiveRuntime)
  | .shutdownHandle sid live _ _ | .shutdownForwarder sid live _ _ | .shutdownRecording sid live _ _ => some (sid, live)
  | _ => none

/-- The runtime a shutdown drops at its end; its forwarder has been taken out to be waited for. -/
def Task.drops : Task → Option LiveRuntime
  | .shutdownForwarder _ live _ _ | .shutdownRecording _ live _ _ => some live
  | _ => none

/-- The forwarder a start has spawned. -/
def Task.startsWith : Task → Option (SessionId × TaskId)
  | .startSetActive _ sid _ _ forwarder | .startReget _ sid _ forwarder => some (sid, forwarder)
  | _ => none

theorem Edge.timerOf {fresh : TaskId} {t t' : Task} (h : Edge st env fresh t t') (ht : t.timerOf = some sid) :
    t'.timerOf = some sid := by
  cases h <;> simp only [Task.timerOf, Task.ttlOf, Task.ttlClosing, reduceCtorEq] at ht ⊢
  case closeGate origin _ _ _ _ _ _ => cases origin <;> cases ht; rfl
  case closeStale origin _ _ _ _ _ _ _ => cases origin <;> cases ht; rfl
  case closeClosed origin _ _ _ _ => cases origin <;> cases ht; rfl
  case closeLogged origin _ _ => cases origin <;> cases ht; rfl
  case closeRemoved origin _ _ _ _ _ => cases origin <;> cases ht; rfl
  all_goals exact ht

theorem Edge.forwards {fresh : TaskId} {t t' : Task} (h : Edge st env fresh t t') (ht : t.forwards = some sid) :
    t'.forwards = some sid := by
  cases h <;> simp only [Task.forwards, reduceCtorEq] at ht ⊢ <;> exact ht

/-- Every handle leads to a task of its own session. -/
structure Sys.Handles (s : Sys) : Prop where
  ids : s.IdsFresh
  timer : ∀ sid d, s.store.pendingClose sid = some d → s.At (·.timerOf = some sid) d.handle
  dropped : ∀ i t sid live d, s.tasks.lookup i = some t → t.shutsDown = some (sid, live) → live.detachClose = some d →
    s.At (·.timerOf = some sid) d.handle
  forwarder : ∀ i t sid fwd, s.tasks.lookup i = some t → t.startsWith = some (sid, fwd) →
    s.At (·.forwards = some sid) fwd
  taken : ∀ i t live, s.tasks.lookup i = some t → t.drops = some live → live.forwarder = none

theorem init_handles (ttl : Nat) : (Sys.init ttl).Handles := by
  refine ⟨?_, ?_, ?_, ?_, ?_⟩ <;>
    simp [Sys.init, Store.init, Sys.IdsFresh, Store.pendingClose, Store.live]

theorem enter_pendingClose (st : Store) (sid : SessionId) (c : Call) :
    (st.enter c).store.pendingClose sid = st.pendingClose sid ∨ (st.enter c).store.pendingClose sid = none := by
  cases c
  case recordPtyStartFailed owner k category =>
    simp only [Store.enter, Store.recordPtyStartFailedEnter, Store.pendingClose, Store.live, Store.await,
      Registry.lookup_modify]
    split
    · right
      cases st.runtimes.lookup k <;> rfl
    · exact .inl rfl
  all_goals exact .inl (by grind)

/-- No call starts out in the middle of a start or of a shutdown. -/
theorem enter_untracked (c : Call) {t : Task} (h : (st.enter c).next = .await t) :
    t.shutsDown = none ∧ t.startsWith = none ∧ t.drops = none := by
  cases c <;> grind [Task.shutsDown, Task.startsWith, Task.drops]

/-- A shutdown goes on with its runtime, the forwarder taken out, or has just
taken the live runtime out of the registry. -/
theorem resume_shutsDown (fresh : TaskId) {t t' : Task} {live : LiveRuntime}
    (h : (st.resume env fresh t).next = .await t') (ht' : t'.shutsDown = some (sid, live)) :
    (∃ old, t.shutsDown = some (sid, old) ∧ old.detachClose = live.detachClose) ∨ st.live sid = some live := by
  cases resume_edge fresh h <;> cases ht'
  case closeStale | closeRemoved => exact .inr ‹_›
  case handleForwarder live _ _ => exact .inl ⟨live, rfl, rfl⟩
  all_goals exact .inl ⟨_, rfl, rfl⟩

theorem resume_startsWith (fresh : TaskId) {t t' : Task} {fwd : TaskId}
    (h : (st.resume env fresh t).next = .await t') (ht' : t'.startsWith = some (sid, fwd)) :
    t.startsWith = some (sid, fwd) ∨
      (fwd = fresh ∧ ∃ owner, (st.resume env fresh t).spawned = some (.pump sid owner none)) := by
  cases resume_edge fresh h <;> cases ht'
  case startGate owner pty session _ _ _ =>
    refine .inr ⟨rfl, owner, ?_⟩
    simp only [Store.resume, Store.startGet] at h ⊢
    split at h
    · cases h
    · split at h
      · cases h
      · simp [*]
  all_goals exact .inl rfl

theorem resume_drops (fresh : TaskId) {t t' : Task} {live : LiveRuntime}
    (h : (st.resume env fresh t).next = .await t') (ht' : t'.drops = some live) :
    t.drops = some live ∨ live.forwarder = none := by
  cases resume_edge fresh h <;> cases ht'
  case handleForwarder => exact .inr rfl
  case handleClosed => exact .inr ‹_›
  case forwarderDone => exact .inl rfl

/-- A timer just installed is the task just spawned. -/
theorem installed_spawned {fresh : TaskId} {t : Task} {info : DetachInfo} (hsch : t.schedules = some sid)
    (hnew : (st.resume env fresh t).store.pendingClose sid = some ⟨info, fresh⟩) (hold : st.pendingClose sid = none) :
    ∃ u, (st.resume env fresh t).spawned = some u ∧ u.timerOf = some sid := by
  cases t <;> cases hsch
  rename_i req detach
  obtain ⟨st', hst', h⟩ := scheduleSetDetached_cases st env fresh req detach
  have hrt : st'.runtimes = st.runtimes := by rcases hst' with rfl | ⟨row, -, rfl⟩ <;> rfl
  simp only [Store.resume, h] at hnew ⊢
  rcases scheduleInstall_cases st' env fresh req detach with ⟨_, hi⟩ | ⟨_, _, _, _, hi⟩ <;> rw [hi] at hnew ⊢
  · have hsame : st'.pendingClose req.sessionId = none := by
      simpa only [Store.pendingClose, Store.live, hrt] using hold
    cases hsame.symm.trans hnew
  · exact ⟨_, rfl, rfl⟩

/-- A task of the new pool neither starts nor shuts down anything, or has just gone on, or was there. -/
theorem tracked_task {e : Event} {i : TaskId} {t : Task} (h : s.step e = some s') (ht : s'.tasks.lookup i = some t) :
    (t.shutsDown = none ∧ t.startsWith = none ∧ t.drops = none) ∨
    (∃ tid env u, e = .resume tid env ∧ s.tasks.lookup tid = some u ∧
      (s.store.resume env s.nextTask u).next = .await t) ∨
    s.tasks.lookup i = some t := by
  cases e with
  | call c =>
    cases h
    rcases entered_task ht with ⟨-, hn⟩ | ⟨-, hold⟩
    · exact .inl (enter_untracked c hn)
    · exact .inr (.inr hold)
  | resume tid env =>
    obtain ⟨u, hu, rfl⟩ := step_resume h
    obtain ⟨-, ⟨-, hsp⟩ | ⟨-, hn⟩ | ⟨-, hold⟩⟩ := settle_task ht
    · rcases resume_spawned _ hsp with ⟨_, _, _, _, rfl⟩ | ⟨_, _, _, rfl⟩ <;> exact .inl ⟨rfl, rfl, rfl⟩
    · exact .inr (.inl ⟨tid, env, u, rfl, hu, hn⟩)
    · exact .inr (.inr hold)

section Step

variable {e : Event} (hs : s.Handles) (h : s.step e = some s')
include hs h

theorem step_timer {d : DetachClose} (hd : s'.store.pendingClose sid = some d) :
    s'.At (·.timerOf = some sid) d.handle := by
  have kept : s.store.pendingClose sid = some d → s'.At (·.timerOf = some sid) d.handle :=
    fun hold => step_at (fun _ _ _ _ _ he => he.timerOf) h (hs.timer sid d hold)
  cases e with
  | call c =>
    cases h
    rcases enter_pendingClose s.store sid c with he | he
    · exact kept (he.symm.trans hd)
    · cases he.symm.trans hd
  | resume tid env =>
    obtain ⟨u, hu, heq⟩ := step_resume h
    subst heq
    rcases resume_pendingClose env sid s.nextTask u with he | ⟨-, he⟩ | ⟨hsch, hl, info, he⟩
    · exact kept (he.symm.trans hd)
    · cases he.symm.trans hd
    · -- the timer just installed is the task just spawned
      cases he.symm.trans hd
      obtain ⟨t, hsp, htimer⟩ := installed_spawned hsch he (pendingClose_installable hl)
      exact spawned_at hs.ids h hu hsp htimer

theorem step_dropped {i : TaskId} {t : Task} {live : LiveRuntime} {d : DetachClose}
    (ht : s'.tasks.lookup i = some t) (hsd : t.shutsDown = some (sid, live)) (hd : live.detachClose = some d) :
    s'.At (·.timerOf = some sid) d.handle := by
  apply step_at (fun _ _ _ _ _ he => he.timerOf) h
  rcases tracked_task h ht with ⟨hnone, -⟩ | ⟨tid, env, u, -, hu, hn⟩ | hold
  · cases hnone.symm.trans hsd
  · rcases resume_shutsDown _ hn hsd with ⟨old, hold, heq⟩ | hlive
    · exact hs.dropped tid u sid old d hu hold (heq.trans hd)
    · exact hs.timer sid d (by simp [Store.pendingClose, hlive, hd])
  · exact hs.dropped i t sid live d hold hsd hd

theorem step_forwarder {i fwd : TaskId} {t : Task} (ht : s'.tasks.lookup i = some t)
    (hf : t.startsWith = some (sid, fwd)) : s'.At (·.forwards = some sid) fwd := by
  have kept : s.At (·.forwards = some sid) fwd → s'.At (·.forwards = some sid) fwd :=
    step_at (fun _ _ _ _ _ he => he.forwards) h
  rcases tracked_task h ht with ⟨-, hnone, -⟩ | ⟨tid, env, u, rfl, hu, hn⟩ | hold
  · cases hnone.symm.trans hf
  · rcases resume_startsWith _ hn hf with hold | ⟨rfl, owner, hsp⟩
    · exact kept (hs.forwarder tid u sid fwd hu hold)
    · exact spawned_at hs.ids h hu hsp rfl
  · exact kept (hs.forwarder i t sid fwd hold hf)

theorem step_taken {i : TaskId} {t : Task} {live : LiveRuntime} (ht : s'.tasks.lookup i = some t)
    (hl : t.drops = some live) : live.forwarder = none := by
  rcases tracked_task h ht with ⟨-, -, hnone⟩ | ⟨tid, env, u, -, hu, hn⟩ | hold
  · cases hnone.symm.trans hl
  · rcases resume_drops _ hn hl with hold | hnone
    · exact hs.taken tid u live hu hold
    · exact hnone
  · exact hs.taken i t live hold hl

theorem step_handles : s'.Handles where
  ids := step_idsFresh hs.ids h
  timer _ _ hd := step_timer hs h hd
  dropped _ _ _ _ _ ht hsd hd := step_dropped hs h ht hsd hd
  forwarder _ _ _ _ ht hf := step_forwarder hs h ht hf
  taken _ _ _ ht hl := step_taken hs h ht hl

end Step

/-! ## Whose tasks are aborted -/

/-- A task that is aborted is the forwarder of a start whose session left the
registry, a TTL task of a session that is shut down or attached to, or belongs
to a runtime that is replaced or failed to start. -/
theorem aborted_cases {tid i : TaskId} {t u : Task} (hs : s.Handles) (ht : s.tasks.lookup tid = some t)
    (hu : s.tasks.lookup i = some u) (hi : i ∈ (s.store.resume env s.nextTask t).aborted) :
    (∃ k, t.startsWith = some (k, i) ∧ s.store.runtimes.lookup k = none ∧ u.forwards = some k) ∨
    (∃ k live, t.shutsDown = some (k, live) ∧ u.timerOf = some k) ∨
    (∃ req session, t = .attachGet req ∧ u.timerOf = some req.sessionId ∧
      s.store.sessions.lookup req.sessionId = some session ∧ session.status ≠ .closed) ∨
    (∃ owner k pty fwd e, t = .startReget owner k pty fwd ∧ s.store.runtimes.lookup k = some e ∧ i ∈ e.tasks) ∨
    ∃ k category, t = .failedEvent k category := by
  have ha := resume_aborted s.store env s.nextTask t
  generalize (s.store.resume env s.nextTask t).aborted = l at ha hi
  cases ha with
  | nothing => cases hi
  | replaced owner k pty fwd e found => exact .inr (.inr (.inr (.inl ⟨owner, k, pty, fwd, e, rfl, found, hi⟩)))
  | leftover owner k pty fwd gone =>
    obtain rfl := List.mem_singleton.1 hi
    exact .inl ⟨k, rfl, gone, (hs.forwarder tid _ k i ht rfl).2 u hu⟩
  | failed k category => exact .inr (.inr (.inr (.inr ⟨k, category, rfl⟩)))
  | dropped k live session already =>
    have hfwd := hs.taken tid _ live ht rfl
    simp only [LiveRuntime.tasks, hfwd, Option.toList_none, List.nil_append, Option.mem_toList,
      Option.map_eq_some_iff] at hi
    obtain ⟨d, hd, rfl⟩ := hi
    exact .inr (.inl ⟨k, live, rfl, (hs.dropped tid _ k live d ht rfl hd).2 u hu⟩)
  | cancelled req d session pending row unclosed =>
    obtain rfl := List.mem_singleton.1 hi
    exact .inr (.inr (.inl ⟨req, session, rfl, (hs.timer _ d pending).2 u hu, row, unclosed⟩))

end RelayTerm.Session
