import RelayTerm.Session.Alone
import RelayTerm.Session.Handles
import RelayTerm.Session.Runtimes
/-!
# The birth of sessions

A session's row is inserted before its registry entry, and the entry before
anybody starts it; neither happens twice. This holds in all runs in which no
start fails. Before it, what a call and a stretch do to the task pool.
-/
open RelayTerm.Lib

namespace RelayTerm.Session

variable {st : Store} {env : Env} {s s' : Sys} {sid : SessionId}

/-- The session a start is about to promote. -/
def Task.promotes : Task → Option SessionId
  | .startReget _ sid _ _ => some sid
  | _ => none

/-- No start fails, and none promotes a session that is live. -/
def StartsOnce (s : Sys) : Event → Prop
  | .call c => c.isStartFailed = false
  | .resume tid _ => ∀ k ∈ (s.tasks.lookup tid).bind Task.promotes, s.store.live k = none

instance (s : Sys) : (e : Event) → Decidable (StartsOnce s e)
  | .call _ => inferInstanceAs (Decidable (_ = _))
  | .resume _ _ => inferInstanceAs (Decidable (∀ k ∈ _, _))

/-- The session a start is past its checks for. -/
def Task.starts (t : Task) : Option SessionId := t.startsWith.map Prod.fst

/-- The session `create_session` has inserted the row of. -/
def Task.creates : Task → Option SessionId
  | .createEvent sid _ => some sid
  | _ => none

/-! ## A call -/

/-- The await points calls begin with. -/
def Task.isFirst : Task → Bool
  | .createInsert _ | .startGet _ _ _ | .closeGet _ _ _ | .attachGet _ | .detachGet _ | .writeInput _ _
  | .applyResize _ _ _ | .resizeGet _ _ _ _ => true
  | _ => false

theorem enter_first {c : Call} (hc : c.isStartFailed = false) :
    (st.enter c).store = st ∧ (st.enter c).aborted = [] ∧ ∀ t, (st.enter c).next = .await t → t.isFirst := by
  cases c <;> first | grind [Task.isFirst] | cases hc

/-- Nothing is known of the task. -/
structure Task.Plain (t : Task) : Prop where
  starts : t.starts = none
  creates : t.creates = none
  shutsDown : t.shutsDown = none
  kind : t.kind ≠ .failed

theorem isFirst_plain {t : Task} (h : t.isFirst) : t.Plain := by
  cases t <;> cases h <;> exact ⟨rfl, rfl, rfl, fun hk => by cases hk⟩

section Call

variable {c : Call} (hc : c.isStartFailed = false) (h : s.step (.call c) = some s')
include hc h

theorem call_store : s'.store = s.store := by
  cases h
  exact (enter_first hc).1

theorem call_task {i : TaskId} {t : Task} (ht : s'.tasks.lookup i = some t) :
    s.tasks.lookup i = some t ∨ t.isFirst := by
  cases h
  rcases entered_task ht with ⟨-, hn⟩ | ⟨-, hold⟩
  · exact .inr ((enter_first hc).2.2 t hn)
  · exact .inl hold

theorem call_kept (hids : s.IdsFresh) {i : TaskId} {t : Task} (ht : s.tasks.lookup i = some t) :
    s'.tasks.lookup i = some t := by
  cases h
  have hi := hids i t ht
  refine settle_kept ht (Nat.ne_of_lt hi) (Nat.ne_of_lt (Nat.lt_succ_of_lt hi)) ?_
  rw [(enter_first hc).2.1]
  exact List.not_mem_nil

end Call

/-! ## A stretch of a task -/

section Entry

variable {t : Task} {entry : Option RuntimeEntry}

/-- An entry that is there after a stretch was there before, or has just been created. -/
theorem EntryChange.isSome (w : EntryChange st t sid entry) (h : entry.isSome) :
    (st.runtimes.lookup sid).isSome ∨ t.creates = some sid := by
  cases w with
  | same => exact .inl h
  | added session ht =>
    subst ht
    exact .inr rfl
  | promoted owner pty forwarder e ht found =>
    rw [found]
    exact .inl rfl
  | removed => cases h
  | reshaped f hf => exact .inl (by simpa using h)

/-- An entry that a stretch takes out. -/
theorem EntryChange.isNone (w : EntryChange st t sid entry) (hold : (st.runtimes.lookup sid).isSome)
    (h : entry = none) :
    t.removes = some sid ∧ ∀ origin owner, t = .closeGet origin sid owner →
      ∃ row, st.sessions.lookup sid = some row ∧ row.status = .closed := by
  cases w with
  | same =>
    rw [h] at hold
    cases hold
  | added | promoted => cases h
  | removed ht closed => exact ⟨ht, closed⟩
  | reshaped f hf =>
    rw [Option.map_eq_none_iff.1 h] at hold
    cases hold

/-- A stretch makes a session live only by promoting it. -/
theorem EntryChange.live (w : EntryChange st t sid entry) (hold : st.live sid = none)
    (h : (entry.bind (·.live)).isSome) :
    (st.runtimes.lookup sid).isSome ∧ t.promotes = some sid := by
  have hnone : ∀ e, st.runtimes.lookup sid = some e → e.live = none := by
    intro e he
    rw [Store.live, he] at hold
    exact hold
  cases w with
  | same =>
    rw [show (st.runtimes.lookup sid).bind (·.live) = none from hold] at h
    cases h
  | added session ht => cases h
  | promoted owner pty forwarder e ht found =>
    subst ht
    rw [found]
    exact ⟨rfl, rfl⟩
  | removed => cases h
  | reshaped f hf =>
    cases he : st.runtimes.lookup sid with
    | none =>
      rw [he] at h
      cases h
    | some e =>
      have hshape : (f e).live.isSome = e.live.isSome := congrArg (·.2.2) (hf e)
      rw [he] at h
      rw [hnone e he] at hshape
      simp only [Option.map_some, Option.bind_some] at h
      rw [h] at hshape
      cases hshape

end Entry

theorem resume_starts {fresh : TaskId} {t u : Task} (h : (st.resume env fresh t).next = .await u)
    (hu : u.starts = some sid) :
    t.starts = some sid ∨ ((∃ row, st.sessions.lookup sid = some row ∧ row.status ≠ .closed) ∧
      (st.runtimes.lookup sid).isSome ∧ t.kind = .start) := by
  cases resume_edge fresh h <;> cases hu
  case startGate =>
    exact .inr ⟨⟨_, ‹_›, ‹_›⟩, by simpa [Option.isSome_iff_ne_none] using ‹¬ Option.isNone _ = true›, rfl⟩
  case startActive => exact .inl rfl

theorem resume_creates {fresh : TaskId} {t u : Task} (h : (st.resume env fresh t).next = .await u)
    (hu : u.creates = some sid) :
    st.sessions.lookup sid = none ∧ ((st.resume env fresh t).store.sessions.lookup sid).isSome ∧
      (st.resume env fresh t).store.runtimes = st.runtimes := by
  cases t
  case createInsert req =>
    simp only [Store.resume, Store.createInsert] at h ⊢
    cases hc : st.createSession env req with
    | error e =>
      rw [hc] at h
      cases h
    | ok out =>
      obtain ⟨session, st'⟩ := out
      obtain ⟨hnew, -, hst'⟩ := Store.createSession_ok hc
      rw [hc] at h
      cases h
      cases hu
      refine ⟨hnew, ?_, ?_⟩ <;> simp [Store.await, hst']
  all_goals
    have he := resume_edge fresh h
    cases he <;> cases hu

/-- A shutdown begins where the entry is taken out. -/
theorem shutdown_removed {fresh : TaskId} {t u : Task} {live : LiveRuntime}
    (h : (st.resume env fresh t).next = .await u)
    (hu : u.shutsDown = some (sid, live)) (ht : t.shutsDown = none) :
    (st.resume env fresh t).store.runtimes = st.runtimes.erase sid := by
  cases hedge : resume_edge fresh h <;> cases hu <;> cases ht
  case closeStale origin owner session hlive hrow hst =>
    simp only [Store.resume, Store.closeGet] at h ⊢
    split at h
    · cases h
    · split at h
      · rw [if_pos ‹_›, closeRemove_runtimes]
      · cases h
  case closeRemoved origin owner session hlive =>
    simp only [Store.resume, Store.closeReget] at h ⊢
    split at h
    · cases h
    · rw [closeRemove_runtimes]

theorem spawned_plain {fresh : TaskId} {t u : Task} (h : (st.resume env fresh t).spawned = some u) : u.Plain := by
  rcases resume_spawned fresh h with ⟨_, _, _, _, rfl⟩ | ⟨_, _, _, rfl⟩ <;>
    exact ⟨rfl, rfl, rfl, fun hk => by cases hk⟩

section Pool

variable {tid : TaskId} {t : Task} (ht : s.tasks.lookup tid = some t)
  (h : s' = s.settle tid s.nextTask (s.store.resume env s.nextTask t))

include h in
theorem resumed_task {i : TaskId} {u : Task} (hu : s'.tasks.lookup i = some u) :
    (s.store.resume env s.nextTask t).spawned = some u ∨ (i = tid ∧ (s.store.resume env s.nextTask t).next = .await u) ∨
      (i ≠ tid ∧ s.tasks.lookup i = some u) := by
  subst h
  obtain ⟨-, ⟨-, hsp⟩ | hn | hold⟩ := settle_task hu
  · exact .inl hsp
  · exact .inr (.inl hn)
  · exact .inr (.inr hold)

include ht h in
/-- Where nothing is aborted, a task that goes on is found at its next await point. -/
theorem resumed_next (hids : s.IdsFresh) {u : Task} (hn : (s.store.resume env s.nextTask t).next = .await u)
    (ha : (s.store.resume env s.nextTask t).aborted = []) : s'.tasks.lookup tid = some u := by
  subst h
  refine settle_next hn (Nat.ne_of_lt (hids tid t ht)) ?_
  rw [ha]
  exact List.not_mem_nil

include h in
theorem resumed_kept (hids : s.IdsFresh) {i : TaskId} {u : Task} (hu : s.tasks.lookup i = some u) (hi : i ≠ tid)
    (ha : i ∉ (s.store.resume env s.nextTask t).aborted) : s'.tasks.lookup i = some u := by
  subst h
  exact settle_kept hu hi (Nat.ne_of_lt (hids i u hu)) ha

include ht h in
theorem resumed_step : s.step (.resume tid env) = some s' := by
  subst h
  simp only [Sys.step, ht, Option.map_some]

include h in
theorem resumed_entry (k : SessionId) : EntryChange s.store t k (s'.store.runtimes.lookup k) := by
  subst h
  exact (resume_registry s.store env s.nextTask t).entry k

end Pool

/-! ## The invariant -/

structure Sys.Births (s : Sys) : Prop where
  unfailed : ∀ i t, s.tasks.lookup i = some t → t.kind ≠ .failed
  rows : ∀ k, (s.store.runtimes.lookup k).isSome → (s.store.sessions.lookup k).isSome
  started : ∀ i t k, s.tasks.lookup i = some t → t.starts = some k → (s.store.sessions.lookup k).isSome
  unborn : ∀ i t k, s.tasks.lookup i = some t → t.creates = some k → (s.store.sessions.lookup k).isSome ∧
    s.store.runtimes.lookup k = none ∧ ∀ j u, s.tasks.lookup j = some u → u.starts ≠ some k
  once : Registry.Exclusive Task.creates s.tasks

theorem init_births (ttl : Nat) : (Sys.init ttl).Births where
  unfailed := by simp [Sys.init]
  rows := by simp [Sys.init, Store.init]
  started := by simp [Sys.init]
  unborn := by simp [Sys.init]
  once := .empty

theorem call_births {c : Call} (hc : c.isStartFailed = false) (h : s.step (.call c) = some s') (hs : s.Births) :
    s'.Births := by
  have hstore := call_store hc h
  refine ⟨fun i t ht => ?_, fun k he => ?_, fun i t k ht hk => ?_, fun i t k ht hk => ?_,
    fun i j t u k ht hu hk hk' => ?_⟩
  · rcases call_task hc h ht with hold | hfirst
    · exact hs.unfailed i t hold
    · exact (isFirst_plain hfirst).kind
  · rw [hstore] at he ⊢
    exact hs.rows k he
  · rcases call_task hc h ht with hold | hfirst
    · rw [hstore]
      exact hs.started i t k hold hk
    · rw [(isFirst_plain hfirst).starts] at hk
      cases hk
  · rcases call_task hc h ht with hold | hfirst
    · rw [hstore]
      obtain ⟨hrow, hnone, hstart⟩ := hs.unborn i t k hold hk
      refine ⟨hrow, hnone, fun j u hu => ?_⟩
      rcases call_task hc h hu with hold' | hfirst
      · exact hstart j u hold'
      · rw [(isFirst_plain hfirst).starts]
        simp
    · rw [(isFirst_plain hfirst).creates] at hk
      cases hk
  · rcases call_task hc h ht with hold | hfirst
    · rcases call_task hc h hu with hold' | hfirst
      · exact hs.once i j t u k hold hold' hk hk'
      · rw [(isFirst_plain hfirst).creates] at hk'
        cases hk'
    · rw [(isFirst_plain hfirst).creates] at hk
      cases hk

section Resume

variable {tid : TaskId} {t : Task} (hs : s.Births) (ht : s.tasks.lookup tid = some t)
  (h : s' = s.settle tid s.nextTask (s.store.resume env s.nextTask t))

include hs ht h in
/-- A session whose row has just been inserted is in nobody else's hands. -/
theorem resumed_unborn {i : TaskId} {k : SessionId} {u : Task} (hu : s'.tasks.lookup i = some u)
    (hk : u.creates = some k) : (s'.store.sessions.lookup k).isSome ∧ s'.store.runtimes.lookup k = none ∧
      ∀ j v, s'.tasks.lookup j = some v → v.starts ≠ some k := by
  rcases resumed_task h hu with hsp | ⟨-, hn⟩ | ⟨hi, hold⟩
  · rw [(spawned_plain hsp).creates] at hk
    cases hk
  · obtain ⟨hnew, hrow, hrt⟩ := resume_creates hn hk
    have hnone : s.store.runtimes.lookup k = none := by
      by_contra hne
      have := hs.rows k (Option.isSome_iff_ne_none.2 hne)
      rw [hnew] at this
      cases this
    refine ⟨by subst h; exact hrow, by subst h; exact (congrArg (AList.lookup k) hrt).trans hnone, fun j v hv => ?_⟩
    rcases resumed_task h hv with hsp | ⟨-, hn'⟩ | ⟨-, hold⟩
    · rw [(spawned_plain hsp).starts]
      simp
    · cases hn.symm.trans hn'
      cases u <;> cases hk
      simp [Task.starts, Task.startsWith]
    · intro hst
      have hrow := hs.started j v k hold hst
      rw [hnew] at hrow
      cases hrow
  · obtain ⟨hrow, hnone, hstart⟩ := hs.unborn i u k hold hk
    refine ⟨by subst h; exact resume_rows s.nextTask t hrow, ?_, fun j v hv => ?_⟩
    · by_contra hne
      rcases (resumed_entry h k).isSome (Option.isSome_iff_ne_none.2 hne) with hsome | hcreates
      · rw [hnone] at hsome
        cases hsome
      · exact hi (hs.once i tid u t k hold ht hk hcreates)
    · rcases resumed_task h hv with hsp | ⟨-, hn⟩ | ⟨-, hold'⟩
      · rw [(spawned_plain hsp).starts]
        simp
      · intro hst
        rcases resume_starts hn hst with hst' | ⟨-, hsome, -⟩
        · exact hstart tid t ht hst'
        · rw [hnone] at hsome
          cases hsome
      · exact hstart j v hold'

include hs h in
theorem resumed_once : Registry.Exclusive Task.creates s'.tasks := by
  -- a new row has an id that no other task has
  have alone : ∀ i u v k, i ≠ tid → s.tasks.lookup i = some u → u.creates = some k →
      (s.store.resume env s.nextTask t).next = .await v → v.creates ≠ some k := by
    intro i u v k _ hu hk hn hv
    have hrow := (hs.unborn i u k hu hk).1
    rw [(resume_creates hn hv).1] at hrow
    cases hrow
  intro i j u v k hu hv hk hk'
  rcases resumed_task h hu with hsp | ⟨hi, hn⟩ | ⟨hi, hold⟩
  · rw [(spawned_plain hsp).creates] at hk
    cases hk
  · rcases resumed_task h hv with hsp | ⟨hj, -⟩ | ⟨hj, hold'⟩
    · rw [(spawned_plain hsp).creates] at hk'
      cases hk'
    · exact hi.trans hj.symm
    · exact absurd hk (alone j v u k hj hold' hk' hn)
  · rcases resumed_task h hv with hsp | ⟨hj, hn⟩ | ⟨hj, hold'⟩
    · rw [(spawned_plain hsp).creates] at hk'
      cases hk'
    · exact absurd hk' (alone i u v k hi hold hk hn)
    · exact hs.once i j u v k hold hold' hk hk'

include hs ht h in
theorem resume_births : s'.Births := by
  refine ⟨fun i u hu => ?_, fun k he => ?_, fun i u k hu hk => ?_, fun i u k hu hk => resumed_unborn hs ht h hu hk,
    resumed_once hs h⟩
  · rcases resumed_task h hu with hsp | ⟨-, hn⟩ | ⟨-, hold⟩
    · exact (spawned_plain hsp).kind
    · rw [(resume_edge _ hn).kind]
      exact hs.unfailed tid t ht
    · exact hs.unfailed i u hold
  · have hrow : (s.store.sessions.lookup k).isSome := by
      rcases (resumed_entry h k).isSome he with hold | hcreates
      · exact hs.rows k hold
      · exact (hs.unborn tid t k ht hcreates).1
    subst h
    exact resume_rows s.nextTask t hrow
  · have hrow : (s.store.sessions.lookup k).isSome := by
      rcases resumed_task h hu with hsp | ⟨-, hn⟩ | ⟨-, hold⟩
      · rw [(spawned_plain hsp).starts] at hk
        cases hk
      · rcases resume_starts hn hk with hst | ⟨⟨row, hrow, -⟩, -, -⟩
        · exact hs.started tid t k ht hst
        · rw [hrow]
          rfl
      · exact hs.started i u k hold hk
    subst h
    exact resume_rows s.nextTask t hrow

end Resume

end RelayTerm.Session
