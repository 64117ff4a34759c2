import RelayTerm.Session.Births
/-!
# Who holds the runtime of a session

A live runtime is never shared: it is in the hands of the start that built it,
then in the registry, then in the hands of the close that took it out, which
shuts it down. No task that holds one is aborted, so a runtime that has been
started is registered, or held, or has been shut down.
-/
open RelayTerm.Lib

namespace RelayTerm.Session

variable {st : Store} {env : Env} {s s' : Sys} {sid : SessionId}

/-- The session whose runtime is in the task's hands. -/
def Task.holds : Task → Option SessionId
  | .startSetActive _ sid _ _ _ | .startReget _ sid _ _ => some sid
  | .shutdownHandle sid _ _ _ | .shutdownForwarder sid _ _ _ | .shutdownRecording sid _ _ _ => some sid
  | _ => none

/-- The session whose recording the task seals; its runtime is dropped when that is done. -/
def Task.seals : Task → Option SessionId
  | .shutdownRecording sid _ _ _ => some sid
  | _ => none

/-- No task holds the runtime of `sid`. -/
def Sys.NoHolder (sid : SessionId) (s : Sys) : Prop := ∀ i t, s.tasks.lookup i = some t → t.holds ≠ some sid

/-- Task `i` alone holds the runtime of `sid`. -/
structure Sys.HeldBy (sid : SessionId) (s : Sys) (i : TaskId) (t : Task) : Prop where
  task : s.tasks.lookup i = some t
  holds : t.holds = some sid
  alone : ∀ j u, s.tasks.lookup j = some u → u.holds = some sid → j = i
  unlive : s.store.live sid = none

/-- The registry holds the runtime of `sid`. -/
structure Sys.Registered (sid : SessionId) (s : Sys) : Prop where
  live : (s.store.live sid).isSome
  alone : s.NoHolder sid

/-- There is no runtime of `sid`. -/
structure Sys.Unheld (sid : SessionId) (s : Sys) : Prop where
  unlive : s.store.live sid = none
  alone : s.NoHolder sid

/-- The outcome of a start that did not come to a live runtime. -/
def Next.failsStart : Next → Bool
  | .ret (.failed _) | .await (.startLeftoverClose _) => true
  | _ => false

/-- Sessions are started once, and every start past its checks comes to a live runtime. -/
def StartsWell (s : Sys) (e : Event) : Prop :=
  StartsOnce s e ∧ match e with
    | .call _ => True
    | .resume tid env => ∀ t ∈ s.tasks.lookup tid, t.starts.isSome →
      (s.store.resume env s.nextTask t).next.failsStart = false

instance (s : Sys) : (e : Event) → Decidable (StartsWell s e)
  | .call _ => inferInstanceAs (Decidable (_ ∧ True))
  | .resume _ _ => inferInstanceAs (Decidable (_ ∧ ∀ t ∈ _, _))

/-! ## What a stretch does to the runtime -/

theorem holds_of_promotes {t : Task} (h : t.promotes = some sid) : t.holds = some sid := by
  cases t <;> cases h
  rfl

theorem holds_of_seals {t : Task} (h : t.seals = some sid) : t.holds = some sid := by
  cases t <;> cases h
  rfl

theorem seals_eq_none {t : Task} (hk : t.holds = some sid) (h : t.seals ≠ some sid) : t.seals = none := by
  cases t <;> cases hk <;> first | rfl | exact absurd rfl h

theorem Task.Plain.holds {t : Task} (h : t.Plain) : t.holds = none := by
  obtain ⟨hst, -, hsd, -⟩ := h
  cases t <;> first | rfl | (cases hst; done) | cases hsd

/-- A stretch that ends with a live runtime gone has taken its entry out, or has created the session anew. -/
theorem EntryChange.unlive {t : Task} {entry : Option RuntimeEntry} (w : EntryChange st t sid entry)
    (hold : (st.live sid).isSome) (h : entry.bind (·.live) = none) :
    (t.removes = some sid ∧ entry = none) ∨ t.creates = some sid := by
  cases w with
  | same =>
    rw [show st.live sid = none from h] at hold
    cases hold
  | added session ht =>
    subst ht
    exact .inr rfl
  | promoted => cases h
  | removed ht => exact .inl ⟨ht, rfl⟩
  | reshaped f hf =>
    obtain ⟨live, hlive⟩ := Option.isSome_iff_exists.1 hold
    obtain ⟨e, he, hel⟩ := Option.bind_eq_some_iff.1 hlive
    have hshape : (f e).live.isSome = e.live.isSome := congrArg (·.2.2) (hf e)
    rw [he, Option.map_some, Option.bind_some] at h
    rw [h, hel] at hshape
    cases hshape

/-- Who takes a live runtime out of the registry goes on to shut it down. -/
theorem removed_shutdown {fresh : TaskId} {t : Task} {live : LiveRuntime} (hlive : st.live sid = some live)
    (ht : t.removes = some sid) (hk : t.kind ≠ .failed)
    (hgone : (st.resume env fresh t).store.runtimes.lookup sid = none) :
    ∃ session already, (st.resume env fresh t).next = .await (.shutdownHandle sid live session already) ∧
      (st.resume env fresh t).aborted = [] := by
  have hthere : st.runtimes.lookup sid ≠ none := by
    intro hnone
    rw [Store.live, hnone] at hlive
    cases hlive
  have hremove : ∀ session already, (st.closeRemove sid session already).next =
      .await (.shutdownHandle sid live session already) ∧ (st.closeRemove sid session already).aborted = [] := by
    intro session already
    simp only [Store.closeRemove, hlive]
    exact ⟨rfl, rfl⟩
  cases t <;> cases ht
  case failedEvent => exact absurd rfl hk
  case closeGet origin owner =>
    simp only [Store.resume, Store.closeGet] at hgone ⊢
    split
    · next hget =>
      rw [hget] at hgone
      exact absurd hgone hthere
    · next session hget =>
      rw [hget] at hgone
      split
      · exact ⟨session, true, hremove session true⟩
      · next hopen =>
        simp only [if_neg hopen] at hgone
        exact absurd hgone hthere
  case closeReget origin owner =>
    simp only [Store.resume, Store.closeReget] at hgone ⊢
    split
    · next hget =>
      rw [hget] at hgone
      exact absurd hgone hthere
    · next session hget => exact ⟨session, false, hremove session false⟩

theorem startGet_spawns {owner : UserId} {pty : PtyId} {fresh : TaskId}
    (h : (st.startGet env fresh owner sid pty).spawned.isSome) :
    ∃ u, (st.startGet env fresh owner sid pty).next = .await u ∧ u.holds = some sid := by
  unfold Store.startGet at h ⊢
  split at h
  · cases h
  · split at h
    · cases h
    · split at h
      · cases h
      · simp [*, Store.await, Task.holds]

theorem startGet_await {owner : UserId} {pty : PtyId} {fresh : TaskId} {u : Task}
    (h : (st.startGet env fresh owner sid pty).next = .await u) :
    (st.startGet env fresh owner sid pty).spawned.isSome ∧ (st.startGet env fresh owner sid pty).aborted = [] := by
  unfold Store.startGet at h ⊢
  split at h
  · cases h
  · split at h
    · cases h
    · split at h
      · cases h
      · simp [*, Store.await]

/-- A task comes to hold a runtime by taking it out of the registry, or by starting it. -/
theorem resume_holds {fresh : TaskId} {t u : Task} (h : (st.resume env fresh t).next = .await u)
    (hu : u.holds = some sid) :
    t.holds = some sid ∨
    ((st.live sid).isSome ∧ (st.resume env fresh t).store.runtimes.lookup sid = none) ∨
    ∃ owner pty, t = .startGet owner sid pty ∧ (st.resume env fresh t).spawned.isSome ∧ u.starts = some sid ∧
      (st.resume env fresh t).aborted = [] := by
  cases resume_edge fresh h <;> cases hu
  case startGate owner pty session _ _ _ =>
    obtain ⟨hsp, ha⟩ := startGet_await h
    exact .inr (.inr ⟨owner, pty, rfl, hsp, rfl, ha⟩)
  case closeStale | closeRemoved =>
    refine .inr (.inl ⟨Option.isSome_iff_exists.2 ⟨_, ‹_›⟩, ?_⟩)
    rw [shutdown_removed h rfl rfl, AList.lookup_erase]
  all_goals exact .inl rfl

/-- What a holder does: it goes on, puts the runtime into the registry, or is done with it. -/
inductive HolderStep (sid : SessionId) (st : Store) (t : Task) (o : Out) : Prop where
  | goesOn (u : Task) (unsealed : t.seals = none) (next : o.next = .await u) (holds : u.holds = some sid)
      (aborted : o.aborted = []) (runtimes : o.store.runtimes = st.runtimes)
  | registers (r : Outcome) (unsealed : t.seals = none) (next : o.next = .ret r) (live : (o.store.live sid).isSome)
  | drops (r : Outcome) (sealed : t.seals = some sid) (next : o.next = .ret r)
      (runtimes : o.store.runtimes = st.runtimes)

theorem holder_resume (st : Store) (env : Env) (fresh : TaskId) {t : Task} (hk : t.holds = some sid)
    (hwell : t.starts.isSome → (st.resume env fresh t).next.failsStart = false) :
    HolderStep sid st t (st.resume env fresh t) := by
  cases t <;> cases hk
  case startSetActive owner session pty fwd =>
    have hwell := hwell rfl
    simp only [Store.resume, Store.startSetActive] at hwell ⊢
    split
    · next hset =>
      rw [hset] at hwell
      cases hwell
    · next hset =>
      obtain ⟨row, -, rfl⟩ := Store.setStatus_ok hset
      exact .goesOn _ rfl rfl rfl rfl rfl
  case startReget owner pty fwd =>
    have hwell := hwell rfl
    simp only [Store.resume, Store.startReget] at hwell ⊢
    split
    · next hget =>
      rw [hget] at hwell
      cases hwell
    · next hget =>
      rw [hget] at hwell
      split
      · exact .registers _ rfl rfl (by simp [Store.ret, Store.live])
      · next hgone =>
        simp only [hgone] at hwell
        cases hwell
  case shutdownHandle live session already =>
    simp only [Store.resume, Store.shutdownHandle]
    split <;> exact .goesOn _ rfl rfl rfl rfl rfl
  case shutdownForwarder live session already => exact .goesOn _ rfl rfl rfl rfl rfl
  case shutdownRecording live session already =>
    simp only [Store.resume, Store.shutdownRecording, Store.closeDone]
    split <;> exact .drops _ rfl rfl rfl

/-! ## The holder goes on -/

theorem call_noHolder {c : Call} (hc : c.isStartFailed = false) (h : s.step (.call c) = some s')
    (hs : s.NoHolder sid) : s'.NoHolder sid := by
  intro i t ht
  rcases call_task hc h ht with hold | hfirst
  · exact hs i t hold
  · rw [(isFirst_plain hfirst).holds]
    simp

theorem call_heldBy {c : Call} {i : TaskId} {t : Task} (hc : c.isStartFailed = false)
    (h : s.step (.call c) = some s') (hids : s.IdsFresh) (hs : s.HeldBy sid i t) : s'.HeldBy sid i t := by
  refine ⟨call_kept hc h hids hs.task, hs.holds, fun j u hu hk => ?_, by rw [call_store hc h]; exact hs.unlive⟩
  rcases call_task hc h hu with hold | hfirst
  · exact hs.alone j u hold hk
  · rw [(isFirst_plain hfirst).holds] at hk
    cases hk

section Resume

variable {tid : TaskId} {t : Task} (hs : s.Handles) (hb : s.Births) (hok : StartsOnce s (.resume tid env))
  (ht : s.tasks.lookup tid = some t) (h : s' = s.settle tid s.nextTask (s.store.resume env s.nextTask t))

include hs hb hok ht in
/-- A task that holds a runtime is aborted by nobody else. -/
theorem holder_kept {i : TaskId} {u : Task} (hu : s.HeldBy sid i u) (hi : i ≠ tid) :
    i ∉ (s.store.resume env s.nextTask t).aborted := by
  intro hmem
  have hshut : ∀ k, u.timerOf = some k → k = sid ∧ u.starts = none := by
    intro k hk
    have := hu.holds
    cases u <;> cases this <;> cases hk <;> exact ⟨rfl, rfl⟩
  have ha := resume_aborted s.store env s.nextTask t
  generalize (s.store.resume env s.nextTask t).aborted = l at ha hmem
  cases ha with
  | nothing => cases hmem
  | replaced owner k pty fwd e found =>
    -- a session that is started once is not live when it is promoted
    have hlive : s.store.live k = none := hok k (by rw [ht]; rfl)
    rw [Store.live, found] at hlive
    have hnone : e.live = none := hlive
    rw [RuntimeEntry.tasks, hnone] at hmem
    cases hmem
  | leftover owner k pty fwd gone =>
    obtain rfl := List.mem_singleton.1 hmem
    have hfwd := (hs.forwarder tid _ k i ht rfl).2 u hu.task
    have := hu.holds
    cases u <;> cases this <;> cases hfwd
  | failed k category => exact hb.unfailed tid _ ht rfl
  | dropped k live session already =>
    have hfwd := hs.taken tid _ live ht rfl
    simp only [LiveRuntime.tasks, hfwd, Option.toList_none, List.nil_append, Option.mem_toList,
      Option.map_eq_some_iff] at hmem
    obtain ⟨d, hd, rfl⟩ := hmem
    obtain ⟨rfl, -⟩ := hshut k ((hs.dropped tid _ k live d ht rfl hd).2 u hu.task)
    exact hi (hu.alone tid _ ht rfl).symm
  | cancelled req d session pending =>
    obtain rfl := List.mem_singleton.1 hmem
    obtain ⟨rfl, -⟩ := hshut _ ((hs.timer _ d pending).2 u hu.task)
    rw [Store.pendingClose, hu.unlive] at pending
    cases pending

include h in
theorem resumed_live_none {k : SessionId} (hlive : s.store.live k = none) (hp : t.holds ≠ some k) :
    s'.store.live k = none := by
  by_contra hne
  exact hp (holds_of_promotes ((resumed_entry h k).live hlive (Option.isSome_iff_ne_none.2 hne)).2)

include h in
/-- A task that comes to hold the runtime is the one resumed. -/
theorem resumed_holder {i : TaskId} {u : Task} (hu : s'.tasks.lookup i = some u) (hk : u.holds = some sid) :
    (i = tid ∧ (s.store.resume env s.nextTask t).next = .await u) ∨ (i ≠ tid ∧ s.tasks.lookup i = some u) := by
  rcases resumed_task h hu with hsp | hn | hold
  · rw [(spawned_plain hsp).holds] at hk
    cases hk
  · exact .inl hn
  · exact .inr hold

include hs hb hok ht h in
/-- While one task holds the runtime, another changes nothing. -/
theorem heldBy_other {i : TaskId} {u : Task} (hu : s.HeldBy sid i u) (hi : i ≠ tid)
    (hstart : ∀ owner pty, t = .startGet owner sid pty → (s.store.resume env s.nextTask t).spawned = none) :
    s'.HeldBy sid i u := by
  have hnot : t.holds ≠ some sid := fun hk => hi (hu.alone tid t ht hk).symm
  refine ⟨resumed_kept h hs.ids hu.task hi (holder_kept hs hb hok ht hu hi), hu.holds, fun j v hv hk => ?_,
    resumed_live_none h hu.unlive hnot⟩
  rcases resumed_holder h hv hk with ⟨-, hn⟩ | ⟨-, hold⟩
  · rcases resume_holds hn hk with hold | ⟨hlive, -⟩ | ⟨owner, pty, rfl, hsp, -⟩
    · exact absurd hold hnot
    · rw [hu.unlive] at hlive
      cases hlive
    · rw [hstart owner pty rfl] at hsp
      cases hsp
  · exact hu.alone j v hold hk

include hs ht h in
/-- The holder itself: it goes on, hands the runtime to the registry, or has shut it down. -/
theorem heldBy_own (hu : s.HeldBy sid tid t)
    (hwell : t.starts.isSome → (s.store.resume env s.nextTask t).next.failsStart = false) :
    (t.seals = none ∧ ((∃ u, (s.store.resume env s.nextTask t).next = .await u ∧ s'.HeldBy sid tid u) ∨
      (∃ r, (s.store.resume env s.nextTask t).next = .ret r) ∧ s'.Registered sid)) ∨
    (t.seals = some sid ∧ s'.Unheld sid) := by
  have returns : ∀ r, (s.store.resume env s.nextTask t).next = .ret r → s'.NoHolder sid := by
    intro r hr j v hv hk
    rcases resumed_holder h hv hk with ⟨-, hn⟩ | ⟨hj, hold⟩
    · cases hr.symm.trans hn
    · exact hj (hu.alone j v hold hk)
  have unlive : (s.store.resume env s.nextTask t).store.runtimes = s.store.runtimes → s'.store.live sid = none := by
    intro hrt
    subst h
    have hunlive := hu.unlive
    rw [Store.live] at hunlive ⊢
    exact (congrArg (fun r => (AList.lookup sid r).bind fun e => e.live) hrt).trans hunlive
  cases holder_resume s.store env s.nextTask hu.holds hwell with
  | goesOn u unsealed next holds aborted runtimes =>
    refine .inl ⟨unsealed, .inl ⟨u, next, resumed_next ht h hs.ids next aborted, holds, fun j v hv hk => ?_,
      unlive runtimes⟩⟩
    rcases resumed_holder h hv hk with ⟨hj, -⟩ | ⟨-, hold⟩
    · exact hj
    · exact hu.alone j v hold hk
  | registers r unsealed next live =>
    exact .inl ⟨unsealed, .inr ⟨⟨r, next⟩, by subst h; exact live, returns r next⟩⟩
  | drops r sealed next runtimes => exact .inr ⟨sealed, unlive runtimes, returns r next⟩

include hs hb ht h in
/-- A registered runtime stays registered until a close takes it out. -/
theorem registered_step (hr : s.Registered sid)
    (hstart : ∀ owner pty, t = .startGet owner sid pty → (s.store.resume env s.nextTask t).spawned = none) :
    s'.Registered sid ∨ ∃ live session already, (s.store.resume env s.nextTask t).next =
      .await (.shutdownHandle sid live session already) ∧
      s'.HeldBy sid tid (.shutdownHandle sid live session already) := by
  have hnot : ∀ j v, s'.tasks.lookup j = some v → v.holds = some sid →
      j = tid ∧ (s.store.resume env s.nextTask t).next = .await v := by
    intro j v hv hk
    rcases resumed_holder h hv hk with hn | ⟨-, hold⟩
    · exact hn
    · exact absurd hk (hr.alone j v hold)
  obtain ⟨live, hlive⟩ := Option.isSome_iff_exists.1 hr.live
  by_cases hafter : (s'.store.live sid).isSome
  · left
    refine ⟨hafter, fun j v hv hk => ?_⟩
    obtain ⟨-, hn⟩ := hnot j v hv hk
    rcases resume_holds hn hk with hold | ⟨-, hgone⟩ | ⟨owner, pty, rfl, hsp, -⟩
    · exact hr.alone tid t ht hold
    · have hgone' : s'.store.runtimes.lookup sid = none := by
        subst h
        exact hgone
      rw [Store.live, hgone'] at hafter
      cases hafter
    · rw [hstart owner pty rfl] at hsp
      cases hsp
  · right
    have hafter := Option.not_isSome_iff_eq_none.1 hafter
    rcases (resumed_entry h sid).unlive hr.live hafter with ⟨hrem, hgone⟩ | hcreates
    · have hgone' : (s.store.resume env s.nextTask t).store.runtimes.lookup sid = none := by
        subst h
        exact hgone
      obtain ⟨session, already, hn, ha⟩ := removed_shutdown hlive hrem (hb.unfailed tid t ht) hgone'
      exact ⟨live, session, already, hn, resumed_next ht h hs.ids hn ha, rfl, fun j v hv hk => (hnot j v hv hk).1,
        hafter⟩
    · have hnone := (hb.unborn tid t sid ht hcreates).2.1
      rw [Store.live, hnone] at hlive
      cases hlive

include hs ht h in
/-- A runtime comes into being by a start. -/
theorem unheld_step (hn : s.Unheld sid) :
    (s'.Unheld sid ∧ ∀ owner pty, t = .startGet owner sid pty → (s.store.resume env s.nextTask t).spawned = none) ∨
    ∃ owner pty u, t = .startGet owner sid pty ∧
      (s.store.resume env s.nextTask t).spawned.isSome ∧ u.starts = some sid ∧ s'.HeldBy sid tid u := by
  have hunlive := resumed_live_none h hn.unlive (hn.alone tid t ht)
  by_cases hnew : ∃ u, (s.store.resume env s.nextTask t).next = .await u ∧ u.holds = some sid
  · obtain ⟨u, hnext, hk⟩ := hnew
    rcases resume_holds hnext hk with hold | ⟨hlive, -⟩ | ⟨owner, pty, ht', hsp, hu, ha⟩
    · exact absurd hold (hn.alone tid t ht)
    · rw [hn.unlive] at hlive
      cases hlive
    · refine .inr ⟨owner, pty, u, ht', hsp, hu, resumed_next ht h hs.ids hnext ha, hk, fun j v hv hk' => ?_, hunlive⟩
      rcases resumed_holder h hv hk' with ⟨hj, -⟩ | ⟨-, hold⟩
      · exact hj
      · exact absurd hk' (hn.alone j v hold)
  · refine .inl ⟨⟨hunlive, fun j v hv hk => ?_⟩, fun owner pty ht' => ?_⟩
    · rcases resumed_holder h hv hk with ⟨-, hnext⟩ | ⟨-, hold⟩
      · exact hnew ⟨v, hnext, hk⟩
      · exact hn.alone j v hold hk
    · subst ht'
      by_contra hsp
      exact hnew (startGet_spawns (Option.isSome_iff_ne_none.2 hsp))

end Resume

end RelayTerm.Session
