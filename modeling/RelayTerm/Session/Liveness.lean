import RelayTerm.Session.Agreement
/-!
# The registry and the rows

A session that ends through `close_session` or the TTL task leaves the registry
in the same operation that closes its row. The forwarder, when its bridge ends,
closes the row only. So the two agree at rest, except for the sessions that a
forwarder tore down: their entry stays live until somebody closes them again.
-/
open RelayTerm.Lib

namespace RelayTerm.Session

variable {st : Store} {env : Env} {s s' : Sys} {sid : SessionId}

/-! ## The end of a bridge -/

/-- The bridge of `sid` ends: its forwarder finds the channel closed, or its handle has been closed. -/
def Task.endsBridge (sid : SessionId) (env : Env) : Task → Bool
  | .pump k _ _ => k = sid && env.bridge.isNone
  | .shutdownHandle k _ _ _ => k = sid
  | _ => false

def endsBridge (sid : SessionId) (s : Sys) : Event → Bool
  | .call _ => false
  | .resume tid env => (s.tasks.lookup tid).any (·.endsBridge sid env)

/-- A forwarder waits for its bridge, or a timer sleeps. -/
def Task.isWaiting : Task → Bool
  | .pump .. | .ttlSleep .. => true
  | _ => false

/-- No operation and no teardown is in progress. -/
def Sys.AtRest (s : Sys) : Prop := ∀ i t, s.tasks.lookup i = some t → t.isWaiting

/-- The session a forwarder is going to close. -/
def Task.tearsDown : Task → Option SessionId
  | .teardownGet sid _ _ | .teardownSetClosed sid _ _ _ => some sid
  | _ => none

/-- The row of a session whose bridge has ended is closed, or its forwarder is about to close it. -/
def Sys.RowEnds (s : Sys) (sid : SessionId) : Prop :=
  s.rowClosed sid ∨ ∃ i t, s.tasks.lookup i = some t ∧ t.tearsDown = some sid

theorem endsBridge_rowEnds {e : Event} (hs : Agreement s) (hok : Orderly s e) (he : endsBridge sid s e)
    (h : s.step e = some s') : s'.RowEnds sid := by
  cases e with
  | call c => cases he
  | resume tid env =>
    obtain ⟨t, ht, h⟩ := step_resume h
    simp only [endsBridge, ht, Option.any_some] at he
    cases t
    case pump k owner reason =>
      simp only [Task.endsBridge, Bool.and_eq_true, decide_eq_true_eq, Option.isNone_iff_eq_none] at he
      obtain ⟨rfl, hb⟩ := he
      have hn : (s.store.resume env s.nextTask (.pump k owner reason)).next =
            .await (.teardownGet k owner (Store.teardownCategory reason)) ∧
          (s.store.resume env s.nextTask (.pump k owner reason)).aborted = [] := by
        simp only [Store.resume, Store.pump, hb]
        exact ⟨rfl, rfl⟩
      exact .inr ⟨tid, _, resumed_next ht h hs.handles.ids hn.1 hn.2, rfl⟩
    case shutdownHandle k live session already =>
      obtain rfl := of_decide_eq_true he
      exact .inl (resumed_rowClosed hs hok ht h (hs.behind tid _ k ht rfl))
    all_goals cases he

/-- A teardown finds the row closed, or closes it. -/
theorem tearsDown_rowEnds {tid : TaskId} {t : Task} (hs : Agreement s) (hok : Orderly s (.resume tid env))
    (ht : s.tasks.lookup tid = some t) (h : s' = s.settle tid s.nextTask (s.store.resume env s.nextTask t))
    (hk : t.tearsDown = some sid) : s'.RowEnds sid := by
  have hcall : env.ok := hok.2.1
  cases t <;> cases hk
  case teardownGet owner category =>
    obtain ⟨row, hrow, rfl⟩ := hs.owned tid _ sid owner ht rfl
    by_cases hst : row.status = .closed
    · exact .inl (resumed_rowClosed hs hok ht h (rowClosed_iff.2 ⟨row, hrow, hst⟩))
    · refine .inr ⟨tid, .teardownSetClosed sid row category env.now, resumed_next ht h hs.handles.ids ?_ ?_, rfl⟩ <;>
        simp only [Store.resume, Store.teardownGet, getOwned_eq hcall hrow, if_neg hst, Store.await]
  case teardownSetClosed session category now =>
    obtain ⟨row, hrow, -⟩ := hs.owned tid _ sid session.ownerId ht rfl
    have hw : (Task.teardownSetClosed sid session category now).statusWrite =
        some ⟨sid, session, .closed, some now⟩ := rfl
    subst h
    exact .inl (rowClosed_iff.2 ⟨_, statusWrite_ok hcall hw hrow, rfl⟩)

theorem step_rowEnds {e : Event} (hs : Agreement s) (hk : s.RowEnds sid) (hok : Orderly s e) (h : s.step e = some s') :
    s'.RowEnds sid := by
  cases e with
  | call c =>
    rcases hk with hclosed | ⟨i, t, hi, ht⟩
    · exact .inl (step_rowClosed hs.gate hok.1 h hclosed)
    · exact .inr ⟨i, t, call_kept hok.2.2 h hs.handles.ids hi, ht⟩
  | resume tid env =>
    obtain ⟨t, ht, h⟩ := step_resume h
    rcases hk with hclosed | ⟨i, u, hi, hu⟩
    · exact .inl (resumed_rowClosed hs hok ht h hclosed)
    · by_cases htid : i = tid
      · subst htid
        cases hi.symm.trans ht
        exact tearsDown_rowEnds hs hok ht h hu
      · by_cases ha : i ∈ (s.store.resume env s.nextTask t).aborted
        · have hfwd : u.forwards = some sid ∧ u.timerOf = none := by cases u <;> cases hu <;> exact ⟨rfl, rfl⟩
          rcases aborted_agreement hs hok ht hi ha with ⟨k, hk, hgone, hst⟩ | ⟨k, hk, -⟩ | ⟨k, hk, -⟩
          · -- the start that gives up has found its session closed
            cases hfwd.1.symm.trans hk
            rcases hs.started tid t sid ht hst with hsome | hclosed
            · rw [hgone] at hsome
              cases hsome
            · exact .inl (resumed_rowClosed hs hok ht h hclosed)
          · cases hfwd.2.symm.trans hk
          · cases hfwd.2.symm.trans hk
        · exact .inr ⟨i, u, resumed_kept h hs.handles.ids hi htid ha, hu⟩

/-! ## Sessions that no forwarder closes -/

/-- A forwarder puts on record that it has closed `sid`. -/
def Task.recordsTeardown (sid : SessionId) : Task → Bool
  | .teardownEvent k _ => k = sid
  | _ => false

def recordsTeardown (sid : SessionId) (s : Sys) : Event → Bool
  | .call _ => false
  | .resume tid _ => (s.tasks.lookup tid).any (·.recordsTeardown sid)

/-- Only that step makes a session one that its forwarder closed. -/
theorem step_tornDown {e : Event} (hok : Orderly s e) (he : recordsTeardown sid s e = false)
    (hs : s.tornDown sid = false) (h : s.step e = some s') : s'.tornDown sid = false := by
  cases e with
  | call c => rwa [Sys.tornDown, call_store hok.2.2 h]
  | resume tid env =>
    obtain ⟨t, ht, h⟩ := step_resume h
    have hlogs : t.logs.any (·.isTeardownOf sid) = false := by
      simp only [recordsTeardown, ht, Option.any_some] at he
      cases t with
      | teardownEvent k category => simpa [Task.logs, SessionEvent.isTeardownOf, Task.recordsTeardown] using he
      | _ => simp [Task.logs, SessionEvent.isTeardownOf]
    rw [resumed_tornDown hok h, hs, hlogs]
    rfl

/-! ## At rest -/

/-- At rest a closed session that no forwarder tore down is not live. -/
theorem Agreement.at_rest (hs : Agreement s) (hrest : s.AtRest) (htorn : ¬ s.tornDown sid) (hclosed : s.rowClosed sid) :
    s.store.live sid = none := by
  rcases hs.ending sid hclosed with htorn' | ⟨i, category, hi⟩ | ⟨i, t, hi, ht⟩ | ⟨hlive, -⟩
  · exact absurd htorn' htorn
  · cases hrest i _ hi
  · have hwait := hrest i t hi
    cases t <;> cases ht <;> cases hwait
  · exact hlive

theorem Sys.RowEnds.at_rest (hk : s.RowEnds sid) (hrest : s.AtRest) : s.rowClosed sid := by
  rcases hk with hclosed | ⟨i, t, hi, ht⟩
  · exact hclosed
  · have hwait := hrest i t hi
    cases t <;> cases ht <;> cases hwait

/-- The quotas do not count the session. -/
def Store.Uncounted (st : Store) (sid : SessionId) : Prop :=
  ∀ e, st.runtimes.lookup sid = some e → e.live.isSome = false ∧ ∀ owner, e.isLiveOf owner = false

theorem uncounted_iff : st.Uncounted sid ↔ st.live sid = none := by
  unfold Store.Uncounted Store.live
  cases st.runtimes.lookup sid with
  | none => simp
  | some e => cases h : e.live <;> simp [RuntimeEntry.isLiveOf, h]

/-- At rest, a session whose bridge has ended is closed, and a closed session is
not live and not counted, as long as no forwarder has closed it. -/
theorem liveness_agrees (ttl : Nat) (evs : List Event) (s : Sys) (sid : SessionId)
    (hg : Guarded Sys.step Orderly (Sys.init ttl) evs) (hr : run Sys.step (Sys.init ttl) evs = some s)
    (hrest : s.AtRest) :
    (Occurs Sys.step (endsBridge sid · ·) (Sys.init ttl) evs → s.rowClosed sid) ∧
      (Guarded Sys.step (fun s e => recordsTeardown sid s e = false) (Sys.init ttl) evs → s.rowClosed sid →
        s.store.live sid = none ∧ s.store.Uncounted sid) := by
  constructor
  · intro ho
    have hends : s.RowEnds sid := hg.of_occurs Agreement (Sys.RowEnds · sid)
      (fun _ _ _ hs hok h => step_agreement hs hok h) (fun _ _ _ hs hok he h => endsBridge_rowEnds hs hok he h)
      (fun _ _ _ hs hk hok h => step_rowEnds hs hk hok h) hr (init_agreement ttl) ho
    exact hends.at_rest hrest
  · intro hkept hclosed
    have hs : Agreement s := hg.inv Agreement (fun _ _ _ hs hok h => step_agreement hs hok h) hr (init_agreement ttl)
    have htorn : s.tornDown sid = false :=
      (hg.and hkept).inv (·.tornDown sid = false) (fun _ _ _ hs hok h => step_tornDown hok.1 hok.2 hs h) hr rfl
    have hlive := hs.at_rest hrest (Bool.eq_false_iff.1 htorn) hclosed
    exact ⟨hlive, uncounted_iff.2 hlive⟩

/-- A client closes session 7; its forwarder finds the channel closed while the close waits for it. -/
def closedRun : List Event :=
  startedRun ++ [.call (.closeSession 7 1), .resume 3 {}, .resume 3 { now := 60 }, .resume 3 {}, .resume 3 {},
    .resume 3 {}, .resume 2 {}, .resume 2 {}, .resume 3 {}, .resume 3 {}]

theorem liveness_agrees_closed :
    ∃ s, run Sys.step (Sys.init 30) closedRun = some s ∧ s.rowClosed 7 ∧ s.store.Uncounted 7 :=
  have hagrees := liveness_agrees 30 closedRun _ 7 (by decide) rfl fun _ _ ht =>
    Registry.of_any_eq_false (p := Task.isWaiting) (by decide) ht
  ⟨_, rfl, hagrees.1 (by decide), (hagrees.2 (by decide) (by decide)).2⟩

/-- The shell of session 7 exits: the row is closed, and the session still counts as live. -/
theorem liveness_disagrees :
    ¬ ∀ (ttl : Nat) (evs : List Event) (s : Sys) (sid : SessionId), (∀ e ∈ evs, e.callSucceeds) →
      run Sys.step (Sys.init ttl) evs = some s → s.AtRest →
      (Occurs Sys.step (endsBridge sid · ·) (Sys.init ttl) evs → s.rowClosed sid ∧ s.store.Uncounted sid) ∧
        (s.rowClosed sid → s.store.live sid = none) := by
  intro h
  have hlive := (h 30 (startedRun ++ remoteExitRun) _ 7 (by decide) rfl
    (fun _ _ ht => Registry.of_any_eq_false (p := Task.isWaiting) (by decide) ht)).2 rfl
  cases hlive

end RelayTerm.Session
