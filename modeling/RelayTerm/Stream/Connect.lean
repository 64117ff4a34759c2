import RelayTerm.Stream.Transport
/-!
# Every connect settles

When a connect call of the transport has settled its promise, over every order of
calls and socket events: which events leave one pending, and which callers never
see that happen.
-/
open RelayTerm.Lib

namespace RelayTerm.Stream.Transport

/-! ## Callers that wait -/

namespace Sys

/-- `close` is not called before the connect has settled, and no subscriber of a
close event calls `connect`. -/
def Waits (s : Sys) : Event → Prop
  | .connect _ => s.notifying = false
  | .close => s.state ≠ .connecting
  | _ => True

/-- Every open socket is heard, and none that waits to open was closed. -/
structure Orderly (s : Sys) : Prop where
  heard : ∀ k a, s.attempts.lookup k = some a → a.over = false → a.live
  closing : s.state = .closing → ∀ k a, s.attempts.lookup k = some a → a.live → a.settled ≠ []
  notifying : s.notifying = true → ∀ k a, s.attempts.lookup k = some a → a.over

variable {s t : Sys} {k : ConnectId} {a : Attempt}

theorem Attempt.not_live_of_over (h : a.over) : ¬ a.live := by
  obtain ⟨_ | ⟨phase, listening⟩, settled⟩ := a
  · nofun
  · simp only [Attempt.over, Option.all_some, decide_eq_true_eq] at h
    simp [Attempt.live, h]

theorem Orderly.of_over (h : ∀ k a, s.attempts.lookup k = some a → a.over) : s.Orderly where
  heard k a ha hover := absurd ((h k a ha).symm.trans hover) (by simp)
  closing _ k a ha hlive := absurd hlive (Attempt.not_live_of_over (h k a ha))
  notifying _ := h

theorem Orderly.attempt (h : s.Orderly) (hnew : a.over = false → a.live)
    (hclosing : s.state = .closing → a.live → a.settled ≠ []) (hover : s.notifying = true → a.over) :
    (s.attempt a).Orderly where
  heard := Registry.forall_insert hnew h.heard
  closing hs := Registry.forall_insert (hclosing hs) (h.closing hs)
  notifying hn := Registry.forall_insert (hover hn) (h.notifying hn)

theorem Orderly.connect (h : s.Orderly) (hwaits : s.notifying = false) (made : Except String Unit) :
    (s.connect made).Orderly := by
  unfold Sys.connect
  split
  · exact h.attempt nofun nofun fun _ => rfl
  · cases made with
    | error message =>
      have habandon : s.abandon.Orderly := ⟨h.heard, nofun, h.notifying⟩
      exact habandon.attempt nofun nofun fun _ => rfl
    | ok u =>
      have hbind : s.bind.Orderly := ⟨h.heard, nofun, h.notifying⟩
      exact hbind.attempt (fun _ => rfl) nofun fun hn => absurd (hwaits.symm.trans hn) Bool.false_ne_true

theorem Orderly.close (h : s.Orderly) (hinv : s.Inv) (hwaits : s.state ≠ .connecting) : s.close.Orderly := by
  unfold Sys.close
  split
  · exact ⟨h.heard, nofun, h.notifying⟩
  · refine ⟨h.heard, fun _ j b hb hlive hnil => ?_, h.notifying⟩
    have hheard := hinv.heard j b hb hlive
    have hengaged := hheard.engaged
    have hopen := (hheard.pending hnil).2
    have hclosing : s.state ≠ .closing := fun hs => h.closing hs j b hb hlive hnil
    cases hs : s.state <;> simp_all

theorem Orderly.send (h : s.Orderly) (frame : ClientFrame) : (s.send frame).Orderly := by
  unfold Sys.send
  split <;> exact ⟨h.heard, h.closing, h.notifying⟩

theorem Orderly.hear_emit (h : s.Orderly) {handler : Sys → Sys} (hemit : ∃ e, handler s = s.emit e) :
    (s.hear k handler).Orderly := by
  rcases Sys.hear_emit hemit with heq | ⟨e, heq⟩ <;> rw [heq]
  · exact h
  · exact ⟨h.heard, h.closing, h.notifying⟩

/-- An open socket is the current one, and its handlers are bound. -/
theorem Orderly.listening (h : s.Orderly) {phase : Phase} {listening : Bool} {settled : List Settlement}
    (ha : s.attempts.lookup k = some ⟨some ⟨phase, listening⟩, settled⟩) (hphase : phase ≠ .closed) :
    listening = true := by
  have hlive := h.heard k _ ha (by simpa [Attempt.over] using hphase)
  simp only [Attempt.live, Option.any_some, Bool.and_eq_true] at hlive
  exact hlive.1

theorem Orderly.opened (h : s.Orderly) (hinv : s.Inv) (hn : s.notifying = false)
    (hphase : (s.socketOf k).any (·.phase = .connecting)) : ((s.enter k .open).hear k onOpen).Orderly := by
  obtain ⟨phase, listening, settled, ha, hp⟩ := exists_of_phase (p := (· = .connecting)) hphase
  obtain rfl : phase = .connecting := by simpa using hp
  obtain rfl := h.listening ha nofun
  have hr := Replaces.settle (replaces_enter ha .open) .resolved
  rw [hear_enter ha, if_pos rfl, onOpen_eq hinv ha]
  refine ⟨fun j b hb hover => ?_, nofun, fun hn' => absurd (hn.symm.trans hn') Bool.false_ne_true⟩
  rcases (hr.2 j b).1 hb with ⟨-, rfl⟩ | ⟨-, hb⟩
  · rfl
  · exact h.heard j b hb hover

theorem Orderly.closed (h : s.Orderly) (hinv : s.Inv) (hphase : (s.socketOf k).any (·.phase ≠ .closed)) (code : Nat)
    (reason : String) (wasClean : Bool) : ((s.enter k .closed).hear k (·.onClose code reason wasClean)).Orderly := by
  obtain ⟨phase, listening, settled, ha, hp⟩ := exists_of_phase (p := (· ≠ .closed)) hphase
  have hphase := of_decide_eq_true hp
  obtain rfl := h.listening ha hphase
  obtain ⟨-, settled', hr, -⟩ := hinv.onClose hphase ha code reason wasClean
  rw [hear_enter ha, if_pos rfl]
  -- no other socket is open
  have hall : ∀ j b, ((s.enter k .closed).onClose code reason wasClean).attempts.lookup j = some b → b.over := by
    intro j b hb
    rcases (hr.2 j b).1 hb with ⟨-, rfl⟩ | ⟨hj, hb⟩
    · rfl
    · cases hover : b.over with
      | true => rfl
      | false =>
        have hcurrent := (hinv.heard k _ ha (by simpa [Attempt.live] using hphase)).current
        cases hcurrent.symm.trans (hinv.heard j b hb (h.heard j b hb hover)).current
        exact absurd rfl hj
  exact .of_over hall

theorem Orderly.unbind (h : s.Orderly) (hn : s.notifying = true) : { s.unbind with notifying := false }.Orderly := by
  refine .of_over ?_
  unfold Sys.unbind
  split
  · exact h.notifying hn
  · intro j b hb
    dsimp only at hb
    split at hb
    · obtain ⟨a, ha, -, hover⟩ := lookup_deafen hb
      exact hover ▸ h.notifying hn j a ha
    · exact h.notifying hn j b hb

theorem Orderly.step {e : Event} (h : s.Orderly) (hinv : s.Inv) (hwaits : s.Waits e) (hstep : s.step e = some t) :
    t.Orderly := by
  cases e with
  | connect made =>
    cases hstep
    exact h.connect hwaits made
  | send frame =>
    cases hstep
    exact h.send frame
  | close =>
    cases hstep
    exact h.close hinv hwaits
  | opened k =>
    obtain ⟨hphase, hstep⟩ := Option.ite_none_right_eq_some.1 hstep
    cases hstep
    obtain ⟨hn, hphase⟩ := Bool.and_eq_true_iff.1 hphase
    exact h.opened hinv (by simpa using hn) hphase
  | message k data =>
    obtain ⟨-, hstep⟩ := Option.ite_none_right_eq_some.1 hstep
    cases hstep
    exact h.hear_emit (onMessage_eq s data)
  | closed k code reason wasClean =>
    obtain ⟨hphase, hstep⟩ := Option.ite_none_right_eq_some.1 hstep
    cases hstep
    exact h.closed hinv (Bool.and_eq_true_iff.1 hphase).2 code reason wasClean
  | error k =>
    obtain ⟨-, hstep⟩ := Option.ite_none_right_eq_some.1 hstep
    cases hstep
    exact h.hear_emit ⟨_, rfl⟩
  | notified =>
    obtain ⟨hn, hstep⟩ := Option.ite_none_right_eq_some.1 hstep
    cases hstep
    exact h.unbind hn

/-- An orderly transport takes every event well. -/
theorem Orderly.proper {e : Event} (h : s.Orderly) (hinv : s.Inv) (hstep : s.step e = some t) : s.Proper e := by
  cases e with
  | opened k =>
    obtain ⟨hphase, -⟩ := Option.ite_none_right_eq_some.1 hstep
    obtain ⟨phase, listening, settled, ha, hp⟩ :=
      exists_of_phase (p := (· = .connecting)) (Bool.and_eq_true_iff.1 hphase).2
    obtain rfl : phase = .connecting := by simpa using hp
    obtain rfl := h.listening ha nofun
    intro _ hclosing
    exact h.closing hclosing k _ ha rfl ((hinv.heard k _ ha rfl).unopened rfl)
  | closed k code reason wasClean =>
    obtain ⟨hphase, -⟩ := Option.ite_none_right_eq_some.1 hstep
    obtain ⟨phase, listening, settled, ha, hp⟩ :=
      exists_of_phase (p := (· ≠ .closed)) (Bool.and_eq_true_iff.1 hphase).2
    obtain rfl := h.listening ha (of_decide_eq_true hp)
    intro hpending
    refine ⟨hears_eq ha, fun hclosing => ?_⟩
    exact h.closing hclosing k _ ha (by simpa [Attempt.live] using hp) ((pending_eq ha).1 hpending)
  | connect _ | send _ | close | message _ _ | error _ | notified => trivial

end Sys

/-- In every run of calls and socket events, each connect call that made no
socket, or whose socket has delivered its close event, has settled its promise
exactly once, and the transport is not open after `close`, if and only if no open
event was heard while the transport was closing, and no pending connect's close
event came while it was closing or unheard. -/
theorem connect_settles_iff {evs : List Event} {t : Sys} (hr : run Sys.step {} evs = some t) :
    (∀ done rest u, evs = done ++ rest → run Sys.step {} done = some u → u.Good) ↔
      Guarded Sys.step Sys.Proper {} evs :=
  always_iff_guarded Sys.Good Sys.Inv (fun _ _ _ h _ _ hstep => (h.step hstep).1)
    (fun _ _ _ h hgood hstep => (h.step hstep).2 hgood) hr .start .start

/-- Callers that wait for a connect before they close, and do not connect from a
subscriber of the close event, see every connect settle. -/
theorem good_of_waits {evs : List Event} {t : Sys} (hr : run Sys.step {} evs = some t)
    (hwaits : Guarded Sys.step Sys.Waits {} evs) : t.Good := by
  refine (hwaits.inv (fun s => s.Inv ∧ s.Orderly ∧ s.Good) ?_ hr ⟨.start, .of_over ?_, .start⟩).2.2
  · rintro s e t ⟨hinv, horderly, hgood⟩ hwaits hstep
    obtain ⟨hinv', hiff⟩ := hinv.step hstep
    exact ⟨hinv', horderly.step hinv hwaits hstep, (hiff hgood).2 (horderly.proper hinv hstep)⟩
  · intro k a ha
    simp at ha

/-- A connection that opens, is closed by the caller and delivers its close event. -/
theorem connect_settles_iff_opened :
    ∃ t, run Sys.step {} [.connect (.ok ()), .opened 0, .close, .closed 0 1000 "" true, .notified] = some t ∧
      t.attempts.lookup 0 = some ⟨some ⟨.closed, false⟩, [.resolved]⟩ ∧ t.Good := by
  refine ⟨_, rfl, rfl, ?_⟩
  refine (connect_settles_iff rfl).2 (by decide) [.connect (.ok ()), .opened 0, .close, .closed 0 1000 "" true,
    .notified] [] _ rfl rfl

/-- `close` before the socket opens: its close event finds the transport closing, and rejects nothing. -/
theorem connect_never_settles :
    ¬ ∀ (evs : List Event) (t : Sys), run Sys.step {} evs = some t →
      (∀ k a, t.attempts.lookup k = some a → a.over → a.settled.length = 1) ∧
        (t.closeCalled = true → t.state ≠ .open) := by
  intro h
  have hsettles := (h [.connect (.ok ()), .close, .closed 0 1006 "" false, .notified] _ rfl).1
  cases hsettles 0 ⟨some ⟨.closed, false⟩, []⟩ rfl rfl

end RelayTerm.Stream.Transport
