import RelayTerm.Account.Steps
/-!
# The first user

`bootstrap` asks whether any password exists and, if none does, creates a user
and stores one, with awaits in between. Requests that are told "none" before
another has stored its password each create a user of their own: the question
keeps out those that come later, not those that overlap.
-/
open RelayTerm.Lib

namespace RelayTerm.Account

variable {cfg : Config} {s s' : Sys} {k : Nat}

def Fact.isBootstrapped : Fact → Bool
  | .bootstrapped _ => true
  | _ => false

/-- The request waits to be told whether a password exists. -/
def Task.asks : Task → Bool
  | .anyExists _ => true
  | _ => false

/-- The requests that were told that no password exists and have not stored theirs. -/
def Sys.founding (s : Sys) : Nat := Registry.count Task.founding s.tasks

/-- Whoever is told that no password exists finds at most `k` others that were told so and have not stored theirs. -/
def Sys.FewFounding (k : Nat) (s : Sys) : Event → Prop
  | .request _ _ => True
  | .resume tid _ => (s.tasks.lookup tid).any Task.asks = true → s.server.passwords.anyExists = false → s.founding ≤ k

instance (k : Nat) (s : Sys) : (ev : Event) → Decidable (s.FewFounding k ev)
  | .request _ _ => isTrue trivial
  | .resume _ _ => inferInstanceAs (Decidable (_ → _ → _))

/-- Users created and users about to be, and that a created one leaves a password. -/
structure Sys.Founded (k : Nat) (s : Sys) : Prop where
  bounded : s.founding + s.count Fact.isBootstrapped ≤ k + 1
  exists_of_pos : 0 < s.count Fact.isBootstrapped → s.server.passwords.anyExists = true

theorem Fact.not_isBootstrapped_of_isPlain (f : Fact) (h : f.isPlain = true) : f.isBootstrapped = false := by
  cases f <;> first | rfl | cases h

/-- A request that comes to rest elsewhere and creates nobody. -/
theorem Founded.settle (hs : s.Founded k) (tid : TaskId) {o : Out} (hnext : o.next.sat Task.founding = false)
    (hfacts : o.facts.countP Fact.isBootstrapped = 0)
    (hpasswords : s.server.passwords.anyExists = true → o.server.passwords.anyExists = true) :
    (s.settle tid o).Founded k := by
  have hcount : (s.settle tid o).count Fact.isBootstrapped = s.count Fact.isBootstrapped := by
    rw [settle_history_count, hfacts, Nat.add_zero]
  refine ⟨?_, fun hpos => hpasswords (hs.exists_of_pos (hcount ▸ hpos))⟩
  have hle : (s.settle tid o).founding ≤ s.founding := by
    unfold Sys.founding
    rw [settle_count, hnext]
    exact Registry.count_erase_le _ _ _
  have := hs.bounded
  omega

theorem quiet_founded (hs : s.Founded k) (tid : TaskId) {o : Out} (h : Quiet s.server o) : (s.settle tid o).Founded k :=
  Founded.settle hs tid (h.next_sat fun _ => Task.founding_of_isIdle)
    (h.countP_facts Fact.not_isBootstrapped_of_isPlain)
    fun hany => by rw [h.passwords]; exact hany

/-- A request that is told "none" joins those on their way; nobody has been created yet. -/
theorem checked_founded (hs : s.Founded k) {tid : TaskId} {req : BootstrapRequest}
    (hnone : s.server.passwords.anyExists = false) (hfew : s.founding ≤ k) :
    (s.settle tid (s.server.await (.createUser req))).Founded k := by
  have hzero : s.count Fact.isBootstrapped = 0 := by
    by_contra hpos
    have := hs.exists_of_pos (Nat.pos_of_ne_zero hpos)
    rw [hnone] at this
    cases this
  have hcount : (s.settle tid (s.server.await (.createUser req))).count Fact.isBootstrapped = 0 := by
    rw [settle_history_count, hzero]
    rfl
  refine ⟨?_, fun hpos => absurd hcount (Nat.ne_of_gt hpos)⟩
  rw [hcount]
  have herase := Registry.count_erase_le Task.founding s.tasks tid
  have hnew := settle_count Task.founding s tid (s.server.await (.createUser req))
  simp only [Server.await, Next.sat, Task.founding, if_true] at hnew
  unfold Sys.founding at hfew ⊢
  simp only [Server.await]
  omega

/-- A request on its way stays there, or stores its password. -/
theorem founding_founded (hs : s.Founded k) {tid : TaskId} {t : Task} {o : Out} (ht : s.tasks.lookup tid = some t)
    (hfounding : t.founding = true)
    (hmove : (if o.next.sat Task.founding then 1 else 0) + o.facts.countP Fact.isBootstrapped ≤ 1)
    (hpasswords : o.server.passwords = s.server.passwords ∧ o.facts = [] ∨ o.server.passwords.anyExists = true) :
    (s.settle tid o).Founded k := by
  have hcount := settle_history_count Fact.isBootstrapped s tid o
  refine ⟨?_, fun hpos => ?_⟩
  · have herase := Registry.count_erase Task.founding ht
    rw [hfounding, if_pos rfl] at herase
    have hnew := settle_count Task.founding s tid o
    have := hs.bounded
    unfold Sys.founding at this ⊢
    omega
  · obtain ⟨hsame, hnil⟩ | hany := hpasswords
    · rw [hcount, hnil, List.countP_nil, Nat.add_zero] at hpos
      exact (congrArg UserPasswords.anyExists hsame).trans (hs.exists_of_pos hpos)
    · exact hany

theorem step_founded {ev : Event} (hs : s.Founded k) (hfew : s.FewFounding k ev) (h : s.step cfg ev = some s') :
    s'.Founded k := by
  obtain ⟨r, now, o, rfl, hq, rfl⟩ | ⟨tid, env, t, o, rfl, ht, he, rfl⟩ := step_cases h
  · have := quiet_founded hs s.nextTask hq
    exact ⟨this.bounded, this.exists_of_pos⟩
  · cases he with
    | quiet _ _ hq => exact quiet_founded hs tid hq
    | checked req hnone => exact checked_founded hs hnone (hfew (by rw [ht]; rfl) hnone)
    | founded req user sv' hpasswords _ =>
      refine founding_founded hs ht rfl ?_ (.inl ⟨hpasswords, rfl⟩)
      simp [Server.await, Next.sat, Task.founding]
    | first user password =>
      refine founding_founded hs ht rfl ?_ (.inr (UserPasswords.anyExists_upsertForUser user.id password))
      simp [Server.setFirstPassword, Next.sat, Task.founding, Fact.isBootstrapped]
    | verified | read | snapshot => exact Founded.settle hs tid rfl rfl id
    | minted l user sessions auth next hcreate hnext =>
      refine Founded.settle hs tid ?_ ?_ id
      · cases next with
        | await t' => exact Task.founding_of_isIdle (hnext t' rfl)
        | ret r => rfl
      · cases l.against <;> rfl
    | rotated user password now =>
      exact Founded.settle hs tid rfl rfl fun _ => UserPasswords.anyExists_upsertForUser user.user.id password
    | written call snap next _ hanswered =>
      refine Founded.settle hs tid ?_ ?_ id
      · cases hanswered with
        | idle _ _ hnext _ =>
          cases next with
          | await t' => exact Task.founding_of_isIdle (hnext t' rfl)
          | ret r => rfl
        | logout | revoked | changed => rfl
      · rw [List.countP_eq_zero]
        simp [Fact.isBootstrapped]
    | reported _ _ event => exact Founded.settle hs tid rfl rfl id
    | changed => exact Founded.settle hs tid rfl rfl id

/-- **What the existence check bounds.** From any database: if whoever is told
that no password exists finds at most `k` others that were told so and have not
stored theirs, at most `k + 1` users are created with a password; with `k = 0`,
where such requests do not overlap, one. -/
theorem first_users_bounded (cfg : Config) (sv : Server) (k : Nat) (evs : List Event) (s : Sys)
    (hfew : Guarded (Sys.step cfg) (Sys.FewFounding k) (.start sv) evs)
    (hr : run (Sys.step cfg) (.start sv) evs = some s) : s.count Fact.isBootstrapped ≤ k + 1 := by
  have hstart : (Sys.start sv).Founded k := ⟨Nat.zero_le _, fun hpos => absurd hpos (Nat.lt_irrefl 0)⟩
  have hfounded : s.Founded k :=
    hfew.inv (Sys.Founded k) (fun _ _ _ hs hok h => step_founded hs hok h) hr hstart
  exact Nat.le_trans (Nat.le_add_left _ _) hfounded.bounded

def early : BootstrapRequest := ⟨"first", "a@b.c", "First", "correct horse"⟩
def late : BootstrapRequest := ⟨"first", "d@e.f", "Second", "battery staple"⟩

/-- A bootstrap that has stored its password before the next one asks. -/
def inTurn : List Event :=
  [.request (.bootstrap early) 0, .resume 0 ⟨true, 0, ""⟩, .resume 0 ⟨true, 0, ""⟩, .resume 0 ⟨true, 0, ""⟩,
    .request (.bootstrap late) 1, .resume 1 ⟨true, 1, ""⟩]

theorem first_users_bounded_apart : ∃ s, run (Sys.step .basic) (.start .init) inTurn = some s ∧
    s.count Fact.isBootstrapped = 1 ∧ s.count Fact.isBootstrapped ≤ 0 + 1 :=
  ⟨_, rfl, by decide, first_users_bounded .basic .init 0 inTurn _ (by decide) rfl⟩

/-- Every request is a bootstrap with the configured token. -/
def Event.bootstraps (cfg : Config) : Event → Bool
  | .request (.bootstrap req) _ => cfg.bootstrapToken = some req.bootstrapToken
  | .request _ _ => false
  | .resume _ _ => true

/-- Two requests that are both told that no password exists. -/
theorem first_users_two : ¬ ∀ (cfg : Config) (sv : Server) (evs : List Event) (s : Sys),
    sv.passwords.anyExists = false → (∀ ev ∈ evs, ev.bootstraps cfg = true) →
    run (Sys.step cfg) (.start sv) evs = some s → s.count Fact.isBootstrapped ≤ 1 := by
  intro h
  have hcount := h .basic .init
    [.request (.bootstrap early) 0, .request (.bootstrap late) 0, .resume 0 ⟨true, 0, ""⟩, .resume 1 ⟨true, 0, ""⟩,
      .resume 0 ⟨true, 0, ""⟩, .resume 1 ⟨true, 0, ""⟩, .resume 0 ⟨true, 0, ""⟩, .resume 1 ⟨true, 0, ""⟩] _
    rfl (by decide) rfl
  exact absurd hcount (by decide)

end RelayTerm.Account
