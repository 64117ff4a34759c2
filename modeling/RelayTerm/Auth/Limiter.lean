import Mathlib.Data.List.Dedup
import RelayTerm.Auth.Cleanup
/-!
# The throttler is a sliding-window limiter

Used one attempt at a time, the throttler decides as a limiter would that
forgets nothing: one that keeps every failure of a key since its last success
and blocks it for `block` after each failure that is at least the
`max_failures`-th in the window that ends with it. The throttler prunes, caps
and drops what it stores, but at the moments when it lets an attempt through it
has exactly the failures of the window: after a block, which is no shorter than
the window, none are left.
-/
open RelayTerm.Lib

namespace RelayTerm.Auth

variable {config : LoginThrottleConfig} {st : AttemptState} {history : List Int} {clock now next : Int}
  {th : LoginThrottler} {key key' : String}

/-! ## The ideal limiter -/

/-- The failures in the window that ends at `now`. -/
def inWindow (config : LoginThrottleConfig) (now : Int) (times : List Int) : List Int :=
  times.filter fun t => t > now - config.window

/-- When the blocks end that the failures have started; the latest failure comes first. -/
def blockEnds (config : LoginThrottleConfig) : List Int → List Int
  | [] => []
  | f :: earlier =>
    if config.maxFailures ≤ (inWindow config f earlier).length + 1 then (f + config.block) :: blockEnds config earlier
    else blockEnds config earlier

structure IdealLimiter where
  config : LoginThrottleConfig
  /-- All failures of each key since its last success, the latest first. -/
  history : String → List Int

namespace IdealLimiter

def new (config : LoginThrottleConfig) : IdealLimiter := ⟨config, fun _ => []⟩

def check (l : IdealLimiter) (key : String) (now : Int) : ThrottleDecision :=
  blockDecision now (blockEnds l.config (l.history key)).max?

def recordFailure (l : IdealLimiter) (key : String) (now : Int) : IdealLimiter :=
  { l with history := fun k => if k = key then now :: l.history k else l.history k }

def recordSuccess (l : IdealLimiter) (key : String) : IdealLimiter :=
  { l with history := fun k => if k = key then [] else l.history k }

end IdealLimiter

/-! ## One key -/

/-- How the state of a key stands for its history, from `clock` on. -/
structure Tracks (config : LoginThrottleConfig) (clock : Int) (st : AttemptState) (history : List Int) : Prop where
  past : ∀ t ∈ history, t ≤ clock
  block : ∀ now, clock ≤ now → st.decision now = blockDecision now (blockEnds config history).max?
  /-- An attempt that is let through finds the failures of its window, ... -/
  kept : ∀ now, clock ≤ now → st.decision now = .allowed →
    inWindow config now st.failures = (inWindow config now history).reverse
  /-- ... and these are too few for a block. -/
  few : ∀ now, clock ≤ now → st.decision now = .allowed → (inWindow config now history).length < config.maxFailures
  /-- No set of times less than a window apart has more than `max_failures` of the failures. -/
  bound : ∀ P : Int → Bool, (∀ t u, P t = true → P u = true → t < u + config.window) →
    history.countP P ≤ config.maxFailures

theorem Tracks.new (hmax : 1 ≤ config.maxFailures) (clock : Int) : Tracks config clock .new [] where
  past := by simp
  block _ _ := rfl
  kept _ _ _ := rfl
  few _ _ _ := hmax
  bound P _ := Nat.zero_le _

theorem Tracks.later (h : Tracks config clock st history) (hle : clock ≤ now) : Tracks config now st history where
  past t ht := Int.le_trans (h.past t ht) hle
  block u hu := h.block u (Int.le_trans hle hu)
  kept u hu := h.kept u (Int.le_trans hle hu)
  few u hu := h.few u (Int.le_trans hle hu)
  bound := h.bound

/-- An idle state is dropped. -/
theorem Tracks.dropped (hmax : 1 ≤ config.maxFailures) (h : Tracks config now st history)
    (hidle : st.isIdle now config.window = true) : Tracks config now .new history := by
  have hallowed : ∀ later, now ≤ later → st.decision later = .allowed := fun later hle =>
    decision_allowed (isBlocked_later (isIdle_iff.1 hidle).1 hle)
  have hempty : ∀ later, now ≤ later → inWindow config later history = [] := by
    intro later hle
    have hnone : inWindow config later st.failures = [] := pruneWindow_idle (isIdle_later hidle hle)
    rw [h.kept later hle (hallowed later hle)] at hnone
    exact List.reverse_eq_nil_iff.1 hnone
  refine ⟨h.past, ?_, ?_, ?_, h.bound⟩
  · intro later hle
    rw [← h.block later hle, hallowed later hle]
    rfl
  · intro later hle _
    rw [hempty later hle]
    rfl
  · intro later hle _
    rw [hempty later hle]
    exact hmax

/-! ### A failure that is let through -/

theorem inWindow_inWindow (hle : now ≤ next) (times : List Int) :
    inWindow config next (inWindow config now times) = inWindow config next times := by
  unfold inWindow
  rw [List.filter_filter]
  apply List.filter_congr
  intro t _
  by_cases h : t > next - config.window
  · have : t > now - config.window := by omega
    simp [h, this]
  · simp [h]

theorem inWindow_eq_nil {times : List Int} (h : ∀ t ∈ times, t ≤ now) (hle : now + config.window ≤ next) :
    inWindow config next times = [] := by
  apply List.filter_eq_nil_iff.2
  intro t ht
  have := h t ht
  simp only [decide_eq_true_eq]
  omega

theorem inWindow_length_le (config : LoginThrottleConfig) (hle : now ≤ next) (times : List Int) :
    (inWindow config next times).length ≤ (inWindow config now times).length := by
  rw [← inWindow_inWindow hle]
  exact List.length_filter_le _ _

theorem inWindow_cons (now t : Int) (times : List Int) :
    inWindow config now (t :: times) = inWindow config now [t] ++ inWindow config now times :=
  List.filter_append [t] times

theorem inWindow_reverse (now : Int) (times : List Int) :
    inWindow config now times.reverse = (inWindow config now times).reverse :=
  List.filter_reverse

/-- With room in the list, the failures of the window and the new one are stored. -/
theorem push_failures (hfew : (inWindow config now st.failures).length < config.maxFailures) :
    ((st.pruneWindow now config.window).push config now).failures = inWindow config now st.failures ++ [now] := by
  have hroom : (st.pruneWindow now config.window).failures.length < config.maxFailures + 1 := Nat.lt_succ_of_lt hfew
  rw [AttemptState.push, if_pos hroom]
  rfl

theorem push_length (hfew : (inWindow config now st.failures).length < config.maxFailures) :
    ((st.pruneWindow now config.window).push config now).failures.length =
      (inWindow config now st.failures).length + 1 := by
  rw [push_failures hfew, List.length_append, List.length_singleton]

theorem recordFailure_failures (hfew : (inWindow config now st.failures).length < config.maxFailures) :
    (st.recordFailure config now).failures = inWindow config now st.failures ++ [now] :=
  raiseBlock_failures.trans (push_failures hfew)

theorem recordFailure_blockedUntil (hfew : (inWindow config now st.failures).length < config.maxFailures)
    (hshort : ¬ config.maxFailures ≤ (inWindow config now st.failures).length + 1) :
    (st.recordFailure config now).blockedUntil = st.blockedUntil := by
  rw [← push_length hfew] at hshort
  rw [AttemptState.recordFailure, AttemptState.raiseBlock, if_neg hshort, push_blockedUntil]
  rfl

/-- The block that a failure starts is not cut short by the one before. -/
theorem recordFailure_blocks (hfew : (inWindow config now st.failures).length < config.maxFailures)
    (hfull : config.maxFailures ≤ (inWindow config now st.failures).length + 1)
    (hallowed : (st.recordFailure config now).decision next = .allowed) : now + config.block ≤ next := by
  rw [← push_length hfew] at hfull
  obtain ⟨blockEnd, hend, hle⟩ := raiseBlock_blockedUntil now hfull
  exact Int.le_trans hle (blockDecision_eq_allowed.1 hallowed blockEnd hend)

theorem forall_max?_le {xs : List Int} {b : Int} : (∀ y ∈ xs.max?, y ≤ b) ↔ ∀ x ∈ xs, x ≤ b := by
  cases hmax : xs.max? with
  | none => simp [List.max?_eq_none_iff.1 hmax]
  | some y => simp [List.max?_le_iff hmax]

theorem max?_cons_of_le {x : Int} {xs : List Int} (h : ∀ y ∈ xs, y ≤ x) : (x :: xs).max? = some x := by
  apply List.max?_eq_some_iff.2
  refine ⟨List.mem_cons_self .., ?_⟩
  intro y hy
  rcases List.mem_cons.1 hy with rfl | hy
  · exact Int.le_refl _
  · exact h y hy

/-- The blocks of both end alike. -/
theorem Tracks.failure_block (h : Tracks config now st history) (hallowed : st.decision now = .allowed)
    (hle : now ≤ next) : (st.recordFailure config now).decision next =
      blockDecision next (blockEnds config (now :: history)).max? := by
  have hkept := congrArg List.length (h.kept now (Int.le_refl _) hallowed)
  rw [List.length_reverse] at hkept
  have hfew : (inWindow config now st.failures).length < config.maxFailures :=
    hkept ▸ h.few now (Int.le_refl _) hallowed
  have hover : ∀ blockEnd ∈ blockEnds config history, blockEnd ≤ now :=
    forall_max?_le.1 (blockDecision_eq_allowed.1 ((h.block now (Int.le_refl _)).symm.trans hallowed))
  rw [blockEnds, ← hkept]
  by_cases hfull : config.maxFailures ≤ (inWindow config now st.failures).length + 1
  · rw [if_pos hfull]
    have hunblocked : ((st.pruneWindow now config.window).push config now).isBlocked now = false := by
      rw [isBlocked_eq_false_iff, push_blockedUntil]
      exact blockDecision_eq_allowed.1 hallowed
    by_cases hpos : 0 < config.block
    · have hmax : ((now + config.block) :: blockEnds config history).max? = some (now + config.block) := by
        apply max?_cons_of_le
        intro y hy
        have := hover y hy
        omega
      rw [← push_length hfew] at hfull
      rw [hmax, AttemptState.decision, AttemptState.recordFailure, raiseBlock_unblocked hunblocked hfull hpos]
    · -- Both blocks are over at once.
      have hideal : blockDecision next ((now + config.block) :: blockEnds config history).max? = .allowed := by
        rw [blockDecision_eq_allowed, forall_max?_le]
        intro y hy
        rcases List.mem_cons.1 hy with rfl | hy
        · omega
        · exact Int.le_trans (hover y hy) hle
      rw [hideal]
      exact decision_allowed (isBlocked_later (raiseBlock_over hunblocked hpos) hle)
  · rw [if_neg hfull, ← h.block next hle, AttemptState.decision, recordFailure_blockedUntil hfew hfull]
    rfl

theorem Tracks.failure (hmax : 1 ≤ config.maxFailures) (hblock : config.window ≤ config.block)
    (h : Tracks config now st history) (hallowed : st.decision now = .allowed) :
    Tracks config now (st.recordFailure config now) (now :: history) := by
  have hkept := h.kept now (Int.le_refl _) hallowed
  have hlength := congrArg List.length hkept
  rw [List.length_reverse] at hlength
  have hfewNow := h.few now (Int.le_refl _) hallowed
  have hfew : (inWindow config now st.failures).length < config.maxFailures := hlength ▸ hfewNow
  have hpast : ∀ t ∈ now :: history, t ≤ now := by
    intro t ht
    rcases List.mem_cons.1 ht with rfl | ht
    · exact Int.le_refl _
    · exact h.past t ht
  -- After a block nothing of the window is left.
  have hafter : ∀ next, now ≤ next → (st.recordFailure config now).decision next = .allowed →
      inWindow config next (now :: history) = [] ∨
        ¬ config.maxFailures ≤ (inWindow config now history).length + 1 := by
    intro next hle hnext
    by_cases hfull : config.maxFailures ≤ (inWindow config now st.failures).length + 1
    · have hend := recordFailure_blocks hfew hfull hnext
      exact .inl (inWindow_eq_nil hpast (by omega))
    · exact .inr (hlength ▸ hfull)
  refine ⟨hpast, fun next => h.failure_block hallowed, ?_, ?_, ?_⟩
  · intro next hle _
    rw [recordFailure_failures hfew, hkept, ← List.reverse_cons, inWindow_reverse, inWindow_cons, inWindow_inWindow hle,
      ← inWindow_cons]
  · intro next hle hnext
    rcases hafter next hle hnext with hnil | hshort
    · rw [hnil]
      exact hmax
    · have hone : (inWindow config next [now]).length ≤ 1 := List.length_filter_le _ _
      have hsub := inWindow_length_le config hle history
      rw [inWindow_cons, List.length_append]
      omega
  · intro P hP
    rw [List.countP_cons]
    by_cases hnow : P now = true
    · -- Whatever else is less than a window apart from `now` is in the window that ends there.
      have hsub : history.countP P ≤ (inWindow config now history).length := by
        rw [inWindow, ← List.countP_eq_length_filter]
        apply List.countP_mono_left
        intro t _ ht
        have := hP now t hnow ht
        simp only [decide_eq_true_eq]
        omega
      rw [if_pos hnow]
      omega
    · rw [if_neg hnow]
      exact h.bound P hP

/-! ## All keys -/

structure LoginAttempt where
  key : String
  now : Int
  /-- The password is right. -/
  succeeds : Bool
  deriving DecidableEq, Repr

inductive Use where
  | attempt (a : LoginAttempt)
  | cleanup (now : Int)
  deriving DecidableEq, Repr

def Use.time : Use → Option Int
  | .attempt a => some a.now
  | .cleanup now => some now

def Use.onKey : Use → Option String
  | .attempt a => some a.key
  | .cleanup _ => none

/-- An attempt is checked, and recorded if it is let through; the answer is noted. -/
def LoginThrottler.use (th : LoginThrottler) : Use → LoginThrottler × Option (LoginAttempt × ThrottleDecision)
  | .attempt a => match th.check a.key a.now with
    | .allowed => (if a.succeeds then th.recordSuccess a.key else th.recordFailure a.key a.now, some (a, .allowed))
    | .throttled secs => (th, some (a, .throttled secs))
  | .cleanup now => (th.cleanup now, none)

def IdealLimiter.use (l : IdealLimiter) : Use → IdealLimiter × Option (LoginAttempt × ThrottleDecision)
  | .attempt a => match l.check a.key a.now with
    | .allowed => (if a.succeeds then l.recordSuccess a.key else l.recordFailure a.key a.now, some (a, .allowed))
    | .throttled secs => (l, some (a, .throttled secs))
  | .cleanup _ => (l, none)

/-- The throttler has the histories of the limiter, and no keys but those in use. -/
structure Simulates (config : LoginThrottleConfig) (keys : List String) (clock : Int) (th : LoginThrottler)
    (l : IdealLimiter) : Prop where
  thConfig : th.config = config
  limiterConfig : l.config = config
  tracks : ∀ key, Tracks config clock (th.state key) (l.history key)
  known : ∀ key ∈ th.inner.keys, key ∈ keys

variable {keys : List String} {l : IdealLimiter}

theorem init_simulates (hmax : 1 ≤ config.maxFailures) (keys : List String) (clock : Int) :
    Simulates config keys clock (.new config) (.new config) where
  thConfig := rfl
  limiterConfig := rfl
  tracks _ := .new hmax clock
  known := by simp [LoginThrottler.new]

/-- Few keys in use leave room in the table. -/
theorem Simulates.room (h : Simulates config keys clock th l) (hkeys : keys.dedup.length < maxTrackedKeys) :
    th.trackedKeys < maxTrackedKeys := by
  have hsub : th.inner.keys.Subperm keys.dedup := by
    apply List.subperm_of_subset (AList.keys_nodup _)
    intro key hkey
    exact List.mem_dedup.2 (h.known key hkey)
  have hlength := hsub.length_le
  unfold AList.keys List.keys at hlength
  rw [List.length_map] at hlength
  exact Nat.lt_of_le_of_lt hlength hkeys

theorem Simulates.later (h : Simulates config keys clock th l) (hle : clock ≤ now) :
    Simulates config keys now th l :=
  { h with tracks := fun key => (h.tracks key).later hle }

theorem Simulates.check_eq (h : Simulates config keys now th l) (key : String) :
    th.check key now = l.check key now := by
  rw [RelayTerm.Auth.check_eq, (h.tracks key).block now (Int.le_refl _), IdealLimiter.check, h.limiterConfig]

theorem mem_keys_recordFailure (hroom : th.trackedKeys < maxTrackedKeys)
    (h : key' ∈ (th.recordFailure key now).inner.keys) : key' = key ∨ key' ∈ th.inner.keys := by
  have hfree : ¬ th.trackedKeys ≥ maxTrackedKeys := Nat.not_le_of_lt hroom
  unfold LoginThrottler.recordFailure LoginThrottler.recordTracked at h
  rw [if_neg hfree] at h
  rw [← AList.mem_keys] at h ⊢
  cases hst : th.inner.lookup key <;> simpa [hst, hfree, AList.mem_insert] using h

theorem Simulates.recordFailure (hmax : 1 ≤ config.maxFailures) (hblock : config.window ≤ config.block)
    (hroom : th.trackedKeys < maxTrackedKeys) (h : Simulates config keys now th l)
    (hallowed : th.check key now = .allowed) (hkey : key ∈ keys) :
    Simulates config keys now (th.recordFailure key now) (l.recordFailure key now) where
  thConfig := recordFailure_config.trans h.thConfig
  limiterConfig := h.limiterConfig
  tracks key' := by
    by_cases heq : key' = key
    · subst heq
      rw [recordFailure_state hroom, h.thConfig]
      rw [RelayTerm.Auth.check_eq] at hallowed
      simpa [IdealLimiter.recordFailure] using (h.tracks key').failure hmax hblock hallowed
    · rw [recordFailure_state_ne hroom heq]
      simpa [IdealLimiter.recordFailure, heq] using h.tracks key'
  known key' hmem := by
    rcases mem_keys_recordFailure hroom hmem with rfl | hold
    · exact hkey
    · exact h.known key' hold

theorem Simulates.recordSuccess (hmax : 1 ≤ config.maxFailures) (h : Simulates config keys now th l) (key : String) :
    Simulates config keys now (th.recordSuccess key) (l.recordSuccess key) where
  thConfig := h.thConfig
  limiterConfig := h.limiterConfig
  tracks key' := by
    rw [recordSuccess_state]
    by_cases heq : key' = key
    · simpa [IdealLimiter.recordSuccess, heq] using Tracks.new hmax now
    · simpa [IdealLimiter.recordSuccess, heq] using h.tracks key'
  known key' hmem := by
    rw [LoginThrottler.recordSuccess, ← AList.mem_keys, AList.mem_erase] at hmem
    exact h.known key' hmem.2

theorem Simulates.cleanup (hmax : 1 ≤ config.maxFailures) (h : Simulates config keys now th l) :
    Simulates config keys now (th.cleanup now) l where
  thConfig := h.thConfig
  limiterConfig := h.limiterConfig
  tracks key := by
    rw [cleanup_state, h.thConfig]
    split
    · next hidle => exact (h.tracks key).dropped hmax hidle
    · exact h.tracks key
  known key hmem := by
    rw [mem_keys_cleanup] at hmem
    apply h.known key
    rw [← AList.mem_keys, ← AList.lookup_isSome]
    unfold LoginThrottler.state at hmem
    cases hst : th.inner.lookup key with
    | none => simp [hst] at hmem
    | some st => rfl

/-- One use of the throttler, at a time no earlier than the last. -/
theorem use_simulates (hmax : 1 ≤ config.maxFailures) (hblock : config.window ≤ config.block)
    (hkeys : keys.dedup.length < maxTrackedKeys) (u : Use) (hu : ∀ key ∈ u.onKey, key ∈ keys)
    (h : Simulates config keys clock th l) (hle : clock ≤ tick Use.time clock u) :
    (th.use u).2 = (l.use u).2 ∧ Simulates config keys (tick Use.time clock u) (th.use u).1 (l.use u).1 := by
  cases u with
  | cleanup now => exact ⟨rfl, (h.later hle).cleanup hmax⟩
  | attempt a =>
    have hnow := h.later hle
    have hroom := hnow.room hkeys
    have hcheck := hnow.check_eq a.key
    simp only [LoginThrottler.use, IdealLimiter.use]
    cases hdecision : th.check a.key a.now with
    | throttled secs =>
      rw [show l.check a.key a.now = _ from hcheck.symm.trans hdecision]
      exact ⟨rfl, hnow⟩
    | allowed =>
      rw [show l.check a.key a.now = _ from hcheck.symm.trans hdecision]
      refine ⟨rfl, ?_⟩
      cases hsucc : a.succeeds with
      | true => exact hnow.recordSuccess hmax a.key
      | false => exact hnow.recordFailure hmax hblock hroom hdecision (hu a.key rfl)

/-! ## Runs -/

/-- A failing attempt on the key that was let through. -/
def failed (key : String) (e : LoginAttempt × ThrottleDecision) : Bool :=
  e.1.key = key && !e.1.succeeds && e.2 = .allowed

/-- A successful one. -/
def succeeded (key : String) (e : LoginAttempt × ThrottleDecision) : Bool :=
  e.1.key = key && e.1.succeeds && e.2 = .allowed

/-- Without a success the limiter's history of the key grows by the failures let through. -/
theorem history_finish (l : IdealLimiter) (key : String) (uses : List Use)
    (h : ∀ e ∈ outputs IdealLimiter.use l uses, succeeded key e = false) :
    (finish IdealLimiter.use l uses).history key =
      (((outputs IdealLimiter.use l uses).filter (failed key)).map (·.1.now)).reverse ++ l.history key := by
  induction uses generalizing l with
  | nil => rfl
  | cons u uses ih =>
    rw [outputs] at h
    have hrest := ih (l.use u).1 fun e he => h e (List.mem_append_right _ he)
    rw [outputs, List.filter_append, List.map_append, List.reverse_append, List.append_assoc]
    show (finish IdealLimiter.use (l.use u).1 uses).history key = _
    rw [hrest]
    congr 1
    cases u with
    | cleanup now => rfl
    | attempt a =>
      have hfirst : ∀ e ∈ (l.use (.attempt a)).2, succeeded key e = false := fun e he =>
        h e (List.mem_append_left _ (by simpa using he))
      simp only [IdealLimiter.use] at hfirst ⊢
      cases hcheck : l.check a.key a.now with
      | throttled secs => simp [failed]
      | allowed =>
        rw [hcheck] at hfirst
        have hnot := hfirst _ rfl
        by_cases hkey : a.key = key
        · have hsucc : a.succeeds = false := by simpa [succeeded, hkey] using hnot
          simp [failed, hkey, hsucc, IdealLimiter.recordFailure]
        · have hne : key ≠ a.key := fun h => hkey h.symm
          cases hsucc : a.succeeds <;>
            simp [failed, hkey, hne, hsucc, IdealLimiter.recordFailure, IdealLimiter.recordSuccess]

section Runs

variable (hmax : 1 ≤ config.maxFailures) (hblock : config.window ≤ config.block)
  (hkeys : keys.dedup.length < maxTrackedKeys) {uses pre mid : List Use}
include hmax hblock hkeys

theorem run_simulates (h : Simulates config keys clock th l) (hon : ∀ u ∈ uses, ∀ key ∈ u.onKey, key ∈ keys)
    (hordered : Ordered Use.time clock uses) :
    outputs LoginThrottler.use th uses = outputs IdealLimiter.use l uses ∧
      Simulates config keys (lastTick Use.time clock uses) (finish LoginThrottler.use th uses)
        (finish IdealLimiter.use l uses) := by
  have hstep : ∀ clock th l, ∀ u ∈ uses, Simulates config keys clock th l → clock ≤ tick Use.time clock u →
      (th.use u).2 = (l.use u).2 ∧ Simulates config keys (tick Use.time clock u) (th.use u).1 (l.use u).1 :=
    fun clock th l u hu => use_simulates hmax hblock hkeys u (hon u hu)
  exact ⟨outputs_eq hstep h hordered, finish_related hstep h hordered⟩

/-- In a stretch of a run without a success of the key, the failing attempts let through are no more than the policy
allows among times less than a window apart. -/
theorem stretch_bound (hon : ∀ u ∈ pre ++ mid, ∀ key ∈ u.onKey, key ∈ keys)
    (hordered : Ordered Use.time clock (pre ++ mid))
    (hsucc : ∀ e ∈ outputs LoginThrottler.use (finish LoginThrottler.use (.new config) pre) mid,
      succeeded key e = false)
    (P : Int → Bool) (hP : ∀ t u, P t = true → P u = true → t < u + config.window) :
    (outputs LoginThrottler.use (finish LoginThrottler.use (.new config) pre) mid).countP
      (fun e => failed key e && P e.1.now) ≤ config.maxFailures := by
  obtain ⟨hpre, hmid⟩ := ordered_append.1 hordered
  obtain ⟨-, hafter⟩ := run_simulates hmax hblock hkeys (init_simulates hmax keys clock)
    (fun u hu => hon u (List.mem_append_left _ hu)) hpre
  obtain ⟨hlog, hend⟩ := run_simulates hmax hblock hkeys hafter (fun u hu => hon u (List.mem_append_right _ hu)) hmid
  rw [hlog] at hsucc ⊢
  -- These attempts are in the limiter's history at the end.
  have hbound := (hend.tracks key).bound P hP
  rw [history_finish _ key mid hsucc, List.countP_append, List.countP_reverse, List.countP_map, List.countP_filter]
    at hbound
  have hcongr : ∀ log : List (LoginAttempt × ThrottleDecision), log.countP (fun e => failed key e && P e.1.now) =
      log.countP (fun e => (P ∘ fun e => e.1.now) e && failed key e) := fun log =>
    List.countP_congr fun e _ => by simp [and_comm]
  rw [hcongr]
  omega

end Runs

/-- Used one attempt at a time, the throttler decides as the ideal limiter does, and so lets through at most
`max_failures` failing attempts on a key in an interval of length `window`. -/
theorem limiter_exact (config : LoginThrottleConfig) (hmax : 1 ≤ config.maxFailures)
    (hblock : config.window ≤ config.block) (start : Int) (uses : List Use) (hordered : Ordered Use.time start uses)
    (hkeys : (uses.filterMap Use.onKey).dedup.length < maxTrackedKeys) :
    outputs LoginThrottler.use (.new config) uses = outputs IdealLimiter.use (.new config) uses ∧
    ∀ (pre mid post : List Use) (key : String), uses = pre ++ mid ++ post →
      let log := outputs LoginThrottler.use (finish LoginThrottler.use (.new config) pre) mid
      (∀ e ∈ log, succeeded key e = false) → ∀ s : Int,
        log.countP (fun e => failed key e && (s ≤ e.1.now && e.1.now < s + config.window)) ≤ config.maxFailures ∧
        log.countP (fun e => failed key e && (s < e.1.now && e.1.now ≤ s + config.window)) ≤ config.maxFailures := by
  have hon : ∀ u ∈ uses, ∀ key ∈ u.onKey, key ∈ uses.filterMap Use.onKey := fun u hu key hkey =>
    List.mem_filterMap.2 ⟨u, hu, hkey⟩
  refine ⟨(run_simulates hmax hblock hkeys (init_simulates hmax _ start) hon hordered).1, ?_⟩
  rintro pre mid post key rfl log hsucc s
  have hstretch := stretch_bound hmax hblock hkeys (fun u hu => hon u (List.mem_append_left post hu))
    (ordered_append.1 hordered).1 hsucc
  constructor
  · apply hstretch (fun t => s ≤ t && t < s + config.window)
    intro t u ht hu
    simp only [Bool.and_eq_true, decide_eq_true_eq] at ht hu
    omega
  · apply hstretch (fun t => s < t && t ≤ s + config.window)
    intro t u ht hu
    simp only [Bool.and_eq_true, decide_eq_true_eq] at ht hu
    omega

/-- Two failures in ten seconds block for twenty. -/
def twoInTen : LoginThrottleConfig := ⟨2, 10 * nanosPerSecond, 20 * nanosPerSecond⟩

def sixGuesses : List Use :=
  [.attempt ⟨"a", 0, false⟩, .attempt ⟨"a", 10 * nanosPerSecond, false⟩, .attempt ⟨"a", 11 * nanosPerSecond, false⟩,
    .attempt ⟨"a", 12 * nanosPerSecond, true⟩, .attempt ⟨"b", 12 * nanosPerSecond, true⟩,
    .cleanup (13 * nanosPerSecond), .attempt ⟨"a", 31 * nanosPerSecond, false⟩,
    .attempt ⟨"a", 31 * nanosPerSecond, false⟩, .attempt ⟨"a", 31 * nanosPerSecond, false⟩]

/-- The failure at 0 has left the window at 10; those at 10 and 11 block until 31. -/
theorem limiter_exact_six :
    (outputs LoginThrottler.use (.new twoInTen) sixGuesses).map (·.2) =
      [.allowed, .allowed, .allowed, .throttled 19, .allowed, .allowed, .allowed, .throttled 20] ∧
    outputs LoginThrottler.use (.new twoInTen) sixGuesses = outputs IdealLimiter.use (.new twoInTen) sixGuesses :=
  ⟨by decide, (limiter_exact twoInTen (by decide) (by decide) 0 sixGuesses (by decide) (by decide)).1⟩

end RelayTerm.Auth
