import Mathlib.Data.List.Count
import RelayTerm.Lib.Registry
/-!
# The login throttler

Failures are counted per key over a sliding window, and a key that reaches
`max_failures` is blocked. A failure is recorded under the clock reading its
request took at the start, so failures arrive late and out of order. Still, as
long as a window has not passed, the throttler has all its failures or has
blocked the key for longer than the window.

Clock readings and durations are in nanoseconds.
-/
open RelayTerm.Lib

namespace RelayTerm.Auth

def nanosPerSecond : Int := 1000000000

def maxTrackedKeys : Nat := 10000

structure LoginThrottleConfig where
  maxFailures : Nat
  window : Int
  block : Int
  deriving DecidableEq, Repr

def LoginThrottleConfig.v1Default : LoginThrottleConfig where
  maxFailures := 5
  window := 15 * 60 * nanosPerSecond
  block := 15 * 60 * nanosPerSecond

inductive ThrottleDecision where
  | allowed
  | throttled (retryAfterSeconds : Nat)
  deriving DecidableEq, Repr

structure AttemptState where
  failures : List Int
  blockedUntil : Option Int
  deriving DecidableEq, Repr

namespace AttemptState

def new : AttemptState := ⟨[], none⟩

def pruneWindow (st : AttemptState) (now : Int) (window : Int) : AttemptState :=
  { st with failures := st.failures.filter fun t => t > now - window }

def isBlocked (st : AttemptState) (now : Int) : Bool :=
  match st.blockedUntil with
  | some blockEnd => now < blockEnd
  | none => false

def isIdle (st : AttemptState) (now : Int) (window : Int) : Bool :=
  !st.isBlocked now && !st.failures.any fun t => t > now - window

/-- The failure joins the list, which holds no more than `max_failures + 1`. -/
def push (st : AttemptState) (config : LoginThrottleConfig) (now : Int) : AttemptState :=
  if st.failures.length < config.maxFailures + 1 then { st with failures := st.failures ++ [now] } else st

/-- Start a block or extend it, never shorten it. -/
def raiseBlock (st : AttemptState) (config : LoginThrottleConfig) (now : Int) : AttemptState :=
  if st.failures.length ≥ config.maxFailures then
    let newUntil := now + config.block
    { st with
      blockedUntil := some (match st.blockedUntil with
        | some prev => if prev > newUntil then prev else newUntil
        | none => newUntil) }
  else st

/-- `record_failure` on the state of its key. -/
def recordFailure (st : AttemptState) (config : LoginThrottleConfig) (now : Int) : AttemptState :=
  ((st.pruneWindow now config.window).push config now).raiseBlock config now

end AttemptState

structure LoginThrottler where
  config : LoginThrottleConfig
  inner : Registry String AttemptState
  deriving DecidableEq

namespace LoginThrottler

variable (th : LoginThrottler)

def new (config : LoginThrottleConfig) : LoginThrottler := ⟨config, ∅⟩

def trackedKeys : Nat := th.inner.entries.length

def check (key : String) (now : Int) : ThrottleDecision :=
  match th.inner.lookup key with
  | none => .allowed
  | some st => match st.blockedUntil with
    | some blockEnd =>
      if now < blockEnd then .throttled (max ((blockEnd - now) / nanosPerSecond) 1).toNat else .allowed
    | none => .allowed

/-- Drop the idle entries. -/
def cleanup (now : Int) : LoginThrottler :=
  { th with inner := th.inner.retain fun st => !st.isIdle now th.config.window }

/-- `record_failure` once there is room. -/
def recordTracked (key : String) (now : Int) : LoginThrottler :=
  match th.inner.lookup key with
  | some st => { th with inner := th.inner.insert key (st.recordFailure th.config now) }
  | none =>
    if th.trackedKeys ≥ maxTrackedKeys then th
    else { th with inner := th.inner.insert key (AttemptState.new.recordFailure th.config now) }

def recordFailure (key : String) (now : Int) : LoginThrottler :=
  (if th.trackedKeys ≥ maxTrackedKeys then th.cleanup now else th).recordTracked key now

def recordSuccess (key : String) : LoginThrottler := { th with inner := th.inner.erase key }

/-- What the throttler knows of a key. -/
def state (key : String) : AttemptState := (th.inner.lookup key).getD .new

end LoginThrottler

/-! ## What the throttler knows of a window -/

variable {config : LoginThrottleConfig} {st : AttemptState} {recorded : List Int} {clock now : Int}

/-- The failures from `start` on. -/
def since (start : Int) (times : List Int) : Nat := times.countP fun t => start ≤ t

/-- The key is blocked at least until `t`. -/
def AttemptState.BlockedTo (st : AttemptState) (t : Int) : Prop :=
  ∃ blockEnd, st.blockedUntil = some blockEnd ∧ t ≤ blockEnd

/-- Of each window that the clock has not left, the state has all the failures
recorded, fewer than `max_failures`, or the key is blocked beyond its end. -/
def AttemptState.Knows (config : LoginThrottleConfig) (recorded : List Int) (clock : Int) (st : AttemptState) : Prop :=
  ∀ start, clock < start + config.window → st.BlockedTo (start + config.block) ∨
    since start recorded < config.maxFailures ∧ since start st.failures = since start recorded

theorem knows_new (hmax : 1 ≤ config.maxFailures) : AttemptState.Knows config [] clock .new :=
  fun _ _ => .inr ⟨hmax, rfl⟩

/-- Time goes by. -/
theorem AttemptState.Knows.later (h : st.Knows config recorded clock) (hle : clock ≤ now) :
    st.Knows config recorded now := fun start hstart => h start (by omega)

theorem raiseBlock_failures : (st.raiseBlock config now).failures = st.failures := by
  unfold AttemptState.raiseBlock
  split <;> rfl

theorem raiseBlock_blockedUntil (now : Int) (hlen : config.maxFailures ≤ st.failures.length) :
    (st.raiseBlock config now).BlockedTo (now + config.block) := by
  unfold AttemptState.raiseBlock
  rw [if_pos hlen]
  refine ⟨_, rfl, ?_⟩
  split
  · split <;> omega
  · exact Int.le_refl _

/-- A block is never shortened. -/
theorem raiseBlock_blockedTo {t : Int} (h : st.BlockedTo t) : (st.raiseBlock config now).BlockedTo t := by
  unfold AttemptState.raiseBlock
  split
  · obtain ⟨blockEnd, hend, hle⟩ := h
    refine ⟨_, rfl, ?_⟩
    rw [hend]
    dsimp only
    split <;> omega
  · exact h

theorem push_blockedUntil : (st.push config now).blockedUntil = st.blockedUntil := by
  unfold AttemptState.push
  split <;> rfl

/-- Pruning at `now` keeps every window that is still open at `now`. -/
theorem since_pruneWindow {start : Int} (h : now < start + config.window) :
    since start (st.pruneWindow now config.window).failures = since start st.failures := by
  unfold since AttemptState.pruneWindow
  rw [List.countP_filter]
  refine List.countP_congr fun t _ => ?_
  simp only [Bool.and_eq_true, decide_eq_true_eq]
  constructor
  · exact fun h => h.1
  · exact fun hle => ⟨hle, by omega⟩

theorem since_append (start : Int) (times : List Int) (now : Int) :
    since start (times ++ [now]) = since start times + if start ≤ now then 1 else 0 := by
  simp [since, List.countP_append, List.countP_singleton]

/-- Only a list that is long enough for a block can lack the failure. -/
theorem since_push {start : Int} (h : start ≤ now → (st.push config now).failures.length < config.maxFailures) :
    since start (st.push config now).failures = since start st.failures + if start ≤ now then 1 else 0 := by
  unfold AttemptState.push at h ⊢
  by_cases hroom : st.failures.length < config.maxFailures + 1
  · rw [if_pos hroom]
    exact since_append start st.failures now
  · rw [if_neg hroom] at h ⊢
    have hout : ¬ start ≤ now := fun hin => hroom (Nat.lt_succ_of_lt (h hin))
    rw [if_neg hout, Nat.add_zero]

/-- A failure that arrives late: what the state knew of a window it still knows. -/
theorem recordFailure_knows (h : st.Knows config recorded clock) (hnow : now ≤ clock) :
    (st.recordFailure config now).Knows config (recorded ++ [now]) clock := by
  intro start hstart
  set pushed := (st.pruneWindow now config.window).push config now with hpushed
  rcases h start hstart with ⟨blockEnd, hend, hle⟩ | ⟨hfew, hall⟩
  · exact .inl (raiseBlock_blockedTo ⟨blockEnd, push_blockedUntil.trans hend, hle⟩)
  by_cases hfull : start ≤ now ∧ config.maxFailures ≤ pushed.failures.length
  · -- a block from a moment inside the window lasts beyond its end
    obtain ⟨blockEnd, hend, hle⟩ := raiseBlock_blockedUntil now hfull.2
    exact .inl ⟨blockEnd, hend, by omega⟩
  · have hshort : start ≤ now → pushed.failures.length < config.maxFailures := fun hin => by omega
    have hsince : since start pushed.failures = since start (recorded ++ [now]) := by
      rw [hpushed, since_push hshort, since_pruneWindow (by omega), hall, since_append]
    have hlen : since start pushed.failures ≤ pushed.failures.length := List.countP_le_length
    refine .inr ⟨?_, ?_⟩
    · by_cases hin : start ≤ now
      · omega
      · rw [since_append, if_neg hin]
        exact hfew
    · rw [AttemptState.recordFailure, raiseBlock_failures]
      exact hsince

/-! ## The throttler's table -/

variable {th : LoginThrottler} {key key' : String}

theorem recordFailure_config : (th.recordFailure key now).config = th.config := by
  unfold LoginThrottler.recordFailure LoginThrottler.recordTracked LoginThrottler.cleanup
  split <;> split <;> first | rfl | (split <;> rfl)

/-- With room in the table a failure is counted. -/
theorem recordFailure_state (hroom : th.trackedKeys < maxTrackedKeys) :
    (th.recordFailure key now).state key = (th.state key).recordFailure th.config now := by
  have hfree : ¬ th.trackedKeys ≥ maxTrackedKeys := Nat.not_le_of_lt hroom
  unfold LoginThrottler.recordFailure LoginThrottler.recordTracked LoginThrottler.state
  rw [if_neg hfree]
  cases hst : th.inner.lookup key with
  | none => simp [hfree]
  | some st => simp

theorem recordFailure_state_ne (hroom : th.trackedKeys < maxTrackedKeys) (hne : key' ≠ key) :
    (th.recordFailure key now).state key' = th.state key' := by
  have hfree : ¬ th.trackedKeys ≥ maxTrackedKeys := Nat.not_le_of_lt hroom
  unfold LoginThrottler.recordFailure LoginThrottler.recordTracked LoginThrottler.state
  rw [if_neg hfree]
  cases hst : th.inner.lookup key with
  | none => simp [hfree, AList.lookup_insert_ne hne]
  | some st => simp [AList.lookup_insert_ne hne]

theorem recordSuccess_state_ne (hne : key' ≠ key) : (th.recordSuccess key).state key' = th.state key' := by
  unfold LoginThrottler.recordSuccess LoginThrottler.state
  rw [AList.lookup_erase_ne hne]

/-- Whoever gets past the check is not blocked. -/
theorem check_allowed {t : Int} (h : th.check key now = .allowed) (hlt : now < t) : ¬ (th.state key).BlockedTo t := by
  rintro ⟨blockEnd, hend, hle⟩
  unfold LoginThrottler.state at hend
  unfold LoginThrottler.check at h
  cases hst : th.inner.lookup key with
  | none => simp [hst, AttemptState.new] at hend
  | some st =>
    rw [hst, Option.getD_some] at hend
    simp [hst, hend, show now < blockEnd by omega] at h

end RelayTerm.Auth
