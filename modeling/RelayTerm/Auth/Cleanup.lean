import RelayTerm.Auth.Throttle
import RelayTerm.Lib.Clocked
/-!
# Cleanup cannot be noticed

A cleanup drops the entries that are idle, and an idle entry says no more than a
missing one, now and at any later time. Whether a failure of a new key is still
tracked depends on the number of entries, but only on those that are not idle:
a full table is cleaned first. So two throttlers whose entries differ in idle
ones, and in blocks that are over, answer all later checks alike.
-/
open RelayTerm.Lib

namespace RelayTerm.Auth

variable {config : LoginThrottleConfig} {st a b : AttemptState} {clock now window : Int} {th th' : LoginThrottler}
  {key key' : String}

/-! ## The table by keys -/

/-- What a check says under a block, if there is one. -/
def blockDecision (now : Int) : Option Int → ThrottleDecision
  | some blockEnd =>
    if now < blockEnd then .throttled (max ((blockEnd - now) / nanosPerSecond) 1).toNat else .allowed
  | none => .allowed

def AttemptState.decision (st : AttemptState) (now : Int) : ThrottleDecision := blockDecision now st.blockedUntil

theorem check_eq (th : LoginThrottler) (key : String) (now : Int) : th.check key now = (th.state key).decision now := by
  unfold LoginThrottler.check LoginThrottler.state
  cases th.inner.lookup key <;> rfl

@[simp] theorem isIdle_new (now window : Int) : AttemptState.new.isIdle now window = true := rfl

theorem cleanup_lookup (th : LoginThrottler) (now : Int) (key : String) (st : AttemptState) :
    (th.cleanup now).inner.lookup key = some st ↔
      th.inner.lookup key = some st ∧ st.isIdle now th.config.window = false := by
  rw [LoginThrottler.cleanup, Registry.lookup_retain_iff, Bool.not_eq_true']

theorem cleanup_state (th : LoginThrottler) (now : Int) (key : String) : (th.cleanup now).state key =
    if (th.state key).isIdle now th.config.window then .new else th.state key := by
  have hlookup := cleanup_lookup th now key
  unfold LoginThrottler.state
  cases hst : th.inner.lookup key with
  | none =>
    have hnone : (th.cleanup now).inner.lookup key = none := by
      apply Option.eq_none_iff_forall_ne_some.2
      intro st h
      rw [hlookup st, hst] at h
      cases h.1
    rw [hnone]
    simp
  | some st =>
    cases hidle : st.isIdle now th.config.window with
    | true =>
      have hnone : (th.cleanup now).inner.lookup key = none := by
        apply Option.eq_none_iff_forall_ne_some.2
        intro st' h
        rw [hlookup st', hst] at h
        obtain ⟨heq, hlive⟩ := h
        cases heq
        rw [hidle] at hlive
        cases hlive
      rw [hnone]
      simp [hidle]
    | false =>
      rw [(hlookup st).2 ⟨hst, hidle⟩]
      simp [hidle]

theorem recordSuccess_state (th : LoginThrottler) (key key' : String) :
    (th.recordSuccess key).state key' = if key' = key then .new else th.state key' := by
  by_cases h : key' = key
  · subst h
    simp [LoginThrottler.recordSuccess, LoginThrottler.state]
  · rw [if_neg h, recordSuccess_state_ne h]

/-! ## Which failures are tracked -/

/-- `record_failure` makes room in a full table first. -/
def LoginThrottler.tidied (th : LoginThrottler) (now : Int) : LoginThrottler :=
  if th.trackedKeys ≥ maxTrackedKeys then th.cleanup now else th

/-- A failure of the key finds its entry, or room for one. -/
def LoginThrottler.tracks (th : LoginThrottler) (key : String) : Bool :=
  (th.inner.lookup key).isSome || th.trackedKeys < maxTrackedKeys

theorem recordTracked_state (th : LoginThrottler) (key key' : String) (now : Int) :
    (th.recordTracked key now).state key' =
      if key' = key ∧ th.tracks key then (th.state key).recordFailure th.config now else th.state key' := by
  unfold LoginThrottler.recordTracked LoginThrottler.tracks LoginThrottler.state
  by_cases hkey : key' = key
  · subst hkey
    cases hst : th.inner.lookup key' with
    | some st => simp
    | none => by_cases hfull : th.trackedKeys ≥ maxTrackedKeys <;> simp [hst, hfull, Nat.not_lt.2, Nat.not_le.1]
  · cases hst : th.inner.lookup key with
    | some st => simp [hkey, AList.lookup_insert_ne hkey]
    | none => by_cases hfull : th.trackedKeys ≥ maxTrackedKeys <;> simp [hkey, hfull, AList.lookup_insert_ne hkey]

theorem mem_keys_cleanup (th : LoginThrottler) (now : Int) (key : String) :
    key ∈ (th.cleanup now).inner.keys ↔ (th.state key).isIdle now th.config.window = false := by
  rw [← AList.mem_keys, ← AList.lookup_isSome, Option.isSome_iff_exists]
  simp only [cleanup_lookup]
  unfold LoginThrottler.state
  cases th.inner.lookup key <;> simp

theorem trackedKeys_cleanup_le (th : LoginThrottler) (now : Int) : (th.cleanup now).trackedKeys ≤ th.trackedKeys :=
  List.length_filter_le _ _

/-- Idle entries make no difference to what is tracked. -/
theorem tidied_tracks (th : LoginThrottler) (now : Int) (key : String) : (th.tidied now).tracks key = true ↔
    (th.state key).isIdle now th.config.window = false ∨ (th.cleanup now).trackedKeys < maxTrackedKeys := by
  have hle := trackedKeys_cleanup_le th now
  rw [← mem_keys_cleanup, ← AList.mem_keys, ← AList.lookup_isSome]
  unfold LoginThrottler.tidied LoginThrottler.tracks
  by_cases hfull : th.trackedKeys ≥ maxTrackedKeys
  · rw [if_pos hfull, Bool.or_eq_true, decide_eq_true_eq]
  · rw [if_neg hfull, Bool.or_eq_true, decide_eq_true_eq]
    constructor
    · intro _
      right
      omega
    · intro _
      right
      omega

/-! ## States that answer alike -/

theorem isBlocked_eq_false_iff : st.isBlocked now = false ↔ ∀ blockEnd ∈ st.blockedUntil, blockEnd ≤ now := by
  unfold AttemptState.isBlocked
  cases st.blockedUntil <;> simp

theorem isBlocked_later (h : st.isBlocked clock = false) (hle : clock ≤ now) : st.isBlocked now = false := by
  rw [isBlocked_eq_false_iff] at h ⊢
  intro blockEnd hend
  exact Int.le_trans (h blockEnd hend) hle

theorem isIdle_iff : st.isIdle now window = true ↔ st.isBlocked now = false ∧ ∀ t ∈ st.failures, t ≤ now - window := by
  simp [AttemptState.isIdle]

theorem isIdle_later (h : st.isIdle clock window = true) (hle : clock ≤ now) : st.isIdle now window = true := by
  obtain ⟨hblock, hfailures⟩ := isIdle_iff.1 h
  refine isIdle_iff.2 ⟨isBlocked_later hblock hle, ?_⟩
  intro t ht
  have := hfailures t ht
  omega

theorem blockDecision_eq_allowed {block : Option Int} :
    blockDecision now block = .allowed ↔ ∀ blockEnd ∈ block, blockEnd ≤ now := by
  cases block with
  | none => simp [blockDecision]
  | some blockEnd =>
    by_cases h : now < blockEnd
    · simp [blockDecision, h]
    · simpa [blockDecision, h] using Int.not_lt.1 h

theorem decision_allowed (h : st.isBlocked now = false) : st.decision now = .allowed :=
  blockDecision_eq_allowed.2 (isBlocked_eq_false_iff.1 h)

/-- The blocks are the same, or over. -/
def SameBlock (clock : Int) (a b : AttemptState) : Prop :=
  a.blockedUntil = b.blockedUntil ∨ a.isBlocked clock = false ∧ b.isBlocked clock = false

theorem SameBlock.isBlocked_eq (h : SameBlock clock a b) : a.isBlocked clock = b.isBlocked clock := by
  rcases h with h | ⟨ha, hb⟩
  · unfold AttemptState.isBlocked
    rw [h]
  · rw [ha, hb]

/-- The states agree, or say nothing. -/
def Alike (clock window : Int) (a b : AttemptState) : Prop :=
  a.isIdle clock window = true ∧ b.isIdle clock window = true ∨ a.failures = b.failures ∧ SameBlock clock a b

theorem Alike.refl (clock window : Int) (a : AttemptState) : Alike clock window a a := .inr ⟨rfl, .inl rfl⟩

theorem Alike.symm (h : Alike clock window a b) : Alike clock window b a := by
  rcases h with ⟨ha, hb⟩ | ⟨hfailures, hblock | ⟨ha, hb⟩⟩
  · exact .inl ⟨hb, ha⟩
  · exact .inr ⟨hfailures.symm, .inl hblock.symm⟩
  · exact .inr ⟨hfailures.symm, .inr ⟨hb, ha⟩⟩

theorem Alike.later (h : Alike clock window a b) (hle : clock ≤ now) : Alike now window a b := by
  rcases h with ⟨ha, hb⟩ | ⟨hfailures, hblock | ⟨ha, hb⟩⟩
  · exact .inl ⟨isIdle_later ha hle, isIdle_later hb hle⟩
  · exact .inr ⟨hfailures, .inl hblock⟩
  · exact .inr ⟨hfailures, .inr ⟨isBlocked_later ha hle, isBlocked_later hb hle⟩⟩

theorem Alike.decision_eq (h : Alike now window a b) : a.decision now = b.decision now := by
  rcases h with ⟨ha, hb⟩ | ⟨-, hblock | ⟨ha, hb⟩⟩
  · rw [decision_allowed (isIdle_iff.1 ha).1, decision_allowed (isIdle_iff.1 hb).1]
  · unfold AttemptState.decision
    rw [hblock]
  · rw [decision_allowed ha, decision_allowed hb]

theorem Alike.isIdle_eq (h : Alike now window a b) : a.isIdle now window = b.isIdle now window := by
  rcases h with ⟨ha, hb⟩ | ⟨hfailures, hblock⟩
  · rw [ha, hb]
  · unfold AttemptState.isIdle
    rw [hblock.isBlocked_eq, hfailures]

/-- Dropping an idle state. -/
theorem Alike.dropped (h : Alike now window a b) : Alike now window (if a.isIdle now window then .new else a) b := by
  by_cases hidle : a.isIdle now window = true
  · rw [if_pos hidle]
    exact .inl ⟨rfl, h.isIdle_eq.symm.trans hidle⟩
  · rw [if_neg hidle]
    exact h

/-- A block that is raised after the last one is over. -/
theorem raiseBlock_unblocked (hblock : st.isBlocked now = false) (hlen : config.maxFailures ≤ st.failures.length)
    (hpos : 0 < config.block) : (st.raiseBlock config now).blockedUntil = some (now + config.block) := by
  unfold AttemptState.raiseBlock
  rw [if_pos hlen]
  cases hend : st.blockedUntil with
  | none => rfl
  | some prev =>
    have hprev := isBlocked_eq_false_iff.1 hblock prev hend
    simp only [if_neg (show ¬ prev > now + config.block by omega)]

/-- Without a duration it is over at once. -/
theorem raiseBlock_over (hblock : st.isBlocked now = false) (hpos : ¬ 0 < config.block) :
    (st.raiseBlock config now).isBlocked now = false := by
  rw [isBlocked_eq_false_iff] at hblock ⊢
  unfold AttemptState.raiseBlock
  split
  · intro blockEnd h
    obtain rfl := Option.mem_some_iff.1 h
    split
    · next prev hend =>
      have hprev := hblock prev hend
      split <;> omega
    · omega
  · exact hblock

/-- A new block ends the same for both, unless it is over at once. -/
theorem SameBlock.raiseBlock (h : SameBlock now a b) (hfailures : a.failures = b.failures) :
    SameBlock now (a.raiseBlock config now) (b.raiseBlock config now) := by
  rcases h with heq | ⟨ha, hb⟩
  · left
    unfold AttemptState.raiseBlock
    rw [hfailures]
    split
    · rw [heq]
    · exact heq
  · by_cases hpos : 0 < config.block
    · by_cases hlen : config.maxFailures ≤ a.failures.length
      · left
        rw [raiseBlock_unblocked ha hlen hpos, raiseBlock_unblocked hb (hfailures ▸ hlen) hpos]
      · unfold AttemptState.raiseBlock
        rw [if_neg hlen, if_neg (hfailures ▸ hlen)]
        exact .inr ⟨ha, hb⟩
    · exact .inr ⟨raiseBlock_over ha hpos, raiseBlock_over hb hpos⟩

theorem pruneWindow_idle (h : st.isIdle now window = true) : (st.pruneWindow now window).failures = [] := by
  apply List.filter_eq_nil_iff.2
  intro t ht
  have := (isIdle_iff.1 h).2 t ht
  simp only [decide_eq_true_eq]
  omega

theorem Alike.recordFailure (h : Alike now config.window a b) :
    Alike now config.window (a.recordFailure config now) (b.recordFailure config now) := by
  -- Pruning leaves both with the same failures.
  have hpruned : (a.pruneWindow now config.window).failures = (b.pruneWindow now config.window).failures ∧
      SameBlock now a b := by
    rcases h with ⟨ha, hb⟩ | ⟨hfailures, hblock⟩
    · exact ⟨(pruneWindow_idle ha).trans (pruneWindow_idle hb).symm, .inr ⟨(isIdle_iff.1 ha).1, (isIdle_iff.1 hb).1⟩⟩
    · refine ⟨?_, hblock⟩
      unfold AttemptState.pruneWindow
      rw [hfailures]
  have hpushed : ((a.pruneWindow now config.window).push config now).failures =
      ((b.pruneWindow now config.window).push config now).failures := by
    unfold AttemptState.push
    rw [hpruned.1]
    split
    · rfl
    · exact hpruned.1
  have hblock : SameBlock now ((a.pruneWindow now config.window).push config now)
      ((b.pruneWindow now config.window).push config now) := by
    have hsame := hpruned.2
    unfold SameBlock AttemptState.isBlocked at hsame ⊢
    rw [push_blockedUntil, push_blockedUntil]
    exact hsame
  refine .inr ⟨?_, hblock.raiseBlock hpushed⟩
  unfold AttemptState.recordFailure
  rw [raiseBlock_failures, raiseBlock_failures, hpushed]

/-! ## Throttlers that answer alike -/

structure Agree (clock : Int) (th th' : LoginThrottler) : Prop where
  config : th.config = th'.config
  alike : ∀ key, Alike clock th.config.window (th.state key) (th'.state key)

theorem Agree.refl (clock : Int) (th : LoginThrottler) : Agree clock th th := ⟨rfl, fun _ => .refl _ _ _⟩

theorem Agree.symm (h : Agree clock th th') : Agree clock th' th :=
  ⟨h.config.symm, fun key => h.config ▸ (h.alike key).symm⟩

theorem Agree.later (h : Agree clock th th') (hle : clock ≤ now) : Agree now th th' :=
  ⟨h.config, fun key => (h.alike key).later hle⟩

/-- One of the two is cleaned. -/
theorem Agree.cleanup_left (h : Agree now th th') : Agree now (th.cleanup now) th' where
  config := h.config
  alike key := by
    rw [cleanup_state]
    exact (h.alike key).dropped

theorem Agree.cleanup (h : Agree now th th') : Agree now (th.cleanup now) (th'.cleanup now) :=
  h.cleanup_left.symm.cleanup_left.symm

theorem Agree.tidied (h : Agree now th th') : Agree now (th.tidied now) (th'.tidied now) := by
  have hleft : ∀ {x y : LoginThrottler}, Agree now x y → Agree now (x.tidied now) y := by
    intro x y hxy
    unfold LoginThrottler.tidied
    split
    · exact hxy.cleanup_left
    · exact hxy
  exact (hleft (hleft h).symm).symm

/-- The entries that are not idle are those of the same keys. -/
theorem Agree.trackedKeys_cleanup (h : Agree now th th') :
    (th.cleanup now).trackedKeys = (th'.cleanup now).trackedKeys := by
  have hperm : (th.cleanup now).inner.keys.Perm (th'.cleanup now).inner.keys := by
    apply (List.perm_ext_iff_of_nodup (AList.keys_nodup _) (AList.keys_nodup _)).2
    intro key
    rw [mem_keys_cleanup, mem_keys_cleanup, (h.alike key).isIdle_eq, h.config]
  have hlength := hperm.length_eq
  unfold AList.keys List.keys at hlength
  rw [List.length_map, List.length_map] at hlength
  exact hlength

theorem Agree.tracks (h : Agree now th th') (key : String) :
    (th.tidied now).tracks key = (th'.tidied now).tracks key := by
  rw [Bool.eq_iff_iff, tidied_tracks, tidied_tracks, h.trackedKeys_cleanup, (h.alike key).isIdle_eq, h.config]

theorem tidied_config (th : LoginThrottler) (now : Int) : (th.tidied now).config = th.config := by
  unfold LoginThrottler.tidied
  split <;> rfl

theorem Agree.recordFailure (h : Agree now th th') (key : String) :
    Agree now (th.recordFailure key now) (th'.recordFailure key now) where
  config := by
    rw [recordFailure_config, recordFailure_config, h.config]
  alike key' := by
    have htidied := h.tidied
    have hwindow : (th.recordFailure key now).config.window = (th.tidied now).config.window := by
      rw [recordFailure_config, tidied_config]
    rw [hwindow]
    show Alike now _ (((th.tidied now).recordTracked key now).state key')
      (((th'.tidied now).recordTracked key now).state key')
    rw [recordTracked_state, recordTracked_state, h.tracks key, ← htidied.config]
    split
    · exact (htidied.alike key).recordFailure
    · exact htidied.alike key'

theorem Agree.recordSuccess (h : Agree now th th') (key : String) :
    Agree now (th.recordSuccess key) (th'.recordSuccess key) where
  config := h.config
  alike key' := by
    rw [recordSuccess_state, recordSuccess_state]
    split
    · exact .refl _ _ _
    · exact h.alike key'

/-! ## Calls -/

inductive Call where
  | check (key : String) (now : Int)
  | recordFailure (key : String) (now : Int)
  | recordSuccess (key : String)
  | cleanup (now : Int)
  deriving DecidableEq, Repr

def Call.time : Call → Option Int
  | .check _ now | .recordFailure _ now | .cleanup now => some now
  | .recordSuccess _ => none

def LoginThrottler.call (th : LoginThrottler) : Call → LoginThrottler × Option ThrottleDecision
  | .check key now => (th, some (th.check key now))
  | .recordFailure key now => (th.recordFailure key now, none)
  | .recordSuccess key => (th.recordSuccess key, none)
  | .cleanup now => (th.cleanup now, none)

theorem call_agree (c : Call) (h : Agree clock th th') (hle : clock ≤ tick Call.time clock c) :
    (th.call c).2 = (th'.call c).2 ∧ Agree (tick Call.time clock c) (th.call c).1 (th'.call c).1 := by
  cases c with
  | check key now =>
    have hnow := h.later hle
    refine ⟨?_, hnow⟩
    show some (th.check key now) = some (th'.check key now)
    rw [check_eq, check_eq]
    exact congrArg some (hnow.alike key).decision_eq
  | recordFailure key now => exact ⟨rfl, (h.later hle).recordFailure key⟩
  | recordSuccess key => exact ⟨rfl, h.recordSuccess key⟩
  | cleanup now => exact ⟨rfl, (h.later hle).cleanup⟩

/-- A cleanup at `t` makes no difference to any later check. -/
theorem cleanup_invisible (th : LoginThrottler) (t : Int) (calls : List Call) (h : Ordered Call.time t calls) :
    outputs LoginThrottler.call (th.cleanup t) calls = outputs LoginThrottler.call th calls :=
  outputs_eq (fun _ _ _ c _ hagree hle => call_agree c hagree hle) (Agree.refl t th).cleanup_left h

/-- A key whose failure has left the window, and one whose block is over. -/
def twoIdle : LoginThrottler where
  config := ⟨2, 10, 10⟩
  inner := AList.insert "a" ⟨[0], none⟩ (AList.insert "b" ⟨[0, 1], some 11⟩ ∅)

def callsAfter : List Call :=
  [.check "a" 20, .recordFailure "a" 21, .recordFailure "b" 21, .recordFailure "a" 22, .check "a" 23,
    .recordSuccess "a", .check "b" 25]

theorem cleanup_invisible_two :
    outputs LoginThrottler.call twoIdle callsAfter = [.allowed, .throttled 1, .allowed] ∧
      (twoIdle.cleanup 20).trackedKeys = 0 := by
  have hclean : outputs LoginThrottler.call (twoIdle.cleanup 20) callsAfter = [.allowed, .throttled 1, .allowed] := by
    decide
  exact ⟨(cleanup_invisible twoIdle 20 callsAfter (by decide)).symm.trans hclean, by decide⟩

end RelayTerm.Auth
