import RelayTerm.Lib.Runs
import RelayTerm.Lib.SessionLock
import RelayTerm.Retention.Purge
/-!
# The advisory lock of the retention worker

`run_with_lock` takes a connection from its pool, takes the advisory lock on it,
runs the sweep, releases the lock and gives the connection back. The lock belongs
to the connection, on the server; the pool hands connections on as they are. A
call rests at an await point: the pool, a query, or the sweep. A query that fails
leaves the connection alive, and may have been executed or not.
-/
open RelayTerm.Lib

namespace RelayTerm.Retention.AdvisoryLock

abbrev ProcessId := Nat
abbrev ConnId := Nat

/-- A live connection of the pool of a process. -/
structure Conn where
  process : ProcessId
  /-- A call has it. -/
  busy : Bool
  deriving DecidableEq, Repr

inductive AdvisoryLockOutcome where
  | acquired
  | skipped
  deriving DecidableEq, Repr

def mapLockError (stage : String) : RepositoryError :=
  .database ("recording retention advisory lock " ++ stage ++ " failed")

/-! ## Calls -/

/-- Where a call of `run_with_lock` rests. -/
inductive Task where
  | acquire (process : ProcessId)
  /-- `SELECT pg_try_advisory_lock($1)` -/
  | tryLock (conn : ConnId)
  | work (conn : ConnId)
  /-- `SELECT pg_advisory_unlock($1)` -/
  | unlock (conn : ConnId)
  deriving DecidableEq, Repr

def Task.conn : Task → Option ConnId
  | .acquire _ => none
  | .tryLock conn | .work conn | .unlock conn => some conn

/-- The connection on which the call was given the lock. -/
def Task.holds : Task → Option ConnId
  | .work conn | .unlock conn => some conn
  | .acquire _ | .tryLock _ => none

/-- How the pool answers. -/
inductive Pick where
  | idle (conn : ConnId)
  | fresh
  | failed
  deriving DecidableEq, Repr

/-- How a query fares: its answer arrives, or it fails although it was executed,
or it fails and was not. -/
inductive Fate where
  | answered
  | lost
  | failed
  deriving DecidableEq, Repr

def Fate.executed : Fate → Bool
  | .answered | .lost => true
  | .failed => false

structure Sys where
  conns : Registry ConnId Conn
  nextConn : ConnId
  /-- The advisory lock, on the server. -/
  lock : SessionLock ConnId
  tasks : Registry TaskId Task
  nextTask : TaskId
  returned : List (TaskId × Except RepositoryError AdvisoryLockOutcome)

inductive Event where
  | call (process : ProcessId)
  | acquired (tid : TaskId) (pick : Pick)
  | queried (tid : TaskId) (fate : Fate)
  | worked (tid : TaskId)
  deriving DecidableEq, Repr

namespace Sys

variable (s : Sys)

/-- The call goes on to its next await point. -/
def await (tid : TaskId) (t : Task) : Sys := { s with tasks := s.tasks.insert tid t }

/-- The call has taken the connection. -/
def take (tid : TaskId) (conn : ConnId) (process : ProcessId) : Sys :=
  { s.await tid (.tryLock conn) with conns := s.conns.insert conn ⟨process, true⟩ }

/-- The call returns, and its connection goes back to the pool as it is. -/
def giveBack (tid : TaskId) (conn : ConnId) (result : Except RepositoryError AdvisoryLockOutcome) : Sys :=
  { s with
    conns := s.conns.modify conn fun c => { c with busy := false }
    tasks := s.tasks.erase tid
    returned := s.returned ++ [(tid, result)] }

def acquired (tid : TaskId) (process : ProcessId) : Pick → Option Sys
  | .idle conn => if s.conns.lookup conn = some ⟨process, false⟩ then some (s.take tid conn process) else none
  | .fresh => some { s.take tid s.nextConn process with nextConn := s.nextConn + 1 }
  | .failed => some { s with
      tasks := s.tasks.erase tid
      returned := s.returned ++ [(tid, .error (mapLockError "acquire"))] }

/-- `pg_try_advisory_lock` takes the lock, or says that another connection holds it. -/
def lockTried (tid : TaskId) (conn : ConnId) : Fate → Sys
  | .answered =>
    let s' := { s with lock := (s.lock.tryLock conn).1 }
    if (s.lock.tryLock conn).2 then s'.await tid (.work conn) else s'.giveBack tid conn (.ok .skipped)
  | .lost =>
    { s with lock := (s.lock.tryLock conn).1 }.giveBack tid conn (.error (mapLockError "try_lock"))
  | .failed => s.giveBack tid conn (.error (mapLockError "try_lock"))

/-- What `pg_advisory_unlock` answers is not looked at. -/
def unlocked (tid : TaskId) (conn : ConnId) (fate : Fate) : Sys :=
  let s' := { s with lock := if fate.executed then s.lock.unlock conn else s.lock }
  s'.giveBack tid conn (if fate = .answered then .ok .acquired else .error (mapLockError "unlock"))

def step : Event → Option Sys
  | .call process => some { s.await s.nextTask (.acquire process) with nextTask := s.nextTask + 1 }
  | .acquired tid pick => match s.tasks.lookup tid with
    | some (.acquire process) => s.acquired tid process pick
    | _ => none
  | .queried tid fate => match s.tasks.lookup tid with
    | some (.tryLock conn) => some (s.lockTried tid conn fate)
    | some (.unlock conn) => some (s.unlocked tid conn fate)
    | _ => none
  | .worked tid => match s.tasks.lookup tid with
    | some (.work conn) => some (s.await tid (.unlock conn))
    | _ => none

/-- The query leaves a lock behind: it got the lock and the call does not know, or it should have released it. -/
def leaks (tid : TaskId) (fate : Fate) : Bool := match s.tasks.lookup tid with
  | some (.tryLock conn) => fate = .lost && (s.lock.tryLock conn).2
  | some (.unlock _) => fate = .failed
  | _ => false

/-- No lock is left behind at this step. -/
def Releases : Event → Prop
  | .queried tid fate => s.leaks tid fate = false
  | _ => True

instance : (e : Event) → Decidable (s.Releases e)
  | .queried _ _ => inferInstanceAs (Decidable (_ = _))
  | .call _ | .acquired _ _ | .worked _ => isTrue trivial

/-- No call is in progress. -/
def Quiet : Prop := s.tasks = ∅

/-- The first process starts, and nobody holds the lock. -/
def start : Sys := ⟨∅, 0, ⟨none⟩, ∅, 0, []⟩

/-! ## The lock and the calls -/

/-- The calls that were given the lock and have not come to release it. -/
def holding : Nat := s.tasks.count fun t => t.holds.isSome

/-- How often the lock is held beyond what the calls in progress will release. -/
def surplus : Nat := s.lock.depth - s.holding

/-- A call that was given the lock was given it on the connection that holds it. -/
structure Linked : Prop where
  holders : ∀ tid t c, s.tasks.lookup tid = some t → t.holds = some c → s.lock.holder = some c
  conns : ∀ tid t c, s.tasks.lookup tid = some t → t.conn = some c → c ∈ s.conns
  holder : ∀ c, s.lock.holder = some c → c ∈ s.conns
  known : ∀ tid t, s.tasks.lookup tid = some t → tid < s.nextTask

variable {s} {tid : TaskId} {t : Task} {c : ConnId}

theorem Linked.await (h : s.Linked) (htid : tid < s.nextTask) (hconn : ∀ c, t.conn = some c → c ∈ s.conns)
    (hholds : ∀ c, t.holds = some c → s.lock.holder = some c) : (s.await tid t).Linked where
  holders i u c hu := Registry.forall_insert hholds (fun j v hv c => h.holders j v c hv) i u hu c
  conns i u c hu := Registry.forall_insert hconn (fun j v hv c => h.conns j v c hv) i u hu c
  holder := h.holder
  known := Registry.forall_insert htid h.known

theorem Linked.connect (h : s.Linked) (c : ConnId) (conn : Conn) :
    { s with conns := s.conns.insert c conn }.Linked where
  holders := h.holders
  conns i u d hu hd := AList.mem_insert _ |>.2 (.inr (h.conns i u d hu hd))
  holder d hd := AList.mem_insert _ |>.2 (.inr (h.holder d hd))
  known := h.known

theorem Linked.giveBack (h : s.Linked) (tid : TaskId) (c : ConnId)
    (result : Except RepositoryError AdvisoryLockOutcome) : (s.giveBack tid c result).Linked where
  holders i u d hu hd := h.holders i u d (Registry.lookup_erase_iff.1 hu).2 hd
  conns i u d hu hd := Registry.mem_modify.2 (h.conns i u d (Registry.lookup_erase_iff.1 hu).2 hd)
  holder d hd := Registry.mem_modify.2 (h.holder d hd)
  known i u hu := h.known i u (Registry.lookup_erase_iff.1 hu).2

theorem Linked.relock (h : s.Linked) {l : SessionLock ConnId}
    (hholders : ∀ tid t c, s.tasks.lookup tid = some t → t.holds = some c → l.holder = some c)
    (hholder : ∀ c, l.holder = some c → c ∈ s.conns) : { s with lock := l }.Linked :=
  ⟨hholders, h.conns, hholder, h.known⟩

theorem holding_await (h : s.tasks.lookup tid = some t) (t' : Task) :
    (s.await tid t').holding + (if t.holds.isSome then 1 else 0) =
      s.holding + if t'.holds.isSome then 1 else 0 :=
  Registry.count_insert_old _ h

theorem holding_giveBack (h : s.tasks.lookup tid = some t) (c : ConnId)
    (result : Except RepositoryError AdvisoryLockOutcome) :
    s.holding = (s.giveBack tid c result).holding + if t.holds.isSome then 1 else 0 :=
  Registry.count_erase _ h

/-- The calls in progress hold the lock no more often than it is held. -/
structure Sound (s : Sys) : Prop extends s.Linked where
  counted : s.holding ≤ s.lock.depth

/-- The lock is held `leak` times more, beside what the calls took and will release. -/
structure Shifts (s s' : Sys) (leak : Nat) : Prop where
  linked : s'.Linked
  balance : s'.lock.depth + s.holding = s.lock.depth + s'.holding + leak

theorem Shifts.sound {s s' : Sys} {leak : Nat} (h : Shifts s s' leak) (hs : s.Sound) : s'.Sound :=
  ⟨h.linked, by have := h.balance; have := hs.counted; omega⟩

theorem Shifts.surplus {s s' : Sys} {leak : Nat} (h : Shifts s s' leak) (hs : s.Sound) :
    s'.surplus = s.surplus + leak := by
  have hb := h.balance
  have hc := hs.counted
  simp only [Sys.surplus]
  omega

theorem Linked.take (h : s.Linked) (htask : s.tasks.lookup tid = some t) (c : ConnId) (p : ProcessId) :
    (s.take tid c p).Linked := by
  refine (h.connect c ⟨p, true⟩).await (h.known tid t htask) ?_ ?_
  · rintro d ⟨⟩
    exact (AList.mem_insert _).2 (.inl rfl)
  · rintro d ⟨⟩

theorem holding_take {p : ProcessId} (htask : s.tasks.lookup tid = some (.acquire p)) (c : ConnId) :
    (s.take tid c p).holding = s.holding :=
  holding_await htask (.tryLock c)

theorem Sound.acquired {s s' : Sys} (hs : s.Sound) {p : ProcessId} (htask : s.tasks.lookup tid = some (.acquire p))
    {pick : Pick} (h : s.acquired tid p pick = some s') : Shifts s s' 0 := by
  cases pick with
  | idle conn =>
    obtain ⟨-, h⟩ := Option.ite_none_right_eq_some.1 h
    cases h
    exact ⟨hs.toLinked.take htask conn p, congrArg (s.lock.depth + ·) (holding_take htask conn).symm⟩
  | fresh =>
    cases h
    have hl := hs.toLinked.take htask s.nextConn p
    exact ⟨⟨hl.holders, hl.conns, hl.holder, hl.known⟩,
      congrArg (s.lock.depth + ·) (holding_take htask s.nextConn).symm⟩
  | failed =>
    cases h
    refine ⟨⟨fun i u c hu => hs.holders i u c (Registry.lookup_erase_iff.1 hu).2,
      fun i u c hu => hs.conns i u c (Registry.lookup_erase_iff.1 hu).2, hs.holder,
      fun i u hu => hs.known i u (Registry.lookup_erase_iff.1 hu).2⟩, ?_⟩
    exact congrArg (s.lock.depth + ·) (Registry.count_erase _ htask)

/-- A call without the lock gives its connection back. -/
theorem Sound.givenBack (hs : s.Sound) (htask : s.tasks.lookup tid = some (.tryLock c))
    (result : Except RepositoryError AdvisoryLockOutcome) : Shifts s (s.giveBack tid c result) 0 :=
  ⟨hs.toLinked.giveBack tid c result, congrArg (s.lock.depth + ·) (holding_giveBack htask c result)⟩

/-- The connection of the call has got the lock. -/
theorem Linked.granted (h : s.Linked) (htask : s.tasks.lookup tid = some (.tryLock c))
    (hgot : (s.lock.tryLock c).2 = true) : { s with lock := (s.lock.tryLock c).1 }.Linked := by
  have hholder := (SessionLock.tryLock_granted hgot).1
  refine h.relock (fun i u d hu hd => ?_) fun d hd => ?_
  · rw [hholder, ← SessionLock.holder_of_granted hgot (h.holders i u d hu hd)]
  · cases hholder.symm.trans hd
    exact h.conns tid _ c htask rfl

/-- The call is given the lock, or it gives its connection back without it. -/
theorem Sound.lockTried (hs : s.Sound) (htask : s.tasks.lookup tid = some (.tryLock c)) (fate : Fate) :
    Shifts s (s.lockTried tid c fate) (if fate = .lost && (s.lock.tryLock c).2 then 1 else 0) := by
  cases hgot : (s.lock.tryLock c).2 with
  | true =>
    obtain ⟨hholder, hdepth⟩ := SessionLock.tryLock_granted hgot
    have hlocked := hs.toLinked.granted htask hgot
    cases fate with
    | answered =>
      have hwork : (s.await tid (.work c)).holding = s.holding + 1 := holding_await htask (.work c)
      have heq : s.lockTried tid c .answered = { s with lock := (s.lock.tryLock c).1 }.await tid (.work c) :=
        if_pos hgot
      rw [heq]
      refine ⟨hlocked.await (hs.known tid _ htask) ?_ ?_, ?_⟩
      · rintro d ⟨⟩
        exact hs.conns tid _ c htask rfl
      · rintro d ⟨⟩
        exact hholder
      · show (s.lock.tryLock c).1.depth + s.holding = s.lock.depth + (s.await tid (.work c)).holding + 0
        omega
    | lost =>
      refine ⟨hlocked.giveBack tid c _, ?_⟩
      have hback : s.holding = (s.giveBack tid c (.error (mapLockError "try_lock"))).holding :=
        holding_giveBack htask c _
      show (s.lock.tryLock c).1.depth + s.holding =
        s.lock.depth + (s.giveBack tid c (.error (mapLockError "try_lock"))).holding + 1
      omega
    | failed => exact hs.givenBack htask _
  | false =>
    -- the lock is as it was, whether the query was executed or not
    have hsame : { s with lock := (s.lock.tryLock c).1 } = s := by rw [SessionLock.tryLock_refused hgot]
    have hback : ∃ result, s.lockTried tid c fate = s.giveBack tid c result := by
      cases fate with
      | answered => exact ⟨_, by simp only [Sys.lockTried, hgot, hsame]; rfl⟩
      | lost => exact ⟨_, by simp only [Sys.lockTried, hsame]; rfl⟩
      | failed => exact ⟨_, rfl⟩
    obtain ⟨result, hback⟩ := hback
    rw [hback, Bool.and_false]
    exact hs.givenBack htask result

/-- The lock is released on the connection that holds it, if the query gets there. -/
theorem Sound.unlocked (hs : s.Sound) (htask : s.tasks.lookup tid = some (.unlock c)) (fate : Fate) :
    Shifts s (s.unlocked tid c fate) (if fate = .failed then 1 else 0) := by
  have hback : ∀ result, s.holding = (s.giveBack tid c result).holding + 1 := holding_giveBack htask c
  have hholder : s.lock.holder = some c := hs.holders tid _ c htask rfl
  have hdepth := SessionLock.unlock_depth hholder
  have hreleased : ∀ result, Shifts s { s.giveBack tid c result with lock := s.lock.unlock c } 0 := by
    intro result
    have hcounted := hs.counted
    have hleft := hback result
    refine ⟨(hs.toLinked.giveBack tid c result).relock (fun i u d hu hd => ?_) fun d hd => ?_, ?_⟩
    · -- a call that still holds the lock is counted, so this was not the last release
      have hd' := hs.holders i u d (Registry.lookup_erase_iff.1 hu).2 hd
      obtain rfl : c = d := Option.some.inj (hholder.symm.trans hd')
      refine SessionLock.unlock_holder hholder ?_
      have hsome := Registry.count_erase (fun t => t.holds.isSome) hu
      rw [hd] at hsome
      change (s.giveBack tid c result).holding = _ + 1 at hsome
      omega
    · exact Registry.mem_modify.2 (hs.holder d (SessionLock.holder_of_unlock hd))
    · show (s.lock.unlock c).depth + s.holding = s.lock.depth + (s.giveBack tid c result).holding + 0
      omega
  cases fate with
  | answered => exact hreleased _
  | lost => exact hreleased _
  | failed =>
    refine ⟨hs.toLinked.giveBack tid c _, ?_⟩
    show s.lock.depth + s.holding = s.lock.depth + (s.giveBack tid c (.error (mapLockError "unlock"))).holding + 1
    rw [hback, Nat.add_assoc]

theorem Sound.call (hs : s.Sound) (p : ProcessId) :
    Shifts s { s.await s.nextTask (.acquire p) with nextTask := s.nextTask + 1 } 0 := by
  have hnew : s.tasks.lookup s.nextTask = none := Registry.lookup_above hs.known
  have hlinked : { s with nextTask := s.nextTask + 1 }.Linked :=
    ⟨hs.holders, hs.conns, hs.holder, fun i u hu => Nat.lt_succ_of_lt (hs.known i u hu)⟩
  refine ⟨hlinked.await (Nat.lt_succ_self _) ?_ ?_, ?_⟩
  · rintro c ⟨⟩
  · rintro c ⟨⟩
  · have hsame : (s.await s.nextTask (.acquire p)).holding = s.holding := Registry.count_insert_new _ hnew
    exact congrArg (s.lock.depth + ·) hsame.symm

/-- A step leaves the lock behind once more, or not at all. -/
theorem Sound.step {s s' : Sys} {e : Event} (hs : s.Sound) (h : s.step e = some s') :
    Shifts s s' (if s.Releases e then 0 else 1) := by
  cases e with
  | call p =>
    cases h
    exact hs.call p
  | acquired tid pick =>
    simp only [Sys.step] at h
    split at h
    · next htask => exact hs.acquired htask h
    · cases h
  | queried tid fate =>
    have hleak : (if s.Releases (.queried tid fate) then 0 else 1) = if s.leaks tid fate then 1 else 0 := by
      by_cases hl : s.leaks tid fate = true <;> simp [Releases, hl]
    rw [hleak]
    simp only [Sys.step] at h
    split at h
    · next htask =>
      cases h
      simp only [leaks, htask]
      exact hs.lockTried htask fate
    · next htask =>
      cases h
      simp only [leaks, htask, decide_eq_true_eq]
      exact hs.unlocked htask fate
    · cases h
  | worked tid =>
    simp only [Sys.step] at h
    split at h
    · next c htask =>
      cases h
      refine ⟨hs.await (hs.known tid _ htask) ?_ ?_, ?_⟩
      · exact fun d hd => hs.conns tid _ d htask hd
      · exact fun d hd => hs.holders tid _ d htask hd
      · have hsame := holding_await htask (.unlock c)
        exact congrArg (s.lock.depth + ·) (Nat.succ.inj hsame).symm
    · cases h

theorem Quiet.holding (h : s.Quiet) : s.holding = 0 := by
  rw [Sys.holding, h]
  rfl

theorem Quiet.lookup (h : s.Quiet) (tid : TaskId) : s.tasks.lookup tid = none := by
  rw [h]
  exact AList.lookup_empty tid

theorem Quiet.sound (h : s.Quiet) (hfree : s.lock.depth = 0) : s.Sound := by
  refine ⟨⟨?_, ?_, ?_, ?_⟩, ?_⟩
  · intro tid t c ht
    cases (h.lookup tid).symm.trans ht
  · intro tid t c ht
    cases (h.lookup tid).symm.trans ht
  · intro c hc
    cases (SessionLock.depth_eq_zero_iff.1 hfree).symm.trans hc
  · intro tid t ht
    cases (h.lookup tid).symm.trans ht
  · rw [h.holding]
    exact Nat.zero_le _

/-- A run leaves the lock behind if and only if some query of it does. -/
theorem surplus_run {s t : Sys} {evs : List Event} (hs : s.Sound) (hr : run step s evs = some t) :
    t.Sound ∧ (t.surplus = s.surplus ↔ Guarded step Releases s evs) := by
  have hstep : ∀ s e t, Sound s → s.step e = some t → Sound t := fun s e t hs h => (hs.step h).sound hs
  refine ⟨run_inv Sound hstep hr hs, (steady_iff_guarded surplus Sound hstep ?_ ?_ hr hs).2⟩
  · intro s e t hs h hok
    rw [(hs.step h).surplus hs, if_pos hok]
    rfl
  · intro s e t hs h hbad
    rw [(hs.step h).surplus hs, if_neg hbad]
    exact Nat.lt_succ_self _

theorem Sound.depth_eq_zero_iff (hs : s.Sound) : s.lock.depth = 0 ↔ ∀ c ∈ s.conns, s.lock.holder ≠ some c := by
  rw [SessionLock.depth_eq_zero_iff, Option.eq_none_iff_forall_ne_some]
  exact ⟨fun h c _ => h c, fun h c hc => h c (hs.holder c hc) hc⟩

end Sys

/-- Whenever no call is in progress, no connection holds the lock and every one
can get it, if and only if every query that took the lock was answered and every
query that had to release it was executed. -/
theorem lock_free_iff {s t : Sys} {evs : List Event} (hs : s.Quiet) (hfree : s.lock.depth = 0)
    (hr : run Sys.step s evs = some t) (ht : t.Quiet) :
    ((∀ c ∈ t.conns, t.lock.holder ≠ some c) ↔ Guarded Sys.step Sys.Releases s evs) ∧
      ((∀ c, (t.lock.tryLock c).2 = true) ↔ Guarded Sys.step Sys.Releases s evs) := by
  obtain ⟨hsound, hiff⟩ := Sys.surplus_run (hs.sound hfree) hr
  have hdepth : t.lock.depth = 0 ↔ Guarded Sys.step Sys.Releases s evs := by
    rw [← hiff, Sys.surplus, Sys.surplus, hs.holding, ht.holding, hfree]
    rfl
  rw [← hdepth]
  refine ⟨hsound.depth_eq_zero_iff.symm, fun hall => ?_, fun h => SessionLock.tryLock_free h⟩
  -- a second connection gets the lock only while it is free
  rw [SessionLock.depth_eq_zero_iff, Option.eq_none_iff_forall_ne_some]
  intro c hc
  exact Nat.succ_ne_self c (SessionLock.holder_of_granted (hall (c + 1)) hc).symm

/-- Two processes; one query of each fails, and neither leaves the lock behind. -/
theorem lock_free_iff_failed :
    ∃ t, run Sys.step Sys.start [.call 0, .call 1, .acquired 0 .fresh, .acquired 1 .fresh, .queried 0 .answered,
        .queried 1 .failed, .worked 0, .queried 0 .lost] = some t ∧
      t.returned = [(1, .error (mapLockError "try_lock")), (0, .error (mapLockError "unlock"))] ∧
      (∀ c ∈ t.conns, t.lock.holder ≠ some c) ∧ ∀ c, (t.lock.tryLock c).2 = true := by
  refine ⟨_, rfl, rfl, ?_⟩
  have hiff := lock_free_iff (s := Sys.start) rfl rfl
    (rfl : run Sys.step Sys.start [.call 0, .call 1, .acquired 0 .fresh, .acquired 1 .fresh, .queried 0 .answered,
      .queried 1 .failed, .worked 0, .queried 0 .lost] = some _) rfl
  exact ⟨hiff.1.2 (by decide), hiff.2.2 (by decide)⟩

/-- The unlock fails once: the connection goes back to the pool with the lock. -/
theorem lock_left_behind :
    ¬ ∀ (s t : Sys) (evs : List Event), s.Quiet → s.lock.depth = 0 → run Sys.step s evs = some t → t.Quiet →
      ∀ c ∈ t.conns, t.lock.holder ≠ some c := by
  intro h
  exact h Sys.start _ [.call 0, .acquired 0 .fresh, .queried 0 .answered, .worked 0, .queried 0 .failed]
    rfl rfl rfl rfl 0 (by decide) rfl

end RelayTerm.Retention.AdvisoryLock
