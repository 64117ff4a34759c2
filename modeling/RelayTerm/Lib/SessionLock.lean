import Mathlib.Data.Option.Basic
import Mathlib.Logic.Basic
/-!
# A counted lock held by sessions

An exclusive lock that a session may take again while it holds it, and has to
release as often. It has one holder at most; `depth` is how often the holder has
to release it.
-/

namespace RelayTerm.Lib

/-- The holder, and how many times more than once it has taken the lock. -/
structure SessionLock (κ : Type) where
  held : Option (κ × Nat)
  deriving DecidableEq, Repr

namespace SessionLock

variable {κ : Type}

def holder (l : SessionLock κ) : Option κ := l.held.map (·.1)

def depth (l : SessionLock κ) : Nat := match l.held with
  | none => 0
  | some (_, n) => n + 1

theorem depth_eq_zero_iff {l : SessionLock κ} : l.depth = 0 ↔ l.holder = none := by
  obtain ⟨_ | ⟨h, n⟩⟩ := l <;> simp [depth, holder]

variable [DecidableEq κ]

/-- Takes the lock if no other session holds it, and says whether it did. -/
def tryLock (l : SessionLock κ) (s : κ) : SessionLock κ × Bool := match l.held with
  | none => (⟨some (s, 0)⟩, true)
  | some (h, n) => if h = s then (⟨some (s, n + 1)⟩, true) else (l, false)

/-- Releases the lock once if the session holds it. -/
def unlock (l : SessionLock κ) (s : κ) : SessionLock κ := match l.held with
  | none => l
  | some (h, 0) => if h = s then ⟨none⟩ else l
  | some (h, n + 1) => if h = s then ⟨some (s, n)⟩ else l

variable {l : SessionLock κ} {s : κ}

/-- A session that got the lock holds it once more. -/
theorem tryLock_granted (h : (l.tryLock s).2 = true) :
    (l.tryLock s).1.holder = some s ∧ (l.tryLock s).1.depth = l.depth + 1 := by
  obtain ⟨_ | ⟨holder, n⟩⟩ := l
  · exact ⟨rfl, rfl⟩
  · by_cases hs : holder = s
    · simp [tryLock, hs, SessionLock.holder, depth]
    · simp [tryLock, hs] at h

/-- A session that did not get it has changed nothing: another one holds it. -/
theorem tryLock_refused (h : (l.tryLock s).2 = false) : (l.tryLock s).1 = l := by
  obtain ⟨_ | ⟨holder, n⟩⟩ := l
  · cases h
  · by_cases hs : holder = s
    · simp [tryLock, hs] at h
    · simp [tryLock, hs]

/-- While one session holds the lock, no other one gets it. -/
theorem holder_of_granted (h : (l.tryLock s).2 = true) {t : κ} (ht : l.holder = some t) : t = s := by
  obtain ⟨_ | ⟨holder, n⟩⟩ := l
  · cases ht
  · by_cases hs : holder = s
    · simp [SessionLock.holder] at ht
      exact ht.symm.trans hs
    · simp [tryLock, hs] at h

theorem tryLock_free (h : l.depth = 0) (s : κ) : (l.tryLock s).2 = true := by
  obtain ⟨_ | ⟨holder, n⟩⟩ := l
  · rfl
  · cases h

theorem unlock_depth (h : l.holder = some s) : (l.unlock s).depth + 1 = l.depth := by
  obtain ⟨_ | ⟨holder, _ | n⟩⟩ := l
  · cases h
  · simp [SessionLock.holder] at h
    simp [unlock, h, depth]
  · simp [SessionLock.holder] at h
    simp [unlock, h, depth]

/-- The holder keeps the lock until the last release. -/
theorem unlock_holder (h : l.holder = some s) (hmore : 0 < (l.unlock s).depth) : (l.unlock s).holder = some s := by
  obtain ⟨_ | ⟨holder, _ | n⟩⟩ := l
  · cases h
  · simp [SessionLock.holder] at h
    simp [unlock, h, depth] at hmore
  · simp [SessionLock.holder] at h
    simp [unlock, h, SessionLock.holder]

/-- A release gives the lock to nobody. -/
theorem holder_of_unlock {t : κ} (h : (l.unlock s).holder = some t) : l.holder = some t := by
  obtain ⟨_ | ⟨holder, _ | n⟩⟩ := l
  · exact h
  · by_cases hs : holder = s <;> simp [unlock, hs, SessionLock.holder] at h ⊢
    exact h
  · by_cases hs : holder = s <;> simp [unlock, hs, SessionLock.holder] at h ⊢ <;> exact h

end SessionLock

end RelayTerm.Lib
