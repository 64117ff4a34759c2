import Mathlib.Data.List.Basic
/-!
# The first of each kind

A map in the order of its insertions, filled with the first item of each key.
What it holds under a key is the first item of the list with that key.
-/

namespace RelayTerm.Lib

variable {α κ : Type} [DecidableEq κ]

/-- `if (!seen.has(key)) seen.set(key, value)` -/
def setNew (seen : List (κ × α)) (k : κ) (a : α) : List (κ × α) :=
  if seen.any (·.1 = k) then seen else seen ++ [(k, a)]

/-- The first item of each key. -/
def firstByKey (key : α → κ) (l : List α) : List (κ × α) := l.foldl (fun seen a => setNew seen (key a) a) []

variable {key : α → κ} {seen : List (κ × α)} {k : κ} {a : α}

theorem mem_setNew {k' : κ} {a' : α} :
    (k', a') ∈ setNew seen k a ↔ (k', a') ∈ seen ∨ (k' = k ∧ a' = a ∧ ∀ b, (k, b) ∉ seen) := by
  unfold setNew
  split
  · next h =>
    obtain ⟨⟨j, b⟩, hb, hj⟩ := List.any_eq_true.1 h
    obtain rfl : j = k := by simpa using hj
    exact ⟨.inl, fun h' => h'.elim id fun h'' => absurd hb (h''.2.2 b)⟩
  · next h =>
    have hnew : ∀ b, (k, b) ∉ seen := fun b hb => h (List.any_eq_true.2 ⟨(k, b), hb, by simp⟩)
    simp [hnew]

/-- What is added to a map: the first item of each key that the map does not have. -/
theorem mem_foldl_setNew (l : List α) :
    (k, a) ∈ l.foldl (fun seen a => setNew seen (key a) a) seen ↔
      (k, a) ∈ seen ∨ ((∀ b, (k, b) ∉ seen) ∧ l.find? (fun b => key b = k) = some a) := by
  induction l generalizing seen with
  | nil => simp
  | cons x l ih =>
    rw [List.foldl_cons, ih]
    simp only [mem_setNew]
    by_cases hx : key x = k
    · -- `x` is the first item with its key, unless the map has that key
      rw [List.find?_cons_of_pos (by simpa using hx)]
      by_cases hnew : ∀ b, (k, b) ∉ seen
      · simp [hx, hnew, eq_comm]
      · simp [hx, hnew]
    · rw [List.find?_cons_of_neg (by simpa using hx)]
      simp [Ne.symm hx]

theorem mem_firstByKey (l : List α) : (k, a) ∈ firstByKey key l ↔ l.find? (fun b => key b = k) = some a := by
  rw [firstByKey, mem_foldl_setNew]
  simp

end RelayTerm.Lib
