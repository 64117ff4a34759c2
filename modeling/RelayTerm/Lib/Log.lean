import Mathlib.Data.List.Basic
/-!
# Numbered logs and the readers of a broadcast

A producer numbers what it emits `a`, `a + 1`, ...; `Numbered num a xs` says a
list is such a stretch. A broadcast channel keeps the last `cap` values of its
log for each reader: a reader that falls behind is moved to the oldest value
still kept and told how many it missed.
-/

namespace RelayTerm.Lib

variable {α : Type} {num : α → Nat} {a b i n : Nat} {x : α} {xs ys : List α}

/-! ## Numbered stretches -/

/-- The values of the list carry the numbers `a`, `a + 1`, ... in order. -/
def Numbered (num : α → Nat) : Nat → List α → Prop
  | _, [] => True
  | a, x :: xs => num x = a ∧ Numbered num (a + 1) xs

@[simp] theorem numbered_nil : Numbered num a [] := trivial

@[simp] theorem numbered_cons : Numbered num a (x :: xs) ↔ num x = a ∧ Numbered num (a + 1) xs := Iff.rfl

theorem numbered_append : Numbered num a (xs ++ ys) ↔ Numbered num a xs ∧ Numbered num (a + xs.length) ys := by
  induction xs generalizing a with
  | nil => simp
  | cons x xs ih =>
    rw [List.cons_append, numbered_cons, numbered_cons, ih, and_assoc, List.length_cons]
    rw [show a + 1 + xs.length = a + (xs.length + 1) by omega]

theorem Numbered.concat (h : Numbered num a xs) (hx : num x = a + xs.length) : Numbered num a (xs ++ [x]) :=
  numbered_append.2 ⟨h, hx, trivial⟩

theorem Numbered.num_getElem? (h : Numbered num a xs) (hx : xs[i]? = some x) : num x = a + i := by
  induction xs generalizing a i with
  | nil => simp at hx
  | cons y ys ih =>
    cases i with
    | zero =>
      obtain rfl : y = x := by simpa using hx
      exact h.1
    | succ i =>
      have := ih h.2 (by simpa using hx)
      omega

/-- The numbers of a stretch are exactly those from `a` on, one for each value. -/
theorem Numbered.mem_map (h : Numbered num a xs) : n ∈ xs.map num ↔ a ≤ n ∧ n < a + xs.length := by
  induction xs generalizing a with
  | nil => simp
  | cons x xs ih =>
    rw [List.map_cons, List.mem_cons, ih h.2, h.1, List.length_cons]
    omega

theorem Numbered.bounds (h : Numbered num a xs) (hx : x ∈ xs) : a ≤ num x ∧ num x < a + xs.length :=
  h.mem_map.1 (List.mem_map_of_mem hx)

theorem Numbered.pairwise (h : Numbered num a xs) : xs.Pairwise (num · < num ·) := by
  induction xs generalizing a with
  | nil => exact List.Pairwise.nil
  | cons x xs ih =>
    refine List.pairwise_cons.2 ⟨fun y hy => ?_, ih h.2⟩
    have := h.2.bounds hy
    have := h.1
    omega

/-- What comes after number `b` is the stretch that starts at `b + 1`, if the
list reaches back that far. -/
theorem Numbered.filter_after (h : Numbered num a xs) (hab : a ≤ b + 1) :
    Numbered num (b + 1) (xs.filter (b < num ·)) := by
  induction xs generalizing a with
  | nil => simp
  | cons x xs ih =>
    rcases Nat.lt_or_ge b a with hb | hb
    · have hall : (x :: xs).filter (b < num ·) = x :: xs := by
        refine List.filter_eq_self.2 fun y hy => ?_
        have := h.bounds hy
        simp only [decide_eq_true_eq]
        omega
      rw [hall, show b + 1 = a by omega]
      exact h
    · rw [List.filter_cons_of_neg (by simp [h.1, hb])]
      exact ih h.2 (by omega)

/-! ## Reading a broadcast -/

/-- What a receive gives: nothing yet, the number of values missed, or a value. -/
inductive Recv (α : Type) where
  | empty
  | lagged (missed : Nat)
  | value (x : α)
  deriving DecidableEq

/-- A receive of a reader at position `next` of the log, and its new position. -/
def recv (cap : Nat) (log : List α) (next : Nat) : Recv α × Nat :=
  if next + cap < log.length then (.lagged (log.length - cap - next), log.length - cap)
  else match log[next]? with
    | none => (.empty, next)
    | some x => (.value x, next + 1)

variable {cap next : Nat} {log : List α}

theorem recv_value (h : (recv cap log next).1 = .value x) :
    log[next]? = some x ∧ log.length ≤ next + cap ∧ (recv cap log next).2 = next + 1 := by
  unfold recv at h ⊢
  split at h
  · simp at h
  · next hlag =>
    split at h
    · simp at h
    · next hget => exact ⟨by rw [hget]; simpa using h, Nat.not_lt.1 hlag, by rw [if_neg hlag]⟩

theorem recv_lagged {missed : Nat} (h : (recv cap log next).1 = .lagged missed) :
    next + cap < log.length ∧ (recv cap log next).2 = log.length - cap := by
  unfold recv at h ⊢
  split at h
  · next hlag => simp [hlag]
  · split at h <;> simp at h

/-- A reader inside the log stays inside it. -/
theorem recv_le (h : next ≤ log.length) : (recv cap log next).2 ≤ log.length := by
  unfold recv
  split
  · exact Nat.sub_le _ _
  · split
    · exact h
    · next hget => exact (List.getElem?_eq_some_iff.1 hget).1

end RelayTerm.Lib
