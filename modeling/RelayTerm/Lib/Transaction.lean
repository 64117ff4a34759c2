import Mathlib.Logic.Basic
/-!
# Transactions

Code whose statements may fail, run as one transaction: a failed statement ends
it and nothing it wrote stays. `Yields x good b` says all there is to know of
such code from outside: what it yields when its statements succeed, and that it
fails when one of them does.
-/

namespace RelayTerm.Lib

variable {σ α β ε S : Type}

/-- The same work for one row after the other. -/
def sweep (work : σ → α → Except ε (σ × β)) : σ → List α → Except ε (σ × List β)
  | s, [] => .ok (s, [])
  | s, a :: as => do
    let row ← work s a
    let rest ← sweep work row.1 as
    .ok (rest.1, row.2 :: rest.2)

/-- `x` yields `b` if `good`, and fails otherwise. -/
structure Yields (x : Except ε β) (good : Prop) (b : β) : Prop where
  ok : good → x = .ok b
  error : ¬ good → ∃ e, x = .error e

section Yields

variable {x : Except ε α} {f : α → Except ε β} {p q : Prop} {a : α} {b : β}

theorem Yields.congr (h : Yields x p a) (hpq : p ↔ q) : Yields x q a :=
  ⟨fun hq => h.ok (hpq.2 hq), fun hq => h.error fun hp => hq (hpq.1 hp)⟩

theorem Yields.pure (a : α) : Yields (.ok a : Except ε α) True a := ⟨fun _ => rfl, fun h => absurd trivial h⟩

/-- One piece of code after another. -/
theorem Yields.bind (hx : Yields x p a) (hf : Yields (f a) q b) : Yields (x >>= f) (p ∧ q) b := by
  constructor
  · rintro ⟨hp, hq⟩
    rw [hx.ok hp]
    exact hf.ok hq
  · intro hpq
    by_cases hp : p
    · rw [hx.ok hp]
      exact hf.error fun hq => hpq ⟨hp, hq⟩
    · obtain ⟨e, he⟩ := hx.error hp
      exact ⟨e, by rw [he]; rfl⟩

/-- Code that ends by returning what it has. -/
theorem Yields.map (hx : Yields x p a) (g : α → β) : Yields (x >>= fun a => .ok (g a)) p (g a) :=
  (hx.bind (f := fun a => .ok (g a)) (Yields.pure (g a))).congr (iff_of_eq (and_true p))

/-- Rows whose work is `apply` unless a statement fails: the sweep is the fold. -/
theorem Yields.sweep {work : σ → α → Except ε (σ × β)} {apply : σ → α → σ} {out : α → β} {good : α → Prop}
    (Inv : σ → Prop) (hinv : ∀ s a, Inv s → Inv (apply s a)) {l : List α}
    (hwork : ∀ s a, Inv s → a ∈ l → Yields (work s a) (good a) (apply s a, out a)) {s : σ} (hs : Inv s) :
    Yields (sweep work s l) (∀ a ∈ l, good a) (l.foldl apply s, l.map out) := by
  induction l generalizing s with
  | nil => exact (Yields.pure _).congr (by simp)
  | cons a l ih =>
    have hrest := ih (fun s a hs ha => hwork s a hs (List.mem_cons_of_mem _ ha)) (hinv s a hs)
    refine ((hwork s a hs List.mem_cons_self).bind (hrest.map fun rest => (rest.1, out a :: rest.2))).congr ?_
    exact List.forall_mem_cons.symm

end Yields

end RelayTerm.Lib
