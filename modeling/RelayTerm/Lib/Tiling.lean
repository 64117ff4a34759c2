import Mathlib.Data.List.Pairwise
/-!
# Tilings of a stretch of numbers

`Tiles lo hi a xs b`: the half-open ranges `[lo x, hi x)` of the list follow
each other without a hole or an overlap and make up `[a, b)`.
-/

namespace RelayTerm.Lib

variable {σ : Type} {lo hi : σ → Nat} {a b c n : Nat} {x y : σ} {xs ys : List σ}

/-- The ranges of the list, none of them empty, make up `[a, b)` in order. -/
def Tiles (lo hi : σ → Nat) : Nat → List σ → Nat → Prop
  | a, [], b => a = b
  | a, x :: xs, b => lo x = a ∧ a < hi x ∧ Tiles lo hi (hi x) xs b

@[simp] theorem tiles_nil : Tiles lo hi a [] b ↔ a = b := Iff.rfl

@[simp] theorem tiles_cons : Tiles lo hi a (x :: xs) b ↔ lo x = a ∧ a < hi x ∧ Tiles lo hi (hi x) xs b := Iff.rfl

theorem tiles_append : Tiles lo hi a (xs ++ ys) c ↔ ∃ b, Tiles lo hi a xs b ∧ Tiles lo hi b ys c := by
  induction xs generalizing a with
  | nil => simp
  | cons x xs ih =>
    simp only [List.cons_append, tiles_cons, ih]
    constructor
    · rintro ⟨hlo, hlt, b, hxs, hys⟩
      exact ⟨b, ⟨hlo, hlt, hxs⟩, hys⟩
    · rintro ⟨b, ⟨hlo, hlt, hxs⟩, hys⟩
      exact ⟨hlo, hlt, b, hxs, hys⟩

theorem tiles_map {τ : Type} {f : τ → σ} {zs : List τ} :
    Tiles lo hi a (zs.map f) b ↔ Tiles (fun z => lo (f z)) (fun z => hi (f z)) a zs b := by
  induction zs generalizing a with
  | nil => rfl
  | cons z zs ih => simp only [List.map_cons, tiles_cons, ih]

theorem Tiles.le (h : Tiles lo hi a xs b) : a ≤ b := by
  induction xs generalizing a with
  | nil => exact Nat.le_of_eq h
  | cons x xs ih =>
    have := ih h.2.2
    have := h.2.1
    omega

/-- Every tile lies inside the stretch. -/
theorem Tiles.bounds (h : Tiles lo hi a xs b) (hx : x ∈ xs) : a ≤ lo x ∧ lo x < hi x ∧ hi x ≤ b := by
  induction xs generalizing a with
  | nil => simp at hx
  | cons y ys ih =>
    obtain ⟨hlo, hlt, hys⟩ := h
    have := hys.le
    rcases List.mem_cons.1 hx with rfl | hx
    · omega
    · have := ih hys hx
      omega

/-- Every number of the stretch lies in a tile. -/
theorem Tiles.cover (h : Tiles lo hi a xs b) (ha : a ≤ n) (hb : n < b) : ∃ x ∈ xs, lo x ≤ n ∧ n < hi x := by
  induction xs generalizing a with
  | nil =>
    have : a = b := h
    omega
  | cons x xs ih =>
    obtain ⟨hlo, hlt, hxs⟩ := h
    rcases Nat.lt_or_ge n (hi x) with hn | hn
    · exact ⟨x, List.mem_cons_self, by omega, hn⟩
    · obtain ⟨y, hy, hin⟩ := ih hxs hn
      exact ⟨y, List.mem_cons_of_mem x hy, hin⟩

theorem Tiles.pairwise (h : Tiles lo hi a xs b) : xs.Pairwise fun x y => hi x ≤ lo y := by
  induction xs generalizing a with
  | nil => exact List.Pairwise.nil
  | cons x xs ih => exact List.pairwise_cons.2 ⟨fun y hy => (h.2.2.bounds hy).1, ih h.2.2⟩

/-- Two different tiles do not meet. -/
theorem Tiles.disjoint (h : Tiles lo hi a xs b) (hx : x ∈ xs) (hy : y ∈ xs) (hne : x ≠ y) :
    hi x ≤ lo y ∨ hi y ≤ lo x := by
  have hpw : xs.Pairwise fun x y => hi x ≤ lo y ∨ hi y ≤ lo x := h.pairwise.imp Or.inl
  have : Std.Symm fun x y => hi x ≤ lo y ∨ hi y ≤ lo x := ⟨fun _ _ => Or.symm⟩
  exact hpw.forall hx hy hne

end RelayTerm.Lib
