import Mathlib.Data.List.AList
/-!
# Registries

A keyed table with at most one row per key: Mathlib's `AList`, which carries
the uniqueness of its keys, together with the three operations a service's
tables need on top of `lookup`, `insert` and `erase`.
-/

namespace RelayTerm.Lib

/-- A finite map from keys to rows. -/
abbrev Registry (κ α : Type) := AList (fun _ : κ => α)

namespace Registry

variable {κ α : Type}

/-- Keep the rows that satisfy `p`. -/
def retain (p : α → Bool) (r : Registry κ α) : Registry κ α :=
  ⟨r.entries.filter fun e => p e.2, r.nodupKeys.sublist List.filter_sublist⟩

/-- Does some row satisfy `p`? -/
def any (p : α → Bool) (r : Registry κ α) : Bool := r.entries.any fun e => p e.2

/-- Rewrite every row. -/
def mapRows (f : κ → α → α) (r : Registry κ α) : Registry κ α := ⟨r.entries.map (.map id f), r.nodupKeys.map₂ f⟩

/-- The number of rows that satisfy `p`. -/
def count (p : α → Bool) (r : Registry κ α) : Nat := r.entries.countP fun e => p e.2

variable [DecidableEq κ]

/-- Change the row at `k`, if there is one. -/
def modify (k : κ) (f : α → α) (r : Registry κ α) : Registry κ α := r.mapRows fun i x => if i = k then f x else x

theorem lookup_insert_iff {r : Registry κ α} {k i : κ} {x y : α} :
    (r.insert k x).lookup i = some y ↔ (i = k ∧ x = y) ∨ (i ≠ k ∧ r.lookup i = some y) := by
  by_cases h : i = k
  · subst h; simp
  · simp [h, AList.lookup_insert_ne h]

/-- What holds of the new row and of the old ones holds of all. -/
theorem forall_insert {r : Registry κ α} {k : κ} {x : α} {P : κ → α → Prop} (hnew : P k x)
    (hold : ∀ i y, r.lookup i = some y → P i y) (i : κ) (y : α) (h : (r.insert k x).lookup i = some y) : P i y := by
  rcases lookup_insert_iff.1 h with ⟨rfl, rfl⟩ | ⟨-, h⟩
  · exact hnew
  · exact hold i y h

theorem lookup_erase_iff {r : Registry κ α} {k i : κ} {y : α} :
    (r.erase k).lookup i = some y ↔ i ≠ k ∧ r.lookup i = some y := by
  by_cases h : i = k
  · subst h; simp
  · simp [h, AList.lookup_erase_ne h]

theorem lookup_mapRows (r : Registry κ α) (f : κ → α → α) (k : κ) : (r.mapRows f).lookup k = (r.lookup k).map (f k) :=
  List.dlookup_map₂ k

theorem lookup_modify (r : Registry κ α) (k i : κ) (f : α → α) :
    (r.modify k f).lookup i = if i = k then (r.lookup k).map f else r.lookup i := by
  rw [modify, lookup_mapRows]
  by_cases h : i = k
  · subst h
    simp
  · simp [h]

theorem lookup_modify_iff {r : Registry κ α} {k i : κ} {f : α → α} {y : α} :
    (r.modify k f).lookup i = some y ↔
      (i = k ∧ ∃ x, r.lookup k = some x ∧ f x = y) ∨ (i ≠ k ∧ r.lookup i = some y) := by
  rw [lookup_modify]
  by_cases h : i = k
  · simp [h, Option.map_eq_some_iff]
  · simp [h]

theorem mem_modify {r : Registry κ α} {k i : κ} {f : α → α} : i ∈ r.modify k f ↔ i ∈ r := by
  rw [← AList.lookup_isSome, ← AList.lookup_isSome, lookup_modify]
  split
  · next h => rw [Option.isSome_map, h]
  · rfl

/-- A change that changes nothing. -/
theorem modify_eq_self {r : Registry κ α} {k : κ} {f : α → α} (h : ∀ x, r.lookup k = some x → f x = x) :
    r.modify k f = r := by
  apply AList.ext
  show r.entries.map _ = r.entries
  conv_rhs => rw [← List.map_id r.entries]
  apply List.map_congr_left
  rintro ⟨i, x⟩ hx
  by_cases hi : i = k
  · subst hi
    have hfx : f x = x := h x (Option.mem_def.1 (AList.mem_lookup_iff.2 hx))
    simp [Sigma.map, hfx]
  · simp [Sigma.map, hi]

theorem any_iff {r : Registry κ α} {p : α → Bool} : r.any p ↔ ∃ k x, r.lookup k = some x ∧ p x := by
  simp only [any, List.any_eq_true, Sigma.exists]
  exact exists₂_congr fun k x => and_congr_left fun _ => AList.mem_lookup_iff.symm

/-- A test of all rows. -/
theorem of_any_eq_false {r : Registry κ α} {p : α → Bool} (h : r.any (fun x => !p x) = false) {k : κ} {x : α}
    (hx : r.lookup k = some x) : p x := by
  by_contra hp
  have hany : r.any (fun x => !p x) = true := any_iff.2 ⟨k, x, hx, by simpa using hp⟩
  rw [h] at hany
  cases hany

theorem lookup_retain_iff {r : Registry κ α} {p : α → Bool} {k : κ} {x : α} :
    (r.retain p).lookup k = some x ↔ r.lookup k = some x ∧ p x := by
  rw [← Option.mem_def, AList.mem_lookup_iff, retain, List.mem_filter, ← AList.mem_lookup_iff, Option.mem_def]

/-- Above all keys there is a free one. -/
theorem lookup_above {r : Registry Nat α} {n : Nat} (h : ∀ k x, r.lookup k = some x → k < n) : r.lookup n = none := by
  cases hn : r.lookup n with
  | none => rfl
  | some x => exact absurd (h n x hn) (Nat.lt_irrefl n)

/-! ## Counting rows -/

section Count
variable {r : Registry κ α} {k : κ} {x : α}

theorem count_insert (p : α → Bool) :
    count p (r.insert k x) = count p (r.erase k) + if p x then 1 else 0 := by
  rw [count, AList.entries_insert, List.countP_cons]
  rfl

theorem count_erase (p : α → Bool) (h : r.lookup k = some x) :
    count p r = count p (r.erase k) + if p x then 1 else 0 := by
  have hmem : k ∈ r.entries.keys := AList.lookup_isSome.1 (by rw [h]; rfl)
  obtain ⟨y, l₁, l₂, hl₁, hl, herase⟩ := List.exists_of_kerase hmem
  have hy : r.lookup k = some y := by
    rw [← Option.mem_def, AList.mem_lookup_iff, hl]
    simp
  obtain rfl : y = x := Option.some.inj (hy.symm.trans h)
  show r.entries.countP _ = (r.entries.kerase k).countP _ + _
  rw [herase, hl, List.countP_append, List.countP_append, List.countP_cons, Nat.add_assoc]

theorem erase_of_lookup_none (h : r.lookup k = none) : r.erase k = r := by
  apply AList.ext
  exact List.kerase_of_notMem_keys (AList.lookup_eq_none.1 h)

/-- A new row. -/
theorem count_insert_new (p : α → Bool) (h : r.lookup k = none) :
    count p (r.insert k x) = count p r + if p x then 1 else 0 := by
  rw [count_insert, erase_of_lookup_none h]

theorem count_erase_le (p : α → Bool) (r : Registry κ α) (k : κ) : count p (r.erase k) ≤ count p r := by
  cases h : r.lookup k with
  | none => rw [erase_of_lookup_none h]
  | some x =>
    rw [count_erase p h]
    exact Nat.le_add_right _ _

/-- A change of a row that `p` does not see. -/
theorem count_modify (p : α → Bool) (r : Registry κ α) (k : κ) {f : α → α} (hf : ∀ x, p (f x) = p x) :
    count p (r.modify k f) = count p r := by
  rw [count, modify, mapRows, List.countP_map]
  apply List.countP_congr
  rintro ⟨i, x⟩ -
  by_cases hi : i = k <;> simp [Sigma.map, hi, hf]

/-- A change of a row that `p` at most stops to see. -/
theorem count_modify_le (p : α → Bool) (r : Registry κ α) (k : κ) {f : α → α} (hf : ∀ x, p (f x) → p x) :
    count p (r.modify k f) ≤ count p r := by
  rw [count, modify, mapRows, List.countP_map]
  apply List.countP_mono_left
  rintro ⟨i, x⟩ -
  by_cases hi : i = k
  · simpa [Sigma.map, hi] using hf x
  · simp [Sigma.map, hi]

/-- A row takes the place of another. -/
theorem count_insert_old (p : α → Bool) {y : α} (h : r.lookup k = some y) :
    count p (r.insert k x) + (if p y then 1 else 0) = count p r + if p x then 1 else 0 := by
  rw [count_insert, count_erase p h]
  omega

end Count

/-! ## What a row holds alone -/

variable {β : Type} {f : α → Option β} {r : Registry κ α} {k : κ} {x : α}

/-- No two rows hold the same thing. -/
def Exclusive (f : α → Option β) (r : Registry κ α) : Prop :=
  ∀ i j x y b, r.lookup i = some x → r.lookup j = some y → f x = some b → f y = some b → i = j

theorem Exclusive.empty : Exclusive f (∅ : Registry κ α) := by
  intro i j x y b hx
  simp at hx

theorem Exclusive.erase (h : Exclusive f r) (k : κ) : Exclusive f (r.erase k) := by
  intro i j x y b hx hy
  exact h i j x y b (lookup_erase_iff.1 hx).2 (lookup_erase_iff.1 hy).2

/-- Rows that go on holding what they held. -/
theorem Exclusive.mapRows (h : Exclusive f r) {g : κ → α → α} (hg : ∀ i y, f (g i y) = f y) :
    Exclusive f (r.mapRows g) := by
  intro i j x y b hx hy hxb hyb
  rw [lookup_mapRows, Option.map_eq_some_iff] at hx hy
  obtain ⟨x₀, hx₀, rfl⟩ := hx
  obtain ⟨y₀, hy₀, rfl⟩ := hy
  exact h i j x₀ y₀ b hx₀ hy₀ (hg i x₀ ▸ hxb) (hg j y₀ ▸ hyb)

/-- A row may hold what the row it replaces held, or what no other row holds. -/
theorem Exclusive.insert (h : Exclusive f r)
    (hx : ∀ b, f x = some b → (∃ y, r.lookup k = some y ∧ f y = some b) ∨
      ∀ i y, i ≠ k → r.lookup i = some y → f y ≠ some b) : Exclusive f (r.insert k x) := by
  -- nobody else holds what the new row holds
  have alone : ∀ b i y, f x = some b → i ≠ k → r.lookup i = some y → f y ≠ some b := by
    intro b i y hb hi hy hyb
    rcases hx b hb with ⟨z, hz, hzb⟩ | hnone
    · exact hi (h i k y z b hy hz hyb hzb)
    · exact hnone i y hi hy hyb
  intro i j y z b hy hz hyb hzb
  rcases lookup_insert_iff.1 hy with ⟨hi, rfl⟩ | ⟨hi, hy₀⟩
  · rcases lookup_insert_iff.1 hz with ⟨hj, -⟩ | ⟨hj, hz₀⟩
    · exact hi.trans hj.symm
    · exact absurd hzb (alone b j z hyb hj hz₀)
  · rcases lookup_insert_iff.1 hz with ⟨-, rfl⟩ | ⟨hj, hz₀⟩
    · exact absurd hyb (alone b i y hzb hi hy₀)
    · exact h i j y z b hy₀ hz₀ hyb hzb

/-- A changed row may hold what it held, or what no other row holds. -/
theorem Exclusive.modify (h : Exclusive f r) {g : α → α}
    (hg : ∀ x, r.lookup k = some x → ∀ b, f (g x) = some b →
      f x = some b ∨ ∀ i y, i ≠ k → r.lookup i = some y → f y ≠ some b) : Exclusive f (r.modify k g) := by
  cases hx : r.lookup k with
  | none =>
    rw [modify_eq_self fun x hk => by rw [hx] at hk; cases hk]
    exact h
  | some x =>
    -- the same rows as after an insertion
    have hrows : ∀ i, (r.modify k g).lookup i = (r.insert k (g x)).lookup i := by
      intro i
      rw [lookup_modify]
      split
      · next hi => rw [hi, hx, AList.lookup_insert, Option.map_some]
      · next hi => rw [AList.lookup_insert_ne hi]
    have hins : Exclusive f (r.insert k (g x)) :=
      h.insert fun b hb => (hg x hx b hb).imp (fun hold => ⟨x, hx, hold⟩) id
    intro i j y z b hy hz
    exact hins i j y z b (hrows i ▸ hy) (hrows j ▸ hz)

end Registry

end RelayTerm.Lib
