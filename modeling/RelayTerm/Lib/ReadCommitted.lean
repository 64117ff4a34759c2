import RelayTerm.Lib.Registry
/-!
# Statements under READ COMMITTED

An `UPDATE` looks for its rows in the snapshot its statement starts with. A row
that another transaction has locked makes it wait, and when it gets the row it
evaluates its `WHERE` clause again on the latest version, which is also what the
`SET` clause reads. Rows inserted after the snapshot are not found, and what the
statement joined with stays as the snapshot had it.

A statement is therefore two steps: `targets` takes the snapshot, `apply` writes.
The locks are held until the commit, so the rows it writes are those it rechecked.
-/

namespace RelayTerm.Lib

variable {κ α : Type}

/-- An `UPDATE` of a keyed table. -/
structure Update (κ α : Type) where
  /-- The `WHERE` clause against the snapshot. -/
  finds : κ → α → Bool
  /-- The part of it that is evaluated again on the row it has locked. -/
  rechecks : κ → α → Bool
  set : α → α

namespace Update

variable (u : Update κ α)

/-- The rows the snapshot finds. -/
def targets (r : Registry κ α) : List κ := (r.entries.filter fun e => u.finds e.1 e.2).map (·.1)

variable [DecidableEq κ]

/-- Is the row written? -/
def hits (targets : List κ) (k : κ) (x : α) : Bool := targets.elem k && u.rechecks k x

def apply (targets : List κ) (r : Registry κ α) : Registry κ α :=
  r.mapRows fun k x => if u.hits targets k x then u.set x else x

/-- The rows written, whose number the statement returns. -/
def affected (targets : List κ) (r : Registry κ α) : List κ :=
  (r.entries.filter fun e => u.hits targets e.1 e.2).map (·.1)

variable {u} {r : Registry κ α} {ts : List κ} {k : κ} {x : α}

theorem mem_keys_filter {p : κ → α → Bool} :
    k ∈ (r.entries.filter fun e => p e.1 e.2).map (·.1) ↔ ∃ x, r.lookup k = some x ∧ p k x = true := by
  simp only [List.mem_map, List.mem_filter]
  constructor
  · rintro ⟨⟨k', x⟩, ⟨hmem, hp⟩, rfl⟩
    exact ⟨x, AList.mem_lookup_iff.2 hmem, hp⟩
  · rintro ⟨x, hx, hp⟩
    exact ⟨⟨k, x⟩, ⟨AList.mem_lookup_iff.1 hx, hp⟩, rfl⟩

theorem mem_targets : k ∈ u.targets r ↔ ∃ x, r.lookup k = some x ∧ u.finds k x = true := mem_keys_filter

theorem hits_iff : u.hits ts k x = true ↔ k ∈ ts ∧ u.rechecks k x = true := by
  simp [hits]

theorem mem_affected : k ∈ u.affected ts r ↔ k ∈ ts ∧ ∃ x, r.lookup k = some x ∧ u.rechecks k x = true := by
  unfold affected
  rw [mem_keys_filter (p := u.hits ts)]
  simp only [hits_iff]
  exact ⟨fun ⟨x, hx, hk, hr⟩ => ⟨hk, x, hx, hr⟩, fun ⟨hk, x, hx, hr⟩ => ⟨x, hx, hk, hr⟩⟩

theorem lookup_apply (u : Update κ α) (ts : List κ) (r : Registry κ α) (k : κ) :
    (u.apply ts r).lookup k = (r.lookup k).map fun x => if u.hits ts k x then u.set x else x :=
  Registry.lookup_mapRows r _ k

/-- What `set` keeps of a row that is written, the statement keeps. -/
theorem apply_keeps {β : Type} (f : α → β) (hset : ∀ x, u.rechecks k x = true → f (u.set x) = f x)
    (hx : r.lookup k = some x) : ∃ y, (u.apply ts r).lookup k = some y ∧ f y = f x := by
  refine ⟨if u.hits ts k x then u.set x else x, by rw [lookup_apply, hx]; rfl, ?_⟩
  split
  · next hhit => exact hset x (hits_iff.1 hhit).2
  · rfl

/-- The row of a key after the statement comes from its row before. -/
theorem of_lookup_apply {y : α} (hy : (u.apply ts r).lookup k = some y) :
    ∃ x, r.lookup k = some x ∧ y = if u.hits ts k x then u.set x else x := by
  rw [lookup_apply, Option.map_eq_some_iff] at hy
  obtain ⟨x, hx, rfl⟩ := hy
  exact ⟨x, hx, rfl⟩

end Update

/-! ## Reads and deletes

A `SELECT` or a `DELETE` finds rows in the snapshot of its statement. A `DELETE`
in a transaction keeps the keys it has found; the rows go with the commit. -/

namespace Registry

/-- The rows a `WHERE` clause finds. -/
def select (p : α → Bool) (r : Registry κ α) : List (Σ _ : κ, α) := r.entries.filter fun e => p e.2

theorem any_eq_false_iff {r : Registry κ α} {p : α → Bool} : r.any p = false ↔ r.select p = [] := by
  simp [any, select]

variable [DecidableEq κ]

/-- The table without the rows at `ks`. -/
def without (ks : List κ) (r : Registry κ α) : Registry κ α :=
  ⟨r.entries.filter fun e => !ks.elem e.1, r.nodupKeys.sublist List.filter_sublist⟩

variable {r : Registry κ α} {p : α → Bool} {ks : List κ} {k : κ} {x : α}

theorem mem_select : ⟨k, x⟩ ∈ r.select p ↔ r.lookup k = some x ∧ p x = true := by
  rw [select, List.mem_filter, ← AList.mem_lookup_iff, Option.mem_def]

theorem mem_keys_select : k ∈ (r.select p).map (·.1) ↔ ∃ x, r.lookup k = some x ∧ p x = true :=
  Update.mem_keys_filter (p := fun _ x => p x)

theorem lookup_without : (r.without ks).lookup k = some x ↔ k ∉ ks ∧ r.lookup k = some x := by
  rw [← Option.mem_def, AList.mem_lookup_iff, without, List.mem_filter, ← AList.mem_lookup_iff, Option.mem_def]
  simp [and_comm]

/-- The rows that are left when those a `WHERE` clause finds are deleted. -/
theorem lookup_without_select :
    (r.without ((r.select p).map (·.1))).lookup k = some x ↔ r.lookup k = some x ∧ p x = false := by
  rw [lookup_without, mem_keys_select]
  constructor
  · rintro ⟨hnot, hx⟩
    exact ⟨hx, by simpa using fun hp => hnot ⟨x, hx, hp⟩⟩
  · rintro ⟨hx, hp⟩
    refine ⟨?_, hx⟩
    rintro ⟨y, hy, hpy⟩
    cases hx.symm.trans hy
    rw [hp] at hpy
    cases hpy

theorem select_without_select : (r.without ((r.select p).map (·.1))).select p = [] := by
  rw [List.eq_nil_iff_forall_not_mem]
  rintro ⟨k, x⟩ hmem
  obtain ⟨hx, hp⟩ := mem_select.1 hmem
  rw [(lookup_without_select.1 hx).2] at hp
  cases hp

/-- Deleting rows that the clause does not find. -/
theorem select_without_of (h : ∀ k ∈ ks, ∀ x, r.lookup k = some x → p x = false) :
    (r.without ks).select p = r.select p := by
  rw [select, without, List.filter_filter, select]
  apply List.filter_congr
  rintro ⟨k, x⟩ hmem
  by_cases hk : k ∈ ks
  · simp [h k hk x (AList.mem_lookup_iff.2 hmem)]
  · simp [hk]

/-- Deleting what one clause finds, when another finds none of it. -/
theorem select_without_disjoint {q : α → Bool} (h : ∀ x, q x = true → p x = false) :
    (r.without ((r.select q).map (·.1))).select p = r.select p := by
  apply select_without_of
  intro k hk x hx
  obtain ⟨y, hy, hq⟩ := mem_keys_select.1 hk
  cases hx.symm.trans hy
  exact h x hq

/-- A new row that the clause does not find. -/
theorem select_insert_of (hk : r.lookup k = none) (hx : p x = false) : select p (r.insert k x) = select p r := by
  rw [select, AList.entries_insert, List.filter_cons_of_neg (by simp [hx])]
  rw [List.kerase_of_notMem_keys (AList.lookup_eq_none.1 hk)]
  rfl

end Registry

end RelayTerm.Lib
