import RelayTerm.Lib.Registry
/-!
# Tables whose ids are never reused

A registry together with the next fresh id. What was once read of a row stays
true of that id: rows keep what no statement writes, and an id that has been
given away is never given to another row.
-/

namespace RelayTerm.Lib

/-- Rows under serial ids. -/
structure Table (α : Type) where
  rows : Registry Nat α
  next : Nat
  fresh : ∀ id row, rows.lookup id = some row → id < next

namespace Table

variable {α β : Type} {t t' t'' : Table α} {id i : Nat} {row x : α} {keep : α → β} {b : β}

def empty : Table α := ⟨∅, 0, by simp⟩

def lookup (t : Table α) (id : Nat) : Option α := t.rows.lookup id

/-- A new row, under the next id. -/
def insert (t : Table α) (row : α) : Table α where
  rows := t.rows.insert t.next row
  next := t.next + 1
  fresh := by
    intro id x hx
    rcases Registry.lookup_insert_iff.1 hx with ⟨rfl, -⟩ | ⟨-, hold⟩
    · exact Nat.lt_succ_self _
    · exact Nat.lt_succ_of_lt (t.fresh id x hold)

/-- Another row in the place of an existing one. -/
def modify (t : Table α) (id : Nat) (f : α → α) : Table α where
  rows := t.rows.modify id f
  next := t.next
  fresh := by
    intro i x hx
    rw [Registry.lookup_modify] at hx
    split at hx
    · next heq =>
      obtain ⟨y, hy, -⟩ := Option.map_eq_some_iff.1 hx
      exact heq ▸ t.fresh id y hy
    · exact t.fresh i x hx

def erase (t : Table α) (id : Nat) : Table α where
  rows := t.rows.erase id
  next := t.next
  fresh := fun i x hx => t.fresh i x (Registry.lookup_erase_iff.1 hx).2

@[simp] theorem lookup_empty (id : Nat) : (empty : Table α).lookup id = none := AList.lookup_empty id

theorem lookup_lt (h : t.lookup id = some row) : id < t.next := t.fresh id row h

theorem lookup_insert :
    (t.insert row).lookup i = some x ↔ (i = t.next ∧ row = x) ∨ (i ≠ t.next ∧ t.lookup i = some x) :=
  Registry.lookup_insert_iff

theorem lookup_modify (t : Table α) (id i : Nat) (f : α → α) :
    (t.modify id f).lookup i = if i = id then (t.lookup id).map f else t.lookup i :=
  Registry.lookup_modify t.rows id i f

theorem lookup_erase : (t.erase id).lookup i = some x ↔ i ≠ id ∧ t.lookup i = some x := Registry.lookup_erase_iff

theorem isSome_modify (t : Table α) (id i : Nat) (f : α → α) :
    ((t.modify id f).lookup i).isSome = (t.lookup i).isSome := by
  rw [lookup_modify]
  split
  · next heq => rw [heq, Option.isSome_map]
  · rfl

theorem isSome_insert (h : (t.lookup i).isSome = true) : ((t.insert row).lookup i).isSome = true := by
  obtain ⟨x, hx⟩ := Option.isSome_iff_exists.1 h
  have hne : i ≠ t.next := Nat.ne_of_lt (lookup_lt hx)
  exact Option.isSome_iff_exists.2 ⟨x, lookup_insert.2 (.inr ⟨hne, hx⟩)⟩

theorem isSome_erase (hne : i ≠ id) (h : (t.lookup i).isSome = true) : ((t.erase id).lookup i).isSome = true := by
  obtain ⟨x, hx⟩ := Option.isSome_iff_exists.1 h
  exact Option.isSome_iff_exists.2 ⟨x, lookup_erase.2 ⟨hne, hx⟩⟩

/-! ## What stays -/

/-- `t'` is what became of `t`: every row under an id of `t` was there, with the same `keep`. -/
structure Later (keep : α → β) (t t' : Table α) : Prop where
  next_le : t.next ≤ t'.next
  kept : ∀ id row', t'.lookup id = some row' → id < t.next → ∃ row, t.lookup id = some row ∧ keep row' = keep row

theorem Later.refl (keep : α → β) (t : Table α) : Later keep t t :=
  ⟨Nat.le_refl _, fun _ row hrow _ => ⟨row, hrow, rfl⟩⟩

theorem later_insert (keep : α → β) (t : Table α) (row : α) : Later keep t (t.insert row) := by
  refine ⟨Nat.le_succ _, ?_⟩
  intro id row' hrow' hlt
  rcases lookup_insert.1 hrow' with ⟨rfl, -⟩ | ⟨-, hold⟩
  · exact absurd hlt (Nat.lt_irrefl _)
  · exact ⟨row', hold, rfl⟩

theorem later_modify (t : Table α) (id : Nat) {f : α → α} (hf : ∀ row, keep (f row) = keep row) :
    Later keep t (t.modify id f) := by
  refine ⟨Nat.le_refl _, ?_⟩
  intro i row' hrow' _
  rw [lookup_modify] at hrow'
  split at hrow'
  · next heq =>
    obtain ⟨row, hrow, rfl⟩ := Option.map_eq_some_iff.1 hrow'
    exact ⟨row, heq ▸ hrow, hf row⟩
  · exact ⟨row', hrow', rfl⟩

theorem later_erase (keep : α → β) (t : Table α) (id : Nat) : Later keep t (t.erase id) :=
  ⟨Nat.le_refl _, fun _ row' hrow' _ => ⟨row', (lookup_erase.1 hrow').2, rfl⟩⟩

/-- The id has been given away, and a row that is still there has `keep` equal to `b`. -/
def Was (keep : α → β) (t : Table α) (id : Nat) (b : β) : Prop :=
  id < t.next ∧ ∀ row, t.lookup id = some row → keep row = b

theorem Was.of_lookup (h : t.lookup id = some row) : t.Was keep id (keep row) := by
  refine ⟨lookup_lt h, ?_⟩
  intro row' hrow'
  rw [Option.some.inj (hrow'.symm.trans h)]

theorem Was.later (h : t.Was keep id b) (hl : Later keep t t') : t'.Was keep id b := by
  refine ⟨Nat.lt_of_lt_of_le h.1 hl.next_le, ?_⟩
  intro row' hrow'
  obtain ⟨row, hrow, hkeep⟩ := hl.kept id row' hrow' h.1
  exact hkeep.trans (h.2 row hrow)

end Table

end RelayTerm.Lib
