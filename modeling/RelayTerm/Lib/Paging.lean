import Mathlib.Data.List.Sort
/-!
# Reading a table page by page

Rows cover ranges of numbers and are read in pages ordered by where their ranges
start. If no two ranges overlap, the rows stand one behind the other, and a
cursor that has passed the ranges of some of them has the rest, in order, ahead
(`pageFrom_eq`).
-/

namespace RelayTerm.Lib

variable {α : Type} {start finish : α → Nat} {rows behind ahead : List α} {size cursor : Nat}

def StartsBy (start : α → Nat) (a b : α) : Prop := start a ≤ start b

instance (start : α → Nat) : DecidableRel (StartsBy start) := fun a b => inferInstanceAs (Decidable (start a ≤ start b))

instance (start : α → Nat) : Std.Total (StartsBy start) := ⟨fun a b => Nat.le_total (start a) (start b)⟩

instance (start : α → Nat) : IsTrans α (StartsBy start) := ⟨fun _ _ _ => Nat.le_trans⟩

/-- `WHERE start >= cursor ORDER BY start LIMIT size` -/
def pageFrom (start : α → Nat) (size cursor : Nat) (rows : List α) : List α :=
  ((rows.filter fun r => cursor ≤ start r).insertionSort (StartsBy start)).take size

/-- The ranges stand one behind the other. -/
structure Laid (start finish : α → Nat) (rows : List α) : Prop where
  ranges : ∀ r ∈ rows, start r ≤ finish r
  apart : rows.Pairwise fun a b => finish a < start b

/-- Ranges that do not overlap, once sorted. -/
theorem laid_sort (hranges : ∀ r ∈ rows, start r ≤ finish r)
    (hapart : rows.Pairwise fun a b => finish a < start b ∨ finish b < start a) :
    Laid start finish (rows.insertionSort (StartsBy start)) := by
  have hperm := List.perm_insertionSort (StartsBy start) rows
  have hsorted := List.pairwise_insertionSort (StartsBy start) rows
  have hin : ∀ r ∈ rows.insertionSort (StartsBy start), start r ≤ finish r := fun r hr => hranges r (hperm.mem_iff.1 hr)
  have hdisjoint : (rows.insertionSort (StartsBy start)).Pairwise fun a b => finish a < start b ∨ finish b < start a :=
    (hperm.pairwise_iff fun h => h.symm).2 hapart
  refine ⟨hin, ?_⟩
  apply (hsorted.and hdisjoint).imp_of_mem
  rintro a b - hb ⟨hle, hlt | hlt⟩
  · exact hlt
  · have hrange := hin b hb
    have hle : start a ≤ start b := hle
    omega

theorem Laid.starts (h : Laid start finish rows) : rows.Pairwise fun a b => start a < start b :=
  h.apart.imp_of_mem fun ha _ hlt => Nat.lt_of_le_of_lt (h.ranges _ ha) hlt

theorem Laid.start_inj (h : Laid start finish rows) {a b : α} (ha : a ∈ rows) (hb : b ∈ rows)
    (heq : start a = start b) : a = b := by
  have hnodup : (rows.map start).Nodup := List.pairwise_map.2 (h.starts.imp fun hlt => Nat.ne_of_lt hlt)
  exact List.inj_on_of_nodup_map hnodup ha hb heq

/-- Selecting before sorting gives the rows of the sorted table that are selected. -/
theorem sort_filter (h : Laid start finish (rows.insertionSort (StartsBy start))) (p : α → Bool) :
    (rows.filter p).insertionSort (StartsBy start) = (rows.insertionSort (StartsBy start)).filter p := by
  have hperm := List.perm_insertionSort (StartsBy start) rows
  have hselected := List.perm_insertionSort (StartsBy start) (rows.filter p)
  apply List.Perm.eq_of_pairwise ?_ (List.pairwise_insertionSort (StartsBy start) _)
    ((List.pairwise_insertionSort (StartsBy start) rows).filter p) (hselected.trans (hperm.symm.filter p))
  intro a b ha hb hab hba
  have ha : a ∈ rows := List.mem_of_mem_filter (hselected.mem_iff.1 ha)
  exact h.start_inj (hperm.mem_iff.2 ha) (List.mem_of_mem_filter hb) (Nat.le_antisymm hab hba)

/-- What a page has of a table read up to the cursor. -/
theorem pageFrom_eq (h : Laid start finish (rows.insertionSort (StartsBy start)))
    (hsplit : rows.insertionSort (StartsBy start) = behind ++ ahead) (hbehind : ∀ r ∈ behind, start r < cursor)
    (hahead : ∀ r ∈ ahead, cursor ≤ start r) : pageFrom start size cursor rows = ahead.take size := by
  have hnone : behind.filter (fun r => cursor ≤ start r) = [] := by
    apply List.filter_eq_nil_iff.2
    intro r hr
    have := hbehind r hr
    simp only [decide_eq_true_eq]
    omega
  have hall : ahead.filter (fun r => cursor ≤ start r) = ahead := by
    apply List.filter_eq_self.2
    intro r hr
    simp only [decide_eq_true_eq]
    exact hahead r hr
  rw [pageFrom, sort_filter h, hsplit, List.filter_append, hnone, hall, List.nil_append]

end RelayTerm.Lib
