import Mathlib.Data.List.Infix
/-!
# Trimmed windows

A bounded buffer takes values at its end and drops them at its front until what
is left is admissible; the last value always stays. If what is admissible stays
so when values are taken away, the buffer never drops a value too many: it holds
the longest admissible suffix of everything it was ever given (`BestWindow.push`).
-/

namespace RelayTerm.Lib

variable {α : Type} {ok : List α → Prop} {xs w all kept : List α}

/-- `kept` is the longest non-empty admissible suffix of `all`, or its last value if there is none. -/
inductive BestWindow (ok : List α → Prop) (all kept : List α) : Prop where
  | longest (hsuffix : kept <:+ all) (hne : kept ≠ []) (hok : ok kept)
      (hmax : ∀ w, w <:+ all → w ≠ [] → ok w → w.length ≤ kept.length)
  | lastOnly (hnone : ∀ w, w <:+ all → w ≠ [] → ¬ ok w) (last : α) (hlast : all.getLast? = some last)
      (hkept : kept = [last])

theorem BestWindow.suffix (h : BestWindow ok all kept) : kept <:+ all := by
  cases h with
  | longest hsuffix => exact hsuffix
  | lastOnly _ last hlast hkept =>
    obtain ⟨front, rfl⟩ := List.getLast?_eq_some_iff.1 hlast
    exact hkept ▸ List.suffix_append front [last]

/-- Every admissible suffix is inside the window. -/
theorem BestWindow.covers (h : BestWindow ok all kept) (hw : w <:+ all) (hne : w ≠ []) (hok : ok w) : w <:+ kept := by
  cases h with
  | longest hsuffix _ _ hmax => exact List.suffix_of_suffix_length_le hw hsuffix (hmax w hw hne hok)
  | lastOnly hnone => exact absurd hok (hnone w hw hne)

/-- A window that covers the admissible suffixes, and is admissible if it can be, is the best. -/
theorem BestWindow.of_covers (hsuffix : kept <:+ all) (hne : kept ≠ []) (hok : ok kept ∨ kept.length ≤ 1)
    (hcovers : ∀ w, w <:+ all → w ≠ [] → ok w → w <:+ kept) : BestWindow ok all kept := by
  by_cases hkept : ok kept
  · exact .longest hsuffix hne hkept fun w hw hwne hwok => (hcovers w hw hwne hwok).length_le
  · have hshort := hok.resolve_left hkept
    obtain ⟨last, rfl⟩ : ∃ last, kept = [last] := by
      apply List.length_eq_one_iff.1
      have := List.length_pos_iff.2 hne
      omega
    refine .lastOnly ?_ last ?_ rfl
    · intro w hw hwne hwok
      -- An admissible suffix would be the single value that is kept.
      have hlength := List.length_pos_iff.2 hwne
      have heq := (hcovers w hw hwne hwok).eq_of_length_le hlength
      exact hkept (heq ▸ hwok)
    · obtain ⟨front, rfl⟩ := hsuffix
      exact List.getLast?_concat

/-! ## Trimming -/

variable [DecidablePred ok]

/-- Values leave at the front until the rest is admissible. -/
def trim (ok : List α → Prop) [DecidablePred ok] : List α → List α
  | x :: y :: rest => if ok (x :: y :: rest) then x :: y :: rest else trim ok (y :: rest)
  | xs => xs

theorem trim_suffix (ok : List α → Prop) [DecidablePred ok] (xs : List α) : trim ok xs <:+ xs := by
  fun_induction trim ok xs with
  | case1 => exact List.suffix_rfl
  | case2 x y rest _ ih => exact ih.trans (List.suffix_cons x (y :: rest))
  | case3 => exact List.suffix_rfl

theorem trim_ne_nil (h : xs ≠ []) : trim ok xs ≠ [] := by
  fun_induction trim ok xs with
  | case1 => exact h
  | case2 _ _ _ _ ih => exact ih (List.cons_ne_nil _ _)
  | case3 => exact h

theorem trim_ok (ok : List α → Prop) [DecidablePred ok] (xs : List α) :
    ok (trim ok xs) ∨ (trim ok xs).length ≤ 1 := by
  fun_induction trim ok xs with
  | case1 _ _ _ hok => exact .inl hok
  | case2 _ _ _ _ ih => exact ih
  | case3 xs hshort =>
    right
    match xs with
    | [] => exact Nat.zero_le 1
    | [_] => exact Nat.le_refl 1
    | x :: y :: rest => exact absurd rfl (hshort x y rest)

/-- Trimming stops at the first admissible suffix. -/
theorem suffix_trim (hw : w <:+ xs) (hok : ok w) : w <:+ trim ok xs := by
  fun_induction trim ok xs with
  | case1 => exact hw
  | case2 x y rest hnot ih =>
    rcases List.suffix_cons_iff.1 hw with rfl | hrest
    · exact absurd hok hnot
    · exact ih hrest
  | case3 => exact hw

theorem BestWindow.first (x : α) : BestWindow ok [x] (trim ok [x]) := by
  apply BestWindow.of_covers List.suffix_rfl (List.cons_ne_nil x []) (.inr (Nat.le_refl 1))
  intro w hw _ _
  exact hw

/-- Trimming after each push keeps the window the best of everything pushed. -/
theorem BestWindow.push (hsub : ∀ xs ys : List α, xs.Sublist ys → ok ys → ok xs) (h : BestWindow ok all kept) (x : α) :
    BestWindow ok (all ++ [x]) (trim ok (kept ++ [x])) := by
  have hinside : kept ++ [x] <:+ all ++ [x] := by
    obtain ⟨front, rfl⟩ := h.suffix
    exact ⟨front, (List.append_assoc front kept [x]).symm⟩
  apply BestWindow.of_covers ((trim_suffix ok _).trans hinside) (trim_ne_nil (by simp)) (trim_ok ok _)
  intro w hw hne hok
  apply suffix_trim ?_ hok
  rcases List.suffix_concat_iff.1 hw with rfl | ⟨front, rfl, hfront⟩
  · exact absurd rfl hne
  · by_cases hnil : front = []
    · subst hnil
      exact List.suffix_append kept [x]
    · have hfrontOk := hsub front (front ++ [x]) (List.sublist_append_left front [x]) hok
      obtain ⟨gone, rfl⟩ := h.covers hfront hnil hfrontOk
      exact ⟨gone, (List.append_assoc gone front [x]).symm⟩

end RelayTerm.Lib
