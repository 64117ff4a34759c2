import Mathlib.Data.List.DropRight
/-!
# Trimming and clipping

A list is stripped of junk, trimmed of blanks at both ends and clipped to a
length. Clipping can bare a blank that trimming had no reason to remove, so
cleaning need not be idempotent: it is, on a list, if and only if the last item
that clipping keeps is no blank.
-/

namespace RelayTerm.Lib

variable {α : Type} {blank : α → Bool}

def trimEnds (blank : α → Bool) (l : List α) : List α := (l.dropWhile blank).rdropWhile blank

/-- It neither starts nor ends in a blank. -/
structure Trimmed (blank : α → Bool) (l : List α) : Prop where
  head : ∀ x, l.head? = some x → blank x = false
  last : ∀ x, l.getLast? = some x → blank x = false

theorem trimEnds_sublist (l : List α) : (trimEnds blank l).Sublist l :=
  (List.rdropWhile_prefix blank _).sublist.trans (List.dropWhile_suffix blank).sublist

theorem trimmed_trimEnds (l : List α) : Trimmed blank (trimEnds blank l) where
  head x hx := by
    -- what is left starts where the blanks at the front end
    have hfront : (l.dropWhile blank).head? = some x := by
      obtain ⟨rest, hrest⟩ := List.rdropWhile_prefix blank (l.dropWhile blank)
      rw [← hrest, List.head?_append, show List.head? (List.rdropWhile blank _) = some x from hx]
      rfl
    have hnot := List.head?_dropWhile_not blank l
    rw [hfront] at hnot
    exact hnot
  last x hx := by
    have hne : trimEnds blank l ≠ [] := by
      rintro hnil
      rw [hnil] at hx
      cases hx
    rw [List.getLast?_eq_some_getLast hne] at hx
    cases hx
    exact Bool.eq_false_iff.2 (List.rdropWhile_last_not blank _ hne)

theorem trimEnds_eq_self_iff {l : List α} : trimEnds blank l = l ↔ Trimmed blank l := by
  constructor
  · intro h
    exact h ▸ trimmed_trimEnds l
  · rintro ⟨hhead, hlast⟩
    have hfront : l.dropWhile blank = l := by
      rw [List.dropWhile_eq_self_iff]
      intro hl
      simp [hhead l[0] (by simp [List.head?_eq_getElem?, hl])]
    rw [trimEnds, hfront, List.rdropWhile_eq_self_iff]
    intro hne
    simp [hlast _ (List.getLast?_eq_some_getLast hne)]

theorem trimEnds_trimEnds (l : List α) : trimEnds blank (trimEnds blank l) = trimEnds blank l :=
  trimEnds_eq_self_iff.2 (trimmed_trimEnds l)

/-! ## Cleaning -/

variable {junk : α → Bool} {n : Nat}

/-- Strips the junk, trims the blanks and clips to `n` items. -/
def clean (junk blank : α → Bool) (n : Nat) (l : List α) : List α :=
  (trimEnds blank (l.filter fun x => !junk x)).take n

/-- A cleaned list has no junk and is short enough: only its end is cleaned again. -/
theorem clean_clean (l : List α) :
    clean junk blank n (clean junk blank n l) = trimEnds blank (clean junk blank n l) := by
  have hsub : (clean junk blank n l).Sublist (l.filter fun x => !junk x) :=
    (List.take_sublist n _).trans (trimEnds_sublist _)
  have hpure : (clean junk blank n l).filter (fun x => !junk x) = clean junk blank n l :=
    List.filter_eq_self.2 fun x hx => (List.mem_filter.1 (hsub.subset hx)).2
  have hshort : (trimEnds blank (clean junk blank n l)).length ≤ n :=
    (trimEnds_sublist _).length_le.trans (List.length_take_le n _)
  rw [clean, hpure, List.take_of_length_le hshort]

theorem clean_clean_clean (l : List α) :
    clean junk blank n (clean junk blank n (clean junk blank n l)) = clean junk blank n (clean junk blank n l) := by
  rw [clean_clean, clean_clean, trimEnds_trimEnds]

/-- Cleaning twice is cleaning once if and only if the last item kept is no blank. -/
theorem clean_idempotent_iff (hn : 0 < n) (l : List α) :
    clean junk blank n (clean junk blank n l) = clean junk blank n l ↔
      ∀ x, (trimEnds blank (l.filter fun x => !junk x))[n - 1]? = some x → blank x = false := by
  obtain ⟨hhead, hlast⟩ : Trimmed blank (trimEnds blank (l.filter fun x => !junk x)) := trimmed_trimEnds _
  rw [clean_clean, trimEnds_eq_self_iff]
  constructor
  · intro h x hx
    refine h.last x ?_
    rw [clean, List.getLast?_take, if_neg (Nat.pos_iff_ne_zero.1 hn), hx]
    rfl
  · refine fun h => ⟨fun x hx => hhead x ?_, fun x hx => ?_⟩
    · rwa [clean, List.head?_take, if_neg (Nat.pos_iff_ne_zero.1 hn)] at hx
    · rw [clean, List.getLast?_take, if_neg (Nat.pos_iff_ne_zero.1 hn)] at hx
      -- the last item kept, or the end of a list that was not clipped
      rcases Option.or_eq_some_iff.1 hx with hkept | ⟨-, hend⟩
      · exact h x hkept
      · exact hlast x hend

/-- What is left of a list does not vanish when it is cleaned again. -/
theorem clean_eq_nil (l : List α) (h : clean junk blank n (clean junk blank n l) = []) : clean junk blank n l = [] := by
  rw [clean_clean] at h
  cases hl : clean junk blank n l with
  | nil => rfl
  | cons x xs =>
    have hx : blank x = false := by
      refine (trimmed_trimEnds (l.filter fun x => !junk x)).head x ?_
      have hhead := congrArg List.head? hl
      rw [clean, List.head?_take] at hhead
      exact (Option.ite_none_left_eq_some.1 hhead).2
    rw [hl, trimEnds, List.dropWhile_cons_of_neg (by simp [hx]), List.rdropWhile_eq_nil_iff] at h
    cases hx.symm.trans (h x List.mem_cons_self)

end RelayTerm.Lib
