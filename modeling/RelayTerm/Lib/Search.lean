import Mathlib.Data.List.TakeWhile
/-!
# The first occurrence of a pattern

`find pat text` is the index at which `pat` first occurs. A pattern is found
behind a text that does not contain its first letter, whatever follows.
-/

namespace RelayTerm.Lib

variable {α : Type} [DecidableEq α]

def find (pat : List α) : List α → Option Nat
  | [] => if pat = [] then some 0 else none
  | c :: text => if pat <+: c :: text then some 0 else (find pat text).map (· + 1)

variable {c : α} {pat before text : List α}

/-- The text in front must not contain the letter the pattern starts with. -/
theorem find_append (hbefore : c ∉ before) (text : List α) :
    find (c :: pat) (before ++ (c :: pat ++ text)) = some before.length := by
  induction before with
  | nil => exact if_pos (List.prefix_append (c :: pat) text)
  | cons b before ih =>
    rw [List.mem_cons, not_or] at hbefore
    have hskip : ¬ c :: pat <+: b :: (before ++ (c :: pat ++ text)) := fun hpre =>
      hbefore.1 (List.cons_prefix_cons.1 hpre).1
    rw [List.cons_append, find, if_neg hskip, ih hbefore.2]
    rfl

/-- A single letter is found where the texts without it end. -/
theorem find_letter (hbefore : c ∉ before) (text : List α) : find [c] (before ++ c :: text) = some before.length :=
  find_append hbefore text

/-- Up to the first `c` of a text that is followed by a `c`, and from there on. -/
theorem split_first (c : α) (text rest : List α) :
    ∃ tail, text.dropWhile (· ≠ c) ++ c :: rest = c :: tail ∧
      text ++ c :: rest = text.takeWhile (· ≠ c) ++ c :: tail := by
  induction text with
  | nil => exact ⟨rest, rfl, rfl⟩
  | cons b text ih =>
    by_cases hb : b = c
    · subst hb
      exact ⟨text ++ b :: rest, by simp, by simp⟩
    · obtain ⟨tail, hdrop, htake⟩ := ih
      exact ⟨tail, by simpa [hb] using hdrop, by simpa [hb] using htake⟩

theorem not_mem_takeWhile_ne (c : α) (text : List α) : c ∉ text.takeWhile (· ≠ c) := by
  intro hmem
  simpa using List.mem_takeWhile_imp hmem

end RelayTerm.Lib
