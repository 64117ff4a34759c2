import Mathlib.Data.List.Sort
import Mathlib.Data.List.TakeWhile
/-!
# Queues served from the front

A round takes a batch from the front of a queue and serves it in order, up to the
first element that cannot be served. That one stays in front, and so do those
behind it. Rounds lead to the first `bad` element and no further (`exists_rounds`),
so no good one ever waits in vain exactly where none stands behind a bad one.
-/

namespace RelayTerm.Lib

namespace Queue

variable {α : Type} (bad : α → Bool) (n : Nat)

/-- How many of the first `n` a round serves. -/
def served (q : List α) : Nat := ((q.take n).takeWhile fun a => !bad a).length

/-- What a round leaves. -/
def serve (q : List α) : List α := q.drop (served bad n q)

/-- No good element stands behind a bad one. -/
def Unblocked (q : List α) : Prop := q.Pairwise fun a b => bad a = true → bad b = true

instance (q : List α) : Decidable (Unblocked bad q) := inferInstanceAs (Decidable (q.Pairwise _))

variable {bad n} {q : List α} {a : α}

theorem served_cons_bad (h : bad a = true) : served bad n (a :: q) = 0 := by
  cases n <;> simp [served, h]

theorem served_cons_good (hn : 0 < n) (h : bad a = false) : 0 < served bad n (a :: q) := by
  obtain ⟨n, rfl⟩ := Nat.exists_eq_succ_of_ne_zero hn.ne'
  simp [served, h]

/-- What is served was good. -/
theorem good_of_mem_served (h : a ∈ q.take (served bad n q)) : bad a = false := by
  have hfront : (q.take n).takeWhile (fun a => !bad a) <+: q :=
    ( List.takeWhile_prefix _).trans ( List.take_prefix n q)
  rw [served, ← List.prefix_iff_eq_take.1 hfront] at h
  simpa using List.mem_takeWhile_imp h

/-! ## Whether good ones wait in vain -/

/-- Where no good one stands behind a bad one, a round serves the first as long as a good one waits. -/
theorem Unblocked.served_pos (h : Unblocked bad q) (hn : 0 < n) (hmem : a ∈ q) (hgood : bad a = false) :
    0 < served bad n q := by
  cases q with
  | nil => cases hmem
  | cons b q =>
    apply served_cons_good hn
    rcases List.mem_cons.1 hmem with rfl | hbehind
    · exact hgood
    · by_contra hbad
      have hlater := (List.pairwise_cons.1 h).1 a hbehind (by simpa using hbad)
      rw [hgood] at hlater
      cases hlater

/-- Some number of rounds serves every element in front of the first bad one. -/
theorem exists_rounds (bad : α → Bool) (hn : 0 < n) (q : List α) :
    ∃ k, (serve bad n)^[k] q = q.dropWhile fun a => !bad a := by
  induction hlen : q.length using Nat.strong_induction_on generalizing q with
  | _ len ih =>
    cases q with
    | nil => exact ⟨0, rfl⟩
    | cons a rest =>
      cases ha : bad a with
      | true => exact ⟨0, by simp [ha]⟩
      | false =>
        have hpos : 0 < served bad n (a :: rest) := served_cons_good hn ha
        -- a round drops good elements only, so the first bad one is where it was
        have hsame : (serve bad n (a :: rest)).dropWhile (fun a => !bad a) =
            (a :: rest).dropWhile fun a => !bad a := by
          conv_rhs => rw [← List.take_append_drop (served bad n (a :: rest)) (a :: rest)]
          rw [List.dropWhile_append_of_pos fun b hb => by simpa using good_of_mem_served hb]
          rfl
        have hshorter : (serve bad n (a :: rest)).length < len := by
          rw [serve, List.length_drop, hlen]
          have : 0 < len := by simp [← hlen]
          omega
        obtain ⟨k, hk⟩ := ih _ hshorter (serve bad n (a :: rest)) rfl
        exact ⟨k + 1, by rw [Function.iterate_succ_apply, hk, hsame]⟩

/-- From the first bad one on there are only bad ones. -/
theorem unblocked_of_dropWhile (h : ∀ a ∈ q.dropWhile (fun a => !bad a), bad a = true) : Unblocked bad q := by
  rw [Unblocked, ← List.takeWhile_append_dropWhile (p := fun a => !bad a) (l := q), List.pairwise_append]
  have hfront : ∀ a ∈ q.takeWhile (fun a => !bad a), ¬ bad a = true := by
    intro a ha
    simpa using List.mem_takeWhile_imp ha
  refine ⟨?_, ?_, ?_⟩
  · exact List.pairwise_of_forall_mem_list fun a ha b _ hbad => absurd hbad (hfront a ha)
  · exact List.pairwise_of_forall_mem_list fun a _ b hb _ => h b hb
  · intro a ha b _ hbad
    exact absurd hbad (hfront a ha)

/-- Otherwise some rounds lead to a queue in which a good one waits and the next round serves nobody. -/
theorem exists_stuck (hn : 0 < n) (h : ¬ Unblocked bad q) :
    ∃ k, (∃ a ∈ (serve bad n)^[k] q, bad a = false) ∧ served bad n ((serve bad n)^[k] q) = 0 := by
  obtain ⟨k, hk⟩ := exists_rounds bad hn q
  refine ⟨k, ?_, ?_⟩
  · rw [hk]
    by_contra hnone
    apply h
    apply unblocked_of_dropWhile
    intro a ha
    by_contra hgood
    exact hnone ⟨a, ha, by simpa using hgood⟩
  · rw [hk]
    cases hfirst : q.dropWhile (fun a => !bad a) with
    | nil => simp [served]
    | cons a rest =>
      apply served_cons_bad
      have hhead := List.head?_dropWhile_not (fun a => !bad a) q
      rw [hfirst] at hhead
      simpa using hhead

/-! ## Queues in order -/

section Sorted

variable {r : α → α → Prop} [DecidableRel r] [IsTrans α r] [Std.Total r]

theorem insertionSort_filter_sublist (p : α → Bool) (l : List α) :
    List.Sublist ((l.filter p).insertionSort r) (l.insertionSort r) := by
  induction l with
  | nil => simp
  | cons a l ih =>
    rw [List.insertionSort_cons, List.filter_cons]
    split
    · rw [List.insertionSort_cons]
      exact ih.orderedInsert_sublist a (List.pairwise_insertionSort r l)
    · exact ih.trans (List.sublist_orderedInsert ..)

/-- What leaves a queue in order leaves the others in their order. -/
theorem insertionSort_filter (p : α → Bool) (l : List α) :
    (l.filter p).insertionSort r = (l.insertionSort r).filter p := by
  have hperm : List.Perm ((l.filter p).insertionSort r) ((l.insertionSort r).filter p) :=
    (List.perm_insertionSort r _).trans ((List.perm_insertionSort r l).symm.filter p)
  have hsub : List.Sublist (((l.filter p).insertionSort r).filter p) ((l.insertionSort r).filter p) :=
    (insertionSort_filter_sublist p l).filter p
  have hall : ((l.filter p).insertionSort r).filter p = (l.filter p).insertionSort r := by
    apply List.filter_eq_self.2
    intro a ha
    exact (List.mem_filter.1 ((List.mem_insertionSort r).1 ha)).2
  rw [hall] at hsub
  exact hsub.eq_of_length hperm.length_eq

end Sorted

end Queue

end RelayTerm.Lib
