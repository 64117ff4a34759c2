import Mathlib.Data.List.Basic
/-!
# Machines that are told the time

A machine takes one call after the other, answers some of them, and reads the
time from its calls. Two machines that go through the same calls give the same
answers if a relation between them holds at the start and every call, made no
earlier than the last one, keeps it and is answered alike (`outputs_eq`).
-/

namespace RelayTerm.Lib

variable {σ τ α β : Type}

/-- The time of the last call, if it had one. -/
def tick (time : α → Option Int) (clock : Int) (a : α) : Int := (time a).getD clock

/-- The times of the calls never go back. -/
def Ordered (time : α → Option Int) : Int → List α → Prop
  | _, [] => True
  | clock, a :: as => clock ≤ tick time clock a ∧ Ordered time (tick time clock a) as

instance (time : α → Option Int) : ∀ clock as, Decidable (Ordered time clock as)
  | _, [] => .isTrue trivial
  | clock, a :: as =>
    have := instDecidableOrdered time (tick time clock a) as
    inferInstanceAs (Decidable (clock ≤ tick time clock a ∧ Ordered time (tick time clock a) as))

def lastTick (time : α → Option Int) (clock : Int) (as : List α) : Int := as.foldl (tick time) clock

/-- The state after the calls. -/
def finish (step : σ → α → σ × Option β) (s : σ) (as : List α) : σ := as.foldl (fun s a => (step s a).1) s

/-- The answers the calls are given. -/
def outputs (step : σ → α → σ × Option β) : σ → List α → List β
  | _, [] => []
  | s, a :: as => (step s a).2.toList ++ outputs step (step s a).1 as

variable {time : α → Option Int} {f : σ → α → σ × Option β} {g : τ → α → τ × Option β} {R : Int → σ → τ → Prop}
  {s : σ} {t : τ} {clock : Int} {as bs : List α}

theorem ordered_append :
    Ordered time clock (as ++ bs) ↔ Ordered time clock as ∧ Ordered time (lastTick time clock as) bs := by
  induction as generalizing clock with
  | nil => exact ⟨fun h => ⟨trivial, h⟩, fun h => h.2⟩
  | cons a as ih =>
    rw [List.cons_append, Ordered, Ordered, ih, and_assoc]
    rfl

/-- The relation still holds after any calls. -/
theorem finish_related (hstep : ∀ clock s t, ∀ a ∈ as, R clock s t → clock ≤ tick time clock a →
      (f s a).2 = (g t a).2 ∧ R (tick time clock a) (f s a).1 (g t a).1)
    (h : R clock s t) (has : Ordered time clock as) : R (lastTick time clock as) (finish f s as) (finish g t as) := by
  induction as generalizing clock s t with
  | nil => exact h
  | cons a as ih =>
    have hnext := (hstep clock s t a (List.mem_cons_self ..) h has.1).2
    exact ih (fun clock s t b hb => hstep clock s t b (List.mem_cons_of_mem a hb)) hnext has.2

theorem outputs_eq (hstep : ∀ clock s t, ∀ a ∈ as, R clock s t → clock ≤ tick time clock a →
      (f s a).2 = (g t a).2 ∧ R (tick time clock a) (f s a).1 (g t a).1)
    (h : R clock s t) (has : Ordered time clock as) : outputs f s as = outputs g t as := by
  induction as generalizing clock s t with
  | nil => rfl
  | cons a as ih =>
    obtain ⟨hanswer, hnext⟩ := hstep clock s t a (List.mem_cons_self ..) h has.1
    rw [outputs, outputs, hanswer, ih (fun clock s t b hb => hstep clock s t b (List.mem_cons_of_mem a hb)) hnext has.2]

end RelayTerm.Lib
