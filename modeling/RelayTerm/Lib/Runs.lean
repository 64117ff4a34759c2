import Mathlib.Data.List.Basic
/-!
# Runs of a step function

A system is a partial step function `step : σ → α → Option σ`; `none` says the
event is not enabled in that state. The events carry every choice the outside
makes (who runs next, what the clock says, which call fails), so a theorem
about every list of events is a theorem about every interleaving.

`Guarded step ok s evs` says every event of a run is taken in a state where
`ok` holds of it: the rules below give what holds along such runs.
-/

namespace RelayTerm.Lib

variable {σ α : Type}

/-- The state after the events, `none` once an event is not enabled. -/
def run (step : σ → α → Option σ) : σ → List α → Option σ
  | s, [] => some s
  | s, a :: as => (step s a).bind fun t => run step t as

/-- Every event of the run from `s` is taken in a state where `ok` holds of it. -/
def Guarded (step : σ → α → Option σ) (ok : σ → α → Prop) : σ → List α → Prop
  | _, [] => True
  | s, a :: as => ok s a ∧ ∀ t, step s a = some t → Guarded step ok t as

variable {step : σ → α → Option σ} {ok : σ → α → Prop} {s t : σ} {as bs : List α}

@[simp] theorem run_nil : run step s [] = some s := rfl

theorem run_cons {a : α} : run step s (a :: as) = some t ↔ ∃ u, step s a = some u ∧ run step u as = some t := by
  simp only [run, Option.bind_eq_some_iff]

theorem run_append : run step s (as ++ bs) = some t ↔ ∃ u, run step s as = some u ∧ run step u bs = some t := by
  induction as generalizing s with
  | nil => simp
  | cons a as ih =>
    simp only [List.cons_append, run_cons, ih]
    constructor
    · rintro ⟨u, hu, v, hv, ht⟩
      exact ⟨v, ⟨u, hu, hv⟩, ht⟩
    · rintro ⟨v, ⟨u, hu, hv⟩, ht⟩
      exact ⟨u, hu, v, hv, ht⟩

theorem run_concat {a : α} {u : σ} (h : run step s as = some t) (ha : step t a = some u) :
    run step s (as ++ [a]) = some u :=
  run_append.2 ⟨t, h, run_cons.2 ⟨u, ha, rfl⟩⟩

/-- In a run of `past` from `init`, there was a point at which `a` happened in the state `s`. -/
def Happened (step : σ → α → Option σ) (init : σ) (past : List α) (s : σ) (a : α) : Prop :=
  ∃ before after, past = before ++ a :: after ∧ run step init before = some s

theorem Happened.more {init : σ} {past past' : List α} {a : α} (h : Happened step init past s a)
    (hmore : past <+: past') : Happened step init past' s a := by
  obtain ⟨before, after, rfl, hr⟩ := h
  obtain ⟨more, rfl⟩ := hmore
  exact ⟨before, after ++ more, by simp, hr⟩

theorem Happened.now {init : σ} {past : List α} (hr : run step init past = some s) (a : α) :
    Happened step init (past ++ [a]) s a :=
  ⟨past, [], rfl, hr⟩

/-- A guard one can test can be tested along a whole run. -/
instance Guarded.decidable [∀ s a, Decidable (ok s a)] : (s : σ) → (as : List α) → Decidable (Guarded step ok s as)
  | _, [] => isTrue trivial
  | s, a :: as =>
    match h : step s a with
    | none => decidable_of_iff (ok s a) (by simp [Guarded, h])
    | some t =>
      have : Decidable (Guarded step ok t as) := Guarded.decidable t as
      decidable_of_iff (ok s a ∧ Guarded step ok t as) (by simp [Guarded, h])

/-- A guarded run stays guarded from every state it passes through. -/
theorem Guarded.of_append (h : Guarded step ok s (as ++ bs)) (hr : run step s as = some t) :
    Guarded step ok s as ∧ Guarded step ok t bs := by
  induction as generalizing s with
  | nil => cases hr; exact ⟨trivial, h⟩
  | cons a as ih =>
    obtain ⟨u, hu, hr⟩ := run_cons.1 hr
    obtain ⟨hok, hrest⟩ := h
    refine ⟨⟨hok, fun v hv => ?_⟩, (ih (hrest u hu) hr).2⟩
    obtain rfl : u = v := Option.some.inj (hu.symm.trans hv)
    exact (ih (hrest u hu) hr).1

/-- A condition on the events alone holds along every run of events that meet it. -/
theorem Guarded.of_forall {p : α → Prop} (hp : ∀ a ∈ as, p a) : Guarded step (fun _ a => p a) s as := by
  induction as generalizing s with
  | nil => trivial
  | cons a as ih =>
    exact ⟨hp a List.mem_cons_self, fun t _ => ih fun b hb => hp b (List.mem_cons_of_mem a hb)⟩

theorem Guarded.and {ok' : σ → α → Prop} (h : Guarded step ok s as) (h' : Guarded step ok' s as) :
    Guarded step (fun s a => ok s a ∧ ok' s a) s as := by
  induction as generalizing s with
  | nil => trivial
  | cons a as ih => exact ⟨⟨h.1, h'.1⟩, fun t ht => ih (h.2 t ht) (h'.2 t ht)⟩

/-- A condition on the events alone can be added to the guard. -/
theorem Guarded.and_forall {p : α → Prop} (h : Guarded step ok s as) (hp : ∀ a ∈ as, p a) :
    Guarded step (fun s a => ok s a ∧ p a) s as :=
  h.and (.of_forall hp)

/-- What every guarded step keeps, every guarded run keeps. -/
theorem Guarded.inv (I : σ → Prop) (hstep : ∀ s a t, I s → ok s a → step s a = some t → I t)
    (hg : Guarded step ok s as) (hr : run step s as = some t) (hs : I s) : I t := by
  induction as generalizing s with
  | nil => cases hr; exact hs
  | cons a as ih =>
    obtain ⟨u, hu, hr⟩ := run_cons.1 hr
    exact ih (hg.2 u hu) hr (hstep s a u hs hg.1 hu)

/-- What every step keeps, every run keeps. -/
theorem run_inv (I : σ → Prop) (hstep : ∀ s a t, I s → step s a = some t → I t)
    (hr : run step s as = some t) (hs : I s) : I t := by
  induction as generalizing s with
  | nil => cases hr; exact hs
  | cons a as ih =>
    obtain ⟨u, hu, hr⟩ := run_cons.1 hr
    exact ih hr (hstep s a u hs hu)

/-- An invariant that speaks of the events so far. -/
theorem run_history_inv (I : List α → σ → Prop)
    (hstep : ∀ past s a t, I past s → step s a = some t → I (past ++ [a]) t)
    (hr : run step s as = some t) (hs : I [] s) : I as t := by
  have hpast : ∀ past s, I past s → run step s as = some t → I (past ++ as) t := by
    clear hr hs
    induction as with
    | nil =>
      intro past s hs hr
      cases hr
      simpa using hs
    | cons a as ih =>
      intro past s hs hr
      obtain ⟨u, hu, hr⟩ := run_cons.1 hr
      simpa using ih (past ++ [a]) u (hstep past s a u hs hu) hr
  exact hpast [] s hs hr

/-- The same with the events so far known to lead to the state. -/
theorem run_traced_inv (I : List α → σ → Prop)
    (hstep : ∀ past u a v, run step s past = some u → I past u → step u a = some v → I (past ++ [a]) v)
    (hr : run step s as = some t) (hs : I [] s) : I as t := by
  refine (run_history_inv (fun past u => run step s past = some u ∧ I past u) ?_ hr ⟨rfl, hs⟩).2
  rintro past u a v ⟨hpast, hu⟩ hv
  exact ⟨run_concat hpast hv, hstep past u a v hpast hu hv⟩

/-- Behind a filter that turns some events into events of a system and drops the
others, a run is the system's run over what comes through. -/
theorem run_filterMap {β : Type} (f : β → Option α) (bs : List β) (s : σ) :
    run (fun s b => (f b).elim (some s) (step s)) s bs = run step s (bs.filterMap f) := by
  induction bs generalizing s with
  | nil => rfl
  | cons b bs ih =>
    cases hb : f b with
    | none => simp [run, hb, ih]
    | some a => simp [run, hb, ih]

/-- What happened behind the filter, something in front of it came to. -/
theorem Happened.of_filterMap {β : Type} {f : β → Option α} {init : σ} {bs : List β} {a : α}
    (h : Happened step init (bs.filterMap f) s a) :
    ∃ b, f b = some a ∧ Happened (fun s b => (f b).elim (some s) (step s)) init bs s b := by
  obtain ⟨before, after, hsplit, hr⟩ := h
  obtain ⟨front, rest, rfl, rfl, hrest⟩ := List.filterMap_eq_append_iff.1 hsplit
  obtain ⟨dropped, b, back, rfl, hdropped, hb, -⟩ := List.filterMap_eq_cons_iff.1 hrest
  refine ⟨b, hb, front ++ dropped, back, by simp, ?_⟩
  rw [run_filterMap, List.filterMap_append, List.filterMap_eq_nil_iff.2 hdropped, List.append_nil]
  exact hr

/-- What holds of a state, and after a step if and only if the step meets the
guard, holds all along a run if and only if the run is guarded. -/
theorem always_iff_guarded (P I : σ → Prop) (hI : ∀ s a t, I s → P s → P t → step s a = some t → I t)
    (hP : ∀ s a t, I s → P s → step s a = some t → (P t ↔ ok s a)) (hr : run step s as = some t) (hs : I s)
    (hp : P s) : (∀ bs cs u, as = bs ++ cs → run step s bs = some u → P u) ↔ Guarded step ok s as := by
  induction as generalizing s with
  | nil =>
    refine iff_of_true (fun bs cs u happ hu => ?_) trivial
    obtain ⟨rfl, rfl⟩ := List.append_eq_nil_iff.1 happ.symm
    cases hu
    exact hp
  | cons a as ih =>
    obtain ⟨v, hv, hr⟩ := run_cons.1 hr
    have hfirst := hP s a v hs hp hv
    constructor
    · intro hall
      have hpv : P v := hall [a] as v rfl (run_cons.2 ⟨v, hv, rfl⟩)
      refine ⟨hfirst.1 hpv, fun w hw => ?_⟩
      cases hv.symm.trans hw
      refine (ih hr (hI s a v hs hp hpv hv) hpv).1 fun bs cs u happ hu => ?_
      exact hall (a :: bs) cs u (congrArg (a :: ·) happ) (run_cons.2 ⟨v, hv, hu⟩)
    · rintro ⟨hok, hrest⟩ bs cs u happ hu
      cases bs with
      | nil => cases hu; exact hp
      | cons b bs =>
        obtain ⟨rfl, htail⟩ := List.cons.inj happ
        obtain ⟨w, hw, hu⟩ := run_cons.1 hu
        cases hv.symm.trans hw
        have hpv := hfirst.2 hok
        exact (ih hr (hI s a v hs hp hpv hv) hpv).2 (hrest v hv) bs cs u htail hu

/-- A run leaves `f` as it was, all along, if and only if every step of it is one that does. -/
theorem constant_iff_guarded {β : Type} (f : σ → β) (I : σ → Prop) (hI : ∀ s t, f t = f s → I s → I t)
    (hstep : ∀ s a t, I s → step s a = some t → (f t = f s ↔ ok s a)) (hr : run step s as = some t) (hs : I s) :
    (∀ bs cs u, as = bs ++ cs → run step s bs = some u → f u = f s) ↔ Guarded step ok s as := by
  refine always_iff_guarded (fun u => f u = f s) I ?_ ?_ hr hs rfl
  · intro u a v hu hfu hfv _
    exact hI u v (hfv.trans hfu.symm) hu
  · intro u a v hu hfu hv
    rw [← hfu]
    exact hstep u a v hu hv

/-- Where a step meets the guard if it leaves `f` as it was and lets it grow
otherwise, a run leaves `f` as it was if and only if it is guarded. -/
theorem steady_iff_guarded (f : σ → Nat) (I : σ → Prop) (hI : ∀ s a t, I s → step s a = some t → I t)
    (hok : ∀ s a t, I s → step s a = some t → ok s a → f t = f s)
    (hbad : ∀ s a t, I s → step s a = some t → ¬ ok s a → f s < f t) (hr : run step s as = some t) (hs : I s) :
    f s ≤ f t ∧ (f t = f s ↔ Guarded step ok s as) := by
  induction as generalizing s with
  | nil =>
    cases hr
    exact ⟨Nat.le_refl _, iff_of_true rfl trivial⟩
  | cons a as ih =>
    obtain ⟨u, hu, hr⟩ := run_cons.1 hr
    obtain ⟨hle, hiff⟩ := ih hr (hI s a u hs hu)
    by_cases ha : ok s a
    · have heq := hok s a u hs hu ha
      refine ⟨heq ▸ hle, fun ht => ⟨ha, fun v hv => ?_⟩, fun hg => (hiff.2 (hg.2 u hu)).trans heq⟩
      cases hu.symm.trans hv
      exact hiff.1 (ht.trans heq.symm)
    · -- what has grown does not shrink again
      have hlt := hbad s a u hs hu ha
      exact ⟨by omega, fun ht => absurd ht (by omega), fun hg => absurd hg.1 ha⟩

/-- Some event of the run from `s` is one that `p` holds of. -/
def Occurs (step : σ → α → Option σ) (p : σ → α → Prop) : σ → List α → Prop
  | _, [] => False
  | s, a :: as => p s a ∨ ∃ t, step s a = some t ∧ Occurs step p t as

instance Occurs.decidable {p : σ → α → Prop} [∀ s a, Decidable (p s a)] : (s : σ) → (as : List α) →
    Decidable (Occurs step p s as)
  | _, [] => isFalse id
  | s, a :: as =>
    match h : step s a with
    | none => decidable_of_iff (p s a) (by simp [Occurs, h])
    | some t =>
      have : Decidable (Occurs step p t as) := Occurs.decidable t as
      decidable_of_iff (p s a ∨ Occurs step p t as) (by simp [Occurs, h])

/-- What an event of kind `p` brings about, and every guarded step keeps, holds
at the end of a guarded run with such an event. -/
theorem Guarded.of_occurs {p : σ → α → Prop} (I J : σ → Prop) (hI : ∀ s a t, I s → ok s a → step s a = some t → I t)
    (hset : ∀ s a t, I s → ok s a → p s a → step s a = some t → J t)
    (hkeep : ∀ s a t, I s → J s → ok s a → step s a = some t → J t)
    (hg : Guarded step ok s as) (hr : run step s as = some t) (hs : I s) (ho : Occurs step p s as) : J t := by
  induction as generalizing s with
  | nil => exact ho.elim
  | cons a as ih =>
    obtain ⟨u, hu, hr⟩ := run_cons.1 hr
    have hIu := hI s a u hs hg.1 hu
    rcases ho with hp | ⟨v, hv, ho⟩
    · refine ((hg.2 u hu).inv (fun x => I x ∧ J x) ?_ hr ⟨hIu, hset s a u hs hg.1 hp hu⟩).2
      rintro x b y ⟨hx, hj⟩ hok hstep
      exact ⟨hI x b y hx hok hstep, hkeep x b y hx hj hok hstep⟩
    · cases hu.symm.trans hv
      exact ih (hg.2 u hu) hr hIu ho

end RelayTerm.Lib
