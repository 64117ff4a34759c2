import Mathlib.Data.List.Perm.Subperm
import RelayTerm.Lib.Registry
import RelayTerm.Lib.Runs
import RelayTerm.Web.Paste
import RelayTerm.Wire.Binary
/-!
# The terminal workspace

`ProductionTerminal.svelte` holds at most one client and one renderer. An attach
loads a renderer, mounts it and connects a client, with an `await` between, and
the operator can dispose, reconnect or leave in any of these gaps. Each attach
takes a new generation and looks after each `await` whether it is still the
latest; one that is not throws its renderer away. When the component is destroyed
its element is unbound, and a renderer cannot be mounted without one.

Input goes through the paste policy: a text that needs confirmation is held until
the operator confirms, cancels or does something that clears it. `typed` is what
the renderers have reported, with the client each of them feeds, and `sent` is what
was handed to `client.sendInput`.
-/
open RelayTerm.Lib

namespace RelayTerm.Web

/-- Where an attach waits. -/
inductive Stage where
  | loading
  /-- `target` says whether the element to mount into was still bound. -/
  | mounting (renderer : Nat) (target : Bool)
  | connecting
  deriving DecidableEq

structure Sent where
  client : Nat
  text : JsString
  confirmed : Bool
  deriving DecidableEq

structure ProductionTerminal where
  mounted : Bool := false
  destroyed : Bool := false
  generation : Nat := 0
  client : Option Nat := none
  renderer : Option Nat := none
  /-- The client that the renderer's input goes to, while it is subscribed. -/
  unsubInput : Option Nat := none
  pendingPasteText : Option JsString := none
  /-- The attaches under way, by generation. -/
  attaches : Registry Nat Stage := ∅
  renderersBuilt : Nat := 0
  clientsBuilt : Nat := 0
  renderersDisposed : List Nat := []
  clientsDisposed : List Nat := []
  typed : List (Nat × JsString) := []
  sent : List Sent := []

inductive UiEvent where
  | input (text : JsString)
  | pasteConfirm
  | pasteCancel
  | detach
  | close
  | dispose
  /-- `blocked` is what `classifyReconnectAttempt` answers. -/
  | reconnect (blocked : Bool)
  deriving DecidableEq

inductive WorkspaceEvent where
  | mount
  | ui (e : UiEvent)
  | loaded (generation : Nat)
  | mountSettled (generation : Nat) (ok : Bool)
  | attachSettled (generation : Nat) (ok : Bool)
  | destroy
  deriving DecidableEq

namespace ProductionTerminal

def start : ProductionTerminal := {}

variable (t : ProductionTerminal)

def bumpGeneration : ProductionTerminal := { t with generation := t.generation + 1 }

/-- `attach` up to the load of the renderer. -/
def attach : ProductionTerminal :=
  if t.client.isSome then t
  else { t.bumpGeneration with attaches := t.attaches.insert (t.generation + 1) .loading }

def teardownLocal : ProductionTerminal :=
  { t with
    unsubInput := none
    client := none
    clientsDisposed := t.clientsDisposed ++ t.client.toList
    renderer := none
    renderersDisposed := t.renderersDisposed ++ t.renderer.toList
    pendingPasteText := none }

def dropPaste : ProductionTerminal := { t with pendingPasteText := none }

def sendInput (client : Nat) (text : JsString) (confirmed : Bool) : ProductionTerminal :=
  { t with sent := t.sent ++ [⟨client, text, confirmed⟩] }

/-- The renderer's `onInput` listener. -/
def onInput (next : Nat) (text : JsString) : ProductionTerminal :=
  let t := { t with typed := t.typed ++ [(next, text)] }
  match (evaluatePaste text).risk with
  | .safe => t.sendInput next text false
  | .blocked => t.dropPaste
  | .confirm => { t with pendingPasteText := some text }

def pasteConfirmClicked : ProductionTerminal :=
  match t.pendingPasteText, t.client with
  | some text, some client => t.dropPaste.sendInput client text true
  | _, _ => t.dropPaste

def onUi : UiEvent → Option ProductionTerminal
  | .input text => t.unsubInput.map (t.onInput · text)
  | .pasteConfirm => some t.pasteConfirmClicked
  | .pasteCancel | .detach | .close => some t.dropPaste
  | .dispose => some t.bumpGeneration.teardownLocal
  | .reconnect blocked => some (if blocked then t else t.teardownLocal.attach)

/-- The load is over: a superseded attach throws the renderer away. -/
def onLoaded (generation : Nat) : ProductionTerminal :=
  let r := t.renderersBuilt
  let t := { t with renderersBuilt := r + 1 }
  if generation ≠ t.generation then
    { t with attaches := t.attaches.erase generation, renderersDisposed := t.renderersDisposed ++ [r] }
  else { t with attaches := t.attaches.insert generation (.mounting r !t.destroyed) }

def onMounted (generation r : Nat) (ok : Bool) : ProductionTerminal :=
  if generation ≠ t.generation ∨ !ok then
    { t with attaches := t.attaches.erase generation, renderersDisposed := t.renderersDisposed ++ [r] }
  else
    let next := t.clientsBuilt
    { t with
      clientsBuilt := next + 1
      renderer := some r
      unsubInput := some next
      client := some next
      attaches := t.attaches.insert generation .connecting }

def onAttached (generation : Nat) (ok : Bool) : ProductionTerminal :=
  let t := { t with attaches := t.attaches.erase generation }
  if !ok && generation = t.generation then t.teardownLocal else t

def step : WorkspaceEvent → Option ProductionTerminal
  | .mount => if t.mounted then none else some { t with mounted := true }.attach
  | .ui e => if t.mounted && !t.destroyed then t.onUi e else none
  | .loaded generation => match t.attaches.lookup generation with
    | some .loading => some (t.onLoaded generation)
    | _ => none
  | .mountSettled generation ok => match t.attaches.lookup generation with
    | some (.mounting r target) => if ok && !target then none else some (t.onMounted generation r ok)
    | _ => none
  | .attachSettled generation ok => match t.attaches.lookup generation with
    | some .connecting => some (t.onAttached generation ok)
    | _ => none
  | .destroy => if t.mounted && !t.destroyed then some { t.teardownLocal with destroyed := true } else none

/-! ## Nothing that was built is lost -/

/-- A renderer or a client that was built is disposed of, in use, or in the hands
of an attach; the latest attach finds nothing in use. -/
structure Owned (t : ProductionTerminal) : Prop where
  paired : t.renderer.isSome = t.client.isSome
  subscribed : t.unsubInput = t.client
  older : ∀ generation stage, t.attaches.lookup generation = some stage → generation ≤ t.generation
  latest : ∀ stage, t.attaches.lookup t.generation = some stage → stage ≠ .connecting → t.client = none
  renderers : ∀ r < t.renderersBuilt, r ∈ t.renderersDisposed ∨ t.renderer = some r ∨
    ∃ generation target, t.attaches.lookup generation = some (.mounting r target)
  clients : ∀ c < t.clientsBuilt, c ∈ t.clientsDisposed ∨ t.client = some c

variable {t} {t' : ProductionTerminal}

theorem Owned.renderer_none (h : t.Owned) (hc : t.client = none) : t.renderer = none := by
  have hpaired := h.paired
  rw [hc] at hpaired
  exact Option.isSome_eq_false_iff.1 hpaired |> Option.isNone_iff_eq_none.1

theorem attach_owned (h : t.Owned) : t.attach.Owned := by
  unfold attach
  split
  · exact h
  · next hnone =>
    have hnone : t.client = none := Option.not_isSome_iff_eq_none.1 hnone
    have hfresh : ∀ g stage, t.attaches.lookup g = some stage → g ≠ t.generation + 1 := by
      intro g stage hg heq
      have := h.older g stage hg
      omega
    refine ⟨h.paired, h.subscribed, ?_, fun _ _ _ => hnone, fun r hr => ?_, h.clients⟩
    · exact Registry.forall_insert (Nat.le_refl _) fun g stage hg => Nat.le_succ_of_le (h.older g stage hg)
    · rcases h.renderers r hr with hdisposed | hused | ⟨g, target, hg⟩
      · exact .inl hdisposed
      · exact .inr (.inl hused)
      · exact .inr (.inr ⟨g, target, by rw [AList.lookup_insert_ne (hfresh g _ hg)]; exact hg⟩)

theorem teardownLocal_owned (h : t.Owned) : t.teardownLocal.Owned := by
  refine ⟨rfl, rfl, h.older, fun _ _ _ => rfl, fun r hr => ?_, fun c hc => ?_⟩
  · rcases h.renderers r hr with hdisposed | hused | hheld
    · exact .inl (List.mem_append_left _ hdisposed)
    · exact .inl (List.mem_append_right _ (by simp [hused]))
    · exact .inr (.inr hheld)
  · rcases h.clients c hc with hdisposed | hused
    · exact .inl (List.mem_append_left _ hdisposed)
    · exact .inl (List.mem_append_right _ (by simp [hused]))

theorem bumpGeneration_owned (h : t.Owned) : t.bumpGeneration.Owned := by
  refine ⟨h.paired, h.subscribed, fun g stage hg => Nat.le_succ_of_le (h.older g stage hg), fun stage hg => ?_,
    h.renderers, h.clients⟩
  have := h.older _ stage hg
  exact absurd this (Nat.not_succ_le_self _)

/-- An attach lets go of the renderer in its hands. -/
theorem discard_owned (h : t.Owned) {generation r built : Nat} {stage : Stage}
    (hstage : t.attaches.lookup generation = some stage)
    (hheld : ∀ q target, stage = .mounting q target → q = r) (hbuilt : ∀ q < built, q < t.renderersBuilt ∨ q = r) :
    Owned { t with
      renderersBuilt := built
      attaches := t.attaches.erase generation
      renderersDisposed := t.renderersDisposed ++ [r] } := by
  refine ⟨h.paired, h.subscribed, fun g s hg => h.older g s (Registry.lookup_erase_iff.1 hg).2,
    fun s hs => h.latest s (Registry.lookup_erase_iff.1 hs).2, fun q hq => ?_, h.clients⟩
  rcases hbuilt q hq with hold | rfl
  · rcases h.renderers q hold with hdisposed | hused | ⟨g, target, hg⟩
    · exact .inl (List.mem_append_left _ hdisposed)
    · exact .inr (.inl hused)
    · by_cases heq : g = generation
      · subst heq
        have hq : q = r := hheld q target (Option.some.inj (hstage.symm.trans hg))
        exact .inl (List.mem_append_right _ (List.mem_singleton.2 hq))
      · exact .inr (.inr ⟨g, target, Registry.lookup_erase_iff.2 ⟨heq, hg⟩⟩)
  · exact .inl (List.mem_append_right _ (List.mem_singleton_self _))

theorem onLoaded_owned (h : t.Owned) {generation : Nat} (hstage : t.attaches.lookup generation = some .loading) :
    (t.onLoaded generation).Owned := by
  unfold onLoaded
  simp only
  split
  · exact discard_owned h hstage (fun q _ hq => by cases hq) (fun q hq => by omega)
  · next hlatest =>
    have hlatest : generation = t.generation := not_not.1 hlatest
    have hnone : t.client = none := h.latest _ (hlatest ▸ hstage) (by simp)
    refine ⟨h.paired, h.subscribed, ?_, fun _ _ _ => hnone, fun q hq => ?_, h.clients⟩
    · exact Registry.forall_insert (h.older _ _ hstage) h.older
    · rcases Nat.lt_succ_iff_lt_or_eq.1 hq with hold | rfl
      · rcases h.renderers q hold with hdisposed | hused | ⟨g, target, hg⟩
        · exact .inl hdisposed
        · exact .inr (.inl hused)
        · have hne : g ≠ generation := fun heq => by rw [heq, hstage] at hg; cases hg
          exact .inr (.inr ⟨g, target, by rw [AList.lookup_insert_ne hne]; exact hg⟩)
      · exact .inr (.inr ⟨generation, _, AList.lookup_insert _⟩)

theorem onMounted_owned (h : t.Owned) {generation r : Nat} {target ok : Bool}
    (hstage : t.attaches.lookup generation = some (.mounting r target)) : (t.onMounted generation r ok).Owned := by
  unfold onMounted
  split
  · exact discard_owned h hstage (fun q _ hq => (Stage.mounting.inj hq).1.symm) (fun q hq => .inl hq)
  · next hlatest =>
    obtain rfl : generation = t.generation := not_not.1 fun hne => hlatest (.inl hne)
    have hnone : t.client = none := h.latest _ hstage (by simp)
    have hrenderer : t.renderer = none := h.renderer_none hnone
    refine ⟨rfl, rfl, ?_, fun stage hg hne => ?_, fun q hq => ?_, fun c hc => ?_⟩
    · exact Registry.forall_insert (h.older _ _ hstage) h.older
    · -- the latest attach is the one that connects now
      have hg := (AList.lookup_insert t.attaches).symm.trans hg
      exact absurd (Option.some.inj hg).symm hne
    · rcases h.renderers q hq with hdisposed | hused | ⟨g, target, hg⟩
      · exact .inl hdisposed
      · rw [hrenderer] at hused; cases hused
      · by_cases heq : g = t.generation
        · rw [heq, hstage] at hg
          cases hg
          exact .inr (.inl rfl)
        · exact .inr (.inr ⟨g, target, by rw [AList.lookup_insert_ne heq]; exact hg⟩)
    · rcases Nat.lt_succ_iff_lt_or_eq.1 hc with hold | rfl
      · rcases h.clients c hold with hdisposed | hused
        · exact .inl hdisposed
        · rw [hnone] at hused; cases hused
      · exact .inr rfl

theorem onAttached_owned (h : t.Owned) {generation : Nat} {ok : Bool}
    (hstage : t.attaches.lookup generation = some .connecting) : (t.onAttached generation ok).Owned := by
  have herased : Owned { t with attaches := t.attaches.erase generation } := by
    refine ⟨h.paired, h.subscribed, fun g s hg => h.older g s (Registry.lookup_erase_iff.1 hg).2,
      fun s hs => h.latest s (Registry.lookup_erase_iff.1 hs).2, fun q hq => ?_, h.clients⟩
    rcases h.renderers q hq with hdisposed | hused | ⟨g, target, hg⟩
    · exact .inl hdisposed
    · exact .inr (.inl hused)
    · have hne : g ≠ generation := fun heq => by rw [heq, hstage] at hg; cases hg
      exact .inr (.inr ⟨g, target, Registry.lookup_erase_iff.2 ⟨hne, hg⟩⟩)
  unfold onAttached
  simp only
  split
  · exact teardownLocal_owned herased
  · exact herased

/-- Input and pastes touch neither client nor renderer. -/
theorem onInput_owned (h : t.Owned) (next : Nat) (text : JsString) : (t.onInput next text).Owned := by
  unfold onInput
  simp only
  split <;> exact ⟨h.paired, h.subscribed, h.older, h.latest, h.renderers, h.clients⟩

theorem pasteConfirmClicked_owned (h : t.Owned) : t.pasteConfirmClicked.Owned := by
  unfold pasteConfirmClicked
  split <;> exact ⟨h.paired, h.subscribed, h.older, h.latest, h.renderers, h.clients⟩

theorem step_owned {e : WorkspaceEvent} (hstep : t.step e = some t') (h : t.Owned) : t'.Owned := by
  cases e with
  | mount =>
    obtain ⟨-, hstep⟩ := Option.ite_none_left_eq_some.1 hstep
    cases hstep
    exact attach_owned ⟨h.paired, h.subscribed, h.older, h.latest, h.renderers, h.clients⟩
  | ui e =>
    obtain ⟨-, hstep⟩ := Option.ite_none_right_eq_some.1 hstep
    cases e with
    | input text =>
      obtain ⟨next, -, rfl⟩ := Option.map_eq_some_iff.1 hstep
      exact onInput_owned h next text
    | pasteConfirm => cases hstep; exact pasteConfirmClicked_owned h
    | pasteCancel | detach | close =>
      cases hstep
      exact ⟨h.paired, h.subscribed, h.older, h.latest, h.renderers, h.clients⟩
    | dispose => cases hstep; exact teardownLocal_owned (bumpGeneration_owned h)
    | reconnect blocked =>
      cases hstep
      split
      · exact h
      · exact attach_owned (teardownLocal_owned h)
  | loaded generation =>
    simp only [step] at hstep
    split at hstep
    · next hstage => cases hstep; exact onLoaded_owned h hstage
    · cases hstep
  | mountSettled generation ok =>
    simp only [step] at hstep
    split at hstep
    · next r target hstage =>
      obtain ⟨-, hstep⟩ := Option.ite_none_left_eq_some.1 hstep
      cases hstep
      exact onMounted_owned h hstage
    · cases hstep
  | attachSettled generation ok =>
    simp only [step] at hstep
    split at hstep
    · next hstage => cases hstep; exact onAttached_owned h hstage
    · cases hstep
  | destroy =>
    obtain ⟨-, hstep⟩ := Option.ite_none_right_eq_some.1 hstep
    cases hstep
    have := teardownLocal_owned h
    exact ⟨this.paired, this.subscribed, this.older, this.latest, this.renderers, this.clients⟩

theorem start_owned : start.Owned :=
  ⟨rfl, rfl, by simp [start], by simp [start], by simp [start], by simp [start]⟩

/-- **No renderer and no client leaks past its successor.** In every run, each one
that was built is disposed of, in use, or in the hands of an attach that waits; a
renderer is in use exactly while a client is, and its input goes to that client. -/
theorem built_accounted (evs : List WorkspaceEvent) (hr : run step start evs = some t) :
    (∀ r < t.renderersBuilt, r ∈ t.renderersDisposed ∨ t.renderer = some r ∨
      ∃ generation target, t.attaches.lookup generation = some (.mounting r target)) ∧
    (∀ c < t.clientsBuilt, c ∈ t.clientsDisposed ∨ t.client = some c) ∧
    t.renderer.isSome = t.client.isSome ∧ t.unsubInput = t.client := by
  have h := run_inv Owned (fun _ _ _ h hstep => step_owned hstep h) hr start_owned
  exact ⟨h.renderers, h.clients, h.paired, h.subscribed⟩

/-- The operator reconnects while the first renderer is being mounted. -/
def overlappingAttaches : List WorkspaceEvent :=
  [.mount, .loaded 1, .ui (.reconnect false), .loaded 2, .mountSettled 1 true, .mountSettled 2 true]

theorem built_accounted_overlapping : ∃ t, run step start overlappingAttaches = some t ∧
    t.renderersBuilt = 2 ∧ t.renderersDisposed = [0] ∧ t.renderer = some 1 ∧
    (∀ c < t.clientsBuilt, c ∈ t.clientsDisposed ∨ t.client = some c) :=
  ⟨_, rfl, rfl, rfl, rfl, (built_accounted overlappingAttaches rfl).2.1⟩

/-! ## After the component is gone -/

/-- The component is destroyed, and the latest attach cannot mount its renderer. -/
structure Quiet (t : ProductionTerminal) : Prop where
  mounted : t.mounted = true
  destroyed : t.destroyed = true
  client : t.client = none
  renderer : t.renderer = none
  latest : ∀ r, t.attaches.lookup t.generation ≠ some (.mounting r true)

/-- A destroyed component where the latest attach has ended or waits for its load. -/
theorem Quiet.of_attaches (h : t.Quiet) {built : Nat} {disposed : List Nat} {attaches : Registry Nat Stage}
    (hlatest : ∀ r, attaches.lookup t.generation ≠ some (.mounting r true)) :
    Quiet { t with renderersBuilt := built, renderersDisposed := disposed, attaches } :=
  ⟨h.mounted, h.destroyed, h.client, h.renderer, hlatest⟩

theorem step_quiet {e : WorkspaceEvent} (hstep : t.step e = some t') (h : t.Quiet) : t'.Quiet := by
  have herase : ∀ generation r, (t.attaches.erase generation).lookup t.generation ≠ some (.mounting r true) :=
    fun generation r hr => h.latest r (Registry.lookup_erase_iff.1 hr).2
  cases e with
  | mount => simp [step, h.mounted] at hstep
  | ui e => simp [step, h.destroyed] at hstep
  | destroy => simp [step, h.destroyed] at hstep
  | loaded generation =>
    simp only [step] at hstep
    split at hstep
    · cases hstep
      unfold onLoaded
      simp only
      split
      · exact h.of_attaches (herase generation)
      · -- the renderer finds no element to be mounted into
        refine h.of_attaches fun r hr => ?_
        next hlatest =>
        rw [← not_not.1 hlatest, AList.lookup_insert, h.destroyed] at hr
        cases hr
    · cases hstep
  | mountSettled generation ok =>
    simp only [step] at hstep
    split at hstep
    · next r target hstage =>
      obtain ⟨hok, hstep⟩ := Option.ite_none_left_eq_some.1 hstep
      cases hstep
      have hdiscards : generation ≠ t.generation ∨ (!ok) = true := by
        by_contra hmounts
        obtain ⟨hlatest, hok'⟩ := not_or.1 hmounts
        cases target with
        | true => exact h.latest r (not_not.1 hlatest ▸ hstage)
        | false => simp_all
      unfold onMounted
      rw [if_pos hdiscards]
      exact h.of_attaches (herase generation)
    · cases hstep
  | attachSettled generation ok =>
    simp only [step] at hstep
    split at hstep
    · cases hstep
      simp only [onAttached]
      split
      · exact ⟨h.mounted, h.destroyed, rfl, rfl, herase generation⟩
      · exact h.of_attaches (herase generation)
    · cases hstep

/-- **Leaving the workspace leaves nothing behind exactly if no attach was mounting
its renderer.** `onDestroy` does not take a new generation, so such an attach finds
itself the latest and connects a client that nobody disposes of. -/
theorem unmounted_quiet_iff (hdestroy : t.step .destroy = some t') :
    (∀ evs u, run step t' evs = some u → u.client = none ∧ u.renderer = none) ↔
      ∀ r, t.attaches.lookup t.generation ≠ some (.mounting r true) := by
  obtain ⟨halive, hdestroy⟩ := Option.ite_none_right_eq_some.1 hdestroy
  cases hdestroy
  constructor
  · intro hquiet r hstage
    have hstep : step { t.teardownLocal with destroyed := true } (.mountSettled t.generation true) =
        some (onMounted { t.teardownLocal with destroyed := true } t.generation r true) := by
      simp [step, teardownLocal, hstage]
    have hnone := (hquiet [.mountSettled t.generation true] _ (run_cons.2 ⟨_, hstep, rfl⟩)).1
    simp [onMounted, teardownLocal] at hnone
  · intro hlatest evs u hrun
    have hmounted : t.mounted = true := (Bool.and_eq_true_iff.1 halive).1
    have hquiet := run_inv Quiet (fun _ _ _ h hstep => step_quiet hstep h) hrun ⟨hmounted, rfl, rfl, rfl, hlatest⟩
    exact ⟨hquiet.client, hquiet.renderer⟩

theorem unmounted_quiet_iff_connected : ∃ t t',
    run step start [.mount, .loaded 1, .mountSettled 1 true] = some t ∧ t.step .destroy = some t' ∧
    ∀ evs u, run step t' evs = some u → u.client = none ∧ u.renderer = none := by
  have hquiet : ∀ t t', run step start [.mount, .loaded 1, .mountSettled 1 true] = some t →
      t.step .destroy = some t' → ∀ evs u, run step t' evs = some u → u.client = none ∧ u.renderer = none := by
    intro t t' hr hdestroy
    refine (unmounted_quiet_iff hdestroy).2 fun r hstage => ?_
    cases hr
    cases Option.some.inj hstage
  exact ⟨_, _, rfl, rfl, hquiet _ _ rfl rfl⟩

/-! ## What is sent was typed, and judged -/

/-- The text that is held, for the client it would be sent to. -/
def held (t : ProductionTerminal) : List (Nat × JsString) :=
  match t.client, t.pendingPasteText with
  | some client, some text => [(client, text)]
  | _, _ => []

def sentTexts (t : ProductionTerminal) : List (Nat × JsString) := t.sent.map fun s => (s.client, s.text)

theorem held_of_none (h : t.pendingPasteText = none) : t.held = [] := by
  simp [held, h]

/-- No text is sent or held that was not typed, nor more often; what is held waits
for a confirmation, and what was sent had one or needed none. -/
structure Honest (t : ProductionTerminal) : Prop where
  typed : (t.sentTexts ++ t.held).Subperm t.typed
  judged : ∀ s ∈ t.sent, if s.confirmed then 0 ∉ s.text ∧ pasteByteLength s.text ≤ pasteHardCapBytes
    else Harmless s.text
  pending : ∀ text, t.pendingPasteText = some text → (evaluatePaste text).risk = .confirm
  addressed : t.client = none → t.pendingPasteText = none

theorem Honest.kept (h : t.Honest) (hsent : t'.sent = t.sent) (htyped : t'.typed = t.typed)
    (hpending : t'.pendingPasteText = t.pendingPasteText) (hclient : t'.client = t.client) : t'.Honest := by
  refine ⟨?_, hsent ▸ h.judged, hpending ▸ h.pending, hclient ▸ hpending ▸ h.addressed⟩
  have hheld : t'.held = t.held := by simp only [held, hclient, hpending]
  rw [sentTexts, hsent, htyped, hheld]
  exact h.typed

/-- The text that was held is forgotten. -/
theorem Honest.dropped (h : t.Honest) (hsent : t'.sent = t.sent) (htyped : t'.typed = t.typed)
    (hpending : t'.pendingPasteText = none) : t'.Honest := by
  refine ⟨?_, hsent ▸ h.judged, fun text htext => ?_, fun _ => hpending⟩
  swap
  · rw [hpending] at htext
    cases htext
  rw [sentTexts, hsent, htyped, held_of_none hpending, List.append_nil]
  exact (List.sublist_append_left t.sentTexts t.held).subperm.trans h.typed

theorem attach_fields (t : ProductionTerminal) : t.attach.sent = t.sent ∧ t.attach.typed = t.typed ∧
    t.attach.pendingPasteText = t.pendingPasteText ∧ t.attach.client = t.client := by
  unfold attach
  split <;> exact ⟨rfl, rfl, rfl, rfl⟩

theorem onInput_honest (howned : t.Owned) (h : t.Honest) {next : Nat} {text : JsString}
    (hnext : t.unsubInput = some next) : (t.onInput next text).Honest := by
  have hclient : t.client = some next := howned.subscribed ▸ hnext
  have hsent : t.sentTexts.Subperm t.typed :=
    (List.sublist_append_left t.sentTexts t.held).subperm.trans h.typed
  unfold onInput
  simp only
  split
  · next hsafe =>
    -- the held text stays held beside the one that is sent
    refine ⟨?_, fun s hs => ?_, h.pending, h.addressed⟩
    · have hperm : ((t.sentTexts ++ [(next, text)]) ++ t.held).Perm ((t.sentTexts ++ t.held) ++ [(next, text)]) := by
        rw [List.append_assoc, List.append_assoc]
        exact List.perm_append_comm.append_left _
      have htyped := hperm.subperm.trans ((List.subperm_append_right [(next, text)]).2 h.typed)
      simpa [sentTexts, held, sendInput] using htyped
    · rcases List.mem_append.1 hs with hold | hnew
      · exact h.judged s hold
      · cases List.mem_singleton.1 hnew
        exact evaluatePaste_safe hsafe
  · refine Honest.dropped (t := { t with typed := t.typed ++ [(next, text)] }) ?_ rfl rfl rfl
    exact ⟨h.typed.trans (List.sublist_append_left _ _).subperm, h.judged, h.pending, h.addressed⟩
  · next hconfirm =>
    refine ⟨?_, h.judged, fun held hheld => by cases hheld; exact hconfirm,
      fun hnone => by rw [hclient] at hnone; cases hnone⟩
    simp only [held, hclient, sentTexts]
    exact (List.subperm_append_right [(next, text)]).2 hsent

theorem pasteConfirmClicked_honest (h : t.Honest) : t.pasteConfirmClicked.Honest := by
  unfold pasteConfirmClicked
  split
  · next text client hpending hclient =>
    have htyped := h.typed
    simp only [held, hclient, hpending] at htyped
    refine ⟨?_, fun s hs => ?_, fun _ hnone => (by cases hnone), fun _ => rfl⟩
    · rw [held_of_none rfl, List.append_nil]
      simpa [sentTexts, sendInput, dropPaste] using htyped
    · rcases List.mem_append.1 hs with hold | hnew
      · exact h.judged s hold
      · cases List.mem_singleton.1 hnew
        exact evaluatePaste_confirm (h.pending text hpending)
  · exact h.dropped rfl rfl rfl

theorem step_honest {e : WorkspaceEvent} (hstep : t.step e = some t') (howned : t.Owned) (h : t.Honest) :
    t'.Honest := by
  cases e with
  | mount =>
    obtain ⟨-, hstep⟩ := Option.ite_none_left_eq_some.1 hstep
    cases hstep
    obtain ⟨hsent, htyped, hpending, hclient⟩ := attach_fields { t with mounted := true }
    exact h.kept hsent htyped hpending hclient
  | ui e =>
    obtain ⟨-, hstep⟩ := Option.ite_none_right_eq_some.1 hstep
    cases e with
    | input text =>
      obtain ⟨next, hnext, rfl⟩ := Option.map_eq_some_iff.1 hstep
      exact onInput_honest howned h hnext
    | pasteConfirm => cases hstep; exact pasteConfirmClicked_honest h
    | pasteCancel | detach | close | dispose => cases hstep; exact h.dropped rfl rfl rfl
    | reconnect blocked =>
      cases hstep
      split
      · exact h
      · obtain ⟨hsent, htyped, hpending, -⟩ := attach_fields t.teardownLocal
        exact h.dropped hsent htyped hpending
  | loaded generation =>
    simp only [step] at hstep
    split at hstep
    · cases hstep
      unfold onLoaded
      simp only
      split <;> exact h.kept rfl rfl rfl rfl
    · cases hstep
  | mountSettled generation ok =>
    simp only [step] at hstep
    split at hstep
    · next r target hstage =>
      obtain ⟨-, hstep⟩ := Option.ite_none_left_eq_some.1 hstep
      cases hstep
      unfold onMounted
      split
      · exact h.kept rfl rfl rfl rfl
      · next hlatest =>
        -- the text would be held for another client, but the latest attach finds none held
        obtain rfl : generation = t.generation := not_not.1 fun hne => hlatest (.inl hne)
        have hnone : t.client = none := howned.latest _ hstage (by simp)
        exact h.dropped rfl rfl (h.addressed hnone)
    · cases hstep
  | attachSettled generation ok =>
    simp only [step] at hstep
    split at hstep
    · cases hstep
      unfold onAttached
      simp only
      split
      · exact h.dropped rfl rfl rfl
      · exact h.kept rfl rfl rfl rfl
    · cases hstep
  | destroy =>
    obtain ⟨-, hstep⟩ := Option.ite_none_right_eq_some.1 hstep
    cases hstep
    exact h.dropped rfl rfl rfl

theorem start_honest : start.Honest :=
  ⟨List.Subperm.refl _, by simp [start], by simp [start], fun _ => rfl⟩

/-- A payload of moderate size reaches the server as it was sent. -/
theorem input_frame_read {payload : List UInt8} (h : payload.length ≤ Stream.maxPayloadLen) :
    ∃ bytes, Wire.Ts.encodeBinaryFrame .input 0 payload = .ok bytes ∧
      Wire.Rust.decodeBinaryFrame bytes = .ok { kind := .input, seq := 0, payload } := by
  have hencode : ∃ bytes, Wire.Rust.encodeBinaryFrame .input 0 payload = .ok bytes := by
    unfold Wire.Rust.encodeBinaryFrame
    rw [if_neg (Nat.not_lt.2 h)]
    exact ⟨_, rfl⟩
  obtain ⟨bytes, hencode⟩ := hencode
  have hsame := Wire.encode_same .input (show 0 < 2 ^ 53 by decide) payload
  refine ⟨bytes, ?_, Wire.decode_encode hencode⟩
  rw [show UInt64.ofNat 0 = 0 from rfl, hencode, show Wire.Rust.BinaryFrameKind.input.toTs = .input from rfl] at hsame
  revert hsame
  cases Wire.Ts.encodeBinaryFrame .input 0 payload with
  | ok bytes' => intro hsame; rw [show bytes = bytes' from hsame]
  | error e => exact False.elim

/-- **Nothing goes out that the operator did not put in.** In every run, whatever
was handed to a client was typed into the renderer that fed it, and not sent more
often than typed. It is harmless or was confirmed, and the frame that carries it
is one the server reads as these bytes. -/
theorem sent_was_typed (evs : List WorkspaceEvent) (hr : run step start evs = some t) :
    (t.sent.map fun s => (s.client, s.text)).Subperm t.typed ∧
    (∀ s ∈ t.sent, s.confirmed = false → Harmless s.text) ∧
    ∀ s ∈ t.sent, ∃ bytes, Wire.Ts.encodeBinaryFrame .input 0 (textEncode s.text) = .ok bytes ∧
      Wire.Rust.decodeBinaryFrame bytes = .ok { kind := .input, seq := 0, payload := textEncode s.text } := by
  obtain ⟨-, h⟩ := run_inv (fun t => t.Owned ∧ t.Honest)
    (fun _ _ _ h hstep => ⟨step_owned hstep h.1, step_honest hstep h.1 h.2⟩) hr ⟨start_owned, start_honest⟩
  refine ⟨(List.sublist_append_left t.sentTexts t.held).subperm.trans h.typed, fun s hs hplain => ?_, fun s hs => ?_⟩
  · have hjudged := h.judged s hs
    rw [hplain] at hjudged
    exact hjudged
  · refine input_frame_read (pasteByteLength_le_maxPayloadLen ?_)
    have hjudged := h.judged s hs
    split at hjudged
    · exact .inr hjudged.2
    · exact .inl hjudged

/-- A multi-line paste is held, confirmed, and a second click sends nothing. -/
def confirmedPaste : List WorkspaceEvent :=
  [.mount, .loaded 1, .mountSettled 1 true, .ui (.input (ascii "l")), .ui (.input (lf :: ascii "rm -rf x")),
    .ui .pasteConfirm, .ui .pasteConfirm]

theorem sent_was_typed_confirmed : ∃ t, run step start confirmedPaste = some t ∧
    t.sent = [⟨0, ascii "l", false⟩, ⟨0, lf :: ascii "rm -rf x", true⟩] ∧
    (t.sent.map fun s => (s.client, s.text)).Subperm t.typed := by
  have hrun : (run step start confirmedPaste).map sent =
      some [⟨0, ascii "l", false⟩, ⟨0, lf :: ascii "rm -rf x", true⟩] := by decide +kernel
  obtain ⟨t, hr, hsent⟩ := Option.map_eq_some_iff.1 hrun
  exact ⟨t, hr, hsent, (sent_was_typed confirmedPaste hr).1⟩

end ProductionTerminal

end RelayTerm.Web
