import Mathlib.Logic.Relation
import RelayTerm.Ssh.Bridge
/-!
# What the shell prints

The other way through the bridge: the driver hears a message of the channel and
puts it on the queue to the forwarder, where it can wait for room; when the loop
ends it tells the forwarder why, and nothing more. The queue therefore holds
what the channel has said, in order, up to what the driver has in hand. A
`Closed` event stands behind everything the channel has said, and names a reason
that the channel, the handle or the transport has given.
-/
open RelayTerm.Lib Relation

namespace RelayTerm.Ssh

/-- The event the driver has heard and the queue has not. -/
def Driver.emits : Driver → List SshPtyEvent
  | .emitting event => [event]
  | _ => []

/-- What the channel has said, as events. -/
def Bridge.said (b : Bridge) : List SshPtyEvent := b.heard.filterMap ChannelMsg.event

/-- What gives the driver a reason to end its loop. -/
def Bridge.Grounds (b : Bridge) : ClosedReason → Prop
  | .remoteEof => b.heard.getLast? = some .eof ∨ b.heard.getLast? = some .close
  | .transportError => b.broken = true
  | .localClose => b.inputClosed = true ∨ b.resizeClosed = true

/-- The output side of the bridge. -/
structure Printing where
  said : List SshPtyEvent
  log : List SshPtyEvent
  listening : Bool
  driver : Driver
  grounds : ClosedReason → Prop

def Bridge.printing (b : Bridge) : Printing where
  said := b.said
  log := b.output.log
  listening := b.output.listening
  driver := b.driver
  grounds := b.Grounds

inductive Printing.Move (p : Printing) : Printing → Prop where
  /-- The grounds change; once the loop is over, none is taken back. -/
  | learn (grounds : ClosedReason → Prop) (kept : p.driver.looping = false → ∀ r, p.grounds r → grounds r) :
      Move p { p with grounds }
  | busy (driver : Driver) (looping : p.driver.looping = true) (idle : p.driver.emits = [])
      (looping' : driver.looping = true) (idle' : driver.emits = []) : Move p { p with driver }
  | hear (event : SshPtyEvent) (looping : p.driver.looping = true) (idle : p.driver.emits = []) :
      Move p { p with said := p.said ++ [event], driver := .emitting event }
  | put (event : SshPtyEvent) (held : p.driver = .emitting event) (listening : p.listening = true) :
      Move p { p with log := p.log ++ [event], driver := .selecting }
  | lose (event : SshPtyEvent) (held : p.driver = .emitting event) (gone : p.listening = false) :
      Move p { p with driver := .selecting }
  | stop (reason : ClosedReason) (looping : p.driver.looping = true)
      (grounds : p.listening = true → p.driver.emits = [] ∧ p.grounds reason) :
      Move p { p with driver := .closing reason }
  | tell (reason : ClosedReason) (held : p.driver = .closing reason) (listening : p.listening = true) :
      Move p { p with log := p.log ++ [.closed reason], driver := .tearingDown }
  | mute (reason : ClosedReason) (held : p.driver = .closing reason) (gone : p.listening = false) :
      Move p { p with driver := .tearingDown }
  | leave : Move p { p with driver := .ended }
  | unheard : Move p { p with listening := false }

abbrev Printing.Moves : Printing → Printing → Prop := ReflTransGen Printing.Move

variable {b b' : Bridge} {e : Event}

/-! ## The bridge moves along -/

/-- A call that waits holds a sender. -/
theorem inputClosed_of_waiting {writer : Nat} {bytes : List UInt8} (waits : b.writes.lookup writer = some bytes) :
    b.inputClosed = false := by
  have hne : b.writes.entries ≠ [] := by
    intro hnil
    have hmem := AList.lookup_isSome.1 (Option.isSome_of_eq_some waits)
    simp [AList.mem_keys, AList.keys, hnil] at hmem
  simp [Bridge.inputClosed, hne]

/-- A step of the handle: the handle once closed stays closed. -/
theorem moves_of_handle (h : b'.printing = { b.printing with grounds := b'.Grounds })
    (hheard : b'.heard = b.heard) (hbroken : b'.broken = b.broken)
    (hinput : b.inputClosed = true → b'.inputClosed = true)
    (hresize : b.resizeClosed = true → b'.resizeClosed = true) : Printing.Moves b.printing b'.printing := by
  rw [h]
  refine .single (.learn _ fun _ reason hgrounds => ?_)
  cases reason with
  | remoteEof => exact Eq.subst (motive := fun l => List.getLast? l = _ ∨ List.getLast? l = _) hheard.symm hgrounds
  | transportError => exact hbroken.trans hgrounds
  | localClose => exact hgrounds.imp hinput hresize

/-- In its loop the driver learns what it has heard, then moves. -/
theorem moves_of_loop (hloop : b.driver.looping = true) {p : Printing} (hp : p = b'.printing)
    (h : Printing.Moves { b.printing with grounds := b'.Grounds } p) : Printing.Moves b.printing b'.printing := by
  have hlearn : Printing.Move b.printing { b.printing with grounds := b'.Grounds } := by
    refine .learn _ fun hover => ?_
    rw [show b.printing.driver.looping = true from hloop] at hover
    cases hover
  exact hp ▸ h.head hlearn

theorem selecting_loops (sel : b.driver = .selecting) : b.printing.driver.looping = true := by
  simp [Bridge.printing, sel, Driver.looping]

theorem selecting_idle (sel : b.driver = .selecting) : b.printing.driver.emits = [] := by
  simp [Bridge.printing, sel, Driver.emits]

theorem sends_printing {event : SshPtyEvent} {output : Channel SshPtyEvent defaultPtyOutputChannelCapacity}
    (sends : b.output.Sends event output) (driver : Driver) :
    { b.printing with log := b.output.log ++ [event], driver } = Bridge.printing { b with output, driver } := by
  simp only [Bridge.printing, sends.log, sends.listening]
  rfl

/-- **The bridge refines its output side.** -/
theorem step_prints (h : BridgeStep b e b') : Printing.Moves b.printing b'.printing := by
  cases h with
  | asked writer bytes idle tx =>
    refine moves_of_handle rfl rfl rfl (fun hclosed => ?_) id
    simp [Bridge.inputClosed, tx] at hclosed
  | accepted writer bytes input waits listening sends =>
    exact moves_of_handle rfl rfl rfl (fun hclosed => by rw [inputClosed_of_waiting waits] at hclosed; cases hclosed) id
  | dropped writer bytes waits gone =>
    exact moves_of_handle rfl rfl rfl (fun hclosed => by rw [inputClosed_of_waiting waits] at hclosed; cases hclosed) id
  | resizeCall e resizes resize open_ =>
    exact moves_of_handle rfl rfl rfl id (fun hclosed => by rw [open_] at hclosed; cases hclosed)
  | inputClosed =>
    refine moves_of_handle rfl rfl rfl (fun hclosed => ?_) id
    simpa [Bridge.inputClosed] using (Bool.and_eq_true_iff.1 hclosed).2
  | resizeClosed =>
    refine moves_of_handle rfl rfl rfl id (fun hclosed => ?_)
    simpa [Bridge.resizeClosed] using (Bool.and_eq_true_iff.1 hclosed).2
  | refused | resizeRefused => exact .refl
  | silent sel =>
    exact moves_of_loop (by rw [sel]; rfl) rfl
      (.single (.stop .transportError (selecting_loops sel)
        fun _ => ⟨selecting_idle sel, rfl⟩))
  | heardEnd msg sel ends =>
    refine moves_of_loop (by rw [sel]; rfl) ?_
      (.single (.stop .remoteEof (selecting_loops sel)
        fun _ => ⟨selecting_idle sel, ?_⟩))
    · have hnone : msg.event = none := by rcases ends with rfl | rfl <;> rfl
      simp [Bridge.printing, Bridge.said, hnone]
    · rcases ends with rfl | rfl <;> simp [Bridge.Grounds]
  | heardEvent msg event sel meaning =>
    refine moves_of_loop (by rw [sel]; rfl) ?_
      (.single (.hear event (selecting_loops sel)
        (selecting_idle sel)))
    simp [Bridge.printing, Bridge.said, meaning]
  | heardOther msg sel meaning =>
    refine moves_of_loop (by rw [sel]; rfl) ?_ .refl
    simp [Bridge.printing, Bridge.said, meaning]
  | took writer bytes input sel takes =>
    exact .single (.busy (.writing writer bytes) (selecting_loops sel)
      (selecting_idle sel) rfl rfl)
  | tookSize cols rows resize sel takes =>
    exact .single (.busy (.resizing cols rows) (selecting_loops sel)
      (selecting_idle sel) rfl rfl)
  | handleClosed e sel closed =>
    exact .single (.stop .localClose (selecting_loops sel)
      fun _ => ⟨selecting_idle sel, closed⟩)
  | put event output held listening sends =>
    exact .single (sends_printing sends .selecting ▸ .put event held listening)
  | told reason output held listening sends =>
    exact .single (sends_printing sends .tearingDown ▸ .tell reason held listening)
  | outputLost bytes held gone =>
    refine .single (.stop .localClose (by simp [Bridge.printing, held, Driver.looping]) fun listening => ?_)
    rw [show b.printing.listening = false from gone] at listening
    cases listening
  | otherLost event held gone => exact .single (.lose event held gone)
  | untold reason held gone => exact .single (.mute reason held gone)
  | wrote _ _ held | windowChanged _ _ _ held =>
    exact .single (.busy .selecting (by simp [Bridge.printing, held, Driver.looping])
      (by simp [Bridge.printing, held, Driver.emits]) rfl rfl)
  | failed writer bytes written held =>
    exact moves_of_loop (by rw [held]; rfl) rfl
      (.single (.stop .transportError (by simp [Bridge.printing, held, Driver.looping])
        fun _ => ⟨by simp [Bridge.printing, held, Driver.emits], rfl⟩))
  | left | cutOff => exact .single .leave
  | forwarded event output takes =>
    have hsame : b.printing = Bridge.printing { b with output } := by
      simp only [Bridge.printing, takes.log, takes.listening]
      rfl
    exact hsame ▸ .refl
  | unheard => exact .single .unheard

/-! ## What every move keeps -/

/-- All the channel has said, and why the loop is over. -/
def Printing.Complete (p : Printing) : Prop := ∃ reason, p.log = p.said ++ [.closed reason] ∧ p.grounds reason

/-- The queue holds what the channel has said, up to what is in hand; while the
forwarder listens, nothing of it is lost. -/
def Printing.Sound (p : Printing) : Prop :=
  match p.driver with
  | .closing reason => p.log <+: p.said ∧ (p.listening = true → p.log = p.said ∧ p.grounds reason)
  | .tearingDown => p.log <+: p.said ∧ p.listening = false ∨ p.Complete
  | .ended => p.log <+: p.said ∨ p.Complete
  | driver => p.log <+: p.said ∧ (p.listening = true → p.log ++ driver.emits = p.said)

theorem sound_of_looping {p : Printing} (hloop : p.driver.looping = true) :
    p.Sound ↔ p.log <+: p.said ∧ (p.listening = true → p.log ++ p.driver.emits = p.said) := by
  unfold Printing.Sound
  split <;> simp_all [Driver.looping]

/-- Whatever the driver does, the queue holds no more than this. -/
theorem Printing.Sound.told {p : Printing} (hs : p.Sound) : p.log <+: p.said ∨ p.Complete := by
  unfold Printing.Sound at hs
  split at hs
  · exact .inl hs.1
  · exact hs.imp And.left id
  · exact hs
  · exact .inl hs.1

theorem printing_move_sound {p p' : Printing} (h : p.Move p') (hs : p.Sound) : p'.Sound := by
  cases h with
  | learn grounds kept =>
    cases hloop : p.driver.looping with
    | true => exact (sound_of_looping (p := { p with grounds }) hloop).2 ((sound_of_looping hloop).1 hs)
    | false =>
      have hcomplete : p.Complete → Printing.Complete { p with grounds } :=
        fun ⟨reason, hlog, hgrounds⟩ => ⟨reason, hlog, kept hloop reason hgrounds⟩
      unfold Printing.Sound at hs ⊢
      cases hd : p.driver with
      | closing reason =>
        simp only [hd] at hs ⊢
        exact ⟨hs.1, fun hlistens => ⟨(hs.2 hlistens).1, kept hloop reason (hs.2 hlistens).2⟩⟩
      | tearingDown => simp only [hd] at hs ⊢; exact hs.imp id hcomplete
      | ended => simp only [hd] at hs ⊢; exact hs.imp id hcomplete
      | _ => rw [hd] at hloop; cases hloop
  | busy driver looping idle looping' idle' =>
    have hold := (sound_of_looping looping).1 hs
    refine (sound_of_looping looping').2 ⟨hold.1, fun hlistens => ?_⟩
    simpa only [idle'] using idle ▸ hold.2 hlistens
  | hear event looping idle =>
    have hold := (sound_of_looping looping).1 hs
    rw [idle, List.append_nil] at hold
    exact ⟨hold.1.trans (List.prefix_append _ _), fun hlistens => by rw [Driver.emits, hold.2 hlistens]⟩
  | put event held listening =>
    have hold := (sound_of_looping (by rw [held]; rfl)).1 hs
    have hsaid : p.log ++ [event] = p.said := by simpa only [held, Driver.emits] using hold.2 listening
    exact ⟨hsaid ▸ List.prefix_rfl, fun _ => by simpa [Driver.emits] using hsaid⟩
  | lose event held gone =>
    have hold := (sound_of_looping (by rw [held]; rfl)).1 hs
    exact ⟨hold.1, fun hlistens => by rw [show p.listening = false from gone] at hlistens; cases hlistens⟩
  | stop reason looping grounds =>
    have hold := (sound_of_looping looping).1 hs
    refine ⟨hold.1, fun hlistens => ⟨?_, (grounds hlistens).2⟩⟩
    simpa only [(grounds hlistens).1, List.append_nil] using hold.2 hlistens
  | tell reason held listening =>
    simp only [Printing.Sound, held] at hs
    exact .inr ⟨reason, by rw [(hs.2 listening).1], (hs.2 listening).2⟩
  | mute reason held gone =>
    simp only [Printing.Sound, held] at hs
    exact .inl ⟨hs.1, gone⟩
  | leave => exact hs.told
  | unheard =>
    unfold Printing.Sound at hs ⊢
    cases hd : p.driver <;> simp only [hd] at hs ⊢
    case tearingDown => exact hs.imp (fun h => ⟨h.1, trivial⟩) id
    case ended => exact hs
    all_goals exact ⟨hs.1, fun hlistens => by cases hlistens⟩

theorem printing_moves_sound {p p' : Printing} (h : p.Moves p') (hs : p.Sound) : p'.Sound := by
  induction h with
  | refl => exact hs
  | tail _ hlast ih => exact printing_move_sound hlast ih

theorem start_printing_sound : Bridge.start.printing.Sound := ⟨List.prefix_rfl, fun _ => rfl⟩

theorem step_printing_sound (h : b.step e = some b') (hs : b.printing.Sound) : b'.printing.Sound :=
  printing_moves_sound (step_prints (bridge_step_cases h)) hs

end RelayTerm.Ssh
