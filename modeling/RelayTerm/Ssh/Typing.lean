import Mathlib.Logic.Relation
import RelayTerm.Lib.Registry
import RelayTerm.Ssh.Bridge
/-!
# What reaches the shell

The way of an input through the bridge, cut out of the whole: a socket asks,
waits for room on the queue, the driver takes the input and writes it to the
channel. Each step of the bridge is a few moves along this way or none, so what
the moves keep, every run of the bridge keeps.

The bytes that reach the shell from one socket are a prefix of the bytes that
socket has written: no input is lost, repeated or overtaken by a later one of
the same socket, whatever the other sockets, the far side and `close` do. Only
an end of the bridge cuts the stream off.
-/
open RelayTerm.Lib Relation

namespace RelayTerm.Ssh

/-- The input side of the bridge. -/
structure Typing where
  tx : Bool
  queue : Channel (Nat × List UInt8) defaultPtyInputChannelCapacity
  writes : Registry Nat (List UInt8)
  inHand : List (Nat × List UInt8)
  looping : Bool
  asked : List (Nat × List UInt8)
  shell : List (Nat × List UInt8)

def Bridge.typing (b : Bridge) : Typing where
  tx := b.inputTx
  queue := b.input
  writes := b.writes
  inHand := b.driver.inHand
  looping := b.driver.looping
  asked := b.asked
  shell := b.shell

inductive Typing.Move (t : Typing) : Typing → Prop where
  | close : Move t { t with tx := false }
  | ask (writer : Nat) (bytes : List UInt8) (idle : t.writes.lookup writer = none) (tx : t.tx = true) :
      Move t { t with asked := t.asked ++ [(writer, bytes)], writes := t.writes.insert writer bytes }
  | refuse (writer : Nat) (bytes : List UInt8) (idle : t.writes.lookup writer = none) (tx : t.tx = false) :
      Move t { t with asked := t.asked ++ [(writer, bytes)] }
  | accept (writer : Nat) (bytes : List UInt8) (queue : Channel (Nat × List UInt8) defaultPtyInputChannelCapacity)
      (waits : t.writes.lookup writer = some bytes) (listening : t.queue.listening = true)
      (sends : t.queue.Sends (writer, bytes) queue) :
      Move t { t with queue, writes := t.writes.erase writer }
  | drop (writer : Nat) (bytes : List UInt8) (waits : t.writes.lookup writer = some bytes)
      (gone : t.queue.listening = false) : Move t { t with writes := t.writes.erase writer }
  | take (writer : Nat) (bytes : List UInt8) (queue : Channel (Nat × List UInt8) defaultPtyInputChannelCapacity)
      (idle : t.inHand = []) (looping : t.looping = true) (takes : t.queue.Takes (writer, bytes) queue) :
      Move t { t with queue, inHand := [(writer, bytes)] }
  | deliver (writer : Nat) (bytes : List UInt8) (held : t.inHand = [(writer, bytes)]) (looping : t.looping = true) :
      Move t { t with shell := t.shell ++ [(writer, bytes)], inHand := [] }
  | cut (writer : Nat) (bytes : List UInt8) (written : Nat) (held : t.inHand = [(writer, bytes)])
      (looping : t.looping = true) :
      Move t { t with shell := t.shell ++ [(writer, bytes.take written)], inHand := [], looping := false }
  | stop (idle : t.inHand = []) : Move t { t with looping := false }
  | leave (stopped : t.looping = false) : Move t { t with queue := t.queue.hangUp }

abbrev Typing.Moves : Typing → Typing → Prop := ReflTransGen Typing.Move

variable {b b' : Bridge} {e : Event}

/-! ## The bridge moves along -/

/-- A driver that has no input in hand, in its loop or past it. -/
theorem moves_of_driver (driver : Driver) (hidle : b.driver.inHand = []) (hidle' : driver.inHand = [])
    (hloop : driver.looping = true → b.driver.looping = true)
    (h : b'.typing = { b.typing with inHand := driver.inHand, looping := driver.looping }) :
    Typing.Moves b.typing b'.typing := by
  rw [h, hidle', ← hidle]
  cases hdriver : driver.looping with
  | true =>
    rw [← hloop hdriver]
    exact .refl
  | false => exact .single (.stop hidle)

theorem leave_moves (hidle : b.driver.inHand = []) : Typing.Moves b.typing b.leave.typing := by
  have hstop : Typing.Moves b.typing { b.typing with inHand := [], looping := false } := by
    rw [← hidle]
    exact .single (.stop hidle)
  exact hstop.tail (.leave rfl)

/-- **The bridge refines its input side**: every step of it is a few moves of an input, or none. -/
theorem step_moves (h : BridgeStep b e b') : Typing.Moves b.typing b'.typing := by
  cases h with
  | asked writer bytes idle tx => exact .single (.ask writer bytes idle tx)
  | refused writer bytes idle tx => exact .single (.refuse writer bytes idle tx)
  | accepted writer bytes input waits listening sends =>
    exact .single (.accept writer bytes input waits listening sends)
  | dropped writer bytes waits gone => exact .single (.drop writer bytes waits gone)
  | inputClosed => exact .single .close
  | took writer bytes input sel takes =>
    have hloop : b.typing.looping = true := by simp [Bridge.typing, sel, Driver.looping]
    have hmove := Typing.Move.take writer bytes input (by simp [Bridge.typing, sel, Driver.inHand]) hloop takes
    rw [hloop] at hmove
    exact .single hmove
  | wrote writer bytes held =>
    have hloop : b.typing.looping = true := by simp [Bridge.typing, held, Driver.looping]
    have hmove := Typing.Move.deliver (t := b.typing) writer bytes (by simp [Bridge.typing, held, Driver.inHand]) hloop
    rw [hloop] at hmove
    exact .single hmove
  | failed writer bytes written held =>
    exact .single (.cut writer bytes written (by simp [Bridge.typing, held, Driver.inHand])
      (by simp [Bridge.typing, held, Driver.looping]))
  | cutOff writer bytes written held =>
    have hcut : Typing.Moves b.typing _ := .single (.cut writer bytes written
      (by simp [Bridge.typing, held, Driver.inHand]) (by simp [Bridge.typing, held, Driver.looping]))
    exact hcut.tail (.leave rfl)
  | left _ idle => exact leave_moves idle
  | resizeCall | resizeRefused | resizeClosed | forwarded | unheard | heardOther => exact .refl
  | silent sel | heardEnd _ sel | handleClosed _ sel =>
    exact moves_of_driver (.closing .localClose) (by rw [sel]; rfl) rfl (fun h => by cases h) rfl
  | heardEvent _ event sel =>
    exact moves_of_driver (.emitting event) (by rw [sel]; rfl) rfl (fun _ => by rw [sel]; rfl) rfl
  | tookSize cols rows _ sel =>
    exact moves_of_driver (.resizing cols rows) (by rw [sel]; rfl) rfl (fun _ => by rw [sel]; rfl) rfl
  | put _ _ held | otherLost _ held | windowChanged _ _ _ held =>
    exact moves_of_driver .selecting (by rw [held]; rfl) rfl (fun _ => by rw [held]; rfl) rfl
  | outputLost _ held | told _ _ held | untold _ held =>
    exact moves_of_driver .tearingDown (by rw [held]; rfl) rfl (fun h => by cases h) rfl

/-! ## What every move keeps -/

/-- The bytes of one socket's inputs. -/
def bytesOf (writer : Nat) (inputs : List (Nat × List UInt8)) : List UInt8 := (fromSender writer inputs).flatten

theorem bytesOf_append (writer : Nat) (l m : List (Nat × List UInt8)) :
    bytesOf writer (l ++ m) = bytesOf writer l ++ bytesOf writer m := by simp [bytesOf]

theorem bytesOf_mono {writer : Nat} {l m : List (Nat × List UInt8)} (h : l <+: m) :
    bytesOf writer l <+: bytesOf writer m := by
  obtain ⟨rest, rfl⟩ := h
  rw [bytesOf_append]
  exact List.prefix_append _ _

/-- An input that is cut short. -/
theorem bytesOf_cut (writer v : Nat) (l : List (Nat × List UInt8)) (bytes : List UInt8) (n : Nat) :
    bytesOf writer (l ++ [(v, bytes.take n)]) <+: bytesOf writer (l ++ [(v, bytes)]) := by
  rw [bytesOf_append, bytesOf_append]
  refine List.prefix_append_right_inj _ |>.2 ?_
  by_cases hv : v = writer
  · subst hv
    simp [bytesOf, List.take_prefix]
  · simp [bytesOf, fromSender_other hv]

/-- Every call of a socket was accepted, refused, or waits, in this order; after
a refusal no call of it is accepted again. -/
structure Typing.Sound (t : Typing) : Prop where
  delivered : t.looping = true → t.shell ++ t.inHand = t.queue.received
  cutOff : ∀ writer, bytesOf writer t.shell <+: bytesOf writer t.queue.received
  listening : t.looping = true → t.queue.listening = true
  asked : ∀ writer, ∃ refused, fromSender writer t.asked =
    fromSender writer t.queue.log ++ refused ++ (t.writes.lookup writer).toList ∧
    (refused ≠ [] → t.queue.listening = false ∨ t.tx = false ∧ t.writes.lookup writer = none)

/-- A call of one socket is no call of another. -/
theorem Typing.Sound.asked_insert {t : Typing} (hs : t.Sound) {writer : Nat} {bytes : List UInt8}
    (hidle : t.writes.lookup writer = none) (htx : t.tx = true) (v : Nat) :
    ∃ refused, fromSender v (t.asked ++ [(writer, bytes)]) =
      fromSender v t.queue.log ++ refused ++ ((t.writes.insert writer bytes).lookup v).toList ∧
      (refused ≠ [] → t.queue.listening = false ∨ t.tx = false ∧ (t.writes.insert writer bytes).lookup v = none) := by
  obtain ⟨refused, hasked, hafter⟩ := hs.asked v
  refine ⟨refused, ?_, fun hne => ?_⟩
  · rw [fromSender_append, hasked]
    by_cases hv : v = writer
    · subst hv
      simp [hidle]
    · simp [fromSender_other (Ne.symm hv), AList.lookup_insert_ne hv]
  · refine .inl ((hafter hne).resolve_right fun hclosed => ?_)
    rw [htx] at hclosed
    cases hclosed.1

theorem move_sound {t t' : Typing} (h : t.Move t') (hs : t.Sound) : t'.Sound := by
  cases h with
  | close =>
    refine ⟨hs.delivered, hs.cutOff, hs.listening, fun v => ?_⟩
    obtain ⟨refused, hasked, hafter⟩ := hs.asked v
    exact ⟨refused, hasked, fun hne => (hafter hne).imp id fun hclosed => ⟨rfl, hclosed.2⟩⟩
  | ask writer bytes idle tx => exact ⟨hs.delivered, hs.cutOff, hs.listening, hs.asked_insert idle tx⟩
  | refuse writer bytes idle tx =>
    refine ⟨hs.delivered, hs.cutOff, hs.listening, fun v => ?_⟩
    obtain ⟨refused, hasked, hafter⟩ := hs.asked v
    by_cases hv : v = writer
    · subst hv
      refine ⟨refused ++ [bytes], ?_, fun _ => .inr ⟨tx, idle⟩⟩
      simp only [fromSender_append, hasked, fromSender_same, idle, Option.toList_none, List.append_nil,
        List.append_assoc]
    · refine ⟨refused, ?_, hafter⟩
      rw [fromSender_append, fromSender_other (Ne.symm hv), List.append_nil, hasked]
  | accept writer bytes queue waits listening sends =>
    refine ⟨?_, ?_, ?_, fun v => ?_⟩
    · simp only [sends.received]; exact hs.delivered
    · simp only [sends.received]; exact hs.cutOff
    · simp only [sends.listening]; exact hs.listening
    · obtain ⟨refused, hasked, hafter⟩ := hs.asked v
      simp only [sends.log, sends.listening, fromSender_append]
      by_cases hv : v = writer
      · subst hv
        -- a socket that waits has not been refused
        have hnil : refused = [] := by
          by_contra hne
          rcases hafter hne with hgone | ⟨-, hnone⟩
          · rw [listening] at hgone; cases hgone
          · rw [waits] at hnone; cases hnone
        exact ⟨[], by simp [hasked, hnil, waits], fun hne => absurd rfl hne⟩
      · exact ⟨refused, by simp [hasked, fromSender_other (Ne.symm hv), AList.lookup_erase_ne hv],
          fun hne => by rw [AList.lookup_erase_ne hv]; exact hafter hne⟩
  | drop writer bytes waits gone =>
    refine ⟨hs.delivered, hs.cutOff, hs.listening, fun v => ?_⟩
    obtain ⟨refused, hasked, -⟩ := hs.asked v
    by_cases hv : v = writer
    · subst hv
      exact ⟨refused ++ [bytes], by simp [hasked, waits], fun _ => .inl gone⟩
    · exact ⟨refused, by simp [hasked, AList.lookup_erase_ne hv], fun _ => .inl gone⟩
  | take writer bytes queue idle looping takes =>
    have hdelivered := hs.delivered looping
    rw [idle, List.append_nil] at hdelivered
    refine ⟨fun _ => ?_, fun v => ?_, ?_, ?_⟩
    · simp only [takes.received, hdelivered]
    · simp only [takes.received, hdelivered]
      exact bytesOf_mono (List.prefix_append _ _)
    · simp only [takes.listening]; exact hs.listening
    · simp only [takes.log, takes.listening]; exact hs.asked
  | deliver writer bytes held looping =>
    have hdelivered := hs.delivered looping
    rw [held] at hdelivered
    exact ⟨fun _ => by simpa using hdelivered, fun v => by simp only [hdelivered]; exact List.prefix_rfl, hs.listening,
      hs.asked⟩
  | cut writer bytes written held looping =>
    have hdelivered := hs.delivered looping
    rw [held] at hdelivered
    refine ⟨fun hloop => (by cases hloop), fun v => ?_, fun hloop => (by cases hloop), hs.asked⟩
    rw [← hdelivered]
    exact bytesOf_cut v writer _ _ _
  | stop => exact ⟨fun hloop => (by cases hloop), hs.cutOff, fun hloop => (by cases hloop), hs.asked⟩
  | leave stopped =>
    refine ⟨fun hloop => ?_, hs.cutOff, fun hloop => ?_, fun v => ?_⟩
    · rw [stopped] at hloop; cases hloop
    · rw [stopped] at hloop; cases hloop
    · obtain ⟨refused, hasked, -⟩ := hs.asked v
      exact ⟨refused, hasked, fun _ => .inl rfl⟩

theorem moves_sound {t t' : Typing} (h : t.Moves t') (hs : t.Sound) : t'.Sound := by
  induction h with
  | refl => exact hs
  | tail _ hlast ih => exact move_sound hlast ih

theorem start_sound : Bridge.start.typing.Sound where
  delivered _ := rfl
  cutOff _ := List.prefix_rfl
  listening _ := rfl
  asked _ := ⟨[], rfl, fun hne => absurd rfl hne⟩

theorem run_typing_sound {evs : List Event} (hr : run Bridge.step .start evs = some b) : b.typing.Sound :=
  run_inv (fun b => b.typing.Sound) (fun _ _ _ hs h => moves_sound (step_moves (bridge_step_cases h)) hs) hr start_sound

/-- **Nothing a socket types is lost, repeated or reordered on the way to the
shell.** In every run of the bridge, what the shell has received from a socket is
a prefix of what the socket has written. While the driver is in its loop and the
handle is open, all of it is in the shell, in the driver's hand, on the queue, or
waiting for room. -/
theorem typed_in_order (evs : List Event) (hr : run Bridge.step .start evs = some b) (writer : Nat) :
    bytesOf writer b.shell <+: bytesOf writer b.asked ∧
    (b.driver.looping = true → b.inputTx = true →
      fromSender writer b.asked = fromSender writer (b.shell ++ b.driver.inHand ++ b.input.queued) ++
        (b.writes.lookup writer).toList) := by
  have hs := run_typing_sound hr
  obtain ⟨refused, hasked, hafter⟩ := hs.asked writer
  constructor
  · have haccepted : bytesOf writer b.input.log <+: bytesOf writer b.asked := by
      unfold bytesOf
      rw [show fromSender writer b.asked = _ from hasked, List.append_assoc, List.flatten_append]
      exact List.prefix_append _ _
    exact ((hs.cutOff writer).trans (bytesOf_mono b.input.received_prefix)).trans haccepted
  · intro hloop htx
    have hnil : refused = [] := by
      by_contra hne
      rcases hafter hne with hgone | ⟨hclosed, -⟩
      · rw [hs.listening hloop] at hgone; cases hgone
      · rw [show b.typing.tx = b.inputTx from rfl, htx] at hclosed; cases hclosed
    have hdelivered : b.shell ++ b.driver.inHand = b.input.received := hs.delivered hloop
    rw [hdelivered, Channel.received_append_queued, show fromSender writer b.asked = _ from hasked, hnil,
      List.append_nil]
    rfl

/-- Two sockets type at once, and the first is written when the second is. -/
def twoSockets : List Event :=
  [.writeInput 1 [108, 115], .writeInput 2 [3], .sendInput 2, .sendInput 1, .takeInput, .dataSent]

theorem typed_in_order_two : ∃ b, run Bridge.step .start twoSockets = some b ∧
    b.shell = [(2, [3])] ∧ bytesOf 2 b.shell <+: bytesOf 2 b.asked ∧
    fromSender 1 b.asked = fromSender 1 (b.shell ++ b.driver.inHand ++ b.input.queued) ++
      (b.writes.lookup 1).toList :=
  ⟨_, rfl, rfl, (typed_in_order twoSockets rfl 2).1, (typed_in_order twoSockets rfl 1).2 rfl rfl⟩

end RelayTerm.Ssh
