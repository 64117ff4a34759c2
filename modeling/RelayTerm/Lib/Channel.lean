import Mathlib.Data.List.Basic
/-!
# Bounded channels

A channel between tasks: a sender waits while it is full, the receiver while it
is empty. It is kept as the log of all it has accepted and how much of that the
receiver has taken, so what was received is a prefix of what was sent, and never
more than `cap` values wait, by construction.

Several senders share a channel; `fromSender` picks out what came from one.
-/

namespace RelayTerm.Lib

structure Channel (α : Type) (cap : Nat) where
  log : List α
  taken : Nat
  /-- The receiver is still there. -/
  listening : Bool
  taken_le : taken ≤ log.length
  bounded : log.length ≤ taken + cap
  deriving DecidableEq, Repr

namespace Channel

variable {α : Type} {cap : Nat} {c d : Channel α cap} {x : α}

def new : Channel α cap := ⟨[], 0, true, Nat.le_refl _, Nat.zero_le _⟩

def received (c : Channel α cap) : List α := c.log.take c.taken

def queued (c : Channel α cap) : List α := c.log.drop c.taken

/-- A send that finds room; `none` while the channel is full. -/
def send? (c : Channel α cap) (x : α) : Option (Channel α cap) :=
  if h : c.log.length < c.taken + cap then
    some {
      log := c.log ++ [x]
      taken := c.taken
      listening := c.listening
      taken_le := by
        rw [List.length_append]
        exact Nat.le_add_right_of_le c.taken_le
      bounded := by
        rw [List.length_append, List.length_singleton]
        exact h }
  else none

/-- The next value; `none` while the channel is empty. -/
def recv? (c : Channel α cap) : Option (α × Channel α cap) :=
  if h : c.taken < c.log.length then
    some (c.log[c.taken], ⟨c.log, c.taken + 1, c.listening, h, by have := c.bounded; omega⟩)
  else none

/-- The receiver goes away, and what waits is dropped with it. -/
def hangUp (c : Channel α cap) : Channel α cap := ⟨c.log, c.taken, false, c.taken_le, c.bounded⟩

@[simp] theorem new_log : (new : Channel α cap).log = [] := rfl
@[simp] theorem new_listening : (new : Channel α cap).listening = true := rfl
@[simp] theorem new_received : (new : Channel α cap).received = [] := rfl
@[simp] theorem hangUp_log : c.hangUp.log = c.log := rfl
@[simp] theorem hangUp_listening : c.hangUp.listening = false := rfl
@[simp] theorem hangUp_received : c.hangUp.received = c.received := rfl

@[simp] theorem received_append_queued (c : Channel α cap) : c.received ++ c.queued = c.log :=
  List.take_append_drop c.taken c.log

theorem received_prefix (c : Channel α cap) : c.received <+: c.log := List.take_prefix c.taken c.log

/-- What a send does: the value is accepted behind the others. -/
structure Sends (c : Channel α cap) (x : α) (d : Channel α cap) : Prop where
  log : d.log = c.log ++ [x]
  received : d.received = c.received
  listening : d.listening = c.listening

theorem sends (h : c.send? x = some d) : c.Sends x d := by
  unfold send? at h
  split at h
  · cases h
    exact ⟨rfl, List.take_append_of_le_length c.taken_le, rfl⟩
  · cases h

/-- What a receive does: the next value is taken. -/
structure Takes (c : Channel α cap) (x : α) (d : Channel α cap) : Prop where
  log : d.log = c.log
  received : d.received = c.received ++ [x]
  listening : d.listening = c.listening

theorem takes (h : c.recv? = some (x, d)) : c.Takes x d := by
  unfold recv? at h
  split at h
  · next hlt =>
    cases h
    exact ⟨rfl, (List.take_append_getElem hlt).symm, rfl⟩
  · cases h

end Channel

/-! ## The senders of a channel -/

variable {κ β : Type} [DecidableEq κ]

/-- What came from one sender, in order. -/
def fromSender (w : κ) (l : List (κ × β)) : List β := (l.filter (·.1 = w)).map (·.2)

variable {w v : κ} {x : β} {l m : List (κ × β)}

@[simp] theorem fromSender_nil : fromSender w ([] : List (κ × β)) = [] := rfl

@[simp] theorem fromSender_append : fromSender w (l ++ m) = fromSender w l ++ fromSender w m := by
  simp [fromSender]

@[simp] theorem fromSender_same : fromSender w [(w, x)] = [x] := by simp [fromSender]

theorem fromSender_other (h : v ≠ w) : fromSender w [(v, x)] = [] := by simp [fromSender, h]

end RelayTerm.Lib
