import RelayTerm.Lib.Registry
import RelayTerm.Lib.Runs
import RelayTerm.Stream.Terminal
/-!
# The transport's connect promise

`WebSocketTerminalTransport` with the sockets it makes and the promises its
`connect` returns. Its handlers do not know the socket they were bound to: they
change the transport's own state, and ask that state whether a connect is still
pending. The handler of `close` runs the subscribers before it unbinds the
socket, so a subscriber may call the transport in between.
-/
open RelayTerm.Lib

namespace RelayTerm.Stream.Transport

/-! ## The transport (`terminal-core/src/transport.ts`) -/

inductive TransportReadyState where
  | idle | connecting | open | closing | closed
  deriving DecidableEq, Repr

def TransportReadyState.asStr : TransportReadyState → String
  | .idle => "idle"
  | .connecting => "connecting"
  | .open => "open"
  | .closing => "closing"
  | .closed => "closed"

inductive TransportEvent where
  | message (msg : ServerMsg)
  | binary (frame : Wire.Ts.BinaryFrame)
  | close (code : Nat) (reason : String) (wasClean : Bool)
  | error (e : TerminalTransportError)
  deriving DecidableEq, Repr

/-- A connect call, and the socket it made. -/
abbrev ConnectId := Nat

/-- How far a socket has come with its events. -/
inductive Phase where
  | connecting | open | closed
  deriving DecidableEq, Repr

structure WebSocketLike where
  phase : Phase
  /-- The transport's listeners are added to it. -/
  listening : Bool
  deriving DecidableEq, Repr

inductive Settlement where
  | resolved
  | rejected (message : String)
  deriving DecidableEq, Repr

structure Attempt where
  /-- `none` when no socket was made. -/
  socket : Option WebSocketLike
  /-- The calls of `resolve` and `reject` of its promise. -/
  settled : List Settlement
  deriving DecidableEq, Repr

/-- The listeners are removed from its socket. -/
def Attempt.deafen (a : Attempt) : Attempt := { a with socket := a.socket.map ({ · with listening := false }) }

/-- The `kind` of a failure. -/
def failureKind : Wire.Ts.BinaryDecodeFailure → String
  | .truncatedHeader => "truncated_header"
  | .badMagic => "bad_magic"
  | .nonZeroReserved => "non_zero_reserved"
  | .payloadTooLarge => "payload_too_large"
  | .lengthMismatch => "length_mismatch"
  | .unknownKind => "unknown_kind"

/-- The `data` of a message event: a text with what `decodeServerMsg` says of it
(the kind of failure, or the message), the bytes of a buffer, or something else. -/
inductive MessageData where
  | text (result : Except String ServerMsg)
  | bytes (buf : List UInt8)
  | other

structure WebSocketTerminalTransport where
  /-- `#socket` -/
  socket : Option ConnectId := none
  /-- `#state` -/
  state : TransportReadyState := .idle
  /-- The socket for which `#onOpen`, `#onMessage`, `#onClose` and `#onError` were made. -/
  handlers : Option ConnectId := none
  connectResolve : Option ConnectId := none
  connectReject : Option ConnectId := none
  deriving DecidableEq, Repr

/-- The transport with its sockets, its promises, and what it emitted and sent. -/
structure Sys extends WebSocketTerminalTransport where
  attempts : Registry ConnectId Attempt := ∅
  next : ConnectId := 0
  emitted : List TransportEvent := []
  sent : List (ConnectId × ClientFrame) := []
  /-- The subscribers of a close event run. -/
  notifying : Bool := false
  /-- `close` was called after the last connect that was not refused. -/
  closeCalled : Bool := false

namespace Sys

variable (s : Sys)

def emit (e : TransportEvent) : Sys := { s with emitted := s.emitted ++ [e] }

/-- A promise's `resolve` or `reject` is called. -/
def settle (k : ConnectId) (x : Settlement) : Sys :=
  { s with attempts := s.attempts.modify k fun a => { a with settled := a.settled ++ [x] } }

/-- A connect call returns its promise. -/
def attempt (a : Attempt) : Sys := { s with attempts := s.attempts.insert s.next a, next := s.next + 1 }

/-- The factory threw. -/
def abandon : Sys :=
  { s with state := .closed, connectResolve := none, connectReject := none, closeCalled := false }

/-- The new socket gets the handlers. -/
def bind : Sys :=
  { s with
    socket := some s.next
    state := .connecting
    handlers := some s.next
    connectResolve := some s.next
    connectReject := some s.next
    closeCalled := false }

/-- `made` is what the factory does: it throws, or returns a socket. -/
def connect (made : Except String Unit) : Sys :=
  if s.state ≠ .idle ∧ s.state ≠ .closed then
    s.attempt ⟨none, [.rejected ("transport already " ++ s.state.asStr ++ "; create a new instance")]⟩
  else match made with
    | .error message => s.abandon.attempt ⟨none, [.rejected message]⟩
    | .ok _ => s.bind.attempt ⟨some ⟨.connecting, true⟩, []⟩

/-- `send` and `sendBinary`. -/
def send (frame : ClientFrame) : Sys := match s.state, s.socket with
  | .open, some k => { s with sent := s.sent ++ [(k, frame)] }
  | _, _ => s.emit (.error .sendBeforeOpen)

/-- The socket is asked to close. -/
def close : Sys := match s.socket with
  | none => { s with state := .closed, closeCalled := true }
  | some _ => { s with state := .closing, closeCalled := true }

def onOpen : Sys :=
  let s' := { s with state := .open, connectResolve := none, connectReject := none }
  match s.connectResolve with
  | some k => s'.settle k .resolved
  | none => s'

def onMessage : MessageData → Sys
  | .text (.error kind) => s.emit (.error (.decode (some kind)))
  | .text (.ok msg) => s.emit (.message msg)
  | .bytes buf => match Wire.Ts.decodeBinaryFrame buf with
    | .error failure => s.emit (.error (.binaryDecode (some (failureKind failure))))
    | .ok frame => s.emit (.binary frame)
  | .other => s.emit (.error (.binaryDecode (some "truncated_header")))

/-- Up to the subscribers of the close event. -/
def onClose (code : Nat) (reason : String) (wasClean : Bool) : Sys :=
  let s' := match s.state, s.connectReject with
    | .connecting, some k =>
      { s with connectResolve := none, connectReject := none }.settle k
        (.rejected ("websocket closed before open (code=" ++ toString code ++ ")"))
    | _, _ => s
  { s'.emit (.close code reason wasClean) with state := .closed, notifying := true }

def onError : Sys := s.emit (.error .network)

/-- The current handlers are removed from the current socket. -/
def unbind : Sys := match s.socket with
  | none => s
  | some k =>
    { s with
      socket := none
      handlers := none
      attempts := if s.handlers = some k then
          s.attempts.modify k Attempt.deafen
        else s.attempts }

/-! ## Its runs -/

def socketOf (k : ConnectId) : Option WebSocketLike := (s.attempts.lookup k).bind (·.socket)

def hears (k : ConnectId) : Bool := (s.socketOf k).any (·.listening)

/-- The event of a socket reaches the handler if it is bound. -/
def hear (k : ConnectId) (handler : Sys → Sys) : Sys := if s.hears k then handler s else s

def enter (k : ConnectId) (phase : Phase) : Sys :=
  { s with attempts := s.attempts.modify k fun a => { a with socket := a.socket.map ({ · with phase }) } }

end Sys

inductive Event where
  | connect (made : Except String Unit)
  | send (frame : ClientFrame)
  | close
  | opened (k : ConnectId)
  | message (k : ConnectId) (data : MessageData)
  | closed (k : ConnectId) (code : Nat) (reason : String) (wasClean : Bool)
  | error (k : ConnectId)
  /-- The subscribers of a close event return. -/
  | notified

namespace Sys

variable (s : Sys)

/-- The calls are made at any time, also by a subscriber. A socket opens once at
most, and nothing comes from it after its close event. -/
def step : Event → Option Sys
  | .connect made => some (s.connect made)
  | .send frame => some (s.send frame)
  | .close => some s.close
  | .opened k =>
    if !s.notifying && (s.socketOf k).any (·.phase = .connecting) then some ((s.enter k .open).hear k onOpen) else none
  | .message k data =>
    if !s.notifying && (s.socketOf k).any (·.phase = .open) then some (s.hear k (·.onMessage data)) else none
  | .closed k code reason wasClean =>
    if !s.notifying && (s.socketOf k).any (·.phase ≠ .closed) then
      some ((s.enter k .closed).hear k (·.onClose code reason wasClean)) else none
  | .error k => if !s.notifying && (s.socketOf k).any (·.phase ≠ .closed) then some (s.hear k onError) else none
  | .notified => if s.notifying then some { s.unbind with notifying := false } else none

/-- The promise of the connect call was neither resolved nor rejected. -/
def pending (k : ConnectId) : Bool := (s.attempts.lookup k).any (·.settled = [])

/-- No open event is heard after `close`, and none of a pending connect's close
events comes after `close` or unheard. -/
def Proper : Event → Prop
  | .opened k => s.hears k = true → s.state ≠ .closing
  | .closed k .. => s.pending k = true → s.hears k = true ∧ s.state ≠ .closing
  | _ => True

instance : (e : Event) → Decidable (s.Proper e)
  | .opened _ | .closed .. => inferInstanceAs (Decidable (_ → _))
  | .connect _ | .send _ | .close | .message .. | .error _ | .notified => isTrue trivial

end Sys

/-! ## What the transport keeps -/

/-- Its events still come, and are heard. -/
def Attempt.live (a : Attempt) : Bool := a.socket.any fun ws => ws.listening && ws.phase ≠ .closed

/-- There is no socket, or it has delivered its close event. -/
def Attempt.over (a : Attempt) : Bool := a.socket.all (·.phase = .closed)

/-- What the transport knows of a socket whose events it hears. -/
structure Heard (t : WebSocketTerminalTransport) (k : ConnectId) (a : Attempt) : Prop where
  current : t.socket = some k
  engaged : t.state ≠ .idle ∧ t.state ≠ .closed
  pending : a.settled = [] → t.connectReject = some k ∧ t.state ≠ .open
  unopened : a.socket.any (·.phase = .connecting) → a.settled = []

structure Sys.Inv (s : Sys) : Prop where
  same : s.connectResolve = s.connectReject
  bound : ∀ k, s.socket = some k → s.handlers = some k
  waits : ∀ k, s.connectReject = some k → s.pending k ∧ ∀ j, s.socket = some j → j = k
  known : ∀ k a, s.attempts.lookup k = some a → k < s.next
  once : ∀ k a, s.attempts.lookup k = some a → a.settled.length ≤ 1
  heard : ∀ k a, s.attempts.lookup k = some a → a.live → Heard s.toWebSocketTerminalTransport k a
  connecting : s.state = .connecting → s.closeCalled = false
  closing : s.state = .closing → s.closeCalled = true

/-- Every connect call that is over has settled its promise once, and the
transport is not open after `close`. -/
structure Sys.Good (s : Sys) : Prop where
  settles : ∀ k a, s.attempts.lookup k = some a → a.over → a.settled.length = 1
  stays : s.closeCalled = true → s.state ≠ .open

namespace Sys

variable {s : Sys} {k : ConnectId} {a : Attempt}

theorem pending_iff : s.pending k = true ↔ ∃ a, s.attempts.lookup k = some a ∧ a.settled = [] := by
  cases h : s.attempts.lookup k <;> simp [pending, h]

/-- A transport that is idle or closed hears no socket. -/
theorem Inv.not_live (h : s.Inv) (hs : ¬ (s.state ≠ .idle ∧ s.state ≠ .closed)) (ha : s.attempts.lookup k = some a) :
    ¬ a.live :=
  fun hlive => hs (h.heard k a ha hlive).engaged

theorem pending_attempt (h : s.Inv) (hk : s.pending k = true) (a : Attempt) : (s.attempt a).pending k = true := by
  obtain ⟨b, hb, hpend⟩ := pending_iff.1 hk
  refine pending_iff.2 ⟨b, Registry.lookup_insert_iff.2 (.inr ⟨?_, hb⟩), hpend⟩
  rintro rfl
  cases (Registry.lookup_above h.known).symm.trans hb

/-- A connect call that made no socket. -/
theorem Inv.attempt (h : s.Inv) (x : Settlement) : (s.attempt ⟨none, [x]⟩).Inv where
  same := h.same
  bound := h.bound
  waits j hj := ⟨pending_attempt h (h.waits j hj).1 _, (h.waits j hj).2⟩
  known := Registry.forall_insert (Nat.lt_succ_self _) fun j b hb => Nat.lt_succ_of_lt (h.known j b hb)
  once := Registry.forall_insert (Nat.le_refl 1) h.once
  heard := Registry.forall_insert nofun h.heard
  connecting := h.connecting
  closing := h.closing

theorem Good.attempt (h : s.Good) (a : Attempt) (ha : a.over → a.settled.length = 1) : (s.attempt a).Good where
  settles := Registry.forall_insert ha h.settles
  stays := h.stays

theorem Inv.abandon (h : s.Inv) (hs : ¬ (s.state ≠ .idle ∧ s.state ≠ .closed)) : s.abandon.Inv where
  same := rfl
  bound := h.bound
  waits := by rintro j ⟨⟩
  known := h.known
  once := h.once
  heard j b hb hlive := absurd hlive (h.not_live hs hb)
  connecting := by rintro ⟨⟩
  closing := by rintro ⟨⟩

theorem Inv.bind (h : s.Inv) (hs : ¬ (s.state ≠ .idle ∧ s.state ≠ .closed)) :
    (s.bind.attempt ⟨some ⟨.connecting, true⟩, []⟩).Inv where
  same := rfl
  bound _ hj := hj
  waits := by
    rintro j ⟨⟩
    refine ⟨pending_iff.2 ⟨_, Registry.lookup_insert_iff.2 (.inl ⟨rfl, rfl⟩), rfl⟩, ?_⟩
    rintro i ⟨⟩
    rfl
  known := Registry.forall_insert (Nat.lt_succ_self _) fun j b hb => Nat.lt_succ_of_lt (h.known j b hb)
  once := Registry.forall_insert (Nat.zero_le 1) h.once
  heard := by
    refine Registry.forall_insert (fun _ => ?_) fun j b hb hlive => absurd hlive (h.not_live hs hb)
    exact ⟨rfl, ⟨nofun, nofun⟩, fun _ => ⟨rfl, nofun⟩, fun _ => rfl⟩
  connecting _ := rfl
  closing := by rintro ⟨⟩

theorem Inv.connect (h : s.Inv) (made : Except String Unit) : (s.connect made).Inv := by
  unfold Sys.connect
  split
  · exact h.attempt _
  · next hs =>
    cases made with
    | error message => exact (h.abandon hs).attempt _
    | ok u => exact h.bind hs

theorem Good.connect (h : s.Good) (made : Except String Unit) : (s.connect made).Good := by
  unfold Sys.connect
  split
  · exact h.attempt _ fun _ => rfl
  · cases made with
    | error message =>
      have habandon : s.abandon.Good := ⟨h.settles, nofun⟩
      exact habandon.attempt _ fun _ => rfl
    | ok u =>
      have hbind : s.bind.Good := ⟨h.settles, nofun⟩
      exact hbind.attempt ⟨some ⟨.connecting, true⟩, []⟩ nofun

theorem Inv.close (h : s.Inv) : s.close.Inv := by
  unfold Sys.close
  split
  · next hsocket =>
    refine ⟨h.same, h.bound, h.waits, h.known, h.once, fun j b hb hlive => ?_, by simp, by simp⟩
    cases hsocket.symm.trans (h.heard j b hb hlive).current
  · refine ⟨h.same, h.bound, h.waits, h.known, h.once, fun j b hb hlive => ?_, by simp, by simp⟩
    obtain ⟨hcurrent, -, hpending, hunopened⟩ := h.heard j b hb hlive
    exact ⟨hcurrent, by simp, fun hb => ⟨(hpending hb).1, by simp⟩, hunopened⟩

theorem Good.close (h : s.Good) : s.close.Good := by
  unfold Sys.close
  split <;> exact ⟨h.settles, by simp⟩

theorem Inv.emit (h : s.Inv) (e : TransportEvent) : (s.emit e).Inv :=
  ⟨h.same, h.bound, h.waits, h.known, h.once, h.heard, h.connecting, h.closing⟩

theorem Good.emit (h : s.Good) (e : TransportEvent) : (s.emit e).Good := ⟨h.settles, h.stays⟩

theorem Inv.send (h : s.Inv) (frame : ClientFrame) : (s.send frame).Inv := by
  unfold Sys.send
  split
  · exact ⟨h.same, h.bound, h.waits, h.known, h.once, h.heard, h.connecting, h.closing⟩
  · exact h.emit _

theorem Good.send (h : s.Good) (frame : ClientFrame) : (s.send frame).Good := by
  unfold Sys.send
  split
  · exact ⟨h.settles, h.stays⟩
  · exact h.emit _

theorem onMessage_eq (s : Sys) (data : MessageData) : ∃ e, s.onMessage data = s.emit e := by
  fun_cases Sys.onMessage s data <;> exact ⟨_, rfl⟩

/-! ## The events of a socket -/

/-- A handler that only emits. -/
theorem hear_emit {handler : Sys → Sys} (hemit : ∃ e, handler s = s.emit e) :
    s.hear k handler = s ∨ ∃ e, s.hear k handler = s.emit e := by
  unfold hear
  split
  · exact .inr hemit
  · exact .inl rfl

theorem Inv.hear_emit (h : s.Inv) {handler : Sys → Sys} (hemit : ∃ e, handler s = s.emit e) :
    (s.hear k handler).Inv := by
  rcases Sys.hear_emit hemit with heq | ⟨e, heq⟩ <;> rw [heq]
  · exact h
  · exact h.emit e

theorem Good.hear_emit (h : s.Good) {handler : Sys → Sys} (hemit : ∃ e, handler s = s.emit e) :
    (s.hear k handler).Good := by
  rcases Sys.hear_emit hemit with heq | ⟨e, heq⟩ <;> rw [heq]
  · exact h
  · exact h.emit e

theorem socketOf_eq_some {ws : WebSocketLike} :
    s.socketOf k = some ws ↔ ∃ a, s.attempts.lookup k = some a ∧ a.socket = some ws := by
  simp [socketOf, Option.bind_eq_some_iff]

/-- One attempt has changed. -/
def Replaces (s : Sys) (k : ConnectId) (a' : Attempt) (t : Sys) : Prop :=
  t.next = s.next ∧
    ∀ j b, t.attempts.lookup j = some b ↔ (j = k ∧ a' = b) ∨ (j ≠ k ∧ s.attempts.lookup j = some b)

theorem replaces_modify (f : Attempt → Attempt) (ha : s.attempts.lookup k = some a) :
    Replaces s k (f a) { s with attempts := s.attempts.modify k f } := by
  refine ⟨rfl, fun j b => ?_⟩
  rw [Registry.lookup_modify_iff]
  simp [ha]

variable {t : Sys} {a' : Attempt}

theorem Replaces.known (hr : Replaces s k a' t) (h : s.Inv) (ha : s.attempts.lookup k = some a) {j : ConnectId}
    {b : Attempt} (hb : t.attempts.lookup j = some b) : j < t.next := by
  rw [hr.1]
  rcases (hr.2 j b).1 hb with ⟨rfl, -⟩ | ⟨-, hb⟩
  · exact h.known j a ha
  · exact h.known j b hb

theorem Replaces.once (hr : Replaces s k a' t) (h : s.Inv) (ha' : a'.settled.length ≤ 1) {j : ConnectId}
    {b : Attempt} (hb : t.attempts.lookup j = some b) : b.settled.length ≤ 1 := by
  rcases (hr.2 j b).1 hb with ⟨-, rfl⟩ | ⟨-, hb⟩
  · exact ha'
  · exact h.once j b hb

theorem Replaces.pending (hr : Replaces s k a' t) (ha : s.attempts.lookup k = some a) (ha' : a'.settled = a.settled)
    {j : ConnectId} (hj : s.pending j = true) : t.pending j = true := by
  obtain ⟨b, hb, hpend⟩ := pending_iff.1 hj
  by_cases hjk : j = k
  · subst hjk
    cases ha.symm.trans hb
    exact pending_iff.2 ⟨a', (hr.2 j a').2 (.inl ⟨rfl, rfl⟩), ha'.trans hpend⟩
  · exact pending_iff.2 ⟨b, (hr.2 j b).2 (.inr ⟨hjk, hb⟩), hpend⟩

theorem Replaces.settle (hr : Replaces s k a' t) (x : Settlement) :
    Replaces s k { a' with settled := a'.settled ++ [x] } (t.settle k x) := by
  refine ⟨hr.1, fun j b => ?_⟩
  have hk := (hr.2 k a').2 (.inl ⟨rfl, rfl⟩)
  simp only [Sys.settle, Registry.lookup_modify_iff, hr.2, hk]
  grind

/-- Only the current socket is heard. -/
theorem Replaces.heard (hr : Replaces s k a' t) (h : s.Inv) (hcurrent : s.socket = some k)
    {w : WebSocketTerminalTransport} (ha' : a'.live → Heard w k a') {j : ConnectId} {b : Attempt}
    (hb : t.attempts.lookup j = some b) (hlive : b.live) : Heard w j b := by
  rcases (hr.2 j b).1 hb with ⟨rfl, rfl⟩ | ⟨hj, hb⟩
  · exact ha' hlive
  · cases hcurrent.symm.trans (h.heard j b hb hlive).current
    exact absurd rfl hj

/-- A state with one attempt changed is good if that one is. -/
theorem Replaces.good_iff (hr : Replaces s k a' t) (h : s.Good) :
    t.Good ↔ (a'.over → a'.settled.length = 1) ∧ (t.closeCalled = true → t.state ≠ .open) := by
  refine ⟨fun ht => ⟨ht.settles k a' ((hr.2 k a').2 (.inl ⟨rfl, rfl⟩)), ht.stays⟩, fun ⟨hover, hstays⟩ => ⟨?_, hstays⟩⟩
  intro j b hb
  rcases (hr.2 j b).1 hb with ⟨-, rfl⟩ | ⟨-, hb⟩
  · exact hover
  · exact h.settles j b hb

/-- Where the socket is, and whether it is heard. -/
theorem exists_of_phase {p : Phase → Bool} (h : (s.socketOf k).any fun ws => p ws.phase) :
    ∃ phase listening settled, s.attempts.lookup k = some ⟨some ⟨phase, listening⟩, settled⟩ ∧ p phase := by
  cases hws : s.socketOf k with
  | none => rw [hws] at h; cases h
  | some ws =>
    rw [hws] at h
    obtain ⟨⟨socket, settled⟩, ha, rfl⟩ := socketOf_eq_some.1 hws
    exact ⟨ws.phase, ws.listening, settled, ha, h⟩

theorem replaces_enter {phase : Phase} {listening : Bool} {settled : List Settlement}
    (ha : s.attempts.lookup k = some ⟨some ⟨phase, listening⟩, settled⟩) (p : Phase) :
    Replaces s k ⟨some ⟨p, listening⟩, settled⟩ (s.enter k p) :=
  replaces_modify _ ha

theorem hears_eq {ws : WebSocketLike} {settled : List Settlement} (ha : s.attempts.lookup k = some ⟨some ws, settled⟩) :
    s.hears k = ws.listening := by
  simp [hears, socketOf, ha]

/-- The event of a socket that is not heard. -/
theorem Inv.enter_deaf (h : s.Inv) {phase : Phase} {settled : List Settlement}
    (ha : s.attempts.lookup k = some ⟨some ⟨phase, false⟩, settled⟩) (p : Phase) : (s.enter k p).Inv := by
  have hr := replaces_enter ha p
  have honce : settled.length ≤ 1 := h.once k _ ha
  refine ⟨h.same, h.bound, fun j hj => ⟨hr.pending ha rfl (h.waits j hj).1, (h.waits j hj).2⟩,
    fun _ _ => hr.known h ha, fun _ _ => hr.once h honce, ?_, h.connecting, h.closing⟩
  intro j b hb hlive
  rcases (hr.2 j b).1 hb with ⟨-, rfl⟩ | ⟨-, hb⟩
  · cases hlive
  · exact h.heard j b hb hlive

theorem hear_enter {phase : Phase} {listening : Bool} {settled : List Settlement}
    (ha : s.attempts.lookup k = some ⟨some ⟨phase, listening⟩, settled⟩) (p : Phase) (handler : Sys → Sys) :
    (s.enter k p).hear k handler = if listening then handler (s.enter k p) else s.enter k p := by
  have hk := ((replaces_enter ha p).2 k _).2 (.inl ⟨rfl, rfl⟩)
  rw [hear, hears_eq hk]

/-- The open event of the current socket settles its connect. -/
theorem onOpen_eq (h : s.Inv) {settled : List Settlement}
    (ha : s.attempts.lookup k = some ⟨some ⟨.connecting, true⟩, settled⟩) :
    (s.enter k .open).onOpen =
      { s.enter k .open with state := .open, connectResolve := none, connectReject := none }.settle k .resolved := by
  have hheard := h.heard k _ ha rfl
  have hreject := (hheard.pending (hheard.unopened rfl)).1
  have hresolve : (s.enter k .open).connectResolve = some k := h.same.trans hreject
  simp only [onOpen, hresolve]

/-- While the connect of the socket it hears is pending, `close` was called if the transport is closing. -/
theorem Inv.closeCalled_iff (h : s.Inv) (hheard : Heard s.toWebSocketTerminalTransport k a) (hpend : a.settled = []) :
    s.closeCalled = true ↔ s.state = .closing := by
  refine ⟨fun hcalled => ?_, h.closing⟩
  have hengaged := hheard.engaged
  have hopen := (hheard.pending hpend).2
  have hconnecting : s.state ≠ .connecting := by
    intro hs
    cases (h.connecting hs).symm.trans hcalled
  cases hs : s.state <;> simp_all

theorem step_opened (h : s.Inv) (hphase : (s.socketOf k).any (·.phase = .connecting)) :
    ((s.enter k .open).hear k onOpen).Inv ∧
      (s.Good → (((s.enter k .open).hear k onOpen).Good ↔ s.Proper (.opened k))) := by
  obtain ⟨phase, listening, settled, ha, hp⟩ := exists_of_phase (p := (· = .connecting)) hphase
  obtain rfl : phase = .connecting := by simpa using hp
  have hr := replaces_enter ha .open
  rw [hear_enter ha]
  simp only [Proper, hears_eq ha]
  cases listening with
  | false =>
    refine ⟨h.enter_deaf ha .open, fun hgood => (hr.good_iff hgood).trans ?_⟩
    exact iff_of_true ⟨nofun, hgood.stays⟩ nofun
  | true =>
    have hheard := h.heard k _ ha rfl
    obtain rfl : settled = [] := hheard.unopened rfl
    rw [if_pos rfl, onOpen_eq h ha]
    have hr' : Replaces s k ⟨some ⟨.open, true⟩, [.resolved]⟩
        ({ s.enter k .open with state := .open, connectResolve := none, connectReject := none }.settle k .resolved) :=
      Replaces.settle hr .resolved
    refine ⟨⟨rfl, h.bound, nofun, fun _ _ => hr'.known h ha, fun _ _ => hr'.once h (Nat.le_refl 1), ?_, nofun, nofun⟩,
      fun hgood => (hr'.good_iff hgood).trans ?_⟩
    · intro j b hb hlive
      refine hr'.heard h hheard.current (fun _ => ?_) hb hlive
      exact ⟨hheard.current, ⟨nofun, nofun⟩, nofun, nofun⟩
    · have hcalled := h.closeCalled_iff hheard rfl
      exact ⟨fun hstays _ hclosing => hstays.2 (hcalled.2 hclosing) rfl,
        fun hok => ⟨nofun, fun hcalled' => absurd (hcalled.1 hcalled') (hok rfl)⟩⟩

/-- The close handler with a connect to reject. -/
theorem onClose_rejects {j : ConnectId} (hs : s.state = .connecting) (hj : s.connectReject = some j) (code : Nat)
    (reason : String) (wasClean : Bool) :
    s.onClose code reason wasClean =
      { ({ s with connectResolve := none, connectReject := none }.settle j
          (.rejected ("websocket closed before open (code=" ++ toString code ++ ")"))).emit
          (.close code reason wasClean) with state := .closed, notifying := true } := by
  simp only [onClose, hs, hj]

theorem onClose_keeps (hs : s.state = .connecting → s.connectReject = none) (code : Nat) (reason : String)
    (wasClean : Bool) :
    s.onClose code reason wasClean =
      { s.emit (.close code reason wasClean) with state := .closed, notifying := true } := by
  unfold onClose
  split
  · next hstate hreject =>
    cases (hs hstate).symm.trans hreject
  · rfl

theorem pending_eq (ha : s.attempts.lookup k = some a) : s.pending k = true ↔ a.settled = [] := by
  simp [pending, ha]

/-- The close event of the current socket leaves a connect pending if it comes after `close`. -/
theorem Inv.onClose (h : s.Inv) {phase : Phase} {settled : List Settlement} (hphase : phase ≠ .closed)
    (ha : s.attempts.lookup k = some ⟨some ⟨phase, true⟩, settled⟩) (code : Nat) (reason : String) (wasClean : Bool) :
    ((s.enter k .closed).onClose code reason wasClean).Inv ∧
      ∃ settled', Replaces s k ⟨some ⟨.closed, true⟩, settled'⟩ ((s.enter k .closed).onClose code reason wasClean) ∧
        (settled' = [] ↔ settled = [] ∧ s.state = .closing) := by
  have hheard := h.heard k _ ha (by simpa [Attempt.live] using hphase)
  have hr := replaces_enter ha .closed
  by_cases hrejects : s.state = .connecting ∧ s.connectReject = some k
  · -- the connect is pending, and is rejected
    obtain ⟨hconnecting, hreject⟩ := hrejects
    obtain rfl : settled = [] := (pending_eq ha).1 (h.waits k hreject).1
    have hr' := hr.settle (.rejected ("websocket closed before open (code=" ++ toString code ++ ")"))
    rw [onClose_rejects (s := s.enter k .closed) hconnecting hreject]
    refine ⟨⟨rfl, h.bound, nofun, fun _ _ => hr'.known h ha, fun _ _ => hr'.once h (Nat.le_refl 1), ?_, nofun, nofun⟩,
      _, hr', ?_⟩
    · exact fun _ _ => hr'.heard h hheard.current nofun
    · simp [hconnecting]
  · have hkeeps : s.state = .connecting → s.connectReject = none := by
      intro hconnecting
      cases hj : s.connectReject with
      | none => rfl
      | some j =>
        obtain rfl := (h.waits j hj).2 k hheard.current
        exact absurd ⟨hconnecting, hj⟩ hrejects
    have honce : settled.length ≤ 1 := h.once k _ ha
    rw [onClose_keeps (s := s.enter k .closed) hkeeps]
    refine ⟨⟨h.same, h.bound, ?_, fun _ _ => hr.known h ha, fun _ _ => hr.once h honce, ?_, nofun, nofun⟩, _, hr, ?_⟩
    · exact fun j hj => ⟨hr.pending ha rfl (h.waits j hj).1, (h.waits j hj).2⟩
    · exact fun _ _ => hr.heard h hheard.current nofun
    · refine ⟨fun hnil => ⟨hnil, ?_⟩, And.left⟩
      obtain ⟨hreject, hopen⟩ := hheard.pending hnil
      have hengaged := hheard.engaged
      cases hs : s.state <;> simp_all

theorem step_closed (h : s.Inv) (hphase : (s.socketOf k).any (·.phase ≠ .closed)) (code : Nat) (reason : String)
    (wasClean : Bool) :
    ((s.enter k .closed).hear k (·.onClose code reason wasClean)).Inv ∧
      (s.Good → (((s.enter k .closed).hear k (·.onClose code reason wasClean)).Good ↔
        s.Proper (.closed k code reason wasClean))) := by
  have hone {l : List Settlement} (hl : l.length ≤ 1) : l.length = 1 ↔ l ≠ [] := by
    rw [← List.length_pos_iff]
    omega
  obtain ⟨phase, listening, settled, ha, hp⟩ := exists_of_phase (p := (· ≠ .closed)) hphase
  rw [hear_enter ha]
  simp only [Proper, hears_eq ha, pending_eq ha]
  cases listening with
  | false =>
    have hr := replaces_enter ha .closed
    have honce : settled.length ≤ 1 := h.once k _ ha
    refine ⟨h.enter_deaf ha .closed, fun hgood => (hr.good_iff hgood).trans ?_⟩
    constructor
    · rintro ⟨hover, -⟩ hnil
      exact absurd hnil ((hone honce).1 (hover rfl))
    · intro hok
      exact ⟨fun _ => (hone honce).2 fun hnil => Bool.false_ne_true (hok hnil).1, hgood.stays⟩
  | true =>
    obtain ⟨hinv, settled', hr, hnil⟩ := h.onClose (of_decide_eq_true hp) ha code reason wasClean
    have honce : settled'.length ≤ 1 := hinv.once k _ ((hr.2 k _).2 (.inl ⟨rfl, rfl⟩))
    refine ⟨hinv, fun hgood => (hr.good_iff hgood).trans ?_⟩
    constructor
    · rintro ⟨hover, -⟩ hpend
      exact ⟨rfl, fun hclosing => (hone honce).1 (hover rfl) (hnil.2 ⟨hpend, hclosing⟩)⟩
    · intro hok
      refine ⟨fun _ => (hone honce).2 fun h' => ?_, fun _ => nofun⟩
      obtain ⟨hpend, hclosing⟩ := hnil.1 h'
      exact (hok hpend).2 hclosing

theorem over_deafen (a : Attempt) : a.deafen.over = a.over := by
  obtain ⟨_ | ws, settled⟩ := a <;> rfl

theorem not_live_deafen (a : Attempt) : ¬ a.deafen.live := by
  obtain ⟨_ | ws, settled⟩ := a <;> nofun

theorem lookup_deafen {j : ConnectId} {b : Attempt} (hb : (s.attempts.modify k Attempt.deafen).lookup j = some b) :
    ∃ a, s.attempts.lookup j = some a ∧ a.settled = b.settled ∧ a.over = b.over := by
  rcases Registry.lookup_modify_iff.1 hb with ⟨rfl, a, ha, rfl⟩ | ⟨-, hb⟩
  · exact ⟨a, ha, rfl, (over_deafen a).symm⟩
  · exact ⟨b, hb, rfl, rfl⟩

/-- No socket is heard after the subscribers of a close event have run. -/
theorem Inv.unbind (h : s.Inv) : { s.unbind with notifying := false }.Inv := by
  unfold Sys.unbind
  split
  · exact ⟨h.same, h.bound, h.waits, h.known, h.once, h.heard, h.connecting, h.closing⟩
  · next k hsocket =>
    rw [if_pos (h.bound k hsocket)]
    refine ⟨h.same, nofun, ?_, ?_, ?_, ?_, h.connecting, h.closing⟩
    · intro j hj
      obtain ⟨b, hb, hnil⟩ := pending_iff.1 (h.waits j hj).1
      refine ⟨pending_iff.2 ?_, nofun⟩
      by_cases hjk : j = k
      · exact ⟨b.deafen, Registry.lookup_modify_iff.2 (.inl ⟨hjk, b, hjk ▸ hb, rfl⟩), hnil⟩
      · exact ⟨b, Registry.lookup_modify_iff.2 (.inr ⟨hjk, hb⟩), hnil⟩
    · intro j b hb
      obtain ⟨a, ha, -⟩ := lookup_deafen hb
      exact h.known j a ha
    · intro j b hb
      obtain ⟨a, ha, hsettled, -⟩ := lookup_deafen hb
      exact hsettled ▸ h.once j a ha
    · intro j b hb hlive
      rcases Registry.lookup_modify_iff.1 hb with ⟨rfl, a, ha, rfl⟩ | ⟨hj, hb⟩
      · exact absurd hlive (not_live_deafen a)
      · cases hsocket.symm.trans (h.heard j b hb hlive).current
        exact absurd rfl hj

theorem Good.unbind (h : s.Good) (hinv : s.Inv) : { s.unbind with notifying := false }.Good := by
  unfold Sys.unbind
  split
  · exact ⟨h.settles, h.stays⟩
  · next k hsocket =>
    rw [if_pos (hinv.bound k hsocket)]
    refine ⟨fun j b hb hover => ?_, h.stays⟩
    obtain ⟨a, ha, hsettled, hover'⟩ := lookup_deafen hb
    exact hsettled ▸ h.settles j a ha (hover'.trans hover)

/-! ## Runs -/

/-- A step keeps every promise and every close if and only if it is proper. -/
theorem Inv.step {e : Event} (h : s.Inv) (hstep : s.step e = some t) : t.Inv ∧ (s.Good → (t.Good ↔ s.Proper e)) := by
  cases e with
  | connect made =>
    cases hstep
    exact ⟨h.connect made, fun hgood => iff_of_true (hgood.connect made) trivial⟩
  | send frame =>
    cases hstep
    exact ⟨h.send frame, fun hgood => iff_of_true (hgood.send frame) trivial⟩
  | close =>
    cases hstep
    exact ⟨h.close, fun hgood => iff_of_true hgood.close trivial⟩
  | opened k =>
    obtain ⟨hphase, hstep⟩ := Option.ite_none_right_eq_some.1 hstep
    cases hstep
    exact step_opened h (Bool.and_eq_true_iff.1 hphase).2
  | message k data =>
    obtain ⟨-, hstep⟩ := Option.ite_none_right_eq_some.1 hstep
    cases hstep
    exact ⟨h.hear_emit (onMessage_eq s data), fun hgood => iff_of_true (hgood.hear_emit (onMessage_eq s data)) trivial⟩
  | closed k code reason wasClean =>
    obtain ⟨hphase, hstep⟩ := Option.ite_none_right_eq_some.1 hstep
    cases hstep
    exact step_closed h (Bool.and_eq_true_iff.1 hphase).2 code reason wasClean
  | error k =>
    obtain ⟨-, hstep⟩ := Option.ite_none_right_eq_some.1 hstep
    cases hstep
    exact ⟨h.hear_emit ⟨_, rfl⟩, fun hgood => iff_of_true (hgood.hear_emit ⟨_, rfl⟩) trivial⟩
  | notified =>
    obtain ⟨-, hstep⟩ := Option.ite_none_right_eq_some.1 hstep
    cases hstep
    exact ⟨h.unbind, fun hgood => iff_of_true (hgood.unbind h) trivial⟩

theorem Inv.start : Inv {} where
  same := rfl
  bound := nofun
  waits := nofun
  known := by intro k a ha; simp at ha
  once := by intro k a ha; simp at ha
  heard := by intro k a ha; simp at ha
  connecting := nofun
  closing := nofun

theorem Good.start : Good {} := ⟨by intro k a ha; simp at ha, nofun⟩

end Sys

end RelayTerm.Stream.Transport
