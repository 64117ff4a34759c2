import RelayTerm.Stream.Client
import RelayTerm.Wire.Binary
/-!
# The terminal states of the client

`TerminalSessionClient` with everything that can reach it: what the transport
delivers, how its `connect` ends, and its methods. The specification calls
`detached`, `closed` and `error` terminal and lists no transition out of them.
The handlers guard less than that: a message handler asks only whether the
client is still connecting, and the close handler forgets `error`.
-/
open RelayTerm.Lib

namespace RelayTerm.Stream

/-! ## The whole client (`terminal-core/src/client.ts`) -/

structure AttachOptions where
  url : String
  sessionId : Option Nat
  lastSeenSeq : Option Nat
  clientId : Option String
  deriving DecidableEq, Repr

/-- What the client hands to the transport; an input stands for its bytes. -/
inductive ClientFrame where
  | attach (sessionId lastSeenSeq : Option Nat) (clientId : Option String)
  | ping
  | input (data : List UInt8)
  | resize (cols rows : Nat)
  | detach
  | close
  | binary (bytes : List UInt8)
  deriving DecidableEq, Repr

/-- The kinds of `TerminalClientError` that the server has no part in. -/
inductive LocalErrorKind where
  | transport | decode | sendBeforeAttached | sendAfterTerminal
  deriving DecidableEq, Repr

structure LocalError where
  kind : LocalErrorKind
  message : String
  deriving DecidableEq, Repr

inductive TerminalTransportError where
  | network
  | decode (kind : Option String)
  | binaryDecode (kind : Option String)
  | sendBeforeOpen
  deriving DecidableEq, Repr

structure TerminalSessionClient where
  /-- The state, the ids, the bookmark and the events, as the server drives them. -/
  client : Client := {}
  disposed : Bool := false
  pendingAttach : Option AttachOptions := none
  /-- The `attach` call that waits for the transport to connect. -/
  connecting : Option AttachOptions := none
  /-- The errors emitted beside those of the server. -/
  errors : List LocalError := []
  sent : List ClientFrame := []
  deriving DecidableEq, Repr

inductive TerminalEvent where
  | message (msg : ServerMsg)
  | binary (frame : Wire.Ts.BinaryFrame)
  | transportClose (code : Option Nat)
  | transportError (err : TerminalTransportError)
  /-- `connect` resolves. -/
  | connected
  /-- `connect` rejects; an error without a message has a fallback. -/
  | connectFailed (message : Option String)
  | attach (options : AttachOptions)
  | sendPing
  | sendInput (data : List UInt8) (legacyJson : Bool)
  | sendResize (cols rows : Nat)
  | detach
  | close
  | dispose
  deriving DecidableEq, Repr

def TerminalSessionState.asStr : TerminalSessionState → String
  | .idle => "idle"
  | .connecting => "connecting"
  | .attached => "attached"
  | .detached => "detached"
  | .closed => "closed"
  | .error => "error"

/-- The states the specification calls terminal. -/
def TerminalSessionState.isTerminal : TerminalSessionState → Bool
  | .detached | .closed | .error => true
  | _ => false

namespace TerminalSessionClient

variable (t : TerminalSessionClient)

def state : TerminalSessionState := t.client.state

def emit (e : ClientEvent) : TerminalSessionClient := { t with client := t.client.emit e }

def emitError (kind : LocalErrorKind) (message : String) : TerminalSessionClient :=
  { t with errors := t.errors ++ [⟨kind, message⟩] }

def setState (next : TerminalSessionState) : TerminalSessionClient := { t with client := t.client.setState next }

def send (frame : ClientFrame) : TerminalSessionClient := { t with sent := t.sent ++ [frame] }

/-- `#requireAttached` outside `attached`: the call is refused. -/
def refuse (attempted : String) : TerminalSessionClient :=
  if t.state.isTerminal then
    (t.emit (.inputRejectedOrStubbed "after_terminal_state" attempted)).emitError .sendAfterTerminal
      ("cannot send " ++ attempted ++ " after terminal state " ++ t.state.asStr)
  else
    (t.emit (.inputRejectedOrStubbed "not_attached" attempted)).emitError .sendBeforeAttached
      ("cannot send " ++ attempted ++ " from state " ++ t.state.asStr)

def attach (options : AttachOptions) : TerminalSessionClient :=
  -- a disposed client and one that is not idle throw
  if t.disposed ∨ t.state ≠ .idle then t
  else { t with pendingAttach := some options, connecting := some options }.setState .connecting

def onConnected (options : AttachOptions) : TerminalSessionClient :=
  { t with connecting := none }.send (.attach options.sessionId options.lastSeenSeq options.clientId)

def onConnectFailed (message : Option String) : TerminalSessionClient :=
  ({ t with connecting := none, pendingAttach := none }.emitError .transport
    (message.getD "websocket failed to open")).setState .error

def sendInput (data : List UInt8) (legacyJson : Bool) : TerminalSessionClient :=
  if t.state ≠ .attached then t.refuse "input"
  else if legacyJson then t.send (.input data)
  else match Wire.Ts.encodeBinaryFrame .input 0 data with
    | .ok bytes => t.send (.binary bytes)
    | .error _ => t.emitError .transport "input frame exceeds maximum payload size"

/-- A call that sends one frame and is refused outside `attached`. -/
def sendAttached (attempted : String) (frame : ClientFrame) : TerminalSessionClient :=
  if t.state ≠ .attached then t.refuse attempted else t.send frame

def sendPing : TerminalSessionClient := t.sendAttached "ping" .ping

def sendResize (cols rows : Nat) : TerminalSessionClient := t.sendAttached "resize" (.resize cols rows)

/-- A teardown call does nothing outside `attached`. -/
def tearDown (frame : ClientFrame) : TerminalSessionClient := if t.state ≠ .attached then t else t.send frame

def detach : TerminalSessionClient := t.tearDown .detach

def close : TerminalSessionClient := t.tearDown .close

def onMessage (msg : ServerMsg) : TerminalSessionClient :=
  let pendingAttach := match t.state, msg with
    | .connecting, .sessionAttached .. => none
    | _, _ => t.pendingAttach
  { t with client := t.client.onMessage msg, pendingAttach := pendingAttach }

def onBinary (frame : Wire.Ts.BinaryFrame) : TerminalSessionClient :=
  if frame.kind ≠ .output then t.emitError .decode "unexpected binary frame kind from server"
  else { t with client := t.client.onBinary frame.seq }

def onTransportClose (code : Option Nat) : TerminalSessionClient :=
  if t.state = .closed ∨ t.state = .detached then t
  else if t.state = .connecting then
    let code := (code.map toString).getD "null"
    (t.emitError .transport ("socket closed before attach (code=" ++ code ++ ")")).setState .error
  else match t.client.attachedIds with
    | some (sessionId, attachmentId) => (t.emit (.detached sessionId attachmentId)).setState .detached
    | none => t.setState .detached

def onTransportError : TerminalTransportError → TerminalSessionClient
  | .decode kind => t.emitError .decode ("failed to decode server frame (" ++ kind.getD "unknown" ++ ")")
  | .binaryDecode kind => t.emitError .decode ("failed to decode binary frame (" ++ kind.getD "unknown" ++ ")")
  | .network => t.emitError .transport "websocket transport error"
  | .sendBeforeOpen => t.emitError .transport "tried to send before websocket open"

/-- A disposed client no longer listens to the transport. -/
def listening (next : TerminalSessionClient) : TerminalSessionClient := if t.disposed then t else next

def step : TerminalEvent → Option TerminalSessionClient
  | .message msg => some (t.listening (t.onMessage msg))
  | .binary frame => some (t.listening (t.onBinary frame))
  | .transportClose code => some (t.listening (t.onTransportClose code))
  | .transportError err => some (t.listening (t.onTransportError err))
  | .connected => t.connecting.map t.onConnected
  | .connectFailed message => t.connecting.map fun _ => t.onConnectFailed message
  | .attach options => some (t.attach options)
  | .sendPing => some t.sendPing
  | .sendInput data legacyJson => some (t.sendInput data legacyJson)
  | .sendResize cols rows => some (t.sendResize cols rows)
  | .detach => some t.detach
  | .close => some t.close
  | .dispose => some { t with disposed := true }

end TerminalSessionClient

/-! ## What a listener can tell -/

/-- The events after which a listener takes the session for attached, over, or still talking. -/
def ClientEvent.isLifecycle : ClientEvent → Bool
  | .attached .. | .detached .. | .closed _ | .output _ => true
  | _ => false

/-- The state, and the lifecycle events so far. -/
def Client.outlook (c : Client) : TerminalSessionState × List ClientEvent :=
  (c.state, c.emitted.filter (·.isLifecycle))

def TerminalSessionClient.outlook (t : TerminalSessionClient) : TerminalSessionState × List ClientEvent :=
  t.client.outlook

/-- Frames that a client past its handshake passes on to its listeners as such. -/
def ServerMsg.isLifecycle : ServerMsg → Bool
  | .output .. | .sessionDetached .. | .sessionClosed _ => true
  | _ => false

/-- What the handlers let through to a client in a terminal state: output and
the ends of a session, the close of a transport in `error`, and the failure of a
`connect` that is still under way. -/
def TerminalSessionClient.Late (t : TerminalSessionClient) : TerminalEvent → Prop
  | .message msg => t.disposed = false ∧ msg.isLifecycle = true
  | .binary frame => t.disposed = false ∧ frame.kind = .output
  | .transportClose _ => t.disposed = false ∧ t.state = .error
  | .connectFailed _ => t.state ≠ .error
  | _ => False

instance (t : TerminalSessionClient) : (e : TerminalEvent) → Decidable (t.Late e)
  | .message _ | .binary _ | .transportClose _ => inferInstanceAs (Decidable (_ ∧ _))
  | .connectFailed _ => inferInstanceAs (Decidable (¬ _))
  | .transportError _ | .connected | .attach _ | .sendPing | .sendInput _ _ | .sendResize _ _ | .detach | .close
  | .dispose => isFalse id

variable {c : Client} {t t' : TerminalSessionClient}

theorem outlook_emit {e : ClientEvent} (he : e.isLifecycle = false) : (c.emit e).outlook = c.outlook := by
  simp [Client.outlook, Client.emit, he]

theorem outlook_setState (next : TerminalSessionState) : (c.setState next).outlook = (next, c.outlook.2) := by
  unfold Client.setState
  split
  · next hsame => rw [← hsame]; rfl
  · exact congrArg (Prod.mk next) (by simp [Client.outlook, Client.emit, ClientEvent.isLifecycle])

theorem outlook_see (seq : Nat) : (c.see seq).outlook = c.outlook := by
  unfold Client.see
  split <;> rfl

/-- A lifecycle event shows. -/
theorem outlook_emit_ne (c : Client) {e : ClientEvent} (he : e.isLifecycle = true) :
    (c.emit e).outlook.2 ≠ c.outlook.2 := by
  intro hsame
  have hlen := congrArg List.length hsame
  simp [Client.outlook, Client.emit, he] at hlen

theorem outlook_ended (c : Client) {e : ClientEvent} (he : e.isLifecycle = true) (next : TerminalSessionState) :
    ((c.emit e).setState next).outlook ≠ c.outlook := by
  intro hsame
  have hheard : (c.emit e).outlook.2 = c.outlook.2 := by rw [← hsame, outlook_setState]
  exact outlook_emit_ne c he hheard

theorem outlook_output (c : Client) (seq : Nat) : ((c.see seq).emit (.output seq)).outlook ≠ c.outlook := by
  intro hsame
  exact outlook_emit_ne (c.see seq) rfl (congrArg Prod.snd (hsame.trans (outlook_see seq).symm))

/-- Past the handshake, a frame shows or it does not, whatever the state. -/
theorem outlook_onMessage (hstate : c.state ≠ .connecting) (msg : ServerMsg) :
    (c.onMessage msg).outlook = c.outlook ↔ msg.isLifecycle = false := by
  unfold Client.onMessage
  rw [if_neg hstate]
  cases msg with
  | sessionAttached | pong | replayStart => exact iff_of_true (outlook_emit rfl) rfl
  | ack kind =>
    refine iff_of_true ?_ rfl
    dsimp only
    split
    · exact (outlook_emit rfl).trans (outlook_emit rfl)
    · exact outlook_emit rfl
  | output seq data => exact iff_of_false (outlook_output c seq) Bool.noConfusion
  | replayEnd latestSeq => exact iff_of_true ((outlook_emit rfl).trans (outlook_see latestSeq)) rfl
  | replayWindowLost requestedSeq oldestAvailableSeq latestSeq =>
    exact iff_of_true ((outlook_emit rfl).trans (outlook_see latestSeq)) rfl
  | sessionDetached | sessionClosed => exact iff_of_false (outlook_ended c rfl _) Bool.noConfusion
  | error code message =>
    refine iff_of_true ?_ rfl
    dsimp only
    split <;> exact outlook_emit rfl

theorem outlook_onBinary (hstate : c.state ≠ .connecting) (seq : Nat) : (c.onBinary seq).outlook ≠ c.outlook := by
  unfold Client.onBinary
  rw [if_neg hstate]
  exact outlook_output c seq

/-! ## One event in a terminal state -/

theorem isTerminal_cases {state : TerminalSessionState} (h : state.isTerminal = true) :
    state = .detached ∨ state = .closed ∨ state = .error := by
  cases state <;> simp [TerminalSessionState.isTerminal] at h ⊢

theorem outlook_refuse (attempted : String) : (t.refuse attempted).outlook = t.outlook := by
  unfold TerminalSessionClient.refuse
  split <;> exact outlook_emit rfl

/-- A method called in a terminal state is refused or does nothing. -/
theorem outlook_sendAttached (hstate : t.state ≠ .attached) (attempted : String) (frame : ClientFrame) :
    (t.sendAttached attempted frame).outlook = t.outlook := by
  unfold TerminalSessionClient.sendAttached
  rw [if_pos hstate]
  exact outlook_refuse attempted

theorem outlook_tearDown (hstate : t.state ≠ .attached) (frame : ClientFrame) :
    (t.tearDown frame).outlook = t.outlook := by
  unfold TerminalSessionClient.tearDown
  rw [if_pos hstate]

theorem outlook_onTransportError (err : TerminalTransportError) : (t.onTransportError err).outlook = t.outlook := by
  cases err <;> rfl

/-- The close of a transport shows in the one terminal state its handler forgets. -/
theorem outlook_onTransportClose (hterminal : t.state.isTerminal = true) (code : Option Nat) :
    (t.onTransportClose code).outlook = t.outlook ↔ t.state ≠ .error := by
  unfold TerminalSessionClient.onTransportClose
  rcases isTerminal_cases hterminal with hstate | hstate | hstate
  · rw [if_pos (.inr hstate)]
    exact iff_of_true rfl (by simp [hstate])
  · rw [if_pos (.inl hstate)]
    exact iff_of_true rfl (by simp [hstate])
  · rw [if_neg (by simp [hstate]), if_neg (by simp [hstate])]
    refine iff_of_false (fun h => ?_) (fun hne => hne hstate)
    -- the state is `detached` now
    have hleft : t.outlook.1 = .detached := by
      rw [← h]
      split
      · exact congrArg Prod.fst (outlook_setState _)
      · exact congrArg Prod.fst (outlook_setState _)
    rw [show t.outlook.1 = t.state from rfl, hstate] at hleft
    cases hleft

/-- What a disposed client no longer hears does not show. -/
theorem outlook_listening {next : TerminalSessionClient} {p : Prop} (hnext : next.outlook = t.outlook ↔ ¬ p) :
    (t.listening next).outlook = t.outlook ↔ ¬ (t.disposed = false ∧ p) := by
  unfold TerminalSessionClient.listening
  cases hdisposed : t.disposed with
  | true => simp
  | false => simpa using hnext

/-- In a terminal state, an event shows if and only if it is late. -/
theorem step_outlook {e : TerminalEvent} (hterminal : t.state.isTerminal = true) (h : t.step e = some t') :
    t'.outlook = t.outlook ↔ ¬ t.Late e := by
  have hconnecting : t.client.state ≠ .connecting := by
    intro hstate
    rw [TerminalSessionClient.state, hstate] at hterminal
    cases hterminal
  have hattached : t.state ≠ .attached := by
    intro hstate
    rw [hstate] at hterminal
    cases hterminal
  have hidle : t.state ≠ .idle := by
    intro hstate
    rw [hstate] at hterminal
    cases hterminal
  cases e with
  | message msg =>
    obtain rfl := Option.some.inj h
    refine outlook_listening ?_
    rw [Bool.not_eq_true]
    exact outlook_onMessage hconnecting msg
  | binary frame =>
    obtain rfl := Option.some.inj h
    refine outlook_listening ?_
    unfold TerminalSessionClient.onBinary
    split
    · next hkind => exact iff_of_true rfl hkind
    · next hkind => exact iff_of_false (outlook_onBinary hconnecting frame.seq) hkind
  | transportClose code =>
    obtain rfl := Option.some.inj h
    exact outlook_listening (outlook_onTransportClose hterminal code)
  | transportError err =>
    obtain rfl := Option.some.inj h
    refine iff_of_true ?_ id
    unfold TerminalSessionClient.listening
    split
    · rfl
    · exact outlook_onTransportError err
  | connected =>
    obtain ⟨options, -, rfl⟩ := Option.map_eq_some_iff.1 h
    exact iff_of_true rfl id
  | connectFailed message =>
    obtain ⟨options, -, rfl⟩ := Option.map_eq_some_iff.1 h
    have hfailed : (t.onConnectFailed message).outlook = (.error, t.outlook.2) := outlook_setState _
    show _ ↔ ¬ t.state ≠ .error
    rw [hfailed, not_ne_iff, eq_comm, Prod.ext_iff]
    exact and_iff_left rfl
  | attach options =>
    obtain rfl := Option.some.inj h
    refine iff_of_true ?_ id
    unfold TerminalSessionClient.attach
    rw [if_pos (.inr hidle)]
  | sendPing =>
    obtain rfl := Option.some.inj h
    exact iff_of_true (outlook_sendAttached hattached _ _) id
  | sendResize cols rows =>
    obtain rfl := Option.some.inj h
    exact iff_of_true (outlook_sendAttached hattached _ _) id
  | sendInput data legacyJson =>
    obtain rfl := Option.some.inj h
    refine iff_of_true ?_ id
    unfold TerminalSessionClient.sendInput
    rw [if_pos hattached]
    exact outlook_refuse _
  | detach =>
    obtain rfl := Option.some.inj h
    exact iff_of_true (outlook_tearDown hattached _) id
  | close =>
    obtain rfl := Option.some.inj h
    exact iff_of_true (outlook_tearDown hattached _) id
  | dispose =>
    obtain rfl := Option.some.inj h
    exact iff_of_true rfl id

/-! ## Runs -/

/-- **Terminal states are final as long as nothing comes late.** From a terminal
state, the state stays as it is and no lifecycle event is emitted, all along a
run, if and only if no event of the run is late where it is taken. -/
theorem terminal_final_iff (s s' : TerminalSessionClient) (evs : List TerminalEvent)
    (hterminal : s.state.isTerminal = true) (hr : run TerminalSessionClient.step s evs = some s') :
    (∀ before after t, evs = before ++ after → run TerminalSessionClient.step s before = some t →
      t.outlook = s.outlook) ↔
    Guarded TerminalSessionClient.step (fun t e => ¬ t.Late e) s evs := by
  refine constant_iff_guarded TerminalSessionClient.outlook (fun t => t.state.isTerminal = true) ?_ ?_ hr hterminal
  · intro t t' hsame ht
    have hstate : t'.state = t.state := congrArg Prod.fst hsame
    rw [hstate]
    exact ht
  · intro t e t' ht h
    exact step_outlook ht h

def options : AttachOptions := ⟨"ws", none, none, none⟩

/-- A client attaches, and the session is closed. -/
def closedRun : List TerminalEvent :=
  [.attach options, .connected, .message (.sessionAttached 1 2 .active "attached"), .message (.output 1 ""),
    .message (.sessionClosed 1)]

/-- Nothing of what reaches the closed client is late. -/
def quietRun : List TerminalEvent :=
  [.sendPing, .message .pong, .transportError .network, .close, .transportClose (some 1000), .attach options, .dispose,
    .message (.output 2 "")]

theorem terminal_final_iff_closed : ∃ s s', run TerminalSessionClient.step {} closedRun = some s ∧
    s.state = .closed ∧ run TerminalSessionClient.step s quietRun = some s' ∧ s'.outlook = s.outlook := by
  refine ⟨_, _, rfl, rfl, rfl, ?_⟩
  exact (terminal_final_iff _ _ quietRun rfl rfl).2 (by decide) quietRun [] _ (List.append_nil _).symm rfl

/-- The first frame is not `session_attached`, so the client is in `error`; then
the socket closes, and the client is detached. -/
theorem terminal_not_final : ¬ ∀ (before after : List TerminalEvent) (s s' : TerminalSessionClient),
    run TerminalSessionClient.step {} before = some s → s.state.isTerminal = true →
    run TerminalSessionClient.step s after = some s' → s'.outlook = s.outlook := by
  intro h
  have hsame := h [.attach options, .connected, .message .pong] [.transportClose (some 1006)] _ _ rfl rfl rfl
  exact absurd hsame (by decide)

end RelayTerm.Stream
