import RelayTerm.Stream.Delivery
/-!
# The terminal client and its resume bookmark

`TerminalSessionClient` records the highest sequence number it has seen, in
output frames, at the end of a replay and in the news of a lost window, and the
next attach passes it as the bookmark. `Link` is the client together with the
server, over any number of successive sockets: a socket can be given up at any
moment, and what was still on its way is then lost.
-/
open RelayTerm.Lib

namespace RelayTerm.Stream

/-! ## The client (`terminal-core/src/client.ts`) -/

inductive TerminalSessionState where
  | idle | connecting | attached | detached | closed | error
  deriving DecidableEq, Repr

inductive TerminalClientError where
  | unexpectedFirstFrame (message : String)
  | serverError (code : ErrorCode) (message : String)
  deriving DecidableEq, Repr

/-- What the client emits to its listeners. -/
inductive ClientEvent where
  | stateChange (next : TerminalSessionState)
  | attached (sessionId attachmentId : Nat) (status : SessionAttachStatus) (message : String)
  | detached (sessionId attachmentId : Nat)
  | closed (sessionId : Nat)
  | ack (kind : AckKind)
  | resizeAck (kind : AckKind)
  | pong
  | output (seq : Nat)
  | replayStart (fromSeq toSeq : Nat)
  | replayEnd (latestSeq : Nat)
  | replayWindowLost (requestedSeq : Nat) (oldestAvailableSeq : Option Nat) (latestSeq : Nat)
  | error (err : TerminalClientError)
  | inputRejectedOrStubbed (reason attempted : String)
  deriving DecidableEq, Repr

structure Client where
  state : TerminalSessionState := .idle
  attachedIds : Option (Nat × Nat) := none
  lastSeenSeq : Nat := 0
  /-- Everything emitted so far, over all sockets. -/
  emitted : List ClientEvent := []
  deriving DecidableEq, Repr

def Client.emit (c : Client) (e : ClientEvent) : Client := { c with emitted := c.emitted ++ [e] }

def Client.setState (c : Client) (next : TerminalSessionState) : Client :=
  if c.state = next then c else { c with state := next }.emit (.stateChange next)

/-- The client's bookmark moves up, never down. -/
def Client.see (c : Client) (seq : Nat) : Client :=
  if seq > c.lastSeenSeq then { c with lastSeenSeq := seq } else c

/-- The `type` tag of a server message. -/
def ServerMsg.type : ServerMsg → String
  | .pong => "pong"
  | .sessionAttached .. => "session_attached"
  | .ack _ => "ack"
  | .output .. => "output"
  | .replayStart .. => "replay_start"
  | .replayEnd _ => "replay_end"
  | .replayWindowLost .. => "replay_window_lost"
  | .sessionDetached .. => "session_detached"
  | .sessionClosed _ => "session_closed"
  | .error .. => "error"

def Client.onMessage (c : Client) (msg : ServerMsg) : Client :=
  if c.state = .connecting then
    match msg with
    | .sessionAttached sessionId attachmentId status message =>
      ({ c with attachedIds := some (sessionId, attachmentId) }.setState .attached).emit
        (.attached sessionId attachmentId status message)
    | msg =>
      (c.emit (.error (.unexpectedFirstFrame ("expected session_attached, received " ++ msg.type)))).setState .error
  else match msg with
    | .sessionAttached .. => c.emit (.error (.unexpectedFirstFrame "duplicate session_attached frame"))
    | .pong => c.emit .pong
    | .ack kind =>
      let c := c.emit (.ack kind)
      if kind = .resize then c.emit (.resizeAck kind) else c
    | .output seq _ => (c.see seq).emit (.output seq)
    | .replayStart fromSeq toSeq => c.emit (.replayStart fromSeq toSeq)
    | .replayEnd latestSeq => (c.see latestSeq).emit (.replayEnd latestSeq)
    | .replayWindowLost requestedSeq oldestAvailableSeq latestSeq =>
      (c.see latestSeq).emit (.replayWindowLost requestedSeq oldestAvailableSeq latestSeq)
    | .sessionDetached sessionId attachmentId => (c.emit (.detached sessionId attachmentId)).setState .detached
    | .sessionClosed sessionId => (c.emit (.closed sessionId)).setState .closed
    | .error code message =>
      if code = .ptyNotImplemented ∨ code = .ptyNotLive then
        c.emit (.inputRejectedOrStubbed "pty_not_implemented" "input")
      else c.emit (.error (.serverError code message))

/-- A binary `Output` envelope. -/
def Client.onBinary (c : Client) (seq : Nat) : Client :=
  if c.state = .connecting then
    (c.emit (.error (.unexpectedFirstFrame "received binary frame before session_attached"))).setState .error
  else (c.see seq).emit (.output seq)

def Client.onFrame (c : Client) : ServerFrame → Client
  | .text msg => c.onMessage msg
  | .binary seq _ => c.onBinary seq

/-- A new attach. The workspace builds a new client object for it and carries
the bookmark over. -/
def Client.attach (c : Client) : Client := { c with state := .idle, attachedIds := none }.setState .connecting

/-- `last_seen_seq` of the `Attach` frame: the bookmark, if there is one. -/
def Client.bookmark (c : Client) : Option Nat := if c.lastSeenSeq > 0 then some c.lastSeenSeq else none

/-- The sequence numbers delivered to the client, in order. -/
def Client.delivered (c : Client) : List Nat :=
  c.emitted.filterMap fun | .output seq => some seq | _ => none

/-- The ranges announced as lost: after the first number, up to the second. -/
def Client.announced (c : Client) : List (Nat × Nat) :=
  c.emitted.filterMap fun | .replayWindowLost requested _ latest => some (requested, latest) | _ => none

/-! ## Client and server over successive sockets -/

structure Link where
  live : LiveSocket
  client : Client
  /-- `last_seen_seq` of the `Attach` frame the client sent on this socket. -/
  attachFrame : Option Nat
  /-- How many of the frames sent on this socket have reached the client. -/
  received : Nat
  deriving DecidableEq, Repr

inductive LinkEvent where
  /-- The forwarder or the socket task takes a step. -/
  | server (e : Event)
  /-- The next frame reaches the client. -/
  | receive
  /-- The client gives the socket up and attaches again. -/
  | reattach (attachmentId : Nat)
  deriving DecidableEq, Repr

def Link.new (config : ReplayBufferConfig) (sessionId attachmentId : Nat) : Link where
  live := .new config sessionId attachmentId
  client := ({} : Client).attach
  attachFrame := none
  received := 0

/-- The only `Attach` frame a socket gets is the one the client sent on it. -/
def Link.allows (s : Link) : Event → Bool
  | .socket (.attach lastSeenSeq) => lastSeenSeq = s.attachFrame && !s.live.socket.replayHandshakeDone
  | _ => true

def Link.reattach (s : Link) (attachmentId : Nat) : Link where
  live := { s.live with socket := { sessionId := s.live.socket.sessionId, attachmentId } }
  client := s.client.attach
  attachFrame := s.client.bookmark
  received := 0

def Link.step (s : Link) : LinkEvent → Option Link
  | .server e => if s.allows e then (s.live.step e).map fun live => { s with live } else none
  | .receive => (s.live.socket.sent[s.received]?).map fun frame =>
      { s with client := s.client.onFrame frame, received := s.received + 1 }
  | .reattach attachmentId => some (s.reattach attachmentId)

end RelayTerm.Stream
