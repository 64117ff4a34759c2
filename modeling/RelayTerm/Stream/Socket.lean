import RelayTerm.Core.Types
import RelayTerm.Lib.Runs
import RelayTerm.Stream.Replay
/-!
# One live PTY, its output forwarder and one attached socket

The forwarder (`forward_pty_output`) handles each chunk of PTY output in three
steps: it stamps it with the next sequence number, pushes it on the replay ring
and sends it on the broadcast. A socket task (`run_attached_socket`) subscribes
to the broadcast, acknowledges, and then loops over what arrives first, a
client frame or a broadcast frame. The tasks run on different threads, so any
step of one can fall between two steps of the other.
-/
open RelayTerm.Lib

namespace RelayTerm.Stream

/-! ## What a socket can carry -/

/-- `MAX_PAYLOAD_LEN` of the binary envelope, 1 MiB. -/
def maxPayloadLen : Nat := 1024 * 1024

/-- `ATTACHMENT_FANOUT_CAPACITY`: how many frames the broadcast keeps for a receiver. -/
def attachmentFanoutCapacity : Nat := 256

inductive ErrorCode where
  | invalidMessage | invalidInput | ptyNotImplemented | ptyNotLive | sshStartFailed | internal
  deriving DecidableEq, Repr

inductive SessionAttachStatus where
  | attachedStub | active
  deriving DecidableEq, Repr

inductive AckKind where
  | resize
  deriving DecidableEq, Repr

inductive ServerMsg where
  | pong
  | sessionAttached (sessionId attachmentId : Nat) (status : SessionAttachStatus) (message : String)
  | ack (kind : AckKind)
  | output (seq : Nat) (data : String)
  | replayStart (fromSeq toSeq : Nat)
  | replayEnd (latestSeq : Nat)
  | replayWindowLost (requestedSeq : Nat) (oldestAvailableSeq : Option Nat) (latestSeq : Nat)
  | sessionDetached (sessionId attachmentId : Nat)
  | sessionClosed (sessionId : Nat)
  | error (code : ErrorCode) (message : String)
  deriving DecidableEq, Repr

/-- A WebSocket message of the server: JSON on the control plane, or a binary
`Output` envelope on the data plane. -/
inductive ServerFrame where
  | text (msg : ServerMsg)
  | binary (seq : Nat) (payload : List UInt8)
  deriving DecidableEq, Repr

/-- The envelope `send_binary_output` builds; a payload over the limit is
logged and dropped. -/
def binaryOutput (frame : OutputFrame) : Option ServerFrame :=
  if frame.data.length > maxPayloadLen then none else some (.binary frame.seq frame.data)

/-- What `emit_replay_range` sends. -/
def emitReplayRange (range : ReplayRange) : List ServerFrame :=
  match range.frames.head?, range.frames.getLast? with
  | some first, some last =>
    .text (.replayStart first.seq last.seq) :: range.frames.filterMap binaryOutput
      ++ [.text (.replayEnd range.latestSeq)]
  | _, _ => []

/-- What `emit_replay_window_lost` sends. -/
def emitReplayWindowLost (lost : ReplayWindowLost) : List ServerFrame :=
  [.text (.replayWindowLost lost.requested lost.oldestAvailable lost.latest)]

/-! ## The forwarder -/

/-- Where the forwarder stands with the chunk it took from the PTY. -/
inductive Forwarder where
  | receiving
  | stamped (frame : OutputFrame)
  | pushed (frame : OutputFrame)
  deriving DecidableEq, Repr

/-- The frame that is stamped and not yet on the broadcast. -/
def Forwarder.inHand : Forwarder → Option OutputFrame
  | .receiving => none
  | .stamped frame | .pushed frame => some frame

/-- The output side of a live runtime. `channel` is everything ever sent on
`output_tx`. -/
structure LiveOutput where
  nextSeq : Nat
  forwarder : Forwarder
  replay : ReplayBuffer
  channel : List OutputFrame
  deriving DecidableEq, Repr

def LiveOutput.new (config : ReplayBufferConfig) : LiveOutput := ⟨1, .receiving, .new config, []⟩

inductive ForwarderEvent where
  | stamp (bytes : List UInt8)
  | push
  | broadcast
  deriving DecidableEq, Repr

def LiveOutput.step (out : LiveOutput) : ForwarderEvent → Option LiveOutput
  | .stamp bytes => match out.forwarder with
    | .receiving => some { out with nextSeq := out.nextSeq + 1, forwarder := .stamped ⟨out.nextSeq, bytes⟩ }
    | _ => none
  | .push => match out.forwarder with
    | .stamped frame => some { out with replay := out.replay.push frame, forwarder := .pushed frame }
    | _ => none
  | .broadcast => match out.forwarder with
    | .pushed frame => some { out with channel := out.channel ++ [frame], forwarder := .receiving }
    | _ => none

/-! ## The socket task -/

inductive Phase where
  | attaching | subscribed | looping | ended
  deriving DecidableEq, Repr

/-- A socket task between two of its steps. -/
structure Socket where
  sessionId : Nat
  attachmentId : Nat
  phase : Phase := .attaching
  /-- The position of the broadcast receiver. -/
  rx : Nat := 0
  replayHandshakeDone : Bool := false
  minLiveSeq : Nat := 0
  /-- What the handler of the current client frame has still to send. -/
  sending : List ServerFrame := []
  sent : List ServerFrame := []
  /-- The transport is gone: every send fails from now on. -/
  gone : Bool := false
  deriving DecidableEq, Repr

/-- The `Attach` arm of `handle_text_frame`. -/
def Socket.handleAttach (s : Socket) (out : LiveOutput) (lastSeenSeq : Option Nat) : Socket :=
  if s.replayHandshakeDone then { s with sending := [.text (.error .invalidMessage "already attached")] }
  else match lastSeenSeq.filter (0 < ·) with
    | none => { s with replayHandshakeDone := true }
    | some bookmark => match out.replay.replaySince (some bookmark) with
      | .ok range => { s with
          replayHandshakeDone := true
          minLiveSeq := max s.minLiveSeq range.latestSeq
          sending := emitReplayRange range }
      | .error lost => { s with
          replayHandshakeDone := true
          minLiveSeq := max s.minLiveSeq lost.latest
          sending := emitReplayWindowLost lost }

/-- A frame taken from the broadcast: dropped at or below the floor, else sent. -/
def Socket.deliver (s : Socket) (frame : OutputFrame) : Socket :=
  if frame.seq ≤ s.minLiveSeq then s
  else match binaryOutput frame with
    | none => s
    | some msg => if s.gone then { s with phase := .ended } else { s with sent := s.sent ++ [msg] }

inductive SocketEvent where
  | subscribe
  | acknowledge
  | attach (lastSeenSeq : Option Nat)
  | recv
  | send
  | hangup
  deriving DecidableEq, Repr

def Socket.attachedMsg (s : Socket) : ServerFrame :=
  .text (.sessionAttached s.sessionId s.attachmentId .active livePtyAttachMessage)

/-- What the socket's broadcast receiver gives now, and its next position. -/
def Socket.recv (s : Socket) (out : LiveOutput) : Recv OutputFrame × Nat :=
  Lib.recv attachmentFanoutCapacity out.channel s.rx

def Socket.step (s : Socket) (out : LiveOutput) : SocketEvent → Option Socket
  | .subscribe =>
    if s.phase = .attaching then some { s with phase := .subscribed, rx := out.channel.length } else none
  | .acknowledge =>
    if s.phase = .subscribed then
      if s.gone then some { s with phase := .ended }
      else some { s with phase := .looping, sent := s.sent ++ [s.attachedMsg] }
    else none
  | .attach lastSeenSeq =>
    if s.phase = .looping ∧ s.sending = [] then some (s.handleAttach out lastSeenSeq) else none
  | .recv =>
    if s.phase = .looping ∧ s.sending = [] then
      match s.recv out with
      | (.empty, _) => none
      | (.lagged _, rx) => some { s with rx }
      | (.value frame, rx) => some ({ s with rx }.deliver frame)
    else none
  | .send => match s.sending with
    | [] => none
    | msg :: rest =>
      if s.gone then some { s with sending := [] } else some { s with sending := rest, sent := s.sent ++ [msg] }
  | .hangup => some { s with gone := true }

/-- The live output and one socket attached to it. -/
structure LiveSocket where
  out : LiveOutput
  socket : Socket
  deriving DecidableEq, Repr

inductive Event where
  | forwarder (e : ForwarderEvent)
  | socket (e : SocketEvent)
  deriving DecidableEq, Repr

def LiveSocket.new (config : ReplayBufferConfig) (sessionId attachmentId : Nat) : LiveSocket :=
  ⟨.new config, { sessionId, attachmentId }⟩

def LiveSocket.step (s : LiveSocket) : Event → Option LiveSocket
  | .forwarder e => (s.out.step e).map fun out => { s with out }
  | .socket e => (s.socket.step s.out e).map fun socket => { s with socket }

end RelayTerm.Stream
