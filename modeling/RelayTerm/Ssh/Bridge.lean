import RelayTerm.Lib.Channel
import RelayTerm.Lib.Runs
import RelayTerm.Session.Store
/-!
# The running PTY bridge

Once a shell has started, one task (`drive_channel`) owns the SSH channel. It
selects over what the channel says, the queue of input and the queue of window
sizes, and puts what it hears on a queue to the session's forwarder; every queue
is bounded, so each send can wait. The handle (`RusshHandle`) is shared by the
sockets of the session: a call clones the queue's sender and waits for room,
`close` takes the senders away. A socket writes one input at a time.

One step is one stretch between await points of one of the tasks. `heard`,
`shell` and `windows` are the far side of the channel, and `asked` is every
input a socket has called `write_input` with.
-/
open RelayTerm.Lib

namespace RelayTerm.Ssh

def defaultPtyOutputChannelCapacity : Nat := 256

def defaultPtyInputChannelCapacity : Nat := 64

def defaultPtyResizeChannelCapacity : Nat := 8

/-- What `channel.wait` yields; `other` are the messages the driver ignores. -/
inductive ChannelMsg where
  | data (bytes : List UInt8)
  | extendedData (bytes : List UInt8) (ext : Nat)
  | exitStatus (exitStatus : UInt32)
  | eof
  | close
  | other
  deriving DecidableEq, Repr

/-- What the driver puts on the queue for a message: stderr, `ext` 1, goes with stdout. -/
def ChannelMsg.event : ChannelMsg → Option SshPtyEvent
  | .data bytes | .extendedData bytes 1 => some (.output bytes)
  | .exitStatus status => some (.exit status.toInt32)
  | _ => none

/-- Where `drive_channel` waits. -/
inductive Driver where
  | selecting
  | emitting (event : SshPtyEvent)
  | writing (writer : Nat) (bytes : List UInt8)
  | resizing (cols rows : Nat)
  | closing (reason : ClosedReason)
  | tearingDown
  | ended
  deriving DecidableEq

/-- The input the driver has taken and the channel has not. -/
def Driver.inHand : Driver → List (Nat × List UInt8)
  | .writing writer bytes => [(writer, bytes)]
  | _ => []

/-- The driver is in its loop. -/
def Driver.looping : Driver → Bool
  | .selecting | .emitting _ | .writing .. | .resizing .. => true
  | .closing _ | .tearingDown | .ended => false

structure Bridge where
  /-- The senders `close` takes. -/
  inputTx : Bool := true
  resizeTx : Bool := true
  input : Channel (Nat × List UInt8) defaultPtyInputChannelCapacity := .new
  resize : Channel (Nat × Nat) defaultPtyResizeChannelCapacity := .new
  output : Channel SshPtyEvent defaultPtyOutputChannelCapacity := .new
  /-- The calls that hold a clone of a sender, by caller. -/
  writes : Registry Nat (List UInt8) := ∅
  resizes : Registry Nat (Nat × Nat) := ∅
  driver : Driver := .selecting
  heard : List ChannelMsg := []
  shell : List (Nat × List UInt8) := []
  windows : List (Nat × Nat) := []
  /-- The channel has ended without a word, or refused input. -/
  broken : Bool := false
  asked : List (Nat × List UInt8) := []

def Bridge.start : Bridge := {}

/-- No sender of input is left. -/
def Bridge.inputClosed (b : Bridge) : Bool := !b.inputTx && b.writes.entries.isEmpty

def Bridge.resizeClosed (b : Bridge) : Bool := !b.resizeTx && b.resizes.entries.isEmpty

inductive Event where
  | writeInput (writer : Nat) (bytes : List UInt8)
  | sendInput (writer : Nat)
  | requestResize (caller cols rows : Nat)
  | sendResize (caller : Nat)
  /-- The two `take`s of `close`. -/
  | closeInput
  | closeResize
  | hear (msg : Option ChannelMsg)
  | takeInput
  | takeResize
  | emit
  /-- `channel.data` is over: all went out, or it failed after some bytes had. -/
  | dataSent
  | dataFailed (written : Nat)
  | windowChanged (ok : Bool)
  | tornDown
  /-- The runtime is dropped; part of what was being written may be out. -/
  | abort (written : Nat)
  | forward
  | dropReceiver
  deriving DecidableEq

/-! ## The handle -/

/-- `write_input` up to its send: without a sender it returns `BridgeClosed`. -/
def Bridge.writeInput (b : Bridge) (writer : Nat) (bytes : List UInt8) : Option Bridge :=
  match b.writes.lookup writer with
  | some _ => none
  | none =>
    let asked := b.asked ++ [(writer, bytes)]
    if b.inputTx then some { b with asked, writes := b.writes.insert writer bytes } else some { b with asked }

/-- `tx.send` of a waiting call: `BridgeClosed` once the driver is gone. -/
def Bridge.sendInput (b : Bridge) (writer : Nat) : Option Bridge :=
  match b.writes.lookup writer with
  | none => none
  | some bytes =>
    if !b.input.listening then some { b with writes := b.writes.erase writer }
    else (b.input.send? (writer, bytes)).map fun input => { b with input, writes := b.writes.erase writer }

def Bridge.requestResize (b : Bridge) (caller cols rows : Nat) : Option Bridge :=
  match b.resizes.lookup caller with
  | some _ => none
  | none => if b.resizeTx then some { b with resizes := b.resizes.insert caller (cols, rows) } else some b

def Bridge.sendResize (b : Bridge) (caller : Nat) : Option Bridge :=
  match b.resizes.lookup caller with
  | none => none
  | some size =>
    if !b.resize.listening then some { b with resizes := b.resizes.erase caller }
    else (b.resize.send? size).map fun resize => { b with resize, resizes := b.resizes.erase caller }

/-! ## The driver -/

/-- The branch of `select!` that the channel wakes. -/
def Bridge.hear (b : Bridge) : Option ChannelMsg → Bridge
  | none => { b with driver := .closing .transportError, broken := true }
  | some msg =>
    let heard := b.heard ++ [msg]
    match msg with
    | .eof | .close => { b with heard, driver := .closing .remoteEof }
    | _ => match msg.event with
      | some event => { b with heard, driver := .emitting event }
      | none => { b with heard }

/-- The branch that the input queue wakes, also by its end. -/
def Bridge.takeInput (b : Bridge) : Option Bridge :=
  match b.input.recv? with
  | some ((writer, bytes), input) => some { b with input, driver := .writing writer bytes }
  | none => if b.inputClosed then some { b with driver := .closing .localClose } else none

def Bridge.takeResize (b : Bridge) : Option Bridge :=
  match b.resize.recv? with
  | some ((cols, rows), resize) => some { b with resize, driver := .resizing cols rows }
  | none => if b.resizeClosed then some { b with driver := .closing .localClose } else none

/-- `output_tx.send(event)` is over: only a lost `Output` ends the loop. -/
def Bridge.emit (b : Bridge) (event : SshPtyEvent) : Option Bridge :=
  if b.output.listening then (b.output.send? event).map fun output => { b with output, driver := .selecting }
  else match event with
    | .output _ => some { b with driver := .closing .localClose }
    | _ => some { b with driver := .selecting }

/-- The send of the `Closed` event, whose failure is ignored. -/
def Bridge.emitClosed (b : Bridge) (reason : ClosedReason) : Option Bridge :=
  if b.output.listening then
    (b.output.send? (.closed reason)).map fun output => { b with output, driver := .tearingDown }
  else some { b with driver := .tearingDown }

/-- The task is over: its ends of the queues are dropped. -/
def Bridge.leave (b : Bridge) : Bridge :=
  { b with driver := .ended, input := b.input.hangUp, resize := b.resize.hangUp }

/-! ## Steps -/

def Bridge.step (b : Bridge) : Event → Option Bridge
  | .writeInput writer bytes => b.writeInput writer bytes
  | .sendInput writer => b.sendInput writer
  | .requestResize caller cols rows => b.requestResize caller cols rows
  | .sendResize caller => b.sendResize caller
  | .closeInput => some { b with inputTx := false }
  | .closeResize => some { b with resizeTx := false }
  | .hear msg => match b.driver with
    | .selecting => some (b.hear msg)
    | _ => none
  | .takeInput => match b.driver with
    | .selecting => b.takeInput
    | _ => none
  | .takeResize => match b.driver with
    | .selecting => b.takeResize
    | _ => none
  | .emit => match b.driver with
    | .emitting event => b.emit event
    | .closing reason => b.emitClosed reason
    | _ => none
  | .dataSent => match b.driver with
    | .writing writer bytes => some { b with shell := b.shell ++ [(writer, bytes)], driver := .selecting }
    | _ => none
  | .dataFailed written => match b.driver with
    | .writing writer bytes => some { b with
        shell := b.shell ++ [(writer, bytes.take written)], driver := .closing .transportError, broken := true }
    | _ => none
  | .windowChanged ok => match b.driver with
    | .resizing cols rows => some { b with
        windows := if ok then b.windows ++ [(cols, rows)] else b.windows, driver := .selecting }
    | _ => none
  | .tornDown => match b.driver with
    | .tearingDown => some b.leave
    | _ => none
  | .abort written => match b.driver with
    | .ended => none
    | .writing writer bytes => some { b with shell := b.shell ++ [(writer, bytes.take written)] }.leave
    | _ => some b.leave
  | .forward => b.output.recv?.map fun (_, output) => { b with output }
  | .dropReceiver => some { b with output := b.output.hangUp }

/-! ## What a step can do -/

/-- One case for each way a step of the bridge goes. -/
inductive BridgeStep (b : Bridge) : Event → Bridge → Prop where
  | asked (writer : Nat) (bytes : List UInt8) (idle : b.writes.lookup writer = none) (tx : b.inputTx = true) :
      BridgeStep b (.writeInput writer bytes)
        { b with asked := b.asked ++ [(writer, bytes)], writes := b.writes.insert writer bytes }
  | refused (writer : Nat) (bytes : List UInt8) (idle : b.writes.lookup writer = none) (tx : b.inputTx = false) :
      BridgeStep b (.writeInput writer bytes) { b with asked := b.asked ++ [(writer, bytes)] }
  | accepted (writer : Nat) (bytes : List UInt8)
      (input : Channel (Nat × List UInt8) defaultPtyInputChannelCapacity)
      (waits : b.writes.lookup writer = some bytes) (listening : b.input.listening = true)
      (sends : b.input.Sends (writer, bytes) input) :
      BridgeStep b (.sendInput writer) { b with input, writes := b.writes.erase writer }
  | dropped (writer : Nat) (bytes : List UInt8) (waits : b.writes.lookup writer = some bytes)
      (gone : b.input.listening = false) :
      BridgeStep b (.sendInput writer) { b with writes := b.writes.erase writer }
  /-- A call of `resize` goes on, which nobody is once the last sender is gone. -/
  | resizeCall (e : Event) (resizes : Registry Nat (Nat × Nat))
      (resize : Channel (Nat × Nat) defaultPtyResizeChannelCapacity) (open_ : b.resizeClosed = false) :
      BridgeStep b e { b with resizes, resize }
  | resizeRefused (e : Event) : BridgeStep b e b
  | inputClosed : BridgeStep b .closeInput { b with inputTx := false }
  | resizeClosed : BridgeStep b .closeResize { b with resizeTx := false }
  | silent (sel : b.driver = .selecting) :
      BridgeStep b (.hear none) { b with driver := .closing .transportError, broken := true }
  | heardEnd (msg : ChannelMsg) (sel : b.driver = .selecting) (ends : msg = .eof ∨ msg = .close) :
      BridgeStep b (.hear (some msg)) { b with heard := b.heard ++ [msg], driver := .closing .remoteEof }
  | heardEvent (msg : ChannelMsg) (event : SshPtyEvent) (sel : b.driver = .selecting)
      (meaning : msg.event = some event) :
      BridgeStep b (.hear (some msg)) { b with heard := b.heard ++ [msg], driver := .emitting event }
  | heardOther (msg : ChannelMsg) (sel : b.driver = .selecting) (meaning : msg.event = none) :
      BridgeStep b (.hear (some msg)) { b with heard := b.heard ++ [msg] }
  | took (writer : Nat) (bytes : List UInt8) (input : Channel (Nat × List UInt8) defaultPtyInputChannelCapacity)
      (sel : b.driver = .selecting) (takes : b.input.Takes (writer, bytes) input) :
      BridgeStep b .takeInput { b with input, driver := .writing writer bytes }
  | tookSize (cols rows : Nat) (resize : Channel (Nat × Nat) defaultPtyResizeChannelCapacity)
      (sel : b.driver = .selecting) (takes : b.resize.Takes (cols, rows) resize) :
      BridgeStep b .takeResize { b with resize, driver := .resizing cols rows }
  /-- One of the queues has been read to its end, and has no sender left. -/
  | handleClosed (e : Event) (sel : b.driver = .selecting) (closed : b.inputClosed = true ∨ b.resizeClosed = true) :
      BridgeStep b e { b with driver := .closing .localClose }
  | put (event : SshPtyEvent) (output : Channel SshPtyEvent defaultPtyOutputChannelCapacity)
      (held : b.driver = .emitting event) (listening : b.output.listening = true)
      (sends : b.output.Sends event output) : BridgeStep b .emit { b with output, driver := .selecting }
  | outputLost (bytes : List UInt8) (held : b.driver = .emitting (.output bytes))
      (gone : b.output.listening = false) : BridgeStep b .emit { b with driver := .closing .localClose }
  | otherLost (event : SshPtyEvent) (held : b.driver = .emitting event) (gone : b.output.listening = false) :
      BridgeStep b .emit { b with driver := .selecting }
  | told (reason : ClosedReason) (output : Channel SshPtyEvent defaultPtyOutputChannelCapacity)
      (held : b.driver = .closing reason) (listening : b.output.listening = true)
      (sends : b.output.Sends (.closed reason) output) : BridgeStep b .emit { b with output, driver := .tearingDown }
  | untold (reason : ClosedReason) (held : b.driver = .closing reason) (gone : b.output.listening = false) :
      BridgeStep b .emit { b with driver := .tearingDown }
  | wrote (writer : Nat) (bytes : List UInt8) (held : b.driver = .writing writer bytes) :
      BridgeStep b .dataSent { b with shell := b.shell ++ [(writer, bytes)], driver := .selecting }
  | failed (writer : Nat) (bytes : List UInt8) (written : Nat) (held : b.driver = .writing writer bytes) :
      BridgeStep b (.dataFailed written)
        { b with
          shell := b.shell ++ [(writer, bytes.take written)], driver := .closing .transportError, broken := true }
  | windowChanged (cols rows : Nat) (ok : Bool) (held : b.driver = .resizing cols rows) :
      BridgeStep b (.windowChanged ok)
        { b with windows := if ok then b.windows ++ [(cols, rows)] else b.windows, driver := .selecting }
  | left (e : Event) (idle : b.driver.inHand = []) : BridgeStep b e b.leave
  | cutOff (writer : Nat) (bytes : List UInt8) (written : Nat) (held : b.driver = .writing writer bytes) :
      BridgeStep b (.abort written) { b with shell := b.shell ++ [(writer, bytes.take written)] }.leave
  | forwarded (event : SshPtyEvent) (output : Channel SshPtyEvent defaultPtyOutputChannelCapacity)
      (takes : b.output.Takes event output) : BridgeStep b .forward { b with output }
  | unheard : BridgeStep b .dropReceiver { b with output := b.output.hangUp }

variable {b b' : Bridge}

theorem writeInput_cases {writer : Nat} {bytes : List UInt8} (h : b.writeInput writer bytes = some b') :
    BridgeStep b (.writeInput writer bytes) b' := by
  unfold Bridge.writeInput at h
  split at h
  · cases h
  · next idle =>
    split at h
    · next tx => cases h; exact .asked writer bytes idle tx
    · next tx => cases h; exact .refused writer bytes idle (Bool.not_eq_true _ ▸ tx)

theorem sendInput_cases {writer : Nat} (h : b.sendInput writer = some b') :
    BridgeStep b (.sendInput writer) b' := by
  unfold Bridge.sendInput at h
  split at h
  · cases h
  · next bytes waits =>
    cases listening : b.input.listening with
    | false =>
      rw [listening] at h
      cases h
      exact .dropped writer bytes waits listening
    | true =>
      rw [listening] at h
      obtain ⟨input, hsend, rfl⟩ := Option.map_eq_some_iff.1 h
      exact .accepted writer bytes input waits listening (Channel.sends hsend)

theorem requestResize_cases {caller cols rows : Nat} (h : b.requestResize caller cols rows = some b') :
    BridgeStep b (.requestResize caller cols rows) b' := by
  unfold Bridge.requestResize at h
  split at h
  · cases h
  · split at h
    · next tx =>
      cases h
      exact .resizeCall _ _ b.resize (by simp [Bridge.resizeClosed, tx])
    · cases h
      exact .resizeRefused _

theorem sendResize_cases {caller : Nat} (h : b.sendResize caller = some b') :
    BridgeStep b (.sendResize caller) b' := by
  unfold Bridge.sendResize at h
  split at h
  · cases h
  · next size waits =>
    -- a waiting call holds a sender
    have open_ : b.resizeClosed = false := by
      have hne : b.resizes.entries ≠ [] := by
        rintro hnil
        have hmem := AList.lookup_isSome.1 (Option.isSome_of_eq_some waits)
        simp [AList.mem_keys, AList.keys, hnil] at hmem
      simp [Bridge.resizeClosed, hne]
    split at h
    · cases h
      exact .resizeCall _ _ b.resize open_
    · obtain ⟨resize, -, rfl⟩ := Option.map_eq_some_iff.1 h
      exact .resizeCall _ _ resize open_

theorem hear_cases (sel : b.driver = .selecting) (msg : Option ChannelMsg) :
    BridgeStep b (.hear msg) (b.hear msg) := by
  cases msg with
  | none => exact .silent sel
  | some msg =>
    simp only [Bridge.hear]
    split
    · exact .heardEnd _ sel (.inl rfl)
    · exact .heardEnd _ sel (.inr rfl)
    · split
      · next event meaning => exact .heardEvent msg event sel meaning
      · next meaning => exact .heardOther msg sel meaning

theorem takeInput_cases (sel : b.driver = .selecting) (h : b.takeInput = some b') : BridgeStep b .takeInput b' := by
  unfold Bridge.takeInput at h
  split at h
  · next writer bytes input hrecv => cases h; exact .took writer bytes input sel (Channel.takes hrecv)
  · split at h
    · next closed => cases h; exact .handleClosed _ sel (.inl closed)
    · cases h

theorem takeResize_cases (sel : b.driver = .selecting) (h : b.takeResize = some b') :
    BridgeStep b .takeResize b' := by
  unfold Bridge.takeResize at h
  split at h
  · next cols rows resize hrecv => cases h; exact .tookSize cols rows resize sel (Channel.takes hrecv)
  · split at h
    · next closed => cases h; exact .handleClosed _ sel (.inr closed)
    · cases h

theorem emit_cases {event : SshPtyEvent} (held : b.driver = .emitting event) (h : b.emit event = some b') :
    BridgeStep b .emit b' := by
  unfold Bridge.emit at h
  split at h
  · next listening =>
    obtain ⟨output, hsend, rfl⟩ := Option.map_eq_some_iff.1 h
    exact .put event output held listening (Channel.sends hsend)
  · next gone =>
    rw [Bool.not_eq_true] at gone
    split at h
    · next bytes => cases h; exact .outputLost bytes held gone
    · cases h; exact .otherLost event held gone

theorem emitClosed_cases {reason : ClosedReason} (held : b.driver = .closing reason)
    (h : b.emitClosed reason = some b') : BridgeStep b .emit b' := by
  unfold Bridge.emitClosed at h
  split at h
  · next listening =>
    obtain ⟨output, hsend, rfl⟩ := Option.map_eq_some_iff.1 h
    exact .told reason output held listening (Channel.sends hsend)
  · next gone => cases h; exact .untold reason held (Bool.not_eq_true _ ▸ gone)

theorem bridge_step_cases {e : Event} (h : b.step e = some b') : BridgeStep b e b' := by
  cases e with
  | writeInput writer bytes => exact writeInput_cases h
  | sendInput writer => exact sendInput_cases h
  | requestResize caller cols rows => exact requestResize_cases h
  | sendResize caller => exact sendResize_cases h
  | closeInput => cases h; exact .inputClosed
  | closeResize => cases h; exact .resizeClosed
  | hear msg =>
    simp only [Bridge.step] at h
    split at h
    · next sel => cases h; exact hear_cases sel msg
    · cases h
  | takeInput =>
    simp only [Bridge.step] at h
    split at h
    · next sel => exact takeInput_cases sel h
    · cases h
  | takeResize =>
    simp only [Bridge.step] at h
    split at h
    · next sel => exact takeResize_cases sel h
    · cases h
  | emit =>
    simp only [Bridge.step] at h
    split at h
    · next event held => exact emit_cases held h
    · next reason held => exact emitClosed_cases held h
    · cases h
  | dataSent =>
    simp only [Bridge.step] at h
    split at h
    · next writer bytes held => cases h; exact .wrote writer bytes held
    · cases h
  | dataFailed written =>
    simp only [Bridge.step] at h
    split at h
    · next writer bytes held => cases h; exact .failed writer bytes written held
    · cases h
  | windowChanged ok =>
    simp only [Bridge.step] at h
    split at h
    · next cols rows held => cases h; exact .windowChanged cols rows ok held
    · cases h
  | tornDown =>
    simp only [Bridge.step] at h
    split at h
    · next htd => cases h; exact .left _ (by rw [htd]; rfl)
    · cases h
  | abort written =>
    simp only [Bridge.step] at h
    split at h
    · cases h
    · next writer bytes held => cases h; exact .cutOff writer bytes written held
    · next hne hnw =>
      cases h
      refine .left _ ?_
      unfold Driver.inHand
      split
      · next writer bytes held => exact absurd held (hnw writer bytes)
      · rfl
  | forward =>
    obtain ⟨⟨event, output⟩, hrecv, rfl⟩ := Option.map_eq_some_iff.1 h
    exact .forwarded event output (Channel.takes hrecv)
  | dropReceiver => cases h; exact .unheard

end RelayTerm.Ssh
