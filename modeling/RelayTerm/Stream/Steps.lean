import RelayTerm.Stream.Socket
/-!
# What a step of the forwarder or of the socket can do

The inversions every invariant of the stream uses, and the two that all of them
rest on: ring and broadcast hold the frames `1`, `2`, ... without a hole, the
ring at most one frame ahead, and a receiver stands inside the broadcast.
-/
open RelayTerm.Lib

namespace RelayTerm.Stream

/-! ## The forwarder keeps ring and broadcast in step -/

/-- Ring and broadcast hold the frames `1`, `2`, ... up to the chunk in hand:
the ring is ahead of the broadcast between `push` and `broadcast`. -/
structure LiveOutput.InStep (out : LiveOutput) : Prop where
  channel : Numbered OutputFrame.seq 1 out.channel
  ring : out.replay.Contiguous
  inHand : match out.forwarder with
    | .receiving => out.nextSeq = out.channel.length + 1 ∧ out.replay.latestSeq = out.channel.length
    | .stamped frame => frame.seq = out.channel.length + 1 ∧ out.nextSeq = out.channel.length + 2 ∧
        out.replay.latestSeq = out.channel.length
    | .pushed frame => frame.seq = out.channel.length + 1 ∧ out.nextSeq = out.channel.length + 2 ∧
        out.replay.latestSeq = out.channel.length + 1

theorem new_inStep (config : ReplayBufferConfig) : (LiveOutput.new config).InStep :=
  ⟨trivial, new_contiguous config, rfl, rfl⟩

variable {out out' : LiveOutput} {s s' : Socket}

/-- What a step of the forwarder does. -/
theorem forwarder_cases {e : ForwarderEvent} (h : out.step e = some out') :
    (∃ bytes, e = .stamp bytes ∧ out.forwarder = .receiving ∧
      out' = { out with nextSeq := out.nextSeq + 1, forwarder := .stamped ⟨out.nextSeq, bytes⟩ }) ∨
    (∃ frame, e = .push ∧ out.forwarder = .stamped frame ∧
      out' = { out with replay := out.replay.push frame, forwarder := .pushed frame }) ∨
    (∃ frame, e = .broadcast ∧ out.forwarder = .pushed frame ∧
      out' = { out with channel := out.channel ++ [frame], forwarder := .receiving }) := by
  cases e with
  | stamp bytes =>
    simp only [LiveOutput.step] at h
    split at h
    · next hfwd => exact .inl ⟨bytes, rfl, hfwd, (Option.some.inj h).symm⟩
    · simp at h
  | push =>
    simp only [LiveOutput.step] at h
    split at h
    · next frame hfwd => exact .inr (.inl ⟨frame, rfl, hfwd, (Option.some.inj h).symm⟩)
    · simp at h
  | broadcast =>
    simp only [LiveOutput.step] at h
    split at h
    · next frame hfwd => exact .inr (.inr ⟨frame, rfl, hfwd, (Option.some.inj h).symm⟩)
    · simp at h

theorem forwarder_inStep {e : ForwarderEvent} (h : out.step e = some out') (hi : out.InStep) : out'.InStep := by
  obtain ⟨hchannel, hring, hinHand⟩ := hi
  rcases forwarder_cases h with ⟨bytes, -, hfwd, rfl⟩ | ⟨frame, -, hfwd, rfl⟩ | ⟨frame, -, hfwd, rfl⟩ <;>
    rw [hfwd] at hinHand
  · obtain ⟨hnext, hlatest⟩ := hinHand
    exact ⟨hchannel, hring, hnext, by rw [hnext], hlatest⟩
  · obtain ⟨hseq, hnext, hlatest⟩ := hinHand
    exact ⟨hchannel, hring.push (by rw [hseq, hlatest]), hseq, hnext, by rw [push_latestSeq, hseq]⟩
  · obtain ⟨hseq, hnext, hlatest⟩ := hinHand
    refine ⟨hchannel.concat (by omega), hring, ?_, ?_⟩
    · simpa using hnext
    · simpa using hlatest

/-- Nothing is broadcast that the ring has not seen. -/
theorem LiveOutput.InStep.channel_le (hi : out.InStep) : out.channel.length ≤ out.replay.latestSeq := by
  have := hi.inHand
  split at this <;> omega

/-- The frame at a receiver's position is the next one by number. -/
theorem LiveOutput.InStep.seq_at (hi : out.InStep) {n : Nat} {frame : OutputFrame}
    (h : out.channel[n]? = some frame) : frame.seq = n + 1 := by
  have := hi.channel.num_getElem? h
  omega

/-- The broadcast only grows. -/
theorem channel_grows {e : ForwarderEvent} (h : out.step e = some out') : out.channel <+: out'.channel := by
  rcases forwarder_cases h with ⟨bytes, -, -, rfl⟩ | ⟨frame, -, -, rfl⟩ | ⟨frame, -, -, rfl⟩
  · exact List.prefix_rfl
  · exact List.prefix_rfl
  · exact List.prefix_append _ _

/-! ## Every payload fits in an envelope -/

def OutputFrame.Fits (frame : OutputFrame) : Prop := frame.data.length ≤ maxPayloadLen

theorem binaryOutput_fits {frame : OutputFrame} (h : frame.Fits) :
    binaryOutput frame = some (.binary frame.seq frame.data) :=
  if_neg (Nat.not_lt.2 h)

theorem binaryOutput_some {frame : OutputFrame} {msg : ServerFrame} (h : binaryOutput frame = some msg) :
    msg = .binary frame.seq frame.data := by
  unfold binaryOutput at h
  split at h
  · simp at h
  · exact (Option.some.inj h).symm

/-- Every frame in the hands of the server fits in an envelope. -/
structure LiveOutput.AllFit (out : LiveOutput) : Prop where
  channel : ∀ f ∈ out.channel, f.Fits
  ring : ∀ f ∈ out.replay.frames, f.Fits
  inHand : ∀ f ∈ out.forwarder.inHand, f.Fits

/-- The chunks taken from the PTY are at most as long as an envelope's payload. -/
def ForwarderEvent.Fits : ForwarderEvent → Prop
  | .stamp bytes => bytes.length ≤ maxPayloadLen
  | _ => True

/-- Where every frame fits, what a socket leaves out is below its floor. -/
theorem LiveOutput.AllFit.skipped {out : LiveOutput} (hfit : out.AllFit) {frame : OutputFrame} {i floor : Nat}
    (hat : out.channel[i]? = some frame) (hskip : frame.seq ≤ floor ∨ ¬ frame.Fits) : frame.seq ≤ floor := by
  rcases hskip with hle | hlong
  · exact hle
  · exact absurd (hfit.channel frame (List.mem_of_getElem? hat)) hlong

theorem new_allFit (config : ReplayBufferConfig) : (LiveOutput.new config).AllFit :=
  ⟨by simp [LiveOutput.new], by simp [LiveOutput.new, ReplayBuffer.new], by simp [LiveOutput.new, Forwarder.inHand]⟩

theorem forwarder_allFit {e : ForwarderEvent} (h : out.step e = some out') (he : e.Fits) (hi : out.AllFit) :
    out'.AllFit := by
  obtain ⟨hchannel, hring, hinHand⟩ := hi
  rcases forwarder_cases h with ⟨bytes, rfl, hfwd, rfl⟩ | ⟨frame, -, hfwd, rfl⟩ | ⟨frame, -, hfwd, rfl⟩ <;>
    rw [hfwd] at hinHand
  · refine ⟨hchannel, hring, fun f hf => ?_⟩
    obtain rfl : _ = f := Option.some.inj hf
    exact he
  · refine ⟨hchannel, fun f hf => ?_, hinHand⟩
    have hmem := (push_frames_suffix out.replay frame).subset hf
    rcases List.mem_append.1 hmem with hold | hnew
    · exact hring f hold
    · rw [List.mem_singleton.1 hnew]
      exact hinHand frame rfl
  · refine ⟨fun f hf => ?_, hring, by simp [Forwarder.inHand]⟩
    rcases List.mem_append.1 hf with hold | hnew
    · exact hchannel f hold
    · rw [List.mem_singleton.1 hnew]
      exact hinHand frame rfl

/-! ## What a step of the socket can do -/

/-- One case for each way a step of the socket task goes. -/
inductive SocketStep (out : LiveOutput) (s : Socket) : SocketEvent → Socket → Prop where
  | subscribed (h : s.phase = .attaching) :
      SocketStep out s .subscribe { s with phase := .subscribed, rx := out.channel.length }
  | acknowledged (h : s.phase = .subscribed) (open_ : s.gone = false) :
      SocketStep out s .acknowledge { s with phase := .looping, sent := s.sent ++ [s.attachedMsg] }
  | unacknowledged (h : s.phase = .subscribed) (gone : s.gone = true) :
      SocketStep out s .acknowledge { s with phase := .ended }
  | attachedAgain (lastSeenSeq : Option Nat) (h : s.phase = .looping) (idle : s.sending = [])
      (done : s.replayHandshakeDone = true) :
      SocketStep out s (.attach lastSeenSeq)
        { s with sending := [.text (.error .invalidMessage "already attached")] }
  | noBookmark (lastSeenSeq : Option Nat) (h : s.phase = .looping) (idle : s.sending = [])
      (done : s.replayHandshakeDone = false) (zero : lastSeenSeq.getD 0 = 0) :
      SocketStep out s (.attach lastSeenSeq) { s with replayHandshakeDone := true }
  | replayed (bookmark : Nat) (range : ReplayRange) (h : s.phase = .looping) (idle : s.sending = [])
      (done : s.replayHandshakeDone = false) (pos : 0 < bookmark)
      (ok : out.replay.replaySince (some bookmark) = .ok range) :
      SocketStep out s (.attach (some bookmark)) { s with
        replayHandshakeDone := true
        minLiveSeq := max s.minLiveSeq range.latestSeq
        sending := emitReplayRange range }
  | windowLost (bookmark : Nat) (lost : ReplayWindowLost) (h : s.phase = .looping) (idle : s.sending = [])
      (done : s.replayHandshakeDone = false) (pos : 0 < bookmark)
      (err : out.replay.replaySince (some bookmark) = .error lost) :
      SocketStep out s (.attach (some bookmark)) { s with
        replayHandshakeDone := true
        minLiveSeq := max s.minLiveSeq lost.latest
        sending := emitReplayWindowLost lost }
  | lagged (missed : Nat) (h : s.phase = .looping) (idle : s.sending = [])
      (lag : (s.recv out).1 = .lagged missed) :
      SocketStep out s .recv { s with rx := (s.recv out).2 }
  | skipped (frame : OutputFrame) (h : s.phase = .looping) (idle : s.sending = [])
      (at_ : out.channel[s.rx]? = some frame) (kept : out.channel.length ≤ s.rx + attachmentFanoutCapacity)
      (skip : frame.seq ≤ s.minLiveSeq ∨ ¬ frame.Fits) :
      SocketStep out s .recv { s with rx := s.rx + 1 }
  | delivered (frame : OutputFrame) (h : s.phase = .looping) (idle : s.sending = [])
      (at_ : out.channel[s.rx]? = some frame) (kept : out.channel.length ≤ s.rx + attachmentFanoutCapacity)
      (above : s.minLiveSeq < frame.seq) (fits : frame.Fits) (open_ : s.gone = false) :
      SocketStep out s .recv { s with rx := s.rx + 1, sent := s.sent ++ [.binary frame.seq frame.data] }
  | undelivered (frame : OutputFrame) (h : s.phase = .looping) (idle : s.sending = [])
      (at_ : out.channel[s.rx]? = some frame) (kept : out.channel.length ≤ s.rx + attachmentFanoutCapacity)
      (gone : s.gone = true) :
      SocketStep out s .recv { s with rx := s.rx + 1, phase := .ended }
  | sent (msg : ServerFrame) (rest : List ServerFrame) (h : s.sending = msg :: rest) (open_ : s.gone = false) :
      SocketStep out s .send { s with sending := rest, sent := s.sent ++ [msg] }
  | unsent (msg : ServerFrame) (rest : List ServerFrame) (h : s.sending = msg :: rest) (gone : s.gone = true) :
      SocketStep out s .send { s with sending := [] }
  | hungUp : SocketStep out s .hangup { s with gone := true }

theorem attach_cases {lastSeenSeq : Option Nat} (h : s.phase = .looping) (idle : s.sending = []) :
    SocketStep out s (.attach lastSeenSeq) (s.handleAttach out lastSeenSeq) := by
  unfold Socket.handleAttach
  split
  · next done => exact .attachedAgain lastSeenSeq h idle done
  · next done =>
    rw [Bool.not_eq_true] at done
    split
    · next hnone =>
      refine .noBookmark lastSeenSeq h idle done ?_
      cases lastSeenSeq with
      | none => rfl
      | some b => simpa [Option.filter] using hnone
    · next bookmark hsome =>
      obtain ⟨rfl, hpos⟩ := Option.filter_eq_some_iff.1 hsome
      have hpos : 0 < bookmark := by simpa using hpos
      split
      · next range hok => exact .replayed bookmark range h idle done hpos hok
      · next lost herr => exact .windowLost bookmark lost h idle done hpos herr

theorem deliver_cases {frame : OutputFrame} (h : s.phase = .looping) (idle : s.sending = [])
    (at_ : out.channel[s.rx]? = some frame) (kept : out.channel.length ≤ s.rx + attachmentFanoutCapacity) :
    SocketStep out s .recv ({ s with rx := s.rx + 1 }.deliver frame) := by
  unfold Socket.deliver binaryOutput
  by_cases hfloor : frame.seq ≤ s.minLiveSeq
  · rw [if_pos hfloor]
    exact .skipped frame h idle at_ kept (.inl hfloor)
  · rw [if_neg hfloor]
    by_cases hlong : frame.data.length > maxPayloadLen
    · rw [if_pos hlong]
      exact .skipped frame h idle at_ kept (.inr (Nat.not_le.2 hlong))
    · rw [if_neg hlong]
      simp only
      split
      · next gone => exact .undelivered frame h idle at_ kept gone
      · next gone =>
        exact .delivered frame h idle at_ kept (Nat.not_le.1 hfloor) (Nat.not_lt.1 hlong)
          (Bool.not_eq_true _ ▸ gone)

theorem socket_cases {e : SocketEvent} (h : s.step out e = some s') : SocketStep out s e s' := by
  cases e with
  | subscribe =>
    simp only [Socket.step] at h
    split at h
    · next hphase => obtain rfl := Option.some.inj h; exact .subscribed hphase
    · simp at h
  | acknowledge =>
    simp only [Socket.step] at h
    split at h
    · next hphase =>
      split at h
      · next gone => obtain rfl := Option.some.inj h; exact .unacknowledged hphase gone
      · next gone => obtain rfl := Option.some.inj h; exact .acknowledged hphase (Bool.not_eq_true _ ▸ gone)
    · simp at h
  | attach lastSeenSeq =>
    simp only [Socket.step] at h
    split at h
    · next hloop => obtain rfl := Option.some.inj h; exact attach_cases hloop.1 hloop.2
    · simp at h
  | recv =>
    simp only [Socket.step] at h
    split at h
    · next hloop =>
      split at h
      · simp at h
      · next missed rx hrecv =>
        obtain rfl := Option.some.inj h
        have hstep : SocketStep out s .recv { s with rx := (s.recv out).2 } :=
          .lagged missed hloop.1 hloop.2 (by rw [hrecv])
        rwa [hrecv] at hstep
      · next frame rx hrecv =>
        obtain rfl := Option.some.inj h
        have hvalue : (Lib.recv attachmentFanoutCapacity out.channel s.rx).1 = .value frame := by
          rw [← Socket.recv, hrecv]
        obtain ⟨hat, hkept, hrx⟩ := recv_value hvalue
        rw [← Socket.recv, hrecv] at hrx
        obtain rfl : rx = s.rx + 1 := hrx
        exact deliver_cases hloop.1 hloop.2 hat hkept
    · simp at h
  | send =>
    simp only [Socket.step] at h
    split at h
    · simp at h
    · next msg rest hsending =>
      split at h
      · next gone => obtain rfl := Option.some.inj h; exact .unsent msg rest hsending gone
      · next gone => obtain rfl := Option.some.inj h; exact .sent msg rest hsending (Bool.not_eq_true _ ▸ gone)
  | hangup =>
    obtain rfl := Option.some.inj h
    exact .hungUp

/-! ## What holds of every stream -/

/-- Ring and broadcast are in step, the receiver stands inside the broadcast,
and there is no floor before the replay handshake. -/
structure LiveSocket.Sound (s : LiveSocket) : Prop where
  inStep : s.out.InStep
  inside : s.socket.rx ≤ s.out.channel.length
  floor : s.socket.replayHandshakeDone = false → s.socket.minLiveSeq = 0

theorem socket_inside {e : SocketEvent} (h : SocketStep out s e s') (hi : s.rx ≤ out.channel.length) :
    s'.rx ≤ out.channel.length := by
  cases h with
  | subscribed => exact Nat.le_refl _
  | lagged => exact recv_le hi
  | skipped _ _ _ at_ | delivered _ _ _ at_ | undelivered _ _ _ at_ => exact (List.getElem?_eq_some_iff.1 at_).1
  | _ => exact hi

theorem socket_floor {e : SocketEvent} (h : SocketStep out s e s')
    (hi : s.replayHandshakeDone = false → s.minLiveSeq = 0) :
    s'.replayHandshakeDone = false → s'.minLiveSeq = 0 := by
  cases h with
  | noBookmark | replayed | windowLost => exact fun hdone => by simp at hdone
  | _ => exact hi

/-- A step of the whole is a step of the forwarder or one of the socket. -/
theorem live_step_cases {s s' : LiveSocket} {e : Event} (h : s.step e = some s') :
    (∃ f out, e = .forwarder f ∧ s.out.step f = some out ∧ s' = { s with out }) ∨
    (∃ f socket, e = .socket f ∧ SocketStep s.out s.socket f socket ∧ s' = { s with socket }) := by
  cases e with
  | forwarder f =>
    obtain ⟨out, hout, rfl⟩ := Option.map_eq_some_iff.1 h
    exact .inl ⟨f, out, rfl, hout, rfl⟩
  | socket f =>
    obtain ⟨socket, hsocket, rfl⟩ := Option.map_eq_some_iff.1 h
    exact .inr ⟨f, socket, rfl, socket_cases hsocket, rfl⟩

theorem live_step_sound {s s' : LiveSocket} {e : Event} (h : s.step e = some s') (hs : s.Sound) : s'.Sound := by
  rcases live_step_cases h with ⟨f, out, -, hout, rfl⟩ | ⟨f, socket, -, hsocket, rfl⟩
  · exact ⟨forwarder_inStep hout hs.inStep, Nat.le_trans hs.inside (channel_grows hout).length_le,
      hs.floor⟩
  · exact ⟨hs.inStep, socket_inside hsocket hs.inside, socket_floor hsocket hs.floor⟩

theorem new_sound (config : ReplayBufferConfig) (sessionId attachmentId : Nat) :
    (LiveSocket.new config sessionId attachmentId).Sound :=
  ⟨new_inStep config, Nat.le_refl 0, fun _ => rfl⟩

end RelayTerm.Stream
