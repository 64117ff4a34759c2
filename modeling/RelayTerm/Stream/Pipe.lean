import RelayTerm.Session.Tasks
import RelayTerm.Ssh.Printing
import RelayTerm.Stream.Steps
/-!
# From the shell to every socket

The bridge, the forwarder and all attached sockets of one session, put together:
the forwarder takes the events off the bridge's queue, stamps the output and
hands it to the ring and the broadcast, and each socket sends what it replays or
receives. It stops when the driver is gone and the queue is empty, and then
records why; a dropped runtime aborts it while it waits.

Every `Output` frame on every socket carries, under the number `n`, exactly the
`n`-th chunk the shell printed. And where the forwarder records that the far side
ended the session or that the transport failed, this is so, and all the shell
printed has been broadcast.
-/
open RelayTerm.Lib
open RelayTerm.Ssh (Bridge ChannelMsg)

namespace RelayTerm.Stream

/-- The forwarder's task: over, it leaves the category of the `closed` event. -/
inductive Forwarding where
  | running
  | finished (category : String)
  | aborted
  deriving DecidableEq

structure Pipe where
  bridge : Bridge
  out : LiveOutput
  closedReason : Option ClosedReason := none
  forwarding : Forwarding := .running
  sockets : Registry Nat Socket := ∅

def Pipe.start (config : ReplayBufferConfig) : Pipe := { bridge := .start, out := .new config }

inductive PipeEvent where
  | bridge (e : Ssh.Event)
  | recv
  | push
  | broadcast
  | abort
  | join (sessionId attachmentId : Nat)
  | socket (attachmentId : Nat) (e : SocketEvent)

/-- One turn of the forwarder's loop up to its next await. -/
def Pipe.recv (p : Pipe) : Option Pipe :=
  match p.bridge.output.recv? with
  | some (event, output) =>
    let bridge := { p.bridge with output }
    match event with
    | .output bytes => (p.out.step (.stamp bytes)).map fun out => { p with bridge, out }
    | .exit _ => some { p with bridge }
    | .closed reason => some { p with bridge, closedReason := some reason }
  | none =>
    if p.bridge.driver = .ended then
      some { p with forwarding := .finished (Session.Store.teardownCategory p.closedReason) }
    else none

def Pipe.step (p : Pipe) : PipeEvent → Option Pipe
  -- the receiver of the bridge's queue is the forwarder's
  | .bridge e => if e = .forward ∨ e = .dropReceiver then none
    else (p.bridge.step e).map fun bridge => { p with bridge }
  | .recv => if p.forwarding = .running ∧ p.out.forwarder = .receiving then p.recv else none
  | .push => (p.out.step .push).map fun out => { p with out }
  | .broadcast => (p.out.step .broadcast).map fun out => { p with out }
  | .abort =>
    if p.forwarding = .running ∧ p.out.forwarder = .receiving then
      some { p with forwarding := .aborted, bridge := { p.bridge with output := p.bridge.output.hangUp } }
    else none
  | .join sessionId attachmentId =>
    if p.sockets.lookup attachmentId = none then
      some { p with sockets := p.sockets.insert attachmentId { sessionId, attachmentId } }
    else none
  | .socket attachmentId e => match p.sockets.lookup attachmentId with
    | none => none
    | some socket => (socket.step p.out e).map fun socket =>
        { p with sockets := p.sockets.insert attachmentId socket }

/-! ## What has been stamped -/

def output? : SshPtyEvent → Option (List UInt8)
  | .output bytes => some bytes
  | _ => none

/-- The chunks of output among events. -/
def outputs (events : List SshPtyEvent) : List (List UInt8) := events.filterMap output?

@[simp] theorem outputs_append (l m : List SshPtyEvent) : outputs (l ++ m) = outputs l ++ outputs m :=
  List.filterMap_append

@[simp] theorem outputs_exit (status : Int32) : outputs [.exit status] = [] := rfl

@[simp] theorem outputs_closed (reason : ClosedReason) : outputs [.closed reason] = [] := rfl

theorem outputs_mono {l m : List SshPtyEvent} (h : l <+: m) : outputs l <+: outputs m := by
  obtain ⟨rest, rfl⟩ := h
  rw [outputs_append]
  exact List.prefix_append _ _

/-- What the shell has printed, chunk by chunk. -/
def Pipe.printed (p : Pipe) : List (List UInt8) := outputs p.bridge.said

/-- The frames the forwarder has stamped. -/
def LiveOutput.stamped (out : LiveOutput) : List OutputFrame := out.channel ++ out.forwarder.inHand.toList

theorem LiveOutput.InStep.stamped_numbered {out : LiveOutput} (hi : out.InStep) :
    Numbered OutputFrame.seq 1 out.stamped := by
  have hinHand := hi.inHand
  unfold LiveOutput.stamped
  cases hfwd : out.forwarder with
  | receiving => simpa [Forwarder.inHand] using hi.channel
  | stamped frame | pushed frame =>
    rw [hfwd] at hinHand
    exact hi.channel.concat (by rw [hinHand.1, Nat.add_comm])

theorem stamp_stamped {out : LiveOutput} (h : out.forwarder = .receiving) (bytes : List UInt8) :
    LiveOutput.stamped { out with nextSeq := out.nextSeq + 1, forwarder := .stamped ⟨out.nextSeq, bytes⟩ } =
      out.stamped ++ [⟨out.nextSeq, bytes⟩] := by
  simp [LiveOutput.stamped, h, Forwarder.inHand]

/-- The ring and the broadcast are handed what is stamped, and add nothing. -/
theorem handed_stamped {out out' : LiveOutput} {e : ForwarderEvent} (he : e = .push ∨ e = .broadcast)
    (h : out.step e = some out') :
    out'.stamped = out.stamped ∧ ∀ f ∈ out'.replay.frames, f ∈ out.replay.frames ∨ f ∈ out.stamped := by
  rcases forwarder_cases h with ⟨bytes, rfl, -, -⟩ | ⟨frame, -, hfwd, rfl⟩ | ⟨frame, -, hfwd, rfl⟩
  · simp at he
  · refine ⟨by simp [LiveOutput.stamped, hfwd, Forwarder.inHand], fun f hf => ?_⟩
    rcases List.mem_append.1 ((push_frames_suffix out.replay frame).subset hf) with hold | hnew
    · exact .inl hold
    · exact .inr (by simp [LiveOutput.stamped, hfwd, Forwarder.inHand, List.mem_singleton.1 hnew])
  · exact ⟨by simp [LiveOutput.stamped, hfwd, Forwarder.inHand], fun f hf => .inl hf⟩

/-! ## What a socket carries -/

/-- Every output frame a socket has sent or is about to send is a stamped one. -/
def Socket.Carries (s : Socket) (frames : List OutputFrame) : Prop :=
  ∀ seq payload, ServerFrame.binary seq payload ∈ s.sent ++ s.sending → ⟨seq, payload⟩ ∈ frames

theorem binary_mem_replay {range : ReplayRange} {seq : Nat} {payload : List UInt8}
    (h : ServerFrame.binary seq payload ∈ emitReplayRange range) : ⟨seq, payload⟩ ∈ range.frames := by
  unfold emitReplayRange at h
  split at h
  · simp only [List.cons_append, List.mem_cons, List.mem_append, List.mem_filterMap, List.not_mem_nil, reduceCtorEq,
      false_or, or_false] at h
    obtain ⟨frame, hmem, hbinary⟩ := h
    cases binaryOutput_some hbinary
    exact hmem
  · cases h

theorem replaySince_subset {b : ReplayBuffer} {bookmark : Option Nat} {range : ReplayRange}
    (h : b.replaySince bookmark = .ok range) : ∀ f ∈ range.frames, f ∈ b.frames := by
  unfold ReplayBuffer.replaySince at h
  intro f hf
  simp only at h
  split at h
  · cases h; cases hf
  · split at h
    · cases h; cases hf
    · split at h
      · cases h
      · cases h
        exact (List.mem_filter.1 hf).1

theorem socket_carries {out : LiveOutput} {s s' : Socket} {e : SocketEvent} (h : SocketStep out s e s')
    (hring : ∀ f ∈ out.replay.frames, f ∈ out.stamped) (hs : s.Carries out.stamped) : s'.Carries out.stamped := by
  intro seq payload hmem
  cases h with
  | acknowledged => exact hs seq payload (by simpa [Socket.attachedMsg] using hmem)
  | attachedAgain _ _ idle | windowLost _ _ _ idle =>
    refine hs seq payload (List.mem_append_left _ ((List.mem_append.1 hmem).resolve_right ?_))
    simp [emitReplayWindowLost]
  | replayed bookmark range _ _ _ _ ok =>
    rcases List.mem_append.1 hmem with hsent | hreplay
    · exact hs seq payload (List.mem_append_left _ hsent)
    · exact hring _ (replaySince_subset ok _ (binary_mem_replay hreplay))
  | delivered frame _ _ at_ =>
    simp only [List.append_assoc, List.mem_append, List.mem_singleton] at hmem
    rcases hmem with hsent | hnew | hsending
    · exact hs seq payload (List.mem_append_left _ hsent)
    · cases hnew
      exact List.mem_append_left _ (List.mem_of_getElem? at_)
    · exact hs seq payload (List.mem_append_right _ hsending)
  | sent msg rest h =>
    refine hs seq payload ?_
    rw [h]
    simpa using hmem
  | unsent =>
    exact hs seq payload (List.mem_append_left _ (by simpa using hmem))
  | _ => exact hs seq payload hmem

/-! ## What every run keeps -/

structure Pipe.Sound (p : Pipe) : Prop where
  printing : p.bridge.printing.Sound
  inStep : p.out.InStep
  chunks : p.out.stamped.map OutputFrame.data = outputs p.bridge.output.received
  ring : ∀ f ∈ p.out.replay.frames, f ∈ p.out.stamped
  sockets : ∀ i s, p.sockets.lookup i = some s → s.Carries p.out.stamped
  reason : ∀ reason, p.closedReason = some reason → .closed reason ∈ p.bridge.output.received
  finished : ∀ category, p.forwarding = .finished category →
    p.out.forwarder = .receiving ∧ category = Session.Store.teardownCategory p.closedReason

/-- Only the forwarder takes events off the queue. -/
theorem received_of_step {b b' : Bridge} {e : Ssh.Event} (h : Ssh.BridgeStep b e b') (he : e ≠ .forward) :
    b'.output.received = b.output.received := by
  cases h with
  | put _ _ _ _ sends | told _ _ _ _ sends => exact sends.received
  | forwarded => exact absurd rfl he
  | _ => rfl

/-- The forwarder has taken an event off the queue. -/
theorem Pipe.Sound.take {p : Pipe} (hs : p.Sound) {event : SshPtyEvent} (hrun : p.forwarding = .running)
    {output : Channel SshPtyEvent Ssh.defaultPtyOutputChannelCapacity}
    (hrecv : p.bridge.output.recv? = some (event, output)) {out : LiveOutput} {closedReason : Option ClosedReason}
    (inStep : out.InStep) (hstamped : p.out.stamped <+: out.stamped) (hring : out.replay = p.out.replay)
    (chunks : out.stamped.map OutputFrame.data = outputs (p.bridge.output.received ++ [event]))
    (reason : ∀ reason, closedReason = some reason → p.closedReason = some reason ∨ event = .closed reason) :
    Pipe.Sound { p with bridge := { p.bridge with output }, out, closedReason } where
  printing := Ssh.step_printing_sound (e := .forward) (by simp [Ssh.Bridge.step, hrecv]) hs.printing
  inStep := inStep
  chunks := by rw [(Channel.takes hrecv).received, chunks]
  ring f hf := hstamped.subset (hs.ring f (hring ▸ hf))
  sockets i s hlookup seq payload hmem := hstamped.subset (hs.sockets i s hlookup seq payload hmem)
  reason r hr := by
    rw [(Channel.takes hrecv).received]
    rcases reason r hr with hold | hnew
    · exact List.mem_append_left _ (hs.reason r hold)
    · exact List.mem_append_right _ (by rw [hnew]; exact List.mem_singleton_self _)
  finished category hfinished := by
    rw [hrun] at hfinished
    cases hfinished

theorem recv_sound {p p' : Pipe} (hrun : p.forwarding = .running) (hidle : p.out.forwarder = .receiving)
    (h : p.recv = some p') (hs : p.Sound) : p'.Sound := by
  unfold Pipe.recv at h
  split at h
  · next event output hrecv =>
    split at h
    · next bytes =>
      obtain ⟨out, hstep, rfl⟩ := Option.map_eq_some_iff.1 h
      have hout : out =
          { p.out with nextSeq := p.out.nextSeq + 1, forwarder := .stamped ⟨p.out.nextSeq, bytes⟩ } := by
        simpa [LiveOutput.step, hidle] using hstep.symm
      have hstamped : out.stamped = p.out.stamped ++ [⟨p.out.nextSeq, bytes⟩] := by
        rw [hout, stamp_stamped hidle]
      refine hs.take hrun hrecv (forwarder_inStep hstep hs.inStep) (hstamped ▸ List.prefix_append _ _)
        (by rw [hout]) ?_ (fun r hr => .inl hr)
      rw [hstamped, List.map_append, hs.chunks, outputs_append]
      rfl
    · next status =>
      cases h
      exact hs.take hrun hrecv hs.inStep List.prefix_rfl rfl (by simpa using hs.chunks)
        (fun r hr => .inl hr)
    · next reason =>
      cases h
      exact hs.take hrun hrecv hs.inStep List.prefix_rfl rfl (by simpa using hs.chunks)
        (fun r hr => .inr (by rw [Option.some.inj hr]))
  · split at h
    · cases h
      exact { hs with finished := fun category hfinished => ⟨hidle, (Forwarding.finished.inj hfinished).symm⟩ }
    · cases h

/-- The ring or the broadcast is handed the frame in hand. -/
theorem handed_sound {p : Pipe} {e : ForwarderEvent} (he : e = .push ∨ e = .broadcast) {out : LiveOutput}
    (h : p.out.step e = some out) (hs : p.Sound) : Pipe.Sound { p with out } := by
  obtain ⟨hstamped, hring⟩ := handed_stamped he h
  refine { hs with inStep := forwarder_inStep h hs.inStep, chunks := ?_, ring := ?_, sockets := ?_, finished := ?_ }
  · rw [hstamped, hs.chunks]
  · intro f hf
    rw [hstamped]
    exact (hring f hf).elim (hs.ring f) id
  · rw [hstamped]
    exact hs.sockets
  · -- a forwarder that is over has no frame in hand
    intro category hfinished
    have hidle := (hs.finished category hfinished).1
    rcases he with rfl | rfl <;> simp [LiveOutput.step, hidle] at h

theorem pipe_step_sound {p p' : Pipe} {e : PipeEvent} (h : p.step e = some p') (hs : p.Sound) : p'.Sound := by
  cases e with
  | bridge e =>
    obtain ⟨hown, h⟩ := Option.ite_none_left_eq_some.1 h
    obtain ⟨bridge, hstep, rfl⟩ := Option.map_eq_some_iff.1 h
    have hreceived := received_of_step (Ssh.bridge_step_cases hstep) fun he => hown (.inl he)
    exact { hs with
      printing := Ssh.step_printing_sound hstep hs.printing
      chunks := by rw [hreceived, hs.chunks]
      reason := by rw [hreceived]; exact hs.reason }
  | recv =>
    obtain ⟨⟨hrun, hidle⟩, h⟩ := Option.ite_none_right_eq_some.1 h
    exact recv_sound hrun hidle h hs
  | push =>
    obtain ⟨out, hstep, rfl⟩ := Option.map_eq_some_iff.1 h
    exact handed_sound (.inl rfl) hstep hs
  | broadcast =>
    obtain ⟨out, hstep, rfl⟩ := Option.map_eq_some_iff.1 h
    exact handed_sound (.inr rfl) hstep hs
  | abort =>
    obtain ⟨-, h⟩ := Option.ite_none_right_eq_some.1 h
    cases h
    exact { hs with
      printing := Ssh.step_printing_sound (e := .dropReceiver) rfl hs.printing
      finished := fun category hfinished => by cases hfinished }
  | join sessionId attachmentId =>
    obtain ⟨-, h⟩ := Option.ite_none_right_eq_some.1 h
    cases h
    exact { hs with sockets := Registry.forall_insert (by simp [Socket.Carries]) hs.sockets }
  | socket attachmentId e =>
    simp only [Pipe.step] at h
    split at h
    · cases h
    · next socket hlookup =>
      obtain ⟨socket', hstep, rfl⟩ := Option.map_eq_some_iff.1 h
      have hcarries := socket_carries (socket_cases hstep) hs.ring (hs.sockets attachmentId socket hlookup)
      exact { hs with sockets := Registry.forall_insert hcarries hs.sockets }

theorem pipe_start_sound (config : ReplayBufferConfig) : (Pipe.start config).Sound where
  printing := Ssh.start_printing_sound
  inStep := new_inStep config
  chunks := rfl
  ring f hf := by cases hf
  sockets i s hlookup := by simp [Pipe.start] at hlookup
  reason r hr := by cases hr
  finished category hfinished := by cases hfinished

theorem pipe_run_sound {config : ReplayBufferConfig} {evs : List PipeEvent} {p : Pipe}
    (hr : run Pipe.step (.start config) evs = some p) : p.Sound :=
  run_inv Pipe.Sound (fun _ _ _ hs h => pipe_step_sound h hs) hr (pipe_start_sound config)

/-! ## What reaches the sockets and the records -/

theorem closed_not_said (b : Bridge) (reason : ClosedReason) : .closed reason ∉ b.said := by
  intro hmem
  obtain ⟨msg, -, hevent⟩ := List.mem_filterMap.1 hmem
  unfold ChannelMsg.event at hevent
  split at hevent <;> cases hevent

theorem stamped_printed {p : Pipe} (hs : p.Sound) : p.out.stamped.map OutputFrame.data <+: p.printed := by
  rw [hs.chunks]
  have hlog : outputs p.bridge.output.log <+: p.printed := by
    rcases hs.printing.told with hinitial | ⟨reason, hlog, -⟩
    · exact outputs_mono hinitial
    · rw [show p.bridge.output.log = p.bridge.said ++ [.closed reason] from hlog, outputs_append, outputs_closed,
        List.append_nil]
      exact List.prefix_rfl
  exact (outputs_mono p.bridge.output.received_prefix).trans hlog

/-- Once the forwarder has taken a `Closed` event it has taken all the shell
printed, and the reason is so. -/
theorem reason_complete {p : Pipe} (hs : p.Sound) {reason : ClosedReason} (hr : p.closedReason = some reason) :
    p.bridge.Grounds reason ∧ p.out.stamped.map OutputFrame.data = p.printed := by
  have hmem := hs.reason reason hr
  have hreceived := p.bridge.output.received_prefix
  have hnot : .closed reason ∉ p.bridge.said := closed_not_said p.bridge reason
  rcases hs.printing.told with hinitial | ⟨reason', hlog, hgrounds⟩
  · exact absurd (hinitial.subset (hreceived.subset hmem)) hnot
  · have hlog : p.bridge.output.log = p.bridge.said ++ [.closed reason'] := hlog
    rw [hlog] at hreceived
    -- the `Closed` event is the last of the queue, so all before it is taken too
    have hall : p.bridge.output.received = p.bridge.said ++ [.closed reason'] := by
      rcases List.prefix_concat_iff.1 hreceived with hall | hpart
      · exact hall
      · exact absurd (hpart.subset hmem) hnot
    have hsame : reason = reason' := by
      rw [hall] at hmem
      have hlast := (List.mem_append.1 hmem).resolve_left hnot
      exact SshPtyEvent.closed.inj (List.mem_singleton.1 hlast)
    refine ⟨hsame ▸ hgrounds, ?_⟩
    rw [hs.chunks, hall, outputs_append, outputs_closed, List.append_nil]
    rfl

/-- A frame a socket carries is the chunk of its number. -/
theorem Pipe.Sound.printed_at {p : Pipe} (hs : p.Sound) {attachmentId : Nat} {s : Socket}
    (hlookup : p.sockets.lookup attachmentId = some s) {seq : Nat} {payload : List UInt8}
    (hsent : .binary seq payload ∈ s.sent) : 1 ≤ seq ∧ p.printed[seq - 1]? = some payload := by
  have hmem := hs.sockets attachmentId s hlookup seq payload (List.mem_append_left _ hsent)
  obtain ⟨i, hi⟩ := List.mem_iff_getElem?.1 hmem
  have hseq : seq = 1 + i := hs.inStep.stamped_numbered.num_getElem? hi
  refine ⟨by omega, ?_⟩
  have hat : (p.out.stamped.map OutputFrame.data)[seq - 1]? = some payload := by
    rw [hseq, Nat.add_sub_cancel_left, List.getElem?_map, hi]
    rfl
  obtain ⟨rest, hrest⟩ := stamped_printed hs
  rw [← hrest, List.getElem?_append_left (List.getElem?_eq_some_iff.1 hat).1, hat]

/-- **Every output frame on every socket is what the shell printed under its
number**, replayed or live, whatever other sockets, the far side and the handle
do. -/
theorem frames_as_printed (config : ReplayBufferConfig) (evs : List PipeEvent) (p : Pipe)
    (hr : run Pipe.step (.start config) evs = some p) (attachmentId : Nat) (s : Socket)
    (hlookup : p.sockets.lookup attachmentId = some s) (seq : Nat) (payload : List UInt8)
    (hsent : .binary seq payload ∈ s.sent) : 1 ≤ seq ∧ p.printed[seq - 1]? = some payload :=
  (pipe_run_sound hr).printed_at hlookup hsent

/-- The shell prints two chunks; one socket hears both live, the other replays the
second. -/
def twoViewers : List PipeEvent :=
  [.join 7 1, .socket 1 .subscribe, .socket 1 .acknowledge,
    .bridge (.hear (some (.data [104]))), .bridge .emit, .recv, .push, .broadcast,
    .bridge (.hear (some (.extendedData [105] 1))), .bridge .emit, .recv, .push, .broadcast,
    .socket 1 .recv, .socket 1 .recv,
    .join 7 2, .socket 2 .subscribe, .socket 2 .acknowledge, .socket 2 (.attach (some 1)), .socket 2 .send,
    .socket 2 .send]

theorem frames_as_printed_replayed : ∃ p s, run Pipe.step (.start .default) twoViewers = some p ∧
    p.sockets.lookup 2 = some s ∧ .binary 2 [105] ∈ s.sent ∧ p.printed[1]? = some [105] :=
  ⟨_, _, rfl, rfl, by decide, (frames_as_printed .default twoViewers _ rfl 2 _ rfl 2 [105] (by decide)).2⟩

/-- **What the forwarder records of the end is so.** Where it records that the
far side ended the session, the channel's last word was its end; where it records
a failure of the transport, there was one. In both cases all the shell printed has
been broadcast, and in any case nothing else has. -/
theorem teardown_truthful (config : ReplayBufferConfig) (evs : List PipeEvent) (p : Pipe)
    (hr : run Pipe.step (.start config) evs = some p) (category : String)
    (hfinished : p.forwarding = .finished category) :
    p.out.channel.map OutputFrame.data <+: p.printed ∧
    (category = "remote_eof" → (p.bridge.heard.getLast? = some .eof ∨ p.bridge.heard.getLast? = some .close) ∧
      p.out.channel.map OutputFrame.data = p.printed) ∧
    (category = "transport_error" → p.bridge.broken = true ∧ p.out.channel.map OutputFrame.data = p.printed) := by
  have hs := pipe_run_sound hr
  obtain ⟨hidle, rfl⟩ := hs.finished category hfinished
  have hstamped : p.out.stamped = p.out.channel := by simp [LiveOutput.stamped, hidle, Forwarder.inHand]
  rw [← hstamped]
  refine ⟨stamped_printed hs, fun heof => ?_, fun herror => ?_⟩
  · cases hreason : p.closedReason with
    | none => simp [Session.Store.teardownCategory, hreason] at heof
    | some reason =>
      cases reason <;> simp [Session.Store.teardownCategory, hreason] at heof
      exact reason_complete hs hreason
  · cases hreason : p.closedReason with
    | none => simp [Session.Store.teardownCategory, hreason] at herror
    | some reason =>
      cases reason <;> simp [Session.Store.teardownCategory, hreason] at herror
      exact reason_complete hs hreason

/-- The shell exits after one chunk. -/
def remoteExit : List PipeEvent :=
  [.bridge (.hear (some (.data [104]))), .bridge .emit, .bridge (.hear (some (.exitStatus 0))), .bridge .emit,
    .bridge (.hear (some .eof)), .bridge .emit, .bridge .tornDown, .recv, .push, .broadcast, .recv, .recv, .recv]

theorem teardown_truthful_exit : ∃ p, run Pipe.step (.start .default) remoteExit = some p ∧
    p.forwarding = .finished "remote_eof" ∧ p.out.channel.map OutputFrame.data = p.printed :=
  ⟨_, rfl, rfl, ((teardown_truthful .default remoteExit _ rfl "remote_eof" rfl).2.1 rfl).2⟩

end RelayTerm.Stream
