import RelayTerm.Lib.Base64
import RelayTerm.Stream.Bookmark
import RelayTerm.Stream.Pipe
import RelayTerm.Wire.Binary
/-!
# What the terminal shows

The last stretch: a frame of a socket is encoded, decoded in the browser and
handed to the client, which writes the payload in base64 into its `output` event;
the workspace decodes it again and writes the bytes to the renderer. WebSockets
deliver in order, so what a workspace has handled is a prefix of what its socket
has sent.

All of it comes through: the bytes the renderer is given are the payloads of the
output frames, in their order, and under the number `n` stands the `n`-th chunk
the shell printed.
-/
open RelayTerm.Lib RelayTerm.Wire

namespace RelayTerm.Stream

/-! ## The codec of the `output` event (`terminal-core/src/protocol.ts`) -/

/-- `btoa` of the bytes as a binary string. -/
def encodeOutputData (bytes : List UInt8) : List Char := Base64.encode Base64.standard bytes

/-- `atob`; `none` where it throws. -/
def decodeOutputData (data : List Char) : Option (List UInt8) := Base64.forgivingDecode data

/-! ## The workspace -/

inductive WsMessage where
  | text (msg : ServerMsg)
  | binary (buf : List UInt8)

/-- What `send_msg` and `send_binary_output` put on the socket. -/
def ServerFrame.toWire : ServerFrame → Option WsMessage
  | .text msg => some (.text msg)
  | .binary seq payload => match Rust.encodeBinaryFrame .output (UInt64.ofNat seq) payload with
    | .ok buf => some (.binary buf)
    | .error _ => none

structure Workspace where
  client : Client
  lastSeenSeq : Nat := 0
  /-- What the renderer was given, with the number of its frame. -/
  written : List (Nat × List UInt8) := []

/-- A workspace whose client has attached, before the first frame. -/
def Workspace.attach (lastSeenSeq : Nat) : Workspace :=
  { client := ({ lastSeenSeq } : Client).attach, lastSeenSeq }

def Workspace.see (w : Workspace) (seq : Nat) : Workspace :=
  if seq > w.lastSeenSeq then { w with lastSeenSeq := seq } else w

/-- The handler of the client's `output` event. -/
def Workspace.onOutput (w : Workspace) (seq : Nat) (data : List Char) : Workspace :=
  match decodeOutputData data with
  | none => w
  | some bytes => { w with written := w.written ++ [(seq, bytes)] }.see seq

def Workspace.onText (w : Workspace) (msg : ServerMsg) : Workspace :=
  let connecting := w.client.state = .connecting
  let w := { w with client := w.client.onMessage msg }
  if connecting then w
  else match msg with
    | .output seq data => w.onOutput seq data.toList
    | .replayEnd latestSeq => w.see latestSeq
    | .replayWindowLost _ _ latestSeq => w.see latestSeq
    | _ => w

/-- A buffer that does not decode, or is no output, is reported and dropped. -/
def Workspace.onBinary (w : Workspace) (buf : List UInt8) : Workspace :=
  match Ts.decodeBinaryFrame buf with
  | .error _ => w
  | .ok frame =>
    if frame.kind ≠ .output then w
    else
      let connecting := w.client.state = .connecting
      let w := { w with client := w.client.onBinary frame.seq }
      if connecting then w else w.onOutput frame.seq (encodeOutputData frame.payload)

def Workspace.onMessage (w : Workspace) : WsMessage → Workspace
  | .text msg => w.onText msg
  | .binary buf => w.onBinary buf

/-- The workspace after the frames, as they arrive. -/
def Workspace.receive (w : Workspace) (frames : List ServerFrame) : Workspace :=
  (frames.filterMap ServerFrame.toWire).foldl Workspace.onMessage w

/-! ## A frame is shown as it is -/

theorem decodeOutputData_encode (bytes : List UInt8) : decodeOutputData (encodeOutputData bytes) = some bytes :=
  Base64.forgivingDecode_encode bytes

@[simp] theorem see_written (w : Workspace) (seq : Nat) : (w.see seq).written = w.written := by
  unfold Workspace.see
  split <;> rfl

@[simp] theorem see_client (w : Workspace) (seq : Nat) : (w.see seq).client = w.client := by
  unfold Workspace.see
  split <;> rfl

/-- The client's decoder gives back the frame the server encoded. -/
theorem decode_wire {seq : Nat} {payload : List UInt8} (hseq : seq < 2 ^ 53) (hfits : payload.length ≤ maxPayloadLen) :
    ∃ buf, ServerFrame.toWire (.binary seq payload) = some (.binary buf) ∧
      Ts.decodeBinaryFrame buf = .ok ⟨.output, seq, payload⟩ := by
  obtain ⟨buf, hencode, hdecode⟩ :=
    binaryOutput_encodes (binaryOutput_fits (show OutputFrame.Fits ⟨seq, payload⟩ from hfits))
  have hnat : (UInt64.ofNat seq).toNat = seq := UInt64.toNat_ofNat_of_lt' (show _ < 2 ^ 64 by omega)
  refine ⟨buf, by simp [ServerFrame.toWire, hencode], ?_⟩
  have hsame := decode_same buf
  rw [hdecode] at hsame
  generalize Ts.decodeBinaryFrame buf = decoded at hsame ⊢
  cases decoded with
  | error failure => exact hsame.elim
  | ok frame =>
    obtain ⟨hkind, hpayload, hexact⟩ := hsame
    have hseq' : frame.seq = seq := (hexact (hnat.symm ▸ hseq)).trans hnat
    cases frame
    simp_all [Rust.BinaryFrameKind.toTs]

/-- What a frame shows. -/
def ServerFrame.shown : ServerFrame → List (Nat × List UInt8)
  | .binary seq payload => [(seq, payload)]
  | .text _ => []

/-- Output is binary and short enough for the codecs. -/
def ServerFrame.Fit : ServerFrame → Prop
  | .binary _ payload => payload.length ≤ maxPayloadLen
  | .text (.output ..) => False
  | .text _ => True

/-- The number of an output frame is exact in JavaScript. -/
def ServerFrame.Exact : ServerFrame → Prop
  | .binary seq _ => seq < 2 ^ 53
  | .text _ => True

theorem onText_written {msg : ServerMsg} (h : ServerFrame.Fit (.text msg)) (w : Workspace) :
    (w.onText msg).written = w.written ∧ (w.onText msg).client = w.client.onMessage msg := by
  unfold Workspace.onText
  simp only
  split
  · exact ⟨rfl, rfl⟩
  · cases msg with
    | output => exact h.elim
    | replayEnd | replayWindowLost => simp
    | _ => exact ⟨rfl, rfl⟩

theorem onOutput_encoded (w : Workspace) (seq : Nat) (payload : List UInt8) :
    (w.onOutput seq (encodeOutputData payload)).written = w.written ++ [(seq, payload)] ∧
    (w.onOutput seq (encodeOutputData payload)).client = w.client := by
  simp [Workspace.onOutput, decodeOutputData_encode]

/-- One frame arrives at a client that has its first. -/
theorem receive_frame {w : Workspace} {frame : ServerFrame} (hfit : frame.Fit) (hexact : frame.Exact)
    (hattached : w.client.state ≠ .connecting) :
    (w.receive [frame]).written = w.written ++ frame.shown ∧ (w.receive [frame]).client.state ≠ .connecting := by
  have hstate := onFrame_state w.client frame
  cases frame with
  | text msg =>
    obtain ⟨hwritten, hclient⟩ := onText_written hfit w
    refine ⟨by simpa [Workspace.receive, ServerFrame.toWire, Workspace.onMessage, ServerFrame.shown] using hwritten, ?_⟩
    simp only [Workspace.receive, ServerFrame.toWire, List.filterMap_cons, List.filterMap_nil, List.foldl_cons,
      List.foldl_nil, Workspace.onMessage, hclient]
    exact hstate
  | binary seq payload =>
    obtain ⟨buf, hwire, hdecode⟩ := decode_wire hexact hfit
    have hreceive : w.receive [.binary seq payload] =
        Workspace.onOutput { w with client := w.client.onBinary seq } seq (encodeOutputData payload) := by
      simp [Workspace.receive, hwire, Workspace.onMessage, Workspace.onBinary, hdecode, hattached]
    rw [hreceive]
    obtain ⟨hwritten, hclient⟩ := onOutput_encoded { w with client := w.client.onBinary seq } seq payload
    exact ⟨hwritten, by rw [hclient]; exact hstate⟩

theorem receive_append (w : Workspace) (l m : List ServerFrame) : w.receive (l ++ m) = (w.receive l).receive m := by
  simp [Workspace.receive]

theorem receive_frames {w : Workspace} {frames : List ServerFrame} (hfit : ∀ f ∈ frames, f.Fit)
    (hexact : ∀ f ∈ frames, f.Exact) (hattached : w.client.state ≠ .connecting) :
    (w.receive frames).written = w.written ++ frames.flatMap ServerFrame.shown := by
  induction frames generalizing w with
  | nil => simp [Workspace.receive]
  | cons frame frames ih =>
    obtain ⟨hwritten, hstate⟩ :=
      receive_frame (hfit frame List.mem_cons_self) (hexact frame List.mem_cons_self) hattached
    have hrest := ih (fun f hf => hfit f (List.mem_cons_of_mem _ hf))
      (fun f hf => hexact f (List.mem_cons_of_mem _ hf)) hstate
    rw [← List.singleton_append, receive_append, hrest, hwritten]
    simp

/-! ## What a socket sends is fit to be shown -/

structure Socket.Orderly (s : Socket) : Prop where
  fit : ∀ f ∈ s.sent ++ s.sending, f.Fit
  silent : s.phase = .attaching ∨ s.phase = .subscribed → s.sent = []
  busy : s.sending ≠ [] → s.phase = .looping
  looping : s.phase = .looping → s.sent ≠ []
  first : ∀ frame, s.sent.head? = some frame → ∃ msg, frame = .text msg

theorem emitReplayRange_fit (range : ReplayRange) : ∀ f ∈ emitReplayRange range, f.Fit := by
  intro f hf
  unfold emitReplayRange at hf
  split at hf
  · simp only [List.cons_append, List.mem_cons, List.mem_append, List.mem_filterMap, List.not_mem_nil, or_false] at hf
    rcases hf with rfl | ⟨frame, -, hbinary⟩ | rfl
    · trivial
    · rw [binaryOutput_some hbinary]
      unfold binaryOutput at hbinary
      split at hbinary
      · cases hbinary
      · next hshort => exact Nat.not_lt.1 hshort
    · trivial
  · cases hf

/-- The head of what was sent stays. -/
theorem head?_append {α : Type} {l m : List α} {x : α} (hne : l ≠ []) (h : (l ++ m).head? = some x) :
    l.head? = some x := by
  cases l with
  | nil => exact absurd rfl hne
  | cons y l => exact h

/-- A looping socket starts to answer a client's frame. -/
theorem Socket.Orderly.answer {s : Socket} (ho : s.Orderly) (hloop : s.phase = .looping)
    {sending : List ServerFrame} (hfit : ∀ f ∈ sending, f.Fit) (replayHandshakeDone : Bool) (minLiveSeq : Nat) :
    Socket.Orderly { s with replayHandshakeDone, minLiveSeq, sending } where
  fit f hf := (List.mem_append.1 hf).elim (fun h => ho.fit f (List.mem_append_left _ h)) (hfit f)
  silent := ho.silent
  busy _ := hloop
  looping := ho.looping
  first := ho.first

theorem socket_orderly {out : LiveOutput} {s s' : Socket} {e : SocketEvent} (h : SocketStep out s e s')
    (ho : s.Orderly) : s'.Orderly := by
  cases h with
  | subscribed hphase =>
    refine ⟨ho.fit, fun _ => ho.silent (.inl hphase), fun hne => ?_, fun hloop => (by cases hloop), ho.first⟩
    have := ho.busy hne
    rw [hphase] at this
    cases this
  | acknowledged hphase =>
    have hnone := ho.silent (.inr hphase)
    have hidle : s.sending = [] := by
      by_contra hne
      have := ho.busy hne
      rw [hphase] at this
      cases this
    simp only [hnone, List.nil_append]
    refine ⟨by simp [hidle, Socket.attachedMsg, ServerFrame.Fit], fun hphase => ?_, fun _ => rfl, by simp, ?_⟩
    · rcases hphase with h | h <;> cases h
    · rintro frame ⟨⟩
      exact ⟨_, rfl⟩
  | unacknowledged hphase =>
    refine ⟨ho.fit, fun hphase => ?_, fun hne => ?_, fun hloop => (by cases hloop), ho.first⟩
    · rcases hphase with h | h <;> cases h
    · have := ho.busy hne
      rw [hphase] at this
      cases this
  | attachedAgain _ hloop => exact ho.answer hloop (by simp [ServerFrame.Fit]) _ _
  | noBookmark _ hloop idle =>
    have := ho.answer hloop (show ∀ f ∈ [], ServerFrame.Fit f by simp) true s.minLiveSeq
    rwa [← idle] at this
  | replayed _ range hloop => exact ho.answer hloop (emitReplayRange_fit range) _ _
  | windowLost _ lost hloop => exact ho.answer hloop (by simp [emitReplayWindowLost, ServerFrame.Fit]) _ _
  | lagged | skipped | hungUp => exact ⟨ho.fit, ho.silent, ho.busy, ho.looping, ho.first⟩
  | delivered frame hloop idle _ _ _ fits =>
    refine ⟨fun f hf => ?_, fun hphase => ?_, fun _ => hloop, fun _ => by simp, fun g hg => ?_⟩
    · simp only [idle, List.append_nil, List.mem_append, List.mem_singleton] at hf
      rcases hf with hold | rfl
      · exact ho.fit f (List.mem_append_left _ hold)
      · exact fits
    · rw [show s.phase = .looping from hloop] at hphase
      rcases hphase with h | h <;> cases h
    · exact ho.first g (head?_append (ho.looping hloop) hg)
  | undelivered frame hloop idle =>
    refine ⟨ho.fit, fun hphase => ?_, fun hne => absurd idle hne, fun h => (by cases h), ho.first⟩
    rcases hphase with h | h <;> cases h
  | sent msg rest hsending =>
    have hloop : s.phase = .looping := ho.busy (by simp [hsending])
    refine ⟨fun f hf => ho.fit f ?_, fun hphase => ?_, fun _ => hloop, fun _ => by simp, fun g hg => ?_⟩
    · rw [hsending]
      simpa using hf
    · rw [show s.phase = .looping from hloop] at hphase
      rcases hphase with h | h <;> cases h
    · exact ho.first g (head?_append (ho.looping hloop) hg)
  | unsent =>
    exact ⟨fun f hf => ho.fit f (List.mem_append_left _ (by simpa using hf)), ho.silent, fun hne => absurd rfl hne,
      ho.looping, ho.first⟩

def Pipe.Orderly (p : Pipe) : Prop := ∀ i s, p.sockets.lookup i = some s → s.Orderly

theorem recv_sockets {p p' : Pipe} (h : p.recv = some p') : p'.sockets = p.sockets := by
  unfold Pipe.recv at h
  split at h
  · split at h
    · obtain ⟨out, -, rfl⟩ := Option.map_eq_some_iff.1 h
      rfl
    · cases h; rfl
    · cases h; rfl
  · split at h
    · cases h; rfl
    · cases h

theorem pipe_step_orderly {p p' : Pipe} {e : PipeEvent} (h : p.step e = some p') (ho : p.Orderly) : p'.Orderly := by
  cases e with
  | bridge e =>
    obtain ⟨-, h⟩ := Option.ite_none_left_eq_some.1 h
    obtain ⟨bridge, -, rfl⟩ := Option.map_eq_some_iff.1 h
    exact ho
  | recv =>
    obtain ⟨-, h⟩ := Option.ite_none_right_eq_some.1 h
    unfold Pipe.Orderly
    rw [recv_sockets h]
    exact ho
  | push | broadcast =>
    obtain ⟨out, -, rfl⟩ := Option.map_eq_some_iff.1 h
    exact ho
  | abort =>
    obtain ⟨-, h⟩ := Option.ite_none_right_eq_some.1 h
    cases h
    exact ho
  | join sessionId attachmentId =>
    obtain ⟨-, h⟩ := Option.ite_none_right_eq_some.1 h
    cases h
    exact Registry.forall_insert ⟨by simp, fun _ => rfl, by simp, fun h => (by cases h), by simp⟩ ho
  | socket attachmentId e =>
    simp only [Pipe.step] at h
    split at h
    · cases h
    · next socket hlookup =>
      obtain ⟨socket', hstep, rfl⟩ := Option.map_eq_some_iff.1 h
      exact Registry.forall_insert (socket_orderly (socket_cases hstep) (ho attachmentId socket hlookup)) ho

/-! ## From the shell to the screen -/

/-- What a socket sends starts with a control message, and all of it comes through. -/
theorem receive_orderly {s : Socket} (ho : s.Orderly) {frames : List ServerFrame} (hinitial : frames <+: s.sent)
    (hexact : ∀ f ∈ frames, f.Exact) (lastSeenSeq : Nat) :
    ((Workspace.attach lastSeenSeq).receive frames).written = frames.flatMap ServerFrame.shown := by
  cases frames with
  | nil => rfl
  | cons frame frames =>
    have hfit : ∀ f ∈ frame :: frames, f.Fit := fun f hf => ho.fit f (List.mem_append_left _ (hinitial.subset hf))
    obtain ⟨rest, hrest⟩ := hinitial
    obtain ⟨msg, rfl⟩ := ho.first frame (by rw [← hrest]; rfl)
    obtain ⟨hwritten, hclient⟩ := onText_written (hfit _ List.mem_cons_self) (Workspace.attach lastSeenSeq)
    have hstate : ((Workspace.attach lastSeenSeq).onText msg).client.state ≠ .connecting := by
      rw [hclient]
      exact onFrame_state _ (.text msg)
    have hall := receive_frames (fun f hf => hfit f (List.mem_cons_of_mem _ hf))
      (fun f hf => hexact f (List.mem_cons_of_mem _ hf)) hstate
    rw [hwritten] at hall
    exact hall

/-- **The screen shows what the shell printed.** Whatever a workspace has handled
of what its socket sent, the renderer was given the payload of every output frame
of it, in order, and under the number `n` the `n`-th chunk the shell printed. -/
theorem rendered_as_printed (config : ReplayBufferConfig) (evs : List PipeEvent) (p : Pipe)
    (hr : run Pipe.step (.start config) evs = some p) (attachmentId : Nat) (s : Socket)
    (hlookup : p.sockets.lookup attachmentId = some s) (frames : List ServerFrame) (hinitial : frames <+: s.sent)
    (hexact : p.printed.length < 2 ^ 53) (lastSeenSeq : Nat) :
    ((Workspace.attach lastSeenSeq).receive frames).written = frames.flatMap ServerFrame.shown ∧
    ∀ seq bytes, (seq, bytes) ∈ ((Workspace.attach lastSeenSeq).receive frames).written →
      p.printed[seq - 1]? = some bytes := by
  have hs := pipe_run_sound hr
  have ho := run_inv Pipe.Orderly (fun _ _ _ ho h => pipe_step_orderly h ho) hr
    (fun i s h => by simp [Pipe.start] at h) attachmentId s hlookup
  have hprinted : ∀ seq payload, .binary seq payload ∈ frames → 1 ≤ seq ∧ p.printed[seq - 1]? = some payload :=
    fun seq payload hmem => hs.printed_at hlookup (hinitial.subset hmem)
  have hwritten := receive_orderly ho hinitial (fun f hf => ?_) lastSeenSeq
  · refine ⟨hwritten, fun seq bytes hmem => ?_⟩
    rw [hwritten] at hmem
    obtain ⟨f, hf, hshown⟩ := List.mem_flatMap.1 hmem
    cases f with
    | text msg => cases hshown
    | binary seq payload =>
      cases List.mem_singleton.1 hshown
      exact (hprinted _ _ hf).2
  · cases f with
    | text msg => trivial
    | binary seq payload =>
      have hat := hprinted seq payload hf
      have hlt := (List.getElem?_eq_some_iff.1 hat.2).1
      exact show seq < 2 ^ 53 by omega

/-- What the first socket of `twoViewers` sends. -/
def liveFrames : List ServerFrame :=
  [.text (.sessionAttached 7 1 .active livePtyAttachMessage), .binary 1 [104], .binary 2 [105]]

theorem rendered_as_printed_live : ∃ p, run Pipe.step (.start .default) twoViewers = some p ∧
    ((Workspace.attach 0).receive liveFrames).written = liveFrames.flatMap ServerFrame.shown ∧
    p.printed[1]? = some [105] := by
  obtain ⟨hwritten, hprinted⟩ := rendered_as_printed .default twoViewers _ rfl 1 _ rfl liveFrames List.prefix_rfl
    (show (2 : Nat) < 2 ^ 53 by decide) 0
  exact ⟨_, rfl, hwritten, hprinted 2 [105] (by rw [hwritten]; decide)⟩

end RelayTerm.Stream
