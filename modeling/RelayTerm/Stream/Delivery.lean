import RelayTerm.Stream.Steps
/-!
# What reaches one socket: order and completeness

The replay answers a bookmark from a snapshot of the ring while the broadcast
keeps queuing the same frames; the floor `min_live_seq`, raised when the
client's `Attach` frame is handled, keeps the two apart from then on. Frames
delivered live before that moment are not covered by the floor: the output is
in order exactly as long as the bookmark is not behind them.
-/
open RelayTerm.Lib

namespace RelayTerm.Stream

variable {out : LiveOutput} {s s' : LiveSocket}

/-! ## The sequence numbers a socket sends -/

/-- The sequence number of an `Output` frame, of either plane. -/
def ServerFrame.outputSeq : ServerFrame → Option Nat
  | .binary seq _ => some seq
  | .text (.output seq _) => some seq
  | .text _ => none

def outputSeqs (frames : List ServerFrame) : List Nat := frames.filterMap ServerFrame.outputSeq

@[simp] theorem outputSeqs_append (xs ys : List ServerFrame) :
    outputSeqs (xs ++ ys) = outputSeqs xs ++ outputSeqs ys := List.filterMap_append

/-- What is on the wire, or about to be put on it by the handler of a client frame. -/
def Socket.emitted (s : Socket) : List Nat := outputSeqs (s.sent ++ s.sending)

theorem outputSeqs_binary_sublist (frames : List OutputFrame) :
    List.Sublist (outputSeqs (frames.filterMap binaryOutput)) (frames.map OutputFrame.seq) := by
  induction frames with
  | nil => exact List.Sublist.refl []
  | cons f frames ih =>
    rw [List.filterMap_cons, List.map_cons]
    split
    · exact ih.cons f.seq
    · next msg hmsg =>
      rw [binaryOutput_some hmsg]
      exact ih.cons_cons f.seq

theorem outputSeqs_binary {frames : List OutputFrame} (hfit : ∀ f ∈ frames, f.Fits) :
    outputSeqs (frames.filterMap binaryOutput) = frames.map OutputFrame.seq := by
  induction frames with
  | nil => rfl
  | cons f frames ih =>
    rw [List.filterMap_cons_some (binaryOutput_fits (hfit f List.mem_cons_self)), List.map_cons]
    exact congrArg (f.seq :: ·) (ih fun g hg => hfit g (List.mem_cons_of_mem f hg))

/-- The brackets of a replay carry no output. -/
theorem outputSeqs_replay (range : ReplayRange) :
    outputSeqs (emitReplayRange range) = outputSeqs (range.frames.filterMap binaryOutput) := by
  unfold emitReplayRange
  cases hframes : range.frames with
  | nil => rfl
  | cons f frames =>
    rw [List.head?_cons, List.getLast?_cons]
    simp [outputSeqs, ServerFrame.outputSeq, List.filterMap_cons]

/-! ## Order -/

/-- When a socket's first `Attach` frame asks for frames the ring still has,
nothing newer than its bookmark has been sent on the socket. -/
def AttachInTime (s : LiveSocket) : Event → Prop
  | .socket (.attach (some bookmark)) =>
    s.socket.replayHandshakeDone = false → 0 < bookmark → bookmark < s.out.replay.latestSeq →
      (∀ oldest ∈ s.out.replay.frames.head?, oldest.seq ≤ bookmark + 1) →
      ∀ q ∈ outputSeqs s.socket.sent, q ≤ bookmark
  | _ => True

instance (s : LiveSocket) : (e : Event) → Decidable (AttachInTime s e)
  | .forwarder _ | .socket .subscribe | .socket .acknowledge | .socket (.attach none) | .socket .recv
  | .socket .send | .socket .hangup => isTrue trivial
  | .socket (.attach (some _)) => inferInstanceAs (Decidable (_ → _ → _ → _ → _))

/-- The output is in order so far, and nothing above the floor that the
receiver has not passed has been emitted. -/
structure Socket.Ordered (s : Socket) : Prop where
  increasing : s.emitted.Pairwise (· < ·)
  passed : ∀ q ∈ s.emitted, q ≤ max s.minLiveSeq s.rx

/-- The frames of a replay go on after what was sent up to the bookmark. -/
theorem replayed_ordered {socket : Socket} (hs : socket.Ordered) (hring : out.replay.Contiguous)
    {bookmark : Nat} {range : ReplayRange} (hidle : socket.sending = []) (hpos : 0 < bookmark)
    (hok : out.replay.replaySince (some bookmark) = .ok range)
    (hbehind : range.frames ≠ [] → ∀ q ∈ outputSeqs socket.sent, q ≤ bookmark) :
    Socket.Ordered { socket with
      replayHandshakeDone := true
      minLiveSeq := max socket.minLiveSeq range.latestSeq
      sending := emitReplayRange range } := by
  obtain ⟨hlatest, -, hnum, hmem⟩ := replaySince_ok hring hpos hok
  have hsent : socket.emitted = outputSeqs socket.sent := by rw [Socket.emitted, hidle, List.append_nil]
  have hsub := outputSeqs_binary_sublist range.frames
  rw [← outputSeqs_replay] at hsub
  refine ⟨?_, fun q hq => ?_⟩
  · rw [Socket.emitted, outputSeqs_append, List.pairwise_append]
    refine ⟨hsent ▸ hs.increasing, (List.pairwise_map.2 hnum.pairwise).sublist hsub, fun p hp q hq => ?_⟩
    have hq := hsub.subset hq
    have hle := hbehind (by rintro hnil; simp [hnil] at hq) p hp
    have := (hmem q).1 hq
    omega
  · rw [Socket.emitted, outputSeqs_append, List.mem_append] at hq
    simp only [hlatest]
    rcases hq with hq | hq
    · have := hs.passed q (hsent ▸ hq)
      omega
    · have := (hmem q).1 (hsub.subset hq)
      omega

theorem delivered_emitted {socket : Socket} (idle : socket.sending = []) (frame : OutputFrame) :
    Socket.emitted { socket with rx := socket.rx + 1, sent := socket.sent ++ [.binary frame.seq frame.data] } =
      socket.emitted ++ [frame.seq] := by
  simp [Socket.emitted, outputSeqs, idle, ServerFrame.outputSeq]

theorem socket_ordered {socket socket' : Socket} {e : SocketEvent} (h : SocketStep out socket e socket')
    (hout : out.InStep) (hinside : socket.rx ≤ out.channel.length) (hs : socket.Ordered)
    (htime : AttachInTime ⟨out, socket⟩ (.socket e)) : socket'.Ordered := by
  -- steps that emit no output keep what was emitted; the floor and the position only grow
  have quiet : ∀ t : Socket, t.emitted = socket.emitted → socket.minLiveSeq ≤ t.minLiveSeq → socket.rx ≤ t.rx →
      t.Ordered := by
    intro t hemitted hfloor hrx
    refine ⟨hemitted ▸ hs.increasing, fun q hq => ?_⟩
    have := hs.passed q (hemitted ▸ hq)
    omega
  cases h with
  | subscribed => exact quiet _ rfl (Nat.le_refl _) hinside
  | acknowledged =>
    refine quiet _ ?_ (Nat.le_refl _) (Nat.le_refl _)
    simp [Socket.emitted, outputSeqs, Socket.attachedMsg, ServerFrame.outputSeq, List.filterMap_cons]
  | unacknowledged | noBookmark | hungUp => exact quiet _ rfl (Nat.le_refl _) (Nat.le_refl _)
  | attachedAgain _ _ idle =>
    refine quiet _ ?_ (Nat.le_refl _) (Nat.le_refl _)
    simp [Socket.emitted, outputSeqs, idle, ServerFrame.outputSeq]
  | replayed bookmark range _ idle done pos ok =>
    refine replayed_ordered hs hout.ring idle pos ok fun hne => ?_
    obtain ⟨hlt, hkept⟩ := replaySince_nonempty pos ok hne
    exact htime done pos hlt hkept
  | windowLost bookmark lost _ idle =>
    refine quiet _ ?_ (Nat.le_max_left _ _) (Nat.le_refl _)
    simp [Socket.emitted, outputSeqs, idle, emitReplayWindowLost, ServerFrame.outputSeq]
  | lagged missed _ _ lag =>
    obtain ⟨hlag, hrx⟩ := recv_lagged lag
    refine quiet _ rfl (Nat.le_refl _) ?_
    simp only [Socket.recv, hrx]
    omega
  | skipped | undelivered => exact quiet _ rfl (Nat.le_refl _) (Nat.le_succ _)
  | delivered frame _ idle at_ _ above =>
    have hseq := hout.seq_at at_
    refine ⟨?_, fun q hq => ?_⟩
    · rw [delivered_emitted idle, List.pairwise_append]
      refine ⟨hs.increasing, List.pairwise_singleton _ _, fun p hp q hq => ?_⟩
      have := hs.passed p hp
      rw [List.mem_singleton] at hq
      omega
    · rw [delivered_emitted idle, List.mem_append, List.mem_singleton] at hq
      simp only
      rcases hq with hq | rfl
      · have := hs.passed q hq
        omega
      · omega
  | sent msg rest hsending =>
    refine quiet _ ?_ (Nat.le_refl _) (Nat.le_refl _)
    simp [Socket.emitted, hsending]
  | unsent =>
    have hsub : List.Sublist (Socket.emitted { socket with sending := [] }) socket.emitted := by
      simp [Socket.emitted]
    exact ⟨hs.increasing.sublist hsub, fun q hq => hs.passed q (hsub.subset hq)⟩

theorem live_step_ordered {e : Event} (h : s.step e = some s') (hs : s.Sound ∧ s.socket.Ordered)
    (htime : AttachInTime s e) : s'.Sound ∧ s'.socket.Ordered := by
  refine ⟨live_step_sound h hs.1, ?_⟩
  rcases live_step_cases h with ⟨f, out, -, -, rfl⟩ | ⟨f, socket, rfl, hsocket, rfl⟩
  · exact hs.2
  · exact socket_ordered hsocket hs.1.inStep hs.1.inside hs.2 htime

/-- **The output on one socket is strictly increasing**, replayed and live
frames together, in every run whose `Attach` frame comes in time. -/
theorem output_increasing (config : ReplayBufferConfig) (sessionId attachmentId : Nat) (evs : List Event)
    (htime : Guarded LiveSocket.step AttachInTime (.new config sessionId attachmentId) evs)
    (hr : run LiveSocket.step (.new config sessionId attachmentId) evs = some s) :
    (outputSeqs s.socket.sent).Pairwise (· < ·) := by
  have hinit : (LiveSocket.new config sessionId attachmentId).socket.Ordered :=
    ⟨List.Pairwise.nil, fun q hq => by simp [LiveSocket.new, Socket.emitted, outputSeqs] at hq⟩
  have hinv := htime.inv (fun s => s.Sound ∧ s.socket.Ordered)
    (fun s e s' hs hok h => live_step_ordered h hs hok) hr ⟨new_sound config sessionId attachmentId, hinit⟩
  have hall := hinv.2.increasing
  rw [Socket.emitted, outputSeqs_append] at hall
  exact (List.pairwise_append.1 hall).1

/-- A chunk of PTY output goes all the way through the forwarder. -/
def chunk (bytes : List UInt8) : List Event := [.forwarder (.stamp bytes), .forwarder .push, .forwarder .broadcast]

/-- A client that saw frame 1 comes back after frame 2; frame 3 follows live. -/
def resumedRun : List Event :=
  chunk [1] ++ chunk [2] ++ [.socket .subscribe, .socket .acknowledge, .socket (.attach (some 1)), .socket .send,
    .socket .send, .socket .send] ++ chunk [3] ++ [.socket .recv]

theorem output_increasing_resumed : ∃ s, run LiveSocket.step (.new .default 7 9) resumedRun = some s ∧
    outputSeqs s.socket.sent = [2, 3] ∧ (outputSeqs s.socket.sent).Pairwise (· < ·) :=
  ⟨_, rfl, rfl, output_increasing .default 7 9 resumedRun (by decide) rfl⟩

/-- The client comes back with bookmark 1, and frame 2 is delivered live before
its `Attach` frame is handled: the replay sends it again. -/
def overtakenAttachRun : List Event :=
  chunk [1] ++ [.socket .subscribe, .socket .acknowledge] ++ chunk [2] ++
    [.socket .recv, .socket (.attach (some 1)), .socket .send, .socket .send]

theorem output_sent_twice : ¬ ∀ (config : ReplayBufferConfig) (sessionId attachmentId : Nat) (evs : List Event)
    (s : LiveSocket), run LiveSocket.step (.new config sessionId attachmentId) evs = some s →
      (outputSeqs s.socket.sent).Pairwise (· < ·) := by
  intro h
  have hinc := h .default 7 9 overtakenAttachRun _ rfl
  have hsent : ¬ [2, 2].Pairwise (· < ·) := by decide
  exact hsent hinc

/-! ## Completeness of a resume -/

/-- The broadcast receiver does not lag when it is read: what it has not read
is still in the channel. -/
def NoLag (s : LiveSocket) : Event → Prop
  | .socket .recv => s.out.channel.length ≤ s.socket.rx + attachmentFanoutCapacity
  | _ => True

instance (s : LiveSocket) : (e : Event) → Decidable (NoLag s e)
  | .forwarder _ | .socket .subscribe | .socket .acknowledge | .socket (.attach _) | .socket .send
  | .socket .hangup => isTrue trivial
  | .socket .recv => inferInstanceAs (Decidable (_ ≤ _))

/-- Every frame after `bookmark` up to the floor, or to where the receiver
stands, has been emitted, unless the transport is gone. -/
structure Socket.Resumed (bookmark : Nat) (s : Socket) : Prop where
  looping : s.phase ≠ .attaching
  done : s.replayHandshakeDone = true
  complete : s.gone = false → ∀ q, bookmark < q → q ≤ max s.minLiveSeq s.rx → q ∈ s.emitted

/-- The replay sends all that the floor will hide. -/
theorem replayed_resumed {socket : Socket} (hout : out.InStep) (hfit : out.AllFit)
    (hinside : socket.rx ≤ out.channel.length) {bookmark : Nat} {range : ReplayRange}
    (hphase : socket.phase = .looping) (hfloor : socket.minLiveSeq = 0) (hpos : 0 < bookmark)
    (hok : out.replay.replaySince (some bookmark) = .ok range) :
    Socket.Resumed bookmark { socket with
      replayHandshakeDone := true
      minLiveSeq := max socket.minLiveSeq range.latestSeq
      sending := emitReplayRange range } := by
  obtain ⟨hlatest, hring, -, hmem⟩ := replaySince_ok hout.ring hpos hok
  refine ⟨by simp [hphase], rfl, fun _ q hq hle => ?_⟩
  have hchannel := hout.channel_le
  simp only [hlatest, hfloor] at hle
  rw [Socket.emitted, outputSeqs_append, outputSeqs_replay, outputSeqs_binary fun f hf => hfit.ring f (hring f hf)]
  refine List.mem_append_right _ ((hmem q).2 ⟨hq, ?_⟩)
  omega

theorem socket_resumed {bookmark : Nat} {socket socket' : Socket} {e : SocketEvent}
    (h : SocketStep out socket e socket') (hout : out.InStep) (hfit : out.AllFit) (hs : socket.Resumed bookmark)
    (hlag : NoLag ⟨out, socket⟩ (.socket e)) : socket'.Resumed bookmark := by
  cases h with
  | subscribed hphase => exact absurd hphase hs.looping
  | acknowledged =>
    refine ⟨by simp, hs.done, fun hopen q hq hle => ?_⟩
    have := hs.complete hopen q hq hle
    simp only [Socket.emitted, outputSeqs_append, List.mem_append] at this ⊢
    tauto
  | unacknowledged => exact ⟨by simp, hs.done, hs.complete⟩
  | attachedAgain _ _ idle =>
    refine ⟨hs.looping, hs.done, fun hopen q hq hle => ?_⟩
    have := hs.complete hopen q hq hle
    rw [Socket.emitted, idle, List.append_nil] at this
    rw [Socket.emitted, outputSeqs_append]
    exact List.mem_append_left _ this
  | noBookmark _ _ _ done | replayed _ _ _ _ done | windowLost _ _ _ _ done => simp [hs.done] at done
  | lagged missed _ _ lag => exact absurd (recv_lagged lag).1 (Nat.not_lt.2 hlag)
  | skipped frame _ _ at_ _ skip =>
    have hseq := hout.seq_at at_
    have hskip := hfit.skipped at_ skip
    refine ⟨hs.looping, hs.done, fun hopen q hq hle => hs.complete hopen q hq ?_⟩
    simp only at hle
    omega
  | delivered frame _ idle at_ =>
    have hseq := hout.seq_at at_
    refine ⟨hs.looping, hs.done, fun hopen q hq hle => ?_⟩
    simp only at hle
    rw [delivered_emitted idle, List.mem_append, List.mem_singleton]
    rcases Nat.lt_or_ge socket.rx q with hlt | hge
    · rcases Nat.le_total q socket.minLiveSeq with hfloor | hfloor
      · exact .inl (hs.complete hopen q hq (by omega))
      · exact .inr (by omega)
    · exact .inl (hs.complete hopen q hq (by omega))
  | undelivered _ _ _ _ _ gone =>
    refine ⟨by simp, hs.done, fun hopen => ?_⟩
    simp [gone] at hopen
  | sent msg rest hsending =>
    refine ⟨hs.looping, hs.done, fun hopen q hq hle => ?_⟩
    have := hs.complete hopen q hq hle
    rw [Socket.emitted, hsending] at this
    simpa [Socket.emitted] using this
  | unsent _ _ _ gone =>
    refine ⟨hs.looping, hs.done, fun hopen => ?_⟩
    simp [gone] at hopen
  | hungUp => exact ⟨hs.looping, hs.done, by simp⟩

/-- The chunks taken from the PTY fit in an envelope. -/
def Event.Fits : Event → Prop
  | .forwarder e => e.Fits
  | .socket _ => True

theorem live_step_allFit {e : Event} (h : s.step e = some s') (he : e.Fits) (hs : s.out.AllFit) : s'.out.AllFit := by
  rcases live_step_cases h with ⟨f, out, rfl, hout, rfl⟩ | ⟨f, socket, -, -, rfl⟩
  · exact forwarder_allFit hout he hs
  · exact hs

theorem live_step_resumed {bookmark : Nat} {e : Event} (h : s.step e = some s')
    (hs : s.Sound ∧ s.out.AllFit ∧ s.socket.Resumed bookmark) (hok : NoLag s e ∧ e.Fits) :
    s'.Sound ∧ s'.out.AllFit ∧ s'.socket.Resumed bookmark := by
  obtain ⟨hsound, hfit, hres⟩ := hs
  refine ⟨live_step_sound h hsound, live_step_allFit h hok.2 hfit, ?_⟩
  rcases live_step_cases h with ⟨f, out, -, -, rfl⟩ | ⟨f, socket, rfl, hsocket, rfl⟩
  · exact hres
  · exact socket_resumed hsocket hsound.inStep hfit hres hok.1

/-- What is stamped and not yet broadcast is the frame in the forwarder's hand. -/
theorem LiveOutput.InStep.stamped_cases (hout : out.InStep) {q : Nat} (hq : q < out.nextSeq) :
    q ≤ out.channel.length ∨ ∃ frame ∈ out.forwarder.inHand, frame.seq = q := by
  have hinHand := hout.inHand
  split at hinHand
  · exact .inl (by omega)
  · next frame hfwd =>
    rcases Nat.lt_or_ge out.channel.length q with hlt | hge
    · exact .inr ⟨frame, by rw [hfwd]; rfl, by omega⟩
    · exact .inl hge
  · next frame hfwd =>
    rcases Nat.lt_or_ge out.channel.length q with hlt | hge
    · exact .inr ⟨frame, by rw [hfwd]; rfl, by omega⟩
    · exact .inl hge

/-- **A resume skips no frame.** A socket that handled an `Attach` frame with a
bookmark still in the window, whose receiver never lagged since and is drained,
has sent every frame after the bookmark, except the one, if any, that the
forwarder has stamped and not yet put on the broadcast. -/
theorem resume_complete (config : ReplayBufferConfig) (sessionId attachmentId : Nat) (pre post : List Event)
    {bookmark : Nat} {range : ReplayRange} {s₁ s₂ : LiveSocket} (hpos : 0 < bookmark)
    (hr₁ : run LiveSocket.step (.new config sessionId attachmentId) pre = some s₁)
    (hfirst : s₁.socket.replayHandshakeDone = false)
    (hok : s₁.out.replay.replaySince (some bookmark) = .ok range)
    (hr₂ : run LiveSocket.step s₁ (.socket (.attach (some bookmark)) :: post) = some s₂)
    (hfit : ∀ e ∈ pre ++ post, e.Fits)
    (hlag : Guarded LiveSocket.step NoLag s₁ (.socket (.attach (some bookmark)) :: post))
    (hopen : s₂.socket.gone = false)
    (hidle : s₂.socket.sending = []) (hdrained : s₂.socket.rx = s₂.out.channel.length) :
    ∀ q, bookmark < q → q < s₂.out.nextSeq →
      q ∈ outputSeqs s₂.socket.sent ∨ ∃ frame ∈ s₂.out.forwarder.inHand, frame.seq = q := by
  intro q hq hstamped
  -- up to the `Attach` frame
  have hbefore : s₁.Sound ∧ s₁.out.AllFit := by
    have hguard : Guarded LiveSocket.step (fun _ e => e.Fits) (.new config sessionId attachmentId) pre :=
      Guarded.of_forall fun e he => hfit e (List.mem_append_left _ he)
    exact hguard.inv (fun s => s.Sound ∧ s.out.AllFit)
      (fun s e s' hs he h => ⟨live_step_sound h hs.1, live_step_allFit h he hs.2⟩) hr₁
      ⟨new_sound config sessionId attachmentId, new_allFit config⟩
  obtain ⟨t, hattach, hr₂⟩ := run_cons.1 hr₂
  -- the `Attach` frame itself
  have hresumed : t.Sound ∧ t.out.AllFit ∧ t.socket.Resumed bookmark := by
    refine ⟨live_step_sound hattach hbefore.1, live_step_allFit hattach trivial hbefore.2, ?_⟩
    rcases live_step_cases hattach with ⟨f, out, he, -, -⟩ | ⟨f, socket, he, hsocket, rfl⟩
    · simp at he
    · obtain rfl := Event.socket.inj he
      cases hsocket with
      | attachedAgain _ _ _ done => simp [hfirst] at done
      | noBookmark _ _ _ _ zero => simp at zero; omega
      | replayed _ range' hphase _ _ _ ok =>
        exact replayed_resumed hbefore.1.inStep hbefore.2 hbefore.1.inside hphase (hbefore.1.floor hfirst) hpos ok
      | windowLost _ lost _ _ _ _ err => simp [hok] at err
  -- everything after it
  have hguard := (hlag.2 t hattach).and_forall fun e he => hfit e (List.mem_append_right _ he)
  have hafter := hguard.inv (fun s => s.Sound ∧ s.out.AllFit ∧ s.socket.Resumed bookmark)
    (fun s e s' hs hok h => live_step_resumed h hs hok) hr₂ hresumed
  rcases hafter.1.inStep.stamped_cases hstamped with hle | hinHand
  · refine .inl ?_
    have hmem := hafter.2.2.complete hopen q hq (by omega)
    rwa [Socket.emitted, hidle, List.append_nil] at hmem
  · exact .inr hinHand

/-- Frames 1 and 2 are broadcast before the socket subscribes. -/
def beforeAttachRun : List Event := chunk [1] ++ chunk [2] ++ [.socket .subscribe, .socket .acknowledge]

/-- The replay of frame 2 is sent, frame 3 comes live, and frame 4 is stamped. -/
def afterAttachRun : List Event :=
  [.socket .send, .socket .send, .socket .send] ++ chunk [3] ++ [.socket .recv, .forwarder (.stamp [4])]

theorem runs_fit : ∀ e ∈ beforeAttachRun ++ afterAttachRun, e.Fits := by
  simp [beforeAttachRun, afterAttachRun, chunk, Event.Fits, ForwarderEvent.Fits, maxPayloadLen]

theorem resume_complete_from_one : ∃ s₁ s₂ range,
    run LiveSocket.step (.new .default 7 9) beforeAttachRun = some s₁ ∧
    s₁.out.replay.replaySince (some 1) = .ok range ∧
    run LiveSocket.step s₁ (.socket (.attach (some 1)) :: afterAttachRun) = some s₂ ∧
    s₂.out.nextSeq = 5 ∧ outputSeqs s₂.socket.sent = [2, 3] ∧
    ∀ q, 1 < q → q < s₂.out.nextSeq →
      q ∈ outputSeqs s₂.socket.sent ∨ ∃ frame ∈ s₂.out.forwarder.inHand, frame.seq = q :=
  ⟨_, _, _, rfl, rfl, rfl, rfl, rfl,
    resume_complete .default 7 9 beforeAttachRun afterAttachRun Nat.one_pos rfl rfl rfl rfl runs_fit (by decide)
      rfl rfl rfl⟩

/-- Frame 4 is stamped, and neither on the broadcast nor sent. -/
theorem resume_misses_stamped : ¬ ∀ (config : ReplayBufferConfig) (sessionId attachmentId : Nat)
    (pre post : List Event) (bookmark : Nat) (range : ReplayRange) (s₁ s₂ : LiveSocket), 0 < bookmark →
      run LiveSocket.step (.new config sessionId attachmentId) pre = some s₁ →
      s₁.socket.replayHandshakeDone = false → s₁.out.replay.replaySince (some bookmark) = .ok range →
      run LiveSocket.step s₁ (.socket (.attach (some bookmark)) :: post) = some s₂ →
      (∀ e ∈ pre ++ post, e.Fits) →
      Guarded LiveSocket.step NoLag (.new config sessionId attachmentId)
        (pre ++ .socket (.attach (some bookmark)) :: post) →
      s₂.socket.gone = false → s₂.socket.sending = [] → s₂.socket.rx = s₂.out.channel.length →
      ∀ q, bookmark < q → q < s₂.out.nextSeq → q ∈ outputSeqs s₂.socket.sent := by
  intro h
  have hmem : 4 ∈ [2, 3] := h .default 7 9 beforeAttachRun afterAttachRun 1 _ _ _ Nat.one_pos rfl rfl rfl rfl
    runs_fit (by decide) rfl rfl rfl 4 (by decide) (by decide)
  exact absurd hmem (by decide)

end RelayTerm.Stream
