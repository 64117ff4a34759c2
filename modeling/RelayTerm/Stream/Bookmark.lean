import RelayTerm.Stream.Client
/-!
# The resume bookmark is sound end to end

The client keeps only a maximum, so a sequence number below its bookmark is
lost for good unless it was delivered or announced as lost. What the client
knows is a `View`; a frame is in order for a view when it leaves no hole. Every
frame in flight is in order for the view the frames before it will produce, as
long as the server neither overtakes the `Attach` frame of a resumed socket
with a live frame that leaves a hole, nor skips frames when its receiver lags.
-/
open RelayTerm.Lib

namespace RelayTerm.Stream

/-! ## What the client knows -/

/-- The bookmark, the numbers delivered, and the ranges announced as lost. -/
structure View where
  lastSeenSeq : Nat
  delivered : List Nat
  announced : List (Nat × Nat)
  deriving DecidableEq, Repr

def Client.view (c : Client) : View := ⟨c.lastSeenSeq, c.delivered, c.announced⟩

/-- What a frame adds to the view. -/
def View.see (v : View) : ServerFrame → View
  | .binary seq _ => { v with lastSeenSeq := max v.lastSeenSeq seq, delivered := v.delivered ++ [seq] }
  | .text (.output seq _) => { v with lastSeenSeq := max v.lastSeenSeq seq, delivered := v.delivered ++ [seq] }
  | .text (.replayEnd latest) => { v with lastSeenSeq := max v.lastSeenSeq latest }
  | .text (.replayWindowLost requested _ latest) =>
    { v with lastSeenSeq := max v.lastSeenSeq latest, announced := v.announced ++ [(requested, latest)] }
  | .text _ => v

/-- The view once the frames have arrived. -/
def View.seeAll (v : View) (frames : List ServerFrame) : View := frames.foldl View.see v

variable {v : View} {frames frames' : List ServerFrame} {frame : ServerFrame} {c : Client}

@[simp] theorem seeAll_nil : v.seeAll [] = v := rfl

@[simp] theorem seeAll_cons : v.seeAll (frame :: frames) = (v.see frame).seeAll frames := rfl

@[simp] theorem seeAll_append : v.seeAll (frames ++ frames') = (v.seeAll frames).seeAll frames' := List.foldl_append

@[simp] theorem emit_lastSeenSeq (c : Client) (e : ClientEvent) : (c.emit e).lastSeenSeq = c.lastSeenSeq := rfl

@[simp] theorem emit_delivered (c : Client) (e : ClientEvent) :
    (c.emit e).delivered = c.delivered ++ (match e with | .output seq => [seq] | _ => []) := by
  rw [Client.delivered, Client.emit, List.filterMap_append]
  cases e <;> rfl

@[simp] theorem emit_announced (c : Client) (e : ClientEvent) : (c.emit e).announced =
    c.announced ++ (match e with | .replayWindowLost requested _ latest => [(requested, latest)] | _ => []) := by
  rw [Client.announced, Client.emit, List.filterMap_append]
  cases e <;> rfl

@[simp] theorem setState_view (c : Client) (next : TerminalSessionState) : (c.setState next).view = c.view := by
  unfold Client.setState
  split
  · rfl
  · simp only [Client.view, emit_lastSeenSeq, emit_delivered, emit_announced, List.append_nil]
    rfl

@[simp] theorem setState_state (c : Client) (next : TerminalSessionState) : (c.setState next).state = next := by
  unfold Client.setState
  split
  · assumption
  · rfl

@[simp] theorem emit_state (c : Client) (e : ClientEvent) : (c.emit e).state = c.state := rfl

@[simp] theorem see_lastSeenSeq (c : Client) (seq : Nat) : (c.see seq).lastSeenSeq = max c.lastSeenSeq seq := by
  unfold Client.see
  split
  · simp only
    omega
  · omega

@[simp] theorem see_delivered (c : Client) (seq : Nat) : (c.see seq).delivered = c.delivered := by
  unfold Client.see
  split <;> rfl

@[simp] theorem see_announced (c : Client) (seq : Nat) : (c.see seq).announced = c.announced := by
  unfold Client.see
  split <;> rfl

@[simp] theorem see_state (c : Client) (seq : Nat) : (c.see seq).state = c.state := by
  unfold Client.see
  split <;> rfl

/-- An attached client's view follows the frames. -/
theorem onFrame_view (h : c.state ≠ .connecting) (frame : ServerFrame) :
    (c.onFrame frame).view = c.view.see frame := by
  cases frame with
  | binary seq payload => simp [Client.onFrame, Client.onBinary, h, View.see, Client.view]
  | text msg =>
    simp only [Client.onFrame, Client.onMessage, h, if_false]
    cases msg with
    | ack kind => cases kind; simp [View.see, Client.view]
    | error code message => simp only [View.see]; split <;> simp [Client.view]
    | sessionDetached | sessionClosed => rw [setState_view]; simp [View.see, Client.view]
    | _ => simp [View.see, Client.view]

/-- The frame that says the session is attached leaves the view as it is. -/
theorem attachedMsg_view (c : Client) (socket : Socket) : (c.onFrame socket.attachedMsg).view = c.view := by
  simp only [Socket.attachedMsg, Client.onFrame, Client.onMessage]
  split
  · have hset := setState_view { c with attachedIds := some (socket.sessionId, socket.attachmentId) } .attached
    simp only [Client.view, emit_lastSeenSeq, emit_delivered, emit_announced, List.append_nil] at hset ⊢
    exact hset
  · simp [Client.view]

/-- After its first frame a client is not connecting any more. -/
theorem onFrame_state (c : Client) (frame : ServerFrame) : (c.onFrame frame).state ≠ .connecting := by
  by_cases h : c.state = .connecting
  · cases frame with
    | binary seq payload => simp [Client.onFrame, Client.onBinary, h]
    | text msg =>
      simp only [Client.onFrame, Client.onMessage, h, if_true]
      cases msg <;> simp
  · cases frame with
    | binary seq payload => simp [Client.onFrame, Client.onBinary, h]
    | text msg =>
      simp only [Client.onFrame, Client.onMessage, h, if_false]
      cases msg with
      | ack kind => cases kind; simpa using h
      | error code message => simp only; split <;> simpa using h
      | _ => simp [h]

/-! ## Frames in order for a view -/

/-- Every number from the first one delivered up to the bookmark was delivered
or lies in a range announced as lost. -/
def View.Covered (v : View) : Prop :=
  ∀ first ∈ v.delivered.head?, ∀ q, first ≤ q → q ≤ v.lastSeenSeq →
    q ∈ v.delivered ∨ ∃ range ∈ v.announced, range.1 < q ∧ q ≤ range.2

structure View.Sound (v : View) : Prop where
  started : v.delivered = [] ↔ v.lastSeenSeq = 0
  covered : v.Covered

/-- The frame leaves no hole above the bookmark. -/
def View.Accepts (v : View) : ServerFrame → Prop
  | .binary seq _ => 0 < seq ∧ (v.lastSeenSeq = 0 ∨ seq ≤ v.lastSeenSeq + 1)
  | .text (.output seq _) => 0 < seq ∧ (v.lastSeenSeq = 0 ∨ seq ≤ v.lastSeenSeq + 1)
  | .text (.replayEnd latest) => latest ≤ v.lastSeenSeq
  | .text (.replayWindowLost requested _ _) => 0 < v.lastSeenSeq ∧ requested ≤ v.lastSeenSeq
  | .text _ => True

def View.AcceptsAll : View → List ServerFrame → Prop
  | _, [] => True
  | v, frame :: frames => v.Accepts frame ∧ (v.see frame).AcceptsAll frames

@[simp] theorem acceptsAll_append :
    v.AcceptsAll (frames ++ frames') ↔ v.AcceptsAll frames ∧ (v.seeAll frames).AcceptsAll frames' := by
  induction frames generalizing v with
  | nil => simp [View.AcceptsAll]
  | cons frame frames ih => simp only [List.cons_append, View.AcceptsAll, ih, seeAll_cons, and_assoc]

theorem see_le (v : View) (frame : ServerFrame) : v.lastSeenSeq ≤ (v.see frame).lastSeenSeq := by
  unfold View.see
  split <;> first | exact Nat.le_max_left _ _ | exact Nat.le_refl _

theorem seeAll_le (v : View) (frames : List ServerFrame) : v.lastSeenSeq ≤ (v.seeAll frames).lastSeenSeq := by
  induction frames generalizing v with
  | nil => exact Nat.le_refl _
  | cons frame frames ih => exact Nat.le_trans (see_le v frame) (ih _)

/-- The next number, or the first one ever, keeps the view without a hole. -/
theorem View.Sound.deliver (hv : v.Sound) {seq : Nat} (hpos : 0 < seq)
    (hnext : v.lastSeenSeq = 0 ∨ seq ≤ v.lastSeenSeq + 1) :
    View.Sound { v with lastSeenSeq := max v.lastSeenSeq seq, delivered := v.delivered ++ [seq] } := by
  refine ⟨by simp; omega, fun first hfirst q hlow hhigh => ?_⟩
  simp only at hfirst hhigh ⊢
  rw [List.mem_append, List.mem_singleton]
  cases hdel : v.delivered with
  | nil =>
    have hzero := hv.started.1 hdel
    rw [hdel] at hfirst
    obtain rfl : seq = first := by simpa using hfirst
    exact .inl (.inr (by omega))
  | cons d ds =>
    have hne : v.lastSeenSeq ≠ 0 := fun h => by simp [hv.started.2 h] at hdel
    rw [hdel] at hfirst
    rcases Nat.lt_or_ge v.lastSeenSeq q with hq | hq
    · exact .inl (.inr (by omega))
    · rcases hv.covered first (by rw [hdel]; simpa using hfirst) q hlow hq with h | h
      · exact .inl (.inl (hdel ▸ h))
      · exact .inr h

theorem View.Sound.see (hv : v.Sound) (ha : v.Accepts frame) : (v.see frame).Sound := by
  cases frame with
  | binary seq payload => exact hv.deliver ha.1 ha.2
  | text msg =>
    cases msg with
    | output seq data => exact hv.deliver ha.1 ha.2
    | replayEnd latest =>
      have hsame : v.see (.text (.replayEnd latest)) = v := by
        simp only [View.see, Nat.max_eq_left ha]
      rw [hsame]
      exact hv
    | replayWindowLost requested oldest latest =>
      refine ⟨?_, fun first hfirst q hlow hhigh => ?_⟩
      · have := hv.started
        simp only [View.see]
        rw [this]
        have := ha.1
        omega
      · simp only [View.see] at hfirst hhigh ⊢
        rcases Nat.lt_or_ge v.lastSeenSeq q with hq | hq
        · exact .inr ⟨(requested, latest), by simp, Nat.lt_of_le_of_lt ha.2 hq, by simp only; omega⟩
        · rcases hv.covered first hfirst q hlow hq with h | ⟨range, hrange, hin⟩
          · exact .inl h
          · exact .inr ⟨range, List.mem_append_left _ hrange, hin⟩
    | _ => exact hv

/-- A replay from a bookmark the view has reached is in order, and takes the
view to the latest number. -/
theorem replay_accepted {frames : List OutputFrame} {bookmark : Nat} (hb : bookmark ≤ v.lastSeenSeq)
    (hnum : Numbered OutputFrame.seq (bookmark + 1) frames) (hfit : ∀ f ∈ frames, f.Fits) :
    v.AcceptsAll (frames.filterMap binaryOutput) ∧
      bookmark + frames.length ≤ (v.seeAll (frames.filterMap binaryOutput)).lastSeenSeq := by
  induction frames generalizing v bookmark with
  | nil => exact ⟨trivial, by simpa using hb⟩
  | cons f frames ih =>
    obtain ⟨hseq, hnum⟩ := hnum
    rw [List.filterMap_cons_some (binaryOutput_fits (hfit f List.mem_cons_self))]
    have hreach : bookmark + 1 ≤ (v.see (.binary f.seq f.data)).lastSeenSeq := by
      simp only [View.see]
      omega
    obtain ⟨hacc, hlen⟩ := ih hreach hnum fun g hg => hfit g (List.mem_cons_of_mem f hg)
    refine ⟨⟨⟨by omega, .inr (by omega)⟩, hacc⟩, ?_⟩
    rw [List.length_cons, seeAll_cons]
    omega

theorem emitReplayRange_accepted {out : LiveOutput} (hring : out.replay.Contiguous) (hfit : out.AllFit)
    {bookmark : Nat} {range : ReplayRange} (hpos : 0 < bookmark)
    (hok : out.replay.replaySince (some bookmark) = .ok range) (hb : bookmark ≤ v.lastSeenSeq) :
    v.AcceptsAll (emitReplayRange range) ∧ range.latestSeq ≤ (v.seeAll (emitReplayRange range)).lastSeenSeq := by
  obtain ⟨hlatest, hmem, hnum, hall⟩ := replaySince_ok hring hpos hok
  obtain ⟨hacc, hlen⟩ := replay_accepted hb hnum fun f hf => hfit.ring f (hmem f hf)
  -- the latest number is the last of the range, or not after the bookmark
  have hreach : range.latestSeq ≤ (v.seeAll (range.frames.filterMap binaryOutput)).lastSeenSeq := by
    rcases Nat.lt_or_ge bookmark range.latestSeq with hlt | hge
    · have := hnum.mem_map.1 ((hall range.latestSeq).2 ⟨hlt, Nat.le_of_eq hlatest⟩)
      omega
    · omega
  unfold emitReplayRange
  cases hframes : range.frames with
  | nil =>
    rw [hframes] at hreach
    exact ⟨trivial, hreach⟩
  | cons f frames =>
    rw [hframes] at hacc hreach
    rw [List.head?_cons, List.getLast?_cons]
    simp only [acceptsAll_append, List.cons_append, View.AcceptsAll, seeAll_append, seeAll_cons, seeAll_nil]
    exact ⟨⟨trivial, hacc, hreach, trivial⟩, Nat.le_max_right _ _⟩

/-! ## The link keeps its promise -/

/-- The frames the client has still to receive, or the socket still to send. -/
def Link.inFlight (s : Link) : List ServerFrame := s.live.socket.sent.drop s.received ++ s.live.socket.sending

/-- The client's view once everything in flight has arrived. -/
def Link.expected (s : Link) : View := s.client.view.seeAll s.inFlight

/-- The client resumes on this socket and its `Attach` frame has not been handled. -/
def Link.handshakePending (s : Link) : Bool := s.attachFrame.isSome && !s.live.socket.replayHandshakeDone

/-- The condition on reading the broadcast. While the `Attach` frame of a
resumed socket is pending, a live frame goes out only if it is at most one past
what the client has been sent; otherwise the channel still holds every frame
the client has not been sent, once it has been sent any. -/
def Link.ResumeOk (s : Link) : LinkEvent → Prop
  | .server (.socket .recv) =>
    (s.handshakePending = true → s.live.out.channel.length ≤ s.live.socket.rx + attachmentFanoutCapacity →
      ∀ frame ∈ s.live.out.channel[s.live.socket.rx]?, frame.seq ≤ s.expected.lastSeenSeq + 1) ∧
    (s.handshakePending = false → s.expected.lastSeenSeq = 0 ∨
      s.live.out.channel.length ≤ s.expected.lastSeenSeq + attachmentFanoutCapacity)
  | _ => True

instance (s : Link) : (e : LinkEvent) → Decidable (s.ResumeOk e)
  | .receive | .reattach _ | .server (.forwarder _) | .server (.socket .subscribe) | .server (.socket .acknowledge)
  | .server (.socket (.attach _)) | .server (.socket .send) | .server (.socket .hangup) => isTrue trivial
  | .server (.socket .recv) => inferInstanceAs (Decidable ((_ → _ → _) ∧ (_ → _)))

/-- The first frame of a socket is its acknowledgement; nothing else is sent
before, and the client is connecting until it has it. -/
structure Link.Shape (s : Link) : Prop where
  received : s.received ≤ s.live.socket.sent.length
  connecting : s.client.state = .connecting → s.received = 0
  first : ∀ frame ∈ s.live.socket.sent.head?, frame = s.live.socket.attachedMsg
  unacknowledged : s.live.socket.phase = .attaching ∨ s.live.socket.phase = .subscribed →
    s.live.socket.sent = [] ∧ s.live.socket.sending = [] ∧ s.live.socket.replayHandshakeDone = false
  acknowledged : s.live.socket.phase = .looping ∨ s.live.socket.sending ≠ [] → s.live.socket.sent ≠ []

/-- Everything in flight is in order for the client, and neither the floor nor,
after the handshake, the receiver is ahead of what the client will have. -/
structure Link.Promise (s : Link) : Prop where
  view : s.client.view.Sound
  inOrder : s.client.view.AcceptsAll s.inFlight
  bookmark : ∀ b ∈ s.attachFrame, 0 < b ∧ b ≤ s.client.lastSeenSeq
  fresh : s.attachFrame = none → s.live.socket.phase = .attaching ∨ s.live.socket.phase = .subscribed →
    s.client.lastSeenSeq = 0
  floor : s.live.socket.gone = false → s.live.socket.minLiveSeq ≤ s.expected.lastSeenSeq
  caughtUp : s.live.socket.gone = false → s.handshakePending = false →
    s.expected.lastSeenSeq = 0 ∨ s.live.socket.rx ≤ s.expected.lastSeenSeq

variable {s s' : Link} {socket : Socket}

/-- The link with its socket task one step further. -/
def Link.withSocket (s : Link) (socket : Socket) : Link := { s with live := { s.live with socket } }

theorem socket_shape {e : SocketEvent} (h : SocketStep s.live.out s.live.socket e socket) (hs : s.Shape) :
    (s.withSocket socket).Shape := by
  obtain ⟨hreceived, hconnecting, hfirst, hunack, hack⟩ := hs
  -- a frame that goes out after the acknowledgement leaves the first one in place
  have later : ∀ msg, s.live.socket.sent ≠ [] →
      ∀ frame ∈ (s.live.socket.sent ++ [msg]).head?, frame = s.live.socket.attachedMsg := by
    intro msg hne frame hframe
    rw [List.head?_append_of_ne_nil _ hne] at hframe
    exact hfirst frame hframe
  cases h with
  | subscribed hphase => exact ⟨hreceived, hconnecting, hfirst, fun _ => hunack (.inl hphase), by
      simpa [Link.withSocket] using fun h => hack (.inr h)⟩
  | acknowledged hphase =>
    obtain ⟨hsent, hsending, -⟩ := hunack (.inr hphase)
    refine ⟨?_, hconnecting, ?_, by simp [Link.withSocket], by simp [Link.withSocket]⟩
    · simp only [Link.withSocket, hsent] at hreceived ⊢
      simp at hreceived
      omega
    · simp [Link.withSocket, hsent, Socket.attachedMsg]
  | unacknowledged => exact ⟨hreceived, hconnecting, hfirst, by simp [Link.withSocket], by
      simpa [Link.withSocket] using fun h => hack (.inr h)⟩
  | attachedAgain _ hphase | noBookmark _ hphase | replayed _ _ hphase | windowLost _ _ hphase =>
    exact ⟨hreceived, hconnecting, hfirst, by simp [Link.withSocket, hphase], fun _ => hack (.inl hphase)⟩
  | lagged _ hphase | skipped _ hphase =>
    exact ⟨hreceived, hconnecting, hfirst, by simp [Link.withSocket, hphase], fun _ => hack (.inl hphase)⟩
  | undelivered _ hphase =>
    exact ⟨hreceived, hconnecting, hfirst, by simp [Link.withSocket], fun _ => hack (.inl hphase)⟩
  | delivered frame hphase =>
    refine ⟨?_, hconnecting, later _ (hack (.inl hphase)), by simp [Link.withSocket, hphase], by
      simp [Link.withSocket]⟩
    simp only [Link.withSocket, List.length_append]
    omega
  | sent msg rest hsending =>
    have hne := hack (.inr (by simp [hsending]))
    refine ⟨?_, hconnecting, later _ hne, fun hphase => ?_, by simp [Link.withSocket]⟩
    · simp only [Link.withSocket, List.length_append]
      omega
    · simp [(hunack hphase).1] at hne
  | unsent msg rest hsending =>
    have hne := hack (.inr (by simp [hsending]))
    exact ⟨hreceived, hconnecting, hfirst, fun hphase => absurd (hunack hphase).1 hne, fun _ => hne⟩
  | hungUp => exact ⟨hreceived, hconnecting, hfirst, hunack, hack⟩

/-- A socket step that puts frames in flight keeps the promise if they are in
order for what the client will have by then. -/
theorem Link.Promise.extend (hp : s.Promise) (more : List ServerFrame)
    (hin : (s.withSocket socket).inFlight = s.inFlight ++ more) (hacc : s.expected.AcceptsAll more)
    (hphase : socket.phase = .attaching ∨ socket.phase = .subscribed →
      s.live.socket.phase = .attaching ∨ s.live.socket.phase = .subscribed)
    (hfloor : socket.gone = false → socket.minLiveSeq ≤ (s.expected.seeAll more).lastSeenSeq)
    (hcaught : socket.gone = false → (s.withSocket socket).handshakePending = false →
      (s.expected.seeAll more).lastSeenSeq = 0 ∨ socket.rx ≤ (s.expected.seeAll more).lastSeenSeq) :
    (s.withSocket socket).Promise := by
  have hexp : (s.withSocket socket).expected = s.expected.seeAll more := by
    rw [Link.expected, hin, seeAll_append]
    rfl
  refine ⟨hp.view, ?_, hp.bookmark, fun hnone hph => hp.fresh hnone (hphase hph), ?_, ?_⟩
  · rw [hin]
    exact acceptsAll_append.2 ⟨hp.inOrder, hacc⟩
  · rw [hexp]
    exact hfloor
  · rw [hexp]
    exact hcaught

/-- A socket step that puts nothing in flight. -/
theorem Link.Promise.silent (hp : s.Promise) (hsent : socket.sent = s.live.socket.sent)
    (hsending : socket.sending = s.live.socket.sending)
    (hphase : socket.phase = .attaching ∨ socket.phase = .subscribed →
      s.live.socket.phase = .attaching ∨ s.live.socket.phase = .subscribed)
    (hfloor : socket.gone = false → socket.minLiveSeq ≤ s.expected.lastSeenSeq)
    (hcaught : socket.gone = false → (s.withSocket socket).handshakePending = false →
      s.expected.lastSeenSeq = 0 ∨ socket.rx ≤ s.expected.lastSeenSeq) :
    (s.withSocket socket).Promise := by
  refine hp.extend [] ?_ trivial hphase hfloor hcaught
  simp only [Link.inFlight, Link.withSocket, hsent, hsending, List.append_nil]

/-- Frames handed over while nothing else is being sent come after those in flight. -/
theorem inFlight_idle (hidle : s.live.socket.sending = []) : s.inFlight = s.live.socket.sent.drop s.received := by
  rw [Link.inFlight, hidle, List.append_nil]

theorem inFlight_sent (hs : s.Shape) (hidle : s.live.socket.sending = []) (msg : ServerFrame)
    (hsent : socket.sent = s.live.socket.sent ++ [msg]) (hsending : socket.sending = []) :
    (s.withSocket socket).inFlight = s.inFlight ++ [msg] := by
  rw [inFlight_idle hidle, inFlight_idle (s := s.withSocket socket) hsending]
  simp only [Link.withSocket, hsent]
  rw [List.drop_append_of_le_length hs.received]

theorem inFlight_sending (hidle : s.live.socket.sending = []) (hsent : socket.sent = s.live.socket.sent) :
    (s.withSocket socket).inFlight = s.inFlight ++ socket.sending := by
  rw [inFlight_idle hidle]
  simp only [Link.inFlight, Link.withSocket, hsent]

/-- The bookmark of the socket's `Attach` frame is one the client will have passed. -/
theorem Link.Promise.bookmark_le (hp : s.Promise) {b : Nat} (hb : s.attachFrame = some b) :
    b ≤ s.expected.lastSeenSeq :=
  Nat.le_trans (hp.bookmark b hb).2 (seeAll_le s.client.view s.inFlight)

theorem replayed_promise (hp : s.Promise) (hsound : s.live.Sound) (hfit : s.live.out.AllFit)
    {b : Nat} {range : ReplayRange} (hphase : s.live.socket.phase = .looping) (hidle : s.live.socket.sending = [])
    (hdone : s.live.socket.replayHandshakeDone = false) (hframe : s.attachFrame = some b)
    (hok : s.live.out.replay.replaySince (some b) = .ok range) :
    (s.withSocket { s.live.socket with
      replayHandshakeDone := true
      minLiveSeq := max s.live.socket.minLiveSeq range.latestSeq
      sending := emitReplayRange range }).Promise := by
  have hpos := (hp.bookmark b hframe).1
  obtain ⟨hacc, hreach⟩ :=
    emitReplayRange_accepted hsound.inStep.ring hfit hpos hok (hp.bookmark_le hframe)
  have hlatest := (replaySince_ok hsound.inStep.ring hpos hok).1
  refine hp.extend (emitReplayRange range) (inFlight_sending hidle rfl) hacc (by simp [hphase])
    (fun _ => ?_) (fun _ _ => .inr ?_)
  · simp only [hsound.floor hdone]
    omega
  · have := hsound.inside
    have := hsound.inStep.channel_le
    simp only
    omega

theorem windowLost_promise (hp : s.Promise) (hsound : s.live.Sound) {b : Nat} {lost : ReplayWindowLost}
    (hphase : s.live.socket.phase = .looping) (hidle : s.live.socket.sending = [])
    (hdone : s.live.socket.replayHandshakeDone = false) (hframe : s.attachFrame = some b)
    (herr : s.live.out.replay.replaySince (some b) = .error lost) :
    (s.withSocket { s.live.socket with
      replayHandshakeDone := true
      minLiveSeq := max s.live.socket.minLiveSeq lost.latest
      sending := emitReplayWindowLost lost }).Promise := by
  have hpos := (hp.bookmark b hframe).1
  have hle := hp.bookmark_le hframe
  obtain ⟨hrequested, hlatest⟩ := replaySince_lost herr
  refine hp.extend (emitReplayWindowLost lost) (inFlight_sending hidle rfl) ⟨⟨?_, ?_⟩, trivial⟩ (by simp [hphase])
    (fun _ => ?_) (fun _ _ => .inr ?_)
  · omega
  · omega
  · simp only [hsound.floor hdone, emitReplayWindowLost, seeAll_cons, seeAll_nil, View.see]
    omega
  · have := hsound.inside
    have := hsound.inStep.channel_le
    simp only [emitReplayWindowLost, seeAll_cons, seeAll_nil, View.see]
    omega

/-- A live frame above the floor is the next one for the client, or its first. -/
theorem delivered_promise (hp : s.Promise) (hshape : s.Shape) (hsound : s.live.Sound) {frame : OutputFrame}
    (hphase : s.live.socket.phase = .looping) (hidle : s.live.socket.sending = [])
    (hat : s.live.out.channel[s.live.socket.rx]? = some frame)
    (hkept : s.live.out.channel.length ≤ s.live.socket.rx + attachmentFanoutCapacity)
    (hopen : s.live.socket.gone = false) (hok : s.ResumeOk (.server (.socket .recv))) :
    (s.withSocket { s.live.socket with
      rx := s.live.socket.rx + 1
      sent := s.live.socket.sent ++ [.binary frame.seq frame.data] }).Promise := by
  have hseq := hsound.inStep.seq_at hat
  have hnext : s.expected.lastSeenSeq = 0 ∨ frame.seq ≤ s.expected.lastSeenSeq + 1 := by
    cases hpending : s.handshakePending with
    | true => exact .inr (hok.1 hpending hkept frame hat)
    | false =>
      rcases hp.caughtUp hopen hpending with hzero | hle
      · exact .inl hzero
      · exact .inr (by omega)
  refine hp.extend [.binary frame.seq frame.data] (inFlight_sent hshape hidle _ rfl hidle)
    ⟨⟨by omega, hnext⟩, trivial⟩ (by simp [hphase]) (fun _ => ?_) (fun _ _ => .inr ?_)
  · have := hp.floor hopen
    simp only [seeAll_cons, seeAll_nil, View.see]
    omega
  · simp only [seeAll_cons, seeAll_nil, View.see]
    omega

theorem allows_attach {lastSeenSeq : Option Nat} (h : s.allows (.socket (.attach lastSeenSeq)) = true) :
    s.attachFrame = lastSeenSeq := by
  simp only [Link.allows, Bool.and_eq_true, decide_eq_true_eq] at h
  exact h.1.symm

/-- A first socket starts with nothing delivered; a resumed one has its handshake ahead. -/
theorem subscribed_promise (hp : s.Promise) (hshape : s.Shape) (hphase : s.live.socket.phase = .attaching) :
    (s.withSocket { s.live.socket with phase := .subscribed, rx := s.live.out.channel.length }).Promise := by
  obtain ⟨hsent, hsending, hdone⟩ := hshape.unacknowledged (.inl hphase)
  refine hp.silent rfl rfl (fun _ => .inl hphase) hp.floor (fun _ hpending => .inl ?_)
  have hnone : s.attachFrame = none := by simpa [Link.handshakePending, Link.withSocket, hdone] using hpending
  have hzero := hp.fresh hnone (.inl hphase)
  simpa [Link.expected, Link.inFlight, hsent, hsending, Client.view] using hzero

/-- A client attaches without a bookmark only if it has none. -/
theorem noBookmark_promise (hp : s.Promise) (hphase : s.live.socket.phase = .looping)
    (hzero : s.attachFrame.getD 0 = 0) :
    (s.withSocket { s.live.socket with replayHandshakeDone := true }).Promise := by
  have hnone : s.attachFrame = none := by
    cases hb : s.attachFrame with
    | none => rfl
    | some b =>
      have hpos := (hp.bookmark b hb).1
      rw [hb, Option.getD_some] at hzero
      omega
  exact hp.silent rfl rfl (by simp [hphase]) hp.floor
    (fun hopen _ => hp.caughtUp hopen (by simp [Link.handshakePending, hnone]))

theorem socket_promise {e : SocketEvent} (h : SocketStep s.live.out s.live.socket e socket) (hp : s.Promise)
    (hshape : s.Shape) (hsound : s.live.Sound) (hfit : s.live.out.AllFit) (hallow : s.allows (.socket e) = true)
    (hok : s.ResumeOk (.server (.socket e))) : (s.withSocket socket).Promise := by
  cases h with
  | subscribed hphase => exact subscribed_promise hp hshape hphase
  | acknowledged hphase =>
    have hidle := (hshape.unacknowledged (.inr hphase)).2.1
    exact hp.extend [s.live.socket.attachedMsg] (inFlight_sent hshape hidle _ rfl hidle) ⟨trivial, trivial⟩
      (by simp) hp.floor hp.caughtUp
  | unacknowledged =>
    exact hp.silent rfl rfl (by simp) hp.floor hp.caughtUp
  | attachedAgain lastSeenSeq _ _ done => simp [Link.allows, done] at hallow
  | noBookmark lastSeenSeq hphase idle done zero =>
    exact noBookmark_promise hp hphase (allows_attach hallow ▸ zero)
  | replayed b range hphase idle done pos ok =>
    exact replayed_promise hp hsound hfit hphase idle done (allows_attach hallow) ok
  | windowLost b lost hphase idle done pos err =>
    exact windowLost_promise hp hsound hphase idle done (allows_attach hallow) err
  | lagged missed hphase idle lag =>
    refine hp.silent rfl rfl (by simp [hphase]) hp.floor
      (fun _ hpending => ?_)
    rcases hok.2 hpending with hzero | hle
    · exact .inl hzero
    · refine .inr ?_
      simp only [Socket.recv, (recv_lagged lag).2]
      omega
  | skipped frame hphase idle at_ kept skip =>
    have hseq := hsound.inStep.seq_at at_
    have hskip := hfit.skipped at_ skip
    refine hp.silent rfl rfl (by simp [hphase]) hp.floor
      (fun hopen _ => .inr ?_)
    have := hp.floor hopen
    simp only
    omega
  | delivered frame hphase idle at_ kept above fits open_ =>
    exact delivered_promise hp hshape hsound hphase idle at_ kept open_ hok
  | undelivered frame hphase idle at_ kept gone =>
    exact hp.silent rfl rfl (by simp) hp.floor (by simp [gone])
  | sent msg rest hsending =>
    refine hp.extend [] ?_ trivial id hp.floor hp.caughtUp
    simp only [Link.inFlight, Link.withSocket, hsending, List.append_nil]
    rw [List.drop_append_of_le_length hshape.received, List.append_assoc, List.singleton_append]
  | unsent msg rest hsending gone =>
    -- what was still to be sent is given up; the transport is gone, so nothing follows
    have hin : s.inFlight = (s.withSocket { s.live.socket with sending := [] }).inFlight ++ msg :: rest := by
      simp [Link.inFlight, Link.withSocket, hsending]
    have horder := hp.inOrder
    rw [hin] at horder
    exact ⟨hp.view, (acceptsAll_append.1 horder).1, hp.bookmark, hp.fresh, by simp [Link.withSocket, gone],
      by simp [Link.withSocket, gone]⟩
  | hungUp => exact hp.silent rfl rfl id (by simp) (by simp)

/-! ## Frames that arrive, and new sockets -/

/-- The next frame reaches the client: its view follows. -/
theorem receive_view (hs : s.Shape) {frame : ServerFrame} (h : s.live.socket.sent[s.received]? = some frame) :
    (s.client.onFrame frame).view = s.client.view.see frame := by
  by_cases hconn : s.client.state = .connecting
  · -- the first frame of a socket is its acknowledgement
    rw [hs.connecting hconn, ← List.head?_eq_getElem?] at h
    rw [hs.first frame h, attachedMsg_view]
    rfl
  · exact onFrame_view hconn frame

theorem receive_promise (hp : s.Promise) (hs : s.Shape) {frame : ServerFrame}
    (h : s.live.socket.sent[s.received]? = some frame) :
    Link.Promise { s with client := s.client.onFrame frame, received := s.received + 1 } := by
  have hview := receive_view hs h
  have hlast : (s.client.onFrame frame).lastSeenSeq = (s.client.view.see frame).lastSeenSeq :=
    congrArg View.lastSeenSeq hview
  obtain ⟨hlt, hget⟩ := List.getElem?_eq_some_iff.1 h
  have hin : s.inFlight =
      frame :: Link.inFlight { s with client := s.client.onFrame frame, received := s.received + 1 } := by
    simp only [Link.inFlight]
    rw [List.drop_eq_getElem_cons hlt, hget, List.cons_append]
  have horder := hp.inOrder
  rw [hin] at horder
  have hexp : Link.expected { s with client := s.client.onFrame frame, received := s.received + 1 } = s.expected := by
    simp only [Link.expected, hview]
    rw [hin, seeAll_cons]
  refine ⟨hview ▸ hp.view.see horder.1, ?_, fun b hb => ?_, fun _ hphase => ?_, ?_, ?_⟩
  · rw [hview]
    exact horder.2
  · obtain ⟨hpos, hle⟩ := hp.bookmark b hb
    refine ⟨hpos, ?_⟩
    simp only [hlast]
    exact Nat.le_trans hle (see_le s.client.view frame)
  · simp [(hs.unacknowledged hphase).1] at h
  · rw [hexp]
    exact hp.floor
  · rw [hexp]
    exact hp.caughtUp

theorem attach_view (c : Client) : c.attach.view = c.view := by
  rw [Client.attach, setState_view]
  rfl

theorem reattach_promise (hp : s.Promise) (attachmentId : Nat) : (s.reattach attachmentId).Promise := by
  have hview : (s.reattach attachmentId).client.view = s.client.view := attach_view s.client
  have hlast : (s.reattach attachmentId).client.lastSeenSeq = s.client.lastSeenSeq := congrArg View.lastSeenSeq hview
  refine ⟨hview ▸ hp.view, trivial, fun b hb => ?_, fun hnone _ => ?_, fun _ => Nat.zero_le _,
    fun _ _ => .inr (Nat.zero_le _)⟩
  · simp only [Link.reattach, Client.bookmark] at hb
    split at hb
    · next hpos =>
      obtain rfl := Option.some.inj hb
      exact ⟨hpos, Nat.le_of_eq hlast.symm⟩
    · simp at hb
  · simp only [Link.reattach, Client.bookmark] at hnone
    split at hnone
    · simp at hnone
    · rw [hlast]
      omega

theorem reattach_shape (s : Link) (attachmentId : Nat) : (s.reattach attachmentId).Shape where
  received := Nat.le_refl 0
  connecting _ := rfl
  first := by simp [Link.reattach]
  unacknowledged _ := ⟨rfl, rfl, rfl⟩
  acknowledged := by simp [Link.reattach]

/-! ## Whole runs -/

/-- The chunks taken from the PTY fit in an envelope. -/
def LinkEvent.Fits : LinkEvent → Prop
  | .server e => e.Fits
  | _ => True

structure Link.Inv (s : Link) : Prop where
  sound : s.live.Sound
  fit : s.live.out.AllFit
  shape : s.Shape
  promise : s.Promise

theorem new_inv (config : ReplayBufferConfig) (sessionId attachmentId : Nat) :
    (Link.new config sessionId attachmentId).Inv where
  sound := new_sound config sessionId attachmentId
  fit := new_allFit config
  shape := ⟨Nat.le_refl 0, fun _ => rfl, by simp [Link.new, LiveSocket.new], fun _ => ⟨rfl, rfl, rfl⟩,
    by simp [Link.new, LiveSocket.new]⟩
  promise := by
    have hview : (Link.new config sessionId attachmentId).client.view = ⟨0, [], []⟩ := attach_view {}
    refine ⟨?_, trivial, by simp [Link.new], fun _ _ => rfl, fun _ => Nat.zero_le _, fun _ _ => .inr (Nat.zero_le _)⟩
    rw [hview]
    exact ⟨by simp, by simp [View.Covered]⟩

theorem link_step_inv {e : LinkEvent} (h : s.step e = some s') (hi : s.Inv) (hok : s.ResumeOk e) (hfit : e.Fits) :
    s'.Inv := by
  cases e with
  | server e =>
    simp only [Link.step] at h
    split at h
    · next hallow =>
      obtain ⟨live, hlive, rfl⟩ := Option.map_eq_some_iff.1 h
      have hsound := live_step_sound hlive hi.sound
      have hall := live_step_allFit hlive hfit hi.fit
      rcases live_step_cases hlive with ⟨f, out, rfl, -, rfl⟩ | ⟨f, socket, rfl, hsocket, rfl⟩
      · -- the forwarder touches neither the socket nor the client
        obtain ⟨h1, h2, h3, h4, h5⟩ := hi.shape
        obtain ⟨p1, p2, p3, p4, p5, p6⟩ := hi.promise
        exact ⟨hsound, hall, ⟨h1, h2, h3, h4, h5⟩, ⟨p1, p2, p3, p4, p5, p6⟩⟩
      · exact ⟨hsound, hall, socket_shape hsocket hi.shape,
          socket_promise hsocket hi.promise hi.shape hi.sound hi.fit hallow hok⟩
    · simp at h
  | receive =>
    obtain ⟨frame, hframe, rfl⟩ := Option.map_eq_some_iff.1 h
    have hlt := (List.getElem?_eq_some_iff.1 hframe).1
    exact ⟨hi.sound, hi.fit,
      ⟨hlt, fun hconn => absurd hconn (onFrame_state _ _), hi.shape.first, hi.shape.unacknowledged,
        hi.shape.acknowledged⟩,
      receive_promise hi.promise hi.shape hframe⟩
  | reattach attachmentId =>
    obtain rfl := Option.some.inj h
    exact ⟨⟨hi.sound.inStep, Nat.zero_le _, fun _ => rfl⟩, hi.fit, reattach_shape s attachmentId,
      reattach_promise hi.promise attachmentId⟩

/-- **The resume bookmark is sound end to end**: in every run whose reads of
the broadcast meet `ResumeOk`, over any number of sockets, each number from the
first one delivered up to `lastSeenSeq` was delivered to the client or lies in
a range announced to it as lost. -/
theorem bookmark_sound (config : ReplayBufferConfig) (sessionId attachmentId : Nat) (evs : List LinkEvent)
    (hfit : ∀ e ∈ evs, e.Fits) (hok : Guarded Link.step Link.ResumeOk (.new config sessionId attachmentId) evs)
    (hr : run Link.step (.new config sessionId attachmentId) evs = some s) :
    ∀ first ∈ s.client.delivered.head?, ∀ q, first ≤ q → q ≤ s.client.lastSeenSeq →
      q ∈ s.client.delivered ∨ ∃ range ∈ s.client.announced, range.1 < q ∧ q ≤ range.2 := by
  have hinv := (hok.and_forall hfit).inv Link.Inv (fun s e s' hi hok h => link_step_inv h hi hok.1 hok.2) hr
    (new_inv config sessionId attachmentId)
  exact hinv.promise.view.covered

def serverChunk (bytes : List UInt8) : List LinkEvent := (chunk bytes).map .server

/-- A socket is opened and its acknowledgement arrives. -/
def openRun : List LinkEvent := [.server (.socket .subscribe), .server (.socket .acknowledge), .receive]

/-- Frame 1 arrives live, the socket is given up, and frame 2 comes while the client is away. -/
def awayRun : List LinkEvent :=
  openRun ++ serverChunk [1] ++ [.server (.socket .recv), .receive, .reattach 10] ++ serverChunk [2] ++ openRun

/-- The replay of frame 2 arrives, then frame 3 live. -/
def replayedRun : List LinkEvent :=
  awayRun ++ [.server (.socket (.attach (some 1))), .server (.socket .send), .server (.socket .send),
    .server (.socket .send), .receive, .receive, .receive] ++ serverChunk [3] ++ [.server (.socket .recv), .receive]

theorem bookmark_sound_replayed : ∃ s, run Link.step (.new .default 7 9) replayedRun = some s ∧
    s.client.delivered = [1, 2, 3] ∧ s.client.lastSeenSeq = 3 ∧
    ∀ first ∈ s.client.delivered.head?, ∀ q, first ≤ q → q ≤ s.client.lastSeenSeq →
      q ∈ s.client.delivered ∨ ∃ range ∈ s.client.announced, range.1 < q ∧ q ≤ range.2 :=
  ⟨_, rfl, rfl, rfl, bookmark_sound .default 7 9 replayedRun
    (by simp [replayedRun, awayRun, openRun, serverChunk, chunk, LinkEvent.Fits, Event.Fits, ForwarderEvent.Fits,
      maxPayloadLen])
    (by decide) rfl⟩

/-- Frame 3 is delivered live before the `Attach` frame with bookmark 1 is
handled, and the socket is given up; the next attach passes bookmark 3. -/
def overtakenRun : List LinkEvent :=
  awayRun ++ serverChunk [3] ++ [.server (.socket .recv), .receive, .reattach 11] ++ openRun ++
    [.server (.socket (.attach (some 3)))]

theorem bookmark_unsound : ¬ ∀ (config : ReplayBufferConfig) (sessionId attachmentId : Nat) (evs : List LinkEvent)
    (s : Link), (∀ e ∈ evs, e.Fits) → run Link.step (.new config sessionId attachmentId) evs = some s →
      ∀ first ∈ s.client.delivered.head?, ∀ q, first ≤ q → q ≤ s.client.lastSeenSeq →
        q ∈ s.client.delivered ∨ ∃ range ∈ s.client.announced, range.1 < q ∧ q ≤ range.2 := by
  intro h
  have hfit : ∀ e ∈ overtakenRun, e.Fits := by
    simp [overtakenRun, awayRun, openRun, serverChunk, chunk, LinkEvent.Fits, Event.Fits, ForwarderEvent.Fits,
      maxPayloadLen]
  have hcovered : 2 ∈ [1, 3] ∨ ∃ range ∈ ([] : List (Nat × Nat)), range.1 < 2 ∧ 2 ≤ range.2 :=
    h .default 7 9 overtakenRun _ hfit rfl 1 rfl 2 (by decide) (by decide)
  exact absurd hcovered (by decide)

end RelayTerm.Stream
