import RelayTerm.Recording.Writer
/-!
# The writer task and its drain

`writer_task` handles a command twice in the source: once in its main loop, and
once more, copied by hand, in the loop that drains the queue after a `Shutdown`.
Here both are translated as they stand, and the two are compared. `Recording.Writer`
has one account of what a command does; the last section shows that its steps do
what the task does.
-/
open RelayTerm.Lib

namespace RelayTerm.Recording

/-! ## The task -/

/-- A marker's `seq` and a shutdown's `last_seq` are `i64`. -/
inductive WriterCommand (Payload : Type) where
  | output (seq : Nat) (data : Bytes) (gapBefore : Option PendingGap)
  | marker (kind : MarkerKind) (seq : Int) (payload : Payload)
  | shutdown (lastSeq : Int)
  deriving DecidableEq, Repr

/-- The payload of a marker: one the producer handed over, or an object the writer makes. -/
inductive MarkerPayload (Payload : Type) where
  | handed (payload : Payload)
  | replayGap (fromSeq toSeq : Nat) (reason : ReplayGapReason)
  | closed (reason : String)
  deriving DecidableEq, Repr

/-- What `append_chunk` and `append_marker` are called with. -/
inductive Submission (Payload : Type) where
  | chunk (seqStart seqEnd byteLen : Nat) (payload : Bytes)
  | marker (kind : MarkerKind) (seq : Int) (payload : MarkerPayload Payload)
  deriving DecidableEq, Repr

/-- The variables of `writer_task`, and what it has submitted so far with the
repository's answers. -/
structure WriterTask (Payload : Type) where
  batch : Option ChunkBatch
  highestSeqObserved : Nat
  log : List (Submission Payload × Bool)
  deriving DecidableEq, Repr

variable {Payload : Type}

namespace WriterTask

variable (ok : Nat → Bool) (cfg : RecordingWriterConfig) (t : WriterTask Payload)

def submit (row : Submission Payload) : WriterTask Payload := { t with log := t.log ++ [(row, ok t.log.length)] }

/-- `write_marker` goes on whatever the answer. -/
def writeMarker (kind : MarkerKind) (seq : Int) (payload : MarkerPayload Payload) : WriterTask Payload :=
  t.submit ok (.marker kind seq payload)

def writeReplayGap (gap : PendingGap) : WriterTask Payload :=
  if gap.fromSeq > i64Max then t
  else if gap.toSeq > i64Max then t
  else t.writeMarker ok .replayGap (max gap.toSeq 1 : Nat) (.replayGap gap.fromSeq gap.toSeq gap.reason)

/-- `flush_chunk(open.take())`. -/
def flushChunk : WriterTask Payload :=
  match t.batch with
  | none => t
  | some batch =>
    let t := { t with batch := none }
    if batch.payload = [] then t
    else if batch.payload.length > i32Max then t
    else if batch.seqStart > i64Max then t
    else if batch.seqEnd > i64Max then t
    else
      let submitted := t.submit ok (.chunk batch.seqStart batch.seqEnd batch.payload.length batch.payload)
      if ok t.log.length then submitted
      else submitted.writeReplayGap ok ⟨batch.seqStart, batch.seqEnd, .writerError⟩

/-! ### The main loop -/

/-- The `Output` arm of the main loop. -/
def output (seq : Nat) (data : Bytes) (gapBefore : Option PendingGap) : WriterTask Payload :=
  let t := match gapBefore with
    | some gap => (t.flushChunk ok).writeReplayGap ok gap
    | none => t
  if data.length > cfg.chunkHardCapBytes then
    let t := (t.flushChunk ok).writeReplayGap ok ⟨seq, seq, .frameOversized⟩
    { t with highestSeqObserved := max t.highestSeqObserved seq }
  else
    let t := match t.batch with
      | some batch =>
        if batch.wouldOvershootHardCap data.length cfg.chunkHardCapBytes then
          { t.flushChunk ok with batch := some (.open seq data) }
        else { t with batch := some (batch.append seq data) }
      | none => { t with batch := some (.open seq data) }
    let t := match t.batch with
      | some batch => if batch.payload.length ≥ cfg.chunkTargetBytes then t.flushChunk ok else t
      | none => t
    { t with highestSeqObserved := max t.highestSeqObserved seq }

/-- The `Marker` arm of the main loop. -/
def marker (kind : MarkerKind) (seq : Int) (payload : Payload) : WriterTask Payload :=
  let t := (t.flushChunk ok).writeMarker ok kind seq (.handed payload)
  if seq ≥ 0 then { t with highestSeqObserved := max t.highestSeqObserved seq.toNat } else t

/-- What the main loop does with a frame or a marker. -/
def handle : WriterCommand Payload → WriterTask Payload
  | .output seq data gapBefore => t.output ok cfg seq data gapBefore
  | .marker kind seq payload => t.marker ok kind seq payload
  | .shutdown _ => t

/-! ### The drain -/

/-- The `Output` arm of the drain. -/
def drainOutput (seq : Nat) (data : Bytes) (gapBefore : Option PendingGap) : WriterTask Payload :=
  let t := match gapBefore with
    | some gap => (t.flushChunk ok).writeReplayGap ok gap
    | none => t
  if data.length > cfg.chunkHardCapBytes then
    let t := (t.flushChunk ok).writeReplayGap ok ⟨seq, seq, .frameOversized⟩
    { t with highestSeqObserved := max t.highestSeqObserved seq }
  else
    let t := match t.batch with
      | some batch =>
        if batch.wouldOvershootHardCap data.length cfg.chunkHardCapBytes then
          { t.flushChunk ok with batch := some (.open seq data) }
        else { t with batch := some (batch.append seq data) }
      | none => { t with batch := some (.open seq data) }
    -- mirrors the target flush of the main loop
    let t := match t.batch with
      | some batch => if batch.payload.length ≥ cfg.chunkTargetBytes then t.flushChunk ok else t
      | none => t
    { t with highestSeqObserved := max t.highestSeqObserved seq }

/-- The `Marker` arm of the drain: `highest_seq_observed` is left alone. -/
def drainMarker (kind : MarkerKind) (seq : Int) (payload : Payload) : WriterTask Payload :=
  (t.flushChunk ok).writeMarker ok kind seq (.handed payload)

/-- What the drain does with a command; a second `Shutdown` is acknowledged. -/
def drainHandle : WriterCommand Payload → WriterTask Payload
  | .output seq data gapBefore => t.drainOutput ok cfg seq data gapBefore
  | .marker kind seq payload => t.drainMarker ok kind seq payload
  | .shutdown _ => t

/-- Behind the drain: the trailing chunk and the `closed` marker. -/
def finish (lastSeq : Int) : WriterTask Payload :=
  (t.flushChunk ok).writeMarker ok .closed (if lastSeq ≥ 1 then lastSeq else 1) (.closed "session_close")

/-- Every sender was dropped. -/
def abandon : WriterTask Payload :=
  (t.flushChunk ok).writeMarker ok .closed (min (max t.highestSeqObserved 1) i64Max : Nat) (.closed "writer_dropped")

/-- `writer_task` on all the commands that will be in its queue. -/
def writerTask (t : WriterTask Payload) : List (WriterCommand Payload) → WriterTask Payload
  | .shutdown lastSeq :: rest => (rest.foldl (drainHandle ok cfg) t).finish ok lastSeq
  | .output seq data gapBefore :: rest => writerTask (t.output ok cfg seq data gapBefore) rest
  | .marker kind seq payload :: rest => writerTask (t.marker ok kind seq payload) rest
  | [] => t.abandon ok

end WriterTask

def WriterCommand.isShutdown : WriterCommand Payload → Bool
  | .shutdown _ => true
  | _ => false

/-! ## The drain against the main loop -/

namespace WriterTask

/-- The tasks differ at most in the highest seq they have observed. -/
structure Alike (t u : WriterTask Payload) : Prop where
  batch : t.batch = u.batch
  log : t.log = u.log

variable {ok : Nat → Bool} {cfg : RecordingWriterConfig} {t u : WriterTask Payload}

theorem Alike.observe (h : t.Alike u) (seq seq' : Nat) :
    Alike { t with highestSeqObserved := seq } { u with highestSeqObserved := seq' } := ⟨h.batch, h.log⟩

theorem Alike.rebatch (h : t.Alike u) (batch : Option ChunkBatch) :
    Alike { t with batch := batch } { u with batch := batch } := ⟨rfl, h.log⟩

theorem Alike.submit (h : t.Alike u) (row : Submission Payload) : (t.submit ok row).Alike (u.submit ok row) where
  batch := h.batch
  log := by unfold WriterTask.submit; rw [h.log]

theorem Alike.writeReplayGap (h : t.Alike u) (gap : PendingGap) :
    (t.writeReplayGap ok gap).Alike (u.writeReplayGap ok gap) := by
  unfold WriterTask.writeReplayGap
  split_ifs
  · exact h
  · exact h
  · exact h.submit _

theorem Alike.flushChunk (h : t.Alike u) : (t.flushChunk ok).Alike (u.flushChunk ok) := by
  obtain ⟨batch, highest, log⟩ := t
  obtain ⟨_, highest', _⟩ := u
  obtain ⟨rfl, rfl⟩ := h
  cases batch with
  | none => exact ⟨rfl, rfl⟩
  | some batch =>
    have htaken : Alike ⟨none, highest, log⟩ ⟨none, highest', log⟩ := ⟨rfl, rfl⟩
    simp only [WriterTask.flushChunk]
    split_ifs
    · exact htaken
    · exact htaken
    · exact htaken
    · exact htaken
    · exact htaken.submit _
    · exact (htaken.submit _).writeReplayGap _

/-- A batch at its target is flushed from both. -/
theorem Alike.flushAt (h : t.Alike u) (p : Prop) [Decidable p] :
    Alike (if p then t.flushChunk ok else t) (if p then u.flushChunk ok else u) := by
  split
  · exact h.flushChunk
  · exact h

/-- A frame does the same in the drain as in the main loop. -/
theorem Alike.drainOutput_none (h : t.Alike u) (seq : Nat) (data : Bytes) :
    (t.drainOutput ok cfg seq data none).Alike (u.output ok cfg seq data none) := by
  unfold drainOutput output
  dsimp only
  split
  · exact (h.flushChunk.writeReplayGap _).observe _ _
  · apply Alike.observe
    have hbatch := h.batch
    cases hopen : u.batch with
    | none =>
      rw [hopen] at hbatch
      simp only [hbatch]
      exact (h.rebatch _).flushAt _
    | some batch =>
      rw [hopen] at hbatch
      cases hover : batch.wouldOvershootHardCap data.length cfg.chunkHardCapBytes with
      | true =>
        simp only [hbatch, hover, if_true]
        exact (h.flushChunk.rebatch _).flushAt _
      | false =>
        simp only [hbatch, hover, Bool.false_eq_true, if_false]
        exact (h.rebatch _).flushAt _

theorem Alike.drainOutput (h : t.Alike u) (seq : Nat) (data : Bytes) (gapBefore : Option PendingGap) :
    (t.drainOutput ok cfg seq data gapBefore).Alike (u.output ok cfg seq data gapBefore) := by
  cases gapBefore with
  | none => exact h.drainOutput_none seq data
  | some gap => exact (h.flushChunk.writeReplayGap gap).drainOutput_none seq data

theorem Alike.drainMarker (h : t.Alike u) (kind : MarkerKind) (seq : Int) (payload : Payload) :
    (t.drainMarker ok kind seq payload).Alike (u.marker ok kind seq payload) := by
  have hwritten : Alike (t.drainMarker ok kind seq payload)
      ((u.flushChunk ok).writeMarker ok kind seq (.handed payload)) := h.flushChunk.submit _
  unfold WriterTask.marker
  dsimp only
  split
  · exact ⟨hwritten.batch, hwritten.log⟩
  · exact hwritten

theorem Alike.drainHandle (h : t.Alike u) (cmd : WriterCommand Payload) :
    (t.drainHandle ok cfg cmd).Alike (u.handle ok cfg cmd) := by
  cases cmd with
  | output seq data gapBefore => exact h.drainOutput seq data gapBefore
  | marker kind seq payload => exact h.drainMarker kind seq payload
  | shutdown lastSeq => exact h

theorem Alike.drain (h : t.Alike u) (cmds : List (WriterCommand Payload)) :
    (cmds.foldl (WriterTask.drainHandle ok cfg) t).Alike (cmds.foldl (WriterTask.handle ok cfg) u) := by
  induction cmds generalizing t u with
  | nil => exact h
  | cons cmd cmds ih => exact ih (h.drainHandle cmd)

theorem Alike.finish (h : t.Alike u) (lastSeq : Int) : (t.finish ok lastSeq).Alike (u.finish ok lastSeq) :=
  h.flushChunk.submit _

/-- Up to a `Shutdown` the task is in its main loop. -/
theorem writerTask_append (t : WriterTask Payload) {before : List (WriterCommand Payload)}
    (hbefore : ∀ cmd ∈ before, cmd.isShutdown = false) (rest : List (WriterCommand Payload)) :
    t.writerTask ok cfg (before ++ rest) = (before.foldl (handle ok cfg) t).writerTask ok cfg rest := by
  induction before generalizing t with
  | nil => rfl
  | cons cmd before ih =>
    have hrest : ∀ cmd ∈ before, cmd.isShutdown = false := fun cmd hcmd => hbefore cmd (List.mem_cons_of_mem _ hcmd)
    have hcmd := hbefore cmd List.mem_cons_self
    cases cmd with
    | output seq data gapBefore => exact ih (t.output ok cfg seq data gapBefore) hrest
    | marker kind seq payload => exact ih (t.marker ok kind seq payload) hrest
    | shutdown lastSeq => cases hcmd

/-- **The drain behaves like the main loop.** From any open batch, with frames
and markers queued before and behind a `Shutdown`, and whichever of its calls
fail, the task submits what the main loop submits on all of them, and then the
trailing chunk and the `closed` marker. A second `Shutdown` changes nothing. -/
theorem drain_as_loop (ok : Nat → Bool) (cfg : RecordingWriterConfig) (t : WriterTask Payload)
    (before behind : List (WriterCommand Payload)) (lastSeq : Int)
    (hbefore : ∀ cmd ∈ before, cmd.isShutdown = false) :
    (t.writerTask ok cfg (before ++ .shutdown lastSeq :: behind)).log =
      (((before ++ behind).foldl (handle ok cfg) t).finish ok lastSeq).log := by
  rw [writerTask_append t hbefore, List.foldl_append]
  have hloop : (before.foldl (handle ok cfg) t).Alike (before.foldl (handle ok cfg) t) := ⟨rfl, rfl⟩
  exact ((hloop.drain behind).finish lastSeq).log

/-- The two frames behind the shutdown reach the target of four bytes, and the
first repository call fails. -/
theorem drain_as_loop_burst :
    ((⟨some ⟨1, 1, [10]⟩, 1, []⟩ : WriterTask Unit).writerTask (fun n => n ≠ 0) ⟨4, 8⟩
      ([.marker .resized 1 ()] ++ .shutdown 3 :: [.output 2 [20, 21] none, .output 3 [30, 31] none])).log =
        [(.chunk 1 1 1 [10], false), (.marker .replayGap 1 (.replayGap 1 1 .writerError), true),
          (.marker .resized 1 (.handed ()), true), (.chunk 2 3 4 [20, 21, 30, 31], true),
          (.marker .closed 3 (.closed "session_close"), true)] := by
  rw [drain_as_loop _ _ _ _ _ _ (by decide)]
  rfl

end WriterTask

/-! ## The steps of the writer do what the task does -/

def Command.task : Command → WriterCommand JsonObject
  | .output seq data gapBefore => .output seq data gapBefore
  | .marker kind seq payload => .marker kind seq payload
  | .shutdown lastSeq => .shutdown lastSeq

def Submission.row : Submission JsonObject → Row
  | .chunk seqStart seqEnd byteLen payload => .chunk seqStart seqEnd byteLen payload
  | .marker kind seq (.handed payload) => .marker kind seq.toNat payload
  | .marker _ _ (.replayGap fromSeq toSeq reason) => .replayGap ⟨fromSeq, toSeq, reason⟩
  | .marker kind seq (.closed reason) => .marker kind seq.toNat [("reason", .str reason)]

namespace WriterTask

variable {ok : Nat → Bool} {cfg : RecordingWriterConfig}

/-- What the task has submitted, as the rows of `Recording.Writer`. -/
def rows (t : WriterTask JsonObject) : Log := t.log.map fun e => (e.1.row, e.2)

variable (t : WriterTask JsonObject)

theorem rows_submit (row : Submission JsonObject) : (t.submit ok row).rows = t.rows.submit ok row.row := by
  simp [rows, submit, Log.submit]

theorem rows_writeReplayGap (gap : PendingGap) :
    (t.writeReplayGap ok gap).rows = Recording.writeReplayGap ok t.rows gap := by
  unfold writeReplayGap Recording.writeReplayGap
  split_ifs
  · rfl
  · rfl
  · exact rows_submit t _

theorem rows_flushChunk : (t.flushChunk ok).rows = (flushCalls t.batch).foldl (Call.perform ok) t.rows := by
  obtain ⟨batch, highest, log⟩ := t
  cases batch with
  | none => rfl
  | some batch =>
    show _ = Recording.flushChunk ok (rows ⟨some batch, highest, log⟩) batch
    have hlen : (rows ⟨some batch, highest, log⟩).length = log.length := List.length_map ..
    simp only [flushChunk, Recording.flushChunk, hlen]
    split_ifs
    · rfl
    · rfl
    · rfl
    · rfl
    · exact rows_submit _ _
    · rw [rows_writeReplayGap, rows_submit]
      rfl

/-- From `t` to `u` the task makes the calls and is left with the batch. -/
structure Makes (ok : Nat → Bool) (t u : WriterTask JsonObject) (done : List Call × Option ChunkBatch) : Prop where
  rows : u.rows = done.1.foldl (Call.perform ok) t.rows
  batch : u.batch = done.2
  highest : u.highestSeqObserved = t.highestSeqObserved

variable {t} {u v : WriterTask JsonObject} {done done' : List Call × Option ChunkBatch}

theorem Makes.trans (h : Makes ok t u done) (h' : Makes ok u v done') : Makes ok t v (done.1 ++ done'.1, done'.2) where
  rows := by rw [h'.rows, h.rows, List.foldl_append]
  batch := h'.batch
  highest := h'.highest.trans h.highest

theorem Makes.rebatch (h : Makes ok t u done) (batch : Option ChunkBatch) :
    Makes ok t { u with batch := batch } (done.1, batch) := ⟨h.rows, rfl, h.highest⟩

theorem makes_writeReplayGap (ok : Nat → Bool) (t : WriterTask JsonObject) (gap : PendingGap) :
    Makes ok t (t.writeReplayGap ok gap) ([.writeReplayGap gap], t.batch) := by
  have hframe : (t.writeReplayGap ok gap).batch = t.batch ∧
      (t.writeReplayGap ok gap).highestSeqObserved = t.highestSeqObserved := by
    unfold writeReplayGap
    split_ifs <;> exact ⟨rfl, rfl⟩
  exact ⟨rows_writeReplayGap t gap, hframe.1, hframe.2⟩

theorem makes_flushChunk (ok : Nat → Bool) (t : WriterTask JsonObject) :
    Makes ok t (t.flushChunk ok) (flushCalls t.batch, none) := by
  have hframe : (t.flushChunk ok).batch = none ∧ (t.flushChunk ok).highestSeqObserved = t.highestSeqObserved := by
    obtain ⟨batch, highest, log⟩ := t
    cases batch with
    | none => exact ⟨rfl, rfl⟩
    | some batch =>
      have hgap := makes_writeReplayGap ok
        (submit ok (⟨none, highest, log⟩ : WriterTask JsonObject)
          (.chunk batch.seqStart batch.seqEnd batch.payload.length batch.payload))
        ⟨batch.seqStart, batch.seqEnd, .writerError⟩
      simp only [flushChunk]
      split_ifs
      · exact ⟨rfl, rfl⟩
      · exact ⟨rfl, rfl⟩
      · exact ⟨rfl, rfl⟩
      · exact ⟨rfl, rfl⟩
      · exact ⟨rfl, rfl⟩
      · exact ⟨hgap.batch, hgap.highest⟩
  exact ⟨rows_flushChunk t, hframe.1, hframe.2⟩

/-- What is behind the flush of the open batch. -/
theorem makes_dropped (ok : Nat → Bool) (t : WriterTask JsonObject) (gap : PendingGap) :
    Makes ok t ((t.flushChunk ok).writeReplayGap ok gap) (flushCalls t.batch ++ [.writeReplayGap gap], none) := by
  have hgap := makes_writeReplayGap ok (t.flushChunk ok) gap
  rw [(makes_flushChunk ok t).batch] at hgap
  exact (makes_flushChunk ok t).trans hgap

theorem Makes.flushAtTarget (h : Makes ok t u done) (cfg : RecordingWriterConfig) {b : ChunkBatch}
    (hb : done.2 = some b) :
    Makes ok t (if b.payload.length ≥ cfg.chunkTargetBytes then u.flushChunk ok else u)
      (done.1 ++ (Recording.flushAtTarget cfg b).1, (Recording.flushAtTarget cfg b).2) := by
  have hopen : u.batch = some b := h.batch.trans hb
  unfold Recording.flushAtTarget
  split
  · have hflush := makes_flushChunk ok u
    rw [hopen] at hflush
    exact h.trans hflush
  · exact ⟨by simpa using h.rows, hopen, h.highest⟩

/-- The frame behind the gap it carried. -/
theorem makes_output_none (ok : Nat → Bool) (cfg : RecordingWriterConfig) (t : WriterTask JsonObject) (seq : Nat)
    (data : Bytes) :
    ∃ u, Makes ok t u (frameCalls cfg t.batch seq data) ∧
      t.output ok cfg seq data none = { u with highestSeqObserved := max t.highestSeqObserved seq } := by
  have hstay : Makes ok t t ([], t.batch) := ⟨rfl, rfl, rfl⟩
  unfold output frameCalls batchFrame
  dsimp only
  split
  · have hdropped := makes_dropped ok t ⟨seq, seq, .frameOversized⟩
    exact ⟨_, hdropped, by rw [hdropped.highest]⟩
  · cases hopen : t.batch with
    | none =>
      have hflushed := (hstay.rebatch (some (.open seq data))).flushAtTarget cfg rfl
      exact ⟨_, hflushed, by rw [hflushed.highest]⟩
    | some batch =>
      cases hover : batch.wouldOvershootHardCap data.length cfg.chunkHardCapBytes with
      | true =>
        have hflushed := ((makes_flushChunk ok t).rebatch (some (.open seq data))).flushAtTarget cfg rfl
        rw [hopen] at hflushed
        simp only [hover, if_true]
        exact ⟨_, hflushed, by rw [hflushed.highest]⟩
      | false =>
        have hflushed := (hstay.rebatch (some (batch.append seq data))).flushAtTarget cfg rfl
        simp only [hover, Bool.false_eq_true, if_false]
        exact ⟨_, hflushed, by rw [hflushed.highest]⟩

theorem makes_output (ok : Nat → Bool) (cfg : RecordingWriterConfig) (t : WriterTask JsonObject) (seq : Nat)
    (data : Bytes) (gapBefore : Option PendingGap) :
    ∃ u, Makes ok t u (outputCalls cfg t.batch seq data gapBefore) ∧
      t.output ok cfg seq data gapBefore = { u with highestSeqObserved := max t.highestSeqObserved seq } := by
  cases gapBefore with
  | none => exact makes_output_none ok cfg t seq data
  | some gap =>
    have hgap := makes_dropped ok t gap
    obtain ⟨u, hframe, hout⟩ := makes_output_none ok cfg ((t.flushChunk ok).writeReplayGap ok gap) seq data
    rw [hgap.batch] at hframe
    rw [hgap.highest] at hout
    refine ⟨u, ?_, hout⟩
    have hboth := hgap.trans hframe
    rw [List.append_assoc] at hboth
    exact hboth

theorem makes_marker (ok : Nat → Bool) (t : WriterTask JsonObject) (kind : MarkerKind) (seq : Nat)
    (payload : JsonObject) :
    Makes ok t (t.drainMarker ok kind seq payload) (flushCalls t.batch ++ [.writeMarker kind seq payload], none) := by
  have hflush := makes_flushChunk ok t
  refine ⟨?_, hflush.batch, hflush.highest⟩
  rw [List.foldl_append, ← hflush.rows]
  exact rows_submit (t.flushChunk ok) _

/-- The command at hand, in the main loop or in the drain. -/
def handleIn (ok : Nat → Bool) (cfg : RecordingWriterConfig) (mode : Mode) (t : WriterTask JsonObject)
    (cmd : WriterCommand JsonObject) : WriterTask JsonObject :=
  if mode = .running then t.handle ok cfg cmd else t.drainHandle ok cfg cmd

theorem handleIn_running (ok : Nat → Bool) (cfg : RecordingWriterConfig) :
    handleIn ok cfg .running = handle ok cfg := by
  funext t cmd
  exact if_pos rfl

theorem handleIn_draining (ok : Nat → Bool) (cfg : RecordingWriterConfig) (lastSeq : Nat) :
    handleIn ok cfg (.draining lastSeq) = drainHandle ok cfg := by
  funext t cmd
  exact if_neg (by simp)

theorem makes_handleIn (ok : Nat → Bool) (cfg : RecordingWriterConfig) (mode : Mode) (t : WriterTask JsonObject)
    (cmd : Command) :
    ∃ u, Makes ok t u (cmd.calls cfg t.batch) ∧
      t.handleIn ok cfg mode cmd.task = { u with highestSeqObserved := cmd.highest mode t.highestSeqObserved } := by
  cases cmd with
  | output seq data gapBefore =>
    obtain ⟨u, hu, hout⟩ := makes_output ok cfg t seq data gapBefore
    refine ⟨u, hu, ?_⟩
    unfold handleIn
    split
    · exact hout
    · exact hout
  | marker kind seq payload =>
    have hmarker := makes_marker ok t kind seq payload
    refine ⟨_, hmarker, ?_⟩
    unfold handleIn Command.highest
    split
    · rw [← hmarker.highest]
      show marker ok t kind seq payload = _
      unfold marker
      rw [if_pos (Int.natCast_nonneg seq)]
      rfl
    · rw [← hmarker.highest]
      rfl
  | shutdown lastSeq =>
    refine ⟨t, ⟨rfl, rfl, rfl⟩, ?_⟩
    unfold handleIn
    split <;> rfl

/-- The writer is where the task is. -/
structure Mirrors (w : Writer) (t : WriterTask JsonObject) : Prop where
  batch : w.batch = t.batch
  highest : w.highestSeqObserved = t.highestSeqObserved
  log : w.log = t.rows

variable {w : Writer} {cmd : Command} {cmds rest : List Command}

theorem Mirrors.dequeue (h : Mirrors w t) (ok : Nat → Bool) (cfg : RecordingWriterConfig)
    (hmode : ¬ (w.mode = .returning ∨ w.mode = .stopped)) (hqueue : w.queue = cmd :: rest) :
    ∃ w', w.step ok cfg .dequeue = some w' ∧ w'.queue = rest ∧ w'.mode = cmd.nextMode w.mode ∧
      Mirrors w' (t.handleIn ok cfg w.mode cmd.task) := by
  obtain ⟨u, hu, hhandled⟩ := makes_handleIn ok cfg w.mode t cmd
  have hstep : w.step ok cfg .dequeue = some { w.perform ok (w.calls cfg .dequeue) with
      queue := rest
      batch := (cmd.calls cfg w.batch).2
      highestSeqObserved := cmd.highest w.mode w.highestSeqObserved
      mode := cmd.nextMode w.mode } := by
    unfold Writer.step
    rw [if_neg hmode, hqueue]
  refine ⟨_, hstep, rfl, rfl, ?_⟩
  rw [hhandled]
  refine ⟨?_, ?_, ?_⟩
  · show (cmd.calls cfg w.batch).2 = u.batch
    rw [h.batch, hu.batch]
  · show cmd.highest w.mode w.highestSeqObserved = cmd.highest w.mode t.highestSeqObserved
    rw [h.highest]
  · show (w.calls cfg .dequeue).foldl (Call.perform ok) w.log = u.rows
    rw [hu.rows, ← h.log, ← h.batch]
    unfold Writer.calls
    rw [hqueue]

/-- As long as the commands leave its mode alone, the writer takes them as that mode does. -/
theorem Mirrors.dequeues (h : Mirrors w t) (ok : Nat → Bool) (cfg : RecordingWriterConfig)
    (hmode : ¬ (w.mode = .returning ∨ w.mode = .stopped))
    (hqueue : w.queue = cmds ++ rest) (hcmds : ∀ cmd ∈ cmds, cmd.nextMode w.mode = w.mode) :
    ∃ w', run (Writer.step ok cfg) w (List.replicate cmds.length .dequeue) = some w' ∧ w'.queue = rest ∧
      w'.mode = w.mode ∧ Mirrors w' ((cmds.map Command.task).foldl (handleIn ok cfg w.mode) t) := by
  induction cmds generalizing w t with
  | nil => exact ⟨w, rfl, hqueue, rfl, h⟩
  | cons cmd cmds ih =>
    obtain ⟨v, hstep, hvqueue, hvmode, hv⟩ := h.dequeue ok cfg hmode hqueue
    rw [hcmds cmd List.mem_cons_self] at hvmode
    rw [← hvmode] at hmode hcmds
    obtain ⟨w', hrun, hw'⟩ := ih hv hmode hvqueue fun cmd hcmd => hcmds cmd (List.mem_cons_of_mem _ hcmd)
    rw [hvmode] at hw'
    exact ⟨w', run_cons.2 ⟨v, hstep, hrun⟩, hw'⟩

theorem nextMode_running (hcmd : cmd.isShutdown = false) : cmd.nextMode .running = .running := by
  cases cmd with
  | output | marker => rfl
  | shutdown => cases hcmd

theorem nextMode_draining (lastSeq : Nat) : cmd.nextMode (.draining lastSeq) = .draining lastSeq := by
  cases cmd <;> rfl

theorem isShutdown_task (hcmds : ∀ cmd ∈ cmds, cmd.isShutdown = false) :
    ∀ cmd ∈ cmds.map Command.task, cmd.isShutdown = false := by
  rw [List.forall_mem_map]
  intro cmd hcmd
  have hnot := hcmds cmd hcmd
  cases cmd with
  | output | marker => rfl
  | shutdown => cases hnot

theorem toNat_closeSeq (lastSeq : Nat) :
    (if (lastSeq : Int) ≥ 1 then (lastSeq : Int) else 1).toNat = closeSeq lastSeq := by
  unfold closeSeq
  split_ifs <;> omega

theorem Mirrors.finish (h : Mirrors w t) (ok : Nat → Bool) (cfg : RecordingWriterConfig) {lastSeq : Nat}
    (hmode : w.mode = .draining lastSeq) (hqueue : w.queue = []) :
    ∃ w', w.step ok cfg .finish = some w' ∧ w'.log = (t.finish ok lastSeq).rows := by
  refine ⟨{ w.perform ok (w.calls cfg .finish) with batch := none, mode := .returning }, ?_, ?_⟩
  · unfold Writer.step
    rw [hmode, hqueue]
  · show (w.calls cfg .finish).foldl (Call.perform ok) w.log = _
    unfold Writer.calls
    rw [hmode, h.log, h.batch, List.foldl_append, ← rows_flushChunk]
    show ((t.flushChunk ok).rows.submit ok (.marker .closed (closeSeq lastSeq) _)) = _
    rw [← toNat_closeSeq]
    exact (rows_submit (t.flushChunk ok)
      (.marker .closed (if (lastSeq : Int) ≥ 1 then lastSeq else 1) (.closed "session_close"))).symm

/-- On a queue with a shutdown in it, the writer takes command after command and
finishes with what the task has submitted. -/
theorem Mirrors.writerTask (h : Mirrors w t) (ok : Nat → Bool) (cfg : RecordingWriterConfig)
    (hmode : w.mode = .running) {lastSeq : Nat} (hqueue : w.queue = cmds ++ .shutdown lastSeq :: rest)
    (hcmds : ∀ cmd ∈ cmds, cmd.isShutdown = false) :
    ∃ w', run (Writer.step ok cfg) w (List.replicate w.queue.length .dequeue ++ [.finish]) = some w' ∧
      w'.log = (t.writerTask ok cfg (w.queue.map Command.task)).rows := by
  have hkeep : ∀ cmd ∈ cmds, cmd.nextMode w.mode = w.mode := by
    intro cmd hcmd
    rw [hmode]
    exact nextMode_running (hcmds cmd hcmd)
  obtain ⟨v, hbefore, hvqueue, hvmode, hv⟩ := h.dequeues ok cfg (by simp [hmode]) hqueue hkeep
  rw [hmode] at hvmode hv
  obtain ⟨x, hshutdown, hxqueue, hxmode, hx⟩ := hv.dequeue ok cfg (by simp [hvmode]) hvqueue
  rw [hvmode] at hxmode hx
  replace hxmode : x.mode = .draining lastSeq := hxmode
  have hstay : ∀ cmd ∈ rest, cmd.nextMode x.mode = x.mode := by
    intro cmd hcmd
    rw [hxmode]
    exact nextMode_draining lastSeq
  obtain ⟨y, hbehind, hyqueue, hymode, hy⟩ :=
    hx.dequeues ok cfg (by simp [hxmode]) (hxqueue.trans (List.append_nil rest).symm) hstay
  rw [hxmode] at hy
  obtain ⟨w', hfinish, hlog⟩ := hy.finish ok cfg (hymode.trans hxmode) hyqueue
  refine ⟨w', ?_, ?_⟩
  · rw [hqueue, List.length_append, List.length_cons, Nat.add_comm rest.length, ← Nat.add_assoc,
      List.replicate_add, List.replicate_add]
    refine run_append.2 ⟨y, run_append.2 ⟨x, run_append.2 ⟨v, hbefore, ?_⟩, hbehind⟩, ?_⟩
    · exact run_cons.2 ⟨x, hshutdown, rfl⟩
    · exact run_cons.2 ⟨w', hfinish, rfl⟩
  · rw [hlog, hqueue, List.map_append, writerTask_append t (isShutdown_task hcmds), handleIn_running, handleIn_draining]
    rfl

end WriterTask

end RelayTerm.Recording
