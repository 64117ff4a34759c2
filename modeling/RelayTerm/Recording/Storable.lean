import RelayTerm.Recording.Config
import RelayTerm.Recording.Coverage
/-!
# Chunk rows and the table they go to

The size of a chunk row is bounded in three places: the validator has a floor
for `chunk_hard_cap_bytes`, the writer keeps every batch within the cap, and the
table `terminal_recording_chunks` refuses a row over 2 MiB. The rows of a
writer fit the table exactly when its cap does; its markers always fit theirs.
-/
open RelayTerm.Lib

namespace RelayTerm.Recording

/-- A row handed to `append_chunk`. -/
structure ChunkRow where
  seqStart : Nat
  seqEnd : Nat
  byteLen : Nat
  payload : Bytes
  deriving DecidableEq, Repr

/-- The upper bound of `terminal_recording_chunks_byte_len_chk`. -/
def byteLenMax : Nat := 2097152

/-- The CHECK constraints of `terminal_recording_chunks`. -/
structure ChunkRow.Checks (row : ChunkRow) : Prop where
  seqStart : 1 ≤ row.seqStart
  seqEnd : row.seqStart ≤ row.seqEnd
  byteLen : 0 < row.byteLen ∧ row.byteLen ≤ byteLenMax
  payloadLen : row.payload.length = row.byteLen

/-- The chunk row of a submission, whatever the repository answered. -/
def submittedChunk : Row × Bool → Option ChunkRow
  | (.chunk seqStart seqEnd byteLen payload, _) => some ⟨seqStart, seqEnd, byteLen, payload⟩
  | _ => none

def Log.submitted (log : Log) : List ChunkRow := log.filterMap submittedChunk

def Writer.submitted (w : Writer) : List ChunkRow := Log.submitted w.log

def ChunkBatch.chunkRow (b : ChunkBatch) : ChunkRow := ⟨b.seqStart, b.seqEnd, b.payload.length, b.payload⟩

/-- Every chunk row of every run of the writer fits the table: the CHECKs hold,
and the UNIQUE constraint on the session and `seq_start` is never hit. -/
def RecordingWriterConfig.Storable (cfg : RecordingWriterConfig) : Prop :=
  ∀ (ok : Nat → Bool) (evs : List Event) (w : Writer), run (Writer.step ok cfg) .enabled evs = some w →
    w.fed.length ≤ i64Max →
    (∀ row ∈ w.submitted, row.Checks) ∧ (w.submitted.map ChunkRow.seqStart).Nodup

variable {ok : Nat → Bool} {cfg : RecordingWriterConfig} {w w' : Writer} {hist : List Entry}

/-! ## Flushes -/

theorem forall_flushCalls {P : Call → Prop} {batch : Option ChunkBatch} (hb : ∀ b ∈ batch, P (.flushChunk b)) :
    ∀ call ∈ flushCalls batch, P call := by
  intro call hcall
  simp only [flushCalls, List.mem_map, Option.mem_toList] at hcall
  obtain ⟨b, hmem, rfl⟩ := hcall
  exact hb b hmem

/-- A flush and one call more. -/
theorem forall_flushThen {P : Call → Prop} {batch : Option ChunkBatch} {last : Call}
    (hb : ∀ b ∈ batch, P (.flushChunk b)) (hlast : P last) : ∀ call ∈ flushCalls batch ++ [last], P call := by
  intro call hcall
  rcases List.mem_append.1 hcall with hcall | hcall
  · exact forall_flushCalls hb call hcall
  · obtain rfl := List.mem_singleton.1 hcall
    exact hlast

/-- What an abort can meet: the flush and the seal of the drain's end, or a command. -/
theorem forall_doing {P : Call → Prop} (hb : ∀ b ∈ w.batch, P (.flushChunk b))
    (hclosed : ∀ lastSeq payload, P (.writeMarker .closed (closeSeq lastSeq) payload))
    (hcmd : ∀ cmd ∈ w.queue, ∀ call ∈ (cmd.calls cfg w.batch).1, P call) : ∀ call ∈ w.doing cfg, P call := by
  cases hqueue : w.queue with
  | nil =>
    simp only [Writer.doing, hqueue, Writer.calls]
    cases w.mode with
    | draining lastSeq => exact forall_flushThen hb (hclosed lastSeq _)
    | _ => simp
  | cons cmd rest =>
    simp only [Writer.doing, hqueue, Writer.calls]
    exact hcmd cmd (by simp [hqueue])

/-! ## Batches stay within the hard cap -/

/-- The call flushes no batch over the cap. -/
def Call.Capped (cap : Nat) : Call → Prop
  | .flushChunk b => b.payload.length ≤ cap
  | _ => True

/-- Calls within the cap, and an open batch within the cap. -/
def CappedCalls (cap : Nat) (calls : List Call) (batch : Option ChunkBatch) : Prop :=
  (∀ call ∈ calls, call.Capped cap) ∧ ∀ b ∈ batch, b.payload.length ≤ cap

/-- A frame within the cap joins the batch only if the sum is within it. -/
theorem batchFrame_capped {batch : Option ChunkBatch} (seq : Nat) {data : Bytes}
    (hdata : data.length ≤ cfg.chunkHardCapBytes) (hb : ∀ b ∈ batch, b.payload.length ≤ cfg.chunkHardCapBytes) :
    (∀ call ∈ (batchFrame cfg batch seq data).1, call.Capped cfg.chunkHardCapBytes) ∧
      (batchFrame cfg batch seq data).2.payload.length ≤ cfg.chunkHardCapBytes := by
  cases batch with
  | none => exact ⟨by simp [batchFrame], hdata⟩
  | some b =>
    simp only [batchFrame]
    split
    · exact ⟨by simpa [Call.Capped] using hb, hdata⟩
    · next hroom =>
      simp only [ChunkBatch.wouldOvershootHardCap, decide_eq_true_eq] at hroom
      refine ⟨by simp, ?_⟩
      simp only [ChunkBatch.append, List.length_append]
      omega

theorem frameCalls_capped (batch : Option ChunkBatch) (seq : Nat) (data : Bytes)
    (hb : ∀ b ∈ batch, b.payload.length ≤ cfg.chunkHardCapBytes) :
    CappedCalls cfg.chunkHardCapBytes (frameCalls cfg batch seq data).1 (frameCalls cfg batch seq data).2 := by
  unfold frameCalls
  split
  · exact ⟨forall_flushThen hb trivial, by simp⟩
  · next hfits =>
    obtain ⟨hcalls, hjoined⟩ := batchFrame_capped seq (Nat.not_lt.1 hfits) hb
    simp only [flushAtTarget]
    split
    · refine ⟨fun call hcall => ?_, by simp⟩
      rcases List.mem_append.1 hcall with hcall | hcall
      · exact hcalls call hcall
      · obtain rfl := List.mem_singleton.1 hcall
        exact hjoined
    · exact ⟨by simpa using hcalls, by simpa using hjoined⟩

theorem command_capped {batch : Option ChunkBatch} (cmd : Command)
    (hb : ∀ b ∈ batch, b.payload.length ≤ cfg.chunkHardCapBytes) :
    CappedCalls cfg.chunkHardCapBytes (cmd.calls cfg batch).1 (cmd.calls cfg batch).2 := by
  cases cmd with
  | output seq data gapBefore =>
    cases gapBefore with
    | none => exact frameCalls_capped batch seq data hb
    | some gap =>
      obtain ⟨hcalls, hopen⟩ := frameCalls_capped none seq data (by simp)
      refine ⟨fun call hcall => ?_, hopen⟩
      rcases List.mem_append.1 hcall with hcall | hcall
      · exact forall_flushCalls hb call hcall
      · rcases List.mem_cons.1 hcall with rfl | hcall
        · trivial
        · exact hcalls call hcall
  | marker kind seq payload => exact ⟨forall_flushThen hb trivial, by simp [Command.calls]⟩
  | shutdown lastSeq => exact ⟨by simp [Command.calls], hb⟩

/-! ## Rows stay within the hard cap -/

/-- A row with a payload, no larger than the cap. -/
structure ChunkRow.Capped (cap : Nat) (row : ChunkRow) : Prop where
  byteLen : 0 < row.byteLen ∧ row.byteLen ≤ cap
  payloadLen : row.payload.length = row.byteLen

theorem submit_submitted (ok : Nat → Bool) (log : Log) (row : Row) :
    Log.submitted (log.submit ok row) = Log.submitted log ++ (submittedChunk (row, ok log.length)).toList := by
  simp only [Log.submitted, Log.submit, List.filterMap_append]
  cases h : submittedChunk (row, ok log.length) <;> simp [h]

theorem writeReplayGap_submitted (ok : Nat → Bool) (log : Log) (g : PendingGap) :
    Log.submitted (writeReplayGap ok log g) = Log.submitted log := by
  unfold writeReplayGap
  split_ifs
  · rfl
  · rfl
  · simp [submit_submitted, submittedChunk]

/-- A flush submits the row of its batch, if that has a payload, or nothing. -/
theorem flushChunk_submitted (ok : Nat → Bool) (log : Log) (b : ChunkBatch) :
    Log.submitted (flushChunk ok log b) = Log.submitted log ∨
      (b.payload ≠ [] ∧ Log.submitted (flushChunk ok log b) = Log.submitted log ++ [b.chunkRow]) := by
  unfold flushChunk
  split_ifs with hempty hlen hstart hend hok
  · exact .inl rfl
  · exact .inl rfl
  · exact .inl rfl
  · exact .inl rfl
  · exact .inr ⟨hempty, by rw [submit_submitted]; rfl⟩
  · exact .inr ⟨hempty, by rw [writeReplayGap_submitted, submit_submitted]; rfl⟩

theorem perform_capped {cap : Nat} {call : Call} {log : Log} (hcall : call.Capped cap)
    (hlog : ∀ row ∈ Log.submitted log, row.Capped cap) :
    ∀ row ∈ Log.submitted (call.perform ok log), row.Capped cap := by
  cases call with
  | flushChunk b =>
    simp only [Call.perform]
    rcases flushChunk_submitted ok log b with hsame | ⟨hne, hadded⟩
    · rw [hsame]
      exact hlog
    · rw [hadded]
      intro row hrow
      rcases List.mem_append.1 hrow with hrow | hrow
      · exact hlog row hrow
      · obtain rfl := List.mem_singleton.1 hrow
        exact ⟨⟨List.length_pos_iff.2 hne, hcall⟩, rfl⟩
  | writeReplayGap g =>
    simp only [Call.perform, writeReplayGap_submitted]
    exact hlog
  | writeMarker kind seq payload =>
    simpa [Call.perform, submit_submitted, submittedChunk] using hlog

theorem performAll_capped {cap : Nat} {calls : List Call} {log : Log} (hcalls : ∀ call ∈ calls, call.Capped cap)
    (hlog : ∀ row ∈ Log.submitted log, row.Capped cap) :
    ∀ row ∈ Log.submitted (calls.foldl (Call.perform ok) log), row.Capped cap := by
  induction calls generalizing log with
  | nil => exact hlog
  | cons call calls ih =>
    obtain ⟨hcall, hcalls⟩ := List.forall_mem_cons.1 hcalls
    exact ih hcalls (perform_capped hcall hlog)

/-- The rows submitted and the open batch are within the hard cap. -/
structure Writer.Capped (cfg : RecordingWriterConfig) (w : Writer) : Prop where
  rows : ∀ row ∈ w.submitted, row.Capped cfg.chunkHardCapBytes
  batch : ∀ b ∈ w.batch, b.payload.length ≤ cfg.chunkHardCapBytes

theorem submitted_take (log : Log) (n : Nat) : Log.submitted (log.take n) ⊆ Log.submitted log :=
  ((List.take_sublist n log).filterMap submittedChunk).subset

theorem step_capped {e : Event} (hw : w.Capped cfg) (h : w.step ok cfg e = some w') : w'.Capped cfg := by
  cases step_cases h with
  | output data =>
    obtain ⟨gap, hout | ⟨-, hout⟩⟩ := recordOutput_cases cfg { w with fed := w.fed ++ [data] } (w.fed.length + 1) data
    all_goals
      rw [hout]
      exact ⟨hw.rows, hw.batch⟩
  | marker kind seq payload =>
    rcases recordMarker_cases w kind seq payload with hsame | ⟨-, -, hqueued⟩
    · rw [hsame]
      exact hw
    · rw [hqueued]
      exact ⟨hw.rows, hw.batch⟩
  | shutdownGone => exact hw
  | shutdownQueued | exited | sendersDropped => exact ⟨hw.rows, hw.batch⟩
  | dequeued cmd rest hmode hqueue =>
    obtain ⟨hcalls, hopen⟩ := command_capped cmd hw.batch
    have hsame : w.calls cfg .dequeue = (cmd.calls cfg w.batch).1 := by rw [Writer.calls, hqueue]
    exact ⟨performAll_capped (hsame ▸ hcalls) hw.rows, hopen⟩
  | finished lastSeq hmode hqueue =>
    refine ⟨performAll_capped ?_ hw.rows, by simp⟩
    simp only [Writer.calls, hmode]
    exact forall_flushThen hw.batch trivial
  | abandoned hmode hsenders hqueue => exact ⟨performAll_capped (forall_flushThen hw.batch trivial) hw.rows, by simp⟩
  | aborted n hpending =>
    have hdoing : ∀ call ∈ w.doing cfg, call.Capped cfg.chunkHardCapBytes :=
      forall_doing hw.batch (fun _ _ => trivial) fun cmd _ => (command_capped cmd hw.batch).1
    exact ⟨fun row hrow => performAll_capped hdoing hw.rows row (submitted_take _ _ hrow), by simp⟩

theorem run_capped {evs : List Event} (hr : run (Writer.step ok cfg) .enabled evs = some w) : w.Capped cfg :=
  run_inv (Writer.Capped cfg) (fun _ _ _ hw h => step_capped hw h) hr
    ⟨by simp [Writer.submitted, Log.submitted, Writer.enabled], by simp [Writer.enabled]⟩

/-! ## Rows follow each other -/

/-- The batch of an entry that was submitted as a chunk. -/
def Entry.submittedBatch : Entry → Option ChunkBatch
  | .stored b | .failed b _ | .halted b => some b
  | _ => none

theorem submittedBatch_piece (x : Entry) (b : ChunkBatch) (h : x.submittedBatch = some b) : x.piece = .batch b := by
  cases x <;> simp_all [Entry.submittedBatch, Entry.piece]

theorem Timeline.submitted_eq (ht : Timeline w hist) :
    w.submitted = (hist.filterMap Entry.submittedBatch).map ChunkBatch.chunkRow := by
  rw [List.map_filterMap]
  refine ht.filterMap_log (fun row answer hrow => ?_) (fun x => ?_)
  · cases row <;> simp_all [Row.isPiece, submittedChunk]
  · cases x <;> rfl

theorem Timeline.starts_nodup (ht : Timeline w hist) : (w.submitted.map ChunkRow.seqStart).Nodup := by
  obtain ⟨hbounds, hordered⟩ := ht.batches submittedBatch_piece
  rw [ht.submitted_eq, List.map_map, List.Nodup, List.pairwise_map]
  refine hordered.imp_of_mem fun {b b'} hb hb' hlt => ?_
  have := hbounds b hb
  simp only [Function.comp_apply, ChunkBatch.chunkRow, ne_eq]
  omega

/-! ## What the hard cap decides -/

theorem storable_of_cap (hcap : cfg.chunkHardCapBytes ≤ byteLenMax) : cfg.Storable := by
  intro ok evs w hr _
  obtain ⟨hist, ht, -⟩ := run_timeline hr enabled_timeline
  rw [List.nil_append] at ht
  refine ⟨fun row hrow => ?_, ht.starts_nodup⟩
  obtain ⟨hlen, hpayload⟩ := (run_capped hr).rows row hrow
  rw [ht.submitted_eq] at hrow
  obtain ⟨b, hb, rfl⟩ := List.mem_map.1 hrow
  have hbounds := (ht.batches submittedBatch_piece).1 b hb
  exact ⟨hbounds.1, hbounds.2.1, ⟨hlen.1, Nat.le_trans hlen.2 hcap⟩, hpayload⟩

/-- A frame, then a shutdown. -/
def singleFrame (data : Bytes) : List Event :=
  [.dequeue, .output data, .dequeue, .shutdown 1, .dequeue, .finish]

/-- A batch is flushed, now or when what is left open is flushed. -/
theorem flushAtTarget_flushed (cfg : RecordingWriterConfig) (batch : ChunkBatch) :
    (flushAtTarget cfg batch).1 ++ flushCalls (flushAtTarget cfg batch).2 = [.flushChunk batch] := by
  unfold flushAtTarget
  split <;> rfl

/-- The frame is the first, so it has a batch of its own. -/
theorem singleFrame_log {data : Bytes} (hfits : data.length ≤ cfg.chunkHardCapBytes) :
    ∃ w, run (Writer.step (fun _ => true) cfg) .enabled (singleFrame data) = some w ∧ w.fed = [data] ∧
      w.log = Log.submit (fun _ => true) (flushChunk (fun _ => true) [(.marker .started 0 [], true)] (.open 1 data))
        (.marker .closed 1 [("reason", .str "session_close")]) := by
  have hframe : frameCalls cfg none 1 data = flushAtTarget cfg (.open 1 data) := by
    unfold frameCalls
    rw [if_neg (Nat.not_lt.2 hfits)]
    rfl
  have hqueued : ∀ w : Writer, w.recordOutput cfg 1 data = w.trySend 1 data := fun w => if_neg (Nat.not_lt.2 hfits)
  refine ⟨_, run_cons.2 ⟨_, rfl, run_cons.2 ⟨_, congrArg some (hqueued _), run_cons.2 ⟨_, rfl, run_cons.2 ⟨_, rfl,
    run_cons.2 ⟨_, rfl, run_cons.2 ⟨_, rfl, rfl⟩⟩⟩⟩⟩⟩, rfl, ?_⟩
  show (flushCalls (frameCalls cfg none 1 data).2 ++ [_]).foldl _ ((frameCalls cfg none 1 data).1.foldl _ _) = _
  rw [← List.foldl_append, ← List.append_assoc, hframe, flushAtTarget_flushed]
  rfl

/-- A frame within the cap comes out as one row, whether it fills the target or
is flushed by the shutdown. -/
theorem singleFrame_submitted {data : Bytes} (hne : data ≠ []) (hi32 : data.length ≤ i32Max)
    (hfits : data.length ≤ cfg.chunkHardCapBytes) :
    ∃ w, run (Writer.step (fun _ => true) cfg) .enabled (singleFrame data) = some w ∧ w.fed = [data] ∧
      w.submitted = [⟨1, 1, data.length, data⟩] := by
  obtain ⟨w, hr, hfed, hlog⟩ := singleFrame_log hfits
  refine ⟨w, hr, hfed, ?_⟩
  have hflush : ∀ log, flushChunk (fun _ => true) log (.open 1 data) =
      log ++ [(.chunk 1 1 data.length data, true)] := by
    intro log
    unfold flushChunk ChunkBatch.open
    dsimp only
    rw [if_neg hne, if_neg (Nat.not_lt.2 hi32), if_neg (by decide), if_pos rfl]
    rfl
  rw [Writer.submitted, hlog, hflush]
  rfl

theorem cap_of_storable (h : cfg.Storable) : cfg.chunkHardCapBytes ≤ byteLenMax := by
  by_contra hbig
  have hbig := Nat.not_le.1 hbig
  obtain ⟨data, hlen⟩ : ∃ data : Bytes, data.length = byteLenMax + 1 := ⟨List.replicate _ 0, List.length_replicate⟩
  have hne : data ≠ [] := List.length_pos_iff.1 (by omega)
  have hi32 : data.length ≤ i32Max := by
    rw [hlen]
    decide
  obtain ⟨w, hr, hfed, hrows⟩ := singleFrame_submitted hne hi32 (show data.length ≤ cfg.chunkHardCapBytes by omega)
  have hrow : ⟨1, 1, data.length, data⟩ ∈ w.submitted := by simp [hrows]
  have hchecks := (h (fun _ => true) (singleFrame data) w hr (by simp [hfed, i64Max])).1 _ hrow
  have := hchecks.byteLen.2
  simp only at this
  omega

/-- **An accepted configuration gives storable chunks exactly if its hard cap is
within the table's.** The validator bounds `chunk_hard_cap_bytes` from below
only, so the condition is not implied by acceptance. -/
theorem storable_iff {c : Config} (hvalid : c.validateTerminalRecording = .ok ())
    (hbuild : buildRecordingRuntime c = .ok (some cfg)) :
    cfg.Storable ↔ c.terminalRecording.chunkHardCapBytes ≤ byteLenMax := by
  obtain ⟨-, rfl⟩ := buildRecordingRuntime_writer hvalid hbuild
  exact ⟨fun h => cap_of_storable h, fun hcap => storable_of_cap hcap⟩

/-- An enabled dev recording with the given hard cap, everything else as by default. -/
def devRecording (hardCap : Nat) : Config where
  authMode := .dev
  vault := ⟨false, none, none⟩
  terminalRecording := { TerminalRecordingConfig.default with enabled := true, chunkHardCapBytes := hardCap }

theorem storable_default : (devRecording 2097152).validateTerminalRecording = .ok () ∧
    buildRecordingRuntime (devRecording 2097152) = .ok (some .default) ∧ RecordingWriterConfig.default.Storable :=
  ⟨rfl, rfl, (storable_iff (c := devRecording 2097152) rfl rfl).2 (by decide)⟩

/-- A hard cap of 3 MiB is accepted, and a frame of one byte over 2 MiB becomes a
row the table refuses. -/
theorem accepted_not_storable : ¬ ∀ (c : Config) (cfg : RecordingWriterConfig),
    c.validateTerminalRecording = .ok () → buildRecordingRuntime c = .ok (some cfg) → cfg.Storable := by
  intro h
  have hstorable := h (devRecording 3145728) ⟨65536, 3145728⟩ rfl rfl
  have hcap := cap_of_storable hstorable
  exact absurd hcap (by decide)

/-! ## Marker rows -/

/-- `terminal_recording_markers_started_seq_chk`: only `started` may stand at seq 0. -/
def seqChk (kind : MarkerKind) (seq : Nat) : Bool := kind.allowsSeqZero || 1 ≤ seq

theorem seqChk_of_pos {kind : MarkerKind} {seq : Nat} (h : 1 ≤ seq) : seqChk kind seq = true := by
  simp [seqChk, h]

/-- The row passes the check of the markers table, if it goes there. -/
def Row.seqChk : Row → Bool
  | .chunk .. => true
  | .marker kind seq _ => Recording.seqChk kind seq
  | .replayGap gap => Recording.seqChk gap.marker.1 gap.marker.2.1

theorem one_le_closeSeq (lastSeq : Nat) : 1 ≤ closeSeq lastSeq := by
  unfold closeSeq
  split <;> omega

theorem replayGap_seqChk (gap : PendingGap) : (Row.replayGap gap).seqChk = true :=
  seqChk_of_pos (Nat.le_max_right _ _)

def Log.Checked (log : Log) : Prop := ∀ r ∈ log, r.1.seqChk = true

theorem submit_checked {log : Log} {row : Row} (hlog : Log.Checked log) (hrow : row.seqChk = true) :
    Log.Checked (log.submit ok row) := by
  intro r hr
  rcases List.mem_append.1 hr with hr | hr
  · exact hlog r hr
  · obtain rfl := List.mem_singleton.1 hr
    exact hrow

theorem writeReplayGap_checked {log : Log} (gap : PendingGap) (hlog : Log.Checked log) :
    Log.Checked (writeReplayGap ok log gap) := by
  unfold writeReplayGap
  split_ifs
  · exact hlog
  · exact hlog
  · exact submit_checked hlog (replayGap_seqChk gap)

theorem flushChunk_checked {log : Log} (b : ChunkBatch) (hlog : Log.Checked log) :
    Log.Checked (flushChunk ok log b) := by
  unfold flushChunk
  split_ifs
  · exact hlog
  · exact hlog
  · exact hlog
  · exact hlog
  · exact submit_checked hlog rfl
  · exact writeReplayGap_checked _ (submit_checked hlog rfl)

/-- The marker a call writes passes the check. -/
def Call.seqChk : Call → Bool
  | .writeMarker kind seq _ => Recording.seqChk kind seq
  | _ => true

theorem performAll_checked {calls : List Call} {log : Log} (hcalls : ∀ call ∈ calls, call.seqChk = true)
    (hlog : Log.Checked log) : Log.Checked (calls.foldl (Call.perform ok) log) := by
  induction calls generalizing log with
  | nil => exact hlog
  | cons call calls ih =>
    obtain ⟨hcall, hcalls⟩ := List.forall_mem_cons.1 hcalls
    apply ih hcalls
    cases call with
    | flushChunk b => exact flushChunk_checked b hlog
    | writeReplayGap gap => exact writeReplayGap_checked gap hlog
    | writeMarker kind seq payload => exact submit_checked hlog hcall

/-- A queued marker passes the check. -/
def Command.seqChk : Command → Bool
  | .marker kind seq _ => Recording.seqChk kind seq
  | _ => true

/-- The `Output` arm writes no marker but gaps. -/
theorem frameCalls_checked (cfg : RecordingWriterConfig) (batch : Option ChunkBatch) (seq : Nat) (data : Bytes) :
    ∀ call ∈ (frameCalls cfg batch seq data).1, call.seqChk = true := by
  intro call hcall
  unfold frameCalls at hcall
  split at hcall
  · exact forall_flushThen (P := fun c => c.seqChk = true) (fun _ _ => rfl) rfl call hcall
  · rcases List.mem_append.1 hcall with hcall | hcall
    · unfold batchFrame at hcall
      split at hcall
      · split at hcall
        · obtain rfl := List.mem_singleton.1 hcall
          rfl
        · simp at hcall
      · simp at hcall
    · unfold flushAtTarget at hcall
      split at hcall
      · obtain rfl := List.mem_singleton.1 hcall
        rfl
      · simp at hcall

theorem command_checked {cmd : Command} (batch : Option ChunkBatch) (hcmd : cmd.seqChk = true) :
    ∀ call ∈ (cmd.calls cfg batch).1, call.seqChk = true := by
  cases cmd with
  | output seq data gapBefore =>
    cases gapBefore with
    | none => exact frameCalls_checked cfg batch seq data
    | some gap =>
      intro call hcall
      rcases List.mem_append.1 hcall with hcall | hcall
      · exact forall_flushCalls (P := fun c => c.seqChk = true) (fun _ _ => rfl) call hcall
      · rcases List.mem_cons.1 hcall with rfl | hcall
        · rfl
        · exact frameCalls_checked cfg none seq data call hcall
  | marker kind seq payload => exact forall_flushThen (fun _ _ => rfl) hcmd
  | shutdown lastSeq => simp [Command.calls]

/-- The markers in the queue and in the log pass the check. -/
structure Writer.Checked (w : Writer) : Prop where
  queue : ∀ cmd ∈ w.queue, cmd.seqChk = true
  log : Log.Checked w.log

theorem queued_checked {cmd : Command} (hw : w.Checked) (hcmd : cmd.seqChk = true) :
    ∀ c ∈ w.queue ++ [cmd], c.seqChk = true := by
  intro c hc
  rcases List.mem_append.1 hc with hc | hc
  · exact hw.queue c hc
  · obtain rfl := List.mem_singleton.1 hc
    exact hcmd

theorem step_checked {e : Event} (hw : w.Checked) (h : w.step ok cfg e = some w') : w'.Checked := by
  cases step_cases h with
  | output data =>
    obtain ⟨gap, hout | ⟨-, hout⟩⟩ := recordOutput_cases cfg { w with fed := w.fed ++ [data] } (w.fed.length + 1) data
    · rw [hout]
      exact ⟨hw.queue, hw.log⟩
    · rw [hout]
      exact ⟨queued_checked ⟨hw.queue, hw.log⟩ rfl, hw.log⟩
  | marker kind seq payload =>
    rcases recordMarker_cases w kind seq payload with hsame | ⟨-, hzero, hqueued⟩
    · rw [hsame]
      exact hw
    · rw [hqueued]
      refine ⟨queued_checked hw ?_, hw.log⟩
      rcases Nat.eq_zero_or_pos seq with hseq | hseq
      · simp [Command.seqChk, seqChk, hzero hseq]
      · exact seqChk_of_pos hseq
  | shutdownGone => exact hw
  | shutdownQueued => exact ⟨queued_checked hw rfl, hw.log⟩
  | dequeued cmd rest hmode hqueue =>
    have hcmds := hw.queue
    rw [hqueue] at hcmds
    obtain ⟨hcmd, hrest⟩ := List.forall_mem_cons.1 hcmds
    have hsame : w.calls cfg .dequeue = (cmd.calls cfg w.batch).1 := by rw [Writer.calls, hqueue]
    exact ⟨hrest, performAll_checked (hsame ▸ command_checked w.batch hcmd) hw.log⟩
  | finished lastSeq hmode hqueue =>
    refine ⟨hw.queue, performAll_checked ?_ hw.log⟩
    simp only [Writer.calls, hmode]
    exact forall_flushThen (fun _ _ => rfl) (seqChk_of_pos (one_le_closeSeq lastSeq))
  | exited => exact ⟨by simp, hw.log⟩
  | sendersDropped => exact ⟨hw.queue, hw.log⟩
  | abandoned hmode hsenders hqueue =>
    refine ⟨hw.queue, performAll_checked (forall_flushThen (fun _ _ => rfl) ?_) hw.log⟩
    exact seqChk_of_pos (Nat.le_min.2 ⟨Nat.le_max_right _ _, by decide⟩)
  | aborted n hpending =>
    have hdoing : ∀ call ∈ w.doing cfg, call.seqChk = true :=
      forall_doing (fun _ _ => rfl) (fun lastSeq _ => seqChk_of_pos (one_le_closeSeq lastSeq))
        fun cmd hcmd => command_checked w.batch (hw.queue cmd hcmd)
    exact ⟨by simp, fun r hr => performAll_checked hdoing hw.log r (List.mem_of_mem_take hr)⟩

/-- Every marker a writer submits passes the check of the markers table. -/
theorem markers_checked {evs : List Event} (hr : run (Writer.step ok cfg) .enabled evs = some w) :
    Log.Checked w.log :=
  (run_inv Writer.Checked (fun _ _ _ hw h => step_checked hw h) hr
    ⟨by simp [Writer.enabled, Command.seqChk, seqChk, MarkerKind.allowsSeqZero],
      by simp [Writer.enabled, Log.Checked]⟩).log

end RelayTerm.Recording
