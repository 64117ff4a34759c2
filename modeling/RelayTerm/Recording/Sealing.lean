import RelayTerm.Recording.Resize
/-!
# Sealing a recording

`RecordingWriter::shutdown` seals a recording: the task drains its queue, flushes
the trailing chunk and writes the `closed` marker with the number it was given.
Until somebody calls it the writer stays open, whatever else it is handed; once
called, the seal is written unless the deadline passes.
-/
open RelayTerm.Lib

namespace RelayTerm.Recording

/-- The number of a `closed` marker the repository took. -/
def storedClose : Row × Bool → Option Nat
  | (.marker .closed seq _, true) => some seq
  | _ => none

def Writer.closedSeqs (w : Writer) : List Nat := w.log.filterMap storedClose

/-- The last frame is accounted for, and a `closed` marker comes behind every chunk. -/
def Writer.Sealed (w : Writer) (last : Nat) : Prop :=
  (1 ≤ last → w.Accounted last) ∧ ∃ n ∈ w.closedSeqs, ∀ b ∈ w.chunks, b.seqEnd ≤ n

variable {ok : Nat → Bool} {cfg : RecordingWriterConfig} {w w' : Writer} {hist : List Entry} {n : Nat}

/-! ## The `closed` markers of a log -/

def Row.closes : Row → Option Nat
  | .marker .closed seq _ => some seq
  | _ => none

def Log.closes (log : Log) : List Nat := log.filterMap fun r => r.1.closes

def Call.closes : Call → Option Nat
  | .writeMarker .closed seq _ => some seq
  | _ => none

def Command.closes : Command → Option Nat
  | .marker .closed seq _ => some seq
  | _ => none

theorem storedClose_eq (r : Row × Bool) : storedClose r = if r.2 then r.1.closes else none := by
  obtain ⟨row, stored⟩ := r
  cases row with
  | marker kind seq payload => cases kind <;> cases stored <;> rfl
  | chunk | replayGap => cases stored <;> rfl

theorem closes_entry (x : Entry) : Log.closes x.rows = [] := by
  cases x <;> rfl

theorem perform_closes (ok : Nat → Bool) (log : Log) (call : Call) :
    Log.closes (call.perform ok log) = Log.closes log ++ call.closes.toList := by
  cases call with
  | flushChunk b =>
    obtain ⟨x, -, hrows, -⟩ := flushChunk_entry ok log b
    rw [Call.perform, hrows, Log.closes, List.filterMap_append]
    exact congrArg _ (closes_entry x)
  | writeReplayGap g =>
    obtain ⟨x, -, hrows, -⟩ := writeReplayGap_entry ok log g
    rw [Call.perform, hrows, Log.closes, List.filterMap_append]
    exact congrArg _ (closes_entry x)
  | writeMarker kind seq payload =>
    rw [Call.perform, Log.submit, Log.closes, List.filterMap_append]
    cases kind <;> rfl

theorem performAll_closes (ok : Nat → Bool) (log : Log) (calls : List Call) :
    Log.closes (calls.foldl (Call.perform ok) log) = Log.closes log ++ calls.filterMap Call.closes := by
  induction calls generalizing log with
  | nil => simp
  | cons call calls ih =>
    rw [List.foldl_cons, ih, perform_closes, List.append_assoc, List.filterMap_cons]
    cases call.closes <;> rfl

theorem flushCalls_closes (batch : Option ChunkBatch) : (flushCalls batch).filterMap Call.closes = [] := by
  cases batch <;> rfl

theorem frameCalls_closes (cfg : RecordingWriterConfig) (batch : Option ChunkBatch) (seq : Nat) (data : Bytes) :
    (frameCalls cfg batch seq data).1.filterMap Call.closes = [] := by
  unfold frameCalls batchFrame flushAtTarget
  split
  · rw [List.filterMap_append, flushCalls_closes]
    rfl
  · cases batch with
    | none => simp only; split <;> rfl
    | some b => simp only; split <;> split <;> rfl

/-- Only a `closed` marker that was queued closes a recording before the shutdown. -/
theorem command_closes (cfg : RecordingWriterConfig) (batch : Option ChunkBatch) (cmd : Command) :
    (cmd.calls cfg batch).1.filterMap Call.closes = cmd.closes.toList := by
  cases cmd with
  | output seq data gapBefore =>
    cases gapBefore with
    | none => exact frameCalls_closes cfg batch seq data
    | some gap =>
      simp only [Command.calls, outputCalls, List.filterMap_append, flushCalls_closes, List.nil_append]
      exact frameCalls_closes cfg none seq data
  | marker kind seq payload =>
    simp only [Command.calls, List.filterMap_append, flushCalls_closes, List.nil_append]
    cases kind <;> rfl
  | shutdown lastSeq => rfl

/-- Unless the task is aborted, a step submits the rows of its helper calls. -/
theorem step_log {e : Event} (h : w.step ok cfg e = some w') (he : ∀ rows, e ≠ .abort rows) :
    w'.log = (w.calls cfg e).foldl (Call.perform ok) w.log := by
  cases step_cases h with
  | output data =>
    obtain ⟨gap, hout | ⟨-, hout⟩⟩ := recordOutput_cases cfg { w with fed := w.fed ++ [data] } (w.fed.length + 1) data
    all_goals
      rw [hout]
      rfl
  | marker kind seq payload =>
    rcases recordMarker_cases w kind seq payload with hsame | ⟨-, -, hqueued⟩
    · rw [hsame]
      rfl
    · rw [hqueued]
      rfl
  | shutdownGone | shutdownQueued | dequeued | finished | exited | sendersDropped | abandoned => rfl
  | aborted rows => exact absurd rfl (he rows)

/-! ## Rows of a repository that takes everything -/

def Row.seqEnd : Row → Nat
  | .chunk _ seqEnd _ _ => seqEnd
  | _ => 0

/-- Every row was taken, and no chunk goes beyond `i64`. -/
def Log.Taken (log : Log) : Prop := ∀ r ∈ log, r.2 = true ∧ r.1.seqEnd ≤ i64Max

theorem submit_taken {log : Log} {row : Row} (hlog : Log.Taken log) (hrow : row.seqEnd ≤ i64Max) :
    Log.Taken (log.submit (fun _ => true) row) := by
  intro r hr
  rcases List.mem_append.1 hr with hr | hr
  · exact hlog r hr
  · obtain rfl := List.mem_singleton.1 hr
    exact ⟨rfl, hrow⟩

theorem perform_taken {log : Log} (call : Call) (hlog : Log.Taken log) :
    Log.Taken (call.perform (fun _ => true) log) := by
  cases call with
  | flushChunk b =>
    simp only [Call.perform, flushChunk]
    split_ifs
    · exact hlog
    · exact hlog
    · exact hlog
    · exact hlog
    · exact submit_taken hlog (Nat.not_lt.1 ‹_›)
  | writeReplayGap g =>
    simp only [Call.perform, writeReplayGap]
    split_ifs
    · exact hlog
    · exact hlog
    · exact submit_taken hlog (Nat.zero_le _)
  | writeMarker kind seq payload => exact submit_taken hlog (Nat.zero_le _)

theorem performAll_taken {log : Log} (calls : List Call) (hlog : Log.Taken log) :
    Log.Taken (calls.foldl (Call.perform fun _ => true) log) := by
  induction calls generalizing log with
  | nil => exact hlog
  | cons call calls ih => exact ih (perform_taken call hlog)

theorem Log.Taken.markersStored (hw : Log.Taken w.log) : w.MarkersStored := fun r hr _ => (hw r hr).1

theorem mem_closedSeqs (hw : Log.Taken w.log) (hn : n ∈ Log.closes w.log) : n ∈ w.closedSeqs := by
  obtain ⟨r, hr, hrn⟩ := List.mem_filterMap.1 hn
  refine List.mem_filterMap.2 ⟨r, hr, ?_⟩
  rw [storedClose_eq, (hw r hr).1, if_pos rfl]
  exact hrn

theorem chunk_le (hw : Log.Taken w.log) {b : ChunkBatch} (hb : b ∈ w.chunks) : b.seqEnd ≤ i64Max := by
  obtain ⟨r, hr, hrb⟩ := List.mem_filterMap.1 hb
  have hle := (hw r hr).2
  obtain ⟨row, stored⟩ := r
  cases row with
  | chunk =>
    cases stored
    · simp [storedChunk] at hrb
    · obtain rfl := Option.some.inj hrb
      exact hle
  | marker | replayGap => simp [storedChunk] at hrb

/-! ## Nothing is lost -/

/-- Every frame has a row, or is on its way. -/
def Writer.Complete (w : Writer) : Prop := ∃ hist, Timeline w hist ∧ hist.all Entry.isRecorded = true

theorem enabled_complete : Writer.enabled.Complete := ⟨[], enabled_timeline, rfl⟩

theorem step_complete {e : Event} (hw : w.Complete) (he : w.Keeps cfg e) (h : w.step ok cfg e = some w') :
    w'.Complete := by
  obtain ⟨hist, ht, hrec⟩ := hw
  obtain ⟨more, hmore, hkeeps⟩ := step_timeline h ht
  have hnot : ∀ rows, e ≠ .abort rows := by
    rintro rows rfl
    exact he
  exact ⟨hist ++ more, hmore, by rw [List.all_append, hrec, (hkeeps hnot).2 he]; rfl⟩

/-! ## Open, and being sealed -/

/-- Nobody has called `shutdown`. -/
structure Writer.Open (w : Writer) : Prop where
  feeding : w.Feeding
  senders : w.senders = true
  unsealed : Log.closes w.log = []
  queued : ∀ cmd ∈ w.queue, cmd.closes = none

theorem enabled_open : Writer.enabled.Open := ⟨enabled_feeding, rfl, rfl, by simp [Writer.enabled, Command.closes]⟩

theorem Writer.Open.running (hw : w.Open) : w.mode = .running := hw.feeding.running hw.senders

theorem Writer.Open.not_sealed (hw : w.Open) (last : Nat) : ¬ w.Sealed last := by
  rintro ⟨-, n, hn, -⟩
  obtain ⟨r, hr, hrn⟩ := List.mem_filterMap.1 hn
  rw [storedClose_eq] at hrn
  have hmem : n ∈ Log.closes w.log := by
    refine List.mem_filterMap.2 ⟨r, hr, ?_⟩
    split at hrn
    · exact hrn
    · cases hrn
  rw [hw.unsealed] at hmem
  cases hmem

def Event.isAbort : Event → Bool
  | .abort _ => true
  | _ => false

/-- The events of an open writer: frames, markers other than the seal, and the task's own. -/
def Event.keepsOpen : Event → Bool
  | .shutdown _ | .dropSenders | .marker .closed _ _ => false
  | _ => true

theorem step_open {e : Event} (hw : w.Open) (he : e.keepsOpen) (h : w.step ok cfg e = some w') : w'.Open := by
  have hshut : ∀ lastSeq, e ≠ .shutdown lastSeq := by
    rintro lastSeq rfl
    cases he
  obtain ⟨hfeeding, hfinished⟩ := step_feeding h hshut hw.feeding
  have hlog := step_log h hfinished
  cases step_cases h with
  | output data =>
    obtain ⟨gap, hout | ⟨-, hout⟩⟩ := recordOutput_cases cfg { w with fed := w.fed ++ [data] } (w.fed.length + 1) data
    · rw [hout] at hfeeding ⊢
      exact ⟨hfeeding, hw.senders, hw.unsealed, hw.queued⟩
    · rw [hout] at hfeeding ⊢
      refine ⟨hfeeding, hw.senders, hw.unsealed, fun cmd hcmd => ?_⟩
      rcases List.mem_append.1 hcmd with hcmd | hcmd
      · exact hw.queued cmd hcmd
      · obtain rfl := List.mem_singleton.1 hcmd
        rfl
  | marker kind seq payload =>
    rcases recordMarker_cases w kind seq payload with hsame | ⟨-, -, hqueued⟩
    · rw [hsame]
      exact hw
    · rw [hqueued] at hfeeding ⊢
      refine ⟨hfeeding, hw.senders, hw.unsealed, fun cmd hcmd => ?_⟩
      rcases List.mem_append.1 hcmd with hcmd | hcmd
      · exact hw.queued cmd hcmd
      · obtain rfl := List.mem_singleton.1 hcmd
        cases kind <;> first | rfl | cases he
  | shutdownGone lastSeq | shutdownQueued lastSeq => exact absurd rfl (hshut lastSeq)
  | dequeued cmd rest mode queue =>
    refine ⟨hfeeding, hw.senders, ?_, fun cmd' hcmd' => hw.queued cmd' (by rw [queue]; exact .tail _ hcmd')⟩
    rw [hlog, performAll_closes, hw.unsealed, List.nil_append]
    simp only [Writer.calls, queue, command_closes]
    rw [hw.queued cmd (by rw [queue]; exact .head _)]
    rfl
  | finished lastSeq mode => simp [hw.running] at mode
  | exited mode => simp [hw.running] at mode
  | sendersDropped => cases he
  | abandoned _ senders => simp [hw.senders] at senders
  | aborted rows pending => simp [hw.feeding.not_ackPending] at pending

/-- `shutdown` was called with number `n`: the command waits in the queue, is at
hand, or has been carried out. -/
def Writer.Sealing (n : Nat) (w : Writer) : Prop :=
  match w.mode with
  | .running => w.queue.filter Command.isShutdown = [.shutdown n]
  | .draining m => m = n
  | .returning | .stopped => closeSeq n ∈ Log.closes w.log

/-- A task that has come to its end leaves no frame in the queue. -/
def Writer.Drained (w : Writer) : Prop :=
  w.mode = .returning ∨ w.mode = .stopped → w.queue.flatMap Command.pieces = []

theorem Writer.Open.drained (hw : w.Open) : w.Drained := by
  simp [Writer.Drained, hw.running]

theorem shutdown_sealing (hw : w.Open) {lastSeq : Nat} (h : w.step ok cfg (.shutdown lastSeq) = some w') :
    w'.Sealing (min lastSeq i64Max) ∧ w'.log = w.log ∧ w'.pendingGap = w.pendingGap := by
  cases step_cases h with
  | shutdownGone _ _ gone => simp [hw.running] at gone
  | shutdownQueued =>
    refine ⟨?_, rfl, rfl⟩
    have hnone : w.queue.filter Command.isShutdown = [] := by
      rw [List.filter_eq_nil_iff]
      intro cmd hcmd hshut
      have := List.any_eq_false.1 hw.feeding.queue cmd hcmd
      exact this hshut
    simp [Writer.Sealing, hw.running, List.filter_append, hnone, Command.isShutdown]

/-- The shutdown goes on until its marker is written, if the deadline does not pass. -/
theorem step_sealing {e : Event} (hw : w.Sealing n) (hshut : ∀ lastSeq, e ≠ .shutdown lastSeq)
    (hfinished : ∀ rows, e ≠ .abort rows) (h : w.step ok cfg e = some w') : w'.Sealing n := by
  have hlog := step_log h hfinished
  cases step_cases h with
  | output data =>
    obtain ⟨gap, hout | ⟨-, hout⟩⟩ := recordOutput_cases cfg { w with fed := w.fed ++ [data] } (w.fed.length + 1) data
    · rw [hout]
      exact hw
    · rw [hout]
      simpa [Writer.Sealing, List.filter_append, Command.isShutdown] using hw
  | marker kind seq payload =>
    rcases recordMarker_cases w kind seq payload with hsame | ⟨-, -, hqueued⟩
    · rw [hsame]
      exact hw
    · rw [hqueued]
      simpa [Writer.Sealing, List.filter_append, Command.isShutdown] using hw
  | shutdownGone lastSeq | shutdownQueued lastSeq => exact absurd rfl (hshut lastSeq)
  | dequeued cmd rest mode queue =>
    cases hmode : w.mode with
    | running =>
      rw [Writer.Sealing, hmode, queue] at hw
      cases cmd with
      | shutdown lastSeq =>
        obtain ⟨hseq, -⟩ := List.cons.inj hw
        simpa [Writer.Sealing, Command.nextMode, hmode] using Command.shutdown.inj hseq
      | output | marker => simpa [Writer.Sealing, Command.nextMode, hmode, Command.isShutdown] using hw
    | draining lastSeq =>
      rw [Writer.Sealing, hmode] at hw
      cases cmd <;> simpa [Writer.Sealing, Command.nextMode, hmode] using hw
    | returning | stopped => simp [hmode] at mode
  | finished lastSeq mode queue =>
    rw [Writer.Sealing, mode] at hw
    obtain rfl : lastSeq = n := hw
    show closeSeq lastSeq ∈ Log.closes ((w.calls cfg .finish).foldl (Call.perform ok) w.log)
    rw [performAll_closes, Writer.calls, mode]
    simp [List.filterMap_append, Call.closes]
  | exited mode =>
    rw [Writer.Sealing, mode] at hw
    exact hw
  | sendersDropped => exact hw
  | abandoned mode _ queue =>
    rw [Writer.Sealing, mode, queue] at hw
    cases hw
  | aborted rows => exact absurd rfl (hfinished rows)

/-- A task that has come to its end does not come back. -/
theorem step_ended {e : Event} (hw : w.mode = .returning ∨ w.mode = .stopped) (h : w.step ok cfg e = some w') :
    w'.mode = .returning ∨ w'.mode = .stopped := by
  cases step_cases h with
  | output data =>
    obtain ⟨gap, hout | ⟨-, hout⟩⟩ := recordOutput_cases cfg { w with fed := w.fed ++ [data] } (w.fed.length + 1) data
    all_goals
      rw [hout]
      exact hw
  | marker kind seq payload =>
    rcases recordMarker_cases w kind seq payload with hsame | ⟨-, -, hqueued⟩
    · rw [hsame]
      exact hw
    · rw [hqueued]
      exact hw
  | shutdownGone | shutdownQueued | sendersDropped => exact hw
  | dequeued cmd rest mode => exact absurd hw mode
  | finished => exact .inl rfl
  | exited | abandoned | aborted => exact .inr rfl

theorem step_taken {e : Event} (hw : Log.Taken w.log) (hfinished : ∀ rows, e ≠ .abort rows)
    (h : w.step (fun _ => true) cfg e = some w') : Log.Taken w'.log := by
  rw [step_log h hfinished]
  exact performAll_taken _ hw

/-- The shutdown has been carried out on a writer that had lost nothing: the recording is sealed. -/
theorem sealed_of_complete (hw : w.Complete) (htaken : Log.Taken w.log) (hgap : w.pendingGap = none)
    (hdone : w.mode = .returning ∨ w.mode = .stopped) (hdrained : w.Drained)
    (hseal : w.Sealing (min w.fed.length i64Max)) : w.Sealed w.fed.length := by
  obtain ⟨hist, ht, hrec⟩ := hw
  have hwait : w.waiting = gapPieces w.pendingGap := by
    rw [Writer.waiting, ht.idle hdone, hdrained hdone]
    rfl
  have hall := (ht.all_accounted_iff htaken.markersStored hwait).2 ⟨hgap, hrec⟩
  refine ⟨fun hone => hall _ hone (Nat.le_refl _), closeSeq (min w.fed.length i64Max), mem_closedSeqs htaken ?_, ?_⟩
  · rcases hdone with hmode | hmode
    all_goals
      rw [Writer.Sealing, hmode] at hseal
      exact hseal
  · intro b hb
    have hmax := chunk_le htaken hb
    rw [ht.chunks_eq] at hb
    have hfed := ((ht.batches fun x b (hb : x.storedBatch = some b) => by rw [storedBatch_eq hb]; rfl).1 b hb).2.2.1
    unfold closeSeq
    split <;> omega

end RelayTerm.Recording
