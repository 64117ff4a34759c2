import RelayTerm.Core.Types
import RelayTerm.Lib.Runs
/-!
# The recording writer

`RecordingWriter` tees PTY output into chunk rows without ever blocking the
live wire. The producer side (`record_output`) hands frames to a bounded queue
and keeps the range it had to drop as a pending gap, which the next frame that
gets into the queue carries along. The writer task takes commands from the
queue, batches frames into chunks, and brackets what it lost with `replay_gap`
markers. A shutdown whose deadline passes aborts the task between any two rows.

The repository is an oracle: call number `n` of a writer succeeds when `ok n`.
What the task does with a command never depends on an earlier answer, so a
command is first turned into the list of helper calls it makes.
-/
open RelayTerm.Lib

namespace RelayTerm.Recording

abbrev Bytes := List UInt8

/-- `QUEUE_CAPACITY` of the command queue. -/
def queueCapacity : Nat := 256

def i64Max : Nat := 0x7FFF_FFFF_FFFF_FFFF

structure RecordingWriterConfig where
  chunkTargetBytes : Nat
  chunkHardCapBytes : Nat
  deriving DecidableEq, Repr

def RecordingWriterConfig.default : RecordingWriterConfig := ⟨64 * 1024, 2 * 1024 * 1024⟩

inductive ReplayGapReason where
  | writerOverflow | writerError | frameOversized
  deriving DecidableEq, Repr

def ReplayGapReason.asStr : ReplayGapReason → String
  | .writerOverflow => "writer_overflow"
  | .writerError => "writer_error"
  | .frameOversized => "frame_oversized"

inductive MarkerKind where
  | started | attached | detached | reattached | resized | closed | replayGap
  deriving DecidableEq, Repr

def MarkerKind.allowsSeqZero (kind : MarkerKind) : Bool := kind = .started

/-- The JSON values marker payloads are made of. -/
inductive JsonValue where
  | num (n : Nat)
  | str (s : String)
  deriving DecidableEq, Repr

abbrev JsonObject := List (String × JsonValue)

structure PendingGap where
  fromSeq : Nat
  toSeq : Nat
  reason : ReplayGapReason
  deriving DecidableEq, Repr

structure ChunkBatch where
  seqStart : Nat
  seqEnd : Nat
  payload : Bytes
  deriving DecidableEq, Repr

/-! ## Rows -/

/-- What the writer submits: a chunk, a marker it was handed or seals the
recording with, or the `replay_gap` marker of `write_replay_gap`. -/
inductive Row where
  | chunk (seqStart seqEnd byteLen : Nat) (payload : Bytes)
  | marker (kind : MarkerKind) (seq : Nat) (payload : JsonObject)
  | replayGap (gap : PendingGap)
  deriving DecidableEq, Repr

/-- The marker row of a gap: its `seq` is the upper end of the range. -/
def PendingGap.marker (gap : PendingGap) : MarkerKind × Nat × JsonObject :=
  (.replayGap, max gap.toSeq 1,
    [("from_seq", .num gap.fromSeq), ("to_seq", .num gap.toSeq), ("reason", .str gap.reason.asStr)])

/-- The rows submitted, in order, each with the repository's answer. -/
abbrev Log := List (Row × Bool)

def Log.submit (ok : Nat → Bool) (log : Log) (row : Row) : Log := log ++ [(row, ok log.length)]

/-- `write_replay_gap`: a range beyond `i64` is given up. -/
def writeReplayGap (ok : Nat → Bool) (log : Log) (gap : PendingGap) : Log :=
  if gap.fromSeq > i64Max then log
  else if gap.toSeq > i64Max then log
  else log.submit ok (.replayGap gap)

/-- `flush_chunk`: an empty payload writes nothing; a payload beyond `i32` or a
range beyond `i64` is given up; a failed write is bracketed with a gap. -/
def flushChunk (ok : Nat → Bool) (log : Log) (batch : ChunkBatch) : Log :=
  if batch.payload = [] then log
  else if batch.payload.length > i32Max then log
  else if batch.seqStart > i64Max then log
  else if batch.seqEnd > i64Max then log
  else
    let submitted := log.submit ok (.chunk batch.seqStart batch.seqEnd batch.payload.length batch.payload)
    if ok log.length then submitted
    else writeReplayGap ok submitted ⟨batch.seqStart, batch.seqEnd, .writerError⟩

/-- The helper calls of the writer task. -/
inductive Call where
  | flushChunk (batch : ChunkBatch)
  | writeReplayGap (gap : PendingGap)
  | writeMarker (kind : MarkerKind) (seq : Nat) (payload : JsonObject)
  deriving DecidableEq, Repr

def Call.perform (ok : Nat → Bool) (log : Log) : Call → Log
  | .flushChunk batch => Recording.flushChunk ok log batch
  | .writeReplayGap gap => Recording.writeReplayGap ok log gap
  | .writeMarker kind seq payload => log.submit ok (.marker kind seq payload)

/-! ## The producer's side -/

inductive Command where
  | output (seq : Nat) (data : Bytes) (gapBefore : Option PendingGap)
  | marker (kind : MarkerKind) (seq : Nat) (payload : JsonObject)
  | shutdown (lastSeq : Nat)
  deriving DecidableEq, Repr

def mergeGaps (a b : PendingGap) : PendingGap := ⟨min a.fromSeq b.fromSeq, max a.toSeq b.toSeq, a.reason⟩

def restoreGap (slot : Option PendingGap) (gap : PendingGap) : Option PendingGap :=
  some (match slot with
    | some existing => mergeGaps existing gap
    | none => gap)

def extendGap (slot : Option PendingGap) (seq : Nat) (reason : ReplayGapReason) : Option PendingGap :=
  some (match slot with
    | some existing => ⟨min existing.fromSeq seq, max existing.toSeq seq, existing.reason⟩
    | none => ⟨seq, seq, reason⟩)

/-- Where the writer task is: in its main loop, in the drain of a shutdown, past
its `closed` marker, or gone. -/
inductive Mode where
  | running
  | draining (lastSeq : Nat)
  | returning
  | stopped
  deriving DecidableEq, Repr

structure Writer where
  queue : List Command
  pendingGap : Option PendingGap
  batch : Option ChunkBatch
  highestSeqObserved : Nat
  mode : Mode
  /-- Some clone of the command sender is alive. -/
  senders : Bool
  log : Log
  /-- The payloads of frames `1`, `2`, ... handed to `record_output` so far. -/
  fed : List Bytes
  deriving DecidableEq, Repr

/-- `RecordingWriter::enabled`: the `started` marker is queued at once. -/
def Writer.enabled : Writer where
  queue := [.marker .started 0 []]
  pendingGap := none
  batch := none
  highestSeqObserved := 0
  mode := .running
  senders := true
  log := []
  fed := []

/-- `try_send` of a frame that took the pending gap along. -/
def Writer.trySend (w : Writer) (seq : Nat) (data : Bytes) : Writer :=
  if w.mode = .stopped then { w with pendingGap := none }
  else if w.queue.length < queueCapacity then
    { w with queue := w.queue ++ [.output seq data w.pendingGap], pendingGap := none }
  else
    { w with pendingGap := extendGap (w.pendingGap.bind (restoreGap none)) seq .writerOverflow }

def Writer.recordOutput (cfg : RecordingWriterConfig) (w : Writer) (seq : Nat) (data : Bytes) : Writer :=
  if data.length > cfg.chunkHardCapBytes then
    { w with pendingGap := extendGap w.pendingGap seq .frameOversized }
  else w.trySend seq data

def Writer.recordMarker (w : Writer) (kind : MarkerKind) (seq : Nat) (payload : JsonObject) : Writer :=
  if seq = 0 ∧ kind.allowsSeqZero = false then w
  else if seq > i64Max then w
  else if w.mode = .stopped then w
  else if w.queue.length < queueCapacity then { w with queue := w.queue ++ [.marker kind seq payload] }
  else w

/-- `shutdown` waits for room in the queue; on a task that is gone it returns. -/
def Writer.shutdown (w : Writer) (lastSeq : Nat) : Option Writer :=
  if w.mode = .stopped then some w
  else if w.queue.length < queueCapacity then some { w with queue := w.queue ++ [.shutdown (min lastSeq i64Max)] }
  else none

/-! ## The writer task -/

def ChunkBatch.open (seq : Nat) (data : Bytes) : ChunkBatch := ⟨seq, seq, data⟩

def ChunkBatch.append (batch : ChunkBatch) (seq : Nat) (data : Bytes) : ChunkBatch :=
  { batch with seqEnd := seq, payload := batch.payload ++ data }

def ChunkBatch.wouldOvershootHardCap (batch : ChunkBatch) (frameLen hardCap : Nat) : Bool :=
  batch.payload.length + frameLen > hardCap

/-- `flush_chunk(open.take())`. -/
def flushCalls (batch : Option ChunkBatch) : List Call := batch.toList.map .flushChunk

/-- A frame joins the open batch, or the batch that would grow past the hard
cap is flushed and a new one opened. -/
def batchFrame (cfg : RecordingWriterConfig) (batch : Option ChunkBatch) (seq : Nat) (data : Bytes) :
    List Call × ChunkBatch :=
  match batch with
  | some batch =>
    if batch.wouldOvershootHardCap data.length cfg.chunkHardCapBytes then ([.flushChunk batch], .open seq data)
    else ([], batch.append seq data)
  | none => ([], .open seq data)

/-- A batch that has reached the target is flushed. -/
def flushAtTarget (cfg : RecordingWriterConfig) (batch : ChunkBatch) : List Call × Option ChunkBatch :=
  if batch.payload.length ≥ cfg.chunkTargetBytes then ([.flushChunk batch], none) else ([], some batch)

/-- The `Output` arm after the gap it carried: the calls made and the batch left open. -/
def frameCalls (cfg : RecordingWriterConfig) (batch : Option ChunkBatch) (seq : Nat) (data : Bytes) :
    List Call × Option ChunkBatch :=
  if data.length > cfg.chunkHardCapBytes then
    (flushCalls batch ++ [.writeReplayGap ⟨seq, seq, .frameOversized⟩], none)
  else
    let joined := batchFrame cfg batch seq data
    let flushed := flushAtTarget cfg joined.2
    (joined.1 ++ flushed.1, flushed.2)

/-- The `Output` arm: the gap comes first, behind what is in the open batch. -/
def outputCalls (cfg : RecordingWriterConfig) (batch : Option ChunkBatch) (seq : Nat) (data : Bytes)
    (gapBefore : Option PendingGap) : List Call × Option ChunkBatch :=
  match gapBefore with
  | some gap =>
    let framed := frameCalls cfg none seq data
    (flushCalls batch ++ .writeReplayGap gap :: framed.1, framed.2)
  | none => frameCalls cfg batch seq data

/-- The calls a command makes and the batch it leaves open. -/
def Command.calls (cfg : RecordingWriterConfig) (batch : Option ChunkBatch) :
    Command → List Call × Option ChunkBatch
  | .output seq data gapBefore => outputCalls cfg batch seq data gapBefore
  | .marker kind seq payload => (flushCalls batch ++ [.writeMarker kind seq payload], none)
  | .shutdown _ => ([], batch)

/-- `highest_seq_observed` after a command; the drain leaves it alone on markers. -/
def Command.highest (mode : Mode) (highest : Nat) : Command → Nat
  | .output seq _ _ => max highest seq
  | .marker _ seq _ => if mode = .running then max highest seq else highest
  | .shutdown _ => highest

/-- The main loop turns to the drain at the first `Shutdown`; a later one is only acknowledged. -/
def Command.nextMode (mode : Mode) : Command → Mode
  | .shutdown lastSeq => if mode = .running then .draining lastSeq else mode
  | _ => mode

/-- The seq of the `closed` marker needs to be at least 1. -/
def closeSeq (lastSeq : Nat) : Nat := if lastSeq ≥ 1 then lastSeq else 1

inductive Event where
  /-- The producer hands the next frame over. -/
  | output (data : Bytes)
  | marker (kind : MarkerKind) (seq : Nat) (payload : JsonObject)
  | shutdown (lastSeq : Nat)
  /-- The writer task takes a command and handles it. -/
  | dequeue
  /-- The drain finds the queue empty: trailing chunk, `closed` marker, ack. -/
  | finish
  /-- The task returns and the queue is gone. -/
  | exit
  | dropSenders
  /-- The main loop finds every sender dropped. -/
  | abandoned
  /-- The deadline of a `shutdown` passes, and the task is aborted when what it
  was doing has come to `rows` rows. -/
  | abort (rows : Nat)
  deriving DecidableEq, Repr

/-- The helper calls of a step. -/
def Writer.calls (cfg : RecordingWriterConfig) (w : Writer) : Event → List Call
  | .dequeue => match w.queue with
    | cmd :: _ => (cmd.calls cfg w.batch).1
    | [] => []
  | .finish => match w.mode with
    | .draining lastSeq =>
      flushCalls w.batch ++ [.writeMarker .closed (closeSeq lastSeq) [("reason", .str "session_close")]]
    | _ => []
  | .abandoned =>
    flushCalls w.batch ++
      [.writeMarker .closed (min (max w.highestSeqObserved 1) i64Max) [("reason", .str "writer_dropped")]]
  | _ => []

def Writer.perform (ok : Nat → Bool) (w : Writer) (calls : List Call) : Writer :=
  { w with log := calls.foldl (Call.perform ok) w.log }

def Command.isShutdown : Command → Bool
  | .shutdown _ => true
  | _ => false

/-- A `shutdown` waits for its ack. -/
def Writer.ackPending (w : Writer) : Bool :=
  match w.mode with
  | .running => w.queue.any Command.isShutdown
  | .draining _ => true
  | .returning | .stopped => false

/-- The helper calls of the command at hand, or of the end of the drain. -/
def Writer.doing (cfg : RecordingWriterConfig) (w : Writer) : List Call :=
  match w.queue with
  | [] => w.calls cfg .finish
  | _ :: _ => w.calls cfg .dequeue

def Writer.step (ok : Nat → Bool) (cfg : RecordingWriterConfig) (w : Writer) : Event → Option Writer
  | .output data =>
    if w.senders then some ({ w with fed := w.fed ++ [data] }.recordOutput cfg (w.fed.length + 1) data) else none
  | .marker kind seq payload => if w.senders then some (w.recordMarker kind seq payload) else none
  | .shutdown lastSeq => if w.senders then w.shutdown lastSeq else none
  | .dequeue =>
    if w.mode = .returning ∨ w.mode = .stopped then none
    else match w.queue with
      | [] => none
      | cmd :: rest => some { w.perform ok (w.calls cfg .dequeue) with
          queue := rest
          batch := (cmd.calls cfg w.batch).2
          highestSeqObserved := cmd.highest w.mode w.highestSeqObserved
          mode := cmd.nextMode w.mode }
  | .finish => match w.mode, w.queue with
    | .draining _, [] => some { w.perform ok (w.calls cfg .finish) with batch := none, mode := .returning }
    | _, _ => none
  | .exit => if w.mode = .returning then some { w with mode := .stopped, queue := [] } else none
  | .dropSenders => some { w with senders := false }
  | .abandoned =>
    if w.mode = .running ∧ w.senders = false ∧ w.queue = [] then
      some { w.perform ok (w.calls cfg .abandoned) with batch := none, mode := .stopped }
    else none
  | .abort rows =>
    if w.ackPending then
      some { w with
        log := (w.perform ok (w.doing cfg)).log.take (w.log.length + rows)
        queue := []
        batch := none
        mode := .stopped }
    else none

/-! ## What a step can do -/

/-- A marker is either queued behind the frames before it, or dropped. -/
theorem recordMarker_cases (w : Writer) (kind : MarkerKind) (seq : Nat) (payload : JsonObject) :
    w.recordMarker kind seq payload = w ∨
      (w.mode ≠ .stopped ∧ (seq = 0 → kind.allowsSeqZero = true) ∧
        w.recordMarker kind seq payload = { w with queue := w.queue ++ [.marker kind seq payload] }) := by
  unfold Writer.recordMarker
  split_ifs with hzero hbig hmode hroom
  · exact .inl rfl
  · exact .inl rfl
  · exact .inl rfl
  · refine .inr ⟨hmode, fun hseq => ?_, rfl⟩
    cases hallow : kind.allowsSeqZero with
    | true => rfl
    | false => exact absurd ⟨hseq, hallow⟩ hzero
  · exact .inl rfl

/-- A frame touches the queue and the pending gap only. -/
theorem recordOutput_cases (cfg : RecordingWriterConfig) (w : Writer) (seq : Nat) (data : Bytes) :
    ∃ gap, w.recordOutput cfg seq data = { w with pendingGap := gap } ∨
      (data.length ≤ cfg.chunkHardCapBytes ∧ w.recordOutput cfg seq data =
        { w with queue := w.queue ++ [.output seq data w.pendingGap], pendingGap := gap }) := by
  unfold Writer.recordOutput Writer.trySend
  split_ifs with hlong hmode hroom
  · exact ⟨_, .inl rfl⟩
  · exact ⟨_, .inl rfl⟩
  · exact ⟨_, .inr ⟨Nat.not_lt.1 hlong, rfl⟩⟩
  · exact ⟨_, .inl rfl⟩

/-- One case for each way a step of the writer goes. -/
inductive WriterStep (ok : Nat → Bool) (cfg : RecordingWriterConfig) (w : Writer) : Event → Writer → Prop where
  | output (data : Bytes) (alive : w.senders = true) :
      WriterStep ok cfg w (.output data) ({ w with fed := w.fed ++ [data] }.recordOutput cfg (w.fed.length + 1) data)
  | marker (kind : MarkerKind) (seq : Nat) (payload : JsonObject) (alive : w.senders = true) :
      WriterStep ok cfg w (.marker kind seq payload) (w.recordMarker kind seq payload)
  | shutdownGone (lastSeq : Nat) (alive : w.senders = true) (gone : w.mode = .stopped) :
      WriterStep ok cfg w (.shutdown lastSeq) w
  | shutdownQueued (lastSeq : Nat) (alive : w.senders = true) (mode : w.mode ≠ .stopped)
      (room : w.queue.length < queueCapacity) :
      WriterStep ok cfg w (.shutdown lastSeq) { w with queue := w.queue ++ [.shutdown (min lastSeq i64Max)] }
  | dequeued (cmd : Command) (rest : List Command) (mode : ¬ (w.mode = .returning ∨ w.mode = .stopped))
      (queue : w.queue = cmd :: rest) :
      WriterStep ok cfg w .dequeue { w.perform ok (w.calls cfg .dequeue) with
        queue := rest
        batch := (cmd.calls cfg w.batch).2
        highestSeqObserved := cmd.highest w.mode w.highestSeqObserved
        mode := cmd.nextMode w.mode }
  | finished (lastSeq : Nat) (mode : w.mode = .draining lastSeq) (queue : w.queue = []) :
      WriterStep ok cfg w .finish { w.perform ok (w.calls cfg .finish) with batch := none, mode := .returning }
  | exited (mode : w.mode = .returning) : WriterStep ok cfg w .exit { w with mode := .stopped, queue := [] }
  | sendersDropped : WriterStep ok cfg w .dropSenders { w with senders := false }
  | abandoned (mode : w.mode = .running) (senders : w.senders = false) (queue : w.queue = []) :
      WriterStep ok cfg w .abandoned { w.perform ok (w.calls cfg .abandoned) with batch := none, mode := .stopped }
  | aborted (rows : Nat) (pending : w.ackPending = true) :
      WriterStep ok cfg w (.abort rows) { w with
        log := (w.perform ok (w.doing cfg)).log.take (w.log.length + rows)
        queue := []
        batch := none
        mode := .stopped }

theorem step_cases {ok : Nat → Bool} {cfg : RecordingWriterConfig} {w w' : Writer} {e : Event}
    (h : w.step ok cfg e = some w') : WriterStep ok cfg w e w' := by
  cases e with
  | output data =>
    simp only [Writer.step] at h
    split at h
    · next alive => obtain rfl := Option.some.inj h; exact .output data alive
    · simp at h
  | marker kind seq payload =>
    simp only [Writer.step] at h
    split at h
    · next alive => obtain rfl := Option.some.inj h; exact .marker kind seq payload alive
    · simp at h
  | shutdown lastSeq =>
    simp only [Writer.step] at h
    split at h
    · next alive =>
      unfold Writer.shutdown at h
      split_ifs at h with hmode hroom
      · obtain rfl := Option.some.inj h; exact .shutdownGone lastSeq alive hmode
      · obtain rfl := Option.some.inj h; exact .shutdownQueued lastSeq alive hmode hroom
    · simp at h
  | dequeue =>
    simp only [Writer.step] at h
    split at h
    · simp at h
    · next hmode =>
      split at h
      · simp at h
      · next cmd rest hqueue => obtain rfl := Option.some.inj h; exact .dequeued cmd rest hmode hqueue
  | finish =>
    simp only [Writer.step] at h
    split at h
    · next lastSeq hmode hqueue => obtain rfl := Option.some.inj h; exact .finished lastSeq hmode hqueue
    · simp at h
  | exit =>
    simp only [Writer.step] at h
    split at h
    · next hmode => obtain rfl := Option.some.inj h; exact .exited hmode
    · simp at h
  | dropSenders => obtain rfl := Option.some.inj h; exact .sendersDropped
  | abandoned =>
    simp only [Writer.step] at h
    split at h
    · next hcond => obtain rfl := Option.some.inj h; exact .abandoned hcond.1 hcond.2.1 hcond.2.2
    · simp at h
  | abort rows =>
    simp only [Writer.step] at h
    split at h
    · next hpending => obtain rfl := Option.some.inj h; exact .aborted rows hpending
    · simp at h

end RelayTerm.Recording
