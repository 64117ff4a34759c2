import RelayTerm.Lib.Tiling
import RelayTerm.Recording.Writer
/-!
# The timeline of a recording

Every frame handed to the writer is at each moment in exactly one place: in a
row that was submitted, in a piece the writer gave up without a row, in the
open batch, in the queue, or in the producer's pending gap. Read in this order
the places are a tiling of the frames handed over so far, and each batch holds
exactly the bytes of its frames.
-/
open RelayTerm.Lib

namespace RelayTerm.Recording

/-! ## The bytes of a stretch of frames -/

/-- The payloads of frames `lo` up to, not including, `hi`, joined. -/
def framesBytes (fed : List Bytes) (lo hi : Nat) : Bytes := ((fed.take (hi - 1)).drop (lo - 1)).flatten

variable {fed : List Bytes} {data : Bytes} {i j k a b c : Nat}

theorem framesBytes_grow (h : k ≤ fed.length + 1) : framesBytes (fed ++ [data]) i k = framesBytes fed i k := by
  unfold framesBytes
  rw [List.take_append_of_le_length (by omega)]

theorem framesBytes_last (fed : List Bytes) (data : Bytes) :
    framesBytes (fed ++ [data]) (fed.length + 1) (fed.length + 2) = data := by
  unfold framesBytes
  rw [List.take_of_length_le (by simp), show fed.length + 1 - 1 = fed.length by omega, List.drop_left]
  simp

theorem framesBytes_append (h₁ : i ≤ j) (h₂ : j ≤ k) (h : k ≤ fed.length + 1) :
    framesBytes fed i j ++ framesBytes fed j k = framesBytes fed i k := by
  unfold framesBytes
  have hsplit : fed.take (k - 1) = fed.take (j - 1) ++ (fed.take (k - 1)).drop (j - 1) := by
    conv_lhs => rw [← List.take_append_drop (j - 1) (fed.take (k - 1))]
    rw [List.take_take, Nat.min_eq_left (by omega)]
  conv_rhs => rw [hsplit]
  rw [List.drop_append_of_le_length (by simp; omega), List.flatten_append]

/-! ## Pieces -/

/-- A stretch of frames that travels as one: batched bytes, or a gap. -/
inductive Piece where
  | batch (b : ChunkBatch)
  | gap (g : PendingGap)
  deriving DecidableEq, Repr

def Piece.lo : Piece → Nat
  | .batch b => b.seqStart
  | .gap g => g.fromSeq

def Piece.hi : Piece → Nat
  | .batch b => b.seqEnd + 1
  | .gap g => g.toSeq + 1

/-- A batch holds the bytes of its frames. -/
def Piece.Faithful (fed : List Bytes) : Piece → Prop
  | .batch b => b.payload = framesBytes fed b.seqStart (b.seqEnd + 1)
  | .gap _ => True

def openPieces (batch : Option ChunkBatch) : List Piece := batch.toList.map .batch

def gapPieces (gap : Option PendingGap) : List Piece := gap.toList.map .gap

def Command.pieces : Command → List Piece
  | .output seq data gapBefore => gapPieces gapBefore ++ [.batch (.open seq data)]
  | _ => []

def Call.pieces : Call → List Piece
  | .flushChunk b => [.batch b]
  | .writeReplayGap g => [.gap g]
  | .writeMarker .. => []

/-- What is on its way: the open batch, the queue, the pending gap. -/
def Writer.waiting (w : Writer) : List Piece :=
  openPieces w.batch ++ w.queue.flatMap Command.pieces ++ gapPieces w.pendingGap

/-- Pieces that make up the frames `[a, b)` and hold their bytes. -/
def Laid (fed : List Bytes) (a : Nat) (ps : List Piece) (b : Nat) : Prop :=
  Tiles Piece.lo Piece.hi a ps b ∧ ∀ p ∈ ps, p.Faithful fed

variable {ps qs : List Piece}

theorem laid_append : Laid fed a (ps ++ qs) c ↔ ∃ b, Laid fed a ps b ∧ Laid fed b qs c := by
  simp only [Laid, tiles_append, List.forall_mem_append]
  constructor
  · rintro ⟨⟨b, hps, hqs⟩, hp, hq⟩
    exact ⟨b, ⟨hps, hp⟩, hqs, hq⟩
  · rintro ⟨b, ⟨hps, hp⟩, hqs, hq⟩
    exact ⟨⟨b, hps, hqs⟩, hp, hq⟩

theorem laid_nil : Laid fed a [] b ↔ a = b := by simp [Laid]

theorem Laid.grow (h : Laid fed a ps b) (hb : b ≤ fed.length + 1) : Laid (fed ++ [data]) a ps b := by
  refine ⟨h.1, fun p hp => ?_⟩
  have hbounds := h.1.bounds hp
  have hp := h.2 p hp
  cases p with
  | batch b =>
    simp only [Piece.hi] at hbounds
    rw [Piece.Faithful, framesBytes_grow (by omega)]
    exact hp
  | gap => trivial

/-! ## What the writer task does with a piece -/

/-- A frame joins the batch before it. -/
theorem laid_append_frame {batch : ChunkBatch} {seq : Nat} (hc : c ≤ fed.length + 1)
    (h : Laid fed a [.batch batch, .batch (.open seq data)] c) : Laid fed a [.batch (batch.append seq data)] c := by
  obtain ⟨⟨hlo, hlt, hseq, hlt', hend⟩, hfaith⟩ := h
  have hbatch : batch.payload = _ := hfaith (.batch batch) List.mem_cons_self
  have hframe : data = _ := hfaith (.batch (.open seq data)) (List.mem_cons_of_mem _ List.mem_cons_self)
  simp only [Piece.lo, Piece.hi, ChunkBatch.open, tiles_nil] at hlo hlt hseq hlt' hend hframe
  refine ⟨⟨hlo, ?_, hend⟩, fun p hp => ?_⟩
  · simp only [Piece.hi, ChunkBatch.append]
    omega
  · obtain rfl := List.mem_singleton.1 hp
    simp only [Piece.Faithful, ChunkBatch.append]
    rw [hbatch, hframe, ← hseq]
    exact framesBytes_append (by omega) (by omega) (by omega)

/-- A single frame and the gap that brackets it have one range. -/
theorem laid_frame_gap {seq : Nat} {reason : ReplayGapReason} (h : Laid fed a [.batch (.open seq data)] c) :
    Laid fed a [.gap ⟨seq, seq, reason⟩] c :=
  ⟨h.1, fun p hp => by obtain rfl := List.mem_singleton.1 hp; trivial⟩

theorem flushCalls_pieces (batch : Option ChunkBatch) : (flushCalls batch).flatMap Call.pieces = openPieces batch := by
  cases batch <;> rfl

theorem batchFrame_laid (cfg : RecordingWriterConfig) {batch : Option ChunkBatch} {seq : Nat}
    (hc : c ≤ fed.length + 1) (h : Laid fed a (openPieces batch ++ [.batch (.open seq data)]) c) :
    Laid fed a ((batchFrame cfg batch seq data).1.flatMap Call.pieces ++
      [.batch (batchFrame cfg batch seq data).2]) c := by
  cases batch with
  | none => exact h
  | some batch =>
    simp only [batchFrame]
    split
    · exact h
    · exact laid_append_frame hc h

theorem flushAtTarget_pieces (cfg : RecordingWriterConfig) (batch : ChunkBatch) :
    (flushAtTarget cfg batch).1.flatMap Call.pieces ++ openPieces (flushAtTarget cfg batch).2 = [.batch batch] := by
  unfold flushAtTarget
  split <;> rfl

theorem frameCalls_laid (cfg : RecordingWriterConfig) (batch : Option ChunkBatch) {seq : Nat}
    (hc : c ≤ fed.length + 1) (h : Laid fed a (openPieces batch ++ [.batch (.open seq data)]) c) :
    Laid fed a ((frameCalls cfg batch seq data).1.flatMap Call.pieces ++
      openPieces (frameCalls cfg batch seq data).2) c := by
  unfold frameCalls
  split
  · obtain ⟨b, hbatch, hframe⟩ := laid_append.1 h
    rw [List.flatMap_append, flushCalls_pieces]
    simp only [openPieces, Option.toList_none, List.map_nil, List.append_nil]
    exact laid_append.2 ⟨b, hbatch, laid_frame_gap hframe⟩
  · simp only [List.flatMap_append, List.append_assoc, flushAtTarget_pieces]
    exact batchFrame_laid cfg hc h

/-- A command turns what it finds in the open batch and brings along into calls
and a new open batch, frame for frame. -/
theorem command_laid (cfg : RecordingWriterConfig) {batch : Option ChunkBatch} (cmd : Command)
    (hc : c ≤ fed.length + 1) (h : Laid fed a (openPieces batch ++ cmd.pieces) c) :
    Laid fed a ((cmd.calls cfg batch).1.flatMap Call.pieces ++ openPieces (cmd.calls cfg batch).2) c := by
  cases cmd with
  | output seq data gapBefore =>
    cases gapBefore with
    | none => exact frameCalls_laid cfg batch hc h
    | some gap =>
      rw [Command.pieces, ← List.append_assoc] at h
      obtain ⟨b, hbefore, hframe⟩ := laid_append.1 h
      have hafter := frameCalls_laid cfg none hc hframe
      simp only [Command.calls, outputCalls, List.flatMap_append, List.flatMap_cons, flushCalls_pieces]
      rw [List.append_assoc, List.append_assoc, ← List.append_assoc (openPieces batch)]
      exact laid_append.2 ⟨b, hbefore, hafter⟩
  | marker kind seq payload =>
    simpa [Command.calls, List.flatMap_append, flushCalls_pieces, Call.pieces, openPieces, Command.pieces] using h
  | shutdown lastSeq => simpa [Command.calls, Command.pieces] using h

/-! ## What becomes of a piece -/

/-- A chunk that was stored; one whose write failed, with its gap marker; a gap
with its marker; a chunk whose write failed just before the task was aborted; or
a piece no row speaks of. The flag is the repository's answer to the marker. -/
inductive Entry where
  | stored (b : ChunkBatch)
  | failed (b : ChunkBatch) (marked : Bool)
  | gap (g : PendingGap) (marked : Bool)
  | halted (b : ChunkBatch)
  | unrecorded (p : Piece)
  deriving DecidableEq, Repr

def Entry.piece : Entry → Piece
  | .stored b | .failed b _ | .halted b => .batch b
  | .gap g _ => .gap g
  | .unrecorded p => p

/-- The frames of the entry are stored or announced as a gap. -/
def Entry.isRecorded : Entry → Bool
  | .halted _ | .unrecorded _ => false
  | _ => true

def ChunkBatch.row (b : ChunkBatch) : Row := .chunk b.seqStart b.seqEnd b.payload.length b.payload

/-- The rows of an entry, with the repository's answers. -/
def Entry.rows : Entry → Log
  | .stored b => [(b.row, true)]
  | .failed b marked => [(b.row, false), (.replayGap ⟨b.seqStart, b.seqEnd, .writerError⟩, marked)]
  | .gap g marked => [(.replayGap g, marked)]
  | .halted b => [(b.row, false)]
  | .unrecorded _ => []

/-- The rows about frames: chunks and gaps. -/
def Row.isPiece : Row → Bool
  | .marker .. => false
  | _ => true

def Log.pieces (log : Log) : Log := log.filter (·.1.isPiece)

/-- The call returns without submitting a row. -/
def Call.silent : Call → Bool
  | .flushChunk b => b.payload = [] ∨ b.payload.length > i32Max ∨ b.seqStart > i64Max ∨ b.seqEnd > i64Max
  | .writeReplayGap g => g.fromSeq > i64Max ∨ g.toSeq > i64Max
  | .writeMarker .. => false

theorem pieces_append (log rows : Log) : Log.pieces (log ++ rows) = Log.pieces log ++ Log.pieces rows :=
  List.filter_append ..

theorem pieces_rows (x : Entry) : Log.pieces x.rows = x.rows := by
  cases x <;> rfl

theorem writeReplayGap_entry (ok : Nat → Bool) (log : Log) (g : PendingGap) :
    ∃ x : Entry, x.piece = .gap g ∧ writeReplayGap ok log g = log ++ x.rows ∧
      x.isRecorded = !(Call.writeReplayGap g).silent := by
  unfold writeReplayGap
  by_cases hfrom : g.fromSeq > i64Max
  · exact ⟨.unrecorded (.gap g), rfl, by simp [hfrom, Entry.rows], by simp [Entry.isRecorded, Call.silent, hfrom]⟩
  · by_cases hto : g.toSeq > i64Max
    · exact ⟨.unrecorded (.gap g), rfl, by simp [hto, Entry.rows], by simp [Entry.isRecorded, Call.silent, hto]⟩
    · refine ⟨.gap g (ok log.length), rfl, ?_, by simp [Entry.isRecorded, Call.silent, hfrom, hto]⟩
      rw [if_neg hfrom, if_neg hto]
      rfl

theorem flushChunk_entry (ok : Nat → Bool) (log : Log) (b : ChunkBatch) :
    ∃ x : Entry, x.piece = .batch b ∧ flushChunk ok log b = log ++ x.rows ∧
      x.isRecorded = !(Call.flushChunk b).silent := by
  cases hsilent : (Call.flushChunk b).silent with
  | true =>
    refine ⟨.unrecorded (.batch b), rfl, ?_, rfl⟩
    simp only [Call.silent, decide_eq_true_eq] at hsilent
    rw [Entry.rows, List.append_nil]
    unfold flushChunk
    split_ifs <;> first | rfl | (exfalso; tauto)
  | false =>
    simp only [Call.silent, decide_eq_false_iff_not, not_or] at hsilent
    obtain ⟨hpayload, hlen, hstart, hend⟩ := hsilent
    simp only [flushChunk, hpayload, hlen, hstart, hend, if_false]
    cases hok : ok log.length with
    | true =>
      refine ⟨.stored b, rfl, ?_, rfl⟩
      rw [if_pos rfl, Log.submit, hok]
      rfl
    | false =>
      refine ⟨.failed b (ok (log.length + 1)), rfl, ?_, rfl⟩
      rw [if_neg (by simp), writeReplayGap, if_neg hstart, if_neg hend]
      simp [Entry.rows, ChunkBatch.row, Log.submit, hok]

/-- A call turns its pieces into entries; they are recorded unless it is silent. -/
theorem perform_entries (ok : Nat → Bool) (log : Log) (call : Call) :
    ∃ xs : List Entry, xs.map Entry.piece = call.pieces ∧
      Log.pieces (call.perform ok log) = Log.pieces log ++ xs.flatMap Entry.rows ∧
      xs.all Entry.isRecorded = !call.silent := by
  cases call with
  | flushChunk b =>
    obtain ⟨x, hpiece, hrows, hrec⟩ := flushChunk_entry ok log b
    refine ⟨[x], by simp [hpiece, Call.pieces], ?_, by simpa using hrec⟩
    rw [Call.perform, hrows, pieces_append, pieces_rows, List.flatMap_singleton]
  | writeReplayGap g =>
    obtain ⟨x, hpiece, hrows, hrec⟩ := writeReplayGap_entry ok log g
    refine ⟨[x], by simp [hpiece, Call.pieces], ?_, by simpa using hrec⟩
    rw [Call.perform, hrows, pieces_append, pieces_rows, List.flatMap_singleton]
  | writeMarker kind seq payload =>
    exact ⟨[], rfl, by rw [Call.perform, Log.submit, pieces_append]; rfl, rfl⟩

theorem performAll_entries (ok : Nat → Bool) (log : Log) (calls : List Call) :
    ∃ xs : List Entry, xs.map Entry.piece = calls.flatMap Call.pieces ∧
      Log.pieces (calls.foldl (Call.perform ok) log) = Log.pieces log ++ xs.flatMap Entry.rows ∧
      xs.all Entry.isRecorded = calls.all (!·.silent) := by
  induction calls generalizing log with
  | nil => exact ⟨[], rfl, by simp, rfl⟩
  | cons call calls ih =>
    obtain ⟨xs, hpieces, hrows, hrec⟩ := perform_entries ok log call
    obtain ⟨ys, hpieces', hrows', hrec'⟩ := ih (call.perform ok log)
    refine ⟨xs ++ ys, ?_, ?_, ?_⟩
    · rw [List.map_append, hpieces, hpieces', List.flatMap_cons]
    · rw [List.foldl_cons, hrows', hrows, List.flatMap_append, List.append_assoc]
    · rw [List.all_append, hrec, hrec', List.all_cons]

/-! ## Calls that are cut short -/

/-- The rows of an entry cut short are those of another entry of the piece. -/
theorem entry_cut (x : Entry) {n : Nat} (hn : n < x.rows.length) :
    ∃ y : Entry, y.piece = x.piece ∧ x.rows.take n = y.rows := by
  cases n with
  | zero => exact ⟨.unrecorded x.piece, rfl, rfl⟩
  | succ n =>
    cases x with
    | failed b marked =>
      simp only [Entry.rows, List.length_cons, List.length_nil] at hn
      obtain rfl : n = 0 := by omega
      exact ⟨.halted b, rfl, rfl⟩
    | _ => simp [Entry.rows] at hn

/-- A call appends its rows, and its pieces are in entries even if it is cut
short among the rows. -/
theorem perform_cut (ok : Nat → Bool) (log : Log) (call : Call) :
    ∃ rows : Log, call.perform ok log = log ++ rows ∧
      ∀ n < rows.length, ∃ xs : List Entry, xs.map Entry.piece = call.pieces ∧
        Log.pieces (rows.take n) = xs.flatMap Entry.rows := by
  have one : ∀ x : Entry, call.pieces = [x.piece] → ∀ n < x.rows.length, ∃ xs : List Entry,
      xs.map Entry.piece = call.pieces ∧ Log.pieces (x.rows.take n) = xs.flatMap Entry.rows := by
    intro x hx n hn
    obtain ⟨y, hpiece, hrows⟩ := entry_cut x hn
    exact ⟨[y], by simp [hx, hpiece], by rw [hrows, pieces_rows, List.flatMap_singleton]⟩
  cases call with
  | flushChunk b =>
    obtain ⟨x, hpiece, hrows, -⟩ := flushChunk_entry ok log b
    exact ⟨x.rows, hrows, one x (by rw [hpiece]; rfl)⟩
  | writeReplayGap g =>
    obtain ⟨x, hpiece, hrows, -⟩ := writeReplayGap_entry ok log g
    exact ⟨x.rows, hrows, one x (by rw [hpiece]; rfl)⟩
  | writeMarker kind seq payload =>
    refine ⟨_, rfl, fun n hn => ⟨[], rfl, ?_⟩⟩
    obtain rfl : n = 0 := by simpa using hn
    rfl

theorem performAll_append (ok : Nat → Bool) (log : Log) (calls : List Call) :
    ∃ rows : Log, calls.foldl (Call.perform ok) log = log ++ rows := by
  induction calls generalizing log with
  | nil => exact ⟨[], (List.append_nil log).symm⟩
  | cons call calls ih =>
    obtain ⟨rows, hrows, -⟩ := perform_cut ok log call
    obtain ⟨rows', hrows'⟩ := ih (call.perform ok log)
    exact ⟨rows ++ rows', by rw [List.foldl_cons, hrows', hrows, List.append_assoc]⟩

/-- A sequence of calls cut short: the call at the cut leaves some of its rows,
those behind it none. -/
theorem performAll_cut (ok : Nat → Bool) (log : Log) (calls : List Call) (n : Nat) :
    ∃ xs : List Entry, xs.map Entry.piece = calls.flatMap Call.pieces ∧
      Log.pieces ((calls.foldl (Call.perform ok) log).take (log.length + n)) =
        Log.pieces log ++ xs.flatMap Entry.rows := by
  induction calls generalizing log n with
  | nil =>
    refine ⟨[], rfl, ?_⟩
    rw [List.foldl_nil, List.take_of_length_le (Nat.le_add_right _ _), List.flatMap_nil, List.append_nil]
  | cons call calls ih =>
    obtain ⟨rows, hrows, hcut⟩ := perform_cut ok log call
    by_cases hn : n < rows.length
    · obtain ⟨xs, hpieces, hxs⟩ := hcut n hn
      obtain ⟨more, hmore⟩ := performAll_append ok (call.perform ok log) calls
      refine ⟨xs ++ (calls.flatMap Call.pieces).map .unrecorded, ?_, ?_⟩
      · simp [hpieces, Entry.piece, Function.comp_def]
      · rw [List.foldl_cons, hmore, hrows, List.append_assoc, List.take_length_add_append,
          List.take_append_of_le_length (Nat.le_of_lt hn), pieces_append, hxs]
        simp [List.flatMap_map, Entry.rows]
    · obtain ⟨xs, hpieces, hxs, -⟩ := perform_entries ok log call
      obtain ⟨ys, hpieces', hys⟩ := ih (call.perform ok log) (n - rows.length)
      have hlen : (call.perform ok log).length + (n - rows.length) = log.length + n := by
        rw [hrows, List.length_append]
        omega
      refine ⟨xs ++ ys, by rw [List.map_append, hpieces, hpieces', List.flatMap_cons], ?_⟩
      rw [List.foldl_cons, ← hlen, hys, hxs, List.flatMap_append, List.append_assoc]

/-! ## The invariant -/

/-- The entries so far, followed by what is on its way, account for every frame
handed over, and the rows submitted are those of the entries. -/
structure Timeline (w : Writer) (hist : List Entry) : Prop where
  rows : Log.pieces w.log = hist.flatMap Entry.rows
  laid : Laid w.fed 1 (hist.map Entry.piece ++ w.waiting) (w.fed.length + 1)
  idle : w.mode = .returning ∨ w.mode = .stopped → w.batch = none
  gone : w.mode = .stopped → w.queue = []

/-- A step leaves no frame without a row: no helper call is silent, no frame
comes after the task is gone, none is in the queue when it returns, and it is
not aborted. -/
def Writer.Keeps (cfg : RecordingWriterConfig) (w : Writer) : Event → Prop
  | .output data => w.mode = .stopped → data.length > cfg.chunkHardCapBytes
  | .exit => w.queue.flatMap Command.pieces = []
  | .abort _ => False
  | e => (w.calls cfg e).all (!·.silent) = true

instance (cfg : RecordingWriterConfig) (w : Writer) : (e : Event) → Decidable (w.Keeps cfg e)
  | .output _ => inferInstanceAs (Decidable (_ → _))
  | .exit => inferInstanceAs (Decidable (_ = _))
  | .abort _ => inferInstanceAs (Decidable False)
  | .marker .. | .shutdown _ | .dequeue | .finish | .dropSenders | .abandoned =>
    inferInstanceAs (Decidable (_ = _))

theorem enabled_timeline : Timeline .enabled [] :=
  ⟨rfl, laid_nil.2 rfl, by simp [Writer.enabled], by simp [Writer.enabled]⟩

variable {ok : Nat → Bool} {cfg : RecordingWriterConfig} {w w' : Writer} {hist : List Entry}

/-- What comes before the pending gap, and the pending gap. -/
theorem Timeline.split (ht : Timeline w hist) : ∃ b ≤ w.fed.length + 1,
    Laid w.fed 1 (hist.map Entry.piece ++ (openPieces w.batch ++ w.queue.flatMap Command.pieces)) b ∧
    Laid w.fed b (gapPieces w.pendingGap) (w.fed.length + 1) := by
  have hlaid := ht.laid
  rw [Writer.waiting, ← List.append_assoc] at hlaid
  obtain ⟨b, hbefore, hgap⟩ := laid_append.1 hlaid
  exact ⟨b, hgap.1.le, hbefore, hgap⟩

theorem restoreGap_none (slot : Option PendingGap) : slot.bind (restoreGap none) = slot := by
  cases slot <;> rfl

/-- The pending gap takes the next frame in. -/
theorem extendGap_laid {slot : Option PendingGap} {reason : ReplayGapReason}
    (h : Laid fed b (gapPieces slot) (fed.length + 1)) :
    Laid (fed ++ [data]) b (gapPieces (extendGap slot (fed.length + 1) reason)) (fed.length + 1 + 1) := by
  cases slot with
  | none =>
    obtain rfl : b = fed.length + 1 := laid_nil.1 h
    exact ⟨⟨rfl, Nat.lt_succ_self _, rfl⟩, fun p hp => by obtain rfl := List.mem_singleton.1 hp; trivial⟩
  | some g =>
    obtain ⟨⟨hlo, hlt, hend⟩, -⟩ := h
    have hlo : g.fromSeq = b := hlo
    have hlt : b < g.toSeq + 1 := hlt
    have hend : g.toSeq + 1 = fed.length + 1 := hend
    refine ⟨⟨?_, ?_, ?_⟩, fun p hp => by obtain rfl := List.mem_singleton.1 hp; trivial⟩
    · show min g.fromSeq (fed.length + 1) = b
      omega
    · show b < max g.toSeq (fed.length + 1) + 1
      omega
    · show max g.toSeq (fed.length + 1) + 1 = fed.length + 1 + 1
      omega

theorem frame_laid (fed : List Bytes) (data : Bytes) :
    Laid (fed ++ [data]) (fed.length + 1) [.batch (.open (fed.length + 1) data)] (fed.length + 1 + 1) := by
  refine ⟨⟨rfl, Nat.lt_succ_self _, rfl⟩, fun p hp => ?_⟩
  obtain rfl := List.mem_singleton.1 hp
  exact (framesBytes_last fed data).symm

/-- A frame that could not be queued joins the pending gap. -/
theorem dropped_timeline (ht : Timeline w hist) (data : Bytes) (reason : ReplayGapReason) :
    Timeline { w with
      fed := w.fed ++ [data]
      pendingGap := extendGap w.pendingGap (w.fed.length + 1) reason } hist := by
  obtain ⟨b, hb, hbefore, hgap⟩ := ht.split
  refine ⟨ht.rows, ?_, ht.idle, ht.gone⟩
  rw [Writer.waiting, ← List.append_assoc, List.length_append, List.length_singleton]
  exact laid_append.2 ⟨b, hbefore.grow hb, extendGap_laid hgap⟩

/-- A frame that was queued takes the pending gap along. -/
theorem queued_timeline (ht : Timeline w hist) (data : Bytes) (hmode : w.mode ≠ .stopped) :
    Timeline { w with
      fed := w.fed ++ [data]
      queue := w.queue ++ [.output (w.fed.length + 1) data w.pendingGap]
      pendingGap := none } hist := by
  obtain ⟨b, hb, hbefore, hgap⟩ := ht.split
  refine ⟨ht.rows, ?_, ht.idle, fun h => absurd h hmode⟩
  have hall := laid_append.2 ⟨_, laid_append.2 ⟨b, hbefore.grow hb, hgap.grow (Nat.le_refl _)⟩, frame_laid w.fed data⟩
  rw [List.length_append, List.length_singleton]
  simpa [Writer.waiting, Command.pieces, gapPieces, List.append_assoc] using hall

/-- A frame handed over after the task is gone is lost, and the pending gap with it. -/
theorem closed_timeline (ht : Timeline w hist) (data : Bytes) (hmode : w.mode = .stopped) :
    Timeline { w with fed := w.fed ++ [data], pendingGap := none }
      (hist ++ (gapPieces w.pendingGap ++ [Piece.batch (.open (w.fed.length + 1) data)]).map .unrecorded) := by
  obtain ⟨b, hb, hbefore, hgap⟩ := ht.split
  refine ⟨?_, ?_, ht.idle, ht.gone⟩
  · rw [ht.rows, List.flatMap_append]
    simp [List.flatMap_map, Entry.rows]
  · have hall := laid_append.2 ⟨_, laid_append.2 ⟨b, hbefore.grow hb, hgap.grow (Nat.le_refl _)⟩, frame_laid w.fed data⟩
    rw [List.length_append, List.length_singleton]
    simpa [Writer.waiting, openPieces, gapPieces, ht.idle (.inr hmode), ht.gone hmode, Entry.piece,
      Function.comp_def, List.append_assoc] using hall

theorem output_timeline (ht : Timeline w hist) (data : Bytes) :
    ∃ more, Timeline ({ w with fed := w.fed ++ [data] }.recordOutput cfg (w.fed.length + 1) data) (hist ++ more) ∧
      (more.all Entry.isRecorded = true ↔ w.Keeps cfg (.output data)) := by
  unfold Writer.recordOutput Writer.trySend
  split
  · next hlong =>
    refine ⟨[], ?_, ?_⟩
    · rw [List.append_nil]
      exact dropped_timeline ht data .frameOversized
    · simp [Writer.Keeps, hlong]
  · next hfits =>
    split
    · next hmode =>
      have hmode : w.mode = .stopped := hmode
      refine ⟨_, closed_timeline ht data hmode, ?_⟩
      simp [Writer.Keeps, Entry.isRecorded, hmode, hfits]
    · next hmode =>
      refine ⟨[], ?_, ?_⟩
      · rw [List.append_nil]
        split
        · exact queued_timeline ht data hmode
        · rw [restoreGap_none]
          exact dropped_timeline ht data .writerOverflow
      · simp [Writer.Keeps, hmode]

/-- The task takes the open batch and the pieces `taken` from the front of the
queue, makes `calls`, and leaves `batch` open. -/
theorem performed_laid (ht : Timeline w hist) {calls : List Call} (batch : Option ChunkBatch)
    (taken rest : List Piece) {more : List Entry} (hmore : more.map Entry.piece = calls.flatMap Call.pieces)
    (hqueue : w.queue.flatMap Command.pieces = taken ++ rest)
    (hcalls : ∀ a c, c ≤ w.fed.length + 1 → Laid w.fed a (openPieces w.batch ++ taken) c →
      Laid w.fed a (calls.flatMap Call.pieces ++ openPieces batch) c) :
    Laid w.fed 1 ((hist ++ more).map Entry.piece ++ (openPieces batch ++ rest ++ gapPieces w.pendingGap))
      (w.fed.length + 1) := by
  have hlaid := ht.laid
  rw [Writer.waiting, hqueue, show openPieces w.batch ++ (taken ++ rest) ++ gapPieces w.pendingGap =
    openPieces w.batch ++ taken ++ (rest ++ gapPieces w.pendingGap) by simp] at hlaid
  obtain ⟨a, hhist, hlaid⟩ := laid_append.1 hlaid
  obtain ⟨c, htaken, hrest⟩ := laid_append.1 hlaid
  have hdone := hcalls a c hrest.1.le htaken
  rw [← hmore] at hdone
  have hall := laid_append.2 ⟨a, hhist, laid_append.2 ⟨c, hdone, hrest⟩⟩
  simpa [List.append_assoc] using hall

/-- The calls made add entries, recorded unless a call is silent. -/
theorem performed_rows (ok : Nat → Bool) (ht : Timeline w hist) (calls : List Call) :
    ∃ more : List Entry, more.map Entry.piece = calls.flatMap Call.pieces ∧
      Log.pieces (calls.foldl (Call.perform ok) w.log) = (hist ++ more).flatMap Entry.rows ∧
      more.all Entry.isRecorded = calls.all (!·.silent) := by
  obtain ⟨more, hpieces, hrows, hrec⟩ := performAll_entries ok w.log calls
  exact ⟨more, hpieces, by rw [hrows, ht.rows, List.flatMap_append], hrec⟩

/-- The main loop and the drain go on in a mode in which the task is alive. -/
theorem nextMode_alive (cmd : Command) {mode : Mode} (hmode : ¬ (mode = .returning ∨ mode = .stopped)) :
    ¬ (cmd.nextMode mode = .returning ∨ cmd.nextMode mode = .stopped) := by
  cases cmd with
  | shutdown lastSeq =>
    simp only [Command.nextMode]
    split
    · simp
    · exact hmode
  | _ => exact hmode

theorem dequeue_timeline (ht : Timeline w hist) {cmd : Command} {rest : List Command} (hqueue : w.queue = cmd :: rest)
    (hmode : ¬ (w.mode = .returning ∨ w.mode = .stopped)) :
    ∃ more, Timeline { w.perform ok (w.calls cfg .dequeue) with
        queue := rest
        batch := (cmd.calls cfg w.batch).2
        highestSeqObserved := cmd.highest w.mode w.highestSeqObserved
        mode := cmd.nextMode w.mode } (hist ++ more) ∧
      (more.all Entry.isRecorded = true ↔ w.Keeps cfg .dequeue) := by
  have hcalls : w.calls cfg .dequeue = (cmd.calls cfg w.batch).1 := by rw [Writer.calls, hqueue]
  obtain ⟨more, hpieces, hrows, hrec⟩ := performed_rows ok ht (w.calls cfg .dequeue)
  have hlaid := performed_laid ht (cmd.calls cfg w.batch).2 cmd.pieces (rest.flatMap Command.pieces) hpieces
    (by rw [hqueue, List.flatMap_cons])
    (fun a c hc h => by rw [hcalls]; exact command_laid cfg cmd hc h)
  have hnext := nextMode_alive cmd hmode
  exact ⟨more, ⟨hrows, hlaid, fun h => absurd h hnext, fun h => absurd (.inr h) hnext⟩, by rw [hrec]; rfl⟩

/-- The trailing chunk is flushed and the recording sealed. -/
theorem sealed_timeline (ht : Timeline w hist) (hqueue : w.queue = []) {mode : Mode} {e : Event} {seq : Nat}
    {payload : JsonObject}
    (hcalls : w.calls cfg e = flushCalls w.batch ++ [.writeMarker .closed seq payload]) :
    ∃ more, Timeline { w.perform ok (w.calls cfg e) with batch := none, mode } (hist ++ more) ∧
      (more.all Entry.isRecorded = true ↔ (w.calls cfg e).all (!·.silent) = true) := by
  obtain ⟨more, hpieces, hrows, hrec⟩ := performed_rows ok ht (w.calls cfg e)
  have hlaid := performed_laid ht none [] [] hpieces (by simp [hqueue])
    (fun a c _ h => by
      rw [hcalls, List.flatMap_append, flushCalls_pieces]
      simpa [Call.pieces, openPieces] using h)
  refine ⟨more, ⟨hrows, ?_, fun _ => rfl, fun _ => hqueue⟩, by rw [hrec]⟩
  simpa [Writer.waiting, Writer.perform, hqueue, openPieces] using hlaid

theorem all_unrecorded (ps : List Piece) : (ps.map Entry.unrecorded).all Entry.isRecorded = true ↔ ps = [] := by
  cases ps <;> simp [Entry.isRecorded]

/-- What is still in the queue when the task returns is lost. -/
theorem exit_timeline (ht : Timeline w hist) (hmode : w.mode = .returning) :
    Timeline { w with mode := .stopped, queue := [] }
      (hist ++ (w.queue.flatMap Command.pieces).map .unrecorded) := by
  have hbatch := ht.idle (.inl hmode)
  refine ⟨?_, ?_, fun _ => hbatch, fun _ => rfl⟩
  · rw [List.flatMap_append, ht.rows]
    simp [List.flatMap_map, Entry.rows]
  · have hlaid := ht.laid
    simpa [Writer.waiting, hbatch, openPieces, Entry.piece, Function.comp_def] using hlaid

/-- The task is aborted `n` rows into its calls: what it left open and the rest
of the queue are lost. -/
theorem cut_timeline (ht : Timeline w hist) (n : Nat) {calls : List Call} (batch : Option ChunkBatch)
    (taken rest : List Piece) (hqueue : w.queue.flatMap Command.pieces = taken ++ rest)
    (hcalls : ∀ a c, c ≤ w.fed.length + 1 → Laid w.fed a (openPieces w.batch ++ taken) c →
      Laid w.fed a (calls.flatMap Call.pieces ++ openPieces batch) c) :
    ∃ more, Timeline { w with
      log := (w.perform ok calls).log.take (w.log.length + n)
      queue := []
      batch := none
      mode := .stopped } (hist ++ more) := by
  obtain ⟨xs, hpieces, hrows⟩ := performAll_cut ok w.log calls n
  have hlaid := performed_laid ht batch taken rest hpieces hqueue hcalls
  refine ⟨xs ++ (openPieces batch ++ rest).map .unrecorded, ?_, ?_, fun _ => rfl, fun _ => rfl⟩
  · rw [Writer.perform, hrows, ht.rows]
    simp [List.flatMap_map, Entry.rows]
  · simpa [Writer.waiting, openPieces, Entry.piece, Function.comp_def, List.append_assoc] using hlaid

theorem abort_timeline (ht : Timeline w hist) (n : Nat) (hpending : w.ackPending = true) :
    ∃ more, Timeline { w with
      log := (w.perform ok (w.doing cfg)).log.take (w.log.length + n)
      queue := []
      batch := none
      mode := .stopped } (hist ++ more) := by
  cases hqueue : w.queue with
  | nil =>
    -- at the end of the drain the trailing chunk and the `closed` marker are at hand
    cases hmode : w.mode with
    | draining lastSeq =>
      have hdoing : w.doing cfg =
          flushCalls w.batch ++ [.writeMarker .closed (closeSeq lastSeq) [("reason", .str "session_close")]] := by
        simp only [Writer.doing, hqueue, Writer.calls, hmode]
      refine cut_timeline ht n none [] [] (by simp [hqueue]) fun a c _ h => ?_
      rw [hdoing, List.flatMap_append, flushCalls_pieces]
      simpa [Call.pieces, openPieces] using h
    | running | returning | stopped => simp [Writer.ackPending, hmode, hqueue] at hpending
  | cons cmd rest =>
    have hdoing : w.doing cfg = (cmd.calls cfg w.batch).1 := by simp only [Writer.doing, hqueue, Writer.calls]
    refine cut_timeline ht n (cmd.calls cfg w.batch).2 cmd.pieces (rest.flatMap Command.pieces)
      (by rw [hqueue, List.flatMap_cons]) fun a c hc h => ?_
    rw [hdoing]
    exact command_laid cfg cmd hc h

/-- **One step** extends the timeline, and unless the task is aborted it leaves
no frame without a row exactly when it is one that `Keeps` allows. -/
theorem step_timeline {e : Event} (h : w.step ok cfg e = some w') (ht : Timeline w hist) :
    ∃ more, Timeline w' (hist ++ more) ∧
      ((∀ n, e ≠ .abort n) → (more.all Entry.isRecorded = true ↔ w.Keeps cfg e)) := by
  have kept : ∀ v : Writer,
      (∃ more, Timeline v (hist ++ more) ∧ (more.all Entry.isRecorded = true ↔ w.Keeps cfg e)) →
      ∃ more, Timeline v (hist ++ more) ∧
        ((∀ n, e ≠ .abort n) → (more.all Entry.isRecorded = true ↔ w.Keeps cfg e)) :=
    fun v ⟨more, hmore, hkeeps⟩ => ⟨more, hmore, fun _ => hkeeps⟩
  have quiet : ∀ v : Writer, v.log = w.log → v.fed = w.fed → v.waiting = w.waiting →
      (v.mode = .returning ∨ v.mode = .stopped → v.batch = none) → (v.mode = .stopped → v.queue = []) →
      w.Keeps cfg e → ∃ more, Timeline v (hist ++ more) ∧
        ((∀ n, e ≠ .abort n) → (more.all Entry.isRecorded = true ↔ w.Keeps cfg e)) := by
    intro v hlog hfed hwait hidle hgone hkeeps
    refine kept v ⟨[], ⟨?_, ?_, hidle, hgone⟩, by simpa using hkeeps⟩
    · rw [List.append_nil, hlog]
      exact ht.rows
    · rw [List.append_nil, hwait, hfed]
      exact ht.laid
  cases step_cases h with
  | output data => exact kept _ (output_timeline ht data)
  | marker kind seq payload =>
    rcases recordMarker_cases w kind seq payload with hsame | ⟨hmode, -, hqueued⟩
    · rw [hsame]
      exact quiet w rfl rfl rfl ht.idle ht.gone rfl
    · rw [hqueued]
      refine quiet _ rfl rfl ?_ ht.idle (fun h => absurd h hmode) rfl
      simp [Writer.waiting, Command.pieces]
  | shutdownGone => exact quiet w rfl rfl rfl ht.idle ht.gone rfl
  | shutdownQueued lastSeq _ hmode =>
    refine quiet _ rfl rfl ?_ ht.idle (fun h => absurd h hmode) rfl
    simp [Writer.waiting, Command.pieces]
  | dequeued cmd rest hmode hqueue => exact kept _ (dequeue_timeline ht hqueue hmode)
  | finished lastSeq hmode hqueue => exact kept _ (sealed_timeline ht hqueue (by rw [Writer.calls, hmode]))
  | exited hmode =>
    refine kept _ ⟨_, exit_timeline ht hmode, ?_⟩
    rw [all_unrecorded]
    rfl
  | sendersDropped => exact quiet _ rfl rfl rfl ht.idle ht.gone rfl
  | abandoned _ _ hqueue => exact kept _ (sealed_timeline ht hqueue rfl)
  | aborted n hpending =>
    obtain ⟨more, hmore⟩ := abort_timeline ht n hpending
    exact ⟨more, hmore, fun he => absurd rfl (he n)⟩

/-- **A whole run** extends the timeline, and unless the task is aborted it
leaves no frame without a row exactly when all its steps are ones that `Keeps`
allows. -/
theorem run_timeline {evs : List Event} (hr : run (Writer.step ok cfg) w evs = some w') (ht : Timeline w hist) :
    ∃ more, Timeline w' (hist ++ more) ∧ ((∀ e ∈ evs, ∀ n, e ≠ .abort n) →
      (more.all Entry.isRecorded = true ↔ Guarded (Writer.step ok cfg) (Writer.Keeps cfg) w evs)) := by
  induction evs generalizing w hist with
  | nil =>
    cases hr
    exact ⟨[], by simpa using ht, fun _ => by simp [Guarded]⟩
  | cons e evs ih =>
    obtain ⟨v, hv, hr⟩ := run_cons.1 hr
    obtain ⟨xs, hxs, hkeep⟩ := step_timeline hv ht
    obtain ⟨ys, hys, hrest⟩ := ih hr hxs
    refine ⟨xs ++ ys, by rwa [← List.append_assoc], fun hfinished => ?_⟩
    obtain ⟨he, hfinished⟩ := List.forall_mem_cons.1 hfinished
    rw [List.all_append, Bool.and_eq_true, hkeep he, hrest hfinished, Guarded]
    refine and_congr_right fun _ => ⟨fun hg t ht' => ?_, fun hg => hg v hv⟩
    obtain rfl : v = t := Option.some.inj (hv.symm.trans ht')
    exact hg

end RelayTerm.Recording
