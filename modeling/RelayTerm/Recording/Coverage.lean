import RelayTerm.Recording.Timeline
/-!
# What a recording says about its frames

Two readings of the timeline. The chunks that are stored hold exactly the bytes
of their frames, in order, and meet no gap the writer announces. And a
recording that was shut down accounts for every frame exactly when no gap was
pending at the shutdown and no helper call of the writer task was silent.
-/
open RelayTerm.Lib

namespace RelayTerm.Recording

/-- The chunk a row stores, if the repository took it. -/
def storedChunk : Row × Bool → Option ChunkBatch
  | (.chunk seqStart seqEnd _ payload, true) => some ⟨seqStart, seqEnd, payload⟩
  | _ => none

/-- The gap of a `replay_gap` marker the writer attempted to write. -/
def attemptedGap : Row × Bool → Option PendingGap
  | (.replayGap gap, _) => some gap
  | _ => none

/-- The gap of a `replay_gap` marker the repository took. -/
def storedGap : Row × Bool → Option PendingGap
  | (.replayGap gap, true) => some gap
  | _ => none

def Writer.chunks (w : Writer) : List ChunkBatch := w.log.filterMap storedChunk

def Writer.attemptedGaps (w : Writer) : List PendingGap := w.log.filterMap attemptedGap

def Writer.gaps (w : Writer) : List PendingGap := w.log.filterMap storedGap

variable {ok : Nat → Bool} {cfg : RecordingWriterConfig} {w w' : Writer} {hist : List Entry}

/-! ## Rows and entries -/

/-- What is read from the rows about frames is read from the entries. -/
theorem Timeline.filterMap_log (ht : Timeline w hist) {α : Type} {f : Row × Bool → Option α} {g : Entry → Option α}
    (hf : ∀ row answer, row.isPiece = false → f (row, answer) = none)
    (hg : ∀ x : Entry, x.rows.filterMap f = (g x).toList) : w.log.filterMap f = hist.filterMap g := by
  have hpieces : w.log.filterMap f = (Log.pieces w.log).filterMap f := by
    rw [Log.pieces, List.filterMap_filter]
    refine List.filterMap_congr fun r _ => ?_
    cases hr : r.1.isPiece with
    | true => simp
    | false => simp [hf r.1 r.2 hr]
  rw [hpieces, ht.rows, List.filterMap_flatMap, List.filterMap_eq_flatMap_toList]
  exact List.flatMap_congr fun x _ => hg x

/-- Entries and what is on its way make up the frames, entry by entry. -/
theorem Timeline.tiles (ht : Timeline w hist) :
    Tiles (fun x : Entry => x.piece.lo) (fun x : Entry => x.piece.hi) 1 (hist ++ w.waiting.map .unrecorded)
      (w.fed.length + 1) := by
  have hmap : (hist ++ w.waiting.map Entry.unrecorded).map Entry.piece = hist.map Entry.piece ++ w.waiting := by
    rw [List.map_append, List.map_map]
    exact congrArg _ (List.map_id w.waiting)
  exact tiles_map.1 (hmap ▸ ht.laid.1)

def Entry.storedBatch : Entry → Option ChunkBatch
  | .stored b => some b
  | _ => none

/-- The range of frames a `replay_gap` marker of the entry speaks of. -/
def Entry.attempted : Entry → Option PendingGap
  | .failed b _ => some ⟨b.seqStart, b.seqEnd, .writerError⟩
  | .gap g _ => some g
  | _ => none

theorem Timeline.chunks_eq (ht : Timeline w hist) : w.chunks = hist.filterMap Entry.storedBatch := by
  refine ht.filterMap_log (fun row answer hrow => ?_) (fun x => ?_)
  · cases row <;> simp_all [Row.isPiece, storedChunk]
  · cases x <;> rfl

theorem Timeline.attemptedGaps_eq (ht : Timeline w hist) : w.attemptedGaps = hist.filterMap Entry.attempted := by
  refine ht.filterMap_log (fun row answer hrow => ?_) (fun x => ?_)
  · cases row <;> simp_all [Row.isPiece, attemptedGap]
  · cases x <;> rfl

theorem storedBatch_eq {x : Entry} {b : ChunkBatch} (h : x.storedBatch = some b) : x = .stored b := by
  cases x <;> simp_all [Entry.storedBatch]

/-- The range announced is the range of the entry, and the entry is not a stored chunk. -/
theorem attempted_range {x : Entry} {g : PendingGap} (h : x.attempted = some g) :
    x.piece.lo = g.fromSeq ∧ x.piece.hi = g.toSeq + 1 ∧ x.storedBatch = none := by
  cases x with
  | failed b marked =>
    obtain rfl := Option.some.inj h
    exact ⟨rfl, rfl, rfl⟩
  | gap g' marked =>
    obtain rfl := Option.some.inj h
    exact ⟨rfl, rfl, rfl⟩
  | stored | halted | unrecorded => simp [Entry.attempted] at h

/-- The batches of any selection of entries hold the bytes of their frames and
follow each other. -/
theorem Timeline.batches (ht : Timeline w hist) {f : Entry → Option ChunkBatch}
    (hf : ∀ x b, f x = some b → x.piece = .batch b) :
    (∀ b ∈ hist.filterMap f, 1 ≤ b.seqStart ∧ b.seqStart ≤ b.seqEnd ∧ b.seqEnd ≤ w.fed.length ∧
      b.payload = framesBytes w.fed b.seqStart (b.seqEnd + 1)) ∧
    (hist.filterMap f).Pairwise (fun b b' => b.seqEnd < b'.seqStart) := by
  constructor
  · intro b hb
    obtain ⟨x, hx, hxb⟩ := List.mem_filterMap.1 hb
    have hpiece := hf x b hxb
    have hbounds := ht.tiles.bounds (List.mem_append_left _ hx)
    have hfaith := ht.laid.2 (.batch b) (List.mem_append_left _ (hpiece ▸ List.mem_map_of_mem hx))
    simp only [hpiece, Piece.lo, Piece.hi] at hbounds
    exact ⟨hbounds.1, by omega, by omega, hfaith⟩
  · rw [List.pairwise_filterMap]
    refine (List.pairwise_append.1 ht.tiles.pairwise).1.imp fun {x y} hxy b hb b' hb' => ?_
    rw [hf x b hb, hf y b' hb'] at hxy
    exact hxy

/-! ## Recorded chunks are faithful -/

/-- **Recorded chunks are faithful**: in every run of the writer, whatever the
repository answers, a stored chunk holds exactly the bytes of its frames;
stored chunks follow each other in order and do not overlap; and none meets the
range of a `replay_gap` marker the writer attempts to write. -/
theorem chunks_faithful (ok : Nat → Bool) (cfg : RecordingWriterConfig) (evs : List Event)
    (hr : run (Writer.step ok cfg) .enabled evs = some w) :
    (∀ b ∈ w.chunks, 1 ≤ b.seqStart ∧ b.seqStart ≤ b.seqEnd ∧ b.seqEnd ≤ w.fed.length ∧
      b.payload = framesBytes w.fed b.seqStart (b.seqEnd + 1)) ∧
    w.chunks.Pairwise (fun b b' => b.seqEnd < b'.seqStart) ∧
    ∀ b ∈ w.chunks, ∀ g ∈ w.attemptedGaps, b.seqEnd < g.fromSeq ∨ g.toSeq < b.seqStart := by
  obtain ⟨hist, ht, -⟩ := run_timeline hr enabled_timeline
  rw [List.nil_append] at ht
  rw [ht.chunks_eq, ht.attemptedGaps_eq]
  have hbatches := ht.batches fun x b (hb : x.storedBatch = some b) => by rw [storedBatch_eq hb]; rfl
  refine ⟨hbatches.1, hbatches.2, fun b hb g hg => ?_⟩
  obtain ⟨y, hy, hyb⟩ := List.mem_filterMap.1 hb
  obtain rfl := storedBatch_eq hyb
  obtain ⟨x, hx, hxg⟩ := List.mem_filterMap.1 hg
  obtain ⟨hlo, hhi, hnot⟩ := attempted_range hxg
  have hne : Entry.stored b ≠ x := by
    rintro rfl
    simp [Entry.storedBatch] at hnot
  have hdisj := ht.tiles.disjoint (List.mem_append_left _ hy) (List.mem_append_left _ hx) hne
  rw [hlo, hhi] at hdisj
  exact hdisj

/-- Frame 2 is over the hard cap of 4 bytes; frames 3 and 4 share a chunk; the
repository refuses the chunk of frame 5. -/
def mixedRun : List Event :=
  [.dequeue, .output [1], .output [2, 2, 2, 2, 2], .output [3], .output [4, 4], .output [5, 5],
    .dequeue, .dequeue, .dequeue, .dequeue]

theorem chunks_faithful_mixed : ∃ w, run (Writer.step (· ≠ 4) ⟨2, 4⟩) .enabled mixedRun = some w ∧
    w.chunks = [⟨1, 1, [1]⟩, ⟨3, 4, [3, 4, 4]⟩] ∧
    w.attemptedGaps = [⟨2, 2, .frameOversized⟩, ⟨5, 5, .writerError⟩] ∧
    (∀ b ∈ w.chunks, 1 ≤ b.seqStart ∧ b.seqStart ≤ b.seqEnd ∧ b.seqEnd ≤ w.fed.length ∧
      b.payload = framesBytes w.fed b.seqStart (b.seqEnd + 1)) ∧
    w.chunks.Pairwise (fun b b' => b.seqEnd < b'.seqStart) ∧
    ∀ b ∈ w.chunks, ∀ g ∈ w.attemptedGaps, b.seqEnd < g.fromSeq ∨ g.toSeq < b.seqStart :=
  ⟨_, rfl, rfl, rfl, chunks_faithful (· ≠ 4) ⟨2, 4⟩ mixedRun rfl⟩

-- aborted between a refused chunk and its gap marker
example : ∃ w, run (Writer.step (· = 0) ⟨1, 4⟩) .enabled [.dequeue, .output [1], .shutdown 1, .abort 1] = some w ∧
    w.log = [(.marker .started 0 [], true), (.chunk 1 1 1 [1], false)] ∧ w.mode = .stopped :=
  ⟨_, rfl, rfl, rfl⟩

/-! ## What is lost without a trace -/

/-- The frame lies in a stored chunk or in the range of a stored gap marker. -/
def Writer.Accounted (w : Writer) (q : Nat) : Prop :=
  (∃ b ∈ w.chunks, b.seqStart ≤ q ∧ q ≤ b.seqEnd) ∨ ∃ g ∈ w.gaps, g.fromSeq ≤ q ∧ q ≤ g.toSeq

def Row.isChunk : Row → Bool
  | .chunk .. => true
  | _ => false

/-- Every marker was taken by the repository. -/
def Writer.MarkersStored (w : Writer) : Prop := ∀ r ∈ w.log, r.1.isChunk = false → r.2 = true

instance (w : Writer) : Decidable w.MarkersStored := inferInstanceAs (Decidable (∀ _ ∈ _, _))

theorem storedGap_attempted {r : Row × Bool} {g : PendingGap} (h : storedGap r = some g) :
    attemptedGap r = some g := by
  obtain ⟨row, stored⟩ := r
  cases row <;> cases stored <;> simp_all [storedGap, attemptedGap]

/-- If every marker is stored, the gaps stored are those attempted. -/
theorem mem_gaps (hm : w.MarkersStored) {g : PendingGap} : g ∈ w.gaps ↔ g ∈ w.attemptedGaps := by
  simp only [Writer.gaps, Writer.attemptedGaps, List.mem_filterMap]
  constructor
  · rintro ⟨r, hr, hg⟩
    exact ⟨r, hr, storedGap_attempted hg⟩
  · rintro ⟨r, hr, hg⟩
    refine ⟨r, hr, ?_⟩
    have hstored := hm r hr
    obtain ⟨row, stored⟩ := r
    cases row <;> simp_all [storedGap, attemptedGap, Row.isChunk]

/-- A frame is accounted for exactly when its entry is recorded. -/
theorem Timeline.accounted_iff (ht : Timeline w hist) (hm : w.MarkersStored) {q : Nat} :
    w.Accounted q ↔ ∃ x ∈ hist, x.isRecorded = true ∧ x.piece.lo ≤ q ∧ q < x.piece.hi := by
  unfold Writer.Accounted
  simp only [mem_gaps hm, ht.chunks_eq, ht.attemptedGaps_eq, List.mem_filterMap]
  constructor
  · rintro (⟨b, ⟨x, hx, hb⟩, hlo, hhi⟩ | ⟨g, ⟨x, hx, hg⟩, hlo, hhi⟩)
    · obtain rfl := storedBatch_eq hb
      exact ⟨_, hx, rfl, hlo, Nat.lt_succ_of_le hhi⟩
    · obtain ⟨hl, hh, -⟩ := attempted_range hg
      refine ⟨x, hx, ?_, by omega, by omega⟩
      cases x <;> simp_all [Entry.attempted, Entry.isRecorded]
  · rintro ⟨x, hx, hrec, hlo, hhi⟩
    cases x with
    | stored b => exact .inl ⟨b, ⟨_, hx, rfl⟩, hlo, Nat.le_of_lt_succ hhi⟩
    | failed b marked => exact .inr ⟨_, ⟨_, hx, rfl⟩, hlo, Nat.le_of_lt_succ hhi⟩
    | gap g marked => exact .inr ⟨g, ⟨_, hx, rfl⟩, hlo, Nat.le_of_lt_succ hhi⟩
    | halted b | unrecorded p => simp [Entry.isRecorded] at hrec

/-- An entry that is not recorded has a frame that nothing accounts for. -/
theorem Timeline.unaccounted (ht : Timeline w hist) (hm : w.MarkersStored) {y : Entry}
    (hy : y ∈ hist ++ w.waiting.map Entry.unrecorded) (hnot : y.isRecorded = false) :
    ∃ q, 1 ≤ q ∧ q ≤ w.fed.length ∧ ¬ w.Accounted q := by
  have hbounds := ht.tiles.bounds hy
  refine ⟨y.piece.lo, hbounds.1, by omega, fun hacc => ?_⟩
  obtain ⟨x, hx, hrec, hlo, hhi⟩ := (ht.accounted_iff hm).1 hacc
  have hne : x ≠ y := by
    rintro rfl
    simp [hnot] at hrec
  have hdisj := ht.tiles.disjoint (List.mem_append_left _ hx) hy hne
  omega

/-- Once nothing but a gap is on its way, all frames are accounted for exactly
when every entry is recorded and no gap is pending. -/
theorem Timeline.all_accounted_iff (ht : Timeline w hist) (hm : w.MarkersStored)
    (hwait : w.waiting = gapPieces w.pendingGap) :
    (∀ q, 1 ≤ q → q ≤ w.fed.length → w.Accounted q) ↔
      w.pendingGap = none ∧ hist.all Entry.isRecorded = true := by
  constructor
  · intro hall
    have hrec : ∀ x ∈ hist ++ w.waiting.map Entry.unrecorded, x.isRecorded = true := by
      intro x hx
      by_contra hnot
      obtain ⟨q, h1, hn, hq⟩ := ht.unaccounted hm hx (Bool.eq_false_iff.2 hnot)
      exact hq (hall q h1 hn)
    refine ⟨?_, List.all_eq_true.2 fun x hx => hrec x (List.mem_append_left _ hx)⟩
    cases hgap : w.pendingGap with
    | none => rfl
    | some g => exact absurd (hrec (.unrecorded (.gap g)) (by simp [hwait, hgap, gapPieces])) Bool.false_ne_true
  · rintro ⟨hgap, hrec⟩ q h1 hn
    obtain ⟨x, hx, hlo, hhi⟩ := ht.tiles.cover h1 (Nat.lt_succ_of_le hn)
    rw [hwait, hgap] at hx
    have hx : x ∈ hist := by simpa [gapPieces] using hx
    exact (ht.accounted_iff hm).2 ⟨x, hx, List.all_eq_true.1 hrec x hx, hlo, hhi⟩

/-! ## Up to the shutdown, and after it -/

/-- As long as nobody called `shutdown`, the task is in its main loop, unless
every sender was dropped, and no ack is awaited. -/
structure Writer.Feeding (w : Writer) : Prop where
  mode : w.mode = .running ∨ w.mode = .stopped ∧ w.senders = false
  queue : w.queue.any Command.isShutdown = false

theorem Writer.Feeding.running (hw : w.Feeding) (alive : w.senders = true) : w.mode = .running := by
  rcases hw.mode with hmode | ⟨-, hdropped⟩
  · exact hmode
  · simp [alive] at hdropped

theorem Writer.Feeding.not_ackPending (hw : w.Feeding) : w.ackPending = false := by
  unfold Writer.ackPending
  rcases hw.mode with hmode | ⟨hmode, -⟩
  · rw [hmode]
    exact hw.queue
  · rw [hmode]

theorem enabled_feeding : Writer.enabled.Feeding := ⟨.inl rfl, rfl⟩

theorem step_feeding {e : Event} (h : w.step ok cfg e = some w') (he : ∀ lastSeq, e ≠ .shutdown lastSeq)
    (hw : w.Feeding) : w'.Feeding ∧ ∀ n, e ≠ .abort n := by
  cases step_cases h with
  | output data =>
    refine ⟨?_, by simp⟩
    obtain ⟨gap, hout | ⟨-, hout⟩⟩ := recordOutput_cases cfg { w with fed := w.fed ++ [data] } (w.fed.length + 1) data
    · rw [hout]
      exact ⟨hw.mode, hw.queue⟩
    · rw [hout]
      exact ⟨hw.mode, by simp [hw.queue, Command.isShutdown]⟩
  | marker kind seq payload =>
    refine ⟨?_, by simp⟩
    rcases recordMarker_cases w kind seq payload with hsame | ⟨-, -, hqueued⟩
    · rw [hsame]
      exact hw
    · rw [hqueued]
      exact ⟨hw.mode, by simp [hw.queue, Command.isShutdown]⟩
  | shutdownGone lastSeq | shutdownQueued lastSeq => exact absurd rfl (he lastSeq)
  | dequeued cmd rest hmode hqueue =>
    obtain ⟨hcmd, hrest⟩ : cmd.isShutdown = false ∧ rest.any Command.isShutdown = false := by
      simpa [hqueue] using hw.queue
    refine ⟨⟨?_, hrest⟩, by simp⟩
    cases cmd with
    | shutdown lastSeq => simp [Command.isShutdown] at hcmd
    | _ => exact hw.mode
  | finished lastSeq hmode =>
    rcases hw.mode with hw | ⟨hw, -⟩
    all_goals simp [hw] at hmode
  | exited hmode =>
    rcases hw.mode with hw | ⟨hw, -⟩
    all_goals simp [hw] at hmode
  | sendersDropped =>
    refine ⟨⟨?_, hw.queue⟩, by simp⟩
    rcases hw.mode with hmode | ⟨hmode, -⟩
    · exact .inl hmode
    · exact .inr ⟨hmode, rfl⟩
  | abandoned _ hsenders => exact ⟨⟨.inr ⟨rfl, hsenders⟩, hw.queue⟩, by simp⟩
  | aborted n hpending => simp [hw.not_ackPending] at hpending

/-- Before a shutdown the task is not aborted. -/
theorem run_feeding {evs : List Event} (hr : run (Writer.step ok cfg) w evs = some w')
    (hevs : ∀ e ∈ evs, ∀ lastSeq, e ≠ .shutdown lastSeq) (hw : w.Feeding) :
    w'.Feeding ∧ ∀ e ∈ evs, ∀ n, e ≠ .abort n := by
  induction evs generalizing w with
  | nil =>
    cases hr
    exact ⟨hw, by simp⟩
  | cons e evs ih =>
    obtain ⟨he, hevs⟩ := List.forall_mem_cons.1 hevs
    obtain ⟨v, hv, hr⟩ := run_cons.1 hr
    obtain ⟨hfeeding, hnot⟩ := step_feeding hv he hw
    obtain ⟨hlast, hrest⟩ := ih hr hevs hfeeding
    exact ⟨hlast, List.forall_mem_cons.2 ⟨hnot, hrest⟩⟩

/-- After the shutdown no frame is handed over: the pending gap stays, and the
task ends with no frame left in its queue. -/
structure Writer.Closing (w₁ w : Writer) : Prop where
  fed : w.fed = w₁.fed
  gap : w.pendingGap = w₁.pendingGap
  emptied : w.mode = .returning ∨ w.mode = .stopped → w.queue.flatMap Command.pieces = []

theorem step_closing {w₁ : Writer} {e : Event} (h : w.step ok cfg e = some w') (he : ∀ data, e ≠ .output data)
    (hw : w₁.Closing w) : w₁.Closing w' := by
  cases step_cases h with
  | output data => exact absurd rfl (he data)
  | marker kind seq payload =>
    rcases recordMarker_cases w kind seq payload with hsame | ⟨-, -, hqueued⟩
    · rw [hsame]
      exact hw
    · rw [hqueued]
      refine ⟨hw.fed, hw.gap, fun hmode => ?_⟩
      simpa [Command.pieces] using hw.emptied hmode
  | shutdownGone => exact hw
  | shutdownQueued =>
    refine ⟨hw.fed, hw.gap, fun hmode => ?_⟩
    simpa [Command.pieces] using hw.emptied hmode
  | dequeued cmd rest hmode hqueue =>
    refine ⟨hw.fed, hw.gap, fun hend => absurd hend ?_⟩
    exact nextMode_alive cmd hmode
  | finished lastSeq hmode hqueue => exact ⟨hw.fed, hw.gap, fun _ => by simp [Writer.perform, hqueue]⟩
  | exited => exact ⟨hw.fed, hw.gap, fun _ => rfl⟩
  | sendersDropped => exact ⟨hw.fed, hw.gap, hw.emptied⟩
  | abandoned _ _ hqueue => exact ⟨hw.fed, hw.gap, fun _ => by simp [Writer.perform, hqueue]⟩
  | aborted => exact ⟨hw.fed, hw.gap, fun _ => rfl⟩

/-- **A recording loses output silently exactly by a gap left pending or a
silent helper call.** A writer is fed frames, then shut down, and the shutdown
completes before its deadline; every marker is stored, chunk writes fail as they
like. Then every frame lies in a stored chunk or in the range of a stored
`replay_gap` marker if and only if no gap was pending at the shutdown and no call
of the writer task returned without a row. -/
theorem recording_complete_iff (ok : Nat → Bool) (cfg : RecordingWriterConfig) (feed rest : List Event)
    (lastSeq : Nat) {w₁ : Writer} (hr₁ : run (Writer.step ok cfg) .enabled feed = some w₁)
    (hfeed : ∀ e ∈ feed, ∀ n, e ≠ .shutdown n)
    (hr₂ : run (Writer.step ok cfg) w₁ (.shutdown lastSeq :: rest) = some w)
    (hrest : ∀ e ∈ rest, ∀ data, e ≠ .output data) (hdeadline : ∀ e ∈ rest, ∀ n, e ≠ .abort n)
    (hdone : w.mode = .returning ∨ w.mode = .stopped) (hmarkers : w.MarkersStored) :
    (∀ q, 1 ≤ q → q ≤ w.fed.length → w.Accounted q) ↔
      w₁.pendingGap = none ∧
        Guarded (Writer.step ok cfg) (Writer.Keeps cfg) .enabled (feed ++ .shutdown lastSeq :: rest) := by
  -- up to the shutdown the task is in its main loop
  obtain ⟨hfeeding, hfinished⟩ := run_feeding hr₁ hfeed enabled_feeding
  -- from the shutdown on nothing is added
  obtain ⟨w₂, hshutdown, hr₃⟩ := run_cons.1 hr₂
  have hclosing₂ : w₁.Closing w₂ := by
    refine step_closing hshutdown (by simp) ⟨rfl, rfl, fun hmode => ?_⟩
    cases step_cases hshutdown with
    | shutdownGone _ alive | shutdownQueued _ alive => simp [hfeeding.running alive] at hmode
  have hclosing : w₁.Closing w := by
    have hguard : Guarded (Writer.step ok cfg) (fun _ e => ∀ data, e ≠ .output data) w₂ rest :=
      Guarded.of_forall hrest
    exact hguard.inv (w₁.Closing) (fun w e w' hw he h => step_closing h he hw) hr₃ hclosing₂
  -- so at the end only a pending gap can be on its way
  obtain ⟨hist, ht, hkeeps⟩ := run_timeline (run_append.2 ⟨w₁, hr₁, hr₂⟩) enabled_timeline
  rw [List.nil_append] at ht
  have hwait : w.waiting = gapPieces w.pendingGap := by
    rw [Writer.waiting, ht.idle hdone, hclosing.emptied hdone]
    rfl
  have hnever : ∀ e ∈ feed ++ .shutdown lastSeq :: rest, ∀ n, e ≠ .abort n :=
    List.forall_mem_append.2 ⟨hfinished, List.forall_mem_cons.2 ⟨by simp, hdeadline⟩⟩
  rw [ht.all_accounted_iff hmarkers hwait, hclosing.gap, hkeeps hnever]

theorem recording_complete_mixed : ∃ w₁ w,
    run (Writer.step (· ≠ 4) ⟨2, 4⟩) .enabled mixedRun = some w₁ ∧
    run (Writer.step (· ≠ 4) ⟨2, 4⟩) w₁ [.shutdown 5, .dequeue, .finish, .exit] = some w ∧
    w₁.pendingGap = none ∧ w.fed.length = 5 ∧ ∀ q, 1 ≤ q → q ≤ w.fed.length → w.Accounted q :=
  ⟨_, _, rfl, rfl, rfl, rfl,
    (recording_complete_iff (· ≠ 4) ⟨2, 4⟩ mixedRun [.dequeue, .finish, .exit] 5 rfl (by simp [mixedRun]) rfl
      (by simp) (by simp) (.inr rfl) (by decide)).2 ⟨rfl, by decide⟩⟩

/-- The writer after a single frame over the hard cap. -/
def afterOversized (data : Bytes) : Writer where
  queue := []
  pendingGap := some ⟨1, 1, .frameOversized⟩
  batch := none
  highestSeqObserved := 0
  mode := .running
  senders := true
  log := [(.marker .started 0 [], true)]
  fed := [data]

theorem oversized_run (cfg : RecordingWriterConfig) {data : Bytes} (hlong : data.length > cfg.chunkHardCapBytes) :
    run (Writer.step (fun _ => true) cfg) .enabled [.dequeue, .output data] = some (afterOversized data) := by
  simp [run, Writer.step, Writer.recordOutput, hlong, Writer.enabled, Writer.perform, Writer.calls, Command.calls,
    flushCalls, Call.perform, Log.submit, Command.highest, Command.nextMode, extendGap, afterOversized]

/-- The rows of a recording whose only frame is over the hard cap: it is opened
and sealed, and neither a chunk nor a gap lies between. -/
theorem oversized_rows (cfg : RecordingWriterConfig) (data : Bytes) :
    ∃ w, run (Writer.step (fun _ => true) cfg) (afterOversized data) [.shutdown 1, .dequeue, .finish] = some w ∧
      w.mode = .returning ∧ w.fed = [data] ∧
      w.log = [(.marker .started 0 [], true), (.marker .closed 1 [("reason", .str "session_close")], true)] :=
  ⟨_, rfl, rfl, rfl, rfl⟩

/-- A last frame over the hard cap of the default configuration: its gap stays
pending, and neither a chunk nor a marker speaks of it. -/
theorem oversized_frame_lost : ¬ ∀ (ok : Nat → Bool) (cfg : RecordingWriterConfig) (feed rest : List Event)
    (lastSeq : Nat) (w₁ w : Writer), run (Writer.step ok cfg) .enabled feed = some w₁ →
      (∀ e ∈ feed, ∀ n, e ≠ .shutdown n) → run (Writer.step ok cfg) w₁ (.shutdown lastSeq :: rest) = some w →
      (∀ e ∈ rest, ∀ data, e ≠ .output data) → (∀ e ∈ rest, ∀ n, e ≠ .abort n) →
      (w.mode = .returning ∨ w.mode = .stopped) → w.MarkersStored →
      ∀ q, 1 ≤ q → q ≤ w.fed.length → w.Accounted q := by
  intro h
  obtain ⟨data, hlong⟩ : ∃ data : Bytes, data.length > RecordingWriterConfig.default.chunkHardCapBytes :=
    ⟨List.replicate 2097153 0, by rw [List.length_replicate]; decide⟩
  obtain ⟨w, hr, hmode, hfed, hlog⟩ := oversized_rows .default data
  have hmarkers : w.MarkersStored := by
    unfold Writer.MarkersStored
    rw [hlog]
    decide
  have hacc := h (fun _ => true) .default [.dequeue, .output data] [.dequeue, .finish] 1 (afterOversized data) w
    (oversized_run .default hlong) (by simp) hr (by simp) (by simp) (.inl hmode) hmarkers 1 (Nat.le_refl 1)
    (by simp [hfed])
  rcases hacc with ⟨b, hb, -⟩ | ⟨g, hg, -⟩
  · simp [Writer.chunks, hlog, storedChunk] at hb
  · simp [Writer.gaps, hlog, storedGap] at hg

end RelayTerm.Recording
