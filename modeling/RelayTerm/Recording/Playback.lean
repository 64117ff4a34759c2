import RelayTerm.Recording.Coverage
import RelayTerm.Recording.Storable
import RelayTerm.Recording.Viewer
import RelayTerm.Stream.Pipe
/-!
# From the shell to the replay view

One session with its recording: the forwarder hands each frame to the ring, to the
broadcast and then to the recording writer, which stores chunks beside everything
else that goes on. Later the replay view loads the chunks of the session, page by
page.

`playback_as_printed` joins the two ends: what the view writes to its renderer are
the chunks the shell printed, in order, less those that are in no stored chunk.
-/
open RelayTerm.Lib
open RelayTerm.Stream (Pipe PipeEvent ReplayBufferConfig OutputFrame)

namespace RelayTerm.Recording

/-! ## The session -/

structure RecordedPipe where
  pipe : Pipe
  writer : Writer

def RecordedPipe.start (config : ReplayBufferConfig) : RecordedPipe := ⟨.start config, .enabled⟩

inductive RecordedPipeEvent where
  | pipe (e : PipeEvent)
  | writer (e : Event)

/-- The writer's events that are not the forwarder's: it alone records output, and
it holds a sender as long as it runs. -/
def RecordedPipe.allows (r : RecordedPipe) : Event → Bool
  | .output _ => false
  | .dropSenders => r.pipe.forwarding ≠ .running
  | _ => true

/-- What the forwarder tees into the recording: the frame it broadcasts. -/
def RecordedPipe.teed (r : RecordedPipe) : PipeEvent → Option OutputFrame
  | .broadcast => r.pipe.out.forwarder.inHand
  | _ => none

/-- The forwarder does not wait between the broadcast and `record_output`. -/
def RecordedPipe.step (ok : Nat → Bool) (cfg : RecordingWriterConfig) (r : RecordedPipe) :
    RecordedPipeEvent → Option RecordedPipe
  | .pipe e => (r.pipe.step e).bind fun pipe => match r.teed e with
    | some frame => (r.writer.step ok cfg (.output frame.data)).map fun writer => ⟨pipe, writer⟩
    | none => some ⟨pipe, r.writer⟩
  | .writer e => if r.allows e then (r.writer.step ok cfg e).map fun writer => ⟨r.pipe, writer⟩ else none

variable {ok : Nat → Bool} {cfg : RecordingWriterConfig} {r r' : RecordedPipe} {w w' : Writer}

/-- The frame an event hands over. -/
def Event.handed : Event → List Bytes
  | .output data => [data]
  | _ => []

theorem step_handed {e : Event} (h : w.step ok cfg e = some w') : w'.fed = w.fed ++ e.handed := by
  cases step_cases h with
  | output data =>
    obtain ⟨gap, hout | ⟨-, hout⟩⟩ := recordOutput_cases cfg { w with fed := w.fed ++ [data] } (w.fed.length + 1) data
    · rw [hout]
      rfl
    · rw [hout]
      rfl
  | marker kind seq payload =>
    rcases recordMarker_cases w kind seq payload with hsame | ⟨-, -, hqueued⟩
    · rw [hsame]
      exact (List.append_nil _).symm
    · rw [hqueued]
      exact (List.append_nil _).symm
  | _ => exact (List.append_nil _).symm

/-- Only the broadcast adds to the channel, and it adds the frame that is teed. -/
theorem pipe_step_channel {e : PipeEvent} {pipe : Pipe} (h : r.pipe.step e = some pipe) :
    pipe.out.channel = r.pipe.out.channel ++ (r.teed e).toList := by
  have hkept : ∀ {fe : Stream.ForwarderEvent} {out : Stream.LiveOutput}, fe ≠ .broadcast →
      r.pipe.out.step fe = some out → out.channel = r.pipe.out.channel := by
    intro fe out hne hstep
    rcases Stream.forwarder_cases hstep with ⟨bytes, -, -, rfl⟩ | ⟨frame, -, -, rfl⟩ | ⟨frame, rfl, -, -⟩
    · rfl
    · rfl
    · exact absurd rfl hne
  cases e with
  | bridge e =>
    obtain ⟨-, h⟩ := Option.ite_none_left_eq_some.1 h
    obtain ⟨bridge, -, rfl⟩ := Option.map_eq_some_iff.1 h
    exact (List.append_nil _).symm
  | recv =>
    obtain ⟨-, h⟩ := Option.ite_none_right_eq_some.1 h
    unfold Pipe.recv at h
    show pipe.out.channel = r.pipe.out.channel ++ []
    rw [List.append_nil]
    split at h
    · split at h
      · obtain ⟨out, hstep, rfl⟩ := Option.map_eq_some_iff.1 h
        exact hkept (by simp) hstep
      · cases h
        rfl
      · cases h
        rfl
    · split at h
      · cases h
        rfl
      · cases h
  | push =>
    obtain ⟨out, hstep, rfl⟩ := Option.map_eq_some_iff.1 h
    show out.channel = r.pipe.out.channel ++ []
    rw [List.append_nil]
    exact hkept (by simp) hstep
  | broadcast =>
    obtain ⟨out, hstep, rfl⟩ := Option.map_eq_some_iff.1 h
    rcases Stream.forwarder_cases hstep with ⟨bytes, he, -, -⟩ | ⟨frame, he, -, -⟩ | ⟨frame, -, hfwd, rfl⟩
    · cases he
    · cases he
    · simp [RecordedPipe.teed, hfwd, Stream.Forwarder.inHand]
  | abort =>
    obtain ⟨-, h⟩ := Option.ite_none_right_eq_some.1 h
    cases h
    exact (List.append_nil _).symm
  | join sessionId attachmentId =>
    obtain ⟨-, h⟩ := Option.ite_none_right_eq_some.1 h
    cases h
    exact (List.append_nil _).symm
  | socket attachmentId e =>
    simp only [Pipe.step] at h
    split at h
    · cases h
    · obtain ⟨socket, -, rfl⟩ := Option.map_eq_some_iff.1 h
      exact (List.append_nil _).symm

/-- Each side runs as it would alone, and the writer is handed what is broadcast. -/
structure RecordedPipe.Joined (ok : Nat → Bool) (cfg : RecordingWriterConfig) (config : ReplayBufferConfig)
    (r : RecordedPipe) : Prop where
  pipe : ∃ evs, run Pipe.step (.start config) evs = some r.pipe
  writer : ∃ evs, run (Writer.step ok cfg) .enabled evs = some r.writer
  fed : r.writer.fed = r.pipe.out.channel.map OutputFrame.data

theorem step_joined {config : ReplayBufferConfig} {e : RecordedPipeEvent} (hj : r.Joined ok cfg config)
    (h : r.step ok cfg e = some r') : r'.Joined ok cfg config := by
  obtain ⟨pevs, hpipe⟩ := hj.pipe
  obtain ⟨wevs, hwriter⟩ := hj.writer
  cases e with
  | pipe e =>
    obtain ⟨pipe, hstep, h⟩ := Option.bind_eq_some_iff.1 h
    have hchannel := pipe_step_channel hstep
    cases hteed : r.teed e with
    | none =>
      simp only [hteed, Option.some.injEq] at h
      subst h
      refine ⟨⟨_, run_concat hpipe hstep⟩, ⟨_, hwriter⟩, ?_⟩
      show r.writer.fed = pipe.out.channel.map OutputFrame.data
      rw [hchannel, hteed, Option.toList_none, List.append_nil, hj.fed]
    | some frame =>
      simp only [hteed] at h
      obtain ⟨writer, hrecord, rfl⟩ := Option.map_eq_some_iff.1 h
      refine ⟨⟨_, run_concat hpipe hstep⟩, ⟨_, run_concat hwriter hrecord⟩, ?_⟩
      show writer.fed = pipe.out.channel.map OutputFrame.data
      rw [hchannel, hteed, step_handed hrecord, hj.fed, List.map_append]
      rfl
  | writer e =>
    obtain ⟨hallows, h⟩ := Option.ite_none_right_eq_some.1 h
    obtain ⟨writer, hstep, rfl⟩ := Option.map_eq_some_iff.1 h
    refine ⟨⟨_, hpipe⟩, ⟨_, run_concat hwriter hstep⟩, ?_⟩
    show writer.fed = _
    have hnone : e.handed = [] := by
      cases e with
      | output data => cases hallows
      | _ => rfl
    rw [step_handed hstep, hnone, List.append_nil, hj.fed]

theorem run_joined {config : ReplayBufferConfig} {evs : List RecordedPipeEvent}
    (hr : run (RecordedPipe.step ok cfg) (.start config) evs = some r) : r.Joined ok cfg config :=
  run_inv (RecordedPipe.Joined ok cfg config) (fun _ _ _ hj h => step_joined hj h) hr
    ⟨⟨[], rfl⟩, ⟨[], rfl⟩, rfl⟩

/-- What the writer is handed is what the shell printed, from the first chunk on. -/
theorem RecordedPipe.Joined.printed {config : ReplayBufferConfig} (hj : r.Joined ok cfg config) :
    r.writer.fed <+: r.pipe.printed := by
  obtain ⟨pevs, hpipe⟩ := hj.pipe
  have hchannel : r.pipe.out.channel <+: r.pipe.out.stamped := List.prefix_append _ _
  rw [hj.fed]
  exact (hchannel.map _).trans (Stream.stamped_printed (Stream.pipe_run_sound hpipe))

/-! ## What is in the stored chunks -/

/-- The frame is in a stored chunk. -/
def Writer.isRecorded (w : Writer) (q : Nat) : Bool := w.chunks.any fun b => b.seqStart ≤ q && q ≤ b.seqEnd

/-- The chunk of output with the number. -/
def frameAt (frames : List Bytes) (q : Nat) : Bytes := (frames[q - 1]?).getD []

def ChunkBatch.frames (b : ChunkBatch) : List Nat := List.range' b.seqStart (b.seqEnd + 1 - b.seqStart)

theorem mem_frames {b : ChunkBatch} {q : Nat} : q ∈ b.frames ↔ b.seqStart ≤ q ∧ q ≤ b.seqEnd := by
  rw [ChunkBatch.frames, List.mem_range'_1]
  omega

theorem framesBytes_single {fed : List Bytes} {q : Nat} (hq : 1 ≤ q) (hlen : q ≤ fed.length) :
    framesBytes fed q (q + 1) = frameAt fed q := by
  obtain ⟨i, rfl⟩ : ∃ i, q = i + 1 := ⟨q - 1, by omega⟩
  have hi : i < fed.length := by omega
  rw [framesBytes, frameAt, Nat.add_sub_cancel, Nat.add_sub_cancel, List.take_add_one, List.getElem?_eq_getElem hi,
    List.drop_append_of_le_length (by rw [List.length_take]; omega), List.drop_of_length_le (List.length_take_le i fed)]
  simp

theorem framesBytes_eq_flatMap {fed : List Bytes} {lo : Nat} (hlo : 1 ≤ lo) (n : Nat) (hlen : lo + n ≤ fed.length + 1) :
    framesBytes fed lo (lo + n) = (List.range' lo n).flatMap (frameAt fed) := by
  induction n with
  | zero =>
    rw [Nat.add_zero, framesBytes, List.drop_of_length_le (List.length_take_le (lo - 1) fed)]
    rfl
  | succ n ih =>
    rw [← framesBytes_append (Nat.le_add_right lo n) (by omega) hlen, ih (by omega), List.range'_concat,
      List.flatMap_append, ← Nat.add_assoc, framesBytes_single (by omega) (by omega)]
    simp

/-- Two lists in strict order with the same members are one list. -/
theorem eq_of_mem_iff {l m : List Nat} (hl : l.Pairwise (· < ·)) (hm : m.Pairwise (· < ·)) (h : ∀ q, q ∈ l ↔ q ∈ m) :
    l = m := by
  have hnodup : ∀ {k : List Nat}, k.Pairwise (· < ·) → k.Nodup := fun hk => hk.imp fun hlt => Nat.ne_of_lt hlt
  have hperm : l.Perm m := (List.perm_ext_iff_of_nodup (hnodup hl) (hnodup hm)).2 h
  exact hperm.eq_of_pairwise (fun a b _ _ hab hba => absurd hab (Nat.lt_asymm hba)) hl hm

/-- The stored chunks of a run, in order, with the bytes of their frames. -/
theorem run_chunks {evs : List Event} (hr : run (Writer.step ok cfg) .enabled evs = some w) :
    (∀ b ∈ w.chunks, 1 ≤ b.seqStart ∧ b.seqStart ≤ b.seqEnd ∧ b.seqEnd ≤ w.fed.length ∧
      b.payload = framesBytes w.fed b.seqStart (b.seqEnd + 1)) ∧
    w.chunks.Pairwise (fun b b' => b.seqEnd < b'.seqStart) := by
  obtain ⟨hist, ht, -⟩ := run_timeline hr enabled_timeline
  rw [List.nil_append] at ht
  rw [ht.chunks_eq]
  exact ht.batches fun x b hb => by rw [storedBatch_eq hb]; rfl

/-- Joined, the stored chunks are the recorded frames. -/
theorem chunks_payload {evs : List Event} (hr : run (Writer.step ok cfg) .enabled evs = some w) {printed : List Bytes}
    (hfed : w.fed <+: printed) : w.chunks.flatMap ChunkBatch.payload =
      ((List.range' 1 printed.length).filter w.isRecorded).flatMap (frameAt printed) := by
  obtain ⟨hfaithful, hordered⟩ := run_chunks hr
  have hlength := hfed.length_le
  have hframes : w.chunks.flatMap ChunkBatch.frames = (List.range' 1 printed.length).filter w.isRecorded := by
    apply eq_of_mem_iff
    · rw [List.pairwise_flatMap]
      refine ⟨fun b _ => List.pairwise_lt_range' 1, hordered.imp fun hbefore q hq q' hq' => ?_⟩
      have := (mem_frames.1 hq).2
      have := (mem_frames.1 hq').1
      omega
    · exact (List.pairwise_lt_range' 1).filter _
    · intro q
      simp only [List.mem_flatMap, mem_frames, List.mem_filter, List.mem_range'_1, Writer.isRecorded, List.any_eq_true,
        Bool.and_eq_true, decide_eq_true_eq]
      constructor
      · rintro ⟨b, hb, hq⟩
        have := hfaithful b hb
        exact ⟨by omega, b, hb, hq⟩
      · exact And.right
  have hframe : ∀ q, q ≤ w.fed.length → 1 ≤ q → frameAt w.fed q = frameAt printed q := by
    intro q hq hpos
    obtain ⟨rest, rfl⟩ := hfed
    rw [frameAt, frameAt, List.getElem?_append_left (by omega)]
  rw [← hframes, List.flatMap_assoc]
  refine List.flatMap_congr fun b hb => ?_
  obtain ⟨hstart, hrange, hend, hpayload⟩ := hfaithful b hb
  have hsplit : framesBytes w.fed b.seqStart (b.seqStart + (b.seqEnd + 1 - b.seqStart)) =
      b.frames.flatMap (frameAt w.fed) := framesBytes_eq_flatMap hstart _ (by omega)
  rw [Nat.add_sub_cancel' (by omega)] at hsplit
  rw [hpayload, hsplit]
  refine List.flatMap_congr fun q hq => ?_
  have := mem_frames.1 hq
  exact hframe q (by omega) (by omega)

/-! ## The sizes of the rows -/

/-- No row is longer than an `i32` can say. -/
def Log.Short (log : Log) : Prop := ∀ row ∈ Log.submitted log, row.payload.length ≤ i32Max

theorem flushChunk_short {log : Log} (b : ChunkBatch) (h : Log.Short log) : Log.Short (flushChunk ok log b) := by
  unfold flushChunk
  split_ifs with hempty hlen hstart hend hok
  · exact h
  · exact h
  · exact h
  · exact h
  all_goals
    intro row hrow
    simp only [writeReplayGap_submitted, submit_submitted] at hrow
    rcases List.mem_append.1 hrow with hold | hnew
    · exact h row hold
    · rw [submittedChunk, Option.toList_some, List.mem_singleton] at hnew
      subst hnew
      exact Nat.not_lt.1 hlen

theorem performAll_short {log : Log} (calls : List Call) (h : Log.Short log) :
    Log.Short (calls.foldl (Call.perform ok) log) := by
  induction calls generalizing log with
  | nil => exact h
  | cons call calls ih =>
    refine ih ?_
    cases call with
    | flushChunk b => exact flushChunk_short b h
    | writeReplayGap g =>
      simp only [Call.perform, Log.Short, writeReplayGap_submitted]
      exact h
    | writeMarker kind seq payload => simpa [Call.perform, Log.Short, submit_submitted, submittedChunk] using h

theorem step_short {e : Event} (hw : Log.Short w.log) (h : w.step ok cfg e = some w') : Log.Short w'.log := by
  cases step_cases h with
  | output data =>
    obtain ⟨gap, hout | ⟨-, hout⟩⟩ := recordOutput_cases cfg { w with fed := w.fed ++ [data] } (w.fed.length + 1) data
    · rw [hout]
      exact hw
    · rw [hout]
      exact hw
  | marker kind seq payload =>
    rcases recordMarker_cases w kind seq payload with hsame | ⟨-, -, hqueued⟩
    · rw [hsame]
      exact hw
    · rw [hqueued]
      exact hw
  | shutdownGone | shutdownQueued | exited | sendersDropped => exact hw
  | dequeued | finished | abandoned => exact performAll_short _ hw
  | aborted n => exact fun row hrow => performAll_short (w.doing cfg) hw row (submitted_take _ _ hrow)

theorem chunks_submitted {b : ChunkBatch} (hb : b ∈ w.chunks) : ∃ row ∈ w.submitted, row.payload = b.payload := by
  obtain ⟨⟨row, answer⟩, hmem, hstored⟩ := List.mem_filterMap.1 hb
  cases row with
  | chunk seqStart seqEnd byteLen payload =>
    cases answer with
    | true =>
      cases hstored
      exact ⟨_, List.mem_filterMap.2 ⟨_, hmem, rfl⟩, rfl⟩
    | false => cases hstored
  | marker | replayGap => cases answer <;> cases hstored

theorem run_short {evs : List Event} (hr : run (Writer.step ok cfg) .enabled evs = some w) :
    ∀ b ∈ w.chunks, b.payload.length < 2 ^ 53 := by
  have hshort : Log.Short w.log :=
    run_inv (fun w => Log.Short w.log) (fun _ _ _ hw h => step_short hw h) hr
      (by simp [Log.Short, Log.submitted, Writer.enabled])
  intro b hb
  obtain ⟨row, hrow, hpayload⟩ := chunks_submitted hb
  have hlength := hshort row hrow
  rw [hpayload] at hlength
  exact Nat.lt_of_le_of_lt hlength (by decide)

/-! ## What a load renders -/

section Load

variable {table behind ahead : List StoredChunk} {markers : List Nat} {id cursor : Nat} {v : View}
  {page : List TerminalRecordingChunk}

theorem foldl_rendered (hgood : ∀ c ∈ page, decodeRecordingChunk c = .ok c.dataB64) (v : View) :
    (page.foldl View.visit v).rendered = v.rendered ++ page.map TerminalRecordingChunk.dataB64 ∧
      (page.foldl View.visit v).firstDecodeWarning = v.firstDecodeWarning := by
  induction page generalizing v with
  | nil => exact ⟨(List.append_nil _).symm, rfl⟩
  | cons c page ih =>
    obtain ⟨hc, hrest⟩ := List.forall_mem_cons.1 hgood
    have hsupported : isSupportedChunk c = true := by
      unfold decodeRecordingChunk at hc
      split_ifs at hc with henc hcomp hlen
      simp only [isSupportedChunk, Bool.and_eq_true, beq_iff_eq]
      exact ⟨not_not.1 henc, not_not.1 hcomp⟩
    obtain ⟨hrendered, hwarning⟩ := ih hrest (v.visit c)
    have hvisit : (v.visit c).rendered = v.rendered ++ [c.dataB64] ∧
        (v.visit c).firstDecodeWarning = v.firstDecodeWarning := by
      simp [View.visit, hsupported, hc]
    rw [List.foldl_cons, hrendered, hwarning, hvisit.1, hvisit.2, List.append_assoc]
    exact ⟨rfl, rfl⟩

/-- With passes to spare, the loop visits the chunks ahead and nothing else, and ends. -/
theorem loadChunks_eq (markers : List Nat) (hrows : Readable (chunksOf table id)) (n : Nat)
    (h : Reached (chunksOf table id) cursor behind ahead) (hlength : ahead.length < n * chunkPageSize) (v : View) :
    loadChunks (.server table markers id) n cursor v = ((ahead.map StoredChunk.asRead).foldl View.visit v, none) := by
  induction n generalizing cursor behind ahead v with
  | zero => omega
  | succ n ih =>
    have hpageLength : ((ahead.take chunkPageSize).map StoredChunk.asRead).length = min chunkPageSize ahead.length := by
      rw [List.length_map, List.length_take]
    simp only [loadChunks, server_chunks markers hrows h]
    by_cases hnil : ahead = []
    · subst hnil
      rfl
    · have hpos := List.length_pos_iff.2 hnil
      have hsize : 0 < chunkPageSize := by decide
      rw [if_neg (by omega)]
      by_cases hlast : ((ahead.take chunkPageSize).map StoredChunk.asRead).length < chunkPageSize
      · rw [if_pos hlast, List.take_of_length_le (by omega)]
      · rw [if_neg hlast]
        have hrest : (ahead.drop chunkPageSize).length < n * chunkPageSize := by
          rw [List.length_drop]
          rw [Nat.add_mul] at hlength
          omega
        rw [ih (h.next hrows hnil hsize) hrest, ← List.foldl_append, ← List.map_append, List.take_append_drop]

/-- A load renders the chunks of the session in order, without a warning or an error. -/
theorem load_renders (hrows : Readable (chunksOf table id))
    (hpages : (chunksOf table id).length < hardLoopCap * chunkPageSize)
    (hgood : ∀ c ∈ chunksOf table id, decodeRecordingChunk c.asRead = .ok c.payload) :
    (load (.server table markers id)).1.rendered = (inOrder (chunksOf table id)).map StoredChunk.payload ∧
      (load (.server table markers id)).1.firstDecodeWarning = none ∧
      ∀ summary, (load (.server table markers id)).2 ≠ .error summary := by
  cases hrecording : (getMetadata table markers id).hasRecording with
  | false =>
    obtain ⟨hnone, -⟩ := Bool.or_eq_false_iff.1 hrecording
    have hnil : chunksOf table id = [] :=
      List.eq_nil_of_length_eq_zero (Nat.eq_zero_of_not_pos (of_decide_eq_false hnone))
    have hload : load (.server table markers id) = (.empty, .empty) := by
      simp [load, RecordingApi.server, hrecording]
    rw [hload, hnil]
    exact ⟨rfl, rfl, fun summary h => by cases h⟩
  | true =>
    have hlength : (inOrder (chunksOf table id)).length < hardLoopCap * chunkPageSize := by
      rw [List.length_insertionSort]
      exact hpages
    have hchunks := loadChunks_eq markers hrows hardLoopCap (firstSeq_reached markers hrows) hlength .empty
    have hload : load (.server table markers id) =
        (((inOrder (chunksOf table id)).map StoredChunk.asRead).foldl View.visit .empty,
          (((inOrder (chunksOf table id)).map StoredChunk.asRead).foldl View.visit .empty).status) := by
      have hstart : ∀ cursor, cursor = ((getMetadata table markers id).firstSeq.map Number.round).getD 1 →
          loadChunks (.server table markers id) hardLoopCap cursor .empty = _ := fun cursor h => h ▸ hchunks
      unfold load
      simp only [RecordingApi.server, hrecording] at hstart ⊢
      rw [hstart _ rfl]
      rfl
    have hdecoded : ∀ c ∈ (inOrder (chunksOf table id)).map StoredChunk.asRead,
        decodeRecordingChunk c = .ok c.dataB64 := by
      intro c hc
      obtain ⟨d, hd, rfl⟩ := List.mem_map.1 hc
      exact hgood d ((List.mem_insertionSort _).1 hd)
    obtain ⟨hrendered, hwarning⟩ := foldl_rendered hdecoded .empty
    rw [hload]
    refine ⟨?_, hwarning, fun summary h => ?_⟩
    · rw [hrendered, List.map_map]
      rfl
    · simp only [View.status] at h
      split at h <;> cases h

end Load

/-! ## From end to end -/

/-- The row of a stored chunk: as the writer submits them, neither encrypted nor compressed. -/
def ChunkBatch.stored (id : Nat) (b : ChunkBatch) : StoredChunk :=
  ⟨id, b.seqStart, b.seqEnd, b.payload.length, b.payload, "none", "none"⟩

theorem stored_decoded {id : Nat} {b : ChunkBatch} (h : b.payload.length < 2 ^ 53) :
    decodeRecordingChunk (b.stored id).asRead = .ok b.payload := by
  simp [decodeRecordingChunk, StoredChunk.asRead, ChunkBatch.stored, Number.round_of_lt h]

/-- The rows of a run of the writer can be read, and their order is that of the run. -/
theorem stored_readable {evs : List Event} (hr : run (Writer.step ok cfg) .enabled evs = some w)
    (hsafe : w.fed.length < 2 ^ 53) {rows : List StoredChunk} {id : Nat}
    (hrows : rows.Perm (w.chunks.map (ChunkBatch.stored id))) :
    Readable rows ∧ inOrder rows = w.chunks.map (ChunkBatch.stored id) := by
  obtain ⟨hfaithful, hordered⟩ := run_chunks hr
  have hexact : ∀ c ∈ rows, c.Exact := by
    intro c hc
    obtain ⟨b, hb, rfl⟩ := List.mem_map.1 (hrows.mem_iff.1 hc)
    obtain ⟨hstart, hrange, hend, -⟩ := hfaithful b hb
    exact ⟨hstart, hrange, Nat.lt_of_le_of_lt hend hsafe⟩
  have hstored : (w.chunks.map (ChunkBatch.stored id)).Pairwise fun c d => c.seqEnd < d.seqStart :=
    List.pairwise_map.2 hordered
  have hreadable : Readable rows :=
    ⟨hexact, (hrows.pairwise_iff fun h => h.symm).2 (hstored.imp fun h => .inl h)⟩
  refine ⟨hreadable, ((List.perm_insertionSort _ rows).trans hrows).eq_of_pairwise ?_ hreadable.laid.apart hstored⟩
  intro c d hc hd hcd hdc
  have hcrange := (hreadable.exact_inOrder hc).seqEnd
  have hdrange := (hexact d (hrows.mem_iff.2 hd)).seqEnd
  omega

/-- **The replay view shows what the shell printed, less what is not recorded.** In
every run of a session, whatever the repository answers and whatever sockets, the
far side and the handle do, a load of the chunks then stored writes to its renderer
the output of the shell, in order, less exactly the frames in no stored chunk; it
gives no warning and no error. -/
theorem playback_as_printed (ok : Nat → Bool) (cfg : RecordingWriterConfig) (config : ReplayBufferConfig)
    (evs : List RecordedPipeEvent) (r : RecordedPipe) (hr : run (RecordedPipe.step ok cfg) (.start config) evs = some r)
    (table : List StoredChunk) (markers : List Nat) (id : Nat)
    (hrows : (chunksOf table id).Perm (r.writer.chunks.map (ChunkBatch.stored id)))
    (hsafe : r.pipe.printed.length < 2 ^ 53) (hpages : r.writer.chunks.length < hardLoopCap * chunkPageSize) :
    (load (.server table markers id)).1.rendered.flatten =
      ((List.range' 1 r.pipe.printed.length).filter r.writer.isRecorded).flatMap (frameAt r.pipe.printed) ∧
    (load (.server table markers id)).1.firstDecodeWarning = none ∧
    ∀ summary, (load (.server table markers id)).2 ≠ .error summary := by
  have hj := run_joined hr
  obtain ⟨wevs, hwriter⟩ := hj.writer
  have hfed := hj.printed
  obtain ⟨hreadable, horder⟩ := stored_readable hwriter (Nat.lt_of_le_of_lt hfed.length_le hsafe) hrows
  have hgood : ∀ c ∈ chunksOf table id, decodeRecordingChunk c.asRead = .ok c.payload := by
    intro c hc
    obtain ⟨b, hb, rfl⟩ := List.mem_map.1 (hrows.mem_iff.1 hc)
    exact stored_decoded (run_short hwriter b hb)
  have hcount : (chunksOf table id).length < hardLoopCap * chunkPageSize := by
    rw [hrows.length_eq, List.length_map]
    exact hpages
  obtain ⟨hrendered, hquiet⟩ := load_renders hreadable hcount hgood
  refine ⟨?_, hquiet⟩
  rw [hrendered, horder, List.map_map, ← List.flatMap_def, ← chunks_payload hwriter hfed]
  rfl

/-- The shell prints three chunks; the second is over the hard cap of two bytes and is not recorded. -/
def threeChunks : List RecordedPipeEvent :=
  let printed (bytes : Bytes) : List RecordedPipeEvent :=
    [.pipe (.bridge (.hear (some (.data bytes)))), .pipe (.bridge .emit), .pipe .recv, .pipe .push, .pipe .broadcast]
  .writer .dequeue :: printed [104] ++ printed [1, 2, 3] ++ printed [105] ++
    [.writer .dequeue, .writer .dequeue, .writer (.marker .detached 3 []), .writer .dequeue]

theorem playback_as_printed_gap : ∃ r table,
    run (RecordedPipe.step (fun _ => true) ⟨64, 2⟩) (.start .default) threeChunks = some r ∧
    r.pipe.printed = [[104], [1, 2, 3], [105]] ∧ r.writer.isRecorded 2 = false ∧
    (load (.server table [] 7)).1.rendered.flatten = [104, 105] := by
  refine ⟨_, [⟨7, 3, 3, 1, [105], "none", "none"⟩, ⟨7, 1, 1, 1, [104], "none", "none"⟩], rfl, rfl, rfl, ?_⟩
  exact (playback_as_printed (fun _ => true) ⟨64, 2⟩ .default threeChunks _ rfl _ [] 7 (by decide) (by decide)
    (by decide)).1

end RelayTerm.Recording
