import RelayTerm.Lib.Number
import RelayTerm.Lib.Paging
/-!
# The recording viewer

`RecordingReplayView` asks for the metadata of a recording and then for its
chunks, a page at a time: the server selects by `seq_start`, the viewer moves
its cursor behind the highest `seq_end` it has seen. Where the ranges of the
chunks do not overlap, the two agree on what is left, so each chunk comes once
and in order.

One load at a time is modelled. `data_b64` stands for the bytes it encodes; the
server encodes them itself.
-/
open RelayTerm.Lib

namespace RelayTerm.Recording

/-! ## The server -/

/-- A row of `terminal_recording_chunks`. -/
structure StoredChunk where
  terminalSessionId : Nat
  seqStart : Nat
  seqEnd : Nat
  byteLen : Nat
  payload : List UInt8
  encryption : String
  compression : String
  deriving DecidableEq, Repr

def listLimitCeiling : Nat := 1024

def clampLimit (limit : Nat) : Nat := min (max limit 1) listLimitCeiling

/-- The chunks of a session. -/
def chunksOf (table : List StoredChunk) (id : Nat) : List StoredChunk := table.filter fun c => c.terminalSessionId = id

def listChunks (table : List StoredChunk) (id fromSeq limit : Nat) : List StoredChunk :=
  pageFrom StoredChunk.seqStart (clampLimit limit) fromSeq (chunksOf table id)

structure RecordingMetadata where
  hasRecording : Bool
  firstSeq : Option Nat
  deriving DecidableEq, Repr

/-- `markers` are the sessions of the rows of `terminal_recording_markers`. -/
def getMetadata (table : List StoredChunk) (markers : List Nat) (id : Nat) : RecordingMetadata where
  hasRecording := decide ((chunksOf table id).length > 0) || decide (markers.count id > 0)
  firstSeq := ((chunksOf table id).map StoredChunk.seqStart).min?

/-! ## The client's API -/

structure TerminalRecordingChunk where
  seqStart : Nat
  seqEnd : Nat
  byteLen : Nat
  dataB64 : List UInt8
  encryption : String
  compression : String
  deriving DecidableEq, Repr

inductive RecordingApiError where
  | http (status : Nat) (code : String)
  | transport
  | malformedResponse
  deriving DecidableEq, Repr

def describeRecordingError : RecordingApiError → String
  | .http status code =>
    if status = 404 ∧ code = "not_found" then "Recording is not available for this session."
    else if status = 401 then "Could not load recording: not authenticated."
    else "Could not load recording: HTTP " ++ toString status ++ " " ++ code
  | .transport => "Could not load recording: backend unavailable."
  | .malformedResponse => "Could not load recording: malformed response."

/-- The integers of a row arrive as JavaScript numbers. -/
def parseRecordingChunk (c : StoredChunk) : Option TerminalRecordingChunk :=
  let seqStart := Number.round c.seqStart
  let seqEnd := Number.round c.seqEnd
  if seqStart < 1 ∨ seqEnd < seqStart then none
  else some ⟨seqStart, seqEnd, Number.round c.byteLen, c.payload, c.encryption, c.compression⟩

/-- What the viewer asks of the server; `chunks` takes `from_seq` and `limit`. -/
structure RecordingApi where
  metadata : Except RecordingApiError RecordingMetadata
  chunks : Nat → Nat → Except RecordingApiError (List TerminalRecordingChunk)

/-- The server, reached without a failure. A row that cannot be parsed spoils its page. -/
def RecordingApi.server (table : List StoredChunk) (markers : List Nat) (id : Nat) : RecordingApi where
  metadata :=
    let m := getMetadata table markers id
    .ok { m with firstSeq := m.firstSeq.map Number.round }
  chunks fromSeq limit := match (listChunks table id fromSeq limit).mapM parseRecordingChunk with
    | some page => .ok page
    | none => .error .malformedResponse

inductive DecodeFailure where
  | unsupportedEncryption | unsupportedCompression | byteLenMismatch
  deriving DecidableEq, Repr

def describeDecodeFailure : DecodeFailure → String
  | .unsupportedEncryption => "This recording chunk uses an encryption scheme this client does not support."
  | .unsupportedCompression => "This recording chunk uses a compression scheme this client does not support."
  | .byteLenMismatch => "Recording chunk length did not match the declared size."

def isSupportedChunk (c : TerminalRecordingChunk) : Bool := c.encryption == "none" && c.compression == "none"

def decodeRecordingChunk (c : TerminalRecordingChunk) : Except DecodeFailure (List UInt8) :=
  if c.encryption ≠ "none" then .error .unsupportedEncryption
  else if c.compression ≠ "none" then .error .unsupportedCompression
  else if c.dataB64.length ≠ c.byteLen then .error .byteLenMismatch
  else .ok c.dataB64

/-! ## The viewer -/

def chunkPageSize : Nat := 256

def hardLoopCap : Nat := 4096

structure View where
  /-- The chunks the loop over a page has gone through, in order. -/
  visited : List TerminalRecordingChunk
  /-- What has been written to the renderer. -/
  rendered : List (List UInt8)
  written : Nat
  firstDecodeWarning : Option String
  deriving DecidableEq, Repr

namespace View

def empty : View := ⟨[], [], 0, none⟩

/-- `firstDecodeWarning ??= warning` -/
def warn (v : View) (warning : String) : View :=
  { v with firstDecodeWarning := some (v.firstDecodeWarning.getD warning) }

/-- One pass of the loop over a page. -/
def visit (v : View) (c : TerminalRecordingChunk) : View :=
  let v := { v with visited := v.visited ++ [c] }
  if !isSupportedChunk c then
    v.warn (describeDecodeFailure (if c.encryption ≠ "none" then .unsupportedEncryption else .unsupportedCompression))
  else match decodeRecordingChunk c with
    | .error reason => v.warn (describeDecodeFailure reason)
    | .ok bytes => { v with rendered := v.rendered ++ [bytes], written := v.written + 1 }

end View

/-- The cursor behind a page. -/
def nextCursor (cursor : Nat) (page : List TerminalRecordingChunk) : Nat :=
  Number.add (page.foldl (fun acc c => max acc c.seqEnd) cursor) 1

/-- The loop over the pages, with so many passes left before it is stopped. -/
def loadChunks (api : RecordingApi) : Nat → Nat → View → View × Option RecordingApiError
  | 0, _, v => (v.warn "Recording is unexpectedly large; stopped loading additional chunks.", none)
  | n + 1, cursor, v => match api.chunks cursor chunkPageSize with
    | .error err => (v, some err)
    | .ok page =>
      if page.length = 0 then (v, none)
      else if page.length < chunkPageSize then (page.foldl View.visit v, none)
      else loadChunks api n (nextCursor cursor page) (page.foldl View.visit v)

inductive ViewStatus where
  | empty
  | error (summary : String)
  | decodeWarning (summary : String) (chunksWritten : Nat)
  | ready (chunksWritten : Nat)
  deriving DecidableEq, Repr

def View.status (v : View) : ViewStatus :=
  match v.firstDecodeWarning with
  | some warning => .decodeWarning warning v.written
  | none => .ready v.written

def load (api : RecordingApi) : View × ViewStatus :=
  match api.metadata with
  | .error err => (.empty, .error (describeRecordingError err))
  | .ok metadata =>
    if !metadata.hasRecording then (.empty, .empty)
    else match loadChunks api hardLoopCap (metadata.firstSeq.getD 1) .empty with
      | (v, some err) => (v, .error (describeRecordingError err))
      | (v, none) => (v, v.status)

/-! ## One page -/

variable {table rows behind ahead : List StoredChunk} {markers : List Nat} {id cursor : Nat} {v : View}
  {page : List TerminalRecordingChunk}

/-- The row as the client reads it when no number is rounded. -/
def StoredChunk.asRead (c : StoredChunk) : TerminalRecordingChunk :=
  ⟨c.seqStart, c.seqEnd, Number.round c.byteLen, c.payload, c.encryption, c.compression⟩

/-- What the table's CHECKs and the range of JavaScript's integers leave of a row. -/
structure StoredChunk.Exact (c : StoredChunk) : Prop where
  seqStart : 1 ≤ c.seqStart
  seqEnd : c.seqStart ≤ c.seqEnd
  safe : c.seqEnd < 2 ^ 53

theorem parse_exact {c : StoredChunk} (h : c.Exact) : parseRecordingChunk c = some c.asRead := by
  have hstart := h.seqStart
  have hend := h.seqEnd
  have hsafe := h.safe
  simp only [parseRecordingChunk, Number.round_of_lt hsafe, Number.round_of_lt (Nat.lt_of_le_of_lt hend hsafe)]
  rw [if_neg (by omega)]
  rfl

theorem mapM_parse (h : ∀ c ∈ rows, c.Exact) :
    rows.mapM parseRecordingChunk = some (rows.map StoredChunk.asRead) := by
  induction rows with
  | nil => rfl
  | cons c rows ih =>
    obtain ⟨hc, hrest⟩ := List.forall_mem_cons.1 h
    rw [List.mapM_cons, parse_exact hc, ih hrest]
    rfl

theorem visit_visited (v : View) (c : TerminalRecordingChunk) : (v.visit c).visited = v.visited ++ [c] := by
  simp only [View.visit]
  split
  · rfl
  · split <;> rfl

theorem foldl_visited (v : View) (page : List TerminalRecordingChunk) :
    (page.foldl View.visit v).visited = v.visited ++ page := by
  induction page generalizing v with
  | nil => exact (List.append_nil _).symm
  | cons c page ih => rw [List.foldl_cons, ih, visit_visited, List.append_assoc, List.singleton_append]

/-- The cursor leaves the page behind, and nothing beyond it. -/
theorem foldl_max (page : List TerminalRecordingChunk) (cursor : Nat) :
    cursor ≤ page.foldl (fun acc c => max acc c.seqEnd) cursor ∧
      (∀ c ∈ page, c.seqEnd ≤ page.foldl (fun acc c => max acc c.seqEnd) cursor) ∧
      ∀ b, cursor ≤ b → (∀ c ∈ page, c.seqEnd ≤ b) → page.foldl (fun acc c => max acc c.seqEnd) cursor ≤ b := by
  induction page generalizing cursor with
  | nil => exact ⟨Nat.le_refl _, by simp, fun b hb _ => hb⟩
  | cons c page ih =>
    obtain ⟨hcursor, hpage, hleast⟩ := ih (max cursor c.seqEnd)
    refine ⟨?_, ?_, ?_⟩
    · exact Nat.le_trans (Nat.le_max_left ..) hcursor
    · intro d hd
      rcases List.mem_cons.1 hd with rfl | hd
      · exact Nat.le_trans (Nat.le_max_right ..) hcursor
      · exact hpage d hd
    · intro b hb hall
      obtain ⟨hc, hrest⟩ := List.forall_mem_cons.1 hall
      exact hleast b (Nat.max_le.2 ⟨hb, hc⟩) hrest

theorem add_one (h : cursor < 2 ^ 53) : Number.add cursor 1 = cursor + 1 := by
  by_cases hlt : cursor + 1 < 2 ^ 53
  · exact Number.round_of_lt hlt
  · obtain rfl : cursor = 2 ^ 53 - 1 := by omega
    decide +kernel

/-! ## The loop over the pages -/

/-- A recording whose chunks do not overlap. -/
structure Readable (rows : List StoredChunk) : Prop where
  exact : ∀ c ∈ rows, c.Exact
  apart : rows.Pairwise fun a b => a.seqEnd < b.seqStart ∨ b.seqEnd < a.seqStart

abbrev inOrder (rows : List StoredChunk) : List StoredChunk := rows.insertionSort (StartsBy StoredChunk.seqStart)

theorem Readable.laid (h : Readable rows) : Laid StoredChunk.seqStart StoredChunk.seqEnd (inOrder rows) :=
  laid_sort (fun c hc => (h.exact c hc).seqEnd) h.apart

theorem Readable.exact_inOrder (h : Readable rows) {c : StoredChunk} (hc : c ∈ inOrder rows) : c.Exact :=
  h.exact c ((List.mem_insertionSort _).1 hc)

/-- Where the cursor stands: it has passed the chunks behind it and none of those ahead. -/
structure Reached (rows : List StoredChunk) (cursor : Nat) (behind ahead : List StoredChunk) : Prop where
  split : inOrder rows = behind ++ ahead
  behind : ∀ c ∈ behind, c.seqStart < cursor
  ahead : ∀ c ∈ ahead, cursor ≤ c.seqStart

theorem Reached.exact_ahead (hrows : Readable rows) (h : Reached rows cursor behind ahead) :
    ∀ c ∈ ahead, c.Exact := by
  intro c hc
  apply hrows.exact_inOrder
  rw [h.split]
  exact List.mem_append_right _ hc

/-- The page the server sends for the cursor. -/
theorem server_chunks (markers : List Nat) (hrows : Readable (chunksOf table id))
    (h : Reached (chunksOf table id) cursor behind ahead) :
    (RecordingApi.server table markers id).chunks cursor chunkPageSize =
      .ok ((ahead.take chunkPageSize).map StoredChunk.asRead) := by
  have hpage : listChunks table id cursor chunkPageSize = ahead.take chunkPageSize :=
    pageFrom_eq hrows.laid h.split h.behind h.ahead
  have hexact : ∀ c ∈ ahead.take chunkPageSize, c.Exact := fun c hc =>
    h.exact_ahead hrows c (List.mem_of_mem_take hc)
  simp only [RecordingApi.server, hpage, mapM_parse hexact]

/-- The cursor moves from one page to the next. -/
theorem Reached.next (hrows : Readable rows) (h : Reached rows cursor behind ahead) (hne : ahead ≠ []) {size : Nat}
    (hsize : 0 < size) : Reached rows (nextCursor cursor ((ahead.take size).map StoredChunk.asRead))
      (behind ++ ahead.take size) (ahead.drop size) := by
  have hexact := h.exact_ahead hrows
  have hapart : ∀ c ∈ ahead.take size, ∀ d ∈ ahead.drop size, c.seqEnd < d.seqStart := by
    have hall := hrows.laid.apart
    rw [h.split] at hall
    have hahead := (List.pairwise_append.1 hall).2.1
    rw [← List.take_append_drop size ahead] at hahead
    exact (List.pairwise_append.1 hahead).2.2
  -- The page is not empty, so what comes after it is beyond the cursor.
  obtain ⟨first, hfirst⟩ : ∃ first, first ∈ ahead.take size := by
    apply List.exists_mem_of_ne_nil
    intro hnil
    rcases List.take_eq_nil_iff.1 hnil with hzero | hnil
    · omega
    · exact hne hnil
  have hahead := h.ahead first (List.mem_of_mem_take hfirst)
  have hrange := (hexact first (List.mem_of_mem_take hfirst)).seqEnd
  obtain ⟨hcursor, hends, hleast⟩ := foldl_max ((ahead.take size).map StoredChunk.asRead) cursor
  simp only [List.forall_mem_map] at hends hleast
  have hsafe : ((ahead.take size).map StoredChunk.asRead).foldl (fun acc c => max acc c.seqEnd) cursor ≤
      2 ^ 53 - 1 := by
    apply hleast
    · have := (hexact first (List.mem_of_mem_take hfirst)).safe
      omega
    · intro c hc
      exact Nat.le_sub_one_of_lt (hexact c (List.mem_of_mem_take hc)).safe
  rw [nextCursor, add_one (by omega)]
  refine ⟨?_, ?_, ?_⟩
  · rw [List.append_assoc, List.take_append_drop]
    exact h.split
  · intro c hc
    rcases List.mem_append.1 hc with hc | hc
    · have := h.behind c hc
      omega
    · have hend : c.seqEnd ≤ _ := hends c hc
      have := (hexact c (List.mem_of_mem_take hc)).seqEnd
      omega
  · intro c hc
    have hbefore : _ ≤ c.seqStart - 1 := hleast (c.seqStart - 1)
      (by have := hapart first hfirst c hc; omega)
      (fun d hd => Nat.le_sub_one_of_lt (hapart d hd c hc))
    have := (hexact c (List.mem_of_mem_drop hc)).seqStart
    omega

/-- With passes enough for the chunks ahead, the loop visits them all, in order, and ends. -/
theorem loadChunks_visits (markers : List Nat) (hrows : Readable (chunksOf table id)) (n : Nat)
    (h : Reached (chunksOf table id) cursor behind ahead) (hlength : ahead.length ≤ n * chunkPageSize) (v : View) :
    ∃ v', loadChunks (.server table markers id) n cursor v = (v', none) ∧
      v'.visited = v.visited ++ ahead.map StoredChunk.asRead := by
  induction n generalizing cursor behind ahead v with
  | zero =>
    obtain rfl : ahead = [] := List.eq_nil_of_length_eq_zero (by omega)
    exact ⟨_, rfl, (List.append_nil _).symm⟩
  | succ n ih =>
    have hpageLength : ((ahead.take chunkPageSize).map StoredChunk.asRead).length = min chunkPageSize ahead.length := by
      rw [List.length_map, List.length_take]
    simp only [loadChunks, server_chunks markers hrows h]
    by_cases hnil : ahead = []
    · subst hnil
      exact ⟨v, rfl, (List.append_nil _).symm⟩
    · have hpos := List.length_pos_iff.2 hnil
      have hsize : 0 < chunkPageSize := by decide
      rw [if_neg (by omega)]
      by_cases hlast : ((ahead.take chunkPageSize).map StoredChunk.asRead).length < chunkPageSize
      · -- A short page is the last one.
        rw [if_pos hlast]
        refine ⟨_, rfl, ?_⟩
        rw [foldl_visited, List.take_of_length_le (by omega)]
      · rw [if_neg hlast]
        have hrest : (ahead.drop chunkPageSize).length ≤ n * chunkPageSize := by
          rw [List.length_drop]
          rw [Nat.add_mul] at hlength
          omega
        obtain ⟨v', hload, hvisited⟩ := ih (h.next hrows hnil hsize) hrest
          (((ahead.take chunkPageSize).map StoredChunk.asRead).foldl View.visit v)
        refine ⟨v', hload, ?_⟩
        rw [hvisited, foldl_visited, List.append_assoc, ← List.map_append, List.take_append_drop]

/-! ## A load -/

/-- The first `seq_start` is where the loop begins. -/
theorem firstSeq_reached (markers : List Nat) (hrows : Readable (chunksOf table id)) :
    Reached (chunksOf table id) (((getMetadata table markers id).firstSeq.map Number.round).getD 1) []
      (inOrder (chunksOf table id)) := by
  refine ⟨rfl, by simp, ?_⟩
  intro c hc
  have hc := (List.mem_insertionSort _).1 hc
  have hmem : c.seqStart ∈ (chunksOf table id).map StoredChunk.seqStart := List.mem_map_of_mem hc
  simp only [getMetadata]
  cases hmin : ((chunksOf table id).map StoredChunk.seqStart).min? with
  | none =>
    rw [List.min?_eq_none_iff.1 hmin] at hmem
    cases hmem
  | some first =>
    have hle : first ≤ c.seqStart := (List.le_min?_iff hmin).1 (Nat.le_refl first) _ hmem
    have hsafe := (hrows.exact c hc).safe
    have hrange := (hrows.exact c hc).seqEnd
    rw [Option.map_some, Option.getD_some, Number.round_of_lt (by omega)]
    exact hle

/-- The viewer visits every chunk of the recording once, in order, and its load ends without an error. -/
theorem viewer_reads_all (table : List StoredChunk) (markers : List Nat) (id : Nat)
    (hexact : ∀ c ∈ chunksOf table id, c.Exact)
    (hapart : (chunksOf table id).Pairwise fun a b => a.seqEnd < b.seqStart ∨ b.seqEnd < a.seqStart)
    (hpages : (chunksOf table id).length ≤ hardLoopCap * chunkPageSize) :
    ∃ order : List StoredChunk, order.Perm (chunksOf table id) ∧ order.Pairwise (fun a b => a.seqEnd < b.seqStart) ∧
      (load (.server table markers id)).1.visited = order.map StoredChunk.asRead ∧
      ∀ summary, (load (.server table markers id)).2 ≠ .error summary := by
  have hrows : Readable (chunksOf table id) := ⟨hexact, hapart⟩
  refine ⟨inOrder (chunksOf table id), List.perm_insertionSort _ _, hrows.laid.apart, ?_⟩
  cases hrecording : (getMetadata table markers id).hasRecording with
  | false =>
    obtain ⟨hnone, -⟩ := Bool.or_eq_false_iff.1 hrecording
    have hnil : chunksOf table id = [] :=
      List.eq_nil_of_length_eq_zero (Nat.eq_zero_of_not_pos (of_decide_eq_false hnone))
    have hload : load (.server table markers id) = (.empty, .empty) := by
      simp [load, RecordingApi.server, hrecording]
    rw [hload, hnil]
    exact ⟨rfl, fun summary h => by cases h⟩
  | true =>
    have hlength : (inOrder (chunksOf table id)).length ≤ hardLoopCap * chunkPageSize := by
      rw [List.length_insertionSort]
      exact hpages
    obtain ⟨v, hchunks, hvisited⟩ :=
      loadChunks_visits markers hrows hardLoopCap (firstSeq_reached markers hrows) hlength .empty
    have hload : load (.server table markers id) = (v, v.status) := by
      have hstart : ∀ cursor, cursor = ((getMetadata table markers id).firstSeq.map Number.round).getD 1 →
          loadChunks (.server table markers id) hardLoopCap cursor .empty = (v, none) := fun cursor h => h ▸ hchunks
      unfold load
      simp only [RecordingApi.server, hrecording] at hstart ⊢
      rw [hstart _ rfl]
      rfl
    rw [hload]
    refine ⟨hvisited, ?_⟩
    intro summary h
    simp only [View.status] at h
    split at h <;> cases h

/-- A chunk of one frame. -/
def chunkAt (i : Nat) : StoredChunk := ⟨1, i + 1, i + 1, 1, [UInt8.ofNat i], "none", "none"⟩

/-- More chunks of session 1 than go on a page, stored back to front, and one of session 2. -/
def scattered : List StoredChunk := ⟨2, 1, 4, 1, [9], "none", "none"⟩ :: (List.range 300).reverse.map chunkAt

theorem chunksOf_scattered : chunksOf scattered 1 = (List.range 300).reverse.map chunkAt := by
  rw [chunksOf, scattered, List.filter_cons_of_neg (by decide)]
  refine List.filter_eq_self.2 fun c hc => ?_
  obtain ⟨i, -, rfl⟩ := List.mem_map.1 hc
  rfl

theorem viewer_reads_all_scattered :
    ∃ order : List StoredChunk, order.Perm (chunksOf scattered 1) ∧ order.Pairwise (fun a b => a.seqEnd < b.seqStart) ∧
      (load (.server scattered [1] 1)).1.visited = order.map StoredChunk.asRead ∧
      chunkPageSize < (load (.server scattered [1] 1)).1.visited.length := by
  have hexact : ∀ c ∈ chunksOf scattered 1, c.Exact := by
    intro c hc
    rw [chunksOf_scattered] at hc
    obtain ⟨i, hi, rfl⟩ := List.mem_map.1 hc
    have hlt : i < 300 := by simpa using hi
    exact ⟨Nat.succ_pos i, Nat.le_refl _, by dsimp only [chunkAt]; omega⟩
  have hapart : (chunksOf scattered 1).Pairwise fun a b => a.seqEnd < b.seqStart ∨ b.seqEnd < a.seqStart := by
    rw [chunksOf_scattered, List.pairwise_map, List.pairwise_reverse]
    exact List.pairwise_lt_range.imp fun h => .inr (Nat.succ_lt_succ h)
  have hlength : (chunksOf scattered 1).length = 300 := by simp [chunksOf_scattered]
  obtain ⟨order, hperm, hsorted, hvisited, -⟩ :=
    viewer_reads_all scattered [1] 1 hexact hapart (by rw [hlength]; decide)
  refine ⟨order, hperm, hsorted, hvisited, ?_⟩
  rw [hvisited, List.length_map, hperm.length_eq, hlength]
  decide

end RelayTerm.Recording
