import RelayTerm.Lib.Registry
import RelayTerm.Recording.Coverage
/-!
# Resize markers and the chunks around them

Two producers feed the writer of a session. The forwarder stamps a frame, stores
its number in `last_seq` and hands the frame over; `resize_session` reads
`last_seq` and hands a `resized` marker over. The writer task flushes its batch
at a marker, so no chunk spans the place a marker has in the queue. The marker's
number names that place exactly when it was read there: the marker of a call
that was overtaken by a frame, or that came before any frame, names another.
-/
open RelayTerm.Lib

namespace RelayTerm.Recording

/-! ## The two producers -/

/-- Where the forwarder is with the frame it received last. -/
inductive RecordingForwarder where
  | receiving
  | stamped (seq : Nat) (data : Bytes)
  /-- `last_seq` holds the frame's number; `record_output` is next. -/
  | stored (seq : Nat) (data : Bytes)
  deriving DecidableEq, Repr

/-- A `resize_session` call between its read of `last_seq` and `record_marker`. -/
structure PendingResize where
  latest : Nat
  cols : Nat
  rows : Nat
  deriving DecidableEq, Repr

def PendingResize.markerSeq (p : PendingResize) : Nat := max p.latest 1

def PendingResize.payload (p : PendingResize) : JsonObject := [("cols", .num p.cols), ("rows", .num p.rows)]

structure Tee where
  writer : Writer
  nextSeq : Nat
  lastSeq : Nat
  forwarder : RecordingForwarder
  resizes : Registry Nat PendingResize

/-- A runtime that has just been started. -/
def Tee.init : Tee := ⟨.enabled, 1, 0, .receiving, ∅⟩

inductive TeeEvent where
  | stamp (data : Bytes)
  | store
  | recordOutput
  | readLastSeq (call cols rows : Nat)
  | recordMarker (call : Nat)
  /-- The writer task, or a shutdown. -/
  | writer (e : Event)
  deriving DecidableEq, Repr

/-- The event hands something of the two producers over. -/
def Event.isProduced : Event → Bool
  | .output _ | .marker .. => true
  | _ => false

def Tee.step (ok : Nat → Bool) (cfg : RecordingWriterConfig) (s : Tee) : TeeEvent → Option Tee
  | .stamp data => match s.forwarder with
    | .receiving => some { s with nextSeq := s.nextSeq + 1, forwarder := .stamped s.nextSeq data }
    | _ => none
  | .store => match s.forwarder with
    | .stamped seq data => some { s with lastSeq := seq, forwarder := .stored seq data }
    | _ => none
  | .recordOutput => match s.forwarder with
    | .stored seq data =>
      if s.writer.senders then
        let fed := { s.writer with fed := s.writer.fed ++ [data] }
        some { s with writer := fed.recordOutput cfg seq data, forwarder := .receiving }
      else none
    | _ => none
  | .readLastSeq call cols rows =>
    if (s.resizes.lookup call).isSome then none
    else some { s with resizes := s.resizes.insert call ⟨s.lastSeq, cols, rows⟩ }
  | .recordMarker call => match s.resizes.lookup call with
    | some p =>
      if s.writer.senders then
        some { s with
          writer := s.writer.recordMarker .resized p.markerSeq p.payload, resizes := s.resizes.erase call }
      else none
    | none => none
  | .writer e => if e.isProduced then none else (s.writer.step ok cfg e).map fun w => { s with writer := w }

variable {ok : Nat → Bool} {cfg : RecordingWriterConfig} {w w' : Writer} {s s' : Tee}

/-- Frames are stamped `1`, `2`, ..., stored and handed over one by one. -/
def Tee.InOrder (s : Tee) : Prop :=
  match s.forwarder with
  | .receiving => s.nextSeq = s.writer.fed.length + 1 ∧ s.lastSeq = s.writer.fed.length
  | .stamped seq _ =>
    seq = s.writer.fed.length + 1 ∧ s.nextSeq = s.writer.fed.length + 2 ∧ s.lastSeq = s.writer.fed.length
  | .stored seq _ =>
    seq = s.writer.fed.length + 1 ∧ s.nextSeq = s.writer.fed.length + 2 ∧ s.lastSeq = s.writer.fed.length + 1

/-! ## What a step can do -/

/-- One case for each way a step goes; what changes the writer is one of its own steps. -/
inductive TeeStep (ok : Nat → Bool) (cfg : RecordingWriterConfig) (s : Tee) : TeeEvent → Tee → Prop where
  | stamped (data : Bytes) (idle : s.forwarder = .receiving) :
      TeeStep ok cfg s (.stamp data) { s with nextSeq := s.nextSeq + 1, forwarder := .stamped s.nextSeq data }
  | stored (seq : Nat) (data : Bytes) (stamped : s.forwarder = .stamped seq data) :
      TeeStep ok cfg s .store { s with lastSeq := seq, forwarder := .stored seq data }
  | output (seq : Nat) (data : Bytes) (stored : s.forwarder = .stored seq data) (w : Writer)
      (step : s.writer.step ok cfg (.output data) = some w) :
      TeeStep ok cfg s .recordOutput { s with writer := w, forwarder := .receiving }
  | read (call cols rows : Nat) :
      TeeStep ok cfg s (.readLastSeq call cols rows)
        { s with resizes := s.resizes.insert call ⟨s.lastSeq, cols, rows⟩ }
  | marker (call : Nat) (p : PendingResize) (pending : s.resizes.lookup call = some p) (w : Writer)
      (step : s.writer.step ok cfg (.marker .resized p.markerSeq p.payload) = some w) :
      TeeStep ok cfg s (.recordMarker call) { s with writer := w, resizes := s.resizes.erase call }
  | writer (e : Event) (own : e.isProduced = false) (w : Writer) (step : s.writer.step ok cfg e = some w) :
      TeeStep ok cfg s (.writer e) { s with writer := w }

theorem teeStep_cases {e : TeeEvent} (h : s.step ok cfg e = some s') (hs : s.InOrder) : TeeStep ok cfg s e s' := by
  cases e with
  | stamp data =>
    simp only [Tee.step] at h
    split at h
    · cases h
      exact .stamped data ‹_›
    · cases h
  | store =>
    simp only [Tee.step] at h
    split at h
    · cases h
      exact .stored _ _ ‹_›
    · cases h
  | recordOutput =>
    simp only [Tee.step] at h
    split at h
    · next seq data hfwd =>
      split at h
      · next alive =>
        cases h
        rw [Tee.InOrder, hfwd] at hs
        refine .output seq data hfwd _ ?_
        rw [Writer.step, if_pos alive, hs.1]
      · cases h
    · cases h
  | readLastSeq call cols rows =>
    simp only [Tee.step] at h
    split at h
    · cases h
    · cases h
      exact .read call cols rows
  | recordMarker call =>
    simp only [Tee.step] at h
    split at h
    · next p hp =>
      split at h
      · next alive =>
        cases h
        refine .marker call p hp _ ?_
        rw [Writer.step, if_pos alive]
      · cases h
    · cases h
  | writer e =>
    simp only [Tee.step] at h
    split at h
    · cases h
    · next own =>
      obtain ⟨w, hw, rfl⟩ := Option.map_eq_some_iff.1 h
      exact .writer e (Bool.eq_false_iff.2 own) w hw

/-- Only a frame handed over counts as fed. -/
theorem step_fed {e : Event} (h : w.step ok cfg e = some w') :
    (∃ data, e = .output data ∧ w'.fed = w.fed ++ [data]) ∨ ((∀ data, e ≠ .output data) ∧ w'.fed = w.fed) := by
  cases step_cases h with
  | output data =>
    obtain ⟨gap, hout | ⟨-, hout⟩⟩ := recordOutput_cases cfg { w with fed := w.fed ++ [data] } (w.fed.length + 1) data
    all_goals exact .inl ⟨data, rfl, by rw [hout]⟩
  | marker kind seq payload =>
    refine .inr ⟨by simp, ?_⟩
    rcases recordMarker_cases w kind seq payload with hsame | ⟨-, -, hqueued⟩
    · rw [hsame]
    · rw [hqueued]
  | shutdownGone | shutdownQueued | dequeued | finished | exited | sendersDropped | abandoned | aborted =>
    exact .inr ⟨by simp, rfl⟩

theorem output_fed {data : Bytes} (h : w.step ok cfg (.output data) = some w') :
    w'.fed.length = w.fed.length + 1 := by
  rcases step_fed h with ⟨data, -, hfed⟩ | ⟨hne, -⟩
  · rw [hfed, List.length_append, List.length_singleton]
  · exact absurd rfl (hne data)

theorem other_fed {e : Event} (h : w.step ok cfg e = some w') (he : ∀ data, e ≠ .output data) : w'.fed = w.fed := by
  rcases step_fed h with ⟨data, rfl, -⟩ | ⟨-, hfed⟩
  · exact absurd rfl (he data)
  · exact hfed

theorem step_inOrder {e : TeeEvent} (hs : s.InOrder) (h : s.step ok cfg e = some s') : s'.InOrder := by
  cases teeStep_cases h hs with
  | stamped data idle =>
    rw [Tee.InOrder, idle] at hs
    exact ⟨hs.1, congrArg (· + 1) hs.1, hs.2⟩
  | stored seq data stamped =>
    rw [Tee.InOrder, stamped] at hs
    exact ⟨hs.1, hs.2.1, hs.1⟩
  | output seq data stored w step =>
    rw [Tee.InOrder, stored] at hs
    show s.nextSeq = w.fed.length + 1 ∧ s.lastSeq = w.fed.length
    rw [output_fed step]
    exact hs.2
  | read => exact hs
  | marker call p pending w step =>
    rw [Tee.InOrder] at hs ⊢
    rw [other_fed step (by simp)]
    exact hs
  | writer e own w step =>
    rw [Tee.InOrder] at hs ⊢
    rw [other_fed step (by rintro data rfl; cases own)]
    exact hs

/-- A stamp, and the read of a resize, are none of the writer's business. -/
theorem stamp_writer {data : Bytes} (h : s.step ok cfg (.stamp data) = some s') : s'.writer = s.writer := by
  simp only [Tee.step] at h
  split at h
  · cases h
    rfl
  · cases h

theorem readLastSeq_writer {call cols rows : Nat} (h : s.step ok cfg (.readLastSeq call cols rows) = some s') :
    s'.writer = s.writer ∧ s'.forwarder = s.forwarder := by
  simp only [Tee.step] at h
  split at h
  · cases h
  · cases h
    exact ⟨rfl, rfl⟩

/-! ## Frames and markers in their order -/

/-- What is on its way to the tables, or in them: consecutive frames, or a `resized` marker. -/
inductive Item where
  | frames (lo hi : Nat)
  | resized (seq : Nat)
  deriving DecidableEq, Repr

/-- What comes first, and what comes after it: no marker's number lies among the frames. -/
def Item.Apart : Item → Item → Prop
  | .frames _ hi, .resized n => hi ≤ n
  | .resized n, .frames lo _ => n < lo
  | _, _ => True

def markerItems (kind : MarkerKind) (seq : Nat) : List Item := if kind = .resized then [.resized seq] else []

def ChunkBatch.item (b : ChunkBatch) : Item := .frames b.seqStart b.seqEnd

def Row.items : Row → List Item
  | .chunk seqStart seqEnd _ _ => [.frames seqStart seqEnd]
  | .marker kind seq _ => markerItems kind seq
  | .replayGap _ => []

def Log.items (log : Log) : List Item := log.flatMap fun r => r.1.items

def Call.items : Call → List Item
  | .flushChunk b => [b.item]
  | .writeReplayGap _ => []
  | .writeMarker kind seq _ => markerItems kind seq

def Command.items : Command → List Item
  | .output seq _ _ => [.frames seq seq]
  | .marker kind seq _ => markerItems kind seq
  | .shutdown _ => []

def openItems (batch : Option ChunkBatch) : List Item := batch.toList.map ChunkBatch.item

def Writer.items (w : Writer) : List Item :=
  Log.items w.log ++ openItems w.batch ++ w.queue.flatMap Command.items

def Item.top : Item → Nat
  | .frames _ hi => hi
  | .resized n => n

/-- No marker's number lies among the frames of an item, and all numbers are of frames handed over. -/
structure Writer.Bounded (w : Writer) : Prop where
  apart : w.items.Pairwise Item.Apart
  top : ∀ x ∈ w.items, x.top ≤ w.fed.length

/-- Whatever surrounds them, `ys` are apart from it and from each other if `xs` are. -/
def Condenses (xs ys : List Item) : Prop :=
  ∀ before after, (before ++ xs ++ after).Pairwise Item.Apart → (before ++ ys ++ after).Pairwise Item.Apart

variable {xs ys zs xs' ys' : List Item} {n : Nat}

theorem Condenses.refl (xs : List Item) : Condenses xs xs := fun _ _ h => h

theorem Condenses.of_sublist (h : ys.Sublist xs) : Condenses xs ys := by
  intro before after hp
  exact hp.sublist ((h.append_left before).append_right after)

theorem Condenses.trans (h : Condenses xs ys) (h' : Condenses ys zs) : Condenses xs zs :=
  fun before after hp => h' before after (h before after hp)

theorem Condenses.append (h : Condenses xs xs') (h' : Condenses ys ys') : Condenses (xs ++ ys) (xs' ++ ys') := by
  intro before after hp
  have hxs := h before (ys ++ after) (by simpa using hp)
  have hys := h' (before ++ xs') after (by simpa using hxs)
  simpa using hys

/-- Two stretches of frames with no marker between them. -/
theorem condenses_join (lo mid next hi : Nat) : Condenses [.frames lo mid, .frames next hi] [.frames lo hi] := by
  intro before after hp
  simp only [List.append_assoc, List.cons_append, List.nil_append, List.pairwise_append, List.pairwise_cons,
    List.mem_cons] at hp ⊢
  obtain ⟨hbefore, ⟨hlo, hhi, hafter⟩, hcross⟩ := hp
  refine ⟨hbefore, ⟨fun y hy => ?_, hafter⟩, fun x hx y hy => ?_⟩
  · have := hhi y hy
    cases y <;> exact this
  · rcases hy with rfl | hy
    · have := hcross x hx (.frames lo mid) (.inl rfl)
      cases x <;> exact this
    · exact hcross x hx y (.inr (.inr hy))

/-! ## The writer keeps the order -/

theorem items_append (log rows : Log) : Log.items (log ++ rows) = Log.items log ++ Log.items rows :=
  List.flatMap_append ..

theorem items_take (log : Log) (n : Nat) : (Log.items (log.take n)).Sublist (Log.items log) := by
  conv_rhs => rw [← List.take_append_drop n log, items_append]
  exact List.sublist_append_left _ _

/-- A call submits its item, or nothing of it. -/
theorem perform_items (ok : Nat → Bool) (log : Log) (call : Call) :
    ∃ rows, call.perform ok log = log ++ rows ∧ (Log.items rows).Sublist call.items := by
  cases call with
  | flushChunk b =>
    obtain ⟨x, hpiece, hrows, -⟩ := flushChunk_entry ok log b
    refine ⟨x.rows, hrows, ?_⟩
    cases x <;> cases hpiece <;> simp [Entry.rows, Log.items, ChunkBatch.row, Row.items, Call.items, ChunkBatch.item]
  | writeReplayGap g =>
    obtain ⟨x, hpiece, hrows, -⟩ := writeReplayGap_entry ok log g
    refine ⟨x.rows, hrows, ?_⟩
    cases x <;> cases hpiece <;> simp [Entry.rows, Log.items, Row.items]
  | writeMarker kind seq payload => exact ⟨_, rfl, by simp [Log.items, Row.items, Call.items]⟩

theorem performAll_items (ok : Nat → Bool) (log : Log) (calls : List Call) :
    ∃ rows, calls.foldl (Call.perform ok) log = log ++ rows ∧ (Log.items rows).Sublist (calls.flatMap Call.items) := by
  induction calls generalizing log with
  | nil => exact ⟨[], by simp, by simp [Log.items]⟩
  | cons call calls ih =>
    obtain ⟨rows, hrows, hsub⟩ := perform_items ok log call
    obtain ⟨more, hmore, hsub'⟩ := ih (call.perform ok log)
    refine ⟨rows ++ more, by rw [List.foldl_cons, hmore, hrows, List.append_assoc], ?_⟩
    rw [items_append, List.flatMap_cons]
    exact hsub.append hsub'

theorem flushCalls_items (batch : Option ChunkBatch) : (flushCalls batch).flatMap Call.items = openItems batch := by
  cases batch <;> rfl

theorem batchFrame_condenses (cfg : RecordingWriterConfig) (batch : Option ChunkBatch) (seq : Nat) (data : Bytes) :
    Condenses (openItems batch ++ [.frames seq seq])
      ((batchFrame cfg batch seq data).1.flatMap Call.items ++ [(batchFrame cfg batch seq data).2.item]) := by
  cases batch with
  | none => exact .refl _
  | some b =>
    simp only [batchFrame]
    split
    · exact .refl _
    · exact condenses_join b.seqStart b.seqEnd seq seq

theorem flushAtTarget_items (cfg : RecordingWriterConfig) (batch : ChunkBatch) :
    (flushAtTarget cfg batch).1.flatMap Call.items ++ openItems (flushAtTarget cfg batch).2 = [batch.item] := by
  unfold flushAtTarget
  split <;> rfl

theorem frameCalls_condenses (cfg : RecordingWriterConfig) (batch : Option ChunkBatch) (seq : Nat) (data : Bytes) :
    Condenses (openItems batch ++ [.frames seq seq])
      ((frameCalls cfg batch seq data).1.flatMap Call.items ++ openItems (frameCalls cfg batch seq data).2) := by
  unfold frameCalls
  split
  · -- a frame over the hard cap leaves a gap marker only
    apply Condenses.of_sublist
    simp [List.flatMap_append, flushCalls_items, Call.items, openItems]
  · simp only [List.flatMap_append, List.append_assoc, flushAtTarget_items]
    exact batchFrame_condenses cfg batch seq data

/-- A command turns the open batch and what it brings along into calls and a new open batch. -/
theorem command_condenses (cfg : RecordingWriterConfig) (batch : Option ChunkBatch) (cmd : Command) :
    Condenses (openItems batch ++ cmd.items)
      ((cmd.calls cfg batch).1.flatMap Call.items ++ openItems (cmd.calls cfg batch).2) := by
  cases cmd with
  | output seq data gapBefore =>
    cases gapBefore with
    | none => exact frameCalls_condenses cfg batch seq data
    | some gap =>
      simp only [Command.calls, outputCalls, List.flatMap_append, List.flatMap_cons, flushCalls_items, Call.items,
        List.nil_append, List.append_assoc]
      exact (Condenses.refl _).append (frameCalls_condenses cfg none seq data)
  | marker kind seq payload =>
    apply Condenses.of_sublist
    simp [Command.calls, List.flatMap_append, flushCalls_items, Call.items, Command.items, openItems]
  | shutdown lastSeq => exact .of_sublist (by simp [Command.calls, Command.items])

/-- The task takes the items `taken` from the queue, makes `calls` and leaves `batch` open. -/
theorem performed_condenses (ok : Nat → Bool) (w : Writer) {calls : List Call} (batch : Option ChunkBatch)
    (taken rest : List Item) (hqueue : w.queue.flatMap Command.items = taken ++ rest)
    (hcalls : Condenses (openItems w.batch ++ taken) (calls.flatMap Call.items ++ openItems batch)) :
    Condenses w.items (Log.items (calls.foldl (Call.perform ok) w.log) ++ openItems batch ++ rest) := by
  obtain ⟨rows, hrows, hsub⟩ := performAll_items ok w.log calls
  have hdone := hcalls.trans ((Condenses.of_sublist hsub).append (.refl (openItems batch)))
  have hall := (Condenses.refl (Log.items w.log)).append (hdone.append (.refl rest))
  rw [hrows, items_append]
  simpa only [Writer.items, hqueue, List.append_assoc] using hall

/-- A command is handled. -/
theorem dequeued_condenses (ok : Nat → Bool) (cfg : RecordingWriterConfig) {cmd : Command} {rest : List Command}
    (hqueue : w.queue = cmd :: rest) :
    Condenses w.items (Log.items ((cmd.calls cfg w.batch).1.foldl (Call.perform ok) w.log) ++
      openItems (cmd.calls cfg w.batch).2 ++ rest.flatMap Command.items) :=
  performed_condenses ok w _ cmd.items _ (by rw [hqueue, List.flatMap_cons]) (command_condenses cfg w.batch cmd)

/-- The open batch is flushed and the recording sealed. -/
theorem sealed_condenses (ok : Nat → Bool) {calls : List Call} {seq : Nat} {payload : JsonObject}
    (hcalls : calls = flushCalls w.batch ++ [.writeMarker .closed seq payload]) (hqueue : w.queue = []) :
    Condenses w.items (Log.items (calls.foldl (Call.perform ok) w.log)) := by
  have hflush : Condenses (openItems w.batch ++ []) (calls.flatMap Call.items ++ openItems none) := by
    apply Condenses.of_sublist
    simp [hcalls, List.flatMap_append, flushCalls_items, Call.items, markerItems, openItems]
  have hall := performed_condenses ok w none [] [] (by simp [hqueue]) hflush
  simpa [openItems] using hall

/-- What the task is doing when it is aborted. -/
theorem doing_condenses (ok : Nat → Bool) (cfg : RecordingWriterConfig) (w : Writer) :
    Condenses w.items (Log.items ((w.doing cfg).foldl (Call.perform ok) w.log)) := by
  cases hqueue : w.queue with
  | nil =>
    simp only [Writer.doing, hqueue, Writer.calls]
    cases w.mode with
    | draining lastSeq => exact sealed_condenses ok rfl hqueue
    | running | returning | stopped => exact .of_sublist (by simp [Writer.items])
  | cons cmd rest =>
    simp only [Writer.doing, hqueue, Writer.calls]
    have hall := dequeued_condenses ok cfg hqueue
    rw [List.append_assoc] at hall
    exact hall.trans (.of_sublist (List.sublist_append_left _ _))

/-- What may come behind `n` frames: a marker that names the last of them, and the next frame. -/
def horizon (n : Nat) : List Item := [.resized n, .frames (n + 1) (n + 1)]

theorem pairwise_horizon :
    (xs ++ horizon n).Pairwise Item.Apart ↔ xs.Pairwise Item.Apart ∧ ∀ x ∈ xs, x.top ≤ n := by
  rw [List.pairwise_append]
  constructor
  · rintro ⟨hxs, -, hcross⟩
    refine ⟨hxs, fun x hx => ?_⟩
    cases x with
    | frames lo hi => exact hcross _ hx (.resized n) (by simp [horizon])
    | resized k => exact Nat.le_of_lt_succ (hcross _ hx (.frames (n + 1) (n + 1)) (by simp [horizon]))
  · rintro ⟨hxs, htop⟩
    refine ⟨hxs, by simp [horizon, Item.Apart], fun x hx y hy => ?_⟩
    have hx := htop x hx
    simp only [horizon, List.mem_cons, List.not_mem_nil, or_false] at hy
    rcases hy with rfl | rfl <;> cases x <;> simp only [Item.Apart, Item.top] at hx ⊢ <;> omega

theorem Writer.Bounded.condenses (hw : w.Bounded) (hfed : w'.fed = w.fed) (h : Condenses w.items w'.items) :
    w'.Bounded := by
  have hnext := pairwise_horizon.1 (h [] (horizon w.fed.length) (pairwise_horizon.2 ⟨hw.apart, hw.top⟩))
  exact ⟨hnext.1, by rw [hfed]; exact hnext.2⟩

/-- One frame more. -/
theorem Writer.Bounded.frame (hw : w.Bounded) (hfed : w'.fed.length = w.fed.length + 1)
    (hitems : w'.items = w.items ++ [.frames (w.fed.length + 1) (w.fed.length + 1)]) : w'.Bounded := by
  constructor
  · rw [hitems, List.pairwise_append]
    refine ⟨hw.apart, List.pairwise_singleton _ _, fun x hx y hy => ?_⟩
    obtain rfl := List.mem_singleton.1 hy
    cases x with
    | frames lo hi => trivial
    | resized k => exact Nat.lt_succ_of_le (hw.top _ hx)
  · intro x hx
    rw [hitems, List.mem_append, List.mem_singleton] at hx
    rcases hx with hx | rfl
    · exact Nat.le_trans (hw.top x hx) (by omega)
    · exact Nat.le_of_eq hfed.symm

/-- A marker that names the last of the frames. -/
theorem Writer.Bounded.marker (hw : w.Bounded) (hfed : w'.fed = w.fed)
    (hitems : w'.items = w.items ++ [.resized w.fed.length]) : w'.Bounded := by
  constructor
  · rw [hitems, List.pairwise_append]
    refine ⟨hw.apart, List.pairwise_singleton _ _, fun x hx y hy => ?_⟩
    obtain rfl := List.mem_singleton.1 hy
    cases x with
    | frames lo hi => exact hw.top _ hx
    | resized k => trivial
  · intro x hx
    rw [hitems, List.mem_append, List.mem_singleton] at hx
    rw [hfed]
    rcases hx with hx | rfl
    · exact hw.top x hx
    · exact Nat.le_refl _

/-- The number of the marker is that of the last frame handed over. -/
def Writer.MarksLast (w : Writer) : Event → Prop
  | .marker .resized seq _ => seq = w.fed.length
  | _ => True

/-- **One step** keeps markers off the frames of every item, if a marker that is handed over names the last frame. -/
theorem step_bounded {e : Event} (hw : w.Bounded) (he : w.MarksLast e) (h : w.step ok cfg e = some w') :
    w'.Bounded := by
  -- a step that at most loses items
  have fewer : ∀ v : Writer, v.fed = w.fed → v.items.Sublist w.items → v.Bounded :=
    fun v hfed hsub => hw.condenses hfed (.of_sublist hsub)
  cases step_cases h with
  | output data =>
    obtain ⟨gap, hout | ⟨-, hout⟩⟩ := recordOutput_cases cfg { w with fed := w.fed ++ [data] } (w.fed.length + 1) data
    · rw [hout]
      refine ⟨hw.apart, fun x hx => Nat.le_trans (hw.top x hx) ?_⟩
      simp
    · rw [hout]
      exact hw.frame (by simp) (by simp [Writer.items, Command.items])
  | marker kind seq payload =>
    rcases recordMarker_cases w kind seq payload with hsame | ⟨-, -, hqueued⟩
    · rw [hsame]
      exact hw
    · rw [hqueued]
      by_cases hkind : kind = .resized
      · subst hkind
        obtain rfl : seq = w.fed.length := he
        exact hw.marker rfl (by simp [Writer.items, Command.items, markerItems])
      · exact fewer _ rfl (by simp [Writer.items, Command.items, markerItems, hkind])
  | shutdownGone => exact hw
  | shutdownQueued => exact fewer _ rfl (by simp [Writer.items, Command.items])
  | dequeued cmd rest mode queue =>
    refine hw.condenses rfl ?_
    simpa only [Writer.items, Writer.perform, Writer.calls, queue] using dequeued_condenses ok cfg queue
  | finished lastSeq mode queue =>
    have hcalls : w.calls cfg .finish =
        flushCalls w.batch ++ [.writeMarker .closed (closeSeq lastSeq) [("reason", .str "session_close")]] := by
      rw [Writer.calls, mode]
    refine hw.condenses rfl ((sealed_condenses ok hcalls queue).trans (.of_sublist ?_))
    simp [Writer.items, Writer.perform, queue, openItems]
  | exited => exact fewer _ rfl (by simp [Writer.items])
  | sendersDropped => exact ⟨hw.apart, hw.top⟩
  | abandoned _ _ queue =>
    have hall : Condenses w.items (Log.items ((w.calls cfg .abandoned).foldl (Call.perform ok) w.log)) :=
      sealed_condenses ok rfl queue
    refine hw.condenses rfl (hall.trans (.of_sublist ?_))
    simp [Writer.items, Writer.perform, queue, openItems]
  | aborted rows =>
    refine hw.condenses rfl ((doing_condenses ok cfg w).trans (.of_sublist ?_))
    simpa [Writer.items, Writer.perform, openItems] using items_take _ _

theorem enabled_bounded : Writer.enabled.Bounded := by
  constructor <;> simp [Writer.items, Writer.enabled, Log.items, openItems, Command.items, markerItems]

/-! ## Resize markers fall on chunk boundaries -/

/-- The number of a `resized` marker the repository took. -/
def storedResize : Row × Bool → Option Nat
  | (.marker .resized seq _, true) => some seq
  | _ => none

def Writer.resizedSeqs (w : Writer) : List Nat := w.log.filterMap storedResize

theorem storedResize_item {r : Row × Bool} (h : storedResize r = some n) : .resized n ∈ r.1.items := by
  obtain ⟨row, stored⟩ := r
  cases row with
  | marker kind seq payload => cases kind <;> cases stored <;> simp_all [storedResize, Row.items, markerItems]
  | chunk | replayGap => simp [storedResize] at h

theorem storedChunk_item {r : Row × Bool} {b : ChunkBatch} (h : storedChunk r = some b) : b.item ∈ r.1.items := by
  obtain ⟨row, stored⟩ := r
  cases row with
  | chunk =>
    cases stored
    · simp [storedChunk] at h
    · obtain rfl := Option.some.inj h
      exact List.mem_singleton.2 rfl
  | marker | replayGap => simp [storedChunk] at h

theorem mem_items {r : Row × Bool} {x : Item} (hr : r ∈ w.log) (hx : x ∈ r.1.items) : x ∈ w.items :=
  List.mem_append_left _ (List.mem_append_left _ (List.mem_flatMap.2 ⟨r, hr, hx⟩))

/-- A stored chunk and the number of a stored marker. -/
theorem Writer.Bounded.chunk (hw : w.Bounded) {b : ChunkBatch} (hn : n ∈ w.resizedSeqs) (hb : b ∈ w.chunks) :
    b.seqEnd ≤ n ∨ n < b.seqStart := by
  obtain ⟨r, hr, hrn⟩ := List.mem_filterMap.1 hn
  obtain ⟨r', hr', hrb⟩ := List.mem_filterMap.1 hb
  have hboth : w.items.Pairwise fun x y => x.Apart y ∨ y.Apart x := hw.apart.imp Or.inl
  have : Std.Symm fun x y : Item => x.Apart y ∨ y.Apart x := ⟨fun _ _ => Or.symm⟩
  exact hboth.forall (mem_items hr' (storedChunk_item hrb)) (mem_items hr (storedResize_item hrn))
    (by simp [ChunkBatch.item])

/-- A marker is handed over when the frames up to the number its call read, one
at least, have been handed over and no other. -/
def Tee.InStep (s : Tee) : TeeEvent → Prop
  | .recordMarker call => ∀ p ∈ s.resizes.lookup call, 1 ≤ p.latest ∧ p.latest = s.writer.fed.length
  | _ => True

instance (s : Tee) : (e : TeeEvent) → Decidable (s.InStep e)
  | .recordMarker _ => inferInstanceAs (Decidable (∀ p ∈ _, _))
  | .stamp _ | .store | .recordOutput | .readLastSeq .. | .writer _ => inferInstanceAs (Decidable True)

/-- Nothing is handed over to a full queue. -/
def Tee.Roomy (s : Tee) : TeeEvent → Prop
  | .recordOutput | .recordMarker _ => s.writer.queue.length < queueCapacity
  | _ => True

instance (s : Tee) : (e : TeeEvent) → Decidable (s.Roomy e)
  | .recordOutput | .recordMarker _ => inferInstanceAs (Decidable (_ < _))
  | .stamp _ | .store | .readLastSeq .. | .writer _ => inferInstanceAs (Decidable True)

theorem teeStep_bounded {e : TeeEvent} (hs : s.InOrder ∧ s.writer.Bounded) (he : s.InStep e)
    (h : s.step ok cfg e = some s') : s'.InOrder ∧ s'.writer.Bounded := by
  refine ⟨step_inOrder hs.1 h, ?_⟩
  cases teeStep_cases h hs.1 with
  | stamped | stored | read => exact hs.2
  | output seq data stored w step =>
    have he : s.writer.MarksLast (.output data) := trivial
    exact step_bounded hs.2 he step
  | marker call p pending w step =>
    obtain ⟨hone, hlatest⟩ := he p pending
    refine step_bounded hs.2 ?_ step
    show max p.latest 1 = s.writer.fed.length
    omega
  | writer e own w step =>
    refine step_bounded hs.2 ?_ step
    cases e <;> trivial

/-- **Resize markers fall on chunk boundaries**, in every interleaving of the
forwarder with any number of resizes and whatever the repository answers, if each
marker is handed over while the number its call read is that of the last frame
handed over. -/
theorem resized_on_boundary (ok : Nat → Bool) (cfg : RecordingWriterConfig) (evs : List TeeEvent) (s : Tee)
    (hg : Guarded (Tee.step ok cfg) Tee.InStep .init evs) (hr : run (Tee.step ok cfg) .init evs = some s) :
    ∀ n ∈ s.writer.resizedSeqs, ∀ b ∈ s.writer.chunks, ¬ (b.seqStart ≤ n ∧ n < b.seqEnd) := by
  intro n hn b hb
  have hs := hg.inv (fun s => s.InOrder ∧ s.writer.Bounded) (fun _ _ _ hs he h => teeStep_bounded hs he h) hr
    ⟨⟨rfl, rfl⟩, enabled_bounded⟩
  have := hs.2.chunk hn hb
  omega

/-- Two frames, a resize that nothing overtakes, and a third frame. -/
def resizedRun : List TeeEvent :=
  [.writer .dequeue, .stamp [1], .store, .recordOutput, .stamp [2], .store, .recordOutput, .readLastSeq 0 100 40,
    .recordMarker 0, .stamp [3], .store, .recordOutput, .writer .dequeue, .writer .dequeue, .writer .dequeue,
    .writer .dequeue, .writer (.shutdown 3), .writer .dequeue, .writer .finish]

theorem resized_on_boundary_between : ∃ s, run (Tee.step (fun _ => true) .default) .init resizedRun = some s ∧
    s.writer.resizedSeqs = [2] ∧ s.writer.chunks = [⟨1, 2, [1, 2]⟩, ⟨3, 3, [3]⟩] ∧
    ∀ n ∈ s.writer.resizedSeqs, ∀ b ∈ s.writer.chunks, ¬ (b.seqStart ≤ n ∧ n < b.seqEnd) :=
  ⟨_, rfl, rfl, rfl, resized_on_boundary (fun _ => true) .default resizedRun _ (by decide) rfl⟩

/-- A resize before any output: its marker gets number 1, and frame 1 goes into a
chunk with frame 2. -/
def resizedFirstRun : List TeeEvent :=
  [.writer .dequeue, .readLastSeq 0 100 40, .recordMarker 0, .stamp [1], .store, .recordOutput, .stamp [2], .store,
    .recordOutput, .writer .dequeue, .writer .dequeue, .writer .dequeue, .writer (.shutdown 2), .writer .dequeue,
    .writer .finish]

theorem resized_inside_chunk : ¬ ∀ (cfg : RecordingWriterConfig) (evs : List TeeEvent) (s : Tee),
    Guarded (Tee.step (fun _ => true) cfg) Tee.Roomy .init evs →
    run (Tee.step (fun _ => true) cfg) .init evs = some s →
    ∀ n ∈ s.writer.resizedSeqs, ∀ b ∈ s.writer.chunks, ¬ (b.seqStart ≤ n ∧ n < b.seqEnd) := by
  intro h
  exact h .default resizedFirstRun _ (by decide) rfl 1 (by decide) ⟨1, 2, [1, 2]⟩ (by decide) (by decide)

-- a frame that overtakes the resize between its read and its marker does the same
example : ∃ s, run (Tee.step (fun _ => true) .default) .init
      [.writer .dequeue, .stamp [1], .store, .recordOutput, .readLastSeq 0 100 40, .stamp [2], .store, .recordOutput,
        .recordMarker 0, .writer .dequeue, .writer .dequeue, .writer .dequeue] = some s ∧
    s.writer.resizedSeqs = [1] ∧ s.writer.chunks = [⟨1, 2, [1, 2]⟩] :=
  ⟨_, rfl, rfl, rfl⟩

end RelayTerm.Recording
