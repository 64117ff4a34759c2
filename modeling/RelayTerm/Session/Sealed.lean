import RelayTerm.Session.Liveness
import RelayTerm.Session.Tape
/-!
# The recording of an ended session

A recording is sealed by the close that takes the runtime out of the registry,
not by whoever closes the row. So at rest the recording of a session is sealed
exactly when its runtime has left the registry: a session that its forwarder
closed keeps an open recording until somebody closes it again.
-/
open RelayTerm.Lib
open RelayTerm.Recording (Tee TeeEvent RecordingForwarder RecordingWriterConfig Writer i64Max)

namespace RelayTerm.Session

variable {sid : SessionId} {cfg : RecordingWriterConfig} {s s' : Sys} {r r' : Recorded} {tape tape' : Tape}

/-! ## The runs -/

/-- A shutdown that goes on to seal the recording finds the forwarder done with
all its frames, and no gap pending. -/
def Recorded.ForwarderDone (sid : SessionId) (r : Recorded) : Event → Prop
  | .call _ => True
  | .resume tid env => ∀ t ∈ r.sys.tasks.lookup tid,
    (r.sys.store.resume env r.sys.nextTask t).next.seals = some sid →
      r.sys.tasks.any (fun u => !(u.pumps ≠ some sid)) = false ∧
        ∀ tape ∈ r.tape, tape.tee.forwarder = .receiving ∧ tape.tee.writer.pendingGap = none

/-- Starts come to live runtimes, forwarders are done within their 500 ms, and
the writer task meets its deadline and leaves no frame without a row. -/
def Recorded.Timely (sid : SessionId) (cfg : RecordingWriterConfig) (r : Recorded) : RecordedEvent → Prop
  | .sys e => StartsWell r.sys e ∧ r.ForwarderDone sid e
  | .tee (.writer e) => e.isAbort = false ∧ ∀ tape ∈ r.tape, (tape.tee.writer.calls cfg e).all (!·.silent) = true
  | _ => True

instance (r : Recorded) : (e : Event) → Decidable (r.ForwarderDone sid e)
  | .call _ => inferInstanceAs (Decidable True)
  | .resume _ _ => inferInstanceAs (Decidable (∀ t ∈ _, _))

instance (r : Recorded) : (e : RecordedEvent) → Decidable (r.Timely sid cfg e)
  | .sys _ => inferInstanceAs (Decidable (_ ∧ _))
  | .tee (.writer _) => inferInstanceAs (Decidable (_ ∧ ∀ tape ∈ _, _))
  | .tee (.stamp _) | .tee .store | .tee .recordOutput | .tee (.readLastSeq ..) | .tee (.recordMarker _)
  | .shutdown | .dropSenders => inferInstanceAs (Decidable True)

/-! ## The invariant -/

/-- The forwarder is done with all its frames, and no gap is pending. -/
structure Quiet (sid : SessionId) (s : Sys) (tape : Tape) : Prop where
  pumps : ∀ i t, s.tasks.lookup i = some t → t.pumps ≠ some sid
  forwarder : tape.tee.forwarder = .receiving
  gap : tape.tee.writer.pendingGap = none

/-- The writer carries out a shutdown with the number of the last frame. -/
structure Sealing (w : Writer) : Prop where
  sealing : w.Sealing (min w.fed.length i64Max)
  drained : w.Drained

/-- How far the end of the recording has come. -/
inductive Stage (sid : SessionId) (s : Sys) (tape : Tape) : Prop where
  | feeding (who : s.Registered sid ∨ ∃ i t, s.HeldBy sid i t ∧ t.seals = none) (closing : tape.closing = none)
      (opened : tape.tee.writer.Open)
  | closing (i : TaskId) (t : Task) (held : s.HeldBy sid i t) (seals : t.seals = some sid) (quiet : Quiet sid s tape)
      (closing : tape.closing = some tape.tee.writer.fed.length) (opened : tape.tee.writer.Open)
  | sealing (who : (∃ i t, s.HeldBy sid i t ∧ t.seals = some sid) ∨ s.Unheld sid ∧ tape.acked)
      (quiet : Quiet sid s tape) (closing : tape.closing = none) (sealing : Sealing tape.tee.writer)

structure Tape.Sound (sid : SessionId) (s : Sys) (tape : Tape) : Prop where
  stage : Stage sid s tape
  inOrder : tape.tee.InOrder
  complete : tape.tee.writer.Complete
  taken : Recording.Log.Taken tape.tee.writer.log

structure Recorded.Sound (sid : SessionId) (r : Recorded) : Prop where
  handles : r.sys.Handles
  births : r.sys.Births
  unopened : r.tape = none → r.sys.Unheld sid
  tape : ∀ tape, r.tape = some tape → tape.Sound sid r.sys

theorem init_sound (sid : SessionId) (ttl : Nat) : (Recorded.init ttl).Sound sid where
  handles := init_handles ttl
  births := init_births ttl
  unopened := fun _ => ⟨rfl, by simp [Recorded.init, Sys.init, Sys.NoHolder]⟩
  tape := by simp [Recorded.init]

/-! ## A step of the manager -/

theorem call_stage {c : Call} (hc : c.isStartFailed = false) (h : s.step (.call c) = some s') (hids : s.IdsFresh)
    (hs : Stage sid s tape) : Stage sid s' tape := by
  have hstore := call_store hc h
  have hquiet : Quiet sid s tape → Quiet sid s' tape := by
    intro hq
    refine ⟨fun i t ht => ?_, hq.forwarder, hq.gap⟩
    rcases call_task hc h ht with hold | hfirst
    · exact hq.pumps i t hold
    · intro hp
      cases t <;> cases hp
      cases hfirst
  cases hs with
  | feeding who closing opened =>
    refine .feeding (who.imp (fun hr => ?_) fun ⟨i, t, held, hseals⟩ => ?_) closing opened
    · exact ⟨by rw [hstore]; exact hr.live, call_noHolder hc h hr.alone⟩
    · exact ⟨i, t, call_heldBy hc h hids held, hseals⟩
  | closing i t held seals quiet closing opened =>
    exact .closing i t (call_heldBy hc h hids held) seals (hquiet quiet) closing opened
  | sealing who quiet closing sealing =>
    refine .sealing (who.imp (fun ⟨i, t, held, hseals⟩ => ?_) fun ⟨hn, hack⟩ => ?_) (hquiet quiet) closing sealing
    · exact ⟨i, t, call_heldBy hc h hids held, hseals⟩
    · exact ⟨⟨by rw [hstore]; exact hn.unlive, call_noHolder hc h hn.alone⟩, hack⟩

section Resume

variable {env : Env} {tid : TaskId} {t : Task} (hs : s.Handles) (hb : s.Births)
  (hok : StartsWell s (.resume tid env)) (ht : s.tasks.lookup tid = some t)
  (h : s' = s.settle tid s.nextTask (s.store.resume env s.nextTask t))
  (hstart : ∀ owner pty, t = .startGet owner sid pty → (s.store.resume env s.nextTask t).spawned = none)
  (htape : TapeStep sid (fun _ => true) cfg t (s.store.resume env s.nextTask t).next tape tape')

include ht h hstart in
/-- No new forwarder comes up for a session that has been started. -/
theorem resumed_pumps (hp : ∀ i u, s.tasks.lookup i = some u → u.pumps ≠ some sid) :
    ∀ i u, s'.tasks.lookup i = some u → u.pumps ≠ some sid := by
  intro i u hu hpump
  rcases resumed_task h hu with hsp | ⟨-, hn⟩ | ⟨-, hold⟩
  · rcases resume_spawned _ hsp with ⟨owner, k, pty, rfl, rfl⟩ | ⟨req, detach, rfl, rfl⟩ <;> cases hpump
    rw [hstart owner pty rfl] at hsp
    cases hsp
  · cases resume_edge _ hn <;> cases hpump
    exact hp tid _ ht rfl
  · exact hp i u hold hpump

include ht h hstart htape in
/-- A tape stays quiet under the stretches of others. -/
theorem quiet_kept (hq : Quiet sid s tape) (hnot : (s.store.resume env s.nextTask t).next.seals ≠ some sid) :
    Quiet sid s' tape' := by
  refine ⟨resumed_pumps ht h hstart hq.pumps, ?_, by rw [htape.writer]; exact hq.gap⟩
  rcases htape.shutdown with ⟨hseals, -⟩ | ⟨-, -, -, hfwd⟩
  · exact absurd hseals hnot
  · rw [hfwd (hq.pumps tid t ht)]
    exact hq.forwarder

include hs hb hok ht h hstart htape in
/-- While the frames come in, and when the shutdown reads the number of the last. -/
theorem resume_feeding (hin : tape.tee.InOrder)
    (hdone : (s.store.resume env s.nextTask t).next.seals = some sid → Quiet sid s tape)
    (who : s.Registered sid ∨ ∃ i u, s.HeldBy sid i u ∧ u.seals = none) (closing : tape.closing = none)
    (opened : tape.tee.writer.Open) : Stage sid s' tape' := by
  have hopen : tape'.tee.writer.Open := by
    rw [htape.writer]
    exact opened
  have hwell : t.starts.isSome → (s.store.resume env s.nextTask t).next.failsStart = false := hok.2 t ht
  rcases htape.shutdown with ⟨hseals, hholds, hunsealed, rfl⟩ | ⟨hseals, hclosing, -, -⟩
  · -- the holder goes on to seal
    have held : s.HeldBy sid tid t := by
      rcases who with hr | ⟨i, u, held, -⟩
      · exact absurd hholds (hr.alone tid t ht)
      · obtain rfl := held.alone tid t ht hholds
        cases ht.symm.trans held.task
        exact held
    have hq := hdone hseals
    rcases heldBy_own hs ht h held hwell with ⟨-, ⟨u, hn, held'⟩ | ⟨⟨r, hr⟩, -⟩⟩ | ⟨hsealed, -⟩
    · rw [hn] at hseals
      refine .closing tid u held' hseals ⟨resumed_pumps ht h hstart hq.pumps, hq.forwarder, hq.gap⟩ ?_ opened
      rw [Tee.InOrder, hq.forwarder] at hin
      exact congrArg some hin.2
    · rw [hr] at hseals
      cases hseals
    · cases hunsealed.symm.trans hsealed
  · rw [closing] at hclosing
    refine .feeding ?_ hclosing hopen
    rcases who with hr | ⟨i, u, held, hunsealed⟩
    · rcases registered_step hs hb ht h hr hstart with hr' | ⟨live, session, already, -, held'⟩
      · exact .inl hr'
      · exact .inr ⟨tid, _, held', rfl⟩
    · by_cases hi : i = tid
      · subst hi
        cases ht.symm.trans held.task
        rcases heldBy_own hs ht h held hwell with ⟨-, ⟨u, hn, held'⟩ | ⟨-, hr'⟩⟩ | ⟨hsealed, -⟩
        · rw [hn] at hseals
          exact .inr ⟨i, u, held', seals_eq_none held'.holds hseals⟩
        · exact .inl hr'
        · cases hunsealed.symm.trans hsealed
      · exact .inr ⟨i, u, heldBy_other hs hb hok.1 ht h held hi hstart, hunsealed⟩

variable (env) in
include ht in
/-- Once the shutdown has read `last_seq`, nobody else comes to seal. -/
theorem sealer_alone {i : TaskId} {u : Task} (held : s.HeldBy sid i u) (hu : u.seals = some sid) :
    (s.store.resume env s.nextTask t).next.seals ≠ some sid := by
  intro hseals
  obtain ⟨hholds, -, hnone⟩ := resume_seals hseals
  obtain rfl := held.alone tid t ht hholds
  cases ht.symm.trans held.task
  cases hnone.symm.trans hu

include hs hb hok ht h hstart htape in
/-- While the command of the shutdown waits for room in the queue. -/
theorem resume_closing {i : TaskId} {u : Task} (held : s.HeldBy sid i u) (seals : u.seals = some sid)
    (quiet : Quiet sid s tape) (closing : tape.closing = some tape.tee.writer.fed.length)
    (opened : tape.tee.writer.Open) : Stage sid s' tape' := by
  have hnot := sealer_alone env ht held seals
  rcases htape.shutdown with ⟨hseals, -⟩ | ⟨-, hclosing, hack, -⟩
  · exact absurd hseals hnot
  by_cases hi : i = tid
  · -- the shutdown itself waits for the answer
    subst hi
    cases ht.symm.trans held.task
    cases closing.symm.trans (Tape.acked_iff.1 (hack seals)).1
  · refine .closing i u (heldBy_other hs hb hok.1 ht h held hi hstart) seals
      (quiet_kept ht h hstart htape quiet hnot) ?_ ?_
    · rw [hclosing, closing, htape.writer]
    · rw [htape.writer]
      exact opened

include hs hb hok ht h hstart htape in
/-- While the writer carries the shutdown out, and ever after. -/
theorem resume_sealing (who : (∃ i u, s.HeldBy sid i u ∧ u.seals = some sid) ∨ s.Unheld sid ∧ tape.acked)
    (quiet : Quiet sid s tape) (closing : tape.closing = none) (sealing : Sealing tape.tee.writer) :
    Stage sid s' tape' := by
  have hnot : (s.store.resume env s.nextTask t).next.seals ≠ some sid := by
    rcases who with ⟨i, u, held, seals⟩ | ⟨hn, -⟩
    · exact sealer_alone env ht held seals
    · exact fun hseals => hn.alone tid t ht (resume_seals hseals).1
  rcases htape.shutdown with ⟨hseals, -⟩ | ⟨-, hclosing, hack, -⟩
  · exact absurd hseals hnot
  have hacked : tape.acked → tape'.acked := by
    rw [Tape.acked, Tape.acked, hclosing, htape.writer]
    exact id
  refine .sealing ?_ (quiet_kept ht h hstart htape quiet hnot) (hclosing.trans closing) (htape.writer ▸ sealing)
  rcases who with ⟨i, u, held, seals⟩ | ⟨hn, hdone⟩
  · by_cases hi : i = tid
    · -- the runtime is dropped once the writer has answered
      subst hi
      cases ht.symm.trans held.task
      rcases heldBy_own hs ht h held (hok.2 t ht) with ⟨hnone, -⟩ | ⟨-, hn⟩
      · cases hnone.symm.trans seals
      · exact .inr ⟨hn, hacked (hack seals)⟩
    · exact .inl ⟨i, u, heldBy_other hs hb hok.1 ht h held hi hstart, seals⟩
  · rcases unheld_step hs ht h hn with ⟨hn', -⟩ | ⟨owner, pty, u, rfl, hsp, -⟩
    · exact .inr ⟨hn', hacked hdone⟩
    · rw [hstart owner pty rfl] at hsp
      cases hsp

include hs hb hok ht h hstart htape in
theorem resume_stage (hin : tape.tee.InOrder)
    (hdone : (s.store.resume env s.nextTask t).next.seals = some sid → Quiet sid s tape) (hst : Stage sid s tape) :
    Stage sid s' tape' := by
  cases hst with
  | feeding who closing opened => exact resume_feeding hs hb hok ht h hstart htape hin hdone who closing opened
  | closing i u held seals quiet closing opened =>
    exact resume_closing hs hb hok ht h hstart htape held seals quiet closing opened
  | sealing who quiet closing sealing =>
    exact resume_sealing hs hb hok ht h hstart htape who quiet closing sealing

end Resume

/-! ## A step of the recording -/

/-- A step of the writer that hands it no frame and no shutdown. -/
theorem writer_stage {e : Recording.Event} {w : Writer} (he : e.keepsOpen ∨ e = .dropSenders ∧ s.Unheld sid)
    (hframe : ∀ data, e ≠ .output data) (habort : ∀ rows, e ≠ .abort rows)
    (h : tape.tee.writer.step (fun _ => true) cfg e = some w) (htee : tape'.tee.writer = w)
    (hfwd : tape'.tee.forwarder = tape.tee.forwarder) (hclosing : tape'.closing = tape.closing)
    (hst : Stage sid s tape) : Stage sid s tape' := by
  subst htee
  have hshut : ∀ lastSeq, e ≠ .shutdown lastSeq := by
    rintro lastSeq rfl
    rcases he with he | ⟨he, -⟩ <;> cases he
  have hfed := Recording.other_fed h hframe
  have hopen : s.Registered sid ∨ (∃ i t, s.HeldBy sid i t) → tape.tee.writer.Open → tape'.tee.writer.Open := by
    intro who opened
    rcases he with he | ⟨-, hn⟩
    · exact Recording.step_open opened he h
    · rcases who with hr | ⟨i, t, held⟩
      · have := hr.live
        rw [hn.unlive] at this
        cases this
      · exact absurd held.holds (hn.alone i t held.task)
  have hquiet : tape.tee.writer.Drained → Quiet sid s tape → Quiet sid s tape' ∧ tape'.tee.writer.Drained := by
    intro hdrained hq
    have hkept : tape.tee.writer.Closing tape'.tee.writer := Recording.step_closing h hframe ⟨rfl, rfl, hdrained⟩
    exact ⟨⟨hq.pumps, hfwd.trans hq.forwarder, hkept.gap.trans hq.gap⟩, hkept.emptied⟩
  cases hst with
  | feeding who closing opened =>
    refine .feeding who (hclosing.trans closing) (hopen (who.imp id ?_) opened)
    rintro ⟨i, t, held, -⟩
    exact ⟨i, t, held⟩
  | closing i t held seals quiet closing opened =>
    refine .closing i t held seals (hquiet opened.drained quiet).1 ?_ (hopen (.inr ⟨i, t, held⟩) opened)
    rw [hclosing, closing, hfed]
  | sealing who quiet closing sealing =>
    obtain ⟨hq, hdrained⟩ := hquiet sealing.drained quiet
    have hsealing := Recording.step_sealing sealing.sealing hshut habort h
    rw [← hfed] at hsealing
    refine .sealing (who.imp id fun ⟨hn, hack⟩ => ⟨hn, ?_⟩) hq (hclosing.trans closing) ⟨hsealing, hdrained⟩
    rw [Tape.acked_iff] at hack ⊢
    exact ⟨hclosing.trans hack.1, Recording.step_ended hack.2 h⟩

/-- Frames are handed over while the recording is open. -/
theorem Stage.opened (hst : Stage sid s tape) (hfwd : tape.tee.forwarder ≠ .receiving) :
    (s.Registered sid ∨ ∃ i t, s.HeldBy sid i t ∧ t.seals = none) ∧ tape.closing = none ∧ tape.tee.writer.Open := by
  cases hst with
  | feeding who closing opened => exact ⟨who, closing, opened⟩
  | closing i t held seals quiet => exact absurd quiet.forwarder hfwd
  | sealing who quiet => exact absurd quiet.forwarder hfwd

theorem tee_stage {e : TeeEvent} {tee : Tee} (hin : tape.tee.InOrder) (he : goesOn e)
    (habort : ∀ rows, e ≠ .writer (.abort rows)) (h : tape.tee.step (fun _ => true) cfg e = some tee)
    (hst : Stage sid s tape) : Stage sid s { tape with tee := tee } := by
  cases Recording.teeStep_cases h hin with
  | stamped | read => cases he
  | stored seq data stamped =>
    obtain ⟨who, closing, opened⟩ := hst.opened (by simp [stamped])
    exact .feeding who closing opened
  | output seq data stored w step =>
    obtain ⟨who, closing, opened⟩ := hst.opened (by simp [stored])
    exact .feeding who closing (Recording.step_open opened rfl step)
  | marker call p pending w step => exact writer_stage (.inl rfl) (by simp) (by simp) step rfl rfl rfl hst
  | writer e own w step =>
    have hkeeps : e.keepsOpen := by cases e <;> first | rfl | cases he
    have hframe : ∀ data, e ≠ .output data := by
      rintro data rfl
      cases own
    exact writer_stage (.inl hkeeps) hframe (fun rows heq => habort rows (by rw [heq])) step rfl rfl rfl hst

/-- The shutdown is queued with the number that was read. -/
theorem shutdown_stage {lastSeq : Nat} {tee : Tee} (hin : tape.tee.InOrder) (hclosing : tape.closing = some lastSeq)
    (h : tape.tee.step (fun _ => true) cfg (.writer (.shutdown lastSeq)) = some tee) (hst : Stage sid s tape) :
    Stage sid s ⟨tee, none⟩ := by
  cases hst with
  | feeding who closing => cases closing.symm.trans hclosing
  | sealing who quiet closing => cases closing.symm.trans hclosing
  | closing i t held seals quiet closing opened =>
    cases closing.symm.trans hclosing
    cases Recording.teeStep_cases h hin with
    | writer e own w step =>
      obtain ⟨hsealing, -, hgap⟩ := Recording.shutdown_sealing opened step
      have hframe : ∀ data, Recording.Event.shutdown tape.tee.writer.fed.length ≠ .output data := by simp
      have hkept : tape.tee.writer.Closing w := Recording.step_closing step hframe ⟨rfl, rfl, opened.drained⟩
      have hquiet : Quiet sid s ⟨{ tape.tee with writer := w }, none⟩ :=
        ⟨quiet.pumps, quiet.forwarder, hgap.trans quiet.gap⟩
      refine .sealing (.inl ⟨i, t, held, seals⟩) hquiet rfl ⟨?_, hkept.emptied⟩
      show w.Sealing (min w.fed.length i64Max)
      rw [hkept.fed]
      exact hsealing

/-- The clones of the writer are gone only when nobody holds the runtime. -/
theorem released_stage {tee : Tee} (hin : tape.tee.InOrder) (hreleased : r.released sid tape)
    (h : tape.tee.step (fun _ => true) cfg (.writer .dropSenders) = some tee) (hst : Stage sid r.sys tape) :
    Stage sid r.sys { tape with tee := tee } := by
  simp only [Recorded.released, Bool.and_eq_true, Bool.not_eq_true', Option.isNone_iff_eq_none] at hreleased
  have hn : r.sys.Unheld sid := by
    refine ⟨hreleased.1.1.1, fun i t ht hk => ?_⟩
    have hkeeps := Registry.of_any_eq_false (p := fun u : Task => !u.keepsWriter sid)
      (by simpa using hreleased.1.1.2) ht
    simp [Task.keepsWriter, hk] at hkeeps
  cases Recording.teeStep_cases h hin with
  | writer e own w step => exact writer_stage (.inr ⟨rfl, hn⟩) (by simp) (by simp) step rfl rfl rfl hst

/-- What the writer task does leaves no frame without a row. -/
theorem tee_keeps {e : TeeEvent} {tee : Tee} (hin : tape.tee.InOrder) (hst : Stage sid s tape)
    (h : tape.tee.step (fun _ => true) cfg e = some tee)
    (htimely : ∀ we, e = .writer we → we.isAbort = false ∧ (tape.tee.writer.calls cfg we).all (!·.silent) = true)
    (hw : tape.tee.writer.Complete) (htaken : Recording.Log.Taken tape.tee.writer.log) :
    tee.writer.Complete ∧ Recording.Log.Taken tee.writer.log := by
  cases Recording.teeStep_cases h hin with
  | stamped | read | stored => exact ⟨hw, htaken⟩
  | output seq data stored w step =>
    obtain ⟨-, -, opened⟩ := hst.opened (by simp [stored])
    have hkeeps : tape.tee.writer.Keeps cfg (.output data) := fun hmode => by simp [opened.running] at hmode
    exact ⟨Recording.step_complete hw hkeeps step, Recording.step_taken htaken (by simp) step⟩
  | marker call p pending w step =>
    have hkeeps : tape.tee.writer.Keeps cfg (.marker .resized p.markerSeq p.payload) := rfl
    exact ⟨Recording.step_complete hw hkeeps step, Recording.step_taken htaken (by simp) step⟩
  | writer we own w step =>
    obtain ⟨habort, hloud⟩ := htimely we rfl
    have hnot : ∀ rows, we ≠ .abort rows := by
      rintro rows rfl
      cases habort
    refine ⟨Recording.step_complete hw ?_ step, Recording.step_taken htaken hnot step⟩
    cases we with
    | output => cases own
    | abort => cases habort
    | exit =>
      -- only a writer that has been shut down comes to its end
      have hmode : tape.tee.writer.mode = .returning := by
        cases Recording.step_cases step with
        | exited mode => exact mode
      cases hst with
      | feeding who closing opened => simp [opened.running] at hmode
      | closing i t held seals quiet closing opened => simp [opened.running] at hmode
      | sealing who quiet closing sealing => exact sealing.drained (.inl hmode)
    | marker | shutdown | dequeue | finish | dropSenders | abandoned => exact hloud

/-! ## Whole runs -/

/-- A stretch of a task opens the tape, or goes on with it. -/
theorem recorded_resume {ok : Nat → Bool} {tid : TaskId} {env : Env}
    (h : r.step sid ok cfg (.sys (.resume tid env)) = some r') :
    ∃ t, r.sys.tasks.lookup tid = some t ∧
      r'.sys = r.sys.settle tid r.sys.nextTask (r.sys.store.resume env r.sys.nextTask t) ∧
      ((r.tape = none ∧ r'.tape = openTape sid t (r.sys.store.resume env r.sys.nextTask t)) ∨
        ∃ tape tape', r.tape = some tape ∧ r'.tape = some tape' ∧
          tape.resume sid ok cfg r.sys.store env tid t (r.sys.store.resume env r.sys.nextTask t) = some tape') := by
  simp only [Recorded.step] at h
  split at h
  · cases h
  · next t ht =>
    refine ⟨t, ht, ?_⟩
    split at h
    · next hnone =>
      cases h
      exact ⟨rfl, .inl ⟨hnone, rfl⟩⟩
    · next tape htape =>
      obtain ⟨tape', hres, rfl⟩ := Option.map_eq_some_iff.1 h
      exact ⟨rfl, .inr ⟨tape, tape', htape, rfl, hres⟩⟩

/-- What happens on the tape while the manager's tasks stand still. -/
inductive TapeMove (sid : SessionId) (r : Recorded) (tape : Tape) (tee : Tee) :
    RecordedEvent → TeeEvent → Tape → Prop where
  | goes (e : TeeEvent) (goes : goesOn e) : TapeMove sid r tape tee (.tee e) e { tape with tee := tee }
  | shuts (lastSeq : Nat) (closing : tape.closing = some lastSeq) :
      TapeMove sid r tape tee .shutdown (.writer (.shutdown lastSeq)) ⟨tee, none⟩
  | drops (released : r.released sid tape) :
      TapeMove sid r tape tee .dropSenders (.writer .dropSenders) { tape with tee := tee }

theorem recorded_move {ok : Nat → Bool} {e : RecordedEvent} (he : ∀ se, e ≠ .sys se)
    (h : r.step sid ok cfg e = some r') :
    ∃ tape tee te tape', r.tape = some tape ∧ r' = ⟨r.sys, some tape'⟩ ∧ tape.tee.step ok cfg te = some tee ∧
      TapeMove sid r tape tee e te tape' := by
  cases e with
  | sys se => exact absurd rfl (he se)
  | tee te =>
    simp only [Recorded.step] at h
    split at h
    · next tape htape =>
      split at h
      · next hgoes =>
        obtain ⟨tee, hstep, rfl⟩ := Option.map_eq_some_iff.1 h
        exact ⟨tape, tee, te, _, htape, rfl, hstep, .goes te hgoes⟩
      · cases h
    · cases h
  | shutdown =>
    simp only [Recorded.step] at h
    split at h
    · next tape htape =>
      split at h
      · next lastSeq hclosing =>
        obtain ⟨tee, hstep, rfl⟩ := Option.map_eq_some_iff.1 h
        exact ⟨tape, tee, _, _, htape, rfl, hstep, .shuts lastSeq hclosing⟩
      · cases h
    · cases h
  | dropSenders =>
    simp only [Recorded.step] at h
    split at h
    · next tape htape =>
      split at h
      · next hreleased =>
        obtain ⟨tee, hstep, rfl⟩ := Option.map_eq_some_iff.1 h
        exact ⟨tape, tee, _, _, htape, rfl, hstep, .drops hreleased⟩
      · cases h
    · cases h

theorem TapeMove.tee_eq {tee : Tee} {e : RecordedEvent} {te : TeeEvent} (hm : TapeMove sid r tape tee e te tape') :
    tape'.tee = tee := by
  cases hm <;> rfl

/-- What is asked of the writer task is asked of every move. -/
theorem TapeMove.timely {tee : Tee} {e : RecordedEvent} {te : TeeEvent} (hm : TapeMove sid r tape tee e te tape')
    (htape : r.tape = some tape) (htimely : r.Timely sid cfg e) :
    ∀ we, te = .writer we → we.isAbort = false ∧ (tape.tee.writer.calls cfg we).all (!·.silent) = true := by
  rintro we rfl
  cases hm with
  | goes => exact ⟨htimely.1, htimely.2 tape htape⟩
  | shuts | drops => exact ⟨rfl, rfl⟩

theorem move_stage {tee : Tee} {e : RecordedEvent} {te : TeeEvent} (hm : TapeMove sid r tape tee e te tape')
    (hin : tape.tee.InOrder) (habort : ∀ rows, te ≠ .writer (.abort rows))
    (h : tape.tee.step (fun _ => true) cfg te = some tee) (hst : Stage sid r.sys tape) : Stage sid r.sys tape' := by
  cases hm with
  | goes _ hgoes => exact tee_stage hin hgoes habort h hst
  | shuts lastSeq hclosing => exact shutdown_stage hin hclosing h hst
  | drops hreleased => exact released_stage hin hreleased h hst

section Whole

variable (hs : r.Sound sid)
include hs

theorem call_sound {c : Call} (hc : c.isStartFailed = false)
    (h : r.step sid (fun _ => true) cfg (.sys (.call c)) = some r') : r'.Sound sid := by
  simp only [Recorded.step, Option.map_eq_some_iff] at h
  obtain ⟨s', hstep, rfl⟩ := h
  refine ⟨step_handles hs.handles hstep, call_births hc hstep hs.births, fun hnone => ?_, fun tape htape => ?_⟩
  · have hn := hs.unopened hnone
    exact ⟨by rw [call_store hc hstep]; exact hn.unlive, call_noHolder hc hstep hn.alone⟩
  · have ht := hs.tape tape htape
    exact ⟨call_stage hc hstep hs.handles.ids ht.stage, ht.inOrder, ht.complete, ht.taken⟩

/-- No tape yet: a start of the session opens one. -/
theorem unopened_sound {tid : TaskId} {env : Env} {t : Task} (ht : r.sys.tasks.lookup tid = some t)
    (hsys : r'.sys = r.sys.settle tid r.sys.nextTask (r.sys.store.resume env r.sys.nextTask t)) (hnone : r.tape = none)
    (hopen : r'.tape = openTape sid t (r.sys.store.resume env r.sys.nextTask t)) :
    (r'.tape = none → r'.sys.Unheld sid) ∧ ∀ tape, r'.tape = some tape → tape.Sound sid r'.sys := by
  rcases unheld_step hs.handles ht hsys (hs.unopened hnone) with ⟨hn, hstart⟩ | ⟨owner, pty, u, rfl, hsp, hu, held⟩
  · rw [hopen, openTape_eq_none hstart]
    exact ⟨fun _ => hn, fun tape htape => by cases htape⟩
  · have hopened : r'.tape = some .init := by
      rw [hopen]
      simp [openTape, hsp]
    have hseals : u.seals = none := by
      cases u <;> first | rfl | cases hu
    rw [hopened]
    refine ⟨fun hnone' => ?_, fun tape htape => ?_⟩
    · cases hnone'
    cases htape
    exact ⟨.feeding (.inr ⟨tid, u, held, hseals⟩) rfl Recording.enabled_open, ⟨rfl, rfl⟩, Recording.enabled_complete,
      by intro x hx; cases hx⟩

theorem opened_sound {tid : TaskId} {env : Env} {t : Task} (hok : StartsWell r.sys (.resume tid env))
    (hdone : r.ForwarderDone sid (.resume tid env)) (ht : r.sys.tasks.lookup tid = some t)
    (hsys : r'.sys = r.sys.settle tid r.sys.nextTask (r.sys.store.resume env r.sys.nextTask t))
    (hsome : r.tape = some tape)
    (hres : tape.resume sid (fun _ => true) cfg r.sys.store env tid t (r.sys.store.resume env r.sys.nextTask t) =
      some tape') : tape'.Sound sid r'.sys := by
  have hold := hs.tape tape hsome
  have hstep := tape_resume hres
  have hquiet : (r.sys.store.resume env r.sys.nextTask t).next.seals = some sid → Quiet sid r.sys tape := by
    intro hseals
    obtain ⟨hpumps, hfwd⟩ := hdone t ht hseals
    obtain ⟨hfwd, hgap⟩ := hfwd tape hsome
    refine ⟨fun i u hu => ?_, hfwd, hgap⟩
    exact of_decide_eq_true (Registry.of_any_eq_false (p := fun u : Task => u.pumps ≠ some sid) hpumps hu)
  refine ⟨?_, hstep.inOrder hold.inOrder, ?_, ?_⟩
  · exact resume_stage hs.handles hs.births hok ht hsys (tape_started hres) hstep hold.inOrder hquiet hold.stage
  · rw [hstep.writer]
    exact hold.complete
  · rw [hstep.writer]
    exact hold.taken

theorem resume_sound {tid : TaskId} {env : Env} (hok : StartsWell r.sys (.resume tid env))
    (hdone : r.ForwarderDone sid (.resume tid env))
    (h : r.step sid (fun _ => true) cfg (.sys (.resume tid env)) = some r') : r'.Sound sid := by
  obtain ⟨t, ht, hsys, htape⟩ := recorded_resume h
  have hh := step_handles hs.handles (resumed_step ht hsys)
  have hb := resume_births hs.births ht hsys
  rcases htape with ⟨hnone, hopen⟩ | ⟨tape, tape', hsome, hsome', hres⟩
  · obtain ⟨hunheld, hsound⟩ := unopened_sound hs ht hsys hnone hopen
    exact ⟨hh, hb, hunheld, hsound⟩
  · refine ⟨hh, hb, fun hnone' => ?_, fun tape'' htape => ?_⟩
    · cases hsome'.symm.trans hnone'
    · cases hsome'.symm.trans htape
      exact opened_sound hs hok hdone ht hsys hsome hres

theorem move_sound {e : RecordedEvent} (he : ∀ se, e ≠ .sys se) (htimely : r.Timely sid cfg e)
    (h : r.step sid (fun _ => true) cfg e = some r') : r'.Sound sid := by
  obtain ⟨tape, tee, te, tape', htape, rfl, hstep, hm⟩ := recorded_move he h
  have hold := hs.tape tape htape
  have hwriter := hm.timely htape htimely
  have habort : ∀ rows, te ≠ .writer (.abort rows) := by
    rintro rows rfl
    cases (hwriter _ rfl).1
  obtain rfl := hm.tee_eq
  obtain ⟨hcomplete, htaken⟩ := tee_keeps hold.inOrder hold.stage hstep hwriter hold.complete hold.taken
  have hstage := move_stage hm hold.inOrder habort hstep hold.stage
  refine ⟨hs.handles, hs.births, fun hnone => ?_, fun tape'' htape'' => ?_⟩
  · cases hnone
  · cases htape''
    exact ⟨hstage, Recording.step_inOrder hold.inOrder hstep, hcomplete, htaken⟩

theorem step_sound {e : RecordedEvent} (htimely : r.Timely sid cfg e)
    (h : r.step sid (fun _ => true) cfg e = some r') : r'.Sound sid := by
  cases e with
  | sys e =>
    cases e with
    | call c => exact call_sound hs htimely.1.1 h
    | resume tid env => exact resume_sound hs htimely.1 htimely.2 h
  | tee | shutdown | dropSenders => exact move_sound hs (by simp) htimely h

end Whole

theorem Stage.at_rest (hst : Stage sid s tape) (hrest : s.AtRest) :
    (s.store.live sid).isSome ∧ tape.tee.writer.Open ∨
      s.store.live sid = none ∧ tape.acked ∧ Quiet sid s tape ∧ Sealing tape.tee.writer := by
  have unheld : ∀ i t, ¬ s.HeldBy sid i t := by
    intro i t held
    have hwait := hrest i t held.task
    have hk := held.holds
    cases t <;> cases hwait <;> cases hk
  cases hst with
  | feeding who closing opened =>
    rcases who with hr | ⟨i, t, held, -⟩
    · exact .inl ⟨hr.live, opened⟩
    · exact absurd held (unheld i t)
  | closing i t held => exact absurd held (unheld i t)
  | sealing who quiet closing sealing =>
    rcases who with ⟨i, t, held, -⟩ | ⟨hn, hack⟩
    · exact absurd held (unheld i t)
    · exact .inr ⟨hn.unlive, hack, quiet, sealing⟩

/-- At rest the recording of a session is sealed exactly when its runtime has
been taken out of the registry. -/
theorem recording_sealed_iff (sid : SessionId) (ttl : Nat) (cfg : RecordingWriterConfig) (evs : List RecordedEvent)
    (r : Recorded) (tape : Tape)
    (hg : Guarded (Recorded.step sid (fun _ => true) cfg) (Recorded.Timely sid cfg) (Recorded.init ttl) evs)
    (hr : run (Recorded.step sid (fun _ => true) cfg) (Recorded.init ttl) evs = some r) (hrest : r.sys.AtRest)
    (htape : r.tape = some tape) :
    tape.tee.writer.Sealed (tape.tee.nextSeq - 1) ↔ r.sys.store.live sid = none := by
  have hs : r.Sound sid := hg.inv (Recorded.Sound sid) (fun _ _ _ hs hok h => step_sound hs hok h) hr
    (init_sound sid ttl)
  have ht := hs.tape tape htape
  rcases ht.stage.at_rest hrest with ⟨hlive, hopen⟩ | ⟨hnone, hack, hquiet, hsealing⟩
  · constructor
    · intro hsealed
      exact absurd hsealed (hopen.not_sealed _)
    · intro hnone
      rw [hnone] at hlive
      cases hlive
  · refine ⟨fun _ => hnone, fun _ => ?_⟩
    have hlast : tape.tee.nextSeq - 1 = tape.tee.writer.fed.length := by
      have hin := ht.inOrder
      rw [Tee.InOrder, hquiet.forwarder] at hin
      rw [hin.1, Nat.add_sub_cancel]
    rw [hlast]
    exact Recording.sealed_of_complete ht.complete ht.taken hquiet.gap (Tape.acked_iff.1 hack).2 hsealing.drained
      hsealing.sealing

/-- Session 7 prints two frames, and the writer task takes the `started` marker and both frames. -/
def printedRun : List RecordedEvent :=
  startedRun.map .sys ++
    [.sys (.resume 2 { bridge := some (.output [1]) }), .tee .store, .tee .recordOutput, .tee (.writer .dequeue),
      .sys (.resume 2 { bridge := some (.output [2]) }), .tee .store, .tee .recordOutput, .tee (.writer .dequeue),
      .tee (.writer .dequeue)]

/-- A client closes the session, and the writer task is through with its queue. -/
def sealedRun : List RecordedEvent :=
  printedRun ++
    [.sys (.call (.closeSession 7 1)), .sys (.resume 3 {}), .sys (.resume 3 { now := 60 }), .sys (.resume 3 {}),
      .sys (.resume 3 {}), .sys (.resume 3 {}), .sys (.resume 2 {}), .sys (.resume 2 {}), .sys (.resume 3 {}),
      .shutdown, .tee (.writer .dequeue), .tee (.writer .finish), .sys (.resume 3 {}), .tee (.writer .exit)]

theorem recording_sealed_iff_closed :
    ∃ r tape, run (Recorded.step 7 (fun _ => true) .default) (Recorded.init 30) sealedRun = some r ∧
      r.tape = some tape ∧ r.sys.rowClosed 7 ∧ tape.tee.writer.chunks = [⟨1, 2, [1, 2]⟩] ∧
      tape.tee.writer.Sealed (tape.tee.nextSeq - 1) :=
  ⟨_, _, rfl, rfl, rfl, rfl, (recording_sealed_iff 7 30 .default sealedRun _ _ (by decide) rfl
    (fun _ _ ht => Registry.of_any_eq_false (p := Task.isWaiting) (by decide) ht) rfl).2 rfl⟩

/-- Every repository call of the manager succeeds. -/
def RecordedEvent.callSucceeds : RecordedEvent → Bool
  | .sys e => e.callSucceeds
  | _ => true

/-- No step of the forwarder, no resize and no command is pending. -/
def Tape.Idle (tape : Tape) : Prop :=
  tape.closing = none ∧ tape.tee.forwarder = .receiving ∧ tape.tee.resizes.keys = [] ∧
    tape.tee.writer.queue = [] ∧ (tape.tee.writer.mode = .running ∨ tape.tee.writer.mode = .stopped)

/-- The shell of session 7 exits: its row is closed and nothing is pending, but
nobody shuts the writer down. -/
theorem recording_unsealed :
    ¬ ∀ (sid : SessionId) (ttl : Nat) (cfg : RecordingWriterConfig) (evs : List RecordedEvent) (r : Recorded)
      (tape : Tape), (∀ e ∈ evs, e.callSucceeds) →
      Guarded (Recorded.step sid (fun _ => true) cfg) (Recorded.Timely sid cfg) (Recorded.init ttl) evs →
      run (Recorded.step sid (fun _ => true) cfg) (Recorded.init ttl) evs = some r →
      r.sys.AtRest → r.tape = some tape → tape.Idle → r.sys.rowClosed sid →
      tape.tee.writer.Sealed (tape.tee.nextSeq - 1) := by
  intro h
  have hsealed := h 7 30 .default (printedRun ++ remoteExitRun.map .sys) _ _ (by decide) (by decide) rfl
    (fun _ _ ht => Registry.of_any_eq_false (p := Task.isWaiting) (by decide) ht) rfl
    ⟨rfl, rfl, rfl, rfl, .inl rfl⟩ rfl
  obtain ⟨-, n, hn, -⟩ := hsealed
  cases hn

end RelayTerm.Session
