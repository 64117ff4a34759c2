import RelayTerm.Recording.Sealing
import RelayTerm.Session.Custody
/-!
# The manager and the recording of a session

The manager's tasks together with the recording of one session. The forwarder's
frames go to the writer, `resize_session` queues its markers, and the close that
shuts the runtime down waits for the forwarder, reads `last_seq` and seals the
recording. Between two await points of a task the others run, so the forwarder
can be in the middle of a frame when a close reads `last_seq`.
-/
open RelayTerm.Lib
open RelayTerm.Recording (Tee TeeEvent RecordingForwarder RecordingWriterConfig)

namespace RelayTerm.Session

/-- The recording side of a runtime. -/
structure Tape where
  tee : Tee
  /-- `last_seq` as the shutdown read it, until its command is queued. -/
  closing : Option Nat

/-- `start_live_pty` with recording enabled. -/
def Tape.init : Tape := ⟨.init, none⟩

/-- The writer has acknowledged its shutdown, or is gone. -/
def Tape.acked (tape : Tape) : Bool :=
  tape.closing.isNone && (tape.tee.writer.mode = .returning || tape.tee.writer.mode = .stopped)

def Next.isAwait : Next → Bool
  | .await _ => true
  | .ret _ => false

/-- The session whose recording the task is going to seal. -/
def Next.seals : Next → Option SessionId
  | .await t => t.seals
  | .ret _ => none

section Step

variable (sid : SessionId) (ok : Nat → Bool) (cfg : RecordingWriterConfig)

/-- What a stretch of task `t` that ends in `o` does to the tape of `sid`; `none`
if the task cannot go on yet. A second start of the session is not modelled. -/
def Tape.resume (st : Store) (env : Env) (tid : TaskId) (t : Task) (o : Out) (tape : Tape) : Option Tape :=
  match t with
  | .startGet _ k _ => if k = sid && o.spawned.isSome then none else some tape
  | .pump k _ _ =>
    if k = sid then match env.bridge with
      | some (.output bytes) => (tape.tee.step ok cfg (.stamp bytes)).map fun tee => { tape with tee := tee }
      | _ => if tape.tee.forwarder = .receiving then some tape else none
    else some tape
  | .resizeGet _ k cols rows =>
    if k = sid && o.next.isAwait && (st.live sid).isSome then
      (tape.tee.step ok cfg (.readLastSeq tid cols rows)).map fun tee => { tape with tee := tee }
    else some tape
  | .resizeEvent _ _ _ _ => if (tape.tee.resizes.lookup tid).isSome then none else some tape
  | .shutdownHandle _ _ _ _ | .shutdownForwarder _ _ _ _ =>
    if o.next.seals = some sid then some { tape with closing := some tape.tee.lastSeq } else some tape
  | .shutdownRecording k _ _ _ => if k = sid && !tape.acked then none else some tape
  | _ => some tape

/-- A start of `sid` that passes its checks opens the tape. -/
def openTape (t : Task) (o : Out) : Option Tape :=
  match t with
  | .startGet _ k _ => if k = sid && o.spawned.isSome then some .init else none
  | _ => none

structure Recorded where
  sys : Sys
  tape : Option Tape

def Recorded.init (ttl : Nat) : Recorded := ⟨Sys.init ttl, none⟩

inductive RecordedEvent where
  | sys (e : Event)
  /-- The forwarder goes on with its frame, a resize with its marker, or the writer task with its queue. -/
  | tee (e : TeeEvent)
  /-- The queue has room for the command of the shutdown. -/
  | shutdown
  /-- The last clone of the writer is dropped. -/
  | dropSenders

/-- What goes on without the manager. -/
def goesOn : TeeEvent → Bool
  | .store | .recordOutput | .recordMarker _ => true
  | .writer .dequeue | .writer .finish | .writer .exit | .writer .abandoned | .writer (.abort _) => true
  | _ => false

/-- The task keeps a clone of the writer of `sid`. -/
def Task.keepsWriter (t : Task) : Bool := t.holds = some sid || t.forwards = some sid

/-- Nobody has a clone of the writer any more. -/
def Recorded.released (r : Recorded) (tape : Tape) : Bool :=
  (r.sys.store.live sid).isNone && !r.sys.tasks.any (·.keepsWriter sid) &&
    tape.tee.forwarder = .receiving && tape.tee.resizes.keys.isEmpty

def Recorded.step (r : Recorded) : RecordedEvent → Option Recorded
  | .sys (.call c) => (r.sys.step (.call c)).map fun s => { r with sys := s }
  | .sys (.resume tid env) =>
    match r.sys.tasks.lookup tid with
    | none => none
    | some t =>
      let o := r.sys.store.resume env r.sys.nextTask t
      let s := r.sys.settle tid r.sys.nextTask o
      match r.tape with
      | none => some ⟨s, openTape sid t o⟩
      | some tape => (tape.resume sid ok cfg r.sys.store env tid t o).map fun tape => ⟨s, some tape⟩
  | .tee e => match r.tape with
    | some tape =>
      if goesOn e then (tape.tee.step ok cfg e).map fun tee => { r with tape := some { tape with tee := tee } }
      else none
    | none => none
  | .shutdown => match r.tape with
    | some tape => match tape.closing with
      | some lastSeq =>
        (tape.tee.step ok cfg (.writer (.shutdown lastSeq))).map fun tee => { r with tape := some ⟨tee, none⟩ }
      | none => none
    | none => none
  | .dropSenders => match r.tape with
    | some tape =>
      if r.released sid tape then
        (tape.tee.step ok cfg (.writer .dropSenders)).map fun tee => { r with tape := some { tape with tee := tee } }
      else none
    | none => none

end Step

variable {sid : SessionId} {ok : Nat → Bool} {cfg : RecordingWriterConfig} {st : Store} {env : Env} {tid : TaskId}
  {t : Task} {tape tape' : Tape}

theorem Tape.acked_iff :
    tape.acked ↔ tape.closing = none ∧ (tape.tee.writer.mode = .returning ∨ tape.tee.writer.mode = .stopped) := by
  simp [Tape.acked]

/-- The session whose frames the task receives. -/
def Task.pumps : Task → Option SessionId
  | .pump sid _ _ => some sid
  | _ => none

/-- One case for each way a stretch meets the tape. -/
inductive TapeStep (sid : SessionId) (ok : Nat → Bool) (cfg : RecordingWriterConfig) (t : Task) (next : Next)
    (tape : Tape) : Tape → Prop where
  | same (unsealed : next.seals ≠ some sid) (acked : t.seals = some sid → tape.acked) :
      TapeStep sid ok cfg t next tape tape
  | stamped (bytes : List UInt8) (pumps : t.pumps = some sid) (tee : Tee)
      (step : tape.tee.step ok cfg (.stamp bytes) = some tee) :
      TapeStep sid ok cfg t next tape { tape with tee := tee }
  | read (call cols rows : Nat) (holds : t.holds = none) (tee : Tee)
      (step : tape.tee.step ok cfg (.readLastSeq call cols rows) = some tee) :
      TapeStep sid ok cfg t next tape { tape with tee := tee }
  | closing (holds : t.holds = some sid) (seals : next.seals = some sid) :
      TapeStep sid ok cfg t next tape { tape with closing := some tape.tee.lastSeq }

/-- Only a shutdown goes on to seal a recording. -/
theorem resume_seals {fresh : TaskId} (h : (st.resume env fresh t).next.seals = some sid) :
    t.holds = some sid ∧ t.starts = none ∧ t.seals = none := by
  cases hn : (st.resume env fresh t).next with
  | ret r =>
    rw [hn] at h
    cases h
  | await u =>
    rw [hn] at h
    cases resume_edge fresh hn <;> cases h <;> exact ⟨rfl, rfl, rfl⟩

/-- A tape is opened once. -/
theorem tape_started {fresh : TaskId} (h : tape.resume sid ok cfg st env tid t (st.resume env fresh t) = some tape')
    (owner : UserId) (pty : PtyId) (ht : t = .startGet owner sid pty) : (st.resume env fresh t).spawned = none := by
  subst ht
  simp only [Tape.resume] at h
  split at h
  · cases h
  · next hfirst => simpa using hfirst

theorem openTape_eq_none {o : Out} (hstart : ∀ owner pty, t = .startGet owner sid pty → o.spawned = none) :
    openTape sid t o = none := by
  cases t
  case startGet owner k pty =>
    simp only [openTape]
    split
    · next hk =>
      simp only [Bool.and_eq_true, decide_eq_true_eq] at hk
      obtain ⟨rfl, hsp⟩ := hk
      rw [hstart owner pty rfl] at hsp
      cases hsp
    · rfl
  all_goals rfl

theorem tape_resume {fresh : TaskId} (h : tape.resume sid ok cfg st env tid t (st.resume env fresh t) = some tape') :
    TapeStep sid ok cfg t (st.resume env fresh t).next tape tape' := by
  have idle : t.holds = none → t.seals = none → TapeStep sid ok cfg t (st.resume env fresh t).next tape tape := by
    intro hk hseals
    refine .same (fun hs => ?_) (fun hs => ?_)
    · cases hk.symm.trans (resume_seals hs).1
    · cases hseals.symm.trans hs
  cases t
  case startGet =>
    simp only [Tape.resume] at h
    split at h
    · cases h
    · cases h
      exact idle rfl rfl
  case pump k owner reason =>
    simp only [Tape.resume] at h
    split at h
    · next hk =>
      subst hk
      split at h
      · next bytes hb =>
        obtain ⟨tee, htee, rfl⟩ := Option.map_eq_some_iff.1 h
        exact .stamped bytes rfl tee htee
      · split at h
        · cases h
          exact idle rfl rfl
        · cases h
    · cases h
      exact idle rfl rfl
  case resizeGet owner k cols rows =>
    simp only [Tape.resume] at h
    split at h
    · obtain ⟨tee, htee, rfl⟩ := Option.map_eq_some_iff.1 h
      exact .read tid cols rows rfl tee htee
    · cases h
      exact idle rfl rfl
  case resizeEvent k session cols rows =>
    simp only [Tape.resume] at h
    split at h
    · cases h
    · cases h
      exact idle rfl rfl
  case shutdownHandle | shutdownForwarder =>
    simp only [Tape.resume] at h
    split at h
    · next hs =>
      cases h
      exact .closing (resume_seals hs).1 hs
    · next hs =>
      cases h
      exact .same hs fun hs => by cases hs
  case shutdownRecording k live session already =>
    simp only [Tape.resume] at h
    split at h
    · cases h
    · next hack =>
      cases h
      refine .same (fun hs => by cases (resume_seals hs).2.2) fun hs => ?_
      cases hs
      simpa using hack
  case startSetActive | startReget =>
    cases h
    exact .same (fun hs => by cases (resume_seals hs).2.1) fun hs => by cases hs
  all_goals
    cases h
    exact idle rfl rfl

theorem TapeStep.writer {next : Next} (h : TapeStep sid ok cfg t next tape tape') :
    tape'.tee.writer = tape.tee.writer := by
  cases h with
  | same | closing => rfl
  | stamped bytes pumps tee step => exact Recording.stamp_writer step
  | read call cols rows holds tee step => exact (Recording.readLastSeq_writer step).1

theorem TapeStep.inOrder {next : Next} (h : TapeStep sid ok cfg t next tape tape') (hin : tape.tee.InOrder) :
    tape'.tee.InOrder := by
  cases h with
  | same | closing => exact hin
  | stamped bytes pumps tee step => exact Recording.step_inOrder hin step
  | read call cols rows holds tee step => exact Recording.step_inOrder hin step

/-- Either the shutdown reads `last_seq`, or the shutdown is where it was. -/
theorem TapeStep.shutdown {fresh : TaskId}
    (h : TapeStep sid ok cfg t (st.resume env fresh t).next tape tape') :
    ((st.resume env fresh t).next.seals = some sid ∧ t.holds = some sid ∧ t.seals = none ∧
      tape' = { tape with closing := some tape.tee.lastSeq }) ∨
    ((st.resume env fresh t).next.seals ≠ some sid ∧ tape'.closing = tape.closing ∧
      (t.seals = some sid → tape.acked) ∧ (t.pumps ≠ some sid → tape'.tee.forwarder = tape.tee.forwarder)) := by
  cases h with
  | same unsealed acked => exact .inr ⟨unsealed, rfl, acked, fun _ => rfl⟩
  | stamped bytes pumps tee step =>
    refine .inr ⟨fun hs => ?_, rfl, fun hs => ?_, fun hp => absurd pumps hp⟩
    · have hk := (resume_seals hs).1
      cases t <;> cases pumps
      cases hk
    · cases t <;> cases pumps
      cases hs
  | read call cols rows holds tee step =>
    refine .inr ⟨fun hs => ?_, rfl, fun hs => ?_, fun _ => (Recording.readLastSeq_writer step).2⟩
    · cases holds.symm.trans (resume_seals hs).1
    · cases holds.symm.trans (holds_of_seals hs)
  | closing holds seals => exact .inl ⟨seals, holds, (resume_seals seals).2.2, rfl⟩

end RelayTerm.Session
