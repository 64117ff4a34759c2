import RelayTerm.Session.Steps
/-!
# The runtime registry

What the quotas count in the registry, and the five ways a stretch of a task
writes to it: a `Starting` entry is added, an entry is promoted to live or
taken out, a pending close or the dimensions of an entry change.
-/
open RelayTerm.Lib

namespace RelayTerm.Session

/-! ## Counting -/

def RuntimeEntry.isLiveOf (owner : UserId) (e : RuntimeEntry) : Bool := e.snapshot.ownerId = owner && e.live.isSome

def RuntimeEntry.isStartingOf (owner : UserId) (e : RuntimeEntry) : Bool :=
  e.snapshot.ownerId = owner && e.live.isNone && e.snapshot.status = .starting

def Store.countLivePtyForUser (st : Store) (owner : UserId) : Nat := Registry.count (·.isLiveOf owner) st.runtimes

def Store.countStartingForUser (st : Store) (owner : UserId) : Nat := Registry.count (·.isStartingOf owner) st.runtimes

def Store.countLivePtyTotal (st : Store) : Nat := Registry.count (·.live.isSome) st.runtimes

/-! ## Writing -/

/-- The session whose entry a task's next stretch may take out. -/
def Task.removes : Task → Option SessionId
  | .failedEvent sid _ | .closeGet _ sid _ | .closeReget _ sid _ => some sid
  | _ => none

/-- The session whose pending close a task's next stretch may change. -/
def Task.setsTimer : Task → Option SessionId
  | .attachGet req => some req.sessionId
  | .scheduleSetDetached req _ => some req.sessionId
  | _ => none

/-- The entry `create_session` registers. -/
def TerminalSession.startingEntry (session : TerminalSession) : RuntimeEntry :=
  ⟨{ ownerId := session.ownerId, serverProfileId := session.serverProfileId, status := .starting,
     createdAt := session.createdAt, cols := session.cols, rows := session.rows }, none⟩

/-- The entry `start_live_pty` makes of `e`. -/
def RuntimeEntry.promote (e : RuntimeEntry) (pty : PtyId) (forwarder : TaskId) : RuntimeEntry :=
  ⟨{ e.snapshot with status := .live }, some ⟨pty, some forwarder, none⟩⟩

/-- The entry `record_pty_start_failed` leaves of `e`. -/
def RuntimeEntry.emptied (e : RuntimeEntry) : RuntimeEntry := ⟨{ e.snapshot with status := .ended }, none⟩

def RuntimeEntry.setTimer (e : RuntimeEntry) (d : Option DetachClose) : RuntimeEntry :=
  { e with live := e.live.map fun l => { l with detachClose := d } }

def RuntimeEntry.setDims (e : RuntimeEntry) (cols rows : Nat) : RuntimeEntry :=
  { e with snapshot := { e.snapshot with cols := cols, rows := rows } }

/-- What a stretch of a task does to the registry. -/
inductive RegistryWrite (st : Store) : Task → Registry SessionId RuntimeEntry → Prop where
  | same (t : Task) : RegistryWrite st t st.runtimes
  | added (sid : SessionId) (session : TerminalSession) :
      RegistryWrite st (.createEvent sid session) (st.runtimes.insert sid session.startingEntry)
  | promoted (owner : UserId) (sid : SessionId) (pty : PtyId) (forwarder : TaskId) (e : RuntimeEntry)
      (found : st.runtimes.lookup sid = some e) :
      RegistryWrite st (.startReget owner sid pty forwarder) (st.runtimes.insert sid (e.promote pty forwarder))
  | removed (t : Task) (sid : SessionId) (ht : t.removes = some sid)
      (closed : ∀ origin owner, t = .closeGet origin sid owner →
        ∃ row, st.sessions.lookup sid = some row ∧ row.status = .closed) :
      RegistryWrite st t (st.runtimes.erase sid)
  | timer (t : Task) (sid : SessionId) (d : Option DetachClose) (ht : t.setsTimer = some sid) :
      RegistryWrite st t (st.runtimes.modify sid (·.setTimer d))
  | dims (owner : UserId) (sid : SessionId) (cols rows : Nat) :
      RegistryWrite st (.resizeGet owner sid cols rows) (st.runtimes.modify sid (·.setDims cols rows))

variable {st : Store} {env : Env}

theorem RegistryWrite.of_eq {t : Task} {r : Registry SessionId RuntimeEntry} (h : r = st.runtimes) :
    RegistryWrite st t r := h ▸ .same t

theorem closeRemove_runtimes (sid : SessionId) (session : TerminalSession) (already : Bool) :
    (st.closeRemove sid session already).store.runtimes = st.runtimes.erase sid := by
  unfold Store.closeRemove Store.closeDone
  split
  · rfl
  · split <;> rfl

theorem resume_registry (st : Store) (env : Env) (fresh : TaskId) (t : Task) :
    RegistryWrite st t (st.resume env fresh t).store.runtimes := by
  cases t
  case createEvent sid session =>
    simp only [Store.resume, Store.createEventInsert]
    split
    · exact .same _
    · obtain rfl := Store.createEvent_ok ‹_›
      exact .added sid session
  case startReget owner sid pty forwarder =>
    simp only [Store.resume, Store.startReget]
    split
    · exact .same _
    · split
      · next e he => exact .promoted owner sid pty forwarder e he
      · exact .same _
  case failedEvent sid category =>
    simp only [Store.resume, Store.failedEvent]
    split
    · exact .removed _ sid rfl fun _ _ h => by cases h
    · obtain rfl := Store.createEvent_ok ‹_›
      exact .removed _ sid rfl fun _ _ h => by cases h
  case closeGet origin sid owner =>
    simp only [Store.resume, Store.closeGet]
    split
    · exact .same _
    · next session hget =>
      split
      · next hst =>
        rw [closeRemove_runtimes]
        exact .removed _ sid rfl fun _ _ _ => ⟨session, (Store.getOwned_ok hget).1, hst⟩
      · exact .same _
  case closeReget origin sid owner =>
    simp only [Store.resume, Store.closeReget]
    split
    · exact .same _
    · rw [closeRemove_runtimes]
      exact .removed _ sid rfl fun _ _ h => by cases h
  case attachGet req =>
    simp only [Store.resume, Store.attachGet]
    split
    · exact .same _
    · split
      · exact .same _
      · split
        · exact .timer _ req.sessionId none rfl
        · exact .same _
  case scheduleSetDetached req detach =>
    obtain ⟨st', hst', h⟩ := scheduleSetDetached_cases st env fresh req detach
    have hrt : st'.runtimes = st.runtimes := by rcases hst' with rfl | ⟨row, -, rfl⟩ <;> rfl
    simp only [Store.resume, h]
    rcases scheduleInstall_cases st' env fresh req detach with ⟨_, hi⟩ | ⟨_, info, _, _, hi⟩
    · rw [hi]
      exact hrt ▸ .same _
    · rw [hi]
      have hwrite : RegistryWrite st (.scheduleSetDetached req detach)
          (st.runtimes.modify req.sessionId (·.setTimer (some ⟨info, fresh⟩))) := .timer _ _ _ rfl
      rw [← hrt] at hwrite
      exact hwrite
  case resizeGet owner sid cols rows =>
    simp only [Store.resume, Store.resizeGet]
    split
    · exact .same _
    · split
      · exact .same _
      · exact .dims owner sid cols rows
  -- every other stretch leaves the registry alone
  all_goals
    apply RegistryWrite.of_eq
    grind [Store.dropAttachments]

/-! ## What a write leaves alone -/

/-- What the quotas see of an entry: its owner, its status, and whether a PTY is bound. -/
def RuntimeEntry.shape (e : RuntimeEntry) : UserId × RuntimeSessionStatus × Bool :=
  (e.snapshot.ownerId, e.snapshot.status, e.live.isSome)

@[simp] theorem RuntimeEntry.shape_setTimer (e : RuntimeEntry) (d : Option DetachClose) :
    (e.setTimer d).shape = e.shape := by
  simp [shape, setTimer]

@[simp] theorem RuntimeEntry.shape_setDims (e : RuntimeEntry) (cols rows : Nat) :
    (e.setDims cols rows).shape = e.shape := rfl

/-- The entry of `sid` has the shape it had, or is gone. -/
def ShapeKept (r r' : Registry SessionId RuntimeEntry) (sid : SessionId) : Prop :=
  r'.lookup sid = none ∨ (r'.lookup sid).map RuntimeEntry.shape = (r.lookup sid).map RuntimeEntry.shape

theorem ShapeKept.isSome {x y : Registry SessionId RuntimeEntry} {sid : SessionId} (h : ShapeKept x y sid)
    (hy : (y.lookup sid).isSome) : (x.lookup sid).isSome := by
  rcases h with hnone | heq
  · rw [hnone] at hy
    cases hy
  · rw [← Option.isSome_map (f := RuntimeEntry.shape), ← heq, Option.isSome_map]
    exact hy

/-- What a stretch does to the entry of one session. -/
inductive EntryChange (st : Store) (t : Task) (k : SessionId) : Option RuntimeEntry → Prop where
  | same : EntryChange st t k (st.runtimes.lookup k)
  | added (session : TerminalSession) (ht : t = .createEvent k session) :
      EntryChange st t k (some session.startingEntry)
  | promoted (owner : UserId) (pty : PtyId) (forwarder : TaskId) (e : RuntimeEntry)
      (ht : t = .startReget owner k pty forwarder) (found : st.runtimes.lookup k = some e) :
      EntryChange st t k (some (e.promote pty forwarder))
  | removed (ht : t.removes = some k) (closed : ∀ origin owner, t = .closeGet origin k owner →
      ∃ row, st.sessions.lookup k = some row ∧ row.status = .closed) : EntryChange st t k none
  | reshaped (f : RuntimeEntry → RuntimeEntry) (hf : ∀ e, (f e).shape = e.shape) :
      EntryChange st t k ((st.runtimes.lookup k).map f)

theorem RegistryWrite.entry {t : Task} {r : Registry SessionId RuntimeEntry} (w : RegistryWrite st t r)
    (k : SessionId) :
    EntryChange st t k (r.lookup k) := by
  cases w with
  | same => exact .same
  | added sid session =>
    by_cases hk : k = sid
    · subst hk
      rw [AList.lookup_insert]
      exact .added session rfl
    · rw [AList.lookup_insert_ne hk]
      exact .same
  | promoted owner sid pty forwarder e found =>
    by_cases hk : k = sid
    · subst hk
      rw [AList.lookup_insert]
      exact .promoted owner pty forwarder e rfl found
    · rw [AList.lookup_insert_ne hk]
      exact .same
  | removed _ sid ht closed =>
    by_cases hk : k = sid
    · subst hk
      rw [AList.lookup_erase]
      exact .removed ht closed
    · rw [AList.lookup_erase_ne hk]
      exact .same
  | timer _ sid d _ =>
    rw [Registry.lookup_modify]
    split
    · next hk => exact hk ▸ .reshaped _ fun e => e.shape_setTimer d
    · exact .same
  | dims owner sid cols rows =>
    rw [Registry.lookup_modify]
    split
    · next hk => exact hk ▸ .reshaped _ fun e => e.shape_setDims cols rows
    · exact .same

/-- The operations a task can belong to: those of the create route, and the others. -/
inductive TaskKind where
  | create | start | failed | other
  deriving DecidableEq, Repr

def Task.kind : Task → TaskKind
  | .createInsert _ | .createEvent _ _ => .create
  | .startGet _ _ _ | .startSetActive _ _ _ _ _ | .startReget _ _ _ _ | .startLeftoverClose _ => .start
  | .failedGet _ _ _ | .failedSetClosed _ _ _ _ | .failedEvent _ _ => .failed
  | _ => .other

/-- The session a task of the create route works on. -/
def Task.created : Task → Option SessionId
  | .createEvent sid _ | .startGet _ sid _ | .startSetActive _ sid _ _ _ | .startReget _ sid _ _
  | .startLeftoverClose sid | .failedGet _ sid _ | .failedSetClosed sid _ _ _ | .failedEvent sid _ => some sid
  | _ => none

theorem Edge.kind {fresh : TaskId} {t t' : Task} (h : Edge st env fresh t t') : t'.kind = t.kind := by
  cases h <;> rfl

theorem RegistryWrite.shapeKept {t : Task} {r : Registry SessionId RuntimeEntry} (w : RegistryWrite st t r)
    {k : SessionId} (hk : t.kind = .other ∨ t.kind = .failed ∨ t.created ≠ some k) : ShapeKept st.runtimes r k := by
  unfold ShapeKept
  have hentry := w.entry k
  generalize r.lookup k = entry at hentry
  cases hentry with
  | same => exact .inr rfl
  | added session ht =>
    subst ht
    simp [Task.kind, Task.created] at hk
  | promoted owner pty forwarder e ht found =>
    subst ht
    simp [Task.kind, Task.created] at hk
  | removed => exact .inl rfl
  | reshaped f hf =>
    right
    rw [Option.map_map]
    exact Option.map_congr fun e _ => hf e

/-- Only `create_session` and `start_live_pty` can add to what a quota counts. -/
theorem RegistryWrite.count_le {t : Task} {r : Registry SessionId RuntimeEntry} (w : RegistryWrite st t r)
    (hk : t.kind = .other ∨ t.kind = .failed) {p : RuntimeEntry → Bool}
    (hp : ∀ e e' : RuntimeEntry, e.shape = e'.shape → p e = p e') :
    Registry.count p r ≤ Registry.count p st.runtimes := by
  cases w with
  | same => exact Nat.le_refl _
  | added sid session => simp [Task.kind] at hk
  | promoted owner sid pty forwarder e found => simp [Task.kind] at hk
  | removed _ sid _ _ => exact Registry.count_erase_le p _ sid
  | timer _ sid d _ => exact Nat.le_of_eq (Registry.count_modify p _ sid fun e => hp _ _ (e.shape_setTimer d))
  | dims owner sid cols rows =>
    exact Nat.le_of_eq (Registry.count_modify p _ sid fun e => hp _ _ (e.shape_setDims cols rows))

theorem isLiveOf_shape (owner : UserId) (e e' : RuntimeEntry) (h : e.shape = e'.shape) :
    e.isLiveOf owner = e'.isLiveOf owner := by
  simp only [RuntimeEntry.shape, Prod.mk.injEq] at h
  simp only [RuntimeEntry.isLiveOf, h]

theorem isStartingOf_shape (owner : UserId) (e e' : RuntimeEntry) (h : e.shape = e'.shape) :
    e.isStartingOf owner = e'.isStartingOf owner := by
  simp only [RuntimeEntry.shape, Prod.mk.injEq] at h
  simp only [RuntimeEntry.isStartingOf, ← Option.not_isSome, h]

theorem Edge.created_eq {fresh : TaskId} {t t' : Task} (h : Edge st env fresh t t')
    (hk : t.kind = .start ∨ t.kind = .failed) : t'.created = t.created := by
  cases h <;> first | rfl | simp [Task.kind] at hk

/-- `start_live_pty` writes to the registry only when it returns the session. -/
theorem resume_started (fresh : TaskId) {t : Task} (hk : t.kind = .start) :
    (∃ session, (st.resume env fresh t).next = .ret (.started session)) ∨
      (st.resume env fresh t).store.runtimes = st.runtimes := by
  cases t <;> first | grind | simp [Task.kind] at hk

/-- Sessions are never deleted. -/
theorem resume_rows (fresh : TaskId) (t : Task) {sid : SessionId} (h : (st.sessions.lookup sid).isSome) :
    ((st.resume env fresh t).store.sessions.lookup sid).isSome := by
  obtain ⟨row, hrow⟩ := Option.isSome_iff_exists.1 h
  obtain ⟨row', hrow', -⟩ := resume_owners st env fresh t sid hrow
  rw [hrow']
  rfl

end RelayTerm.Session
