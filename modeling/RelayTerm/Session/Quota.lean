import RelayTerm.Session.Requests
/-!
# What the create route leaves in the quotas

The counts are read once, at the known hosts; the `Starting` entry they should
have counted is registered two await points later. So the quotas are exceeded by
exactly as many requests as can be between the two. An entry leaves the count
when `record_pty_start_failed` empties it or when it becomes live; nothing takes
it back when `start_live_pty` fails.
-/
open RelayTerm.Lib

namespace RelayTerm.Create

open Session

variable {caps : Caps} {s : Server} {sys : Sys} {r : Request} {rid : RequestId} {env : CreateEnv} {user : UserId}
  {o : Out}

/-! ## Counting -/

def Request.isCreatingOf (user : UserId) (r : Request) : Bool := r.user = user && r.stage.isCreating

/-- The user's requests between the quota checks and the registration of their entry. -/
def Server.pending (s : Server) (user : UserId) : Nat := Registry.count (·.isCreatingOf user) s.requests

/-- In this step a request of the user's passes the quota checks. -/
def Server.admits (caps : Caps) (user : UserId) (s : Server) : Event → Bool
  | .resume rid env => match s.requests.lookup rid with
    | some ⟨owner, .listForHost body profile host⟩ =>
      owner = user && match (resume caps s.sys env owner (.listForHost body profile host)).next with
        | .await _ => true
        | .ret _ => false
    | _ => false
  | _ => false

/-- What the next stage of a request of `owner` adds to the user's pending ones. -/
def Next.pending (owner user : UserId) : Next → Nat
  | .await stage => if Request.isCreatingOf user ⟨owner, stage⟩ then 1 else 0
  | .ret _ => 0

theorem settle_pending (hr : s.requests.lookup rid = some r) (o : Out) (user : UserId) :
    (s.settle rid r.user o).pending user + (if r.isCreatingOf user then 1 else 0) =
      s.pending user + o.next.pending r.user user := by
  unfold Server.pending Server.settle Next.pending
  cases o.next with
  | await stage => exact Registry.count_insert_old (·.isCreatingOf user) hr
  | ret reply => exact (Registry.count_erase (·.isCreatingOf user) hr).symm

/-- A step of a request moves at most what it held itself from one count to the next. -/
structure Charged (user : UserId) (sys : Sys) (r : Request) (o : Out) : Prop where
  starting : o.sys.store.countStartingForUser user + o.next.pending r.user user ≤
    sys.store.countStartingForUser user + if r.isCreatingOf user then 1 else 0
  total : o.sys.store.countStartingForUser user + o.sys.store.countLivePtyForUser user + o.next.pending r.user user ≤
    sys.store.countStartingForUser user + sys.store.countLivePtyForUser user + if r.isCreatingOf user then 1 else 0

theorem Charged.of_le (hs : o.sys.store.countStartingForUser user ≤ sys.store.countStartingForUser user)
    (hl : o.sys.store.countLivePtyForUser user ≤ sys.store.countLivePtyForUser user)
    (hn : o.next.pending r.user user ≤ if r.isCreatingOf user then 1 else 0) : Charged user sys r o := by
  constructor <;> omega

/-- `start_live_pty` promotes the entry of its session, if it writes to the registry at all. -/
theorem start_registry {st : Store} {t : Task} {rt : Registry SessionId RuntimeEntry} (w : RegistryWrite st t rt)
    (hk : t.kind = .start) :
    rt = st.runtimes ∨ ∃ sid e pty forwarder, t.created = some sid ∧ st.runtimes.lookup sid = some e ∧
      rt = st.runtimes.insert sid (e.promote pty forwarder) := by
  cases w with
  | same => exact .inl rfl
  | promoted owner sid pty forwarder e found => exact .inr ⟨sid, e, pty, forwarder, rfl, found, rfl⟩
  | added | dims => cases hk
  | removed _ sid ht _ => cases t <;> cases hk <;> cases ht
  | timer _ sid d ht => cases t <;> cases hk <;> cases ht

/-- A `Starting` entry for what was pending. -/
theorem added_charged {sid : SessionId} {session : TerminalSession} (howner : session.ownerId = r.user)
    (hr : r.stage.isCreating) (hn : o.next.pending r.user user = 0)
    (hrt : o.sys.store.runtimes = sys.store.runtimes.insert sid session.startingEntry) : Charged user sys r o := by
  have hlive : o.sys.store.countLivePtyForUser user ≤ sys.store.countLivePtyForUser user := by
    unfold Store.countLivePtyForUser
    have hnot : ¬ session.startingEntry.isLiveOf user := by simp [RuntimeEntry.isLiveOf, TerminalSession.startingEntry]
    rw [hrt, Registry.count_insert, if_neg hnot, Nat.add_zero]
    exact Registry.count_erase_le _ _ _
  have hstarting : o.sys.store.countStartingForUser user ≤
      sys.store.countStartingForUser user + if r.isCreatingOf user then 1 else 0 := by
    have hsame : session.startingEntry.isStartingOf user = r.isCreatingOf user := by
      simp [RuntimeEntry.isStartingOf, TerminalSession.startingEntry, Request.isCreatingOf, howner, hr]
    unfold Store.countStartingForUser
    rw [hrt, Registry.count_insert, hsame]
    exact Nat.add_le_add_right (Registry.count_erase_le _ _ _) _
  constructor <;> omega

/-- A live entry for a `Starting` one. -/
theorem promoted_charged {sid : SessionId} {e : RuntimeEntry} {pty : PtyId} {forwarder : TaskId}
    (he : sys.store.runtimes.lookup sid = some e) (hshape : e.shape.2 = (.starting, false))
    (hn : o.next.pending r.user user = 0)
    (hrt : o.sys.store.runtimes = sys.store.runtimes.insert sid (e.promote pty forwarder)) : Charged user sys r o := by
  obtain ⟨hstatus, hnone⟩ := Prod.mk.inj hshape
  have hold : e.isLiveOf user = false := by simp [RuntimeEntry.isLiveOf, hnone]
  have hgone : (e.promote pty forwarder).isStartingOf user = false := by
    simp [RuntimeEntry.isStartingOf, RuntimeEntry.promote]
  have hsame : (e.promote pty forwarder).isLiveOf user = e.isStartingOf user := by
    unfold RuntimeEntry.isStartingOf
    rw [← Option.not_isSome, hnone, hstatus, Bool.not_false, Bool.and_true]
    rfl
  have hlive : o.sys.store.countLivePtyForUser user =
      sys.store.countLivePtyForUser user + if e.isStartingOf user then 1 else 0 := by
    have h := Registry.count_insert_old (x := e.promote pty forwarder) (·.isLiveOf user) he
    rw [← hrt, hold, hsame] at h
    exact h
  have hstarting : o.sys.store.countStartingForUser user + (if e.isStartingOf user then 1 else 0) =
      sys.store.countStartingForUser user := by
    have h := Registry.count_insert_old (x := e.promote pty forwarder) (·.isStartingOf user) he
    rw [← hrt, hgone] at h
    exact h
  constructor <;> omega

theorem Next.pending_eq_zero {n : Next} (h : ∀ stage, n = .await stage → stage.isCreating = false)
    (owner user : UserId) : n.pending owner user = 0 := by
  cases n with
  | await stage => simp [Next.pending, Request.isCreatingOf, h stage rfl]
  | ret reply => rfl

/-- The registry is as it was, and nothing becomes pending. -/
theorem Charged.idle (hrt : o.sys.store.runtimes = sys.store.runtimes) (hn : o.next.pending r.user user = 0) :
    Charged user sys r o := by
  apply Charged.of_le
  · exact Nat.le_of_eq (congrArg (Registry.count _) hrt)
  · exact Nat.le_of_eq (congrArg (Registry.count _) hrt)
  · rw [hn]
    exact Nat.zero_le _

section Stages

variable (caps : Caps) (env : CreateEnv) (owner user : UserId)

theorem lookup_charged {now : Stage} (hl : now.isLookup) :
    Charged user sys ⟨owner, now⟩ (resume caps sys env owner now) := by
  rcases resume_lookup caps sys env owner now hl with ⟨e, h⟩ | ⟨stage', h, -, hc, -⟩ <;> rw [h]
  · exact .idle rfl rfl
  · exact .idle rfl (Next.pending_eq_zero (by rintro _ ⟨⟩; exact hc) _ _)

theorem createInsert_charged (req : CreateTerminalSessionRequest) :
    Charged user sys ⟨owner, .creating (.createInsert req)⟩
      (resume caps sys env owner (.creating (.createInsert req))) := by
  rcases resume_createInsert caps sys env owner req with ⟨e, h⟩ | ⟨session, sys', h, -, -, -, hrt⟩ <;> rw [h]
  · exact .idle rfl rfl
  · -- what was pending stays pending
    refine .of_le (Nat.le_of_eq ?_) (Nat.le_of_eq ?_) (Nat.le_refl _)
    · exact congrArg (Registry.count _) hrt
    · exact congrArg (Registry.count _) hrt

theorem createEvent_charged {sid : SessionId} {session : TerminalSession} (howner : session.ownerId = owner) :
    Charged user sys ⟨owner, .creating (.createEvent sid session)⟩
      (resume caps sys env owner (.creating (.createEvent sid session))) := by
  rcases resume_createEvent caps sys env owner sid session with ⟨e, h⟩ | ⟨sys', h, hrt⟩ <;> rw [h]
  · exact .idle rfl rfl
  · exact added_charged howner rfl (Next.pending_eq_zero (by rintro _ ⟨⟩; rfl) _ _) hrt

theorem bridging_charged (sid : SessionId) :
    Charged user sys ⟨owner, .bridging sid⟩ (resume caps sys env owner (.bridging sid)) := by
  rcases resume_bridging caps sys env owner sid with ⟨err, category, sys', h, rfl⟩ | ⟨pty, h⟩ <;> rw [h]
  · refine .of_le ?_ ?_ ?_
    · exact Registry.count_modify_le _ _ _ fun e he => by simp [RuntimeEntry.isStartingOf] at he
    · exact Registry.count_modify_le _ _ _ fun e he => by simp [RuntimeEntry.isLiveOf] at he
    · rw [Next.pending_eq_zero (by rintro _ ⟨⟩; rfl)]
      exact Nat.zero_le _
  · exact .idle rfl (Next.pending_eq_zero (by rintro _ ⟨⟩; rfl) _ _)

theorem failing_charged {err : CreateApiError} {t : Task} (hkind : t.kind = .failed) :
    Charged user sys ⟨owner, .failing err t⟩ (resume caps sys env owner (.failing err t)) := by
  have hw := resume_registry sys.store env.manager sys.nextTask t
  refine .of_le ?_ ?_ ?_
  · exact hw.count_le (.inr hkind) (isStartingOf_shape user)
  · exact hw.count_le (.inr hkind) (isLiveOf_shape user)
  · rw [Next.pending_eq_zero]
    · exact Nat.zero_le _
    · intro stage hstage
      obtain ⟨t', -, rfl⟩ := afterFailing_await hstage
      rfl

theorem promoting_charged {t : Task} (hkind : t.kind = .start)
    (hexpects : ∀ sid, t.created = some sid → Stage.Expects (shapeOf sys sid) (.promoting t)) :
    Charged user sys ⟨owner, .promoting t⟩ (resume caps sys env owner (.promoting t)) := by
  have hn : (resume caps sys env owner (.promoting t)).next.pending owner user = 0 := by
    apply Next.pending_eq_zero
    intro stage hstage
    obtain ⟨t', -, rfl⟩ := afterPromoting_await hstage
    rfl
  rcases start_registry (resume_registry sys.store env.manager sys.nextTask t) hkind with
    hrt | ⟨sid, e, pty, forwarder, hsid, he, hrt⟩
  · exact .idle hrt hn
  · have hshape := hexpects sid hsid e.shape (by rw [shapeOf, he]; rfl)
    exact promoted_charged he hshape hn hrt

/-- Past the checks, a request only passes on what it holds. -/
theorem Server.Sound.charged (hs : s.Sound) (hr : s.requests.lookup rid = some r)
    (hstage : ∀ body profile host, r.stage ≠ .listForHost body profile host) :
    Charged user s.sys r (resume caps s.sys env r.user r.stage) := by
  have hformed := hs.formed rid r hr
  have hexpects : ∀ sid, r.stage.session = some sid → r.stage.Expects (shapeOf s.sys sid) :=
    fun sid => hs.expects rid r sid hr
  obtain ⟨owner, now⟩ := r
  cases now with
  | getProfile | getHost | getIdentity => exact lookup_charged caps env owner user rfl
  | listForHost body profile host => exact absurd rfl (hstage body profile host)
  | creating t =>
    cases t with
    | createInsert req => exact createInsert_charged caps env owner user req
    | createEvent sid session => exact createEvent_charged caps env owner user hformed
    | _ => exact hformed.elim
  | bridging sid => exact bridging_charged caps env owner user sid
  | failing err t => exact failing_charged caps env owner user hformed
  | promoting t => exact promoting_charged caps env owner user hformed hexpects

end Stages

/-- The user's counts with the requests that are about to add to them. -/
structure Within (caps : Caps) (user : UserId) (k : Nat) (s : Server) : Prop where
  starting : s.pending user + s.sys.store.countStartingForUser user ≤ caps.maxStartingPerUser + k
  total : s.pending user + s.sys.store.countStartingForUser user + s.sys.store.countLivePtyForUser user ≤
    caps.maxLivePtyPerUser + caps.maxStartingPerUser + k

/-- Whoever passes the quota checks finds at most `k` of the user's requests
between their own checks and the registration of their entry. -/
def AdmitsBehind (caps : Caps) (user : UserId) (k : Nat) (s : Server) (e : Event) : Prop :=
  s.admits caps user e → s.pending user ≤ k

instance (caps : Caps) (user : UserId) (k : Nat) (s : Server) (e : Event) : Decidable (AdmitsBehind caps user k s e) :=
  inferInstanceAs (Decidable (_ → _))

theorem init_within (caps : Caps) (user : UserId) (k ttl : Nat) : Within caps user k (Server.init ttl) :=
  ⟨Nat.zero_le _, Nat.zero_le _⟩

theorem Within.of_le {k : Nat} {s s' : Server} (h : Within caps user k s) (hp : s'.pending user ≤ s.pending user)
    (hs : s'.sys.store.countStartingForUser user ≤ s.sys.store.countStartingForUser user)
    (hl : s'.sys.store.countLivePtyForUser user ≤ s.sys.store.countLivePtyForUser user) : Within caps user k s' := by
  obtain ⟨h₁, h₂⟩ := h
  constructor <;> omega

/-- A request that passes the checks. -/
theorem within_admitted {k : Nat} {s : Server} {body : Body} {profile : LoadedProfile} {host : LoadedHost}
    {owner : UserId}
    (hw : Within caps user k s) (hr : s.requests.lookup rid = some ⟨owner, .listForHost body profile host⟩)
    (hok : AdmitsBehind caps user k s (.resume rid env)) :
    Within caps user k (s.settle rid owner (resume caps s.sys env owner (.listForHost body profile host))) := by
  have hp := settle_pending hr (resume caps s.sys env owner (.listForHost body profile host)) user
  rw [if_neg (by simp [Request.isCreatingOf, Stage.isCreating]), Nat.add_zero] at hp
  rcases resume_listForHost caps s.sys env owner body profile host with ⟨e, h⟩ | ⟨req, h, -, hlive, hstarting⟩
  · rw [h] at hp ⊢
    exact hw.of_le (Nat.le_of_eq hp) (Nat.le_refl _) (Nat.le_refl _)
  · rw [h] at hp ⊢
    by_cases hu : owner = user
    · subst hu
      have hadmits : s.admits caps owner (.resume rid env) := by simp [Server.admits, hr, h]
      have hk := hok hadmits
      have hone : (Next.await (.creating (.createInsert req))).pending owner owner = 1 := by
        simp [Next.pending, Request.isCreatingOf, Stage.isCreating]
      dsimp only at hp
      rw [hone] at hp
      constructor <;> dsimp only [Server.settle] at * <;> omega
    · have hzero : (Next.await (.creating (.createInsert req))).pending owner user = 0 := by
        simp [Next.pending, Request.isCreatingOf, hu]
      dsimp only at hp
      rw [hzero] at hp
      exact hw.of_le (Nat.le_of_eq hp) (Nat.le_refl _) (Nat.le_refl _)

theorem step_within {k : Nat} {s s' : Server} {e : Event} (hs : s.Sound) (hw : Within caps user k s)
    (hok : AdmitsBehind caps user k s e) (h : s.step caps e = some s') : Within caps user k s' := by
  cases e with
  | create owner body =>
    cases h
    refine hw.of_le ?_ (Nat.le_refl _) (Nat.le_refl _)
    unfold Server.pending
    rw [Registry.count_insert, if_neg (by simp [Request.isCreatingOf, Stage.isCreating])]
    exact Registry.count_erase_le _ _ _
  | resume rid env =>
    obtain ⟨r, hr, rfl⟩ := Option.map_eq_some_iff.1 h
    by_cases hstage : ∃ body profile host, r.stage = .listForHost body profile host
    · obtain ⟨owner, now⟩ := r
      obtain ⟨body, profile, host, rfl⟩ := hstage
      exact within_admitted hw hr hok
    · have hc := hs.charged caps env user hr fun body profile host hst => hstage ⟨body, profile, host, hst⟩
      have hp := settle_pending hr (resume caps s.sys env r.user r.stage) user
      obtain ⟨h₁, h₂⟩ := hc
      obtain ⟨h₃, h₄⟩ := hw
      constructor <;> dsimp only [Server.settle] at * <;> omega
  | client c =>
    simp only [Server.step, Option.map_eq_some_iff] at h
    obtain ⟨sys', hsys, rfl⟩ := h
    cases hsys
    have hstore := (client_enter s.sys.store c).1
    refine hw.of_le (Nat.le_refl _) (Nat.le_of_eq ?_) (Nat.le_of_eq ?_)
    · exact congrArg (·.countStartingForUser user) hstore
    · exact congrArg (·.countLivePtyForUser user) hstore
  | task tid menv =>
    obtain ⟨sys', hsys, rfl⟩ := Option.map_eq_some_iff.1 h
    obtain ⟨t, ht, rfl⟩ := step_resume hsys
    have hreg := resume_registry s.sys.store menv s.sys.nextTask t
    refine hw.of_le (Nat.le_refl _) ?_ ?_
    · exact hreg.count_le (.inl (hs.pool tid t ht)) (isStartingOf_shape user)
    · exact hreg.count_le (.inl (hs.pool tid t ht)) (isLiveOf_shape user)

/-- The quotas are exceeded at most by the number of the user's requests that can
be between their checks and the registration of their entry when another one
passes the checks. -/
theorem quotas_bounded (caps : Caps) (user : UserId) (k ttl : Nat) (evs : List Event) (s : Server)
    (hg : Guarded (Server.step caps) (AdmitsBehind caps user k) (Server.init ttl) evs)
    (hr : run (Server.step caps) (Server.init ttl) evs = some s) :
    s.sys.store.countStartingForUser user ≤ caps.maxStartingPerUser + k ∧
      s.sys.store.countLivePtyForUser user ≤ caps.maxLivePtyPerUser + caps.maxStartingPerUser + k := by
  have hinv : s.Sound ∧ Within caps user k s := by
    refine hg.inv (fun s => s.Sound ∧ Within caps user k s) ?_ hr ⟨init_sound ttl, init_within caps user k ttl⟩
    rintro u e v ⟨hs, hw⟩ hok h
    exact ⟨step_sound hs h, step_within hs hw hok h⟩
  obtain ⟨h₁, h₂⟩ := hinv.2
  omega

/-- What user 1 meets when every lookup finds what it looks for and every call
succeeds; the row gets id `sid`. -/
def answers (sid : SessionId) : CreateEnv where
  manager := { id := sid }
  profile := some ⟨1, 1, 1, 1, false⟩
  host := some ⟨1, 1⟩
  identity := some ⟨1⟩
  known := [⟨1, 1, .ed25519, "SHA256:x", [], 0, some 0, none, none, none, none⟩]

/-- The next `n` stretches of a request: with 4 it passes the checks, with 6 its
entry is registered, with 7 the bridge has started, with 10 it returns. -/
def goesOn (rid : RequestId) (sid : SessionId) (n : Nat) : List Event := List.replicate n (.resume rid (answers sid))

/-- Two requests, the second checked when the first is registered. -/
def checkedInTurn : List Event :=
  [.create 1 ⟨1, 80, 24⟩, .create 1 ⟨1, 80, 24⟩] ++ goesOn 0 7 6 ++ goesOn 1 8 6 ++ goesOn 0 7 4 ++ goesOn 1 8 4

theorem quotas_bounded_in_turn :
    ∃ s, run (Server.step ⟨1, 10, 2⟩) (Server.init 30) checkedInTurn = some s ∧
      s.sys.store.countLivePtyForUser 1 = 2 ∧ s.sys.store.countLivePtyForUser 1 ≤ 1 + 2 :=
  ⟨_, rfl, by decide, (quotas_bounded ⟨1, 10, 2⟩ 1 0 30 checkedInTurn _ (by decide) rfl).2⟩

/-- Three requests pass the checks before any of them is registered. -/
def checkedTogether : List Event :=
  [.create 1 ⟨1, 80, 24⟩, .create 1 ⟨1, 80, 24⟩, .create 1 ⟨1, 80, 24⟩] ++
    goesOn 0 7 4 ++ goesOn 1 8 4 ++ goesOn 2 9 4 ++ goesOn 0 7 2 ++ goesOn 1 8 2 ++ goesOn 2 9 2

theorem quotas_exceeded :
    (¬ ∀ (caps : Caps) (user : UserId) (ttl : Nat) (evs : List Event) (s : Server),
      run (Server.step caps) (Server.init ttl) evs = some s →
      s.sys.store.countStartingForUser user ≤ caps.maxStartingPerUser) ∧
    ¬ ∀ (caps : Caps) (user : UserId) (ttl : Nat) (evs : List Event) (s : Server),
      run (Server.step caps) (Server.init ttl) evs = some s →
      s.sys.store.countLivePtyForUser user ≤ caps.maxLivePtyPerUser + caps.maxStartingPerUser := by
  constructor
  · intro h
    exact absurd (h ⟨1, 10, 1⟩ 1 30 checkedTogether _ rfl) (by decide)
  · intro h
    exact absurd (h ⟨1, 10, 1⟩ 1 30 (checkedTogether ++ goesOn 0 7 4 ++ goesOn 1 8 4 ++ goesOn 2 9 4) _ rfl) (by decide)

/-! ## What a failed request leaves -/

def Stage.isPromoting : Stage → Bool
  | .promoting _ => true
  | _ => false

/-- One of the quotas counts the entry. -/
def Counted (e : RuntimeEntry) : Prop := ∃ owner, e.isStartingOf owner ∨ e.isLiveOf owner

theorem counted_iff {e : RuntimeEntry} : Counted e ↔ e.shape.2 = (.starting, false) ∨ e.live.isSome := by
  constructor
  · rintro ⟨owner, h | h⟩
    · simp only [RuntimeEntry.isStartingOf, Bool.and_eq_true, decide_eq_true_eq, Option.isNone_iff_eq_none] at h
      exact .inl (by simp [RuntimeEntry.shape, h.1.2, h.2])
    · simp only [RuntimeEntry.isLiveOf, Bool.and_eq_true] at h
      exact .inr h.2
  · rintro (h | h)
    · obtain ⟨hstatus, hlive⟩ := Prod.mk.inj h
      exact ⟨e.snapshot.ownerId, .inl (by simp [RuntimeEntry.isStartingOf, hstatus, ← Option.not_isSome, hlive])⟩
    · exact ⟨e.snapshot.ownerId, .inr (by simp [RuntimeEntry.isLiveOf, h])⟩

theorem afterPromoting_error {mo : Session.Out} {e : CreateApiError}
    (h : (afterPromoting sys mo).next = .ret (.error e)) (session : TerminalSession) :
    mo.next ≠ .ret (.started session) := by
  intro hn
  simp only [afterPromoting, hn] at h
  cases h

section Failed

variable {e : CreateApiError} {sid : SessionId} (caps : Caps) (env : CreateEnv) (owner : UserId)

/-- Nothing is registered before the event is written. -/
theorem createEvent_uncounted {session : TerminalSession} (hnone : shapeOf sys sid = none)
    (hret : (resume caps sys env owner (.creating (.createEvent sid session))).next = .ret (.error e)) :
    (resume caps sys env owner (.creating (.createEvent sid session))).sys.store.runtimes.lookup sid = none := by
  rcases resume_createEvent caps sys env owner sid session with ⟨e', h⟩ | ⟨sys', h, -⟩ <;> rw [h] at hret ⊢
  · exact Option.map_eq_none_iff.1 hnone
  · cases hret

/-- Whatever the start of the bridge comes to, the request goes on. -/
theorem bridging_goesOn : (resume caps sys env owner (.bridging sid)).next ≠ .ret (.error e) := by
  intro hret
  rcases resume_bridging caps sys env owner sid with ⟨err, category, sys', h, -⟩ | ⟨pty, h⟩ <;> rw [h] at hret <;>
    cases hret

/-- The entry was emptied when the bridge failed to start. -/
theorem failing_uncounted {err : CreateApiError} {t : Task} {entry : RuntimeEntry} (hkind : t.kind = .failed)
    (hexpects : Stage.Expects (shapeOf sys sid) (.failing err t))
    (hentry : (resume caps sys env owner (.failing err t)).sys.store.runtimes.lookup sid = some entry) :
    ¬ Counted entry := by
  intro hcounted
  have hw := resume_registry sys.store env.manager sys.nextTask t
  have hshape : Stage.Expects (shapeOf (resume caps sys env owner (.failing err t)).sys sid) (.failing err t) :=
    hexpects.kept (hw.shapeKept (.inr (.inl hkind)))
  have hended := hshape entry.shape (by rw [shapeOf, hentry]; rfl)
  rcases counted_iff.1 hcounted with hstarting | hlive
  · cases hended.symm.trans hstarting
  · cases (Prod.mk.inj hended).2.symm.trans hlive

/-- `start_live_pty` leaves the registry alone when it fails. -/
theorem promoting_kept {t : Task} (hkind : t.kind = .start)
    (hret : (resume caps sys env owner (.promoting t)).next = .ret (.error e)) :
    (resume caps sys env owner (.promoting t)).sys.store.runtimes = sys.store.runtimes := by
  rcases resume_started sys.nextTask hkind with ⟨session, hstarted⟩ | hsame
  · exact absurd hstarted (afterPromoting_error hret session)
  · exact hsame

/-- While it runs, an entry of its session is `Starting`. -/
theorem promoting_counted {t : Task} {entry : RuntimeEntry} (hexpects : Stage.Expects (shapeOf sys sid) (.promoting t))
    (hentry : sys.store.runtimes.lookup sid = some entry) : Counted entry :=
  counted_iff.2 (.inl (hexpects entry.shape (by rw [shapeOf, hentry]; rfl)))

end Failed

/-- When a request fails, its session is still counted exactly if the failure is
inside `start_live_pty` and finds the entry of the session in the registry: nobody
has taken it out before. -/
theorem failed_create_counted_iff (caps : Caps) (ttl : Nat) (evs : List Event) (s : Server) (rid : RequestId)
    (r : Request) (env : CreateEnv) (o : Out) (e : CreateApiError) (sid : SessionId)
    (hrun : run (Server.step caps) (Server.init ttl) evs = some s) (hr : s.requests.lookup rid = some r)
    (hsid : r.stage.session = some sid) (ho : resume caps s.sys env r.user r.stage = o)
    (hret : o.next = .ret (.error e)) :
    (∃ entry, o.sys.store.runtimes.lookup sid = some entry ∧ Counted entry) ↔
      r.stage.isPromoting ∧ (s.sys.store.runtimes.lookup sid).isSome := by
  have hs := run_sound hrun
  have hformed := hs.formed rid r hr
  have hexpects := hs.expects rid r sid hr hsid
  obtain ⟨owner, now⟩ := r
  subst ho
  cases now with
  | getProfile | getHost | getIdentity | listForHost => cases hsid
  | creating t =>
    simp only [Stage.isPromoting, Bool.false_eq_true, false_and, iff_false]
    rintro ⟨entry, hentry, -⟩
    cases t with
    | createInsert req => cases hsid
    | createEvent k session =>
      cases hsid
      cases (createEvent_uncounted caps env owner hexpects hret).symm.trans hentry
    | _ => exact hformed
  | bridging k => exact absurd hret (bridging_goesOn caps env owner)
  | failing err t =>
    simp only [Stage.isPromoting, Bool.false_eq_true, false_and, iff_false]
    rintro ⟨entry, hentry, hcounted⟩
    exact failing_uncounted caps env owner hformed hexpects hentry hcounted
  | promoting t =>
    rw [promoting_kept caps env owner hformed hret]
    simp only [Stage.isPromoting, true_and]
    constructor
    · rintro ⟨entry, hentry, -⟩
      exact Option.isSome_iff_exists.2 ⟨entry, hentry⟩
    · intro hsome
      obtain ⟨entry, hentry⟩ := Option.isSome_iff_exists.1 hsome
      exact ⟨entry, hentry, promoting_counted hexpects hentry⟩

/-- A request whose bridge fails to start, up to its last await point. -/
def bridgeFailedRun : List Event :=
  [.create 1 ⟨1, 80, 24⟩] ++ goesOn 0 7 6 ++
    [.resume 0 { answers 7 with start := .error (.transport .unreachable) }] ++ goesOn 0 7 2

theorem failed_create_counted_bridge :
    ∃ s err o, run (Server.step ⟨1, 10, 1⟩) (Server.init 30) bridgeFailedRun = some s ∧
      resume ⟨1, 10, 1⟩ s.sys (answers 7) 1 (.failing err (.failedEvent 7 "transport")) = o ∧
      o.next = .ret (.error err) ∧ ¬ ∃ entry, o.sys.store.runtimes.lookup 7 = some entry ∧ Counted entry :=
  ⟨_, _, _, rfl, rfl, rfl, fun h => absurd ((failed_create_counted_iff ⟨1, 10, 1⟩ 30 bridgeFailedRun _ 0
    ⟨1, .failing _ (.failedEvent 7 "transport")⟩ (answers 7) _ _ 7 rfl rfl rfl rfl rfl).1 h).1 (by decide)⟩

/-- A request whose bridge has started, up to the first await point of `start_live_pty`. -/
def bridgeStartedRun : List Event := [.create 1 ⟨1, 80, 24⟩] ++ goesOn 0 7 7

/-- The read of the row in `start_live_pty` fails: the `Starting` entry stays. -/
theorem failed_create_counted :
    ¬ ∀ (caps : Caps) (ttl : Nat) (evs : List Event) (s : Server) (rid : RequestId) (r : Request) (env : CreateEnv)
      (o : Out) (e : CreateApiError) (sid : SessionId),
      run (Server.step caps) (Server.init ttl) evs = some s → s.requests.lookup rid = some r →
      r.stage.session = some sid → resume caps s.sys env r.user r.stage = o → o.next = .ret (.error e) →
      ¬ ∃ entry, o.sys.store.runtimes.lookup sid = some entry ∧ Counted entry := by
  intro h
  exact h ⟨1, 10, 1⟩ 30 bridgeStartedRun _ 0 ⟨1, .promoting (.startGet 1 7 0)⟩ { manager := { ok := false } } _ _ 7
    rfl rfl rfl rfl rfl ⟨_, rfl, 1, .inl rfl⟩

end RelayTerm.Create
