import RelayTerm.Session.Create
/-!
# The requests of the create route

What each stage of a request can do, and what holds of the requests in every
interleaving with each other and with the rest of the manager: a request that
has created a session is the only one that works on it, and the registry holds
for that session what the request's stage expects, or nothing.
-/
open RelayTerm.Lib

namespace RelayTerm.Create

open Session

/-! ## The session of a request -/

/-- The session a request has created. -/
def Stage.session : Stage → Option SessionId
  | .creating t | .failing _ t | .promoting t => t.created
  | .bridging sid => some sid
  | _ => none

def Stage.isCreating : Stage → Bool
  | .creating _ => true
  | _ => false

/-- A stage holds tasks of its own manager call, for its own user. -/
def Stage.Formed (user : UserId) : Stage → Prop
  | .creating (.createInsert req) => req.ownerId = user
  | .creating (.createEvent _ session) => session.ownerId = user
  | .creating _ => False
  | .failing _ t => t.kind = .failed
  | .promoting t => t.kind = .start
  | _ => True

/-- What the registry holds for the session of a request, if anything. -/
def Stage.Expects (shape : Option (UserId × RuntimeSessionStatus × Bool)) : Stage → Prop
  | .creating _ => shape = none
  | .bridging _ | .promoting _ => ∀ x ∈ shape, x.2 = (.starting, false)
  | .failing _ _ => ∀ x ∈ shape, x.2 = (.ended, false)
  | _ => True

/-- The shape of the registry entry of a session. -/
def shapeOf (s : Sys) (sid : SessionId) : Option (UserId × RuntimeSessionStatus × Bool) :=
  (s.store.runtimes.lookup sid).map RuntimeEntry.shape

variable {caps : Caps} {s : Server} {sys sys' : Sys} {r : Request} {rid : RequestId} {env : CreateEnv}
  {stage stage' : Stage} {user : UserId} {o : Out}

theorem Stage.Expects.kept {sid : SessionId} (h : stage.Expects (shapeOf sys sid))
    (hk : ShapeKept sys.store.runtimes sys'.store.runtimes sid) : stage.Expects (shapeOf sys' sid) := by
  rcases hk with hnone | heq
  · have hnone' : shapeOf sys' sid = none := by rw [shapeOf, hnone]; rfl
    rw [hnone']
    cases stage <;> simp [Stage.Expects]
  · have heq' : shapeOf sys' sid = shapeOf sys sid := heq
    rwa [heq']

/-- Whatever the interleaving: the manager's pool holds no task of the create
route, the sessions of the requests are their own, and the registry holds for
them what their stage expects. -/
structure Server.Sound (s : Server) : Prop where
  pool : ∀ i t, s.sys.tasks.lookup i = some t → t.kind = .other
  formed : ∀ rid r, s.requests.lookup rid = some r → r.stage.Formed r.user
  alone : Registry.Exclusive (fun r : Request => r.stage.session) s.requests
  rows : ∀ rid r sid, s.requests.lookup rid = some r → r.stage.session = some sid →
    (s.sys.store.sessions.lookup sid).isSome
  expects : ∀ rid r sid, s.requests.lookup rid = some r → r.stage.session = some sid →
    r.stage.Expects (shapeOf s.sys sid)
  entries : ∀ sid, (s.sys.store.runtimes.lookup sid).isSome → (s.sys.store.sessions.lookup sid).isSome

theorem init_sound (ttl : Nat) : (Server.init ttl).Sound where
  pool := by simp [Server.init, Sys.init]
  formed := by simp [Server.init]
  alone := .empty
  rows := by simp [Server.init]
  expects := by simp [Server.init]
  entries := by simp [Server.init, Sys.init, Store.init]

/-- What a step does to the manager, the session `own` of the stepping request apart. -/
structure Drift (own : Option SessionId) (sys sys' : Sys) : Prop where
  pool : ∀ i t, sys'.tasks.lookup i = some t → t.kind = .other
  rows : ∀ sid, (sys.store.sessions.lookup sid).isSome → (sys'.store.sessions.lookup sid).isSome
  kept : ∀ sid, own ≠ some sid → ShapeKept sys.store.runtimes sys'.store.runtimes sid

/-- The requests stay sound while something else runs. -/
theorem Server.Sound.drift (hs : s.Sound) (hd : Drift none s.sys sys') : ({ s with sys := sys' } : Server).Sound where
  pool := hd.pool
  formed := hs.formed
  alone := hs.alone
  rows rid r sid hr hsid := hd.rows sid (hs.rows rid r sid hr hsid)
  expects rid r sid hr hsid := (hs.expects rid r sid hr hsid).kept (hd.kept sid (by simp))
  entries sid he := hd.rows sid (hs.entries sid ((hd.kept sid (by simp)).isSome he))

/-! ## A request goes on -/

/-- The stage a request rests at next: of its own call, and its session the one
it had, or a new row. -/
structure Advance (sys : Sys) (r : Request) (o : Out) (stage : Stage) : Prop where
  formed : stage.Formed r.user
  own : ∀ sid, stage.session = some sid →
    r.stage.session = some sid ∨ (sys.store.sessions.lookup sid = none ∧ (o.sys.store.sessions.lookup sid).isSome)
  expects : ∀ sid, stage.session = some sid → stage.Expects (shapeOf o.sys sid)

/-- A request of the new server is another one, or this one at its new stage. -/
theorem settle_request {i : RequestId} {q : Request} (h : (s.settle rid user o).requests.lookup i = some q) :
    (i ≠ rid ∧ s.requests.lookup i = some q) ∨ ∃ stage, o.next = .await stage ∧ q = ⟨user, stage⟩ := by
  unfold Server.settle at h
  cases hn : o.next with
  | await stage =>
    rw [hn] at h
    rcases Registry.lookup_insert_iff.1 h with ⟨-, rfl⟩ | hold
    · exact .inr ⟨stage, rfl, rfl⟩
    · exact .inl hold
  | ret reply =>
    rw [hn] at h
    exact .inl (Registry.lookup_erase_iff.1 h)

/-- A request keeps its session, or takes one nobody has. -/
theorem Server.Sound.settle_alone (hs : s.Sound) (hr : s.requests.lookup rid = some r)
    (hnext : ∀ stage, o.next = .await stage → Advance s.sys r o stage) :
    Registry.Exclusive (fun r : Request => r.stage.session) (s.settle rid r.user o).requests := by
  unfold Server.settle
  cases hn : o.next with
  | await stage =>
    apply hs.alone.insert
    intro sid hsid
    rcases (hnext stage hn).own sid hsid with hown | ⟨hnew, -⟩
    · exact .inl ⟨r, hr, hown⟩
    · right
      intro i q _ hq hsid'
      have hrow := hs.rows i q sid hq hsid'
      rw [hnew] at hrow
      cases hrow
  | ret reply => exact hs.alone.erase rid

theorem Server.Sound.settle (hs : s.Sound) (hr : s.requests.lookup rid = some r)
    (hd : Drift r.stage.session s.sys o.sys) (hnext : ∀ stage, o.next = .await stage → Advance s.sys r o stage) :
    (s.settle rid r.user o).Sound := by
  -- another request's session is not this one's
  have other : ∀ i q sid, i ≠ rid → s.requests.lookup i = some q → q.stage.session = some sid →
      r.stage.session ≠ some sid := by
    intro i q sid hi hq hsid hown
    exact hi (hs.alone i rid q r sid hq hr hsid hown)
  refine ⟨hd.pool, ?_, hs.settle_alone hr hnext, ?_, ?_, ?_⟩
  · intro i q hq
    rcases settle_request hq with ⟨-, hold⟩ | ⟨stage, hn, rfl⟩
    · exact hs.formed i q hold
    · exact (hnext stage hn).formed
  · intro i q sid hq hsid
    rcases settle_request hq with ⟨-, hold⟩ | ⟨stage, hn, rfl⟩
    · exact hd.rows sid (hs.rows i q sid hold hsid)
    · rcases (hnext stage hn).own sid hsid with hown | ⟨-, hrow⟩
      · exact hd.rows sid (hs.rows rid r sid hr hown)
      · exact hrow
  · intro i q sid hq hsid
    rcases settle_request hq with ⟨hi, hold⟩ | ⟨stage, hn, rfl⟩
    · exact (hs.expects i q sid hold hsid).kept (hd.kept sid (other i q sid hi hold hsid))
    · exact (hnext stage hn).expects sid hsid
  · intro sid he
    by_cases hown : r.stage.session = some sid
    · exact hd.rows sid (hs.rows rid r sid hr hown)
    · exact hd.rows sid (hs.entries sid ((hd.kept sid hown).isSome he))

/-! ### The manager's part of a step -/

theorem leave_task {o : Session.Out} {i : TaskId} {t : Task} (h : (sys.leave o).tasks.lookup i = some t) :
    o.spawned = some t ∨ sys.tasks.lookup i = some t := by
  obtain ⟨-, h⟩ := lookup_abortAll.1 h
  obtain ⟨store, next, spawned, aborted⟩ := o
  cases spawned with
  | none => exact .inr h
  | some u =>
    rcases Registry.lookup_insert_iff.1 h with ⟨-, rfl⟩ | ⟨-, hold⟩
    · exact .inl rfl
    · exact .inr hold

theorem spawned_kind {st : Store} {menv : Env} (fresh : TaskId) {t u : Task}
    (h : (st.resume menv fresh t).spawned = some u) : u.kind = .other := by
  rcases resume_spawned fresh h with ⟨_, _, _, _, rfl⟩ | ⟨_, _, _, rfl⟩ <;> rfl

/-- A stretch of the call the request is in. -/
theorem drift_resume (hpool : ∀ i t, sys.tasks.lookup i = some t → t.kind = .other) (menv : Env) (t : Task) :
    Drift t.created sys (sys.leave (sys.store.resume menv sys.nextTask t)) where
  pool i u hu := (leave_task hu).elim (spawned_kind _) (hpool i u)
  rows _ := resume_rows sys.nextTask t
  kept _ hsid := (resume_registry sys.store menv sys.nextTask t).shapeKept (.inr (.inr hsid))

theorem Drift.refl (hpool : ∀ i t, sys.tasks.lookup i = some t → t.kind = .other) (own : Option SessionId) :
    Drift own sys sys :=
  ⟨hpool, fun _ => id, fun _ _ => .inr rfl⟩

/-! ### The stages -/

theorem found_cases {α : Type} (sys : Sys) (ok : Bool) (row : Option α) (next : α → Out) :
    (∃ e, found sys ok row next = ⟨sys, .ret (.error e)⟩) ∨ ∃ x, found sys ok row next = next x := by
  unfold found
  split
  · split
    · exact .inl ⟨_, rfl⟩
    · exact .inr ⟨_, rfl⟩
  · exact .inl ⟨_, rfl⟩

/-- The stages before the known hosts. -/
def Stage.isLookup : Stage → Bool
  | .getProfile _ | .getHost _ _ | .getIdentity _ _ _ => true
  | _ => false

/-- A lookup of the route refuses or goes on; the manager is not touched. -/
theorem resume_lookup (caps : Caps) (sys : Sys) (env : CreateEnv) (user : UserId) (stage : Stage)
    (hl : stage.isLookup) :
    (∃ e, resume caps sys env user stage = ⟨sys, .ret (.error e)⟩) ∨
    ∃ stage', resume caps sys env user stage = ⟨sys, .await stage'⟩ ∧ stage'.session = none ∧
      stage'.isCreating = false ∧ stage'.Formed user := by
  cases stage with
  | getProfile body =>
    rcases found_cases sys env.manager.ok (env.profile.filter (·.ownerId = user)) _ with ⟨e, h⟩ | ⟨p, h⟩
    · exact .inl ⟨e, h⟩
    · simp only [resume, h]
      split
      · exact .inl ⟨_, rfl⟩
      · exact .inr ⟨_, rfl, rfl, rfl, trivial⟩
  | getHost body profile =>
    rcases found_cases sys env.manager.ok (env.host.filter (·.ownerId = user)) _ with ⟨e, h⟩ | ⟨x, h⟩
    · exact .inl ⟨e, h⟩
    · exact .inr ⟨_, h, rfl, rfl, trivial⟩
  | getIdentity body profile host =>
    rcases found_cases sys env.manager.ok (env.identity.filter (·.ownerId = user)) _ with ⟨e, h⟩ | ⟨x, h⟩
    · exact .inl ⟨e, h⟩
    · exact .inr ⟨_, h, rfl, rfl, trivial⟩
  | _ => cases hl

theorem checkQuotas_ok {st : Store} (h : checkQuotas caps st user = .ok ()) :
    st.countLivePtyForUser user < caps.maxLivePtyPerUser ∧ st.countStartingForUser user < caps.maxStartingPerUser := by
  unfold checkQuotas at h
  split at h
  · cases h
  · split at h
    · cases h
    · split at h
      · cases h
      · omega

/-- At the known hosts the route refuses, or finds both of the user's counts
below their caps and goes on to insert the row. -/
theorem resume_listForHost (caps : Caps) (sys : Sys) (env : CreateEnv) (user : UserId) (body : Body)
    (profile : LoadedProfile) (host : LoadedHost) :
    (∃ e, resume caps sys env user (.listForHost body profile host) = ⟨sys, .ret (.error e)⟩) ∨
    ∃ req, resume caps sys env user (.listForHost body profile host) = ⟨sys, .await (.creating (.createInsert req))⟩ ∧
      req.ownerId = user ∧ sys.store.countLivePtyForUser user < caps.maxLivePtyPerUser ∧
      sys.store.countStartingForUser user < caps.maxStartingPerUser := by
  simp only [resume]
  split
  · unfold listed
    split
    · exact .inl ⟨_, rfl⟩
    · split
      · exact .inl ⟨_, rfl⟩
      · next hadmit =>
        split
        · exact .inl ⟨_, rfl⟩
        · exact .inl ⟨_, rfl⟩
        · simp only [Store.enter, Store.createSessionEnter]
          split
          · exact .inl ⟨_, rfl⟩
          · exact .inl ⟨_, rfl⟩
          · exact .inr ⟨_, rfl, rfl, checkQuotas_ok hadmit⟩
  · exact .inl ⟨_, rfl⟩

/-- `create_session` inserts a row of the user's, under a new id. -/
theorem resume_createInsert (caps : Caps) (sys : Sys) (env : CreateEnv) (user : UserId)
    (req : CreateTerminalSessionRequest) :
    (∃ e, resume caps sys env user (.creating (.createInsert req)) = ⟨sys, .ret (.error e)⟩) ∨
    ∃ session sys', resume caps sys env user (.creating (.createInsert req)) =
        ⟨sys', .await (.creating (.createEvent env.manager.id session))⟩ ∧
      session.ownerId = req.ownerId ∧ sys.store.sessions.lookup env.manager.id = none ∧
      (sys'.store.sessions.lookup env.manager.id).isSome ∧ sys'.store.runtimes = sys.store.runtimes := by
  simp only [resume, Store.resume, Store.createInsert, Store.createSession]
  split
  · exact .inl ⟨_, rfl⟩
  · next st' session hc =>
    split at hc
    · cases hc
    · split at hc
      · cases hc
      · next hnew =>
        cases hc
        exact .inr ⟨_, _, rfl, rfl, Option.not_isSome_iff_eq_none.1 hnew, by simp [Sys.leave, Store.await], rfl⟩

/-- `create_session` registers a `Starting` entry of the row's owner. -/
theorem resume_createEvent (caps : Caps) (sys : Sys) (env : CreateEnv) (user : UserId) (sid : SessionId)
    (session : TerminalSession) :
    (∃ e, resume caps sys env user (.creating (.createEvent sid session)) = ⟨sys, .ret (.error e)⟩) ∨
    ∃ sys', resume caps sys env user (.creating (.createEvent sid session)) = ⟨sys', .await (.bridging sid)⟩ ∧
      sys'.store.runtimes = sys.store.runtimes.insert sid session.startingEntry := by
  simp only [resume, Store.resume, Store.createEventInsert]
  split
  · exact .inl ⟨_, rfl⟩
  · obtain rfl := Store.createEvent_ok ‹_›
    exact .inr ⟨_, rfl, rfl⟩

/-- A bridge that did not start empties the entry; one that did leaves the manager alone so far. -/
theorem resume_bridging (caps : Caps) (sys : Sys) (env : CreateEnv) (user : UserId) (sid : SessionId) :
    (∃ err category sys', resume caps sys env user (.bridging sid) =
        ⟨sys', .await (.failing err (.failedGet user sid category))⟩ ∧
      sys' = sys.leave (sys.store.recordPtyStartFailedEnter user sid category)) ∨
    ∃ pty, resume caps sys env user (.bridging sid) = ⟨sys, .await (.promoting (.startGet user sid pty))⟩ := by
  simp only [resume]
  split
  · exact .inl ⟨_, _, _, rfl, rfl⟩
  · exact .inr ⟨_, rfl⟩

theorem failedEnter_drift (hpool : ∀ i t, sys.tasks.lookup i = some t → t.kind = .other) (user : UserId)
    (sid : SessionId) (category : String) :
    Drift (some sid) sys (sys.leave (sys.store.recordPtyStartFailedEnter user sid category)) where
  pool i t ht := (leave_task ht).elim (fun h => by cases h) (hpool i t)
  rows _ := id
  kept k hk := by
    right
    have hne : k ≠ sid := fun h => hk (h ▸ rfl)
    show (Option.map _ ((sys.store.runtimes.modify sid _).lookup k)) = _
    rw [Registry.lookup_modify, if_neg hne]

theorem failedEnter_shape (sys : Sys) (user : UserId) (sid : SessionId) (category : String) :
    ∀ x ∈ shapeOf (sys.leave (sys.store.recordPtyStartFailedEnter user sid category)) sid, x.2 = (.ended, false) := by
  intro x hx
  have hx' : ((sys.store.runtimes.modify sid RuntimeEntry.emptied).lookup sid).map RuntimeEntry.shape = some x := hx
  rw [Registry.lookup_modify, if_pos rfl, Option.map_map] at hx'
  obtain ⟨e, -, rfl⟩ := Option.map_eq_some_iff.1 hx'
  rfl

theorem resume_drift (hpool : ∀ i t, sys.tasks.lookup i = some t → t.kind = .other) (caps : Caps) (env : CreateEnv)
    (user : UserId) (stage : Stage) : Drift stage.session sys (resume caps sys env user stage).sys := by
  by_cases hl : stage.isLookup
  · rcases resume_lookup caps sys env user stage hl with ⟨e, h⟩ | ⟨stage', h, -⟩ <;>
    · rw [h]
      exact .refl hpool _
  cases stage with
  | getProfile | getHost | getIdentity => exact absurd rfl hl
  | listForHost body profile host =>
    rcases resume_listForHost caps sys env user body profile host with ⟨e, h⟩ | ⟨req, h, -⟩ <;>
    · rw [h]
      exact .refl hpool _
  | creating t => exact drift_resume hpool env.manager t
  | bridging sid =>
    rcases resume_bridging caps sys env user sid with ⟨err, category, sys', h, hsys⟩ | ⟨pty, h⟩
    · rw [h, hsys]
      exact failedEnter_drift hpool user sid category
    · rw [h]
      exact .refl hpool _
  | failing err t => exact drift_resume hpool env.manager t
  | promoting t => exact drift_resume hpool env.manager t

/-- A stretch of a manager call that awaits again stays in that call. -/
theorem resume_await {st : Store} {menv : Env} (fresh : TaskId) {t t' : Task}
    (h : (st.resume menv fresh t).next = .await t') (hk : t.kind = .start ∨ t.kind = .failed) :
    t'.kind = t.kind ∧ t'.created = t.created :=
  ⟨(resume_edge fresh h).kind, (resume_edge fresh h).created_eq hk⟩

theorem afterFailing_await {err : CreateApiError} {mo : Session.Out}
    (h : (afterFailing sys err mo).next = .await stage) :
    ∃ t, mo.next = .await t ∧ stage = .failing err t := by
  unfold afterFailing at h
  cases hn : mo.next with
  | await t =>
    simp only [hn] at h
    cases h
    exact ⟨t, rfl, rfl⟩
  | ret reply =>
    simp only [hn] at h
    cases h

theorem afterPromoting_await {mo : Session.Out} (h : (afterPromoting sys mo).next = .await stage) :
    ∃ t, mo.next = .await t ∧ stage = .promoting t := by
  unfold afterPromoting at h
  cases hn : mo.next with
  | await t =>
    simp only [hn] at h
    cases h
    exact ⟨t, rfl, rfl⟩
  | ret reply =>
    simp only [hn] at h
    cases reply <;> cases h

section Advance

variable (hs : s.Sound) (caps : Caps) (env : CreateEnv) (user : UserId)

theorem lookup_advance {now : Stage} (hl : now.isLookup)
    (hnext : (resume caps s.sys env user now).next = .await stage) :
    Advance s.sys ⟨user, now⟩ (resume caps s.sys env user now) stage := by
  rcases resume_lookup caps s.sys env user now hl with ⟨e, h⟩ | ⟨stage', h, hnone, -, hf⟩ <;>
    rw [h] at hnext ⊢ <;> cases hnext
  refine ⟨hf, fun sid hsid => ?_, fun sid hsid => ?_⟩ <;> cases hnone.symm.trans hsid

theorem listForHost_advance {body : Body} {profile : LoadedProfile} {host : LoadedHost}
    (hnext : (resume caps s.sys env user (.listForHost body profile host)).next = .await stage) :
    Advance s.sys ⟨user, .listForHost body profile host⟩ (resume caps s.sys env user (.listForHost body profile host))
      stage := by
  rcases resume_listForHost caps s.sys env user body profile host with ⟨e, h⟩ | ⟨req, h, howner, -⟩ <;>
    rw [h] at hnext ⊢ <;> cases hnext
  refine ⟨howner, fun sid hsid => ?_, fun sid hsid => ?_⟩ <;> cases hsid

include hs in
theorem createInsert_advance {req : CreateTerminalSessionRequest} (hown : req.ownerId = user)
    (hnext : (resume caps s.sys env user (.creating (.createInsert req))).next = .await stage) :
    Advance s.sys ⟨user, .creating (.createInsert req)⟩ (resume caps s.sys env user (.creating (.createInsert req)))
      stage := by
  rcases resume_createInsert caps s.sys env user req with ⟨e, h⟩ | ⟨session, sys', h, howner, hnew, hrow, hrt⟩ <;>
    rw [h] at hnext ⊢ <;> cases hnext
  -- an id without a row has no entry either
  have hentry : s.sys.store.runtimes.lookup env.manager.id = none := by
    by_contra hne
    have := hs.entries env.manager.id (Option.isSome_iff_ne_none.2 hne)
    rw [hnew] at this
    cases this
  refine ⟨howner.trans hown, fun sid hsid => ?_, fun sid hsid => ?_⟩ <;> cases hsid
  · exact .inr ⟨hnew, hrow⟩
  · show Option.map _ (sys'.store.runtimes.lookup env.manager.id) = none
    rw [hrt, hentry]
    rfl

theorem createEvent_advance {sid : SessionId} {session : TerminalSession}
    (hnext : (resume caps s.sys env user (.creating (.createEvent sid session))).next = .await stage) :
    Advance s.sys ⟨user, .creating (.createEvent sid session)⟩
      (resume caps s.sys env user (.creating (.createEvent sid session))) stage := by
  rcases resume_createEvent caps s.sys env user sid session with ⟨e, h⟩ | ⟨sys', h, hrt⟩ <;>
    rw [h] at hnext ⊢ <;> cases hnext
  refine ⟨trivial, fun k hk => .inl hk, fun k hk => ?_⟩
  cases hk
  intro x hx
  have hx' : ((s.sys.store.runtimes.insert sid session.startingEntry).lookup sid).map RuntimeEntry.shape = some x :=
    hrt ▸ hx
  rw [AList.lookup_insert] at hx'
  cases hx'
  rfl

theorem bridging_advance {sid : SessionId}
    (hexpects : Stage.Expects (shapeOf s.sys sid) (.bridging sid))
    (hnext : (resume caps s.sys env user (.bridging sid)).next = .await stage) :
    Advance s.sys ⟨user, .bridging sid⟩ (resume caps s.sys env user (.bridging sid)) stage := by
  rcases resume_bridging caps s.sys env user sid with ⟨err, category, sys', h, hsys⟩ | ⟨pty, h⟩ <;>
    rw [h] at hnext ⊢ <;> cases hnext <;> refine ⟨rfl, fun k hk => .inl hk, fun k hk => ?_⟩ <;> cases hk
  · subst hsys
    exact failedEnter_shape s.sys user sid category
  · exact hexpects

theorem failing_advance {err : CreateApiError} {t : Task} (hkind : t.kind = .failed)
    (hexpects : ∀ sid, t.created = some sid → Stage.Expects (shapeOf s.sys sid) (.failing err t))
    (hnext : (resume caps s.sys env user (.failing err t)).next = .await stage) :
    Advance s.sys ⟨user, .failing err t⟩ (resume caps s.sys env user (.failing err t)) stage := by
  obtain ⟨t', ht', rfl⟩ := afterFailing_await hnext
  obtain ⟨hkind', hcreated⟩ := resume_await _ ht' (.inr hkind)
  refine ⟨hkind'.trans hkind, fun k hk => .inl (hcreated.symm.trans hk), fun k hk => ?_⟩
  have hex : Stage.Expects (shapeOf s.sys k) (.failing err t') := hexpects k (hcreated.symm.trans hk)
  exact hex.kept ((resume_registry s.sys.store env.manager s.sys.nextTask t).shapeKept (.inr (.inl hkind)))

theorem promoting_advance {t : Task} (hkind : t.kind = .start)
    (hexpects : ∀ sid, t.created = some sid → Stage.Expects (shapeOf s.sys sid) (.promoting t))
    (hnext : (resume caps s.sys env user (.promoting t)).next = .await stage) :
    Advance s.sys ⟨user, .promoting t⟩ (resume caps s.sys env user (.promoting t)) stage := by
  obtain ⟨t', ht', rfl⟩ := afterPromoting_await hnext
  obtain ⟨hkind', hcreated⟩ := resume_await _ ht' (.inl hkind)
  refine ⟨hkind'.trans hkind, fun k hk => .inl (hcreated.symm.trans hk), fun k hk => ?_⟩
  have hex : Stage.Expects (shapeOf s.sys k) (.promoting t') := hexpects k (hcreated.symm.trans hk)
  rcases resume_started s.sys.nextTask hkind with ⟨session, hret⟩ | hsame
  · rw [ht'] at hret
    cases hret
  · exact hex.kept (.inr (congrArg (fun x => Option.map RuntimeEntry.shape (AList.lookup k x)) hsame))

include hs in
theorem Server.Sound.advance (hr : s.requests.lookup rid = some r)
    (hnext : (resume caps s.sys env r.user r.stage).next = .await stage) :
    Advance s.sys r (resume caps s.sys env r.user r.stage) stage := by
  have hformed := hs.formed rid r hr
  have hexpects : ∀ sid, r.stage.session = some sid → r.stage.Expects (shapeOf s.sys sid) :=
    fun sid => hs.expects rid r sid hr
  obtain ⟨owner, now⟩ := r
  cases now with
  | getProfile | getHost | getIdentity => exact lookup_advance caps env owner rfl hnext
  | listForHost => exact listForHost_advance caps env owner hnext
  | creating t =>
    cases t with
    | createInsert req => exact createInsert_advance hs caps env owner hformed hnext
    | createEvent sid session => exact createEvent_advance caps env owner hnext
    | _ => exact hformed.elim
  | bridging sid => exact bridging_advance caps env owner (hexpects sid rfl) hnext
  | failing err t => exact failing_advance caps env owner hformed hexpects hnext
  | promoting t => exact promoting_advance caps env owner hformed hexpects hnext

end Advance

/-! ### Every run -/

theorem client_enter (st : Store) (c : ClientCall) :
    (st.enter c.call).store = st ∧ ∀ t, (st.enter c.call).next = .await t → t.kind = .other := by
  cases c <;> grind [ClientCall.call, Task.kind]

theorem client_drift (hpool : ∀ i t, sys.tasks.lookup i = some t → t.kind = .other) (c : ClientCall)
    (h : sys.step (.call c.call) = some sys') : Drift none sys sys' := by
  cases h
  obtain ⟨hstore, hkind⟩ := client_enter sys.store c
  have hst : ∀ tid fresh, (sys.settle tid fresh (sys.store.enter c.call)).store = sys.store := fun _ _ => hstore
  refine ⟨fun i t ht => ?_, fun sid hsid => ?_, fun sid _ => ?_⟩
  · rcases entered_task ht with ⟨-, hn⟩ | ⟨-, hold⟩
    · exact hkind t hn
    · exact hpool i t hold
  · rw [hst]
    exact hsid
  · rw [hst]
    exact .inr rfl

theorem task_drift (hpool : ∀ i t, sys.tasks.lookup i = some t → t.kind = .other) {tid : TaskId} {menv : Env}
    (h : sys.step (.resume tid menv) = some sys') : Drift none sys sys' := by
  obtain ⟨u, hu, rfl⟩ := step_resume h
  refine ⟨fun i t ht => ?_, fun sid => resume_rows sys.nextTask u, fun sid _ => ?_⟩
  · obtain ⟨-, ⟨-, hsp⟩ | ⟨-, hn⟩ | ⟨-, hold⟩⟩ := settle_task ht
    · exact spawned_kind _ hsp
    · exact (resume_edge _ hn).kind.trans (hpool tid u hu)
    · exact hpool i t hold
  · exact (resume_registry sys.store menv sys.nextTask u).shapeKept (.inl (hpool tid u hu))

theorem Server.Sound.newRequest (hs : s.Sound) (user : UserId) (body : Body) (n : RequestId) :
    ({ s with
      requests := s.requests.insert s.nextRequest ⟨user, .getProfile body⟩, nextRequest := n } : Server).Sound := by
  have member : ∀ i q sid, (s.requests.insert s.nextRequest ⟨user, .getProfile body⟩).lookup i = some q →
      q.stage.session = some sid → s.requests.lookup i = some q := by
    intro i q sid hq hsid
    rcases Registry.lookup_insert_iff.1 hq with ⟨-, rfl⟩ | ⟨-, hold⟩
    · cases hsid
    · exact hold
  refine ⟨hs.pool, fun i q hq => ?_, hs.alone.insert fun sid hsid => (by cases hsid), ?_, ?_, hs.entries⟩
  · rcases Registry.lookup_insert_iff.1 hq with ⟨-, rfl⟩ | ⟨-, hold⟩
    · trivial
    · exact hs.formed i q hold
  · intro i q sid hq hsid
    exact hs.rows i q sid (member i q sid hq hsid) hsid
  · intro i q sid hq hsid
    exact hs.expects i q sid (member i q sid hq hsid) hsid

theorem step_sound {s s' : Server} {e : Event} (hs : s.Sound) (h : s.step caps e = some s') : s'.Sound := by
  cases e with
  | create user body =>
    cases h
    exact hs.newRequest user body _
  | resume rid env =>
    obtain ⟨r, hr, rfl⟩ := Option.map_eq_some_iff.1 h
    exact hs.settle hr (resume_drift hs.pool caps env r.user r.stage) fun stage hn => hs.advance caps env hr hn
  | client c =>
    simp only [Server.step, Option.map_eq_some_iff] at h
    obtain ⟨sys', hsys, rfl⟩ := h
    exact hs.drift (client_drift hs.pool c hsys)
  | task tid menv =>
    obtain ⟨sys', hsys, rfl⟩ := Option.map_eq_some_iff.1 h
    exact hs.drift (task_drift hs.pool hsys)

theorem run_sound {ttl : Nat} {evs : List Event} (h : run (Server.step caps) (Server.init ttl) evs = some s) :
    s.Sound :=
  run_inv _ (fun _ _ _ hs h => step_sound hs h) h (init_sound ttl)

end RelayTerm.Create
