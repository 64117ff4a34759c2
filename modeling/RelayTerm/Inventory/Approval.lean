import RelayTerm.Inventory.History
import RelayTerm.Inventory.Tenants
import RelayTerm.Ssh.Trust
/-!
# Who trusts a host key

A pinned key goes back to a request of the host's owner that named its fingerprint
and to the probe of that request, in which a server presented it. The route resolves
profile, host and identity in separate awaits, then lists, probes and writes in
others, so the tasks in between carry what has been established so far. Task ids are
given once, so they say which request an await belongs to.
-/
open RelayTerm.Lib

namespace RelayTerm.Inventory

open HostKey (CapturedHostKey KnownHostEntry Route)

variable {s s' : Sys} {sv : Server} {tb tb' : Tables} {pins : HostKey.Sys} {tid : TaskId} {t : Task} {o : Out}
  {env : Env} {past : List Event} {user : UserId} {host : HostId} {route : Route} {key : CapturedHostKey}

/-! ## What is established -/

/-- The request asks for the key with this fingerprint to be trusted. -/
def Request.names (fingerprint : String) : Request → Prop
  | .trustHostKey _ body => body.expectedFingerprint = fingerprint
  | .replaceHostKey _ body => body.expectedNewFingerprint = fingerprint
  | _ => False

/-- The request of the user became task `tid`. -/
def Asked (past : List Event) (tid : TaskId) (user : UserId) (r : Request) : Prop :=
  ∃ s, Happened Sys.step .init past s (.request user r) ∧ s.nextTask = tid

/-- Task `tid` of the user got to the pins of the host and became task `pin` there. -/
def Routed (past : List Event) (tid : TaskId) (pin : HostKey.TaskId) (user : UserId) (route : Route) (host : HostId) :
    Prop :=
  ∃ s env profile, Happened Sys.step .init past s (.resume tid env) ∧
    s.tasks.lookup tid = some (.resolveIdentity user profile route) ∧ profile.hostId = host ∧ s.pins.nextTask = pin

/-- A server presented the key to the probe that task `pin` made of the host. -/
def Probed (past : List Event) (pin : HostKey.TaskId) (route : Route) (host : HostId) (key : CapturedHostKey) : Prop :=
  ∃ s env known, Happened Sys.step .init past s (.pin pin env) ∧
    s.pins.tasks.lookup pin = some (.probe route host known) ∧ env.captured = key

/-- The user has asked, as task `tid`, for what the route is about to do. -/
def AskedBy (past : List Event) (tid : TaskId) (user : UserId) : Route → Prop
  | .preflight => True
  | .trust expected => ∃ r, Asked past tid user r ∧ r.names expected
  | .replace _ req => ∃ r, Asked past tid user r ∧ r.names req.expectedNewFingerprint

/-- The host's owner has asked for what task `pin` is about to do. -/
def OwnerAsked (past : List Event) (pin : HostKey.TaskId) (tb : Tables) (host : HostId) (route : Route) : Prop :=
  ∃ user tid, AskedBy past tid user route ∧ tb.hosts.Was Host.ownerId host user ∧ Routed past tid pin user route host

/-- The host's owner has named the key in a request, and a server has presented it to
the probe that this request made of the host. -/
def Approved (past : List Event) (tb : Tables) (host : HostId) (key : CapturedHostKey) : Prop :=
  ∃ user r tid pin route, Asked past tid user r ∧ r.names key.fingerprintSha256 ∧ tb.hosts.Was Host.ownerId host user ∧
    Routed past tid pin user route host ∧ Probed past pin route host key

/-- A task of a host-key route before it is handed to the pins. -/
def Task.Resolves (past : List Event) (tid : TaskId) (tb : Tables) : Task → Prop
  | .resolveProfile user _ route | .resolveHost user _ route => AskedBy past tid user route
  | .resolveIdentity user profile route => AskedBy past tid user route ∧ tb.hosts.Was Host.ownerId profile.hostId user
  | _ => True

/-- A task of the pins. The repository's plain `create` is behind no route. -/
def Pinning (past : List Event) (pin : HostKey.TaskId) (tb : Tables) : HostKey.Task → Prop
  | .resolve _ | .create _ => False
  | .list route host | .probe route host _ => OwnerAsked past pin tb host route
  | .recordTrusted input => Approved past tb input.hostId ⟨input.keyType, input.fingerprintSha256, input.publicKey⟩
  | .replaceBegin input | .replaceLock input _ | .replaceCheck input _ _ | .replaceInsert input _ _ =>
    Approved past tb input.hostId input.captured
  | .replaceUpdate input _ _ _ | .replaceAuditRevoked input _ _ _ | .replaceAuditAccepted input _ _ _
  | .replaceCommit input _ _ _ => Approved past tb input.hostId input.captured

def pinned (e : KnownHostEntry) : CapturedHostKey := ⟨e.keyType, e.fingerprintSha256, e.publicKey⟩

structure Sys.Approving (past : List Event) (s : Sys) : Prop where
  tasks : ∀ i t, s.tasks.lookup i = some t → t.Resolves past i s.server.tables
  pins : ∀ i t, s.pins.tasks.lookup i = some t → Pinning past i s.server.tables t
  rows : ∀ e ∈ s.pins.db.rows, e.trustedAt.isSome = true ∧ Approved past s.server.tables e.hostId (pinned e)

/-! ## What was established stays so -/

/-- More has happened, and owners have stayed. -/
structure Onward (past : List Event) (tb : Tables) (past' : List Event) (tb' : Tables) : Prop where
  events : past <+: past'
  hosts : Table.Later Host.ownerId tb.hosts tb'.hosts

variable {past' : List Event} {pin : HostKey.TaskId}

theorem Asked.more {r : Request} (h : Asked past tid user r) (hmore : past <+: past') : Asked past' tid user r := by
  obtain ⟨s, hreq, htid⟩ := h
  exact ⟨s, hreq.more hmore, htid⟩

theorem Routed.more (h : Routed past tid pin user route host) (hmore : past <+: past') :
    Routed past' tid pin user route host := by
  obtain ⟨s, env, profile, hev, hrest⟩ := h
  exact ⟨s, env, profile, hev.more hmore, hrest⟩

theorem Probed.more (h : Probed past pin route host key) (hmore : past <+: past') :
    Probed past' pin route host key := by
  obtain ⟨s, env, known, hev, hrest⟩ := h
  exact ⟨s, env, known, hev.more hmore, hrest⟩

theorem AskedBy.more (h : AskedBy past tid user route) (hmore : past <+: past') : AskedBy past' tid user route := by
  cases route with
  | preflight => trivial
  | trust expected =>
    obtain ⟨r, hr, hnames⟩ := h
    exact ⟨r, hr.more hmore, hnames⟩
  | replace actor req =>
    obtain ⟨r, hr, hnames⟩ := h
    exact ⟨r, hr.more hmore, hnames⟩

theorem OwnerAsked.onward (h : OwnerAsked past pin tb host route) (ho : Onward past tb past' tb') :
    OwnerAsked past' pin tb' host route := by
  obtain ⟨user, tid, hasked, howner, hrouted⟩ := h
  exact ⟨user, tid, hasked.more ho.events, howner.later ho.hosts, hrouted.more ho.events⟩

theorem Approved.onward (h : Approved past tb host key) (ho : Onward past tb past' tb') :
    Approved past' tb' host key := by
  obtain ⟨user, r, tid, pin, route, hr, hnames, howner, hrouted, hprobed⟩ := h
  exact ⟨user, r, tid, pin, route, hr.more ho.events, hnames, howner.later ho.hosts, hrouted.more ho.events,
    hprobed.more ho.events⟩

theorem Task.Resolves.onward (h : t.Resolves past tid tb) (ho : Onward past tb past' tb') :
    t.Resolves past' tid tb' := by
  cases t with
  | resolveProfile user id route | resolveHost user profile route => exact AskedBy.more h ho.events
  | resolveIdentity user profile route => exact ⟨AskedBy.more h.1 ho.events, h.2.later ho.hosts⟩
  | _ => trivial

theorem Pinning.onward {t : HostKey.Task} (h : Pinning past pin tb t) (ho : Onward past tb past' tb') :
    Pinning past' pin tb' t := by
  cases t with
  | resolve | create => exact h.elim
  | list | probe => exact OwnerAsked.onward h ho
  | _ => exact Approved.onward h ho

theorem Sys.Approving.onward (h : s.Approving past) (ho : Onward past s.server.tables past' s.server.tables) :
    s.Approving past' :=
  ⟨fun i t ht => (h.tasks i t ht).onward ho, fun i t ht => (h.pins i t ht).onward ho,
    fun e he => ⟨(h.rows e he).1, (h.rows e he).2.onward ho⟩⟩

theorem Onward.snoc (past : List Event) (tb : Tables) (ev : Event) : Onward past tb (past ++ [ev]) tb :=
  ⟨List.prefix_append _ _, .refl _ _⟩

/-! ## The inventory's part -/

theorem Effect.hosts_later (h : Effect sv pins t o) :
    Table.Later Host.ownerId sv.tables.hosts o.server.tables.hosts := by
  cases h with
  | quiet => exact .refl _ _
  | moved _ _ _ hmoves => exact hmoves.hosts
  | created _ _ _ hhosts => exact hhosts ▸ .refl _ _
  | updated _ _ _ _ _ _ hhosts => exact hhosts ▸ .refl _ _
  | hostDeleted _ _ _ hmoves => exact hmoves.hosts

/-- What a route has resolved goes from task to task, and to the pins. -/
structure RouteEffect (sv : Server) (past : List Event) (tid : TaskId) (t : Task) (o : Out) : Prop where
  next : o.next.Sat (Task.Resolves past tid sv.tables)
  pins : ∀ route host, o.next = .pins route host → ∃ user profile, t = .resolveIdentity user profile route ∧
    profile.hostId = host ∧ AskedBy past tid user route ∧ sv.tables.hosts.Was Host.ownerId host user

theorem RouteEffect.ret {server : Server} {r : Reply} {cascade : Option HostId} :
    RouteEffect sv past tid t ⟨server, .ret r, cascade⟩ :=
  ⟨Next.sat_ret _ _, fun _ _ h => by cases h⟩

theorem RouteEffect.await {server : Server} {t' : Task} {cascade : Option HostId}
    (h : t'.Resolves past tid sv.tables) : RouteEffect sv past tid t ⟨server, .await t', cascade⟩ :=
  ⟨Next.sat_await h, fun _ _ h => by cases h⟩

theorem found_routes {α : Type} {row? : Option α} {entity : String} {next : α → Out}
    (h : ∀ row, row? = some row → RouteEffect sv past tid t (next row)) :
    RouteEffect sv past tid t (sv.found row? entity next) := by
  unfold Server.found
  split
  · exact .ret
  · exact h _ rfl

theorem wrote_routes {result : Except RepositoryError Tables} {next : Tables → Next}
    (h : ∀ tables, ∃ r, next tables = .ret r) : RouteEffect sv past tid t (sv.wrote result next) := by
  unfold Server.wrote
  split
  · next tables =>
    obtain ⟨r, hr⟩ := h tables
    rw [hr]
    exact .ret
  · exact .ret

theorem wroteProfile_routes {id : ServerProfileId} {kind : LifecycleKind}
    {result : Except RepositoryError (ServerProfile × Tables)} :
    RouteEffect sv past tid t (sv.wroteProfile user id kind result) := by
  unfold Server.wroteProfile
  split
  · exact .await trivial
  · exact .ret

theorem checkNewIdentity_resolves (user : UserId) (id : ServerProfileId) (input : UpdateServerProfile) :
    (Server.checkNewIdentity user id input).Resolves past tid tb := by
  unfold Server.checkNewIdentity
  split <;> trivial

theorem perform_routes (sv : Server) (env : Env) (pins : HostKey.Sys) (ht : t.Resolves past tid sv.tables) :
    RouteEffect sv past tid t (sv.perform env pins t) := by
  cases t with
  | hostCreate input => exact .ret
  | hostUpdate user id input =>
    refine wrote_routes fun tables => ?_
    unfold Server.hostUpdated
    split <;> exact ⟨_, rfl⟩
  | hostDeleteCheck user id =>
    simp only [Server.perform, Server.hostChecked]
    split
    · exact .ret
    · exact .await trivial
  | hostDelete user id =>
    simp only [Server.perform, Server.hostDeleted]
    split <;> exact .ret
  | identityCreate input source =>
    simp only [Server.perform, Server.identityCreated]
    split
    · exact .await trivial
    · exact .ret
  | identityRename user id name =>
    refine wrote_routes fun tables => ?_
    unfold Server.identityRenamed
    split <;> exact ⟨_, rfl⟩
  | identityDeleteCheck user id row =>
    simp only [Server.perform, Server.identityChecked]
    split
    · exact .ret
    · exact .await trivial
  | identityDelete | profileDelete => exact wrote_routes fun _ => ⟨_, rfl⟩
  | profileCreate input =>
    simp only [Server.perform, Server.profileCreated]
    split
    · exact .await trivial
    · exact .ret
  | profileUpdateGet user id input =>
    refine found_routes fun _ _ => .await ?_
    unfold Server.checkNewHost
    split
    · trivial
    · exact checkNewIdentity_resolves user id input
  | profileUpdateHost user id input => exact found_routes fun _ _ => .await (checkNewIdentity_resolves user id input)
  | profileUpdate | profileSwitch => exact wroteProfile_routes
  | profileDeleteCheck user id row =>
    simp only [Server.perform, Server.profileChecked]
    split
    · exact .ret
    · exact .await trivial
  | profileSwitchGet user id kind =>
    refine found_routes fun row _ => ?_
    unfold Server.switchFound
    split
    · exact .ret
    · exact .await trivial
  | audit event after =>
    cases after with
    | reply r => exact .ret
    | deleteIdentity user id | deleteProfile user id => exact .await trivial
  | resolveProfile user id route => exact found_routes fun _ _ => .await ht
  | resolveHost user profile route =>
    refine found_routes fun row hown => .await ⟨ht, ?_⟩
    obtain ⟨hrow, rfl⟩ := owned_iff.1 hown
    exact .of_lookup hrow
  | resolveIdentity user profile route =>
    refine found_routes fun _ _ => ?_
    unfold Server.resolved
    split
    · exact .ret
    · split
      · exact .ret
      · exact .ret
      · refine ⟨fun _ h => (by cases h), fun route' host h => ?_⟩
        cases h
        exact ⟨user, profile, rfl, rfl, ht⟩
  | hostUpdateGet | hostDeleteGet | identityRenameGet | identityDeleteGet | profileCreateHost | profileCreateIdentity
  | profileUpdateIdentity | profileDeleteGet => exact found_routes fun _ _ => .await trivial

theorem validateFingerprint_ok {value field checked : String}
    (h : HostKey.validateFingerprint value field = .ok checked) : value = checked := by
  unfold HostKey.validateFingerprint at h
  split at h
  · cases h
  split at h
  · cases h
  split at h
  · cases h
  cases h
  rfl

theorem replace_validated {body : HostKey.ReplaceHostKeyRequest} {req : HostKey.ReplaceHostKeyValidatedRequest}
    (h : body.validated = .ok req) : body.expectedNewFingerprint = req.expectedNewFingerprint := by
  unfold HostKey.ReplaceHostKeyRequest.validated at h
  cases hold : HostKey.validateFingerprint body.expectedOldFingerprint "expected_old_fingerprint" with
  | error err =>
    rw [hold] at h
    cases h
  | ok old =>
    cases hnew : HostKey.validateFingerprint body.expectedNewFingerprint "expected_new_fingerprint" with
    | error err =>
      rw [hold, hnew] at h
      cases h
    | ok new =>
      rw [hold, hnew] at h
      simp only [bind, Except.bind] at h
      split at h
      · cases h
        exact validateFingerprint_ok hnew
      · cases h

theorem enter_resolves (user : UserId) (r : Request) (hr : Asked past tid user r) :
    (r.enter user).Sat (Task.Resolves past tid tb) := by
  cases r with
  | hostKeyPreflight => exact Next.sat_await trivial
  | trustHostKey id body =>
    simp only [Request.enter]
    split
    · next expected hexpected => exact Next.sat_await ⟨_, hr, validateFingerprint_ok hexpected⟩
    · exact Next.sat_ret _ _
  | replaceHostKey id body =>
    simp only [Request.enter]
    split
    · next req hreq => exact Next.sat_await ⟨_, hr, replace_validated hreq⟩
    · exact Next.sat_ret _ _
  | _ => exact Next.sat_await trivial

/-! ## The pins' part -/

section Pins

variable {db : HostKey.Db} {henv : HostKey.Env} {others : Registry HostKey.TaskId HostKey.Task} {ht : HostKey.Task}
  {ho : HostKey.Out} {known : List KnownHostEntry}

/-- The probe has shown the key the route was to trust. -/
theorem probed_pinning (h : OwnerAsked past pin tb host route) (hnow : Probed past pin route host henv.captured)
    (hnext : (db.probed henv host known route).next = .await ht) : Pinning past pin tb ht := by
  obtain ⟨user, tid, hasked, howner, hrouted⟩ := h
  cases route with
  | preflight => cases hnext
  | trust expected =>
    simp only [HostKey.Db.probed] at hnext
    split at hnext
    · next input hchecks =>
      unfold HostKey.trustChecks at hchecks
      split at hchecks
      · cases hchecks
      split at hchecks
      · cases hchecks
      next hmatch _ =>
      cases hchecks
      cases hnext
      obtain ⟨r, hr, hnames⟩ := hasked
      have hsame : henv.captured.fingerprintSha256 = expected := by
        by_contra hne
        exact hmatch (.inr hne)
      exact ⟨user, r, tid, pin, _, hr, hsame ▸ hnames, howner, hrouted, hnow⟩
    · cases hnext
  | replace actor req =>
    simp only [HostKey.Db.probed] at hnext
    split at hnext
    · next input hchecks =>
      unfold HostKey.replaceChecks at hchecks
      split at hchecks
      · cases hchecks
      split at hchecks
      · cases hchecks
      split at hchecks
      · cases hchecks
      next _ hmatch _ =>
      cases hchecks
      cases hnext
      obtain ⟨r, hr, hnames⟩ := hasked
      exact ⟨user, r, tid, pin, _, hr, not_not.1 hmatch ▸ hnames, howner, hrouted, hnow⟩
    · cases hnext

theorem resume_pinning (hpin : Pinning past pin tb ht)
    (hnow : ∀ route host known, ht = .probe route host known → Probed past pin route host henv.captured)
    (h : db.resume henv others ht = some ho) {next : HostKey.Task} (hnext : ho.next = .await next) :
    Pinning past pin tb next := by
  unfold HostKey.Db.resume at h
  split_ifs at h
  · cases h
    cases hnext
  cases ht with
  | resolve | create => exact hpin.elim
  | list route host =>
    cases h
    cases hnext
    exact hpin
  | probe route host known =>
    cases h
    exact probed_pinning hpin (hnow route host known rfl) hnext
  | recordTrusted input =>
    cases h
    simp only [HostKey.Db.runRecordTrusted] at hnext
    split at hnext <;> cases hnext
  | replaceLock input now =>
    simp only [HostKey.Db.perform, HostKey.Db.runLock] at h
    split at h
    · split at h <;> cases h
      cases hnext
      exact hpin
    · cases h
      cases hnext
  | replaceCheck input now old =>
    cases h
    simp only [HostKey.Db.runCheck] at hnext
    split at hnext <;> cases hnext
    exact hpin
  | replaceInsert input now old =>
    cases h
    simp only [HostKey.Db.runInsert] at hnext
    split at hnext <;> cases hnext
    exact hpin
  | replaceUpdate input now old new =>
    cases h
    simp only [HostKey.Db.runUpdate] at hnext
    split at hnext <;> cases hnext
    exact hpin
  | replaceCommit input now old new =>
    cases h
    cases hnext
  | replaceBegin | replaceAuditRevoked | replaceAuditAccepted =>
    cases h
    cases hnext
    exact hpin

/-- What a statement writes was approved. -/
theorem resume_approved (hpin : Pinning past pin tb ht)
    (hrows : ∀ e ∈ db.rows, e.trustedAt.isSome = true ∧ Approved past tb e.hostId (pinned e))
    (h : db.resume henv others ht = some ho) :
    ∀ e ∈ ho.db.rows, e.trustedAt.isSome = true ∧ Approved past tb e.hostId (pinned e) := by
  cases HostKey.resume_effect h with
  | quiet | inserted => exact hrows
  | created => exact hpin.elim
  | recorded input now =>
    intro e he
    rcases List.mem_append.1 he with hold | hnew
    · exact hrows e hold
    · cases List.mem_singleton.1 hnew
      exact ⟨rfl, hpin⟩
  | stamped input now =>
    intro e he
    obtain ⟨old, hold, rfl⟩ := List.mem_map.1 he
    split
    · exact ⟨rfl, (hrows old hold).2⟩
    · exact hrows old hold
  | committed input now old new =>
    intro e he
    rcases List.mem_append.1 he with hold | hnew
    · obtain ⟨row, hrow, rfl⟩ := List.mem_map.1 hold
      split
      · exact hrows row hrow
      · exact hrows row hrow
    · cases List.mem_singleton.1 hnew
      exact ⟨rfl, hpin⟩

end Pins

/-! ## Whole runs -/

theorem init_approving : Sys.init.Approving [] := by
  refine ⟨fun i t ht => ?_, fun i t ht => ?_, fun e he => ?_⟩
  · cases ht
  · cases ht
  · cases he

/-- A step of a request: its task goes on, rows may go, and a route may reach the pins. -/
theorem Sys.Approving.settle (h : s.Approving past)
    (hhosts : Table.Later Host.ownerId s.server.tables.hosts o.server.tables.hosts)
    (hroutes : RouteEffect s.server past tid t o)
    (hrouted : ∀ user profile route, t = .resolveIdentity user profile route →
      Routed past tid s.pins.nextTask user route profile.hostId) : (s.settle tid o).Approving past := by
  have honward : Onward past s.server.tables past o.server.tables := ⟨List.prefix_rfl, hhosts⟩
  refine ⟨fun i t' ht' => ?_, fun i t' ht' => ?_, fun e he => ?_⟩
  · rcases settle_lookup.1 ht' with ⟨rfl, hnext⟩ | ⟨-, hold⟩
    · exact (hroutes.next t' hnext).onward honward
    · exact (h.tasks i t' hold).onward honward
  · have hpins : (∃ route host, o.next = .pins route host ∧ t' = .list route host ∧ i = s.pins.nextTask) ∨
        s.pins.tasks.lookup i = some t' := by
      obtain ⟨server, next, cascade⟩ := o
      cases next with
      | pins route host =>
        rcases Registry.lookup_insert_iff.1 ht' with ⟨hi, rfl⟩ | ⟨-, hold⟩
        · exact .inl ⟨route, host, rfl, rfl, hi⟩
        · exact .inr hold
      | await | ret => exact .inr ht'
    rcases hpins with ⟨route, host, hnext, rfl, rfl⟩ | hold
    · obtain ⟨user, profile, ht, rfl, hasked, howner⟩ := hroutes.pins route host hnext
      exact OwnerAsked.onward ⟨user, tid, hasked, howner, hrouted user profile route ht⟩ honward
    · exact (h.pins i t' hold).onward honward
  · have hmem : e ∈ s.pins.db.rows := by
      obtain ⟨server, next, cascade⟩ := o
      cases cascade with
      | none => exact he
      | some id => exact (List.mem_filter.1 he).1
    exact ⟨(h.rows e hmem).1, (h.rows e hmem).2.onward honward⟩

theorem pin_approving {henv : HostKey.Env} {ht : HostKey.Task} {ho : HostKey.Out} (h : s.Approving past)
    (hnow : Happened Sys.step .init past s (.pin tid henv)) (hlookup : s.pins.tasks.lookup tid = some ht)
    (hresume : s.resumePin tid henv ht = some ho) :
    Sys.Approving past { s with pins := s.pins.settle tid ho } := by
  have hpin := h.pins tid ht hlookup
  unfold Sys.resumePin at hresume
  split at hresume
  · cases hresume
    refine ⟨h.tasks, fun i t' ht' => ?_, h.rows⟩
    rcases HostKey.settle_lookup.1 ht' with ⟨-, hnext⟩ | ⟨-, hold⟩
    · cases hnext
    · exact h.pins i t' hold
  · refine ⟨h.tasks, fun i t' ht' => ?_, resume_approved hpin h.rows hresume⟩
    rcases HostKey.settle_lookup.1 ht' with ⟨rfl, hnext⟩ | ⟨-, hold⟩
    · refine resume_pinning hpin (fun route host known hprobe => ?_) hresume hnext
      exact ⟨s, henv, known, hnow, hprobe ▸ hlookup, rfl⟩
    · exact h.pins i t' hold

theorem step_approving {ev : Event} (hpast : run Sys.step .init past = some s) (h : s.Approving past)
    (hstep : s.step ev = some s') : s'.Approving (past ++ [ev]) := by
  have hs : s.Approving (past ++ [ev]) := h.onward (.snoc past _ ev)
  have hnow := Happened.now hpast ev
  cases ev with
  | request user r =>
    cases hstep
    -- the task is not yet one that resolves anything
    have hentered : RouteEffect s.server (past ++ [.request user r]) s.nextTask (.hostDeleteGet user 0)
        ⟨s.server, r.enter user, none⟩ := by
      refine ⟨enter_resolves user r ⟨s, hnow, rfl⟩, fun route host hpins => ?_⟩
      cases r with
      | trustHostKey id body | replaceHostKey id body =>
        simp only [Request.enter] at hpins
        split at hpins <;> cases hpins
      | _ => cases hpins
    have hsettled := hs.settle (.refl _ _) hentered fun _ _ _ ht => by cases ht
    exact ⟨hsettled.tasks, hsettled.pins, hsettled.rows⟩
  | resume tid env =>
    obtain ⟨t, ht, hrest⟩ := Option.bind_eq_some_iff.1 hstep
    obtain ⟨o, ho, rfl⟩ := Option.map_eq_some_iff.1 hrest
    refine hs.settle (t := t) (resume_effect ho).hosts_later ?_ fun user profile route hroute => ?_
    · unfold Server.resume at ho
      split_ifs at ho
      · cases ho
        exact .ret
      · cases ho
        exact perform_routes s.server env s.pins (hs.tasks tid t ht)
    · exact ⟨s, env, profile, hnow, hroute ▸ ht, rfl, rfl⟩
  | pin tid env =>
    obtain ⟨t, ht, hrest⟩ := Option.bind_eq_some_iff.1 hstep
    obtain ⟨o, ho, rfl⟩ := Option.map_eq_some_iff.1 hrest
    exact pin_approving hs hnow ht ho
  | openSession user profile =>
    obtain ⟨tables, htables, rfl⟩ := Option.map_eq_some_iff.1 hstep
    have honward : Onward (past ++ [.openSession user profile]) s.server.tables
        (past ++ [.openSession user profile]) tables := ⟨List.prefix_rfl, (createSession_moves htables).hosts⟩
    exact ⟨fun i t ht => (hs.tasks i t ht).onward honward, fun i t ht => (hs.pins i t ht).onward honward,
      fun e he => ⟨(hs.rows e he).1, (hs.rows e he).2.onward honward⟩⟩

theorem run_approving {evs : List Event} (hr : run Sys.step .init evs = some s) : s.Approving evs :=
  run_traced_inv (fun past s => s.Approving past) (fun _ _ _ _ hpast h hstep => step_approving hpast h hstep) hr
    init_approving

/-! ## Connections -/

section Connections

open Ssh

variable {peer : Peer}

/-- The server has presented a key that is among the pins. -/
def PresentedPin (peer : Peer) (pins : List (HostKey.SshKeyType × String)) : Prop :=
  ∃ key captured, peer.connect.presented = some key ∧ key.captured = some captured ∧ Ssh.pinOf captured ∈ pins

theorem presentedPin_of_match {pins : List (HostKey.SshKeyType × String)}
    (h : (peer.connect.handler Handler.checkServerKey { acceptPins := pins }).pinMatch = true) :
    PresentedPin peer pins := by
  cases hpresented : peer.connect.presented with
  | none =>
    simp only [Connect.handler, hpresented] at h
    cases h
  | some key =>
    cases hkey : key.captured with
    | none =>
      -- an unsupported key leaves the cells alone
      have hkept : (Handler.checkServerKey { acceptPins := pins } key).1.pinMatch = false := by
        unfold ServerKey.captured at hkey
        unfold Handler.checkServerKey
        split
        · rfl
        · next keyType htype =>
          rw [htype, Option.bind_some, Option.map_eq_none_iff] at hkey
          rw [hkey]
      simp only [Connect.handler, hpresented, hkept] at h
      cases h
    | some captured =>
      rw [handler_presented hpresented hkey pins _ rfl] at h
      exact ⟨key, captured, hpresented, hkey, of_decide_eq_true h⟩

theorem start_authenticates {target : SshPtyTarget}
    (h : (RusshPtyBridge.start peer target).2.any Call.isAuthenticate = true) :
    PresentedPin peer target.config.acceptPins := by
  apply presentedPin_of_match
  unfold RusshPtyBridge.start at h
  split at h
  · cases h
  cases hmatch : (peer.connect.handler PtyHandler.checkServerKey
      { acceptPins := target.config.acceptPins }).pinMatch with
  | true => exact hmatch
  | false =>
    simp only [hmatch] at h
    split at h
    · cases h
    · split at h <;> cases h
    · cases h

theorem run_authenticates {target : AuthCheckTarget}
    (h : (RusshAuthChecker.run peer target).2.any Call.isAuthenticate = true) :
    PresentedPin peer target.acceptPins := by
  apply presentedPin_of_match
  unfold RusshAuthChecker.run at h
  split at h
  · cases h
  cases hmatch : (peer.connect.handler AuthHandler.checkServerKey { acceptPins := target.acceptPins }).pinMatch with
  | true => exact hmatch
  | false =>
    simp only [hmatch] at h
    split at h
    · cases h
    · cases h
    · simp only [Bool.not_false, if_true] at h
      split at h <;> cases h

/-- The key a server has shown is, by type and fingerprint, one that was approved. -/
def ShowsApproved (evs : List Event) (tb : Tables) (host : HostId) (peer : Peer) : Prop :=
  ∃ key captured approved, peer.connect.presented = some key ∧ key.captured = some captured ∧
    Ssh.pinOf approved = Ssh.pinOf captured ∧ Approved evs tb host approved

theorem pin_shows_approved {evs : List Event} (hr : run Sys.step .init evs = some s)
    (h : PresentedPin peer (HostKey.authCheckAcceptPins (HostKey.listForHost s.pins.db.rows host))) :
    ShowsApproved evs s.server.tables host peer := by
  obtain ⟨key, captured, hpresented, hkey, hpin⟩ := h
  obtain ⟨e, he, -, -, hsame⟩ := mem_authCheckAcceptPins.1 hpin
  obtain ⟨hmem, rfl⟩ : e ∈ s.pins.db.rows ∧ e.hostId = host := by
    unfold HostKey.listForHost at he
    simpa using he
  exact ⟨key, captured, pinned e, hpresented, hkey, hsame, ((run_approving hr).rows e hmem).2⟩

/-- **A private key is used only towards a server its owner has approved.** With the
pins of a host as they stand after any run, neither the PTY bridge nor the auth
check authenticates unless the server presents a key whose fingerprint the owner of
the host has named in a request and which a server presented to the probe that this
request made of the host. -/
theorem authenticates_to_approved (evs : List Event) (s : Sys) (hr : run Sys.step .init evs = some s)
    (host : HostId) (peer : Peer) :
    (∀ target : SshPtyTarget, target.config.acceptPins =
        HostKey.ptyAcceptPins (HostKey.listForHost s.pins.db.rows host) →
      (RusshPtyBridge.start peer target).2.any Call.isAuthenticate = true →
      ShowsApproved evs s.server.tables host peer) ∧
    ∀ target : AuthCheckTarget, target.acceptPins =
        HostKey.authCheckAcceptPins (HostKey.listForHost s.pins.db.rows host) →
      (RusshAuthChecker.run peer target).2.any Call.isAuthenticate = true →
      ShowsApproved evs s.server.tables host peer := by
  constructor
  · intro target hpins hauth
    have hshown := start_authenticates hauth
    rw [hpins, ptyAcceptPins_eq] at hshown
    exact pin_shows_approved hr hshown
  · intro target hpins hauth
    have hshown := run_authenticates hauth
    rw [hpins] at hshown
    exact pin_shows_approved hr hshown

/-- A server with the key that was presented to the probe. -/
def trustedPeer : Peer where
  parses _ := true
  connect := ⟨some ⟨.ed25519, "SHA256:a", some [7]⟩, .ok ()⟩
  authenticate := .ok true
  channelOpens := true
  ptyStarts := true
  shellStarts := true

theorem authenticates_to_approved_trusted : ∃ s,
    run Sys.step .init (oneProfile ++ trusting ++ [.pin 0 presented]) = some s ∧
    ShowsApproved (oneProfile ++ trusting ++ [.pin 0 presented]) s.server.tables 0 trustedPeer := by
  refine ⟨_, rfl, ?_⟩
  exact (authenticates_to_approved (oneProfile ++ trusting ++ [.pin 0 presented]) _ rfl 0 trustedPeer).1
    ⟨⟨"web.example", 22, "deploy", [(.ed25519, "SHA256:a")], 80, 24, "xterm-256color"⟩, []⟩ rfl rfl

end Connections

end RelayTerm.Inventory
