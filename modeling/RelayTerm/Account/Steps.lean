import RelayTerm.Account.Requests
/-!
# What one step can do

Inversion of the account requests: which resumptions write to the passwords or
the sessions, what they know of them, and which tasks they leave behind. A task
is idle when it is not between the existence check and the first password, not
about to create a session, and has neither read a session as live nor revoked
one.
-/
open RelayTerm.Lib

namespace RelayTerm.Account

open Auth (User)

/-! ## What a task is about -/

/-- Past the existence check of bootstrap, and the password is not stored. -/
def Task.founding : Task → Bool
  | .createUser _ | .setFirstPassword _ _ => true
  | _ => false

/-- The user a login is about to create a session for, and the hash it verified against. -/
def Task.minting : Task → Option (UserId × PasswordHash)
  | .login l (.createSession user) => l.against.map (user.id, ·)
  | _ => none

/-- The session the request has read as live and will report as revoked by itself. -/
def Task.relies : Task → Option UserSessionId
  | .update (.revoke id _ _) | .write (.revoke id _ _) _ => some id
  | .write (.revokeForUser _ id _) snap => if snap.prior.isNone && snap.targets.elem id then some id else none
  | _ => none

/-- The session whose revocation the request is about to write to the audit log. -/
def Task.reports : Task → Option UserSessionId
  | .auditLogout id _ _ | .auditSessionRevoked _ id _ => some id
  | _ => none

def Task.isIdle : Task → Bool
  | .createUser _ | .setFirstPassword _ _ | .login _ (.createSession _) => false
  | .update (.revoke _ _ _) | .update (.revokeAllExcept _ (.passwordChanged _) _) | .write _ _ => false
  | .auditLogout _ _ _ | .auditSessionRevoked _ _ _ | .auditPasswordChanged _ _ _ _ => false
  | _ => true

/-- An audit row that is about no single session. -/
def Fact.isPlain : Fact → Bool
  | .wrote event => event.session.isNone
  | _ => false

variable {t : Task}

theorem Task.founding_of_isIdle (h : t.isIdle = true) : t.founding = false := by
  unfold Task.founding
  split <;> first | rfl | cases h

theorem Task.minting_of_isIdle (h : t.isIdle = true) : t.minting = none := by
  unfold Task.minting
  split <;> first | rfl | cases h

theorem Task.relies_of_isIdle (h : t.isIdle = true) : t.relies = none := by
  unfold Task.relies
  split <;> first | rfl | cases h

theorem Task.reports_of_isIdle (h : t.isIdle = true) : t.reports = none := by
  unfold Task.reports
  split <;> first | rfl | cases h

/-! ## Effects -/

/-- The request touches neither passwords nor sessions and comes to rest idle. -/
structure Quiet (sv : Server) (o : Out) : Prop where
  passwords : o.server.passwords = sv.passwords
  sessions : o.server.sessions = sv.sessions
  next : ∀ t, o.next = .await t → t.isIdle = true
  facts : ∀ f ∈ o.facts, f.isPlain = true

/-- What the caller of an `UPDATE` goes on with. -/
inductive Answered (snap : Snapshot) (affected : Nat) : Call → Next → Prop where
  | idle (call : Call) (next : Next) (hnext : ∀ t, next = .await t → t.isIdle = true)
      (hcall : ∀ user new now, call ≠ .revokeAllExcept user (.passwordChanged new) now) :
      Answered snap affected call next
  | logout (id : UserSessionId) (user : UserId) (now : Time) (hpos : affected ≠ 0) :
      Answered snap affected (.revoke id user now) (.await (.auditLogout id user now))
  | revoked (user : AuthenticatedUser) (id : UserSessionId) (now : Time) (hpos : affected ≠ 0)
      (hprior : snap.prior = none) :
      Answered snap affected (.revokeForUser user id now) (.await (.auditSessionRevoked user id now))
  | changed (user : AuthenticatedUser) (new : PasswordHash) (now : Time) :
      Answered snap affected (.revokeAllExcept user (.passwordChanged new) now)
        (.await (.auditPasswordChanged user new affected now))

/-- The rows the write of a call affects. -/
def Server.affected (sv : Server) (call : Call) (snap : Snapshot) : List UserSessionId :=
  call.statement.update.affected snap.targets sv.sessions.rows

inductive Effect (cfg : Config) (sv : Server) (env : Env) : Task → Out → Prop where
  | quiet (t : Task) (o : Out) (h : Quiet sv o) : Effect cfg sv env t o
  | checked (req : BootstrapRequest) (hnone : sv.passwords.anyExists = false) :
      Effect cfg sv env (.anyExists req) (sv.await (.createUser req))
  | founded (req : BootstrapRequest) (user : User) (sv' : Server) (hpasswords : sv'.passwords = sv.passwords)
      (hsessions : sv'.sessions = sv.sessions) :
      Effect cfg sv env (.createUser req) (sv'.await (.setFirstPassword user req.password))
  | first (user : User) (password : String) :
      Effect cfg sv env (.setFirstPassword user password) (sv.setFirstPassword cfg user password)
  | verified (l : Login) (a : Auth.Attempt) (user : User) (hash : PasswordHash) (auth : Auth.Server)
      (hrow : sv.passwords.rows.lookup user.id = some hash) :
      Effect cfg sv env (.login l (.verifyPassword a user))
        ({ sv with auth := auth }.await (.login { l with against := some hash } (.createSession user)))
  | minted (l : Login) (user : User) (sessions : UserSessions) (auth : Auth.Server) (next : Next)
      (hcreate : sv.sessions.create (Server.newSession cfg env l user) = some sessions)
      (hnext : ∀ t, next = .await t → t.isIdle = true) :
      Effect cfg sv env (.login l (.createSession user))
        ⟨{ sv with sessions := sessions, auth := auth }, next,
          l.against.toList.map (.minted sv.sessions.nextId user.id)⟩
  | read (token : String) (now : Time) (id : UserSessionId) (user : UserId) (hlive : sv.sessions.isLive id = true) :
      Effect cfg sv env (.validateLogout token now) (sv.await (.update (.revoke id user now)))
  | rotated (user : AuthenticatedUser) (password : String) (now : Time) :
      Effect cfg sv env (.setPassword user password now) (sv.setPassword cfg user password now)
  | snapshot (call : Call) :
      Effect cfg sv env (.update call) (sv.await (.write call (sv.sessions.snapshot call.statement)))
  | written (call : Call) (snap : Snapshot) (next : Next) (hok : env.ok = true)
      (h : Answered snap (sv.affected call snap).length call next) :
      Effect cfg sv env (.write call snap)
        ⟨{ sv with sessions := sv.sessions.write call.statement snap.targets }, next,
          (sv.sessions.moves call.statement snap.targets).map .moved⟩
  | reported (t : Task) (id : UserSessionId) (event : AccountAuditEvent) (r : Reply) (ht : t.reports = some id)
      (hevent : event.session = some id) : Effect cfg sv env t ⟨sv, .ret r, [.wrote event]⟩
  | changed (user : AuthenticatedUser) (new : PasswordHash) (n : Nat) (now : Time) :
      Effect cfg sv env (.auditPasswordChanged user new n now)
        ⟨sv, .ret (.revokedOtherSessions n),
          [.wrote (.passwordChanged user.user.id n now), .changed user.user.id user.sessionId new]⟩

/-! ## Quiet resumptions -/

variable {cfg : Config} {sv : Server} {env : Env} {o : Out} {s s' : Sys} {tid : TaskId}

theorem Quiet.ret (sv : Server) (r : Reply) : Quiet sv (sv.ret r) :=
  ⟨rfl, rfl, by simp [Server.ret], by simp [Server.ret]⟩

theorem Quiet.await (sv : Server) {t : Task} (h : t.isIdle = true) : Quiet sv (sv.await t) := by
  refine ⟨rfl, rfl, fun t' ht' => ?_, by simp [Server.await]⟩
  obtain rfl := Next.await.inj ht'
  exact h

theorem Quiet.audited (sv : Server) (env : Env) {event : AccountAuditEvent} (r : Reply) (h : event.session = none) :
    Quiet sv (sv.audited env event r) := by
  refine ⟨rfl, rfl, by simp [Server.audited], fun f hf => ?_⟩
  unfold Server.audited at hf
  split at hf
  · obtain rfl := List.mem_singleton.1 hf
    simp [Fact.isPlain, h]
  · cases hf

/-- A request about to audit a revocation writes the row, or fails. -/
theorem audited_reports {id : UserSessionId} {event : AccountAuditEvent} (r : Reply) (ht : t.reports = some id)
    (hevent : event.session = some id) : Effect cfg sv env t (sv.audited env event r) := by
  unfold Server.audited
  split
  · exact .reported t id event r ht hevent
  · exact .quiet t _ (Quiet.ret sv r)

/-- The login route rests idle, unless it goes on to create a session. -/
theorem loginOut_quiet {l : Login} {ao : Auth.Out} {facts : List Fact}
    (hnext : ∀ user, ao.next ≠ .await (.createSession user)) (hfacts : ∀ f ∈ facts, f.isPlain = true) :
    Quiet sv (sv.loginOut l ao facts) := by
  refine ⟨rfl, rfl, fun t ht => ?_, hfacts⟩
  unfold Server.loginOut at ht
  obtain ⟨auth, next⟩ := ao
  cases next with
  | await at' =>
    obtain rfl := Next.await.inj ht
    cases at' with
    | createSession user => exact absurd rfl (hnext user)
    | _ => rfl
  | ret reply => cases reply <;> cases ht

theorem handle_quiet (now : Time) (user : AuthenticatedUser) (route : Route) : Quiet sv (sv.handle now user route) := by
  cases route with
  | me => exact .ret sv _
  | listSessions => exact .await sv rfl
  | changePassword body =>
    simp only [Server.handle]
    split
    · exact .ret sv _
    · exact .await sv rfl
  | revokeSession id => exact .await sv rfl
  | revokeAllExceptCurrent => exact .await sv rfl

theorem updateFailed_quiet (call : Call) : Quiet sv (sv.updateFailed env call) := by
  cases call with
  | touchLastSeen route user now => exact handle_quiet env.now user route
  | revoke | revokeForUser | revokeAllForUser | revokeAllExcept => exact .ret sv _

theorem enter_quiet (cfg : Config) (sv : Server) (now : Time) (r : Request) : Quiet sv (sv.enter cfg now r) := by
  cases r with
  | bootstrap req =>
    simp only [Server.enter, Server.bootstrap]
    split
    · exact .ret sv _
    · split
      · exact .ret sv _
      · split
        · exact .await sv rfl
        · exact .await sv rfl
  | login req =>
    refine loginOut_quiet (fun user => ?_) (by simp)
    unfold Auth.Server.login
    split
    · simp
    · dsimp only
      split <;> simp
  | logout token => cases token <;> first | exact .ret sv _ | exact .await sv rfl
  | authenticated route token => cases token <;> first | exact .ret sv _ | exact .await sv rfl
  | revokeAllForUser user reason => exact .await sv rfl

/-! ## The resumptions that are not quiet -/

theorem loginVerified_effect (l : Login) (a : Auth.Attempt) (user : User) :
    Effect cfg sv env (.login l (.verifyPassword a user)) (sv.loginVerified cfg env l a user) := by
  unfold Server.loginVerified
  dsimp only
  split
  · cases hv : sv.passwords.verifyPassword cfg.hasher user.id l.req.password with
    | ok _ =>
      obtain ⟨hash, hrow⟩ := UserPasswords.verifyPassword_ok hv
      rw [hrow]
      exact .verified l a user hash _ hrow
    | error e =>
      refine .quiet _ _ (loginOut_quiet (fun u => ?_) (by simp))
      cases e <;> simp [Auth.Server.resume, Auth.Server.passwordVerified, Auth.Server.reject]
  · refine .quiet _ _ (loginOut_quiet (fun u => ?_) (by simp))
    simp [Auth.Server.resume, Auth.Server.passwordVerified, Auth.Server.reject]

theorem loginCreated_effect (l : Login) (user : User) :
    Effect cfg sv env (.login l (.createSession user)) (sv.loginCreated cfg env l user) := by
  unfold Server.loginCreated
  split
  · next sessions hcreate =>
    split at hcreate
    · refine .minted l user sessions _ _ hcreate fun t ht => ?_
      obtain rfl := Next.await.inj ht
      rfl
    · cases hcreate
  · exact .quiet _ _ (loginOut_quiet (by simp [Auth.Server.resume]) (by simp))

theorem resumeLogin_effect (l : Login) (at' : Auth.Task) :
    Effect cfg sv env (.login l at') (sv.resumeLogin cfg env l at') := by
  -- every other await point of the route writes at most an audit row about the login
  have other : ∀ t, (∀ user, (sv.auth.resume cfg.sql ⟨env.ok, sv.users, .error .other⟩ t).next ≠
      .await (.createSession user)) → Effect cfg sv env (.login l t) (sv.loginOut l
        (sv.auth.resume cfg.sql ⟨env.ok, sv.users, .error .other⟩ t)
        (if env.ok then (Server.loginAudit l t).toList.map .wrote else [])) := by
    intro t ht
    refine .quiet _ _ (loginOut_quiet ht fun f hf => ?_)
    split at hf
    · cases t <;> simp_all [Server.loginAudit, Fact.isPlain, AccountAuditEvent.session]
    · cases hf
  cases at' with
  | verifyPassword a user => exact loginVerified_effect l a user
  | createSession user => exact loginCreated_effect l user
  | getByEmail email a =>
    refine other _ fun user => ?_
    unfold Auth.Server.resume
    dsimp only
    split
    · cases Auth.getByEmail cfg.sql sv.users email <;> simp [Auth.Server.lookedUp, Auth.Server.reject]
    · simp
  | auditThrottled | auditFailed | touchLastLogin | auditSucceeded => exact other _ (by simp [Auth.Server.resume])

theorem createUser_effect (req : BootstrapRequest) :
    Effect cfg sv env (.createUser req) (sv.createUser cfg req) := by
  unfold Server.createUser
  split
  · exact .quiet _ _ (.ret sv _)
  · exact .founded req _ _ rfl rfl

theorem logoutValidated_effect (token : String) (now : Time) :
    Effect cfg sv env (.validateLogout token now) (sv.logoutValidated cfg env token now) := by
  unfold Server.logoutValidated
  split
  · split
    · next id row hok =>
      obtain ⟨hrow, hrev⟩ := UserSessions.validate_ok hok
      exact .read token now id row.userId (UserSessions.isLive_iff.2 ⟨row, hrow, hrev⟩)
    · exact .quiet _ _ (.ret sv _)
  · exact .quiet _ _ (.ret sv _)

theorem answered_server (snap : Snapshot) (n : Nat) (call : Call) : (sv.answered env snap n call).server = sv := by
  cases call with
  | touchLastSeen route user now =>
    cases route <;> simp only [Server.answered, Server.handle] <;> first | rfl | (split <;> rfl)
  | revoke => simp only [Server.answered]; split <;> rfl
  | revokeForUser => simp only [Server.answered]; split_ifs <;> rfl
  | revokeAllForUser => rfl
  | revokeAllExcept user purge now =>
    cases purge <;> simp only [Server.answered] <;> first | rfl | (split <;> rfl)

theorem answered_next (sv : Server) (env : Env) (snap : Snapshot) (n : Nat) (call : Call) :
    Answered snap n call (sv.answered env snap n call).next := by
  -- what comes to rest idle
  have quiet : ∀ {o : Out}, Quiet sv o → (∀ user new now, call ≠ .revokeAllExcept user (.passwordChanged new) now) →
      Answered snap n call o.next := fun h hcall => .idle call _ h.next hcall
  cases call with
  | touchLastSeen route user now => exact quiet (handle_quiet env.now user route) (by simp)
  | revoke id user now =>
    simp only [Server.answered]
    split
    · exact quiet (.ret sv _) (by simp)
    · next hpos => exact .logout id user now hpos
  | revokeForUser user id now =>
    simp only [Server.answered]
    split_ifs with hzero hprior
    · exact quiet (.ret sv _) (by simp)
    · exact .revoked user id now hzero (Option.isNone_iff_eq_none.1 hprior)
    · exact quiet (.ret sv _) (by simp)
  | revokeAllForUser user now reason => exact quiet (.ret sv _) (by simp)
  | revokeAllExcept user purge now =>
    cases purge with
    | requested =>
      simp only [Server.answered]
      split
      · exact quiet (.await sv rfl) (by simp)
      · exact quiet (.ret sv _) (by simp)
    | passwordChanged new => exact .changed user new now

theorem written_effect (hok : env.ok = true) (call : Call) (snap : Snapshot) :
    Effect cfg sv env (.write call snap) (sv.written env call snap) := by
  have h := answered_next { sv with sessions := sv.sessions.write call.statement snap.targets } env snap
    (sv.affected call snap).length call
  have hwritten : sv.written env call snap = ⟨{ sv with sessions := sv.sessions.write call.statement snap.targets },
      ({ sv with sessions := sv.sessions.write call.statement snap.targets }.answered env snap
        (sv.affected call snap).length call).next,
      (sv.sessions.moves call.statement snap.targets).map .moved⟩ := by
    unfold Server.written
    dsimp only
    rw [answered_server]
    rfl
  rw [hwritten]
  exact .written call snap _ hok h

theorem resume_effect (cfg : Config) (sv : Server) (env : Env) (t : Task) :
    Effect cfg sv env t (sv.resume cfg env t) := by
  cases t with
  | auditRefusedBootstrap reason err => exact .quiet _ _ (.audited sv env _ rfl)
  | anyExists req =>
    simp only [Server.resume, Server.anyExistsAnswered]
    split_ifs with hok hany
    · exact .quiet _ _ (.await sv rfl)
    · exact .checked req (by simpa using hany)
    · exact .quiet _ _ (.ret sv _)
  | createUser req =>
    simp only [Server.resume]
    split
    · exact createUser_effect req
    · exact .quiet _ _ (.ret sv _)
  | setFirstPassword user password =>
    simp only [Server.resume]
    split
    · exact .first user password
    · exact .quiet _ _ (.ret sv _)
  | auditFirstUser user => exact .quiet _ _ (.audited sv env _ rfl)
  | login l at' => exact resumeLogin_effect l at'
  | validateLogout token now => exact logoutValidated_effect token now
  | validate route token now =>
    simp only [Server.resume, Server.extractorValidated]
    split
    · split
      · exact .quiet _ _ (.await sv rfl)
      · exact .quiet _ _ (.ret sv _)
    · exact .quiet _ _ (.ret sv _)
  | getUser route id user now =>
    simp only [Server.resume, Server.extractorUser]
    split
    · split
      · exact .quiet _ _ (.await sv rfl)
      · exact .quiet _ _ (.ret sv _)
    · exact .quiet _ _ (.ret sv _)
  | listSessions user now =>
    simp only [Server.resume, Server.sessionsListed]
    split <;> exact .quiet _ _ (.ret sv _)
  | verifyCurrent user body now =>
    simp only [Server.resume, Server.currentVerified]
    split
    · split
      · exact .quiet _ _ (.await sv rfl)
      · exact .quiet _ _ (.ret sv _)
    · exact .quiet _ _ (.ret sv _)
  | setPassword user password now =>
    simp only [Server.resume]
    split
    · exact .rotated user password now
    · exact .quiet _ _ (.ret sv _)
  | update call =>
    simp only [Server.resume]
    split
    · exact .snapshot call
    · exact .quiet _ _ (updateFailed_quiet call)
  | write call snap =>
    simp only [Server.resume]
    split
    · next hok => exact written_effect hok call snap
    · exact .quiet _ _ (updateFailed_quiet call)
  | auditLogout id user now => exact audited_reports _ rfl rfl
  | auditSessionRevoked user id now => exact audited_reports _ rfl rfl
  | auditSessionsRevoked user n now => exact .quiet _ _ (.audited sv env _ rfl)
  | auditPasswordChanged user new n now =>
    simp only [Server.resume]
    split
    · exact .changed user new n now
    · exact .quiet _ _ (.ret sv _)

/-! ## The task pool -/

/-- A step is a new request, which is quiet, or a resumption of a task in the pool. -/
theorem step_cases {ev : Event} (h : s.step cfg ev = some s') :
    (∃ r now o, ev = .request r now ∧ Quiet s.server o ∧
      s' = { s.settle s.nextTask o with nextTask := s.nextTask + 1 }) ∨
    ∃ tid env t o, ev = .resume tid env ∧ s.tasks.lookup tid = some t ∧ Effect cfg s.server env t o ∧
      s' = s.settle tid o := by
  cases ev with
  | request r now => exact .inl ⟨r, now, _, rfl, enter_quiet cfg s.server now r, (Option.some.inj h).symm⟩
  | resume tid env =>
    obtain ⟨t, ht, rfl⟩ := Option.map_eq_some_iff.1 h
    exact .inr ⟨tid, env, t, _, rfl, ht, resume_effect cfg s.server env t, rfl⟩

theorem settle_lookup {i : TaskId} :
    (s.settle tid o).tasks.lookup i = some t ↔
      (i = tid ∧ o.next = .await t) ∨ (i ≠ tid ∧ s.tasks.lookup i = some t) := by
  obtain ⟨sv, next, facts⟩ := o
  cases next with
  | await t' => simp [Sys.settle, Registry.lookup_insert_iff]
  | ret r => simp [Sys.settle, Registry.lookup_erase_iff]

theorem mem_settle_history {i : TaskId} {f : Fact} :
    (i, f) ∈ (s.settle tid o).history ↔ (i, f) ∈ s.history ∨ i = tid ∧ f ∈ o.facts := by
  simp only [Sys.settle, List.mem_append, List.mem_map, Prod.mk.injEq]
  refine or_congr_right ⟨?_, ?_⟩
  · rintro ⟨g, hg, rfl, rfl⟩
    exact ⟨rfl, hg⟩
  · rintro ⟨rfl, hf⟩
    exact ⟨f, hf, rfl, rfl⟩

/-- Does the request come to rest at a task that satisfies `p`? -/
def Next.sat (p : Task → Bool) : Next → Bool
  | .await t => p t
  | .ret _ => false

theorem settle_count (p : Task → Bool) (s : Sys) (tid : TaskId) (o : Out) :
    Registry.count p (s.settle tid o).tasks =
      Registry.count p (s.tasks.erase tid) + if o.next.sat p then 1 else 0 := by
  obtain ⟨sv, next, facts⟩ := o
  cases next with
  | await t => exact Registry.count_insert p
  | ret r => rfl

theorem settle_history_count (p : Fact → Bool) (s : Sys) (tid : TaskId) (o : Out) :
    (s.settle tid o).count p = s.count p + o.facts.countP p := by
  simp [Sys.count, Sys.settle, List.countP_append, List.countP_map, Function.comp_def]

/-- What happens quietly is no more than audit rows. -/
theorem Quiet.countP_facts {p : Fact → Bool} (h : Quiet sv o) (hp : ∀ f : Fact, f.isPlain = true → p f = false) :
    o.facts.countP p = 0 := by
  rw [List.countP_eq_zero]
  intro f hf
  simp [hp f (h.facts f hf)]

theorem Quiet.next_sat {p : Task → Bool} (h : Quiet sv o) (hp : ∀ t : Task, t.isIdle = true → p t = false) :
    o.next.sat p = false := by
  cases hnext : o.next with
  | await t => exact hp t (h.next t hnext)
  | ret r => rfl

/-- How the sessions change in a step: not at all, by a row with a new token, or by a write. -/
theorem sessions_step {ev : Event} (h : s.step cfg ev = some s') :
    s'.server.sessions = s.server.sessions ∨
    (∃ row, s.server.sessions.create row = some s'.server.sessions) ∨
    ∃ st targets, s'.server.sessions = s.server.sessions.write st targets := by
  obtain ⟨r, now, o, -, hq, rfl⟩ | ⟨tid, env, t, o, -, -, he, rfl⟩ := step_cases h
  · exact .inl hq.sessions
  · cases he with
    | quiet _ _ hq => exact .inl hq.sessions
    | founded _ _ _ _ hsessions => exact .inl hsessions
    | minted _ _ _ _ _ hcreate => exact .inr (.inl ⟨_, hcreate⟩)
    | written call snap => exact .inr (.inr ⟨_, _, rfl⟩)
    | checked | first | verified | read | rotated | snapshot | reported | changed => exact .inl rfl

end RelayTerm.Account
