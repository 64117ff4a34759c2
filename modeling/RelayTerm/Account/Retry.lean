import RelayTerm.Account.Steps
/-!
# A bootstrap that failed

`bootstrap` writes the user, its password and the audit row in three calls, with
no transaction around them. Here a request is served alone, one of its repository
calls fails, and the same request comes again.
-/
open RelayTerm.Lib

namespace RelayTerm.Account

open Auth (User)

/-! ## One request, served alone -/

/-- The repository calls of a bootstrap, in the order it makes them. -/
inductive BootstrapCall where
  | anyExists
  | createUser
  | setPassword
  | auditFirstUser
  deriving DecidableEq, Repr

def Task.bootstrapCall : Task → Option BootstrapCall
  | .anyExists _ => some .anyExists
  | .createUser _ => some .createUser
  | .setFirstPassword _ _ => some .setPassword
  | .auditFirstUser _ => some .auditFirstUser
  | _ => none

/-- A repository whose calls fail as `fails` says; clock and tokens are those of `env`. -/
def repository (fails : BootstrapCall → Bool) (env : Env) (t : Task) : Env :=
  { env with ok := !t.bootstrapCall.any fails }

/-- Goes on with a request through its next `n` await points. -/
def Out.drive (cfg : Config) (answers : Task → Env) : Nat → Out → Out
  | 0, o => o
  | n + 1, o => match o.next with
    | .ret _ => o
    | .await t =>
      let o' := o.server.resume cfg (answers t) t
      Out.drive cfg answers n { o' with facts := o.facts ++ o'.facts }

/-- `POST /api/v1/auth/bootstrap`, with nobody else at work. -/
def Server.serveBootstrap (cfg : Config) (sv : Server) (req : BootstrapRequest) (answers : Task → Env) : Out :=
  (sv.bootstrap cfg req).drive cfg answers 4

/-- The request was answered with a new user, who has its password. -/
def Founds (cfg : Config) (sv : Server) (req : BootstrapRequest) (o : Out) : Prop :=
  ∃ user : User, o.next = .ret (.user user) ∧ user.email = req.email ∧ o.server.users = sv.users ++ [user] ∧
    o.server.passwords.verifyPassword cfg.hasher user.id req.password = .ok () ∧
    o.facts = [.bootstrapped user.id, .wrote (.firstUserCreated user.id)]

variable {cfg : Config} {sv : Server} {req : BootstrapRequest} {env : Env} {fails : BootstrapCall → Bool}

theorem drive_run {s : Sys} {tid : TaskId} {o : Out} (answers : Task → Env) (n : Nat) (hserver : s.server = o.server)
    (htask : ∀ t, o.next = .await t → s.tasks.lookup tid = some t) :
    ∃ evs s', run (Sys.step cfg) s evs = some s' ∧ s'.server = (o.drive cfg answers n).server := by
  induction n generalizing s o with
  | zero => exact ⟨[], s, rfl, hserver⟩
  | succ n ih =>
    obtain ⟨sv, next, facts⟩ := o
    cases next with
    | ret r => exact ⟨[], s, rfl, hserver⟩
    | await t =>
      have hstep : s.step cfg (.resume tid (answers t)) =
          some (s.settle tid (s.server.resume cfg (answers t) t)) := by
        simp only [Sys.step, htask t rfl, Option.map_some]
      obtain rfl : s.server = sv := hserver
      have hnext : ∀ t', (s.server.resume cfg (answers t) t).next = .await t' →
          (s.settle tid (s.server.resume cfg (answers t) t)).tasks.lookup tid = some t' := by
        intro t' ht'
        simp [Sys.settle, ht']
      obtain ⟨evs, s', hrun, hs'⟩ := ih (s := s.settle tid (s.server.resume cfg (answers t) t))
        (o := { s.server.resume cfg (answers t) t with facts := facts ++ (s.server.resume cfg (answers t) t).facts })
        rfl hnext
      exact ⟨_, s', run_cons.2 ⟨_, hstep, hrun⟩, hs'⟩

/-- Serving a request alone is one of the runs of the system. -/
theorem serveBootstrap_run (sv : Server) (req : BootstrapRequest) (answers : Task → Env) (now : Time) :
    ∃ evs s', run (Sys.step cfg) (.start sv) (.request (.bootstrap req) now :: evs) = some s' ∧
      s'.server = (sv.serveBootstrap cfg req answers).server := by
  have hentered : ∀ t, (sv.bootstrap cfg req).next = .await t →
      ((Sys.start sv).settle 0 (sv.bootstrap cfg req)).tasks.lookup 0 = some t := by
    intro t ht
    simp [Sys.settle, ht]
  obtain ⟨evs, s', hrun, hs'⟩ : ∃ evs s', run (Sys.step cfg)
      { (Sys.start sv).settle 0 (sv.bootstrap cfg req) with nextTask := 1 } evs = some s' ∧
        s'.server = (sv.serveBootstrap cfg req answers).server := drive_run answers 4 rfl hentered
  exact ⟨evs, s', run_cons.2 ⟨_, rfl, hrun⟩, hs'⟩

/-! ## What the request comes to -/

/-- A request the checks before the first call let through. -/
structure Admissible (cfg : Config) (req : BootstrapRequest) : Prop where
  token : cfg.bootstrapToken = some req.bootstrapToken
  valid : req.validated = .ok req

theorem bootstrap_await (h : Admissible cfg req) : sv.bootstrap cfg req = sv.await (.anyExists req) := by
  simp [Server.bootstrap, h.valid, h.token]

theorem verifyPassword_upsertForUser (hasher : PasswordHasher) (passwords : UserPasswords) (user : UserId)
    (password : String) :
    (passwords.upsertForUser hasher user password).verifyPassword hasher user password = .ok () := by
  simp [UserPasswords.verifyPassword, UserPasswords.upsertForUser, UserPasswords.fresh, PasswordHash.verify,
    hasher.verify_hash]

/-- The user a bootstrap creates. -/
def Server.founder (sv : Server) (req : BootstrapRequest) : User := ⟨sv.nextUser, req.email⟩

/-- The tables once the user is created. -/
def Server.withFounder (sv : Server) (req : BootstrapRequest) : Server :=
  { sv with users := sv.users ++ [sv.founder req], nextUser := sv.nextUser + 1 }

/-- The tables once its password is stored. -/
def Server.withPassword (cfg : Config) (sv : Server) (req : BootstrapRequest) : Server :=
  { sv.withFounder req with passwords := sv.passwords.upsertForUser cfg.hasher (sv.founder req).id req.password }

/-- The database knows no password and no user of that email. -/
structure Vacant (cfg : Config) (sv : Server) (req : BootstrapRequest) : Prop where
  noPassword : sv.passwords.anyExists = false
  noUser : Auth.getByEmail cfg.sql sv.users req.email = none

theorem drive_ret (answers : Task → Env) (n : Nat) (r : Reply) (facts : List Fact) :
    Out.drive cfg answers n ⟨sv, .ret r, facts⟩ = ⟨sv, .ret r, facts⟩ := by
  cases n <;> rfl

theorem drive_await {answers : Task → Env} {t : Task} {o : Out} (h : sv.resume cfg (answers t) t = o) (n : Nat)
    (facts : List Fact) :
    Out.drive cfg answers (n + 1) ⟨sv, .await t, facts⟩ =
      Out.drive cfg answers n ⟨o.server, o.next, facts ++ o.facts⟩ := by
  subst h
  rfl

theorem resume_anyExists (hnone : sv.passwords.anyExists = false) :
    sv.resume cfg (repository fails env (.anyExists req)) (.anyExists req) =
      if fails .anyExists then sv.internal else sv.await (.createUser req) := by
  unfold Server.resume Server.anyExistsAnswered
  rw [hnone]
  cases hfails : fails .anyExists <;> simp [repository, Task.bootstrapCall, hfails]

theorem resume_createUser : sv.resume cfg (repository fails env (.createUser req)) (.createUser req) =
    if fails .createUser then sv.internal else sv.createUser cfg req := by
  unfold Server.resume
  cases hfails : fails .createUser <;> simp [repository, Task.bootstrapCall, hfails]

theorem createUser_vacant (hsv : Vacant cfg sv req) :
    sv.createUser cfg req = (sv.withFounder req).await (.setFirstPassword (sv.founder req) req.password) := by
  simp only [Server.createUser, hsv.noUser]
  rfl

/-- The unique index sees the row. -/
theorem createUser_taken (hsv : Vacant cfg sv req) :
    (sv.withFounder req).createUser cfg req = (sv.withFounder req).refuse (.conflict "user" none) := by
  have hbefore : List.find? (fun u => cfg.sql.text u.email = cfg.sql.text req.email) sv.users = none := hsv.noUser
  have htaken : Auth.getByEmail cfg.sql (sv.withFounder req).users req.email = some (sv.founder req) := by
    unfold Auth.getByEmail Server.withFounder
    rw [List.find?_append, hbefore]
    simp [Server.founder]
  simp only [Server.createUser, htaken]

theorem resume_setFirstPassword :
    (sv.withFounder req).resume cfg (repository fails env (.setFirstPassword (sv.founder req) req.password))
        (.setFirstPassword (sv.founder req) req.password) =
      if fails .setPassword then (sv.withFounder req).internal
      else ⟨sv.withPassword cfg req, .await (.auditFirstUser (sv.founder req)),
        [.bootstrapped (sv.founder req).id]⟩ := by
  unfold Server.resume Server.setFirstPassword
  cases hfails : fails .setPassword <;> simp [repository, Task.bootstrapCall, hfails]
  rfl

theorem resume_auditFirstUser (user : User) :
    sv.resume cfg (repository fails env (.auditFirstUser user)) (.auditFirstUser user) =
      if fails .auditFirstUser then sv.internal
      else ⟨sv, .ret (.user user), [.wrote (.firstUserCreated user.id)]⟩ := by
  unfold Server.resume Server.audited
  cases hfails : fails .auditFirstUser <;> simp [repository, Task.bootstrapCall, hfails]
  rfl

/-- The request goes as far as its calls succeed. -/
theorem serveBootstrap_eq (hreq : Admissible cfg req) (hsv : Vacant cfg sv req) :
    sv.serveBootstrap cfg req (repository fails env) =
      if fails .anyExists then sv.internal
      else if fails .createUser then sv.internal
      else if fails .setPassword then (sv.withFounder req).internal
      else if fails .auditFirstUser then
        { (sv.withPassword cfg req).internal with facts := [.bootstrapped (sv.founder req).id] }
      else ⟨sv.withPassword cfg req, .ret (.user (sv.founder req)),
        [.bootstrapped (sv.founder req).id, .wrote (.firstUserCreated (sv.founder req).id)]⟩ := by
  unfold Server.serveBootstrap
  rw [bootstrap_await hreq]
  rw [Server.await, drive_await (resume_anyExists hsv.noPassword)]
  by_cases hany : fails .anyExists = true
  · simp only [hany, if_true]
    exact drive_ret ..
  simp only [hany, Bool.false_eq_true, if_false]
  rw [Server.await, drive_await resume_createUser, createUser_vacant hsv]
  by_cases hcreate : fails .createUser = true
  · simp only [hcreate, if_true]
    exact drive_ret ..
  simp only [hcreate, Bool.false_eq_true, if_false]
  rw [Server.await, drive_await resume_setFirstPassword]
  by_cases hset : fails .setPassword = true
  · simp only [hset, if_true]
    exact drive_ret ..
  simp only [hset, Bool.false_eq_true, if_false]
  rw [drive_await (resume_auditFirstUser _)]
  by_cases haudit : fails .auditFirstUser = true
  · simp only [haudit, if_true]
    rfl
  · simp only [haudit, Bool.false_eq_true, if_false]
    rfl

theorem serveBootstrap_founds (hreq : Admissible cfg req) (hsv : Vacant cfg sv req) :
    Founds cfg sv req (sv.serveBootstrap cfg req (repository (fun _ => false) env)) := by
  rw [serveBootstrap_eq hreq hsv]
  exact ⟨sv.founder req, rfl, rfl, rfl, verifyPassword_upsertForUser _ _ _ _, rfl⟩

/-- The row a failed bootstrap has left is in the way of the next one. -/
theorem serveBootstrap_conflict (hreq : Admissible cfg req) (hsv : Vacant cfg sv req) (env : Env) :
    (sv.withFounder req).serveBootstrap cfg req (repository (fun _ => false) env) =
      (sv.withFounder req).refuse (.conflict "user" none) := by
  have hnone : (sv.withFounder req).passwords.anyExists = false := hsv.noPassword
  unfold Server.serveBootstrap
  rw [bootstrap_await hreq, Server.await, drive_await (resume_anyExists hnone)]
  simp only [Bool.false_eq_true, if_false]
  rw [Server.await, drive_await resume_createUser, createUser_taken hsv]
  simp only [Bool.false_eq_true, if_false]
  exact drive_ret ..

/-- **A failed bootstrap can be retried unless it got as far as its user.** One
call fails, and with it the request, before a password is stored; sent again
with every call succeeding, it creates the first user if and only if what failed
was not the storing of the password. -/
theorem bootstrap_retry_iff (cfg : Config) (sv : Server) (req : BootstrapRequest) (call : BootstrapCall)
    (env env' : Env) (hreq : Admissible cfg req) (hsv : Vacant cfg sv req)
    (hunstored : (sv.serveBootstrap cfg req (repository (· = call) env)).server.passwords.anyExists = false) :
    (∃ e, (sv.serveBootstrap cfg req (repository (· = call) env)).next = .ret (.refused e)) ∧
    (Founds cfg (sv.serveBootstrap cfg req (repository (· = call) env)).server req
        ((sv.serveBootstrap cfg req (repository (· = call) env)).server.serveBootstrap cfg req
          (repository (fun _ => false) env')) ↔
      call ≠ .setPassword) := by
  rw [serveBootstrap_eq hreq hsv] at hunstored ⊢
  cases call with
  | anyExists | createUser =>
    exact ⟨⟨_, rfl⟩, iff_of_true (serveBootstrap_founds hreq hsv) (by decide)⟩
  | setPassword =>
    refine ⟨⟨_, rfl⟩, iff_of_false ?_ (fun h => h rfl)⟩
    rintro ⟨user, hreply, -⟩
    have hconflict := congrArg Out.next (serveBootstrap_conflict hreq hsv env')
    exact absurd (hconflict.symm.trans hreply) (by simp [Server.refuse, Server.ret])
  | auditFirstUser =>
    -- the password is stored by then
    have hstored : (sv.withPassword cfg req).passwords.anyExists = true :=
      UserPasswords.anyExists_upsertForUser (sv.founder req).id req.password
    exact absurd hunstored (by rw [Bool.not_eq_false]; exact hstored)

/-- The request of an operator who sets the service up. -/
def setup : BootstrapRequest := ⟨"first", "ops@example.org", "Operations", "correct horse"⟩

theorem setup_admissible : Admissible .basic setup := ⟨rfl, by decide⟩

theorem setup_vacant : Vacant .basic .init setup := ⟨by decide, by decide⟩

/-- The insert of the user failed. -/
theorem bootstrap_retry_iff_created :
    Founds .basic .init setup ((Server.init.serveBootstrap .basic setup
      (repository (· = .createUser) ⟨true, 0, "t"⟩)).server.serveBootstrap .basic setup
        (repository (fun _ => false) ⟨true, 5, "u"⟩)) :=
  (bootstrap_retry_iff .basic .init setup .createUser ⟨true, 0, "t"⟩ ⟨true, 5, "u"⟩ setup_admissible setup_vacant
    (by decide)).2.2 (by decide)

/-- The user is stored and its password is not: the next attempt meets the unique email. -/
theorem bootstrap_not_retryable :
    ¬ ∀ (cfg : Config) (sv : Server) (req : BootstrapRequest) (call : BootstrapCall) (env env' : Env),
      Admissible cfg req → Vacant cfg sv req →
      (∃ e, (sv.serveBootstrap cfg req (repository (· = call) env)).next = .ret (.refused e)) →
      (sv.serveBootstrap cfg req (repository (· = call) env)).server.passwords.anyExists = false →
      Founds cfg (sv.serveBootstrap cfg req (repository (· = call) env)).server req
        ((sv.serveBootstrap cfg req (repository (· = call) env)).server.serveBootstrap cfg req
          (repository (fun _ => false) env')) := by
  intro h
  obtain ⟨user, hreply, -⟩ := h .basic .init setup .setPassword ⟨true, 0, "t"⟩ ⟨true, 5, "u"⟩ setup_admissible
    setup_vacant ⟨_, rfl⟩ (by decide)
  have hconflict : ((Server.init.serveBootstrap .basic setup
      (repository (· = .setPassword) ⟨true, 0, "t"⟩)).server.serveBootstrap .basic setup
        (repository (fun _ => false) ⟨true, 5, "u"⟩)).next = .ret (.refused (.conflict "user" none)) := by decide
  rw [hconflict] at hreply
  cases hreply

end RelayTerm.Account
