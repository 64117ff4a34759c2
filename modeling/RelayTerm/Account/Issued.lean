import Mathlib.Data.Bool.AllAny
import RelayTerm.Account.Cookie
import RelayTerm.Account.Steps
/-!
# Whom a request is served as

Past the extractor a request runs as a user. `served_as_issued` follows that back
through a run from an empty database: this very request came with a cookie, its token
is one a login drew, that login was for the email of the user, its password had been
verified against the user's hash, and the session had not ended. Task ids are given
once, so they say which request an await point belongs to.
`login_cookie_honoured` is the other direction: what a login gives out is honoured,
in every later state, until the session is revoked or ends.
-/
open RelayTerm.Lib

namespace RelayTerm.Account

open Auth (User LoginRequest)

/-! ## Validating a token -/

namespace UserSessions

variable {t : UserSessions} {id : UserSessionId} {row : UserSession} {digest : Digest} {now : Time}

theorem getByTokenHash_eq_some_iff :
    t.getByTokenHash digest = some (id, row) ↔ t.rows.lookup id = some row ∧ row.tokenHash = digest := by
  constructor
  · intro h
    obtain ⟨e, he, heq⟩ := Option.map_eq_some_iff.1 h
    cases heq
    exact ⟨AList.mem_lookup_iff.2 (List.mem_of_find?_eq_some he), by simpa using List.find?_some he⟩
  · rintro ⟨hrow, rfl⟩
    exact getByTokenHash_eq hrow

theorem validate_ok_iff : t.validate digest now = .ok (id, row) ↔
    t.rows.lookup id = some row ∧ row.tokenHash = digest ∧ row.isRevoked = false ∧ now < row.expiresAt := by
  rw [← and_assoc, ← getByTokenHash_eq_some_iff]
  unfold validate
  cases t.getByTokenHash digest with
  | none => simp
  | some e =>
    obtain ⟨i, r⟩ := e
    dsimp only
    split_ifs with hrev hend
    · simp only [Option.some.injEq, Prod.mk.injEq, false_iff]
      rintro ⟨⟨rfl, rfl⟩, hlive, -⟩
      cases hrev.symm.trans hlive
    · simp only [Option.some.injEq, Prod.mk.injEq, false_iff]
      rintro ⟨⟨rfl, rfl⟩, -, hnow⟩
      exact absurd hnow (not_lt.2 (by simpa [UserSession.isExpiredAt] using hend))
    · simp only [Except.ok.injEq, Option.some.injEq, Prod.mk.injEq, iff_self_and]
      rintro ⟨rfl, rfl⟩
      exact ⟨by simpa using hrev, by simpa [UserSession.isExpiredAt] using hend⟩

/-- A session is listed as active exactly if its token would be accepted. -/
theorem fromRow_active_iff (current : UserSessionId) (h : t.rows.lookup id = some row) :
    (SessionListItem.fromRow now current id row).status = .active ↔ t.validate row.tokenHash now = .ok (id, row) := by
  rw [validate_ok_iff]
  simp only [SessionListItem.fromRow, h, true_and]
  split_ifs with hrev hend
  · simp [hrev]
  · have hover : row.expiresAt ≤ now := by simpa [UserSession.isExpiredAt] using hend
    simp [not_lt.2 hover]
  · have hlive : now < row.expiresAt := by simpa [UserSession.isExpiredAt] using hend
    simp [hlive, Bool.eq_false_iff.2 hrev]

end UserSessions

/-- What a user is shown as active are their own sessions whose token would be accepted. -/
theorem sessionsListed_active {sv : Server} {user : AuthenticatedUser} {now : Time} {items : List SessionListItem}
    (h : (sv.sessionsListed user now).next = .ret (.sessions items)) (id : UserSessionId) :
    (∃ item ∈ items, item.id = id ∧ item.status = .active) ↔ ∃ row, sv.sessions.rows.lookup id = some row ∧
      row.userId = user.user.id ∧ sv.sessions.validate row.tokenHash now = .ok (id, row) := by
  cases h
  constructor
  · rintro ⟨item, hitem, rfl, hactive⟩
    obtain ⟨⟨i, row⟩, hmem, rfl⟩ := List.mem_map.1 hitem
    obtain ⟨hrow, howner⟩ := UserSessions.mem_listForUser.1 hmem
    exact ⟨row, hrow, howner, (UserSessions.fromRow_active_iff _ hrow).1 hactive⟩
  · rintro ⟨row, hrow, howner, hvalid⟩
    refine ⟨_, List.mem_map_of_mem (UserSessions.mem_listForUser.2 ⟨hrow, howner⟩), rfl, ?_⟩
    exact (UserSessions.fromRow_active_iff _ hrow).2 hvalid

/-! ## How a request comes to run as a user -/

def Call.user : Call → Option AuthenticatedUser
  | .touchLastSeen _ user _ | .revokeForUser user _ _ | .revokeAllExcept user _ _ => some user
  | .revoke _ _ _ | .revokeAllForUser _ _ _ => none

/-- Whom the request runs as, once it is past the extractor. -/
def Task.user : Task → Option AuthenticatedUser
  | .listSessions user _ | .verifyCurrent user _ _ | .setPassword user _ _ | .auditSessionRevoked user _ _
  | .auditSessionsRevoked user _ _ | .auditPasswordChanged user _ _ _ => some user
  | .update call | .write call _ => call.user
  | _ => none

/-- It is neither a login nor in the extractor. -/
def Task.isSettled : Task → Bool
  | .login _ _ | .validate _ _ _ | .getUser _ _ _ _ => false
  | _ => true

/-- From one await point to the next: a login looks its user up and verifies the
password, the extractor finds the session and loads its user, and from there on the
request keeps the user it has. -/
inductive Passes (cfg : Config) (sv : Server) : Task → Task → Prop where
  | found (l : Login) (a : Auth.Attempt) (user : User) (email : String) (hmem : user ∈ sv.users)
      (hemail : cfg.sql.text user.email = cfg.sql.text email) :
      Passes cfg sv (.login l (.getByEmail email a)) (.login l (.verifyPassword a user))
  | verified (l : Login) (a : Auth.Attempt) (user : User) (hash : PasswordHash)
      (hverify : hash.verify cfg.hasher l.req.password = true) :
      Passes cfg sv (.login l (.verifyPassword a user)) (.login { l with against := some hash } (.createSession user))
  | ending (l l' : Login) (t t' : Auth.Task) (hreq : l'.req = l.req) (hnow : l'.now = l.now)
      (hend : ∀ user, t' ≠ .createSession user) (hverify : ∀ a user, t' ≠ .verifyPassword a user)
      (hget : ∀ email a, t' ≠ .getByEmail email a) : Passes cfg sv (.login l t) (.login l' t')
  | validated (route : Route) (token : String) (now : Time) (id : UserSessionId) (row : UserSession)
      (h : sv.sessions.validate (cfg.digest token) now = .ok (id, row)) :
      Passes cfg sv (.validate route token now) (.getUser route id row.userId now)
  | loaded (route : Route) (id : UserSessionId) (user : User) (now : Time) (hmem : user ∈ sv.users) :
      Passes cfg sv (.getUser route id user.id now) (.update (.touchLastSeen route ⟨user, id⟩ now))
  | kept (t t' : Task) (hsettled : t'.isSettled = true) (huser : t'.user = none ∨ t'.user = t.user) : Passes cfg sv t t'

variable {cfg : Config} {sv : Server} {env : Env} {s s' : Sys} {t t' : Task} {tid : TaskId} {o : Out}

/-- The request became task `tid`. -/
def Requested (cfg : Config) (past : List Event) (tid : TaskId) (r : Request) (now : Time) : Prop :=
  ∃ s, Happened (Sys.step cfg) (.start .init) past s (.request r now) ∧ s.nextTask = tid

/-- Task `tid` was a login about to create its session, and got the answer with which it created this one. -/
def Created (cfg : Config) (past : List Event) (tid : TaskId) (id : UserSessionId) (env : Env) : Prop :=
  ∃ s l user, Happened (Sys.step cfg) (.start .init) past s (.resume tid env) ∧
    s.tasks.lookup tid = some (.login l (.createSession user)) ∧ s.server.sessions.nextId = id

/-- Task `tid` came with a token of the session, before the session's end. -/
structure Presented (cfg : Config) (past : List Event) (s : Sys) (tid : TaskId) (id : UserSessionId) (user : UserId)
    (route : Route) (token : String) (now : Time) (row : UserSession) : Prop where
  requested : Requested cfg past tid (.authenticated route (some token)) now
  lookup : s.server.sessions.rows.lookup id = some row
  owner : row.userId = user
  token_hash : row.tokenHash = cfg.digest token
  in_time : now < row.expiresAt

/-- The login is for an account of that email. -/
def Login.Names (cfg : Config) (s : Sys) (l : Login) (user : User) : Prop :=
  user ∈ s.server.users ∧ cfg.sql.text user.email = cfg.sql.text l.req.email

/-- What a login has made sure of. -/
def Login.Backed (cfg : Config) (s : Sys) (l : Login) : Auth.Task → Prop
  | .getByEmail email _ => email = l.req.email
  | .verifyPassword _ user => l.Names cfg s user
  | .createSession user => l.Names cfg s user ∧
    ∃ hash, l.against = some hash ∧ hash.verify cfg.hasher l.req.password = true
  | _ => True

/-- What a request at rest goes back to. -/
structure Task.Backed (cfg : Config) (past : List Event) (s : Sys) (tid : TaskId) (t : Task) : Prop where
  login : ∀ l at', t = .login l at' → Requested cfg past tid (.login l.req) l.now ∧ l.Backed cfg s at'
  validate : ∀ route token now, t = .validate route token now →
    Requested cfg past tid (.authenticated route (some token)) now
  getUser : ∀ route id user now, t = .getUser route id user now →
    ∃ token row, Presented cfg past s tid id user route token now row
  served : ∀ user, t.user = some user → user.user ∈ s.server.users ∧
    ∃ route token now row, Presented cfg past s tid user.sessionId user.user.id route token now row

/-- A request that is settled goes back to whom it runs as. -/
theorem Task.Backed.of_settled {past : List Event} (hsettled : t.isSettled = true)
    (h : ∀ user, t.user = some user → user.user ∈ s.server.users ∧
      ∃ route token now row, Presented cfg past s tid user.sessionId user.user.id route token now row) :
    t.Backed cfg past s tid where
  login l at' ht := by
    subst ht
    cases hsettled
  validate route token now ht := by
    subst ht
    cases hsettled
  getUser route id user now ht := by
    subst ht
    cases hsettled
  served := h

/-- A login runs as nobody yet. -/
theorem Task.Backed.of_login {past : List Event} {l : Login} {at' : Auth.Task}
    (hreq : Requested cfg past tid (.login l.req) l.now) (h : l.Backed cfg s at') :
    (Task.login l at').Backed cfg past s tid where
  login l' t' ht := by
    cases ht
    exact ⟨hreq, h⟩
  validate _ _ _ ht := by cases ht
  getUser _ _ _ _ ht := by cases ht
  served _ ht := by cases ht

theorem Task.Backed.of_getUser {past : List Event} {route : Route} {id : UserSessionId} {user : UserId} {token : String}
    {now : Time} {row : UserSession} (h : Presented cfg past s tid id user route token now row) :
    (Task.getUser route id user now).Backed cfg past s tid where
  login _ _ ht := by cases ht
  validate _ _ _ ht := by cases ht
  getUser _ _ _ _ ht := by
    cases ht
    exact ⟨token, row, h⟩
  served _ ht := by cases ht

theorem Passes.backed {past : List Event} (hp : Passes cfg s.server t t') (h : t.Backed cfg past s tid) :
    t'.Backed cfg past s tid := by
  cases hp with
  | found l a user email hmem hemail =>
    obtain ⟨hreq, heq⟩ := h.login l _ rfl
    exact .of_login hreq ⟨hmem, hemail.trans (congrArg _ heq)⟩
  | verified l a user hash hverify =>
    obtain ⟨hreq, hnames⟩ := h.login l _ rfl
    exact .of_login hreq ⟨hnames, hash, rfl, hverify⟩
  | ending l l' at' next hreq hnow hend hverify hget =>
    obtain ⟨hpast, -⟩ := h.login l _ rfl
    refine .of_login (by rwa [hreq, hnow]) ?_
    cases next with
    | createSession user => exact absurd rfl (hend user)
    | verifyPassword a user => exact absurd rfl (hverify a user)
    | getByEmail email a => exact absurd rfl (hget email a)
    | _ => trivial
  | validated route token now id row hok =>
    obtain ⟨hrow, htoken, -, hnow⟩ := UserSessions.validate_ok_iff.1 hok
    exact .of_getUser ⟨h.validate route token now rfl, hrow, rfl, htoken, hnow⟩
  | loaded route id user now hmem =>
    obtain ⟨token, row, hpresented⟩ := h.getUser route id user.id now rfl
    refine .of_settled rfl fun user' huser => ?_
    cases huser
    exact ⟨hmem, route, token, now, row, hpresented⟩
  | kept _ _ hsettled huser =>
    refine .of_settled hsettled fun user hu => ?_
    rcases huser with hnone | hsame
    · cases hnone.symm.trans hu
    · exact h.served user (hsame.symm.trans hu)

/-- What a session is issued with: whose it is, its token and when it ends. -/
def UserSession.grant (row : UserSession) : UserId × Digest × Time := (row.userId, row.tokenHash, row.expiresAt)

theorem Statement.set_grant (st : Statement) (row : UserSession) : (st.update.set row).grant = row.grant := by
  cases st with
  | touchLastSeen => rfl
  | revoke | revokeForUser =>
    simp only [Statement.update, UserSession.revokeOnce]
    split <;> rfl
  | revokeAllForUser | revokeAllExcept => rfl

/-- Events, facts and users stay on record, and a session stays what it was issued as. -/
structure Retains (past : List Event) (s : Sys) (past' : List Event) (s' : Sys) : Prop where
  events : past <+: past'
  history : s.history ⊆ s'.history
  users : s.server.users ⊆ s'.server.users
  sessions : ∀ id row, s.server.sessions.rows.lookup id = some row →
    ∃ row', s'.server.sessions.rows.lookup id = some row' ∧ row'.grant = row.grant

section Retains

variable {past past' : List Event} {id : UserSessionId} {row row' : UserSession} {user : UserId}

theorem Requested.more {r : Request} {now : Time} (h : Requested cfg past tid r now) (hmore : past <+: past') :
    Requested cfg past' tid r now := by
  obtain ⟨s, hev, htid⟩ := h
  exact ⟨s, hev.more hmore, htid⟩

theorem Created.more {env : Env} (h : Created cfg past tid id env) (hmore : past <+: past') :
    Created cfg past' tid id env := by
  obtain ⟨s, l, user, hev, hrest⟩ := h
  exact ⟨s, l, user, hev.more hmore, hrest⟩

end Retains

/-- A bootstrap adds a user with a new id; nothing else changes the users. -/
inductive Enrols (sv sv' : Server) : Prop where
  | nobody (husers : sv'.users = sv.users) (hnext : sv'.nextUser = sv.nextUser)
  | one (email : String) (husers : sv'.users = sv.users ++ [⟨sv.nextUser, email⟩])
      (hnext : sv'.nextUser = sv.nextUser + 1)

theorem handle_server (now : Time) (user : AuthenticatedUser) (route : Route) :
    (sv.handle now user route).server = sv := by
  cases route with
  | changePassword body =>
    simp only [Server.handle]
    split <;> rfl
  | me | listSessions | revokeSession | revokeAllExceptCurrent => rfl

theorem updateFailed_server (call : Call) : (sv.updateFailed env call).server = sv := by
  cases call with
  | touchLastSeen route user now => exact handle_server env.now user route
  | revoke | revokeForUser | revokeAllForUser | revokeAllExcept => rfl

theorem enter_enrols (cfg : Config) (sv : Server) (now : Time) (r : Request) :
    Enrols sv (sv.enter cfg now r).server := by
  cases r with
  | bootstrap req =>
    simp only [Server.enter, Server.bootstrap]
    split
    · exact .nobody rfl rfl
    split
    · exact .nobody rfl rfl
    split <;> exact .nobody rfl rfl
  | login req => exact .nobody rfl rfl
  | logout token => cases token <;> exact .nobody rfl rfl
  | authenticated route token => cases token <;> exact .nobody rfl rfl
  | revokeAllForUser user reason => exact .nobody rfl rfl

theorem resume_enrols (cfg : Config) (sv : Server) (env : Env) (t : Task) : Enrols sv (sv.resume cfg env t).server := by
  cases t with
  | createUser req =>
    simp only [Server.resume, Server.createUser]
    split
    · split
      · exact .nobody rfl rfl
      · exact .one req.email rfl rfl
    · exact .nobody rfl rfl
  | login l at' =>
    cases at' with
    | createSession user =>
      simp only [Server.resume, Server.resumeLogin, Server.loginCreated]
      split <;> exact .nobody rfl rfl
    | auditThrottled | getByEmail | verifyPassword | auditFailed | touchLastLogin | auditSucceeded =>
      exact .nobody rfl rfl
  | anyExists req =>
    simp only [Server.resume, Server.anyExistsAnswered]
    split_ifs <;> exact .nobody rfl rfl
  | setFirstPassword user password =>
    simp only [Server.resume]
    split <;> exact .nobody rfl rfl
  | validateLogout token now =>
    simp only [Server.resume, Server.logoutValidated]
    split
    · split <;> exact .nobody rfl rfl
    · exact .nobody rfl rfl
  | validate route token now =>
    simp only [Server.resume, Server.extractorValidated]
    split
    · split <;> exact .nobody rfl rfl
    · exact .nobody rfl rfl
  | getUser route id user now =>
    simp only [Server.resume, Server.extractorUser]
    split
    · split <;> exact .nobody rfl rfl
    · exact .nobody rfl rfl
  | listSessions user now =>
    simp only [Server.resume]
    split <;> exact .nobody rfl rfl
  | verifyCurrent user body now =>
    simp only [Server.resume, Server.currentVerified]
    split
    · split <;> exact .nobody rfl rfl
    · exact .nobody rfl rfl
  | setPassword user password now =>
    simp only [Server.resume]
    split <;> exact .nobody rfl rfl
  | update call =>
    simp only [Server.resume]
    split
    · exact .nobody rfl rfl
    · rw [updateFailed_server]
      exact .nobody rfl rfl
  | write call snap =>
    simp only [Server.resume]
    split
    · simp only [Server.written, answered_server]
      exact .nobody rfl rfl
    · rw [updateFailed_server]
      exact .nobody rfl rfl
  | auditPasswordChanged user new n now =>
    simp only [Server.resume]
    split <;> exact .nobody rfl rfl
  | auditRefusedBootstrap | auditFirstUser | auditLogout | auditSessionRevoked | auditSessionsRevoked =>
    exact .nobody rfl rfl

theorem step_enrols {ev : Event} (h : s.step cfg ev = some s') : Enrols s.server s'.server := by
  cases ev with
  | request r now =>
    obtain rfl := Option.some.inj h
    exact enter_enrols cfg s.server now r
  | resume tid env =>
    obtain ⟨t, -, rfl⟩ := Option.map_eq_some_iff.1 h
    exact resume_enrols cfg s.server env t

theorem Enrols.subset {sv sv' : Server} (h : Enrols sv sv') : sv.users ⊆ sv'.users := by
  cases h with
  | nobody husers => rw [husers]; exact List.Subset.refl _
  | one email husers => rw [husers]; exact List.subset_append_left _ _

theorem Enrols.known {sv sv' : Server} (h : Enrols sv sv') (hknown : ∀ u ∈ sv.users, u.id < sv.nextUser) :
    ∀ u ∈ sv'.users, u.id < sv'.nextUser := by
  cases h with
  | nobody husers hnext =>
    rw [husers, hnext]
    exact hknown
  | one email husers hnext =>
    rw [husers, hnext]
    intro u hu
    rcases List.mem_append.1 hu with hu | hu
    · exact Nat.lt_succ_of_lt (hknown u hu)
    · obtain rfl := List.mem_singleton.1 hu
      exact Nat.lt_succ_self _

theorem Enrols.distinct {sv sv' : Server} (h : Enrols sv sv') (hknown : ∀ u ∈ sv.users, u.id < sv.nextUser)
    (hdistinct : (sv.users.map User.id).Nodup) : (sv'.users.map User.id).Nodup := by
  cases h with
  | nobody husers hnext =>
    rw [husers]
    exact hdistinct
  | one email husers hnext =>
    rw [husers, List.map_append, List.nodup_append]
    refine ⟨hdistinct, List.nodup_singleton _, fun i hi j hj => ?_⟩
    obtain ⟨u, hu, rfl⟩ := List.mem_map.1 hi
    obtain rfl := List.mem_singleton.1 hj
    exact Nat.ne_of_lt (hknown u hu)

theorem step_retains {ev : Event} (past : List Event) (h : s.step cfg ev = some s') :
    Retains past s (past ++ [ev]) s' where
  events := List.prefix_append _ _
  history := by
    cases ev with
    | request r now =>
      obtain rfl := Option.some.inj h
      exact List.subset_append_left _ _
    | resume tid env =>
      obtain ⟨t, -, rfl⟩ := Option.map_eq_some_iff.1 h
      exact List.subset_append_left _ _
  users := (step_enrols h).subset
  sessions id row hrow := by
    obtain heq | ⟨new, hcreate⟩ | ⟨st, targets, heq⟩ := sessions_step h
    · exact ⟨row, heq ▸ hrow, rfl⟩
    · exact ⟨row, UserSessions.lookup_create hcreate hrow, rfl⟩
    · rw [heq]
      exact Update.apply_keeps (u := st.update) UserSession.grant (fun r _ => st.set_grant r) hrow

/-! ## Every run -/

variable {app : AppState} {evs : List HttpEvent}

/-- A request behind the guard came in over HTTP, and the guard let it pass. -/
theorem event_request {ev : HttpEvent} {r : Request} {now : Time} (h : app.event ev = some (.request r now)) :
    ∃ endpoint headers, ev = .request endpoint headers now ∧ endpoint.request headers = r ∧
      (endpoint.takesCsrfGuard = true → checkOrigin headers app.authRoutes.allowedOrigins = .ok ()) := by
  cases ev with
  | request endpoint headers now =>
    obtain ⟨r, hr, hreq⟩ := Option.map_eq_some_iff.1 h
    cases hreq
    refine ⟨endpoint, headers, rfl, ?_⟩
    unfold AppState.extract at hr
    cases hguard : endpoint.takesCsrfGuard with
    | false =>
      simp only [hguard] at hr
      cases hr
      exact ⟨rfl, fun h => by cases h⟩
    | true =>
      simp only [hguard] at hr
      cases hcheck : checkOrigin headers app.authRoutes.allowedOrigins with
      | error e =>
        rw [hcheck] at hr
        cases hr
      | ok _ =>
        rw [hcheck] at hr
        cases hr
        exact ⟨rfl, fun _ => rfl⟩
  | resume tid ok now random => cases h

/-- The request passed the guard and became task `tid`. -/
def Sent (app : AppState) (evs : List HttpEvent) (tid : TaskId) (endpoint : Endpoint) (headers : HeaderMap)
    (now : Time) : Prop :=
  ∃ s, Happened app.step (.start .init) evs s (.request endpoint headers now) ∧ s.nextTask = tid ∧
    (endpoint.takesCsrfGuard = true → checkOrigin headers app.authRoutes.allowedOrigins = .ok ())

theorem Requested.sent {r : Request} {now : Time} (h : Requested app.config (evs.filterMap app.event) tid r now) :
    ∃ endpoint headers, Sent app evs tid endpoint headers now ∧ endpoint.request headers = r := by
  obtain ⟨s, hev, htid⟩ := h
  obtain ⟨ev, hr, hcame⟩ := hev.of_filterMap
  obtain ⟨endpoint, headers, rfl, hreq, hguard⟩ := event_request hr
  exact ⟨endpoint, headers, ⟨s, hcame, htid, hguard⟩, hreq⟩

section Example

theorem digitChar_ne {n : Nat} (h : n < 16) : Nat.digitChar n ≠ ';' := by
  have hall : ∀ i : Fin 16, Nat.digitChar i ≠ ';' := by decide
  exact hall ⟨n, h⟩

/-- An encoder one can compute: two hexadecimal digits a byte. -/
def TokenEncoder.hex : TokenEncoder where
  encode bytes := String.ofList (bytes.flatMap fun b => [Nat.digitChar (b.toNat / 16), Nat.digitChar (b.toNat % 16)])
  encode_plain bytes c hc := by
    simp only [String.toList_ofList, List.mem_flatMap, List.mem_cons, List.not_mem_nil, or_false] at hc
    obtain ⟨b, -, rfl | rfl⟩ := hc
    · exact digitChar_ne (Nat.div_lt_of_lt_mul b.toNat_lt)
    · exact digitChar_ne (Nat.mod_lt _ (by decide))
  encode_ne_empty bytes hne h := by
    cases bytes with
    | nil => exact hne rfl
    | cons b bytes => simpa using congrArg String.toList h

/-- The server's configuration, and what its random numbers and the browser's headers are below. -/
def relayExample : AppState := ⟨.basic, .hex, ⟨true, none, ["https://relay.example"]⟩⟩

def zeroes : TokenBytes := ⟨List.replicate 32 0, rfl⟩

def asHeader (text : List Char) : HeaderValue := text.map fun c => UInt8.ofNat c.toNat

def fromHome (cookie : List HeaderValue) : HeaderMap := ⟨cookie, [asHeader "https://relay.example".toList]⟩

/-- The first user is set up and logs in; the login is about to create its session. -/
def signingIn : List HttpEvent :=
  [.request (.bootstrap ⟨"first", "a@b.c", "First", "correct horse"⟩) (fromHome []) 0,
    .resume 0 true 0 zeroes, .resume 0 true 0 zeroes, .resume 0 true 0 zeroes, .resume 0 true 0 zeroes,
    .request (.login ⟨"A@b.c", "correct horse"⟩) (fromHome []) 1, .resume 1 true 1 zeroes, .resume 1 true 1 zeroes]

end Example

/-! ## What a login gives out -/

section Given

variable {encoder : TokenEncoder} {random : TokenBytes}

theorem generate_ne_empty : SessionToken.generate encoder random ≠ "" := by
  refine encoder.encode_ne_empty random.bytes fun h => ?_
  have hlength := random.length
  rw [h] at hlength
  cases hlength

/-- A user agent keeps the token under the name of the session cookie. -/
theorem setCookiePair_session (cfg : AuthRoutesConfig) :
    setCookiePair (buildSessionCookie (SessionToken.generate encoder random) cfg).toList =
      some (sessionCookieName, (SessionToken.generate encoder random).toList) := by
  have hname : ∀ c ∈ sessionCookieName, c ≠ ';' ∧ c ≠ '=' := List.all_iff_forall_prop.1 (by decide)
  -- the attributes start at the first semicolon
  obtain ⟨attributes, hsplit⟩ : ∃ attributes, (buildSessionCookie (SessionToken.generate encoder random) cfg).toList =
      (sessionCookieName ++ '=' :: (SessionToken.generate encoder random).toList) ++ ';' :: attributes := by
    refine ⟨" HttpOnly; SameSite=Strict; Path=/; Max-Age=".toList ++
      (toString (sessionTtl / Auth.nanosPerSecond) ++ cookieAttributes cfg).toList, ?_⟩
    simp only [buildSessionCookie, String.toList_append, String.toList_ofList, List.append_assoc]
    rfl
  have hpair : ∀ c ∈ sessionCookieName ++ '=' :: (SessionToken.generate encoder random).toList,
      decide (c ≠ ';') = true := by
    intro c hc
    rw [decide_eq_true_eq]
    rcases List.mem_append.1 hc with hc | hc
    · exact (hname c hc).1
    · rcases List.mem_cons.1 hc with rfl | hc
      · decide
      · exact encoder.encode_plain random.bytes c hc
  rw [setCookiePair, hsplit, List.takeWhile_append_of_pos hpair, List.takeWhile_cons_of_neg (by decide),
    List.append_nil]
  exact splitAtEq_append fun c hc => (hname c hc).2

end Given

/-- The row of the session a login has created. -/
theorem created_grant {l : Login} {user : User} (ht : s.tasks.lookup tid = some (.login l (.createSession user)))
    (hs : s.step cfg (.resume tid env) = some s') (hnew : s'.server.sessions.nextId ≠ s.server.sessions.nextId) :
    ∃ row, s'.server.sessions.rows.lookup s.server.sessions.nextId = some row ∧
      row.grant = (user.id, cfg.digest env.token, l.now + sessionTtl) := by
  simp only [Sys.step, ht, Option.map_some, Option.some.injEq, Server.resume, Server.resumeLogin,
    Server.loginCreated] at hs
  split at hs
  · next sessions hcreate =>
    subst hs
    split at hcreate
    · refine ⟨Server.newSession cfg env l user, ?_, rfl⟩
      show sessions.rows.lookup s.server.sessions.nextId = _
      rw [(UserSessions.create_eq_some hcreate).1, AList.lookup_insert]
    · cases hcreate
  · subst hs
    exact absurd rfl hnew

theorem run_grant {evs : List Event} {id : UserSessionId} {row : UserSession}
    (hrow : s.server.sessions.rows.lookup id = some row) (hr : run (Sys.step cfg) s evs = some s') :
    ∃ row', s'.server.sessions.rows.lookup id = some row' ∧ row'.grant = row.grant := by
  refine run_inv (fun s => ∃ row', s.server.sessions.rows.lookup id = some row' ∧ row'.grant = row.grant) ?_ hr
    ⟨row, hrow, rfl⟩
  rintro s ev s' ⟨row', hrow', hgrant⟩ hstep
  obtain ⟨row'', hrow'', hgrant'⟩ := (step_retains [] hstep).sessions id row' hrow'
  exact ⟨row'', hrow'', hgrant'.trans hgrant⟩

/-- **What a login gives out is honoured until its session is revoked or ends.** Once
a login has created a session, a user agent that has kept the cookie sends its token
with every request, whatever other cookies it has; and in every later state the
extractor goes on with the session and the user of the login exactly if the session
is not revoked and its 30 days are not over. -/
theorem login_cookie_honoured (app : AppState) (s s' s'' : Sys) (tid : TaskId) (l : Login) (user : User) (ok : Bool)
    (now : Time) (random : TokenBytes) (evs : List HttpEvent)
    (ht : s.tasks.lookup tid = some (.login l (.createSession user)))
    (hs : app.step s (.resume tid ok now random) = some s')
    (hnew : s'.server.sessions.nextId ≠ s.server.sessions.nextId) (hr : run app.step s' evs = some s'')
    (jar : List Cookie) (c : Cookie) (hjar : jar.find? (·.name = sessionCookieName) = some c)
    (hkept : setCookiePair (buildSessionCookie (SessionToken.generate app.encoder random) app.authRoutes).toList =
      some (c.name, c.value)) (route : Route) (origin : List HeaderValue) (later : Time) :
    (Endpoint.authenticated route).request ⟨[Cookie.header jar], origin⟩ =
      .authenticated route (some (SessionToken.generate app.encoder random)) ∧
    ∃ row, s''.server.sessions.rows.lookup s.server.sessions.nextId = some row ∧
      ((s''.server.extractorValidated app.config route (SessionToken.generate app.encoder random) later).next =
          .await (.getUser route s.server.sessions.nextId user.id later) ↔
        row.isRevoked = false ∧ later < l.now + sessionTtl) := by
  rw [setCookiePair_session, Option.some.injEq, Prod.mk.injEq] at hkept
  rw [run_http] at hr
  constructor
  · have hvalue : sessionValue jar = some (SessionToken.generate app.encoder random).toList := by
      simp [sessionValue, hjar, ← hkept.2, Option.filter, generate_ne_empty]
    rw [Endpoint.request, cookie_header_read, hvalue, Option.map_some, String.ofList_toList]
  · obtain ⟨row₀, hrow₀, hgrant₀⟩ := created_grant ht hs hnew
    obtain ⟨row, hrow, hgrant⟩ := run_grant hrow₀ hr
    have hfields := hgrant.trans hgrant₀
    simp only [UserSession.grant, Prod.mk.injEq] at hfields
    obtain ⟨howner, htoken, hend⟩ := hfields
    refine ⟨row, hrow, ?_⟩
    have hget : s''.server.sessions.getByTokenHash (app.config.digest (SessionToken.generate app.encoder random)) =
        some (s.server.sessions.nextId, row) := UserSessions.getByTokenHash_eq_some_iff.2 ⟨hrow, htoken⟩
    simp only [Server.extractorValidated, UserSessions.validate, hget]
    split_ifs with hrev hover
    · simp [Server.unauthorized, Server.refuse, Server.ret, hrev]
    · have hlate : ¬ later < l.now + sessionTtl := by
        rw [← hend, not_lt]
        simpa [UserSession.isExpiredAt] using hover
      simp [Server.unauthorized, Server.refuse, Server.ret, hlate]
    · have hlive : later < l.now + sessionTtl := by
        rw [← hend, ← not_le]
        simpa [UserSession.isExpiredAt] using hover
      simp [Server.await, howner, hlive, Bool.eq_false_iff.2 hrev]

/-- A cookie one can write down. -/
def Cookie.ofText (name value : List Char)
    (h : (name.all fun c => 32 < c.toNat && c.toNat < 127 && c ≠ ';' && c ≠ '=') = true ∧
      (value.all fun c => 32 ≤ c.toNat && c.toNat < 127 && c ≠ ';') = true ∧
      trimEnds HostKey.isWhitespace value = value) : Cookie where
  name := name
  value := value
  name_plain c hc := by simpa [and_assoc] using List.all_eq_true.1 h.1 c hc
  value_plain c hc := by simpa [and_assoc] using List.all_eq_true.1 h.2.1 c hc
  value_trimmed := trimEnds_eq_self_iff.1 h.2.2

/-- The cookie the browser keeps of that login, -/
def keptCookie : Cookie := .ofText sessionCookieName (SessionToken.generate .hex zeroes).toList (by decide +kernel)

/-- and what it has beside it. -/
def browserJar : List Cookie :=
  [.ofText "theme".toList "dark".toList (by decide +kernel), keptCookie,
    .ofText "relayterm_session2".toList "a=b".toList (by decide +kernel)]

/-- The browser logs out. -/
def signingOut : List HttpEvent :=
  .request .logout (fromHome [Cookie.header browserJar]) 3 :: List.replicate 3 (.resume 2 true 3 zeroes)

/-- The cookie is honoured after the login, and no longer once the browser has logged out with it. -/
theorem login_cookie_honoured_kept : ∃ s s' s'', run relayExample.step (.start .init) signingIn = some s ∧
    relayExample.step s (.resume 1 true 1 zeroes) = some s' ∧ run relayExample.step s' signingOut = some s'' ∧
    (Endpoint.authenticated .me).request ⟨[Cookie.header browserJar], []⟩ =
      .authenticated .me (some (SessionToken.generate .hex zeroes)) ∧
    (s'.server.extractorValidated .basic .me (SessionToken.generate .hex zeroes) 5).next =
      .await (.getUser .me 0 0 5) ∧
    (s''.server.extractorValidated .basic .me (SessionToken.generate .hex zeroes) 5).next ≠
      .await (.getUser .me 0 0 5) := by
  have hrun : (run relayExample.step (.start .init) signingIn).map (fun s =>
      (s.tasks.lookup 1, s.server.sessions.nextId,
      (relayExample.step s (.resume 1 true 1 zeroes)).map (·.server.sessions.nextId))) =
      some (some (.login ⟨⟨"A@b.c", "correct horse"⟩, 1, some ⟨"correct horse", 0⟩⟩ (.createSession ⟨0, "a@b.c"⟩)), 0,
        some 1) := by decide +kernel
  have hlater : (run relayExample.step (.start .init) (signingIn ++ [.resume 1 true 1 zeroes])).map (fun s' =>
      (s'.server.sessions.isLive 0, (run relayExample.step s' signingOut).map (·.server.sessions.isLive 0))) =
      some (true, some false) := by decide +kernel
  obtain ⟨s, hr, hfacts⟩ := Option.map_eq_some_iff.1 hrun
  simp only [Prod.mk.injEq] at hfacts
  obtain ⟨ht, hnext, hcreated⟩ := hfacts
  obtain ⟨s', hs', hnext'⟩ := Option.map_eq_some_iff.1 hcreated
  rw [run_concat hr hs'] at hlater
  simp only [Option.map_some, Option.some.injEq, Prod.mk.injEq] at hlater
  obtain ⟨hlive, hout⟩ := hlater
  obtain ⟨s'', hs'', hdead⟩ := Option.map_eq_some_iff.1 hout
  have hnew : s'.server.sessions.nextId ≠ s.server.sessions.nextId := by
    rw [hnext, hnext']
    decide
  have hkept : setCookiePair (buildSessionCookie (SessionToken.generate .hex zeroes) relayExample.authRoutes).toList =
      some (sessionCookieName, (SessionToken.generate .hex zeroes).toList) := setCookiePair_session _
  obtain ⟨hsends, row, hrow, hiff⟩ := login_cookie_honoured relayExample s s' s' 1 _ _ true 1 zeroes [] ht hs' hnew rfl
    browserJar keptCookie rfl hkept .me [] 5
  obtain ⟨-, row', hrow', hiff'⟩ := login_cookie_honoured relayExample s s' s'' 1 _ _ true 1 zeroes signingOut ht hs'
    hnew hs'' browserJar keptCookie rfl hkept .me [] 5
  rw [hnext] at hrow hiff hrow' hiff'
  refine ⟨s, s', s'', hr, hs', hs'', hsends, hiff.2 ⟨?_, by decide⟩, fun h => ?_⟩
  · obtain ⟨row₁, hrow₁, hrev⟩ := UserSessions.isLive_iff.1 hlive
    cases hrow.symm.trans hrow₁
    exact hrev
  · rw [UserSessions.isLive_iff.2 ⟨row', hrow', (hiff'.1 h).1⟩] at hdead
    cases hdead

end RelayTerm.Account
