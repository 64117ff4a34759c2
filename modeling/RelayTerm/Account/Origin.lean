import RelayTerm.Account.Issued
/-!
# Requests from elsewhere

A page of another origin can make a browser send requests with its session cookie.
Of the account routes, all it can reach are `GET /auth/me` and `GET /auth/sessions`,
which have no origin guard: `foreign_origin_inert` says that a run of such requests
leaves everything as it was but when a session was last seen.
-/
open RelayTerm.Lib

namespace RelayTerm.Account

variable {cfg : Config} {sv : Server} {s s' : Sys} {t t' : Task} {env : Env}

/-- The route is a `GET`. -/
def Route.isGet : Route → Bool
  | .me | .listSessions => true
  | _ => false

/-- The request is a `GET`, before its answer. -/
def Task.isGet : Task → Bool
  | .validate route _ _ | .getUser route _ _ _ => route.isGet
  | .update (.touchLastSeen route _ _) | .write (.touchLastSeen route _ _) _ => route.isGet
  | .listSessions _ _ => true
  | _ => false

/-- All of a session but when it was last seen. -/
def UserSession.unseen (row : UserSession) : UserSession := { row with lastSeenAt := 0 }

/-- Nothing has happened but that sessions were seen. -/
structure Server.Untouched (sv sv' : Server) : Prop where
  auth : sv'.auth = sv.auth
  users : sv'.users = sv.users
  nextUser : sv'.nextUser = sv.nextUser
  passwords : sv'.passwords = sv.passwords
  nextId : sv'.sessions.nextId = sv.sessions.nextId
  rows : ∀ id, (sv'.sessions.rows.lookup id).map UserSession.unseen =
    (sv.sessions.rows.lookup id).map UserSession.unseen

theorem Server.Untouched.refl (sv : Server) : sv.Untouched sv := ⟨rfl, rfl, rfl, rfl, rfl, fun _ => rfl⟩

theorem Server.Untouched.trans {sv₁ sv₂ sv₃ : Server} (h : sv₁.Untouched sv₂) (h' : sv₂.Untouched sv₃) :
    sv₁.Untouched sv₃ where
  auth := h'.auth.trans h.auth
  users := h'.users.trans h.users
  nextUser := h'.nextUser.trans h.nextUser
  passwords := h'.passwords.trans h.passwords
  nextId := h'.nextId.trans h.nextId
  rows id := (h'.rows id).trans (h.rows id)

/-- A touch changes when the session was last seen, -/
theorem touch_untouched (sv : Server) (id : UserSessionId) (time : Time) (targets : List UserSessionId) :
    sv.Untouched { sv with sessions := sv.sessions.write (.touchLastSeen id time) targets } where
  auth := rfl
  users := rfl
  nextUser := rfl
  passwords := rfl
  nextId := rfl
  rows i := by
    show ((sv.sessions.write _ targets).rows.lookup i).map _ = _
    rw [UserSessions.lookup_write, Option.map_map]
    congr 1
    funext row
    simp only [Function.comp_apply]
    split <;> rfl

/-- What a request goes on with leaves the server untouched, writes nothing on record and asks no more. -/
structure Inert (sv : Server) (o : Out) : Prop where
  server : sv.Untouched o.server
  next : ∀ t, o.next = .await t → t.isGet = true
  facts : o.facts = []

theorem Inert.ret (sv : Server) (r : Reply) : Inert sv (sv.ret r) := ⟨.refl sv, fun _ h => (by cases h), rfl⟩

theorem Inert.await (sv : Server) (h : t.isGet = true) : Inert sv (sv.await t) :=
  ⟨.refl sv, fun _ ht => (by cases ht; exact h), rfl⟩

theorem handle_inert (sv : Server) (now : Time) (user : AuthenticatedUser) {route : Route} (h : route.isGet = true) :
    Inert sv (sv.handle now user route) := by
  cases route with
  | me => exact .ret sv _
  | listSessions => exact .await sv rfl
  | changePassword | revokeSession | revokeAllExceptCurrent => cases h

theorem resume_inert (h : t.isGet = true) : Inert sv (sv.resume cfg env t) := by
  unfold Task.isGet at h
  split at h
  · simp only [Server.resume, Server.extractorValidated]
    split
    · split
      · exact .await sv h
      · exact .ret sv _
    · exact .ret sv _
  · simp only [Server.resume, Server.extractorUser]
    split
    · split
      · exact .await sv h
      · exact .ret sv _
    · exact .ret sv _
  · simp only [Server.resume]
    split
    · exact .await sv h
    · exact handle_inert sv env.now _ h
  · next route user now snap =>
    simp only [Server.resume]
    split
    · -- a touch moves no session to revoked
      obtain ⟨hserver, hnext, -⟩ := handle_inert
        { sv with sessions := sv.sessions.write (.touchLastSeen user.sessionId now) snap.targets } env.now user h
      exact ⟨(touch_untouched sv user.sessionId now snap.targets).trans hserver, hnext, rfl⟩
    · exact handle_inert sv env.now user h
  · simp only [Server.resume]
    split <;> exact .ret sv _
  · cases h

/-- Only `GET` requests are under way, and nothing has been touched. -/
structure Sys.Inert (sv : Server) (s : Sys) : Prop where
  server : sv.Untouched s.server
  tasks : ∀ tid t, s.tasks.lookup tid = some t → t.isGet = true
  history : s.history = []

/-- The event is no request but a `GET`. -/
def Event.IsRead : Event → Prop
  | .request r _ => ∃ route token, r = .authenticated route token ∧ route.isGet = true
  | .resume _ _ => True

theorem Sys.Inert.settle (h : s.Inert sv) (tid : TaskId) {o : Out} (ho : Account.Inert s.server o) :
    (s.settle tid o).Inert sv where
  server := h.server.trans ho.server
  tasks i t ht := by
    rcases settle_lookup.1 ht with ⟨-, hnext⟩ | ⟨-, hold⟩
    · exact ho.next t hnext
    · exact h.tasks i t hold
  history := by simp [Sys.settle, h.history, ho.facts]

theorem step_inert {ev : Event} (hs : s.Inert sv) (hev : ev.IsRead) (h : s.step cfg ev = some s') : s'.Inert sv := by
  cases ev with
  | request r now =>
    obtain ⟨route, token, rfl, hget⟩ := hev
    obtain rfl := Option.some.inj h
    have hentered : Account.Inert s.server (s.server.enter cfg now (.authenticated route token)) := by
      cases token with
      | none => exact .ret _ _
      | some token => exact .await _ hget
    have hsettled := hs.settle s.nextTask hentered
    exact ⟨hsettled.server, hsettled.tasks, hsettled.history⟩
  | resume tid env =>
    obtain ⟨t, ht, rfl⟩ := Option.map_eq_some_iff.1 h
    exact hs.settle tid (resume_inert (hs.tasks tid t ht))

/-- The request's origin is none of the allowed ones, or it does not say. -/
def HeaderMap.IsForeign (headers : HeaderMap) (allowedOrigins : List String) : Prop :=
  ∀ allowed ∈ allowedOrigins, headers.origin.head?.bind HeaderValue.toStr ≠ some allowed.toList

instance (headers : HeaderMap) (allowedOrigins : List String) : Decidable (headers.IsForeign allowedOrigins) :=
  inferInstanceAs (Decidable (∀ allowed ∈ allowedOrigins, _ ≠ _))

theorem checkOrigin_ok {headers : HeaderMap} {allowedOrigins : List String}
    (h : checkOrigin headers allowedOrigins = .ok ()) : ¬ headers.IsForeign allowedOrigins := by
  unfold checkOrigin at h
  split at h
  · cases h
  next value hvalue =>
  split at h
  · cases h
  next origin horigin =>
  split at h
  · cases h
  next hany =>
  simp only [Bool.not_eq_true', Bool.not_eq_false, List.any_eq_true, decide_eq_true_eq] at hany
  obtain ⟨allowed, hmem, rfl⟩ := hany
  exact fun hforeign => hforeign allowed hmem (by rw [hvalue, Option.bind_some, horigin])

/-- **Requests from another origin change nothing.** However many of them are made,
with whatever cookies and in whatever interleaving, users, passwords, sessions and
the throttle stay as they were, up to when a session was last seen, and nothing goes
on record. -/
theorem foreign_origin_inert (app : AppState) (sv : Server) (evs : List HttpEvent) (s : Sys)
    (hr : run app.step (.start sv) evs = some s)
    (hforeign : ∀ endpoint headers now, HttpEvent.request endpoint headers now ∈ evs →
      headers.IsForeign app.authRoutes.allowedOrigins) :
    sv.Untouched s.server ∧ s.history = [] := by
  rw [run_http] at hr
  have hread : ∀ ev ∈ evs.filterMap app.event, ev.IsRead := by
    intro ev hev
    cases ev with
    | resume tid env => trivial
    | request r now =>
      obtain ⟨ev, hmem, hreq⟩ := List.mem_filterMap.1 hev
      obtain ⟨endpoint, headers, rfl, rfl, hguard⟩ := event_request hreq
      have hopen : endpoint.takesCsrfGuard = false := by
        rw [Bool.eq_false_iff]
        exact fun hguarded => checkOrigin_ok (hguard hguarded) (hforeign endpoint headers now hmem)
      unfold Endpoint.takesCsrfGuard at hopen
      split at hopen
      · exact ⟨_, _, rfl, rfl⟩
      · exact ⟨_, _, rfl, rfl⟩
      · cases hopen
  have hinert : s.Inert sv :=
    (Guarded.of_forall hread).inv (Sys.Inert sv) (fun _ _ _ hs hev h => step_inert hs hev h) hr
      ⟨.refl sv, fun _ _ ht => (by cases ht), rfl⟩
  exact ⟨hinert.server, hinert.history⟩

/-- With the browser's cookie, a page of another origin asks for `me` and for a change of password. -/
def fromElsewhere : List HttpEvent :=
  let headers : HeaderMap := ⟨[asHeader (sessionCookieName ++ '=' :: (SessionToken.generate .hex zeroes).toList)],
    [asHeader "https://other.example".toList]⟩
  [.request (.authenticated .me) headers 7,
    .request (.authenticated (.changePassword ⟨"correct horse", "battery staple"⟩)) headers 7,
    .resume 0 true 7 zeroes, .resume 0 true 7 zeroes, .resume 0 true 7 zeroes, .resume 0 true 7 zeroes]

theorem foreign_origin_inert_me : ∃ s₀ s,
    run relayExample.step (.start .init) (signingIn ++ [.resume 1 true 1 zeroes]) = some s₀ ∧
    run relayExample.step (.start s₀.server) fromElsewhere = some s ∧
    s₀.server.Untouched s.server ∧ (s.server.sessions.rows.lookup 0).map (·.lastSeenAt) = some 7 := by
  have hrun : ((run relayExample.step (.start .init) (signingIn ++ [.resume 1 true 1 zeroes])).map fun s₀ =>
      (run relayExample.step (.start s₀.server) fromElsewhere).map fun s =>
        (s.server.sessions.rows.lookup 0).map (·.lastSeenAt)) = some (some (some 7)) := by decide +kernel
  obtain ⟨s₀, hr₀, hseen⟩ := Option.map_eq_some_iff.1 hrun
  obtain ⟨s, hr, hseen⟩ := Option.map_eq_some_iff.1 hseen
  refine ⟨s₀, s, hr₀, hr, (foreign_origin_inert relayExample s₀.server fromElsewhere s hr ?_).1, hseen⟩
  intro endpoint headers now hmem
  simp only [fromElsewhere, List.mem_cons, HttpEvent.request.injEq, reduceCtorEq, List.not_mem_nil, or_false] at hmem
  rcases hmem with ⟨-, rfl, -⟩ | ⟨-, rfl, -⟩ <;> decide +kernel

end RelayTerm.Account
