import RelayTerm.Auth.Identifier
import RelayTerm.Auth.Throttle
import RelayTerm.Lib.Runs
/-!
# Concurrent logins

The login route checks the throttle, looks the user up, verifies the password
and only then records the failure, with awaits in between. Requests that pass
the check before the failures of others are recorded are not held back: the
throttle admits `max_failures` per window and, on top, as many as are in flight.
-/
open RelayTerm.Lib

namespace RelayTerm.Auth

abbrev TaskId := Nat

/-- A login that got past the check: its key and its clock reading. -/
structure Attempt where
  key : String
  now : Int
  deriving DecidableEq, Repr

inductive AuthServiceError where
  | invalidCredentials | other
  deriving DecidableEq, Repr

structure Server where
  throttler : LoginThrottler
  /-- History: the attempts that reached password verification. -/
  verifications : List Attempt
  deriving DecidableEq

/-- What the outside answers at an await point. -/
structure Env where
  /-- The repository call succeeds. -/
  ok : Bool
  /-- The users the lookup sees. -/
  users : List User
  /-- The outcome of `verify_password`. -/
  verified : Except AuthServiceError Unit
  deriving DecidableEq, Repr

inductive Task where
  | auditThrottled
  | getByEmail (email : String) (a : Attempt)
  | verifyPassword (a : Attempt) (user : User)
  | auditFailed (err : LoginApiError)
  | createSession (user : User)
  | touchLastLogin (user : User)
  | auditSucceeded (user : User)
  deriving DecidableEq, Repr

inductive Next where
  | await (t : Task)
  | ret (reply : Except LoginApiError User)
  deriving DecidableEq, Repr

structure Out where
  server : Server
  next : Next
  deriving DecidableEq

namespace Server

variable (sv : Server)

/-- `login` up to its first await point. -/
def login (req : LoginRequest) (now : Int) : Out :=
  match req.validated with
  | .error e => ⟨sv, .ret (.error e)⟩
  | .ok req =>
    let key := normalizeLoginIdentifier req.email
    match sv.throttler.check key now with
    | .throttled _ => ⟨sv, .await .auditThrottled⟩
    | .allowed => ⟨sv, .await (.getByEmail req.email ⟨key, now⟩)⟩

/-- The failed login is recorded under the clock reading it started with. -/
def reject (a : Attempt) (err : LoginApiError) : Out :=
  ⟨{ sv with throttler := sv.throttler.recordFailure a.key a.now }, .await (.auditFailed err)⟩

/-- The attempt reaches password verification. -/
def reach (a : Attempt) : Server := { sv with verifications := sv.verifications ++ [a] }

/-- An unknown email is verified against nothing, without an await. -/
def lookedUp (a : Attempt) : Option User → Out
  | some user => ⟨sv.reach a, .await (.verifyPassword a user)⟩
  | none => (sv.reach a).reject a (.unauthorized "invalid credentials")

def passwordVerified (a : Attempt) (user : User) : Except AuthServiceError Unit → Out
  | .ok () => ⟨{ sv with throttler := sv.throttler.recordSuccess a.key }, .await (.createSession user)⟩
  | .error .invalidCredentials => sv.reject a (.unauthorized "invalid credentials")
  | .error .other => sv.reject a .internal

/-- The audits of a refused login and `touch_last_login` are best-effort. -/
def resume (sql : SqlLower) (env : Env) : Task → Out
  | .auditThrottled => ⟨sv, .ret (.error (.tooManyRequests "login throttled by failed-attempts policy"))⟩
  | .getByEmail email a =>
    if env.ok then sv.lookedUp a (Auth.getByEmail sql env.users email) else ⟨sv, .ret (.error .internal)⟩
  | .verifyPassword a user => sv.passwordVerified a user env.verified
  | .auditFailed err => ⟨sv, .ret (.error err)⟩
  | .createSession user => if env.ok then ⟨sv, .await (.touchLastLogin user)⟩ else ⟨sv, .ret (.error .internal)⟩
  | .touchLastLogin user => ⟨sv, .await (.auditSucceeded user)⟩
  | .auditSucceeded user => ⟨sv, .ret (if env.ok then .ok user else .error .internal)⟩

end Server

/-! ## The system -/

structure Sys where
  server : Server
  tasks : Registry TaskId Task
  nextTask : TaskId
  /-- The clock when the last request came in. -/
  clock : Int

def Sys.init (config : LoginThrottleConfig) (clock : Int) : Sys := ⟨⟨.new config, []⟩, ∅, 0, clock⟩

inductive Event where
  | login (req : LoginRequest) (now : Int)
  | resume (tid : TaskId) (env : Env)
  deriving DecidableEq, Repr

def Sys.settle (s : Sys) (tid : TaskId) (o : Out) : Sys :=
  { s with
    server := o.server
    tasks := match o.next with
      | .await t => s.tasks.insert tid t
      | .ret _ => s.tasks.erase tid }

def Sys.step (sql : SqlLower) (s : Sys) : Event → Option Sys
  | .login req now =>
    some { s.settle s.nextTask (s.server.login req now) with nextTask := s.nextTask + 1, clock := now }
  | .resume tid env => (s.tasks.lookup tid).map fun t => s.settle tid (s.server.resume sql env t)

/-! ## Requests in flight -/

def Task.lookingUp : Task → Option Attempt
  | .getByEmail _ a => some a
  | _ => none

def Task.verifying : Task → Option Attempt
  | .verifyPassword a _ => some a
  | _ => none

/-- The attempts that satisfy `p` and are being looked up. -/
def Sys.lookingUp (s : Sys) (p : Attempt → Bool) : Nat := Registry.count (fun t => t.lookingUp.any p) s.tasks

/-- The attempts that satisfy `p` and whose password is being verified. -/
def Sys.verifying (s : Sys) (p : Attempt → Bool) : Nat := Registry.count (fun t => t.verifying.any p) s.tasks

/-- The requests for the key that passed the check and have not yet recorded their failure. -/
def Sys.inFlight (s : Sys) (key : String) : Nat := s.lookingUp (·.key = key) + s.verifying (·.key = key)

/-- Clock readings do not decrease, no login for the key succeeds, and fewer
than `MAX_TRACKED_KEYS` keys are tracked. -/
def Sys.Orderly (key : String) (s : Sys) : Event → Prop
  | .login _ now => s.clock ≤ now
  | .resume tid env => s.server.throttler.trackedKeys < maxTrackedKeys ∧
      (((s.tasks.lookup tid).bind Task.verifying).any (·.key = key) = true → env.verified ≠ .ok ())

/-- Whoever passes the check for the key finds at most `k` others in flight. -/
def Sys.Crowd (key : String) (k : Nat) (s : Sys) : Event → Prop
  | .login req now => normalizeLoginIdentifier req.email = key → s.server.throttler.check key now = .allowed →
      s.inFlight key ≤ k
  | .resume _ _ => True

instance (key : String) (s : Sys) : (ev : Event) → Decidable (s.Orderly key ev)
  | .login _ _ => inferInstanceAs (Decidable (_ ≤ _))
  | .resume _ _ => inferInstanceAs (Decidable (_ ∧ _))

instance (key : String) (k : Nat) (s : Sys) : (ev : Event) → Decidable (s.Crowd key k ev)
  | .login _ _ => inferInstanceAs (Decidable (_ → _ → _))
  | .resume _ _ => isTrue trivial

/-! ## What a step can do -/

variable {sql : SqlLower} {sv : Server} {env : Env} {t : Task} {o : Out} {s s' : Sys} {tid : TaskId}

/-- A resumed request loses or keeps its attempt, takes it on to verification, or records it. -/
inductive Effect (sv : Server) (env : Env) : Task → Out → Prop where
  | quiet (t : Task) (next : Next) (hl : t.lookingUp = none) (hv : t.verifying = none)
      (hnext : ∀ t', next = .await t' → t'.lookingUp = none ∧ t'.verifying = none) : Effect sv env t ⟨sv, next⟩
  | dropped (email : String) (a : Attempt) (reply : Except LoginApiError User) :
      Effect sv env (.getByEmail email a) ⟨sv, .ret reply⟩
  | found (email : String) (a : Attempt) (user : User) :
      Effect sv env (.getByEmail email a) ⟨sv.reach a, .await (.verifyPassword a user)⟩
  | unknown (email : String) (a : Attempt) (err : LoginApiError) :
      Effect sv env (.getByEmail email a) ((sv.reach a).reject a err)
  | wrong (a : Attempt) (user : User) (err : LoginApiError) : Effect sv env (.verifyPassword a user) (sv.reject a err)
  | accepted (a : Attempt) (user : User) (hok : env.verified = .ok ()) :
      Effect sv env (.verifyPassword a user)
        ⟨{ sv with throttler := sv.throttler.recordSuccess a.key }, .await (.createSession user)⟩

theorem resume_effect (sql : SqlLower) (sv : Server) (env : Env) (t : Task) :
    Effect sv env t (sv.resume sql env t) := by
  cases t with
  | auditThrottled | auditFailed | auditSucceeded => exact .quiet _ _ rfl rfl (by simp)
  | touchLastLogin user => exact .quiet _ _ rfl rfl (by simp [Task.lookingUp, Task.verifying])
  | createSession user =>
    simp only [Server.resume]
    split <;> exact .quiet _ _ rfl rfl (by simp [Task.lookingUp, Task.verifying])
  | getByEmail email a =>
    simp only [Server.resume]
    split
    · cases getByEmail sql env.users email with
      | none => exact .unknown email a _
      | some user => exact .found email a user
    · exact .dropped email a _
  | verifyPassword a user =>
    simp only [Server.resume]
    cases hv : env.verified with
    | ok _ => exact .accepted a user hv
    | error e => cases e <;> exact .wrong a user _

theorem step_resume (h : s.step sql (.resume tid env) = some s') :
    ∃ t o, s.tasks.lookup tid = some t ∧ Effect s.server env t o ∧ s' = s.settle tid o := by
  obtain ⟨t, ht, rfl⟩ := Option.map_eq_some_iff.1 h
  exact ⟨t, _, ht, resume_effect sql s.server env t, rfl⟩

/-- One, if there is an attempt and it satisfies `p`. -/
def tally (p : Attempt → Bool) : Option Attempt → Nat
  | some a => if p a then 1 else 0
  | none => 0

def Next.task : Next → Option Task
  | .await t => some t
  | .ret _ => none

theorem any_tally (p : Attempt → Bool) (x : Option Attempt) : (if x.any p then 1 else 0) = tally p x := by
  cases x <;> simp [tally]

theorem settle_count (f : Task → Option Attempt) (p : Attempt → Bool) (ht : s.tasks.lookup tid = some t) :
    Registry.count (fun t => (f t).any p) (s.settle tid o).tasks + tally p (f t) =
      Registry.count (fun t => (f t).any p) s.tasks + tally p (o.next.task.bind f) := by
  obtain ⟨sv, next⟩ := o
  rw [← any_tally, ← any_tally]
  cases next with
  | await t' => exact Registry.count_insert_old _ ht
  | ret reply => exact (Registry.count_erase _ ht).symm

theorem settle_count_new (f : Task → Option Attempt) (p : Attempt → Bool) (ht : s.tasks.lookup tid = none) :
    Registry.count (fun t => (f t).any p) (s.settle tid o).tasks =
      Registry.count (fun t => (f t).any p) s.tasks + tally p (o.next.task.bind f) := by
  obtain ⟨sv, next⟩ := o
  rw [← any_tally]
  cases next with
  | await t' => exact Registry.count_insert_new _ ht
  | ret reply =>
    show Registry.count _ (s.tasks.erase tid) = _
    rw [Registry.erase_of_lookup_none ht]
    rfl

theorem settle_lookup {i : TaskId} :
    (s.settle tid o).tasks.lookup i = some t ↔
      (i = tid ∧ o.next = .await t) ∨ (i ≠ tid ∧ s.tasks.lookup i = some t) := by
  obtain ⟨sv, next⟩ := o
  cases next with
  | await t' => simp [Sys.settle, Registry.lookup_insert_iff]
  | ret reply => simp [Sys.settle, Registry.lookup_erase_iff]

/-! ## The books of a key -/

/-- The attempt is for the key and in the window that starts at `start`. -/
def Attempt.isIn (key : String) (start window : Int) (a : Attempt) : Bool :=
  a.key = key && (start ≤ a.now && a.now < start + window)

/-- The failures of a window. -/
def within (start window : Int) (times : List Int) : Nat := times.countP fun t => start ≤ t && t < start + window

theorem within_le_since (start window : Int) (times : List Int) : within start window times ≤ since start times := by
  apply List.countP_mono_left
  intro t _ h
  simp only [Bool.and_eq_true, decide_eq_true_eq] at h ⊢
  exact h.1

variable {config : LoginThrottleConfig} {key : String} {k : Nat} {recorded : List Int}

/-- Of the attempts that satisfy `p`: what reached verification was recorded as a
failure or is still being verified; with what is being looked up it is no more
than `bound`. -/
structure Sys.Balanced (p : Attempt → Bool) (bound recorded : Nat) (s : Sys) : Prop where
  reached : s.server.verifications.countP p = recorded + s.verifying p
  bounded : s.server.verifications.countP p + s.lookingUp p ≤ bound

/-- The throttler knows the failures recorded for the key, and the books of every window are balanced. -/
structure Sys.Counted (config : LoginThrottleConfig) (key : String) (k : Nat) (s : Sys) : Prop where
  policy : s.server.throttler.config = config
  fresh : ∀ i t, s.tasks.lookup i = some t → i < s.nextTask
  past : ∀ i t a, s.tasks.lookup i = some t → t.lookingUp = some a ∨ t.verifying = some a → a.now ≤ s.clock
  books : ∃ recorded, (s.server.throttler.state key).Knows config recorded s.clock ∧
    ∀ start, s.Balanced (Attempt.isIn key start config.window) (config.maxFailures + k)
      (within start config.window recorded)

theorem init_counted {clock : Int} (hmax : 1 ≤ config.maxFailures) : (Sys.init config clock).Counted config key k where
  policy := rfl
  fresh := by simp [Sys.init]
  past := by simp [Sys.init]
  books := ⟨[], knows_new hmax, fun start => ⟨rfl, Nat.zero_le _⟩⟩

/-- A failure goes into the books of its key. -/
theorem recordFailure_books {th : LoginThrottler} {clock : Int} {a : Attempt} (hpolicy : th.config = config)
    (hroom : th.trackedKeys < maxTrackedKeys) (hpast : a.now ≤ clock)
    (hknows : (th.state key).Knows config recorded clock) :
    ∃ recorded', ((th.recordFailure a.key a.now).state key).Knows config recorded' clock ∧
      ∀ start, within start config.window recorded' =
        within start config.window recorded + if a.isIn key start config.window then 1 else 0 := by
  by_cases hkey : a.key = key
  · subst hkey
    refine ⟨recorded ++ [a.now], ?_, fun start => ?_⟩
    · rw [recordFailure_state hroom, hpolicy]
      exact recordFailure_knows hknows hpast
    · simp [within, Attempt.isIn, List.countP_append, List.countP_singleton]
  · refine ⟨recorded, ?_, fun start => ?_⟩
    · rw [recordFailure_state_ne hroom (Ne.symm hkey)]
      exact hknows
    · simp [Attempt.isIn, hkey]

theorem countP_reach (p : Attempt → Bool) (a : Attempt) :
    (sv.reach a).verifications.countP p = sv.verifications.countP p + if p a then 1 else 0 := by
  simp [Server.reach, List.countP_append, List.countP_singleton]

/-- The part of the invariant that is about single tasks. -/
theorem resume_counted_tasks (hs : s.Counted config key k) (ht : s.tasks.lookup tid = some t)
    (he : Effect s.server env t o) :
    (∀ i u, (s.settle tid o).tasks.lookup i = some u → i < s.nextTask) ∧
      ∀ i u a, (s.settle tid o).tasks.lookup i = some u → u.lookingUp = some a ∨ u.verifying = some a →
        a.now ≤ s.clock := by
  refine ⟨fun i u hu => ?_, fun i u a hu ha => ?_⟩
  · rcases settle_lookup.1 hu with ⟨rfl, -⟩ | ⟨-, hu⟩
    · exact hs.fresh i t ht
    · exact hs.fresh i u hu
  · rcases settle_lookup.1 hu with ⟨-, hnext⟩ | ⟨-, hu⟩
    · -- the task that goes on has its attempt from before
      cases he with
      | quiet _ next _ _ hquiet =>
        obtain ⟨hl, hv⟩ := hquiet u hnext
        simp [hl, hv] at ha
      | dropped => cases hnext
      | found email a' user =>
        obtain rfl := Next.await.inj hnext
        obtain ha | ha := ha
        · cases ha
        · obtain rfl := Option.some.inj ha
          exact hs.past tid _ a' ht (.inl rfl)
      | unknown | wrong | accepted =>
        obtain rfl := Next.await.inj hnext
        simp [Task.lookingUp, Task.verifying] at ha
    · exact hs.past i u a hu ha

/-- The books stay balanced if what leaves verification is recorded, what enters
it has left the lookup, and the lookup takes on nothing else. -/
theorem Sys.Balanced.settle {p : Attempt → Bool} {bound r r' : Nat} (hb : s.Balanced p bound r)
    (ht : s.tasks.lookup tid = some t)
    (hverify : o.server.verifications.countP p + tally p t.verifying + r =
      s.server.verifications.countP p + tally p (o.next.task.bind Task.verifying) + r')
    (hlook : o.server.verifications.countP p + tally p (o.next.task.bind Task.lookingUp) ≤
      s.server.verifications.countP p + tally p t.lookingUp) :
    (s.settle tid o).Balanced p bound r' := by
  obtain ⟨hreached, hbounded⟩ := hb
  have hl := settle_count (o := o) Task.lookingUp p ht
  have hv := settle_count (o := o) Task.verifying p ht
  unfold Sys.lookingUp at hbounded
  unfold Sys.verifying at hreached
  refine ⟨?_, ?_⟩
  · show o.server.verifications.countP p = r' + Registry.count _ (s.settle tid o).tasks
    omega
  · show o.server.verifications.countP p + Registry.count _ (s.settle tid o).tasks ≤ bound
    omega

theorem resume_counted (hs : s.Counted config key k) (hok : s.Orderly key (.resume tid env))
    (h : s.step sql (.resume tid env) = some s') : s'.Counted config key k := by
  obtain ⟨t, o, ht, he, rfl⟩ := step_resume h
  obtain ⟨hroom, hfails⟩ := hok
  obtain ⟨hfresh, hpast⟩ := resume_counted_tasks hs ht he
  obtain ⟨recorded, hknows, hbalanced⟩ := hs.books
  cases he with
  | quiet _ next hl hv hquiet =>
    have hnext : ∀ f : Task → Option Attempt, (∀ t', next = .await t' → f t' = none) → next.task.bind f = none := by
      intro f hf
      cases next with
      | await t' => exact hf t' rfl
      | ret reply => rfl
    refine ⟨hs.policy, hfresh, hpast, recorded, hknows, fun start => (hbalanced start).settle ht ?_ ?_⟩
    · rw [hv, hnext Task.verifying fun t' ht' => (hquiet t' ht').2]
    · rw [hl, hnext Task.lookingUp fun t' ht' => (hquiet t' ht').1]
  | dropped email a reply =>
    refine ⟨hs.policy, hfresh, hpast, recorded, hknows, fun start => (hbalanced start).settle ht rfl ?_⟩
    exact Nat.add_le_add_left (Nat.zero_le _) _
  | found email a user =>
    refine ⟨hs.policy, hfresh, hpast, recorded, hknows, fun start => (hbalanced start).settle ht ?_ ?_⟩
    · rw [countP_reach]; rfl
    · rw [countP_reach]; exact Nat.le_refl _
  | unknown email a err =>
    obtain ⟨recorded', hknows', hwithin⟩ :=
      recordFailure_books hs.policy hroom (hs.past tid _ a ht (.inl rfl)) hknows
    refine ⟨recordFailure_config.trans hs.policy, hfresh, hpast, recorded', hknows',
      fun start => (hbalanced start).settle ht ?_ ?_⟩
    · rw [hwithin start]
      show (s.server.reach a).verifications.countP _ + 0 + _ = _
      rw [countP_reach]
      show _ = _ + 0 + _
      omega
    · show (s.server.reach a).verifications.countP _ + 0 ≤ _
      rw [countP_reach]
      exact Nat.le_refl _
  | wrong a user err =>
    obtain ⟨recorded', hknows', hwithin⟩ :=
      recordFailure_books hs.policy hroom (hs.past tid _ a ht (.inr rfl)) hknows
    refine ⟨recordFailure_config.trans hs.policy, hfresh, hpast, recorded', hknows',
      fun start => (hbalanced start).settle ht ?_ (Nat.le_refl _)⟩
    rw [hwithin start]
    show s.server.verifications.countP _ + (if a.isIn key start config.window then 1 else 0) + _ =
      s.server.verifications.countP _ + 0 + _
    omega
  | accepted a user hverified =>
    have hkey : a.key ≠ key := by
      intro hkey
      refine hfails ?_ hverified
      simp [ht, Task.verifying, hkey]
    refine ⟨hs.policy, hfresh, hpast, recorded, ?_, fun start => (hbalanced start).settle ht ?_ (Nat.le_refl _)⟩
    · show ((s.server.throttler.recordSuccess a.key).state key).Knows config recorded s.clock
      rw [recordSuccess_state_ne (Ne.symm hkey)]
      exact hknows
    · have hout : tally (Attempt.isIn key start config.window) (some a) = 0 := by
        simp [tally, Attempt.isIn, hkey]
      show _ + tally _ (some a) + _ = _ + 0 + _
      rw [hout]

theorem validated_ok {req req' : LoginRequest} (h : req.validated = .ok req') : req' = req := by
  unfold LoginRequest.validated at h
  cases hemail : validateEmail req.email with
  | error e => simp [hemail, bind, Except.bind] at h
  | ok _ =>
    cases hpassword : validatePassword req.password with
    | error e => simp [hemail, hpassword, bind, Except.bind] at h
    | ok _ => simpa [hemail, hpassword, bind, Except.bind, pure, Except.pure, eq_comm] using h

/-- A new request waits for nothing that counts, or for the lookup of an attempt
that got past the check. -/
theorem login_next (sv : Server) (req : LoginRequest) (now : Int) : (sv.login req now).server = sv ∧
    ((∀ f : Task → Option Attempt, f .auditThrottled = none → (sv.login req now).next.task.bind f = none) ∨
      (sv.login req now).next = .await (.getByEmail req.email ⟨normalizeLoginIdentifier req.email, now⟩) ∧
        sv.throttler.check (normalizeLoginIdentifier req.email) now = .allowed) := by
  unfold Server.login
  cases hval : req.validated with
  | error e => exact ⟨rfl, .inl fun f _ => rfl⟩
  | ok req' =>
    obtain rfl := validated_ok hval
    cases hcheck : sv.throttler.check (normalizeLoginIdentifier req'.email) now with
    | throttled seconds => simp [hcheck, Next.task]
    | allowed => simp [hcheck]

/-- Room for one more: past the check the window has seen fewer than
`max_failures` failures, and at most `k` attempts are in flight. -/
theorem admitted_bounded {now start : Int} (hblock : config.window ≤ config.block) (hclock : s.clock ≤ now)
    (hcheck : s.server.throttler.check key now = .allowed) (hcrowd : s.inFlight key ≤ k)
    (hknows : (s.server.throttler.state key).Knows config recorded s.clock) (hin : now < start + config.window)
    (hb : s.Balanced (Attempt.isIn key start config.window) (config.maxFailures + k)
      (within start config.window recorded)) :
    s.server.verifications.countP (Attempt.isIn key start config.window) +
      s.lookingUp (Attempt.isIn key start config.window) < config.maxFailures + k := by
  have hfew : since start recorded < config.maxFailures := by
    rcases hknows start (by omega) with hblocked | ⟨hfew, -⟩
    · exact absurd hblocked (check_allowed hcheck (by omega))
    · exact hfew
  have hwithin := within_le_since start config.window recorded
  have hkey : ∀ x : Option Attempt, x.any (Attempt.isIn key start config.window) = true →
      x.any (fun a => a.key = key) = true := by
    intro x hx
    cases x with
    | none => cases hx
    | some a =>
      simp only [Option.any_some, Attempt.isIn, Bool.and_eq_true] at hx ⊢
      exact hx.1
  have hlooking : s.lookingUp (Attempt.isIn key start config.window) ≤ s.lookingUp (·.key = key) :=
    List.countP_mono_left fun e _ => hkey e.2.lookingUp
  have hverifying : s.verifying (Attempt.isIn key start config.window) ≤ s.verifying (·.key = key) :=
    List.countP_mono_left fun e _ => hkey e.2.verifying
  have hreached := hb.reached
  unfold Sys.inFlight at hcrowd
  omega

section Login

variable {req : LoginRequest} {now : Int} (hs : s.Counted config key k) (hclock : s.clock ≤ now)
include hs

theorem Sys.Counted.nextTask_free : s.tasks.lookup s.nextTask = none := Registry.lookup_above hs.fresh

include hclock in
/-- The part of the invariant that is about single tasks. -/
theorem login_counted_tasks (req : LoginRequest) :
    (∀ i t, (s.settle s.nextTask (s.server.login req now)).tasks.lookup i = some t → i < s.nextTask + 1) ∧
      ∀ i t a, (s.settle s.nextTask (s.server.login req now)).tasks.lookup i = some t →
        t.lookingUp = some a ∨ t.verifying = some a → a.now ≤ now := by
  refine ⟨fun i t ht => ?_, fun i t a ht ha => ?_⟩
  · rcases settle_lookup.1 ht with ⟨rfl, -⟩ | ⟨-, ht⟩
    · exact Nat.lt_succ_self _
    · exact Nat.lt_succ_of_lt (hs.fresh i t ht)
  · rcases settle_lookup.1 ht with ⟨-, ht⟩ | ⟨-, ht⟩
    · rcases (login_next s.server req now).2 with hquiet | ⟨hlookup, -⟩
      · have hl := hquiet Task.lookingUp rfl
        have hv := hquiet Task.verifying rfl
        rw [ht] at hl hv
        rcases ha with ha | ha
        · cases ha.symm.trans hl
        · cases ha.symm.trans hv
      · obtain rfl := Next.await.inj (ht.symm.trans hlookup)
        rcases ha with ha | ha
        · obtain rfl := Option.some.inj ha
          exact Int.le_refl now
        · cases ha
    · exact Int.le_trans (hs.past i t a ht ha) hclock

/-- A new request adds to what is being looked up, and only if it passed the check. -/
theorem login_balanced {p : Attempt → Bool} {bound r : Nat} (hb : s.Balanced p bound r)
    (hroom : s.server.throttler.check (normalizeLoginIdentifier req.email) now = .allowed →
      p ⟨normalizeLoginIdentifier req.email, now⟩ = true → s.server.verifications.countP p + s.lookingUp p < bound) :
    (s.settle s.nextTask (s.server.login req now)).Balanced p bound r := by
  obtain ⟨hserver, hnext⟩ := login_next s.server req now
  constructor
  · have hv := settle_count_new (o := s.server.login req now) Task.verifying p hs.nextTask_free
    have hnone : (s.server.login req now).next.task.bind Task.verifying = none := by
      rcases hnext with hquiet | ⟨hlookup, -⟩
      · exact hquiet _ rfl
      · rw [hlookup]
        rfl
    show (s.server.login req now).server.verifications.countP p = r + Registry.count _ _
    rw [hserver, hv, hnone]
    exact hb.reached
  · have hl := settle_count_new (o := s.server.login req now) Task.lookingUp p hs.nextTask_free
    show (s.server.login req now).server.verifications.countP p + Registry.count _ _ ≤ bound
    rw [hserver, hl, ← Nat.add_assoc]
    rcases hnext with hquiet | ⟨hlookup, hcheck⟩
    · rw [hquiet _ rfl]
      exact hb.bounded
    · rw [hlookup]
      show s.server.verifications.countP p + s.lookingUp p + (if p ⟨_, now⟩ then 1 else 0) ≤ bound
      split
      · next hin => exact hroom hcheck hin
      · exact hb.bounded

theorem login_counted (hblock : config.window ≤ config.block) (hok : s.Orderly key (.login req now))
    (hcrowd : s.Crowd key k (.login req now)) (h : s.step sql (.login req now) = some s') :
    s'.Counted config key k := by
  obtain rfl := Option.some.inj h
  have hclock : s.clock ≤ now := hok
  have hserver := (login_next s.server req now).1
  obtain ⟨recorded, hknows, hbalanced⟩ := hs.books
  obtain ⟨hfresh, hpast⟩ := login_counted_tasks hs hclock req
  refine ⟨?_, hfresh, hpast, recorded, ?_, fun start => ?_⟩
  · show (s.server.login req now).server.throttler.config = config
    rw [hserver]
    exact hs.policy
  · show ((s.server.login req now).server.throttler.state key).Knows config recorded now
    rw [hserver]
    exact hknows.later hclock
  · have hb : (s.settle s.nextTask (s.server.login req now)).Balanced (Attempt.isIn key start config.window)
        (config.maxFailures + k) (within start config.window recorded) := by
      refine login_balanced hs (hbalanced start) fun hcheck hin => ?_
      simp only [Attempt.isIn, Bool.and_eq_true, decide_eq_true_eq] at hin
      obtain ⟨rfl, -, hlt⟩ := hin
      exact admitted_bounded hblock hclock hcheck (hcrowd rfl hcheck) hknows hlt (hbalanced start)
    exact ⟨hb.reached, hb.bounded⟩

end Login

/-- **What the throttle bounds.** If whoever passes the check for a key finds at
most `k` others for it in flight, and no login for it succeeds, then at most
`max_failures + k` attempts of any window get to password verification; with
`k = 0`, where requests for one key do not overlap, `max_failures`. -/
theorem verifications_bounded (sql : SqlLower) (config : LoginThrottleConfig) (hmax : 1 ≤ config.maxFailures)
    (hblock : config.window ≤ config.block) (key : String) (k : Nat) (clock : Int) (evs : List Event)
    (hguard : Guarded (Sys.step sql) (fun s ev => s.Orderly key ev ∧ s.Crowd key k ev) (.init config clock) evs)
    (hr : run (Sys.step sql) (.init config clock) evs = some s) (start : Int) :
    s.server.verifications.countP (Attempt.isIn key start config.window) ≤ config.maxFailures + k := by
  have hcounted : s.Counted config key k := by
    refine hguard.inv (Sys.Counted config key k) (fun s ev s' hs hok h => ?_) hr (init_counted hmax)
    cases ev with
    | login req now => exact login_counted hs hblock hok.1 hok.2 h
    | resume tid env => exact resume_counted hs hok.1 h
  obtain ⟨recorded, -, hbalanced⟩ := hcounted.books
  exact Nat.le_trans (Nat.le_add_right _ _) (hbalanced start).bounded

-- the default policy is one of these
example : 1 ≤ LoginThrottleConfig.v1Default.maxFailures ∧
    LoginThrottleConfig.v1Default.window ≤ LoginThrottleConfig.v1Default.block := by decide

def request : LoginRequest := ⟨"a@b.c", "correct horse"⟩

/-- One allowed guess at an unknown address, and a second one after it. -/
def guesses : List Event :=
  [.login request 0, .resume 0 ⟨true, [], .ok ()⟩, .resume 0 ⟨true, [], .ok ()⟩, .login request 3,
    .resume 1 ⟨true, [], .ok ()⟩]

theorem verifications_bounded_apart : ∃ s, run (Sys.step .basic) (.init ⟨1, 10, 10⟩ 0) guesses = some s ∧
    s.server.verifications = [⟨"a@b.c", 0⟩] ∧ s.server.verifications.countP (Attempt.isIn "a@b.c" 0 10) ≤ 1 + 0 :=
  ⟨_, rfl, by decide, verifications_bounded .basic ⟨1, 10, 10⟩ (by decide) (by decide) "a@b.c" 0 0 guesses (by decide)
    rfl 0⟩

/-- Two requests that both pass the check before either failure is recorded. -/
theorem verifications_unbounded : ¬ ∀ (sql : SqlLower) (config : LoginThrottleConfig) (key : String) (clock : Int)
    (evs : List Event) (s : Sys), 1 ≤ config.maxFailures → config.window ≤ config.block →
    Guarded (Sys.step sql) (Sys.Orderly key) (.init config clock) evs →
    run (Sys.step sql) (.init config clock) evs = some s →
    ∀ start, s.server.verifications.countP (Attempt.isIn key start config.window) ≤ config.maxFailures := by
  intro h
  have hcount := h .basic ⟨1, 10, 10⟩ "a@b.c" 0
    [.login request 0, .login request 0, .resume 0 ⟨true, [], .ok ()⟩, .resume 1 ⟨true, [], .ok ()⟩] _
    (by decide) (by decide) (by decide) rfl 0
  exact absurd hcount (by decide)

end RelayTerm.Auth
