import Mathlib.Data.List.Sort
import RelayTerm.Auth.Logins
import RelayTerm.Lib.ReadCommitted
/-!
# Accounts: the tables

The rows of `user_passwords` and `user_sessions`, the statements of their
repositories and the reads of the auth service on top of them. A table carries
what the schema enforces: session tokens are unique, and ids are never reused.
-/
open RelayTerm.Lib

namespace RelayTerm.Account

open Auth (User SqlLower nanosPerSecond)

abbrev UserSessionId := Nat
abbrev Time := Int

/-- A SHA-256 digest. -/
abbrev Digest := List UInt8

/-! ## Passwords -/

/-- The argon2 crate: against the hash of a password, that password verifies and no other. -/
structure PasswordHasher where
  /-- The PHC string of a plaintext under a salt. -/
  hash : String → Nat → String
  verify : String → String → Bool
  verify_hash : ∀ plaintext salt other, verify (hash plaintext salt) other = true ↔ other = plaintext

/-- A stored hash. Every hash has a salt of its own; salts number the hashes in
the order in which they are stored. -/
structure PasswordHash where
  phc : String
  salt : Nat
  deriving DecidableEq, Repr

def PasswordHash.verify (hasher : PasswordHasher) (hash : PasswordHash) (plaintext : String) : Bool :=
  hasher.verify hash.phc plaintext

/-- `user_passwords`. -/
structure UserPasswords where
  rows : Registry UserId PasswordHash
  nextSalt : Nat
  past : ∀ user hash, rows.lookup user = some hash → hash.salt < nextSalt

namespace UserPasswords

variable (hasher : PasswordHasher) (t : UserPasswords)

def empty : UserPasswords := ⟨∅, 0, by simp⟩

def anyExists : Bool := !t.rows.entries.isEmpty

/-- The hash `set_password` stores. -/
def fresh (plaintext : String) : PasswordHash := ⟨hasher.hash plaintext t.nextSalt, t.nextSalt⟩

/-- `INSERT ... ON CONFLICT (user_id) DO UPDATE`. -/
def upsertForUser (user : UserId) (plaintext : String) : UserPasswords where
  rows := t.rows.insert user (t.fresh hasher plaintext)
  nextSalt := t.nextSalt + 1
  past := by
    intro u hash h
    rcases Registry.lookup_insert_iff.1 h with ⟨-, rfl⟩ | ⟨-, h⟩
    · exact Nat.lt_succ_self _
    · exact Nat.lt_succ_of_lt (t.past u hash h)

/-- `AuthService::verify_password` on the row it read. -/
def verifyPassword (user : UserId) (plaintext : String) : Except Auth.AuthServiceError Unit :=
  match t.rows.lookup user with
  | none => .error .invalidCredentials
  | some hash => if hash.verify hasher plaintext then .ok () else .error .invalidCredentials

variable {hasher t}

theorem anyExists_iff : t.anyExists = true ↔ ∃ user hash, t.rows.lookup user = some hash := by
  unfold anyExists
  cases h : t.rows.entries with
  | nil =>
    have hempty : t.rows = ∅ := AList.ext h
    simp [hempty]
  | cons e es =>
    have hmem : e ∈ t.rows.entries := by rw [h]; exact List.mem_cons_self
    exact ⟨fun _ => ⟨e.1, e.2, AList.mem_lookup_iff.2 hmem⟩, fun _ => rfl⟩

/-- Salts number the hashes: what is stored was stored before what comes next. -/
theorem salt_lt_fresh {user : UserId} {hash : PasswordHash} (plaintext : String) (h : t.rows.lookup user = some hash) :
    hash.salt < (t.fresh hasher plaintext).salt :=
  t.past user hash h

theorem anyExists_upsertForUser (user : UserId) (plaintext : String) :
    (t.upsertForUser hasher user plaintext).anyExists = true :=
  anyExists_iff.2 ⟨user, t.fresh hasher plaintext, AList.lookup_insert t.rows⟩

theorem verifyPassword_ok {user : UserId} {plaintext : String} (h : t.verifyPassword hasher user plaintext = .ok ()) :
    ∃ hash, t.rows.lookup user = some hash := by
  unfold verifyPassword at h
  split at h
  · cases h
  · next hash hrow => exact ⟨hash, hrow⟩

end UserPasswords

/-! ## Sessions -/

structure UserSession where
  userId : UserId
  tokenHash : Digest
  createdAt : Time
  lastSeenAt : Time
  expiresAt : Time
  revokedAt : Option Time := none
  revokedReason : Option String := none
  deriving DecidableEq, Repr

namespace UserSession

variable (row : UserSession)

def isExpiredAt (now : Time) : Bool := row.expiresAt ≤ now

def isRevoked : Bool := row.revokedAt.isSome

/-- The plain `SET` of the statements that skip revoked rows. -/
def revoke (time : Time) (reason : Option String) : UserSession :=
  { row with revokedAt := some time, revokedReason := reason }

/-- `CASE WHEN revoked_at IS NULL THEN ... ELSE ... END` for both columns. -/
def revokeOnce (time : Time) (reason : Option String) : UserSession :=
  if row.revokedAt.isNone then row.revoke time reason else row

end UserSession

/-- The `UPDATE`s of `user_sessions`. -/
inductive Statement where
  | touchLastSeen (id : UserSessionId) (time : Time)
  | revoke (id : UserSessionId) (time : Time) (reason : Option String)
  | revokeForUser (user : UserId) (id : UserSessionId) (time : Time) (reason : Option String)
  | revokeAllForUser (user : UserId) (time : Time) (reason : Option String)
  | revokeAllExcept (user : UserId) (except : UserSessionId) (time : Time) (reason : Option String)
  deriving DecidableEq, Repr

def Statement.update : Statement → Update UserSessionId UserSession
  | .touchLastSeen id time =>
    { finds := fun i _ => i = id, rechecks := fun i _ => i = id, set := fun row => { row with lastSeenAt := time } }
  | .revoke id time reason =>
    { finds := fun i _ => i = id, rechecks := fun i _ => i = id, set := fun row => row.revokeOnce time reason }
  -- the owner is checked in the common table expression only, the update joins with it by id
  | .revokeForUser user id time reason =>
    { finds := fun i row => i = id && row.userId = user
      rechecks := fun i _ => i = id
      set := fun row => row.revokeOnce time reason }
  | .revokeAllForUser user time reason =>
    { finds := fun _ row => row.userId = user && row.revokedAt.isNone
      rechecks := fun _ row => row.userId = user && row.revokedAt.isNone
      set := fun row => row.revoke time reason }
  | .revokeAllExcept user except time reason =>
    { finds := fun i row => row.userId = user && i ≠ except && row.revokedAt.isNone
      rechecks := fun i row => row.userId = user && i ≠ except && row.revokedAt.isNone
      set := fun row => row.revoke time reason }

/-- All of them revoke, but the touch. -/
def Statement.revokes : Statement → Bool
  | .touchLastSeen _ _ => false
  | _ => true

/-- `user_sessions`. -/
structure UserSessions where
  rows : Registry UserSessionId UserSession
  nextId : UserSessionId
  fresh : ∀ id row, rows.lookup id = some row → id < nextId
  unique : Registry.Exclusive (fun row : UserSession => some row.tokenHash) rows

inductive SessionError where
  | invalid | expired | revoked
  deriving DecidableEq, Repr

/-- What a statement that waits for a lock keeps from its snapshot. -/
structure Snapshot where
  targets : List UserSessionId
  /-- `prior_revoked_at` of `revoke_for_user`. -/
  prior : Option Time
  deriving DecidableEq, Repr

variable {row : UserSession} {st : Statement} {id : UserSessionId}

/-! ### What a statement keeps of a row -/

theorem Statement.set_owner (st : Statement) (row : UserSession) :
    (st.update.set row).tokenHash = row.tokenHash ∧ (st.update.set row).userId = row.userId := by
  cases st with
  | touchLastSeen => exact ⟨rfl, rfl⟩
  | revoke | revokeForUser =>
    simp only [Statement.update, UserSession.revokeOnce]
    split <;> exact ⟨rfl, rfl⟩
  | revokeAllForUser | revokeAllExcept => exact ⟨rfl, rfl⟩

/-- A revoked row that is written all the same keeps its time and its reason:
the `CASE` looks, and the plain `SET` is not reached. -/
theorem Statement.set_revoked {time : Time} (h : row.revokedAt = some time) (hre : st.update.rechecks id row = true) :
    (st.update.set row).revokedAt = row.revokedAt ∧ (st.update.set row).revokedReason = row.revokedReason := by
  cases st with
  | touchLastSeen => exact ⟨rfl, rfl⟩
  | revoke | revokeForUser => simp [Statement.update, UserSession.revokeOnce, h]
  | revokeAllForUser | revokeAllExcept => simp [Statement.update, h] at hre

theorem Statement.set_touch (h : st.revokes = false) (row : UserSession) :
    (st.update.set row).isRevoked = row.isRevoked := by
  cases st with
  | touchLastSeen => rfl
  | revoke | revokeForUser | revokeAllForUser | revokeAllExcept => cases h

theorem Statement.set_revoke (h : st.revokes = true) (row : UserSession) : (st.update.set row).isRevoked = true := by
  cases st with
  | touchLastSeen => cases h
  | revoke | revokeForUser =>
    simp only [Statement.update, UserSession.revokeOnce]
    split
    · rfl
    · next hsome => simpa [UserSession.isRevoked, Option.isSome_iff_ne_none] using hsome
  | revokeAllForUser | revokeAllExcept => rfl

namespace UserSessions

variable (t : UserSessions)

def empty : UserSessions := ⟨∅, 0, by simp, .empty⟩

def getByTokenHash (digest : Digest) : Option (UserSessionId × UserSession) :=
  (t.rows.entries.find? fun e => e.2.tokenHash = digest).map fun e => (e.1, e.2)

/-- `AuthService::validate_session_token` on the row it read. -/
def validate (digest : Digest) (now : Time) : Except SessionError (UserSessionId × UserSession) :=
  match t.getByTokenHash digest with
  | none => .error .invalid
  | some (id, row) =>
    if row.isRevoked then .error .revoked
    else if row.isExpiredAt now then .error .expired
    else .ok (id, row)

/-- `list_for_user`: `ORDER BY created_at DESC, id`. -/
def listForUser (user : UserId) : List (UserSessionId × UserSession) :=
  ((t.rows.select fun row => row.userId = user).insertionSort fun a b =>
    b.2.createdAt < a.2.createdAt ∨ a.2.createdAt = b.2.createdAt ∧ a.1 ≤ b.1).map fun e => (e.1, e.2)

/-- `INSERT`; the unique index refuses a token hash it knows. -/
def create (row : UserSession) : Option UserSessions :=
  if h : t.rows.any (fun s => s.tokenHash = row.tokenHash) then none
  else some {
    rows := t.rows.insert t.nextId row
    nextId := t.nextId + 1
    fresh := by
      intro i s hs
      rcases Registry.lookup_insert_iff.1 hs with ⟨rfl, -⟩ | ⟨-, hs⟩
      · exact Nat.lt_succ_self _
      · exact Nat.lt_succ_of_lt (t.fresh i s hs)
    unique := by
      refine t.unique.insert fun digest hd => .inr fun i s _ hs hsd => h ?_
      exact Registry.any_iff.2 ⟨i, s, hs, by rw [decide_eq_true_eq, Option.some.inj hsd, Option.some.inj hd]⟩ }

/-- The snapshot of a statement. -/
def snapshot (st : Statement) : Snapshot where
  targets := st.update.targets t.rows
  prior := match st with
    | .revokeForUser _ id _ _ => (t.rows.lookup id).bind (·.revokedAt)
    | _ => none

/-- The write of a statement, once it has its locks. -/
def write (st : Statement) (targets : List UserSessionId) : UserSessions where
  rows := st.update.apply targets t.rows
  nextId := t.nextId
  fresh := by
    intro i s hs
    obtain ⟨s₀, hs₀, -⟩ := Update.of_lookup_apply hs
    exact t.fresh i s₀ hs₀
  unique := by
    refine t.unique.mapRows fun i s => ?_
    split
    · exact congrArg some (st.set_owner s).1
    · rfl

/-- The row is there and not revoked. -/
def isLive (id : UserSessionId) : Bool := (t.rows.lookup id).any fun row => !row.isRevoked

/-- The row is there and revoked. -/
def isDead (id : UserSessionId) : Bool := (t.rows.lookup id).any UserSession.isRevoked

/-- The rows a write moves from not revoked to revoked: the live ones it affects. -/
def moves (st : Statement) (targets : List UserSessionId) : List UserSessionId :=
  if st.revokes then (st.update.affected targets t.rows).filter t.isLive else []

variable {t} {row : UserSession} {st : Statement} {id : UserSessionId} {targets : List UserSessionId}

theorem getByTokenHash_eq (h : t.rows.lookup id = some row) : t.getByTokenHash row.tokenHash = some (id, row) := by
  unfold getByTokenHash
  cases hfind : t.rows.entries.find? fun e => e.2.tokenHash = row.tokenHash with
  | none =>
    have := List.find?_eq_none.1 hfind ⟨id, row⟩ (AList.mem_lookup_iff.1 h)
    simp at this
  | some e =>
    -- the index makes the row the only one with its token
    have he : t.rows.lookup e.1 = some e.2 := AList.mem_lookup_iff.2 (List.mem_of_find?_eq_some hfind)
    have hhash : e.2.tokenHash = row.tokenHash := by simpa using List.find?_some hfind
    obtain rfl : e.1 = id := t.unique e.1 id e.2 row row.tokenHash he h (congrArg some hhash) rfl
    obtain rfl : e.2 = row := Option.some.inj (he.symm.trans h)
    rfl

theorem validate_revoked {now : Time} (h : t.rows.lookup id = some row) (hrev : row.isRevoked = true) :
    t.validate row.tokenHash now = .error .revoked := by
  simp [validate, getByTokenHash_eq h, hrev]

theorem validate_ok {digest : Digest} {now : Time} (h : t.validate digest now = .ok (id, row)) :
    t.rows.lookup id = some row ∧ row.isRevoked = false := by
  unfold validate at h
  split at h
  · cases h
  · next i s hget =>
    split_ifs at h with hrev hexp
    cases h
    unfold getByTokenHash at hget
    obtain ⟨e, he, heq⟩ := Option.map_eq_some_iff.1 hget
    cases heq
    exact ⟨AList.mem_lookup_iff.2 (List.mem_of_find?_eq_some he), by simpa using hrev⟩

/-- A user is shown their own sessions, and all of them. -/
theorem mem_listForUser {user : UserId} :
    (id, row) ∈ t.listForUser user ↔ t.rows.lookup id = some row ∧ row.userId = user := by
  simp only [listForUser, List.mem_map, List.mem_insertionSort, Prod.mk.injEq]
  constructor
  · rintro ⟨⟨i, r⟩, he, rfl, rfl⟩
    simpa using Registry.mem_select.1 he
  · rintro ⟨hrow, howner⟩
    exact ⟨⟨id, row⟩, Registry.mem_select.2 ⟨hrow, decide_eq_true howner⟩, rfl, rfl⟩

theorem create_eq_some {t' : UserSessions} (h : t.create row = some t') :
    t'.rows = t.rows.insert t.nextId row ∧ t'.nextId = t.nextId + 1 := by
  unfold create at h
  split at h
  · cases h
  · cases h; exact ⟨rfl, rfl⟩

/-- An insert leaves the rows that are there: its row has a new id. -/
theorem lookup_create {t' : UserSessions} {old : UserSession} (h : t.create row = some t')
    (hold : t.rows.lookup id = some old) : t'.rows.lookup id = some old := by
  rw [(create_eq_some h).1, AList.lookup_insert_ne (Nat.ne_of_lt (t.fresh id old hold))]
  exact hold

theorem lookup_write : (t.write st targets).rows.lookup id =
    (t.rows.lookup id).map fun row => if st.update.hits targets id row then st.update.set row else row :=
  Update.lookup_apply _ _ _ _

theorem isLive_iff : t.isLive id = true ↔ ∃ row, t.rows.lookup id = some row ∧ row.isRevoked = false := by
  simp [isLive, Option.any_eq_true]

theorem write_userId (st : Statement) (targets : List UserSessionId) (h : t.rows.lookup id = some row) :
    ∃ row', (t.write st targets).rows.lookup id = some row' ∧ row'.userId = row.userId :=
  Update.apply_keeps (u := st.update) UserSession.userId (fun s _ => (st.set_owner s).2) h

/-- A write leaves a revoked row revoked, when and why it was. -/
theorem write_revoked (st : Statement) (targets : List UserSessionId) {time : Time} (h : t.rows.lookup id = some row)
    (hrev : row.revokedAt = some time) :
    ∃ row', (t.write st targets).rows.lookup id = some row' ∧ row'.tokenHash = row.tokenHash ∧
      row'.revokedAt = some time ∧ row'.revokedReason = row.revokedReason := by
  refine ⟨if st.update.hits targets id row then st.update.set row else row, by rw [lookup_write, h]; rfl, ?_⟩
  split
  · next hhit =>
    obtain ⟨htime, hreason⟩ := Statement.set_revoked hrev (Update.hits_iff.1 hhit).2
    exact ⟨(st.set_owner row).1, htime.trans hrev, hreason⟩
  · exact ⟨rfl, hrev, rfl⟩

/-- What a write moves was live and no longer is. -/
theorem mem_moves : id ∈ t.moves st targets ↔ t.isLive id = true ∧ (t.write st targets).isLive id = false := by
  have hwrite : ∀ {row}, t.rows.lookup id = some row → (t.write st targets).isLive id =
      !(if st.update.hits targets id row then st.update.set row else row).isRevoked := by
    intro row hrow
    rw [isLive, lookup_write, hrow, Option.map_some, Option.any_some]
  constructor
  · intro h
    unfold moves at h
    split at h
    · next hst =>
      obtain ⟨haff, hlive⟩ := List.mem_filter.1 h
      obtain ⟨htarget, row, hrow, hre⟩ := Update.mem_affected.1 haff
      rw [hwrite hrow, Update.hits_iff.2 ⟨htarget, hre⟩, if_pos rfl, st.set_revoke hst]
      exact ⟨hlive, rfl⟩
    · cases h
  · rintro ⟨hlive, hdead⟩
    obtain ⟨row, hrow, hrev⟩ := isLive_iff.1 hlive
    rw [hwrite hrow, Bool.not_eq_false'] at hdead
    -- a row that is not written stays live, and so does one that is touched
    split at hdead
    · next hhit =>
      obtain ⟨htarget, hre⟩ := Update.hits_iff.1 hhit
      cases hst : st.revokes with
      | false => rw [st.set_touch hst, hrev] at hdead; cases hdead
      | true =>
        rw [moves, if_pos hst]
        exact List.mem_filter.2 ⟨Update.mem_affected.2 ⟨htarget, row, hrow, hre⟩, hlive⟩
    · cases hrev.symm.trans hdead

/-! ### Live and dead rows -/

theorem isDead_iff : t.isDead id = true ↔ ∃ row, t.rows.lookup id = some row ∧ row.isRevoked = true := by
  simp [isDead, Option.any_eq_true]

theorem isDead_eq_false (h : t.isLive id = true) : t.isDead id = false := by
  obtain ⟨row, hrow, hrev⟩ := isLive_iff.1 h
  simp [isDead, hrow, hrev]

theorem create_isLive {t' : UserSessions} (h : t.create row = some t') (hlive : t.isLive id = true) :
    t'.isLive id = true := by
  obtain ⟨old, hold, hrev⟩ := isLive_iff.1 hlive
  exact isLive_iff.2 ⟨old, lookup_create h hold, hrev⟩

theorem create_isDead {t' : UserSessions} (h : t.create row = some t') (hdead : t.isDead id = true) :
    t'.isDead id = true := by
  obtain ⟨old, hold, hrev⟩ := isDead_iff.1 hdead
  exact isDead_iff.2 ⟨old, lookup_create h hold, hrev⟩

theorem write_isDead (hdead : t.isDead id = true) : (t.write st targets).isDead id = true := by
  obtain ⟨row, hrow, hrev⟩ := isDead_iff.1 hdead
  obtain ⟨time, htime⟩ := Option.isSome_iff_exists.1 hrev
  obtain ⟨row', hrow', -, htime', -⟩ := write_revoked st targets hrow htime
  exact isDead_iff.2 ⟨row', hrow', by simp [UserSession.isRevoked, htime']⟩

/-- A row that is moved is dead. -/
theorem isDead_of_mem_moves (h : id ∈ t.moves st targets) : (t.write st targets).isDead id = true := by
  obtain ⟨hlive, hdead⟩ := mem_moves.1 h
  obtain ⟨row, hrow, -⟩ := isLive_iff.1 hlive
  obtain ⟨row', hrow', -⟩ := write_userId st targets hrow
  refine isDead_iff.2 ⟨row', hrow', ?_⟩
  by_contra hrev
  have : (t.write st targets).isLive id = true := isLive_iff.2 ⟨row', hrow', by simpa using hrev⟩
  rw [hdead] at this
  cases this

end UserSessions

end RelayTerm.Account
