import RelayTerm.Lib.Table
import RelayTerm.HostKey.Entries
/-!
# Hosts, SSH identities and server profiles

The rows of the three inventory tables and the statements of their
repositories. The database holds the declared foreign keys and unique indexes in
every state, so `Tables` carries them: a statement that would break one is
refused. Bodies arrive validated.
-/
open RelayTerm.Lib

namespace RelayTerm.Inventory

abbrev Time := HostKey.Time

/-! ## Rows and what the routes put into them -/

structure Host where
  ownerId : UserId
  displayName : String
  hostname : String
  port : Nat
  defaultUsername : String
  createdAt : Time
  updatedAt : Time
  deriving DecidableEq, Repr

structure CreateHost where
  ownerId : UserId
  displayName : String
  hostname : String
  port : Nat
  defaultUsername : String
  deriving DecidableEq, Repr

structure UpdateHost where
  displayName : Option String
  hostname : Option String
  port : Option Nat
  defaultUsername : Option String
  deriving DecidableEq, Repr

def CreateHost.row (input : CreateHost) (now : Time) : Host where
  ownerId := input.ownerId
  displayName := input.displayName
  hostname := input.hostname
  port := input.port
  defaultUsername := input.defaultUsername
  createdAt := now
  updatedAt := now

def UpdateHost.apply (input : UpdateHost) (now : Time) (row : Host) : Host :=
  { row with
    displayName := input.displayName.getD row.displayName
    hostname := input.hostname.getD row.hostname
    port := input.port.getD row.port
    defaultUsername := input.defaultUsername.getD row.defaultUsername
    updatedAt := now }

structure SshIdentity where
  ownerId : UserId
  name : String
  keyType : HostKey.SshKeyType
  publicKey : List UInt8
  encryptedPrivateKey : List UInt8
  fingerprintSha256 : String
  createdAt : Time
  deriving DecidableEq, Repr

/-- What the vault made of a generate or an import request. -/
structure CreateSshIdentity where
  ownerId : UserId
  name : String
  keyType : HostKey.SshKeyType
  publicKey : List UInt8
  encryptedPrivateKey : List UInt8
  fingerprintSha256 : String
  deriving DecidableEq, Repr

def CreateSshIdentity.row (input : CreateSshIdentity) (now : Time) : SshIdentity where
  ownerId := input.ownerId
  name := input.name
  keyType := input.keyType
  publicKey := input.publicKey
  encryptedPrivateKey := input.encryptedPrivateKey
  fingerprintSha256 := input.fingerprintSha256
  createdAt := now

structure ServerProfile where
  ownerId : UserId
  name : String
  hostId : HostId
  sshIdentityId : SshIdentityId
  usernameOverride : Option String
  tags : List String
  createdAt : Time
  updatedAt : Time
  disabledAt : Option Time
  deriving DecidableEq, Repr

def ServerProfile.isDisabled (p : ServerProfile) : Bool := p.disabledAt.isSome

structure CreateServerProfile where
  ownerId : UserId
  name : String
  hostId : HostId
  sshIdentityId : SshIdentityId
  usernameOverride : Option String
  tags : List String
  deriving DecidableEq, Repr

def CreateServerProfile.row (input : CreateServerProfile) (now : Time) : ServerProfile where
  ownerId := input.ownerId
  name := input.name
  hostId := input.hostId
  sshIdentityId := input.sshIdentityId
  usernameOverride := input.usernameOverride
  tags := input.tags
  createdAt := now
  updatedAt := now
  disabledAt := none

inductive SetOptional (α : Type) where
  | unchanged
  | set (value : Option α)
  deriving DecidableEq, Repr

structure UpdateServerProfile where
  name : Option String
  hostId : Option HostId
  sshIdentityId : Option SshIdentityId
  usernameOverride : SetOptional String
  tags : Option (List String)
  deriving DecidableEq, Repr

def UpdateServerProfile.apply (input : UpdateServerProfile) (now : Time) (row : ServerProfile) : ServerProfile :=
  { row with
    name := input.name.getD row.name
    hostId := input.hostId.getD row.hostId
    sshIdentityId := input.sshIdentityId.getD row.sshIdentityId
    usernameOverride := match input.usernameOverride with
      | .unchanged => row.usernameOverride
      | .set value => value
    tags := input.tags.getD row.tags
    updatedAt := now }

/-- What `terminal_sessions` holds of a profile. -/
structure TerminalSessionRef where
  serverProfileId : ServerProfileId
  ownerId : UserId
  deriving DecidableEq, Repr

/-! ## The tables -/

/-- `ssh_identities_owner_fingerprint_key` -/
def SshIdentity.key (i : SshIdentity) : Option (UserId × String) := some (i.ownerId, i.fingerprintSha256)

/-- `server_profiles_owner_name_key` -/
def ServerProfile.key (p : ServerProfile) : Option (UserId × String) := some (p.ownerId, p.name)

structure Tables where
  hosts : Table Host
  identities : Table SshIdentity
  profiles : Table ServerProfile
  sessions : List TerminalSessionRef
  hostRef : ∀ id p, profiles.lookup id = some p → (hosts.lookup p.hostId).isSome = true
  identityRef : ∀ id p, profiles.lookup id = some p → (identities.lookup p.sshIdentityId).isSome = true
  sessionRef : ∀ r ∈ sessions, (profiles.lookup r.serverProfileId).isSome = true
  fingerprintKey : Registry.Exclusive SshIdentity.key identities.rows
  nameKey : Registry.Exclusive ServerProfile.key profiles.rows

/-- No row of the registry has the key. -/
theorem not_held {α β : Type} [DecidableEq β] {f : α → Option β} {r : Registry Nat α} {k : Option β}
    (h : ¬ (r.any fun x => f x = k) = true) {i : Nat} {x : α} (hx : r.lookup i = some x) : f x ≠ k :=
  fun heq => h (Registry.any_iff.2 ⟨i, x, hx, by simp [heq]⟩)

namespace Tables

variable (tb : Tables)

def empty : Tables where
  hosts := .empty
  identities := .empty
  profiles := .empty
  sessions := []
  hostRef := by simp
  identityRef := by simp
  sessionRef := by simp
  fingerprintKey := .empty
  nameKey := .empty

/-- `get` and the filter on the owner; also the `WHERE` of the owner-scoped statements. -/
def ownedHost (id : HostId) (user : UserId) : Option Host := (tb.hosts.lookup id).filter (·.ownerId = user)

def ownedIdentity (id : SshIdentityId) (user : UserId) : Option SshIdentity :=
  (tb.identities.lookup id).filter (·.ownerId = user)

def ownedProfile (id : ServerProfileId) (user : UserId) : Option ServerProfile :=
  (tb.profiles.lookup id).filter (·.ownerId = user)

/-! ### Hosts -/

def createHost (input : CreateHost) (now : Time) : Tables :=
  { tb with
    hosts := tb.hosts.insert (input.row now)
    hostRef := fun id p hp => Table.isSome_insert (tb.hostRef id p hp) }

def updateHost (id : HostId) (user : UserId) (input : UpdateHost) (now : Time) : Except RepositoryError Tables :=
  match tb.ownedHost id user with
  | none => .error (.notFound "host")
  | some _ => .ok { tb with
      hosts := tb.hosts.modify id (input.apply now)
      hostRef := fun i p hp => (Table.isSome_modify tb.hosts id p.hostId _).trans (tb.hostRef i p hp) }

/-- The `server_profiles` half of `any_dependents_for_user`. -/
def anyProfileOfHost (id : HostId) (user : UserId) : Bool :=
  tb.profiles.rows.any fun p => p.hostId = id && p.ownerId = user

def deleteHost (id : HostId) (user : UserId) : Except RepositoryError Tables :=
  match tb.ownedHost id user with
  | none => .error (.notFound "host")
  | some _ =>
    if href : (tb.profiles.rows.any fun p => some p.hostId = some id) = true then
      .error (.conflict "host" "server_profiles_host_id_fkey")
    else .ok { tb with
      hosts := tb.hosts.erase id
      hostRef := fun i p hp =>
        Table.isSome_erase (fun heq => not_held href hp (congrArg some heq)) (tb.hostRef i p hp) }

/-! ### SSH identities -/

def createIdentity (input : CreateSshIdentity) (now : Time) : Except RepositoryError Tables :=
  if hkey : (tb.identities.rows.any fun i => i.key = (input.row now).key) = true then
    .error (.conflict "ssh_identity" "ssh_identities_owner_fingerprint_key")
  else .ok { tb with
    identities := tb.identities.insert (input.row now)
    identityRef := fun id p hp => Table.isSome_insert (tb.identityRef id p hp)
    fingerprintKey := tb.fingerprintKey.insert fun _ hb => .inr fun _ _ _ hy heq =>
      not_held hkey hy (heq.trans hb.symm) }

/-- A rename leaves the key alone. -/
def renameIdentity (id : SshIdentityId) (user : UserId) (name : String) : Except RepositoryError Tables :=
  match tb.ownedIdentity id user with
  | none => .error (.notFound "ssh_identity")
  | some _ => .ok { tb with
      identities := tb.identities.modify id ({ · with name := name })
      identityRef := fun i p hp =>
        (Table.isSome_modify tb.identities id p.sshIdentityId _).trans (tb.identityRef i p hp)
      fingerprintKey := tb.fingerprintKey.modify fun _ _ _ hb => .inl hb }

def anyProfileOfIdentity (id : SshIdentityId) (user : UserId) : Bool :=
  tb.profiles.rows.any fun p => p.sshIdentityId = id && p.ownerId = user

def deleteIdentity (id : SshIdentityId) (user : UserId) : Except RepositoryError Tables :=
  match tb.ownedIdentity id user with
  | none => .error (.notFound "ssh_identity")
  | some _ =>
    if href : (tb.profiles.rows.any fun p => some p.sshIdentityId = some id) = true then
      .error (.conflict "ssh_identity" "server_profiles_ssh_identity_id_fkey")
    else .ok { tb with
      identities := tb.identities.erase id
      identityRef := fun i p hp =>
        Table.isSome_erase (fun heq => not_held href hp (congrArg some heq)) (tb.identityRef i p hp)
      fingerprintKey := tb.fingerprintKey.erase id }

/-! ### Server profiles -/

/-- Another row of the owner has the name. -/
def nameTaken (others : Registry ServerProfileId ServerProfile) (row : ServerProfile) : Bool :=
  others.any fun p => p.key = row.key

def createProfile (input : CreateServerProfile) (now : Time) : Except RepositoryError Tables :=
  if hname : nameTaken tb.profiles.rows (input.row now) = true then
    .error (.conflict "server_profile" "server_profiles_owner_name_key")
  else if hhost : (tb.hosts.lookup input.hostId).isSome = true then
    if hidentity : (tb.identities.lookup input.sshIdentityId).isSome = true then
      .ok { tb with
        profiles := tb.profiles.insert (input.row now)
        hostRef := fun id p hp => (Table.lookup_insert.1 hp).elim
          (fun ⟨_, hnew⟩ => hnew ▸ hhost) (fun ⟨_, hold⟩ => tb.hostRef id p hold)
        identityRef := fun id p hp => (Table.lookup_insert.1 hp).elim
          (fun ⟨_, hnew⟩ => hnew ▸ hidentity) (fun ⟨_, hold⟩ => tb.identityRef id p hold)
        sessionRef := fun r hr => Table.isSome_insert (tb.sessionRef r hr)
        nameKey := tb.nameKey.insert fun _ hb => .inr fun _ _ _ hy heq => not_held hname hy (heq.trans hb.symm) }
    else .error (.conflict "server_profile" "server_profiles_ssh_identity_id_fkey")
  else .error (.conflict "server_profile" "server_profiles_host_id_fkey")

/-- What a profile row is rewritten to still meets the constraints. -/
structure Fits (id : ServerProfileId) (row : ServerProfile) : Prop where
  name : ¬ nameTaken (tb.profiles.rows.erase id) row = true
  host : (tb.hosts.lookup row.hostId).isSome = true
  identity : (tb.identities.lookup row.sshIdentityId).isSome = true

/-- The row that is there fits, whatever else is changed about it. -/
theorem fits_same {id : ServerProfileId} {row row' : ServerProfile} (hrow : tb.profiles.lookup id = some row)
    (hkey : row'.key = row.key) (hhost : row'.hostId = row.hostId)
    (hidentity : row'.sshIdentityId = row.sshIdentityId) : tb.Fits id row' where
  name := by
    intro htaken
    obtain ⟨i, p, hp, heq⟩ := Registry.any_iff.1 htaken
    obtain ⟨hne, hp⟩ := Registry.lookup_erase_iff.1 hp
    have hsame : p.key = row.key := (of_decide_eq_true heq).trans hkey
    exact hne (tb.nameKey i id p row _ hp hrow hsame rfl)
  host := hhost ▸ tb.hostRef id row hrow
  identity := hidentity ▸ tb.identityRef id row hrow

/-- Another row in the place of a profile. -/
def setProfile (id : ServerProfileId) (row : ServerProfile) (h : tb.Fits id row) : Tables :=
  { tb with
    profiles := tb.profiles.modify id fun _ => row
    hostRef := by
      intro i p hp
      rw [Table.lookup_modify] at hp
      split at hp
      · obtain ⟨-, -, rfl⟩ := Option.map_eq_some_iff.1 hp
        exact h.host
      · exact tb.hostRef i p hp
    identityRef := by
      intro i p hp
      rw [Table.lookup_modify] at hp
      split at hp
      · obtain ⟨-, -, rfl⟩ := Option.map_eq_some_iff.1 hp
        exact h.identity
      · exact tb.identityRef i p hp
    sessionRef := fun r hr => (Table.isSome_modify tb.profiles id r.serverProfileId _).trans (tb.sessionRef r hr)
    nameKey := tb.nameKey.modify fun _ _ _ hb => .inr fun _ _ hne hy heq =>
      not_held h.name (Registry.lookup_erase_iff.2 ⟨hne, hy⟩) (heq.trans hb.symm) }

def updateProfile (id : ServerProfileId) (user : UserId) (input : UpdateServerProfile) (now : Time) :
    Except RepositoryError (ServerProfile × Tables) :=
  match tb.ownedProfile id user with
  | none => .error (.notFound "server_profile")
  | some row =>
    let updated := input.apply now row
    if hname : nameTaken (tb.profiles.rows.erase id) updated = true then
      .error (.conflict "server_profile" "server_profiles_owner_name_key")
    else if hhost : (tb.hosts.lookup updated.hostId).isSome = true then
      if hidentity : (tb.identities.lookup updated.sshIdentityId).isSome = true then
        .ok (updated, tb.setProfile id updated ⟨hname, hhost, hidentity⟩)
      else .error (.conflict "server_profile" "server_profiles_ssh_identity_id_fkey")
    else .error (.conflict "server_profile" "server_profiles_host_id_fkey")

def setDisabledAt (id : ServerProfileId) (user : UserId) (disabledAt : Option Time) (now : Time) :
    Except RepositoryError (ServerProfile × Tables) :=
  match hown : tb.ownedProfile id user with
  | none => .error (.notFound "server_profile")
  | some row =>
    let updated := { row with disabledAt := disabledAt, updatedAt := now }
    .ok (updated, tb.setProfile id updated (tb.fits_same (Option.filter_eq_some_iff.1 hown).1 rfl rfl rfl))

/-- `any_dependents_for_user` -/
def anySessionOfProfile (id : ServerProfileId) (user : UserId) : Bool :=
  tb.sessions.any fun r => r.serverProfileId = id && r.ownerId = user

def deleteProfile (id : ServerProfileId) (user : UserId) : Except RepositoryError Tables :=
  match tb.ownedProfile id user with
  | none => .error (.notFound "server_profile")
  | some _ =>
    if href : (tb.sessions.any fun r => r.serverProfileId = id) = true then
      .error (.conflict "server_profile" "terminal_sessions_server_profile_id_fkey")
    else .ok { tb with
      profiles := tb.profiles.erase id
      hostRef := fun i p hp => tb.hostRef i p (Table.lookup_erase.1 hp).2
      identityRef := fun i p hp => tb.identityRef i p (Table.lookup_erase.1 hp).2
      sessionRef := fun r hr => Table.isSome_erase
        (fun heq => href (List.any_eq_true.2 ⟨r, hr, by simpa using heq⟩)) (tb.sessionRef r hr)
      nameKey := tb.nameKey.erase id }

/-- A terminal session is created for the profile. -/
def createSession (id : ServerProfileId) (user : UserId) : Option Tables :=
  if h : (tb.profiles.lookup id).isSome = true then
    some { tb with
      sessions := ⟨id, user⟩ :: tb.sessions
      sessionRef := by
        intro r hr
        rcases List.mem_cons.1 hr with rfl | hr
        · exact h
        · exact tb.sessionRef r hr }
  else none

end Tables

end RelayTerm.Inventory
