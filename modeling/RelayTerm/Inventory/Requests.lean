import RelayTerm.HostKey.Requests
import RelayTerm.Inventory.Rows
import RelayTerm.Lib.Runs
/-!
# Inventory requests as tasks

Create, update and delete of hosts, SSH identities and server profiles, and the
host-key routes, which resolve a profile of the caller and then work on the
pinned keys (`HostKey.Sys`). A request rests at an await point, which is one
statement; between two statements any other request may run. Deleting a host
deletes its `known_host_entries` rows with it (`ON DELETE CASCADE`), and waits
for a transaction that holds one of them.
-/
open RelayTerm.Lib

namespace RelayTerm.Inventory

abbrev TaskId := Nat

/-! ## What requests answer and record -/

/-- The errors of the inventory routes. -/
inductive InventoryApiError where
  | notFound (entity : String)
  | conflict (entity : String) (reason : Option String)
  | serviceUnavailable (detail : String)
  | internal
  /-- A body of a host-key route was refused. -/
  | hostKey (err : HostKey.HostKeyApiError)
  deriving DecidableEq, Repr

def InventoryApiError.ofRepository : RepositoryError → InventoryApiError
  | .notFound entity => .notFound entity
  | .conflict entity _ => .conflict entity none
  | .validation _ _ | .database _ => .internal

/-- `map_create_repository_error` -/
def InventoryApiError.ofIdentityCreate : RepositoryError → InventoryApiError
  | .conflict "ssh_identity" "ssh_identities_owner_fingerprint_key" =>
    .conflict "ssh_identity" (some "duplicate_fingerprint")
  | err => .ofRepository err

inductive AuditSource where
  | generated | imported
  deriving DecidableEq, Repr

inductive LifecycleKind where
  | created | updated | deleted | disabled | enabled
  deriving DecidableEq, Repr

inductive InventoryAuditEvent where
  | serverProfile (kind : LifecycleKind) (actor : UserId) (id : ServerProfileId) (name : String) (hostId : HostId)
      (sshIdentityId : SshIdentityId) (disabledAt : Option Time)
  | sshIdentityCreated (actor : UserId) (id : SshIdentityId) (name : String) (keyType : HostKey.SshKeyType)
      (fingerprintSha256 : String) (createdAt : Time) (source : AuditSource)
  | sshIdentityDeleted (actor : UserId) (id : SshIdentityId) (name : String) (keyType : HostKey.SshKeyType)
      (fingerprintSha256 : String) (createdAt : Time)
  deriving DecidableEq, Repr

/-- `write_lifecycle_audit` -/
def lifecycleAudit (actor : UserId) (kind : LifecycleKind) (id : ServerProfileId) (p : ServerProfile) :
    InventoryAuditEvent :=
  .serverProfile kind actor id p.name p.hostId p.sshIdentityId p.disabledAt

/-- `write_ssh_identity_create_audit` -/
def identityCreateAudit (actor : UserId) (id : SshIdentityId) (i : SshIdentity) (source : AuditSource) :
    InventoryAuditEvent :=
  .sshIdentityCreated actor id i.name i.keyType i.fingerprintSha256 i.createdAt source

/-- `write_ssh_identity_delete_audit` -/
def identityDeleteAudit (actor : UserId) (id : SshIdentityId) (i : SshIdentity) : InventoryAuditEvent :=
  .sshIdentityDeleted actor id i.name i.keyType i.fingerprintSha256 i.createdAt

inductive Reply where
  | host (id : HostId) (row : Host)
  | identity (id : SshIdentityId) (row : SshIdentity)
  | profile (id : ServerProfileId) (row : ServerProfile)
  | noContent
  | error (err : InventoryApiError)
  deriving DecidableEq, Repr

/-! ## Tasks -/

/-- What follows an audit row: the answer, or the deletion it announced. -/
inductive AfterAudit where
  | reply (r : Reply)
  | deleteIdentity (user : UserId) (id : SshIdentityId)
  | deleteProfile (user : UserId) (id : ServerProfileId)
  deriving DecidableEq, Repr

inductive Task where
  | hostCreate (input : CreateHost)
  | hostUpdateGet (user : UserId) (id : HostId) (input : UpdateHost)
  | hostUpdate (user : UserId) (id : HostId) (input : UpdateHost)
  | hostDeleteGet (user : UserId) (id : HostId)
  | hostDeleteCheck (user : UserId) (id : HostId)
  | hostDelete (user : UserId) (id : HostId)
  | identityCreate (input : CreateSshIdentity) (source : AuditSource)
  | identityRenameGet (user : UserId) (id : SshIdentityId) (name : String)
  | identityRename (user : UserId) (id : SshIdentityId) (name : String)
  | identityDeleteGet (user : UserId) (id : SshIdentityId)
  | identityDeleteCheck (user : UserId) (id : SshIdentityId) (row : SshIdentity)
  | identityDelete (user : UserId) (id : SshIdentityId)
  | profileCreateHost (input : CreateServerProfile)
  | profileCreateIdentity (input : CreateServerProfile)
  | profileCreate (input : CreateServerProfile)
  | profileUpdateGet (user : UserId) (id : ServerProfileId) (input : UpdateServerProfile)
  | profileUpdateHost (user : UserId) (id : ServerProfileId) (input : UpdateServerProfile)
  | profileUpdateIdentity (user : UserId) (id : ServerProfileId) (input : UpdateServerProfile)
  | profileUpdate (user : UserId) (id : ServerProfileId) (input : UpdateServerProfile)
  | profileDeleteGet (user : UserId) (id : ServerProfileId)
  | profileDeleteCheck (user : UserId) (id : ServerProfileId) (row : ServerProfile)
  | profileDelete (user : UserId) (id : ServerProfileId)
  | profileSwitchGet (user : UserId) (id : ServerProfileId) (kind : LifecycleKind)
  | profileSwitch (user : UserId) (id : ServerProfileId) (kind : LifecycleKind)
  | audit (event : InventoryAuditEvent) (after : AfterAudit)
  | resolveProfile (user : UserId) (id : ServerProfileId) (route : HostKey.Route)
  | resolveHost (user : UserId) (profile : ServerProfile) (route : HostKey.Route)
  | resolveIdentity (user : UserId) (profile : ServerProfile) (route : HostKey.Route)
  deriving DecidableEq, Repr

inductive Next where
  | await (t : Task)
  /-- The host-key route goes on with the pins of the host it resolved. -/
  | pins (route : HostKey.Route) (host : HostId)
  | ret (r : Reply)
  deriving DecidableEq, Repr

inductive VaultAnswer where
  | disabled | failed | ok
  deriving DecidableEq, Repr

/-- What the outside answers at an await point. -/
structure Env where
  /-- The statement succeeds. -/
  ok : Bool
  now : Time
  vault : VaultAnswer
  deriving DecidableEq, Repr

structure Server where
  tables : Tables
  audits : List InventoryAuditEvent

structure Out where
  server : Server
  next : Next
  /-- The host whose `known_host_entries` rows the statement deletes. -/
  cascade : Option HostId := none

namespace Server

variable (sv : Server)

def await (t : Task) : Out := ⟨sv, .await t, none⟩
def ret (r : Reply) : Out := ⟨sv, .ret r, none⟩
def refuse (err : InventoryApiError) : Out := sv.ret (.error err)

/-- After a statement: the tables it left, or the error it returned. -/
def wrote (result : Except RepositoryError Tables) (next : Tables → Next) : Out :=
  match result with
  | .ok tables => ⟨{ sv with tables := tables }, next tables, none⟩
  | .error err => sv.refuse (.ofRepository err)

/-- After a statement that also returned the profile's row. -/
def wroteProfile (user : UserId) (id : ServerProfileId) (kind : LifecycleKind)
    (result : Except RepositoryError (ServerProfile × Tables)) : Out :=
  match result with
  | .ok (row, tables) =>
    { sv with tables := tables }.await (.audit (lifecycleAudit user kind id row) (.reply (.profile id row)))
  | .error err => sv.refuse (.ofRepository err)

/-- An owner-scoped read, and what follows if the row is there. -/
def found {α : Type} (row : Option α) (entity : String) (next : α → Out) : Out :=
  match row with
  | none => sv.refuse (.notFound entity)
  | some x => next x

/-! ### Hosts -/

def hostCreated (env : Env) (input : CreateHost) : Out :=
  ⟨{ sv with tables := sv.tables.createHost input env.now },
    .ret (.host sv.tables.hosts.next (input.row env.now)), none⟩

/-- The answer to an update is the row as it is now. -/
def hostUpdated (id : HostId) (tables : Tables) : Next :=
  match tables.hosts.lookup id with
  | some row => .ret (.host id row)
  | none => .ret (.error (.notFound "host"))

/-- `any_dependents_for_user`: a profile of the caller or any pinned key. -/
def anyHostDependents (pins : HostKey.Sys) (id : HostId) (user : UserId) : Bool :=
  sv.tables.anyProfileOfHost id user || pins.db.rows.any fun e => e.hostId = id

def hostChecked (pins : HostKey.Sys) (user : UserId) (id : HostId) : Out :=
  if sv.anyHostDependents pins id user then sv.refuse (.conflict "host" (some "referenced"))
  else sv.await (.hostDelete user id)

def hostDeleted (user : UserId) (id : HostId) : Out :=
  match sv.tables.deleteHost id user with
  | .ok tables => ⟨{ sv with tables := tables }, .ret .noContent, some id⟩
  | .error err => sv.refuse (.ofRepository err)

/-! ### SSH identities -/

def identityCreated (env : Env) (input : CreateSshIdentity) (source : AuditSource) : Out :=
  match sv.tables.createIdentity input env.now with
  | .ok tables =>
    let id := sv.tables.identities.next
    let row := input.row env.now
    { sv with tables := tables }.await
      (.audit (identityCreateAudit input.ownerId id row source) (.reply (.identity id row)))
  | .error err => sv.refuse (.ofIdentityCreate err)

def identityRenamed (id : SshIdentityId) (tables : Tables) : Next :=
  match tables.identities.lookup id with
  | some row => .ret (.identity id row)
  | none => .ret (.error (.notFound "ssh_identity"))

def identityChecked (user : UserId) (id : SshIdentityId) (row : SshIdentity) : Out :=
  if sv.tables.anyProfileOfIdentity id user then sv.refuse (.conflict "ssh_identity" (some "referenced"))
  else sv.await (.audit (identityDeleteAudit user id row) (.deleteIdentity user id))

/-! ### Server profiles -/

def profileCreated (env : Env) (input : CreateServerProfile) : Out :=
  match sv.tables.createProfile input env.now with
  | .ok tables =>
    let id := sv.tables.profiles.next
    let row := input.row env.now
    { sv with tables := tables }.await
      (.audit (lifecycleAudit input.ownerId .created id row) (.reply (.profile id row)))
  | .error err => sv.refuse (.ofRepository err)

/-- A new identity, if the body has one, is resolved after a new host. -/
def checkNewIdentity (user : UserId) (id : ServerProfileId) (input : UpdateServerProfile) : Task :=
  if input.sshIdentityId.isSome then .profileUpdateIdentity user id input else .profileUpdate user id input

def checkNewHost (user : UserId) (id : ServerProfileId) (input : UpdateServerProfile) : Task :=
  if input.hostId.isSome then .profileUpdateHost user id input else checkNewIdentity user id input

def profileChecked (user : UserId) (id : ServerProfileId) (row : ServerProfile) : Out :=
  if sv.tables.anySessionOfProfile id user then sv.refuse (.conflict "server_profile" (some "referenced"))
  else sv.await (.audit (lifecycleAudit user .deleted id row) (.deleteProfile user id))

/-- `disable` and `enable` answer at once when there is nothing to change. -/
def switchFound (user : UserId) (id : ServerProfileId) (kind : LifecycleKind) (row : ServerProfile) : Out :=
  if row.isDisabled = decide (kind = .disabled) then sv.ret (.profile id row)
  else sv.await (.profileSwitch user id kind)

def switchTo (env : Env) : LifecycleKind → Option Time
  | .disabled => some env.now
  | _ => none

/-! ### Host-key routes -/

/-- The route once profile, host and identity are resolved. -/
def resolved (env : Env) (profile : ServerProfile) (route : HostKey.Route) : Out :=
  if profile.isDisabled then sv.refuse (.conflict "server_profile" (some "disabled"))
  else match env.vault with
    | .disabled => sv.refuse (.serviceUnavailable "vault is disabled; preflight requires a master key")
    | .failed => sv.refuse .internal
    | .ok => ⟨sv, .pins route profile.hostId, none⟩

/-! ### One await point -/

def afterAudit (sv : Server) (event : InventoryAuditEvent) : AfterAudit → Out
  | .reply r => { sv with audits := sv.audits ++ [event] }.ret r
  | .deleteIdentity user id => { sv with audits := sv.audits ++ [event] }.await (.identityDelete user id)
  | .deleteProfile user id => { sv with audits := sv.audits ++ [event] }.await (.profileDelete user id)

/-- The statement of a task and the code up to the next await point. -/
def perform (env : Env) (pins : HostKey.Sys) : Task → Out
  | .hostCreate input => sv.hostCreated env input
  | .hostUpdateGet user id input =>
    sv.found (sv.tables.ownedHost id user) "host" fun _ => sv.await (.hostUpdate user id input)
  | .hostUpdate user id input => sv.wrote (sv.tables.updateHost id user input env.now) (hostUpdated id)
  | .hostDeleteGet user id =>
    sv.found (sv.tables.ownedHost id user) "host" fun _ => sv.await (.hostDeleteCheck user id)
  | .hostDeleteCheck user id => sv.hostChecked pins user id
  | .hostDelete user id => sv.hostDeleted user id
  | .identityCreate input source => sv.identityCreated env input source
  | .identityRenameGet user id name =>
    sv.found (sv.tables.ownedIdentity id user) "ssh_identity" fun _ => sv.await (.identityRename user id name)
  | .identityRename user id name => sv.wrote (sv.tables.renameIdentity id user name) (identityRenamed id)
  | .identityDeleteGet user id =>
    sv.found (sv.tables.ownedIdentity id user) "ssh_identity" fun row => sv.await (.identityDeleteCheck user id row)
  | .identityDeleteCheck user id row => sv.identityChecked user id row
  | .identityDelete user id => sv.wrote (sv.tables.deleteIdentity id user) fun _ => .ret .noContent
  | .profileCreateHost input =>
    sv.found (sv.tables.ownedHost input.hostId input.ownerId) "host" fun _ => sv.await (.profileCreateIdentity input)
  | .profileCreateIdentity input =>
    sv.found (sv.tables.ownedIdentity input.sshIdentityId input.ownerId) "ssh_identity" fun _ =>
      sv.await (.profileCreate input)
  | .profileCreate input => sv.profileCreated env input
  | .profileUpdateGet user id input =>
    sv.found (sv.tables.ownedProfile id user) "server_profile" fun _ => sv.await (checkNewHost user id input)
  | .profileUpdateHost user id input =>
    sv.found (input.hostId.bind (sv.tables.ownedHost · user)) "host" fun _ => sv.await (checkNewIdentity user id input)
  | .profileUpdateIdentity user id input =>
    sv.found (input.sshIdentityId.bind (sv.tables.ownedIdentity · user)) "ssh_identity" fun _ =>
      sv.await (.profileUpdate user id input)
  | .profileUpdate user id input => sv.wroteProfile user id .updated (sv.tables.updateProfile id user input env.now)
  | .profileDeleteGet user id =>
    sv.found (sv.tables.ownedProfile id user) "server_profile" fun row => sv.await (.profileDeleteCheck user id row)
  | .profileDeleteCheck user id row => sv.profileChecked user id row
  | .profileDelete user id => sv.wrote (sv.tables.deleteProfile id user) fun _ => .ret .noContent
  | .profileSwitchGet user id kind =>
    sv.found (sv.tables.ownedProfile id user) "server_profile" fun row => sv.switchFound user id kind row
  | .profileSwitch user id kind =>
    sv.wroteProfile user id kind (sv.tables.setDisabledAt id user (switchTo env kind) env.now)
  | .audit event after => sv.afterAudit event after
  | .resolveProfile user id route =>
    sv.found (sv.tables.ownedProfile id user) "server_profile" fun profile => sv.await (.resolveHost user profile route)
  | .resolveHost user profile route =>
    sv.found (sv.tables.ownedHost profile.hostId user) "server_profile" fun _ =>
      sv.await (.resolveIdentity user profile route)
  | .resolveIdentity user profile route =>
    sv.found (sv.tables.ownedIdentity profile.sshIdentityId user) "server_profile" fun _ =>
      sv.resolved env profile route

end Server

/-- The host a `replace_active_pin` transaction holds a row of. -/
def holdsRowOf : HostKey.Task → Option HostId
  | .replaceCheck input _ _ | .replaceInsert input _ _ => some input.hostId
  | .replaceUpdate input _ _ _ | .replaceAuditRevoked input _ _ _ | .replaceAuditAccepted input _ _ _
  | .replaceCommit input _ _ _ => some input.hostId
  | _ => none

/-- The host delete would touch what a transaction holds. -/
def Task.waits (pins : HostKey.Sys) : Task → Bool
  | .hostDelete _ id => pins.tasks.any fun t => holdsRowOf t = some id
  | _ => false

/-- `none` says the statement has to wait. -/
def Server.resume (sv : Server) (env : Env) (pins : HostKey.Sys) (t : Task) : Option Out :=
  if env.ok = false then some (sv.refuse .internal)
  else if t.waits pins then none
  else some (sv.perform env pins t)

/-! ## The system -/

inductive Request where
  | createHost (input : CreateHost)
  | updateHost (id : HostId) (input : UpdateHost)
  | deleteHost (id : HostId)
  | createSshIdentity (input : CreateSshIdentity)
  | importSshIdentity (input : CreateSshIdentity)
  | updateSshIdentity (id : SshIdentityId) (name : String)
  | deleteSshIdentity (id : SshIdentityId)
  | createServerProfile (input : CreateServerProfile)
  | updateServerProfile (id : ServerProfileId) (input : UpdateServerProfile)
  | deleteServerProfile (id : ServerProfileId)
  | disableServerProfile (id : ServerProfileId)
  | enableServerProfile (id : ServerProfileId)
  | hostKeyPreflight (id : ServerProfileId)
  | trustHostKey (id : ServerProfileId) (body : HostKey.TrustHostKeyRequest)
  | replaceHostKey (id : ServerProfileId) (body : HostKey.ReplaceHostKeyRequest)
  deriving DecidableEq, Repr

/-- A request of a user up to its first await point. What it creates is the caller's. -/
def Request.enter (user : UserId) : Request → Next
  | .createHost input => .await (.hostCreate { input with ownerId := user })
  | .updateHost id input => .await (.hostUpdateGet user id input)
  | .deleteHost id => .await (.hostDeleteGet user id)
  | .createSshIdentity input => .await (.identityCreate { input with ownerId := user } .generated)
  | .importSshIdentity input => .await (.identityCreate { input with ownerId := user } .imported)
  | .updateSshIdentity id name => .await (.identityRenameGet user id name)
  | .deleteSshIdentity id => .await (.identityDeleteGet user id)
  | .createServerProfile input => .await (.profileCreateHost { input with ownerId := user })
  | .updateServerProfile id input => .await (.profileUpdateGet user id input)
  | .deleteServerProfile id => .await (.profileDeleteGet user id)
  | .disableServerProfile id => .await (.profileSwitchGet user id .disabled)
  | .enableServerProfile id => .await (.profileSwitchGet user id .enabled)
  | .hostKeyPreflight id => .await (.resolveProfile user id .preflight)
  | .trustHostKey id body => match body.validatedExpectedFingerprint with
    | .ok expected => .await (.resolveProfile user id (.trust expected))
    | .error err => .ret (.error (.hostKey err))
  | .replaceHostKey id body => match body.validated with
    | .ok req => .await (.resolveProfile user id (.replace user req))
    | .error err => .ret (.error (.hostKey err))

structure Sys where
  server : Server
  pins : HostKey.Sys
  tasks : Registry TaskId Task
  nextTask : TaskId

def Sys.init : Sys := ⟨⟨.empty, []⟩, .init, ∅, 0⟩

inductive Event where
  | request (user : UserId) (r : Request)
  | resume (tid : TaskId) (env : Env)
  /-- A host-key route goes on with its pins. -/
  | pin (tid : TaskId) (env : HostKey.Env)
  /-- Elsewhere a terminal session is created for the profile. -/
  | openSession (user : UserId) (profile : ServerProfileId)
  deriving DecidableEq, Repr

/-- `ON DELETE CASCADE` -/
def cascadeRows (cascade : Option HostId) (rows : List HostKey.KnownHostEntry) : List HostKey.KnownHostEntry :=
  match cascade with
  | some id => rows.filter fun e => e.hostId ≠ id
  | none => rows

/-- The pins after a request's step: rows may be deleted, a route may arrive. -/
def settlePins (pins : HostKey.Sys) (o : Out) : HostKey.Sys where
  db := { pins.db with rows := cascadeRows o.cascade pins.db.rows }
  tasks := match o.next with
    | .pins route host => pins.tasks.insert pins.nextTask (.list route host)
    | _ => pins.tasks
  nextTask := match o.next with
    | .pins _ _ => pins.nextTask + 1
    | _ => pins.nextTask

def Sys.settle (s : Sys) (tid : TaskId) (o : Out) : Sys where
  server := o.server
  pins := settlePins s.pins o
  tasks := match o.next with
    | .await t => s.tasks.insert tid t
    | _ => s.tasks.erase tid
  nextTask := s.nextTask

/-- The host a statement inserts a pin for; the foreign key asks for its row. -/
def insertsFor : HostKey.Task → Option HostId
  | .create input | .recordTrusted input => some input.hostId
  | .replaceInsert input _ _ => some input.hostId
  | _ => none

def Sys.hostMissing (s : Sys) (t : HostKey.Task) : Bool :=
  (insertsFor t).any fun host => (s.server.tables.hosts.lookup host).isNone

/-- One await point of a host-key route. -/
def Sys.resumePin (s : Sys) (tid : TaskId) (env : HostKey.Env) (t : HostKey.Task) : Option HostKey.Out :=
  if env.ok && s.hostMissing t then
    some (s.pins.db.fail (.conflict HostKey.entity "known_host_entries_host_id_fkey"))
  else s.pins.db.resume env (s.pins.tasks.erase tid) t

def Sys.step (s : Sys) : Event → Option Sys
  | .request user r =>
    some { s.settle s.nextTask ⟨s.server, r.enter user, none⟩ with nextTask := s.nextTask + 1 }
  | .resume tid env => (s.tasks.lookup tid).bind fun t => (s.server.resume env s.pins t).map (s.settle tid)
  | .pin tid env => (s.pins.tasks.lookup tid).bind fun t =>
    (s.resumePin tid env t).map fun o => { s with pins := s.pins.settle tid o }
  | .openSession user profile => (s.server.tables.createSession profile user).map fun tables =>
    { s with server := { s.server with tables := tables } }

end RelayTerm.Inventory
