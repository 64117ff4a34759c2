import RelayTerm.Inventory.Steps
import RelayTerm.Vault.Identity
/-!
# Stored identities

The inventory's requests with a vault behind them: only the two routes that ask
the vault insert an identity, and a route that connects decrypts the identity it
has resolved. Whatever requests are interleaved, and whichever statements fail,
each identity on record opens under the master key.
-/
open RelayTerm.Lib

namespace RelayTerm.Vault

open Inventory

/-! ## Key material across one await point -/

def rowMaterial (row : SshIdentity) : GeneratedSshIdentity where
  keyType := row.keyType
  publicKeyOpenssh := row.publicKey
  fingerprintSha256 := row.fingerprintSha256
  encryptedPrivateKey := row.encryptedPrivateKey

/-- The key material a task is about to insert. -/
def inserts : Task → Option GeneratedSshIdentity
  | .identityCreate input _ => some (material input)
  | _ => none

variable {sv : Server} {pins : HostKey.Sys} {env : Env} {t : Task} {o : Out} {s s' : Sys} {vault : VaultService}

/-- An identity's key material was there, or is what the task inserts; and no task
goes on to insert some. -/
structure KeyEffect (sv : Server) (t : Task) (o : Out) : Prop where
  rows : ∀ id row', o.server.tables.identities.lookup id = some row' →
    (∃ row, sv.tables.identities.lookup id = some row ∧ rowMaterial row' = rowMaterial row) ∨
      inserts t = some (rowMaterial row')
  next : o.next.Sat fun t' => inserts t' = none

theorem KeyEffect.of_eq (h : o.server.tables.identities = sv.tables.identities)
    (hnext : o.next.Sat fun t' => inserts t' = none) : KeyEffect sv t o :=
  ⟨fun _ row' hrow' => .inl ⟨row', h ▸ hrow', rfl⟩, hnext⟩

theorem KeyEffect.refuse (err : Inventory.InventoryApiError) : KeyEffect sv t (sv.refuse err) :=
  .of_eq rfl (Next.sat_ret _ _)

theorem KeyEffect.await {t' : Task} (h : inserts t' = none) : KeyEffect sv t (sv.await t') :=
  .of_eq rfl (Next.sat_await h)

theorem found_keys {α : Type} {row? : Option α} {entity : String} {next : α → Out}
    (h : ∀ row, KeyEffect sv t (next row)) : KeyEffect sv t (sv.found row? entity next) := by
  unfold Server.found
  split
  · exact .refuse _
  · exact h _

theorem wrote_keys {result : Except RepositoryError Tables} {next : Tables → Next}
    (h : ∀ tables, result = .ok tables → tables.identities = sv.tables.identities)
    (hnext : ∀ tables, (next tables).Sat fun t' => inserts t' = none) : KeyEffect sv t (sv.wrote result next) := by
  unfold Server.wrote
  split
  · next tables => exact .of_eq (h tables rfl) (hnext tables)
  · exact .refuse _

theorem wroteProfile_keys {user : UserId} {id : ServerProfileId} {kind : LifecycleKind}
    {result : Except RepositoryError (ServerProfile × Tables)}
    (h : ∀ row tables, result = .ok (row, tables) → tables.identities = sv.tables.identities) :
    KeyEffect sv t (sv.wroteProfile user id kind result) := by
  unfold Server.wroteProfile
  split
  · next row tables => exact .of_eq (h row tables rfl) (Next.sat_await rfl)
  · exact .refuse _

section Statements

variable {tb tb' : Tables} {user : UserId} {now : Time}

theorem updateHost_identities {id : HostId} {input : UpdateHost} (h : tb.updateHost id user input now = .ok tb') :
    tb'.identities = tb.identities := by
  unfold Tables.updateHost at h
  split at h <;> cases h
  rfl

theorem deleteHost_identities {id : HostId} (h : tb.deleteHost id user = .ok tb') :
    tb'.identities = tb.identities := by
  unfold Tables.deleteHost at h
  split at h
  · cases h
  · split at h <;> cases h
    rfl

theorem setDisabledAt_identities {id : ServerProfileId} {row : ServerProfile} {disabledAt : Option Time}
    (h : tb.setDisabledAt id user disabledAt now = .ok (row, tb')) : tb'.identities = tb.identities := by
  unfold Tables.setDisabledAt at h
  split at h <;> cases h
  rfl

theorem deleteProfile_identities {id : ServerProfileId} (h : tb.deleteProfile id user = .ok tb') :
    tb'.identities = tb.identities := by
  unfold Tables.deleteProfile at h
  split at h
  · cases h
  · split at h <;> cases h
    rfl

theorem createSession_identities {id : ServerProfileId} (h : tb.createSession id user = some tb') :
    tb'.identities = tb.identities := by
  unfold Tables.createSession at h
  split at h <;> cases h
  rfl

end Statements

theorem identityCreated_keys (input : CreateSshIdentity) (source : AuditSource) :
    KeyEffect sv (.identityCreate input source) (sv.identityCreated env input source) := by
  unfold Server.identityCreated Tables.createIdentity
  split
  · next tables hok =>
    split at hok
    · cases hok
    · cases hok
      refine ⟨fun id row' hrow' => ?_, Next.sat_await rfl⟩
      rcases Table.lookup_insert.1 hrow' with ⟨-, rfl⟩ | ⟨-, hold⟩
      · exact .inr rfl
      · exact .inl ⟨row', hold, rfl⟩
  · exact .refuse _

/-- A rename leaves the key alone. -/
theorem identityRename_keys (user : UserId) (id : SshIdentityId) (name : String) :
    KeyEffect sv (.identityRename user id name)
      (sv.wrote (sv.tables.renameIdentity id user name) (Server.identityRenamed id)) := by
  unfold Server.wrote Tables.renameIdentity
  split
  · next tables hok =>
    split at hok <;> cases hok
    refine ⟨fun i row' hrow' => .inl ?_, ?_⟩
    · have hrow' : (sv.tables.identities.modify id _).lookup i = some row' := hrow'
      rw [Table.lookup_modify] at hrow'
      split at hrow'
      · next heq =>
        obtain ⟨row, hrow, rfl⟩ := Option.map_eq_some_iff.1 hrow'
        exact ⟨row, heq ▸ hrow, rfl⟩
      · exact ⟨row', hrow', rfl⟩
    · unfold Server.identityRenamed
      split <;> exact Next.sat_ret _ _
  · exact .refuse _

theorem identityDelete_keys (user : UserId) (id : SshIdentityId) :
    KeyEffect sv (.identityDelete user id)
      (sv.wrote (sv.tables.deleteIdentity id user) fun _ => .ret .noContent) := by
  unfold Server.wrote Tables.deleteIdentity
  split
  · next tables hok =>
    split at hok
    · cases hok
    · split at hok <;> cases hok
      exact ⟨fun i row' hrow' => .inl ⟨row', (Table.lookup_erase.1 hrow').2, rfl⟩, Next.sat_ret _ _⟩
  · exact .refuse _

theorem checkNewIdentity_inserts (user : UserId) (id : ServerProfileId) (input : UpdateServerProfile) :
    inserts (Server.checkNewIdentity user id input) = none := by
  unfold Server.checkNewIdentity
  split <;> rfl

theorem perform_keys (sv : Server) (env : Env) (pins : HostKey.Sys) (t : Task) :
    KeyEffect sv t (sv.perform env pins t) := by
  cases t with
  | hostCreate input => exact .of_eq rfl (Next.sat_ret _ _)
  | hostUpdate user id input =>
    refine wrote_keys (fun tables hok => updateHost_identities hok) fun tables => ?_
    unfold Server.hostUpdated
    split <;> exact Next.sat_ret _ _
  | hostDeleteCheck user id =>
    simp only [Server.perform, Server.hostChecked]
    split
    · exact .refuse _
    · exact .await rfl
  | hostDelete user id =>
    simp only [Server.perform, Server.hostDeleted]
    split
    · next tables hok => exact .of_eq (deleteHost_identities hok) (Next.sat_ret _ _)
    · exact .refuse _
  | identityCreate input source => exact identityCreated_keys input source
  | identityRename user id name => exact identityRename_keys user id name
  | identityDeleteCheck user id row =>
    simp only [Server.perform, Server.identityChecked]
    split
    · exact .refuse _
    · exact .await rfl
  | identityDelete user id => exact identityDelete_keys user id
  | profileCreate input =>
    simp only [Server.perform, Server.profileCreated]
    split
    · next tables hok => exact .of_eq (createProfile_ok hok).2.1 (Next.sat_await rfl)
    · exact .refuse _
  | profileUpdateGet user id input =>
    refine found_keys fun _ => .await ?_
    unfold Server.checkNewHost
    split
    · rfl
    · exact checkNewIdentity_inserts user id input
  | profileUpdateHost user id input => exact found_keys fun _ => .await (checkNewIdentity_inserts user id input)
  | profileUpdate user id input => exact wroteProfile_keys fun row tables hok => (updateProfile_ok hok).2.1
  | profileDeleteCheck user id row =>
    simp only [Server.perform, Server.profileChecked]
    split
    · exact .refuse _
    · exact .await rfl
  | profileDelete user id => exact wrote_keys (fun tables hok => deleteProfile_identities hok) fun _ => Next.sat_ret _ _
  | profileSwitchGet user id kind =>
    refine found_keys fun row => ?_
    unfold Server.switchFound
    split
    · exact .of_eq rfl (Next.sat_ret _ _)
    · exact .await rfl
  | profileSwitch user id kind => exact wroteProfile_keys fun row tables hok => setDisabledAt_identities hok
  | audit event after =>
    cases after with
    | reply r => exact .of_eq rfl (Next.sat_ret _ _)
    | deleteIdentity user id | deleteProfile user id => exact .of_eq rfl (Next.sat_await rfl)
  | resolveIdentity user profile route =>
    refine found_keys fun _ => ?_
    unfold Server.resolved
    split
    · exact .refuse _
    · split
      · exact .refuse _
      · exact .refuse _
      · exact .of_eq rfl fun _ h => by cases h
  | hostUpdateGet | hostDeleteGet | identityRenameGet | identityDeleteGet | profileCreateHost | profileCreateIdentity
  | profileUpdateIdentity | profileDeleteGet | resolveProfile | resolveHost =>
    -- owner-scoped reads that lead to a task with no key in hand
    exact found_keys fun _ => .await rfl

theorem resume_keys (h : sv.resume env pins t = some o) : KeyEffect sv t o := by
  unfold Server.resume at h
  split_ifs at h
  · cases h
    exact .refuse _
  · cases h
    exact perform_keys sv env pins t

/-! ## Whole runs -/

/-- What is on record and what is about to be inserted opens. -/
structure Stored (vault : VaultService) (s : Sys) : Prop where
  rows : ∀ id row, s.server.tables.identities.lookup id = some row → Opens vault (rowMaterial row)
  tasks : ∀ tid t, s.tasks.lookup tid = some t → ∀ made, inserts t = some made → Opens vault made

theorem Stored.settle (hs : Stored vault s) (tid : TaskId) (hrows : ∀ id row,
      o.server.tables.identities.lookup id = some row → Opens vault (rowMaterial row))
    (hnext : o.next.Sat fun t => ∀ made, inserts t = some made → Opens vault made) :
    Stored vault (s.settle tid o) :=
  ⟨hrows, settle_cases hnext hs.tasks⟩

/-- A request brings no key, or one that opens. -/
def Honest (vault : VaultService) : Event → Prop
  | .request user r => (r.enter user).Sat fun t => ∀ made, inserts t = some made → Opens vault made
  | _ => True

theorem step_stored {ev : Event} (hs : Stored vault s) (hev : Honest vault ev) (h : s.step ev = some s') :
    Stored vault s' := by
  cases ev with
  | request user r =>
    cases h
    have hsettled := hs.settle s.nextTask (o := ⟨s.server, r.enter user, none⟩) hs.rows hev
    exact ⟨hsettled.rows, hsettled.tasks⟩
  | resume tid env =>
    obtain ⟨t, ht, h⟩ := Option.bind_eq_some_iff.1 h
    obtain ⟨o, ho, rfl⟩ := Option.map_eq_some_iff.1 h
    have hkeys := resume_keys ho
    refine hs.settle tid (fun id row hrow => ?_) fun t' ht' made hmade => ?_
    · rcases hkeys.rows id row hrow with ⟨old, hold, hmaterial⟩ | hinserts
      · rw [hmaterial]
        exact hs.rows id old hold
      · exact hs.tasks tid t ht _ hinserts
    · rw [hkeys.next t' ht'] at hmade
      cases hmade
  | pin tid env =>
    obtain ⟨t, -, h⟩ := Option.bind_eq_some_iff.1 h
    obtain ⟨o, -, rfl⟩ := Option.map_eq_some_iff.1 h
    exact ⟨hs.rows, hs.tasks⟩
  | openSession user profile =>
    obtain ⟨tables, htables, rfl⟩ := Option.map_eq_some_iff.1 h
    refine ⟨fun id row hrow => hs.rows id row ?_, hs.tasks⟩
    rw [← createSession_identities htables]
    exact hrow

/-! ## The routes with their vault -/

inductive Call where
  | create (user : UserId) (req : CreateSshIdentityRequest) (seed : Nat) (nonce : Nonce)
  | importKey (user : UserId) (req : ImportSshIdentityRequest) (nonce : Nonce)
  | other (ev : Event)

/-- An identity the vault has not made. -/
def bypassesVault : Event → Bool
  | .request _ (.createSshIdentity _) | .request _ (.importSshIdentity _) => true
  | _ => false

/-- `decrypt_identity`, on the identity a task has resolved; other tasks do not ask. -/
def answer (vault : VaultService) (tb : Tables) : Task → VaultAnswer
  | .resolveIdentity user profile _ => match tb.ownedIdentity profile.sshIdentityId user with
    | some row => match vault.decryptPrivateKey row.encryptedPrivateKey with
      | .ok _ => .ok
      | .error _ => .failed
    | none => .ok
  | _ => .ok

def askVault (vault : VaultService) (s : Sys) : Event → Event
  | .resume tid env => match s.tasks.lookup tid with
    | some t => .resume tid { env with vault := answer vault s.server.tables t }
    | none => .resume tid env
  | ev => ev

def step (vault : VaultService) (s : Sys) : Call → Option Sys
  | .create user req seed nonce => match create vault user req seed nonce with
    | .ok input => s.step (.request user (.createSshIdentity input))
    | .error _ => some s
  | .importKey user req nonce => match importKey vault user req nonce with
    | .ok input => s.step (.request user (.importSshIdentity input))
    | .error _ => some s
  | .other ev => if bypassesVault ev then none else s.step (askVault vault s ev)

/-- A request that does not come from the vault brings no key. -/
theorem honest_of_not_bypasses {ev : Event} (h : bypassesVault ev = false) : Honest vault ev := by
  cases ev with
  | request user r =>
    cases r with
    | createSshIdentity | importSshIdentity => cases h
    | trustHostKey id body | replaceHostKey id body =>
      simp only [Honest, Request.enter]
      split
      · exact Next.sat_await fun _ hmade => by cases hmade
      · exact Next.sat_ret _ _
    | _ => exact Next.sat_await fun _ hmade => by cases hmade
  | _ => trivial

theorem askVault_honest {ev : Event} (h : Honest vault ev) : Honest vault (askVault vault s ev) := by
  cases ev with
  | resume tid env =>
    simp only [askVault]
    split <;> trivial
  | _ => exact h

theorem call_stored {call : Call} (hs : Stored vault s) (h : step vault s call = some s') : Stored vault s' := by
  cases call with
  | create user req seed nonce =>
    simp only [step] at h
    split at h
    · next input hinput =>
      have hev : Honest vault (.request user (.createSshIdentity input)) := Next.sat_await fun made hmade => by
        cases hmade
        show Opens vault (material input)
        exact create_opens hinput
      exact step_stored hs hev h
    · cases h
      exact hs
  | importKey user req nonce =>
    simp only [step] at h
    split at h
    · next input hinput =>
      have hev : Honest vault (.request user (.importSshIdentity input)) := Next.sat_await fun made hmade => by
        cases hmade
        show Opens vault (material input)
        exact importKey_opens hinput
      exact step_stored hs hev h
    · cases h
      exact hs
  | other ev =>
    obtain ⟨hvault, h⟩ := Option.ite_none_left_eq_some.1 h
    exact step_stored hs (askVault_honest (honest_of_not_bypasses (Bool.not_eq_true _ ▸ hvault))) h

theorem run_stored {calls : List Call} (hr : run (step vault) .init calls = some s) : Stored vault s := by
  refine run_inv (Stored vault) (fun _ _ _ hs h => call_stored hs h) hr ⟨?_, ?_⟩
  · intro id row hrow
    cases hrow
  · intro tid t ht
    cases ht

theorem answer_ok (hs : Stored vault s) (t : Task) : answer vault s.server.tables t = .ok := by
  cases t with
  | resolveIdentity user profile route =>
    simp only [answer]
    split
    · next row hrow =>
      obtain ⟨-, pem, key, hpem, -⟩ := hs.rows _ row (owned_iff.1 hrow).1
      rw [show vault.decryptPrivateKey row.encryptedPrivateKey = .ok pem from hpem]
    · rfl
  | _ => rfl

/-- **Every identity on record opens.** In every run, its blob decrypts under the
master key to a PEM that parses to an Ed25519 key with the public key and the
fingerprint on record, and no route fails at the vault. -/
theorem stored_identities_open (vault : VaultService) (calls : List Call) (s : Sys)
    (hr : run (step vault) .init calls = some s) :
    (∀ id row, s.server.tables.identities.lookup id = some row → row.keyType = .ed25519 ∧
      ∃ pem key, vault.decryptPrivateKey row.encryptedPrivateKey = .ok pem ∧
        vault.keys.fromOpenssh pem = some key ∧ vault.keys.algorithm key = .ed25519 ∧
        vault.keys.publicOpenssh key = some row.publicKey ∧ vault.keys.fingerprint key = row.fingerprintSha256) ∧
    ∀ t, answer vault s.server.tables t = .ok :=
  ⟨(run_stored hr).rows, answer_ok (run_stored hr)⟩

/-- **A user has a key once.** Two identities of one user whose private keys differ
at most in the comment are one row, however they came in. -/
theorem key_stored_once (vault : VaultService) (calls : List Call) (s : Sys)
    (hr : run (step vault) .init calls = some s) (id id' : SshIdentityId) (row row' : SshIdentity)
    (hrow : s.server.tables.identities.lookup id = some row)
    (hrow' : s.server.tables.identities.lookup id' = some row') (howner : row.ownerId = row'.ownerId)
    (pem pem' : List UInt8) (hpem : vault.decryptPrivateKey row.encryptedPrivateKey = .ok pem)
    (hpem' : vault.decryptPrivateKey row'.encryptedPrivateKey = .ok pem') (key key' : vault.keys.PrivateKey)
    (hkey : vault.keys.fromOpenssh pem = some key) (hkey' : vault.keys.fromOpenssh pem' = some key')
    (hsame : vault.keys.setComment "" key = vault.keys.setComment "" key') : id = id' := by
  have hs := run_stored hr
  have hprint : ∀ {id row pem key}, s.server.tables.identities.lookup id = some row →
      vault.decryptPrivateKey row.encryptedPrivateKey = .ok pem → vault.keys.fromOpenssh pem = some key →
      vault.keys.fingerprint (vault.keys.setComment "" key) = row.fingerprintSha256 := by
    intro id row pem key hrow hpem hkey
    obtain ⟨-, pem', key', hpem', hkey', -, -, hprint⟩ := hs.rows id row hrow
    cases hpem.symm.trans hpem'
    cases hkey.symm.trans hkey'
    rw [vault.keys.fingerprint_setComment]
    exact hprint
  have hkeys : row.key = row'.key := by
    unfold SshIdentity.key
    rw [howner, ← hprint hrow hpem hkey, ← hprint hrow' hpem' hkey', hsame]
  exact s.server.tables.fingerprintKey id id' row row' _ hrow hrow' hkeys rfl

/-! ## A vault that hides nothing -/

/-- A key of 32 bytes with its comment. -/
structure PlainKey where
  bytes : List UInt8
  comment : List UInt8
  length : bytes.length = 32

def textBytes (text : String) : List UInt8 := text.toList.map fun c => UInt8.ofNat c.toNat

/-- The header, the bytes of the key and the comment. -/
def PlainKey.pem (key : PlainKey) : List UInt8 := textBytes opensshPrivateKeyHeader ++ (key.bytes ++ key.comment)

def PlainKey.parse (pem : List UInt8) : Option PlainKey :=
  let header := textBytes opensshPrivateKeyHeader
  if pem.take header.length = header then
    let body := pem.drop header.length
    if h : (body.take 32).length = 32 then some ⟨body.take 32, body.drop 32, h⟩ else none
  else none

theorem PlainKey.parse_pem (key : PlainKey) : PlainKey.parse key.pem = some key := by
  obtain ⟨bytes, comment, length⟩ := key
  have hbytes : (bytes ++ comment).take 32 = bytes := by rw [← length, List.take_left]
  have hcomment : (bytes ++ comment).drop 32 = comment := by rw [← length, List.drop_left]
  simp only [PlainKey.parse, PlainKey.pem, List.take_left, List.drop_left, if_true, hbytes, hcomment, length,
    dif_pos]

/-- Keys in the clear. The comment is in both texts of a key, and not in its fingerprint. -/
def plainKeys : SshKeys where
  PrivateKey := PlainKey
  random seed := some ⟨List.replicate 32 (UInt8.ofNat seed), [], rfl⟩
  fromOpenssh := PlainKey.parse
  isEncrypted _ := false
  algorithm _ := .ed25519
  setComment comment key := { key with comment := textBytes comment }
  publicOpenssh key := some (textBytes "ssh-ed25519 " ++ key.bytes.reverse ++ key.comment)
  fingerprint key := "SHA256:" ++ .ofList (key.bytes.map fun b => Char.ofNat b.toNat)
  toOpenssh key := some key.pem
  random_algorithm _ := rfl
  from_toOpenssh h := by
    cases h
    exact PlainKey.parse_pem _
  algorithm_setComment _ _ := rfl
  fingerprint_setComment _ _ := rfl

def plainVault : VaultService := ⟨clearAead, plainKeys, ⟨List.replicate masterKeyLen 1, rfl⟩⟩

def nonceOf (b : UInt8) : Nonce := ⟨List.replicate nonceLen b, List.length_replicate⟩

/-- User 7 has two keys made. -/
def twoKeys : List Call :=
  [.create 7 ⟨"laptop", none⟩ 97 (nonceOf 1), .other (.resume 0 ⟨true, 0, .ok⟩), .other (.resume 0 ⟨true, 0, .ok⟩),
    .create 7 ⟨"desk", some "ed25519"⟩ 98 (nonceOf 2), .other (.resume 1 ⟨true, 0, .ok⟩),
    .other (.resume 1 ⟨true, 0, .ok⟩)]

theorem stored_identities_open_made : ∃ s row row' pem pem', run (step plainVault) .init twoKeys = some s ∧
    s.server.tables.identities.lookup 0 = some row ∧ s.server.tables.identities.lookup 1 = some row' ∧
    row.fingerprintSha256 ≠ row'.fingerprintSha256 ∧
    plainVault.decryptPrivateKey row.encryptedPrivateKey = .ok pem ∧
    plainVault.decryptPrivateKey row'.encryptedPrivateKey = .ok pem' := by
  obtain ⟨hopens, -⟩ := stored_identities_open plainVault twoKeys _ rfl
  obtain ⟨-, pem, -, hpem, -⟩ := hopens 0 _ rfl
  obtain ⟨-, pem', -, hpem', -⟩ := hopens 1 _ rfl
  exact ⟨_, _, _, pem, pem', rfl, rfl, rfl, by decide +kernel, hpem, hpem'⟩

/-- The text of the first of them, under another comment. -/
def copiedKey : String := opensshPrivateKeyHeader ++ .ofList (List.replicate 32 'a') ++ "copy"

/-- Users 7 and 8 import it: 7 has it and is refused, 8 has not. -/
def copies : List Call :=
  twoKeys ++ [.importKey 7 ⟨"copy", copiedKey⟩ (nonceOf 3), .other (.resume 2 ⟨true, 0, .ok⟩),
    .importKey 8 ⟨"copy", copiedKey⟩ (nonceOf 4), .other (.resume 3 ⟨true, 0, .ok⟩), .other (.resume 3 ⟨true, 0, .ok⟩)]

theorem key_stored_once_made : ∃ s row, run (step plainVault) .init copies = some s ∧
    s.server.tables.identities.lookup 0 = some row ∧ (∃ id row', s.server.tables.identities.lookup id = some row' ∧
      row'.ownerId = 8 ∧ row'.fingerprintSha256 = row.fingerprintSha256) ∧
    ∀ id row' pem key, s.server.tables.identities.lookup id = some row' → row'.ownerId = 7 →
      plainVault.decryptPrivateKey row'.encryptedPrivateKey = .ok pem → PlainKey.parse pem = some key →
      key.bytes = List.replicate 32 97 → id = 0 := by
  refine ⟨_, _, rfl, rfl, ⟨2, _, rfl, rfl, rfl⟩, ?_⟩
  intro id row' pem key hrow' howner hpem hkey hbytes
  refine key_stored_once plainVault copies _ rfl id 0 row' _ hrow' rfl howner pem _ hpem rfl key _ hkey rfl ?_
  obtain ⟨bytes, comment, length⟩ := key
  cases hbytes
  rfl

end RelayTerm.Vault
