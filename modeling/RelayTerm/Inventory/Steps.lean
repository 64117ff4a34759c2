import RelayTerm.Inventory.Requests
/-!
# What one inventory step can do

Inversion of the statements: most leave owners and references alone, three
write references or delete rows. A task vouches for the references its earlier
reads have resolved as the caller's own.
-/
open RelayTerm.Lib

namespace RelayTerm.Inventory

/-! ## What a task has established -/

/-- A host the task has read as the user's. -/
def Task.hostVouched : Task → Option (UserId × HostId)
  | .profileCreateIdentity input | .profileCreate input => some (input.ownerId, input.hostId)
  | .profileUpdateIdentity user _ input | .profileUpdate user _ input => input.hostId.map (user, ·)
  | _ => none

/-- An identity the task has read as the user's. -/
def Task.identityVouched : Task → Option (UserId × SshIdentityId)
  | .profileCreate input => some (input.ownerId, input.sshIdentityId)
  | .profileUpdate user _ input => input.sshIdentityId.map (user, ·)
  | _ => none

/-- A host the task is about to delete, having found no dependents. -/
def Task.deletes : Task → Option HostId
  | .hostDelete _ id => some id
  | _ => none

/-- The task has established nothing. -/
structure Task.Plain (t : Task) : Prop where
  host : t.hostVouched = none
  identity : t.identityVouched = none
  deletes : t.deletes = none

/-- Whatever task comes next. -/
def Next.Sat (P : Task → Prop) (next : Next) : Prop := ∀ t, next = .await t → P t

theorem Next.sat_ret (P : Task → Prop) (r : Reply) : (Next.ret r).Sat P := fun _ h => by cases h

theorem Next.sat_await {P : Task → Prop} {t : Task} (h : P t) : (Next.await t).Sat P := by
  intro t' ht'
  cases ht'
  exact h

/-! ## What a statement writes -/

/-- The columns that point to other rows. -/
def ServerProfile.refs (p : ServerProfile) : UserId × HostId × SshIdentityId := (p.ownerId, p.hostId, p.sshIdentityId)

/-- Owners stay, ids are not reused, and no profile gets another reference. -/
structure Tables.Moves (tb tb' : Tables) : Prop where
  hosts : Table.Later Host.ownerId tb.hosts tb'.hosts
  identities : Table.Later SshIdentity.ownerId tb.identities tb'.identities
  profiles : ∀ id p', tb'.profiles.lookup id = some p' → ∃ p, tb.profiles.lookup id = some p ∧ p'.refs = p.refs

section Statements

variable {tb tb' : Tables} {user : UserId} {now : Time}

theorem Tables.Moves.of_eq (hhosts : Table.Later Host.ownerId tb.hosts tb'.hosts)
    (hidentities : Table.Later SshIdentity.ownerId tb.identities tb'.identities)
    (hprofiles : tb'.profiles = tb.profiles) : tb.Moves tb' :=
  ⟨hhosts, hidentities, fun _ p' hp' => ⟨p', hprofiles ▸ hp', rfl⟩⟩

theorem owned_iff {α : Type} {owner : α → UserId} {row? : Option α} {row : α} :
    row?.filter (fun x => owner x = user) = some row ↔ row? = some row ∧ owner row = user := by
  rw [Option.filter_eq_some_iff, decide_eq_true_eq]

theorem createHost_moves (input : CreateHost) : tb.Moves (tb.createHost input now) :=
  .of_eq (Table.later_insert _ _ _) (.refl _ _) rfl

theorem updateHost_moves {id : HostId} {input : UpdateHost} (h : tb.updateHost id user input now = .ok tb') :
    tb.Moves tb' := by
  unfold Tables.updateHost at h
  split at h
  · cases h
  · cases h
    exact .of_eq (Table.later_modify _ _ fun _ => rfl) (.refl _ _) rfl

theorem deleteHost_moves {id : HostId} (h : tb.deleteHost id user = .ok tb') : tb.Moves tb' := by
  unfold Tables.deleteHost at h
  split at h
  · cases h
  · split at h
    · cases h
    · cases h
      exact .of_eq (Table.later_erase _ _ _) (.refl _ _) rfl

theorem createIdentity_moves {input : CreateSshIdentity} (h : tb.createIdentity input now = .ok tb') :
    tb.Moves tb' := by
  unfold Tables.createIdentity at h
  split at h
  · cases h
  · cases h
    exact .of_eq (.refl _ _) (Table.later_insert _ _ _) rfl

theorem renameIdentity_moves {id : SshIdentityId} {name : String} (h : tb.renameIdentity id user name = .ok tb') :
    tb.Moves tb' := by
  unfold Tables.renameIdentity at h
  split at h
  · cases h
  · cases h
    exact .of_eq (.refl _ _) (Table.later_modify _ _ fun _ => rfl) rfl

theorem deleteIdentity_moves {id : SshIdentityId} (h : tb.deleteIdentity id user = .ok tb') : tb.Moves tb' := by
  unfold Tables.deleteIdentity at h
  split at h
  · cases h
  · split at h
    · cases h
    · cases h
      exact .of_eq (.refl _ _) (Table.later_erase _ _ _) rfl

theorem deleteProfile_moves {id : ServerProfileId} (h : tb.deleteProfile id user = .ok tb') : tb.Moves tb' := by
  unfold Tables.deleteProfile at h
  split at h
  · cases h
  · split at h
    · cases h
    · cases h
      exact ⟨.refl _ _, .refl _ _, fun _ p' hp' => ⟨p', (Table.lookup_erase.1 hp').2, rfl⟩⟩

theorem createSession_moves {id : ServerProfileId} (h : tb.createSession id user = some tb') : tb.Moves tb' := by
  unfold Tables.createSession at h
  split at h
  · cases h
    exact .of_eq (.refl _ _) (.refl _ _) rfl
  · cases h

/-- A row written in the place of a profile. -/
theorem lookup_setProfile {id i : ServerProfileId} {row p : ServerProfile} {hfits : tb.Fits id row}
    (h : (tb.setProfile id row hfits).profiles.lookup i = some p) :
    (i = id ∧ p = row) ∨ tb.profiles.lookup i = some p := by
  have h : (tb.profiles.modify id fun _ => row).lookup i = some p := h
  rw [Table.lookup_modify] at h
  split at h
  · next heq =>
    obtain ⟨-, -, rfl⟩ := Option.map_eq_some_iff.1 h
    exact .inl ⟨heq, rfl⟩
  · exact .inr h

theorem setDisabledAt_moves {id : ServerProfileId} {row : ServerProfile} {disabledAt : Option Time}
    (h : tb.setDisabledAt id user disabledAt now = .ok (row, tb')) : tb.Moves tb' := by
  unfold Tables.setDisabledAt at h
  split at h
  · cases h
  · next old hown =>
    cases h
    refine ⟨.refl _ _, .refl _ _, ?_⟩
    intro i p' hp'
    rcases lookup_setProfile hp' with ⟨rfl, rfl⟩ | hold
    · exact ⟨old, (owned_iff.1 hown).1, rfl⟩
    · exact ⟨p', hold, rfl⟩

theorem createProfile_ok {input : CreateServerProfile} (h : tb.createProfile input now = .ok tb') :
    tb'.hosts = tb.hosts ∧ tb'.identities = tb.identities ∧ ∀ i p, tb'.profiles.lookup i = some p →
      p.refs = (input.ownerId, input.hostId, input.sshIdentityId) ∨ tb.profiles.lookup i = some p := by
  unfold Tables.createProfile at h
  split at h
  · cases h
  · split at h
    · split at h
      · cases h
        refine ⟨rfl, rfl, ?_⟩
        intro i p hp
        rcases Table.lookup_insert.1 hp with ⟨-, rfl⟩ | ⟨-, hold⟩
        · exact .inl rfl
        · exact .inr hold
      · cases h
    · cases h

theorem updateProfile_ok {id : ServerProfileId} {input : UpdateServerProfile} {row : ServerProfile}
    (h : tb.updateProfile id user input now = .ok (row, tb')) :
    tb'.hosts = tb.hosts ∧ tb'.identities = tb.identities ∧ ∃ old, tb.profiles.lookup id = some old ∧
      old.ownerId = user ∧ ∀ i p, tb'.profiles.lookup i = some p →
        p.refs = (user, input.hostId.getD old.hostId, input.sshIdentityId.getD old.sshIdentityId) ∨
          tb.profiles.lookup i = some p := by
  unfold Tables.updateProfile at h
  split at h
  · cases h
  · next old hown =>
    dsimp only at h
    split at h
    · cases h
    · split at h
      · split at h
        · cases h
          obtain ⟨hold, howner⟩ := owned_iff.1 hown
          refine ⟨rfl, rfl, old, hold, howner, ?_⟩
          intro i p hp
          rcases lookup_setProfile hp with ⟨-, rfl⟩ | hkept
          · exact .inl (by simp [ServerProfile.refs, UpdateServerProfile.apply, howner])
          · exact .inr hkept
        · cases h
      · cases h

end Statements

/-! ## What one await point does -/

/-- Reads and audit rows; statements that move rows; the two that write
references; and the deletion of a host. -/
inductive Effect (sv : Server) (pins : HostKey.Sys) : Task → Out → Prop where
  | quiet (t : Task) (audits : List InventoryAuditEvent) (next : Next)
      (hhost : next.Sat fun t' => ∀ user host, t'.hostVouched = some (user, host) →
        t.hostVouched = some (user, host) ∨ ∃ row, sv.tables.ownedHost host user = some row)
      (hidentity : next.Sat fun t' => ∀ user identity, t'.identityVouched = some (user, identity) →
        t.identityVouched = some (user, identity) ∨ ∃ row, sv.tables.ownedIdentity identity user = some row)
      (hdelete : next.Sat fun t' => ∀ host, t'.deletes = some host → ∀ e ∈ pins.db.rows, e.hostId ≠ host) :
      Effect sv pins t ⟨{ sv with audits := audits }, next, none⟩
  | moved (t : Task) (tables : Tables) (next : Next) (hmoves : sv.tables.Moves tables) (hplain : next.Sat Task.Plain) :
      Effect sv pins t ⟨{ sv with tables := tables }, next, none⟩
  | created (input : CreateServerProfile) (tables : Tables) (next : Next) (hhosts : tables.hosts = sv.tables.hosts)
      (hidentities : tables.identities = sv.tables.identities)
      (hprofiles : ∀ i p, tables.profiles.lookup i = some p →
        p.refs = (input.ownerId, input.hostId, input.sshIdentityId) ∨ sv.tables.profiles.lookup i = some p)
      (hplain : next.Sat Task.Plain) : Effect sv pins (.profileCreate input) ⟨{ sv with tables := tables }, next, none⟩
  | updated (user : UserId) (id : ServerProfileId) (input : UpdateServerProfile) (old : ServerProfile)
      (tables : Tables) (next : Next) (hhosts : tables.hosts = sv.tables.hosts)
      (hidentities : tables.identities = sv.tables.identities) (hold : sv.tables.profiles.lookup id = some old)
      (howner : old.ownerId = user)
      (hprofiles : ∀ i p, tables.profiles.lookup i = some p →
        p.refs = (user, input.hostId.getD old.hostId, input.sshIdentityId.getD old.sshIdentityId) ∨
          sv.tables.profiles.lookup i = some p)
      (hplain : next.Sat Task.Plain) :
      Effect sv pins (.profileUpdate user id input) ⟨{ sv with tables := tables }, next, none⟩
  | hostDeleted (user : UserId) (id : HostId) (tables : Tables) (hmoves : sv.tables.Moves tables) :
      Effect sv pins (.hostDelete user id) ⟨{ sv with tables := tables }, .ret .noContent, some id⟩

section Effects

variable {sv : Server} {pins : HostKey.Sys} {env : Env} {t : Task} {o : Out}

theorem Effect.ret (t : Task) (audits : List InventoryAuditEvent) (r : Reply) :
    Effect sv pins t ⟨{ sv with audits := audits }, .ret r, none⟩ :=
  .quiet t audits (.ret r) (Next.sat_ret _ r) (Next.sat_ret _ r) (Next.sat_ret _ r)

theorem Effect.refuse (t : Task) (err : InventoryApiError) : Effect sv pins t (sv.refuse err) :=
  .ret t sv.audits (.error err)

/-- A plain task follows. -/
theorem Effect.plain (t : Task) (audits : List InventoryAuditEvent) {t' : Task} (h : t'.Plain) :
    Effect sv pins t ⟨{ sv with audits := audits }, .await t', none⟩ := by
  refine .quiet t audits (.await t') (Next.sat_await ?_) (Next.sat_await ?_) (Next.sat_await ?_)
  · intro user host hv
    rw [h.host] at hv
    cases hv
  · intro user identity hv
    rw [h.identity] at hv
    cases hv
  · intro host hv
    rw [h.deletes] at hv
    cases hv

/-- An owner-scoped read. -/
theorem found_effect {α : Type} {row? : Option α} {entity : String} {next : α → Out}
    (h : ∀ row, row? = some row → Effect sv pins t (next row)) : Effect sv pins t (sv.found row? entity next) := by
  unfold Server.found
  split
  · exact .refuse t _
  · next row => exact h row rfl

theorem wrote_effect {result : Except RepositoryError Tables} {next : Tables → Next}
    (hmoves : ∀ tables, result = .ok tables → sv.tables.Moves tables) (hnext : ∀ tables, (next tables).Sat Task.Plain) :
    Effect sv pins t (sv.wrote result next) := by
  unfold Server.wrote
  split
  · next tables => exact .moved t tables _ (hmoves tables rfl) (hnext tables)
  · exact .refuse t _

/-! ### Updating a profile -/

theorem checkNewIdentity_hostVouched (user : UserId) (id : ServerProfileId) (input : UpdateServerProfile) :
    (Server.checkNewIdentity user id input).hostVouched = input.hostId.map (user, ·) := by
  unfold Server.checkNewIdentity
  split
  · rfl
  · rfl

/-- A new identity has not been looked at yet. -/
theorem checkNewIdentity_identityVouched (user : UserId) (id : ServerProfileId) (input : UpdateServerProfile) :
    (Server.checkNewIdentity user id input).identityVouched = none := by
  unfold Server.checkNewIdentity
  split
  · rfl
  · next hnone =>
    show input.sshIdentityId.map (user, ·) = none
    rw [Option.not_isSome_iff_eq_none.1 hnone]
    rfl

theorem checkNewIdentity_deletes (user : UserId) (id : ServerProfileId) (input : UpdateServerProfile) :
    (Server.checkNewIdentity user id input).deletes = none := by
  unfold Server.checkNewIdentity
  split
  · rfl
  · rfl

theorem checkNewHost_plain (user : UserId) (id : ServerProfileId) (input : UpdateServerProfile) :
    (Server.checkNewHost user id input).Plain := by
  unfold Server.checkNewHost
  split
  · exact ⟨rfl, rfl, rfl⟩
  · next hnone =>
    refine ⟨?_, checkNewIdentity_identityVouched user id input, checkNewIdentity_deletes user id input⟩
    rw [checkNewIdentity_hostVouched, Option.not_isSome_iff_eq_none.1 hnone]
    rfl

theorem profileUpdateHost_effect (user : UserId) (id : ServerProfileId) (input : UpdateServerProfile) :
    Effect sv pins (.profileUpdateHost user id input) (sv.perform env pins (.profileUpdateHost user id input)) := by
  apply found_effect
  intro row hrow
  obtain ⟨host, hhost, hown⟩ := Option.bind_eq_some_iff.1 hrow
  refine .quiet _ sv.audits _ (Next.sat_await ?_) (Next.sat_await ?_) (Next.sat_await ?_)
  · intro u h hv
    rw [checkNewIdentity_hostVouched, hhost] at hv
    cases hv
    exact .inr ⟨row, hown⟩
  · intro u i hv
    rw [checkNewIdentity_identityVouched] at hv
    cases hv
  · intro h hv
    rw [checkNewIdentity_deletes] at hv
    cases hv

theorem profileUpdateIdentity_effect (user : UserId) (id : ServerProfileId) (input : UpdateServerProfile) :
    Effect sv pins (.profileUpdateIdentity user id input)
      (sv.perform env pins (.profileUpdateIdentity user id input)) := by
  apply found_effect
  intro row hrow
  obtain ⟨identity, hidentity, hown⟩ := Option.bind_eq_some_iff.1 hrow
  refine .quiet _ sv.audits _ (Next.sat_await ?_) (Next.sat_await ?_) (Next.sat_await ?_)
  · exact fun u h hv => .inl hv
  · intro u i hv
    obtain ⟨i', hi', heq⟩ := Option.map_eq_some_iff.1 hv
    cases heq
    cases hi'.symm.trans hidentity
    exact .inr ⟨row, hown⟩
  · intro h hv
    cases hv

/-- Writes that end in the profile's audit row. -/
theorem audited_plain (event : InventoryAuditEvent) (r : Reply) :
    (Next.await (.audit event (.reply r))).Sat Task.Plain :=
  Next.sat_await ⟨rfl, rfl, rfl⟩

theorem profileUpdate_effect (user : UserId) (id : ServerProfileId) (input : UpdateServerProfile) :
    Effect sv pins (.profileUpdate user id input) (sv.perform env pins (.profileUpdate user id input)) := by
  simp only [Server.perform, Server.wroteProfile]
  split
  · next row tables hok =>
    obtain ⟨hhosts, hidentities, old, hold, howner, hprofiles⟩ := updateProfile_ok hok
    exact .updated user id input old tables _ hhosts hidentities hold howner hprofiles (audited_plain _ _)
  · exact .refuse _ _

/-! ### Creating one -/

theorem profileCreateHost_effect (input : CreateServerProfile) :
    Effect sv pins (.profileCreateHost input) (sv.perform env pins (.profileCreateHost input)) := by
  apply found_effect
  intro row hown
  refine .quiet _ sv.audits _ (Next.sat_await ?_) (Next.sat_await ?_) (Next.sat_await ?_)
  · intro u h hv
    cases hv
    exact .inr ⟨row, hown⟩
  · intro u i hv
    cases hv
  · intro h hv
    cases hv

theorem profileCreateIdentity_effect (input : CreateServerProfile) :
    Effect sv pins (.profileCreateIdentity input) (sv.perform env pins (.profileCreateIdentity input)) := by
  apply found_effect
  intro row hown
  refine .quiet _ sv.audits _ (Next.sat_await ?_) (Next.sat_await ?_) (Next.sat_await ?_)
  · exact fun u h hv => .inl hv
  · intro u i hv
    cases hv
    exact .inr ⟨row, hown⟩
  · intro h hv
    cases hv

theorem profileCreate_effect (input : CreateServerProfile) :
    Effect sv pins (.profileCreate input) (sv.perform env pins (.profileCreate input)) := by
  simp only [Server.perform, Server.profileCreated]
  split
  · next tables hok =>
    obtain ⟨hhosts, hidentities, hprofiles⟩ := createProfile_ok hok
    exact .created input tables _ hhosts hidentities hprofiles (audited_plain _ _)
  · exact .refuse _ _

/-! ### Deleting -/

/-- The dependents check looks at the pinned keys. -/
theorem hostDeleteCheck_effect (user : UserId) (id : HostId) :
    Effect sv pins (.hostDeleteCheck user id) (sv.perform env pins (.hostDeleteCheck user id)) := by
  simp only [Server.perform, Server.hostChecked]
  split
  · exact .refuse _ _
  · next hnone =>
    have hrows : (pins.db.rows.any fun e => e.hostId = id) = false := by
      unfold Server.anyHostDependents at hnone
      rw [Bool.or_eq_true, not_or] at hnone
      exact Bool.eq_false_iff.2 hnone.2
    refine .quiet _ sv.audits _ (Next.sat_await ?_) (Next.sat_await ?_) (Next.sat_await ?_)
    · intro u h hv
      cases hv
    · intro u i hv
      cases hv
    · intro h hv e he heq
      cases hv
      exact absurd (List.any_eq_true.2 ⟨e, he, by simpa using heq⟩) (Bool.eq_false_iff.1 hrows)

theorem hostDelete_effect (user : UserId) (id : HostId) :
    Effect sv pins (.hostDelete user id) (sv.perform env pins (.hostDelete user id)) := by
  simp only [Server.perform, Server.hostDeleted]
  split
  · next tables hok => exact .hostDeleted user id tables (deleteHost_moves hok)
  · exact .refuse _ _

theorem resolved_effect (profile : ServerProfile) (route : HostKey.Route) :
    Effect sv pins t (sv.resolved env profile route) := by
  unfold Server.resolved
  split
  · exact .refuse _ _
  · split
    · exact .refuse _ _
    · exact .refuse _ _
    · exact .quiet t sv.audits _ (fun _ h => by cases h) (fun _ h => by cases h) (fun _ h => by cases h)

theorem perform_effect (sv : Server) (env : Env) (pins : HostKey.Sys) (t : Task) :
    Effect sv pins t (sv.perform env pins t) := by
  -- an owner-scoped read after which the task has established nothing
  have read : ∀ {α : Type} {row? : Option α} {entity : String} (next : α → Task), (∀ row, (next row).Plain) →
      Effect sv pins t (sv.found row? entity fun row => sv.await (next row)) := fun next hnext =>
    found_effect fun row _ => .plain t sv.audits (hnext row)
  cases t with
  | hostCreate input => exact .moved _ _ _ (createHost_moves input) (Next.sat_ret _ _)
  | hostUpdateGet user id input => exact read _ fun _ => ⟨rfl, rfl, rfl⟩
  | hostUpdate user id input =>
    apply wrote_effect (fun tables hok => updateHost_moves hok)
    intro tables
    unfold Server.hostUpdated
    split
    · exact Next.sat_ret _ _
    · exact Next.sat_ret _ _
  | hostDeleteGet user id => exact read _ fun _ => ⟨rfl, rfl, rfl⟩
  | hostDeleteCheck user id => exact hostDeleteCheck_effect user id
  | hostDelete user id => exact hostDelete_effect user id
  | identityCreate input source =>
    simp only [Server.perform, Server.identityCreated]
    split
    · next tables hok => exact .moved _ tables _ (createIdentity_moves hok) (audited_plain _ _)
    · exact .refuse _ _
  | identityRenameGet user id name => exact read _ fun _ => ⟨rfl, rfl, rfl⟩
  | identityRename user id name =>
    apply wrote_effect (fun tables hok => renameIdentity_moves hok)
    intro tables
    unfold Server.identityRenamed
    split
    · exact Next.sat_ret _ _
    · exact Next.sat_ret _ _
  | identityDeleteGet user id => exact read _ fun _ => ⟨rfl, rfl, rfl⟩
  | identityDeleteCheck user id row =>
    simp only [Server.perform, Server.identityChecked]
    split
    · exact .refuse _ _
    · exact .plain _ sv.audits ⟨rfl, rfl, rfl⟩
  | identityDelete user id =>
    exact wrote_effect (fun tables hok => deleteIdentity_moves hok) fun _ => Next.sat_ret _ _
  | profileCreateHost input => exact profileCreateHost_effect input
  | profileCreateIdentity input => exact profileCreateIdentity_effect input
  | profileCreate input => exact profileCreate_effect input
  | profileUpdateGet user id input => exact read _ fun _ => checkNewHost_plain user id input
  | profileUpdateHost user id input => exact profileUpdateHost_effect user id input
  | profileUpdateIdentity user id input => exact profileUpdateIdentity_effect user id input
  | profileUpdate user id input => exact profileUpdate_effect user id input
  | profileDeleteGet user id => exact read _ fun _ => ⟨rfl, rfl, rfl⟩
  | profileDeleteCheck user id row =>
    simp only [Server.perform, Server.profileChecked]
    split
    · exact .refuse _ _
    · exact .plain _ sv.audits ⟨rfl, rfl, rfl⟩
  | profileDelete user id =>
    exact wrote_effect (fun tables hok => deleteProfile_moves hok) fun _ => Next.sat_ret _ _
  | profileSwitchGet user id kind =>
    apply found_effect
    intro row _
    unfold Server.switchFound
    split
    · exact .ret _ sv.audits _
    · exact .plain _ sv.audits ⟨rfl, rfl, rfl⟩
  | profileSwitch user id kind =>
    simp only [Server.perform, Server.wroteProfile]
    split
    · next row tables hok => exact .moved _ tables _ (setDisabledAt_moves hok) (audited_plain _ _)
    · exact .refuse _ _
  | audit event after =>
    cases after with
    | reply r => exact .ret _ _ r
    | deleteIdentity user id => exact .plain _ _ ⟨rfl, rfl, rfl⟩
    | deleteProfile user id => exact .plain _ _ ⟨rfl, rfl, rfl⟩
  | resolveProfile user id route => exact read _ fun _ => ⟨rfl, rfl, rfl⟩
  | resolveHost user profile route => exact read _ fun _ => ⟨rfl, rfl, rfl⟩
  | resolveIdentity user profile route => exact found_effect fun _ _ => resolved_effect profile route

theorem resume_effect (h : sv.resume env pins t = some o) : Effect sv pins t o := by
  unfold Server.resume at h
  split_ifs at h
  · cases h
    exact .refuse t _
  · cases h
    exact perform_effect sv env pins t

/-- A request has established nothing when it enters. -/
theorem enter_plain (user : UserId) (r : Request) : (r.enter user).Sat Task.Plain := by
  cases r with
  | trustHostKey id body =>
    simp only [Request.enter]
    split
    · exact Next.sat_await ⟨rfl, rfl, rfl⟩
    · exact Next.sat_ret _ _
  | replaceHostKey id body =>
    simp only [Request.enter]
    split
    · exact Next.sat_await ⟨rfl, rfl, rfl⟩
    · exact Next.sat_ret _ _
  | _ => exact Next.sat_await ⟨rfl, rfl, rfl⟩

end Effects

/-! ## The task pool -/

theorem settle_lookup {s : Sys} {tid i : TaskId} {o : Out} {t : Task} :
    (s.settle tid o).tasks.lookup i = some t ↔
      (i = tid ∧ o.next = .await t) ∨ (i ≠ tid ∧ s.tasks.lookup i = some t) := by
  obtain ⟨sv, next, cascade⟩ := o
  cases next with
  | await t' => simp [Sys.settle, Registry.lookup_insert_iff]
  | pins route host => simp [Sys.settle, Registry.lookup_erase_iff]
  | ret r => simp [Sys.settle, Registry.lookup_erase_iff]

/-- A task in the pool after a step is the one that went on, or was there. -/
theorem settle_cases {P : Task → Prop} {s : Sys} {tid : TaskId} {o : Out} (hnext : o.next.Sat P)
    (hold : ∀ i t, s.tasks.lookup i = some t → P t) (i : TaskId) (t : Task)
    (h : (s.settle tid o).tasks.lookup i = some t) : P t := by
  rcases settle_lookup.1 h with ⟨-, heq⟩ | ⟨-, hlookup⟩
  · exact hnext t heq
  · exact hold i t hlookup

end RelayTerm.Inventory
