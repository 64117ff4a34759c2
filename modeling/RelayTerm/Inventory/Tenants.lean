import RelayTerm.Inventory.Steps
/-!
# No references across tenants

The database only checks that a referenced row exists. That it is the same
user's comes from reads in earlier awaits: a host or an identity that was once
read as the user's can be deleted before the profile is written, but never turn
up as somebody else's.
-/
open RelayTerm.Lib

namespace RelayTerm.Inventory

variable {s s' : Sys} {tb tb' : Tables} {tid : TaskId} {t : Task} {o : Out} {env : Env}
  {refs : UserId × HostId × SshIdentityId}

/-- The host and the identity are, or were until they were deleted, the owner's. -/
structure Tables.RefsOwned (tb : Tables) (refs : UserId × HostId × SshIdentityId) : Prop where
  host : tb.hosts.Was Host.ownerId refs.2.1 refs.1
  identity : tb.identities.Was SshIdentity.ownerId refs.2.2 refs.1

/-- What the task has read as the user's is, or was, the user's. -/
structure Task.Backed (tb : Tables) (t : Task) : Prop where
  host : ∀ user host, t.hostVouched = some (user, host) → tb.hosts.Was Host.ownerId host user
  identity : ∀ user identity, t.identityVouched = some (user, identity) →
    tb.identities.Was SshIdentity.ownerId identity user

structure Sys.Tenants (s : Sys) : Prop where
  profiles : ∀ id p, s.server.tables.profiles.lookup id = some p → s.server.tables.RefsOwned p.refs
  tasks : ∀ i t, s.tasks.lookup i = some t → t.Backed s.server.tables

/-! ## What time does not change -/

/-- Owners stay and ids are not reused. -/
structure Tables.Later (tb tb' : Tables) : Prop where
  hosts : Table.Later Host.ownerId tb.hosts tb'.hosts
  identities : Table.Later SshIdentity.ownerId tb.identities tb'.identities

theorem Tables.Later.of_eq (hhosts : tb'.hosts = tb.hosts) (hidentities : tb'.identities = tb.identities) :
    tb.Later tb' := by
  refine ⟨?_, ?_⟩
  · rw [hhosts]
    exact .refl _ _
  · rw [hidentities]
    exact .refl _ _

theorem Tables.Moves.later (h : tb.Moves tb') : tb.Later tb' := ⟨h.hosts, h.identities⟩

theorem Tables.RefsOwned.later (h : tb.RefsOwned refs) (hl : tb.Later tb') : tb'.RefsOwned refs :=
  ⟨h.host.later hl.hosts, h.identity.later hl.identities⟩

theorem Task.Backed.later (h : t.Backed tb) (hl : tb.Later tb') : t.Backed tb' :=
  ⟨fun user host hv => (h.host user host hv).later hl.hosts,
    fun user identity hv => (h.identity user identity hv).later hl.identities⟩

theorem Task.Plain.backed (h : t.Plain) : t.Backed tb := by
  constructor
  · intro user host hv
    rw [h.host] at hv
    cases hv
  · intro user identity hv
    rw [h.identity] at hv
    cases hv

/-! ## One step -/

theorem init_tenants : Sys.init.Tenants := by
  constructor
  · intro id p hp
    rw [show Sys.init.server.tables.profiles.lookup id = none from Table.lookup_empty id] at hp
    cases hp
  · intro i t ht
    cases ht

theorem Sys.Tenants.settle (hs : s.Tenants) (tid : TaskId) (hl : s.server.tables.Later o.server.tables)
    (hprofiles : ∀ id p, o.server.tables.profiles.lookup id = some p →
      o.server.tables.RefsOwned p.refs ∨ ∃ p₀, s.server.tables.profiles.lookup id = some p₀ ∧ p.refs = p₀.refs)
    (hnext : o.next.Sat (Task.Backed o.server.tables)) : (s.settle tid o).Tenants := by
  constructor
  · intro id p hp
    rcases hprofiles id p hp with hnew | ⟨p₀, hp₀, heq⟩
    · exact hnew
    · rw [heq]
      exact (hs.profiles id p₀ hp₀).later hl
  · exact settle_cases hnext fun i t ht => (hs.tasks i t ht).later hl

/-- Statements that move rows. -/
theorem moves_tenants {tables : Tables} {next : Next} {cascade : Option HostId} (hs : s.Tenants)
    (hmoves : s.server.tables.Moves tables) (hplain : next.Sat Task.Plain) :
    (s.settle tid ⟨{ s.server with tables := tables }, next, cascade⟩).Tenants :=
  hs.settle tid hmoves.later (fun id p hp => .inr (hmoves.profiles id p hp)) fun t ht => (hplain t ht).backed

/-- A read vouches for the row it has found. -/
theorem quiet_backed (ht : t.Backed tb) {t' : Task}
    (hhost : ∀ user host, t'.hostVouched = some (user, host) →
      t.hostVouched = some (user, host) ∨ ∃ row, tb.ownedHost host user = some row)
    (hidentity : ∀ user identity, t'.identityVouched = some (user, identity) →
      t.identityVouched = some (user, identity) ∨ ∃ row, tb.ownedIdentity identity user = some row) : t'.Backed tb := by
  constructor
  · intro user host hv
    rcases hhost user host hv with hold | ⟨row, hown⟩
    · exact ht.host user host hold
    · obtain ⟨hrow, rfl⟩ := owned_iff.1 hown
      exact .of_lookup hrow
  · intro user identity hv
    rcases hidentity user identity hv with hold | ⟨row, hown⟩
    · exact ht.identity user identity hold
    · obtain ⟨hrow, rfl⟩ := owned_iff.1 hown
      exact .of_lookup hrow

/-- A created profile references what the request has vouched for. -/
theorem created_refs {input : CreateServerProfile} (h : (Task.profileCreate input).Backed tb) :
    tb.RefsOwned (input.ownerId, input.hostId, input.sshIdentityId) :=
  ⟨h.host _ _ rfl, h.identity _ _ rfl⟩

/-- An updated one what the request has vouched for, or what it referenced before. -/
theorem updated_refs {id : ServerProfileId} {input : UpdateServerProfile} {old : ServerProfile}
    (h : (Task.profileUpdate old.ownerId id input).Backed tb) (hold : tb.RefsOwned old.refs) :
    tb.RefsOwned (old.ownerId, input.hostId.getD old.hostId, input.sshIdentityId.getD old.sshIdentityId) := by
  constructor
  · cases hhost : input.hostId with
    | none => exact hold.host
    | some host => exact h.host old.ownerId host (by simp [Task.hostVouched, hhost])
  · cases hidentity : input.sshIdentityId with
    | none => exact hold.identity
    | some identity => exact h.identity old.ownerId identity (by simp [Task.identityVouched, hidentity])

theorem resume_tenants (hs : s.Tenants) (ht : s.tasks.lookup tid = some t)
    (h : s.server.resume env s.pins t = some o) : (s.settle tid o).Tenants := by
  have hbacked := hs.tasks tid t ht
  cases resume_effect h with
  | quiet _ audits next hhost hidentity _ =>
    refine hs.settle tid (.of_eq rfl rfl) (fun id p hp => .inl (hs.profiles id p hp)) ?_
    intro t' ht'
    exact quiet_backed hbacked (hhost t' ht') (hidentity t' ht')
  | moved _ tables next hmoves hplain => exact moves_tenants hs hmoves hplain
  | created input tables next hhosts hidentities hprofiles hplain =>
    have hl : s.server.tables.Later tables := .of_eq hhosts hidentities
    refine hs.settle tid hl ?_ fun t' ht' => (hplain t' ht').backed
    intro id p hp
    rcases hprofiles id p hp with hrefs | hold
    · rw [hrefs]
      exact .inl ((created_refs hbacked).later hl)
    · exact .inr ⟨p, hold, rfl⟩
  | updated user id input old tables next hhosts hidentities hold howner hprofiles hplain =>
    subst howner
    have hl : s.server.tables.Later tables := .of_eq hhosts hidentities
    refine hs.settle tid hl ?_ fun t' ht' => (hplain t' ht').backed
    intro i p hp
    rcases hprofiles i p hp with hrefs | hkept
    · rw [hrefs]
      exact .inl ((updated_refs hbacked (hs.profiles id old hold)).later hl)
    · exact .inr ⟨p, hkept, rfl⟩
  | hostDeleted user id tables hmoves => exact moves_tenants hs hmoves (Next.sat_ret _ _)

theorem step_tenants {ev : Event} (hs : s.Tenants) (h : s.step ev = some s') : s'.Tenants := by
  cases ev with
  | request user r =>
    cases h
    have hsettled : (s.settle s.nextTask ⟨s.server, r.enter user, none⟩).Tenants :=
      hs.settle s.nextTask (.of_eq rfl rfl) (fun id p hp => .inl (hs.profiles id p hp))
        fun t ht => (enter_plain user r t ht).backed
    exact ⟨hsettled.profiles, hsettled.tasks⟩
  | resume tid env =>
    obtain ⟨t, ht, hrest⟩ := Option.bind_eq_some_iff.1 h
    obtain ⟨o, ho, rfl⟩ := Option.map_eq_some_iff.1 hrest
    exact resume_tenants hs ht ho
  | pin tid env =>
    obtain ⟨t, ht, hrest⟩ := Option.bind_eq_some_iff.1 h
    obtain ⟨o, ho, rfl⟩ := Option.map_eq_some_iff.1 hrest
    exact ⟨hs.profiles, hs.tasks⟩
  | openSession user profile =>
    obtain ⟨tables, htables, rfl⟩ := Option.map_eq_some_iff.1 h
    have hmoves := createSession_moves htables
    constructor
    · intro id p hp
      obtain ⟨p₀, hp₀, heq⟩ := hmoves.profiles id p hp
      rw [heq]
      exact (hs.profiles id p₀ hp₀).later hmoves.later
    · exact fun i t ht => (hs.tasks i t ht).later hmoves.later

/-- **No references across tenants.** Whatever requests of whatever users have
run from an empty database, in whatever order, every profile's host and identity
are there and belong to the profile's owner. -/
theorem references_stay_home (evs : List Event) (s : Sys) (hr : run Sys.step .init evs = some s)
    (id : ServerProfileId) (p : ServerProfile) (hp : s.server.tables.profiles.lookup id = some p) :
    ∃ host identity, s.server.tables.hosts.lookup p.hostId = some host ∧
      s.server.tables.identities.lookup p.sshIdentityId = some identity ∧
      host.ownerId = p.ownerId ∧ identity.ownerId = p.ownerId := by
  have htenants : s.Tenants := run_inv Sys.Tenants (fun _ _ _ hs h => step_tenants hs h) hr init_tenants
  have howned := htenants.profiles id p hp
  obtain ⟨host, hhost⟩ := Option.isSome_iff_exists.1 (s.server.tables.hostRef id p hp)
  obtain ⟨identity, hidentity⟩ := Option.isSome_iff_exists.1 (s.server.tables.identityRef id p hp)
  exact ⟨host, identity, hhost, hidentity, howned.host.2 host hhost, howned.identity.2 identity hidentity⟩

def answered : Env := ⟨true, 0, .ok⟩

/-- User 1 creates a host, an identity and a profile; user 2 tries to bind a profile to the same two. -/
def twoTenants : List Event :=
  [.request 1 (.createHost ⟨0, "web", "web.example", 22, "deploy"⟩), .resume 0 answered,
    .request 1 (.createSshIdentity ⟨0, "key", .ed25519, [1], [2], "SHA256:a"⟩), .resume 1 answered, .resume 1 answered,
    .request 1 (.createServerProfile ⟨0, "prod", 0, 0, none, []⟩), .resume 2 answered, .resume 2 answered,
    .resume 2 answered, .request 2 (.createServerProfile ⟨0, "mine", 0, 0, none, []⟩), .resume 3 answered]

theorem references_stay_home_refused : ∃ s, run Sys.step .init twoTenants = some s ∧
    s.server.tables.profiles.lookup 0 = some ⟨1, "prod", 0, 0, none, [], 0, 0, none⟩ ∧
    s.server.tables.profiles.lookup 1 = none ∧
    ∃ host identity, s.server.tables.hosts.lookup 0 = some host ∧
      s.server.tables.identities.lookup 0 = some identity ∧ host.ownerId = 1 ∧ identity.ownerId = 1 :=
  ⟨_, rfl, rfl, rfl, references_stay_home twoTenants _ rfl 0 ⟨1, "prod", 0, 0, none, [], 0, 0, none⟩ rfl⟩

end RelayTerm.Inventory
