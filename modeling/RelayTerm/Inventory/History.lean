import RelayTerm.HostKey.Steps
import RelayTerm.Inventory.Steps
/-!
# Pinned-trust history

Rows of `known_host_entries` go only with their host. The delete route refuses
a host with pinned keys, but it looks in one statement and deletes in another: a
key that is pinned in between goes with the host.
-/
open RelayTerm.Lib RelayTerm.HostKey

namespace RelayTerm.Inventory

/-- What a row is about; only its trust and revocation columns change. -/
def pinOf (e : KnownHostEntry) : EntryId × HostId × SshKeyType × String :=
  (e.id, e.hostId, e.keyType, e.fingerprintSha256)

/-- Every row is still there. -/
def Kept (rows rows' : List KnownHostEntry) : Prop := ∀ e ∈ rows, ∃ e' ∈ rows', pinOf e' = pinOf e

/-- The host for which a statement of a host-key route adds a row. -/
def addsFor : HostKey.Task → Option HostId
  | .create input | .recordTrusted input => some input.hostId
  | .replaceCommit input _ _ _ => some input.hostId
  | _ => none

/-- No key is pinned for a host between the dependents check of a request that
deletes it and its `DELETE`. -/
def Sys.PinsApart (s : Sys) : Event → Prop
  | .pin tid _ => ∀ host ∈ (s.pins.tasks.lookup tid).bind addsFor, s.tasks.any (fun t => t.deletes = some host) = false
  | _ => True

instance (s : Sys) : (ev : Event) → Decidable (s.PinsApart ev)
  | .pin tid _ => inferInstanceAs (Decidable (∀ host ∈ (s.pins.tasks.lookup tid).bind addsFor, _))
  | .request _ _ | .resume _ _ | .openSession _ _ => isTrue trivial

/-- A host that is about to be deleted has no pinned keys. -/
def Sys.Unpinned (s : Sys) : Prop :=
  ∀ i t, s.tasks.lookup i = some t → ∀ host, t.deletes = some host → ∀ e ∈ s.pins.db.rows, e.hostId ≠ host

variable {s s' : Sys} {rows rows' rows'' : List KnownHostEntry} {tid : TaskId}

/-! ## The pinned keys -/

theorem Kept.refl (rows : List KnownHostEntry) : Kept rows rows := fun e he => ⟨e, he, rfl⟩

theorem Kept.trans (h : Kept rows rows') (h' : Kept rows' rows'') : Kept rows rows'' := by
  intro e he
  obtain ⟨e', he', heq⟩ := h e he
  obtain ⟨e'', he'', heq'⟩ := h' e' he'
  exact ⟨e'', he'', heq'.trans heq⟩

theorem Kept.append (rows more : List KnownHostEntry) : Kept rows (rows ++ more) :=
  fun e he => ⟨e, List.mem_append_left _ he, rfl⟩

theorem Kept.map {f : KnownHostEntry → KnownHostEntry} (hf : ∀ e, pinOf (f e) = pinOf e) (rows : List KnownHostEntry) :
    Kept rows (rows.map f) :=
  fun e he => ⟨f e, List.mem_map_of_mem he, hf e⟩

/-- Every row is about a host that had one, or the one the statement adds for. -/
def HostsFrom (rows rows' : List KnownHostEntry) (added : Option HostId) : Prop :=
  ∀ e' ∈ rows', (∃ e ∈ rows, e'.hostId = e.hostId) ∨ added = some e'.hostId

theorem HostsFrom.refl (rows : List KnownHostEntry) (added : Option HostId) : HostsFrom rows rows added :=
  fun e he => .inl ⟨e, he, rfl⟩

theorem HostsFrom.map {f : KnownHostEntry → KnownHostEntry} (hf : ∀ e, pinOf (f e) = pinOf e)
    (rows : List KnownHostEntry) (added : Option HostId) : HostsFrom rows (rows.map f) added := by
  intro e' he'
  obtain ⟨e, he, rfl⟩ := List.mem_map.1 he'
  exact .inl ⟨e, he, congrArg (·.2.1) (hf e)⟩

theorem HostsFrom.append {row : KnownHostEntry} {added : Option HostId} (h : HostsFrom rows rows' added)
    (hrow : added = some row.hostId) : HostsFrom rows (rows' ++ [row]) added := by
  intro e' he'
  rcases List.mem_append.1 he' with hold | hnew
  · exact h e' hold
  · rw [List.mem_singleton.1 hnew]
    exact .inr hrow

/-- What a statement of a host-key route does to the rows. -/
theorem resume_rows {db : Db} {env : HostKey.Env} {others : Registry HostKey.TaskId HostKey.Task} {t : HostKey.Task}
    {o : HostKey.Out} (h : db.resume env others t = some o) :
    Kept db.rows o.db.rows ∧ HostsFrom db.rows o.db.rows (addsFor t) := by
  cases HostKey.resume_effect h with
  | quiet | inserted => exact ⟨.refl _, .refl _ _⟩
  | created input now reply => exact ⟨.append _ _, (HostsFrom.refl _ _).append rfl⟩
  | recorded input now reply => exact ⟨.append _ _, (HostsFrom.refl _ _).append rfl⟩
  | stamped input now reply =>
    have hsame : ∀ e : KnownHostEntry,
        pinOf (if e.isAt input.hostId input.fingerprintSha256 then e.stampTrusted now else e) = pinOf e := by
      intro e
      split
      · rfl
      · rfl
    exact ⟨.map hsame _, .map hsame _ _⟩
  | committed input now old new reply =>
    have hsame : ∀ e : KnownHostEntry, pinOf (if e.id = old then e.revoke input new now else e) = pinOf e := by
      intro e
      split
      · rfl
      · rfl
    exact ⟨(Kept.map hsame _).trans (.append _ _), (HostsFrom.map hsame _ _).append rfl⟩

theorem resumePin_rows {env : HostKey.Env} {t : HostKey.Task} {o : HostKey.Out}
    (h : s.resumePin tid env t = some o) :
    Kept s.pins.db.rows o.db.rows ∧ HostsFrom s.pins.db.rows o.db.rows (addsFor t) := by
  unfold Sys.resumePin at h
  split at h
  · cases h
    exact ⟨.refl _, .refl _ _⟩
  · exact resume_rows h

/-! ## One step -/

/-- A step that leaves the pinned keys alone. -/
theorem settle_unpinned (tid : TaskId) (o : Out) (hs : s.Unpinned) (hcascade : o.cascade = none)
    (hnext : o.next.Sat fun t => ∀ host, t.deletes = some host → ∀ e ∈ s.pins.db.rows, e.hostId ≠ host) :
    (s.settle tid o).Unpinned ∧ (s.settle tid o).pins.db.rows = s.pins.db.rows := by
  have hrows : (s.settle tid o).pins.db.rows = s.pins.db.rows := by
    show cascadeRows o.cascade s.pins.db.rows = s.pins.db.rows
    rw [hcascade]
    rfl
  refine ⟨?_, hrows⟩
  intro i t ht
  rw [hrows]
  exact settle_cases hnext hs i t ht

theorem plain_deletes {next : Next} (h : next.Sat Task.Plain) :
    next.Sat fun t => ∀ host, t.deletes = some host → ∀ e ∈ s.pins.db.rows, e.hostId ≠ host := by
  intro t ht host hdel
  rw [(h t ht).deletes] at hdel
  cases hdel

/-- A deleted host takes no row with it. -/
theorem hostDeleted_rows {user : UserId} {id : HostId} (hs : s.Unpinned)
    (ht : s.tasks.lookup tid = some (.hostDelete user id)) : cascadeRows (some id) s.pins.db.rows = s.pins.db.rows := by
  apply List.filter_eq_self.2
  intro e he
  simpa using hs tid _ ht id rfl e he

theorem resume_unpinned {env : Env} {t : Task} {o : Out} (hs : s.Unpinned) (ht : s.tasks.lookup tid = some t)
    (h : s.server.resume env s.pins t = some o) :
    (s.settle tid o).Unpinned ∧ (s.settle tid o).pins.db.rows = s.pins.db.rows := by
  cases resume_effect h with
  | quiet _ _ _ _ _ hdelete => exact settle_unpinned tid _ hs rfl hdelete
  | moved _ _ _ _ hplain => exact settle_unpinned tid _ hs rfl (plain_deletes hplain)
  | created _ _ _ _ _ _ hplain => exact settle_unpinned tid _ hs rfl (plain_deletes hplain)
  | updated _ _ _ _ _ _ _ _ _ _ _ hplain => exact settle_unpinned tid _ hs rfl (plain_deletes hplain)
  | hostDeleted user id tables =>
    have hrows := hostDeleted_rows hs ht
    refine ⟨?_, hrows⟩
    intro i t' ht' host hdel e he
    have he : e ∈ s.pins.db.rows := hrows ▸ he
    exact settle_cases (Next.sat_ret _ _) hs i t' ht' host hdel e he

/-- A key pinned for a host that nobody is about to delete. -/
theorem pin_unpinned {env : HostKey.Env} {t : HostKey.Task} {o : HostKey.Out} (hs : s.Unpinned)
    (ht : s.pins.tasks.lookup tid = some t) (hapart : s.PinsApart (.pin tid env))
    (h : s.resumePin tid env t = some o) : Sys.Unpinned { s with pins := s.pins.settle tid o } := by
  intro i t' ht' host hdel e' he' heq
  rcases (resumePin_rows h).2 e' he' with ⟨e, he, hsame⟩ | hadds
  · exact hs i t' ht' host hdel e he (hsame.symm.trans heq)
  · have hnone := hapart e'.hostId (by rw [ht]; exact hadds)
    have hany : s.tasks.any (fun t => t.deletes = some e'.hostId) = true :=
      Registry.any_iff.2 ⟨i, t', ht', by simpa using hdel.trans (congrArg some heq.symm)⟩
    rw [hany] at hnone
    cases hnone

theorem step_unpinned {ev : Event} (hs : s.Unpinned) (hapart : s.PinsApart ev) (h : s.step ev = some s') :
    s'.Unpinned ∧ Kept s.pins.db.rows s'.pins.db.rows := by
  cases ev with
  | request user r =>
    cases h
    obtain ⟨hun, hrows⟩ := settle_unpinned s.nextTask ⟨s.server, r.enter user, none⟩ hs rfl
      (plain_deletes (enter_plain user r))
    exact ⟨hun, hrows ▸ .refl _⟩
  | resume tid env =>
    obtain ⟨t, ht, hrest⟩ := Option.bind_eq_some_iff.1 h
    obtain ⟨o, ho, rfl⟩ := Option.map_eq_some_iff.1 hrest
    obtain ⟨hun, hrows⟩ := resume_unpinned hs ht ho
    exact ⟨hun, hrows ▸ .refl _⟩
  | pin tid env =>
    obtain ⟨t, ht, hrest⟩ := Option.bind_eq_some_iff.1 h
    obtain ⟨o, ho, rfl⟩ := Option.map_eq_some_iff.1 hrest
    exact ⟨pin_unpinned hs ht hapart ho, (resumePin_rows ho).1⟩
  | openSession user profile =>
    obtain ⟨tables, -, rfl⟩ := Option.map_eq_some_iff.1 h
    exact ⟨hs, .refl _⟩

/-! ## Runs -/

/-- Pinned-trust history is never deleted, if no key is pinned for a host
between the check and the `DELETE` of a request that deletes it. -/
theorem pinned_history_kept (s₀ s₁ s₂ : Sys) (before after : List Event) (hrest : s₀.tasks = ∅)
    (hapart : Guarded Sys.step Sys.PinsApart s₀ (before ++ after)) (h₁ : run Sys.step s₀ before = some s₁)
    (h₂ : run Sys.step s₁ after = some s₂) : Kept s₁.pins.db.rows s₂.pins.db.rows := by
  obtain ⟨hbefore, hafter⟩ := hapart.of_append h₁
  have hun₀ : s₀.Unpinned := by
    intro i t ht
    rw [hrest, AList.lookup_empty] at ht
    cases ht
  have hun₁ : s₁.Unpinned :=
    hbefore.inv Sys.Unpinned (fun _ _ _ hs hok h => (step_unpinned hs hok h).1) h₁ hun₀
  -- From here on the rows of `s₁` are followed along with the invariant.
  refine (hafter.inv (fun s => s.Unpinned ∧ Kept s₁.pins.db.rows s.pins.db.rows) ?_ h₂ ⟨hun₁, .refl _⟩).2
  rintro s ev s' ⟨hs, hkept⟩ hok h
  obtain ⟨hun, hmore⟩ := step_unpinned hs hok h
  exact ⟨hun, hkept.trans hmore⟩

/-- Every statement succeeds. -/
def served : Env := ⟨true, 0, .ok⟩

/-- The host presents one key, whenever it is probed. -/
def presented : HostKey.Env := ⟨true, 0, 0, ⟨.ed25519, "SHA256:a", [7]⟩⟩

/-- Two hosts, an SSH identity, and a profile for host 0. -/
def oneProfile : List Event :=
  [.request 1 (.createHost ⟨0, "web", "web.example", 22, "deploy"⟩), .resume 0 served,
    .request 1 (.createHost ⟨0, "db", "db.example", 22, "deploy"⟩), .resume 1 served,
    .request 1 (.createSshIdentity ⟨0, "key", .ed25519, [1], [2], "SHA256:a"⟩), .resume 2 served, .resume 2 served,
    .request 1 (.createServerProfile ⟨0, "prod", 0, 0, none, []⟩), .resume 3 served, .resume 3 served,
    .resume 3 served, .resume 3 served]

/-- A trust request up to the statement that pins the key. -/
def trusting : List Event :=
  [.request 1 (.trustHostKey 0 ⟨"SHA256:a"⟩), .resume 4 served, .resume 4 served, .resume 4 served,
    .pin 0 presented, .pin 0 presented]

/-- Once the key is pinned, its host cannot be deleted. -/
def refusedDelete : List Event := [.request 1 (.deleteHost 0), .resume 5 served, .resume 5 served]

theorem pinned_history_kept_refused : ∃ s₁ s₂,
    run Sys.step .init (oneProfile ++ trusting ++ [.pin 0 presented]) = some s₁ ∧
    run Sys.step s₁ refusedDelete = some s₂ ∧ s₁.pins.db.rows.map (·.fingerprintSha256) = ["SHA256:a"] ∧
    Kept s₁.pins.db.rows s₂.pins.db.rows :=
  ⟨_, _, rfl, rfl, rfl, pinned_history_kept .init _ _ (oneProfile ++ trusting ++ [.pin 0 presented]) refusedDelete rfl
    (by decide) rfl rfl⟩

/-- The requests of an owner that bear on the hosts of their pinned keys. -/
def Event.OfOwner (user : UserId) : Event → Prop
  | .request caller r => caller = user ∧ match r with
    | .deleteHost _ | .createServerProfile _ | .updateServerProfile _ _ | .deleteServerProfile _ | .trustHostKey _ _
    | .replaceHostKey _ _ => True
    | _ => False
  | .resume _ _ | .pin _ _ => True
  | .openSession _ _ => False

/-- Before the key is pinned, the profile is pointed to the other host, and the
delete of the first finds neither a profile nor a pin. -/
def repointed : List Event :=
  [.request 1 (.updateServerProfile 0 ⟨none, some 1, none, .unchanged, none⟩), .resume 5 served, .resume 5 served,
    .resume 5 served, .resume 5 served, .request 1 (.deleteHost 0), .resume 6 served, .resume 6 served]

theorem pinned_history_lost : ¬ ∀ (user : UserId) (setup before after : List Event) (s₀ s₁ s₂ : Sys),
    run Sys.step .init setup = some s₀ → s₀.tasks = ∅ → s₀.pins.tasks = ∅ →
    (∀ ev ∈ before ++ after, ev.OfOwner user) → run Sys.step s₀ before = some s₁ → run Sys.step s₁ after = some s₂ →
    Kept s₁.pins.db.rows s₂.pins.db.rows := by
  intro h
  have hkept := h 1 oneProfile (trusting ++ repointed ++ [.pin 0 presented]) [.resume 6 served] _ _ _ rfl rfl rfl
    (by simp [trusting, repointed, Event.OfOwner]) rfl rfl
  obtain ⟨e, he, -⟩ := hkept _ List.mem_cons_self
  cases he

end RelayTerm.Inventory
