import RelayTerm.HostKey.Steps
/-!
# One active pin per host and key type

A preflight names the pin that flagged a change and relies on there being at
most one trusted and unrevoked row per host and key type. Nothing in the schema
says so. It holds as long as each write is judged against the rows it meets: the
trust route judges an earlier snapshot, and a replace looks the old pin up by
its fingerprint, whatever its key type.
-/
open RelayTerm.Lib

namespace RelayTerm.HostKey

/-- The trusted and unrevoked rows of a host and key type. -/
def activePins (rows : List KnownHostEntry) (host : HostId) (keyType : SshKeyType) : List KnownHostEntry :=
  rows.filter fun e => e.hostId = host && e.keyType = keyType && e.isActivePin

variable {rows : List KnownHostEntry} {host : HostId} {keyType : SshKeyType} {fingerprint : String}

/-! ## Rows -/

theorem mem_listForHost {e : KnownHostEntry} : e ∈ listForHost rows host ↔ e ∈ rows ∧ e.hostId = host := by
  simp [listForHost, List.mem_insertionSort]

theorem mem_activePins {e : KnownHostEntry} : e ∈ activePins rows host keyType ↔
    e ∈ rows ∧ e.hostId = host ∧ e.keyType = keyType ∧ e.trustedAt.isSome = true ∧ e.revokedAt.isNone = true := by
  simp [activePins, KnownHostEntry.isActivePin, and_assoc]

theorem findByFingerprint_none (h : findByFingerprint rows host fingerprint = none) :
    ∀ e ∈ rows, e.hostId = host → e.fingerprintSha256 ≠ fingerprint := by
  intro e he hhost hfp
  have hat := List.find?_eq_none.1 h e he
  simp [KnownHostEntry.isAt, hhost, hfp] at hat

/-- A key none of the rows has, and that is not a change: no unrevoked row has its type. -/
theorem classifyHostKey_unknown {captured : CapturedHostKey} {known : List KnownHostEntry}
    (h : classifyHostKey captured known ≠ .changed)
    (hnew : ∀ e ∈ known, e.fingerprintSha256 ≠ captured.fingerprintSha256) :
    ∀ e ∈ known, e.revokedAt.isNone = true → e.keyType ≠ captured.keyType := by
  intro e he hunrevoked htype
  have hactive : e ∈ known.filter fun e => e.revokedAt.isNone := List.mem_filter.2 ⟨he, hunrevoked⟩
  apply h
  unfold classifyHostKey
  have hnone : (known.filter fun e => e.revokedAt.isNone).find? (·.holds captured) = none := by
    refine List.find?_eq_none.2 fun e' he' hholds => hnew e' (List.mem_of_mem_filter he') ?_
    simp only [KnownHostEntry.holds, Bool.and_eq_true, decide_eq_true_eq] at hholds
    exact hholds.2
  have hany : (known.filter fun e => e.revokedAt.isNone).any (·.differs captured) = true :=
    List.any_eq_true.2 ⟨e, hactive, by simp [KnownHostEntry.differs, htype, hnew e he]⟩
  simp [hnone, hany]

/-- Where a new key is no change to a list with all rows of the host, the host has no pin of its type. -/
theorem activePins_eq_nil {captured : CapturedHostKey} {known : List KnownHostEntry}
    (h : classifyHostKey captured known ≠ .changed)
    (hnew : ∀ e ∈ known, e.fingerprintSha256 ≠ captured.fingerprintSha256)
    (hall : ∀ e ∈ rows, e.hostId = host → e ∈ known) : activePins rows host captured.keyType = [] := by
  refine List.eq_nil_iff_forall_not_mem.2 fun e he => ?_
  obtain ⟨he, hhost, htype, -, hunrevoked⟩ := mem_activePins.1 he
  exact classifyHostKey_unknown h hnew e (hall e he hhost) hunrevoked htype

/-- A revoked row is no active pin. -/
theorem activePins_revokeRow (input : ReplaceActivePin) (old new : EntryId) (now : Time) :
    activePins (revokeRow rows input old new now) host keyType =
      activePins (rows.filter fun e => e.id ≠ old) host keyType := by
  induction rows with
  | nil => rfl
  | cons e rows ih =>
    simp only [activePins, revokeRow, List.map_cons] at ih ⊢
    by_cases hid : e.id = old
    · have hrevoked : (e.revoke input new now).isActivePin = false := by
        simp [KnownHostEntry.isActivePin, KnownHostEntry.revoke]
      simp [hid, hrevoked, ih]
    · by_cases hp : (e.hostId = host && e.keyType = keyType && e.isActivePin) = true
      · simp [hid, hp, ih]
      · simp [hid, hp, ih]

/-- A new row adds a pin to its own host and key type only. -/
theorem activePins_append (rows : List KnownHostEntry) (row : KnownHostEntry) :
    activePins (rows ++ [row]) host keyType = activePins rows host keyType ∨
      (row.hostId = host ∧ row.keyType = keyType ∧
        activePins (rows ++ [row]) host keyType = activePins rows host keyType ++ [row]) := by
  unfold activePins
  rw [List.filter_append]
  by_cases hp : (row.hostId = host && row.keyType = keyType && row.isActivePin) = true
  · have hp' := hp
    simp only [Bool.and_eq_true, decide_eq_true_eq] at hp'
    exact .inr ⟨hp'.1.1, hp'.1.2, by simp [hp]⟩
  · exact .inl (by simp [hp])

theorem stampTrusted_trusted {e : KnownHostEntry} (now : Time) (h : e.trustedAt.isSome = true) :
    e.stampTrusted now = e := by
  obtain ⟨at', hat⟩ := Option.isSome_iff_exists.1 h
  unfold KnownHostEntry.stampTrusted
  rw [hat]
  cases e
  simp_all

/-! ## The invariant -/

/-- The key a task is about to write is no change to the rows it meets; a
replace does not count the pin it revokes. -/
def Task.isCurrent (rows : List KnownHostEntry) : Task → Bool
  | .recordTrusted input =>
    classifyHostKey ⟨input.keyType, input.fingerprintSha256, input.publicKey⟩ (listForHost rows input.hostId)
      ≠ .changed
  | .replaceCommit input _ old _ =>
    classifyHostKey input.captured ((listForHost rows input.hostId).filter fun e => e.id ≠ old) ≠ .changed
  | _ => true

/-- A write that goes through is current. -/
def Sys.WritesCurrent (s : Sys) : Event → Prop
  | .resume tid env => env.ok = true → ∀ t ∈ s.tasks.lookup tid, t.isCurrent s.db.rows = true
  | .call _ => True

instance (s : Sys) : (e : Event) → Decidable (s.WritesCurrent e)
  | .resume _ _ => inferInstanceAs (Decidable (_ → _))
  | .call _ => isTrue trivial

/-- The event is no direct call of the repository. -/
def Event.isRequest : Event → Bool
  | .call .hostKeyPreflight | .call (.trustHostKey _) | .call (.replaceHostKey _ _) => true
  | .call _ => false
  | .resume _ _ => true

/-- All rows are trusted, at most one per host and key type is unrevoked, and
the keys that open transactions have inserted are in no row and in no other
transaction. -/
structure Sys.OnePin (s : Sys) : Prop where
  trusted : ∀ e ∈ s.db.rows, e.trustedAt.isSome = true
  one : ∀ host keyType, (activePins s.db.rows host keyType).length ≤ 1
  absent : ∀ i t host fingerprint, s.tasks.lookup i = some t → t.reserves = some (host, fingerprint) →
    ∀ e ∈ s.db.rows, e.hostId = host → e.fingerprintSha256 ≠ fingerprint
  distinct : ∀ i j t u key, s.tasks.lookup i = some t → s.tasks.lookup j = some u → t.reserves = some key →
    u.reserves = some key → i = j
  noCreate : ∀ i input, s.tasks.lookup i ≠ some (.create input)

variable {s s' : Sys} {env : Env} {tid : TaskId} {t : Task} {o : Out}

theorem init_onePin : Sys.init.OnePin :=
  ⟨by simp [Sys.init], by simp [Sys.init, activePins], by simp [Sys.init], by simp [Sys.init], by simp [Sys.init]⟩

/-- A key that is not reserved by the others is reserved by none of them. -/
theorem not_reserved (h : Db.isReserved (s.tasks.erase tid) host fingerprint = false) {i : TaskId} {u : Task}
    (hi : i ≠ tid) (hu : s.tasks.lookup i = some u) : u.reserves ≠ some (host, fingerprint) := by
  intro hres
  have hany : Db.isReserved (s.tasks.erase tid) host fingerprint = true :=
    Registry.any_iff.2 ⟨i, u, Registry.lookup_erase_iff.2 ⟨hi, hu⟩, by simpa using hres⟩
  rw [h] at hany
  cases hany

/-- A step that writes no row and reserves no new key. -/
theorem quiet_onePin {next : Next} (hs : s.OnePin)
    (hkeys : ∀ u key, next = .await u → u.reserves = some key →
      ∃ v, s.tasks.lookup tid = some v ∧ v.reserves = some key)
    (hcreate : ∀ input, next ≠ .await (.create input)) : (s.settle tid ⟨s.db, next⟩).OnePin := by
  -- a task of the new pool reserves what a task of the old one did
  have hold : ∀ i u key, (s.settle tid ⟨s.db, next⟩).tasks.lookup i = some u → u.reserves = some key →
      ∃ v, s.tasks.lookup i = some v ∧ v.reserves = some key := by
    intro i u key hu hkey
    rcases settle_lookup.1 hu with ⟨rfl, hnext⟩ | ⟨-, hu⟩
    · exact hkeys u key hnext hkey
    · exact ⟨u, hu, hkey⟩
  refine ⟨hs.trusted, hs.one, fun i u host fingerprint hu hkey => ?_, fun i j u v key hu hv hku hkv => ?_,
    fun i input hu => ?_⟩
  · obtain ⟨v, hv, hvkey⟩ := hold i u _ hu hkey
    exact hs.absent i v host fingerprint hv hvkey
  · obtain ⟨u', hu', hku'⟩ := hold i u key hu hku
    obtain ⟨v', hv', hkv'⟩ := hold j v key hv hkv
    exact hs.distinct i j u' v' key hu' hv' hku' hkv'
  · rcases settle_lookup.1 hu with ⟨-, hnext⟩ | ⟨-, hu⟩
    · exact hcreate input hnext
    · exact hs.noCreate i input hu

/-- A transaction inserts a key nobody has. -/
theorem inserted_onePin {input : ReplaceActivePin} {now : Time} {old new : EntryId} {nextId : EntryId}
    (hs : s.OnePin) (free : Db.isReserved (s.tasks.erase tid) input.hostId input.newFingerprintSha256 = false)
    (absent : findByFingerprint s.db.rows input.hostId input.newFingerprintSha256 = none) :
    (s.settle tid ⟨{ s.db with nextId := nextId }, .await (.replaceUpdate input now old new)⟩).OnePin := by
  refine ⟨hs.trusted, hs.one, fun i u host fingerprint hu hkey => ?_, fun i j u v key hu hv hku hkv => ?_,
    fun i input' hu => ?_⟩
  · rcases settle_lookup.1 hu with ⟨-, hnext⟩ | ⟨-, hu⟩
    · obtain rfl := Next.await.inj hnext
      obtain ⟨rfl, rfl⟩ := Prod.mk.inj (Option.some.inj hkey)
      exact findByFingerprint_none absent
    · exact hs.absent i u host fingerprint hu hkey
  · rcases settle_lookup.1 hu with ⟨hi, hnext⟩ | ⟨hi, hu₀⟩
    · rcases settle_lookup.1 hv with ⟨hj, -⟩ | ⟨hj, hv₀⟩
      · rw [hi, hj]
      · obtain rfl := Next.await.inj hnext
        exact absurd (hkv.trans hku.symm) (not_reserved free hj hv₀)
    · rcases settle_lookup.1 hv with ⟨hj, hnext⟩ | ⟨hj, hv₀⟩
      · obtain rfl := Next.await.inj hnext
        exact absurd (hku.trans hkv.symm) (not_reserved free hi hu₀)
      · exact hs.distinct i j u v key hu₀ hv₀ hku hkv
  · rcases settle_lookup.1 hu with ⟨-, hnext⟩ | ⟨-, hu⟩
    · simp at hnext
    · exact hs.noCreate i input' hu

/-- A statement that ends its task and leaves `rows`: it is enough to look at
the rows. -/
theorem returned_onePin {db : Db} {reply : Reply} (hs : s.OnePin)
    (htrusted : ∀ e ∈ db.rows, e.trustedAt.isSome = true)
    (hone : ∀ host keyType, (activePins db.rows host keyType).length ≤ 1)
    (hrows : ∀ e ∈ db.rows, (∃ e' ∈ s.db.rows, e'.hostId = e.hostId ∧ e'.fingerprintSha256 = e.fingerprintSha256) ∨
      ∀ i u, i ≠ tid → s.tasks.lookup i = some u → u.reserves ≠ some (e.hostId, e.fingerprintSha256)) :
    (s.settle tid ⟨db, .ret reply⟩).OnePin := by
  have hold : ∀ i u, (s.settle tid ⟨db, .ret reply⟩).tasks.lookup i = some u →
      i ≠ tid ∧ s.tasks.lookup i = some u := by
    intro i u hu
    rcases settle_lookup.1 hu with ⟨-, hnext⟩ | hu
    · cases hnext
    · exact hu
  refine ⟨htrusted, hone, fun i u host fingerprint hu hkey e he hhost hfp => ?_,
    fun i j u v key hu hv => hs.distinct i j u v key (hold i u hu).2 (hold j v hv).2,
    fun i input hu => hs.noCreate i input (hold i _ hu).2⟩
  obtain ⟨hi, hu⟩ := hold i u hu
  rcases hrows e he with ⟨e', he', hhost', hfp'⟩ | hfree
  · exact hs.absent i u host fingerprint hu hkey e' he' (hhost'.trans hhost) (hfp'.trans hfp)
  · exact hfree i u hi hu (by rw [hhost, hfp]; exact hkey)

/-- The first row of a key, judged against the rows it joins. -/
theorem recorded_onePin {input : CreateKnownHostEntry} {id : EntryId} {now : Time} {reply : Reply} {nextId : EntryId}
    (hs : s.OnePin) (free : Db.isReserved (s.tasks.erase tid) input.hostId input.fingerprintSha256 = false)
    (absent : findByFingerprint s.db.rows input.hostId input.fingerprintSha256 = none)
    (hcurrent : (Task.recordTrusted input).isCurrent s.db.rows = true) :
    (s.settle tid ⟨{ s.db with rows := s.db.rows ++ [input.row id now (some now)], nextId := nextId },
      .ret reply⟩).OnePin := by
  have hnew := findByFingerprint_none absent
  refine returned_onePin hs (fun e he => ?_) (fun host keyType => ?_) (fun e he => ?_)
  · rcases List.mem_append.1 he with he | he
    · exact hs.trusted e he
    · obtain rfl := List.mem_singleton.1 he
      rfl
  · rcases activePins_append s.db.rows (input.row id now (some now)) with hsame | ⟨hhost, htype, hadded⟩
    · exact hsame ▸ hs.one host keyType
    · -- the key is new, so a pin of its type would have been a change
      obtain rfl : input.hostId = host := hhost
      obtain rfl : input.keyType = keyType := htype
      have hnone : activePins s.db.rows input.hostId input.keyType = [] :=
        activePins_eq_nil (of_decide_eq_true hcurrent)
          (fun e he => hnew e (mem_listForHost.1 he).1 (mem_listForHost.1 he).2)
          (fun e he hhost => mem_listForHost.2 ⟨he, hhost⟩)
      rw [hadded, hnone]
      exact Nat.le_refl 1
  · rcases List.mem_append.1 he with he | he
    · exact .inl ⟨e, he, rfl, rfl⟩
    · obtain rfl := List.mem_singleton.1 he
      exact .inr fun i u hi hu => not_reserved free hi hu

/-- A commit, judged against the rows other than the one it revokes. -/
theorem committed_onePin {input : ReplaceActivePin} {now : Time} {old new : EntryId} {reply : Reply}
    (hs : s.OnePin) (ht : s.tasks.lookup tid = some (.replaceCommit input now old new))
    (hcurrent : (Task.replaceCommit input now old new).isCurrent s.db.rows = true) :
    (s.settle tid ⟨s.db.commit input now old new, .ret reply⟩).OnePin := by
  have hnew := hs.absent tid _ _ _ ht rfl
  -- the old rows are still there, one of them revoked
  have hold : ∀ e ∈ revokeRow s.db.rows input old new now, ∃ e' ∈ s.db.rows, e'.hostId = e.hostId ∧
      e'.fingerprintSha256 = e.fingerprintSha256 ∧ e'.trustedAt = e.trustedAt := by
    intro e he
    obtain ⟨e', he', rfl⟩ := List.mem_map.1 he
    refine ⟨e', he', ?_⟩
    split <;> exact ⟨rfl, rfl, rfl⟩
  refine returned_onePin hs (fun e he => ?_) (fun host keyType => ?_) (fun e he => ?_)
  · rcases List.mem_append.1 he with he | he
    · obtain ⟨e', he', -, -, htrusted⟩ := hold e he
      rw [← htrusted]
      exact hs.trusted e' he'
    · obtain rfl := List.mem_singleton.1 he
      rfl
  · rcases activePins_append (revokeRow s.db.rows input old new now) (input.newRow new now)
      with hsame | ⟨hhost, htype, hadded⟩
    · have hfewer : (activePins (s.db.rows.filter fun e => e.id ≠ old) host keyType).Sublist
          (activePins s.db.rows host keyType) := List.Sublist.filter _ List.filter_sublist
      show (activePins (revokeRow s.db.rows input old new now ++ [input.newRow new now]) host keyType).length ≤ 1
      rw [hsame, activePins_revokeRow]
      exact Nat.le_trans hfewer.length_le (hs.one host keyType)
    · obtain rfl : input.hostId = host := hhost
      obtain rfl : input.newKeyType = keyType := htype
      have hnone : activePins (s.db.rows.filter fun e => e.id ≠ old) input.hostId input.newKeyType = [] :=
        activePins_eq_nil (of_decide_eq_true hcurrent)
          (fun e he => hnew e (mem_listForHost.1 (List.mem_of_mem_filter he)).1
            (mem_listForHost.1 (List.mem_of_mem_filter he)).2)
          (fun e he hhost => by
            obtain ⟨he, hid⟩ := List.mem_filter.1 he
            exact List.mem_filter.2 ⟨mem_listForHost.2 ⟨he, hhost⟩, hid⟩)
      show (activePins (revokeRow s.db.rows input old new now ++ [input.newRow new now]) _ _).length ≤ 1
      rw [hadded, activePins_revokeRow, hnone]
      exact Nat.le_refl 1
  · rcases List.mem_append.1 he with he | he
    · obtain ⟨e', he', hhost, hfp, -⟩ := hold e he
      exact .inl ⟨e', he', hhost, hfp⟩
    · obtain rfl := List.mem_singleton.1 he
      exact .inr fun i u hi hu hres => hi (hs.distinct i tid u _ _ hu ht hres rfl)

theorem resume_onePin (hs : s.OnePin) (hcurrent : s.WritesCurrent (.resume tid env))
    (h : s.step (.resume tid env) = some s') : s'.OnePin := by
  obtain ⟨t, o, ht, ho, rfl⟩ := step_resume h
  have hok : env.ok = false ∨ t.isCurrent s.db.rows = true := by
    cases hok : env.ok with
    | false => exact .inl rfl
    | true => exact .inr (hcurrent hok t ht)
  rcases hok with hok | hcurrent
  · -- a failed statement rolls back
    simp only [Db.resume, hok, if_true] at ho
    obtain rfl := Option.some.inj ho
    exact quiet_onePin hs (by simp) (by simp)
  · cases resume_effect ho with
    | quiet _ next hres hcreate =>
      refine quiet_onePin hs (fun u key hnext hkey => ⟨t, ht, ?_⟩) hcreate
      rcases hres u hnext with hnone | hsame
      · rw [hnone] at hkey
        cases hkey
      · exact hsame ▸ hkey
    | inserted input now old free absent => exact inserted_onePin hs free absent
    | created input => exact absurd ht (hs.noCreate tid input)
    | recorded input now reply free absent => exact recorded_onePin hs free absent hcurrent
    | stamped input now reply existing =>
      -- every row is trusted already, so the stamp changes nothing
      have hsame : (s.db.rows.map fun e =>
          if e.isAt input.hostId input.fingerprintSha256 then e.stampTrusted now else e) = s.db.rows := by
        refine (List.map_congr_left fun e he => ?_).trans (List.map_id _)
        split
        · exact stampTrusted_trusted now (hs.trusted e he)
        · rfl
      rw [hsame]
      exact returned_onePin hs hs.trusted hs.one fun e he => .inl ⟨e, he, rfl, rfl⟩
    | committed input now old new reply => exact committed_onePin hs ht hcurrent

/-- A request starts with nothing reserved. -/
theorem enter_request {c : Call} (h : (Event.call c).isRequest = true) :
    (∀ t, c.enter = .await t → t.reserves = none) ∧ ∀ input, c.enter ≠ .await (.create input) := by
  cases c with
  | hostKeyPreflight => simp [Call.enter, Task.reserves]
  | trustHostKey body =>
    simp only [Call.enter]
    split <;> simp [Task.reserves]
  | replaceHostKey user body =>
    simp only [Call.enter]
    split <;> simp [Task.reserves]
  | create | recordTrusted | replaceActivePin => simp [Event.isRequest] at h

theorem call_onePin {c : Call} (hs : s.OnePin) (hreq : (Event.call c).isRequest = true)
    (h : s.step (.call c) = some s') : s'.OnePin := by
  obtain rfl := Option.some.inj h
  obtain ⟨hres, hcreate⟩ := enter_request hreq
  have hsettled : (s.settle s.nextTask ⟨s.db, c.enter⟩).OnePin := by
    refine quiet_onePin hs (fun u key hnext hkey => ?_) hcreate
    rw [hres u hnext] at hkey
    cases hkey
  exact ⟨hsettled.trusted, hsettled.one, hsettled.absent, hsettled.distinct, hsettled.noCreate⟩

/-- **At most one active pin per host and key type**, in every interleaving of
requests whose writes are current: when `record_trusted` writes or a replace
commits, the key is not a change to the rows as they are then, the pin being
replaced apart. -/
theorem one_active_pin (evs : List Event) (hreq : ∀ e ∈ evs, e.isRequest = true)
    (hcurrent : Guarded Sys.step Sys.WritesCurrent .init evs) (hr : run Sys.step .init evs = some s)
    (host : HostId) (keyType : SshKeyType) : (activePins s.db.rows host keyType).length ≤ 1 := by
  have hinv : s.OnePin := by
    refine (hcurrent.and_forall hreq).inv Sys.OnePin (fun s e s' hs hok h => ?_) hr init_onePin
    cases e with
    | call c => exact call_onePin hs hok.2 h
    | resume tid env => exact resume_onePin hs hok.1 h
  exact hinv.one host keyType

/-- Task `tid` takes its next steps on host 1, with this key on the wire. -/
def proceed (tid : TaskId) (captured : CapturedHostKey) (steps : Nat) : List Event :=
  List.replicate steps (.resume tid ⟨true, 0, 1, captured⟩)

def trustRun (tid : TaskId) (captured : CapturedHostKey) : List Event :=
  .call (.trustHostKey ⟨captured.fingerprintSha256⟩) :: proceed tid captured 4

def replaceRun (tid : TaskId) (old : String) (captured : CapturedHostKey) : List Event :=
  .call (.replaceHostKey 5 ⟨old, captured.fingerprintSha256, "host_key_rotated"⟩) :: proceed tid captured 11

/-- A pin is trusted and then rotated, while a preflight is under way. -/
def rotation : List Event :=
  .call .hostKeyPreflight :: trustRun 1 ⟨.ed25519, "SHA256:a", []⟩ ++ proceed 0 ⟨.ed25519, "SHA256:b", []⟩ 2 ++
    replaceRun 2 "SHA256:a" ⟨.ed25519, "SHA256:b", []⟩ ++ proceed 0 ⟨.ed25519, "SHA256:b", []⟩ 1

theorem one_active_pin_rotated : ∃ s, run Sys.step .init rotation = some s ∧
    s.db.rows.map (fun e => (e.fingerprintSha256, e.isActivePin)) = [("SHA256:a", false), ("SHA256:b", true)] ∧
    ∀ host keyType, (activePins s.db.rows host keyType).length ≤ 1 :=
  ⟨_, rfl, rfl, one_active_pin rotation (by decide) (by decide) rfl⟩

/-- Pins of two key types, then a replace that names the one and captures a key
of the other's type: two active pins of one type, with no request overlapping
another. -/
theorem two_active_pins : ¬ ∀ (evs : List Event) (s : Sys), (∀ e ∈ evs, e.isRequest = true) →
    run Sys.step .init evs = some s → ∀ host keyType, (activePins s.db.rows host keyType).length ≤ 1 := by
  intro h
  have hpins := h (trustRun 0 ⟨.ed25519, "SHA256:a", []⟩ ++ trustRun 1 ⟨.rsa, "SHA256:b", []⟩ ++
    replaceRun 2 "SHA256:b" ⟨.ed25519, "SHA256:c", []⟩) _ (by decide) rfl 1 .ed25519
  exact absurd hpins (by decide)

end RelayTerm.HostKey
