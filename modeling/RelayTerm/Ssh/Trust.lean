import RelayTerm.Ssh.Connect
/-!
# Trust in a host key

Whether a key is trusted is decided in three places: the classifier takes the
first unrevoked row that holds the key, and the two handlers look for the key
among the pins their callers filtered. A host's rows have different
fingerprints, so at most one holds the key and the three agree.
-/
open RelayTerm.HostKey

namespace RelayTerm.Ssh

/-- The pin a captured key would be. -/
def pinOf (captured : CapturedHostKey) : SshKeyType × String := (captured.keyType, captured.fingerprintSha256)

/-- What the handler captures of a key: nothing if the key's type is not
supported or the key cannot be encoded. -/
def ServerKey.captured (key : ServerKey) : Option CapturedHostKey :=
  (keyTypeFromAlgorithm key.algorithm).bind fun keyType =>
    key.toBytes.map fun publicKey => ⟨keyType, key.fingerprint, publicKey⟩

/-! ## The handlers -/

section Handlers

variable {key : ServerKey} {captured : CapturedHostKey} {handler : Handler}

theorem any_pin_iff (captured : CapturedHostKey) {pins : List (SshKeyType × String)} :
    (pins.any fun (kt, fp) => kt = captured.keyType && fp = captured.fingerprintSha256) = true ↔
      pinOf captured ∈ pins := by
  rw [List.any_eq_true]
  constructor
  · rintro ⟨⟨kt, fp⟩, hmem, heq⟩
    simp only [Bool.and_eq_true, decide_eq_true_eq] at heq
    obtain ⟨rfl, rfl⟩ := heq
    exact hmem
  · intro hmem
    exact ⟨_, hmem, by simp [pinOf]⟩

/-- One call of the handler. -/
theorem checkServerKey_eq (h : key.captured = some captured) :
    handler.checkServerKey key =
      ({ handler with captured := some captured, pinMatch := decide (pinOf captured ∈ handler.acceptPins) },
        decide (pinOf captured ∈ handler.acceptPins)) := by
  unfold ServerKey.captured at h
  obtain ⟨keyType, htype, hbytes⟩ := Option.bind_eq_some_iff.mp h
  obtain ⟨publicKey, hpublic, rfl⟩ := Option.map_eq_some_iff.mp hbytes
  have hmatched : (handler.acceptPins.any fun (kt, fp) => kt = keyType && fp = key.fingerprint) =
      decide (pinOf ⟨keyType, key.fingerprint, publicKey⟩ ∈ handler.acceptPins) := by
    rw [Bool.eq_iff_iff, decide_eq_true_eq]
    exact any_pin_iff ⟨keyType, key.fingerprint, publicKey⟩
  simp only [Handler.checkServerKey, htype, hpublic, hmatched]

end Handlers

/-! ## The classifier -/

section Classifier

variable {known : List KnownHostEntry} {captured : CapturedHostKey}

theorem holds_iff {e : KnownHostEntry} :
    e.holds captured = true ↔ (e.keyType, e.fingerprintSha256) = pinOf captured := by
  unfold KnownHostEntry.holds pinOf
  rw [Bool.and_eq_true, decide_eq_true_eq, decide_eq_true_eq, Prod.mk.injEq]

/-- Only an active pin makes a key trusted, and where fingerprints differ the
classifier cannot stop at another row. -/
theorem classify_trusted_iff (hdistinct : (known.map (·.fingerprintSha256)).Nodup) :
    classifyHostKey captured known = .trusted ↔
      ∃ e ∈ known, e.revokedAt.isNone = true ∧ e.trustedAt.isSome = true ∧ e.holds captured = true := by
  simp only [classifyHostKey]
  cases hfind : (known.filter fun e => e.revokedAt.isNone).find? (·.holds captured) with
  | none =>
    have hnone : ∀ e ∈ known, e.revokedAt.isNone = true → ¬ e.holds captured = true := by
      intro e he hactive
      exact List.find?_eq_none.mp hfind e (List.mem_filter.mpr ⟨he, hactive⟩)
    constructor
    · intro h
      simp only at h
      split at h
      · cases h
      · cases h
    · rintro ⟨e, he, hactive, -, hholds⟩
      exact absurd hholds (hnone e he hactive)
  | some found =>
    obtain ⟨hfound, hactive⟩ := List.mem_filter.mp (List.mem_of_find?_eq_some hfind)
    have hholds : found.holds captured = true := by simpa using List.find?_some hfind
    simp only
    constructor
    · intro h
      split at h
      · exact ⟨found, hfound, hactive, ‹_›, hholds⟩
      · cases h
    · rintro ⟨e, he, -, htrusted, heholds⟩
      have hsame : e.fingerprintSha256 = found.fingerprintSha256 :=
        congrArg Prod.snd ((holds_iff.mp heholds).trans (holds_iff.mp hholds).symm)
      have heq : e = found := List.inj_on_of_nodup_map hdistinct he hfound hsame
      rw [if_pos (heq ▸ htrusted)]

theorem mem_authCheckAcceptPins {pin : SshKeyType × String} : pin ∈ authCheckAcceptPins known ↔
    ∃ e ∈ known, e.revokedAt.isNone = true ∧ e.trustedAt.isSome = true ∧ (e.keyType, e.fingerprintSha256) = pin := by
  unfold authCheckAcceptPins
  simp only [List.mem_map, List.mem_filter, Bool.and_eq_true, and_assoc]

/-- The two filters are the same. -/
theorem ptyAcceptPins_eq (known : List KnownHostEntry) : ptyAcceptPins known = authCheckAcceptPins known := by
  unfold ptyAcceptPins authCheckAcceptPins
  simp only [Bool.and_comm]

theorem pin_iff_trusted (hdistinct : (known.map (·.fingerprintSha256)).Nodup) :
    pinOf captured ∈ authCheckAcceptPins known ↔ classifyHostKey captured known = .trusted := by
  rw [mem_authCheckAcceptPins, classify_trusted_iff hdistinct]
  simp only [holds_iff]

end Classifier

/-! ## The auth-check service -/

section Service

variable {svc : SshAuthCheckService} {req : SshAuthCheckRequest} {known : List KnownHostEntry}
  {captured : CapturedHostKey}

/-- The checker meets a server with this key: it reports a mismatch exactly when
the key is outside the pins it is given. It may fail otherwise. -/
structure Checker.Reports (checker : Checker) (req : SshAuthCheckRequest) (captured : CapturedHostKey) : Prop where
  captures : ∀ pins outcome, checker (req.target pins) = some (.ok outcome) → outcome.captured = captured
  mismatch_iff : ∀ pins, (∃ outcome, checker (req.target pins) = some (.ok outcome) ∧ outcome.kind = .hostKeyMismatch) ↔
    pinOf captured ∉ pins

/-- A reported mismatch becomes one of the two host key answers. -/
theorem authCheck_mismatch (hparses : svc.parses req.privateKeyPem = true) (hpermit : 0 < svc.permits)
    (h : svc.checker (req.target (authCheckAcceptPins known)) = some (.ok ⟨captured, .hostKeyMismatch⟩)) :
    svc.authCheck req known =
      .ok (if classifyHostKey captured known = .changed then .hostKeyChanged else .hostKeyUnknown) := by
  unfold SshAuthCheckService.authCheck
  rw [hparses, h, if_neg (by decide), if_neg (by omega)]
  cases hclass : classifyHostKey captured known <;> simp [hclass]

/-- Without a mismatch it is another answer. -/
theorem authCheck_other (hparses : svc.parses req.privateKeyPem = true) (hpermit : 0 < svc.permits)
    (h : ¬ ∃ outcome, svc.checker (req.target (authCheckAcceptPins known)) = some (.ok outcome) ∧
      outcome.kind = .hostKeyMismatch) :
    ∃ status, svc.authCheck req known = .ok status ∧ status ≠ .hostKeyChanged ∧ status ≠ .hostKeyUnknown := by
  unfold SshAuthCheckService.authCheck
  rw [hparses, if_neg (by decide), if_neg (by omega)]
  cases hrun : svc.checker (req.target (authCheckAcceptPins known)) with
  | none => exact ⟨_, rfl, by decide, by decide⟩
  | some result =>
    cases result with
    | error err => exact ⟨_, rfl, by decide, by decide⟩
    | ok outcome =>
      cases hkind : outcome.kind with
      | authenticated => exact ⟨.authenticationSucceeded, by simp only [hkind], by decide, by decide⟩
      | authenticationFailed => exact ⟨.authenticationFailed, by simp only [hkind], by decide, by decide⟩
      | hostKeyMismatch => exact absurd ⟨outcome, hrun, hkind⟩ h

theorem authCheck_status (hdistinct : (known.map (·.fingerprintSha256)).Nodup)
    (hparses : svc.parses req.privateKeyPem = true) (hpermit : 0 < svc.permits)
    (hreports : svc.checker.Reports req captured) :
    ∃ status, svc.authCheck req known = .ok status ∧
      (status = .hostKeyChanged ↔ classifyHostKey captured known = .changed) ∧
      (status = .hostKeyUnknown ↔ classifyHostKey captured known = .unknown) := by
  by_cases hpin : pinOf captured ∈ authCheckAcceptPins known
  · have hother := mt (hreports.mismatch_iff _).mp (not_not_intro hpin)
    obtain ⟨status, hstatus, hchanged, hunknown⟩ := authCheck_other hparses hpermit hother
    have htrusted := (pin_iff_trusted hdistinct).mp hpin
    refine ⟨status, hstatus, ?_, ?_⟩
    · rw [htrusted]
      exact iff_of_false hchanged (by decide)
    · rw [htrusted]
      exact iff_of_false hunknown (by decide)
  · obtain ⟨⟨seen, kind⟩, hrun, hkind⟩ := (hreports.mismatch_iff _).mpr hpin
    have hseen : seen = captured := hreports.captures _ _ hrun
    subst hseen
    cases hkind
    have huntrusted : classifyHostKey seen known ≠ .trusted := mt (pin_iff_trusted hdistinct).mpr hpin
    refine ⟨_, authCheck_mismatch hparses hpermit hrun, ?_, ?_⟩ <;>
      cases hclass : classifyHostKey seen known <;> simp_all

end Service

/-- A key is trusted for the PTY bridge, for the auth check and for the
classifier alike, and an auth check that could not use the key says which of
the classifier's other answers it was. -/
theorem trust_judged_alike (known : List KnownHostEntry) (hdistinct : (known.map (·.fingerprintSha256)).Nodup)
    (key : ServerKey) (captured : CapturedHostKey) (hkey : key.captured = some captured) :
    ((PtyHandler.checkServerKey { acceptPins := ptyAcceptPins known } key).2 = true ↔
      classifyHostKey captured known = .trusted) ∧
    ((AuthHandler.checkServerKey { acceptPins := authCheckAcceptPins known } key).2 = true ↔
      classifyHostKey captured known = .trusted) ∧
    ∀ (svc : SshAuthCheckService) (req : SshAuthCheckRequest), svc.parses req.privateKeyPem = true →
      0 < svc.permits → svc.checker.Reports req captured →
      ∃ status, svc.authCheck req known = .ok status ∧
        (status = .hostKeyChanged ↔ classifyHostKey captured known = .changed) ∧
        (status = .hostKeyUnknown ↔ classifyHostKey captured known = .unknown) := by
  have hmatch : decide (pinOf captured ∈ authCheckAcceptPins known) = true ↔
      classifyHostKey captured known = .trusted := by
    rw [decide_eq_true_eq]
    exact pin_iff_trusted hdistinct
  refine ⟨?_, ?_, fun svc req hparses hpermit hreports => authCheck_status hdistinct hparses hpermit hreports⟩
  · unfold PtyHandler.checkServerKey
    rw [checkServerKey_eq hkey, ptyAcceptPins_eq]
    exact hmatch
  · unfold AuthHandler.checkServerKey
    rw [checkServerKey_eq hkey]
    exact hmatch

/-- Two rows, one of them trusted. -/
def twoRows : List KnownHostEntry :=
  [⟨1, 1, .ed25519, "SHA256:a", [], 0, some 0, none, none, none, none⟩,
    ⟨2, 1, .rsa, "SHA256:b", [], 0, none, none, none, none, none⟩]

/-- A checker that meets a server with a new key of the trusted row's type. -/
def rotatedChecker : Checker := fun target =>
  some (.ok ⟨⟨.ed25519, "SHA256:c", [3]⟩,
    if (SshKeyType.ed25519, "SHA256:c") ∈ target.acceptPins then .authenticated else .hostKeyMismatch⟩)

theorem trust_judged_alike_rotated : ∃ status,
    SshAuthCheckService.authCheck ⟨rotatedChecker, fun _ => true, 4⟩ ⟨"host", 22, "deploy", []⟩ twoRows = .ok status ∧
      (status = .hostKeyChanged ↔ classifyHostKey ⟨.ed25519, "SHA256:c", [3]⟩ twoRows = .changed) ∧
      (status = .hostKeyUnknown ↔ classifyHostKey ⟨.ed25519, "SHA256:c", [3]⟩ twoRows = .unknown) :=
  (trust_judged_alike twoRows (by decide) ⟨.ed25519, "SHA256:c", some [3]⟩ ⟨.ed25519, "SHA256:c", [3]⟩ rfl).2.2
    ⟨rotatedChecker, fun _ => true, 4⟩ ⟨"host", 22, "deploy", []⟩ rfl (by decide)
    { captures := by
        rintro pins outcome hrun
        cases hrun
        rfl
      mismatch_iff := by
        intro pins
        by_cases hpin : (SshKeyType.ed25519, "SHA256:c") ∈ pins
        · simp [rotatedChecker, SshAuthCheckRequest.target, pinOf, hpin]
        · simp [rotatedChecker, SshAuthCheckRequest.target, pinOf, hpin] }

/-! ## A refused key -/

section Refused

variable {peer : Peer} {key : ServerKey} {captured : CapturedHostKey}

/-- The cells once the server has presented its key. -/
theorem handler_presented (hpresented : peer.connect.presented = some key) (hkey : key.captured = some captured)
    (pins : List (SshKeyType × String)) (check : Handler → ServerKey → Handler × Bool)
    (hcheck : check = Handler.checkServerKey) :
    peer.connect.handler check { acceptPins := pins } =
      { acceptPins := pins, captured := some captured, pinMatch := decide (pinOf captured ∈ pins) } := by
  unfold Connect.handler
  rw [hpresented, hcheck]
  simp only [checkServerKey_eq hkey]

/-- The PTY bridge looks at the cells before it looks at the error. -/
theorem start_refused {target : SshPtyTarget} (hparses : peer.parses target.privateKeyPem = true)
    (hpresented : peer.connect.presented = some key) (hkey : key.captured = some captured)
    (hout : pinOf captured ∉ target.config.acceptPins) (hanswer : peer.connect.answer ≠ .elapsed) :
    (RusshPtyBridge.start peer target).1 = .error .hostKeyNotTrusted ∧
      (RusshPtyBridge.start peer target).2.any Call.isAuthenticate = false := by
  unfold RusshPtyBridge.start
  simp only [handler_presented hpresented hkey _ PtyHandler.checkServerKey rfl, hparses, hout, decide_false]
  cases hans : peer.connect.answer with
  | elapsed => exact absurd hans hanswer
  | failed err => exact ⟨rfl, rfl⟩
  | ok value => exact ⟨rfl, rfl⟩

/-- The auth checker looks at them only when it has a session. -/
theorem run_refused (target : AuthCheckTarget) (hparses : peer.parses target.privateKeyPem = true)
    (hpresented : peer.connect.presented = some key) (hkey : key.captured = some captured)
    (hout : pinOf captured ∉ target.acceptPins) :
    ((RusshAuthChecker.run peer target).1 = .ok ⟨captured, .hostKeyMismatch⟩ ↔ peer.connect.answer = .ok ()) ∧
      (RusshAuthChecker.run peer target).2.any Call.isAuthenticate = false := by
  unfold RusshAuthChecker.run
  simp only [handler_presented hpresented hkey _ AuthHandler.checkServerKey rfl, hparses, hout, decide_false]
  cases hans : peer.connect.answer with
  | elapsed => exact ⟨⟨nofun, nofun⟩, rfl⟩
  | failed err => exact ⟨⟨nofun, nofun⟩, rfl⟩
  | ok value => exact ⟨⟨fun _ => rfl, fun _ => rfl⟩, rfl⟩

/-- Without a session it has only an error to report. -/
theorem run_failed (target : AuthCheckTarget) (hparses : peer.parses target.privateKeyPem = true)
    (hanswer : peer.connect.answer ≠ .ok ()) : ∃ err, (RusshAuthChecker.run peer target).1 = .error err := by
  unfold RusshAuthChecker.run
  rw [hparses]
  cases hans : peer.connect.answer with
  | elapsed => exact ⟨_, rfl⟩
  | failed err => exact ⟨_, rfl⟩
  | ok value => exact absurd hans hanswer

/-- With a session and a pinned key the checker goes on to authenticate. -/
theorem run_pinned (target : AuthCheckTarget) (hparses : peer.parses target.privateKeyPem = true)
    (hpresented : peer.connect.presented = some key) (hkey : key.captured = some captured)
    (hanswer : peer.connect.answer = .ok ()) (hpin : pinOf captured ∈ target.acceptPins) (outcome : AuthCheckOutcome)
    (hrun : (RusshAuthChecker.run peer target).1 = .ok outcome) :
    outcome.captured = captured ∧ outcome.kind ≠ .hostKeyMismatch := by
  unfold RusshAuthChecker.run at hrun
  simp only [handler_presented hpresented hkey _ AuthHandler.checkServerKey rfl, hparses, hpin, hanswer, decide_true,
    Bool.not_true, if_neg Bool.false_ne_true] at hrun
  split at hrun
  · cases hrun
  · cases hrun
  · cases hrun
    exact ⟨rfl, nofun⟩
  · cases hrun
    exact ⟨rfl, nofun⟩

/-- Where russh answers a refused key with a session, `RusshAuthChecker` is a
checker as the service assumes. -/
theorem russh_reports {req : SshAuthCheckRequest} (hparses : peer.parses req.privateKeyPem = true)
    (hpresented : peer.connect.presented = some key) (hkey : key.captured = some captured)
    (hanswer : peer.connect.answer = .ok ()) :
    Checker.Reports (fun target => some (RusshAuthChecker.run peer target).1) req captured := by
  constructor
  · intro pins outcome hrun
    have hrun := Option.some.inj hrun
    by_cases hpin : pinOf captured ∈ pins
    · exact (run_pinned (req.target pins) hparses hpresented hkey hanswer hpin outcome hrun).1
    · rw [(run_refused (req.target pins) hparses hpresented hkey hpin).1.2 hanswer] at hrun
      cases hrun
      rfl
  · intro pins
    constructor
    · rintro ⟨outcome, hrun, hkind⟩ hpin
      exact (run_pinned (req.target pins) hparses hpresented hkey hanswer hpin outcome (Option.some.inj hrun)).2 hkind
    · intro hpin
      have hrun := (run_refused (req.target pins) hparses hpresented hkey hpin).1.2 hanswer
      exact ⟨_, congrArg some hrun, rfl⟩

end Refused

/-- A server key outside the pins stops the PTY bridge as a host key that is not
trusted, however `connect` reports the refusal. The auth checker reports it as a
mismatch, and the service as one of the two host key answers, if and only if
`connect` returns the closing session. No client signature is made either way. -/
theorem refused_key_reported_iff (pins : List (SshKeyType × String)) (key : ServerKey) (captured : CapturedHostKey)
    (hkey : key.captured = some captured) (hout : pinOf captured ∉ pins) (peer : Peer)
    (hpresented : peer.connect.presented = some key) (hanswer : peer.connect.answer ≠ .elapsed) :
    (∀ target : SshPtyTarget, target.config.acceptPins = pins → peer.parses target.privateKeyPem = true →
      (RusshPtyBridge.start peer target).1 = .error .hostKeyNotTrusted ∧
        (RusshPtyBridge.start peer target).2.any Call.isAuthenticate = false) ∧
    (∀ target : AuthCheckTarget, target.acceptPins = pins → peer.parses target.privateKeyPem = true →
      ((RusshAuthChecker.run peer target).1 = .ok ⟨captured, .hostKeyMismatch⟩ ↔ peer.connect.answer = .ok ()) ∧
        (RusshAuthChecker.run peer target).2.any Call.isAuthenticate = false) ∧
    ∀ (svc : SshAuthCheckService) (req : SshAuthCheckRequest) (known : List KnownHostEntry),
      svc.checker = (fun target => some (RusshAuthChecker.run peer target).1) → authCheckAcceptPins known = pins →
      svc.parses req.privateKeyPem = true → peer.parses req.privateKeyPem = true → 0 < svc.permits →
      (svc.authCheck req known = .ok .hostKeyUnknown ∨ svc.authCheck req known = .ok .hostKeyChanged ↔
        peer.connect.answer = .ok ()) := by
  refine ⟨?_, ?_, ?_⟩
  · rintro target rfl hparses
    exact start_refused hparses hpresented hkey hout hanswer
  · rintro target rfl hparses
    exact run_refused target hparses hpresented hkey hout
  · rintro svc req known hchecker rfl hown hparses hpermit
    constructor
    · intro hstatus
      by_contra hsession
      obtain ⟨err, hrun⟩ := run_failed (req.target (authCheckAcceptPins known)) hparses hsession
      have hnone : ¬ ∃ outcome, svc.checker (req.target (authCheckAcceptPins known)) = some (.ok outcome) ∧
          outcome.kind = .hostKeyMismatch := by
        rintro ⟨outcome, hsome, -⟩
        rw [hchecker] at hsome
        cases hrun.symm.trans (Option.some.inj hsome)
      obtain ⟨status, hother, hchanged, hunknown⟩ := authCheck_other hown hpermit hnone
      rw [hother] at hstatus
      rcases hstatus with h | h
      · exact hunknown (Except.ok.inj h)
      · exact hchanged (Except.ok.inj h)
    · intro hsession
      have hrun := (run_refused (req.target (authCheckAcceptPins known)) hparses hpresented hkey hout).1.2 hsession
      have hmismatch : svc.checker (req.target (authCheckAcceptPins known)) =
          some (.ok ⟨captured, .hostKeyMismatch⟩) := by
        rw [hchecker]
        exact congrArg some hrun
      rw [authCheck_mismatch hown hpermit hmismatch]
      split
      · exact .inr rfl
      · exact .inl rfl

/-- A server whose Ed25519 key is not pinned, and how `connect` tells of it. -/
def strangerPeer (answer : Answer Unit) : Peer where
  parses _ := true
  connect := { presented := some ⟨.ed25519, "SHA256:c", some [3]⟩, answer := answer }
  authenticate := .ok true
  channelOpens := true
  ptyStarts := true
  shellStarts := true

theorem refused_key_reported_iff_closing :
    (RusshAuthChecker.run (strangerPeer (.ok ())) ⟨"host", 22, "deploy", [(.ed25519, "SHA256:a")], []⟩).1 =
      .ok ⟨⟨.ed25519, "SHA256:c", [3]⟩, .hostKeyMismatch⟩ :=
  ((refused_key_reported_iff [(.ed25519, "SHA256:a")] ⟨.ed25519, "SHA256:c", some [3]⟩ ⟨.ed25519, "SHA256:c", [3]⟩ rfl
    (by decide) (strangerPeer (.ok ())) rfl (by decide)).2.1
      ⟨"host", 22, "deploy", [(.ed25519, "SHA256:a")], []⟩ rfl rfl).1.2 rfl

/-- Where `connect` reports an error instead, the auth checker takes it for a
transport failure, and the service for a failed connection. -/
theorem refused_key_unreported :
    (¬ ∀ (pins : List (SshKeyType × String)) (key : ServerKey) (captured : CapturedHostKey),
      key.captured = some captured → pinOf captured ∉ pins → ∀ peer : Peer, peer.connect.presented = some key →
      peer.connect.answer ≠ .elapsed → ∀ target : AuthCheckTarget, target.acceptPins = pins →
      peer.parses target.privateKeyPem = true →
      (RusshAuthChecker.run peer target).1 = .ok ⟨captured, .hostKeyMismatch⟩) ∧
    SshAuthCheckService.authCheck
      ⟨fun target => some (RusshAuthChecker.run (strangerPeer (.failed .other)) target).1, fun _ => true, 4⟩
      ⟨"host", 22, "deploy", []⟩ twoRows = .ok .connectionFailed := by
  refine ⟨?_, by decide⟩
  intro h
  have hrun := h [(.ed25519, "SHA256:a")] ⟨.ed25519, "SHA256:c", some [3]⟩ ⟨.ed25519, "SHA256:c", [3]⟩ rfl (by decide)
    (strangerPeer (.failed .other)) rfl (by decide) ⟨"host", 22, "deploy", [(.ed25519, "SHA256:a")], []⟩ rfl rfl
  cases hrun

end RelayTerm.Ssh
