import RelayTerm.Recording.Writer
/-!
# The recording configuration at boot

`validate_terminal_recording` is run before the listener binds, and
`build_recording_runtime` turns an accepted configuration into the writer's.
The numeric bounds are checked whether or not recording is enabled, the
encryption posture only when it is.
-/

namespace RelayTerm.Recording

inductive AuthMode where
  | dev | production
  deriving DecidableEq, Repr

/-- A path is compared by its components. -/
structure PathBuf where
  components : List String
  deriving DecidableEq, Repr

structure VaultConfig where
  enabled : Bool
  masterKeyB64 : Option String
  masterKeyFile : Option PathBuf
  deriving DecidableEq, Repr

inductive TerminalRecordingEncryptionMode where
  | disabled | required
  deriving DecidableEq, Repr

structure TerminalRecordingEncryptionConfig where
  mode : TerminalRecordingEncryptionMode
  masterKeyB64 : Option String
  masterKeyFile : Option PathBuf
  deriving DecidableEq, Repr

structure TerminalRecordingCleanupConfig where
  enabled : Bool
  startupSweepEnabled : Bool
  periodicSweepEnabled : Bool
  sweepIntervalSeconds : Nat
  batchSize : Nat
  deriving DecidableEq, Repr

structure TerminalRecordingConfig where
  enabled : Bool
  retentionDays : Nat
  maxBytesPerSession : Nat
  chunkTargetBytes : Nat
  chunkHardCapBytes : Nat
  encryption : TerminalRecordingEncryptionConfig
  cleanup : TerminalRecordingCleanupConfig
  deriving DecidableEq, Repr

/-- The parts of the configuration that concern recording. -/
structure Config where
  authMode : AuthMode
  vault : VaultConfig
  terminalRecording : TerminalRecordingConfig
  deriving DecidableEq, Repr

/-! ## `terminal_recording_defaults` -/

def retentionDaysHardCap : Nat := 3650
def maxBytesPerSessionHardCap : Nat := 1024 * 1024 * 1024 * 1024
def chunkHardCapBytesFloor : Nat := 1024 * 1024 + 64 * 1024
def cleanupSweepIntervalSecondsMin : Nat := 60
def cleanupSweepIntervalSecondsMax : Nat := 7 * 24 * 60 * 60
def cleanupBatchSizeMin : Nat := 1
def cleanupBatchSizeMax : Nat := 10000

def TerminalRecordingCleanupConfig.default : TerminalRecordingCleanupConfig where
  enabled := true
  startupSweepEnabled := true
  periodicSweepEnabled := false
  sweepIntervalSeconds := 0
  batchSize := 100

def TerminalRecordingConfig.default : TerminalRecordingConfig where
  enabled := false
  retentionDays := 30
  maxBytesPerSession := 64 * 1024 * 1024
  chunkTargetBytes := 64 * 1024
  chunkHardCapBytes := 2 * 1024 * 1024
  encryption := ⟨.disabled, none, none⟩
  cleanup := .default

/-! ## The validator -/

/-- `if bad { bail!(message) }`. -/
def bailIf (bad : Prop) [Decidable bad] (message : String) : Except String Unit :=
  if bad then .error message else .ok ()

def TerminalRecordingConfig.validateBounds (rec : TerminalRecordingConfig) : Except String Unit := do
  bailIf (rec.retentionDays = 0)
    ("terminal_recording.retention_days must be greater than 0 (got 0); a 0-day " ++
     "retention would purge every chunk on the next sweep — disable recording " ++
     "instead")
  bailIf (rec.retentionDays > retentionDaysHardCap)
    (s!"terminal_recording.retention_days = {rec.retentionDays} exceeds the hard cap of {retentionDaysHardCap} " ++
     "days; values above this almost always indicate a unit confusion")
  bailIf (rec.maxBytesPerSession = 0)
    "terminal_recording.max_bytes_per_session must be greater than 0"
  bailIf (rec.maxBytesPerSession > maxBytesPerSessionHardCap)
    (s!"terminal_recording.max_bytes_per_session = {rec.maxBytesPerSession} exceeds the hard cap of " ++
     s!"{maxBytesPerSessionHardCap} bytes")
  bailIf (rec.chunkHardCapBytes < chunkHardCapBytesFloor)
    (s!"terminal_recording.chunk_hard_cap_bytes = {rec.chunkHardCapBytes} is below the floor of " ++
     s!"{chunkHardCapBytesFloor} bytes; the cap MUST cover a 1 MiB live-wire frame plus AEAD envelope overhead")
  bailIf (rec.chunkTargetBytes = 0)
    "terminal_recording.chunk_target_bytes must be greater than 0"
  bailIf (rec.chunkTargetBytes > rec.chunkHardCapBytes)
    (s!"terminal_recording.chunk_target_bytes = {rec.chunkTargetBytes} must be <= " ++
     s!"chunk_hard_cap_bytes = {rec.chunkHardCapBytes} (target is the soft flush size, cap is the row " ++
     "size ceiling)")
  bailIf (rec.maxBytesPerSession < rec.chunkHardCapBytes)
    (s!"terminal_recording.max_bytes_per_session = {rec.maxBytesPerSession} must be >= " ++
     s!"chunk_hard_cap_bytes = {rec.chunkHardCapBytes}; otherwise a single legitimate chunk could " ++
     "exceed the per-session budget")

def validateTerminalRecordingCleanup (cleanup : TerminalRecordingCleanupConfig) : Except String Unit := do
  bailIf (cleanup.batchSize < cleanupBatchSizeMin)
    (s!"terminal_recording.cleanup.batch_size = {cleanup.batchSize} must be >= {cleanupBatchSizeMin}; a zero-batch " ++
     "worker would never make progress")
  bailIf (cleanup.batchSize > cleanupBatchSizeMax)
    (s!"terminal_recording.cleanup.batch_size = {cleanup.batchSize} exceeds the hard cap of {cleanupBatchSizeMax}; " ++
     "values above this almost always indicate a unit confusion")
  bailIf (cleanup.sweepIntervalSeconds ≠ 0 ∧ cleanup.sweepIntervalSeconds < cleanupSweepIntervalSecondsMin)
    (s!"terminal_recording.cleanup.sweep_interval_seconds = {cleanup.sweepIntervalSeconds} must be 0 (disabled) " ++
     s!"or >= {cleanupSweepIntervalSecondsMin}s; sub-{cleanupSweepIntervalSecondsMin}s cadence is a thundering-herd " ++
     "against an empty corpus")
  bailIf (cleanup.sweepIntervalSeconds > cleanupSweepIntervalSecondsMax)
    (s!"terminal_recording.cleanup.sweep_interval_seconds = {cleanup.sweepIntervalSeconds} exceeds the hard cap " ++
     s!"of {cleanupSweepIntervalSecondsMax}s (one week); values above this defer retention past the default " ++
     "retention window without operator intent")
  bailIf (cleanup.periodicSweepEnabled = true ∧ cleanup.sweepIntervalSeconds = 0)
    ("terminal_recording.cleanup.periodic_sweep_enabled = true requires " ++
     s!"sweep_interval_seconds > 0 (set a cadence in {cleanupSweepIntervalSecondsMin}..=" ++
     s!"{cleanupSweepIntervalSecondsMax} seconds, or flip periodic_sweep_enabled = false)")

/-- Production needs `required`, which needs exactly one key source; `disabled` needs none. -/
def TerminalRecordingEncryptionConfig.validateMode (encryption : TerminalRecordingEncryptionConfig)
    (authMode : AuthMode) : Except String Unit :=
  match encryption.mode with
  | .disabled => do
    bailIf (authMode = .production)
      ("terminal_recording.enabled = true with auth.mode = production requires " ++
       "terminal_recording.encryption.mode = required (production refuses to " ++
       "persist plaintext PTY bytes)")
    bailIf (encryption.masterKeyB64.isSome = true ∨ encryption.masterKeyFile.isSome = true)
      ("terminal_recording.encryption.mode = disabled but a master key source " ++
       "is configured; either set encryption.mode = required to consume the " ++
       "key, or unset the key sources")
  | .required => match encryption.masterKeyB64.isSome, encryption.masterKeyFile.isSome with
    | false, false => .error
        ("terminal_recording.encryption.mode = required but no master key is " ++
         "configured — set terminal_recording.encryption.master_key_b64 or " ++
         "terminal_recording.encryption.master_key_file " ++
         "(RELAYTERM_TERMINAL_RECORDING__ENCRYPTION__MASTER_KEY_B64 / " ++
         "RELAYTERM_TERMINAL_RECORDING__ENCRYPTION__MASTER_KEY_FILE)")
    | true, true => .error
        ("terminal_recording.encryption.master_key_b64 and " ++
         "terminal_recording.encryption.master_key_file are both set; pick " ++
         "exactly one")
    | _, _ => .ok ()

/-- The recording key and the vault key are compared when both have the same kind of source. -/
def TerminalRecordingEncryptionConfig.validateSeparateKeys (encryption : TerminalRecordingEncryptionConfig)
    (vault : VaultConfig) : Except String Unit := do
  bailIf (encryption.masterKeyB64.isSome = true ∧ encryption.masterKeyB64 = vault.masterKeyB64)
    ("terminal_recording.encryption.master_key_b64 must not equal " ++
     "vault.master_key_b64; recording uses a SEPARATE key so a recording " ++
     "compromise does not leak SSH identities")
  bailIf (encryption.masterKeyFile.isSome = true ∧ encryption.masterKeyFile = vault.masterKeyFile)
    ("terminal_recording.encryption.master_key_file must not equal " ++
     "vault.master_key_file; recording uses a SEPARATE key so a recording " ++
     "compromise does not leak SSH identities")

def Config.validateTerminalRecording (c : Config) : Except String Unit := do
  c.terminalRecording.validateBounds
  validateTerminalRecordingCleanup c.terminalRecording.cleanup
  if c.terminalRecording.enabled = false then
    return ()
  c.terminalRecording.encryption.validateMode c.authMode
  c.terminalRecording.encryption.validateSeparateKeys c.vault

/-- `build_recording_runtime`: the writer configuration, if there is to be a writer. -/
def buildRecordingRuntime (c : Config) : Except String (Option RecordingWriterConfig) :=
  if c.terminalRecording.enabled = false then .ok none
  else match c.terminalRecording.encryption.mode with
    | .disabled => .ok (some ⟨c.terminalRecording.chunkTargetBytes, c.terminalRecording.chunkHardCapBytes⟩)
    | .required => .error
        ("terminal_recording.enabled = true with encryption.mode = required, but the " ++
         "encryption-aware recording writer has not landed yet. Either set " ++
         "encryption.mode = disabled (dev only — operator accepts plaintext-at-rest) or " ++
         "leave terminal_recording.enabled = false until the encryption writer lands")

/-! ## What is accepted -/

@[simp] theorem bailIf_ok {bad : Prop} [Decidable bad] {message : String} :
    bailIf bad message = .ok () ↔ ¬ bad := by
  unfold bailIf
  split <;> simp_all

/-- A sequence of checks passes when each of them does. -/
@[simp] theorem bind_ok {x y : Except String Unit} : (x >>= fun _ => y) = .ok () ↔ x = .ok () ∧ y = .ok () := by
  cases x with
  | error message => simp [bind, Except.bind]
  | ok u => simp [bind, Except.bind]

structure TerminalRecordingConfig.Bounded (rec : TerminalRecordingConfig) : Prop where
  retentionDays : 1 ≤ rec.retentionDays ∧ rec.retentionDays ≤ retentionDaysHardCap
  maxBytes : rec.chunkHardCapBytes ≤ rec.maxBytesPerSession ∧ rec.maxBytesPerSession ≤ maxBytesPerSessionHardCap
  hardCap : chunkHardCapBytesFloor ≤ rec.chunkHardCapBytes
  target : 1 ≤ rec.chunkTargetBytes ∧ rec.chunkTargetBytes ≤ rec.chunkHardCapBytes

/-- The sweep has a batch size, and a cadence where it needs one. -/
structure TerminalRecordingCleanupConfig.Bounded (cleanup : TerminalRecordingCleanupConfig) : Prop where
  batchSize : cleanupBatchSizeMin ≤ cleanup.batchSize ∧ cleanup.batchSize ≤ cleanupBatchSizeMax
  interval : cleanup.sweepIntervalSeconds ≠ 0 → cleanupSweepIntervalSecondsMin ≤ cleanup.sweepIntervalSeconds ∧
    cleanup.sweepIntervalSeconds ≤ cleanupSweepIntervalSecondsMax
  periodic : cleanup.periodicSweepEnabled = true → cleanup.sweepIntervalSeconds ≠ 0

/-- What an enabled recording needs: no plaintext in production, one key source
with encryption and none without, and a key that is not the vault's. -/
structure TerminalRecordingEncryptionConfig.Posture (encryption : TerminalRecordingEncryptionConfig)
    (authMode : AuthMode) (vault : VaultConfig) : Prop where
  encrypted : authMode = .production → encryption.mode = .required
  plain : encryption.mode = .disabled → encryption.masterKeyB64 = none ∧ encryption.masterKeyFile = none
  keyed : encryption.mode = .required → (encryption.masterKeyB64.isSome ↔ encryption.masterKeyFile = none)
  keyB64 : ∀ key, encryption.masterKeyB64 = some key → vault.masterKeyB64 ≠ some key
  keyFile : ∀ path, encryption.masterKeyFile = some path → vault.masterKeyFile ≠ some path

theorem validateBounds_ok {rec : TerminalRecordingConfig} : rec.validateBounds = .ok () ↔ rec.Bounded := by
  simp only [TerminalRecordingConfig.validateBounds, bind_ok, bailIf_ok]
  constructor
  · rintro ⟨hdays, hmaxDays, hbytes, hmaxBytes, hfloor, htarget, hcap, hbudget⟩
    exact ⟨by omega, by omega, by omega, by omega⟩
  · rintro ⟨hdays, hbytes, hfloor, htarget⟩
    have : 0 < chunkHardCapBytesFloor := by decide
    omega

theorem validateTerminalRecordingCleanup_ok {cleanup : TerminalRecordingCleanupConfig} :
    validateTerminalRecordingCleanup cleanup = .ok () ↔ cleanup.Bounded := by
  simp only [validateTerminalRecordingCleanup, bind_ok, bailIf_ok]
  constructor
  · rintro ⟨hmin, hmax, hband, hweek, hperiodic⟩
    exact ⟨by omega, fun hne => by omega, fun hon hzero => hperiodic ⟨hon, hzero⟩⟩
  · rintro ⟨hsize, hband, hperiodic⟩
    refine ⟨by omega, by omega, fun ⟨hne, hlt⟩ => ?_, fun hlong => ?_, fun ⟨hon, hzero⟩ => hperiodic hon hzero⟩
    · have := (hband hne).1
      omega
    · have := hband (by omega)
      omega

section Encryption

variable {encryption : TerminalRecordingEncryptionConfig} {authMode : AuthMode} {vault : VaultConfig}

theorem validateMode_ok : encryption.validateMode authMode = .ok () ↔
    (authMode = .production → encryption.mode = .required) ∧
    (encryption.mode = .disabled → encryption.masterKeyB64 = none ∧ encryption.masterKeyFile = none) ∧
    (encryption.mode = .required → (encryption.masterKeyB64.isSome ↔ encryption.masterKeyFile = none)) := by
  obtain ⟨mode, b64, file⟩ := encryption
  cases mode with
  | disabled =>
    simp only [TerminalRecordingEncryptionConfig.validateMode, bind_ok, bailIf_ok]
    simp
  | required =>
    cases b64 <;> cases file <;>
      simp only [TerminalRecordingEncryptionConfig.validateMode, Option.isSome, reduceCtorEq] <;> simp

theorem validateSeparateKeys_ok : encryption.validateSeparateKeys vault = .ok () ↔
    (∀ key, encryption.masterKeyB64 = some key → vault.masterKeyB64 ≠ some key) ∧
    (∀ path, encryption.masterKeyFile = some path → vault.masterKeyFile ≠ some path) := by
  -- a source that is set equals the vault's exactly when the vault holds the same value
  have hsame : ∀ {α : Type} (a b : Option α), ¬ (a.isSome = true ∧ a = b) ↔ ∀ x, a = some x → b ≠ some x := by
    intro α a b
    cases a with
    | none => simp
    | some x => simp [eq_comm]
  simp only [TerminalRecordingEncryptionConfig.validateSeparateKeys, bind_ok, bailIf_ok, hsame]

theorem posture_iff : encryption.Posture authMode vault ↔
    encryption.validateMode authMode = .ok () ∧ encryption.validateSeparateKeys vault = .ok () := by
  rw [validateMode_ok, validateSeparateKeys_ok]
  constructor
  · rintro ⟨hencrypted, hplain, hkeyed, hb64, hfile⟩
    exact ⟨⟨hencrypted, hplain, hkeyed⟩, hb64, hfile⟩
  · rintro ⟨⟨hencrypted, hplain, hkeyed⟩, hb64, hfile⟩
    exact ⟨hencrypted, hplain, hkeyed, hb64, hfile⟩

end Encryption

/-- The validator accepts exactly the configurations within bounds whose posture
is right if recording is enabled. -/
theorem validateTerminalRecording_ok {c : Config} : c.validateTerminalRecording = .ok () ↔
    c.terminalRecording.Bounded ∧ c.terminalRecording.cleanup.Bounded ∧
      (c.terminalRecording.enabled = true → c.terminalRecording.encryption.Posture c.authMode c.vault) := by
  unfold Config.validateTerminalRecording
  rw [bind_ok, bind_ok, validateBounds_ok, validateTerminalRecordingCleanup_ok, posture_iff]
  cases c.terminalRecording.enabled with
  | false => simp [pure, Except.pure]
  | true => simp

/-- The defaults pass their own check, in every auth mode and next to every vault. -/
theorem default_accepted (authMode : AuthMode) (vault : VaultConfig) :
    (Config.mk authMode vault .default).validateTerminalRecording = .ok () := by
  have hbounds : TerminalRecordingConfig.default.Bounded := ⟨by decide, by decide, by decide, by decide⟩
  have hcleanup : TerminalRecordingCleanupConfig.default.Bounded := ⟨by decide, by decide, by decide⟩
  exact validateTerminalRecording_ok.2 ⟨hbounds, hcleanup, nofun⟩

/-- A writer comes from an enabled plaintext recording; once the validator has
accepted the configuration, in dev mode only. -/
theorem buildRecordingRuntime_writer {c : Config} {cfg : RecordingWriterConfig}
    (hvalid : c.validateTerminalRecording = .ok ()) (hbuild : buildRecordingRuntime c = .ok (some cfg)) :
    c.authMode = .dev ∧ cfg = ⟨c.terminalRecording.chunkTargetBytes, c.terminalRecording.chunkHardCapBytes⟩ := by
  obtain ⟨-, -, hposture⟩ := validateTerminalRecording_ok.1 hvalid
  simp only [buildRecordingRuntime] at hbuild
  split at hbuild
  · cases hbuild
  · next henabled =>
    have hencrypted := (hposture (by simpa using henabled)).encrypted
    split at hbuild
    · next hmode =>
      refine ⟨?_, by simpa using hbuild.symm⟩
      cases hauth : c.authMode with
      | dev => rfl
      | production => simp [hencrypted hauth] at hmode
    · cases hbuild

end RelayTerm.Recording
