import Mathlib.Data.List.Sort
import RelayTerm.Core.Types
/-!
# Pinned host keys

The rows of `known_host_entries`, the classifier that compares a captured host
key with them, the checks the routes make before they write, and the writes of
the repository, each as a function of the rows it sees.
-/

namespace RelayTerm.HostKey

abbrev EntryId := Nat
abbrev Time := Nat

inductive SshKeyType where
  | ed25519 | rsa | ecdsaP256 | ecdsaP384 | ecdsaP521
  deriving DecidableEq, Repr

inductive KnownHostRevocationReason where
  | serverReinstalled | hostKeyRotated | labTargetRecreated | operatorOther
  deriving DecidableEq, Repr

def KnownHostRevocationReason.fromStrTag : String → Option KnownHostRevocationReason
  | "server_reinstalled" => some .serverReinstalled
  | "host_key_rotated" => some .hostKeyRotated
  | "lab_target_recreated" => some .labTargetRecreated
  | "operator_other" => some .operatorOther
  | _ => none

structure KnownHostEntry where
  id : EntryId
  hostId : HostId
  keyType : SshKeyType
  fingerprintSha256 : String
  publicKey : List UInt8
  firstSeenAt : Time
  trustedAt : Option Time
  revokedAt : Option Time := none
  revokedBy : Option UserId := none
  revokedReasonCode : Option KnownHostRevocationReason := none
  replacedById : Option EntryId := none
  deriving DecidableEq, Repr

/-- The row is trusted and not revoked. -/
def KnownHostEntry.isActivePin (e : KnownHostEntry) : Bool := e.trustedAt.isSome && e.revokedAt.isNone

structure CapturedHostKey where
  keyType : SshKeyType
  fingerprintSha256 : String
  publicKey : List UInt8
  deriving DecidableEq, Repr

inductive HostKeyStatus where
  | unknown | trusted | changed
  deriving DecidableEq, Repr

/-- The errors of the host-key routes. -/
inductive HostKeyApiError where
  | validation (message : String)
  | conflict (entity : String) (reason : Option String)
  /-- A lookup before the probe, or the probe itself, failed. -/
  | unavailable
  deriving DecidableEq, Repr

/-! ## Request bodies -/

/-- `char::is_whitespace`, the Unicode property `White_Space`. -/
def isWhitespace (c : Char) : Bool :=
  let n := c.toNat
  (0x9 ≤ n && n ≤ 0xD) || n == 0x20 || n == 0x85 || n == 0xA0 || n == 0x1680 || (0x2000 ≤ n && n ≤ 0x200A) ||
    n == 0x2028 || n == 0x2029 || n == 0x202F || n == 0x205F || n == 0x3000

/-- `char::is_control`, the Unicode category `Cc`. -/
def isControl (c : Char) : Bool := c.toNat ≤ 0x1F || (0x7F ≤ c.toNat && c.toNat ≤ 0x9F)

def minFingerprintLen : Nat := 8
def maxFingerprintLen : Nat := 128

def validateFingerprint (value field : String) : Except HostKeyApiError String :=
  if !"SHA256:".toList.isPrefixOf value.toList then
    .error (.validation s!"{field} must start with 'SHA256:'")
  else if value.utf8ByteSize < minFingerprintLen || value.utf8ByteSize > maxFingerprintLen then
    .error (.validation s!"{field} length is out of range")
  else if value.toList.any fun c => isWhitespace c || isControl c then
    .error (.validation s!"{field} must not contain whitespace or control characters")
  else .ok value

structure TrustHostKeyRequest where
  expectedFingerprint : String
  deriving DecidableEq, Repr

def TrustHostKeyRequest.validatedExpectedFingerprint (req : TrustHostKeyRequest) : Except HostKeyApiError String :=
  validateFingerprint req.expectedFingerprint "expected_fingerprint"

structure ReplaceHostKeyRequest where
  expectedOldFingerprint : String
  expectedNewFingerprint : String
  reasonCode : String
  deriving DecidableEq, Repr

structure ReplaceHostKeyValidatedRequest where
  expectedOldFingerprint : String
  expectedNewFingerprint : String
  reasonCode : KnownHostRevocationReason
  deriving DecidableEq, Repr

def ReplaceHostKeyRequest.validated (req : ReplaceHostKeyRequest) :
    Except HostKeyApiError ReplaceHostKeyValidatedRequest := do
  let old ← validateFingerprint req.expectedOldFingerprint "expected_old_fingerprint"
  let new ← validateFingerprint req.expectedNewFingerprint "expected_new_fingerprint"
  match KnownHostRevocationReason.fromStrTag req.reasonCode with
  | some reason => .ok ⟨old, new, reason⟩
  | none => .error (.validation "reason_code is not a recognised value")

/-! ## The classifier -/

/-- Does the row hold the captured key? -/
def KnownHostEntry.holds (e : KnownHostEntry) (captured : CapturedHostKey) : Bool :=
  e.keyType = captured.keyType && e.fingerprintSha256 = captured.fingerprintSha256

/-- Does the row hold another key of the captured type? -/
def KnownHostEntry.differs (e : KnownHostEntry) (captured : CapturedHostKey) : Bool :=
  e.keyType = captured.keyType && e.fingerprintSha256 ≠ captured.fingerprintSha256

def classifyHostKey (captured : CapturedHostKey) (known : List KnownHostEntry) : HostKeyStatus :=
  let active := known.filter fun e => e.revokedAt.isNone
  match active.find? (·.holds captured) with
  | some matching => if matching.trustedAt.isSome then .trusted else .unknown
  | none => if active.any (·.differs captured) then .changed else .unknown

/-- The pin a `changed` preflight shows. -/
def activePinFingerprint (captured : CapturedHostKey) (known : List KnownHostEntry) : Option String :=
  if classifyHostKey captured known = .changed then
    (known.find? fun e => e.revokedAt.isNone && e.trustedAt.isSome && e.differs captured).map (·.fingerprintSha256)
  else none

/-- The pins the create route of terminal sessions hands to the PTY bridge. -/
def ptyAcceptPins (known : List KnownHostEntry) : List (SshKeyType × String) :=
  (known.filter fun e => e.trustedAt.isSome && e.revokedAt.isNone).map fun e => (e.keyType, e.fingerprintSha256)

/-- The pins `auth_check` hands to its checker. -/
def authCheckAcceptPins (known : List KnownHostEntry) : List (SshKeyType × String) :=
  (known.filter fun e => e.revokedAt.isNone && e.trustedAt.isSome).map fun e => (e.keyType, e.fingerprintSha256)

/-! ## What the routes check before they write -/

structure CreateKnownHostEntry where
  hostId : HostId
  keyType : SshKeyType
  fingerprintSha256 : String
  publicKey : List UInt8
  deriving DecidableEq, Repr

structure ReplaceActivePin where
  hostId : HostId
  expectedOldFingerprint : String
  newKeyType : SshKeyType
  newFingerprintSha256 : String
  newPublicKey : List UInt8
  revokedBy : UserId
  reasonCode : KnownHostRevocationReason
  deriving DecidableEq, Repr

/-- A revoked row for the captured key. -/
def isRevoked (captured : CapturedHostKey) (known : List KnownHostEntry) : Bool :=
  known.any fun e => e.holds captured && e.revokedAt.isSome

/-- `trust_host_key` after the probe. -/
def trustChecks (host : HostId) (expected : String) (captured : CapturedHostKey) (known : List KnownHostEntry) :
    Except HostKeyApiError CreateKnownHostEntry :=
  if classifyHostKey captured known = .changed ∨ captured.fingerprintSha256 ≠ expected then
    .error (.conflict "host_key" none)
  else if isRevoked captured known then .error (.conflict "host_key" none)
  else .ok ⟨host, captured.keyType, captured.fingerprintSha256, captured.publicKey⟩

/-- `replace_host_key` after the probe. -/
def replaceChecks (host : HostId) (user : UserId) (req : ReplaceHostKeyValidatedRequest) (captured : CapturedHostKey)
    (known : List KnownHostEntry) : Except HostKeyApiError ReplaceActivePin :=
  if captured.fingerprintSha256 = req.expectedOldFingerprint then
    .error (.conflict "host_key" (some "captured_unchanged"))
  else if captured.fingerprintSha256 ≠ req.expectedNewFingerprint then
    .error (.conflict "host_key" (some "captured_mismatch"))
  else if isRevoked captured known then .error (.conflict "host_key" (some "captured_revoked"))
  else .ok {
    hostId := host
    expectedOldFingerprint := req.expectedOldFingerprint
    newKeyType := captured.keyType
    newFingerprintSha256 := captured.fingerprintSha256
    newPublicKey := captured.publicKey
    revokedBy := user
    reasonCode := req.reasonCode }

/-! ## The repository's statements -/

def entity : String := "known_host_entry"

/-- The key of the unique index. -/
def KnownHostEntry.isAt (e : KnownHostEntry) (host : HostId) (fingerprint : String) : Bool :=
  e.hostId = host && e.fingerprintSha256 = fingerprint

def listForHost (rows : List KnownHostEntry) (host : HostId) : List KnownHostEntry :=
  (rows.filter fun e => e.hostId = host).insertionSort fun a b => a.firstSeenAt ≤ b.firstSeenAt

def findByFingerprint (rows : List KnownHostEntry) (host : HostId) (fingerprint : String) : Option KnownHostEntry :=
  rows.find? (·.isAt host fingerprint)

/-- The row `create` inserts. -/
def CreateKnownHostEntry.row (input : CreateKnownHostEntry) (id : EntryId) (now : Time) (trustedAt : Option Time) :
    KnownHostEntry where
  id := id
  hostId := input.hostId
  keyType := input.keyType
  fingerprintSha256 := input.fingerprintSha256
  publicKey := input.publicKey
  firstSeenAt := now
  trustedAt := trustedAt

/-- `ON CONFLICT ... DO UPDATE SET trusted_at = COALESCE(trusted_at, now)`. -/
def KnownHostEntry.stampTrusted (e : KnownHostEntry) (now : Time) : KnownHostEntry :=
  { e with trustedAt := some (e.trustedAt.getD now) }

def insertRow (rows : List KnownHostEntry) (row : KnownHostEntry) :
    Except RepositoryError (List KnownHostEntry) :=
  match findByFingerprint rows row.hostId row.fingerprintSha256 with
  | some _ => .error (.conflict entity "known_host_entries_host_fingerprint_key")
  | none => .ok (rows ++ [row])

/-- The upsert of `record_trusted`: the row it returns and the rows it leaves. -/
def recordTrusted (rows : List KnownHostEntry) (input : CreateKnownHostEntry) (id : EntryId) (now : Time) :
    Except RepositoryError (KnownHostEntry × List KnownHostEntry) :=
  match findByFingerprint rows input.hostId input.fingerprintSha256 with
  | none => .ok (input.row id now (some now), rows ++ [input.row id now (some now)])
  | some existing =>
    if existing.revokedAt.isSome then .error (.conflict entity "revoked")
    else .ok (existing.stampTrusted now, rows.map fun e =>
      if e.isAt input.hostId input.fingerprintSha256 then e.stampTrusted now else e)

/-- The row `replace_active_pin` locks. -/
def selectActive (rows : List KnownHostEntry) (host : HostId) (fingerprint : String) : Option KnownHostEntry :=
  rows.find? fun e => e.isAt host fingerprint && e.isActivePin

/-- The TOCTOU check of `replace_active_pin`. -/
def checkNewFingerprint (rows : List KnownHostEntry) (input : ReplaceActivePin) : Except RepositoryError Unit :=
  match findByFingerprint rows input.hostId input.newFingerprintSha256 with
  | some existing => .error (.conflict entity
      (if existing.revokedAt.isSome then "new_fingerprint_revoked" else "new_fingerprint_already_active"))
  | none => .ok ()

def ReplaceActivePin.captured (input : ReplaceActivePin) : CapturedHostKey :=
  ⟨input.newKeyType, input.newFingerprintSha256, input.newPublicKey⟩

def ReplaceActivePin.newRow (input : ReplaceActivePin) (id : EntryId) (now : Time) : KnownHostEntry where
  id := id
  hostId := input.hostId
  keyType := input.newKeyType
  fingerprintSha256 := input.newFingerprintSha256
  publicKey := input.newPublicKey
  firstSeenAt := now
  trustedAt := some now

/-- The `UPDATE` of the old row. -/
def KnownHostEntry.revoke (e : KnownHostEntry) (input : ReplaceActivePin) (new : EntryId) (now : Time) :
    KnownHostEntry :=
  { e with
    revokedAt := some now
    revokedBy := some input.revokedBy
    revokedReasonCode := some input.reasonCode
    replacedById := some new }

def revokeRow (rows : List KnownHostEntry) (input : ReplaceActivePin) (old new : EntryId) (now : Time) :
    List KnownHostEntry :=
  rows.map fun e => if e.id = old then e.revoke input new now else e

/-- What a committed `replace_active_pin` leaves. -/
def replaceRows (rows : List KnownHostEntry) (input : ReplaceActivePin) (old new : EntryId) (now : Time) :
    List KnownHostEntry :=
  revokeRow rows input old new now ++ [input.newRow new now]

/-! ## Audit rows -/

inductive AuditEventKind where
  | hostKeyRevoked | hostKeyAccepted
  deriving DecidableEq, Repr

structure HostKeyAuditEvent where
  actorId : UserId
  kind : AuditEventKind
  hostId : HostId
  knownHostEntryId : EntryId
  replacementKnownHostEntryId : EntryId
  oldFingerprint : String
  newFingerprint : String
  keyType : SshKeyType
  reasonCode : KnownHostRevocationReason
  deriving DecidableEq, Repr

/-- The paired audit rows differ in the kind and in which entry they are about. -/
def ReplaceActivePin.audit (input : ReplaceActivePin) (kind : AuditEventKind) (entry replacement : EntryId) :
    HostKeyAuditEvent where
  actorId := input.revokedBy
  kind := kind
  hostId := input.hostId
  knownHostEntryId := entry
  replacementKnownHostEntryId := replacement
  oldFingerprint := input.expectedOldFingerprint
  newFingerprint := input.newFingerprintSha256
  keyType := input.newKeyType
  reasonCode := input.reasonCode

def ReplaceActivePin.auditRevoked (input : ReplaceActivePin) (old new : EntryId) : HostKeyAuditEvent :=
  input.audit .hostKeyRevoked old new

def ReplaceActivePin.auditAccepted (input : ReplaceActivePin) (old new : EntryId) : HostKeyAuditEvent :=
  input.audit .hostKeyAccepted new old

end RelayTerm.HostKey
