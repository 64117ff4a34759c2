import RelayTerm.HostKey.Entries
/-!
# SSH connections that present a client key

The auth check (`SshAuthCheckService::auth_check` over `RusshAuthChecker::run`)
and the PTY bridge (`RusshPtyBridge::start`) open a connection through russh.
During key exchange russh calls the handler's `check_server_key`, which
compares the server's key with the pins it was given and leaves what it saw in
two shared cells. When the handler answers `false`, `connect` may report an
error or return a session that is being closed: a `Peer` fixes what the library
calls answer, and the routines are functions of it. Each returns, with its
result, the calls it made on the connection.
-/
open RelayTerm.HostKey

namespace RelayTerm.Ssh

/-! ## The server's key and the handler -/

inductive EcdsaCurve where
  | nistP256 | nistP384 | nistP521
  deriving DecidableEq, Repr

/-- The host key algorithms russh knows; `other` are those without a `SshKeyType`. -/
inductive HostKeyAlgorithm where
  | ed25519
  | rsa
  | ecdsa (curve : EcdsaCurve)
  | other
  deriving DecidableEq, Repr

def keyTypeFromAlgorithm : HostKeyAlgorithm → Option SshKeyType
  | .ed25519 => some .ed25519
  | .rsa => some .rsa
  | .ecdsa .nistP256 => some .ecdsaP256
  | .ecdsa .nistP384 => some .ecdsaP384
  | .ecdsa .nistP521 => some .ecdsaP521
  | .other => none

/-- A public key russh hands to the handler. `toBytes` is `none` where encoding it fails. -/
structure ServerKey where
  algorithm : HostKeyAlgorithm
  fingerprint : String
  toBytes : Option (List UInt8)
  deriving DecidableEq, Repr

/-- A handler with the two cells it shares with its routine. -/
structure Handler where
  acceptPins : List (SshKeyType × String)
  captured : Option CapturedHostKey := none
  pinMatch : Bool := false
  deriving DecidableEq, Repr

/-- The handler after the call, and its answer. -/
def Handler.checkServerKey (handler : Handler) (key : ServerKey) : Handler × Bool :=
  match keyTypeFromAlgorithm key.algorithm with
  | none => (handler, false)
  | some keyType =>
    match key.toBytes with
    | none => (handler, false)
    | some publicKey =>
      let matched := handler.acceptPins.any fun (kt, fp) => kt = keyType && fp = key.fingerprint
      ({ handler with captured := some ⟨keyType, key.fingerprint, publicKey⟩, pinMatch := matched }, matched)

def AuthHandler.checkServerKey (handler : Handler) (key : ServerKey) : Handler × Bool := handler.checkServerKey key

def PtyHandler.checkServerKey (handler : Handler) (key : ServerKey) : Handler × Bool := handler.checkServerKey key

/-! ## What the library answers -/

inductive IoErrorKind where
  | timedOut | connectionRefused | connectionReset | connectionAborted | notConnected | hostUnreachable
  | networkUnreachable | addrNotAvailable | other
  deriving DecidableEq, Repr

inductive RusshError where
  | io (kind : IoErrorKind)
  | other
  deriving DecidableEq, Repr

def mapIoErrorKind : IoErrorKind → ProbeError
  | .timedOut => .timeout
  | .connectionRefused | .connectionReset | .connectionAborted | .notConnected | .hostUnreachable
  | .networkUnreachable | .addrNotAvailable => .unreachable
  | .other => .transport

def mapRusshError : RusshError → ProbeError
  | .io kind => mapIoErrorKind kind
  | .other => .transport

/-- A library call under `tokio::time::timeout`. -/
inductive Answer (α : Type) where
  | elapsed
  | failed (err : RusshError)
  | ok (value : α)
  deriving DecidableEq, Repr

/-- What becomes of `connect`: the key the server presented, if key exchange got
that far, and what the call returns. -/
structure Connect where
  presented : Option ServerKey
  answer : Answer Unit
  deriving DecidableEq, Repr

/-- The handler once `connect` has returned. -/
def Connect.handler (c : Connect) (check : Handler → ServerKey → Handler × Bool) (handler : Handler) : Handler :=
  match c.presented with
  | none => handler
  | some key => (check handler key).1

structure Peer where
  /-- Does russh's own parser take the client key? -/
  parses : List UInt8 → Bool
  connect : Connect
  /-- `authenticate_publickey`, and whether the server took the key. -/
  authenticate : Answer Bool
  channelOpens : Bool
  ptyStarts : Bool
  shellStarts : Bool

inductive Call where
  | connect (hostname : String) (port : Nat)
  | authenticatePublickey (username : String)
  | disconnect (description : String)
  | channelOpenSession
  | requestPty (term : String) (cols rows : Nat)
  | requestShell
  deriving DecidableEq, Repr

def Call.isAuthenticate : Call → Bool
  | .authenticatePublickey _ => true
  | _ => false

/-! ## The auth checker -/

inductive AuthAttemptKind where
  | authenticated | authenticationFailed | hostKeyMismatch
  deriving DecidableEq, Repr

structure AuthCheckOutcome where
  captured : CapturedHostKey
  kind : AuthAttemptKind
  deriving DecidableEq, Repr

structure AuthCheckTarget where
  hostname : String
  port : Nat
  username : String
  acceptPins : List (SshKeyType × String)
  privateKeyPem : List UInt8
  deriving DecidableEq, Repr

/-- `RusshAuthChecker::run` from `connect` on. -/
def RusshAuthChecker.run (peer : Peer) (target : AuthCheckTarget) : Except ProbeError AuthCheckOutcome × List Call :=
  if !peer.parses target.privateKeyPem then (.error .transport, [])
  else
    let handler := peer.connect.handler AuthHandler.checkServerKey { acceptPins := target.acceptPins }
    let dial := Call.connect target.hostname target.port
    match peer.connect.answer with
    | .elapsed => (.error .timeout, [dial])
    | .failed err => (.error (mapRusshError err), [dial])
    | .ok () =>
      if !handler.pinMatch then
        match handler.captured with
        | none => (.error .badHostKey, [dial, .disconnect "auth-check"])
        | some captured => (.ok ⟨captured, .hostKeyMismatch⟩, [dial, .disconnect "auth-check"])
      else
        match handler.captured with
        | none => (.error .badHostKey, [dial])
        | some captured =>
          let calls := [dial, .authenticatePublickey target.username, .disconnect "auth-check"]
          match peer.authenticate with
          | .elapsed => (.error .timeout, calls)
          | .failed err => (.error (mapRusshError err), calls)
          | .ok true => (.ok ⟨captured, .authenticated⟩, calls)
          | .ok false => (.ok ⟨captured, .authenticationFailed⟩, calls)

/-! ## The PTY bridge -/

structure SshPtyConfig where
  hostname : String
  port : Nat
  username : String
  acceptPins : List (SshKeyType × String)
  cols : Nat
  rows : Nat
  term : String := "xterm-256color"
  deriving DecidableEq, Repr

structure SshPtyTarget where
  config : SshPtyConfig
  privateKeyPem : List UInt8
  deriving DecidableEq, Repr

/-- `RusshPtyBridge::start` up to the spawn of its driver. -/
def RusshPtyBridge.start (peer : Peer) (target : SshPtyTarget) : Except SshPtyError Unit × List Call :=
  let config := target.config
  if !peer.parses target.privateKeyPem then (.error .invalidIdentity, [])
  else
    let handler := peer.connect.handler PtyHandler.checkServerKey { acceptPins := config.acceptPins }
    let dial := Call.connect config.hostname config.port
    match peer.connect.answer with
    | .elapsed => (.error (.transport .timeout), [dial])
    | .failed err =>
      if !handler.pinMatch && handler.captured.isSome then (.error .hostKeyNotTrusted, [dial])
      else (.error (.transport (mapRusshError err)), [dial])
    | .ok () =>
      if !handler.pinMatch then (.error .hostKeyNotTrusted, [dial, .disconnect "host key not trusted"])
      else
        let auth := Call.authenticatePublickey config.username
        let pty := Call.requestPty config.term config.cols config.rows
        match peer.authenticate with
        | .elapsed => (.error (.transport .timeout), [dial, auth, .disconnect "auth timeout"])
        | .failed err => (.error (.transport (mapRusshError err)), [dial, auth, .disconnect "auth failed"])
        | .ok false => (.error .authenticationFailed, [dial, auth, .disconnect "auth rejected"])
        | .ok true =>
          if !peer.channelOpens then (.error .ptyStartFailed, [dial, auth, .channelOpenSession])
          else if !peer.ptyStarts then (.error .ptyStartFailed, [dial, auth, .channelOpenSession, pty])
          else if !peer.shellStarts then
            (.error .ptyStartFailed, [dial, auth, .channelOpenSession, pty, .requestShell])
          else (.ok (), [dial, auth, .channelOpenSession, pty, .requestShell])

/-! ## The auth-check service -/

inductive SshAuthCheckStatus where
  | authenticationSucceeded | authenticationFailed | hostKeyUnknown | hostKeyChanged | connectionFailed
  deriving DecidableEq, Repr

inductive SshAuthCheckError where
  | invalidIdentity | saturated
  deriving DecidableEq, Repr

structure SshAuthCheckRequest where
  hostname : String
  port : Nat
  username : String
  privateKeyPem : List UInt8
  deriving DecidableEq, Repr

/-- What the service asks its checker about. -/
def SshAuthCheckRequest.target (req : SshAuthCheckRequest) (acceptPins : List (SshKeyType × String)) :
    AuthCheckTarget where
  hostname := req.hostname
  port := req.port
  username := req.username
  acceptPins := acceptPins
  privateKeyPem := req.privateKeyPem

/-- `SshAuthChecker::run` under the service's timeout: `none` when it elapses. -/
def Checker : Type := AuthCheckTarget → Option (Except ProbeError AuthCheckOutcome)

structure SshAuthCheckService where
  checker : Checker
  /-- Does the service's parser take the client key? -/
  parses : List UInt8 → Bool
  /-- Permits left in the semaphore. -/
  permits : Nat

def SshAuthCheckService.authCheck (svc : SshAuthCheckService) (req : SshAuthCheckRequest)
    (known : List KnownHostEntry) : Except SshAuthCheckError SshAuthCheckStatus :=
  if !svc.parses req.privateKeyPem then .error .invalidIdentity
  else if svc.permits = 0 then .error .saturated
  else
    match svc.checker (req.target (authCheckAcceptPins known)) with
    | none => .ok .connectionFailed
    | some (.error _) => .ok .connectionFailed
    | some (.ok outcome) =>
      match outcome.kind with
      | .authenticated => .ok .authenticationSucceeded
      | .authenticationFailed => .ok .authenticationFailed
      | .hostKeyMismatch =>
        match classifyHostKey outcome.captured known with
        | .changed => .ok .hostKeyChanged
        | .trusted | .unknown => .ok .hostKeyUnknown

end RelayTerm.Ssh
