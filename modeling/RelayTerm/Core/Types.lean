/-!
# What the parts of the service share

Ids, the errors of the repositories, the kinds of a session's events, and what a
PTY bridge reports and fails with.
-/

namespace RelayTerm

abbrev UserId := Nat
abbrev HostId := Nat
abbrev SshIdentityId := Nat
abbrev ServerProfileId := Nat
abbrev SessionId := Nat

def i32Max : Nat := 0x7FFF_FFFF

def livePtyAttachMessage : String :=
  "attached to live RelayTerm session; replay across reconnects is not yet implemented"

inductive RepositoryError where
  | notFound (entity : String)
  | conflict (entity constraint : String)
  | validation (field message : String)
  | database (message : String)
  deriving DecidableEq, Repr

/-- A call that does not get through. Nothing but the operator's log has the message. -/
def RepositoryError.driver : RepositoryError := .database "connection closed"

inductive SessionEventKind where
  | created | attached | detached | reattached | resized | replayStarted | replayCompleted | closed
  deriving DecidableEq, Repr

/-! ## PTY bridges -/

inductive ProbeError where
  | unreachable | timeout | badHostKey | transport
  deriving DecidableEq, Repr

inductive SshPtyError where
  | invalidIdentity
  | transport (err : ProbeError)
  | hostKeyNotTrusted
  | authenticationFailed
  | ptyStartFailed
  | bridgeClosed
  deriving DecidableEq, Repr

inductive ClosedReason where
  | remoteEof | localClose | transportError
  deriving DecidableEq, Repr

inductive SshPtyEvent where
  | output (bytes : List UInt8)
  | exit (status : Int32)
  | closed (reason : ClosedReason)
  deriving DecidableEq

end RelayTerm
