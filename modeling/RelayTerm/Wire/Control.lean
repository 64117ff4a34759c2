import RelayTerm.Lib.Number
import RelayTerm.Stream.Client
/-!
# The JSON control plane, in both languages

Control messages travel as JSON objects tagged by `type`. The server's side is
derived by serde from the Rust enums, the client's is `protocol.ts`: it encodes
with `JSON.stringify`, and decodes with a check of the tag and of the fields'
types, after which the object is taken for a message as it is. A JSON text stands
here as the value it denotes; JavaScript reads its numbers with 53 significant
bits, and writes them with the digits that tell them apart. `idText` prints an id,
and `parseId` reads one.

Every message of the server is read by the client as what it is, and every
message of the client that the server's types have room for, and whose numbers are
below `2 ^ 53`, is read by the server as what it is. Whatever else arrives at the
client, it takes nothing for a message whose fields are not there, and no text of
the far side gets into its report.
-/
open RelayTerm.Lib.Number
open RelayTerm.Stream (ServerMsg ErrorCode AckKind SessionAttachStatus)

namespace RelayTerm.Wire

/-- A JSON value. `otherNum` is a number literal that is no natural number. -/
inductive Json where
  | null
  | bool (b : Bool)
  | num (n : Nat)
  | otherNum
  | str (s : String)
  | arr (items : List Json)
  | obj (fields : List (String × Json))

/-- A property of an object in JavaScript: of a repeated key the last one counts. -/
def property (fields : List (String × Json)) (key : String) : Option Json :=
  (fields.reverse.find? (·.1 = key)).map (·.2)

/-! ## The client -/

namespace Ts

/-- A JavaScript number: a natural one, another finite one, or none. -/
inductive Num where
  | nat (n : Nat)
  | other
  | nonFinite
  deriving DecidableEq

inductive ServerMsgType where
  | pong | sessionAttached | ack | output | replayStart | replayEnd | replayWindowLost | sessionDetached
  | sessionClosed | error
  deriving DecidableEq

def ServerMsgType.text : ServerMsgType → String
  | .pong => "pong"
  | .sessionAttached => "session_attached"
  | .ack => "ack"
  | .output => "output"
  | .replayStart => "replay_start"
  | .replayEnd => "replay_end"
  | .replayWindowLost => "replay_window_lost"
  | .sessionDetached => "session_detached"
  | .sessionClosed => "session_closed"
  | .error => "error"

def serverMsgTypes : List ServerMsgType :=
  [.pong, .sessionAttached, .ack, .output, .replayStart, .replayEnd, .replayWindowLost, .sessionDetached,
    .sessionClosed, .error]

def isKnownServerType (tag : String) : Option ServerMsgType := serverMsgTypes.find? (·.text = tag)

inductive DecodeFailure where
  | invalidJson
  | unknownType (received : String)
  | invalidShape (received : ServerMsgType)
  deriving DecidableEq

def tagMaxLen : Nat := 32

/-- `/^[A-Za-z0-9_]$/`. -/
def tagSafeChar (c : Char) : Bool := c.isAlphanum || c = '_'

/-- The loop of `sanitizeTypeTag`; `out` is ASCII, so its length counts its letters. -/
def sanitizeLoop (out : List Char) : List Char → List Char
  | [] => out
  | ch :: rest =>
    if out.length ≥ tagMaxLen then out
    else sanitizeLoop (out ++ [if tagSafeChar ch then ch else '_']) rest

def sanitizeTypeTag (value : String) : String :=
  let out := sanitizeLoop [] value.toList
  if out.length = 0 then "<unsanitizable>" else String.ofList out

/-- `typeof value === "string"`, and the string. -/
def asString : Option Json → Option String
  | some (.str s) => some s
  | _ => none

/-- `typeof value === "number"`, and the number as JavaScript reads it. -/
def asNumber : Option Json → Option Num
  | some (.num n) => some (.nat (round n))
  | some .otherNum => some .other
  | _ => none

def asStatus (value : Option Json) : Option SessionAttachStatus :=
  match asString value with
  | some "attached_stub" => some .attachedStub
  | some "active" => some .active
  | _ => none

def asAckKind (value : Option Json) : Option AckKind :=
  match asString value with
  | some "resize" => some .resize
  | _ => none

/-- `isKnownErrorCode`. -/
def asErrorCode (value : Option Json) : Option ErrorCode :=
  match asString value with
  | some "invalid_message" => some .invalidMessage
  | some "invalid_input" => some .invalidInput
  | some "pty_not_implemented" => some .ptyNotImplemented
  | some "pty_not_live" => some .ptyNotLive
  | some "ssh_start_failed" => some .sshStartFailed
  | some "internal" => some .internal
  | _ => none

def isNull : Option Json → Bool
  | some .null => true
  | _ => false

def matchesShape (tag : ServerMsgType) (value : String → Option Json) : Bool :=
  match tag with
  | .pong => true
  | .sessionAttached => (asString (value "session_id")).isSome && (asString (value "attachment_id")).isSome &&
      (asStatus (value "status")).isSome && (asString (value "message")).isSome
  | .ack => (asAckKind (value "kind")).isSome
  | .output => (asNumber (value "seq")).isSome && (asString (value "data")).isSome
  | .replayStart => (asNumber (value "from_seq")).isSome && (asNumber (value "to_seq")).isSome
  | .replayEnd => (asNumber (value "latest_seq")).isSome
  | .replayWindowLost => (asNumber (value "requested_seq")).isSome && (asNumber (value "latest_seq")).isSome &&
      (isNull (value "oldest_available_seq") || (asNumber (value "oldest_available_seq")).isSome)
  | .sessionDetached => (asString (value "session_id")).isSome && (asString (value "attachment_id")).isSome
  | .sessionClosed => (asString (value "session_id")).isSome
  | .error => (asErrorCode (value "code")).isSome && (asString (value "message")).isSome

/-- `none` is a text that is no JSON. The object accepted is handed on as it is. -/
def decodeServerMsg : Option Json → Except DecodeFailure (ServerMsgType × List (String × Json))
  | some (.obj parsed) => match asString (property parsed "type") with
    | none => .error (.unknownType "<missing>")
    | some tag => match isKnownServerType tag with
      | none => .error (.unknownType (sanitizeTypeTag tag))
      | some type => if matchesShape type (property parsed) then .ok (type, parsed) else .error (.invalidShape type)
  | _ => .error .invalidJson

/-- A message as the client's code reads it off the object. -/
inductive ServerMsg where
  | pong
  | sessionAttached (sessionId attachmentId : String) (status : SessionAttachStatus) (message : String)
  | ack (kind : AckKind)
  | output (seq : Num) (data : String)
  | replayStart (fromSeq toSeq : Num)
  | replayEnd (latestSeq : Num)
  | replayWindowLost (requestedSeq : Num) (oldestAvailableSeq : Option Num) (latestSeq : Num)
  | sessionDetached (sessionId attachmentId : String)
  | sessionClosed (sessionId : String)
  | error (code : ErrorCode) (message : String)
  deriving DecidableEq

/-- The fields of the type the object is cast to; `none` if one is missing. -/
def view (tag : ServerMsgType) (value : String → Option Json) : Option ServerMsg :=
  match tag with
  | .pong => some .pong
  | .sessionAttached => do
    some (.sessionAttached (← asString (value "session_id")) (← asString (value "attachment_id"))
      (← asStatus (value "status")) (← asString (value "message")))
  | .ack => do some (.ack (← asAckKind (value "kind")))
  | .output => do some (.output (← asNumber (value "seq")) (← asString (value "data")))
  | .replayStart => do some (.replayStart (← asNumber (value "from_seq")) (← asNumber (value "to_seq")))
  | .replayEnd => do some (.replayEnd (← asNumber (value "latest_seq")))
  | .replayWindowLost => do
    let requested ← asNumber (value "requested_seq")
    let latest ← asNumber (value "latest_seq")
    if isNull (value "oldest_available_seq") then some (.replayWindowLost requested none latest)
    else some (.replayWindowLost requested (some (← asNumber (value "oldest_available_seq"))) latest)
  | .sessionDetached => do
    some (.sessionDetached (← asString (value "session_id")) (← asString (value "attachment_id")))
  | .sessionClosed => do some (.sessionClosed (← asString (value "session_id")))
  | .error => do some (.error (← asErrorCode (value "code")) (← asString (value "message")))

/-- An optional field that is `undefined`, `null` or there. -/
inductive Field (α : Type) where
  | undefined
  | null
  | value (x : α)
  deriving DecidableEq

inductive ClientMsg where
  | ping
  | attach (sessionId : Field String) (lastSeenSeq : Field Num) (clientId : Field String)
  | input (data : String)
  | resize (cols rows : Num)
  | detach
  | close
  deriving DecidableEq

/-- How `JSON.stringify` writes a number. -/
def Num.toJson : Num → Json
  | .nat n => if n < 10 ^ 21 then .num (shortest n) else .otherNum
  | .other => .otherNum
  | .nonFinite => .null

/-- `JSON.stringify` leaves out what is `undefined`. -/
def Field.toJson {α : Type} (key : String) (toJson : α → Json) : Field α → List (String × Json)
  | .undefined => []
  | .null => [(key, .null)]
  | .value x => [(key, toJson x)]

def encodeClientMsg : ClientMsg → Json
  | .ping => .obj [("type", .str "ping")]
  | .attach sessionId lastSeenSeq clientId =>
    .obj (("type", .str "attach") :: (sessionId.toJson "session_id" .str ++
      lastSeenSeq.toJson "last_seen_seq" Num.toJson ++ clientId.toJson "client_id" .str))
  | .input data => .obj [("type", .str "input"), ("data", .str data)]
  | .resize cols rows => .obj [("type", .str "resize"), ("cols", cols.toJson), ("rows", rows.toJson)]
  | .detach => .obj [("type", .str "detach")]
  | .close => .obj [("type", .str "close")]

end Ts

/-! ## The server -/

namespace Rust

def ErrorCode.asStr : ErrorCode → String
  | .invalidMessage => "invalid_message"
  | .invalidInput => "invalid_input"
  | .ptyNotImplemented => "pty_not_implemented"
  | .ptyNotLive => "pty_not_live"
  | .sshStartFailed => "ssh_start_failed"
  | .internal => "internal"

def SessionAttachStatus.asStr : SessionAttachStatus → String
  | .attachedStub => "attached_stub"
  | .active => "active"

def AckKind.asStr : AckKind → String
  | .resize => "resize"

/-- The fields behind the tag. -/
def fields (idText : Nat → String) : ServerMsg → List (String × Json)
  | .pong => []
  | .sessionAttached sessionId attachmentId status message =>
    [("session_id", .str (idText sessionId)), ("attachment_id", .str (idText attachmentId)),
      ("status", .str (SessionAttachStatus.asStr status)), ("message", .str message)]
  | .ack kind => [("kind", .str (AckKind.asStr kind))]
  | .output seq data => [("seq", .num seq), ("data", .str data)]
  | .replayStart fromSeq toSeq => [("from_seq", .num fromSeq), ("to_seq", .num toSeq)]
  | .replayEnd latestSeq => [("latest_seq", .num latestSeq)]
  | .replayWindowLost requestedSeq oldestAvailableSeq latestSeq =>
    [("requested_seq", .num requestedSeq), ("oldest_available_seq", oldestAvailableSeq.elim .null .num),
      ("latest_seq", .num latestSeq)]
  | .sessionDetached sessionId attachmentId =>
    [("session_id", .str (idText sessionId)), ("attachment_id", .str (idText attachmentId))]
  | .sessionClosed sessionId => [("session_id", .str (idText sessionId))]
  | .error code message => [("code", .str (ErrorCode.asStr code)), ("message", .str message)]

/-- The serializer of `ServerMsg`. -/
def serialize (idText : Nat → String) (msg : ServerMsg) : Json :=
  .obj (("type", .str msg.type) :: fields idText msg)

inductive ClientMsg where
  | ping
  | attach (sessionId : Option Nat) (lastSeenSeq : Option UInt64) (clientId : Option String)
  | input (data : String)
  | resize (cols rows : UInt16)
  | detach
  | close
  deriving DecidableEq

/-- A field of a derived struct: a repeated one is an error. -/
def field (fields : List (String × Json)) (key : String) : Option (Option Json) :=
  match fields.filter (·.1 = key) with
  | [] => some none
  | [(_, value)] => some (some value)
  | _ => none

def required {α : Type} (read : Json → Option α) (fields : List (String × Json)) (key : String) : Option α :=
  (field fields key).bind fun value => value.bind read

/-- An `Option` may be null. -/
def readOption {α : Type} (read : Json → Option α) : Json → Option (Option α)
  | .null => some none
  | value => (read value).map some

/-- An `Option` field may also be missing. -/
def optional {α : Type} (read : Json → Option α) (fields : List (String × Json)) (key : String) :
    Option (Option α) :=
  (field fields key).bind fun
    | none => some none
    | some value => readOption read value

def readString : Json → Option String
  | .str s => some s
  | _ => none

/-- An unsigned integer takes the natural literals it has room for. -/
def readBelow (bound : Nat) : Json → Option Nat
  | .num n => if n < bound then some n else none
  | _ => none

def readU16 (value : Json) : Option UInt16 := (readBelow (2 ^ 16) value).map UInt16.ofNat

def readU64 (value : Json) : Option UInt64 := (readBelow (2 ^ 64) value).map UInt64.ofNat

def readId (parseId : String → Option Nat) : Json → Option Nat
  | .str s => parseId s
  | _ => none

/-- A variant from the members of an object; those it does not know are ignored. -/
def fromMap (parseId : String → Option Nat) (fields : List (String × Json)) : String → Option ClientMsg
  | "ping" => some .ping
  | "attach" => do
    some (.attach (← optional (readId parseId) fields "session_id") (← optional readU64 fields "last_seen_seq")
      (← optional readString fields "client_id"))
  | "input" => do some (.input (← required readString fields "data"))
  | "resize" => do some (.resize (← required readU16 fields "cols") (← required readU16 fields "rows"))
  | "detach" => some .detach
  | "close" => some .close
  | _ => none

/-- A variant from the items of an array behind its tag: its fields in their order, and no more. -/
def fromSeq (parseId : String → Option Nat) : String → List Json → Option ClientMsg
  | "ping", [] => some .ping
  | "attach", [sessionId, lastSeenSeq, clientId] => do
    some (.attach (← readOption (readId parseId) sessionId) (← readOption readU64 lastSeenSeq)
      (← readOption readString clientId))
  | "input", [data] => do some (.input (← readString data))
  | "resize", [cols, rows] => do some (.resize (← readU16 cols) (← readU16 rows))
  | "detach", [] => some .detach
  | "close", [] => some .close
  | _, _ => none

/-- The deserializer of `ClientMsg`, which is tagged internally: an object with its tag among its members,
or an array that starts with it. -/
def deserialize (parseId : String → Option Nat) : Json → Option ClientMsg
  | .obj fields => (required readString fields "type").bind (fromMap parseId fields)
  | .arr (tag :: items) => (readString tag).bind (fromSeq parseId · items)
  | _ => none

end Rust

/-! ## The client reads what the server sends -/

/-- The tag of a message. -/
def tagOf : ServerMsg → Ts.ServerMsgType
  | .pong => .pong
  | .sessionAttached .. => .sessionAttached
  | .ack _ => .ack
  | .output .. => .output
  | .replayStart .. => .replayStart
  | .replayEnd _ => .replayEnd
  | .replayWindowLost .. => .replayWindowLost
  | .sessionDetached .. => .sessionDetached
  | .sessionClosed _ => .sessionClosed
  | .error .. => .error

/-- The same message on the client's side; `num` is what becomes of its numbers. -/
def mirror (idText : Nat → String) (num : Nat → Ts.Num) : ServerMsg → Ts.ServerMsg
  | .pong => .pong
  | .sessionAttached sessionId attachmentId status message =>
    .sessionAttached (idText sessionId) (idText attachmentId) status message
  | .ack kind => .ack kind
  | .output seq data => .output (num seq) data
  | .replayStart fromSeq toSeq => .replayStart (num fromSeq) (num toSeq)
  | .replayEnd latestSeq => .replayEnd (num latestSeq)
  | .replayWindowLost requestedSeq oldestAvailableSeq latestSeq =>
    .replayWindowLost (num requestedSeq) (oldestAvailableSeq.map num) (num latestSeq)
  | .sessionDetached sessionId attachmentId => .sessionDetached (idText sessionId) (idText attachmentId)
  | .sessionClosed sessionId => .sessionClosed (idText sessionId)
  | .error code message => .error code message

/-- The numbers a message carries. -/
def numbers : ServerMsg → List Nat
  | .output seq _ => [seq]
  | .replayStart fromSeq toSeq => [fromSeq, toSeq]
  | .replayEnd latestSeq => [latestSeq]
  | .replayWindowLost requestedSeq oldestAvailableSeq latestSeq =>
    [requestedSeq, latestSeq] ++ oldestAvailableSeq.toList
  | _ => []

theorem isKnownServerType_type (msg : ServerMsg) : Ts.isKnownServerType msg.type = some (tagOf msg) := by
  cases msg <;> rfl

@[simp] theorem asStatus_asStr (status : SessionAttachStatus) :
    Ts.asStatus (some (.str (Rust.SessionAttachStatus.asStr status))) = some status := by
  cases status <;> rfl

@[simp] theorem asAckKind_asStr (kind : AckKind) :
    Ts.asAckKind (some (.str (Rust.AckKind.asStr kind))) = some kind := by
  cases kind
  rfl

@[simp] theorem asErrorCode_asStr (code : ErrorCode) :
    Ts.asErrorCode (some (.str (Rust.ErrorCode.asStr code))) = some code := by
  cases code <;> rfl

theorem view_fields (idText : Nat → String) (msg : ServerMsg) :
    Ts.view (tagOf msg) (property (("type", .str msg.type) :: Rust.fields idText msg)) =
      some (mirror idText (fun n => .nat (round n)) msg) := by
  cases msg with
  | replayWindowLost requestedSeq oldestAvailableSeq latestSeq =>
    cases oldestAvailableSeq <;> simp [tagOf, Ts.view, Rust.fields, property, Ts.asNumber, mirror, Ts.isNull]
  | _ => simp [tagOf, Ts.view, Rust.fields, property, Ts.asString, Ts.asNumber, mirror]

/-- The check of the shape finds every field the message's type has. -/
theorem matchesShape_eq_isSome_view (tag : Ts.ServerMsgType) (value : String → Option Json) :
    Ts.matchesShape tag value = (Ts.view tag value).isSome := by
  cases tag with
  | pong => rfl
  | sessionAttached =>
    simp only [Ts.matchesShape, Ts.view]
    cases Ts.asString (value "session_id") <;> cases Ts.asString (value "attachment_id") <;>
      cases Ts.asStatus (value "status") <;> cases Ts.asString (value "message") <;> rfl
  | ack =>
    simp only [Ts.matchesShape, Ts.view]
    cases Ts.asAckKind (value "kind") <;> rfl
  | output =>
    simp only [Ts.matchesShape, Ts.view]
    cases Ts.asNumber (value "seq") <;> cases Ts.asString (value "data") <;> rfl
  | replayStart =>
    simp only [Ts.matchesShape, Ts.view]
    cases Ts.asNumber (value "from_seq") <;> cases Ts.asNumber (value "to_seq") <;> rfl
  | replayEnd =>
    simp only [Ts.matchesShape, Ts.view]
    cases Ts.asNumber (value "latest_seq") <;> rfl
  | replayWindowLost =>
    simp only [Ts.matchesShape, Ts.view]
    cases Ts.asNumber (value "requested_seq") <;> cases Ts.asNumber (value "latest_seq") <;>
      cases Ts.isNull (value "oldest_available_seq") <;> cases Ts.asNumber (value "oldest_available_seq") <;> rfl
  | sessionDetached =>
    simp only [Ts.matchesShape, Ts.view]
    cases Ts.asString (value "session_id") <;> cases Ts.asString (value "attachment_id") <;> rfl
  | sessionClosed =>
    simp only [Ts.matchesShape, Ts.view]
    cases Ts.asString (value "session_id") <;> rfl
  | error =>
    simp only [Ts.matchesShape, Ts.view]
    cases Ts.asErrorCode (value "code") <;> cases Ts.asString (value "message") <;> rfl

/-- Below `2 ^ 53` a message reads on the client as it was written. -/
theorem mirror_exact (idText : Nat → String) {msg : ServerMsg} (h : ∀ n ∈ numbers msg, n < 2 ^ 53) :
    mirror idText (fun n => .nat (round n)) msg = mirror idText .nat msg := by
  cases msg with
  | replayWindowLost requestedSeq oldestAvailableSeq latestSeq =>
    cases oldestAvailableSeq <;> simp_all [mirror, numbers, round_of_lt]
  | _ => simp_all [mirror, numbers, round_of_lt]

theorem decode_serialize (idText : Nat → String) (msg : ServerMsg) :
    Ts.decodeServerMsg (some (Rust.serialize idText msg)) =
      .ok (tagOf msg, ("type", .str msg.type) :: Rust.fields idText msg) := by
  have htype : property (("type", .str msg.type) :: Rust.fields idText msg) "type" = some (.str msg.type) := by
    cases msg <;> simp [property, Rust.fields]
  have hshape := matchesShape_eq_isSome_view (tagOf msg) (property (("type", .str msg.type) :: Rust.fields idText msg))
  rw [view_fields] at hshape
  simp [Rust.serialize, Ts.decodeServerMsg, htype, Ts.asString, isKnownServerType_type, hshape]

/-- **The client reads every message of the server as what it is.** It is accepted
under its own type, and its numbers are exact below `2 ^ 53`. -/
theorem server_msgs_read (idText : Nat → String) (msg : ServerMsg) :
    ∃ fields m, Ts.decodeServerMsg (some (Rust.serialize idText msg)) = .ok (tagOf msg, fields) ∧
      Ts.view (tagOf msg) (property fields) = some m ∧
      ((∀ n ∈ numbers msg, n < 2 ^ 53) → m = mirror idText .nat msg) :=
  ⟨_, _, decode_serialize idText msg, view_fields idText msg, mirror_exact idText⟩

theorem server_msgs_read_lost : ∃ fields,
    Ts.decodeServerMsg (some (Rust.serialize toString (.replayWindowLost 3 none 9))) =
      .ok (.replayWindowLost, fields) ∧
    Ts.view .replayWindowLost (property fields) = some (.replayWindowLost (.nat 3) none (.nat 9)) := by
  obtain ⟨fields, m, hdecode, hview, hexact⟩ := server_msgs_read toString (.replayWindowLost 3 none 9)
  exact ⟨fields, hdecode, hview.trans (congrArg some (hexact (by decide)))⟩

/-! ## Whatever arrives at the client -/

theorem sanitizeLoop_safe {out : List Char} (rest : List Char) (hlen : out.length ≤ Ts.tagMaxLen)
    (hsafe : ∀ c ∈ out, Ts.tagSafeChar c) :
    (Ts.sanitizeLoop out rest).length ≤ Ts.tagMaxLen ∧ ∀ c ∈ Ts.sanitizeLoop out rest, Ts.tagSafeChar c := by
  induction rest generalizing out with
  | nil => exact ⟨hlen, hsafe⟩
  | cons ch rest ih =>
    unfold Ts.sanitizeLoop
    split
    · exact ⟨hlen, hsafe⟩
    · next hroom =>
      refine ih (by simp; omega) fun c hc => ?_
      rcases List.mem_append.1 hc with hold | hnew
      · exact hsafe c hold
      · rw [List.mem_singleton.1 hnew]
        split
        · assumption
        · decide

/-- What a report of an unknown tag can say. -/
def Sanitized (received : String) : Prop :=
  received = "<missing>" ∨ received = "<unsanitizable>" ∨
    received.toList.length ≤ Ts.tagMaxLen ∧ ∀ c ∈ received.toList, Ts.tagSafeChar c

theorem sanitizeTypeTag_sanitized (tag : String) : Sanitized (Ts.sanitizeTypeTag tag) := by
  unfold Ts.sanitizeTypeTag
  simp only
  split
  · exact .inr (.inl rfl)
  · refine .inr (.inr ?_)
    rw [String.toList_ofList]
    exact sanitizeLoop_safe tag.toList (Nat.zero_le _) (by simp)

/-- **The client trusts no text.** What it takes for a message has all the fields
of a message of its type; what it reports of one it refuses is a name of its own
or at most 32 letters, digits and underscores. -/
theorem decoded_well_formed (raw : Option Json) :
    (∀ tag fields, Ts.decodeServerMsg raw = .ok (tag, fields) →
      property fields "type" = some (.str tag.text) ∧ (Ts.view tag (property fields)).isSome) ∧
    ∀ received, Ts.decodeServerMsg raw = .error (.unknownType received) → Sanitized received := by
  unfold Ts.decodeServerMsg
  split
  · next parsed =>
    split
    · exact ⟨by simp, fun received h => by cases h; exact .inl rfl⟩
    · next tag htag =>
      split
      · exact ⟨by simp, fun received h => by cases h; exact sanitizeTypeTag_sanitized tag⟩
      · next type hknown =>
        split
        · next hshape =>
          refine ⟨fun tag' fields h => ?_, by simp⟩
          cases h
          have htext : type.text = tag := by simpa using List.find?_some hknown
          refine ⟨?_, by rwa [matchesShape_eq_isSome_view] at hshape⟩
          unfold Ts.asString at htag
          split at htag
          · next s hs => cases htag; rw [hs, htext]
          · cases htag
        · exact ⟨by simp, by simp⟩
  · exact ⟨by simp, by simp⟩

/-- An `ack` is taken, with a field the client does not know; a tag with markup in it is reported without. -/
theorem decoded_well_formed_both : ∃ fields received,
    Ts.decodeServerMsg (some (.obj [("kind", .str "resize"), ("type", .str "ack"), ("at", .num 7)])) =
      .ok (.ack, fields) ∧ (Ts.view .ack (property fields)).isSome ∧
    Ts.decodeServerMsg (some (.obj [("type", .str "<b>")])) = .error (.unknownType received) ∧ Sanitized received :=
  have htaken := decoded_well_formed (some (.obj [("kind", .str "resize"), ("type", .str "ack"), ("at", .num 7)]))
  have hrefused := decoded_well_formed (some (.obj [("type", .str "<b>")]))
  ⟨_, _, rfl, (htaken.1 .ack _ rfl).2, rfl, hrefused.2 _ rfl⟩

/-! ## The server reads what the client sends -/

/-- The numbers a message carries. -/
def Ts.ClientMsg.numbers : Ts.ClientMsg → List Ts.Num
  | .attach _ (.value seq) _ => [seq]
  | .resize cols rows => [cols, rows]
  | _ => []

/-- A natural number below `2 ^ 53`, or no natural number. -/
def Ts.Num.Exact (x : Ts.Num) : Prop := ∀ n, x = .nat n → n < 2 ^ 53

/-- An optional field on both sides; `nulled` are the values JSON writes as `null`. -/
inductive FieldMeans {α β : Type} (nulled : α → Prop) (means : α → β → Prop) : Ts.Field α → Option β → Prop where
  | undefined : FieldMeans nulled means .undefined none
  | null : FieldMeans nulled means .null none
  | nulled {x : α} (h : nulled x) : FieldMeans nulled means (.value x) none
  | value {x : α} {y : β} (h : means x y) : FieldMeans nulled means (.value x) (some y)

/-- The server's message means what the client's does. -/
inductive Means (parseId : String → Option Nat) : Ts.ClientMsg → Rust.ClientMsg → Prop where
  | ping : Means parseId .ping .ping
  | attach {sessionId : Ts.Field String} {lastSeenSeq : Ts.Field Ts.Num} {clientId : Ts.Field String}
      {session : Option Nat} {seq : Option UInt64} {client : Option String}
      (hsession : FieldMeans (fun _ => False) (fun text id => parseId text = some id) sessionId session)
      (hseq : FieldMeans (· = .nonFinite) (fun x n => x = .nat n.toNat) lastSeenSeq seq)
      (hclient : FieldMeans (fun _ => False) (· = ·) clientId client) :
      Means parseId (.attach sessionId lastSeenSeq clientId) (.attach session seq client)
  | input (data : String) : Means parseId (.input data) (.input data)
  | resize (cols rows : UInt16) : Means parseId (.resize (.nat cols.toNat) (.nat rows.toNat)) (.resize cols rows)
  | detach : Means parseId .detach .detach
  | close : Means parseId .close .close

theorem toJson_exact {n : Nat} (h : n < 2 ^ 53) : Ts.Num.toJson (.nat n) = .num n := by
  rw [Ts.Num.toJson, if_pos (by omega), shortest_of_lt h]

theorem readBelow_toJson {bound : Nat} {x : Ts.Num} {n : Nat} (hx : x.Exact) :
    Rust.readBelow bound x.toJson = some n ↔ x = .nat n ∧ n < bound := by
  cases x with
  | nat x =>
    rw [toJson_exact (hx x rfl), Rust.readBelow, Option.ite_none_right_eq_some]
    constructor
    · rintro ⟨hlt, hn⟩
      obtain rfl := Option.some.inj hn
      exact ⟨rfl, hlt⟩
    · rintro ⟨hn, hlt⟩
      obtain rfl := Ts.Num.nat.inj hn
      exact ⟨hlt, rfl⟩
  | other => simp [Ts.Num.toJson, Rust.readBelow]
  | nonFinite => simp [Ts.Num.toJson, Rust.readBelow]

theorem readU16_toJson {x : Ts.Num} (hx : x.Exact) {n : UInt16} :
    Rust.readU16 x.toJson = some n ↔ x = .nat n.toNat := by
  simp only [Rust.readU16, Option.map_eq_some_iff, readBelow_toJson hx]
  constructor
  · rintro ⟨m, ⟨rfl, hm⟩, rfl⟩
    rw [UInt16.toNat_ofNat_of_lt' hm]
  · rintro rfl
    exact ⟨n.toNat, ⟨rfl, n.toNat_lt⟩, UInt16.ofNat_toNat⟩

theorem readU64_toJson {x : Ts.Num} (hx : x.Exact) {n : UInt64} :
    Rust.readU64 x.toJson = some n ↔ x = .nat n.toNat := by
  simp only [Rust.readU64, Option.map_eq_some_iff, readBelow_toJson hx]
  constructor
  · rintro ⟨m, ⟨rfl, hm⟩, rfl⟩
    rw [UInt64.toNat_ofNat_of_lt' hm]
  · rintro rfl
    exact ⟨n.toNat, ⟨rfl, n.toNat_lt⟩, UInt64.ofNat_toNat⟩

theorem toJson_eq_null {x : Ts.Num} : x.toJson = .null ↔ x = .nonFinite := by
  cases x with
  | nat n =>
    rw [Ts.Num.toJson]
    split <;> simp
  | other => simp [Ts.Num.toJson]
  | nonFinite => simp [Ts.Num.toJson]

section Fields

variable {α β : Type} {toJson : α → Json}

theorem filter_toJson_same (f : Ts.Field α) (key : String) :
    (f.toJson key toJson).filter (·.1 = key) = f.toJson key toJson := by
  cases f <;> simp [Ts.Field.toJson]

theorem filter_toJson_other (f : Ts.Field α) {key other : String} (h : key ≠ other) :
    (f.toJson key toJson).filter (·.1 = other) = [] := by
  cases f <;> simp [Ts.Field.toJson, h]

/-- An optional field is read as what it means, wherever it stands. -/
theorem optional_toJson (read : Json → Option β) (nulled : α → Prop) (means : α → β → Prop)
    (hnone : read .null = none) (hnull : ∀ x, toJson x = .null ↔ nulled x) {f : Ts.Field α}
    (hread : ∀ x, f = .value x → ∀ y, read (toJson x) = some y ↔ means x y) {key : String}
    {fields : List (String × Json)} (hfields : fields.filter (·.1 = key) = f.toJson key toJson) (y : Option β) :
    Rust.optional read fields key = some y ↔ FieldMeans nulled means f y := by
  unfold Rust.optional Rust.field
  rw [hfields]
  cases f with
  | undefined =>
    simp only [Ts.Field.toJson, Option.bind_some, Option.some.injEq]
    exact ⟨fun h => h ▸ .undefined, fun h => by cases h; rfl⟩
  | null =>
    simp only [Ts.Field.toJson, Option.bind_some, Rust.readOption, Option.some.injEq]
    exact ⟨fun h => h ▸ .null, fun h => by cases h; rfl⟩
  | value x =>
    simp only [Ts.Field.toJson, Option.bind_some]
    unfold Rust.readOption
    split
    · next hx =>
      simp only [Option.some.injEq]
      constructor
      · rintro rfl
        exact .nulled ((hnull x).1 hx)
      · intro h
        cases h with
        | nulled => rfl
        | value h =>
          rw [← hread x rfl, hx, hnone] at h
          cases h
    · next hne =>
      simp only [Option.map_eq_some_iff]
      constructor
      · rintro ⟨z, hz, rfl⟩
        exact .value ((hread x rfl z).1 hz)
      · intro h
        cases h with
        | nulled h => exact (hne ((hnull x).2 h)).elim
        | value h => exact ⟨_, (hread x rfl _).2 h, rfl⟩

end Fields

/-- The object of an `attach` frame. -/
def attachFields (sessionId : Ts.Field String) (lastSeenSeq : Ts.Field Ts.Num) (clientId : Ts.Field String) :
    List (String × Json) :=
  ("type", .str "attach") :: (sessionId.toJson "session_id" .str ++
    lastSeenSeq.toJson "last_seen_seq" Ts.Num.toJson ++ clientId.toJson "client_id" .str)

/-- Each field of the frame stands alone under its key. -/
theorem filter_attachFields (sessionId : Ts.Field String) (lastSeenSeq : Ts.Field Ts.Num)
    (clientId : Ts.Field String) :
    (attachFields sessionId lastSeenSeq clientId).filter (·.1 = "type") = [("type", .str "attach")] ∧
    (attachFields sessionId lastSeenSeq clientId).filter (·.1 = "session_id") = sessionId.toJson "session_id" .str ∧
    (attachFields sessionId lastSeenSeq clientId).filter (·.1 = "last_seen_seq") =
      lastSeenSeq.toJson "last_seen_seq" Ts.Num.toJson ∧
    (attachFields sessionId lastSeenSeq clientId).filter (·.1 = "client_id") = clientId.toJson "client_id" .str := by
  simp [attachFields, filter_toJson_same, filter_toJson_other]

theorem deserialize_attach (parseId : String → Option Nat) (sessionId : Ts.Field String)
    (lastSeenSeq : Ts.Field Ts.Num) (clientId : Ts.Field String) (hexact : ∀ x, lastSeenSeq = .value x → x.Exact)
    (msg : Rust.ClientMsg) :
    Rust.deserialize parseId (Ts.encodeClientMsg (.attach sessionId lastSeenSeq clientId)) = some msg ↔
      Means parseId (.attach sessionId lastSeenSeq clientId) msg := by
  obtain ⟨htype, hsession, hseq, hclient⟩ := filter_attachFields sessionId lastSeenSeq clientId
  have htype : Rust.required Rust.readString (attachFields sessionId lastSeenSeq clientId) "type" = some "attach" := by
    simp [Rust.required, Rust.field, htype, Rust.readString]
  have hsession := optional_toJson (Rust.readId parseId) (fun _ => False) (fun text id => parseId text = some id)
    rfl (by simp) (by simp [Rust.readId]) hsession
  have hseq := optional_toJson Rust.readU64 (· = .nonFinite) (fun x n => x = .nat n.toNat) rfl
    (fun _ => toJson_eq_null) (fun x hx _ => readU64_toJson (hexact x hx)) hseq
  have hclient := optional_toJson Rust.readString (fun _ => False) (· = ·) rfl (by simp) (by simp [Rust.readString])
    hclient
  rw [Ts.encodeClientMsg, Rust.deserialize, ← attachFields, htype, Option.bind_some]
  simp only [Rust.fromMap, Option.bind_eq_bind, Option.bind_eq_some_iff, Option.some.injEq, hsession, hseq, hclient]
  constructor
  · rintro ⟨session, hs, seq, hq, client, hc, rfl⟩
    exact .attach hs hq hc
  · rintro ⟨⟩
    exact ⟨_, ‹_›, _, ‹_›, _, ‹_›, rfl⟩

theorem deserialize_resize (parseId : String → Option Nat) {cols rows : Ts.Num} (hcols : cols.Exact)
    (hrows : rows.Exact) (msg : Rust.ClientMsg) :
    Rust.deserialize parseId (Ts.encodeClientMsg (.resize cols rows)) = some msg ↔
      Means parseId (.resize cols rows) msg := by
  have hread : Rust.deserialize parseId (Ts.encodeClientMsg (.resize cols rows)) =
      (Rust.readU16 cols.toJson).bind fun c => (Rust.readU16 rows.toJson).bind fun r => some (.resize c r) := rfl
  rw [hread]
  simp only [Option.bind_eq_some_iff, readU16_toJson hcols, readU16_toJson hrows, Option.some.injEq]
  constructor
  · rintro ⟨c, rfl, r, rfl, rfl⟩
    exact .resize c r
  · rintro ⟨⟩
    exact ⟨_, rfl, _, rfl, rfl⟩

/-- **The server reads every message of the client as what it means**, if its
numbers are below `2 ^ 53`, and refuses it exactly if its own types have no room
for it. -/
theorem client_msgs_read (parseId : String → Option Nat) (m : Ts.ClientMsg) (hexact : ∀ x ∈ m.numbers, x.Exact)
    (msg : Rust.ClientMsg) : Rust.deserialize parseId (Ts.encodeClientMsg m) = some msg ↔ Means parseId m msg := by
  -- a message without fields that can be refused
  have plain : ∀ (m : Ts.ClientMsg) (msg' : Rust.ClientMsg), Means parseId m msg' →
      (∀ msg, Means parseId m msg → msg' = msg) →
      Rust.deserialize parseId (Ts.encodeClientMsg m) = some msg' →
      (Rust.deserialize parseId (Ts.encodeClientMsg m) = some msg ↔ Means parseId m msg) := by
    intro m msg' hmeans hunique hread
    rw [hread, Option.some.injEq]
    exact ⟨fun h => h ▸ hmeans, hunique msg⟩
  cases m with
  | ping => exact plain .ping .ping .ping (fun _ h => by cases h; rfl) rfl
  | detach => exact plain .detach .detach .detach (fun _ h => by cases h; rfl) rfl
  | close => exact plain .close .close .close (fun _ h => by cases h; rfl) rfl
  | input data => exact plain (.input data) (.input data) (.input data) (fun _ h => by cases h; rfl) rfl
  | resize cols rows =>
    exact deserialize_resize parseId (hexact cols (by simp [Ts.ClientMsg.numbers]))
      (hexact rows (by simp [Ts.ClientMsg.numbers])) msg
  | attach sessionId lastSeenSeq clientId =>
    refine deserialize_attach parseId sessionId lastSeenSeq clientId (fun x hx => hexact x ?_) msg
    subst hx
    simp [Ts.ClientMsg.numbers]

/-- A resume from 7, and a resize to more columns than there is room for. -/
theorem client_msgs_read_two :
    Rust.deserialize String.toNat? (Ts.encodeClientMsg (.attach .undefined (.value (.nat 7)) .null)) =
      some (.attach none (some 7) none) ∧
    ∀ msg, Rust.deserialize String.toNat? (Ts.encodeClientMsg (.resize (.nat 65536) (.nat 24))) ≠ some msg := by
  constructor
  · refine (client_msgs_read _ (.attach .undefined (.value (.nat 7)) .null) ?_ _).2
      (.attach .undefined (.value rfl) .null)
    intro x hx n hn
    rw [List.mem_singleton.1 hx] at hn
    cases hn
    decide
  · intro msg h
    have hmeans := (client_msgs_read _ (.resize (.nat 65536) (.nat 24)) ?_ _).1 h
    · generalize hcols : Ts.Num.nat 65536 = cols at hmeans
      generalize Ts.Num.nat 24 = rows at hmeans
      cases hmeans with
      | resize c r =>
        have hroom := c.toNat_lt
        rw [← Ts.Num.nat.inj hcols] at hroom
        exact absurd hroom (by decide)
    · intro x hx n hn
      rcases List.mem_pair.1 hx with rfl | rfl <;> cases hn <;> decide

end RelayTerm.Wire
