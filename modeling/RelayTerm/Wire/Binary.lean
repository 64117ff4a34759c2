import RelayTerm.Lib.Number
import RelayTerm.Stream.Socket
/-!
# The binary envelope of the terminal data plane, in both languages

PTY output and keystrokes travel in binary WebSocket frames: a 20-byte header
(magic, kind, flags, reserved, sequence number, payload length, integers
big-endian) and the payload. The server's codec (`relayterm-protocol`) works on
fixed-width integers, the client's (`terminal-core`) on JavaScript numbers.
A client's `seq` is a natural number here.
-/
open RelayTerm.Lib.Number

namespace RelayTerm.Wire

/-- A byte of a buffer whose length has been checked. -/
def byteAt (buf : List UInt8) (i : Nat) : UInt8 := buf.getD i 0

/-! ## The server's codec -/

namespace Rust

def binaryMagicV1 : List UInt8 := [0x52, 0x54, 0x42, 0x31]

def binaryHeaderLen : Nat := 20

inductive BinaryFrameKind where
  | output | input
  deriving DecidableEq, Repr

def BinaryFrameKind.fromU8 (byte : UInt8) : Option BinaryFrameKind :=
  if byte = 0x01 then some .output else if byte = 0x02 then some .input else none

def BinaryFrameKind.asU8 : BinaryFrameKind → UInt8
  | .output => 0x01
  | .input => 0x02

structure BinaryFrame where
  kind : BinaryFrameKind
  seq : UInt64
  payload : List UInt8
  deriving DecidableEq, Repr

inductive BinaryFrameDecodeError where
  | truncatedHeader | badMagic | nonZeroReserved | payloadTooLarge | lengthMismatch | unknownKind
  deriving DecidableEq, Repr

def encodeBinaryFrame (kind : BinaryFrameKind) (seq : UInt64) (payload : List UInt8) :
    Except BinaryFrameDecodeError (List UInt8) :=
  if payload.length > Stream.maxPayloadLen then .error .payloadTooLarge
  else
    .ok (binaryMagicV1 ++ [kind.asU8] ++ [0] ++ [0, 0] ++ toBeBytes 8 seq.toNat ++ toBeBytes 4 payload.length
      ++ payload)

def decodeBinaryFrame (buf : List UInt8) : Except BinaryFrameDecodeError BinaryFrame :=
  if buf.length < binaryHeaderLen then .error .truncatedHeader
  else if buf.take 4 ≠ binaryMagicV1 then .error .badMagic
  else
    let kindByte := byteAt buf 4
    let flags := byteAt buf 5
    let reserved := fromBeBytes [byteAt buf 6, byteAt buf 7]
    if flags ≠ 0 ∨ reserved ≠ 0 then .error .nonZeroReserved
    else
      let seq := UInt64.ofNat (fromBeBytes [byteAt buf 8, byteAt buf 9, byteAt buf 10, byteAt buf 11,
        byteAt buf 12, byteAt buf 13, byteAt buf 14, byteAt buf 15])
      let payloadLen := fromBeBytes [byteAt buf 16, byteAt buf 17, byteAt buf 18, byteAt buf 19]
      if payloadLen > Stream.maxPayloadLen then .error .payloadTooLarge
      else if buf.length ≠ binaryHeaderLen + payloadLen then .error .lengthMismatch
      else match BinaryFrameKind.fromU8 kindByte with
        | none => .error .unknownKind
        | some kind => .ok { kind := kind, seq := seq, payload := buf.drop binaryHeaderLen }

end Rust

/-! ## The client's codec -/

namespace Ts

def binaryHeaderLen : Nat := 20

def binaryMaxPayloadLen : Nat := 1024 * 1024

inductive BinaryFrameKind where
  | output | input
  deriving DecidableEq, Repr

def kindToByte : BinaryFrameKind → UInt8
  | .output => 0x01
  | .input => 0x02

def kindFromByte (byte : UInt8) : Option BinaryFrameKind :=
  if byte = 0x01 then some .output else if byte = 0x02 then some .input else none

structure BinaryFrame where
  kind : BinaryFrameKind
  seq : Nat
  payload : List UInt8
  deriving DecidableEq, Repr

inductive BinaryDecodeFailure where
  | truncatedHeader | badMagic | nonZeroReserved | payloadTooLarge | lengthMismatch | unknownKind
  deriving DecidableEq, Repr

inductive BinaryEncodeFailure where
  | payloadTooLarge
  deriving DecidableEq, Repr

/-- The four bytes the encoder stores of a number: `(x >>> 24) & 0xff` and so on. -/
def wordBytes (x : Nat) : List UInt8 :=
  [toUint8 (bitAnd (ushr x 24) 0xff), toUint8 (bitAnd (ushr x 16) 0xff), toUint8 (bitAnd (ushr x 8) 0xff),
    toUint8 (bitAnd x 0xff)]

def encodeBinaryFrame (kind : BinaryFrameKind) (seq : Nat) (payload : List UInt8) :
    Except BinaryEncodeFailure (List UInt8) :=
  if payload.length > binaryMaxPayloadLen then .error .payloadTooLarge
  else
    -- `Math.floor(seq / 0x100000000)`; dividing by a power of two is exact
    let high := seq / 0x100000000
    let low := ushr seq 0
    let len := ushr payload.length 0
    .ok ([0x52, 0x54, 0x42, 0x31, kindToByte kind, 0, 0, 0] ++ wordBytes high ++ wordBytes low ++ wordBytes len
      ++ payload)

/-- A byte of a `Uint8Array` as a number. -/
def numAt (buf : List UInt8) (i : Nat) : Int := ((byteAt buf i).toNat : Nat)

def decodeBinaryFrame (buf : List UInt8) : Except BinaryDecodeFailure BinaryFrame :=
  if buf.length < binaryHeaderLen then .error .truncatedHeader
  else if byteAt buf 0 ≠ 0x52 ∨ byteAt buf 1 ≠ 0x54 ∨ byteAt buf 2 ≠ 0x42 ∨ byteAt buf 3 ≠ 0x31 then .error .badMagic
  else
    let kindByte := byteAt buf 4
    let flags := byteAt buf 5
    let reservedHi := byteAt buf 6
    let reservedLo := byteAt buf 7
    if flags ≠ 0 ∨ reservedHi ≠ 0 ∨ reservedLo ≠ 0 then .error .nonZeroReserved
    else
      let high := bitOr (bitOr (bitOr (shl (numAt buf 8) 24) (shl (numAt buf 9) 16)) (shl (numAt buf 10) 8))
        (numAt buf 11)
      let low := bitOr (bitOr (bitOr (ushr (shl (numAt buf 12) 24) 0) (shl (numAt buf 13) 16)) (shl (numAt buf 14) 8))
        (numAt buf 15)
      let seq := add (mul (ushr high 0) 0x100000000) (ushr low 0)
      let lenHigh := bitOr (bitOr (bitOr (ushr (shl (numAt buf 16) 24) 0) (shl (numAt buf 17) 16))
        (shl (numAt buf 18) 8)) (numAt buf 19)
      let payloadLen := ushr lenHigh 0
      if payloadLen > binaryMaxPayloadLen then .error .payloadTooLarge
      else if buf.length ≠ binaryHeaderLen + payloadLen then .error .lengthMismatch
      else match kindFromByte kindByte with
        | none => .error .unknownKind
        | some kind =>
          .ok { kind := kind, seq := seq, payload := (buf.drop binaryHeaderLen).take payloadLen }

end Ts

/-! ## What the two have in common -/

def Rust.BinaryFrameKind.toTs : Rust.BinaryFrameKind → Ts.BinaryFrameKind
  | .output => .output
  | .input => .input

def Rust.BinaryFrameDecodeError.toTs : Rust.BinaryFrameDecodeError → Ts.BinaryDecodeFailure
  | .truncatedHeader => .truncatedHeader
  | .badMagic => .badMagic
  | .nonZeroReserved => .nonZeroReserved
  | .payloadTooLarge => .payloadTooLarge
  | .lengthMismatch => .lengthMismatch
  | .unknownKind => .unknownKind

/-- Both decoders take the buffer for the same frame, or refuse it alike. The
client's `seq` is exact below `2 ^ 53`. -/
def SameDecode : Except Rust.BinaryFrameDecodeError Rust.BinaryFrame →
    Except Ts.BinaryDecodeFailure Ts.BinaryFrame → Prop
  | .ok f, .ok g => g.kind = f.kind.toTs ∧ g.payload = f.payload ∧ (f.seq.toNat < 2 ^ 53 → g.seq = f.seq.toNat)
  | .error e, .error failure => failure = e.toTs
  | _, _ => False

/-- Both encoders write the same bytes, or both refuse the payload. -/
def SameEncode : Except Rust.BinaryFrameDecodeError (List UInt8) → Except Ts.BinaryEncodeFailure (List UInt8) → Prop
  | .ok bytes, .ok bytes' => bytes = bytes'
  | .error e, .error .payloadTooLarge => e = .payloadTooLarge
  | _, _ => False

/-! ## Header fields -/

theorem headerLen_eq : Ts.binaryHeaderLen = Rust.binaryHeaderLen := rfl

theorem maxPayloadLen_eq : Ts.binaryMaxPayloadLen = Stream.maxPayloadLen := rfl

theorem fromBeBytes_two (a b : UInt8) : fromBeBytes [a, b] = a.toNat * 256 + b.toNat := by
  simp [fromBeBytes]

theorem fromBeBytes_four (a b c d : UInt8) : fromBeBytes [a, b, c, d] = (word a b c d).toNat := by
  rw [toNat_word]
  simp [fromBeBytes]

theorem fromBeBytes_eight (a b c d e f g h : UInt8) :
    fromBeBytes [a, b, c, d, e, f, g, h] = (word a b c d).toNat * 0x100000000 + (word e f g h).toNat := by
  rw [toNat_word, toNat_word]
  simp only [fromBeBytes, List.foldl_cons, List.foldl_nil]
  ring

/-- How the client reads a word. -/
theorem ushr_bitOr_bytes (a b c d : UInt8) :
    ushr (bitOr (bitOr (bitOr (shl (a.toNat : Nat) 24) (shl (b.toNat : Nat) 16)) (shl (c.toNat : Nat) 8))
      (d.toNat : Nat)) 0 = (word a b c d).toNat := by
  unfold ushr
  simp only [bits_bitOr, bits_shl, BitVec.ushiftRight_zero]
  rfl

/-- Making the first shift unsigned changes nothing. -/
theorem ushr_bitOr_bytes_unsigned (a b c d : UInt8) :
    ushr (bitOr (bitOr (bitOr (ushr (shl (a.toNat : Nat) 24) 0) (shl (b.toNat : Nat) 16)) (shl (c.toNat : Nat) 8))
      (d.toNat : Nat)) 0 = (word a b c d).toNat := by
  unfold ushr
  simp only [bits_bitOr, bits_shl, bits_natCast, BitVec.ushiftRight_zero, BitVec.ofNat_toNat, BitVec.setWidth_eq]
  rfl

theorem take_four {buf : List UInt8} (h : 4 ≤ buf.length) :
    buf.take 4 = [byteAt buf 0, byteAt buf 1, byteAt buf 2, byteAt buf 3] := by
  match buf, h with
  | a :: b :: c :: d :: rest, _ => rfl

theorem magic_iff {buf : List UInt8} (h : ¬ buf.length < Rust.binaryHeaderLen) :
    buf.take 4 ≠ Rust.binaryMagicV1 ↔
      byteAt buf 0 ≠ 0x52 ∨ byteAt buf 1 ≠ 0x54 ∨ byteAt buf 2 ≠ 0x42 ∨ byteAt buf 3 ≠ 0x31 := by
  have hfour : 4 ≤ buf.length := by
    unfold Rust.binaryHeaderLen at h
    omega
  rw [take_four hfour]
  simp only [Rust.binaryMagicV1, ne_eq, List.cons.injEq, and_true]
  tauto

theorem reserved_iff (flags hi lo : UInt8) :
    (flags ≠ 0 ∨ fromBeBytes [hi, lo] ≠ 0) ↔ (flags ≠ 0 ∨ hi ≠ 0 ∨ lo ≠ 0) := by
  have hzero : ∀ b : UInt8, b = 0 ↔ b.toNat = 0 := fun b => by
    rw [← UInt8.toNat_inj]
    rfl
  have hpair : fromBeBytes [hi, lo] ≠ 0 ↔ hi ≠ 0 ∨ lo ≠ 0 := by
    rw [fromBeBytes_two, ne_eq, ne_eq, ne_eq, hzero hi, hzero lo]
    omega
  rw [hpair]

theorem kindFromByte_eq (byte : UInt8) :
    Ts.kindFromByte byte = (Rust.BinaryFrameKind.fromU8 byte).map Rust.BinaryFrameKind.toTs := by
  unfold Ts.kindFromByte Rust.BinaryFrameKind.fromU8
  split
  · rfl
  · split <;> rfl

theorem fromU8_asU8 (kind : Rust.BinaryFrameKind) : Rust.BinaryFrameKind.fromU8 kind.asU8 = some kind := by
  cases kind <;> rfl

theorem kindToByte_toTs (kind : Rust.BinaryFrameKind) : Ts.kindToByte kind.toTs = kind.asU8 := by
  cases kind <;> rfl

/-! ## Decoding -/

/-- A sequence number below `2 ^ 53` reaches the client unrounded. -/
theorem exact_seq {high low : BitVec 32}
    (h : (UInt64.ofNat (high.toNat * 0x100000000 + low.toNat)).toNat < 2 ^ 53) :
    add (mul high.toNat 0x100000000) low.toNat = (UInt64.ofNat (high.toNat * 0x100000000 + low.toNat)).toNat := by
  have hhigh := high.isLt
  have hlow := low.isLt
  have hseq : (UInt64.ofNat (high.toNat * 0x100000000 + low.toNat)).toNat = high.toNat * 0x100000000 + low.toNat :=
    UInt64.toNat_ofNat_of_lt' (show _ < 2 ^ 64 by omega)
  rw [hseq] at h ⊢
  exact add_mul_of_lt h

/-- The decoders make the same checks in the same order. -/
theorem decode_same (buf : List UInt8) : SameDecode (Rust.decodeBinaryFrame buf) (Ts.decodeBinaryFrame buf) := by
  unfold Rust.decodeBinaryFrame Ts.decodeBinaryFrame
  simp only [headerLen_eq, maxPayloadLen_eq, Ts.numAt, ushr_bitOr_bytes, ushr_bitOr_bytes_unsigned, fromBeBytes_four,
    fromBeBytes_eight]
  by_cases hshort : buf.length < Rust.binaryHeaderLen
  · rw [if_pos hshort, if_pos hshort]
    rfl
  rw [if_neg hshort, if_neg hshort]
  by_cases hmagic : buf.take 4 ≠ Rust.binaryMagicV1
  · rw [if_pos hmagic, if_pos ((magic_iff hshort).mp hmagic)]
    rfl
  rw [if_neg hmagic, if_neg (mt (magic_iff hshort).mpr hmagic)]
  by_cases hres : byteAt buf 5 ≠ 0 ∨ fromBeBytes [byteAt buf 6, byteAt buf 7] ≠ 0
  · rw [if_pos hres, if_pos ((reserved_iff _ _ _).mp hres)]
    rfl
  rw [if_neg hres, if_neg (mt (reserved_iff _ _ _).mpr hres)]
  generalize word (byteAt buf 16) (byteAt buf 17) (byteAt buf 18) (byteAt buf 19) = len
  by_cases hlarge : len.toNat > Stream.maxPayloadLen
  · rw [if_pos hlarge, if_pos hlarge]
    rfl
  rw [if_neg hlarge, if_neg hlarge]
  by_cases hlen : buf.length ≠ Rust.binaryHeaderLen + len.toNat
  · rw [if_pos hlen, if_pos hlen]
    rfl
  rw [if_neg hlen, if_neg hlen, kindFromByte_eq]
  cases Rust.BinaryFrameKind.fromU8 (byteAt buf 4) with
  | none => rfl
  | some kind =>
    refine ⟨rfl, ?_, ?_⟩
    · show (buf.drop Rust.binaryHeaderLen).take len.toNat = buf.drop Rust.binaryHeaderLen
      rw [List.take_of_length_le]
      rw [List.length_drop]
      omega
    · intro hsafe
      exact exact_seq hsafe

/-! ## Encoding -/

/-- The four bytes of a word are its big-endian bytes. -/
theorem wordBytes_eq {x : Nat} (h : x < 2 ^ 32) : Ts.wordBytes x = toBeBytes 4 x := by
  unfold Ts.wordBytes
  rw [toUint8_bitAnd_ushr, toUint8_bitAnd_ushr, toUint8_bitAnd_ushr, toUint8_bitAnd, Nat.mod_eq_of_lt h]
  simp [toBeBytes]

/-- The client cuts `seq` in two words before it takes the bytes. -/
theorem wordBytes_append {seq : Nat} (h : seq < 2 ^ 53) :
    Ts.wordBytes (seq / 0x100000000) ++ Ts.wordBytes (ushr seq 0) = toBeBytes 8 seq := by
  rw [ushr_zero, wordBytes_eq (by omega), wordBytes_eq (by omega)]
  simp only [toBeBytes, List.cons_append, List.nil_append, List.cons.injEq, and_true]
  refine ⟨?_, ?_, ?_, ?_, ?_, ?_, ?_, ?_⟩ <;> exact ofNat_eq_of_mod (by omega)

theorem encode_same (kind : Rust.BinaryFrameKind) {seq : Nat} (h : seq < 2 ^ 53) (payload : List UInt8) :
    SameEncode (Rust.encodeBinaryFrame kind (UInt64.ofNat seq) payload)
      (Ts.encodeBinaryFrame kind.toTs seq payload) := by
  unfold Rust.encodeBinaryFrame Ts.encodeBinaryFrame
  rw [maxPayloadLen_eq]
  by_cases hlarge : payload.length > Stream.maxPayloadLen
  · rw [if_pos hlarge, if_pos hlarge]
    rfl
  rw [if_neg hlarge, if_neg hlarge]
  have hlen : payload.length < 2 ^ 32 := by
    unfold Stream.maxPayloadLen at hlarge
    omega
  have hseq : (UInt64.ofNat seq).toNat = seq := UInt64.toNat_ofNat_of_lt' (show _ < 2 ^ 64 by omega)
  have hword : Ts.wordBytes (ushr payload.length 0) = toBeBytes 4 payload.length := by
    rw [ushr_zero, Nat.mod_eq_of_lt hlen, wordBytes_eq hlen]
  show _ ++ toBeBytes 8 (UInt64.ofNat seq).toNat ++ _ ++ _ =
    [0x52, 0x54, 0x42, 0x31, Ts.kindToByte kind.toTs, 0, 0, 0] ++ Ts.wordBytes (seq / 0x100000000)
      ++ Ts.wordBytes (ushr seq 0) ++ Ts.wordBytes (ushr payload.length 0) ++ payload
  rw [hseq, hword, kindToByte_toTs, List.append_assoc [0x52, 0x54, 0x42, 0x31, _, 0, 0, 0], wordBytes_append h]
  rfl

/-- The server's and the client's codec are one wire format: every buffer is
decoded alike, every frame a client can number is encoded alike. -/
theorem codecs_agree :
    (∀ buf, SameDecode (Rust.decodeBinaryFrame buf) (Ts.decodeBinaryFrame buf)) ∧
    ∀ (kind : Rust.BinaryFrameKind) (payload : List UInt8) (seq : Nat), seq < 2 ^ 53 →
      SameEncode (Rust.encodeBinaryFrame kind (UInt64.ofNat seq) payload)
        (Ts.encodeBinaryFrame kind.toTs seq payload) :=
  ⟨decode_same, fun kind payload _ h => encode_same kind h payload⟩

/-- The last exact sequence number, all of whose low bytes are negative when shifted. -/
theorem codecs_agree_last_exact :
    SameEncode (Rust.encodeBinaryFrame .output (UInt64.ofNat 0x1fffffffffffff) [0x68, 0x69])
      (Ts.encodeBinaryFrame .output 0x1fffffffffffff [0x68, 0x69]) ∧
    Ts.decodeBinaryFrame [0x52, 0x54, 0x42, 0x31, 1, 0, 0, 0, 0, 0x1f, 0xff, 0xff, 0xff, 0xff, 0xff, 0xff,
      0, 0, 0, 2, 0x68, 0x69] = .ok { kind := .output, seq := 0x1fffffffffffff, payload := [0x68, 0x69] } :=
  ⟨codecs_agree.2 .output [0x68, 0x69] 0x1fffffffffffff (by decide), by decide +kernel⟩

/-! ## Round trip -/

/-- What the server encodes it decodes again. -/
theorem decode_encode {kind : Rust.BinaryFrameKind} {seq : UInt64} {payload bytes : List UInt8}
    (h : Rust.encodeBinaryFrame kind seq payload = .ok bytes) :
    Rust.decodeBinaryFrame bytes = .ok { kind := kind, seq := seq, payload := payload } := by
  unfold Rust.encodeBinaryFrame at h
  split at h
  · cases h
  · rename_i hlarge
    injection h with hbytes
    have hlen : fromBeBytes (toBeBytes 4 payload.length) = payload.length := by
      apply fromBeBytes_toBeBytes
      unfold Stream.maxPayloadLen at hlarge
      omega
    have htotal : bytes.length = Rust.binaryHeaderLen + payload.length := by
      subst hbytes
      simp only [Rust.binaryMagicV1, Rust.binaryHeaderLen, List.length_append, List.length_cons, List.length_nil,
        length_toBeBytes]
    -- every field is read where it was written
    have hmagic : bytes.take 4 = Rust.binaryMagicV1 := by subst hbytes; rfl
    have hkind : byteAt bytes 4 = kind.asU8 := by subst hbytes; rfl
    have hflags : byteAt bytes 5 = 0 := by subst hbytes; rfl
    have hreserved : fromBeBytes [byteAt bytes 6, byteAt bytes 7] = 0 := by
      subst hbytes
      exact fromBeBytes_two 0 0
    have hseq : fromBeBytes [byteAt bytes 8, byteAt bytes 9, byteAt bytes 10, byteAt bytes 11, byteAt bytes 12,
        byteAt bytes 13, byteAt bytes 14, byteAt bytes 15] = seq.toNat := by
      subst hbytes
      have hwide : seq.toNat < 256 ^ 8 := by
        have := seq.toNat_lt
        omega
      exact fromBeBytes_toBeBytes hwide
    have hclaimed : fromBeBytes [byteAt bytes 16, byteAt bytes 17, byteAt bytes 18, byteAt bytes 19] =
        payload.length := by
      subst hbytes
      exact hlen
    have hpayload : bytes.drop Rust.binaryHeaderLen = payload := by subst hbytes; rfl
    unfold Rust.decodeBinaryFrame
    simp only [hkind, hflags, hreserved, hseq, hclaimed, hpayload]
    rw [if_neg (by omega), if_neg (not_not_intro hmagic), if_neg (by simp), if_neg hlarge,
      if_neg (not_not_intro htotal), fromU8_asU8, UInt64.ofNat_toNat]

theorem asU8_fromU8 {byte : UInt8} {kind : Rust.BinaryFrameKind}
    (h : Rust.BinaryFrameKind.fromU8 byte = some kind) : kind.asU8 = byte := by
  unfold Rust.BinaryFrameKind.fromU8 at h
  split at h
  · next hout =>
    cases h
    exact hout.symm
  · obtain ⟨hin, hkind⟩ := Option.ite_none_right_eq_some.1 h
    cases hkind
    exact hin.symm

theorem drop_eq_bytes {buf : List UInt8} (n i : Nat) (h : i + n ≤ buf.length) :
    buf.drop i = (List.range' i n).map (byteAt buf) ++ buf.drop (i + n) := by
  induction n generalizing i with
  | zero => rfl
  | succ n ih =>
    have hi : i < buf.length := by omega
    have hbyte : byteAt buf i = buf[i] := List.getD_eq_getElem buf 0 hi
    rw [List.drop_eq_getElem_cons hi, ih (i + 1) (by omega), List.range'_succ, List.map_cons, List.cons_append, hbyte,
      show i + 1 + n = i + (n + 1) by omega]

/-- The bytes of the two numbers in the header. -/
abbrev seqBytes (buf : List UInt8) : List UInt8 :=
  [byteAt buf 8, byteAt buf 9, byteAt buf 10, byteAt buf 11, byteAt buf 12, byteAt buf 13, byteAt buf 14, byteAt buf 15]

abbrev lenBytes (buf : List UInt8) : List UInt8 := [byteAt buf 16, byteAt buf 17, byteAt buf 18, byteAt buf 19]

/-- A buffer is its header fields and what follows them. -/
theorem eq_fields {buf : List UInt8} (h : Rust.binaryHeaderLen ≤ buf.length) :
    buf = buf.take 4 ++ [byteAt buf 4] ++ [byteAt buf 5] ++ [byteAt buf 6, byteAt buf 7] ++ seqBytes buf
      ++ lenBytes buf ++ buf.drop Rust.binaryHeaderLen := by
  have hrest := drop_eq_bytes 16 4 (show 4 + 16 ≤ buf.length from h)
  simp only [List.append_assoc]
  exact (List.take_append_drop 4 buf).symm.trans (congrArg (buf.take 4 ++ ·) hrest)

/-- What the server's decoder has checked of a buffer it accepts. -/
structure Accepted (buf : List UInt8) (frame : Rust.BinaryFrame) : Prop where
  header : Rust.binaryHeaderLen ≤ buf.length
  magic : buf.take 4 = Rust.binaryMagicV1
  kind : Rust.BinaryFrameKind.fromU8 (byteAt buf 4) = some frame.kind
  reserved : byteAt buf 5 = 0 ∧ byteAt buf 6 = 0 ∧ byteAt buf 7 = 0
  seq : frame.seq = UInt64.ofNat (fromBeBytes (seqBytes buf))
  small : fromBeBytes (lenBytes buf) ≤ Stream.maxPayloadLen
  length : buf.length = Rust.binaryHeaderLen + fromBeBytes (lenBytes buf)
  payload : frame.payload = buf.drop Rust.binaryHeaderLen

theorem decode_accepted {buf : List UInt8} {frame : Rust.BinaryFrame} (h : Rust.decodeBinaryFrame buf = .ok frame) :
    Accepted buf frame := by
  simp only [Rust.decodeBinaryFrame] at h
  by_cases hshort : buf.length < Rust.binaryHeaderLen
  · rw [if_pos hshort] at h
    cases h
  rw [if_neg hshort] at h
  by_cases hmagic : buf.take 4 ≠ Rust.binaryMagicV1
  · rw [if_pos hmagic] at h
    cases h
  rw [if_neg hmagic] at h
  by_cases hres : byteAt buf 5 ≠ 0 ∨ fromBeBytes [byteAt buf 6, byteAt buf 7] ≠ 0
  · rw [if_pos hres] at h
    cases h
  rw [if_neg hres] at h
  by_cases hlarge : fromBeBytes (lenBytes buf) > Stream.maxPayloadLen
  · rw [if_pos hlarge] at h
    cases h
  rw [if_neg hlarge] at h
  by_cases hlen : buf.length ≠ Rust.binaryHeaderLen + fromBeBytes (lenBytes buf)
  · rw [if_pos hlen] at h
    cases h
  rw [if_neg hlen] at h
  cases hkind : Rust.BinaryFrameKind.fromU8 (byteAt buf 4) with
  | none =>
    rw [hkind] at h
    cases h
  | some kind =>
    rw [hkind] at h
    cases h
    rw [reserved_iff] at hres
    push Not at hshort hmagic hres hlarge hlen
    exact ⟨hshort, hmagic, hkind, hres, rfl, hlarge, hlen, rfl⟩

/-- What the server accepts is what it would encode. -/
theorem encode_decode {buf : List UInt8} {frame : Rust.BinaryFrame} (h : Rust.decodeBinaryFrame buf = .ok frame) :
    Rust.encodeBinaryFrame frame.kind frame.seq frame.payload = .ok buf := by
  have hbuf := decode_accepted h
  have hlen : frame.payload.length = fromBeBytes (lenBytes buf) := by
    have := hbuf.length
    rw [hbuf.payload, List.length_drop]
    omega
  have hseq : frame.seq.toNat = fromBeBytes (seqBytes buf) := by
    have hlt : fromBeBytes (seqBytes buf) < 256 ^ 8 := fromBeBytes_lt (seqBytes buf)
    rw [hbuf.seq]
    exact UInt64.toNat_ofNat_of_lt' (show _ < 2 ^ 64 by omega)
  have hseqBytes : toBeBytes 8 frame.seq.toNat = seqBytes buf := by
    rw [hseq]
    exact toBeBytes_fromBeBytes (seqBytes buf)
  have hlenBytes : toBeBytes 4 frame.payload.length = lenBytes buf := by
    rw [hlen]
    exact toBeBytes_fromBeBytes (lenBytes buf)
  rw [Rust.encodeBinaryFrame, if_neg (by rw [hlen]; exact Nat.not_lt.2 hbuf.small)]
  congr 1
  conv_rhs => rw [eq_fields hbuf.header, hbuf.magic, hbuf.reserved.1, hbuf.reserved.2.1, hbuf.reserved.2.2]
  rw [asU8_fromU8 hbuf.kind, hseqBytes, hlenBytes, hbuf.payload]

theorem encode_fails_iff (kind : Rust.BinaryFrameKind) (seq : UInt64) (payload : List UInt8) :
    (∃ err, Rust.encodeBinaryFrame kind seq payload = .error err) ↔ payload.length > Stream.maxPayloadLen := by
  unfold Rust.encodeBinaryFrame
  by_cases hlarge : payload.length > Stream.maxPayloadLen
  · simp [hlarge]
  · simp [hlarge]

/-- The server's codec is a bijection onto what it accepts. -/
theorem codec_bijective :
    (∀ (kind : Rust.BinaryFrameKind) (seq : UInt64) (payload : List UInt8),
      ((∃ err, Rust.encodeBinaryFrame kind seq payload = .error err) ↔ payload.length > Stream.maxPayloadLen) ∧
      ∀ bytes, Rust.encodeBinaryFrame kind seq payload = .ok bytes →
        Rust.decodeBinaryFrame bytes = .ok { kind := kind, seq := seq, payload := payload }) ∧
    ∀ (buf : List UInt8) (frame : Rust.BinaryFrame), Rust.decodeBinaryFrame buf = .ok frame →
      Rust.encodeBinaryFrame frame.kind frame.seq frame.payload = .ok buf :=
  ⟨fun kind seq payload => ⟨encode_fails_iff kind seq payload, fun _ => decode_encode⟩, fun _ _ => encode_decode⟩

/-- The bytes of a keystroke with the largest sequence number. -/
def largestSeq : List UInt8 :=
  [0x52, 0x54, 0x42, 0x31, 2, 0, 0, 0, 0xff, 0xff, 0xff, 0xff, 0xff, 0xff, 0xff, 0xff, 0, 0, 0, 1, 0x68]

theorem codec_bijective_largest :
    Rust.decodeBinaryFrame largestSeq = .ok { kind := .input, seq := 0xffffffffffffffff, payload := [0x68] } ∧
      Rust.encodeBinaryFrame .input 0xffffffffffffffff [0x68] = .ok largestSeq := by
  have hdecode := (codec_bijective.1 .input 0xffffffffffffffff [0x68]).2 largestSeq rfl
  exact ⟨hdecode, codec_bijective.2 largestSeq _ hdecode⟩

/-- A frame the socket puts on the data plane is one the server's encoder writes
and its decoder reads back. -/
theorem binaryOutput_encodes {frame : Stream.OutputFrame} {msg : Stream.ServerFrame}
    (h : Stream.binaryOutput frame = some msg) :
    ∃ bytes, Rust.encodeBinaryFrame .output (UInt64.ofNat frame.seq) frame.data = .ok bytes ∧
      Rust.decodeBinaryFrame bytes =
        .ok { kind := .output, seq := UInt64.ofNat frame.seq, payload := frame.data } := by
  unfold Stream.binaryOutput at h
  split at h
  · cases h
  · rename_i hfit
    have henc : ∃ bytes, Rust.encodeBinaryFrame .output (UInt64.ofNat frame.seq) frame.data = .ok bytes := by
      unfold Rust.encodeBinaryFrame
      rw [if_neg hfit]
      exact ⟨_, rfl⟩
    obtain ⟨bytes, henc⟩ := henc
    exact ⟨bytes, henc, decode_encode henc⟩

end RelayTerm.Wire
