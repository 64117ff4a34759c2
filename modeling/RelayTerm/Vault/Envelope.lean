import Mathlib.Data.List.TakeDrop
import Mathlib.Logic.Basic
/-!
# The vault's envelope

A private key is stored as a magic, a version byte, a nonce and the ciphertext of
XChaCha20-Poly1305 under the master key. The cipher is taken as it is meant to be
used: what `decrypt` accepts is what `encrypt` makes of the plaintext it returns.
-/

namespace RelayTerm.Vault

/-! ## The master key -/

def masterKeyLen : Nat := 32

structure VaultMasterKey where
  bytes : List UInt8
  length : bytes.length = masterKeyLen
  deriving DecidableEq

/-! ## The cipher -/

def magic : List UInt8 := [0x52, 0x54, 0x56, 0x31]
def versionXChaCha20Poly1305Direct : UInt8 := 0x01
def nonceLen : Nat := 24
def headerLen : Nat := magic.length + 1 + nonceLen
def tagLen : Nat := 16

structure Nonce where
  bytes : List UInt8
  length : bytes.length = nonceLen
  deriving DecidableEq

/-- XChaCha20-Poly1305. Encryption fails on plaintexts that are too long. -/
structure Aead where
  encrypt : VaultMasterKey → Nonce → List UInt8 → Option (List UInt8)
  decrypt : VaultMasterKey → Nonce → List UInt8 → Option (List UInt8)
  decrypt_iff : ∀ {key nonce ciphertext plaintext},
    decrypt key nonce ciphertext = some plaintext ↔ encrypt key nonce plaintext = some ciphertext
  length_encrypt : ∀ {key nonce ciphertext plaintext},
    encrypt key nonce plaintext = some ciphertext → ciphertext.length = plaintext.length + tagLen

inductive VaultError where
  | keyGeneration | publicKeySerialization | privateKeySerialization | encrypt | decrypt | blobFormat
  | unsupportedKeyType (tag : String)
  | unsupportedFormat (reason : String)
  deriving DecidableEq, Repr

variable (aead : Aead)

/-- `cipher::encrypt`, with the random nonce it draws. -/
def encrypt (masterKey : VaultMasterKey) (nonce : Nonce) (plaintext : List UInt8) : Except VaultError (List UInt8) :=
  match aead.encrypt masterKey nonce plaintext with
  | none => .error .encrypt
  | some ciphertext => .ok (magic ++ [versionXChaCha20Poly1305Direct] ++ nonce.bytes ++ ciphertext)

/-- `cipher::decrypt`. -/
def decrypt (masterKey : VaultMasterKey) (blob : List UInt8) : Except VaultError (List UInt8) :=
  if hlen : blob.length < headerLen + tagLen then .error .blobFormat
  else if blob.take magic.length ≠ magic then .error .blobFormat
  else if blob.getD magic.length 0 ≠ versionXChaCha20Poly1305Direct then .error .blobFormat
  else
    have hnonce : ((blob.drop (magic.length + 1)).take nonceLen).length = nonceLen := by
      simp only [List.length_take, List.length_drop]
      unfold headerLen tagLen at hlen
      omega
    match aead.decrypt masterKey ⟨(blob.drop (magic.length + 1)).take nonceLen, hnonce⟩ (blob.drop headerLen) with
    | none => .error .decrypt
    | some plaintext => .ok plaintext

/-! ## Both ways -/

theorem encrypt_ok {masterKey : VaultMasterKey} {nonce : Nonce} {plaintext blob : List UInt8} :
    encrypt aead masterKey nonce plaintext = .ok blob ↔
      ∃ ciphertext, aead.encrypt masterKey nonce plaintext = some ciphertext ∧
        blob = magic ++ [versionXChaCha20Poly1305Direct] ++ nonce.bytes ++ ciphertext := by
  unfold encrypt
  split
  · next hnone => simp [hnone]
  · next ciphertext hsome => simp [hsome, eq_comm]

/-- A blob with the header's fields is put together from them. -/
theorem blob_eq {blob : List UInt8} (hlen : headerLen ≤ blob.length) (hmagic : blob.take magic.length = magic)
    (hversion : blob.getD magic.length 0 = versionXChaCha20Poly1305Direct) :
    blob = magic ++ [versionXChaCha20Poly1305Direct] ++ (blob.drop (magic.length + 1)).take nonceLen ++
      blob.drop headerLen := by
  have hbyte : magic.length < blob.length := by
    unfold headerLen at hlen
    omega
  have hversion : blob[magic.length] = versionXChaCha20Poly1305Direct := by
    rw [← hversion, List.getD_eq_getElem?_getD, List.getElem?_eq_getElem hbyte, Option.getD_some]
  calc blob = blob.take magic.length ++ blob.drop magic.length := (List.take_append_drop _ _).symm
    _ = magic ++ (versionXChaCha20Poly1305Direct :: blob.drop (magic.length + 1)) := by
      rw [hmagic, List.drop_eq_getElem_cons hbyte, hversion]
    _ = magic ++ (versionXChaCha20Poly1305Direct :: ((blob.drop (magic.length + 1)).take nonceLen ++
          (blob.drop (magic.length + 1)).drop nonceLen)) := by rw [List.take_append_drop]
    _ = _ := by simp [headerLen, List.drop_drop]

theorem decrypt_encrypt {masterKey : VaultMasterKey} {nonce : Nonce} {plaintext blob : List UInt8}
    (h : encrypt aead masterKey nonce plaintext = .ok blob) : decrypt aead masterKey blob = .ok plaintext := by
  obtain ⟨ciphertext, hcipher, rfl⟩ := (encrypt_ok aead).1 h
  have htag := aead.length_encrypt hcipher
  have hlen : ¬ (magic ++ [versionXChaCha20Poly1305Direct] ++ nonce.bytes ++ ciphertext).length <
      headerLen + tagLen := by
    simp only [List.length_append, List.length_singleton, nonce.length, htag]
    unfold headerLen
    omega
  have hnonce : ((magic ++ [versionXChaCha20Poly1305Direct] ++ nonce.bytes ++ ciphertext).drop
      (magic.length + 1)).take nonceLen = nonce.bytes := by
    rw [List.append_assoc, List.drop_left' (by simp), List.take_left' nonce.length]
  have hrest : (magic ++ [versionXChaCha20Poly1305Direct] ++ nonce.bytes ++ ciphertext).drop headerLen = ciphertext :=
    List.drop_left' (by simp only [headerLen, List.length_append, List.length_singleton, nonce.length])
  unfold decrypt
  rw [dif_neg hlen, if_neg (by simp [magic]), if_neg (by simp [magic])]
  simp only [hnonce, hrest, aead.decrypt_iff.2 hcipher]

/-- **The vault opens exactly what it could have sealed.** A blob decrypts to a
plaintext if and only if it is the envelope of that plaintext under this key, for
the nonce it carries. -/
theorem decrypt_iff_encrypt (masterKey : VaultMasterKey) (blob plaintext : List UInt8) :
    decrypt aead masterKey blob = .ok plaintext ↔ ∃ nonce, encrypt aead masterKey nonce plaintext = .ok blob := by
  constructor
  · intro h
    unfold decrypt at h
    split at h
    · cases h
    split at h
    · cases h
    split at h
    · cases h
    next hlen hmagic hversion =>
    simp only at h
    split at h
    · cases h
    next opened hopen =>
    cases h
    have hheader : headerLen ≤ blob.length := by omega
    exact ⟨_, (encrypt_ok aead).2
      ⟨_, aead.decrypt_iff.1 hopen, blob_eq hheader (not_not.1 hmagic) (not_not.1 hversion)⟩⟩
  · rintro ⟨nonce, h⟩
    exact decrypt_encrypt aead h

/-! ## An instance of the laws -/

/-- What the key and the nonce make of the tag. -/
def keyedTag (key : VaultMasterKey) (nonce : Nonce) : List UInt8 :=
  List.zipWith (· + ·) (key.bytes.take tagLen) (nonce.bytes.take tagLen)

theorem length_keyedTag (key : VaultMasterKey) (nonce : Nonce) : (keyedTag key nonce).length = tagLen := by
  simp [keyedTag, key.length, nonce.length, masterKeyLen, nonceLen, tagLen]

/-- The laws do not ask for secrecy: the plaintext stands in the clear before its tag. -/
def clearAead : Aead where
  encrypt key nonce plaintext := some (plaintext ++ keyedTag key nonce)
  decrypt key nonce ciphertext :=
    if ciphertext.drop (ciphertext.length - tagLen) = keyedTag key nonce then
      some (ciphertext.take (ciphertext.length - tagLen))
    else none
  decrypt_iff := by
    intro key nonce ciphertext plaintext
    constructor
    · intro h
      obtain ⟨htag, hplain⟩ := Option.ite_none_right_eq_some.1 h
      rw [← htag, ← Option.some.inj hplain, List.take_append_drop]
    · intro h
      cases h
      simp [length_keyedTag]
  length_encrypt := by
    intro key nonce ciphertext plaintext h
    cases h
    simp [length_keyedTag]

/-- The blob opens under its own key, and is no envelope of another one. -/
theorem decrypt_iff_encrypt_clear :
    let key : VaultMasterKey := ⟨List.replicate masterKeyLen 1, rfl⟩
    let other : VaultMasterKey := ⟨List.replicate masterKeyLen 2, rfl⟩
    ∃ nonce blob, encrypt clearAead key nonce [1, 2, 3] = .ok blob ∧ decrypt clearAead key blob = .ok [1, 2, 3] ∧
      ∀ nonce', encrypt clearAead other nonce' [1, 2, 3] ≠ .ok blob := by
  intro key other
  refine ⟨⟨List.replicate nonceLen 7, rfl⟩, _, rfl, (decrypt_iff_encrypt clearAead key _ _).2 ⟨_, rfl⟩, ?_⟩
  intro nonce' h
  cases (decrypt_iff_encrypt clearAead other _ _).2 ⟨nonce', h⟩

end RelayTerm.Vault
