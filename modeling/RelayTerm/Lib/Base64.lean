import Mathlib.Data.List.Nodup
/-!
# Base64

Three bytes are four sextets, and what is left over at the end is padded with
zero bits; an alphabet spells the sextets, and `=` fills up the last four. The
forgiving decoder of browsers drops whitespace first, does without padding and
does not look at the bits that are left over.
-/

namespace RelayTerm.Lib.Base64

/-! ## Bytes and sextets -/

def sextet (n : Nat) : Fin 64 := Fin.ofNat 64 n

def toSextets : List UInt8 → List (Fin 64)
  | a :: b :: c :: rest =>
    sextet (a.toNat / 4) :: sextet (a.toNat * 0x10 + b.toNat / 0x10) :: sextet (b.toNat * 4 + c.toNat / 0x40) ::
      sextet c.toNat :: toSextets rest
  | [a, b] => [sextet (a.toNat / 4), sextet (a.toNat * 0x10 + b.toNat / 0x10), sextet (b.toNat * 4)]
  | [a] => [sextet (a.toNat / 4), sextet (a.toNat * 0x10)]
  | [] => []

def fromSextets : List (Fin 64) → Option (List UInt8)
  | s :: t :: u :: v :: rest => (fromSextets rest).map fun bytes =>
      UInt8.ofNat (s * 4 + t / 0x10) :: UInt8.ofNat (t * 0x10 + u / 4) :: UInt8.ofNat (u * 0x40 + v) :: bytes
  | [s, t, u] => some [UInt8.ofNat (s * 4 + t / 0x10), UInt8.ofNat (t * 0x10 + u / 4)]
  | [s, t] => some [UInt8.ofNat (s * 4 + t / 0x10)]
  | [_] => none
  | [] => some []

theorem ofNat_eq {n : Nat} {a : UInt8} (h : n % 256 = a.toNat) : UInt8.ofNat n = a :=
  UInt8.toNat_inj.1 (by simpa using h)

@[simp] theorem val_sextet (n : Nat) : (sextet n).val = n % 64 := rfl

theorem fromSextets_toSextets (bytes : List UInt8) : fromSextets (toSextets bytes) = some bytes := by
  fun_induction toSextets bytes with
  | case1 a b c rest ih =>
    have ha := a.toNat_lt
    have hb := b.toNat_lt
    have hc := c.toNat_lt
    simp only [fromSextets, ih, val_sextet, Option.map_some, Option.some.injEq, List.cons.injEq, and_true]
    exact ⟨ofNat_eq (by omega), ofNat_eq (by omega), ofNat_eq (by omega)⟩
  | case2 a b =>
    have ha := a.toNat_lt
    have hb := b.toNat_lt
    simp only [fromSextets, val_sextet, Option.some.injEq, List.cons.injEq, and_true]
    exact ⟨ofNat_eq (by omega), ofNat_eq (by omega)⟩
  | case3 a =>
    have ha := a.toNat_lt
    simp only [fromSextets, val_sextet, Option.some.injEq, List.cons.injEq, and_true]
    exact ofNat_eq (by omega)
  | case4 => rfl

/-- Four sextets for every three bytes, and one more than the bytes left over. -/
theorem length_toSextets (bytes : List UInt8) : (toSextets bytes).length = (bytes.length * 4 + 2) / 3 := by
  fun_induction toSextets bytes with
  | case1 a b c rest ih =>
    simp only [List.length_cons, ih]
    omega
  | case2 | case3 | case4 => simp

/-! ## Alphabets -/

structure Alphabet where
  letters : List Char
  length_eq : letters.length = 64
  nodup : letters.Nodup
  pad_free : '=' ∉ letters

namespace Alphabet

variable (a : Alphabet)

def letter (s : Fin 64) : Char := a.letters.get (s.cast a.length_eq.symm)

def sextet? (c : Char) : Option (Fin 64) := (a.letters.finIdxOf? c).map (·.cast a.length_eq)

theorem sextet?_letter (s : Fin 64) : a.sextet? (a.letter s) = some s := by
  simp only [sextet?, letter, Option.map_eq_some_iff, List.finIdxOf?_eq_some_iff]
  refine ⟨s.cast a.length_eq.symm, ⟨rfl, fun j hj heq => ?_⟩, rfl⟩
  have hsame := List.nodup_iff_injective_get.1 a.nodup heq
  exact absurd (hsame ▸ hj) (Nat.lt_irrefl _)

theorem letter_ne_pad (s : Fin 64) : a.letter s ≠ '=' :=
  fun h => a.pad_free (h ▸ List.get_mem a.letters _)

theorem sextets?_letters (sextets : List (Fin 64)) : (sextets.map a.letter).mapM a.sextet? = some sextets := by
  induction sextets with
  | nil => rfl
  | cons s sextets ih => simp [List.mapM_cons, sextet?_letter, ih]

end Alphabet

def standard : Alphabet :=
  ⟨"ABCDEFGHIJKLMNOPQRSTUVWXYZabcdefghijklmnopqrstuvwxyz0123456789+/".toList,
    by decide +kernel, by decide +kernel, by decide +kernel⟩

/-! ## Texts -/

/-- What fills up the last four letters. -/
def padding (len : Nat) : List Char := List.replicate ((4 - len % 4) % 4) '='

def encode (a : Alphabet) (bytes : List UInt8) : List Char :=
  let letters := (toSextets bytes).map a.letter
  letters ++ padding letters.length

def isAsciiWhitespace (c : Char) : Bool := c = ' ' || c = '\t' || c = '\n' || c = '\x0c' || c = '\r'

/-- At most two `=` are dropped, from a text whose length is a multiple of four. -/
def stripPadding (text : List Char) : List Char :=
  if text.length % 4 = 0 then
    if ['=', '='] <:+ text then text.take (text.length - 2)
    else if ['='] <:+ text then text.take (text.length - 1)
    else text
  else text

/-- `atob`. -/
def forgivingDecode (text : List Char) : Option (List UInt8) :=
  ((stripPadding (text.filter (!isAsciiWhitespace ·))).mapM standard.sextet?).bind fromSextets

/-! ## Browsers read it -/

theorem filter_encode (bytes : List UInt8) :
    (encode standard bytes).filter (!isAsciiWhitespace ·) = encode standard bytes := by
  have hvisible : ('=' :: standard.letters).all (!isAsciiWhitespace ·) = true := by decide +kernel
  refine List.filter_eq_self.2 fun c hc => List.all_eq_true.1 hvisible c ?_
  rcases List.mem_append.1 hc with hletter | hpad
  · obtain ⟨s, -, rfl⟩ := List.mem_map.1 hletter
    exact List.mem_cons_of_mem _ (List.get_mem _ _)
  · obtain rfl : c = '=' := List.eq_of_mem_replicate hpad
    exact List.mem_cons_self

theorem pad_not_suffix {letters : List Char} (h : '=' ∉ letters) (rest : List Char) : ¬ '=' :: rest <:+ letters :=
  fun hsuffix => h (hsuffix.subset List.mem_cons_self)

theorem stripPadding_padded {letters : List Char} (h : '=' ∉ letters) (hlen : letters.length % 4 ≠ 1) :
    stripPadding (letters ++ padding letters.length) = letters := by
  obtain hmod | hmod | hmod : letters.length % 4 = 0 ∨ letters.length % 4 = 3 ∨ letters.length % 4 = 2 := by omega
  · have hpad : padding letters.length = [] := by simp [padding, hmod]
    simp [stripPadding, hpad, hmod, pad_not_suffix h]
  · have hpad : padding letters.length = ['='] := by simp [padding, hmod]
    have hone : ¬ ['=', '='] <:+ letters ++ ['='] := by
      rw [show ['=', '='] = ['='] ++ ['='] from rfl, List.suffix_append_self_iff]
      exact pad_not_suffix h []
    have hfour : (letters.length + 1) % 4 = 0 := by omega
    simp [stripPadding, hpad, hfour, hone]
  · have hpad : padding letters.length = ['=', '='] := by simp [padding, hmod]
    have hfour : (letters.length + 2) % 4 = 0 := by omega
    simp [stripPadding, hpad, hfour]

theorem forgivingDecode_encode (bytes : List UInt8) : forgivingDecode (encode standard bytes) = some bytes := by
  have hletters : '=' ∉ (toSextets bytes).map standard.letter := by
    simp [standard.letter_ne_pad]
  have hlen : ((toSextets bytes).map standard.letter).length % 4 ≠ 1 := by
    rw [List.length_map, length_toSextets]
    omega
  rw [forgivingDecode, filter_encode, encode, stripPadding_padded hletters hlen, standard.sextets?_letters]
  exact fromSextets_toSextets bytes

end RelayTerm.Lib.Base64
