import Mathlib.Data.List.DropRight
import Mathlib.Data.List.Forall2
import RelayTerm.HostKey.Entries
/-!
# Who a login is for

A login names its account twice: the throttler counts failures under
`normalize_login_identifier`, which trims and lower-cases ASCII, and the user is
looked up with SQL's `LOWER`, which lower-cases every letter. `validate_email`
does not ask for ASCII, so the two disagree exactly on respellings of letters
outside it.
-/

namespace RelayTerm.Auth

open HostKey (isWhitespace)

/-- The errors of the login route. -/
inductive LoginApiError where
  | validation (message : String)
  | tooManyRequests (detail : String)
  | unauthorized (detail : String)
  /-- A repository or auth-service error. -/
  | internal
  deriving DecidableEq, Repr

/-! ## The request body -/

def passwordMinLen : Nat := 12
def passwordMaxLen : Nat := 1024
def emailMaxLen : Nat := 320

structure LoginRequest where
  email : String
  password : String
  deriving DecidableEq, Repr

def validateEmail (value : String) : Except LoginApiError Unit :=
  if value.utf8ByteSize = 0 || value.utf8ByteSize > emailMaxLen then .error (.validation "email is invalid")
  else if value.toList.count '@' ≠ 1 || value.toList.head? = some '@' || value.toList.getLast? = some '@' then
    .error (.validation "email is invalid")
  else .ok ()

def validatePassword (value : String) : Except LoginApiError Unit :=
  if value.utf8ByteSize < passwordMinLen || value.utf8ByteSize > passwordMaxLen then
    .error (.validation s!"password must be between {passwordMinLen} and {passwordMaxLen} chars")
  else .ok ()

def LoginRequest.validated (req : LoginRequest) : Except LoginApiError LoginRequest := do
  validateEmail req.email
  validatePassword req.password
  return req

/-! ## The two normalisations -/

/-- `str::trim`. -/
def trim (cs : List Char) : List Char := (cs.dropWhile isWhitespace).rdropWhile isWhitespace

/-- `Char.toLower` is `to_ascii_lowercase`: it leaves all but `A` to `Z` alone. -/
def normalizeLoginIdentifier (raw : String) : String := String.ofList ((trim raw.toList).map Char.toLower)

def isAscii (c : Char) : Bool := c.toNat < 0x80

/-- The capitals of the basic Latin, Latin-1, Greek and Cyrillic blocks whose
small letters come 32 places later. -/
def isCapital (c : Char) : Bool :=
  let n := c.toNat
  (0x41 ≤ n && n ≤ 0x5A) || (0xC0 ≤ n && n ≤ 0xDE && n != 0xD7) || (0x391 ≤ n && n ≤ 0x3A9 && n != 0x3A2) ||
    (0x410 ≤ n && n ≤ 0x42F)

/-- SQL's `LOWER` under a UTF-8 locale, character by character: it lower-cases
cased letters, inside and outside ASCII, leaves small letters alone, and white
space has no case. -/
structure SqlLower where
  lower : Char → Char
  ascii : ∀ c, isAscii c = true → lower c = c.toLower
  cased : ∀ c, isCapital c = true → lower c = Char.ofNat (c.toNat + 32)
  idem : ∀ c, lower (lower c) = lower c
  blank : ∀ c, isWhitespace c = true ∨ isWhitespace (lower c) = true → lower c = c

/-- `LOWER` of a text. -/
def SqlLower.text (sql : SqlLower) (s : String) : List Char := s.toList.map sql.lower

structure User where
  id : UserId
  email : String
  deriving DecidableEq, Repr

/-- `WHERE LOWER(email) = LOWER($1)`. -/
def getByEmail (sql : SqlLower) (users : List User) (email : String) : Option User :=
  users.find? fun u => sql.text u.email = sql.text email

/-! ## Trimming texts that correspond -/

section Split
variable {α : Type} {blank : α → Bool} {R : α → α → Prop} {a b : List α}

/-- Texts that correspond, and agree on the blanks, lose the same blanks. -/
theorem dropWhile_split (hblank : ∀ x y, R x y → blank x = blank y) (heq : ∀ x y, R x y → blank x = true → x = y)
    (h : List.Forall₂ R a b) : ∃ p, a = p ++ a.dropWhile blank ∧ b = p ++ b.dropWhile blank ∧
      List.Forall₂ R (a.dropWhile blank) (b.dropWhile blank) := by
  induction h with
  | nil => exact ⟨[], rfl, rfl, .nil⟩
  | @cons x y a b hxy hab ih =>
    by_cases hx : blank x = true
    · obtain ⟨p, ha, hb, hrest⟩ := ih
      have hy : blank y = true := hblank x y hxy ▸ hx
      obtain rfl := heq x y hxy hx
      rw [List.dropWhile_cons_of_pos hx, List.dropWhile_cons_of_pos hx]
      exact ⟨x :: p, congrArg _ ha, congrArg _ hb, hrest⟩
    · have hy : ¬ blank y = true := hblank x y hxy ▸ hx
      rw [List.dropWhile_cons_of_neg hx, List.dropWhile_cons_of_neg hy]
      exact ⟨[], rfl, rfl, .cons hxy hab⟩

theorem rdropWhile_split (hblank : ∀ x y, R x y → blank x = blank y) (heq : ∀ x y, R x y → blank x = true → x = y)
    (h : List.Forall₂ R a b) : ∃ q, a = a.rdropWhile blank ++ q ∧ b = b.rdropWhile blank ++ q ∧
      List.Forall₂ R (a.rdropWhile blank) (b.rdropWhile blank) := by
  obtain ⟨p, ha, hb, hrest⟩ := dropWhile_split hblank heq (List.rel_reverse h)
  refine ⟨p.reverse, ?_, ?_, List.rel_reverse hrest⟩
  · simpa [List.rdropWhile] using congrArg List.reverse ha
  · simpa [List.rdropWhile] using congrArg List.reverse hb

end Split

variable {sql : SqlLower} {a b : List Char}

theorem SqlLower.blank_eq (x y : Char) (h : sql.lower x = sql.lower y) (hx : isWhitespace x = true) : x = y := by
  have hlx := sql.blank x (.inl hx)
  have hly := sql.blank y (.inr (by rw [← h, hlx]; exact hx))
  rw [← hlx, h, hly]

theorem SqlLower.blank_iff (x y : Char) (h : sql.lower x = sql.lower y) : isWhitespace x = isWhitespace y := by
  rw [Bool.eq_iff_iff]
  exact ⟨fun hx => blank_eq x y h hx ▸ hx, fun hy => blank_eq y x h.symm hy ▸ hy⟩

/-- Texts with one `LOWER` are trimmed alike. -/
theorem trim_split (h : List.Forall₂ (fun x y => sql.lower x = sql.lower y) a b) :
    ∃ p q, a = p ++ trim a ++ q ∧ b = p ++ trim b ++ q := by
  obtain ⟨p, ha, hb, hrest⟩ := dropWhile_split sql.blank_iff sql.blank_eq h
  obtain ⟨q, ha', hb', -⟩ := rdropWhile_split sql.blank_iff sql.blank_eq hrest
  refine ⟨p, q, ?_, ?_⟩
  · rw [List.append_assoc, trim, ← ha', ← ha]
  · rw [List.append_assoc, trim, ← hb', ← hb]

theorem map_toLower_trim (h : List.Forall₂ (fun x y => sql.lower x = sql.lower y) a b) :
    (trim a).map Char.toLower = (trim b).map Char.toLower ↔ a.map Char.toLower = b.map Char.toLower := by
  obtain ⟨p, q, ha, hb⟩ := trim_split h
  have hmap : ∀ c, (p ++ c ++ q).map Char.toLower = p.map Char.toLower ++ c.map Char.toLower ++ q.map Char.toLower := by
    simp
  constructor
  · intro heq
    rw [ha, hb, hmap, hmap, heq]
  · intro heq
    rw [ha, hb, hmap, hmap] at heq
    exact List.append_cancel_left (List.append_cancel_right heq)

/-! ## Where the two agree -/

theorem toNat_toLower (c : Char) :
    c.toLower.toNat = if 0x41 ≤ c.toNat ∧ c.toNat ≤ 0x5A then c.toNat + 32 else c.toNat := by
  have hval : ('A'.val ≤ c.val ∧ c.val ≤ 'Z'.val) ↔ (0x41 ≤ c.toNat ∧ c.toNat ≤ 0x5A) := by
    rw [UInt32.le_iff_toNat_le, UInt32.le_iff_toNat_le]
    exact Iff.rfl
  unfold Char.toLower
  by_cases hc : 0x41 ≤ c.toNat ∧ c.toNat ≤ 0x5A
  · rw [dif_pos (hval.2 hc), if_pos hc]
    show (c.val + 32).toNat = c.toNat + 32
    rw [UInt32.toNat_add, Char.toNat_val]
    exact Nat.mod_eq_of_lt (by show c.toNat + 32 < 4294967296; omega)
  · rw [dif_neg (fun h => hc (hval.1 h)), if_neg hc]

/-- Lower-casing ASCII identifies two characters only if both are ASCII. -/
theorem ascii_of_toLower {x y : Char} (h : x.toLower = y.toLower) : x = y ∨ isAscii x = true ∧ isAscii y = true := by
  have hnat := congrArg Char.toNat h
  rw [toNat_toLower, toNat_toLower] at hnat
  by_cases hxy : x.toNat = y.toNat
  · exact .inl (Char.toNat_inj.1 hxy)
  · refine .inr ⟨decide_eq_true ?_, decide_eq_true ?_⟩
    all_goals
      split at hnat <;> split at hnat <;> omega

theorem map_toLower_eq (h : List.Forall₂ (fun x y => sql.lower x = sql.lower y) a b) :
    a.map Char.toLower = b.map Char.toLower ↔
      List.Forall₂ (fun x y => x = y ∨ isAscii x = true ∧ isAscii y = true) a b := by
  induction h with
  | nil => simp
  | @cons x y a b hxy hab ih =>
    rw [List.map_cons, List.map_cons, List.cons.injEq, List.forall₂_cons, ih]
    refine and_congr_left fun _ => ⟨ascii_of_toLower, fun h => ?_⟩
    rcases h with rfl | ⟨hx, hy⟩
    · rfl
    · rw [← sql.ascii x hx, ← sql.ascii y hy, hxy]

/-- **Two spellings of one account share their throttle key exactly if they
differ in ASCII letters only.** -/
theorem throttle_key_shared (sql : SqlLower) (users : List User) (u : User) (email email' : String)
    (h : getByEmail sql users email = some u) (h' : getByEmail sql users email' = some u) :
    normalizeLoginIdentifier email = normalizeLoginIdentifier email' ↔
      List.Forall₂ (fun x y => x = y ∨ isAscii x = true ∧ isAscii y = true) email.toList email'.toList := by
  have hrow := List.find?_some h
  have hrow' := List.find?_some h'
  simp only [decide_eq_true_eq] at hrow hrow'
  have hlower : List.Forall₂ (fun x y => sql.lower x = sql.lower y) email.toList email'.toList := by
    have hmap : email.toList.map sql.lower = email'.toList.map sql.lower := hrow.symm.trans hrow'
    rw [← List.forall₂_eq_eq_eq, List.forall₂_map_left_iff, List.forall₂_map_right_iff] at hmap
    exact hmap
  rw [← map_toLower_eq hlower, ← map_toLower_trim hlower]
  exact String.ofList_inj

/-- Lower-casing the capitals of `isCapital` and nothing else. -/
def lowerBasic (c : Char) : Char := if isCapital c then Char.ofNat (c.toNat + 32) else c

theorem toNat_lowerBasic (c : Char) : (lowerBasic c).toNat = if isCapital c then c.toNat + 32 else c.toNat := by
  unfold lowerBasic
  split
  · next hc =>
    have hvalid : (c.toNat + 32).isValidChar := by
      simp only [isCapital, Bool.or_eq_true, Bool.and_eq_true, decide_eq_true_eq] at hc
      exact .inl (by omega)
    rw [Char.ofNat, dif_pos hvalid]
    rfl
  · rfl

/-- Capitals and their small letters are no white space. -/
theorem isWhitespace_lowerBasic {c : Char} (hc : isCapital c = true) :
    isWhitespace c = false ∧ isWhitespace (lowerBasic c) = false := by
  have hlower := toNat_lowerBasic c
  rw [if_pos hc] at hlower
  simp only [isCapital, Bool.or_eq_true, Bool.and_eq_true, decide_eq_true_eq, bne_iff_ne] at hc
  constructor <;> simp only [isWhitespace, hlower, Bool.or_eq_false_iff, Bool.and_eq_false_iff, decide_eq_false_iff_not,
    beq_eq_false_iff_ne] <;> omega

def SqlLower.basic : SqlLower where
  lower := lowerBasic
  ascii c hc := by
    have hlt : c.toNat < 0x80 := of_decide_eq_true hc
    apply Char.toNat_inj.1
    rw [toNat_lowerBasic, toNat_toLower]
    refine if_congr ?_ rfl rfl
    simp only [isCapital, Bool.or_eq_true, Bool.and_eq_true, decide_eq_true_eq, bne_iff_ne]
    omega
  cased c hc := if_pos hc
  idem c := by
    by_cases hc : isCapital c = true
    · refine if_neg ?_
      have hlower := toNat_lowerBasic c
      rw [if_pos hc] at hlower
      simp only [isCapital, hlower, Bool.or_eq_true, Bool.and_eq_true, decide_eq_true_eq, bne_iff_ne] at hc ⊢
      omega
    · rw [lowerBasic, lowerBasic, if_neg hc, if_neg hc]
  blank c hc := by
    refine if_neg fun hcap => ?_
    obtain ⟨hc₁, hc₂⟩ := isWhitespace_lowerBasic hcap
    rcases hc with hc | hc
    · rw [hc] at hc₁; cases hc₁
    · rw [hc] at hc₂; cases hc₂

theorem throttle_key_shared_ascii :
    normalizeLoginIdentifier "Alice@example.com" = normalizeLoginIdentifier "alice@EXAMPLE.com" :=
  (throttle_key_shared .basic [⟨1, "alice@example.com"⟩] ⟨1, "alice@example.com"⟩ _ _ (by decide) (by decide)).2
    (by decide)

/-- Whatever else `LOWER` does, a capital outside ASCII respells an address that
login accepts, for the same user, under another throttle key. -/
theorem throttle_key_respelled : ¬ ∃ sql : SqlLower, ∀ (users : List User) (u : User) (email email' : String),
    validateEmail email = .ok () → validateEmail email' = .ok () → getByEmail sql users email = some u →
    getByEmail sql users email' = some u → normalizeLoginIdentifier email = normalizeLoginIdentifier email' := by
  rintro ⟨sql, h⟩
  have hcapital : sql.lower 'É' = 'é' := sql.cased 'É' (by decide)
  have hsmall : sql.lower 'é' = 'é' := by
    rw [← hcapital]
    exact sql.idem 'É'
  have hlower : sql.text "É@a.fr" = sql.text "é@a.fr" := by
    simp [SqlLower.text, hcapital, hsmall]
  have hkey := h [⟨1, "é@a.fr"⟩] ⟨1, "é@a.fr"⟩ "É@a.fr" "é@a.fr" (by decide) (by decide)
    (by simp [getByEmail, hlower]) (by simp [getByEmail])
  exact absurd hkey (by decide)

end RelayTerm.Auth
