import Mathlib.Data.List.Infix
import RelayTerm.Stream.Socket
import RelayTerm.Web.ActiveSession
/-!
# The paste policy

Everything the renderer reports as input goes through `evaluatePaste`: what looks
like a keystroke is forwarded, anything else is judged by its size, its lines and
its control characters, and is forwarded, held for the operator's confirmation,
or dropped.
-/

namespace RelayTerm.Web

/-! ## Bytes of a string -/

def isHighSurrogate (u : UInt16) : Bool := 0xd800 ≤ u.toNat && u.toNat < 0xdc00

def isLowSurrogate (u : UInt16) : Bool := 0xdc00 ≤ u.toNat && u.toNat < 0xe000

/-- The UTF-8 bytes of a code point. -/
def utf8 (cp : Nat) : List UInt8 :=
  if cp < 0x80 then [UInt8.ofNat cp]
  else if cp < 0x800 then [UInt8.ofNat (0xc0 + cp / 0x40), UInt8.ofNat (0x80 + cp % 0x40)]
  else if cp < 0x10000 then
    [UInt8.ofNat (0xe0 + cp / 0x1000), UInt8.ofNat (0x80 + cp / 0x40 % 0x40), UInt8.ofNat (0x80 + cp % 0x40)]
  else
    [UInt8.ofNat (0xf0 + cp / 0x40000), UInt8.ofNat (0x80 + cp / 0x1000 % 0x40), UInt8.ofNat (0x80 + cp / 0x40 % 0x40),
      UInt8.ofNat (0x80 + cp % 0x40)]

/-- A code unit that is no half of a pair; a lone surrogate becomes U+FFFD. -/
def unitBytes (u : UInt16) : List UInt8 :=
  if isHighSurrogate u || isLowSurrogate u then utf8 0xfffd else utf8 u.toNat

/-- `TextEncoder.encode`. -/
def textEncode : JsString → List UInt8
  | hi :: lo :: rest =>
    if isHighSurrogate hi && isLowSurrogate lo then
      utf8 (0x10000 + (hi.toNat - 0xd800) * 0x400 + (lo.toNat - 0xdc00)) ++ textEncode rest
    else unitBytes hi ++ textEncode (lo :: rest)
  | [u] => unitBytes u
  | [] => []

/-! ## The policy (`pastePolicy.ts`) -/

def keystrokeMaxLength : Nat := 8
def pasteConfirmBytes : Nat := 4 * 1024
def pasteHardCapBytes : Nat := 64 * 1024

inductive PasteRisk where
  | safe | confirm | blocked
  deriving DecidableEq, Repr

inductive PasteReasonCode where
  | okEmpty | okKeystroke | okSingleLine | multiline | largePayload | controlChars | bracketedPasteMarkers | nulByte
  | exceedsHardCap
  deriving DecidableEq, Repr

def describePasteDecision : PasteReasonCode → String
  | .okEmpty => "Empty paste — nothing to send."
  | .okKeystroke => "Keystroke forwarded."
  | .okSingleLine => "Single-line paste forwarded."
  | .multiline => "Multiline paste detected."
  | .largePayload => "Large paste detected."
  | .controlChars => "Paste contains terminal control characters."
  | .bracketedPasteMarkers => "Paste contains bracketed-paste markers."
  | .nulByte => "Paste blocked: contains a NUL byte."
  | .exceedsHardCap => "Paste blocked: exceeds the size limit."

structure DecisionInputs where
  byteLength : Nat
  lineCount : Nat
  hasControlChars : Bool
  hasBracketedPasteMarkers : Bool
  deriving DecidableEq, Repr

structure PasteDecision extends DecisionInputs where
  risk : PasteRisk
  reasonCode : PasteReasonCode
  safeUserMessage : String
  deriving DecidableEq, Repr

def buildDecision (risk : PasteRisk) (reasonCode : PasteReasonCode) (inputs : DecisionInputs) : PasteDecision :=
  { inputs with risk, reasonCode, safeUserMessage := describePasteDecision reasonCode }

def pasteByteLength (text : JsString) : Nat := (textEncode text).length

def lf : UInt16 := 0x0a
def cr : UInt16 := 0x0d

/-- `text.replace(/\r\n/g, "\n")`. -/
def joinCrlf : JsString → JsString
  | a :: b :: rest => if a = cr ∧ b = lf then lf :: joinCrlf rest else a :: joinCrlf (b :: rest)
  | text => text

/-- Splitting at line feeds gives one part more than there are. -/
def pasteLineCount (text : JsString) : Nat :=
  if text.length = 0 then 0
  else
    let normalised := (joinCrlf text).map fun c => if c = cr then lf else c
    normalised.count lf + 1

def bracketedPasteStart : JsString := 0x1b :: ascii "[200~"
def bracketedPasteEnd : JsString := 0x1b :: ascii "[201~"

def containsBracketedPasteMarkers (text : JsString) : Bool :=
  bracketedPasteStart <:+: text || bracketedPasteEnd <:+: text

def isRiskyControlChar (c : UInt16) : Bool :=
  (c.toNat < 0x20 && c ≠ 0x09 && c ≠ lf && c ≠ cr) || c = 0x7f

def containsRiskyControlChars (text : JsString) : Bool := text.any isRiskyControlChar

def isLikelyKeystroke (text : JsString) : Bool :=
  if text.length = 0 then true
  else if text.length = 1 then true
  else if text = [cr, lf] then true
  else if text.any fun c => c = cr || c = lf then false
  else if text.length > keystrokeMaxLength then false
  else true

def decidePaste (text : JsString) : PasteDecision :=
  let byteLength := pasteByteLength text
  let lineCount := pasteLineCount text
  let hasControlChars := containsRiskyControlChars text
  let hasBracketedPasteMarkers := containsBracketedPasteMarkers text
  let inputs : DecisionInputs := ⟨byteLength, lineCount, hasControlChars, hasBracketedPasteMarkers⟩
  if text.contains 0 then buildDecision .blocked .nulByte inputs
  else if byteLength > pasteHardCapBytes then buildDecision .blocked .exceedsHardCap inputs
  else if hasBracketedPasteMarkers then buildDecision .confirm .bracketedPasteMarkers inputs
  else if lineCount > 1 then buildDecision .confirm .multiline inputs
  else if hasControlChars then buildDecision .confirm .controlChars inputs
  else if byteLength > pasteConfirmBytes then buildDecision .confirm .largePayload inputs
  else buildDecision .safe .okSingleLine inputs

def evaluatePaste (text : JsString) : PasteDecision :=
  if text.length = 0 then buildDecision .safe .okEmpty ⟨0, 0, false, false⟩
  else if isLikelyKeystroke text then
    buildDecision .safe .okKeystroke ⟨pasteByteLength text, pasteLineCount text, false, false⟩
  else decidePaste text

/-! ## What passes -/

theorem utf8_length (cp : Nat) : (utf8 cp).length ≤ 4 ∧ (cp < 0x10000 → (utf8 cp).length ≤ 3) := by
  unfold utf8
  split
  · simp
  · split
    · simp
    · split
      · simp
      · next hlarge => exact ⟨by simp, fun h => absurd h hlarge⟩

theorem unitBytes_length (u : UInt16) : (unitBytes u).length ≤ 3 := by
  unfold unitBytes
  split
  · exact (utf8_length 0xfffd).2 (by decide)
  · exact (utf8_length u.toNat).2 u.toNat_lt

/-- A code unit takes at most three bytes. -/
theorem textEncode_length (text : JsString) : (textEncode text).length ≤ 3 * text.length := by
  fun_induction textEncode text with
  | case1 hi lo rest _ ih =>
    have hpair := (utf8_length (0x10000 + (hi.toNat - 0xd800) * 0x400 + (lo.toNat - 0xdc00))).1
    simp only [List.length_append, List.length_cons]
    omega
  | case2 hi lo rest _ ih =>
    have hunit := unitBytes_length hi
    simp only [List.length_append, List.length_cons] at ih ⊢
    omega
  | case3 u => simpa using unitBytes_length u
  | case4 => simp

/-- A text of several lines, or none: a line break in it is counted. -/
theorem lf_mem_joinCrlf {text : JsString} {c : UInt16} (hc : c = lf ∨ c = cr) (h : c ∈ text) :
    lf ∈ (joinCrlf text).map fun c => if c = cr then lf else c := by
  fun_induction joinCrlf text with
  | case1 a b rest hcrlf ih => simp [lf]
  | case2 a b rest hcrlf ih =>
    rcases List.mem_cons.1 h with rfl | h
    · rcases hc with rfl | rfl <;> simp
    · exact List.mem_cons_of_mem _ (ih h)
  | case3 text hne =>
    refine List.mem_map.2 ⟨c, h, ?_⟩
    rcases hc with rfl | rfl <;> simp [lf, cr]

theorem single_line {text : JsString} (h : pasteLineCount text ≤ 1) : lf ∉ text ∧ cr ∉ text := by
  have hnone : ∀ c, c = lf ∨ c = cr → c ∉ text := by
    intro c hc hmem
    have hlf := lf_mem_joinCrlf hc hmem
    have hpos := List.count_pos_iff.2 hlf
    have hlen : text.length ≠ 0 := fun h0 => by simp [List.length_eq_zero_iff.1 h0] at hmem
    simp only [pasteLineCount, if_neg hlen] at h
    omega
  exact ⟨hnone lf (.inl rfl), hnone cr (.inr rfl)⟩

/-- What goes out unasked: a keystroke, or one plain line of moderate size. -/
def Harmless (text : JsString) : Prop :=
  isLikelyKeystroke text = true ∨
    (lf ∉ text ∧ cr ∉ text ∧ 0 ∉ text ∧ (∀ c ∈ text, isRiskyControlChar c = false) ∧
      containsBracketedPasteMarkers text = false ∧ pasteByteLength text ≤ pasteConfirmBytes)

theorem decidePaste_safe {text : JsString} (h : (decidePaste text).risk = .safe) :
    lf ∉ text ∧ cr ∉ text ∧ 0 ∉ text ∧ (∀ c ∈ text, isRiskyControlChar c = false) ∧
      containsBracketedPasteMarkers text = false ∧ pasteByteLength text ≤ pasteConfirmBytes := by
  unfold decidePaste at h
  simp only at h
  split at h
  · cases h
  split at h
  · cases h
  split at h
  · cases h
  split at h
  · cases h
  split at h
  · cases h
  split at h
  · cases h
  next hnul hcap hmarkers hlines hcontrol hbytes =>
  obtain ⟨hlf, hcr⟩ := single_line (Nat.not_lt.1 hlines)
  refine ⟨hlf, hcr, by simpa using hnul, fun c hc => ?_, Bool.not_eq_true _ ▸ hmarkers, Nat.not_lt.1 hbytes⟩
  simp only [containsRiskyControlChars, List.any_eq_true, not_exists, not_and, Bool.not_eq_true] at hcontrol
  exact hcontrol c hc

theorem evaluatePaste_safe {text : JsString} (h : (evaluatePaste text).risk = .safe) : Harmless text := by
  unfold evaluatePaste at h
  split at h
  · next hempty => exact .inl (if_pos hempty)
  · split at h
    · next hkey => exact .inl hkey
    · exact .inr (decidePaste_safe h)

/-- What is held is no NUL and small enough to be sent. -/
theorem evaluatePaste_confirm {text : JsString} (h : (evaluatePaste text).risk = .confirm) :
    0 ∉ text ∧ pasteByteLength text ≤ pasteHardCapBytes := by
  unfold evaluatePaste at h
  split at h
  · cases h
  split at h
  · cases h
  unfold decidePaste at h
  simp only at h
  split at h
  · cases h
  split at h
  · cases h
  next hnul hcap => exact ⟨by simpa using hnul, Nat.not_lt.1 hcap⟩

theorem keystroke_length {text : JsString} (h : isLikelyKeystroke text = true) : text.length ≤ keystrokeMaxLength := by
  unfold isLikelyKeystroke at h
  unfold keystrokeMaxLength at *
  split at h
  · omega
  split at h
  · omega
  split at h
  · next hcrlf => simp [hcrlf]
  split at h
  · cases h
  split at h
  · cases h
  omega

/-- Whatever the policy lets out fits in an input frame. -/
theorem pasteByteLength_le_maxPayloadLen {text : JsString}
    (h : Harmless text ∨ pasteByteLength text ≤ pasteHardCapBytes) :
    (textEncode text).length ≤ Stream.maxPayloadLen := by
  have hbytes : pasteByteLength text ≤ pasteHardCapBytes := by
    rcases h with (hkey | hplain) | hcap
    · have hlen := textEncode_length text
      have hkey := keystroke_length hkey
      unfold keystrokeMaxLength at hkey
      unfold pasteByteLength pasteHardCapBytes
      omega
    · exact hplain.2.2.2.2.2.trans (by decide)
    · exact hcap
  exact hbytes.trans (by decide)

end RelayTerm.Web
