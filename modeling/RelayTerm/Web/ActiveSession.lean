import Mathlib.Data.Rat.Defs
import RelayTerm.Lib.Trim
/-!
# The saved active session

The web app keeps one record of the last terminal session in the browser's
storage. A record is normalized before it is saved and parsed again when it is
loaded, so what is loaded is the record normalized twice: each time its label is
stripped of control characters, trimmed and clipped.
-/
open RelayTerm.Lib

namespace RelayTerm.Web

/-! ## JavaScript values -/

/-- The UTF-16 code units of a string. -/
abbrev JsString := List UInt16

def ascii (s : String) : JsString := s.toList.map fun c => UInt16.ofNat c.toNat

/-- A number; the two zeros are one. -/
inductive JsNumber where
  | nan
  | infinity (negative : Bool)
  | finite (q : ℚ)
  deriving DecidableEq

/-- What `JSON.parse` gives. -/
inductive JsValue where
  | null
  | bool (b : Bool)
  | number (n : JsNumber)
  | string (s : JsString)
  | array (items : List JsValue)
  | object (fields : List (String × JsValue))

/-- White space and line ends, which `trim` removes. -/
def isSpace (c : UInt16) : Bool :=
  let n := c.toNat
  (9 ≤ n && n ≤ 13) || n == 0x20 || n == 0xa0 || n == 0x1680 || (0x2000 ≤ n && n ≤ 0x200a) || n == 0x2028 ||
    n == 0x2029 || n == 0x202f || n == 0x205f || n == 0x3000 || n == 0xfeff

/-! ## The record (`activeSessionStore.ts`) -/

def sessionIdMaxLen : Nat := 128
def profileLabelMaxLen : Nat := 256
def savedAtMaxLen : Nat := 64
def cellGridMin : ℚ := 1
def cellGridMax : ℚ := 4096

def allStatuses : List JsString := [ascii "starting", ascii "active", ascii "detached", ascii "closed"]

/-- The fields hold any strings and numbers; an optional one may be absent. -/
structure ActiveSessionRecord where
  sessionId : JsString
  profileLabel : Option JsString
  cols : Option JsNumber
  rows : Option JsNumber
  lastSeenSeq : Option JsNumber
  statusHint : Option JsString
  savedAt : JsString
  deriving DecidableEq

def isNonEmptyBoundedString (value : JsString) (maxLen : Nat) : Bool := value.length > 0 && value.length ≤ maxLen

def isCellGridDim : JsNumber → Bool
  | .finite q => q.isInt && q ≥ cellGridMin && q ≤ cellGridMax
  | _ => false

def isNonNegativeInteger : JsNumber → Bool
  | .finite q => q.isInt && q ≥ 0
  | _ => false

def isStatusHint (value : JsString) : Bool := allStatuses.contains value

def isControl (c : UInt16) : Bool := c.toNat ≤ 0x1f || c.toNat == 0x7f

/-- `value.replace(CONTROL_CHAR_RE, "").trim()` -/
def cleanedLabel (value : JsString) : JsString := trimEnds isSpace (value.filter fun c => !isControl c)

def sanitizeLabel (value : JsString) : JsString :=
  if (cleanedLabel value).length > profileLabelMaxLen then (cleanedLabel value).take profileLabelMaxLen
  else cleanedLabel value

/-- `typeof value === "string"` -/
def JsValue.asString : JsValue → Option JsString
  | .string s => some s
  | _ => none

def JsValue.asNumber : JsValue → Option JsNumber
  | .number n => some n
  | _ => none

def keptLabel (label : JsString) : Option JsString :=
  if (sanitizeLabel label).length > 0 then some (sanitizeLabel label) else none

def parseActiveSession : JsValue → Option ActiveSessionRecord
  | .object raw => do
    let sessionId ← ((raw.lookup "session_id").bind JsValue.asString).filter (isNonEmptyBoundedString · sessionIdMaxLen)
    let savedAt ← ((raw.lookup "saved_at").bind JsValue.asString).filter (isNonEmptyBoundedString · savedAtMaxLen)
    return {
      sessionId, savedAt
      profileLabel := ((raw.lookup "profile_label").bind JsValue.asString).bind keptLabel
      cols := ((raw.lookup "cols").bind JsValue.asNumber).filter isCellGridDim
      rows := ((raw.lookup "rows").bind JsValue.asNumber).filter isCellGridDim
      lastSeenSeq := ((raw.lookup "last_seen_seq").bind JsValue.asNumber).filter isNonNegativeInteger
      statusHint := ((raw.lookup "status_hint").bind JsValue.asString).filter isStatusHint }
  | _ => none

def ActiveSessionRecord.fields (r : ActiveSessionRecord) : List (String × Option JsValue) :=
  [("session_id", some (.string r.sessionId)), ("saved_at", some (.string r.savedAt)),
    ("profile_label", r.profileLabel.map .string), ("cols", r.cols.map .number), ("rows", r.rows.map .number),
    ("last_seen_seq", r.lastSeenSeq.map .number), ("status_hint", r.statusHint.map .string)]

/-- An absent field is no field. -/
def present : List (String × Option JsValue) → List (String × JsValue)
  | [] => []
  | (_, none) :: fields => present fields
  | (key, some value) :: fields => (key, value) :: present fields

def ActiveSessionRecord.toJson (r : ActiveSessionRecord) : JsValue := .object (present r.fields)

def normalizeActiveSession (draft : ActiveSessionRecord) : Option ActiveSessionRecord := parseActiveSession draft.toJson

/-! ## The storage -/

/-- `JSON.stringify` writes every number that is finite. -/
def ActiveSessionRecord.Writable (r : ActiveSessionRecord) : Prop :=
  ∀ n, r.cols = some n ∨ r.rows = some n ∨ r.lastSeenSeq = some n → ∃ q, n = .finite q

/-- `JSON.parse`, which may throw, and `JSON.stringify`. -/
structure JsonCodec (Text : Type) where
  parse : Text → Option JsValue
  stringify : JsValue → Text
  inverts : ∀ r : ActiveSessionRecord, r.Writable → parse (stringify r.toJson) = some r.toJson

/-- The browser's storage, at the key of the record. -/
structure StorageLike (Text : Type) where
  item : Option Text
  /-- `getItem` does not throw. -/
  readable : Bool
  /-- `setItem` does not throw on this value. -/
  accepts : Text → Bool

/-- A `getItem` that throws leaves the caller with nothing, as a missing item does. -/
def StorageLike.getItem {Text : Type} (st : StorageLike Text) : Option Text := if st.readable then st.item else none

section Storage

variable {Text : Type} (codec : JsonCodec Text)

def serializeActiveSession (record : ActiveSessionRecord) : Option Text :=
  (normalizeActiveSession record).map fun normalized => codec.stringify normalized.toJson

/-- A store is `none` where the browser has no storage. -/
def loadActiveSession (store : Option (StorageLike Text)) : Option ActiveSessionRecord := do
  let st ← store
  let raw ← st.getItem
  let parsed ← codec.parse raw
  parseActiveSession parsed

def saveActiveSession (store : Option (StorageLike Text)) (record : ActiveSessionRecord) :
    Bool × Option (StorageLike Text) :=
  match store, serializeActiveSession codec record with
  | some st, some json => if st.accepts json then (true, some { st with item := some json }) else (false, store)
  | _, _ => (false, store)

def updateActiveSessionSeq (store : Option (StorageLike Text)) (expectedSessionId : JsString) (seq : JsNumber)
    (now : JsString) : Bool × Option (StorageLike Text) :=
  if isNonNegativeInteger seq then
    match loadActiveSession codec store with
    | none => (false, store)
    | some existing =>
      if existing.sessionId ≠ expectedSessionId then (false, store)
      else saveActiveSession codec store { existing with lastSeenSeq := some seq, savedAt := now }
  else (false, store)

end Storage

/-! ## Normalization -/

theorem sanitizeLabel_eq (l : JsString) : sanitizeLabel l = clean isControl isSpace profileLabelMaxLen l := by
  unfold sanitizeLabel clean
  split
  · rfl
  · next hshort => exact (List.take_of_length_le (Nat.le_of_not_lt hshort)).symm

/-- The last code unit that a label of full length keeps is no white space. -/
def LabelFits (label : Option JsString) : Prop :=
  ∀ l c, label = some l → (cleanedLabel l)[profileLabelMaxLen - 1]? = some c → isSpace c = false

theorem length_pos_sanitizeLabel (l : JsString) :
    (sanitizeLabel (sanitizeLabel l)).length > 0 ↔ (sanitizeLabel l).length > 0 := by
  simp only [gt_iff_lt, List.length_pos_iff, sanitizeLabel_eq]
  refine not_congr ⟨clean_eq_nil l, fun h => ?_⟩
  rw [h]
  rfl

/-- A label that was kept is kept again, cleaned once more. -/
theorem kept_kept (label : Option JsString) :
    (label.bind keptLabel).bind keptLabel = (label.bind keptLabel).map sanitizeLabel := by
  cases label with
  | none => rfl
  | some l =>
    rw [Option.bind_some]
    unfold keptLabel
    split
    · next h => simp [h, length_pos_sanitizeLabel]
    · rfl

theorem sanitizeLabel_idempotent_iff (l : JsString) :
    sanitizeLabel (sanitizeLabel l) = sanitizeLabel l ↔ LabelFits (some l) := by
  simp only [sanitizeLabel_eq, clean_idempotent_iff (n := profileLabelMaxLen) (by decide)]
  exact ⟨fun h l' c hl => Option.some.inj hl ▸ h c, fun h c => h l c rfl⟩

theorem kept_idempotent_iff (label : Option JsString) :
    (label.bind keptLabel).bind keptLabel = label.bind keptLabel ↔ LabelFits label := by
  cases label with
  | none => exact iff_of_true rfl nofun
  | some l =>
    rw [kept_kept, ← sanitizeLabel_idempotent_iff, Option.bind_some]
    unfold keptLabel
    split
    · simp
    · next hnil =>
      refine iff_of_true rfl ?_
      rw [List.eq_nil_of_length_eq_zero (Nat.eq_zero_of_not_pos hnil)]
      rfl

theorem kept_thrice (label : Option JsString) :
    ((label.bind keptLabel).bind keptLabel).bind keptLabel = (label.bind keptLabel).bind keptLabel := by
  have hthrice (l : JsString) :
      sanitizeLabel (sanitizeLabel (sanitizeLabel l)) = sanitizeLabel (sanitizeLabel l) := by
    simp only [sanitizeLabel_eq, clean_clean_clean]
  rw [kept_kept (label.bind keptLabel), kept_kept]
  cases label with
  | none => rfl
  | some l =>
    rw [Option.bind_some]
    unfold keptLabel
    split
    · simp [hthrice]
    · rfl

theorem lookup_present (fields : List (String × Option JsValue)) (h : (fields.map (·.1)).Nodup) (key : String) :
    (present fields).lookup key = (fields.lookup key).join := by
  induction fields with
  | nil => rfl
  | cons field fields ih =>
    obtain ⟨k, value⟩ := field
    obtain ⟨hk, hnodup⟩ := List.nodup_cons.1 h
    cases value with
    | none =>
      rw [present, ih hnodup, List.lookup_cons]
      cases heq : key == k with
      | false => rfl
      | true =>
        -- no later field has the same key
        have hrest : fields.lookup key = none := by
          rw [List.lookup_eq_none_iff]
          intro field hfield
          rw [bne_iff_ne]
          intro hkey
          exact hk (List.mem_map.2 ⟨field, hfield, hkey.symm.trans (beq_iff_eq.1 heq)⟩)
        rw [hrest]
        rfl
    | some v =>
      rw [present, List.lookup_cons, List.lookup_cons]
      cases key == k with
      | false => exact ih hnodup
      | true => rfl

def ActiveSessionRecord.identified (r : ActiveSessionRecord) : Bool :=
  isNonEmptyBoundedString r.sessionId sessionIdMaxLen && isNonEmptyBoundedString r.savedAt savedAtMaxLen

def ActiveSessionRecord.canonical (r : ActiveSessionRecord) : ActiveSessionRecord :=
  { r with
    profileLabel := r.profileLabel.bind keptLabel
    cols := r.cols.filter isCellGridDim
    rows := r.rows.filter isCellGridDim
    lastSeenSeq := r.lastSeenSeq.filter isNonNegativeInteger
    statusHint := r.statusHint.filter isStatusHint }

theorem asString_map (x : Option JsString) : (x.map JsValue.string).bind JsValue.asString = x := by
  cases x <;> rfl

theorem asNumber_map (x : Option JsNumber) : (x.map JsValue.number).bind JsValue.asNumber = x := by
  cases x <;> rfl

theorem normalizeActiveSession_eq (r : ActiveSessionRecord) :
    normalizeActiveSession r = if r.identified then some r.canonical else none := by
  have hnodup : (r.fields.map (·.1)).Nodup := by
    show ["session_id", "saved_at", "profile_label", "cols", "rows", "last_seen_seq", "status_hint"].Nodup
    decide
  simp only [normalizeActiveSession, ActiveSessionRecord.toJson, parseActiveSession, lookup_present _ hnodup]
  rw [show r.fields.lookup "session_id" = some (some (.string r.sessionId)) from rfl,
    show r.fields.lookup "saved_at" = some (some (.string r.savedAt)) from rfl,
    show r.fields.lookup "profile_label" = some (r.profileLabel.map .string) from rfl,
    show r.fields.lookup "cols" = some (r.cols.map .number) from rfl,
    show r.fields.lookup "rows" = some (r.rows.map .number) from rfl,
    show r.fields.lookup "last_seen_seq" = some (r.lastSeenSeq.map .number) from rfl,
    show r.fields.lookup "status_hint" = some (r.statusHint.map .string) from rfl]
  simp only [Option.join_some, asString_map, asNumber_map]
  simp only [Option.bind_some, JsValue.asString, Option.filter_some]
  have hidentified : r.identified = true ↔ isNonEmptyBoundedString r.sessionId sessionIdMaxLen = true ∧
      isNonEmptyBoundedString r.savedAt savedAtMaxLen = true := Bool.and_eq_true_iff
  by_cases hid : isNonEmptyBoundedString r.sessionId sessionIdMaxLen = true
  · by_cases hat : isNonEmptyBoundedString r.savedAt savedAtMaxLen = true
    · rw [if_pos hid, if_pos hat, if_pos (hidentified.2 ⟨hid, hat⟩)]
      rfl
    · rw [if_pos hid, if_neg hat, if_neg fun h => hat (hidentified.1 h).2]
      rfl
  · rw [if_neg hid, if_neg fun h => hid (hidentified.1 h).1]
    rfl

theorem canonical_canonical (r : ActiveSessionRecord) :
    r.canonical.canonical = { r.canonical with profileLabel := (r.profileLabel.bind keptLabel).bind keptLabel } := by
  simp [ActiveSessionRecord.canonical]

theorem canonical_idempotent_iff (r : ActiveSessionRecord) :
    r.canonical.canonical = r.canonical ↔ LabelFits r.profileLabel := by
  rw [canonical_canonical, ← kept_idempotent_iff]
  refine ⟨congrArg ActiveSessionRecord.profileLabel, fun h => ?_⟩
  rw [h]
  rfl

theorem canonical_thrice (r : ActiveSessionRecord) : r.canonical.canonical.canonical = r.canonical.canonical := by
  rw [canonical_idempotent_iff, ← kept_idempotent_iff]
  exact kept_thrice r.profileLabel

@[simp] theorem identified_canonical (r : ActiveSessionRecord) : r.canonical.identified = r.identified := rfl

theorem finite_of_isCellGridDim {n : JsNumber} (h : isCellGridDim n) : ∃ q, n = .finite q := by
  cases n with
  | nan | infinity _ => cases h
  | finite q => exact ⟨q, rfl⟩

theorem finite_of_isNonNegativeInteger {n : JsNumber} (h : isNonNegativeInteger n) : ∃ q, n = .finite q := by
  cases n with
  | nan | infinity _ => cases h
  | finite q => exact ⟨q, rfl⟩

theorem writable_canonical (r : ActiveSessionRecord) : r.canonical.Writable := by
  rintro n (hn | hn | hn)
  · exact finite_of_isCellGridDim (Option.filter_eq_some_iff.1 hn).2
  · exact finite_of_isCellGridDim (Option.filter_eq_some_iff.1 hn).2
  · exact finite_of_isNonNegativeInteger (Option.filter_eq_some_iff.1 hn).2

/-- The label of a value, before it is cleaned. -/
def JsValue.label : JsValue → Option JsString
  | .object raw => (raw.lookup "profile_label").bind JsValue.asString
  | _ => none

/-- What the parser accepts is the normalization of some record. -/
theorem exists_of_parse {v : JsValue} {e : ActiveSessionRecord} (h : parseActiveSession v = some e) :
    ∃ r : ActiveSessionRecord, e = r.canonical ∧ r.profileLabel = v.label := by
  cases v with
  | null | bool _ | number _ | string _ | array _ => cases h
  | object raw =>
    obtain ⟨sessionId, -, h⟩ := Option.bind_eq_some_iff.1 h
    obtain ⟨savedAt, -, h⟩ := Option.bind_eq_some_iff.1 h
    cases h
    exact ⟨{
      sessionId, savedAt
      profileLabel := (raw.lookup "profile_label").bind JsValue.asString
      cols := (raw.lookup "cols").bind JsValue.asNumber
      rows := (raw.lookup "rows").bind JsValue.asNumber
      lastSeenSeq := (raw.lookup "last_seen_seq").bind JsValue.asNumber
      statusHint := (raw.lookup "status_hint").bind JsValue.asString }, rfl, rfl⟩

/-! ## Saving and loading -/

section Storage

variable {Text : Type} {codec : JsonCodec Text} {store : Option (StorageLike Text)}

theorem of_saved {r : ActiveSessionRecord} (h : (saveActiveSession codec store r).1 = true) :
    ∃ st, store = some st ∧ r.identified = true ∧
      (saveActiveSession codec store r).2 = some { st with item := some (codec.stringify r.canonical.toJson) } := by
  have hserialized : serializeActiveSession codec r =
      if r.identified then some (codec.stringify r.canonical.toJson) else none := by
    rw [serializeActiveSession, normalizeActiveSession_eq]
    split <;> rfl
  cases store with
  | none => cases h
  | some st =>
    by_cases hid : r.identified = true
    · rw [if_pos hid] at hserialized
      simp only [saveActiveSession, hserialized] at h ⊢
      split at h
      · next haccepts => exact ⟨st, rfl, hid, by rw [if_pos haccepts]⟩
      · cases h
    · rw [if_neg hid] at hserialized
      simp only [saveActiveSession, hserialized] at h
      cases h

/-- A saved record is loaded as its normalization, normalized again. -/
theorem load_saved {r : ActiveSessionRecord} (hid : r.identified = true) (st : StorageLike Text) :
    loadActiveSession codec (some { st with item := some (codec.stringify r.canonical.toJson) }) =
      if st.readable then some r.canonical.canonical else none := by
  have hparsed : parseActiveSession r.canonical.toJson = some r.canonical.canonical :=
    (normalizeActiveSession_eq r.canonical).trans (if_pos hid)
  by_cases hread : st.readable = true
  · simp [loadActiveSession, StorageLike.getItem, hread, codec.inverts _ (writable_canonical r), hparsed]
  · simp [loadActiveSession, StorageLike.getItem, hread]

/-- `getItem` does not throw. -/
def Readable (store : Option (StorageLike Text)) : Prop := ∃ st, store = some st ∧ st.readable = true

/-- The label of the stored value. -/
def storedLabel (codec : JsonCodec Text) (store : Option (StorageLike Text)) : Option JsString := do
  let st ← store
  let raw ← st.item
  let parsed ← codec.parse raw
  parsed.label

theorem load_after_save {r : ActiveSessionRecord} (h : (saveActiveSession codec store r).1 = true) :
    loadActiveSession codec (saveActiveSession codec store r).2 = normalizeActiveSession r ↔
      Readable store ∧ LabelFits r.profileLabel := by
  obtain ⟨st, rfl, hid, hsaved⟩ := of_saved h
  rw [hsaved, load_saved hid, normalizeActiveSession_eq, if_pos hid]
  by_cases hread : st.readable = true
  · rw [if_pos hread, Option.some_inj, canonical_idempotent_iff]
    exact (and_iff_right ⟨st, rfl, hread⟩).symm
  · rw [if_neg hread]
    refine iff_of_false nofun ?_
    rintro ⟨⟨st', hst, hread'⟩, -⟩
    cases hst
    exact hread hread'

theorem normalize_idempotent_iff (r : ActiveSessionRecord) :
    (normalizeActiveSession r).bind normalizeActiveSession = normalizeActiveSession r ↔
      (r.identified = true → LabelFits r.profileLabel) := by
  rw [normalizeActiveSession_eq]
  by_cases hid : r.identified = true
  · rw [if_pos hid, Option.bind_some, normalizeActiveSession_eq, if_pos ((identified_canonical r).trans hid),
      Option.some_inj, canonical_idempotent_iff, forall_prop_of_true hid]
  · rw [if_neg hid]
    exact iff_of_true rfl fun h => absurd h hid

theorem of_updated {expectedSessionId : JsString} {seq : JsNumber} {now : JsString}
    (h : (updateActiveSessionSeq codec store expectedSessionId seq now).1 = true) :
    isNonNegativeInteger seq = true ∧ ∃ existing, loadActiveSession codec store = some existing ∧
      updateActiveSessionSeq codec store expectedSessionId seq now =
        saveActiveSession codec store { existing with lastSeenSeq := some seq, savedAt := now } := by
  unfold updateActiveSessionSeq at h ⊢
  split at h
  · next hseq =>
    refine ⟨hseq, ?_⟩
    cases hload : loadActiveSession codec store with
    | none =>
      rw [hload] at h
      cases h
    | some existing =>
      simp only [hload] at h
      split at h
      · cases h
      · next hexpected => exact ⟨existing, rfl, by rw [if_pos hseq]; exact if_neg hexpected⟩
  · cases h

/-- What is loaded was readable, and is the normalization of a record with the stored label. -/
theorem of_loaded {e : ActiveSessionRecord} (h : loadActiveSession codec store = some e) :
    Readable store ∧ ∃ r : ActiveSessionRecord, e = r.canonical ∧ r.profileLabel = storedLabel codec store := by
  obtain ⟨st, rfl, h⟩ := Option.bind_eq_some_iff.1 h
  obtain ⟨raw, hraw, h⟩ := Option.bind_eq_some_iff.1 h
  obtain ⟨hread, hitem⟩ := Option.ite_none_right_eq_some.1 hraw
  obtain ⟨parsed, hparsed, h⟩ := Option.bind_eq_some_iff.1 h
  obtain ⟨r, hr, hlabel⟩ := exists_of_parse h
  refine ⟨⟨st, rfl, hread⟩, r, hr, hlabel.trans ?_⟩
  simp [storedLabel, hitem, hparsed]

theorem load_after_update {expectedSessionId : JsString} {seq : JsNumber} {now : JsString}
    (h : (updateActiveSessionSeq codec store expectedSessionId seq now).1 = true) :
    loadActiveSession codec (updateActiveSessionSeq codec store expectedSessionId seq now).2 =
        (loadActiveSession codec store).map ({ · with lastSeenSeq := some seq, savedAt := now }) ↔
      LabelFits (storedLabel codec store) := by
  obtain ⟨hseq, existing, hload, hupdate⟩ := of_updated h
  obtain ⟨⟨st, rfl, hread⟩, r, rfl, hlabel⟩ := of_loaded hload
  -- the updated record is a normalization too, so it is normalized three times in all
  let r' : ActiveSessionRecord := { r with lastSeenSeq := some seq, savedAt := now }
  have hr' : { r.canonical with lastSeenSeq := some seq, savedAt := now } = r'.canonical := by
    simp [r', ActiveSessionRecord.canonical, Option.filter_some, hseq]
  rw [hupdate, hr'] at h
  obtain ⟨st', hst, hid, hsaved⟩ := of_saved h
  cases hst
  rw [hupdate, hload, Option.map_some, hr', hsaved, load_saved hid, if_pos hread, canonical_thrice, Option.some_inj,
    canonical_idempotent_iff, ← hlabel]

end Storage

/-- A saved record is loaded as its normalization, and normalization is
idempotent on it, if and only if the last code unit kept of its label is no white
space; and an update changes nothing but the bookmark and the time if and only if
that holds of the stored label. -/
theorem round_trip_iff {Text : Type} (codec : JsonCodec Text) (store : Option (StorageLike Text))
    (r : ActiveSessionRecord) (expectedSessionId : JsString) (seq : JsNumber) (now : JsString) :
    ((saveActiveSession codec store r).1 = true →
      (loadActiveSession codec (saveActiveSession codec store r).2 = normalizeActiveSession r ↔
        Readable store ∧ LabelFits r.profileLabel)) ∧
    ((normalizeActiveSession r).bind normalizeActiveSession = normalizeActiveSession r ↔
      (r.identified = true → LabelFits r.profileLabel)) ∧
    ((updateActiveSessionSeq codec store expectedSessionId seq now).1 = true →
      (loadActiveSession codec (updateActiveSessionSeq codec store expectedSessionId seq now).2 =
          (loadActiveSession codec store).map ({ · with lastSeenSeq := some seq, savedAt := now }) ↔
        LabelFits (storedLabel codec store))) :=
  ⟨load_after_save, normalize_idempotent_iff r, load_after_update⟩

/-- Texts that are the values themselves. -/
def valueCodec : JsonCodec JsValue := ⟨some, id, fun _ _ => rfl⟩

def labelled (label : JsString) : ActiveSessionRecord :=
  ⟨ascii "s", some label, some (.finite 80), some (.finite 24), none, some (ascii "active"), ascii "t"⟩

def emptyStore : Option (StorageLike JsValue) := some ⟨none, true, fun _ => true⟩

/-- A short label survives. -/
theorem round_trip_iff_short :
    (saveActiveSession valueCodec emptyStore (labelled (ascii " web  1 "))).1 = true ∧
      loadActiveSession valueCodec (saveActiveSession valueCodec emptyStore (labelled (ascii " web  1 "))).2 =
        some (labelled (ascii "web  1")) := by
  have hfits : LabelFits (labelled (ascii " web  1 ")).profileLabel := by
    rintro l c ⟨⟩ hc
    cases hc
  have hsaved : (saveActiveSession valueCodec emptyStore (labelled (ascii " web  1 "))).1 = true := rfl
  refine ⟨hsaved, ?_⟩
  have hiff := (round_trip_iff valueCodec emptyStore (labelled (ascii " web  1 ")) [] .nan []).1 hsaved
  rw [hiff.2 ⟨⟨_, rfl, rfl⟩, hfits⟩]
  decide

/-- A label of more than 256 code units, with a space where it is clipped. -/
def clippedAtSpace : JsString := List.replicate 255 97 ++ [32, 98]

theorem clippedAtSpace_not_fits : ¬ LabelFits (some clippedAtSpace) := by
  intro h
  cases h clippedAtSpace 32 rfl (by decide +kernel)

theorem round_trip_fails :
    (¬ ∀ (store : Option (StorageLike JsValue)) (r : ActiveSessionRecord),
      (saveActiveSession valueCodec store r).1 = true →
        loadActiveSession valueCodec (saveActiveSession valueCodec store r).2 = normalizeActiveSession r) ∧
    (¬ ∀ r : ActiveSessionRecord, (normalizeActiveSession r).bind normalizeActiveSession = normalizeActiveSession r) ∧
    (¬ ∀ (store : Option (StorageLike JsValue)) (expectedSessionId : JsString) (seq : JsNumber) (now : JsString),
      (updateActiveSessionSeq valueCodec store expectedSessionId seq now).1 = true →
        loadActiveSession valueCodec (updateActiveSessionSeq valueCodec store expectedSessionId seq now).2 =
          (loadActiveSession valueCodec store).map ({ · with lastSeenSeq := some seq, savedAt := now })) := by
  refine ⟨fun h => ?_, fun h => ?_, fun h => ?_⟩
  · have hsaved : (saveActiveSession valueCodec emptyStore (labelled clippedAtSpace)).1 = true := rfl
    exact clippedAtSpace_not_fits ((load_after_save hsaved).1 (h _ _ hsaved)).2
  · exact clippedAtSpace_not_fits ((normalize_idempotent_iff _).1 (h (labelled clippedAtSpace)) rfl)
  · let store : Option (StorageLike JsValue) := some ⟨some (labelled clippedAtSpace).toJson, true, fun _ => true⟩
    have hupdated : (updateActiveSessionSeq valueCodec store (ascii "s") (.finite 7) (ascii "u")).1 = true := rfl
    exact clippedAtSpace_not_fits ((load_after_update hupdated).1 (h _ _ _ _ hupdated))

end RelayTerm.Web
