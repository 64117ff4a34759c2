import RelayTerm.Lib.Distinct
import RelayTerm.Lib.Search
import RelayTerm.Web.ActiveSession
/-!
# The tag filter of the inventory

Three notions of when two tags are the same. The backend accepts a list of tags
without two equal ones. The filter of the web app selects the profiles with exactly
the chosen tag. The tags it offers are collected by their lower case, and of those
that differ only in case the first is kept.
-/
open RelayTerm.Lib

namespace RelayTerm.Web

/-! ## The backend's tags (`relayterm-core/src/validation.rs`) -/

def maxTags : Nat := 32

inductive ValidationError where
  | empty (field : String)
  | tooLong (field : String) (max actual : Nat)
  | invalidChar (field : String) (ch : Char)
  | tooMany (field : String) (max actual : Nat)
  | duplicate (field : String) (value : String)
  deriving DecidableEq, Repr

def isTagChar (ch : Char) : Bool := ch.isAlphanum || ch == '-' || ch == '_'

def validateTag (input : String) : Except ValidationError String :=
  if input.isEmpty then .error (.empty "tag")
  else if input.utf8ByteSize > 32 then .error (.tooLong "tag" 32 input.utf8ByteSize)
  else match input.toList.find? (!isTagChar ·) with
    | some ch => .error (.invalidChar "tag" ch)
    | none => .ok input

/-- The loop of `validate_tags`, with the tags accepted so far. -/
def validateTagsFrom (out : List String) : List String → Except ValidationError (List String)
  | [] => .ok out
  | raw :: inputs => do
    let tag ← validateTag raw
    if out.any (· == tag) then .error (.duplicate "tag" tag) else validateTagsFrom (out ++ [tag]) inputs

def validateTags (inputs : List String) : Except ValidationError (List String) :=
  if inputs.length > maxTags then .error (.tooMany "tags" maxTags inputs.length) else validateTagsFrom [] inputs

/-! ## The inventory of the web app (`inventoryFilters.ts`) -/

/-- The code units of a string. -/
def utf16 (s : String) : JsString := s.toList.flatMap fun c =>
  if c.toNat < 0x10000 then [UInt16.ofNat c.toNat]
  else [UInt16.ofNat (0xd800 + (c.toNat - 0x10000) / 0x400), UInt16.ofNat (0xdc00 + (c.toNat - 0x10000) % 0x400)]

/-- What the browser does with letters. -/
structure Locale where
  toLowerCase : JsString → JsString
  localeCompare : JsString → JsString → Int

/-- Hosts, identities and profiles as the client has them. -/
structure ClientHost where
  id : JsString
  displayName : JsString
  hostname : JsString
  defaultUsername : JsString
  deriving DecidableEq

structure ClientIdentity where
  id : JsString
  name : JsString
  fingerprintSha256 : JsString
  keyType : JsString
  deriving DecidableEq

structure ClientProfile where
  id : JsString
  name : JsString
  hostId : JsString
  sshIdentityId : JsString
  usernameOverride : Option JsString
  tags : List JsString
  deriving DecidableEq

inductive ProfileLinkState where
  | any | missingHost | missingIdentity
  deriving DecidableEq, Repr

structure ProfileFilters where
  query : Option JsString := none
  tag : Option JsString := none
  linkState : Option ProfileLinkState := none

/-- `replace(/\s+/g, " ")`, behind white space or not. -/
def collapseSpaces (behindSpace : Bool) : JsString → JsString
  | [] => []
  | c :: rest =>
    if isSpace c then if behindSpace then collapseSpaces true rest else 0x20 :: collapseSpaces true rest
    else c :: collapseSpaces false rest

variable (locale : Locale)

def normalizeSearchText (input : JsString) : JsString :=
  let trimmed := trimEnds isSpace input
  if trimmed.length = 0 then [] else collapseSpaces false (locale.toLowerCase trimmed)

def tokenize (normalised : JsString) : List JsString :=
  if normalised.length = 0 then [] else normalised.splitOn 0x20

def matchesAllTokens (haystack : JsString) (tokens : List JsString) : Bool :=
  tokens.all fun token => token.length = 0 || (find token (locale.toLowerCase haystack)).isSome

def overrideOf (profile : ClientProfile) : Option JsString := profile.usernameOverride.filter (·.length > 0)

def effectiveUsernameFor (profile : ClientProfile) (hosts : List ClientHost) : Option JsString :=
  (overrideOf profile).or ((hosts.find? (·.id = profile.hostId)).map (·.defaultUsername))

def profileHaystack (profile : ClientProfile) (hosts : List ClientHost) (identities : List ClientIdentity) : JsString :=
  let parts := [profile.name] ++ profile.tags ++ (overrideOf profile).toList ++
    (effectiveUsernameFor profile hosts).toList ++
    (match hosts.find? (·.id = profile.hostId) with
      | some host => [host.displayName, host.hostname]
      | none => []) ++
    match identities.find? (·.id = profile.sshIdentityId) with
      | some identity => [identity.name, identity.fingerprintSha256, identity.keyType]
      | none => []
  [0x20].intercalate parts

def filterProfiles (profiles : List ClientProfile) (hosts : List ClientHost) (identities : List ClientIdentity)
    (filters : ProfileFilters) : List ClientProfile :=
  let tokens := tokenize (normalizeSearchText locale (filters.query.getD []))
  let tag := filters.tag.filter (·.length > 0)
  let linkState := filters.linkState.getD .any
  if tokens.length = 0 ∧ tag = none ∧ linkState = .any then profiles
  else profiles.filter fun profile =>
    tag.all (profile.tags.contains ·) &&
      (match linkState with
        | .missingHost => !hosts.any (·.id = profile.hostId)
        | .missingIdentity => !identities.any (·.id = profile.sshIdentityId)
        | .any => true) &&
      (tokens.length = 0 || matchesAllTokens locale (profileHaystack profile hosts identities) tokens)

/-- The tags of one profile enter the map of those seen, under their lower case. -/
def seeTags (seen : List (JsString × JsString)) (profile : ClientProfile) : List (JsString × JsString) :=
  profile.tags.foldl
    (fun seen tag => if tag.length = 0 then seen else setNew seen (locale.toLowerCase tag) tag) seen

def collectProfileTags (profiles : List ClientProfile) : List JsString :=
  ((profiles.foldl (seeTags locale) []).map (·.2)).mergeSort fun a b =>
    locale.localeCompare (locale.toLowerCase a) (locale.toLowerCase b) ≤ 0

/-! ## Which profiles the offered tags reach -/

theorem ne_empty_of_validateTag {input tag : String} (h : validateTag input = .ok tag) : input.isEmpty = false := by
  unfold validateTag at h
  split at h
  · cases h
  · next hne => exact Bool.eq_false_iff.2 hne

theorem ne_empty_of_validateTagsFrom {out out' inputs : List String} (h : validateTagsFrom out inputs = .ok out') :
    ∀ t ∈ inputs, t.isEmpty = false := by
  induction inputs generalizing out with
  | nil => nofun
  | cons raw inputs ih =>
    cases htag : validateTag raw with
    | error e =>
      rw [validateTagsFrom, htag] at h
      cases h
    | ok tag =>
      rw [validateTagsFrom, htag] at h
      replace h : (if out.any (· == tag) then .error (.duplicate "tag" tag)
        else validateTagsFrom (out ++ [tag]) inputs) = .ok out' := h
      split at h
      · cases h
      · exact List.forall_mem_cons.2 ⟨ne_empty_of_validateTag htag, ih h⟩

/-- The tags of the profile are a list that the backend accepts. -/
def ClientProfile.Accepted (p : ClientProfile) : Prop :=
  ∃ raw out, validateTags raw = .ok out ∧ p.tags = raw.map utf16

theorem utf16_ne_nil {t : String} (h : t.isEmpty = false) : utf16 t ≠ [] := by
  intro hnil
  have hempty : t.toList = [] := by
    cases ht : t.toList with
    | nil => rfl
    | cons c cs =>
      rw [utf16, ht, List.flatMap_cons] at hnil
      have := (List.append_eq_nil_iff.1 hnil).1
      split at this <;> cases this
  rw [String.toList_eq_nil_iff] at hempty
  rw [hempty] at h
  cases h

theorem ClientProfile.Accepted.ne_nil {p : ClientProfile} (h : p.Accepted) : ∀ tag ∈ p.tags, tag ≠ [] := by
  obtain ⟨raw, out, hok, htags⟩ := h
  rw [htags]
  intro tag htag
  obtain ⟨t, ht, rfl⟩ := List.mem_map.1 htag
  unfold validateTags at hok
  split at hok
  · cases hok
  · exact utf16_ne_nil (ne_empty_of_validateTagsFrom hok t ht)

variable {locale} {profiles : List ClientProfile} {hosts : List ClientHost} {identities : List ClientIdentity}
  {tag : JsString}

/-- With no query and no link state, the filter selects the profiles that have the tag. -/
theorem mem_filterProfiles {p : ClientProfile} (htag : tag ≠ []) :
    p ∈ filterProfiles locale profiles hosts identities { tag := some tag } ↔ p ∈ profiles ∧ tag ∈ p.tags := by
  have htokens : tokenize (normalizeSearchText locale []) = [] := rfl
  have hsome : (some tag).filter (·.length > 0) = some tag := by
    rw [Option.filter_some, if_pos (by simpa [List.length_pos_iff] using htag)]
  simp only [filterProfiles, Option.getD_none, htokens, hsome]
  simp

/-- Of the tags with its lower case, the tag is the first in the list. -/
def FirstSpelled (locale : Locale) (profiles : List ClientProfile) (tag : JsString) : Prop :=
  (profiles.flatMap (·.tags)).find? (fun t => locale.toLowerCase t = locale.toLowerCase tag) = some tag

instance (locale : Locale) (profiles : List ClientProfile) (tag : JsString) :
    Decidable (FirstSpelled locale profiles tag) :=
  inferInstanceAs (Decidable (_ = _))

theorem FirstSpelled.mem (h : FirstSpelled locale profiles tag) : ∃ p ∈ profiles, tag ∈ p.tags :=
  List.mem_flatMap.1 (List.mem_of_find?_eq_some h)

/-- The tags offered are the first spellings. -/
theorem mem_collectProfileTags (hne : ∀ p ∈ profiles, ∀ tag ∈ p.tags, tag ≠ []) :
    tag ∈ collectProfileTags locale profiles ↔ FirstSpelled locale profiles tag := by
  have hseen : profiles.foldl (seeTags locale) [] = firstByKey locale.toLowerCase (profiles.flatMap (·.tags)) := by
    rw [firstByKey, List.foldl_flatMap]
    refine List.foldl_ext _ _ _ fun seen p hp => List.foldl_ext _ _ _ fun seen t ht => ?_
    rw [if_neg fun h => hne p hp t ht (List.eq_nil_of_length_eq_zero h)]
  rw [collectProfileTags, hseen, List.mem_mergeSort, List.mem_map]
  constructor
  · rintro ⟨⟨key, t⟩, hmem, rfl⟩
    have hfind := (mem_firstByKey _).1 hmem
    obtain rfl : locale.toLowerCase t = key := by simpa using List.find?_some hfind
    exact hfind
  · exact fun h => ⟨(locale.toLowerCase tag, tag), (mem_firstByKey _).2 h, rfl⟩

/-- Every tagged profile is selected by a tag that is offered if and only if each
has a tag that is the first spelling in the list; and every tag offered selects a
profile. -/
theorem tags_reach_iff (locale : Locale) (profiles : List ClientProfile) (hosts : List ClientHost)
    (identities : List ClientIdentity) (haccepted : ∀ p ∈ profiles, p.Accepted) :
    ((∀ p ∈ profiles, p.tags ≠ [] → ∃ tag ∈ collectProfileTags locale profiles,
        p ∈ filterProfiles locale profiles hosts identities { tag := some tag }) ↔
      ∀ p ∈ profiles, p.tags ≠ [] → ∃ tag ∈ p.tags, FirstSpelled locale profiles tag) ∧
    ∀ tag ∈ collectProfileTags locale profiles,
      ∃ p, p ∈ filterProfiles locale profiles hosts identities { tag := some tag } := by
  have hne : ∀ p ∈ profiles, ∀ tag ∈ p.tags, tag ≠ [] := fun p hp => (haccepted p hp).ne_nil
  have hoffered : ∀ {tag}, FirstSpelled locale profiles tag → tag ≠ [] := by
    intro tag htag
    obtain ⟨p, hp, hmem⟩ := htag.mem
    exact hne p hp tag hmem
  simp only [mem_collectProfileTags hne]
  constructor
  · refine forall₂_congr fun p hp => imp_congr_right fun _ => ?_
    constructor
    · rintro ⟨tag, hfirst, hselected⟩
      exact ⟨tag, ((mem_filterProfiles (hoffered hfirst)).1 hselected).2, hfirst⟩
    · rintro ⟨tag, hmem, hfirst⟩
      exact ⟨tag, hfirst, (mem_filterProfiles (hoffered hfirst)).2 ⟨hp, hmem⟩⟩
  · intro tag hfirst
    obtain ⟨p, hp, hmem⟩ := hfirst.mem
    exact ⟨p, (mem_filterProfiles (hoffered hfirst)).2 ⟨hp, hmem⟩⟩

/-- The letters A to Z. -/
def asciiLocale : Locale where
  toLowerCase s := s.map fun c => if 65 ≤ c && c ≤ 90 then c + 32 else c
  localeCompare a b := if a = b then 0 else if a < b then -1 else 1

def tagged (id : String) (tags : List String) : ClientProfile :=
  ⟨ascii id, ascii id, ascii "h", ascii "k", none, tags.map utf16⟩

theorem accepted_tagged {id : String} {tags : List String} (h : validateTags tags = .ok tags) :
    (tagged id tags).Accepted :=
  ⟨tags, tags, h, rfl⟩

/-- Two spellings of a tag, and the second profile has another one. -/
theorem tags_reach_iff_shared :
    ∃ tag ∈ collectProfileTags asciiLocale [tagged "a" ["prod", "us-east-1"], tagged "b" ["Prod", "ops"]],
      tagged "b" ["Prod", "ops"] ∈ filterProfiles asciiLocale
        [tagged "a" ["prod", "us-east-1"], tagged "b" ["Prod", "ops"]] [] [] { tag := some tag } := by
  have haccepted : ∀ p ∈ [tagged "a" ["prod", "us-east-1"], tagged "b" ["Prod", "ops"]], p.Accepted := by
    simp only [List.forall_mem_cons]
    exact ⟨accepted_tagged (by decide), accepted_tagged (by decide), nofun⟩
  exact (tags_reach_iff asciiLocale _ [] [] haccepted).1.2 (by decide) _ (by simp) (by decide)

/-- Two spellings of the only tag: the second one is not offered. -/
theorem tags_miss_profile :
    ¬ ∀ (locale : Locale) (profiles : List ClientProfile) (hosts : List ClientHost) (identities : List ClientIdentity),
      (∀ p ∈ profiles, p.Accepted) →
      (∀ p ∈ profiles, p.tags ≠ [] → ∃ tag ∈ collectProfileTags locale profiles,
        p ∈ filterProfiles locale profiles hosts identities { tag := some tag }) ∧
      ∀ tag ∈ collectProfileTags locale profiles,
        ∃ p, p ∈ filterProfiles locale profiles hosts identities { tag := some tag } := by
  intro h
  have haccepted : ∀ p ∈ [tagged "a" ["Prod"], tagged "b" ["prod"]], p.Accepted := by
    simp only [List.forall_mem_cons]
    exact ⟨accepted_tagged (by decide), accepted_tagged (by decide), nofun⟩
  obtain ⟨tag, htag, hmem⟩ :=
    (h asciiLocale _ [] [] haccepted).1 (tagged "b" ["prod"]) (by simp) (by decide)
  have hne : ∀ p ∈ [tagged "a" ["Prod"], tagged "b" ["prod"]], ∀ tag ∈ p.tags, tag ≠ [] :=
    fun p hp => (haccepted p hp).ne_nil
  have hfirst := (mem_collectProfileTags hne).1 htag
  obtain ⟨p, hp, htag'⟩ := hfirst.mem
  obtain rfl : tag = utf16 "prod" :=
    List.mem_singleton.1 ((mem_filterProfiles (hne p hp tag htag')).1 hmem).2
  exact absurd hfirst (by decide)

end RelayTerm.Web
