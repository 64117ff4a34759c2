import RelayTerm.Account.Requests
import RelayTerm.Lib.Trim
/-!
# The session cookie

The account routes as HTTP: the `Origin` guard of the routes that write, the session
token in the `Cookie` header, and the `Set-Cookie` header that gives it out. Behind
them are the requests of `Account.Requests`.

`cookie_header_read` says what `extract_session_cookie` finds in the header a user
agent sends for the cookies it has.
-/
open RelayTerm.Lib

namespace RelayTerm.Account

open Auth (LoginRequest)

/-! ## Headers -/

abbrev HeaderValue := List UInt8

/-- `HeaderValue::to_str` takes what is visible, blanks and tabs. -/
def isVisibleAscii (b : UInt8) : Bool := (32 ≤ b.toNat && b.toNat < 127) || b.toNat = 9

def HeaderValue.toStr (value : HeaderValue) : Option (List Char) :=
  if value.all isVisibleAscii then some (value.map fun b => Char.ofNat b.toNat) else none

/-- The values of the two headers that are read; `HeaderMap::get` gives the first. -/
structure HeaderMap where
  cookie : List HeaderValue
  origin : List HeaderValue
  deriving DecidableEq, Repr

/-! ## The cookie -/

def sessionCookieName : List Char := "relayterm_session".toList

/-- The two sides of the first `=`. -/
def splitAtEq (pair : List Char) : Option (List Char × List Char) :=
  if '=' ∈ pair then some (pair.takeWhile (· ≠ '='), (pair.dropWhile (· ≠ '=')).tail) else none

theorem splitAtEq_append {name value : List Char} (hname : ∀ c ∈ name, c ≠ '=') :
    splitAtEq (name ++ '=' :: value) = some (name, value) := by
  have hplain : ∀ c ∈ name, decide (c ≠ '=') = true := fun c hc => decide_eq_true (hname c hc)
  have hmem : '=' ∈ name ++ '=' :: value := by simp
  rw [splitAtEq, if_pos hmem, List.takeWhile_append_of_pos hplain, List.dropWhile_append_of_pos hplain]
  simp

/-- The loop of `extract_session_cookie`: the first pair of the name decides. -/
def findSessionCookie : List (List Char) → Option (List Char)
  | [] => none
  | pair :: pairs => match splitAtEq (Auth.trim pair) with
    | none => findSessionCookie pairs
    | some (name, value) =>
      if name = sessionCookieName then if value = [] then none else some value
      else findSessionCookie pairs

def extractSessionCookie (headers : HeaderMap) : Option String := do
  let value ← headers.cookie.head?
  let raw ← HeaderValue.toStr value
  let token ← findSessionCookie (raw.splitOn ';')
  return String.ofList token

structure AuthRoutesConfig where
  cookieSecure : Bool
  cookieDomain : Option String
  allowedOrigins : List String
  deriving DecidableEq, Repr

def cookieAttributes (cfg : AuthRoutesConfig) : String :=
  (if cfg.cookieSecure then "; Secure" else "") ++
    match cfg.cookieDomain with
    | some d => "; Domain=" ++ d
    | none => ""

def buildSessionCookie (token : String) (cfg : AuthRoutesConfig) : String :=
  String.ofList sessionCookieName ++ "=" ++ token ++ "; HttpOnly; SameSite=Strict; Path=/; Max-Age=" ++
    toString (sessionTtl / Auth.nanosPerSecond) ++ cookieAttributes cfg

/-! ## The token -/

def sessionTokenBytes : Nat := 32

/-- What `OsRng` fills the buffer with. -/
structure TokenBytes where
  bytes : List UInt8
  length : bytes.length = sessionTokenBytes
  deriving DecidableEq, Repr

/-- `URL_SAFE_NO_PAD` of the base64 crate, by what a cookie needs of it. -/
structure TokenEncoder where
  encode : List UInt8 → String
  encode_plain : ∀ bytes, ∀ c ∈ (encode bytes).toList, c ≠ ';'
  encode_ne_empty : ∀ bytes, bytes ≠ [] → encode bytes ≠ ""

def SessionToken.generate (encoder : TokenEncoder) (random : TokenBytes) : String := encoder.encode random.bytes

/-! ## The origin guard -/

inductive CsrfOriginMismatch where
  | missing | notUtf8 | notAllowed
  deriving DecidableEq, Repr

def CsrfOriginMismatch.detail : CsrfOriginMismatch → String
  | .missing => "missing Origin header"
  | .notUtf8 => "Origin header is not valid UTF-8"
  | .notAllowed => "Origin not in allowed_origins"

def checkOrigin (headers : HeaderMap) (allowedOrigins : List String) : Except CsrfOriginMismatch Unit :=
  match headers.origin.head? with
  | none => .error .missing
  | some value => match HeaderValue.toStr value with
    | none => .error .notUtf8
    | some origin =>
      if !allowedOrigins.any fun allowed => allowed.toList = origin then .error .notAllowed else .ok ()

/-! ## The routes as HTTP -/

inductive Endpoint where
  | bootstrap (req : BootstrapRequest)
  | login (req : LoginRequest)
  | logout
  | authenticated (route : Route)
  deriving DecidableEq, Repr

/-- The handler takes a `CsrfGuard`. -/
def Endpoint.takesCsrfGuard : Endpoint → Bool
  | .authenticated .me | .authenticated .listSessions => false
  | _ => true

def Endpoint.request (headers : HeaderMap) : Endpoint → Request
  | .bootstrap req => .bootstrap req
  | .login req => .login req
  | .logout => .logout (extractSessionCookie headers)
  | .authenticated route => .authenticated route (extractSessionCookie headers)

structure AppState where
  config : Config
  encoder : TokenEncoder
  authRoutes : AuthRoutesConfig

inductive HttpEvent where
  | request (endpoint : Endpoint) (headers : HeaderMap) (now : Time)
  | resume (tid : TaskId) (ok : Bool) (now : Time) (random : TokenBytes)
  deriving DecidableEq, Repr

/-- The guard runs before the other extractors and the handler. -/
def AppState.extract (app : AppState) (endpoint : Endpoint) (headers : HeaderMap) :
    Except CsrfOriginMismatch Request := do
  if endpoint.takesCsrfGuard then checkOrigin headers app.authRoutes.allowedOrigins
  return endpoint.request headers

def AppState.event (app : AppState) : HttpEvent → Option Event
  | .request endpoint headers now => (app.extract endpoint headers).toOption.map (.request · now)
  | .resume tid ok now random => some (.resume tid ⟨ok, now, SessionToken.generate app.encoder random⟩)

/-- A request the guard refuses changes nothing. -/
def AppState.step (app : AppState) (s : Sys) (ev : HttpEvent) : Option Sys :=
  (app.event ev).elim (some s) (s.step app.config)

/-- The routes behind the guard see the requests that pass it. -/
theorem run_http (app : AppState) (evs : List HttpEvent) (s : Sys) :
    run app.step s evs = run (Sys.step app.config) s (evs.filterMap app.event) :=
  run_filterMap app.event evs s

/-! ## What a user agent sends -/

/-- What a user agent keeps of a `Set-Cookie` header: the pair before its attributes. -/
def setCookiePair (header : List Char) : Option (List Char × List Char) := splitAtEq (header.takeWhile (· ≠ ';'))

/-- A cookie that can stand in a header: it has no separator in it, and no blanks around it. -/
structure Cookie where
  name : List Char
  value : List Char
  name_plain : ∀ c ∈ name, 32 < c.toNat ∧ c.toNat < 127 ∧ c ≠ ';' ∧ c ≠ '='
  value_plain : ∀ c ∈ value, 32 ≤ c.toNat ∧ c.toNat < 127 ∧ c ≠ ';'
  value_trimmed : Trimmed HostKey.isWhitespace value

namespace Cookie

def pair (c : Cookie) : List Char := c.name ++ '=' :: c.value

/-- The `Cookie` header for the cookies a user agent has. -/
def header (jar : List Cookie) : HeaderValue :=
  ([';', ' '].intercalate (jar.map pair)).map fun c => UInt8.ofNat c.toNat

variable (c : Cookie)

theorem pair_plain : ∀ x ∈ c.pair, 32 ≤ x.toNat ∧ x.toNat < 127 ∧ x ≠ ';' := by
  intro x hx
  simp only [pair, List.mem_append, List.mem_cons] at hx
  rcases hx with hx | rfl | hx
  · obtain ⟨hlow, hhigh, hsep, -⟩ := c.name_plain x hx
    exact ⟨Nat.le_of_lt hlow, hhigh, hsep⟩
  · decide
  · exact c.value_plain x hx

theorem not_isWhitespace {x : Char} (hlow : 32 < x.toNat) (hhigh : x.toNat < 127) : HostKey.isWhitespace x = false := by
  simp only [HostKey.isWhitespace, Bool.or_eq_false_iff, Bool.and_eq_false_iff, decide_eq_false_iff_not,
    beq_eq_false_iff_ne]
  omega

theorem pair_trimmed : Trimmed HostKey.isWhitespace c.pair where
  head x hx := by
    cases hname : c.name with
    | nil =>
      simp only [pair, hname, List.nil_append, List.head?_cons, Option.some.injEq] at hx
      subst hx
      decide
    | cons y ys =>
      simp only [pair, hname, List.cons_append, List.head?_cons, Option.some.injEq] at hx
      subst hx
      obtain ⟨hlow, hhigh, -⟩ := c.name_plain y (by simp [hname])
      exact not_isWhitespace hlow hhigh
  last x hx := by
    rw [pair, List.getLast?_append, List.getLast?_cons] at hx
    cases hlast : c.value.getLast? with
    | none =>
      simp only [hlast, Option.getD_none, Option.some_or, Option.some.injEq] at hx
      subst hx
      decide
    | some y =>
      simp only [hlast, Option.getD_some, Option.some_or, Option.some.injEq] at hx
      subst hx
      exact c.value_trimmed.last y hlast

/-- Blanks in front of a pair go; the pair itself has none to lose. -/
theorem trim_pair (blanks : List Char) (hblank : ∀ x ∈ blanks, HostKey.isWhitespace x = true) :
    Auth.trim (blanks ++ c.pair) = c.pair := by
  unfold Auth.trim
  rw [List.dropWhile_append_of_pos hblank]
  exact trimEnds_eq_self_iff.2 c.pair_trimmed

theorem splitAtEq_pair : splitAtEq c.pair = some (c.name, c.value) :=
  splitAtEq_append fun x hx => (c.name_plain x hx).2.2.2

end Cookie

/-- The pairs of a header, each but the first behind a blank. -/
def spaced : List (List Char) → List (List Char)
  | [] => []
  | p :: ps => p :: ps.map (' ' :: ·)

theorem intercalate_spaced (pairs : List (List Char)) :
    [';', ' '].intercalate pairs = [';'].intercalate (spaced pairs) := by
  induction pairs with
  | nil => rfl
  | cons p pairs ih =>
    cases pairs with
    | nil => simp [spaced, List.intercalate]
    | cons q pairs =>
      rw [List.intercalate_cons_cons, ih]
      cases pairs with
      | nil => simp [spaced, List.intercalate]
      | cons r pairs => simp [spaced, List.intercalate_cons_cons]

theorem splitOn_intercalate_spaced {pairs : List (List Char)} (hplain : ∀ p ∈ pairs, ';' ∉ p) (hne : pairs ≠ []) :
    ([';', ' '].intercalate pairs).splitOn ';' = spaced pairs := by
  rw [intercalate_spaced]
  refine List.splitOn_intercalate ';' ?_ ?_
  · intro p hp
    cases pairs with
    | nil => cases hp
    | cons q pairs =>
      simp only [spaced, List.mem_cons, List.mem_map] at hp
      rcases hp with rfl | ⟨r, hr, rfl⟩
      · exact hplain p List.mem_cons_self
      · simpa using hplain r (List.mem_cons_of_mem q hr)
  · cases pairs with
    | nil => exact absurd rfl hne
    | cons q pairs => simp [spaced]

/-- A header value made of visible characters is read as those characters. -/
theorem toStr_map {text : List Char} (hplain : ∀ c ∈ text, 32 ≤ c.toNat ∧ c.toNat < 127) :
    HeaderValue.toStr (text.map fun c => UInt8.ofNat c.toNat) = some text := by
  have hbyte : ∀ c ∈ text, (UInt8.ofNat c.toNat).toNat = c.toNat := by
    intro c hc
    have := hplain c hc
    rw [UInt8.toNat_ofNat']
    omega
  have hall : (text.map fun c => UInt8.ofNat c.toNat).all isVisibleAscii = true := by
    simp only [List.all_map, List.all_eq_true, Function.comp_apply]
    intro c hc
    have := hplain c hc
    simp [isVisibleAscii, hbyte c hc, this]
  rw [HeaderValue.toStr, if_pos hall, List.map_map]
  congr 1
  refine (List.map_congr_left fun c hc => ?_).trans (List.map_id text)
  rw [Function.comp_apply, hbyte c hc, Char.ofNat_toNat]
  rfl

/-- The value of the first cookie with the name of the session cookie. -/
def sessionValue (jar : List Cookie) : Option (List Char) :=
  ((jar.find? fun c => c.name = sessionCookieName).map Cookie.value).filter (· ≠ [])

theorem findSessionCookie_cons (c : Cookie) (blanks : List Char)
    (hblank : ∀ x ∈ blanks, HostKey.isWhitespace x = true) (pairs : List (List Char)) :
    findSessionCookie ((blanks ++ c.pair) :: pairs) =
      if c.name = sessionCookieName then if c.value = [] then none else some c.value
      else findSessionCookie pairs := by
  rw [findSessionCookie, c.trim_pair blanks hblank, c.splitAtEq_pair]

theorem sessionValue_cons (c : Cookie) (jar : List Cookie) :
    sessionValue (c :: jar) =
      if c.name = sessionCookieName then if c.value = [] then none else some c.value else sessionValue jar := by
  unfold sessionValue
  by_cases hname : c.name = sessionCookieName
  · by_cases hvalue : c.value = []
    · simp [hname, hvalue]
    · simp [hname, hvalue]
  · simp [hname]

theorem findSessionCookie_spaced (jar : List Cookie) :
    findSessionCookie (jar.map fun c => ' ' :: c.pair) = sessionValue jar := by
  induction jar with
  | nil => rfl
  | cons c jar ih =>
    rw [List.map_cons, sessionValue_cons, ← ih]
    exact findSessionCookie_cons c [' '] (List.all_eq_true.1 (by decide)) _

theorem header_plain (jar : List Cookie) :
    ∀ c ∈ [';', ' '].intercalate (jar.map Cookie.pair), 32 ≤ c.toNat ∧ c.toNat < 127 := by
  have hpair : ∀ (c : Cookie), ∀ x ∈ c.pair, 32 ≤ x.toNat ∧ x.toNat < 127 := by
    intro c x hx
    exact ⟨(c.pair_plain x hx).1, (c.pair_plain x hx).2.1⟩
  induction jar with
  | nil => simp [List.intercalate]
  | cons c jar ih =>
    cases jar with
    | nil => simpa [List.intercalate] using hpair c
    | cons d jar =>
      intro x hx
      simp only [List.map_cons, List.intercalate_cons_cons, List.mem_append, List.mem_cons, List.not_mem_nil,
        or_false] at hx
      rcases hx with (hx | rfl | rfl) | hx
      · exact hpair c x hx
      · decide
      · decide
      · exact ih x hx

/-- **The session cookie is read by its exact name, whatever else is sent with it.**
Of the header a user agent sends for its cookies, the first one of that name is
found, and it counts unless it is empty. -/
theorem cookie_header_read (jar : List Cookie) (origin : List HeaderValue) :
    extractSessionCookie ⟨[Cookie.header jar], origin⟩ = (sessionValue jar).map String.ofList := by
  have hfound : findSessionCookie (([';', ' '].intercalate (jar.map Cookie.pair)).splitOn ';') = sessionValue jar := by
    cases jar with
    | nil => rfl
    | cons c jar =>
      have hplain : ∀ p ∈ (c :: jar).map Cookie.pair, ';' ∉ p := by
        intro p hp hsep
        obtain ⟨d, -, rfl⟩ := List.mem_map.1 hp
        exact (d.pair_plain ';' hsep).2.2 rfl
      rw [splitOn_intercalate_spaced hplain (by simp), sessionValue_cons, ← findSessionCookie_spaced jar,
        ← findSessionCookie_cons c [] (by simp)]
      simp [spaced, Function.comp_def]
  simp only [extractSessionCookie, Cookie.header, List.head?_cons, Option.bind_eq_bind, Option.bind_some,
    toStr_map (header_plain jar), hfound]
  cases sessionValue jar <;> rfl

end RelayTerm.Account
