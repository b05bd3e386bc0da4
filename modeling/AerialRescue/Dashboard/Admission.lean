import AerialRescue.Contracts.PlainText

/-!
# HTTP admission

`boundary/admission.py` of the dashboard API: the checks of the Host, of a
mutation's Origin and of its bearer that precede routing, with the parts of
`urllib.parse` they rely on.  An accessor of a split URL may raise, and what
escapes the middleware's one `except` clause escapes the middleware.
-/

namespace AerialRescue.Dashboard.Admission

open AerialRescue.Lib.Guard
open AerialRescue.Contracts
open AerialRescue.Contracts.Canonical

/-- The characters of a `str`. -/
abbrev Text := List Char

/-- What the middleware and the functions it calls raise. -/
inductive Raised where
  | apiError (code : String)
  | valueError
  /-- A `ValueError` of a codec. -/
  | unicodeDecodeError
  | typeError
deriving DecidableEq

/-! ## Splitting a URL -/

/-- What `urlsplit` takes from the rest of the standard library. -/
structure UrlHost where
  /-- `unicodedata.normalize("NFKC", ·)` -/
  nfkc : Text → Text
  /-- `str.lower` -/
  lower : Text → Text
  /-- `ipaddress.ip_address` makes an `IPv6Address` of the text. -/
  isIpv6 : Text → Bool

/-- `str.partition` with a separator of one character. -/
def partition (mark : Char) (text : Text) : Text × Bool × Text :=
  (text.takeWhile (· ≠ mark), text.contains mark,
    (text.dropWhile (· ≠ mark)).tail)

/-- `str.rpartition` with a separator of one character. -/
def rpartition (mark : Char) (text : Text) : Text × Bool × Text :=
  if text.contains mark then
    ((text.reverse.dropWhile (· ≠ mark)).tail.reverse, true,
      (text.reverse.takeWhile (· ≠ mark)).reverse)
  else ([], false, text)

/-- `SplitResult` -/
structure SplitResult where
  scheme : Text
  netloc : Text
  path : Text
  query : Text
  fragment : Text
deriving DecidableEq

namespace SplitResult

/-- `_userinfo` -/
def userinfo (parsed : SplitResult) : Option Text × Option Text :=
  let (info, haveInfo, _) := rpartition '@' parsed.netloc
  if haveInfo then
    let (username, havePassword, password) := partition ':' info
    (some username, if havePassword then some password else none)
  else (none, none)

def username (parsed : SplitResult) : Option Text := parsed.userinfo.1

def password (parsed : SplitResult) : Option Text := parsed.userinfo.2

/-- `_hostinfo`; an empty port is no port. -/
def hostinfo (parsed : SplitResult) : Text × Option Text :=
  let (_, _, hostPort) := rpartition '@' parsed.netloc
  let (_, haveBracket, bracketed) := partition '[' hostPort
  let (name, port) :=
    if haveBracket then
      let (name, _, behind) := partition ']' bracketed
      (name, (partition ':' behind).2.2)
    else
      let (name, _, port) := partition ':' hostPort
      (name, port)
  (name, if port = [] then none else some port)

/-- `hostname` -/
def hostname (host : UrlHost) (parsed : SplitResult) : Option Text :=
  let name := parsed.hostinfo.1
  if name = [] then none
  else
    let (address, zoned, zone) := partition '%' name
    some (host.lower address ++ (if zoned then '%' :: zone else []))

/-- The port text is a number that a port can have. -/
def isPortNumber (port : Text) : Bool :=
  port.all isDigit && Nat.ofDigitChars 10 port 0 ≤ 65535

/-- `port`, which raises when it is read. -/
def port (parsed : SplitResult) : Except Raised (Option Nat) :=
  match parsed.hostinfo.2 with
  | none => .ok none
  | some port => do
      ensure (isPortNumber port = true) .valueError
      pure (some (Nat.ofDigitChars 10 port 0))

end SplitResult

/-- C0 control characters and the space. -/
def isControlOrSpace (character : Char) : Bool :=
  character ≤ ' '

/-- The characters of a scheme. -/
def isSchemeCharacter (character : Char) : Bool :=
  isAlphanumeric character || character = '+' || character = '-' ||
    character = '.'

/-- The scheme in front of a URL, and what follows it. -/
def splitScheme (url : Text) : Text × Text :=
  let (scheme, found, rest) := partition ':' url
  match scheme with
  | first :: _ =>
      if found && (isLower first || isUpper first) &&
          scheme.all isSchemeCharacter then
        (scheme.map Char.toLower, rest)
      else ([], url)
  | [] => ([], url)

/-- `_splitnetloc`, behind the two slashes. -/
def splitNetloc (url : Text) : Text × Text :=
  let delimits := fun character =>
    character = '/' || character = '?' || character = '#'
  (url.takeWhile fun character => !delimits character,
    url.dropWhile fun character => !delimits character)

/-- `v[a-fA-F0-9]+\..+` -/
def isIpFuture (name : Text) : Bool :=
  match name with
  | 'v' :: rest =>
      let (version, found, address) := partition '.' rest
      !version.isEmpty && version.all (fun character =>
        isDigit character || ('a' ≤ character && character ≤ 'f') ||
          ('A' ≤ character && character ≤ 'F')) && found &&
        (address.takeWhile (· ≠ '\n')) = address && !address.isEmpty
  | _ => false

/-- The host name that `_check_bracketed_netloc` checks. -/
def bracketedName (netloc : Text) : Except Raised Text :=
  let hostPort := (rpartition '@' netloc).2.2
  let (before, haveBracket, bracketed) := partition '[' hostPort
  if haveBracket then do
    ensure (before = []) .valueError
    let (name, _, behind) := partition ']' bracketed
    ensure (behind = [] ∨ behind.head? = some ':') .valueError
    pure name
  else .ok (partition ':' hostPort).1

/-- `_check_bracketed_host` -/
def checkBracketedHost (host : UrlHost) (name : Text) : Except Raised Unit :=
  if name.head? = some 'v' then ensure (isIpFuture name = true) .valueError
  else ensure (host.isIpv6 name = true) .valueError

/-- `_check_bracketed_netloc` -/
def checkBracketedNetloc (host : UrlHost) (netloc : Text) :
    Except Raised Unit := do
  let name ← bracketedName netloc
  checkBracketedHost host name

/-- `_checknetloc` -/
def checkNetloc (host : UrlHost) (netloc : Text) : Except Raised Unit :=
  if netloc.all fun character => character ≤ '\x7f' then .ok ()
  else
    let kept := netloc.filter fun character =>
      character ≠ '@' && character ≠ ':' && character ≠ '#' &&
        character ≠ '?'
    let normalized := host.nfkc kept
    if kept = normalized then .ok ()
    else
      ensure
        (normalized.all (fun character =>
          character ≠ '/' && character ≠ '?' && character ≠ '#' &&
            character ≠ '@' && character ≠ ':') = true)
        .valueError

/-- Brackets stand in a network location together or not at all. -/
def checkBrackets (host : UrlHost) (netloc : Text) : Except Raised Unit :=
  if netloc.contains '[' = netloc.contains ']' then
    if netloc.contains '[' then checkBracketedNetloc host netloc else .ok ()
  else .error .valueError

/-- The network location of `urlsplit`, and what follows it. -/
def splitAuthority (host : UrlHost) (url : Text) :
    Except Raised (Text × Text) :=
  if ['/', '/'].isPrefixOf url then do
    let (netloc, rest) := splitNetloc (url.drop 2)
    checkBrackets host netloc
    pure (netloc, rest)
  else .ok ([], url)

/-- `urlsplit` -/
def urlsplit (host : UrlHost) (url : Text) : Except Raised SplitResult := do
  let stripped := (url.dropWhile isControlOrSpace).filter fun character =>
    character ≠ '\t' && character ≠ '\r' && character ≠ '\n'
  let (scheme, hierarchical) := splitScheme stripped
  let (netloc, rest) ← splitAuthority host hierarchical
  let (rest, _, fragment) := partition '#' rest
  let (path, _, query) := partition '?' rest
  checkNetloc host netloc
  pure ⟨scheme, netloc, path, query, fragment⟩

/-! ## Requests -/

/-- What the checks read of an ASGI scope. -/
structure Scope where
  isHttp : Bool
  method : String
  path : String
  headers : List (Bytes × Bytes)

/-- `bytes.lower` of one octet. -/
def lowerOctet (octet : UInt8) : UInt8 :=
  if 65 ≤ octet && octet ≤ 90 then octet + 32 else octet

/-- The octets of an ASCII name. -/
def asciiOctets (text : String) : Bytes := utf8 text.toList

/-- `_headers`: the repeated raw fields of a name. -/
def headerValues (scope : Scope) (name : String) : List Bytes :=
  (scope.headers.filter fun header =>
    header.1.map lowerOctet = asciiOctets name).map Prod.snd

/-- `octets.decode("ascii")` -/
def decodeAscii (octets : Bytes) : Except Raised Text := do
  ensure (octets.all (· < 128) = true) .unicodeDecodeError
  pure (octets.map fun octet => Char.ofNat octet.toNat)

/-- The white space that `str.strip` removes. -/
def isStripped (character : Char) : Bool :=
  ('\t' ≤ character && character ≤ '\r') ||
    ('\x1c' ≤ character && character ≤ ' ') || character = '\x85' ||
    character = '\u00a0' || character = '\u1680' ||
    ('\u2000' ≤ character && character ≤ '\u200a') ||
    character = '\u2028' || character = '\u2029' || character = '\u202f' ||
    character = '\u205f' || character = '\u3000'

/-- `text.strip()` -/
def strip (text : Text) : Text :=
  ((text.dropWhile isStripped).reverse.dropWhile isStripped).reverse

/-- `_is_mutation`, on the octets of the path. -/
def isMutationPath (path : Bytes) : Bool :=
  if path = asciiOctets "/api/v1/scenarios/current/reset" ||
      ((asciiOctets "/api/v1/scenarios/").isPrefixOf path &&
        (asciiOctets "/start").isSuffixOf path) then true
  else
    let parts := path.splitOn 47
    let missions :=
      [asciiOctets "", asciiOctets "api", asciiOctets "v1",
        asciiOctets "missions"]
    (parts.length = 6 && parts.take 4 = missions &&
        parts[4]? ≠ some [] && parts[5]? = some (asciiOctets "commands")) ||
      (parts.length = 8 && parts.take 4 = missions &&
        parts[4]? ≠ some [] && parts[5]? = some (asciiOctets "proposals") &&
        parts[6]? ≠ some [] && parts[7]? = some (asciiOctets "decisions"))

/-- `_is_mutation` -/
def isMutation (scope : Scope) : Bool :=
  scope.method = "POST" && isMutationPath (utf8 scope.path.toList)

/-! ## The checks -/

/-- A `try` whose clause makes the codec's error and `ValueError` false. -/
def falseOnValueError (body : Except Raised Bool) : Except Raised Bool :=
  match body with
  | .error .unicodeDecodeError => .ok false
  | .error .valueError => .ok false
  | others => others

/-- `_require_host` -/
def requireHost (host : UrlHost) (scope : Scope)
    (allowedHosts : List String) : Except Raised Unit :=
  match headerValues scope "host" with
  | [octets] => do
      let valid ← falseOnValueError do
        let value ← decodeAscii octets
        let parsed ← urlsplit host ('/' :: '/' :: value)
        if String.ofList value ∈ allowedHosts ∧
            parsed.hostname host ≠ none then do
          let port ← parsed.port
          pure (port ≠ none && parsed.username = none &&
            parsed.password = none && parsed.path = [] &&
            parsed.query = [] && parsed.fragment = [] &&
            strip value = value)
        else pure false
      ensure (valid = true) (.apiError "HOST_INVALID")
  | _ => .error (.apiError "HOST_INVALID")

/-- A scheme, a host name and a port. -/
abbrev OriginTuple := Text × Text × Nat

/-- `_origin_tuple`; the port accessor is read outside the `try`. -/
def originTuple (host : UrlHost) (value : Text) :
    Except Raised (Option OriginTuple) :=
  if value = [] ∨ value = "null".toList ∨ value = "*".toList ∨
      strip value ≠ value then .ok none
  else
    match urlsplit host value with
    | .error _ => .ok none
    | .ok parsed =>
        if parsed.scheme ≠ "http".toList ∧ parsed.scheme ≠ "https".toList then
          .ok none
        else
          match parsed.hostname host with
          | none => .ok none
          | some name => do
              match ← parsed.port with
              | none => pure none
              | some port =>
                  if parsed.username ≠ none ∨ parsed.password ≠ none ∨
                      parsed.path ≠ [] ∨ parsed.query ≠ [] ∨
                      parsed.fragment ≠ [] then
                    pure none
                  else pure (some (parsed.scheme, name, port))

/-- `_require_origin` -/
def requireOrigin (host : UrlHost) (scope : Scope) (expected : String) :
    Except Raised Unit :=
  match headerValues scope "origin" with
  | [octets] => do
      let value ← recast (fun _ => .apiError "ORIGIN_INVALID")
        (decodeAscii octets)
      let sent ← originTuple host value
      let configured ← originTuple host expected.toList
      ensure (sent = configured) (.apiError "ORIGIN_INVALID")
  | _ => .error (.apiError "ORIGIN_INVALID")

def isAsciiText (text : Text) : Bool :=
  text.all fun character => character ≤ '\x7f'

/-- `hmac.compare_digest` of two `str`, which have to be ASCII. -/
def compareDigest (left right : Text) : Except Raised Bool := do
  ensure (isAsciiText left = true ∧ isAsciiText right = true) .typeError
  pure (left = right)

/-- `_require_bearer` -/
def requireBearer (scope : Scope) (expected : String) : Except Raised Unit :=
  match headerValues scope "authorization" with
  | [octets] => do
      let value ← recast (fun _ => .apiError "AUTHENTICATION_FAILED")
        (decodeAscii octets)
      ensure ("Bearer ".toList.isPrefixOf value = true)
        (.apiError "AUTHENTICATION_FAILED")
      let equal ← compareDigest (value.drop 7) expected.toList
      ensure (equal = true) (.apiError "AUTHENTICATION_FAILED")
  | _ => .error (.apiError "AUTHENTICATION_FAILED")

/-- The retained settings.  The origin is an exact HTTP origin with a port, as
the application's settings require, and the bearer is ASCII. -/
structure Settings (host : UrlHost) where
  allowedHosts : List String
  dashboardOrigin : String
  bearer : String
  origin : OriginTuple
  originParses : originTuple host dashboardOrigin.toList = .ok (some origin)
  bearerAscii : isAsciiText bearer.toList = true

/-- What becomes of a request. -/
inductive Reply where
  /-- The downstream application is called. -/
  | passed
  /-- One `error_response` is sent. -/
  | refused (code : String)
deriving DecidableEq

/-- The checks of `AdmissionMiddleware.__call__` in their order. -/
def checks (host : UrlHost) (settings : Settings host) (scope : Scope) :
    Except Raised Unit := do
  requireHost host scope settings.allowedHosts
  if isMutation scope then do
    requireOrigin host scope settings.dashboardOrigin
    requireBearer scope settings.bearer

/-- `AdmissionMiddleware.__call__` -/
def admission (host : UrlHost) (settings : Settings host) (scope : Scope) :
    Except Raised Reply :=
  if scope.isHttp then
    match checks host settings scope with
    | .ok () => .ok .passed
    | .error (.apiError code) => .ok (.refused code)
    | .error raised => .error raised
  else .ok .passed

/-! ## The port accessor -/

/-- The text that was sent is split into an HTTP origin whose port text is no
port number. -/
def BadPort (host : UrlHost) (value : Text) : Prop :=
  ¬(value = [] ∨ value = "null".toList ∨ value = "*".toList ∨
      strip value ≠ value) ∧
    ∃ parsed, urlsplit host value = .ok parsed ∧
      (parsed.scheme = "http".toList ∨ parsed.scheme = "https".toList) ∧
        parsed.hostname host ≠ none ∧
          ∃ port, parsed.hostinfo.2 = some port ∧
            SplitResult.isPortNumber port = false

theorem port_eq_error {parsed : SplitResult} {raised : Raised} :
    parsed.port = .error raised ↔
      raised = .valueError ∧ ∃ port, parsed.hostinfo.2 = some port ∧
        SplitResult.isPortNumber port = false := by
  unfold SplitResult.port
  cases held : parsed.hostinfo.2 with
  | none => simp
  | some port =>
      simp only [bind_eq_error, ensure_eq_error, Option.some.injEq]
      constructor
      · rintro (⟨invalid, rfl⟩ | ⟨_, _, other⟩)
        · exact ⟨rfl, port, rfl, by simpa using invalid⟩
        · cases other
      · rintro ⟨rfl, _, rfl, invalid⟩
        exact .inl ⟨by simp [invalid], rfl⟩

theorem originTuple_eq_error {host : UrlHost} {value : Text}
    {raised : Raised} :
    originTuple host value = .error raised ↔
      raised = .valueError ∧ BadPort host value := by
  unfold originTuple BadPort
  split
  · rename_i special
    constructor
    · intro other
      cases other
    · rintro ⟨_, plain, _⟩
      exact absurd special plain
  rename_i plain
  split
  · rename_i unsplit
    simp [unsplit]
  rename_i parsed split
  split
  · rename_i foreign
    constructor
    · intro other
      cases other
    · rintro ⟨_, _, _, same, scheme, _⟩
      rw [split] at same
      cases same
      rcases scheme with http | https
      · exact absurd http foreign.1
      · exact absurd https foreign.2
  rename_i scheme
  split
  · rename_i unnamed
    constructor
    · intro other
      cases other
    · rintro ⟨_, _, _, same, _, named, _⟩
      rw [split] at same
      cases same
      exact absurd unnamed named
  rename_i name named
  have http : parsed.scheme = "http".toList ∨
      parsed.scheme = "https".toList := by
    by_contra neither
    exact scheme ⟨fun same => neither (.inl same),
      fun same => neither (.inr same)⟩
  rw [bind_eq_error]
  constructor
  · rintro (unread | ⟨port, _, other⟩)
    · rcases port_eq_error.1 unread with ⟨rfl, port, held, invalid⟩
      exact ⟨rfl, plain, parsed, split, http, by simp [named], port, held,
        invalid⟩
    · cases port with
      | none => cases other
      | some port =>
          dsimp only at other
          split at other <;> cases other
  · rintro ⟨rfl, _, _, same, _, _, port, held, invalid⟩
    rw [split] at same
    cases same
    exact .inl (port_eq_error.2 ⟨rfl, port, held, invalid⟩)

/-- A split URL is the origin, and nothing but it. -/
structure SameOrigin (host : UrlHost) (parsed : SplitResult)
    (origin : OriginTuple) : Prop where
  scheme : parsed.scheme = origin.1
  hostname : parsed.hostname host = some origin.2.1
  port : parsed.port = .ok (some origin.2.2)
  username : parsed.username = none
  password : parsed.password = none
  path : parsed.path = []
  query : parsed.query = []
  fragment : parsed.fragment = []

theorem originTuple_eq_some {host : UrlHost} {value : Text}
    {origin : OriginTuple}
    (parses : originTuple host value = .ok (some origin)) :
    ∃ parsed, urlsplit host value = .ok parsed ∧
      SameOrigin host parsed origin := by
  unfold originTuple at parses
  split at parses
  · cases parses
  split at parses
  · cases parses
  rename_i parsed split
  refine ⟨parsed, split, ?_⟩
  split at parses
  · cases parses
  split at parses
  · cases parses
  rename_i name named
  rcases bind_eq_ok.1 parses with ⟨port, read, parses⟩
  cases port with
  | none => cases parses
  | some port =>
      dsimp only at parses
      split at parses
      · cases parses
      rename_i bare
      simp only [not_or, not_not] at bare
      cases parses
      exact ⟨rfl, named, read, bare.1, bare.2.1, bare.2.2.1, bare.2.2.2.1,
        bare.2.2.2.2⟩

/-! ## What each check raises and admits -/

def IsApiError (raised : Raised) : Prop := ∃ code, raised = .apiError code

variable {host : UrlHost} {settings : Settings host} {scope : Scope}

theorem decodeAscii_raises (octets : Bytes) :
    FailsOnly (· = .unicodeDecodeError) (decodeAscii octets) :=
  .bind (.ensure rfl) fun _ => .ok _

def IsValueError (raised : Raised) : Prop :=
  raised = .valueError ∨ raised = .unicodeDecodeError

theorem checkBracketedNetloc_raises (netloc : Text) :
    FailsOnly IsValueError (checkBracketedNetloc host netloc) := by
  refine .bind ?_ fun name => ?_
  · unfold bracketedName
    dsimp only
    split
    · refine .bind (.ensure (.inl rfl)) fun _ => ?_
      exact .bind (.ensure (.inl rfl)) fun _ => .ok _
    · exact .ok _
  · unfold checkBracketedHost
    split
    · exact .ensure (.inl rfl)
    · exact .ensure (.inl rfl)

theorem checkNetloc_raises (netloc : Text) :
    FailsOnly IsValueError (checkNetloc host netloc) := by
  unfold checkNetloc
  split
  · exact .ok _
  · dsimp only
    split
    · exact .ok _
    · exact .ensure (.inl rfl)

theorem checkBrackets_raises (netloc : Text) :
    FailsOnly IsValueError (checkBrackets host netloc) := by
  unfold checkBrackets
  split
  · split
    · exact checkBracketedNetloc_raises netloc
    · exact .ok _
  · exact .error (.inl rfl)

theorem splitAuthority_raises (url : Text) :
    FailsOnly IsValueError (splitAuthority host url) := by
  unfold splitAuthority
  split
  · exact .bind (checkBrackets_raises _) fun _ => .ok _
  · exact .ok _

theorem urlsplit_raises (url : Text) :
    FailsOnly IsValueError (urlsplit host url) := by
  refine .bind (splitAuthority_raises _) fun split => ?_
  exact .bind (checkNetloc_raises _) fun _ => .ok _

theorem port_raises (parsed : SplitResult) :
    FailsOnly IsValueError parsed.port := by
  intro raised refused
  exact .inl (port_eq_error.1 refused).1

theorem falseOnValueError_ok {body : Except Raised Bool}
    (fails : FailsOnly IsValueError body) :
    ∃ valid, falseOnValueError body = .ok valid := by
  cases body with
  | ok valid => exact ⟨valid, rfl⟩
  | error raised =>
      rcases fails raised rfl with rfl | rfl
      · exact ⟨false, rfl⟩
      · exact ⟨false, rfl⟩

/-- The Host check raises nothing but its refusal. -/
theorem requireHost_raises (allowedHosts : List String) :
    FailsOnly IsApiError (requireHost host scope allowedHosts) := by
  unfold requireHost
  split
  · rename_i octets _
    have fails : FailsOnly IsValueError (do
        let value ← decodeAscii octets
        let parsed ← urlsplit host ('/' :: '/' :: value)
        if String.ofList value ∈ allowedHosts ∧
            parsed.hostname host ≠ none then do
          let port ← parsed.port
          pure (port ≠ none && parsed.username = none &&
            parsed.password = none && parsed.path = [] &&
            parsed.query = [] && parsed.fragment = [] &&
            strip value = value)
        else pure false) := by
      refine .bind ((decodeAscii_raises octets).imp fun _ => .inr) ?_
      intro value
      refine .bind (urlsplit_raises _) fun parsed => ?_
      split
      · exact .bind (port_raises parsed) fun _ => .ok _
      · exact .ok _
    rcases falseOnValueError_ok fails with ⟨valid, caught⟩
    rw [caught]
    exact .bind (.ok valid) fun _ => .ensure ⟨_, rfl⟩
  · exact .error ⟨_, rfl⟩

/-- A host that is let through is the one Host, and in the allowlist. -/
theorem requireHost_ok {allowedHosts : List String}
    (accepted : requireHost host scope allowedHosts = .ok ()) :
    ∃ octets value, headerValues scope "host" = [octets] ∧
      decodeAscii octets = .ok value ∧ String.ofList value ∈ allowedHosts := by
  unfold requireHost at accepted
  split at accepted
  · rename_i octets single
    rcases bind_eq_ok.1 accepted with ⟨valid, caught, holds⟩
    cases ensure_eq_ok.1 holds
    unfold falseOnValueError at caught
    split at caught
    · cases caught
    · cases caught
    rcases bind_eq_ok.1 caught with ⟨value, decoded, caught⟩
    rcases bind_eq_ok.1 caught with ⟨parsed, _, caught⟩
    split at caught
    · rename_i listed
      exact ⟨octets, value, single, decoded, listed.1⟩
    · cases caught
  · cases accepted

/-- The Origin check raises its refusal, or what its port accessor raises. -/
theorem requireOrigin_raises {raised : Raised} :
    requireOrigin host scope settings.dashboardOrigin = .error raised →
      IsApiError raised ∨
        ∃ octets value, headerValues scope "origin" = [octets] ∧
          decodeAscii octets = .ok value ∧ BadPort host value := by
  intro refused
  unfold requireOrigin at refused
  split at refused
  · rename_i octets single
    rcases bind_eq_error.1 refused with undecoded | ⟨value, decoded, refused⟩
    · rcases recast_eq_error.1 undecoded with ⟨_, _, rfl⟩
      exact .inl ⟨_, rfl⟩
    have text := recast_eq_ok.1 decoded
    rcases bind_eq_error.1 refused with unread | ⟨sent, _, refused⟩
    · exact .inr ⟨octets, value, single, text,
        (originTuple_eq_error.1 unread).2⟩
    rw [settings.originParses] at refused
    rcases bind_eq_error.1 refused with other | ⟨_, _, refused⟩
    · cases other
    · exact .inl ⟨_, (ensure_eq_error.1 refused).2.symm⟩
  · cases refused
    exact .inl ⟨_, rfl⟩

theorem requireOrigin_badPort {octets : Bytes} {value : Text}
    (single : headerValues scope "origin" = [octets])
    (decoded : decodeAscii octets = .ok value) (bad : BadPort host value) :
    requireOrigin host scope settings.dashboardOrigin =
      .error .valueError := by
  unfold requireOrigin
  rw [single]
  refine bind_eq_error.2 (.inr ⟨value, recast_eq_ok.2 decoded, ?_⟩)
  exact bind_eq_error.2 (.inl (originTuple_eq_error.2 ⟨rfl, bad⟩))

theorem requireOrigin_ok
    (accepted : requireOrigin host scope settings.dashboardOrigin = .ok ()) :
    ∃ octets value parsed, headerValues scope "origin" = [octets] ∧
      decodeAscii octets = .ok value ∧ urlsplit host value = .ok parsed ∧
        SameOrigin host parsed settings.origin := by
  unfold requireOrigin at accepted
  split at accepted
  · rename_i octets single
    rcases bind_eq_ok.1 accepted with ⟨value, decoded, accepted⟩
    rcases bind_eq_ok.1 accepted with ⟨sent, read, accepted⟩
    rw [settings.originParses] at accepted
    rcases bind_eq_ok.1 accepted with ⟨_, same, accepted⟩
    cases same
    cases ensure_eq_ok.1 accepted
    rcases originTuple_eq_some read with ⟨parsed, split, origin⟩
    exact ⟨octets, value, parsed, single, recast_eq_ok.1 decoded, split,
      origin⟩
  · cases accepted

theorem utf8EncodeChar_ascii :
    ∀ number < 128,
      String.utf8EncodeChar (Char.ofNat number) = [UInt8.ofNat number] ∧
        Char.ofNat number ≤ '\x7f' := by
  decide

/-- A text that was decoded as ASCII has the octets it was decoded from. -/
theorem decodeAscii_ok {octets : Bytes} {value : Text}
    (decoded : decodeAscii octets = .ok value) :
    utf8 value = octets ∧ isAsciiText value = true := by
  simp only [decodeAscii, bind_eq_ok, ensure_eq_ok, pure_eq_ok] at decoded
  rcases decoded with ⟨_, ascii, rfl⟩
  induction octets with
  | nil => exact ⟨rfl, rfl⟩
  | cons first rest inductionHypothesis =>
      rw [List.all_cons, Bool.and_eq_true, decide_eq_true_eq] at ascii
      have small : first.toNat < 128 := UInt8.lt_iff_toNat_lt.1 ascii.1
      have here := utf8EncodeChar_ascii first.toNat small
      rcases inductionHypothesis ascii.2 with ⟨encoded, text⟩
      constructor
      · rw [List.map_cons, utf8, List.flatMap_cons, here.1]
        change UInt8.ofNat first.toNat :: utf8 _ = _
        rw [encoded, UInt8.ofNat_toNat]
      · rw [isAsciiText, List.map_cons, List.all_cons, Bool.and_eq_true]
        exact ⟨by simpa using here.2, text⟩

/-- The bearer check raises nothing but its refusal. -/
theorem requireBearer_raises :
    FailsOnly IsApiError (requireBearer scope settings.bearer) := by
  unfold requireBearer
  split
  · rename_i octets _
    refine .bindOf (.recast fun _ => ⟨_, rfl⟩) fun value decoded => ?_
    refine .bind (.ensure ⟨_, rfl⟩) fun _ => ?_
    have ascii : isAsciiText (value.drop 7) = true := by
      have all := (decodeAscii_ok (recast_eq_ok.1 decoded)).2
      rw [isAsciiText, List.all_eq_true] at all ⊢
      intro character held
      exact all character (List.mem_of_mem_drop held)
    refine .bind ?_ fun _ => .ensure ⟨_, rfl⟩
    rw [compareDigest, ensure_of ⟨ascii, settings.bearerAscii⟩]
    exact .ok _
  · exact .error ⟨_, rfl⟩

/-- The one Authorization field is the configured bearer's. -/
theorem requireBearer_ok
    (accepted : requireBearer scope settings.bearer = .ok ()) :
    headerValues scope "authorization" =
      [asciiOctets ("Bearer " ++ settings.bearer)] := by
  unfold requireBearer at accepted
  split at accepted
  · rename_i octets single
    rcases bind_eq_ok.1 accepted with ⟨value, decoded, accepted⟩
    rcases bind_eq_ok.1 accepted with ⟨_, begins, accepted⟩
    rcases bind_eq_ok.1 accepted with ⟨equal, compared, accepted⟩
    have same := ensure_eq_ok.1 accepted
    subst same
    simp only [compareDigest, bind_eq_ok, pure_eq_ok, decide_eq_true_eq]
      at compared
    rcases compared with ⟨_, _, same⟩
    rcases List.isPrefixOf_iff_prefix.1 (ensure_eq_ok.1 begins) with
      ⟨token, rfl⟩
    have whole : "Bearer ".toList ++ token =
        ("Bearer " ++ settings.bearer).toList := by
      rw [String.toList_append, ← same]
      rfl
    rw [single, asciiOctets, ← whole,
      (decodeAscii_ok (recast_eq_ok.1 decoded)).1]
  · cases accepted

/-! ## Mutations -/

/-- A path level of a mission's mutation. -/
structure Level (part : Bytes) : Prop where
  nonempty : part ≠ []
  level : (47 : UInt8) ∉ part

/-- The four shapes of a state-changing path. -/
inductive MutationShape : Bytes → Prop where
  | reset : MutationShape (asciiOctets "/api/v1/scenarios/current/reset")
  | start (scenario : Bytes) :
      MutationShape
        (asciiOctets "/api/v1/scenarios/" ++ scenario ++
          asciiOctets "/start")
  | command (mission : Bytes) (level : Level mission) :
      MutationShape
        (asciiOctets "/api/v1/missions/" ++ mission ++
          asciiOctets "/commands")
  | decision (mission proposal : Bytes) (level : Level mission)
      (other : Level proposal) :
      MutationShape
        (asciiOctets "/api/v1/missions/" ++ mission ++
          asciiOctets "/proposals/" ++ proposal ++ asciiOctets "/decisions")

theorem splitOn_levels {parts : List Bytes}
    (levels : ∀ part ∈ parts, (47 : UInt8) ∉ part) (some : parts ≠ []) :
    ([47].intercalate parts).splitOn 47 = parts :=
  List.splitOn_intercalate 47 levels some

theorem isMutationPath_of_shape {path : Bytes} (shape : MutationShape path) :
    isMutationPath path = true := by
  cases shape with
  | reset => decide
  | start scenario =>
      have begins : (asciiOctets "/api/v1/scenarios/").isPrefixOf
          (asciiOctets "/api/v1/scenarios/" ++ scenario ++
            asciiOctets "/start") = true := by
        rw [List.append_assoc]
        exact List.isPrefixOf_iff_prefix.2 (List.prefix_append _ _)
      have ends : (asciiOctets "/start").isSuffixOf
          (asciiOctets "/api/v1/scenarios/" ++ scenario ++
            asciiOctets "/start") = true :=
        List.isSuffixOf_iff_suffix.2 (List.suffix_append _ _)
      rw [isMutationPath, begins, ends]
      simp
  | command mission level =>
      have whole :
          asciiOctets "/api/v1/missions/" ++ mission ++
              asciiOctets "/commands" =
            [47].intercalate
              [asciiOctets "", asciiOctets "api", asciiOctets "v1",
                asciiOctets "missions", mission, asciiOctets "commands"] := by
        rw [List.append_assoc]
        rfl
      have levels : ∀ part ∈ [asciiOctets "", asciiOctets "api",
          asciiOctets "v1", asciiOctets "missions", mission,
          asciiOctets "commands"], (47 : UInt8) ∉ part := by
        intro part held
        simp only [List.mem_cons, List.not_mem_nil, or_false] at held
        rcases held with rfl | rfl | rfl | rfl | rfl | rfl
        case inr.inr.inr.inr.inl => exact level.level
        all_goals decide
      rw [whole, isMutationPath]
      split
      · rfl
      · dsimp only
        rw [splitOn_levels levels (by simp)]
        simp [level.nonempty]
  | decision mission proposal level other =>
      have whole :
          asciiOctets "/api/v1/missions/" ++ mission ++
              asciiOctets "/proposals/" ++ proposal ++
              asciiOctets "/decisions" =
            [47].intercalate
              [asciiOctets "", asciiOctets "api", asciiOctets "v1",
                asciiOctets "missions", mission, asciiOctets "proposals",
                proposal, asciiOctets "decisions"] := by
        rw [List.append_assoc, List.append_assoc, List.append_assoc]
        rfl
      have levels : ∀ part ∈ [asciiOctets "", asciiOctets "api",
          asciiOctets "v1", asciiOctets "missions", mission,
          asciiOctets "proposals", proposal, asciiOctets "decisions"],
          (47 : UInt8) ∉ part := by
        intro part held
        simp only [List.mem_cons, List.not_mem_nil, or_false] at held
        rcases held with rfl | rfl | rfl | rfl | rfl | rfl | rfl | rfl
        case inr.inr.inr.inr.inl => exact level.level
        case inr.inr.inr.inr.inr.inr.inl => exact other.level
        all_goals decide
      rw [whole, isMutationPath]
      split
      · rfl
      · dsimp only
        rw [splitOn_levels levels (by simp)]
        simp [level.nonempty, other.nonempty]

/-! ## Admission -/

/-- What a mutation carries that is passed on. -/
structure Admitted (host : UrlHost) (settings : Settings host)
    (scope : Scope) : Prop where
  hostHeader : ∃ octets value, headerValues scope "host" = [octets] ∧
    decodeAscii octets = .ok value ∧
      String.ofList value ∈ settings.allowedHosts
  originHeader : ∃ octets value parsed,
    headerValues scope "origin" = [octets] ∧
      decodeAscii octets = .ok value ∧ urlsplit host value = .ok parsed ∧
        SameOrigin host parsed settings.origin
  bearerHeader : headerValues scope "authorization" =
    [asciiOctets ("Bearer " ++ settings.bearer)]

/-- The Origin check is reached by one ASCII Origin whose port accessor
raises. -/
def ReachesBadPort (host : UrlHost) (settings : Settings host)
    (scope : Scope) : Prop :=
  requireHost host scope settings.allowedHosts = .ok () ∧
    isMutation scope = true ∧
      ∃ octets value, headerValues scope "origin" = [octets] ∧
        decodeAscii octets = .ok value ∧ BadPort host value

/-- A request is passed on or refused with nothing raised, and a mutation is
passed on only with its three headers. -/
def Lawful (host : UrlHost) (settings : Settings host) (scope : Scope) :
    Prop :=
  (admission host settings scope = .ok .passed ∨
      ∃ code, admission host settings scope = .ok (.refused code)) ∧
    (scope.method = "POST" → MutationShape (utf8 scope.path.toList) →
      admission host settings scope = .ok .passed →
        Admitted host settings scope)

theorem checks_ok_mutation (mutation : isMutation scope = true)
    (accepted : checks host settings scope = .ok ()) :
    Admitted host settings scope := by
  rcases bind_eq_ok.1 accepted with ⟨_, named, accepted⟩
  rw [if_pos mutation] at accepted
  rcases bind_eq_ok.1 accepted with ⟨_, origin, bearer⟩
  exact ⟨requireHost_ok named, requireOrigin_ok origin,
    requireBearer_ok bearer⟩

/-- Only the port accessor of the Origin gets past the `except` clause. -/
theorem checks_raises {raised : Raised}
    (refused : checks host settings scope = .error raised) :
    IsApiError raised ∨ ReachesBadPort host settings scope := by
  rcases bind_eq_error.1 refused with unnamed | ⟨_, named, refused⟩
  · exact .inl (requireHost_raises _ _ unnamed)
  split at refused
  · rename_i mutation
    rcases bind_eq_error.1 refused with foreign | ⟨_, _, unauthorized⟩
    · rcases requireOrigin_raises foreign with refusal | bad
      · exact .inl refusal
      · exact .inr ⟨named, mutation, bad⟩
    · exact .inl (requireBearer_raises _ unauthorized)
  · cases refused

theorem checks_badPort (bad : ReachesBadPort host settings scope) :
    checks host settings scope = .error .valueError := by
  rcases bad with ⟨named, mutation, octets, value, single, decoded, bad⟩
  refine bind_eq_error.2 (.inr ⟨(), named, ?_⟩)
  rw [if_pos mutation]
  exact bind_eq_error.2 (.inl (requireOrigin_badPort single decoded bad))

/-- The library functions on ASCII text without brackets. -/
def asciiHost : UrlHost where
  nfkc := id
  lower := List.map Char.toLower
  isIpv6 _ := false

def localSettings : Settings asciiHost where
  allowedHosts := ["127.0.0.1:8080"]
  dashboardOrigin := "http://127.0.0.1:8080"
  bearer := "secret"
  origin := ("http".toList, "127.0.0.1".toList, 8080)
  originParses := by decide +kernel
  bearerAscii := by decide

/-- A reset whose Origin has a port beyond the range of ports. -/
def distantPort : Scope where
  isHttp := true
  method := "POST"
  path := "/api/v1/scenarios/current/reset"
  headers :=
    [(asciiOctets "host", asciiOctets "127.0.0.1:8080"),
      (asciiOctets "origin", asciiOctets "http://127.0.0.1:99999"),
      (asciiOctets "authorization", asciiOctets "Bearer secret")]

end AerialRescue.Dashboard.Admission
