import Mathlib.Algebra.Order.Floor.Ring
import Mathlib.Data.Rat.Floor
import PatrolBot.Library.Base64
import PatrolBot.Library.JsonText
import PatrolBot.Library.Machine
import PatrolBot.Py

/-!
# Signing in

`server/app/authentication`, the guards of `server/app/main.py` and of the endpoints, the
re-derived user of `tuning/authz.py` and the start-up checks of `server/app/settings.py`: a
server with no sessions of its own, whose cookies are signed claims, under settings that a
restart may change.

The documents that the server signs are flat dictionaries of numbers and texts.  Times are
exact, in seconds.
-/

namespace PatrolBot.SignIn

open JsonText (Numbers Value)

/-! ### Claims -/

inductive Claim where
  | number (n : Int)
  | text (value : String)
deriving DecidableEq

/-- A flat dictionary. -/
abbrev Claims := List (String × Claim)

def Claim.toValue : Claim → Value Empty
  | .number n => .int n
  | .text value => .str value

/-- No floating-point number is written; `sys.get_int_max_str_digits()` is 4300. -/
def noReals : Numbers Empty where
  digits := 4300
  text := Empty.elim
  read _ := none
  accepts := Empty.elim
  token_of_mem := fun x => x.elim
  marked := fun x => x.elim
  read_text := fun x => x.elim

def document (claims : Claims) : Value Empty :=
  .obj (claims.map fun claim => (claim.1, claim.2.toValue))

/-- `json.dumps(payload, separators=(",", ":")).encode()`, or `none` where it raises; the text
    is ASCII, so its characters are its bytes. -/
def dumps (claims : Claims) : Option (List UInt8) :=
  if JsonText.writable noReals (document claims) then
    some ((JsonText.text noReals (document claims)).map fun c => UInt8.ofNat c.toNat)
  else none

/-- `dict(payload, key=claim)`. -/
def Claims.set (key : String) (claim : Claim) : Claims → Claims
  | [] => [(key, claim)]
  | entry :: claims =>
    if entry.1 = key then (key, claim) :: claims else entry :: Claims.set key claim claims

/-- What the standard library does for the server. -/
structure Platform where
  /-- The hexadecimal digest of a message under a key. -/
  hexdigest : String → List Char → List Char
  hex : ∀ key message, ∀ c ∈ hexdigest key message, c ∈ "0123456789abcdef".toList
  /-- `json.loads`, of the documents that the server signs. -/
  loads : List UInt8 → Option Claims
  loads_dumps : ∀ claims bytes, (claims.map Prod.fst).Nodup → dumps claims = some bytes →
    loads bytes = some claims

section

variable (platform : Platform)

/-! ### Tokens -/

/-- `token.rsplit(".", 1)`, of a text with a point in it. -/
def splitLast (token : List Char) : Option (List Char × List Char) :=
  if '.' ∈ token then
    some ((token.reverse.dropWhile (· ≠ '.')).tail.reverse,
      (token.reverse.takeWhile (· ≠ '.')).reverse)
  else none

def isAscii (text : List Char) : Bool := text.all fun c => decide (c.toNat < 128)

/-- `issue`, or `none` where it raises. -/
def issue (secret : String) (user : Claims) (ttl : Int) (now : ℚ) : Option (List Char) :=
  (dumps (user.set "exp" (.number (⌊now⌋ + ttl)))).map fun bytes =>
    let raw := Base64.encode bytes
    raw ++ '.' :: platform.hexdigest secret raw

/-- What `verify` answers: it may raise, too. -/
inductive Verdict where
  | raised
  | refused
  | session (claims : Claims)
deriving DecidableEq

/-- `payload.get("exp", 0) < time.time()`; a text is not compared with a number. -/
def expired (claims : Claims) (now : ℚ) : Option Bool :=
  match (claims.lookup "exp").getD (.number 0) with
  | .number n => some (decide ((n : ℚ) < now))
  | .text _ => none

/-- `verify`.  `compare_digest` raises on a text that is not ASCII, and so does the decoder,
    in front of an `except`. -/
def verify (secret : String) (token : Option (List Char)) (now : ℚ) : Verdict :=
  match token.bind splitLast with
  | none => .refused
  | some (raw, signature) =>
    if isAscii signature = false then .raised
    else if platform.hexdigest secret raw ≠ signature then .refused
    else match if isAscii raw then (Base64.decode raw).bind platform.loads else none with
      | none => .refused
      | some claims => match expired claims now with
        | none => .raised
        | some true => .refused
        | some false => .session claims

/-! ### Settings -/

structure Settings where
  authMode : String := "local"
  oidcIssuer : String := ""
  oidcClientId : String := ""
  oidcClientSecret : String := ""
  oidcRedirectUrl : String := ""
  adminUsernames : String := ""
  operatorUsernames : String := ""
  allowedUsernames : String := ""
  oidcEmailDomain : String := "andrew.cmu.edu"
  sessionSecret : String := "dev-session-secret"
  sessionTtlS : Int := 43200
  allowedOrigins : String := ""
  robotToken : String := "dev-token"
  environment : String := "development"
deriving DecidableEq

/-- The names of a list with commas. -/
def names (text : String) : List String :=
  ((text.toList.splitOn ',').map fun name => strip (String.ofList name)).filter
    fun name => name ≠ ""

namespace Settings

variable (settings : Settings)

def isProduction : Bool := lower (strip settings.environment) == "production"

/-- The problems `validate_startup` lists. -/
def problems : List String :=
  if settings.isProduction then
    (if settings.authMode ≠ "oidc" then
        ["PATROLBOT_AUTH_MODE must be 'oidc' in production (no anonymous local access)."]
      else []) ++
    (if settings.sessionSecret = "dev-session-secret" ∨ settings.sessionSecret = "" then
        ["PATROLBOT_SESSION_SECRET must be set to a non-default value."] else []) ++
    (if settings.robotToken = "dev-token" ∨ settings.robotToken = "" then
        ["PATROLBOT_ROBOT_TOKEN must be set to a non-default value."] else []) ++
    (([("PATROLBOT_OIDC_ISSUER", settings.oidcIssuer),
        ("PATROLBOT_OIDC_CLIENT_ID", settings.oidcClientId),
        ("PATROLBOT_OIDC_CLIENT_SECRET", settings.oidcClientSecret),
        ("PATROLBOT_OIDC_REDIRECT_URL", settings.oidcRedirectUrl)].filter fun entry =>
          entry.2 = "").map fun entry => entry.1 ++ " must be configured for OIDC.") ++
    (if settings.oidcEmailDomain = "" ∧ settings.allowedUsernames = "" then
        ["Set PATROLBOT_OIDC_EMAIL_DOMAIN (or PATROLBOT_ALLOWED_USERNAMES) " ++
          "to restrict who may sign in."] else []) ++
    (if settings.allowedOrigins = "" then
        ["PATROLBOT_ALLOWED_ORIGINS must list the dashboard origin(s)."] else []) ++
    (if settings.oidcRedirectUrl ≠ "" ∧
        ¬"https://".toList <+: (lower settings.oidcRedirectUrl).toList then
        ["PATROLBOT_OIDC_REDIRECT_URL must be https:// (TLS) in production."] else [])
  else []

end Settings

/-! ### The login flow -/

/-- `email_verified`, as far as it is looked at. -/
inductive EmailVerified where
  | flag (value : Bool)
  | text (value : String)
  | other
deriving DecidableEq

/-- `email_verified is True or str(email_verified).lower() == "true"`. -/
def EmailVerified.holds : EmailVerified → Bool
  | .flag value => value
  | .text value => lower value == "true"
  | .other => false

/-- What the provider says about a user. -/
structure UserInfo where
  email : Option String
  emailVerified : EmailVerified
  preferredUsername : Option String
  sub : Option String
  name : Option String
deriving DecidableEq

/-- A text that is not there, or empty, is falsy. -/
def nonempty (text : Option String) : Option String := text.filter fun text => text ≠ ""

/-- `_role_for`. -/
def roleFor (settings : Settings) (username : String) : String :=
  if username ∈ names settings.adminUsernames then "administrator"
  else if username ∈ names settings.operatorUsernames then "operator"
  else "observer"

/-- `_is_allowed`. -/
def isAllowed (settings : Settings) (username : String) : Bool :=
  decide (names settings.allowedUsernames = []) ||
    decide (username ∈ names settings.allowedUsernames)

/-- `_domain_ok`. -/
def domainOk (settings : Settings) (email : Option String) (verified : EmailVerified) : Bool :=
  let domain := lower (strip settings.oidcEmailDomain)
  if domain = "" then true
  else match nonempty email with
    | none => false
    | some email =>
      verified.holds && decide (("@" ++ domain).toList <:+ (lower (strip email)).toList)

/-- The name a user signs in under: the part before the first at sign, in lower case. -/
def UserInfo.username (info : UserInfo) : Option String :=
  (nonempty info.preferredUsername <|> nonempty info.email <|> info.sub).map fun name =>
    lower (String.ofList (name.toList.takeWhile (· ≠ '@')))

def stateTtlS : Int := 600

/-- The cookies that the server sets. -/
inductive Cookie where
  | session
  | oidc
deriving DecidableEq

structure User where
  id : Int
  username : String
  displayName : String
  role : String
deriving DecidableEq

def User.canCommand (user : User) : Bool := user.role == "operator" || user.role == "administrator"

def User.isAdministrator (user : User) : Bool := user.role == "administrator"

/-- The seeded operator of the local mode. -/
def localUser : User := ⟨1, "local", "Local Operator", "administrator"⟩

def User.claims (user : User) : Claims :=
  [("id", .number user.id), ("username", .text user.username),
    ("display_name", .text user.displayName), ("role", .text user.role)]

/-- The claims of a login attempt. -/
def stateClaims (state verifier : String) : Claims :=
  [("state", .text state), ("verifier", .text verifier)]

def Claims.number (claims : Claims) (key : String) : Option Int :=
  match claims.lookup key with
  | some (.number n) => some n
  | _ => none

def Claims.text (claims : Claims) (key : String) : Option String :=
  match claims.lookup key with
  | some (.text value) => some value
  | _ => none

/-- `_user_from_session`, or `none` where it raises. -/
def userFromSession (claims : Claims) : Option User := do
  let id ← claims.number "id"
  let username ← claims.text "username"
  let displayName ← claims.text "display_name"
  let role ← claims.text "role"
  pure ⟨id, username, displayName, role⟩

/-! ### Endpoints -/

/-- Who an endpoint asks for. -/
inductive Endpoint where
  /-- Health, the pages and the login flow. -/
  | free
  /-- Under `/api/`, with no user among its dependencies. -/
  | bare
  | user
  | operator
  | administrator
  | tuningRead
  | tuningChange
  /-- `/ws/ui`, from an origin. -/
  | socket (origin : Option String)
deriving DecidableEq

/-- The readings of the clock of the middleware, of `get_current_user` and of `fresh_user`. -/
structure Readings where
  gate : ℚ
  user : ℚ
  fresh : ℚ
deriving DecidableEq

inductive Answer where
  | served (user : Option User)
  | refused (status : Nat)
deriving DecidableEq

variable (settings : Settings)

/-- `get_current_user`; what raises is answered with 500. -/
def currentUser (token : Option (List Char)) (now : ℚ) : Except Nat User :=
  if settings.authMode ≠ "oidc" then .ok localUser
  else match verify platform settings.sessionSecret token now with
    | .raised => .error 500
    | .refused => .error 401
    | .session claims => match userFromSession claims with
      | none => .error 500
      | some user => .ok user

/-- `user_from_session`: the name must still be allowed, and the role is that of today. -/
def freshFromSession (claims : Claims) : Option User := do
  let username ← claims.text "username"
  guard (isAllowed settings username)
  let id ← claims.number "id"
  pure ⟨id, username, (claims.text "display_name").getD username, roleFor settings username⟩

/-- `current_tuning_user`, behind `get_current_user`. -/
def tuningUser (token : Option (List Char)) (readings : Readings) : Except Nat User := do
  let user ← currentUser platform settings token readings.user
  if settings.authMode ≠ "oidc" then pure user
  else match verify platform settings.sessionSecret token readings.fresh with
    | .raised => .error 500
    | .refused => .error 401
    | .session claims => match freshFromSession settings claims with
      | none => .error 401
      | some user => .ok user

/-- The dependencies of an endpoint: the user it is served to. -/
def depend (endpoint : Endpoint) (token : Option (List Char)) (readings : Readings) :
    Except Nat (Option User) :=
  match endpoint with
  | .user => (currentUser platform settings token readings.user).map some
  | .operator => do
    let user ← currentUser platform settings token readings.user
    if user.canCommand then pure (some user) else .error 403
  | .administrator => do
    let user ← currentUser platform settings token readings.user
    if user.isAdministrator then pure (some user) else .error 403
  | .tuningRead => (tuningUser platform settings token readings).map some
  | .tuningChange => do
    let user ← tuningUser platform settings token readings
    if user.isAdministrator then pure (some user) else .error 403
  | _ => .ok none

/-- `require_session`, in front of the endpoints under `/api/`. -/
def requireSession (token : Option (List Char)) (now : ℚ) : Except Nat Unit :=
  if settings.authMode ≠ "oidc" then .ok ()
  else match verify platform settings.sessionSecret token now with
    | .raised => .error 500
    | .refused => .error 401
    | .session _ => .ok ()

/-- `_origin_allowed`. -/
def originAllowed (origin : Option String) : Bool :=
  decide (names settings.allowedOrigins = []) ||
    origin.any fun origin => decide (origin ∈ names settings.allowedOrigins)

/-- The answer to a request with a session cookie. -/
def authorize (endpoint : Endpoint) (token : Option (List Char)) (readings : Readings) :
    Except Nat (Option User) :=
  match endpoint with
  | .free => .ok none
  | .socket origin =>
    if originAllowed settings origin then
      match currentUser platform settings token readings.user with
      | .ok user => .ok (some user)
      | .error status => .error (if status = 401 then 4401 else status)
    else .error 4403
  | endpoint => do
    requireSession platform settings token readings.gate
    depend platform settings endpoint token readings

def answer (endpoint : Endpoint) (token : Option (List Char)) (readings : Readings) : Answer :=
  match authorize platform settings endpoint token readings with
  | .ok user => .served user
  | .error status => .refused status

/-! ### The server -/

inductive Event where
  /-- The server is started, or started again, under these settings. -/
  | start (settings : Settings)
  /-- `/auth/login` has found the provider. -/
  | login (state verifier : String) (now : ℚ)
  /-- `/auth/callback`, with the `patrolbot_oidc` cookie; `info` is what the provider says of
      the user, unless the exchange fails, and `userId` what the database does. -/
  | callback (token : Option (List Char)) (code state : String) (info : Option UserInfo)
      (userId : Int) (verifiedAt issuedAt : ℚ)
  | request (endpoint : Endpoint) (token : Option (List Char)) (readings : Readings)
deriving DecidableEq

inductive Effect where
  | setCookie (cookie : Cookie) (token : List Char)
  | answered (answer : Answer)
deriving DecidableEq

/-- The user that a callback signs in, or the status it answers with. -/
def signIn (info : Option UserInfo) (userId : Int) : Except Nat User :=
  match info with
  | none => .error 500
  | some info =>
    if domainOk settings info.email info.emailVerified then
      match info.username with
      | none => .error 500
      | some username =>
        if isAllowed settings username then
          .ok ⟨userId, username, (nonempty info.name).getD username, roleFor settings username⟩
        else .error 403
    else .error 403

/-- `callback`. -/
def callback (token : Option (List Char)) (code state : String) (info : Option UserInfo)
    (userId : Int) (verifiedAt issuedAt : ℚ) : List Effect :=
  match verify platform settings.sessionSecret token verifiedAt with
  | .raised => [.answered (.refused 500)]
  | .refused => [.answered (.refused 400)]
  | .session claims =>
    if code = "" ∨ claims.text "state" ≠ some state then [.answered (.refused 400)]
    else if (claims.text "verifier").isNone then [.answered (.refused 500)]
    else match signIn settings info userId with
      | .error status => [.answered (.refused status)]
      | .ok user =>
        match issue platform settings.sessionSecret user.claims settings.sessionTtlS issuedAt with
        | none => [.answered (.refused 500)]
        | some token => [.setCookie .session token]

def step : Option Settings → Event → Option Settings × List Effect
  | _, .start settings => (if settings.problems = [] then some settings else none, [])
  | none, _ => (none, [])
  | some settings, .login state verifier now =>
    (some settings,
      match issue platform settings.sessionSecret (stateClaims state verifier) stateTtlS now with
      | none => [.answered (.refused 500)]
      | some token => [.setCookie .oidc token])
  | some settings, .callback token code state info userId verifiedAt issuedAt =>
    (some settings,
      callback platform settings token code state info userId verifiedAt issuedAt)
  | some settings, .request endpoint token readings =>
    (some settings, [.answered (answer platform settings endpoint token readings)])

def server : Machine (Option Settings) Event Effect where
  step := step platform

end

end PatrolBot.SignIn
