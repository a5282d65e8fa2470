import PatrolBot.TuningSigning

/-!
# The bridge's filter for tuning wrappers

`patrolbot_web_bridge/tuning.py` up to `wrapper_reason`: the robot checks the
shape of what the server sends before it hands it to the core.  A request the
server admits must pass, or it is a change that can never be made.
-/

namespace PatrolBot.Tuning

/-! ### Users and their actor blocks -/

/-- The fields of a `User` that name its actor. -/
structure User where
  id : Int
  username : String
  role : String
deriving DecidableEq

/-- `actor_from_user`, or `none` where it raises. -/
def actorFromUser (user : User) : Option Json :=
  if roles.contains user.role ∧ 1 ≤ user.username.length ∧ user.username.length ≤ maxUsername then
    some (.obj [("id", .int user.id), ("username", .str user.username), ("role", .str user.role)])
  else none

/-- The operation of a request. -/
def operationOf (request : Json) : String := (asText (part request "operation")).getD ""

/-- The wrapper the broker sends for a request: signed when it is a mutation. -/
def wrapperOf (floats : FloatTexts) (hmac : List UInt8 → List Char → String) (key : List UInt8)
    (robotId : String) (now : PyFloat) (request actor : Json) : Signing Json :=
  let wrapper := .obj [("request", request), ("actor", actor)]
  if operationOf request ∈ mutationOperations then sign floats hmac wrapper key robotId now
  else .ok wrapper

/-! ### The bridge's checks -/

namespace Bridge

/-- `MAX_ROBOT_ID`. -/
def maxRobotId : Nat := 128

/-- `MAX_REQUEST_BYTES`. -/
def maxRequestBytes : Nat := 18 * 1024

/-- `MAX_AUTHORIZATION_LIFETIME_MS`. -/
def maxAuthorizationLifetimeMs : Int := 30000

/-- `MAX_SAFE_INT`. -/
def maxSafeInt : Int := 2 ^ 53 - 1

/-- A check that answers with the reason of its refusal. -/
abbrev Passed := Except String Unit

/-- `if not c: return reason`. -/
def ensure (c : Prop) [Decidable c] (reason : String) : Passed :=
  if c then .ok () else .error reason

@[simp] theorem ensure_eq_ok {c : Prop} [Decidable c] {reason : String} {u : Unit} :
    ensure c reason = .ok u ↔ c := by
  unfold ensure
  split <;> simp_all

/-- The lifetime of `_authorization_reason`. -/
def lifetimeReason (issued expires : Json) : Passed :=
  match strictInt issued, strictInt expires with
  | some issued, some expires =>
    ensure (0 ≤ issued ∧ 0 ≤ expires ∧ issued ≤ maxSafeInt ∧ expires ≤ maxSafeInt ∧
        0 < expires - issued ∧ expires - issued ≤ maxAuthorizationLifetimeMs)
      "The tuning authorization lifetime is invalid."
  | _, _ => .error "The tuning authorization lifetime is invalid."

/-- `_authorization_reason`. -/
def authorizationReason (authorization : Json) : Passed :=
  match entries authorization with
  | none => .error "The tuning authorization is malformed."
  | some claims => do
    ensure (Json.hasExactly claims claimKeys) "The tuning authorization is malformed."
    ensure (strictInt (Json.get claims "version") = some 1)
      "The tuning authorization is malformed."
    ensure ((asText (Json.get claims "robot_id")).any fun robotId =>
        1 ≤ robotId.length ∧ robotId.length ≤ maxRobotId)
      "The tuning authorization robot binding is invalid."
    lifetimeReason (Json.get claims "issued_at_ms") (Json.get claims "expires_at_ms")
    ensure ((asText (Json.get claims "signature")).any isDigest)
      "The tuning authorization is malformed."

/-- The checks of `wrapper_reason` on the actor. -/
def actorReason (actor : Json) : Passed :=
  match entries actor with
  | none => .error "The tuning actor block is invalid."
  | some fields =>
    ensure (Json.hasExactly fields ["id", "username", "role"] ∧
        (strictInt (Json.get fields "id")).isSome ∧
        ((asText (Json.get fields "username")).any fun username =>
          1 ≤ username.length ∧ username.length ≤ maxUsername) ∧
        (asText (Json.get fields "role")).any fun role => roles.contains role)
      "The tuning actor block is invalid."

/-- The fields `extras` adds to those of every operation. -/
def extras : String → List String
  | "status" => ["job_id"]
  | "save" => ["base_revision", "changes"]
  | "apply" => ["expected_revision"]
  | "redeploy" => ["expected_revision"]
  | "restore" => ["expected_revision", "restore_revision", "target"]
  | _ => []

/-- A revision of an operation that has it. -/
def revisionReason (operation : String) (request : List (String × Json)) (key : String) : Passed :=
  if (extras operation).contains key then
    ensure ((strictInt (Json.get request key)).any fun revision =>
        0 ≤ revision ∧ revision ≤ maxSafeInt)
      "The tuning revision is invalid."
  else .ok ()

/-- `type(value) in (int, float, bool)`, a float being finite. -/
def changeValue : Json → Bool
  | .int _ => true
  | .bool _ => true
  | .float value => value.isFinite
  | _ => false

/-- One change, with the ids of those before it; answers with its own. -/
def changeReason (change : Json) (ids : List String) : Except String String :=
  match entries change with
  | none => .error "The change shape is invalid."
  | some fields => do
    ensure (Json.hasExactly fields ["id", "value"]) "The change shape is invalid."
    match asText (Json.get fields "id") with
    | none => .error "The change identifier is invalid."
    | some pid =>
      ensure (pid.length ≤ 64 ∧ logicalIdPattern pid.toList ∧ pid ∉ ids)
        "The change identifier is invalid."
      ensure (changeValue (Json.get fields "value")) "The change value is invalid."
      pure pid

/-- The loop over the changes. -/
def changesReason : List Json → List String → Passed
  | [], _ => .ok ()
  | change :: changes, ids => do
    let pid ← changeReason change ids
    changesReason changes (ids ++ [pid])

/-- The changes of a save. -/
def saveReason (changes : Json) : Passed :=
  match changes with
  | .list changes => do
    ensure (1 ≤ changes.length ∧ changes.length ≤ 32) "The change batch is invalid."
    changesReason changes []
  | _ => .error "The change batch is invalid."

/-- The fields each operation adds. -/
def operationReason (operation : String) (request : List (String × Json)) : Passed := do
  ensure ((∀ key ∈ request.map Prod.fst, key ∈ commonKeys ++ extras operation) ∧
      ∀ key ∈ commonKeys, key ∈ request.map Prod.fst)
    "The tuning request has unexpected fields."
  revisionReason operation request "base_revision"
  revisionReason operation request "expected_revision"
  revisionReason operation request "restore_revision"
  ensure (operation = "restore" → isText (Json.get request "target") "last_known_good")
    "The restore target is invalid."
  ensure (operation = "status" → (Json.lookup "job_id" request).isSome →
      (canonicalUuid (Json.get request "job_id")).isSome)
    "The tuning job id is invalid."
  if operation = "save" then saveReason (Json.get request "changes") else pure ()

/-- The generation a request is bound to. -/
def generationReason (generation : Json) : Passed :=
  match entries generation with
  | none => .error "The tuning generation binding is invalid."
  | some fields =>
    ensure (Json.hasExactly fields ["capability", "session_id"] ∧
        isText (Json.get fields "capability") capability ∧
        (canonicalUuid (Json.get fields "session_id")).isSome)
      "The tuning generation binding is invalid."

/-- The authorization of a wrapper whose operation is known. -/
def authorityReason (operation : String) (actor : Json) (authorization : Option Json) :
    Passed := do
  ensure (operation ∉ ["read", "status"] → isText (part actor "role") "administrator")
    "Changing tuning requires an administrator."
  match authorization with
  | some authorization => authorizationReason authorization
  | none =>
    ensure (operation ∉ mutationOperations)
      "Changing tuning requires a signed server authorization."

/-- The checks of `wrapper_reason` on the request. -/
def requestReason (request actor : Json) (authorization : Option Json) : Passed :=
  match entries request with
  | none => .error "The tuning request is malformed."
  | some fields => do
    ensure (isText (Json.get fields "contract") contractName ∧
        strictInt (Json.get fields "version") = some contractVersion)
      "The tuning contract is not supported."
    match asText (Json.get fields "operation") with
    | none => .error "The tuning operation is not supported."
    | some operation =>
      ensure (operation ∈ operations) "The tuning operation is not supported."
      authorityReason operation actor authorization
      operationReason operation fields
      ensure (canonicalUuid (Json.get fields "request_id")).isSome
        "The tuning request id is not canonical."
      generationReason (Json.get fields "generation")

/-- `wrapper.get("authorization")`, `None` being no authorization. -/
def authorizationOf (fields : List (String × Json)) : Option Json :=
  match Json.get fields "authorization" with
  | .null => none
  | authorization => some authorization

/-- The size of the wrapper as the bridge writes it. -/
def sizeReason (floats : FloatTexts) (wrapper : Json) : Passed :=
  match floats.dumps wrapper with
  | none => .error "The tuning envelope is not serializable."
  | some raw => ensure (raw.length ≤ maxRequestBytes) "The tuning envelope is too large."

/-- The checks of `wrapper_reason`. -/
def checkWrapper (floats : FloatTexts) (wrapper : Json) : Passed :=
  match entries wrapper with
  | none => .error "The tuning envelope is malformed."
  | some fields => do
    ensure ((∀ key ∈ ["request", "actor"], key ∈ fields.map Prod.fst) ∧
        ∀ key ∈ fields.map Prod.fst, key ∈ ["request", "actor", "authorization"])
      "The tuning envelope is malformed."
    actorReason (Json.get fields "actor")
    requestReason (Json.get fields "request") (Json.get fields "actor") (authorizationOf fields)
    sizeReason floats wrapper

/-- `wrapper_reason`: the reason of a refusal, or `None`. -/
def wrapperReason (floats : FloatTexts) (wrapper : Json) : Option String :=
  match checkWrapper floats wrapper with
  | .ok () => none
  | .error reason => some reason

end Bridge

end PatrolBot.Tuning
