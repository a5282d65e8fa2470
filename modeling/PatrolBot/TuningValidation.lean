import PatrolBot.TuningRegistry

/-!
# The server's filter for tuning requests

`tuning/validation.py` up to `validate_request`, and `validate_actor`: what is
forwarded to a robot is a bounded JSON object of known shape whose changes name
editable parameters, lie inside the reviewed bounds and keep the constraints
between parameters.  A check that fails names its code and its sentence.
-/

namespace PatrolBot.Tuning

/-! ### Constants -/

/-- `CONTRACT`. -/
def contractName : String := "patrolbot-robot-tuning"

/-- `CONTRACT_VERSION`. -/
def contractVersion : Int := 1

/-- `CAPABILITY`, also `MUTATION_CAPABILITY`. -/
def capability : String := "robot_tuning_v1"

/-- `OPERATIONS`. -/
def operations : List String := ["read", "save", "apply", "redeploy", "status", "restore"]

/-- `MUTATION_OPERATIONS`. -/
def mutationOperations : List String := ["save", "apply", "redeploy", "restore"]

/-- `REQUEST_MAX_BYTES`. -/
def requestMaxBytes : Nat := 18 * 1024

/-- `RESPONSE_MAX_BYTES`. -/
def responseMaxBytes : Nat := 256 * 1024

/-- `MAX_DEPTH`. -/
def maxDepth : Nat := 32

/-- `MAX_ITEMS`. -/
def maxItems : Nat := 8192

/-- `MAX_CHANGES`. -/
def maxChanges : Nat := 32

/-- `MAX_DETAIL`. -/
def maxDetail : Nat := 512

/-- `MAX_USERNAME`. -/
def maxUsername : Nat := 128

/-- `_ROLES`. -/
def roles : List String := ["administrator", "operator", "observer"]

/-! ### Checks and their failures -/

/-- `TuningInvalid`. -/
structure Invalid where
  detail : Message
  code : String

abbrev Checked (α : Type) := Except Invalid α

/-- `if not c: raise`. -/
def require (c : Prop) [Decidable c] (detail : Message) (code : String) : Checked Unit :=
  if c then .ok () else .error ⟨detail, code⟩

@[simp] theorem require_eq_ok {c : Prop} [Decidable c] {detail : Message} {code : String}
    {u : Unit} : require c detail code = .ok u ↔ c := by
  unfold require
  split <;> simp_all

theorem bind_eq_ok {ε α β : Type} {x : Except ε α} {f : α → Except ε β} {b : β} :
    (x >>= f) = .ok b ↔ ∃ a, x = .ok a ∧ f a = .ok b := by
  cases x with
  | error e => simp [bind, Except.bind]
  | ok a => simp [bind, Except.bind]

/-- The code of a failed check. -/
def failureCode {α : Type} : Checked α → Option String
  | .ok _ => none
  | .error problem => some problem.code

theorem failureCode_eq_some {α : Type} {x : Checked α} {code : String} :
    failureCode x = some code ↔ ∃ problem, x = .error problem ∧ problem.code = code := by
  cases x <;> simp [failureCode]

theorem failureCode_eq_none {α : Type} {x : Checked α} :
    failureCode x = none ↔ ∃ a, x = .ok a := by
  cases x <;> simp [failureCode]

/-! ### Primitive checks -/

def lowerHex (c : Char) : Bool :=
  ('0' ≤ c && c ≤ '9') || ('a' ≤ c && c ≤ 'f')

/-- The 8-4-4-4-12 form in lower case, which `UUID` prints back unchanged. -/
def uuidShape (characters : List Char) : Bool :=
  decide (characters.length = 36) &&
    characters.zipIdx.all fun (c, i) =>
      if i = 8 ∨ i = 13 ∨ i = 18 ∨ i = 23 then c == '-' else lowerHex c

/-- `canonical_uuid`. -/
def canonicalUuid : Json → Option String
  | .str value => if uuidShape value.toList then some value else none
  | _ => none

/-- `_has_path_injection`. -/
def hasPathInjection (text : String) : Bool :=
  let characters := text.toList
  let rec doubleDot : List Char → Bool
    | '.' :: '.' :: _ => true
    | _ :: rest => doubleDot rest
    | [] => false
  doubleDot characters || characters.contains '/' || characters.contains '\\' ||
    characters.contains '\x00'

/-- A character of `[a-z0-9_]`. -/
def idCharacter (c : Char) : Bool :=
  ('a' ≤ c && c ≤ 'z') || ('0' ≤ c && c ≤ '9') || c == '_'

/-- The rest of a dotted identifier; `fresh` when a segment has just begun. -/
def logicalTail (fresh : Bool) : List Char → Bool
  | [] => !fresh
  | '.' :: rest => !fresh && logicalTail true rest
  | c :: rest => idCharacter c && logicalTail false rest

/-- `LOGICAL_ID.fullmatch`. -/
def logicalIdPattern : List Char → Bool
  | [] => false
  | c :: rest => ('a' ≤ c && c ≤ 'z') && logicalTail false rest

/-- `_is_logical_id`. -/
def isLogicalId (text : String) : Bool :=
  decide (text.length ≤ 64) && logicalIdPattern text.toList

/-! ### The bounded scan -/

/-- The counters of `_scan`. -/
structure ScanCount where
  items : Nat := 0
  total : Nat := 0

def tooLarge : Invalid := ⟨["The request is too large."], "payload_too_large"⟩

/-- One text of the payload, a key or a value. -/
def scanText (maxBytes : Nat) (text : String) (count : ScanCount) : Checked ScanCount :=
  if text.length > maxBytes then .error tooLarge
  else .ok { count with total := count.total + text.utf8ByteSize }

/-- The keys of one object, as they are pushed. -/
def scanKeys (maxBytes : Nat) : List String → ScanCount → Checked ScanCount
  | [], count => .ok count
  | key :: keys, count =>
    if count.items + 1 > maxItems then
      .error ⟨["The request has too many fields."], "payload_too_large"⟩
    else do
      let count ← scanText maxBytes key { count with items := count.items + 1 }
      scanKeys maxBytes keys count

/-- The items of one array, as they are pushed. -/
def scanItems (length : Nat) (count : ScanCount) : Checked ScanCount :=
  if length = 0 then .ok count
  else if count.items + length > maxItems then
    .error ⟨["The request has too many items."], "payload_too_large"⟩
  else .ok { count with items := count.items + length }

/-- What a node itself adds to the counters. -/
def scanNode (maxBytes depth : Nat) (node : Json) (count : ScanCount) : Checked ScanCount :=
  if depth > maxDepth then .error ⟨["The request is nested too deeply."], "payload_too_deep"⟩
  else
    let eight : ScanCount := { count with total := count.total + 8 }
    let counted : Checked ScanCount := match node with
      | .null | .bool _ => .ok eight
      | .float value =>
        if value.isFinite then .ok eight
        else .error ⟨["Non-finite numbers are not allowed."], "non_finite_number"⟩
      | .int n =>
        if n.natAbs > maxInt then .error ⟨["Integer value out of range."], "integer_too_large"⟩
        else .ok eight
      | .str text => scanText maxBytes text count
      | .list items => scanItems items.length eight
      | .obj fields => scanKeys maxBytes (fields.map Prod.fst) eight
    match counted with
    | .error reason => .error reason
    | .ok count => if count.total > maxBytes then .error tooLarge else .ok count

mutual

/-- `_scan`: the node itself, then what hangs below it, the child pushed last
    first. -/
def scanValue (maxBytes depth : Nat) : Json → ScanCount → Checked ScanCount
  | .list items, count => do
    let count ← scanNode maxBytes depth (.list items) count
    scanList maxBytes (depth + 1) items count
  | .obj fields, count => do
    let count ← scanNode maxBytes depth (.obj fields) count
    scanFields maxBytes (depth + 1) fields count
  | node, count => scanNode maxBytes depth node count

def scanList (maxBytes depth : Nat) : List Json → ScanCount → Checked ScanCount
  | [], count => .ok count
  | item :: items, count => do
    let count ← scanList maxBytes depth items count
    scanValue maxBytes depth item count

def scanFields (maxBytes depth : Nat) : List (String × Json) → ScanCount → Checked ScanCount
  | [], count => .ok count
  | (_, value) :: fields, count => do
    let count ← scanFields maxBytes depth fields count
    scanValue maxBytes depth value count

end

/-- `_scan`. -/
def scan (maxBytes : Nat) (value : Json) : Checked ScanCount := scanValue maxBytes 0 value {}

/-! ### Registry semantics -/

/-- `f"{n}"` of a bound. -/
def boundText (bound : ℚ) : Piece := .repr (.float (.finite bound))

def checkLower (entry : Parameter) (value : ℚ) : Checked Unit :=
  match entry.bounds.lower with
  | none => .ok ()
  | some lower =>
    if entry.bounds.lowerInclusive then
      require (lower ≤ value)
        [entry.id, " is below the reviewed lower bound ", boundText lower, "."] "out_of_bounds"
    else
      require (lower < value) [entry.id, " must be greater than ", boundText lower, "."]
        "out_of_bounds"

def checkUpper (entry : Parameter) (value : ℚ) : Checked Unit :=
  match entry.bounds.upper with
  | none => .ok ()
  | some upper =>
    if entry.bounds.upperInclusive then
      require (value ≤ upper)
        [entry.id, " is above the reviewed upper bound ", boundText upper, "."] "out_of_bounds"
    else
      require (value < upper) [entry.id, " must be less than ", boundText upper, "."]
        "out_of_bounds"

/-- `_check_bounds`. -/
def checkBounds (entry : Parameter) (value : ℚ) : Checked Unit := do
  checkLower entry value
  checkUpper entry value

/-- `_check_value`. -/
def checkValue (entry : Parameter) (value : Json) (withBounds : Bool) : Checked Unit :=
  match value with
  | .bool _ =>
    require (entry.type = .boolean)
      [entry.id, " expects a ", entry.type.text, ", got a boolean."] "bool_as_number"
  | value =>
    if entry.type = .number ∨ entry.type = .integer then
      match finiteValue value with
      | none => .error ⟨[entry.id, " expects a finite ", entry.type.text, "."], "bad_type"⟩
      | some number => do
        require (entry.type = .integer → (strictInt value).isSome)
          [entry.id, " expects an integer."] "bad_type"
        if withBounds then checkBounds entry number else pure ()
    else .error ⟨[entry.id, " expects a ", entry.type.text, "."], "bad_type"⟩

/-- `not isinstance(value, str)`. -/
def notText : Json → Bool
  | .str _ => false
  | _ => true

/-- `_check_change`, which answers with the parameter and its new value. -/
def checkChange (change : Json) (index : Index) : Checked (String × Json) :=
  match change with
  | .obj fields => do
    let extra := (fields.map Prod.fst).filter fun key => !(["id", "value"].contains key)
    require (extra = []) ["Unknown change field(s): ", .names extra, "."] "unknown_field"
    match Json.get fields "id" with
    | .str pid =>
      require (¬hasPathInjection pid) ["change.id must be a logical identifier."] "path_injection"
      match index.lookup pid with
      | none => .error ⟨["Unknown tuning parameter: ", .repr (.str pid), "."], "unknown_logical_id"⟩
      | some entry =>
        require (¬entry.isProtected) [pid, " is protected and never editable."]
          "protected_parameter"
        require (¬entry.notApplicable) [pid, " does not apply to this robot."] "not_applicable"
        require entry.acceptsEdits [pid, " is read-only."] "not_editable"
        match Json.lookup "value" fields with
        | none => .error ⟨[pid, " is missing a value."], "missing_field"⟩
        | some value =>
          require (notText value) ["Tuning values cannot be strings."] "bad_type"
          checkValue entry value true
          pure (pid, value)
    | _ => .error ⟨["change.id must be a logical identifier."], "path_injection"⟩
  | _ => .error ⟨["Each change must be an object."], "bad_type"⟩

/-- The loop over the changes of a save: their values in order, with no
    parameter named twice. -/
def checkChanges (index : Index) :
    List Json → List (String × Json) → Checked (List (String × Json))
  | [], resolved => .ok resolved
  | change :: changes, resolved => do
    let (pid, value) ← checkChange change index
    require (pid ∉ resolved.map Prod.fst) ["Duplicate change for ", .repr (.str pid), "."]
      "duplicate_change_id"
    checkChanges index changes (resolved ++ [(pid, value)])

/-- An element of `_dependency_edges`. -/
structure Edge where
  source : String
  target : String
  kind : String
  equals : Option ℚ
  tolerance : ℚ

/-- `_dependency_edges`. -/
def dependencyEdges (index : Index) : List Edge :=
  index.flatMap fun (pid, entry) =>
    entry.dependencies.map fun dependency =>
      ⟨pid, dependency.target, dependency.kind, dependency.equals,
        dependency.tolerance.getD (1 / 1000000000)⟩

/-- `_resolved_value`: an operand the batch leaves alone has its packaged
    default. -/
def resolvedValue (pid : String) (resolved : List (String × Json)) (index : Index) : Json :=
  match resolved.lookup pid with
  | some value => value
  | none => match index.lookup pid with
    | none => .null
    | some entry => entry.default

/-- The value kinds a slower source of which is never rewritten. -/
def speedKind (kind : String) : Bool := kind == "speed" || kind == "angular_speed"

/-- What one edge of `_check_dependencies` raises. -/
def edgeProblem (edge : Edge) (index : Index) (resolved : List (String × Json)) : Option Invalid :=
  match finiteValue (resolvedValue edge.source resolved index),
    finiteValue (resolvedValue edge.target resolved index) with
  | some left, some right =>
    if edge.kind = "less_than_or_equal" then
      if left > right then
        if edge.source ∉ resolved.map Prod.fst ∧
            (index.lookup edge.source).any fun entry => speedKind entry.valueKind then none
        else some ⟨[edge.source, " must be <= ", edge.target, "."], "dependency_violation"⟩
      else none
    else if edge.kind = "sum_equals" then
      let coherent := match edge.equals with
        | none => false
        | some total => decide (|(left + right) - total| ≤ edge.tolerance)
      if coherent then none
      else some ⟨[edge.source, " and ", edge.target, " must be coherent."], "dependency_violation"⟩
    else none
  | _, _ =>
    some ⟨["Dependency ", edge.source, " -> ", edge.target, " has a non-numeric operand."],
      "invalid_dependency_operand"⟩

/-- An edge with an end in the batch. -/
def Edge.touched (edge : Edge) (resolved : List (String × Json)) : Bool :=
  (resolved.map Prod.fst).contains edge.source || (resolved.map Prod.fst).contains edge.target

/-- `_check_dependencies`: the first edge that fails. -/
def checkDependencies (index : Index) (resolved : List (String × Json)) : Checked Unit :=
  match ((dependencyEdges index).filter (·.touched resolved)).findSome? fun edge =>
      edgeProblem edge index resolved with
  | some problem => .error problem
  | none => .ok ()

/-! ### Requests -/

/-- The text of a `str`. -/
def asText : Json → Option String
  | .str value => some value
  | _ => none

/-- `data.get(key) == text`. -/
def isText (value : Json) (text : String) : Bool := (asText value).any fun value => value == text

/-- `_check_generation`. -/
def checkGeneration (payload : List (String × Json)) : Checked Unit :=
  match Json.get payload "generation" with
  | .obj generation => do
    require (Json.hasExactly generation ["capability", "session_id"])
      ["generation has unexpected fields."] "unknown_field"
    require (isText (Json.get generation "capability") capability)
      ["generation.capability is not this contract's capability."] "bad_const"
    require (canonicalUuid (Json.get generation "session_id")).isSome
      ["generation.session_id must be a canonical UUID."] "bad_pattern"
  | _ => .error ⟨["generation must be an object."], "bad_type"⟩

/-- `_check_revision`. -/
def checkRevision (payload : List (String × Json)) (key : String) : Checked Int :=
  match Json.lookup key payload with
  | none => .error ⟨[key, " is required."], "missing_field"⟩
  | some value => match strictInt value with
    | none => .error ⟨[key, " must be an integer revision."], "bad_type"⟩
    | some revision => do
      require (0 ≤ revision ∧ revision ≤ jsSafeInt)
        [key, " must be a non-negative JS-safe revision."] "out_of_bounds"
      pure revision

def commonKeys : List String := ["contract", "version", "operation", "request_id", "generation"]

/-- `_REQUIRED_KEYS`. -/
def requiredKeys : String → List String
  | "save" => commonKeys ++ ["base_revision", "changes"]
  | "apply" | "redeploy" => commonKeys ++ ["expected_revision"]
  | "restore" => commonKeys ++ ["expected_revision", "restore_revision", "target"]
  | _ => commonKeys

/-- `_ALLOWED_KEYS`. -/
def allowedKeys : String → List String
  | "status" => requiredKeys "status" ++ ["job_id"]
  | operation => requiredKeys operation

/-- The changes of a save, each on its own. -/
def checkSave (payload : List (String × Json)) (index : Index) :
    Checked (List (String × Json)) := do
  let _ ← checkRevision payload "base_revision"
  match Json.get payload "changes" with
  | .list changes =>
    require (1 ≤ changes.length ∧ changes.length ≤ maxChanges)
      ["changes must be a list of 1..32 entries."] "out_of_bounds"
    checkChanges index changes []
  | _ => .error ⟨["changes must be a list of 1..32 entries."], "out_of_bounds"⟩

/-- What the operation asks of the fields of its own. -/
def checkOperation (operation : String) (payload : List (String × Json)) (index : Index) :
    Checked Unit :=
  match operation with
  | "save" => do
    let resolved ← checkSave payload index
    checkDependencies index resolved
  | "apply" | "redeploy" => do
    let _ ← checkRevision payload "expected_revision"
  | "restore" => do
    let expected ← checkRevision payload "expected_revision"
    let restore ← checkRevision payload "restore_revision"
    require (restore ≤ expected) ["restore_revision must not exceed expected_revision."]
      "out_of_bounds"
    require (isText (Json.get payload "target") "last_known_good")
      ["restore target must be last_known_good."] "bad_const"
  | "status" => match Json.lookup "job_id" payload with
    | none => .ok ()
    | some job =>
      require (canonicalUuid job).isSome ["job_id must be a canonical lowercase UUID."]
        "non_canonical_uuid"
  | _ => .ok ()

/-- The checks of `validate_request` on the fields all operations share. -/
def checkEnvelope (payload : List (String × Json)) (operation : String) : Checked Unit := do
  require (operation ∈ operations)
    ["Unsupported operation: ", .repr (.str operation), "."] "unsupported_operation"
  let extra := (payload.map Prod.fst).filter fun key => !(allowedKeys operation).contains key
  require (extra = []) ["Unknown request field(s): ", .names extra, "."] "unknown_field"
  let missing := (requiredKeys operation).filter fun key => !(payload.map Prod.fst).contains key
  require (missing = []) ["Missing request field(s): ", .names missing, "."] "missing_field"
  require (isText (Json.get payload "contract") contractName)
    ["Wrong tuning contract identifier."] "bad_const"
  require (strictInt (Json.get payload "version") = some contractVersion)
    ["Unsupported tuning contract version."] "bad_const"
  require (canonicalUuid (Json.get payload "request_id")).isSome
    ["request_id must be a canonical lowercase UUID."] "non_canonical_uuid"
  checkGeneration payload

/-- `validate_request`: the payload unchanged, or the first check that fails. -/
def validateRequest (registry : Registry) : Json → Checked (List (String × Json))
  | .obj payload => do
    let _ ← scan requestMaxBytes (.obj payload)
    match Json.get payload "operation" with
    | .str operation =>
      checkEnvelope payload operation
      checkOperation operation payload (registryIndex registry)
      pure payload
    | operation =>
      .error ⟨["Unsupported operation: ", .repr operation, "."], "unsupported_operation"⟩
  | _ => .error ⟨["The request must be a JSON object."], "bad_type"⟩

/-! ### Actors -/

/-- `validate_actor`. -/
def validateActor : Json → Checked (List (String × Json))
  | .obj actor => do
    require (Json.hasExactly actor ["id", "username", "role"]) ["actor has unexpected fields."]
      "unknown_field"
    require (strictInt (Json.get actor "id")).isSome ["actor.id must be an integer."] "bad_type"
    require ((asText (Json.get actor "username")).any fun username =>
        1 ≤ username.length ∧ username.length ≤ maxUsername)
      ["actor.username must be a bounded string."] "bad_type"
    require ((asText (Json.get actor "role")).any fun role => roles.contains role)
      ["actor.role is not a known role."] "bad_enum"
    pure actor
  | _ => .error ⟨["actor must be an object."], "bad_type"⟩

end PatrolBot.Tuning
