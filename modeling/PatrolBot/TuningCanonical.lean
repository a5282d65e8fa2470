import PatrolBot.TuningContract

/-!
# The contract's own validator of a save

`contracts/validate_robot_tuning.py`, the semantic checks of a request.  A save
is checked change by change, and then against every constraint one of whose ends
it moves, with the values the configuration would have after it: the changes
over the supplied base over the defaults.
-/

namespace PatrolBot.Tuning.Contract

/-- `_error`. -/
structure Problem where
  code : String
  message : Message
  path : String := ""

/-! ### One change -/

/-- `entry['id']`. -/
def entryId (entry : Fields) : Piece := shown (Json.get entry "id")

def belowLower (entry bounds : Fields) (value : Json) (path : String) : Option (List Problem) :=
  let lower := Json.get bounds "lower"
  if isNull lower then some []
  else do
    let number ← operand value
    let limit ← operand lower
    if (getOr bounds "lower_inclusive" (.bool true)).truthy then
      reportIf (number.order.lt limit.order)
        ⟨"out_of_bounds", [entryId entry, " below candidate lower ", shown lower], path⟩
    else
      reportIf (number.order.le limit.order)
        ⟨"out_of_bounds", [entryId entry, " must be > ", shown lower], path⟩

def aboveUpper (entry bounds : Fields) (value : Json) (path : String) : Option (List Problem) :=
  let upper := Json.get bounds "upper"
  if isNull upper then some []
  else do
    let number ← operand value
    let limit ← operand upper
    if (getOr bounds "upper_inclusive" (.bool true)).truthy then
      reportIf (limit.order.lt number.order)
        ⟨"out_of_bounds", [entryId entry, " above candidate upper ", shown upper], path⟩
    else
      reportIf (limit.order.le number.order)
        ⟨"out_of_bounds", [entryId entry, " must be < ", shown upper], path⟩

/-- `_check_bounds`; a `bool` is compared as the number it is. -/
def checkBounds (entry : Fields) (value : Json) (path : String) : Option (List Problem) :=
  match getOr entry "bounds" (.obj []) with
  | .obj bounds => reports [belowLower entry bounds value path, aboveUpper entry bounds value path]
  | _ => none

/-- `_check_single_value`. -/
def checkSingleValue (entry : Fields) (value : Json) (path : String) : Option (List Problem) := do
  let declared ← Json.lookup "type" entry
  if isBool value then
    reportIf (!isText declared "boolean")
      ⟨"bool_as_number", [entryId entry, " expects a ", shown declared, ", got boolean"], path⟩
  else if isText declared "number" || isText declared "integer" then
    if (realOf value).isNone then
      some [⟨"bad_type", [entryId entry, " expects a finite ", shown declared], path⟩]
    else
      reportIf (isText declared "integer" && (strictInt value).isNone)
        ⟨"bad_type", [entryId entry, " expects an integer"], path⟩
  else some [⟨"bad_type", [entryId entry, " expects a ", shown declared], path⟩]

/-- The configuration as far as it is known: later keys win. -/
abbrev Values := List (String × Json)

/-- What the checks of a change find, and `resolved` after them. -/
abbrev Checks := Option (List Problem × Values)

/-- A change of a parameter that may be edited. -/
def checkEdit (pid : String) (entry change : Fields) (resolved : Values) (path : String) :
    Checks := do
  let value := Json.get change "value"
  let mistyped ← checkSingleValue entry value path
  if mistyped = [] then
    let outside ← checkBounds entry value path
    pure (outside, insertAt pid value resolved)
  else pure (mistyped, resolved)

/-- `_check_change`. -/
def checkChange (change : Json) (index : Entries) (resolved : Values) (path : String) : Checks :=
  let refuse (code : String) (message : Message) : Checks :=
    some ([⟨code, message, path⟩], resolved)
  match change with
  | .obj fields => match Json.get fields "id" with
    | .str pid =>
      if hasPathInjection pid then
        refuse "path_injection" ["logical id contains a path fragment: ", .repr (.str pid)]
      else match index.lookup pid with
        | none => refuse "unknown_logical_id" ["unknown logical id: ", .repr (.str pid)]
        | some entry =>
          if (Json.get entry "protected").truthy then
            refuse "protected_parameter" [pid, " is protected and never editable"]
          else if (Json.get entry "not_applicable").truthy then
            refuse "not_applicable" [pid, " is not applicable to this robot"]
          else if (Json.get entry "accepts_edits").truthy then
            checkEdit pid entry fields resolved path
          else refuse "not_editable" [pid, " is read-only in slice 1"]
    | _ => refuse "bad_type" ["change.id must be a string"]
  | _ => refuse "bad_type" ["change must be an object"]

/-! ### The supplied base -/

/-- `_base_value_errors`, for one of the base values. -/
def baseValueErrors (index : Entries) (pid : String) (value : Json) : Option (List Problem) :=
  match if hasPathInjection pid then none else index.lookup pid with
  | none => some [⟨"invalid_base_value", ["unknown base id ", .repr (.str pid)], ""⟩]
  | some entry => do
    let declared ← Json.lookup "type" entry
    if isText declared "boolean" then
      reportIf (!isBool value) ⟨"invalid_base_value", [pid, " base must be boolean"], ""⟩
    else if isText declared "string" then
      reportIf (asText value).isNone ⟨"invalid_base_value", [pid, " base must be a string"], ""⟩
    else if isText declared "integer" then
      reportIf (strictInt value).isNone
        ⟨"invalid_base_value", [pid, " base must be an integer"], ""⟩
    else
      reportIf (realOf value).isNone
        ⟨"invalid_base_value", [pid, " base must be a finite number"], ""⟩

/-- `_base_value_errors`. -/
def baseErrors (baseValues : Json) (index : Entries) : Option (List Problem) :=
  match baseValues with
  | .null => some []
  | .obj values => reports (values.map fun (pid, value) => baseValueErrors index pid value)
  | _ => some [⟨"invalid_base_value", ["base_values must be an object"], ""⟩]

/-! ### Constraints between parameters -/

/-- An element of `dependency_edges`. -/
structure Edge where
  source : String
  target : Json
  kind : Json
  equals : Json
  tolerance : Json

def edgeOf (pid : String) (dependency : Json) : Option (List Edge) :=
  match dependency with
  | .obj fields => do
    let target ← Json.lookup "target" fields
    let kind ← Json.lookup "kind" fields
    pure [⟨pid, target, kind, Json.get fields "equals",
      getOr fields "tolerance" defaultTolerance⟩]
  | _ => none

/-- The edges of one entry: its dependencies are a list, or something else that
    is iterated. -/
def entryEdges (pid : String) (entry : Fields) : Option (List Edge) :=
  match getOr entry "dependencies" (.list []) with
  | .list dependencies => reports (dependencies.map (edgeOf pid))
  | .obj [] => some []
  | .str "" => some []
  | _ => none

/-- `dependency_edges`. -/
def dependencyEdges (index : Entries) : Option (List Edge) :=
  reports (index.map fun (pid, entry) => entryEdges pid entry)

/-- `_resolved_value` of a text. -/
def valueOf (pid : String) (resolved : Values) (index : Entries) : Json :=
  match resolved.lookup pid with
  | some value => value
  | none => match index.lookup pid with
    | some entry => Json.get entry "default"
    | none => .null

/-- `_resolved_value`. -/
def resolvedValue (pid : Json) (resolved : Values) (index : Entries) : Option Json := do
  let _ ← hashed pid
  pure ((asText pid).elim .null fun pid => valueOf pid resolved index)

/-- The number as the value it came from. -/
def Number.json : Number → Json
  | .int n => .int n
  | .float x => .float x

/-- `source + target` is to be `equals`. -/
def sumErrors (arithmetic : Arithmetic) (edge : Edge) (left right : Json) :
    Option (List Problem) := do
  let first ← operand left
  let second ← operand right
  let total ← operand edge.equals
  let tolerance ← operand edge.tolerance
  let sum ← arithmetic.add first second
  let far ← arithmetic.exceeds first second total tolerance
  reportIf far
    ⟨"dependency_violation", [edge.source, " + ", shown edge.target, " must equal ",
      shown edge.equals, " (got ", shown (Number.json sum), ")"], ""⟩

/-- One edge of `_dependency_errors`, with its operands at hand. -/
def operandErrors (arithmetic : Arithmetic) (edge : Edge) (left right : Json) :
    Option (List Problem) :=
  match realOf left, realOf right with
  | some first, some second =>
    if isText edge.kind "less_than_or_equal" then
      reportIf (second < first)
        ⟨"dependency_violation", [edge.source, "=", shown left, " must be <= ",
          shown edge.target, "=", shown right], ""⟩
    else if isText edge.kind "sum_equals" then sumErrors arithmetic edge left right
    else some []
  | _, _ =>
    some [⟨"invalid_dependency_operand", ["dependency ", edge.source, " -> ", shown edge.target,
      " has a non-numeric operand"], ""⟩]

/-- `edge["source"] in changed or edge["target"] in changed`. -/
def Edge.touched (edge : Edge) (changed : List String) : Option Bool :=
  if changed.contains edge.source then some true else among changed edge.target

/-- One edge of `_dependency_errors`. -/
def edgeErrors (arithmetic : Arithmetic) (changed : List String) (index : Entries)
    (resolved : Values) (edge : Edge) : Option (List Problem) := do
  if ← edge.touched changed then
    let right ← resolvedValue edge.target resolved index
    operandErrors arithmetic edge (valueOf edge.source resolved index) right
  else some []

/-- `_dependency_errors`. -/
def dependencyErrors (arithmetic : Arithmetic) (changed : List String) (index : Entries)
    (resolved : Values) : Option (List Problem) :=
  if changed = [] then some []
  else do
    let edges ← dependencyEdges index
    reports (edges.map (edgeErrors arithmetic changed index resolved))

/-! ### A save -/

/-- The state of the loop over the changes. -/
structure Batch where
  errors : List Problem
  resolved : Values
  changed : List String

/-- The id under which a change counts: that of a parameter of the catalog. -/
def countedId (change : Json) (index : Entries) : Option String :=
  match change with
  | .obj fields => match Json.get fields "id" with
    | .str pid => if (index.lookup pid).isSome then some pid else none
    | _ => none
  | _ => none

/-- One turn of the loop. -/
def batchStep (index : Entries) (batch : Batch) (position : Nat) (change : Json) :
    Option Batch := do
  let path := "changes/" ++ toString position
  let (errors, resolved) ← checkChange change index batch.resolved path
  let batch : Batch := ⟨batch.errors ++ errors, resolved, batch.changed⟩
  match if errors = [] then countedId change index else none with
  | some pid =>
    if pid ∈ batch.changed then
      pure { batch with errors := batch.errors ++
        [⟨"duplicate_change_id", ["duplicate change for ", .repr (.str pid)], path⟩] }
    else pure { batch with changed := batch.changed ++ [pid] }
  | none => pure batch

/-- The loop from a position on. -/
def batchRun (index : Entries) (batch : Batch) (position : Nat) : List Json → Option Batch
  | [] => some batch
  | change :: changes => do
    let batch ← batchStep index batch position change
    batchRun index batch (position + 1) changes

/-- `resolved.update(base_values)`. -/
def baseResolved : Json → Values
  | .obj values => values
  | _ => []

/-- The branch of `_semantic_errors` for a save. -/
def saveErrors (arithmetic : Arithmetic) (index : Entries) (baseValues changes : Json) :
    Option (List Problem) :=
  match changes with
  | .list changes => do
    let base ← baseErrors baseValues index
    let batch ← batchRun index ⟨base, baseResolved baseValues, []⟩ 0 changes
    let broken ← dependencyErrors arithmetic batch.changed index batch.resolved
    pure (batch.errors ++ broken)
  | _ => some []

/-! ### Snapshots -/

/-- `_registry_value_ok`. -/
def registryValueOk (value declared : Json) : Bool :=
  if isNull value then true
  else if isText declared "number" then (realOf value).isSome
  else if isText declared "integer" then (strictInt value).isSome
  else if isText declared "boolean" then isBool value
  else if isText declared "string" then (asText value).isSome
  else false

/-- `_classification`. -/
def classification (entry : Fields) : String :=
  if isText (Json.get entry "activation_block") "commissioned_usable_lower_bound_unknown" then
    "uncommissioned"
  else if (Json.get entry "protected").truthy || (Json.get entry "not_applicable").truthy then
    "read_only"
  else if isText (Json.get entry "mutability") "restart_required" then "restart_required"
  else "candidate_unverified"

/-- What a snapshot says of one parameter of the catalog. -/
def snapshotEntryErrors (runtime : Json) (pid : String) (entry field : Fields) (path : String) :
    Option (List Problem) := do
  let declared ← Json.lookup "type" entry
  let desired := Json.get field "desired"
  let active := Json.get field "active"
  let known := Json.get field "active_known"
  let bounded := if isText declared "integer" then (strictInt desired).isSome
    else isText declared "number" && (realOf desired).isSome
  reports [
    reportIf (!registryValueOk desired declared)
      ⟨"bad_type", [pid, " desired has the wrong type"], path⟩,
    reportIf (!registryValueOk active declared)
      ⟨"bad_type", [pid, " active has the wrong type"], path⟩,
    if bounded then checkBounds entry desired path else some [],
    reportIf (!isText (Json.get field "classification") (classification entry))
      ⟨"classification_mismatch",
        [pid, " classification must be ", .repr (.str (classification entry))], path⟩,
    reportIf (known.isTrue && isNull active)
      ⟨"inconsistent_active_state", ["active_known true requires a concrete active"], path⟩,
    reportIf (isFalse known && !isNull active)
      ⟨"inconsistent_active_state", ["active must be null when active_known is false"], path⟩,
    reportIf (known.isTrue && isText runtime "unknown")
      ⟨"inconsistent_active_state", ["runtime unknown cannot have known active values"], path⟩,
    reportIf (known.isTrue && !Json.equal desired active && isFalse (Json.get field "pending"))
      ⟨"pending_flag_mismatch", ["desired differs from active but pending is false"], path⟩]

/-- The fields of a snapshot from a position on, with the ids before it. -/
def snapshotFieldErrors (runtime : Json) (index : Entries) (seen : List String) (position : Nat) :
    List Json → Option (List Problem)
  | [] => some []
  | .obj field :: fields => match Json.get field "id" with
    | .str pid =>
      let path := "fields/" ++ toString position
      reports [
        reportIf (pid ∈ seen)
          ⟨"duplicate_snapshot_id", ["duplicate snapshot id ", .repr (.str pid)], path⟩,
        match index.lookup pid with
        | some entry => snapshotEntryErrors runtime pid entry field path
        | none => some [⟨"unknown_logical_id", ["unknown snapshot id: ", .repr (.str pid)], path⟩],
        snapshotFieldErrors runtime index (pid :: seen) (position + 1) fields]
    | _ => snapshotFieldErrors runtime index seen (position + 1) fields
  | _ :: fields => snapshotFieldErrors runtime index seen (position + 1) fields

/-- `_snapshot_errors`. -/
def snapshotErrors (payload : Fields) (index : Entries) : Option (List Problem) :=
  let runtime := Json.get payload "runtime"
  let revisions := (asObject (Json.get payload "revisions")).getD []
  let known := Json.get revisions "known"
  let active := Json.get revisions "active"
  let unknown := isText runtime "unknown"
  let running := isText runtime "known"
  reports [
    reportIf (!isFalse (Json.get payload "advertised"))
      ⟨"unadvertised_violation", ["capability must stay unadvertised"], ""⟩,
    reportIf (unknown && !isFalse known)
      ⟨"inconsistent_active_state", ["runtime unknown requires revisions.known=false"], ""⟩,
    reportIf (unknown && !isNull active)
      ⟨"inconsistent_active_state", ["runtime unknown requires revisions.active=null"], ""⟩,
    reportIf (running && !known.isTrue)
      ⟨"inconsistent_active_state", ["runtime known requires revisions.known=true"], ""⟩,
    reportIf (running && isNull active)
      ⟨"inconsistent_active_state", ["runtime known requires a concrete revisions.active ",
        "(no partial state in slice 1)"], ""⟩,
    snapshotFieldErrors runtime index [] 0 ((asList (Json.get payload "fields")).getD [])]

/-! ### Requests -/

/-- A text that is no canonical UUID. -/
def uuidErrors (value : Json) (label path : String) : Option (List Problem) :=
  reportIf ((asText value).isSome && (canonicalUuid value).isNone)
    ⟨"non_canonical_uuid", [label, " must be a canonical lowercase UUID"], path⟩

/-- `_uuid_errors`. -/
def payloadUuidErrors (payload : Fields) : Option (List Problem) :=
  reports [
    uuidErrors (Json.get payload "request_id") "request_id" "request_id",
    uuidErrors (Json.get payload "job_id") "job_id" "job_id",
    match Json.get payload "generation" with
    | .obj generation =>
      uuidErrors (Json.get generation "session_id") "generation.session_id" "generation/session_id"
    | _ => some []]

/-- `type(value).__name__`. -/
def typeName : Json → String
  | .null => "NoneType"
  | .bool _ => "bool"
  | .int _ => "int"
  | .float _ => "float"
  | .str _ => "str"
  | .list _ => "list"
  | .obj _ => "dict"

/-- `check` of `_revision_errors`, for a key that is there. -/
def revisionErrors (fields : Fields) (label key : String) (allowNone : Bool) :
    Option (List Problem) :=
  match Json.lookup key fields with
  | none => some []
  | some .null =>
    reportIf (!allowNone) ⟨"bad_type", [label, " must be an integer revision"], ""⟩
  | some (.int revision) =>
    reportIf (¬(0 ≤ revision ∧ revision ≤ jsSafeInt))
      ⟨"out_of_bounds", [label, " must be a JS-safe revision"], ""⟩
  | some value =>
    some [⟨"bad_type", [label, " must be an integer revision, got ", typeName value], ""⟩]

/-- `_revision_errors`. -/
def payloadRevisionErrors (payload : Fields) : Option (List Problem) :=
  let revisions := (asObject (Json.get payload "revisions")).getD []
  reports [
    reports (["base_revision", "expected_revision", "restore_revision"].map fun key =>
      revisionErrors payload key key false),
    reports (["desired", "active", "last_known_good"].map fun key =>
      revisionErrors revisions ("revisions." ++ key) key true)]

/-- `CONTEXT_FIELDS`, sorted. -/
def contextFields : List String := ["current_revision", "session_id"]

/-- The shape of a supplied context. -/
def contextShapeErrors (context : Fields) : Option (List Problem) :=
  let missing := contextFields.filter fun key => (Json.lookup key context).isNone
  let extra := (context.map Prod.fst).filter fun key => !contextFields.contains key
  reports [
    reportIf (missing ≠ [])
      ⟨"bad_context", ["context is missing required fields: ", .names missing], ""⟩,
    reportIf (extra ≠ []) ⟨"bad_context", ["context has unknown fields: ", .names extra], ""⟩,
    reportIf ((Json.lookup "current_revision" context).any fun current =>
        !((strictInt current).any fun revision => decide (0 ≤ revision ∧ revision ≤ jsSafeInt)))
      ⟨"bad_context", ["context.current_revision must be a non-negative safe integer"], ""⟩,
    reportIf ((Json.lookup "session_id" context).any fun session =>
        (canonicalUuid session).isNone)
      ⟨"non_canonical_uuid", ["context.session_id must be a canonical lowercase UUID"], ""⟩]

/-- What is stale against a complete context. -/
def staleErrors (payload context : Fields) : Option (List Problem) :=
  let current := Json.get context "current_revision"
  let operation := Json.get payload "operation"
  let generation := (asObject (Json.get payload "generation")).getD []
  let session := Json.get generation "session_id"
  reports [
    reportIf ((asText session).isSome && !Json.equal session (Json.get context "session_id"))
      ⟨"stale_session", ["generation.session_id does not match the authoritative session"], ""⟩,
    reportIf (isText operation "save" && !Json.equal (Json.get payload "base_revision") current)
      ⟨"stale_revision", ["base_revision does not match the authoritative revision"], ""⟩,
    reportIf ((["apply", "redeploy", "restore"].any fun name => isText operation name) &&
        !Json.equal (Json.get payload "expected_revision") current)
      ⟨"stale_revision", ["expected_revision does not match the authoritative revision"], ""⟩]

/-- `_context_errors`. -/
def contextErrors (payload : Fields) (context : Json) : Option (List Problem) :=
  match context with
  | .null => some []
  | .obj context => do
    let errors ← contextShapeErrors context
    if errors = [] then staleErrors payload context else pure errors
  | _ => some [⟨"bad_context", ["validation context must be an object"], ""⟩]

/-- `_restore_errors`. -/
def restoreErrors (payload : Fields) : Option (List Problem) :=
  match strictInt (Json.get payload "restore_revision"),
    strictInt (Json.get payload "expected_revision") with
  | some restore, some expected =>
    reportIf (restore > expected)
      ⟨"out_of_bounds", ["restore_revision must not exceed expected_revision"], ""⟩
  | _, _ => some []

/-- `_semantic_errors`. -/
def semanticErrors (arithmetic : Arithmetic) (payload registry baseValues context : Json) :
    Option (List Problem) :=
  let index := registryEntries registry
  match payload with
  | .obj fields =>
    let operation := Json.get fields "operation"
    if !isNull operation && !(operations.any fun name => isText operation name) then
      some [⟨"unsupported_operation", ["unsupported operation: ", .repr operation], ""⟩]
    else if isText (Json.get fields "kind") "tuning_state_snapshot" then
      reports [payloadRevisionErrors fields, snapshotErrors fields index]
    else reports [
      payloadUuidErrors fields,
      payloadRevisionErrors fields,
      contextErrors fields context,
      if isText operation "restore" then restoreErrors fields else some [],
      if isText operation "save" then
        saveErrors arithmetic index baseValues (Json.get fields "changes")
      else some []]
  | _ => some []

end PatrolBot.Tuning.Contract
