import PatrolBot.TuningAuthorization

/-!
# The server's filter for tuning replies

`validate_snapshot` and `validate_response` of `tuning/validation.py`: what a
robot reports is bounded, names known parameters only and claims no speed cap
above the commissioned envelope.  What a drive policy is later built from is
part of what these checks leave.
-/

namespace PatrolBot.Tuning

/-! ### Pieces of a snapshot -/

/-- `_OUTCOMES`. -/
def outcomes : List String := ["ok", "conflict", "refused", "failed", "unknown"]

/-- The caps a snapshot may report, with the commissioned bound of each. -/
def hardCaps : List (String × ℚ) := [("max_linear_m_s", 3 / 10), ("max_angular_rad_s", 7 / 10)]

/-- `_snapshot_scalar`. -/
def snapshotScalar (entry : Parameter) (value : Json) (withBounds : Bool) : Checked Unit :=
  match value with
  | .null => .ok ()
  | value =>
    if entry.type = .string then
      require (((asText value).any fun text => text.length ≤ 256) ∧ ¬entry.acceptsEdits)
        ["Read-only string state is invalid."] "bad_type"
    else checkValue entry value withBounds

/-- A non-negative integer a JavaScript number can hold. -/
def isRevision (value : Json) : Bool :=
  (strictInt value).any fun n => decide (0 ≤ n) && decide (n ≤ jsSafeInt)

/-- A finite number in `[0, hard]`. -/
def isCap (value : Json) (hard : ℚ) : Bool :=
  (finiteValue value).any fun number => decide (0 ≤ number) && decide (number ≤ hard)

/-- `isinstance(value, bool)`. -/
def isBool : Json → Bool
  | .bool _ => true
  | _ => false

/-- `value is None`. -/
def isNull : Json → Bool
  | .null => true
  | _ => false

/-- `_is_logical_id` of any value. -/
def isLogicalIdValue (value : Json) : Bool := (asText value).any isLogicalId

/-- The values of a readback: their ids are known. -/
def checkReadbackValues (index : Index) : List (String × Json) → Checked Unit
  | [] => .ok ()
  | (pid, value) :: values => do
    match index.lookup pid with
    | none => .error ⟨["Unknown parameter readback id."], "unknown_logical_id"⟩
    | some entry => snapshotScalar entry value false
    checkReadbackValues index values

/-- The observed caps of a readback agree with its values. -/
def checkReadbackLimits (limits : Json) (values : List (String × Json)) : Checked Unit :=
  match limits with
  | .null => .ok ()
  | limits => match entries limits with
    | none => .error ⟨["Invalid observed speed limits."], "bad_type"⟩
    | some limits => do
      require (Json.hasExactly limits (hardCaps.map Prod.fst)) ["Invalid observed speed limits."]
        "bad_type"
      require (∀ cap ∈ hardCaps, isCap (Json.get limits cap.1) cap.2 ∧
          Json.equal (Json.get limits cap.1) (Json.get values cap.1))
        ["Observed cap lacks matching readback."] "bad_type"

/-- The readback of a snapshot. -/
def checkReadback (index : Index) (readback : Json) : Checked Unit :=
  match readback with
  | .null => .ok ()
  | readback => match entries readback with
    | none => .error ⟨["Parameter readback is invalid."], "bad_type"⟩
    | some fields => do
      require (Json.hasExactly fields
            ["source", "age_s", "hardware_session_generation", "values", "limits"] ∧
          isText (Json.get fields "source") "ros_parameters" ∧
          isCap (Json.get fields "age_s") 3 ∧
          isRevision (Json.get fields "hardware_session_generation"))
        ["Parameter readback is invalid."] "bad_type"
      match entries (Json.get fields "values") with
      | none => .error ⟨["Parameter readback is invalid."], "bad_type"⟩
      | some values =>
        checkReadbackValues index values
        checkReadbackLimits (Json.get fields "limits") values

/-- A bounded text, or nothing. -/
def checkReason (reason : Json) : Checked Unit :=
  require (isNull reason ∨ (asText reason).any fun text => text.length ≤ maxDetail)
    ["Invalid editing refusal reason."] "bad_type"

/-- Neither a session nor a desired revision is reported. -/
def uninitialized (snapshot : List (String × Json)) : Bool :=
  isNull (Json.get snapshot "session_id") && isNull (Json.get snapshot "desired_revision")

/-- The session and the revisions of a snapshot. -/
def checkRevisions (snapshot : List (String × Json)) : Checked Unit := do
  require (uninitialized snapshot ∨ (canonicalUuid (Json.get snapshot "session_id")).isSome)
    ["snapshot.session_id must be a canonical UUID."] "non_canonical_uuid"
  require (uninitialized snapshot ∨ isRevision (Json.get snapshot "desired_revision"))
    ["snapshot.desired_revision must be a non-negative integer."] "bad_type"
  require (isNull (Json.get snapshot "active_revision") ∨
      isRevision (Json.get snapshot "active_revision"))
    ["snapshot.active_revision must be null or a non-negative integer."] "bad_type"

/-- The three flags of a snapshot. -/
def checkFlags (snapshot : List (String × Json)) : Checked Unit := do
  require (isBool (Json.get snapshot "active_known"))
    ["snapshot.active_known must be a boolean."] "bad_type"
  require (isBool (Json.get snapshot "writable"))
    ["snapshot.writable must be a boolean."] "bad_type"
  require (isBool (Json.get snapshot "activation_supported"))
    ["snapshot.activation_supported must be a boolean."] "bad_type"

/-- The loop over `desired` or `active`. -/
def checkParameters (index : Index) (name : String) (withBounds : Bool) :
    List (String × Json) → Checked Unit
  | [] => .ok ()
  | (pid, value) :: values => do
    match index.lookup pid with
    | none => .error ⟨["snapshot.", name, " has an unknown id ", .repr (.str pid), "."],
        "unknown_logical_id"⟩
    | some entry =>
      require (isLogicalId pid)
        ["snapshot.", name, " has an unknown id ", .repr (.str pid), "."] "unknown_logical_id"
      snapshotScalar entry value withBounds
    checkParameters index name withBounds values

/-- The parameters of a snapshot, under `desired` or `active`. -/
def checkState (index : Index) (snapshot : List (String × Json)) (name : String)
    (withBounds : Bool) : Checked (List (String × Json)) :=
  match entries (Json.get snapshot name) with
  | none => .error ⟨["snapshot.", name, " must be an object."], "bad_type"⟩
  | some values => do
    checkParameters index name withBounds values
    pure values

/-- What a snapshot may claim when nothing is known to be active. -/
def checkActivity (snapshot active : List (String × Json)) : Checked Unit := do
  require ((Json.get snapshot "active_known").isTrue ∨ ∀ value ∈ active, isNull value.2)
    ["snapshot.active must be null while active_known is false."] "inconsistent_active_state"
  require (uninitialized snapshot →
      ¬((Json.get snapshot "active_known").isTrue ∨ (Json.get snapshot "writable").isTrue ∨
        (Json.get snapshot "activation_supported").isTrue ∨
        ¬isNull (Json.get snapshot "active_revision")))
    ["Uninitialized state cannot claim activity or writes."] "inconsistent_active_state"

/-- One of the effective caps. -/
def checkCap (limits : List (String × Json)) (cap : String × ℚ) : Checked Unit :=
  require (isCap (Json.get limits cap.1) cap.2)
    ["snapshot.effective_limits.", cap.1, " is outside the commissioned envelope."]
    "out_of_bounds"

/-- The effective caps of a snapshot. -/
def checkEffectiveLimits (snapshot : List (String × Json)) : Checked Unit :=
  match Json.get snapshot "effective_limits" with
  | .null => .ok ()
  | limits => do
    require (Json.get snapshot "active_known").isTrue
      ["Effective runtime caps require verified readback."] "inconsistent_active_state"
    match entries limits with
    | none => .error ⟨["snapshot.effective_limits has an unexpected shape."], "bad_type"⟩
    | some limits =>
      require (Json.hasExactly limits (hardCaps.map Prod.fst))
        ["snapshot.effective_limits has an unexpected shape."] "bad_type"
      checkCap limits ("max_linear_m_s", 3 / 10)
      checkCap limits ("max_angular_rad_s", 7 / 10)

/-- The loop over the pending keys. -/
def checkPendingKeys (index : Index) : List Json → Checked Unit
  | [] => .ok ()
  | pid :: pids => do
    require (isLogicalIdValue pid ∧ (asText pid).any fun pid => (index.lookup pid).isSome)
      ["snapshot.pending_keys has an unknown id ", .repr pid, "."] "unknown_logical_id"
    checkPendingKeys index pids

/-- The two lists of a snapshot. -/
def checkLists (index : Index) (snapshot : List (String × Json)) : Checked Unit := do
  match Json.get snapshot "pending_keys" with
  | .list pids => checkPendingKeys index pids
  | _ => .error ⟨["snapshot.pending_keys must be a list."], "bad_type"⟩
  match Json.get snapshot "catalog" with
  | .list catalog =>
    require (∀ entry ∈ catalog, (entries entry).any fun entry =>
        isLogicalIdValue (Json.get entry "id"))
      ["snapshot.catalog contains an invalid entry."] "bad_type"
  | _ => .error ⟨["snapshot.catalog must be a list."], "bad_type"⟩

/-- `digest.removeprefix("sha256:")`. -/
def digestHex (digest : String) : String := removeStart "sha256:" digest

/-- The rest of a snapshot. -/
def checkTail (snapshot : List (String × Json)) : Checked Unit := do
  require ((entries (Json.get snapshot "safe_apply")).any fun safe =>
      Json.hasExactly safe ["allowed", "reason"] && isBool (Json.get safe "allowed") &&
        (asText (Json.get safe "reason")).isSome)
    ["snapshot.safe_apply is invalid."] "bad_type"
  require (isNull (Json.get snapshot "latest_job") ∨
      (entries (Json.get snapshot "latest_job")).isSome)
    ["snapshot.latest_job must be null or an object."] "bad_type"
  require (isNull (Json.get snapshot "digest") ∨
      (asText (Json.get snapshot "digest")).any fun digest => isDigest (digestHex digest))
    ["snapshot.digest must be null or a sha256 hex digest."] "bad_type"
  require ((asText (Json.get snapshot "compatibility")).any fun text => text.length ≤ 200)
    ["snapshot.compatibility must be a bounded string."] "bad_type"

/-! ### Snapshots and replies -/

/-- `validate_snapshot`: the snapshot unchanged, or the first check that fails. -/
def validateSnapshot (registry : Registry) (snapshot : Json) : Checked (List (String × Json)) :=
  match entries snapshot with
  | none => .error ⟨["snapshot must be an object."], "bad_type"⟩
  | some fields => do
    let _ ← scan responseMaxBytes snapshot
    let index := registryIndex registry
    checkReadback index (Json.get fields "readback")
    checkReason (Json.get fields "write_disabled_reason")
    checkRevisions fields
    checkFlags fields
    let _ ← checkState index fields "desired" true
    let active ← checkState index fields "active" false
    checkActivity fields active
    checkEffectiveLimits fields
    checkLists index fields
    checkTail fields
    pure fields

/-- `TuningResponse`, also the dictionary `validate_response` answers with. -/
structure TuningResponse where
  requestId : String
  outcome : String
  detail : String := ""
  snapshot : Option (List (String × Json)) := none
  job : Option (List (String × Json)) := none

/-- The detail of a reply, `None` being an empty one. -/
def replyDetail (data : List (String × Json)) : Json :=
  match (Json.lookup "detail" data).getD (.str "") with
  | .null => .str ""
  | detail => detail

/-- The snapshot of a reply. -/
def replySnapshot (registry : Registry) : Json → Checked (Option (List (String × Json)))
  | .null => .ok none
  | snapshot => do
    let fields ← validateSnapshot registry snapshot
    pure (some fields)

/-- The job of a reply. -/
def replyJob : Json → Checked (Option (List (String × Json)))
  | .null => .ok none
  | .obj job => .ok (some job)
  | _ => .error ⟨["The tuning reply job must be null or an object."], "bad_type"⟩

/-- `validate_response`. -/
def validateResponse (registry : Registry) (data : Json) : Checked TuningResponse :=
  match entries data with
  | none => .error ⟨["The tuning reply must be an object."], "bad_type"⟩
  | some fields => do
    let _ ← scan responseMaxBytes data
    match canonicalUuid (Json.get fields "request_id") with
    | none => .error ⟨["The tuning reply has no canonical request_id."], "non_canonical_uuid"⟩
    | some requestId =>
      match (asText (Json.get fields "outcome")).filter fun outcome =>
          outcomes.contains outcome with
      | none =>
        .error ⟨["Unknown tuning outcome ", .repr (Json.get fields "outcome"), "."], "bad_enum"⟩
      | some outcome =>
        match (asText (replyDetail fields)).filter fun detail => detail.length ≤ maxDetail with
        | none => .error ⟨["The tuning reply detail is not a bounded string."], "bad_type"⟩
        | some detail =>
          let snapshot ← replySnapshot registry (Json.get fields "snapshot")
          let job ← replyJob (Json.get fields "job")
          pure { requestId := requestId, outcome := outcome, detail := detail,
                 snapshot := snapshot, job := job }

end PatrolBot.Tuning
