import PatrolBot.TuningContract

/-!
# The receipt of the tuning lab, as it is checked

`scripts/check_tuning_receipt.py`.  A receipt is read as it was parsed; a check that meets
a value it cannot handle raises, which is `none` here.
-/

namespace PatrolBot.Tuning.Receipt

open Contract

/-- What the two scripts use of the standard library. -/
structure Stdlib where
  /-- `datetime.strptime` of `%Y-%m-%dT%H:%M:%SZ` in seconds, unless it raises. -/
  strptime : String → Option Int
  /-- `datetime.now(timezone.utc)` in microseconds. -/
  now : Int
  /-- `int` of a text, unless it raises. -/
  int : String → Option Int
  /-- `float` of a text, unless it raises. -/
  float : String → Option PyFloat

/-! ### Limits -/

/-- `RECEIPT_SCHEMA_VERSION`. -/
def receiptSchemaVersion : Int := 1

/-- `MAX_CHECKS`. -/
def maxChecks : Nat := 64

/-- `MAX_LIST`. -/
def maxList : Nat := 4096

/-- `MIN_DOMAIN_ID`. -/
def minDomainId : Int := 188

/-- `REQUIRED_CHECKS`. -/
def requiredChecks : List String :=
  ["isolation_enforced", "native_inventory", "vs_startup_readback",
    "vs_caps_reduced_and_symmetric", "vs_over_cap_input_clamped",
    "vs_proportional_small_target_no_creep", "vs_reversal_through_zero",
    "vs_acceleration_bounded", "vs_stop_explicit_zero_deadline",
    "vs_stop_silence_timeout_deadline", "vs_hot_reload_max_velocity_effect",
    "amcl_startup_readback", "rpp_startup_readback"]

/-- `ALLOWED_CLASSIFICATIONS`. -/
def allowedClassifications : List String :=
  ["inventory", "live_verified", "restart_required", "unverified"]

/-- `RESTART_ONLY_CHECKS`. -/
def restartOnlyChecks : List String := ["amcl_startup_readback", "rpp_startup_readback"]

/-- A decimal literal: the double next to it. -/
def literal (value : ℚ) : Number := .float (.finite (Binary64.round value))

/-- `LINEAR_CAP`. -/
def linearCap : Number := literal 0.30

/-- `ANGULAR_CAP`. -/
def angularCap : Number := literal 0.70

/-- `BOUND_EPSILON`. -/
def boundEpsilon : Number := literal 1e-3

/-! ### Values -/

/-- `value or {}` where `get` is called of it. -/
def fieldsOr (value : Json) : Option Fields :=
  match value with
  | .obj fields => some fields
  | value => if value.truthy then none else some []

/-- `list(value)`, also where a value is walked through. -/
def listOf : Json → Option (List Json)
  | .list items => some items
  | .obj fields => some (fields.map fun field => .str field.1)
  | .str text => some (text.toList.map fun c => .str (String.ofList [c]))
  | _ => none

/-- `value > bound`. -/
def above (value : Json) (bound : Number) : Option Bool :=
  (operand value).map fun value => bound.order.lt value.order

/-- `left + right` of a value and a number. -/
def plus (left : Json) (right : Number) : Option Number :=
  (operand left).bind fun left => Arithmetic.binary64.add left right

/-- `abs(left - right) > tolerance`. -/
def apart (left right tolerance : Number) : Option Bool :=
  (Arithmetic.binary64.sub left right).map fun difference =>
    tolerance.order.lt difference.abs.order

/-- `any(abs(a - b) > 1e-6 for a, b in zip(left, right))`. -/
def anyApart : List Json → List Json → Option Bool
  | left :: lefts, right :: rights => do
    let first ← operand left
    let second ← operand right
    let far ← apart first second (literal 1e-6)
    if far then pure true else anyApart lefts rights
  | _, _ => some false

/-- `int(x)` of a float that is finite. -/
def truncated (value : ℚ) : Int := value.num.tdiv value.den

/-- `int(value)`, unless it raises. -/
def intOf (stdlib : Stdlib) : Json → Option Int
  | .bool value => some (if value then 1 else 0)
  | .int value => some value
  | .float (.finite value) => some (truncated value)
  | .str text => stdlib.int text
  | _ => none

/-- `_is_hex64`. -/
def isHex64 (value : Json) : Bool :=
  (asText value).any fun text => text.toList.length == 64 && text.toList.all lowerHex

/-- A text that starts with `sha256:`. -/
def isImageId (value : Json) : Bool :=
  (asText value).any fun text => "sha256:".toList.isPrefixOf text.toList

/-- `_bounded`, of a list that is not empty, with its items as the answer. -/
def boundedItems (value : Json) (limit : Nat) : Option (List Json) :=
  (asList value).filter fun items => decide (items.length ≤ limit) && !items.isEmpty

/-- `finite_tree`, with the number of levels that are left. -/
def finiteTree : Nat → Json → Bool
  | 0, _ => false
  | _ + 1, .float value => value.isFinite
  | levels + 1, .obj fields => fields.all fun field => finiteTree levels field.2
  | levels + 1, .list items =>
    decide (items.length ≤ maxList) && items.all fun item => finiteTree levels item
  | _ + 1, _ => true

/-! ### The receipt around its checks -/

/-- What a receipt says of itself. -/
def headErrors (receipt : Fields) : Option (List Message) := reports [
  reportIf (!Json.equal (Json.get receipt "schema_version") (.int receiptSchemaVersion))
    ["schema_version must be 1"],
  reportIf (!isText (Json.get receipt "generator") "patrolbot-tuning-native-lab")
    ["unexpected generator"],
  reportIf (!isFalse (Json.get receipt "physical_acceptance"))
    ["physical_acceptance must be false"],
  reportIf (!isFalse (Json.get receipt "live_pi_evidence"))
    ["live_pi_evidence must be false (image-internal evidence only)"],
  reportIf (!(Json.get receipt "synthetic_inputs_only").isTrue)
    ["synthetic_inputs_only must be true"]]

/-- The age of a receipt in seconds. -/
def ageOf (stdlib : Stdlib) (stamp : Int) : ℚ :=
  Binary64.round ((stdlib.now - stamp * 1000000 : Int) / 1000000)

def ageErrors (stdlib : Stdlib) (maxAge : Option PyFloat) (receipt : Fields) :
    Option (List Message) :=
  match (asText (Json.get receipt "generated_at")).bind stdlib.strptime with
  | none => some [["generated_at must be an RFC3339 UTC 'Z' timestamp"]]
  | some stamp => match maxAge with
    | none => some []
    | some limit =>
      if limit.lt (.finite (ageOf stdlib stamp)) then match limit with
        | .finite seconds => some [["receipt is stale: age ",
          toString (truncated (ageOf stdlib stamp)), "s exceeds ", toString (truncated seconds),
          "s"]]
        | _ => none
      else some []

def imageErrors (receipt : Fields) : Option (List Message) := do
  let images ← fieldsOr (Json.get receipt "images")
  reports [
    reportIf (!isImageId (Json.get images "lab_image_id"))
      ["images.lab_image_id must be an exact sha256 image ID"],
    reportIf (!isImageId (Json.get images "base_image_id"))
      ["images.base_image_id must be an exact sha256 image ID"]]

/-- `str(value).lower() in {"1", "true"}`; a float, a list and a dictionary show as
    neither. -/
def enabled (value : Json) : Bool :=
  ["1", "true"].contains (lower (value.shown fun _ => ""))

def isolationErrors (stdlib : Stdlib) (receipt : Fields) : Option (List Message) := do
  let isolation ← fieldsOr (Json.get receipt "isolation")
  let interfaces ← listOf (getOr isolation "interfaces" (.list []))
  reports [
    reportIf (!isText (Json.get isolation "patrolbot_isolated_test") "1")
      ["isolation.patrolbot_isolated_test must be 1"],
    match intOf stdlib (Json.get isolation "ros_domain_id") with
    | some domain => reportIf (domain < minDomainId) ["isolation.ros_domain_id must be >= 188"]
    | none => some [["isolation.ros_domain_id must be an integer"]],
    reportIf (!Json.equalItems interfaces [.str "lo"])
      ["isolation.interfaces must be exactly ['lo'] (network-none / no host net)"],
    reportIf (!enabled (getOr isolation "ros_localhost_only" (.str "")))
      ["isolation.ros_localhost_only must be enabled"],
    reportIf (!(Json.get isolation "network_none_only_loopback").isTrue)
      ["isolation.network_none_only_loopback must be true"]]

def patchErrors (provenance : Fields) : Option (List Message) :=
  match boundedItems (Json.get provenance "patches") maxList with
  | none => some [["provenance.patches must be a non-empty bounded list"]]
  | some patches => reports [
    reportIf (!Json.equal (Json.get provenance "patch_count") (.int patches.length))
      ["provenance.patch_count must equal len(patches)"],
    reports (patches.map fun patch => (asObject patch).bind fun patch =>
      reportIf (!isHex64 (Json.get patch "sha256"))
        ["patch ", Contract.shown (Json.get patch "name"), " is missing a 64-hex sha256"])]

def libraryErrors (inventory : Fields) : Option (List Message) :=
  match boundedItems (Json.get inventory "libraries") maxList with
  | none => some [["inventory.libraries must be a non-empty bounded list"]]
  | some libraries => reports (libraries.map fun library => (asObject library).bind fun library =>
    reportIf (!(Json.get library "path").truthy || !isHex64 (Json.get library "sha256"))
      ["library ", Contract.shown (Json.get library "path"), " is missing a 64-hex sha256"])

def inventoryErrors (receipt : Fields) : Option (List Message) := do
  let inventory ← fieldsOr (Json.get receipt "inventory")
  let provenance ← fieldsOr (Json.get inventory "provenance")
  reports [
    reports (["nav2_upstream_archive_sha256", "smoother_params_sha256",
      "nav2_params_sha256"].map fun key => reportIf (!isHex64 (Json.get provenance key))
        ["provenance.", key, " must be a 64-hex digest"]),
    patchErrors provenance,
    libraryErrors inventory]

/-! ### Claims of the checks -/

/-- `check.get("detail", {})` where `get` is called of it. -/
def detailOf (check : Fields) : Option Fields := asObject (getOr check "detail" (.obj []))

def restartErrors (id : String) (check : Fields) : Option (List Message) :=
  reportIf (!isText (Json.get check "classification") "restart_required")
    [id, " must be classified restart_required, not ",
      Contract.shown (Json.get check "classification"), " (no offline hot-effect proof)"]

/-- What was read back of one parameter. -/
def readbackErrors (key : String) (values observed : Json) : Option (List Message) :=
  match observed with
  | .list observed => do
    let values ← listOf values
    if observed.length ≠ values.length then
      pure [["vs_startup_readback ", key, " readback shape mismatch"]]
    else
      let far ← anyApart observed values
      reportIf far ["vs_startup_readback ", key, " readback does not match the YAML"]
  | _ => some [["vs_startup_readback ", key, " readback shape mismatch"]]

/-- Whatever `expected` and `readback` are, the loop over the items of the one calls `get`
    of the other, or there are no items. -/
def startupErrors (detail : Fields) : Option (List Message) := do
  let expected ← asObject (getOr detail "expected" (.obj []))
  if expected.isEmpty then pure [["vs_startup_readback pass lacks matching readback evidence"]]
  else
    let readback ← asObject (getOr detail "readback" (.obj []))
    reports [
      reportIf (!expected.all fun entry => (Json.lookup entry.1 readback).isSome)
        ["vs_startup_readback pass lacks matching readback evidence"],
      reports (expected.map fun entry =>
        readbackErrors entry.1 entry.2 (Json.get readback entry.1))]

/-- One window of the small target. -/
def windowErrors (detail : Fields) (key : String) : Option (List Message) :=
  let value := Json.get detail key
  let target := Json.get detail "target"
  let cap := Json.get detail "cap"
  if isNull value || isNull target then some []
  else do
    let limit ← plus target (literal 0.02)
    let limit ← Arithmetic.binary64.add limit (literal 1e-9)
    let creeps ← above value limit
    let exceeds ← if isNull cap then some false else (plus cap (literal 1e-9)).bind (above value)
    reports [
      reportIf creeps ["proportional ", key, " suggests creep toward the cap"],
      reportIf exceeds ["proportional ", key, " exceeds the configured cap"]]

def proportionalErrors (detail : Fields) : Option (List Message) :=
  reports (["early_max", "late_window_max"].map (windowErrors detail))

/-- A configured cap that is not the one of the lab. -/
def capErrors (detail : Fields) (key : String) (cap : Number) (problem : Message) :
    Option (List Message) := do
  let configured ← operand (getOr detail key (.int 9))
  let far ← apart configured cap (literal 1e-6)
  reportIf far problem

def capsErrors (detail : Fields) : Option (List Message) := reports [
  capErrors detail "configured_max_linear" linearCap
    ["vs_caps_reduced_and_symmetric must show the 0.30 m/s linear cap"],
  capErrors detail "configured_max_angular" angularCap
    ["vs_caps_reduced_and_symmetric must show the 0.70 rad/s angular cap"]]

/-- `not isinstance(value, int) or value < 5`, for a `bool` is an `int` too. -/
def fewSamples : Json → Bool
  | .int samples => decide (samples < 5)
  | _ => true

/-- A peak above its cap. -/
def peakErrors (detail : Fields) (key : String) (cap : Number) (problem : Message) :
    Option (List Message) := do
  let limit ← Arithmetic.binary64.add cap boundEpsilon
  let exceeds ← above (getOr detail key (.int 9)) limit
  reportIf exceeds problem

def clampedErrors (detail : Fields) : Option (List Message) := reports [
  reportIf (fewSamples (Json.get detail "samples"))
    ["clamping proof requires observed native output samples"],
  peakErrors detail "peak_linear" linearCap
    ["vs_over_cap_input_clamped peak_linear exceeds the cap"],
  peakErrors detail "peak_angular" angularCap
    ["vs_over_cap_input_clamped peak_angular exceeds the cap"]]

/-- `value[0]` of `value or [None]`; a dictionary has no key 0. -/
def firstRequested (value : Json) : Option Json :=
  match value with
  | .list (first :: _) => some first
  | .str text => (text.toList.head?.map fun c => .str (String.ofList [c])).or (some .null)
  | value => if value.truthy then none else some .null

def hotErrors (detail : Fields) : Option (List Message) :=
  let peak := Json.get detail "peak_output"
  reports [
    reportIf (fewSamples (Json.get detail "samples"))
      ["hot effect proof requires observed native output samples"],
    reportIf (!(Json.get detail "set_accepted").isTrue)
      ["hot effect proof requires an accepted parameter update"],
    reportIf (!(Json.get detail "effect_observed").isTrue)
      ["a live_verified hot-reload check requires effect_observed true"],
    if isNull peak then some []
    else do
      let requested ← firstRequested (Json.get detail "requested")
      if isNull requested then pure []
      else
        let limit ← plus requested boundEpsilon
        let exceeds ← above peak limit
        reportIf exceeds ["live_verified hot-reload peak_output exceeds the requested clamp"]]

/-- `status == "pass"`. -/
def passes (check : Fields) : Bool := isText (Json.get check "status") "pass"

/-- The check of that id, and its detail where a condition on it holds. -/
def claimErrors (checks : Entries) (id : String) (condition : Fields → Bool)
    (errors : Fields → Option (List Message)) : Option (List Message) :=
  match checks.lookup id with
  | some check => if condition check then (detailOf check).bind errors else some []
  | none => some []

/-- `_validate_claims`. -/
def validateClaims (checks : Entries) : Option (List Message) := reports [
  reports (restartOnlyChecks.map fun id => match checks.lookup id with
    | some check => restartErrors id check
    | none => some []),
  claimErrors checks "vs_startup_readback" passes startupErrors,
  claimErrors checks "vs_proportional_small_target_no_creep" passes proportionalErrors,
  claimErrors checks "vs_caps_reduced_and_symmetric" passes capsErrors,
  claimErrors checks "vs_over_cap_input_clamped" passes clampedErrors,
  claimErrors checks "vs_hot_reload_max_velocity_effect"
    (fun check => isText (Json.get check "classification") "live_verified") hotErrors]

/-! ### The checks -/

/-- `_checks_by_id`, of the checks whose id is a text. -/
def checksById (checks : List Json) : Entries := entriesOf checks

def checkErrors (check : Json) : Option (List Message) := do
  let check ← asObject check
  let id := Contract.shown (Json.get check "id")
  let status ← among ["pass", "fail"] (Json.get check "status")
  let classification ← among allowedClassifications (Json.get check "classification")
  reports [
    reportIf (!status) ["check ", id, " has an invalid status"],
    reportIf (!classification) ["check ", id, " has an invalid classification"],
    reportIf (asObject (Json.get check "detail")).isNone
      ["check ", id, " detail must be an object"]]

/-- The checks that are dictionaries. -/
def checkObjects (checks : List Json) : List Fields := checks.filterMap asObject

/-- The number of failed checks. -/
def failedCount (checks : List Json) : Nat :=
  (checkObjects checks).countP fun check => isText (Json.get check "status") "fail"

def summaryErrors (receipt : Fields) (checks : List Json) : Option (List Message) := do
  let summary ← fieldsOr (Json.get receipt "summary")
  let failed := failedCount checks
  let repeated ← repeats ((checkObjects checks).map fun check => Json.get check "id")
  reports [
    reportIf (failed ≠ 0) ["receipt contains ", toString failed, " failed native checks"],
    reportIf repeated ["duplicate native check identifiers"],
    reportIf (!Json.equal (Json.get summary "failed") (.int failed))
      ["summary.failed does not match the checks"],
    reportIf (!Json.equal (Json.get summary "checks") (.int checks.length))
      ["summary.checks does not match the checks"],
    reportIf (!isText (Json.get summary "result") (if failed ≠ 0 then "fail" else "pass"))
      ["summary.result is inconsistent with the checks"]]

/-- The required checks that are missing. -/
def missingChecks (checks : Entries) : List String :=
  requiredChecks.filter fun id => (checks.lookup id).isNone

/-- The part of `validate_receipt` from its list of checks on. -/
def checksErrors (receipt : Fields) : Option (List Message) :=
  match boundedItems (Json.get receipt "checks") maxChecks with
  | none => some [["checks must be a non-empty bounded list"]]
  | some checks => reports [
    reportIf (missingChecks (checksById checks) ≠ [])
      ["missing required checks: ", .names (missingChecks (checksById checks))],
    reports (checks.map checkErrors),
    validateClaims (checksById checks),
    summaryErrors receipt checks]

/-- `validate_receipt`. -/
def validateReceipt (stdlib : Stdlib) (maxAge : Option PyFloat) (receipt : Json) :
    Option (List Message) :=
  match receipt with
  | .obj fields =>
    if finiteTree 33 receipt then reports [headErrors fields, ageErrors stdlib maxAge fields,
      imageErrors fields, isolationErrors stdlib fields, inventoryErrors fields,
      checksErrors fields]
    else some [["receipt contains non-finite or unbounded data"]]
  | _ => some [["receipt is not a JSON object"]]

/-- A receipt that passes. -/
def accepts (stdlib : Stdlib) (maxAge : Option PyFloat) (receipt : Json) : Bool :=
  (validateReceipt stdlib maxAge receipt).any List.isEmpty

end PatrolBot.Tuning.Receipt
