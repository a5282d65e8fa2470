import PatrolBot.Py

/-!
# The runtime speed policy of manual drive (bridge side)

`parse_runtime_policy` of `teleop.py`: the last software boundary before the
robot re-derives the checks on the trusted policy value.  A refusal carries the
operator-facing sentence.
-/

namespace PatrolBot

/-- `RuntimePolicy.signature`: the generation together with the caps. -/
structure PolicySignature where
  dynamic : Bool
  maxLinear : ℚ
  maxAngular : ℚ
  generation : Option String
deriving DecidableEq

/-- One resolved manual-drive policy: effective caps plus its generation. -/
structure RuntimePolicy where
  maxLinear : ℚ
  maxAngular : ℚ
  generation : Option String
  dynamic : Bool

namespace RuntimePolicy

def signature (policy : RuntimePolicy) : PolicySignature :=
  ⟨policy.dynamic, policy.maxLinear, policy.maxAngular, policy.generation⟩

/-- The `1e-9` slack of `exceeds`. -/
def tolerance : ℚ := 1 / 1000000000

def exceeds (policy : RuntimePolicy) (linear angular : ℚ) : Bool :=
  decide (|linear| > policy.maxLinear + tolerance) ||
    decide (|angular| > policy.maxAngular + tolerance)

theorem exceeds_eq_false {policy : RuntimePolicy} {linear angular : ℚ} :
    policy.exceeds linear angular = false ↔
      |linear| ≤ policy.maxLinear + tolerance ∧ |angular| ≤ policy.maxAngular + tolerance := by
  simp only [exceeds, Bool.or_eq_false_iff, decide_eq_false_iff_not, not_lt]

end RuntimePolicy

/-- `POLICY_MAX_AGE_S`. -/
def policyMaxAge : ℚ := 5

/-- `POLICY_FUTURE_TOLERANCE_S`. -/
def policyFutureTolerance : ℚ := 1 / 2

/-- `MAX_POLICY_GENERATION_LENGTH`. -/
def maxPolicyGenerationLength : Nat := 128

/-- `_GENERATION_ALNUM`: ASCII letters and digits only. -/
def generationAlnum (c : Char) : Bool :=
  ('a' ≤ c && c ≤ 'z') || ('A' ≤ c && c ≤ 'Z') || ('0' ≤ c && c ≤ '9')

/-- `_GENERATION_ALLOWED`. -/
def generationAllowed (c : Char) : Bool :=
  generationAlnum c || c == '-' || c == '_' || c == '.' || c == ':'

/-- Two adjacent dots, the `".." in value` of the source. -/
def hasDoubleDot : List Char → Bool
  | '.' :: '.' :: _ => true
  | _ :: rest => hasDoubleDot rest
  | [] => false

/-- `_valid_generation`. -/
def validGeneration : Json → Option String
  | .str value =>
    let characters := value.toList
    if characters.length < 1 ∨ characters.length > maxPolicyGenerationLength then none
    else if characters.contains '/' || characters.contains '\\' || hasDoubleDot characters then
      none
    else if !characters.any generationAlnum then none
    else if characters.all generationAllowed then some value
    else none
  | _ => none

/-- `_policy_field`: a missing key, and any value that is no mapping, reads as
    `None`. -/
def policyField (raw : Json) (name : String) : Json :=
  match raw with
  | .obj fields => Json.get fields name
  | _ => .null

/-- The session binding check on the optional `robot_generation`. -/
def boundValid : Json → Bool
  | .null => true
  | .int bound => decide (0 ≤ bound)
  | _ => false

/-- `parse_runtime_policy`. -/
def parseRuntimePolicy (raw : Json) (now hardLinear hardAngular : ℚ) :
    Except String RuntimePolicy :=
  match raw with
  | .null => .error "The dynamic speed policy is missing."
  | raw =>
    match finiteNumber (policyField raw "max_linear_m_s") with
    | none => .error "The dynamic speed policy linear cap is not a finite number."
    | some linear =>
      if linear < 0 ∨ linear > hardLinear then
        .error "The dynamic speed policy linear cap is outside the commissioned envelope."
      else match finiteNumber (policyField raw "max_angular_rad_s") with
      | none => .error "The dynamic speed policy angular cap is not a finite number."
      | some angular =>
        if angular < 0 ∨ angular > hardAngular then
          .error "The dynamic speed policy angular cap is outside the commissioned envelope."
        else match validGeneration (policyField raw "generation") with
        | none =>
          .error "The dynamic speed policy configuration generation is missing or not canonical."
        | some generation =>
          match finiteNumber (policyField raw "received_mono") with
          | none => .error "The dynamic speed policy receipt time is missing or invalid."
          | some received =>
            if received > now + policyFutureTolerance then
              .error "The dynamic speed policy receipt time is in the future."
            else if now - received > policyMaxAge then
              .error "The dynamic speed policy is stale; manual input is refused."
            else if boundValid (policyField raw "robot_generation") then
              .ok ⟨linear, angular, some generation, true⟩
            else .error "The dynamic speed policy session binding is invalid."

/-- What calling the policy source gives: it may raise, and `None` (no source,
    or nothing to report) is the JSON null. -/
inductive PolicyRead where
  | raised
  | value (raw : Json)

/-- The answers one `_resolve_policy` gets from outside: the policy source,
    `policy_required`, and the clock reading of the freshness check. -/
structure PolicyAnswers where
  read : PolicyRead
  required : Bool
  now : ℚ

/-- `TeleopSession._resolve_policy`: without a tuning capability the fixed
    commissioned envelope applies, with one a missing, malformed or stale
    policy is a refusal. -/
def resolvePolicy (hardLinear hardAngular : ℚ) (answers : PolicyAnswers) :
    Except String RuntimePolicy :=
  match answers.read with
  | .raised => .error "The dynamic speed policy could not be read; manual input is refused."
  | .value .null =>
    if answers.required then
      .error "A dynamic speed policy is required but unavailable; manual input is refused."
    else .ok ⟨hardLinear, hardAngular, none, false⟩
  | .value raw => parseRuntimePolicy raw answers.now hardLinear hardAngular

end PatrolBot
