import PatrolBot.TeleopPolicy

/-!
# The runtime speed policy of manual drive (server side)

`commands/tuning_policy.py`: the fixed commissioned envelope, the trusted
runtime cap that may only reduce it, and how a connection resolves the two.
The server keeps its own copy of every check the bridge makes in
`parse_runtime_policy`; the last section compares the copies.
-/

namespace PatrolBot.Tuning

/-! ### Capabilities and constants -/

/-- `TUNING_CAPABILITY`. -/
def tuningCapability : String := "robot_tuning_v1"

/-- `TUNING_POLICY_CAPABILITY`. -/
def tuningPolicyCapability : String := "robot_tuning_policy_v1"

/-- `HARD_MAX_LINEAR_M_S`. -/
def hardMaxLinear : ℚ := 3 / 10

/-- `HARD_MAX_ANGULAR_RAD_S`. -/
def hardMaxAngular : ℚ := 7 / 10

/-- `POLICY_MAX_AGE_S`. -/
def policyMaxAge : ℚ := 5

/-- `POLICY_FUTURE_TOLERANCE_S`. -/
def policyFutureTolerance : ℚ := 1 / 2

/-- `MAX_GENERATION_LENGTH`. -/
def maxGenerationLength : Nat := 128

/-- `capability_requires_policy`. -/
def capabilityRequiresPolicy (capabilities : List String) : Bool :=
  capabilities.any fun capability =>
    capability == tuningCapability || capability == tuningPolicyCapability

/-! ### Policies -/

/-- `LEGACY_MODE` and `DYNAMIC_MODE`. -/
inductive PolicyMode where
  | legacy
  | dynamic
deriving DecidableEq

/-- `TeleopPolicy`: one resolved manual-drive policy, a mode plus its caps. -/
structure TeleopPolicy where
  mode : PolicyMode
  maxLinear : ℚ
  maxAngular : ℚ := hardMaxAngular
  generation : Option String := none
  receivedMono : Option ℚ := none
  robotGeneration : Option Int := none
deriving DecidableEq

namespace TeleopPolicy

/-- The `1e-9` slack of `over_policy`. -/
def tolerance : ℚ := 1 / 1000000000

/-- `over_policy`: a requested frame exceeds the effective caps. -/
def overPolicy (policy : TeleopPolicy) (linear angular : ℚ) : Bool :=
  decide (|linear| > policy.maxLinear + tolerance) ||
    decide (|angular| > policy.maxAngular + tolerance)

/-- `LEGACY_POLICY`: what a robot without a tuning capability keeps. -/
def legacy : TeleopPolicy where
  mode := .legacy
  maxLinear := hardMaxLinear

end TeleopPolicy

/-! ### Parsing -/

/-- `_finite_number`. -/
def finiteNumber : Json → Option ℚ
  | .int n => floatOfInt n
  | .float (.finite q) => some q
  | _ => none

/-- `_GENERATION_ALNUM`. -/
def generationAlnum (c : Char) : Bool :=
  "abcdefghijklmnopqrstuvwxyzABCDEFGHIJKLMNOPQRSTUVWXYZ0123456789".toList.contains c

/-- `_GENERATION_ALLOWED`. -/
def generationAllowed (c : Char) : Bool :=
  generationAlnum c || "-_.:".toList.contains c

/-- `_valid_generation`, with the accepted text as its answer. -/
def validGeneration : Json → Option String
  | .str value =>
    let characters := value.toList
    if ¬(1 ≤ characters.length ∧ characters.length ≤ maxGenerationLength) then none
    else if characters.contains '/' || characters.contains '\\' || hasDoubleDot characters then
      none
    else if !characters.any generationAlnum then none
    else if characters.all generationAllowed then some value
    else none
  | _ => none

/-- `_field` of a mapping: a missing key reads as `None`. -/
def field (fields : List (String × Json)) (name : String) : Json := Json.get fields name

/-- `_REQUIRED_FIELDS`. -/
def requiredFields : List String :=
  ["max_linear_m_s", "max_angular_rad_s", "generation", "received_mono", "robot_generation"]

/-- The session binding a dynamic policy must carry. -/
def sessionBinding : Json → Option Int
  | .int generation => if generation < 0 then none else some generation
  | _ => none

/-- `_validate_policy_fields`. -/
def validatePolicyFields (linearRaw angularRaw generation receivedMono robotGeneration : Json)
    (now : ℚ) : Except Message TeleopPolicy :=
  match finiteNumber linearRaw with
  | none => .error ["The dynamic speed policy linear cap is not a finite number."]
  | some linear =>
    if linear < 0 ∨ linear > hardMaxLinear then
      .error ["The dynamic speed policy linear cap (", .repr linearRaw,
        ") is outside the commissioned envelope."]
    else match finiteNumber angularRaw with
    | none => .error ["The dynamic speed policy angular cap is not a finite number."]
    | some angular =>
      if angular < 0 ∨ angular > hardMaxAngular then
        .error ["The dynamic speed policy angular cap (", .repr angularRaw,
          ") is outside the commissioned envelope."]
      else match validGeneration generation with
      | none =>
        .error ["The dynamic speed policy configuration generation is missing or not canonical."]
      | some generation =>
        match finiteNumber receivedMono with
        | none => .error ["The dynamic speed policy receipt time is missing or invalid."]
        | some received =>
          if received > now + policyFutureTolerance then
            .error ["The dynamic speed policy receipt time is in the future."]
          else if now - received > policyMaxAge then
            .error ["The dynamic speed policy is stale; manual input is refused."]
          else match sessionBinding robotGeneration with
          | none => .error ["The dynamic speed policy session binding is missing or invalid."]
          | some bound => .ok {
              mode := .dynamic, maxLinear := linear, maxAngular := angular,
              generation := some generation, receivedMono := some received,
              robotGeneration := some bound }

/-- `parse_policy` of a mapping: unknown keys first, then missing ones, then
    the values. -/
def parsePolicy (fields : List (String × Json)) (now : ℚ) : Except Message TeleopPolicy :=
  let keys := fields.map Prod.fst
  let unknown := keys.filter fun key => !requiredFields.contains key
  let missing := requiredFields.filter fun key => !keys.contains key
  if unknown ≠ [] then
    .error ["The dynamic speed policy is malformed: it carries unknown field(s) ",
      .names unknown, "."]
  else if missing ≠ [] then
    .error ["The dynamic speed policy is malformed: it is missing field(s) ", .names missing, "."]
  else
    validatePolicyFields (field fields "max_linear_m_s") (field fields "max_angular_rad_s")
      (field fields "generation") (field fields "received_mono") (field fields "robot_generation")
      now

/-- What `provider(robot_id)` gives: it may raise, and may have nothing to
    report. -/
inductive Provided where
  | raised
  | none
  | policy (fields : List (String × Json))

/-- `resolve_policy`: the legacy envelope without a tuning capability, with one
    a fresh, in-envelope policy bound to this session or a refusal. -/
def resolvePolicy (capabilities : List String) (provided : Provided) (now : ℚ)
    (robotGeneration : Option Int) : Except Message TeleopPolicy :=
  if ¬capabilityRequiresPolicy capabilities then .ok .legacy
  else match provided with
  | .raised => .error ["The dynamic speed policy could not be read; manual input is refused."]
  | .none =>
    .error ["The robot advertises dynamic speed tuning but no trusted policy is available; ",
      "manual input is refused."]
  | .policy fields =>
    match parsePolicy fields now with
    | .error reason => .error reason
    | .ok policy =>
      if policy.robotGeneration ≠ robotGeneration then
        .error ["The dynamic speed policy does not match this robot session; ",
          "manual input is refused."]
      else .ok policy

/-! ### The two copies -/

theorem alnum_characters :
    "abcdefghijklmnopqrstuvwxyzABCDEFGHIJKLMNOPQRSTUVWXYZ0123456789".toList =
      (List.range' 97 26 ++ List.range' 65 26 ++ List.range' 48 10).map Char.ofNat := by
  decide

/-- The spelled-out set is the bridge's three ASCII ranges. -/
theorem generationAlnum_eq (c : Char) : generationAlnum c = PatrolBot.generationAlnum c := by
  have hcode : ∀ n : Nat, n < 128 → Char.ofNat n = c → n = c.toNat := by
    rintro n hn rfl
    rw [Char.toNat, Char.ofNat, dif_pos (.inl (by omega))]
    rfl
  have hmem : generationAlnum c = true ↔ PatrolBot.generationAlnum c = true := by
    unfold generationAlnum PatrolBot.generationAlnum
    rw [alnum_characters, List.contains_iff_mem, List.mem_map]
    simp only [List.mem_append, List.mem_range'_1, Bool.or_eq_true, Bool.and_eq_true,
      decide_eq_true_eq, Char.le_def, UInt32.le_iff_toNat_le, Char.toNat_val, Char.reduceToNat]
    constructor
    · rintro ⟨n, hn, hc⟩
      have := hcode n (by omega) hc
      omega
    · intro hc
      exact ⟨c.toNat, by omega, Char.ofNat_toNat c⟩
  exact Bool.eq_iff_iff.mpr hmem

theorem generationAllowed_eq (c : Char) : generationAllowed c = PatrolBot.generationAllowed c := by
  have hextra : "-_.:".toList.contains c = (c == '-' || c == '_' || c == '.' || c == ':') := by
    simp only [beq_eq_decide]
    simp [Bool.or_assoc]
  rw [generationAllowed, hextra, generationAlnum_eq, PatrolBot.generationAllowed]
  simp only [Bool.or_assoc]

theorem finiteNumber_eq (value : Json) : finiteNumber value = PatrolBot.finiteNumber value := by
  unfold finiteNumber PatrolBot.finiteNumber
  rfl

theorem validGeneration_eq (value : Json) :
    validGeneration value = PatrolBot.validGeneration value := by
  have halnum : generationAlnum = PatrolBot.generationAlnum := funext generationAlnum_eq
  have hallowed : generationAllowed = PatrolBot.generationAllowed := funext generationAllowed_eq
  have hlength : ∀ n : Nat, ¬(1 ≤ n ∧ n ≤ maxGenerationLength) ↔
      n < 1 ∨ n > maxPolicyGenerationLength := by
    intro n
    simp only [maxGenerationLength, maxPolicyGenerationLength]
    omega
  cases value with
  | str value =>
    simp only [validGeneration, PatrolBot.validGeneration, halnum, hallowed, hlength]
  | _ => rfl

/-- The server demands the binding the bridge lets a policy leave out. -/
theorem sessionBinding_isSome (value : Json) :
    (sessionBinding value).isSome = true ↔ boundValid value = true ∧ value ≠ .null := by
  cases value with
  | int generation =>
    simp only [sessionBinding, boundValid, decide_eq_true_eq]
    by_cases h : generation < 0
    · simp [h]
    · simp [h, not_lt.mp h]
  | _ => simp [sessionBinding, boundValid]

/-! ### What both ends accept -/

variable {fields : List (String × Json)} {now : ℚ}

/-- The barrier both ends mean: the values a mapping must carry, apart from the
    binding to a robot session. -/
structure Fits (fields : List (String × Json)) (now linear angular received : ℚ)
    (generation : String) : Prop where
  linearCap : PatrolBot.finiteNumber (Json.get fields "max_linear_m_s") = some linear
  linearIn : ¬(linear < 0 ∨ linear > hardMaxLinear)
  angularCap : PatrolBot.finiteNumber (Json.get fields "max_angular_rad_s") = some angular
  angularIn : ¬(angular < 0 ∨ angular > hardMaxAngular)
  canonical : PatrolBot.validGeneration (Json.get fields "generation") = some generation
  receipt : PatrolBot.finiteNumber (Json.get fields "received_mono") = some received
  notFuture : ¬received > now + policyFutureTolerance
  notStale : ¬now - received > policyMaxAge

theorem Fits.unique {linear angular received linear' angular' received' : ℚ}
    {generation generation' : String} (h : Fits fields now linear angular received generation)
    (h' : Fits fields now linear' angular' received' generation') :
    linear = linear' ∧ angular = angular' ∧ generation = generation' :=
  ⟨Option.some.inj (h.linearCap.symm.trans h'.linearCap),
    Option.some.inj (h.angularCap.symm.trans h'.angularCap),
    Option.some.inj (h.canonical.symm.trans h'.canonical)⟩

/-- The bridge's parser, as one condition. -/
theorem parseRuntimePolicy_eq_ok {policy : RuntimePolicy} :
    parseRuntimePolicy (.obj fields) now hardMaxLinear hardMaxAngular = .ok policy ↔
      ∃ linear angular received generation, Fits fields now linear angular received generation ∧
        boundValid (Json.get fields "robot_generation") = true ∧
        policy = ⟨linear, angular, some generation, true⟩ := by
  simp only [parseRuntimePolicy, policyField]
  constructor
  · intro h
    cases hlinear : PatrolBot.finiteNumber (Json.get fields "max_linear_m_s") with
    | none => simp [hlinear] at h
    | some linear =>
    simp only [hlinear] at h
    split at h
    · simp at h
    rename_i hlinearIn
    cases hangular : PatrolBot.finiteNumber (Json.get fields "max_angular_rad_s") with
    | none => simp [hangular] at h
    | some angular =>
    simp only [hangular] at h
    split at h
    · simp at h
    rename_i hangularIn
    cases hgeneration : PatrolBot.validGeneration (Json.get fields "generation") with
    | none => simp [hgeneration] at h
    | some generation =>
    simp only [hgeneration] at h
    cases hreceived : PatrolBot.finiteNumber (Json.get fields "received_mono") with
    | none => simp [hreceived] at h
    | some received =>
    simp only [hreceived] at h
    split at h
    · simp at h
    rename_i hfuture
    split at h
    · simp at h
    rename_i hstale
    by_cases hbound : boundValid (Json.get fields "robot_generation") = true
    · simp only [hbound, if_true] at h
      exact ⟨linear, angular, received, generation, ⟨hlinear, hlinearIn, hangular, hangularIn,
        hgeneration, hreceived, hfuture, hstale⟩, hbound, (Except.ok.inj h).symm⟩
    · simp [hbound] at h
  · rintro ⟨linear, angular, received, generation, h, hbound, rfl⟩
    have hfuture : ¬received > now + PatrolBot.policyFutureTolerance := h.notFuture
    have hstale : ¬now - received > PatrolBot.policyMaxAge := h.notStale
    simp only [h.linearCap, h.angularCap, h.canonical, h.receipt, if_neg h.linearIn,
      if_neg h.angularIn, if_neg hfuture, if_neg hstale, hbound, if_true]

/-- The server's check of the five values, as one condition. -/
theorem validatePolicyFields_eq_ok {policy : TeleopPolicy} :
    validatePolicyFields (field fields "max_linear_m_s") (field fields "max_angular_rad_s")
        (field fields "generation") (field fields "received_mono")
        (field fields "robot_generation") now = .ok policy ↔
      ∃ linear angular received generation bound,
        Fits fields now linear angular received generation ∧
        sessionBinding (Json.get fields "robot_generation") = some bound ∧
        policy = {
          mode := .dynamic, maxLinear := linear, maxAngular := angular,
          generation := some generation, receivedMono := some received,
          robotGeneration := some bound } := by
  simp only [validatePolicyFields, field, finiteNumber_eq, validGeneration_eq]
  constructor
  · intro h
    cases hlinear : PatrolBot.finiteNumber (Json.get fields "max_linear_m_s") with
    | none => simp [hlinear] at h
    | some linear =>
    simp only [hlinear] at h
    split at h
    · simp at h
    rename_i hlinearIn
    cases hangular : PatrolBot.finiteNumber (Json.get fields "max_angular_rad_s") with
    | none => simp [hangular] at h
    | some angular =>
    simp only [hangular] at h
    split at h
    · simp at h
    rename_i hangularIn
    cases hgeneration : PatrolBot.validGeneration (Json.get fields "generation") with
    | none => simp [hgeneration] at h
    | some generation =>
    simp only [hgeneration] at h
    cases hreceived : PatrolBot.finiteNumber (Json.get fields "received_mono") with
    | none => simp [hreceived] at h
    | some received =>
    simp only [hreceived] at h
    split at h
    · simp at h
    rename_i hfuture
    split at h
    · simp at h
    rename_i hstale
    cases hbound : sessionBinding (Json.get fields "robot_generation") with
    | none => simp [hbound] at h
    | some bound =>
    simp only [hbound] at h
    exact ⟨linear, angular, received, generation, bound, ⟨hlinear, hlinearIn, hangular,
      hangularIn, hgeneration, hreceived, hfuture, hstale⟩, rfl, (Except.ok.inj h).symm⟩
  · rintro ⟨linear, angular, received, generation, bound, h, hbound, rfl⟩
    simp only [h.linearCap, h.angularCap, h.canonical, h.receipt, if_neg h.linearIn,
      if_neg h.angularIn, if_neg h.notFuture, if_neg h.notStale, hbound]

theorem lookup_isSome (key : String) :
    (Json.lookup key fields).isSome = true ↔ key ∈ fields.map Prod.fst := by
  induction fields with
  | nil => simp [Json.lookup]
  | cons field fields ih =>
    simp only [Json.lookup, List.map_cons, List.mem_cons]
    by_cases h : field.1 = key
    · simp [h]
    · simp [h, ih, Ne.symm h]

/-- With exactly the documented keys nothing but the values is left to check. -/
theorem parsePolicy_of_exact (hexact : Json.hasExactly fields requiredFields = true) :
    parsePolicy fields now =
      validatePolicyFields (field fields "max_linear_m_s") (field fields "max_angular_rad_s")
        (field fields "generation") (field fields "received_mono")
        (field fields "robot_generation") now := by
  simp only [Json.hasExactly, Bool.and_eq_true, List.all_eq_true, lookup_isSome] at hexact
  have hunknown : (fields.map Prod.fst).filter (fun key => !requiredFields.contains key) = [] := by
    rw [List.filter_eq_nil_iff]
    intro key hkey
    obtain ⟨entry, hentry, rfl⟩ := List.mem_map.mp hkey
    rw [hexact.1 entry hentry]
    decide
  have hmissing : requiredFields.filter (fun key => !(fields.map Prod.fst).contains key) = [] := by
    rw [List.filter_eq_nil_iff]
    intro key hkey
    rw [List.contains_iff_mem.mpr (hexact.2 key hkey)]
    decide
  simp only [parsePolicy, hunknown, hmissing, ne_eq, not_true_eq_false, if_false]

/-- Both ends accept the same mappings, up to the binding the bridge lets a
    policy leave out, and read the same caps and generation from them. -/
theorem parsers_agree (fields : List (String × Json)) (now : ℚ)
    (hexact : Json.hasExactly fields requiredFields = true) :
    ((∃ policy, parsePolicy fields now = .ok policy) ↔
      (∃ policy, parseRuntimePolicy (.obj fields) now hardMaxLinear hardMaxAngular = .ok policy) ∧
        Json.get fields "robot_generation" ≠ .null) ∧
    ∀ policy runtime, parsePolicy fields now = .ok policy →
      parseRuntimePolicy (.obj fields) now hardMaxLinear hardMaxAngular = .ok runtime →
      policy.maxLinear = runtime.maxLinear ∧ policy.maxAngular = runtime.maxAngular ∧
      policy.generation = runtime.generation ∧
      (0 ≤ policy.maxLinear ∧ policy.maxLinear ≤ hardMaxLinear) ∧
      (0 ≤ policy.maxAngular ∧ policy.maxAngular ≤ hardMaxAngular) ∧
      ∀ linear angular, policy.overPolicy linear angular = runtime.exceeds linear angular := by
  rw [parsePolicy_of_exact hexact]
  constructor
  · constructor
    · rintro ⟨policy, h⟩
      obtain ⟨linear, angular, received, generation, bound, hfits, hbound, -⟩ :=
        validatePolicyFields_eq_ok.mp h
      have hboth := (sessionBinding_isSome _).mp (Option.isSome_of_eq_some hbound)
      exact ⟨⟨_, parseRuntimePolicy_eq_ok.mpr ⟨linear, angular, received, generation, hfits,
        hboth.1, rfl⟩⟩, hboth.2⟩
    · rintro ⟨⟨policy, h⟩, hpresent⟩
      obtain ⟨linear, angular, received, generation, hfits, hvalid, -⟩ :=
        parseRuntimePolicy_eq_ok.mp h
      obtain ⟨bound, hbound⟩ :=
        Option.isSome_iff_exists.mp ((sessionBinding_isSome _).mpr ⟨hvalid, hpresent⟩)
      exact ⟨_, validatePolicyFields_eq_ok.mpr ⟨linear, angular, received, generation, bound,
        hfits, hbound, rfl⟩⟩
  · intro policy runtime hpolicy hruntime
    obtain ⟨linear, angular, received, generation, bound, hfits, -, rfl⟩ :=
      validatePolicyFields_eq_ok.mp hpolicy
    obtain ⟨linear', angular', received', generation', hfits', -, rfl⟩ :=
      parseRuntimePolicy_eq_ok.mp hruntime
    obtain ⟨rfl, rfl, rfl⟩ := hfits.unique hfits'
    have hlinear := hfits.linearIn
    have hangular := hfits.angularIn
    simp only [not_or, not_lt] at hlinear hangular
    refine ⟨rfl, rfl, rfl, hlinear, hangular, ?_⟩
    intro linear angular
    rfl

/-- A policy of the robot's third revision, received at 10 s. -/
def freshPolicy : List (String × Json) :=
  [("max_linear_m_s", .float (.finite (1 / 5))), ("max_angular_rad_s", .int 0),
    ("generation", .str "boot:3:a1"), ("received_mono", .float (.finite 10)),
    ("robot_generation", .int 4)]

theorem fits_freshPolicy : Fits freshPolicy 12 (1 / 5) 0 10 "boot:3:a1" where
  linearCap := rfl
  linearIn := by decide +kernel
  angularCap := rfl
  angularIn := by decide +kernel
  canonical := by decide +kernel
  receipt := rfl
  notFuture := by decide +kernel
  notStale := by decide +kernel

theorem parsers_agree_of_freshPolicy :
    ∃ policy, parsePolicy freshPolicy 12 = .ok policy ∧ policy.maxLinear = 1 / 5 ∧
      policy.overPolicy (1 / 4) 0 = true := by
  have hruntime : parseRuntimePolicy (.obj freshPolicy) 12 hardMaxLinear hardMaxAngular =
      .ok ⟨1 / 5, 0, some "boot:3:a1", true⟩ :=
    parseRuntimePolicy_eq_ok.mpr ⟨1 / 5, 0, 10, "boot:3:a1", fits_freshPolicy, rfl, rfl⟩
  have h := parsers_agree freshPolicy 12 (by decide)
  obtain ⟨policy, hpolicy⟩ := h.1.mpr ⟨⟨_, hruntime⟩, by simp [freshPolicy, Json.get, Json.lookup]⟩
  obtain ⟨hlinear, -, -, -, -, hover⟩ := h.2 policy _ hpolicy hruntime
  refine ⟨policy, hpolicy, hlinear, ?_⟩
  rw [hover]
  decide +kernel

end PatrolBot.Tuning
