import PatrolBot.TuningReceipt

/-!
# The bounds of the tuning lab

What `scripts/tuning_lab.py` asks of its measurements before it records a check as
passing.  Each bound is taken of the evidence that the check records: the lab writes its
measurements into the `detail` of the check under these names, and a bound that meets a
value it cannot handle raises, which is `none` here.
-/

namespace PatrolBot.Tuning.Lab

open Contract Receipt

/-! ### Limits -/

/-- `CURATED_LINEAR_CAP`. -/
def curatedLinearCap : Number := literal 0.30

/-- `CURATED_ANGULAR_CAP`. -/
def curatedAngularCap : Number := literal 0.70

/-- `CURATED_MAX_ACCEL`. -/
def curatedMaxAccel : Number := literal 1.0

/-- `CURATED_MAX_DECEL`. -/
def curatedMaxDecel : Number := literal (-1.4)

/-- `EXPLICIT_ZERO_STOP_DEADLINE_S`. -/
def explicitZeroStopDeadlineS : Number := literal 0.55

/-- `SILENCE_TIMEOUT_STOP_DEADLINE_S`. -/
def silenceTimeoutStopDeadlineS : Number := literal 0.95

/-- `SMALL_TARGET`. -/
def smallTarget : Number := literal 0.05

/-- `SMALL_TARGET_TOLERANCE`. -/
def smallTargetTolerance : Number := literal 0.02

/-- `AMCL_CANDIDATES`. -/
def amclCandidates : List (String × Number) :=
  [("alpha1", literal 0.11), ("alpha4", literal 0.07), ("update_min_d", literal 0.25),
    ("update_min_a", literal 0.20), ("min_particles", .int 1500), ("max_particles", .int 3000),
    ("max_beams", .int 90), ("z_hit", literal 0.60), ("z_rand", literal 0.40),
    ("sigma_hit", literal 0.15), ("pf_err", literal 0.06), ("pf_z", literal 0.98)]

/-- `RPP_CANDIDATES`. -/
def rppCandidates : List (String × Number) :=
  [("desired_linear_vel", literal 0.18), ("lookahead_dist", literal 0.40),
    ("min_lookahead_dist", literal 0.20), ("max_lookahead_dist", literal 0.65),
    ("lookahead_time", literal 1.20), ("min_approach_linear_velocity", literal 0.06),
    ("approach_velocity_scaling_dist", literal 0.50),
    ("rotate_to_heading_angular_vel", literal 0.60)]

/-- The parameters of the smoother that are read back. -/
def smootherKeys : List String := ["max_velocity", "min_velocity", "max_accel", "max_decel"]

/-! ### Comparisons -/

/-- `left <= right`. -/
def atMost (left right : Number) : Bool := left.order.le right.order

/-- `float(value)`. -/
def floatOf (stdlib : Stdlib) : Json → Option PyFloat
  | .str text => stdlib.float text
  | value => (operand value).bind Arithmetic.binary64.toFloat

/-- `_close`. -/
def close (stdlib : Stdlib) (actual : Json) (expected tolerance : Number) : Option Bool :=
  if isNull actual then some false
  else do
    let actual ← floatOf stdlib actual
    let expected ← Arithmetic.binary64.toFloat expected
    let difference ← Arithmetic.binary64.sub (.float actual) (.float expected)
    pure (atMost difference.abs tolerance)

/-- No value read back is missing or off. -/
def noMismatches (stdlib : Stdlib) (named : List (String × Number)) (readback : Fields) :
    Option Bool := do
  let matched ← named.mapM fun entry =>
    close stdlib (Json.get readback entry.1) entry.2 (literal 1e-6)
  pure (matched.all id)

/-! ### The checks of the smoother -/

/-- A parameter that was read back as it was expected. -/
def keyMatches (expected readback : Fields) (key : String) : Option Bool :=
  if isNull (Json.get readback key) then some false
  else do
    let observed ← listOf (Json.get readback key)
    let values ← (Json.lookup key expected).bind listOf
    let far ← anyApart observed values
    pure (!far)

/-- `vs_startup_readback`. -/
def startupReadback (detail : Fields) : Option Bool := do
  let readback ← asObject (Json.get detail "readback")
  let expected ← asObject (Json.get detail "expected")
  if !(Json.get readback "max_velocity").truthy || !(Json.get readback "max_accel").truthy then
    pure false
  else
    let matched ← smootherKeys.mapM (keyMatches expected readback)
    pure (matched.all id)

/-- The part of `is_reduced` that is about the speed caps. -/
def capsClose (stdlib : Stdlib) (detail : Fields) : Option Bool := do
  let maxLinear ← close stdlib (Json.get detail "configured_max_linear") curatedLinearCap
    (literal 1e-6)
  let maxAngular ← close stdlib (Json.get detail "configured_max_angular") curatedAngularCap
    (literal 1e-6)
  pure (maxLinear && maxAngular)

/-- The part of `is_reduced` that is about the reverse cap and the accelerations. -/
def limitsClose (stdlib : Stdlib) (detail : Fields) : Option Bool := do
  let minLinear ← close stdlib (Json.get detail "configured_min_linear") curatedLinearCap.neg
    (literal 1e-6)
  let maxAccel ← close stdlib (Json.get detail "configured_max_accel") curatedMaxAccel
    (literal 1e-6)
  let maxDecel ← close stdlib (Json.get detail "configured_max_decel") curatedMaxDecel
    (literal 1e-6)
  pure (minLinear && maxAccel && maxDecel)

/-- `is_reduced`, of `vs_caps_reduced_and_symmetric`. -/
def isReduced (stdlib : Stdlib) (detail : Fields) : Option Bool := do
  let caps ← capsClose stdlib detail
  let limits ← limitsClose stdlib detail
  pure (caps && limits)

/-- `low <= peak <= cap + BOUND_EPSILON`. -/
def peakWithin (low : Number) (detail : Fields) (key : String) (cap : Number) : Option Bool := do
  let peak ← operand (Json.get detail key)
  let limit ← Arithmetic.binary64.add cap boundEpsilon
  pure (atMost low peak && atMost peak limit)

/-- `len(samples) >= 5`. -/
def enoughSamples (detail : Fields) : Option Bool :=
  (operand (Json.get detail "samples")).map (atMost (.int 5))

/-- `bounds_ok`, of `vs_over_cap_input_clamped`. -/
def boundsOk (detail : Fields) : Option Bool := do
  let samples ← enoughSamples detail
  let linear ← peakWithin (literal 0.25) detail "peak_linear" curatedLinearCap
  let angular ← peakWithin (literal 0.60) detail "peak_angular" curatedAngularCap
  pure (samples && linear && angular)

/-- `proportional`, of `vs_proportional_small_target_no_creep`. -/
def proportional (detail : Fields) : Option Bool :=
  if isNull (Json.get detail "final_output") then some false
  else do
    let final ← operand (Json.get detail "final_output")
    let off ← Arithmetic.binary64.sub final smallTarget
    let earlyMax ← operand (Json.get detail "early_max")
    let lateMax ← operand (Json.get detail "late_window_max")
    let limit ← Arithmetic.binary64.add smallTarget smallTargetTolerance
    pure (atMost off.abs smallTargetTolerance && atMost earlyMax limit && atMost lateMax limit)

/-- `reached_negative and crossed`, of `vs_reversal_through_zero`. -/
def reversed (detail : Fields) : Option Bool :=
  (operand (Json.get detail "min_output")).map fun least =>
    atMost least (literal (-0.15)) && (Json.get detail "crossed_zero").truthy

/-- `step_budget`. -/
def stepBudget (maxAccel : Number) : Option Number := do
  let perCycle ← Arithmetic.binary64.mul maxAccel.abs (literal 0.05)
  let doubled ← Arithmetic.binary64.mul perCycle (literal 2.0)
  Arithmetic.binary64.add doubled (literal 0.02)

/-- `accel_ok`, of `vs_acceleration_bounded`. -/
def accelOk (detail : Fields) : Option Bool := do
  let samples ← enoughSamples detail
  let peakStep ← operand (Json.get detail "peak_step")
  let budget ← (operand (Json.get detail "configured_max_accel")).bind stepBudget
  pure (samples && (Number.int 0).order.lt peakStep.order && atMost peakStep budget)

/-- The stop deadlines, of `vs_stop_explicit_zero_deadline` and of
    `vs_stop_silence_timeout_deadline`. -/
def stopsWithin (deadline : Number) (detail : Fields) : Option Bool :=
  if isNull (Json.get detail "observed_s") then some false
  else (operand (Json.get detail "observed_s")).map fun observed => atMost observed deadline

/-- The part of `effect_observed` that is about the readback and the peak. -/
def clampTightened (stdlib : Stdlib) (detail : Fields) : Option Bool :=
  match Json.get detail "readback" with
  | .list (first :: _) => do
    let readback ← close stdlib first (literal 0.10) (literal 1e-6)
    let peak ← peakWithin (literal 0.08) detail "peak_output" (literal 0.10)
    pure (readback && peak)
  | .null => some false
  | _ => none

/-- `effect_observed`, of `vs_hot_reload_max_velocity_effect`. -/
def effectObserved (stdlib : Stdlib) (detail : Fields) : Option Bool := do
  let samples ← enoughSamples detail
  let tightened ← clampTightened stdlib detail
  pure ((Json.get detail "set_accepted").truthy && samples && tightened)

/-! ### The checks of the other nodes -/

/-- `amcl_startup_readback`. -/
def amclReadback (stdlib : Stdlib) (detail : Fields) : Option Bool :=
  (asObject (Json.get detail "readback")).bind (noMismatches stdlib amclCandidates)

/-- `rpp_startup_readback`. -/
def rppReadback (stdlib : Stdlib) (detail : Fields) : Option Bool :=
  (asObject (Json.get detail "readback")).bind
    (noMismatches stdlib (rppCandidates.map fun entry => ("FollowPath." ++ entry.1, entry.2)))

/-- The lab's grade of a required check; the isolation and the inventory are recorded as
    they are. -/
def grade (stdlib : Stdlib) (id : String) (detail : Fields) : Option Bool :=
  match id with
  | "vs_startup_readback" => startupReadback detail
  | "vs_caps_reduced_and_symmetric" => isReduced stdlib detail
  | "vs_over_cap_input_clamped" => boundsOk detail
  | "vs_proportional_small_target_no_creep" => proportional detail
  | "vs_reversal_through_zero" => reversed detail
  | "vs_acceleration_bounded" => accelOk detail
  | "vs_stop_explicit_zero_deadline" => stopsWithin explicitZeroStopDeadlineS detail
  | "vs_stop_silence_timeout_deadline" => stopsWithin silenceTimeoutStopDeadlineS detail
  | "vs_hot_reload_max_velocity_effect" => effectObserved stdlib detail
  | "amcl_startup_readback" => amclReadback stdlib detail
  | "rpp_startup_readback" => rppReadback stdlib detail
  | _ => some true

end PatrolBot.Tuning.Lab
