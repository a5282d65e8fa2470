import PatrolBot.Debounce
import PatrolBot.Library.Binary64
import PatrolBot.Library.Signals
import PatrolBot.Precheck
import PatrolBot.TelemetryFrames

/-!
# What the bridge tells of the robot's motion

The callbacks of `bridge_node.py` that turn the robot's topics into telemetry: a pose, a
measured motion, a scan and a path are each bound to the latest base state, to its odometry
epoch or to its map.  The callbacks exclude each other, and each reads the clocks once.
-/

namespace PatrolBot.BridgeNode

/-! ### Messages -/

/-- The clocks as a callback reads them: seconds of the monotonic one, and the nanoseconds
    of the one that stamps messages. -/
structure Clock where
  mono : ℚ
  ros : Int

/-- `nanoseconds / 1e9`. -/
def Clock.seconds (clock : Clock) : ℚ := clock.ros / 1000000000

/-- `_teleop_origin`: the session and the odometry epoch that a base state names. -/
structure Origin where
  sessionGeneration : Option Int
  odomEpoch : Option String
  odomEpochGeneration : Option Int
  valid : Bool
deriving DecidableEq

structure Odometry where
  stampNs : Int
  -- position and orientation
  pose : List PyFloat
  linear : PyFloat
  angular : PyFloat

/-- An AMCL pose: the seven numbers of its geometry, and the variances of x, y and yaw. -/
structure AmclPose where
  stampNs : Int
  geometry : List PyFloat
  covariance : List PyFloat

/-- A base state: its origin and what `normalize_base_state` makes of it, with the map. -/
structure BaseReport where
  origin : Origin
  payload : BaseState

structure Config where
  poseInterval : ℚ := 1 / 10
  scanInterval : ℚ := 1 / 5
  pathInterval : ℚ := 1 / 2
  motionInterval : ℚ := 1 / 10
  motionMaxAgeS : ℚ := 1
  covarianceWarn : ℚ := 1 / 4
  localizationMaxAgeS : ℚ := 30
  autoDockPoseOnCharge : Bool := false
  autoDockPoseRetryS : ℚ := 20
  chargeSettleS : ℚ := 4
  -- commands are enabled: there is a `CommandExecutor`
  commands : Bool := true

/-- The points of a path, as `normalize_path` gives them. -/
abbrev Points := List (ℚ × ℚ)

/-- `_latest_base_state` with the times of its arrival. -/
structure BaseSeen where
  state : BaseState
  seconds : ℚ
  mono : ℚ

structure Node where
  origin : Option Origin := none
  base : Option BaseSeen := none
  -- `_latest_odom` and `_latest_odom_mono`, set and cleared together
  odom : Option (Odometry × ℚ) := none
  -- `_latest_amcl` with the seconds of its arrival
  amcl : Option (AmclPose × ℚ) := none
  -- `_last` of the throttles
  poseLast : ℚ := 0
  scanLast : ℚ := 0
  pathLast : ℚ := 0
  motionLast : ℚ := 0
  lastPathPoints : Option Points := none
  lastDockPoseAttempt : ℚ := 0
  chargeState : Debounce String

/-- The pair that `_map_context` adds to a payload. -/
abbrev MapContext := Option String × Option String

/-- What goes to the dashboard, or to the dock manager. -/
inductive Frame where
  | pose (amcl : AmclPose) (twist : Option Odometry) (age : ℚ) (context : MapContext)
      (localized : Bool)
  | motion (payload : List (String × Json))
  | lidar (stampNs : Int) (context : MapContext)
  | path (points : Points) (context : MapContext)
  | baseState (state : BaseState) (rawOdomAge : Option ℚ)
  -- `initialize_dock_pose`
  | seedDock

inductive Callback where
  | odom (message : Odometry)
  | amcl (message : AmclPose)
  | scan (stampNs : Int)
  | plan (stampNs : Int) (points : Points)
  | baseState (report : BaseReport)

/-! ### Normalizers -/

/-- `round(value, 3)`. -/
def round3 (value : ℚ) : ℚ := Binary64.halfEven (value * 1000) / 1000

def motionMaxAbsLinear : ℚ := 5
def motionMaxAbsAngular : ℚ := 10
def motionMaxAge : ℚ := 86400
def motionMaxGeneration : Int := 2 ^ 31 - 1
def motionMaxEpochLength : Nat := 128

/-- The payload of a measured motion. -/
def motionFields (linear angular sampleAge receiptAge : ℚ) (generation : Int) (epoch : String)
    (epochGeneration : Int) : List (String × Json) :=
  [("linear_velocity", .float (.finite (round3 linear))),
    ("angular_velocity", .float (.finite (round3 angular))),
    ("source", .str "raw_odom"),
    ("sample_age_s", .float (.finite (round3 sampleAge))),
    ("receipt_age_s", .float (.finite (round3 receiptAge))),
    ("session_generation", .int generation),
    ("odom_epoch", .str epoch),
    ("odom_epoch_generation", .int epochGeneration)]

/-- `normalize_motion`. -/
def normalizeMotion (linear angular : PyFloat) (sessionGeneration : Option Int)
    (odomEpoch : Option String) (odomEpochGeneration : Option Int) (sampleAge receiptAge : ℚ) :
    Option (List (String × Json)) :=
  match linear, angular, sessionGeneration, odomEpochGeneration with
  | .finite linear, .finite angular, some generation, some epochGeneration =>
    let epoch := odomEpoch.getD ""
    if motionMaxEpochLength < epoch.length then none
    else if motionMaxAbsLinear < |linear| ∨ motionMaxAbsAngular < |angular| then none
    else if sampleAge < 0 ∨ receiptAge < 0 then none
    else if motionMaxAge < sampleAge ∨ motionMaxAge < receiptAge then none
    else if ¬ (0 ≤ generation ∧ generation ≤ motionMaxGeneration) then none
    else if ¬ (0 ≤ epochGeneration ∧ epochGeneration ≤ motionMaxGeneration) then none
    else some (motionFields linear angular sampleAge receiptAge generation epoch epochGeneration)
  | _, _, _, _ => none

/-- `amcl_localization_usable`. -/
def amclLocalizationUsable (limit : ℚ) (amcl : AmclPose) : Bool :=
  decide (0 < limit) && (amcl.geometry ++ amcl.covariance).all PyFloat.isFinite &&
    amcl.covariance.all fun value =>
      PyFloat.lt (.finite 0) value && value.le (.finite limit)

/-- `localization_epoch_ready`. -/
def localizationEpochReady (base : BaseState) (amclStampNs : Int) (baseAge : ℚ) : Bool :=
  base.linkConnected && PyFloat.le (.finite 0) base.telemetryAge &&
    base.telemetryAge.le (.finite maxTelemetryAge) && decide (0 ≤ baseAge) &&
    decide (baseAge ≤ maxReceiptAge) && base.odomEpochValid &&
    !base.localizationRecoveryRequired && decide (0 < base.localizationSeedStampNs) &&
    decide (base.localizationSeedStampNs < amclStampNs)

/-! ### The node -/

namespace Node

/-- `Throttle.ready`. -/
def ready (interval last now : ℚ) : Bool := decide (interval ≤ now - last)

variable (config : Config) (clock : Clock) (node : Node)

/-- `_localization_is_usable`. -/
def localizationIsUsable : Bool :=
  match node.amcl, node.base with
  | some (amcl, at_), some base =>
    localizationEpochReady base.state amcl.stampNs (clock.seconds - base.seconds) &&
      decide (clock.seconds - at_ ≤ config.localizationMaxAgeS) &&
      amclLocalizationUsable config.covarianceWarn amcl
  | _, _ => false

/-- `_map_context`. -/
def mapContext : MapContext :=
  match node.base with
  | some base => (base.state.mapId, base.state.mapRevision)
  | none => (none, none)

/-- `_on_active_map`, of the stamp of a message. -/
def onActiveMap (stampNs : Int) : Bool :=
  match node.base with
  | some base =>
    base.state.mapId.isSome && base.state.mapRevision.isSome &&
      decide (base.state.mapActivatedStampNs ≤ stampNs) &&
      decide (0 < base.state.mapActivatedStampNs)
  | none => false

/-- `_maybe_send_pose`; a payload without an AMCL pose is on no map. -/
def maybeSendPose : Node × List Frame :=
  if ready config.poseInterval node.poseLast clock.mono then
    let node := { node with poseLast := clock.mono }
    match node.amcl with
    | some (amcl, at_) =>
      if node.onActiveMap amcl.stampNs then
        (node, [.pose amcl (node.odom.map Prod.fst) (clock.seconds - at_) node.mapContext
          (node.localizationIsUsable config clock)])
      else (node, [])
    | none => (node, [])
  else (node, [])

/-- What `_maybe_send_motion` sends once its throttle is open. -/
def motionPayload : Option (List (String × Json)) :=
  match node.origin, node.base, node.odom with
  | some origin, some base, some (message, odomMono) =>
    let baseAge := clock.mono - base.mono
    let sampleAge := ((clock.ros - message.stampNs : Int) : ℚ) / 1000000000
    if origin.valid = false ∨ ¬ (0 ≤ baseAge ∧ baseAge ≤ 1 / 2) then none
    else if ¬ (0 ≤ sampleAge ∧ sampleAge ≤ config.motionMaxAgeS) then none
    else normalizeMotion message.linear message.angular origin.sessionGeneration origin.odomEpoch
      origin.odomEpochGeneration sampleAge (clock.mono - odomMono)
  | _, _, _ => none

/-- `_maybe_send_motion`. -/
def maybeSendMotion : Node × List Frame :=
  if ready config.motionInterval node.motionLast clock.mono then
    let node := { node with motionLast := clock.mono }
    (node, ((node.motionPayload config clock).map Frame.motion).toList)
  else (node, [])

/-- `_on_odom`. -/
def onOdom (message : Odometry) : Node × List Frame :=
  let posed := { node with odom := some (message, clock.mono) }.maybeSendPose config clock
  let moved := posed.1.maybeSendMotion config clock
  (moved.1, posed.2 ++ moved.2)

/-- `_on_amcl`. -/
def onAmcl (message : AmclPose) : Node × List Frame :=
  { node with amcl := some (message, clock.seconds) }.maybeSendPose config clock

/-- `_on_scan`. -/
def onScan (stampNs : Int) : Node × List Frame :=
  if ready config.scanInterval node.scanLast clock.mono then
    ({ node with scanLast := clock.mono },
      if node.onActiveMap stampNs then [.lidar stampNs node.mapContext] else [])
  else (node, [])

/-- `_on_plan`. -/
def onPlan (stampNs : Int) (points : Points) : Node × List Frame :=
  if config.commands then (node, [])
  else if ready config.pathInterval node.pathLast clock.mono then
    let node := { node with pathLast := clock.mono }
    if node.onActiveMap stampNs && decide (node.lastPathPoints ≠ some points) then
      ({ node with lastPathPoints := some points }, [.path points node.mapContext])
    else (node, [])
  else (node, [])

/-- `_raw_odom_age`. -/
def rawOdomAge : Option ℚ :=
  node.odom.bind fun (message, odomMono) =>
    let receiptAge := clock.mono - odomMono
    let stampAge := ((clock.ros - message.stampNs : Int) : ℚ) / 1000000000
    if (message.linear :: message.angular :: message.pose).all PyFloat.isFinite ∧
        0 ≤ receiptAge ∧ 0 ≤ stampAge then some (max receiptAge stampAge)
    else none

/-- `_maybe_seed_dock_pose`. -/
def maybeSeedDockPose (state : BaseState) : Node × List Frame :=
  if config.commands = false ∨ config.autoDockPoseOnCharge = false then (node, [])
  else if chargingStates.contains state.chargeState = false then (node, [])
  else if node.localizationIsUsable config clock then (node, [])
  else if clock.seconds - node.lastDockPoseAttempt < config.autoDockPoseRetryS then (node, [])
  else ({ node with lastDockPoseAttempt := clock.seconds }, [.seedDock])

/-- `_on_base_state`. -/
def onBaseState (report : BaseReport) : Node × List Frame :=
  let node := if node.origin = some report.origin then node
    else { node with origin := some report.origin, odom := none }
  let age := node.rawOdomAge clock
  let before := node.mapContext
  let node := if before = (report.payload.mapId, report.payload.mapRevision) then node
    else { node with amcl := none, lastPathPoints := none }
  let settled := node.chargeState.update report.payload.chargeState clock.mono
  let state := { report.payload with
    chargeState := settled.2.getD report.payload.chargeState }
  let node := { node with
    chargeState := settled.1
    base := some ⟨state, clock.seconds, clock.mono⟩ }
  let seeded := node.maybeSeedDockPose config clock state
  (seeded.1, .baseState state age :: seeded.2)

def handle : Callback → Node × List Frame
  | .odom message => node.onOdom config clock message
  | .amcl message => node.onAmcl config clock message
  | .scan stampNs => node.onScan config clock stampNs
  | .plan stampNs points => node.onPlan config clock stampNs points
  | .baseState report => node.onBaseState config clock report

end Node

/-- The node, as its callbacks come. -/
def bridge (config : Config) : Machine Node (Clock × Callback) Frame where
  step node event := node.handle config event.1 event.2

/-- `__init__`. -/
def start (config : Config) : Node where
  chargeState := Debounce.init config.chargeSettleS

def after (config : Config) (events : List (Clock × Callback)) : Node :=
  (bridge config).run (start config) events

end PatrolBot.BridgeNode
