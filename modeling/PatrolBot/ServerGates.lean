import PatrolBot.ServerState
import PatrolBot.Precheck

/-!
# The server's command gates

`commands/gates.py`: the authorization behind every control of the dashboard, as
functions of a snapshot of robot state.  Each gate is an ordered chain of refusals
in plain language.
-/

namespace PatrolBot.Server

/-! ### Chains of refusals -/

theorem refusal_eq_none {c : Prop} [Decidable c] {reason : String} {rest : Option String} :
    (if c then some reason else rest) = none ↔ ¬c ∧ rest = none := by
  split
  · rename_i h
    simp [h]
  · rename_i h
    simp [h]

/-! ### Facts -/

/-- The fields of a parsed `BaseStateData` the gates read. -/
structure BaseStateData where
  lidarState : String
  lidarPowerSupported : Bool
  lidarScanAge : PyFloat
  linkConnected : Bool
  telemetryAge : PyFloat
  hardwareStateValid : Bool
  chargeState : String
  motorsEnabled : Bool
  estopPressed : Bool
  faultFlags : Int
  stallValue : Int
  bumpersFront : Bool
  bumpersRear : Bool
  bumpersValid : Option Bool
  dockState : Option String
  dockStateValid : Option Bool
  undockActive : Bool
  operationOutcomeUnknown : Bool
  undockProfileCommissioned : Option Bool
  odomEpochValid : Bool
  localizationRecoveryRequired : Bool
  localizationRecoveryStage : String
  localizationSeedStampNs : Int

/-- What the server reads of a payload it accepts, with the two fields of it the
    executor has no use for. -/
def BaseStateData.ofPayload (payload : BaseState) (stallValue : Int) (bumpersFront : Bool) :
    BaseStateData where
  lidarState := payload.lidarState
  lidarPowerSupported := payload.lidarPowerSupported
  lidarScanAge := payload.lidarScanAge
  linkConnected := payload.linkConnected
  telemetryAge := payload.telemetryAge
  hardwareStateValid := payload.hardwareStateValid
  chargeState := payload.chargeState
  motorsEnabled := payload.motorsEnabled
  estopPressed := payload.estopPressed
  faultFlags := payload.faultFlags
  stallValue := stallValue
  bumpersFront := bumpersFront
  bumpersRear := payload.bumpersRear
  bumpersValid := payload.bumpersValid
  dockState := some payload.dockState
  dockStateValid := some payload.dockStateValid
  undockActive := payload.undockActive
  operationOutcomeUnknown := payload.operationOutcomeUnknown
  undockProfileCommissioned := some payload.undockProfileCommissioned
  odomEpochValid := payload.odomEpochValid
  localizationRecoveryRequired := payload.localizationRecoveryRequired
  localizationRecoveryStage := payload.localizationRecoveryStage
  localizationSeedStampNs := payload.localizationSeedStampNs

/-- The fields of a `PoseData` the gates read. -/
structure PoseData where
  localized : Bool
  linearVelocity : ℚ
  angularVelocity : ℚ

/-- `StateFacts`. -/
structure StateFacts where
  lidarState : String := "UNKNOWN"
  lidarPowerSupported : Bool := false
  lidarScanAge : PyFloat := .finite (-1)
  online : Bool := false
  linkConnected : Bool := false
  telemetryAge : PyFloat := .finite 999
  baseStateAge : Option PyFloat := none
  poseAge : Option PyFloat := none
  hardwareStateValid : Bool := false
  chargeState : String := "unknown"
  motorsEnabled : Bool := false
  estopPressed : Bool := false
  faultFlags : Int := 0
  stallValue : Int := 0
  bumpersFront : Bool := false
  bumpersRear : Bool := false
  bumpersValid : Option Bool := none
  dockState : Option String := none
  dockStateValid : Option Bool := none
  undockActive : Bool := false
  operationOutcomeUnknown : Bool := false
  undockProfileCommissioned : Option Bool := none
  localized : Bool := false
  allowUnlocalized : Bool := false
  stationary : Bool := false
  capabilities : List String := []
  navigating : Bool := false
  odomEpochValid : Bool := false
  localizationRecoveryRequired : Bool := true
  localizationRecoveryStage : String := ""
  localizationSeedStampNs : Int := 0

/-- `STATIONARY_LINEAR_MS`. -/
def stationaryLinear : ℚ := 2 / 100

/-- `STATIONARY_ANGULAR_RPS`. -/
def stationaryAngular : ℚ := 5 / 100

/-- `DOCK_OBSERVER_DOCKED`. -/
def dockObserverDocked : List String := ["DOCKED_CONFIRMED"]

/-- An age that is there and at most the bound. -/
def within (age : Option PyFloat) (bound : ℚ) : Bool := age.any fun age => age.le (.finite bound)

namespace StateFacts

variable (facts : StateFacts)

/-- `(self.dock_state or "").strip().upper()`. -/
def observed : String := upper (strip (facts.dockState.getD ""))

/-- `charging`: a proven departure outweighs the charge that is left. -/
def charging : Bool :=
  if facts.dockStateValid = some true ∧ facts.observed ∈ ["CLEAR_CONFIRMED", "DEPARTING"] then false
  else chargingStates.contains (lower (strip facts.chargeState))

/-- `on_dock`: a usable observer supersedes the charge state. -/
def onDock : Bool :=
  if facts.dockStateValid = some true then dockObserverDocked.contains facts.observed
  else onDockStates.contains (lower (strip facts.chargeState))

/-- `telemetry_fresh`. -/
def telemetryFresh : Bool :=
  facts.linkConnected && facts.telemetryAge.le (.finite maxTelemetryAge)

/-- `base_state_fresh`. -/
def baseStateFresh : Bool := within facts.baseStateAge maxReceiptAge

/-- `pose_fresh`. -/
def poseFresh : Bool := within facts.poseAge maxReceiptAge

end StateFacts

/-- `facts_from_state`: what is missing stays at its default, which refuses. -/
def factsFromState (connection : String) (base : Option BaseStateData) (pose : Option PoseData)
    (capabilities : List String) (navigating : Bool) (baseStateAge poseAge : Option PyFloat)
    (allowUnlocalized : Bool) : StateFacts :=
  let facts : StateFacts := {
    online := connection == "online", capabilities := capabilities, navigating := navigating,
    baseStateAge := baseStateAge, poseAge := poseAge, allowUnlocalized := allowUnlocalized }
  let facts := match base with
    | none => facts
    | some base => { facts with
        lidarState := base.lidarState
        lidarPowerSupported := base.lidarPowerSupported
        lidarScanAge := base.lidarScanAge
        linkConnected := base.linkConnected
        telemetryAge := base.telemetryAge
        hardwareStateValid := base.hardwareStateValid
        chargeState := base.chargeState
        motorsEnabled := base.motorsEnabled
        estopPressed := base.estopPressed
        faultFlags := base.faultFlags
        stallValue := base.stallValue
        bumpersFront := base.bumpersFront
        bumpersRear := base.bumpersRear
        bumpersValid := base.bumpersValid
        dockState := base.dockState
        dockStateValid := base.dockStateValid
        undockActive := base.undockActive
        operationOutcomeUnknown := base.operationOutcomeUnknown
        undockProfileCommissioned := base.undockProfileCommissioned
        odomEpochValid := base.odomEpochValid
        localizationRecoveryRequired := base.localizationRecoveryRequired
        localizationRecoveryStage := base.localizationRecoveryStage
        localizationSeedStampNs := base.localizationSeedStampNs }
  match pose with
  | none => facts
  | some pose => { facts with
      localized := pose.localized
      stationary := decide (|pose.linearVelocity| ≤ stationaryLinear) &&
        decide (|pose.angularVelocity| ≤ stationaryAngular) }

/-! ### Shared clauses -/

/-- `_hardware_reason`. -/
def hardwareReason (facts : StateFacts) : Option String :=
  if facts.online = false then some "The robot is not connected right now."
  else if facts.baseStateFresh = false ∨ facts.telemetryFresh = false then
    some ("The robot's hardware readings are stale — wait for fresh data before commanding " ++
      "the robot.")
  else if facts.hardwareStateValid = false then
    some "The robot's drive base is not reporting valid data."
  else if facts.faultFlags ≠ 0 then some (faultReason facts.faultFlags)
  else none

/-- `_stationary_reason`: a pose that is stale says nothing of a robot at rest. -/
def stationaryReason (facts : StateFacts) : Option String :=
  if facts.poseFresh = false then
    some ("The dashboard has not had a recent position update from the robot — wait for fresh " ++
      "data before moving it.")
  else if facts.stationary = false then
    some "The robot is still moving — wait until it has stopped."
  else none

/-- A reading that is no older than the bound with the time since its receipt. -/
def freshWith (age receipt : PyFloat) (bound : ℚ) : Bool :=
  age.isFinite && PyFloat.le (.finite 0) age && PyFloat.le (age.add receipt) (.finite bound)

/-- `lidar_reason`. -/
def lidarReason (facts : StateFacts) : Option String :=
  let ready := match facts.baseStateAge with
    | none => false
    | some receipt => facts.online && facts.linkConnected && facts.hardwareStateValid &&
        freshWith facts.telemetryAge receipt (1 / 2) && facts.lidarState == "READY" &&
        freshWith facts.lidarScanAge receipt (1 / 2) && receipt.isFinite &&
        PyFloat.le (.finite 0) receipt
  if ready then none
  else some "LiDAR is off, starting, stale or unavailable — wait for fresh scans."

/-- `lidar_power_reason`. -/
def lidarPowerReason (facts : StateFacts) : Option String :=
  match hardwareReason facts with
  | some reason => some reason
  | none =>
    if facts.lidarPowerSupported = false ∨ "set_lidar_power" ∉ facts.capabilities then
      some "LiDAR power control is not commissioned on this robot."
    else if facts.lidarState ∉ ["OFF", "READY", "FAULT"] then
      some "LiDAR power state is unknown or starting — wait for a fresh state."
    else if (facts.baseStateAge.any fun receipt => PyFloat.le (.finite 0) receipt &&
        receipt.le (.finite (1 / 2)) && freshWith facts.telemetryAge receipt (1 / 2)) = false then
      some "LiDAR power state is stale — wait for a fresh state."
    else if facts.navigating ∨ facts.undockActive then
      some ("A navigation, map or undock operation is active. Stop it before changing LiDAR " ++
        "power.")
    else none

/-! ### The gates -/

/-- `navigate_reason`. -/
def navigateReason (facts : StateFacts) : Option String :=
  match hardwareReason facts with
  | some reason => some reason
  | none =>
    if facts.estopPressed then
      some "The emergency stop is pressed. Release it on the robot first."
    else if facts.onDock then
      some "The robot is on its charger. Move it off the dock before sending it anywhere."
    else if facts.motorsEnabled = false then
      some "The robot's motors are off. Enable them on the robot first."
    else if facts.odomEpochValid = false ∨ facts.localizationRecoveryRequired ∨
        facts.localizationSeedStampNs ≤ 0 then
      some ("The robot is recovering its location — wait for recovery before sending it " ++
        "anywhere.")
    else if facts.poseFresh = false then
      some ("The dashboard has not had a recent position update from the robot — wait for " ++
        "fresh data before sending it anywhere.")
    else if facts.localized = false ∧ facts.allowUnlocalized = false then
      some "The robot does not know where it is. Set its location first."
    else none

/-- `charge_release_reason`. -/
def chargeReleaseReason (facts : StateFacts) : Option String :=
  match hardwareReason facts with
  | some reason => some reason
  | none =>
    if facts.charging = false then
      some "The robot is not on charge, so there is nothing to release."
    else stationaryReason facts

/-- A command that asks for a connection and its own capability only. -/
def capabilityReason (facts : StateFacts) (capability absent : String) : Option String :=
  if facts.online = false then some "The robot is not connected right now."
  else if capability ∉ facts.capabilities then some absent
  else none

/-- `motor_enable_reason`. -/
def motorEnableReason (facts : StateFacts) : Option String :=
  capabilityReason facts "motor_enable" "Motor enable is not available on this robot."

/-- `motor_disable_reason`. -/
def motorDisableReason (facts : StateFacts) : Option String :=
  capabilityReason facts "motor_disable"
    "Motor disable is not available on this robot. Update its bridge first."

/-- `software_reset_reason`. -/
def softwareResetReason (facts : StateFacts) : Option String :=
  capabilityReason facts "software_reset" "Software reset is not available on this robot."

/-- An age that is a finite number of seconds. -/
def isAge (age : Option PyFloat) : Bool :=
  age.any fun age => age.isFinite && PyFloat.le (.finite 0) age

/-- `dock_reset_reason`. -/
def dockResetReason (facts : StateFacts) : Option String :=
  if (isAge (some facts.telemetryAge) && isAge facts.baseStateAge && isAge facts.poseAge) = false
  then some "Wait for fresh, valid hardware and measured-motion readings before recovery."
  else match hardwareReason facts with
  | some reason => some reason
  | none =>
    if "dock_reset" ∉ facts.capabilities then
      some "This robot does not support explicit fault recovery. Update its bridge first."
    else if facts.estopPressed then
      some "Release the physical E-stop only when safe; it cannot be bypassed."
    else if facts.operationOutcomeUnknown then
      some "The operation outcome is unknown. Inspect the robot; this fault cannot be bypassed."
    else if (facts.stallValue % 2 ≠ 0) ∨ (facts.stallValue / 256 % 2 ≠ 0) then
      some "A wheel stall is active. Inspect the wheels before recovery."
    else if facts.lidarState = "FAULT" then
      some "Resolve the laser scanner fault before operation recovery."
    else if facts.undockActive ∨ facts.navigating then
      some "Stop the active operation and wait for its confirmed result before recovery."
    else if facts.dockStateValid ≠ some true ∨
        (facts.dockState.any fun state =>
          ["FAULT_STOPPED", "CLEAR_CONFIRMED", "DOCKED_CONFIRMED"].contains state) = false then
      some "Wait for a confirmed physical dock state before recovery."
    else stationaryReason facts

/-- `undock_reason`. -/
def undockReason (facts : StateFacts) : Option String :=
  match hardwareReason facts with
  | some reason => some reason
  | none =>
    if "undock" ∉ facts.capabilities then
      some "Undocking is not commissioned on this robot yet — back it off the dock by hand."
    else if facts.dockStateValid = some false then
      some ("The robot's dock observer is not reporting valid data. Check the robot before " ++
        "trying to undock.")
    else if facts.undockProfileCommissioned = some false then
      some "The robot's guarded undock profile has not been commissioned."
    else if facts.undockActive then some "The robot is already undocking."
    else if facts.onDock = false then some "The robot is not on its dock."
    else if facts.estopPressed then
      some "The emergency stop is pressed. Release it on the robot first."
    else if facts.bumpersValid ≠ some true then
      some ("The robot cannot confirm its bumper readings, so it cannot tell whether anything " ++
        "is behind it. Check the robot before undocking.")
    else if facts.bumpersRear then
      some ("The rear bumper is pressed — clear whatever is behind the robot before backing " ++
        "it off the dock.")
    else if facts.navigating then
      some ("The robot is still driving to a destination. Stop it before backing it off the " ++
        "dock.")
    else stationaryReason facts

/-- `GATES`. -/
def gateOf : Command → Option (StateFacts → Option String)
  | .setInitialPose => some lidarReason
  | .setLidarPower => some lidarPowerReason
  | .navigateToPose => some navigateReason
  | .chargeRelease => some chargeReleaseReason
  | .motorEnable => some motorEnableReason
  | .motorDisable => some motorDisableReason
  | .dockReset => some dockResetReason
  | .undock => some undockReason
  | .softwareReset => some softwareResetReason
  | .stop | .teleopStart | .teleopStop => none

/-- `command in {"navigate_to_pose", "set_initial_pose", "undock", "charge_release"}`. -/
def asksLidar : Command → Bool
  | .navigateToPose | .setInitialPose | .undock | .chargeRelease => true
  | _ => false

/-- `rejection_reason`. -/
def rejectionReason (command : Command) (facts : StateFacts) : Option String :=
  match if asksLidar command then lidarReason facts else none with
  | some reason => some reason
  | none => (gateOf command).bind fun gate => gate facts

end PatrolBot.Server
