import PatrolBot.Py

/-!
# The bridge's own command gates

`precheck` of `commands.py`: what the robot-side barrier asks of the latest
base state before a command may proceed.  It repeats the server's gates in the
same words, so that a frame which reaches the robot without having passed the
server is still held.
-/

namespace PatrolBot

/-- The `command` of a frame.  A value of an unhashable type (a list or an
    object) raises as soon as it is looked up in a set. -/
inductive Command where
  | navigateToPose
  | setInitialPose
  | stop
  | cancel
  | cancelMap
  | motorEnable
  | motorDisable
  | dockReset
  | setLidarPower
  | undock
  | chargeRelease
  | other (text : String)
  | unhashable
deriving DecidableEq

/-- The part of a normalized `base_state` payload the executor reads, with the
    map fields the node adds to it (`none` for a missing or empty value). -/
structure BaseState where
  linkConnected : Bool
  telemetryAge : PyFloat
  hardwareStateValid : Bool
  chargeState : String
  motorsEnabled : Bool
  estopPressed : Bool
  faultFlags : Int
  bumpersValid : Option Bool
  bumpersRear : Bool
  dockState : String
  dockStateValid : Bool
  undockActive : Bool
  undockProfileCommissioned : Bool
  operationOutcomeUnknown : Bool
  odomEpochValid : Bool
  localizationRecoveryRequired : Bool
  localizationRecoveryStage : String
  localizationSeedStampNs : Int
  lidarState : String
  lidarScanAge : PyFloat
  lidarPowerSupported : Bool
  sessionGeneration : Int
  mapId : Option String
  mapRevision : Option String
  mapActivatedStampNs : Int

/-- `CHARGING_STATES`. -/
def chargingStates : List String := ["charging", "charge", "bulk", "float", "overcharge"]

/-- `ON_DOCK_STATES`. -/
def onDockStates : List String := chargingStates ++ ["docked", "dock", "on_dock"]

/-- `_on_dock`: a usable dock observer is authoritative in both directions. -/
def onDock (base : BaseState) : Bool :=
  if base.dockStateValid then upper (strip base.dockState) == "DOCKED_CONFIRMED"
  else onDockStates.contains (lower (strip base.chargeState))

/-- The LiDAR part of `precheck`: the scans and the hardware readings have to be
    at most half a second old, the time since receipt included. -/
def lidarReady (base : Option BaseState) (baseStateAge : Option PyFloat) : Bool :=
  match base with
  | none => false
  | some base =>
    let receipt := baseStateAge.getD (.finite (-1))
    let fresh (age : PyFloat) : Bool :=
      age.isFinite && PyFloat.le (.finite 0) age && PyFloat.le (age.add receipt) (.finite (1 / 2))
    base.linkConnected && base.hardwareStateValid && fresh base.telemetryAge &&
      base.lidarState == "READY" && fresh base.lidarScanAge &&
      receipt.isFinite && PyFloat.le (.finite 0) receipt

/-- The refusal of a fault, with its code. -/
def faultReason (flags : Int) : String :=
  s!"The drive base is reporting a fault (code {flags}). Clear it on the robot first."

/-- The undock part of `precheck`. -/
def undockReason (base : BaseState) : Option String :=
  if base.faultFlags ≠ 0 then some (faultReason base.faultFlags)
  else if base.dockStateValid = false then
    some ("The robot's dock observer is not reporting valid data. Check the robot before " ++
      "trying to undock.")
  else if base.undockProfileCommissioned = false then
    some "The robot's guarded undock profile has not been commissioned."
  else if base.undockActive then some "The robot is already undocking."
  else if (base.dockStateValid ∧ upper (strip base.dockState) ∈ ["CLEAR_CONFIRMED", "DEPARTING"]) ∨
      lower (strip base.chargeState) ∉ chargingStates then
    some "The robot is not charging, so it cannot start undocking."
  else if base.estopPressed then
    some "The emergency stop is pressed. Release it on the robot first."
  else if base.bumpersValid ≠ some true then
    some ("The robot cannot confirm its bumper readings, so it cannot tell whether anything is " ++
      "behind it. Check the robot before undocking.")
  else if base.bumpersRear then
    some ("The rear bumper is pressed — clear whatever is behind the robot before backing it " ++
      "off the dock.")
  else none

/-- `MAX_TELEMETRY_AGE_S`. -/
def maxTelemetryAge : ℚ := 2

/-- `MAX_RECEIPT_AGE_S`. -/
def maxReceiptAge : ℚ := 3

/-- `MAX_ODOM_AGE_S`. -/
def maxOdomAge : ℚ := 3

/-- An age that is missing or above its bound.  A NaN is not above anything. -/
def missingOrOver (age : Option PyFloat) (bound : ℚ) : Bool :=
  match age with
  | none => true
  | some age => PyFloat.lt (.finite bound) age

/-- The navigation part of `precheck`. -/
def navigateReason (base : Option BaseState) (localized : Bool) (baseStateAge : Option PyFloat)
    (override : Bool) (odomAge : Option PyFloat) : Option String :=
  match base with
  | none => some "The robot's drive base has not reported in yet — cannot navigate."
  | some base =>
    if base.linkConnected = false ∨
        (PyFloat.le (.finite 0) base.telemetryAge &&
          PyFloat.le base.telemetryAge (.finite maxTelemetryAge)) = false ∨
        missingOrOver baseStateAge maxReceiptAge then
      some ("The robot's hardware readings are stale — wait for fresh data before commanding " ++
        "the robot.")
    else if base.hardwareStateValid = false then
      some "The robot's drive base is not reporting valid data — cannot navigate."
    else if base.faultFlags ≠ 0 then some (faultReason base.faultFlags)
    else if base.estopPressed then
      some "The emergency stop is pressed. Release it on the robot first."
    else if onDock base then
      some "The robot is on its charger. Move it off the dock before sending it anywhere."
    else if base.motorsEnabled = false then
      some "The robot's motors are off. Enable them on the robot first."
    else if base.odomEpochValid = false then
      some ("The robot's odometry epoch is not valid — wait for its localization to recover " ++
        "before sending it anywhere.")
    else if base.localizationRecoveryRequired then
      let stage := strip base.localizationRecoveryStage
      let suffix := if stage = "" then "" else s!" ({stage})"
      some s!"The robot is recovering localization{suffix} — wait before sending it anywhere."
    else if base.localizationSeedStampNs ≤ 0 then
      some ("The robot has no valid localization seed barrier — wait for localization to " ++
        "recover before sending it anywhere.")
    else if override ∧ missingOrOver odomAge maxOdomAge then
      some ("The robot has stopped reporting its position — wait for fresh data before sending " ++
        "it anywhere.")
    else if localized = false ∧ override = false then
      some "The robot does not know where it is. Set its location first."
    else none

/-- `precheck`: the refusal sentence, or `none` when the command may proceed. -/
def precheck (command : Command) (goalPresent : Bool) (base : Option BaseState)
    (localized : Bool) (baseStateAge : Option PyFloat) (allowUnlocalized : Bool)
    (odomAge : Option PyFloat) (operatorAuthorized : Bool) : Option String :=
  if command ∈ [.navigateToPose, .setInitialPose] ∧ goalPresent = false then
    some "This command needs a destination."
  else if command ∈ [.navigateToPose, .setInitialPose, .undock, .chargeRelease] ∧
      lidarReady base baseStateAge = false then
    some "LiDAR is off, starting, stale or unavailable — wait for fresh scans."
  else match command, base with
  | .undock, some base => undockReason base
  | .navigateToPose, base =>
    navigateReason base localized baseStateAge (allowUnlocalized && operatorAuthorized) odomAge
  | _, _ => none

end PatrolBot
