import PatrolBot.Diagnostics
import PatrolBot.ServerGates

/-!
# Status and health

`telemetry/status.py`: the status line and the health card, as functions of the slices of
a robot and of their ages.  The gates of `commands/gates.py` read the same base state with
an idea of their own of a robot on its dock.
-/

namespace PatrolBot.Server

open Diagnostics (DiagnosticItem DiagLevel)

/-! ### What is known of a robot -/

inductive ConnectionState where
  | online
  | stale
  | offline
deriving DecidableEq

def ConnectionState.text : ConnectionState → String
  | online => "online"
  | stale => "stale"
  | offline => "offline"

/-- The fields of a `BatteryData` that count for the health. -/
structure BatteryData where
  percentage : Option ℚ
  charging : Bool

structure ResourcesData where
  diskPercent : PyFloat
  cpuTempC : Option PyFloat

/-- The slices of a robot and their ages, as `recompute` hands them over. -/
structure RobotSlices where
  connection : ConnectionState
  base : Option BaseStateData
  battery : Option BatteryData := none
  diagnostics : Option (List DiagnosticItem) := none
  pose : Option PoseData := none
  -- whether there is a path, and with a goal
  pathGoal : Bool := false
  resources : Option ResourcesData := none
  recording : Bool := false
  stalled : Bool := false
  baseStateAge : Option PyFloat := none
  batteryAge : Option PyFloat := none
  diagnosticsAge : Option PyFloat := none
  poseAge : Option PyFloat := none
  resourcesAge : Option PyFloat := none
  lidarAge : Option PyFloat := none
  batteryLowPercent : PyFloat := .finite 20
  batteryCriticalPercent : PyFloat := .finite 10

inductive RobotStatus where
  | ready
  | navigating
  | recording
  | docked
  | charging
  | paused
  | stuck
  | needsAttention
  | offline
deriving DecidableEq

structure RobotStatusData where
  status : RobotStatus
  detail : String
deriving DecidableEq

/-- `MAX_BASE_STATE_AGE_S`. -/
def maxBaseStateAge : ℚ := 15

/-- `MAX_BATTERY_AGE_S`. -/
def maxBatteryAge : ℚ := 30

/-- `MAX_POSE_AGE_S`. -/
def maxPoseAge : ℚ := 15

/-- `MAX_RESOURCES_AGE_S`. -/
def maxResourcesAge : ℚ := 60

/-- `MAX_ROBOT_TELEMETRY_AGE_S`. -/
def maxRobotTelemetryAge : ℚ := 15

/-- `CHARGING_STATES` of the status, a shorter list than that of the gates. -/
def statusChargingStates : List String := ["charging", "bulk", "overcharge", "float"]

/-- `DOCKED_STATES`. -/
def dockedStates : List String := ["docked", "float", "charging", "bulk", "overcharge"]

/-- `STATUS_DETAILS`. -/
def RobotStatus.details : RobotStatus → String
  | offline => "The robot is not connected to the dashboard."
  | needsAttention => "The robot needs attention before it can continue."
  | charging => "The robot is docked and charging."
  | docked => "The robot is on its charging dock."
  | paused => "The robot's motors are switched off."
  | stuck => "The robot stopped on its way to the destination and may be stuck."
  | navigating => "The robot is driving to its destination."
  | recording => "The robot is recording a route."
  | ready => "The robot is ready for a new task."

/-- A status with the detail of its kind. -/
def RobotStatus.told (status : RobotStatus) : RobotStatusData := ⟨status, status.details⟩

/-- `stale_age`. -/
def staleAge (age : Option PyFloat) (limit : ℚ) : Bool :=
  match age with
  | none => true
  | some age => !age.isFinite || !(PyFloat.le (.finite 0) age && age.le (.finite limit))

/-! ### The status -/

namespace BaseStateData

variable (base : BaseStateData)

/-- `on_dock` of the status: an observer that says anything of its validity decides. -/
def statusOnDock : Bool :=
  match base.dockStateValid with
  | some valid => valid && upper (strip (base.dockState.getD "")) == "DOCKED_CONFIRMED"
  | none => dockedStates.contains (lower base.chargeState)

def hazard : Bool :=
  base.estopPressed || base.faultFlags != 0 || !base.hardwareStateValid || !base.linkConnected ||
    PyFloat.lt (.finite maxRobotTelemetryAge) base.telemetryAge

def hazardDetail : String :=
  if base.estopPressed then
    "The emergency stop is pressed. Release the red button on the robot to continue."
  else if !base.hardwareStateValid || !base.linkConnected then
    "The robot's motor controller stopped sending data."
  else if base.faultFlags ≠ 0 then "The robot reported a hardware fault."
  else "The robot's readings from its motor controller are out of date."

/-- The robot has yet to find its location. -/
def recovering : Bool :=
  !base.odomEpochValid || base.localizationRecoveryRequired ||
    decide (base.localizationSeedStampNs ≤ 0)

end BaseStateData

/-- `detail[0].lower() + detail[1:]`. -/
def lowerFirst (detail : String) : String :=
  match detail.toList with
  | [] => ""
  | c :: rest => String.ofList (c.toLower :: rest)

def undocking : RobotStatusData :=
  ⟨.navigating, "The robot is moving clear of its charging dock."⟩

def unreported : RobotStatusData :=
  ⟨.needsAttention, "The robot's onboard computer is connected, but the robot has stopped " ++
    "reporting its own state."⟩

namespace RobotSlices

variable (t : RobotSlices)

def baseStale : Bool := t.base.isNone || staleAge t.baseStateAge maxBaseStateAge

/-- The first current diagnostic with an error. -/
def currentError : Option DiagnosticItem :=
  match t.diagnostics with
  | none => none
  | some items =>
    if staleAge t.diagnosticsAge Diagnostics.maxDiagnosticsAgeS then none
    else items.find? fun item => item.level = .error

/-- A path with a goal, and a current pose that moves. -/
def underWay : Bool :=
  t.pathGoal && t.pose.any fun pose =>
    !staleAge t.poseAge maxPoseAge && decide (2 / 100 < |pose.linearVelocity|)

/-- The branches after the hazards, the stale base state and the errors. -/
def quietStatus (base : BaseStateData) : RobotStatusData :=
  if base.undockActive then undocking
  else if base.statusOnDock && statusChargingStates.contains (lower base.chargeState) then
    RobotStatus.charging.told
  else if base.statusOnDock then RobotStatus.docked.told
  else if base.recovering then
    ⟨.needsAttention, "The robot is recovering its location. Wait for localization to recover " ++
      "before sending a destination."⟩
  else if !base.motorsEnabled then RobotStatus.paused.told
  else if t.stalled then RobotStatus.stuck.told
  else if t.recording then RobotStatus.recording.told
  else if t.underWay then RobotStatus.navigating.told
  else RobotStatus.ready.told

/-- `derive_status`. -/
def deriveStatus : RobotStatusData :=
  if t.connection = .offline then RobotStatus.offline.told
  else match t.base with
    | none => unreported
    | some base =>
      if base.hazard then
        ⟨.needsAttention,
          if t.baseStale then
            "The robot has stopped reporting. When it last reported: " ++
              lowerFirst base.hazardDetail
          else base.hazardDetail⟩
      else if t.baseStale then unreported
      else match t.currentError with
        | some worst => ⟨.needsAttention, "A system reported a problem: " ++ worst.message⟩
        | none => t.quietStatus base

end RobotSlices

/-! ### The health -/

inductive HealthLevel where
  | healthy
  | warning
  | fault
  | offline
deriving DecidableEq

/-- `_level_rank`. -/
def HealthLevel.rank : HealthLevel → Nat
  | healthy => 0
  | warning => 1
  | fault => 2
  | offline => 3

structure Subsystem where
  id : String
  label : String
  level : HealthLevel
  message : String
  action : Option String := none

structure SystemHealthData where
  overall : HealthLevel
  subsystems : List Subsystem

def SystemHealthData.subsystem (health : SystemHealthData) (id : String) : Option Subsystem :=
  health.subsystems.find? fun sub => sub.id == id

namespace RobotSlices

variable (shown : PyFloat → String) (t : RobotSlices)

def connectionHealth : Subsystem :=
  let add := Subsystem.mk "connection" "Robot computer link"
  match t.connection with
  | .online => add .healthy "The dashboard is connected to the robot's onboard computer." none
  | .stale => add .warning "Data from the robot's onboard computer is arriving slowly."
      (some "Check the robot's Wi-Fi if this continues.")
  | .offline => add .offline "The dashboard is not connected to the robot."
      (some "Check that the robot is powered on and connected to the network.")

def driveBaseHealth : Subsystem :=
  let add := Subsystem.mk "drive_base" "Drive base"
  match t.base with
  | none => add .offline "No data from the robot's motor controller." none
  | some base =>
    if t.connection = .offline then
      add .offline "No data from the robot's motor controller." none
    else if staleAge t.baseStateAge maxBaseStateAge then
      let hazard := base.estopPressed || base.faultFlags != 0 || !base.linkConnected ||
        !base.hardwareStateValid
      add (if hazard then .fault else .offline)
        (if hazard then
          "The robot last reported a problem with its motor controller and has since " ++
            "stopped reporting."
        else "The robot has stopped reporting its motor controller.")
        (some <| "The dashboard cannot tell whether the robot is moving. " ++
          "Check the robot before approaching it.")
    else if !base.linkConnected || !base.hardwareStateValid then
      add .fault "The robot's motor controller stopped responding."
        (some <| "The dashboard cannot tell whether the robot is moving. " ++
          "Contact technical support if this persists.")
    else if PyFloat.lt (.finite maxRobotTelemetryAge) base.telemetryAge then
      add .fault "The robot's own readings from its motor controller are out of date."
        (some <| "The dashboard cannot tell whether the robot is moving. " ++
          "Check the robot before approaching it.")
    else if base.estopPressed then
      add .fault "The emergency stop is pressed."
        (some "Release the red emergency-stop button on the robot.")
    else if base.faultFlags ≠ 0 then add .fault "The robot reported a hardware fault." none
    else if base.bumpersValid = some false then
      add .warning "The robot cannot read its bumpers."
        (some <| "It cannot tell whether anything is touching it. Check around the " ++
          "robot before moving it.")
    else if !base.motorsEnabled then add .warning "The robot's motors are switched off." none
    else add .healthy "Motor controller responding normally." none

/-- `shown` writes a number without decimals. -/
def batteryHealth : Subsystem :=
  let add := Subsystem.mk "battery" "Battery"
  match t.battery with
  | none => add .offline "No battery data." none
  | some battery =>
    if t.connection = .offline then add .offline "No battery data." none
    else if staleAge t.batteryAge maxBatteryAge then
      add .offline "The robot has stopped reporting its battery."
        (some "The last reading is too old to rely on.")
    else if battery.charging then add .healthy "The battery is charging." none
    else match battery.percentage with
      | none => add .warning "The robot is not reporting a battery level."
          (some "Check the robot's battery before sending it on a long task.")
      | some percentage =>
        let text := shown (.finite percentage)
        if PyFloat.le (.finite percentage) t.batteryCriticalPercent then
          add .fault ("Battery is critically low (" ++ text ++ "%).")
            (some "Return the robot to its charging dock now.")
        else if PyFloat.le (.finite percentage) t.batteryLowPercent then
          add .warning ("Battery is getting low (" ++ text ++ "%).")
            (some "Plan to return the robot to its charging dock soon.")
        else add .healthy ("Battery level is OK (" ++ text ++ "%).") none

def sensorsHealth : Subsystem :=
  let add := Subsystem.mk "sensors" "Laser sensor"
  match t.lidarAge with
  | none => add .offline "No laser data received." none
  | some age =>
    if t.connection = .offline then add .offline "No laser data received." none
    else if PyFloat.lt (.finite 5) age then
      add .warning "The laser sensor stopped updating."
        (some "Obstacle detection may be degraded.")
    else add .healthy "Laser sensor updating normally." none

def localizationHealth : Subsystem :=
  let add := Subsystem.mk "localization" "Robot location"
  match t.pose with
  | none => add .offline "The robot's position is unknown." none
  | some pose =>
    if t.connection = .offline then add .offline "The robot's position is unknown." none
    else if staleAge t.poseAge maxPoseAge then
      add .offline "The robot has stopped reporting its position."
        (some "Its last known position is too old to rely on.")
    else if t.baseStale then
      add .warning "The robot's localization readiness is not current."
        (some "Wait for fresh robot updates before sending a destination.")
    else if t.base.any BaseStateData.recovering then
      add .warning "The robot is recovering its location."
        (some "Wait for localization to recover before sending a destination.")
    else if !pose.localized then
      add .warning "The robot is not confident about its current location."
        (some "Use “Set Robot Location” before sending a new destination.")
    else add .healthy "The robot knows where it is." none

def systemsHealth : Subsystem :=
  let add := Subsystem.mk "systems" "Robot systems"
  match t.diagnostics with
  | none => add .offline "No current reports from the robot's systems." none
  | some items =>
    if staleAge t.diagnosticsAge Diagnostics.maxDiagnosticsAgeS then
      add .offline "No current reports from the robot's systems." none
    else
      let errors := items.filter fun item => item.level = .error
      let warns := items.filter fun item => item.level = .warn ∨ item.level = .stale
      match errors, warns, items with
      | error :: _, _, _ => add .fault (error.name ++ ": " ++ error.message) none
      | [], warn :: _, _ => add .warning (warn.name ++ ": " ++ warn.message) none
      | [], [], [] => add .offline "No current reports from the robot's systems." none
      | [], [], [_] => add .healthy "1 reporting system reports OK." none
      | [], [], items =>
        add .healthy (toString items.length ++ " reporting systems report OK.") none

def computerHealth : Subsystem :=
  let add := Subsystem.mk "computer" "Robot computer"
  match t.resources with
  | none => add .offline "No data from the robot's onboard computer." none
  | some resources =>
    if t.connection = .offline then
      add .offline "No data from the robot's onboard computer." none
    else if staleAge t.resourcesAge maxResourcesAge then
      add .offline "The robot's onboard computer has stopped reporting itself." none
    else
      let hot := resources.cpuTempC.filter fun temperature =>
        PyFloat.le (.finite 80) temperature
      match hot with
      | some temperature =>
        add .warning ("The onboard computer is hot (" ++ shown temperature ++ " °C).") none
      | none =>
        if PyFloat.le (.finite 90) resources.diskPercent then
          add .warning "The onboard computer is running out of storage." none
        else add .healthy
          (if resources.cpuTempC.isSome then
            "Onboard computer temperature and storage are OK."
          else "Onboard computer storage is OK; it reports no temperature.") none

/-- `derive_health`. -/
def deriveHealth : SystemHealthData :=
  let subsystems := [t.connectionHealth, t.driveBaseHealth, t.batteryHealth shown,
    t.sensorsHealth, t.localizationHealth, t.systemsHealth, t.computerHealth shown]
  if t.connection = .offline then ⟨.offline, subsystems⟩
  else
    let overall := subsystems.foldl (fun overall sub =>
      let level := if sub.level = .offline then .warning else sub.level
      if overall.rank < level.rank then level else overall) HealthLevel.healthy
    ⟨overall, subsystems⟩

/-! ### The drive base -/

variable {t : RobotSlices} {base : BaseStateData}

theorem status_of_hazard (hconnection : t.connection ≠ .offline) (hbase : t.base = some base)
    (h : base.hazard = true) : t.deriveStatus.status = .needsAttention := by
  rw [deriveStatus, if_neg hconnection, hbase]
  simp only [h, if_true]

theorem status_of_stale (hconnection : t.connection ≠ .offline)
    (h : t.baseStale = true) : t.deriveStatus.status = .needsAttention := by
  rw [deriveStatus, if_neg hconnection]
  cases hbase : t.base with
  | none => rfl
  | some base =>
    cases hhazard : base.hazard with
    | true => simp only [hhazard, if_true]
    | false => simp only [hhazard, h, Bool.false_eq_true, if_false, if_true, unreported]

/-- What the health card says of the drive base without hazards. -/
theorem driveBaseHealth_quiet (hconnection : t.connection ≠ .offline)
    (hbase : t.base = some base) (hstale : t.baseStale = false) (h : base.hazard = false) :
    t.driveBaseHealth.level = .warning ∨ t.driveBaseHealth.level = .healthy := by
  have hage : staleAge t.baseStateAge maxBaseStateAge = false := by
    rw [baseStale, hbase] at hstale
    exact hstale
  simp only [BaseStateData.hazard, Bool.or_eq_false_iff, bne_eq_false_iff_eq] at h
  obtain ⟨⟨⟨⟨hestop, hfault⟩, hhardware⟩, hlink⟩, hold⟩ := h
  rw [driveBaseHealth, hbase]
  simp only [hage, hestop, hfault, hhardware, hlink, hold, if_neg hconnection, Bool.or_self,
    Bool.false_eq_true, if_false, ne_eq, not_true_eq_false]
  split
  · exact Or.inl rfl
  · split
    · exact Or.inl rfl
    · exact Or.inr rfl

theorem needsAttention_of_driveBase (hconnection : t.connection ≠ .offline)
    (h : t.driveBaseHealth.level = .fault ∨ t.driveBaseHealth.level = .offline) :
    t.deriveStatus.status = .needsAttention := by
  cases hstale : t.baseStale with
  | true => exact status_of_stale hconnection hstale
  | false =>
    cases hbase : t.base with
    | none =>
      rw [baseStale, hbase] at hstale
      cases hstale
    | some base =>
      cases hhazard : base.hazard with
      | true => exact status_of_hazard hconnection hbase hhazard
      | false =>
        rcases driveBaseHealth_quiet hconnection hbase hstale hhazard with hlevel | hlevel
        · rw [hlevel] at h
          rcases h with h | h <;> cases h
        · rw [hlevel] at h
          rcases h with h | h <;> cases h

theorem id_connectionHealth (t : RobotSlices) : t.connectionHealth.id = "connection" := by
  unfold connectionHealth
  split <;> rfl

theorem id_driveBaseHealth (t : RobotSlices) : t.driveBaseHealth.id = "drive_base" := by
  unfold driveBaseHealth
  split
  · rfl
  · repeat' split
    all_goals rfl

theorem subsystem_driveBase (shown : PyFloat → String) (t : RobotSlices) :
    (t.deriveHealth shown).subsystem "drive_base" = some t.driveBaseHealth := by
  have hsubsystems : ∃ rest, (t.deriveHealth shown).subsystems =
      t.connectionHealth :: t.driveBaseHealth :: rest := by
    unfold deriveHealth
    split
    · exact ⟨_, rfl⟩
    · exact ⟨_, rfl⟩
  obtain ⟨rest, hrest⟩ := hsubsystems
  rw [SystemHealthData.subsystem, hrest, List.find?_cons, id_connectionHealth, List.find?_cons,
    id_driveBaseHealth]
  rfl

/-! ### The dock -/

/-- A fresh base state without hazards, and no current diagnostic with an error. -/
structure Quiet (t : RobotSlices) (base : BaseStateData) : Prop where
  reported : t.base = some base
  fresh : staleAge t.baseStateAge maxBaseStateAge = false
  safe : base.hazard = false
  noError : t.currentError = none

theorem Quiet.deriveStatus (h : Quiet t base) (hconnection : t.connection ≠ .offline) :
    t.deriveStatus = t.quietStatus base := by
  have hstale : t.baseStale = false := by
    rw [baseStale, h.reported]
    exact h.fresh
  rw [RobotSlices.deriveStatus, if_neg hconnection, h.reported]
  simp only [h.safe, hstale, h.noError, Bool.false_eq_true, if_false]

end RobotSlices

/-- Charging, docked, or the status of an undock in progress. -/
def RobotStatusData.TellsDock (told : RobotStatusData) : Prop :=
  told.status = .charging ∨ told.status = .docked ∨ told = undocking

instance : DecidablePred RobotStatusData.TellsDock :=
  fun _ => inferInstanceAs (Decidable (_ ∨ _ ∨ _))

namespace RobotSlices

variable {t : RobotSlices} {base : BaseStateData}

theorem quietStatus_tellsDock_iff :
    (t.quietStatus base).TellsDock ↔ base.undockActive = true ∨ base.statusOnDock = true := by
  unfold quietStatus
  cases hundock : base.undockActive with
  | true => simp [RobotStatusData.TellsDock]
  | false =>
    cases hdock : base.statusOnDock with
    | true =>
      simp only [Bool.false_eq_true, if_false, Bool.true_and, if_true, or_true, iff_true]
      split
      · exact Or.inl rfl
      · exact Or.inr (Or.inl rfl)
    | false =>
      simp only [Bool.false_eq_true, if_false, Bool.false_and, or_self, iff_false]
      repeat' split
      all_goals decide

/-! ### The gate -/

variable (t : RobotSlices) (capabilities : List String) (navigating allowUnlocalized : Bool)

/-- What the gates read of the same slices. -/
def gateFacts : StateFacts :=
  factsFromState t.connection.text t.base t.pose capabilities navigating t.baseStateAge t.poseAge
    allowUnlocalized

variable {t capabilities navigating allowUnlocalized}

theorem onDock_gateFacts (hbase : t.base = some base) :
    (t.gateFacts capabilities navigating allowUnlocalized).onDock =
      if base.dockStateValid = some true then
        dockObserverDocked.contains (upper (strip (base.dockState.getD "")))
      else onDockStates.contains (lower (strip base.chargeState)) := by
  rw [gateFacts, hbase]
  cases t.pose <;> rfl

/-- Status, health and gate tell one story. -/
structure OneStory (t : RobotSlices) (shown : PyFloat → String) (capabilities : List String)
    (navigating allowUnlocalized : Bool) : Prop where
  driveBase : ∀ sub, (t.deriveHealth shown).subsystem "drive_base" = some sub →
    sub.level = .fault ∨ sub.level = .offline → t.deriveStatus.status = .needsAttention
  dock : ∀ base, Quiet t base →
    (t.gateFacts capabilities navigating allowUnlocalized).onDock = true →
    t.deriveStatus.TellsDock

/-- A robot that charges, with its motors on and a located pose, whose dock observer says
    whether it is valid. -/
def chargingBase (valid : Option Bool) : BaseStateData where
  lidarState := "READY"
  lidarPowerSupported := true
  lidarScanAge := .finite 0
  linkConnected := true
  telemetryAge := .finite 0
  hardwareStateValid := true
  chargeState := "charging"
  motorsEnabled := true
  estopPressed := false
  faultFlags := 0
  stallValue := 0
  bumpersFront := false
  bumpersRear := false
  bumpersValid := some true
  dockState := none
  dockStateValid := valid
  undockActive := false
  operationOutcomeUnknown := false
  undockProfileCommissioned := some true
  odomEpochValid := true
  localizationRecoveryRequired := false
  localizationRecoveryStage := ""
  localizationSeedStampNs := 1

def chargingSlices (valid : Option Bool) : RobotSlices where
  connection := .online
  base := some (chargingBase valid)
  baseStateAge := some (.finite 1)

end RobotSlices

end PatrolBot.Server
