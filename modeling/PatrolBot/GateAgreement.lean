import Mathlib.Tactic.Linarith
import PatrolBot.ServerGates

/-!
# Two gates of one command

The bridge repeats the server's gates, so that a frame which never passed the
server is still held.  For navigation the two chains admit the same base states.
For undocking they do not: the bridge asks whether the robot charges, the server
where its dock observer sees it.
-/

namespace PatrolBot.Server

/-! ### The shared LiDAR gate -/

section

variable {facts : StateFacts} {base : BaseState}

/-- The bridge and the server read the scans and the link alike. -/
theorem lidarReason_eq_none (honline : facts.online = true)
    (hlink : facts.linkConnected = base.linkConnected)
    (hvalid : facts.hardwareStateValid = base.hardwareStateValid)
    (htelemetry : facts.telemetryAge = base.telemetryAge)
    (hstate : facts.lidarState = base.lidarState) (hscan : facts.lidarScanAge = base.lidarScanAge) :
    lidarReason facts = none ↔ lidarReady (some base) facts.baseStateAge = true := by
  unfold lidarReason lidarReady freshWith
  rw [honline, hlink, hvalid, htelemetry, hstate, hscan]
  cases facts.baseStateAge with
  | none =>
    -- The bridge reads a payload it never received as minus one second old.
    simp only [Option.getD_none]
    have hnever : PyFloat.le (.finite 0) (.finite (-1)) = false := by decide +kernel
    simp [hnever]
  | some receipt => simp [and_assoc]

/-- What the LiDAR gate says of the ages behind it. -/
structure Recent (base : BaseState) (receipt : PyFloat) : Prop where
  link : base.linkConnected = true
  valid : base.hardwareStateValid = true
  telemetry : PyFloat.le (.finite 0) base.telemetryAge = true
  telemetryLe : base.telemetryAge.le (.finite maxTelemetryAge) = true
  receiptLe : receipt.le (.finite maxReceiptAge) = true

/-- Half a second between them leaves each age below its own bound. -/
theorem le_of_add_le {age receipt : PyFloat} {bound : ℚ} (hbound : 1 / 2 ≤ bound)
    (hreceipt : PyFloat.le (.finite 0) receipt = true)
    (hsum : (age.add receipt).le (.finite (1 / 2)) = true) (hage : age.isFinite = true)
    (hfinite : receipt.isFinite = true) : age.le (.finite bound) = true := by
  cases age with
  | finite x =>
    cases receipt with
    | finite y =>
      simp only [PyFloat.add, PyFloat.le, decide_eq_true_eq] at hreceipt hsum ⊢
      linarith
    | inf negative => cases hfinite
    | nan => cases hfinite
  | inf negative => cases hage
  | nan => cases hage

theorem add_comm_of_finite {age receipt : PyFloat} (hage : age.isFinite = true)
    (hfinite : receipt.isFinite = true) : age.add receipt = receipt.add age := by
  cases age with
  | finite x =>
    cases receipt with
    | finite y => simp only [PyFloat.add, add_comm]
    | inf negative => cases hfinite
    | nan => cases hfinite
  | inf negative => cases hage
  | nan => cases hage

theorem recent_of_lidarReady {baseStateAge : Option PyFloat}
    (h : lidarReady (some base) baseStateAge = true) :
    ∃ receipt, baseStateAge = some receipt ∧ Recent base receipt := by
  unfold lidarReady at h
  simp only [Bool.and_eq_true] at h
  obtain ⟨⟨⟨⟨⟨⟨hlink, hvalid⟩, ⟨hfinite, hpos⟩, hsum⟩, -⟩, -⟩, hreceiptFinite⟩, hreceipt⟩ := h
  cases baseStateAge with
  | none =>
    rw [Option.getD_none] at hreceipt
    exact absurd hreceipt (by decide +kernel)
  | some receipt =>
    rw [Option.getD_some] at hsum hreceiptFinite hreceipt
    refine ⟨receipt, rfl, hlink, hvalid, hpos, ?_, ?_⟩
    · exact le_of_add_le (by norm_num [maxTelemetryAge]) hreceipt hsum hfinite hreceiptFinite
    · rw [add_comm_of_finite hfinite hreceiptFinite] at hsum
      exact le_of_add_le (by norm_num [maxReceiptAge]) hpos hsum hreceiptFinite hfinite

end

/-! ### Navigation -/

/-- The facts the server has of a robot that is online. -/
def onlineFacts (base : BaseState) (stallValue : Int) (bumpersFront : Bool) (pose : PoseData)
    (capabilities : List String) (navigating : Bool) (baseStateAge poseAge : Option PyFloat)
    (allowUnlocalized : Bool) : StateFacts :=
  factsFromState "online" (some (BaseStateData.ofPayload base stallValue bumpersFront)) (some pose)
    capabilities navigating baseStateAge poseAge allowUnlocalized

section

variable {base : BaseState} {stallValue : Int} {bumpersFront : Bool} {pose : PoseData}
variable {capabilities : List String} {navigating allowUnlocalized : Bool}
variable {baseStateAge poseAge : Option PyFloat}

theorem lidarReason_onlineFacts :
    lidarReason (onlineFacts base stallValue bumpersFront pose capabilities navigating baseStateAge
      poseAge allowUnlocalized) = none ↔ lidarReady (some base) baseStateAge = true :=
  lidarReason_eq_none rfl rfl rfl rfl rfl rfl

/-- The dock, seen from both sides. -/
theorem onDock_onlineFacts :
    (onlineFacts base stallValue bumpersFront pose capabilities navigating baseStateAge poseAge
      allowUnlocalized).onDock = onDock base := by
  unfold StateFacts.onDock StateFacts.observed PatrolBot.onDock dockObserverDocked
  simp only [onlineFacts, factsFromState, BaseStateData.ofPayload, Option.some.injEq,
    Option.getD_some]
  split
  · rw [List.contains_cons, List.contains_nil, Bool.or_false]
  · rfl

/-- With ages the LiDAR gate has let through only a fault is left to refuse. -/
theorem hardwareReason_onlineFacts {receipt : PyFloat} (h : Recent base receipt) :
    hardwareReason (onlineFacts base stallValue bumpersFront pose capabilities navigating
      (some receipt) poseAge allowUnlocalized) =
        if base.faultFlags ≠ 0 then some (faultReason base.faultFlags) else none := by
  have hbase : within (some receipt) maxReceiptAge = true := h.receiptLe
  simp only [hardwareReason, StateFacts.baseStateFresh, StateFacts.telemetryFresh, onlineFacts,
    factsFromState, BaseStateData.ofPayload, hbase, h.link, h.valid, h.telemetryLe]
  simp

/-- Behind the LiDAR gate the bridge's chain for a destination, as one condition. -/
theorem navigateReason_eq_none_bridge {receipt : PyFloat} {odomAge : Option PyFloat}
    {localized override : Bool} (h : Recent base receipt)
    (hodom : missingOrOver odomAge maxOdomAge = false) :
    PatrolBot.navigateReason (some base) localized (some receipt) override odomAge = none ↔
      base.faultFlags = 0 ∧ base.estopPressed = false ∧ onDock base = false ∧
        base.motorsEnabled = true ∧ base.odomEpochValid = true ∧
        base.localizationRecoveryRequired = false ∧ 0 < base.localizationSeedStampNs ∧
        (localized = true ∨ override = true) := by
  have hreceipt : missingOrOver (some receipt) maxReceiptAge = false := by
    simp only [missingOrOver, PyFloat.lt, h.receiptLe, Bool.not_true, Bool.and_false]
  unfold PatrolBot.navigateReason
  simp only [refusal_eq_none, h.link, h.telemetry, h.telemetryLe, h.valid, hreceipt, hodom]
  cases localized <;> simp

/-- The server's chain for a destination, behind the same gate. -/
theorem navigateReason_eq_none_server {receipt : PyFloat} (h : Recent base receipt)
    (hpose : within poseAge maxReceiptAge = true) :
    navigateReason (onlineFacts base stallValue bumpersFront pose capabilities navigating
      (some receipt) poseAge allowUnlocalized) = none ↔
      base.faultFlags = 0 ∧ base.estopPressed = false ∧ onDock base = false ∧
        base.motorsEnabled = true ∧ base.odomEpochValid = true ∧
        base.localizationRecoveryRequired = false ∧ 0 < base.localizationSeedStampNs ∧
        (pose.localized = true ∨ allowUnlocalized = true) := by
  unfold navigateReason
  rw [hardwareReason_onlineFacts h, onDock_onlineFacts]
  by_cases hfault : base.faultFlags = 0
  · have hfresh : (onlineFacts base stallValue bumpersFront pose capabilities navigating
        (some receipt) poseAge allowUnlocalized).poseFresh = true := hpose
    rw [if_neg (not_not.mpr hfault)]
    simp only [refusal_eq_none, hfresh]
    simp only [onlineFacts, factsFromState, BaseStateData.ofPayload]
    cases pose.localized <;> simp [hfault, and_assoc]
  · rw [if_pos hfault]
    simp [hfault]

end

/-- For every payload of the drive base, with its receipt as old on both sides, the
    pose fresh and the operator's stamp on the command, the bridge lets a
    destination through exactly when the server does. -/
theorem navigate_agreement (base : BaseState) (stallValue : Int) (bumpersFront : Bool)
    (baseStateAge poseAge odomAge : Option PyFloat) (pose : PoseData) (allowUnlocalized : Bool)
    (capabilities : List String) (navigating : Bool)
    (hpose : within poseAge maxReceiptAge = true) (hodom : within odomAge maxOdomAge = true) :
    precheck .navigateToPose true (some base) pose.localized baseStateAge allowUnlocalized odomAge
        true = none ↔
      rejectionReason .navigateToPose (factsFromState "online"
        (some (BaseStateData.ofPayload base stallValue bumpersFront)) (some pose) capabilities
        navigating baseStateAge poseAge allowUnlocalized) = none := by
  have hodomAge : missingOrOver odomAge maxOdomAge = false := by
    cases odomAge with
    | none => cases hodom
    | some age =>
      have hle : age.le (.finite maxOdomAge) = true := hodom
      simp only [missingOrOver, PyFloat.lt, hle, Bool.not_true, Bool.and_false]
  have hlidar := @lidarReason_onlineFacts base stallValue bumpersFront pose capabilities navigating
    allowUnlocalized baseStateAge poseAge
  unfold onlineFacts at hlidar
  unfold precheck rejectionReason
  simp only [asksLidar, if_true, gateOf, Option.bind_some]
  by_cases hready : lidarReady (some base) baseStateAge = true
  · obtain ⟨receipt, rfl, hrecent⟩ := recent_of_lidarReady hready
    have hbridge := @navigateReason_eq_none_bridge base receipt odomAge pose.localized
      (allowUnlocalized && true) hrecent hodomAge
    have hserver := @navigateReason_eq_none_server base stallValue bumpersFront pose capabilities
      navigating allowUnlocalized poseAge receipt hrecent hpose
    unfold onlineFacts at hserver
    rw [hlidar.mpr hready, hserver]
    simpa [hready] using hbridge
  · cases hreason : lidarReason (factsFromState "online"
        (some (BaseStateData.ofPayload base stallValue bumpersFront)) (some pose) capabilities
        navigating baseStateAge poseAge allowUnlocalized) with
    | none => exact absurd (hlidar.mp hreason) hready
    | some reason => simp [hready]

/-- A robot that stands by, away from its dock, with fresh readings. -/
def sampleBase : BaseState where
  linkConnected := true
  telemetryAge := .finite (1 / 10)
  hardwareStateValid := true
  chargeState := "not_charging"
  motorsEnabled := true
  estopPressed := false
  faultFlags := 0
  bumpersValid := some true
  bumpersRear := false
  dockState := "CLEAR_CONFIRMED"
  dockStateValid := true
  undockActive := false
  undockProfileCommissioned := true
  operationOutcomeUnknown := false
  odomEpochValid := true
  localizationRecoveryRequired := false
  localizationRecoveryStage := ""
  localizationSeedStampNs := 5
  lidarState := "READY"
  lidarScanAge := .finite (1 / 10)
  lidarPowerSupported := true
  sessionGeneration := 1
  mapId := none
  mapRevision := none
  mapActivatedStampNs := 0

theorem navigate_agreement_sampleBase :
    precheck .navigateToPose true (some sampleBase) true (some (.finite (1 / 10))) false
      (some (.finite 1)) true = none := by
  have h := navigate_agreement sampleBase 0 false (some (.finite (1 / 10))) (some (.finite 1))
    (some (.finite 1)) ⟨true, 0, 0⟩ false [] false (by decide +kernel) (by decide +kernel)
  exact h.mpr (by decide +kernel)

/-! ### Undocking -/

section

variable {base : BaseState} {stallValue : Int} {bumpersFront : Bool} {pose : PoseData}
variable {capabilities : List String} {allowUnlocalized : Bool} {poseAge : Option PyFloat}

/-- What the bridge has checked of a robot it lets undock. -/
structure Undockable (base : BaseState) : Prop where
  fault : base.faultFlags = 0
  observer : base.dockStateValid = true
  commissioned : base.undockProfileCommissioned = true
  idle : base.undockActive = false
  released : base.estopPressed = false
  bumpers : base.bumpersValid = some true
  clear : base.bumpersRear = false

theorem undockable_of_bridge (h : PatrolBot.undockReason base = none) : Undockable base := by
  simp only [PatrolBot.undockReason, refusal_eq_none] at h
  obtain ⟨hfault, hobserver, hcommissioned, hidle, -, hreleased, hbumpers, hclear, -⟩ := h
  exact ⟨not_not.mp hfault, by simpa using hobserver, by simpa using hcommissioned,
    by simpa using hidle, by simpa using hreleased, not_not.mp hbumpers, by simpa using hclear⟩

/-- Of all that is left the server asks where the observer sees the dock. -/
theorem undockReason_server {receipt : PyFloat} (h : Recent base receipt) (hu : Undockable base)
    (hcapability : "undock" ∈ capabilities) (hpose : within poseAge maxReceiptAge = true)
    (hlinear : |pose.linearVelocity| ≤ stationaryLinear)
    (hangular : |pose.angularVelocity| ≤ stationaryAngular) :
    undockReason (onlineFacts base stallValue bumpersFront pose capabilities false (some receipt)
      poseAge allowUnlocalized) = none ↔ upper (strip base.dockState) = "DOCKED_CONFIRMED" := by
  have hdock : onDock base = decide (upper (strip base.dockState) = "DOCKED_CONFIRMED") := by
    rw [PatrolBot.onDock, if_pos hu.observer, beq_eq_decide]
  have hfresh : (onlineFacts base stallValue bumpersFront pose capabilities false (some receipt)
      poseAge allowUnlocalized).poseFresh = true := hpose
  unfold undockReason
  rw [hardwareReason_onlineFacts h, if_neg (not_not.mpr hu.fault), onDock_onlineFacts, hdock]
  unfold stationaryReason
  rw [hfresh]
  simp only [onlineFacts, factsFromState, BaseStateData.ofPayload, hu.observer, hu.commissioned,
    hu.idle, hu.released, hu.bumpers, hu.clear, hlinear, hangular, hcapability]
  by_cases hdocked : upper (strip base.dockState) = "DOCKED_CONFIRMED"
  · simp [hdocked]
  · simp [hdocked]

end

/-- Of the payloads the bridge lets undock the server lets through exactly those
    whose observer confirms the dock: the bridge is content with a charge while the
    observer reports neither a departure nor a clear dock. -/
theorem undock_barrier (base : BaseState) (stallValue : Int) (bumpersFront : Bool)
    (baseStateAge poseAge odomAge : Option PyFloat) (pose : PoseData)
    (capabilities : List String) (goalPresent localized allowUnlocalized operatorAuthorized : Bool)
    (hbridge : precheck .undock goalPresent (some base) localized baseStateAge allowUnlocalized
      odomAge operatorAuthorized = none)
    (hcapability : "undock" ∈ capabilities) (hpose : within poseAge maxReceiptAge = true)
    (hlinear : |pose.linearVelocity| ≤ stationaryLinear)
    (hangular : |pose.angularVelocity| ≤ stationaryAngular) :
    rejectionReason .undock (factsFromState "online"
        (some (BaseStateData.ofPayload base stallValue bumpersFront)) (some pose) capabilities false
        baseStateAge poseAge allowUnlocalized) = none ↔
      upper (strip base.dockState) = "DOCKED_CONFIRMED" := by
  unfold precheck at hbridge
  simp only [List.mem_cons, reduceCtorEq, List.not_mem_nil, or_self, false_and, if_false, or_true,
    or_false, true_and] at hbridge
  split at hbridge
  · cases hbridge
  · rename_i hready
    have hready : lidarReady (some base) baseStateAge = true := by simpa using hready
    obtain ⟨receipt, rfl, hrecent⟩ := recent_of_lidarReady hready
    have hlidar := (@lidarReason_onlineFacts base stallValue bumpersFront pose capabilities false
      allowUnlocalized (some receipt) poseAge).mpr hready
    have hserver := @undockReason_server base stallValue bumpersFront pose capabilities
      allowUnlocalized poseAge receipt hrecent (undockable_of_bridge hbridge) hcapability hpose
      hlinear hangular
    unfold onlineFacts at hlidar hserver
    unfold rejectionReason
    simp only [asksLidar, if_true, hlidar, gateOf, Option.bind_some]
    exact hserver

/-- A robot that stands on its charger, as the observer sees it. -/
def chargingBase (dockState : String) : BaseState :=
  { sampleBase with chargeState := "bulk", dockState := dockState }

theorem undock_barrier_chargingBase :
    rejectionReason .undock (factsFromState "online"
      (some (BaseStateData.ofPayload (chargingBase "DOCKED_CONFIRMED") 0 false))
      (some ⟨true, 0, 0⟩) ["undock"] false (some (.finite (1 / 10))) (some (.finite 1)) false) =
        none := by
  refine (undock_barrier (chargingBase "DOCKED_CONFIRMED") 0 false (some (.finite (1 / 10)))
    (some (.finite 1)) none ⟨true, 0, 0⟩ ["undock"] false true false false (by decide +kernel)
    (by decide) (by decide +kernel) ?_ ?_).mpr (by decide +kernel)
  · decide +kernel
  · decide +kernel

/-- With its operation stopped by a fault the observer vouches for no dock, and the
    bridge undocks all the same. -/
theorem not_undock_barrier :
    precheck .undock false (some (chargingBase "FAULT_STOPPED")) true (some (.finite (1 / 10)))
      false none false = none ∧
    rejectionReason .undock (factsFromState "online"
      (some (BaseStateData.ofPayload (chargingBase "FAULT_STOPPED") 0 false))
      (some ⟨true, 0, 0⟩) ["undock"] false (some (.finite (1 / 10))) (some (.finite 1)) false) =
        some "The robot is not on its dock." := by
  decide +kernel

end PatrolBot.Server
