import PatrolBot.ExecutorNavigation

/-!
# Docking, map localization, services and LiDAR power

The other owners of the robot's motion: the undock action with its watchdog, the
map localization action, and the service calls for charger, motors, fault
recovery and LiDAR power.
-/

namespace PatrolBot

namespace Executor

variable (config : ExecutorConfig) (answers : ClientAnswers)

/-! ### Undock -/

/-- `UNDOCK_CODE_TEXT`. -/
def undockCodeText (code : Int) : String :=
  match code with
  | 0 => "The robot is clear of the dock."
  | 1 => "The robot refused the undock request."
  | 2 => "The robot's pre-move checks did not pass."
  | 3 => "The robot could not release its charger."
  | 4 => "The robot could not power its motors."
  | 5 => "A sensor the robot needs to back up safely is not reporting."
  | 6 => "The robot is not confident where it is, so it will not move."
  | 7 => "The robot's command path is not healthy."
  | 8 => "The robot started backing up but could not finish."
  | 9 => "Undocking was canceled."
  | 10 => "Undocking took too long and was stopped."
  | 11 => "The robot's drive base restarted mid-undock."
  | 12 => "The robot reported a safety fault and stopped."
  | _ => "Undocking did not complete."

/-- `undock_detail`. -/
def undockDetail (code : Int) (message : String) (manualRecovery : Bool) : String :=
  undockCodeText code ++
    (if strip message ≠ "" ∧ code ≠ 0 then s!" ({strip message})" else "") ++
    if manualRecovery then
      " Someone needs to check the robot at the dock before trying again." else ""

/-- `undock_outcome`. -/
def undockOutcome (success : Bool) (code : Int) : Outcome :=
  if success ∧ code = 0 then .succeeded
  else if code = 9 then .canceled
  else if code = 10 then .timeout
  else .failed

/-- `HARDWARE_UNDOCK_STAGE_TEXT`. -/
def hardwareUndockStageText (phase : String) : String :=
  match upper phase with
  | "PREPARING_UNDOCK" => "Preparing the drive base"
  | "RELEASING" => "Releasing the charger"
  | "ENABLING_MOTORS" => "Powering the motors"
  | "BACKING_OUT" => "Backing clear of the dock"
  | "VERIFYING_CLEARANCE" => "Confirming physical clearance"
  | "HANDOFF_READY" => "Handing control back safely"
  | "STOPPING" => "Stopping the drive base"
  | _ => phase

/-- `UNDOCK_STAGE_TEXT` and `undock_stage`. -/
def undockStage (state hardwarePhase : String) : String :=
  if upper state = "HARDWARE_UNDOCK" ∧ hardwarePhase ≠ "" then
    hardwareUndockStageText hardwarePhase
  else match upper state with
    | "IDLE" => "Preparing to undock"
    | "PRECHECK" => "Checking it is safe to move"
    | "VERIFY_LOCALIZATION" => "Confirming the robot's location"
    | "VERIFY_COMMAND_PATH" => "Checking the guarded motion path"
    | "HARDWARE_UNDOCK" => "Moving clear of the dock"
    | "VERIFY_HANDOFF" => "Checking the robot is ready to turn"
    | "RESTORE_LOCALIZATION" => "Refreshing the robot's location"
    | "TURN_AWAY_FROM_DOCK" => "Turning away from the dock"
    | "UNKNOWN" => "Waiting for the robot to confirm the undock outcome"
    | "STOPPING" => "Waiting for undocking to stop"
    | "STOPPED" => "Stopping clear of the dock"
    | "RELEASING" => "Releasing the charger"
    | "ENABLING_MOTORS" => "Powering the motors"
    | "SETTLING" => "Waiting for the robot to settle"
    | "MOVING" => "Backing off the dock"
    | "VERIFYING" => "Confirming the robot is clear"
    | "COMPLETE" => "Clear of the dock"
    | _ => if state = "" then "Undocking" else state

/-- `_fail_undock`: the outcome is unknown, the owner stays. -/
def failUndock (s : Executor) (detail : String) : Executor × List ExecutorEmit :=
  match s.undockActive with
  | none => (s, [])
  | some undock =>
    if undock.uncertain then (s, [])
    else
      andThen (cancelNavigation answers
          { s with undockActive := some { undock with uncertain := true } } undock.commandId)
        fun s => (s, [.progress undock.commandId "unknown"
          (some (detail ++ " The outcome is unknown; do not retry. Use motor disable or the " ++
            "emergency stop.")) false none])

/-- `check_undock_health`. -/
def checkUndockHealth (s : Executor) : Executor × List ExecutorEmit :=
  match s.undockActive with
  | none => ({ s with undockServerMisses := 0 }, [])
  | some undock =>
    if config.dockInterfaces ∧ answers.serverReady .undock = false then
      let s := { s with undockServerMisses := s.undockServerMisses + 1 }
      if 2 ≤ s.undockServerMisses then
        s.failUndock answers ("The robot's docking system stopped responding mid-undock. " ++
          "Its motion outcome is unknown — check the robot and dock manager.")
      else (s, [])
    else
      let s := { s with undockServerMisses := 0 }
      if answers.now - undock.started > config.undock.timeout then
        s.failUndock answers "Undocking did not finish in time; cancellation was requested."
      else (s, [])

/-- The refusals of `_undock`, in order. -/
def undockRefusal (s : Executor) (operatorAuthorized : Bool) : Option String :=
  if config.dockInterfaces = false then
    some "This robot does not have undocking commissioned."
  else if operatorAuthorized = false then
    some "Your account is not authorized to move the robot."
  else if answers.serverReady .undock = false then
    some "The robot's docking system is not running."
  else if s.undockActive.isSome then some "The robot is already undocking."
  else if s.active.isSome ∨ s.navPending.isSome then
    -- The other half of the guard of `navigate`: never two motion owners.
    some "The robot is driving to a destination. Stop it before backing it off the dock."
  else none

/-- `_undock`. -/
def undock (s : Executor) (commandId : String) (operatorAuthorized : Bool) :
    Executor × List ExecutorEmit :=
  match s.undockRefusal config answers operatorAuthorized with
  | some reason => (s, [.ack commandId false (some reason)])
  | none =>
    let request := s.nextRequest
    let s := { s with nextRequest := request + 1 }
    if answers.sendRaises .undock then
      (s, [.sendUndock request config.undock,
        .ack commandId false (some s!"The undock request could not be sent: {answers.error}")])
    else
      ({ s with
          undockActive := some
            { commandId := commandId, request := request, started := answers.now }
          undockRequests := ⟨request, commandId, s.motorDisableGeneration⟩ :: s.undockRequests },
        [.sendUndock request config.undock])

/-- What follows the acceptance of an undock that is to be cancelled. -/
def cancelAccepted (s : Executor) (undock : ActiveUndock) : Executor × List ExecutorEmit :=
  if answers.cancelRaises .undock then
    undock.stopCommandIds.foldl (fun result stop => andThen result fun s =>
      s.failStop stop s!"The robot could not be asked to stop: {answers.error}.")
      (s, [.cancelUndock undock.request])
  else
    ({ s with cancelReplies := (undock.stopCommandIds.head?.map .stop).toList ++ s.cancelReplies },
      [.cancelUndock undock.request])

/-- `_on_undock_response`. -/
def onUndockResponse (s : Executor) (request : UndockRequest) (response : GoalResponse) :
    Executor × List ExecutorEmit :=
  match s.undockActive.filter fun undock => undock.commandId = request.commandId, response with
  | none, .raised _ => (s, [])
  | some _, .raised error => s.failUndock answers s!"Undock acceptance is unknown: {error}."
  | none, .accepted =>
    (s, .cancelUndock request.request ::
      if answers.cancelRaises .undock then [.raised] else [])
  | none, .declined => (s, [])
  | some undock, .declined =>
    ({ s with undockActive := none },
      .ack request.commandId false (some ("The robot declined to undock — it did not accept " ++
        "the request " ++ config.undock.described ++
        ". The robot's dock manager log has the exact reason.")) ::
      undock.stopCommandIds.map fun stop =>
        .result stop .succeeded (some "The robot did not accept the undock request."))
  | some undock, .accepted =>
    let undock := { undock with
      accepted := true
      cancelRequested := undock.cancelRequested || request.generation != s.motorDisableGeneration }
    let s := { s with undockActive := some undock, undockServerMisses := 0 }
    andThen (s, [.ack request.commandId true none]) fun s =>
      if answers.resultRaises .undock then (s, [.raised])
      else
        let s := { s with
          undockResults := (request.request, request.commandId) :: s.undockResults }
        if undock.cancelRequested then s.cancelAccepted answers undock else (s, [])

/-- `_on_undock_feedback`. -/
def onUndockFeedback (s : Executor) (commandId state hardwarePhase : String) :
    Executor × List ExecutorEmit :=
  match s.undockActive with
  | none => (s, [])
  | some undock =>
    if undock.commandId ≠ commandId ∨ undock.accepted = false then (s, [])
    else if answers.now - s.lastUndockProgress < 1 then (s, [])
    else
      let state := if undock.cancelRequested then "STOPPING" else state
      ({ s with lastUndockProgress := answers.now },
        [.progress commandId (if state = "" then "undocking" else state)
          (some (if state = "STOPPING" then "Waiting for undocking to stop"
            else undockStage state hardwarePhase)) false none])

/-- The outcome and sentence of an undock result. -/
def undockVerdict (result : UndockResult) : Outcome × String :=
  let outcome := undockOutcome result.success result.code
  if (outcome ∈ [Outcome.succeeded, .canceled] ∧ outcome ≠ mapGoalStatus result.status) ∨
      (result.code = 0 ∧ result.success = false) then
    (.failed, ("The robot returned an inconsistent undock result. Check the robot before " ++
      "assuming it has stopped."))
  else (outcome, undockDetail result.code result.message result.manualRecoveryRequired)

/-- `_on_undock_result`. -/
def onUndockResult (s : Executor) (commandId : String)
    (response : Except String UndockResult) : Executor × List ExecutorEmit :=
  match s.undockActive with
  | none => (s, [])
  | some undock =>
    if undock.commandId ≠ commandId then (s, [])
    else match response with
      | .error error => s.failUndock answers s!"Undock result is unknown: {error}."
      | .ok result =>
        if result.status ∉ [(4 : Int), 5, 6] then
          s.failUndock answers
            "Undock result is unknown: the action returned no terminal result."
        else
          let (outcome, detail) := undockVerdict result
          ({ s with undockActive := none },
            .result commandId outcome (some detail) ::
              undock.stopCommandIds.map fun stop =>
                .result stop (stopResult outcome).1 (some (stopResult outcome).2))

/-! ### Map localization -/

/-- `_check_map_connection`. -/
def checkMapConnection (s : Executor) (cancel : Bool) : Executor × List ExecutorEmit :=
  match s.mapActive with
  | none => (s, [])
  | some map =>
    if (cancel ∨ answers.connected = false) ∧ map.cancel = false then
      let s := { s with mapActive := some { map with cancel := true } }
      if map.accepted = false then (s, [])
      else if answers.cancelRaises .map then (s, [.cancelMap map.request, .raised])
      else (s, [.cancelMap map.request])
    else (s, [])

/-- The refusal of `_set_initial_pose`. -/
def setInitialPoseRefused (s : Executor) (operatorAuthorized : Bool) : Bool :=
  !operatorAuthorized || s.active.isSome || !answers.serverReady .map

/-- `_set_initial_pose`. -/
def setInitialPose (s : Executor) (commandId : String) (goal : Goal) (operatorAuthorized : Bool)
    (measured : Bool) : Executor × List ExecutorEmit :=
  if goal.pose.isNone then (s, [.raised])
  else if s.setInitialPoseRefused answers operatorAuthorized then
    (s, [.ack commandId false (some ("Map localization requires authorization, an idle robot " ++
      "and its action server."))])
  else
    let request := s.nextRequest
    let s := { s with
      nextRequest := request + 1
      mapActive := some { commandId := commandId, request := request } }
    if answers.sendRaises .map then (s, [.sendMap request goal measured, .raised])
    else ({ s with mapRequests := request :: s.mapRequests }, [.sendMap request goal measured])

/-- `_map_feedback`: the stage the localizer reports for its request. -/
def onMapFeedback (s : Executor) (requestId stage : String) : Executor × List ExecutorEmit :=
  match s.mapActive with
  | none => (s, [])
  | some map =>
    if map.commandId = requestId then (s, [.progress requestId stage none false none]) else (s, [])

/-- `_map_response`, for the goal `request`. -/
def onMapResponse (s : Executor) (request : Nat) (response : GoalResponse) :
    Executor × List ExecutorEmit :=
  match s.mapActive with
  | none => (s, [])
  | some map =>
    if map.request ≠ request then (s, [])
    else match response with
      | .raised error =>
        ({ s with mapActive := none }, [.result map.commandId .failed (some error)])
      | .declined =>
        ({ s with mapActive := none },
          [.ack map.commandId false (some "Robot refused map localization preconditions.")])
      | .accepted =>
        let s := { s with mapActive := some { map with accepted := true } }
        andThen (s, [.ack map.commandId true none]) fun s =>
          if answers.resultRaises .map then
            ({ s with mapActive := none },
              [.result map.commandId .failed (some answers.error)])
          else
            let s := { s with mapResults := request :: s.mapResults }
            if map.cancel = false then (s, [])
            else if answers.cancelRaises .map then
              ({ s with mapActive := none },
                [.cancelMap request, .result map.commandId .failed (some answers.error)])
            else (s, [.cancelMap request])

/-- `_map_result`, for the goal `request`. -/
def onMapResult (s : Executor) (request : Nat) (response : Except String MapResult) :
    Executor × List ExecutorEmit :=
  match s.mapActive with
  | none => (s, [])
  | some map =>
    if map.request ≠ request then (s, [])
    else
      let reply : ExecutorEmit := match response with
        | .error error => .result map.commandId .failed (some error)
        | .ok result =>
          if result.requestId ≠ map.commandId then
            .result map.commandId .failed
              (some "Map localization result belongs to a different request")
          else .result map.commandId
            (if result.localized ∧ result.code = 0 then .succeeded else .failed)
            (some result.message)
      ({ s with mapActive := none }, [reply])

/-! ### Services -/

/-- `SERVICE_CODE_TEXT`. -/
def serviceCodeText (code : Int) : String :=
  match code with
  | 0 => "Done."
  | 1 => "The robot rejected the request as invalid."
  | 2 => "The robot's link to its drive base is unavailable."
  | 3 => "The robot's pre-conditions for this were not met."
  | 4 => "The robot's hardware refused the request."
  | 5 => "The robot did not answer in time."
  | 6 => "The robot's drive base restarted while the request was in flight."
  | 7 => "The robot and the dashboard disagreed on the protocol."
  | _ => "The request did not complete."

/-- `service_detail`. -/
def serviceDetail (code : Int) (message : String) : String :=
  serviceCodeText code ++
    if strip message ≠ "" ∧ code ≠ 0 then s!" ({strip message})" else ""

/-- The interface of the service could be imported. -/
def hasService : DockService → Bool
  | .chargeRelease => config.dockInterfaces
  | .motorEnable => config.dockInterfaces
  | .motorDisable => config.motorDisableInterface
  | .dockReset => config.dockResetInterface

/-- Without the docking interfaces `_charge_release` and `_motor_enable` read
    an attribute that was never set. -/
def attributeMissing (service : DockService) : Bool :=
  !config.dockInterfaces && (service == .chargeRelease || service == .motorEnable)

/-- `_call_dock_service`. -/
def callDockService (s : Executor) (commandId : String) (service : DockService) :
    Executor × List ExecutorEmit :=
  if attributeMissing config service then (s, [.raised])
  else if hasService config service = false then
    (s, [.ack commandId false (some s!"This robot cannot {service.what} from the dashboard.")])
  else if answers.serviceReady service = false then
    (s, [.ack commandId false (some "The robot's drive-base service is not running.")])
  else if answers.serviceRaises then (s, [.callService service commandId, .raised])
  else ({ s with serviceCalls := (service, commandId) :: s.serviceCalls },
    [.callService service commandId])

/-- `_on_dock_service_result`. -/
def onDockServiceResult (s : Executor) (service : DockService) (commandId : String)
    (response : Except String ServiceResponse) : Executor × List ExecutorEmit :=
  match response with
  | .error error => (s, [.ack commandId false (some s!"The robot did not answer: {error}")])
  | .ok response =>
    if response.accepted = false then
      (s, [.ack commandId false (some (serviceDetail response.code response.message))])
    else if response.requestId ≠ commandId then
      (s, [.ack commandId false (some "The drive-base reply did not match this request.")])
    else if service = .motorDisable ∧ response.success ∧ response.motorsEnabled then
      (s, [.ack commandId true none,
        .result commandId .failed (some "The drive base still reports motors enabled.")])
    else
      (s, [.ack commandId true none,
        .result commandId (if response.success then .succeeded else .failed)
          (some (serviceDetail response.code response.message))])

/-- `_motor_enable`. -/
def motorEnable (s : Executor) (commandId : String) : Executor × List ExecutorEmit :=
  if s.active.isSome ∨ s.undockActive.isSome then
    (s, [.ack commandId false (some ("Previous movement has not finished canceling. Stop it " ++
      "before enabling motors."))])
  else s.callDockService config answers commandId .motorEnable

/-- The cancels at the end of `_motor_disable`; one that raises is logged. -/
def cancelGoals (s : Executor) : Executor × List ExecutorEmit :=
  let navigation := match s.active with
    | none => []
    | some active => [ExecutorEmit.cancelNavigation active.request]
  let undock := match s.undockActive with
    | none => []
    | some undock => if undock.accepted then [ExecutorEmit.cancelUndock undock.request] else []
  ({ s with
      active := s.active.map fun active => { active with cancelRequested := true }
      undockActive := s.undockActive.map fun undock => { undock with cancelRequested := true } },
    navigation ++ undock)

/-- The map cancellation inside `_motor_disable`; an exception is logged. -/
def cancelMapLogged (s : Executor) : Executor × List ExecutorEmit :=
  let result := s.checkMapConnection answers true
  (result.1, result.2.filter fun emit => match emit with | .raised => false | _ => true)

/-- `_motor_disable`. -/
def motorDisable (s : Executor) (commandId : String) : Executor × List ExecutorEmit :=
  let blocked := clearNavigationPath { s with
    active := s.active.map fun active => { active with pathBlocked := true } }
  andThen blocked fun s =>
    let s := { s with motorDisableGeneration := s.motorDisableGeneration + 1 }
    let called := s.callDockService config answers commandId .motorDisable
    if config.motorDisableInterface ∧ answers.serviceReady .motorDisable ∧ answers.serviceRaises
    then called
    else andThen (andThen called (cancelMapLogged answers)) cancelGoals

/-! ### LiDAR power -/

/-- The drive base allows a LiDAR power change. -/
def lidarPowerReady (base : BaseState) (receiptAge : Option PyFloat) : Bool :=
  match receiptAge with
  | none => false
  | some receipt =>
    base.lidarPowerSupported && base.hardwareStateValid && base.linkConnected &&
      decide (base.faultFlags = 0) && PyFloat.le (.finite 0) receipt &&
      PyFloat.le receipt (.finite (1 / 2)) && base.telemetryAge.isFinite &&
      PyFloat.le (.finite 0) base.telemetryAge &&
      PyFloat.le (base.telemetryAge.add receipt) (.finite (1 / 2)) &&
      ["OFF", "READY", "FAULT"].contains base.lidarState

/-- `_set_lidar_power`. -/
def setLidarPower (s : Executor) (commandId : String) (authorized enabled : Json)
    (base : Option BaseState) (receiptAge : Option PyFloat) : Executor × List ExecutorEmit :=
  match authorized.isTrue, enabled with
  | true, .bool enabled =>
    if (base.any fun base => lidarPowerReady base receiptAge) = false then
      (s, [.ack commandId false
        (some "LiDAR power control is unavailable, uncommissioned or stale.")])
    else if s.active.isSome ∨ s.undockActive.isSome ∨ base.any (·.undockActive) then
      (s, [.ack commandId false
        (some "Stop the active operation before changing LiDAR power.")])
    else if config.lidarInterface = false ∨ answers.lidarReady = false then
      (s, [.ack commandId false (some "The robot's LiDAR power service is not running.")])
    else
      let s := { s with lidarPending := some commandId }
      if answers.lidarRaises then
        (s, [.callLidar commandId enabled, .result commandId .timeout
          (some s!"LiDAR power outcome is unknown: {answers.error}")])
      else ({ s with lidarCalls := commandId :: s.lidarCalls }, [.callLidar commandId enabled])
  | _, _ =>
    (s, [.ack commandId false (some ("LiDAR power requires operator authorization and an " ++
      "explicit boolean target."))])

/-- A message, or `None` for an empty one. -/
def orNone (message : String) : Option String := if message = "" then none else some message

/-- `_on_lidar_result`. -/
def onLidarResult (s : Executor) (commandId : String)
    (response : Except String LidarResponse) : Executor × List ExecutorEmit :=
  if s.lidarPending ≠ some commandId then (s, [])
  else match response with
    | .error error =>
      (s, [.result commandId .timeout (some s!"LiDAR power outcome is unknown: {error}")])
    | .ok response =>
      if response.requestId ≠ commandId then
        (s, [.result commandId .timeout (some ("LiDAR power outcome is unknown: LiDAR response " ++
          "belongs to a different request"))])
      else
        let s := { s with lidarPending := none, lidarCompleted := some answers.now }
        if response.code = 5 then
          ({ s with lidarRecoveryRequired := true },
            [.ack commandId true none, .result commandId .failed
              (some (if response.message = "" then
                "LiDAR power timed out; explicit recovery is required." else response.message))])
        else if response.accepted then
          ({ s with lidarRecoveryRequired := !response.success },
            [.ack commandId true (orNone response.message),
              .result commandId (if response.success then .succeeded else .failed)
                (some response.message)])
        else (s, [.ack commandId false (orNone response.message)])

end Executor

end PatrolBot
