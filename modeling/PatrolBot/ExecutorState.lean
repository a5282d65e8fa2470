import PatrolBot.Library.Machine
import PatrolBot.Precheck

/-!
# State of the bridge's command executor

`CommandExecutor` of `commands.py` keeps one slot for each owner of the robot's
motion: `_active` and `_nav_pending` for navigation, `_undock_active`,
`_map_active`.  Its requests to the action and service servers are answered by
callbacks.  What those servers still owe is part of the state here, under the
numbers the requests were sent with; a number also stands for the identity of
the object the source keeps for the request.
-/

namespace PatrolBot

/-! ### What the executor sends -/

/-- The outcomes a `command.result` of the executor carries. -/
inductive Outcome where
  | succeeded
  | failed
  | canceled
  | timeout
deriving DecidableEq

/-- The services the executor calls through `_call_dock_service`. -/
inductive DockService where
  | chargeRelease
  | motorEnable
  | motorDisable
  | dockReset
deriving DecidableEq

/-- The `what` of a service call, part of its refusals. -/
def DockService.what : DockService → String
  | .chargeRelease => "release charging"
  | .motorEnable => "turn the motors on"
  | .motorDisable => "turn the motors off"
  | .dockReset => "recover the operation fault"

/-- A goal as the frame names it.  A missing map identity reads as the empty
    string; `pose` is `none` when a coordinate is missing or no number. -/
structure Goal where
  mapId : String
  mapRevision : String
  pose : Option (PyFloat × PyFloat × Option PyFloat)
deriving DecidableEq

/-- The undock goal, from the node's parameters. -/
structure UndockConfig where
  dockId : String
  reverseDistance : ℚ
  reverseSpeed : ℚ
  validationMode : Bool
  timeout : ℚ
  /-- The parameters as the decline message words them. -/
  described : String
deriving DecidableEq

/-- One pose of a planned path: position and orientation. -/
structure PathPose where
  position : PyFloat × PyFloat × PyFloat
  orientation : PyFloat × PyFloat × PyFloat × PyFloat
deriving DecidableEq

/-- A planned path, its stamp in nanoseconds. -/
structure NavPath where
  frameId : String
  stamp : Int
  poses : List PathPose
deriving DecidableEq

/-- What `normalize_path` makes of a path for the browser. -/
structure PathDrawing where
  points : List (ℚ × ℚ)
  goal : Option (ℚ × ℚ × ℚ)
deriving DecidableEq

/-- A `telemetry.path` frame. -/
structure PathFrame where
  commandId : String
  pathValid : Bool
  mapId : Option String
  mapRevision : Option String
  drawing : PathDrawing
deriving DecidableEq

/-- What a handler does, in order.  A request carries the number it is sent
    with, a cancel the number of the request it is for.  A progress frame without
    `path_valid` is one where it is false. -/
inductive ExecutorEmit where
  | ack (commandId : String) (accepted : Bool) (reason : Option String)
  | result (commandId : String) (outcome : Outcome) (detail : Option String)
      (errorCode : Option Int := none) (errorMessage : Option String := none)
  | progress (commandId stage : String) (detail : Option String) (pathValid : Bool)
      (distance : Option PyFloat)
  | path (frame : PathFrame)
  | sendNavigation (request : Nat) (x y : PyFloat) (yaw : PyFloat)
  | cancelNavigation (request : Nat)
  | sendUndock (request : Nat) (config : UndockConfig)
  | cancelUndock (request : Nat)
  | sendMap (request : Nat) (goal : Goal) (measured : Bool)
  | cancelMap (request : Nat)
  | callService (service : DockService) (requestId : String)
  | callLidar (requestId : String) (enabled : Bool)
  | askPath (request : Nat)
  | overridden (commandId : String)
  | raised
deriving DecidableEq

/-! ### The owner slots -/

/-- `_navigation_context`: the base-state fields a destination depends on. -/
structure NavigationContext where
  mapId : Option String
  mapRevision : Option String
  mapActivatedStampNs : Int
  sessionGeneration : Int
  odomEpochValid : Bool
  localizationRecoveryRequired : Bool
  localizationSeedStampNs : Int
deriving DecidableEq

/-- The context tuple of `update_navigation_context`. -/
def BaseState.navigationContext (base : BaseState) : NavigationContext :=
  ⟨base.mapId, base.mapRevision, base.mapActivatedStampNs, base.sessionGeneration,
    base.odomEpochValid, base.localizationRecoveryRequired, base.localizationSeedStampNs⟩

/-- `_active`, the accepted navigation goal. -/
structure ActiveGoal where
  commandId : String
  request : Nat
  navigationContext : Option NavigationContext
  pathValid : Bool := false
  pathBlocked : Bool := false
  cancelRequested : Bool := false
  cancelPending : Bool := false
  stopCommandIds : List String := []

/-- `_nav_pending`, the navigation request that waits for its response. -/
structure NavPending where
  commandId : String
  request : Nat
  cancel : Bool := false

/-- `_undock_active`.  `accepted` is `goal_handle is not None`. -/
structure ActiveUndock where
  commandId : String
  request : Nat
  started : ℚ
  accepted : Bool := false
  cancelRequested : Bool := false
  uncertain : Bool := false
  stopCommandIds : List String := []

/-- `_map_active`.  `accepted` is `handle is not None`. -/
structure ActiveMap where
  commandId : String
  request : Nat
  accepted : Bool := false
  cancel : Bool := false

/-! ### What is still owed -/

/-- A navigation request without a response yet, with what its callback
    captured. -/
structure NavRequest where
  request : Nat
  commandId : String
  generation : Nat
  context : Option NavigationContext
  navigationGeneration : Nat
deriving DecidableEq

/-- An undock request without a response yet. -/
structure UndockRequest where
  request : Nat
  commandId : String
  generation : Nat
deriving DecidableEq

/-- Whose cancel reply is awaited: `_on_navigation_cancel_response` for a goal,
    `_on_cancel_response` for a stop. -/
inductive CancelReply where
  | navigation (request : Nat)
  | stop (commandId : String)
deriving DecidableEq

/-- A call of the path service for the goal `request`, numbered `token`. -/
structure PathQuery where
  token : Nat
  request : Nat
deriving DecidableEq

/-- The executor together with the requests whose callbacks are outstanding. -/
structure Executor where
  active : Option ActiveGoal := none
  navPending : Option NavPending := none
  undockActive : Option ActiveUndock := none
  mapActive : Option ActiveMap := none
  navigationContext : Option NavigationContext := none
  navigationGeneration : Nat := 0
  motorDisableGeneration : Nat := 0
  lastProgress : ℚ := 0
  lastUndockProgress : ℚ := 0
  undockServerMisses : Nat := 0
  lidarPending : Option String := none
  lidarRecoveryRequired : Bool := false
  lidarCompleted : Option ℚ := none
  /-- `_path_future` and whether it is done. -/
  pathFuture : Option (PathQuery × Bool) := none
  pathSent : ℚ := 0
  lastNavigationPath : Option PathFrame := none
  /-- The number of the next request. -/
  nextRequest : Nat := 0
  navRequests : List NavRequest := []
  navResults : List (Nat × String) := []
  undockRequests : List UndockRequest := []
  undockResults : List (Nat × String) := []
  mapRequests : List Nat := []
  mapResults : List Nat := []
  cancelReplies : List CancelReply := []
  serviceCalls : List (DockService × String) := []
  lidarCalls : List String := []
  pathQueries : List PathQuery := []

/-! ### What a handler learns from its surroundings -/

/-- The action servers. -/
inductive ActionKind where
  | navigation
  | undock
  | map
deriving DecidableEq

/-- How the robot is equipped: which interfaces were importable at start. -/
structure ExecutorConfig where
  undock : UndockConfig
  /-- `Undock`, `ChargeRelease`, `MotorEnable` and `InitializeDockPose`. -/
  dockInterfaces : Bool
  motorDisableInterface : Bool
  dockResetInterface : Bool
  lidarInterface : Bool
  /-- `normalize_path` with the node's `path_max_points`. -/
  drawPath : NavPath → PathDrawing

/-- The answers one call gets from the clock, the socket and the clients.  Any
    client call may raise. -/
structure ClientAnswers where
  now : ℚ
  connected : Bool
  serverReady : ActionKind → Bool
  sendRaises : ActionKind → Bool
  cancelRaises : ActionKind → Bool
  resultRaises : ActionKind → Bool
  serviceReady : DockService → Bool
  serviceRaises : Bool
  lidarReady : Bool
  lidarRaises : Bool
  pathReady : Bool
  /-- The text of whatever exception is raised. -/
  error : String

/-! ### What the servers answer -/

/-- The response to a goal request. -/
inductive GoalResponse where
  | raised (error : String)
  | declined
  | accepted
deriving DecidableEq

/-- The result of a navigation goal: its terminal status with the error code
    and message Nav2 gives. -/
structure NavigationResult where
  status : Int
  errorCode : Option Int
  errorMessage : String

/-- The result of the undock action. -/
structure UndockResult where
  status : Int
  success : Bool
  code : Int
  message : String
  manualRecoveryRequired : Bool

/-- The result of the map localization action. -/
structure MapResult where
  requestId : String
  localized : Bool
  code : Int
  message : String

/-- The response of a service: `motorsEnabled` is read of a motor disable only. -/
structure ServiceResponse where
  accepted : Bool
  code : Int
  message : String
  requestId : String
  success : Bool
  motorsEnabled : Bool

/-- The response of the LiDAR power service. -/
structure LidarResponse where
  requestId : String
  code : Int
  accepted : Bool
  success : Bool
  message : String

/-- The answer of the path service. -/
inductive PathReply where
  | raised
  | inactive
  | planned (path : NavPath)

/-- `CancelGoal.Response`: whether `goals_canceling` is nonempty, and the return
    code. -/
structure CancelResponse where
  goalsCanceling : Bool
  returnCode : Int

/-- What a `CancelGoal` reply says. -/
inductive CancelVerdict where
  | canceling
  | finished
  | refused
deriving DecidableEq

/-- `cancel_verdict`; 3 is `ERROR_GOAL_TERMINATED`. -/
def cancelVerdict (response : CancelResponse) : CancelVerdict :=
  if response.goalsCanceling then .canceling
  else if response.returnCode = 3 then .finished
  else .refused

/-- `map_goal_status`: 4, 5 and 6 are the terminal codes of `GoalStatus`. -/
def mapGoalStatus (status : Int) : Outcome :=
  if status = 4 then .succeeded
  else if status = 5 then .canceled
  else .failed

/-- `stop_result`: outcome and sentence of a stop, from the terminal state of
    the goal it was cancelling. -/
def stopResult : Outcome → Outcome × String
  | .canceled => (.succeeded, "The robot has stopped.")
  | .succeeded =>
    (.succeeded, "The robot reached its destination before it could be stopped.")
  | _ => (.failed, ("The robot's goal ended abnormally while it was being stopped — " ++
      "check the robot before assuming it has stopped."))

end PatrolBot
