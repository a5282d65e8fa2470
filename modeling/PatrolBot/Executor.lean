import PatrolBot.ExecutorDocking

/-!
# The command executor as a machine

`CommandExecutor.handle` and the events of a run: frames from the dashboard, the
answers of the action and service servers, and the node's own timers.  A
callback runs only while its answer is owed, and is owed once.
-/

namespace PatrolBot

/-- A `command.request`.  `commandId` is `str(data.get("command_id", ""))`. -/
structure CommandRequest where
  commandId : String
  command : Command
  goal : Option Goal
  seedProfile : Option String
  operatorAuthorized : Json
  allowUnlocalized : Json
  enabled : Json

/-- A call of `handle`, with what the node knows at that moment. -/
structure HandleCall where
  request : CommandRequest
  baseState : Option BaseState
  currentYaw : Option PyFloat
  localized : Bool
  baseStateAge : Option PyFloat
  odomAge : Option PyFloat

/-- What can happen to the executor. -/
inductive ExecutorEvent where
  | handle (call : HandleCall)
  | goalResponse (request : Nat) (response : GoalResponse)
  | navigationResult (request : Nat) (response : Except String NavigationResult)
  | cancelReply (reply : CancelReply) (response : Except String CancelResponse)
  | navigationFeedback (commandId : String) (request : Nat) (distance : Option PyFloat)
  | undockResponse (request : Nat) (response : GoalResponse)
  | undockResult (request : Nat) (response : Except String UndockResult)
  | undockFeedback (commandId state hardwarePhase : String)
  | undockHealth
  | mapResponse (request : Nat) (response : GoalResponse)
  | mapResult (request : Nat) (response : Except String MapResult)
  | mapFeedback (requestId stage : String)
  | mapConnection
  | serviceResult (service : DockService) (commandId : String)
      (response : Except String ServiceResponse)
  | lidarResult (commandId : String) (response : Except String LidarResponse)
  | navigationContext (base : BaseState)
  | pathPoll
  | pathDone (query : PathQuery)
  | pathReply (query : PathQuery) (reply : PathReply)

namespace Executor

variable (config : ExecutorConfig) (answers : ClientAnswers)

/-! ### handle -/

/-- A measured seed belongs to `set_initial_pose` alone. -/
def invalidSeed (request : CommandRequest) : Bool :=
  request.seedProfile.isSome &&
    (request.command != .setInitialPose || request.seedProfile != some "measured")

/-- The map identity a destination or a pose has to name. -/
def mapRefusal (call : HandleCall) : Option String :=
  if call.request.command ∈ [Command.navigateToPose, .setInitialPose] then
    match call.request.goal with
    | none => some "Explicit map identity and revision required."
    | some goal =>
      if goal.mapId = "" ∨ goal.mapRevision = "" then
        some "Explicit map identity and revision required."
      else if call.request.command = .navigateToPose ∧
          (call.baseState.bind (·.mapId) ≠ some goal.mapId ∨
            call.baseState.bind (·.mapRevision) ≠ some goal.mapRevision) then
        some "Destination map differs from the active map."
      else none
  else none

/-- The gates of `handle` in front of the owner of the map, in order. -/
def lidarRefusal (s : Executor) (call : HandleCall) : Option String :=
  let command := call.request.command
  if s.lidarPending.isSome ∧ command ∉ [Command.stop, .motorEnable] then
    some "LiDAR power is pending or its outcome is unknown. Wait for its result."
  else if s.lidarRecoveryRequired ∧
      command ∈ [Command.navigateToPose, .setInitialPose, .undock, .chargeRelease] then
    some "LiDAR power recovery is required. Make a new explicit power request first."
  else match s.lidarCompleted with
    | none => mapRefusal call
    | some completed =>
      if command ∉ [Command.stop, .motorEnable] ∧
          (call.baseStateAge.any fun age =>
            !PyFloat.le (.finite answers.now) (age.add (.finite completed))) = false then
        some "Waiting for fresh LiDAR state after the power command."
      else mapRefusal call

/-- The gates in front of an ordinary command other than a stop on the map. -/
def refusal (s : Executor) (call : HandleCall) : Option String :=
  match s.lidarRefusal answers call with
  | some reason => some reason
  | none =>
    if s.mapActive.isSome then some "Map localization owns the robot; wait for its result."
    else precheck call.request.command call.request.goal.isSome call.baseState call.localized
      call.baseStateAge call.request.allowUnlocalized.truthy call.odomAge
      call.request.operatorAuthorized.truthy

variable {answers} in
theorem mapActive_of_refusal {s : Executor} {call : HandleCall}
    (h : s.refusal answers call = none) : s.mapActive = none := by
  unfold refusal at h
  split at h
  · simp at h
  · split at h
    · simp at h
    · rename_i hmap
      simpa using hmap

/-- A stop while the map localization owns the robot. -/
def stopMap (s : Executor) (commandId : String) : Executor × List ExecutorEmit :=
  let canceled := s.checkMapConnection answers true
  if (canceled.2.any fun emit => match emit with | .raised => true | _ => false) then canceled
  else (canceled.1, canceled.2 ++ [.ack commandId true none,
    .result commandId .succeeded (some "Map cancellation requested; motion remains held.")])

/-- The commands behind the gates. -/
def dispatch (s : Executor) (call : HandleCall) : Executor × List ExecutorEmit :=
  let request := call.request
  match request.command, request.goal with
  | .navigateToPose, some goal => s.navigate answers request.commandId goal call.currentYaw
  | .stop, _ => s.stop answers request.commandId
  | .setLidarPower, _ =>
    s.setLidarPower config answers request.commandId request.operatorAuthorized request.enabled
      call.baseState call.baseStateAge
  | .setInitialPose, some goal =>
    s.setInitialPose answers request.commandId goal request.operatorAuthorized.truthy
      (request.seedProfile == some "measured")
  | .undock, _ => s.undock config answers request.commandId request.operatorAuthorized.truthy
  | .chargeRelease, _ => s.callDockService config answers request.commandId .chargeRelease
  | .other text, _ => (s, [.ack request.commandId false (some ("Unknown command: " ++ text))])
  | _, _ => (s, [])

/-- The record of a suppressed localization gate. -/
def overrideLog (call : HandleCall) : List ExecutorEmit :=
  if call.request.allowUnlocalized.truthy ∧ call.request.operatorAuthorized.truthy ∧
      call.request.command = .navigateToPose ∧ call.localized = false then
    [.overridden call.request.commandId]
  else []

/-- A `cancel` or `cancel_map` of a command. -/
def cancelCommand (s : Executor) (commandId : String) (navigation : Bool) :
    Executor × List ExecutorEmit :=
  let mapped := if s.mapActive.any (·.commandId = commandId) then
    s.checkMapConnection answers true else (s, [])
  if navigation = false ∨
      (mapped.2.any fun emit => match emit with | .raised => true | _ => false) then mapped
  else andThen mapped fun s => s.cancelNavigation answers commandId

/-- `dock_reset`: only between operations. -/
def dockReset (s : Executor) (call : HandleCall) : Executor × List ExecutorEmit :=
  let commandId := call.request.commandId
  if call.request.operatorAuthorized.isTrue = false then
    (s, [.ack commandId false (some "Fault recovery requires operator authorization.")])
  else if s.active.isSome ∨ s.undockActive.isSome ∨ s.mapActive.isSome ∨
      call.baseState.any (·.undockActive) ∨ call.baseState.any (·.operationOutcomeUnknown) then
    (s, [.ack commandId false
      (some "Wait for a confirmed terminal operation before recovery.")])
  else s.callDockService config answers commandId .dockReset

/-- `motor_enable` and `motor_disable`. -/
def motorPower (s : Executor) (call : HandleCall) : Executor × List ExecutorEmit :=
  let commandId := call.request.commandId
  if call.request.operatorAuthorized.isTrue = false then
    (s, [.ack commandId false (some "Motor power requires operator authorization.")])
  else if call.request.command = .motorDisable then s.motorDisable config answers commandId
  else s.motorEnable config answers commandId

/-- The commands that pass through the LiDAR, map and base-state gates. -/
def gated (s : Executor) (call : HandleCall) : Executor × List ExecutorEmit :=
  let commandId := call.request.commandId
  match s.lidarRefusal answers call with
  | some reason => (s, [.ack commandId false (some reason)])
  | none =>
    if s.mapActive.isSome ∧ call.request.command = .stop then s.stopMap answers commandId
    else match s.refusal answers call with
      | some reason => (s, [.ack commandId false (some reason)])
      | none => andThen (s, overrideLog call) fun s => s.dispatch config answers call

/-- `handle`. -/
def handle (s : Executor) (call : HandleCall) : Executor × List ExecutorEmit :=
  let commandId := call.request.commandId
  if invalidSeed call.request then
    (s, [.ack commandId false (some "Invalid measured seed profile.")])
  else match call.request.command with
    | .unhashable => (s, [.raised])
    | .cancel => s.cancelCommand answers commandId true
    | .cancelMap => s.cancelCommand answers commandId false
    | .motorEnable => s.motorPower config answers call
    | .motorDisable => s.motorPower config answers call
    | .dockReset => s.dockReset config answers call
    | _ => s.gated config answers call

/-! ### Callbacks -/

/-- A callback that is owed an answer runs once. -/
def onGoalEvent (s : Executor) (number : Nat) (response : GoalResponse) :
    Executor × List ExecutorEmit :=
  match s.navRequests.find? (·.request = number) with
  | none => (s, [])
  | some request =>
    onGoalResponse answers { s with navRequests := s.navRequests.erase request } request response

def onUndockEvent (s : Executor) (number : Nat) (response : GoalResponse) :
    Executor × List ExecutorEmit :=
  match s.undockRequests.find? (·.request = number) with
  | none => (s, [])
  | some request =>
    onUndockResponse config answers
      { s with undockRequests := s.undockRequests.erase request } request response

def onCancelReply (s : Executor) (reply : CancelReply)
    (response : Except String CancelResponse) : Executor × List ExecutorEmit :=
  if reply ∈ s.cancelReplies then
    let s := { s with cancelReplies := s.cancelReplies.erase reply }
    match reply with
    | .navigation request => s.onNavigationCancelResponse request response
    | .stop commandId => s.onCancelResponse commandId response
  else (s, [])

/-- One event. -/
def step (s : Executor) : ExecutorEvent × ClientAnswers → Executor × List ExecutorEmit
  | (.handle call, answers) => s.handle config answers call
  | (.goalResponse request response, answers) => s.onGoalEvent answers request response
  | (.navigationResult request response, _) =>
    match s.navResults.find? (·.1 = request) with
    | none => (s, [])
    | some owed => onResult { s with navResults := s.navResults.erase owed } owed.2 response
  | (.cancelReply reply response, _) => s.onCancelReply reply response
  | (.navigationFeedback commandId request distance, answers) =>
    s.onFeedback answers commandId request distance
  | (.undockResponse request response, answers) => s.onUndockEvent config answers request response
  | (.undockResult request response, answers) =>
    match s.undockResults.find? (·.1 = request) with
    | none => (s, [])
    | some owed =>
      onUndockResult answers { s with undockResults := s.undockResults.erase owed } owed.2 response
  | (.undockFeedback commandId state hardwarePhase, answers) =>
    s.onUndockFeedback answers commandId state hardwarePhase
  | (.undockHealth, answers) => s.checkUndockHealth config answers
  | (.mapResponse request response, answers) =>
    if request ∈ s.mapRequests then
      onMapResponse answers { s with mapRequests := s.mapRequests.erase request } request response
    else (s, [])
  | (.mapResult request response, _) =>
    if request ∈ s.mapResults then
      onMapResult { s with mapResults := s.mapResults.erase request } request response
    else (s, [])
  | (.mapFeedback requestId stage, _) => s.onMapFeedback requestId stage
  | (.mapConnection, answers) => s.checkMapConnection answers false
  | (.serviceResult service commandId response, _) =>
    if (service, commandId) ∈ s.serviceCalls then
      onDockServiceResult { s with serviceCalls := s.serviceCalls.erase (service, commandId) }
        service commandId response
    else (s, [])
  | (.lidarResult commandId response, answers) =>
    if commandId ∈ s.lidarCalls then
      onLidarResult answers { s with lidarCalls := s.lidarCalls.erase commandId } commandId response
    else (s, [])
  | (.navigationContext base, _) => s.updateNavigationContext base
  | (.pathPoll, answers) => s.pollNavigationPath answers
  | (.pathDone query, _) =>
    ({ s with pathFuture := s.pathFuture.map fun future =>
      if future.1 = query then (query, true) else future }, [])
  | (.pathReply query reply, _) =>
    if query ∈ s.pathQueries then
      onNavigationPath config { s with pathQueries := s.pathQueries.erase query } query reply
    else (s, [])

end Executor

/-- The executor as a machine over events. -/
def commandExecutor (config : ExecutorConfig) :
    Machine Executor (ExecutorEvent × ClientAnswers) ExecutorEmit where
  step := Executor.step config

/-! ### A concrete robot -/

/-- A robot with every interface. -/
def fullRobot : ExecutorConfig where
  undock := ⟨"dock_1", 53 / 100, 1 / 10, false, 180,
    "(dock “dock_1”, 0.53 m at 0.10 m/s)"⟩
  dockInterfaces := true
  motorDisableInterface := true
  dockResetInterface := true
  lidarInterface := true
  drawPath := fun _ => ⟨[], none⟩

/-- Every server answers and no call raises. -/
def allReady : ClientAnswers where
  now := 10
  connected := true
  serverReady := fun _ => true
  sendRaises := fun _ => false
  cancelRaises := fun _ => false
  resultRaises := fun _ => false
  serviceReady := fun _ => true
  serviceRaises := false
  lidarReady := true
  lidarRaises := false
  pathReady := true
  error := ""

/-- A localized robot away from its dock, with fresh readings. -/
def readyBase : BaseState where
  linkConnected := true
  telemetryAge := .finite 0
  hardwareStateValid := true
  chargeState := "not_charging"
  motorsEnabled := true
  estopPressed := false
  faultFlags := 0
  bumpersValid := some true
  bumpersRear := false
  dockState := "CLEAR_CONFIRMED"
  dockStateValid := true
  undockActive := false
  undockProfileCommissioned := true
  operationOutcomeUnknown := false
  odomEpochValid := true
  localizationRecoveryRequired := false
  localizationRecoveryStage := ""
  localizationSeedStampNs := 1
  lidarState := "READY"
  lidarScanAge := .finite 0
  lidarPowerSupported := true
  sessionGeneration := 1
  mapId := some "lab"
  mapRevision := some "r1"
  mapActivatedStampNs := 1

/-- An authorized frame that reaches the ready robot. -/
def readyFrame (commandId : String) (command : Command) : ExecutorEvent × ClientAnswers :=
  (.handle ⟨⟨commandId, command, some ⟨"lab", "r1", some (.finite 1, .finite 2, none)⟩, none,
      .bool true, .null, .null⟩, some readyBase, none, true, some (.finite 0), some (.finite 0)⟩,
    allReady)

end PatrolBot
