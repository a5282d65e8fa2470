import PatrolBot.ExecutorState

/-!
# Navigation of the command executor

The methods of `CommandExecutor` that send a destination, take the answers of
the navigation server, cancel and stop, and follow the planned path.  Each
method is a function to the new state and the emits of the call, in order.
-/

namespace PatrolBot

namespace Executor

variable (config : ExecutorConfig) (answers : ClientAnswers)

/-- A method's result, followed by another method on the state it leaves. -/
def andThen (result : Executor × List ExecutorEmit)
    (method : Executor → Executor × List ExecutorEmit) : Executor × List ExecutorEmit :=
  ((method result.1).1, result.2 ++ (method result.1).2)

/-! ### The planned path -/

/-- The drawing of no path. -/
def noDrawing : PathDrawing := ⟨[], none⟩

/-- `_clear_navigation_path`. -/
def clearNavigationPath (s : Executor) : Executor × List ExecutorEmit :=
  match s.active with
  | none => (s, [])
  | some active =>
    ({ s with active := some { active with pathValid := false }, lastNavigationPath := none },
      [.path ⟨active.commandId, false, active.navigationContext.bind (·.mapId),
        active.navigationContext.bind (·.mapRevision), noDrawing⟩])

/-- `_poll_navigation_path`. -/
def pollNavigationPath (s : Executor) : Executor × List ExecutorEmit :=
  let ask (s : Executor) : Executor × List ExecutorEmit :=
    match s.active with
    | none => (s, [])
    | some active =>
      if active.pathBlocked then (s, [])
      else if answers.pathReady = false then
        if active.pathValid then s.clearNavigationPath else (s, [])
      else
        let query : PathQuery := ⟨s.nextRequest, active.request⟩
        ({ s with
            nextRequest := s.nextRequest + 1, pathSent := answers.now,
            pathFuture := some (query, false), pathQueries := query :: s.pathQueries },
          [.askPath active.request])
  match s.pathFuture with
  | some (query, false) =>
    if answers.now - s.pathSent ≤ 2 then (s, [])
    else
      -- A withdrawn request is never answered.
      let s := { s with pathFuture := none, pathQueries := s.pathQueries.erase query }
      andThen s.clearNavigationPath ask
  | _ => ask s

/-- Every coordinate of the path is finite. -/
def finitePath (path : NavPath) : Bool :=
  path.poses.all fun pose =>
    pose.position.1.isFinite && pose.position.2.1.isFinite && pose.position.2.2.isFinite &&
      pose.orientation.1.isFinite && pose.orientation.2.1.isFinite &&
      pose.orientation.2.2.1.isFinite && pose.orientation.2.2.2.isFinite

/-- The context `navigation_path` insists on: a named map and a recovered
    localization. -/
def usableContext (context : NavigationContext) : Bool :=
  (context.mapId.getD "") != "" && (context.mapRevision.getD "") != "" &&
    context.odomEpochValid && !context.localizationRecoveryRequired

/-- `navigation_path`, with the verdict it leaves in `path_valid`. -/
def navigationPath (s : Executor) (request : Nat) (path : NavPath) :
    Option (Bool × PathFrame) :=
  match s.active, s.navigationContext with
  | some active, some context =>
    if active.pathBlocked ∨ request ≠ active.request ∨
        active.navigationContext ≠ s.navigationContext ∨ usableContext context = false then none
    else
      let barrier := max context.mapActivatedStampNs context.localizationSeedStampNs
      let valid := !path.poses.isEmpty && path.frameId == "map" &&
        decide (barrier ≤ path.stamp) && decide (0 < barrier) && finitePath path
      let drawing := if valid then config.drawPath path else noDrawing
      some (valid, ⟨active.commandId, valid, context.mapId, context.mapRevision, drawing⟩)
  | _, _ => none

/-- `_on_navigation_path`. -/
def onNavigationPath (s : Executor) (query : PathQuery) (reply : PathReply) :
    Executor × List ExecutorEmit :=
  match s.active with
  | none => (s, [])
  | some active =>
    if active.request ≠ query.request ∨ s.pathFuture.map (·.1) ≠ some query then (s, [])
    else match reply with
      | .raised => s.clearNavigationPath
      | .inactive => s.clearNavigationPath
      | .planned path =>
        match s.navigationPath config active.request path with
        | none => (s, [])
        | some (valid, frame) =>
          let s := { s with active := some { active with pathValid := valid } }
          if s.lastNavigationPath = some frame then (s, [])
          else ({ s with lastNavigationPath := some frame }, [.path frame])

/-- `update_navigation_context`. -/
def updateNavigationContext (s : Executor) (base : BaseState) : Executor × List ExecutorEmit :=
  if s.navigationContext = some base.navigationContext then (s, [])
  else
    let s := { s with navigationContext := some base.navigationContext }
    match s.active with
    | none => (s, [])
    | some active =>
      clearNavigationPath { s with active := some { active with pathBlocked := true } }

/-! ### Cancelling -/

/-- `_on_navigation_cancel_response`, for the goal `request`.  The response is
    `none` when asking for it raised. -/
def onNavigationCancelResponse (s : Executor) (request : Nat)
    (response : Except String CancelResponse) : Executor × List ExecutorEmit :=
  match s.active with
  | none => (s, [])
  | some active =>
    if active.request ≠ request then (s, [])
    else
      let unconfirmed (error : String) : Executor × List ExecutorEmit :=
        ({ s with active := some { active with cancelPending := false } },
          [.progress active.commandId "stopping"
            (some ("Navigation did not confirm cancellation. It may still be moving; " ++
              "use Stop or the emergency stop." ++ if error = "" then "" else " " ++ error))
            false none])
      match response with
      | .ok response =>
        match cancelVerdict response with
        | .refused => unconfirmed ""
        -- Only the goal's terminal result closes the command.
        | _ => (s, [])
      | .error error => unconfirmed error

/-- The cancel mark on the slot that holds the command. -/
def markPending (s : Executor) (commandId : String) : Executor :=
  { s with navPending := s.navPending.map fun (pending : NavPending) =>
      if pending.commandId = commandId then { pending with cancel := true } else pending }

/-- `_cancel_navigation`. -/
def cancelNavigation (s : Executor) (commandId : String) : Executor × List ExecutorEmit :=
  let navigation (_ : Unit) : Executor × List ExecutorEmit :=
    let s := s.markPending commandId
    match s.active with
    | none => (s, [])
    | some active =>
      if active.commandId ≠ commandId ∨ active.cancelRequested then (s, [])
      else
        let cleared := clearNavigationPath { s with active := some { active with
          cancelRequested := true, cancelPending := true, pathBlocked := true } }
        let told : List ExecutorEmit := cleared.2 ++ [.progress commandId "stopping"
          (some "Waiting for navigation to stop.") false none, .cancelNavigation active.request]
        if answers.cancelRaises .navigation then
          andThen (cleared.1, told)
            fun s => s.onNavigationCancelResponse active.request (.error answers.error)
        else
          ({ cleared.1 with
              cancelReplies := .navigation active.request :: cleared.1.cancelReplies }, told)
  match s.undockActive with
  | some undock =>
    if undock.commandId = commandId then
      if undock.cancelRequested then (s, [])
      else
        let s := { s with undockActive := some { undock with cancelRequested := true } }
        if undock.accepted = false then (s, [])
        else if answers.cancelRaises .undock then
          (s, [.cancelUndock undock.request,
            .progress commandId "stopping"
              (some (s!"Undock could not be asked to stop: {answers.error}. " ++
                "Use Stop or the emergency stop.")) false none])
        else (s, [.cancelUndock undock.request])
    else navigation ()
  | none => navigation ()

/-! ### navigate_to_pose -/

/-- `_navigate`. -/
def navigate (s : Executor) (commandId : String) (goal : Goal) (currentYaw : Option PyFloat) :
    Executor × List ExecutorEmit :=
  if s.undockActive.isSome then
    (s, [.ack commandId false (some ("The robot is moving off its dock. Wait for that to " ++
      "finish before sending it somewhere."))])
  else if answers.serverReady .navigation = false then
    (s, [.ack commandId false (some "The robot's navigation system is not running.")])
  else match goal.pose with
    | none => (s, [.raised])
    | some (x, y, yaw) =>
      let yaw := yaw.getD (currentYaw.getD (.finite 0))
      andThen s.clearNavigationPath fun s =>
        let request := s.nextRequest
        let s := { s with
          nextRequest := request + 1
          navigationGeneration := s.navigationGeneration + 1
          navPending := some { commandId := commandId, request := request } }
        if answers.sendRaises .navigation then
          (s, [.sendNavigation request x y yaw, .raised])
        else
          ({ s with navRequests := ⟨request, commandId, s.motorDisableGeneration,
              s.navigationContext, s.navigationGeneration⟩ :: s.navRequests },
            [.sendNavigation request x y yaw])

/-- The slot, when it holds the command the response is for. -/
def pendingFor (s : Executor) (commandId : String) : Option NavPending :=
  s.navPending.filter fun pending => pending.commandId = commandId

/-- The slot after a response that clears it. -/
def clearPending (s : Executor) (commandId : String) : Executor :=
  if (s.pendingFor commandId).isSome then { s with navPending := none } else s

/-- A goal that was accepted but is no longer wanted. -/
def dropGoal (s : Executor) (request : NavRequest) (reason : String) :
    Executor × List ExecutorEmit :=
  if answers.cancelRaises .navigation then (s, [.cancelNavigation request.request, .raised])
  else (s, [.cancelNavigation request.request, .ack request.commandId false (some reason)])

/-- What an accepted goal closes: the goal it replaces and the stops that wait
    on it. -/
def replaceActive (s : Executor) : List ExecutorEmit :=
  match s.active with
  | none => []
  | some active =>
    .result active.commandId .canceled (some "A newer destination replaced this one.") ::
      active.stopCommandIds.map fun stop => .result stop .failed
        (some ("A new destination replaced the goal being stopped. The robot is moving again — " ++
          "use the emergency stop on the robot."))

/-- The last part of `_on_goal_response`: the accepted goal becomes the active
    one. -/
def adoptGoal (s : Executor) (request : NavRequest) : Executor × List ExecutorEmit :=
  let marked := (s.pendingFor request.commandId).any (·.cancel)
  let adopted : Executor := { s.clearPending request.commandId with
    active := some { commandId := request.commandId, request := request.request,
                     navigationContext := s.navigationContext }
    lastProgress := 0 }
  andThen (adopted, s.replaceActive ++ [.ack request.commandId true none]) fun s =>
    andThen s.clearNavigationPath fun s =>
      if answers.resultRaises .navigation then (s, [.raised])
      else
        let s := { s with navResults := (request.request, request.commandId) :: s.navResults }
        if marked then s.cancelNavigation answers request.commandId else (s, [])

/-- `_on_goal_response`. -/
def onGoalResponse (s : Executor) (request : NavRequest) (response : GoalResponse) :
    Executor × List ExecutorEmit :=
  match response with
  | .raised error =>
    (s, [.ack request.commandId false (some ("Navigation refused the request: " ++ error))])
  | .declined =>
    (s.clearPending request.commandId,
      [.ack request.commandId false (some "Navigation declined the destination.")])
  | .accepted =>
    if request.generation ≠ s.motorDisableGeneration then
      s.dropGoal answers request "Destination canceled by motor disable."
    else if request.navigationGeneration ≠ s.navigationGeneration then
      s.dropGoal answers request "A newer destination replaced this request."
    else if request.context.isSome ∧ request.context ≠ s.navigationContext then
      s.dropGoal answers request "Destination canceled because the robot context changed."
    else s.adoptGoal answers request

/-- `_on_feedback`. -/
def onFeedback (s : Executor) (commandId : String) (request : Nat)
    (distance : Option PyFloat) : Executor × List ExecutorEmit :=
  match s.active with
  | none => (s, [])
  | some active =>
    if active.commandId ≠ commandId ∨ active.request ≠ request then (s, [])
    else if answers.now - s.lastProgress < 1 then (s, [])
    else
      let near := distance.any fun d => d.isFinite && PyFloat.le (.finite 0) d
      let valid := !active.cancelRequested && active.pathValid && near
      let stage := if active.cancelRequested then "stopping"
        else if valid then "navigating" else "planning"
      let detail := if active.cancelRequested then "Waiting for navigation to stop"
        else if valid then "Heading to the destination"
        else "Planning a path to the destination"
      ({ s with lastProgress := answers.now },
        [.progress commandId stage (some detail) valid (if valid then distance else none)])

/-- The sentence of a navigation result. -/
def resultDetail (result : NavigationResult) : String :=
  match mapGoalStatus result.status with
  | .succeeded => "Arrived at the destination."
  | .canceled => "Navigation was canceled."
  | _ =>
    let code := match result.errorCode with
      | some code => if code = 0 then "" else s!" Navigation error {code}."
      | none => ""
    let message := strip result.errorMessage
    "The robot could not reach the destination." ++ code ++
      if message = "" then "" else " " ++ message

/-- `_on_result`. -/
def onResult (s : Executor) (commandId : String) (response : Except String NavigationResult) :
    Executor × List ExecutorEmit :=
  match s.active with
  | none => (s, [])
  | some active =>
    if active.commandId ≠ commandId then (s, [])
    else
      let cleared := s.clearNavigationPath
      let outcome := match response with
        | .ok result => mapGoalStatus result.status
        | .error _ => .failed
      let closing : ExecutorEmit := match response with
        | .ok result => .result commandId outcome (some (resultDetail result)) result.errorCode
          (if strip result.errorMessage = "" then none else some (strip result.errorMessage))
        | .error error =>
          .result commandId .failed (some ("Navigation ended abnormally: " ++ error))
      ({ cleared.1 with active := none },
        cleared.2 ++ closing :: active.stopCommandIds.map fun stop =>
          .result stop (stopResult outcome).1 (some (stopResult outcome).2))

/-! ### stop -/

/-- `_claim_stop`: the state without the waiting stop, if some goal has it. -/
def claimStop (s : Executor) (commandId : String) : Option Executor :=
  match s.active, s.undockActive with
  | some active, undock =>
    if commandId ∈ active.stopCommandIds then
      some { s with active := some { active with
        stopCommandIds := active.stopCommandIds.erase commandId } }
    else undock.bind fun undock =>
      if commandId ∈ undock.stopCommandIds then
        some { s with undockActive := some { undock with
          stopCommandIds := undock.stopCommandIds.erase commandId } }
      else none
  | none, some undock =>
    if commandId ∈ undock.stopCommandIds then
      some { s with undockActive := some { undock with
        stopCommandIds := undock.stopCommandIds.erase commandId } }
    else none
  | none, none => none

/-- `_fail_stop`. -/
def failStop (s : Executor) (commandId detail : String) : Executor × List ExecutorEmit :=
  match s.claimStop commandId with
  | none => (s, [])
  | some s => (s, [.result commandId .failed
      (some (detail ++ " It may still be moving — use the emergency stop on the robot."))])

/-- `_on_cancel_response`. -/
def onCancelResponse (s : Executor) (commandId : String)
    (response : Except String CancelResponse) : Executor × List ExecutorEmit :=
  match response with
  | .error error =>
    s.failStop commandId s!"The robot did not answer the stop request: {error}."
  | .ok response =>
    match cancelVerdict response with
    -- Reported once the goal reaches a terminal state.
    | .canceling => (s, [])
    | .finished =>
      match s.claimStop commandId with
      | some s => (s, [.result commandId .succeeded (some "The robot had already stopped.")])
      | none => (s, [])
    | .refused => s.failStop commandId "The robot refused the stop request."

/-- The last part of `_stop`: the cancel request of a goal. -/
def askToStop (s : Executor) (commandId : String) (kind : ActionKind) (cancel : ExecutorEmit) :
    Executor × List ExecutorEmit :=
  if answers.cancelRaises kind then
    andThen (s, [cancel])
      fun s => s.failStop commandId s!"The robot could not be asked to stop: {answers.error}."
  else ({ s with cancelReplies := .stop commandId :: s.cancelReplies }, [cancel])

/-- `_stop`: an undock in progress is the thing to stop, otherwise the goal. -/
def stop (s : Executor) (commandId : String) : Executor × List ExecutorEmit :=
  andThen (s, [.ack commandId true none]) fun s =>
    match s.undockActive, s.active with
    | some undock, _ =>
      let already := !undock.stopCommandIds.isEmpty
      let s := { s with undockActive := some { undock with
        cancelRequested := true, stopCommandIds := undock.stopCommandIds ++ [commandId] } }
      -- An undock whose acceptance has not arrived is cancelled by its response.
      if undock.accepted = false ∨ already then (s, [])
      else s.askToStop answers commandId .undock (.cancelUndock undock.request)
    | none, some active =>
      let already := !active.stopCommandIds.isEmpty || active.cancelPending
      andThen (clearNavigationPath { s with active := some { active with
          cancelRequested := true, pathBlocked := true,
          stopCommandIds := active.stopCommandIds ++ [commandId] } }) fun s =>
        if already then (s, [])
        else s.askToStop answers commandId .navigation (.cancelNavigation active.request)
    | none, none =>
      (s, [.result commandId .succeeded (some "The robot was not navigating.")])

end Executor

end PatrolBot
