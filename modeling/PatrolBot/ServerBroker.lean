import PatrolBot.ServerState

/-!
# The command broker's coroutines

`CommandBroker` of `broker.py` and the parts of `TeleopController` it runs.
An ended `revoke` may itself request a `teleop_stop`; that request revokes
without requesting another one, so `handle` takes the `revoke` it uses as an
argument and is tied to it twice.  What lies outside (the gates over telemetry,
the rate limit, clocks, the driver of the database) is asked for through
`Answer`.  `asyncio.wait_for` awaits in the calling task, as it does from
Python 3.12 on.
-/

namespace PatrolBot.Server

open Coroutine Coroutine.Prog

/-- What becomes of a statement handed to the database: it takes effect in the
    order of the calls, or it raises, without or in spite of its effect. -/
inductive StatementFate where
  | done
  | lost
  | late
deriving DecidableEq

/-- What the surroundings answer where a handler asks them. -/
structure Answer where
  statement : StatementFate := .done
  /-- `RateLimiter.allow`. -/
  rateAllows : Bool := true
  /-- The revision of a map in the catalog `hub.maps`. -/
  mapRevision : String → Option String := fun _ => none
  outsideMap : Bool := false
  mapCapable : Bool := true
  /-- The map of the robot's base state. -/
  activeMap : Option (String × String) := none
  lidarStateFresh : Bool := true
  /-- `gates.rejection_reason`. -/
  gate : Option String := none
  /-- `gates.teleop_reason` over the slices other than the base state's existence. -/
  teleopReason : Option String := none
  /-- The base state was received on this connection. -/
  freshReadings : Bool := true
  /-- `_resolve_policy` and `_policy_problem`. -/
  policyReason : Option String := none
  policyProblem : Option String := none
  overPolicy : Bool := false
  /-- The envelope's timestamp is not too old. -/
  stampFresh : Bool := true
  frameBudget : Bool := true
  /-- The producer watchdog's deadline has passed. -/
  expired : Bool := false
  uuid : String := ""
  /-- Severity, title and message of the events a frame or a transition gives rise to. -/
  events : List (String × String × String) := []
  /-- `time.monotonic()`. -/
  now : ℚ := 0
  onlineThreshold : ℚ := 3
  offlineThreshold : ℚ := 10
  /-- The robot has sent a pose. -/
  hasPose : Bool := false

/-- Where a handler is suspended. -/
inductive Await where
  | admission (robotId : String)
  | sendLock (owner : Nat) (frame : Velocity)
  | lookup (commandId : String)
  | statement (fails : Bool)
  | socket
deriving DecidableEq

abbrev Handler (α : Type) := Prog Dashboard Answer Await α

def publish (p : Publication) : Handler Unit := modify (·.publish p)

def publishReply (robotId : String) (payload : RobotReply) : Handler Unit :=
  publish (.reply robotId payload)

/-- Hand a statement to the database and await it. -/
def execute (statement : Dashboard → Dashboard) : Handler Unit := do
  let a ← answer
  match a.statement with
  | .done => do
    modify statement
    wait (.statement false)
  | .lost => wait (.statement true)
  | .late => do
    modify statement
    wait (.statement true)

/-- `with contextlib.suppress(Exception)`. -/
def suppress (p : Handler Unit) : Handler Unit :=
  p.tryCatch fun
    | .exception => ret ()
    | .cancelled => raise .cancelled

/-- `emit_event`. -/
def emitEvent (robotId severity title message : String) (closes : Option Nat) : Handler Unit := do
  publish (.event robotId severity title message closes)
  execute id

/-- `_reject_audited`. -/
def rejectAudited (client : BrowserClient) (robotId commandId command reason : String) :
    Handler Unit := do
  execute fun s => s.insertAudit commandId
    (s.auditRow client robotId command (some .rejected) (some reason))
  publishReply robotId (.ack commandId false (some reason))

/-! ### Close-out -/

/-- `ActiveCommand.cancel_timers`. -/
def cancelTimers (timers : List Timer) (refs : List Nat) : List Timer :=
  timers.zipIdx.map fun (timer, i) => if i ∈ refs then { timer with cancelled := true } else timer

/-- The synchronous part of `_finish`; the task `t` now closes the command. -/
def popActive (t e : Nat) (outcome : Outcome) (s : Dashboard) : Dashboard :=
  let entry := s.entry e
  { s with
    active := dictPop s.active entry.commandId
    resetPending := if entry.command = .softwareReset then
      Function.update s.resetPending entry.robotId none else s.resetPending
    lidarPending := if entry.command = .setLidarPower then
      Function.update s.lidarPending entry.robotId none else s.lidarPending
    timers := cancelTimers s.timers entry.timers
    closed := s.closed ++ [(e, outcome)]
    closing := s.closing ++ [(e, t)] }

/-- `_finish`. -/
def finish (t e : Nat) (outcome : Outcome) (detail : String) : Handler Unit := do
  let s ← read
  let entry := s.entry e
  if s.isActive entry.commandId then do
    modify (popActive t e outcome)
    execute (·.completeAudit entry.commandId outcome detail)
    let s ← read
    given ((s.robots entry.robotId).isSome ∧ outcome ≠ .succeeded) do
      emitEvent entry.robotId (if outcome = .canceled then "info" else "warning")
        entry.command.label
        (if detail = "" then "The command did not complete (" ++ outcome.name ++ ")." else detail)
        (some e)
    modify fun s => { s with closing := s.closing.filter (· ≠ (e, t)) }

/-- The phase of a manual session whose command has an unknown outcome. -/
def forgetOwner (robotId : String) (s : Dashboard) : Dashboard :=
  match s.owners.lookup robotId with
  | some o => s.setPhase o .unknown
  | none => s

/-- `_mark_uncertain`. -/
def markUncertain (e : Nat) (detail : String) : Handler Unit := do
  let s ← read
  let entry := s.entry e
  if s.isActive entry.commandId then do
    modify fun s => s.setEntry e { s.entry e with uncertain := true }
    given entry.command.manual (modify (forgetOwner entry.robotId))
    publishReply entry.robotId (.result entry.commandId .timeout (some detail))
    execute (·.completeAudit entry.commandId .timeout detail)

/-- `_cancel_map`. -/
def cancelMap (e : Nat) : Handler Unit := do
  let s ← read
  let entry := s.entry e
  if entry.command = .setInitialPose then
    match (s.robots entry.robotId).bind fun ref => (s.session ref).websocket with
    | some websocket => suppress do
      modify (·.write ⟨entry.robotId, websocket, .cancel entry.commandId⟩)
      wait .socket
    | none => ret ()

/-- `_close_out`. -/
def closeOut (t e : Nat) (outcome : Outcome) (detail : String) : Handler Unit := do
  let s ← read
  let entry := s.entry e
  if s.isActive entry.commandId then
    if entry.command = .setLidarPower then
      markUncertain e "LiDAR power outcome is unknown. Wait for the robot result; do not retry."
    else do
      cancelMap e
      publishReply entry.robotId (.result entry.commandId outcome (some detail))
      finish t e outcome detail

/-! ### Manual input -/

/-- `async with owner.send_lock`, up to its body. -/
def acquireSendLock (t o : Nat) (frame : Velocity) : Handler Unit := do
  let s ← read
  let lock := (s.owner o).sendLock
  if lock.free then modify fun s => s.setSendLock o (lock.enter t)
  else do
    modify fun s => s.setSendLock o (lock.queue t frame)
    (wait (.sendLock o frame)).tryCatch fun x => do
      modify fun s => s.setSendLock o ((s.owner o).sendLock.leave t)
      raise x
    modify fun s => s.setSendLock o ((s.owner o).sendLock.take t)

/-- The body of `bounded_send`. -/
def checkedSend (o : Nat) (frame : Velocity) : Handler Bool := do
  let s ← read
  let owner := s.owner o
  if ¬s.bound o ∨ (frame.deadman ∧ (owner.phase ≠ .active ∨ ¬s.ownsLease o)) then ret false
  else do
    modify (·.write ⟨owner.robotId, owner.websocket, .velocity o frame⟩)
    wait .socket
    let s ← read
    ret (s.bound o)

/-- `send`. -/
def send (t o : Nat) (frame : Velocity) : Handler Bool :=
  (do
    acquireSendLock t o frame
    (checkedSend o frame).andFinally
      (modify fun s => s.setSendLock o (s.owner o).sendLock.release)).tryCatch fun
    | .exception => ret false
    | .cancelled => raise .cancelled

/-- The zero that `revoke` sends. -/
def zeroFrame (owner : ManualOwner) : Velocity :=
  ⟨owner.commandId, owner.seq + 1, 0, 0, false⟩

/-- `self.revisions[robot_id] = self.revisions.get(robot_id, 0) + 1`. -/
def bumpRevision (robotId : String) (s : Dashboard) : Dashboard :=
  { s with revisions := Function.update s.revisions robotId (s.revisions robotId + 1) }

/-- `revoke` without its `teleop_stop` (`issue_stop=False`); the owner it ended, if any. -/
def endInput (t : Nat) (robotId : String) (zeroSent : Bool) : Handler (Option Nat) := do
  modify (bumpRevision robotId)
  let s ← read
  match s.owners.lookup robotId with
  | none => ret none
  | some o => do
    let owner := s.owner o
    given (owner.phase ≠ .unknown) (modify (·.setPhase o .closing))
    given (owner.phase.live ∧ ¬zeroSent) do
      let sent ← send t o (zeroFrame owner)
      given (¬sent) (modify (·.setPhase o .unknown))
    ret (some o)

/-- The `teleop_stop` of `revoke`, requested through `request`. -/
def issueStop (request : BrowserClient → String → CommandRequest → Handler Unit) (robotId : String)
    (o : Nat) : Handler Unit := do
  let s ← read
  if ¬(s.owner o).stopIssued then do
    modify fun s => s.setOwner o { s.owner o with stopIssued := true }
    if s.bound o then do
      let a ← answer
      request (s.owner o).client robotId { commandId := a.uuid, command := .teleopStop }
    else modify (·.setPhase o .unknown)

/-- `gates.teleop_reason` for the state of a robot. -/
def teleopReason (s : State) (a : Answer) (robotId : String) : Option String :=
  match a.teleopReason, s.baseGeneration robotId with
  | some reason, _ => some reason
  | none, none => some "Manual drive requires fresh hardware readings."
  | none, some _ => none

/-- `prepare`. -/
def prepare (client : BrowserClient) (robotId : String) (session websocket : Nat)
    (commandId : String) (a : Answer) (s : Dashboard) : Except String Dashboard :=
  if (s.owners.lookup robotId).isSome then
    .error ("Manual drive is active, ending, or its outcome is unknown. " ++
      "Stop it and wait for the robot result.")
  else match s.active.find? fun p => (s.entry p.2).robotId = robotId with
  | some p =>
    if (s.entry p.2).command.goalRequired then .error "Stop navigation before manual drive."
    else .error
      "Stop the active robot operation and wait for its result before manual drive."
  | none =>
    match teleopReason s.toState a robotId, s.baseGeneration robotId with
    | some reason, _ => .error reason
    | none, none => .error "Manual drive requires fresh hardware readings."
    | none, some baseGeneration =>
      if ¬a.freshReadings then
        .error "Wait for fresh hardware readings from this robot connection."
      else match a.policyReason with
      | some reason => .error reason
      | none => .ok { s with
          owner := Function.update s.owner s.ownerCount {
            commandId, client, robotId, session, websocket, baseGeneration
            generation := (s.session session).generation }
          ownerCount := s.ownerCount + 1
          owners := dictSet s.owners robotId s.ownerCount }

/-- `stop_pending`. -/
def stopPending (robotId commandId : String) (s : Dashboard) : Dashboard :=
  match s.owners.lookup robotId with
  | none => s
  | some o =>
    let owner := s.owner o
    s.setOwner o { owner with
      stopIds := if commandId ∈ owner.stopIds then owner.stopIds else commandId :: owner.stopIds
      stopIssued := true }

/-- `self.owners.pop(robot_id, None)`. -/
def disown (robotId : String) (s : Dashboard) : Dashboard :=
  { s with owners := dictPop s.owners robotId }

/-- `terminal`. -/
def terminal (e : Nat) : Handler Unit := do
  let s ← read
  let entry := s.entry e
  match s.owners.lookup entry.robotId with
  | none => ret ()
  | some o => do
    given (entry.commandId = (s.owner o).commandId) do
      modify (bumpRevision entry.robotId)
      modify fun s => s.setOwner o { s.owner o with startTerminal := true, phase := .closing }
    modify fun s => s.setOwner o { s.owner o with
      stopIds := (s.owner o).stopIds.filter (· ≠ entry.commandId) }
    let s ← read
    given ((s.owner o).startTerminal ∧ (s.owner o).stopIds = [])
      (modify (disown entry.robotId))

/-! ### Browser requests -/

/-- A request on its way through admission, with the revision it was received at. -/
structure Incoming where
  client : BrowserClient
  robotId : String
  payload : CommandRequest
  revision : Nat

namespace Incoming

variable (t : Nat) (revoke : String → Bool → Handler Unit) (r : Incoming)

def reject (reason : String) : Handler Unit :=
  rejectAudited r.client r.robotId r.payload.commandId r.payload.command.name reason

/-- The `ActiveCommand` of the request, `active[command_id]`, and the barriers.
    A `teleop_start`, which may still be taken back, sets no barrier. -/
def register (session : Nat) (s : Dashboard) : Dashboard :=
  { s with
    entry := Function.update s.entry s.entries {
      commandId := r.payload.commandId, command := r.payload.command, robotId := r.robotId
      initiator := r.client, robotSession := session
      robotWebsocket := (s.session session).websocket }
    entries := s.entries + 1
    active := dictSet s.active r.payload.commandId s.entries
    resetPending := if r.payload.command = .softwareReset then
      Function.update s.resetPending r.robotId (some r.payload.commandId) else s.resetPending
    lidarPending := if r.payload.command = .setLidarPower then
      Function.update s.lidarPending r.robotId (some r.payload.commandId) else s.lidarPending }

/-- The two timer tasks of a registered command. -/
def createTimers (e : Nat) (s : Dashboard) : Dashboard :=
  let n := s.timers.length
  let created : List Timer := [{ kind := .ack, entry := e }, { kind := .result, entry := e }]
  { s with timers := s.timers ++ created }.setEntry e { s.entry e with timers := [n, n + 1] }

/-- The frame that is forwarded; authorization is stamped by the server. -/
def frame (websocket : Nat) : Frame :=
  ⟨r.robotId, websocket, .request { r.payload with operatorAuthorized := true }⟩

/-- Hand the frame to the robot's socket: to the one the command was registered
    with, or, if it is no manual command, to the one of the session. -/
def transmit (session e : Nat) : Handler Unit := do
  let s ← read
  let socket := if r.payload.command.manual then (s.entry e).robotWebsocket
    else (s.session session).websocket
  match socket with
  | none => raise .exception
  | some websocket => do
    modify fun s => s.forward t (r.frame websocket) r.payload
    wait .socket
    let s ← read
    if r.payload.command.manual ∧ ((s.session session).websocket ≠ some websocket ∨
        s.robots r.robotId ≠ some session) then
      raise .exception

/-- The socket died between the check and the send. -/
def sendFailed (e : Nat) : Handler Unit :=
  match r.payload.command with
  | .teleopStart | .teleopStop => do
    revoke r.robotId false
    markUncertain e ("Manual publication outcome unknown; no physical stop is confirmed. " ++
      "Wait for the robot result or explicitly reset.")
  | .setLidarPower => markUncertain e ("LiDAR power outcome is unknown after the connection " ++
      "dropped. Wait for its result; do not retry.")
  | .softwareReset => markUncertain e ("The robot connection dropped while sending. The reset " ++
      "outcome is unknown; confirm a new reset to try again.")
  | _ => closeOut t e .failed "The robot connection dropped while sending."

def forward (session e : Nat) : Handler Unit := do
  given (r.payload.command = .teleopStop) (modify (stopPending r.robotId r.payload.commandId))
  modify (createTimers e)
  let sent ← (transmit t r session e >>= fun _ => ret true).tryCatch fun
    | .exception => do
      sendFailed t revoke r e
      ret false
    | .cancelled => raise .cancelled
  given sent do
    emitEvent r.robotId "info" r.payload.command.label "Command sent to the robot." none

/-- The manual session of a `teleop_start` was ended before its publication. -/
def inputEnded (s : State) (a : Answer) : Bool :=
  match s.owners.lookup r.robotId with
  | none => true
  | some o =>
    decide ((s.owner o).commandId ≠ r.payload.commandId) ||
      decide ((s.owner o).phase ≠ .pending) || decide (r.revision ≠ s.revisions r.robotId) ||
      !s.bound o || !s.ownsLease o || (teleopReason s a r.robotId).isSome

def publishCommand (session : Nat) : Handler Unit := do
  let s ← read
  let e := s.entries
  modify (r.register session)
  let s ← read
  let a ← answer
  if r.payload.command = .teleopStart ∧ r.inputEnded s.toState a then do
    terminal e
    publishReply r.robotId (.ack r.payload.commandId false
      (some "Manual input canceled before publication."))
    finish t e .canceled "Manual input canceled before publication."
  else forward t revoke r session e

/-- An explicit reset retires the robot's other commands. -/
def retire (robotId : String) : List Nat → Handler Unit
  | [] => ret ()
  | e :: es => do
    let s ← read
    let old := s.entry e
    given (old.robotId = robotId) do
      given (old.command = .setLidarPower) do
        modify fun s => { s with
          lidarRecoveryRequired := Function.update s.lidarRecoveryRequired robotId true }
      finish t e (if old.uncertain then .timeout else .canceled)
        (if old.uncertain then
          "Previous outcome unknown; superseded by an explicit software reset."
        else "Superseded by an explicit software reset; this command will not resume.")
    retire robotId es

/-- The audit row of an admitted command. -/
def admitRow (s : Dashboard) : Dashboard :=
  let s := s.insertAudit r.payload.commandId
    (s.auditRow r.client r.robotId r.payload.command.name none none)
  { s with admitted := s.admitted ++ [(r.payload.commandId, t)] }

def audit (session : Nat) : Handler Unit := do
  execute (r.admitRow t)
  given (r.payload.command = .softwareReset) do
    modify (disown r.robotId)
    let s ← read
    retire t r.robotId (s.active.map Prod.snd)
  publishCommand t revoke r session

/-- The session check and `prepare` of a `teleop_start`. -/
def prepareStart (session websocket : Nat) : Handler Unit :=
  if r.payload.command = .teleopStart then do
    let s ← read
    let a ← answer
    if r.revision ≠ s.revisions r.robotId then
      r.reject "Manual input was canceled during admission. Start again explicitly."
    else match prepare r.client r.robotId session websocket r.payload.commandId a s with
    | .error reason => r.reject reason
    | .ok s => do
      modify fun _ => s
      audit t revoke r session
  else audit t revoke r session

/-- `_validate_robot_state`. -/
def validateRobotState (s : State) (a : Answer) : Option String :=
  let command := r.payload.command
  if ¬command.gated then none
  else if s.lidarRecoveryRequired r.robotId ∧ command.needsLidar then
    some ("LiDAR power recovery is required. " ++
      "Make a new explicit power request before commanding the robot.")
  else if s.lidarStateAfter r.robotId ∧ command ≠ .softwareReset ∧ command ≠ .motorDisable ∧
      command ≠ .motorEnable ∧ ¬a.lidarStateFresh then
    some "Waiting for fresh LiDAR state after the power command."
  else if command = .teleopStart then none
  else a.gate

/-- `_validate_goal` and the catalog check, for the commands that need a goal. -/
def validateGoal (a : Answer) : Option String :=
  if ¬r.payload.command.goalRequired then none
  else match r.payload.goal with
  | none => some "This command needs a destination."
  | some goal =>
    if a.mapRevision goal.mapId ≠ some goal.mapRevision then
      some ("Map context is required and must match the catalog. " ++
        "Refresh and select a new position.")
    else if ¬(goal.x.isFinite ∧ goal.y.isFinite) then
      some "The destination coordinates are invalid."
    else if goal.yaw.any fun yaw => !yaw.isFinite then some "The destination heading is invalid."
    else if a.outsideMap then some "That destination is outside the known map."
    else none

/-- The map checks against the robot's state. -/
def validateMap (a : Answer) : Option String :=
  if ¬r.payload.command.goalRequired then none
  else if ¬a.mapCapable then
    some "The robot does not support map-aware localization. Update its bridge first."
  else if r.payload.command = .navigateToPose ∧
      a.activeMap ≠ r.payload.goal.map fun goal => (goal.mapId, goal.mapRevision) then
    some "Destination map differs from the robot active map."
  else none

/-- The checks between duplicate protection and the audit. -/
def validate : Handler Unit := do
  modify (·.remember r.payload.commandId)
  let s ← read
  let a ← answer
  match r.validateGoal a with
  | some reason => r.reject reason
  | none =>
    match (s.robots r.robotId).bind fun ref =>
        (s.session ref).websocket.map fun websocket => (ref, websocket) with
    | none => r.reject "The robot is not connected right now — try again once it is online."
    | some (session, websocket) =>
      if (s.robotState r.robotId).connection ≠ .online then
        r.reject "The robot is not connected right now — try again once it is online."
      else match r.validateMap a with
      | some reason => r.reject reason
      | none => match r.validateRobotState s.toState a with
        | some reason => r.reject reason
        | none => prepareStart t revoke r session websocket

/-- `command_recorded`, which takes effect in the order of the calls. -/
def commandRecorded (commandId : String) : Handler Bool := do
  let s ← read
  let found := s.recorded commandId
  modify fun s => { s with lookups := s.lookups ++ [(t, commandId, found)] }
  (wait (.lookup commandId)).andFinally
    (modify fun s => { s with lookups := s.lookups.filter (·.1 ≠ t) })
  ret found

/-- Duplicate protection. -/
def protect : Handler Unit := do
  let s ← read
  if s.seen.contains r.payload.commandId then r.reject "Duplicate command — already received."
  else do
    let found ← commandRecorded t r.payload.commandId
    if found then r.reject "Duplicate command — already received."
    else validate t revoke r

/-- The single-operator lease. -/
def takeLease (user : User) : Handler Unit :=
  if r.payload.command.emergency then protect t revoke r
  else do
    let s ← read
    if ¬s.canCommand r.robotId user ∧ ¬r.payload.takeover then
      r.reject (((s.holders r.robotId).map (·.username)).getD "another operator" ++
        " is currently in control of the robot. Take over to send commands.")
    else do
      modify fun s => { s with
        holders := Function.update s.holders r.robotId (some ⟨user.id, user.username, r.client⟩) }
      protect t revoke r

def limitRate (user : User) : Handler Unit := do
  let a ← answer
  if ¬r.payload.command.emergency ∧ ¬a.rateAllows then
    r.reject "Too many commands too quickly — wait a moment and try again."
  else takeLease t revoke r user

/-- Manual input ends before any await on audit, rate or lease. -/
def endManual (user : User) : Handler Unit := do
  let s ← read
  if r.payload.command.emergency then do
    revoke r.robotId (r.payload.command ≠ .teleopStop)
    limitRate t revoke r user
  else if r.payload.command ≠ .teleopStart ∧ (s.owners.lookup r.robotId).isSome then do
    revoke r.robotId true
    r.reject ("Manual drive is ending or its outcome is unknown. " ++
      "Wait for the robot terminal result before another operation.")
  else limitRate t revoke r user

/-- `pending_reset`, as its truth value is taken. -/
def pendingReset (s : State) : Option String := (s.resetPending r.robotId).filter (· ≠ "")

/-- The reset whose outcome is unknown may be superseded by an explicit reset. -/
def explicitRetry (s : State) : Bool :=
  decide (r.payload.command = .softwareReset) &&
    ((r.pendingReset s).bind fun id => s.active.lookup id).any fun e => (s.entry e).uncertain

/-- `_handle_browser_request`. -/
def handle : Handler Unit := do
  let s ← read
  match r.client.user with
  | none => r.reject "Your account has read-only access — you cannot send robot commands."
  | some user =>
    if ¬user.canCommand then
      r.reject "Your account has read-only access — you cannot send robot commands."
    else if r.payload.command = .teleopStart ∧ (s.owners.lookup r.robotId).isSome then do
      given r.payload.takeover (revoke r.robotId true)
      r.reject ("Manual drive is active, ending, or its outcome is unknown. " ++
        "Stop it and wait for the robot result.")
    else if (s.lidarPending r.robotId).isSome ∧
        ¬r.payload.command.allowedWhileLidarPending then
      r.reject ("LiDAR power is pending or its outcome is unknown. " ++
        "Wait for the robot result before sending another command.")
    else if (r.pendingReset s.toState).isSome ∧ ¬r.payload.command.endsInput ∧
        ¬r.explicitRetry s.toState then
      r.reject ("A software reset is still pending or its outcome is unknown. " ++
        "Wait for the robot supervisor to report its result before sending another command.")
    else endManual t revoke r user

end Incoming

/-- The `teleop_stop` that `revoke` requests.  It passes the admission lock,
    and all its own calls of `revoke` have `issue_stop=False`. -/
def requestStop (t : Nat) (client : BrowserClient) (robotId : String) (payload : CommandRequest) :
    Handler Unit := do
  let s ← read
  Incoming.handle t (fun robotId _ => endInput t robotId false >>= fun _ => ret ())
    ⟨client, robotId, payload, s.revisions robotId⟩

/-- `revoke`. -/
def revoke (t : Nat) (robotId : String) (issue zeroSent : Bool) : Handler Unit := do
  let owner ← endInput t robotId zeroSent
  match owner with
  | none => ret ()
  | some o => if issue then issueStop (requestStop t) robotId o

/-- `async with lock`, up to its body. -/
def acquireAdmission (t : Nat) (robotId : String) : Handler Unit := do
  let s ← read
  let lock := s.admissionLock robotId
  if lock.free then
    modify fun s => { s with
      admissionLock := Function.update s.admissionLock robotId (lock.enter t) }
  else do
    modify fun s => { s with
      admissionLock := Function.update s.admissionLock robotId (lock.queue t ()) }
    wait (.admission robotId)
    modify fun s => { s with
      admissionLock := Function.update s.admissionLock robotId
        ((s.admissionLock robotId).take t) }

/-- `handle_browser_request`. -/
def handleBrowserRequest (t : Nat) (client : BrowserClient) (robotId : String)
    (payload : CommandRequest) : Handler Unit := do
  let s ← read
  let r : Incoming := ⟨client, robotId, payload, s.revisions robotId⟩
  let handle := r.handle t fun robotId issue => revoke t robotId issue false
  if payload.command.endsInput then handle
  else do
    acquireAdmission t robotId
    handle.andFinally (modify fun s => { s with
      admissionLock := Function.update s.admissionLock robotId
        (s.admissionLock robotId).release })

/-! ### Robot replies -/

/-- The acceptance of a `teleop_start` confirms its session, if it still stands. -/
def confirms (session e : Nat) (s : State) (a : Answer) : Option Nat :=
  (s.owners.lookup (s.session session).robotId).filter fun o =>
    decide ((s.owner o).commandId = (s.entry e).commandId) && (s.owner o).phase.live &&
      s.bound o && s.ownsLease o && (teleopReason s a (s.session session).robotId).isNone

/-- The acknowledgement as the browsers get it. -/
def publishAck (t session e : Nat) (accepted : Bool) (reason : Option String) : Handler Unit := do
  let s ← read
  let a ← answer
  let entry := s.entry e
  let robotId := (s.session session).robotId
  if entry.command = .teleopStart ∧ accepted then
    match confirms session e s.toState a with
    | some o => do
      modify fun s => s.setPhase o .active
      publishReply robotId (.ack entry.commandId accepted reason)
    | none => do
      revoke t robotId true false
      publishReply robotId (.ack entry.commandId false
        (some "Manual input already ended; late acceptance cannot resume it."))
  else publishReply robotId (.ack entry.commandId accepted reason)

def handleAck (t session e : Nat) (accepted : Bool) (reason : Option String) : Handler Unit := do
  modify fun s => s.setEntry e { s.entry e with acked := true }
  publishAck t session e accepted reason
  given (¬accepted) do
    let s ← read
    let entry := s.entry e
    given entry.command.manual (terminal e)
    finish t e .rejected (match reason with
      | none | some "" => "The robot declined the command."
      | some reason => reason)

/-- `payload.detail or default`. -/
def detailOr (detail : Option String) (default : String) : String :=
  match detail with
  | none | some "" => default
  | some detail => detail

def handleResult (t session e : Nat) (outcome : Outcome) (detail : Option String) :
    Handler Unit := do
  let s ← read
  let entry := s.entry e
  let robotId := (s.session session).robotId
  publishReply robotId (.result entry.commandId outcome detail)
  if entry.command.manual ∧ outcome = .timeout then do
    revoke t robotId false false
    markUncertain e (detailOr detail "Manual input outcome unknown; no physical stop confirmed.")
  else do
    given entry.command.manual (terminal e)
    if (entry.command = .softwareReset ∨ entry.command = .setLidarPower) ∧
        outcome = .timeout then
      markUncertain e (detailOr detail "Reset outcome unknown; a new reset needs confirmation.")
    else do
      given (entry.command = .setLidarPower) do
        modify fun s => { s with
          lidarStateAfter := Function.update s.lidarStateAfter entry.robotId true
          lidarRecoveryRequired :=
            Function.update s.lidarRecoveryRequired entry.robotId (outcome ≠ .succeeded) }
      finish t e outcome (detail.getD "")

/-- `handle_robot_reply`. -/
def handleRobotReply (t session : Nat) (payload : RobotReply) : Handler Unit := do
  let s ← read
  let robotId := (s.session session).robotId
  match s.active.lookup payload.commandId with
  | none => ret ()
  | some e =>
    let entry := s.entry e
    if entry.robotId ≠ robotId then ret ()
    else if entry.command.manual ∧ (entry.robotSession ≠ session ∨
        (s.session session).websocket ≠ entry.robotWebsocket ∨
        s.robots robotId ≠ some session) then ret ()
    else match payload with
    | .ack _ accepted reason => handleAck t session e accepted reason
    | .progress .. => publishReply robotId payload
    | .result _ outcome detail => handleResult t session e outcome detail

/-! ### Timers -/

/-- `_ack_timeout` after its sleep. -/
def ackTimeout (t e : Nat) : Handler Unit := do
  let s ← read
  let entry := s.entry e
  if ¬entry.acked then
    match entry.command with
    | .teleopStart | .teleopStop => do
      revoke t entry.robotId true false
      markUncertain e ("Manual acceptance unknown; no physical stop confirmed. " ++
        "Wait for a terminal result or explicitly reset.")
    | .setLidarPower => markUncertain e ("LiDAR power outcome is unknown: acceptance was not " ++
        "confirmed. Wait for its result; do not retry.")
    | .softwareReset => markUncertain e ("The reset outcome is unknown because the robot did " ++
        "not confirm acceptance. No automatic retry; confirm a new reset to try again.")
    | _ => closeOut t e .timeout "The robot did not confirm the command in time."

/-- `_result_timeout` after its sleep. -/
def resultTimeout (t e : Nat) : Handler Unit := do
  let s ← read
  let entry := s.entry e
  match entry.command with
  | .teleopStart | .teleopStop => do
    revoke t entry.robotId true false
    markUncertain e ("Manual outcome unknown; no physical stop confirmed. " ++
      "Wait for a terminal result or explicitly reset.")
  | .setLidarPower =>
    markUncertain e "LiDAR power outcome is unknown. Wait for the robot result; do not retry."
  | .softwareReset => markUncertain e ("The reset outcome is unknown. No automatic retry; " ++
      "confirm a new reset to try again.")
  | _ => closeOut t e .timeout "The command took too long and was abandoned."

/-- A timer task wakes up. -/
def wakeTimer (t : Nat) (kind : TimerKind) (entry timer : Nat) : Handler Unit := do
  modify fun s => { s with
    timers := s.timers.modify timer fun timer => { timer with fired := true } }
  match kind with
  | .ack => ackTimeout t entry
  | .result => resultTimeout t entry

end PatrolBot.Server
