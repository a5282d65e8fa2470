import PatrolBot.ServerBroker

/-!
# The hub, manual frames, and the server as one event loop

The handlers that robots, browsers and timers start: `velocity` and `_monitor`
of `TeleopController`, the connection handlers of `TelemetryHub`, and what the
gateways call.  `Job` lists them and `server` is the event loop that runs them.
-/

namespace PatrolBot.Server

open Coroutine Coroutine.Prog

/-! ### Manual input -/

/-- `velocity`. -/
def velocity (t : Nat) (client : BrowserClient) (robotId : String) (frame : Velocity) :
    Handler Unit := do
  let s ← read
  match s.owners.lookup robotId with
  | none => ret ()
  | some o => do
    let owner := s.owner o
    let a ← answer
    if owner.client ≠ client ∨ ¬client.user.any (·.canCommand) ∨
        owner.commandId ≠ frame.commandId ∨ frame.seq ≤ owner.seq ∨ ¬s.bound o ∨
        ¬s.ownsLease o ∨ ¬a.stampFresh then ret ()
    else if frame.deadman ∧ owner.phase ≠ .active then ret ()
    else if frame.deadman ∧ ((teleopReason s.toState a owner.robotId).isSome ∨
        a.policyProblem.isSome ∨ a.overPolicy) then
      revoke t robotId true false
    else if frame.deadman ∧ (owner.sendLock.holder.isSome ∨ ¬a.frameBudget) then ret ()
    else do
      modify fun s => s.setOwner o { s.owner o with seq := frame.seq }
      let sent ← send t o frame
      if ¬sent then revoke t robotId true false
      else if ¬frame.deadman then revoke t robotId true true

/-- `changed`. -/
def changed (t session : Nat) : Handler Unit := do
  let s ← read
  let robotId := (s.session session).robotId
  match s.owners.lookup robotId with
  | none => ret ()
  | some o => do
    let a ← answer
    if (s.owner o).phase.live ∧ (¬s.bound o ∨ ¬s.ownsLease o ∨
        (teleopReason s.toState a robotId).isSome ∨ a.policyProblem.isSome) then
      revoke t robotId true false

/-- One round of `_monitor` over the owners it found. -/
def watchdog (t : Nat) : List (String × Nat) → Handler Unit
  | [] => ret ()
  | (robotId, o) :: rest => do
    let s ← read
    let a ← answer
    given (s.owner o).phase.live do
      if a.expired then revoke t robotId true false
      else changed t (s.owner o).session
    watchdog t rest

/-! ### The hub -/

/-- `_emit_events`. -/
def emitEvents (robotId : String) : List (String × String × String) → Handler Unit
  | [] => ret ()
  | (severity, title, message) :: rest => do
    emitEvent robotId severity title message none
    emitEvents robotId rest

/-- The connection state a session's heartbeat stands for. -/
def connectionOf (s : State) (a : Answer) (session : Nat) : Connection :=
  match (s.session session).websocket, (s.robotState (s.session session).robotId).heartbeat with
  | some _, some heartbeat =>
    if max 0 (a.now - heartbeat) < a.onlineThreshold then .online
    else if max 0 (a.now - heartbeat) < a.offlineThreshold then .stale
    else .offline
  | _, _ => .offline

/-- `_apply_connection` up to the publication. -/
def publishConnection (session : Nat) : Handler Unit := do
  let s ← read
  let a ← answer
  let robotId := (s.session session).robotId
  let new := connectionOf s.toState a session
  if new ≠ (s.robotState robotId).connection then do
    given (new = .offline ∧ a.hasPose) (suppress (execute id))
    modify fun s => s.setRobotState robotId { s.robotState robotId with connection := new }
    publish (.connection robotId new)

/-- The rest of `_apply_connection`. -/
def connectionEvents (t session : Nat) : Handler Unit := do
  let s ← read
  let a ← answer
  emitEvents (s.session session).robotId a.events
  changed t session

/-- `_apply_connection`. -/
def applyConnection (t session : Nat) : Handler Unit := do
  publishConnection session
  connectionEvents t session

/-- `get_or_create_state`. -/
def getOrCreate (robotId : String) (s : Dashboard) : Dashboard :=
  match s.robots robotId with
  | some _ => s
  | none => { s with
      session := Function.update s.session s.sessions ⟨robotId, none, 0⟩
      sessions := s.sessions + 1
      robots := Function.update s.robots robotId (some s.sessions) }

/-- The new session of a connection; its generation follows the previous one's. -/
def installSession (robotId : String) (previous websocket : Nat) (s : Dashboard) : Dashboard :=
  { s with
    session := Function.update s.session s.sessions
      ⟨robotId, some websocket, (s.session previous).generation + 1⟩
    sessions := s.sessions + 1
    robots := Function.update s.robots robotId (some s.sessions) }

/-- `session.websocket = None`. -/
def clearWebsocket (session : Nat) (s : Dashboard) : Dashboard :=
  { s with session :=
      Function.update s.session session { s.session session with websocket := none } }

/-- `state.motion.data = None`. -/
def clearMotion (robotId : String) (s : Dashboard) : Dashboard :=
  s.setRobotState robotId { s.robotState robotId with motion := none }

/-- `record_heartbeat`. -/
def recordHeartbeat (robotId : String) (a : Answer) (s : Dashboard) : Dashboard :=
  s.setRobotState robotId { s.robotState robotId with heartbeat := some a.now }

/-- The superseded socket is closed, which may fail. -/
def closePrevious (previous : Nat) : Handler Unit := do
  let s ← read
  match (s.session previous).websocket with
  | some websocket => suppress do
    modify fun s => { s with closedSockets := s.closedSockets ++ [websocket] }
    wait .socket
  | none => ret ()

/-- `robot_connected`. -/
def robotConnected (t : Nat) (robotId : String) (websocket : Nat) : Handler Unit := do
  modify (getOrCreate robotId)
  let s ← read
  match s.robots robotId with
  | none => ret ()
  | some previous => do
    modify fun s => { s with connecting := s.connecting ++ [(t, robotId, previous)] }
    modify (clearMotion robotId)
    revoke t robotId true false
    closePrevious previous
    let s ← read
    modify (installSession robotId previous websocket)
    modify fun s => { s with connecting := s.connecting.filter (·.1 ≠ t) }
    let a ← answer
    modify (recordHeartbeat robotId a)
    applyConnection t s.sessions

/-- `robot_disconnected`. -/
def robotDisconnected (t session websocket : Nat) : Handler Unit := do
  let s ← read
  let robotId := (s.session session).robotId
  if s.robots robotId = some session ∧ (s.session session).websocket = some websocket then do
    modify fun s => { s with leaving := s.leaving ++ [(t, session)] }
    revoke t robotId true false
    modify (clearWebsocket session)
    modify fun s => s.setRobotState robotId
      { s.robotState robotId with heartbeat := none, motion := none }
    publishConnection session
    modify fun s => { s with leaving := s.leaving.filter (·.1 ≠ t) }
    connectionEvents t session

/-- `record_base_state`. -/
def recordBaseState (robotId : String) (generation : Int) : Handler Unit := do
  modify fun s => s.setRobotState robotId { s.robotState robotId with
    motion := (s.robotState robotId).motion.filter (·.sessionGeneration = generation) }
  modify fun s => { s with
    baseGeneration := Function.update s.baseGeneration robotId (some generation) }

/-- A `telemetry.motion` frame of the current base state, its connection and its
    odometry epoch. -/
def acceptsMotion (s : State) (a : Answer) (robotId : String) (motion : Motion) : Bool :=
  s.baseGeneration robotId == some motion.sessionGeneration && a.freshReadings &&
    (s.robotState robotId).motion.all
      (fun current => decide (current.odomEpochGeneration ≤ motion.odomEpochGeneration)) &&
    a.stampFresh

/-- `handle_robot_message`. -/
def handleRobotMessage (t session : Nat) (frame : Telemetry) : Handler Unit := do
  let s ← read
  let robotId := (s.session session).robotId
  if s.robots robotId = some session then do
    let a ← answer
    modify (recordHeartbeat robotId a)
    let s ← read
    match frame with
    | .motion motion =>
      if acceptsMotion s.toState a robotId motion then do
        modify fun s => s.setRobotState robotId
          { s.robotState robotId with motion := some motion }
        connectionEvents t session
    | .baseState generation => do
      recordBaseState robotId generation
      connectionEvents t session
    | .other => connectionEvents t session

/-- `handle_robot_command_reply`. -/
def handleRobotCommandReply (t session : Nat) (payload : RobotReply) : Handler Unit := do
  let s ← read
  let robotId := (s.session session).robotId
  if s.robots robotId = some session then do
    let a ← answer
    modify (recordHeartbeat robotId a)
    handleRobotReply t session payload

/-- The owners of `cancel_for_client`. -/
def revokeClient (t : Nat) (client : BrowserClient) : List (String × Nat) → Handler Unit
  | [] => ret ()
  | (robotId, o) :: rest => do
    let s ← read
    given ((s.owner o).client = client) (revoke t robotId true false)
    revokeClient t client rest

/-- The map transactions of `cancel_for_client`. -/
def cancelMaps (client : BrowserClient) : List Nat → Handler Unit
  | [] => ret ()
  | e :: es => do
    let s ← read
    given ((s.entry e).initiator = client) (cancelMap e)
    cancelMaps client es

/-- `cancel_for_client`. -/
def cancelForClient (t : Nat) (client : BrowserClient) : Handler Unit := do
  let s ← read
  revokeClient t client s.owners
  let s ← read
  cancelMaps client (s.active.map Prod.snd)

/-! ### The event loop -/

/-- What starts a handler. -/
inductive Job where
  | request (client : BrowserClient) (robotId : String) (payload : CommandRequest)
  | malformed (client : BrowserClient) (robotId commandId command reason : String)
  | velocity (client : BrowserClient) (robotId : String) (frame : Velocity)
  | reply (session : Nat) (payload : RobotReply)
  | message (session : Nat) (frame : Telemetry)
  | connected (robotId : String) (websocket : Nat)
  | disconnected (session websocket : Nat)
  | connectionCheck (session : Nat)
  | browserGone (client : BrowserClient)
  | cancelForClient (client : BrowserClient)
  | timer (kind : TimerKind) (entry timer : Nat)
  | watchdog
  /-- `wait_for` withdraws a frame that waits for the send lock. -/
  | withdraw (owner task : Nat)
deriving DecidableEq

def body (t : Nat) : Job → Handler Unit
  | .request client robotId payload => handleBrowserRequest t client robotId payload
  | .malformed client robotId commandId command reason =>
    rejectAudited client robotId commandId command reason
  | .velocity client robotId frame => velocity t client robotId frame
  | .reply session payload => handleRobotCommandReply t session payload
  | .message session frame => handleRobotMessage t session frame
  | .connected robotId websocket => robotConnected t robotId websocket
  | .disconnected session websocket => robotDisconnected t session websocket
  | .connectionCheck session => applyConnection t session
  | .browserGone client => modify (·.browserDisconnected client)
  | .cancelForClient client => cancelForClient t client
  | .timer kind entry timer => wakeTimer t kind entry timer
  | .watchdog => do
    let s ← read
    watchdog t s.owners
  | .withdraw o task => modify fun s => s.setSendLock o ((s.owner o).sendLock.leave task)

/-- A timer sleeps until it wakes up once or is cancelled; the clean-up of a
    browser follows its disconnect. -/
def admits (s : Dashboard) : Job → Bool
  | .timer kind entry timer => (s.timers[timer]?).any fun timer =>
      timer.kind == kind && timer.entry == entry && !timer.fired && !timer.cancelled
  | .cancelForClient client => !s.connected client
  | _ => true

/-- Only a timer task can be cancelled, and then it is: at the suspension it is
    in, or at its next one. -/
def isCancelled (s : Dashboard) : Job → Bool
  | .timer _ _ timer => s.timerCancelled timer
  | _ => false

/-- The replies a suspended handler may get. -/
def replies (s : Dashboard) (t : Nat) (job : Job) (op : Await) (reply : Option Interrupt) : Bool :=
  if isCancelled s job then reply == some .cancelled
  else match reply, op with
  | none, .admission robotId => (s.admissionLock robotId).turn t ()
  | none, .sendLock o frame => (s.owner o).sendLock.turn t frame
  | none, .lookup _ => true
  | none, .statement fails => !fails
  | none, .socket => true
  | some .exception, .admission _ => false
  | some .exception, .statement fails => fails
  | some .exception, _ => true
  | some .cancelled, _ => false

def Job.isTimer : Job → Bool
  | .timer .. => true
  | _ => false

def Job.isRequest : Job → Bool
  | .request .. => true
  | _ => false

/-- The server. -/
def server : System Dashboard Answer Await Job where
  body := body
  admits := admits
  replies := replies

abbrev ServerWorld := World Dashboard Answer Await Job

abbrev ServerEvent := Event Answer Job

/-- A server that has just started on an audit table. -/
def started (audit : String → Option AuditRow) : Dashboard where
  robots := fun _ => none
  session := fun _ => ⟨"", none, 0⟩
  sessions := 0
  robotState := fun _ => {}
  closedSockets := []
  baseGeneration := fun _ => none
  connected := fun _ => true
  published := []
  audit := audit
  holders := fun _ => none
  active := []
  entry := fun _ => {
    commandId := "", command := .stop, robotId := "", initiator := ⟨0, none⟩
    robotSession := 0, robotWebsocket := none }
  entries := 0
  admissionLock := fun _ => {}
  resetPending := fun _ => none
  lidarPending := fun _ => none
  lidarRecoveryRequired := fun _ => false
  lidarStateAfter := fun _ => false
  seen := []
  timers := []
  owners := []
  owner := fun _ => {
    commandId := "", client := ⟨0, none⟩, robotId := "", session := 0, websocket := 0
    generation := 0, baseGeneration := 0, phase := .closing }
  ownerCount := 0
  revisions := fun _ => 0
  lookups := []
  admitted := []
  forwarded := []
  closed := []
  closing := []
  connecting := []
  leaving := []
  wire := []

/-- The server after a run of events from its start. -/
def runServer (audit : String → Option AuditRow) (es : List ServerEvent) : ServerWorld :=
  server.loop.run (System.initial (started audit)) es

theorem runServer_append (audit : String → Option AuditRow) (es es' : List ServerEvent) :
    runServer audit (es ++ es') = server.loop.run (runServer audit es) es' :=
  server.loop.run_append _ es es'

end PatrolBot.Server
