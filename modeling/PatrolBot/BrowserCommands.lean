import PatrolBot.BrowserTeleop

/-!
# The dashboard's store of commands

`frontend/src/stores/commandStore.ts`: the requests of an operator and the robot's answers
to them, the lock while the power of the LiDAR changes, the destination that Resume
offers, and the override for one destination without a known location.  What the store
reads of the other stores, the clocks and the random identifiers come with each event.
Finite numbers are exact; a missing one is one that is not finite.
-/

namespace PatrolBot.Dashboard

inductive CommandType where
  | navigateToPose
  | setInitialPose
  | stop
  | chargeRelease
  | motorEnable
  | motorDisable
  | undock
  | softwareReset
  | setLidarPower
  | dockReset
  | teleopStart
  | teleopStop
deriving DecidableEq

inductive CommandOutcome where
  | succeeded
  | failed
  | rejected
  | canceled
  | timeout
deriving DecidableEq

inductive PickMode where
  | none
  | goal
  | initialpose
deriving DecidableEq

structure MapContext where
  mapId : Option String
  mapRevision : Option String
deriving DecidableEq

/-- `!!text`. -/
def truthy (text : Option String) : Bool := text.any fun text => text ≠ ""

/-- `sameMap`. -/
def sameMap (a b : Option MapContext) : Bool :=
  match a with
  | some a => truthy a.mapId && truthy a.mapRevision &&
      a.mapId == b.bind MapContext.mapId && a.mapRevision == b.bind MapContext.mapRevision
  | none => false

structure GoalData where
  x : ℚ
  y : ℚ
  yaw : Option ℚ
  context : MapContext
deriving DecidableEq

/-- What the command store reads of a `BaseStateData`. -/
structure BaseReport where
  context : MapContext
  linkConnected : Bool
  hardwareStateValid : Bool
  telemetryAge : Option ℚ
  lidarState : String
  lidarScanAge : Option ℚ
  odomEpochValid : Option Bool
  localizationRecoveryRequired : Option Bool
  localizationSeedStampNs : Option ℚ

/-- What an event finds around the store. -/
structure Scene where
  /-- `phase` and `externalBusy` of the teleop store. -/
  manualPhase : Phase
  externalBusy : Bool
  baseState : Option BaseReport
  baseStateAt : Option ℚ
  pathGoal : Option GoalData
  robotId : String
  /-- The readings of `performance.now()` and `Date.now()`. -/
  now : ℚ
  wall : ℚ
  /-- The next random UUID, and the next number and time of a frame. -/
  id : String
  sequence : Nat
  timestamp : String
  /-- What `sendFrame` answers. -/
  connected : Bool

/-- Milliseconds in seconds, and so recent that both ages add up to half a second. -/
def recent (age receivedAt : Option ℚ) (now : ℚ) : Bool :=
  match age, receivedAt with
  | some age, some receivedAt =>
    let receipt := (now - receivedAt) / 1000
    decide (0 ≤ age) && decide (0 ≤ receipt) && decide (age + receipt ≤ 1 / 2)
  | _, _ => false

/-- `lidarHardwareReady`. -/
def lidarHardwareReady (base : Option BaseReport) (receivedAt : Option ℚ) (now : ℚ) : Bool :=
  base.any fun base => base.linkConnected && base.hardwareStateValid &&
    recent base.telemetryAge receivedAt now

/-- `lidarReadyReason`. -/
def lidarReadyReason (base : Option BaseReport) (receivedAt : Option ℚ) (now : ℚ) :
    Option String :=
  if lidarHardwareReady base receivedAt now && base.any fun base =>
      base.lidarState == "READY" && recent base.lidarScanAge receivedAt now then none
  else some "LiDAR is off, starting, stale or unavailable — wait for fresh scans."

/-- `RECOVERY_RECEIPT_MAX_MS`. -/
def recoveryReceiptMaxMs : ℚ := 3000

/-- `localizationRecoveryReason`. -/
def localizationRecoveryReason (base : Option BaseReport) (receivedAt : Option ℚ) (now : ℚ) :
    Option String :=
  match base, receivedAt with
  | some base, some receivedAt =>
    if now - receivedAt < 0 ∨ recoveryReceiptMaxMs < now - receivedAt then
      some "Wait for fresh robot updates before sending a destination."
    else if base.odomEpochValid ≠ some true ∨ base.localizationRecoveryRequired ≠ some false ∨
        ¬(base.localizationSeedStampNs.any fun stamp => 0 < stamp) then
      some "The robot is recovering its location. Wait before sending a destination."
    else none
  | _, _ => some "Wait for fresh robot updates before sending a destination."

/-- The data of a `command.request`, with the frame's robot, number and time. -/
structure CommandRequest where
  commandId : String
  command : CommandType
  goal : Option GoalData
  takeover : Bool
  enabled : Option Bool
  /-- `seed_profile` is `"measured"`. -/
  measured : Bool
  allowUnlocalized : Bool
  robotId : String
  sequence : Nat
  timestamp : String
deriving DecidableEq

structure ActiveCommand where
  commandId : String
  command : CommandType
  running : Bool
  stage : Option String
  distanceRemaining : Option ℚ
  goal : Option GoalData
deriving DecidableEq

structure CommandResultInfo where
  commandId : Option String
  command : CommandType
  outcome : CommandOutcome
  detail : Option String
  time : ℚ
deriving DecidableEq

structure CommandAttempt where
  command : CommandType
  goal : Option GoalData
  activeMap : Option MapContext
  enabled : Option Bool
  measured : Bool
deriving DecidableEq

structure CommandStore where
  active : Option ActiveCommand := none
  lidarPending : Option String := none
  lidarRecoveryRequired : Bool := false
  lidarStateAfter : Option ℚ := none
  lastResult : Option CommandResultInfo := none
  pickMode : PickMode := .none
  stoppedGoal : Option GoalData := none
  lastAttempt : Option CommandAttempt := none
  allowUnlocalized : Bool := false
deriving DecidableEq

/-- What the store does to the rest of the browser. -/
inductive CommandEffect where
  | sent (request : CommandRequest)
  /-- `end()` of the teleop store. -/
  | endManual
  /-- `poseSetThisSession` of the telemetry store. -/
  | poseSet (value : Bool)
deriving DecidableEq

/-- The arguments of `send`. -/
structure Intent where
  command : CommandType
  goal : Option GoalData := none
  takeover : Bool := false
  enabled : Option Bool := none
  measured : Bool := false
deriving DecidableEq

inductive CommandEvent where
  | setPickMode (mode : PickMode)
  | setAllowUnlocalized (allow : Bool)
  | resetOverrides
  | connectionLost
  | send (intent : Intent) (scene : Scene)
  | stop (scene : Scene)
  | resume (scene : Scene)
  | cancel (scene : Scene)
  | takeOver (scene : Scene)
  | handleAck (commandId : String) (accepted : Bool) (reason : Option String) (wall : ℚ)
  | handleProgress (commandId stage : String) (detail : Option String)
      (distanceRemaining : Option ℚ)
  | handleResult (commandId : String) (outcome : CommandOutcome) (detail : Option String)
      (now wall : ℚ)
  /-- Manual driving is armed here or goes on in another tab. -/
  | manualTaken

/-- The commands that end manual driving and are sent all the same. -/
def endsManual : List CommandType := [.stop, .motorDisable, .softwareReset]

/-- The commands that are sent while the power of the LiDAR changes. -/
def lidarExempt : List CommandType := [.stop, .softwareReset, .motorDisable, .motorEnable]

/-- `lidarCommands`. -/
def lidarCommands : List CommandType := [.navigateToPose, .setInitialPose, .undock, .chargeRelease]

/-- `CLEARS_PENDING_GOAL`. -/
def clearsPendingGoal : List CommandType :=
  [.chargeRelease, .motorEnable, .motorDisable, .undock, .softwareReset, .setLidarPower,
    .dockReset]

namespace CommandStore

variable (store : CommandStore)

/-- The base state on view is not newer than the last change of power. -/
def awaitsState (scene : Scene) : Bool :=
  store.lidarStateAfter.any fun after => scene.baseStateAt.all fun received => received ≤ after

/-- The `reason` of `send`. -/
def lidarReason (command : CommandType) (scene : Scene) : Option String :=
  if store.lidarPending.isSome ∧ command ∉ lidarExempt then
    some "LiDAR power is pending or its outcome is unknown. Wait for the robot result."
  else if command ∉ lidarExempt ∧ store.awaitsState scene then
    some "Waiting for fresh LiDAR state after the power command."
  else if store.lidarRecoveryRequired ∧ command ∈ lidarCommands then
    some "LiDAR power recovery is required. Make a new explicit power request first."
  else if command ∈ lidarCommands then
    lidarReadyReason scene.baseState scene.baseStateAt scene.now
  else none

/-- Why `send` rejects a command at once. -/
def refusal (intent : Intent) (scene : Scene) : Option String :=
  match store.lidarReason intent.command scene with
  | some reason => some reason
  | none =>
    if intent.command = .setLidarPower ∧ intent.enabled = none then
      some "LiDAR power requires an explicit target."
    else none

/-- A command is rejected in the browser. -/
def reject (commandId : Option String) (command : CommandType) (detail : String) (wall : ℚ) :
    CommandStore :=
  { store with
    pickMode := .none
    lastResult := some ⟨commandId, command, .rejected, some detail, wall⟩ }

/-- A change of power ends the offers that rest on it. -/
def powerDown (command : CommandType) : CommandStore :=
  match command with
  | .motorDisable => { store with stoppedGoal := none, allowUnlocalized := false }
  | .setLidarPower =>
    { store with pickMode := .none, stoppedGoal := none, allowUnlocalized := false }
  | _ => store

/-- A destination, or a location, without the context of the robot's map. -/
def offMap (intent : Intent) (scene : Scene) : Bool :=
  let context := intent.goal.map GoalData.context
  decide (intent.command = .navigateToPose ∨ intent.command = .setInitialPose) &&
    (!truthy (context.bind MapContext.mapId) || !truthy (context.bind MapContext.mapRevision) ||
      decide (intent.command = .navigateToPose) &&
        !sameMap context (scene.baseState.map BaseReport.context))

def resetDown (command : CommandType) : CommandStore :=
  if command = .softwareReset then { store with allowUnlocalized := false, pickMode := .none }
  else store

/-- The offer to resume ends, and the attempt is remembered. -/
def attempt (intent : Intent) (scene : Scene) : CommandStore :=
  { store with
    stoppedGoal :=
      if (intent.command = .navigateToPose ∧ intent.goal.isSome) ∨
        intent.command ∈ clearsPendingGoal then none else store.stoppedGoal
    lastAttempt := some ⟨intent.command, intent.goal,
      scene.baseState.map BaseReport.context, intent.enabled, intent.measured⟩ }

/-- The frame of a request. -/
def request (intent : Intent) (scene : Scene) : CommandRequest where
  commandId := scene.id
  command := intent.command
  goal := intent.goal
  takeover := intent.takeover
  enabled := intent.enabled
  measured := decide (intent.command = .setInitialPose) && intent.measured
  allowUnlocalized := decide (intent.command = .navigateToPose) && store.allowUnlocalized
  robotId := scene.robotId
  sequence := scene.sequence
  timestamp := scene.timestamp

/-- The frame is away. -/
def away (intent : Intent) (scene : Scene) : CommandStore :=
  { store with
    pickMode := .none
    allowUnlocalized :=
      if intent.command = .navigateToPose ∧ store.allowUnlocalized then false
      else store.allowUnlocalized
    lidarPending :=
      if intent.command = .softwareReset then none
      else if intent.command = .setLidarPower then some scene.id
      else store.lidarPending
    lidarRecoveryRequired :=
      if intent.command = .softwareReset ∧ store.lidarPending.isSome then true
      else store.lidarRecoveryRequired
    lidarStateAfter :=
      if intent.command = .softwareReset then none else store.lidarStateAfter
    active := some ⟨scene.id, intent.command, false, none, none, intent.goal⟩ }

/-- The end of `send`, once nothing speaks against the command. -/
def transmit (intent : Intent) (scene : Scene) : CommandStore × List CommandEffect :=
  let attempted := store.attempt intent scene
  if scene.connected then
    (attempted.away intent scene, [.sent (attempted.request intent scene)])
  else
    ({ attempted with
        pickMode := .none
        lastResult := some ⟨some scene.id, intent.command, .failed,
          some "Not connected to the dashboard server.", scene.wall⟩ }, [])

/-- The local pose gate closes with a change of power and with a reset. -/
def poseEffects (command : CommandType) : List CommandEffect :=
  if command = .setLidarPower ∨ command = .softwareReset then [.poseSet false] else []

/-- `send`, behind the guard of manual driving. -/
def submit (intent : Intent) (scene : Scene) : CommandStore × List CommandEffect :=
  match store.refusal intent scene with
  | some reason => (store.reject none intent.command reason scene.wall, [])
  | none =>
    let powered := store.powerDown intent.command
    if offMap intent scene then
      (powered.reject (some scene.id) intent.command
        "Map context is missing or differs from the robot. Select a new position." scene.wall, [])
    else
      let ready := powered.resetDown intent.command
      match if intent.command = .navigateToPose then
          localizationRecoveryReason scene.baseState scene.baseStateAt scene.now else none with
      | some reason => (ready.reject (some scene.id) intent.command reason scene.wall, [])
      | none =>
        let done := ready.transmit intent scene
        (done.1, poseEffects intent.command ++ done.2)

/-- `send`. -/
def send (intent : Intent) (scene : Scene) : CommandStore × List CommandEffect :=
  if scene.manualPhase ≠ .idle ∨ scene.externalBusy = true then
    if intent.command ∈ endsManual then
      let done := store.submit intent scene
      (done.1, .endManual :: done.2)
    else (store, [])
  else store.submit intent scene

/-- What Stop and the arming of manual driving take back. -/
def forgetOffers : CommandStore :=
  { store with stoppedGoal := none, allowUnlocalized := false, pickMode := .none }

/-- The destination that is in effect when Stop is pressed, if it is on the robot's map. -/
def heading (scene : Scene) : Option GoalData :=
  let candidate :=
    if store.lidarPending.isSome then none
    else match store.active with
      | some active =>
        if active.command = .navigateToPose then active.goal <|> scene.pathGoal
        else scene.pathGoal
      | none => scene.pathGoal
  candidate.filter fun goal =>
    sameMap (some goal.context) (scene.baseState.map BaseReport.context)

/-- `stop`. -/
def pressStop (scene : Scene) : CommandStore × List CommandEffect :=
  if scene.externalBusy = true ∧ scene.manualPhase = .idle then
    store.forgetOffers.send { command := .stop } scene
  else if scene.manualPhase ≠ .idle then (store.forgetOffers, [.endManual])
  else
    { store with stoppedGoal := store.heading scene <|> store.stoppedGoal }.send
      { command := .stop } scene

/-- `resume`. -/
def resume (scene : Scene) : CommandStore × List CommandEffect :=
  match store.stoppedGoal with
  | some goal => store.send { command := .navigateToPose, goal := some goal } scene
  | none => (store, [])

/-- `cancel`. -/
def cancel (scene : Scene) : CommandStore × List CommandEffect :=
  let abandoned := { store with stoppedGoal := none }
  if store.active.isSome then abandoned.send { command := .stop } scene else (abandoned, [])

/-- `takeOver`. -/
def takeOver (scene : Scene) : CommandStore × List CommandEffect :=
  match store.lastAttempt with
  | none => (store, [])
  | some attempt =>
    if attempt.goal.isSome ∧
        sameMap attempt.activeMap (scene.baseState.map BaseReport.context) = false then
      ({ store.reject none attempt.command
          "The robot map changed. Select a new position before taking over." scene.wall with
          lastAttempt := none }, [])
    else
      store.send ⟨attempt.command, attempt.goal, true, attempt.enabled, attempt.measured⟩ scene

/-- `connectionLost`. -/
def connectionLost : CommandStore :=
  match store.active with
  | some active =>
    if active.command = .softwareReset ∨ active.command = .setLidarPower then
      { store with
        active := some { active with
          running := true
          stage := some ("Connection lost — command outcome is unknown. " ++
            "Waiting for the robot result; do not retry.") } }
    else store
  | none => store

/-- `handleAck`. -/
def handleAck (commandId : String) (accepted : Bool) (reason : Option String) (wall : ℚ) :
    CommandStore :=
  let isActive := store.active.any fun active => active.commandId = commandId
  if accepted then
    if isActive then
      { store with active := store.active.map fun active => { active with running := true } }
    else store
  else
    let lidarReply := decide (store.lidarPending = some commandId)
    { store with
      lidarPending := if lidarReply then none else store.lidarPending
      active := if isActive then none else store.active
      lastResult := some ⟨some commandId,
        if lidarReply then .setLidarPower
        else (store.active.map ActiveCommand.command).getD .navigateToPose,
        .rejected, some (reason.getD "The command was not accepted."), wall⟩ }

/-- `handleProgress`. -/
def handleProgress (commandId stage : String) (detail : Option String)
    (distanceRemaining : Option ℚ) : CommandStore :=
  match store.active with
  | some active =>
    if active.commandId = commandId then
      { store with
        active := some { active with stage := detail <|> some stage, distanceRemaining } }
    else store
  | none => store

/-- The part of `handleResult` about the active command and the result on view. -/
def finish (commandId : String) (outcome : CommandOutcome) (detail : Option String) (wall : ℚ) :
    CommandStore × List CommandEffect :=
  match store.active.filter fun active => active.commandId = commandId with
  | some active =>
    ({ store with
        active := none
        lastResult := some ⟨some commandId, active.command, outcome, detail, wall⟩ },
      if active.command = .setInitialPose ∧ outcome = CommandOutcome.succeeded then
        [.poseSet true]
      else [])
  | none =>
    match store.lastResult.filter fun previous => previous.commandId = some commandId with
    | some previous =>
      ({ store with lastResult := some { previous with outcome, detail, time := wall } }, [])
    | none => (store, [])

/-- `handleResult`. -/
def handleResult (commandId : String) (outcome : CommandOutcome) (detail : Option String)
    (now wall : ℚ) : CommandStore × List CommandEffect :=
  if store.lidarPending = some commandId then
    let shown := some ⟨some commandId, .setLidarPower, outcome, detail, wall⟩
    if outcome = .timeout then ({ store with lastResult := shown }, [])
    else
      { store with
        lidarPending := none
        lidarRecoveryRequired := decide (outcome ≠ CommandOutcome.succeeded)
        lidarStateAfter := some now
        lastResult := shown }.finish commandId outcome detail wall
  else store.finish commandId outcome detail wall

def step : CommandEvent → CommandStore × List CommandEffect
  | .setPickMode mode => ({ store with pickMode := mode }, [])
  | .setAllowUnlocalized allow => ({ store with allowUnlocalized := allow }, [])
  | .resetOverrides => ({ store with allowUnlocalized := false }, [])
  | .connectionLost => (store.connectionLost, [])
  | .send intent scene => store.send intent scene
  | .stop scene => store.pressStop scene
  | .resume scene => store.resume scene
  | .cancel scene => store.cancel scene
  | .takeOver scene => store.takeOver scene
  | .handleAck commandId accepted reason wall =>
    (store.handleAck commandId accepted reason wall, [])
  | .handleProgress commandId stage detail distanceRemaining =>
    (store.handleProgress commandId stage detail distanceRemaining, [])
  | .handleResult commandId outcome detail now wall =>
    store.handleResult commandId outcome detail now wall
  | .manualTaken => ({ store.forgetOffers with lastAttempt := none }, [])

end CommandStore

def commanding : Machine CommandStore CommandEvent CommandEffect where
  step := CommandStore.step

/-- The requests among the effects. -/
def requests (effects : List CommandEffect) : List CommandRequest :=
  effects.filterMap fun effect => match effect with
    | .sent request => some request
    | _ => none

/-- What an operator's act finds around the store. -/
def CommandEvent.scene : CommandEvent → Option Scene
  | .send _ scene | .stop scene | .resume scene | .cancel scene | .takeOver scene => some scene
  | _ => none

/-! ### What `send` does -/

namespace CommandStore

variable {store base : CommandStore} {intent : Intent} {scene : Scene}

/-- The locks and the active command stay, and no override is armed. -/
structure Kept (store after : CommandStore) : Prop where
  pending : after.lidarPending = store.lidarPending
  recovery : after.lidarRecoveryRequired = store.lidarRecoveryRequired
  stateAfter : after.lidarStateAfter = store.lidarStateAfter
  allow : after.allowUnlocalized = true → store.allowUnlocalized = true
  active : after.active = store.active

/-- Nothing is sent: nor is a destination offered anew. -/
structure Held (store after : CommandStore) : Prop extends Kept store after where
  stopped : ∀ goal, after.stoppedGoal = some goal → store.stoppedGoal = some goal

/-- The request of an intent is sent. -/
structure Sent (store : CommandStore) (intent : Intent) (scene : Scene)
    (request : CommandRequest) (after : CommandStore) : Prop where
  request : request = store.request intent scene
  connected : scene.connected = true
  idle : intent.command ∉ endsManual → scene.manualPhase = .idle ∧ scene.externalBusy = false
  unlocked : store.lidarReason intent.command scene = none
  onMap : offMap intent scene = false
  located : intent.command = .navigateToPose →
    localizationRecoveryReason scene.baseState scene.baseStateAt scene.now = none
  pending : after.lidarPending =
    if intent.command = .softwareReset then none
    else if intent.command = .setLidarPower then some scene.id
    else store.lidarPending
  recovery : after.lidarRecoveryRequired =
    if intent.command = .softwareReset ∧ store.lidarPending.isSome then true
    else store.lidarRecoveryRequired
  stateAfter : after.lidarStateAfter =
    if intent.command = .softwareReset then none else store.lidarStateAfter
  allow : after.allowUnlocalized = true → store.allowUnlocalized = true ∧
    intent.command ∉ [.navigateToPose, .motorDisable, .setLidarPower, .softwareReset]
  stopped : ∀ goal, after.stoppedGoal = some goal → store.stoppedGoal = some goal ∧
    intent.command ≠ .navigateToPose ∧ intent.command ∉ clearsPendingGoal
  active : after.active = some ⟨scene.id, intent.command, false, none, none, intent.goal⟩

theorem Kept.trans {middle after : CommandStore} (h : Kept store middle)
    (h' : Kept middle after) : Kept store after where
  pending := h'.pending.trans h.pending
  recovery := h'.recovery.trans h.recovery
  stateAfter := h'.stateAfter.trans h.stateAfter
  allow := fun hallow => h.allow (h'.allow hallow)
  active := h'.active.trans h.active

theorem Held.refl (store : CommandStore) : Held store store :=
  ⟨⟨rfl, rfl, rfl, id, rfl⟩, fun _ => id⟩

theorem Held.trans {middle after : CommandStore} (h : Held store middle)
    (h' : Held middle after) : Held store after where
  toKept := h.toKept.trans h'.toKept
  stopped := fun goal hgoal => h.stopped goal (h'.stopped goal hgoal)

theorem held_reject {commandId : Option String} {command : CommandType} {detail : String}
    {wall : ℚ} : Held store (store.reject commandId command detail wall) :=
  ⟨⟨rfl, rfl, rfl, id, rfl⟩, fun _ => id⟩

theorem held_powerDown {command : CommandType} : Held store (store.powerDown command) := by
  unfold powerDown
  split
  · exact ⟨⟨rfl, rfl, rfl, fun h => by simp at h, rfl⟩, fun _ h => by simp at h⟩
  · exact ⟨⟨rfl, rfl, rfl, fun h => by simp at h, rfl⟩, fun _ h => by simp at h⟩
  · exact Held.refl store

theorem held_resetDown {command : CommandType} : Held store (store.resetDown command) := by
  unfold resetDown
  split
  · exact ⟨⟨rfl, rfl, rfl, fun h => by simp at h, rfl⟩, fun _ => id⟩
  · exact Held.refl store

theorem held_attempt : Held store (store.attempt intent scene) := by
  refine ⟨⟨rfl, rfl, rfl, id, rfl⟩, fun goal hgoal => ?_⟩
  unfold attempt at hgoal
  split at hgoal
  · cases hgoal
  · exact hgoal

/-- A change of power and a reset take the override back. -/
theorem allow_ready {command : CommandType}
    (h : ((store.powerDown command).resetDown command).allowUnlocalized = true) :
    store.allowUnlocalized = true ∧
      command ∉ [.motorDisable, .setLidarPower, .softwareReset] := by
  refine ⟨(held_powerDown.trans held_resetDown).allow h, ?_⟩
  cases command <;> simp_all [powerDown, resetDown]

/-- Every attempt of such a command ends the offer to resume. -/
theorem stopped_attempt {goal : GoalData} (honMap : offMap intent scene = false)
    (h : (store.attempt intent scene).stoppedGoal = some goal) :
    intent.command ≠ .navigateToPose ∧ intent.command ∉ clearsPendingGoal := by
  unfold attempt at h
  split at h
  · cases h
  · rename_i hkept
    obtain ⟨hgoal, hclears⟩ := not_or.mp hkept
    refine ⟨fun hnavigate => hgoal ⟨hnavigate, ?_⟩, hclears⟩
    cases hg : intent.goal with
    | some goal => rfl
    | none => simp [offMap, hg, hnavigate, truthy] at honMap

/-- The frame is the one that the store before describes: nothing that `send` does to the
    override before comes in front of a destination. -/
theorem request_ready :
    (((store.powerDown intent.command).resetDown intent.command).attempt intent scene).request
      intent scene = store.request intent scene := by
  unfold request
  congr 1
  cases h : intent.command <;> simp [attempt, powerDown, resetDown]

theorem allow_away (h : (store.away intent scene).allowUnlocalized = true) :
    store.allowUnlocalized = true ∧ intent.command ≠ .navigateToPose := by
  simp only [away] at h
  split at h
  · cases h
  · rename_i hother
    exact ⟨h, fun hnavigate => hother ⟨hnavigate, h⟩⟩

theorem allow_sent
    (h : ((((store.powerDown intent.command).resetDown intent.command).attempt intent scene).away
      intent scene).allowUnlocalized = true) :
    store.allowUnlocalized = true ∧
      intent.command ∉ [.navigateToPose, .motorDisable, .setLidarPower, .softwareReset] := by
  obtain ⟨hkept, hother⟩ := allow_away h
  obtain ⟨hallow, hcommand⟩ := allow_ready hkept
  refine ⟨hallow, fun hmem => ?_⟩
  rcases List.mem_cons.mp hmem with heq | hrest
  · exact hother heq
  · exact hcommand hrest

@[simp] theorem requests_poseEffects (command : CommandType) (effects : List CommandEffect) :
    requests (poseEffects command ++ effects) = requests effects := by
  unfold poseEffects
  split <;> rfl

theorem transmit_cases :
    (scene.connected = false ∧ Held store (store.transmit intent scene).1 ∧
      requests (store.transmit intent scene).2 = []) ∨
    (scene.connected = true ∧
      store.transmit intent scene = ((store.attempt intent scene).away intent scene,
        [.sent ((store.attempt intent scene).request intent scene)])) := by
  unfold transmit
  split
  · rename_i hconnected
    exact Or.inr ⟨hconnected, rfl⟩
  · rename_i hconnected
    refine Or.inl ⟨Bool.eq_false_iff.mpr hconnected, ?_, rfl⟩
    have hattempt := @held_attempt store intent scene
    exact ⟨⟨hattempt.pending, hattempt.recovery, hattempt.stateAfter, hattempt.allow,
      hattempt.active⟩, hattempt.stopped⟩

/-- `send` behind its guard sends nothing, or one request that all of its checks admit. -/
theorem submit_cases
    (hidle : intent.command ∉ endsManual → scene.manualPhase = .idle ∧ scene.externalBusy = false) :
    (Held store (store.submit intent scene).1 ∧
      requests (store.submit intent scene).2 = []) ∨
    ∃ request, requests (store.submit intent scene).2 = [request] ∧
      Sent store intent scene request (store.submit intent scene).1 := by
  unfold submit
  split
  · exact Or.inl ⟨held_reject, rfl⟩
  · rename_i hrefusal
    dsimp only
    split
    · exact Or.inl ⟨held_powerDown.trans held_reject, rfl⟩
    · rename_i honMap
      have honMap : offMap intent scene = false := Bool.eq_false_iff.mpr honMap
      split
      · exact Or.inl ⟨(held_powerDown.trans held_resetDown).trans held_reject, rfl⟩
      · rename_i hlocated
        have hready : Held store ((store.powerDown intent.command).resetDown intent.command) :=
          held_powerDown.trans held_resetDown
        rcases @transmit_cases ((store.powerDown intent.command).resetDown intent.command)
          intent scene with ⟨-, hheld, hnone⟩ | ⟨hconnected, hsent⟩
        · exact Or.inl ⟨hready.trans hheld, by rw [requests_poseEffects, hnone]⟩
        · right
          have hheld := hready.trans (@held_attempt _ intent scene)
          rw [hsent]
          refine ⟨_, by rw [requests_poseEffects]; rfl, ?_⟩
          exact
            { request := request_ready
              connected := hconnected
              idle := hidle
              unlocked := by
                unfold refusal at hrefusal
                split at hrefusal
                · cases hrefusal
                · assumption
              onMap := honMap
              located := fun hnavigate => by rwa [if_pos hnavigate] at hlocated
              pending := by simp only [away, hheld.pending]
              recovery := by simp only [away, hheld.recovery, hheld.pending]
              stateAfter := by simp only [away, hheld.stateAfter]
              allow := fun hallow => allow_sent hallow
              stopped := fun goal hgoal =>
                ⟨hheld.stopped goal hgoal, stopped_attempt honMap hgoal⟩
              active := rfl }

theorem send_cases :
    (Held store (store.send intent scene).1 ∧ requests (store.send intent scene).2 = []) ∨
    ∃ request, requests (store.send intent scene).2 = [request] ∧
      Sent store intent scene request (store.send intent scene).1 := by
  unfold send
  split
  · split
    · rename_i hends
      exact submit_cases fun hnot => absurd hends hnot
    · exact Or.inl ⟨Held.refl store, rfl⟩
  · rename_i hidle
    obtain ⟨hphase, hbusy⟩ := not_or.mp hidle
    exact submit_cases fun _ => ⟨not_not.mp hphase, Bool.eq_false_iff.mpr hbusy⟩

theorem held_forgetOffers : Held store store.forgetOffers :=
  ⟨⟨rfl, rfl, rfl, fun h => by simp [forgetOffers] at h, rfl⟩,
    fun _ h => by simp [forgetOffers] at h⟩

/-- An act of the operator is at most one `send`, from a store with the same locks. -/
theorem act_cases {event : CommandEvent} (hscene : event.scene = some scene) :
    (Held store (store.step event).1 ∧ requests (store.step event).2 = []) ∨
    ∃ base intent, Kept store base ∧ (event ≠ .stop scene → Held store base) ∧
      store.step event = base.send intent scene := by
  have hsame := Held.refl store
  cases event with
  | send intent scene' =>
    cases hscene
    exact Or.inr ⟨store, intent, hsame.toKept, fun _ => hsame, rfl⟩
  | stop scene' =>
    cases hscene
    simp only [step, pressStop]
    split
    · exact Or.inr ⟨_, _, held_forgetOffers.toKept, fun _ => held_forgetOffers, rfl⟩
    · split
      · exact Or.inl ⟨held_forgetOffers, rfl⟩
      · exact Or.inr ⟨{ store with stoppedGoal := store.heading scene <|> store.stoppedGoal }, _,
          ⟨rfl, rfl, rfl, id, rfl⟩, fun hnot => absurd rfl hnot, rfl⟩
  | resume scene' =>
    cases hscene
    simp only [step, resume]
    split
    · exact Or.inr ⟨store, _, hsame.toKept, fun _ => hsame, rfl⟩
    · exact Or.inl ⟨hsame, rfl⟩
  | cancel scene' =>
    cases hscene
    have habandoned : Held store { store with stoppedGoal := none } :=
      ⟨⟨rfl, rfl, rfl, id, rfl⟩, fun _ h => by cases h⟩
    simp only [step, cancel]
    split
    · exact Or.inr ⟨_, _, habandoned.toKept, fun _ => habandoned, rfl⟩
    · exact Or.inl ⟨habandoned, rfl⟩
  | takeOver scene' =>
    cases hscene
    simp only [step, takeOver]
    split
    · exact Or.inl ⟨hsame, rfl⟩
    · split
      · exact Or.inl ⟨⟨⟨rfl, rfl, rfl, id, rfl⟩, fun _ => id⟩, rfl⟩
      · exact Or.inr ⟨store, _, hsame.toKept, fun _ => hsame, rfl⟩
  | _ => cases hscene

/-- Only the acts of the operator send requests. -/
theorem requests_of_scene {event : CommandEvent} (h : event.scene = none) :
    requests (store.step event).2 = [] := by
  cases event with
  | handleResult commandId outcome detail now wall =>
    have hfinish : ∀ store : CommandStore,
        requests (store.finish commandId outcome detail wall).2 = [] := by
      intro store
      unfold finish
      split
      · dsimp only
        split <;> rfl
      · split <;> rfl
    simp only [step, handleResult]
    split
    · split
      · rfl
      · exact hfinish _
    · exact hfinish _
  | send _ _ | stop _ | resume _ | cancel _ | takeOver _ => cases h
  | _ => rfl

end CommandStore

end PatrolBot.Dashboard
