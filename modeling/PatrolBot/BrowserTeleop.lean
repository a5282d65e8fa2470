import PatrolBot.Library.Machine
import PatrolBot.TeleopSession

/-!
# The dashboard's store of manual driving

`frontend/src/stores/teleopStore.ts`: arming, input and its samples, the end of manual
input, and the robot's answers, which may come late, twice and in any order.  What the
store reads of the other stores comes with each event.
-/

namespace PatrolBot.Dashboard

inductive Phase where
  | idle
  | armed
  | pending
  | active
  | stopping
deriving DecidableEq

/-- A `Session`; `serial` says which object it is. -/
structure Session where
  serial : Nat
  id : String
  generation : Nat
  robotGeneration : Option ℚ
  robotId : String
  policy : String
  seq : Nat := 0
  stopId : Option String := none
  lateClosed : Bool := false
  accepted : Bool := false
  startTerminal : Bool := false
  stopIds : List String := []
  pendingStops : List String := []

/-- The velocities of `operationalLimits()`. -/
structure OperationalLimits where
  linear : Limits
  angular : Limits

/-- What an event finds around the store: the answer of `manualDriveReason()`, the
    operator, the robot and its session, the policy in force with its limits, and whether
    the socket takes frames. -/
structure Surroundings where
  reason : Option String
  operatorId : Option String
  robotId : String
  robotGeneration : Option ℚ
  policy : String
  limits : Option OperationalLimits
  connected : Bool

/-- A frame given to `sendCommandFrame`, and whether it was sent. -/
inductive Emission where
  | velocity (serial : Nat) (id : String) (seq : Nat) (deadman : Bool) (linear angular : ℚ)
      (robotId : String) (sent : Bool)
  | start (serial : Nat) (id : String) (takeover : Bool) (robotId : String) (sent : Bool)
  | stop (serial : Nat) (id : String) (robotId : String) (sent : Bool)

structure TeleopStore where
  phase : Phase := .idle
  generation : Nat := 0
  /-- `session`, by its serial. -/
  session : Option Nat := none
  linear : ℚ := 0
  angular : ℚ := 0
  targetLinear : ℚ := 0
  targetAngular : ℚ := 0
  ramp : Bool := false
  deadman : Bool := false
  detail : Option String := none
  takeover : Bool := false
  /-- The map of sessions by their ids. -/
  sessions : List Session := []
  /-- The number of sessions there have been. -/
  created : Nat := 0
  /-- The operator the watch was set up for, while there is one. -/
  watch : Option (Option String) := none

/-- What the store reacts to.  An event that may end manual input brings the identifier
    its stop takes. -/
inductive TeleopEvent where
  | arm (takeover : Bool) (around : Surroundings)
  | input (linear angular : PyFloat) (deadman takeover digital : Bool) (id stopId : String)
      (around : Surroundings)
  /-- Another store has changed. -/
  | check (stopId : String) (around : Surroundings)
  /-- The sampling timer. -/
  | tick (stopId : String) (around : Surroundings)
  | finish (detail : Option String) (stopId : String) (around : Surroundings)
  | ack (id : String) (accepted : Bool) (reason : Option String) (stopId : String)
      (around : Surroundings)
  | result (id outcome : String) (detail : Option String) (stopId : String)
      (around : Surroundings)

/-- `bounded`. -/
def bounded (value : PyFloat) (limits : Limits) : ℚ :=
  match value with
  | .finite value => max limits.min (min limits.max value)
  | _ => 0

/-- `Math.sign`. -/
def sign (value : ℚ) : ℚ :=
  if 0 < value then 1 else if value < 0 then -1 else 0

/-- `rampToward`. -/
def rampToward (current target step : ℚ) : ℚ :=
  let next := current + sign (target - current) * step
  if |target - current| ≤ step then target
  else if current ≠ 0 ∧ sign next ≠ sign current then 0
  else next

/-- `TELEOP_RAMP_STEP_LINEAR` and `TELEOP_RAMP_STEP_ANGULAR`: the ceiling is reached in a
    second of ticks of 80 ms. -/
def rampStep (limits : Limits) : ℚ :=
  limits.max * (80 / 1000) / 1

/-- A session in the place of the one with its id, or at the end. -/
def insertSession (session : Session) : List Session → List Session
  | [] => [session]
  | other :: rest =>
    if other.id = session.id then session :: rest else other :: insertSession session rest

namespace TeleopStore

variable (store : TeleopStore)

/-! ### Sessions -/

/-- `sessions.get(id)`. -/
def byId (id : String) : Option Session :=
  store.sessions.find? fun session => session.id = id

/-- The first session that asked for the stop. -/
def byStop (id : String) : Option Session :=
  store.sessions.find? fun session => session.stopIds.contains id

/-- The session of the store. -/
def current : Option Session :=
  store.sessions.find? fun session => store.session = some session.serial

/-- A change of a session object. -/
def change (serial : Nat) (f : Session → Session) : TeleopStore :=
  { store with sessions := store.sessions.map fun session =>
      if session.serial = serial then f session else session }

/-- `sessions.set(session.id, session)`. -/
def setSession (session : Session) : TeleopStore :=
  { store with sessions := insertSession session store.sessions }

/-- `sample`. -/
def sample (session : Session) (deadman : Bool) (linear angular : ℚ) (around : Surroundings) :
    TeleopStore × List Emission :=
  (store.change session.serial fun session => { session with seq := session.seq + 1 },
    [.velocity session.serial session.id session.seq deadman (if deadman then linear else 0)
      (if deadman then angular else 0) session.robotId around.connected])

/-- `stop`. -/
def stop (session : Session) (stopId : String) (around : Surroundings) :
    TeleopStore × List Emission :=
  (store.change session.serial fun session => { session with
      stopId := some stopId
      stopIds := session.stopIds.insert stopId
      pendingStops := session.pendingStops.insert stopId },
    [.stop session.serial stopId session.robotId around.connected])

/-- `sample(session, false)` and `stop(session)`. -/
def close (session : Session) (stopId : String) (around : Surroundings) :
    TeleopStore × List Emission :=
  let (zeroed, zero) := store.sample session false 0 0 around
  let (stopped, request) := zeroed.stop session stopId around
  (stopped, zero ++ request)

/-- `finishIfResolved`. -/
def finishIfResolved (serial : Nat) : TeleopStore :=
  if store.current.any fun session => session.serial = serial && session.startTerminal &&
      session.pendingStops.isEmpty then
    { store with phase := .idle, session := none }
  else store

/-- The values every end of manual input sets. -/
def released (detail : String) : TeleopStore :=
  { store with
    generation := store.generation + 1
    deadman := false
    linear := 0
    angular := 0
    targetLinear := 0
    targetAngular := 0
    ramp := false
    detail := some detail }

/-! ### Actions -/

/-- `end`. -/
def finish (detail : Option String) (stopId : String) (around : Surroundings) :
    TeleopStore × List Emission :=
  if store.phase = .idle ∨ store.phase = .stopping then (store, [])
  else
    let detail := detail.getD ("Manual input ended — zero requested. " ++
      "This is not confirmation the robot stopped.")
    match store.current with
    | some session => { store.released detail with phase := .stopping, watch := none }.close session
        stopId around
    | none => ({ store.released detail with phase := .idle, watch := none }, [])

/-- `arm`. -/
def arm (takeover : Bool) (around : Surroundings) : TeleopStore :=
  if store.phase ≠ .idle then store
  else match around.reason with
    | some reason => { store with detail := some reason }
    | none =>
      { store with
        phase := .armed, generation := store.generation + 1, detail := none, takeover := takeover
        watch := some around.operatorId }

/-- The part of `input` that takes the values. -/
def target (linear angular : PyFloat) (digital : Bool) (limits : OperationalLimits) : TeleopStore :=
  let linear := bounded linear limits.linear
  let angular := bounded angular limits.angular
  if digital then
    { store with targetLinear := linear, targetAngular := angular, ramp := true, deadman := true }
  else
    { store with
      linear := linear, angular := angular, targetLinear := linear, targetAngular := angular
      ramp := false, deadman := true }

def newSession (id : String) (around : Surroundings) : Session where
  serial := store.created
  id := id
  generation := store.generation
  robotGeneration := around.robotGeneration
  robotId := around.robotId
  policy := around.policy

/-- The part of `input` that asks for a session. -/
def openSession (takeover : Bool) (id stopId : String) (around : Surroundings) :
    TeleopStore × List Emission :=
  let session := store.newSession id around
  let opened := { store.setSession session with
    session := some session.serial, phase := .pending, created := store.created + 1 }
  let request : Emission :=
    .start session.serial id (takeover || store.takeover) around.robotId around.connected
  if around.connected then (opened, [request])
  else
    let (ended, emissions) := opened.finish (some "Not connected to the dashboard server.") stopId
      around
    (ended, request :: emissions)

/-- `input`. -/
def input (linear angular : PyFloat) (deadman takeover digital : Bool) (id stopId : String)
    (around : Surroundings) : TeleopStore × List Emission :=
  if deadman = false then store.finish none stopId around
  else if store.phase = .idle ∨ store.phase = .stopping then (store, [])
  else match around.reason, around.limits with
    | some reason, _ => store.finish (some reason) stopId around
    | none, none => store.finish (some "Active speed policy unavailable.") stopId around
    | none, some limits =>
      let aimed := store.target linear angular digital limits
      if store.phase = .armed then aimed.openSession takeover id stopId around else (aimed, [])

/-- `rampTick`. -/
def rampTick : TeleopStore :=
  if store.ramp = false ∨ store.deadman = false ∨ store.phase ≠ .active then store
  else { store with
    linear := rampToward store.linear store.targetLinear (rampStep readContract.linear)
    angular := rampToward store.angular store.targetAngular (rampStep readContract.angular) }

/-- The check of `watch`. -/
def check (stopId : String) (around : Surroundings) : TeleopStore × List Emission :=
  match store.watch with
  | none => (store, [])
  | some operatorId =>
    if store.phase = .idle ∨ store.phase = .stopping then (store, [])
    else if around.reason.isSome ∨ operatorId ≠ around.operatorId ∨
        (store.current.any fun session => session.policy != around.policy ||
          session.robotGeneration != around.robotGeneration ||
          session.robotId != around.robotId) = true then
      store.finish (some (around.reason.getD "Robot session changed — manual input ended.")) stopId
        around
    else (store, [])

/-- The sample of the timer. -/
def tickSample (stopId : String) (around : Surroundings) : TeleopStore × List Emission :=
  match store.current with
  | some session =>
    if store.phase = .active ∧ store.deadman = true then
      let (sampled, emissions) := store.sample session true store.linear store.angular around
      if around.connected then (sampled, emissions)
      else
        let (ended, rest) := sampled.finish (some "Connection lost — manual input ended.") stopId
          around
        (ended, emissions ++ rest)
    else (store, [])
  | none => (store, [])

/-- The timer of `watch`. -/
def tick (stopId : String) (around : Surroundings) : TeleopStore × List Emission :=
  match store.watch with
  | none => (store, [])
  | some _ =>
    let (checked, emissions) := store.check stopId around
    let (sampled, rest) := checked.rampTick.tickSample stopId around
    (sampled, emissions ++ rest)

/-! ### Answers -/

/-- `handleAck` of a stop. -/
def ackStop (session : Session) (id : String) (accepted : Bool) (reason : Option String) :
    TeleopStore :=
  if accepted then store
  else
    let answered := store.change session.serial fun session =>
      { session with pendingStops := session.pendingStops.erase id }
    let told :=
      if store.session = some session.serial then
        { answered with detail := some (reason.getD ("Manual stop was not accepted. " ++
          "Waiting for the original robot result.")) }
      else answered
    told.finishIfResolved session.serial

/-- `handleAck` of an accepted start. -/
def ackAccepted (session : Session) (stopId : String) (around : Surroundings) :
    TeleopStore × List Emission :=
  let own := store.session = some session.serial
  let noted := store.change session.serial fun session => { session with accepted := true }
  let late := store.change session.serial fun session =>
    { session with accepted := true, lateClosed := true }
  if session.accepted then (store, [])
  else if own ∧ store.phase = .pending ∧ store.generation = session.generation ∧
      store.deadman = true ∧ around.reason = none then
    ({ noted with
      phase := .active
      linear := if store.ramp then 0 else store.linear
      angular := if store.ramp then 0 else store.angular
      detail := some "Robot accepted manual drive — hold to send input." }, [])
  else if own ∧ store.phase = .pending then
    late.finish (some (around.reason.getD "Manual input ended before acceptance.")) stopId around
  else if ¬(own ∧ store.phase = .active) ∧ session.lateClosed = false then
    let closing :=
      if store.phase = .idle ∧ store.session = none then
        { late.released ("Late start acceptance — zero requested; " ++
          "waiting for robot closure.") with
          phase := .stopping, session := some session.serial }
      else late
    closing.close session stopId around
  else (noted, [])

/-- `handleAck` of a refused start. -/
def ackRefused (session : Session) (reason : Option String) (around : Surroundings) :
    TeleopStore × List Emission :=
  if store.session = some session.serial then
    let refused := store.change session.serial fun session => { session with startTerminal := true }
    let (sampled, emissions) := { refused.released
        (reason.getD "Manual drive was not accepted. Arm again to retry.") with
        phase := .stopping, watch := none }.sample session false 0 0 around
    (sampled.finishIfResolved session.serial, emissions)
  else (store, [])

/-- `handleAck`. -/
def handleAck (id : String) (accepted : Bool) (reason : Option String) (stopId : String)
    (around : Surroundings) : TeleopStore × List Emission :=
  match store.byId id with
  | some session =>
    if accepted then store.ackAccepted session stopId around
    else store.ackRefused session reason around
  | none =>
    match store.byStop id with
    | some session => (store.ackStop session id accepted reason, [])
    | none => (store, [])

/-- An answer that is final is noted in its session. -/
def answer (serial : Nat) (id : String) : TeleopStore :=
  store.change serial fun session =>
    if id = session.id then { session with startTerminal := true }
    else { session with pendingStops := session.pendingStops.erase id }

/-- `handleResult`. -/
def handleResult (id outcome : String) (detail : Option String) (stopId : String)
    (around : Surroundings) : TeleopStore × List Emission :=
  match (store.byId id).or (store.byStop id) with
  | none => (store, [])
  | some session =>
    let own := store.session = some session.serial
    let (ended, emissions) :=
      if own then
        store.finish (some (detail.getD "Manual session ended. Arm again to retry.")) stopId around
      else (store, [])
    if outcome = "timeout" then
      (if own then { ended with detail := some (detail.getD ("Manual command outcome is " ++
          "unknown — waiting for the robot result. Do not retry.")) }
        else ended, emissions)
    else
      let told :=
        if own then { ended with detail := some ((detail.or ended.detail).getD
          "Manual session ended. Arm again to retry.") }
        else ended
      ((told.answer session.serial id).finishIfResolved session.serial, emissions)

/-- One event. -/
def step : TeleopEvent → TeleopStore × List Emission
  | .arm takeover around => (store.arm takeover around, [])
  | .input linear angular deadman takeover digital id stopId around =>
    store.input linear angular deadman takeover digital id stopId around
  | .check stopId around => store.check stopId around
  | .tick stopId around => store.tick stopId around
  | .finish detail stopId around => store.finish detail stopId around
  | .ack id accepted reason stopId around => store.handleAck id accepted reason stopId around
  | .result id outcome detail stopId around => store.handleResult id outcome detail stopId around

end TeleopStore

/-- The store as a machine. -/
def teleopStore : Machine TeleopStore TeleopEvent Emission where
  step store event := store.step event

end PatrolBot.Dashboard
