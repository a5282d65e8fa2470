import PatrolBot.Library.Machine
import PatrolBot.TuningEnvelope
import PatrolBot.TuningPolicy
import PatrolBot.TuningSnapshot

/-!
# The server's tuning broker

`TuningBroker` of `tuning/broker.py`, on the event loop: what a task does between
two awaits is one event.  A request runs up to the call of `send_text`; the send
is over, its future is answered or its time is up in events of their own.  The
sessions of the hub move in the two halves of `robot_connected` and of
`robot_disconnected`.

A session object belongs to one websocket for life, and a websocket is the number
of its connection.  What `RobotState` holds of a robot changes in an event of
its own.
-/

namespace PatrolBot.Tuning

/-! ### Constants -/

/-- `READ_CAPABILITY`. -/
def readCapability : String := "robot_tuning_read_v1"

/-- `WRITE_CAPABILITY`. -/
def writeCapability : String := "robot_tuning_write_v1"

/-! ### State -/

/-- The arguments of `TuningBroker` and what it calls. -/
structure BrokerSettings where
  floats : FloatTexts
  hmac : List UInt8 → List Char → String
  repr : Json → String
  catalog : Option Registry
  maxPending : Nat := 8
  dedupeLimit : Nat := 512
  dedupeTtlS : ℚ := 60

/-- The fields of a `RobotSession` the broker reads. -/
structure RobotSession where
  robotId : String
  websocket : Option Nat
  generation : Nat

/-- The fields of a `RobotState` the broker reads. -/
structure RobotView where
  online : Bool := false
  capabilities : List String := []
  baseGeneration : Option Int := none

/-- Where the task of a request is suspended. -/
inductive Stage where
  | sending
  | awaiting
deriving DecidableEq

/-- `_Pending`, with the task that waits for it.  The future is done with a
    response or with the sentinel of a lost session. -/
structure Pending where
  call : Nat
  requestId : String
  robotId : String
  session : Nat
  generation : Nat
  websocket : Nat
  operation : String
  mutation : Bool
  stage : Stage := .sending
  future : Option (Option TuningResponse) := none

/-- An element of `_policies`. -/
structure CachedPolicy where
  session : Nat
  websocket : Nat
  snapshot : List (String × Json)
  received : ℚ

/-- An element of `_desired`. -/
structure Desired where
  generation : Nat
  revision : Int
  sessionId : String

/-- The fields of `TuningBroker`, and of the hub those it reads; a session is
    the index of its object. -/
structure Broker where
  pending : List Pending := []
  locks : List String := []
  seen : List (String × ℚ) := []
  desired : List (String × Desired) := []
  policies : List (String × CachedPolicy) := []
  calls : Nat := 0
  robots : List (String × Nat) := []
  sessions : List RobotSession := []
  views : List (String × RobotView) := []
  connections : Nat := 0
  connecting : List (Nat × String × Nat) := []
  leaving : List Nat := []

/-! ### Events and outputs -/

/-- What `request` raises. -/
inductive TuningFailure where
  | invalid (problem : Invalid)
  | forbidden (detail : String)
  | conflict (detail : String)
  | rateLimited (detail : String)
  | unavailable (detail : String)
  | registry
  /-- An exception that is no `TuningError`. -/
  | other

/-- What a request learns up to its send: the readings of the clock by
    `_seen_recently` before and after the lock and by `_remember`, the key and
    the wall clock of the signature. -/
structure RequestAnswers where
  first : ℚ
  second : ℚ
  stored : ℚ
  pruned : ℚ
  key : Option (List UInt8)
  now : PyFloat

inductive BrokerEvent where
  | request (user : User) (robotId : String) (payload : Json) (answers : RequestAnswers)
  /-- `send_text` has returned, or has raised or run out of time. -/
  | sendDone (call : Nat) (raised : Bool)
  /-- The task runs on after its future was done. -/
  | resumed (call : Nat)
  | timedOut (call : Nat)
  /-- `handle_response`, with the robot its envelope names. -/
  | response (session : Nat) (envelopeRobot : String) (payload : Json)
      (stored pruned received : ℚ)
  /-- `robot_connected` up to its first await. -/
  | connecting (robotId : String)
  /-- The rest of it. -/
  | installed (connection : Nat)
  /-- `robot_disconnected` up to its first await. -/
  | leaving (session connection : Nat)
  /-- The rest of it. -/
  | left (session : Nat)
  | reported (robotId : String) (view : RobotView)

/-- A request refused, a frame handed to `send_text`, a request that returns, a
    validated reply taken from a robot, an exception in `handle_response`. -/
inductive BrokerEmit where
  | refused (call : Nat) (failure : TuningFailure)
  | sent (call session generation websocket : Nat) (requestId : String) (mutation : Bool)
      (wrapper : Json)
  | returned (call : Nat) (response : TuningResponse)
  | received (session generation websocket : Nat) (reply : TuningResponse) (at' : ℚ)
  | raised

namespace Broker

variable (settings : BrokerSettings) (b : Broker)

/-! ### Sessions -/

/-- `_bound`. -/
def bound (session generation websocket : Nat) : Bool :=
  match b.sessions[session]? with
  | none => false
  | some held => b.robots.lookup held.robotId == some session && held.websocket == some websocket &&
      held.generation == generation

/-- `_bound_entry`. -/
def boundEntry (entry : Pending) (session : Nat) : Bool :=
  match b.sessions[session]? with
  | none => false
  | some held => entry.session == session && entry.generation == held.generation &&
      held.websocket == some entry.websocket

/-- What is known of a robot. -/
def view (robotId : String) : RobotView := (b.views.lookup robotId).getD {}

/-! ### The memory of request ids -/

/-- `_prune_seen`, with a reading of the clock. -/
def pruneSeen (reading : ℚ) : Broker :=
  if settings.dedupeTtlS ≤ 0 then b
  else { b with
    seen := b.seen.dropWhile fun entry => decide (entry.2 < reading - settings.dedupeTtlS) }

/-- `request_id in self._seen`. -/
def remembers (requestId : String) : Bool := b.seen.any fun entry => entry.1 == requestId

/-- `self._seen[request_id] = reading` at the young end. -/
def store (requestId : String) (reading : ℚ) : Broker :=
  { b with seen := b.seen.filter (fun entry => entry.1 != requestId) ++ [(requestId, reading)] }

/-- `_remember`. -/
def remember (requestId : String) (stored pruned : ℚ) : Broker :=
  let kept := (b.store requestId stored).pruneSeen settings pruned
  { kept with seen := kept.seen.drop (kept.seen.length - settings.dedupeLimit) }

/-! ### A request up to its send -/

/-- The request id of a validated request. -/
def requestIdOf (request : List (String × Json)) : String :=
  (asText (Json.get request "request_id")).getD ""

/-- `operation in MUTATION_OPERATIONS` of a validated request. -/
def isMutationRequest (request : List (String × Json)) : Bool :=
  mutationOperations.contains (operationOf (.obj request))

/-- The checks of `request` that need no state: the catalog, `validate_request`
    and `require_administrator`. -/
def admitted (user : User) (payload : Json) : Except TuningFailure (List (String × Json)) :=
  match settings.catalog with
  | none => .error .registry
  | some registry => match validateRequest registry payload with
    | .error problem => .error (.invalid problem)
    | .ok request =>
      if isMutationRequest request ∧ user.role ≠ "administrator" then
        .error (.forbidden "Changing robot tuning needs an administrator account.")
      else .ok request

/-- `request_id in self._pending`. -/
def isPending (requestId : String) : Bool := b.pending.any fun entry => entry.requestId == requestId

/-- The two checks on the id of a request, made before the lock and after. -/
def checkDuplicate (requestId : String) (mutation : Bool) (reading : ℚ) :
    Broker × Option TuningFailure :=
  if b.isPending requestId then
    (b, some (.conflict "That tuning request is already in flight."))
  else if mutation then
    let b := b.pruneSeen settings reading
    if b.remembers requestId then
      (b, some (.conflict "That tuning request was already handled."))
    else (b, none)
  else (b, none)

/-- The other checks before the lock. -/
def checkBusy (robotId : String) (mutation : Bool) : Option TuningFailure :=
  if settings.maxPending ≤ b.pending.length then
    some (.rateLimited "Tuning is busy; too many requests are in flight.")
  else if mutation ∧ robotId ∈ b.locks then
    some (.rateLimited ("A tuning change is already in flight for this robot; " ++
      "wait for it to finish before sending another."))
  else none

/-- `_optimistic_check`, which is a mutation's. -/
def optimisticCheck (robotId : String) (session : RobotSession) (request : List (String × Json)) :
    Except TuningFailure Unit :=
  match b.desired.lookup robotId with
  | none => .ok ()
  | some cached =>
    if isMutationRequest request = false then .ok ()
    else if cached.generation ≠ session.generation then .ok ()
    else if ¬isText (part (Json.get request "generation") "session_id") cached.sessionId then
      .error (.conflict
        "The tuning session changed; refresh the catalog before changing settings.")
    else
      let save := operationOf (.obj request) == "save"
      match strictInt (Json.get request
          (if save then "base_revision" else "expected_revision")) with
      | none => .ok ()
      | some supplied =>
        if supplied = cached.revision then .ok ()
        else if save then
          .error (.conflict "A newer tuning revision exists; refresh before saving.")
        else .error (.conflict "A newer tuning revision exists; refresh before applying.")

/-- The checks on the capabilities of the robot. -/
def checkCapability (capabilities : List String) (request : List (String × Json)) :
    Except TuningFailure Unit :=
  let mutation := isMutationRequest request
  if (if mutation then capability else readCapability) ∈ capabilities then .ok ()
  else if operationOf (.obj request) = "save" ∧ writeCapability ∈ capabilities then .ok ()
  else if mutation then
    .error (.unavailable ("This robot does not advertise robot_tuning_v1; tuning changes " ++
      "are disabled until the robot proves safe activation support."))
  else
    .error (.unavailable
      "This robot does not advertise robot_tuning_read_v1; tuning state cannot be read yet.")

/-- The bound on the requests in flight, behind the lock. -/
def checkRoom : Except TuningFailure Unit :=
  if settings.maxPending ≤ b.pending.length then
    .error (.rateLimited "Tuning is busy; too many requests are in flight.")
  else .ok ()

/-- `actor_from_user` and `validate_actor`. -/
def actorOf (user : User) : Except TuningFailure Json :=
  match actorFromUser user with
  | none =>
    if roles.contains user.role then
      .error (.forbidden "Your account identity is not usable for tuning.")
    else .error (.forbidden "Your account role is not recognized for tuning.")
  | some actor => match validateActor actor with
    | .error problem => .error (.invalid problem)
    | .ok _ => .ok actor

/-- The wrapper that is sent, signed if it is a mutation's. -/
def wrapperFor (robotId : String) (request : List (String × Json)) (actor : Json)
    (answers : RequestAnswers) : Except TuningFailure Json :=
  match isMutationRequest request, answers.key with
  | true, none => .error (.unavailable "Signed tuning authorization is not configured.")
  | _, key =>
    match wrapperOf settings.floats settings.hmac (key.getD []) robotId answers.now (.obj request)
        actor with
    | .error (.refused _) => .error (.unavailable "Signed tuning authorization is not configured.")
    | .error _ => .error .other
    | .ok wrapper => .ok wrapper

/-- The checks of `_request_locked` after the id, up to the frame: the session
    the request is bound to, and the wrapper. -/
def prepare (user : User) (robotId : String) (request : List (String × Json))
    (answers : RequestAnswers) : Except TuningFailure (Pending × Json) :=
  match (b.robots.lookup robotId).bind fun session =>
      (b.sessions[session]?).bind fun held => held.websocket.map fun websocket =>
        (session, held, websocket) with
  | none => .error (.unavailable "The robot is not connected right now.")
  | some (session, held, websocket) =>
    if (b.view robotId).online = false then
      .error (.unavailable "The robot is not connected right now.")
    else do
      checkCapability (b.view robotId).capabilities request
      b.optimisticCheck robotId held request
      b.checkRoom settings
      let actor ← actorOf user
      let wrapper ← wrapperFor settings robotId request actor answers
      pure ({ call := b.calls, requestId := requestIdOf request, robotId := robotId,
              session := session, generation := held.generation, websocket := websocket,
              operation := operationOf (.obj request), mutation := isMutationRequest request },
            wrapper)

/-- The end of a request: the `finally`, and the lock it held. -/
def release (entry : Pending) : Broker :=
  { b with
    pending := b.pending.filter fun other => other.requestId != entry.requestId
    locks := if entry.mutation then b.locks.filter (fun robotId => robotId != entry.robotId)
      else b.locks }

/-- The part of `_request_locked` from the pending entry to the send. -/
def dispatch (entry : Pending) (wrapper : Json) (answers : RequestAnswers) :
    Broker × List BrokerEmit :=
  let entered := { b with
    calls := b.calls + 1
    pending := b.pending ++ [entry]
    locks := if entry.mutation then b.locks ++ [entry.robotId] else b.locks }
  let entered := if entry.mutation then
    entered.remember settings entry.requestId answers.stored answers.pruned else entered
  if entered.bound entry.session entry.generation entry.websocket then
    (entered, [.sent entry.call entry.session entry.generation entry.websocket entry.requestId
      entry.mutation wrapper])
  else
    (entered.release entry, [.refused entry.call
      (.unavailable "The robot connection changed before the request was sent.")])

/-- `raise failure`; the number of the call is spent. -/
def refuse (failure : TuningFailure) : Broker × List BrokerEmit :=
  ({ b with calls := b.calls + 1 }, [.refused b.calls failure])

/-- The checks of `request` before the pending entry, with the memory they leave. -/
def checks (user : User) (robotId : String) (payload : Json) (answers : RequestAnswers) :
    Broker × Except TuningFailure (Pending × Json) :=
  match admitted settings user payload with
  | .error failure => (b, .error failure)
  | .ok request =>
    let requestId := requestIdOf request
    let mutation := isMutationRequest request
    match b.checkDuplicate settings requestId mutation answers.first with
    | (b, some failure) => (b, .error failure)
    | (b, none) => match b.checkBusy settings robotId mutation with
      | some failure => (b, .error failure)
      | none => match b.checkDuplicate settings requestId mutation answers.second with
        | (b, some failure) => (b, .error failure)
        | (b, none) => (b, b.prepare settings user robotId request answers)

/-- `request`, up to its send.  A refusal behind the lock gives it back at once. -/
def request (user : User) (robotId : String) (payload : Json) (answers : RequestAnswers) :
    Broker × List BrokerEmit :=
  match b.checks settings user robotId payload answers with
  | (b, .error failure) => b.refuse failure
  | (b, .ok (entry, wrapper)) => b.dispatch settings entry wrapper answers

/-! ### The rest of a request -/

/-- A response with an unknown outcome. -/
def unknownResponse (entry : Pending) (detail : String) : TuningResponse :=
  { requestId := entry.requestId, outcome := "unknown", detail := detail }

/-- A request that ends without an answer: unknown for a mutation, an exception
    for a read. -/
def endUnknown (entry : Pending) (mutationDetail readDetail : String) : Broker × List BrokerEmit :=
  (b.release entry,
    if entry.mutation then [.returned entry.call (unknownResponse entry mutationDetail)]
    else [.refused entry.call (.unavailable readDetail)])

/-- The task of a call, at its stage. -/
def taskAt (call : Nat) (stage : Stage) : Option Pending :=
  b.pending.find? fun entry => entry.call == call && entry.stage == stage

/-- `self._pending[request_id]` with the entry changed. -/
def update (requestId : String) (change : Pending → Pending) : Broker :=
  { b with pending := b.pending.map fun entry =>
      if entry.requestId = requestId then change entry else entry }

/-- After the send. -/
def sendDone (call : Nat) (raised : Bool) : Broker × List BrokerEmit :=
  match b.taskAt call .sending with
  | none => (b, [])
  | some entry =>
    if raised then
      b.endUnknown entry
        "The request could not be sent; the outcome is unknown. Do not resend it blindly."
        "The robot connection dropped while sending the tuning read."
    else if b.bound entry.session entry.generation entry.websocket = false then
      b.endUnknown entry
        ("The robot connection changed while sending; the outcome is unknown. " ++
          "Query the job instead of resending.")
        "The robot connection changed while sending."
    else (b.update entry.requestId fun entry => { entry with stage := .awaiting }, [])

/-- `_update_desired`. -/
def updateDesired (entry : Pending) (snapshot : Option (List (String × Json))) : Broker :=
  match snapshot with
  | none => b
  | some snapshot =>
    match strictInt (Json.get snapshot "desired_revision"),
        asText (Json.get snapshot "session_id") with
    | some revision, some sessionId =>
      { b with desired :=
          insertAt entry.robotId ⟨entry.generation, revision, sessionId⟩ b.desired }
    | _, _ => b

/-- The task runs on with what its future holds. -/
def resumed (call : Nat) : Broker × List BrokerEmit :=
  match b.taskAt call .awaiting with
  | none => (b, [])
  | some entry => match entry.future with
    | none => (b, [])
    | some none =>
      b.endUnknown entry "The robot connection dropped; the outcome is unknown."
        "The robot connection dropped while reading tuning state."
    | some (some response) =>
      if response.outcome = "ok" ∧
          b.bound entry.session entry.generation entry.websocket = false then
        b.endUnknown entry "The robot session was replaced; the outcome is unknown."
          "The robot session was replaced while reading tuning state."
      else ((b.updateDesired entry response.snapshot).release entry,
        [.returned call response])

/-- The time of the answer is up, also when it has just come. -/
def timedOut (call : Nat) : Broker × List BrokerEmit :=
  match b.taskAt call .awaiting with
  | none => (b, [])
  | some entry =>
    b.endUnknown entry
      ("The robot did not answer in time; the outcome is unknown. " ++
        "Query the durable job — do not resend the change.")
      "The robot did not answer the tuning read in time."

/-! ### The robot's side -/

/-- `entry.future.set_result(result)`, unless it is done. -/
def settle (requestId : String) (result : Option TuningResponse) : Broker :=
  b.update requestId fun entry => { entry with future := some (entry.future.getD result) }

/-- The pending entry of an id. -/
def entryOf (requestId : String) : Option Pending :=
  b.pending.find? fun entry => entry.requestId == requestId

/-- The part of `handle_response` on a reply that does not validate. -/
def rejectReply (session : Nat) (data : List (String × Json)) : Broker × List BrokerEmit :=
  match (canonicalUuid (Json.get data "request_id")).bind b.entryOf with
  | none => (b, [])
  | some entry =>
    if b.boundEntry entry session then
      (b.settle entry.requestId (some (unknownResponse entry
        "The robot's tuning reply did not validate; the outcome is unknown.")), [])
    else (b, [])

/-- The snapshot of an `ok` reply becomes the cached policy. -/
def cachePolicy (robotId : String) (session websocket : Nat) (reply : TuningResponse)
    (received : ℚ) : Broker :=
  match reply.snapshot with
  | none => b
  | some snapshot =>
    if reply.outcome = "ok" then
      { b with policies := insertAt robotId ⟨session, websocket, snapshot, received⟩ b.policies }
    else b

/-- The part of `handle_response` on a validated reply, once it is cached. -/
def deliver (session : Nat) (envelopeRobot : String) (reply : TuningResponse)
    (stored pruned : ℚ) : Broker :=
  match b.entryOf reply.requestId with
  | none => b
  | some entry =>
    if b.boundEntry entry session = false ∨ envelopeRobot ≠ entry.robotId then b
    else
      let b := if entry.mutation then b.remember settings entry.requestId stored pruned else b
      b.settle entry.requestId (some reply)

/-- `handle_response`. -/
def handleResponse (session : Nat) (envelopeRobot : String) (payload : Json)
    (stored pruned received : ℚ) : Broker × List BrokerEmit :=
  match b.sessions[session]? with
  | none => (b, [])
  | some held => match held.websocket with
    | none => (b, [])
    | some websocket =>
      if b.robots.lookup held.robotId ≠ some session then (b, [])
      else match entries payload, settings.catalog with
      | none, _ => (b, [])
      | some _, none => (b, [.raised])
      | some data, some registry => match validateResponse registry payload with
        | .error _ => b.rejectReply session data
        | .ok reply =>
          if envelopeRobot ≠ held.robotId then (b, [])
          else
            (((b.cachePolicy held.robotId session websocket reply received).deliver settings session
                envelopeRobot reply stored pruned),
              [.received session held.generation websocket reply received])

/-- `disconnected`. -/
def disconnected (session : Nat) : Broker :=
  let robotId := (b.sessions[session]?).elim "" RobotSession.robotId
  { b with
    policies := b.policies.filter fun cached =>
      !(cached.1 == robotId && cached.2.session == session)
    pending := b.pending.map fun entry =>
      if entry.session = session then
        { entry with future := some (entry.future.getD (if entry.mutation then
            some (unknownResponse entry "The robot connection dropped; the outcome is unknown.")
          else none)) }
      else entry }

/-! ### The hub's sessions -/

/-- `robot_connected` up to its first await: the session before is lost. -/
def connect (robotId : String) : Broker :=
  let previous := (b.robots.lookup robotId).getD b.sessions.length
  let found : Broker := match b.robots.lookup robotId with
    | some _ => b
    | none => { b with
        sessions := b.sessions ++ [⟨robotId, none, 0⟩]
        robots := insertAt robotId b.sessions.length b.robots }
  { found.disconnected previous with
    connections := b.connections + 1
    connecting := b.connecting ++ [(b.connections, robotId, previous)] }

/-- The rest of `robot_connected`: a session object of its own. -/
def installed (connection : Nat) : Broker :=
  match b.connecting.lookup connection with
  | none => b
  | some (robotId, previous) =>
    let generation := (b.sessions[previous]?).elim 0 RobotSession.generation
    { b with
      connecting := b.connecting.filter fun entry => entry.1 != connection
      sessions := b.sessions ++ [⟨robotId, some connection, generation + 1⟩]
      robots := insertAt robotId b.sessions.length b.robots
      views := insertAt robotId { b.view robotId with capabilities := [] } b.views }

/-- `robot_disconnected` up to its first await. -/
def leave (session connection : Nat) : Broker :=
  match b.sessions[session]? with
  | none => b
  | some held =>
    if b.robots.lookup held.robotId = some session ∧ held.websocket = some connection then
      { b with leaving := session :: b.leaving }
    else b

/-- The rest of `robot_disconnected`. -/
def leftSession (session : Nat) : Broker :=
  if session ∈ b.leaving then
    { b with
      leaving := b.leaving.filter fun other => other != session
      sessions := b.sessions.modify session fun held =>
        { held with websocket := none } }.disconnected session
  else b

/-- One event. -/
def step : BrokerEvent → Broker × List BrokerEmit
  | .request user robotId payload answers => b.request settings user robotId payload answers
  | .sendDone call raised => b.sendDone call raised
  | .resumed call => b.resumed call
  | .timedOut call => b.timedOut call
  | .response session envelopeRobot payload stored pruned received =>
    b.handleResponse settings session envelopeRobot payload stored pruned received
  | .connecting robotId => (b.connect robotId, [])
  | .installed connection => (b.installed connection, [])
  | .leaving session connection => (b.leave session connection, [])
  | .left session => (b.leftSession session, [])
  | .reported robotId view => ({ b with views := insertAt robotId view b.views }, [])

/-! ### The policy for manual drive -/

/-- The mapping `teleop_policy` builds, or `none` where a key it reads is
    missing. -/
def policyFields (snapshot limits : List (String × Json)) (digest : String) (received : ℚ)
    (base : Int) : Option (List (String × Json)) :=
  match Json.lookup "session_id" snapshot, Json.lookup "active_revision" snapshot with
  | some session, some revision =>
    let generation := session.shown settings.repr ++ ":" ++ revision.shown settings.repr ++ ":" ++
      digestHex digest
    some (insertAt "robot_generation" (.int base)
      (insertAt "received_mono" (.float (.finite received))
        (insertAt "generation" (.str generation) limits)))
  | _, _ => none

/-- `teleop_policy`. -/
def teleopPolicy (robotId : String) : Provided :=
  match b.policies.lookup robotId with
  | none => .none
  | some cached => match b.sessions[cached.session]? with
    | none => .none
    | some held =>
      if b.bound cached.session held.generation cached.websocket = false ∨
          (Json.get cached.snapshot "active_known").truthy = false then .none
      else match entries (Json.get cached.snapshot "effective_limits"),
          (b.view held.robotId).baseGeneration, asText (Json.get cached.snapshot "digest") with
        | some limits, some base, some digest =>
          if Json.equal (Json.get cached.snapshot "hardware_session_generation") (.int base) = false
          then .none
          else match policyFields settings cached.snapshot limits digest cached.received base with
            | some fields => .policy fields
            | none => .raised
        | _, _, _ => .none

end Broker

/-- The broker and its hub as a machine. -/
def tuningBroker (settings : BrokerSettings) : Machine Broker BrokerEvent BrokerEmit where
  step := Broker.step settings

end PatrolBot.Tuning
