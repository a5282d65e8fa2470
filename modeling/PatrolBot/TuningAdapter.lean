import PatrolBot.TuningEnvelope
import PatrolBot.Library.Machine

/-!
# The bridge's tuning adapter

`RosTuning` of `patrolbot_web_bridge/tuning.py`: a bounded queue of wrappers, one
service call awaited at a time and its result relayed on the socket.  Every
method is one event; what it learns while it runs (clock readings, whether the
service is reachable, whether the call can be made) comes with the event.  The
two fields of `WsClient` it reads, the connected flag and the connection
generation, are moved by events of their own.

An output names the wrapper it is about: the number of its `enqueue` and the
generation the socket then had.
-/

namespace PatrolBot.Tuning.Bridge

/-! ### Constants -/

/-- `MAX_QUEUE`. -/
def maxQueue : Nat := 8

/-- `_ZERO_UUID`. -/
def zeroUuid : String := "00000000-0000-0000-0000-000000000000"

/-! ### What happens and what comes of it -/

/-- Where a wrapper came from: the socket, or the adapter's own probe. -/
inductive Origin where
  | enqueued (token arrivedOn : Nat)
  | probe
deriving DecidableEq

/-- What a service future gives once it is done; a result text that is read is
    the value it decodes to. -/
inductive Reply where
  | raised (error : String)
  | noText
  | tooLarge
  | notJson
  | data (value : Json)

/-- The call the adapter waits for. -/
structure Inflight where
  requestId : String
  origin : Origin
  call : Nat
  generation : Nat
  sentAt : ℚ
  reply : Option Reply := none

/-- The fields of `RosTuning`, the two of `WsClient` it reads, and how many
    wrappers came and how many calls were made. -/
structure Adapter where
  queue : List (Origin × Json) := []
  inflight : Option Inflight := none
  snapshot : Option (List (String × Json)) := none
  snapshotAt : Option ℚ := none
  lastProbe : Option ℚ := none
  policyRequired : Bool := false
  dropped : Nat := 0
  unknownOutcomes : Nat := 0
  connected : Bool := false
  connectionGeneration : Nat := 0
  arrivals : Nat := 0
  calls : Nat := 0

/-- What one `tick` learns: the clock when it begins, when a call is made and
    when a snapshot is kept, the answers of `service_is_ready`, the id of a
    probe, and what encoding or making the call raises. -/
structure TickAnswers where
  now : ℚ
  probeReady : Bool := true
  ready : Bool := true
  probeId : String := zeroUuid
  encodeError : Option String := none
  callError : Option String := none
  sentAt : ℚ
  keptAt : ℚ

inductive AdapterEvent where
  | enqueue (payload : Json)
  | tick (answers : TickAnswers)
  /-- The future of a call is done. -/
  | completed (call : Nat) (reply : Reply)
  /-- `connected.set()`. -/
  | connect
  /-- `connected.clear()`. -/
  | cut
  /-- `connection_generation += 1`. -/
  | generationChange
  | disconnected

/-- What a step does outside: a service call made, a call no longer awaited, a
    `tuning.response` handed to `ws.send` (which drops it unless connected), a
    snapshot kept. -/
inductive AdapterEmit where
  | called (origin : Origin) (call : Nat) (wrapper : Json) (generation : Nat)
  | ended (call : Nat)
  | response (origin : Origin) (data : Json) (sent : Bool) (generation : Nat)
  | kept (snapshot : List (String × Json)) (call generation : Nat)

/-! ### Wrappers -/

/-- `_unwrap`. -/
def unwrap (payload : Json) : Json :=
  match entries payload with
  | none => payload
  | some fields =>
    if (Json.lookup "request" fields).isNone ∧ (entries (Json.get fields "data")).isSome then
      Json.get fields "data"
    else payload

/-- The canonical request id of a wrapper, or the zero one. -/
def requestIdOf (wrapper : Json) : String :=
  (canonicalUuid (part (part wrapper "request") "request_id")).getD zeroUuid

/-- The body of `_send_response`. -/
def replyBody (requestId outcome detail : String) : Json :=
  .obj [("request_id", .str requestId), ("outcome", .str outcome), ("detail", .str detail),
    ("snapshot", .null), ("job", .null)]

/-- The wrapper a probe sends. -/
def probeWrapper (id : String) : Json :=
  .obj [
    ("actor", .obj [("id", .int 0), ("username", .str "web-bridge-policy-reader"),
      ("role", .str "observer")]),
    ("request", .obj [("contract", .str contractName), ("version", .int contractVersion),
      ("operation", .str "read"), ("request_id", .str id),
      ("generation", .obj [("capability", .str capability), ("session_id", .str zeroUuid)])])]

namespace Adapter

variable (floats : FloatTexts) (deadlineS : ℚ) (a : Adapter)

/-! ### The methods -/

/-- `_send`: the response as `ws.send` gets it. -/
def respond (origin : Origin) (data : Json) : AdapterEmit :=
  .response origin data a.connected a.connectionGeneration

/-- `_send_unknown`. -/
def sendUnknown (origin : Origin) (requestId detail : String) : Adapter × List AdapterEmit :=
  ({ a with unknownOutcomes := a.unknownOutcomes + 1 },
    [a.respond origin (replyBody requestId "unknown" detail)])

/-- `enqueue`. -/
def enqueue (payload : Json) : Adapter × List AdapterEmit :=
  let wrapper := unwrap payload
  let origin := .enqueued a.arrivals a.connectionGeneration
  let a := { a with arrivals := a.arrivals + 1 }
  if maxQueue ≤ a.queue.length then
    { a with dropped := a.dropped + 1 }.sendUnknown origin (requestIdOf wrapper)
      "The tuning adapter is busy; the request was not dispatched."
  else ({ a with queue := a.queue ++ [(origin, wrapper)] }, [])

/-- `_dispatch`. -/
def dispatch (origin : Origin) (wrapper : Json) (answers : TickAnswers) :
    Adapter × List AdapterEmit :=
  let requestId := requestIdOf wrapper
  match wrapperReason floats wrapper with
  | some reason => (a, [a.respond origin (replyBody requestId "refused" reason)])
  | none =>
    if answers.ready = false then
      (a, [a.respond origin (replyBody requestId "refused"
        "The robot tuning service is not reachable.")])
    else match answers.encodeError with
    | some error => (a, [a.respond origin (replyBody requestId "failed"
        ("The tuning request could not be encoded: " ++ error))])
    | none => match answers.callError with
      | some error => a.sendUnknown origin requestId
          ("The tuning call could not be started: " ++ error)
      | none =>
        ({ a with
            inflight := some
              ⟨requestId, origin, a.calls, a.connectionGeneration, answers.sentAt, none⟩,
            calls := a.calls + 1 },
          [.called origin a.calls wrapper a.connectionGeneration])

/-- The snapshot of an `ok` result is kept, and with it that a policy is
    required: a later result never takes that back. -/
def keep (inflight : Inflight) (data : List (String × Json)) (keptAt : ℚ) :
    Adapter × List AdapterEmit :=
  match entries (Json.get data "snapshot") with
  | none => (a, [])
  | some snapshot =>
    if isText (Json.get data "outcome") "ok" then
      ({ a with
          snapshot := some snapshot, snapshotAt := some keptAt,
          policyRequired := a.policyRequired || (Json.get snapshot "policy_required").isTrue },
        [.kept snapshot inflight.call inflight.generation])
    else (a, [])

/-- The part of `_finish` on a result that could be read. -/
def relay (inflight : Inflight) (value : Json) (keptAt : ℚ) : Adapter × List AdapterEmit :=
  match entries value with
  | none => a.sendUnknown inflight.origin inflight.requestId
      "The tuning result did not match the request."
  | some data =>
    if canonicalUuid (Json.get data "request_id") = some inflight.requestId then
      let (kept, keeping) := a.keep inflight data keptAt
      (kept, keeping ++ [kept.respond inflight.origin value])
    else a.sendUnknown inflight.origin inflight.requestId
      "The tuning result did not match the request."

/-- `_finish`, after the slot was emptied. -/
def finish (inflight : Inflight) (reply : Reply) (keptAt : ℚ) : Adapter × List AdapterEmit :=
  -- The transport changed while the call was in flight: no stale result is relayed.
  if inflight.generation ≠ a.connectionGeneration then
    ({ a with unknownOutcomes := a.unknownOutcomes + 1 }, [])
  else match reply with
  | .raised error => a.sendUnknown inflight.origin inflight.requestId
      ("The tuning service call failed: " ++ error)
  | .noText => a.sendUnknown inflight.origin inflight.requestId
      "The tuning service returned no result."
  | .tooLarge => a.sendUnknown inflight.origin inflight.requestId
      "The tuning result was too large to relay."
  | .notJson => a.sendUnknown inflight.origin inflight.requestId
      "The tuning result was not valid JSON."
  | .data value => a.relay inflight value keptAt

/-- The part of `tick` with a call in flight. -/
def settle (inflight : Inflight) (answers : TickAnswers) : Adapter × List AdapterEmit :=
  let freed := { a with inflight := none }
  match inflight.reply with
  | some reply =>
    let (finished, outputs) := freed.finish inflight reply answers.keptAt
    (finished, .ended inflight.call :: outputs)
  | none =>
    if answers.now - inflight.sentAt > deadlineS then
      let (timedOut, outputs) := freed.sendUnknown inflight.origin inflight.requestId
        "The tuning service did not answer in time; the outcome is unknown."
      (timedOut, .ended inflight.call :: outputs)
    else (a, [])

/-- `now - self._last_probe >= 1.0`, true before the first probe. -/
def probeDue (now : ℚ) : Bool := a.lastProbe.all fun last => decide (1 ≤ now - last)

/-- `tick`. -/
def tick (answers : TickAnswers) : Adapter × List AdapterEmit :=
  match a.inflight with
  | some inflight => a.settle deadlineS inflight answers
  | none => match a.queue with
    | (origin, wrapper) :: queue => { a with queue := queue }.dispatch floats origin wrapper answers
    | [] =>
      if a.connected ∧ answers.probeReady ∧ a.probeDue answers.now then
        { a with lastProbe := some answers.now }.dispatch floats .probe
          (probeWrapper answers.probeId) answers
      else (a, [])

/-- The future of a call is done; one that is no longer awaited is nobody's. -/
def completed (call : Nat) (reply : Reply) : Adapter × List AdapterEmit :=
  match a.inflight with
  | none => (a, [])
  | some inflight =>
    if inflight.call = call ∧ inflight.reply.isNone then
      ({ a with inflight := some { inflight with reply := some reply } }, [])
    else (a, [])

/-- `disconnected`. -/
def disconnected : Adapter × List AdapterEmit :=
  let cleared := { a with queue := [], snapshot := none, snapshotAt := none }
  match a.inflight with
  | none => (cleared, [])
  | some inflight =>
    ({ cleared with inflight := none, unknownOutcomes := a.unknownOutcomes + 1 },
      [.ended inflight.call])

/-- One event. -/
def step : AdapterEvent → Adapter × List AdapterEmit
  | .enqueue payload => a.enqueue payload
  | .tick answers => a.tick floats deadlineS answers
  | .completed call reply => a.completed call reply
  | .connect => ({ a with connected := true }, [])
  | .cut => ({ a with connected := false }, [])
  | .generationChange => ({ a with connectionGeneration := a.connectionGeneration + 1 }, [])
  | .disconnected => a.disconnected

end Adapter

/-- The adapter as a machine. -/
def rosTuning (floats : FloatTexts) (deadlineS : ℚ) :
    Machine Adapter AdapterEvent AdapterEmit where
  step := Adapter.step floats deadlineS

end PatrolBot.Tuning.Bridge
