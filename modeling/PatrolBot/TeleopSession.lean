import Mathlib.Data.Finset.Card
import Mathlib.Tactic.NormNum
import PatrolBot.Library.Machine
import PatrolBot.TeleopPolicy

/-!
# The bridge's manual-drive session

`TeleopSession` of `teleop.py`: one authorized, transport-bound stream that
expires without retries.  Every method runs under the session's lock, so a run
is a sequence of whole method calls.  What a method asks of its surroundings
while it runs (the clock, `safety()`, the policy source, whether `publish`
raises) is given with the call as its `Answers`; what it does to them is the
list of `Emit`s of the call, in order.

The trace also records the assignments a property has to speak about: which
session was opened with which context and policy signature, when it was
confirmed, which sequence number was accepted, when the session was closed.
-/

namespace PatrolBot

/-! ### The packaged wire contract -/

/-- An interval of velocities.  The bounds lie where every integer is exactly a
    float, so a number inside the interval is published unchanged. -/
structure Limits where
  min : ℚ
  max : ℚ
  exact : -2 ^ 53 ≤ min ∧ max ≤ 2 ^ 53

namespace Limits

def contains (limits : Limits) (value : ℚ) : Bool :=
  decide (limits.min ≤ value) && decide (value ≤ limits.max)

theorem contains_iff {limits : Limits} {value : ℚ} :
    limits.contains value = true ↔ limits.min ≤ value ∧ value ≤ limits.max := by
  simp only [contains, Bool.and_eq_true, decide_eq_true_eq]

end Limits

/-- The part of `config/web_teleop.json` a session reads. -/
structure TeleopContract where
  webBridgeZeroWatchdogMs : ℚ
  linear : Limits
  angular : Limits

/-- `self.timeout`, in seconds. -/
def TeleopContract.timeout (contract : TeleopContract) : ℚ :=
  contract.webBridgeZeroWatchdogMs / 1000

/-- `read_contract`: the packaged file. -/
def readContract : TeleopContract where
  webBridgeZeroWatchdogMs := 300
  linear := ⟨-3 / 10, 3 / 10, by norm_num⟩
  angular := ⟨-7 / 10, 7 / 10, by norm_num⟩

/-! ### State, calls and their answers -/

/-- A refusal sentence of `safety()`: never empty, as `None` is the only falsy
    answer it gives. -/
abbrev Reason := { text : String // text ≠ "" }

/-- The outcomes `end` is called with. -/
inductive EndOutcome where
  | succeeded
  | failed
  | canceled
  | timeout
deriving DecidableEq

/-- The method whose code sends a `command.ack`. -/
inductive AckSite where
  | start
  | confirmStart
  | endSession
deriving DecidableEq

variable {Context : Type}

/-- What a method does, in order. -/
inductive Emit (Context : Type) where
  | opened (commandId : String) (context : Context) (signature : PolicySignature)
  | confirmed (clock : ℚ)
  | sampled (clock : ℚ)
  | accepted (seq : Int)
  | resolved (policy : Except String RuntimePolicy)
  | safety (answer : Option Reason)
  | publish (linear angular : ℚ) (active : Bool)
  | closed (commandId : String)
  | ack (commandId : Json) (accepted : Bool) (reason : Option String) (site : AckSite)
  | progress (commandId stage detail : String)
  | result (commandId : String) (outcome : EndOutcome) (detail : String)
  | returned (value : Bool)
  | raised

/-- The fields of `TeleopSession` that its methods change. -/
structure TeleopSession (Context : Type) where
  policySignature : Option PolicySignature := none
  commandId : Option String := none
  context : Option Context := none
  sequence : Int := -1
  lastReceived : Option ℚ := none
  acknowledged : Bool := false
  preparingAt : Option ℚ := none
  seen : Finset String := ∅

/-- What one method call learns from outside: the readings of the clock in the
    order the method takes them, one answer of `safety()`, one of the policy
    source, and whether its own `publish` and the one inside `end` raise. -/
structure Answers where
  clock : Nat → ℚ
  safety : Option Reason
  policy : PolicyAnswers
  publishRaises : Bool := false
  zeroRaises : Bool := false

/-- A method call.  `start` confirms in the same call unless it is told to
    defer, and that confirmation asks again. -/
inductive TeleopCall (Context : Type) where
  | start (data : Json) (context : Context) (receivedAt : Option ℚ) (deferAck : Bool)
      (confirming : Answers)
  | confirmStart (context : Context)
  | frame (data : Json) (context : Context) (receivedAt : ℚ)
  | tick (context : Context)
  | endSession (reason : String) (outcome : EndOutcome)

namespace TeleopSession

/-! ### Input checks -/

def hexDigit (c : Char) : Bool :=
  ('0' ≤ c && c ≤ '9') || ('a' ≤ c && c ≤ 'f') || ('A' ≤ c && c ≤ 'F')

/-- `str(UUID(value)) == value.lower()`: the canonical 8-4-4-4-12 form, in
    either case. -/
def canonicalUuid (characters : List Char) : Bool :=
  decide (characters.length = 36) &&
    characters.zipIdx.all fun (c, i) =>
      if i = 8 ∨ i = 13 ∨ i = 18 ∨ i = 23 then c == '-' else hexDigit c

/-- `valid_id`, with the accepted string as its answer. -/
def validId : Json → Option String
  | .str value => if canonicalUuid value.toList then some value else none
  | _ => none

/-- The authorized, valid id of a start request. -/
def authorizedId (fields : List (String × Json)) (commandId : Json) : Option String :=
  match Json.get fields "operator_authorized" with
  | .bool true => validId commandId
  | _ => none

/-- `data.get("command_id") != self.command_id`, negated. -/
def namesSession (fields : List (String × Json)) (id : String) : Bool :=
  match Json.get fields "command_id" with
  | .str value => decide (value = id)
  | _ => false

theorem namesSession_iff {fields : List (String × Json)} {id : String} :
    namesSession fields id = true ↔ Json.get fields "command_id" = .str id := by
  unfold namesSession
  split
  · rename_i value h
    rw [h]
    simp only [decide_eq_true_eq, Json.str.injEq]
  · rename_i h
    simp only [Bool.false_eq_true, false_iff]
    exact fun hget => h id hget

/-- The verdict on the five fields of a velocity frame. -/
inductive SampleCheck where
  | sample (seq : Int) (linear angular : ℚ) (deadman : Bool)
  | invalid
  | overflow
deriving DecidableEq

/-- The range test of `frame`, in the order the source tests: the types first,
    then finiteness (where an overflowing `int` raises), then the limits. -/
def checkSample (contract : TeleopContract) (seq linear angular deadman : Json) : SampleCheck :=
  match seq, deadman with
  | .int seq, .bool deadman =>
    if seq < 0 ∨ linear.isNumber = false ∨ angular.isNumber = false then .invalid
    else match isfinite linear with
      | .overflow => .overflow
      | .notFinite => .invalid
      | .finite linear =>
        match isfinite angular with
        | .overflow => .overflow
        | .notFinite => .invalid
        | .finite angular =>
          if contract.linear.contains linear = false ∨ contract.angular.contains angular = false
              ∨ (deadman = false ∧ (linear ≠ 0 ∨ angular ≠ 0)) then .invalid
          else .sample seq linear angular deadman
  | _, _ => .invalid

/-! ### The methods -/

/-- The five keys of a velocity frame. -/
def frameKeys : List String := ["command_id", "seq", "linear", "angular", "deadman"]

/-- `TeleopSession.end`.  `timeout` is reserved for an unknown outcome, so a
    local watchdog closes as `canceled`. -/
def endSession (s : TeleopSession Context) (reason : String) (outcome : EndOutcome)
    (zeroRaises : Bool) : TeleopSession Context × List (Emit Context) :=
  let cleared := { s with
    commandId := none, context := none, lastReceived := none, acknowledged := false,
    preparingAt := none, policySignature := none }
  let reason := if zeroRaises then
    reason ++ " Zero publication failed; physical stop is not confirmed." else reason
  let outcome := if zeroRaises then .failed else outcome
  match s.commandId with
  | none => (cleared, [.publish 0 0 false])
  | some id =>
    let reply := if s.acknowledged then
        .result id (if outcome = .timeout then .canceled else outcome) reason
      else .ack (.str id) false (some reason) .endSession
    (cleared, [.closed id, .publish 0 0 false, reply])

/-- `self.end(reason, outcome)` followed by `return value`, after `emits`. -/
def endAfter (s : TeleopSession Context) (emits : List (Emit Context)) (reason : String)
    (outcome : EndOutcome) (zeroRaises value : Bool) :
    TeleopSession Context × List (Emit Context) :=
  let (ended, closing) := s.endSession reason outcome zeroRaises
  (ended, emits ++ closing ++ [.returned value])

/-- `TeleopSession.confirm_start`. -/
def confirmStart [DecidableEq Context] (contract : TeleopContract) (s : TeleopSession Context)
    (context : Context) (answers : Answers) : TeleopSession Context × List (Emit Context) :=
  match s.commandId with
  | none => (s, [.returned false])
  | some id =>
    if s.acknowledged then (s, [.returned false])
    else
      let asked := [.safety answers.safety]
      match answers.safety with
      | some reason => s.endAfter asked reason.1 .failed answers.zeroRaises false
      | none =>
        if some context ≠ s.context then
          s.endAfter asked "The manual session changed before acceptance." .failed
            answers.zeroRaises false
        else
          let policy := resolvePolicy contract.linear.max contract.angular.max answers.policy
          let asked := asked ++ [.resolved policy]
          match policy with
          | .error reason => s.endAfter asked reason .failed answers.zeroRaises false
          | .ok policy =>
            if some policy.signature ≠ s.policySignature then
              s.endAfter asked
                "The active speed policy changed before acceptance; manual input ended."
                .failed answers.zeroRaises false
            else
              ({ s with acknowledged := true, lastReceived := some (answers.clock 0) },
                asked ++ [.confirmed (answers.clock 0),
                  .ack (.str id) true none .confirmStart,
                  .progress id "manual_ready"
                    "Manual input ready. Hold the joystick or keyboard deadman.",
                  .returned true])

/-- A refused start: nothing is opened and the request gets a rejecting ack. -/
def refuse (s : TeleopSession Context) (emits : List (Emit Context)) (commandId : Json)
    (reason : String) : TeleopSession Context × List (Emit Context) :=
  (s, emits ++ [.ack commandId false (some reason) .start, .returned false])

/-- `0 <= self.clock() - received_at <= self.timeout`, false without a receipt
    time. -/
def fresh (contract : TeleopContract) (now : ℚ) : Option ℚ → Bool
  | none => false
  | some receivedAt =>
    decide (0 ≤ now - receivedAt) && decide (now - receivedAt ≤ contract.timeout)

/-- The part of `start` after the last refusal: the session is opened, zeroed
    and, unless deferred, confirmed. -/
def openSession [DecidableEq Context] (contract : TeleopContract) (s : TeleopSession Context)
    (id : String) (context : Context) (signature : PolicySignature) (deferAck : Bool)
    (emits : List (Emit Context)) (answers confirming : Answers) :
    TeleopSession Context × List (Emit Context) :=
  let opened := { s with
    seen := insert id s.seen, commandId := some id, context := some context, sequence := -1,
    lastReceived := some (answers.clock 1), preparingAt := some (answers.clock 2),
    acknowledged := false, policySignature := some signature }
  let emits := emits ++ [.opened id context signature, .publish 0 0 false]
  if answers.publishRaises then
    opened.endAfter emits "Manual zero publication failed; physical stop is not confirmed."
      .failed answers.zeroRaises false
  else if deferAck then (opened, emits ++ [.returned true])
  else
    let (confirmed, confirmation) := opened.confirmStart contract context confirming
    (confirmed, emits ++ confirmation ++ [.returned true])

/-- `TeleopSession.start`. -/
def start [DecidableEq Context] (contract : TeleopContract) (s : TeleopSession Context)
    (data : Json) (context : Context) (receivedAt : Option ℚ) (deferAck : Bool)
    (answers confirming : Answers) : TeleopSession Context × List (Emit Context) :=
  match data with
  | .obj fields =>
    let commandId := (Json.lookup "command_id" fields).getD (.str "")
    match authorizedId fields commandId with
    | none => s.refuse [] commandId "An authorized, valid manual-drive request is required."
    | some id =>
      if s.commandId.isSome then
        s.refuse [] commandId "Manual drive already has an owner. End that session first."
      else if id ∈ s.seen then
        s.refuse [] commandId "This manual session has already ended; start a new session."
      else if fresh contract (answers.clock 0) receivedAt = false then
        s.refuse [] commandId "The manual-drive request is stale. Start again explicitly."
      else
        let asked := [.safety answers.safety]
        match answers.safety with
        | some reason => s.refuse asked commandId reason.1
        | none =>
          let policy := resolvePolicy contract.linear.max contract.angular.max answers.policy
          let asked := asked ++ [.resolved policy]
          match policy with
          | .error reason => s.refuse asked commandId reason
          | .ok policy =>
            let s := { s with policySignature := some policy.signature }
            -- Fail closed instead of evicting a replay barrier silently.
            if 4096 ≤ s.seen.card then
              s.refuse asked commandId
                "Manual session history is full; supervised bridge recovery is required."
            else
              s.openSession contract id context policy.signature deferAck asked answers confirming
  -- `data.get` of anything but an object is an `AttributeError`.
  | _ => (s, [.raised])

/-- The part of `frame` after the sample was accepted as motion. -/
def forward (contract : TeleopContract) (s : TeleopSession Context) (linear angular now : ℚ)
    (emits : List (Emit Context)) (answers : Answers) :
    TeleopSession Context × List (Emit Context) :=
  let policy := resolvePolicy contract.linear.max contract.angular.max answers.policy
  let emits := emits ++ [.resolved policy]
  match policy with
  | .error reason => s.endAfter emits reason .failed answers.zeroRaises false
  | .ok policy =>
    if some policy.signature ≠ s.policySignature then
      s.endAfter emits
        "The active speed policy changed; manual input ended. Start again explicitly."
        .failed answers.zeroRaises false
    else if policy.exceeds linear angular then
      s.endAfter emits "Manual input exceeds the active speed policy; session ended."
        .failed answers.zeroRaises false
    else
      let emits := emits ++ [.safety answers.safety]
      match answers.safety with
      | some reason => s.endAfter emits reason.1 .failed answers.zeroRaises false
      | none =>
        let s := { s with lastReceived := some now }
        let emits := emits ++ [.publish linear angular true]
        if answers.publishRaises then
          s.endAfter emits "Manual publication failed; physical stop is not confirmed."
            .failed answers.zeroRaises false
        else (s, emits ++ [.returned true])

/-- The part of `frame` after the five fields were found well formed. -/
def acceptSample (contract : TeleopContract) (s : TeleopSession Context) (seq : Int)
    (linear angular : ℚ) (deadman : Bool) (receivedAt : ℚ) (answers : Answers) :
    TeleopSession Context × List (Emit Context) :=
  if seq ≤ s.sequence then (s, [.returned false])
  else
    let now := answers.clock 0
    if fresh contract now (some receivedAt) = false then
      s.endAfter [.sampled now] "Manual input arrived too late; start a new session."
        .timeout answers.zeroRaises false
    else match s.lastReceived with
      | none =>
        s.endAfter [.sampled now] "Manual input timed out; a new explicit start is required."
          .timeout answers.zeroRaises false
      | some lastReceived =>
        if ¬ (0 ≤ now - lastReceived ∧ now - lastReceived < contract.timeout) then
          s.endAfter [.sampled now] "Manual input timed out; a new explicit start is required."
            .timeout answers.zeroRaises false
        else
          let s := { s with sequence := seq }
          let emits := [.sampled now, .accepted seq]
          -- A release always reaches the robot: a zero is never gated on the policy.
          if deadman = false then
            s.endAfter emits "Manual input released; zero requested." .succeeded
              answers.zeroRaises true
          else s.forward contract linear angular now emits answers

/-- `TeleopSession.frame`. -/
def frame [DecidableEq Context] (contract : TeleopContract) (s : TeleopSession Context)
    (data : Json) (context : Context) (receivedAt : ℚ) (answers : Answers) :
    TeleopSession Context × List (Emit Context) :=
  match data with
  | .obj fields =>
    match s.commandId with
    | none => (s, [.returned false])
    | some id =>
      if namesSession fields id = false then (s, [.returned false])
      else if s.acknowledged = false then (s, [.returned false])
      else if some context ≠ s.context then
        s.endAfter [] "Connection or hardware session changed; manual input ended." .failed
          answers.zeroRaises false
      else if Json.hasExactly fields frameKeys = false then
        s.endAfter [] "Malformed manual input; session ended." .failed answers.zeroRaises false
      else
        match checkSample contract (Json.get fields "seq") (Json.get fields "linear")
            (Json.get fields "angular") (Json.get fields "deadman") with
        | .overflow => (s, [.raised])
        | .invalid =>
          s.endAfter [] "Invalid or out-of-range manual input; session ended." .failed
            answers.zeroRaises false
        | .sample seq linear angular deadman =>
          s.acceptSample contract seq linear angular deadman receivedAt answers
  | _ => s.endAfter [] "Malformed manual input; session ended." .failed answers.zeroRaises false

/-- `TeleopSession.tick`. -/
def tick [DecidableEq Context] (contract : TeleopContract) (s : TeleopSession Context)
    (context : Context) (answers : Answers) : TeleopSession Context × List (Emit Context) :=
  let ended (emits : List (Emit Context)) (reason : String) (outcome : EndOutcome) :
      TeleopSession Context × List (Emit Context) :=
    let (ended, closing) := s.endSession reason outcome answers.zeroRaises
    (ended, emits ++ closing)
  match s.commandId with
  | none => (s, [])
  | some _ =>
    let asked := [.safety answers.safety]
    if some context ≠ s.context then
      ended asked "Connection or hardware session changed; manual input ended." .failed
    else match answers.safety with
      | some reason => ended asked reason.1 .failed
      | none =>
        let policy := resolvePolicy contract.linear.max contract.angular.max answers.policy
        let asked := asked ++ [.resolved policy]
        match policy with
        | .error reason => ended asked reason .failed
        | .ok policy =>
          if some policy.signature ≠ s.policySignature then
            ended asked
              "The active speed policy changed; manual input ended. Start again explicitly."
              .failed
          else if s.acknowledged = false then
            match s.preparingAt with
            | some preparingAt =>
              if 5 ≤ answers.clock 0 - preparingAt then
                ended asked "The manual command buffers could not be confirmed clear." .timeout
              else (s, asked)
            | none => (s, asked ++ [.raised])
          else
            match s.lastReceived with
            | some lastReceived =>
              if ¬ (0 ≤ answers.clock 0 - lastReceived ∧
                  answers.clock 0 - lastReceived < contract.timeout) then
                ended asked
                  "Manual input timed out; zero requested. Start again explicitly." .timeout
              else (s, asked)
            | none => (s, asked ++ [.raised])

/-- One method call. -/
def step [DecidableEq Context] (contract : TeleopContract) (s : TeleopSession Context) :
    TeleopCall Context × Answers → TeleopSession Context × List (Emit Context)
  | (.start data context receivedAt deferAck confirming, answers) =>
    s.start contract data context receivedAt deferAck answers confirming
  | (.confirmStart context, answers) => s.confirmStart contract context answers
  | (.frame data context receivedAt, answers) => s.frame contract data context receivedAt answers
  | (.tick context, answers) => s.tick contract context answers
  | (.endSession reason outcome, answers) => s.endSession reason outcome answers.zeroRaises

end TeleopSession

/-- The session as a machine over method calls. -/
def teleopSession (Context : Type) [DecidableEq Context] (contract : TeleopContract) :
    Machine (TeleopSession Context) (TeleopCall Context × Answers) (Emit Context) where
  step := TeleopSession.step contract

/-! ### A concrete session -/

/-- Answers that allow everything: the clock stands still, nothing is unsafe and
    there is no dynamic policy. -/
def calm : Answers where
  clock := fun _ => 0
  safety := none
  policy := { read := .value .null, required := false, now := 0 }

/-- An authorized start request for `id`, received at once. -/
def startRequest (id : String) (deferAck : Bool) : TeleopCall Nat × Answers :=
  (.start (.obj [("operator_authorized", .bool true), ("command_id", .str id)]) 0 (some 0)
    deferAck calm, calm)

/-- A motion sample for the session of `id`. -/
def motionSample (id : String) : TeleopCall Nat × Answers :=
  (.frame (.obj [("command_id", .str id), ("seq", .int 0), ("linear", .float (.finite (1 / 10))),
    ("angular", .int 0), ("deadman", .bool true)]) 0 0, calm)

end PatrolBot
