import PatrolBot.Library.Flow
import PatrolBot.BridgeReset

/-!
# What comes in at the bridge

The way of frames from the socket thread to the node's timer in
`patrolbot_web_bridge/bridge_node.py`: the queue of commands, the two slots for
velocity frames, and the drain that empties all three.  What the drain hands things to
is not modelled here.
-/

namespace PatrolBot.Bridge

/-- `dict(fields, key=value)`. -/
def assign (fields : Fields) (key : String) (value : Json) : Fields :=
  if fields.any (fun field => field.1 == key) then
    fields.map fun field => if field.1 = key then (key, value) else field
  else fields ++ [(key, value)]

/-- What is left of a dictionary after `fields.pop(key, None)`. -/
def popKey (fields : Fields) (key : String) : Fields :=
  fields.filter fun field => field.1 != key

/-- The length of the command queue, a `deque(maxlen=16)`. -/
def commandLimit : Nat := 16

/-- A velocity frame in a slot, with the time it was received at and the connection it
    came by. -/
structure VelocityFrame where
  data : Fields
  receivedAt : ℚ
  generation : Nat

/-- Where `_drain_commands` stands. -/
inductive Drain where
  | idle
  /-- It works off the queue, with what it has taken from the slots. -/
  | commands (release sample : Option VelocityFrame)
  /-- It has handed over the release. -/
  | sample (sample : Option VelocityFrame)

def Drain.isIdle : Drain → Bool
  | .idle => true
  | _ => false

theorem Drain.eq_idle {drain : Drain} (h : drain.isIdle = true) : drain = .idle := by
  cases drain with
  | idle => rfl
  | commands release sample => cases h
  | sample sample => cases h

/-- What the socket thread and the drain share. -/
structure Ingress where
  commandQueue : List Fields := []
  latestFrame : Option VelocityFrame := none
  releaseFrame : Option VelocityFrame := none
  invalidated : Bool := false
  connectionGeneration : Nat := 0
  connected : Bool := false
  drain : Drain := .idle

/-- What the node was built with: `_teleop`, `_commands` and `_system_reset`. -/
structure Fittings where
  teleop : Bool
  commands : Bool
  systemReset : Bool

/-- What the drain reads of others before a command: `session.active` and
    `commands_blocked`. -/
structure Reading where
  active : Bool
  blocked : Bool

inductive IngressEvent where
  /-- `_enqueue_command`, at a time. -/
  | enqueueCommand (data : Json) (now : ℚ)
  /-- `_enqueue_teleop` of a frame with its time, if that is one with a time zone, at a
      wall-clock time and a monotonic one. -/
  | enqueueTeleop (data : Json) (sent : Option ℚ) (wall now : ℚ)
  /-- `connection_generation += 1`, at the start and at the end of a session. -/
  | advance
  | setConnected (connected : Bool)
  /-- `_teleop_disconnected`. -/
  | disconnected
  /-- The drain begins. -/
  | begin
  /-- The drain takes the next command. -/
  | pop (reading : Reading)
  /-- The drain has found no more commands. -/
  | handRelease
  | handSample

/-- What is done with a command. -/
inductive Handling where
  /-- It is refused with an acknowledgement. -/
  | answered (id : Json) (reason : String)
  | teleop (data : Fields) (receivedAt : Json)
  | systemReset (data : Fields)
  | execute (data : Fields)

inductive IngressOutput where
  /-- `session.end`. -/
  | endManual (reason outcome : String)
  /-- A command taken from the queue is handled. -/
  | handled (command : Fields) (handling : Handling)
  /-- `session.frame`. -/
  | frame (frame : VelocityFrame)

/-- `DISABLED_REASON`. -/
def disabledReason : String :=
  "Motion commands are disabled on the robot. An operator must set " ++
    "WEB_BRIDGE_ENABLE_COMMANDS=1 on the robot to allow them."

/-- `data.get("command_id", "")`. -/
def rawId (data : Fields) : Json :=
  (Json.lookup "command_id" data).getD (.str "")

/-- `data.get("command") == name`. -/
def isCommand (data : Fields) (name : String) : Bool :=
  match Json.get data "command" with
  | .str text => text == name
  | _ => false

/-- A command of manual driving. -/
def isTeleop (data : Fields) : Bool :=
  isCommand data "teleop_start" || isCommand data "teleop_stop"

/-- Whether `data.get("command") in {...}` returns: no list or dictionary has a hash. -/
def hashable (data : Fields) : Bool :=
  match Json.get data "command" with
  | .list _ => false
  | .obj _ => false
  | _ => true

namespace Ingress

section

variable (repr : Json → String) (fittings : Fittings) (ingress : Ingress)

/-- The entry `_enqueue_command` appends, if it does. -/
def entryOf (now : ℚ) : Json → Option Fields
  | .obj data =>
    if hashable data = false then none
    else if isTeleop data then
      some (assign (assign data "_ws_generation" (.int ingress.connectionGeneration))
        "_received_at" (.float (.finite now)))
    else some data
  | _ => none

/-- `_enqueue_command`; a full `deque` drops its oldest entries. -/
def enqueueCommand (data : Json) (now : ℚ) : Ingress :=
  match ingress.entryOf now data with
  | none => ingress
  | some entry =>
    let queue := ingress.commandQueue ++ [entry]
    { ingress with commandQueue := queue.drop (queue.length - commandLimit) }

/-- Whether the latest frame is of the session of a frame and not before it. -/
def overtaken (previous data : Fields) : Bool :=
  Json.equal (Json.get previous "command_id") (Json.get data "command_id") &&
    match Json.get previous "seq", Json.get data "seq" with
    | .int held, .int seq => decide (seq ≤ held)
    | _, _ => false

/-- The part of `_enqueue_teleop` under the lock. -/
def storeFrame (frame : VelocityFrame) : Ingress :=
  match Json.get frame.data "deadman" with
  | .bool false => { ingress with releaseFrame := some frame, latestFrame := none }
  | _ =>
    if ingress.releaseFrame.any fun release =>
        Json.equal (Json.get release.data "command_id") (Json.get frame.data "command_id") then
      ingress
    else if ingress.latestFrame.any fun previous => overtaken previous.data frame.data then ingress
    else { ingress with latestFrame := some frame }

/-- The frame `_enqueue_teleop` stores, if it does. -/
def freshFrame (data : Json) (sent : Option ℚ) (wall now : ℚ) : Option VelocityFrame :=
  match sent, data with
  | some sent, .obj data =>
    if 0 ≤ wall - sent ∧ wall - sent ≤ 3 / 10 then
      some ⟨data, now - (wall - sent), ingress.connectionGeneration⟩
    else none
  | _, _ => none

/-- `_enqueue_teleop`. -/
def enqueueTeleop (data : Json) (sent : Option ℚ) (wall now : ℚ) : Ingress :=
  match ingress.freshFrame data sent wall now with
  | some frame => ingress.storeFrame frame
  | none => ingress

/-- `_teleop_disconnected`. -/
def teleopDisconnected : Ingress :=
  { ingress with latestFrame := none, releaseFrame := none, invalidated := true }

/-- The start of `_drain_commands`. -/
def beginDrain : Ingress × List IngressOutput :=
  ({ ingress with
      drain := .commands ingress.releaseFrame ingress.latestFrame
      invalidated := false, latestFrame := none, releaseFrame := none },
    if ingress.invalidated && fittings.teleop then
      [.endManual "Dashboard connection changed; manual input ended." "failed"]
    else [])

/-- What the drain does with a command that is not of manual driving. -/
def handling (reading : Reading) (data : Fields) : Handling :=
  let id : Json := .str (SystemResetClient.commandId repr data)
  if fittings.commands = false then .answered id disabledReason
  else if isCommand data "software_reset" then
    if fittings.systemReset then .systemReset data
    else .answered id "Software reset is not commissioned."
  else if fittings.systemReset && reading.blocked && !isCommand data "stop" then
    .answered id "Software reset is pending or its outcome is unknown."
  else .execute data

/-- What the drain does with a command of manual driving. -/
def teleopHandling (data : Fields) : Handling :=
  let plain := popKey (popKey data "_ws_generation") "_received_at"
  if fittings.teleop = false then
    .answered (rawId plain) "Web manual input is not enabled on this bridge."
  else if !Json.equal (Json.get data "_ws_generation") (.int ingress.connectionGeneration) ||
      !ingress.connected then
    .answered (rawId plain) "Connection changed; start manual input again explicitly."
  else .teleop plain (Json.get data "_received_at")

/-- One turn of the loop of `_drain_commands`. -/
def dispatch (reading : Reading) (data : Fields) : List IngressOutput :=
  if isTeleop data then [.handled data (ingress.teleopHandling fittings data)]
  else if fittings.teleop && reading.active then
    if isCommand data "stop" || isCommand data "motor_disable" ||
        isCommand data "software_reset" then
      [.endManual "Manual input ended by Stop, motor disable or software reset." "canceled",
        .handled data (handling repr fittings reading data)]
    else [.handled data (.answered (rawId data)
      "End manual drive before sending another robot command.")]
  else [.handled data (handling repr fittings reading data)]

/-- A frame taken from a slot passes if it came by the present connection. -/
def passing (frame : Option VelocityFrame) : List VelocityFrame :=
  frame.toList.filter fun frame =>
    fittings.teleop && frame.generation == ingress.connectionGeneration

def hand (frame : Option VelocityFrame) : List IngressOutput :=
  (ingress.passing fittings frame).map .frame

/-- One event; a step of the drain out of its turn does nothing. -/
def step : IngressEvent → Ingress × List IngressOutput
  | .enqueueCommand data now => (ingress.enqueueCommand data now, [])
  | .enqueueTeleop data sent wall now => (ingress.enqueueTeleop data sent wall now, [])
  | .advance => ({ ingress with connectionGeneration := ingress.connectionGeneration + 1 }, [])
  | .setConnected connected => ({ ingress with connected := connected }, [])
  | .disconnected => (ingress.teleopDisconnected, [])
  | .begin =>
    match ingress.drain with
    | .idle => ingress.beginDrain fittings
    | _ => (ingress, [])
  | .pop reading =>
    match ingress.drain, ingress.commandQueue with
    | .commands _ _, data :: queue =>
      ({ ingress with commandQueue := queue }, ingress.dispatch repr fittings reading data)
    | _, _ => (ingress, [])
  | .handRelease =>
    match ingress.drain, ingress.commandQueue with
    | .commands release sample, [] =>
      ({ ingress with drain := .sample sample }, ingress.hand fittings release)
    | _, _ => (ingress, [])
  | .handSample =>
    match ingress.drain with
    | .sample sample => ({ ingress with drain := .idle }, ingress.hand fittings sample)
    | _ => (ingress, [])

end

end Ingress

/-- The ingress as a machine. -/
def ingress (repr : Json → String) (fittings : Fittings) :
    Machine Ingress IngressEvent IngressOutput where
  step state event := state.step repr fittings event

/-! ### The commands that go through -/

/-- The commands of the queue: they come with `_enqueue_command` and leave when the
    drain handles them. -/
def commandFlow : ItemFlow Ingress IngressEvent IngressOutput Fields where
  content state := state.commandQueue
  arrivals state event :=
    match event with
    | .enqueueCommand data now => (state.entryOf now data).toList
    | _ => []
  departures output :=
    match output with
    | .handled command _ => [command]
    | _ => []

/-- No command comes to a full queue. -/
def Roomy (state : Ingress) (event : IngressEvent) : Prop :=
  ∀ data now, event = .enqueueCommand data now → state.entryOf now data ≠ none →
    state.commandQueue.length < commandLimit

namespace Ingress

variable {repr : Json → String} {fittings : Fittings} {state : Ingress}

/-- Every command taken from the queue is handled once. -/
theorem departures_dispatch (reading : Reading) (data : Fields) :
    (state.dispatch repr fittings reading data).flatMap commandFlow.departures = [data] := by
  unfold dispatch
  split
  · rfl
  · split
    · split
      · rfl
      · rfl
    · rfl

theorem departures_hand (frame : Option VelocityFrame) :
    (state.hand fittings frame).flatMap commandFlow.departures = [] := by
  simp [hand, List.flatMap_map, commandFlow]

/-- A velocity frame does not touch the queue. -/
theorem commandQueue_enqueueTeleop (data : Json) (sent : Option ℚ) (wall now : ℚ) :
    (state.enqueueTeleop data sent wall now).commandQueue = state.commandQueue := by
  unfold enqueueTeleop
  split
  · unfold storeFrame
    split
    · rfl
    · split
      · rfl
      · split <;> rfl
  · rfl

/-- Every step but the arrival of a command at a full queue conserves the commands. -/
theorem conserves_of_roomy (event : IngressEvent) (h : Roomy state event) :
    commandFlow.Conserves (ingress repr fittings) state event := by
  cases event with
  | enqueueCommand data now =>
    cases hentry : state.entryOf now data with
    | none => simp [ItemFlow.Conserves, ingress, step, enqueueCommand, commandFlow, hentry]
    | some entry =>
      have hlength := h data now rfl (by simp [hentry])
      have hdrop : state.commandQueue.length + 1 - commandLimit = 0 := by omega
      simp [ItemFlow.Conserves, ingress, step, enqueueCommand, commandFlow, hentry, hdrop]
  | enqueueTeleop data sent wall now =>
    have hqueue := @commandQueue_enqueueTeleop state data sent wall now
    simpa [ItemFlow.Conserves, ingress, step, commandFlow] using hqueue
  | advance => simp [ItemFlow.Conserves, ingress, step, commandFlow]
  | setConnected connected => simp [ItemFlow.Conserves, ingress, step, commandFlow]
  | disconnected => simp [ItemFlow.Conserves, ingress, step, commandFlow, teleopDisconnected]
  | «begin» =>
    unfold ItemFlow.Conserves
    simp only [ingress, step]
    split
    · simp only [beginDrain]
      split <;> simp [commandFlow]
    · simp [commandFlow]
  | pop reading =>
    unfold ItemFlow.Conserves
    simp only [ingress, step]
    split
    · rename_i data queue _ hqueue
      rw [departures_dispatch]
      simp [commandFlow, hqueue]
    · simp [commandFlow]
  | handRelease =>
    unfold ItemFlow.Conserves
    simp only [ingress, step]
    split
    · rw [departures_hand]
      simp [commandFlow]
    · simp [commandFlow]
  | handSample =>
    unfold ItemFlow.Conserves
    simp only [ingress, step]
    split
    · rw [departures_hand]
      simp [commandFlow]
    · simp [commandFlow]

/-- A full queue drops its oldest command for the one that comes. -/
theorem loses_of_not_roomy (event : IngressEvent) (h : ¬Roomy state event) :
    commandFlow.Loses (ingress repr fittings) state event := by
  unfold Roomy at h
  push Not at h
  obtain ⟨data, now, rfl, hentry, hfull⟩ := h
  obtain ⟨entry, hentry⟩ := Option.ne_none_iff_exists'.mp hentry
  have hlimit : 0 < commandLimit := by decide
  simp only [ItemFlow.Loses, ingress, step, enqueueCommand, commandFlow, hentry, List.flatMap_nil,
    List.nil_append, List.length_append, List.length_drop, Option.toList_some,
    List.length_singleton]
  omega

end Ingress

/-- In every run of arrivals and drains the commands handled, followed by those still
    queued, are the commands that came, each once and in the order of arrival, exactly if
    none comes while sixteen wait. -/
theorem commands_run (repr : Json → String) (fittings : Fittings) (events : List IngressEvent) :
    commandFlow.departed (ingress repr fittings) {} events ++
        ((ingress repr fittings).run {} events).commandQueue =
      commandFlow.arrived (ingress repr fittings) {} events ↔
    (ingress repr fittings).Along Roomy {} events :=
  commandFlow.conserved_iff (fun _ event => Ingress.conserves_of_roomy event)
    (fun _ event => Ingress.loses_of_not_roomy event)

/-- A stop, and sixteen goals after it. -/
def burst : List IngressEvent :=
  .enqueueCommand (.obj [("command", .str "stop")]) 0 ::
    List.replicate 16 (.enqueueCommand (.obj [("command", .str "navigate_to_pose")]) 0)

/-- The stop is not among the commands that the next drain handles, and not queued. -/
theorem not_commands :
    let machine := ingress (fun _ => "") ⟨true, true, true⟩
    let drain := .begin :: List.replicate 16 (.pop ⟨false, false⟩)
    (commandFlow.arrived machine {} (burst ++ drain)).any (isCommand · "stop") = true ∧
      (commandFlow.departed machine {} (burst ++ drain)).any (isCommand · "stop") = false ∧
      (machine.run {} (burst ++ drain)).commandQueue.isEmpty = true := by
  decide +kernel

end PatrolBot.Bridge
