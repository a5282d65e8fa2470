import Mathlib.Logic.Function.Basic
import PatrolBot.Library.Coroutine
import PatrolBot.Py

/-!
# State of the dashboard server

`TelemetryHub`, `CommandBroker`, `TeleopController` and `OperatorLease` as one
record: their handlers are coroutines of one event loop and all state changes
happen on that loop.  Of a robot's telemetry the slices are kept that more
than one handler reads (heartbeat, presence, measured motion, the session
generation of the base state); the gates over the others are asked for.  An
object whose identity the source compares (a robot session, an active command,
a manual owner) is a number that refers into the
table of its kind.  `Dashboard` adds the frames handed to the robot sockets,
each with the state of the server at that moment.
-/

namespace PatrolBot.Server

open Coroutine

/-! ### Messages -/

/-- `CommandType`. -/
inductive Command where
  | navigateToPose
  | setInitialPose
  | stop
  | teleopStart
  | teleopStop
  | chargeRelease
  | motorEnable
  | motorDisable
  | undock
  | softwareReset
  | setLidarPower
  | dockReset
deriving DecidableEq

namespace Command

def name : Command → String
  | navigateToPose => "navigate_to_pose"
  | setInitialPose => "set_initial_pose"
  | stop => "stop"
  | teleopStart => "teleop_start"
  | teleopStop => "teleop_stop"
  | chargeRelease => "charge_release"
  | motorEnable => "motor_enable"
  | motorDisable => "motor_disable"
  | undock => "undock"
  | softwareReset => "software_reset"
  | setLidarPower => "set_lidar_power"
  | dockReset => "dock_reset"

/-- `COMMAND_LABELS`. -/
def label : Command → String
  | navigateToPose => "Send robot to a destination"
  | setInitialPose => "Set robot location on the map"
  | stop => "Stop the robot"
  | teleopStart => "Begin manual drive"
  | teleopStop => "End manual input"
  | chargeRelease => "Release charging"
  | motorEnable => "Enable motors"
  | motorDisable => "Disable motors"
  | undock => "Move robot off its charging dock"
  | softwareReset => "Restart robot software"
  | setLidarPower => "Change LiDAR power"
  | dockReset => "Recover operation fault"

/-- The commands that pass the admission lock and a pending reset. -/
def endsInput : Command → Bool
  | stop | motorDisable | teleopStop => true
  | _ => false

/-- The commands that end manual input and skip the rate limit and the lease. -/
def emergency (c : Command) : Bool := c.endsInput || c == softwareReset

/-- The commands that may be sent while a LiDAR power change is pending. -/
def allowedWhileLidarPending (c : Command) : Bool := c.emergency || c == motorEnable

/-- `GOAL_REQUIRED`. -/
def goalRequired : Command → Bool
  | navigateToPose | setInitialPose => true
  | _ => false

def manual : Command → Bool
  | teleopStart | teleopStop => true
  | _ => false

/-- The commands refused until a LiDAR power recovery. -/
def needsLidar : Command → Bool
  | navigateToPose | setInitialPose | undock | chargeRelease | teleopStart => true
  | _ => false

/-- A command that has a gate in `GATES`, or `teleop_start`. -/
def gated : Command → Bool
  | stop | teleopStop => false
  | _ => true

end Command

/-- `CommandOutcome`. -/
inductive Outcome where
  | succeeded
  | failed
  | rejected
  | canceled
  | timeout
deriving DecidableEq

def Outcome.name : Outcome → String
  | .succeeded => "succeeded"
  | .failed => "failed"
  | .rejected => "rejected"
  | .canceled => "canceled"
  | .timeout => "timeout"

structure Goal where
  mapId : String
  mapRevision : String
  x : PyFloat
  y : PyFloat
  yaw : Option PyFloat
deriving DecidableEq

/-- `CommandRequestData`. -/
structure CommandRequest where
  commandId : String
  command : Command
  measuredSeed : Bool := false
  enabled : Option Bool := none
  goal : Option Goal := none
  takeover : Bool := false
  allowUnlocalized : Bool := false
  operatorAuthorized : Bool := false
deriving DecidableEq

/-- `TeleopVelocityData`. -/
structure Velocity where
  commandId : String
  seq : Int
  linear : ℚ
  angular : ℚ
  deadman : Bool
deriving DecidableEq

/-- What a robot answers to a command. -/
inductive RobotReply where
  | ack (commandId : String) (accepted : Bool) (reason : Option String)
  | progress (commandId stage : String) (detail : Option String) (remaining : Option PyFloat)
  | result (commandId : String) (outcome : Outcome) (detail : Option String)
deriving DecidableEq

def RobotReply.commandId : RobotReply → String
  | ack id .. | progress id .. | result id .. => id

/-- `ConnectionState`. -/
inductive Connection where
  | online
  | stale
  | offline
deriving DecidableEq

/-- What a `telemetry.motion` frame is bound to. -/
structure Motion where
  sessionGeneration : Int
  odomEpochGeneration : Int
deriving DecidableEq

/-- A frame of a robot for `handle_robot_message`. -/
inductive Telemetry where
  | baseState (sessionGeneration : Int)
  | motion (payload : Motion)
  | other
deriving DecidableEq

/-- What the browsers are told.  An event that reports the end of a command
    carries the command it is about. -/
inductive Publication where
  | reply (robotId : String) (payload : RobotReply)
  | event (robotId severity title message : String) (closes : Option Nat)
  | connection (robotId : String) (state : Connection)
deriving DecidableEq

/-! ### Objects -/

structure User where
  id : Nat
  username : String
  canCommand : Bool
deriving DecidableEq

/-- `BrowserClient`; `ref` tells two connections of one user apart. -/
structure BrowserClient where
  ref : Nat
  user : Option User
deriving DecidableEq

structure RobotSession where
  robotId : String
  websocket : Option Nat
  generation : Nat

/-- `RobotState`, one for all sessions of a robot. -/
structure RobotState where
  heartbeat : Option ℚ := none
  connection : Connection := .offline
  motion : Option Motion := none
deriving DecidableEq

structure LeaseHolder where
  userId : Nat
  username : String
  client : BrowserClient

structure ActiveCommand where
  commandId : String
  command : Command
  robotId : String
  initiator : BrowserClient
  acked : Bool := false
  uncertain : Bool := false
  robotSession : Nat
  robotWebsocket : Option Nat
  timers : List Nat := []

inductive TimerKind where
  | ack
  | result
deriving DecidableEq

/-- A task of `_ack_timeout` or `_result_timeout`. -/
structure Timer where
  kind : TimerKind
  entry : Nat
  fired : Bool := false
  cancelled : Bool := false

inductive Phase where
  | pending
  | active
  | closing
  | unknown
deriving DecidableEq

/-- `phase in {"pending", "active"}`. -/
def Phase.live : Phase → Bool
  | pending | active => true
  | _ => false

structure ManualOwner where
  commandId : String
  client : BrowserClient
  robotId : String
  session : Nat
  websocket : Nat
  generation : Nat
  baseGeneration : Int
  phase : Phase := .pending
  seq : Int := -1
  sendLock : Lock Velocity := {}
  startTerminal : Bool := false
  stopIds : List String := []
  stopIssued : Bool := false

/-- A row of `command_audit`, found by its unique `command_id`. -/
structure AuditRow where
  robotId : String
  command : String
  user : Option User
  sessionGeneration : Option Int
  outcome : Option Outcome
  detail : Option String
  rejectionReason : Option String

/-! ### Dictionaries -/

section Dict

variable {κ ν : Type} [DecidableEq κ]

/-- `d[k] = v`: an existing key keeps its place. -/
def dictSet : List (κ × ν) → κ → ν → List (κ × ν)
  | [], k, v => [(k, v)]
  | p :: d, k, v => if p.1 = k then (k, v) :: d else p :: dictSet d k v

/-- `d.pop(k, None)`. -/
def dictPop (d : List (κ × ν)) (k : κ) : List (κ × ν) := d.filter (·.1 ≠ k)

theorem eq_or_mem_of_mem_dictSet {d : List (κ × ν)} {k : κ} {v : ν} {p : κ × ν}
    (h : p ∈ dictSet d k v) : p = (k, v) ∨ p ∈ d := by
  induction d with
  | nil => simpa [dictSet] using h
  | cons q d ih =>
    rw [dictSet] at h
    split at h <;> rcases List.mem_cons.mp h with h | h
    · exact .inl h
    · exact .inr (List.mem_cons_of_mem _ h)
    · exact .inr (h ▸ List.mem_cons_self)
    · exact (ih h).imp_right (List.mem_cons_of_mem _)

theorem mem_dictSet_self (d : List (κ × ν)) (k : κ) (v : ν) : (k, v) ∈ dictSet d k v := by
  induction d with
  | nil => simp [dictSet]
  | cons q d ih =>
    rw [dictSet]
    split
    · simp
    · exact List.mem_cons_of_mem _ ih

theorem mem_dictSet_of_ne {d : List (κ × ν)} {k : κ} {v : ν} {p : κ × ν} (h : p ∈ d)
    (hne : p.1 ≠ k) : p ∈ dictSet d k v := by
  induction d with
  | nil => simp at h
  | cons q d ih =>
    rw [dictSet]
    rcases List.mem_cons.mp h with rfl | h
    · simp [hne]
    · split
      · exact List.mem_cons_of_mem _ h
      · exact List.mem_cons_of_mem _ (ih h)

@[simp] theorem lookup_dictSet (d : List (κ × ν)) (k k' : κ) (v : ν) :
    (dictSet d k v).lookup k' = if k' = k then some v else d.lookup k' := by
  induction d with
  | nil =>
    by_cases hk : k' = k
    · simp [dictSet, hk]
    · simp [dictSet, List.lookup_cons, hk, beq_eq_false_iff_ne.mpr hk]
  | cons q d ih =>
    obtain ⟨i, w⟩ := q
    by_cases hi : i = k
    · subst hi
      by_cases hk : k' = i
      · simp [dictSet, hk]
      · simp [dictSet, List.lookup_cons, hk, beq_eq_false_iff_ne.mpr hk]
    · by_cases hk : k' = i
      · subst hk
        simp [dictSet, hi]
      · simp [dictSet, hi, List.lookup_cons, beq_eq_false_iff_ne.mpr hk, ih]

@[simp] theorem mem_dictPop {d : List (κ × ν)} {k : κ} {p : κ × ν} :
    p ∈ dictPop d k ↔ p ∈ d ∧ p.1 ≠ k := by
  simp [dictPop]

@[simp] theorem lookup_dictPop (d : List (κ × ν)) (k k' : κ) :
    (dictPop d k).lookup k' = if k' = k then none else d.lookup k' := by
  induction d with
  | nil => simp [dictPop]
  | cons q d ih =>
    obtain ⟨i, w⟩ := q
    rw [dictPop] at ih ⊢
    by_cases hi : i = k
    · subst hi
      by_cases hk : k' = i
      · simpa [hk] using ih
      · simpa [hk, List.lookup_cons, beq_eq_false_iff_ne.mpr hk] using ih
    · by_cases hk : k' = i
      · subst hk
        simp [hi]
      · simpa [hi, List.lookup_cons, beq_eq_false_iff_ne.mpr hk] using ih

theorem exists_lookup_of_mem {d : List (κ × ν)} {k : κ} {v : ν} (h : (k, v) ∈ d) :
    ∃ w, d.lookup k = some w := by
  induction d with
  | nil => simp at h
  | cons p d ih =>
    obtain ⟨i, w⟩ := p
    by_cases hk : k = i
    · exact ⟨w, by simp [hk]⟩
    · simp only [List.mem_cons, Prod.mk.injEq, hk, false_and, false_or] at h
      obtain ⟨w', hw'⟩ := ih h
      exact ⟨w', by simpa [List.lookup_cons, beq_eq_false_iff_ne.mpr hk] using hw'⟩

theorem mem_of_lookup {d : List (κ × ν)} {k : κ} {v : ν} (h : d.lookup k = some v) :
    (k, v) ∈ d := by
  obtain ⟨before, after, rfl, -⟩ := List.lookup_eq_some_iff.mp h
  simp

end Dict

/-! ### The server -/

structure State where
  -- `TelemetryHub`, with the flag `BrowserClient.connected`
  robots : String → Option Nat
  session : Nat → RobotSession
  sessions : Nat
  robotState : String → RobotState
  baseGeneration : String → Option Int
  closedSockets : List Nat
  connected : BrowserClient → Bool
  published : List Publication
  -- the table `command_audit`
  audit : String → Option AuditRow
  -- `OperatorLease`
  holders : String → Option LeaseHolder
  -- `CommandBroker`
  active : List (String × Nat)
  entry : Nat → ActiveCommand
  entries : Nat
  admissionLock : String → Lock Unit
  resetPending : String → Option String
  lidarPending : String → Option String
  lidarRecoveryRequired : String → Bool
  lidarStateAfter : String → Bool
  seen : List String
  timers : List Timer
  -- `TeleopController`
  owners : List (String × Nat)
  owner : Nat → ManualOwner
  ownerCount : Nat
  revisions : String → Nat
  -- Observed, and read by no handler: the audit lookups under way with the task that waits and
  -- the answer it will get, the ids entered into the audit as admitted with the task that admitted
  -- them, the requests handed to a socket with the task that did, the commands closed with their
  -- outcomes, the tasks that still close one, the tasks that replace a session they found, and
  -- the tasks that are about to take a session's robot offline.
  lookups : List (Nat × String × Bool)
  admitted : List (String × Nat)
  forwarded : List (Nat × CommandRequest)
  closed : List (Nat × Outcome)
  closing : List (Nat × Nat)
  connecting : List (Nat × String × Nat)
  leaving : List (Nat × Nat)

inductive FrameBody where
  | request (payload : CommandRequest)
  | cancel (commandId : String)
  | velocity (owner : Nat) (payload : Velocity)

/-- A frame for a robot. -/
structure Frame where
  robotId : String
  websocket : Nat
  body : FrameBody

structure Dashboard extends State where
  wire : List (Frame × State)

namespace State

variable (s : State)

/-- `bound(owner)`. -/
def bound (o : Nat) : Bool :=
  let owner := s.owner o
  s.robots owner.robotId == some owner.session &&
    (s.session owner.session).websocket == some owner.websocket &&
    (s.session owner.session).generation == owner.generation &&
    s.baseGeneration owner.robotId == some owner.baseGeneration

/-- `owns_lease(owner)`. -/
def ownsLease (o : Nat) : Bool :=
  let owner := s.owner o
  match s.holders owner.robotId with
  | none => false
  | some holder => decide (holder.client = owner.client) && s.connected owner.client

/-- `command_recorded`. -/
def recorded (commandId : String) : Bool := (s.audit commandId).isSome

/-- `command_id in self.active`. -/
def isActive (commandId : String) : Bool := (s.active.lookup commandId).isSome

/-- `can_command`. -/
def canCommand (robotId : String) (user : User) : Bool :=
  match s.holders robotId with
  | none => true
  | some holder => holder.userId == user.id

/-- A timer task that the close-out of its command has cancelled. -/
def timerCancelled (timer : Nat) : Bool := (s.timers[timer]?).any (·.cancelled)

end State

namespace Dashboard

variable (s : Dashboard)

/-- Hand a frame to a socket. -/
def write (frame : Frame) : Dashboard := { s with wire := s.wire ++ [(frame, s.toState)] }

/-- Hand the frame of a request to a socket; the task `t` forwards it. -/
def forward (t : Nat) (frame : Frame) (payload : CommandRequest) : Dashboard :=
  { s.write frame with forwarded := s.forwarded ++ [(t, payload)] }

def publish (p : Publication) : Dashboard := { s with published := s.published ++ [p] }

def setRobotState (robotId : String) (state : RobotState) : Dashboard :=
  { s with robotState := Function.update s.robotState robotId state }

def setOwner (o : Nat) (owner : ManualOwner) : Dashboard :=
  { s with owner := Function.update s.owner o owner }

def setEntry (e : Nat) (entry : ActiveCommand) : Dashboard :=
  { s with entry := Function.update s.entry e entry }

def setSendLock (o : Nat) (lock : Lock Velocity) : Dashboard :=
  s.setOwner o { s.owner o with sendLock := lock }

def setPhase (o : Nat) (phase : Phase) : Dashboard :=
  s.setOwner o { s.owner o with phase := phase }

/-- `INSERT OR IGNORE INTO command_audit`. -/
def insertAudit (commandId : String) (row : AuditRow) : Dashboard :=
  { s with audit := if s.recorded commandId then s.audit
      else Function.update s.audit commandId (some row) }

/-- `UPDATE command_audit SET outcome = ?, detail = ?`. -/
def completeAudit (commandId : String) (outcome : Outcome) (detail : String) : Dashboard :=
  { s with audit := Function.update s.audit commandId ((s.audit commandId).map fun row =>
      { row with outcome := some outcome, detail := some detail }) }

/-- `_identity`, as the columns of a row for a request of the client. -/
def auditRow (client : BrowserClient) (robotId command : String) (outcome : Option Outcome)
    (reason : Option String) : AuditRow where
  robotId := robotId
  command := command
  user := client.user
  sessionGeneration := if (s.robots robotId).isSome then s.baseGeneration robotId else none
  outcome := outcome
  detail := reason
  rejectionReason := reason

/-- `_remember`: at most 512 ids, the oldest goes first. -/
def remember (commandId : String) : Dashboard :=
  let seen := if s.seen.contains commandId then s.seen else s.seen ++ [commandId]
  { s with seen := seen.drop (seen.length - 512) }

/-- `release_client`, and the client is gone. -/
def browserDisconnected (client : BrowserClient) : Dashboard :=
  { s with
    connected := Function.update s.connected client false
    holders := fun robotId =>
      match s.holders robotId with
      | none => none
      | some holder => if holder.client = client then none else some holder }

end Dashboard

end PatrolBot.Server
