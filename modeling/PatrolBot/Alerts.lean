import Mathlib.Data.Rat.Floor
import PatrolBot.Library.Signals
import PatrolBot.ServerStatus

/-!
# The alerts of a robot

`RobotState` of `telemetry/store.py`: what a report, or a change of the connection, adds to
the list of alerts.  An alert tells of a flip between two reports that follow each other;
the warning of a stuck robot tells of a standstill that lasts.  The numbers and the times
that `add_event` gives the alerts are not of this module.
-/

namespace PatrolBot.Alerts

open Diagnostics (Notice DiagnosticItem)
open Server (BaseStateData PoseData BatteryData ConnectionState)
open Signals

/-! ### The store -/

structure Settings where
  batteryLowPercent : ℚ := 20
  stallWarningS : ℚ := 15
  -- `f"{percentage:.0f}"`
  wholePercent : ℚ → String
  -- `str.casefold`
  casefold : String → String

/-- A `PathData`, as to whether it has a goal. -/
structure PathData where
  goal : Bool

/-- The part of `RobotState` that alerts are raised from. -/
structure RobotState where
  path : Option PathData := none
  baseState : Option BaseStateData := none
  battery : Option BatteryData := none
  diagnostics : Diagnostics.Store := {}
  connection : ConnectionState := .offline
  prevEstop : Bool := false
  prevBumper : Bool := false
  prevBatteryLow : Bool := false
  stoppedSinceMono : Option ℚ := none
  stalled : Bool := false

/-- `int(seconds)`. -/
def wholeSeconds (seconds : ℚ) : Int := if 0 ≤ seconds then ⌊seconds⌋ else ⌈seconds⌉

def stuckNotice (settings : Settings) : Notice :=
  ⟨"warning", "Robot may be stuck",
    "The robot has an active destination but has not moved for " ++
      toString (wholeSeconds settings.stallWarningS) ++ " seconds."⟩

def batteryLowNotice (settings : Settings) (percentage : ℚ) : Notice :=
  ⟨"warning", "Battery is getting low",
    "Battery is at " ++ settings.wholePercent percentage ++
      "%. The robot should return to its charging dock soon."⟩

def chargingNotice (charging : Bool) : Notice :=
  if charging then ⟨"info", "Charging started", "The robot is charging."⟩
  else ⟨"info", "Charging stopped", "The robot left its charger."⟩

def estopNotice (pressed : Bool) : Notice :=
  if pressed then
    ⟨"critical", "Emergency stop pressed",
      "The robot's emergency stop was pressed. The robot cannot move until it is released."⟩
  else ⟨"info", "Emergency stop released", "The robot can move again."⟩

def bumperNotice (front : Bool) : Notice :=
  ⟨"warning", "Bumper pressed",
    "The robot's " ++ (if front then "front" else "rear") ++
      " bumper touched something. Check that its path is clear."⟩

def mapNotice (name : String) : Notice :=
  ⟨"info", "Map updated", "The robot is now using map “" ++ name ++ "”."⟩

def connectionNotice : ConnectionState → Option Notice
  | .offline =>
    some ⟨"critical", "Robot disconnected",
      "The dashboard stopped receiving data from the robot."⟩
  | .online =>
    some ⟨"info", "Robot connected",
      "The dashboard is connected to the robot's onboard computer."⟩
  | .stale => none

/-- The base state accounts for a standstill. -/
def explained (base : Option BaseStateData) : Bool :=
  base.any fun base => !base.motorsEnabled || base.estopPressed

def stopped (data : PoseData) : Bool :=
  decide (|data.linearVelocity| < 1 / 50) && decide (|data.angularVelocity| < 1 / 20)

/-- `_update_stall`. -/
def updateStall (settings : Settings) (now : ℚ) (data : PoseData) (s : RobotState) :
    RobotState × List Notice :=
  if !s.path.any PathData.goal || !stopped data || explained s.baseState then
    ({ s with stoppedSinceMono := none, stalled := false }, [])
  else
    let since := s.stoppedSinceMono.getD now
    let s := { s with stoppedSinceMono := some since }
    if s.stalled || decide (now - since < settings.stallWarningS) then (s, [])
    else ({ s with stalled := true }, [stuckNotice settings])

/-- The battery is low, and nothing is done about it. -/
def isLow (settings : Settings) (data : BatteryData) : Bool :=
  data.percentage.any (fun percentage => decide (percentage ≤ settings.batteryLowPercent)) &&
    !data.charging

/-- `record_battery`. -/
def recordBattery (settings : Settings) (data : BatteryData) (s : RobotState) :
    RobotState × List Notice :=
  let low := if isLow settings data && !s.prevBatteryLow then
    [batteryLowNotice settings (data.percentage.getD 0)] else []
  let charging := match s.battery with
    | none => []
    | some previous =>
      (if data.charging && !previous.charging then [chargingNotice true] else []) ++
        if !data.charging && previous.charging then [chargingNotice false] else []
  ({ s with battery := some data, prevBatteryLow := isLow settings data }, low ++ charging)

def bumper (data : BaseStateData) : Bool := data.bumpersFront || data.bumpersRear

/-- `record_base_state`. -/
def recordBaseState (data : BaseStateData) (s : RobotState) : RobotState × List Notice :=
  let pressed := if data.estopPressed && !s.prevEstop then [estopNotice true] else []
  let released := if !data.estopPressed && s.prevEstop then [estopNotice false] else []
  let touched := if bumper data && !s.prevBumper then [bumperNotice data.bumpersFront] else []
  ({ s with
      baseState := some data
      prevEstop := data.estopPressed
      prevBumper := bumper data }, pressed ++ released ++ touched)

/-- `set_connection`. -/
def setConnection (state : ConnectionState) (s : RobotState) : RobotState × List Notice :=
  if state = s.connection then (s, [])
  else
    let diagnostics := if state = .online then {} else s.diagnostics
    ({ s with diagnostics := diagnostics, connection := state }, (connectionNotice state).toList)

/-- What the hub does to the state of a robot. -/
inductive Call where
  | pose (data : PoseData)
  | path (data : PathData)
  | battery (data : BatteryData)
  | baseState (data : BaseStateData)
  | diagnostics (items : List DiagnosticItem)
  | map (name : String)
  -- a heartbeat, a scan, a motion sample or a resource report
  | quiet
  | setConnection (state : ConnectionState)
  | recompute
  -- `add_event` from a recording or a command
  | addEvent (notice : Notice)

/-- A call, with the clock it reads. -/
def handle (settings : Settings) (now : ℚ) (s : RobotState) : Call → RobotState × List Notice
  | .pose data => updateStall settings now data s
  | .path data => ({ s with path := some data }, [])
  | .battery data => recordBattery settings data s
  | .baseState data => recordBaseState data s
  | .diagnostics items =>
    let recorded := Diagnostics.recordDiagnostics settings.casefold now items s.diagnostics
    ({ s with diagnostics := recorded.1 }, recorded.2)
  | .map name => (s, [mapNotice name])
  | .quiet => (s, [])
  | .setConnection state => setConnection state s
  | .recompute =>
    ({ s with
        diagnostics := Diagnostics.refreshDiagnostics settings.casefold now s.diagnostics }, [])
  | .addEvent notice => (s, [notice])

def alertStore (settings : Settings) : Machine RobotState (ℚ × Call) Notice where
  step s timed := handle settings timed.1 s timed.2

/-- The state after the calls. -/
def after (settings : Settings) (calls : List (ℚ × Call)) : RobotState :=
  (alertStore settings).run {} calls

/-! ### What was reported -/

def Call.baseData? : Call → Option BaseStateData
  | .baseState data => some data
  | _ => none

def Call.pathData? : Call → Option PathData
  | .path data => some data
  | _ => none

def Call.batteryData? : Call → Option BatteryData
  | .battery data => some data
  | _ => none

def Call.state? : Call → Option ConnectionState
  | .setConnection state => some state
  | _ => none

def bases (calls : List (ℚ × Call)) : List BaseStateData := calls.filterMap (·.2.baseData?)

def paths (calls : List (ℚ × Call)) : List PathData := calls.filterMap (·.2.pathData?)

def batteries (calls : List (ℚ × Call)) : List BatteryData := calls.filterMap (·.2.batteryData?)

def states (calls : List (ℚ × Call)) : List ConnectionState := calls.filterMap (·.2.state?)

/-- A robot with a destination stands still, and its base state does not say why. -/
def standstill (path : Option PathData) (base : Option BaseStateData) (data : PoseData) : Bool :=
  path.any PathData.goal && stopped data && !explained base

/-- The pose reports, with the path and the base state that were the latest then. -/
def standstills (path : Option PathData) (base : Option BaseStateData) :
    List (ℚ × Call) → List (Bool × ℚ)
  | [] => []
  | (now, .pose data) :: calls => (standstill path base data, now) :: standstills path base calls
  | (_, .path data) :: calls => standstills (some data) base calls
  | (_, .baseState data) :: calls => standstills path (some data) calls
  | _ :: calls => standstills path base calls

/-- How long the robot has stood still: the times of the last reports in a row that say so. -/
def standing (calls : List (ℚ × Call)) : List ℚ := stretch (standstills none none calls)

section

variable {calls : List (ℚ × Call)} {path : Option PathData} {base : Option BaseStateData}

theorem standstills_append (calls' : List (ℚ × Call)) :
    standstills path base (calls ++ calls') =
      standstills path base calls ++
        standstills (latest some path (paths calls)) (latest some base (bases calls)) calls' := by
  induction calls generalizing path base with
  | nil => rfl
  | cons timed calls ih =>
    obtain ⟨now, call⟩ := timed
    cases call <;> simp only [List.cons_append, standstills, ih] <;> rfl

@[simp] theorem bases_concat (now : ℚ) (call : Call) :
    bases (calls ++ [(now, call)]) = bases calls ++ call.baseData?.toList := by
  cases call <;> simp [bases, Call.baseData?]

@[simp] theorem paths_concat (now : ℚ) (call : Call) :
    paths (calls ++ [(now, call)]) = paths calls ++ call.pathData?.toList := by
  cases call <;> simp [paths, Call.pathData?]

@[simp] theorem batteries_concat (now : ℚ) (call : Call) :
    batteries (calls ++ [(now, call)]) = batteries calls ++ call.batteryData?.toList := by
  cases call <;> simp [batteries, Call.batteryData?]

@[simp] theorem states_concat (now : ℚ) (call : Call) :
    states (calls ++ [(now, call)]) = states calls ++ call.state?.toList := by
  cases call <;> simp [states, Call.state?]

end

/-! ### What the store remembers -/

/-- The timer of the warning of a stuck robot. -/
def RobotState.stallTimer (s : RobotState) : Timer ℚ := ⟨s.stoppedSinceMono, s.stalled⟩

/-- `_update_stall` is a timer over standstills. -/
theorem updateStall_eq (settings : Settings) (now : ℚ) (data : PoseData) (s : RobotState) :
    let sampled := s.stallTimer.sample settings.stallWarningS
      (standstill s.path s.baseState data) now
    updateStall settings now data s =
      ({ s with stoppedSinceMono := sampled.1.since, stalled := sampled.1.fired },
        if sampled.2 then [stuckNotice settings] else []) := by
  have hguard : (!s.path.any PathData.goal || !stopped data || explained s.baseState) =
      !standstill s.path s.baseState data := by
    simp [standstill, Bool.not_and]
  simp only [updateStall, hguard, RobotState.stallTimer, Timer.sample]
  cases standstill s.path s.baseState data with
  | false => simp
  | true =>
    simp only [Bool.not_true, Bool.false_eq_true, if_false, if_true]
    by_cases hshort : now - s.stoppedSinceMono.getD now < settings.stallWarningS
    · simp [hshort]
    · by_cases hstalled : s.stalled = true
      · simp [hstalled]
      · simp [hstalled, hshort]

/-- The state as the history of the calls tells it. -/
structure Remembers (settings : Settings) (calls : List (ℚ × Call)) (s : RobotState) : Prop where
  path : s.path = latest some none (paths calls)
  baseState : s.baseState = latest some none (bases calls)
  battery : s.battery = latest some none (batteries calls)
  connection : s.connection = latest id .offline (states calls)
  estop : s.prevEstop = latest BaseStateData.estopPressed false (bases calls)
  bumper : s.prevBumper = latest bumper false (bases calls)
  low : s.prevBatteryLow = latest (isLow settings) false (batteries calls)
  stall : s.stallTimer.Follows settings.stallWarningS (standstills none none calls)

theorem remembers_nil (settings : Settings) : Remembers settings [] {} where
  path := rfl
  baseState := rfl
  battery := rfl
  connection := rfl
  estop := rfl
  bumper := rfl
  low := rfl
  stall := Timer.follows_nil settings.stallWarningS

section

variable {settings : Settings} {calls : List (ℚ × Call)} {s : RobotState}

/-- A state that took one call, field by field. -/
theorem Remembers.concat (h : Remembers settings calls s) {now : ℚ} {call : Call}
    {next : RobotState} (hpath : next.path = latest some s.path call.pathData?.toList)
    (hbase : next.baseState = latest some s.baseState call.baseData?.toList)
    (hbattery : next.battery = latest some s.battery call.batteryData?.toList)
    (hconnection : next.connection = latest id s.connection call.state?.toList)
    (hestop : next.prevEstop =
      latest BaseStateData.estopPressed s.prevEstop call.baseData?.toList)
    (hbumper : next.prevBumper = latest Alerts.bumper s.prevBumper call.baseData?.toList)
    (hlow : next.prevBatteryLow = latest (isLow settings) s.prevBatteryLow call.batteryData?.toList)
    (hstall : next.stallTimer.Follows settings.stallWarningS
      (standstills none none calls ++ standstills s.path s.baseState [(now, call)])) :
    Remembers settings (calls ++ [(now, call)]) next where
  path := by rw [hpath, paths_concat, latest_append, h.path]
  baseState := by rw [hbase, bases_concat, latest_append, h.baseState]
  battery := by rw [hbattery, batteries_concat, latest_append, h.battery]
  connection := by rw [hconnection, states_concat, latest_append, h.connection]
  estop := by rw [hestop, bases_concat, latest_append, h.estop]
  bumper := by rw [hbumper, bases_concat, latest_append, h.bumper]
  low := by rw [hlow, batteries_concat, latest_append, h.low]
  stall := by rwa [standstills_append, ← h.path, ← h.baseState]

/-- Every call keeps the state what the history tells. -/
theorem Remembers.handle (h : Remembers settings calls s) (now : ℚ) (call : Call) :
    Remembers settings (calls ++ [(now, call)]) (handle settings now s call).1 := by
  have hsame : s.stallTimer.Follows settings.stallWarningS (standstills none none calls ++ []) := by
    rw [List.append_nil]
    exact h.stall
  cases call with
  | pose data =>
    rw [Alerts.handle, updateStall_eq]
    exact h.concat rfl rfl rfl rfl rfl rfl rfl (h.stall.sample _).1
  | path data => exact h.concat rfl rfl rfl rfl rfl rfl rfl hsame
  | battery data => exact h.concat rfl rfl rfl rfl rfl rfl rfl hsame
  | baseState data => exact h.concat rfl rfl rfl rfl rfl rfl rfl hsame
  | diagnostics items => exact h.concat rfl rfl rfl rfl rfl rfl rfl hsame
  | map name => exact h.concat rfl rfl rfl rfl rfl rfl rfl hsame
  | quiet => exact h.concat rfl rfl rfl rfl rfl rfl rfl hsame
  | recompute => exact h.concat rfl rfl rfl rfl rfl rfl rfl hsame
  | addEvent notice => exact h.concat rfl rfl rfl rfl rfl rfl rfl hsame
  | setConnection state =>
    rw [Alerts.handle, Alerts.setConnection]
    by_cases hstate : state = s.connection
    · rw [if_pos hstate]
      exact h.concat rfl rfl rfl hstate.symm rfl rfl rfl hsame
    · rw [if_neg hstate]
      exact h.concat rfl rfl rfl rfl rfl rfl rfl hsame

/-- The state of every run is what its history tells. -/
theorem remembers_after (settings : Settings) (calls : List (ℚ × Call)) :
    Remembers settings calls (after settings calls) := by
  induction calls using List.reverseRecOn with
  | nil => exact remembers_nil settings
  | append_singleton calls timed ih =>
    rw [after, Machine.run_append]
    exact ih.handle timed.1 timed.2

end

/-! ### A robot that is stuck -/

/-- The alerts of a call after a history. -/
def raised (settings : Settings) (calls : List (ℚ × Call)) (now : ℚ) (call : Call) : List Notice :=
  (handle settings now (after settings calls) call).2

/-- A pose report of a robot that stands still, by what was reported before it. -/
def standsStill (calls : List (ℚ × Call)) (data : PoseData) : Bool :=
  standstill (latest some none (paths calls)) (latest some none (bases calls)) data

/-- The standstill has lasted. -/
def Lasting (settings : Settings) (calls : List (ℚ × Call)) : Prop :=
  Overdue settings.stallWarningS (standing calls)

section

variable {settings : Settings} {calls : List (ℚ × Call)} {now : ℚ} {data : PoseData}

theorem standing_pose :
    standing (calls ++ [(now, .pose data)]) =
      stretch (standstills none none calls ++ [(standsStill calls data, now)]) := by
  rw [standing, standstills_append]
  rfl

/-- A lasting standstill ends with a pose report that denies it. -/
theorem exists_of_not_lasting {between : List (ℚ × Call)} (h : Lasting settings calls)
    (hend : ¬ Lasting settings (calls ++ between)) :
    ∃ first time data rest, between = first ++ (time, .pose data) :: rest ∧
      standsStill (calls ++ first) data = false := by
  induction between generalizing calls with
  | nil => exact absurd (by rwa [List.append_nil]) hend
  | cons timed between ih =>
    by_cases hnext : Lasting settings (calls ++ [timed])
    · obtain ⟨first, time, data, rest, rfl, hmoves⟩ := ih hnext (by simpa using hend)
      exact ⟨timed :: first, time, data, rest, rfl, by simpa using hmoves⟩
    · obtain ⟨time, call⟩ := timed
      -- Only a pose report is a sample.
      cases call with
      | pose data =>
        refine ⟨[], time, data, between, rfl, ?_⟩
        rw [List.append_nil, ← Bool.not_eq_true]
        intro hstill
        refine hnext ?_
        rw [Lasting, standing_pose, hstill, stretch_concat_true]
        exact h.concat
      | _ =>
        refine absurd ?_ hnext
        rw [Lasting, standing, standstills_append]
        simpa [Lasting, standing, standstills] using h

theorem lasting_iff : Lasting settings calls ↔ (after settings calls).stalled = true :=
  (remembers_after settings calls).stall.fired.symm

/-- What a pose report raises. -/
theorem raised_pose :
    (raised settings calls now (.pose data) = [stuckNotice settings] ∨
        raised settings calls now (.pose data) = []) ∧
      (raised settings calls now (.pose data) = [stuckNotice settings] ↔
        Lasting settings (calls ++ [(now, .pose data)]) ∧ ¬ Lasting settings calls) := by
  have h := remembers_after settings calls
  have hsample := (@Signals.Timer.Follows.sample _ _ now _ _ _ _ h.stall (standsStill calls data)).2
  rw [raised, handle, updateStall_eq, h.path, h.baseState, Lasting, Lasting, standing_pose,
    standing, ← hsample, ← standsStill]
  split
  · rename_i hgoes
    exact ⟨Or.inl rfl, by simp [hgoes]⟩
  · rename_i hgoes
    exact ⟨Or.inr rfl, by simp [hgoes]⟩

end

/-- When the warning is raised: at the pose report with which the standstill has lasted, and
    again only after one that denies it. -/
structure WarnsOnce (settings : Settings) (calls : List (ℚ × Call)) : Prop where
  stalled : (after settings calls).stalled = true ↔ Lasting settings calls
  raised (now : ℚ) (data : PoseData) :
    (raised settings calls now (.pose data) = [stuckNotice settings] ∨
        raised settings calls now (.pose data) = []) ∧
      (raised settings calls now (.pose data) = [stuckNotice settings] ↔
        Lasting settings (calls ++ [(now, .pose data)]) ∧ ¬ Lasting settings calls)
  apart {before between : List (ℚ × Call)} {now now' : ℚ} {data data' : PoseData} :
    calls = before ++ (now, .pose data) :: between →
    Alerts.raised settings before now (.pose data) = [stuckNotice settings] →
    Alerts.raised settings calls now' (.pose data') = [stuckNotice settings] →
    ∃ first time other rest, between = first ++ (time, .pose other) :: rest ∧
      standsStill (before ++ (now, .pose data) :: first) other = false

def history (settings : Settings) (calls : List (ℚ × Call)) : List ((ℚ × Call) × List Notice) :=
  (alertStore settings).trace {} calls

/-- The alerts of a run with one of the titles that calls of a kind raised. -/
def channel (kind : Call → Bool) (titles : List String) (settings : Settings)
    (calls : List (ℚ × Call)) : List Notice :=
  (history settings calls).flatMap fun segment =>
    if kind segment.1.2 then segment.2.filter (fun notice => titles.contains notice.title) else []

def Call.isBaseState (call : Call) : Bool := call.baseData?.isSome

def Call.isBattery (call : Call) : Bool := call.batteryData?.isSome

def Call.isSetConnection (call : Call) : Bool := call.state?.isSome

def estopAlerts (settings : Settings) (calls : List (ℚ × Call)) : List Notice :=
  channel Call.isBaseState ["Emergency stop pressed", "Emergency stop released"] settings calls

def bumperAlerts (settings : Settings) (calls : List (ℚ × Call)) : List Notice :=
  channel Call.isBaseState ["Bumper pressed"] settings calls

def lowAlerts (settings : Settings) (calls : List (ℚ × Call)) : List Notice :=
  channel Call.isBattery ["Battery is getting low"] settings calls

def chargingAlerts (settings : Settings) (calls : List (ℚ × Call)) : List Notice :=
  channel Call.isBattery ["Charging started", "Charging stopped"] settings calls

def connectionAlerts (settings : Settings) (calls : List (ℚ × Call)) : List Notice :=
  channel Call.isSetConnection ["Robot disconnected", "Robot connected"] settings calls

/-- The reports that start or stop the charging; the first one does neither. -/
def chargeFlips : List BatteryData → List BatteryData
  | [] => []
  | first :: reports => flips BatteryData.charging first.charging reports

section

variable {settings : Settings} {calls : List (ℚ × Call)} {now : ℚ} {call : Call}

theorem channel_concat (kind : Call → Bool) (titles : List String) :
    channel kind titles settings (calls ++ [(now, call)]) =
      channel kind titles settings calls ++
        if kind call then
          (raised settings calls now call).filter fun notice => titles.contains notice.title
        else [] := by
  simp only [channel, history, Machine.trace_append, List.flatMap_append, Machine.trace_cons,
    Machine.trace_nil, List.flatMap_cons, List.flatMap_nil, List.append_nil]
  rfl

theorem chargeFlips_concat {reports : List BatteryData} {data : BatteryData} :
    chargeFlips (reports ++ [data]) =
      chargeFlips reports ++
        if (latest some none reports).all fun previous => data.charging = previous.charging then []
        else [data] := by
  cases reports with
  | nil => simp [chargeFlips, flips, latest]
  | cons first reports =>
    have hlatest : latest some (some first) reports = some (latest id first reports) :=
      latest_comp some
    have hcharging : latest BatteryData.charging first.charging reports =
        (latest id first reports).charging := latest_comp BatteryData.charging
    rw [List.cons_append, chargeFlips, flips_concat, chargeFlips, latest, hlatest, hcharging]
    simp

end

/-- What the alerts of a run tell: the flips between reports that follow each other. -/
structure TellsFlips (settings : Settings) (calls : List (ℚ × Call)) : Prop where
  estop : estopAlerts settings calls =
    (flips BaseStateData.estopPressed false (bases calls)).map fun data =>
      estopNotice data.estopPressed
  bumper : bumperAlerts settings calls =
    ((flips Alerts.bumper false (bases calls)).filter Alerts.bumper).map fun data =>
      bumperNotice data.bumpersFront
  low : lowAlerts settings calls =
    ((flips (isLow settings) false (batteries calls)).filter (isLow settings)).map fun data =>
      batteryLowNotice settings (data.percentage.getD 0)
  charging : chargingAlerts settings calls =
    (chargeFlips (batteries calls)).map fun data => chargingNotice data.charging
  connection : connectionAlerts settings calls =
    (flips id .offline (states calls)).filterMap connectionNotice
  -- Presses and releases take turns, a press first, and the last one is what is so now.
  estopAlternates : (estopNotice false :: estopAlerts settings calls).IsChain (· ≠ ·)
  estopLatest : latest id (estopNotice false) (estopAlerts settings calls) =
    estopNotice (latest BaseStateData.estopPressed false (bases calls))
  chargingAlternates : (chargingAlerts settings calls).IsChain (· ≠ ·)

section

variable {settings : Settings} {calls : List (ℚ × Call)} {now : ℚ} {call : Call}

theorem raised_baseState (data : BaseStateData) :
    raised settings calls now (.baseState data) =
      (if data.estopPressed = latest BaseStateData.estopPressed false (bases calls) then []
        else [estopNotice data.estopPressed]) ++
      if bumper data && !latest bumper false (bases calls) then [bumperNotice data.bumpersFront]
      else [] := by
  have h := remembers_after settings calls
  rw [raised, handle, recordBaseState, h.estop, h.bumper]
  cases data.estopPressed <;>
    cases latest BaseStateData.estopPressed false (bases calls) <;> rfl

theorem raised_battery (data : BatteryData) :
    raised settings calls now (.battery data) =
      (if isLow settings data && !latest (isLow settings) false (batteries calls) then
        [batteryLowNotice settings (data.percentage.getD 0)] else []) ++
      if (latest some none (batteries calls)).all fun previous =>
          data.charging = previous.charging then []
      else [chargingNotice data.charging] := by
  have h := remembers_after settings calls
  rw [raised, handle, recordBattery, h.low, h.battery]
  cases latest some none (batteries calls) with
  | none => rfl
  | some previous => cases data.charging <;> cases hp : previous.charging <;> simp [hp]

theorem raised_setConnection (state : ConnectionState) :
    raised settings calls now (.setConnection state) =
      if state = latest id .offline (states calls) then []
      else (connectionNotice state).toList := by
  have h := remembers_after settings calls
  rw [raised, handle, setConnection, h.connection]
  split <;> rfl

theorem flips_estop :
    estopAlerts settings calls =
      (flips BaseStateData.estopPressed false (bases calls)).map fun data =>
        estopNotice data.estopPressed := by
  induction calls using List.reverseRecOn with
  | nil => rfl
  | append_singleton calls timed ih =>
    obtain ⟨now, call⟩ := timed
    rw [estopAlerts, channel_concat, ← estopAlerts, ih]
    cases call with
    | baseState data =>
      rw [raised_baseState, bases_concat, Call.baseData?, Option.toList_some, flips_concat,
        List.map_append]
      congr 1
      cases hpressed : data.estopPressed <;>
        cases latest BaseStateData.estopPressed false (bases calls) <;>
        cases bumper data && !latest bumper false (bases calls) <;>
        simp [hpressed, estopNotice, bumperNotice, Call.isBaseState, Call.baseData?]
    | _ => simp [Call.isBaseState, Call.baseData?]

theorem flips_bumper :
    bumperAlerts settings calls =
      ((flips bumper false (bases calls)).filter bumper).map fun data =>
        bumperNotice data.bumpersFront := by
  induction calls using List.reverseRecOn with
  | nil => rfl
  | append_singleton calls timed ih =>
    obtain ⟨now, call⟩ := timed
    rw [bumperAlerts, channel_concat, ← bumperAlerts, ih]
    cases call with
    | baseState data =>
      rw [raised_baseState, bases_concat, Call.baseData?, Option.toList_some, flips_concat,
        List.filter_append (p := bumper), List.map_append]
      congr 1
      cases data.estopPressed <;>
        cases latest BaseStateData.estopPressed false (bases calls) <;>
        cases hbumper : bumper data <;>
        cases hbefore : latest bumper false (bases calls) <;>
        simp [hbumper, estopNotice, bumperNotice, Call.isBaseState, Call.baseData?]
    | _ => simp [Call.isBaseState, Call.baseData?]

theorem flips_low :
    lowAlerts settings calls =
      ((flips (isLow settings) false (batteries calls)).filter (isLow settings)).map fun data =>
        batteryLowNotice settings (data.percentage.getD 0) := by
  induction calls using List.reverseRecOn with
  | nil => rfl
  | append_singleton calls timed ih =>
    obtain ⟨now, call⟩ := timed
    rw [lowAlerts, channel_concat, ← lowAlerts, ih]
    cases call with
    | battery data =>
      rw [raised_battery, batteries_concat, Call.batteryData?, Option.toList_some, flips_concat,
        List.filter_append (p := isLow settings), List.map_append]
      congr 1
      generalize (latest some none (batteries calls)).all _ = same
      cases hlow : isLow settings data <;>
        cases latest (isLow settings) false (batteries calls) <;>
        cases same <;> cases data.charging <;>
        simp [hlow, batteryLowNotice, chargingNotice, Call.isBattery, Call.batteryData?]
    | _ => simp [Call.isBattery, Call.batteryData?]

theorem flips_charging :
    chargingAlerts settings calls =
      (chargeFlips (batteries calls)).map fun data => chargingNotice data.charging := by
  induction calls using List.reverseRecOn with
  | nil => rfl
  | append_singleton calls timed ih =>
    obtain ⟨now, call⟩ := timed
    rw [chargingAlerts, channel_concat, ← chargingAlerts, ih]
    cases call with
    | battery data =>
      rw [raised_battery, batteries_concat, Call.batteryData?, Option.toList_some,
        chargeFlips_concat, List.map_append]
      congr 1
      generalize (latest some none (batteries calls)).all _ = same
      cases isLow settings data && !latest (isLow settings) false (batteries calls) <;>
        cases same <;> cases hcharging : data.charging <;>
        simp [hcharging, batteryLowNotice, chargingNotice, Call.isBattery, Call.batteryData?]
    | _ => simp [Call.isBattery, Call.batteryData?]

theorem flips_connection :
    connectionAlerts settings calls =
      (flips id .offline (states calls)).filterMap connectionNotice := by
  induction calls using List.reverseRecOn with
  | nil => rfl
  | append_singleton calls timed ih =>
    obtain ⟨now, call⟩ := timed
    rw [connectionAlerts, channel_concat, ← connectionAlerts, ih]
    cases call with
    | setConnection state =>
      rw [raised_setConnection, states_concat, Call.state?, Option.toList_some, flips_concat,
        List.filterMap_append]
      congr 1
      by_cases hsame : state = latest id .offline (states calls)
      · simp [hsame]
      · cases state <;> simp [hsame, connectionNotice, Call.isSetConnection, Call.state?]
    | _ => simp [Call.isSetConnection, Call.state?]

end

section

variable {settings : Settings} {calls : List (ℚ × Call)}

theorem estopNotice_injective : Function.Injective estopNotice := by
  intro pressed pressed'
  revert pressed pressed'
  decide

theorem chargingNotice_injective : Function.Injective chargingNotice := by
  intro charging charging'
  revert charging charging'
  decide

/-- Notices of a reading that no two samples in a row share. -/
theorem isChain_notices {notice : Bool → Notice} (hnotice : Function.Injective notice)
    {readings : List Bool} (h : readings.IsChain (· ≠ ·)) :
    (readings.map notice).IsChain (· ≠ ·) := by
  rw [List.isChain_map]
  exact h.imp fun _ _ hne => hnotice.ne hne

theorem isChain_estopAlerts :
    (estopNotice false :: estopAlerts settings calls).IsChain (· ≠ ·) := by
  have h := isChain_notices estopNotice_injective
    (@isChain_flips _ _ BaseStateData.estopPressed false (bases calls) _)
  rw [flips_estop]
  rwa [List.map_cons, List.map_map] at h

theorem latest_estopAlerts :
    latest id (estopNotice false) (estopAlerts settings calls) =
      estopNotice (latest BaseStateData.estopPressed false (bases calls)) := by
  rw [flips_estop, latest_map, ← @latest_flips _ _ BaseStateData.estopPressed]
  exact latest_comp estopNotice

theorem isChain_chargingAlerts : (chargingAlerts settings calls).IsChain (· ≠ ·) := by
  rw [flips_charging]
  cases batteries calls with
  | nil => exact List.isChain_nil
  | cons first reports =>
    have h := isChain_notices chargingNotice_injective
      (@isChain_flips _ _ BatteryData.charging first.charging reports _).tail
    rwa [List.tail_cons, List.map_map] at h

end

/-- **The alerts of a run.** -/
theorem flips_run (settings : Settings) (calls : List (ℚ × Call)) : TellsFlips settings calls where
  estop := flips_estop
  bumper := flips_bumper
  low := flips_low
  charging := flips_charging
  connection := flips_connection
  estopAlternates := isChain_estopAlerts
  estopLatest := latest_estopAlerts
  chargingAlternates := isChain_chargingAlerts

end PatrolBot.Alerts
