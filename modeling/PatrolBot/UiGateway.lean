import Mathlib.Algebra.Order.Ring.Rat
import PatrolBot.Library.FixedWindow
import PatrolBot.Library.Machine
import PatrolBot.Py

/-!
# The browsers' gateway

The loop of `ui_ws` in `websocket/ui_gateway.py`: what becomes of the frames of one browser.
Every frame counts in a window of a second, and beyond the cap only those pass that end an
input or stop the robot.  A frame is what the libraries read in its text.
-/

namespace PatrolBot.UiGateway

open FixedWindow

/-- `Envelope.model_validate_json(raw)` of a frame that did not decode. -/
structure Envelope where
  type : String
  robotId : String
  data : List (String × Json)

/-- What `decode` makes of a text. -/
inductive Decoded where
  /-- A `ProtocolError`; the envelope may still be one. -/
  | error (invalid : Option Envelope)
  | velocity
  | request (command : String)
  | other

structure Frame where
  -- `'"tuning.' in raw`
  mentionsTuning : Bool
  -- `json.loads(raw)`
  loads : Option Json
  decoded : Decoded

inductive Event where
  /-- A text comes in; `signedIn` is whether `fresh_user` finds a user. -/
  | received (now : ℚ) (signedIn : Bool) (frame : Frame)
  | disconnected

/-- What the gateway does about a frame. -/
inductive Outcome where
  -- `teleop.velocity`
  | velocity
  -- `handle_browser_request`
  | request (command : String)
  -- `_reject_audited`
  | reject (robotId commandId command reason : String)
  | close (code : Nat)
deriving DecidableEq

structure Gateway where
  window : Window ℚ := ⟨0, 0⟩
  isOpen : Bool := true

/-- `get_args(CommandType)`. -/
def commandTypes : List String :=
  ["navigate_to_pose", "set_initial_pose", "stop", "teleop_start", "teleop_stop",
    "charge_release", "motor_enable", "motor_disable", "undock", "software_reset",
    "set_lidar_power", "dock_reset"]

/-- The commands that no flood holds up. -/
def emergencies : List String := ["stop", "motor_disable", "teleop_stop", "software_reset"]

/-- `_raw_tuning_type`. -/
def Frame.tuningType (frame : Frame) : Option String :=
  if frame.mentionsTuning then
    match frame.loads with
    | some (.obj fields) => match Json.get fields "type" with
      | .str type => if "tuning.".toList.isPrefixOf type.toList then some type else none
      | _ => none
    | _ => none
  else none

/-- The answer to a frame that did not decode, if it was to be a command. -/
def rejection (invalid : Envelope) : Option Outcome :=
  match Json.get invalid.data "command_id" with
  | .str commandId =>
    if invalid.type ≠ "command.request" ∨ strip commandId = "" ∨ 128 < commandId.length then none
    else
      let command := match Json.get invalid.data "command" with
        | .str command => if 64 < command.length then "invalid" else command
        | _ => "invalid"
      let reason := if commandTypes.contains command then
          "Invalid command fields. Check the goal coordinates and request fields."
        else "Unsupported command. Refresh the dashboard and try again."
      some (.reject invalid.robotId commandId command reason)
  | _ => none

/-- A frame that is counted, with the window that it falls into. -/
def dispatch (cap : Nat) (window : Window ℚ) : Decoded → List Outcome
  | .error invalid =>
    if cap < window.count then [] else (invalid.bind rejection).toList
  | .velocity => [.velocity]
  | .request command =>
    if cap < window.count ∧ ¬ command ∈ emergencies then [] else [.request command]
  | .other => []

/-- An iteration of the loop of `ui_ws`, whose `frame_cap` is `max_ui_frames_per_s` or one. -/
def Gateway.step (cap : Nat) (gateway : Gateway) : Event → Gateway × List Outcome
  | .disconnected => ({ gateway with isOpen := false }, [])
  | .received now signedIn frame =>
    if gateway.isOpen = false then (gateway, [])
    else if frame.tuningType.isSome then
      if signedIn then (gateway, []) else ({ gateway with isOpen := false }, [.close 4401])
    else
      let window := gateway.window.next 1 now
      ({ gateway with window := window }, dispatch cap window frame.decoded)

def gateway (cap : Nat) : Machine Gateway Event Outcome where
  step gateway event := gateway.step cap event

def after (cap : Nat) (events : List Event) : Gateway := (gateway cap).run {} events

/-- What an event makes the gateway do after the others. -/
def outcomes (cap : Nat) (before : List Event) (event : Event) : List Outcome :=
  ((after cap before).step cap event).2

/-! ## From the frames alone -/

/-- The event ends the loop. -/
def Event.ends : Event → Bool
  | .disconnected => true
  | .received _ signedIn frame => frame.tuningType.isSome && !signedIn

/-- When the event is counted. -/
def Event.counted : Event → Option ℚ
  | .disconnected => none
  | .received now _ frame => if frame.tuningType.isSome then none else some now

/-- What is done about a frame as long as there are not too many. -/
def Decoded.answer : Decoded → List Outcome
  | .error invalid => (invalid.bind rejection).toList
  | .velocity => [.velocity]
  | .request command => [.request command]
  | .other => []

/-- What no flood holds up. -/
def Decoded.urgent : Decoded → Bool
  | .velocity => true
  | .request command => emergencies.contains command
  | _ => false

def Event.urgent : Event → Bool
  | .disconnected => false
  | .received _ _ frame => frame.decoded.urgent

def alive (events : List Event) : Bool := events.all fun event => !event.ends

/-- The times of the frames that were counted and took part of the cap. -/
def spent (history : List (Event × List Outcome)) : List ℚ :=
  history.filterMap fun entry => if entry.1.urgent || entry.2.isEmpty then none else entry.1.counted

/-- The gateway's promise over all that a browser sends. -/
structure Guarded (cap : Nat) (events : List Event) : Prop where
  /-- A connection that has ended does nothing more. -/
  closed : ∀ before event later, events = before ++ event :: later →
    alive before = false → outcomes cap before event = []
  /-- No tuning frame passes, and one without a session ends the connection. -/
  tuning : ∀ before now signedIn frame later,
    events = before ++ .received now signedIn frame :: later → alive before = true →
      frame.tuningType.isSome = true →
        outcomes cap before (.received now signedIn frame) =
          if signedIn then [] else [.close 4401]
  /-- Velocities and emergencies pass however many frames come. -/
  urgent : ∀ before now signedIn frame later,
    events = before ++ .received now signedIn frame :: later → alive before = true →
      frame.tuningType = none → frame.decoded.urgent = true →
        outcomes cap before (.received now signedIn frame) = frame.decoded.answer
  /-- Of the others no second has more than twice the cap. -/
  bounded : (events.filterMap Event.counted).Pairwise (· ≤ ·) →
    ∀ t, (within 1 t (spent ((gateway cap).trace {} events))).length ≤ 2 * cap
  /-- A browser that keeps to the cap loses nothing. -/
  lossless : (0 :: events.filterMap Event.counted).Pairwise (· ≤ ·) →
    (∀ t, (within 1 t (events.filterMap Event.counted)).length ≤ cap) →
      ∀ before now signedIn frame later,
        events = before ++ .received now signedIn frame :: later → alive before = true →
          frame.tuningType = none →
            outcomes cap before (.received now signedIn frame) = frame.decoded.answer

/-! ## A step -/

section

variable {cap : Nat}

theorem dispatch_eq (cap : Nat) (window : Window ℚ) (decoded : Decoded) :
    dispatch cap window decoded =
      if decoded.urgent = true ∨ window.count ≤ cap then decoded.answer else [] := by
  cases decoded with
  | error invalid =>
    simp only [dispatch, Decoded.urgent, Decoded.answer, Bool.false_eq_true, false_or]
    by_cases hcount : cap < window.count
    · rw [if_pos hcount, if_neg (by omega)]
    · rw [if_neg hcount, if_pos (by omega)]
  | velocity => rfl
  | request command =>
    simp only [dispatch, Decoded.urgent, Decoded.answer, List.contains_iff_mem]
    by_cases hemergency : command ∈ emergencies
    · rw [if_neg (fun h => h.2 hemergency), if_pos (Or.inl hemergency)]
    · by_cases hcount : cap < window.count
      · rw [if_pos ⟨hcount, hemergency⟩, if_neg (by rintro (h | h); exact hemergency h; omega)]
      · rw [if_neg (fun h => hcount h.1), if_pos (Or.inr (by omega))]
  | other => simp [dispatch, Decoded.answer]

theorem step_closed {gateway : Gateway} (h : gateway.isOpen = false) (event : Event) :
    gateway.step cap event = (gateway, []) := by
  cases event with
  | received now signedIn frame => exact if_pos h
  | disconnected => rw [Gateway.step, ← h]

theorem step_tuning {gateway : Gateway} (h : gateway.isOpen = true) {frame : Frame}
    (htuning : frame.tuningType.isSome = true) (now : ℚ) (signedIn : Bool) :
    gateway.step cap (.received now signedIn frame) =
      if signedIn then (gateway, []) else ({ gateway with isOpen := false }, [.close 4401]) := by
  rw [Gateway.step, if_neg (by simp [h]), if_pos htuning]

theorem step_counted {gateway : Gateway} (h : gateway.isOpen = true) {frame : Frame}
    (htuning : frame.tuningType = none) (now : ℚ) (signedIn : Bool) :
    gateway.step cap (.received now signedIn frame) =
      ({ gateway with window := gateway.window.next 1 now },
        if frame.decoded.urgent = true ∨ (gateway.window.next 1 now).count ≤ cap then
          frame.decoded.answer else []) := by
  rw [Gateway.step, if_neg (by simp [h]), if_neg (by simp [htuning])]
  exact congrArg _ (dispatch_eq cap _ frame.decoded)

theorem isOpen_step (gateway : Gateway) (event : Event) :
    (gateway.step cap event).1.isOpen = (gateway.isOpen && !event.ends) := by
  cases hopen : gateway.isOpen with
  | false => rw [step_closed hopen, hopen, Bool.false_and]
  | true =>
    cases event with
    | disconnected => rfl
    | received now signedIn frame =>
      cases htuning : frame.tuningType with
      | none => rw [step_counted hopen htuning, Event.ends, htuning]; simp [hopen]
      | some type =>
        rw [step_tuning hopen (by rw [htuning]; rfl), Event.ends, htuning]
        cases signedIn <;> simp [hopen]

end

/-! ## A run -/

section

variable {cap : Nat} {gateway : Gateway} {events : List Event}

theorem isOpen_run (cap : Nat) (g : Gateway) (events : List Event) :
    ((UiGateway.gateway cap).run g events).isOpen = (g.isOpen && alive events) := by
  induction events generalizing g with
  | nil => rw [Machine.run_nil, alive, List.all_nil, Bool.and_true]
  | cons event events ih =>
    rw [Machine.run_cons, ih]
    refine (congrArg (· && alive events) (isOpen_step g event)).trans ?_
    rw [alive, alive, List.all_cons, Bool.and_assoc]

theorem isOpen_after (cap : Nat) (events : List Event) :
    (after cap events).isOpen = alive events :=
  (isOpen_run cap {} events).trans (Bool.true_and _)

/-- A closed connection leaves no trace. -/
theorem spent_closed (h : gateway.isOpen = false) (events : List Event) :
    spent ((UiGateway.gateway cap).trace gateway events) = [] := by
  induction events with
  | nil => rfl
  | cons event events ih =>
    rw [Machine.trace_cons]
    have hstep : (UiGateway.gateway cap).step gateway event = (gateway, []) :=
      step_closed h event
    rw [hstep, spent, List.filterMap_cons_none (by simp)]
    exact ih

/-- Whatever took part of the cap was admitted by the window. -/
theorem spent_sublist (gateway : Gateway) (events : List Event) :
    (spent ((UiGateway.gateway cap).trace gateway events)).Sublist
      (gateway.window.admitted 1 cap (events.filterMap Event.counted)) := by
  induction events generalizing gateway with
  | nil => exact List.Sublist.refl _
  | cons event events ih =>
    cases hopen : gateway.isOpen with
    | false =>
      rw [spent_closed hopen]
      exact List.nil_sublist _
    | true =>
      rw [Machine.trace_cons]
      cases event with
      | disconnected => exact ih _
      | received now signedIn frame =>
        cases htuning : frame.tuningType with
        | some type =>
          have hcounted : Event.counted (.received now signedIn frame) = none := by
            rw [Event.counted, htuning]
            rfl
          have hstep : (UiGateway.gateway cap).step gateway (.received now signedIn frame) =
              if signedIn then (gateway, [])
                else ({ gateway with isOpen := false }, [.close 4401]) :=
            step_tuning hopen (by rw [htuning]; rfl) now signedIn
          rw [List.filterMap_cons_none hcounted, spent, List.filterMap_cons_none, hstep]
          · cases signedIn with
            | true => exact ih gateway
            | false => exact ih { gateway with isOpen := false }
          · rw [hcounted, ite_self]
        | none =>
          have hcounted : Event.counted (.received now signedIn frame) = some now := by
            rw [Event.counted, htuning]
            rfl
          have hstep : (UiGateway.gateway cap).step gateway (.received now signedIn frame) = _ :=
            step_counted hopen htuning now signedIn
          rw [List.filterMap_cons_some hcounted, Window.admitted, hstep]
          have hrest := ih { gateway with window := gateway.window.next 1 now }
          cases hurgent : frame.decoded.urgent with
          | true =>
            rw [spent, List.filterMap_cons_none (by simp [Event.urgent, hurgent])]
            dsimp only
            split
            · exact hrest.cons now
            · exact hrest
          | false =>
            dsimp only
            by_cases hcount : (gateway.window.next 1 now).count ≤ cap
            · rw [if_pos (Or.inr hcount), if_pos hcount, spent, List.filterMap_cons]
              simp only [Event.urgent, hurgent, Bool.false_or, hcounted]
              split
              · rename_i hnone
                exact hrest.cons now
              · rename_i time hsome
                split at hsome
                · cases hsome
                · cases hsome
                  exact hrest.cons_cons now
            · rw [if_neg (by simp [hcount]), if_neg hcount, spent,
                List.filterMap_cons_none (by simp)]
              exact hrest

/-- As long as nothing is shed, a frame that comes in is within the cap. -/
theorem count_le (hopen : gateway.isOpen = true) {before later : List Event} {now : ℚ}
    {signedIn : Bool} {frame : Frame} (halive : alive before = true)
    (htuning : frame.tuningType = none)
    (hall : gateway.window.admitted 1 cap
        ((before ++ .received now signedIn frame :: later).filterMap Event.counted) =
      (before ++ .received now signedIn frame :: later).filterMap Event.counted) :
    (((UiGateway.gateway cap).run gateway before).window.next 1 now).count ≤ cap := by
  induction before generalizing gateway with
  | nil =>
    rw [List.nil_append, List.filterMap_cons_some (b := now) (by rw [Event.counted, htuning]; rfl)]
      at hall
    exact (admitted_cons_eq_iff.mp hall).1
  | cons event before ih =>
    rw [alive, List.all_cons, Bool.and_eq_true] at halive
    rw [Machine.run_cons]
    cases event with
    | disconnected => simp [Event.ends] at halive
    | received time session sent =>
      cases htype : sent.tuningType with
      | some type =>
        have hsession : session = true := by simpa [Event.ends, htype] using halive.1
        have hstep : (UiGateway.gateway cap).step gateway (.received time session sent) =
            (gateway, []) := by
          rw [hsession]
          exact step_tuning hopen (by rw [htype]; rfl) time true
        rw [hstep]
        rw [List.cons_append, List.filterMap_cons_none (by rw [Event.counted, htype]; rfl)] at hall
        exact ih hopen halive.2 hall
      | none =>
        have hstep : (UiGateway.gateway cap).step gateway (.received time session sent) = _ :=
          step_counted hopen htype time session
        rw [hstep]
        rw [List.cons_append,
          List.filterMap_cons_some (b := time) (by rw [Event.counted, htype]; rfl)] at hall
        exact @ih { gateway with window := gateway.window.next 1 time } hopen halive.2
          (admitted_cons_eq_iff.mp hall).2

end

/-- **The flood guard.**  A browser's emergencies and velocities always pass, the rest within
    twice the cap a second, and a browser that keeps to the cap loses nothing; no tuning frame
    passes, and an ended session ends the connection. -/
theorem guarded_run (cap : Nat) (events : List Event) : Guarded cap events where
  closed before event _ _ hended := by
    have hopen := (isOpen_after cap before).trans hended
    rw [outcomes, step_closed hopen]
  tuning before now signedIn frame _ _ halive htuning := by
    have hopen := (isOpen_after cap before).trans halive
    rw [outcomes, step_tuning hopen htuning]
    cases signedIn <;> rfl
  urgent before now signedIn frame _ _ halive htuning hurgent := by
    have hopen := (isOpen_after cap before).trans halive
    rw [outcomes, step_counted hopen htuning]
    exact if_pos (Or.inl hurgent)
  bounded hsorted t := by
    have hsublist := @spent_sublist cap {} events
    have hbound := @length_within_admitted _ _ _ 1 t cap ⟨0, 0⟩ _ _ hsorted
    exact le_trans (hsublist.filter _).length_le hbound
  lossless hsorted hfew before now signedIn frame later hcut halive htuning := by
    have hopen := (isOpen_after cap before).trans halive
    have hall : Window.admitted 1 cap ⟨0, 0⟩ (events.filterMap Event.counted) =
        events.filterMap Event.counted := by
      refine @admitted_eq _ _ _ _ _ _ _ _ [] rfl ?_ hsorted one_pos (by simpa using hfew)
      intro time htime
      cases htime
    rw [hcut] at hall
    rw [outcomes, step_counted hopen htuning]
    exact if_pos (Or.inr (@count_le _ {} rfl _ _ _ _ _ halive htuning hall))

end PatrolBot.UiGateway
