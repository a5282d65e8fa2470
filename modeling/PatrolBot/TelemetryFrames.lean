import PatrolBot.Payload

/-!
# Telemetry frames

What a robot's telemetry becomes on its way to the browsers.  `decode` validates the data
of an envelope against the model of its type; the hub then publishes the data as it came,
for a battery with the server's own estimate in it, and for a motion the validated model.
Frames of the other types are not rebroadcast.
-/

namespace PatrolBot.Hub

open Shape

/-! ### The models -/

/-- A field of a model: its name, its annotation and its default. -/
abbrev Field := String × Shape × Option Json

def text : Shape := .chars none

/-- `float`. -/
def number : Shape := .number false none none

/-- `float` under `allow_inf_nan=False`. -/
def finite : Shape := .number true none none

/-- `int`. -/
def whole : Shape := .whole false none none

def required (name : String) (shape : Shape) : Field := (name, shape, none)

def defaulted (name : String) (shape : Shape) (default : Json) : Field :=
  (name, shape, some default)

/-- `name: shape | None = None`. -/
def optional (name : String) (shape : Shape) : Field := (name, .nullable shape, some .null)

def helloData : List Field :=
  [required "protocol_version" whole, required "capabilities" (.items text),
    required "map_version" whole, required "software_version" text]

def heartbeatData : List Field := [required "uptime_s" number]

def mapContext : List Field := [optional "map_id" text, optional "map_revision" text]

def poseData : List Field := mapContext ++
  [defaulted "frame_id" text (.str "map"), required "x" finite, required "y" finite,
    required "yaw" finite, required "linear_velocity" finite,
    required "angular_velocity" finite, optional "covariance_trace" finite,
    optional "planar_covariance"
      (.tuple [.nullable finite, .nullable finite, .nullable finite]),
    optional "covariance_limit" finite, optional "localization_age_s" finite,
    optional "localization_max_age_s" finite, defaulted "localized" .flag (.bool false)]

def lidarData : List Field := mapContext ++
  [required "angle_min" number, required "angle_increment" number,
    required "ranges" (.items (.nullable number))]

def goalData : List Field := mapContext ++
  [required "x" number, required "y" number, optional "yaw" number]

def pathData : List Field := mapContext ++
  [defaulted "frame_id" text (.str "map"), required "points" (.items (.tuple [number, number])),
    optional "goal" (.record false goalData)]

def batteryEstimate : List Field :=
  [required "state" text, required "minutes_remaining" (.nullable whole),
    required "confidence" text]

def batteryData : List Field :=
  [required "voltage" finite, optional "current" finite, optional "percentage" finite,
    required "charging" .flag, optional "estimate" (.record false batteryEstimate)]

def baseStateData : List Field := mapContext ++
  [defaulted "operation_fault_reason" text (.str ""),
    defaulted "operation_fault_request_id" text (.str ""),
    defaulted "operation_outcome_unknown" .flag (.bool false),
    defaulted "lidar_state" (.literal ["UNKNOWN", "OFF", "STARTING", "READY", "FAULT"])
      (.str "UNKNOWN"),
    defaulted "lidar_power_supported" .flag (.bool false),
    defaulted "lidar_scan_age" (.number true (some (-1)) none) (.float (.finite (-1))),
    defaulted "map_activated_stamp_ns" (.whole false (some 0) none) (.int 0),
    required "session_generation" whole, required "link_connected" .flag,
    required "telemetry_age" (.number false (some 0) none),
    required "hardware_state_valid" .flag, required "charge_state" text,
    required "motors_enabled" .flag, required "estop_pressed" .flag,
    required "fault_flags" whole, required "stall_value" whole,
    required "bumpers_front" .flag, required "bumpers_rear" .flag,
    optional "bumpers_valid" .flag, optional "dock_state" text,
    optional "dock_state_valid" .flag, optional "dock_phase" whole,
    optional "dock_phase_name" text, defaulted "undock_active" .flag (.bool false),
    optional "undock_release_attempts" whole, optional "minimum_rear_range" number,
    optional "rear_sonar_usable" .flag, optional "redock_inhibited" .flag,
    optional "redock_inhibit_remaining" number, optional "undock_profile_commissioned" .flag,
    defaulted "odom_epoch_valid" .flag (.bool false),
    optional "raw_odom_age_s" (.number true (some 0) none),
    defaulted "localization_recovery_required" .flag (.bool true),
    defaulted "localization_recovery_stage" text (.str ""),
    defaulted "localization_seed_stamp_ns" (.whole false (some 0) none) (.int 0)]

def motionMaxAbsLinear : ℚ := 5
def motionMaxAbsAngular : ℚ := 10
def motionMaxAge : ℚ := 86400
def motionMaxGeneration : Int := 2 ^ 31 - 1
def motionMaxEpochLength : Nat := 128

def motionData : List Field :=
  [required "linear_velocity"
      (.number true (some (-motionMaxAbsLinear)) (some motionMaxAbsLinear)),
    required "angular_velocity"
      (.number true (some (-motionMaxAbsAngular)) (some motionMaxAbsAngular)),
    required "source" (.literal ["raw_odom"]),
    required "sample_age_s" (.number true (some 0) (some motionMaxAge)),
    required "receipt_age_s" (.number true (some 0) (some motionMaxAge)),
    required "session_generation" (.whole true (some 0) (some motionMaxGeneration)),
    required "odom_epoch" (.chars (some motionMaxEpochLength)),
    required "odom_epoch_generation" (.whole true (some 0) (some motionMaxGeneration))]

def diagnosticItem : List Field :=
  [required "name" text, required "level" (.literal ["OK", "WARN", "ERROR", "STALE"]),
    required "message" text, optional "values" .texts]

def diagnosticsData : List Field := [required "items" (.items (.record false diagnosticItem))]

def resourcesData : List Field :=
  [required "cpu_percent" number, required "memory_percent" number,
    optional "cpu_temp_c" number, required "disk_percent" number,
    optional "wifi_signal_dbm" whole]

def mapOrigin : List Field := [required "x" number, required "y" number, required "yaw" number]

def mapData : List Field := mapContext ++
  [required "map_version" whole, required "name" text, required "resolution" number,
    required "width" whole, required "height" whole,
    required "origin" (.record false mapOrigin),
    required "rle" (.items (.tuple [whole, whole]))]

/-! ### Decoding -/

/-- The types of the frames about the robot's state. -/
inductive MessageType where
  | hello
  | heartbeat
  | pose
  | lidar
  | path
  | battery
  | baseState
  | motion
  | diagnostics
  | resources
  | map
deriving DecidableEq

namespace MessageType

def wire : MessageType → String
  | .hello => "robot.hello"
  | .heartbeat => "telemetry.heartbeat"
  | .pose => "telemetry.pose"
  | .lidar => "telemetry.lidar"
  | .path => "telemetry.path"
  | .battery => "telemetry.battery"
  | .baseState => "telemetry.base_state"
  | .motion => "telemetry.motion"
  | .diagnostics => "telemetry.diagnostics"
  | .resources => "telemetry.resources"
  | .map => "telemetry.map"

/-- The entries of `TYPE_REGISTRY` for these types. -/
def model : MessageType → Shape
  | .hello => .record false helloData
  | .heartbeat => .record false heartbeatData
  | .pose => .record false poseData
  | .lidar => .record false lidarData
  | .path => .record false pathData
  | .battery => .record false batteryData
  | .baseState => .record false baseStateData
  | .motion => .record true motionData
  | .diagnostics => .record false diagnosticsData
  | .resources => .record false resourcesData
  | .map => .record false mapData

def ofWire (wireType : String) : Option MessageType :=
  [.hello, .heartbeat, .pose, .lidar, .path, .battery, .baseState, .motion, .diagnostics,
    .resources, .map].find? fun kind => kind.wire == wireType

end MessageType

/-- An `Envelope`, its JSON parsed. -/
structure Envelope where
  type : String
  robotId : String
  sequence : Int
  timestamp : String
  data : List (String × Json)

/-- `decode`, from the envelope on: the type and the validated payload. -/
def decode (coercions : Coercions) (envelope : Envelope) : Option (MessageType × Json) :=
  (MessageType.ofWire envelope.type).bind fun kind =>
    (validate coercions kind.model (.obj envelope.data)).map fun payload => (kind, payload)

/-! ### What the hub publishes -/

structure BatteryEstimate where
  state : String
  minutesRemaining : Option Int
  confidence : String

/-- `as_dict`. -/
def BatteryEstimate.asDict (estimate : BatteryEstimate) : Json :=
  .obj [("state", .str estimate.state),
    ("minutes_remaining", (estimate.minutesRemaining.map Json.int).getD .null),
    ("confidence", .str estimate.confidence)]

/-- The session and its robot's state, as far as the frame that goes out depends on
    them. -/
structure RobotState where
  /-- The hub's session of the robot is the one the frame came from. -/
  current : Bool
  connectedMono : ℚ
  baseGeneration : Option Int
  baseReceived : Option ℚ
  motionEpochGeneration : Option Int
  batteryEstimate : Option BatteryEstimate

/-- What handling a frame reads: the clock, the time `datetime.fromisoformat` makes of the
    envelope's stamp, and the answer of the battery's estimator.  The last two may raise. -/
structure Readings where
  now : ℚ
  sent : Option ℚ
  estimate : Option BatteryEstimate

/-- `record_battery`. -/
def RobotState.recordBattery (state : RobotState) (estimate : BatteryEstimate) : RobotState :=
  { state with batteryEstimate := some estimate }

/-- `{**fields, key: value}`. -/
def setEntry (key : String) (value : Json) (fields : List (String × Json)) :
    List (String × Json) :=
  if fields.any fun field => field.1 == key then
    fields.map fun field => if field.1 = key then (key, value) else field
  else fields ++ [(key, value)]

/-- The whole number at a key of a validated payload. -/
def wholeAt (payload : List (String × Json)) (key : String) : Option Int :=
  match Json.get payload key with
  | .int value => some value
  | _ => none

/-- A motion of another session or of an older odometry epoch. -/
def motionRefused (state : RobotState) (payload : List (String × Json)) : Bool :=
  match state.baseGeneration, state.baseReceived with
  | some generation, some received =>
    decide (received < state.connectedMono) ||
      decide (wholeAt payload "session_generation" ≠ some generation) ||
      state.motionEpochGeneration.any fun current =>
        (wholeAt payload "odom_epoch_generation").any (· < current)
  | _, _ => true

/-- `receipt + max(0, age)`. -/
def plusAge (age : ℚ) : Json → Json
  | .float receipt => .float (receipt.add (.finite (max 0 age)))
  | value => value

/-- `model_copy(update={"receipt_age_s": payload.receipt_age_s + max(0, age)})`. -/
def withReceiptAge (age : ℚ) (payload : List (String × Json)) : List (String × Json) :=
  payload.map fun field =>
    if field.1 = "receipt_age_s" then (field.1, plusAge age field.2) else field

def motionOut (state : RobotState) (readings : Readings) : Json → Option Json
  | .obj payload =>
    if motionRefused state payload then none
    else match readings.sent with
      | none => none
      | some sent =>
        let age := readings.now - sent
        if age < -1 ∨ age > 3 / 2 then none else some (.obj (withReceiptAge age payload))
  | _ => none

def batteryOut (state : RobotState) (readings : Readings) (data : List (String × Json)) :
    Option Json :=
  readings.estimate.map fun estimate =>
    match (state.recordBattery estimate).batteryEstimate with
    | some estimate => .obj (setEntry "estimate" estimate.asDict data)
    | none => .obj data

/-- The data of the frame that `handle_robot_message` publishes under the type of the frame
    it handles. -/
def rebroadcast (coercions : Coercions) (state : RobotState) (readings : Readings)
    (envelope : Envelope) : Option Json :=
  if state.current then
    (decode coercions envelope).bind fun decoded => match decoded.1 with
      | .hello | .heartbeat => none
      | .battery => batteryOut state readings envelope.data
      | .motion => motionOut state readings decoded.2
      | _ => some (.obj envelope.data)
  else none

/-- No frame that goes out to the browsers has an infinity or a NaN in it. -/
def StrictToBrowsers (coercions : Coercions) : Prop :=
  ∀ state readings envelope data,
    rebroadcast coercions state readings envelope = some data → data.strict = true

/-- The parts of a frame's data that go out and that no model has checked: what its type's
    model does not name, a battery's own estimate apart, and the numbers that need not be
    finite. -/
def unchecked (envelope : Envelope) : List Json :=
  match MessageType.ofWire envelope.type with
  | some .motion => []
  | some .battery =>
    looseEntries batteryData (envelope.data.filter fun field => field.1 ≠ "estimate")
  | some kind => kind.model.loose (.obj envelope.data)
  | none => []

/-! ### A motion goes out strict -/

theorem strict_plusAge {age : ℚ} {value : Json} (h : value.strict = true) :
    (plusAge age value).strict = true := by
  cases value with
  | float receipt =>
    cases receipt with
    | finite receipt => rfl
    | inf negative => cases h
    | nan => cases h
  | _ => exact h

theorem strict_withReceiptAge {age : ℚ} {payload : List (String × Json)}
    (h : Json.strictFields payload = true) :
    Json.strictFields (withReceiptAge age payload) = true := by
  rw [Json.strictFields_eq_all, List.all_eq_true] at h ⊢
  intro field hfield
  obtain ⟨before, hbefore, rfl⟩ := List.mem_map.mp hfield
  split
  · exact strict_plusAge (h before hbefore)
  · exact h before hbefore

theorem strict_motionOut {coercions : Coercions} {state : RobotState} {readings : Readings}
    {data : List (String × Json)} {payload out : Json}
    (hpayload : validate coercions (.record true motionData) (.obj data) = some payload)
    (hout : motionOut state readings payload = some out) : out.strict = true := by
  have hstrict : payload.strict = true := strict_of_validate rfl _ hpayload
  cases payload with
  | obj payload =>
    simp only [motionOut] at hout
    split at hout
    · cases hout
    · split at hout
      · cases hout
      · split at hout
        · cases hout
        · cases hout
          exact strict_withReceiptAge hstrict
  | _ => cases hout

/-! ### A battery goes out with the server's estimate -/

theorem BatteryEstimate.strict_asDict (estimate : BatteryEstimate) :
    estimate.asDict.strict = true := by
  cases h : estimate.minutesRemaining with
  | none => simp [asDict, h, Json.strict, Json.strictFields]
  | some minutes => simp [asDict, h, Json.strict, Json.strictFields]

theorem strictFields_replaced {key : String} {value : Json} (hvalue : value.strict = true)
    (fields : List (String × Json)) :
    Json.strictFields (fields.map fun field => if field.1 = key then (key, value) else field) =
      Json.strictFields (fields.filter fun field => field.1 ≠ key) := by
  induction fields with
  | nil => rfl
  | cons field fields ih =>
    obtain ⟨name, inner⟩ := field
    by_cases hname : name = key
    · simp only [List.map_cons, if_pos hname, Json.strictFields, hvalue, Bool.true_and, ih]
      rw [List.filter_cons_of_neg (by simpa using hname)]
    · simp only [List.map_cons, if_neg hname, Json.strictFields, ih]
      rw [List.filter_cons_of_pos (by simpa using hname), Json.strictFields]

/-- Whatever is at the key of an entry that is set does not go out. -/
theorem strictFields_setEntry {key : String} {value : Json} (hvalue : value.strict = true)
    (fields : List (String × Json)) :
    Json.strictFields (setEntry key value fields) =
      Json.strictFields (fields.filter fun field => field.1 ≠ key) := by
  simp only [setEntry]
  split
  · exact strictFields_replaced hvalue fields
  · rename_i habsent
    have hfilter : (fields.filter fun field => field.1 ≠ key) = fields := by
      apply List.filter_eq_self.mpr
      intro field hfield
      by_contra hkey
      apply habsent
      exact List.any_eq_true.mpr ⟨field, hfield, by simpa using hkey⟩
    rw [hfilter]
    simp [Json.strictFields_eq_all, hvalue]

theorem strict_batteryOut_iff {coercions : Coercions} {state : RobotState} {readings : Readings}
    {data : List (String × Json)} {out : Json}
    (hpayload : (validate coercions (.record false batteryData) (.obj data)).isSome)
    (hout : batteryOut state readings data = some out) :
    out.strict = true ↔
      ∀ part ∈ looseEntries batteryData (data.filter fun field => field.1 ≠ "estimate"),
        part.strict = true := by
  obtain ⟨estimate, -, rfl⟩ := Option.map_eq_some_iff.mp hout
  have hentries : (validateEntries coercions false batteryData data).isSome := by
    cases h : validateEntries coercions false batteryData data with
    | none => simp [validate, peel, h] at hpayload
    | some entries => rfl
  rw [isSome_validateEntries, List.all_eq_true] at hentries
  simp only [RobotState.recordBattery, Json.strict,
    strictFields_setEntry estimate.strict_asDict data]
  have hrest : (validateEntries coercions false batteryData
      (data.filter fun field => field.1 ≠ "estimate")).isSome := by
    rw [isSome_validateEntries, List.all_eq_true]
    intro entry hentry
    exact hentries entry (List.mem_filter.mp hentry).1
  exact strictFields_iff_loose false _ _ hrest

/-! ### What goes out -/

variable {coercions : Coercions} {state : RobotState} {readings : Readings} {envelope : Envelope}
  {data : Json}

/-- A frame goes out strict exactly when the parts of it that no model checks are. -/
theorem strict_rebroadcast_iff (h : rebroadcast coercions state readings envelope = some data) :
    data.strict = true ↔ ∀ part ∈ unchecked envelope, part.strict = true := by
  simp only [rebroadcast] at h
  split at h
  · obtain ⟨decoded, hdecoded, hout⟩ := Option.bind_eq_some_iff.mp h
    obtain ⟨kind, hkind, hpayload⟩ := Option.bind_eq_some_iff.mp hdecoded
    obtain ⟨payload, hvalidated, rfl⟩ := Option.map_eq_some_iff.mp hpayload
    have haccepted : (validate coercions kind.model (.obj envelope.data)).isSome := by
      rw [hvalidated]
      rfl
    rw [unchecked, hkind]
    cases kind with
    | hello => cases hout
    | heartbeat => cases hout
    | battery => exact strict_batteryOut_iff haccepted hout
    | motion => simpa using strict_motionOut hvalidated hout
    | _ =>
      cases hout
      exact strict_iff_loose _ _ haccepted
  · cases h

/-- A scan with these ranges. -/
def scan (ranges : List Json) : Envelope where
  type := "telemetry.lidar"
  robotId := "patrolbot"
  sequence := 1
  timestamp := "2026-08-08T10:00:00.000Z"
  data := [("angle_min", .float (.finite (-3 / 2))),
    ("angle_increment", .float (.finite (1 / 100))), ("ranges", .list ranges)]

/-- A robot that has just connected. -/
def connected : RobotState where
  current := true
  connectedMono := 0
  baseGeneration := none
  baseReceived := none
  motionEpochGeneration := none
  batteryEstimate := none

theorem rebroadcast_scan (coercions : Coercions) (readings : Readings) (range : PyFloat) :
    rebroadcast coercions connected readings (scan [.float range, .null]) =
      some (.obj (scan [.float range, .null]).data) := by
  cases range <;> rfl

theorem strict_rebroadcast_scan :
    (Json.obj (scan [.float (.finite 2), .null]).data).strict = true ↔
      ∀ part ∈ unchecked (scan [.float (.finite 2), .null]), part.strict = true :=
  strict_rebroadcast_iff
    (rebroadcast_scan ⟨fun _ => none, fun _ => none, fun _ => none, fun _ => none, true⟩
      ⟨0, none, none⟩ (.finite 2))

/-- A range that is a NaN goes out as it came. -/
theorem not_strictToBrowsers : ¬ ∃ coercions, StrictToBrowsers coercions := by
  rintro ⟨coercions, hstrict⟩
  have h := hstrict connected ⟨0, none, none⟩ (scan [.float .nan, .null]) _
    (rebroadcast_scan coercions ⟨0, none, none⟩ .nan)
  exact absurd h (by decide)

end PatrolBot.Hub
