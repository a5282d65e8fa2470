import Mathlib.Logic.Function.Basic
import PatrolBot.Library.Csv
import PatrolBot.PyArithmetic
import PatrolBot.Recordings
import PatrolBot.TuningRegistry

/-!
# Export of a recording

`recordings/export.py` and the export endpoint of `api/recordings.py`: one table of
comma-separated values for each channel, written sample by sample, and the archive made
of them.  A call that raises ends the export and its scratch directory, so that what it
had written is not kept here.
-/

namespace PatrolBot

/-! ### The tables of a channel -/

/-- `CHANNEL_FILES`. -/
def channelFiles : List (String × List String) :=
  [("pose", ["pose.csv"]), ("battery", ["battery.csv"]), ("event", ["events.csv"]),
    ("base_state", ["base_state.csv"]), ("diagnostics", ["diagnostics.csv"]),
    ("path", ["path.csv", "path_points.csv"]), ("lidar", ["lidar.csv", "lidar_ranges.csv"])]

def filesOf (channel : String) : List String := (channelFiles.lookup channel).getD []

def leadColumns : List String := ["recording_id", "ts", "elapsed_s"]

/-- `COLUMNS`, without the lead columns. -/
def ownColumns : List (String × List String) :=
  [("pose.csv", ["map_id", "map_revision", "frame_id", "x", "y", "yaw", "yaw_deg",
      "linear_velocity", "angular_velocity", "covariance_trace", "localized"]),
    ("battery.csv", ["voltage", "current", "percentage", "charging",
      "estimate_state", "estimate_minutes_remaining", "estimate_confidence"]),
    ("events.csv", ["event_id", "severity", "title", "message"]),
    ("base_state.csv", ["map_id", "map_revision", "session_generation", "link_connected",
      "telemetry_age", "hardware_state_valid", "charge_state", "motors_enabled",
      "estop_pressed", "fault_flags", "stall_value", "bumpers_front", "bumpers_rear"]),
    ("diagnostics.csv", ["sample_index", "item_index", "name", "level", "message",
      "values_json"]),
    ("path.csv", ["map_id", "map_revision", "sample_index", "frame_id", "point_count",
      "path_length_m", "goal_x", "goal_y", "goal_yaw"]),
    ("path_points.csv", ["map_id", "map_revision", "sample_index", "point_index", "x", "y"]),
    ("lidar.csv", ["map_id", "map_revision", "sample_index", "angle_min", "angle_increment",
      "beam_count", "valid_count", "range_min", "range_max"]),
    ("lidar_ranges.csv", ["map_id", "map_revision", "sample_index", "beam_index", "angle_rad",
      "range_m"])]

def columns (filename : String) : List String :=
  leadColumns ++ (ownColumns.lookup filename).getD []

/-- `FILE_NOTES`. -/
def fileNotes : List (String × String) :=
  [("pose.csv", "Robot position and velocity in the map frame (~2 Hz)."),
    ("battery.csv", "Pack voltage, current and charge state (~0.2 Hz)."),
    ("events.csv", "Operator-visible alerts, exactly as they appeared in the dashboard."),
    ("base_state.csv", "Drive-base hardware state: motors, e-stop, bumpers, faults (~1 Hz)."),
    ("diagnostics.csv", "One row per diagnostic item per sample (long format)."),
    ("path.csv", "One row per planned path: its length, point count and goal."),
    ("path_points.csv", "The waypoints of each planned path, long format; join on sample_index."),
    ("lidar.csv", "One row per laser scan: geometry and range summary."),
    ("lidar_ranges.csv", "One row per beam per scan, long format; join on sample_index.")]

/-! ### What the tables quote of the standard library -/

/-- A parsed stamp: its time in microseconds, and its `isoformat` with `Z` for UTC. -/
structure Moment where
  micros : Int
  iso : String
deriving DecidableEq

/-- How Python reads and prints the values of a sample. -/
structure Rendering where
  /-- `json.loads`, unless it raises. -/
  loads : String → Option Json
  /-- `str` of a float, a list or a dictionary. -/
  repr : Json → String
  /-- `str(round(value, places))`. -/
  rounded : PyFloat → Nat → String
  /-- `json.dumps` of diagnostic values. -/
  dumps : Json → String
  /-- `datetime.fromisoformat`, a stamp without a zone being taken in UTC. -/
  fromisoformat : String → Option Moment
  /-- Microseconds as seconds with three decimals. -/
  seconds : Int → String
  /-- `((bx - ax) ** 2 + (by - ay) ** 2) ** 0.5`, unless it overflows. -/
  segment : Number → Number → Number → Number → Option PyFloat

/-- `180 / pi` as a double. -/
def degreesPerRadian : ℚ := 1007958012753983 / 17592186044416

namespace Export

variable (render : Rendering)

/-- `_parse_ts`. -/
def parseTs (value : String) : Option Moment :=
  if value = "" then none
  else
    let text := (strip value).map fun c => if c = ' ' then 'T' else c
    render.fromisoformat
      (if text.toList.getLast? = some 'Z' then String.ofList text.toList.dropLast ++ "+00:00"
        else text)

/-! ### Cells -/

/-- `_num`. -/
def num : Json → String
  | .int n => toString n
  | .float x => render.repr (.float x)
  | _ => ""

/-- `_bool`. -/
def bool : Json → String
  | .null => ""
  | value => if value.truthy then "1" else "0"

/-- `_text`. -/
def text : Json → String
  | .null => ""
  | value => value.shown render.repr

/-- `_round` of a number, unless the number is too large for a float. -/
def roundNumber (value : Number) (places : Nat) : Option String :=
  (Arithmetic.binary64.toFloat value).map fun x => render.rounded x places

/-- `_round`. -/
def round (value : Json) (places : Nat) : Option String :=
  match value with
  | .int n => roundNumber render (.int n) places
  | .float x => roundNumber render (.float x) places
  | _ => some ""

/-- `data.get(key, default)`. -/
def getOr (data : List (String × Json)) (key : String) (default : Json) : Json :=
  (Json.lookup key data).getD default

/-- `value or []` where it is walked through: a dictionary gives its keys, a string its
    characters, and any other value that is true raises. -/
def elements (value : Json) : Option (List Json) :=
  match value with
  | .list items => some items
  | .obj fields => some (fields.map fun field => .str field.1)
  | .str value => some (value.toList.map fun c => .str (String.ofList [c]))
  | value => if value.truthy then none else some []

/-- `value or {}` where `get` is called of it. -/
def fieldsOf (value : Json) : Option (List (String × Json)) :=
  match value with
  | .obj fields => some fields
  | value => if value.truthy then none else some []

/-! ### The writers -/

/-- What a writer adds: each row with the file it goes to, without the lead columns. -/
abbrev Rows := List (String × List String)

/-- The first two columns of the tables that name the map. -/
def mapCells (data : List (String × Json)) : List String :=
  [text render (Json.get data "map_id"), text render (Json.get data "map_revision")]

/-- The `yaw_deg` of a pose. -/
def yawDegrees (yaw : Json) : Option String :=
  match yaw with
  | .bool _ => some ""
  | yaw => (operand yaw).elim (some "") fun yaw =>
    (Arithmetic.binary64.toFloat yaw).bind fun radians =>
      roundNumber render (.float (radians.mul (.finite degreesPerRadian)).rounded) 2

/-- `_write_pose`. -/
def writePose (_index : Int) (data : List (String × Json)) : Option Rows := do
  let yaw := Json.get data "yaw"
  let degrees ← yawDegrees render yaw
  pure [("pose.csv", mapCells render data ++ [text render (getOr data "frame_id" (.str "map")),
    num render (Json.get data "x"), num render (Json.get data "y"), num render yaw, degrees,
    num render (Json.get data "linear_velocity"), num render (Json.get data "angular_velocity"),
    num render (Json.get data "covariance_trace"), bool (Json.get data "localized")])]

/-- `_write_battery`. -/
def writeBattery (_index : Int) (data : List (String × Json)) : Option Rows := do
  let estimate ← fieldsOf (Json.get data "estimate")
  pure [("battery.csv", [num render (Json.get data "voltage"), num render (Json.get data "current"),
    num render (Json.get data "percentage"), bool (Json.get data "charging"),
    text render (Json.get estimate "state"), num render (Json.get estimate "minutes_remaining"),
    text render (Json.get estimate "confidence")])]

/-- `_write_event`. -/
def writeEvent (_index : Int) (data : List (String × Json)) : Option Rows :=
  some [("events.csv", [num render (Json.get data "id"), text render (Json.get data "severity"),
    text render (Json.get data "title"), text render (Json.get data "message")])]

/-- `_write_base_state`. -/
def writeBaseState (_index : Int) (data : List (String × Json)) : Option Rows :=
  some [("base_state.csv", mapCells render data ++ [
    num render (Json.get data "session_generation"), bool (Json.get data "link_connected"),
    num render (Json.get data "telemetry_age"), bool (Json.get data "hardware_state_valid"),
    text render (Json.get data "charge_state"), bool (Json.get data "motors_enabled"),
    bool (Json.get data "estop_pressed"), num render (Json.get data "fault_flags"),
    num render (Json.get data "stall_value"),
    bool (Json.get data "bumpers_front"), bool (Json.get data "bumpers_rear")])]

/-- `_write_diagnostics`. -/
def writeDiagnostics (index : Int) (data : List (String × Json)) : Option Rows := do
  let items ← elements (Json.get data "items")
  pure (items.zipIdx.filterMap fun item => match item.1 with
    | .obj fields =>
      let values := Json.get fields "values"
      some ("diagnostics.csv", [toString index, toString item.2,
        text render (Json.get fields "name"), text render (Json.get fields "level"),
        text render (Json.get fields "message"),
        if values.truthy then render.dumps values else ""])
    | _ => none)

/-- The points of a path that have two coordinates at least. -/
def pathPoints (items : List Json) : List (Json × Json) :=
  items.filterMap fun item => match item with
    | .list (x :: y :: _) => some (x, y)
    | _ => none

/-- `_path_length`, unless a coordinate is no number or an operation overflows. -/
def pathLength : List (Json × Json) → Option PyFloat
  | [] => some (.finite 0)
  | point :: points =>
    let rec go (total : PyFloat) (last : Json × Json) : List (Json × Json) → Option PyFloat
      | [] => some total
      | next :: points => do
        let length ← render.segment (← operand last.1) (← operand last.2) (← operand next.1)
          (← operand next.2)
        go (total.add length).rounded next points
    go (.finite 0) point points

/-- `_write_path`. -/
def writePath (index : Int) (data : List (String × Json)) : Option Rows := do
  let points := pathPoints (← elements (Json.get data "points"))
  let goal ← fieldsOf (Json.get data "goal")
  let length ← pathLength render points
  let length ← roundNumber render (.float length) 3
  let summary := mapCells render data ++ [toString index,
    text render (getOr data "frame_id" (.str "map")), toString points.length, length,
    num render (Json.get goal "x"), num render (Json.get goal "y"),
    num render (Json.get goal "yaw")]
  pure (("path.csv", summary) :: points.zipIdx.map fun point =>
    ("path_points.csv", mapCells render data ++
      [toString index, toString point.2, num render point.1.1, num render point.1.2]))

/-- `left < right` of two numbers. -/
def below (left right : Json) : Bool :=
  ((operand left).bind fun left => (operand right).map fun right =>
    left.order.lt right.order).getD false

/-- `min` of a nonempty list. -/
def least (value : Json) (values : List Json) : Json :=
  values.foldl (fun least value => if below value least then value else least) value

/-- `max` of a nonempty list. -/
def greatest (value : Json) (values : List Json) : Json :=
  values.foldl (fun greatest value => if below greatest value then value else greatest) value

/-- The angle of a beam, `""` without a first angle and an increment. -/
def beamAngle (angleMin increment : Json) (beam : Nat) : Option String :=
  match operand angleMin, operand increment with
  | some angleMin, some increment => do
    let turned ← Arithmetic.binary64.mul (.int beam) increment
    let angle ← Arithmetic.binary64.add angleMin turned
    roundNumber render angle 6
  | _, _ => some ""

/-- The `range_min` and `range_max` of a scan. -/
def extremes (valid : List Json) : Option (String × String) :=
  match valid with
  | [] => some ("", "")
  | range :: valid => (round render (least range valid) 3).bind fun least =>
    (round render (greatest range valid) 3).map fun greatest => (least, greatest)

/-- `_write_lidar`. -/
def writeLidar (index : Int) (data : List (String × Json)) : Option Rows := do
  let ranges ← elements (Json.get data "ranges")
  let angleMin := Json.get data "angle_min"
  let increment := Json.get data "angle_increment"
  let valid := ranges.filter fun range => (operand range).isSome
  let extremes ← extremes render valid
  let summary := mapCells render data ++ [toString index, num render angleMin,
    num render increment, toString ranges.length, toString valid.length, extremes.1, extremes.2]
  let beams ← ranges.zipIdx.mapM fun range =>
    (beamAngle render angleMin increment range.2).map fun angle =>
      ("lidar_ranges.csv", mapCells render data ++
        [toString index, toString range.2, angle, num render range.1])
  pure (("lidar.csv", summary) :: beams)

/-- `_WRITERS`. -/
def write (kind : String) : Int → List (String × Json) → Option Rows :=
  match kind with
  | "pose" => writePose render
  | "battery" => writeBattery render
  | "event" => writeEvent render
  | "base_state" => writeBaseState render
  | "diagnostics" => writeDiagnostics render
  | "path" => writePath render
  | "lidar" => writeLidar render
  | _ => fun _ _ => none

/-! ### Tables -/

/-- `_Table`: what the file holds, and the number of rows written under the header. -/
structure Table where
  contents : String
  rows : Nat := 0

def csvLine (cells : List String) : String :=
  String.ofList (Csv.writeRow (cells.map String.toList))

def Table.new (filename : String) : Table := ⟨csvLine (columns filename), 0⟩

/-- `_Table.write`. -/
def Table.write (table : Table) (lead rest : List String) : Table :=
  ⟨table.contents ++ csvLine (lead ++ rest), table.rows + 1⟩

def Table.bytesWritten (table : Table) : Nat := table.contents.utf8ByteSize

/-- The dictionary of tables: the rows that a writer adds. -/
def addRows (lead : List String) (rows : Rows) (tables : List (String × Table)) :
    List (String × Table) :=
  tables.map fun entry =>
    (entry.1, rows.foldl
      (fun table row => if row.1 = entry.1 then table.write lead row.2 else table) entry.2)

/-- The bytes of all tables. -/
def totalBytes (tables : List (String × Table)) : Nat :=
  (tables.map fun entry => entry.2.bytesWritten).sum

/-! ### The builder -/

/-- A row of `recordings` as the export reads it. -/
structure RecordingRow extends Recording where
  startedAt : String
  endedAt : Option String

/-- A sample handed to `add`. -/
structure Sample where
  ts : String
  kind : String
  data : Json

inductive ExportError where
  | tooLarge (written : Nat) (limit : Int)
  | raised
deriving DecidableEq

/-- `MAX_EXPORT_BYTES`. -/
def maxExportBytes : Int := 512 * 1024 * 1024

/-- `SIZE_CHECK_EVERY`. -/
def sizeCheckEvery : Nat := 5000

/-- `ZipExportBuilder`. -/
structure Builder where
  recording : RecordingRow
  selected : List String
  t0 : Option Moment
  maxBytes : Int
  tables : List (String × Table)
  rowsSinceCheck : Nat := 0
  indices : String → Int := fun _ => -1

/-- The constructor.  A table that is opened again takes the place of the first. -/
def Builder.new (recording : RecordingRow) (selected : List String) (t0 : Option Moment)
    (maxBytes : Int) : Builder where
  recording := recording
  selected := selected
  t0 := t0
  maxBytes := maxBytes
  tables := (selected.flatMap filesOf).foldl
    (fun tables filename => Tuning.insertAt filename (Table.new filename) tables) []

/-- The decoded data of a sample, if it is a dictionary. -/
def Sample.fields (sample : Sample) : Option (List (String × Json)) :=
  let decoded := match sample.data with
    | .str data => render.loads data
    | data => some data
  match decoded with
  | some (.obj fields) => some fields
  | _ => none

namespace Builder

/-- The lead columns of a sample's rows. -/
def lead (builder : Builder) (sample : Sample) : List String :=
  let stamp := parseTs render sample.ts
  let elapsed := (stamp.bind fun stamp => builder.t0.map fun t0 =>
    render.seconds (stamp.micros - t0.micros)).getD ""
  [toString builder.recording.id, (stamp.map Moment.iso).getD sample.ts, elapsed]

/-- The check of the size after a sample was written. -/
def measure (builder : Builder) : Except ExportError Builder :=
  if sizeCheckEvery ≤ builder.rowsSinceCheck + 1 then
    let written := totalBytes builder.tables
    if builder.maxBytes < written then .error (.tooLarge written builder.maxBytes)
    else .ok { builder with rowsSinceCheck := 0 }
  else .ok { builder with rowsSinceCheck := builder.rowsSinceCheck + 1 }

/-- `add`. -/
def add (builder : Builder) (sample : Sample) : Except ExportError Builder :=
  if builder.selected.contains sample.kind = false then .ok builder
  else
    let index := builder.indices sample.kind + 1
    let counted := { builder with indices := Function.update builder.indices sample.kind index }
    match sample.fields render with
    | none => .ok counted
    | some data =>
      match write render sample.kind index data with
      | none => .error .raised
      | some rows => measure
        { counted with tables := addRows (builder.lead render sample) rows builder.tables }

end Builder

/-! ### The archive -/

/-- What a manifest says of a file. -/
def fileEntry (builder : Builder) (filename : String) : Json := .obj
  [("rows", .int ((builder.tables.lookup filename).elim 0 fun table => table.rows)),
    ("columns", .list ((columns filename).map .str)),
    ("description", .str ((fileNotes.lookup filename).getD ""))]

/-- `_manifest`. -/
def manifest (builder : Builder) : Json :=
  let row := builder.recording
  .obj [("recording_id", .int row.id), ("name", .str row.name), ("robot_id", .str row.robotId),
    ("started_at", .str row.startedAt), ("ended_at", row.endedAt.elim .null .str),
    ("sample_count", .int row.sampleCount), ("channels_recorded", .list (row.channels.map .str)),
    ("channels_exported", .list (builder.selected.map .str)),
    ("time_origin", builder.t0.elim .null fun t0 => .str t0.iso),
    ("files", .obj ((builder.selected.flatMap filesOf).foldl
      (fun files filename => Tuning.insertAt filename (fileEntry builder filename) files) []))]

/-- What an entry of the archive holds. -/
inductive Content where
  | readme
  | manifest (value : Json)
  | table (contents : String)

/-- Letters and digits of a slug. -/
def slugChar (c : Char) : Bool := ('a' ≤ c && c ≤ 'z') || ('0' ≤ c && c ≤ '9')

/-- Each run of other characters as one dash. -/
def dashed : Bool → List Char → List Char
  | _, [] => []
  | inRun, c :: text =>
    if slugChar c then c :: dashed false text
    else if inRun then dashed true text
    else '-' :: dashed true text

/-- `slugify`. -/
def slugify (name : String) : String :=
  let text := dashed false (lower name).toList
  let text := ((text.dropWhile (· == '-')).reverse.dropWhile (· == '-')).reverse
  let slug := String.ofList (text.take 48)
  if slug = "" then "recording" else slug

/-- The folder of the archive. -/
def folder (builder : Builder) : String :=
  s!"recording-{builder.recording.id}-{slugify builder.recording.name}"

/-- `finalize`: the entries of the archive, in order. -/
def finalize (builder : Builder) : List (String × Content) :=
  (folder builder ++ "/README.txt", .readme) ::
    (folder builder ++ "/recording.json", .manifest (manifest builder)) ::
    (builder.selected.flatMap filesOf).map fun filename =>
      (folder builder ++ "/" ++ filename,
        .table ((builder.tables.lookup filename).elim "" Table.contents))

/-! ### The endpoint -/

def known (channel : String) : Bool := (channelFiles.map Prod.fst).contains channel

/-- `select_channels`. -/
def selectChannels (declared present : List String) (channels : Option (List String)) :
    List String :=
  let recorded := present.foldl
    (fun recorded kind => if known kind ∧ kind ∉ recorded then recorded ++ [kind] else recorded)
    (declared.filter known)
  recorded.filter fun channel => channels.all fun channels => channels.contains channel

/-- `_parse_channels`. -/
def parseChannels (channels : String) : List String :=
  ((channels.splitOn ",").map strip).filter (· ≠ "")

/-- The answer to an export request.  An archive stands for the builder it is finalized
    from. -/
inductive Outcome where
  | notFound
  | refused
  | tooLarge (limit : Int)
  | failed
  | archive (builder : Builder)

/-- The first part of `export_recording_zip`: the builder, and the samples that the
    database has of what was selected. -/
def openExport (maxBytes : Int) (row : Option RecordingRow) (present : List String)
    (firstTs : Option String) (samples : List Sample) (channels : Option String) :
    Except Outcome (Builder × List Sample) :=
  match row with
  | none => .error .notFound
  | some row =>
    let wanted := channels.map parseChannels
    if wanted.any (fun wanted => wanted.isEmpty || !wanted.all known) then .error .refused
    else
      let selected := selectChannels row.channels present wanted
      let t0 := (firstTs.bind (parseTs render)).or (parseTs render row.startedAt)
      let read := if selected.isEmpty then samples
        else samples.filter fun sample => selected.contains sample.kind
      .ok (Builder.new row selected t0 maxBytes, read)

/-- The loop of `export_recording_zip`. -/
def runExport (builder : Builder) (samples : List Sample) : Outcome :=
  match samples.foldlM (Builder.add render) builder with
  | .error (.tooLarge _ limit) => .tooLarge limit
  | .error .raised => .failed
  | .ok builder => .archive builder

/-- `export_recording_zip`. -/
def exportRecordingZip (maxBytes : Int) (row : Option RecordingRow) (present : List String)
    (firstTs : Option String) (samples : List Sample) (channels : Option String) : Outcome :=
  match openExport render maxBytes row present firstTs samples channels with
  | .error outcome => outcome
  | .ok opened => runExport render opened.1 opened.2

end Export

end PatrolBot
