import Mathlib.Algebra.Field.Rat
import Mathlib.Logic.Function.Basic
import PatrolBot.Library.Machine

/-!
# Recordings of a session

`Recorder` of `recordings/recorder.py` with the `BackgroundWriter` that writes its samples
and the statements of `database/repo.py` that both issue.  The connection to the database
is shared, so that a statement sees what any other has done, committed or not.

Other coroutines run at each `await`.  A call of the recorder is the list of its stages,
one for each statement still to be executed; to stay in a stage for longer is to wait for a
commit or for the event loop.
-/

namespace PatrolBot

/-! ### The tables -/

inductive RecordingStatus where
  | recording
  | done
deriving DecidableEq

/-- A row of `recordings`. -/
structure Recording where
  id : Nat
  robotId : String
  name : String
  channels : List String
  status : RecordingStatus
  sampleCount : Nat
deriving DecidableEq

/-- A row of `recording_samples`, and the arguments of `add_recording_sample`. -/
structure RecordingSample where
  recordingId : Nat
  ts : String
  kind : String
  data : String
deriving DecidableEq

/-- The two tables; `lastId` is the highest id a recording ever had. -/
structure RecordingTables where
  recordings : List Recording := []
  samples : List RecordingSample := []
  lastId : Nat := 0

namespace RecordingTables

/-- The rows with status `recording`. -/
def openRows (db : RecordingTables) : List Recording :=
  db.recordings.filter fun row => decide (row.status = .recording)

/-- `SELECT … FROM recording_samples WHERE recording_id = ?`. -/
def samplesOf (db : RecordingTables) (id : Nat) : List RecordingSample :=
  db.samples.filter fun sample => decide (sample.recordingId = id)

/-- The `INSERT` of `start_recording`. -/
def insertRecording (db : RecordingTables) (robotId name : String) (channels : List String) :
    RecordingTables :=
  { db with
    recordings := db.recordings ++ [⟨db.lastId + 1, robotId, name, channels, .recording, 0⟩]
    lastId := db.lastId + 1 }

/-- `stop_recording`. -/
def stopRecording (db : RecordingTables) (id : Nat) : RecordingTables :=
  { db with recordings := db.recordings.map fun row =>
      if row.id = id then { row with status := .done } else row }

/-- The `INSERT` of `add_recording_sample`. -/
def insertSample (db : RecordingTables) (sample : RecordingSample) : RecordingTables :=
  { db with samples := db.samples ++ [sample] }

/-- The `UPDATE` of `add_recording_sample`. -/
def countSample (db : RecordingTables) (id : Nat) : RecordingTables :=
  { db with recordings := db.recordings.map fun row =>
      if row.id = id then { row with sampleCount := row.sampleCount + 1 } else row }

/-- `list_recordings`: the newest rows first. -/
def listRecordings (db : RecordingTables) : List Recording := db.recordings.reverse.take 50

/-- `get_recording`. -/
def getRecording (db : RecordingTables) (id : Nat) : Option Recording :=
  db.recordings.find? fun row => decide (row.id = id)

end RecordingTables

/-! ### The writer -/

/-- Where the worker is: it waits for a write, or a statement of one is to be executed. -/
inductive WriterStage where
  | idle
  | inserting (sample : RecordingSample)
  | counting (sample : RecordingSample)
  | committing (sample : RecordingSample)
deriving DecidableEq

/-- `BackgroundWriter`, whose every write is an `add_recording_sample`.  The worker runs
    from the first submission on. -/
structure BackgroundWriter where
  queue : List RecordingSample := []
  stage : WriterStage := .idle
  dropped : Nat := 0
  failed : Nat := 0

/-- `DEFAULT_MAXSIZE`. -/
def writerMaxsize : Nat := 256

namespace BackgroundWriter

/-- The queue has no unfinished task. -/
def finished (writer : BackgroundWriter) : Bool :=
  writer.queue.isEmpty && decide (writer.stage = .idle)

/-- `submit`. -/
def submit (writer : BackgroundWriter) (sample : RecordingSample) : BackgroundWriter × Bool :=
  if writer.queue.length < writerMaxsize then
    ({ writer with queue := writer.queue ++ [sample] }, true)
  else ({ writer with dropped := writer.dropped + 1 }, false)

end BackgroundWriter

/-! ### The recorder -/

/-- `CHANNEL_INTERVALS`, in seconds. -/
def channelIntervals : List (String × ℚ) :=
  [("pose", 1 / 2), ("lidar", 1), ("path", 1), ("base_state", 1), ("diagnostics", 5),
    ("battery", 5), ("event", 0)]

def defaultChannels : List String := ["pose", "battery", "event"]

def maxSamples : Nat := 100000

/-- The fields of `Recorder`. -/
structure Recorder where
  active : Option Recording := none
  channels : List String := []
  lastMono : String → ℚ := fun _ => 0
  samples : Nat := 0

/-- The channels of a new recording. -/
def wantedChannels (channels : Option (List String)) : List String :=
  let asked := match channels with
    | none | some [] => defaultChannels
    | some channels => channels
  let wanted := asked.filter fun channel => (channelIntervals.map Prod.fst).contains channel
  if wanted.isEmpty then defaultChannels else wanted

/-- What a call of the recorder still has to do. -/
inductive RecorderStage where
  /-- `start`: look for an open recording. -/
  | selecting (robotId name : String) (wanted : List String)
  /-- `start`: there was none. -/
  | inserting (robotId name : String) (wanted : List String)
  /-- `start`: read the new row. -/
  | fetching (id : Nat) (wanted : List String)
  /-- `start`: make the row the active recording. -/
  | starting (row : Option Recording) (wanted : List String)
  /-- `stop`: wait until the writer has finished every task, which it has or has not since
      the call. -/
  | flushing (id : Nat) (drained : Bool)
  /-- `stop`: close the row. -/
  | closing (id : Nat)
  /-- `stop`: read the closed row. -/
  | reading (id : Nat)
  /-- `stop`: return it. -/
  | stopping (row : Option Recording)
  /-- `recover`: list the recordings. -/
  | listing
  /-- `recover`: close the rows that were open. -/
  | recovering (ids : List Nat)
  | returned
deriving DecidableEq

/-- A call that waits for the writer learns that every task is finished. -/
def RecorderStage.drain : RecorderStage → RecorderStage
  | .flushing id _ => .flushing id true
  | stage => stage

/-- The recorder, its writer, the tables and the calls so far. -/
structure Recordings where
  db : RecordingTables
  recorder : Recorder := {}
  writer : BackgroundWriter := {}
  calls : List RecorderStage := []

inductive RecordingEvent where
  | start (robotId name : String) (channels : Option (List String))
  | stop
  | recover
  /-- A call goes on: the statement of its stage is executed. -/
  | resume (call : Nat)
  | offer (kind ts data : String) (now : ℚ)
  /-- The worker goes on; the statement it is at succeeds or fails. -/
  | work (succeeds : Bool)

/-- What a call of `stop` returns. -/
inductive RecordingNote where
  | stopped (row : Recording)
deriving DecidableEq

namespace Recordings

def begin (s : Recordings) (stage : RecorderStage) : Recordings :=
  { s with calls := s.calls ++ [stage] }

/-- A call reaches another stage. -/
def proceed (s : Recordings) (call : Nat) (stage : RecorderStage) : Recordings :=
  { s with calls := s.calls.set call stage }

/-- `Recorder.start`, up to the first `await`. -/
def start (s : Recordings) (robotId name : String) (channels : Option (List String)) :
    Recordings :=
  if s.recorder.active.isSome then s.begin .returned
  else s.begin (.selecting robotId name (wantedChannels channels))

/-- `Recorder.stop`, up to the first suspension. -/
def stop (s : Recordings) : Recordings :=
  match s.recorder.active with
  | none => s.begin .returned
  | some row =>
    { s with recorder := { s.recorder with active := none } }.begin
      (.flushing row.id s.writer.finished)

/-- The rest of `start` where the row was read. -/
def activate (s : Recordings) (row : Recording) (wanted : List String) : Recordings :=
  { s with recorder :=
      { active := some row, channels := wanted, lastMono := fun _ => 0, samples := 0 } }

/-- A call executes the statement of its stage. -/
def resume (s : Recordings) (call : Nat) : RecorderStage → Recordings × List RecordingNote
  | .selecting robotId name wanted =>
    if s.db.openRows.isEmpty then (s.proceed call (.inserting robotId name wanted), [])
    else (s.proceed call .returned, [])
  | .inserting robotId name wanted =>
    ({ s with db := s.db.insertRecording robotId name wanted }.proceed call
      (.fetching (s.db.lastId + 1) wanted), [])
  | .fetching id wanted => (s.proceed call (.starting (s.db.getRecording id) wanted), [])
  | .starting none _ => (s.proceed call .returned, [])
  | .starting (some row) wanted => ((s.activate row wanted).proceed call .returned, [])
  | .flushing id drained => if drained then (s.proceed call (.closing id), []) else (s, [])
  | .closing id =>
    ({ s with db := s.db.stopRecording id }.proceed call (.reading id), [])
  | .reading id => (s.proceed call (.stopping (s.db.getRecording id)), [])
  | .stopping row => (s.proceed call .returned, row.toList.map .stopped)
  | .listing =>
    let rows := s.db.listRecordings.filter fun row => decide (row.status = .recording)
    (s.proceed call (.recovering (rows.map Recording.id)), [])
  | .recovering [] => (s.proceed call .returned, [])
  | .recovering (id :: ids) =>
    ({ s with db := s.db.stopRecording id }.proceed call (.recovering ids), [])
  | .returned => (s, [])

/-- `Recorder.offer`. -/
def offer (s : Recordings) (kind ts data : String) (now : ℚ) : Recordings :=
  match s.recorder.active with
  | none => s
  | some row =>
    if s.recorder.channels.contains kind = false then s
    else
      let interval := (channelIntervals.lookup kind).getD 1
      if 0 < interval ∧ now - s.recorder.lastMono kind < interval then s
      else
        let recorder :=
          { s.recorder with lastMono := Function.update s.recorder.lastMono kind now }
        if maxSamples ≤ recorder.samples then { s with recorder := recorder }
        else
          let (writer, queued) := s.writer.submit ⟨row.id, ts, kind, data⟩
          { s with
            recorder := { recorder with
              samples := if queued then recorder.samples + 1 else recorder.samples }
            writer := writer }

/-- `task_done`, which wakes the calls of `flush` once no task is unfinished. -/
def taskDone (s : Recordings) : Recordings :=
  let s := { s with writer := { s.writer with stage := .idle } }
  if s.writer.finished then { s with calls := s.calls.map RecorderStage.drain } else s

/-- The handler of a write that raised. -/
def writeFailed (s : Recordings) : Recordings :=
  { s with writer := { s.writer with failed := s.writer.failed + 1 } }.taskDone

/-- A step of `_run` and of the `add_recording_sample` that it awaits. -/
def work (s : Recordings) (succeeds : Bool) : Recordings :=
  match s.writer.stage with
  | .idle =>
    match s.writer.queue with
    | [] => s
    | sample :: queue =>
      { s with writer := { s.writer with queue := queue, stage := .inserting sample } }
  | .inserting sample =>
    if succeeds then
      { s with
        db := s.db.insertSample sample
        writer := { s.writer with stage := .counting sample } }
    else s.writeFailed
  | .counting sample =>
    if succeeds then
      { s with
        db := s.db.countSample sample.recordingId
        writer := { s.writer with stage := .committing sample } }
    else s.writeFailed
  | .committing _ => if succeeds then s.taskDone else s.writeFailed

def step (s : Recordings) : RecordingEvent → Recordings × List RecordingNote
  | .start robotId name channels => (s.start robotId name channels, [])
  | .stop => (s.stop, [])
  | .recover => (s.begin .listing, [])
  | .resume call =>
    match s.calls[call]? with
    | none => (s, [])
    | some stage => s.resume call stage
  | .offer kind ts data now => (s.offer kind ts data now, [])
  | .work succeeds => (s.work succeeds, [])

end Recordings

/-- The recorder as a machine. -/
def recordings : Machine Recordings RecordingEvent RecordingNote where
  step := Recordings.step

namespace Recordings

/-- The server starts on these tables, and closes what a run before left open. -/
def startup (db : RecordingTables) : Recordings := { db := db, calls := [.listing] }

theorem step_resume {s : Recordings} {call : Nat} {stage : RecorderStage}
    (hcall : s.calls[call]? = some stage) :
    recordings.step s (.resume call) = s.resume call stage := by
  simp only [recordings, step, hcall]

theorem step_resume_of_none {s : Recordings} {call : Nat} (hcall : s.calls[call]? = none) :
    recordings.step s (.resume call) = (s, []) := by
  simp only [recordings, step, hcall]

/-- A call of the list is at a stage of this kind. -/
def StageAt (p : RecorderStage → Prop) (calls : List RecorderStage) (call : Nat) : Prop :=
  ∃ stage, calls[call]? = some stage ∧ p stage

namespace StageAt

variable {p : RecorderStage → Prop} {calls : List RecorderStage} {call : Nat}

theorem of_concat {new : RecorderStage} (h : StageAt p (calls ++ [new]) call) (hnew : ¬p new) :
    StageAt p calls call := by
  obtain ⟨stage, hstage, hp⟩ := h
  rw [List.getElem?_append] at hstage
  split at hstage
  · exact ⟨stage, hstage, hp⟩
  · rw [List.mem_singleton.mp (List.mem_of_getElem? hstage)] at hp
    exact absurd hp hnew

/-- A call is where it was, or it is the one that goes on. -/
theorem of_set {new : RecorderStage} {other : Nat} (h : StageAt p (calls.set call new) other) :
    other = call ∧ p new ∨ StageAt p calls other := by
  obtain ⟨stage, hstage, hp⟩ := h
  by_cases hother : other = call
  · subst hother
    rw [List.getElem?_set_self', Option.map_eq_map, Option.map_eq_some_iff] at hstage
    obtain ⟨_, _, rfl⟩ := hstage
    exact Or.inl ⟨rfl, hp⟩
  · rw [List.getElem?_set_ne (Ne.symm hother)] at hstage
    exact Or.inr ⟨stage, hstage, hp⟩

end StageAt

end Recordings

end PatrolBot
