import PatrolBot.RecordingSingle

/-!
# The samples of a stopped recording

A stop waits until the writer has finished every task and reports the count that the row
then has.  By then nothing can give the writer another sample of the recording, so that its
rows are final; the count agrees with them unless the statement that raises it failed after
its sample was inserted.
-/

namespace PatrolBot

namespace RecorderStage

/-- The recording that a start will make the active one. -/
def starts : RecorderStage → Option Nat
  | .fetching id _ => some id
  | .starting (some row) _ => some row.id
  | _ => none

/-- The recording that a stop has in hand. -/
def stops : RecorderStage → Option Nat
  | .flushing id _ | .closing id | .reading id => some id
  | .stopping (some row) => some row.id
  | _ => none

/-- The recording of a stop for which the writer has finished. -/
def flushed : RecorderStage → Option Nat
  | .flushing id true | .closing id | .reading id => some id
  | .stopping (some row) => some row.id
  | _ => none

theorem stops_of_flushed {stage : RecorderStage} {id : Nat} (h : stage.flushed = some id) :
    stage.stops = some id := by
  cases stage with
  | flushing own drained =>
    cases drained with
    | true => exact h
    | false => cases h
  | stopping row =>
    cases row with
    | none => cases h
    | some row => exact h
  | closing own => exact h
  | reading own => exact h
  | _ => cases h

@[simp] theorem starts_drain (stage : RecorderStage) : stage.drain.starts = stage.starts := by
  cases stage <;> rfl

@[simp] theorem stops_drain (stage : RecorderStage) : stage.drain.stops = stage.stops := by
  cases stage <;> rfl

end RecorderStage

/-- The sample the worker is at. -/
def WriterStage.sample : WriterStage → Option RecordingSample
  | .idle => none
  | .inserting sample | .counting sample | .committing sample => some sample

namespace BackgroundWriter

/-- The samples the writer has not finished. -/
def held (writer : BackgroundWriter) : List RecordingSample :=
  writer.stage.sample.toList ++ writer.queue

/-- What the count of a recording is behind its rows. -/
def owed (writer : BackgroundWriter) (id : Nat) : Nat :=
  match writer.stage with
  | .counting sample => if sample.recordingId = id then 1 else 0
  | _ => 0

theorem held_eq_nil {writer : BackgroundWriter} (h : writer.finished = true) :
    writer.held = [] := by
  obtain ⟨hqueue, hstage⟩ := (Bool.and_eq_true _ _).mp h
  rw [held, of_decide_eq_true hstage, List.isEmpty_iff.mp hqueue]
  rfl

theorem owed_eq_zero {writer : BackgroundWriter} {id : Nat}
    (h : ∀ sample ∈ writer.held, sample.recordingId ≠ id) : writer.owed id = 0 := by
  unfold owed
  split
  · rename_i sample hstage
    apply if_neg
    apply h
    rw [held, hstage]
    exact List.mem_cons_self
  · rfl

end BackgroundWriter

namespace Recordings

variable {s : Recordings} {base : Nat}

/-- Nothing will make this recording the active one, and it is not. -/
structure Released (s : Recordings) (id : Nat) : Prop where
  active : ∀ row, s.recorder.active = some row → row.id ≠ id
  starts : ∀ stage ∈ s.calls, stage.starts ≠ some id

/-- The rows of this recording are final. -/
structure Quiet (s : Recordings) (id : Nat) : Prop where
  bound : id ≤ s.db.lastId
  released : s.Released id
  held : ∀ sample ∈ s.writer.held, sample.recordingId ≠ id

/-! ### Final rows -/

theorem Quiet.begin {id : Nat} (h : s.Quiet id) {stage : RecorderStage}
    (hstarts : stage.starts = none) {recorder : Recorder}
    (hactive : ∀ row, recorder.active = some row → s.recorder.active = some row) :
    ({ s with recorder := recorder }.begin stage).Quiet id := by
  refine ⟨h.bound, ⟨fun row hrow => h.released.active row (hactive row hrow), ?_⟩, h.held⟩
  intro other hmem
  rcases List.mem_append.mp hmem with hold | hnew
  · exact h.released.starts other hold
  · rw [List.mem_singleton.mp hnew, hstarts]
    exact Option.some_ne_none id |>.symm

theorem Quiet.proceed {id : Nat} (h : s.Quiet id) {call : Nat} {new : RecorderStage}
    {db : RecordingTables} {recorder : Recorder} (hbound : s.db.lastId ≤ db.lastId)
    (hstarts : new.starts ≠ some id)
    (hactive : ∀ row, recorder.active = some row → row.id ≠ id) :
    ({ s with db := db, recorder := recorder }.proceed call new).Quiet id := by
  refine ⟨h.bound.trans hbound, ⟨hactive, ?_⟩, h.held⟩
  intro other hmem
  rcases List.mem_or_eq_of_mem_set hmem with hold | hnew
  · exact h.released.starts other hold
  · rw [hnew]
    exact hstarts

/-- A call goes on: a new recording has another id, and what becomes active was in the hands
    of the call. -/
theorem Quiet.resume {id : Nat} (h : s.Quiet id) {call : Nat} {stage : RecorderStage}
    (hcall : s.calls[call]? = some stage) :
    (s.resume call stage).1.Quiet id ∧
      (s.resume call stage).1.db.samplesOf id = s.db.samplesOf id := by
  have hself := h.released.starts stage (List.mem_of_getElem? hcall)
  have hactive := h.released.active
  have hnone : (none : Option Nat) ≠ some id := Option.some_ne_none id |>.symm
  cases stage with
  | selecting robotId name wanted =>
    rw [Recordings.resume]
    split
    · exact ⟨h.proceed le_rfl hnone hactive, rfl⟩
    · exact ⟨h.proceed le_rfl hnone hactive, rfl⟩
  | inserting robotId name wanted =>
    refine ⟨h.proceed (Nat.le_succ _) ?_ hactive, rfl⟩
    have hbound := h.bound
    intro hid
    have hid : s.db.lastId + 1 = id := Option.some.inj hid
    omega
  | fetching own wanted =>
    refine ⟨h.proceed le_rfl ?_ hactive, rfl⟩
    cases hrow : s.db.getRecording own with
    | none => exact hnone
    | some row =>
      change some row.id ≠ some id
      rw [RecordingTables.id_of_getRecording hrow]
      exact hself
  | starting row wanted =>
    cases row with
    | none => exact ⟨h.proceed le_rfl hnone hactive, rfl⟩
    | some row =>
      refine ⟨h.proceed le_rfl hnone ?_, rfl⟩
      intro other hother hid
      cases hother
      exact hself (congrArg some hid)
  | flushing own drained =>
    cases drained with
    | true => exact ⟨h.proceed le_rfl hnone hactive, rfl⟩
    | false => exact ⟨h, rfl⟩
  | closing own => exact ⟨h.proceed le_rfl hnone hactive, rfl⟩
  | reading own => exact ⟨h.proceed le_rfl hnone hactive, rfl⟩
  | stopping row => exact ⟨h.proceed le_rfl hnone hactive, rfl⟩
  | listing => exact ⟨h.proceed le_rfl hnone hactive, rfl⟩
  | recovering ids =>
    cases ids with
    | nil => exact ⟨h.proceed le_rfl hnone hactive, rfl⟩
    | cons own ids => exact ⟨h.proceed le_rfl hnone hactive, rfl⟩
  | returned => exact ⟨h, rfl⟩

/-- The writer's part of the state moves, and what it holds does not grow. -/
theorem Quiet.write {id : Nat} (h : s.Quiet id) {t : Recordings}
    (hbound : t.db.lastId = s.db.lastId) (hrecorder : t.recorder.active = s.recorder.active)
    (hcalls : ∀ stage ∈ t.calls, ∃ old ∈ s.calls, stage.starts = old.starts)
    (hheld : t.writer.held ⊆ s.writer.held) : t.Quiet id := by
  refine ⟨hbound ▸ h.bound, ⟨?_, ?_⟩, fun sample hmem => h.held sample (hheld hmem)⟩
  · rw [hrecorder]
    exact h.released.active
  · intro stage hmem
    obtain ⟨old, hold, heq⟩ := hcalls stage hmem
    rw [heq]
    exact h.released.starts old hold

/-- What `task_done` does: the worker is idle, and where nothing is left to do the calls that
    wait for it learn so. -/
theorem taskDone_cases (s : Recordings) :
    s.taskDone = { s with writer := { s.writer with stage := .idle } } ∨
      { s.writer with stage := .idle }.finished = true ∧
        s.taskDone = { s with
          writer := { s.writer with stage := .idle }
          calls := s.calls.map RecorderStage.drain } := by
  unfold taskDone
  dsimp only
  split
  · rename_i hfinished
    exact Or.inr ⟨hfinished, rfl⟩
  · exact Or.inl rfl

theorem held_idle (writer : BackgroundWriter) :
    { writer with stage := .idle }.held ⊆ writer.held :=
  fun _ hmem => List.mem_append_right _ hmem

theorem Quiet.taskDone {id : Nat} (h : s.Quiet id) :
    s.taskDone.Quiet id ∧ s.taskDone.db = s.db := by
  rcases s.taskDone_cases with hdone | ⟨-, hdone⟩
  · rw [hdone]
    exact ⟨h.write rfl rfl (fun stage hmem => ⟨stage, hmem, rfl⟩) (held_idle _), rfl⟩
  · rw [hdone]
    refine ⟨h.write rfl rfl ?_ (held_idle _), rfl⟩
    intro stage hmem
    obtain ⟨old, hold, rfl⟩ := List.mem_map.mp hmem
    exact ⟨old, hold, RecorderStage.starts_drain old⟩

theorem Quiet.writeFailed {id : Nat} (h : s.Quiet id) :
    s.writeFailed.Quiet id ∧ s.writeFailed.db = s.db :=
  Quiet.taskDone (h.write rfl rfl (fun stage hmem => ⟨stage, hmem, rfl⟩) (List.Subset.refl _))

theorem samplesOf_insertSample_of_ne {db : RecordingTables} {sample : RecordingSample} {id : Nat}
    (hne : sample.recordingId ≠ id) : (db.insertSample sample).samplesOf id = db.samplesOf id := by
  simp [RecordingTables.samplesOf, RecordingTables.insertSample, hne]

theorem Quiet.work {id : Nat} (h : s.Quiet id) (succeeds : Bool) :
    (s.work succeeds).Quiet id ∧ (s.work succeeds).db.samplesOf id = s.db.samplesOf id := by
  have hsame : ∀ stage ∈ s.calls, ∃ old ∈ s.calls, stage.starts = old.starts :=
    fun stage hmem => ⟨stage, hmem, rfl⟩
  have hfailed : s.writeFailed.Quiet id ∧ s.writeFailed.db.samplesOf id = s.db.samplesOf id := by
    obtain ⟨hquiet, hdb⟩ := h.writeFailed
    exact ⟨hquiet, by rw [hdb]⟩
  unfold Recordings.work
  split
  · rename_i hstage
    split
    · exact ⟨h, rfl⟩
    · rename_i sample queue hqueue
      refine ⟨h.write rfl rfl hsame ?_, rfl⟩
      intro other hmem
      rw [BackgroundWriter.held, hstage, hqueue]
      exact hmem
  · rename_i sample hstage
    have hmem : sample ∈ s.writer.held := by
      rw [BackgroundWriter.held, hstage]
      exact List.mem_cons_self
    split
    · refine ⟨h.write rfl rfl hsame ?_, samplesOf_insertSample_of_ne (h.held sample hmem)⟩
      intro other hother
      rw [BackgroundWriter.held, hstage]
      exact hother
    · exact hfailed
  · rename_i sample hstage
    split
    · refine ⟨h.write rfl rfl hsame ?_, rfl⟩
      intro other hother
      rw [BackgroundWriter.held, hstage]
      exact hother
    · exact hfailed
  · split
    · obtain ⟨hquiet, hdb⟩ := h.taskDone
      exact ⟨hquiet, by rw [hdb]⟩
    · exact hfailed

/-- `offer` gives the writer no sample but one of the active recording. -/
theorem offer_cases (s : Recordings) (kind ts data : String) (now : ℚ) :
    (∃ recorder, recorder.active = s.recorder.active ∧
      ∃ writer : BackgroundWriter, writer.held = s.writer.held ∧ writer.stage = s.writer.stage ∧
        s.offer kind ts data now = { s with recorder := recorder, writer := writer }) ∨
    ∃ recorder row, recorder.active = s.recorder.active ∧ s.recorder.active = some row ∧
      s.offer kind ts data now = { s with
        recorder := recorder
        writer := { s.writer with queue := s.writer.queue ++ [⟨row.id, ts, kind, data⟩] } } := by
  unfold offer
  dsimp only
  split
  · exact Or.inl ⟨s.recorder, rfl, s.writer, rfl, rfl, rfl⟩
  · rename_i row hactive
    split
    · exact Or.inl ⟨s.recorder, rfl, s.writer, rfl, rfl, rfl⟩
    · split
      · exact Or.inl ⟨s.recorder, rfl, s.writer, rfl, rfl, rfl⟩
      · split
        · refine Or.inl ⟨_, ?_, s.writer, rfl, rfl, rfl⟩
          rfl
        · unfold BackgroundWriter.submit
          split
          · refine Or.inr ⟨_, row, ?_, hactive, rfl⟩
            rfl
          · refine Or.inl ⟨_, ?_, _, ?_, ?_, rfl⟩
            · rfl
            · rfl
            · rfl

theorem held_concat (writer : BackgroundWriter) (sample : RecordingSample) :
    { writer with queue := writer.queue ++ [sample] }.held = writer.held ++ [sample] :=
  (List.append_assoc _ _ _).symm

theorem Quiet.offer {id : Nat} (h : s.Quiet id) (kind ts data : String) (now : ℚ) :
    (s.offer kind ts data now).Quiet id ∧
      (s.offer kind ts data now).db.samplesOf id = s.db.samplesOf id := by
  rcases s.offer_cases kind ts data now with
    ⟨recorder, hrecorder, writer, hheld, -, hoffer⟩ | ⟨recorder, row, hrecorder, hactive, hoffer⟩
  · rw [hoffer]
    exact ⟨h.write rfl hrecorder (fun stage hmem => ⟨stage, hmem, rfl⟩)
      (hheld ▸ List.Subset.refl _), rfl⟩
  · rw [hoffer]
    refine ⟨⟨h.bound, ⟨?_, h.released.starts⟩, ?_⟩, rfl⟩
    · rw [hrecorder]
      exact h.released.active
    · intro sample hmem
      rw [held_concat] at hmem
      rcases List.mem_append.mp hmem with hold | hnew
      · exact h.held sample hold
      · rw [List.mem_singleton.mp hnew]
        exact h.released.active row hactive

/-- **Step lemma.**  The rows of a recording that are final stay as they are. -/
theorem Quiet.step {id : Nat} (h : s.Quiet id) (event : RecordingEvent) :
    (recordings.step s event).1.Quiet id ∧
      (recordings.step s event).1.db.samplesOf id = s.db.samplesOf id := by
  cases event with
  | start robotId name channels =>
    change (s.start robotId name channels).Quiet id ∧
      (s.start robotId name channels).db.samplesOf id = _
    unfold Recordings.start
    split
    · exact ⟨h.begin rfl (fun _ hrow => hrow), rfl⟩
    · exact ⟨h.begin rfl (fun _ hrow => hrow), rfl⟩
  | stop =>
    change s.stop.Quiet id ∧ s.stop.db.samplesOf id = _
    unfold Recordings.stop
    split
    · exact ⟨h.begin rfl (fun _ hrow => hrow), rfl⟩
    · exact ⟨h.begin rfl (fun _ hrow => absurd hrow (Option.some_ne_none _).symm), rfl⟩
  | recover => exact ⟨h.begin rfl (fun _ hrow => hrow), rfl⟩
  | resume call =>
    cases hcall : s.calls[call]? with
    | none =>
      rw [step_resume_of_none hcall]
      exact ⟨h, rfl⟩
    | some stage =>
      rw [step_resume hcall]
      exact h.resume hcall
  | offer kind ts data now => exact h.offer kind ts data now
  | work succeeds => exact h.work succeeds

theorem Quiet.run {id : Nat} (h : s.Quiet id) (events : List RecordingEvent) :
    (recordings.run s events).db.samplesOf id = s.db.samplesOf id := by
  have hrun := recordings.invariant
    (fun t => t.Quiet id ∧ t.db.samplesOf id = s.db.samplesOf id) ?_ ⟨h, rfl⟩
    (recordings.along_true s events)
  · exact hrun.2
  · intro t event _ hquiet
    obtain ⟨hnext, hrows⟩ := hquiet.1.step event
    exact ⟨hnext, hrows.trans hquiet.2⟩

/-! ### Counts -/

/-- Every recording since `base` has one count for each of its rows, but for the one that the
    worker is about to count; whoever can still make a recording the active one is alone with
    it, and no stop has it in hand. -/
structure Counted (base : Nat) (s : Recordings) : Prop where
  low : base ≤ s.db.lastId
  ids : ∀ id ∈ s.db.ids, id ≤ s.db.lastId
  samples : ∀ sample ∈ s.db.samples, sample.recordingId ≤ s.db.lastId
  held : ∀ sample ∈ s.writer.held, sample.recordingId ≤ s.db.lastId
  active : ∀ row, s.recorder.active = some row → base < row.id ∧ row.id ≤ s.db.lastId
  starts : ∀ stage ∈ s.calls, ∀ id, stage.starts = some id →
    base < id ∧ id ≤ s.db.lastId ∧ ∀ row, s.recorder.active = some row → row.id ≠ id
  distinct : ∀ id first second, StageAt (fun stage => stage.starts = some id) s.calls first →
    StageAt (fun stage => stage.starts = some id) s.calls second → first = second
  stops : ∀ stage ∈ s.calls, ∀ id, stage.stops = some id →
    base < id ∧ id ≤ s.db.lastId ∧ s.Released id
  flushed : ∀ stage ∈ s.calls, ∀ id, stage.flushed = some id →
    ∀ sample ∈ s.writer.held, sample.recordingId ≠ id
  counted : ∀ row ∈ s.db.recordings, base < row.id →
    row.sampleCount + s.writer.owed row.id = (s.db.samplesOf row.id).length
  reported : ∀ row, .stopping (some row) ∈ s.calls →
    row.sampleCount = (s.db.samplesOf row.id).length

/-- Once the writer has finished for a stop, the rows of its recording are final. -/
theorem Counted.quiet (h : Counted base s) {stage : RecorderStage} (hmem : stage ∈ s.calls)
    {id : Nat} (hflushed : stage.flushed = some id) : s.Quiet id := by
  obtain ⟨-, hbound, hreleased⟩ := h.stops stage hmem id (RecorderStage.stops_of_flushed hflushed)
  exact ⟨hbound, hreleased, h.flushed stage hmem id hflushed⟩

/-- A call is begun; a stop takes the active recording in hand. -/
theorem Counted.begin (h : Counted base s) {stage : RecorderStage} {recorder : Recorder}
    (hactive : ∀ row, recorder.active = some row → s.recorder.active = some row)
    (hstarts : stage.starts = none)
    (hstops : ∀ id, stage.stops = some id → base < id ∧ id ≤ s.db.lastId ∧
      (∀ row, recorder.active = some row → row.id ≠ id) ∧
      ∀ stage ∈ s.calls, stage.starts ≠ some id)
    (hflushed : ∀ id, stage.flushed = some id → s.writer.held = [])
    (hreported : ∀ row, stage ≠ .stopping (some row)) :
    Counted base ({ s with recorder := recorder }.begin stage) where
  low := h.low
  ids := h.ids
  samples := h.samples
  held := h.held
  active row hrow := h.active row (hactive row hrow)
  starts other hmem id hid := by
    rcases List.mem_append.mp hmem with hold | hnew
    · obtain ⟨hbase, hbound, hother⟩ := h.starts other hold id hid
      exact ⟨hbase, hbound, fun row hrow => hother row (hactive row hrow)⟩
    · rw [List.mem_singleton.mp hnew, hstarts] at hid
      cases hid
  distinct id first second hfirst hsecond := by
    have hnew : ¬stage.starts = some id := by
      rw [hstarts]
      exact (Option.some_ne_none id).symm
    exact h.distinct id first second (hfirst.of_concat hnew) (hsecond.of_concat hnew)
  stops other hmem id hid := by
    have hnew : ∀ other ∈ s.calls ++ [stage], (∀ old ∈ s.calls, old.starts ≠ some id) →
        other.starts ≠ some id := by
      intro other hother hcalls
      rcases List.mem_append.mp hother with hold | hlast
      · exact hcalls other hold
      · rw [List.mem_singleton.mp hlast, hstarts]
        exact (Option.some_ne_none id).symm
    rcases List.mem_append.mp hmem with hold | hlast
    · obtain ⟨hbase, hbound, hreleased⟩ := h.stops other hold id hid
      exact ⟨hbase, hbound, fun row hrow => hreleased.active row (hactive row hrow),
        fun other hother => hnew other hother hreleased.starts⟩
    · rw [List.mem_singleton.mp hlast] at hid
      obtain ⟨hbase, hbound, hrows, hcalls⟩ := hstops id hid
      exact ⟨hbase, hbound, hrows, fun other hother => hnew other hother hcalls⟩
  flushed other hmem id hid := by
    rcases List.mem_append.mp hmem with hold | hlast
    · exact h.flushed other hold id hid
    · rw [List.mem_singleton.mp hlast] at hid
      intro sample hsample
      change sample ∈ s.writer.held at hsample
      rw [hflushed id hid] at hsample
      cases hsample
  counted := h.counted
  reported row hmem := by
    rcases List.mem_append.mp hmem with hold | hlast
    · exact h.reported row hold
    · exact absurd (List.mem_singleton.mp hlast).symm (hreported row)

/-- **Call lemma.**  A call goes on with what it has in hand; the tables at most lose an open
    recording. -/
theorem Counted.proceed (h : Counted base s) {call : Nat} {old new : RecorderStage}
    {db : RecordingTables} (hcall : s.calls[call]? = some old)
    (hstarts : ∀ id, new.starts = some id → old.starts = some id)
    (hstops : ∀ id, new.stops = some id → old.stops = some id)
    (hflushed : ∀ id, new.flushed = some id → old.flushed = some id)
    (hreported : ∀ row, new = .stopping (some row) →
      row.sampleCount = (s.db.samplesOf row.id).length)
    (hids : db.ids = s.db.ids) (hsamples : db.samples = s.db.samples)
    (hlast : db.lastId = s.db.lastId)
    (hcounts : ∀ row ∈ db.recordings, ∃ before ∈ s.db.recordings,
      before.id = row.id ∧ before.sampleCount = row.sampleCount) :
    Counted base ({ s with db := db }.proceed call new) := by
  have hold : old ∈ s.calls := List.mem_of_getElem? hcall
  have hrows : ∀ id, db.samplesOf id = s.db.samplesOf id := by
    intro id
    rw [RecordingTables.samplesOf, hsamples]
    rfl
  have hreleased : ∀ id, s.Released id → ({ s with db := db }.proceed call new).Released id := by
    intro id hid
    refine ⟨hid.active, ?_⟩
    intro stage hmem
    rcases List.mem_or_eq_of_mem_set hmem with hstage | hnew
    · exact hid.starts stage hstage
    · rw [hnew]
      intro hstart
      exact hid.starts old hold (hstarts id hstart)
  refine ⟨hlast ▸ h.low, ?_, ?_, ?_, ?_, ?_, ?_, ?_, ?_, ?_, ?_⟩
  · change ∀ id ∈ db.ids, id ≤ db.lastId
    rw [hids, hlast]
    exact h.ids
  · change ∀ sample ∈ db.samples, sample.recordingId ≤ db.lastId
    rw [hsamples, hlast]
    exact h.samples
  · change ∀ sample ∈ s.writer.held, sample.recordingId ≤ db.lastId
    rw [hlast]
    exact h.held
  · change ∀ row, s.recorder.active = some row → base < row.id ∧ row.id ≤ db.lastId
    rw [hlast]
    exact h.active
  · intro stage hmem id hid
    change base < id ∧ id ≤ db.lastId ∧ _
    rw [hlast]
    rcases List.mem_or_eq_of_mem_set hmem with hstage | hnew
    · exact h.starts stage hstage id hid
    · rw [hnew] at hid
      exact h.starts old hold id (hstarts id hid)
  · intro id first second hfirst hsecond
    have hbefore : ∀ other, StageAt (fun stage => stage.starts = some id) (s.calls.set call new)
        other → StageAt (fun stage => stage.starts = some id) s.calls other := by
      intro other hother
      rcases hother.of_set with ⟨rfl, hnew⟩ | hstage
      · exact ⟨old, hcall, hstarts id hnew⟩
      · exact hstage
    exact h.distinct id first second (hbefore first hfirst) (hbefore second hsecond)
  · intro stage hmem id hid
    have hstop : base < id ∧ id ≤ s.db.lastId ∧ s.Released id := by
      rcases List.mem_or_eq_of_mem_set hmem with hstage | hnew
      · exact h.stops stage hstage id hid
      · rw [hnew] at hid
        exact h.stops old hold id (hstops id hid)
    change base < id ∧ id ≤ db.lastId ∧ _
    rw [hlast]
    exact ⟨hstop.1, hstop.2.1, hreleased id hstop.2.2⟩
  · intro stage hmem id hid
    rcases List.mem_or_eq_of_mem_set hmem with hstage | hnew
    · exact h.flushed stage hstage id hid
    · rw [hnew] at hid
      exact h.flushed old hold id (hflushed id hid)
  · intro row hrow hbase
    obtain ⟨before, hbefore, hid, hcount⟩ := hcounts row hrow
    have hcounted := h.counted before hbefore (hid ▸ hbase)
    rw [hid, hcount] at hcounted
    exact hcounted.trans (congrArg List.length (hrows row.id).symm)
  · intro row hmem
    change row.sampleCount = (db.samplesOf row.id).length
    rw [hrows]
    rcases List.mem_or_eq_of_mem_set hmem with hstage | hnew
    · exact h.reported row hstage
    · exact hreported row hnew.symm

theorem samplesOf_eq_nil {db : RecordingTables} {id : Nat}
    (h : ∀ sample ∈ db.samples, sample.recordingId ≠ id) : db.samplesOf id = [] := by
  rw [RecordingTables.samplesOf, List.filter_eq_nil_iff]
  intro sample hmem
  simpa using h sample hmem

/-- A new recording has a new id, and no samples. -/
theorem Counted.insert (h : Counted base s) (call : Nat) (robotId name : String)
    (wanted : List String) :
    Counted base ({ s with db := s.db.insertRecording robotId name wanted }.proceed call
      (.fetching (s.db.lastId + 1) wanted)) := by
  have hlow := h.low
  have hstarts : ∀ stage ∈ s.calls, stage.starts ≠ some (s.db.lastId + 1) := by
    intro stage hmem hid
    have hbound := (h.starts stage hmem _ hid).2.1
    omega
  refine ⟨hlow.trans (Nat.le_succ _), ?_, ?_, ?_, ?_, ?_, ?_, ?_, ?_, ?_, ?_⟩
  · intro id hmem
    change id ∈ (s.db.insertRecording robotId name wanted).ids at hmem
    change id ≤ s.db.lastId + 1
    rw [RecordingTables.ids_insertRecording] at hmem
    rcases List.mem_append.mp hmem with hold | hnew
    · have hbound := h.ids id hold
      omega
    · rw [List.mem_singleton.mp hnew]
  · intro sample hmem
    exact (h.samples sample hmem).trans (Nat.le_succ _)
  · intro sample hmem
    exact (h.held sample hmem).trans (Nat.le_succ _)
  · intro row hrow
    obtain ⟨hbase, hbound⟩ := h.active row hrow
    exact ⟨hbase, hbound.trans (Nat.le_succ _)⟩
  · intro stage hmem id hid
    rcases List.mem_or_eq_of_mem_set hmem with hstage | hnew
    · obtain ⟨hbase, hbound, hactive⟩ := h.starts stage hstage id hid
      exact ⟨hbase, hbound.trans (Nat.le_succ _), hactive⟩
    · rw [hnew] at hid
      cases hid
      refine ⟨by omega, le_rfl, ?_⟩
      intro row hrow
      have hbound := (h.active row hrow).2
      omega
  · intro id first second hfirst hsecond
    have hother : ∀ other, StageAt (fun stage => stage.starts = some id) s.calls other →
        ¬id = s.db.lastId + 1 := by
      rintro other ⟨stage, hstage, hid⟩ rfl
      exact hstarts stage (List.mem_of_getElem? hstage) hid
    rcases StageAt.of_set hfirst with ⟨hcall₁, hnew₁⟩ | hbefore₁
    · rcases StageAt.of_set hsecond with ⟨hcall₂, -⟩ | hbefore₂
      · exact hcall₁.trans hcall₂.symm
      · exact absurd (Option.some.inj hnew₁).symm (hother second hbefore₂)
    · rcases StageAt.of_set hsecond with ⟨-, hnew₂⟩ | hbefore₂
      · exact absurd (Option.some.inj hnew₂).symm (hother first hbefore₁)
      · exact h.distinct id first second hbefore₁ hbefore₂
  · intro stage hmem id hid
    rcases List.mem_or_eq_of_mem_set hmem with hstage | hnew
    · obtain ⟨hbase, hbound, hreleased⟩ := h.stops stage hstage id hid
      refine ⟨hbase, hbound.trans (Nat.le_succ _), hreleased.active, ?_⟩
      intro other hother
      rcases List.mem_or_eq_of_mem_set hother with hstage | hnew
      · exact hreleased.starts other hstage
      · rw [hnew]
        intro hsome
        have heq : s.db.lastId + 1 = id := Option.some.inj hsome
        omega
    · rw [hnew] at hid
      cases hid
  · intro stage hmem id hid
    rcases List.mem_or_eq_of_mem_set hmem with hstage | hnew
    · exact h.flushed stage hstage id hid
    · rw [hnew] at hid
      cases hid
  · intro row hmem hbase
    rcases List.mem_append.mp hmem with hold | hnew
    · exact h.counted row hold hbase
    · rw [List.mem_singleton.mp hnew]
      have hrows : s.db.samplesOf (s.db.lastId + 1) = [] := by
        apply samplesOf_eq_nil
        intro sample hsample
        have hbound := h.samples sample hsample
        omega
      have howed : s.writer.owed (s.db.lastId + 1) = 0 := by
        apply BackgroundWriter.owed_eq_zero
        intro sample hsample
        have hbound := h.held sample hsample
        omega
      change 0 + s.writer.owed (s.db.lastId + 1) = (s.db.samplesOf (s.db.lastId + 1)).length
      rw [hrows, howed]
      rfl
  · intro row hmem
    rcases List.mem_or_eq_of_mem_set hmem with hstage | hnew
    · exact h.reported row hstage
    · cases hnew

/-- A start makes its recording the active one. -/
theorem Counted.activate (h : Counted base s) {call : Nat} {row : Recording}
    {wanted : List String} (hcall : s.calls[call]? = some (.starting (some row) wanted)) :
    Counted base ((s.activate row wanted).proceed call .returned) := by
  obtain ⟨hbase, hbound, -⟩ := h.starts _ (List.mem_of_getElem? hcall) row.id rfl
  -- No other start has the recording in hand.
  have hother : ∀ stage ∈ s.calls.set call .returned, ∀ id, stage.starts = some id →
      stage ∈ s.calls ∧ row.id ≠ id := by
    intro stage hmem id hid
    obtain ⟨i, hi⟩ := List.getElem?_of_mem hmem
    by_cases hself : i = call
    · subst hself
      rw [List.getElem?_set_self (List.getElem?_eq_some_iff.mp hcall).1] at hi
      cases hi
      cases hid
    · rw [List.getElem?_set_ne (Ne.symm hself)] at hi
      refine ⟨List.mem_of_getElem? hi, ?_⟩
      rintro rfl
      exact hself (h.distinct row.id i call ⟨stage, hi, hid⟩ ⟨_, hcall, rfl⟩)
  refine ⟨h.low, h.ids, h.samples, h.held, ?_, ?_, ?_, ?_, ?_, h.counted, ?_⟩
  · intro other hactive
    cases hactive
    exact ⟨hbase, hbound⟩
  · intro stage hmem id hid
    obtain ⟨hold, hne⟩ := hother stage hmem id hid
    refine ⟨(h.starts stage hold id hid).1, (h.starts stage hold id hid).2.1, ?_⟩
    intro other hactive
    cases hactive
    exact hne
  · intro id first second hfirst hsecond
    have hbefore : ∀ other, StageAt (fun stage => stage.starts = some id)
        (s.calls.set call .returned) other →
          StageAt (fun stage => stage.starts = some id) s.calls other := by
      intro other hat
      rcases hat.of_set with ⟨-, hnew⟩ | hstage
      · cases hnew
      · exact hstage
    exact h.distinct id first second (hbefore first hfirst) (hbefore second hsecond)
  · intro stage hmem id hid
    rcases List.mem_or_eq_of_mem_set hmem with hstage | hnew
    · obtain ⟨hlow, hhigh, hreleased⟩ := h.stops stage hstage id hid
      refine ⟨hlow, hhigh, ?_, ?_⟩
      · intro other hactive hid
        cases hactive
        exact hreleased.starts _ (List.mem_of_getElem? hcall) (congrArg some hid)
      · intro other hmem hstart
        exact hreleased.starts other (hother other hmem id hstart).1 hstart
    · rw [hnew] at hid
      cases hid
  · intro stage hmem id hid
    rcases List.mem_or_eq_of_mem_set hmem with hstage | hnew
    · exact h.flushed stage hstage id hid
    · rw [hnew] at hid
      cases hid
  · intro other hmem
    rcases List.mem_or_eq_of_mem_set hmem with hstage | hnew
    · exact h.reported other hstage
    · cases hnew

/-- A step of the worker that touches no table. -/
theorem Counted.write (h : Counted base s) {writer : BackgroundWriter}
    {calls : List RecorderStage} (hheld : writer.held ⊆ s.writer.held)
    (howed : ∀ id, writer.owed id = s.writer.owed id)
    (hcalls : calls = s.calls ∨ calls = s.calls.map RecorderStage.drain ∧ writer.held = []) :
    Counted base { s with writer := writer, calls := calls } := by
  have hat : ∀ id call, StageAt (fun stage => stage.starts = some id) calls call →
      StageAt (fun stage => stage.starts = some id) s.calls call := by
    rintro id call ⟨stage, hstage, hid⟩
    rcases hcalls with rfl | ⟨rfl, -⟩
    · exact ⟨stage, hstage, hid⟩
    · rw [List.getElem?_map, Option.map_eq_some_iff] at hstage
      obtain ⟨old, hold, rfl⟩ := hstage
      exact ⟨old, hold, by rwa [RecorderStage.starts_drain] at hid⟩
  have hfrom : ∀ stage ∈ calls, ∃ old ∈ s.calls, stage.starts = old.starts ∧
      stage.stops = old.stops ∧ (stage = old ∨ writer.held = []) ∧
      ∀ row, stage = .stopping row → old = .stopping row := by
    intro stage hmem
    rcases hcalls with rfl | ⟨rfl, hnone⟩
    · exact ⟨stage, hmem, rfl, rfl, Or.inl rfl, fun _ heq => heq⟩
    · obtain ⟨old, hold, rfl⟩ := List.mem_map.mp hmem
      refine ⟨old, hold, RecorderStage.starts_drain old, RecorderStage.stops_drain old,
        Or.inr hnone, ?_⟩
      intro row heq
      cases old <;> first | exact heq | cases heq
  have hreleased : ∀ id, s.Released id →
      Released { s with writer := writer, calls := calls } id := by
    intro id hid
    refine ⟨hid.active, ?_⟩
    intro stage hmem
    obtain ⟨old, hold, hstarts, -⟩ := hfrom stage hmem
    rw [hstarts]
    exact hid.starts old hold
  refine ⟨h.low, h.ids, h.samples, fun sample hmem => h.held sample (hheld hmem), h.active,
    ?_, ?_, ?_, ?_, ?_, ?_⟩
  · intro stage hmem id hid
    obtain ⟨old, hold, hstarts, -⟩ := hfrom stage hmem
    exact h.starts old hold id (hstarts ▸ hid)
  · intro id first second hfirst hsecond
    exact h.distinct id first second (hat id first hfirst) (hat id second hsecond)
  · intro stage hmem id hid
    obtain ⟨old, hold, -, hstops, -⟩ := hfrom stage hmem
    obtain ⟨hbase, hbound, hid⟩ := h.stops old hold id (hstops ▸ hid)
    exact ⟨hbase, hbound, hreleased id hid⟩
  · intro stage hmem id hid sample hsample
    obtain ⟨old, hold, -, -, heq | hnone, -⟩ := hfrom stage hmem
    · exact h.flushed old hold id (heq ▸ hid) sample (hheld hsample)
    · change sample ∈ writer.held at hsample
      rw [hnone] at hsample
      cases hsample
  · intro row hmem hbase
    change row.sampleCount + writer.owed row.id = _
    rw [howed]
    exact h.counted row hmem hbase
  · intro row hmem
    obtain ⟨old, hold, -, -, -, hstopping⟩ := hfrom _ hmem
    rw [hstopping (some row) rfl] at hold
    exact h.reported row hold

theorem owed_of_stage {writer : BackgroundWriter} (h : ∀ sample, writer.stage ≠ .counting sample)
    (id : Nat) : writer.owed id = 0 := by
  unfold BackgroundWriter.owed
  split
  · rename_i sample hstage
    exact absurd hstage (h sample)
  · rfl

/-- A write is done that owes nothing. -/
theorem Counted.taskDone (h : Counted base s) (howed : ∀ id, s.writer.owed id = 0) :
    Counted base s.taskDone := by
  have hidle : ∀ id, { s.writer with stage := .idle }.owed id = s.writer.owed id := by
    intro id
    rw [howed]
    rfl
  rcases s.taskDone_cases with hdone | ⟨hfinished, hdone⟩
  · rw [hdone]
    exact h.write (held_idle _) hidle (Or.inl rfl)
  · rw [hdone]
    exact h.write (held_idle _) hidle
      (Or.inr ⟨rfl, BackgroundWriter.held_eq_nil hfinished⟩)

theorem Counted.writeFailed (h : Counted base s) (howed : ∀ id, s.writer.owed id = 0) :
    Counted base s.writeFailed :=
  Counted.taskDone (h.write (List.Subset.refl _) (fun _ => rfl) (Or.inl rfl)) howed

/-- The worker inserts a sample, and owes its recording a count. -/
theorem Counted.insertSample (h : Counted base s) {sample : RecordingSample}
    (hstage : s.writer.stage = .inserting sample) :
    Counted base { s with
      db := s.db.insertSample sample
      writer := { s.writer with stage := .counting sample } } := by
  have hheld : { s.writer with stage := .counting sample }.held = s.writer.held := by
    rw [BackgroundWriter.held, BackgroundWriter.held, hstage]
    rfl
  have hmem : sample ∈ s.writer.held := by
    rw [BackgroundWriter.held, hstage]
    exact List.mem_cons_self
  refine ⟨h.low, h.ids, ?_, hheld ▸ h.held, h.active, h.starts, h.distinct, ?_, hheld ▸ h.flushed,
    ?_, ?_⟩
  · intro other hother
    rcases List.mem_append.mp hother with hold | hnew
    · exact h.samples other hold
    · rw [List.mem_singleton.mp hnew]
      exact h.held sample hmem
  · intro stage hstage id hid
    obtain ⟨hbase, hbound, hreleased⟩ := h.stops stage hstage id hid
    exact ⟨hbase, hbound, hreleased.active, hreleased.starts⟩
  · intro row hrow hbase
    have hcounted := h.counted row hrow hbase
    rw [owed_of_stage (by simp [hstage])] at hcounted
    change row.sampleCount + { s.writer with stage := .counting sample }.owed row.id =
      ((s.db.insertSample sample).samplesOf row.id).length
    by_cases hid : sample.recordingId = row.id
    · simp only [BackgroundWriter.owed, if_pos hid, RecordingTables.samplesOf,
        RecordingTables.insertSample, List.filter_append, List.length_append]
      rw [RecordingTables.samplesOf] at hcounted
      simp [hid, ← hcounted]
    · rw [samplesOf_insertSample_of_ne hid, ← hcounted]
      simp [BackgroundWriter.owed, hid]
  · intro row hrow
    have hne := h.flushed _ hrow row.id rfl sample hmem
    change row.sampleCount = ((s.db.insertSample sample).samplesOf row.id).length
    rw [samplesOf_insertSample_of_ne hne]
    exact h.reported row hrow

/-- The worker counts the sample it has inserted. -/
theorem Counted.countSample (h : Counted base s) {sample : RecordingSample}
    (hstage : s.writer.stage = .counting sample) :
    Counted base { s with
      db := s.db.countSample sample.recordingId
      writer := { s.writer with stage := .committing sample } } := by
  have hheld : { s.writer with stage := .committing sample }.held = s.writer.held := by
    rw [BackgroundWriter.held, BackgroundWriter.held, hstage]
    rfl
  refine ⟨h.low, ?_, h.samples, hheld ▸ h.held, h.active, h.starts, h.distinct, ?_,
    hheld ▸ h.flushed, ?_, h.reported⟩
  · change ∀ id ∈ (s.db.countSample sample.recordingId).ids, _
    rw [RecordingTables.ids_countSample]
    exact h.ids
  · intro stage hstage id hid
    obtain ⟨hbase, hbound, hreleased⟩ := h.stops stage hstage id hid
    exact ⟨hbase, hbound, hreleased.active, hreleased.starts⟩
  · intro row hrow hbase
    obtain ⟨before, hbefore, rfl⟩ := List.mem_map.mp hrow
    change _ = (s.db.samplesOf _).length
    rw [owed_of_stage (by simp)]
    by_cases hid : before.id = sample.recordingId
    · rw [if_pos hid] at hbase ⊢
      have hcounted := h.counted before hbefore hbase
      rw [BackgroundWriter.owed, hstage] at hcounted
      simpa [hid] using hcounted
    · rw [if_neg hid] at hbase ⊢
      have hcounted := h.counted before hbefore hbase
      rw [BackgroundWriter.owed, hstage] at hcounted
      simpa [Ne.symm hid] using hcounted

/-- The statement that counts an inserted sample fails. -/
def miscounts (s : Recordings) : RecordingEvent → Bool
  | .work false =>
    match s.writer.stage with
    | .counting _ => true
    | _ => false
  | _ => false

theorem Counted.work (h : Counted base s) {succeeds : Bool}
    (hguard : s.miscounts (.work succeeds) = false) : Counted base (s.work succeeds) := by
  unfold Recordings.work
  split
  · rename_i hstage
    split
    · exact h
    · rename_i sample queue hqueue
      apply h.write
      · intro other hmem
        rw [BackgroundWriter.held, hstage, hqueue]
        exact hmem
      · intro id
        have hidle : s.writer.owed id = 0 := owed_of_stage (by simp [hstage]) id
        rw [hidle]
        exact owed_of_stage (by simp) id
      · exact Or.inl rfl
  · rename_i sample hstage
    split
    · exact h.insertSample hstage
    · exact h.writeFailed (owed_of_stage (by simp [hstage]))
  · rename_i sample hstage
    split
    · exact h.countSample hstage
    · rename_i hfails
      rw [Bool.not_eq_true] at hfails
      rw [miscounts.eq_def, hfails, hstage] at hguard
      cases hguard
  · rename_i sample hstage
    split
    · exact h.taskDone (owed_of_stage (by simp [hstage]))
    · exact h.writeFailed (owed_of_stage (by simp [hstage]))

theorem Counted.offer (h : Counted base s) (kind ts data : String) (now : ℚ) :
    Counted base (s.offer kind ts data now) := by
  have hkeep : ∀ (writer : BackgroundWriter) (recorder : Recorder),
      recorder.active = s.recorder.active → writer.stage = s.writer.stage →
      (∀ sample ∈ writer.held, sample ∈ s.writer.held ∨
        ∃ row, s.recorder.active = some row ∧ sample.recordingId = row.id) →
      Counted base { s with recorder := recorder, writer := writer } := by
    intro writer recorder hactive hstage hheld
    refine ⟨h.low, h.ids, h.samples, ?_, hactive ▸ h.active, hactive ▸ h.starts, h.distinct, ?_,
      ?_, ?_, h.reported⟩
    · intro sample hmem
      rcases hheld sample hmem with hold | ⟨row, hrow, hid⟩
      · exact h.held sample hold
      · rw [hid]
        exact (h.active row hrow).2
    · intro stage hmem id hid
      obtain ⟨hbase, hbound, hreleased⟩ := h.stops stage hmem id hid
      exact ⟨hbase, hbound, hactive ▸ hreleased.active, hreleased.starts⟩
    · intro stage hmem id hid sample hsample
      rcases hheld sample hsample with hold | ⟨row, hrow, hrecording⟩
      · exact h.flushed stage hmem id hid sample hold
      · -- A stop has cleared the active recording that it has in hand.
        rw [hrecording]
        exact (h.stops stage hmem id (RecorderStage.stops_of_flushed hid)).2.2.active row hrow
    · intro row hmem hbase
      change row.sampleCount + writer.owed row.id = _
      have howed : writer.owed row.id = s.writer.owed row.id := by
        rw [BackgroundWriter.owed, BackgroundWriter.owed, hstage]
      rw [howed]
      exact h.counted row hmem hbase
  rcases s.offer_cases kind ts data now with
    ⟨recorder, hactive, writer, hheld, hstage, hoffer⟩ | ⟨recorder, row, hactive, hrow, hoffer⟩
  · rw [hoffer]
    exact hkeep writer recorder hactive hstage (fun sample hmem => Or.inl (hheld ▸ hmem))
  · rw [hoffer]
    refine hkeep _ recorder hactive ?_ ?_
    · rfl
    intro sample hmem
    rw [held_concat] at hmem
    rcases List.mem_append.mp hmem with hold | hnew
    · exact Or.inl hold
    · rw [List.mem_singleton.mp hnew]
      exact Or.inr ⟨row, hrow, rfl⟩

/-- A call goes on, and no table is written. -/
theorem Counted.advance (h : Counted base s) {call : Nat} {old new : RecorderStage}
    (hcall : s.calls[call]? = some old)
    (hstarts : ∀ id, new.starts = some id → old.starts = some id)
    (hstops : ∀ id, new.stops = some id → old.stops = some id)
    (hflushed : ∀ id, new.flushed = some id → old.flushed = some id)
    (hreported : ∀ row, new = .stopping (some row) →
      row.sampleCount = (s.db.samplesOf row.id).length) :
    Counted base (s.proceed call new) :=
  h.proceed hcall hstarts hstops hflushed hreported rfl rfl rfl
    (fun row hmem => ⟨row, hmem, rfl, rfl⟩)

/-- A call goes on to a stage with nothing in hand. -/
theorem Counted.release (h : Counted base s) {call : Nat} {old new : RecorderStage}
    (hcall : s.calls[call]? = some old) (hstarts : new.starts = none)
    (hstops : new.stops = none) (hflushed : new.flushed = none) :
    Counted base (s.proceed call new) := by
  apply h.advance hcall
  · intro id hid
    rw [hstarts] at hid
    cases hid
  · intro id hid
    rw [hstops] at hid
    cases hid
  · intro id hid
    rw [hflushed] at hid
    cases hid
  · rintro row rfl
    cases hstops

theorem stopRecording_counts (db : RecordingTables) (id : Nat) :
    ∀ row ∈ (db.stopRecording id).recordings, ∃ before ∈ db.recordings,
      before.id = row.id ∧ before.sampleCount = row.sampleCount := by
  intro row hmem
  obtain ⟨before, hbefore, rfl⟩ := List.mem_map.mp hmem
  refine ⟨before, hbefore, ?_⟩
  split
  · exact ⟨rfl, rfl⟩
  · exact ⟨rfl, rfl⟩

theorem Counted.resume (h : Counted base s) {call : Nat} {stage : RecorderStage}
    (hcall : s.calls[call]? = some stage) : Counted base (s.resume call stage).1 := by
  have hmem := List.mem_of_getElem? hcall
  cases stage with
  | selecting robotId name wanted =>
    rw [Recordings.resume]
    split
    · exact h.release hcall rfl rfl rfl
    · exact h.release hcall rfl rfl rfl
  | inserting robotId name wanted => exact h.insert call robotId name wanted
  | fetching id wanted =>
    cases hrow : s.db.getRecording id with
    | none =>
      rw [Recordings.resume, hrow]
      exact h.release hcall rfl rfl rfl
    | some row =>
      rw [Recordings.resume, hrow]
      refine h.advance hcall ?_ (fun _ hid => hid) (fun _ hid => hid) (fun _ heq => ?_)
      · intro other hid
        rw [← hid]
        exact congrArg some (RecordingTables.id_of_getRecording hrow).symm
      · cases heq
  | starting row wanted =>
    cases row with
    | none => exact h.release hcall rfl rfl rfl
    | some row => exact h.activate hcall
  | flushing id drained =>
    cases drained with
    | true =>
      refine h.advance hcall (fun _ hid => hid) (fun _ hid => hid) (fun _ hid => hid) ?_
      intro row heq
      cases heq
    | false => exact h
  | closing id =>
    refine h.proceed hcall (fun _ hid => hid) (fun _ hid => hid) (fun _ hid => hid) ?_
      (RecordingTables.ids_stopRecording id) rfl rfl (stopRecording_counts s.db id)
    intro row heq
    cases heq
  | reading id =>
    cases hrow : s.db.getRecording id with
    | none =>
      rw [Recordings.resume, hrow]
      exact h.release hcall rfl rfl rfl
    | some row =>
      rw [Recordings.resume, hrow]
      have hid := RecordingTables.id_of_getRecording hrow
      have hkept : ∀ other, some row.id = some other → some id = some other := by
        intro other hother
        rwa [hid] at hother
      refine h.advance hcall (fun _ hid => hid) hkept hkept ?_
      intro other heq
      cases heq
      -- The writer owes the recording nothing any more.
      have hcounted := h.counted row (List.mem_of_find?_eq_some hrow)
        (hid ▸ (h.stops _ hmem id rfl).1)
      rw [hid, BackgroundWriter.owed_eq_zero (h.flushed _ hmem id rfl)] at hcounted
      rw [hid]
      exact hcounted
  | stopping row => exact h.release hcall rfl rfl rfl
  | listing => exact h.release hcall rfl rfl rfl
  | recovering ids =>
    cases ids with
    | nil => exact h.release hcall rfl rfl rfl
    | cons id ids =>
      refine h.proceed hcall (fun _ hid => hid) (fun _ hid => hid) (fun _ hid => hid) ?_
        (RecordingTables.ids_stopRecording id) rfl rfl (stopRecording_counts s.db id)
      intro row heq
      cases heq
  | returned => exact h

/-- **Step lemma.** -/
theorem Counted.step (h : Counted base s) {event : RecordingEvent}
    (hguard : s.miscounts event = false) : Counted base (recordings.step s event).1 := by
  have hidle : ∀ stage : RecorderStage, stage.starts = none → stage.stops = none →
      stage.flushed = none → Counted base (s.begin stage) := by
    intro stage hstarts hstops hflushed
    apply h.begin (fun _ hrow => hrow) hstarts
    · intro id hid
      rw [hstops] at hid
      cases hid
    · intro id hid
      rw [hflushed] at hid
      cases hid
    · rintro row rfl
      cases hstops
  cases event with
  | start robotId name channels =>
    change Counted base (s.start robotId name channels)
    unfold Recordings.start
    split
    · exact hidle _ rfl rfl rfl
    · exact hidle _ rfl rfl rfl
  | stop =>
    change Counted base s.stop
    unfold Recordings.stop
    split
    · exact hidle _ rfl rfl rfl
    · rename_i row hactive
      obtain ⟨hbase, hbound⟩ := h.active row hactive
      apply h.begin
      · intro other hother
        cases hother
      · rfl
      · intro id hid
        cases hid
        refine ⟨hbase, hbound, fun other hother => absurd hother (Option.some_ne_none _).symm, ?_⟩
        intro stage hmem hstart
        exact (h.starts stage hmem row.id hstart).2.2 row hactive rfl
      · intro id hid
        cases hfinished : s.writer.finished with
        | true => exact BackgroundWriter.held_eq_nil hfinished
        | false =>
          rw [hfinished] at hid
          cases hid
      · intro other heq
        cases heq
  | recover => exact hidle _ rfl rfl rfl
  | resume call =>
    cases hcall : s.calls[call]? with
    | none =>
      rw [step_resume_of_none hcall]
      exact h
    | some stage =>
      rw [step_resume hcall]
      exact h.resume hcall
  | offer kind ts data now => exact h.offer kind ts data now
  | work succeeds => exact h.work hguard

/-- No recording and no sample has an id above `lastId`. -/
structure Bounded (db : RecordingTables) : Prop where
  ids : ∀ id ∈ db.ids, id ≤ db.lastId
  samples : ∀ sample ∈ db.samples, sample.recordingId ≤ db.lastId

theorem counted_startup {db : RecordingTables} (h : Bounded db) :
    Counted db.lastId (startup db) := by
  have hcalls : ∀ stage ∈ (startup db).calls, stage = .listing :=
    fun stage hmem => List.mem_singleton.mp hmem
  refine ⟨le_rfl, h.ids, h.samples, ?_, ?_, ?_, ?_, ?_, ?_, ?_, ?_⟩
  · intro sample hmem
    cases hmem
  · intro row hrow
    cases hrow
  · intro stage hmem id hid
    rw [hcalls stage hmem] at hid
    cases hid
  · rintro id first second ⟨stage, hstage, hid⟩ -
    rw [hcalls stage (List.mem_of_getElem? hstage)] at hid
    cases hid
  · intro stage hmem id hid
    rw [hcalls stage hmem] at hid
    cases hid
  · intro stage hmem id hid
    rw [hcalls stage hmem] at hid
    cases hid
  · intro row hmem hbase
    exact absurd (h.ids row.id (List.mem_map_of_mem hmem)) (Nat.not_le.mpr hbase)
  · intro row hmem
    cases hcalls _ hmem

/-- A stop returns the row that it has read. -/
theorem stopping_of_stopped {event : RecordingEvent} {row : Recording}
    (h : .stopped row ∈ (recordings.step s event).2) : .stopping (some row) ∈ s.calls := by
  cases event with
  | resume call =>
    cases hcall : s.calls[call]? with
    | none =>
      rw [step_resume_of_none hcall] at h
      cases h
    | some stage =>
      rw [step_resume hcall] at h
      unfold Recordings.resume at h
      split at h
      · split at h <;> cases h
      · cases h
      · cases h
      · cases h
      · cases h
      · split at h <;> cases h
      · cases h
      · cases h
      · rename_i found
        cases found with
        | none => cases h
        | some other =>
          cases List.mem_singleton.mp h
          exact List.mem_of_getElem? hcall
      · cases h
      · cases h
      · cases h
      · cases h
  | _ => cases h

/-- Every stop of the run reports a count that is the number of rows at that moment, and no row
    is inserted for the recording from then on. -/
def Complete (s : Recordings) (events : List RecordingEvent) : Prop :=
  ∀ before event later rest row, events = before ++ event :: (later ++ rest) →
    .stopped row ∈ (recordings.step (recordings.run s before) event).2 →
      let returned := (recordings.step (recordings.run s before) event).1
      row.sampleCount = (returned.db.samplesOf row.id).length ∧
        (recordings.run returned later).db.samplesOf row.id = returned.db.samplesOf row.id

/-- In a run in which no statement fails that counts an inserted sample, what a stop reports
    is complete. -/
theorem complete_of_counted {db : RecordingTables} (h : Bounded db)
    {events : List RecordingEvent}
    (halong : recordings.Along (fun s event => s.miscounts event = false) (startup db) events) :
    Complete (startup db) events := by
  rintro before event later rest row rfl hstopped
  have hcounted : Counted db.lastId (recordings.run (startup db) before) :=
    recordings.invariant (Counted db.lastId) (fun _ _ hguard hcounted => hcounted.step hguard)
      (counted_startup h) (recordings.along_append.mp halong).1
  have hmem := stopping_of_stopped hstopped
  have hquiet : (recordings.run (startup db) before).Quiet row.id := hcounted.quiet hmem rfl
  obtain ⟨hreturned, hrows⟩ := hquiet.step event
  dsimp only
  refine ⟨?_, hreturned.run later⟩
  rw [hrows]
  exact hcounted.reported row hmem

/-- A start, a sample and a stop; the first statement of the write and the second succeed or
    fail as told. -/
def recordedSample (inserts counts : Bool) : List RecordingEvent :=
  [.resume 0, .resume 0, .start "robot" "run" none, .resume 1, .resume 1, .resume 1, .resume 1,
    .offer "event" "t" "x" 0, .work true, .work inserts, .work counts, .work true, .stop,
    .resume 2, .resume 2, .resume 2, .resume 2]

theorem complete_of_recordedSample :
    Complete (startup {}) (recordedSample true true) :=
  complete_of_counted
    ⟨fun _ hmem => absurd hmem List.not_mem_nil, fun _ hmem => absurd hmem List.not_mem_nil⟩
    ⟨rfl, rfl, rfl, rfl, rfl, rfl, rfl, rfl, rfl, rfl, rfl, rfl, rfl, rfl, rfl, rfl, rfl, trivial⟩

/-- The sample is inserted and its count is not. -/
theorem not_complete_of_miscount :
    ¬∀ (db : RecordingTables) (events : List RecordingEvent), Bounded db →
      Complete (startup db) events := by
  intro h
  have hcomplete := h {} (recordedSample true false)
    ⟨fun _ hmem => absurd hmem List.not_mem_nil, fun _ hmem => absurd hmem List.not_mem_nil⟩
    ((recordedSample true false).take 16) (.resume 2) [] []
    ⟨1, "robot", "run", ["pose", "battery", "event"], .done, 0⟩ rfl (by decide)
  exact absurd hcomplete.1 (by decide)

end Recordings

end PatrolBot
