import Mathlib.Data.List.Induction
import PatrolBot.ExportTables

/-!
# The ceiling of an export

`add` measures the tables after every 5000th sample that it writes, and `finalize` does
not: what was written since the last measurement is not held against the ceiling.
-/

namespace PatrolBot.Export

variable (render : Rendering)

/-- The builder after all these samples, with no check of its size; `none` if a sample
    makes its writer raise. -/
def Builder.putAll (fresh : Builder) (samples : List Sample) : Option Builder :=
  samples.foldlM (Builder.put render) fresh

/-- The number of samples that are written. -/
def Builder.written (fresh : Builder) (samples : List Sample) : Nat :=
  (samples.filter (fresh.readable render)).length

/-- An export is finalized within its ceiling, and refused where its tables would be
    larger. -/
def KeepsCeiling (fresh : Builder) (samples : List Sample) (outcome : Outcome) : Prop :=
  (∀ builder, outcome = .archive builder → totalBytes builder.tables ≤ fresh.maxBytes) ∧
  ∀ full, fresh.putAll render samples = some full → fresh.maxBytes < totalBytes full.tables →
    outcome = .tooLarge fresh.maxBytes

/-- The tables of the first samples are measured, 5000 written ones or a multiple of it,
    and are too large. -/
def Caught (fresh : Builder) (before : List Sample) : Prop :=
  0 < fresh.written render before ∧ sizeCheckEvery ∣ fresh.written render before ∧
    ∃ part, fresh.putAll render before = some part ∧ fresh.maxBytes < totalBytes part.tables

/-- The tables are within the ceiling in the end, or too large at a measurement before. -/
def Measured (fresh : Builder) (samples : List Sample) : Prop :=
  ∀ full, fresh.putAll render samples = some full →
    totalBytes full.tables ≤ fresh.maxBytes ∨ ∃ before, before <+: samples ∧
      Caught render fresh before

variable {render} {fresh builder builder' : Builder} {samples : List Sample} {sample : Sample}

/-! ### The count of a builder -/

theorem Builder.put_fields (h : builder.put render sample = some builder') :
    builder'.selected = builder.selected ∧ builder'.maxBytes = builder.maxBytes ∧
      builder'.rowsSinceCheck = builder.rowsSinceCheck := by
  unfold put at h
  split at h
  · obtain rfl := Option.some.inj h
    exact ⟨rfl, rfl, rfl⟩
  · split at h
    · obtain rfl := Option.some.inj h
      exact ⟨rfl, rfl, rfl⟩
    · obtain ⟨rows, -, rfl⟩ := Option.map_eq_some_iff.mp h
      exact ⟨rfl, rfl, rfl⟩

theorem Builder.put_tables (hreadable : builder.readable render sample = false)
    (h : builder.put render sample = some builder') : builder'.tables = builder.tables := by
  obtain ⟨after, hput, -, htables, -⟩ := add_of_not_readable hreadable
  obtain rfl := Option.some.inj (hput.symm.trans h)
  exact htables

/-- The count of the builder has no part in what is written. -/
theorem Builder.put_recount (builder : Builder) (sample : Sample) (rowsSinceCheck : Nat) :
    ({ builder with rowsSinceCheck := rowsSinceCheck } : Builder).put render sample =
      (builder.put render sample).map fun after =>
        { after with rowsSinceCheck := rowsSinceCheck } := by
  unfold put
  dsimp only
  split
  · rfl
  · cases sample.fields render with
    | none => rfl
    | some data =>
      dsimp only
      rw [Option.map_map]
      rfl

theorem Builder.readable_congr (h : builder.selected = fresh.selected) (sample : Sample) :
    builder.readable render sample = fresh.readable render sample := by
  unfold readable
  rw [h]

theorem Builder.putAll_concat (fresh : Builder) (samples : List Sample) (sample : Sample) :
    fresh.putAll render (samples ++ [sample]) =
      (fresh.putAll render samples).bind fun builder => builder.put render sample := by
  unfold putAll
  rw [List.foldlM_append]
  cases samples.foldlM (put render) fresh with
  | none => rfl
  | some builder => simp

theorem Builder.putAll_fields {full : Builder} (h : fresh.putAll render samples = some full) :
    full.selected = fresh.selected ∧ full.maxBytes = fresh.maxBytes ∧
      full.rowsSinceCheck = fresh.rowsSinceCheck := by
  induction samples using List.reverseRecOn generalizing full with
  | nil =>
    obtain rfl := Option.some.inj h
    exact ⟨rfl, rfl, rfl⟩
  | append_singleton samples sample ih =>
    rw [putAll_concat] at h
    obtain ⟨before, hbefore, hput⟩ := Option.bind_eq_some_iff.mp h
    obtain ⟨hselected, hmax, hcount⟩ := ih hbefore
    obtain ⟨hselected', hmax', hcount'⟩ := put_fields hput
    exact ⟨hselected'.trans hselected, hmax'.trans hmax, hcount'.trans hcount⟩

theorem Builder.written_concat (fresh : Builder) (samples : List Sample) (sample : Sample) :
    fresh.written render (samples ++ [sample]) =
      fresh.written render samples + if fresh.readable render sample then 1 else 0 := by
  unfold written
  rw [List.filter_append, List.length_append]
  cases hreadable : fresh.readable render sample with
  | true => simp [hreadable]
  | false => simp [hreadable]

/-! ### The loop -/

/-- What the loop over the samples comes to. -/
def Ends (render : Rendering) (fresh : Builder) (samples : List Sample) :
    Except ExportError Builder → Prop
  | .ok builder => ∃ full, fresh.putAll render samples = some full ∧
      builder = { full with rowsSinceCheck := fresh.written render samples % sizeCheckEvery } ∧
      ∀ before, before <+: samples → ¬ Caught render fresh before
  | .error (.tooLarge _ limit) => limit = fresh.maxBytes ∧
      ∃ before, before <+: samples ∧ Caught render fresh before
  | .error .raised => fresh.putAll render samples = none

theorem not_caught_concat (hnone : ∀ before, before <+: samples → ¬ Caught render fresh before)
    (hlast : ¬ Caught render fresh (samples ++ [sample])) :
    ∀ before, before <+: samples ++ [sample] → ¬ Caught render fresh before := by
  intro before hbefore
  rcases List.prefix_concat_iff.mp hbefore with rfl | hbefore
  · exact hlast
  · exact hnone before hbefore

/-- A sample that is not written is not measured either. -/
theorem ends_unreadable {full : Builder} (hfull : fresh.putAll render samples = some full)
    (hnone : ∀ before, before <+: samples → ¬ Caught render fresh before)
    (hreadable : fresh.readable render sample = false) :
    Ends render fresh (samples ++ [sample])
      (Builder.add render
        { full with rowsSinceCheck := fresh.written render samples % sizeCheckEvery } sample) := by
  have hselected := (Builder.putAll_fields hfull).1
  have hfullReadable : full.readable render sample = false :=
    (Builder.readable_congr hselected sample).trans hreadable
  obtain ⟨after, hput, hadd, -, -⟩ := Builder.add_of_not_readable hfullReadable
  have hwritten : fresh.written render (samples ++ [sample]) = fresh.written render samples := by
    rw [Builder.written_concat, hreadable]
    rfl
  obtain ⟨after', hput', hadd', -, -⟩ := @Builder.add_of_not_readable render
    { full with rowsSinceCheck := fresh.written render samples % sizeCheckEvery } sample
    hfullReadable
  rw [Builder.put_recount, hput, Option.map_some] at hput'
  obtain rfl := Option.some.inj hput'
  have hputAll : fresh.putAll render (samples ++ [sample]) = some after := by
    rw [Builder.putAll_concat, hfull, Option.bind_some, hput]
  rw [hadd']
  refine ⟨after, hputAll, ?_, ?_⟩
  · rw [hwritten]
  · apply not_caught_concat hnone
    rintro ⟨hpos, hmultiple, part, hpart, hlarge⟩
    rw [hwritten] at hpos hmultiple
    rw [hputAll] at hpart
    obtain rfl := Option.some.inj hpart
    rw [Builder.put_tables hfullReadable hput] at hlarge
    exact hnone samples (List.prefix_refl _) ⟨hpos, hmultiple, full, hfull, hlarge⟩

/-- A sample that is written is measured if it is the 5000th since the last time. -/
theorem ends_readable {full : Builder} (hfull : fresh.putAll render samples = some full)
    (hnone : ∀ before, before <+: samples → ¬ Caught render fresh before)
    (hreadable : fresh.readable render sample = true) :
    Ends render fresh (samples ++ [sample])
      (Builder.add render
        { full with rowsSinceCheck := fresh.written render samples % sizeCheckEvery } sample) := by
  obtain ⟨hselected, hmax, -⟩ := Builder.putAll_fields hfull
  have hwritten : fresh.written render (samples ++ [sample]) =
      fresh.written render samples + 1 := by
    rw [Builder.written_concat, hreadable]
    rfl
  have hfullReadable : full.readable render sample = true :=
    (Builder.readable_congr hselected sample).trans hreadable
  have hadd := @Builder.add_of_readable render
    { full with rowsSinceCheck := fresh.written render samples % sizeCheckEvery } sample
    hfullReadable
  rw [hadd, Builder.put_recount]
  have hputAll : fresh.putAll render (samples ++ [sample]) = full.put render sample := by
    rw [Builder.putAll_concat, hfull, Option.bind_some]
  cases hput : full.put render sample with
  | none => exact hputAll.trans hput
  | some after =>
    rw [hput] at hputAll
    have hlimit : after.maxBytes = fresh.maxBytes := (Builder.put_fields hput).2.1.trans hmax
    simp only [Option.map_some, Builder.measure, hlimit]
    split
    · rename_i hcheck
      have hmultiple : sizeCheckEvery ∣ fresh.written render samples + 1 := by
        unfold sizeCheckEvery at hcheck ⊢
        omega
      split
      · rename_i hlarge
        refine ⟨rfl, samples ++ [sample], List.prefix_refl _, ?_⟩
        rw [Caught, hwritten]
        exact ⟨Nat.succ_pos _, hmultiple, after, hputAll, hlarge⟩
      · rename_i hsmall
        refine ⟨after, hputAll, ?_, ?_⟩
        · rw [hwritten, Nat.mod_eq_zero_of_dvd hmultiple, hlimit]
        · apply not_caught_concat hnone
          rintro ⟨-, -, part, hpart, hlarge⟩
          rw [hputAll] at hpart
          obtain rfl := Option.some.inj hpart
          exact hsmall hlarge
    · rename_i hcheck
      have hnext : (fresh.written render samples + 1) % sizeCheckEvery =
          fresh.written render samples % sizeCheckEvery + 1 := by
        unfold sizeCheckEvery at hcheck ⊢
        omega
      refine ⟨after, hputAll, ?_, ?_⟩
      · rw [hwritten, hnext, hlimit]
      · apply not_caught_concat hnone
        rintro ⟨-, hmultiple, -⟩
        rw [hwritten] at hmultiple
        have hzero := Nat.mod_eq_zero_of_dvd hmultiple
        omega

theorem ends_add (hfresh : fresh.rowsSinceCheck = 0) (samples : List Sample) :
    Ends render fresh samples (samples.foldlM (Builder.add render) fresh) := by
  induction samples using List.reverseRecOn with
  | nil =>
    refine ⟨fresh, rfl, ?_, ?_⟩
    · obtain ⟨_, _, _, _, _, _, _⟩ := fresh
      subst hfresh
      rfl
    · intro before hbefore hcaught
      rw [List.prefix_nil.mp hbefore] at hcaught
      exact absurd hcaught.1 (Nat.lt_irrefl 0)
  | append_singleton samples sample ih =>
    rw [List.foldlM_append]
    cases hrun : samples.foldlM (Builder.add render) fresh with
    | error error =>
      rw [hrun] at ih
      cases error with
      | tooLarge written limit =>
        obtain ⟨hlimit, before, hbefore, hcaught⟩ := ih
        exact ⟨hlimit, before, hbefore.trans (List.prefix_append _ _), hcaught⟩
      | raised =>
        have hnone : fresh.putAll render samples = none := ih
        exact (Builder.putAll_concat fresh samples sample).trans (by rw [hnone]; rfl)
    | ok builder =>
      rw [hrun] at ih
      obtain ⟨full, hfull, rfl, hnone⟩ := ih
      have hlast : ((Except.ok
          { full with rowsSinceCheck := fresh.written render samples % sizeCheckEvery } :
            Except ExportError Builder) >>= fun builder =>
              [sample].foldlM (Builder.add render) builder) =
          Builder.add render
            { full with rowsSinceCheck := fresh.written render samples % sizeCheckEvery }
            sample := by
        simp
        rfl
      rw [hlast]
      cases hreadable : fresh.readable render sample with
      | false => exact ends_unreadable hfull hnone hreadable
      | true => exact ends_readable hfull hnone hreadable

/-! ### The endpoint -/

variable {maxBytes : Int} {row : Option RecordingRow} {present : List String}
  {firstTs channels : Option String} {read : List Sample}

/-- An export starts with a builder that has counted nothing. -/
theorem rowsSinceCheck_of_open
    (h : openExport render maxBytes row present firstTs samples channels = .ok (fresh, read)) :
    fresh.rowsSinceCheck = 0 := by
  unfold openExport at h
  split at h
  · cases h
  · dsimp only at h
    split at h
    · cases h
    · cases h
      rfl

/-- **The ceiling of an export.**  An export keeps its ceiling exactly if the samples
    after the last measurement do not take its tables over it. -/
theorem keepsCeiling_iff
    (h : openExport render maxBytes row present firstTs samples channels = .ok (fresh, read)) :
    KeepsCeiling render fresh read
        (exportRecordingZip render maxBytes row present firstTs samples channels) ↔
      Measured render fresh read := by
  have hends := @ends_add render fresh (rowsSinceCheck_of_open h) read
  have hexport : exportRecordingZip render maxBytes row present firstTs samples channels =
      runExport render fresh read := by
    rw [exportRecordingZip, h]
  rw [hexport, runExport]
  constructor
  · rintro ⟨hfinal, hrefused⟩ full hfull
    by_cases hlarge : fresh.maxBytes < totalBytes full.tables
    · right
      have houtcome := hrefused full hfull hlarge
      cases hrun : read.foldlM (Builder.add render) fresh with
      | ok builder =>
        rw [hrun] at houtcome
        cases houtcome
      | error error =>
        rw [hrun] at hends houtcome
        cases error with
        | tooLarge written limit => exact hends.2
        | raised => cases houtcome
    · exact Or.inl (Int.not_lt.mp hlarge)
  · intro hmeasured
    have hcaught : ∀ full, fresh.putAll render read = some full →
        fresh.maxBytes < totalBytes full.tables →
        ∃ before, before <+: read ∧ Caught render fresh before := by
      intro full hfull hlarge
      rcases hmeasured full hfull with hsmall | hbefore
      · exact absurd hsmall (Int.not_le.mpr hlarge)
      · exact hbefore
    constructor
    · intro builder houtcome
      cases hrun : read.foldlM (Builder.add render) fresh with
      | ok last =>
        rw [hrun] at hends houtcome
        cases houtcome
        obtain ⟨full, hfull, rfl, hnone⟩ := hends
        apply Int.not_lt.mp
        intro hlarge
        obtain ⟨before, hbefore, hover⟩ := hcaught full hfull hlarge
        exact hnone before hbefore hover
      | error error =>
        rw [hrun] at houtcome
        cases error <;> cases houtcome
    · intro full hfull hlarge
      cases hrun : read.foldlM (Builder.add render) fresh with
      | ok last =>
        rw [hrun] at hends
        obtain ⟨-, -, -, hnone⟩ := hends
        obtain ⟨before, hbefore, hover⟩ := hcaught full hfull hlarge
        exact absurd hover (hnone before hbefore)
      | error error =>
        rw [hrun] at hends
        cases error with
        | tooLarge written limit => exact congrArg Outcome.tooLarge hends.1
        | raised =>
          have hraised : fresh.putAll render read = none := hends
          rw [hraised] at hfull
          cases hfull

/-! ### One event -/

/-- A recording of one event. -/
def eventRecording : RecordingRow where
  id := 1
  robotId := "robot"
  name := "Docking"
  channels := ["event"]
  status := .done
  sampleCount := 1
  startedAt := "2026-07-28 12:27:00"
  endedAt := some "2026-07-28 12:28:00"

def eventText : String :=
  "\x7b\"id\":3,\"severity\":\"info\",\"title\":\"Docked\",\"message\":null\x7d"

def eventSample : Sample := ⟨"2026-07-28T12:27:05Z", "event", .str eventText⟩

/-- The texts of that recording. -/
def eventRendering : Rendering where
  loads := fun text => if text = eventText then some (.obj [("id", .int 3),
    ("severity", .str "info"), ("title", .str "Docked"), ("message", .null)]) else none
  repr := fun _ => ""
  rounded := fun _ _ => ""
  dumps := fun _ => ""
  fromisoformat := fun text =>
    if text = "2026-07-28T12:27:05+00:00" then some ⟨1785241625000000, "2026-07-28T12:27:05Z"⟩
    else if text = "2026-07-28T12:27:00" then some ⟨1785241620000000, "2026-07-28T12:27:00Z"⟩
    else none
  seconds := fun micros => if micros = 5000000 then "5.000" else "0.000"
  segment := fun _ _ _ _ => none

/-- The builder that the export of the event starts with. -/
def eventBuilder (maxBytes : Int) : Builder :=
  Builder.new eventRecording (selectChannels ["event"] ["event"] none)
    ((parseTs eventRendering eventSample.ts).or
      (parseTs eventRendering eventRecording.startedAt)) maxBytes

theorem open_event (maxBytes : Int) :
    openExport eventRendering maxBytes (some eventRecording) ["event"] (some eventSample.ts)
      [eventSample] none = .ok (eventBuilder maxBytes, [eventSample]) := rfl

theorem keepsCeiling_event :
    KeepsCeiling eventRendering (eventBuilder maxExportBytes) [eventSample]
      (exportRecordingZip eventRendering maxExportBytes (some eventRecording) ["event"]
        (some eventSample.ts) [eventSample] none) := by
  apply (keepsCeiling_iff (open_event maxExportBytes)).mpr
  have hsmall : (((eventBuilder maxExportBytes).putAll eventRendering [eventSample]).all
      fun full => decide (totalBytes full.tables ≤ maxExportBytes)) = true := by
    decide +kernel
  intro full hfull
  rw [hfull, Option.all_some] at hsmall
  exact Or.inl (of_decide_eq_true hsmall)

/-- The table of one event is larger than 100 bytes, and nothing measures it. -/
theorem not_keepsCeiling_event :
    ¬ KeepsCeiling eventRendering (eventBuilder 100) [eventSample]
      (exportRecordingZip eventRendering 100 (some eventRecording) ["event"]
        (some eventSample.ts) [eventSample] none) := by
  have hlarge : (match exportRecordingZip eventRendering 100 (some eventRecording) ["event"]
      (some eventSample.ts) [eventSample] none with
    | .archive builder => decide (100 < totalBytes builder.tables)
    | _ => false) = true := by
    decide +kernel
  rintro ⟨hfinal, -⟩
  split at hlarge
  · rename_i builder hexport
    have hceiling := hfinal builder hexport
    have hlimit : (eventBuilder 100).maxBytes = 100 := rfl
    have hover := of_decide_eq_true hlarge
    omega
  · cases hlarge

end PatrolBot.Export
