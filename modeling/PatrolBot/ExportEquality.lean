import Mathlib.Data.List.Dedup
import PatrolBot.ExportArchive
import PatrolBot.ExportCeiling
import PatrolBot.Library.Calendar
import PatrolBot.Library.Lockstep
import PatrolBot.RecordingPages

/-!
# Two ways to export a recording

The endpoint streams a recording: its time origin is the `MIN(ts)` of the database, its
channels are the distinct kinds of the samples, and the samples are read a page at a
time.  `build_zip` has the whole list of samples and parses every stamp for the origin.
`MIN(ts)` is the least text, which need not be the earliest instant.
-/

namespace PatrolBot.Export

open Lockstep (Matched minimum)

/-! ### The database -/

/-- `SAMPLE_PAGE`. -/
def samplePage : Nat := 2000

/-- Texts in the order of the database. -/
def textLess (left right : String) : Bool := Calendar.less left.toList right.toList

/-- `left < right` of two stamps. -/
def earlier (left right : Moment) : Bool := decide (left.micros < right.micros)

/-- The samples of a recording, in the order of their ids. -/
def recordingRows (recordingId : Nat) (table : List SampleRow) : List SampleRow :=
  SampleRow.selected recordingId none table

/-- `recording_sample_kinds`. -/
def recordingSampleKinds (recordingId : Nat) (table : List SampleRow) : List String :=
  ((recordingRows recordingId table).map fun row => row.kind).dedup.mergeSort
    fun left right => !textLess right left

/-- `first_sample_ts`. -/
def firstSampleTs (recordingId : Nat) (table : List SampleRow) : Option String :=
  minimum textLess ((recordingRows recordingId table).map fun row => row.ts)

/-- A row as `add` takes it. -/
def sampleOf (row : SampleRow) : Sample := ⟨row.ts, row.kind, .str row.data⟩

def samplesOf (recordingId : Nat) (table : List SampleRow) : List Sample :=
  (recordingRows recordingId table).map sampleOf

/-- What `iter_recording_samples` hands out until it returns, which it does after that
    many reads at the latest. -/
def pagedSamples (recordingId : Nat) (selected : List String) (table : List SampleRow) :
    List Sample :=
  (SampleRow.yielded recordingId (some selected) samplePage
    (List.replicate (table.length + 1) table)).map sampleOf

/-! ### The two exports -/

section

variable (render : Rendering)

/-- `export_recording_zip` of a recording that is there: the builder it opens, and what
    the loop over the pages makes of it. -/
def streamExport (maxBytes : Int) (row : RecordingRow) (table : List SampleRow)
    (channels : Option String) : Except Outcome (Builder × Except ExportError Builder) := do
  let opened ← openExport render maxBytes (some row) (recordingSampleKinds row.id table)
    (firstSampleTs row.id table) (samplesOf row.id table) channels
  pure (opened.1,
    (pagedSamples row.id opened.1.selected table).foldlM (Builder.add render) opened.1)

/-- The builder of `build_zip`. -/
def openZip (maxBytes : Int) (row : RecordingRow) (samples : List Sample)
    (channels : Option (List String)) : Builder :=
  let selected := selectChannels row.channels (samples.map Sample.kind) channels
  let stamps := samples.filterMap fun sample => parseTs render sample.ts
  let t0 := (minimum earlier stamps).or (parseTs render row.startedAt)
  Builder.new row selected t0 maxBytes

/-- `build_zip`. -/
def buildZip (maxBytes : Int) (row : RecordingRow) (samples : List Sample)
    (channels : Option (List String)) : Builder × Except ExportError Builder :=
  let builder := openZip render maxBytes row samples channels
  (builder, samples.foldlM (Builder.add render) builder)

end

/-- Two exports of the same tables, in whatever order, or that end in the same exception,
    and whose time origins are the same instant. -/
structure SameExport (streamed built : Builder × Except ExportError Builder) : Prop where
  tables : Matched (fun streamed built : Builder => streamed.tables.Perm built.tables)
    streamed.2 built.2
  origin : streamed.1.t0.map Moment.micros = built.1.t0.map Moment.micros

/-- The least of these texts denotes an instant that none of the others precedes. -/
def EarliestFirst (render : Rendering) (stamps : List String) : Prop :=
  ∀ first, minimum textLess stamps = some first → ∀ stamp ∈ stamps,
    ∀ origin, parseTs render first = some origin →
    ∀ moment, parseTs render stamp = some moment → origin.micros ≤ moment.micros

variable {render : Rendering} {maxBytes : Int} {row : RecordingRow} {table : List SampleRow}
  {channels : Option String} {samples : List Sample}

/-! ### Pages -/

theorem pagedSamples_eq (hids : SampleRow.IncreasingIds table) (hpos : ∀ row ∈ table, 1 ≤ row.id)
    (recordingId : Nat) (selected : List String) :
    pagedSamples recordingId selected table =
      (SampleRow.selected recordingId (some selected) table).map sampleOf := by
  have hreads : List.replicate (table.length + 1) table =
      (List.range (table.length + 1)).map fun _ => table := by
    rw [List.map_const', List.length_range]
  have hlong : (SampleRow.selected recordingId (some selected) table).length <
      table.length + 1 := Nat.lt_succ_of_le (List.length_filter_le _ table)
  obtain ⟨-, hyielded⟩ := SampleRow.walks recordingId (some selected) samplePage
    (List.replicate (table.length + 1) table)
    (fun table hmem => List.eq_of_mem_replicate hmem ▸ hids) {}
  have hpage : 1 ≤ samplePage := by decide
  obtain ⟨-, hall⟩ := Keyset.handed_still (hids.selected recordingId (some selected))
    (fun row hrow => hpos row (List.mem_of_mem_filter hrow)) hpage hlong
  rw [pagedSamples, SampleRow.yielded, hyielded, hreads, List.map_map]
  exact congrArg (List.map sampleOf) hall

/-- The query has the samples of the selected channels, or all of them if there is no
    such channel. -/
theorem selected_eq (recordingId : Nat) (selected : List String) :
    (SampleRow.selected recordingId (some selected) table).map sampleOf =
      (samplesOf recordingId table).filter fun sample =>
        selected.isEmpty || selected.contains sample.kind := by
  unfold samplesOf recordingRows SampleRow.selected
  rw [List.filter_map, List.filter_filter]
  apply congrArg (List.map sampleOf)
  apply List.filter_congr
  intro row _
  cases selected with
  | nil => simp [SampleRow.matching]
  | cons channel selected =>
    simp only [SampleRow.matching, Bool.and_true, List.isEmpty_cons, Bool.false_or]
    exact Bool.and_comm _ _

/-! ### Channels -/

theorem mem_recordingSampleKinds (recordingId : Nat) (kind : String) :
    kind ∈ recordingSampleKinds recordingId table ↔
      kind ∈ (samplesOf recordingId table).map Sample.kind := by
  rw [recordingSampleKinds, List.mem_mergeSort, List.mem_dedup, samplesOf, List.map_map]
  rfl

/-! ### Tables of a fresh builder -/

theorem mem_new {recording : RecordingRow} {selected : List String} {t0 : Option Moment}
    {entry : String × Table} :
    entry ∈ (Builder.new recording selected t0 maxBytes).tables ↔
      entry.1 ∈ selected.flatMap filesOf ∧ entry.2 = Table.new entry.1 := by
  unfold Builder.new
  constructor
  · suffices hkeys : ∀ (files : List String) (tables : List (String × Table)),
        entry ∈ files.foldl (fun tables filename =>
          Tuning.insertAt filename (Table.new filename) tables) tables →
        (entry.1 ∈ files ∧ entry.2 = Table.new entry.1) ∨ entry ∈ tables by
      intro hmem
      exact (hkeys _ [] hmem).resolve_right List.not_mem_nil
    intro files
    induction files with
    | nil => exact fun tables hmem => Or.inr hmem
    | cons filename files ih =>
      intro tables hmem
      rcases ih _ hmem with hlater | hnow
      · exact Or.inl ⟨List.mem_cons_of_mem filename hlater.1, hlater.2⟩
      · rcases Tuning.mem_insertAt hnow with rfl | hold
        · exact Or.inl ⟨List.mem_cons_self, rfl⟩
        · exact Or.inr hold
  · rintro ⟨hfile, htable⟩
    apply Tuning.mem_of_lookup
    rw [lookup_foldl_insertAt, if_pos hfile, htable]

theorem nodup_new (recording : RecordingRow) (selected : List String) (t0 : Option Moment)
    (maxBytes : Int) : (Builder.new recording selected t0 maxBytes).tables.Nodup := by
  unfold Builder.new
  suffices hkeys : ∀ (files : List String) (tables : List (String × Table)),
      (tables.map Prod.fst).Nodup →
      ((files.foldl (fun tables filename =>
        Tuning.insertAt filename (Table.new filename) tables) tables).map Prod.fst).Nodup by
    exact (hkeys _ [] List.nodup_nil).of_map Prod.fst
  intro files
  induction files with
  | nil => exact fun tables h => h
  | cons filename files ih => exact fun tables h => ih _ (Tuning.nodup_insertAt h)

/-! ### Builders in step -/

/-- Builders that write the same cells. -/
structure Builder.Alike (streamed built : Builder) : Prop where
  recording : streamed.recording = built.recording
  selected : ∀ kind, streamed.selected.contains kind = built.selected.contains kind
  origin : streamed.t0.map Moment.micros = built.t0.map Moment.micros
  maxBytes : streamed.maxBytes = built.maxBytes
  rowsSinceCheck : streamed.rowsSinceCheck = built.rowsSinceCheck
  indices : streamed.indices = built.indices
  tables : streamed.tables.Perm built.tables

namespace Builder.Alike

variable {streamed built : Builder}

/-- The elapsed time is a matter of instants. -/
theorem lead (h : streamed.Alike built) (sample : Sample) :
    streamed.lead render sample = built.lead render sample := by
  have helapsed : ∀ (t0 : Option Moment) (stamp : Moment),
      (t0.map fun t0 => render.seconds (stamp.micros - t0.micros)) =
        (t0.map Moment.micros).map fun origin => render.seconds (stamp.micros - origin) := by
    intro t0 stamp
    rw [Option.map_map]
    rfl
  unfold Builder.lead
  simp only [helapsed, h.recording, h.origin]

theorem totalBytes (h : streamed.Alike built) :
    Export.totalBytes streamed.tables = Export.totalBytes built.tables :=
  (h.tables.map fun entry : String × Table => entry.2.bytesWritten).sum_eq

theorem measure (h : streamed.Alike built) :
    Matched Builder.Alike streamed.measure built.measure := by
  unfold Builder.measure
  rw [h.rowsSinceCheck, h.totalBytes, h.maxBytes]
  split
  · dsimp only
    split
    · exact .error _
    · exact .ok ⟨h.recording, h.selected, h.origin, rfl, rfl, h.indices, h.tables⟩
  · exact .ok ⟨h.recording, h.selected, h.origin, rfl, rfl, h.indices, h.tables⟩

/-- The next sample of a channel is counted on both sides. -/
theorem count (h : streamed.Alike built) (kind : String) :
    Builder.Alike
      { streamed with
        indices := Function.update streamed.indices kind (streamed.indices kind + 1) }
      { built with indices := Function.update built.indices kind (built.indices kind + 1) } := by
  refine ⟨h.recording, h.selected, h.origin, h.maxBytes, h.rowsSinceCheck, ?_, h.tables⟩
  dsimp only
  rw [h.indices]

theorem addRows (h : streamed.Alike built) (lead : List String) (rows : Rows) :
    Builder.Alike { streamed with tables := Export.addRows lead rows streamed.tables }
      { built with tables := Export.addRows lead rows built.tables } :=
  ⟨h.recording, h.selected, h.origin, h.maxBytes, h.rowsSinceCheck, h.indices,
    h.tables.map _⟩

theorem add (h : streamed.Alike built) (sample : Sample) :
    Matched Builder.Alike (streamed.add render sample) (built.add render sample) := by
  unfold Builder.add
  rw [h.selected]
  split
  · exact .ok h
  · dsimp only
    rw [h.indices]
    have hcounted := h.count sample.kind
    rw [h.indices] at hcounted
    cases sample.fields render with
    | none => exact .ok hcounted
    | some data =>
      dsimp only
      cases write render sample.kind (built.indices sample.kind + 1) data with
      | none => exact .error _
      | some rows =>
        dsimp only
        rw [h.lead]
        exact (hcounted.addRows (built.lead render sample) rows).measure

/-- The tables are those of the selected channels. -/
theorem new (recording : RecordingRow) {selected selected' : List String}
    (hselected : ∀ kind, kind ∈ selected ↔ kind ∈ selected') {t0 t0' : Option Moment}
    (horigin : t0.map Moment.micros = t0'.map Moment.micros) (maxBytes : Int) :
    (Builder.new recording selected t0 maxBytes).Alike
      (Builder.new recording selected' t0' maxBytes) := by
  constructor
  · rfl
  · intro kind
    rw [Bool.eq_iff_iff, List.contains_iff_mem, List.contains_iff_mem]
    exact hselected kind
  · exact horigin
  · rfl
  · rfl
  · rfl
  · rw [List.perm_ext_iff_of_nodup (nodup_new ..) (nodup_new ..)]
    intro entry
    rw [mem_new, mem_new]
    simp only [List.mem_flatMap, hselected]

end Builder.Alike

/-! ### The loop over all samples -/

theorem add_selected {builder builder' : Builder} {sample : Sample}
    (h : builder.add render sample = .ok builder') : builder'.selected = builder.selected := by
  obtain ⟨after, rowsSinceCheck, hput, rfl⟩ := Builder.put_of_add h
  exact (Builder.put_fields hput).1

/-- Samples of other channels may as well be left out. -/
theorem foldlM_add_filter (builder : Builder) (samples : List Sample) :
    (samples.filter fun sample =>
        builder.selected.isEmpty || builder.selected.contains sample.kind).foldlM
          (Builder.add render) builder =
      samples.foldlM (Builder.add render) builder := by
  apply Lockstep.foldlM_filter fun state => state.selected = builder.selected
  · intro state sample hstate hkeep
    obtain ⟨-, hother⟩ := Bool.or_eq_false_iff.mp hkeep
    rw [Builder.add, hstate, if_pos hother]
  · intro state sample state' hstate hadd
    exact (add_selected hadd).trans hstate
  · rfl

/-! ### Origins -/

/-- A recording whose stamps all parse has the same origin on both sides exactly if the
    least text is the earliest instant. -/
theorem origin_iff {stamps : List String}
    (hparse : ∀ stamp ∈ stamps, (parseTs render stamp).isSome) (startedAt : Option Moment) :
    (((minimum textLess stamps).bind (parseTs render)).or startedAt).map Moment.micros =
        ((minimum earlier (stamps.filterMap (parseTs render))).or startedAt).map Moment.micros ↔
      EarliestFirst render stamps := by
  cases stamps with
  | nil =>
    constructor
    · intro _ first hfirst
      cases hfirst
    · intro _
      rfl
  | cons stamp stamps =>
    obtain ⟨first, hfirst⟩ : ∃ first, minimum textLess (stamp :: stamps) = some first :=
      Lockstep.minimum_isSome List.mem_cons_self
    have hmem : first ∈ stamp :: stamps := Lockstep.minimum_mem hfirst
    obtain ⟨origin, horigin⟩ := Option.isSome_iff_exists.mp (hparse first hmem)
    have hparsed : origin ∈ (stamp :: stamps).filterMap (parseTs render) :=
      List.mem_filterMap.mpr ⟨first, hmem, horigin⟩
    obtain ⟨least, hleast⟩ := @Lockstep.minimum_isSome _ earlier _ _ hparsed
    have hle : ∀ moment ∈ (stamp :: stamps).filterMap (parseTs render),
        least.micros ≤ moment.micros := Lockstep.minimum_le hleast
    rw [hfirst, hleast, Option.bind_some, horigin, Option.some_or, Option.some_or,
      Option.map_some, Option.map_some, Option.some_inj]
    constructor
    · intro heq first' hfirst' other hother origin' horigin' moment hmoment
      obtain rfl := Option.some.inj (hfirst.symm.trans hfirst')
      obtain rfl := Option.some.inj (horigin.symm.trans horigin')
      rw [heq]
      exact hle moment (List.mem_filterMap.mpr ⟨other, hother, hmoment⟩)
    · intro hearliest
      obtain ⟨other, hother, hparsedOther⟩ :=
        List.mem_filterMap.mp (Lockstep.minimum_mem hleast)
      exact le_antisymm (hearliest first hfirst other hother origin horigin least hparsedOther)
        (hle origin hparsed)

/-! ### The exports -/

/-- What a request that is not refused runs. -/
theorem streamed_eq {streamed : Builder × Except ExportError Builder}
    (hstream : streamExport render maxBytes row table channels = .ok streamed) :
    ∃ fresh, fresh = Builder.new row
        (selectChannels row.channels (recordingSampleKinds row.id table)
          (channels.map parseChannels))
        (((firstSampleTs row.id table).bind (parseTs render)).or (parseTs render row.startedAt))
        maxBytes ∧
      streamed = (fresh,
        (pagedSamples row.id fresh.selected table).foldlM (Builder.add render) fresh) := by
  unfold streamExport openExport at hstream
  dsimp only at hstream
  split at hstream
  · cases hstream
  · exact ⟨_, rfl, (Except.ok.inj hstream).symm⟩

/-- **Which exports are the same.**  The streamed export of a recording whose stamps all
    parse is the one that `build_zip` makes of all its samples exactly if the least of the
    stamps as texts denotes the earliest instant. -/
theorem sameExport_iff (hids : SampleRow.IncreasingIds table) (hpos : ∀ row ∈ table, 1 ≤ row.id)
    (hparse : ∀ sample ∈ samplesOf row.id table, (parseTs render sample.ts).isSome)
    {streamed : Builder × Except ExportError Builder}
    (hstream : streamExport render maxBytes row table channels = .ok streamed) :
    SameExport streamed
        (buildZip render maxBytes row (samplesOf row.id table) (channels.map parseChannels)) ↔
      EarliestFirst render ((samplesOf row.id table).map Sample.ts) := by
  obtain ⟨fresh, hfresh, rfl⟩ := streamed_eq hstream
  have hstamps : firstSampleTs row.id table =
      minimum textLess ((samplesOf row.id table).map Sample.ts) := by
    rw [firstSampleTs, samplesOf, List.map_map]
    rfl
  have hmoments : (samplesOf row.id table).filterMap (fun sample => parseTs render sample.ts) =
      ((samplesOf row.id table).map Sample.ts).filterMap (parseTs render) := by
    rw [List.filterMap_map]
    rfl
  have horigin := origin_iff (List.forall_mem_map.mpr hparse) (parseTs render row.startedAt)
  rw [← hstamps, ← hmoments] at horigin
  constructor
  · intro hsame
    apply horigin.mp
    have heq := hsame.origin
    rwa [hfresh] at heq
  · intro hearliest
    have hselected : ∀ kind, kind ∈ selectChannels row.channels
          (recordingSampleKinds row.id table) (channels.map parseChannels) ↔
        kind ∈ selectChannels row.channels ((samplesOf row.id table).map Sample.kind)
          (channels.map parseChannels) := by
      intro kind
      rw [mem_selectChannels, mem_selectChannels, mem_recordingSampleKinds]
    have halike : fresh.Alike (openZip render maxBytes row (samplesOf row.id table)
        (channels.map parseChannels)) := by
      rw [hfresh]
      exact Builder.Alike.new row hselected (horigin.mpr hearliest) maxBytes
    constructor
    · -- The pages hold what the loop over all samples does not pass over.
      dsimp only
      rw [pagedSamples_eq hids hpos, selected_eq, foldlM_add_filter]
      apply (Lockstep.foldlM_matched (fun _ _ sample h => h.add sample) halike _).imp
      intro streamed built h
      exact h.tables
    · exact halike.origin

/-! ### Stamps of two forms -/

/-- A pose that is stamped at midnight in whole seconds, and an event of half a second
    later in milliseconds: a full stop is less than a `Z`. -/
def midnightTable : List SampleRow :=
  [⟨⟨1, "2026-01-01T00:00:00Z", "pose", "\x7b\x7d"⟩, 1⟩,
    ⟨⟨1, "2026-01-01T00:00:00.500Z", "event", "\x7b\x7d"⟩, 2⟩]

def midnightRecording : RecordingRow where
  id := 1
  robotId := "robot"
  name := "Midnight"
  channels := ["pose", "event"]
  status := .done
  sampleCount := 2
  startedAt := "2026-01-01 00:00:00"
  endedAt := some "2026-01-01 00:00:01"

/-- The stamps of that recording; nothing else is printed of its samples. -/
def midnightRendering : Rendering where
  loads := fun text => if text = "\x7b\x7d" then some (.obj []) else none
  repr := fun _ => ""
  rounded := fun _ _ => ""
  dumps := fun _ => ""
  fromisoformat := fun text =>
    if text = "2026-01-01T00:00:00+00:00" ∨ text = "2026-01-01T00:00:00" then
      some ⟨1767225600000000, "2026-01-01T00:00:00Z"⟩
    else if text = "2026-01-01T00:00:00.500+00:00" then
      some ⟨1767225600500000, "2026-01-01T00:00:00.500000Z"⟩
    else none
  seconds := fun micros =>
    if micros = -500000 then "-0.500" else if micros = 500000 then "0.500" else "0.000"
  segment := fun _ _ _ _ => none

theorem midnight_ids : ∀ n, SampleRow.IncreasingIds (midnightTable.take n) ∧
    ∀ row ∈ midnightTable.take n, 1 ≤ row.id := by
  intro n
  have hids : SampleRow.IncreasingIds midnightTable ∧ ∀ row ∈ midnightTable, 1 ≤ row.id := by
    decide
  exact ⟨hids.1.sublist (List.take_sublist n midnightTable),
    fun row hrow => hids.2 row (List.mem_of_mem_take hrow)⟩

theorem midnight_stream (n : Nat) :
    ∃ streamed, streamExport midnightRendering maxExportBytes midnightRecording
      (midnightTable.take n) none = .ok streamed :=
  ⟨_, rfl⟩

theorem sameExport_pose :
    ∃ streamed, streamExport midnightRendering maxExportBytes midnightRecording
        (midnightTable.take 1) none = .ok streamed ∧
      SameExport streamed (buildZip midnightRendering maxExportBytes midnightRecording
        (samplesOf midnightRecording.id (midnightTable.take 1)) none) := by
  obtain ⟨streamed, hstream⟩ := midnight_stream 1
  have hparse : ∀ sample ∈ samplesOf midnightRecording.id (midnightTable.take 1),
      (parseTs midnightRendering sample.ts).isSome := by decide +kernel
  refine ⟨streamed, hstream,
    (sameExport_iff (midnight_ids 1).1 (midnight_ids 1).2 hparse hstream).mpr ?_⟩
  intro first hfirst stamp hstamp origin horigin moment hmoment
  obtain rfl := Option.some.inj hfirst
  obtain rfl := List.mem_singleton.mp hstamp
  rw [Option.some.inj (horigin.symm.trans hmoment)]

/-- The streamed export counts from the event, and the pose is half a second before its
    origin. -/
theorem not_sameExport_midnight :
    (∀ sample ∈ samplesOf midnightRecording.id (midnightTable.take 2),
        (parseTs midnightRendering sample.ts).isSome) ∧
    ∃ streamed, streamExport midnightRendering maxExportBytes midnightRecording
        (midnightTable.take 2) none = .ok streamed ∧
      ¬ SameExport streamed (buildZip midnightRendering maxExportBytes midnightRecording
        (samplesOf midnightRecording.id (midnightTable.take 2)) none) := by
  obtain ⟨streamed, hstream⟩ := midnight_stream 2
  refine ⟨by decide +kernel, streamed, hstream, ?_⟩
  intro hsame
  obtain ⟨fresh, rfl, rfl⟩ := streamed_eq hstream
  have horigins := hsame.origin
  revert horigins
  decide +kernel

end PatrolBot.Export
