import PatrolBot.RecordingExport

/-!
# Tables of an export

What the tables of a builder hold after the samples it was given: each sample of a
channel has the number of its place among the samples of that channel, readable or not,
and its rows stand behind those of the samples before it.
-/

namespace PatrolBot.Export

/-! ### Loops that may raise -/

section

variable {α β γ ε : Type}

/-- What a loop keeps of the elements it has been through. -/
theorem foldlM_invariant {f : β → α → Except ε β} (inv : List α → β → Prop) {start : β}
    (init : inv [] start)
    (step : ∀ done before item after, inv done before → f before item = .ok after →
      inv (done ++ [item]) after)
    {items : List α} {last : β} (h : items.foldlM f start = .ok last) : inv items last := by
  suffices key : ∀ done before, inv done before → items.foldlM f before = .ok last →
      inv (done ++ items) last by
    exact key [] start init h
  clear h
  induction items with
  | nil =>
    intro done before hinv h
    cases h
    rwa [List.append_nil]
  | cons item items ih =>
    intro done before hinv h
    rw [List.foldlM_cons] at h
    cases hstep : f before item with
    | error error =>
      rw [hstep] at h
      cases h
    | ok after =>
      rw [hstep] at h
      have hrest := ih (done ++ [item]) after (step done before item after hinv hstep) h
      rwa [List.append_assoc] at hrest

/-- What `mapM` keeps of each element. -/
theorem map_of_mapM {f : α → Option β} {g : β → γ} {g' : α → γ}
    (h : ∀ x y, f x = some y → g y = g' x) {xs : List α} {ys : List β}
    (hmap : xs.mapM f = some ys) : ys.map g = xs.map g' := by
  induction xs generalizing ys with
  | nil =>
    cases hmap
    rfl
  | cons x xs ih =>
    rw [List.mapM_cons] at hmap
    obtain ⟨y, hy, hmap⟩ := Option.bind_eq_some_iff.mp hmap
    obtain ⟨rest, hrest, hmap⟩ := Option.bind_eq_some_iff.mp hmap
    cases hmap
    rw [List.map_cons, List.map_cons, h x y hy, ih hrest]

end

/-! ### One table -/

/-- The rows under the header, as a reader of the file finds them. -/
def Table.dataRows (table : Table) : List (List String) :=
  ((Csv.read table.contents.toList).drop 1).map fun row => row.map String.ofList

/-- A table holds these rows. -/
structure Table.Holds (table : Table) (filename : String) (lines : List (List String)) :
    Prop where
  contents : table.contents.toList =
    (columns filename :: lines).flatMap fun line => Csv.writeRow (line.map String.toList)
  rows : table.rows = lines.length
  cells : ∀ line ∈ lines, line ≠ []

variable {table : Table} {filename : String} {lines : List (List String)}

theorem columns_ne_nil (filename : String) : columns filename ≠ [] := by
  simp [columns, leadColumns]

theorem Table.holds_new (filename : String) : (Table.new filename).Holds filename [] := by
  constructor
  · simp [Table.new, csvLine]
  · rfl
  · simp

theorem Table.Holds.write {lead : List String} (h : table.Holds filename lines)
    (hlead : lead ≠ []) (rest : List String) :
    (table.write lead rest).Holds filename (lines ++ [lead ++ rest]) := by
  constructor
  · rw [Table.write, String.toList_append, h.contents, csvLine, String.toList_ofList,
      ← List.cons_append, List.flatMap_append, List.flatMap_singleton]
  · rw [Table.write, h.rows, List.length_append, List.length_singleton]
  · intro line hline
    rcases List.mem_append.mp hline with hline | hline
    · exact h.cells line hline
    · rw [List.mem_singleton.mp hline]
      exact List.append_ne_nil_of_left_ne_nil hlead rest

/-- A reader of the file finds the header and the rows. -/
theorem Table.Holds.read (h : table.Holds filename lines) :
    Csv.read table.contents.toList =
      (columns filename :: lines).map fun line => line.map String.toList := by
  have hflat : table.contents.toList =
      ((columns filename :: lines).map fun line => line.map String.toList).flatMap
        Csv.writeRow := by
    rw [h.contents, List.flatMap_map]
  rw [hflat]
  apply Csv.read_flatMap_writeRow
  intro row hrow
  obtain ⟨line, hline, rfl⟩ := List.mem_map.mp hrow
  rw [Ne, List.map_eq_nil_iff]
  rcases List.mem_cons.mp hline with rfl | hline
  · exact columns_ne_nil filename
  · exact h.cells line hline

theorem Table.Holds.dataRows (h : table.Holds filename lines) : table.dataRows = lines := by
  have htexts : ∀ line : List String, (line.map String.toList).map String.ofList = line := by
    intro line
    rw [List.map_map]
    exact List.map_id'' (fun cell => String.ofList_toList) line
  rw [Table.dataRows, h.read, List.map_cons, List.drop_one, List.tail_cons, List.map_map]
  exact List.map_id'' htexts lines

/-! ### The tables of a writer -/

/-- The rows that go to a file. -/
def rowsIn (filename : String) (rows : Rows) : List (List String) :=
  rows.filterMap fun row => if row.1 = filename then some row.2 else none

theorem rowsIn_append (rows rows' : Rows) :
    rowsIn filename (rows ++ rows') = rowsIn filename rows ++ rowsIn filename rows' :=
  List.filterMap_append

theorem rowsIn_eq_nil {rows : Rows} (h : ∀ row ∈ rows, row.1 ≠ filename) :
    rowsIn filename rows = [] := by
  apply List.filterMap_eq_nil_iff.mpr
  intro row hrow
  exact if_neg (h row hrow)

theorem Table.Holds.add {lead : List String} (h : table.Holds filename lines) (hlead : lead ≠ [])
    (rows : Rows) :
    (rows.foldl (fun table row => if row.1 = filename then table.write lead row.2 else table)
        table).Holds filename
      (lines ++ rowsIn filename (rows.map fun row => (row.1, lead ++ row.2))) := by
  induction rows generalizing table lines with
  | nil => simpa [rowsIn] using h
  | cons row rows ih =>
    rw [List.foldl_cons]
    by_cases hrow : row.1 = filename
    · rw [if_pos hrow]
      have hrest := ih (h.write hlead row.2)
      simpa [rowsIn, hrow] using hrest
    · rw [if_neg hrow]
      have hrest := ih h
      simpa [rowsIn, hrow] using hrest

theorem lookup_addRows (lead : List String) (rows : Rows) (tables : List (String × Table)) :
    (addRows lead rows tables).lookup filename = (tables.lookup filename).map fun table =>
      rows.foldl (fun table row => if row.1 = filename then table.write lead row.2 else table)
        table := by
  induction tables with
  | nil => rfl
  | cons entry tables ih =>
    obtain ⟨name, table⟩ := entry
    by_cases hname : filename = name
    · subst hname
      simp [addRows]
    · have hbeq : (filename == name) = false := beq_eq_false_iff_ne.mpr hname
      simp only [addRows, List.map_cons, List.lookup_cons, hbeq] at ih ⊢
      exact ih

/-! ### Files of a channel -/

theorem file_mem {channel : String} (h : filename ∈ filesOf channel) :
    ∃ entry ∈ channelFiles, entry.1 = channel ∧ filename ∈ entry.2 := by
  unfold filesOf at h
  cases hfiles : channelFiles.lookup channel with
  | none =>
    rw [hfiles] at h
    cases h
  | some files =>
    rw [hfiles] at h
    exact ⟨_, Tuning.mem_of_lookup hfiles, rfl, h⟩

theorem channel_of_file {channel channel' : String} (h : filename ∈ filesOf channel)
    (h' : filename ∈ filesOf channel') : channel = channel' := by
  have hdisjoint : ∀ entry ∈ channelFiles, ∀ entry' ∈ channelFiles, ∀ file ∈ entry.2,
      file ∈ entry'.2 → entry.1 = entry'.1 := by decide
  obtain ⟨entry, hmem, rfl, hfile⟩ := file_mem h
  obtain ⟨entry', hmem', rfl, hfile'⟩ := file_mem h'
  exact hdisjoint _ hmem _ hmem' filename hfile hfile'

variable {render : Rendering}

/-- A writer writes to the files of its channel. -/
theorem file_of_write {kind : String} {index : Int} {data : List (String × Json)} {rows : Rows}
    (h : write render kind index data = some rows) : ∀ row ∈ rows, row.1 ∈ filesOf kind := by
  have hpose : "pose.csv" ∈ filesOf "pose" := by decide
  have hbattery : "battery.csv" ∈ filesOf "battery" := by decide
  have hevent : "events.csv" ∈ filesOf "event" := by decide
  have hbase : "base_state.csv" ∈ filesOf "base_state" := by decide
  have hdiagnostics : "diagnostics.csv" ∈ filesOf "diagnostics" := by decide
  have hpath : "path.csv" ∈ filesOf "path" := by decide
  have hpoints : "path_points.csv" ∈ filesOf "path" := by decide
  have hlidar : "lidar.csv" ∈ filesOf "lidar" := by decide
  have hranges : "lidar_ranges.csv" ∈ filesOf "lidar" := by decide
  unfold write at h
  split at h
  · obtain ⟨degrees, -, h⟩ := Option.bind_eq_some_iff.mp h
    cases h
    exact List.forall_mem_singleton.mpr hpose
  · obtain ⟨estimate, -, h⟩ := Option.bind_eq_some_iff.mp h
    cases h
    exact List.forall_mem_singleton.mpr hbattery
  · cases h
    exact List.forall_mem_singleton.mpr hevent
  · cases h
    exact List.forall_mem_singleton.mpr hbase
  · obtain ⟨items, -, h⟩ := Option.bind_eq_some_iff.mp h
    cases h
    intro row hrow
    obtain ⟨item, -, hitem⟩ := List.mem_filterMap.mp hrow
    split at hitem
    · cases hitem
      exact hdiagnostics
    · cases hitem
  · obtain ⟨items, -, h⟩ := Option.bind_eq_some_iff.mp h
    obtain ⟨goal, -, h⟩ := Option.bind_eq_some_iff.mp h
    obtain ⟨length, -, h⟩ := Option.bind_eq_some_iff.mp h
    obtain ⟨text, -, h⟩ := Option.bind_eq_some_iff.mp h
    cases h
    intro row hrow
    rcases List.mem_cons.mp hrow with rfl | hrow
    · exact hpath
    · obtain ⟨point, -, rfl⟩ := List.mem_map.mp hrow
      exact hpoints
  · obtain ⟨ranges, -, h⟩ := Option.bind_eq_some_iff.mp h
    obtain ⟨extremes, -, h⟩ := Option.bind_eq_some_iff.mp h
    obtain ⟨beams, hbeams, h⟩ := Option.bind_eq_some_iff.mp h
    cases h
    intro row hrow
    rcases List.mem_cons.mp hrow with rfl | hrow
    · exact hlidar
    · have hfiles : beams.map Prod.fst = ranges.zipIdx.map fun _ => "lidar_ranges.csv" := by
        apply map_of_mapM ?_ hbeams
        intro range row hrange
        obtain ⟨angle, -, rfl⟩ := Option.map_eq_some_iff.mp hrange
        rfl
      have hfile : row.1 ∈ beams.map Prod.fst := List.mem_map_of_mem hrow
      rw [hfiles] at hfile
      obtain ⟨_, -, heq⟩ := List.mem_map.mp hfile
      rw [← heq]
      exact hranges
  · cases h

/-! ### The samples of a builder -/

/-- The number of a sample as a cell. -/
theorem toString_injective {m n : Nat} (h : toString (m : Int) = toString (n : Int)) : m = n := by
  have hdigits : Nat.toDigits 10 m = Nat.toDigits 10 n := String.ofList_injective h
  have hvalue := congrArg (fun digits => Nat.ofDigitChars 10 digits 0) hdigits
  simpa only [Nat.ofDigitChars_ten_toDigits] using hvalue

section

variable (render)

/-- `add` up to the check of the size. -/
def Builder.put (builder : Builder) (sample : Sample) : Option Builder :=
  if builder.selected.contains sample.kind = false then some builder
  else
    let index := builder.indices sample.kind + 1
    let counted := { builder with indices := Function.update builder.indices sample.kind index }
    match sample.fields render with
    | none => some counted
    | some data => (write render sample.kind index data).map fun rows =>
      { counted with tables := addRows (builder.lead render sample) rows builder.tables }

/-- A sample that is written: of a selected channel, and a dictionary. -/
def Builder.readable (builder : Builder) (sample : Sample) : Bool :=
  builder.selected.contains sample.kind && (sample.fields render).isSome

/-- The samples of a channel. -/
def channelSamples (kind : String) (samples : List Sample) : List Sample :=
  samples.filter fun sample => sample.kind == kind

/-- The rows of a numbered sample, with their lead columns. -/
def sampleRows (fresh : Builder) (kind : String) (entry : Sample × Nat) : Rows :=
  ((entry.1.fields render).bind (write render kind entry.2)).elim [] fun rows =>
    rows.map fun row => (row.1, fresh.lead render entry.1 ++ row.2)

/-- What a file holds after these samples. -/
def linesOf (fresh : Builder) (kind filename : String) (samples : List Sample) :
    List (List String) :=
  rowsIn filename ((channelSamples kind samples).zipIdx.flatMap (sampleRows render fresh kind))

/-- The builder after these samples, from a fresh one. -/
structure Builder.Reached (builder fresh : Builder) (samples : List Sample) :
    Prop where
  recording : builder.recording = fresh.recording
  selected : builder.selected = fresh.selected
  t0 : builder.t0 = fresh.t0
  maxBytes : builder.maxBytes = fresh.maxBytes
  indices : ∀ kind ∈ fresh.selected,
    builder.indices kind + 1 = (channelSamples kind samples).length
  tables : ∀ kind ∈ fresh.selected, ∀ filename ∈ filesOf kind,
    ∃ table, builder.tables.lookup filename = some table ∧
      table.Holds filename (linesOf render fresh kind filename samples)
  unopened : ∀ kind ∉ fresh.selected, ∀ filename ∈ filesOf kind,
    builder.tables.lookup filename = none

end

variable {builder builder' fresh : Builder} {sample : Sample} {samples : List Sample}

theorem Builder.add_of_readable (h : builder.readable render sample = true) :
    builder.add render sample = match builder.put render sample with
      | none => .error .raised
      | some after => after.measure := by
  obtain ⟨hselected, hdata⟩ := Bool.and_eq_true_iff.mp h
  obtain ⟨data, hdata⟩ := Option.isSome_iff_exists.mp hdata
  simp only [add, put, hselected, hdata, Bool.true_eq_false, if_false]
  cases write render sample.kind (builder.indices sample.kind + 1) data with
  | none => rfl
  | some rows => rfl

theorem Builder.add_of_not_readable (h : builder.readable render sample = false) :
    ∃ after, builder.put render sample = some after ∧ builder.add render sample = .ok after ∧
      after.tables = builder.tables ∧ after.rowsSinceCheck = builder.rowsSinceCheck := by
  unfold readable at h
  cases hselected : builder.selected.contains sample.kind with
  | false =>
    simp only [add, put, hselected, if_true]
    exact ⟨builder, rfl, rfl, rfl, rfl⟩
  | true =>
    rw [hselected, Bool.true_and, Option.isSome_eq_false_iff, Option.isNone_iff_eq_none] at h
    simp only [add, put, hselected, h, Bool.true_eq_false, if_false]
    exact ⟨_, rfl, rfl, rfl, rfl⟩

/-- What an `add` that returns has put. -/
theorem Builder.put_of_add (h : builder.add render sample = .ok builder') :
    ∃ after rowsSinceCheck, builder.put render sample = some after ∧
      builder' = { after with rowsSinceCheck := rowsSinceCheck } := by
  cases hreadable : builder.readable render sample with
  | false =>
    obtain ⟨after, hput, hadd, -, -⟩ := add_of_not_readable hreadable
    rw [hadd] at h
    cases h
    exact ⟨builder', builder'.rowsSinceCheck, hput, rfl⟩
  | true =>
    rw [add_of_readable hreadable] at h
    cases hput : builder.put render sample with
    | none =>
      rw [hput] at h
      cases h
    | some after =>
      rw [hput] at h
      simp only [measure] at h
      split at h
      · split at h
        · cases h
        · cases h
          exact ⟨after, 0, rfl, rfl⟩
      · cases h
        exact ⟨after, after.rowsSinceCheck + 1, rfl, rfl⟩

theorem channelSamples_concat_self (kind : String) (hkind : sample.kind = kind) :
    channelSamples kind (samples ++ [sample]) = channelSamples kind samples ++ [sample] := by
  simp [channelSamples, hkind]

theorem channelSamples_concat_ne {kind : String} (hkind : sample.kind ≠ kind) :
    channelSamples kind (samples ++ [sample]) = channelSamples kind samples := by
  simp [channelSamples, hkind]

/-- The lines of a file with one more sample of its channel. -/
theorem linesOf_concat (fresh : Builder) {kind : String} (hkind : sample.kind = kind) :
    linesOf render fresh kind filename (samples ++ [sample]) =
      linesOf render fresh kind filename samples ++ rowsIn filename
        (sampleRows render fresh kind (sample, (channelSamples kind samples).length)) := by
  unfold linesOf
  rw [channelSamples_concat_self kind hkind, List.zipIdx_append, List.flatMap_append,
    rowsIn_append]
  simp

theorem lead_ne_nil (builder : Builder) (sample : Sample) : builder.lead render sample ≠ [] := by
  simp [Builder.lead]

/-- A sample of another channel leaves a file as it is. -/
theorem linesOf_concat_ne (fresh : Builder) {kind : String} (hkind : sample.kind ≠ kind) :
    linesOf render fresh kind filename (samples ++ [sample]) =
      linesOf render fresh kind filename samples := by
  rw [linesOf, channelSamples_concat_ne hkind, linesOf]

theorem Builder.Reached.lead (h : builder.Reached render fresh samples) (sample : Sample) :
    builder.lead render sample = fresh.lead render sample := by
  unfold Builder.lead
  rw [h.recording, h.t0]

/-- A sample that is counted, with the rows that are added for it. -/
theorem Builder.Reached.count (h : builder.Reached render fresh samples) {rows : Rows}
    (hrows : sampleRows render fresh sample.kind
      (sample, (channelSamples sample.kind samples).length) =
        rows.map fun row => (row.1, fresh.lead render sample ++ row.2))
    (hfiles : ∀ row ∈ rows, row.1 ∈ filesOf sample.kind) :
    Builder.Reached render
      { builder with
        indices := Function.update builder.indices sample.kind (builder.indices sample.kind + 1)
        tables := addRows (fresh.lead render sample) rows builder.tables }
      fresh (samples ++ [sample]) := by
  constructor
  · exact h.recording
  · exact h.selected
  · exact h.t0
  · exact h.maxBytes
  · intro kind hkind
    dsimp only
    by_cases hsame : sample.kind = kind
    · subst hsame
      rw [channelSamples_concat_self _ rfl, Function.update_self, h.indices _ hkind]
      simp
    · rw [channelSamples_concat_ne hsame, Function.update_of_ne (Ne.symm hsame)]
      exact h.indices kind hkind
  · intro kind hkind filename hfile
    have hlines : linesOf render fresh kind filename (samples ++ [sample]) =
        linesOf render fresh kind filename samples ++
          rowsIn filename (rows.map fun row => (row.1, fresh.lead render sample ++ row.2)) := by
      by_cases hsame : sample.kind = kind
      · subst hsame
        rw [linesOf_concat fresh rfl, hrows]
      · rw [linesOf_concat_ne fresh hsame, rowsIn_eq_nil, List.append_nil]
        intro row hrow
        obtain ⟨written, hwritten, rfl⟩ := List.mem_map.mp hrow
        rintro rfl
        exact hsame (channel_of_file (hfiles written hwritten) hfile)
    obtain ⟨table, htable, hholds⟩ := h.tables kind hkind filename hfile
    rw [hlines]
    refine ⟨_, ?_, hholds.add (lead_ne_nil fresh sample) rows⟩
    rw [lookup_addRows, htable, Option.map_some]
  · intro kind hkind filename hfile
    rw [lookup_addRows, h.unopened kind hkind filename hfile, Option.map_none]

theorem addRows_nil (lead : List String) (tables : List (String × Table)) :
    addRows lead [] tables = tables := List.map_id tables

/-- A sample that is put is the next of its channel. -/
theorem Builder.Reached.put (h : builder.Reached render fresh samples)
    (hput : builder.put render sample = some builder') :
    builder'.Reached render fresh (samples ++ [sample]) := by
  unfold Builder.put at hput
  split at hput
  · rename_i hunselected
    obtain rfl := Option.some.inj hput
    have hother : ∀ kind ∈ fresh.selected, sample.kind ≠ kind := by
      rintro kind hkind rfl
      rw [h.selected, List.contains_eq_mem, decide_eq_false_iff_not] at hunselected
      exact hunselected hkind
    constructor
    · exact h.recording
    · exact h.selected
    · exact h.t0
    · exact h.maxBytes
    · intro kind hkind
      rw [channelSamples_concat_ne (hother kind hkind)]
      exact h.indices kind hkind
    · intro kind hkind filename hfile
      rw [linesOf_concat_ne fresh (hother kind hkind)]
      exact h.tables kind hkind filename hfile
    · exact h.unopened
  · rename_i hcontains
    have hselected : sample.kind ∈ fresh.selected := by
      rw [← h.selected]
      simpa using hcontains
    have hindex := h.indices sample.kind hselected
    cases hdata : sample.fields render with
    | none =>
      rw [hdata] at hput
      obtain rfl := Option.some.inj hput
      have hcounted := @Reached.count render builder fresh sample samples h []
        (by simp [sampleRows, hdata]) (by simp)
      rwa [addRows_nil] at hcounted
    | some data =>
      rw [hdata] at hput
      obtain ⟨rows, hwrite, rfl⟩ := Option.map_eq_some_iff.mp hput
      rw [h.lead]
      apply h.count
      · rw [hindex] at hwrite
        simp [sampleRows, hdata, hwrite]
      · exact file_of_write hwrite

/-- A dictionary with an entry for each of these keys. -/
theorem lookup_foldl_insertAt {α : Type} (f : String → α) (keys : List String)
    (entries : List (String × α)) (key : String) :
    (keys.foldl (fun entries key => Tuning.insertAt key (f key) entries) entries).lookup key =
      if key ∈ keys then some (f key) else entries.lookup key := by
  induction keys generalizing entries with
  | nil => simp
  | cons first keys ih =>
    rw [List.foldl_cons, ih]
    by_cases hkeys : key ∈ keys
    · rw [if_pos hkeys, if_pos (List.mem_cons_of_mem first hkeys)]
    · by_cases hfirst : key = first
      · subst hfirst
        rw [if_neg hkeys, if_pos List.mem_cons_self, Tuning.lookup_insertAt_self]
      · rw [if_neg hkeys, if_neg, Tuning.lookup_insertAt_ne hfirst]
        simp [hfirst, hkeys]

variable (recording : RecordingRow) (selected : List String) (t0 : Option Moment) (maxBytes : Int)

/-- A table that the constructor opened. -/
theorem lookup_new {kind : String} (hkind : kind ∈ selected) (hfile : filename ∈ filesOf kind) :
    (Builder.new recording selected t0 maxBytes).tables.lookup filename =
      some (Table.new filename) := by
  have hmem : filename ∈ selected.flatMap filesOf := List.mem_flatMap.mpr ⟨kind, hkind, hfile⟩
  unfold Builder.new
  rw [lookup_foldl_insertAt, if_pos hmem]

theorem Builder.reached_new :
    (Builder.new recording selected t0 maxBytes).Reached render
      (Builder.new recording selected t0 maxBytes) [] := by
  constructor
  · rfl
  · rfl
  · rfl
  · rfl
  · intro kind _
    rfl
  · intro kind hkind filename hfile
    exact ⟨_, lookup_new recording selected t0 maxBytes hkind hfile, Table.holds_new filename⟩
  · intro kind hkind filename hfile
    unfold new
    rw [lookup_foldl_insertAt, if_neg, List.lookup_nil]
    intro hmem
    obtain ⟨channel, hchannel, hfile'⟩ := List.mem_flatMap.mp hmem
    exact hkind (channel_of_file hfile hfile' ▸ hchannel)

variable {recording selected t0 maxBytes}

/-- The builder after samples that were added without an exception. -/
theorem Builder.reached_of_add
    (h : samples.foldlM (add render) (new recording selected t0 maxBytes) = .ok builder) :
    builder.Reached render (new recording selected t0 maxBytes) samples := by
  apply foldlM_invariant
    (fun samples builder => builder.Reached render (new recording selected t0 maxBytes) samples)
    (reached_new recording selected t0 maxBytes) ?_ h
  intro samples before sample after hbefore hadd
  obtain ⟨put, rowsSinceCheck, hput, rfl⟩ := put_of_add hadd
  have hreached := hbefore.put hput
  exact ⟨hreached.recording, hreached.selected, hreached.t0, hreached.maxBytes,
    hreached.indices, hreached.tables, hreached.unopened⟩

/-- The data rows of a file of the export. -/
def dataRows (builder : Builder) (filename : String) : List (List String) :=
  (builder.tables.lookup filename).elim [] Table.dataRows

/-- The rows of a file are those of the samples of its channel, one sample after the
    other. -/
theorem Builder.Reached.dataRows (h : builder.Reached render fresh samples) {kind : String}
    (hfile : filename ∈ filesOf kind) :
    dataRows builder filename = if kind ∈ fresh.selected then
      (channelSamples kind samples).zipIdx.flatMap fun entry =>
        rowsIn filename (sampleRows render fresh kind entry) else [] := by
  unfold Export.dataRows
  split
  · rename_i hkind
    obtain ⟨table, htable, hholds⟩ := h.tables kind hkind filename hfile
    rw [htable, Option.elim_some, hholds.dataRows, linesOf, rowsIn, List.filterMap_flatMap]
    rfl
  · rename_i hkind
    rw [h.unopened kind hkind filename hfile, Option.elim_none]

end PatrolBot.Export
