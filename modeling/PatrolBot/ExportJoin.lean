import Mathlib.Data.List.Nodup
import PatrolBot.ExportTables

/-!
# Joining the long tables of an export

A path and a scan have a summary row and a row for each point or beam in a companion
table.  The two are joined on the `sample_index`, which counts the samples of the channel,
also those that are skipped.
-/

namespace PatrolBot.Export

/-! ### Numbered lists -/

section

variable {α β γ : Type} {f : α × Nat → List β} {p : β → Bool} {xs : List α} {x : α} {i : Nat}

/-- Only the element with the number has rows with the number. -/
theorem filter_flatMap_zipIdx (start : Nat)
    (h : ∀ entry ∈ xs.zipIdx start, ∀ row ∈ f entry, p row = decide (entry.2 = start + i))
    (hx : xs[i]? = some x) : ((xs.zipIdx start).flatMap f).filter p = f (x, start + i) := by
  induction xs generalizing start i with
  | nil => cases hx
  | cons first xs ih =>
    rw [List.zipIdx_cons] at h ⊢
    obtain ⟨hfirst, hxs⟩ := List.forall_mem_cons.mp h
    rw [List.flatMap_cons, List.filter_append]
    cases i with
    | zero =>
      obtain rfl := Option.some.inj hx
      have hself : (f (first, start)).filter p = f (first, start) := by
        apply List.filter_eq_self.mpr
        intro row hrow
        rw [hfirst row hrow]
        exact decide_eq_true rfl
      have hrest : ((xs.zipIdx (start + 1)).flatMap f).filter p = [] := by
        apply List.filter_eq_nil_iff.mpr
        intro row hrow
        obtain ⟨entry, hentry, hrow⟩ := List.mem_flatMap.mp hrow
        have hle := List.le_snd_of_mem_zipIdx hentry
        have hne : entry.2 ≠ start + 0 := by omega
        rw [hxs entry hentry row hrow, decide_eq_false hne]
        exact Bool.false_ne_true
      rw [hself, hrest, List.append_nil]
      rfl
    | succ i =>
      have hnext : start + 1 + i = start + (i + 1) := by omega
      have hother : (f (first, start)).filter p = [] := by
        apply List.filter_eq_nil_iff.mpr
        intro row hrow
        have hne : start ≠ start + (i + 1) := by omega
        rw [hfirst row hrow, decide_eq_false hne]
        exact Bool.false_ne_true
      have hih := ih (start + 1) (hnext ▸ hxs) hx
      rw [hother, List.nil_append, hih, hnext]

/-- Rows that tell the numbers of their elements apart, and are different within one, are
    different altogether. -/
theorem nodup_flatMap_zipIdx {g : β → γ}
    (hnumber : ∀ entry ∈ xs.zipIdx, ∀ entry' ∈ xs.zipIdx, ∀ row ∈ f entry, ∀ row' ∈ f entry',
      g row = g row' → entry.2 = entry'.2)
    (hwithin : ∀ entry ∈ xs.zipIdx, ((f entry).map g).Nodup) :
    ((xs.zipIdx.flatMap f).map g).Nodup := by
  rw [List.map_flatMap, List.nodup_flatMap]
  constructor
  · exact hwithin
  · have hnodup : (xs.zipIdx.map Prod.snd).Nodup := by
      rw [List.zipIdx_map_snd]
      exact List.nodup_range'
    apply (List.pairwise_map.mp hnodup).imp_of_mem
    intro entry entry' hentry hentry' hne shown hleft hright
    obtain ⟨row, hrow, rfl⟩ := List.mem_map.mp hleft
    obtain ⟨row', hrow', hsame⟩ := List.mem_map.mp hright
    exact hne (hnumber entry hentry entry' hentry' row hrow row' hrow' hsame.symm)

end

/-! ### Cells and payloads -/

/-- The cell of a row under a column of its file. -/
def cell (filename column : String) (row : List String) : Option String :=
  ((columns filename).zip row).lookup column

/-- The rows of a companion table that belong to a sample. -/
def companions (builder : Builder) (filename index : String) : List (List String) :=
  (dataRows builder filename).filter fun row =>
    decide (cell filename "sample_index" row = some index)

variable (render : Rendering)

/-- A coordinate or a range as a cell: a null is an empty one. -/
def valueCell : Json → String
  | .null => ""
  | .int n => toString n
  | value => render.repr value

/-- The points of a path payload, each two numbers. -/
def pathShape (data : List (String × Json)) : Option (List (Json × Json)) :=
  match Json.get data "points" with
  | .list items => items.mapM fun item => match item with
    | .list [x, y] => if x.isNumber && y.isNumber then some (x, y) else none
    | _ => none
  | _ => none

/-- The ranges of a scan payload, each a number or null. -/
def scanShape (data : List (String × Json)) : Option (List Json) :=
  match Json.get data "ranges" with
  | .list ranges => if ranges.all (fun range => range.isNumber || range matches .null)
      then some ranges else none
  | _ => none

/-- The cells of a sample's points. -/
def pointCells (sample : Sample) : Option (List (List String)) :=
  ((sample.fields render).bind pathShape).map fun points =>
    points.map fun point => [valueCell render point.1, valueCell render point.2]

/-- The cells of a sample's ranges. -/
def rangeCells (sample : Sample) : Option (List (List String)) :=
  ((sample.fields render).bind scanShape).map fun ranges =>
    ranges.map fun range => [valueCell render range]

/-- The path and scan payloads among the samples have the shape of telemetry; a sample
    that is not read may hold anything. -/
def Shaped (samples : List Sample) : Prop :=
  ∀ sample ∈ samples, ∀ data, sample.fields render = some data →
    (sample.kind = "path" → (pathShape data).isSome = true) ∧
    (sample.kind = "lidar" → (scanShape data).isSome = true)

/-- The summary rows of a channel have different indices, and each has the count, the
    number and the contents of the rows that its sample has in the companion table. -/
structure Joined (builder : Builder) (samples : List Sample)
    (kind summaryFile countColumn companionFile : String) (valueColumns : List String)
    (contents : Sample → Option (List (List String))) : Prop where
  unique : ((dataRows builder summaryFile).map (cell summaryFile "sample_index")).Nodup
  joins : ∀ summary ∈ dataRows builder summaryFile, ∃ (i : Nat) (sample : Sample)
    (items : List (List String)),
    (channelSamples kind samples)[i]? = some sample ∧ contents sample = some items ∧
    cell summaryFile "sample_index" summary = some (toString i) ∧
    cell summaryFile countColumn summary = some (toString items.length) ∧
    (companions builder companionFile (toString i)).map
        (fun row => valueColumns.map fun column => cell companionFile column row) =
      items.map fun item => item.map some

variable {render}

/-! ### What the writers give -/

variable {fresh : Builder} {sample : Sample} {index : Nat} {data : List (String × Json)}
  {rows : Rows}

theorem pathPoints_of_shape {items : List Json} {points : List (Json × Json)}
    (h : items.mapM (fun item => match item with
      | .list [x, y] => if x.isNumber && y.isNumber then some (x, y) else none
      | _ => none) = some points) :
    pathPoints items = points ∧
      ∀ point ∈ points, point.1.isNumber = true ∧ point.2.isNumber = true := by
  induction items generalizing points with
  | nil =>
    cases h
    exact ⟨rfl, by simp⟩
  | cons item items ih =>
    rw [List.mapM_cons] at h
    obtain ⟨point, hpoint, h⟩ := Option.bind_eq_some_iff.mp h
    obtain ⟨rest, hrest, h⟩ := Option.bind_eq_some_iff.mp h
    cases h
    obtain ⟨hpoints, hnumbers⟩ := ih hrest
    split at hpoint
    · rename_i x y
      split at hpoint
      · rename_i hxy
        cases hpoint
        constructor
        · rw [← hpoints]
          rfl
        · exact List.forall_mem_cons.mpr ⟨Bool.and_eq_true_iff.mp hxy, hnumbers⟩
      · cases hpoint
    · cases hpoint

theorem num_eq_valueCell {value : Json} (h : value.isNumber = true ∨ value = .null) :
    num render value = valueCell render value := by
  rcases h with h | rfl
  · cases value with
    | int n => rfl
    | float x => rfl
    | _ => cases h
  · rfl

/-- The rows of a path. -/
theorem rows_of_path {points : List (Json × Json)} (hshape : pathShape data = some points)
    (hwrite : write render "path" index data = some rows) :
    ∃ length goal, rows = ("path.csv", mapCells render data ++ [toString (index : Int),
        text render (getOr data "frame_id" (.str "map")), toString points.length, length,
        num render (Json.get goal "x"), num render (Json.get goal "y"),
        num render (Json.get goal "yaw")]) ::
      points.zipIdx.map fun point => ("path_points.csv", mapCells render data ++
        [toString (index : Int), toString point.2, valueCell render point.1.1,
          valueCell render point.1.2]) := by
  obtain ⟨items, hitems, h⟩ := Option.bind_eq_some_iff.mp hwrite
  obtain ⟨goal, -, h⟩ := Option.bind_eq_some_iff.mp h
  obtain ⟨_, -, h⟩ := Option.bind_eq_some_iff.mp h
  obtain ⟨length, -, h⟩ := Option.bind_eq_some_iff.mp h
  obtain ⟨hpoints, hnumbers⟩ : pathPoints items = points ∧
      ∀ point ∈ points, point.1.isNumber = true ∧ point.2.isNumber = true := by
    unfold pathShape at hshape
    split at hshape
    · rename_i found hfound
      rw [hfound] at hitems
      obtain rfl := Option.some.inj hitems
      exact pathPoints_of_shape hshape
    · cases hshape
  refine ⟨length, goal, ?_⟩
  rw [← Option.some.inj h, hpoints]
  congr 1
  apply List.map_congr_left
  intro point hpoint
  obtain ⟨hx, hy⟩ := hnumbers point.1 (List.fst_mem_of_mem_zipIdx hpoint)
  rw [num_eq_valueCell (Or.inl hx), num_eq_valueCell (Or.inl hy)]

/-- The rows of a scan. -/
theorem rows_of_lidar {ranges : List Json} (hshape : scanShape data = some ranges)
    (hwrite : write render "lidar" index data = some rows) :
    ∃ angleMin increment validCount least greatest, ∃ angle : Nat → String,
      rows = ("lidar.csv", mapCells render data ++ [toString (index : Int), angleMin, increment,
        toString ranges.length, validCount, least, greatest]) ::
      ranges.zipIdx.map fun beam => ("lidar_ranges.csv", mapCells render data ++
        [toString (index : Int), toString beam.2, angle beam.2, valueCell render beam.1]) := by
  obtain ⟨found, hfound, h⟩ := Option.bind_eq_some_iff.mp hwrite
  obtain ⟨extremes, -, h⟩ := Option.bind_eq_some_iff.mp h
  obtain ⟨beams, hbeams, h⟩ := Option.bind_eq_some_iff.mp h
  obtain ⟨rfl, hvalues⟩ : found = ranges ∧
      ∀ range ∈ ranges, range.isNumber = true ∨ range = .null := by
    unfold scanShape at hshape
    split at hshape
    · rename_i listed hlisted
      rw [hlisted] at hfound
      obtain rfl := Option.some.inj hfound
      split at hshape
      · rename_i hall
        obtain rfl := Option.some.inj hshape
        refine ⟨rfl, ?_⟩
        intro range hrange
        have hvalue := List.all_eq_true.mp hall range hrange
        cases range <;> simp_all [Json.isNumber]
      · cases hshape
    · cases hshape
  have hrows := @map_of_mapM _ _ _ _ id (fun beam => ("lidar_ranges.csv", mapCells render data ++
    [toString (index : Int), toString beam.2, (beamAngle render (Json.get data "angle_min")
      (Json.get data "angle_increment") beam.2).getD "", num render beam.1])) (by
    intro range row hrow
    obtain ⟨angle, hangle, rfl⟩ := Option.map_eq_some_iff.mp hrow
    rw [hangle]
    rfl) _ _ hbeams
  rw [List.map_id] at hrows
  refine ⟨num render (Json.get data "angle_min"), num render (Json.get data "angle_increment"),
    toString (found.filter fun range => (operand range).isSome).length, extremes.1, extremes.2,
    fun beam => (beamAngle render (Json.get data "angle_min")
      (Json.get data "angle_increment") beam).getD "", ?_⟩
  rw [← Option.some.inj h, hrows]
  congr 1
  apply List.map_congr_left
  intro beam hbeam
  rw [num_eq_valueCell (hvalues beam.1 (List.fst_mem_of_mem_zipIdx hbeam))]

/-! ### The join -/

variable {builder : Builder} {samples : List Sample} {kind summaryFile countColumn : String}
  {companionFile : String} {valueColumns : List String}
  {contents : Sample → Option (List (List String))}

/-- What a sample has to write for the join: nothing, or one summary row with its number
    and its count, and the companion rows with its number and its contents. -/
def JoinsOn (render : Rendering) (fresh : Builder)
    (kind summaryFile countColumn companionFile : String) (valueColumns : List String)
    (contents : Sample → Option (List (List String))) (entry : Sample × Nat) : Prop :=
  sampleRows render fresh kind entry = [] ∨ ∃ items summary,
    contents entry.1 = some items ∧
    rowsIn summaryFile (sampleRows render fresh kind entry) = [summary] ∧
    cell summaryFile "sample_index" summary = some (toString entry.2) ∧
    cell summaryFile countColumn summary = some (toString items.length) ∧
    (∀ row ∈ rowsIn companionFile (sampleRows render fresh kind entry),
      cell companionFile "sample_index" row = some (toString entry.2)) ∧
    (rowsIn companionFile (sampleRows render fresh kind entry)).map
        (fun row => valueColumns.map fun column => cell companionFile column row) =
      items.map fun item => item.map some

theorem index_injective {m n : Nat} (h : some (toString m) = some (toString n)) : m = n :=
  toString_injective (Option.some.inj h)

/-- Tables of samples that each write what the join needs are joined. -/
theorem joined_of_rows (hreached : builder.Reached render fresh samples)
    (hsummary : summaryFile ∈ filesOf kind) (hcompanion : companionFile ∈ filesOf kind)
    (hentries : ∀ entry ∈ (channelSamples kind samples).zipIdx,
      JoinsOn render fresh kind summaryFile countColumn companionFile valueColumns contents entry) :
    Joined builder samples kind summaryFile countColumn companionFile valueColumns contents := by
  have hindex : ∀ entry ∈ (channelSamples kind samples).zipIdx,
      ∀ row ∈ rowsIn summaryFile (sampleRows render fresh kind entry),
        cell summaryFile "sample_index" row = some (toString entry.2) := by
    intro entry hentry row hrow
    rcases hentries entry hentry with hnone | ⟨items, summary, -, hrows, hcell, -⟩
    · rw [hnone] at hrow
      cases hrow
    · rw [hrows] at hrow
      rw [List.mem_singleton.mp hrow]
      exact hcell
  have hselected : ∀ summary ∈ dataRows builder summaryFile, kind ∈ fresh.selected := by
    intro summary hmem
    rw [hreached.dataRows hsummary] at hmem
    by_contra hkind
    rw [if_neg hkind] at hmem
    cases hmem
  constructor
  · rw [hreached.dataRows hsummary]
    split
    · apply nodup_flatMap_zipIdx
      · intro entry hentry entry' hentry' row hrow row' hrow' hsame
        rw [hindex entry hentry row hrow, hindex entry' hentry' row' hrow'] at hsame
        exact index_injective hsame
      · intro entry hentry
        rcases hentries entry hentry with hnone | ⟨items, summary, -, hrows, -⟩
        · rw [hnone]
          exact List.nodup_nil
        · rw [hrows]
          exact List.nodup_singleton _
    · exact List.nodup_nil
  · intro summary hmem
    have hkind := hselected summary hmem
    rw [hreached.dataRows hsummary, if_pos hkind] at hmem
    obtain ⟨entry, hentry, hrow⟩ := List.mem_flatMap.mp hmem
    rcases hentries entry hentry with hnone |
      ⟨items, summary', hcontents, hrows, hcell, hcount, hothers, hvalues⟩
    · rw [hnone] at hrow
      cases hrow
    · rw [hrows] at hrow
      obtain rfl := List.mem_singleton.mp hrow
      have hsample := List.mem_zipIdx_iff_getElem?.mp hentry
      refine ⟨entry.2, entry.1, items, hsample, hcontents, hcell, hcount, ?_⟩
      have hfilter := @filter_flatMap_zipIdx _ _
        (fun entry => rowsIn companionFile (sampleRows render fresh kind entry))
        (fun row => decide (cell companionFile "sample_index" row = some (toString entry.2)))
        (channelSamples kind samples) entry.1 entry.2 0 (by
          intro other hother row hrow
          rcases hentries other hother with hnone | ⟨_, _, -, -, -, -, hindices, -⟩
          · rw [hnone] at hrow
            cases hrow
          · rw [hindices row hrow, Nat.zero_add]
            apply decide_eq_decide.mpr
            constructor
            · exact index_injective
            · intro heq
              rw [heq]) hsample
      rw [companions, hreached.dataRows hcompanion, if_pos hkind, hfilter, Nat.zero_add]
      exact hvalues

/-- The rows of a sample are those of its writer. -/
theorem sampleRows_cases (render : Rendering) (fresh : Builder) (kind : String)
    (entry : Sample × Nat) :
    sampleRows render fresh kind entry = [] ∨ ∃ data rows, entry.1.fields render = some data ∧
      write render kind entry.2 data = some rows ∧
      sampleRows render fresh kind entry =
        rows.map fun row => (row.1, fresh.lead render entry.1 ++ row.2) := by
  unfold sampleRows
  cases hdata : entry.1.fields render with
  | none => exact Or.inl rfl
  | some data =>
    rw [Option.bind_some]
    cases hwrite : write render kind entry.2 data with
    | none => exact Or.inl rfl
    | some rows => exact Or.inr ⟨data, rows, rfl, hwrite, rfl⟩

section

variable {α : Type} {file other : String}

theorem rowsIn_summary (hne : other ≠ file) (row : List String) (f : α → List String)
    (xs : List α) : rowsIn file ((file, row) :: xs.map fun x => (other, f x)) = [row] := by
  have hrest : rowsIn file (xs.map fun x => (other, f x)) = [] := by
    apply rowsIn_eq_nil
    intro row hrow
    obtain ⟨x, -, rfl⟩ := List.mem_map.mp hrow
    exact hne
  have hcons := @rowsIn_append file [(file, row)] (xs.map fun x => (other, f x))
  rw [hrest] at hcons
  simpa [rowsIn] using hcons

theorem rowsIn_companion (hne : file ≠ other) (row : List String) (f : α → List String)
    (xs : List α) : rowsIn other ((file, row) :: xs.map fun x => (other, f x)) = xs.map f := by
  induction xs with
  | nil => simp [rowsIn, hne]
  | cons x xs ih =>
    simp only [rowsIn, List.filterMap_cons, hne, if_false] at ih
    simp only [rowsIn, List.map_cons, List.filterMap_cons, hne, if_false, if_true, ih]

theorem map_fst_zipIdx {β : Type} (f : α → β) (xs : List α) :
    xs.zipIdx.map (fun entry => f entry.1) = xs.map f := by
  have hfst : (xs.zipIdx.map Prod.fst).map f = xs.map f := by rw [List.zipIdx_map_fst]
  rwa [List.map_map] at hfst

end

theorem points_file_ne : "path.csv" ≠ "path_points.csv" := by decide

theorem ranges_file_ne : "lidar.csv" ≠ "lidar_ranges.csv" := by decide

/-- A writer of one summary row, and of one companion row for each numbered element, writes
    what the join needs. -/
theorem joinsOn_of_rows {α : Type} {entry : Sample × Nat} {items : List α}
    {summary : List String} {companion : α × Nat → List String} {shows : α → List String}
    (hne : summaryFile ≠ companionFile)
    (hrows : sampleRows render fresh kind entry =
      (summaryFile, summary) :: items.zipIdx.map fun item => (companionFile, companion item))
    (hcontents : contents entry.1 = some (items.map shows))
    (hindex : cell summaryFile "sample_index" summary = some (toString entry.2))
    (hcount : cell summaryFile countColumn summary = some (toString items.length))
    (hindices : ∀ item, cell companionFile "sample_index" (companion item) =
      some (toString entry.2))
    (hvalues : ∀ item, valueColumns.map (fun column =>
      cell companionFile column (companion item)) = (shows item.1).map some) :
    JoinsOn render fresh kind summaryFile countColumn companionFile valueColumns contents
      entry := by
  have hcompanion : rowsIn companionFile (sampleRows render fresh kind entry) =
      items.zipIdx.map companion := by
    rw [hrows]
    exact rowsIn_companion hne _ _ _
  refine Or.inr ⟨items.map shows, summary, hcontents, ?_, hindex, ?_, ?_, ?_⟩
  · rw [hrows]
    exact rowsIn_summary hne.symm _ _ _
  · rw [List.length_map]
    exact hcount
  · rw [hcompanion]
    intro row hrow
    obtain ⟨item, -, rfl⟩ := List.mem_map.mp hrow
    exact hindices item
  · rw [hcompanion, List.map_map, List.map_map]
    calc items.zipIdx.map _
      _ = items.zipIdx.map fun item => (shows item.1).map some :=
        List.map_congr_left fun item _ => hvalues item
      _ = items.map fun item => (shows item).map some :=
        map_fst_zipIdx (fun item => (shows item).map some) items

theorem joinsOn_path {entry : Sample × Nat} (hshape : ∀ data, entry.1.fields render = some data →
    (pathShape data).isSome = true) :
    JoinsOn render fresh "path" "path.csv" "point_count" "path_points.csv" ["x", "y"]
      (pointCells render) entry := by
  rcases sampleRows_cases render fresh "path" entry with hnone | ⟨data, rows, hdata, hwrite, hrows⟩
  · exact Or.inl hnone
  · obtain ⟨points, hpoints⟩ := Option.isSome_iff_exists.mp (hshape data hdata)
    obtain ⟨length, goal, rfl⟩ := rows_of_path hpoints hwrite
    rw [List.map_cons, List.map_map] at hrows
    apply joinsOn_of_rows points_file_ne hrows
    · rw [pointCells, hdata, Option.bind_some, hpoints, Option.map_some]
    · rfl
    · rfl
    · exact fun _ => rfl
    · exact fun _ => rfl

theorem joinsOn_lidar {entry : Sample × Nat} (hshape : ∀ data, entry.1.fields render = some data →
    (scanShape data).isSome = true) :
    JoinsOn render fresh "lidar" "lidar.csv" "beam_count" "lidar_ranges.csv" ["range_m"]
      (rangeCells render) entry := by
  rcases sampleRows_cases render fresh "lidar" entry with
    hnone | ⟨data, rows, hdata, hwrite, hrows⟩
  · exact Or.inl hnone
  · obtain ⟨ranges, hranges⟩ := Option.isSome_iff_exists.mp (hshape data hdata)
    obtain ⟨angleMin, increment, validCount, least, greatest, angle, rfl⟩ :=
      rows_of_lidar hranges hwrite
    rw [List.map_cons, List.map_map] at hrows
    apply joinsOn_of_rows ranges_file_ne hrows
    · rw [rangeCells, hdata, Option.bind_some, hranges, Option.map_some]
    · rfl
    · rfl
    · exact fun _ => rfl
    · exact fun _ => rfl

/-- Rows that are made of numbered elements and show the numbers are different. -/
theorem nodup_filterMap_zipIdx {α β γ : Type} {f : α × Nat → Option β} {g : β → γ}
    (hnumber : ∀ item item' row row', f item = some row → f item' = some row' → g row = g row' →
      item.2 = item'.2) (items : List α) : ((items.zipIdx.filterMap f).map g).Nodup := by
  have hnodup : (items.zipIdx.map Prod.snd).Nodup := by
    rw [List.zipIdx_map_snd]
    exact List.nodup_range'
  apply List.pairwise_map.mpr
  apply List.pairwise_filterMap.mpr
  apply (List.pairwise_map.mp hnodup).imp
  intro item item' hne row hrow row' hrow' hsame
  exact hne (hnumber item item' row row' hrow hrow' hsame)

/-- The row of a diagnostic item. -/
def itemRow (render : Rendering) (fresh : Builder) (entry : Sample × Nat) (item : Json × Nat) :
    Option (List String) :=
  match item.1 with
  | .obj fields =>
    let values := Json.get fields "values"
    some (fresh.lead render entry.1 ++ [toString (entry.2 : Int), toString item.2,
      text render (Json.get fields "name"), text render (Json.get fields "level"),
      text render (Json.get fields "message"), if values.truthy then render.dumps values else ""])
  | _ => none

theorem cells_of_itemRow {entry : Sample × Nat} {item : Json × Nat} {row : List String}
    (h : itemRow render fresh entry item = some row) :
    cell "diagnostics.csv" "sample_index" row = some (toString entry.2) ∧
      cell "diagnostics.csv" "item_index" row = some (toString item.2) := by
  unfold itemRow at h
  split at h
  · obtain rfl := Option.some.inj h
    exact ⟨rfl, rfl⟩
  · cases h

/-- The rows of a diagnostics sample. -/
theorem rows_of_diagnostics (render : Rendering) (fresh : Builder) (entry : Sample × Nat) :
    ∃ items : List Json, rowsIn "diagnostics.csv" (sampleRows render fresh "diagnostics" entry) =
      items.zipIdx.filterMap (itemRow render fresh entry) := by
  rcases sampleRows_cases render fresh "diagnostics" entry with
    hnone | ⟨data, rows, -, hwrite, hrows⟩
  · refine ⟨[], ?_⟩
    rw [hnone]
    rfl
  · obtain ⟨items, -, h⟩ := Option.bind_eq_some_iff.mp hwrite
    refine ⟨items, ?_⟩
    rw [hrows, ← Option.some.inj h, rowsIn, List.filterMap_map, List.filterMap_filterMap]
    congr 1
    funext item
    obtain ⟨value, number⟩ := item
    cases value <;> rfl

/-- **The long tables join.**  The numbers of the samples are different in each channel,
    and the companion rows with the number of a summary row are as many as it says and
    give back what its sample holds, whatever else was added. -/
theorem joined_tables {recording : RecordingRow} {selected : List String} {t0 : Option Moment}
    {maxBytes : Int} (hshape : Shaped render samples)
    (h : samples.foldlM (Builder.add render) (Builder.new recording selected t0 maxBytes) =
      .ok builder) :
    Joined builder samples "path" "path.csv" "point_count" "path_points.csv" ["x", "y"]
        (pointCells render) ∧
      Joined builder samples "lidar" "lidar.csv" "beam_count" "lidar_ranges.csv" ["range_m"]
        (rangeCells render) ∧
      ((dataRows builder "diagnostics.csv").map fun row =>
        (cell "diagnostics.csv" "sample_index" row,
          cell "diagnostics.csv" "item_index" row)).Nodup := by
  have hreached := Builder.reached_of_add h
  have hof : ∀ (kind : String), ∀ entry ∈ (channelSamples kind samples).zipIdx,
      entry.1 ∈ samples ∧ entry.1.kind = kind := by
    intro kind entry hentry
    have hmem := List.fst_mem_of_mem_zipIdx hentry
    exact ⟨List.mem_of_mem_filter hmem, by simpa using List.of_mem_filter hmem⟩
  constructor
  · apply joined_of_rows hreached (by decide) (by decide)
    intro entry hentry
    obtain ⟨hmem, hkind⟩ := hof "path" entry hentry
    exact joinsOn_path fun data hdata => (hshape entry.1 hmem data hdata).1 hkind
  · constructor
    · apply joined_of_rows hreached (by decide) (by decide)
      intro entry hentry
      obtain ⟨hmem, hkind⟩ := hof "lidar" entry hentry
      exact joinsOn_lidar fun data hdata => (hshape entry.1 hmem data hdata).2 hkind
    · rw [hreached.dataRows (show "diagnostics.csv" ∈ filesOf "diagnostics" by decide)]
      split
      · apply nodup_flatMap_zipIdx
        · intro entry _ entry' _ row hrow row' hrow' hsame
          obtain ⟨items, hitems⟩ := rows_of_diagnostics render
            (Builder.new recording selected t0 maxBytes) entry
          obtain ⟨items', hitems'⟩ := rows_of_diagnostics render
            (Builder.new recording selected t0 maxBytes) entry'
          rw [hitems] at hrow
          rw [hitems'] at hrow'
          obtain ⟨item, -, hitem⟩ := List.mem_filterMap.mp hrow
          obtain ⟨item', -, hitem'⟩ := List.mem_filterMap.mp hrow'
          have hindex := (Prod.mk.inj hsame).1
          rw [(cells_of_itemRow hitem).1, (cells_of_itemRow hitem').1] at hindex
          exact index_injective hindex
        · intro entry _
          obtain ⟨items, hitems⟩ := rows_of_diagnostics render
            (Builder.new recording selected t0 maxBytes) entry
          rw [hitems]
          apply nodup_filterMap_zipIdx
          intro item item' row row' hitem hitem' hsame
          have hindex := (Prod.mk.inj hsame).2
          rw [(cells_of_itemRow hitem).2, (cells_of_itemRow hitem').2] at hindex
          exact index_injective hindex
      · exact List.nodup_nil

/-! ### A path and a scan -/

def pathText : String := "\x7b\"points\":[[0,0],[3,4]]\x7d"

def scanText : String := "\x7b\"angle_min\":0,\"angle_increment\":1,\"ranges\":[2,null]\x7d"

/-- The texts of those two samples. -/
def routeRendering : Rendering where
  loads := fun text =>
    if text = pathText then
      some (.obj [("points", .list [.list [.int 0, .int 0], .list [.int 3, .int 4]])])
    else if text = scanText then
      some (.obj [("angle_min", .int 0), ("angle_increment", .int 1),
        ("ranges", .list [.int 2, .null])])
    else none
  repr := fun _ => ""
  rounded := fun x _ =>
    if x = .finite 5 then "5.0" else if x = .finite 2 then "2.0"
    else if x = .finite 1 then "1.0" else "0.0"
  dumps := fun _ => ""
  fromisoformat := fun text =>
    if text = "2026-07-28T12:27:05+00:00" then some ⟨1785241625000000, "2026-07-28T12:27:05Z"⟩
    else none
  seconds := fun _ => "0.000"
  segment := fun ax ay bx by' =>
    if (ax, ay, bx, by') = (.int 0, .int 0, .int 3, .int 4) then some (.finite 5) else none

/-- The path, a broken sample, the scan, and the path again. -/
def routeSamples : List Sample :=
  [("path", pathText), ("path", "null,"), ("lidar", scanText), ("path", pathText)].map
    fun sample => ⟨"2026-07-28T12:27:05Z", sample.1, .str sample.2⟩

def routeBuilder : Builder :=
  Builder.new ⟨⟨1, "robot", "Route", ["path", "lidar"], .done, 4⟩, "2026-07-28 12:27:05", none⟩
    ["path", "lidar"] (parseTs routeRendering "2026-07-28T12:27:05Z") maxExportBytes

theorem joined_tables_route :
    ∃ builder, routeSamples.foldlM (Builder.add routeRendering) routeBuilder = .ok builder ∧
      Joined builder routeSamples "path" "path.csv" "point_count" "path_points.csv" ["x", "y"]
        (pointCells routeRendering) := by
  have hadded : (match routeSamples.foldlM (Builder.add routeRendering) routeBuilder with
      | .ok _ => true
      | .error _ => false) = true := by
    decide +kernel
  have hshape : Shaped routeRendering routeSamples := by
    have hall : (routeSamples.all fun sample => (sample.fields routeRendering).all fun data =>
        (sample.kind != "path" || (pathShape data).isSome) &&
          (sample.kind != "lidar" || (scanShape data).isSome)) = true := by
      decide +kernel
    intro sample hsample data hdata
    have hboth := List.all_eq_true.mp hall sample hsample
    rw [hdata, Option.all_some, Bool.and_eq_true] at hboth
    constructor
    · intro hkind
      simpa [hkind] using hboth.1
    · intro hkind
      simpa [hkind] using hboth.2
  split at hadded
  · rename_i builder hbuilder
    exact ⟨builder, hbuilder, (joined_tables hshape hbuilder).1⟩
  · cases hadded

end PatrolBot.Export
