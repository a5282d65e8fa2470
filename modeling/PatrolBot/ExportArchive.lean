import Mathlib.Data.List.Nodup
import PatrolBot.ExportTables

/-!
# The archive of an export

`finalize` writes an entry for each file of each selected channel.  `Recorder.start` drops
unknown channels from a request but keeps a known one as often as it is named, and
`select_channels` passes the list on: a channel that is named twice is exported twice.
-/

namespace PatrolBot.Export

def objectOf : Json → List (String × Json)
  | .obj fields => fields
  | _ => []

/-- The row count that a manifest gives for a file. -/
def manifestRows (manifest : Json) (filename : String) : Json :=
  Json.get (objectOf (Json.get (objectOf (Json.get (objectOf manifest) "files")) filename)) "rows"

/-- One entry for each file of each selected channel, the README and the manifest, whose
    row counts are those of the tables. -/
structure WellFormedArchive (builder : Builder) : Prop where
  once : ((finalize builder).map Prod.fst).Nodup
  names : ∀ name, name ∈ (finalize builder).map Prod.fst ↔
    name = folder builder ++ "/README.txt" ∨ name = folder builder ++ "/recording.json" ∨
      ∃ channel ∈ builder.selected, ∃ filename ∈ filesOf channel,
        name = folder builder ++ "/" ++ filename
  counts : ∀ name value, (name, Content.manifest value) ∈ finalize builder →
    ∀ channel ∈ builder.selected, ∀ filename ∈ filesOf channel, ∃ contents,
      (folder builder ++ "/" ++ filename, Content.table contents) ∈ finalize builder ∧
        manifestRows value filename = .int ((Csv.read contents.toList).length - 1)

variable {render : Rendering} {builder : Builder} {samples : List Sample}
  {recording : RecordingRow} {selected declared present : List String}
  {t0 : Option Moment} {maxBytes : Int}

/-! ### Entries -/

/-- The names of the entries inside the folder. -/
theorem names_eq (builder : Builder) :
    (finalize builder).map Prod.fst =
      ("README.txt" :: "recording.json" :: builder.selected.flatMap filesOf).map fun filename =>
        folder builder ++ "/" ++ filename := by
  simp only [finalize, List.map_cons, List.map_map, Function.comp_def, String.append_assoc]
  rfl

theorem entry_injective (builder : Builder) :
    Function.Injective fun filename => folder builder ++ "/" ++ filename :=
  fun _ _ h => (String.append_right_inj (folder builder ++ "/")).mp h

theorem mem_names (builder : Builder) (name : String) :
    name ∈ (finalize builder).map Prod.fst ↔
      name = folder builder ++ "/README.txt" ∨ name = folder builder ++ "/recording.json" ∨
        ∃ channel ∈ builder.selected, ∃ filename ∈ filesOf channel,
          name = folder builder ++ "/" ++ filename := by
  simp only [finalize, List.map_cons, List.map_map, List.mem_cons, List.mem_map, List.mem_flatMap,
    Function.comp]
  constructor
  · rintro (h | h | ⟨filename, ⟨channel, hchannel, hfile⟩, rfl⟩)
    · exact Or.inl h
    · exact Or.inr (Or.inl h)
    · exact Or.inr (Or.inr ⟨channel, hchannel, filename, hfile, rfl⟩)
  · rintro (h | h | ⟨channel, hchannel, filename, hfile, rfl⟩)
    · exact Or.inl h
    · exact Or.inr (Or.inl h)
    · exact Or.inr (Or.inr ⟨filename, ⟨channel, hchannel, hfile⟩, rfl⟩)

/-- The names of the tables are not those of the README and the manifest. -/
theorem file_ne {channel filename : String} (h : filename ∈ filesOf channel) :
    filename ≠ "README.txt" ∧ filename ≠ "recording.json" := by
  have hfiles : ∀ entry ∈ channelFiles, ∀ filename ∈ entry.2,
      filename ≠ "README.txt" ∧ filename ≠ "recording.json" := by decide
  obtain ⟨entry, hentry, -, hfile⟩ := file_mem h
  exact hfiles entry hentry filename hfile

theorem known_iff {channel : String} : known channel = true ↔ filesOf channel ≠ [] := by
  have hfiles : ∀ channel ∈ channelFiles.map Prod.fst, filesOf channel ≠ [] := by decide
  constructor
  · intro hknown
    exact hfiles channel (by simpa [known] using hknown)
  · intro hne
    obtain ⟨filename, hfile⟩ := List.exists_mem_of_ne_nil _ hne
    obtain ⟨entry, hentry, rfl, -⟩ := file_mem hfile
    unfold known
    rw [List.contains_eq_mem, decide_eq_true_eq]
    exact List.mem_map_of_mem hentry

/-- The files of known channels are all different when the channels are. -/
theorem nodup_files (hknown : ∀ channel ∈ selected, known channel = true) :
    (selected.flatMap filesOf).Nodup ↔ selected.Nodup := by
  have hfiles : ∀ channel ∈ channelFiles.map Prod.fst, (filesOf channel).Nodup := by decide
  have hdisjoint : ∀ channel ∈ selected, ∀ other ∈ selected,
      List.Disjoint (filesOf channel) (filesOf other) ↔ channel ≠ other := by
    intro channel hchannel other _
    constructor
    · rintro hdisjoint rfl
      obtain ⟨filename, hfile⟩ := List.exists_mem_of_ne_nil _ (known_iff.mp (hknown _ hchannel))
      exact hdisjoint hfile hfile
    · intro hne filename hfile hother
      exact hne (channel_of_file hfile hother)
  rw [List.nodup_flatMap]
  constructor
  · rintro ⟨-, hpairwise⟩
    exact hpairwise.imp_of_mem fun hmem hmem' h => (hdisjoint _ hmem _ hmem').mp h
  · intro hnodup
    constructor
    · intro channel hchannel
      exact hfiles channel (by simpa [known] using hknown channel hchannel)
    · exact hnodup.imp_of_mem fun hmem hmem' h => (hdisjoint _ hmem _ hmem').mpr h

theorem nodup_names (hknown : ∀ channel ∈ builder.selected, known channel = true) :
    ((finalize builder).map Prod.fst).Nodup ↔ builder.selected.Nodup := by
  have hreadme : "README.txt" ∉ "recording.json" :: builder.selected.flatMap filesOf := by
    rw [List.mem_cons, not_or]
    constructor
    · decide
    · intro hmem
      obtain ⟨channel, -, hfile⟩ := List.mem_flatMap.mp hmem
      exact (file_ne hfile).1 rfl
  have hmanifest : "recording.json" ∉ builder.selected.flatMap filesOf := by
    intro hmem
    obtain ⟨channel, -, hfile⟩ := List.mem_flatMap.mp hmem
    exact (file_ne hfile).2 rfl
  rw [names_eq, List.nodup_map_iff (entry_injective builder), List.nodup_cons, List.nodup_cons,
    nodup_files hknown]
  exact ⟨fun h => h.2.2, fun h => ⟨hreadme, hmanifest, h⟩⟩

/-! ### Row counts -/

theorem manifestRows_manifest {channel filename : String} (hchannel : channel ∈ builder.selected)
    (hfile : filename ∈ filesOf channel) {table : Table}
    (htable : builder.tables.lookup filename = some table) :
    manifestRows (manifest builder) filename = .int table.rows := by
  have hmem : filename ∈ builder.selected.flatMap filesOf :=
    List.mem_flatMap.mpr ⟨channel, hchannel, hfile⟩
  have hfiles : Json.get (objectOf (manifest builder)) "files" = .obj
      ((builder.selected.flatMap filesOf).foldl
        (fun files filename => Tuning.insertAt filename (fileEntry builder filename) files) []) :=
    rfl
  have hentry : Json.get ((builder.selected.flatMap filesOf).foldl
      (fun files filename => Tuning.insertAt filename (fileEntry builder filename) files) [])
      filename = fileEntry builder filename := by
    rw [Json.get, Tuning.lookup_eq, lookup_foldl_insertAt, if_pos hmem, Option.getD_some]
  unfold manifestRows
  rw [hfiles, objectOf, hentry, fileEntry, htable]
  rfl

/-- The manifest of an export counts the rows of its tables. -/
theorem counts_of_reached {fresh : Builder} (h : builder.Reached render fresh samples) :
    ∀ name value, (name, Content.manifest value) ∈ finalize builder →
    ∀ channel ∈ builder.selected, ∀ filename ∈ filesOf channel, ∃ contents,
      (folder builder ++ "/" ++ filename, Content.table contents) ∈ finalize builder ∧
        manifestRows value filename = .int ((Csv.read contents.toList).length - 1) := by
  intro name value hvalue channel hchannel filename hfile
  have hmanifest : value = manifest builder := by
    simp only [finalize, List.mem_cons, List.mem_map, Prod.mk.injEq, reduceCtorEq, and_false,
      exists_false, or_false, false_or, Content.manifest.injEq] at hvalue
    exact hvalue.2
  obtain ⟨table, htable, hholds⟩ := h.tables channel (h.selected ▸ hchannel) filename hfile
  refine ⟨table.contents, ?_, ?_⟩
  · apply List.mem_cons_of_mem
    apply List.mem_cons_of_mem
    apply List.mem_map.mpr
    refine ⟨filename, List.mem_flatMap.mpr ⟨channel, hchannel, hfile⟩, ?_⟩
    rw [htable, Option.elim_some]
  · rw [hmanifest, manifestRows_manifest hchannel hfile htable, hholds.read, hholds.rows]
    simp

/-! ### The selected channels -/

/-- The recorded channels, declared ones first, and those only found in the samples once
    each behind them. -/
theorem recorded_eq (declared present : List String) :
    ∃ extra, present.foldl (fun recorded kind =>
        if known kind ∧ kind ∉ recorded then recorded ++ [kind] else recorded) declared =
          declared ++ extra ∧ extra.Nodup ∧ List.Disjoint declared extra ∧
        (∀ channel ∈ extra, known channel = true ∧ channel ∈ present) ∧
        ∀ channel ∈ present, known channel = true → channel ∈ declared ++ extra := by
  induction present generalizing declared with
  | nil => exact ⟨[], by simp⟩
  | cons kind present ih =>
    rw [List.foldl_cons]
    split
    · rename_i hnew
      obtain ⟨extra, heq, hnodup, hdisjoint, hfound, hall⟩ := ih (declared ++ [kind])
      rw [List.disjoint_append_left, List.singleton_disjoint] at hdisjoint
      rw [List.append_assoc, List.singleton_append] at heq hall
      refine ⟨kind :: extra, heq, ?_, ?_, ?_, ?_⟩
      · exact List.nodup_cons.mpr ⟨hdisjoint.2, hnodup⟩
      · exact List.disjoint_cons_right.mpr ⟨hnew.2, hdisjoint.1⟩
      · refine List.forall_mem_cons.mpr ⟨⟨hnew.1, List.mem_cons_self⟩, ?_⟩
        exact fun channel hmem => (hfound channel hmem).imp_right (List.mem_cons_of_mem kind)
      · refine List.forall_mem_cons.mpr ⟨?_, hall⟩
        exact fun _ => List.mem_append_right declared List.mem_cons_self
    · rename_i hold
      obtain ⟨extra, heq, hnodup, hdisjoint, hfound, hall⟩ := ih declared
      refine ⟨extra, heq, hnodup, hdisjoint, ?_, ?_⟩
      · exact fun channel hmem => (hfound channel hmem).imp_right (List.mem_cons_of_mem kind)
      · refine List.forall_mem_cons.mpr ⟨?_, hall⟩
        intro hknown
        by_contra hnone
        exact hold ⟨hknown, fun hmem => hnone (List.mem_append_left extra hmem)⟩

variable {query : Option (List String)}

/-- A query of the export, `none` for every channel. -/
def asked (query : Option (List String)) (channel : String) : Bool :=
  query.all fun channels => channels.contains channel

/-- The selected channels are those that are known, declared or recorded, and asked for. -/
theorem mem_selectChannels {channel : String} :
    channel ∈ selectChannels declared present query ↔
      (known channel = true ∧ (channel ∈ declared ∨ channel ∈ present)) ∧
        asked query channel = true := by
  obtain ⟨extra, heq, -, -, hfound, hall⟩ := recorded_eq (declared.filter known) present
  unfold selectChannels
  rw [List.mem_filter, heq]
  apply and_congr_left
  intro _
  constructor
  · intro hmem
    rcases List.mem_append.mp hmem with hdeclared | hextra
    · obtain ⟨hdeclared, hknown⟩ := List.mem_filter.mp hdeclared
      exact ⟨hknown, Or.inl hdeclared⟩
    · obtain ⟨hknown, hpresent⟩ := hfound channel hextra
      exact ⟨hknown, Or.inr hpresent⟩
  · rintro ⟨hknown, hdeclared | hpresent⟩
    · exact List.mem_append_left extra (List.mem_filter.mpr ⟨hdeclared, hknown⟩)
    · exact hall channel hpresent hknown

theorem known_of_selected {channel : String}
    (h : channel ∈ selectChannels declared present query) : known channel = true :=
  (mem_selectChannels.mp h).1.1

theorem nodup_selected :
    (selectChannels declared present query).Nodup ↔
      ((declared.filter known).filter (asked query)).Nodup := by
  obtain ⟨extra, heq, hnodup, hdisjoint, -, -⟩ := recorded_eq (declared.filter known) present
  have hselected : selectChannels declared present query =
      (declared.filter known).filter (asked query) ++ extra.filter (asked query) := by
    rw [← List.filter_append, ← heq]
    rfl
  rw [hselected, List.nodup_append']
  constructor
  · intro h
    exact h.1
  · intro h
    refine ⟨h, hnodup.filter _, ?_⟩
    intro channel hleft hright
    exact hdisjoint (List.mem_of_mem_filter hleft) (List.mem_of_mem_filter hright)

/-! ### Requests -/

theorem recordable_iff (channel : String) :
    (channelIntervals.map Prod.fst).contains channel = known channel := by
  rw [Bool.eq_iff_iff]
  simp only [known, channelIntervals, channelFiles, List.map_cons, List.map_nil,
    List.contains_eq_mem, decide_eq_true_eq, List.mem_cons, List.not_mem_nil, or_false]
  tauto

theorem nodup_filter_iff {α : Type} [DecidableEq α] (p : α → Bool) (items : List α) :
    (items.filter p).Nodup ↔ ∀ item, p item = true → items.count item ≤ 1 := by
  rw [List.nodup_iff_count_le_one]
  constructor
  · intro h item hitem
    rw [← List.count_filter hitem]
    exact h item
  · intro h item
    by_cases hitem : p item = true
    · rw [List.count_filter hitem]
      exact h item hitem
    · rw [List.count_eq_zero_of_not_mem fun hmem => hitem (List.of_mem_filter hmem)]
      exact Nat.zero_le 1

/-- The channels of a new recording are different where those of the request are. -/
theorem nodup_wanted (request : Option (List String)) (query : Option (List String)) :
    (((wantedChannels request).filter known).filter (asked query)).Nodup ↔
      ∀ channel, known channel = true → asked query channel = true →
        (request.getD []).count channel ≤ 1 := by
  have hdefault : ((defaultChannels.filter known).filter (asked query)).Nodup := by
    have hnodup : (defaultChannels.filter known).Nodup := by decide
    exact hnodup.filter _
  have hplain : wantedChannels none = defaultChannels := by decide
  have hcases : ∀ named : List String,
      (((wantedChannels (some named)).filter known).filter (asked query)).Nodup ↔
        ∀ channel, known channel = true → asked query channel = true →
          named.count channel ≤ 1 := by
    intro named
    cases hnone : (named.filter known).isEmpty with
    | true =>
      -- No known channel is named, and the default takes the place of the request.
      have hwanted : wantedChannels (some named) = defaultChannels := by
        cases named with
        | nil => exact hplain
        | cons first named =>
          simp only [wantedChannels, recordable_iff, hnone, if_true]
      rw [hwanted]
      constructor
      · intro _ channel hknown _
        rw [List.isEmpty_iff, List.filter_eq_nil_iff] at hnone
        rw [List.count_eq_zero_of_not_mem fun hmem => hnone channel hmem hknown]
        exact Nat.zero_le 1
      · exact fun _ => hdefault
    | false =>
      have hwanted : wantedChannels (some named) = named.filter known := by
        cases named with
        | nil => cases hnone
        | cons first named =>
          simp only [wantedChannels, recordable_iff, hnone, Bool.false_eq_true, if_false]
      rw [hwanted, List.filter_filter, List.filter_filter, nodup_filter_iff]
      constructor
      · intro h channel hknown hasked
        exact h channel (by simp [hknown, hasked])
      · intro h channel hchannel
        simp only [Bool.and_eq_true] at hchannel
        exact h channel hchannel.2 hchannel.1.1
  cases request with
  | none =>
    rw [hplain]
    exact ⟨fun _ _ _ _ => Nat.zero_le 1, fun _ => hdefault⟩
  | some named => exact hcases named

/-! ### The endpoint -/

/-- An archive is finalized from a builder whose samples were all added. -/
theorem added_of_archive {row : RecordingRow} {firstTs channels : Option String}
    (h : exportRecordingZip render maxBytes (some row) present firstTs samples channels =
      .archive builder) :
    ∃ (t0 : Option Moment) (read : List Sample), read.foldlM (Builder.add render) (Builder.new row
      (selectChannels row.channels present (channels.map parseChannels)) t0 maxBytes) =
        .ok builder := by
  simp only [exportRecordingZip, openExport] at h
  split at h
  · rename_i outcome hopened
    split at hopened
    · cases hopened
      cases h
    · cases hopened
  · rename_i opened hopened
    split at hopened
    · cases hopened
    · cases hopened
      simp only [runExport] at h
      split at h
      · cases h
      · cases h
      · cases h
        exact ⟨_, _, by assumption⟩

/-- **What an export archive holds.**  The archive of a recording that `Recorder.start`
    made is well formed exactly if the request named no known channel twice that the
    export is asked for. -/
theorem wellFormedArchive_iff {request : Option (List String)} {row : RecordingRow}
    {firstTs channels : Option String}
    (h : exportRecordingZip render maxBytes (some { row with channels := wantedChannels request })
      present firstTs samples channels = .archive builder) :
    WellFormedArchive builder ↔
      ∀ channel, known channel = true →
        (channels.map parseChannels).all (fun channels => channels.contains channel) = true →
        (request.getD []).count channel ≤ 1 := by
  obtain ⟨t0, read, hadded⟩ := added_of_archive h
  have hreached := Builder.reached_of_add hadded
  have hselected : builder.selected = selectChannels (wantedChannels request) present
      (channels.map parseChannels) := hreached.selected
  have hknown : ∀ channel ∈ builder.selected, known channel = true := by
    rw [hselected]
    exact fun channel => known_of_selected
  have honce := nodup_names hknown
  rw [hselected, nodup_selected, nodup_wanted] at honce
  constructor
  · intro hwell
    exact honce.mp hwell.once
  · intro hrequest
    exact ⟨honce.mpr hrequest, mem_names builder, counts_of_reached hreached⟩

/-! ### A request that names a channel twice -/

/-- A recording without samples. -/
def emptyRecording : RecordingRow where
  id := 1
  robotId := "robot"
  name := "Corridor"
  channels := []
  status := .done
  sampleCount := 0
  startedAt := "2026-07-28 12:27:00"
  endedAt := some "2026-07-28 12:28:00"

/-- Stamps of one minute; nothing else is printed of a recording without samples. -/
def emptyRendering : Rendering where
  loads := fun _ => none
  repr := fun _ => ""
  rounded := fun _ _ => ""
  dumps := fun _ => ""
  fromisoformat := fun text =>
    if text = "2026-07-28T12:27:00" then some ⟨1785241620000000, "2026-07-28T12:27:00Z"⟩ else none
  seconds := fun _ => "0.000"
  segment := fun _ _ _ _ => none

/-- The builder of its export. -/
def emptyExport (request : List String) : Builder :=
  Builder.new { emptyRecording with channels := wantedChannels (some request) }
    (selectChannels (wantedChannels (some request)) [] none)
    (parseTs emptyRendering "2026-07-28 12:27:00") maxExportBytes

theorem export_empty (request : List String) :
    exportRecordingZip emptyRendering maxExportBytes
      (some { emptyRecording with channels := wantedChannels (some request) }) [] none [] none =
      .archive (emptyExport request) := by
  simp only [exportRecordingZip, openExport, Option.map_none, Option.any_none]
  cases hempty : (selectChannels (wantedChannels (some request)) [] none).isEmpty <;> rfl

theorem wellFormedArchive_poses : WellFormedArchive (emptyExport ["pose", "video", "event"]) := by
  apply (wellFormedArchive_iff (export_empty ["pose", "video", "event"])).mpr
  intro channel _ _
  rw [Option.getD_some]
  exact List.nodup_iff_count_le_one.mp (by decide) channel

/-- Two tables of poses in one archive. -/
theorem not_wellFormedArchive_twice :
    ∃ builder, exportRecordingZip emptyRendering maxExportBytes
        (some { emptyRecording with channels := wantedChannels (some ["pose", "pose"]) })
        [] none [] none = .archive builder ∧
      ¬ WellFormedArchive builder := by
  refine ⟨emptyExport ["pose", "pose"], export_empty ["pose", "pose"], ?_⟩
  intro hwell
  have hselected : (emptyExport ["pose", "pose"]).selected = ["pose", "pose"] := by decide
  have hnodup := (nodup_names (by rw [hselected]; decide)).mp hwell.once
  rw [hselected] at hnodup
  revert hnodup
  decide

end PatrolBot.Export
