import Mathlib.Algebra.Order.Ring.Rat
import Mathlib.Data.List.Nodup
import Mathlib.Data.Prod.Lex
import Mathlib.Data.String.Basic
import PatrolBot.Library.Machine
import PatrolBot.ServerState

/-!
# Diagnostics of many sources

`record_diagnostics` and `_refresh_diagnostics` of `telemetry/store.py`.  Each name keeps
its last report until the report is older than the retention; the events compare a report
with the last one that is still kept.  Times are readings of the monotonic clock.
-/

namespace PatrolBot.Diagnostics

open Server (dictSet dictPop)

inductive DiagLevel where
  | ok
  | warn
  | error
  | stale
deriving DecidableEq

structure DiagnosticItem where
  name : String
  level : DiagLevel
  message : String
  values : Option (List (String × String)) := none
deriving DecidableEq

/-- `MAX_DIAGNOSTICS_AGE_S`. -/
def maxDiagnosticsAgeS : ℚ := 30

/-- `DIAGNOSTIC_SOURCE_RETENTION_S`. -/
def diagnosticSourceRetentionS : ℚ := 5 * maxDiagnosticsAgeS

/-- An `EventData`, without the number and the time that `add_event` gives it. -/
structure Notice where
  severity : String
  title : String
  message : String
deriving DecidableEq

/-- The part of `RobotState` that diagnostics have. -/
structure Store where
  levels : List (String × DiagLevel) := []
  sources : List (String × (DiagnosticItem × ℚ)) := []
  -- the slice `diagnostics`
  data : Option (List DiagnosticItem) := none
  received : Option ℚ := none

/-- `("WARN", "ERROR", "STALE")`. -/
def DiagLevel.alarming : DiagLevel → Bool
  | .ok => false
  | .warn | .error | .stale => true

/-- The item of a source that no report has come from for a while. -/
def DiagnosticItem.outdated (name : String) (item : DiagnosticItem) : DiagnosticItem :=
  { item with level := .stale, message := "No recent report from " ++ name ++ "." }

/-! ### The store -/

/-- An iteration of the loop of `_refresh_diagnostics`. -/
def refreshEntry (now : ℚ) (refreshed : Store × List DiagnosticItem)
    (entry : String × (DiagnosticItem × ℚ)) : Store × List DiagnosticItem :=
  let s := refreshed.1
  let name := entry.1
  let item := entry.2.1
  let age := max 0 (now - entry.2.2)
  if diagnosticSourceRetentionS < age then
    ({ s with sources := dictPop s.sources name, levels := dictPop s.levels name }, refreshed.2)
  else if maxDiagnosticsAgeS < age ∧ item.level ≠ .stale then
    (s, refreshed.2 ++ [item.outdated name])
  else (s, refreshed.2 ++ [item])

/-- `(item.name.casefold(), item.name)`. -/
def sortKey (casefold : String → String) (item : DiagnosticItem) : String ×ₗ String :=
  toLex (casefold item.name, item.name)

/-- `_refresh_diagnostics`. -/
def refreshDiagnostics (casefold : String → String) (now : ℚ) (s : Store) : Store :=
  let refreshed := s.sources.foldl (refreshEntry now) (s, [])
  let items := refreshed.2.mergeSort fun item item' =>
    decide (sortKey casefold item ≤ sortKey casefold item')
  { refreshed.1 with data := if items = [] then none else some items }

def DiagnosticItem.attention (item : DiagnosticItem) : Notice :=
  ⟨if item.level = .error then "critical" else "warning", "A system needs attention",
    item.name ++ ": " ++ item.message⟩

def DiagnosticItem.recovery (item : DiagnosticItem) : Notice :=
  ⟨"info", "System recovered", item.name ++ " is OK again."⟩

/-- An iteration of the loop of `record_diagnostics`. -/
def recordItem (now : ℚ) (recorded : Store × List Notice) (item : DiagnosticItem) :
    Store × List Notice :=
  let s := recorded.1
  let previous := s.levels.lookup item.name
  let events :=
    if item.level.alarming ∧ previous ≠ some item.level then recorded.2 ++ [item.attention]
    else if item.level = .ok ∧ previous.any DiagLevel.alarming then
      recorded.2 ++ [item.recovery]
    else recorded.2
  ({ s with
      levels := dictSet s.levels item.name item.level
      sources := dictSet s.sources item.name (item, now) }, events)

/-- `record_diagnostics`. -/
def recordDiagnostics (casefold : String → String) (now : ℚ) (items : List DiagnosticItem)
    (s : Store) : Store × List Notice :=
  let recorded := items.foldl (recordItem now) (refreshDiagnostics casefold now s, [])
  ({ refreshDiagnostics casefold now recorded.1 with received := some now }, recorded.2)

/-- A call, with the clock it reads. -/
inductive Call where
  | record (now : ℚ) (items : List DiagnosticItem)
  | recompute (now : ℚ)

def Call.now : Call → ℚ
  | record now _ => now
  | recompute now => now

/-- The items that a call reports. -/
def Call.items : Call → List DiagnosticItem
  | record _ items => items
  | recompute _ => []

/-- The store as calls come in; `recompute` starts with a refresh. -/
def diagnosticStore (casefold : String → String) : Machine Store Call Notice where
  step s
    | .record now items => recordDiagnostics casefold now items s
    | .recompute now => (refreshDiagnostics casefold now s, [])

/-! ### What was reported -/

structure Report where
  item : DiagnosticItem
  received : ℚ

/-- The reports of a call. -/
def Call.reports (call : Call) : List Report := call.items.map fun item => ⟨item, call.now⟩

/-- The reports of a run, in their order. -/
def reportsOf (calls : List Call) : List Report := calls.flatMap Call.reports

/-- The last report of a name, if it is within the retention. -/
def lastReport (now : ℚ) (name : String) (reports : List Report) : Option Report :=
  (reports.reverse.find? fun report => report.item.name = name).filter fun report =>
    now - report.received ≤ diagnosticSourceRetentionS

/-- What is shown of a report. -/
def Report.shown (now : ℚ) (report : Report) : DiagnosticItem :=
  if maxDiagnosticsAgeS < now - report.received ∧ report.item.level ≠ .stale then
    report.item.outdated report.item.name
  else report.item

/-- One item for each name with a report within the retention, from its last report, in
    the order of the names. -/
structure Shows (casefold : String → String) (now : ℚ) (reports : List Report)
    (data : Option (List DiagnosticItem)) : Prop where
  items : ∀ item, item ∈ data.getD [] ↔
    ∃ report, lastReport now item.name reports = some report ∧ item = report.shown now
  names : ((data.getD []).map DiagnosticItem.name).Nodup
  sorted : (data.getD []).Pairwise fun item item' =>
    sortKey casefold item ≤ sortKey casefold item'
  nonempty : data ≠ some []

/-- The level of the last report of a name within the retention. -/
def previousLevel (now : ℚ) (name : String) (reports : List Report) : Option DiagLevel :=
  (lastReport now name reports).map fun report => report.item.level

/-- The events that items announce one after the other, given the reports before. -/
inductive Announced (now : ℚ) : List Report → List DiagnosticItem → List Notice → Prop where
  | nil {reports : List Report} : Announced now reports [] []
  | attention {reports : List Report} {item : DiagnosticItem} {items : List DiagnosticItem}
      {events : List Notice} (hlevel : item.level ∈ [.warn, .error, .stale])
      (hnew : previousLevel now item.name reports ≠ some item.level)
      (hrest : Announced now (reports ++ [⟨item, now⟩]) items events) :
      Announced now reports (item :: items) (item.attention :: events)
  | recovery {reports : List Report} {item : DiagnosticItem} {items : List DiagnosticItem}
      {events : List Notice} {level : DiagLevel} (hlevel : item.level = .ok)
      (hprevious : previousLevel now item.name reports = some level)
      (halarm : level ∈ [.warn, .error, .stale])
      (hrest : Announced now (reports ++ [⟨item, now⟩]) items events) :
      Announced now reports (item :: items) (item.recovery :: events)
  | quiet {reports : List Report} {item : DiagnosticItem} {items : List DiagnosticItem}
      {events : List Notice}
      (hattention : item.level ∈ [.warn, .error, .stale] →
        previousLevel now item.name reports = some item.level)
      (hrecovery : item.level = .ok → ∀ level ∈ [.warn, .error, .stale],
        previousLevel now item.name reports ≠ some level)
      (hrest : Announced now (reports ++ [⟨item, now⟩]) items events) :
      Announced now reports (item :: items) events

/-! ### Dictionaries -/

section Dict

variable {κ ν : Type} [DecidableEq κ]

theorem keys_dictSet (d : List (κ × ν)) (k : κ) (v : ν) :
    (dictSet d k v).map Prod.fst =
      if k ∈ d.map Prod.fst then d.map Prod.fst else d.map Prod.fst ++ [k] := by
  induction d with
  | nil => simp [dictSet]
  | cons entry d ih =>
    rw [dictSet]
    split
    · rename_i hkey
      simp [hkey]
    · rename_i hkey
      rw [List.map_cons, ih, List.map_cons]
      by_cases hmem : k ∈ d.map Prod.fst
      · rw [if_pos hmem, if_pos (List.mem_cons_of_mem _ hmem)]
      · have hcons : k ∉ entry.1 :: d.map Prod.fst := by
          rw [List.mem_cons, not_or]
          exact ⟨Ne.symm hkey, hmem⟩
        rw [if_neg hmem, if_neg hcons, List.cons_append]

theorem nodup_dictSet {d : List (κ × ν)} (h : (d.map Prod.fst).Nodup) (k : κ) (v : ν) :
    ((dictSet d k v).map Prod.fst).Nodup := by
  rw [keys_dictSet]
  split
  · exact h
  · rename_i hmem
    exact List.nodup_append.mpr ⟨h, List.nodup_singleton k, by
      intro a ha b hb hab
      exact hmem (List.mem_singleton.mp hb ▸ hab ▸ ha)⟩

theorem nodup_dictPop {d : List (κ × ν)} (h : (d.map Prod.fst).Nodup) (k : κ) :
    ((dictPop d k).map Prod.fst).Nodup :=
  h.sublist (List.filter_sublist.map Prod.fst)

theorem lookup_iff_mem {d : List (κ × ν)} (h : (d.map Prod.fst).Nodup) {k : κ} {v : ν} :
    d.lookup k = some v ↔ (k, v) ∈ d := by
  constructor
  · exact Server.mem_of_lookup
  · intro hmem
    obtain ⟨w, hlookup⟩ := Server.exists_lookup_of_mem hmem
    have hw := Server.mem_of_lookup hlookup
    have hentry : (k, w) = (k, v) := List.inj_on_of_nodup_map h hw hmem rfl
    rw [hlookup, (Prod.mk.inj hentry).2]

end Dict

/-! ### What a refresh does -/

def Expired (now received : ℚ) : Prop := diagnosticSourceRetentionS < now - received

instance (now received : ℚ) : Decidable (Expired now received) :=
  inferInstanceAs (Decidable (_ < _))

theorem maxDiagnosticsAgeS_nonneg : 0 ≤ maxDiagnosticsAgeS := by norm_num [maxDiagnosticsAgeS]

theorem diagnosticSourceRetentionS_nonneg : 0 ≤ diagnosticSourceRetentionS :=
  mul_nonneg (by norm_num) maxDiagnosticsAgeS_nonneg

theorem expired_iff (now received : ℚ) :
    diagnosticSourceRetentionS < max 0 (now - received) ↔ Expired now received := by
  rw [Expired, lt_max_iff]
  exact or_iff_right (not_lt.mpr diagnosticSourceRetentionS_nonneg)

/-- The entry that is not expired, as it is shown. -/
def shownEntry (now : ℚ) (entry : String × (DiagnosticItem × ℚ)) : DiagnosticItem :=
  if maxDiagnosticsAgeS < now - entry.2.2 ∧ entry.2.1.level ≠ .stale then
    entry.2.1.outdated entry.1
  else entry.2.1

theorem refreshEntry_expired {now : ℚ} {entry : String × (DiagnosticItem × ℚ)}
    (h : Expired now entry.2.2) (s : Store) (items : List DiagnosticItem) :
    refreshEntry now (s, items) entry =
      ({ s with sources := dictPop s.sources entry.1, levels := dictPop s.levels entry.1 },
        items) :=
  if_pos ((expired_iff now entry.2.2).mpr h)

theorem refreshEntry_kept {now : ℚ} {entry : String × (DiagnosticItem × ℚ)}
    (h : ¬ Expired now entry.2.2) (s : Store) (items : List DiagnosticItem) :
    refreshEntry now (s, items) entry = (s, items ++ [shownEntry now entry]) := by
  have hage : maxDiagnosticsAgeS < max 0 (now - entry.2.2) ↔
      maxDiagnosticsAgeS < now - entry.2.2 := by
    rw [lt_max_iff]
    exact or_iff_right (not_lt.mpr maxDiagnosticsAgeS_nonneg)
  simp only [refreshEntry, expired_iff, if_neg h, hage, shownEntry]
  split <;> rfl

theorem refresh_items (now : ℚ) (entries : List (String × (DiagnosticItem × ℚ))) (s : Store)
    (items : List DiagnosticItem) :
    (entries.foldl (refreshEntry now) (s, items)).2 =
      items ++ (entries.filter fun entry => ¬ Expired now entry.2.2).map (shownEntry now) := by
  induction entries generalizing s items with
  | nil => simp
  | cons entry entries ih =>
    rw [List.foldl_cons]
    by_cases h : Expired now entry.2.2
    · rw [refreshEntry_expired h, ih, List.filter_cons_of_neg (by simpa using h)]
    · rw [refreshEntry_kept h, ih, List.filter_cons_of_pos (by simpa using h), List.map_cons,
        List.append_assoc, List.singleton_append]

/-- A refresh drops the names of the expired entries from both dictionaries. -/
theorem refresh_lookup (now : ℚ) (entries : List (String × (DiagnosticItem × ℚ))) (s : Store)
    (items : List DiagnosticItem) (name : String) :
    let s' := (entries.foldl (refreshEntry now) (s, items)).1
    let gone := ∃ entry ∈ entries, entry.1 = name ∧ Expired now entry.2.2
    s'.sources.lookup name = (if gone then none else s.sources.lookup name) ∧
      s'.levels.lookup name = (if gone then none else s.levels.lookup name) := by
  induction entries generalizing s items with
  | nil => simp
  | cons entry entries ih =>
    simp only [List.foldl_cons, List.mem_cons, exists_eq_or_imp]
    by_cases h : Expired now entry.2.2
    · rw [refreshEntry_expired h]
      have hrest := ih { s with
        sources := dictPop s.sources entry.1, levels := dictPop s.levels entry.1 } items
      simp only [Server.lookup_dictPop] at hrest
      by_cases hname : name = entry.1
      · subst hname
        simpa only [h, and_self, true_or, if_true, ite_self] using hrest
      · simpa only [Ne.symm hname, hname, false_and, false_or, if_false] using hrest
    · rw [refreshEntry_kept h]
      simpa only [h, and_false, false_or] using ih s (items ++ [shownEntry now entry])

theorem refresh_nodup (now : ℚ) (entries : List (String × (DiagnosticItem × ℚ))) (s : Store)
    (items : List DiagnosticItem) (h : (s.sources.map Prod.fst).Nodup) :
    ((entries.foldl (refreshEntry now) (s, items)).1.sources.map Prod.fst).Nodup := by
  induction entries generalizing s items with
  | nil => exact h
  | cons entry entries ih =>
    rw [List.foldl_cons]
    by_cases hentry : Expired now entry.2.2
    · rw [refreshEntry_expired hentry]
      exact ih _ _ (nodup_dictPop h entry.1)
    · rw [refreshEntry_kept hentry]
      exact ih _ _ h

/-! ### The store against the reports -/

/-- The dictionaries hold the last reports within the retention. -/
structure Tracks (s : Store) (reports : List Report) (now : ℚ) : Prop where
  nodup : (s.sources.map Prod.fst).Nodup
  sources : ∀ name, s.sources.lookup name =
    (lastReport now name reports).map fun report => (report.item, report.received)
  levels : ∀ name, s.levels.lookup name = previousLevel now name reports

theorem Tracks.initial (now : ℚ) : Tracks {} [] now where
  nodup := List.nodup_nil
  sources _ := rfl
  levels _ := rfl

variable {s : Store} {reports : List Report} {now before : ℚ} {name : String}

theorem lastReport_name {report : Report} (h : lastReport now name reports = some report) :
    report.item.name = name := by
  obtain ⟨hfind, -⟩ := Option.filter_eq_some_iff.mp h
  have hname := List.find?_some hfind
  exact of_decide_eq_true hname

theorem lastReport_not_expired {report : Report}
    (h : lastReport now name reports = some report) : ¬ Expired now report.received := by
  obtain ⟨-, hage⟩ := Option.filter_eq_some_iff.mp h
  exact not_lt.mpr (of_decide_eq_true hage)

/-- What is left of a report as time goes on. -/
theorem lastReport_later (h : before ≤ now) (name : String) (reports : List Report) :
    lastReport now name reports =
      (lastReport before name reports).filter fun report => ¬ Expired now report.received := by
  rw [lastReport, lastReport, Option.filter_filter]
  congr 1
  funext report
  rw [Bool.eq_iff_iff, Bool.and_eq_true, decide_eq_true_eq, decide_eq_true_eq,
    decide_eq_true_eq, Expired, not_lt]
  constructor
  · intro hage
    exact ⟨(sub_le_sub_right h _).trans hage, hage⟩
  · exact And.right

theorem lastReport_append_self (item : DiagnosticItem) :
    lastReport now item.name (reports ++ [⟨item, now⟩]) = some ⟨item, now⟩ := by
  simp [lastReport, diagnosticSourceRetentionS_nonneg]

theorem lastReport_append_others {others : List Report}
    (h : ∀ report ∈ others, report.item.name ≠ name) :
    lastReport now name (reports ++ others) = lastReport now name reports := by
  have hnone : others.reverse.find? (fun report => report.item.name = name) = none := by
    rw [List.find?_eq_none]
    intro report hreport
    simpa using h report (List.mem_reverse.mp hreport)
  rw [lastReport, List.reverse_append, List.find?_append, hnone, Option.none_or, lastReport]

theorem lastReport_append_ne {report : Report} (h : report.item.name ≠ name) :
    lastReport now name (reports ++ [report]) = lastReport now name reports := by
  apply lastReport_append_others
  intro report' hreport'
  rwa [List.mem_singleton.mp hreport']

/-- A refresh keeps the dictionaries in step. -/
theorem Tracks.refreshed (h : Tracks s reports before) (hle : before ≤ now) :
    Tracks (s.sources.foldl (refreshEntry now) (s, [])).1 reports now := by
  have hlater := fun name => lastReport_later hle name reports
  have hgone : ∀ name, (∃ entry ∈ s.sources, entry.1 = name ∧ Expired now entry.2.2) ↔
      ∃ report, lastReport before name reports = some report ∧ Expired now report.received := by
    intro name
    constructor
    · rintro ⟨⟨key, item, received⟩, hentry, rfl, hexpired⟩
      have hlookup := (lookup_iff_mem h.nodup).mpr hentry
      rw [h.sources] at hlookup
      obtain ⟨report, hreport, heq⟩ := Option.map_eq_some_iff.mp hlookup
      exact ⟨report, hreport, (Prod.mk.inj heq).2 ▸ hexpired⟩
    · rintro ⟨report, hreport, hexpired⟩
      have hlookup := h.sources name
      rw [hreport] at hlookup
      exact ⟨_, (lookup_iff_mem h.nodup).mp hlookup, rfl, hexpired⟩
  have hlookup := fun name => refresh_lookup now s.sources s [] name
  constructor
  · exact refresh_nodup now s.sources s [] h.nodup
  · intro name
    rw [(hlookup name).1, hlater, h.sources]
    simp only [hgone]
    cases hreport : lastReport before name reports with
    | none => simp
    | some report => by_cases hexpired : Expired now report.received <;> simp [hexpired]
  · intro name
    rw [(hlookup name).2, previousLevel, hlater, h.levels, previousLevel]
    simp only [hgone]
    cases hreport : lastReport before name reports with
    | none => simp
    | some report => by_cases hexpired : Expired now report.received <;> simp [hexpired]

/-- The entry of a report shows the report. -/
theorem shownEntry_report {report : Report} (h : report.item.name = name) :
    shownEntry now (name, report.item, report.received) = report.shown now := by
  rw [shownEntry, Report.shown, h]

theorem shown_name (report : Report) : (report.shown now).name = report.item.name := by
  rw [Report.shown]
  split <;> rfl

/-- What is shown after a refresh. -/
theorem Tracks.shows (h : Tracks s reports before) (hle : before ≤ now)
    (casefold : String → String) :
    Shows casefold now reports (refreshDiagnostics casefold now s).data := by
  have hdata : (refreshDiagnostics casefold now s).data.getD [] =
      ((s.sources.filter fun entry => ¬ Expired now entry.2.2).map (shownEntry now)).mergeSort
        fun item item' => decide (sortKey casefold item ≤ sortKey casefold item') := by
    rw [refreshDiagnostics, refresh_items, List.nil_append]
    split
    · rename_i hempty
      rw [hempty]
      rfl
    · rfl
  have hentries : ∀ entry ∈ s.sources, ¬ Expired now entry.2.2 →
      ∃ report, lastReport now entry.1 reports = some report ∧
        report.item.name = entry.1 ∧ shownEntry now entry = report.shown now := by
    rintro ⟨key, item, received⟩ hentry hexpired
    have hlookup := (lookup_iff_mem h.nodup).mpr hentry
    rw [h.sources] at hlookup
    obtain ⟨report, hreport, heq⟩ := Option.map_eq_some_iff.mp hlookup
    obtain ⟨rfl, rfl⟩ := Prod.mk.inj heq
    have hname := lastReport_name hreport
    refine ⟨report, ?_, hname, shownEntry_report hname⟩
    rw [lastReport_later hle, hreport]
    simpa using hexpired
  constructor
  · intro item
    rw [hdata, (List.mergeSort_perm _ _).mem_iff, List.mem_map]
    constructor
    · rintro ⟨entry, hentry, rfl⟩
      obtain ⟨hmem, hexpired⟩ := List.mem_filter.mp hentry
      obtain ⟨report, hreport, hname, hshown⟩ :=
        hentries entry hmem (of_decide_eq_true hexpired)
      refine ⟨report, ?_, hshown⟩
      rw [hshown, shown_name, hname]
      exact hreport
    · rintro ⟨report, hreport, rfl⟩
      have hname := lastReport_name hreport
      have hkept := lastReport_not_expired hreport
      rw [lastReport_later hle] at hreport
      have hlookup := h.sources (report.shown now).name
      rw [(Option.filter_eq_some_iff.mp hreport).1] at hlookup
      refine ⟨_, List.mem_filter.mpr ⟨(lookup_iff_mem h.nodup).mp hlookup, ?_⟩,
        shownEntry_report hname⟩
      exact decide_eq_true hkept
  · rw [hdata, ((List.mergeSort_perm _ _).map _).nodup_iff, List.map_map]
    have hnames : ((s.sources.filter fun entry => ¬ Expired now entry.2.2).map
        (DiagnosticItem.name ∘ shownEntry now)) =
        (s.sources.filter fun entry => ¬ Expired now entry.2.2).map Prod.fst := by
      apply List.map_congr_left
      intro entry hentry
      obtain ⟨hmem, hexpired⟩ := List.mem_filter.mp hentry
      obtain ⟨report, -, hname, hshown⟩ := hentries entry hmem (of_decide_eq_true hexpired)
      rw [Function.comp_apply, hshown, shown_name, hname]
    rw [hnames]
    exact h.nodup.sublist (List.filter_sublist.map Prod.fst)
  · rw [hdata]
    refine (@List.pairwise_mergeSort DiagnosticItem _ ?_ ?_ _).imp of_decide_eq_true
    · intro a b c hab hbc
      exact decide_eq_true ((of_decide_eq_true hab).trans (of_decide_eq_true hbc))
    · intro a b
      rw [Bool.or_eq_true, decide_eq_true_eq, decide_eq_true_eq]
      exact le_total _ _
  · rw [refreshDiagnostics]
    split
    · intro hnone
      cases hnone
    · rename_i hempty
      intro hsome
      exact hempty (Option.some.inj hsome)

/-- An item takes the place of the last report of its name. -/
theorem Tracks.recorded (h : Tracks s reports now) (item : DiagnosticItem)
    (events : List Notice) :
    Tracks (recordItem now (s, events) item).1 (reports ++ [⟨item, now⟩]) now := by
  constructor
  · exact nodup_dictSet h.nodup item.name (item, now)
  · intro name
    simp only [recordItem, Server.lookup_dictSet]
    by_cases hname : name = item.name
    · rw [if_pos hname, hname, lastReport_append_self]
      rfl
    · rw [if_neg hname, lastReport_append_ne (Ne.symm hname), h.sources]
  · intro name
    simp only [recordItem, Server.lookup_dictSet]
    by_cases hname : name = item.name
    · rw [if_pos hname, hname, previousLevel, lastReport_append_self]
      rfl
    · rw [if_neg hname, previousLevel, lastReport_append_ne (Ne.symm hname), h.levels]
      rfl

theorem alarming_iff (level : DiagLevel) :
    level.alarming = true ↔ level ∈ [DiagLevel.warn, .error, .stale] := by
  cases level <;> decide

/-- The loop over the items of a call: the events it adds are announced. -/
theorem recorded_all (items : List DiagnosticItem) (h : Tracks s reports now)
    (events : List Notice) :
    ∃ announced, Announced now reports items announced ∧
      (items.foldl (recordItem now) (s, events)).2 = events ++ announced ∧
      Tracks (items.foldl (recordItem now) (s, events)).1
        (reports ++ items.map fun item => ⟨item, now⟩) now := by
  induction items generalizing s reports events with
  | nil =>
    refine ⟨[], .nil, (List.append_nil _).symm, ?_⟩
    rw [List.map_nil, List.append_nil]
    exact h
  | cons item items ih =>
    have hnext := h.recorded item events
    obtain ⟨announced, hannounced, hevents, htracks⟩ :=
      ih hnext (recordItem now (s, events) item).2
    rw [List.append_assoc] at htracks
    rw [List.foldl_cons]
    by_cases hattention : item.level.alarming ∧ s.levels.lookup item.name ≠ some item.level
    · refine ⟨item.attention :: announced, ?_, ?_, htracks⟩
      · exact .attention ((alarming_iff _).mp hattention.1) (h.levels _ ▸ hattention.2) hannounced
      · rw [hevents, recordItem, if_pos hattention, List.append_assoc, List.singleton_append]
    · by_cases hrecovery : item.level = .ok ∧
          (s.levels.lookup item.name).any DiagLevel.alarming
      · refine ⟨item.recovery :: announced, ?_, ?_, htracks⟩
        · obtain ⟨level, hlevel, halarm⟩ := (Option.any_eq_true _ _).mp hrecovery.2
          exact .recovery hrecovery.1 (h.levels _ ▸ hlevel) ((alarming_iff _).mp halarm) hannounced
        · rw [hevents, recordItem, if_neg hattention, if_pos hrecovery, List.append_assoc,
            List.singleton_append]
      · refine ⟨announced, ?_, ?_, htracks⟩
        · refine .quiet ?_ ?_ hannounced
          · intro hlevel
            rw [← h.levels]
            by_contra hnew
            exact hattention ⟨(alarming_iff _).mpr hlevel, hnew⟩
          · intro hok level hlevel hprevious
            rw [← h.levels] at hprevious
            exact hrecovery ⟨hok, by rw [hprevious]; exact (alarming_iff _).mpr hlevel⟩
        · rw [hevents, recordItem, if_neg hattention, if_neg hrecovery]

/-! ### Runs -/

variable (casefold : String → String)

theorem Tracks.refresh (h : Tracks s reports before) (hle : before ≤ now) :
    Tracks (refreshDiagnostics casefold now s) reports now := by
  obtain ⟨hnodup, hsources, hlevels⟩ := h.refreshed hle
  exact ⟨hnodup, hsources, hlevels⟩

/-- A call keeps the dictionaries in step, shows what they hold and announces what is new
    in them. -/
theorem Tracks.step (h : Tracks s reports before) (call : Call) (hle : before ≤ call.now) :
    Tracks ((diagnosticStore casefold).step s call).1 (reports ++ call.reports) call.now ∧
      Shows casefold call.now (reports ++ call.reports)
        ((diagnosticStore casefold).step s call).1.data ∧
      Announced call.now reports call.items ((diagnosticStore casefold).step s call).2 := by
  cases call with
  | record now items =>
    obtain ⟨announced, hannounced, hevents, htracks⟩ :=
      recorded_all items (h.refresh casefold hle) []
    refine ⟨?_, htracks.shows (le_refl now) casefold, ?_⟩
    · obtain ⟨hnodup, hsources, hlevels⟩ := htracks.refresh casefold (le_refl now)
      exact ⟨hnodup, hsources, hlevels⟩
    · rw [List.nil_append] at hevents
      exact hevents ▸ hannounced
  | recompute now =>
    have hreports : reports ++ (Call.recompute now).reports = reports := List.append_nil reports
    rw [hreports]
    exact ⟨h.refresh casefold hle, h.shows hle casefold, .nil⟩

/-- The clock does not go back. -/
def Nondecreasing (calls : List Call) : Prop :=
  calls.Pairwise fun call call' => call.now ≤ call'.now

theorem Tracks.run {calls : List Call} {call : Call} (h : Tracks s reports before)
    (hclock : Nondecreasing (calls ++ [call]))
    (hle : ∀ call' ∈ calls ++ [call], before ≤ call'.now) :
    ∃ last ≤ call.now,
      Tracks ((diagnosticStore casefold).run s calls) (reports ++ reportsOf calls) last := by
  induction calls generalizing s reports before with
  | nil =>
    refine ⟨before, hle call List.mem_cons_self, ?_⟩
    rw [reportsOf, List.flatMap_nil, List.append_nil]
    exact h
  | cons first calls ih =>
    obtain ⟨hfirst, hrest⟩ := List.pairwise_cons.mp hclock
    have hstep := (h.step casefold first (hle first List.mem_cons_self)).1
    obtain ⟨last, hlast, htracks⟩ := ih hstep hrest hfirst
    refine ⟨last, hlast, ?_⟩
    rw [reportsOf, List.flatMap_cons, ← List.append_assoc]
    exact htracks

theorem exists_tracks_run {calls : List Call} {call : Call}
    (hclock : Nondecreasing (calls ++ [call])) :
    ∃ last ≤ call.now,
      Tracks ((diagnosticStore casefold).run {} calls) (reportsOf calls) last := by
  cases calls with
  | nil => exact ⟨call.now, le_refl _, Tracks.initial _⟩
  | cons first calls =>
    have hle : ∀ call' ∈ first :: calls ++ [call], first.now ≤ call'.now := by
      intro call' hmem
      rcases List.mem_cons.mp hmem with rfl | hmem
      · exact le_refl _
      · exact (List.pairwise_cons.mp hclock).1 call' hmem
    exact (Tracks.initial first.now).run casefold hclock hle

/-- A warning of one source and the fault of another. -/
def faults : Call :=
  .record 0 [⟨"Battery", .warn, "Low", none⟩, ⟨"Laser", .error, "No scan", none⟩]

/-- The recovery of the second one, 40 seconds later. -/
def laserRecovers : Call := .record 40 [⟨"Laser", .ok, "Running", none⟩]

end PatrolBot.Diagnostics
