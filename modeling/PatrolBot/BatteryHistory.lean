import Mathlib.Data.List.Sort
import PatrolBot.Library.Calendar
import PatrolBot.Py

/-!
# The battery log

`add_battery_sample` and `get_battery_history` of `database/repo.py`, over samples stamped
by `utc_now`.  The queries compare the texts of the stamps with `datetime('now', …)`, a
text of another format: a sample of the cut-off's day counts as newer than the cut-off
whatever its time.
-/

namespace PatrolBot

open Calendar

/-- A row of `battery_samples`; `ts` is the moment whose text is stored. -/
structure BatterySample where
  robotId : String
  ts : Moment
  voltage : PyFloat
  percentage : Option PyFloat
  current : Option PyFloat
  charging : Bool
deriving DecidableEq

namespace Calendar.Moment

/-- The moment that many milliseconds earlier, from the year 0 on. -/
def before (now : Moment) (millis : Nat) : Moment :=
  ⟨now.millis - millis, Nat.lt_of_le_of_lt (Nat.sub_le _ _) now.inYears⟩

def minutesAgo (now : Moment) (minutes : Nat) : Moment := now.before (minutes * 60000)

def weekAgo (now : Moment) : Moment := now.before (7 * 86400000)

end Calendar.Moment

namespace BatterySample

/-- `ts < datetime('now', …)`. -/
def textBefore (row : BatterySample) (cutoff : Moment) : Bool :=
  less row.ts.stamp cutoff.datetime

/-- `ORDER BY ts DESC`. -/
def descending (row row' : BatterySample) : Bool := !less row.ts.stamp row'.ts.stamp

end BatterySample

/-- `add_battery_sample`. -/
def addBatterySample (now : Moment) (sample : BatterySample) (rows : List BatterySample) :
    List BatterySample :=
  (rows ++ [sample]).filter fun row => !row.textBefore now.weekAgo

/-- `get_battery_history`. -/
def getBatteryHistory (now : Moment) (minutes limit : Nat) (rows : List BatterySample) :
    List BatterySample :=
  (((rows.filter fun row => !row.textBefore (now.minutesAgo minutes)).mergeSort
    BatterySample.descending).take limit).reverse

namespace BatterySample

/-! ### What the comparisons decide -/

theorem textBefore_eq (row : BatterySample) (cutoff : Moment) :
    row.textBefore cutoff = decide (row.ts.day < cutoff.day) :=
  Moment.less_datetime row.ts cutoff

theorem descending_eq (row row' : BatterySample) :
    row.descending row' = decide (row'.ts.millis ≤ row.ts.millis) := by
  rw [descending, Moment.less_stamp, ← decide_not]
  exact decide_eq_decide.mpr Nat.not_lt

theorem day_le_of_millis_le {moment other : Moment} (h : moment.millis ≤ other.millis) :
    moment.day ≤ other.day := by
  unfold Moment.day
  omega

/-- The samples that are newer than a row. -/
def newer (row : BatterySample) (rows : List BatterySample) : Nat :=
  rows.countP fun row' => decide (row.ts.millis < row'.ts.millis)

theorem pairwise_descending (rows : List BatterySample) :
    (rows.mergeSort descending).Pairwise fun row row' => row'.ts.millis ≤ row.ts.millis := by
  have hsorted := @List.pairwise_mergeSort BatterySample descending ?_ ?_ rows
  · refine hsorted.imp ?_
    intro row row' h
    rwa [descending_eq, decide_eq_true_eq] at h
  · intro a b c hab hbc
    rw [descending_eq, decide_eq_true_eq] at *
    omega
  · intro a b
    rw [descending_eq, descending_eq, Bool.or_eq_true, decide_eq_true_eq, decide_eq_true_eq]
    omega

/-- A row among the first `limit` has fewer than `limit` newer rows. -/
theorem newer_lt_of_mem_take {rows : List BatterySample}
    (hsorted : rows.Pairwise fun row row' => row'.ts.millis ≤ row.ts.millis) {limit : Nat}
    {row : BatterySample} (h : row ∈ rows.take limit) : row.newer rows < limit := by
  induction rows generalizing limit with
  | nil => simp at h
  | cons first rows ih =>
    cases limit with
    | zero => simp at h
    | succ limit =>
      obtain ⟨hfirst, htail⟩ := List.pairwise_cons.mp hsorted
      rw [List.take_succ_cons, List.mem_cons] at h
      rcases h with rfl | h
      · have hnone : row.newer (row :: rows) = 0 := by
          rw [newer, List.countP_eq_zero]
          intro other hother
          rcases List.mem_cons.mp hother with rfl | hother
          · simp
          · simpa using hfirst other hother
        omega
      · have hcount := ih htail h
        have hle : row.newer (first :: rows) ≤ row.newer rows + 1 := by
          rw [newer, List.countP_cons]
          unfold newer
          split <;> omega
        omega

/-- A row with fewer than `limit` newer rows is among the first `limit`, or a row with
    the same stamp is. -/
theorem exists_mem_take_of_newer_lt {rows : List BatterySample}
    (hsorted : rows.Pairwise fun row row' => row'.ts.millis ≤ row.ts.millis) {limit : Nat}
    {row : BatterySample} (hrow : row ∈ rows) (h : row.newer rows < limit) :
    ∃ row' ∈ rows.take limit, row'.ts = row.ts := by
  induction rows generalizing limit with
  | nil => cases hrow
  | cons first rows ih =>
    obtain ⟨limit, rfl⟩ := Nat.exists_eq_succ_of_ne_zero (Nat.ne_zero_of_lt h)
    obtain ⟨hfirst, htail⟩ := List.pairwise_cons.mp hsorted
    rw [List.take_succ_cons]
    rcases List.mem_cons.mp hrow with rfl | hrow
    · exact ⟨row, List.mem_cons_self, rfl⟩
    · have hle := hfirst row hrow
      rcases Nat.eq_or_lt_of_le hle with heq | hlt
      · have hstamp : first.ts = row.ts := by
          cases hts : first.ts
          cases hts' : row.ts
          simp_all
        exact ⟨first, List.mem_cons_self, hstamp⟩
      · have hcount : row.newer (first :: rows) = row.newer rows + 1 := by
          rw [newer, List.countP_cons, if_pos (decide_eq_true hlt)]
          rfl
        obtain ⟨other, hother, hts⟩ := ih htail hrow (show row.newer rows < limit by omega)
        exact ⟨other, List.mem_cons_of_mem first hother, hts⟩

/-! ### The history -/

section

variable {now : Moment} {minutes limit : Nat} {rows : List BatterySample}

/-- Within the last minutes. -/
def Within (now : Moment) (minutes : Nat) (row : BatterySample) : Prop :=
  (now.minutesAgo minutes).millis ≤ row.ts.millis ∧ row.ts.millis ≤ now.millis

instance (now : Moment) (minutes : Nat) : DecidablePred (Within now minutes) :=
  fun _ => inferInstanceAs (Decidable (_ ∧ _))

/-- The rows of the cut-off's day and later. -/
def selected (now : Moment) (minutes : Nat) (rows : List BatterySample) : List BatterySample :=
  rows.filter fun row => !row.textBefore (now.minutesAgo minutes)

theorem mem_selected {row : BatterySample} :
    row ∈ selected now minutes rows ↔
      row ∈ rows ∧ (now.minutesAgo minutes).day ≤ row.ts.day := by
  rw [selected, List.mem_filter, textBefore_eq, ← decide_not, decide_eq_true_eq, Nat.not_lt]

/-- What is newer than a selected row is selected. -/
theorem newer_selected {row : BatterySample} (h : row ∈ selected now minutes rows) :
    row.newer (selected now minutes rows) = row.newer rows := by
  obtain ⟨-, hday⟩ := mem_selected.mp h
  rw [newer, newer, selected, List.countP_filter]
  refine List.countP_congr ?_
  intro other _
  rw [textBefore_eq, Bool.and_eq_true, ← decide_not, decide_eq_true_eq, decide_eq_true_eq]
  constructor
  · exact And.left
  · intro hlt
    have hle := day_le_of_millis_le (Nat.le_of_lt hlt)
    exact ⟨hlt, by omega⟩

theorem newer_sorted (row : BatterySample) (rows : List BatterySample) :
    row.newer (rows.mergeSort descending) = row.newer rows :=
  (List.mergeSort_perm rows descending).countP_eq _

theorem mem_history {row : BatterySample}
    (h : row ∈ getBatteryHistory now minutes limit rows) :
    row ∈ rows ∧ (now.minutesAgo minutes).day ≤ row.ts.day ∧ row.newer rows < limit := by
  have htake := List.mem_reverse.mp h
  have hselected : row ∈ selected now minutes rows :=
    (List.mergeSort_perm _ descending).mem_iff.mp (List.mem_of_mem_take htake)
  have hcount := newer_lt_of_mem_take (pairwise_descending _) htake
  rw [newer_sorted] at hcount
  obtain ⟨hrow, hday⟩ := mem_selected.mp hselected
  exact ⟨hrow, hday, newer_selected hselected ▸ hcount⟩

theorem history_of_newer_lt {row : BatterySample} (hrow : row ∈ rows)
    (hday : (now.minutesAgo minutes).day ≤ row.ts.day) (h : row.newer rows < limit) :
    ∃ row' ∈ getBatteryHistory now minutes limit rows, row'.ts = row.ts := by
  have hselected : row ∈ selected now minutes rows := mem_selected.mpr ⟨hrow, hday⟩
  rw [← newer_selected hselected, ← newer_sorted] at h
  obtain ⟨row', hrow', hts⟩ := exists_mem_take_of_newer_lt (pairwise_descending _)
    ((List.mergeSort_perm _ descending).mem_iff.mpr hselected) h
  exact ⟨row', List.mem_reverse.mpr hrow', hts⟩

/-- The history holds only rows of the last minutes. -/
def KeepsWindow (now : Moment) (minutes limit : Nat) (rows : List BatterySample) : Prop :=
  ∀ row ∈ getBatteryHistory now minutes limit rows, row.Within now minutes

/-- A row outside the last minutes is returned unless it is of a day before that of the
    cut-off, or `limit` rows are newer. -/
theorem keepsWindow_iff :
    KeepsWindow now minutes limit rows ↔
      ∀ row ∈ rows, ¬ row.Within now minutes →
        row.ts.day < (now.minutesAgo minutes).day ∨ limit ≤ row.newer rows := by
  constructor
  · intro h row hrow houtside
    by_contra hnot
    rw [not_or, Nat.not_lt, Nat.not_le] at hnot
    obtain ⟨hday, hcount⟩ := hnot
    obtain ⟨row', hrow', hts⟩ := history_of_newer_lt hrow hday hcount
    have hwithin := h row' hrow'
    rw [Within, hts] at hwithin
    exact houtside hwithin
  · intro h row hrow
    obtain ⟨hmem, hday, hcount⟩ := mem_history hrow
    by_contra houtside
    rcases h row hmem houtside with hbefore | hlimit
    · omega
    · omega

end

/-! ### The purge -/

/-- Older than seven days. -/
def Expired (now : Moment) (row : BatterySample) : Prop := row.ts.millis < now.weekAgo.millis

instance (now : Moment) : DecidablePred (Expired now) :=
  fun _ => inferInstanceAs (Decidable (_ < _))

/-- The purge deletes exactly the rows older than seven days. -/
def PurgesExpired (now : Moment) (sample : BatterySample) (rows : List BatterySample) : Prop :=
  addBatterySample now sample rows =
    (rows ++ [sample]).filter fun row => decide (¬ row.Expired now)

theorem textBefore_weekAgo_iff (now : Moment) (row : BatterySample) :
    (!row.textBefore now.weekAgo) = decide (¬ row.Expired now) ↔
      (row.Expired now → row.ts.day < now.weekAgo.day) := by
  have hday : row.ts.day < now.weekAgo.day → row.Expired now := by
    intro hlt
    by_contra hkept
    have hle := day_le_of_millis_le (Nat.not_lt.mp hkept)
    omega
  rw [textBefore_eq, ← decide_not, decide_eq_decide, not_iff_not]
  exact ⟨Iff.mpr, fun h => ⟨hday, h⟩⟩

/-- The purge leaves the expired rows of the cut-off's day. -/
theorem purgesExpired_iff {now : Moment} {sample : BatterySample} {rows : List BatterySample} :
    PurgesExpired now sample rows ↔
      ∀ row ∈ rows ++ [sample], row.Expired now → row.ts.day < now.weekAgo.day := by
  constructor
  · intro h row hrow
    have hmem : row ∈ addBatterySample now sample rows ↔
        row ∈ (rows ++ [sample]).filter fun row => decide (¬ row.Expired now) := by
      rw [show addBatterySample now sample rows = _ from h]
    simp only [addBatterySample, List.mem_filter, hrow, true_and] at hmem
    exact (textBefore_weekAgo_iff now row).mp (Bool.eq_iff_iff.mpr hmem)
  · intro h
    apply List.filter_congr
    intro row hrow
    exact (textBefore_weekAgo_iff now row).mpr (h row hrow)

/-! ### Both windows -/

theorem windows_iff (now : Moment) (minutes limit : Nat) (sample : BatterySample)
    (rows : List BatterySample) :
    KeepsWindow now minutes limit rows ∧ PurgesExpired now sample rows ↔
      (∀ row ∈ rows, ¬ row.Within now minutes →
        row.ts.day < (now.minutesAgo minutes).day ∨ limit ≤ row.newer rows) ∧
      ∀ row ∈ rows ++ [sample], row.Expired now → row.ts.day < now.weekAgo.day := by
  rw [keepsWindow_iff, purgesExpired_iff]

/-- Noon of 2026-07-28. -/
def noon : Moment := ⟨740190 * 86400000 + 43200000, by decide⟩

def sampleAt (ts : Moment) : BatterySample := ⟨"r1", ts, .finite 25, none, none, false⟩

/-- One sample from 00:30 of that day, and one from 00:30 of the same day of the week
    before. -/
def nightSamples : List BatterySample :=
  [sampleAt (noon.before (7 * 86400000 + 41400000)), sampleAt (noon.before 41400000)]

/-- The history of the last hour holds the sample of the night, and the purge leaves the
    one that is seven and a half days old. -/
theorem not_windows_noon :
    ¬ KeepsWindow noon 60 2000 nightSamples ∧
      ¬ PurgesExpired noon (sampleAt noon) nightSamples := by
  rw [keepsWindow_iff, purgesExpired_iff]
  decide +kernel

end BatterySample

end PatrolBot
