import Mathlib.Data.List.Sort
import Mathlib.Order.Defs.LinearOrder

/-!
# Tables that keep their newest rows

A table from which only the rows with the greatest keys are kept.  A row stays until there
are enough newer ones, and however often the table was cut before.
-/

namespace Retention

variable {Row Key : Type*} [LinearOrder Key] (key : Row → Key)

/-- The rows that a query with `ORDER BY key DESC LIMIT limit` finds. -/
def newest (limit : Nat) (rows : List Row) : List Row :=
  (rows.mergeSort fun row row' => decide (key row' ≤ key row)).take limit

/-- How many rows are newer. -/
def newer (row : Row) (rows : List Row) : Nat :=
  rows.countP fun row' => decide (key row < key row')

/-- The row is there, or enough newer ones are. -/
def Kept (limit : Nat) (row : Row) (rows : List Row) : Prop :=
  row ∈ rows ∨ limit ≤ newer key row rows

variable {key} {limit : Nat} {row : Row} {rows : List Row}

theorem pairwise_sorted (rows : List Row) :
    (rows.mergeSort fun row row' => decide (key row' ≤ key row)).Pairwise
      fun row row' => key row' ≤ key row := by
  have hsorted := @List.pairwise_mergeSort _ (fun row row' => decide (key row' ≤ key row))
    ?_ ?_ rows
  · exact hsorted.imp fun {row row'} h => of_decide_eq_true h
  · intro a b c hab hbc
    exact decide_eq_true (le_trans (of_decide_eq_true hbc) (of_decide_eq_true hab))
  · intro a b
    rcases le_total (key a) (key b) with h | h
    · simp [h]
    · simp [h]

theorem newer_perm {rows' : List Row} (h : rows.Perm rows') :
    newer key row rows = newer key row rows' :=
  h.countP_eq _

theorem newer_cons (first : Row) :
    newer key row (first :: rows) = newer key row rows + if key row < key first then 1 else 0 := by
  simp [newer, List.countP_cons]

/-- Of what is older than a row nothing is newer than it. -/
theorem newer_eq_zero (h : ∀ other ∈ rows, key other ≤ key row) : newer key row rows = 0 := by
  rw [newer, List.countP_eq_zero]
  intro other hother
  simpa using h other hother

theorem newest_subset : newest key limit rows ⊆ rows := by
  intro row hrow
  exact List.mem_mergeSort.mp (List.mem_of_mem_take hrow)

theorem nodup_newest (h : (rows.map key).Nodup) : ((newest key limit rows).map key).Nodup := by
  have hsorted := ((List.mergeSort_perm rows fun row row' =>
    decide (key row' ≤ key row)).map key).nodup_iff.mpr h
  exact hsorted.sublist ((List.take_sublist _ _).map key)

/-- In a sorted table the newer rows come before the row. -/
private theorem mem_take_of_newer_lt {rows : List Row}
    (hsorted : rows.Pairwise fun row row' => key row' ≤ key row) (hnodup : (rows.map key).Nodup)
    (hrow : row ∈ rows) (h : newer key row rows < limit) : row ∈ rows.take limit := by
  induction rows generalizing limit with
  | nil => cases hrow
  | cons first rows ih =>
    obtain ⟨limit, rfl⟩ := Nat.exists_eq_succ_of_ne_zero (Nat.ne_zero_of_lt h)
    obtain ⟨hfirst, htail⟩ := List.pairwise_cons.mp hsorted
    rw [List.map_cons, List.nodup_cons] at hnodup
    rw [List.take_succ_cons]
    rcases List.mem_cons.mp hrow with rfl | hrow
    · exact List.mem_cons_self
    · have hne : key row ≠ key first := by
        intro heq
        exact hnodup.1 (heq ▸ List.mem_map_of_mem hrow)
      rw [newer_cons, if_pos (lt_of_le_of_ne (hfirst row hrow) hne)] at h
      exact List.mem_cons_of_mem first (ih htail hnodup.2 hrow (Nat.lt_of_succ_lt_succ h))

/-- In a sorted table the first rows are newer when enough rows are. -/
private theorem le_newer_take {rows : List Row}
    (hsorted : rows.Pairwise fun row row' => key row' ≤ key row)
    (h : limit ≤ newer key row rows) : limit ≤ newer key row (rows.take limit) := by
  induction rows generalizing limit with
  | nil => simpa using h
  | cons first rows ih =>
    cases limit with
    | zero => exact Nat.zero_le _
    | succ limit =>
      obtain ⟨hfirst, htail⟩ := List.pairwise_cons.mp hsorted
      rw [List.take_succ_cons, newer_cons]
      rw [newer_cons] at h
      by_cases hlt : key row < key first
      · rw [if_pos hlt] at h ⊢
        exact Nat.succ_le_succ (ih htail (Nat.le_of_succ_le_succ h))
      · have hzero : newer key row rows = 0 :=
          newer_eq_zero fun other hother => le_trans (hfirst other hother) (not_lt.mp hlt)
        rw [if_neg hlt, hzero] at h
        omega

theorem mem_newest (hnodup : (rows.map key).Nodup) (hrow : row ∈ rows)
    (h : newer key row rows < limit) : row ∈ newest key limit rows := by
  have hperm := List.mergeSort_perm rows fun row row' => decide (key row' ≤ key row)
  refine mem_take_of_newer_lt (pairwise_sorted rows) ?_ (hperm.mem_iff.mpr hrow) ?_
  · exact (hperm.map key).nodup_iff.mpr hnodup
  · rwa [newer_perm hperm]

theorem le_newer_newest (h : limit ≤ newer key row rows) :
    limit ≤ newer key row (newest key limit rows) := by
  refine le_newer_take (pairwise_sorted rows) ?_
  rwa [newer_perm (List.mergeSort_perm rows _)]

namespace Kept

/-- A row that is kept is found by every query that is short enough, unless the rows that
    are found instead are newer. -/
theorem query {few : Nat} (h : Kept key limit row rows) (hfew : few ≤ limit)
    (hnodup : (rows.map key).Nodup) :
    row ∈ newest key few rows ∨ few ≤ newer key row (newest key few rows) := by
  by_cases hnewer : few ≤ newer key row rows
  · exact Or.inr (le_newer_newest hnewer)
  · rcases h with hrow | hlimit
    · exact Or.inl (mem_newest hnodup hrow (Nat.lt_of_not_le hnewer))
    · exact absurd (Nat.le_trans hfew hlimit) hnewer

/-- The cut keeps what is kept. -/
theorem cut (h : Kept key limit row rows) (hnodup : (rows.map key).Nodup) :
    Kept key limit row (newest key limit rows) :=
  h.query (Nat.le_refl limit) hnodup

theorem concat (h : Kept key limit row rows) (other : Row) :
    Kept key limit row (rows ++ [other]) := by
  rcases h with hrow | hlimit
  · exact Or.inl (List.mem_append_left _ hrow)
  · refine Or.inr (Nat.le_trans hlimit ?_)
    simp only [newer, List.countP_append]
    exact Nat.le_add_right _ _

theorem perm {rows' : List Row} (h : Kept key limit row rows) (hperm : rows.Perm rows') :
    Kept key limit row rows' := by
  rcases h with hrow | hlimit
  · exact Or.inl (hperm.mem_iff.mp hrow)
  · exact Or.inr (by rwa [← newer_perm hperm])

/-- There is always something as new as a row that is kept. -/
theorem exists_ge (h : Kept key limit row rows) (hlimit : 0 < limit) :
    ∃ other ∈ rows, key row ≤ key other := by
  rcases h with hrow | hnewer
  · exact ⟨row, hrow, le_refl _⟩
  · obtain ⟨other, hother, hlt⟩ := List.countP_pos_iff.mp (Nat.lt_of_lt_of_le hlimit hnewer)
    exact ⟨other, hother, le_of_lt (of_decide_eq_true hlt)⟩

end Kept

end Retention
