import Mathlib.Algebra.BigOperators.Ring.List
import Mathlib.Algebra.Order.BigOperators.Group.List
import Mathlib.Algebra.Order.Field.Basic
import Mathlib.Tactic.FieldSimp
import Mathlib.Tactic.Linarith
import Mathlib.Tactic.Ring

/-!
# Least squares

The line through points that minimises the squares of the errors, by its slope.  Where
the points lie on a line, that is the line.
-/

namespace PatrolBot.LeastSquares

variable {K : Type*} [Field K]

def mean (xs : List K) : K := xs.sum / xs.length

/-- The sum of the squared distances from the mean. -/
def spread (xs : List K) : K := (xs.map fun x => (x - mean xs) ^ 2).sum

/-- The sum of the products of the distances from the two means. -/
def comoment (xs ys : List K) : K :=
  (List.zipWith (fun x y => (x - mean xs) * (y - mean ys)) xs ys).sum

theorem sum_line (a m : K) (xs : List K) :
    (xs.map fun x => a + m * x).sum = xs.length * a + m * xs.sum := by
  induction xs with
  | nil => simp
  | cons x xs ih =>
    rw [List.map_cons, List.sum_cons, List.sum_cons, ih, List.length_cons]
    push_cast
    ring

theorem mean_line (a m : K) {xs : List K} (hxs : (xs.length : K) ≠ 0) :
    mean (xs.map fun x => a + m * x) = a + m * mean xs := by
  unfold mean
  rw [sum_line, List.length_map]
  field_simp

/-- For points on a line the products are the squares, times the slope. -/
theorem comoment_line (a m : K) {xs : List K} (hxs : (xs.length : K) ≠ 0) :
    comoment xs (xs.map fun x => a + m * x) = m * spread xs := by
  unfold comoment spread
  rw [mean_line a m hxs, List.zipWith_map_right, List.zipWith_self, ← List.sum_map_mul_left]
  apply congrArg List.sum
  apply List.map_congr_left
  intro x _
  ring

variable [LinearOrder K] [IsStrictOrderedRing K]

theorem spread_pos {xs : List K} {x y : K} (hx : x ∈ xs) (hy : y ∈ xs) (hne : x ≠ y) :
    0 < spread xs := by
  obtain ⟨z, hz, haway⟩ : ∃ z ∈ xs, z ≠ mean xs := by
    by_cases hmean : x = mean xs
    · exact ⟨y, hy, fun hsame => hne (hmean.trans hsame.symm)⟩
    · exact ⟨x, hx, hmean⟩
  have hsquare : 0 < (z - mean xs) ^ 2 := by
    have hapart : z - mean xs ≠ 0 := sub_ne_zero.mpr haway
    positivity
  apply hsquare.trans_le
  apply List.single_le_sum
  · intro square hmem
    obtain ⟨x, -, rfl⟩ := List.mem_map.mp hmem
    exact sq_nonneg _
  · exact List.mem_map_of_mem hz

/-- **Least squares recover a line.** -/
theorem slope_line (a m : K) {xs : List K} {x y : K} (hx : x ∈ xs) (hy : y ∈ xs) (hne : x ≠ y) :
    comoment xs (xs.map fun x => a + m * x) / spread xs = m := by
  have hlength : (xs.length : K) ≠ 0 := by
    have hpos : 0 < xs.length := List.length_pos_of_mem hx
    exact_mod_cast hpos.ne'
  rw [comoment_line a m hlength]
  exact mul_div_cancel_right₀ m (spread_pos hx hy hne).ne'

end PatrolBot.LeastSquares
