import Mathlib.Algebra.Order.Round
import Mathlib.Data.Int.Log
import Mathlib.Data.Rat.Floor
import Mathlib.Tactic.FieldSimp
import Mathlib.Tactic.Linarith
import Mathlib.Tactic.NormNum

/-!
# Rounding to a double

Binary64 keeps 53 significant bits and no step below `2^-1074`.  A rational is
rounded to a multiple of the step at its own magnitude, to the nearest one and
from halfway to the even one; the error is then relative, except near zero.
Overflow is left to the caller: the grid here has no largest element.
-/

namespace Binary64

/-- The nearest integer, the even one of two. -/
def halfEven (x : ℚ) : ℤ :=
  if Int.fract x < 1 / 2 then ⌊x⌋
  else if 1 / 2 < Int.fract x then ⌊x⌋ + 1
  else if ⌊x⌋ % 2 = 0 then ⌊x⌋ else ⌊x⌋ + 1

/-- The distance of neighbouring doubles at the magnitude of `q`. -/
def step (q : ℚ) : ℚ := 2 ^ max (Int.log 2 |q| - 52) (-1074)

/-- The double nearest to `q`. -/
def round (q : ℚ) : ℚ := halfEven (q / step q) * step q

/-- The largest relative error, `2^-53`. -/
def unitRoundoff : ℚ := 1 / 2 ^ 53

/-- Half the least subnormal, `2^-1075`. -/
def underflow : ℚ := 1 / 2 ^ 1075

theorem unitRoundoff_nonneg : 0 ≤ unitRoundoff :=
  one_div_nonneg.mpr (pow_nonneg (by norm_num) 53)

theorem underflow_nonneg : 0 ≤ underflow :=
  one_div_nonneg.mpr (pow_nonneg (by norm_num) 1075)

theorem step_pos (q : ℚ) : 0 < step q := zpow_pos (by norm_num) _

theorem abs_halfEven_sub_le (x : ℚ) : |halfEven x - x| ≤ 1 / 2 := by
  have hsplit : (⌊x⌋ : ℚ) + Int.fract x = x := Int.floor_add_fract x
  unfold halfEven
  split
  · rename_i hbelow
    have hpos : 0 ≤ Int.fract x := Int.fract_nonneg x
    rw [abs_le]
    constructor <;> linarith
  · rename_i hbelow
    have hlt : Int.fract x < 1 := Int.fract_lt_one x
    split
    · rw [abs_le]
      push_cast
      constructor <;> linarith
    · rename_i habove
      have hhalf : Int.fract x = 1 / 2 :=
        le_antisymm (not_lt.mp habove) (not_lt.mp hbelow)
      split
      · rw [abs_le]
        constructor <;> linarith
      · rw [abs_le]
        push_cast
        constructor <;> linarith

theorem halfEven_intCast (n : ℤ) : halfEven n = n := by
  have hfract : Int.fract (n : ℚ) = 0 := Int.fract_intCast n
  unfold halfEven
  rw [hfract]
  norm_num

/-- The step is small against the number, or the least there is. -/
theorem half_step_le {q : ℚ} (hq : q ≠ 0) : step q / 2 ≤ unitRoundoff * |q| + underflow := by
  have hpos : 0 < |q| := abs_pos.mpr hq
  have hrelative : 0 ≤ unitRoundoff * |q| := mul_nonneg unitRoundoff_nonneg hpos.le
  unfold step
  rcases le_total (Int.log 2 |q| - 52) (-1074) with hsmall | hlarge
  · have hleast : (2 : ℚ) ^ (-1074 : ℤ) / 2 = underflow := by
      have htwo : (2 : ℚ) ^ (-1075 : ℤ) = 2 ^ (-1074 : ℤ) / 2 := zpow_sub_one₀ (by norm_num) (-1074)
      rw [← htwo, underflow, one_div]
      exact zpow_neg_coe_of_pos 2 (by norm_num)
    rw [max_eq_right hsmall]
    linarith
  · have hlog : ((2 : ℕ) : ℚ) ^ Int.log 2 |q| ≤ |q| := Int.zpow_log_le_self (by norm_num) hpos
    have hshift : (2 : ℚ) ^ (Int.log 2 |q| - 52) = 2 ^ Int.log 2 |q| / 2 ^ 52 := by
      rw [zpow_sub₀ (by norm_num)]
      norm_cast
    rw [max_eq_left hlarge, hshift]
    push_cast at hlog
    have hunder : 0 ≤ underflow := underflow_nonneg
    unfold unitRoundoff
    linarith

/-- A double is as near as half a unit in the last place. -/
theorem abs_round_sub_le (q : ℚ) : |round q - q| ≤ unitRoundoff * |q| + underflow := by
  rcases eq_or_ne q 0 with rfl | hq
  · have hzero : round 0 = 0 := by
      have hnone : halfEven 0 = 0 := halfEven_intCast 0
      simp [round, hnone]
    rw [hzero]
    simpa using underflow_nonneg
  · have hstep : 0 < step q := step_pos q
    have hscaled : round q - q = (halfEven (q / step q) - q / step q) * step q := by
      rw [sub_mul, div_mul_cancel₀ q hstep.ne']
      rfl
    calc |round q - q| = |halfEven (q / step q) - q / step q| * step q := by
          rw [hscaled, abs_mul, abs_of_pos hstep]
      _ ≤ 1 / 2 * step q :=
          mul_le_mul_of_nonneg_right (abs_halfEven_sub_le _) hstep.le
      _ = step q / 2 := by ring
      _ ≤ unitRoundoff * |q| + underflow := half_step_le hq

end Binary64
