import PatrolBot.Library.Binary64
import PatrolBot.Py

/-!
# Python arithmetic

`+`, `-` and `*` of the two number types: integers are exact, and a `float` on
either side makes the other one a double, or raises if it is too large for one.
The result of a `float` operation is rounded.  Where the rounding plays no part
the same operations are read over exact rationals.
-/

namespace PatrolBot

namespace PyFloat

/-- `-x`. -/
def neg : PyFloat → PyFloat
  | .finite x => .finite (-x)
  | .inf negative => .inf (!negative)
  | .nan => .nan

/-- `abs(x)`. -/
def abs : PyFloat → PyFloat
  | .finite x => .finite |x|
  | .inf _ => .inf false
  | .nan => .nan

/-- `x * y`. -/
def mul : PyFloat → PyFloat → PyFloat
  | .finite x, .finite y => .finite (x * y)
  | .finite x, .inf negative => if x = 0 then .nan else .inf (negative != decide (x < 0))
  | .inf negative, .finite y => if y = 0 then .nan else .inf (negative != decide (y < 0))
  | .inf left, .inf right => .inf (left != right)
  | _, _ => .nan

/-- The double an exact result becomes. -/
def rounded : PyFloat → PyFloat
  | .finite x =>
    if |Binary64.round x| < 2 ^ 1024 then .finite (Binary64.round x) else .inf (decide (x < 0))
  | x => x

end PyFloat

/-- A value an arithmetic operation takes. -/
inductive Number where
  | int (value : Int)
  | float (value : PyFloat)
deriving DecidableEq

/-- The number a value counts as, a `bool` being 0 or 1; a `TypeError` otherwise. -/
def operand : Json → Option Number
  | .bool value => some (.int (if value then 1 else 0))
  | .int value => some (.int value)
  | .float value => some (.float value)
  | _ => none

namespace Number

/-- The value in comparisons, which are exact across the two types. -/
def order : Number → PyFloat
  | .int n => .finite n
  | .float x => x

/-- The value of a finite number. -/
def real : Number → Option ℚ
  | .int n => some n
  | .float (.finite x) => some x
  | .float _ => none

/-- `-x`. -/
def neg : Number → Number
  | .int n => .int (-n)
  | .float x => .float x.neg

/-- `abs(x)`. -/
def abs : Number → Number
  | .int n => .int |n|
  | .float x => .float x.abs

end Number

/-- How a `float` is made of an `int` and of an exact result. -/
structure Arithmetic where
  ofInt : Int → Option PyFloat
  rounded : PyFloat → PyFloat

namespace Arithmetic

/-- Doubles. -/
def binary64 : Arithmetic := ⟨fun n => (floatOfInt n).map .finite, PyFloat.rounded⟩

/-- Floats as the exact rationals they are. -/
def exact : Arithmetic := ⟨fun n => some (.finite n), id⟩

variable (arithmetic : Arithmetic)

/-- `float(x)`. -/
def toFloat : Number → Option PyFloat
  | .int n => arithmetic.ofInt n
  | .float x => some x

/-- `left + right`. -/
def add : Number → Number → Option Number
  | .int m, .int n => some (.int (m + n))
  | left, right => do
    let x ← arithmetic.toFloat left
    let y ← arithmetic.toFloat right
    pure (.float (arithmetic.rounded (x.add y)))

/-- `left - right`, which is `left + -right` in both types. -/
def sub (left right : Number) : Option Number := arithmetic.add left right.neg

/-- `left * right`. -/
def mul : Number → Number → Option Number
  | .int m, .int n => some (.int (m * n))
  | left, right => do
    let x ← arithmetic.toFloat left
    let y ← arithmetic.toFloat right
    pure (.float (arithmetic.rounded (x.mul y)))

/-- `abs((left + right) - total) > tolerance`, unless an `OverflowError` comes
    first. -/
def exceeds (left right total tolerance : Number) : Option Bool := do
  let sum ← arithmetic.add left right
  let difference ← arithmetic.sub sum total
  pure (tolerance.order.lt difference.abs.order)

end Arithmetic

/-! ### What the rounding can hide -/

/-- A magnitude of 2^52 or more keeps 53 bits of itself. -/
theorem two_pow_mul_step_le {size : Nat} (h : 2 ^ 53 < size) :
    2 ^ 52 * 2 ^ (size.log2 - 52) ≤ size := by
  have hlog : 52 ≤ size.log2 := (Nat.le_log2 (by omega)).mpr (by omega)
  have hself : 2 ^ size.log2 ≤ size := Nat.log2_self_le (by omega)
  rw [← pow_add, Nat.add_sub_cancel' hlog]
  exact hself

/-- Halves rounded either way stay within half a step. -/
theorem abs_nearest_sub_le {unit low rest size : Nat} (hsplit : low * unit + rest = size)
    (hrest : rest < unit) (hbits : 2 ^ 52 * unit ≤ size) {nearest : Nat}
    (hnearest : nearest =
      if 2 * rest > unit ∨ (2 * rest = unit ∧ low % 2 = 1) then low + 1 else low) :
    2 ^ 53 * |((nearest * unit : Nat) : Int) - size| ≤ size := by
  split at hnearest
  · rename_i hup
    have hnext : nearest * unit = low * unit + unit := by rw [hnearest, Nat.add_mul, one_mul]
    rw [hnext, abs_of_nonneg (by omega)]
    omega
  · rename_i hdown
    rw [hnearest, abs_of_nonpos (by omega)]
    omega

/-- A sign put back keeps the distance. -/
theorem abs_sign_mul_sub_le {n : Int} {size : Nat}
    (h : 2 ^ 53 * |(size : Int) - n.natAbs| ≤ n.natAbs) :
    |((n.sign * (size : Int) : Int) : ℚ) - n| ≤ Binary64.unitRoundoff * |(n : ℚ)| := by
  have hsigned : |n.sign * (size : Int) - n| ≤ |(size : Int) - n.natAbs| := by
    rcases lt_trichotomy n 0 with hneg | rfl | hpos
    · rw [Int.sign_eq_neg_one_of_neg hneg, abs_sub_comm (size : Int)]
      apply le_of_eq
      congr 1
      omega
    · simp
    · rw [Int.sign_eq_one_of_pos hpos]
      apply le_of_eq
      congr 1
      omega
  have hint : 2 ^ 53 * |n.sign * (size : Int) - n| ≤ |n| := by
    rw [Int.abs_eq_natAbs n]
    omega
  have hcast : (2 : ℚ) ^ 53 * |((n.sign * (size : Int) : Int) : ℚ) - n| ≤ |(n : ℚ)| := by
    exact_mod_cast hint
  unfold Binary64.unitRoundoff
  rw [div_mul_eq_mul_div, one_mul, le_div_iff₀ (by norm_num), mul_comm]
  exact hcast

/-- `float(n)` is within half a unit in the last place. -/
theorem abs_floatOfInt_sub_le {n : Int} {x : ℚ} (h : floatOfInt n = some x) :
    |x - n| ≤ Binary64.unitRoundoff * |(n : ℚ)| := by
  unfold floatOfInt at h
  split at h
  · obtain rfl := Option.some.inj h
    rw [sub_self, abs_zero]
    exact mul_nonneg Binary64.unitRoundoff_nonneg (abs_nonneg _)
  · rename_i hlarge
    split at h
    · obtain rfl := Option.some.inj h
      have hbits : 2 ^ 52 * 2 ^ (n.natAbs.log2 - 52) ≤ n.natAbs :=
        two_pow_mul_step_le (not_le.mp hlarge)
      have hnear := abs_nearest_sub_le (Nat.div_add_mod' n.natAbs (2 ^ (n.natAbs.log2 - 52)))
        (Nat.mod_lt _ (Nat.two_pow_pos _)) hbits rfl
      exact abs_sign_mul_sub_le hnear
    · cases h

section

open Binary64 (unitRoundoff underflow unitRoundoff_nonneg underflow_nonneg)

variable {left right total tolerance number sum : Number} {x y l r t d v : ℚ}

theorem Number.real_neg (h : number.real = some v) : number.neg.real = some (-v) := by
  rcases number with n | (x | negative | _)
  · obtain rfl := Option.some.inj h
    simp [neg, real]
  · obtain rfl := Option.some.inj h
    rfl
  · cases h
  · cases h

theorem Number.order_of_real (h : number.real = some v) : number.order = .finite v := by
  rcases number with n | (x | negative | _)
  · obtain rfl := Option.some.inj h
    rfl
  · obtain rfl := Option.some.inj h
    rfl
  · cases h
  · cases h

theorem Number.order_abs_of_real (h : number.real = some v) :
    number.abs.order = .finite |v| := by
  rcases number with n | (x | negative | _)
  · obtain rfl := Option.some.inj h
    simp [abs, order]
  · obtain rfl := Option.some.inj h
    rfl
  · cases h
  · cases h

theorem PyFloat.finite_lt : PyFloat.lt (.finite x) (.finite y) = decide (x < y) := by
  by_cases h : x < y
  · simp [lt, le, h, h.le]
  · simp [lt, le, not_lt.mp h, h]

namespace Arithmetic

theorem toFloat_near {float : PyFloat} (h : binary64.toFloat number = some float)
    (hreal : number.real = some v) :
    ∃ x, float = .finite x ∧ |x - v| ≤ unitRoundoff * |v| := by
  rcases number with n | (x | negative | _)
  · obtain rfl := Option.some.inj hreal
    obtain ⟨x, hx, rfl⟩ := Option.map_eq_some_iff.mp h
    exact ⟨x, rfl, abs_floatOfInt_sub_le hx⟩
  · obtain rfl := Option.some.inj hreal
    obtain rfl := Option.some.inj h
    refine ⟨x, rfl, ?_⟩
    rw [sub_self, abs_zero]
    exact mul_nonneg unitRoundoff_nonneg (abs_nonneg _)
  · cases hreal
  · cases hreal

/-- The share of its operands a rounded sum can be off. -/
def slack (size : ℚ) : ℚ := 3 * unitRoundoff * size + underflow

theorem slack_nonneg {size : ℚ} (h : 0 ≤ size) : 0 ≤ slack size :=
  add_nonneg (mul_nonneg (mul_nonneg (by norm_num) unitRoundoff_nonneg) h) underflow_nonneg

theorem round_add_near (hx : |x - l| ≤ unitRoundoff * |l|) (hy : |y - r| ≤ unitRoundoff * |r|) :
    |Binary64.round (x + y) - (l + r)| ≤ slack (|l| + |r|) := by
  have hround := Binary64.abs_round_sub_le (x + y)
  have hsmall : unitRoundoff ≤ 1 := by
    unfold unitRoundoff
    norm_num
  have hxsize : |x| ≤ 2 * |l| := by
    have htriangle := abs_sub_abs_le_abs_sub x l
    have hscaled : unitRoundoff * |l| ≤ |l| := mul_le_of_le_one_left (abs_nonneg l) hsmall
    linarith
  have hysize : |y| ≤ 2 * |r| := by
    have htriangle := abs_sub_abs_le_abs_sub y r
    have hscaled : unitRoundoff * |r| ≤ |r| := mul_le_of_le_one_left (abs_nonneg r) hsmall
    linarith
  have hsum : unitRoundoff * |x + y| ≤ unitRoundoff * (2 * |l| + 2 * |r|) :=
    mul_le_mul_of_nonneg_left (by linarith [abs_add_le x y]) unitRoundoff_nonneg
  have hparts : Binary64.round (x + y) - (l + r) =
      (Binary64.round (x + y) - (x + y)) + ((x - l) + (y - r)) := by ring
  calc |Binary64.round (x + y) - (l + r)|
      ≤ |Binary64.round (x + y) - (x + y)| + (|x - l| + |y - r|) := by
        rw [hparts]
        exact (abs_add_le _ _).trans (add_le_add_right (abs_add_le _ _) _)
    _ ≤ slack (|l| + |r|) := by
        unfold slack
        linarith

theorem add_inexact {first second : PyFloat} (hl : left.real = some l) (hr : right.real = some r)
    (hfirst : binary64.toFloat left = some first) (hsecond : binary64.toFloat right = some second) :
    (∃ s, (Number.float (first.add second).rounded).real = some s ∧
      |s - (l + r)| ≤ slack (|l| + |r|)) ∨
    ∃ negative, (first.add second).rounded = .inf negative := by
  obtain ⟨x, rfl, hx⟩ := toFloat_near hfirst hl
  obtain ⟨y, rfl, hy⟩ := toFloat_near hsecond hr
  simp only [PyFloat.add, PyFloat.rounded]
  split
  · exact Or.inl ⟨_, rfl, round_add_near hx hy⟩
  · exact Or.inr ⟨_, rfl⟩

/-- A sum of finite numbers is near the exact one, or too large for a double. -/
theorem add_near (hl : left.real = some l) (hr : right.real = some r)
    (h : binary64.add left right = some sum) :
    (∃ s, sum.real = some s ∧ |s - (l + r)| ≤ slack (|l| + |r|)) ∨
      ∃ negative, sum = .float (.inf negative) := by
  have hfloat : ∀ first second, binary64.toFloat left = some first →
      binary64.toFloat right = some second → sum = .float (first.add second).rounded →
      (∃ s, sum.real = some s ∧ |s - (l + r)| ≤ slack (|l| + |r|)) ∨
        ∃ negative, sum = .float (.inf negative) := by
    intro first second hfirst hsecond hsum
    subst hsum
    rcases add_inexact hl hr hfirst hsecond with hnear | hinf
    · exact Or.inl hnear
    · obtain ⟨negative, hinf⟩ := hinf
      exact Or.inr ⟨negative, congrArg Number.float hinf⟩
  have hbind : ∀ first second, (binary64.toFloat first >>= fun x =>
      binary64.toFloat second >>= fun y => pure (Number.float (x.add y).rounded)) = some sum →
      ∃ x y, binary64.toFloat first = some x ∧ binary64.toFloat second = some y ∧
        sum = .float (x.add y).rounded := by
    intro first second hsum
    obtain ⟨x, hx, hrest⟩ := Option.bind_eq_some_iff.mp hsum
    obtain ⟨y, hy, hrest⟩ := Option.bind_eq_some_iff.mp hrest
    exact ⟨x, y, hx, hy, (Option.some.inj hrest).symm⟩
  rcases left with m | x
  · rcases right with n | y
    · obtain rfl := Option.some.inj hl
      obtain rfl := Option.some.inj hr
      obtain rfl := Option.some.inj h
      refine Or.inl ⟨_, rfl, ?_⟩
      push_cast
      rw [sub_self, abs_zero]
      exact slack_nonneg (by positivity)
    · obtain ⟨first, second, hfirst, hsecond, hsum⟩ := hbind _ _ h
      exact hfloat first second hfirst hsecond hsum
  · obtain ⟨first, second, hfirst, hsecond, hsum⟩ := hbind _ _ h
    exact hfloat first second hfirst hsecond hsum

/-- A finite tolerance is exceeded by an infinite sum. -/
theorem sub_inf {negative : Bool} (ht : total.real = some t)
    (h : binary64.sub (.float (.inf negative)) total = some sum) :
    sum.abs.order = .inf false := by
  obtain ⟨y, hy, hrest⟩ := Option.bind_eq_some_iff.mp h
  obtain ⟨y, rfl, -⟩ := toFloat_near hy (Number.real_neg ht)
  obtain rfl := Option.some.inj hrest
  rfl

/-- The errors of the two operations together. -/
theorem le_of_near {s e : ℚ} (he : |e| ≤ d) (hs : |s - (l + r)| ≤ slack (|l| + |r|))
    (hd : |e - (s + -t)| ≤ slack (|s| + |t|)) :
    |l + r - t| ≤ d + 3 * slack (|l| + |r| + |t|) := by
  have hunder : 0 ≤ underflow := underflow_nonneg
  have hunit : 0 ≤ unitRoundoff := unitRoundoff_nonneg
  have hthird : 3 * unitRoundoff ≤ 1 := by
    unfold unitRoundoff
    norm_num
  have hsum : 0 ≤ |l| + |r| := add_nonneg (abs_nonneg l) (abs_nonneg r)
  have hsize : |s| ≤ 2 * (|l| + |r|) + underflow := by
    have htriangle := abs_sub_abs_le_abs_sub s (l + r)
    have hadd := abs_add_le l r
    have hscaled : 3 * unitRoundoff * (|l| + |r|) ≤ |l| + |r| :=
      mul_le_of_le_one_left hsum hthird
    unfold slack at hs
    linarith
  have hsecond : slack (|s| + |t|) ≤
      6 * unitRoundoff * (|l| + |r|) + 3 * unitRoundoff * |t| + 2 * underflow := by
    have hscaled : 3 * unitRoundoff * |s| ≤
        3 * unitRoundoff * (2 * (|l| + |r|) + underflow) :=
      mul_le_mul_of_nonneg_left hsize (by linarith)
    have htiny : 3 * unitRoundoff * underflow ≤ underflow := mul_le_of_le_one_left hunder hthird
    unfold slack
    linarith
  have htotal : 0 ≤ unitRoundoff * |t| := mul_nonneg hunit (abs_nonneg t)
  have hparts : l + r - t = e + (-(s - (l + r)) + -(e - (s + -t))) := by ring
  calc |l + r - t| ≤ |e| + (|s - (l + r)| + |e - (s + -t)|) := by
        rw [hparts, ← abs_neg (s - (l + r)), ← abs_neg (e - (s + -t))]
        exact (abs_add_le _ _).trans (add_le_add_right (abs_add_le _ _) _)
    _ ≤ d + 3 * slack (|l| + |r| + |t|) := by
        have hlast := hd.trans hsecond
        unfold slack at hs ⊢
        linarith

/-- What the double comparison lets pass, exactly measured. -/
theorem le_of_exceeds (hl : left.real = some l) (hr : right.real = some r)
    (ht : total.real = some t) (hd : tolerance.real = some d)
    (h : binary64.exceeds left right total tolerance = some false) :
    |l + r - t| ≤ d + 3 * slack (|l| + |r| + |t|) := by
  obtain ⟨sum, hsum, hrest⟩ := Option.bind_eq_some_iff.mp h
  obtain ⟨difference, hdifference, hrest⟩ := Option.bind_eq_some_iff.mp hrest
  have hlt : tolerance.order.lt difference.abs.order = false := Option.some.inj hrest
  rw [Number.order_of_real hd] at hlt
  rcases add_near hl hr hsum with hnear | hinf
  · obtain ⟨s, hs, hsnear⟩ := hnear
    rcases add_near hs (Number.real_neg ht) hdifference with hdnear | hinf
    · obtain ⟨e, he, henear⟩ := hdnear
      rw [Number.order_abs_of_real he, PyFloat.finite_lt] at hlt
      have hsmall : |e| ≤ d := not_lt.mp (of_decide_eq_false hlt)
      rw [abs_neg] at henear
      exact le_of_near hsmall hsnear henear
    · obtain ⟨negative, rfl⟩ := hinf
      simp [Number.abs, Number.order, PyFloat.abs, PyFloat.lt, PyFloat.le] at hlt
  · obtain ⟨negative, rfl⟩ := hinf
    rw [sub_inf ht hdifference] at hlt
    simp [PyFloat.lt, PyFloat.le] at hlt

/-- Integers are compared exactly. -/
theorem exceeds_int {l r t : Int} (hd : tolerance.real = some d) (arithmetic : Arithmetic) :
    arithmetic.exceeds (.int l) (.int r) (.int t) tolerance =
      some (decide (d < |(l : ℚ) + r - t|)) := by
  simp only [exceeds, add, sub, Number.neg, Option.bind_eq_bind, Option.bind_some, Number.abs,
    Number.order_of_real hd]
  simp only [Number.order, PyFloat.finite_lt]
  push_cast
  rw [← sub_eq_add_neg]
  rfl

theorem exact_add (hl : left.real = some l) (hr : right.real = some r) :
    ∃ sum, exact.add left right = some sum ∧ sum.real = some (l + r) := by
  have hfloat : ∀ {number : Number} {v : ℚ}, number.real = some v →
      exact.toFloat number = some (.finite v) := by
    intro number v h
    rcases number with n | (x | negative | _)
    · obtain rfl := Option.some.inj h
      rfl
    · obtain rfl := Option.some.inj h
      rfl
    · cases h
    · cases h
  have hadd : ((exact.toFloat left).bind fun x => (exact.toFloat right).bind fun y =>
      some (Number.float (x.add y))) = some (.float (.finite (l + r))) := by
    rw [hfloat hl, hfloat hr]
    rfl
  rcases left with m | x
  · rcases right with n | y
    · obtain rfl := Option.some.inj hl
      obtain rfl := Option.some.inj hr
      exact ⟨_, rfl, congrArg some (Int.cast_add m n)⟩
    · exact ⟨_, hadd, rfl⟩
  · exact ⟨_, hadd, rfl⟩

/-- Without rounding the comparison is the exact one. -/
theorem exceeds_exact (hl : left.real = some l) (hr : right.real = some r)
    (ht : total.real = some t) (hd : tolerance.real = some d) :
    exact.exceeds left right total tolerance = some (decide (d < |l + r - t|)) := by
  obtain ⟨sum, hsum, hs⟩ := exact_add hl hr
  obtain ⟨difference, hdifference, he⟩ := exact_add hs (Number.real_neg ht)
  rw [← sub_eq_add_neg] at he
  simp only [exceeds, hsum, sub, hdifference, Option.bind_eq_bind, Option.bind_some,
    Number.order_of_real hd, Number.order_abs_of_real he, PyFloat.finite_lt]
  rfl

end Arithmetic

end

end PatrolBot
