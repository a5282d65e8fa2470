import Mathlib.Algebra.Group.Nat.Defs
import Mathlib.Data.List.Basic
import Mathlib.Order.Monotone.Basic
import Mathlib.Order.Fin.Basic
import Mathlib.Order.Nat

/-!
# Dates and their texts

The Gregorian calendar as a count of days from the first of January of the year 0, and
the texts of moments in two formats: `YYYY-MM-DDTHH:MM:SS.mmmZ` and
`YYYY-MM-DD HH:MM:SS`.  Texts of the first format stand in the order of the moments.
Between a text of the first format and one of the second the order is that of the
days alone, for a space is less than a `T`.
-/

namespace PatrolBot.Calendar

/-! ### The calendar -/

structure Date where
  year : Nat
  month : Nat
  day : Nat
deriving DecidableEq

def leap (year : Nat) : Bool := year % 4 == 0 && (year % 100 != 0 || year % 400 == 0)

def monthDays (year month : Nat) : Nat :=
  if month = 2 then if leap year then 29 else 28
  else if month = 4 ∨ month = 6 ∨ month = 9 ∨ month = 11 then 30
  else 31

/-- The day after. -/
def Date.next (date : Date) : Date :=
  if date.day < monthDays date.year date.month then ⟨date.year, date.month, date.day + 1⟩
  else if date.month < 12 then ⟨date.year, date.month + 1, 1⟩
  else ⟨date.year + 1, 1, 1⟩

/-- The date that many days after the first of January of the year 0. -/
def dateOf : Nat → Date
  | 0 => ⟨0, 1, 1⟩
  | n + 1 => (dateOf n).next

structure Date.Valid (date : Date) : Prop where
  month_pos : 1 ≤ date.month
  month_le : date.month ≤ 12
  day_pos : 1 ≤ date.day
  day_le : date.day ≤ 31

/-- The place of a valid date in the calendar, with gaps. -/
def Date.rank (date : Date) : Nat := (date.year * 16 + date.month) * 32 + date.day

theorem monthDays_le (year month : Nat) : monthDays year month ≤ 31 := by
  unfold monthDays
  split
  · split <;> omega
  · split <;> omega

theorem monthDays_pos (year month : Nat) : 0 < monthDays year month := by
  unfold monthDays
  split
  · split <;> omega
  · split <;> omega

theorem Date.Valid.next {date : Date} (h : date.Valid) : date.next.Valid := by
  obtain ⟨hmonth, hmonth', hday, hday'⟩ := h
  have hle := monthDays_le date.year date.month
  unfold Date.next
  split
  · constructor <;> simp only <;> omega
  · split
    · constructor <;> simp only <;> omega
    · constructor <;> simp only <;> omega

theorem valid_dateOf (n : Nat) : (dateOf n).Valid := by
  induction n with
  | zero => constructor <;> decide
  | succ n ih => exact ih.next

theorem Date.rank_lt_next {date : Date} (h : date.Valid) : date.rank < date.next.rank := by
  obtain ⟨hmonth, hmonth', hday, hday'⟩ := h
  unfold Date.next
  split
  · simp only [rank]
    omega
  · split
    · simp only [rank]
      omega
    · simp only [rank]
      omega

/-- Later days have later dates. -/
theorem rank_strictMono : StrictMono fun n => (dateOf n).rank :=
  strictMono_nat_of_lt_succ fun n => Date.rank_lt_next (valid_dateOf n)

/-! ### Years -/

theorem dateOf_within {n year month : Nat} (h : dateOf n = ⟨year, month, 1⟩) {k : Nat}
    (hk : k < monthDays year month) : dateOf (n + k) = ⟨year, month, k + 1⟩ := by
  induction k with
  | zero => exact h
  | succ k ih =>
    have hlast := ih (by omega)
    have hnext : dateOf (n + k + 1) = (dateOf (n + k)).next := rfl
    rw [← Nat.add_assoc, hnext, hlast, Date.next, if_pos hk]

/-- The first of the next month. -/
theorem dateOf_month {n year month : Nat} (h : dateOf n = ⟨year, month, 1⟩) :
    dateOf (n + monthDays year month) =
      if month < 12 then ⟨year, month + 1, 1⟩ else ⟨year + 1, 1, 1⟩ := by
  obtain ⟨k, hk⟩ := Nat.exists_eq_succ_of_ne_zero (Nat.ne_of_gt (monthDays_pos year month))
  have hlast := dateOf_within h (show k < monthDays year month by omega)
  have hnext : dateOf (n + k + 1) = (dateOf (n + k)).next := rfl
  have hday : ¬ k + 1 < monthDays year month := by omega
  rw [hk, Nat.succ_eq_add_one, ← Nat.add_assoc, hnext, hlast, Date.next, if_neg hday]

def yearDays (year : Nat) : Nat := if leap year then 366 else 365

theorem dateOf_year {n year : Nat} (h : dateOf n = ⟨year, 1, 1⟩) :
    dateOf (n + yearDays year) = ⟨year + 1, 1, 1⟩ := by
  have hfebruary := dateOf_month h
  have hmarch := dateOf_month hfebruary
  have hapril := dateOf_month hmarch
  have hmay := dateOf_month hapril
  have hjune := dateOf_month hmay
  have hjuly := dateOf_month hjune
  have haugust := dateOf_month hjuly
  have hseptember := dateOf_month haugust
  have hoctober := dateOf_month hseptember
  have hnovember := dateOf_month hoctober
  have hdecember := dateOf_month hnovember
  have hjanuary := dateOf_month hdecember
  have hsum : n + monthDays year 1 + monthDays year 2 + monthDays year 3 + monthDays year 4 +
      monthDays year 5 + monthDays year 6 + monthDays year 7 + monthDays year 8 +
      monthDays year 9 + monthDays year 10 + monthDays year 11 + monthDays year 12 =
      n + yearDays year := by
    unfold monthDays yearDays
    cases leap year <;> simp
  rw [← hsum]
  exact hjanuary

/-- The days before a year. -/
def daysBefore : Nat → Nat
  | 0 => 0
  | year + 1 => daysBefore year + yearDays year

theorem dateOf_daysBefore (year : Nat) : dateOf (daysBefore year) = ⟨year, 1, 1⟩ := by
  induction year with
  | zero => rfl
  | succ year ih => exact dateOf_year ih

/-- Every fourth year is a leap year, but only every fourth of the full centuries. -/
theorem daysBefore_eq (year : Nat) :
    daysBefore year + (year + 99) / 100 = 365 * year + (year + 3) / 4 + (year + 399) / 400 := by
  induction year with
  | zero => rfl
  | succ year ih =>
    rw [daysBefore, yearDays]
    cases hleap : leap year with
    | true =>
      simp only [leap, Bool.and_eq_true, Bool.or_eq_true, beq_iff_eq, bne_iff_ne] at hleap
      simp only [if_true]
      omega
    | false =>
      simp only [leap, Bool.and_eq_false_iff, Bool.or_eq_false_iff, beq_eq_false_iff_ne,
        bne_eq_false_iff_eq] at hleap
      simp only [Bool.false_eq_true, if_false]
      omega

/-- The days of the years 0 to 9999. -/
def dayLimit : Nat := 3652425

theorem year_lt {n : Nat} (h : n < dayLimit) : (dateOf n).year < 10000 := by
  have hdays : daysBefore 10000 = dayLimit := by
    have hclosed := daysBefore_eq 10000
    unfold dayLimit
    omega
  have hlater : (dateOf n).rank < (dateOf (daysBefore 10000)).rank :=
    rank_strictMono (hdays ▸ h)
  rw [dateOf_daysBefore] at hlater
  simp only [Date.rank] at hlater
  obtain ⟨hmonth, -, hday, -⟩ := valid_dateOf n
  omega

/-! ### The order of texts -/

/-- `left < right`, compared character by character. -/
def less : List Char → List Char → Bool
  | _, [] => false
  | [], _ :: _ => true
  | c :: left, d :: right => decide (c < d) || (c == d && less left right)

theorem less_self (text : List Char) : less text text = false := by
  induction text with
  | nil => rfl
  | cons c text ih => simp [less, ih]

theorem less_cons (c : Char) (left right : List Char) :
    less (c :: left) (c :: right) = less left right := by
  simp [less]

/-- Texts that start with parts of one length are in the order of these parts first. -/
theorem less_append {left right : List Char} (h : left.length = right.length)
    (x y : List Char) :
    less (left ++ x) (right ++ y) = (less left right || (left == right && less x y)) := by
  induction left generalizing right with
  | nil =>
    obtain rfl := List.length_eq_zero_iff.mp h.symm
    rfl
  | cons c left ih =>
    cases right with
    | nil => cases h
    | cons d right =>
      have hlength : left.length = right.length := Nat.succ.inj h
      have hcons : (c :: left == d :: right) = (c == d && left == right) := rfl
      rw [List.cons_append, List.cons_append, less, less, ih hlength, hcons,
        Bool.and_or_distrib_left, Bool.and_assoc, Bool.or_assoc]

/-- The last digits of a number. -/
def digits : Nat → Nat → List Char
  | 0, _ => []
  | width + 1, n => digits width (n / 10) ++ [Nat.digitChar (n % 10)]

theorem length_digits (width n : Nat) : (digits width n).length = width := by
  induction width generalizing n with
  | zero => rfl
  | succ width ih => rw [digits, List.length_append, ih, List.length_singleton]

theorem digitChar_lt : ∀ m < 10, ∀ n < 10,
    decide (Nat.digitChar m < Nat.digitChar n) = decide (m < n) := by decide

theorem digitChar_beq : ∀ m < 10, ∀ n < 10,
    (Nat.digitChar m == Nat.digitChar n) = decide (m = n) := by decide

theorem digits_beq {width m n : Nat} (hm : m < 10 ^ width) (hn : n < 10 ^ width) :
    (digits width m == digits width n) = decide (m = n) := by
  induction width generalizing m n with
  | zero =>
    have hzero : m = n := by omega
    simp [digits, hzero]
  | succ width ih =>
    have hdiv : m / 10 < 10 ^ width ∧ n / 10 < 10 ^ width := by
      rw [Nat.pow_succ] at hm hn
      omega
    rw [digits, digits, Bool.eq_iff_iff, beq_iff_eq, decide_eq_true_eq]
    constructor
    · intro h
      obtain ⟨hhigh, hlow⟩ := List.append_inj' h rfl
      have hhigh' := ih hdiv.1 hdiv.2
      rw [hhigh, beq_self_eq_true, eq_comm, decide_eq_true_eq] at hhigh'
      have hlow' := digitChar_beq (m % 10) (Nat.mod_lt _ (by omega)) (n % 10)
        (Nat.mod_lt _ (by omega))
      rw [(List.cons.inj hlow).1, beq_self_eq_true, eq_comm, decide_eq_true_eq] at hlow'
      omega
    · rintro rfl
      rfl

/-- Numbers of one width stand in the order of their values. -/
theorem less_digits {width m n : Nat} (hm : m < 10 ^ width) (hn : n < 10 ^ width) :
    less (digits width m) (digits width n) = decide (m < n) := by
  induction width generalizing m n with
  | zero =>
    have hzero : ¬ m < n := by omega
    simp [digits, less, hzero]
  | succ width ih =>
    have hdiv : m / 10 < 10 ^ width ∧ n / 10 < 10 ^ width := by
      rw [Nat.pow_succ] at hm hn
      omega
    have hlow := digitChar_lt (m % 10) (Nat.mod_lt _ (by omega)) (n % 10)
      (Nat.mod_lt _ (by omega))
    rw [digits, digits, less_append (by rw [length_digits, length_digits]), ih hdiv.1 hdiv.2,
      digits_beq hdiv.1 hdiv.2]
    simp only [less, hlow, Bool.and_false, Bool.or_false]
    rw [Bool.eq_iff_iff]
    simp only [Bool.or_eq_true, Bool.and_eq_true, decide_eq_true_eq]
    omega

/-- Numbers of one width in front of other texts. -/
theorem less_digits_append {width m n : Nat} (hm : m < 10 ^ width) (hn : n < 10 ^ width)
    (x y : List Char) :
    less (digits width m ++ x) (digits width n ++ y) =
      (decide (m < n) || (decide (m = n) && less x y)) := by
  rw [less_append (by rw [length_digits, length_digits]), less_digits hm hn, digits_beq hm hn]

/-! ### Stamps -/

/-- `YYYY-MM-DD`. -/
def dateText (date : Date) : List Char :=
  digits 4 date.year ++ '-' :: (digits 2 date.month ++ '-' :: digits 2 date.day)

example : dateText (dateOf 60) = "0000-03-01".toList := by decide +kernel

/-- `HH:MM:SS` of a number of seconds. -/
def timeText (seconds : Nat) : List Char :=
  digits 2 (seconds / 3600) ++ ':' :: (digits 2 (seconds / 60 % 60) ++ ':' ::
    digits 2 (seconds % 60))

/-- A moment in milliseconds since the first of January of the year 0, before the year
    10000. -/
structure Moment where
  millis : Nat
  inYears : millis < dayLimit * 86400000
deriving DecidableEq

namespace Moment

def day (moment : Moment) : Nat := moment.millis / 86400000

/-- `YYYY-MM-DDTHH:MM:SS.mmmZ`. -/
def stamp (moment : Moment) : List Char :=
  dateText (dateOf moment.day) ++ 'T' :: (timeText (moment.millis % 86400000 / 1000) ++
    '.' :: (digits 3 (moment.millis % 1000) ++ ['Z']))

/-- `YYYY-MM-DD HH:MM:SS`. -/
def datetime (moment : Moment) : List Char :=
  dateText (dateOf moment.day) ++ ' ' :: timeText (moment.millis % 86400000 / 1000)

theorem day_lt (moment : Moment) : moment.day < dayLimit := by
  have h := moment.inYears
  unfold day dayLimit at *
  omega

end Moment

/-- Dates in front of other texts. -/
theorem less_dateText {m n : Nat} (hm : m < dayLimit) (hn : n < dayLimit) (x y : List Char) :
    less (dateText (dateOf m) ++ x) (dateText (dateOf n) ++ y) =
      (decide (m < n) || (decide (m = n) && less x y)) := by
  have hyear := year_lt hm
  have hyear' := year_lt hn
  obtain ⟨-, hmonth, -, hday⟩ := valid_dateOf m
  obtain ⟨-, hmonth', -, hday'⟩ := valid_dateOf n
  have hlt : m < n ↔ (dateOf m).rank < (dateOf n).rank := rank_strictMono.lt_iff_lt.symm
  have heq : m = n ↔ (dateOf m).rank = (dateOf n).rank := rank_strictMono.injective.eq_iff.symm
  simp only [dateText, List.append_assoc, List.cons_append]
  rw [less_digits_append (by omega) (by omega), less_cons, less_digits_append (by omega) (by omega),
    less_cons, less_digits_append (by omega) (by omega), Bool.eq_iff_iff]
  simp only [Bool.or_eq_true, Bool.and_eq_true, decide_eq_true_eq, hlt, heq, Date.rank]
  cases less x y with
  | true => simp only [and_true]; omega
  | false => simp only [Bool.false_eq_true, and_false, or_false]; omega

theorem less_timeText {m n : Nat} (hm : m < 86400) (hn : n < 86400) (x y : List Char) :
    less (timeText m ++ x) (timeText n ++ y) =
      (decide (m < n) || (decide (m = n) && less x y)) := by
  simp only [timeText, List.append_assoc, List.cons_append]
  rw [less_digits_append (by omega) (by omega), less_cons, less_digits_append (by omega) (by omega),
    less_cons, less_digits_append (by omega) (by omega), Bool.eq_iff_iff]
  simp only [Bool.or_eq_true, Bool.and_eq_true, decide_eq_true_eq]
  cases less x y with
  | true => simp only [and_true]; omega
  | false => simp only [Bool.false_eq_true, and_false, or_false]; omega

namespace Moment

variable (moment other : Moment)

/-- Stamps stand in the order of the moments. -/
theorem less_stamp : less moment.stamp other.stamp = decide (moment.millis < other.millis) := by
  unfold stamp
  rw [less_dateText moment.day_lt other.day_lt, less_cons, less_timeText (by omega) (by omega),
    less_cons, less_digits_append (by omega) (by omega), less_self, Bool.eq_iff_iff]
  simp only [Bool.or_eq_true, Bool.and_eq_true, decide_eq_true_eq, Bool.false_eq_true, and_false,
    or_false]
  have hday : moment.day = moment.millis / 86400000 := rfl
  have hday' : other.day = other.millis / 86400000 := rfl
  omega

/-- A stamp is less than a text of the other format only on an earlier day. -/
theorem less_datetime : less moment.stamp other.datetime = decide (moment.day < other.day) := by
  unfold stamp datetime
  rw [less_dateText moment.day_lt other.day_lt]
  simp [less]

end Moment

end PatrolBot.Calendar
