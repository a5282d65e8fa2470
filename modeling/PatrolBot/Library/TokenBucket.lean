import Mathlib.Tactic.Linarith
import Mathlib.Tactic.Ring
import PatrolBot.Library.Machine

/-!
# Token buckets

A bucket holds at most `capacity` tokens and is refilled at a constant rate, lazily:
with the next request for a token.  From any request on, no more tokens are handed
out than the bucket holds and is refilled with until the end of the window.
-/

namespace PatrolBot

/-- The tokens left, and when they were counted. -/
structure TokenBucket (K : Type*) where
  tokens : K
  updated : K
deriving DecidableEq

namespace TokenBucket

variable {K : Type*} [LinearOrder K]

/-- The tokens handed out between two times. -/
def taken (a b : K) (history : List (K × List Bool)) : Nat :=
  (history.filter fun entry => decide (a ≤ entry.1 ∧ entry.1 ≤ b ∧ entry.2 = [true])).length

/-- Times do not decrease, from `start` on. -/
def Nondecreasing (start : K) (times : List K) : Prop := (start :: times).Pairwise (· ≤ ·)

section

variable {start time : K} {times : List K}

theorem Nondecreasing.head (h : Nondecreasing start (time :: times)) : start ≤ time :=
  (List.pairwise_cons.mp h).1 time List.mem_cons_self

theorem Nondecreasing.tail (h : Nondecreasing start (time :: times)) : Nondecreasing time times :=
  (List.pairwise_cons.mp h).2

theorem Nondecreasing.late (h : Nondecreasing start (time :: times)) {b : K} (hb : b < time) :
    ∀ later ∈ time :: times, b < later := by
  intro later hmem
  rcases List.mem_cons.mp hmem with rfl | hmem
  · exact hb
  · exact hb.trans_le ((List.pairwise_cons.mp h.tail).1 later hmem)

end

@[simp] theorem taken_nil (a b : K) : taken a b [] = 0 := rfl

theorem taken_cons (a b : K) (entry : K × List Bool) (history : List (K × List Bool)) :
    taken a b (entry :: history) =
      (if a ≤ entry.1 ∧ entry.1 ≤ b ∧ entry.2 = [true] then 1 else 0) + taken a b history := by
  unfold taken
  by_cases hentry : a ≤ entry.1 ∧ entry.1 ≤ b ∧ entry.2 = [true]
  · rw [List.filter_cons_of_pos (by simpa using hentry), if_pos hentry, List.length_cons,
      Nat.add_comm]
  · rw [List.filter_cons_of_neg (by simpa using hentry), if_neg hentry, Nat.zero_add]

variable [Field K]

/-- What has trickled in since the last count, up to the capacity. -/
def refill (capacity rate now : K) (bucket : TokenBucket K) : TokenBucket K :=
  ⟨min capacity (bucket.tokens + (now - bucket.updated) * rate), now⟩

/-- A token is taken, if there is one. -/
def take (bucket : TokenBucket K) : TokenBucket K × Bool :=
  if 1 ≤ bucket.tokens then ({ bucket with tokens := bucket.tokens - 1 }, true)
  else (bucket, false)

/-- A bucket with its requests at their times: the outputs are the answers. -/
def requests (capacity rate : K) : Machine (TokenBucket K) K Bool where
  step bucket now :=
    let answer := (bucket.refill capacity rate now).take
    (answer.1, [answer.2])

variable {capacity rate now : K} {bucket : TokenBucket K} {times : List K}

theorem take_of_le (h : 1 ≤ bucket.tokens) :
    bucket.take = ({ bucket with tokens := bucket.tokens - 1 }, true) := if_pos h

theorem take_of_not_le (h : ¬ 1 ≤ bucket.tokens) : bucket.take = (bucket, false) := if_neg h

@[simp] theorem updated_take : bucket.take.1.updated = bucket.updated := by
  unfold take
  split <;> rfl

@[simp] theorem updated_step :
    ((requests capacity rate).step bucket now).1.updated = now := updated_take

/-- What comes after the window does not count. -/
theorem taken_late (a : K) {b : K} (hlate : ∀ time ∈ times, b < time) :
    taken a b ((requests capacity rate).trace bucket times) = 0 := by
  induction times generalizing bucket with
  | nil => rfl
  | cons now times ih =>
    have hnow : ¬ now ≤ b := not_le.mpr (hlate now List.mem_cons_self)
    rw [Machine.trace_cons, taken_cons,
      ih fun time hmem => hlate time (List.mem_cons_of_mem _ hmem)]
    simp [hnow]

/-- A token that is handed out is missing afterwards. -/
theorem tokens_take (bucket : TokenBucket K) :
    (if bucket.take.2 = true then 1 else 0) + bucket.take.1.tokens = bucket.tokens := by
  unfold take
  split
  · simp
  · simp

/-! ### The count -/

variable [IsStrictOrderedRing K]

/-- A count between nothing and the capacity. -/
structure Within (capacity : K) (bucket : TokenBucket K) : Prop where
  nonneg : 0 ≤ bucket.tokens
  le : bucket.tokens ≤ capacity

theorem within_refill (h : Within capacity bucket) (hrate : 0 ≤ rate)
    (hnow : bucket.updated ≤ now) : Within capacity (bucket.refill capacity rate now) := by
  have hgain : 0 ≤ (now - bucket.updated) * rate := mul_nonneg (by linarith) hrate
  constructor
  · exact le_min (h.nonneg.trans h.le) (by linarith [h.nonneg])
  · exact min_le_left _ _

theorem within_take (h : Within capacity bucket) : Within capacity bucket.take.1 := by
  unfold take
  split
  · rename_i hone
    have hle := h.le
    constructor
    · show 0 ≤ bucket.tokens - 1
      linarith
    · show bucket.tokens - 1 ≤ capacity
      linarith
  · exact h

theorem within_step (h : Within capacity bucket) (hrate : 0 ≤ rate)
    (hnow : bucket.updated ≤ now) : Within capacity ((requests capacity rate).step bucket now).1 :=
  within_take (within_refill h hrate hnow)

/-- **Run lemma.**  The count stays between nothing and the capacity. -/
theorem within_run (h : Within capacity bucket) (hrate : 0 ≤ rate)
    (htimes : Nondecreasing bucket.updated times) :
    Within capacity ((requests capacity rate).run bucket times) := by
  induction times generalizing bucket with
  | nil => exact h
  | cons now times ih =>
    apply ih (within_step h hrate htimes.head)
    rw [updated_step]
    exact htimes.tail

/-! ### Windows -/

/-- If later requests keep to what the bucket holds, so does the one before them. -/
theorem taken_request (a b : K)
    (hlater : (taken a b ((requests capacity rate).trace
        ((requests capacity rate).step bucket now).1 times) : K) ≤
      ((requests capacity rate).step bucket now).1.tokens + (b - now) * rate) :
    (taken a b ((requests capacity rate).trace bucket (now :: times)) : K) ≤
      (bucket.refill capacity rate now).tokens + (b - now) * rate := by
  have hspent := tokens_take (bucket.refill capacity rate now)
  have hcounted : ((if a ≤ now ∧ now ≤ b ∧
      ((requests capacity rate).step bucket now).2 = [true] then 1 else 0 : Nat) : K) ≤
        if (bucket.refill capacity rate now).take.2 = true then 1 else 0 := by
    split
    · rename_i hanswer
      have htaken : (bucket.refill capacity rate now).take.2 = true :=
        (List.cons.inj hanswer.2.2).1
      rw [if_pos htaken, Nat.cast_one]
    · rw [Nat.cast_zero]
      split
      · exact zero_le_one
      · exact le_refl 0
  rw [Machine.trace_cons, taken_cons, Nat.cast_add, ← hspent]
  have hstep : ((requests capacity rate).step bucket now).1 =
      (bucket.refill capacity rate now).take.1 := rfl
  rw [hstep] at hlater ⊢
  linarith

/-- Until `b` no more tokens are handed out than the bucket holds and is refilled with. -/
theorem taken_le (h : Within capacity bucket) (hrate : 0 ≤ rate)
    (htimes : Nondecreasing bucket.updated times) (a : K) {b : K} (hb : bucket.updated ≤ b) :
    (taken a b ((requests capacity rate).trace bucket times) : K) ≤
      bucket.tokens + (b - bucket.updated) * rate := by
  induction times generalizing bucket with
  | nil =>
    have hgain : 0 ≤ (b - bucket.updated) * rate := mul_nonneg (by linarith) hrate
    have hnonneg := h.nonneg
    simp only [Machine.trace_nil, taken_nil, Nat.cast_zero]
    linarith
  | cons now times ih =>
    rcases le_or_gt now b with hnow | hnow
    · have hupdated : ((requests capacity rate).step bucket now).1.updated = now := updated_step
      have hlater := ih (within_step h hrate htimes.head) (by rw [hupdated]; exact htimes.tail)
        (by rw [hupdated]; exact hnow)
      rw [hupdated] at hlater
      have hrequest := taken_request a b hlater
      have hrefilled : (bucket.refill capacity rate now).tokens ≤
          bucket.tokens + (now - bucket.updated) * rate := min_le_right _ _
      have hsplit : (b - bucket.updated) * rate =
          (now - bucket.updated) * rate + (b - now) * rate := by ring
      linarith
    · have hgain : 0 ≤ (b - bucket.updated) * rate := mul_nonneg (by linarith) hrate
      rw [taken_late a (htimes.late hnow), Nat.cast_zero]
      linarith [h.nonneg]

/-- **The bound over any window.**  A full bucket and what trickles in. -/
theorem taken_window (h : Within capacity bucket) (hrate : 0 ≤ rate)
    (htimes : Nondecreasing bucket.updated times) {a b : K} (hab : a ≤ b) :
    (taken a b ((requests capacity rate).trace bucket times) : K) ≤
      capacity + (b - a) * rate := by
  have hgain : 0 ≤ (b - a) * rate := mul_nonneg (by linarith) hrate
  have hcapacity : 0 ≤ capacity := h.nonneg.trans h.le
  induction times generalizing bucket with
  | nil =>
    simp only [Machine.trace_nil, taken_nil, Nat.cast_zero]
    linarith
  | cons now times ih =>
    have hupdated : ((requests capacity rate).step bucket now).1.updated = now := updated_step
    have hrest : Nondecreasing ((requests capacity rate).step bucket now).1.updated times := by
      rw [hupdated]
      exact htimes.tail
    have hwithin := within_step h hrate htimes.head
    rcases lt_or_ge now a with hearly | hlate
    · have hcount : taken a b ((requests capacity rate).trace bucket (now :: times)) =
          taken a b ((requests capacity rate).trace
            ((requests capacity rate).step bucket now).1 times) := by
        rw [Machine.trace_cons, taken_cons, if_neg (fun h => (not_le.mpr hearly) h.1), Nat.zero_add]
      rw [hcount]
      exact ih hwithin hrest
    · rcases le_or_gt now b with hnow | hnow
      · have hlater := taken_le hwithin hrate hrest a (b := b) (by rw [hupdated]; exact hnow)
        rw [hupdated] at hlater
        have hrequest := taken_request a b hlater
        have hfull : (bucket.refill capacity rate now).tokens ≤ capacity := min_le_left _ _
        have hshorter : (b - now) * rate ≤ (b - a) * rate :=
          mul_le_mul_of_nonneg_right (by linarith) hrate
        linarith
      · rw [taken_late a (htimes.late hnow), Nat.cast_zero]
        linarith

end TokenBucket

end PatrolBot
