import Mathlib.Data.Rat.Floor
import Mathlib.Logic.Function.Basic
import PatrolBot.Library.TokenBucket

/-!
# The command rate limit

`RateLimiter` of the server keeps a token bucket for each key and refills it with the
next call for that key.  The clock's readings are exact numbers here and come with the
calls.
-/

namespace PatrolBot

structure RateLimiter (κ : Type*) where
  capacity : ℚ
  refillPerS : ℚ
  buckets : κ → Option (TokenBucket ℚ)

namespace RateLimiter

variable {κ : Type*} [DecidableEq κ]

/-- `RateLimiter.__init__`. -/
def init (perMinute : Int) : RateLimiter κ where
  capacity := (max 1 perMinute : Int)
  refillPerS := ((max 1 perMinute : Int) : ℚ) / 60
  buckets _ := none

def put (limiter : RateLimiter κ) (key : κ) (bucket : TokenBucket ℚ) : RateLimiter κ :=
  { limiter with buckets := Function.update limiter.buckets key (some bucket) }

/-- `allow`, at the time that the clock shows. -/
def allow (limiter : RateLimiter κ) (key : κ) (now : ℚ) : RateLimiter κ × Bool :=
  match limiter.buckets key with
  | none => (limiter.put key ⟨limiter.capacity - 1, now⟩, true)
  | some bucket =>
    let tokens := min limiter.capacity
      (bucket.tokens + (now - bucket.updated) * limiter.refillPerS)
    if 1 ≤ tokens then (limiter.put key ⟨tokens - 1, now⟩, true)
    else (limiter.put key ⟨tokens, now⟩, false)

/-- The calls with their keys, in the order in which they are made. -/
def limiting : Machine (RateLimiter κ) (κ × ℚ) Bool where
  step limiter call :=
    let answer := limiter.allow call.1 call.2
    (answer.1, [answer.2])

/-- The calls that are made for a key. -/
def timesOf (key : κ) (calls : List (κ × ℚ)) : List ℚ :=
  (calls.filter fun call => call.1 = key).map Prod.snd

/-- The answers to the calls for a key. -/
def answersOf (key : κ) (history : List ((κ × ℚ) × List Bool)) : List (ℚ × List Bool) :=
  (history.filter fun entry => entry.1.1 = key).map fun entry => (entry.1.2, entry.2)

/-- The calls for a key that are allowed from `a` to `b`. -/
def allowed (key : κ) (a b : ℚ) (history : List ((κ × ℚ) × List Bool)) : Nat :=
  (history.filter fun entry =>
    entry.1.1 = key ∧ a ≤ entry.1.2 ∧ entry.1.2 ≤ b ∧ entry.2 = [true]).length

variable {limiter : RateLimiter κ} {bucket : TokenBucket ℚ} {key other : κ} {now : ℚ}
  {calls : List (κ × ℚ)}

@[simp] theorem capacity_put : (limiter.put key bucket).capacity = limiter.capacity := rfl

@[simp] theorem refillPerS_put : (limiter.put key bucket).refillPerS = limiter.refillPerS := rfl

@[simp] theorem buckets_put_self : (limiter.put key bucket).buckets key = some bucket := by
  simp [put]

theorem buckets_put_ne (h : other ≠ key) :
    (limiter.put key bucket).buckets other = limiter.buckets other := by
  simp [put, Function.update_of_ne h]

omit [DecidableEq κ] in
theorem capacity_init_pos (perMinute : Int) : 1 ≤ (init perMinute : RateLimiter κ).capacity := by
  simp only [init]
  exact_mod_cast le_max_left 1 perMinute

/-! ### The key's own bucket -/

/-- The machine of the bucket of one key. -/
def bucketOf (limiter : RateLimiter κ) : Machine (TokenBucket ℚ) ℚ Bool :=
  TokenBucket.requests limiter.capacity limiter.refillPerS

/-- A call for a key that has a bucket is a request for its tokens. -/
theorem allow_some (h : limiter.buckets key = some bucket) :
    limiter.allow key now = (limiter.put key (limiter.bucketOf.step bucket now).1,
      ((bucket.refill limiter.capacity limiter.refillPerS now).take).2) := by
  have hstep : (limiter.bucketOf.step bucket now).1 =
      (bucket.refill limiter.capacity limiter.refillPerS now).take.1 := rfl
  rw [hstep]
  simp only [allow, h]
  split
  · rename_i hone
    rw [TokenBucket.take_of_le hone]
    rfl
  · rename_i hone
    rw [TokenBucket.take_of_not_le hone]
    rfl

omit [DecidableEq κ] in
theorem take_full {start : ℚ} (hcapacity : 1 ≤ limiter.capacity) (hrate : 0 ≤ limiter.refillPerS)
    (hnow : start ≤ now) :
    TokenBucket.take (TokenBucket.refill limiter.capacity limiter.refillPerS now
      ⟨limiter.capacity, start⟩) = (⟨limiter.capacity - 1, now⟩, true) := by
  have hgain : 0 ≤ (now - start) * limiter.refillPerS := mul_nonneg (by linarith) hrate
  have hfull : min limiter.capacity
      (limiter.capacity + (now - start) * limiter.refillPerS) = limiter.capacity :=
    min_eq_left (by linarith)
  simp [TokenBucket.take, TokenBucket.refill, hfull, hcapacity]

/-- The first call for a key finds a bucket that has been full until then. -/
theorem allow_none {start : ℚ} (h : limiter.buckets key = none) (hcapacity : 1 ≤ limiter.capacity)
    (hrate : 0 ≤ limiter.refillPerS) (hnow : start ≤ now) :
    limiter.allow key now =
      (limiter.put key (limiter.bucketOf.step ⟨limiter.capacity, start⟩ now).1,
        (TokenBucket.take (TokenBucket.refill limiter.capacity limiter.refillPerS now
          ⟨limiter.capacity, start⟩)).2) := by
  simp only [allow, h, bucketOf, TokenBucket.requests, take_full hcapacity hrate hnow]

/-- A limiter with a capacity of at least one token. -/
structure Sound (limiter : RateLimiter κ) : Prop where
  capacity : 1 ≤ limiter.capacity
  rate : 0 ≤ limiter.refillPerS

/-- The bucket that stands for a key's: a full one for a key that has none yet. -/
def Stands (limiter : RateLimiter κ) (key : κ) (bucket : TokenBucket ℚ) : Prop :=
  limiter.buckets key = some bucket ∨
    limiter.buckets key = none ∧ bucket.tokens = limiter.capacity

omit [DecidableEq κ] in
theorem sound_init (perMinute : Int) : Sound (init perMinute : RateLimiter κ) := by
  have hcapacity := capacity_init_pos (κ := κ) perMinute
  constructor
  · exact hcapacity
  · simp only [init] at hcapacity ⊢
    linarith

/-- A call for a key is a request to the bucket that stands for the key's. -/
theorem allow_stands (h : Stands limiter key bucket) (hsound : Sound limiter)
    (hnow : bucket.updated ≤ now) :
    limiter.allow key now = (limiter.put key (limiter.bucketOf.step bucket now).1,
      ((bucket.refill limiter.capacity limiter.refillPerS now).take).2) := by
  rcases h with hsome | ⟨hnone, htokens⟩
  · exact allow_some hsome
  · have hbucket : bucket = ⟨limiter.capacity, bucket.updated⟩ := by rw [← htokens]
    rw [hbucket]
    exact allow_none hnone hsound.capacity hsound.rate hnow

/-- A call changes the bucket of its own key, and nothing else. -/
theorem allow_put (limiter : RateLimiter κ) (key : κ) (now : ℚ) :
    ∃ bucket, (limiter.allow key now).1 = limiter.put key bucket := by
  unfold allow
  cases limiter.buckets key with
  | none => exact ⟨_, rfl⟩
  | some bucket =>
    simp only
    split
    · exact ⟨_, rfl⟩
    · exact ⟨_, rfl⟩

theorem Sound.put (h : Sound limiter) : Sound (limiter.put key bucket) := ⟨h.capacity, h.rate⟩

theorem bucketOf_put : (limiter.put key bucket).bucketOf = limiter.bucketOf := rfl

theorem Stands.put_ne {held : TokenBucket ℚ} (h : Stands limiter key held) (hne : key ≠ other) :
    Stands (limiter.put other bucket) key held := by
  unfold Stands
  rw [buckets_put_ne hne]
  exact h

/-- **Simulation.**  The calls for a key, with those for other keys left out, run the
    bucket of that key. -/
theorem key_run (hsound : Sound limiter) (h : Stands limiter key bucket)
    (htimes : TokenBucket.Nondecreasing bucket.updated (timesOf key calls)) :
    answersOf key (limiting.trace limiter calls) =
        limiter.bucketOf.trace bucket (timesOf key calls) ∧
      Stands (limiting.run limiter calls) key
        (limiter.bucketOf.run bucket (timesOf key calls)) := by
  induction calls generalizing limiter bucket with
  | nil => exact ⟨rfl, h⟩
  | cons call calls ih =>
    by_cases hkey : call.1 = key
    · have htimesOf : timesOf key (call :: calls) = call.2 :: timesOf key calls := by
        simp [timesOf, hkey]
      rw [htimesOf] at htimes
      have hallow := allow_stands h hsound htimes.head
      have hstep : limiting.step limiter call =
          (limiter.put key (limiter.bucketOf.step bucket call.2).1,
            (limiter.bucketOf.step bucket call.2).2) := by
        simp only [limiting, hkey, hallow, bucketOf, TokenBucket.requests]
      have hlater := @ih (limiter.put key (limiter.bucketOf.step bucket call.2).1)
        (limiter.bucketOf.step bucket call.2).1 hsound.put (Or.inl buckets_put_self)
        (by rw [bucketOf, TokenBucket.updated_step]; exact htimes.tail)
      rw [bucketOf_put] at hlater
      rw [htimesOf, Machine.trace_cons, Machine.run_cons, Machine.trace_cons, Machine.run_cons,
        hstep]
      constructor
      · rw [← hlater.1]
        simp [answersOf, hkey]
      · exact hlater.2
    · have htimesOf : timesOf key (call :: calls) = timesOf key calls := by
        simp [timesOf, hkey]
      rw [htimesOf] at htimes ⊢
      obtain ⟨other, hother⟩ := allow_put limiter call.1 call.2
      have hstep : (limiting.step limiter call).1 = limiter.put call.1 other := hother
      have hlater := @ih (limiter.put call.1 other) _ hsound.put
        (h.put_ne (Ne.symm hkey)) htimes
      rw [bucketOf_put] at hlater
      rw [Machine.trace_cons, Machine.run_cons, hstep]
      constructor
      · rw [← hlater.1]
        simp [answersOf, hkey]
      · exact hlater.2

/-- What is allowed for a key is what its own bucket hands out. -/
theorem allowed_eq_taken (key : κ) (a b : ℚ) (history : List ((κ × ℚ) × List Bool)) :
    allowed key a b history = TokenBucket.taken a b (answersOf key history) := by
  unfold allowed TokenBucket.taken answersOf
  rw [List.filter_map, List.length_map, List.filter_filter]
  apply congrArg List.length
  apply List.filter_congr
  intro entry _
  simp [Bool.and_comm]

/-! ### The limit -/

/-- The calls for a key come in the order of all calls. -/
theorem nondecreasing_timesOf {start : ℚ} (key : κ)
    (h : TokenBucket.Nondecreasing start (calls.map Prod.snd)) :
    TokenBucket.Nondecreasing start (timesOf key calls) :=
  h.sublist ((List.filter_sublist.map Prod.snd).cons_cons start)

/-- What is promised for a key after the calls of a history: in no window of length `T`
    more is allowed than the capacity and what a minute's share of it comes to, and the
    key's tokens stay within the capacity. -/
structure KeepsLimit (capacity : ℚ) (history : List ((κ × ℚ) × List Bool))
    (limiter : RateLimiter κ) (key : κ) : Prop where
  window : ∀ a T, 0 ≤ T →
    (allowed key a (a + T) history : ℚ) ≤ capacity + T * capacity / 60
  tokens : ∀ bucket, limiter.buckets key = some bucket →
    0 ≤ bucket.tokens ∧ bucket.tokens ≤ capacity

/-- Every key is held to the limit, whatever calls for other keys come in between. -/
theorem limit_run (perMinute : Int) (calls : List (κ × ℚ))
    (hclock : (calls.map Prod.snd).Pairwise (· ≤ ·)) (key : κ) :
    KeepsLimit (max 1 perMinute : Int) (limiting.trace (init perMinute) calls)
      (limiting.run (init perMinute) calls) key := by
  have hsound := sound_init (κ := κ) perMinute
  obtain ⟨start, hstart⟩ : ∃ start, TokenBucket.Nondecreasing start (calls.map Prod.snd) := by
    cases calls with
    | nil => exact ⟨0, List.pairwise_singleton _ _⟩
    | cons call calls =>
      refine ⟨call.2, List.pairwise_cons.mpr ⟨?_, hclock⟩⟩
      intro time hmem
      rcases List.mem_cons.mp hmem with rfl | hmem
      · exact le_refl _
      · exact (List.pairwise_cons.mp hclock).1 time hmem
  have htimes := nondecreasing_timesOf key hstart
  have hfull : TokenBucket.Within ((max 1 perMinute : Int) : ℚ) ⟨(max 1 perMinute : Int), start⟩ :=
    ⟨zero_le_one.trans hsound.capacity, le_refl _⟩
  obtain ⟨hanswers, hstands⟩ := @key_run _ _ (init perMinute)
    ⟨(max 1 perMinute : Int), start⟩ _ _ hsound (Or.inr ⟨rfl, rfl⟩) htimes
  constructor
  · intro a T hT
    have hwindow := TokenBucket.taken_window hfull hsound.rate htimes (a := a) (b := a + T)
      (by linarith)
    rw [allowed_eq_taken, hanswers]
    have hshare : (a + T - a) * (init perMinute : RateLimiter κ).refillPerS =
        T * (max 1 perMinute : Int) / 60 := by
      simp only [init]
      ring
    rw [← hshare]
    exact hwindow
  · intro bucket hbucket
    have hwithin := TokenBucket.within_run hfull hsound.rate htimes
    rcases hstands with hsome | ⟨hnone, _⟩
    · have hsame := Option.some.inj (hbucket.symm.trans hsome)
      rw [hsame]
      exact ⟨hwithin.nonneg, hwithin.le⟩
    · rw [hnone] at hbucket
      cases hbucket

/-- Two operators, one of whom uses up a limit of two commands a minute. -/
theorem limit_run_two :
    KeepsLimit (max 1 2 : Int)
      (limiting.trace (init 2) [(1, 0), (2, 1), (1, 1), (1, 2), (1, 90)])
      (limiting.run (init 2) [(1, 0), (2, 1), (1, 1), (1, 2), (1, 90)]) 1 ∧
    allowed 1 0 90 (limiting.trace (init 2) [(1, 0), (2, 1), (1, 1), (1, 2), (1, 90)]) = 3 := by
  constructor
  · exact limit_run 2 [(1, 0), (2, 1), (1, 1), (1, 2), (1, 90)] (by decide +kernel) 1
  · decide +kernel

end RateLimiter

end PatrolBot
