import Mathlib.Algebra.Order.Group.Basic
import Mathlib.Data.List.Chain
import Mathlib.Data.List.DropRight

/-!
# Sampled signals

What a monitor asks of a signal that it only sees at samples: where the reading flips, and
for how long a condition has held without a break.  The first is a list of samples, the
second a timer that goes off once for each unbroken stretch.  A gate thins a signal out to
samples that are an interval apart.
-/

namespace Signals

/-! ### Flips -/

section Flips

variable {Sample Reading : Type*} (reading : Sample → Reading)

/-- The reading of the last sample, `before` when there is none. -/
def latest (before : Reading) : List Sample → Reading
  | [] => before
  | sample :: samples => latest (reading sample) samples

/-- The samples whose reading differs from the one before it, `before` at the start. -/
def flips [DecidableEq Reading] (before : Reading) : List Sample → List Sample
  | [] => []
  | sample :: samples =>
    if reading sample = before then flips before samples
    else sample :: flips (reading sample) samples

variable {reading} {before : Reading} {samples : List Sample} {sample : Sample}

theorem latest_append (samples' : List Sample) :
    latest reading before (samples ++ samples') =
      latest reading (latest reading before samples) samples' := by
  induction samples generalizing before with
  | nil => rfl
  | cons sample samples ih => exact ih

theorem latest_comp {Other : Type*} (f : Reading → Other) :
    latest (fun sample => f (reading sample)) (f before) samples =
      f (latest reading before samples) := by
  induction samples generalizing before with
  | nil => rfl
  | cons sample samples ih => exact ih

theorem latest_map {Other : Type*} (f : Other → Sample) (others : List Other) :
    latest reading before (others.map f) =
      latest (fun other => reading (f other)) before others := by
  induction others generalizing before with
  | nil => rfl
  | cons other others ih => exact ih

variable [DecidableEq Reading]

theorem flips_append (samples' : List Sample) :
    flips reading before (samples ++ samples') =
      flips reading before samples ++ flips reading (latest reading before samples) samples' := by
  induction samples generalizing before with
  | nil => rfl
  | cons sample samples ih =>
    simp only [List.cons_append, flips, latest]
    by_cases hsame : reading sample = before
    · rw [if_pos hsame, if_pos hsame, ih, hsame]
    · rw [if_neg hsame, if_neg hsame, ih, List.cons_append]

/-- What one more sample adds. -/
theorem flips_concat :
    flips reading before (samples ++ [sample]) =
      flips reading before samples ++
        if reading sample = latest reading before samples then [] else [sample] := by
  rw [flips_append]
  rfl

/-- No two flips in a row have the same reading, and the first is not `before`. -/
theorem isChain_flips :
    (before :: (flips reading before samples).map reading).IsChain (· ≠ ·) := by
  induction samples generalizing before with
  | nil => exact List.isChain_singleton before
  | cons sample samples ih =>
    rw [flips]
    by_cases hsame : reading sample = before
    · rw [if_pos hsame]
      exact ih
    · rw [if_neg hsame, List.map_cons, List.isChain_cons_cons]
      exact ⟨Ne.symm hsame, ih⟩

/-- The last flip has the reading that is the latest. -/
theorem latest_flips :
    latest reading before (flips reading before samples) = latest reading before samples := by
  induction samples generalizing before with
  | nil => rfl
  | cons sample samples ih =>
    rw [flips, latest]
    by_cases hsame : reading sample = before
    · rw [if_pos hsame, ih, hsame]
    · rw [if_neg hsame, latest, ih]

end Flips

/-! ### A condition that lasts -/

section Stretches

variable {Time : Type*}

/-- The times of the unbroken stretch, up to the last sample, in which the condition held. -/
def stretch (samples : List (Bool × Time)) : List Time := (samples.rtakeWhile Prod.fst).map Prod.snd

variable {samples : List (Bool × Time)} {now : Time}

@[simp] theorem stretch_nil : stretch ([] : List (Bool × Time)) = [] := by
  simp [stretch]

@[simp] theorem stretch_concat_true :
    stretch (samples ++ [(true, now)]) = stretch samples ++ [now] := by
  rw [stretch, List.rtakeWhile_concat_pos _ _ _ rfl, List.map_append]
  rfl

@[simp] theorem stretch_concat_false : stretch (samples ++ [(false, now)]) = [] := by
  rw [stretch, List.rtakeWhile_concat_neg _ _ _ Bool.false_ne_true]
  rfl

variable [AddCommGroup Time] [LinearOrder Time] (limit : Time)

/-- A stretch with a sample that is `limit` or more after its first. -/
def Overdue (times : List Time) : Prop :=
  ∃ first ∈ times.head?, ∃ time ∈ times, limit ≤ time - first

variable {limit} {times : List Time}

theorem not_overdue_nil : ¬ Overdue limit ([] : List Time) := by
  rintro ⟨first, hfirst, -⟩
  simp at hfirst

theorem Overdue.concat (h : Overdue limit times) : Overdue limit (times ++ [now]) := by
  obtain ⟨first, hfirst, time, htime, hlimit⟩ := h
  refine ⟨first, ?_, time, List.mem_append_left _ htime, hlimit⟩
  rw [Option.mem_def] at hfirst ⊢
  rw [List.head?_append, hfirst]
  rfl

theorem overdue_concat_iff :
    Overdue limit (times ++ [now]) ↔
      Overdue limit times ∨ limit ≤ now - times.head?.getD now := by
  constructor
  · rintro ⟨first, hfirst, time, htime, hlimit⟩
    rw [Option.mem_def, List.head?_append] at hfirst
    rcases List.mem_append.mp htime with htime | htime
    · left
      cases times with
      | nil => simp at htime
      | cons head times =>
        exact ⟨first, by simpa using hfirst, time, htime, hlimit⟩
    · right
      obtain rfl := List.mem_singleton.mp htime
      cases times with
      | nil =>
        obtain rfl : time = first := by simpa using hfirst
        exact hlimit
      | cons head times =>
        obtain rfl : head = first := by simpa using hfirst
        exact hlimit
  · rintro (h | hlimit)
    · exact h.concat
    · refine ⟨times.head?.getD now, ?_, now, by simp, hlimit⟩
      cases times with
      | nil => simp
      | cons head times => simp

variable (limit)

/-- A timer over a condition: since when it has held, and whether the timer went off. -/
structure Timer (Time : Type*) where
  since : Option Time := none
  fired : Bool := false

/-- A sample, and whether the timer goes off at it. -/
def Timer.sample (timer : Timer Time) (holds : Bool) (now : Time) : Timer Time × Bool :=
  if holds then
    let since := timer.since.getD now
    if timer.fired || decide (now - since < limit) then ({ timer with since := some since }, false)
    else (⟨some since, true⟩, true)
  else ({}, false)

/-- The timer stands where the samples so far leave it. -/
structure Timer.Follows (samples : List (Bool × Time)) (timer : Timer Time) : Prop where
  since : timer.since = (stretch samples).head?
  fired : timer.fired = true ↔ Overdue limit (stretch samples)

theorem Timer.follows_nil : Timer.Follows limit [] ({} : Timer Time) where
  since := by simp
  fired := by simp [not_overdue_nil]

variable {limit} {timer : Timer Time}

/-- **A step of the timer.**  It goes off at the sample that makes the stretch overdue, and
    at no other. -/
theorem Timer.Follows.sample (h : timer.Follows limit samples) (holds : Bool) :
    (timer.sample limit holds now).1.Follows limit (samples ++ [(holds, now)]) ∧
      ((timer.sample limit holds now).2 = true ↔
        Overdue limit (stretch (samples ++ [(holds, now)])) ∧
          ¬ Overdue limit (stretch samples)) := by
  cases holds with
  | false =>
    refine ⟨⟨by simp [Timer.sample], ?_⟩, ?_⟩
    · simp [Timer.sample, not_overdue_nil]
    · simp [Timer.sample, not_overdue_nil]
  | true =>
    have hsince : timer.since.getD now = (stretch samples).head?.getD now := by rw [h.since]
    simp only [Timer.sample, if_true, stretch_concat_true, hsince]
    by_cases hover : Overdue limit (stretch samples)
    · have hfired : timer.fired = true := h.fired.mpr hover
      simp only [hfired, Bool.true_or, if_true]
      exact ⟨⟨by simp, by simp [hover.concat]⟩, by simp [hover]⟩
    · have hfired : timer.fired = false := by
        simpa using fun h' => hover (h.fired.mp h')
      by_cases hshort : now - (stretch samples).head?.getD now < limit
      · simp only [hfired, Bool.false_or, decide_eq_true hshort, if_true]
        have hnot : ¬ Overdue limit (stretch samples ++ [now]) := by
          rw [overdue_concat_iff]
          rintro (h' | h')
          · exact hover h'
          · exact absurd hshort (not_lt.mpr h')
        exact ⟨⟨by simp, by simp [hnot]⟩, by simp [hnot]⟩
      · have hlong : Overdue limit (stretch samples ++ [now]) :=
          overdue_concat_iff.mpr (Or.inr (not_lt.mp hshort))
        simp only [hfired, Bool.false_or, decide_eq_false hshort, Bool.false_eq_true, if_false]
        exact ⟨⟨by simp, by simp [hlong]⟩, by simp [hlong, hover]⟩

end Stretches

/-! ### Gates -/

section Gates

variable {Time : Type*} [AddCommGroup Time] [LinearOrder Time]

/-- Times that are an interval apart, none of them after the last time that the gate opened. -/
structure Paced (interval last : Time) (times : List Time) : Prop where
  apart : times.IsChain fun earlier later => interval ≤ later - earlier
  past : ∀ time ∈ times.getLast?, time ≤ last

variable {interval last now : Time} {times : List Time}

theorem paced_nil (interval last : Time) : Paced interval last [] where
  apart := List.isChain_nil
  past := by simp

variable [IsOrderedAddMonoid Time]

/-- The gate opens, and nothing is let through. -/
theorem Paced.open (h : Paced interval last times) (hinterval : 0 ≤ interval)
    (hopen : interval ≤ now - last) : Paced interval now times where
  apart := h.apart
  past time htime := le_trans (h.past time htime) (sub_nonneg.mp (le_trans hinterval hopen))

/-- The gate opens, and something is let through. -/
theorem Paced.pass (h : Paced interval last times) (hopen : interval ≤ now - last) :
    Paced interval now (times ++ [now]) where
  apart := by
    rw [List.isChain_append]
    refine ⟨h.apart, List.isChain_singleton now, ?_⟩
    intro earlier hearlier later hlater
    obtain rfl : now = later := by simpa using hlater
    exact le_trans hopen (sub_le_sub_left (h.past earlier hearlier) now)
  past := by simp

end Gates

end Signals
