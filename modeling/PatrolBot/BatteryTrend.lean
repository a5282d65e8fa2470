import PatrolBot.Library.Binary64
import PatrolBot.Library.LeastSquares
import PatrolBot.Library.Machine

/-!
# The battery's trend

`_TrendEstimator` of `battery_estimator.py`: a line through the samples of the last
minutes, and the time until it meets a threshold.  Its numbers are exact here.
-/

namespace PatrolBot.Battery

inductive State where
  | charging
  | calculating
  | stable
  | estimated
  | thresholdReached
  | unavailable
deriving DecidableEq

inductive Confidence where
  | low
  | medium
  | high
deriving DecidableEq

structure Estimate where
  state : State
  minutesRemaining : Option Int
  confidence : Confidence
deriving DecidableEq

/-- Samples are pairs of a timestamp and a level, the newest last. -/
structure TrendEstimator where
  lowerThreshold : ℚ
  windowSeconds : ℚ := 300
  minSamples : Nat := 4
  maxMinutes : Int := 24 * 60
  samples : List (ℚ × ℚ) := []
  minSamples_pos : 0 < minSamples := by decide

namespace TrendEstimator

/-- The `maxlen` of `_samples`. -/
def maxlen : Nat := 600

/-- `_samples.append` of a deque that drops its oldest entry when it is full. -/
def append (trend : TrendEstimator) (sample : ℚ × ℚ) : List (ℚ × ℚ) :=
  let samples := trend.samples ++ [sample]
  samples.drop (samples.length - maxlen)

def addSample (trend : TrendEstimator) (timestamp value : ℚ) : TrendEstimator :=
  if ∃ newest ∈ trend.samples.getLast?, timestamp ≤ newest.1 then trend
  else
    let cutoff := timestamp - trend.windowSeconds
    { trend with
      samples := (trend.append (timestamp, value)).dropWhile fun sample => sample.1 < cutoff }

/-- The confidence in an estimate that rests on `count` samples over `span` seconds. -/
def confidence (span : ℚ) (count : Nat) : Confidence :=
  if 60 ≤ span ∧ 30 ≤ count then .high
  else if 15 ≤ span ∧ 10 ≤ count then .medium
  else .low

def estimate (trend : TrendEstimator) (charging : Bool) : Estimate :=
  if charging then ⟨.charging, none, .low⟩
  else if trend.samples.length < trend.minSamples then ⟨.calculating, none, .low⟩
  else
    match trend.samples.head?, trend.samples.getLast? with
    | some first, some last =>
      let span := last.1 - first.1
      if span < 3 then ⟨.calculating, none, .low⟩
      else
        let origin := first.1
        let xs := trend.samples.map fun sample => sample.1 - origin
        let ys := trend.samples.map Prod.snd
        let denominator := LeastSquares.spread xs
        if denominator ≤ 0 then ⟨.unavailable, none, .low⟩
        else
          let slope := LeastSquares.comoment xs ys / denominator
          if -1 / 10 ^ 9 ≤ slope then ⟨.stable, none, .low⟩
          else
            let remaining := last.2 - trend.lowerThreshold
            if remaining ≤ 0 then ⟨.thresholdReached, some 0, .high⟩
            else
              let minutes := remaining / -slope / 60
              if minutes ≤ 0 ∨ trend.maxMinutes < minutes then ⟨.unavailable, none, .low⟩
              else
                ⟨.estimated, some (max 1 (Binary64.halfEven minutes)),
                  confidence span xs.length⟩
    -- No samples are fewer than `minSamples`.
    | _, _ => ⟨.calculating, none, .low⟩

/-- The estimator with its samples; it tells nobody about them. -/
def sampling : Machine TrendEstimator (ℚ × ℚ) Empty where
  step trend sample := (trend.addSample sample.1 sample.2, [])

/-! ### The window -/

/-- What the window of samples keeps to. -/
structure Windowed (trend : TrendEstimator) : Prop where
  increasing : (trend.samples.map Prod.fst).Pairwise (· < ·)
  bounded : trend.samples.length ≤ maxlen
  recent : ∀ newest ∈ trend.samples.getLast?, ∀ sample ∈ trend.samples,
    newest.1 - trend.windowSeconds ≤ sample.1

variable {trend : TrendEstimator} {timestamp value cutoff : ℚ} {samples : List (ℚ × ℚ)}

theorem increasing_concat (h : (samples.map Prod.fst).Pairwise (· < ·))
    (hlate : ∀ newest ∈ samples.getLast?, newest.1 < timestamp) (value : ℚ) :
    ((samples ++ [(timestamp, value)]).map Prod.fst).Pairwise (· < ·) := by
  rw [List.map_append]
  apply List.pairwise_append.mpr
  refine ⟨h, List.pairwise_singleton _ _, ?_⟩
  intro early hearly late hlast
  obtain rfl : late = timestamp := List.mem_singleton.mp hlast
  rcases List.eq_nil_or_concat samples with rfl | ⟨older, newest, rfl⟩
  · cases hearly
  · have hnewest := hlate newest (by simp)
    simp only [List.concat_eq_append, List.map_append, List.map_cons, List.map_nil,
      List.pairwise_append] at h hearly
    rcases List.mem_append.mp hearly with holder | hsame
    · exact (h.2.2 early holder newest.1 (by simp)).trans hnewest
    · rw [List.mem_singleton.mp hsame]
      exact hnewest

/-- What is left after the samples before `cutoff` have been taken from the front. -/
theorem le_of_mem_dropWhile (h : (samples.map Prod.fst).Pairwise (· < ·)) {sample : ℚ × ℚ}
    (hsample : sample ∈ samples.dropWhile fun sample => sample.1 < cutoff) :
    cutoff ≤ sample.1 := by
  induction samples with
  | nil => cases hsample
  | cons oldest samples ih =>
    obtain ⟨holdest, hrest⟩ := List.pairwise_cons.mp h
    by_cases hold : oldest.1 < cutoff
    · rw [List.dropWhile_cons_of_pos (by simpa using hold)] at hsample
      exact ih hrest hsample
    · rw [List.dropWhile_cons_of_neg (by simpa using hold)] at hsample
      have hkept := not_lt.mp hold
      rcases List.mem_cons.mp hsample with rfl | hmem
      · exact hkept
      · exact hkept.trans (holdest sample.1 (List.mem_map_of_mem hmem)).le

theorem getLast?_of_suffix {α : Type*} {xs ys : List α} (h : xs <:+ ys) {x : α}
    (hx : x ∈ xs.getLast?) : x ∈ ys.getLast? := by
  obtain ⟨before, rfl⟩ := h
  rw [List.getLast?_append, Option.mem_def.mp hx]
  rfl

theorem length_append (trend : TrendEstimator) (sample : ℚ × ℚ) :
    (trend.append sample).length ≤ maxlen := by
  unfold append
  rw [List.length_drop]
  omega

theorem append_suffix (trend : TrendEstimator) (sample : ℚ × ℚ) :
    trend.append sample <:+ trend.samples ++ [sample] := List.drop_suffix _ _

/-- A sample is ignored, or it is later than all others and puts an end to the oldest. -/
theorem addSample_cases (trend : TrendEstimator) (timestamp value : ℚ) :
    trend.addSample timestamp value = trend ∨
      (∀ newest ∈ trend.samples.getLast?, newest.1 < timestamp) ∧
        ∃ next, trend.addSample timestamp value = { trend with samples := next } ∧
          next = (trend.append (timestamp, value)).dropWhile
            fun sample => sample.1 < timestamp - trend.windowSeconds := by
  unfold addSample
  split
  · exact Or.inl rfl
  · rename_i hlate
    right
    exact ⟨fun newest hnewest => not_le.mp fun hle => hlate ⟨newest, hnewest, hle⟩, _, rfl, rfl⟩

/-- **Step lemma.** -/
theorem windowed_addSample (h : Windowed trend) (timestamp value : ℚ) :
    Windowed (trend.addSample timestamp value) := by
  rcases addSample_cases trend timestamp value with hsame | ⟨hnewer, next, hnext, hsamples⟩
  · rw [hsame]
    exact h
  · have happended := increasing_concat h.increasing hnewer value
    have hkept := append_suffix trend (timestamp, value)
    have hleft : next <:+ trend.append (timestamp, value) := by
      rw [hsamples]
      exact List.dropWhile_suffix _
    rw [hnext]
    constructor
    · exact List.Pairwise.sublist ((hleft.trans hkept).sublist.map Prod.fst) happended
    · exact Nat.le_trans hleft.length_le (length_append _ _)
    · intro newest hnewest sample hsample
      have hlast := getLast?_of_suffix (hleft.trans hkept) hnewest
      obtain rfl : (timestamp, value) = newest := by simpa using hlast
      have hmem : sample ∈ next := hsample
      rw [hsamples] at hmem
      exact le_of_mem_dropWhile
        (List.Pairwise.sublist (hkept.sublist.map Prod.fst) happended) hmem

/-! ### The estimate -/

/-- Samples on a line that falls by `b` a second. -/
def OnLine (a b : ℚ) (samples : List (ℚ × ℚ)) : Prop :=
  ∀ sample ∈ samples, sample.2 = a - b * sample.1

/-- The fit through samples on a line has the line's slope. -/
theorem slope_of_onLine {a b : ℚ} (h : OnLine a b samples) {first last : ℚ × ℚ}
    (hfirst : first ∈ samples) (hlast : last ∈ samples) (hapart : first.1 ≠ last.1) :
    0 < LeastSquares.spread (samples.map fun sample => sample.1 - first.1) ∧
      LeastSquares.comoment (samples.map fun sample => sample.1 - first.1)
          (samples.map Prod.snd) /
        LeastSquares.spread (samples.map fun sample => sample.1 - first.1) = -b := by
  have hx : first.1 - first.1 ∈ samples.map fun sample => sample.1 - first.1 :=
    List.mem_map_of_mem (f := fun sample : ℚ × ℚ => sample.1 - first.1) hfirst
  have hy : last.1 - first.1 ∈ samples.map fun sample => sample.1 - first.1 :=
    List.mem_map_of_mem (f := fun sample : ℚ × ℚ => sample.1 - first.1) hlast
  have hne : first.1 - first.1 ≠ last.1 - first.1 := fun hsame => hapart (by linarith)
  have hlevels : samples.map Prod.snd =
      (samples.map fun sample => sample.1 - first.1).map
        fun x => (a - b * first.1) + -b * x := by
    rw [List.map_map]
    apply List.map_congr_left
    intro sample hsample
    rw [h sample hsample]
    simp only [Function.comp_apply]
    ring
  constructor
  · exact LeastSquares.spread_pos hx hy hne
  · rw [hlevels]
    exact LeastSquares.slope_line _ _ hx hy hne

/-- The estimate for enough samples over enough time, none of which are on charge. -/
theorem estimate_fitted {first last : ℚ × ℚ} (hcount : trend.minSamples ≤ trend.samples.length)
    (hfirst : trend.samples.head? = some first) (hlast : trend.samples.getLast? = some last)
    (hspan : 3 ≤ last.1 - first.1) {slope : ℚ}
    (hspread : 0 < LeastSquares.spread (trend.samples.map fun sample => sample.1 - first.1))
    (hslope : LeastSquares.comoment (trend.samples.map fun sample => sample.1 - first.1)
        (trend.samples.map Prod.snd) /
      LeastSquares.spread (trend.samples.map fun sample => sample.1 - first.1) = slope)
    (hfalls : slope < -1 / 10 ^ 9) (habove : trend.lowerThreshold < last.2) :
    trend.estimate false =
      if trend.maxMinutes < (last.2 - trend.lowerThreshold) / -slope / 60 then
        ⟨.unavailable, none, .low⟩
      else ⟨.estimated,
        some (max 1 (Binary64.halfEven ((last.2 - trend.lowerThreshold) / -slope / 60))),
        confidence (last.1 - first.1) trend.samples.length⟩ := by
  have hminutes : 0 < (last.2 - trend.lowerThreshold) / -slope / 60 := by
    have hremaining : 0 < last.2 - trend.lowerThreshold := by linarith
    have hpositive : 0 < -slope := by linarith
    positivity
  unfold estimate
  rw [if_neg Bool.false_ne_true, if_neg (not_lt.mpr hcount), hfirst, hlast]
  simp only
  rw [if_neg (not_lt.mpr hspan), if_neg (not_le.mpr hspread), hslope,
    if_neg (not_le.mpr hfalls), if_neg (not_le.mpr (sub_pos.mpr habove)), List.length_map]
  simp only [not_le.mpr hminutes, false_or]

/-- The line's own slope and levels decide the estimate. -/
theorem estimate_onLine {a b : ℚ} {first last : ℚ × ℚ} (hline : OnLine a b trend.samples)
    (hb : 1 / 10 ^ 9 < b) (hcount : trend.minSamples ≤ trend.samples.length)
    (hfirst : first ∈ trend.samples.head?) (hlast : last ∈ trend.samples.getLast?)
    (hspan : 3 ≤ last.1 - first.1) (habove : trend.lowerThreshold < last.2) :
    trend.estimate false =
      if trend.maxMinutes < (last.2 - trend.lowerThreshold) / b / 60 then
        ⟨.unavailable, none, .low⟩
      else ⟨.estimated,
        some (max 1 (Binary64.halfEven ((last.2 - trend.lowerThreshold) / b / 60))),
        confidence (last.1 - first.1) trend.samples.length⟩ := by
  have hapart : first.1 ≠ last.1 := by
    intro hsame
    rw [hsame] at hspan
    linarith
  obtain ⟨hspread, hslope⟩ := slope_of_onLine hline (List.mem_of_head? hfirst)
    (List.mem_of_getLast? hlast) hapart
  have hfitted := estimate_fitted hcount hfirst hlast hspan hspread hslope (by linarith) habove
  rwa [neg_neg] at hfitted

/-! ### The minutes -/

theorem halfEven_le {x : ℚ} {n : ℤ} (h : x ≤ n) : Binary64.halfEven x ≤ n := by
  by_contra hover
  have hstep : (n : ℚ) + 1 ≤ Binary64.halfEven x := by exact_mod_cast not_le.mp hover
  have hnear := (abs_le.mp (Binary64.abs_halfEven_sub_le x)).2
  linarith

/-- Minutes are given in exactly two states, and are between none and the limit. -/
structure Sensible (limit : Int) (estimate : Estimate) : Prop where
  given : estimate.minutesRemaining.isSome ↔
    estimate.state = .estimated ∨ estimate.state = .thresholdReached
  bounds : ∀ minutes ∈ estimate.minutesRemaining, 0 ≤ minutes ∧ minutes ≤ limit

theorem sensible_none {limit : Int} {estimate : Estimate} (hnone : estimate.minutesRemaining = none)
    (hstate : estimate.state ≠ .estimated ∧ estimate.state ≠ .thresholdReached) :
    Sensible limit estimate := by
  constructor
  · simp [hnone, hstate.1, hstate.2]
  · intro minutes hminutes
    rw [hnone] at hminutes
    cases hminutes

theorem sensible_estimate (hmax : 1 ≤ trend.maxMinutes) (charging : Bool) :
    Sensible trend.maxMinutes (trend.estimate charging) := by
  unfold estimate
  split
  · exact sensible_none rfl (by decide)
  split
  · exact sensible_none rfl (by decide)
  split
  · simp only
    split
    · exact sensible_none rfl (by decide)
    split
    · exact sensible_none rfl (by decide)
    split
    · exact sensible_none rfl (by decide)
    split
    · constructor
      · decide
      · intro minutes hminutes
        obtain rfl : 0 = minutes := Option.some.inj hminutes
        exact ⟨le_refl 0, by omega⟩
    split
    · exact sensible_none rfl (by decide)
    · rename_i hminutes
      constructor
      · exact ⟨fun _ => Or.inl rfl, fun _ => rfl⟩
      · intro minutes hgiven
        rw [not_or, not_lt] at hminutes
        obtain rfl := Option.some.inj hgiven
        have hday := halfEven_le hminutes.2
        constructor
        · omega
        · omega
  · exact sensible_none rfl (by decide)

/-! ### The promise -/

/-- An estimator with the parameters of its class's defaults, for the samples it holds. -/
def holding (lowerThreshold : ℚ) (samples : List (ℚ × ℚ)) : TrendEstimator where
  lowerThreshold := lowerThreshold
  samples := samples

/-- The samples that are held are those of the last five minutes, and from samples that
    lie on a falling line the estimate is the time that the line takes. -/
structure Follows (lowerThreshold : ℚ) (trend : TrendEstimator) : Prop where
  increasing : (trend.samples.map Prod.fst).Pairwise (· < ·)
  bounded : trend.samples.length ≤ 600
  recent : ∀ newest ∈ trend.samples.getLast?, ∀ sample ∈ trend.samples,
    newest.1 - 300 ≤ sample.1
  line : ∀ a b, 1 / 10 ^ 9 < b → OnLine a b trend.samples → 4 ≤ trend.samples.length →
    ∀ first ∈ trend.samples.head?, ∀ last ∈ trend.samples.getLast?,
      3 ≤ last.1 - first.1 → lowerThreshold < last.2 →
      let minutes := (last.2 - lowerThreshold) / b / 60
      (minutes ≤ 24 * 60 → (trend.estimate false).state = .estimated ∧
        (trend.estimate false).minutesRemaining = some (max 1 (Binary64.halfEven minutes))) ∧
      (24 * 60 < minutes → (trend.estimate false).state = .unavailable)

theorem follows_of_windowed {lowerThreshold : ℚ}
    (h : Windowed (holding lowerThreshold samples)) :
    Follows lowerThreshold (holding lowerThreshold samples) := by
  refine ⟨h.increasing, h.bounded, h.recent, ?_⟩
  intro a b hb hline hcount first hfirst last hlast hspan habove minutes
  have hestimate := estimate_onLine hline hb hcount hfirst hlast hspan habove
  have hday : (((holding lowerThreshold samples).maxMinutes : Int) : ℚ) = 24 * 60 := by
    norm_num [holding]
  have hthreshold : (holding lowerThreshold samples).lowerThreshold = lowerThreshold := rfl
  rw [hday, hthreshold] at hestimate
  constructor
  · intro hsoon
    rw [hestimate.trans (if_neg (not_lt.mpr hsoon))]
    exact ⟨rfl, rfl⟩
  · intro hlate
    rw [hestimate.trans (if_pos hlate)]

theorem holding_addSample (lowerThreshold timestamp value : ℚ) (samples : List (ℚ × ℚ)) :
    ∃ next, (holding lowerThreshold samples).addSample timestamp value =
      holding lowerThreshold next := by
  rcases addSample_cases (holding lowerThreshold samples) timestamp value with
    hsame | ⟨_, next, hnext, _⟩
  · exact ⟨samples, hsame⟩
  · exact ⟨next, hnext⟩

/-- Whatever samples arrive, the estimator follows those of the last five minutes, and
    an estimate from any samples gives sensible minutes. -/
theorem follows_run (lowerThreshold : ℚ) (arriving : List (ℚ × ℚ)) :
    Follows lowerThreshold (sampling.run (holding lowerThreshold []) arriving) ∧
      ∀ held charging,
        Sensible (24 * 60) ((holding lowerThreshold held).estimate charging) := by
  constructor
  · have hrun : Windowed (sampling.run (holding lowerThreshold []) arriving) ∧
        ∃ held, sampling.run (holding lowerThreshold []) arriving =
          holding lowerThreshold held := by
      apply sampling.invariant
        (fun trend => Windowed trend ∧ ∃ held, trend = holding lowerThreshold held) _ _
        (sampling.along_true _ arriving)
      · rintro trend sample _ ⟨hwindowed, held, rfl⟩
        exact ⟨windowed_addSample hwindowed _ _, holding_addSample lowerThreshold _ _ held⟩
      · constructor
        · constructor
          · exact List.Pairwise.nil
          · exact Nat.zero_le _
          · intro newest hnewest
            cases hnewest
        · exact ⟨[], rfl⟩
    obtain ⟨hwindowed, held, hheld⟩ := hrun
    rw [hheld] at hwindowed ⊢
    exact follows_of_windowed hwindowed
  · intro held charging
    have hlimit : 1 ≤ (holding lowerThreshold held).maxMinutes := by simp [holding]
    exact sensible_estimate hlimit charging

/-- Ten samples of a pack that loses a tenth of a volt a minute: two hours to 22 V. -/
example : ((holding 22 ((List.range 10).map fun n : Nat =>
    ((n * 6 : ℚ), 34 - (n * 6 : ℚ) / 600))).estimate false) =
      ⟨.estimated, some 119, .medium⟩ := by decide +kernel

end TrendEstimator

end PatrolBot.Battery
