import Mathlib.Data.List.DropRight
import Mathlib.Data.Rat.Floor
import Mathlib.Tactic.Linarith
import PatrolBot.Library.Machine

/-!
# The debounce filter

`Debounce` of the bridge holds a value that flaps at its last stable reading.  A reading
comes with the time that the filter's clock shows for it; times are exact numbers here.
-/

namespace PatrolBot

structure Debounce (α : Type*) where
  settleS : ℚ
  stable : Option α
  candidate : Option α
  candidateSince : ℚ
  seeded : Bool

namespace Debounce

variable {α : Type*}

/-- `Debounce.__init__`. -/
def init (settleS : ℚ) : Debounce α where
  settleS := settleS
  stable := none
  candidate := none
  candidateSince := 0
  seeded := false

variable [DecidableEq α]

/-- `update`: the new state and the value to act on. -/
def update (filter : Debounce α) (value : α) (now : ℚ) : Debounce α × Option α :=
  let watching : Debounce α := { filter with candidate := some value, candidateSince := now }
  if filter.seeded = false then
    ({ watching with seeded := true, stable := some value }, some value)
  else if some value = filter.stable then (watching, filter.stable)
  else if some value ≠ filter.candidate then (watching, filter.stable)
  else if filter.settleS ≤ now - filter.candidateSince then
    ({ filter with stable := some value }, some value)
  else (filter, filter.stable)

/-- The filter with its readings: the outputs are the values to act on. -/
def filtering : Machine (Debounce α) (α × ℚ) (Option α) where
  step filter reading :=
    let answer := filter.update reading.1 reading.2
    (answer.1, [answer.2])

/-- The state after the readings. -/
def after (settleS : ℚ) (readings : List (α × ℚ)) : Debounce α :=
  filtering.run (init settleS) readings

/-- The value that is reported after the readings. -/
def reported (settleS : ℚ) (readings : List (α × ℚ)) : Option α := (after settleS readings).stable

/-- The longest run, up to the last reading, of readings that are equal to `value`. -/
def runOf (value : α) (readings : List (α × ℚ)) : List (α × ℚ) :=
  readings.rtakeWhile fun reading => reading.1 = value

/-- The longest run, up to the last reading, of readings that differ from `value`. -/
def runOff (value : α) (readings : List (α × ℚ)) : List (α × ℚ) :=
  readings.rtakeWhile fun reading => reading.1 ≠ value

/-- From the first reading of a run to its last less than `settleS` goes by. -/
def Short (settleS : ℚ) (run : List (α × ℚ)) : Prop :=
  ∀ first ∈ run.head?, ∀ last ∈ run.getLast?, last.2 - first.2 < settleS

/-- What `update` answers is what the filter holds afterwards. -/
theorem update_answer (filter : Debounce α) (value : α) (now : ℚ) :
    (filter.update value now).2 = (filter.update value now).1.stable := by
  unfold update
  simp only
  split_ifs
  all_goals rfl

theorem after_concat (settleS : ℚ) (readings : List (α × ℚ)) (reading : α × ℚ) :
    after settleS (readings ++ [reading]) =
      ((after settleS readings).update reading.1 reading.2).1 := by
  unfold after
  rw [Machine.run_append]
  rfl

/-! ### The candidate -/

/-- After some readings the candidate is the last of them, and unless that is the stable
    value it has been the candidate since its run began. -/
structure Tracks (settleS : ℚ) (readings : List (α × ℚ)) (filter : Debounce α) : Prop where
  settle : filter.settleS = settleS
  seeded : filter.seeded = true
  stable : filter.stable.isSome
  last : ∃ reading ∈ readings.getLast?, filter.candidate = some reading.1
  since : ∀ value, filter.candidate = some value → filter.stable ≠ some value →
    ∃ start ∈ (runOf value readings).head?, start.2 = filter.candidateSince

variable {settleS : ℚ} {readings : List (α × ℚ)} {filter : Debounce α} {value other : α} {now : ℚ}

/-- What a reading does to a filter that has had one. -/
theorem update_cases (hseeded : filter.seeded = true) (value : α) (now : ℚ) :
    (filter.stable = some value ∧ (filter.update value now).1 =
        { filter with candidate := some value, candidateSince := now }) ∨
      (filter.stable ≠ some value ∧ filter.candidate ≠ some value ∧
        (filter.update value now).1 =
          { filter with candidate := some value, candidateSince := now }) ∨
      (filter.stable ≠ some value ∧ filter.candidate = some value ∧
        filter.settleS ≤ now - filter.candidateSince ∧
        (filter.update value now).1 = { filter with stable := some value }) ∨
      (filter.stable ≠ some value ∧ filter.candidate = some value ∧
        (filter.update value now).1 = filter) := by
  unfold update
  by_cases hstable : some value = filter.stable
  · left
    simp [hseeded, hstable]
  by_cases hcandidate : some value = filter.candidate
  · right; right
    by_cases hsettled : filter.settleS ≤ now - filter.candidateSince
    · left
      simp [hseeded, ← hcandidate, hsettled, Ne.symm hstable, hstable]
    · right
      simp [hseeded, ← hcandidate, hsettled, Ne.symm hstable, hstable]
  · right; left
    simp [hseeded, hstable, hcandidate, Ne.symm hstable, Ne.symm hcandidate]

theorem runOf_concat (value : α) (readings : List (α × ℚ)) (now : ℚ) :
    runOf value (readings ++ [(value, now)]) = runOf value readings ++ [(value, now)] := by
  simp [runOf]

theorem runOf_eq_nil (h : ∃ reading ∈ readings.getLast?, reading.1 ≠ value) :
    runOf value readings = [] := by
  obtain ⟨reading, hlast, hne⟩ := h
  obtain ⟨before, rfl⟩ := List.getLast?_eq_some_iff.mp hlast
  simp [runOf, hne]

/-- A reading that goes on with a run leaves its start where it was. -/
theorem head_runOf_concat {start : α × ℚ} (h : start ∈ (runOf value readings).head?) :
    start ∈ (runOf value (readings ++ [(value, now)])).head? := by
  rw [runOf_concat, List.head?_append, Option.mem_def.mp h]
  rfl

theorem tracks_first (settleS : ℚ) (reading : α × ℚ) :
    Tracks settleS [reading] (after settleS [reading]) := by
  have hafter : after settleS [reading] =
      ⟨settleS, some reading.1, some reading.1, reading.2, true⟩ := rfl
  rw [hafter]
  constructor
  · rfl
  · rfl
  · rfl
  · exact ⟨reading, rfl, rfl⟩
  · intro value hcandidate hstable
    exact absurd hcandidate hstable

/-- **Step lemma.**  A reading keeps track of the candidate's run. -/
theorem tracks_update (h : Tracks settleS readings filter) (value : α) (now : ℚ) :
    Tracks settleS (readings ++ [(value, now)]) (filter.update value now).1 := by
  have hlast : (readings ++ [(value, now)]).getLast? = some (value, now) := by simp
  rcases update_cases h.seeded value now with ⟨hstable, hnext⟩ | ⟨hstable, hcandidate, hnext⟩ |
      ⟨_, hcandidate, _, hnext⟩ | ⟨_, hcandidate, hnext⟩
  · rw [hnext]
    refine ⟨h.settle, h.seeded, h.stable, ⟨_, hlast, rfl⟩, ?_⟩
    intro other hother hne
    exact absurd (hstable.trans hother) hne
  · rw [hnext]
    refine ⟨h.settle, h.seeded, h.stable, ⟨_, hlast, rfl⟩, ?_⟩
    intro other hother _
    obtain rfl : value = other := Option.some.inj hother
    obtain ⟨reading, hreading, hwatched⟩ := h.last
    have hbroken : runOf value readings = [] := by
      apply runOf_eq_nil
      refine ⟨reading, hreading, ?_⟩
      rintro rfl
      exact hcandidate hwatched
    refine ⟨(value, now), ?_, rfl⟩
    rw [runOf_concat, hbroken]
    rfl
  · rw [hnext]
    refine ⟨h.settle, h.seeded, rfl, ⟨_, hlast, hcandidate⟩, ?_⟩
    intro other hother hne
    exact absurd (hcandidate.symm.trans hother) hne
  · rw [hnext]
    refine ⟨h.settle, h.seeded, h.stable, ⟨_, hlast, hcandidate⟩, ?_⟩
    intro other hother hne
    obtain rfl : value = other := Option.some.inj (hcandidate.symm.trans hother)
    obtain ⟨start, hstart, hsince⟩ := h.since value hcandidate hne
    exact ⟨start, head_runOf_concat hstart, hsince⟩

/-- **Run lemma.** -/
theorem tracks_run (h : readings ≠ []) : Tracks settleS readings (after settleS readings) := by
  induction readings using List.reverseRecOn with
  | nil => exact absurd rfl h
  | append_singleton readings reading ih =>
    by_cases hempty : readings = []
    · subst hempty
      exact tracks_first settleS reading
    · rw [after_concat]
      exact tracks_update (ih hempty) reading.1 reading.2

/-! ### When the report changes -/

/-- The report only ever moves to a reading that has held for the settling time. -/
theorem settled_of_change (hsome : readings ≠ [])
    (h : reported settleS (readings ++ [(value, now)]) ≠ reported settleS readings) :
    reported settleS (readings ++ [(value, now)]) = some value ∧
      ∃ start ∈ (runOf value readings).head?, start.2 ≤ now - settleS := by
  have htracks := @tracks_run _ _ settleS _ hsome
  unfold reported at h ⊢
  rw [after_concat] at h ⊢
  rcases update_cases htracks.seeded value now with ⟨_, hnext⟩ | ⟨_, _, hnext⟩ |
      ⟨hstable, hcandidate, hsettled, hnext⟩ | ⟨_, _, hnext⟩
  · exact absurd (by rw [hnext]) h
  · exact absurd (by rw [hnext]) h
  · obtain ⟨start, hstart, hsince⟩ := htracks.since value hcandidate hstable
    refine ⟨by rw [hnext], start, hstart, ?_⟩
    rw [htracks.settle] at hsettled
    linarith
  · exact absurd (by rw [hnext]) h

omit [DecidableEq α] in
theorem rtakeWhile_suffix_rtakeWhile {p q : α → Bool} (hpq : ∀ x, p x = true → q x = true)
    (xs : List α) : xs.rtakeWhile p <:+ xs.rtakeWhile q := by
  induction xs using List.reverseRecOn with
  | nil => exact List.suffix_refl _
  | append_singleton xs x ih =>
    by_cases hp : p x = true
    · rw [List.rtakeWhile_concat_pos p xs x hp, List.rtakeWhile_concat_pos q xs x (hpq x hp)]
      obtain ⟨before, hbefore⟩ := ih
      exact ⟨before, by rw [← List.append_assoc, hbefore]⟩
    · rw [List.rtakeWhile_concat_neg p xs x hp]
      exact List.nil_suffix

omit [DecidableEq α] in
/-- The longer of two runs up to the same reading begins no later. -/
theorem head_le_head {run longer : List (α × ℚ)} (h : run <:+ longer)
    (hclock : (longer.map Prod.snd).Pairwise (· ≤ ·)) {start first : α × ℚ}
    (hstart : start ∈ run.head?) (hfirst : first ∈ longer.head?) : first.2 ≤ start.2 := by
  have hmem : start ∈ longer := h.mem (List.mem_of_head? hstart)
  obtain ⟨rest, rfl⟩ := List.head?_eq_some_iff.mp hfirst
  rcases List.mem_cons.mp hmem with rfl | hmem
  · exact le_refl _
  · exact (List.pairwise_cons.mp hclock).1 start.2 (List.mem_map_of_mem hmem)

/-- A short excursion from the stable value does not change the report. -/
theorem reported_concat_of_short (hsome : readings ≠ [])
    (hclock : ((readings ++ [(other, now)]).map Prod.snd).Pairwise (· ≤ ·))
    (hreported : reported settleS readings = some value)
    (hshort : Short settleS (runOff value (readings ++ [(other, now)]))) :
    reported settleS (readings ++ [(other, now)]) = some value := by
  by_contra hchange
  have hmoved : reported settleS (readings ++ [(other, now)]) ≠ reported settleS readings := by
    rw [hreported]
    exact hchange
  obtain ⟨hother, start, hstart, hsettled⟩ := settled_of_change hsome hmoved
  have hne : other ≠ value := by
    rintro rfl
    exact hchange hother
  have hsuffix : runOf other (readings ++ [(other, now)]) <:+
      runOff value (readings ++ [(other, now)]) := by
    apply rtakeWhile_suffix_rtakeWhile
    intro reading hreading
    have hequal : reading.1 = other := of_decide_eq_true hreading
    rw [hequal]
    exact decide_eq_true hne
  have hrun := @head_runOf_concat _ _ _ _ now _ hstart
  have hlast : (runOff value (readings ++ [(other, now)])).getLast? = some (other, now) := by
    simp [runOff, hne]
  obtain ⟨first, hfirst⟩ : ∃ first, first ∈ (runOff value (readings ++ [(other, now)])).head? := by
    cases hoff : runOff value (readings ++ [(other, now)]) with
    | nil => simp [hoff] at hlast
    | cons first rest => exact ⟨first, rfl⟩
  have hbegan := head_le_head hsuffix
    (hclock.sublist ((List.rtakeWhile_suffix _ _).sublist.map Prod.snd)) hrun hfirst
  have hspan := hshort first hfirst (other, now) hlast
  linarith

/-- What the filter promises of a sequence of readings. -/
structure Debounced (settleS : ℚ) (readings : List (α × ℚ)) : Prop where
  /-- The report is what `update` answers. -/
  answers : ∀ before reading later, readings = before ++ reading :: later →
    ((after settleS before).update reading.1 reading.2).2 =
      reported settleS (before ++ [reading])
  first : ∀ reading later, readings = reading :: later →
    reported settleS [reading] = some reading.1
  change : ∀ before reading later, readings = before ++ reading :: later → before ≠ [] →
    ∀ value, reported settleS before ≠ some value →
      reported settleS (before ++ [reading]) = some value →
      ∃ start ∈ (runOf value (before ++ [reading])).head?, start.2 ≤ reading.2 - settleS
  steady : ∀ before later, readings = before ++ later → before ≠ [] →
    ∀ value, reported settleS before = some value →
      (∀ next, next <+: later → Short settleS (runOff value (before ++ next))) →
      ∀ next, next <+: later → reported settleS (before ++ next) = some value

end Debounce

end PatrolBot
