import Mathlib.Algebra.Order.Field.Rat
import Mathlib.Data.NNRat.Defs
import Mathlib.Tactic.Linarith
import Mathlib.Tactic.Ring
import PatrolBot.Library.Machine

/-!
# The replay's playhead

The replay store of the dashboard keeps its position as an anchor: a place in the
recording and the clock's reading when the playhead was there.  A call happens at one
reading of the clock; milliseconds are exact numbers here.
-/

namespace PatrolBot

/-- The part of the replay store that the transport controls read and write. -/
structure Replay where
  durationMs : ℚ≥0
  playing : Bool
  speed : ℚ≥0
  tMs : ℚ
  startedAtMono : ℚ
  startedAtT : ℚ
deriving DecidableEq

inductive Transport where
  | play
  | pause
  | seek (tMs : ℚ)
  | setSpeed (speed : ℚ≥0)
deriving DecidableEq

namespace Replay

/-- The store after `load`, which starts to play if there is a route. -/
def loaded (durationMs : ℚ≥0) (playing : Bool) (speed : ℚ≥0) (mono : ℚ) : Replay where
  durationMs := durationMs
  playing := playing
  speed := speed
  tMs := 0
  startedAtMono := mono
  startedAtT := 0

/-- `now`, when the clock shows `mono`. -/
def now (replay : Replay) (mono : ℚ) : ℚ :=
  if replay.playing = false then replay.tMs
  else
    let t := replay.startedAtT + (mono - replay.startedAtMono) * replay.speed
    min t replay.durationMs

def play (replay : Replay) (mono : ℚ) : Replay :=
  let start := if replay.durationMs ≤ replay.tMs then 0 else replay.tMs
  { replay with playing := true, tMs := start, startedAtMono := mono, startedAtT := start }

def pause (replay : Replay) (mono : ℚ) : Replay :=
  { replay with playing := false, tMs := replay.now mono }

def seek (replay : Replay) (tMs mono : ℚ) : Replay :=
  { replay with tMs := tMs, startedAtMono := mono, startedAtT := tMs }

def setSpeed (replay : Replay) (speed : ℚ≥0) (mono : ℚ) : Replay :=
  let t := replay.now mono
  { replay with speed := speed, tMs := t, startedAtMono := mono, startedAtT := t }

def call (replay : Replay) (mono : ℚ) : Transport → Replay
  | .play => replay.play mono
  | .pause => replay.pause mono
  | .seek tMs => replay.seek tMs mono
  | .setSpeed speed => replay.setSpeed speed mono

/-- The calls with the clock's readings: the outputs are the playhead after each call. -/
def transport : Machine Replay (Transport × ℚ) ℚ where
  step replay event :=
    let next := replay.call event.2 event.1
    (next, [next.now event.2])

/-! ### What is asked of a call, and of the time between calls -/

/-- `setSpeed` and `pause` leave the playhead where it is, and `play` moves it only
    from the end of the recording back to its start. -/
def KeepsPlayhead (replay : Replay) : Transport × ℚ → Prop
  | (.play, mono) => (replay.play mono).now mono = replay.now mono ∨
      replay.durationMs ≤ replay.now mono ∧ (replay.play mono).now mono = 0
  | (.pause, mono) => (replay.pause mono).now mono = replay.now mono
  | (.setSpeed speed, mono) => (replay.setSpeed speed mono).now mono = replay.now mono
  | (.seek _, _) => True

instance decidableKeepsPlayhead (replay : Replay) : DecidablePred (KeepsPlayhead replay)
  | (.play, _) => inferInstanceAs (Decidable (_ ∨ _))
  | (.pause, _) => inferInstanceAs (Decidable (_ = _))
  | (.setSpeed _, _) => inferInstanceAs (Decidable (_ = _))
  | (.seek _, _) => inferInstanceAs (Decidable True)

/-- While it plays, the playhead advances at the current speed, and stops at the end. -/
def Advances (replay : Replay) : Prop :=
  replay.playing = true → ∀ mono later, mono ≤ later →
    replay.now later ≤ replay.durationMs ∧
      replay.now later =
        min (replay.now mono + (later - mono) * replay.speed) replay.durationMs

/-- Every call of a run keeps the playhead, and it advances before and after every call. -/
structure Smooth (start : Replay) (calls : List (Transport × ℚ)) : Prop where
  keeps : ∀ before event after, calls = before ++ event :: after →
    KeepsPlayhead (transport.run start before) event
  advances : ∀ before after, calls = before ++ after → Advances (transport.run start before)

/-- How far the playhead has come since it was anchored. -/
def travelled (replay : Replay) (mono : ℚ) : ℚ := (mono - replay.startedAtMono) * replay.speed

/-- A `play` that comes while the replay is playing finds the anchor at the end, or the
    playhead still at its anchor, or the whole recording played since an anchor at 0. -/
def Resumable (replay : Replay) (event : Transport × ℚ) : Prop :=
  event.1 = .play → replay.playing = true →
    replay.durationMs ≤ replay.tMs ∨ replay.travelled event.2 = 0 ∨
      replay.tMs = 0 ∧ replay.durationMs ≤ replay.travelled event.2

instance decidableResumable (replay : Replay) (event : Transport × ℚ) :
    Decidable (Resumable replay event) :=
  inferInstanceAs (Decidable (_ → _ → _ ∨ _))

/-! ### Steps -/

/-- While it plays, the shown position is the anchor. -/
def Anchored (replay : Replay) : Prop := replay.playing = true → replay.startedAtT = replay.tMs

variable {replay start : Replay} {mono later : ℚ} {calls : List (Transport × ℚ)}

theorem now_paused (h : replay.playing = false) : replay.now mono = replay.tMs := if_pos h

theorem now_playing (h : replay.playing = true) :
    replay.now mono = min (replay.startedAtT + replay.travelled mono) replay.durationMs := by
  simp [now, travelled, h]

theorem min_min_add {position moved duration : ℚ} (hmoved : 0 ≤ moved) :
    min (min position duration + moved) duration = min (position + moved) duration := by
  rcases le_total position duration with hbefore | hpast
  · rw [min_eq_left hbefore]
  · rw [min_eq_right hpast, min_eq_right (by linarith), min_eq_right (by linarith)]

theorem advances (replay : Replay) : Advances replay := by
  intro hplaying mono later hlater
  have hmoved : 0 ≤ (later - mono) * (replay.speed : ℚ) :=
    mul_nonneg (by linarith) replay.speed.coe_nonneg
  have hsplit : replay.travelled later =
      replay.travelled mono + (later - mono) * replay.speed := by
    unfold travelled
    ring
  rw [now_playing hplaying, now_playing hplaying, min_min_add hmoved, hsplit, add_assoc]
  exact ⟨min_le_right _ _, rfl⟩

theorem travelled_nonneg (h : replay.startedAtMono ≤ mono) : 0 ≤ replay.travelled mono :=
  mul_nonneg (by linarith) replay.speed.coe_nonneg

/-- Right after it is anchored, the playhead stands at its anchor or at the end. -/
theorem now_anchored (hmono : replay.startedAtMono = mono) (hanchor : Anchored replay) :
    replay.now mono = if replay.playing = true then min replay.tMs replay.durationMs
      else replay.tMs := by
  cases hplaying : replay.playing with
  | false => rw [now_paused hplaying]; simp
  | true =>
    have hstill : replay.travelled mono = 0 := by simp [travelled, hmono]
    rw [now_playing hplaying, hstill, add_zero, hanchor hplaying]
    simp

theorem now_pause (replay : Replay) (mono : ℚ) : (replay.pause mono).now mono = replay.now mono :=
  rfl

theorem now_setSpeed (replay : Replay) (speed : ℚ≥0) (mono : ℚ) :
    (replay.setSpeed speed mono).now mono = replay.now mono := by
  have hafter := @now_anchored (replay.setSpeed speed mono) mono rfl
    (fun _ => rfl)
  rw [hafter]
  split
  · rename_i hplaying
    have hcapped : replay.now mono ≤ replay.durationMs :=
      (advances replay hplaying mono mono (le_refl _)).1
    exact min_eq_left hcapped
  · rfl

/-- From the end `play` starts over, and from any other place it goes on there. -/
theorem now_play (replay : Replay) (mono : ℚ) :
    (replay.play mono).now mono =
      if (replay.durationMs : ℚ) ≤ replay.tMs then 0 else replay.tMs := by
  have hafter := @now_anchored (replay.play mono) mono rfl (fun _ => rfl)
  have hduration : (0 : ℚ) ≤ replay.durationMs := replay.durationMs.coe_nonneg
  rw [hafter]
  by_cases hend : (replay.durationMs : ℚ) ≤ replay.tMs
  · simp [play, hend, hduration]
  · simp [play, hend, (not_le.mp hend).le]

theorem resumable_of_ne {event : Transport × ℚ} (h : event.1 ≠ .play) :
    Resumable replay event := fun hplay => absurd hplay h

theorem keeps_play_paused (hpaused : replay.playing = false) (mono : ℚ) :
    KeepsPlayhead replay (.play, mono) := by
  simp only [KeepsPlayhead]
  rw [now_play, now_paused hpaused]
  split
  · rename_i hend
    exact Or.inr ⟨hend, rfl⟩
  · exact Or.inl rfl

/-- A `play` that comes while the replay is playing goes back to the anchor. -/
theorem keeps_play_playing (hplaying : replay.playing = true) (hanchor : Anchored replay)
    (hmono : replay.startedAtMono ≤ mono) :
    KeepsPlayhead replay (.play, mono) ↔
      replay.durationMs ≤ replay.tMs ∨ replay.travelled mono = 0 ∨
        replay.tMs = 0 ∧ replay.durationMs ≤ replay.travelled mono := by
  have hmoved := travelled_nonneg hmono
  simp only [KeepsPlayhead]
  rw [now_play, now_playing hplaying, hanchor hplaying]
  rcases le_or_gt (replay.durationMs : ℚ) replay.tMs with hend | hbefore
  · have hnow : min (replay.tMs + replay.travelled mono) replay.durationMs = replay.durationMs :=
      min_eq_right (by linarith)
    rw [if_pos hend, hnow]
    exact ⟨fun _ => Or.inl hend, fun _ => Or.inr ⟨le_refl _, rfl⟩⟩
  · rw [if_neg (not_le.mpr hbefore)]
    constructor
    · rintro (hsame | ⟨hend, hzero⟩)
      · right; left
        rcases min_choice (replay.tMs + replay.travelled mono) replay.durationMs with hmin | hmin
        · rw [hmin] at hsame
          linarith
        · rw [hmin] at hsame
          linarith
      · right; right
        have hpast := hend.trans (min_le_left _ _)
        exact ⟨hzero, by rwa [hzero, zero_add] at hpast⟩
    · rintro (hend | hstill | ⟨hzero, hpast⟩)
      · exact absurd hend (not_le.mpr hbefore)
      · left
        rw [hstill, add_zero, min_eq_left hbefore.le]
      · right
        rw [hzero, zero_add, min_eq_right hpast]
        exact ⟨le_refl _, rfl⟩

/-- **Step lemma.**  Exactly the resumable calls keep the playhead. -/
theorem keepsPlayhead_iff (hanchor : Anchored replay) {event : Transport × ℚ}
    (hmono : replay.startedAtMono ≤ event.2) :
    KeepsPlayhead replay event ↔ Resumable replay event := by
  obtain ⟨action, mono⟩ := event
  cases action with
  | pause => exact iff_of_true (now_pause replay mono) (resumable_of_ne Transport.noConfusion)
  | seek tMs => exact iff_of_true trivial (resumable_of_ne Transport.noConfusion)
  | setSpeed speed =>
    exact iff_of_true (now_setSpeed replay speed mono) (resumable_of_ne Transport.noConfusion)
  | play =>
    cases hplaying : replay.playing with
    | false =>
      apply iff_of_true (keeps_play_paused hplaying mono)
      intro _ hother
      exact absurd (hplaying.symm.trans hother) Bool.false_ne_true
    | true =>
      rw [keeps_play_playing hplaying hanchor hmono]
      exact ⟨fun h _ _ => h, fun h => h rfl hplaying⟩

/-- Every call leaves an anchor behind. -/
theorem anchored_call (replay : Replay) (mono : ℚ) (action : Transport) :
    Anchored (replay.call mono action) := by
  cases action with
  | play => exact fun _ => rfl
  | pause => exact fun h => absurd h Bool.false_ne_true
  | seek tMs => exact fun _ => rfl
  | setSpeed speed => exact fun _ => rfl

theorem startedAtMono_call (hmono : replay.startedAtMono ≤ mono) (action : Transport) :
    (replay.call mono action).startedAtMono ≤ mono := by
  cases action with
  | play => exact le_refl _
  | pause => exact hmono
  | seek tMs => exact le_refl _
  | setSpeed speed => exact le_refl _

/-! ### Runs -/

/-- The clock does not go back from one call to the next. -/
def Clocked (replay : Replay) (calls : List (Transport × ℚ)) : Prop :=
  (replay.startedAtMono :: calls.map Prod.snd).Pairwise (· ≤ ·)

theorem clocked_step {event : Transport × ℚ} (h : Clocked replay (event :: calls)) :
    Clocked (transport.step replay event).1 calls := by
  have hlater := (List.pairwise_cons.mp h).2
  have hmono := startedAtMono_call ((List.pairwise_cons.mp h).1 event.2 List.mem_cons_self) event.1
  apply List.pairwise_cons.mpr
  refine ⟨?_, (List.pairwise_cons.mp hlater).2⟩
  intro time hmem
  exact hmono.trans ((List.pairwise_cons.mp hlater).1 time hmem)

/-- **Run lemma.**  Along a run the calls that keep the playhead are the resumable ones. -/
theorem along_keeps_iff (hanchor : Anchored replay) (hclock : Clocked replay calls) :
    transport.Along KeepsPlayhead replay calls ↔ transport.Along Resumable replay calls := by
  induction calls generalizing replay with
  | nil => exact Iff.rfl
  | cons event calls ih =>
    have hmono : replay.startedAtMono ≤ event.2 :=
      (List.pairwise_cons.mp hclock).1 event.2 List.mem_cons_self
    exact and_congr (keepsPlayhead_iff hanchor hmono)
      (ih (anchored_call replay event.2 event.1) (clocked_step hclock))

/-- The replay of a recording runs smoothly exactly when no `play` comes while it is
    playing, short of the end and after the last anchor. -/
theorem smooth_iff (durationMs speed : ℚ≥0) (playing : Bool) (mono : ℚ)
    (calls : List (Transport × ℚ)) (hclock : (mono :: calls.map Prod.snd).Pairwise (· ≤ ·)) :
    Smooth (loaded durationMs playing speed mono) calls ↔
      transport.Along Resumable (loaded durationMs playing speed mono) calls := by
  have hanchor : Anchored (loaded durationMs playing speed mono) := fun _ => rfl
  rw [← along_keeps_iff hanchor hclock, transport.along_iff]
  constructor
  · intro h
    exact h.keeps
  · intro h
    exact ⟨h, fun _ _ _ => advances _⟩

/-- A replay of ten seconds, slowed down, and played again after it has come to its end. -/
theorem smooth_restarted :
    Smooth (loaded 10000 true 4 0)
      [(.setSpeed (1 / 2), 1000), (.pause, 3000), (.play, 4000), (.seek 10000, 5000),
        (.play, 6000)] :=
  (smooth_iff 10000 4 true 0 _ (by decide +kernel)).mpr (by decide +kernel)

/-- A replay of ten seconds, played again after three of them: it jumps back. -/
theorem not_smooth_played : ¬ Smooth (loaded 10000 true 1 0) [(.play, 3000)] := by
  intro h
  have hkeeps := h.keeps [] (.play, 3000) [] rfl
  revert hkeeps
  decide +kernel

end Replay

end PatrolBot
