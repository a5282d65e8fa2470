import Mathlib.Algebra.Order.Group.Basic
import Mathlib.Data.List.Basic

/-!
# Fixed windows

A limiter that counts what comes in and starts its count over when a window's width has
gone by.  Windows begin with an arrival, so an interval as long as a window may have parts
of two of them, and no more.
-/

namespace FixedWindow

variable {Time : Type*} [AddCommGroup Time] [LinearOrder Time]

structure Window (Time : Type*) where
  start : Time
  count : Nat

namespace Window

variable (width : Time) (cap : Nat)

/-- The window with one more arrival, which may be the first of a new window. -/
def next (w : Window Time) (now : Time) : Window Time :=
  if width ≤ now - w.start then ⟨now, 1⟩ else { w with count := w.count + 1 }

/-- The arrivals that find the count at most at the cap. -/
def admitted : Window Time → List Time → List Time
  | _, [] => []
  | w, now :: times =>
    let w := w.next width now
    if w.count ≤ cap then now :: admitted w times else admitted w times

end Window

/-- The times from `t` until a width later. -/
def within (width t : Time) (times : List Time) : List Time :=
  times.filter fun time => decide (t ≤ time) && decide (time < t + width)

open Window

variable {width t now : Time} {cap : Nat} {w : Window Time} {times : List Time}

theorem admitted_sublist (width : Time) (cap : Nat) (w : Window Time) (times : List Time) :
    (w.admitted width cap times).Sublist times := by
  induction times generalizing w with
  | nil => exact List.Sublist.refl _
  | cons now times ih =>
    rw [admitted]
    split
    · exact (ih _).cons_cons now
    · exact (ih _).cons now

/-- All are admitted iff the first is and, from there, the others are. -/
theorem admitted_cons_eq_iff :
    w.admitted width cap (now :: times) = now :: times ↔
      (w.next width now).count ≤ cap ∧ (w.next width now).admitted width cap times = times := by
  rw [admitted]
  split
  · rename_i hcount
    exact ⟨fun h => ⟨hcount, (List.cons.inj h).2⟩, fun h => by rw [h.2]⟩
  · rename_i hcount
    refine ⟨fun h => ?_, fun h => absurd h.1 hcount⟩
    have hlength := (admitted_sublist width cap (w.next width now) times).length_le
    rw [h, List.length_cons] at hlength
    omega

/-- Nothing that comes later than the interval is in it. -/
theorem within_eq_nil (h : ∀ time ∈ times, t + width ≤ time) : within width t times = [] := by
  rw [within, List.filter_eq_nil_iff]
  intro time htime
  have hlate := not_lt.mpr (h time htime)
  simp [hlate]

theorem within_cons (h : t ≤ now ∧ now < t + width) :
    within width t (now :: times) = now :: within width t times :=
  List.filter_cons_of_pos (by simp [h])

theorem within_cons_early (h : now < t) :
    within width t (now :: times) = within width t times :=
  List.filter_cons_of_neg (by simp [not_le.mpr h])

/-- The number of those admitted, with one more arrival. -/
theorem length_within_cons (h : t ≤ now ∧ now < t + width) :
    (within width t (w.admitted width cap (now :: times))).length =
      (if (w.next width now).count ≤ cap then 1 else 0) +
        (within width t ((w.next width now).admitted width cap times)).length := by
  rw [admitted]
  split
  · rw [within_cons h, List.length_cons, Nat.add_comm]
  · rw [Nat.zero_add]

/-- Once an arrival is later than the interval, all that come after it are. -/
theorem within_late (hsorted : (now :: times).Pairwise (· ≤ ·)) (hlate : t + width ≤ now) :
    within width t (w.admitted width cap (now :: times)) = [] := by
  refine within_eq_nil fun time htime => ?_
  rcases List.mem_cons.mp ((admitted_sublist width cap w (now :: times)).subset htime) with
    rfl | htime
  · exact hlate
  · exact le_trans hlate (List.rel_of_pairwise_cons hsorted htime)

/-- An arrival before the interval only moves the window. -/
theorem within_early (hearly : now < t) :
    within width t (w.admitted width cap (now :: times)) =
      within width t ((w.next width now).admitted width cap times) := by
  rw [admitted]
  split
  · exact within_cons_early hearly
  · rfl

variable [IsOrderedAddMonoid Time]

theorem next_early (h : now < w.start + width) : w.next width now = ⟨w.start, w.count + 1⟩ :=
  if_neg (not_le.mpr (sub_lt_iff_lt_add'.mpr h))

/-- A window that begins in the interval, or after, has room for the rest of its cap. -/
theorem length_within_open (hsorted : times.Pairwise (· ≤ ·))
    (hstart : t ≤ w.start) :
    (within width t (w.admitted width cap times)).length ≤ cap - w.count := by
  induction times generalizing w with
  | nil => exact Nat.zero_le _
  | cons now times ih =>
    have htail := (List.pairwise_cons.mp hsorted).2
    rcases lt_or_ge now (t + width) with hbefore | hlate
    · have hnext := next_early (lt_of_lt_of_le hbefore (add_le_add_left hstart width))
      have hrest := ih (w := w.next width now) htail (by rw [hnext]; exact hstart)
      rw [hnext] at hrest
      dsimp only at hrest
      rcases lt_or_ge now t with hearly | hfrom
      · rw [within_early hearly, hnext]
        omega
      · rw [length_within_cons ⟨hfrom, hbefore⟩, hnext]
        dsimp only
        split <;> omega
    · rw [within_late hsorted hlate]
      exact Nat.zero_le _

/-- From the beginning of the interval on: what is left of one window, and another one. -/
theorem length_within_from (hsorted : times.Pairwise (· ≤ ·))
    (hfrom : ∀ time ∈ times, t ≤ time) :
    (within width t (w.admitted width cap times)).length ≤ (cap - w.count) + cap := by
  induction times generalizing w with
  | nil => exact Nat.zero_le _
  | cons now times ih =>
    have htail := (List.pairwise_cons.mp hsorted).2
    have hnow := hfrom now List.mem_cons_self
    rcases lt_or_ge now (t + width) with hbefore | hlate
    · rw [length_within_cons ⟨hnow, hbefore⟩]
      by_cases hnew : width ≤ now - w.start
      · have hnext : w.next width now = ⟨now, 1⟩ := if_pos hnew
        have hrest : (within width t ((w.next width now).admitted width cap times)).length ≤
            cap - (w.next width now).count :=
          length_within_open htail (by rw [hnext]; exact hnow)
        rw [hnext] at hrest ⊢
        dsimp only at hrest ⊢
        split <;> omega
      · have hnext : w.next width now = ⟨w.start, w.count + 1⟩ := if_neg hnew
        have hrest := ih (w := w.next width now) htail
          fun time htime => hfrom time (List.mem_cons_of_mem now htime)
        rw [hnext] at hrest ⊢
        dsimp only at hrest ⊢
        split <;> omega
    · rw [within_late hsorted hlate]
      exact Nat.zero_le _

/-- **The bound of a fixed window.**  In no interval as long as a window more than twice the
    cap are admitted. -/
theorem length_within_admitted (hsorted : times.Pairwise (· ≤ ·)) :
    (within width t (w.admitted width cap times)).length ≤ 2 * cap := by
  induction times generalizing w with
  | nil => exact Nat.zero_le _
  | cons now times ih =>
    obtain ⟨hhead, htail⟩ := List.pairwise_cons.mp hsorted
    rcases lt_or_ge now t with hearly | hfrom
    · rw [within_early hearly]
      exact ih htail
    · have hall : ∀ time ∈ now :: times, t ≤ time := by
        intro time htime
        rcases List.mem_cons.mp htime with rfl | htime
        · exact hfrom
        · exact le_trans hfrom (hhead time htime)
      have hbound : (within width t (w.admitted width cap (now :: times))).length ≤
          (cap - w.count) + cap := length_within_from hsorted hall
      omega

/-- **Nothing is lost below the cap.**  When no interval as long as a window has more arrivals
    than the cap, all are admitted; `held` are the arrivals of the
    window so far. -/
theorem admitted_eq {held : List Time} (hcount : w.count = held.length)
    (hopen : ∀ time ∈ held, w.start ≤ time ∧ time < w.start + width)
    (hsorted : (w.start :: times).Pairwise (· ≤ ·)) (hwidth : 0 < width)
    (hfew : ∀ t, (within width t (held ++ times)).length ≤ cap) :
    w.admitted width cap times = times := by
  induction times generalizing w held with
  | nil => rfl
  | cons now times ih =>
    obtain ⟨hstart, htail⟩ := List.pairwise_cons.mp hsorted
    have hnow := hstart now List.mem_cons_self
    by_cases hnew : width ≤ now - w.start
    · have hnext : w.next width now = ⟨now, 1⟩ := if_pos hnew
      have hrest : (w.next width now).admitted width cap times = times := by
        refine @ih _ [now] (by rw [hnext]; rfl) ?_ (by rw [hnext]; exact htail) ?_
        · intro time htime
          rw [List.mem_singleton.mp htime, hnext]
          exact ⟨le_refl now, lt_add_of_pos_right now hwidth⟩
        · intro t
          refine le_trans (List.Sublist.length_le ?_) (hfew t)
          exact ((List.sublist_append_right held (now :: times)).filter _)
      have hone : 1 ≤ cap := by
        refine le_trans ?_ (hfew now)
        rw [within, List.filter_append, List.length_append]
        have hmem := @within_cons _ _ _ width now now times
          ⟨le_refl now, lt_add_of_pos_right now hwidth⟩
        rw [within] at hmem
        rw [hmem, List.length_cons]
        omega
      rw [admitted, hrest, hnext]
      exact if_pos hone
    · have hnext : w.next width now = ⟨w.start, w.count + 1⟩ := if_neg hnew
      have hbefore : now < w.start + width := sub_lt_iff_lt_add'.mp (not_le.mp hnew)
      have hgrown : ∀ time ∈ held ++ [now], w.start ≤ time ∧ time < w.start + width := by
        intro time htime
        rcases List.mem_append.mp htime with htime | htime
        · exact hopen time htime
        · rw [List.mem_singleton.mp htime]
          exact ⟨hnow, hbefore⟩
      have hrest : (w.next width now).admitted width cap times = times := by
        refine @ih _ (held ++ [now]) ?_ ?_ ?_ ?_
        · rw [hnext, List.length_append, hcount]
          rfl
        · rw [hnext]
          exact hgrown
        · rw [hnext, List.pairwise_cons]
          exact ⟨fun time htime => hstart time (List.mem_cons_of_mem now htime),
            (List.pairwise_cons.mp htail).2⟩
        · intro t
          simpa using hfew t
      have hroom : w.count + 1 ≤ cap := by
        refine le_trans ?_ (hfew w.start)
        have hall : within width w.start (held ++ [now]) = held ++ [now] := by
          rw [within, List.filter_eq_self]
          intro time htime
          simp [hgrown time htime]
        have hprefix : (within width w.start (held ++ [now])).Sublist
            (within width w.start (held ++ now :: times)) := by
          have hsplit : held ++ now :: times = (held ++ [now]) ++ times := by simp
          rw [hsplit]
          exact List.Sublist.filter _ (List.sublist_append_left _ _)
        have hlength := hprefix.length_le
        rw [hall, List.length_append, List.length_singleton, ← hcount] at hlength
        exact hlength
      rw [admitted, hrest, hnext]
      exact if_pos hroom

end FixedWindow
