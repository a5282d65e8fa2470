import Mathlib.Data.List.Infix
import PatrolBot.Library.Machine

/-!
# Keyset paging

A table is walked in the order of a key, one page at a time.  A page holds the
rows past the key of the last row that was handed out, and the walk ends at a page
that is not full.  Rows may be appended between the reads of two pages.
-/

namespace PatrolBot.Keyset

variable {α : Type*} (key : α → Nat) (limit : Nat)

/-- Where a walk is. -/
structure Walk where
  cursor : Nat := 0
  ended : Bool := false
deriving DecidableEq

/-- The page past a cursor, of a table in the order of its keys. -/
def page (cursor : Nat) (rows : List α) : List α :=
  (rows.filter fun row => decide (cursor < key row)).take limit

/-- A page is read and handed out. -/
def step (walk : Walk) (rows : List α) : Walk × List α :=
  if walk.ended then (walk, [])
  else
    let found := page key limit walk.cursor rows
    match found.getLast? with
    | none => ({ walk with ended := true }, [])
    | some last => (⟨key last, decide (found.length < limit)⟩, found)

/-- The walk as a machine: an event is the table at the read of a page. -/
def walking : Machine Walk (List α) α where
  step := step key limit

/-- What a walk has handed out. -/
def handed (reads : List (List α)) : List α :=
  ((walking key limit).trace {} reads).flatMap Prod.snd

/-- Keys increase along the table. -/
def Increasing (rows : List α) : Prop := rows.Pairwise fun row row' => key row < key row'

variable {key limit} {rows rows' found : List α} {walk : Walk}

/-- A walk has handed out the first rows of a table, and its cursor is at the last
    of them. -/
structure Reached (key : α → Nat) (rows : List α) (walk : Walk) (found : List α) : Prop where
  taken : found <+: rows
  cursor : walk.cursor = (found.getLast?.map key).getD 0

theorem Reached.start : Reached key rows {} [] := ⟨List.nil_prefix, rfl⟩

theorem Reached.grow (h : Reached key rows walk found) (hgrows : rows <+: rows') :
    Reached key rows' walk found :=
  ⟨h.taken.trans hgrows, h.cursor⟩

/-- The rows past the cursor are those not handed out. -/
theorem Reached.filter_cursor {rest : List α} (h : Reached key (found ++ rest) walk found)
    (hincreasing : Increasing key (found ++ rest)) (hpos : ∀ row ∈ rest, 1 ≤ key row) :
    ((found ++ rest).filter fun row => decide (walk.cursor < key row)) = rest := by
  obtain ⟨hfound, -, hbetween⟩ := List.pairwise_append.mp hincreasing
  rw [List.filter_append]
  rcases List.eq_nil_or_concat found with rfl | ⟨before, last, hconcat⟩
  · rw [h.cursor, List.filter_nil, List.nil_append]
    apply List.filter_eq_self.mpr
    intro row hrow
    exact decide_eq_true (hpos row hrow)
  have hcursor : walk.cursor = key last := by
    rw [h.cursor, hconcat, List.concat_eq_append]
    simp
  have hseen : found.filter (fun row => decide (walk.cursor < key row)) = [] := by
    apply List.filter_eq_nil_iff.mpr
    intro row hrow
    rw [hcursor, decide_eq_true_eq, Nat.not_lt]
    rw [hconcat, List.concat_eq_append, List.pairwise_append] at hfound
    rw [hconcat, List.concat_eq_append] at hrow
    rcases List.mem_append.mp hrow with hrow | hrow
    · exact Nat.le_of_lt (hfound.2.2 row hrow last (List.mem_singleton_self last))
    · exact Nat.le_of_eq (congrArg key (List.mem_singleton.mp hrow))
  have hunseen : rest.filter (fun row => decide (walk.cursor < key row)) = rest := by
    apply List.filter_eq_self.mpr
    intro row hrow
    rw [hcursor, decide_eq_true_eq]
    apply hbetween last ?_ row hrow
    rw [hconcat, List.concat_eq_append]
    exact List.mem_append_right before (List.mem_singleton_self last)
  rw [hseen, hunseen, List.nil_append]

/-- A page takes the walk on, by a full page or to the end of the table. -/
theorem Reached.step (h : Reached key rows walk found) (hincreasing : Increasing key rows)
    (hpos : ∀ row ∈ rows, 1 ≤ key row) (hlimit : 1 ≤ limit) (hrunning : walk.ended = false) :
    Reached key rows (step key limit walk rows).1 (found ++ (step key limit walk rows).2) ∧
      ((step key limit walk rows).1.ended = true →
        found ++ (step key limit walk rows).2 = rows) ∧
      ((step key limit walk rows).1.ended = false →
        (found ++ (step key limit walk rows).2).length = found.length + limit) := by
  obtain ⟨rest, rfl⟩ := h.taken
  have hpage : page key limit walk.cursor (found ++ rest) = rest.take limit := by
    unfold page
    rw [h.filter_cursor hincreasing fun row hrow => hpos row (List.mem_append_right found hrow)]
  unfold Keyset.step
  rw [hrunning, hpage]
  simp only [Bool.false_eq_true, if_false]
  split
  · rename_i hnone
    have hempty : rest = [] := by
      rcases List.take_eq_nil_iff.mp (List.getLast?_eq_none_iff.mp hnone) with hzero | hempty
      · omega
      · exact hempty
    subst hempty
    constructor
    · exact ⟨by simp, by simpa using h.cursor⟩
    · simp
  · rename_i last hlast
    constructor
    · constructor
      · exact (List.prefix_append_right_inj found).mpr (List.take_prefix limit rest)
      · have hboth : (found ++ rest.take limit).getLast? = some last := by
          rw [List.getLast?_append, hlast, Option.some_or]
        rw [hboth]
        rfl
    · constructor
      · intro hshort
        have hlength := of_decide_eq_true hshort
        rw [List.length_take] at hlength
        rw [List.take_of_length_le (by omega)]
      · intro hfull
        have hlength := of_decide_eq_false hfull
        have hle := List.length_take_le limit rest
        have hpage : (rest.take limit).length = limit := by omega
        exact List.length_append.trans (congrArg (found.length + ·) hpage)

/-! ### A whole walk -/

section

variable {tables : Nat → List α}

/-- What a walk of `n` pages has come to. -/
structure Covered (key : α → Nat) (limit : Nat) (tables : Nat → List α) (n : Nat) (walk : Walk)
    (found : List α) : Prop where
  reached : Reached key (tables n) walk found
  complete : walk.ended = true → tables 0 <+: found
  progress : walk.ended = false → n * limit ≤ found.length

theorem handed_succ (n : Nat) :
    handed key limit ((List.range (n + 1)).map tables) =
      handed key limit ((List.range n).map tables) ++
        (step key limit ((walking key limit).run {} ((List.range n).map tables)) (tables n)).2 := by
  unfold handed
  rw [List.range_succ, List.map_append, Machine.trace_append, List.flatMap_append]
  simp [walking]

theorem run_succ (n : Nat) :
    (walking key limit).run {} ((List.range (n + 1)).map tables) =
      (step key limit ((walking key limit).run {} ((List.range n).map tables)) (tables n)).1 := by
  rw [List.range_succ, List.map_append, Machine.run_append]
  rfl

theorem first_grows (hgrows : ∀ n, tables n <+: tables (n + 1)) (n : Nat) :
    tables 0 <+: tables n := by
  induction n with
  | zero => exact List.prefix_refl _
  | succ n ih => exact ih.trans (hgrows n)

theorem covered (hincreasing : ∀ n, Increasing key (tables n))
    (hpos : ∀ n, ∀ row ∈ tables n, 1 ≤ key row) (hgrows : ∀ n, tables n <+: tables (n + 1))
    (hlimit : 1 ≤ limit) (n : Nat) :
    Covered key limit tables n ((walking key limit).run {} ((List.range n).map tables))
      (handed key limit ((List.range n).map tables)) := by
  induction n with
  | zero =>
    constructor
    · exact Reached.start
    · intro hended
      cases hended
    · intro _
      simp
  | succ n ih =>
    rw [run_succ, handed_succ]
    generalize (walking key limit).run {} ((List.range n).map tables) = walk at ih ⊢
    generalize handed key limit ((List.range n).map tables) = found at ih ⊢
    cases hended : walk.ended with
    | true =>
      have hstill : step key limit walk (tables n) = (walk, []) := by
        rw [step, hended, if_pos rfl]
      rw [hstill, List.append_nil]
      constructor
      · exact ih.reached.grow (hgrows n)
      · exact ih.complete
      · intro hrunning
        rw [hended] at hrunning
        cases hrunning
    | false =>
      obtain ⟨hreached, hcomplete, hfull⟩ :=
        ih.reached.step (hincreasing n) (hpos n) hlimit hended
      constructor
      · exact hreached.grow (hgrows n)
      · intro hlast
        rw [hcomplete hlast]
        exact first_grows hgrows n
      · intro hrunning
        rw [hfull hrunning, Nat.succ_mul]
        have hprogress := ih.progress hended
        omega

/-- A walk hands out the first rows of the table as it is, and once it has read as
    many pages as the table had rows at the start, all of those. -/
theorem handed_prefix (hincreasing : ∀ n, Increasing key (tables n))
    (hpos : ∀ n, ∀ row ∈ tables n, 1 ≤ key row) (hgrows : ∀ n, tables n <+: tables (n + 1))
    (hlimit : 1 ≤ limit) (n : Nat) :
    handed key limit ((List.range n).map tables) <+: tables n ∧
      ((tables 0).length ≤ n → tables 0 <+: handed key limit ((List.range n).map tables)) := by
  obtain ⟨⟨htaken, -⟩, hcomplete, hprogress⟩ := covered hincreasing hpos hgrows hlimit n
  constructor
  · exact htaken
  · intro hlong
    cases hended : ((walking key limit).run {} ((List.range n).map tables)).ended with
    | true => exact hcomplete hended
    | false =>
      apply List.prefix_of_prefix_length_le (first_grows hgrows n) htaken
      have hpages := hprogress hended
      have hle : n * 1 ≤ n * limit := Nat.mul_le_mul_left n hlimit
      omega

/-- A walk that has ended has handed out all the rows of the start. -/
theorem handed_of_ended (hincreasing : ∀ n, Increasing key (tables n))
    (hpos : ∀ n, ∀ row ∈ tables n, 1 ≤ key row) (hgrows : ∀ n, tables n <+: tables (n + 1))
    (hlimit : 1 ≤ limit) {n : Nat}
    (hended : ((walking key limit).run {} ((List.range n).map tables)).ended = true) :
    tables 0 <+: handed key limit ((List.range n).map tables) :=
  (covered hincreasing hpos hgrows hlimit n).complete hended

/-- A walk of a table that stays as it is ends, with exactly its rows. -/
theorem handed_still (hincreasing : Increasing key rows) (hpos : ∀ row ∈ rows, 1 ≤ key row)
    (hlimit : 1 ≤ limit) {n : Nat} (hlong : rows.length < n) :
    ((walking key limit).run {} ((List.range n).map fun _ => rows)).ended = true ∧
      handed key limit ((List.range n).map fun _ => rows) = rows := by
  have hcovered : Covered key limit (fun _ => rows) n _ _ := covered (fun _ => hincreasing)
    (fun _ => hpos) (fun _ => List.prefix_refl rows) hlimit n
  have hended : ((walking key limit).run {} ((List.range n).map fun _ => rows)).ended = true := by
    by_contra hrunning
    have hpages := hcovered.progress (Bool.eq_false_iff.mpr hrunning)
    have hle := hcovered.reached.taken.length_le
    have hmul : n * 1 ≤ n * limit := Nat.mul_le_mul_left n hlimit
    omega
  constructor
  · exact hended
  · have hall : rows <+: handed key limit ((List.range n).map fun _ => rows) :=
      hcovered.complete hended
    exact hcovered.reached.taken.eq_of_length_le hall.length_le

end

end PatrolBot.Keyset
