import Mathlib.Algebra.Ring.Int.Defs
import Mathlib.Data.List.Chain
import Mathlib.Data.List.DropRight
import Mathlib.Tactic.Ring

/-!
# Run-length coding

A list as its runs of equal items with their counts.  Decoding inverts encoding, and on
lists of runs that are as short as possible encoding inverts decoding.
-/

namespace PatrolBot.RunLength

variable {α : Type*}

/-- A run stands for its item, as often as its count says. -/
def decode (runs : List (α × Int)) : List α :=
  runs.flatMap fun run => List.replicate run.2.toNat run.1

/-- No run is empty, and neighbouring runs have different items. -/
structure Compact (runs : List (α × Int)) : Prop where
  positive : ∀ run ∈ runs, 1 ≤ run.2
  apart : runs.IsChain fun run next => run.1 ≠ next.1

variable [DecidableEq α]

/-- One more item behind the runs. -/
def push (runs : List (α × Int)) (item : α) : List (α × Int) :=
  match runs.getLast? with
  | some run =>
    if run.1 = item then runs.dropLast ++ [(item, run.2 + 1)] else runs ++ [(item, 1)]
  | none => runs ++ [(item, 1)]

/-- The runs of a list, item by item. -/
def encode (items : List α) : List (α × Int) := items.foldl push []

/-- The run that has begun, and those that follow it. -/
def runsFrom (item : α) (count : Int) : List α → List (α × Int)
  | [] => [(item, count)]
  | next :: items =>
    if next = item then runsFrom item (count + 1) items
    else (item, count) :: runsFrom next 1 items

/-- The runs of a list, each the longest repetition of its first item. -/
def runs : List α → List (α × Int)
  | [] => []
  | item :: items => runsFrom item 1 items

variable {item : α} {count : Int} {items : List α} {coded : List (α × Int)}

omit [DecidableEq α] in
@[simp] theorem decode_nil : decode ([] : List (α × Int)) = [] := rfl

omit [DecidableEq α] in
@[simp] theorem decode_cons (run : α × Int) (coded : List (α × Int)) :
    decode (run :: coded) = List.replicate run.2.toNat run.1 ++ decode coded := rfl

omit [DecidableEq α] in
theorem decode_append (front back : List (α × Int)) :
    decode (front ++ back) = decode front ++ decode back := List.flatMap_append

omit [DecidableEq α] in
theorem replicate_toNat_succ (item : α) (h : 0 ≤ count) :
    List.replicate (count + 1).toNat item = List.replicate count.toNat item ++ [item] := by
  rw [Int.toNat_add h Int.one_nonneg]
  exact List.replicate_succ'

/-- Runs that end in the item grow, others are followed by a new run. -/
theorem push_concat (coded : List (α × Int)) (run : α × Int) (item : α) :
    push (coded ++ [run]) item =
      if run.1 = item then coded ++ [(item, run.2 + 1)] else coded ++ [run] ++ [(item, 1)] := by
  simp [push]

omit [DecidableEq α] in
theorem compact_concat {run : α × Int} :
    Compact (coded ++ [run]) ↔
      Compact coded ∧ 1 ≤ run.2 ∧ ∀ last ∈ coded.getLast?, last.1 ≠ run.1 := by
  constructor
  · intro h
    obtain ⟨hfront, -, hlast⟩ := List.isChain_append.mp h.apart
    refine ⟨⟨fun front hmem => h.positive front (List.mem_append_left _ hmem), hfront⟩,
      h.positive run (by simp), ?_⟩
    intro last hmem
    exact hlast last hmem run rfl
  · rintro ⟨hcoded, hrun, hlast⟩
    constructor
    · intro front hmem
      rcases List.mem_append.mp hmem with hfront | hback
      · exact hcoded.positive front hfront
      · rw [List.mem_singleton.mp hback]
        exact hrun
    · apply List.isChain_append.mpr
      refine ⟨hcoded.apart, List.isChain_singleton _, ?_⟩
      intro last hmem next hnext
      obtain rfl : run = next := Option.some.inj hnext
      exact hlast last hmem

theorem compact_push (h : Compact coded) (item : α) : Compact (push coded item) := by
  rcases List.eq_nil_or_concat coded with rfl | ⟨front, run, rfl⟩
  · exact compact_concat.mpr ⟨h, le_refl 1, fun last hmem => by cases hmem⟩
  · rw [List.concat_eq_append] at h ⊢
    rw [push_concat]
    split
    · rename_i hsame
      obtain ⟨hfront, hrun, hlast⟩ := compact_concat.mp h
      apply compact_concat.mpr
      exact ⟨hfront, by simp only; omega, fun last hmem => hsame ▸ hlast last hmem⟩
    · rename_i hother
      apply compact_concat.mpr
      refine ⟨h, le_refl 1, ?_⟩
      intro last hmem
      obtain rfl : run = last := by simpa using hmem
      exact hother

theorem decode_push (h : Compact coded) (item : α) :
    decode (push coded item) = decode coded ++ [item] := by
  rcases List.eq_nil_or_concat coded with rfl | ⟨front, run, rfl⟩
  · rfl
  · rw [List.concat_eq_append] at h ⊢
    rw [push_concat]
    split
    · rename_i hsame
      have hrun := (compact_concat.mp h).2.1
      have hgrown := replicate_toNat_succ item (show 0 ≤ run.2 by omega)
      simp only [decode_append, decode_cons, decode_nil, hgrown, hsame, List.append_nil,
        List.append_assoc]
    · rw [decode_append]
      rfl

/-- Every encoding is compact, and decoding it gives the items back. -/
theorem foldl_push (h : Compact coded) (items : List α) :
    Compact (items.foldl push coded) ∧ decode (items.foldl push coded) = decode coded ++ items := by
  induction items generalizing coded with
  | nil => exact ⟨h, (List.append_nil _).symm⟩
  | cons item items ih =>
    obtain ⟨hcompact, hdecode⟩ := ih (compact_push h item)
    refine ⟨hcompact, ?_⟩
    rw [List.foldl_cons, hdecode, decode_push h, List.append_assoc, List.singleton_append]

omit [DecidableEq α] in
theorem compact_nil : Compact ([] : List (α × Int)) :=
  ⟨fun _ hmem => absurd hmem List.not_mem_nil, List.isChain_nil⟩

theorem compact_encode (items : List α) : Compact (encode items) := (foldl_push compact_nil items).1

theorem decode_encode (items : List α) : decode (encode items) = items :=
  (foldl_push compact_nil items).2

theorem foldl_push_replicate (front : List (α × Int)) (item : α) (count : Int) (n : Nat) :
    (List.replicate n item).foldl push (front ++ [(item, count)]) =
      front ++ [(item, count + n)] := by
  induction n generalizing count with
  | zero => simp
  | succ n ih =>
    rw [List.replicate_succ, List.foldl_cons, push_concat, if_pos rfl, ih]
    congr 3
    push_cast
    ring

/-- Compact runs are those of the list that they stand for. -/
theorem encode_decode (h : Compact coded) : encode (decode coded) = coded := by
  induction coded using List.reverseRecOn with
  | nil => rfl
  | append_singleton front run ih =>
    obtain ⟨hfront, hrun, hlast⟩ := compact_concat.mp h
    obtain ⟨n, hn⟩ : ∃ n : Nat, run.2 = 1 + n := ⟨(run.2 - 1).toNat, by omega⟩
    have hcells : decode [run] = run.1 :: List.replicate n run.1 := by
      have hcount : run.2.toNat = n + 1 := by omega
      rw [decode_cons, decode_nil, List.append_nil, hcount, List.replicate_succ]
    have hpush : push front run.1 = front ++ [(run.1, 1)] := by
      rcases List.eq_nil_or_concat front with rfl | ⟨before, last, rfl⟩
      · rfl
      · rw [List.concat_eq_append] at hlast ⊢
        rw [push_concat, if_neg (hlast last (by simp))]
    rw [decode_append, hcells, encode, List.foldl_append]
    have hbefore : (decode front).foldl push [] = front := ih hfront
    rw [hbefore, List.foldl_cons, hpush, foldl_push_replicate, ← hn]

/-! ### Runs from the front -/

theorem decode_runsFrom (item : α) (items : List α) (h : 0 ≤ count) :
    decode (runsFrom item count items) = List.replicate count.toNat item ++ items := by
  induction items generalizing item count with
  | nil => simp [runsFrom]
  | cons next items ih =>
    unfold runsFrom
    split
    · rename_i hsame
      rw [ih item (by omega), replicate_toNat_succ item h, hsame]
      simp
    · rw [decode_cons, ih next Int.one_nonneg]
      simp

theorem decode_runs (items : List α) : decode (runs items) = items := by
  cases items with
  | nil => rfl
  | cons item items =>
    rw [runs, decode_runsFrom item items Int.one_nonneg]
    rfl

omit [DecidableEq α] in
/-- Items may be replaced before or after decoding. -/
theorem decode_map {β : Type*} (f : α → β) (coded : List (α × Int)) :
    decode (coded.map fun run => (f run.1, run.2)) = (decode coded).map f := by
  induction coded with
  | nil => rfl
  | cons run coded ih =>
    rw [List.map_cons, decode_cons, ih, decode_cons, List.map_append, List.map_replicate]

end PatrolBot.RunLength
