import Mathlib.Data.List.Basic
import Mathlib.Data.List.Induction

/-!
# Registers read off a stream

A reader of a stream of frames, some of which write a register, knows of the register what
the last of them wrote.
-/

namespace Replica

variable {Frame Value : Type*}

/-- What a reader who held `value` of a register holds after the frames. -/
def read (writes : Frame → Option Value) (frames : List Frame) (value : Value) : Value :=
  frames.foldl (fun value frame => (writes frame).getD value) value

variable {writes : Frame → Option Value} {frames : List Frame} {frame : Frame} {value : Value}

theorem read_append (first second : List Frame) :
    read writes (first ++ second) value = read writes second (read writes first value) :=
  List.foldl_append

theorem read_cons :
    read writes (frame :: frames) value = read writes frames ((writes frame).getD value) := rfl

theorem read_concat :
    read writes (frames ++ [frame]) value = (writes frame).getD (read writes frames value) := by
  rw [read_append]
  rfl

/-- Only the frames that write the register matter. -/
theorem read_filter {keeps : Frame → Bool}
    (h : ∀ frame, keeps frame = false → writes frame = none) :
    read writes (frames.filter keeps) value = read writes frames value := by
  induction frames generalizing value with
  | nil => rfl
  | cons frame frames ih =>
    cases hkeeps : keeps frame with
    | true => rw [List.filter_cons_of_pos hkeeps, read_cons, read_cons, ih]
    | false =>
      rw [List.filter_cons_of_neg (by simp [hkeeps]), read_cons, h frame hkeeps, Option.getD_none,
        ih]

/-- What the frames leave the register with, if they write it. -/
def last (writes : Frame → Option Value) (frames : List Frame) : Option Value :=
  (frames.filterMap writes).getLast?

theorem read_eq_last (writes : Frame → Option Value) (frames : List Frame) (value : Value) :
    read writes frames value = (last writes frames).getD value := by
  induction frames using List.reverseRecOn with
  | nil => rfl
  | append_singleton frames frame ih =>
    rw [read_concat, ih, last, last, List.filterMap_append]
    cases hwrites : writes frame with
    | none => simp [hwrites]
    | some written => simp [hwrites]

/-- A frame that is taken off the front matters only if it was the last that writes. -/
theorem last_tail (writes : Frame → Option Value) (frame : Frame) (frames : List Frame) :
    last writes frames = none ∨ last writes frames = last writes (frame :: frames) := by
  unfold last
  rw [List.filterMap_cons]
  cases hwrites : writes frame with
  | none => exact Or.inr rfl
  | some written =>
    cases hrest : frames.filterMap writes with
    | nil => exact Or.inl rfl
    | cons first rest => exact Or.inr (List.getLast?_cons_cons).symm

theorem last_filter {keeps : Frame → Bool}
    (h : ∀ frame, keeps frame = false → writes frame = none) :
    last writes (frames.filter keeps) = last writes frames := by
  unfold last
  congr 1
  rw [List.filterMap_filter]
  refine List.filterMap_congr fun frame _ => ?_
  cases hkeeps : keeps frame with
  | true => rfl
  | false => simp [h frame hkeeps]

end Replica
