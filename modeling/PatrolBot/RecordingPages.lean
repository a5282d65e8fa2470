import Mathlib.Data.List.Sort
import PatrolBot.Library.Keyset
import PatrolBot.Recordings

/-!
# Samples a page at a time

`get_recording_samples` and `iter_recording_samples` of `database/repo.py`.  The
generator awaits the read of each page, so that samples may be added between two of
them; the rows of a page are handed out from memory.
-/

namespace PatrolBot

/-- A row of `recording_samples`. -/
structure SampleRow extends RecordingSample where
  id : Nat
deriving DecidableEq

/-- The conditions of the query on the recording and its channels: no channel asked
    for is any channel. -/
def SampleRow.matching (recordingId : Nat) (kinds : Option (List String)) (row : SampleRow) :
    Bool :=
  decide (row.recordingId = recordingId) &&
    match kinds with
    | none | some [] => true
    | some kinds => kinds.contains row.kind

/-- `get_recording_samples`. -/
def getRecordingSamples (recordingId : Nat) (kinds : Option (List String)) (afterId limit : Nat)
    (table : List SampleRow) : List SampleRow :=
  let rows := table.filter fun row =>
    row.matching recordingId kinds && decide (afterId < row.id)
  (rows.mergeSort fun row row' => decide (row.id ≤ row'.id)).take limit

/-- A page of `iter_recording_samples`: the generator as it goes on, and the rows it
    yields until it reads the next page. -/
def iterRecordingSamples (recordingId : Nat) (kinds : Option (List String)) (page : Nat)
    (walk : Keyset.Walk) (table : List SampleRow) : Keyset.Walk × List SampleRow :=
  if walk.ended then (walk, [])
  else
    let rows := getRecordingSamples recordingId kinds walk.cursor page table
    match rows.getLast? with
    | none => ({ walk with ended := true }, [])
    | some last => (⟨last.id, decide (rows.length < page)⟩, rows)

/-- The generator as a machine over the tables it reads. -/
def sampleIteration (recordingId : Nat) (kinds : Option (List String)) (page : Nat) :
    Machine Keyset.Walk (List SampleRow) SampleRow where
  step := iterRecordingSamples recordingId kinds page

namespace SampleRow

/-- The primary key grows with each insertion. -/
def IncreasingIds (table : List SampleRow) : Prop :=
  table.Pairwise fun row row' => row.id < row'.id

instance : DecidablePred IncreasingIds :=
  fun table => inferInstanceAs (Decidable (table.Pairwise _))

variable {recordingId : Nat} {kinds : Option (List String)} {page : Nat}

/-- The rows a caller asks for. -/
def selected (recordingId : Nat) (kinds : Option (List String)) (table : List SampleRow) :
    List SampleRow :=
  table.filter (matching recordingId kinds)

/-- What the generator has yielded after these reads. -/
def yielded (recordingId : Nat) (kinds : Option (List String)) (page : Nat)
    (tables : List (List SampleRow)) : List SampleRow :=
  ((sampleIteration recordingId kinds page).trace {} tables).flatMap Prod.snd

/-- The generator has returned after these reads. -/
def returned (recordingId : Nat) (kinds : Option (List String)) (page : Nat)
    (tables : List (List SampleRow)) : Bool :=
  ((sampleIteration recordingId kinds page).run {} tables).ended

theorem IncreasingIds.selected {table : List SampleRow} (h : IncreasingIds table)
    (recordingId : Nat) (kinds : Option (List String)) :
    Keyset.Increasing SampleRow.id (selected recordingId kinds table) :=
  h.filter _

/-- On a table in the order of its ids the query takes a page of the selected rows. -/
theorem getRecordingSamples_eq {table : List SampleRow} (h : IncreasingIds table)
    (afterId limit : Nat) :
    getRecordingSamples recordingId kinds afterId limit table =
      Keyset.page SampleRow.id limit afterId (selected recordingId kinds table) := by
  have hfilter : table.filter (fun row => row.matching recordingId kinds &&
      decide (afterId < row.id)) =
      (selected recordingId kinds table).filter fun row => decide (afterId < row.id) := by
    rw [selected, List.filter_filter]
    apply List.filter_congr
    intro row _
    exact Bool.and_comm _ _
  simp only [getRecordingSamples, Keyset.page, hfilter]
  congr 1
  apply List.mergeSort_of_pairwise
  apply ((h.selected recordingId kinds).filter _).imp
  intro row row' hlt
  exact decide_eq_true (Nat.le_of_lt hlt)

theorem iterRecordingSamples_eq {table : List SampleRow} (h : IncreasingIds table)
    (walk : Keyset.Walk) :
    iterRecordingSamples recordingId kinds page walk table =
      Keyset.step SampleRow.id page walk (selected recordingId kinds table) := by
  simp only [iterRecordingSamples, Keyset.step, getRecordingSamples_eq h]
  cases (Keyset.page SampleRow.id page walk.cursor (selected recordingId kinds table)).getLast? with
  | none => rfl
  | some last => rfl

/-- Over such tables the generator is a walk of the selected rows. -/
theorem walks (recordingId : Nat) (kinds : Option (List String)) (page : Nat)
    (tables : List (List SampleRow)) (h : ∀ table ∈ tables, IncreasingIds table)
    (walk : Keyset.Walk) :
    (sampleIteration recordingId kinds page).run walk tables =
        (Keyset.walking SampleRow.id page).run walk (tables.map (selected recordingId kinds)) ∧
      ((sampleIteration recordingId kinds page).trace walk tables).flatMap Prod.snd =
        ((Keyset.walking SampleRow.id page).trace walk
          (tables.map (selected recordingId kinds))).flatMap Prod.snd := by
  induction tables generalizing walk with
  | nil => exact ⟨rfl, rfl⟩
  | cons table tables ih =>
    have hstep : (sampleIteration recordingId kinds page).step walk table =
        (Keyset.walking SampleRow.id page).step walk (selected recordingId kinds table) :=
      iterRecordingSamples_eq (h table List.mem_cons_self) walk
    obtain ⟨hrun, htrace⟩ := ih (fun table hmem => h table (List.mem_cons_of_mem _ hmem))
      ((Keyset.walking SampleRow.id page).step walk (selected recordingId kinds table)).1
    constructor
    · rw [List.map_cons, Machine.run_cons, Machine.run_cons, hstep, hrun]
    · rw [List.map_cons, Machine.trace_cons, Machine.trace_cons, List.flatMap_cons,
        List.flatMap_cons, hstep, htrace]

/-- **Every selected sample once, in order.**  On a table that stays as it is the
    generator returns after yielding exactly the selected rows.  Whatever is appended
    between two pages, the rows yielded so far are the first of those selected, and those
    of the start are among them once the generator returns, which is so after as many
    pages as there were such rows at the latest. -/
theorem yielded_complete {tables : Nat → List SampleRow} (hids : ∀ n, IncreasingIds (tables n))
    (hpos : ∀ n, ∀ row ∈ tables n, 1 ≤ row.id) (hgrows : ∀ n, tables n <+: tables (n + 1))
    (recordingId : Nat) (kinds : Option (List String)) (hpage : 1 ≤ page) :
    (∀ n, (selected recordingId kinds (tables 0)).length < n →
      returned recordingId kinds page (List.replicate n (tables 0)) = true ∧
        yielded recordingId kinds page (List.replicate n (tables 0)) =
          selected recordingId kinds (tables 0)) ∧
    ∀ n, let seen := yielded recordingId kinds page ((List.range n).map tables)
      seen <+: selected recordingId kinds (tables n) ∧
      IncreasingIds seen ∧
      (returned recordingId kinds page ((List.range n).map tables) = true →
        selected recordingId kinds (tables 0) <+: seen) ∧
      ((selected recordingId kinds (tables 0)).length ≤ n →
        selected recordingId kinds (tables 0) <+: seen) := by
  have hselected : ∀ n, ∀ row ∈ selected recordingId kinds (tables n), 1 ≤ row.id :=
    fun n row hrow => hpos n row (List.mem_of_mem_filter hrow)
  constructor
  · intro n hlong
    have hreads : List.replicate n (tables 0) = (List.range n).map fun _ => tables 0 := by
      rw [List.map_const', List.length_range]
    obtain ⟨hrun, hyielded⟩ := walks recordingId kinds page
      (List.replicate n (tables 0))
      (fun table hmem => List.eq_of_mem_replicate hmem ▸ hids 0) {}
    rw [returned, yielded, hrun, hyielded, hreads, List.map_map]
    exact Keyset.handed_still ((hids 0).selected recordingId kinds) (hselected 0) hpage hlong
  · intro n
    obtain ⟨hrun, hyielded⟩ := walks recordingId kinds page
      ((List.range n).map tables) (by
        intro table hmem
        obtain ⟨m, -, rfl⟩ := List.mem_map.mp hmem
        exact hids m) {}
    rw [returned, yielded, hrun, hyielded, List.map_map]
    have hincreasing := fun n => (hids n).selected recordingId kinds
    have hprefix : ∀ n, selected recordingId kinds (tables n) <+:
        selected recordingId kinds (tables (n + 1)) := fun n => (hgrows n).filter _
    obtain ⟨hseen, hall⟩ := Keyset.handed_prefix hincreasing hselected hprefix hpage n
    constructor
    · exact hseen
    · constructor
      · exact (hincreasing n).sublist hseen.sublist
      · constructor
        · exact Keyset.handed_of_ended hincreasing hselected hprefix hpage
        · exact hall

/-- Two poses, and a third that is added after the first page. -/
def growingTable (n : Nat) : List SampleRow :=
  let pose (id : Nat) : SampleRow := ⟨⟨1, "", "pose", "{}"⟩, id⟩
  if n = 0 then [pose 1, pose 3] else [pose 1, pose 3, pose 4]

theorem yielded_complete_growing :
    selected 1 (some ["pose"]) (growingTable 0) <+:
      yielded 1 (some ["pose"]) 1 ((List.range 2).map growingTable) := by
  have hcases : ∀ n, growingTable n = growingTable 0 ∨ growingTable n = growingTable 1 := by
    intro n
    cases n with
    | zero => exact Or.inl rfl
    | succ n => exact Or.inr rfl
  apply ((@yielded_complete 1 growingTable ?_ ?_ ?_ 1 (some ["pose"])
    (Nat.le_refl 1)).2 2).2.2.2
  · exact Nat.le_refl 2
  · intro n
    rcases hcases n with h | h <;> rw [h] <;> decide
  · intro n
    rcases hcases n with h | h <;> rw [h] <;> decide
  · intro n
    cases n with
    | zero => decide
    | succ n => exact List.prefix_refl _

end SampleRow

end PatrolBot
