import Mathlib.Data.List.Basic

/-!
# Comma-separated values

A writer that quotes a cell only where it must, with lines that end in a carriage
return and a line feed, and the reader of such a text as an automaton over its
characters.  What is written is read back.
-/

namespace PatrolBot.Csv

/-! ### Writing -/

/-- A cell that holds one of these characters is written between quotation marks. -/
def special (c : Char) : Bool := c == ',' || c == '"' || c == '\r' || c == '\n'

/-- The characters of a cell with every quotation mark doubled. -/
def doubled : List Char → List Char
  | [] => []
  | c :: cell => if c = '"' then '"' :: '"' :: doubled cell else c :: doubled cell

def writeCell (cell : List Char) : List Char :=
  if cell.any special then '"' :: doubled cell ++ ['"'] else cell

/-- The cells of a line with a comma in front of each. -/
def writeRest : List (List Char) → List Char
  | [] => []
  | cell :: cells => ',' :: writeCell cell ++ writeRest cells

/-- A line.  A single empty cell is quoted, so as not to look like a line of none. -/
def writeRow : List (List Char) → List Char
  | [] => ['\r', '\n']
  | [[]] => ['"', '"', '\r', '\n']
  | cell :: cells => writeCell cell ++ writeRest cells ++ ['\r', '\n']

/-! ### Reading -/

/-- Where a reader is: at the start of a line or of a cell, in a cell with or without
    quotation marks, at a mark inside such a cell, after a carriage return. -/
inductive Place where
  | line
  | cell
  | plain
  | quoted
  | mark
  | carriage
deriving DecidableEq

structure Reader where
  place : Place := .line
  text : List Char := []
  row : List (List Char) := []
  rows : List (List (List Char)) := []

namespace Reader

/-- The cell is complete. -/
def endCell (reader : Reader) : Reader :=
  { reader with place := .cell, text := [], row := reader.row ++ [reader.text] }

/-- The line is complete. -/
def endRow (reader : Reader) (place : Place) : Reader :=
  ⟨place, [], [], reader.rows ++ [reader.row ++ [reader.text]]⟩

def push (reader : Reader) (place : Place) (c : Char) : Reader :=
  { reader with place := place, text := reader.text ++ [c] }

/-- A character that is not inside quotation marks. -/
def unquoted (reader : Reader) (c : Char) : Reader :=
  if c = ',' then reader.endCell
  else if c = '\r' then reader.endRow .carriage
  else if c = '\n' then reader.endRow .line
  else reader.push .plain c

def step (reader : Reader) (c : Char) : Reader :=
  match reader.place with
  | .line | .cell => if c = '"' then { reader with place := .quoted } else reader.unquoted c
  | .plain => reader.unquoted c
  | .quoted => if c = '"' then { reader with place := .mark } else reader.push .quoted c
  | .mark => if c = '"' then reader.push .quoted c else reader.unquoted c
  | .carriage =>
    if c = '\n' then { reader with place := .line }
    else if c = '"' then { reader with place := .quoted }
    else reader.unquoted c

end Reader

/-- The lines of a text. -/
def read (text : List Char) : List (List (List Char)) := (text.foldl Reader.step {}).rows

/-! ### What is written is read back -/

/-- A reader has come to the end of a cell. -/
structure Reader.AtEnd (reader : Reader) (cell : List Char) (row : List (List Char))
    (rows : List (List (List Char))) : Prop where
  place : reader.place = .line ∨ reader.place = .cell ∨ reader.place = .plain ∨
    reader.place = .mark
  text : reader.text = cell
  row : reader.row = row
  rows : reader.rows = rows

variable {reader : Reader} {cell : List Char} {row : List (List Char)}
  {rows : List (List (List Char))}

theorem Reader.AtEnd.comma (h : reader.AtEnd cell row rows) :
    reader.step ',' = ⟨.cell, [], row ++ [cell], rows⟩ := by
  obtain ⟨hplace, rfl, rfl, rfl⟩ := h
  rcases hplace with hplace | hplace | hplace | hplace <;> simp [step, hplace, unquoted, endCell]

theorem Reader.AtEnd.line (h : reader.AtEnd cell row rows) :
    ['\r', '\n'].foldl Reader.step reader = ⟨.line, [], [], rows ++ [row ++ [cell]]⟩ := by
  obtain ⟨hplace, rfl, rfl, rfl⟩ := h
  have hcarriage : reader.step '\r' = reader.endRow .carriage := by
    rcases hplace with hplace | hplace | hplace | hplace <;> simp [step, hplace, unquoted]
  rw [List.foldl_cons, List.foldl_cons, List.foldl_nil, hcarriage]
  rfl

theorem foldl_doubled (cell text : List Char) :
    (doubled cell).foldl Reader.step ⟨.quoted, text, row, rows⟩ =
      ⟨.quoted, text ++ cell, row, rows⟩ := by
  induction cell generalizing text with
  | nil => simp [doubled]
  | cons c cell ih =>
    by_cases hc : c = '"'
    · subst hc
      have hmarks : ((Reader.mk .quoted text row rows).step '"').step '"' =
          ⟨.quoted, text ++ ['"'], row, rows⟩ := rfl
      rw [doubled, if_pos rfl, List.foldl_cons, List.foldl_cons, hmarks, ih]
      simp
    · have hstep : (Reader.mk .quoted text row rows).step c =
          ⟨.quoted, text ++ [c], row, rows⟩ := by
        simp [Reader.step, Reader.push, hc]
      rw [doubled, if_neg hc, List.foldl_cons, hstep, ih]
      simp

theorem foldl_plain {c : Char} {cell : List Char} (hplace : reader.place ≠ .quoted)
    (hcarriage : reader.place ≠ .carriage) (hplain : ∀ c' ∈ c :: cell, special c' = false) :
    (c :: cell).foldl Reader.step reader =
      ⟨.plain, reader.text ++ c :: cell, reader.row, reader.rows⟩ := by
  induction cell generalizing reader c with
  | nil =>
    have hc := hplain c List.mem_cons_self
    simp only [special, Bool.or_eq_false_iff, beq_eq_false_iff_ne] at hc
    obtain ⟨place, text, row, rows⟩ := reader
    cases place <;> simp_all [Reader.step, Reader.unquoted, Reader.push]
  | cons next cell ih =>
    have hc := hplain c List.mem_cons_self
    simp only [special, Bool.or_eq_false_iff, beq_eq_false_iff_ne] at hc
    have hstep : reader.step c = reader.push .plain c := by
      obtain ⟨place, text, row, rows⟩ := reader
      cases place <;> simp_all [Reader.step, Reader.unquoted]
    rw [List.foldl_cons, hstep, ih]
    · simp [Reader.push]
    · simp [Reader.push]
    · simp [Reader.push]
    · intro c' hc'
      exact hplain c' (List.mem_cons_of_mem c hc')

/-- A cell is read from the start of a line or after a comma. -/
theorem atEnd_writeCell {place : Place} (hplace : place = .line ∨ place = .cell)
    (cell : List Char) :
    ((writeCell cell).foldl Reader.step ⟨place, [], row, rows⟩).AtEnd cell row rows := by
  unfold writeCell
  split
  · have hopen : (Reader.mk place [] row rows).step '"' = ⟨.quoted, [], row, rows⟩ := by
      rcases hplace with rfl | rfl <;> rfl
    rw [List.cons_append, List.foldl_cons, hopen, List.foldl_append, foldl_doubled]
    exact ⟨Or.inr (Or.inr (Or.inr rfl)), rfl, rfl, rfl⟩
  · rename_i hspecial
    cases cell with
    | nil =>
      constructor
      · rcases hplace with rfl | rfl
        · exact Or.inl rfl
        · exact Or.inr (Or.inl rfl)
      · rfl
      · rfl
      · rfl
    | cons c cell =>
      rw [foldl_plain]
      · exact ⟨Or.inr (Or.inr (Or.inl rfl)), rfl, rfl, rfl⟩
      · rcases hplace with rfl | rfl <;> simp
      · rcases hplace with rfl | rfl <;> simp
      · simpa using hspecial

theorem foldl_writeRest (cells : List (List Char)) (h : reader.AtEnd cell row rows) :
    (writeRest cells ++ ['\r', '\n']).foldl Reader.step reader =
      ⟨.line, [], [], rows ++ [row ++ cell :: cells]⟩ := by
  induction cells generalizing reader cell row with
  | nil => exact h.line
  | cons next cells ih =>
    have hnext : ((writeCell next).foldl Reader.step ⟨.cell, [], row ++ [cell], rows⟩).AtEnd
        next (row ++ [cell]) rows := atEnd_writeCell (Or.inr rfl) next
    rw [writeRest, List.append_assoc, List.cons_append, List.foldl_cons, List.foldl_append,
      h.comma, ih hnext]
    simp

theorem foldl_writeRow {cells : List (List Char)} (h : cells ≠ []) :
    (writeRow cells).foldl Reader.step ⟨.line, [], [], rows⟩ =
      ⟨.line, [], [], rows ++ [cells]⟩ := by
  unfold writeRow
  split
  · exact absurd rfl h
  · rfl
  · rw [List.append_assoc, List.foldl_append,
      foldl_writeRest _ (atEnd_writeCell (Or.inl rfl) _)]
    rfl

/-- **Round trip.**  Lines of at least one cell are read back from what is written of
    them. -/
theorem read_flatMap_writeRow {lines : List (List (List Char))} (h : ∀ line ∈ lines, line ≠ []) :
    read (lines.flatMap writeRow) = lines := by
  suffices key : ∀ rows, (lines.flatMap writeRow).foldl Reader.step ⟨.line, [], [], rows⟩ =
      ⟨.line, [], [], rows ++ lines⟩ by
    have hread := key []
    rw [List.nil_append] at hread
    exact congrArg Reader.rows hread
  induction lines with
  | nil => simp
  | cons line lines ih =>
    intro rows
    rw [List.flatMap_cons, List.foldl_append, foldl_writeRow (h line List.mem_cons_self),
      ih fun line hline => h line (List.mem_cons_of_mem _ hline)]
    simp

end PatrolBot.Csv
