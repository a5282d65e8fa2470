import Mathlib.Data.List.Perm.Subperm
import PatrolBot.Alerts
import PatrolBot.Library.Retention

/-!
# The event log

The number that `add_event` gives an alert, the alerts that a robot keeps in memory, and the
table `events`.  One allocator numbers the alerts of all robots; the server sends and stores
them one after another, and between two answers of the database anything may happen.  What
no commit has put on the disk is gone when the server stops.
-/

namespace PatrolBot.EventLog

open Diagnostics (Notice)
open Retention

/-- An `EventData` with the robot that it is of: a row of `events`. -/
structure EventRow where
  robotId : String
  id : Nat
  ts : String
  notice : Notice
deriving DecidableEq

/-- The statement of `Database.add_event` that an answer is awaited for. -/
inductive Stage where
  | insert
  | delete
  | commit
deriving DecidableEq

/-- A call of `_emit_events` under way: what it has not stored, and where it waits. -/
structure Emission where
  events : List EventRow
  stage : Stage

structure Server where
  -- `event_ids.next_id`
  nextId : Nat := 1
  robots : String → Alerts.RobotState := fun _ => {}
  -- `RobotState.events`, the newest first
  events : String → List EventRow := fun _ => []
  emissions : List Emission := []
  -- the table `events` as the connection sees it, and as the last commit left it
  working : List EventRow := []
  committed : List EventRow := []

/-! ### The table -/

/-- `INSERT OR REPLACE INTO events`. -/
def insertRow (row : EventRow) (rows : List EventRow) : List EventRow :=
  (rows.filter fun row' => !(row'.robotId = row.robotId && row'.id = row.id)) ++ [row]

/-- `DELETE FROM events WHERE rowid NOT IN (… LIMIT 5000)`. -/
def deleteOld (rows : List EventRow) : List EventRow := newest EventRow.id 5000 rows

/-- `next_event_id`. -/
def nextEventId (rows : List EventRow) : Nat := (rows.map EventRow.id).foldr max 0 + 1

/-- `get_events`. -/
def getEvents (limit : Nat) (rows : List EventRow) : List EventRow :=
  newest EventRow.id limit rows

/-! ### The server -/

/-- The events of a list of notices, numbered from `nextId` on. -/
def numbered (robotId : String) (ts : Nat → String) (nextId : Nat) :
    List Notice → List EventRow
  | [] => []
  | notice :: notices => ⟨robotId, nextId, ts nextId, notice⟩ ::
      numbered robotId ts (nextId + 1) notices

/-- `appendleft` of a deque of 500. -/
def appendLeft (events : List EventRow) (row : EventRow) : List EventRow :=
  (row :: events).take 500

inductive Input where
  /-- What the hub does to a robot's state; `ts` is what `utc_now` tells at an event. -/
  | call (robotId : String) (now : ℚ) (call : Alerts.Call) (ts : Nat → String)
  /-- The database has done what an emission waits for. -/
  | answers (emission : Nat)
  /-- The statement raises, and the rest of the emission is not sent. -/
  | raises (emission : Nat)
  /-- Another task commits, or the database takes back what no commit has. -/
  | commits
  | rollsBack
  /-- The server stops, in whatever state, and starts again. -/
  | restarts

/-- The state has changed; its alerts are numbered, kept and on their way. -/
def Server.receive (settings : Alerts.Settings) (s : Server) (robotId : String) (now : ℚ)
    (call : Alerts.Call) (ts : Nat → String) : Server × List EventRow :=
  let handled := Alerts.handle settings now (s.robots robotId) call
  let rows := numbered robotId ts s.nextId handled.2
  let s := { s with
    nextId := s.nextId + rows.length
    robots := Function.update s.robots robotId handled.1
    events := Function.update s.events robotId (rows.foldl appendLeft (s.events robotId)) }
  match rows with
  | [] => (s, [])
  | first :: _ => ({ s with emissions := s.emissions ++ [⟨rows, .insert⟩] }, [first])

/-- An emission goes on: the next statement, or the next event. -/
def Server.answer (s : Server) (k : Nat) : Server × List EventRow :=
  match s.emissions[k]? with
  | some ⟨row :: rest, .insert⟩ =>
    ({ s with
        working := insertRow row s.working
        emissions := s.emissions.set k ⟨row :: rest, .delete⟩ }, [])
  | some ⟨row :: rest, .delete⟩ =>
    ({ s with
        working := deleteOld s.working
        emissions := s.emissions.set k ⟨row :: rest, .commit⟩ }, [])
  | some ⟨_ :: next :: rest, .commit⟩ =>
    ({ s with
        committed := s.working
        emissions := s.emissions.set k ⟨next :: rest, .insert⟩ }, [next])
  | some ⟨[_], .commit⟩ =>
    ({ s with committed := s.working, emissions := s.emissions.eraseIdx k }, [])
  | _ => (s, [])

/-- The lifespan of a new process: `set_event_seed(next_event_id())` of a fresh allocator. -/
def Server.restart (s : Server) : Server where
  nextId := max 1 (nextEventId s.committed)
  working := s.committed
  committed := s.committed

def Server.step (settings : Alerts.Settings) (s : Server) : Input → Server × List EventRow
  | .call robotId now call ts => s.receive settings robotId now call ts
  | .answers k => s.answer k
  | .raises k => ({ s with emissions := s.emissions.eraseIdx k }, [])
  | .commits => ({ s with committed := s.working }, [])
  | .rollsBack => ({ s with working := s.committed }, [])
  | .restarts => (s.restart, [])

/-- The server; its outputs are the `event.append` frames. -/
def server (settings : Alerts.Settings) : Machine Server Input EventRow where
  step s input := s.step settings input

/-- The server after a run that starts with no table. -/
def after (settings : Alerts.Settings) (inputs : List Input) : Server :=
  (server settings).run {} inputs

/-! ### Numbers -/

section

variable {robotId : String} {ts : Nat → String} {nextId : Nat} {notices : List Notice}
variable {row : EventRow} {rows : List EventRow}

@[simp] theorem length_numbered :
    (numbered robotId ts nextId notices).length = notices.length := by
  induction notices generalizing nextId with
  | nil => rfl
  | cons notice notices ih => simp [numbered, ih]

theorem mem_numbered (h : row ∈ numbered robotId ts nextId notices) :
    nextId ≤ row.id ∧ row.id < nextId + notices.length := by
  induction notices generalizing nextId with
  | nil => simp [numbered] at h
  | cons notice notices ih =>
    rw [numbered] at h
    rw [List.length_cons]
    rcases List.mem_cons.mp h with rfl | h
    · exact ⟨Nat.le_refl _, Nat.lt_add_of_pos_right (Nat.succ_pos _)⟩
    · have hid := ih h
      omega

theorem numbered_unique {row' : EventRow} (h : row ∈ numbered robotId ts nextId notices)
    (h' : row' ∈ numbered robotId ts nextId notices) (hid : row.id = row'.id) : row = row' := by
  induction notices generalizing nextId with
  | nil => simp [numbered] at h
  | cons notice notices ih =>
    rw [numbered] at h h'
    rcases List.mem_cons.mp h with rfl | h
    · rcases List.mem_cons.mp h' with rfl | h'
      · rfl
      · have hlater := (mem_numbered h').1
        simp only at hid
        omega
    · rcases List.mem_cons.mp h' with rfl | h'
      · have hlater := (mem_numbered h).1
        simp only at hid
        omega
      · exact ih h h'

theorem mem_foldl_appendLeft {events : List EventRow} (h : row ∈ rows.foldl appendLeft events) :
    row ∈ rows ∨ row ∈ events := by
  induction rows generalizing events with
  | nil => exact Or.inr h
  | cons first rows ih =>
    rcases ih h with hrows | hevents
    · exact Or.inl (List.mem_cons_of_mem first hrows)
    · rcases List.mem_cons.mp (List.mem_of_mem_take hevents) with rfl | hevents
      · exact Or.inl List.mem_cons_self
      · exact Or.inr hevents

theorem mem_insertRow {other : EventRow} (h : row ∈ insertRow other rows) :
    row = other ∨ row ∈ rows := by
  rw [insertRow, List.mem_append, List.mem_singleton] at h
  rcases h with h | h
  · exact Or.inr (List.mem_of_mem_filter h)
  · exact Or.inl h

theorem id_lt_nextEventId (h : row ∈ rows) : row.id < nextEventId rows := by
  induction rows with
  | nil => cases h
  | cons first rows ih =>
    rw [nextEventId, List.map_cons, List.foldr_cons]
    rcases List.mem_cons.mp h with rfl | h
    · omega
    · have hid := ih h
      rw [nextEventId] at hid
      omega

/-- A row that only replaces itself is where it was, or is new. -/
theorem insertRow_cases (hunique : ∀ other ∈ rows, other.id = row.id → other = row)
    (hnodup : (rows.map EventRow.id).Nodup) :
    (insertRow row rows).Perm rows ∨ row ∉ rows ∧ insertRow row rows = rows ++ [row] := by
  have hfilter : rows.filter (fun other => !(other.robotId = row.robotId && other.id = row.id)) =
      rows.erase row := by
    rw [hnodup.of_map.erase_eq_filter]
    refine List.filter_congr ?_
    intro other hother
    by_cases heq : other = row
    · simp [heq]
    · have hid : other.id ≠ row.id := fun hid => heq (hunique other hother hid)
      simp [heq, hid]
  rw [insertRow, hfilter]
  by_cases hrow : row ∈ rows
  · left
    exact (List.perm_append_singleton row _).trans (List.perm_cons_erase hrow).symm
  · right
    exact ⟨hrow, by rw [List.erase_of_not_mem hrow]⟩

theorem nodup_insertRow (hunique : ∀ other ∈ rows, other.id = row.id → other = row)
    (hnodup : (rows.map EventRow.id).Nodup) : ((insertRow row rows).map EventRow.id).Nodup := by
  rcases insertRow_cases hunique hnodup with hperm | ⟨hrow, heq⟩
  · exact (hperm.map EventRow.id).nodup_iff.mpr hnodup
  · rw [heq, List.map_append, List.nodup_append]
    refine ⟨hnodup, List.nodup_singleton _, ?_⟩
    intro id hid id' hid' heq
    obtain ⟨other, hother, rfl⟩ := List.mem_map.mp hid
    exact hrow (hunique other hother (heq.trans (List.mem_singleton.mp hid')) ▸ hother)

theorem kept_insertRow {known : EventRow}
    (hunique : ∀ other ∈ rows, other.id = row.id → other = row)
    (hnodup : (rows.map EventRow.id).Nodup) (h : Kept EventRow.id 5000 known rows) :
    Kept EventRow.id 5000 known (insertRow row rows) := by
  rcases insertRow_cases hunique hnodup with hperm | ⟨-, heq⟩
  · exact h.perm hperm.symm
  · rw [heq]
    exact h.concat row

end

/-! ### What the server has of a row -/

/-- The row is in memory, on its way, or in the table. -/
def Server.Has (s : Server) (row : EventRow) : Prop :=
  (∃ robotId, row ∈ s.events robotId) ∨ (∃ emission ∈ s.emissions, row ∈ emission.events) ∨
    row ∈ s.working ∨ row ∈ s.committed

/-- No number is used twice, and the rows of a list, once committed, are kept. -/
structure Sound (known : List EventRow) (s : Server) : Prop where
  below {row : EventRow} : row ∈ known ∨ s.Has row → row.id < s.nextId
  unique {row row' : EventRow} :
    row ∈ known ∨ s.Has row → row' ∈ known ∨ s.Has row' → row.id = row'.id → row = row'
  workingNodup : (s.working.map EventRow.id).Nodup
  committedNodup : (s.committed.map EventRow.id).Nodup
  workingKeeps {row : EventRow} :
    row ∈ known ∨ row ∈ s.committed → Kept EventRow.id 5000 row s.working
  committedKeeps {row : EventRow} : row ∈ known → Kept EventRow.id 5000 row s.committed

section

variable {known : List EventRow} {s t : Server} {row : EventRow}

theorem sound_empty : Sound [] {} where
  below := by
    rintro row (h | ⟨robotId, h⟩ | ⟨emission, h, -⟩ | h | h) <;> cases h
  unique := by
    rintro row row' (h | ⟨robotId, h⟩ | ⟨emission, h, -⟩ | h | h) <;> cases h
  workingNodup := List.nodup_nil
  committedNodup := List.nodup_nil
  workingKeeps := by
    rintro row (h | h) <;> cases h
  committedKeeps := by
    intro row h
    cases h

theorem Server.has_working (h : row ∈ s.working) : s.Has row := Or.inr (Or.inr (Or.inl h))

theorem Server.has_committed (h : row ∈ s.committed) : s.Has row := Or.inr (Or.inr (Or.inr h))

/-- What a call does to the server: nothing to the table. -/
theorem receive_eq (settings : Alerts.Settings) (s : Server) (robotId : String) (now : ℚ)
    (call : Alerts.Call) (ts : Nat → String) :
    ∃ rows emissions, (∃ notices, rows = numbered robotId ts s.nextId notices) ∧
      (∀ emission ∈ emissions, emission ∈ s.emissions ∨ emission.events = rows) ∧
      (s.receive settings robotId now call ts).1 = { s with
        nextId := s.nextId + rows.length
        robots := Function.update s.robots robotId
          (Alerts.handle settings now (s.robots robotId) call).1
        events := Function.update s.events robotId (rows.foldl appendLeft (s.events robotId))
        emissions := emissions } := by
  have hrows : ∃ rows, rows = numbered robotId ts s.nextId
      (Alerts.handle settings now (s.robots robotId) call).2 := ⟨_, rfl⟩
  obtain ⟨rows, hrows⟩ := hrows
  rw [Server.receive, ← hrows]
  cases rows with
  | nil => exact ⟨[], s.emissions, ⟨_, hrows⟩, fun _ => Or.inl, rfl⟩
  | cons first rows =>
    refine ⟨first :: rows, _, ⟨_, hrows⟩, ?_, rfl⟩
    intro emission hemission
    rcases List.mem_append.mp hemission with hemission | hemission
    · exact Or.inl hemission
    · exact Or.inr (congrArg Emission.events (List.mem_singleton.mp hemission))

/-- An emission that goes on has no more than it had. -/
theorem exists_emission_of_set {k : Nat} {old new emission : Emission}
    (hk : s.emissions[k]? = some old) (hnew : new.events ⊆ old.events)
    (hmem : emission ∈ s.emissions.set k new) (hrow : row ∈ emission.events) :
    ∃ emission ∈ s.emissions, row ∈ emission.events := by
  rcases List.mem_or_eq_of_mem_set hmem with hmem | rfl
  · exact ⟨emission, hmem, hrow⟩
  · exact ⟨old, List.mem_of_getElem? hk, hnew hrow⟩

namespace Sound

/-- What is committed is known from then on. -/
theorem of_committed (h : Sound known s) : Sound s.committed s where
  below hrow := h.below (Or.inr (hrow.elim Server.has_committed id))
  unique hrow hrow' hid := h.unique (Or.inr (hrow.elim Server.has_committed id))
    (Or.inr (hrow'.elim Server.has_committed id)) hid
  workingNodup := h.workingNodup
  committedNodup := h.committedNodup
  workingKeeps hrow := h.workingKeeps (Or.inr (hrow.elim id id))
  committedKeeps hrow := Or.inl hrow

/-- A step of the memory. -/
theorem memory (h : Sound known s) (hhas : ∀ row, t.Has row → s.Has row)
    (hnext : s.nextId ≤ t.nextId) (hworking : t.working = s.working)
    (hcommitted : t.committed = s.committed) : Sound known t where
  below hrow := Nat.lt_of_lt_of_le (h.below (hrow.imp_right (hhas _))) hnext
  unique hrow hrow' hid := h.unique (hrow.imp_right (hhas _)) (hrow'.imp_right (hhas _)) hid
  workingNodup := hworking ▸ h.workingNodup
  committedNodup := hcommitted ▸ h.committedNodup
  workingKeeps hrow := hworking ▸ h.workingKeeps (hcommitted ▸ hrow)
  committedKeeps hrow := hcommitted ▸ h.committedKeeps hrow

/-- A step of the table as the connection sees it. -/
theorem write (h : Sound known s) (hhas : ∀ row, t.Has row → s.Has row)
    (hnext : t.nextId = s.nextId) (hworking : (t.working.map EventRow.id).Nodup)
    (hkeeps : ∀ row, Kept EventRow.id 5000 row s.working → Kept EventRow.id 5000 row t.working)
    (hcommitted : t.committed = s.committed) : Sound known t where
  below hrow := hnext ▸ h.below (hrow.imp_right (hhas _))
  unique hrow hrow' hid := h.unique (hrow.imp_right (hhas _)) (hrow'.imp_right (hhas _)) hid
  workingNodup := hworking
  committedNodup := hcommitted ▸ h.committedNodup
  workingKeeps hrow := hkeeps _ (h.workingKeeps (hcommitted ▸ hrow))
  committedKeeps hrow := hcommitted ▸ h.committedKeeps hrow

/-- A commit: of the table as the connection sees it. -/
theorem commit (h : Sound known s) (hhas : ∀ row, t.Has row → s.Has row)
    (hnext : t.nextId = s.nextId) (hworking : t.working = s.working)
    (hcommitted : t.committed = s.working) : Sound known t where
  below hrow := hnext ▸ h.below (hrow.imp_right (hhas _))
  unique hrow hrow' hid := h.unique (hrow.imp_right (hhas _)) (hrow'.imp_right (hhas _)) hid
  workingNodup := hworking ▸ h.workingNodup
  committedNodup := hcommitted ▸ h.workingNodup
  workingKeeps hrow := by
    rw [hworking]
    rw [hcommitted] at hrow
    rcases hrow with hrow | hrow
    · exact h.workingKeeps (Or.inl hrow)
    · exact Or.inl hrow
  committedKeeps hrow := hcommitted ▸ h.workingKeeps (Or.inl hrow)

/-- Alerts get numbers that nothing has. -/
theorem receive (h : Sound known s) (settings : Alerts.Settings) (robotId : String) (now : ℚ)
    (call : Alerts.Call) (ts : Nat → String) :
    Sound known (s.receive settings robotId now call ts).1 := by
  obtain ⟨rows, emissions, hrows, hemissions, ht⟩ :=
    receive_eq settings s robotId now call ts
  have hhas : ∀ row, (s.receive settings robotId now call ts).1.Has row →
      s.Has row ∨ row ∈ rows := by
    rw [ht]
    rintro row (⟨other, hrow⟩ | ⟨emission, hmem, hrow⟩ | hrow | hrow)
    · dsimp only at hrow
      by_cases heq : other = robotId
      · subst heq
        rw [Function.update_self] at hrow
        rcases mem_foldl_appendLeft hrow with hrow | hrow
        · exact Or.inr hrow
        · exact Or.inl (Or.inl ⟨other, hrow⟩)
      · rw [Function.update_of_ne heq] at hrow
        exact Or.inl (Or.inl ⟨other, hrow⟩)
    · rcases hemissions emission hmem with hmem | hsame
      · exact Or.inl (Or.inr (Or.inl ⟨emission, hmem, hrow⟩))
      · exact Or.inr (hsame ▸ hrow)
    · exact Or.inl (Server.has_working hrow)
    · exact Or.inl (Server.has_committed hrow)
  have hnext : (s.receive settings robotId now call ts).1.nextId = s.nextId + rows.length := by
    rw [ht]
  obtain ⟨notices, rfl⟩ := hrows
  rw [length_numbered] at hnext
  -- A row that was there has a smaller number than a row that is new.
  have hold : ∀ row, row ∈ known ∨ s.Has row →
      ∀ row' ∈ numbered robotId ts s.nextId notices, row.id < row'.id := by
    intro row hrow row' hrow'
    exact Nat.lt_of_lt_of_le (h.below hrow) (mem_numbered hrow').1
  have hcase : ∀ row, row ∈ known ∨ (s.receive settings robotId now call ts).1.Has row →
      (row ∈ known ∨ s.Has row) ∨ row ∈ numbered robotId ts s.nextId notices := by
    rintro row (hrow | hrow)
    · exact Or.inl (Or.inl hrow)
    · exact (hhas row hrow).imp_left Or.inr
  refine ⟨?_, ?_, ?_, ?_, ?_, ?_⟩
  · intro row hrow
    rw [hnext]
    rcases hcase row hrow with hrow | hrow
    · exact Nat.lt_of_lt_of_le (h.below hrow) (Nat.le_add_right _ _)
    · exact (mem_numbered hrow).2
  · intro row row' hrow hrow' hid
    rcases hcase row hrow with hrow | hrow
    · rcases hcase row' hrow' with hrow' | hrow'
      · exact h.unique hrow hrow' hid
      · exact absurd hid (Nat.ne_of_lt (hold row hrow row' hrow'))
    · rcases hcase row' hrow' with hrow' | hrow'
      · exact absurd hid.symm (Nat.ne_of_lt (hold row' hrow' row hrow))
      · exact numbered_unique hrow hrow' hid
  · rw [ht]
    exact h.workingNodup
  · rw [ht]
    exact h.committedNodup
  · rw [ht]
    exact h.workingKeeps
  · rw [ht]
    exact h.committedKeeps

/-- The next statement of an emission. -/
theorem answer (h : Sound known s) (k : Nat) : Sound known (s.answer k).1 := by
  unfold Server.answer
  split
  · rename_i row rest hk
    have hrow : s.Has row :=
      Or.inr (Or.inl ⟨_, List.mem_of_getElem? hk, List.mem_cons_self⟩)
    have hunique : ∀ other ∈ s.working, other.id = row.id → other = row :=
      fun other hother hid => h.unique (Or.inr (Server.has_working hother)) (Or.inr hrow) hid
    refine h.write ?_ rfl (nodup_insertRow hunique h.workingNodup)
      (fun _ hother => kept_insertRow hunique h.workingNodup hother) rfl
    rintro other (hother | ⟨emission, hmem, hother⟩ | hother | hother)
    · exact Or.inl hother
    · exact Or.inr (Or.inl (exists_emission_of_set hk (List.Subset.refl (row :: rest)) hmem hother))
    · rcases mem_insertRow hother with rfl | hother
      · exact hrow
      · exact Server.has_working hother
    · exact Server.has_committed hother
  · rename_i row rest hk
    refine h.write ?_ rfl (nodup_newest h.workingNodup) (fun _ hother => hother.cut h.workingNodup)
      rfl
    rintro other (hother | ⟨emission, hmem, hother⟩ | hother | hother)
    · exact Or.inl hother
    · exact Or.inr (Or.inl (exists_emission_of_set hk (List.Subset.refl (row :: rest)) hmem hother))
    · exact Server.has_working (newest_subset hother)
    · exact Server.has_committed hother
  · rename_i row next rest hk
    refine h.commit ?_ rfl rfl rfl
    rintro other (hother | ⟨emission, hmem, hother⟩ | hother | hother)
    · exact Or.inl hother
    · exact Or.inr (Or.inl
        (exists_emission_of_set hk (List.subset_cons_self _ _) hmem hother))
    · exact Server.has_working hother
    · exact Server.has_working hother
  · refine h.commit ?_ rfl rfl rfl
    rintro other (hother | ⟨emission, hmem, hother⟩ | hother | hother)
    · exact Or.inl hother
    · exact Or.inr (Or.inl ⟨emission, List.mem_of_mem_eraseIdx hmem, hother⟩)
    · exact Server.has_working hother
    · exact Server.has_working hother
  · exact h

/-- The numbers go on after those of the table that is left. -/
theorem restart (h : Sound known s) : Sound known s.restart where
  below := by
    intro row hrow
    obtain ⟨other, hother, hle⟩ : ∃ other ∈ s.committed, row.id ≤ other.id := by
      rcases hrow with hrow | ⟨robotId, hrow⟩ | ⟨emission, hrow, -⟩ | hrow | hrow
      · exact (h.committedKeeps hrow).exists_ge (by decide)
      · cases hrow
      · cases hrow
      · exact ⟨row, hrow, Nat.le_refl _⟩
      · exact ⟨row, hrow, Nat.le_refl _⟩
    exact Nat.lt_of_lt_of_le (Nat.lt_of_le_of_lt hle (id_lt_nextEventId hother))
      (Nat.le_max_right _ _)
  unique := by
    have hhas : ∀ row, s.restart.Has row → s.Has row := by
      rintro row (⟨robotId, hrow⟩ | ⟨emission, hrow, -⟩ | hrow | hrow)
      · cases hrow
      · cases hrow
      · exact Server.has_committed hrow
      · exact Server.has_committed hrow
    intro row row' hrow hrow' hid
    exact h.unique (hrow.imp_right (hhas _)) (hrow'.imp_right (hhas _)) hid
  workingNodup := h.committedNodup
  committedNodup := h.committedNodup
  workingKeeps := by
    rintro row (hrow | hrow)
    · exact h.committedKeeps hrow
    · exact Or.inl hrow
  committedKeeps := h.committedKeeps

theorem step (h : Sound known s) (settings : Alerts.Settings) (input : Input) :
    Sound known (s.step settings input).1 := by
  cases input with
  | call robotId now call ts => exact h.receive settings robotId now call ts
  | answers k => exact h.answer k
  | raises k =>
    refine h.memory ?_ (Nat.le_refl _) rfl rfl
    rintro row (hrow | ⟨emission, hmem, hrow⟩ | hrow)
    · exact Or.inl hrow
    · exact Or.inr (Or.inl ⟨emission, List.mem_of_mem_eraseIdx hmem, hrow⟩)
    · exact Or.inr (Or.inr hrow)
  | commits =>
    refine h.commit ?_ rfl rfl rfl
    rintro row (hrow | hrow | hrow | hrow)
    · exact Or.inl hrow
    · exact Or.inr (Or.inl hrow)
    · exact Server.has_working hrow
    · exact Server.has_working hrow
  | rollsBack =>
    have hhas : ∀ row, (s.step settings .rollsBack).1.Has row → s.Has row := by
      rintro row (hrow | hrow | hrow | hrow)
      · exact Or.inl hrow
      · exact Or.inr (Or.inl hrow)
      · exact Server.has_committed hrow
      · exact Server.has_committed hrow
    exact {
      below := fun hrow => h.below (hrow.imp_right (hhas _))
      unique := fun hrow hrow' hid =>
        h.unique (hrow.imp_right (hhas _)) (hrow'.imp_right (hhas _)) hid
      workingNodup := h.committedNodup
      committedNodup := h.committedNodup
      workingKeeps := fun hrow => hrow.elim h.committedKeeps Or.inl
      committedKeeps := h.committedKeeps }
  | restarts => exact h.restart

theorem run (h : Sound known s) (settings : Alerts.Settings) (inputs : List Input) :
    Sound known ((server settings).run s inputs) := by
  induction inputs generalizing s with
  | nil => exact h
  | cons input inputs ih => exact ih (h.step settings input)

end Sound

end

/-! ### Runs -/

theorem sound_after (settings : Alerts.Settings) (inputs : List Input) :
    Sound [] (after settings inputs) :=
  sound_empty.run settings inputs

/-- What is left of the rows that a run committed when the server has run on. -/
structure KeepsEvents (settings : Alerts.Settings) (inputs more : List Input) : Prop where
  -- Whatever the server has under one number, in memory or stored, is one event of one robot.
  numbers {row row' : EventRow} : (after settings (inputs ++ more)).Has row →
    (after settings (inputs ++ more)).Has row' → row.id = row'.id → row = row'
  -- No event is ever given the number of a row that was committed.
  never {row row' : EventRow} : row ∈ (after settings inputs).committed →
    (after settings (inputs ++ more)).Has row' → row.id = row'.id → row = row'
  kept {row : EventRow} : row ∈ (after settings inputs).committed →
    row ∈ (after settings (inputs ++ more)).committed ∨
      5000 ≤ newer EventRow.id row (after settings (inputs ++ more)).committed
  listed {row : EventRow} {limit : Nat} : row ∈ (after settings inputs).committed →
    limit ≤ 5000 →
    row ∈ getEvents limit (after settings (inputs ++ more)).working ∨
      limit ≤ newer EventRow.id row (getEvents limit (after settings (inputs ++ more)).working)

/-- **The event log.**  Over any interleaving of robots, database answers, failures and
    restarts: numbers are never shared, and a committed event is found until enough newer
    ones are. -/
theorem keepsEvents_run (settings : Alerts.Settings) (inputs more : List Input) :
    KeepsEvents settings inputs more := by
  have h : Sound (after settings inputs).committed (after settings (inputs ++ more)) := by
    have hrun : after settings (inputs ++ more) =
        (server settings).run (after settings inputs) more := Machine.run_append _ _ _ _
    rw [hrun]
    exact (sound_after settings inputs).of_committed.run settings more
  constructor
  · intro row row' hrow hrow' hid
    exact h.unique (Or.inr hrow) (Or.inr hrow') hid
  · intro row row' hrow hrow' hid
    exact h.unique (Or.inl hrow) (Or.inr hrow') hid
  · intro row hrow
    exact h.committedKeeps hrow
  · intro row limit hrow hlimit
    exact (h.workingKeeps (Or.inl hrow)).query hlimit h.workingNodup

end PatrolBot.EventLog
