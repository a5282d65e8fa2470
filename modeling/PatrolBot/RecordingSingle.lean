import PatrolBot.Recordings

/-!
# One recording at a time

A start looks for an open recording, inserts its own and makes it the active one in three
steps.  Two starts that both found none open two recordings, of which one is never closed;
where no start comes between the search and the return of another, there is at most one.
-/

namespace PatrolBot

namespace RecordingTables

variable {db : RecordingTables}

def ids (db : RecordingTables) : List Nat := db.recordings.map Recording.id

def openIds (db : RecordingTables) : List Nat := db.openRows.map Recording.id

theorem openIds_eq_nil : db.openIds = [] ↔ db.openRows = [] := List.map_eq_nil_iff

theorem mem_openIds_of_mem {row : Recording} (h : row ∈ db.openRows) : row.id ∈ db.openIds :=
  List.mem_map_of_mem h

theorem openIds_sublist : db.openIds.Sublist db.ids :=
  List.filter_sublist.map Recording.id

@[simp] theorem openIds_insertRecording (robotId name : String) (channels : List String) :
    (db.insertRecording robotId name channels).openIds = db.openIds ++ [db.lastId + 1] := by
  simp [openIds, openRows, insertRecording]

@[simp] theorem ids_insertRecording (robotId name : String) (channels : List String) :
    (db.insertRecording robotId name channels).ids = db.ids ++ [db.lastId + 1] := by
  simp [ids, insertRecording]

@[simp] theorem ids_stopRecording (id : Nat) : (db.stopRecording id).ids = db.ids := by
  simp only [ids, stopRecording, List.map_map]
  apply List.map_congr_left
  intro row _
  simp only [Function.comp_apply]
  split <;> rfl

@[simp] theorem openIds_stopRecording (id : Nat) :
    (db.stopRecording id).openIds = db.openIds.filter fun other => decide (other ≠ id) := by
  simp only [openIds, openRows, stopRecording]
  induction db.recordings with
  | nil => rfl
  | cons row rows ih =>
    by_cases hid : row.id = id
    · cases hstatus : row.status <;> simp [hid, hstatus, ih]
    · cases hstatus : row.status <;> simp [hid, hstatus, ih]

@[simp] theorem ids_countSample (id : Nat) : (db.countSample id).ids = db.ids := by
  simp only [ids, countSample, List.map_map]
  apply List.map_congr_left
  intro row _
  simp only [Function.comp_apply]
  split <;> rfl

@[simp] theorem openIds_countSample (id : Nat) : (db.countSample id).openIds = db.openIds := by
  simp only [openIds, openRows, countSample]
  induction db.recordings with
  | nil => rfl
  | cons row rows ih =>
    by_cases hid : row.id = id
    · cases hstatus : row.status <;> simp [hid, hstatus, ih]
    · cases hstatus : row.status <;> simp [hid, hstatus, ih]

/-- A table whose ids grow and of whose rows only the newest may be open. -/
structure Sound (db : RecordingTables) : Prop where
  sorted : db.ids.Pairwise fun earlier later => earlier < later
  bounded : ∀ id ∈ db.ids, id ≤ db.lastId
  newest : ∀ id ∈ db.openIds, id = db.lastId

theorem sound_empty : ({} : RecordingTables).Sound where
  sorted := List.Pairwise.nil
  bounded _ hmem := absurd hmem List.not_mem_nil
  newest _ hmem := absurd hmem List.not_mem_nil

namespace Sound

theorem openIds_eq (h : db.Sound) : db.openIds = [] ∨ db.openIds = [db.lastId] := by
  have hsorted := h.sorted.sublist openIds_sublist
  have hnewest := h.newest
  cases hids : db.openIds with
  | nil => exact Or.inl rfl
  | cons first rest =>
    rw [hids] at hsorted hnewest
    have hfirst := hnewest first List.mem_cons_self
    cases rest with
    | nil =>
      rw [hfirst]
      exact Or.inr rfl
    | cons second rest =>
      have hlt := List.rel_of_pairwise_cons hsorted List.mem_cons_self
      have hsecond := hnewest second (List.mem_cons_of_mem _ List.mem_cons_self)
      omega

theorem length_openRows_le (h : db.Sound) : db.openRows.length ≤ 1 := by
  rw [← List.length_map Recording.id]
  change db.openIds.length ≤ 1
  rcases h.openIds_eq with hids | hids
  · rw [hids]
    exact Nat.zero_le 1
  · rw [hids]
    exact le_rfl

/-- No id is added, no row opened. -/
theorem of_subset (h : db.Sound) {db' : RecordingTables} (hids : db'.ids = db.ids)
    (hlast : db'.lastId = db.lastId) (hopen : db'.openIds ⊆ db.openIds) : db'.Sound where
  sorted := by
    rw [hids]
    exact h.sorted
  bounded := by
    rw [hids, hlast]
    exact h.bounded
  newest id hmem := by
    rw [hlast]
    exact h.newest id (hopen hmem)

theorem insertRecording (h : db.Sound) (hopen : db.openIds = []) (robotId name : String)
    (channels : List String) : (db.insertRecording robotId name channels).Sound where
  sorted := by
    rw [ids_insertRecording, List.pairwise_append]
    refine ⟨h.sorted, List.pairwise_singleton _ _, ?_⟩
    intro id hmem new hnew
    have hle := h.bounded id hmem
    rw [List.mem_singleton.mp hnew]
    omega
  bounded id hmem := by
    change id ≤ db.lastId + 1
    rw [ids_insertRecording] at hmem
    rcases List.mem_append.mp hmem with hold | hnew
    · have hle := h.bounded id hold
      omega
    · rw [List.mem_singleton.mp hnew]
  newest id hmem := by
    rw [openIds_insertRecording, hopen, List.nil_append] at hmem
    exact List.mem_singleton.mp hmem

/-- The open row is the newest, so the list of the newest rows has it. -/
theorem mem_listRecordings (h : db.Sound) {row : Recording} (hmem : row ∈ db.openRows) :
    row ∈ db.listRecordings := by
  have hlast : row.id = db.lastId := h.newest row.id (mem_openIds_of_mem hmem)
  obtain ⟨front, rest, hsplit⟩ := List.append_of_mem (List.mem_of_mem_filter hmem)
  have hrest : rest = [] := by
    apply List.eq_nil_iff_forall_not_mem.mpr
    intro other hother
    have hsorted := h.sorted
    rw [ids, hsplit, List.map_append, List.pairwise_append] at hsorted
    have hlt := List.rel_of_pairwise_cons hsorted.2.1 (List.mem_map_of_mem hother)
    have hle := h.bounded other.id (by
      rw [ids, hsplit]
      exact List.mem_map_of_mem (List.mem_append_right _ (List.mem_cons_of_mem _ hother)))
    omega
  rw [listRecordings, hsplit, hrest, List.reverse_append]
  exact List.mem_cons_self

end Sound

theorem exists_getRecording {id : Nat} (h : id ∈ db.openIds) :
    ∃ row, db.getRecording id = some row := by
  obtain ⟨row, hrow, rfl⟩ := List.mem_map.mp h
  apply Option.isSome_iff_exists.mp
  rw [getRecording, List.find?_isSome]
  exact ⟨row, List.mem_of_mem_filter hrow, decide_eq_true rfl⟩

theorem id_of_getRecording {id : Nat} {row : Recording} (h : db.getRecording id = some row) :
    row.id = id := by
  unfold getRecording at h
  simpa using List.find?_some h

end RecordingTables

/-! ### Where an open row belongs -/

namespace RecorderStage

/-- A start that found no open recording and has not returned. -/
def found : RecorderStage → Bool
  | .inserting .. | .fetching .. | .starting .. => true
  | _ => false

/-- The call will close the row of this id or make it the active one. -/
def owns (id : Nat) : RecorderStage → Prop
  | .fetching .. | .starting .. | .listing => True
  | .flushing own _ | .closing own => own = id
  | .recovering ids => id ∈ ids
  | _ => False

/-- What a start that found no open recording knows of the tables. -/
def Consistent (db : RecordingTables) : RecorderStage → Prop
  | .inserting .. | .starting none _ => db.openIds = []
  | .fetching id _ => id = db.lastId
  | .starting (some row) _ => row.id = db.lastId
  | _ => True

theorem consistent_of_found {db : RecordingTables} {stage : RecorderStage}
    (h : stage.found = false) : stage.Consistent db := by
  cases stage with
  | inserting robotId name wanted => cases h
  | fetching id wanted => cases h
  | starting row wanted => cases h
  | _ => trivial

theorem Consistent.of_subset {db db' : RecordingTables} {stage : RecorderStage}
    (h : stage.Consistent db) (hlast : db'.lastId = db.lastId)
    (hopen : db'.openIds ⊆ db.openIds) : stage.Consistent db' := by
  have hnil : db.openIds = [] → db'.openIds = [] := by
    intro hnone
    rw [hnone] at hopen
    exact List.subset_nil.mp hopen
  cases stage with
  | inserting robotId name wanted => exact hnil h
  | fetching id wanted => exact Eq.trans h hlast.symm
  | starting row wanted =>
    cases row with
    | none => exact hnil h
    | some row => exact Eq.trans h hlast.symm
  | _ => trivial

@[simp] theorem found_drain (stage : RecorderStage) : stage.drain.found = stage.found := by
  cases stage <;> rfl

@[simp] theorem owns_drain {id : Nat} (stage : RecorderStage) :
    stage.drain.owns id ↔ stage.owns id := by
  cases stage <;> exact Iff.rfl

end RecorderStage

namespace Recordings

variable {s : Recordings}

/-- A start finds no open recording while another that found none has not returned. -/
def overlaps (s : Recordings) : RecordingEvent → Bool
  | .resume call =>
    match s.calls[call]? with
    | some (.selecting ..) => s.db.openRows.isEmpty && s.calls.any RecorderStage.found
    | _ => false
  | _ => false

/-- At most one recording is open; one that is, is the active one unless a call of the
    recorder is in progress. -/
def Single (s : Recordings) : Prop :=
  s.db.openRows.length ≤ 1 ∧
    ((∀ stage ∈ s.calls, stage = .returned) → ∀ row ∈ s.db.openRows,
      ∃ active, s.recorder.active = some active ∧ active.id = row.id)

/-- This call is a start that found no open recording and has not returned. -/
def FoundAt (calls : List RecorderStage) (call : Nat) : Prop :=
  StageAt (fun stage => stage.found = true) calls call

theorem not_foundAt_of_any {calls : List RecorderStage}
    (h : calls.any RecorderStage.found = false) (call : Nat) : ¬FoundAt calls call := by
  rintro ⟨stage, hstage, hfound⟩
  rw [List.any_eq_false] at h
  exact h stage (List.mem_of_getElem? hstage) hfound

/-- The open row is the newest, and it is the active recording or in the hands of a call;
    at most one start is between its search and its return. -/
structure SingleOpen (s : Recordings) : Prop where
  tables : s.db.Sound
  alone : ∀ first second, FoundAt s.calls first → FoundAt s.calls second → first = second
  consistent : ∀ stage ∈ s.calls, stage.Consistent s.db
  owned : s.db.openIds ≠ [] →
    (∃ row, s.recorder.active = some row ∧ row.id = s.db.lastId) ∨
      ∃ stage ∈ s.calls, stage.owns s.db.lastId

theorem SingleOpen.single (h : SingleOpen s) : s.Single := by
  refine ⟨h.tables.length_openRows_le, ?_⟩
  intro hreturned row hrow
  have hid : row.id = s.db.lastId :=
    h.tables.newest row.id (RecordingTables.mem_openIds_of_mem hrow)
  rcases h.owned (List.ne_nil_of_mem (RecordingTables.mem_openIds_of_mem hrow)) with
    ⟨active, hactive, hlast⟩ | ⟨stage, hmem, howns⟩
  · exact ⟨active, hactive, hlast.trans hid.symm⟩
  · rw [hreturned stage hmem] at howns
    exact howns.elim

/-- A call is begun, which may take the active recording in hand. -/
theorem SingleOpen.begin (h : SingleOpen s) {stage : RecorderStage} {recorder : Recorder}
    (hfound : stage.found = false)
    (hactive : ∀ row, s.recorder.active = some row → row.id = s.db.lastId →
      recorder.active = some row ∨ stage.owns s.db.lastId) :
    SingleOpen ({ s with recorder := recorder }.begin stage) where
  tables := h.tables
  alone first second hfirst hsecond :=
    h.alone first second (hfirst.of_concat (Bool.eq_false_iff.mp hfound))
      (hsecond.of_concat (Bool.eq_false_iff.mp hfound))
  consistent other hmem := by
    rcases List.mem_append.mp hmem with hold | hnew
    · exact h.consistent other hold
    · rw [List.mem_singleton.mp hnew]
      exact RecorderStage.consistent_of_found hfound
  owned hopen := by
    rcases h.owned hopen with ⟨row, hrow, hlast⟩ | ⟨other, hmem, howns⟩
    · rcases hactive row hrow hlast with hkept | htaken
      · exact Or.inl ⟨row, hkept, hlast⟩
      · exact Or.inr ⟨stage, List.mem_append_right _ (List.mem_singleton_self _), htaken⟩
    · exact Or.inr ⟨other, List.mem_append_left _ hmem, howns⟩

/-- **Call lemma.**  A call goes on that adds no recording: it keeps what it owns as long as
    that is open. -/
theorem SingleOpen.proceed (h : SingleOpen s) {call : Nat} {old new : RecorderStage}
    {db : RecordingTables} (hcall : s.calls[call]? = some old)
    (hfound : new.found = true → old.found = true ∨ s.calls.any RecorderStage.found = false)
    (hconsistent : new.Consistent db) (hids : db.ids = s.db.ids) (hlast : db.lastId = s.db.lastId)
    (hopen : db.openIds ⊆ s.db.openIds)
    (howns : db.openIds ≠ [] → old.owns s.db.lastId → new.owns s.db.lastId) :
    SingleOpen ({ s with db := db }.proceed call new) := by
  have hbound : call < s.calls.length := (List.getElem?_eq_some_iff.mp hcall).1
  refine ⟨h.tables.of_subset hids hlast hopen, ?_, ?_, ?_⟩
  · -- The start that found none is the call itself, or was one before.
    have hself : ∀ other, new.found = true → FoundAt s.calls other → other = call := by
      intro other hnew hother
      rcases hfound hnew with hwas | hnone
      · exact h.alone other call hother ⟨old, hcall, hwas⟩
      · exact absurd hother (not_foundAt_of_any hnone other)
    intro first second hfirst hsecond
    rcases StageAt.of_set hfirst with ⟨hcall₁, hnew⟩ | hbefore₁
    · rcases StageAt.of_set hsecond with ⟨hcall₂, -⟩ | hbefore₂
      · exact hcall₁.trans hcall₂.symm
      · exact hcall₁.trans (hself second hnew hbefore₂).symm
    · rcases StageAt.of_set hsecond with ⟨hcall₂, hnew⟩ | hbefore₂
      · exact (hself first hnew hbefore₁).trans hcall₂.symm
      · exact h.alone first second hbefore₁ hbefore₂
  · intro stage hmem
    rcases List.mem_or_eq_of_mem_set hmem with hold | hnew
    · exact (h.consistent stage hold).of_subset hlast hopen
    · rw [hnew]
      exact hconsistent
  · intro hsome
    have hsome : db.openIds ≠ [] := hsome
    have hbefore : s.db.openIds ≠ [] := by
      intro hnone
      rw [hnone] at hopen
      exact hsome (List.subset_nil.mp hopen)
    change (∃ row, s.recorder.active = some row ∧ row.id = db.lastId) ∨ _
    rw [hlast]
    rcases h.owned hbefore with hactive | ⟨stage, hmem, hstage⟩
    · exact Or.inl hactive
    · obtain ⟨i, hi⟩ := List.getElem?_of_mem hmem
      right
      by_cases hself : i = call
      · subst hself
        rw [hcall] at hi
        cases hi
        exact ⟨new, List.mem_set hbound new, by
          change new.owns db.lastId
          rw [hlast]
          exact howns hsome hstage⟩
      · have hkept : (s.calls.set call new)[i]? = some stage := by
          rwa [List.getElem?_set_ne (Ne.symm hself)]
        exact ⟨stage, List.mem_of_getElem? hkept, by
          change stage.owns db.lastId
          rw [hlast]
          exact hstage⟩

/-- The call lemma where the tables stay and the call is no start past its search. -/
theorem SingleOpen.advance (h : SingleOpen s) {call : Nat} {old new : RecorderStage}
    (hcall : s.calls[call]? = some old) (hfound : new.found = false)
    (howns : s.db.openIds ≠ [] → old.owns s.db.lastId → new.owns s.db.lastId) :
    SingleOpen (s.proceed call new) := by
  refine h.proceed hcall ?_ (RecorderStage.consistent_of_found hfound) rfl rfl
    (List.Subset.refl _) howns
  intro hnew
  rw [hfound] at hnew
  cases hnew

/-- A step of the writer or of `offer`: the tables keep their recordings, and a call at
    most learns that the writer is done. -/
theorem SingleOpen.update (h : SingleOpen s) {t : Recordings} (hids : t.db.ids = s.db.ids)
    (hlast : t.db.lastId = s.db.lastId) (hopen : t.db.openIds = s.db.openIds)
    (hactive : t.recorder.active = s.recorder.active)
    (hcalls : t.calls = s.calls ∨ t.calls = s.calls.map RecorderStage.drain) :
    SingleOpen t := by
  refine ⟨h.tables.of_subset hids hlast (hopen ▸ List.Subset.refl _), ?_, ?_, ?_⟩
  · have hfound : ∀ call, FoundAt t.calls call → FoundAt s.calls call := by
      rintro call ⟨stage, hstage, hfound⟩
      rcases hcalls with hcalls | hcalls
      · rw [hcalls] at hstage
        exact ⟨stage, hstage, hfound⟩
      · rw [hcalls, List.getElem?_map, Option.map_eq_some_iff] at hstage
        obtain ⟨old, hold, rfl⟩ := hstage
        exact ⟨old, hold, by rwa [RecorderStage.found_drain] at hfound⟩
    intro first second hfirst hsecond
    exact h.alone first second (hfound first hfirst) (hfound second hsecond)
  · intro stage hmem
    have hsubset : t.db.openIds ⊆ s.db.openIds := hopen ▸ List.Subset.refl _
    rcases hcalls with hcalls | hcalls
    · rw [hcalls] at hmem
      exact (h.consistent stage hmem).of_subset hlast hsubset
    · rw [hcalls] at hmem
      obtain ⟨old, hold, rfl⟩ := List.mem_map.mp hmem
      have hconsistent := (h.consistent old hold).of_subset hlast hsubset
      cases old <;> exact hconsistent
  · rw [hopen, hlast, hactive]
    intro hsome
    rcases h.owned hsome with hrow | ⟨stage, hmem, howns⟩
    · exact Or.inl hrow
    · right
      rcases hcalls with hcalls | hcalls
      · exact ⟨stage, hcalls ▸ hmem, howns⟩
      · exact ⟨stage.drain, hcalls ▸ List.mem_map_of_mem hmem, by
          rwa [RecorderStage.owns_drain]⟩

/-- The start that found no open recording inserts its own. -/
theorem SingleOpen.insert (h : SingleOpen s) {call : Nat} {robotId name : String}
    {wanted : List String} (hcall : s.calls[call]? = some (.inserting robotId name wanted)) :
    SingleOpen ({ s with db := s.db.insertRecording robotId name wanted }.proceed call
      (.fetching (s.db.lastId + 1) wanted)) := by
  have hbound : call < s.calls.length := (List.getElem?_eq_some_iff.mp hcall).1
  have hnone : s.db.openIds = [] := h.consistent _ (List.mem_of_getElem? hcall)
  refine ⟨h.tables.insertRecording hnone robotId name wanted, ?_, ?_, ?_⟩
  · intro first second hfirst hsecond
    have hbefore : ∀ other,
        FoundAt (s.calls.set call (.fetching (s.db.lastId + 1) wanted)) other →
          FoundAt s.calls other := by
      intro other hother
      rcases StageAt.of_set hother with ⟨rfl, -⟩ | hold
      · exact ⟨_, hcall, rfl⟩
      · exact hold
    exact h.alone first second (hbefore first hfirst) (hbefore second hsecond)
  · intro stage hmem
    obtain ⟨i, hi⟩ := List.getElem?_of_mem hmem
    have hi : (s.calls.set call (.fetching (s.db.lastId + 1) wanted))[i]? = some stage := hi
    by_cases hself : i = call
    · subst hself
      rw [List.getElem?_set_self hbound] at hi
      cases hi
      rfl
    · -- No other start is past its search.
      rw [List.getElem?_set_ne (Ne.symm hself)] at hi
      apply RecorderStage.consistent_of_found
      apply Bool.eq_false_iff.mpr
      intro hfound
      exact hself (h.alone i call ⟨stage, hi, hfound⟩ ⟨_, hcall, rfl⟩)
  · intro _
    exact Or.inr ⟨_, List.mem_set hbound _, trivial⟩

/-- The start that inserted a recording makes it the active one. -/
theorem SingleOpen.activate (h : SingleOpen s) {call : Nat} {row : Recording}
    {wanted : List String} (hcall : s.calls[call]? = some (.starting (some row) wanted)) :
    SingleOpen ((s.activate row wanted).proceed call .returned) := by
  have hrow : row.id = s.db.lastId := h.consistent _ (List.mem_of_getElem? hcall)
  refine ⟨h.tables, ?_, ?_, fun _ => Or.inl ⟨row, rfl, hrow⟩⟩
  · intro first second hfirst hsecond
    have hbefore : ∀ other, FoundAt (s.calls.set call .returned) other → FoundAt s.calls other := by
      intro other hother
      rcases StageAt.of_set hother with ⟨-, hnew⟩ | hold
      · cases hnew
      · exact hold
    exact h.alone first second (hbefore first hfirst) (hbefore second hsecond)
  · intro stage hmem
    rcases List.mem_or_eq_of_mem_set hmem with hold | hnew
    · exact h.consistent stage hold
    · rw [hnew]
      trivial

/-- Where a row is closed, another one is open only if it is not the newest. -/
theorem SingleOpen.openIds_stopRecording (h : SingleOpen s)
    (hsome : (s.db.stopRecording s.db.lastId).openIds ≠ []) : False := by
  apply hsome
  rw [RecordingTables.openIds_stopRecording, List.filter_eq_nil_iff]
  intro id hmem
  rw [h.tables.newest id hmem]
  simp

theorem openIds_stopRecording_subset (db : RecordingTables) (id : Nat) :
    (db.stopRecording id).openIds ⊆ db.openIds := by
  rw [RecordingTables.openIds_stopRecording]
  exact List.filter_subset_self _

/-- **Step lemma**, for the calls. -/
theorem SingleOpen.resume (h : SingleOpen s) {call : Nat} {stage : RecorderStage}
    (hcall : s.calls[call]? = some stage) (hguard : s.overlaps (.resume call) = false) :
    SingleOpen (s.resume call stage).1 := by
  cases stage with
  | selecting robotId name wanted =>
    simp only [overlaps, hcall] at hguard
    by_cases hnone : s.db.openRows.isEmpty = true
    · rw [Recordings.resume, if_pos hnone]
      rw [hnone, Bool.true_and] at hguard
      exact h.proceed hcall (fun _ => Or.inr hguard)
        (RecordingTables.openIds_eq_nil.mpr (List.isEmpty_iff.mp hnone)) rfl rfl
        (List.Subset.refl _) (fun _ howns => howns)
    · rw [Recordings.resume, if_neg hnone]
      exact h.advance hcall rfl (fun _ howns => howns)
  | inserting robotId name wanted => exact h.insert hcall
  | fetching id wanted =>
    have hid : id = s.db.lastId := h.consistent _ (List.mem_of_getElem? hcall)
    refine h.proceed hcall (fun _ => Or.inl rfl) ?_ rfl rfl (List.Subset.refl _)
      (fun _ _ => trivial)
    cases hrow : s.db.getRecording id with
    | none =>
      rcases h.tables.openIds_eq with hnone | hlast
      · exact hnone
      · have hmem : id ∈ s.db.openIds := by
          rw [hlast, hid]
          exact List.mem_singleton_self _
        obtain ⟨row, hsome⟩ := RecordingTables.exists_getRecording hmem
        rw [hrow] at hsome
        cases hsome
    | some row => exact (RecordingTables.id_of_getRecording hrow).trans hid
  | starting row wanted =>
    cases row with
    | none =>
      have hnone : s.db.openIds = [] := h.consistent _ (List.mem_of_getElem? hcall)
      exact h.advance hcall rfl (fun hsome _ => hsome hnone)
    | some row => exact h.activate hcall
  | flushing id drained =>
    cases drained with
    | true => exact h.advance hcall rfl (fun _ howns => howns)
    | false => exact h
  | closing id =>
    refine h.proceed hcall (fun hfound => absurd hfound Bool.false_ne_true) trivial
      (RecordingTables.ids_stopRecording id) rfl (openIds_stopRecording_subset _ id) ?_
    rintro hsome rfl
    exact (h.openIds_stopRecording hsome).elim
  | reading id =>
    exact h.advance hcall rfl (fun _ howns => howns)
  | stopping row =>
    exact h.advance hcall rfl (fun _ howns => howns)
  | listing =>
    apply h.advance hcall rfl
    intro hsome _
    rcases h.tables.openIds_eq with hnone | hlast
    · exact absurd hnone hsome
    · have hmem : s.db.lastId ∈ s.db.openIds := by
        rw [hlast]
        exact List.mem_singleton_self _
      obtain ⟨row, hrow, hid⟩ := List.mem_map.mp hmem
      have hlisted := h.tables.mem_listRecordings hrow
      exact List.mem_map.mpr
        ⟨row, List.mem_filter.mpr ⟨hlisted, (List.mem_filter.mp hrow).2⟩, hid⟩
  | recovering ids =>
    cases ids with
    | nil =>
      exact h.advance hcall rfl (fun _ howns => absurd howns List.not_mem_nil)
    | cons id ids =>
      refine h.proceed hcall (fun hfound => absurd hfound Bool.false_ne_true) trivial
        (RecordingTables.ids_stopRecording id) rfl (openIds_stopRecording_subset _ id) ?_
      intro hsome howns
      rcases List.mem_cons.mp howns with rfl | hmem
      · exact (h.openIds_stopRecording hsome).elim
      · exact hmem
  | returned => exact h

theorem SingleOpen.taskDone (h : SingleOpen s) : SingleOpen s.taskDone := by
  unfold Recordings.taskDone
  dsimp only
  split
  · exact h.update rfl rfl rfl rfl (Or.inr rfl)
  · exact h.update rfl rfl rfl rfl (Or.inl rfl)

theorem SingleOpen.work (h : SingleOpen s) (succeeds : Bool) : SingleOpen (s.work succeeds) := by
  have hfailed : SingleOpen s.writeFailed :=
    SingleOpen.taskDone (h.update rfl rfl rfl rfl (Or.inl rfl))
  unfold Recordings.work
  split
  · split
    · exact h
    · exact h.update rfl rfl rfl rfl (Or.inl rfl)
  · split
    · exact h.update rfl rfl rfl rfl (Or.inl rfl)
    · exact hfailed
  · split
    · exact h.update (RecordingTables.ids_countSample _) rfl
        (RecordingTables.openIds_countSample _) rfl (Or.inl rfl)
    · exact hfailed
  · split
    · exact h.taskDone
    · exact hfailed

theorem SingleOpen.offer (h : SingleOpen s) (kind ts data : String) (now : ℚ) :
    SingleOpen (s.offer kind ts data now) := by
  unfold Recordings.offer
  dsimp only
  split
  · exact h
  · rename_i row hactive
    split
    · exact h
    · split
      · exact h
      · split
        · exact h.update rfl rfl rfl rfl (Or.inl rfl)
        · exact h.update rfl rfl rfl rfl (Or.inl rfl)

/-- **Step lemma.** -/
theorem SingleOpen.step (h : SingleOpen s) {event : RecordingEvent}
    (hguard : s.overlaps event = false) : SingleOpen (recordings.step s event).1 := by
  cases event with
  | start robotId name channels =>
    change SingleOpen (s.start robotId name channels)
    unfold Recordings.start
    split
    · exact h.begin rfl (fun row hrow _ => Or.inl hrow)
    · exact h.begin rfl (fun row hrow _ => Or.inl hrow)
  | stop =>
    change SingleOpen s.stop
    unfold Recordings.stop
    split
    · exact h.begin rfl (fun row hrow _ => Or.inl hrow)
    · rename_i row hactive
      apply h.begin rfl
      intro other hother hlast
      rw [hactive] at hother
      cases hother
      exact Or.inr hlast
  | recover => exact h.begin rfl (fun row hrow _ => Or.inl hrow)
  | resume call =>
    cases hcall : s.calls[call]? with
    | none =>
      rw [step_resume_of_none hcall]
      exact h
    | some stage =>
      rw [step_resume hcall]
      exact h.resume hcall hguard
  | offer kind ts data now => exact h.offer kind ts data now
  | work succeeds => exact h.work succeeds

theorem singleOpen_startup {db : RecordingTables} (h : db.Sound) : SingleOpen (startup db) where
  tables := h
  alone first second hfirst _ := by
    obtain ⟨stage, hstage, hfound⟩ := hfirst
    rw [List.mem_singleton.mp (List.mem_of_getElem? hstage)] at hfound
    cases hfound
  consistent stage hmem := by
    rw [List.mem_singleton.mp hmem]
    trivial
  owned _ := Or.inr ⟨.listing, List.mem_singleton_self _, trivial⟩

/-- **Run lemma.** -/
theorem singleOpen_run {db : RecordingTables} (h : db.Sound) {events : List RecordingEvent}
    (halong : recordings.Along (fun s event => s.overlaps event = false) (startup db) events) :
    SingleOpen (recordings.run (startup db) events) :=
  recordings.invariant SingleOpen (fun _ _ hguard hopen => hopen.step hguard)
    (singleOpen_startup h) halong

/-- The tables that such a run leaves, where it stops or crashes, are fit for the next one. -/
theorem sound_run {db : RecordingTables} (h : db.Sound) {events : List RecordingEvent}
    (halong : recordings.Along (fun s event => s.overlaps event = false) (startup db) events) :
    (recordings.run (startup db) events).db.Sound :=
  (singleOpen_run h halong).tables

/-- As long as no start finds the tables without an open recording while another that found
    them so has not returned, there is one recording at a time. -/
theorem single_run {db : RecordingTables} (h : db.Sound) {events : List RecordingEvent}
    (halong : recordings.Along (fun s event => s.overlaps event = false) (startup db) events) :
    (recordings.run (startup db) events).Single :=
  (singleOpen_run h halong).single

/-- A start that runs alone. -/
theorem single_run_of_start :
    (recordings.run (startup {}) [.resume 0, .resume 0, .start "robot" "run" none, .resume 1,
      .resume 1, .resume 1, .resume 1]).Single :=
  single_run RecordingTables.sound_empty
    ⟨rfl, rfl, rfl, rfl, rfl, rfl, rfl, trivial⟩

/-- Two starts look for an open recording before either has inserted its own. -/
theorem not_single_of_overlap :
    ¬∀ (db : RecordingTables) (events : List RecordingEvent), db.Sound →
      (recordings.run (startup db) events).Single := by
  intro h
  have hsingle := h {} [.resume 0, .resume 0, .start "robot" "first" none,
    .start "robot" "second" none, .resume 1, .resume 2, .resume 1, .resume 2]
    RecordingTables.sound_empty
  exact absurd hsingle.1 (by decide)

end Recordings

end PatrolBot
