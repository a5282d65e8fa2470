import PatrolBot.TuningEditor
import PatrolBot.TuningKeys

/-!
# Drafts and the revision under them

A draft is typed against the saved revision the editor shows.  A save names the revision
shown when it is sent, so a move of it under a draft has to be told to the operator: the
draft is put among the conflicts, and stays out of every save until it is cleared.
-/

namespace PatrolBot.Tuning

variable {bundled : Registry} {number : String → PyFloat} {s : TuningStore} {e : TuningEditor}
variable {id : String}

/-! ### The property -/

/-- The answer of the robot to a save that it has taken. -/
def OkSave : EditorEvent → Prop
  | .store (.answered _ (.reply reply) _) => reply.outcome = .ok
  | _ => False

/-- The step moves the shown revision only by an ok answer to a save. -/
def OwnMove (bundled : Registry) (number : String → PyFloat) (e : TuningEditor)
    (event : EditorEvent) : Prop :=
  (editorStep bundled number e event).1.store.revision ≠ e.store.revision → OkSave event

/-- The step leaves the draft where it is. -/
def KeepsDraft (bundled : Registry) (number : String → PyFloat) (id : String) (e : TuningEditor)
    (event : EditorEvent) : Prop :=
  id ∈ (editorStep bundled number e event).1.store.dirty

instance (event : EditorEvent) : Decidable (KeepsDraft bundled number id e event) :=
  inferInstanceAs (Decidable (id ∈ (editorStep bundled number e event).1.store.dirty))

/-- A save of the run, with a draft that was typed earlier and is still there, names the
    revision the draft was typed against, or only ok answers to saves have moved it since.
    A draft that the operator has cleared is not there any more. -/
def NoSilentRebase (bundled : Registry) (number : String → PyFloat) (events : List EditorEvent) :
    Prop :=
  ∀ before id text after group ambient rest,
    events = before ++ .store (.setDraft id text) ::
      (after ++ .store (.commitGroup group ambient) :: rest) →
    let editor := tuningEditor bundled number
    let typed := editor.run {} (before ++ [.store (.setDraft id text)])
    editor.Along (KeepsDraft bundled number id) typed after →
    ∀ request,
      .store (.save request) ∈
        (editorStep bundled number (editor.run typed after)
          (.store (.commitGroup group ambient))).2 →
      id ∈ request.changes.map BatchChange.id →
      typed.store.revision ≠ some request.baseRevision →
      editor.Along (OwnMove bundled number) typed after

/-! ### The condition -/

namespace TuningStore

/-- Every draft is among the conflicts, or among the fields. -/
def Flagged (s : TuningStore) (ids : List String) : Prop :=
  ∀ id ∈ s.dirty, id ∈ ids ∨ id ∈ s.conflictIds

/-- `load` takes the snapshot: it is the robot's, no later answer came before it, and it
    is readable or there is nothing to keep instead. -/
def Takes (s : TuningStore) (pending : AwaitedLoad) (snapshot : Snapshot) (ambient : Ambient) :
    Prop :=
  pending.robotId = ambient.robotId ∧
    (s.receivedAt.any fun received => decide (received > pending.started)) = false ∧
    (snapshot.available = true ∨ s.snapshot.filter (·.catalogFromServer) = none)

/-- `load` finds that the revision has left `draftBaseRevision`, or the session the robot's. -/
def Noticed (s : TuningStore) (snapshot : Snapshot) : Prop :=
  (∃ base revision, s.draftBaseRevision = some base ∧ snapshot.desiredRevision = some revision ∧
      revision ≠ base) ∨
    ∃ session, s.snapshot.bind (·.sessionId) = some session ∧ snapshot.sessionId ≠ some session

/-- A snapshot shows the same revision, or there is no unflagged draft it could move under. -/
def Spares (s : TuningStore) (snapshot : Snapshot) (ids : List String) : Prop :=
  snapshot.desiredRevision = s.revision ∨ s.Flagged ids

end TuningStore

/-- An answer other than an ok answer to a save shows another revision only while no draft
    but those it flags is outside the conflicts. -/
def Fair (e : TuningEditor) : EditorEvent → Prop
  | .store (.loaded index snapshot ambient) =>
    ∀ pending, e.store.loads.find? (·.number = index) = some pending →
      e.store.Takes pending snapshot ambient →
      e.store.Noticed snapshot ∨ e.store.Spares snapshot []
  | .store (.answered index (.reply reply) _) =>
    ∀ save, e.store.saves[index]? = some save →
      TuningStore.confirms save.request reply = true → reply.outcome ≠ .ok →
      ∀ snapshot, reply.snapshot = some snapshot →
      e.store.Spares snapshot (if reply.outcome = .conflict then save.ids else [])
  | .store (.restoreAnswered index (.reply reply)) =>
    ∀ awaited, e.store.restores[index]? = some awaited →
      e.store.Spares (reply.snapshot.getD awaited.snapshot) []
  | .applyAnswered index (.reply reply) =>
    ∀ snapshot, e.applies[index]? = some snapshot →
      e.store.Spares (reply.snapshot.getD snapshot) []
  | .redeployAnswered index (.reply reply) =>
    ∀ awaited, e.redeploys[index]? = some awaited →
      e.store.Spares (reply.snapshot.getD awaited.snapshot) []
  | _ => True

/-- A move of the shown revision that no ok answer to a save brought leaves only drafts
    that are among the conflicts. -/
def Announced (bundled : Registry) (number : String → PyFloat) (e : TuningEditor)
    (event : EditorEvent) : Prop :=
  OwnMove bundled number e event ∨ (editorStep bundled number e event).1.store.Flagged []

/-! ### One step -/

theorem mem_withConflicts {ids : List String} :
    id ∈ s.withConflicts ids ↔ id ∈ s.conflictIds ∨ id ∈ ids := by
  have hfold : ∀ more held : List String,
      id ∈ more.foldl (fun held id => if id ∈ held then held else held ++ [id]) held ↔
        id ∈ held ∨ id ∈ more := by
    intro more
    induction more with
    | nil => simp
    | cons first rest ih =>
      intro held
      rw [List.foldl_cons, ih]
      by_cases hfirst : first ∈ held
      · rw [if_pos hfirst, List.mem_cons]
        constructor
        · rintro (hheld | hrest)
          · exact Or.inl hheld
          · exact Or.inr (Or.inr hrest)
        · rintro (hheld | rfl | hrest)
          · exact Or.inl hheld
          · exact Or.inl hfirst
          · exact Or.inr hrest
      · rw [if_neg hfirst, List.mem_append, List.mem_singleton, List.mem_cons, or_assoc]
  simp [TuningStore.withConflicts, hfold]

theorem noticed_iff {snapshot : Snapshot} :
    ((s.draftBaseRevision.any fun base =>
        snapshot.desiredRevision.any fun revision => revision != base) ||
      (s.snapshot.bind (·.sessionId)).any fun session => snapshot.sessionId != some session) =
        true ↔ s.Noticed snapshot := by
  rw [Bool.or_eq_true, Option.any_eq_true, Option.any_eq_true]
  unfold TuningStore.Noticed
  apply or_congr
  · simp only [Option.any_eq_true, bne_iff_ne]
    constructor
    · rintro ⟨base, hbase, revision, hrevision, hne⟩
      exact ⟨base, revision, hbase, hrevision, hne⟩
    · rintro ⟨base, revision, hbase, hrevision, hne⟩
      exact ⟨base, hbase, revision, hrevision, hne⟩
  · simp only [bne_iff_ne]

section Load

variable {pending : AwaitedLoad} {snapshot : Snapshot} {ambient : Ambient}

/-- A load that does not take its snapshot leaves the revision shown. -/
theorem revision_finishLoad (h : ¬s.Takes pending snapshot ambient) :
    (TuningStore.finishLoad bundled s pending snapshot ambient).revision = s.revision ∧
      (TuningStore.finishLoad bundled s pending snapshot ambient).conflictIds = s.conflictIds := by
  unfold TuningStore.finishLoad
  split
  · exact ⟨rfl, rfl⟩
  · rename_i hcurrent
    rw [not_or, ne_eq, not_not, Bool.not_eq_true] at hcurrent
    split
    · rename_i previous _ hprevious
      obtain ⟨hheld, -⟩ := Option.filter_eq_some_iff.mp hprevious
      exact ⟨by simp [TuningStore.revision, hheld], rfl⟩
    · rename_i hnone
      exfalso
      apply h
      refine ⟨hcurrent.1, hcurrent.2, ?_⟩
      cases havailable : snapshot.available with
      | true => exact Or.inl rfl
      | false =>
        cases hprevious : s.snapshot.filter (·.catalogFromServer) with
        | none => exact Or.inr rfl
        | some previous => exact (hnone previous havailable hprevious).elim

/-- A load that takes its snapshot shows its revision, and flags every draft if it has
    noticed the move. -/
theorem finishLoad_takes (h : s.Takes pending snapshot ambient) :
    (TuningStore.finishLoad bundled s pending snapshot ambient).revision =
        snapshot.desiredRevision ∧
      (TuningStore.finishLoad bundled s pending snapshot ambient).dirty = s.dirty ∧
      ∀ id, id ∈ (TuningStore.finishLoad bundled s pending snapshot ambient).conflictIds ↔
        id ∈ s.conflictIds ∨ s.Noticed snapshot ∧ id ∈ s.dirty := by
  obtain ⟨hrobot, hcurrent, hreadable⟩ := h
  have hfresh : ¬(pending.robotId ≠ ambient.robotId ∨
      (s.receivedAt.any fun received => decide (received > pending.started)) = true) := by
    simp [hrobot, hcurrent]
  unfold TuningStore.finishLoad
  rw [if_neg hfresh]
  split
  · rename_i previous havailable hprevious
    rcases hreadable with hreadable | hnone
    · rw [havailable] at hreadable
      cases hreadable
    · rw [hnone] at hprevious
      cases hprevious
  · refine ⟨rfl, rfl, ?_⟩
    intro id
    have hflag : (!s.dirty.isEmpty && ((s.draftBaseRevision.any fun base =>
          snapshot.desiredRevision.any fun revision => revision != base) ||
        (s.snapshot.bind (·.sessionId)).any fun session => snapshot.sessionId != some session)) =
          true ↔ s.dirty ≠ [] ∧ s.Noticed snapshot := by
      rw [Bool.and_eq_true, noticed_iff]
      simp
    dsimp only
    split
    · rename_i hmoved
      obtain ⟨-, hnoticed⟩ := hflag.mp hmoved
      rw [mem_withConflicts]
      simp [hnoticed]
    · rename_i hmoved
      constructor
      · exact Or.inl
      · rintro (hheld | ⟨hnoticed, hdirty⟩)
        · exact hheld
        · exact absurd (hflag.mpr ⟨List.ne_nil_of_mem hdirty, hnoticed⟩) hmoved

end Load

section

variable {event : EditorEvent}

theorem announced_of_same
    (h : (editorStep bundled number e event).1.store.revision = e.store.revision) :
    Announced bundled number e event := Or.inl fun hmoved => absurd h hmoved

/-- What an answer that is no ok answer to a save shows and flags. -/
theorem announced_iff_spares {snapshot : Snapshot} {ids : List String} (hother : ¬OkSave event)
    (hrevision : (editorStep bundled number e event).1.store.revision = snapshot.desiredRevision)
    (hdirty : (editorStep bundled number e event).1.store.dirty = e.store.dirty)
    (hconflicts : ∀ id, id ∈ (editorStep bundled number e event).1.store.conflictIds ↔
      id ∈ e.store.conflictIds ∨ id ∈ ids) :
    Announced bundled number e event ↔ e.store.Spares snapshot ids := by
  unfold Announced OwnMove TuningStore.Spares TuningStore.Flagged
  rw [hrevision, hdirty]
  simp only [hother, imp_false, ne_eq, not_not, hconflicts, List.not_mem_nil, false_or]
  apply or_congr_right
  apply forall₂_congr
  intro id _
  exact or_comm

theorem announced_iff_fair_loaded (index : Nat) (snapshot : Snapshot) (ambient : Ambient) :
    Announced bundled number e (.store (.loaded index snapshot ambient)) ↔
      Fair e (.store (.loaded index snapshot ambient)) := by
  cases hpending : e.store.loads.find? (·.number = index) with
  | none =>
    have hsame :
        editorStep bundled number e (.store (.loaded index snapshot ambient)) = (e, []) := by
      simp only [editorStep, tuningStep, TuningStore.loadAnswered, hpending, List.map_nil]
    constructor
    · intro _ pending hfound
      rw [hpending] at hfound
      cases hfound
    · intro _
      exact announced_of_same (by rw [hsame])
  | some pending =>
    have hstep : (editorStep bundled number e (.store (.loaded index snapshot ambient))).1.store =
        TuningStore.finishLoad bundled { e.store with
          loads := e.store.loads.filter (·.number ≠ index) } pending snapshot ambient := by
      simp only [editorStep, tuningStep, TuningStore.loadAnswered, hpending]
    have hfair : Fair e (.store (.loaded index snapshot ambient)) ↔
        (e.store.Takes pending snapshot ambient →
          e.store.Noticed snapshot ∨ e.store.Spares snapshot []) := by
      constructor
      · intro h
        exact h pending hpending
      · intro h other hfound
        rw [hpending] at hfound
        obtain rfl := Option.some.inj hfound
        exact h
    rw [hfair]
    by_cases htakes : e.store.Takes pending snapshot ambient
    · obtain ⟨hrevision, hdirty, hconflicts⟩ :
          (editorStep bundled number e (.store (.loaded index snapshot ambient))).1.store.revision =
              snapshot.desiredRevision ∧
            (editorStep bundled number e (.store (.loaded index snapshot ambient))).1.store.dirty =
              e.store.dirty ∧
            ∀ id, id ∈ (editorStep bundled number e
                (.store (.loaded index snapshot ambient))).1.store.conflictIds ↔
              id ∈ e.store.conflictIds ∨ e.store.Noticed snapshot ∧ id ∈ e.store.dirty := by
        rw [hstep]
        exact @finishLoad_takes bundled { e.store with
          loads := e.store.loads.filter (·.number ≠ index) } _ _ _ htakes
      by_cases hnoticed : e.store.Noticed snapshot
      · constructor
        · intro _ _
          exact Or.inl hnoticed
        · intro _
          apply Or.inr
          intro id hid
          rw [hdirty] at hid
          exact Or.inr ((hconflicts id).mpr (Or.inr ⟨hnoticed, hid⟩))
      · have hspares := @announced_iff_spares bundled number e _ snapshot [] id hrevision hdirty
          (by intro id; rw [hconflicts id]; simp [hnoticed])
        rw [hspares]
        constructor
        · intro hspared _
          exact Or.inr hspared
        · intro hfair
          exact (hfair htakes).resolve_left hnoticed
    · constructor
      · intro _ hother
        exact absurd hother htakes
      · intro _
        apply announced_of_same
        rw [hstep]
        exact (@revision_finishLoad bundled { e.store with
          loads := e.store.loads.filter (·.number ≠ index) } _ _ _ htakes).1

/-- What is left of the store by an answer of a save that no ok answer is. -/
theorem absorb_spares {reply : TuningReply} {ids : List String} {now : ℚ}
    (hok : reply.outcome ≠ .ok) :
    (TuningStore.absorb bundled s reply ids now).snapshot = reply.snapshot.or s.snapshot ∧
      (TuningStore.absorb bundled s reply ids now).drafts = s.drafts ∧
      ∀ id, id ∈ (TuningStore.absorb bundled s reply ids now).conflictIds ↔
        id ∈ s.conflictIds ∨ id ∈ (if reply.outcome = .conflict then ids else []) := by
  cases houtcome : reply.outcome with
  | ok => exact absurd houtcome hok
  | conflict => simp [TuningStore.absorb, houtcome, mem_withConflicts]
  | unknown => simp [TuningStore.absorb, houtcome]
  | refused => simp [TuningStore.absorb, houtcome]
  | failed => simp [TuningStore.absorb, houtcome]

theorem announced_iff_fair_answered (index : Nat) (answer : PostAnswer) (ambient : Ambient) :
    Announced bundled number e (.store (.answered index answer ambient)) ↔
      Fair e (.store (.answered index answer ambient)) := by
  cases hsave : e.store.saves[index]? with
  | none =>
    have hsame : (editorStep bundled number e (.store (.answered index answer ambient))).1.store =
        e.store := by
      simp only [editorStep, tuningStep, TuningStore.answered, hsave]
    apply iff_of_true (announced_of_same (by rw [hsame]))
    cases answer with
    | reply reply =>
      intro save hfound
      rw [hsave] at hfound
      cases hfound
    | refused status => trivial
    | unreachable => trivial
  | some save =>
    cases answer with
    | refused status =>
      apply iff_of_true (announced_of_same _) trivial
      simp only [editorStep, tuningStep, TuningStore.answered, hsave]
      split <;> rfl
    | unreachable =>
      apply iff_of_true (announced_of_same _) trivial
      simp only [editorStep, tuningStep, TuningStore.answered, hsave]
      rfl
    | reply reply =>
      have hfair : Fair e (.store (.answered index (.reply reply) ambient)) ↔
          (TuningStore.confirms save.request reply = true → reply.outcome ≠ .ok →
            ∀ snapshot, reply.snapshot = some snapshot →
            e.store.Spares snapshot (if reply.outcome = .conflict then save.ids else [])) := by
        constructor
        · intro h
          exact h save hsave
        · intro h other hfound
          rw [hsave] at hfound
          obtain rfl := Option.some.inj hfound
          exact h
      rw [hfair]
      by_cases hconfirms : TuningStore.confirms save.request reply = true
      · have hstep : (editorStep bundled number e
              (.store (.answered index (.reply reply) ambient))).1.store =
            TuningStore.absorb bundled { e.store with saves := e.store.saves.eraseIdx index } reply
              save.ids ambient.now := by
          simp only [editorStep, tuningStep, TuningStore.answered, hsave, hconfirms, if_true]
        by_cases hok : reply.outcome = .ok
        · apply iff_of_true
          · exact Or.inl fun _ => hok
          · intro _ hother
            exact absurd hok hother
        · obtain ⟨hsnapshot, hdrafts, hconflicts⟩ := @absorb_spares bundled
            { e.store with saves := e.store.saves.eraseIdx index } reply save.ids ambient.now hok
          rw [← hstep] at hsnapshot hdrafts hconflicts
          cases hreply : reply.snapshot with
          | none =>
            rw [hreply, Option.none_or] at hsnapshot
            apply iff_of_true
            · apply announced_of_same
              rw [TuningStore.revision, hsnapshot]
              rfl
            · intro _ _ _ hsome
              cases hsome
          | some snapshot =>
            rw [hreply, Option.some_or] at hsnapshot
            have hspares := @announced_iff_spares bundled number e
              (.store (.answered index (.reply reply) ambient)) snapshot _ hok
              (by rw [TuningStore.revision, hsnapshot]; rfl)
              (by rw [TuningStore.dirty, hdrafts]; rfl) hconflicts
            rw [hspares]
            constructor
            · intro hspares _ _ other hother
              rw [← Option.some.inj hother]
              exact hspares
            · intro h
              exact h hconfirms hok snapshot rfl
      · apply iff_of_true
        · apply announced_of_same
          simp only [editorStep, tuningStep, TuningStore.answered, hsave, hconfirms]
          rfl
        · intro hother
          exact absurd hother hconfirms

/-- The answer of a restore, an apply or a redeploy. -/
theorem announced_iff_answeredWith {reply : TuningReply} {sentOn : Snapshot}
    (hother : ¬OkSave event)
    (hsnapshot : (editorStep bundled number e event).1.store.snapshot =
      some (reply.snapshot.getD sentOn))
    (hdrafts : (editorStep bundled number e event).1.store.drafts = e.store.drafts)
    (hconflicts : (editorStep bundled number e event).1.store.conflictIds = e.store.conflictIds) :
    Announced bundled number e event ↔
      e.store.Spares (reply.snapshot.getD sentOn) [] := by
  apply announced_iff_spares hother
  · rw [TuningStore.revision, hsnapshot]
    rfl
  · rw [TuningStore.dirty, hdrafts]
    rfl
  · intro id
    simp [hconflicts]

end

/-! ### The steps that show nothing new -/

/-- The revision shown is as it was, and a draft among the conflicts that is still there is
    among them. -/
structure Calm (s s' : TuningStore) : Prop where
  revision : s'.revision = s.revision
  conflicts : ∀ id ∈ s'.dirty, id ∈ s.conflictIds → id ∈ s'.conflictIds

theorem Calm.of_eq {s' : TuningStore} (hsnapshot : s'.snapshot = s.snapshot)
    (hconflicts : s'.conflictIds = s.conflictIds) : Calm s s' where
  revision := by rw [TuningStore.revision, hsnapshot, TuningStore.revision]
  conflicts := by
    intro id _ hheld
    rwa [hconflicts]

theorem calm_beginLoad (ambient : Ambient) : Calm s (s.beginLoad ambient).1 := by
  unfold TuningStore.beginLoad
  split
  · exact .of_eq rfl rfl
  · exact .of_eq rfl rfl

theorem calm_clearDraft (cleared : String) : Calm s (s.clearDraft cleared) where
  revision := rfl
  conflicts := by
    intro id hdirty hheld
    obtain ⟨draft, hdraft, rfl⟩ := List.mem_map.mp hdirty
    have hkept := (List.mem_filter.mp hdraft).2
    apply List.mem_filter.mpr
    exact ⟨hheld, by simpa using hkept⟩

theorem calm_commitGroup (group : String) (ambient : Ambient) :
    Calm s (TuningStore.commitGroup bundled number s group ambient).1 := by
  unfold TuningStore.commitGroup
  split
  · exact .of_eq rfl rfl
  split
  · exact .of_eq rfl rfl
  dsimp only
  split
  · exact .of_eq rfl rfl
  split
  · exact .of_eq rfl rfl
  split
  · exact .of_eq rfl rfl
  split
  · exact .of_eq rfl rfl
  split
  · exact .of_eq rfl rfl
  split
  · exact .of_eq rfl rfl
  · exact .of_eq rfl rfl

theorem calm_jobFetched (index : Nat) (answer : JobAnswer) (ambient : Ambient) :
    Calm s (s.jobFetched index answer ambient) := by
  unfold TuningStore.jobFetched
  split
  · dsimp only
    split
    · split
      · exact .of_eq rfl rfl
      · unfold TuningStore.beginLoad
        split
        · exact .of_eq rfl rfl
        · exact .of_eq rfl rfl
    · exact .of_eq rfl rfl
  · exact .of_eq rfl rfl

theorem calm_resolved (index : Nat) : Calm s (TuningStore.resolved bundled number s index) := by
  unfold TuningStore.resolved
  split
  · split
    · exact .of_eq rfl rfl
    · dsimp only
      split
      · exact .of_eq rfl rfl
      · refine ⟨rfl, ?_⟩
        intro id _ hheld
        exact mem_withConflicts.mpr (Or.inl hheld)
  · exact .of_eq rfl rfl

theorem calm_confirmRestore (ambient : Ambient) : Calm s (s.confirmRestore ambient).1 := by
  unfold TuningStore.confirmRestore
  split
  · exact .of_eq rfl rfl
  split
  · split
    · exact .of_eq rfl rfl
    split
    · exact .of_eq rfl rfl
    split
    · exact .of_eq rfl rfl
    · exact .of_eq rfl rfl
  · exact .of_eq rfl rfl

theorem calm_connectionLost : Calm s s.connectionLost := by
  unfold TuningStore.connectionLost
  dsimp only
  split
  · exact .of_eq rfl rfl
  · refine ⟨rfl, ?_⟩
    intro id _ hheld
    exact mem_withConflicts.mpr (Or.inl hheld)

theorem calm_applyLive (ambient : Ambient) : Calm e.store (e.applyLive ambient).1.store := by
  unfold TuningEditor.applyLive
  split
  · exact .of_eq rfl rfl
  split
  · split
    · exact .of_eq rfl rfl
    split
    · exact .of_eq rfl rfl
    · exact .of_eq rfl rfl
  · exact .of_eq rfl rfl

theorem calm_confirmRedeploy (ambient : Ambient) :
    Calm e.store (e.confirmRedeploy ambient).1.store := by
  unfold TuningEditor.confirmRedeploy
  split
  · exact .of_eq rfl rfl
  split
  · split
    · exact .of_eq rfl rfl
    split
    · exact .of_eq rfl rfl
    split
    · exact .of_eq rfl rfl
    · dsimp only
      split
      · exact .of_eq rfl rfl
      · exact .of_eq rfl rfl
  · exact .of_eq rfl rfl

/-! ### Every step -/

theorem conflicts_answered (index : Nat) (answer : PostAnswer) (ambient : Ambient)
    (h : id ∈ s.conflictIds) :
    id ∈ (TuningStore.answered bundled s index answer ambient).conflictIds := by
  unfold TuningStore.answered
  split
  · exact h
  dsimp only
  split
  · rename_i reply
    split
    · by_cases hok : reply.outcome = .ok
      · simp only [TuningStore.absorb, hok]
        split
        · exact h
        · exact h
      · rw [(absorb_spares hok).2.2]
        exact Or.inl h
    · exact h
  · split
    · exact h
    · exact h
  · exact h

theorem conflicts_loadAnswered (index : Nat) (snapshot : Snapshot) (ambient : Ambient)
    (h : id ∈ s.conflictIds) :
    id ∈ (TuningStore.loadAnswered bundled s index snapshot ambient).conflictIds := by
  unfold TuningStore.loadAnswered
  split
  · exact h
  · rename_i pending _
    by_cases htakes : TuningStore.Takes { s with loads := s.loads.filter (·.number ≠ index) }
        pending snapshot ambient
    · rw [(finishLoad_takes htakes).2.2]
      exact Or.inl h
    · rw [(revision_finishLoad htakes).2]
      exact h

/-- A draft among the conflicts stays there until it is cleared. -/
theorem conflict_stays {event : EditorEvent} (hheld : id ∈ e.store.conflictIds)
    (hkept : KeepsDraft bundled number id e event) :
    id ∈ (editorStep bundled number e event).1.store.conflictIds := by
  cases event with
  | store event =>
    cases event with
    | setDraft id text => exact hheld
    | clearDraft cleared => exact (calm_clearDraft cleared).conflicts id hkept hheld
    | discardAllDrafts => cases hkept
    | load ambient => exact (calm_beginLoad ambient).conflicts id hkept hheld
    | loaded index snapshot ambient => exact conflicts_loadAnswered index snapshot ambient hheld
    | commitGroup group ambient => exact (calm_commitGroup group ambient).conflicts id hkept hheld
    | answered index answer ambient => exact conflicts_answered index answer ambient hheld
    | resolveUnknownSave group =>
      simp only [editorStep, tuningStep]
      split
      · exact hheld
      · exact hheld
    | jobFetched index answer ambient =>
      exact (calm_jobFetched index answer ambient).conflicts id hkept hheld
    | resolved index => exact (calm_resolved index).conflicts id hkept hheld
    | openRestore => exact hheld
    | confirmRestore ambient => exact (calm_confirmRestore ambient).conflicts id hkept hheld
    | restoreAnswered index answer =>
      simp only [editorStep, tuningStep, TuningStore.restoreAnswered]
      split
      · exact hheld
      · split
        · exact hheld
        · exact hheld
  | connectionLost => exact calm_connectionLost.conflicts id hkept hheld
  | applyLive ambient => exact (calm_applyLive ambient).conflicts id hkept hheld
  | applyAnswered index answer =>
    simp only [editorStep, TuningEditor.applyAnswered]
    split
    · exact hheld
    · split
      · exact hheld
      · exact hheld
  | openRedeploy => exact hheld
  | confirmRedeploy ambient => exact (calm_confirmRedeploy ambient).conflicts id hkept hheld
  | redeployAnswered index answer =>
    simp only [editorStep, TuningEditor.redeployAnswered]
    split
    · exact hheld
    · split
      · exact hheld
      · exact hheld

theorem announced_of_calm {event : EditorEvent}
    (h : Calm e.store (editorStep bundled number e event).1.store) :
    Announced bundled number e event := announced_of_same h.revision

/-- The snapshot shown after an answer to a restore, an apply or a redeploy that was sent on
    `sentOn`; there is none if nothing is awaited any more. -/
def shownAfter (shown sentOn : Option Snapshot) : PostAnswer → Option Snapshot
  | .reply reply => match sentOn with
    | some sent => some (reply.snapshot.getD sent)
    | none => shown
  | _ => shown

theorem announced_iff_fair_of_answer {event : EditorEvent} (answer : PostAnswer)
    (sentOn : Option Snapshot) (hother : ¬OkSave event)
    (hsnapshot : (editorStep bundled number e event).1.store.snapshot =
      shownAfter e.store.snapshot sentOn answer)
    (hdrafts : (editorStep bundled number e event).1.store.drafts = e.store.drafts)
    (hconflicts : (editorStep bundled number e event).1.store.conflictIds = e.store.conflictIds)
    (hfair : Fair e event ↔ ∀ reply, answer = .reply reply → ∀ sent, sentOn = some sent →
      e.store.Spares (reply.snapshot.getD sent) []) :
    Announced bundled number e event ↔ Fair e event := by
  rw [hfair]
  cases answer with
  | reply reply =>
    cases sentOn with
    | none =>
      apply iff_of_true (announced_of_calm (.of_eq hsnapshot hconflicts))
      intro reply _ sent hsent
      cases hsent
    | some sent =>
      rw [announced_iff_answeredWith hother hsnapshot hdrafts hconflicts]
      constructor
      · intro h other hreply before hbefore
        rw [← PostAnswer.reply.inj hreply, ← Option.some.inj hbefore]
        exact h
      · intro h
        exact h reply rfl sent rfl
  | refused status =>
    apply iff_of_true (announced_of_calm (.of_eq hsnapshot hconflicts))
    intro reply hreply
    cases hreply
  | unreachable =>
    apply iff_of_true (announced_of_calm (.of_eq hsnapshot hconflicts))
    intro reply hreply
    cases hreply

theorem announced_iff_fair_restoreAnswered (index : Nat) (answer : PostAnswer) :
    Announced bundled number e (.store (.restoreAnswered index answer)) ↔
      Fair e (.store (.restoreAnswered index answer)) := by
  cases hawaited : e.store.restores[index]? with
  | none =>
    apply announced_iff_fair_of_answer answer none
    all_goals cases answer <;>
      simp [OkSave, Fair, shownAfter, editorStep, tuningStep, TuningStore.restoreAnswered, hawaited]
  | some awaited =>
    apply announced_iff_fair_of_answer answer (some awaited.snapshot)
    all_goals cases answer <;>
      simp [OkSave, Fair, shownAfter, editorStep, tuningStep, TuningStore.restoreAnswered, hawaited]

theorem announced_iff_fair_applyAnswered (index : Nat) (answer : PostAnswer) :
    Announced bundled number e (.applyAnswered index answer) ↔
      Fair e (.applyAnswered index answer) := by
  cases hawaited : e.applies[index]? with
  | none =>
    apply announced_iff_fair_of_answer answer none
    all_goals cases answer <;>
      simp [OkSave, Fair, shownAfter, editorStep, TuningEditor.applyAnswered, hawaited]
  | some snapshot =>
    apply announced_iff_fair_of_answer answer (some snapshot)
    all_goals cases answer <;>
      simp [OkSave, Fair, shownAfter, editorStep, TuningEditor.applyAnswered,
        TuningStore.answeredWith, hawaited]

theorem announced_iff_fair_redeployAnswered (index : Nat) (answer : PostAnswer) :
    Announced bundled number e (.redeployAnswered index answer) ↔
      Fair e (.redeployAnswered index answer) := by
  cases hawaited : e.redeploys[index]? with
  | none =>
    apply announced_iff_fair_of_answer answer none
    all_goals cases answer <;>
      simp [OkSave, Fair, shownAfter, editorStep, TuningEditor.redeployAnswered, hawaited]
  | some awaited =>
    apply announced_iff_fair_of_answer answer (some awaited.snapshot)
    all_goals cases answer <;>
      simp [OkSave, Fair, shownAfter, editorStep, TuningEditor.redeployAnswered,
        TuningStore.answeredWith, hawaited]

/-- The steps that are fair are those that announce what they move. -/
theorem announced_iff_fair (event : EditorEvent) :
    Announced bundled number e event ↔ Fair e event := by
  cases event with
  | store event =>
    cases event with
    | setDraft id text => exact iff_of_true (announced_of_same rfl) trivial
    | clearDraft cleared => exact iff_of_true (announced_of_same rfl) trivial
    | discardAllDrafts => exact iff_of_true (announced_of_same rfl) trivial
    | load ambient => exact iff_of_true (announced_of_calm (calm_beginLoad ambient)) trivial
    | loaded index snapshot ambient => exact announced_iff_fair_loaded index snapshot ambient
    | commitGroup group ambient =>
      exact iff_of_true (announced_of_calm (calm_commitGroup group ambient)) trivial
    | answered index answer ambient => exact announced_iff_fair_answered index answer ambient
    | resolveUnknownSave group =>
      apply iff_of_true _ trivial
      apply announced_of_calm
      simp only [editorStep, tuningStep]
      split
      · exact .of_eq rfl rfl
      · exact .of_eq rfl rfl
    | jobFetched index answer ambient =>
      exact iff_of_true (announced_of_calm (calm_jobFetched index answer ambient)) trivial
    | resolved index => exact iff_of_true (announced_of_calm (calm_resolved index)) trivial
    | openRestore => exact iff_of_true (announced_of_same rfl) trivial
    | confirmRestore ambient =>
      exact iff_of_true (announced_of_calm (calm_confirmRestore ambient)) trivial
    | restoreAnswered index answer => exact announced_iff_fair_restoreAnswered index answer
  | connectionLost => exact iff_of_true (announced_of_calm calm_connectionLost) trivial
  | applyLive ambient => exact iff_of_true (announced_of_calm (calm_applyLive ambient)) trivial
  | applyAnswered index answer => exact announced_iff_fair_applyAnswered index answer
  | openRedeploy => exact iff_of_true (announced_of_same rfl) trivial
  | confirmRedeploy ambient =>
    exact iff_of_true (announced_of_calm (calm_confirmRedeploy ambient)) trivial
  | redeployAnswered index answer => exact announced_iff_fair_redeployAnswered index answer

/-! ### Saves -/

theorem ids_of_composeChanges {entries : Registry} {ids : List String}
    {changes : List BatchChange}
    (h : TuningStore.composeChanges bundled number s entries ids = .ok changes) :
    changes.map BatchChange.id = ids := by
  induction ids generalizing changes with
  | nil =>
    obtain rfl := Except.ok.inj h
    rfl
  | cons id ids ih =>
    unfold TuningStore.composeChanges at h
    split at h
    · cases h
    · split at h
      · cases h
      · split at h
        · cases h
        · split at h
          · cases h
          · rename_i rest hrest
            obtain rfl := Except.ok.inj h
            rw [List.map_cons, ih hrest]

/-- A draft among the conflicts is in no save. -/
theorem not_conflict_of_save {group : String} {ambient : Ambient} {request : SaveRequest}
    (h : .save request ∈ (TuningStore.commitGroup bundled number s group ambient).2)
    (hid : id ∈ request.changes.map BatchChange.id) : id ∉ s.conflictIds := by
  unfold TuningStore.commitGroup at h
  split at h
  · cases h
  split at h
  · cases h
  dsimp only at h
  split at h
  · cases h
  split at h
  · cases h
  split at h
  · cases h
  rename_i hclear
  split at h
  · cases h
  rename_i changes hchanges
  split at h
  · cases h
  split at h
  · cases h
  · obtain rfl := Sent.save.inj (List.mem_singleton.mp h)
    rw [ids_of_composeChanges hchanges] at hid
    intro hheld
    exact hclear (List.any_eq_true.mpr ⟨id, hid, by simp [hheld]⟩)

/-! ### Runs -/

theorem conflict_run {after : List EditorEvent} (hheld : id ∈ e.store.conflictIds)
    (hkept : (tuningEditor bundled number).Along (KeepsDraft bundled number id) e after) :
    id ∈ ((tuningEditor bundled number).run e after).store.conflictIds := by
  induction after generalizing e with
  | nil => exact hheld
  | cons event after ih => exact ih (conflict_stays hheld hkept.1) hkept.2

/-- A draft that stays is moved under by its own saves alone, or ends among the conflicts. -/
theorem conflict_or_own {after : List EditorEvent}
    (hannounced : (tuningEditor bundled number).Along (Announced bundled number) e after)
    (hkept : (tuningEditor bundled number).Along (KeepsDraft bundled number id) e after) :
    id ∈ ((tuningEditor bundled number).run e after).store.conflictIds ∨
      (tuningEditor bundled number).Along (OwnMove bundled number) e after := by
  induction after generalizing e with
  | nil => exact Or.inr trivial
  | cons event after ih =>
    obtain ⟨hstep, hrest⟩ := hannounced
    rcases hstep with hown | hflagged
    · rcases ih hrest hkept.2 with hheld | halong
      · exact Or.inl hheld
      · exact Or.inr ⟨hown, halong⟩
    · rcases hflagged id hkept.1 with hnone | hheld
      · cases hnone
      · exact Or.inl (@conflict_run bundled number _ id after hheld hkept.2)

/-- The steps of a run announce what they move under the drafts exactly if they are fair,
    and in such a run no save is silently rebased. -/
theorem drafts_run (bundled : Registry) (number : String → PyFloat) (events : List EditorEvent) :
    ((tuningEditor bundled number).Along (Announced bundled number) {} events ↔
      (tuningEditor bundled number).Along Fair {} events) ∧
    ((tuningEditor bundled number).Along Fair {} events →
      NoSilentRebase bundled number events) := by
  have hexact : (tuningEditor bundled number).Along (Announced bundled number) {} events ↔
      (tuningEditor bundled number).Along Fair {} events := by
    constructor
    · exact (tuningEditor bundled number).along_mono fun _ event => (announced_iff_fair event).mp
    · exact (tuningEditor bundled number).along_mono fun _ event => (announced_iff_fair event).mpr
  refine ⟨hexact, ?_⟩
  rintro hfair before id text after group ambient rest rfl editor typed hkept request hsent hid -
  have hannounced := hexact.mpr hfair
  have hsplit : before ++ EditorEvent.store (.setDraft id text) ::
        (after ++ .store (.commitGroup group ambient) :: rest) =
      (before ++ [.store (.setDraft id text)]) ++ (after ++
        .store (.commitGroup group ambient) :: rest) := by simp
  rw [hsplit] at hannounced
  have hafter := (editor.along_append.mp (editor.along_append.mp hannounced).2).1
  rcases conflict_or_own hafter hkept with hheld | hown
  · exfalso
    obtain ⟨sent, hsave, hsame⟩ := List.mem_map.mp hsent
    obtain rfl := EditorSent.store.inj hsame
    exact not_conflict_of_save hsave hid hheld
  · exact hown

/-! ### A conflict of another group -/

/-- A catalog of two groups. -/
def speedCatalog : Registry :=
  particleCatalog ++
    [{ id := "dwb.max_trans", label := "Maximum translation samples", group := "dwb",
       type := .integer, valueKind := "count", default := .int 4000,
       bounds := { lower := some 50, upper := some 10000 } }]

/-- The robot's snapshot at a revision. -/
def snapshotAt (revision : Nat) : Snapshot :=
  { particleSnapshot with desiredRevision := some revision, entries := speedCatalog }

/-- Drafts of two groups are typed, the robot answers the save of the first with a conflict,
    and the second is committed. -/
def typedInTwoGroups : List EditorEvent :=
  [.store (.load { now := 1 }), .store (.loaded 0 (snapshotAt 3) { now := 2 }),
    .store (.setDraft "amcl.max_particles" "5000")]

def firstConflicts : List EditorEvent :=
  [.store (.commitGroup "amcl" {}),
    .store (.answered 0 (.reply ⟨some 0, .conflict, some (snapshotAt 4)⟩) {})]

theorem not_noSilentRebase :
    ¬NoSilentRebase speedCatalog typedNumber (typedInTwoGroups ++
      .store (.setDraft "dwb.max_trans" "6000") ::
        (firstConflicts ++ .store (.commitGroup "dwb" {}) :: [])) := by
  intro h
  have hown := h typedInTwoGroups "dwb.max_trans" "6000" firstConflicts "dwb" {} [] rfl
    ⟨by decide +kernel, by decide +kernel, trivial⟩
    ⟨"22222222-2222-4222-8222-222222222222", 1, 4, [⟨"dwb.max_trans", .number (.finite 6000)⟩]⟩
    (by decide +kernel) (by decide +kernel) (by decide +kernel)
  have hmoved := hown.2.1 (by decide +kernel)
  cases hmoved

end PatrolBot.Tuning
