import PatrolBot.TuningStore

/-!
# What an idempotency key stands for

The key of a group is kept across failed attempts, so that a retry is the same
request.  Nothing drops it when the draft is edited or the saved revision
moves: two saves of one key agree in the runs in which no step changes, under a
kept key, what the group would send.
-/

namespace PatrolBot.Tuning

variable {bundled : Registry} {number : String → PyFloat} {s s' : TuningStore}

/-! ### The property -/

/-- Saves of one key are one change, restores of one key one target. -/
structure OneMeaning (sent : List Sent) : Prop where
  saves : ∀ r r', .save r ∈ sent → .save r' ∈ sent → r.requestId = r'.requestId →
    r.changes = r'.changes ∧ r.baseRevision = r'.baseRevision
  restores : ∀ r r', .restore r ∈ sent → .restore r' ∈ sent → r.requestId = r'.requestId →
    r.restoreRevision = r'.restoreRevision ∧ r.expectedRevision = r'.expectedRevision

/-- Everything the browser sends in a run. -/
def sentIn (bundled : Registry) (number : String → PyFloat) (events : List StoreEvent) :
    List Sent :=
  ((tuningStore bundled number).trace {} events).flatMap Prod.snd

/-- While a key is kept, the step leaves what it stands for as it is: the batch
    of its group, the reviewed state of the restore. -/
structure KeepsMeaning (bundled : Registry) (number : String → PyFloat) (s : TuningStore)
    (event : StoreEvent) : Prop where
  batch : ∀ group key, s.saveRequestIds group = some key →
    (tuningStep bundled number s event).1.saveRequestIds group = some key →
    (tuningStep bundled number s event).1.batch bundled number group =
      s.batch bundled number group
  restore : s.restore.requestId.isSome →
    (tuningStep bundled number s event).1.restoreTarget = s.restoreTarget ∧
    (tuningStep bundled number s event).1.restoreBase = s.restoreBase

/-! ### Steps that send nothing -/

/-- No key is minted, set anew or sent. -/
structure Quiet (s s' : TuningStore) : Prop where
  minted : s'.minted = s.minted
  keys : ∀ group key, s'.saveRequestIds group = some key → s.saveRequestIds group = some key
  restore : s'.restore.requestId = s.restore.requestId ∨
    ∃ awaited ∈ s.restores, s'.restore.requestId = some awaited.request.requestId
  restores : ∀ awaited ∈ s'.restores, awaited ∈ s.restores

theorem Quiet.of_eq (hminted : s'.minted = s.minted) (hkeys : s'.saveRequestIds = s.saveRequestIds)
    (hrestore : s'.restore = s.restore) (hrestores : s'.restores = s.restores) : Quiet s s' where
  minted := hminted
  keys := fun group key h => by rwa [hkeys] at h
  restore := .inl (by rw [hrestore])
  restores := fun awaited h => by rwa [hrestores] at h

namespace TuningStore

theorem quiet_absorb (reply : TuningReply) (ids : List String) (now : ℚ) :
    Quiet s (s.absorb bundled reply ids now) := by
  unfold absorb
  cases reply.outcome with
  | ok =>
    dsimp only
    split
    · exact .of_eq rfl rfl rfl rfl
    · exact ⟨rfl, fun group key h => by simp at h, .inl rfl, fun awaited h => h⟩
  | conflict => exact .of_eq rfl rfl rfl rfl
  | refused => exact .of_eq rfl rfl rfl rfl
  | failed => exact .of_eq rfl rfl rfl rfl
  | unknown => exact .of_eq rfl rfl rfl rfl

theorem quiet_answered (index : Nat) (answer : PostAnswer) (ambient : Ambient) :
    Quiet s (answered bundled s index answer ambient) := by
  unfold answered
  split
  · exact .of_eq rfl rfl rfl rfl
  · rename_i save _
    cases answer with
    | reply reply =>
      dsimp only
      split
      · have h := @quiet_absorb bundled { s with saves := s.saves.eraseIdx index }
          reply save.ids ambient.now
        exact ⟨h.minted, h.keys, h.restore, h.restores⟩
      · exact .of_eq rfl rfl rfl rfl
    | refused status =>
      dsimp only
      split
      · exact .of_eq rfl rfl rfl rfl
      · exact .of_eq rfl rfl rfl rfl
    | unreachable => exact .of_eq rfl rfl rfl rfl

theorem quiet_beginLoad (ambient : Ambient) : Quiet s (s.beginLoad ambient).1 := by
  unfold beginLoad
  split
  · exact .of_eq rfl rfl rfl rfl
  · exact .of_eq rfl rfl rfl rfl

theorem quiet_loadAnswered (index : Nat) (snapshot : Snapshot) (ambient : Ambient) :
    Quiet s (loadAnswered bundled s index snapshot ambient) := by
  unfold loadAnswered
  split
  · exact .of_eq rfl rfl rfl rfl
  · unfold finishLoad
    split
    · exact .of_eq rfl rfl rfl rfl
    · split
      · exact .of_eq rfl rfl rfl rfl
      · exact .of_eq rfl rfl rfl rfl

theorem quiet_jobFetched (index : Nat) (answer : JobAnswer) (ambient : Ambient) :
    Quiet s (s.jobFetched index answer ambient) := by
  unfold jobFetched
  split
  · dsimp only
    split
    · split
      · exact .of_eq rfl rfl rfl rfl
      · rename_i group _ outcome _
        have h := quiet_beginLoad (s := { s with resolving := s.resolving.eraseIdx index }) ambient
        exact ⟨h.minted, h.keys, h.restore, h.restores⟩
    · exact .of_eq rfl rfl rfl rfl
  · exact .of_eq rfl rfl rfl rfl

theorem quiet_resolved (index : Nat) : Quiet s (resolved bundled number s index) := by
  unfold resolved
  split
  · split
    · exact .of_eq rfl rfl rfl rfl
    · dsimp only
      split
      · exact ⟨rfl, fun group key h => by simp at h, .inl rfl, fun awaited h => h⟩
      · exact .of_eq rfl rfl rfl rfl
  · exact .of_eq rfl rfl rfl rfl

theorem quiet_restoreAnswered (index : Nat) (answer : PostAnswer) :
    Quiet s (s.restoreAnswered index answer) := by
  unfold restoreAnswered
  split
  · exact .of_eq rfl rfl rfl rfl
  · rename_i restore hrestore
    have hmem : restore ∈ s.restores := List.mem_of_getElem? hrestore
    have herase : ∀ awaited ∈ s.restores.eraseIdx index, awaited ∈ s.restores :=
      fun awaited h => List.mem_of_mem_eraseIdx h
    cases answer with
    | reply reply => exact ⟨rfl, fun group key h => h, .inr ⟨restore, hmem, rfl⟩, herase⟩
    | refused status => exact ⟨rfl, fun group key h => h, .inr ⟨restore, hmem, rfl⟩, herase⟩
    | unreachable => exact ⟨rfl, fun group key h => h, .inr ⟨restore, hmem, rfl⟩, herase⟩

/-! ### Steps that send -/

/-- What a group would send is read off the drafts and the snapshot. -/
theorem batch_congr (hdrafts : s'.drafts = s.drafts) (hsnapshot : s'.snapshot = s.snapshot)
    (group : String) : s'.batch bundled number group = s.batch bundled number group := by
  have hcompose : ∀ entries ids, composeChanges bundled number s' entries ids =
      composeChanges bundled number s entries ids := by
    intro entries ids
    induction ids with
    | nil => rfl
    | cons id ids ih => simp only [composeChanges, hdrafts, ih]
  simp only [batch, hsnapshot, hcompose, groupIds, dirty, hdrafts]

/-- What `commitGroup` sends, and what it leaves of the store. -/
structure Commits (bundled : Registry) (number : String → PyFloat) (s s' : TuningStore)
    (group : String) (request : SaveRequest) : Prop where
  batch : s.batch bundled number group = some (request.changes, request.baseRevision)
  key : request.requestId = (s.saveRequestIds group).getD s.minted
  keys : s'.saveRequestIds = fun other =>
    if other = group then some request.requestId else s.saveRequestIds other
  minted : s'.minted = if (s.saveRequestIds group).isSome then s.minted else s.minted + 1
  drafts : s'.drafts = s.drafts
  snapshot : s'.snapshot = s.snapshot
  restore : s'.restore = s.restore
  restores : s'.restores = s.restores
  restoreTarget : s'.restoreTarget = s.restoreTarget
  restoreBase : s'.restoreBase = s.restoreBase

theorem commitGroup_sends (s : TuningStore) (group : String) (ambient : Ambient) :
    ((commitGroup bundled number s group ambient).2 = [] ∧
      Quiet s (commitGroup bundled number s group ambient).1) ∨
    ∃ request, (commitGroup bundled number s group ambient).2 = [.save request] ∧
      Commits bundled number s (commitGroup bundled number s group ambient).1 group request := by
  cases hsnapshot : s.snapshot with
  | none =>
    simp only [commitGroup, hsnapshot]
    exact .inl ⟨trivial, .of_eq rfl rfl rfl rfl⟩
  | some snapshot =>
  simp only [commitGroup, hsnapshot]
  split
  · exact .inl ⟨rfl, .of_eq rfl rfl rfl rfl⟩
  cases hsession : snapshot.sessionId with
  | none => exact .inl ⟨rfl, .of_eq rfl rfl rfl rfl⟩
  | some sessionId =>
  dsimp only
  split
  · exact .inl ⟨rfl, .of_eq rfl rfl rfl rfl⟩
  split
  · exact .inl ⟨rfl, .of_eq rfl rfl rfl rfl⟩
  cases hchanges : composeChanges bundled number s snapshot.entries
      (groupIds bundled s snapshot.entries group) with
  | error invalid => exact .inl ⟨rfl, .of_eq rfl rfl rfl rfl⟩
  | ok changes =>
  dsimp only
  split
  · exact .inl ⟨rfl, .of_eq rfl rfl rfl rfl⟩
  cases hrevision : snapshot.desiredRevision with
  | none => exact .inl ⟨rfl, .of_eq rfl rfl rfl rfl⟩
  | some baseRevision =>
    have hbatch : s.batch bundled number group = some (changes, baseRevision) := by
      simp only [batch, hsnapshot, hchanges, hrevision]
    exact .inr ⟨⟨sessionId, (s.saveRequestIds group).getD s.minted, baseRevision, changes⟩, rfl,
      hbatch, rfl, rfl, rfl, rfl, hsnapshot.symm, rfl, rfl, rfl, rfl⟩

/-- What `confirmRestore` sends, and what it leaves of the store. -/
structure Restores (s s' : TuningStore) (request : RestoreRequest) : Prop where
  target : s.restoreTarget = some request.restoreRevision
  base : s.restoreBase = some request.expectedRevision
  key : request.requestId = s.restore.requestId.getD s.minted
  held : s'.restore.requestId = some request.requestId
  minted : s'.minted = if s.restore.requestId.isSome then s.minted else s.minted + 1
  drafts : s'.drafts = s.drafts
  snapshot : s'.snapshot = s.snapshot
  keys : s'.saveRequestIds = s.saveRequestIds
  restoreTarget : s'.restoreTarget = s.restoreTarget
  restoreBase : s'.restoreBase = s.restoreBase
  restores : ∀ awaited ∈ s'.restores, awaited ∈ s.restores ∨ awaited.request = request

theorem confirmRestore_sends (s : TuningStore) (ambient : Ambient) :
    ((s.confirmRestore ambient).2 = [] ∧ Quiet s (s.confirmRestore ambient).1) ∨
    ∃ request, (s.confirmRestore ambient).2 = [.restore request] ∧
      Restores s (s.confirmRestore ambient).1 request := by
  cases hsnapshot : s.snapshot with
  | none =>
    simp only [confirmRestore, hsnapshot]
    exact .inl ⟨trivial, .of_eq rfl rfl rfl rfl⟩
  | some snapshot =>
  simp only [confirmRestore, hsnapshot]
  split
  · rename_i sessionId desiredRevision target hsession hrevision htarget
    split
    · exact .inl ⟨rfl, .of_eq rfl rfl rfl rfl⟩
    split
    · exact .inl ⟨rfl, .of_eq rfl rfl rfl rfl⟩
    split
    · exact .inl ⟨rfl, ⟨rfl, fun group key h => h, .inl rfl, fun awaited h => h⟩⟩
    · rename_i hreviewed
      simp only [not_or, ne_eq, not_not] at hreviewed
      refine .inr ⟨⟨sessionId, s.restore.requestId.getD s.minted, desiredRevision, target⟩, rfl,
        htarget, hreviewed.2.1.symm, rfl, rfl, rfl, rfl, hsnapshot.symm, rfl, rfl, rfl, ?_⟩
      intro awaited hmem
      rcases List.mem_append.mp hmem with hmem | hmem
      · exact .inl hmem
      · rw [List.mem_singleton.mp hmem]
        exact .inr rfl
  · exact .inl ⟨rfl, .of_eq rfl rfl rfl rfl⟩

end TuningStore

/-- What one step sends, and what it does to the keys. -/
theorem tuningStep_sends (s : TuningStore) (event : StoreEvent) :
    ((tuningStep bundled number s event).2 = [] ∧
      Quiet s (tuningStep bundled number s event).1) ∨
    (∃ group request, (tuningStep bundled number s event).2 = [.save request] ∧
      s.Commits bundled number (tuningStep bundled number s event).1 group request) ∨
    ∃ request, (tuningStep bundled number s event).2 = [.restore request] ∧
      s.Restores (tuningStep bundled number s event).1 request := by
  cases event with
  | setDraft id text => exact .inl ⟨rfl, .of_eq rfl rfl rfl rfl⟩
  | clearDraft id => exact .inl ⟨rfl, .of_eq rfl rfl rfl rfl⟩
  | discardAllDrafts => exact .inl ⟨rfl, .of_eq rfl rfl rfl rfl⟩
  | load ambient => exact .inl ⟨rfl, TuningStore.quiet_beginLoad ambient⟩
  | loaded index snapshot ambient =>
    exact .inl ⟨rfl, TuningStore.quiet_loadAnswered index snapshot ambient⟩
  | commitGroup group ambient =>
    rcases @TuningStore.commitGroup_sends bundled number s group ambient with h | ⟨request, h⟩
    · exact .inl h
    · exact .inr (.inl ⟨group, request, h⟩)
  | answered index answer ambient =>
    exact .inl ⟨rfl, TuningStore.quiet_answered index answer ambient⟩
  | resolveUnknownSave group =>
    unfold tuningStep
    dsimp only
    split
    · exact .inl ⟨rfl, .of_eq rfl rfl rfl rfl⟩
    · exact .inl ⟨rfl, .of_eq rfl rfl rfl rfl⟩
  | jobFetched index answer ambient =>
    exact .inl ⟨rfl, TuningStore.quiet_jobFetched index answer ambient⟩
  | resolved index => exact .inl ⟨rfl, TuningStore.quiet_resolved index⟩
  | openRestore => exact .inl ⟨rfl, .of_eq rfl rfl rfl rfl⟩
  | confirmRestore ambient =>
    rcases TuningStore.confirmRestore_sends s ambient with h | h
    · exact .inl h
    · exact .inr (.inr h)
  | restoreAnswered index answer =>
    exact .inl ⟨rfl, TuningStore.quiet_restoreAnswered index answer⟩

/-! ### Runs -/

/-- Every kept key stands for what was sent with it. -/
structure Keyed (bundled : Registry) (number : String → PyFloat) (sent : List Sent)
    (s : TuningStore) : Prop where
  meaning : OneMeaning sent
  savesBelow : ∀ r, .save r ∈ sent → r.requestId < s.minted
  restoresBelow : ∀ r, .restore r ∈ sent → r.requestId < s.minted
  held : ∀ group key, s.saveRequestIds group = some key → ∃ r, .save r ∈ sent ∧
    r.requestId = key ∧ s.batch bundled number group = some (r.changes, r.baseRevision)
  heldRestore : ∀ key, s.restore.requestId = some key → ∃ r, .restore r ∈ sent ∧
    r.requestId = key ∧ s.restoreTarget = some r.restoreRevision ∧
    s.restoreBase = some r.expectedRevision
  awaited : ∀ awaited ∈ s.restores, s.restore.requestId = some awaited.request.requestId

theorem keyed_initial : Keyed bundled number [] {} where
  meaning := ⟨by simp, by simp⟩
  savesBelow := by simp
  restoresBelow := by simp
  held := by simp
  heldRestore := by simp
  awaited := by simp

section Step

variable {sent : List Sent} {event : StoreEvent}

/-- A kept restore key was kept before a step that sends nothing. -/
theorem Quiet.heldBefore (h : Quiet s s') (hkeyed : Keyed bundled number sent s) :
    s'.restore.requestId = s.restore.requestId := by
  rcases h.restore with h | ⟨awaited, hmem, h⟩
  · exact h
  · rw [h, hkeyed.awaited awaited hmem]

theorem Keyed.quiet (hkeyed : Keyed bundled number sent s)
    (hkeeps : KeepsMeaning bundled number s event)
    (hquiet : Quiet s (tuningStep bundled number s event).1) :
    Keyed bundled number sent (tuningStep bundled number s event).1 where
  meaning := hkeyed.meaning
  savesBelow := fun r hr => by rw [hquiet.minted]; exact hkeyed.savesBelow r hr
  restoresBelow := fun r hr => by rw [hquiet.minted]; exact hkeyed.restoresBelow r hr
  held := by
    intro group key hkey
    have hbefore := hquiet.keys group key hkey
    rw [hkeeps.batch group key hbefore hkey]
    exact hkeyed.held group key hbefore
  heldRestore := by
    intro key hkey
    rw [hquiet.heldBefore hkeyed] at hkey
    obtain ⟨htarget, hbase⟩ := hkeeps.restore (Option.isSome_of_eq_some hkey)
    rw [htarget, hbase]
    exact hkeyed.heldRestore key hkey
  awaited := by
    intro awaited hmem
    rw [hquiet.heldBefore hkeyed]
    exact hkeyed.awaited awaited (hquiet.restores awaited hmem)

/-- A save agrees with what was sent before under its key. -/
theorem Keyed.agrees {group : String} {request : SaveRequest}
    (hkeyed : Keyed bundled number sent s)
    (h : s.Commits bundled number s' group request) {r : SaveRequest} (hr : .save r ∈ sent)
    (hkey : r.requestId = request.requestId) :
    r.changes = request.changes ∧ r.baseRevision = request.baseRevision := by
  cases hheld : s.saveRequestIds group with
  | none =>
    -- A fresh key: nothing was sent with it.
    have hfresh : request.requestId = s.minted := by rw [h.key, hheld]; rfl
    exact absurd (hkeyed.savesBelow r hr) (by rw [hkey, hfresh]; exact lt_irrefl _)
  | some key =>
    have hsame : request.requestId = key := by rw [h.key, hheld]; rfl
    obtain ⟨held, hmem, hid, hbatch⟩ := hkeyed.held group key hheld
    have hpair := Option.some.inj (hbatch.symm.trans h.batch)
    obtain ⟨hchanges, hbase⟩ := Prod.mk.inj hpair
    obtain ⟨hchanges', hbase'⟩ :=
      hkeyed.meaning.saves r held hr hmem (hkey.trans (hsame.trans hid.symm))
    exact ⟨hchanges'.trans hchanges, hbase'.trans hbase⟩

theorem Keyed.agreesRestore {request : RestoreRequest} (hkeyed : Keyed bundled number sent s)
    (h : s.Restores s' request) {r : RestoreRequest} (hr : .restore r ∈ sent)
    (hkey : r.requestId = request.requestId) :
    r.restoreRevision = request.restoreRevision ∧
      r.expectedRevision = request.expectedRevision := by
  cases hheld : s.restore.requestId with
  | none =>
    have hfresh : request.requestId = s.minted := by rw [h.key, hheld]; rfl
    exact absurd (hkeyed.restoresBelow r hr) (by rw [hkey, hfresh]; exact lt_irrefl _)
  | some key =>
    have hsame : request.requestId = key := by rw [h.key, hheld]; rfl
    obtain ⟨held, hmem, hid, htarget, hbase⟩ := hkeyed.heldRestore key hheld
    have htarget' := Option.some.inj (htarget.symm.trans h.target)
    have hbase' := Option.some.inj (hbase.symm.trans h.base)
    obtain ⟨hrestore, hexpected⟩ :=
      hkeyed.meaning.restores r held hr hmem (hkey.trans (hsame.trans hid.symm))
    exact ⟨hrestore.trans htarget', hexpected.trans hbase'⟩

/-- The key of a save is below the number the next one is given. -/
theorem Keyed.key_lt {group : String} {request : SaveRequest}
    (hkeyed : Keyed bundled number sent s) (h : s.Commits bundled number s' group request) :
    request.requestId < s'.minted ∧ s.minted ≤ s'.minted := by
  rw [h.key, h.minted]
  cases hheld : s.saveRequestIds group with
  | none => simp
  | some key =>
    obtain ⟨held, hmem, hid, -⟩ := hkeyed.held group key hheld
    have hlt := hkeyed.savesBelow held hmem
    rw [hid] at hlt
    simp only [Option.getD_some, Option.isSome_some, if_true]
    exact ⟨hlt, le_refl _⟩

theorem Keyed.restoreKey_lt {request : RestoreRequest} (hkeyed : Keyed bundled number sent s)
    (h : s.Restores s' request) : request.requestId < s'.minted ∧ s.minted ≤ s'.minted := by
  rw [h.key, h.minted]
  cases hheld : s.restore.requestId with
  | none => simp
  | some key =>
    obtain ⟨held, hmem, hid, -⟩ := hkeyed.heldRestore key hheld
    have hlt := hkeyed.restoresBelow held hmem
    rw [hid] at hlt
    simp only [Option.getD_some, Option.isSome_some, if_true]
    exact ⟨hlt, le_refl _⟩

theorem Keyed.commits {group : String} {request : SaveRequest}
    (hkeyed : Keyed bundled number sent s) (h : s.Commits bundled number s' group request) :
    Keyed bundled number (sent ++ [.save request]) s' where
  meaning := by
    constructor
    · intro r r' hr hr' hkey
      rcases List.mem_append.mp hr with hr | hr
      · rcases List.mem_append.mp hr' with hr' | hr'
        · exact hkeyed.meaning.saves r r' hr hr' hkey
        · cases List.mem_singleton.mp hr'
          exact hkeyed.agrees h hr hkey
      · cases List.mem_singleton.mp hr
        rcases List.mem_append.mp hr' with hr' | hr'
        · have := hkeyed.agrees h hr' hkey.symm
          exact ⟨this.1.symm, this.2.symm⟩
        · cases List.mem_singleton.mp hr'
          exact ⟨rfl, rfl⟩
    · intro r r' hr hr' hkey
      simp only [List.mem_append, List.mem_singleton, reduceCtorEq, or_false] at hr hr'
      exact hkeyed.meaning.restores r r' hr hr' hkey
  savesBelow := by
    intro r hr
    rcases List.mem_append.mp hr with hr | hr
    · exact lt_of_lt_of_le (hkeyed.savesBelow r hr) (hkeyed.key_lt h).2
    · cases List.mem_singleton.mp hr
      exact (hkeyed.key_lt h).1
  restoresBelow := by
    intro r hr
    simp only [List.mem_append, List.mem_singleton, reduceCtorEq, or_false] at hr
    exact lt_of_lt_of_le (hkeyed.restoresBelow r hr) (hkeyed.key_lt h).2
  held := by
    intro other key hkey
    rw [TuningStore.batch_congr h.drafts h.snapshot]
    rw [h.keys] at hkey
    dsimp only at hkey
    split at hkey
    · rename_i heq
      subst heq
      exact ⟨request, by simp, Option.some.inj hkey, h.batch⟩
    · obtain ⟨r, hr, hid, hbatch⟩ := hkeyed.held other key hkey
      exact ⟨r, List.mem_append_left _ hr, hid, hbatch⟩
  heldRestore := by
    intro key hkey
    rw [h.restore] at hkey
    rw [h.restoreTarget, h.restoreBase]
    obtain ⟨r, hr, hrest⟩ := hkeyed.heldRestore key hkey
    exact ⟨r, List.mem_append_left _ hr, hrest⟩
  awaited := by
    rw [h.restore, h.restores]
    exact hkeyed.awaited

theorem Keyed.restores {request : RestoreRequest} (hkeyed : Keyed bundled number sent s)
    (h : s.Restores s' request) : Keyed bundled number (sent ++ [.restore request]) s' where
  meaning := by
    constructor
    · intro r r' hr hr' hkey
      simp only [List.mem_append, List.mem_singleton, reduceCtorEq, or_false] at hr hr'
      exact hkeyed.meaning.saves r r' hr hr' hkey
    · intro r r' hr hr' hkey
      rcases List.mem_append.mp hr with hr | hr
      · rcases List.mem_append.mp hr' with hr' | hr'
        · exact hkeyed.meaning.restores r r' hr hr' hkey
        · cases List.mem_singleton.mp hr'
          exact hkeyed.agreesRestore h hr hkey
      · cases List.mem_singleton.mp hr
        rcases List.mem_append.mp hr' with hr' | hr'
        · have := hkeyed.agreesRestore h hr' hkey.symm
          exact ⟨this.1.symm, this.2.symm⟩
        · cases List.mem_singleton.mp hr'
          exact ⟨rfl, rfl⟩
  savesBelow := by
    intro r hr
    simp only [List.mem_append, List.mem_singleton, reduceCtorEq, or_false] at hr
    exact lt_of_lt_of_le (hkeyed.savesBelow r hr) (hkeyed.restoreKey_lt h).2
  restoresBelow := by
    intro r hr
    rcases List.mem_append.mp hr with hr | hr
    · exact lt_of_lt_of_le (hkeyed.restoresBelow r hr) (hkeyed.restoreKey_lt h).2
    · cases List.mem_singleton.mp hr
      exact (hkeyed.restoreKey_lt h).1
  held := by
    intro group key hkey
    rw [h.keys] at hkey
    rw [TuningStore.batch_congr h.drafts h.snapshot]
    obtain ⟨r, hr, hrest⟩ := hkeyed.held group key hkey
    exact ⟨r, List.mem_append_left _ hr, hrest⟩
  heldRestore := by
    intro key hkey
    rw [h.held] at hkey
    rw [h.restoreTarget, h.restoreBase]
    exact ⟨request, by simp, Option.some.inj hkey, h.target, h.base⟩
  awaited := by
    intro awaited hmem
    rw [h.held]
    rcases h.restores awaited hmem with hmem | rfl
    · have hheld := hkeyed.awaited awaited hmem
      rw [h.key, hheld]
      rfl
    · rfl

theorem Keyed.step (hkeyed : Keyed bundled number sent s)
    (hkeeps : KeepsMeaning bundled number s event) :
    Keyed bundled number (sent ++ (tuningStep bundled number s event).2)
      (tuningStep bundled number s event).1 := by
  rcases @tuningStep_sends bundled number s event with
    ⟨hsent, hquiet⟩ | ⟨group, request, hsent, hcommits⟩ | ⟨request, hsent, hrestores⟩
  · rw [hsent, List.append_nil]
    exact hkeyed.quiet hkeeps hquiet
  · rw [hsent]
    exact hkeyed.commits hcommits
  · rw [hsent]
    exact hkeyed.restores hrestores

end Step

/-- A catalog of one parameter. -/
def particleCatalog : Registry :=
  [{ id := "amcl.max_particles", label := "AMCL maximum particle count", group := "amcl",
     type := .integer, valueKind := "count", default := .int 4000,
     bounds := { lower := some 50, upper := some 10000 } }]

/-- `Number` on the two texts that are typed below. -/
def typedNumber (text : String) : PyFloat := if text = "5000" then .finite 5000 else .finite 6000

def particleSnapshot : Snapshot where
  sessionId := some "22222222-2222-4222-8222-222222222222"
  desiredRevision := some 3
  writable := true
  entries := particleCatalog

/-- A save is refused, its draft is edited, and the group is committed again. -/
def editedAfterRefusal : List StoreEvent :=
  [.load { now := 1 }, .loaded 0 particleSnapshot { now := 2 },
    .setDraft "amcl.max_particles" "5000", .commitGroup "amcl" {},
    .answered 0 (.refused 409) {},
    .setDraft "amcl.max_particles" "6000", .commitGroup "amcl" {}]

/-- The drafts, the snapshot and the review are left as they are. -/
structure Untouched (s s' : TuningStore) : Prop where
  drafts : s'.drafts = s.drafts
  snapshot : s'.snapshot = s.snapshot
  restoreTarget : s'.restoreTarget = s.restoreTarget
  restoreBase : s'.restoreBase = s.restoreBase

theorem Untouched.keepsMeaning {event : StoreEvent}
    (h : Untouched s (tuningStep bundled number s event).1) :
    KeepsMeaning bundled number s event where
  batch := fun group _ _ _ => TuningStore.batch_congr h.drafts h.snapshot group
  restore := fun _ => ⟨h.restoreTarget, h.restoreBase⟩

theorem keepsMeaning_of_keyless {event : StoreEvent}
    (hkeys : s.saveRequestIds = fun _ => none) (hrestore : s.restore.requestId = none) :
    KeepsMeaning bundled number s event where
  batch := fun group key hkey _ => by rw [hkeys] at hkey; cases hkey
  restore := fun h => by rw [hrestore] at h; cases h

theorem untouched_commitGroup (s : TuningStore) (group : String) (ambient : Ambient) :
    Untouched s (TuningStore.commitGroup bundled number s group ambient).1 := by
  unfold TuningStore.commitGroup
  split
  · exact ⟨rfl, rfl, rfl, rfl⟩
  split
  · exact ⟨rfl, rfl, rfl, rfl⟩
  dsimp only
  split
  · exact ⟨rfl, rfl, rfl, rfl⟩
  split
  · exact ⟨rfl, rfl, rfl, rfl⟩
  split
  · exact ⟨rfl, rfl, rfl, rfl⟩
  split
  · exact ⟨rfl, rfl, rfl, rfl⟩
  split
  · exact ⟨rfl, rfl, rfl, rfl⟩
  split
  · exact ⟨rfl, rfl, rfl, rfl⟩
  · exact ⟨rfl, rfl, rfl, rfl⟩

theorem untouched_refused (s : TuningStore) (index status : Nat) (ambient : Ambient) :
    Untouched s (TuningStore.answered bundled s index (.refused status) ambient) := by
  unfold TuningStore.answered
  split
  · exact ⟨rfl, rfl, rfl, rfl⟩
  · dsimp only
    split
    · exact ⟨rfl, rfl, rfl, rfl⟩
    · exact ⟨rfl, rfl, rfl, rfl⟩

theorem keepsMeaning_refused (s : TuningStore) (index status : Nat) (ambient : Ambient) :
    KeepsMeaning bundled number s (.answered index (.refused status) ambient) :=
  Untouched.keepsMeaning (@untouched_refused bundled s index status ambient)

/-- The same save sent again after a refusal. -/
def retriedAfterRefusal : List StoreEvent :=
  [.load { now := 1 }, .loaded 0 particleSnapshot { now := 2 },
    .setDraft "amcl.max_particles" "5000", .commitGroup "amcl" {},
    .answered 0 (.refused 409) {}, .commitGroup "amcl" {}]

end PatrolBot.Tuning
