import PatrolBot.ExecutorLedger

/-!
# Every accepted stop is answered once

A stop waits in the list of the goal it was attached to until some path claims
it, and the path that claims it reports it.  So the results of a stop and its
places in the lists add up to one, from its acceptance on.
-/

namespace PatrolBot

namespace Goals

/-- The stops that wait for a goal to end. -/
def waiting (g : Goals) : List String :=
  (g.active.map (·.stopCommandIds)).getD [] ++ (g.undock.map (·.stopCommandIds)).getD []

/-- The stop waits for this goal. -/
def Waits (g : Goals) (kind : ActionKind) (number : Nat) (id : String) : Prop :=
  match kind with
  | .navigation => ∃ active, g.active = some active ∧ active.request = number ∧
      id ∈ active.stopCommandIds
  | .undock => ∃ undock, g.undock = some undock ∧ undock.request = number ∧
      id ∈ undock.stopCommandIds
  | .map => False

/-- The goal is in its slot, accepted or not. -/
def InSlot (g : Goals) (kind : ActionKind) (number : Nat) : Prop :=
  match kind with
  | .navigation => ∃ active, g.active = some active ∧ active.request = number
  | .undock => ∃ undock, g.undock = some undock ∧ undock.request = number
  | .map => ∃ map, g.map = some map ∧ map.request = number

/-- The commands a result may still be sent for, waiting stops apart. -/
def commandIds (g : Goals) : List String :=
  (g.active.map (·.commandId)).toList ++ g.navRequests.map (·.commandId) ++
    (g.undock.map (·.commandId)).toList ++ (g.map.map (·.commandId)).toList ++ g.calls

theorem mem_waiting {g : Goals} {id : String} :
    id ∈ g.waiting ↔ ∃ kind number, g.Waits kind number id := by
  constructor
  · intro h
    rcases List.mem_append.mp h with h | h
    · cases hactive : g.active with
      | none => simp [hactive] at h
      | some active => exact ⟨.navigation, active.request, active, hactive, rfl, by
          simpa [hactive] using h⟩
    · cases hundock : g.undock with
      | none => simp [hundock] at h
      | some undock => exact ⟨.undock, undock.request, undock, hundock, rfl, by
          simpa [hundock] using h⟩
  · rintro ⟨kind, number, h⟩
    cases kind with
    | navigation =>
      obtain ⟨active, hactive, -, hmem⟩ := h
      exact List.mem_append_left _ (by simpa [hactive] using hmem)
    | undock =>
      obtain ⟨undock, hundock, -, hmem⟩ := h
      exact List.mem_append_right _ (by simpa [hundock] using hmem)
    | map => exact h.elim

theorem Waits.inSlot {g : Goals} {kind : ActionKind} {number : Nat} {id : String}
    (h : g.Waits kind number id) : g.InSlot kind number := by
  cases kind with
  | navigation =>
    obtain ⟨active, hactive, hnumber, -⟩ := h
    exact ⟨active, hactive, hnumber⟩
  | undock =>
    obtain ⟨undock, hundock, hnumber, -⟩ := h
    exact ⟨undock, hundock, hnumber⟩
  | map => exact h.elim

end Goals

/-! ### The account of one stop -/

/-- What is sent for `id` is what it no longer waits for, and it waits for no
    goal it did not wait for before. -/
structure Settles (id : String) (g : Goals) (emits : List ExecutorEmit) (g' : Goals) : Prop where
  count : (resultIds emits).count id + g'.waiting.count id = g.waiting.count id
  waits : ∀ kind number, g'.Waits kind number id → g.Waits kind number id
  unnamed : id ∉ g'.commandIds

section

variable {event : ExecutorEvent × ClientAnswers} {g g' g'' : Goals}
  {emits more : List ExecutorEmit} {id : String}

theorem Settles.trans (h : Settles id g emits g') (h' : Settles id g' more g'') :
    Settles id g (emits ++ more) g'' := by
  refine ⟨?_, fun kind number hwaits => h.waits kind number (h'.waits kind number hwaits),
    h'.unnamed⟩
  rw [resultIds_append, List.count_append]
  have hfirst := h.count
  have hsecond := h'.count
  omega

theorem count_eq_zero_of_ne {ids : List String} (h : ∀ other ∈ ids, other ≠ id) :
    ids.count id = 0 :=
  List.count_eq_zero.mpr fun hmem => h id hmem rfl

/-- Nothing is sent for the stop, and the lists keep it where it is. -/
theorem settles_of_still (hresults : ∀ other ∈ resultIds emits, other ≠ id)
    (hwaiting : g'.waiting.count id = g.waiting.count id)
    (hwaits : ∀ kind number, g'.Waits kind number id → g.Waits kind number id)
    (hunnamed : id ∉ g'.commandIds) : Settles id g emits g' := by
  refine ⟨?_, hwaits, hunnamed⟩
  rw [count_eq_zero_of_ne hresults, zero_add, hwaiting]

theorem ne_of_isStop (hname : event.1.commandId? ≠ some id) {other : String}
    (h : Executor.IsStop other event) : other ≠ id := by
  obtain ⟨call, answers, rfl, hcommand, rfl⟩ := h
  rintro rfl
  exact hname (by simp [ExecutorEvent.commandId?, hcommand])

/-- A stop waits where it did, or is the one this event brings in. -/
theorem Act.waits (h : Act event g emits g') {kind : ActionKind} {number : Nat}
    (hwaits : g'.Waits kind number id) : g.Waits kind number id ∨ Executor.IsStop id event := by
  cases kind with
  | navigation =>
    obtain ⟨active, hactive, hnumber, hmem⟩ := hwaits
    cases h with
    | adopt =>
      obtain rfl := Option.some.inj hactive
      exact absurd hmem List.not_mem_nil
    | finish => cases hactive
    | attach before other active_eq stop =>
      obtain rfl := Option.some.inj hactive
      rcases List.mem_append.mp hmem with hmem | hmem
      · exact .inl ⟨before, active_eq, hnumber, hmem⟩
      · rw [List.mem_singleton.mp hmem]
        exact .inr stop
    | claim before other _ active_eq =>
      obtain rfl := Option.some.inj hactive
      exact .inl ⟨before, active_eq, hnumber, List.mem_of_mem_erase hmem⟩
    | _ => exact .inl ⟨active, hactive, hnumber, hmem⟩
  | undock =>
    obtain ⟨undock, hundock, hnumber, hmem⟩ := hwaits
    cases h with
    | sendUndock =>
      obtain rfl := Option.some.inj hundock
      exact absurd hmem List.not_mem_nil
    | declineUndock => cases hundock
    | acceptUndock _ before _ _ _ _ undock_eq =>
      obtain rfl := Option.some.inj hundock
      exact .inl ⟨before, undock_eq, hnumber, hmem⟩
    | endUndock => cases hundock
    | markUndock before undock_eq =>
      obtain rfl := Option.some.inj hundock
      exact .inl ⟨before, undock_eq, hnumber, hmem⟩
    | attachUndock before other undock_eq stop =>
      obtain rfl := Option.some.inj hundock
      rcases List.mem_append.mp hmem with hmem | hmem
      · exact .inl ⟨before, undock_eq, hnumber, hmem⟩
      · rw [List.mem_singleton.mp hmem]
        exact .inr stop
    | claimUndock before other _ undock_eq =>
      obtain rfl := Option.some.inj hundock
      exact .inl ⟨before, undock_eq, hnumber, List.mem_of_mem_erase hmem⟩
    | _ => exact .inl ⟨undock, hundock, hnumber, hmem⟩
  | map => exact hwaits.elim

theorem Acts.waits (h : Acts event g emits g') {kind : ActionKind} {number : Nat}
    (hwaits : g'.Waits kind number id) : g.Waits kind number id ∨ Executor.IsStop id event := by
  induction h with
  | nil => exact .inl hwaits
  | cons first _ ih => exact (ih hwaits).elim first.waits .inr

/-- The count of the waiting stops, by slot. -/
theorem count_waiting (g : Goals) (id : String) : g.waiting.count id =
    ((g.active.map (·.stopCommandIds)).getD []).count id +
      ((g.undock.map (·.stopCommandIds)).getD []).count id := List.count_append

/-- A claimed stop leaves its list. -/
theorem count_claimed (id : String) {stops : List String} {other : String}
    (h : other ∈ stops) :
    [other].count id + (stops.erase other).count id = stops.count id := by
  rw [(List.perm_cons_erase h).count_eq id, ← List.count_append]
  rfl

/-- **Step lemma.**  An update that does not name the stop keeps its account. -/
theorem Act.settles (h : Act event g emits g') (hname : event.1.commandId? ≠ some id)
    (hfresh : id ∉ g.commandIds) : Settles id g emits g' := by
  have hwaits : ∀ kind number, g'.Waits kind number id → g.Waits kind number id :=
    fun kind number hwaits =>
      (h.waits hwaits).resolve_right fun hstop => ne_of_isStop hname hstop rfl
  obtain ⟨active, undock, map, generation, nextRequest, navRequests, navResults, undockRequests,
    undockResults, mapRequests, mapResults, cancelReplies, calls⟩ := g
  have hsplit := hfresh
  simp only [Goals.commandIds, List.mem_append, not_or] at hsplit
  obtain ⟨⟨⟨⟨hactive, hnavs⟩, hundock⟩, hmap⟩, hcalls⟩ := hsplit
  have hnone : ∀ other ∈ ([] : List String), other ≠ id := by simp
  cases h with
  | aside nextRequest' calls' _ _ known results _ =>
    refine settles_of_still (fun other hmem => ?_) rfl hwaits ?_
    · rintro rfl
      exact (results _ hmem).elim hcalls hname
    · simp only [Goals.commandIds, List.mem_append, not_or]
      refine ⟨⟨⟨⟨hactive, hnavs⟩, hundock⟩, hmap⟩, fun hmem => ?_⟩
      exact (known _ hmem).elim hcalls hname
  | disable => exact settles_of_still hnone rfl hwaits hfresh
  | cancel kind request _ runs results _ =>
    exact settles_of_still (by simp [results]) rfl hwaits hfresh
  | await => exact settles_of_still hnone rfl hwaits hfresh
  | take => exact settles_of_still hnone rfl hwaits hfresh
  | send request _ named _ _ quiet =>
    refine settles_of_still (by simp [quiet.results]) rfl hwaits ?_
    have hother : id ≠ request.commandId := fun heq => hname (heq ▸ named)
    simp only [Goals.commandIds, List.map_cons, List.mem_append, List.mem_cons, not_or]
    exact ⟨⟨⟨⟨hactive, hother, hnavs⟩, hundock⟩, hmap⟩, hcalls⟩
  | turnDown request _ owed results _ =>
    refine settles_of_still (by simp [results]) rfl hwaits ?_
    simp only [Goals.commandIds, List.mem_append, not_or]
    refine ⟨⟨⟨⟨hactive, fun hmem => hnavs ?_⟩, hundock⟩, hmap⟩, hcalls⟩
    exact List.map_subset _ List.erase_subset hmem
  | adopt request _ owed _ results _ _ =>
    refine ⟨?_, hwaits, ?_⟩
    · cases active with
      | none =>
        rw [results]
        exact Nat.zero_add _
      | some goal =>
        have hgoal : goal.commandId ≠ id := fun heq => hactive (by simp [heq])
        simp only at results
        rw [results, List.count_cons_of_ne hgoal]
        simp [count_waiting]
    · have hother : id ≠ request.commandId := fun heq => hnavs (heq ▸ List.mem_map_of_mem owed)
      simp only [Goals.commandIds, List.mem_append, not_or]
      refine ⟨⟨⟨⟨by simpa using hother, fun hmem => hnavs ?_⟩, hundock⟩, hmap⟩, hcalls⟩
      exact List.map_subset _ List.erase_subset hmem
  | awaitResult => exact settles_of_still hnone rfl hwaits hfresh
  | takeResult => exact settles_of_still hnone rfl hwaits hfresh
  | finish goal _ active_eq results _ _ =>
    obtain rfl : active = some goal := active_eq
    have hgoal : goal.commandId ≠ id := fun heq => hactive (by simp [heq])
    refine ⟨?_, hwaits, ?_⟩
    · rw [results, List.count_cons_of_ne hgoal]
      simp [count_waiting]
    · simp only [Goals.commandIds, List.mem_append, not_or]
      exact ⟨⟨⟨⟨by simp, hnavs⟩, hundock⟩, hmap⟩, hcalls⟩
  | attach goal other active_eq stop =>
    obtain rfl : active = some goal := active_eq
    have hother := ne_of_isStop hname stop
    refine settles_of_still hnone ?_ hwaits hfresh
    simp [count_waiting, List.count_append, hother]
  | claim goal other _ active_eq waits results _ _ =>
    obtain rfl : active = some goal := active_eq
    refine ⟨?_, hwaits, hfresh⟩
    have hcount := count_claimed id waits
    simp only [results, count_waiting, Option.map_some, Option.getD_some]
    omega
  | sendUndock other _ named idle quiet =>
    obtain rfl : undock = none := idle
    refine settles_of_still (by simp [quiet.results]) rfl hwaits ?_
    have hother : id ≠ other := fun heq => hname (heq ▸ named)
    simp only [Goals.commandIds, List.mem_append, not_or]
    exact ⟨⟨⟨⟨hactive, hnavs⟩, by simpa using hother⟩, hmap⟩, hcalls⟩
  | dropUndock _ _ _ results _ =>
    exact settles_of_still (by simp [results]) rfl hwaits hfresh
  | declineUndock request goal _ owed undock_eq _ results _ _ =>
    obtain rfl : undock = some goal := undock_eq
    refine ⟨?_, hwaits, ?_⟩
    · simp only [results, count_waiting, Option.map_some, Option.getD_some, Option.map_none,
        Option.getD_none, List.count_nil]
      omega
    · simp only [Goals.commandIds, List.mem_append, not_or]
      exact ⟨⟨⟨⟨hactive, hnavs⟩, by simp⟩, hmap⟩, hcalls⟩
  | acceptUndock request goal _ _ _ _ undock_eq _ quiet =>
    obtain rfl : undock = some goal := undock_eq
    exact settles_of_still (by simp [quiet.results]) rfl hwaits hfresh
  | takeUndockResult => exact settles_of_still hnone rfl hwaits hfresh
  | endUndock owed goal _ _ undock_eq results _ _ =>
    obtain rfl : undock = some goal := undock_eq
    have hgoal : goal.commandId ≠ id := fun heq => hundock (by simp [heq])
    refine ⟨?_, hwaits, ?_⟩
    · rw [results, List.count_cons_of_ne hgoal]
      simp only [count_waiting, Option.map_some, Option.getD_some, Option.map_none,
        Option.getD_none, List.count_nil]
      omega
    · simp only [Goals.commandIds, List.mem_append, not_or]
      exact ⟨⟨⟨⟨hactive, hnavs⟩, by simp⟩, hmap⟩, hcalls⟩
  | markUndock goal undock_eq =>
    obtain rfl : undock = some goal := undock_eq
    exact settles_of_still hnone rfl hwaits hfresh
  | attachUndock goal other undock_eq stop =>
    obtain rfl : undock = some goal := undock_eq
    have hother := ne_of_isStop hname stop
    refine settles_of_still hnone ?_ hwaits hfresh
    simp [count_waiting, List.count_append, hother]
  | claimUndock goal other _ undock_eq waits results _ _ =>
    obtain rfl : undock = some goal := undock_eq
    refine ⟨?_, hwaits, hfresh⟩
    have hcount := count_claimed id waits
    simp only [results, count_waiting, Option.map_some, Option.getD_some]
    omega
  | sendMap other _ _ named idle quiet =>
    obtain rfl : map = none := idle
    refine settles_of_still (by simp [quiet.results]) rfl hwaits ?_
    have hother : id ≠ other := fun heq => hname (heq ▸ named)
    simp only [Goals.commandIds, List.mem_append, not_or]
    exact ⟨⟨⟨⟨hactive, hnavs⟩, hundock⟩, by simpa using hother⟩, hcalls⟩
  | markMap goal _ map_eq results _ =>
    obtain rfl : map = some goal := map_eq
    exact settles_of_still (by simp [results]) rfl hwaits hfresh
  | dropMap => exact settles_of_still hnone rfl hwaits hfresh
  | refuseMap goal _ _ map_eq results _ =>
    obtain rfl : map = some goal := map_eq
    have hgoal : goal.commandId ≠ id := fun heq => hmap (by simp [heq])
    refine settles_of_still (fun other hmem => (results other hmem).symm ▸ hgoal) rfl hwaits ?_
    simp only [Goals.commandIds, List.mem_append, not_or]
    exact ⟨⟨⟨⟨hactive, hnavs⟩, hundock⟩, by simp⟩, hcalls⟩
  | acceptMap goal _ _ _ map_eq _ results _ =>
    obtain rfl : map = some goal := map_eq
    exact settles_of_still (by simp [results]) rfl hwaits hfresh
  | abandonMap goal _ map_eq _ results _ =>
    obtain rfl : map = some goal := map_eq
    have hgoal : goal.commandId ≠ id := fun heq => hmap (by simp [heq])
    refine settles_of_still (by simpa [results] using hgoal) rfl hwaits ?_
    simp only [Goals.commandIds, List.mem_append, not_or]
    exact ⟨⟨⟨⟨hactive, hnavs⟩, hundock⟩, by simp⟩, hcalls⟩
  | dropMapResult => exact settles_of_still hnone rfl hwaits hfresh
  | endMap goal _ _ map_eq results _ =>
    obtain rfl : map = some goal := map_eq
    have hgoal : goal.commandId ≠ id := fun heq => hmap (by simp [heq])
    refine settles_of_still (by simpa [results] using hgoal) rfl hwaits ?_
    simp only [Goals.commandIds, List.mem_append, not_or]
    exact ⟨⟨⟨⟨hactive, hnavs⟩, hundock⟩, by simp⟩, hcalls⟩

theorem settles_refl (hfresh : id ∉ g.commandIds) : Settles id g [] g :=
  settles_of_still (by simp) rfl (fun _ _ h => h) hfresh

theorem Acts.settles (h : Acts event g emits g') (hname : event.1.commandId? ≠ some id)
    (hfresh : id ∉ g.commandIds) : Settles id g emits g' := by
  induction h with
  | nil => exact settles_refl hfresh
  | cons first _ ih =>
    have hfirst := first.settles hname hfresh
    exact hfirst.trans (ih hfirst.unnamed)

end

namespace Executor

variable (config : ExecutorConfig) {answers : ClientAnswers}

/-! ### The step that takes the stop -/

theorem settles_failStop {s : Executor} {id : String} (other detail : String)
    (hfresh : id ∉ s.goals.commandIds) :
    Settles id s.goals (s.failStop other detail).2 (s.failStop other detail).1.goals := by
  have h : Does (.mapConnection, allReady) s (s.failStop other detail) := does_failStop s _ _
  exact h.settles (by simp [ExecutorEvent.commandId?]) hfresh

theorem settles_askToStop {s : Executor} {id : String} (kind : ActionKind) {cancel : ExecutorEmit}
    (hcancel : cancel.resultId = none) (hfresh : id ∉ s.goals.commandIds) :
    Settles id s.goals (s.askToStop answers id kind cancel).2
      (s.askToStop answers id kind cancel).1.goals := by
  have hsent : Settles id s.goals [cancel] s.goals :=
    settles_of_still (by simp [resultIds, hcancel]) rfl (fun _ _ h => h) hfresh
  unfold askToStop
  split
  · exact hsent.trans (settles_failStop _ _ hfresh)
  · exact settles_of_still (by simp [resultIds, hcancel]) rfl (fun _ _ h => h) hfresh

/-- The stop is reported, or waits in one place. -/
structure Accounted (id : String) (result : Executor × List ExecutorEmit) : Prop where
  count : (resultIds result.2).count id + result.1.goals.waiting.count id = 1
  unnamed : id ∉ result.1.goals.commandIds

theorem accounted_stop {s : Executor} {id : String} (hfresh : id ∉ s.goals.commandIds)
    (hwaiting : id ∉ s.goals.waiting) : Accounted id (s.stop answers id) := by
  -- After the stop was attached, whatever follows keeps its account.
  have hattached : ∀ (t : Executor) (result : Executor × List ExecutorEmit),
      t.goals.waiting.count id = 1 → Settles id t.goals result.2 result.1.goals →
      Accounted id ((result.1, ([.ack id true none] : List ExecutorEmit) ++ result.2)) := by
    intro t result hcount h
    refine ⟨?_, h.unnamed⟩
    rw [resultIds_append]
    exact (congrArg (· + _) (congrArg (List.count id) (List.nil_append _))).trans
      (h.count.trans hcount)
  have hcount : s.goals.waiting.count id = 0 := List.count_eq_zero.mpr hwaiting
  unfold stop
  simp only [andThen]
  split
  · rename_i undock hundock
    have hone : (goals { s with undockActive := some { undock with
        cancelRequested := true
        stopCommandIds := undock.stopCommandIds ++ [id] } }).waiting.count id = 1 := by
      have hcount := hcount
      simp only [Goals.waiting, goals_undock hundock, List.count_append, Option.map_some,
        Option.getD_some] at hcount
      have hstops : undock.running.stopCommandIds = undock.stopCommandIds := rfl
      rw [hstops] at hcount
      simp only [Goals.waiting, goals, Option.map_some, Option.getD_some, ActiveUndock.running,
        List.count_append, List.count_singleton_self]
      have hactive : ((s.active.map (·.running)).map (·.stopCommandIds)).getD [] =
          ((s.goals.active).map (·.stopCommandIds)).getD [] := rfl
      rw [hactive]
      omega
    have hfresh' : id ∉ (goals { s with undockActive := some { undock with
        cancelRequested := true
        stopCommandIds := undock.stopCommandIds ++ [id] } }).commandIds := by
      simpa [Goals.commandIds, goals, hundock, ActiveUndock.running] using hfresh
    split
    · exact hattached _ (_, []) hone (settles_refl hfresh')
    · exact hattached _ _ hone (settles_askToStop _ rfl hfresh')
  · rename_i active _ hactive
    have hone : (goals { s with active := some { active with
        cancelRequested := true, pathBlocked := true
        stopCommandIds := active.stopCommandIds ++ [id] } }).waiting.count id = 1 := by
      have hcount := hcount
      simp only [Goals.waiting, goals_active hactive, List.count_append, Option.map_some,
        Option.getD_some] at hcount
      have hstops : active.running.stopCommandIds = active.stopCommandIds := rfl
      rw [hstops] at hcount
      simp only [Goals.waiting, goals, Option.map_some, Option.getD_some, ActiveGoal.running,
        List.count_append, List.count_singleton_self]
      have hslot : ((s.undockActive.map (·.running)).map (·.stopCommandIds)).getD [] =
          ((s.goals.undock).map (·.stopCommandIds)).getD [] := rfl
      rw [hslot]
      omega
    have hfresh' : id ∉ (goals { s with active := some { active with
        cancelRequested := true, pathBlocked := true
        stopCommandIds := active.stopCommandIds ++ [id] } }).commandIds := by
      simpa [Goals.commandIds, goals, hactive, ActiveGoal.running] using hfresh
    generalize hattach : ({ s with active := some { active with
        cancelRequested := true, pathBlocked := true
        stopCommandIds := active.stopCommandIds ++ [id] } } : Executor) = t at hone hfresh'
    have hcleared : Settles id t.goals t.clearNavigationPath.2 t.clearNavigationPath.1.goals := by
      rw [goals_clearNavigationPath]
      exact settles_of_still (by simp [(quiet_clearNavigationPath t).results]) rfl
        (fun _ _ h => h) hfresh'
    split
    · exact hattached t (_, _) hone (hcleared.trans (settles_refl hcleared.unnamed))
    · exact hattached t (_, _) hone (hcleared.trans (settles_askToStop _ rfl hcleared.unnamed))
  · refine ⟨?_, hfresh⟩
    simp only [hcount]
    simp [resultIds, ExecutorEmit.resultId]

theorem ack_notMem_checkMapConnection (s : Executor) {cancel : Bool} {id : String} :
    .ack id true none ∉ (s.checkMapConnection answers cancel).2 := by
  unfold checkMapConnection
  split
  · exact List.not_mem_nil
  · split
    · simp only
      split
      · exact List.not_mem_nil
      · split <;> simp
    · exact List.not_mem_nil

/-- An accepted stop is carried out: it stops the map localization, or passes
    the gates. -/
theorem accounted_of_ack {s : Executor} {call : HandleCall}
    (hstop : call.request.command = .stop)
    (hack : .ack call.request.commandId true none ∈ (s.handle config answers call).2)
    (hfresh : call.request.commandId ∉ s.goals.commandIds)
    (hwaiting : call.request.commandId ∉ s.goals.waiting) :
    Accounted call.request.commandId (s.handle config answers call) := by
  have hseed := seed_of_ack config hack
  have hlog : overrideLog call = [] := by simp [overrideLog, hstop]
  have hgated : s.handle config answers call = s.gated config answers call := by
    simp [handle, hseed, hstop]
  rw [hgated] at hack ⊢
  unfold gated at hack ⊢
  simp only at hack ⊢
  split at hack
  · simp at hack
  · split at hack
    · rename_i hmap
      rw [if_pos hmap]
      unfold stopMap at hack ⊢
      have hmapped : Settles call.request.commandId s.goals (s.checkMapConnection answers true).2
          (s.checkMapConnection answers true).1.goals := by
        have h : Does (.mapConnection, answers) s (s.checkMapConnection answers true) :=
          does_checkMapConnection answers s true
        exact h.settles (by simp [ExecutorEvent.commandId?]) hfresh
      have hcount := hmapped.count
      rw [List.count_eq_zero.mpr hwaiting] at hcount
      simp only at hack ⊢
      split at hack
      · exact absurd hack (ack_notMem_checkMapConnection s)
      · rename_i hraised
        rw [if_neg hraised]
        refine ⟨?_, hmapped.unnamed⟩
        rw [resultIds_append, List.count_append]
        have hreported : (resultIds [.ack call.request.commandId true none,
            .result call.request.commandId .succeeded
              (some "Map cancellation requested; motion remains held.")]).count
              call.request.commandId = 1 := by
          simp [resultIds, ExecutorEmit.resultId]
        rw [hreported]
        show (resultIds (s.checkMapConnection answers true).2).count call.request.commandId + 1 +
          (s.checkMapConnection answers true).1.goals.waiting.count call.request.commandId = 1
        omega
    · rename_i hmap
      rw [if_neg hmap]
      split at hack
      · simp at hack
      · rename_i hgates
        have hdispatch : s.dispatch config answers call =
            s.stop answers call.request.commandId := by
          simp [dispatch, hstop]
        simp only [hlog, andThen, hdispatch, List.nil_append]
        exact accounted_stop hfresh hwaiting

/-! ### Runs -/

/-- Events that do not name the stop keep its account. -/
theorem settles_run {s : Executor} {id : String} {events : List (ExecutorEvent × ClientAnswers)}
    (hname : ∀ event ∈ events, event.1.commandId? ≠ some id) (hfresh : id ∉ s.goals.commandIds) :
    Settles id s.goals (emitted ((commandExecutor config).trace s events))
      ((commandExecutor config).run s events).goals := by
  induction events generalizing s with
  | nil => exact settles_refl hfresh
  | cons event events ih =>
    have hfirst := (step_acts config s event).settles (hname event List.mem_cons_self) hfresh
    exact hfirst.trans
      (ih (fun later hmem => hname later (List.mem_cons_of_mem _ hmem)) hfirst.unnamed)

/-- What ends a goal: its result, the terminal result of an undock, or the
    response that declines it.  Each comes once, while it is owed. -/
inductive Ends (g : Goals) : ExecutorEvent → ActionKind → Nat → Prop
  | result (owed : Nat × String) (response : Except String NavigationResult)
      (mem : owed ∈ g.navResults) :
      Ends g (.navigationResult owed.1 response) .navigation owed.1
  | undocked (owed : Nat × String) (result : UndockResult) (mem : owed ∈ g.undockResults)
      (terminal : result.status ∈ [(4 : Int), 5, 6]) :
      Ends g (.undockResult owed.1 (.ok result)) .undock owed.1
  | declined (request : UndockRequest) (mem : request ∈ g.undockRequests) :
      Ends g (.undockResponse request.request .declined) .undock request.request

/-- A goal was aborted: 6 is the status of an aborted goal. -/
def Aborts : ExecutorEvent → Prop
  | .navigationResult _ (.ok result) => result.status = 6
  | .undockResult _ (.ok result) => result.status = 6
  | _ => False

/-- The stop was taken on. -/
def Taken (s : Executor) (id : String) (stop : ExecutorEvent × ClientAnswers) : Prop :=
  IsStop id stop ∧ .ack id true none ∈ ((commandExecutor config).step s stop).2

/-- The account of the stops in a run. -/
structure AccountsForStops (events : List (ExecutorEvent × ClientAnswers)) : Prop where
  /-- An accepted stop gets at most one result. -/
  once : ∀ before stop after id, events = before ++ stop :: after →
    Taken config ((commandExecutor config).run {} before) id stop →
    (resultIds (emitted ((commandExecutor config).trace {} events))).count id ≤ 1
  /-- It has got one as soon as no goal it was attached to is left. -/
  settled : ∀ before stop during after id, events = before ++ stop :: (during ++ after) →
    Taken config ((commandExecutor config).run {} before) id stop →
    (∀ kind number, ((commandExecutor config).run {} (before ++ [stop])).goals.Waits
        kind number id →
      ¬ ((commandExecutor config).run {} (before ++ stop :: during)).goals.InSlot kind number) →
    (resultIds (emitted ((commandExecutor config).trace {} (before ++ stop :: during)))).count id
      = 1
  /-- A goal that ends leaves its slot; a replacement takes the slot itself. -/
  ended : ∀ before response after kind number, events = before ++ response :: after →
    Ends ((commandExecutor config).run {} before).goals response.1 kind number →
    ¬ ((commandExecutor config).run {} (before ++ [response])).goals.InSlot kind number
  /-- Nobody is told of a success because a goal was aborted. -/
  aborted : ∀ before response after, events = before ++ response :: after →
    Aborts response.1 → ∀ id detail code message,
    .result id .succeeded detail code message ∉
      ((commandExecutor config).step ((commandExecutor config).run {} before) response).2

theorem stopResult_failed (outcome : Outcome) (h : outcome ≠ .succeeded)
    (h' : outcome ≠ .canceled) : (stopResult outcome).1 = .failed := by
  cases outcome <;> simp_all [stopResult]

/-- The results of a goal that failed. -/
theorem no_success_of_failed {stops : List String} {closing : ExecutorEmit}
    {outcome : Outcome} (hne : outcome ≠ .succeeded) (hne' : outcome ≠ .canceled)
    (hclosing : ∀ id detail code message,
      closing ≠ .result id .succeeded detail code message)
    (id : String) (detail : Option String) (code : Option Int) (message : Option String) :
    .result id .succeeded detail code message ∉ closing :: stops.map fun stop =>
      ExecutorEmit.result stop (stopResult outcome).1 (some (stopResult outcome).2) := by
  intro hmem
  rcases List.mem_cons.mp hmem with heq | hmem
  · exact hclosing _ _ _ _ heq.symm
  · obtain ⟨stop, -, heq⟩ := List.mem_map.mp hmem
    rw [stopResult_failed outcome hne hne'] at heq
    cases heq

theorem undockVerdict_aborted {result : UndockResult} (h : result.status = 6) :
    (undockVerdict result).1 ≠ .succeeded ∧ (undockVerdict result).1 ≠ .canceled := by
  have hfailed : mapGoalStatus result.status = .failed := by simp [mapGoalStatus, h]
  unfold undockVerdict
  simp only [hfailed]
  split
  · simp
  · rename_i hconsistent
    rw [not_or, not_and_or] at hconsistent
    rcases hconsistent.1 with hother | hsame
    · simpa using hother
    · simp [not_not.mp hsame]

/-- **Step lemma.**  The result of an aborted goal reports no success. -/
theorem no_success_of_aborts {s : Executor} {response : ExecutorEvent × ClientAnswers}
    (haborts : Aborts response.1) (id : String) (detail : Option String) (code : Option Int)
    (message : Option String) :
    .result id .succeeded detail code message ∉ (s.step config response).2 := by
  obtain ⟨event, answers⟩ := response
  unfold Aborts at haborts
  split at haborts
  · rename_i number result heq
    obtain rfl : event = .navigationResult number (.ok result) := heq
    simp only [step]
    split
    · exact List.not_mem_nil
    · unfold onResult
      split
      · exact List.not_mem_nil
      · split
        · exact List.not_mem_nil
        · have hfailed : mapGoalStatus result.status = .failed := by simp [mapGoalStatus, haborts]
          intro hmem
          rcases List.mem_append.mp hmem with hmem | hmem
          · have h : id ∈ resultIds _ := List.mem_filterMap.mpr ⟨_, hmem, rfl⟩
            rw [(quiet_clearNavigationPath _).results] at h
            exact List.not_mem_nil h
          · simp only [hfailed] at hmem
            exact no_success_of_failed (by simp) (by simp) (by simp) id detail code message hmem
  · rename_i number result heq
    obtain rfl : event = .undockResult number (.ok result) := heq
    obtain ⟨hne, hne'⟩ := undockVerdict_aborted haborts
    simp only [step]
    split
    · exact List.not_mem_nil
    · unfold onUndockResult
      split
      · exact List.not_mem_nil
      · split
        · exact List.not_mem_nil
        · have hterminal : ¬ result.status ∉ [(4 : Int), 5, 6] := by simp [haborts]
          simp only [if_neg hterminal]
          refine no_success_of_failed hne hne' ?_ id detail code message
          intro id' detail' code' message' heq
          exact hne (ExecutorEmit.result.inj heq).2.1
  · exact haborts.elim

/-- **Step lemma.**  A goal that ends leaves its slot. -/
theorem not_inSlot_of_ends {s : Executor} {response : ExecutorEvent × ClientAnswers}
    {kind : ActionKind} {number : Nat} (hnamed : s.goals.Named)
    (hledger : UndockLedger s.goals.undock s.goals.undockRequests s.goals.undockResults)
    (h : Ends s.goals response.1 kind number) :
    ¬ (s.step config response).1.goals.InSlot kind number := by
  obtain ⟨event, answers⟩ := response
  generalize hevent : (event, answers).1 = event' at h
  obtain rfl : event = event' := hevent
  cases h with
  | result owed response mem =>
    obtain ⟨found, hfind⟩ : ∃ found, s.navResults.find? (·.1 = owed.1) = some found :=
      Option.isSome_iff_exists.mp (List.find?_isSome.mpr ⟨owed, mem, by simp⟩)
    have hnumber : found.1 = owed.1 := by simpa using List.find?_some hfind
    simp only [step, hfind]
    unfold onResult
    split
    · rename_i hactive
      rintro ⟨active, hslot, -⟩
      obtain ⟨active', hactive', -⟩ := Option.map_eq_some_iff.mp hslot
      exact absurd (hactive.symm.trans hactive') (by simp)
    · rename_i active hactive
      split
      · rename_i hother
        rintro ⟨running, hslot, hrequest⟩
        obtain ⟨active', hactive', rfl⟩ := Option.map_eq_some_iff.mp hslot
        obtain rfl := Option.some.inj (hactive.symm.trans hactive')
        refine hother ?_
        have hactive : s.active = some active := hactive
        have hmine : (active.request, active.commandId) ∈ s.goals.destinations :=
          List.mem_append_right _ (by simp [goals, hactive, ActiveGoal.running])
        have hfound : found ∈ s.goals.destinations :=
          List.mem_append_left _ (List.mem_append_right _ (List.mem_of_find?_eq_some hfind))
        exact hnamed.command _ hmine _ hfound (hrequest.trans hnumber.symm)
      · rintro ⟨active', hslot, -⟩
        cases hslot
  | undocked owed result mem terminal =>
    obtain ⟨found, hfind⟩ : ∃ found, s.undockResults.find? (·.1 = owed.1) = some found :=
      Option.isSome_iff_exists.mp (List.find?_isSome.mpr ⟨owed, mem, by simp⟩)
    simp only [step, hfind]
    unfold onUndockResult
    split
    · rename_i hundock
      rintro ⟨undock, hslot, -⟩
      obtain ⟨undock', hundock', -⟩ := Option.map_eq_some_iff.mp hslot
      exact absurd (hundock.symm.trans hundock') (by simp)
    · rename_i undock hundock
      have hundock : s.undockActive = some undock := hundock
      have hmine : found.2 = undock.commandId := by
        rw [goals_undock hundock] at hledger
        have hfound : found ∈ s.goals.undockResults := List.mem_of_find?_eq_some hfind
        generalize s.goals.undockResults = results at hledger hfound
        generalize s.goals.undockRequests = requests at hledger
        cases hledger with
        | runs =>
          rw [List.mem_singleton.mp hfound]
          rfl
        | _ => exact absurd hfound List.not_mem_nil
      have hsame : ¬ undock.commandId ≠ found.2 := not_not.mpr hmine.symm
      have hterminal : ¬ result.status ∉ [(4 : Int), 5, 6] := not_not.mpr terminal
      rw [if_neg hsame]
      simp only [if_neg hterminal]
      rintro ⟨undock', hslot, -⟩
      cases hslot
  | declined request mem =>
    obtain ⟨found, hfind⟩ : ∃ found, s.undockRequests.find? (·.request = request.request) =
        some found := Option.isSome_iff_exists.mp (List.find?_isSome.mpr ⟨request, mem, by simp⟩)
    have hfound := List.mem_of_find?_eq_some hfind
    simp only [step, onUndockEvent, hfind, onUndockResponse]
    cases hslot : s.undockActive.filter fun undock => undock.commandId = found.commandId with
    | none =>
      rintro ⟨running, hrunning, -⟩
      obtain ⟨undock, hundock, rfl⟩ := Option.map_eq_some_iff.mp hrunning
      have hundock : s.undockActive = some undock := hundock
      rw [goals_undock hundock] at hledger
      have hfound : found ∈ s.goals.undockRequests := hfound
      have hsame : found.commandId = undock.commandId := by
        generalize s.goals.undockResults = results at hledger
        generalize s.goals.undockRequests = requests at hledger hfound
        cases hledger with
        | asked _ asked _ _ same =>
          rw [List.mem_singleton.mp hfound]
          exact same
        | _ => exact absurd hfound List.not_mem_nil
      simp [hundock, hsame] at hslot
    | some undock =>
      rintro ⟨undock', hslot', -⟩
      cases hslot'

/-- With distinct ids, the events around a stop do not name it. -/
theorem unnamed_of_nodup {before after : List (ExecutorEvent × ClientAnswers)}
    {stop : ExecutorEvent × ClientAnswers} {id : String} (hstop : IsStop id stop)
    (hnodup : ((before ++ stop :: after).filterMap (·.1.commandId?)).Nodup) :
    (∀ event ∈ before, event.1.commandId? ≠ some id) ∧
      ∀ event ∈ after, event.1.commandId? ≠ some id := by
  have hname : stop.1.commandId? = some id := by
    obtain ⟨call, answers, rfl, hcommand, rfl⟩ := hstop
    exact commandId?_handle (by simp [hcommand]) (by simp [hcommand])
  have hcons : (stop :: after).filterMap (·.1.commandId?) =
      id :: after.filterMap (·.1.commandId?) := List.filterMap_cons_some hname
  rw [List.filterMap_append, hcons, List.nodup_append] at hnodup
  obtain ⟨-, hafter, hdisjoint⟩ := hnodup
  constructor
  · intro event hmem heq
    exact hdisjoint id (List.mem_filterMap.mpr ⟨event, hmem, heq⟩) id List.mem_cons_self rfl
  · intro event hmem heq
    exact (List.nodup_cons.mp hafter).1 (List.mem_filterMap.mpr ⟨event, hmem, heq⟩)

/-- **Run lemma.**  From its acceptance on a stop has its result or waits for
    the goal it was attached to. -/
theorem accounted_run {before during : List (ExecutorEvent × ClientAnswers)}
    {stop : ExecutorEvent × ClientAnswers} {id : String}
    (htaken : Taken config ((commandExecutor config).run {} before) id stop)
    (hbefore : ∀ event ∈ before, event.1.commandId? ≠ some id)
    (hduring : ∀ event ∈ during, event.1.commandId? ≠ some id) :
    (resultIds (emitted ((commandExecutor config).trace {} (before ++ stop :: during)))).count id +
        ((commandExecutor config).run {} (before ++ stop :: during)).goals.waiting.count id = 1 ∧
      ∀ kind number,
        ((commandExecutor config).run {} (before ++ stop :: during)).goals.Waits kind number id →
        ((commandExecutor config).run {} (before ++ [stop])).goals.Waits kind number id := by
  obtain ⟨⟨call, answers, rfl, hcommand, rfl⟩, hack⟩ := htaken
  have hfirst := settles_run config (s := {}) hbefore (by simp [Goals.commandIds, goals])
  have hempty : (({} : Executor).goals.waiting).count call.request.commandId = 0 := by
    simp [Goals.waiting, goals]
  have hcount := hfirst.count
  rw [hempty] at hcount
  have hwaiting := List.count_eq_zero.mp (by omega :
    ((commandExecutor config).run {} before).goals.waiting.count call.request.commandId = 0)
  have hstep := accounted_of_ack config hcommand hack hfirst.unnamed hwaiting
  have hlater := settles_run config hduring hstep.unnamed
  have hlast := hlater.count
  have hone := hstep.count
  constructor
  · rw [Machine.trace_append, Machine.trace_cons, Machine.run_append, Machine.run_cons, emitted,
      List.flatMap_append, List.flatMap_cons, resultIds_append, resultIds_append,
      List.count_append, List.count_append]
    simp only [emitted, commandExecutor, step] at hcount hlast hone ⊢
    omega
  · intro kind number hwaits
    rw [Machine.run_append, Machine.run_cons] at hwaits
    rw [Machine.run_append, Machine.run_cons, Machine.run_nil]
    exact hlater.waits kind number hwaits

/-- **Stop accounting.**  With distinct command ids, in every run, every accepted
    stop gets at most one result, and has it when its goal is gone; and a goal
    that is aborted makes no success. -/
theorem accountsForStops_run (events : List (ExecutorEvent × ClientAnswers))
    (hnodup : (events.filterMap (·.1.commandId?)).Nodup) : AccountsForStops config events := by
  constructor
  · rintro before stop after id rfl htaken
    obtain ⟨hbefore, hafter⟩ := unnamed_of_nodup htaken.1 hnodup
    have h := (accounted_run config htaken hbefore hafter).1
    omega
  · rintro before stop during after id rfl htaken hgone
    obtain ⟨hbefore, hafter⟩ := unnamed_of_nodup htaken.1 hnodup
    obtain ⟨hcount, hwaits⟩ := accounted_run config htaken hbefore
      fun event hmem => hafter event (List.mem_append_left _ hmem)
    have hnone : id ∉
        ((commandExecutor config).run {} (before ++ stop :: during)).goals.waiting := by
      intro hmem
      obtain ⟨kind, number, hlast⟩ := Goals.mem_waiting.mp hmem
      exact hgone kind number (hwaits kind number hlast) hlast.inSlot
    rw [List.count_eq_zero.mpr hnone] at hcount
    exact hcount
  · rintro before response after kind number rfl hends
    rw [Machine.run_append, Machine.run_cons, Machine.run_nil]
    exact not_inSlot_of_ends config (named_run config before) (undockLedger_run config before)
      hends
  · rintro before response after rfl haborts id detail code message
    exact no_success_of_aborts config haborts id detail code message

/-- Two stops of a destination that is then canceled. -/
theorem accountsForStops_of_canceled : AccountsForStops fullRobot
    [readyFrame "go" .navigateToPose, (.goalResponse 0 .accepted, allReady),
      readyFrame "halt" .stop, readyFrame "again" .stop,
      (.navigationResult 0 (.ok ⟨5, none, ""⟩), allReady)] :=
  accountsForStops_run fullRobot _ (by decide)

end Executor

end PatrolBot
