import PatrolBot.ExecutorBarrier

/-!
# What an event does to the path of the goal

Whether the path of a goal is shown as valid rests on flags of the active goal.
`Follows` says what a method can do to them: a block is never lifted, and a goal
that is asked to cancel is blocked.  Valid paths come from a path reply or a
feedback alone, and are of an unblocked goal.  `step_follows` is all the results
about paths read of a step.
-/

namespace PatrolBot

/-! ### What is shown -/

/-- The command a frame shows a valid path for. -/
def ExecutorEmit.shows : ExecutorEmit → Option String
  | .progress commandId _ _ pathValid _ => if pathValid then some commandId else none
  | .path frame => if frame.pathValid then some frame.commandId else none
  | _ => none

def shown (emits : List ExecutorEmit) : List String := emits.filterMap (·.shows)

@[simp] theorem shown_nil : shown [] = [] := rfl

@[simp] theorem shown_append (emits more : List ExecutorEmit) :
    shown (emits ++ more) = shown emits ++ shown more := List.filterMap_append

theorem shown_stops (stops : List String) (outcome : Outcome) (detail : Option String) :
    shown (stops.map fun stop => .result stop outcome detail) = [] := by
  induction stops with
  | nil => rfl
  | cons stop stops ih => exact ih

/-! ### The flags of the active goal -/

/-- A blocked goal has no valid path. -/
def ActiveGoal.Guarded (active : ActiveGoal) : Prop :=
  active.pathBlocked = true → active.pathValid = false

/-- `after` is the same goal later on. -/
structure ActiveGoal.Continues (before after : ActiveGoal) : Prop where
  commandId : after.commandId = before.commandId
  request : after.request = before.request
  blocked : before.pathBlocked = true → after.pathBlocked = true
  guarded : before.Guarded → after.Guarded

theorem ActiveGoal.Continues.refl (active : ActiveGoal) : active.Continues active :=
  ⟨rfl, rfl, id, id⟩

theorem ActiveGoal.Continues.trans {before middle after : ActiveGoal}
    (h : before.Continues middle) (h' : middle.Continues after) : before.Continues after where
  commandId := h'.commandId.trans h.commandId
  request := h'.request.trans h.request
  blocked := fun hblocked => h'.blocked (h.blocked hblocked)
  guarded := fun hguarded => h'.guarded (h.guarded hguarded)

/-- The path is cleared, and the goal possibly blocked. -/
theorem ActiveGoal.continues_of_invalid {before after : ActiveGoal}
    (commandId : after.commandId = before.commandId) (request : after.request = before.request)
    (blocked : before.pathBlocked = true → after.pathBlocked = true)
    (invalid : after.pathValid = false) : before.Continues after :=
  ⟨commandId, request, blocked, fun _ _ => invalid⟩

namespace Executor

variable (config : ExecutorConfig) (answers : ClientAnswers)

/-- What a method makes of the goal in `slot`, apart from a path reply and a
    feedback: it shows no valid path, and leaves a goal it asks to cancel blocked. -/
structure Follows (slot : Option ActiveGoal) (result : Executor × List ExecutorEmit) : Prop where
  goal : ∀ after, result.1.active = some after →
    ∃ before, slot = some before ∧ before.Continues after
  dark : shown result.2 = []
  halted : ∀ request, (.navigation, request) ∈ cancels result.2 →
    ∀ after, result.1.active = some after → after.request = request → after.pathBlocked = true

theorem Follows.andThen {slot : Option ActiveGoal} {result : Executor × List ExecutorEmit}
    {method : Executor → Executor × List ExecutorEmit} (first : Follows slot result)
    (second : Follows result.1.active (method result.1)) :
    Follows slot (Executor.andThen result method) where
  goal := by
    intro after hafter
    obtain ⟨middle, hmiddle, hrest⟩ := second.goal after hafter
    obtain ⟨before, hbefore, hfirst⟩ := first.goal middle hmiddle
    exact ⟨before, hbefore, hfirst.trans hrest⟩
  dark := by rw [andThen_snd, shown_append, first.dark, second.dark, List.append_nil]
  halted := by
    intro request hmem after hafter hrequest
    rw [andThen_snd, cancels_append, List.mem_append] at hmem
    rcases hmem with hmem | hmem
    · obtain ⟨middle, hmiddle, hrest⟩ := second.goal after hafter
      exact hrest.blocked (first.halted request hmem middle hmiddle (hrest.request ▸ hrequest))
    · exact second.halted request hmem after hafter hrequest

/-- The slot is left alone, and no navigation goal is asked to cancel. -/
structure Aside (slot : Option ActiveGoal) (result : Executor × List ExecutorEmit) : Prop where
  active : result.1.active = slot
  dark : shown result.2 = []
  silent : ∀ request, (.navigation, request) ∉ cancels result.2

theorem Aside.follows {slot : Option ActiveGoal} {result : Executor × List ExecutorEmit}
    (h : Aside slot result) : Follows slot result where
  goal := fun after hafter => ⟨after, h.active.symm.trans hafter, .refl after⟩
  dark := h.dark
  halted := fun request hmem => absurd hmem (h.silent request)

theorem Aside.andThen {slot : Option ActiveGoal} {result : Executor × List ExecutorEmit}
    {method : Executor → Executor × List ExecutorEmit} (first : Aside slot result)
    (second : Aside result.1.active (method result.1)) :
    Aside slot (Executor.andThen result method) where
  active := second.active.trans first.active
  dark := by rw [andThen_snd, shown_append, first.dark, second.dark, List.append_nil]
  silent := by
    intro request hmem
    rw [andThen_snd, cancels_append, List.mem_append] at hmem
    exact hmem.elim (first.silent request) (second.silent request)

theorem aside_quiet {slot : Option ActiveGoal} {result : Executor × List ExecutorEmit}
    (hactive : result.1.active = slot) (hdark : shown result.2 = [])
    (hsilent : cancels result.2 = []) : Aside slot result :=
  ⟨hactive, hdark, fun request hmem => by simp [hsilent] at hmem⟩

/-- Requests to the other servers. -/
theorem aside_other {slot : Option ActiveGoal} {result : Executor × List ExecutorEmit}
    (hactive : result.1.active = slot) (hdark : shown result.2 = [])
    (hother : ∀ emit ∈ result.2, ∀ request, emit.canceled ≠ some (.navigation, request)) :
    Aside slot result := by
  refine ⟨hactive, hdark, fun request hmem => ?_⟩
  obtain ⟨emit, hemit, hcanceled⟩ := List.mem_filterMap.mp hmem
  exact hother emit hemit request hcanceled

theorem aside_nil (s : Executor) : Aside s.active (s, []) := aside_quiet rfl rfl rfl

/-! ### Methods that leave the goal alone -/

theorem aside_checkMapConnection (s : Executor) (cancel : Bool) :
    Aside s.active (s.checkMapConnection answers cancel) := by
  unfold checkMapConnection
  split
  · exact aside_nil s
  · split
    · simp only
      split
      · exact aside_quiet rfl rfl rfl
      · split
        · exact aside_other rfl rfl (by simp [ExecutorEmit.canceled])
        · exact aside_other rfl rfl (by simp [ExecutorEmit.canceled])
    · exact aside_nil s

theorem aside_callDockService (s : Executor) (commandId : String) (service : DockService) :
    Aside s.active (s.callDockService config answers commandId service) := by
  unfold callDockService
  split
  · exact aside_quiet rfl rfl rfl
  · split
    · exact aside_quiet rfl rfl rfl
    · split
      · exact aside_quiet rfl rfl rfl
      · split
        · exact aside_quiet rfl rfl rfl
        · exact aside_quiet rfl rfl rfl

theorem aside_onUndockFeedback (s : Executor) (commandId state hardwarePhase : String) :
    Aside s.active (s.onUndockFeedback answers commandId state hardwarePhase) := by
  unfold onUndockFeedback
  split
  · exact aside_nil s
  · split
    · exact aside_nil s
    · split
      · exact aside_nil s
      · exact aside_quiet rfl rfl rfl

theorem aside_undock (s : Executor) (commandId : String) (operatorAuthorized : Bool) :
    Aside s.active (s.undock config answers commandId operatorAuthorized) := by
  unfold undock
  split
  · exact aside_quiet rfl rfl rfl
  · simp only
    split
    · exact aside_quiet rfl rfl rfl
    · exact aside_quiet rfl rfl rfl

theorem aside_setInitialPose (s : Executor) (commandId : String) (goal : Goal)
    (operatorAuthorized measured : Bool) :
    Aside s.active (s.setInitialPose answers commandId goal operatorAuthorized measured) := by
  unfold setInitialPose
  split
  · exact aside_quiet rfl rfl rfl
  · split
    · exact aside_quiet rfl rfl rfl
    · simp only
      split
      · exact aside_quiet rfl rfl rfl
      · exact aside_quiet rfl rfl rfl

theorem aside_onMapFeedback (s : Executor) (requestId stage : String) :
    Aside s.active (s.onMapFeedback requestId stage) := by
  unfold onMapFeedback
  split
  · exact aside_nil s
  · split
    · exact aside_quiet rfl rfl rfl
    · exact aside_nil s

theorem aside_onMapResponse (s : Executor) (request : Nat) (response : GoalResponse) :
    Aside s.active (s.onMapResponse answers request response) := by
  unfold onMapResponse
  split
  · exact aside_nil s
  · split
    · exact aside_nil s
    · split
      · exact aside_quiet rfl rfl rfl
      · exact aside_quiet rfl rfl rfl
      · simp only
        apply Aside.andThen
        · exact aside_quiet rfl rfl rfl
        · split
          · exact aside_quiet rfl rfl rfl
          · split
            · exact aside_quiet rfl rfl rfl
            · split
              · exact aside_other rfl rfl (by simp [ExecutorEmit.canceled])
              · exact aside_other rfl rfl (by simp [ExecutorEmit.canceled])

theorem aside_onMapResult (s : Executor) (request : Nat) (response : Except String MapResult) :
    Aside s.active (s.onMapResult request response) := by
  unfold onMapResult
  split
  · exact aside_nil s
  · split
    · exact aside_nil s
    · simp only
      split
      · exact aside_quiet rfl rfl rfl
      · split
        · exact aside_quiet rfl rfl rfl
        · exact aside_quiet rfl rfl rfl

theorem aside_onDockServiceResult (s : Executor) (service : DockService) (commandId : String)
    (response : Except String ServiceResponse) :
    Aside s.active (s.onDockServiceResult service commandId response) := by
  unfold onDockServiceResult
  split
  · exact aside_quiet rfl rfl rfl
  · split
    · exact aside_quiet rfl rfl rfl
    · split
      · exact aside_quiet rfl rfl rfl
      · split
        · exact aside_quiet rfl rfl rfl
        · exact aside_quiet rfl rfl rfl

theorem aside_motorEnable (s : Executor) (commandId : String) :
    Aside s.active (s.motorEnable config answers commandId) := by
  unfold motorEnable
  split
  · exact aside_quiet rfl rfl rfl
  · exact aside_callDockService config answers s _ _

theorem aside_setLidarPower (s : Executor) (commandId : String) (authorized enabled : Json)
    (base : Option BaseState) (receiptAge : Option PyFloat) :
    Aside s.active
      (s.setLidarPower config answers commandId authorized enabled base receiptAge) := by
  unfold setLidarPower
  split
  · split
    · exact aside_quiet rfl rfl rfl
    · split
      · exact aside_quiet rfl rfl rfl
      · split
        · exact aside_quiet rfl rfl rfl
        · simp only
          split
          · exact aside_quiet rfl rfl rfl
          · exact aside_quiet rfl rfl rfl
  · exact aside_quiet rfl rfl rfl

theorem aside_onLidarResult (s : Executor) (commandId : String)
    (response : Except String LidarResponse) :
    Aside s.active (s.onLidarResult answers commandId response) := by
  unfold onLidarResult
  split
  · exact aside_nil s
  · split
    · exact aside_quiet rfl rfl rfl
    · split
      · exact aside_quiet rfl rfl rfl
      · simp only
        split
        · exact aside_quiet rfl rfl rfl
        · split
          · exact aside_quiet rfl rfl rfl
          · exact aside_quiet rfl rfl rfl

theorem aside_dockReset (s : Executor) (call : HandleCall) :
    Aside s.active (s.dockReset config answers call) := by
  unfold dockReset
  simp only
  split
  · exact aside_quiet rfl rfl rfl
  · split
    · exact aside_quiet rfl rfl rfl
    · exact aside_callDockService config answers s _ _

theorem aside_stopMap (s : Executor) (commandId : String) :
    Aside s.active (s.stopMap answers commandId) := by
  have hmap := aside_checkMapConnection answers s true
  unfold stopMap
  simp only
  split
  · exact hmap
  · refine ⟨hmap.active, ?_, ?_⟩
    · rw [shown_append, hmap.dark]
      rfl
    · intro request hmem
      rw [cancels_append] at hmem
      exact hmap.silent request (by simpa [cancels, ExecutorEmit.canceled] using hmem)

theorem aside_cancelMapLogged (s : Executor) : Aside s.active (s.cancelMapLogged answers) := by
  have hmap := aside_checkMapConnection answers s true
  unfold cancelMapLogged
  refine ⟨hmap.active, ?_, ?_⟩
  · apply List.filterMap_eq_nil_iff.mpr
    intro emit hmem
    exact List.filterMap_eq_nil_iff.mp hmap.dark emit (List.mem_filter.mp hmem).1
  · intro request hmem
    obtain ⟨emit, hemit, hcanceled⟩ := List.mem_filterMap.mp hmem
    exact hmap.silent request
      (List.mem_filterMap.mpr ⟨emit, (List.mem_filter.mp hemit).1, hcanceled⟩)

/-! ### Methods about the goal -/

theorem follows_quiet {slot : Option ActiveGoal} {result : Executor × List ExecutorEmit}
    (hactive : result.1.active = slot) (hdark : shown result.2 = [])
    (hsilent : cancels result.2 = []) : Follows slot result :=
  (aside_quiet hactive hdark hsilent).follows

theorem Follows.of_active {slot : Option ActiveGoal} {s : Executor}
    {result : Executor × List ExecutorEmit} (h : Follows s.active result)
    (hslot : s.active = slot) : Follows slot result :=
  hslot ▸ h

theorem follows_nil (s : Executor) : Follows s.active (s, []) := (aside_nil s).follows

/-- The goal is replaced by its continuation, and no navigation goal asked to cancel. -/
theorem follows_goal {s : Executor} {before after : ActiveGoal}
    {result : Executor × List ExecutorEmit} (hbefore : s.active = some before)
    (hafter : result.1.active = some after) (hcontinues : before.Continues after)
    (hdark : shown result.2 = []) (hsilent : cancels result.2 = []) :
    Follows s.active result where
  goal := by
    intro goal hgoal
    obtain rfl := Option.some.inj (hafter.symm.trans hgoal)
    exact ⟨before, hbefore, hcontinues⟩
  dark := hdark
  halted := fun request hmem => by simp [hsilent] at hmem

@[simp] theorem shown_clearNavigationPath (s : Executor) : shown s.clearNavigationPath.2 = [] := by
  unfold clearNavigationPath
  split <;> rfl

theorem follows_clearNavigationPath (s : Executor) : Follows s.active s.clearNavigationPath := by
  cases hactive : s.active with
  | none =>
    have hcleared : s.clearNavigationPath = (s, []) := by simp [clearNavigationPath, hactive]
    rw [hcleared, ← hactive]
    exact follows_nil s
  | some active =>
    rw [← hactive]
    apply follows_goal hactive
    · rw [active_clearNavigationPath, hactive]
      rfl
    · exact ActiveGoal.continues_of_invalid rfl rfl id rfl
    · exact shown_clearNavigationPath s
    · exact (quiet_clearNavigationPath s).cancels

/-- The goal is changed and its path cleared. -/
theorem follows_cleared {s t : Executor} {active changed : ActiveGoal}
    (hactive : s.active = some active) (hchanged : t.active = some changed)
    (commandId : changed.commandId = active.commandId) (request : changed.request = active.request)
    (blocked : active.pathBlocked = true → changed.pathBlocked = true) :
    Follows s.active t.clearNavigationPath := by
  apply follows_goal hactive
  · rw [active_clearNavigationPath, hchanged]
    rfl
  · exact ActiveGoal.continues_of_invalid commandId request blocked rfl
  · exact shown_clearNavigationPath t
  · exact (quiet_clearNavigationPath t).cancels

theorem follows_pollNavigationPath (s : Executor) :
    Follows s.active (s.pollNavigationPath answers) := by
  have hask : ∀ (s : Executor) (active : ActiveGoal), Follows s.active
      (if active.pathBlocked then (s, [])
        else if answers.pathReady = false then
          if active.pathValid then s.clearNavigationPath else (s, [])
        else
          let query : PathQuery := ⟨s.nextRequest, active.request⟩
          ({ s with
              nextRequest := s.nextRequest + 1, pathSent := answers.now,
              pathFuture := some (query, false), pathQueries := query :: s.pathQueries },
            [.askPath active.request])) := by
    intro s active
    split
    · exact follows_nil s
    · split
      · split
        · exact follows_clearNavigationPath s
        · exact follows_nil s
      · exact follows_quiet rfl rfl rfl
  unfold pollNavigationPath
  simp only
  split
  · split
    · exact follows_nil s
    · rename_i query _ _
      have hcleared := follows_clearNavigationPath
        { s with pathFuture := none, pathQueries := s.pathQueries.erase query }
      apply Follows.andThen hcleared
      split
      · exact follows_nil _
      · exact hask _ _
  · split
    · exact follows_nil s
    · exact hask s _

theorem follows_updateNavigationContext (s : Executor) (base : BaseState) :
    Follows s.active (s.updateNavigationContext base) := by
  unfold updateNavigationContext
  split
  · exact follows_nil s
  · simp only
    split
    · exact follows_quiet rfl rfl rfl
    · rename_i active hactive
      exact follows_cleared hactive rfl rfl rfl (fun _ => rfl)

theorem follows_onNavigationCancelResponse (s : Executor) (request : Nat)
    (response : Except String CancelResponse) :
    Follows s.active (s.onNavigationCancelResponse request response) := by
  unfold onNavigationCancelResponse
  split
  · exact follows_nil s
  · rename_i active hactive
    have hunconfirmed : active.Continues { active with cancelPending := false } :=
      ⟨rfl, rfl, id, id⟩
    split
    · exact follows_nil s
    · simp only
      split
      · split
        · exact follows_goal hactive rfl hunconfirmed rfl rfl
        · exact follows_nil s
      · exact follows_goal hactive rfl hunconfirmed rfl rfl

theorem follows_onResult (s : Executor) (commandId : String)
    (response : Except String NavigationResult) :
    Follows s.active (s.onResult commandId response) := by
  unfold onResult
  split
  · exact follows_nil s
  · rename_i active hactive
    split
    · exact follows_nil s
    · refine ⟨fun after hafter => by simp at hafter, ?_, ?_⟩
      · cases response with
        | ok result =>
          simp only [shown_append, shown_clearNavigationPath, List.nil_append]
          exact shown_stops _ _ _
        | error error =>
          simp only [shown_append, shown_clearNavigationPath, List.nil_append]
          exact shown_stops _ _ _
      · intro _ _ after hafter
        simp at hafter

/-- The navigation half of `_cancel_navigation`. -/
theorem follows_cancelActive {s t : Executor} {active : ActiveGoal} (commandId : String)
    (hactive : s.active = some active)
    (ht : t.active = some { active with
      cancelRequested := true, cancelPending := true, pathBlocked := true }) :
    Follows s.active
      (let cleared := t.clearNavigationPath
        let told : List ExecutorEmit := cleared.2 ++ [.progress commandId "stopping"
          (some "Waiting for navigation to stop.") false none, .cancelNavigation active.request]
        if answers.cancelRaises .navigation then
          Executor.andThen (cleared.1, told)
            fun s => s.onNavigationCancelResponse active.request (.error answers.error)
        else
          ({ cleared.1 with
              cancelReplies := .navigation active.request :: cleared.1.cancelReplies }, told)) := by
  have hcleared : t.clearNavigationPath.1.active = some { active with
      cancelRequested := true, cancelPending := true
      pathBlocked := true, pathValid := false } := by
    rw [active_clearNavigationPath, ht]
    rfl
  have htold : ∀ u : Executor, u.active = t.clearNavigationPath.1.active →
      Follows s.active (u, t.clearNavigationPath.2 ++ [
        .progress commandId "stopping" (some "Waiting for navigation to stop.") false none,
        .cancelNavigation active.request]) := by
    intro u hu
    rw [hcleared] at hu
    refine ⟨?_, ?_, ?_⟩
    · intro after hafter
      obtain rfl := Option.some.inj (hu.symm.trans hafter)
      exact ⟨active, hactive, ActiveGoal.continues_of_invalid rfl rfl (fun _ => rfl) rfl⟩
    · rw [shown_append, shown_clearNavigationPath]
      rfl
    · intro request _ after hafter _
      obtain rfl := Option.some.inj (hu.symm.trans hafter)
      rfl
  simp only
  split
  · apply (htold _ rfl).andThen
    exact follows_onNavigationCancelResponse _ _ _
  · exact htold _ rfl

/-- The branch of `cancelNavigation` that asks navigation to stop. -/
def cancelPendingNavigation (s : Executor) (commandId : String) : Executor × List ExecutorEmit :=
  match s.active with
  | none => (s, [])
  | some active =>
    if active.commandId ≠ commandId ∨ active.cancelRequested then (s, [])
    else
      let cleared := clearNavigationPath { s with active := some { active with
        cancelRequested := true, cancelPending := true, pathBlocked := true } }
      let told : List ExecutorEmit := cleared.2 ++ [.progress commandId "stopping"
        (some "Waiting for navigation to stop.") false none, .cancelNavigation active.request]
      if answers.cancelRaises .navigation then
        andThen (cleared.1, told)
          fun s => s.onNavigationCancelResponse active.request (.error answers.error)
      else
        ({ cleared.1 with
            cancelReplies := .navigation active.request :: cleared.1.cancelReplies }, told)

theorem follows_cancelPendingNavigation (s : Executor) (commandId : String) :
    Follows s.active (s.cancelPendingNavigation answers commandId) := by
  unfold cancelPendingNavigation
  split
  · exact follows_quiet rfl rfl rfl
  · rename_i active hactive
    split
    · exact follows_quiet rfl rfl rfl
    · exact follows_cancelActive answers commandId hactive rfl

theorem follows_cancelNavigation (s : Executor) (commandId : String) :
    Follows s.active (s.cancelNavigation answers commandId) := by
  have hnavigation : Follows s.active
      ((s.markPending commandId).cancelPendingNavigation answers commandId) :=
    follows_cancelPendingNavigation answers (s.markPending commandId) commandId
  unfold cancelNavigation
  simp only
  split
  · split
    · split
      · exact follows_nil s
      · split
        · exact follows_quiet rfl rfl rfl
        · split
          · exact Aside.follows (aside_other rfl rfl (by simp [ExecutorEmit.canceled]))
          · exact Aside.follows (aside_other rfl rfl (by simp [ExecutorEmit.canceled]))
    · exact hnavigation
  · exact hnavigation

theorem follows_of_claimStop {s claimed : Executor} {commandId : String}
    {emits : List ExecutorEmit} (h : s.claimStop commandId = some claimed)
    (hdark : shown emits = []) (hsilent : cancels emits = []) :
    Follows s.active (claimed, emits) := by
  unfold claimStop at h
  split at h
  · rename_i active undock hactive
    split at h
    · obtain rfl := Option.some.inj h
      exact follows_goal hactive rfl ⟨rfl, rfl, id, id⟩ hdark hsilent
    · obtain ⟨undock', hundock, h⟩ := Option.bind_eq_some_iff.mp h
      split at h
      · obtain rfl := Option.some.inj h
        exact follows_quiet rfl hdark hsilent
      · simp at h
  · split at h
    · obtain rfl := Option.some.inj h
      exact follows_quiet rfl hdark hsilent
    · simp at h
  · simp at h

theorem follows_failStop (s : Executor) (commandId detail : String) :
    Follows s.active (s.failStop commandId detail) := by
  unfold failStop
  split
  · exact follows_nil s
  · rename_i claimed hclaimed
    exact follows_of_claimStop hclaimed rfl rfl

theorem follows_onCancelResponse (s : Executor) (commandId : String)
    (response : Except String CancelResponse) :
    Follows s.active (s.onCancelResponse commandId response) := by
  unfold onCancelResponse
  split
  · exact follows_failStop s _ _
  · split
    · exact follows_nil s
    · split
      · rename_i claimed hclaimed
        exact follows_of_claimStop hclaimed rfl rfl
      · exact follows_nil s
    · exact follows_failStop s _ _

/-- The cancel that `_stop` asks for is of a blocked goal, or of an undock. -/
theorem follows_askToStop (s : Executor) (commandId : String) (kind : ActionKind)
    {cancel : ExecutorEmit} (hdark : cancel.shows = none)
    (hblocked : ∀ request, cancel.canceled = some (.navigation, request) →
      ∀ active, s.active = some active → active.pathBlocked = true) :
    Follows s.active (s.askToStop answers commandId kind cancel) := by
  have hasked : ∀ t : Executor, t.active = s.active → Follows s.active (t, [cancel]) := by
    intro t ht
    refine ⟨fun after hafter => ⟨after, ht.symm.trans hafter, .refl after⟩, ?_, ?_⟩
    · simp [shown, hdark]
    · intro request hmem after hafter _
      obtain ⟨emit, hemit, hcanceled⟩ := List.mem_filterMap.mp hmem
      obtain rfl := List.mem_singleton.mp hemit
      exact hblocked request hcanceled after (ht.symm.trans hafter)
  unfold askToStop
  split
  · apply (hasked s rfl).andThen
    exact follows_failStop _ _ _
  · exact hasked _ rfl

theorem follows_stop (s : Executor) (commandId : String) :
    Follows s.active (s.stop answers commandId) := by
  unfold stop
  apply Follows.andThen
  · exact follows_quiet rfl rfl rfl
  · split
    · rename_i undock _
      simp only
      split
      · exact follows_quiet rfl rfl rfl
      · exact (follows_askToStop answers
          { s with undockActive := some { undock with
            cancelRequested := true, stopCommandIds := undock.stopCommandIds ++ [commandId] } }
          _ _ rfl (fun _ h => by simp [ExecutorEmit.canceled] at h))
    · rename_i active _ hactive
      apply Follows.andThen
      · exact follows_cleared hactive rfl rfl rfl (fun _ => rfl)
      · split
        · exact follows_nil _
        · apply follows_askToStop
          · rfl
          · intro request _ goal hgoal
            rw [active_clearNavigationPath] at hgoal
            obtain rfl := Option.some.inj hgoal
            rfl
    · exact follows_quiet rfl rfl rfl

theorem follows_navigate (s : Executor) (commandId : String) (goal : Goal)
    (currentYaw : Option PyFloat) :
    Follows s.active (s.navigate answers commandId goal currentYaw) := by
  unfold navigate
  split
  · exact follows_quiet rfl rfl rfl
  · split
    · exact follows_quiet rfl rfl rfl
    · split
      · exact follows_quiet rfl rfl rfl
      · apply (follows_clearNavigationPath s).andThen
        simp only
        split
        · exact follows_quiet rfl rfl rfl
        · exact follows_quiet rfl rfl rfl

/-! ### Undock and motor disable -/

theorem follows_failUndock (s : Executor) (detail : String) :
    Follows s.active (s.failUndock answers detail) := by
  unfold failUndock
  split
  · exact follows_nil s
  · rename_i undock _
    split
    · exact follows_nil s
    · apply (follows_cancelNavigation answers
        { s with undockActive := some { undock with uncertain := true } } undock.commandId).andThen
      exact follows_quiet rfl rfl rfl

theorem follows_checkUndockHealth (s : Executor) :
    Follows s.active (s.checkUndockHealth config answers) := by
  unfold checkUndockHealth
  split
  · exact follows_quiet rfl rfl rfl
  · split
    · simp only
      split
      · exact follows_failUndock answers { s with undockServerMisses := s.undockServerMisses + 1 } _
      · exact follows_quiet rfl rfl rfl
    · simp only
      split
      · exact follows_failUndock answers { s with undockServerMisses := 0 } _
      · exact follows_quiet rfl rfl rfl

theorem follows_cancelAccepted (s : Executor) (undock : ActiveUndock) :
    Follows s.active (s.cancelAccepted answers undock) := by
  have hfold : ∀ (stops : List String) (result : Executor × List ExecutorEmit),
      Follows s.active result → Follows s.active (stops.foldl (fun result stop =>
        Executor.andThen result fun s =>
          s.failStop stop s!"The robot could not be asked to stop: {answers.error}.") result) := by
    intro stops
    induction stops with
    | nil => exact fun _ h => h
    | cons stop stops ih => exact fun _ h => ih _ (h.andThen (follows_failStop _ _ _))
  unfold cancelAccepted
  split
  · apply hfold
    exact Aside.follows (aside_other rfl rfl (by simp [ExecutorEmit.canceled]))
  · exact Aside.follows (aside_other rfl rfl (by simp [ExecutorEmit.canceled]))

theorem follows_onUndockResponse (s : Executor) (request : UndockRequest)
    (response : GoalResponse) :
    Follows s.active (s.onUndockResponse config answers request response) := by
  unfold onUndockResponse
  split
  · exact follows_nil s
  · exact follows_failUndock answers s _
  · split
    · exact Aside.follows (aside_other rfl rfl (by simp [ExecutorEmit.canceled]))
    · exact Aside.follows (aside_other rfl rfl (by simp [ExecutorEmit.canceled]))
  · exact follows_nil s
  · exact follows_quiet rfl (shown_stops _ _ _) (cancels_stops _ _ _)
  · simp only
    apply Follows.andThen
    · exact follows_quiet rfl rfl rfl
    · split
      · exact follows_quiet rfl rfl rfl
      · split
        · exact (follows_cancelAccepted answers _ _).of_active rfl
        · exact follows_quiet rfl rfl rfl

theorem follows_onUndockResult (s : Executor) (commandId : String)
    (response : Except String UndockResult) :
    Follows s.active (s.onUndockResult answers commandId response) := by
  unfold onUndockResult
  split
  · exact follows_nil s
  · split
    · exact follows_nil s
    · split
      · exact follows_failUndock answers s _
      · split
        · exact follows_failUndock answers s _
        · exact follows_quiet rfl (shown_stops _ _ _) (cancels_stops _ _ _)

/-- `_motor_disable` blocks the goal, and marks it unless the service call raises. -/
theorem active_motorDisable (s : Executor) (commandId : String) : ∃ marked : Bool,
    (s.motorDisable config answers commandId).1.active = s.active.map fun active =>
      { active with
        pathBlocked := true, pathValid := false
        cancelRequested := marked || active.cancelRequested } := by
  have hcalled := fun t : Executor =>
    (aside_callDockService config answers t commandId .motorDisable).active
  have hmap := fun t : Executor => (aside_cancelMapLogged answers t).active
  unfold motorDisable
  simp only [andThen_fst]
  split
  · refine ⟨false, ?_⟩
    rw [hcalled, active_clearNavigationPath, Option.map_map]
    rfl
  · refine ⟨true, ?_⟩
    simp only [andThen_fst, cancelGoals]
    rw [hmap, hcalled, active_clearNavigationPath, Option.map_map, Option.map_map]
    rfl

theorem shown_cancelGoals (s : Executor) : shown s.cancelGoals.2 = [] := by
  unfold cancelGoals
  cases s.active <;> cases s.undockActive <;> simp [shown, ExecutorEmit.shows]

theorem follows_motorDisable (s : Executor) (commandId : String) :
    Follows s.active (s.motorDisable config answers commandId) := by
  obtain ⟨marked, hafter⟩ := active_motorDisable config answers s commandId
  refine ⟨?_, ?_, ?_⟩
  · intro after h
    rw [hafter] at h
    obtain ⟨before, hbefore, rfl⟩ := Option.map_eq_some_iff.mp h
    exact ⟨before, hbefore, ActiveGoal.continues_of_invalid rfl rfl (fun _ => rfl) rfl⟩
  · have hcalled := fun t : Executor =>
      (aside_callDockService config answers t commandId .motorDisable).dark
    have hmap := fun t : Executor => (aside_cancelMapLogged answers t).dark
    unfold motorDisable
    simp only [andThen_snd, shown_append, shown_clearNavigationPath, List.nil_append]
    split
    · exact hcalled _
    · simp only [andThen_snd, shown_append, hcalled, hmap, shown_cancelGoals, List.append_nil]
  · intro _ _ after h _
    rw [hafter] at h
    obtain ⟨before, -, rfl⟩ := Option.map_eq_some_iff.mp h
    rfl

/-! ### Path replies and feedback -/

/-- What a path reply or a feedback makes of the goal: it asks for no cancel, and
    shows a valid path of an unblocked goal only. -/
structure Reports (s : Executor) (result : Executor × List ExecutorEmit) : Prop where
  goal : ∀ after, result.1.active = some after →
    ∃ before, s.active = some before ∧ before.Continues after
  shown : ∀ id ∈ shown result.2, ∃ active, s.active = some active ∧ active.commandId = id ∧
    (active.Guarded → active.pathBlocked = false)
  silent : cancels result.2 = []

theorem Follows.reports {s : Executor} {result : Executor × List ExecutorEmit}
    (h : Follows s.active result) (hsilent : cancels result.2 = []) : Reports s result where
  goal := h.goal
  shown := fun id hmem => by simp [h.dark] at hmem
  silent := hsilent

/-- `navigation_path` answers for the active goal, while it is not blocked. -/
theorem of_navigationPath {s : Executor} {active : ActiveGoal} {request : Nat} {path : NavPath}
    {valid : Bool} {frame : PathFrame} (hactive : s.active = some active)
    (h : s.navigationPath config request path = some (valid, frame)) :
    active.pathBlocked = false ∧ frame.commandId = active.commandId := by
  unfold navigationPath at h
  rw [hactive] at h
  split at h
  · rename_i goal context hgoal _
    obtain rfl := Option.some.inj hgoal
    split at h
    · simp at h
    · rename_i husable
      simp only [Option.some.injEq, Prod.mk.injEq] at h
      obtain ⟨-, rfl⟩ := h
      exact ⟨by simpa using fun hblocked => husable (.inl hblocked), rfl⟩
  · simp at h

theorem reports_onNavigationPath (s : Executor) (query : PathQuery) (reply : PathReply) :
    Reports s (s.onNavigationPath config query reply) := by
  have hclear : Reports s s.clearNavigationPath :=
    (follows_clearNavigationPath s).reports (quiet_clearNavigationPath s).cancels
  have hnil : Reports s (s, []) := (follows_nil s).reports rfl
  unfold onNavigationPath
  split
  · exact hnil
  · rename_i active hactive
    split
    · exact hnil
    · split
      · exact hclear
      · exact hclear
      · split
        · exact hnil
        · rename_i valid frame hpath
          obtain ⟨hunblocked, hid⟩ := of_navigationPath config hactive hpath
          have hcontinues : active.Continues { active with pathValid := valid } :=
            ⟨rfl, rfl, id, fun _ hblocked => by simp [hunblocked] at hblocked⟩
          have hgoal : ∀ after, some { active with pathValid := valid } = some after →
              ∃ before, s.active = some before ∧ before.Continues after := by
            intro after hafter
            obtain rfl := Option.some.inj hafter
            exact ⟨active, hactive, hcontinues⟩
          simp only
          split
          · exact ⟨hgoal, by simp, rfl⟩
          · refine ⟨hgoal, ?_, rfl⟩
            intro id hmem
            obtain ⟨emit, hemit, hshows⟩ := List.mem_filterMap.mp hmem
            obtain rfl := List.mem_singleton.mp hemit
            have hframe : frame.commandId = id := by
              simp only [ExecutorEmit.shows] at hshows
              split at hshows
              · exact Option.some.inj hshows
              · simp at hshows
            exact ⟨active, hactive, hid.symm.trans hframe, fun _ => hunblocked⟩

theorem reports_onFeedback (s : Executor) (commandId : String) (request : Nat)
    (distance : Option PyFloat) :
    Reports s (s.onFeedback answers commandId request distance) := by
  have hnil : Reports s (s, []) := (follows_nil s).reports rfl
  unfold onFeedback
  split
  · exact hnil
  · rename_i active hactive
    split
    · exact hnil
    · rename_i hsame
      split
      · exact hnil
      · refine ⟨fun after hafter => ⟨after, hafter, .refl after⟩, ?_, rfl⟩
        intro id hmem
        obtain ⟨emit, hemit, hshows⟩ := List.mem_filterMap.mp hmem
        obtain rfl := List.mem_singleton.mp hemit
        simp only [ExecutorEmit.shows] at hshows
        split at hshows
        · rename_i hvalid
          obtain rfl := Option.some.inj hshows
          have hpath : active.pathValid = true := by
            simp only [Bool.and_eq_true] at hvalid
            exact hvalid.1.2
          refine ⟨active, hactive, ?_, fun hguarded => ?_⟩
          · by_contra hne
            exact hsame (.inl hne)
          · by_contra hblocked
            simp [hguarded (by simpa using hblocked)] at hpath
        · simp at hshows

/-! ### One event -/

/-- The callback makes an accepted request the active goal. -/
def Adopts (s : Executor) (result : Executor × List ExecutorEmit) : Prop :=
  ∃ request ∈ s.navRequests, ∃ context, Follows (some
    { commandId := request.commandId, request := request.request, navigationContext := context })
    result

theorem shown_replaceActive (s : Executor) : shown s.replaceActive = [] := by
  unfold replaceActive
  split
  · rfl
  · exact shown_stops _ _ _

theorem follows_adoptGoal (s : Executor) (request : NavRequest) :
    Follows (some { commandId := request.commandId, request := request.request,
                    navigationContext := s.navigationContext })
      (s.adoptGoal answers request) := by
  unfold adoptGoal
  apply Follows.andThen
  · apply follows_quiet
    · rfl
    · rw [shown_append, shown_replaceActive]
      rfl
    · rw [cancels_append, cancels_replaceActive]
      rfl
  · apply (follows_clearNavigationPath _).andThen
    split
    · exact follows_quiet rfl rfl rfl
    · simp only
      split
      · exact (follows_cancelNavigation answers _ _).of_active rfl
      · exact follows_quiet rfl rfl rfl

/-- The goal that is turned down is not the active one. -/
theorem follows_dropGoal (s : Executor) {request : NavRequest} (reason : String)
    (hother : ∀ active, s.active = some active → active.request ≠ request.request) :
    Follows s.active (s.dropGoal answers request reason) := by
  have hdropped : ∀ emits : List ExecutorEmit, shown emits = [] →
      cancels emits = [(.navigation, request.request)] → Follows s.active (s, emits) := by
    intro emits hdark hcancels
    refine ⟨fun after hafter => ⟨after, hafter, .refl after⟩, hdark, ?_⟩
    intro number hmem after hafter hnumber
    rw [hcancels] at hmem
    obtain ⟨-, rfl⟩ := Prod.mk.inj (List.mem_singleton.mp hmem)
    exact absurd hnumber (hother after hafter)
  unfold dropGoal
  split
  · exact hdropped _ rfl rfl
  · exact hdropped _ rfl rfl

theorem active_clearPending (s : Executor) (commandId : String) :
    (s.clearPending commandId).active = s.active := by
  unfold clearPending
  split <;> rfl

theorem follows_onGoalEvent {s : Executor}
    (hother : ∀ active, s.active = some active → ∀ request ∈ s.navRequests,
      active.request ≠ request.request) (number : Nat) (response : GoalResponse) :
    Follows s.active (s.onGoalEvent answers number response) ∨
      Adopts s (s.onGoalEvent answers number response) := by
  unfold onGoalEvent
  split
  · exact .inl (follows_nil s)
  · rename_i request hfind
    have howed := List.mem_of_find?_eq_some hfind
    have hdrop := fun reason => follows_dropGoal answers
      { s with navRequests := s.navRequests.erase request } reason
      (fun active hactive => hother active hactive request howed)
    unfold onGoalResponse
    split
    · exact .inl (follows_quiet rfl rfl rfl)
    · exact .inl (follows_quiet (active_clearPending _ _) rfl rfl)
    · split
      · exact .inl (hdrop _)
      · split
        · exact .inl (hdrop _)
        · split
          · exact .inl (hdrop _)
          · exact .inr ⟨request, howed, _, follows_adoptGoal answers _ request⟩

theorem follows_dispatch (s : Executor) (call : HandleCall) :
    Follows s.active (s.dispatch config answers call) := by
  unfold dispatch
  simp only
  split
  · exact follows_navigate answers s _ _ _
  · exact follows_stop answers s _
  · exact (aside_setLidarPower config answers s _ _ _ _ _).follows
  · exact (aside_setInitialPose answers s _ _ _ _).follows
  · exact (aside_undock config answers s _ _).follows
  · exact (aside_callDockService config answers s _ _).follows
  · exact follows_quiet rfl rfl rfl
  · exact follows_nil s

theorem follows_cancelCommand (s : Executor) (commandId : String) (navigation : Bool) :
    Follows s.active (s.cancelCommand answers commandId navigation) := by
  have hmapped : Follows s.active (if s.mapActive.any (·.commandId = commandId) then
      s.checkMapConnection answers true else (s, [])) := by
    split
    · exact (aside_checkMapConnection answers s true).follows
    · exact follows_nil s
  unfold cancelCommand
  generalize (if s.mapActive.any (·.commandId = commandId) then
    s.checkMapConnection answers true else (s, [])) = mapped at hmapped ⊢
  simp only
  split
  · exact hmapped
  · exact hmapped.andThen (follows_cancelNavigation answers _ _)

theorem follows_motorPower (s : Executor) (call : HandleCall) :
    Follows s.active (s.motorPower config answers call) := by
  unfold motorPower
  simp only
  split
  · exact follows_quiet rfl rfl rfl
  · split
    · exact follows_motorDisable config answers s _
    · exact (aside_motorEnable config answers s _).follows

theorem follows_gated (s : Executor) (call : HandleCall) :
    Follows s.active (s.gated config answers call) := by
  unfold gated
  simp only
  split
  · exact follows_quiet rfl rfl rfl
  · split
    · exact (aside_stopMap answers s _).follows
    · split
      · exact follows_quiet rfl rfl rfl
      · apply Follows.andThen
        · unfold overrideLog
          split
          · exact follows_quiet rfl rfl rfl
          · exact follows_nil s
        · exact follows_dispatch config answers s call

theorem follows_handle (s : Executor) (call : HandleCall) :
    Follows s.active (s.handle config answers call) := by
  unfold handle
  simp only
  split
  · exact follows_quiet rfl rfl rfl
  · split
    · exact follows_quiet rfl rfl rfl
    · exact follows_cancelCommand answers s _ _
    · exact follows_cancelCommand answers s _ _
    · exact follows_motorPower config answers s call
    · exact follows_motorPower config answers s call
    · exact (aside_dockReset config answers s call).follows
    · exact follows_gated config answers s call

/-- **One event.**  The goal is continued or replaced by an accepted request, and
    only a path reply or a feedback shows a valid path. -/
theorem step_follows {s : Executor}
    (hother : ∀ active, s.active = some active → ∀ request ∈ s.navRequests,
      active.request ≠ request.request) (event : ExecutorEvent × ClientAnswers) :
    Follows s.active (s.step config event) ∨ Adopts s (s.step config event) ∨
      Reports s (s.step config event) := by
  have hfollows : ∀ {t : Executor} {result : Executor × List ExecutorEmit},
      Follows t.active result → t.active = s.active →
        Follows s.active result ∨ Adopts s result ∨ Reports s result :=
    fun h ht => .inl (h.of_active ht)
  obtain ⟨event, answers⟩ := event
  cases event with
  | handle call => exact hfollows (follows_handle config answers s call) rfl
  | goalResponse request response =>
    exact (follows_onGoalEvent answers hother request response).imp_right .inl
  | navigationResult request response =>
    simp only [step]
    split
    · exact hfollows (follows_nil s) rfl
    · exact hfollows (follows_onResult _ _ _) rfl
  | cancelReply reply response =>
    simp only [step, onCancelReply]
    split
    · split
      · exact hfollows (follows_onNavigationCancelResponse _ _ _) rfl
      · exact hfollows (follows_onCancelResponse _ _ _) rfl
    · exact hfollows (follows_nil s) rfl
  | navigationFeedback commandId request distance =>
    exact .inr (.inr (reports_onFeedback answers s commandId request distance))
  | undockResponse request response =>
    simp only [step, onUndockEvent]
    split
    · exact hfollows (follows_nil s) rfl
    · exact hfollows (follows_onUndockResponse config answers _ _ _) rfl
  | undockResult request response =>
    simp only [step]
    split
    · exact hfollows (follows_nil s) rfl
    · exact hfollows (follows_onUndockResult answers _ _ _) rfl
  | undockFeedback commandId state hardwarePhase =>
    exact hfollows (aside_onUndockFeedback answers s _ _ _).follows rfl
  | undockHealth => exact hfollows (follows_checkUndockHealth config answers s) rfl
  | mapResponse request response =>
    simp only [step]
    split
    · exact hfollows (aside_onMapResponse answers _ _ _).follows rfl
    · exact hfollows (follows_nil s) rfl
  | mapResult request response =>
    simp only [step]
    split
    · exact hfollows (aside_onMapResult _ _ _).follows rfl
    · exact hfollows (follows_nil s) rfl
  | mapFeedback requestId stage => exact hfollows (aside_onMapFeedback s _ _).follows rfl
  | mapConnection => exact hfollows (aside_checkMapConnection answers s false).follows rfl
  | serviceResult service commandId response =>
    simp only [step]
    split
    · exact hfollows (aside_onDockServiceResult _ _ _ _).follows rfl
    · exact hfollows (follows_nil s) rfl
  | lidarResult commandId response =>
    simp only [step]
    split
    · exact hfollows (aside_onLidarResult answers _ _ _).follows rfl
    · exact hfollows (follows_nil s) rfl
  | navigationContext base => exact hfollows (follows_updateNavigationContext s base) rfl
  | pathPoll => exact hfollows (follows_pollNavigationPath answers s) rfl
  | pathDone query => exact hfollows (follows_quiet rfl rfl rfl) rfl
  | pathReply query reply =>
    simp only [step]
    split
    · obtain ⟨hgoal, hshown, hsilent⟩ := reports_onNavigationPath config
        { s with pathQueries := s.pathQueries.erase query } query reply
      exact .inr (.inr ⟨hgoal, hshown, hsilent⟩)
    · exact hfollows (follows_nil s) rfl

end Executor

end PatrolBot
