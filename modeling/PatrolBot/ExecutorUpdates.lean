import PatrolBot.ExecutorGoals

/-!
# Every event is a chain of updates

For each method of the executor, the updates of the goals it makes.
`step_acts` puts them together: it is all the later results read of a step.
-/

namespace PatrolBot

namespace Executor

variable (config : ExecutorConfig) (answers : ClientAnswers)
  {event : ExecutorEvent × ClientAnswers}

/-- The method's result is reached by a chain of updates. -/
abbrev Does (event : ExecutorEvent × ClientAnswers) (s : Executor)
    (result : Executor × List ExecutorEmit) : Prop :=
  Acts event s.goals result.2 result.1.goals

theorem Does.andThen {s : Executor} {result : Executor × List ExecutorEmit}
    {method : Executor → Executor × List ExecutorEmit} (first : Does event s result)
    (second : Does event result.1 (method result.1)) :
    Does event s (Executor.andThen result method) :=
  first.trans second

theorem Does.of_goals {s t : Executor} {result : Executor × List ExecutorEmit}
    (h : Does event t result) (hgoals : t.goals = s.goals) : Does event s result := by
  unfold Does
  rw [← hgoals]
  exact h

theorem does_quiet {s : Executor} {result : Executor × List ExecutorEmit}
    (hgoals : result.1.goals = s.goals) (hquiet : Quiet result.2) : Does event s result := by
  unfold Does
  rw [hgoals]
  exact acts_quiet hquiet

theorem does_act {s : Executor} {result : Executor × List ExecutorEmit} {g : Goals}
    (h : Act event s.goals result.2 g) (hgoals : result.1.goals = g) : Does event s result := by
  unfold Does
  rw [hgoals]
  exact h.acts

theorem does_nil (s : Executor) : Does event s (s, []) := .nil _

theorem does_ack (s : Executor) (commandId : String) (accepted : Bool)
    (reason : Option String) : Does event s (s, [.ack commandId accepted reason]) :=
  does_quiet rfl ⟨rfl, rfl⟩

theorem does_raised (s : Executor) : Does event s (s, [.raised]) := does_quiet rfl ⟨rfl, rfl⟩

theorem goals_active {s : Executor} {active : ActiveGoal} (h : s.active = some active) :
    s.goals.active = some active.running := by
  simp [goals, h]

theorem goals_undock {s : Executor} {undock : ActiveUndock} (h : s.undockActive = some undock) :
    s.goals.undock = some undock.running := by
  simp [goals, h]

/-- A cancel the server's client raises on, or takes. -/
theorem act_cancel {s : Executor} (kind : ActionKind) (request : Nat) {emits : List ExecutorEmit}
    (hruns : s.goals.Runs kind request) (hresults : resultIds emits = [])
    (hcancels : cancels emits = [(kind, request)]) : Acts event s.goals emits s.goals :=
  (Act.cancel kind request emits hruns hresults hcancels).acts

/-! ### Navigation -/

@[simp] theorem goals_clearNavigationPath (s : Executor) :
    s.clearNavigationPath.1.goals = s.goals := by
  unfold clearNavigationPath
  split
  · rfl
  · rename_i active hactive
    simp [goals, hactive, ActiveGoal.running]

theorem quiet_clearNavigationPath (s : Executor) : Quiet s.clearNavigationPath.2 := by
  unfold clearNavigationPath
  split <;> exact ⟨rfl, rfl⟩

theorem does_clearNavigationPath (s : Executor) : Does event s s.clearNavigationPath :=
  does_quiet (goals_clearNavigationPath s) (quiet_clearNavigationPath s)

theorem does_pollNavigationPath (s : Executor) : Does event s (s.pollNavigationPath answers) := by
  have hask : ∀ (s : Executor) (active : ActiveGoal), Does event s
      (if active.pathBlocked then (s, [])
        else if answers.pathReady = false then
          if active.pathValid then s.clearNavigationPath else (s, [])
        else
          let query : PathQuery := ⟨s.nextRequest, active.request⟩
          ({ s with
              nextRequest := s.nextRequest + 1, pathSent := answers.now,
              pathFuture := some (query, false), pathQueries := query :: s.pathQueries },
            [.askPath active.request])) := by
    intro s active
    split
    · exact does_nil s
    · split
      · split
        · exact does_clearNavigationPath s
        · exact does_nil s
      · exact does_act (.aside (s.nextRequest + 1) s.goals.calls _ (Nat.le_succ _)
          (fun _ => .inl) (by simp [resultIds, ExecutorEmit.resultId]) rfl) rfl
  unfold pollNavigationPath
  simp only
  split
  · split
    · exact does_nil s
    · rename_i query _ _
      have hcleared : Does event s (clearNavigationPath
          { s with pathFuture := none, pathQueries := s.pathQueries.erase query }) :=
        (does_clearNavigationPath _).of_goals rfl
      apply hcleared.andThen
      split
      · exact does_nil _
      · exact hask _ _
  · split
    · exact does_nil s
    · exact hask s _

theorem does_onNavigationPath (s : Executor) (query : PathQuery) (reply : PathReply) :
    Does event s (s.onNavigationPath config query reply) := by
  unfold onNavigationPath
  split
  · exact does_nil s
  · rename_i active hactive
    split
    · exact does_nil s
    · split
      · exact does_clearNavigationPath s
      · exact does_clearNavigationPath s
      · split
        · exact does_nil s
        · simp only
          split
          · exact does_quiet (by simp [goals, hactive, ActiveGoal.running]) ⟨rfl, rfl⟩
          · exact does_quiet (by simp [goals, hactive, ActiveGoal.running]) ⟨rfl, rfl⟩

theorem does_updateNavigationContext (s : Executor) (base : BaseState) :
    Does event s (s.updateNavigationContext base) := by
  unfold updateNavigationContext
  split
  · exact does_nil s
  · simp only
    split
    · exact does_quiet rfl ⟨rfl, rfl⟩
    · rename_i active hactive
      exact (does_clearNavigationPath _).of_goals (by simp [goals, hactive, ActiveGoal.running])

theorem does_onNavigationCancelResponse (s : Executor) (request : Nat)
    (response : Except String CancelResponse) :
    Does event s (s.onNavigationCancelResponse request response) := by
  unfold onNavigationCancelResponse
  split
  · exact does_nil s
  · rename_i active hactive
    split
    · exact does_nil s
    · simp only
      split
      · split
        · exact does_quiet (by simp [goals, hactive, ActiveGoal.running]) ⟨rfl, rfl⟩
        · exact does_nil s
      · exact does_quiet (by simp [goals, hactive, ActiveGoal.running]) ⟨rfl, rfl⟩

/-- The navigation half of `_cancel_navigation`, on the marked slot. -/
theorem does_cancelActive (s : Executor) (commandId : String) {active : ActiveGoal}
    (hactive : s.active = some active) : Does event s
      (let cleared := clearNavigationPath { s with active := some { active with
          cancelRequested := true, cancelPending := true, pathBlocked := true } }
        let told : List ExecutorEmit := cleared.2 ++ [.progress commandId "stopping"
          (some "Waiting for navigation to stop.") false none, .cancelNavigation active.request]
        if answers.cancelRaises .navigation then
          Executor.andThen (cleared.1, told)
            fun s => s.onNavigationCancelResponse active.request (.error answers.error)
        else
          ({ cleared.1 with
              cancelReplies := .navigation active.request :: cleared.1.cancelReplies }, told)) := by
  have hmarked : goals { s with active := some { active with
      cancelRequested := true, cancelPending := true, pathBlocked := true } } = s.goals := by
    simp [goals, hactive, ActiveGoal.running]
  have hcleared := goals_clearNavigationPath { s with active := some { active with
    cancelRequested := true, cancelPending := true, pathBlocked := true } }
  have hquiet := quiet_clearNavigationPath { s with active := some { active with
    cancelRequested := true, cancelPending := true, pathBlocked := true } }
  rw [hmarked] at hcleared
  have htold : Acts event s.goals ((clearNavigationPath { s with active := some { active with
        cancelRequested := true, cancelPending := true, pathBlocked := true } }).2 ++
      [.progress commandId "stopping" (some "Waiting for navigation to stop.") false none,
        .cancelNavigation active.request]) s.goals := by
    apply act_cancel .navigation active.request
    · exact ⟨active.running, goals_active hactive, rfl⟩
    · rw [resultIds_append, hquiet.results]
      rfl
    · rw [cancels_append, hquiet.cancels]
      rfl
  simp only
  split
  · refine Does.andThen (show Does event s (_, _) from ?_) (does_onNavigationCancelResponse _ _ _)
    unfold Does
    rw [hcleared]
    exact htold
  · have hawait : Act event s.goals []
        { s.goals with cancelReplies := .navigation active.request :: s.goals.cancelReplies } :=
      .await (.navigation active.request) (fun id h => by simp at h)
    have h := htold.trans hawait.acts
    rw [List.append_nil] at h
    have hgoals : ∀ t : Executor, t.goals = s.goals →
        goals { t with cancelReplies := .navigation active.request :: t.cancelReplies } =
          { s.goals with
            cancelReplies := .navigation active.request :: s.goals.cancelReplies } := by
      intro t ht
      rw [← ht]
      rfl
    unfold Does
    rw [hgoals _ hcleared]
    exact h

/-- The part of the cancellation that is about the navigation goal. -/
theorem does_stopNavigation (s : Executor) (commandId : String)
    {result : Executor × List ExecutorEmit}
    (hnone : s.active = none → result = (s, []))
    (hsome : ∀ active, s.active = some active → result =
      if active.commandId ≠ commandId ∨ active.cancelRequested then (s, [])
      else
        let cleared := clearNavigationPath { s with
          active := some { active with
            cancelRequested := true, cancelPending := true, pathBlocked := true } }
        let told : List ExecutorEmit := cleared.2 ++ [.progress commandId "stopping"
          (some "Waiting for navigation to stop.") false none, .cancelNavigation active.request]
        if answers.cancelRaises .navigation then
          Executor.andThen (cleared.1, told)
            fun s => s.onNavigationCancelResponse active.request (.error answers.error)
        else
          ({ cleared.1 with
              cancelReplies := .navigation active.request :: cleared.1.cancelReplies },
            told)) :
    Does event s result := by
  cases hactive : s.active with
  | none =>
    rw [hnone hactive]
    exact does_nil s
  | some active =>
    rw [hsome active hactive]
    split
    · exact does_nil s
    · exact does_cancelActive answers s commandId hactive

theorem does_cancelNavigation (s : Executor) (commandId : String) :
    Does event s (s.cancelNavigation answers commandId) := by
  have hmarked {result : Executor × List ExecutorEmit}
      (h : Does event (s.markPending commandId) result) : Does event s result := h.of_goals rfl
  cases hundock : s.undockActive with
  | none =>
    apply hmarked
    apply does_stopNavigation answers (s.markPending commandId) commandId
    · intro hnone
      simp only [cancelNavigation, hundock, hnone]
    · intro active hactive
      simp only [cancelNavigation, hundock, hactive]
  | some undock =>
    by_cases hid : undock.commandId = commandId
    · subst hid
      have hmark : Does event s ({ s with
          undockActive := some { undock with cancelRequested := true } }, []) :=
        does_act (.markUndock undock.running (goals_undock hundock)) rfl
      have hcancel : ∀ emits : List ExecutorEmit, undock.accepted = true →
          resultIds emits = [] → cancels emits = [(.undock, undock.request)] →
          Does event s ({ s with
            undockActive := some { undock with cancelRequested := true } }, emits) := by
        intro emits haccepted hresults hcancels
        refine hmark.trans (act_cancel _ _ ?_ hresults hcancels)
        exact ⟨_, rfl, haccepted, rfl⟩
      unfold cancelNavigation
      simp only [hundock, if_true]
      split
      · exact does_nil s
      · split
        · exact hmark
        · rename_i haccepted
          rw [Bool.not_eq_false] at haccepted
          split
          · exact hcancel _ haccepted rfl rfl
          · exact hcancel _ haccepted rfl rfl
    · apply hmarked
      apply does_stopNavigation answers (s.markPending commandId) commandId
      · intro hnone
        simp only [cancelNavigation, hundock, hid, if_false, hnone]
      · intro active hactive
        simp only [cancelNavigation, hundock, hid, if_false, hactive]

theorem does_navigate (s : Executor) {commandId : String} (goal : Goal)
    (currentYaw : Option PyFloat) (hname : event.1.commandId? = some commandId) :
    Does event s (s.navigate answers commandId goal currentYaw) := by
  unfold navigate
  split
  · exact does_ack s _ _ _
  · split
    · exact does_ack s _ _ _
    · split
      · exact does_raised s
      · simp only
        apply (does_clearNavigationPath s).andThen
        split
        · exact does_act (.aside _ s.clearNavigationPath.1.goals.calls _ (Nat.le_succ _)
            (fun _ => .inl) (by simp [resultIds, ExecutorEmit.resultId]) rfl) rfl
        · exact does_act (.send _ _ hname rfl rfl ⟨rfl, rfl⟩) rfl

@[simp] theorem goals_clearPending (s : Executor) (commandId : String) :
    (s.clearPending commandId).goals = s.goals := by
  unfold clearPending
  split <;> rfl

theorem resultIds_stops (stops : List String) (outcome : Outcome) (detail : Option String) :
    resultIds (stops.map fun stop => .result stop outcome detail) = stops := by
  induction stops with
  | nil => rfl
  | cons stop stops ih => exact congrArg (stop :: ·) ih

theorem cancels_stops (stops : List String) (outcome : Outcome) (detail : Option String) :
    cancels (stops.map fun stop => .result stop outcome detail) = [] := by
  induction stops with
  | nil => rfl
  | cons stop stops ih => exact ih

/-- A goal is closed, then the stops that wait on it. -/
theorem resultIds_closing {closing : ExecutorEmit} {id : String}
    (h : closing.resultId = some id) (stops : List String) (outcome : Outcome)
    (detail : Option String) :
    resultIds (closing :: stops.map fun stop => .result stop outcome detail) = id :: stops := by
  rw [resultIds, List.filterMap_cons_some h]
  exact congrArg (id :: ·) (resultIds_stops _ _ _)

theorem cancels_closing {closing : ExecutorEmit} (h : closing.canceled = none)
    (stops : List String) (outcome : Outcome) (detail : Option String) :
    cancels (closing :: stops.map fun stop => .result stop outcome detail) = [] := by
  rw [cancels, List.filterMap_cons_none h]
  exact cancels_stops _ _ _

/-- No waiting stop is told that the robot had already stopped. -/
theorem alreadyStopped_notMem_stops {stops : List String} {outcome : Outcome} {detail : String}
    (h : detail ≠ "The robot had already stopped.") (id : String) :
    alreadyStopped id ∉ stops.map fun stop => .result stop outcome (some detail) := by
  intro hmem
  obtain ⟨stop, -, heq⟩ := List.mem_map.mp hmem
  simp [alreadyStopped] at heq
  exact h heq.2.2

theorem stopResult_ne (outcome : Outcome) :
    (stopResult outcome).2 ≠ "The robot had already stopped." := by
  cases outcome <;> decide

theorem resultIds_replaceActive (s : Executor) : resultIds s.replaceActive =
    match s.goals.active with
    | none => []
    | some active => active.commandId :: active.stopCommandIds := by
  unfold replaceActive
  cases hactive : s.active with
  | none => simp [goals, hactive]
  | some active =>
    rw [goals_active hactive]
    exact congrArg (active.commandId :: ·) (resultIds_stops _ _ _)

theorem cancels_replaceActive (s : Executor) : cancels s.replaceActive = [] := by
  unfold replaceActive
  split
  · rfl
  · exact cancels_stops _ _ _

theorem alreadyStopped_notMem_replaceActive (s : Executor) (id : String) :
    alreadyStopped id ∉ s.replaceActive := by
  unfold replaceActive
  split
  · exact List.not_mem_nil
  · rename_i active _
    intro hmem
    rcases List.mem_cons.mp hmem with heq | hmem
    · simp [alreadyStopped] at heq
    · exact alreadyStopped_notMem_stops (by decide) id hmem

theorem does_adoptGoal {s : Executor} {request : NavRequest} (howed : request ∈ s.navRequests)
    (hdated : request.generation = s.motorDisableGeneration) : Does event s
      (adoptGoal answers { s with navRequests := s.navRequests.erase request } request) := by
  unfold adoptGoal
  have hadopt : Does event s
      ({ (({ s with navRequests := s.navRequests.erase request } : Executor).clearPending
            request.commandId) with
          active := some { commandId := request.commandId, request := request.request,
                           navigationContext := s.navigationContext }
          lastProgress := 0 },
        replaceActive { s with navRequests := s.navRequests.erase request } ++
          [.ack request.commandId true none]) := by
    refine does_act (.adopt request _ howed hdated ?_ ?_ ?_) ?_
    · rw [resultIds_append]
      exact (List.append_nil _).trans (resultIds_replaceActive _)
    · rw [cancels_append, cancels_replaceActive]
      rfl
    · intro id hmem
      rcases List.mem_append.mp hmem with hmem | hmem
      · exact alreadyStopped_notMem_replaceActive _ _ hmem
      · simp [alreadyStopped] at hmem
    · unfold clearPending
      split <;> rfl
  apply hadopt.andThen
  apply (does_clearNavigationPath _).andThen
  split
  · exact does_raised _
  · have hawait : ∀ t : Executor, t.goals.active = some ⟨request.commandId, request.request, []⟩ →
        Does event t ({ t with
          navResults := (request.request, request.commandId) :: t.navResults }, []) :=
      fun t ht => does_act (.awaitResult _ ht) rfl
    simp only
    split
    · refine (hawait _ ?_).trans (does_cancelNavigation answers _ _)
      rw [goals_clearNavigationPath]
      rfl
    · apply hawait
      rw [goals_clearNavigationPath]
      rfl

theorem does_dropGoal {s : Executor} {request : NavRequest} (reason : String)
    (howed : request ∈ s.navRequests) : Does event s
      (dropGoal answers { s with navRequests := s.navRequests.erase request } request reason) := by
  unfold dropGoal
  split
  · exact does_act (.turnDown request _ howed rfl (fun c hc => List.mem_singleton.mp hc)) rfl
  · exact does_act (.turnDown request _ howed rfl (fun c hc => List.mem_singleton.mp hc)) rfl

theorem does_onGoalEvent (s : Executor) (number : Nat) (response : GoalResponse) :
    Does event s (s.onGoalEvent answers number response) := by
  unfold onGoalEvent
  split
  · exact does_nil s
  · rename_i request hfind
    have howed := List.mem_of_find?_eq_some hfind
    unfold onGoalResponse
    split
    · exact does_act (.turnDown request _ howed rfl (fun c hc => absurd hc List.not_mem_nil)) rfl
    · exact does_act (.turnDown request _ howed rfl (fun c hc => absurd hc List.not_mem_nil))
        (goals_clearPending _ _)
    · split
      · exact does_dropGoal answers _ howed
      · rename_i hdated
        split
        · exact does_dropGoal answers _ howed
        · split
          · exact does_dropGoal answers _ howed
          · exact does_adoptGoal answers howed (not_not.mp hdated)

theorem does_onFeedback (s : Executor) (commandId : String) (request : Nat)
    (distance : Option PyFloat) :
    Does event s (s.onFeedback answers commandId request distance) := by
  unfold onFeedback
  split
  · exact does_nil s
  · split
    · exact does_nil s
    · split
      · exact does_nil s
      · exact does_quiet rfl ⟨rfl, rfl⟩

theorem does_onResult (s : Executor) (commandId : String)
    (response : Except String NavigationResult) :
    Does event s (s.onResult commandId response) := by
  unfold onResult
  split
  · exact does_nil s
  · rename_i active hactive
    split
    · exact does_nil s
    · rename_i hid
      have hid : active.commandId = commandId := not_not.mp hid
      subst hid
      have hquiet := quiet_clearNavigationPath s
      have hfinish : ∀ (closing : ExecutorEmit) (outcome : Outcome),
          closing.resultId = some active.commandId → closing.canceled = none →
          Does event s ({ s.clearNavigationPath.1 with active := none },
            s.clearNavigationPath.2 ++ closing :: active.stopCommandIds.map fun stop =>
              .result stop (stopResult outcome).1 (some (stopResult outcome).2)) := by
        intro closing outcome hclosing hsilent
        refine does_act (.finish active.running _ (goals_active hactive) ?_ ?_ ?_) ?_
        · rw [resultIds_append, hquiet.results]
          exact resultIds_closing hclosing _ _ _
        · rw [cancels_append, hquiet.cancels]
          exact cancels_closing hsilent _ _ _
        · intro id hmem
          rcases List.mem_append.mp hmem with hmem | hmem
          · have h := mem_resultIds_of_alreadyStopped hmem
            rw [hquiet.results] at h
            exact absurd h List.not_mem_nil
          · rcases List.mem_cons.mp hmem with heq | hmem
            · rw [← heq] at hclosing
              exact Option.some.inj hclosing
            · exact absurd hmem (alreadyStopped_notMem_stops (stopResult_ne outcome) id)
        · rw [← goals_clearNavigationPath s]
          rfl
      cases response with
      | ok result => exact hfinish _ _ rfl rfl
      | error error => exact hfinish _ _ rfl rfl

/-! ### Stops -/

/-- A waiting stop is claimed and reported. -/
theorem does_claim {s claimed : Executor} {commandId : String} {emits : List ExecutorEmit}
    (h : s.claimStop commandId = some claimed) (hresults : resultIds emits = [commandId])
    (hsilent : cancels emits = [])
    (hfound : ∀ id, alreadyStopped id ∈ emits → id = commandId ∧ ∃ response,
      event.1 = .cancelReply (.stop commandId) (.ok response) ∧
        cancelVerdict response = .finished) : Does event s (claimed, emits) := by
  have hundock : ∀ undock, s.undockActive = some undock → commandId ∈ undock.stopCommandIds →
      Does event s ({ s with undockActive := some { undock with
        stopCommandIds := undock.stopCommandIds.erase commandId } }, emits) :=
    fun undock hundock hwaits => does_act (.claimUndock undock.running commandId _
      (goals_undock hundock) hwaits hresults hsilent hfound) rfl
  unfold claimStop at h
  split at h
  · rename_i active hactive
    split at h
    · rename_i hwaits
      obtain rfl := Option.some.inj h
      exact does_act (.claim active.running commandId _ (goals_active hactive) hwaits hresults
        hsilent hfound) rfl
    · obtain ⟨undock', hundock', h⟩ := Option.bind_eq_some_iff.mp h
      split at h
      · rename_i hwaits
        obtain rfl := Option.some.inj h
        exact hundock undock' hundock' hwaits
      · simp at h
  · rename_i undock _ hundock'
    split at h
    · rename_i hwaits
      obtain rfl := Option.some.inj h
      exact hundock undock hundock' hwaits
    · simp at h
  · simp at h

theorem does_failStop (s : Executor) (commandId detail : String) :
    Does event s (s.failStop commandId detail) := by
  unfold failStop
  split
  · exact does_nil s
  · rename_i claimed hclaimed
    exact does_claim hclaimed rfl rfl (fun id hmem => by simp [alreadyStopped] at hmem)

theorem does_onCancelResponse (s : Executor) (commandId : String)
    (response : Except String CancelResponse)
    (hevent : event.1 = .cancelReply (.stop commandId) response) :
    Does event s (s.onCancelResponse commandId response) := by
  unfold onCancelResponse
  split
  · exact does_failStop s _ _
  · rename_i response
    split
    · exact does_nil s
    · rename_i hverdict
      split
      · rename_i claimed hclaimed
        refine does_claim hclaimed rfl rfl (fun id hmem => ⟨?_, response, hevent, hverdict⟩)
        simp [alreadyStopped] at hmem
        exact hmem
      · exact does_nil s
    · exact does_failStop s _ _

theorem does_askToStop (s : Executor) (commandId : String) {kind : ActionKind} {request : Nat}
    {cancel : ExecutorEmit} (hruns : s.goals.Runs kind request)
    (hstop : IsStop commandId event) (hresults : cancel.resultId = none)
    (hcancel : cancel.canceled = some (kind, request)) :
    Does event s (s.askToStop answers commandId kind cancel) := by
  have hsent : Acts event s.goals [cancel] s.goals := by
    apply act_cancel _ _ hruns
    · simp [resultIds, hresults]
    · simp [cancels, hcancel]
  unfold askToStop
  split
  · exact hsent.trans (does_failStop s _ _)
  · have h := hsent.trans (Act.await (.stop commandId) (fun id hid => by
      obtain rfl := CancelReply.stop.inj hid
      exact .inl hstop)).acts
    exact h

theorem does_stop (s : Executor) {commandId : String} (hstop : IsStop commandId event)
    (hname : event.1.commandId? = some commandId) : Does event s (s.stop answers commandId) := by
  unfold stop
  refine (does_ack s _ _ _).andThen ?_
  simp only
  split
  · rename_i undock hundock
    have hattach : Does event s ({ s with undockActive := some { undock with
        cancelRequested := true, stopCommandIds := undock.stopCommandIds ++ [commandId] } }, []) :=
      does_act (.attachUndock undock.running commandId (goals_undock hundock) hstop) rfl
    split
    · exact hattach
    · rename_i hask
      refine hattach.trans (does_askToStop answers _ commandId ?_ hstop rfl rfl)
      have haccepted : undock.accepted = true := by simpa using fun h => hask (.inl h)
      exact ⟨_, rfl, haccepted, rfl⟩
  · rename_i active _ hactive
    have hattach : Does event s (clearNavigationPath { s with active := some { active with
        cancelRequested := true, pathBlocked := true,
        stopCommandIds := active.stopCommandIds ++ [commandId] } }) :=
      Acts.trans (Act.attach active.running commandId (goals_active hactive) hstop).acts
        (does_clearNavigationPath { s with active := some { active with
          cancelRequested := true, pathBlocked := true,
          stopCommandIds := active.stopCommandIds ++ [commandId] } })
    apply hattach.andThen
    split
    · exact does_nil _
    · refine does_askToStop answers _ commandId ?_ hstop rfl rfl
      rw [goals_clearNavigationPath]
      exact ⟨_, rfl, rfl⟩
  · exact does_act (.aside s.nextRequest s.goals.calls _ le_rfl (fun _ => .inl)
      (fun id hmem => .inr (hname.trans (congrArg some (List.mem_singleton.mp hmem).symm))) rfl)
      rfl

/-! ### Undock -/

theorem does_failUndock (s : Executor) (detail : String) :
    Does event s (s.failUndock answers detail) := by
  unfold failUndock
  split
  · exact does_nil s
  · rename_i undock hundock
    split
    · exact does_nil s
    · have hcancel : Does event s (cancelNavigation answers
          { s with undockActive := some { undock with uncertain := true } } undock.commandId) :=
        (does_cancelNavigation answers _ _).of_goals
          (by simp [goals, hundock, ActiveUndock.running])
      exact hcancel.andThen (does_quiet rfl ⟨rfl, rfl⟩)

theorem does_checkUndockHealth (s : Executor) :
    Does event s (s.checkUndockHealth config answers) := by
  unfold checkUndockHealth
  split
  · exact does_quiet rfl ⟨rfl, rfl⟩
  · split
    · simp only
      split
      · exact (does_failUndock answers _ _).of_goals rfl
      · exact does_quiet rfl ⟨rfl, rfl⟩
    · simp only
      split
      · exact (does_failUndock answers _ _).of_goals rfl
      · exact does_quiet rfl ⟨rfl, rfl⟩

theorem undockActive_of_undockRefusal {s : Executor} {authorized : Bool}
    (h : s.undockRefusal config answers authorized = none) : s.undockActive = none := by
  unfold undockRefusal at h
  by_cases hbusy : s.undockActive.isSome
  · simp only [hbusy, if_true] at h
    split at h
    · simp at h
    · split at h
      · simp at h
      · split at h <;> simp at h
  · simpa using hbusy

theorem does_undock (s : Executor) {commandId : String} (operatorAuthorized : Bool)
    (hname : event.1.commandId? = some commandId) :
    Does event s (s.undock config answers commandId operatorAuthorized) := by
  unfold undock
  split
  · exact does_ack s _ _ _
  · rename_i hidle
    have hidle := undockActive_of_undockRefusal config answers hidle
    simp only
    split
    · exact does_act (.aside (s.nextRequest + 1) s.goals.calls _ (Nat.le_succ _)
        (fun _ => .inl) (by simp [resultIds, ExecutorEmit.resultId]) rfl) rfl
    · exact does_act (.sendUndock commandId _ hname (by simp [goals, hidle]) ⟨rfl, rfl⟩) rfl

theorem acts_cancelAccepted {s : Executor} {g : Goals} (hgoals : s.goals = g)
    {undock : ActiveUndock} {request : Nat} (hundock : s.undockActive = some undock)
    (haccepted : undock.accepted = true) (hevent : event.1 = .undockResponse request .accepted) :
    Acts event g (s.cancelAccepted answers undock).2
      (s.cancelAccepted answers undock).1.goals := by
  subst hgoals
  have hfold : ∀ (stops : List String) (result : Executor × List ExecutorEmit),
      Does event s result → Does event s (stops.foldl (fun result stop =>
        Executor.andThen result fun s =>
          s.failStop stop s!"The robot could not be asked to stop: {answers.error}.") result) := by
    intro stops
    induction stops with
    | nil => exact fun _ h => h
    | cons stop stops ih => exact fun _ h => ih _ (h.andThen (does_failStop _ _ _))
  have hcancel : Acts event s.goals [.cancelUndock undock.request] s.goals :=
    act_cancel .undock undock.request
      ⟨undock.running, goals_undock hundock, haccepted, rfl⟩ rfl rfl
  unfold cancelAccepted
  split
  · exact hfold _ _ hcancel
  · cases hstops : undock.stopCommandIds with
    | nil => exact hcancel
    | cons stop stops =>
      exact hcancel.trans (Act.await (.stop stop) (fun id hid => .inr ⟨request, hevent⟩)).acts

theorem does_onUndockEvent (s : Executor) (number : Nat) (response : GoalResponse)
    (hevent : event.1 = .undockResponse number response) :
    Does event s (s.onUndockEvent config answers number response) := by
  unfold onUndockEvent
  split
  · exact does_nil s
  · rename_i request hfind
    have howed := List.mem_of_find?_eq_some hfind
    have hdrop : Does event s ({ s with undockRequests := s.undockRequests.erase request }, []) :=
      does_act (.dropUndock request _ howed rfl (fun c hc => absurd hc List.not_mem_nil)) rfl
    unfold onUndockResponse
    split
    · exact hdrop
    · exact hdrop.trans (does_failUndock answers _ _)
    · rename_i hnone
      refine does_act (.dropUndock request _ howed ?_ ?_) rfl
      · split <;> rfl
      · intro c hc
        have hother : ∀ undock, s.goals.undock = some undock →
            undock.commandId ≠ request.commandId := by
          intro undock hundock
          obtain ⟨undock', hundock', rfl⟩ := Option.map_eq_some_iff.mp hundock
          have hother : undock'.commandId ≠ request.commandId := by simpa [hundock'] using hnone
          exact hother
        have hc : c = (.undock, request.request) := by
          split at hc <;> exact List.mem_singleton.mp hc
        exact ⟨hc, hother⟩
    · exact hdrop
    · rename_i undock hsome
      obtain ⟨hundock, hid⟩ := Option.filter_eq_some_iff.mp hsome
      refine does_act (.declineUndock request undock.running _ howed (goals_undock hundock)
        (of_decide_eq_true hid) (resultIds_stops _ _ _) (cancels_stops _ _ _) ?_) rfl
      intro id hmem
      rcases List.mem_cons.mp hmem with heq | hmem
      · simp [alreadyStopped] at heq
      · exact alreadyStopped_notMem_stops (by decide) id hmem
    · rename_i undock hsome
      obtain ⟨hundock, hid⟩ := Option.filter_eq_some_iff.mp hsome
      have hundock : s.undockActive = some undock := hundock
      have haccept : ∀ awaited : Bool, Acts event s.goals [.ack request.commandId true none]
          { s.goals with
            undock := some { undock.running with
              accepted := true
              cancelRequested :=
                undock.cancelRequested || request.generation != s.motorDisableGeneration }
            undockRequests := s.undockRequests.erase request
            undockResults := if awaited then (request.request, request.commandId) ::
              s.undockResults else s.undockResults } :=
        fun awaited => (Act.acceptUndock request undock.running _ awaited _ howed
          (goals_undock hundock) (of_decide_eq_true hid) ⟨rfl, rfl⟩).acts
      simp only [andThen]
      split
      · exact (haccept false).trans (acts_quiet ⟨rfl, rfl⟩)
      · split
        · apply (haccept true).trans
          apply acts_cancelAccepted answers ?_ ?_ ?_ hevent
          · rfl
          · rfl
          · rfl
        · exact (haccept true).trans (.nil _)

theorem does_onUndockFeedback (s : Executor) (commandId state hardwarePhase : String) :
    Does event s (s.onUndockFeedback answers commandId state hardwarePhase) := by
  unfold onUndockFeedback
  split
  · exact does_nil s
  · split
    · exact does_nil s
    · split
      · exact does_nil s
      · exact does_quiet rfl ⟨rfl, rfl⟩

theorem does_onUndockResult {s : Executor} {owed : Nat × String} (howed : owed ∈ s.undockResults)
    (response : Except String UndockResult) : Does event s
      (onUndockResult answers { s with undockResults := s.undockResults.erase owed } owed.2
        response) := by
  have htake : Does event s ({ s with undockResults := s.undockResults.erase owed }, []) :=
    does_act (.takeUndockResult owed howed) rfl
  unfold onUndockResult
  split
  · exact htake
  · rename_i undock hundock
    split
    · exact htake
    · rename_i hid
      split
      · exact htake.trans (does_failUndock answers _ _)
      · split
        · exact htake.trans (does_failUndock answers _ _)
        · rename_i result _
          simp only
          have hid : undock.commandId = owed.2 := not_not.mp hid
          refine does_act (.endUndock owed undock.running _ howed (goals_undock hundock)
            ?_ (cancels_closing rfl _ _ _) ?_) rfl
          · rw [resultIds_closing rfl, ← hid]
            rfl
          · intro id hmem
            rcases List.mem_cons.mp hmem with heq | hmem
            · exact (ExecutorEmit.result.inj heq).1.trans hid.symm
            · exact absurd hmem (alreadyStopped_notMem_stops (stopResult_ne _) id)

/-! ### Map localization -/

theorem does_checkMapConnection (s : Executor) (cancel : Bool) :
    Does event s (s.checkMapConnection answers cancel) := by
  unfold checkMapConnection
  split
  · exact does_nil s
  · rename_i map hmap
    split
    · simp only
      split
      · rename_i haccepted
        exact does_act (.markMap map _ hmap rfl (by simp [haccepted])) rfl
      · rename_i haccepted
        split
        · exact does_act (.markMap map _ hmap rfl (by
            simp [cancels, ExecutorEmit.canceled, haccepted])) rfl
        · exact does_act (.markMap map _ hmap rfl (by
            simp [cancels, ExecutorEmit.canceled, haccepted])) rfl
    · exact does_nil s

theorem does_setInitialPose (s : Executor) {commandId : String} (goal : Goal)
    (operatorAuthorized measured : Bool) (hname : event.1.commandId? = some commandId)
    (hidle : s.mapActive = none) :
    Does event s (s.setInitialPose answers commandId goal operatorAuthorized measured) := by
  unfold setInitialPose
  split
  · exact does_raised s
  · split
    · exact does_ack s _ _ _
    · simp only
      split
      · exact does_act (.sendMap commandId _ false hname hidle ⟨rfl, rfl⟩) rfl
      · exact does_act (.sendMap commandId _ true hname hidle ⟨rfl, rfl⟩) rfl

theorem does_onMapFeedback (s : Executor) (requestId stage : String) :
    Does event s (s.onMapFeedback requestId stage) := by
  unfold onMapFeedback
  split
  · exact does_nil s
  · split
    · exact does_quiet rfl ⟨rfl, rfl⟩
    · exact does_nil s

theorem does_onMapResponse {s : Executor} {request : Nat} (howed : request ∈ s.mapRequests)
    (response : GoalResponse) (hanswers : event.2 = answers) : Does event s
      (onMapResponse answers { s with mapRequests := s.mapRequests.erase request } request
        response) := by
  unfold onMapResponse
  split
  · rename_i hnone
    refine does_act (.dropMap request howed fun map hmap => ?_) rfl
    exact absurd (hnone.symm.trans hmap) (by simp)
  · rename_i map hmap
    have hmap : s.goals.map = some map := hmap
    split
    · rename_i hother
      refine does_act (.dropMap request howed fun other hsome => ?_) rfl
      rw [← Option.some.inj (hmap.symm.trans hsome)]
      exact hother
    · rename_i hrequest
      obtain rfl : map.request = request := not_not.mp hrequest
      split
      · exact does_act (.refuseMap map _ howed hmap (fun id hid => List.mem_singleton.mp hid) rfl)
          rfl
      · exact does_act (.refuseMap map _ howed hmap (fun id hid => absurd hid List.not_mem_nil) rfl)
          rfl
      · have haccept : ∀ (awaited : Bool) (emits : List ExecutorEmit),
            (awaited = false → event.2.resultRaises .map = true) → resultIds emits = [] →
            cancels emits = (if awaited && map.cancel then [(.map, map.request)] else []) →
            Acts event s.goals emits { s.goals with
              map := some { map with accepted := true }
              mapRequests := s.mapRequests.erase map.request
              mapResults := if awaited then map.request :: s.mapResults else s.mapResults } :=
          fun awaited emits hraises hresults hasked =>
            (Act.acceptMap map awaited emits howed hmap hraises hresults hasked).acts
        simp only [andThen]
        split
        · rename_i hraises
          have hraises : event.2.resultRaises .map = true := hanswers ▸ hraises
          exact (haccept false [_] (fun _ => hraises) rfl rfl).trans
            (Act.abandonMap { map with accepted := true } _ rfl (.inl hraises) rfl rfl).acts
        · split
          · rename_i hcancel
            exact haccept true [_] (by simp) rfl (by simp [cancels, ExecutorEmit.canceled, hcancel])
          · rename_i hcancel
            have hasked : Acts event s.goals
                [.ack map.commandId true none, .cancelMap map.request] { s.goals with
                  map := some { map with accepted := true }
                  mapRequests := s.mapRequests.erase map.request
                  mapResults := map.request :: s.mapResults } :=
              haccept true _ (by simp) rfl (by simp [cancels, ExecutorEmit.canceled, hcancel])
            split
            · rename_i hraises
              exact hasked.trans (Act.abandonMap { map with accepted := true }
                [.result map.commandId .failed (some answers.error)] rfl
                (.inr (hanswers ▸ hraises)) rfl rfl).acts
            · exact hasked

theorem does_onMapResult {s : Executor} {request : Nat} (howed : request ∈ s.mapResults)
    (response : Except String MapResult) : Does event s
      (onMapResult { s with mapResults := s.mapResults.erase request } request response) := by
  unfold onMapResult
  split
  · rename_i hnone
    refine does_act (.dropMapResult request howed fun map hmap => ?_) rfl
    exact absurd (hnone.symm.trans hmap) (by simp)
  · rename_i map hmap
    have hmap : s.goals.map = some map := hmap
    split
    · rename_i hother
      refine does_act (.dropMapResult request howed fun other hsome => ?_) rfl
      rw [← Option.some.inj (hmap.symm.trans hsome)]
      exact hother
    · rename_i hrequest
      obtain rfl : map.request = request := not_not.mp hrequest
      refine does_act (.endMap map _ howed hmap ?_ ?_) rfl
      · split
        · rfl
        · split <;> rfl
      · split
        · rfl
        · split <;> rfl

/-! ### Services and LiDAR power -/

/-- The emits name calls without an answer, or the frame's own command. -/
theorem does_aside {s : Executor} {result : Executor × List ExecutorEmit} (calls : List String)
    (hgoals : result.1.goals = { s.goals with calls := calls })
    (hknown : ∀ id ∈ calls, id ∈ s.goals.calls ∨ event.1.commandId? = some id)
    (hresults : ∀ id ∈ resultIds result.2, id ∈ s.goals.calls ∨ event.1.commandId? = some id)
    (hsilent : cancels result.2 = []) : Does event s result :=
  does_act (.aside s.nextRequest calls _ le_rfl hknown hresults hsilent) hgoals

theorem does_callDockService (s : Executor) {commandId : String} (service : DockService)
    (hname : event.1.commandId? = some commandId) :
    Does event s (s.callDockService config answers commandId service) := by
  unfold callDockService
  split
  · exact does_raised s
  · split
    · exact does_ack s _ _ _
    · split
      · exact does_ack s _ _ _
      · split
        · exact does_quiet rfl ⟨rfl, rfl⟩
        · refine does_aside (commandId :: s.goals.calls) rfl (fun id hid => ?_)
            (fun id hid => absurd hid List.not_mem_nil) rfl
          rcases List.mem_cons.mp hid with rfl | hid
          · exact .inr hname
          · exact .inl hid

theorem mem_resultIds_onDockServiceResult {s : Executor} {service : DockService}
    {commandId : String} {response : Except String ServiceResponse} {id : String}
    (h : id ∈ resultIds (s.onDockServiceResult service commandId response).2) :
    id = commandId := by
  unfold onDockServiceResult at h
  split at h
  · exact absurd h List.not_mem_nil
  · split at h
    · exact absurd h List.not_mem_nil
    · split at h
      · exact absurd h List.not_mem_nil
      · split at h
        · exact List.mem_singleton.mp h
        · exact List.mem_singleton.mp h

theorem cancels_onDockServiceResult (s : Executor) (service : DockService) (commandId : String)
    (response : Except String ServiceResponse) :
    cancels (s.onDockServiceResult service commandId response).2 = [] := by
  unfold onDockServiceResult
  split
  · rfl
  · split
    · rfl
    · split
      · rfl
      · split <;> rfl

theorem goals_onDockServiceResult (s : Executor) (service : DockService) (commandId : String)
    (response : Except String ServiceResponse) :
    (s.onDockServiceResult service commandId response).1.goals = s.goals := by
  unfold onDockServiceResult
  split
  · rfl
  · split
    · rfl
    · split
      · rfl
      · split <;> rfl

theorem does_onDockServiceResult {s : Executor} {service : DockService} {commandId : String}
    (howed : (service, commandId) ∈ s.serviceCalls) (response : Except String ServiceResponse) :
    Does event s (onDockServiceResult
      { s with serviceCalls := s.serviceCalls.erase (service, commandId) } service commandId
      response) := by
  have hcall : commandId ∈ s.goals.calls :=
    List.mem_append_left _ (List.mem_map_of_mem (f := Prod.snd) howed)
  refine does_aside
    ((s.serviceCalls.erase (service, commandId)).map Prod.snd ++ s.lidarCalls)
    (goals_onDockServiceResult _ _ _ _) (fun id hid => .inl ?_) (fun id hid => .inl ?_)
    (cancels_onDockServiceResult _ _ _ _)
  · rcases List.mem_append.mp hid with hid | hid
    · obtain ⟨call, hmem, rfl⟩ := List.mem_map.mp hid
      exact List.mem_append_left _ (List.mem_map_of_mem (List.mem_of_mem_erase hmem))
    · exact List.mem_append_right _ hid
  · rw [mem_resultIds_onDockServiceResult hid]
    exact hcall

theorem does_motorEnable (s : Executor) {commandId : String}
    (hname : event.1.commandId? = some commandId) :
    Does event s (s.motorEnable config answers commandId) := by
  unfold motorEnable
  split
  · exact does_ack s _ _ _
  · exact does_callDockService config answers s _ hname

theorem does_setLidarPower (s : Executor) {commandId : String} (authorized enabled : Json)
    (base : Option BaseState) (receiptAge : Option PyFloat)
    (hname : event.1.commandId? = some commandId) :
    Does event s (s.setLidarPower config answers commandId authorized enabled base receiptAge) := by
  unfold setLidarPower
  split
  · split
    · exact does_ack s _ _ _
    · split
      · exact does_ack s _ _ _
      · split
        · exact does_ack s _ _ _
        · simp only
          split
          · refine does_aside s.goals.calls rfl (fun _ => .inl) (fun id hid => ?_) rfl
            exact .inr (hname.trans (congrArg some (List.mem_singleton.mp hid).symm))
          · refine does_aside (s.serviceCalls.map Prod.snd ++ commandId :: s.lidarCalls)
              rfl (fun id hid => ?_) (fun id hid => absurd hid List.not_mem_nil) rfl
            rcases List.mem_append.mp hid with hid | hid
            · exact .inl (List.mem_append_left _ hid)
            · rcases List.mem_cons.mp hid with rfl | hid
              · exact .inr hname
              · exact .inl (List.mem_append_right _ hid)
  · exact does_ack s _ _ _

theorem mem_resultIds_onLidarResult {s : Executor} {commandId : String}
    {response : Except String LidarResponse} {id : String}
    (h : id ∈ resultIds (s.onLidarResult answers commandId response).2) : id = commandId := by
  unfold onLidarResult at h
  split at h
  · exact absurd h List.not_mem_nil
  · split at h
    · exact List.mem_singleton.mp h
    · split at h
      · exact List.mem_singleton.mp h
      · simp only at h
        split at h
        · exact List.mem_singleton.mp h
        · split at h
          · exact List.mem_singleton.mp h
          · exact absurd h List.not_mem_nil

theorem cancels_onLidarResult (s : Executor) (commandId : String)
    (response : Except String LidarResponse) :
    cancels (s.onLidarResult answers commandId response).2 = [] := by
  unfold onLidarResult
  split
  · rfl
  · split
    · rfl
    · split
      · rfl
      · simp only
        split
        · rfl
        · split <;> rfl

theorem goals_onLidarResult (s : Executor) (commandId : String)
    (response : Except String LidarResponse) :
    (s.onLidarResult answers commandId response).1.goals = s.goals := by
  unfold onLidarResult
  split
  · rfl
  · split
    · rfl
    · split
      · rfl
      · simp only
        split
        · rfl
        · split <;> rfl

theorem does_onLidarResult {s : Executor} {commandId : String} (howed : commandId ∈ s.lidarCalls)
    (response : Except String LidarResponse) : Does event s
      (onLidarResult answers { s with lidarCalls := s.lidarCalls.erase commandId } commandId
        response) := by
  refine does_aside (s.serviceCalls.map Prod.snd ++ s.lidarCalls.erase commandId)
    (goals_onLidarResult _ _ _ _) (fun id hid => .inl ?_) (fun id hid => .inl ?_)
    (cancels_onLidarResult _ _ _ _)
  · rcases List.mem_append.mp hid with hid | hid
    · exact List.mem_append_left _ hid
    · exact List.mem_append_right _ (List.mem_of_mem_erase hid)
  · rw [mem_resultIds_onLidarResult answers hid]
    exact List.mem_append_right _ howed

/-! ### motor_disable -/

theorem does_cancelGoals (s : Executor) : Does event s s.cancelGoals := by
  have hactive : ∀ t : Executor, goals { t with
      active := t.active.map fun active => { active with cancelRequested := true } } =
        t.goals := by
    intro t
    cases hactive : t.active <;> simp [goals, hactive, ActiveGoal.running]
  have hnavigation (emits : List ExecutorEmit) (hnone : s.active = none → emits = [])
      (hsome : ∀ active, s.active = some active →
        emits = [ExecutorEmit.cancelNavigation active.request]) :
      Acts event s.goals emits s.goals := by
    cases hrunning : s.active with
    | none =>
      rw [hnone hrunning]
      exact .nil _
    | some active =>
      rw [hsome active hrunning]
      exact act_cancel .navigation _ ⟨_, goals_active hrunning, rfl⟩ rfl rfl
  unfold cancelGoals
  apply Acts.trans (hnavigation _ (by intro h; simp only [h]) (by intro active h; simp only [h]))
  cases hundock : s.undockActive with
  | none =>
    have hgoals : goals { s with
        active := s.active.map fun active => { active with cancelRequested := true }
        undockActive := none } = s.goals := by
      rw [← hactive s]
      simp [goals, hundock]
    simp only [Option.map_none]
    rw [hgoals]
    exact .nil _
  | some undock =>
    have hmark : Acts event s.goals [] { s.goals with
        undock := some { undock.running with cancelRequested := true } } :=
      (Act.markUndock undock.running (goals_undock hundock)).acts
    have hgoals : goals { s with
        active := s.active.map fun active => { active with cancelRequested := true }
        undockActive := some { undock with cancelRequested := true } } =
        { s.goals with undock := some { undock.running with cancelRequested := true } } := by
      rw [← hactive s]
      rfl
    have hcancel : ∀ g : Goals, g.undock = some { undock.running with cancelRequested := true } →
        Acts event g (if undock.accepted then [ExecutorEmit.cancelUndock undock.request] else [])
          g := by
      intro g hg
      split
      · rename_i haccepted
        exact (Act.cancel .undock undock.request _ ⟨_, hg, haccepted, rfl⟩ rfl rfl).acts
      · exact .nil _
    simp only [Option.map_some]
    rw [hgoals]
    exact hmark.trans (hcancel _ rfl)

/-- Dropping the exceptions from what is sent changes no result and no cancel. -/
theorem does_cancelMapLogged (s : Executor) : Does event s (s.cancelMapLogged answers) := by
  unfold cancelMapLogged checkMapConnection
  split
  · exact does_nil s
  · rename_i map hmap
    split
    · simp only
      split
      · rename_i haccepted
        exact does_act (.markMap map _ hmap rfl (by simp [haccepted])) rfl
      · rename_i haccepted
        split
        · exact does_act (.markMap map _ hmap rfl (by
            simp [cancels, ExecutorEmit.canceled, haccepted])) rfl
        · exact does_act (.markMap map _ hmap rfl (by
            simp [cancels, ExecutorEmit.canceled, haccepted])) rfl
    · exact does_nil s

theorem does_motorDisable (s : Executor) {commandId : String}
    (hname : event.1.commandId? = some commandId) :
    Does event s (s.motorDisable config answers commandId) := by
  have hblocked : Does event s (clearNavigationPath { s with
      active := s.active.map fun active => { active with pathBlocked := true } }) :=
    (does_clearNavigationPath _).of_goals (by
      cases hactive : s.active <;> simp [goals, hactive, ActiveGoal.running])
  have hcalled : ∀ t : Executor, Does event t (callDockService config answers
      { t with motorDisableGeneration := t.motorDisableGeneration + 1 } commandId
      .motorDisable) :=
    fun t => Acts.trans Act.disable.acts (does_callDockService config answers
      { t with motorDisableGeneration := t.motorDisableGeneration + 1 } .motorDisable hname)
  unfold motorDisable
  apply hblocked.andThen
  simp only
  split
  · exact hcalled _
  · exact ((hcalled _).andThen (does_cancelMapLogged answers _)).andThen (does_cancelGoals _)

/-! ### handle -/

/-- Commands other than the two cancels name themselves. -/
theorem commandId?_handle {call : HandleCall} (hcancel : call.request.command ≠ .cancel)
    (hmap : call.request.command ≠ .cancelMap) :
    (ExecutorEvent.handle call).commandId? = some call.request.commandId := by
  simp [ExecutorEvent.commandId?, hcancel, hmap]

theorem does_stopMap (s : Executor) {commandId : String}
    (hname : event.1.commandId? = some commandId) :
    Does event s (s.stopMap answers commandId) := by
  have h : Does event s (s.checkMapConnection answers true) :=
    does_checkMapConnection answers s true
  unfold stopMap
  simp only
  split
  · exact h
  · refine h.trans (Act.aside _ (s.checkMapConnection answers true).1.goals.calls _ le_rfl
      (fun _ => .inl) (fun id hid => .inr ?_) rfl).acts
    exact hname.trans (congrArg some (List.mem_singleton.mp hid).symm)

theorem does_cancelCommand (s : Executor) (commandId : String) (navigation : Bool) :
    Does event s (s.cancelCommand answers commandId navigation) := by
  have hmapped : Does event s (if s.mapActive.any (·.commandId = commandId) then
      s.checkMapConnection answers true else (s, [])) := by
    split
    · exact does_checkMapConnection answers s true
    · exact does_nil s
  unfold cancelCommand
  simp only
  generalize (if s.mapActive.any (·.commandId = commandId) then
    s.checkMapConnection answers true else (s, [])) = mapped at hmapped ⊢
  split
  · exact hmapped
  · exact hmapped.andThen (does_cancelNavigation answers _ _)

theorem does_dockReset (s : Executor) (call : HandleCall)
    (hname : event.1.commandId? = some call.request.commandId) :
    Does event s (s.dockReset config answers call) := by
  unfold dockReset
  simp only
  split
  · exact does_ack s _ _ _
  · split
    · exact does_ack s _ _ _
    · exact does_callDockService config answers s _ hname

theorem does_motorPower (s : Executor) (call : HandleCall)
    (hname : event.1.commandId? = some call.request.commandId) :
    Does event s (s.motorPower config answers call) := by
  unfold motorPower
  simp only
  split
  · exact does_ack s _ _ _
  · split
    · exact does_motorDisable config answers s hname
    · exact does_motorEnable config answers s hname

theorem does_dispatch (s : Executor) (call : HandleCall) (hevent : event.1 = .handle call)
    (hcancel : call.request.command ≠ .cancel) (hmap : call.request.command ≠ .cancelMap)
    (hgates : s.refusal answers call = none) :
    Does event s (s.dispatch config answers call) := by
  have hname : event.1.commandId? = some call.request.commandId := by
    rw [hevent]
    exact commandId?_handle hcancel hmap
  unfold dispatch
  simp only
  split
  · exact does_navigate answers s _ _ hname
  · rename_i hstop
    exact does_stop answers s ⟨call, event.2, by rw [← hevent], hstop, rfl⟩ hname
  · exact does_setLidarPower config answers s _ _ _ _ hname
  · exact does_setInitialPose answers s _ _ _ hname (mapActive_of_refusal hgates)
  · exact does_undock config answers s _ hname
  · exact does_callDockService config answers s _ hname
  · exact does_ack s _ _ _
  · exact does_nil s

theorem does_handle (s : Executor) (call : HandleCall) (hevent : event.1 = .handle call) :
    Does event s (s.handle config answers call) := by
  have hname : call.request.command ≠ .cancel → call.request.command ≠ .cancelMap →
      event.1.commandId? = some call.request.commandId := by
    intro hcancel hmap
    rw [hevent]
    exact commandId?_handle hcancel hmap
  unfold handle
  simp only
  split
  · exact does_ack s _ _ _
  · split
    · exact does_raised s
    · exact does_cancelCommand answers s _ _
    · exact does_cancelCommand answers s _ _
    · rename_i hcommand
      exact does_motorPower config answers s call (hname (by simp [hcommand]) (by simp [hcommand]))
    · rename_i hcommand
      exact does_motorPower config answers s call (hname (by simp [hcommand]) (by simp [hcommand]))
    · rename_i hcommand
      exact does_dockReset config answers s call (hname (by simp [hcommand]) (by simp [hcommand]))
    · rename_i hcancel hmap _ _ _
      unfold gated
      simp only
      split
      · exact does_ack s _ _ _
      · split
        · exact does_stopMap answers s (hname hcancel hmap)
        · split
          · exact does_ack s _ _ _
          · rename_i hgates
            have hlog : Does event s (s, overrideLog call) := by
              unfold overrideLog
              split
              · exact does_quiet rfl ⟨rfl, rfl⟩
              · exact does_nil s
            exact hlog.andThen (does_dispatch config answers s call hevent hcancel hmap hgates)

/-! ### Every event -/

theorem does_onCancelReply (s : Executor) (reply : CancelReply)
    (response : Except String CancelResponse) (hevent : event.1 = .cancelReply reply response) :
    Does event s (s.onCancelReply reply response) := by
  unfold onCancelReply
  split
  · rename_i howed
    have htake : Does event s ({ s with cancelReplies := s.cancelReplies.erase reply }, []) :=
      does_act (.take reply response howed hevent) rfl
    cases reply with
    | navigation request => exact htake.trans (does_onNavigationCancelResponse _ _ _)
    | stop commandId => exact htake.trans (does_onCancelResponse _ _ _ hevent)
  · exact does_nil s

/-- **Step lemma.**  Whatever the event, the goals move by a chain of updates. -/
theorem step_acts (s : Executor) (event : ExecutorEvent × ClientAnswers) :
    Acts event s.goals (s.step config event).2 (s.step config event).1.goals := by
  obtain ⟨event, answers⟩ := event
  cases event with
  | handle call => exact does_handle config answers s call rfl
  | goalResponse request response => exact does_onGoalEvent answers s request response
  | navigationResult request response =>
    simp only [step]
    split
    · exact .nil _
    · rename_i owed hfind
      have htake : Does (.navigationResult request response, answers) s
          ({ s with navResults := s.navResults.erase owed }, []) :=
        does_act (.takeResult owed (List.mem_of_find?_eq_some hfind)) rfl
      exact htake.trans (does_onResult _ _ _)
  | cancelReply reply response => exact does_onCancelReply s reply response rfl
  | navigationFeedback commandId request distance =>
    exact does_onFeedback answers s commandId request distance
  | undockResponse request response =>
    exact does_onUndockEvent config answers s request response rfl
  | undockResult request response =>
    simp only [step]
    split
    · exact .nil _
    · rename_i owed hfind
      exact does_onUndockResult answers (List.mem_of_find?_eq_some hfind) response
  | undockFeedback commandId state hardwarePhase =>
    exact does_onUndockFeedback answers s commandId state hardwarePhase
  | undockHealth => exact does_checkUndockHealth config answers s
  | mapResponse request response =>
    simp only [step]
    split
    · rename_i howed
      exact does_onMapResponse answers howed response rfl
    · exact .nil _
  | mapResult request response =>
    simp only [step]
    split
    · rename_i howed
      exact does_onMapResult howed response
    · exact .nil _
  | mapFeedback requestId stage => exact does_onMapFeedback s requestId stage
  | mapConnection => exact does_checkMapConnection answers s false
  | serviceResult service commandId response =>
    simp only [step]
    split
    · rename_i howed
      exact does_onDockServiceResult howed response
    · exact .nil _
  | lidarResult commandId response =>
    simp only [step]
    split
    · rename_i howed
      exact does_onLidarResult answers howed response
    · exact .nil _
  | navigationContext base => exact does_updateNavigationContext s base
  | pathPoll => exact does_pollNavigationPath answers s
  | pathDone query => exact does_quiet rfl ⟨rfl, rfl⟩
  | pathReply query reply =>
    simp only [step]
    split
    · exact (does_onNavigationPath config _ query reply).of_goals rfl
    · exact .nil _

end Executor

end PatrolBot
