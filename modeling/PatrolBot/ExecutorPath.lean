import PatrolBot.ExecutorFollows

/-!
# The path of a blocked goal

A late reply of the path service, a feedback or a context that returns to its
earlier value must not revive a path that is no longer followed.  The goal is
known by the number of its request: once answered, the number never becomes the
active goal again, and while it is active its block stays.
-/

namespace PatrolBot

/-! ### The numbers of the destinations -/

/-- The request was sent, and waits for no response. -/
structure Goals.Answered (g : Goals) (number : Nat) : Prop where
  below : number < g.nextRequest
  gone : ∀ request ∈ g.navRequests, request.request ≠ number

/-- The unanswered destinations have different numbers, and none is the active goal's. -/
structure Goals.Issued (g : Goals) : Prop where
  below : ∀ request ∈ g.navRequests, request.request < g.nextRequest
  distinct : (g.navRequests.map (·.request)).Nodup
  active : ∀ active, g.active = some active → g.Answered active.request

section

variable {event : ExecutorEvent × ClientAnswers} {g g' : Goals} {emits : List ExecutorEmit}

theorem Act.answered (h : Act event g emits g') {number : Nat} (hg : g.Answered number) :
    g'.Answered number := by
  refine ⟨hg.below.trans_le h.nextRequest_le, ?_⟩
  rcases h.navRequests_subset with hsub | ⟨request, hcons, hnumber, -, -⟩
  · exact fun request hmem => hg.gone request (hsub hmem)
  · intro other hmem
    rw [hcons] at hmem
    rcases List.mem_cons.mp hmem with rfl | hmem
    · rw [hnumber]
      exact hg.below.ne'
    · exact hg.gone other hmem

theorem Goals.Issued.gone_erase (hg : g.Issued) {request : NavRequest}
    (howed : request ∈ g.navRequests) :
    ∀ other ∈ g.navRequests.erase request, other.request ≠ request.request := by
  intro other hmem heq
  have hnodup : g.navRequests.Nodup := .of_map _ hg.distinct
  obtain ⟨hne, hmem⟩ := hnodup.mem_erase_iff.mp hmem
  exact hne (List.inj_on_of_nodup_map hg.distinct hmem howed heq)

/-- The active goal stays, ends, or is a request just answered. -/
theorem Act.active_request (h : Act event g emits g') {active : RunningGoal}
    (hactive : g'.active = some active) :
    (∃ before, g.active = some before ∧ before.request = active.request) ∨
      ∃ request ∈ g.navRequests, request.request = active.request ∧
        g'.navRequests = g.navRequests.erase request := by
  cases h with
  | adopt request _ owed =>
    obtain rfl := Option.some.inj hactive
    exact .inr ⟨request, owed, rfl, rfl⟩
  | attach before _ active_eq =>
    obtain rfl := Option.some.inj hactive
    exact .inl ⟨before, active_eq, rfl⟩
  | claim before _ _ active_eq =>
    obtain rfl := Option.some.inj hactive
    exact .inl ⟨before, active_eq, rfl⟩
  | finish => simp at hactive
  | _ => exact .inl ⟨active, hactive, rfl⟩

theorem Act.issued (h : Act event g emits g') (hg : g.Issued) : g'.Issued := by
  have hbelow : ∀ request ∈ g'.navRequests, request.request < g'.nextRequest := by
    rcases h.navRequests_subset with hsub | ⟨request, hcons, hnumber, -, hnext⟩
    · exact fun request hmem => (hg.below request (hsub hmem)).trans_le h.nextRequest_le
    · intro other hmem
      rw [hcons] at hmem
      rcases List.mem_cons.mp hmem with rfl | hmem
      · omega
      · exact (hg.below other hmem).trans_le h.nextRequest_le
  refine ⟨hbelow, ?_, ?_⟩
  · have herase : ∀ request, ((g.navRequests.erase request).map (·.request)).Nodup :=
      fun _ => hg.distinct.sublist (List.erase_sublist.map _)
    cases h with
    | send request _ _ number =>
      refine List.nodup_cons.mpr ⟨fun hmem => ?_, hg.distinct⟩
      obtain ⟨other, howed, heq⟩ := List.mem_map.mp hmem
      exact (hg.below other howed).ne (heq.trans number)
    | turnDown request => exact herase request
    | adopt request => exact herase request
    | _ => exact hg.distinct
  · intro active hactive
    rcases h.active_request hactive with ⟨before, hbefore, heq⟩ | ⟨request, howed, heq, herased⟩
    · rw [← heq]
      exact h.answered (hg.active before hbefore)
    · rw [← heq]
      refine ⟨(hg.below request howed).trans_le h.nextRequest_le, ?_⟩
      rw [herased]
      exact hg.gone_erase howed

/-- A goal that is asked to cancel has been answered. -/
theorem Acts.answered_of_cancels (h : Acts event g emits g') (hg : g.Issued) {number : Nat}
    (hmem : (.navigation, number) ∈ cancels emits) : g'.Answered number := by
  induction h with
  | nil => exact absurd hmem List.not_mem_nil
  | cons first rest ih =>
    rw [cancels_append, List.mem_append] at hmem
    rcases hmem with hmem | hmem
    · refine rest.keeps (fun act => act.answered) ?_
      cases first.asked hmem with
      | running runs _ =>
        obtain ⟨active, hactive, rfl⟩ := runs
        exact first.answered (hg.active active hactive)
      | turnedDown request owed answered =>
        subst answered
        exact ⟨hg.below request owed, hg.gone_erase owed⟩
    · exact ih (first.issued hg) hmem

end

namespace Executor

variable (config : ExecutorConfig)

/-! ### A blocked goal -/

/-- The event blocks the goal: a cancel is requested for it, or it is active while the
    context changes or the motors are disabled.  A cancel that came before the
    acceptance is requested with it. -/
def Blocks (s : Executor) (event : ExecutorEvent × ClientAnswers) (request : Nat) : Prop :=
  .cancelNavigation request ∈ (s.step config event).2 ∨
  ∃ active, s.active = some active ∧ active.request = request ∧
    (Disables event ∨ ∃ base, event.1 = .navigationContext base ∧
      s.navigationContext ≠ some base.navigationContext)

/-- The goal was answered, and is blocked if it is the active one. -/
structure Blocked (number : Nat) (s : Executor) : Prop where
  answered : s.goals.Answered number
  blocked : ∀ active, s.active = some active → active.request = number →
    active.pathBlocked = true

/-- What the flags and numbers of every reachable state satisfy. -/
structure PathSound (s : Executor) : Prop where
  issued : s.goals.Issued
  guarded : ∀ active, s.active = some active → active.Guarded

theorem pathSound_init : ({} : Executor).PathSound :=
  ⟨⟨by simp [goals], by simp [goals], by simp [goals]⟩, by simp⟩

theorem PathSound.answered {s : Executor} (h : s.PathSound) {active : ActiveGoal}
    (hactive : s.active = some active) : s.goals.Answered active.request :=
  h.issued.active active.running (goals_active hactive)

/-- `step_follows`, from a reachable state. -/
theorem PathSound.follows {s : Executor} (h : s.PathSound)
    (event : ExecutorEvent × ClientAnswers) :
    Follows s.active (s.step config event) ∨ Adopts s (s.step config event) ∨
      Reports s (s.step config event) :=
  step_follows config
    (fun _ hactive request hmem => ((h.answered hactive).gone request hmem).symm) event

/-- The active goal is the one before, or a request that was unanswered. -/
theorem active_step {s : Executor} (hsound : s.PathSound)
    (event : ExecutorEvent × ClientAnswers) {after : ActiveGoal}
    (hafter : (s.step config event).1.active = some after) :
    (∃ before, s.active = some before ∧ before.Continues after) ∨
      ∃ request ∈ s.navRequests, request.request = after.request ∧ after.Guarded := by
  rcases hsound.follows config event with h | ⟨request, howed, context, h⟩ | h
  · exact .inl (h.goal after hafter)
  · obtain ⟨fresh, hfresh, hcontinues⟩ := h.goal after hafter
    obtain rfl := Option.some.inj hfresh
    exact .inr ⟨request, howed, hcontinues.request.symm,
      hcontinues.guarded (fun hblocked => by simp at hblocked)⟩
  · exact .inl (h.goal after hafter)

theorem pathSound_step {s : Executor} (event : ExecutorEvent × ClientAnswers)
    (h : s.PathSound) : (s.step config event).1.PathSound := by
  refine ⟨(step_acts config s event).keeps Act.issued h.issued, fun after hafter => ?_⟩
  rcases active_step config h event hafter with ⟨before, hbefore, hcontinues⟩ | ⟨_, _, _, hguarded⟩
  · exact hcontinues.guarded (h.guarded before hbefore)
  · exact hguarded

/-- **Step lemma.**  A blocked goal stays blocked. -/
theorem blocked_step {number : Nat} {s : Executor} (hsound : s.PathSound)
    (event : ExecutorEvent × ClientAnswers) (h : Blocked number s) :
    Blocked number (s.step config event).1 := by
  refine ⟨(step_acts config s event).keeps (fun act => act.answered) h.answered, ?_⟩
  intro after hafter hnumber
  rcases active_step config hsound event hafter with
    ⟨before, hbefore, hcontinues⟩ | ⟨request, howed, hrequest, -⟩
  · exact hcontinues.blocked (h.blocked before hbefore (hcontinues.request ▸ hnumber))
  · exact absurd (hrequest.trans hnumber) (h.answered.gone request howed)

/-- A valid path is shown of the active goal, while it is not blocked. -/
theorem unblocked_of_shown {s : Executor} (hsound : s.PathSound)
    {event : ExecutorEvent × ClientAnswers} {id : String}
    (hmem : id ∈ shown (s.step config event).2) :
    ∃ active, s.active = some active ∧ active.commandId = id ∧ active.pathBlocked = false := by
  rcases hsound.follows config event with h | ⟨_, _, _, h⟩ | h
  · simp [h.dark] at hmem
  · simp [h.dark] at hmem
  · obtain ⟨active, hactive, hid, hunblocked⟩ := h.shown id hmem
    exact ⟨active, hactive, hid, hunblocked (hsound.guarded active hactive)⟩

/-- The event that blocks a goal leaves it blocked, and shows no valid path. -/
theorem blocked_of_blocks {s : Executor} (hsound : s.PathSound)
    {event : ExecutorEvent × ClientAnswers} {request : Nat} (h : Blocks config s event request) :
    Blocked request (s.step config event).1 ∧ shown (s.step config event).2 = [] := by
  have hacts := step_acts config s event
  rcases h with hcancel | ⟨active, hactive, rfl, hdisables | ⟨base, hbase, hchanged⟩⟩
  · have hmem : (.navigation, request) ∈ cancels (s.step config event).2 :=
      List.mem_filterMap.mpr ⟨_, hcancel, rfl⟩
    have hanswered := hacts.answered_of_cancels hsound.issued hmem
    rcases hsound.follows config event with h | ⟨_, _, _, h⟩ | h
    · exact ⟨⟨hanswered, h.halted request hmem⟩, h.dark⟩
    · exact ⟨⟨hanswered, h.halted request hmem⟩, h.dark⟩
    · simp [h.silent] at hmem
  · have hanswered := hacts.keeps (fun act => act.answered) (hsound.answered hactive)
    obtain ⟨call, answers, rfl, hcommand, hseed, hauthorized⟩ := hdisables
    rw [step_of_disables config answers hcommand hseed hauthorized] at hanswered ⊢
    obtain ⟨marked, hafter⟩ := active_motorDisable config answers s call.request.commandId
    refine ⟨⟨hanswered, fun after h _ => ?_⟩, (follows_motorDisable config answers s _).dark⟩
    rw [hafter, hactive] at h
    obtain rfl := Option.some.inj h
    rfl
  · have hanswered := hacts.keeps (fun act => act.answered) (hsound.answered hactive)
    obtain ⟨_, answers⟩ := event
    obtain rfl := hbase
    have hstep : s.step config (.navigationContext base, answers) = clearNavigationPath
        { s with navigationContext := some base.navigationContext
                 active := some { active with pathBlocked := true } } := by
      simp [step, updateNavigationContext, hchanged, hactive]
    rw [hstep] at hanswered ⊢
    refine ⟨⟨hanswered, fun after h _ => ?_⟩, shown_clearNavigationPath _⟩
    rw [active_clearNavigationPath] at h
    obtain rfl := Option.some.inj h
    rfl

/-! ### Runs -/

/-- From the event that blocks a goal on, no valid path is shown for it: what is shown
    later is shown for another goal, the active one at that time. -/
def NeverRevived (events : List (ExecutorEvent × ClientAnswers)) : Prop :=
  ∀ before blocking after request, events = before ++ blocking :: after →
    Blocks config ((commandExecutor config).run {} before) blocking request →
    shown ((commandExecutor config).step ((commandExecutor config).run {} before) blocking).2 = [] ∧
    ∀ middle later rest, after = middle ++ later :: rest →
      ∀ id ∈ shown ((commandExecutor config).step
          ((commandExecutor config).run {} (before ++ blocking :: middle)) later).2,
        ∃ active, ((commandExecutor config).run {} (before ++ blocking :: middle)).active =
          some active ∧ active.commandId = id ∧ active.request ≠ request

theorem pathSound_run (events : List (ExecutorEvent × ClientAnswers)) :
    ((commandExecutor config).run {} events).PathSound :=
  (commandExecutor config).invariant PathSound (fun _ event _ h => pathSound_step config event h)
    pathSound_init ((commandExecutor config).along_true {} events)

/-- **Run lemma.**  A goal that was blocked is blocked in every later state. -/
theorem blocked_run {number : Nat} {s : Executor} (hsound : s.PathSound)
    (h : Blocked number s) (events : List (ExecutorEvent × ClientAnswers)) :
    Blocked number ((commandExecutor config).run s events) :=
  ((commandExecutor config).invariant (fun s => s.PathSound ∧ Blocked number s)
    (fun _ event _ h => ⟨pathSound_step config event h.1, blocked_step config h.1 event h.2⟩)
    ⟨hsound, h⟩ ((commandExecutor config).along_true s events)).2

/-- **No path of a blocked goal.**  In every run, whatever the order of polls, replies,
    feedback, commands and context updates. -/
theorem neverRevived_run (events : List (ExecutorEvent × ClientAnswers)) :
    NeverRevived config events := by
  rintro before blocking after request rfl hblocks
  have hsound := pathSound_run config before
  obtain ⟨hblocked, hdark⟩ := blocked_of_blocks config hsound hblocks
  refine ⟨hdark, ?_⟩
  rintro middle later rest rfl id hmem
  obtain ⟨active, hactive, hid, hunblocked⟩ :=
    unblocked_of_shown config (pathSound_run config (before ++ blocking :: middle)) hmem
  refine ⟨active, hactive, hid, fun hrequest => ?_⟩
  have hlater := blocked_run config (pathSound_step config blocking hsound) hblocked middle
  rw [Machine.run_append] at hactive
  simp [hlater.blocked active hactive hrequest] at hunblocked

/-- A path is shown and reported until the session changes.  A feedback and the reply to a
    poll from before show nothing once the session is back. -/
example :
    let onMap (session : Int) : ExecutorEvent × ClientAnswers :=
      (.navigationContext { readyBase with sessionGeneration := session }, allReady)
    let planned (token : Nat) : ExecutorEvent × ClientAnswers :=
      (.pathReply ⟨token, 0⟩ (.planned ⟨"map", 1, [⟨(.finite 1, .finite 2, .finite 0),
        (.finite 0, .finite 0, .finite 0, .finite 1)⟩]⟩), allReady)
    let feedback (now : ℚ) : ExecutorEvent × ClientAnswers :=
      (.navigationFeedback "go" 0 (some (.finite 3)), { allReady with now := now })
    shown (emitted ((commandExecutor fullRobot).trace {} [onMap 1,
      readyFrame "go" .navigateToPose, (.goalResponse 0 .accepted, allReady),
      (.pathPoll, allReady), planned 1, feedback 10, (.pathDone ⟨1, 0⟩, allReady),
      (.pathPoll, allReady), onMap 2, onMap 1, planned 2, feedback 12])) = ["go", "go"] := by
  decide +kernel

end Executor

end PatrolBot
