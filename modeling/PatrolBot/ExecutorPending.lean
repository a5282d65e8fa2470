import PatrolBot.ExecutorOwners

/-!
# The pending navigation slot

`_nav_pending` is set when a destination is sent and has to be empty again once
its response is in, or undock and manual drive stay refused.  The response
callback clears it when the goal is declined or adopted; when it raises, when a
motor disable came in between, or when the navigation context changed, it
returns with the slot still set.
-/

namespace PatrolBot

namespace Executor

variable (config : ExecutorConfig)

/-- The check of the executor's slots before manual drive: one of them is taken. -/
def ownsRobot (s : Executor) : Bool :=
  s.active.isSome || s.navPending.isSome || s.mapActive.isSome || s.undockActive.isSome ||
    s.lidarPending.isSome

/-- With every navigation request answered the slot is empty, so that without an
    active goal no undock is refused for a destination, and manual drive is
    refused for another owner only. -/
def NoStalePending (s : Executor) : Prop :=
  s.navRequests = [] → s.navPending = none ∧
    (s.active = none → ∀ answers authorized,
      s.undockRefusal config answers authorized ≠ some ("The robot is driving to a " ++
        "destination. Stop it before backing it off the dock.")) ∧
    (s.ownsRobot = true →
      s.active.isSome ∨ s.mapActive.isSome ∨ s.undockActive.isSome ∨ s.lidarPending.isSome)

theorem noStalePending_of_empty {s : Executor} (h : s.navRequests = [] → s.navPending = none) :
    s.NoStalePending config := by
  intro hnone
  have hslot := h hnone
  refine ⟨hslot, fun hactive answers authorized hrefused => ?_, fun howns => ?_⟩
  · simp only [undockRefusal, hactive, hslot, Option.isSome_none, Bool.false_eq_true, or_self,
      if_false] at hrefused
    split at hrefused
    · simp at hrefused
    · split at hrefused
      · simp at hrefused
      · split at hrefused
        · simp at hrefused
        · split at hrefused <;> simp at hrefused
  · simpa [ownsRobot, hslot, or_assoc] using howns

/-- The response of the request that holds the slot leads to a branch that
    clears it, and a destination that cannot be sent does not raise. -/
def ClearsSlot (s : Executor) (event : ExecutorEvent × ClientAnswers) : Prop :=
  match event with
  | (.handle _, answers) => answers.sendRaises .navigation = false
  | (.goalResponse number response, _) =>
    ∀ pending request, s.navPending = some pending → request ∈ s.navRequests →
      pending.request = number → request.request = number →
      match response with
      | .raised _ => False
      | .declined => True
      | .accepted => request.generation = s.motorDisableGeneration ∧
          (request.context = none ∨ request.context = s.navigationContext)
  | _ => True

/-- The request that holds the slot is unanswered, and it is the newest. -/
structure PendingOwed (s : Executor) : Prop where
  numbered : s.Numbered
  owed : ∀ pending, s.navPending = some pending → ∃ request ∈ s.navRequests,
    request.request = pending.request ∧ request.commandId = pending.commandId ∧
      request.navigationGeneration = s.navigationGeneration

theorem PendingOwed.noStalePending {s : Executor} (h : s.PendingOwed) :
    s.NoStalePending config := by
  refine noStalePending_of_empty config fun hnone => ?_
  cases hpending : s.navPending with
  | none => rfl
  | some pending =>
    obtain ⟨request, hmem, -⟩ := h.owed pending hpending
    simp [hnone] at hmem

/-- **Step lemma.**  A step whose response clears the slot keeps it owed. -/
theorem pendingOwed_step {s : Executor} {event : ExecutorEvent × ClientAnswers}
    (hguard : ClearsSlot s event) (h : s.PendingOwed) : (s.step config event).1.PendingOwed := by
  obtain ⟨o, hstep, hleaves⟩ := step_moves config s event
  refine ⟨numbered_step config event h.numbered, ?_⟩
  have hpending : (s.step config event).1.navPending = o.pending := by rw [← hleaves.owners]; rfl
  have hrequests : (s.step config event).1.navRequests = o.navRequests := by
    rw [← hleaves.owners]; rfl
  have hgeneration : (s.step config event).1.navigationGeneration = o.navigationGeneration := by
    rw [← hleaves.owners]; rfl
  rw [hpending, hrequests, hgeneration]
  -- An answer to another request leaves the slot's request unanswered.
  have hother : ∀ request ∈ s.navRequests, ∀ pending, s.navPending = some pending →
      request.request ≠ pending.request → ∃ owed ∈ s.navRequests.erase request,
        owed.request = pending.request ∧ owed.commandId = pending.commandId ∧
          owed.navigationGeneration = s.navigationGeneration := by
    intro request hmem pending hslot hne
    obtain ⟨owed, howed, hnumber, hsame⟩ := h.owed pending hslot
    refine ⟨owed, ?_, hnumber, hsame⟩
    have hsplit : owed ≠ request := by
      rintro rfl
      exact hne hnumber
    exact (List.mem_erase_of_ne hsplit).mpr howed
  have hclear : ∀ request ∈ s.navRequests, ∀ pending,
      ((s.owners.answer request).clear request.commandId).pending = some pending →
      s.navPending = some pending ∧ request.request ≠ pending.request := by
    intro request hmem pending hslot
    have hslot' : s.navPending = some pending := by
      unfold Owners.clear at hslot
      split at hslot
      · simp at hslot
      · exact hslot
    refine ⟨hslot', fun heq => ?_⟩
    obtain ⟨owed, howed, hnumber, hid, -⟩ := h.owed pending hslot'
    obtain rfl := h.numbered.eq_of_request hmem howed (heq.trans hnumber.symm)
    have hcleared : (s.owners.answer request).pendingFor request.commandId = some pending := by
      simp [Owners.pendingFor, Owners.answer, owners, hslot', hid]
    simp [Owners.clear, hcleared] at hslot
  cases hstep with
  | keep => exact h.owed
  | mark _ _ commandId =>
    intro pending hslot
    obtain ⟨old, hold, rfl⟩ := Option.map_eq_some_iff.mp hslot
    obtain ⟨request, hmem, hnumber, hid, hnewest⟩ := h.owed old hold
    refine ⟨request, hmem, ?_⟩
    split <;> exact ⟨hnumber, hid, hnewest⟩
  | disable => exact h.owed
  | enter => exact h.owed
  | finish => exact h.owed
  | send call answers _ _ _ _ _ =>
    intro pending hslot
    obtain rfl := Option.some.inj hslot
    exact ⟨_, List.mem_cons_self, rfl, rfl, rfl⟩
  | sendRaised call answers _ _ _ hraises =>
    exact absurd (hraises.symm.trans hguard) (by decide)
  | drop request answers response _ howed hunwanted hkept =>
    intro pending hslot
    refine hother request howed pending hslot fun heq => ?_
    have hclears := hguard pending request hslot howed heq.symm rfl
    cases response with
    | raised error => exact hclears
    | declined => exact hkept rfl
    | accepted =>
      obtain ⟨owed, hmem, hnumber, -, hnewest⟩ := h.owed pending hslot
      obtain rfl := h.numbered.eq_of_request howed hmem (heq.trans hnumber.symm)
      refine hunwanted rfl ⟨hclears.1, hnewest, fun hcontext => ?_⟩
      rcases hclears.2 with hnone | hsame
      · simp [hnone] at hcontext
      · exact hcontext.2 hsame
  | decline request answers _ howed =>
    intro pending hslot
    obtain ⟨hslot', hne⟩ := hclear request howed pending hslot
    rw [navRequests_clear]
    have hgen : ((s.owners.answer request).clear request.commandId).navigationGeneration =
        s.navigationGeneration := by
      unfold Owners.clear
      split <;> rfl
    rw [hgen]
    exact hother request howed pending hslot' hne
  | adopt request answers _ howed =>
    intro pending hslot
    obtain ⟨hslot', hne⟩ := hclear request howed pending hslot
    have hgen : ((s.owners.answer request).clear request.commandId).navigationGeneration =
        s.navigationGeneration := by
      unfold Owners.clear
      split <;> rfl
    show ∃ owed ∈ ((s.owners.answer request).clear request.commandId).navRequests, _ ∧ _ ∧
      _ = ((s.owners.answer request).clear request.commandId).navigationGeneration
    rw [navRequests_clear, hgen]
    exact hother request howed pending hslot' hne
  | undock => exact h.owed
  | endUndock => exact h.owed
  | map => exact h.owed
  | endMap => exact h.owed

/-- **No stale pending owner.**  In every run in which the response to the
    request that holds the slot takes a branch that clears it, the slot is empty
    in every state without an unanswered navigation request, and nothing is
    refused on its account. -/
theorem noStalePending_run (events : List (ExecutorEvent × ClientAnswers))
    (halong : (commandExecutor config).Along ClearsSlot {} events)
    (before after : List (ExecutorEvent × ClientAnswers)) (hevents : events = before ++ after) :
    ((commandExecutor config).run {} before).NoStalePending config := by
  rw [hevents, Machine.along_append] at halong
  refine PendingOwed.noStalePending config ?_
  refine (commandExecutor config).invariant PendingOwed
    (fun s event hguard h => pendingOwed_step config hguard h) ?_ halong.1
  exact ⟨numbered_init, by simp⟩

/-- A destination that is declined leaves no slot behind. -/
theorem noStalePending_after_declined :
    ((commandExecutor fullRobot).run {}
      [readyFrame "go" .navigateToPose, (.goalResponse 0 .declined, allReady)]).NoStalePending
        fullRobot :=
  noStalePending_run fullRobot
    [readyFrame "go" .navigateToPose, (.goalResponse 0 .declined, allReady)]
    ⟨rfl, fun _ _ _ _ _ _ => trivial, trivial⟩ _ [] rfl

/-- A destination accepted after a motor disable leaves the slot set with nothing
    outstanding. -/
theorem not_noStalePending_of_motor_disable :
    ¬ ((commandExecutor fullRobot).run {}
      [readyFrame "go" .navigateToPose, readyFrame "off" .motorDisable,
        (.goalResponse 0 .accepted, allReady)]).NoStalePending fullRobot := by
  intro h
  have hanswered : ((commandExecutor fullRobot).run {}
      [readyFrame "go" .navigateToPose, readyFrame "off" .motorDisable,
        (.goalResponse 0 .accepted, allReady)]).navRequests = [] := by decide +kernel
  have hslot : ((commandExecutor fullRobot).run {}
      [readyFrame "go" .navigateToPose, readyFrame "off" .motorDisable,
        (.goalResponse 0 .accepted, allReady)]).navPending.isSome = true := by decide +kernel
  rw [(h hanswered).1] at hslot
  exact absurd hslot (by decide)

end Executor

end PatrolBot
