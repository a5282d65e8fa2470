import PatrolBot.ExecutorOwners

/-!
# One motion owner at a time

Navigation (active or asked for), undock and map localization exclude each
other.  `_navigate` and `_undock` look at each other's slots before they send a
request; `_set_initial_pose` looks at the active goal only, and `_undock` at
the pending slot rather than at the requests that are still unanswered.  The
exclusion holds in every state of a run exactly when no frame starts an owner
through one of these two gaps.
-/

namespace PatrolBot

namespace Owners

/-- A navigation goal is active, or a request for one is unanswered. -/
def Navigating (o : Owners) : Prop := o.active.isSome = true ∨ o.navRequests ≠ []

/-- At most one of the three owners holds the robot. -/
structure Single (o : Owners) : Prop where
  undock : o.Navigating → o.undock = false
  map : o.Navigating → o.map = false
  docking : o.undock = true → o.map = false

theorem Single.of_navigating {o o' : Owners} (h : o.Single) (hundock : o'.undock = o.undock)
    (hmap : o'.map = o.map) (hnavigating : o'.Navigating → o.Navigating) : o'.Single :=
  ⟨fun hn => hundock ▸ h.undock (hnavigating hn), fun hn => hmap ▸ h.map (hnavigating hn),
    by rw [hundock, hmap]; exact h.docking⟩

/-- An owner that starts while nothing else holds the robot is the only one. -/
theorem Single.of_idle {o' : Owners} (hundock : o'.undock = false ∨ o'.map = false)
    (hidle : ¬ o'.Navigating) : o'.Single :=
  ⟨fun hn => absurd hn hidle, fun hn => absurd hn hidle, fun h => by
    rcases hundock with hundock | hmap
    · simp [h] at hundock
    · exact hmap⟩

end Owners

namespace Executor

variable (config : ExecutorConfig)

/-- The executor has at most one motion owner. -/
def SingleOwner (s : Executor) : Prop := s.owners.Single

/-- The frame starts no owner next to a navigation request that is still
    unanswered, and no map localization next to an undock. -/
def StartsAlone (s : Executor) (event : ExecutorEvent × ClientAnswers) : Prop :=
  match event with
  | (.handle call, answers) =>
    (StartsMap answers s call → s.navRequests = [] ∧ s.undockActive = none) ∧
      (StartsUndock config answers s call → s.navRequests = [])
  | _ => True

theorem active_of_undockRefusal {answers : ClientAnswers} {s : Executor} {authorized : Bool}
    (h : s.undockRefusal config answers authorized = none) : s.active = none := by
  unfold undockRefusal at h
  by_cases hbusy : s.active.isSome ∨ s.navPending.isSome
  · simp only [hbusy, if_true] at h
    split at h
    · simp at h
    · split at h
      · simp at h
      · split at h
        · simp at h
        · split at h <;> simp at h
  · simpa using fun hactive => hbusy (.inl hactive)

/-- **Step lemma.**  A step that starts its owner alone keeps the owner single. -/
theorem singleOwner_step {s : Executor} {event : ExecutorEvent × ClientAnswers}
    (hguard : StartsAlone config s event) (h : s.SingleOwner) :
    (s.step config event).1.SingleOwner := by
  obtain ⟨o, hstep, hleaves⟩ := step_moves config s event
  unfold SingleOwner
  rw [hleaves.owners]
  have hrequests : ∀ request, request ∈ s.navRequests → s.owners.Navigating :=
    fun request howed => .inr (List.ne_nil_of_mem howed)
  have hanswer : ∀ request, (s.owners.answer request).Navigating → s.owners.Navigating := by
    rintro request (hactive | howed)
    · exact .inl hactive
    · exact .inr fun hnone => howed (by simp [Owners.answer, hnone])
  cases hstep with
  | keep => exact h
  | mark _ _ commandId => exact h.of_navigating rfl rfl id
  | disable => exact h.of_navigating rfl rfl id
  | enter _ _ context => exact h.of_navigating rfl rfl id
  | finish =>
    exact h.of_navigating rfl rfl fun hn => .inr (hn.resolve_left (by simp [Owners.finish]))
  | send call answers _ hundock hmap _ _ =>
    refine ⟨fun _ => ?_, fun _ => ?_, fun hdocked => ?_⟩
    · simp [Owners.owe, Owners.send, owners, hundock]
    · simp [Owners.owe, Owners.send, owners, hmap]
    · simp [Owners.owe, Owners.send, owners, hundock] at hdocked
  | sendRaised => exact h.of_navigating rfl rfl id
  | drop request _ _ _ howed => exact h.of_navigating rfl rfl (hanswer request)
  | decline request _ _ howed =>
    unfold Owners.clear
    split
    · exact h.of_navigating rfl rfl (hanswer request)
    · exact h.of_navigating rfl rfl (hanswer request)
  | adopt request _ _ howed =>
    have hclear : ∀ o : Owners, (o.clear request.commandId).undock = o.undock ∧
        (o.clear request.commandId).map = o.map := by
      intro o
      unfold Owners.clear
      split <;> exact ⟨rfl, rfl⟩
    exact h.of_navigating (hclear _).1 (hclear _).2 fun _ => hrequests request howed
  | undock call answers _ hstarts =>
    have hfree := hguard.2 hstarts
    have hactive := active_of_undockRefusal config hstarts.idle
    refine .of_idle (.inr ?_) ?_
    · simp [owners, mapActive_of_refusal hstarts.gates]
    · simp [Owners.Navigating, owners, hactive, hfree]
  | endUndock =>
    exact ⟨fun _ => rfl, h.map, by simp⟩
  | map call answers _ hstarts =>
    obtain ⟨hfree, hundock⟩ := hguard.1 hstarts
    have hactive : s.active = none := by
      have hidle := hstarts.idle
      simp only [setInitialPoseRefused, Bool.or_eq_false_iff] at hidle
      simpa using hidle.1.2
    refine .of_idle (.inl ?_) ?_
    · simp [owners, hundock]
    · simp [Owners.Navigating, owners, hactive, hfree]
  | endMap => exact ⟨h.undock, fun _ => rfl, fun _ => rfl⟩

/-! ### What a start leaves behind -/

theorem lidarRefusal_of_refusal {answers : ClientAnswers} {s : Executor} {call : HandleCall}
    (h : s.refusal answers call = none) : s.lidarRefusal answers call = none := by
  unfold refusal at h
  split at h
  · simp at h
  · assumption

/-- Behind the gates a map localization or an undock is dispatched. -/
theorem handle_of_gates {answers : ClientAnswers} {s : Executor} {call : HandleCall}
    (hcommand : call.request.command = .setInitialPose ∨ call.request.command = .undock)
    (hseed : invalidSeed call.request = false) (hgates : s.refusal answers call = none) :
    s.handle config answers call = s.dispatch config answers call := by
  have hlog : overrideLog call = [] := by
    rcases hcommand with hcommand | hcommand <;> simp [overrideLog, hcommand]
  have hgated : s.gated config answers call = s.dispatch config answers call := by
    simp [gated, lidarRefusal_of_refusal hgates, mapActive_of_refusal hgates, hgates, hlog,
      andThen]
  rcases hcommand with hcommand | hcommand <;> simp [handle, hseed, hcommand, hgated]

theorem owners_of_startsMap {answers : ClientAnswers} {s : Executor} {call : HandleCall}
    (h : StartsMap answers s call) :
    (s.handle config answers call).1.owners = { s.owners with map := true } := by
  obtain ⟨hcommand, hseed, hgates, ⟨goal, hgoal, hpose⟩, hidle⟩ := h
  rw [handle_of_gates config (.inl hcommand) hseed hgates]
  simp only [dispatch, hcommand, hgoal, setInitialPose, hidle, Bool.false_eq_true, if_false,
    Option.isNone_iff_eq_none, Option.ne_none_iff_isSome.mpr hpose]
  split <;> rfl

theorem owners_of_startsUndock {answers : ClientAnswers} {s : Executor} {call : HandleCall}
    (h : StartsUndock config answers s call) :
    (s.handle config answers call).1.owners = { s.owners with undock := true } := by
  obtain ⟨hcommand, hseed, hgates, hidle, hsends⟩ := h
  rw [handle_of_gates config (.inr hcommand) hseed hgates]
  simp only [dispatch, hcommand, undock, hidle, hsends, Bool.false_eq_true, if_false]
  rfl

/-- A start through one of the gaps leaves two owners. -/
theorem startsAlone_of_singleOwner {s : Executor} {event : ExecutorEvent × ClientAnswers}
    (h : (s.step config event).1.SingleOwner) : StartsAlone config s event := by
  unfold StartsAlone
  split
  · rename_i call answers
    unfold SingleOwner step at h
    refine ⟨fun hstarts => ?_, fun hstarts => ?_⟩
    · rw [owners_of_startsMap config hstarts] at h
      refine ⟨?_, ?_⟩
      · by_contra hrequests
        exact absurd (h.map (.inr hrequests)) (by simp)
      · by_contra hundock
        have := h.docking (by
          simpa [owners, Option.isSome_iff_ne_none] using hundock)
        simp at this
    · rw [owners_of_startsUndock config hstarts] at h
      by_contra hrequests
      exact absurd (h.undock (.inr hrequests)) (by simp)
  · trivial

/-- **Single motion owner.**  In a run every state has at most one of
    navigation (a goal active or a request for one unanswered), undock and map
    localization, if and only if every frame of the run that starts one of the
    last two starts it alone. -/
theorem singleOwner_run_iff (events : List (ExecutorEvent × ClientAnswers)) :
    (∀ before after, events = before ++ after →
        ((commandExecutor config).run {} before).SingleOwner) ↔
      (commandExecutor config).Along (StartsAlone config) {} events := by
  constructor
  · intro hall
    suffices key : ∀ before after, events = before ++ after →
        (commandExecutor config).Along (StartsAlone config)
          ((commandExecutor config).run {} before) after by
      simpa using key [] events rfl
    intro before after hevents
    induction after generalizing before with
    | nil => trivial
    | cons event after ih =>
      have hsplit : events = (before ++ [event]) ++ after := by simpa using hevents
      have hnext := hall (before ++ [event]) after hsplit
      have hrest := ih (before ++ [event]) hsplit
      simp only [Machine.run_append, Machine.run_cons, Machine.run_nil] at hnext hrest
      exact ⟨startsAlone_of_singleOwner config hnext, hrest⟩
  · intro halong before after hevents
    rw [hevents, Machine.along_append] at halong
    refine (commandExecutor config).invariant SingleOwner
      (fun s event hguard h => singleOwner_step config hguard h) ?_ halong.1
    exact ⟨fun hn => by simp [Owners.Navigating, owners] at hn,
      fun hn => by simp [Owners.Navigating, owners] at hn, fun h => by simp [owners] at h⟩

/-- A pose set while a destination is still unanswered: two owners. -/
theorem not_singleOwner_of_pose_while_pending :
    ¬ ((commandExecutor fullRobot).run {}
        [readyFrame "go" .navigateToPose, readyFrame "pose" .setInitialPose]).SingleOwner := by
  intro h
  have hnavigating : ((commandExecutor fullRobot).run {}
      [readyFrame "go" .navigateToPose, readyFrame "pose" .setInitialPose]).navRequests.isEmpty
        = false := by decide +kernel
  have hmap : ((commandExecutor fullRobot).run {}
      [readyFrame "go" .navigateToPose, readyFrame "pose" .setInitialPose]).mapActive.isSome
        = true := by decide +kernel
  have hfree := h.map (.inr (by simpa [owners] using hnavigating))
  exact absurd (hmap.symm.trans hfree) (by decide)

end Executor

end PatrolBot
